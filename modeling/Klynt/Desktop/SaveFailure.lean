import Klynt.Domain.Text
import Klynt.Desktop.LayoutWire
import Klynt.Desktop.LocalStorage
import Klynt.Desktop.TenantAdapter
import Klynt.Routing.HostContext

set_option relaxedAutoImplicit false
set_option autoImplicit false

/-!
# Failed saves of a shared layout

A save that the server refuses comes back as an error, which passes the interceptors of the client
before the adapter looks at it.

## Main definitions

* `JsError`, `AxiosError`, `ApiError` — errors.
* `convertErrorKeys`, `handleUnauthorized`, `clientRejection` — the interceptors, one after the
  other.
* `TenantApiAdapter.save` — what the adapter reports.
* `Classified` — a report that tells the failures apart by their status.

## Main results

* `save_classified_iff` — a failure is told by its status iff it is neither a conflict nor
  forbidden.
* `save_classified_direct` — the adapter tells every failure that no interceptor has replaced.

## Implementation notes

The message of an error is the value that it is made of; that it becomes a text is left out.
-/

namespace Klynt

/-! ## Errors -/

/-- The answer to a failed request. -/
structure AxiosResponse where
  /-- The status. -/
  status : ℕ
  /-- The body, unless it is undefined. -/
  data : Option Wire

/-- A failed request. -/
structure AxiosError where
  /-- The message. -/
  message : String
  /-- The URL of the request, if there is one. -/
  url : Option String
  /-- The answer, if there is one. -/
  response : Option AxiosResponse

/-- An error of the interface. -/
structure ApiError where
  /-- The value of the message. -/
  message : Wire
  /-- The status. -/
  status : ℕ
  /-- The code. -/
  code : String

/-- `isUnauthorized`. -/
def ApiError.isUnauthorized (error : ApiError) : Bool := error.status = 401

/-- What a promise is rejected with. -/
inductive JsError where
  /-- A failed request. -/
  | axios (error : AxiosError)
  /-- An error of the interface. -/
  | api (error : ApiError)
  /-- Another error. -/
  | thrown (message : String)
  /-- Something that is no error. -/
  | other

/-- A property of a value that may be undefined: the last member of the name. -/
def optionalProperty (key : String) : Option Wire → Option Wire
  | some (.obj members) => (members.reverse.find? fun m => m.1 = key).map (·.2)
  | _ => none

/-- `value ?? fallback`. -/
def nullish (value : Option Wire) (fallback : Wire) : Wire :=
  match value with
  | none | some .null => fallback
  | some value => value

/-! ## The interceptors -/

/-- The conversion of keys. -/
def convertErrorKeys (humps : KeyConversion) : JsError → JsError
  | .axios error =>
    .axios { error with
      response := error.response.map fun response =>
        { response with data := response.data.map (Wire.convertKeys humps.camelize) } }
  | error' => error'

section Unauthorized

variable [Unicode]

/-- `code?.toLowerCase() ?? "UNKNOWN_ERROR"`: only texts have the method. -/
def errorCode : Option Wire → Except String String
  | none | some .null => .ok "UNKNOWN_ERROR"
  | some (.str code) => .ok (toLowercase code)
  | some _ => .error "toLowerCase is not a function"

/-- `createApiError`, or the message of the error that it throws. -/
def createApiError : JsError → Except String ApiError
  | .axios error => do
    let status := (error.response.map AxiosResponse.status).getD 0
    let data := error.response.bind AxiosResponse.data
    let message := nullish (optionalProperty "message" data)
      (nullish (optionalProperty "error" data) (.str error.message))
    return { message, status, code := ← errorCode (optionalProperty "code" data) }
  | .api error => .ok { message := error.message, status := 0, code := "UNKNOWN_ERROR" }
  | .thrown message => .ok { message := .str message, status := 0, code := "UNKNOWN_ERROR" }
  | .other =>
    .ok { message := .str "An unexpected error occurred", status := 0, code := "UNKNOWN_ERROR" }

/-- `AUTH_ENDPOINTS`. -/
def authEndpoints : List String := ["/auth/login", "/auth/register", "/auth/refresh"]

/-- A line of the log. -/
inductive LogLine where
  /-- The session is cleared. -/
  | cleared (url : Option String)
  /-- The server failed. -/
  | serverError (status : ℕ) (code : String) (url : Option String)
  deriving DecidableEq

/-- What an interceptor does with an error. -/
structure Rejection where
  /-- What the promise is rejected with. -/
  error : JsError
  /-- Whether the session is cleared. -/
  clearsSession : Bool := false
  /-- What is logged. -/
  log : List LogLine := []

/-- The URL of an error, if it is a failed request. -/
def JsError.url : JsError → Option String
  | .axios error => error.url
  | _ => none

/-- `handleUnauthorized`. -/
def handleUnauthorized (error : JsError) : Rejection :=
  match createApiError error with
  | .error message => { error := .thrown message }
  | .ok apiError =>
    let isAuthEndpoint := error.url.any fun url => authEndpoints.any (Routing.endsWith url)
    let clears := apiError.isUnauthorized && !isAuthEndpoint
    { error := .api apiError
      clearsSession := clears
      log := (if clears then [.cleared error.url] else []) ++
        (if apiError.status ≥ 500 then [.serverError apiError.status apiError.code error.url]
          else []) }

/-- What a failed request of the client is rejected with: keys are converted first. -/
def clientRejection (humps : KeyConversion) (error : JsError) : Rejection :=
  handleUnauthorized (convertErrorKeys humps error)

end Unauthorized

/-! ## The adapter -/

/-- `err instanceof AxiosError`. -/
def JsError.asAxios : JsError → Option AxiosError
  | .axios error => some error
  | _ => none

/-- The status of a failed request, if there is an answer. -/
def AxiosError.status (error : AxiosError) : Option ℕ := error.response.map AxiosResponse.status

/-- What is reported of an error. -/
def saveFailure (error : JsError) : SaveResult :=
  let status := error.asAxios.bind AxiosError.status
  if status = some 409 then .failed "conflict" true
  else if status = some 403 then .failed "forbidden" false
  else .failed "network" true

/-- `save`; `updateShared` sends the layout with an etag. -/
def TenantApiAdapter.save (adapter : TenantApiAdapter) (canEditShared : Bool)
    (updateShared : String → Except JsError Unit) : SaveResult :=
  if !canEditShared then .failed "forbidden" false
  else
    match updateShared adapter.sentEtag with
    | .ok _ => .ok
    | .error error => saveFailure error

/-- **A report that tells failures by their status.** -/
structure Classified (status : Option ℕ) (result : SaveResult) : Prop where
  /-- Conflicts. -/
  conflict : (∃ retryable, result = .failed "conflict" retryable) ↔ status = some 409
  /-- What is forbidden, and not tried again. -/
  forbidden : result = .failed "forbidden" false ↔ status = some 403
  /-- Everything else. -/
  network : (∃ retryable, result = .failed "network" retryable) ↔ status ≠ some 409 ∧ status ≠ some 403

/-! ## What is reported -/

/-- The adapter tells a failed request by its status. -/
lemma classified_saveFailure (error : AxiosError) :
    Classified error.status (saveFailure (.axios error)) := by
  unfold saveFailure JsError.asAxios
  rw [Option.bind_some]
  by_cases hconflict : error.status = some 409
  · rw [if_pos hconflict]
    constructor <;> simp [hconflict]
  · rw [if_neg hconflict]
    by_cases hforbidden : error.status = some 403
    · rw [if_pos hforbidden]
      constructor <;> simp [hforbidden]
    · rw [if_neg hforbidden]
      constructor <;> simp [hconflict, hforbidden]

/-- Any other error is reported as one of the network. -/
lemma saveFailure_of_not_axios {error : JsError} (h : error.asAxios = none) :
    saveFailure error = .failed "network" true := by
  unfold saveFailure
  rw [h]
  rfl

/-- The report of the network is right for the other failures only. -/
lemma classified_network_iff {status : Option ℕ} :
    Classified status (.failed "network" true) ↔ status ≠ some 409 ∧ status ≠ some 403 := by
  constructor
  · intro h
    exact h.network.mp ⟨true, rfl⟩
  · intro h
    constructor <;> simp [h.1, h.2]

/-- No failed request comes out of the interceptors. -/
lemma asAxios_clientRejection [Unicode] (humps : KeyConversion) (error : JsError) :
    (clientRejection humps error).error.asAxios = none := by
  unfold clientRejection handleUnauthorized
  cases createApiError (convertErrorKeys humps error) <;> rfl

/-- The conversion of keys leaves the status. -/
lemma status_convertErrorKeys (humps : KeyConversion) (error : AxiosError) :
    ∃ error', convertErrorKeys humps (.axios error) = .axios error' ∧ error'.status = error.status := by
  refine ⟨_, rfl, ?_⟩
  unfold AxiosError.status
  rw [Option.map_map]
  rfl

/-- **The adapter tells every failure** that only had its keys converted. -/
theorem save_classified_direct (humps : KeyConversion) (adapter : TenantApiAdapter)
    (error : AxiosError) :
    Classified error.status
      (adapter.save true fun _ => .error (convertErrorKeys humps (.axios error))) := by
  obtain ⟨error', herror, hstatus⟩ := status_convertErrorKeys humps error
  rw [herror, ← hstatus]
  exact classified_saveFailure error'

/-- **A failed save is told by its status iff it is neither a conflict nor forbidden**: for every
failure of the request, and the interceptors as they are registered.

**Proof sketch.** The last interceptor replaces every failed request by an error that is none
(`asAxios_clientRejection`), so that the network is always reported, which is right for the other
failures (`classified_network_iff`). -/
theorem save_classified_iff [Unicode] (humps : KeyConversion) (adapter : TenantApiAdapter)
    (error : AxiosError) :
    Classified error.status
        (adapter.save true fun _ => .error (clientRejection humps (.axios error)).error) ↔
      error.status ≠ some 409 ∧ error.status ≠ some 403 := by
  have hreport : (adapter.save true fun _ => .error (clientRejection humps (.axios error)).error) =
      .failed "network" true :=
    saveFailure_of_not_axios (asAxios_clientRejection humps (.axios error))
  rw [hreport]
  exact classified_network_iff

namespace Scenario

/-- The server refuses the etag of a save. -/
def etagConflict : AxiosError where
  message := "Request failed with status code 409"
  url := some "/tenants/acme/desktop-layout"
  response := some
    { status := 409
      data := some (.obj [("success", .bool false), ("code", .str "CONFLICT"),
        ("message", .str "desktop layout etag mismatch")]) }

/-- A library that leaves keys as they are. -/
def plainKeyConversion : KeyConversion := ⟨id, id⟩

end Scenario

/-- A refused etag is reported as a failure of the network. -/
theorem conflict_reported_as_network :
    letI := Unicode.ascii
    ¬ Classified (some 409) (TenantApiAdapter.create.save true fun _ =>
      .error (clientRejection Scenario.plainKeyConversion (.axios Scenario.etagConflict)).error) := by
  let := Unicode.ascii
  intro h
  have hnetwork := h.network.mp ⟨true, by decide +kernel⟩
  exact hnetwork.1 rfl

end Klynt
