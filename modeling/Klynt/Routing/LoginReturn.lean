import Klynt.Lib.FormUrl
import Klynt.Routing.Redirect

set_option relaxedAutoImplicit false
set_option autoImplicit false

/-!
# To the login and back

A guarded page sends a visitor without a session to the login and writes its own address to the
query there.  After the login, the page of the login reads the address from its query, checks it,
and lets the browser follow it.

## Main definitions

* `Location.href` — the whole address of a page.
* `queryOf`, `searchParam` — the query of an address, and what is read of it.
* `protectedRoute`, `onLogin` — what a guarded page shows, and where the login leads.
* `Location.Served` — the pages that browsers show.

## Main results

* `login_returns` — the login leads back to the page it was reached from.

## Implementation notes

Which of two navigations wins when the page of the login replaces itself on its own is not followed.
-/

namespace Klynt.Routing

/-- `window.location.href`, of which the path, the query and the fragment are one text. -/
def Location.href (location : Location) (rest : String) : String :=
  location.protocol ++ "//" ++ location.host ++ rest

/-- The query of an address, without its question mark. -/
def queryOf (url : String) : List Char :=
  (((pathOf url).toList.takeWhile (· ≠ '#')).dropWhile (· ≠ '?')).drop 1

/-- `searchParams.get`. -/
def searchParam (url name : String) : Option String :=
  ((FormUrl.parse (queryOf url)).find? (·.1 = name)).map (·.2)

/-- What a guarded page shows. -/
inductive Guarded where
  /-- It waits for the session. -/
  | waits
  /-- It is left. -/
  | leaves (navigation : Navigation)
  /-- Its content. -/
  | shows
  deriving DecidableEq

section Pages

variable [Unicode] [Browser] (R : HostReader) (env : AppEnv) (location : Location)

/-- `ProtectedRoute`, on the page with this path, query and fragment. -/
def protectedRoute (rest : String) (isLoading isAuthenticated : Bool) : Guarded :=
  if isLoading then .waits
  else if isAuthenticated then .shows
  else match buildLoginUrl env location (some (location.href rest)) with
    | some url => .leaves (navigateExternal R location url)
    | none => .leaves .throws

omit [Browser] in
/-- `redirectTarget` of `useLogin`, on the page at an address. -/
def redirectTarget (url : String) : String :=
  useRedirectTarget R env location (searchParam url "from") (buildApexUrl env location "/dashboard")

omit [Browser] in
/-- `onSuccess` of `useLogin`, on the page at an address. -/
def onLogin (url : String) : Navigation :=
  navigateExternal R location (redirectTarget R env location url)

omit [Unicode] in
/-- A page that a browser shows. -/
structure Location.Served : Prop where
  /-- It was served by `http` or `https`. -/
  scheme : location.scheme = "http" ∨ location.scheme = "https"
  /-- Its host name is one that the host parser keeps. -/
  host : Browser.parseHost location.hostname = some location.hostname
  /-- Host names have none of these characters. -/
  chars : ∀ c ∈ location.hostname.toList, 32 < c.toNat ∧ c ≠ '@' ∧ c ≠ '[' ∧ c ≠ '\\'
  /-- The port of the scheme is left out. -/
  port : ∀ n, location.portNumber = some n → n.toNat ≠ WebUrl.defaultPort location.scheme

end Pages

/-- The path, the query and the fragment of an address: browsers encode blanks and controls. -/
structure IsRest (rest : String) : Prop where
  /-- There is a path. -/
  slash : startsWith rest "/" = true
  /-- No blanks and controls. -/
  chars : ∀ c ∈ rest.toList, 32 < c.toNat

/-- A path begins with a slash. -/
lemma IsRest.eq_cons {rest : String} (h : IsRest rest) :
    ∃ tail, rest.toList = '/' :: tail := by
  obtain ⟨tail, rfl⟩ := startsWith_iff.mp h.slash
  exact ⟨tail.toList, by rw [String.toList_append]; rfl⟩

/-! ## Ports -/

section Port

variable {location : Location} {scheme : String}

/-- Numbers are written in one way. -/
lemma toString_injective {m n : ℕ} (h : toString m = toString n) : m = n := by
  rw [Nat.toString_eq_ofList_toDigits, Nat.toString_eq_ofList_toDigits, String.ofList_inj] at h
  have hvalue : Nat.ofDigitChars 10 (Nat.toDigits 10 m) 0 =
      Nat.ofDigitChars 10 (Nat.toDigits 10 n) 0 := by rw [h]
  rwa [Nat.ofDigitChars_toDigits (by decide) (by decide),
    Nat.ofDigitChars_toDigits (by decide) (by decide)] at hvalue

/-- The port of the page, if it is not the one of a scheme. -/
def portUnder (location : Location) (scheme : String) : Option ℕ :=
  match location.portNumber with
  | some n => if n.toNat = WebUrl.defaultPort scheme then none else some n.toNat
  | none => none

/-- A page writes its port as the browser does. -/
lemma portSuffix_eq : location.portSuffix = WebUrl.portText (location.portNumber.map UInt16.toNat) := by
  unfold Location.portSuffix Location.port
  cases location.portNumber with
  | none => rfl
  | some n =>
    have hne : toString n.toNat ≠ "" := fun hempty => by
      rw [Nat.toString_eq_ofList_toDigits] at hempty
      have hlist := congrArg String.toList hempty
      rw [String.toList_ofList] at hlist
      exact Nat.toDigits_ne_nil hlist
    dsimp only
    rw [if_neg hne]
    rfl

/-- An address that is parsed writes the port of the page, if it is not the one of its scheme. -/
lemma parsedPort_eq (hscheme : scheme = "http" ∨ scheme = "https") :
    (let port := if defaultPort scheme = some location.port then "" else location.port
      if port = "" then "" else ":" ++ port) = WebUrl.portText (portUnder location scheme) := by
  have hdefault : defaultPort scheme = some (toString (WebUrl.defaultPort scheme)) := by
    rcases hscheme with rfl | rfl <;> decide
  have hsuffix : (if location.port = "" then "" else ":" ++ location.port) =
      WebUrl.portText (location.portNumber.map UInt16.toNat) := portSuffix_eq
  unfold portUnder
  rw [hdefault]
  cases hport : location.portNumber with
  | none =>
    have hnone : location.port = "" := by
      unfold Location.port
      rw [hport]
    rw [hnone, ite_self]
    rfl
  | some n =>
    have htext : location.port = toString n.toNat := by
      unfold Location.port
      rw [hport]
    rw [hport] at hsuffix
    dsimp only
    by_cases hsame : n.toNat = WebUrl.defaultPort scheme
    · rw [htext, hsame, if_pos rfl, if_pos rfl, if_pos rfl]
      rfl
    · have hne : ¬ (some (toString (WebUrl.defaultPort scheme)) = some location.port) := fun h =>
        hsame (toString_injective (htext ▸ Option.some.inj h)).symm
      rw [if_neg hne, if_neg hsame]
      exact hsuffix

end Port

/-! ## The address of the login -/

section Login

variable [Unicode] [Browser] {R : HostReader} {env : AppEnv} {location : Location}
  {base rest text : String}

/-- Where the login is. -/
def loginAddress (env : AppEnv) (location : Location) (base : String) : WebUrl where
  scheme := getAppProtocol env location
  hostname := "login" ++ "." ++ base
  port := portUnder location (getAppProtocol env location)

omit [Unicode] [Browser] in
/-- The address of a page is written as browsers do it. -/
lemma href_eq : location.href rest = location.webUrl.origin ++ rest := by
  unfold Location.href Location.protocol Location.host WebUrl.origin Location.webUrl
  rw [portSuffix_eq]
  have hmark : (":" ++ "//" : String) = "://" := by decide
  rw [← hmark]
  simp only [String.append_assoc]

omit [Unicode] [Browser] in
/-- A platform is served by `http` or `https`. -/
lemma appProtocol_cases (hprotocol : ∀ p, env.protocol = some p → p = "http" ∨ p = "https")
    (hscheme : location.scheme = "http" ∨ location.scheme = "https") :
    getAppProtocol env location = "http" ∨ getAppProtocol env location = "https" := by
  unfold getAppProtocol
  cases henv : env.protocol with
  | none =>
    have herase : location.protocol.toList.erase ':' = location.scheme.toList := by
      unfold Location.protocol
      rw [String.toList_append, List.erase_append_right _ location.scheme_colon]
      exact List.append_nil _
    rwa [Option.getD_none, herase, String.ofList_toList]
  | some p => exact hprotocol p henv

omit [Unicode] [Browser] in
/-- `http` and `https` are followed. -/
lemma isHttp_of_cases {scheme : String} (h : scheme = "http" ∨ scheme = "https") :
    isHttp scheme = true := by
  rcases h with rfl | rfl <;> rfl

omit [Unicode] [Browser] in
/-- A name that is read as it is, with the port of a page. -/
lemma kept_of_name {scheme name : String} (hscheme : scheme = "http" ∨ scheme = "https")
    (hhost : R.host name.toList = some name) (hne : name ≠ "")
    (hchars : ∀ c ∈ name.toList, IsHostChar c ∧ 32 < c.toNat ∧ c ≠ '@' ∧ c ≠ '[' ∧ c ≠ '\\')
    {port : Option ℕ}
    (hport : ∀ n, port = some n → n ≤ 65535 ∧ n ≠ WebUrl.defaultPort scheme) :
    WebUrl.Kept R ⟨scheme, name, port⟩ := by
  refine ⟨hscheme, hhost, hne, fun c hc => ?_, hport⟩
  obtain ⟨⟨-, -, hcolon, hslash, hquery, hfragment⟩, hcode, hat, hbracket, hback⟩ := hchars c hc
  refine ⟨hcode, ?_, hat, hcolon, hbracket⟩
  simp [WebUrl.isAuthorityEnd, WebUrl.isSlash, hslash, hback, hquery, hfragment]

omit [Unicode] in
/-- The address of a page that a browser shows. -/
lemma Location.Served.kept (hpage : location.Served)
    (hhost : location.hostname = base ∨
      ∃ subdomain, subdomain ≠ "" ∧ location.hostname = subdomain ++ "." ++ base)
    (hne : base ≠ "")
    (hreader : ∀ name, Browser.parseHost name = some name → R.host name.toList = some name) :
    WebUrl.Kept R location.webUrl := by
  have hnamed : location.hostname ≠ "" := by
    rcases hhost with hhost | ⟨subdomain, hne, hhost⟩
    · rwa [hhost]
    · rw [hhost]
      intro hempty
      have hlist := congrArg String.toList hempty
      rw [String.append_assoc, String.toList_append] at hlist
      exact hne (String.toList_injective (List.append_eq_nil_iff.mp hlist).1)
  refine kept_of_name hpage.scheme (hreader _ hpage.host) hnamed
    (fun c hc => ⟨location.hostname_chars c hc, hpage.chars c hc⟩) ?_
  intro n hn
  obtain ⟨port, hport, rfl⟩ := Option.map_eq_some_iff.mp hn
  exact ⟨Nat.le_of_lt_succ port.toNat_lt, hpage.port port hport⟩

omit [Unicode] in
/-- The address of the login can be read. -/
lemma loginAddress_kept (hbase : BaseDomain base)
    (hhost : location.hostname = base ∨
      ∃ subdomain, subdomain ≠ "" ∧ location.hostname = subdomain ++ "." ++ base)
    (hkept : Browser.parseHost base = some base) (hname : IsDomainName base)
    (hscheme : getAppProtocol env location = "http" ∨ getAppProtocol env location = "https")
    (hreader : ∀ name, Browser.parseHost name = some name → R.host name.toList = some name)
    (hpage : location.Served) : WebUrl.Kept R (loginAddress env location base) := by
  have hdot : ("login" ++ "." : String) = "login." := by decide
  have hbelow : ∀ c ∈ base.toList, c ∈ location.hostname.toList := by
    intro c hc
    rcases hhost with hhost | ⟨subdomain, -, hhost⟩
    · rwa [hhost]
    · rw [hhost, String.toList_append]
      exact List.mem_append_right _ hc
  have hparse := Browser.parseHost_login base hbase.no_colon hname hkept
  refine kept_of_name hscheme (hreader _ (hdot ▸ hparse)) ?_ ?_ ?_
  · intro hempty
    have hlist := congrArg String.toList hempty
    rw [String.append_assoc, String.toList_append] at hlist
    exact absurd (List.append_eq_nil_iff.mp hlist).1 (by decide)
  · have hlogin : ∀ c ∈ ("login" ++ "." : String).toList,
        IsHostChar c ∧ 32 < c.toNat ∧ c ≠ '@' ∧ c ≠ '[' ∧ c ≠ '\\' :=
      WebUrl.forall_of_all (by decide)
    intro c hc
    rw [String.toList_append] at hc
    rcases List.mem_append.mp hc with hc | hc
    · exact hlogin c hc
    · exact ⟨hbase.chars c hc, hpage.chars c (hbelow c hc)⟩
  · intro n hn
    unfold portUnder at hn
    split at hn
    · rename_i port hport
      split at hn
      · cases hn
      · obtain rfl := Option.some.inj hn
        exact ⟨Nat.le_of_lt_succ port.toNat_lt, ‹_›⟩
    · cases hn

/-- The path and the query of the address of the login. -/
def loginPath (text : String) : String :=
  "/" ++ ("?" ++ "from" ++ "=" ++ String.ofList (FormUrl.encode text))

omit [Unicode] [Browser] in
/-- The address of the login has a path. -/
lemma loginPath_eq_cons (text : String) : (loginPath text).toList = '/' ::
    ("?from=".toList ++ FormUrl.encode text) := by
  unfold loginPath
  simp only [String.toList_append, String.toList_ofList]
  rfl

omit [Unicode] [Browser] in
/-- The address of the login has no blanks, no controls and no fragment. -/
lemma loginPath_chars (text : String) : ∀ c ∈ (loginPath text).toList, c ≠ '#' ∧ 32 < c.toNat := by
  have hstart : ∀ c ∈ '/' :: "?from=".toList, c ≠ '#' ∧ 32 < c.toNat :=
    WebUrl.forall_of_all (by decide)
  intro c hc
  rw [loginPath_eq_cons, ← List.cons_append] at hc
  rcases List.mem_append.mp hc with hc | hc
  · exact hstart c hc
  · exact (of_decide_eq_true (FormUrl.isWritten_of_mem hc)).2.2

/-- **The address of the login**, with another address in its query. -/
lemma buildLoginUrl_eq (hencode : ∀ s, Browser.urlencode s = String.ofList (FormUrl.encode s))
    (hbase : BaseDomain base) (hkept : Browser.parseHost base = some base) (hname : IsDomainName base)
    (hhost : getBaseHost env location = base ++ location.portSuffix)
    (hscheme : getAppProtocol env location = "http" ∨ getAppProtocol env location = "https")
    (htext : text ≠ "") :
    buildLoginUrl env location (some text) =
      some ((loginAddress env location base).origin ++ loginPath text) := by
  have hchars : ∀ c ∈ "login".toList, IsNameChar c := fun c hc => (isUserNameChar_spec
    (List.all_eq_true.mp (by decide : "login".toList.all isUserNameChar = true) c hc)).2
  obtain ⟨hparts, hpath⟩ := buildSubdomainUrl_parts hbase hhost hchars "/"
  obtain ⟨hhostname, hport⟩ := hostname_of_host location.port hparts fun hcolon =>
    (below_chars hbase hchars _ hcolon).1 rfl
  have hparse : Browser.parseHost ("login" ++ "." ++ base) = some ("login" ++ "." ++ base) := by
    have hdot : ("login" ++ "." : String) = "login." := by decide
    rw [hdot]
    exact Browser.parseHost_login base hbase.no_colon hname hkept
  have hown : schemeOf (buildSubdomainUrl env location "login" "/") = getAppProtocol env location := by
    have hall : ∀ c ∈ (getAppProtocol env location).toList, decide (c ≠ ':') = true := fun c hc =>
      decide_eq_true fun heq => getAppProtocol_colon env location (heq ▸ hc)
    refine String.toList_injective ?_
    unfold schemeOf buildSubdomainUrl
    rw [String.toList_ofList]
    simp only [String.append_assoc]
    rw [String.toList_append, List.takeWhile_append_of_pos hall, String.toList_append]
    exact List.append_nil _
  have hlower : String.ofList ((getAppProtocol env location).toList.map Char.toLower) =
      getAppProtocol env location := by
    rcases hscheme with h | h <;> rw [h] <;> decide
  have hslash : normalizePath "/" = "/" := by decide
  unfold buildLoginUrl Url.parse
  rw [hhostname, hparse, hport, hpath, hown, hlower, hslash]
  dsimp only [Option.map_some]
  rw [if_neg htext]
  unfold Url.setParam Url.toText
  dsimp only
  rw [parsedPort_eq hscheme, hencode]
  unfold loginAddress WebUrl.origin loginPath
  simp only [String.append_assoc]

omit [Unicode] [Browser] in
/-- **The parameter is read back** from the address of the login. -/
lemma searchParam_origin {u : WebUrl} (hu : WebUrl.Kept R u) (text : String) :
    searchParam (u.origin ++ loginPath text) "from" = some text := by
  have hcolon : ':' ∉ u.scheme.toList := by
    rcases hu.scheme with h | h <;> rw [h] <;> decide
  have hends : ∀ c ∈ (u.hostname ++ WebUrl.portText u.port).toList, isAuthorityEnd c = false := by
    intro c hc
    rw [String.toList_append] at hc
    obtain ⟨-, hend, -⟩ := WebUrl.authority_chars hu c hc
    simp only [WebUrl.isAuthorityEnd, WebUrl.isSlash, Bool.or_eq_false_iff,
      decide_eq_false_iff_not] at hend
    simp [isAuthorityEnd, hend]
  have hslash : startsWith (loginPath text) "/" = true := startsWith_append "/" _
  have hpath := (host_of_parts hcolon hends hslash).2
  have hsplit : u.origin = u.scheme ++ "://" ++ (u.hostname ++ WebUrl.portText u.port) := by
    unfold WebUrl.origin
    simp only [String.append_assoc]
  have hfragment : ∀ c ∈ (loginPath text).toList, decide (c ≠ '#') = true := fun c hc =>
    decide_eq_true (loginPath_chars text c hc).1
  have hread : queryOf (u.origin ++ loginPath text) = FormUrl.serialize [("from", text)] := by
    have hfrom : FormUrl.encode "from" = "from".toList := by decide
    unfold queryOf FormUrl.serialize
    rw [hsplit, hpath, List.takeWhile_eq_self_iff.mpr hfragment, loginPath_eq_cons, List.map_singleton,
      List.intercalate_singleton, hfrom]
    rfl
  unfold searchParam
  rw [hread, FormUrl.parse_serialize]
  simp

end Login

/-! ## The way back -/

section Back

variable [Unicode] {R : HostReader} {env : AppEnv} {location login : Location} {base rest : String}

omit [Unicode] in
/-- An absolute address does not begin with a slash. -/
lemma startsWith_origin {u : WebUrl} (hu : WebUrl.Kept R u) (rest : String) :
    startsWith (u.origin ++ rest) "/" = false := by
  unfold startsWith WebUrl.origin
  simp only [String.toList_append, List.append_assoc]
  rcases hu.scheme with h | h <;> rw [h] <;> rfl

/-- The address of a page below the configured domain is allowed. -/
lemma allowed_href (hpage : WebUrl.Kept R location.webUrl) (hrest : IsRest rest)
    (hbase : BaseDomain base) (hdomain : getBaseDomain env login = base)
    (hhost : location.hostname = base ∨
      ∃ subdomain, subdomain ≠ "" ∧ location.hostname = subdomain ++ "." ++ base) :
    isAllowedRedirectUrl R env login (location.href rest) = true := by
  obtain ⟨tail, htail⟩ := hrest.eq_cons
  have hparse := WebUrl.parse_origin hpage none htail hrest.chars
  unfold isAllowedRedirectUrl
  rw [href_eq, startsWith_origin hpage, hparse]
  dsimp only
  rw [if_neg Bool.false_ne_true]
  unfold isPlatformHost Location.webUrl
  rw [hdomain, lower_of_hostChars hbase.chars, lower_of_hostChars location.hostname_chars]
  rcases hhost with hhost | ⟨subdomain, -, hhost⟩
  · simp [hhost]
  · have hend := endsWith_append subdomain ("." ++ base)
    rw [← String.append_assoc] at hend
    simp [hhost, hend]

/-- Without a configured domain, the page of the login takes no page above it for the platform's. -/
lemma not_allowed_href (hpage : WebUrl.Kept R location.webUrl) (hrest : IsRest rest)
    (hdomain : getBaseDomain env login = "login" ++ "." ++ location.hostname) :
    isAllowedRedirectUrl R env login (location.href rest) = false := by
  obtain ⟨tail, htail⟩ := hrest.eq_cons
  have hparse := WebUrl.parse_origin hpage none htail hrest.chars
  have hchars : ∀ c ∈ ("login" ++ "." ++ location.hostname).toList, IsHostChar c := by
    intro c hc
    rw [String.toList_append] at hc
    exact (List.mem_append.mp hc).elim
      (WebUrl.forall_of_all (by decide) c) (location.hostname_chars c)
  have hlonger : location.hostname.toList.length <
      ("login" ++ "." ++ location.hostname).toList.length := by
    rw [String.toList_append, List.length_append]
    have hlogin : ("login" ++ "." : String).toList.length = 6 := by decide
    omega
  unfold isAllowedRedirectUrl
  rw [href_eq, startsWith_origin hpage, hparse]
  dsimp only
  rw [if_neg Bool.false_ne_true]
  unfold isPlatformHost Location.webUrl
  rw [hdomain, lower_of_hostChars hchars, lower_of_hostChars location.hostname_chars]
  dsimp only
  rw [Bool.or_eq_false_iff, decide_eq_false_iff_not, Bool.eq_false_iff]
  constructor
  · intro hsame
    rw [← hsame] at hlonger
    exact lt_irrefl _ hlonger
  · intro hend
    have hlength := (List.isSuffixOf_iff_suffix.mp hend).length_le
    rw [String.toList_append, List.length_append] at hlength
    omega

end Back

/-- **The login leads back.** A guarded page of the platform that is shown without a session is left
for the login, with its own address in the query.  If the domain of the platform is configured, a
successful login at that address, on the page that the browser shows there, leads to that same text,
and the browser reads it as the page it came from.  Without a configured domain the login never
leads back: the page of the login takes the host name it is at for the domain, and all above it for
strangers.

**Proof sketch.** The base host is recovered from the page, so the address of the login is its
scheme, its host name and the port of the page, with one parameter.  The parameter is read back byte
by byte. The address of the page passes the check, since the login runs with the same domain, and
the browser reads a written address as it was. -/
theorem login_returns [Unicode] [Browser] (R : HostReader) (env : AppEnv) (location : Location)
    {base rest : String} (hbase : BaseDomain base) (hdomain : getBaseDomain env location = base)
    (hhost : location.hostname = base ∨
      ∃ subdomain, subdomain ≠ "" ∧ location.hostname = subdomain ++ "." ++ base)
    (hne : base ≠ "") (hkept : Browser.parseHost base = some base) (hname : IsDomainName base)
    (hprotocol : ∀ p, env.protocol = some p → p = "http" ∨ p = "https")
    (hencode : ∀ s, Browser.urlencode s = String.ofList (FormUrl.encode s))
    (hreader : ∀ name, Browser.parseHost name = some name → R.host name.toList = some name)
    (hpage : location.Served) (hrest : IsRest rest) :
    ∃ url there, buildLoginUrl env location (some (location.href rest)) = some url ∧
      protectedRoute R env location rest false false = .leaves (.replaces there) ∧
      getHostContext there.hostname base = .login ∧
      ∀ login : Location, login.webUrl = there →
        (env.domain.isSome = true →
          redirectTarget R env login url = location.href rest ∧
            onLogin R env login url = .replaces location.webUrl) ∧
        (env.domain = none →
          redirectTarget R env login url = buildApexUrl env login "/dashboard") := by
  have hbaseHost := getBaseHost_eq hbase hdomain hhost
  have hpageKept := hpage.kept hhost hne hreader
  have hscheme := appProtocol_cases hprotocol hpage.scheme
  have hloginKept := loginAddress_kept hbase hhost hkept hname hscheme hreader hpage
  obtain ⟨tail, htail⟩ := hrest.eq_cons
  have htext : location.href rest ≠ "" := by
    intro hempty
    have hlist := congrArg String.toList hempty
    rw [href_eq, String.toList_append, htail] at hlist
    exact List.append_ne_nil_of_right_ne_nil _ (List.cons_ne_nil _ _) hlist
  have hurl := buildLoginUrl_eq hencode hbase hkept hname hbaseHost hscheme htext
  refine ⟨_, loginAddress env location base, hurl, ?_, ?_, fun login hlogin => ⟨fun hsome => ?_,
    fun hnone => ?_⟩⟩
  · unfold protectedRoute navigateExternal
    rw [hurl]
    dsimp only
    rw [if_neg Bool.false_ne_true, if_neg Bool.false_ne_true,
      WebUrl.parse_origin hloginKept _ (loginPath_eq_cons _) fun c hc =>
        (loginPath_chars _ c hc).2]
    exact congrArg Guarded.leaves (if_pos (isHttp_of_cases hscheme))
  · have hlower : toLowercase "login" = "login" := toLowercase_eq_self (by decide)
    have hclass : getHostContext ("login" ++ "." ++ base) base = classify (toLowercase "login") :=
      getHostContext_below hbase (WebUrl.forall_of_all (by decide)) (by rw [hlower]; decide)
        (by rw [hlower]; decide)
    unfold loginAddress
    rw [hclass, hlower]
    rfl
  · obtain ⟨domain, hconfigured⟩ := Option.isSome_iff_exists.mp hsome
    have hsame : getBaseDomain env login = base := by
      unfold getBaseDomain at hdomain ⊢
      rwa [hconfigured] at hdomain ⊢
    have htarget : redirectTarget R env login ((loginAddress env location base).origin ++
        loginPath (location.href rest)) = location.href rest := by
      unfold redirectTarget useRedirectTarget
      rw [searchParam_origin hloginKept]
      exact if_pos ⟨htext, allowed_href hpageKept hrest hbase hsame hhost⟩
    refine ⟨htarget, ?_⟩
    unfold onLogin navigateExternal
    rw [htarget, href_eq, WebUrl.parse_origin hpageKept _ htail hrest.chars]
    exact if_pos (isHttp_of_cases hpage.scheme)
  · have hstranger : getBaseDomain env login = "login" ++ "." ++ location.hostname := by
      unfold getBaseDomain at hdomain ⊢
      rw [hnone] at hdomain ⊢
      dsimp only [Option.getD_none] at hdomain ⊢
      rw [hdomain]
      exact congrArg WebUrl.hostname hlogin
    unfold redirectTarget useRedirectTarget
    rw [searchParam_origin hloginKept]
    refine if_neg fun h => ?_
    rw [not_allowed_href hpageKept hrest hstranger] at h
    exact Bool.false_ne_true h.2

namespace Scenario

/-- A browser that writes queries as browsers do. -/
@[reducible] def formBrowser : Browser where
  parseHost := browser.parseHost
  urlencode s := String.ofList (FormUrl.encode s)
  parseHost_login := browser.parseHost_login

/-- The page of the tenant is one that a browser shows. -/
lemma page_served : @Location.Served formBrowser page := by
  let _ := formBrowser
  refine ⟨.inl rfl, by decide, WebUrl.forall_of_all (by decide), ?_⟩
  rintro n ⟨⟩
  decide

end Scenario

/-- From a page of a tenant to the login and back. -/
theorem login_returns_tenant :
    letI := Unicode.ascii
    letI := Scenario.formBrowser
    ∃ url there, buildLoginUrl Scenario.env Scenario.page
        (some (Scenario.page.href "/members?page=2&of=7#top")) = some url ∧
      ∀ login : Location, login.webUrl = there →
        onLogin Scenario.reader Scenario.env login url = .replaces Scenario.page.webUrl := by
  have hrest : IsRest "/members?page=2&of=7#top" := ⟨by decide, WebUrl.forall_of_all (by decide)⟩
  have hreader : ∀ name, Scenario.formBrowser.parseHost name = some name →
      Scenario.reader.host name.toList = some name := by
    intro name hname
    unfold Scenario.formBrowser Scenario.browser at hname
    dsimp only at hname
    split at hname
    · unfold Scenario.reader
      dsimp only
      rw [if_pos ‹_›, String.ofList_toList]
    · cases hname
  let _ := Unicode.ascii
  let _ := Scenario.formBrowser
  obtain ⟨url, there, hurl, -, -, hback⟩ := login_returns Scenario.reader Scenario.env Scenario.page
    Scenario.baseDomain rfl (.inr ⟨"acme", by decide, by decide⟩) (by decide) (by decide)
    (.inr ⟨'m', by decide, by decide⟩) (by rintro p ⟨⟩; exact .inl rfl) (fun _ => rfl) hreader
      Scenario.page_served hrest
  exact ⟨url, there, hurl, fun login hlogin => ((hback login hlogin).1 rfl).2⟩

end Klynt.Routing
