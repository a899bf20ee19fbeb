import Mathlib.Algebra.Group.Nat.Defs
import Mathlib.Algebra.Group.Int.Defs
import Klynt.Lib.FixedWindow
import Klynt.Lib.IpAddr

set_option relaxedAutoImplicit false
set_option autoImplicit false

/-!
# The rate limiter

Checks are counted per address and action by a script that the key-value store runs in one step.
A counter comes with its first check and expires a window later.

## Main definitions

* `Counters` — the counters of the store, with `incr`, `expire` and `ttl`.
* `RedisRateLimiter.script`, `RedisRateLimiter.check` — the script, and a check.
* `windowCounter` — a fixed window as a counter.

## Main results

* `key_injective` — every address and action has a counter of its own.
* `check_eq` — a check hits the window of its scope once more.

## Implementation notes

Time is in milliseconds, as the store keeps it.  The numbers of the script are exact.
-/

namespace Klynt

/-! ## Scopes -/

/-- What is limited. -/
inductive RateLimitAction where
  /-- To log in. -/
  | login
  /-- To register. -/
  | register
  /-- To reset a password. -/
  | passwordReset
  /-- To verify an email address. -/
  | emailVerification
  deriving DecidableEq

/-- `as_str`. -/
def RateLimitAction.asStr : RateLimitAction → String
  | login => "login"
  | register => "register"
  | passwordReset => "password_reset"
  | emailVerification => "email_verification"

/-- Whose checks are counted together. -/
structure RateLimitScope where
  /-- The address. -/
  ip : IpAddr
  /-- The action. -/
  action : RateLimitAction
  deriving DecidableEq

/-- The answer to a check. -/
structure RateLimitDecision where
  /-- Whether the action may go on. -/
  allowed : Bool
  /-- After how many seconds it may be tried again. -/
  retryAfterSeconds : Option ℕ
  deriving DecidableEq

namespace RateLimitDecision

/-- `RateLimitDecision::allowed`. -/
def allow : RateLimitDecision := { allowed := true, retryAfterSeconds := none }

/-- `RateLimitDecision::denied`. -/
def denied (retryAfter : ℕ) : RateLimitDecision :=
  { allowed := false, retryAfterSeconds := some retryAfter }

end RateLimitDecision

/-- `RateLimiterConfig`. -/
structure RateLimiterConfig where
  /-- Whether checks are counted. -/
  enabled : Bool
  /-- The checks that a window allows. -/
  maxRequests : UInt64
  /-- The length of a window. -/
  windowSeconds : UInt64

/-- `RateLimiterConfig::validated`. -/
def RateLimiterConfig.validated (config : RateLimiterConfig) : Except String Unit :=
  if config.enabled then
    if config.maxRequests < 1 then .error "InvalidMaxRequests"
    else if config.windowSeconds < 1 then .error "InvalidWindow"
    else .ok ()
  else .ok ()

/-! ## The store -/

/-- A counter. -/
structure Counter where
  /-- The value. -/
  value : ℤ
  /-- When it expires, if it does. -/
  expiresAt : Option ℕ

/-- The counters of the store. -/
abbrev Counters : Type := String → Option Counter

namespace Counters

variable (counters : Counters) (now : ℕ) (key : String)

/-- The counter under a key, unless it has expired. -/
def live : Option Counter :=
  (counters key).filter fun c => c.expiresAt.all fun t => decide (now ≤ t)

/-- `INCR`. -/
def incr : ℤ × Counters :=
  match live counters now key with
  | some c => (c.value + 1, Function.update counters key (some { c with value := c.value + 1 }))
  | none => (1, Function.update counters key (some { value := 1, expiresAt := none }))

/-- `EXPIRE`. -/
def expire (seconds : ℤ) : Counters :=
  match live counters now key with
  | some c =>
    if seconds ≤ 0 then Function.update counters key none
    else Function.update counters key (some { c with expiresAt := some (now + seconds.toNat * 1000) })
  | none => counters

/-- `TTL`: rounded to seconds, or a negative number if there is no counter, or no expiry. -/
def ttl : ℤ :=
  match live counters now key with
  | some c =>
    match c.expiresAt with
    | some t => (t - now + 500) / 1000
    | none => -1
  | none => -2

end Counters

namespace RedisRateLimiter

variable (config : RateLimiterConfig)

/-- `key`. -/
def key (scope : RateLimitScope) : String :=
  "rate_limit:" ++ String.ofList scope.ip.display ++ ":" ++ scope.action.asStr

/-- The script. -/
def script (key : String) (limit window : ℤ) (now : ℕ) (counters : Counters) :
    (ℤ × ℤ) × Counters :=
  let (current, counters) := counters.incr now key
  let counters := if current = 1 then counters.expire now key window else counters
  if current > limit then ((0, counters.ttl now key), counters) else ((1, 0), counters)

/-- `as i64`: large numbers become negative. -/
def asI64 (n : UInt64) : ℤ := if n.toNat < 2 ^ 63 then n.toNat else n.toNat - 2 ^ 64

/-- `as u32`. -/
def asU32 (n : ℤ) : ℕ := (n % 2 ^ 32).toNat

/-- The answer that is made of a reply of the script; an error is `none`. -/
def decide? (reply : Option (ℤ × ℤ)) : RateLimitDecision :=
  match reply with
  | some (1, _) => .allow
  | some (0, ttl) => .denied (if ttl > 0 then asU32 ttl else asU32 config.windowSeconds.toNat)
  | some _ => .allow
  | none => .allow

/-- `check`. -/
def check (scope : RateLimitScope) (now : ℕ) (counters : Counters) : RateLimitDecision × Counters :=
  if !config.enabled then (.allow, counters)
  else
    let (reply, counters) :=
      script (key scope) (asI64 config.maxRequests) (asI64 config.windowSeconds) now counters
    (decide? config (some reply), counters)

end RedisRateLimiter

/-! ## Keys -/

/-- Names of actions are distinct, and have no colons. -/
lemma asStr_spec : (∀ a b : RateLimitAction, a.asStr = b.asStr → a = b) ∧
    ∀ a : RateLimitAction, ':' ∉ a.asStr.toList := by
  constructor
  · intro a b h
    cases a <;> cases b <;> first | rfl | exact absurd h (by decide)
  · intro a
    cases a <;> decide

/-- **Every address and action has a counter of its own.** -/
lemma RedisRateLimiter.key_injective : Function.Injective key := by
  rintro ⟨ip, action⟩ ⟨ip', action'⟩ h
  have hlist := congrArg String.toList h
  simp only [key, String.toList_append, String.toList_ofList, List.append_assoc] at hlist
  have htail := List.append_cancel_left hlist
  have hparts := congrArg (List.splitOn ':') htail
  have hcut : ∀ (ip : IpAddr) (action : RateLimitAction),
      (ip.display ++ (":".toList ++ action.asStr.toList)).splitOn ':' =
        ip.display.splitOn ':' ++ [action.asStr.toList] := by
    intro ip action
    have hcons : ":".toList ++ action.asStr.toList = ':' :: action.asStr.toList := rfl
    rw [hcons, List.splitOn_append_cons_self, List.splitOn_eq_singleton (asStr_spec.2 action)]
  rw [hcut, hcut] at hparts
  obtain ⟨-, haction⟩ := List.append_inj' hparts rfl
  obtain rfl := asStr_spec.1 _ _ (String.toList_injective (List.singleton_inj.mp haction))
  obtain rfl := IpAddr.display_injective (List.append_cancel_right htail)
  rfl

/-! ## The script -/

section Script

open FixedWindow

variable {counters : Counters} {key : String} {width now : ℕ} {window : Option FixedWindow}

/-- A window as a counter. -/
def windowCounter (width : ℕ) (w : FixedWindow) : Counter :=
  { value := w.hits, expiresAt := some (w.opened + width) }

/-- The counter of a window has not expired exactly if the next hit opens none. -/
lemma live_windowCounter (now : ℕ) (h : counters key = window.map (windowCounter width)) :
    counters.live now key =
      if Opens width window now then none else window.map (windowCounter width) := by
  unfold Counters.live
  rw [h]
  cases window with
  | none =>
    rw [Option.map_none, ite_self]
    rfl
  | some w =>
    by_cases ho : now ≤ w.opened + width
    · have hno : ¬ Opens width (some w) now := fun hopens => absurd (hopens w rfl) (by omega)
      rw [if_neg hno]
      simp [windowCounter, ho]
    · have hopens : Opens width (some w) now := fun w' hw' => by
        obtain rfl := Option.some.inj hw'
        omega
      rw [if_pos hopens]
      simp [windowCounter, ho]

/-- A counter that was just stored. -/
lemma live_update {c : Counter} (hc : ∀ t, c.expiresAt = some t → now ≤ t) :
    Counters.live (Function.update counters key (some c)) now key = some c := by
  unfold Counters.live
  rw [Function.update_self]
  refine Option.filter_eq_some_iff.mpr ⟨rfl, ?_⟩
  cases ht : c.expiresAt with
  | none => rfl
  | some t => exact decide_eq_true (hc t ht)

/-- The time to live of a counter that was just stored. -/
lemma ttl_update {c : Counter} {t : ℕ} (ht : c.expiresAt = some t) (hle : now ≤ t) :
    Counters.ttl (Function.update counters key (some c)) now key = (t - now + 500) / 1000 := by
  have hlive : Counters.live (Function.update counters key (some c)) now key = some c :=
    live_update fun t' ht' => by
      obtain rfl := Option.some.inj (ht.symm.trans ht')
      exact hle
  unfold Counters.ttl
  rw [hlive]
  dsimp only
  rw [ht]

/-- The counters after `INCR` and, for a new counter, `EXPIRE`: the window was hit once more. -/
lemma incr_expire (now : ℕ) {seconds : ℕ} (hseconds : 0 < seconds)
    (h : counters key = window.map (windowCounter (seconds * 1000)))
    (hhits : ∀ w, window = some w → 1 ≤ w.hits) :
    (counters.incr now key).1 = (hit (seconds * 1000) window now).hits ∧
      (if (counters.incr now key).1 = 1 then (counters.incr now key).2.expire now key seconds
        else (counters.incr now key).2) = Function.update counters key
          (some (windowCounter (seconds * 1000) (hit (seconds * 1000) window now))) := by
  have hlive := live_windowCounter now h
  by_cases ho : Opens (seconds * 1000) window now
  · rw [if_pos ho] at hlive
    have hincr : counters.incr now key =
        (1, Function.update counters key (some { value := 1, expiresAt := none })) := by
      unfold Counters.incr
      rw [hlive]
    rw [hincr, hit_of_opens ho]
    refine ⟨rfl, ?_⟩
    have hnew : Counters.live (Function.update counters key
        (some { value := 1, expiresAt := none })) now key = some { value := 1, expiresAt := none } :=
      live_update nofun
    dsimp only
    rw [if_pos rfl]
    unfold Counters.expire
    rw [hnew]
    dsimp only
    rw [if_neg (by omega), Function.update_idem]
    rfl
  · rw [if_neg ho] at hlive
    obtain ⟨w, rfl, -, hhit⟩ := hit_of_not_opens ho
    have hincr : counters.incr now key = ((w.hits : ℤ) + 1, Function.update counters key
        (some { windowCounter (seconds * 1000) w with value := (w.hits : ℤ) + 1 })) := by
      unfold Counters.incr
      rw [hlive]
      rfl
    have hone := hhits w rfl
    rw [hincr, hhit]
    refine ⟨rfl, ?_⟩
    dsimp only
    rw [if_neg (by omega)]
    rfl

end Script

/-! ## A check -/

section Check

open FixedWindow RedisRateLimiter

variable (config : RateLimiterConfig)

/-- The checks that a window allows: none, if the number became negative. -/
def limitOf : ℕ := (asI64 config.maxRequests).toNat

/-- The width of a window. -/
def widthOf : ℕ := config.windowSeconds.toNat * 1000

/-- The answer to a check after a window. -/
def decisionOf (window : Option FixedWindow) (t : ℕ) : RateLimitDecision :=
  if (hit (widthOf config) window t).hits ≤ limitOf config then .allow
  else decide? config (some (0,
    (((hit (widthOf config) window t).opened + widthOf config : ℕ) - t + 500) / 1000))

variable {config} {counters : Counters} {scope : RateLimitScope} {now : ℕ}
  {window : Option FixedWindow}

/-- The limit is not above the configured number. -/
lemma limitOf_le : limitOf config ≤ config.maxRequests.toNat := by
  unfold limitOf asI64
  have hlt := config.maxRequests.toNat_lt
  split <;> omega

/-- Numbers below `2^63` are the limit. -/
lemma limitOf_eq (h : config.maxRequests.toNat < 2 ^ 63) :
    limitOf config = config.maxRequests.toNat := by
  unfold limitOf asI64
  split <;> omega

/-- Other numbers become negative, so that nothing is allowed. -/
lemma limitOf_eq_zero (h : 2 ^ 63 ≤ config.maxRequests.toNat) : limitOf config = 0 := by
  unfold limitOf asI64
  have hlt := config.maxRequests.toNat_lt
  split <;> omega

/-- A hit is within its window. -/
lemma le_hit_opened (width : ℕ) (window : Option FixedWindow) (t : ℕ) :
    t ≤ (hit width window t).opened + width := by
  by_cases ho : Opens width window t
  · rw [hit_of_opens ho]
    exact Nat.le_add_right t width
  · obtain ⟨w, -, hle, hhit⟩ := hit_of_not_opens ho
    rw [hhit]
    exact hle

/-- A check is allowed if its window has not been hit too often. -/
lemma decisionOf_allowed :
    (decisionOf config window now).allowed =
      decide ((hit (widthOf config) window now).hits ≤ limitOf config) := by
  unfold decisionOf
  split
  · rename_i hle
    exact (decide_eq_true hle).symm
  · rename_i hgt
    exact (decide_eq_false hgt).symm

/-- A denial reports a time between one second and the length of a window. -/
lemma decisionOf_denied (hlow : 1 ≤ config.windowSeconds.toNat)
    (hhigh : config.windowSeconds.toNat < 2 ^ 31)
    (hopened : (hit (widthOf config) window now).opened ≤ now)
    (hdenied : (decisionOf config window now).allowed = false) :
    ∃ r, (decisionOf config window now).retryAfterSeconds = some r ∧ 1 ≤ r ∧
      r ≤ config.windowSeconds.toNat := by
  have hover : ¬ (hit (widthOf config) window now).hits ≤ limitOf config := by
    rw [decisionOf_allowed] at hdenied
    exact of_decide_eq_false hdenied
  have hwithin := le_hit_opened (widthOf config) window now
  obtain ⟨opened, hopenedEq⟩ : ∃ n, (hit (widthOf config) window now).opened = n := ⟨_, rfl⟩
  rw [hopenedEq] at hopened hwithin
  have hwidth : widthOf config = config.windowSeconds.toNat * 1000 := rfl
  unfold decisionOf
  rw [if_neg hover, hopenedEq, hwidth]
  rw [hwidth] at hwithin
  refine ⟨_, rfl, ?_, ?_⟩
  · split
    · unfold asU32
      omega
    · unfold asU32
      omega
  · split
    · unfold asU32
      omega
    · unfold asU32
      omega

/-- **A check** is answered after the window of its scope, which is hit once more; no other counter
changes. -/
lemma check_eq (henabled : config.enabled = true) (hlow : 1 ≤ config.windowSeconds.toNat)
    (hhigh : config.windowSeconds.toNat < 2 ^ 31)
    (h : counters (key scope) = window.map (windowCounter (widthOf config)))
    (hhits : ∀ w, window = some w → 1 ≤ w.hits) :
    check config scope now counters = (decisionOf config window now,
      Function.update counters (key scope)
        (some (windowCounter (widthOf config) (hit (widthOf config) window now)))) := by
  have hwindow : asI64 config.windowSeconds = config.windowSeconds.toNat := by
    unfold asI64
    split <;> omega
  obtain ⟨hvalue, hstored⟩ := incr_expire now hlow h hhits
  have hle := le_hit_opened (widthOf config) window now
  have hone : 1 ≤ (hit (widthOf config) window now).hits := by
    by_cases ho : Opens (widthOf config) window now
    · rw [hit_of_opens ho]
    · obtain ⟨w, -, -, hhit⟩ := hit_of_not_opens ho
      rw [hhit]
      exact Nat.le_add_left 1 w.hits
  have hlimit : (counters.incr now (key scope)).1 > asI64 config.maxRequests ↔
      ¬ (hit (widthOf config) window now).hits ≤ limitOf config := by
    rw [hvalue]
    unfold limitOf widthOf
    unfold widthOf at hone
    omega
  have hscript : script (key scope) (asI64 config.maxRequests) (asI64 config.windowSeconds) now
      counters = (if (hit (widthOf config) window now).hits ≤ limitOf config then ((1 : ℤ), (0 : ℤ))
          else (0, (((hit (widthOf config) window now).opened + widthOf config : ℕ) - now + 500)
            / 1000),
        Function.update counters (key scope)
          (some (windowCounter (widthOf config) (hit (widthOf config) window now)))) := by
    unfold script
    dsimp only
    rw [hwindow, hstored]
    by_cases hallowed : (hit (widthOf config) window now).hits ≤ limitOf config
    · rw [if_neg fun hover => hlimit.mp hover hallowed, if_pos hallowed]
      rfl
    · rw [if_pos (hlimit.mpr hallowed), if_neg hallowed]
      refine Prod.ext (Prod.ext rfl ?_) rfl
      exact ttl_update rfl hle
  unfold check decisionOf
  rw [henabled, hscript]
  dsimp only
  rw [if_neg (by decide)]
  by_cases hallowed : (hit (widthOf config) window now).hits ≤ limitOf config
  · rw [if_pos hallowed, if_pos hallowed]
    rfl
  · rw [if_neg hallowed, if_neg hallowed]

end Check

end Klynt
