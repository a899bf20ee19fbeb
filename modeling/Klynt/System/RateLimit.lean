import Klynt.Persistence.RateLimiter
import Klynt.Lib.Run

set_option relaxedAutoImplicit false
set_option autoImplicit false

/-!
# Checks of the rate limiter

Checks come one after the other, each no earlier than the one before.  The counter of a scope is a
fixed window over the checks of that scope.

## Main definitions

* `RateStep` — a check.
* `checksOf` — the checks of a scope in a history.
* `RateLimited` — how many checks are allowed, and what a denial reports.

## Main results

* `RateStep.represented` — the counter of a scope is a fixed window over its checks.
* `rate_limited_iff` — checks are limited if the configured number is below `2^63`.

## Implementation notes

A number of `2^63` or more becomes negative for the script, and then no check is ever allowed.
-/

namespace Klynt

open FixedWindow RedisRateLimiter

/-- The store, and the time of the last check. -/
structure RateState where
  /-- The counters. -/
  counters : Counters
  /-- The time. -/
  now : ℕ

/-- A check. -/
structure RateCheck where
  /-- Whose checks it is counted with. -/
  scope : RateLimitScope
  /-- When it came. -/
  time : ℕ
  /-- The answer. -/
  decision : RateLimitDecision

/-- Nothing has been counted. -/
def RateInit (s : RateState) : Prop := s.counters = fun _ => none

/-- A check, no earlier than the one before. -/
def RateStep (config : RateLimiterConfig) (s : RateState) (e : RateCheck) (s' : RateState) : Prop :=
  s.now ≤ e.time ∧ s'.now = e.time ∧
    check config e.scope e.time s.counters = (e.decision, s'.counters)

/-- A history of checks. -/
abbrev RateHistory : Type := List (RateState × RateCheck)

/-! ## The checks of a scope -/

/-- The checks of a scope: when they came, and how they were answered. -/
def checksOf (scope : RateLimitScope) (tr : RateHistory) : List (ℕ × RateLimitDecision) :=
  (tr.filter fun e => e.2.scope = scope).map fun e => (e.2.time, e.2.decision)

/-- The number of checks of a scope that were allowed at times that satisfy a condition. -/
def allowedOf (scope : RateLimitScope) (p : ℕ → Prop) [DecidablePred p] (tr : RateHistory) : ℕ :=
  (checksOf scope tr).countP fun e => e.2.allowed && decide (p e.1)

/-- Checks as hits of a window. -/
def hitsOf (checks : List (ℕ × RateLimitDecision)) : FixedWindow.History :=
  checks.map fun e => (e.1, e.2.allowed)

/-- Checks come in order, and are answered after the window of those before. -/
def Decided (config : RateLimiterConfig) : List (ℕ × RateLimitDecision) → Prop
  | [] => True
  | e :: older => Decided config older ∧ (∀ e' ∈ older, e'.1 ≤ e.1) ∧
      e.2 = decisionOf config (after (widthOf config) (hitsOf older)) e.1

variable {config : RateLimiterConfig} {scope : RateLimitScope} {tr newer older : RateHistory}
  {s s' : RateState} {e : RateCheck} {checks checks' : List (ℕ × RateLimitDecision)}

/-- One more check of the scope. -/
lemma checksOf_cons_self :
    checksOf e.scope ((s, e) :: tr) = (e.time, e.decision) :: checksOf e.scope tr := by
  unfold checksOf
  rw [List.filter_cons_of_pos (by simp)]
  rfl

/-- A check of another scope. -/
lemma checksOf_cons_of_ne (hne : e.scope ≠ scope) :
    checksOf scope ((s, e) :: tr) = checksOf scope tr := by
  unfold checksOf
  rw [List.filter_cons_of_neg (by simpa using hne)]

/-- The checks of two histories, one after the other. -/
lemma checksOf_append :
    checksOf scope (newer ++ older) = checksOf scope newer ++ checksOf scope older := by
  unfold checksOf
  rw [List.filter_append, List.map_append]

/-- Allowed checks are admitted hits. -/
lemma allowedOf_eq (p : ℕ → Prop) [DecidablePred p] :
    allowedOf scope p tr = count p (hitsOf (checksOf scope tr)) := by
  unfold allowedOf count hitsOf
  rw [List.countP_map]
  rfl

/-- Checks that are answered after their windows are admitted as hits. -/
lemma Decided.kept (h : Decided config checks) :
    Kept (limitOf config) (widthOf config) (hitsOf checks) := by
  induction checks with
  | nil => trivial
  | cons e older ih =>
    obtain ⟨hold, hlate, hdecision⟩ := h
    refine ⟨ih hold, ?_, ?_⟩
    · intro e' he'
      obtain ⟨c, hc, rfl⟩ := List.mem_map.mp he'
      exact hlate c hc
    · show e.2.allowed = _
      rw [hdecision]
      exact decisionOf_allowed

/-- Answers depend on nothing but the times of the checks. -/
lemma Decided.unique (h : Decided config checks) (h' : Decided config checks')
    (htimes : checks.map Prod.fst = checks'.map Prod.fst) : checks = checks' := by
  induction checks generalizing checks' with
  | nil => exact (List.map_eq_nil_iff.mp htimes.symm).symm
  | cons e older ih =>
    cases checks' with
    | nil => exact absurd htimes (List.cons_ne_nil _ _)
    | cons e' older' =>
      obtain ⟨htime, hrest⟩ := List.cons.inj htimes
      obtain rfl := ih h.1 h'.1 hrest
      have hdecision : e.2 = e'.2 := by rw [h.2.2, h'.2.2, htime]
      rw [Prod.ext htime hdecision]

/-! ## The invariant -/

/-- The counter of a scope is a fixed window over its checks, and there are no other counters. -/
structure Represented (config : RateLimiterConfig) (tr : RateHistory) (s : RateState) : Prop where
  /-- The counter of a scope. -/
  counter : ∀ scope, s.counters (key scope) =
    (after (widthOf config) (hitsOf (checksOf scope tr))).map (windowCounter (widthOf config))
  /-- How its checks were answered. -/
  decided : ∀ scope, Decided config (checksOf scope tr)
  /-- All of them came before. -/
  before : ∀ e ∈ tr, e.2.time ≤ s.now
  /-- No other keys are used. -/
  other : ∀ k, (∀ scope, key scope ≠ k) → s.counters k = none

/-- The checks of a scope came before. -/
lemma Represented.checks_before (h : Represented config tr s) (scope : RateLimitScope) :
    ∀ e ∈ checksOf scope tr, e.1 ≤ s.now := by
  intro e he
  obtain ⟨x, hx, rfl⟩ := List.mem_map.mp he
  exact h.before x (List.mem_filter.mp hx).1

/-- The hits of a scope came before. -/
lemma Represented.hits_before (h : Represented config tr s) (scope : RateLimitScope) :
    ∀ e ∈ hitsOf (checksOf scope tr), e.1 ≤ s.now := by
  intro e he
  obtain ⟨c, hc, rfl⟩ := List.mem_map.mp he
  exact h.checks_before scope c hc

/-- A check after a history. -/
lemma Represented.check_eq (h : Represented config tr s) (henabled : config.enabled = true)
    (hlow : 1 ≤ config.windowSeconds.toNat) (hhigh : config.windowSeconds.toNat < 2 ^ 31)
    (scope : RateLimitScope) (t : ℕ) :
    check config scope t s.counters =
      (decisionOf config (after (widthOf config) (hitsOf (checksOf scope tr))) t,
        Function.update s.counters (key scope) (some (windowCounter (widthOf config)
          (hit (widthOf config) (after (widthOf config) (hitsOf (checksOf scope tr))) t)))) :=
  Klynt.check_eq henabled hlow hhigh (h.counter scope) fun _ hw => one_le_hits hw

/-- **A check keeps the counters fixed windows.** -/
lemma RateStep.represented (h : Represented config tr s) (henabled : config.enabled = true)
    (hlow : 1 ≤ config.windowSeconds.toNat) (hhigh : config.windowSeconds.toNat < 2 ^ 31)
    (hstep : RateStep config s e s') : Represented config ((s, e) :: tr) s' := by
  obtain ⟨hlate, hnow, hcheck⟩ := hstep
  rw [h.check_eq henabled hlow hhigh] at hcheck
  obtain ⟨hdecision, hcounters⟩ := Prod.mk.inj hcheck
  refine ⟨fun scope => ?_, fun scope => ?_, ?_, fun k hk => ?_⟩
  · by_cases hscope : e.scope = scope
    · subst hscope
      rw [← hcounters, Function.update_self, checksOf_cons_self]
      rfl
    · rw [← hcounters, Function.update_of_ne fun heq => hscope (key_injective heq).symm,
        checksOf_cons_of_ne hscope]
      exact h.counter scope
  · by_cases hscope : e.scope = scope
    · subst hscope
      rw [checksOf_cons_self]
      refine ⟨h.decided _, fun e' he' => ?_, hdecision.symm⟩
      exact (h.checks_before _ e' he').trans hlate
    · rw [checksOf_cons_of_ne hscope]
      exact h.decided scope
  · rw [hnow]
    exact List.forall_mem_cons.mpr ⟨le_refl _, fun x hx => (h.before x hx).trans hlate⟩
  · rw [← hcounters, Function.update_of_ne fun heq => hk e.scope heq.symm]
    exact h.other k hk

/-- After every run, the counters are fixed windows. -/
lemma represented (henabled : config.enabled = true) (hlow : 1 ≤ config.windowSeconds.toNat)
    (hhigh : config.windowSeconds.toNat < 2 ^ 31) (h : Run RateInit (RateStep config) tr s) :
    Represented config tr s := by
  induction h with
  | start hinit =>
    refine ⟨fun _ => ?_, fun _ => trivial, List.forall_mem_nil _, fun _ _ => ?_⟩
    · rw [hinit]
      rfl
    · rw [hinit]
  | snoc _ hstep ih => exact hstep.represented ih henabled hlow hhigh

/-! ## Limited checks -/

/-- The checks of a run are limited. -/
structure RateLimited (config : RateLimiterConfig) (tr : RateHistory) (s : RateState) : Prop where
  /-- Between the creation of a counter and its expiry, no more checks are allowed than
  configured. -/
  window : ∀ newer s₀ e older c t, tr = newer ++ (s₀, e) :: older →
    s₀.counters.live e.time (key e.scope) = none →
    (check config e.scope e.time s₀.counters).2 (key e.scope) = some c → c.expiresAt = some t →
    allowedOf e.scope (· ≤ t) (newer ++ [(s₀, e)]) ≤ config.maxRequests.toNat
  /-- In a half-open interval of the length of a window, no more than twice as many are. -/
  interval : ∀ scope a, allowedOf scope
    (fun t => a ≤ t ∧ t < a + config.windowSeconds.toNat * 1000) tr ≤ 2 * config.maxRequests.toNat
  /-- Checks of other scopes change neither the answers nor the counter. -/
  alone : ∀ scope tr' s', Run RateInit (RateStep config) tr' s' →
    (checksOf scope tr').map Prod.fst = (checksOf scope tr).map Prod.fst →
    checksOf scope tr' = checksOf scope tr ∧ s'.counters (key scope) = s.counters (key scope)
  /-- A counter expires, at most a window from now. -/
  expiring : ∀ k c, s.counters.live s.now k = some c →
    ∃ t, c.expiresAt = some t ∧ s.now ≤ t ∧ t ≤ s.now + config.windowSeconds.toNat * 1000
  /-- Checks of a scope are denied for no longer than a window. -/
  unblocked : ∀ newer s₀ e older, tr = newer ++ (s₀, e) :: older → e.decision.allowed = false →
    (∀ x ∈ checksOf e.scope newer, x.2.allowed = false) →
    ∀ x ∈ checksOf e.scope newer, x.1 ≤ e.time + config.windowSeconds.toNat * 1000
  /-- A denial reports a time between one second and the length of a window. -/
  denied : ∀ x ∈ tr, x.2.decision.allowed = false →
    ∃ r, x.2.decision.retryAfterSeconds = some r ∧ 1 ≤ r ∧ r ≤ config.windowSeconds.toNat

/-- A counter that a check creates is a window that it opens. -/
lemma opens_of_created (h : Represented config tr s) {t : ℕ}
    (hcreated : s.counters.live t (key scope) = none) :
    Opens (widthOf config) (after (widthOf config) (hitsOf (checksOf scope tr))) t := by
  by_contra ho
  rw [live_windowCounter _ (h.counter scope), if_neg ho] at hcreated
  obtain ⟨w, hw, -, -⟩ := hit_of_not_opens ho
  rw [hw] at hcreated
  cases hcreated

/-- Counters expire. -/
lemma counter_expiring (h : Represented config tr s) {k : String} {c : Counter}
    (hlive : s.counters.live s.now k = some c) :
    ∃ t, c.expiresAt = some t ∧ s.now ≤ t ∧ t ≤ s.now + config.windowSeconds.toNat * 1000 := by
  by_cases hkey : ∃ scope, key scope = k
  · obtain ⟨scope, rfl⟩ := hkey
    rw [live_windowCounter _ (h.counter scope)] at hlive
    split at hlive
    · cases hlive
    · rename_i ho
      obtain ⟨w, hw, hle, -⟩ := hit_of_not_opens ho
      have hopened := opened_le (h.hits_before scope) hw
      rw [hw] at hlive
      obtain rfl := Option.some.inj hlive
      exact ⟨w.opened + widthOf config, rfl, hle, Nat.add_le_add_right hopened _⟩
  · have hnone := h.other k fun scope hscope => hkey ⟨scope, hscope⟩
    unfold Counters.live at hlive
    rw [hnone] at hlive
    cases hlive

section Limited

variable (henabled : config.enabled = true) (hlow : 1 ≤ config.windowSeconds.toNat)
  (hhigh : config.windowSeconds.toNat < 2 ^ 31)

include henabled hlow hhigh

/-- Between the creation of a counter and its expiry, no more checks are allowed than configured. -/
lemma window_limited (h : Run RateInit (RateStep config) (newer ++ (s', e) :: older) s) {c : Counter}
    {t : ℕ} (hcreated : s'.counters.live e.time (key e.scope) = none)
    (hcounter : (check config e.scope e.time s'.counters).2 (key e.scope) = some c)
    (hexpires : c.expiresAt = some t) :
    allowedOf e.scope (· ≤ t) (newer ++ [(s', e)]) ≤ config.maxRequests.toNat := by
  obtain ⟨m, hm, -⟩ := Run.split h
  have hall := represented henabled hlow hhigh h
  have holder : Represented config older s' := by
    cases hm with
    | snoc hrun _ => exact represented henabled hlow hhigh hrun
  have hopens := opens_of_created holder hcreated
  rw [holder.check_eq henabled hlow hhigh] at hcounter
  dsimp only at hcounter
  rw [Function.update_self, hit_of_opens hopens] at hcounter
  obtain rfl := Option.some.inj hcounter
  obtain rfl := Option.some.inj hexpires
  have hkept := (hall.decided e.scope).kept
  rw [checksOf_append, checksOf_cons_self, hitsOf, List.map_append] at hkept
  have hbound := window_bound hkept hopens
  rw [allowedOf_eq, checksOf_append, checksOf_cons_self, hitsOf, List.map_append]
  exact hbound.trans limitOf_le

/-- A denial reports a time. -/
lemma denial_reports (h : Run RateInit (RateStep config) tr s) : ∀ x ∈ tr,
    x.2.decision.allowed = false → ∃ r, x.2.decision.retryAfterSeconds = some r ∧ 1 ≤ r ∧
      r ≤ config.windowSeconds.toNat := by
  intro x hx hdenied
  obtain ⟨newer, older, m, rfl, holder, hstep, -⟩ := h.of_mem hx
  have hrep := represented henabled hlow hhigh holder
  have hcheck := hstep.2.2
  rw [hrep.check_eq henabled hlow hhigh] at hcheck
  obtain ⟨hdecision, -⟩ := Prod.mk.inj hcheck
  rw [← hdecision] at hdenied ⊢
  refine decisionOf_denied hlow hhigh ?_ hdenied
  have hafter : after (widthOf config) ((x.2.time, true) :: hitsOf (checksOf x.2.scope older)) = some
      (hit (widthOf config) (after (widthOf config) (hitsOf (checksOf x.2.scope older))) x.2.time) := rfl
  refine opened_le ?_ hafter
  refine List.forall_mem_cons.mpr ⟨le_refl _, fun e he => ?_⟩
  exact (hrep.hits_before x.2.scope e he).trans hstep.1

/-- Checks are denied for no longer than a window. -/
lemma denials_end (hmax : 1 ≤ limitOf config)
    (h : Run RateInit (RateStep config) (newer ++ (s', e) :: older) s)
    (hdenied : e.decision.allowed = false)
    (hdenials : ∀ x ∈ checksOf e.scope newer, x.2.allowed = false) :
    ∀ x ∈ checksOf e.scope newer, x.1 ≤ e.time + config.windowSeconds.toNat * 1000 := by
  have hkept := ((represented henabled hlow hhigh h).decided e.scope).kept
  rw [checksOf_append, checksOf_cons_self, hitsOf, List.map_append, List.map_cons, hdenied] at hkept
  have hrefused : ∀ e' ∈ (checksOf e.scope newer).map fun x => (x.1, x.2.allowed), e'.2 = false := by
    intro e' he'
    obtain ⟨x, hx, rfl⟩ := List.mem_map.mp he'
    exact hdenials x hx
  intro x hx
  exact blocked_bound hmax hkept hrefused _ (List.mem_map_of_mem hx)

/-- Checks are limited if the limit is the configured number, and is not zero. -/
lemma rate_limited (hlimit : 1 ≤ limitOf config) (h : Run RateInit (RateStep config) tr s) :
    RateLimited config tr s := by
  have hrep := represented henabled hlow hhigh h
  refine ⟨?_, fun scope a => ?_, fun scope tr' s' h' htimes => ?_, ?_, ?_, ?_⟩
  · rintro newer s₀ e older c t rfl hcreated hcounter hexpires
    exact window_limited henabled hlow hhigh h hcreated hcounter hexpires
  · rw [allowedOf_eq]
    have hbound := interval_bound (hrep.decided scope).kept a
    have hle : limitOf config ≤ config.maxRequests.toNat := limitOf_le
    unfold widthOf at hbound
    omega
  · have hrep' := represented henabled hlow hhigh h'
    have hsame := (hrep'.decided scope).unique (hrep.decided scope) htimes
    refine ⟨hsame, ?_⟩
    rw [hrep'.counter, hrep.counter, hsame]
  · exact fun k c => counter_expiring hrep
  · rintro newer s₀ e older rfl hdenied hdenials
    exact denials_end henabled hlow hhigh hlimit h hdenied hdenials
  · exact denial_reports henabled hlow hhigh h

/-- If the limit is zero, every check is denied. -/
lemma all_denied (hlimit : limitOf config = 0) (h : Run RateInit (RateStep config) tr s) :
    ∀ x ∈ tr, x.2.decision.allowed = false := by
  intro x hx
  obtain ⟨newer, older, m, rfl, holder, hstep, -⟩ := h.of_mem hx
  have hcheck := hstep.2.2
  rw [(represented henabled hlow hhigh holder).check_eq henabled hlow hhigh] at hcheck
  obtain ⟨hdecision, -⟩ := Prod.mk.inj hcheck
  rw [← hdecision, decisionOf_allowed, hlimit]
  have hafter : after (widthOf config) ((x.2.time, true) :: hitsOf (checksOf x.2.scope older)) = some
      (hit (widthOf config) (after (widthOf config) (hitsOf (checksOf x.2.scope older))) x.2.time) := rfl
  have hone := one_le_hits hafter
  exact decide_eq_false (not_le.mpr hone)

/-- If the limit is zero, two checks with more than a window between them are both denied. -/
lemma blocked_of_limit_eq_zero (hlimit : limitOf config = 0) (scope : RateLimitScope) :
    ∃ tr s, Run RateInit (RateStep config) tr s ∧ ¬ RateLimited config tr s := by
  let later := config.windowSeconds.toNat * 1000 + 1
  let s₀ : RateState := { counters := fun _ => none, now := 0 }
  let e₁ : RateCheck := { scope, time := 0, decision := (check config scope 0 s₀.counters).1 }
  let s₁ : RateState := { counters := (check config scope 0 s₀.counters).2, now := 0 }
  let e₂ : RateCheck := { scope, time := later, decision := (check config scope later s₁.counters).1 }
  let s₂ : RateState := { counters := (check config scope later s₁.counters).2, now := later }
  have hinit : RateInit s₀ := rfl
  have hfirst : RateStep config s₀ e₁ s₁ := ⟨le_refl 0, rfl, rfl⟩
  have hsecond : RateStep config s₁ e₂ s₂ := ⟨Nat.zero_le later, rfl, rfl⟩
  have hrun : Run RateInit (RateStep config) [(s₁, e₂), (s₀, e₁)] s₂ :=
    ((Run.start hinit).snoc hfirst).snoc hsecond
  have hdenied := all_denied henabled hlow hhigh hlimit hrun
  have hsingle : checksOf scope [(s₁, e₂)] = [(later, e₂.decision)] :=
    show checksOf e₂.scope [(s₁, e₂)] = _ from checksOf_cons_self
  refine ⟨_, _, hrun, fun hlimited => ?_⟩
  have hends := hlimited.unblocked [(s₁, e₂)] s₀ e₁ [] rfl
    (hdenied _ (List.mem_cons_of_mem _ List.mem_cons_self))
  rw [show e₁.scope = scope from rfl, hsingle] at hends
  have hlater : later ≤ 0 + config.windowSeconds.toNat * 1000 :=
    hends (List.forall_mem_singleton.mpr (hdenied _ List.mem_cons_self)) _ List.mem_cons_self
  omega

end Limited

/-- **Checks are limited** in every run, exactly if the configured number is below `2^63`.

**Proof sketch.** The counter of a scope is a fixed window over its checks, as every check of the
scope hits it once more and no other check changes it.  A larger number becomes negative for the
script, so that every check is denied. -/
theorem rate_limited_iff (config : RateLimiterConfig) (henabled : config.enabled = true)
    (hmax : 1 ≤ config.maxRequests.toNat) (hlow : 1 ≤ config.windowSeconds.toNat)
    (hhigh : config.windowSeconds.toNat < 2 ^ 31) :
    (∀ tr s, Run RateInit (RateStep config) tr s → RateLimited config tr s) ↔
      config.maxRequests.toNat < 2 ^ 63 := by
  constructor
  · intro hall
    by_contra hlarge
    obtain ⟨tr, s, hrun, hnot⟩ := blocked_of_limit_eq_zero henabled hlow hhigh
      (limitOf_eq_zero (not_lt.mp hlarge))
      { ip := .v4 { a := 127, b := 0, c := 0, d := 1 }, action := .login }
    exact hnot (hall tr s hrun)
  · intro hsmall tr s hrun
    have hlimit : 1 ≤ limitOf config := by
      rw [limitOf_eq hsmall]
      exact hmax
    exact rate_limited henabled hlow hhigh hlimit hrun

/-- Five requests a minute. -/
theorem rate_limited_five :
    (∀ tr s, Run RateInit (RateStep ⟨true, 5, 60⟩) tr s → RateLimited ⟨true, 5, 60⟩ tr s) ↔
      (5 : UInt64).toNat < 2 ^ 63 :=
  rate_limited_iff ⟨true, 5, 60⟩ rfl (by decide) (by decide) (by decide)

/-- A configuration with `2^63` requests is valid, and blocks every address for ever. -/
theorem large_number_blocks :
    RateLimiterConfig.validated ⟨true, 9223372036854775808, 60⟩ = .ok () ∧
      ∃ tr s, Run RateInit (RateStep ⟨true, 9223372036854775808, 60⟩) tr s ∧
        ¬ RateLimited ⟨true, 9223372036854775808, 60⟩ tr s := by
  refine ⟨by decide, ?_⟩
  refine blocked_of_limit_eq_zero rfl (by decide) (by decide) (limitOf_eq_zero (by decide)) ?_
  exact { ip := .v4 { a := 127, b := 0, c := 0, d := 1 }, action := .login }

end Klynt
