import Mathlib.Data.List.Basic
import Mathlib.Order.Basic
import Mathlib.Order.Nat
import Mathlib.Tactic.Common

set_option relaxedAutoImplicit false
set_option autoImplicit false

/-!
# Fixed windows

A counter admits a limited number of hits in a window.  A window opens with the first hit outside
the window before it and has a fixed width, both ends included.

## Main definitions

* `FixedWindow` — an open window: when it opened, and its hits so far.
* `FixedWindow.hit`, `FixedWindow.after` — one more hit, and the window after a history.
* `FixedWindow.Kept` — the histories in which hits are admitted as the counter does.
* `FixedWindow.Opens` — a hit that opens a window.

## Main results

* `FixedWindow.window_bound` — a window admits at most the limit.
* `FixedWindow.interval_bound` — a half-open interval of the width of a window admits at most twice
  the limit.
* `FixedWindow.blocked_bound` — hits are refused for no longer than a window.
-/

/-- A window. -/
structure FixedWindow where
  /-- When it opened. -/
  opened : ℕ
  /-- The hits so far. -/
  hits : ℕ

namespace FixedWindow

/-- A history of hits, newest first: when they came, and whether they were admitted. -/
abbrev History : Type := List (ℕ × Bool)

variable (limit width : ℕ)

/-- A hit opens a window: there is none yet, or it is over. -/
def Opens (window : Option FixedWindow) (t : ℕ) : Prop :=
  ∀ w, window = some w → w.opened + width < t

instance (window : Option FixedWindow) (t : ℕ) : Decidable (Opens width window t) :=
  match window with
  | none => isTrue nofun
  | some w =>
    decidable_of_iff (w.opened + width < t)
      ⟨fun h w' hw => by cases hw; exact h, fun h => h w rfl⟩

/-- The window after one more hit. -/
def hit (window : Option FixedWindow) (t : ℕ) : FixedWindow :=
  match window with
  | some w => if t ≤ w.opened + width then { w with hits := w.hits + 1 } else { opened := t, hits := 1 }
  | none => { opened := t, hits := 1 }

/-- The window after a history. -/
def after : History → Option FixedWindow
  | [] => none
  | e :: older => some (hit width (after older) e.1)

/-- Hits come in order, and each is admitted exactly if the window has not had too many. -/
def Kept : History → Prop
  | [] => True
  | e :: older => Kept older ∧ (∀ e' ∈ older, e'.1 ≤ e.1) ∧
      e.2 = decide ((hit width (after width older) e.1).hits ≤ limit)

/-- The admitted hits of a history at times that satisfy a condition. -/
def count (p : ℕ → Prop) [DecidablePred p] (h : History) : ℕ := h.countP fun e => e.2 && decide (p e.1)

variable {limit width} {h older newer : History} {t : ℕ} {b : Bool} {p q : ℕ → Prop}
  [DecidablePred p] [DecidablePred q]

/-- One more hit counts at most once. -/
lemma count_cons : count p ((t, b) :: h) = count p h + if b = true ∧ p t then 1 else 0 := by
  unfold count
  rw [List.countP_cons]
  simp

/-- A hit that is not admitted, or at another time, does not count. -/
lemma count_cons_of_not (hp : ¬ (b = true ∧ p t)) : count p ((t, b) :: h) = count p h := by
  rw [count_cons, if_neg hp, Nat.add_zero]

/-- A weaker condition counts more. -/
lemma count_mono (hpq : ∀ e ∈ h, p e.1 → q e.1) : count p h ≤ count q h := by
  refine List.countP_mono_left fun e he hp => ?_
  simp only [Bool.and_eq_true, decide_eq_true_eq] at hp ⊢
  exact ⟨hp.1, hpq e he hp.2⟩

/-- Nothing counts at times before which the history ends. -/
lemma count_eq_zero (hp : ∀ e ∈ h, ¬ p e.1) : count p h = 0 := by
  refine List.countP_eq_zero.mpr fun e he hcount => ?_
  simp only [Bool.and_eq_true, decide_eq_true_eq] at hcount
  exact hp e he hcount.2

/-- A hit that opens a window. -/
lemma hit_of_opens {window : Option FixedWindow} (ho : Opens width window t) :
    hit width window t = { opened := t, hits := 1 } := by
  cases window with
  | none => rfl
  | some w =>
    have hlt := ho w rfl
    unfold hit
    dsimp only
    rw [if_neg (by omega)]

/-- A hit that opens no window. -/
lemma hit_of_not_opens {window : Option FixedWindow} (ho : ¬ Opens width window t) :
    ∃ w, window = some w ∧ t ≤ w.opened + width ∧
      hit width window t = { w with hits := w.hits + 1 } := by
  cases window with
  | none => exact absurd nofun ho
  | some w =>
    have hle : t ≤ w.opened + width := by
      by_contra hlt
      refine ho fun w' hw => ?_
      obtain rfl := Option.some.inj hw
      omega
    refine ⟨w, rfl, hle, ?_⟩
    unfold hit
    dsimp only
    rw [if_pos hle]

/-- An admitted hit is among the first ones of its window. -/
lemma hits_le_of_admitted (hk : Kept limit width ((t, b) :: h)) (hb : b = true) :
    (hit width (after width h) t).hits ≤ limit := by
  have hdecided : b = decide ((hit width (after width h) t).hits ≤ limit) := hk.2.2
  rw [hdecided] at hb
  exact of_decide_eq_true hb

/-- A window has a hit. -/
lemma one_le_hits {w : FixedWindow} (h : after width older = some w) : 1 ≤ w.hits := by
  cases older with
  | nil => cases h
  | cons e older =>
    obtain rfl := Option.some.inj h
    by_cases ho : Opens width (after width older) e.1
    · rw [hit_of_opens ho]
    · obtain ⟨w, -, -, hhit⟩ := hit_of_not_opens ho
      rw [hhit]
      exact Nat.le_add_left 1 w.hits

/-- A window opened when a hit came. -/
lemma opened_le {w : FixedWindow} (ht : ∀ e ∈ older, e.1 ≤ t) (h : after width older = some w) :
    w.opened ≤ t := by
  induction older generalizing w with
  | nil => cases h
  | cons e older ih =>
    obtain ⟨hlast, hearlier⟩ := List.forall_mem_cons.mp ht
    obtain rfl := Option.some.inj h
    by_cases ho : Opens width (after width older) e.1
    · rw [hit_of_opens ho]
      exact hlast
    · obtain ⟨w, hw, -, hhit⟩ := hit_of_not_opens ho
      rw [hhit]
      show w.opened ≤ t
      exact ih hearlier hw

/-! ## One window -/

/-- What a window has admitted, and whether it is still open. -/
lemma window_bound_aux {t₀ : ℕ} {b₀ : Bool} (hk : Kept limit width (newer ++ (t₀, b₀) :: older))
    (ho : Opens width (after width older) t₀) :
    count (· ≤ t₀ + width) (newer ++ [(t₀, b₀)]) ≤ limit ∧
      ((∀ e ∈ newer, e.1 ≤ t₀ + width) → ∃ hits,
        after width (newer ++ (t₀, b₀) :: older) = some ⟨t₀, hits⟩ ∧
          count (· ≤ t₀ + width) (newer ++ [(t₀, b₀)]) ≤ hits) := by
  induction newer with
  | nil =>
    have hopened : hit width (after width older) t₀ = ⟨t₀, 1⟩ := hit_of_opens ho
    have hone : count (· ≤ t₀ + width) [(t₀, b₀)] ≤ 1 := List.countP_le_length
    refine ⟨?_, fun _ => ⟨1, congrArg some hopened, hone⟩⟩
    by_cases hb : b₀ = true
    · have hle := hits_le_of_admitted hk hb
      rw [hopened] at hle
      exact hone.trans hle
    · have hnot : ¬ (b₀ = true ∧ t₀ ≤ t₀ + width) := fun hp => hb hp.1
      rw [List.nil_append, count_cons_of_not (p := (· ≤ t₀ + width)) hnot]
      exact Nat.zero_le _
  | cons e newer ih =>
    obtain ⟨t, b⟩ := e
    obtain ⟨hle, hopen⟩ := ih hk.1
    rcases Nat.lt_or_ge (t₀ + width) t with hover | hin
    · -- the window is over
      have hnot : ¬ (b = true ∧ t ≤ t₀ + width) := fun hp => absurd hp.2 (not_le.mpr hover)
      rw [List.cons_append, count_cons_of_not (p := (· ≤ t₀ + width)) hnot]
      exact ⟨hle, fun hall => absurd (hall _ List.mem_cons_self) (not_le.mpr hover)⟩
    · have hearlier : ∀ e ∈ newer, e.1 ≤ t₀ + width := fun e he =>
        (hk.2.1 e (List.mem_append_left _ he)).trans hin
      obtain ⟨hits, hafter, hcount⟩ := hopen hearlier
      have hhit : hit width (after width (newer ++ (t₀, b₀) :: older)) t = ⟨t₀, hits + 1⟩ := by
        rw [hafter]
        unfold hit
        dsimp only
        rw [if_pos hin]
      rw [List.cons_append, count_cons]
      refine ⟨?_, fun _ => ⟨hits + 1, congrArg some hhit, ?_⟩⟩
      · split
        · rename_i hcounted
          have hadmitted := hits_le_of_admitted (h := newer ++ (t₀, b₀) :: older) hk hcounted.1
          rw [hhit] at hadmitted
          exact (Nat.add_le_add_right hcount 1).trans hadmitted
        · exact hle
      · split <;> omega

/-- **A window admits at most the limit**, from the hit that opens it to its end. -/
theorem window_bound {t₀ : ℕ} {b₀ : Bool} (hk : Kept limit width (newer ++ (t₀, b₀) :: older))
    (ho : Opens width (after width older) t₀) :
    count (· ≤ t₀ + width) (newer ++ [(t₀, b₀)]) ≤ limit := (window_bound_aux hk ho).1

/-! ## An interval -/

/-- What the current window has admitted, against the hits since some time. -/
structure Recent (limit width : ℕ) (h : History) (w : FixedWindow) (admitted : ℕ) : Prop where
  /-- It has admitted no more than it was hit. -/
  le_hits : admitted ≤ w.hits
  /-- It has admitted no more than the limit. -/
  le_limit : admitted ≤ limit
  /-- Hits after it opened are its own. -/
  since : ∀ a, w.opened < a → count (a ≤ ·) h ≤ admitted
  /-- Hits since less than a width before it opened are its own, and those of the window before. -/
  before : ∀ a, w.opened < a + width → count (a ≤ ·) h ≤ limit + admitted

/-- A hit that opens a window. -/
lemma Recent.opens (hk : Kept limit width ((t, b) :: h)) (ho : Opens width (after width h) t)
    (hr : ∀ w, after width h = some w → ∃ n, Recent limit width h w n) :
    ∃ n, Recent limit width ((t, b) :: h) ⟨t, 1⟩ n := by
  have hopened : hit width (after width h) t = ⟨t, 1⟩ := hit_of_opens ho
  have hold : ∀ a, t < a + width → count (a ≤ ·) h ≤ limit := by
    intro a ha
    cases h with
    | nil => exact Nat.zero_le _
    | cons e h =>
      obtain ⟨n, hn⟩ := hr _ rfl
      have hover := ho _ rfl
      exact (hn.since a (by omega)).trans hn.le_limit
  refine ⟨if b = true then 1 else 0, ?_, ?_, fun a ha => ?_, fun a ha => ?_⟩
  · split <;> simp
  · split
    · rename_i hb
      have hle := hits_le_of_admitted hk hb
      rwa [hopened] at hle
    · exact Nat.zero_le _
  · have hnone : count (a ≤ ·) ((t, b) :: h) = 0 := by
      refine count_eq_zero fun e he => not_le.mpr ?_
      rcases List.mem_cons.mp he with rfl | he
      · exact ha
      · exact lt_of_le_of_lt (hk.2.1 e he) ha
    rw [hnone]
    exact Nat.zero_le _
  · rw [count_cons]
    have hle := hold a ha
    split_ifs with hcounted hb
    · omega
    · exact absurd hcounted.1 hb
    · omega
    · omega

/-- A hit of the current window. -/
lemma Recent.goes_on {w : FixedWindow} {n : ℕ} (hk : Kept limit width ((t, b) :: h))
    (hhit : hit width (after width h) t = { w with hits := w.hits + 1 })
    (hr : Recent limit width h w n) :
    ∃ n, Recent limit width ((t, b) :: h) { w with hits := w.hits + 1 } n := by
  refine ⟨n + if b = true then 1 else 0, ?_, ?_, fun a ha => ?_, fun a ha => ?_⟩
  · have hle := hr.le_hits
    show n + _ ≤ w.hits + 1
    split <;> omega
  · have hle := hr.le_hits
    split
    · rename_i hb
      have hadmitted := hits_le_of_admitted hk hb
      rw [hhit] at hadmitted
      exact (Nat.add_le_add_right hle 1).trans hadmitted
    · exact hr.le_limit
  · have hle := hr.since a ha
    rw [count_cons]
    split_ifs with hcounted hb
    · omega
    · exact absurd hcounted.1 hb
    · omega
    · omega
  · have hle := hr.before a ha
    rw [count_cons]
    split_ifs with hcounted hb
    · omega
    · exact absurd hcounted.1 hb
    · omega
    · omega

/-- Every history has a current window with its hits, and no interval admits too many. -/
lemma interval_bound_aux (hk : Kept limit width h) :
    (∀ w, after width h = some w → ∃ n, Recent limit width h w n) ∧
      ∀ a, count (fun t => a ≤ t ∧ t < a + width) h ≤ 2 * limit := by
  induction h with
  | nil => exact ⟨nofun, fun a => Nat.zero_le _⟩
  | cons e h ih =>
    obtain ⟨t, b⟩ := e
    obtain ⟨hrecent, hinterval⟩ := ih hk.1
    have hnext : ∃ n, Recent limit width ((t, b) :: h) (hit width (after width h) t) n := by
      by_cases ho : Opens width (after width h) t
      · rw [hit_of_opens ho]
        exact Recent.opens hk ho hrecent
      · obtain ⟨w, hw, -, hhit⟩ := hit_of_not_opens ho
        obtain ⟨n, hn⟩ := hrecent w hw
        rw [hhit]
        exact hn.goes_on hk hhit
    refine ⟨fun w hw => ?_, fun a => ?_⟩
    · obtain rfl := Option.some.inj hw
      exact hnext
    · by_cases hcounted : b = true ∧ a ≤ t ∧ t < a + width
      · obtain ⟨n, hn⟩ := hnext
        have hafter : after width ((t, b) :: h) = some (hit width (after width h) t) := rfl
        have hopened := opened_le (List.forall_mem_cons.mpr ⟨le_refl t, hk.2.1⟩) hafter
        have hsince := hn.before a (lt_of_le_of_lt hopened hcounted.2.2)
        have hlimit := hn.le_limit
        have hmono : count (fun t => a ≤ t ∧ t < a + width) ((t, b) :: h) ≤
            count (a ≤ ·) ((t, b) :: h) := count_mono fun _ _ hp => hp.1
        omega
      · rw [count_cons_of_not hcounted]
        exact hinterval a

/-- **A half-open interval of the width of a window admits at most twice the limit.** -/
theorem interval_bound (hk : Kept limit width h) (a : ℕ) :
    count (fun t => a ≤ t ∧ t < a + width) h ≤ 2 * limit := (interval_bound_aux hk).2 a

/-! ## Refused hits -/

/-- While hits are refused, the window stays the same. -/
lemma blocked_bound_aux {t₀ : ℕ} (hlimit : 1 ≤ limit)
    (hk : Kept limit width (newer ++ (t₀, false) :: older)) (hrefused : ∀ e ∈ newer, e.2 = false) :
    ∃ w, after width (newer ++ (t₀, false) :: older) = some w ∧ w.opened ≤ t₀ ∧
      ∀ e ∈ newer, e.1 ≤ w.opened + width := by
  induction newer with
  | nil =>
    refine ⟨hit width (after width older) t₀, rfl, ?_, List.forall_mem_nil _⟩
    have hafter : after width ((t₀, false) :: older) = some (hit width (after width older) t₀) := rfl
    exact opened_le (List.forall_mem_cons.mpr ⟨le_refl t₀, hk.2.1⟩) hafter
  | cons e newer ih =>
    obtain ⟨hlast, hearlier⟩ := List.forall_mem_cons.mp hrefused
    obtain ⟨w, hw, hopened, hwithin⟩ := ih hk.1 hearlier
    have hdecided : e.2 = decide ((hit width (some w) e.1).hits ≤ limit) := hw ▸ hk.2.2
    by_cases ho : Opens width (some w) e.1
    · -- the first hit of a window is admitted
      rw [hlast, hit_of_opens ho, decide_eq_true hlimit] at hdecided
      exact absurd hdecided Bool.false_ne_true
    · obtain ⟨w', hw', hle, hhit⟩ := hit_of_not_opens ho
      obtain rfl := Option.some.inj hw'
      refine ⟨{ w with hits := w.hits + 1 }, ?_, hopened, ?_⟩
      · rw [← hhit, ← hw]
        rfl
      · exact List.forall_mem_cons.mpr ⟨hle, hwithin⟩

/-- **Hits are refused for no longer than a window.** -/
theorem blocked_bound {t₀ : ℕ} (hlimit : 1 ≤ limit)
    (hk : Kept limit width (newer ++ (t₀, false) :: older)) (hrefused : ∀ e ∈ newer, e.2 = false) :
    ∀ e ∈ newer, e.1 ≤ t₀ + width := by
  obtain ⟨w, -, hopened, hwithin⟩ := blocked_bound_aux hlimit hk hrefused
  exact fun e he => (hwithin e he).trans (Nat.add_le_add_right hopened width)

end FixedWindow
