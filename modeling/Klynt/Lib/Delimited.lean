import Mathlib.Tactic.Common

set_option relaxedAutoImplicit false
set_option autoImplicit false

/-!
# Rewriting between delimiters

A rewriting of a list that leaves delimiters in place and turns every other element into some other
elements, none of them a delimiter.  Where a list is cut at delimiters, the rewritten list is cut
into the rewritten pieces.

## Main definitions

* `Rewritten` — a list and what such a rewriting makes of it.

## Main results

* `Rewritten.of_append_cons` — a rewritten list is cut where the list is.
* `cut_unique` — a list is cut in one way at its first delimiter.
* `Rewritten.head?_iff`, `Rewritten.getLast?_iff` — delimiters at the ends stay there.
-/

variable {α : Type} {δ : α → Prop}

/-- The second list is the first with every element that is no delimiter replaced by one or more
elements that are none. -/
inductive Rewritten (δ : α → Prop) : List α → List α → Prop
  /-- Nothing to rewrite. -/
  | nil : Rewritten δ [] []
  /-- A delimiter stays. -/
  | keep {c : α} {xs ys : List α} (hc : δ c) (h : Rewritten δ xs ys) :
      Rewritten δ (c :: xs) (c :: ys)
  /-- Another element is replaced. -/
  | replace {c : α} {image xs ys : List α} (hc : ¬ δ c) (hne : image ≠ [])
      (himage : ∀ x ∈ image, ¬ δ x) (h : Rewritten δ xs ys) : Rewritten δ (c :: xs) (image ++ ys)

namespace Rewritten

variable {c : α} {xs xs' ys ys' : List α}

/-- Rewritings one after the other. -/
lemma append (h : Rewritten δ xs ys) (h' : Rewritten δ xs' ys') :
    Rewritten δ (xs ++ xs') (ys ++ ys') := by
  induction h with
  | nil => exact h'
  | keep hc h ih => exact .keep hc ih
  | replace hc hne himage h ih =>
    rw [List.append_assoc]
    exact .replace hc hne himage ih

/-- A rewriting read backwards. -/
lemma reverse (h : Rewritten δ xs ys) : Rewritten δ xs.reverse ys.reverse := by
  induction h with
  | nil => exact .nil
  | keep hc h ih =>
    rw [List.reverse_cons, List.reverse_cons]
    exact ih.append (.keep hc .nil)
  | @replace c image xs ys hc hne himage h ih =>
    rw [List.reverse_cons, List.reverse_append]
    have hone : Rewritten δ [c] (image.reverse ++ []) :=
      .replace hc (by simpa using hne) (by simpa using himage) .nil
    rw [List.append_nil] at hone
    exact ih.append hone

/-- **A rewritten list is cut where the list is.** -/
lemma of_append_cons {left right : List α} (hc : δ c)
    (h : Rewritten δ (left ++ c :: right) ys) :
    ∃ left' right', ys = left' ++ c :: right' ∧ Rewritten δ left left' ∧
      Rewritten δ right right' := by
  induction left generalizing ys with
  | nil =>
    cases h with
    | keep _ h => exact ⟨[], _, rfl, .nil, h⟩
    | replace hne _ _ _ => exact absurd hc hne
  | cons x left ih =>
    cases h with
    | keep hx h =>
      obtain ⟨left', right', rfl, hleft, hright⟩ := ih h
      exact ⟨x :: left', right', rfl, .keep hx hleft, hright⟩
    | @replace _ image _ ys hx hne himage h =>
      obtain ⟨left', right', rfl, hleft, hright⟩ := ih h
      exact ⟨image ++ left', right', (List.append_assoc ..).symm, .replace hx hne himage hleft,
        hright⟩

/-- The delimiters of a list are those of the rewritten list. -/
lemma mem_iff (h : Rewritten δ xs ys) (hc : δ c) : c ∈ ys ↔ c ∈ xs := by
  induction h with
  | nil => rfl
  | keep hx h ih => rw [List.mem_cons, List.mem_cons, ih]
  | @replace x image xs ys hx hne himage h ih =>
    have hself : c ≠ x := by
      rintro rfl
      exact hx hc
    rw [List.mem_append, List.mem_cons, ih]
    constructor
    · rintro (hmem | hmem)
      · exact absurd hc (himage c hmem)
      · exact .inr hmem
    · rintro (rfl | hmem)
      · exact absurd rfl hself
      · exact .inr hmem

/-- Only nothing is rewritten to nothing. -/
lemma eq_nil_iff (h : Rewritten δ xs ys) : ys = [] ↔ xs = [] := by
  cases h with
  | nil => exact Iff.rfl
  | keep hc h => simp
  | replace hc hne himage h => simp [hne]

/-- A delimiter at the front stays there. -/
lemma head?_iff (h : Rewritten δ xs ys) (hc : δ c) : ys.head? = some c ↔ xs.head? = some c := by
  cases h with
  | nil => exact Iff.rfl
  | keep hx h => simp
  | @replace x image xs ys hx hne himage h =>
    obtain ⟨y, image, rfl⟩ := List.exists_cons_of_ne_nil hne
    have hy : ¬ δ y := himage y List.mem_cons_self
    constructor
    · intro hhead
      obtain rfl : y = c := Option.some.inj hhead
      exact absurd hc hy
    · intro hhead
      obtain rfl : x = c := Option.some.inj hhead
      exact absurd hc hx

/-- A delimiter at the end stays there. -/
lemma getLast?_iff (h : Rewritten δ xs ys) (hc : δ c) :
    ys.getLast? = some c ↔ xs.getLast? = some c := by
  rw [← List.head?_reverse, ← List.head?_reverse]
  exact h.reverse.head?_iff hc

/-- A rewriting of each element by itself. -/
lemma map {f : α → α} (hkeep : ∀ c, δ c → f c = c) (hother : ∀ c, ¬ δ c → ¬ δ (f c))
    (xs : List α) : Rewritten δ xs (xs.map f) := by
  induction xs with
  | nil => exact .nil
  | cons x xs ih =>
    by_cases hx : δ x
    · rw [List.map_cons, hkeep x hx]
      exact .keep hx ih
    · have hone : ∀ y ∈ [f x], ¬ δ y := by
        intro y hy
        obtain rfl := List.mem_singleton.mp hy
        exact hother x hx
      exact .replace hx (List.cons_ne_nil _ _) hone ih

end Rewritten

/-! ## Cuts -/

/-- A list is cut in one way into a part without a delimiter and one that begins with it. -/
lemma cut_unique {c : α} {a b p q : List α} (ha : c ∉ a) (hb : c ∉ b)
    (hp : ∀ e ∈ p.head?, e = c) (hq : ∀ e ∈ q.head?, e = c)
    (h : a ++ p = b ++ q) : a = b ∧ p = q := by
  rcases List.append_eq_append_iff.mp h with ⟨m, rfl, rfl⟩ | ⟨m, rfl, rfl⟩
  · cases m with
    | nil => simp
    | cons e m =>
      obtain rfl := hp e rfl
      simp at hb
  · cases m with
    | nil => simp
    | cons e m =>
      obtain rfl := hq e rfl
      simp at ha
