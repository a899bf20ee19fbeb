import Mathlib.Data.List.Sort
import Mathlib.Data.List.Nodup
import Mathlib.Tactic.Common

set_option relaxedAutoImplicit false
set_option autoImplicit false

/-!
# Ranks in a stable sort

Named elements are sorted by a key, stably.  The rank of a name is the place at which its element
comes out.

## Main definitions

* `sortBy` — the stable sort by a key.
* `sortRank` — the rank of a name.

## Main results

* `sortRank_lt`, `sortRank_inj` — ranks are places of the list, and no two names share one.
* `sortRank_lt_sortRank` — a smaller key has a smaller rank.
-/

variable {α ι κ : Type} [LinearOrder κ] (key : α → κ)

/-- The stable sort by a key. -/
def sortBy (l : List α) : List α := l.insertionSort fun a b => key a ≤ key b

/-- Sorting permutes. -/
lemma sortBy_perm (l : List α) : (sortBy key l).Perm l := List.perm_insertionSort _ l

/-- The keys of a sorted list ascend. -/
lemma sortBy_pairwise (l : List α) : (sortBy key l).Pairwise fun a b => key a ≤ key b :=
  haveI : Std.Total fun a b : α => key a ≤ key b := ⟨fun a b => le_total (key a) (key b)⟩
  haveI : IsTrans α fun a b => key a ≤ key b := ⟨fun _ _ _ => le_trans⟩
  List.pairwise_insertionSort _ l

variable [DecidableEq ι]

/-- The place of a name after sorting. -/
def sortRank (l : List (ι × α)) (i : ι) : ℕ := ((sortBy (fun e => key e.2) l).map Prod.fst).idxOf i

variable {key} {l : List (ι × α)} {i j : ι} {a b : α}

omit [DecidableEq ι] in
/-- The names of a sorted list. -/
lemma mem_sortBy_names : i ∈ (sortBy (fun e => key e.2) l).map Prod.fst ↔ i ∈ l.map Prod.fst :=
  ((sortBy_perm _ l).map Prod.fst).mem_iff

/-- A rank is a place of the list. -/
lemma sortRank_lt (hi : i ∈ l.map Prod.fst) : sortRank key l i < l.length := by
  have hmem : i ∈ (sortBy (fun e => key e.2) l).map Prod.fst := mem_sortBy_names.mpr hi
  have h := List.idxOf_lt_length_of_mem hmem
  rwa [List.length_map, (sortBy_perm _ l).length_eq] at h

/-- No two names share a rank. -/
lemma sortRank_inj (hi : i ∈ l.map Prod.fst) (h : sortRank key l i = sortRank key l j) : i = j :=
  (List.idxOf_inj (mem_sortBy_names.mpr hi)).mp h

/-- **A smaller key has a smaller rank.** -/
lemma sortRank_lt_sortRank (hl : (l.map Prod.fst).Nodup) (hi : (i, a) ∈ l) (hj : (j, b) ∈ l)
    (h : key a < key b) : sortRank key l i < sortRank key l j := by
  have hnodup : ((sortBy (fun e => key e.2) l).map Prod.fst).Nodup :=
    ((sortBy_perm _ l).map Prod.fst).nodup_iff.mpr hl
  have hsorted := sortBy_pairwise (fun e : ι × α => key e.2) l
  -- both elements have a place in the sorted list, which is their rank
  obtain ⟨m, hm, hma⟩ := List.getElem_of_mem ((sortBy_perm (fun e => key e.2) l).mem_iff.mpr hi)
  obtain ⟨n, hn, hnb⟩ := List.getElem_of_mem ((sortBy_perm (fun e => key e.2) l).mem_iff.mpr hj)
  have hrank : ∀ {p : ℕ} {e : ι × α} (hp : p < (sortBy (fun e => key e.2) l).length),
      (sortBy (fun e => key e.2) l)[p] = e → sortRank key l e.1 = p := by
    intro p e hp he
    have hlength : p < ((sortBy (fun e => key e.2) l).map Prod.fst).length := by simpa using hp
    have hname : ((sortBy (fun e => key e.2) l).map Prod.fst)[p] = e.1 := by
      rw [List.getElem_map, he]
    unfold sortRank
    rw [← hname]
    exact hnodup.idxOf_getElem p _
  rw [hrank hm hma, hrank hn hnb]
  by_contra hle
  rcases Nat.lt_or_ge n m with hlt | hge
  · have hpair := List.pairwise_iff_getElem.mp hsorted n m hn hm hlt
    rw [hma, hnb] at hpair
    exact absurd hpair (not_le.mpr h)
  · have hmn : m = n := by omega
    subst hmn
    rw [hma] at hnb
    obtain ⟨-, rfl⟩ := Prod.mk.inj hnb
    exact lt_irrefl _ h
