import Mathlib.Data.Finmap
import Mathlib.Data.List.Perm.Basic
import Mathlib.Tactic.Common

set_option relaxedAutoImplicit false
set_option autoImplicit false

/-!
# Lists that encode finite maps

A list whose elements carry a key encodes a finite map from keys to values.  The three edits
below work on the whole list at once, as a database expression over an array does, and each
is one operation on the map.

## Main definitions

* `Keyed.upsert`, `Keyed.modify`, `Keyed.erase` — the edits of a list.
* `Keyed.insertAll` — insertions that skip the keys that are there.
* `Keyed.toMap` — the finite map a list encodes; the first entry of a key counts.

## Main results

* `Keyed.toMap_upsert`, `Keyed.toMap_modify`, `Keyed.toMap_erase` — the edits on the map.
* `Keyed.nodup_upsert`, `Keyed.nodup_modify`, `Keyed.nodup_erase` — no edit duplicates a key.
* `Keyed.filter_append_outside`, `Keyed.filter_map_outside`, `Keyed.filter_filter_outside` — an
  edit outside a part of the list keeps the part.
* `Keyed.upsert_of_forall_ne` — an absent key is appended.
-/

namespace Keyed

variable {α K V : Type} [DecidableEq K] (key : α → K) (val : α → V)

/-- Replace the elements with the key of `a` by `a`, and append `a` if there is none. -/
def upsert (a : α) (l : List α) : List α :=
  (l.map fun b => if key b = key a then a else b) ++ if ∃ b ∈ l, key b = key a then [] else [a]

/-- Apply `f` to the elements with key `k`. -/
def modify (k : K) (f : α → α) (l : List α) : List α :=
  l.map fun b => if key b = k then f b else b

/-- Drop the elements with key `k`. -/
def erase (k : K) (l : List α) : List α := l.filter fun b => key b ≠ k

/-- Append `a` unless its key is there, as `INSERT … ON CONFLICT DO NOTHING` does. -/
def insertNew (l : List α) (a : α) : List α := if ∃ b ∈ l, key b = key a then l else l ++ [a]

/-- Append the elements with new keys one after another. -/
def insertAll (rows l : List α) : List α := rows.foldl (insertNew key) l

/-- The finite map encoded by a list. -/
def toMap (l : List α) : Finmap fun _ : K => V :=
  (l.map fun a => (⟨key a, val a⟩ : Sigma fun _ : K => V)).toFinmap

/-! ## Looking up a key -/

/-- Looking up a key finds the value of its first element. -/
theorem lookup_toMap (k : K) (l : List α) :
    (toMap key val l).lookup k = (l.find? fun a => key a = k).map val := by
  rw [toMap, Finmap.dlookup_list_toFinmap]
  induction l with
  | nil => rfl
  | cons a l ih =>
    by_cases h : key a = k
    · subst h; simp
    · rw [List.map_cons, List.dlookup_cons_ne _ _ (Ne.symm h), ih]
      simp [h]

variable {key} in
/-- In an upserted list the key of `a` finds `a`, and other keys find what they found. -/
theorem find?_upsert (a : α) (l : List α) (k : K) :
    (upsert key a l).find? (fun b => key b = k) =
      if k = key a then some a else l.find? fun b => key b = k := by
  have hkey : ∀ b, key (if key b = key a then a else b) = key b := by
    intro b; split <;> simp [*]
  rw [upsert, List.find?_append, List.find?_map]
  have hcomp : ((fun b => decide (key b = k)) ∘ fun b => if key b = key a then a else b) =
      fun b => decide (key b = k) := by
    funext b; simp [hkey b]
  rw [hcomp]
  by_cases hk : k = key a
  · subst hk
    cases hfind : l.find? fun b => key b = key a with
    | none =>
      have hex : ¬ ∃ b ∈ l, key b = key a := by simpa using hfind
      rw [if_neg hex]; simp
    | some b =>
      have hb : key b = key a := by simpa using List.find?_some hfind
      simp [hb]
  · rw [if_neg hk]
    cases hfind : l.find? fun b => key b = k with
    | none =>
      rw [Option.map_none, Option.none_or]
      split
      · rfl
      · simp [Ne.symm hk]
    | some b =>
      have hb : key b = k := by simpa using List.find?_some hfind
      simp [hb, hk]

variable {key} in
/-- Modifying keeps what other keys find, and applies `f` to what `k` finds. -/
theorem find?_modify {f : α → α} (hf : ∀ b, key (f b) = key b) (k k' : K) (l : List α) :
    (modify key k f l).find? (fun b => key b = k') =
      (l.find? fun b => key b = k').map fun b => if k' = k then f b else b := by
  induction l with
  | nil => rfl
  | cons b l ih =>
    have hkey : key (if key b = k then f b else b) = key b := by split <;> simp [hf]
    by_cases hb : key b = k'
    · subst hb; simp [modify, hkey]
    · simpa [modify, hkey, hb] using ih

variable {key} in
/-- An erased key finds nothing, and other keys find what they found. -/
theorem find?_erase (k k' : K) (l : List α) :
    (erase key k l).find? (fun b => key b = k') =
      if k' = k then none else l.find? fun b => key b = k' := by
  rw [erase, List.find?_filter]
  by_cases hk : k' = k
  · subst hk
    rw [if_pos rfl, List.find?_eq_none]
    simp
  · rw [if_neg hk]
    congr 1
    funext b
    by_cases hb : key b = k'
    · simp [hb, hk]
    · simp [hb]

/-! ## The edits on the map -/

/-- **Upserting is inserting.** -/
theorem toMap_upsert (a : α) (l : List α) :
    toMap key val (upsert key a l) = (toMap key val l).insert (key a) (val a) := by
  refine Finmap.ext_lookup fun k => ?_
  rw [lookup_toMap, find?_upsert]
  by_cases hk : k = key a
  · subst hk; simp
  · rw [if_neg hk, Finmap.lookup_insert_of_ne _ hk, lookup_toMap]

/-- **Modifying is inserting if the key is present**, and nothing otherwise. -/
theorem toMap_modify {f : α → α} {v : V} (hf : ∀ b, key (f b) = key b)
    (hv : ∀ b, val (f b) = v) (k : K) (l : List α) :
    toMap key val (modify key k f l) =
      if k ∈ toMap key val l then (toMap key val l).insert k v else toMap key val l := by
  refine Finmap.ext_lookup fun k' => ?_
  rw [lookup_toMap, find?_modify hf]
  by_cases hk : k' = k
  · subst hk
    cases hfind : l.find? fun b => key b = k' with
    | none =>
      have hnot : k' ∉ toMap key val l := by
        rw [← Finmap.lookup_eq_none, lookup_toMap, hfind]; rfl
      rw [if_neg hnot, lookup_toMap, hfind]; rfl
    | some b =>
      have hmem : k' ∈ toMap key val l := by
        rw [← Finmap.lookup_isSome, lookup_toMap, hfind]; rfl
      rw [if_pos hmem, Finmap.lookup_insert]; simp [hv]
  · have hsame : (if k ∈ toMap key val l then (toMap key val l).insert k v
        else toMap key val l).lookup k' = (toMap key val l).lookup k' := by
      split
      · exact Finmap.lookup_insert_of_ne _ hk
      · rfl
    rw [hsame, lookup_toMap]
    simp [hk]

/-- **Erasing is erasing.** -/
theorem toMap_erase (k : K) (l : List α) :
    toMap key val (erase key k l) = (toMap key val l).erase k := by
  refine Finmap.ext_lookup fun k' => ?_
  rw [lookup_toMap, find?_erase]
  by_cases hk : k' = k
  · subst hk; simp [Finmap.lookup_erase]
  · rw [if_neg hk, Finmap.lookup_erase_ne hk, lookup_toMap]

/-! ## Keys stay distinct -/

/-- The keys after an upsert. -/
theorem map_key_upsert (a : α) (l : List α) :
    (upsert key a l).map key = l.map key ++ if ∃ b ∈ l, key b = key a then [] else [key a] := by
  have hkeys : (l.map fun b => if key b = key a then a else b).map key = l.map key := by
    rw [List.map_map]
    refine List.map_congr_left fun b _ => ?_
    by_cases hb : key b = key a
    · simp [hb]
    · simp [hb]
  rw [upsert, List.map_append, hkeys]
  split <;> rfl

/-- Upserting duplicates no key. -/
theorem nodup_upsert {a : α} {l : List α} (h : (l.map key).Nodup) :
    ((upsert key a l).map key).Nodup := by
  rw [map_key_upsert]
  split
  · simpa using h
  · rename_i hex
    refine List.nodup_append.mpr ⟨h, List.nodup_singleton _, ?_⟩
    rintro x hx y hy rfl
    obtain ⟨b, hb, hbk⟩ := List.mem_map.mp hx
    exact hex ⟨b, hb, hbk.trans (List.mem_singleton.mp hy)⟩

/-- Modifying duplicates no key. -/
theorem nodup_modify {f : α → α} (hf : ∀ b, key (f b) = key b) {k : K} {l : List α}
    (h : (l.map key).Nodup) : ((modify key k f l).map key).Nodup := by
  have hkeys : (modify key k f l).map key = l.map key := by
    rw [modify, List.map_map]
    refine List.map_congr_left fun b _ => ?_
    by_cases hb : key b = k
    · simp [hb, hf]
    · simp [hb]
  rwa [hkeys]

/-- Erasing duplicates no key. -/
theorem nodup_erase {k : K} {l : List α} (h : (l.map key).Nodup) :
    ((erase key k l).map key).Nodup :=
  h.sublist (List.filter_sublist.map key)

omit [DecidableEq K] in
/-- Appending an element with a new key duplicates no key. -/
theorem nodup_concat {a : α} {l : List α} (h : (l.map key).Nodup) (ha : ∀ b ∈ l, key b ≠ key a) :
    ((l ++ [a]).map key).Nodup := by
  rw [List.map_append, List.map_singleton]
  refine List.nodup_append.mpr ⟨h, List.nodup_singleton _, ?_⟩
  rintro x hx y hy rfl
  obtain ⟨b, hb, hbk⟩ := List.mem_map.mp hx
  exact ha b hb (hbk.trans (List.mem_singleton.mp hy))

omit [DecidableEq K] in
/-- Dropping elements duplicates no key. -/
theorem nodup_filter {p : α → Bool} {l : List α} (h : (l.map key).Nodup) :
    ((l.filter p).map key).Nodup :=
  h.sublist (List.filter_sublist.map key)

omit [DecidableEq K] in
/-- Editing elements without touching their keys duplicates no key. -/
theorem nodup_map {f : α → α} (hf : ∀ a, key (f a) = key a) {l : List α} (h : (l.map key).Nodup) :
    ((l.map f).map key).Nodup := by
  have hkeys : (l.map f).map key = l.map key := by
    rw [List.map_map]; exact List.map_congr_left fun a _ => hf a
  rwa [hkeys]

omit [DecidableEq K] in
/-- With distinct keys, an element is determined by its key. -/
theorem eq_of_key_eq {l : List α} (h : (l.map key).Nodup) {a b : α} (ha : a ∈ l) (hb : b ∈ l)
    (hab : key a = key b) : a = b := List.inj_on_of_nodup_map h ha hb hab

/-- With distinct keys, an element is found under its key. -/
theorem find?_key_eq {l : List α} (h : (l.map key).Nodup) {a : α} (ha : a ∈ l) :
    l.find? (fun b => key b = key a) = some a := by
  cases hfind : l.find? (fun b => key b = key a) with
  | none => exact absurd (decide_eq_true rfl) (List.find?_eq_none.mp hfind a ha)
  | some b =>
    have hb : key b = key a := by simpa using List.find?_some hfind
    rw [eq_of_key_eq key h (List.mem_of_find?_eq_some hfind) ha hb]

/-- With distinct keys, the elements of one key are a single element. -/
theorem filter_key_eq {l : List α} (h : (l.map key).Nodup) {a : α} (ha : a ∈ l) :
    l.filter (fun b => key b = key a) = [a] := by
  induction l with
  | nil => cases ha
  | cons b l ih =>
    obtain ⟨hb, hl⟩ := List.nodup_cons.mp h
    rcases List.mem_cons.mp ha with rfl | ha
    · have hnone : l.filter (fun c => key c = key a) = [] := by
        refine List.filter_eq_nil_iff.mpr fun c hc hca => hb ?_
        exact List.mem_map.mpr ⟨c, hc, by simpa using hca⟩
      simp [hnone]
    · have hne : key b ≠ key a := fun hba => hb (List.mem_map.mpr ⟨a, ha, hba.symm⟩)
      simpa [hne] using ih hl ha

/-! ## Insertions of new keys -/

section Insert

variable {a : α} {rows l : List α}

/-- **Rows with new keys** are all appended. -/
theorem insertAll_of_nodup (h : ((l ++ rows).map key).Nodup) : insertAll key rows l = l ++ rows := by
  induction rows generalizing l with
  | nil => exact (List.append_nil l).symm
  | cons b rows ih =>
    have hnew : ¬ ∃ c ∈ l, key c = key b := by
      rintro ⟨c, hc, hkey⟩
      rw [List.map_append, List.map_cons] at h
      exact (List.nodup_append.mp h).2.2 _ (List.mem_map_of_mem hc) _ List.mem_cons_self hkey
    have happend : l ++ b :: rows = (l ++ [b]) ++ rows := by simp
    rw [insertAll, List.foldl_cons, insertNew, if_neg hnew, happend]
    exact ih (happend ▸ h)

/-- **Rows without new keys** change nothing. -/
theorem insertAll_of_mem (h : ∀ a ∈ rows, ∃ b ∈ l, key b = key a) : insertAll key rows l = l := by
  induction rows with
  | nil => rfl
  | cons b rows ih =>
    rw [insertAll, List.foldl_cons, insertNew, if_pos (h b List.mem_cons_self)]
    exact ih fun a ha => h a (List.mem_cons_of_mem b ha)

/-- The keys after insertions. -/
theorem exists_key_insertAll {k : K} :
    (∃ b ∈ insertAll key rows l, key b = k) ↔ (∃ b ∈ l, key b = k) ∨ ∃ a ∈ rows, key a = k := by
  induction rows generalizing l with
  | nil => simp [insertAll]
  | cons b rows ih =>
    have hhead : (∃ c ∈ insertNew key l b, key c = k) ↔ (∃ c ∈ l, key c = k) ∨ key b = k := by
      unfold insertNew
      split
      · rename_i hex
        exact ⟨.inl, fun h => h.elim id fun hk => hk ▸ hex⟩
      · simp [or_and_right, exists_or]
    refine (ih (l := insertNew key l b)).trans ?_
    rw [hhead, or_assoc]
    simp

end Insert

/-! ## Parts of a list -/

section Part

variable {p q : α → Bool} {f : α → α} {l l' : List α}

omit [DecidableEq K]

/-- Appending elements outside a part keeps the part. -/
theorem filter_append_outside (h : ∀ a ∈ l', p a = false) : (l ++ l').filter p = l.filter p := by
  have hnil : l'.filter p = [] := List.filter_eq_nil_iff.mpr fun a ha => by rw [h a ha]; nofun
  rw [List.filter_append, hnil, List.append_nil]

/-- Editing elements outside a part keeps the part. -/
theorem filter_map_outside (h : ∀ a ∈ l, f a = a ∨ p a = false ∧ p (f a) = false) :
    (l.map f).filter p = l.filter p := by
  induction l with
  | nil => rfl
  | cons a l ih =>
    have ih := ih fun b hb => h b (List.mem_cons_of_mem _ hb)
    rw [List.map_cons, List.filter_cons, List.filter_cons, ih]
    obtain ha | ⟨ha, hfa⟩ := h a List.mem_cons_self
    · rw [ha]
    · rw [ha, hfa, if_neg nofun, if_neg nofun]

/-- Dropping elements outside a part keeps the part. -/
theorem filter_filter_outside (h : ∀ a ∈ l, p a = true → q a = true) :
    (l.filter q).filter p = l.filter p := by
  rw [List.filter_filter]
  refine List.filter_congr fun a ha => ?_
  cases hp : p a with
  | false => rfl
  | true => rw [h a ha hp, Bool.true_and]

end Part

/-! ## Absent keys -/

/-- An absent key is appended. -/
theorem upsert_of_forall_ne {a : α} {l : List α} (h : ∀ b ∈ l, key b ≠ key a) :
    upsert key a l = l ++ [a] := by
  have hmap : (l.map fun b => if key b = key a then a else b) = l :=
    (List.map_congr_left fun b hb => if_neg (h b hb)).trans (List.map_id' l)
  have hex : ¬ ∃ b ∈ l, key b = key a := fun ⟨b, hb, hk⟩ => h b hb hk
  rw [upsert, hmap, if_neg hex]

end Keyed
