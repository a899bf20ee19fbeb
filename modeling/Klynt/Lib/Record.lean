import Klynt.Lib.Keyed

set_option relaxedAutoImplicit false
set_option autoImplicit false

/-!
# Records

Records of a script: properties in the order in which they were added, each name once.  Setting a
property that is there leaves it in its place.

## Main definitions

* `Record` — a list of properties with distinct names.
* `Record.get?`, `Record.set`, `Record.delete`, `Record.mapValues` — the operations.
* `Record.values`, `Record.others` — all values, and those under the other names.

## Main results

* `Record.get?_set`, `Record.get?_delete`, `Record.get?_mapValues` — what is read afterwards.
* `Record.values_perm` — all values are the value of a property and the others.

## Implementation notes

Every object of a script inherits some properties (`constructor`, `__proto__`).  Records have none,
so these names are none of theirs.
-/

/-- A record: properties with distinct names. -/
structure Record (α : Type) where
  /-- The properties. -/
  entries : List (String × α)
  /-- Names are distinct. -/
  nodup : (entries.map Prod.fst).Nodup

namespace Record

variable {α β : Type} (r : Record α) (k k' : String)

/-- The record without properties. -/
def empty : Record α := ⟨[], List.nodup_nil⟩

/-- `r[k]`, if it is defined. -/
def get? : Option α := (r.entries.find? fun e => e.1 = k).map (·.2)

/-- `r[k] = a`. -/
def set (a : α) : Record α :=
  ⟨Keyed.upsert Prod.fst (k, a) r.entries, Keyed.nodup_upsert Prod.fst r.nodup⟩

/-- `delete r[k]`. -/
def delete : Record α := ⟨Keyed.erase Prod.fst k r.entries, Keyed.nodup_erase Prod.fst r.nodup⟩

/-- A change of every value. -/
def mapValues (f : String → α → β) : Record β :=
  ⟨r.entries.map fun e => (e.1, f e.1 e.2), by
    rw [List.map_map]
    exact r.nodup⟩

/-- `Object.values (r)`. -/
def values : List α := r.entries.map (·.2)

/-- The values under other names. -/
def others : List α := (r.entries.filter fun e => e.1 ≠ k).map (·.2)

/-! ## Reading -/

/-- Nothing is read from the empty record. -/
@[simp] lemma get?_empty : (empty : Record α).get? k = none := rfl

/-- A property that is set is read. -/
@[simp] lemma get?_set (a : α) : (r.set k a).get? k' = if k' = k then some a else r.get? k' := by
  have h := @Keyed.find?_upsert _ _ _ Prod.fst (k, a) r.entries k'
  show Option.map _ ((Keyed.upsert Prod.fst (k, a) r.entries).find? fun e => Prod.fst e = k') = _
  rw [h]
  split
  · rfl
  · rfl

/-- A property that is deleted is not read. -/
@[simp] lemma get?_delete : (r.delete k).get? k' = if k' = k then none else r.get? k' := by
  have h := @Keyed.find?_erase _ _ _ Prod.fst k k' r.entries
  show Option.map _ ((Keyed.erase Prod.fst k r.entries).find? fun e => Prod.fst e = k') = _
  rw [h]
  split
  · rfl
  · rfl

/-- Changed values are read. -/
@[simp] lemma get?_mapValues (f : String → α → β) :
    (r.mapValues f).get? k = (r.get? k).map (f k) := by
  obtain ⟨entries, hnodup⟩ := r
  unfold get? mapValues
  rw [List.find?_map, Option.map_map, Option.map_map]
  show Option.map _ (entries.find? fun e => e.1 = k) = _
  cases hfind : entries.find? (fun e => e.1 = k) with
  | none => rfl
  | some e =>
    have hkey : e.1 = k := by simpa using List.find?_some hfind
    show some (f e.1 e.2) = some (f k e.2)
    rw [hkey]

/-- A property that is read is one of the properties. -/
lemma mem_of_get? {a : α} (h : r.get? k = some a) : (k, a) ∈ r.entries := by
  obtain ⟨e, hfind, rfl⟩ := Option.map_eq_some_iff.mp h
  have hkey : e.1 = k := by simpa using List.find?_some hfind
  rw [← hkey]
  exact List.mem_of_find?_eq_some hfind

/-- The properties are what is read. -/
lemma mem_entries {a : α} : (k, a) ∈ r.entries ↔ r.get? k = some a := by
  refine ⟨fun h => ?_, r.mem_of_get? k⟩
  unfold get?
  rw [Keyed.find?_key_eq Prod.fst r.nodup h]
  rfl

/-! ## Values -/

/-- Setting a property leaves the values under other names. -/
@[simp] lemma others_set (a : α) : (r.set k a).others k = r.others k := by
  unfold others set Keyed.upsert
  rw [List.filter_append, List.map_append]
  have hnew : (if ∃ b ∈ r.entries, b.1 = (k, a).1 then [] else [(k, a)]).filter
      (fun e => e.1 ≠ k) = [] := by
    split <;> simp
  rw [hnew, List.map_nil, List.append_nil]
  induction r.entries with
  | nil => rfl
  | cons e entries ih =>
    by_cases h : e.1 = k
    · simp only [List.map_cons, h, if_true, ne_eq, not_true_eq_false, decide_false,
        Bool.false_eq_true, not_false_eq_true, List.filter_cons_of_neg]
      exact ih
    · simp only [List.map_cons, h, if_false, ne_eq, not_false_eq_true, decide_true,
        List.filter_cons_of_pos]
      exact congrArg _ ih

/-- Without the property, all values are under other names. -/
lemma values_of_none (h : r.get? k = none) : r.values = r.others k := by
  unfold values others
  rw [List.filter_eq_self.mpr]
  intro e he
  refine decide_eq_true fun hkey => ?_
  subst hkey
  rw [(r.mem_entries e.1).mp he] at h
  cases h

/-- **All values** are the value of the property and those under other names. -/
lemma values_perm {a : α} (h : r.get? k = some a) : r.values.Perm (a :: r.others k) := by
  have hone : (r.entries.filter fun e => e.1 = k) = [(k, a)] :=
    Keyed.filter_key_eq Prod.fst r.nodup (r.mem_of_get? k h)
  have hsplit := List.filter_append_perm (fun e => decide (e.1 = k)) r.entries
  rw [hone] at hsplit
  have hothers : (r.entries.filter fun e => !decide (e.1 = k)) =
      r.entries.filter fun e => e.1 ≠ k :=
    List.filter_congr fun e _ => by simp
  rw [hothers] at hsplit
  exact (hsplit.map (·.2)).symm

end Record
