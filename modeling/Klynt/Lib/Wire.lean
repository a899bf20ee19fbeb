import Mathlib.Algebra.Order.Field.Rat
import Mathlib.Data.List.Basic
import Mathlib.Tactic.Common

set_option relaxedAutoImplicit false
set_option autoImplicit false

/-!
# Documents between a script and a typed server

A script sends and gets documents whose numbers are fractions and whose keys are converted on the
way; a typed server reads integers of a fixed width and fields of fixed names.

## Main definitions

* `Wire` — a document.
* `Wire.convertKeys` — all keys of a document are converted.
* `Wire.field`, `Wire.asI32`, `Wire.asString`, `Wire.asList` — how a typed reader takes a document.
* `IsI32` — the numbers that are 32-bit integers.

## Main results

* `Wire.asList_map` — a list of documents is read exactly if each of them is.
-/

/-- A document. -/
inductive Wire where
  /-- The value `null`. -/
  | null
  /-- A boolean. -/
  | bool (b : Bool)
  /-- A number. -/
  | num (q : ℚ)
  /-- A string. -/
  | str (s : String)
  /-- An array. -/
  | arr (items : List Wire)
  /-- An object. -/
  | obj (members : List (String × Wire))

/-- A number is a 32-bit integer. -/
def IsI32 (q : ℚ) : Prop := q.den = 1 ∧ -2 ^ 31 ≤ q.num ∧ q.num < 2 ^ 31

instance (q : ℚ) : Decidable (IsI32 q) := inferInstanceAs (Decidable (_ ∧ _ ∧ _))

/-- Integers in the range are 32-bit integers. -/
lemma isI32_iff {q : ℚ} : IsI32 q ↔ ∃ n : ℤ, q = n ∧ -2 ^ 31 ≤ n ∧ n < 2 ^ 31 := by
  constructor
  · rintro ⟨hden, hlow, hhigh⟩
    exact ⟨q.num, (Rat.den_eq_one_iff q).mp hden |>.symm, hlow, hhigh⟩
  · rintro ⟨n, rfl, hlow, hhigh⟩
    exact ⟨Rat.den_intCast n, by rwa [Rat.num_intCast], by rwa [Rat.num_intCast]⟩

namespace Wire

/-! ## Keys -/

mutual

/-- All keys of a document are converted. -/
def convertKeys (convert : String → String) : Wire → Wire
  | null => null
  | bool b => bool b
  | num q => num q
  | str s => str s
  | arr items => arr (convertItems convert items)
  | obj members => obj (convertMembers convert members)

/-- All keys of the items are converted. -/
def convertItems (convert : String → String) : List Wire → List Wire
  | [] => []
  | w :: ws => convertKeys convert w :: convertItems convert ws

/-- All keys of the members are converted. -/
def convertMembers (convert : String → String) : List (String × Wire) → List (String × Wire)
  | [] => []
  | (k, w) :: ws => (convert k, convertKeys convert w) :: convertMembers convert ws

end

variable {α β : Type} (convert : String → String)

/-- The items are converted one by one. -/
lemma convertItems_eq_map (items : List Wire) :
    convertItems convert items = items.map (convertKeys convert) := by
  induction items with
  | nil => rfl
  | cons w ws ih => exact congrArg (convertKeys convert w :: ·) ih

/-- Documents in a list are converted one by one. -/
lemma convertItems_map (write : β → Wire) (l : List β) :
    convertItems convert (l.map write) = l.map fun b => convertKeys convert (write b) := by
  rw [convertItems_eq_map, List.map_map]
  rfl

/-! ## Reading -/

/-- The member of an object under a key that must occur once. -/
def field (key : String) : Wire → Option Wire
  | obj members =>
    match members.filter fun m => m.1 = key with
    | [m] => some m.2
    | _ => none
  | _ => none

/-- A 32-bit integer. -/
def asI32 : Wire → Option ℤ
  | num q => if IsI32 q then some q.num else none
  | _ => none

/-- A number. -/
def asNumber : Wire → Option ℚ
  | num q => some q
  | _ => none

/-- A string. -/
def asString : Wire → Option String
  | str s => some s
  | _ => none

/-- A list whose items are read in the same way. -/
def asList (read : Wire → Option α) : Wire → Option (List α)
  | arr items => items.mapM read
  | _ => none

/-- **A list of documents is read exactly if each of them is.** -/
lemma asList_map {read : Wire → Option α} {write : β → Wire} {f : β → α} {p : β → Prop}
    [DecidablePred p] (h : ∀ b, read (write b) = if p b then some (f b) else none) (l : List β) :
    asList read (arr (l.map write)) = if ∀ b ∈ l, p b then some (l.map f) else none := by
  show (l.map write).mapM read = _
  induction l with
  | nil => rfl
  | cons b l ih =>
    rw [List.map_cons, List.mapM_cons, h, ih]
    by_cases hb : p b
    · by_cases hl : ∀ b ∈ l, p b
      · rw [if_pos hb, if_pos hl, if_pos (List.forall_mem_cons.mpr ⟨hb, hl⟩)]
        rfl
      · rw [if_pos hb, if_neg hl, if_neg fun hall => hl (List.forall_mem_cons.mp hall).2]
        rfl
    · rw [if_neg hb, if_neg fun hall => hb (List.forall_mem_cons.mp hall).1]
      rfl

/-- A list of documents that are all read. -/
lemma asList_map_of_eq {read : Wire → Option α} {write : β → Wire} {f : β → α}
    (h : ∀ b, read (write b) = some (f b)) (l : List β) :
    asList read (arr (l.map write)) = some (l.map f) := by
  have hall := asList_map (p := fun _ => True) (fun b => (h b).trans (if_pos trivial).symm) l
  rwa [if_pos fun _ _ => trivial] at hall

end Wire
