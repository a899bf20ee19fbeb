import Klynt.Lib.Uuid

set_option relaxedAutoImplicit false
set_option autoImplicit false

/-!
# JSON documents in a database column

The part of a database's binary JSON that edits an array of objects: element access, text
access with a cast, concatenation and member replacement.  An expression that raises a
database error is an `Except.error` with the error's text, and SQL's null is `none`.

## Main definitions

* `Json` — JSON values; the members of an object are listed with distinct keys.
* `Json.arrayElements`, `Json.aggregate` — an array as a set of rows, and back.
* `Json.uuidAt` — `(j ->> key)::uuid`.
* `Json.concat`, `Json.setMember` — `j || j'` and `jsonb_set (j, '{key}', v)`.
-/

/-- A JSON value. -/
inductive Json where
  /-- The value `null`. -/
  | null
  /-- A boolean. -/
  | bool (b : Bool)
  /-- A number. -/
  | num (n : Int)
  /-- A string. -/
  | str (s : String)
  /-- An array. -/
  | arr (items : List Json)
  /-- An object. -/
  | obj (members : List (String × Json))

namespace Json

/-- The empty array. -/
def emptyArray : Json := arr []

/-- `jsonb_array_elements (j)`. -/
def arrayElements : Json → Except String (List Json)
  | arr items => .ok items
  | obj _ => .error "cannot extract elements from an object"
  | _ => .error "cannot extract elements from a scalar"

/-- `COALESCE (jsonb_agg (row), '[]')`: the aggregate of no rows is null. -/
def aggregate (rows : List Json) : Json := arr rows

/-- `j -> key`. -/
def member? (key : String) : Json → Option Json
  | obj members => members.lookup key
  | _ => none

/-- `(j ->> key)::uuid`: null if the member is missing or `null`. -/
def uuidAt (key : String) (j : Json) : Except String (Option Uuid) :=
  match j.member? key with
  | none | some .null => .ok none
  | some (.str s) => parse s
  | some (.num n) => parse (toString n)
  | some _ => .error "invalid input syntax for type uuid"
where
  /-- The cast of a text. -/
  parse (s : String) : Except String (Option Uuid) :=
    match Uuid.cast? s with
    | some u => .ok (some u)
    | none => .error "invalid input syntax for type uuid"

/-- `a = b` on nullable values: null if either side is. -/
def sqlEq (a b : Option Uuid) : Option Bool :=
  match a, b with
  | some a, some b => some (a == b)
  | _, _ => none

/-- The rows a condition keeps: those for which it is true, not false and not null. -/
def holds (c : Option Bool) : Bool := c == some true

/-- Merge the members of two objects; the right object wins. -/
def merge (l r : List (String × Json)) : List (String × Json) :=
  l.filter (fun m => (r.lookup m.1).isNone) ++ r

/-- `j || j'`. -/
def concat : Json → Json → Json
  | arr l, arr r => arr (l ++ r)
  | arr l, j => arr (l ++ [j])
  | j, arr r => arr (j :: r)
  | obj l, obj r => obj (merge l r)
  | j, j' => arr [j, j']

/-- `jsonb_set (j, '{key}', v)` for a member name `key`. -/
def setMember (j : Json) (key : String) (v : Json) : Except String Json :=
  match j with
  | obj members =>
    if (members.lookup key).isSome then
      .ok (obj (members.map fun m => if m.1 = key then (key, v) else m))
    else .ok (obj (members ++ [(key, v)]))
  | arr _ => .error "path element at position 1 is not an integer"
  | _ => .error "cannot set path in scalar"

mutual

/-- All strings of a document, and the keys of its members, satisfy a condition. -/
def allTexts (p : String → Bool) : Json → Bool
  | str s => p s
  | arr items => allTextsOfItems p items
  | obj members => allTextsOfMembers p members
  | null | bool _ | num _ => true

/-- The same for the elements of an array. -/
def allTextsOfItems (p : String → Bool) : List Json → Bool
  | [] => true
  | j :: items => allTexts p j && allTextsOfItems p items

/-- The same for the members of an object. -/
def allTextsOfMembers (p : String → Bool) : List (String × Json) → Bool
  | [] => true
  | (key, j) :: members => p key && allTexts p j && allTextsOfMembers p members

end

/-- The texts of an array are those of its elements. -/
theorem allTexts_arr_map {α : Type} (p : String → Bool) (f : α → Json) (l : List α) :
    allTexts p (arr (l.map f)) = true ↔ ∀ a ∈ l, allTexts p (f a) = true := by
  show allTextsOfItems p (l.map f) = true ↔ _
  induction l with
  | nil => exact iff_of_true rfl (fun _ h => nomatch h)
  | cons a l ih =>
    rw [List.map_cons, allTextsOfItems, Bool.and_eq_true, ih, List.forall_mem_cons]

/-- The elements of an aggregate are the rows. -/
@[simp] theorem arrayElements_aggregate (rows : List Json) :
    arrayElements (aggregate rows) = .ok rows := rfl

/-- Concatenating two aggregates. -/
@[simp] theorem concat_aggregate (l r : List Json) :
    concat (aggregate l) (aggregate r) = aggregate (l ++ r) := rfl

/-- Comparing two values that are not null. -/
@[simp] theorem holds_sqlEq (a b : Uuid) : holds (sqlEq (some a) (some b)) = (a == b) := by
  simp [holds, sqlEq]

end Json
