import Mathlib.Tactic.Common

set_option relaxedAutoImplicit false
set_option autoImplicit false

/-!
# Texts

The operations of the standard library's `str` that the domain types use.  Lower-casing
follows the Unicode tables, which are a parameter of the development: all that is used of them
is that ASCII texts are lower-cased letter by letter.

## Main definitions

* `Unicode` — the lower-casing of texts.
* `Unicode.ascii` — the tables restricted to ASCII, for evaluation.
* `trim` — white space removed at both ends.
-/

/-- The Unicode tables: `str::to_lowercase`. -/
class Unicode where
  /-- `str::to_lowercase`. -/
  toLowercase : String → String
  /-- ASCII texts are lower-cased letter by letter. -/
  toLowercase_ascii : ∀ s : String, (∀ c ∈ s.toList, c.toNat < 128) →
    toLowercase s = String.ofList (s.toList.map Char.toLower)

export Unicode (toLowercase)

/-- Tables that know the ASCII letters only. -/
@[reducible] def Unicode.ascii : Unicode where
  toLowercase s := String.ofList (s.toList.map Char.toLower)
  toLowercase_ascii _ _ := rfl

/-- Whether a character has the Unicode property `White_Space`. -/
def isWhiteSpace (c : Char) : Bool :=
  let n := c.toNat
  (0x9 ≤ n && n ≤ 0xD) || n == 0x20 || n == 0x85 || n == 0xA0 || n == 0x1680 ||
    (0x2000 ≤ n && n ≤ 0x200A) || n == 0x2028 || n == 0x2029 || n == 0x202F || n == 0x205F ||
    n == 0x3000

/-- `str::trim`. -/
def trim (s : String) : String :=
  String.ofList ((s.toList.dropWhile isWhiteSpace).reverse.dropWhile isWhiteSpace).reverse

/-- A text of lower-case ASCII characters is its own lower-case text. -/
theorem toLowercase_eq_self [Unicode] {s : String}
    (h : s.toList.all (fun c => c.toNat < 128 && c.toLower == c) = true) : toLowercase s = s := by
  have hchar : ∀ c ∈ s.toList, c.toNat < 128 ∧ c.toLower = c := by simpa using h
  have hmap : s.toList.map Char.toLower = s.toList :=
    (List.map_congr_left fun c hc => (hchar c hc).2).trans (List.map_id' _)
  rw [Unicode.toLowercase_ascii s fun c hc => (hchar c hc).1, hmap, String.ofList_toList]
