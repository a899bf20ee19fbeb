import Klynt.Lib.Percent
import Mathlib.Data.List.Basic

set_option relaxedAutoImplicit false
set_option autoImplicit false

/-!
# Queries of addresses

Names and values are written to the query of an address as browsers do it: a blank becomes a plus,
letters, digits and four marks stay, and every other byte is percent-encoded; ampersands separate
pairs, and the first equals sign of a pair separates its name from its value.

## Main definitions

* `FormUrl.encode`, `FormUrl.decode?` — a name or value, and what is read of it.
* `FormUrl.serialize`, `FormUrl.parse` — pairs of names and values, and what is read of them.

## Main results

* `FormUrl.decode?_encode` — a name or value is read back.
* `FormUrl.parse_serialize` — pairs are read back.

## Implementation notes

Bytes that are no text are read with replacement characters by browsers; pairs with such bytes are
not followed here.
-/

namespace FormUrl

/-! ## Definitions -/

/-- The characters that stand for themselves. -/
def isSafe (b : UInt8) : Bool :=
  48 ≤ b && b ≤ 57 || 65 ≤ b && b ≤ 90 || 97 ≤ b && b ≤ 122 || b == 42 || b == 45 || b == 46 || b == 95

/-- A hexadecimal digit. -/
def hexChar (n : UInt8) : Char := Char.ofNat ((if n < 10 then 48 + n else 55 + n).toNat)

/-- What is written for a byte. -/
def encodeByte (b : UInt8) : List Char :=
  if b = 32 then ['+']
  else if isSafe b then [Char.ofNat b.toNat]
  else ['%', hexChar (b / 16), hexChar (b % 16)]

/-- What is written for a text. -/
def encode (text : String) : List Char :=
  (text.toList.flatMap String.utf8EncodeChar).flatMap encodeByte

/-- Pluses stand for blanks. -/
def blank (c : Char) : Char := if c = '+' then ' ' else c

/-- The text that is read of a name or value, if its bytes are one. -/
def decode? (cs : List Char) : Option String := percentDecoded? (String.ofList (cs.map blank))

/-- The name and the value of a pair. -/
def readPair (cs : List Char) : Option (String × String) := do
  let name ← decode? (cs.takeWhile (· ≠ '='))
  let value ← decode? ((cs.dropWhile (· ≠ '=')).drop 1)
  return (name, value)

/-- The pairs of a query. -/
def parse (query : List Char) : List (String × String) :=
  ((query.splitOn '&').filter (· ≠ [])).filterMap readPair

/-- The query of some pairs. -/
def serialize (pairs : List (String × String)) : List Char :=
  ['&'].intercalate (pairs.map fun p => encode p.1 ++ '=' :: encode p.2)

/-! ## Bytes -/

/-- What holds of 256 numbers holds of every byte. -/
lemma forall_byte {p : UInt8 → Bool} (h : ∀ n : Fin 256, p (UInt8.ofNat n) = true) (b : UInt8) :
    p b = true := by
  have hb := h ⟨b.toNat, b.toNat_lt⟩
  rwa [UInt8.ofNat_toNat] at hb

/-- The bytes that are read where a byte was written. -/
def written (b : UInt8) : List UInt8 := ((encodeByte b).map blank).flatMap String.utf8EncodeChar

/-- The bytes of a byte are the byte itself, which is no percent sign, or a percent sign with the
digits of the byte. -/
def readsBack (b : UInt8) : Bool :=
  match written b with
  | [c] => c == b && b != 37
  | [p, hi, lo] => p == 37 && (hexDigit? hi).any fun h => (hexDigit? lo).any fun l => h * 16 + l == b
  | _ => false

/-- Every byte is read back. -/
lemma readsBack_all (b : UInt8) : readsBack b = true := forall_byte (by decide +kernel) b

/-- **A byte is read back**, and what follows it is read by itself. -/
lemma percentDecode_written (b : UInt8) (rest : List UInt8) :
    percentDecode (written b ++ rest) = b :: percentDecode rest := by
  have hback := readsBack_all b
  unfold readsBack at hback
  split at hback
  · rename_i c hwritten
    obtain ⟨hc, hne⟩ := Bool.and_eq_true_iff.mp hback
    obtain rfl : c = b := beq_iff_eq.mp hc
    have hpercent : (c == 37) = false := by simpa using hne
    rw [hwritten, List.singleton_append, percentDecode.eq_def]
    simp only [hpercent]
  · rename_i p hi lo hwritten
    obtain ⟨hp, hdigits⟩ := Bool.and_eq_true_iff.mp hback
    obtain rfl : p = 37 := beq_iff_eq.mp hp
    simp only [Option.any_eq_true] at hdigits
    obtain ⟨h, hh, l, hl, hvalue⟩ := hdigits
    obtain rfl := beq_iff_eq.mp hvalue
    rw [hwritten]
    simp only [List.cons_append, List.nil_append, percentDecode, beq_self_eq_true, hh, hl]
  · cases hback

/-- Bytes are read back. -/
lemma percentDecode_flatMap (bytes : List UInt8) :
    percentDecode (bytes.flatMap written) = bytes := by
  induction bytes with
  | nil => rfl
  | cons b bytes ih => rw [List.flatMap_cons, percentDecode_written, ih]

/-! ## Texts -/

/-- **A text is read back.** -/
theorem decode?_encode (text : String) : decode? (encode text) = some text := by
  have hbytes : (((encode text).map blank).flatMap String.utf8EncodeChar) =
      (text.toList.flatMap String.utf8EncodeChar).flatMap written := by
    unfold encode written
    rw [List.map_flatMap, List.flatMap_assoc]
  have hutf8 : (text.toList.flatMap String.utf8EncodeChar).toByteArray = text.toByteArray :=
    String.utf8Encode_toList
  unfold decode? percentDecoded? String.fromUTF8?
  rw [String.toList_ofList, hbytes, percentDecode_flatMap, hutf8, dif_pos text.isValidUTF8]
  rfl

/-- The characters that are written. -/
def isWritten (c : Char) : Bool := c ≠ '&' ∧ c ≠ '=' ∧ c ≠ '#' ∧ 32 < c.toNat

/-- No delimiter, blank or control is written for a text. -/
lemma isWritten_of_mem {text : String} {c : Char} (hc : c ∈ encode text) : isWritten c = true := by
  obtain ⟨b, -, hb⟩ := List.mem_flatMap.mp hc
  have hall : (encodeByte b).all isWritten = true :=
    forall_byte (p := fun b => (encodeByte b).all isWritten) (by decide +kernel) b
  exact List.all_eq_true.mp hall c hb

/-- A pair is read back. -/
lemma readPair_eq (p : String × String) : readPair (encode p.1 ++ '=' :: encode p.2) = some p := by
  have hname : ∀ c ∈ encode p.1, decide (c ≠ '=') = true := fun c hc =>
    decide_eq_true (of_decide_eq_true (isWritten_of_mem hc)).2.1
  unfold readPair
  rw [List.takeWhile_append_of_pos hname, List.dropWhile_append_of_pos hname]
  simp [decode?_encode]

/-- **Pairs are read back.** -/
theorem parse_serialize (pairs : List (String × String)) : parse (serialize pairs) = pairs := by
  have hne : ∀ cs ∈ pairs.map fun p => encode p.1 ++ '=' :: encode p.2, cs ≠ [] := by
    intro cs hcs
    obtain ⟨p, -, rfl⟩ := List.mem_map.mp hcs
    exact List.append_ne_nil_of_right_ne_nil _ (List.cons_ne_nil _ _)
  have hamp : ∀ cs ∈ pairs.map fun p => encode p.1 ++ '=' :: encode p.2, '&' ∉ cs := by
    intro cs hcs hmem
    obtain ⟨p, -, rfl⟩ := List.mem_map.mp hcs
    rcases List.mem_append.mp hmem with hname | hvalue
    · exact (of_decide_eq_true (isWritten_of_mem hname)).1 rfl
    · rcases List.mem_cons.mp hvalue with heq | hvalue
      · cases heq
      · exact (of_decide_eq_true (isWritten_of_mem hvalue)).1 rfl
  cases pairs with
  | nil => rfl
  | cons p pairs =>
    unfold parse serialize
    rw [List.splitOn_intercalate '&' hamp (by simp),
      List.filter_eq_self.mpr fun cs hcs => decide_eq_true (hne cs hcs), List.filterMap_map]
    exact (List.filterMap_congr fun q _ => readPair_eq q).trans List.filterMap_some

example : String.ofList (serialize [("from", "http://a.b/?x=1&y=%")]) =
    "from=http%3A%2F%2Fa.b%2F%3Fx%3D1%26y%3D%25" := by decide +kernel

end FormUrl
