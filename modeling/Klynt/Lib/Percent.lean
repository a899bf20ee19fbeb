import Mathlib.Tactic.Common

set_option relaxedAutoImplicit false
set_option autoImplicit false

/-!
# Percent-encoding

A percent sign with two hexadecimal digits stands for a byte; other percent signs stand for
themselves.

## Main definitions

* `percentDecode` — the bytes that a text of bytes stands for.
* `percentDecoded?` — the text that a text stands for, if its bytes are one.

## Main results

* `percentDecoded?_of_not_mem` — a text without percent signs stands for itself.
-/

/-- The value of a hexadecimal digit. -/
def hexDigit? (b : UInt8) : Option UInt8 :=
  if 48 ≤ b ∧ b ≤ 57 then some (b - 48)
  else if 65 ≤ b ∧ b ≤ 70 then some (b - 55)
  else if 97 ≤ b ∧ b ≤ 102 then some (b - 87)
  else none

/-- The bytes that a text of bytes stands for. -/
def percentDecode : List UInt8 → List UInt8
  | [] => []
  | b :: rest =>
    match b == 37, rest with
    | true, hi :: lo :: rest =>
      match hexDigit? hi, hexDigit? lo with
      | some h, some l => (h * 16 + l) :: percentDecode rest
      | _, _ => b :: percentDecode (hi :: lo :: rest)
    | _, rest => b :: percentDecode rest

/-- The text that a text stands for, if its bytes are one. -/
def percentDecoded? (s : String) : Option String :=
  String.fromUTF8? (percentDecode (s.toList.flatMap String.utf8EncodeChar)).toByteArray

/-- Bytes other than percent signs stand for themselves. -/
lemma percentDecode_of_not_mem {l : List UInt8} (h : (37 : UInt8) ∉ l) : percentDecode l = l := by
  induction l with
  | nil => rfl
  | cons b rest ih =>
    have hne : (b == 37) = false := beq_eq_false_iff_ne.mpr (List.ne_of_not_mem_cons h).symm
    unfold percentDecode
    rw [hne]
    exact congrArg (b :: ·) (ih (List.not_mem_of_not_mem_cons h))

/-- A byte with a high mark is no percent sign. -/
lemma marked_ne (b : UInt8) {mark : UInt8} (hmark : 37 < mark.toNat) : (37 : UInt8) ≠ b ||| mark := by
  intro h
  have hnat : 37 = b.toNat ||| mark.toNat := (congrArg UInt8.toNat h).trans (UInt8.toNat_or b mark)
  have hle : mark.toNat ≤ b.toNat ||| mark.toNat := Nat.right_le_or
  omega

/-- The only percent sign among the bytes of characters is that of the percent sign. -/
lemma not_mem_utf8EncodeChar {c : Char} (hc : c ≠ '%') : (37 : UInt8) ∉ String.utf8EncodeChar c := by
  rcases c.utf8Size_eq with h | h | h | h
  · rw [String.utf8EncodeChar_eq_singleton h, List.mem_singleton]
    intro hbyte
    have hle : c.val.toNat ≤ 127 := UInt32.le_iff_toNat_le.mp (Char.utf8Size_eq_one_iff.mp h)
    have hnat : 37 = c.val.toNat % 256 := congrArg UInt8.toNat hbyte
    refine hc (Char.ext (UInt32.toNat_inj.mp ?_))
    show c.val.toNat = 37
    omega
  · rw [String.utf8EncodeChar_eq_cons_cons h]
    simp [marked_ne]
  · rw [String.utf8EncodeChar_eq_cons_cons_cons h]
    simp [marked_ne]
  · rw [String.utf8EncodeChar_eq_cons_cons_cons_cons h]
    simp [marked_ne]

/-- A text without percent signs stands for itself. -/
theorem percentDecoded?_of_not_mem {s : String} (h : '%' ∉ s.toList) :
    percentDecoded? s = some s := by
  have hbytes : (37 : UInt8) ∉ s.toList.flatMap String.utf8EncodeChar := by
    intro hmem
    obtain ⟨c, hc, hbyte⟩ := List.mem_flatMap.mp hmem
    exact not_mem_utf8EncodeChar (fun heq => h (heq ▸ hc)) hbyte
  have hutf8 : (s.toList.flatMap String.utf8EncodeChar).toByteArray = s.toByteArray :=
    String.utf8Encode_toList
  unfold percentDecoded? String.fromUTF8?
  rw [percentDecode_of_not_mem hbytes, hutf8, dif_pos s.isValidUTF8]
  rfl

example : percentDecoded? "%61cme%2F%zz" = some "acme/%zz" := by decide +kernel
