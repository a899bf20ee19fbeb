import Mathlib.Tactic.Ring

set_option relaxedAutoImplicit false
set_option autoImplicit false

/-!
# UUIDs and their texts

A UUID is a 128-bit word.  Its text is the hyphenated lower-case form; two readers accept it,
the one a database uses for a cast and the one a serialiser uses, which differ in the places
where they allow a hyphen.

## Main definitions

* `Uuid`, `Uuid.render` — the word and its hyphenated text.
* `Uuid.cast?` — the reader of a `text::uuid` cast: a hyphen may follow any group of four
  digits, and the whole may stand in braces.
* `Uuid.parse?` — the reader of a serialiser: plain, hyphenated, braced or URN form.

## Main results

* `Uuid.cast?_render`, `Uuid.parse?_render` — both readers read back what was written.
-/

/-- A UUID, as a 128-bit word. -/
abbrev Uuid : Type := BitVec 128

namespace Uuid

/-! ## Digits -/

/-- The lower-case hexadecimal digit of a value below 16. -/
def hexDigit : Nat → Char
  | 0 => '0' | 1 => '1' | 2 => '2' | 3 => '3' | 4 => '4' | 5 => '5' | 6 => '6' | 7 => '7'
  | 8 => '8' | 9 => '9' | 10 => 'a' | 11 => 'b' | 12 => 'c' | 13 => 'd' | 14 => 'e' | _ => 'f'

/-- The value of a hexadecimal digit of either case. -/
def hexVal (c : Char) : Option Nat :=
  if '0' ≤ c ∧ c ≤ '9' then some (c.toNat - 48)
  else if 'a' ≤ c ∧ c ≤ 'f' then some (c.toNat - 87)
  else if 'A' ≤ c ∧ c ≤ 'F' then some (c.toNat - 55)
  else none

/-- The `k` low hexadecimal digits of `n`, most significant first. -/
def digits : Nat → Nat → List Nat
  | 0, _ => []
  | k + 1, n => digits k (n / 16) ++ [n % 16]

/-- The number with the given hexadecimal digits. -/
def ofDigits (ds : List Nat) : Nat := ds.foldl (fun n d => 16 * n + d) 0

/-- A written digit is read back. -/
theorem hexVal_hexDigit {d : Nat} (h : d < 16) : hexVal (hexDigit d) = some d := by
  have all : ∀ d < 16, hexVal (hexDigit d) = some d := by decide
  exact all d h

/-- No digit is a hyphen. -/
theorem hexDigit_ne_hyphen (d : Nat) : hexDigit d ≠ '-' := by
  unfold hexDigit; split <;> decide

/-- No digit is an opening brace. -/
theorem hexDigit_ne_brace (d : Nat) : hexDigit d ≠ '\x7b' := by
  unfold hexDigit; split <;> decide

/-- There are as many digits as asked for. -/
@[simp] theorem length_digits (k n : Nat) : (digits k n).length = k := by
  induction k generalizing n with
  | zero => rfl
  | succ k ih => simp [digits, ih]

/-- Every digit is below 16. -/
theorem lt_of_mem_digits {k n d : Nat} (h : d ∈ digits k n) : d < 16 := by
  induction k generalizing n with
  | zero => simp [digits] at h
  | succ k ih =>
    rcases List.mem_append.mp h with h | h
    · exact ih h
    · obtain rfl := List.mem_singleton.mp h
      exact Nat.mod_lt _ (by decide)

/-- The number with the `k` low digits of `n` is `n` modulo `16 ^ k`. -/
theorem ofDigits_digits (k n : Nat) : ofDigits (digits k n) = n % 16 ^ k := by
  induction k generalizing n with
  | zero => simp [digits, ofDigits, Nat.mod_one]
  | succ k ih =>
    have hstep : ofDigits (digits (k + 1) n) = 16 * ofDigits (digits k (n / 16)) + n % 16 := by
      simp [digits, ofDigits]
    rw [hstep, ih, Nat.pow_succ, Nat.mul_comm (16 ^ k) 16, Nat.mod_mul]
    omega

/-! ## Writing -/

/-- Write digit pairs, the first of which has index `i`, with a hyphen after the pairs of
index 3, 5, 7 and 9. -/
def write : Nat → List Nat → List Char
  | i, x :: y :: ds =>
    hexDigit x :: hexDigit y :: ((if i ∈ [3, 5, 7, 9] then ['-'] else []) ++ write (i + 1) ds)
  | _, _ => []

/-- The hyphenated lower-case text of a UUID. -/
def render (u : Uuid) : String := String.ofList (write 0 (digits 32 u.toNat))

/-! ## Reading -/

/-- Whether a hyphen stands after a pair of digits. -/
inductive Hyphen where
  /-- No hyphen is allowed. -/
  | never
  /-- A hyphen is skipped if it is there. -/
  | optional
  /-- A hyphen is required. -/
  | always
  deriving DecidableEq

/-- Skip what a hyphen rule says. -/
def Hyphen.skip : Hyphen → List Char → Option (List Char)
  | .never, cs => some cs
  | .optional, '-' :: cs => some cs
  | .optional, cs => some cs
  | .always, '-' :: cs => some cs
  | .always, _ => none

/-- Read `n` digit pairs, the first of which has index `i`, under the hyphen rule `style`;
the digits and the unread rest. -/
def read (style : Nat → Hyphen) : Nat → Nat → List Char → Option (List Nat × List Char)
  | 0, _, cs => some ([], cs)
  | n + 1, i, a :: b :: cs => do
    let x ← hexVal a
    let y ← hexVal b
    let cs ← (style i).skip cs
    let (ds, rest) ← read style n (i + 1) cs
    return (x :: y :: ds, rest)
  | _ + 1, _, _ => none

/-- Read a whole text of sixteen digit pairs followed by `tail`. -/
def readAll (style : Nat → Hyphen) (tail : List Char) (cs : List Char) : Option Uuid :=
  match read style 16 0 cs with
  | some (ds, rest) => if rest = tail then some (BitVec.ofNat 128 (ofDigits ds)) else none
  | none => none

/-- A cast skips a hyphen after every second pair but the last. -/
def castStyle (i : Nat) : Hyphen := if i % 2 = 1 ∧ i < 15 then .optional else .never

/-- The hyphenated form has hyphens after the pairs 3, 5, 7 and 9. -/
def hyphenated (i : Nat) : Hyphen := if i ∈ [3, 5, 7, 9] then .always else .never

/-- The reader of a `text::uuid` cast. -/
def cast? (s : String) : Option Uuid :=
  match s.toList with
  | '\x7b' :: cs => readAll castStyle ['\x7d'] cs
  | cs => readAll castStyle [] cs

/-- The reader of a serialiser: the plain form, or the hyphenated form bare, in braces or as
a URN. -/
def parse? (s : String) : Option Uuid :=
  readAll hyphenated [] s.toList <|>
    match s.toList with
    | '\x7b' :: cs => readAll hyphenated ['\x7d'] cs
    | 'u' :: 'r' :: 'n' :: ':' :: 'u' :: 'u' :: 'i' :: 'd' :: ':' :: cs => readAll hyphenated [] cs
    | cs => readAll (fun _ => .never) [] cs

/-! ## Round trips -/

/-- A text written from digits does not start with a hyphen. -/
theorem head?_write_ne (i : Nat) (ds : List Nat) : (write i ds).head? ≠ some '-' := by
  match ds with
  | [] => simp [write]
  | [_] => simp [write]
  | x :: y :: ds => simpa [write] using hexDigit_ne_hyphen x

/-- A rule that skips at most a hyphen leaves other texts alone. -/
theorem skip_of_head? {r : Hyphen} {cs : List Char} (h : cs.head? ≠ some '-')
    (hr : r ≠ .always) : r.skip cs = some cs := by
  cases r with
  | never => rfl
  | always => exact absurd rfl hr
  | optional =>
    match cs with
    | [] => rfl
    | c :: cs =>
      have hc : c ≠ '-' := by simpa using h
      simp [Hyphen.skip, hc]

/-- **Digits are read back** under every hyphen rule that allows the hyphens written and
requires no other.

**Proof sketch.** Induction on the number of pairs.  After a pair of index 3, 5, 7 or 9 the
rule skips the hyphen written there; after any other the next character is a digit. -/
theorem read_write {style : Nat → Hyphen} (hyes : ∀ i ∈ [3, 5, 7, 9], style i ≠ .never)
    (hno : ∀ i, i ∉ [3, 5, 7, 9] → style i ≠ .always) (n i : Nat) (ds : List Nat)
    (hlen : ds.length = 2 * n) (hds : ∀ d ∈ ds, d < 16) :
    read style n i (write i ds) = some (ds, []) := by
  induction n generalizing i ds with
  | zero =>
    obtain rfl : ds = [] := List.length_eq_zero_iff.mp (by omega)
    rfl
  | succ n ih =>
    match ds with
    | [] => simp at hlen
    | [_] => simp at hlen; omega
    | x :: y :: ds =>
      have hx : hexVal (hexDigit x) = some x := hexVal_hexDigit (hds x (by simp))
      have hy : hexVal (hexDigit y) = some y := hexVal_hexDigit (hds y (by simp))
      have hrest := ih (i + 1) ds (by simp at hlen; omega) fun d hd => hds d (by simp [hd])
      have hskip : (style i).skip ((if i ∈ [3, 5, 7, 9] then ['-'] else []) ++ write (i + 1) ds)
          = some (write (i + 1) ds) := by
        by_cases hi : i ∈ [3, 5, 7, 9]
        · rw [if_pos hi]
          cases hs : style i with
          | never => exact absurd hs (hyes i hi)
          | optional => rfl
          | always => rfl
        · rw [if_neg hi, List.nil_append]
          exact skip_of_head? (head?_write_ne _ _) (hno i hi)
      simp only [write, read, hx, hy, Option.bind_eq_bind, Option.bind_some, hskip, hrest,
        Option.pure_def]

/-- Reading the whole rendered text gives the UUID back. -/
theorem readAll_write {style : Nat → Hyphen} (hyes : ∀ i ∈ [3, 5, 7, 9], style i ≠ .never)
    (hno : ∀ i, i ∉ [3, 5, 7, 9] → style i ≠ .always) (u : Uuid) :
    readAll style [] (write 0 (digits 32 u.toNat)) = some u := by
  have hread := read_write hyes hno 16 0 (digits 32 u.toNat) (by simp) fun d => lt_of_mem_digits
  have hu : u.toNat % 16 ^ 32 = u.toNat := Nat.mod_eq_of_lt u.isLt
  rw [readAll, hread]
  simp only [if_true]
  rw [ofDigits_digits, hu, BitVec.ofNat_toNat, BitVec.setWidth_eq]

/-- The rendered text starts with a digit. -/
theorem render_ne_brace (u : Uuid) (cs : List Char) :
    write 0 (digits 32 u.toNat) ≠ '\x7b' :: cs := by
  obtain ⟨x, ds, hds⟩ : ∃ x ds, digits 32 u.toNat = x :: ds :=
    List.exists_cons_of_length_pos (by simp)
  match ds with
  | [] => have := length_digits 32 u.toNat; simp [hds] at this
  | y :: ds =>
    rw [hds]
    intro h
    exact hexDigit_ne_brace x (List.cons.inj h).1

/-- **A cast reads back** the rendered text. -/
@[simp] theorem cast?_render (u : Uuid) : cast? u.render = some u := by
  have hall : readAll castStyle [] (write 0 (digits 32 u.toNat)) = some u :=
    readAll_write (by decide) (fun i _ => by unfold castStyle; split <;> simp) u
  unfold cast? render
  rw [String.toList_ofList]
  split
  · rename_i cs h; exact absurd h (render_ne_brace u cs)
  · exact hall

/-- **A serialiser reads back** the rendered text. -/
@[simp] theorem parse?_render (u : Uuid) : parse? u.render = some u := by
  have hall : readAll hyphenated [] (write 0 (digits 32 u.toNat)) = some u :=
    readAll_write (by decide) (fun i hi => by unfold hyphenated; rw [if_neg hi]; simp) u
  simp [parse?, render, hall]

end Uuid
