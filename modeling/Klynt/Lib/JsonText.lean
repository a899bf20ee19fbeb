import Mathlib.Tactic.Linarith
import Klynt.Lib.Wire

set_option relaxedAutoImplicit false
set_option autoImplicit false

/-!
# Documents as texts

The text of a document, as a script writes it, and the document of a text, as the script reads it.

## Main definitions

* `Numerals`, `Numerals.Documented` — how numbers are written and read.
* `JsonText.stringify` — the text of a document.
* `JsonText.parse` — the document of a text.
* `Wire.KeysDistinct` — no object of a document has two members with one key.

## Main results

* `JsonText.parse_stringify` — what was written is read back.

## Implementation notes

Numbers are written and read by the language.  The reader takes the longest run of characters that
occur in numbers, and leaves it to the language whether the run is a number.  A surrogate without
its other half is not read.  Where an object has two members with one key, the last value counts, in
the place of the first.
-/

/-! ## Numbers -/

/-- How the language writes and reads its numbers. -/
structure Numerals where
  /-- The text of a number. -/
  write : ℚ → List Char
  /-- The number of a text. -/
  read : List Char → Option ℚ

/-- The characters that occur in numbers. -/
def isNumeralChar (c : Char) : Bool :=
  c.isDigit || c = '-' || c = '+' || c = '.' || c = 'e' || c = 'E'

/-- What is documented of the numbers: their texts consist of such characters, and are read back. -/
structure Numerals.Documented (N : Numerals) : Prop where
  /-- A number is read back. -/
  read_write : ∀ q, N.read (N.write q) = some q
  /-- No number is written as the empty text. -/
  write_ne_nil : ∀ q, N.write q ≠ []
  /-- The characters of a number. -/
  chars : ∀ q, ∀ c ∈ N.write q, isNumeralChar c = true

/-- No object of a document has two members with one key. -/
inductive Wire.KeysDistinct : Wire → Prop
  /-- The value `null`. -/
  | null : KeysDistinct .null
  /-- A boolean. -/
  | bool (b : Bool) : KeysDistinct (.bool b)
  /-- A number. -/
  | num (q : ℚ) : KeysDistinct (.num q)
  /-- A string. -/
  | str (s : String) : KeysDistinct (.str s)
  /-- An array. -/
  | arr {items : List Wire} (h : ∀ w ∈ items, KeysDistinct w) : KeysDistinct (.arr items)
  /-- An object. -/
  | obj {members : List (String × Wire)} (hkeys : (members.map (·.1)).Nodup)
      (h : ∀ m ∈ members, KeysDistinct m.2) : KeysDistinct (.obj members)

namespace JsonText

/-! ## Strings -/

/-- A hexadecimal digit. -/
def hexDigit (n : ℕ) : Char := if n < 10 then Char.ofNat (48 + n) else Char.ofNat (87 + n)

/-- The value of a hexadecimal digit, in lower or upper case. -/
def hexValue (c : Char) : Option ℕ :=
  if '0' ≤ c ∧ c ≤ '9' then some (c.toNat - 48)
  else if 'a' ≤ c ∧ c ≤ 'f' then some (c.toNat - 87)
  else if 'A' ≤ c ∧ c ≤ 'F' then some (c.toNat - 55)
  else none

/-- A code unit, written with four hexadecimal digits. -/
def codeUnit (a b c d : Char) : Option ℕ := do
  return (((← hexValue a) * 16 + (← hexValue b)) * 16 + (← hexValue c)) * 16 + (← hexValue d)

/-- A character of a string, as it is written. -/
def escape (c : Char) : List Char :=
  if c = '"' then ['\\', '"']
  else if c = '\\' then ['\\', '\\']
  else if c = Char.ofNat 8 then ['\\', 'b']
  else if c = Char.ofNat 12 then ['\\', 'f']
  else if c = '\n' then ['\\', 'n']
  else if c = '\r' then ['\\', 'r']
  else if c = '\t' then ['\\', 't']
  else if c.toNat < 32 then
    ['\\', 'u', '0', '0', hexDigit (c.toNat / 16), hexDigit (c.toNat % 16)]
  else [c]

/-- The character of an escape of one letter. -/
def unescape (c : Char) : Option Char :=
  if c = '"' then some '"'
  else if c = '\\' then some '\\'
  else if c = '/' then some '/'
  else if c = 'b' then some (Char.ofNat 8)
  else if c = 'f' then some (Char.ofNat 12)
  else if c = 'n' then some '\n'
  else if c = 'r' then some '\r'
  else if c = 't' then some '\t'
  else none

/-- A code unit that is one character, or the first half of one that is followed by the second. -/
def readUnit (n : ℕ) (cs : List Char) : Option (Char × List Char) :=
  if 0xD800 ≤ n ∧ n < 0xDC00 then
    match cs with
    | '\\' :: 'u' :: d₁ :: d₂ :: d₃ :: d₄ :: cs => do
      let m ← codeUnit d₁ d₂ d₃ d₄
      if 0xDC00 ≤ m ∧ m < 0xE000 then
        return (Char.ofNat (0x10000 + (n - 0xD800) * 1024 + (m - 0xDC00)), cs)
      else none
    | _ => none
  else if 0xDC00 ≤ n ∧ n < 0xE000 then none
  else some (Char.ofNat n, cs)

/-- One character of a string. -/
def readChar : List Char → Option (Char × List Char)
  | '\\' :: 'u' :: d₁ :: d₂ :: d₃ :: d₄ :: cs => do readUnit (← codeUnit d₁ d₂ d₃ d₄) cs
  | '\\' :: e :: cs => do return (← unescape e, cs)
  | c :: cs => if c = '\\' ∨ c.toNat < 32 then none else some (c, cs)
  | [] => none

/-- The rest of a string, after its opening quote, and what follows the string.  No string is longer
than the text. -/
def readString : ℕ → List Char → Option (List Char × List Char)
  | 0, _ => none
  | n + 1, cs =>
    if cs.head? = some '"' then some ([], cs.tail)
    else do
      let (c, cs) ← readChar cs
      let (s, rest) ← readString n cs
      return (c :: s, rest)

/-- A string in its quotes. -/
def writeString (s : String) : List Char := '"' :: s.toList.flatMap escape ++ ['"']

/-! ## Documents -/

variable (N : Numerals)

mutual

/-- The text of a document. -/
def write : Wire → List Char
  | .null => "null".toList
  | .bool true => "true".toList
  | .bool false => "false".toList
  | .num q => N.write q
  | .str s => writeString s
  | .arr [] => "[]".toList
  | .arr (w :: ws) => '[' :: write w ++ writeItems ws ++ [']']
  | .obj [] => "\x7b\x7d".toList
  | .obj ((k, w) :: ms) =>
    '{' :: writeString k ++ ':' :: write w ++ writeMembers ms ++ ['}']

/-- The items after the first one. -/
def writeItems : List Wire → List Char
  | [] => []
  | w :: ws => ',' :: write w ++ writeItems ws

/-- The members after the first one. -/
def writeMembers : List (String × Wire) → List Char
  | [] => []
  | (k, w) :: ms => ',' :: writeString k ++ ':' :: write w ++ writeMembers ms

end

/-- `JSON.stringify`. -/
def stringify (w : Wire) : String := String.ofList (write N w)

/-- Whether the reader passes over a character between two parts of a document. -/
def isSpace (c : Char) : Bool := c = ' ' || c = '\n' || c = '\r' || c = '\t'

/-- What is left after blanks. -/
def skipSpace (cs : List Char) : List Char := cs.dropWhile isSpace

/-- A number at the beginning of a text. -/
def parseNumeral (cs : List Char) : Option (Wire × List Char) :=
  (N.read (cs.takeWhile isNumeralChar)).map fun q => (.num q, cs.dropWhile isNumeralChar)

/-- A member before other ones. -/
def addMember (k : String) (w : Wire) (ms : List (String × Wire)) : List (String × Wire) :=
  match ms.find? (·.1 = k) with
  | some m => m :: ms.filter (·.1 ≠ k)
  | none => (k, w) :: ms

mutual

/-- A document at the beginning of a text. -/
def parseValue : ℕ → List Char → Option (Wire × List Char)
  | 0, _ => none
  | n + 1, cs =>
    match skipSpace cs with
    | '"' :: cs => (readString (cs.length + 1) cs).map fun p => (.str (String.ofList p.1), p.2)
    | '[' :: cs =>
      match skipSpace cs with
      | ']' :: cs => some (.arr [], cs)
      | cs => (parseItems n cs).map fun p => (.arr p.1, p.2)
    | '{' :: cs =>
      match skipSpace cs with
      | '}' :: cs => some (.obj [], cs)
      | cs => (parseMembers n cs).map fun p => (.obj p.1, p.2)
    | 'n' :: 'u' :: 'l' :: 'l' :: cs => some (.null, cs)
    | 't' :: 'r' :: 'u' :: 'e' :: cs => some (.bool true, cs)
    | 'f' :: 'a' :: 'l' :: 's' :: 'e' :: cs => some (.bool false, cs)
    | cs => parseNumeral N cs

/-- Items up to the end of an array. -/
def parseItems : ℕ → List Char → Option (List Wire × List Char)
  | 0, _ => none
  | n + 1, cs => do
    let (w, cs) ← parseValue n cs
    match skipSpace cs with
    | ',' :: cs => do
      let (ws, cs) ← parseItems n cs
      return (w :: ws, cs)
    | ']' :: cs => return ([w], cs)
    | _ => none

/-- Members up to the end of an object. -/
def parseMembers : ℕ → List Char → Option (List (String × Wire) × List Char)
  | 0, _ => none
  | n + 1, cs =>
    match skipSpace cs with
    | '"' :: cs => do
      let (k, cs) ← readString (cs.length + 1) cs
      match skipSpace cs with
      | ':' :: cs => do
        let (w, cs) ← parseValue n cs
        match skipSpace cs with
        | ',' :: cs => do
          let (ms, cs) ← parseMembers n cs
          return (addMember (String.ofList k) w ms, cs)
        | '}' :: cs => return ([(String.ofList k, w)], cs)
        | _ => none
      | _ => none
    | _ => none

end

/-- `JSON.parse`: every part of a document takes at least one character, and is entered in at most
two steps. -/
def parse (text : String) : Option Wire := do
  let (w, cs) ← parseValue N (2 * text.length) text.toList
  if skipSpace cs = [] then return w else none

/-! ## Reading what was written -/

variable {N : Numerals}

section Equations

-- The equations of the reader and the writer are derived once, before the proofs that share them.
attribute [local simp] parseValue parseItems parseMembers write writeItems writeMembers readChar
  readString readUnit

end Equations

/-- A hexadecimal digit has its value. -/
lemma hexValue_hexDigit : ∀ n < 16, hexValue (hexDigit n) = some n := by decide

/-- A plain character is read. -/
lemma readChar_plain {c : Char} (cs : List Char) (hslash : c ≠ '\\') (hcontrol : ¬ c.toNat < 32) :
    readChar (c :: cs) = some (c, cs) := by
  unfold readChar
  split
  · rename_i heq
    exact absurd (List.cons.inj heq).1 hslash
  · rename_i heq
    exact absurd (List.cons.inj heq).1 hslash
  · rename_i c' cs' _ _ heq
    obtain ⟨rfl, rfl⟩ := List.cons.inj heq
    rw [if_neg (by tauto)]
  · rename_i heq
    cases heq

/-- An escape of one letter is read. -/
lemma readChar_escape {c e : Char} (cs : List Char) (hu : e ≠ 'u') (he : unescape e = some c) :
    readChar ('\\' :: e :: cs) = some (c, cs) := by
  unfold readChar
  split
  · rename_i heq
    exact absurd (List.cons.inj (List.cons.inj heq).2).1 hu
  · rename_i e' cs' _ heq
    obtain ⟨rfl, rfl⟩ := List.cons.inj (List.cons.inj heq).2
    rw [he]
    rfl
  · rename_i h heq
    obtain ⟨rfl, rfl⟩ := List.cons.inj heq
    exact (h e cs rfl rfl).elim
  · rename_i heq
    cases heq

/-- A control character that is written as a code unit is read. -/
lemma readChar_control {n : ℕ} (cs : List Char) (h : n < 32) :
    readChar ('\\' :: 'u' :: '0' :: '0' :: hexDigit (n / 16) :: hexDigit (n % 16) :: cs) =
      some (Char.ofNat n, cs) := by
  have hunit : codeUnit '0' '0' (hexDigit (n / 16)) (hexDigit (n % 16)) = some n := by
    have hzero : hexValue '0' = some 0 := by decide
    simp only [codeUnit, hzero, hexValue_hexDigit (n / 16) (by omega),
      hexValue_hexDigit (n % 16) (by omega), bind, Option.bind, pure]
    exact congrArg some (by omega)
  show (codeUnit _ _ _ _).bind (readUnit · cs) = _
  rw [hunit]
  show readUnit n cs = _
  unfold readUnit
  rw [if_neg (by omega), if_neg (by omega)]

/-- A character of a string is read back, and its text does not begin with a quote. -/
lemma readChar_escape_append (c : Char) (cs : List Char) :
    readChar (escape c ++ cs) = some (c, cs) ∧ (escape c ++ cs).head? ≠ some '"' := by
  unfold escape
  split_ifs with h₁ h₂ h₃ h₄ h₅ h₆ h₇ h₈
  · exact ⟨readChar_escape cs (by decide) (by rw [h₁]; rfl), nofun⟩
  · exact ⟨readChar_escape cs (by decide) (by rw [h₂]; rfl), nofun⟩
  · exact ⟨readChar_escape cs (by decide) (by rw [h₃]; rfl), nofun⟩
  · exact ⟨readChar_escape cs (by decide) (by rw [h₄]; rfl), nofun⟩
  · exact ⟨readChar_escape cs (by decide) (by rw [h₅]; rfl), nofun⟩
  · exact ⟨readChar_escape cs (by decide) (by rw [h₆]; rfl), nofun⟩
  · exact ⟨readChar_escape cs (by decide) (by rw [h₇]; rfl), nofun⟩
  · refine ⟨(readChar_control cs h₈).trans ?_, nofun⟩
    rw [Char.ofNat_toNat]
  · exact ⟨readChar_plain cs h₂ h₈, fun h => h₁ (Option.some.inj h)⟩

/-- **A string is read back.** -/
lemma readString_flatMap_escape {s rest : List Char} {n : ℕ} (h : s.length < n) :
    readString n (s.flatMap escape ++ '"' :: rest) = some (s, rest) := by
  induction s generalizing n with
  | nil =>
    obtain ⟨n, rfl⟩ := Nat.exists_eq_add_of_lt h
    rfl
  | cons c s ih =>
    obtain ⟨n, rfl⟩ : ∃ m, n = m + 1 := ⟨n - 1, by omega⟩
    obtain ⟨hread, hhead⟩ := readChar_escape_append c (s.flatMap escape ++ '"' :: rest)
    rw [List.flatMap_cons, List.append_assoc, readString, if_neg hhead, hread]
    show (readString n _).bind _ = _
    rw [ih (by simpa using h)]
    rfl

/-- What follows a document is not taken as a part of a number. -/
def Stops (rest : List Char) : Prop := ∀ c ∈ rest.head?, isNumeralChar c = false

/-- A document is read back before everything that may follow it. -/
def ReadsBack (N : Numerals) (w : Wire) : Prop :=
  ∀ n rest, 2 * (write N w).length ≤ n → Stops rest →
    parseValue N n (write N w ++ rest) = some (w, rest)

/-- The characters that documents begin with. -/
def isOpening (c : Char) : Bool :=
  isNumeralChar c || c = '"' || c = '[' || c = '{' || c = 'n' || c = 't' || c = 'f'

/-- They are no blanks, and they close nothing. -/
lemma not_isSpace_of_isOpening {c : Char} (h : isOpening c = true) :
    isSpace c = false ∧ c ≠ ']' ∧ c ≠ '}' := by
  refine ⟨?_, ?_, ?_⟩
  · by_contra hspace
    simp only [isSpace, Bool.not_eq_false, Bool.or_eq_true, decide_eq_true_eq] at hspace
    rcases hspace with ((rfl | rfl) | rfl) | rfl <;> revert h <;> decide
  · rintro rfl
    revert h
    decide
  · rintro rfl
    revert h
    decide

/-- What a document begins with. -/
lemma write_eq_cons (hN : N.Documented) (w : Wire) :
    ∃ c cs, write N w = c :: cs ∧ isOpening c = true := by
  cases w with
  | null => exact ⟨_, _, rfl, by decide⟩
  | bool b =>
    cases b with
    | true => exact ⟨_, _, rfl, by decide⟩
    | false => exact ⟨_, _, rfl, by decide⟩
  | num q =>
    obtain ⟨c, cs, hcs⟩ := List.exists_cons_of_ne_nil (hN.write_ne_nil q)
    have hc := hN.chars q c (by rw [hcs]; exact List.mem_cons_self)
    exact ⟨c, cs, by rw [write, hcs], by simp only [isOpening, hc, Bool.true_or]⟩
  | str s => exact ⟨_, _, rfl, by decide⟩
  | arr items =>
    cases items with
    | nil => exact ⟨_, _, rfl, by decide⟩
    | cons w ws => exact ⟨'[', _, by rw [write]; rfl, by decide⟩
  | obj members =>
    cases members with
    | nil => exact ⟨_, _, rfl, by decide⟩
    | cons m ms => exact ⟨'{', _, by rw [write]; rfl, by decide⟩

/-- No blanks are passed over before a document. -/
lemma skipSpace_write (hN : N.Documented) (w : Wire) (cs : List Char) :
    skipSpace (write N w ++ cs) = write N w ++ cs := by
  obtain ⟨c, cs', hcs, hc⟩ := write_eq_cons hN w
  rw [hcs, List.cons_append, skipSpace,
    List.dropWhile_cons_of_neg (by rw [(not_isSpace_of_isOpening hc).1]; decide)]

/-- A number is read back. -/
lemma readsBack_num (hN : N.Documented) (q : ℚ) : ReadsBack N (.num q) := by
  intro n rest hn hstops
  obtain ⟨c, cs, hcs⟩ := List.exists_cons_of_ne_nil (hN.write_ne_nil q)
  have hc := hN.chars q c (by rw [hcs]; exact List.mem_cons_self)
  have htake : (N.write q ++ rest).takeWhile isNumeralChar = N.write q := by
    rw [List.takeWhile_append_of_pos (hN.chars q)]
    cases rest with
    | nil => simp
    | cons d rest => rw [List.takeWhile_cons_of_neg (by rw [hstops d rfl]; decide), List.append_nil]
  have hdrop : (N.write q ++ rest).dropWhile isNumeralChar = rest := by
    rw [List.dropWhile_append_of_pos (hN.chars q)]
    cases rest with
    | nil => rfl
    | cons d rest => rw [List.dropWhile_cons_of_neg (by rw [hstops d rfl]; decide)]
  have hnumeral : parseNumeral N (N.write q ++ rest) = some (.num q, rest) := by
    rw [parseNumeral, htake, hdrop, hN.read_write]
    rfl
  obtain ⟨n, rfl⟩ : ∃ m, n = m + 1 := ⟨n - 1, by
    have hlength : (write N (.num q)).length = cs.length + 1 := by rw [write, hcs]; rfl
    omega⟩
  have hskip := skipSpace_write hN (.num q) rest
  rw [write] at hskip ⊢
  rw [parseValue, hskip]
  rw [hcs, List.cons_append] at hnumeral ⊢
  split
  all_goals first
    | exact hnumeral
    | (rename_i heq
       exact absurd ((congrArg isNumeralChar (List.cons.inj heq).1).symm.trans hc) (by decide))

/-- A string is read back. -/
lemma readString_writeString (s : String) (rest : List Char) :
    readString ((s.toList.flatMap escape ++ '"' :: rest).length + 1)
      (s.toList.flatMap escape ++ '"' :: rest) = some (s.toList, rest) := by
  refine readString_flatMap_escape ?_
  have hlength : s.toList.length ≤ (s.toList.flatMap escape).length := by
    induction s.toList with
    | nil => exact le_refl _
    | cons c cs ih =>
      have hone : 1 ≤ (escape c).length := by
        unfold escape
        split_ifs <;> simp
      rw [List.flatMap_cons, List.length_append, List.length_cons]
      omega
  rw [List.length_append, List.length_cons]
  omega

/-- A string before what follows it. -/
lemma writeString_append (s : String) (rest : List Char) :
    writeString s ++ rest = '"' :: (s.toList.flatMap escape ++ '"' :: rest) := by
  simp [writeString]

/-- A character that occurs in no number stops one. -/
lemma stops_cons {c : Char} (rest : List Char) (h : isNumeralChar c = false) :
    Stops (c :: rest) := by
  intro d hd
  obtain rfl : c = d := Option.some.inj hd
  exact h

/-- A document that consists of a string is read back. -/
lemma readsBack_str (s : String) : ReadsBack N (.str s) := by
  intro n rest hn _
  have hlength : (write N (.str s)).length ≠ 0 := by simp [write, writeString]
  obtain ⟨n, rfl⟩ : ∃ m, n = m + 1 := ⟨n - 1, by omega⟩
  rw [write, writeString_append, parseValue]
  show (readString _ _).map _ = _
  rw [readString_writeString]
  exact congrArg (fun t => some (Wire.str t, rest)) String.ofList_toList

/-- The items of an array are read back. -/
lemma parseItems_write {w : Wire} {ws : List Wire} (h : ∀ v ∈ w :: ws, ReadsBack N v) {n : ℕ}
    (rest : List Char) (hn : 2 * ((write N w).length + (writeItems N ws).length) + 1 ≤ n) :
    parseItems N n (write N w ++ (writeItems N ws ++ ']' :: rest)) = some (w :: ws, rest) := by
  induction ws generalizing w n with
  | nil =>
    obtain ⟨n, rfl⟩ : ∃ m, n = m + 1 := ⟨n - 1, by omega⟩
    rw [writeItems, List.nil_append, parseItems,
      h w List.mem_cons_self n _ (by omega) (stops_cons _ (by decide))]
    rfl
  | cons v ws ih =>
    obtain ⟨n, rfl⟩ : ∃ m, n = m + 1 := ⟨n - 1, by omega⟩
    rw [writeItems, List.cons_append, List.length_cons, List.length_append] at hn
    have hrest := ih (fun u hu => h u (List.mem_cons_of_mem _ hu)) (n := n) (by omega)
    rw [writeItems, List.cons_append, List.cons_append, List.append_assoc, parseItems,
      h w List.mem_cons_self n _ (by omega) (stops_cons _ (by decide))]
    show (parseItems N n (write N v ++ (writeItems N ws ++ ']' :: rest))).bind _ = _
    rw [hrest]
    rfl

/-- The array that a text goes on with after its opening bracket. -/
lemma parseValue_bracket (n : ℕ) {cs : List Char} (h : ∀ cs', skipSpace cs ≠ ']' :: cs') :
    parseValue N (n + 1) ('[' :: cs) =
      (parseItems N n (skipSpace cs)).map fun p => (Wire.arr p.1, p.2) := by
  rw [parseValue]
  show (match skipSpace cs with | ']' :: cs => _ | cs => _) = _
  split
  · rename_i heq
    exact absurd heq (h _)
  · rfl

/-- An array is read back if its items are. -/
lemma readsBack_arr (hN : N.Documented) {items : List Wire} (h : ∀ w ∈ items, ReadsBack N w) :
    ReadsBack N (.arr items) := by
  intro n rest hn _
  cases items with
  | nil =>
    obtain ⟨n, rfl⟩ : ∃ m, n = m + 1 := ⟨n - 1, by
      have hlength : (write N (.arr [])).length = 2 := rfl
      omega⟩
    rfl
  | cons w ws =>
    have hlength : (write N (.arr (w :: ws))).length =
        (write N w).length + (writeItems N ws).length + 2 := by
      simp [write]
      omega
    obtain ⟨n, rfl⟩ : ∃ m, n = m + 1 := ⟨n - 1, by omega⟩
    have hitems := parseItems_write h (n := n) rest (by omega)
    have hskip := skipSpace_write hN w (writeItems N ws ++ ']' :: rest)
    obtain ⟨c, cs, hcs, hc⟩ := write_eq_cons hN w
    have htext : write N (.arr (w :: ws)) ++ rest =
        '[' :: (write N w ++ (writeItems N ws ++ ']' :: rest)) := by simp [write]
    rw [htext, parseValue_bracket n ?_, hskip, hitems]
    · rfl
    · intro cs' heq
      rw [hskip, hcs, List.cons_append] at heq
      exact absurd (List.cons.inj heq).1 (not_isSpace_of_isOpening hc).2.1

/-- A member with a new key is added in front. -/
lemma addMember_of_notMem {k : String} {w : Wire} {ms : List (String × Wire)}
    (h : k ∉ ms.map (·.1)) : addMember k w ms = (k, w) :: ms := by
  have hfind : ms.find? (·.1 = k) = none := List.find?_eq_none.mpr fun m hm heq =>
    h (List.mem_map.mpr ⟨m, hm, of_decide_eq_true heq⟩)
  rw [addMember, hfind]

/-- The members of an object are read back. -/
lemma parseMembers_write {k : String} {w : Wire} {ms : List (String × Wire)}
    (hkeys : (((k, w) :: ms).map (·.1)).Nodup) (h : ∀ m ∈ (k, w) :: ms, ReadsBack N m.2) {n : ℕ}
    (rest : List Char) (hn : 2 * ((write N w).length + (writeMembers N ms).length) + 1 ≤ n) :
    parseMembers N n (writeString k ++ ':' :: (write N w ++ (writeMembers N ms ++ '}' :: rest))) =
      some ((k, w) :: ms, rest) := by
  induction ms generalizing k w n with
  | nil =>
    obtain ⟨n, rfl⟩ : ∃ m, n = m + 1 := ⟨n - 1, by omega⟩
    have hw : ReadsBack N w := h (k, w) List.mem_cons_self
    have hvalue := hw n ('}' :: rest) (by omega) (stops_cons _ (by decide))
    rw [writeMembers, List.nil_append, writeString_append, parseMembers]
    show (readString _ _).bind _ = _
    rw [readString_writeString]
    show (parseValue N n (write N w ++ '}' :: rest)).bind _ = _
    rw [hvalue]
    exact congrArg (fun t => some ([(t, w)], rest)) String.ofList_toList
  | cons m ms ih =>
    obtain ⟨k', v⟩ := m
    obtain ⟨n, rfl⟩ : ∃ m, n = m + 1 := ⟨n - 1, by omega⟩
    have hlength : (writeMembers N ((k', v) :: ms)).length =
        (writeString k').length + 2 + (write N v).length + (writeMembers N ms).length := by
      simp [writeMembers]
      omega
    have hw : ReadsBack N w := h (k, w) List.mem_cons_self
    have hvalue := hw n
      (',' :: (writeString k' ++ ':' :: (write N v ++ (writeMembers N ms ++ '}' :: rest))))
      (by omega) (stops_cons _ (by decide))
    have hrest := ih (List.nodup_cons.mp hkeys).2 (fun u hu => h u (List.mem_cons_of_mem _ hu))
      (n := n) (by omega)
    have htext : writeMembers N ((k', v) :: ms) ++ '}' :: rest =
        ',' :: (writeString k' ++ ':' :: (write N v ++ (writeMembers N ms ++ '}' :: rest))) := by
      simp [writeMembers]
    rw [htext, writeString_append, parseMembers]
    show (readString _ _).bind _ = _
    rw [readString_writeString]
    show (parseValue N n (write N w ++ ',' :: _)).bind _ = _
    rw [hvalue]
    show (parseMembers N n (writeString k' ++ ':' :: _)).bind _ = _
    rw [hrest]
    show some (addMember (String.ofList k.toList) w ((k', v) :: ms), rest) = _
    rw [String.ofList_toList, addMember_of_notMem (List.nodup_cons.mp hkeys).1]

/-- An object is read back if its members are, and have distinct keys. -/
lemma readsBack_obj {members : List (String × Wire)} (hkeys : (members.map (·.1)).Nodup)
    (h : ∀ m ∈ members, ReadsBack N m.2) : ReadsBack N (.obj members) := by
  intro n rest hn _
  cases members with
  | nil =>
    obtain ⟨n, rfl⟩ : ∃ m, n = m + 1 := ⟨n - 1, by
      have hlength : (write N (.obj [])).length = 2 := rfl
      omega⟩
    rfl
  | cons m ms =>
    obtain ⟨k, w⟩ := m
    have hlength : (write N (.obj ((k, w) :: ms))).length =
        (writeString k).length + (write N w).length + (writeMembers N ms).length + 3 := by
      simp [write]
      omega
    obtain ⟨n, rfl⟩ : ∃ m, n = m + 1 := ⟨n - 1, by omega⟩
    have hmembers := parseMembers_write hkeys h (n := n) rest (by omega)
    have htext : write N (.obj ((k, w) :: ms)) ++ rest =
        '{' :: (writeString k ++ ':' :: (write N w ++ (writeMembers N ms ++ '}' :: rest))) := by
      simp [write]
    rw [htext, parseValue]
    rw [writeString_append] at hmembers ⊢
    show (parseMembers N n ('"' :: _)).map _ = _
    rw [hmembers]
    rfl

/-- Every document without doubled keys is read back. -/
lemma readsBack (hN : N.Documented) {w : Wire} (h : w.KeysDistinct) : ReadsBack N w := by
  induction h with
  | null =>
    intro n rest hn _
    obtain ⟨n, rfl⟩ : ∃ m, n = m + 1 := ⟨n - 1, by
      have hlength : (write N .null).length = 4 := rfl
      omega⟩
    rfl
  | bool b =>
    intro n rest hn _
    obtain ⟨n, rfl⟩ : ∃ m, n = m + 1 := ⟨n - 1, by
      have hlength : 4 ≤ (write N (.bool b)).length := by
        cases b with
        | true => exact le_refl 4
        | false => exact Nat.le_succ 4
      omega⟩
    cases b with
    | true => rfl
    | false => rfl
  | num q => exact readsBack_num hN q
  | str s => exact readsBack_str s
  | arr _ ih => exact readsBack_arr hN ih
  | obj hkeys _ ih => exact readsBack_obj hkeys ih

/-- **What was written is read back**, if no object has two members with one key.

**Proof sketch.** By induction on the document: before everything that does not continue a number, a
reader that may take two steps for each character reads the document and leaves the rest. -/
theorem parse_stringify (hN : N.Documented) {w : Wire} (h : w.KeysDistinct) :
    parse N (stringify N w) = some w := by
  have hread := readsBack hN h (2 * (write N w).length) [] (le_refl _) nofun
  rw [List.append_nil] at hread
  have hlength : (stringify N w).length = (write N w).length := by simp [stringify]
  rw [parse, hlength, stringify, String.toList_ofList, hread]
  rfl

end JsonText
