import Klynt.Domain.Tenant
import Klynt.Lib.Delimited
import Mathlib

set_option relaxedAutoImplicit false
set_option autoImplicit false

/-!
# Canonical addresses

An address is trimmed, cut at the `@`, and lower-cased.  Lower-casing leaves white space, the `@`
and dots where they are, so what was parsed is cut as before, and parsing it again changes nothing.

## Main definitions

* `Email.IsDelimiter` — the characters by which an address is trimmed and cut.
* `LowercaseLaws` — what addresses rely on of the Unicode tables.

## Main results

* `Email.parse_eq_ok` — the addresses that are parsed.
* `Email.parse_text`, `Email.new_text` — parsed addresses are fixed points of both constructors.
* `varchar_text` — a column stores a parsed address as it is.
-/

namespace Klynt

/-! ## Lists -/

/-- No piece of a list that is cut contains the separator. -/
lemma not_mem_of_mem_splitOn {a : Char} {xs piece : List Char} (h : piece ∈ xs.splitOn a) :
    a ∉ piece := by
  induction xs generalizing piece with
  | nil =>
    obtain rfl := List.mem_singleton.mp h
    exact List.not_mem_nil
  | cons x xs ih =>
    rw [List.splitOn_cons_eq_if_modifyHead] at h
    split at h
    · rcases List.mem_cons.mp h with rfl | h
      · exact List.not_mem_nil
      · exact ih h
    · rename_i hx
      obtain ⟨first, rest, hsplit⟩ := List.exists_cons_of_ne_nil (List.splitOn_ne_nil a xs)
      rw [hsplit, List.modifyHead_cons] at h
      rw [hsplit] at ih
      rcases List.mem_cons.mp h with rfl | h
      · intro hmem
        rcases List.mem_cons.mp hmem with rfl | hmem
        · exact hx (BEq.refl _)
        · exact ih List.mem_cons_self hmem
      · exact ih (List.mem_cons_of_mem _ h)

/-- A list is cut into two pieces exactly if it has one separator. -/
lemma splitOn_eq_pair {a : Char} {xs left right : List Char} :
    xs.splitOn a = [left, right] ↔ xs = left ++ a :: right ∧ a ∉ left ∧ a ∉ right := by
  constructor
  · intro h
    have hleft : left ∈ xs.splitOn a := by simp [h]
    have hright : right ∈ xs.splitOn a := by simp [h]
    have hjoin : [a].intercalate (xs.splitOn a) = xs := List.intercalate_splitOn a
    rw [h] at hjoin
    refine ⟨?_, not_mem_of_mem_splitOn hleft, not_mem_of_mem_splitOn hright⟩
    simp [← hjoin]
  · rintro ⟨rfl, hleft, hright⟩
    rw [List.splitOn_append_cons_self_of_not_mem hleft, List.splitOn_eq_singleton hright]

/-! ## Trimming -/

/-- Neither end of the list is white space. -/
def Trimmed (xs : List Char) : Prop :=
  ∀ c, xs.head? = some c ∨ xs.getLast? = some c → isWhiteSpace c = false

/-- Trimming leaves no white space at the ends. -/
lemma trimmed_trim (s : String) : Trimmed (trim s).toList := by
  have htrim : (trim s).toList = (s.toList.dropWhile isWhiteSpace).rdropWhile isWhiteSpace := by
    rw [trim, String.toList_ofList]
    rfl
  rw [htrim]
  set front := s.toList.dropWhile isWhiteSpace with hfront
  rintro c (hhead | hlast)
  · -- what is dropped at the end leaves the first character
    obtain ⟨dropped, hdropped⟩ := List.rdropWhile_prefix isWhiteSpace front
    have hc : front.head? = some c := by
      rw [← hdropped, List.head?_append, hhead]
      rfl
    have hnot := List.head?_dropWhile_not isWhiteSpace s.toList
    rw [← hfront, hc] at hnot
    exact hnot
  · have hne : front.rdropWhile isWhiteSpace ≠ [] := by
      intro hnil
      rw [hnil] at hlast
      cases hlast
    rw [List.getLast?_eq_some_getLast hne] at hlast
    rw [← Option.some.inj hlast]
    exact Bool.eq_false_of_not_eq_true (List.rdropWhile_last_not isWhiteSpace front hne)

/-- Trimming changes nothing where there is no white space at the ends. -/
lemma trim_eq_self {s : String} (h : Trimmed s.toList) : trim s = s := by
  have hfront : s.toList.dropWhile isWhiteSpace = s.toList := by
    cases hs : s.toList with
    | nil => rfl
    | cons c rest =>
      rw [hs] at h
      rw [List.dropWhile_cons_of_neg]
      rw [h c (.inl rfl)]
      exact Bool.false_ne_true
  have hback : s.toList.rdropWhile isWhiteSpace = s.toList := by
    refine List.rdropWhile_eq_self_iff.mpr fun hne => ?_
    rw [h _ (.inr (List.getLast?_eq_some_getLast hne))]
    exact Bool.false_ne_true
  calc trim s = String.ofList ((s.toList.dropWhile isWhiteSpace).rdropWhile isWhiteSpace) := rfl
    _ = String.ofList s.toList := by rw [hfront, hback]
    _ = s := String.ofList_toList

/-! ## Parsed addresses -/

namespace Email

/-- The characters by which an address is trimmed and cut. -/
def IsDelimiter (c : Char) : Prop := c = '@' ∨ c = '.' ∨ isWhiteSpace c = true

/-- What is required of the two parts of an address. -/
structure Parts (localPart domain : List Char) : Prop where
  /-- The part before the `@` is not empty. -/
  localPart_ne : localPart ≠ []
  /-- The part after the `@` is not empty. -/
  domain_ne : domain ≠ []
  /-- There is no other `@` before. -/
  localPart_at : '@' ∉ localPart
  /-- There is no other `@` after. -/
  domain_at : '@' ∉ domain
  /-- The domain has a dot. -/
  dot : '.' ∈ domain
  /-- The domain does not start with a dot. -/
  head : domain.head? ≠ some '.'
  /-- The domain does not end with a dot. -/
  last : domain.getLast? ≠ some '.'

variable [Unicode]

/-- **The addresses that are parsed**, and what they are parsed to. -/
lemma parse_eq_ok {raw : String} {email : Email} :
    Email.parse raw = .ok email ↔ ∃ localPart domain, Parts localPart domain ∧
      (trim raw).toList = localPart ++ '@' :: domain ∧ email = ⟨toLowercase (trim raw)⟩ := by
  unfold Email.parse
  dsimp only
  constructor
  · intro h
    split at h
    · cases h
    · split at h
      · rename_i localPart domain hsplit
        obtain ⟨hlist, hlocal, hdomain⟩ := splitOn_eq_pair.mp hsplit
        split at h
        · cases h
        · rename_i hparts
          push Not at hparts
          obtain ⟨hne, hne', hdot, hhead, hlast⟩ := hparts
          exact ⟨localPart, domain, ⟨hne, hne', hlocal, hdomain, hdot, hhead, hlast⟩, hlist,
            (Except.ok.inj h).symm⟩
      · cases h
  · rintro ⟨localPart, domain, hparts, hlist, rfl⟩
    have hsplit := splitOn_eq_pair.mpr ⟨hlist, hparts.localPart_at, hparts.domain_at⟩
    rw [if_neg (by simp [hlist]), hsplit]
    dsimp only
    rw [if_neg]
    push Not
    exact ⟨hparts.localPart_ne, hparts.domain_ne, hparts.dot, hparts.head, hparts.last⟩

end Email

/-- What addresses rely on of the Unicode tables: lower-casing twice is lower-casing once, and
lower-casing replaces characters one by one, leaves white space, the `@` and dots alone, and
introduces none. -/
structure LowercaseLaws [Unicode] : Prop where
  /-- Lower-casing is idempotent. -/
  idempotent : ∀ s : String, toLowercase (toLowercase s) = toLowercase s
  /-- Lower-casing rewrites between delimiters. -/
  rewritten : ∀ s : String, Rewritten Email.IsDelimiter s.toList (toLowercase s).toList

namespace Email

variable [Unicode]

omit [Unicode] in
/-- Lower-casing keeps what is required of the parts of an address. -/
lemma Parts.rewritten {localPart domain localPart' domain' : List Char}
    (h : Parts localPart domain) (hlocal : Rewritten IsDelimiter localPart localPart')
    (hdomain : Rewritten IsDelimiter domain domain') : Parts localPart' domain' where
  localPart_ne := mt hlocal.eq_nil_iff.mp h.localPart_ne
  domain_ne := mt hdomain.eq_nil_iff.mp h.domain_ne
  localPart_at := mt (hlocal.mem_iff (.inl rfl)).mp h.localPart_at
  domain_at := mt (hdomain.mem_iff (.inl rfl)).mp h.domain_at
  dot := (hdomain.mem_iff (.inr (.inl rfl))).mpr h.dot
  head := mt (hdomain.head?_iff (.inr (.inl rfl))).mp h.head
  last := mt (hdomain.getLast?_iff (.inr (.inl rfl))).mp h.last

variable {raw raw' : String} {email email' : Email}

/-- A parsed address has no white space at its ends. -/
lemma trimmed_text (laws : LowercaseLaws) (h : Email.parse raw = .ok email) :
    Trimmed email.text.toList := by
  obtain ⟨_, _, -, -, rfl⟩ := parse_eq_ok.mp h
  have hcase := laws.rewritten (trim raw)
  intro c hc
  by_contra hwhite
  have hδ : IsDelimiter c := .inr (.inr (Bool.eq_true_of_not_eq_false hwhite))
  exact hwhite (trimmed_trim raw c (hc.imp (hcase.head?_iff hδ).mp (hcase.getLast?_iff hδ).mp))

/-- **Parsing a parsed address changes nothing.** -/
theorem parse_text (laws : LowercaseLaws) (h : Email.parse raw = .ok email) :
    Email.parse email.text = .ok email := by
  have htrim := trim_eq_self (trimmed_text laws h)
  obtain ⟨localPart, domain, hparts, hlist, rfl⟩ := parse_eq_ok.mp h
  have hcase := laws.rewritten (trim raw)
  rw [hlist] at hcase
  obtain ⟨localPart', domain', hlist', hlocal, hdomain⟩ := hcase.of_append_cons (.inl rfl)
  refine parse_eq_ok.mpr ⟨localPart', domain', hparts.rewritten hlocal hdomain, ?_, ?_⟩
  · rw [htrim]
    exact hlist'
  · rw [htrim, laws.idempotent]

/-- Lower-casing a parsed address changes nothing. -/
theorem new_text (laws : LowercaseLaws) (h : Email.parse raw = .ok email) :
    Email.new email.text = email := by
  obtain ⟨_, _, -, -, rfl⟩ := parse_eq_ok.mp h
  rw [Email.new, laws.idempotent]

end Email

/-! ## The ASCII tables -/

/-- No delimiter is an ASCII letter. -/
lemma Email.IsDelimiter.not_alpha {c : Char} (h : Email.IsDelimiter c) :
    c.isUpper = false ∧ c.isLower = false := by
  have hcode : c.toNat = 64 ∨ c.toNat = 46 ∨ (9 ≤ c.toNat ∧ c.toNat ≤ 13) ∨ c.toNat = 32 ∨
      127 < c.toNat := by
    rcases h with rfl | rfl | hwhite
    · exact .inl rfl
    · exact .inr (.inl rfl)
    · unfold isWhiteSpace at hwhite
      simp only [Bool.or_eq_true, Bool.and_eq_true, decide_eq_true_eq, beq_iff_eq] at hwhite
      omega
  constructor
  · simp only [Char.isUpper, decide_eq_false_iff_not, ge_iff_le, UInt32.le_iff_toNat_le]
    change ¬ (65 ≤ c.toNat ∧ c.toNat ≤ 90)
    omega
  · simp only [Char.isLower, Bool.and_eq_false_iff, decide_eq_false_iff_not, ge_iff_le,
      UInt32.le_iff_toNat_le]
    change ¬ 97 ≤ c.toNat ∨ ¬ c.toNat ≤ 122
    omega

/-- The ASCII tables obey the laws. -/
theorem lowercaseLaws_ascii : @LowercaseLaws Unicode.ascii := by
  refine @LowercaseLaws.mk Unicode.ascii ?_ ?_
  · intro s
    show String.ofList ((String.ofList (s.toList.map Char.toLower)).toList.map Char.toLower) =
      String.ofList (s.toList.map Char.toLower)
    rw [String.toList_ofList, List.map_map]
    congr 1
    exact List.map_congr_left fun c _ => Char.toLower_toLower_eq_toLower c
  · intro s
    show Rewritten _ s.toList (String.ofList (s.toList.map Char.toLower)).toList
    rw [String.toList_ofList]
    refine .map (fun c hc => ?_) (fun c hc hlower => ?_) _
    · exact Char.toLower_eq_of_not_isUpper (by rw [hc.not_alpha.1]; exact Bool.false_ne_true)
    · by_cases hupper : c.isUpper = true
      · have halpha : c.toLower.isLower = true := by
          rw [Char.isLower_toLower_eq_isAlpha, Char.isAlpha, hupper, Bool.true_or]
        rw [hlower.not_alpha.2] at halpha
        cases halpha
      · rw [Char.toLower_eq_of_not_isUpper hupper] at hlower
        exact hc hlower

end Klynt
