import Klynt.Domain.Email

set_option relaxedAutoImplicit false
set_option autoImplicit false

/-!
# Slugs

What a text satisfies that is valid as a slug.

## Main definitions

* `SlugText` — what slugs satisfy.

## Main results

* `slugError_eq_none` — the texts that are valid as slugs.
* `TenantSlug.text_of_parse`, `TenantSlug.lower_of_parse` — the slug that a text is parsed to.
-/

namespace Klynt

/-- The letters of slugs. -/
def isSlugChar (c : Char) : Bool := isAsciiAlphanumeric c || c == '-'

/-- What slugs satisfy. -/
structure SlugText (text : String) : Prop where
  /-- The least length. -/
  long : 3 ≤ text.utf8ByteSize
  /-- The greatest length. -/
  short : text.utf8ByteSize ≤ 63
  /-- Letters, digits and hyphens. -/
  chars : ∀ c ∈ text.toList, isSlugChar c = true
  /-- No hyphen at the beginning. -/
  first : text.toList.head? ≠ some '-'
  /-- No hyphen at the end. -/
  last : text.toList.getLast? ≠ some '-'
  /-- Not reserved. -/
  free : text ∉ reservedSubdomains

/-- **The texts that are valid as slugs.** -/
lemma slugError_eq_none {text : String} : slugError text = none ↔ SlugText text := by
  unfold slugError
  constructor
  · intro h
    split at h
    · cases h
    · rename_i hsize
      split at h
      · cases h
      · rename_i hchars
        split at h
        · cases h
        · rename_i hends
          split at h
          · cases h
          · rename_i hfree
            rw [not_or, not_lt, not_lt] at hsize
            rw [not_or] at hends
            rw [not_not, List.all_eq_true] at hchars
            exact ⟨hsize.1, hsize.2, hchars, hends.1, hends.2, hfree⟩
  · intro h
    have hchars : text.toList.all (fun c => isAsciiAlphanumeric c || c == '-') = true :=
      List.all_eq_true.mpr h.chars
    rw [if_neg (not_or.mpr ⟨not_lt.mpr h.long, not_lt.mpr h.short⟩), if_neg (not_not.mpr hchars),
      if_neg (not_or.mpr ⟨h.first, h.last⟩), if_neg h.free]

/-- The slug that a text is parsed to. -/
lemma TenantSlug.text_of_parse [Unicode] {raw : String} {s : TenantSlug}
    (h : TenantSlug.parse raw = .ok s) : s.text = toLowercase raw := by
  unfold TenantSlug.parse at h
  split at h
  · cases h
  · obtain rfl := Except.ok.inj h
    rfl

/-- A parsed slug is its own lower-case text. -/
lemma TenantSlug.lower_of_parse [Unicode] (laws : LowercaseLaws) {raw : String} {s : TenantSlug}
    (h : TenantSlug.parse raw = .ok s) : toLowercase s.text = s.text := by
  rw [text_of_parse h]
  exact laws.idempotent raw

/-- The text of a parsed slug is parsed as it is. -/
lemma TenantSlug.parse_text [Unicode] (laws : LowercaseLaws) {raw : String} {s : TenantSlug}
    (h : TenantSlug.parse raw = .ok s) : TenantSlug.parse s.text = .ok s := by
  have hlower := lower_of_parse laws h
  unfold TenantSlug.parse
  split
  · rename_i message hmessage
    rw [hlower, s.valid] at hmessage
    cases hmessage
  · simp only [hlower]

/-- A slug satisfies what slugs satisfy. -/
lemma TenantSlug.slugText (s : TenantSlug) : SlugText s.text := slugError_eq_none.mp s.valid

end Klynt
