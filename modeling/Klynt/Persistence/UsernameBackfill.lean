import Klynt.Domain.User
import Klynt.Lib.Delimited
import Klynt.Lib.IpAddr
import Klynt.Lib.Prog
import Klynt.Lib.SortRank

set_option relaxedAutoImplicit false
set_option autoImplicit false

/-!
# The backfill of user names

The migration that adds the user names gives every user that is there a name: its full name or the
local part of its address, cut to the width of the column, with a number if others have the same.

## Main definitions

* `UsersTable` — the users before the migration.
* `UsersTable.username`, `UsersTable.migration0011` — the name of a row, and the migration.
* `UsersTable.Backfilled` — all rows get distinct names that fit, and the migration goes through.
* `UsersTable.Unmistakable` — no two bases are taken for each other when they are cut and numbered.

## Main results

* `UsersTable.backfilled_iff` — the migration succeeds iff no two bases are taken for each other.

## Implementation notes

Lower-casing follows the locale of the database and is a parameter.  Row numbers are of type
`bigint`, which bounds the number of rows.
-/

namespace Klynt

/-- A row of `users` before the migration. -/
structure LegacyUser where
  /-- The id. -/
  id : UserId
  /-- The address. -/
  email : String
  /-- The full name. -/
  name : String
  deriving DecidableEq

/-- The table before the migration. -/
structure UsersTable where
  /-- The rows. -/
  rows : List LegacyUser
  /-- Ids are distinct. -/
  ids_nodup : (rows.map (·.id)).Nodup
  /-- Addresses are distinct. -/
  emails_nodup : (rows.map (·.email)).Nodup
  /-- Names fit. -/
  name_length : ∀ row ∈ rows, row.name.length ≤ 255
  /-- Rows can be numbered. -/
  length_lt : rows.length < 2 ^ 63

/-- Why a migration fails. -/
inductive MigrationError where
  /-- A value is too long for its column. -/
  | valueTooLong
  /-- A column contains nulls. -/
  | notNull
  /-- A key is not unique. -/
  | notUnique
  deriving DecidableEq

/-! ## The functions of the database -/

/-- `NULLIF`. -/
def nullif (value other : String) : Option String := if value = other then none else some value

/-- `split_part (text, delimiter, 1)`. -/
def splitFirst (text : String) (delimiter : Char) : String :=
  String.ofList (text.toList.takeWhile (· ≠ delimiter))

/-- `LEFT`: a negative number is the one of the characters that are left out at the end. -/
def left (text : String) (n : ℤ) : String :=
  String.ofList (text.toList.take (if 0 ≤ n then n.toNat else text.length - n.natAbs))

/-! ## The migration -/

/-- `base`. -/
def LegacyUser.base (lower : String → String) (row : LegacyUser) : Option String :=
  ((nullif row.name "").or (some (splitFirst row.email '@'))).map lower

/-- `'-' || suffix::text`. -/
def dashed (suffix : ℕ) : String := "-" ++ toString suffix

/-- A base that is cut to the width of the column. -/
def cutBase (base : String) : String := left base 50

/-- A base that is cut so that a suffix fits. -/
def cutBefore (base : String) (suffix : ℕ) : String := left base (50 - (dashed suffix).length)

namespace UsersTable

variable (lower : String → String) (table : UsersTable)

/-- `PARTITION BY base ORDER BY id`. -/
def group (base : Option String) : List LegacyUser :=
  sortBy (·.id.inner.toNat) (table.rows.filter (·.base lower = base))

/-- `suffix`: one less than the row number. -/
def suffix (row : LegacyUser) : ℕ := (table.group lower (row.base lower)).idxOf row

/-- The name of a row. -/
def username (row : LegacyUser) : Option String :=
  (row.base lower).map fun base =>
    if table.suffix lower row = 0 then cutBase base
    else cutBefore base (table.suffix lower row) ++ dashed (table.suffix lower row)

/-- The update, with the width of the column, then `NOT NULL` and `UNIQUE`. -/
def migration0011 : Except MigrationError (List (LegacyUser × Option String)) := do
  let updated ← table.rows.mapM fun row =>
    if (table.username lower row).all (·.length ≤ 50) then .ok (row, table.username lower row)
    else .error .valueTooLong
  if updated.any (·.2.isNone) then .error .notNull
  if ¬ (updated.map (·.2)).Nodup then .error .notUnique
  return updated

/-! ## What is to hold -/

/-- **The backfill succeeds**: all rows get names that fit, no two the same, and the constraint is
added. -/
structure Backfilled : Prop where
  /-- Every row gets a name that fits. -/
  assigned : ∀ row ∈ table.rows, ∃ name, table.username lower row = some name ∧ name.length ≤ 50
  /-- No two rows get the same name. -/
  distinct : ∀ row ∈ table.rows, ∀ row' ∈ table.rows,
    table.username lower row = table.username lower row' → row = row'
  /-- The migration goes through. -/
  migrated : ∃ updated, table.migration0011 lower = .ok updated

/-- The number of rows of a base. -/
def groupSize (base : String) : ℕ := table.rows.countP (·.base lower = some base)

/-- **No two bases are taken for each other**: not when they are cut, not when they are cut before
the same number, which both groups need, and no cut base for one with a number. -/
structure Unmistakable : Prop where
  /-- Bases differ in the first characters. -/
  cut : ∀ base base', 0 < table.groupSize lower base → 0 < table.groupSize lower base' →
    cutBase base = cutBase base' → base = base'
  /-- Bases that get the same number differ in what is left of them. -/
  numbered : ∀ base base' n, 0 < n → n < table.groupSize lower base →
    n < table.groupSize lower base' → cutBefore base n = cutBefore base' n → base = base'
  /-- No base looks like one with a number. -/
  mixed : ∀ base base' n, 0 < n → 0 < table.groupSize lower base → n < table.groupSize lower base' →
    cutBase base ≠ cutBefore base' n ++ dashed n

end UsersTable

/-! ## Lengths and suffixes -/

/-- What is left of a text is not longer than the number says. -/
lemma length_left_le (text : String) {n : ℤ} (hn : 0 ≤ n) : ((left text n).length : ℤ) ≤ n := by
  unfold left
  rw [if_pos hn, String.length_ofList, List.length_take]
  omega

/-- The suffix of a row number is short. -/
lemma length_dashed_le {n : ℕ} (hn : n < 2 ^ 63) : (dashed n).length ≤ 20 := by
  have hdigits : n.repr.length ≤ 19 := (Nat.length_repr_le_iff (by decide)).mpr (by omega)
  unfold dashed
  rw [String.length_append]
  exact Nat.add_le_add (Nat.le_refl 1) hdigits

/-- The characters of a suffix. -/
lemma dashed_toList (n : ℕ) : (dashed n).toList = '-' :: Nat.toDigits 10 n := by
  have hdash : "-" = String.ofList ['-'] := by decide
  unfold dashed
  rw [hdash, String.toList_append, Nat.toString_eq_ofList_toDigits, String.toList_ofList,
    String.toList_ofList, List.singleton_append]

/-- **A text ends with one suffix only.** -/
lemma append_dashed_inj {text text' : String} {n n' : ℕ}
    (h : text ++ dashed n = text' ++ dashed n') : text = text' ∧ n = n' := by
  have hdigits : ∀ n, '-' ∉ (Nat.toDigits 10 n).reverse := by
    intro n hmem
    have hdigit := Nat.isDigit_of_mem_toDigits (by decide) (by decide) (List.mem_reverse.mp hmem)
    exact absurd hdigit (by decide)
  -- backwards, the digits end at the first hyphen
  have hreverse : (Nat.toDigits 10 n).reverse ++ '-' :: text.toList.reverse =
      (Nat.toDigits 10 n').reverse ++ '-' :: text'.toList.reverse := by
    have hlist := congrArg (fun s => s.toList.reverse) h
    simpa only [String.toList_append, dashed_toList, List.reverse_append, List.reverse_cons,
      List.append_assoc, List.singleton_append] using hlist
  obtain ⟨hnumber, htext⟩ := cut_unique (hdigits n) (hdigits n') (by simp) (by simp) hreverse
  refine ⟨String.toList_injective (List.reverse_injective ?_), ?_⟩
  · exact (List.cons.inj htext).2
  · exact toDigits_inj (by decide) (by decide) (List.reverse_injective hnumber)

/-! ## Groups -/

namespace UsersTable

variable {lower : String → String} {table : UsersTable} {row row' : LegacyUser} {base : String}

/-- The rows of a group. -/
lemma mem_group {b : Option String} :
    row ∈ table.group lower b ↔ row ∈ table.rows ∧ row.base lower = b := by
  unfold group
  rw [(sortBy_perm _ _).mem_iff, List.mem_filter, decide_eq_true_eq]

/-- A group has as many rows as have its base. -/
lemma length_group : (table.group lower (some base)).length = table.groupSize lower base := by
  unfold group groupSize
  rw [(sortBy_perm _ _).length_eq, ← List.countP_eq_length_filter]

/-- No row occurs twice in a group. -/
lemma nodup_group (b : Option String) : (table.group lower b).Nodup := by
  have hrows : table.rows.Nodup := table.ids_nodup.of_map
  exact (sortBy_perm _ _).nodup_iff.mpr (hrows.filter _)

/-- A suffix is less than the size of the group. -/
lemma suffix_lt (hrow : row ∈ table.rows) (hbase : row.base lower = some base) :
    table.suffix lower row < table.groupSize lower base := by
  unfold suffix
  rw [hbase, ← length_group]
  exact List.idxOf_lt_length_of_mem (mem_group.mpr ⟨hrow, hbase⟩)

/-- Suffixes are short numbers. -/
lemma groupSize_lt (base : String) : table.groupSize lower base < 2 ^ 63 :=
  Nat.lt_of_le_of_lt List.countP_le_length table.length_lt

/-- **Every smaller number is the suffix of a row of the group.** -/
lemma exists_suffix {n : ℕ} (hn : n < table.groupSize lower base) :
    ∃ row ∈ table.rows, row.base lower = some base ∧ table.suffix lower row = n := by
  rw [← length_group] at hn
  obtain ⟨hrow, hbase⟩ := mem_group.mp (List.getElem_mem hn)
  refine ⟨_, hrow, hbase, ?_⟩
  unfold suffix
  rw [hbase]
  exact (nodup_group _).idxOf_getElem n hn

/-- **No two rows of a group have the same suffix.** -/
lemma eq_of_suffix (hrow : row ∈ table.rows) (hbase : row.base lower = row'.base lower)
    (hsuffix : table.suffix lower row = table.suffix lower row') : row = row' := by
  unfold suffix at hsuffix
  rw [← hbase] at hsuffix
  exact (List.idxOf_inj (mem_group.mpr ⟨hrow, rfl⟩)).mp hsuffix

/-- Every row has a base. -/
lemma exists_base (lower : String → String) (row : LegacyUser) : ∃ base, row.base lower = some base := by
  unfold LegacyUser.base nullif
  split
  · exact ⟨_, rfl⟩
  · exact ⟨_, rfl⟩

/-! ## Names -/

/-- The name of the first row of a group. -/
lemma username_of_zero (hbase : row.base lower = some base) (hsuffix : table.suffix lower row = 0) :
    table.username lower row = some (cutBase base) := by
  unfold username
  rw [hbase, Option.map_some, if_pos hsuffix]

/-- The name of another row. -/
lemma username_of_pos (hbase : row.base lower = some base) (hsuffix : 0 < table.suffix lower row) :
    table.username lower row =
      some (cutBefore base (table.suffix lower row) ++ dashed (table.suffix lower row)) := by
  unfold username
  rw [hbase, Option.map_some, if_neg hsuffix.ne']

/-- **Every row gets a name that fits.** -/
theorem username_assigned (lower : String → String) (hrow : row ∈ table.rows) :
    ∃ name, table.username lower row = some name ∧ name.length ≤ 50 := by
  obtain ⟨base, hbase⟩ := exists_base lower row
  rcases Nat.eq_zero_or_pos (table.suffix lower row) with hzero | hpos
  · refine ⟨_, username_of_zero hbase hzero, ?_⟩
    have hlength := length_left_le base (n := 50) (by decide)
    unfold cutBase
    omega
  · refine ⟨_, username_of_pos hbase hpos, ?_⟩
    have hdashed := length_dashed_le ((suffix_lt hrow hbase).trans (groupSize_lt base))
    have hlength := length_left_le base
      (n := 50 - (dashed (table.suffix lower row)).length) (by omega)
    rw [String.length_append]
    unfold cutBefore
    omega

/-- The migration goes through if all names fit and no two are the same. -/
lemma migrated_of_distinct
    (h : ∀ row ∈ table.rows, ∀ row' ∈ table.rows,
      table.username lower row = table.username lower row' → row = row') :
    ∃ updated, table.migration0011 lower = .ok updated := by
  have hrows : table.rows.Nodup := table.ids_nodup.of_map
  let updated := table.rows.map fun row => (row, table.username lower row)
  have hupdated : (table.rows.mapM fun row =>
      if (table.username lower row).all (·.length ≤ 50) then
        (.ok (row, table.username lower row) : Except MigrationError _)
      else .error .valueTooLong) = .ok updated := by
    refine Except.mapM_eq_ok.mpr (List.forall₂_map_right_iff.mpr (List.forall₂_same.mpr ?_))
    intro row hrow
    obtain ⟨name, hname, hlength⟩ := username_assigned lower hrow
    rw [hname, if_pos (by simpa using hlength)]
  have hnull : updated.any (·.2.isNone) = false := by
    refine List.any_eq_false.mpr fun entry hentry => ?_
    obtain ⟨row, hrow, rfl⟩ := List.mem_map.mp hentry
    obtain ⟨name, hname, -⟩ := username_assigned lower hrow
    simp [hname]
  have hunique : (updated.map (·.2)).Nodup := by
    rw [List.map_map]
    exact hrows.map_on fun row hrow row' hrow' heq => h row hrow row' hrow' heq
  refine ⟨updated, ?_⟩
  unfold migration0011
  rw [hupdated]
  simp [hnull, hunique, pure, Except.pure]

end UsersTable

/-! ## When the backfill succeeds -/

namespace UsersTable

variable {lower : String → String} {table : UsersTable}

/-- Distinct names are those of bases that are not taken for each other. -/
lemma unmistakable_of_distinct
    (h : ∀ row ∈ table.rows, ∀ row' ∈ table.rows,
      table.username lower row = table.username lower row' → row = row') :
    table.Unmistakable lower := by
  constructor
  · intro base base' hsize hsize' hcut
    obtain ⟨row, hrow, hbase, hsuffix⟩ := exists_suffix hsize
    obtain ⟨row', hrow', hbase', hsuffix'⟩ := exists_suffix hsize'
    have heq : row = row' := h row hrow row' hrow' (by
      rw [username_of_zero hbase hsuffix, username_of_zero hbase' hsuffix', hcut])
    rw [heq, hbase'] at hbase
    exact (Option.some.inj hbase).symm
  · intro base base' n hn hsize hsize' hcut
    obtain ⟨row, hrow, hbase, rfl⟩ := exists_suffix hsize
    obtain ⟨row', hrow', hbase', hsuffix'⟩ := exists_suffix hsize'
    have heq : row = row' := h row hrow row' hrow' (by
      rw [username_of_pos hbase hn, username_of_pos hbase' (hsuffix'.symm ▸ hn), hsuffix', hcut])
    rw [heq, hbase'] at hbase
    exact (Option.some.inj hbase).symm
  · intro base base' n hn hsize hsize' hcut
    obtain ⟨row, hrow, hbase, hsuffix⟩ := exists_suffix hsize
    obtain ⟨row', hrow', hbase', rfl⟩ := exists_suffix hsize'
    have heq : row = row' := h row hrow row' hrow' (by
      rw [username_of_zero hbase hsuffix, username_of_pos hbase' hn, hcut])
    rw [heq] at hsuffix
    exact absurd hsuffix hn.ne'

/-- Bases that are not taken for each other give distinct names.

**Proof sketch.** Two names are cut bases, numbered ones, or one of each.  Numbered names that are
the same have the same number and the same text in front of it (`append_dashed_inj`). -/
lemma Unmistakable.distinct (h : table.Unmistakable lower) {row row' : LegacyUser}
    (hrow : row ∈ table.rows) (hrow' : row' ∈ table.rows)
    (hname : table.username lower row = table.username lower row') : row = row' := by
  obtain ⟨base, hbase⟩ := exists_base lower row
  obtain ⟨base', hbase'⟩ := exists_base lower row'
  have hlt := suffix_lt hrow hbase
  have hlt' := suffix_lt hrow' hbase'
  rcases Nat.eq_zero_or_pos (table.suffix lower row) with hzero | hpos <;>
    rcases Nat.eq_zero_or_pos (table.suffix lower row') with hzero' | hpos'
  · rw [username_of_zero hbase hzero, username_of_zero hbase' hzero'] at hname
    obtain rfl := h.cut base base' (by omega) (by omega) (Option.some.inj hname)
    exact eq_of_suffix hrow (hbase.trans hbase'.symm) (hzero.trans hzero'.symm)
  · rw [username_of_zero hbase hzero, username_of_pos hbase' hpos'] at hname
    exact absurd (Option.some.inj hname) (h.mixed base base' _ hpos' (by omega) hlt')
  · rw [username_of_pos hbase hpos, username_of_zero hbase' hzero'] at hname
    exact absurd (Option.some.inj hname).symm (h.mixed base' base _ hpos (by omega) hlt)
  · rw [username_of_pos hbase hpos, username_of_pos hbase' hpos'] at hname
    obtain ⟨hcut, hsuffix⟩ := append_dashed_inj (Option.some.inj hname)
    rw [← hsuffix] at hcut hlt'
    obtain rfl := h.numbered base base' _ hpos hlt hlt' hcut
    exact eq_of_suffix hrow (hbase.trans hbase'.symm) hsuffix

end UsersTable

/-- **The backfill succeeds iff no two bases are taken for each other**: on every table, all rows
get distinct names of at most 50 characters and the migration goes through, iff different bases
differ in their first 50 characters, and in what is left of them in front of a number that both
groups need, and no base looks like a numbered one.

**Proof sketch.** The suffixes of a group are the numbers below its size, each once
(`exists_suffix`, `eq_of_suffix`).  Every name fits (`username_assigned`), so only equal names can
fail the migration (`migrated_of_distinct`), and these are those of bases that are taken for each
other. -/
theorem UsersTable.backfilled_iff (lower : String → String) (table : UsersTable) :
    table.Backfilled lower ↔ table.Unmistakable lower := by
  constructor
  · intro h
    exact unmistakable_of_distinct h.distinct
  · intro h
    have hdistinct : ∀ row ∈ table.rows, ∀ row' ∈ table.rows,
        table.username lower row = table.username lower row' → row = row' :=
      fun row hrow row' hrow' hname => h.distinct hrow hrow' hname
    exact ⟨fun row hrow => username_assigned lower hrow, hdistinct, migrated_of_distinct hdistinct⟩

namespace Scenario

/-- Two users have the same name, and a third one has it with a number. -/
def numberedNames : UsersTable where
  rows :=
    [⟨⟨1⟩, "ada@x.org", "ada"⟩, ⟨⟨2⟩, "ada@y.org", "ada"⟩, ⟨⟨3⟩, "ada@z.org", "ada-1"⟩]
  ids_nodup := by decide
  emails_nodup := by decide
  name_length := by decide
  length_lt := by decide

end Scenario

/-- A second user is given the name of a third one. -/
theorem backfill_collides :
    ¬ Scenario.numberedNames.Backfilled fun s => String.ofList (s.toList.map Char.toLower) := by
  intro h
  have heq := h.distinct ⟨⟨2⟩, "ada@y.org", "ada"⟩ (by decide) ⟨⟨3⟩, "ada@z.org", "ada-1"⟩ (by decide)
    (by decide +kernel)
  revert heq
  decide

end Klynt
