import Klynt.Lib.Keyed
import Klynt.Lib.Run
import Klynt.Persistence.LayoutStore

set_option relaxedAutoImplicit false
set_option autoImplicit false

/-!
# Saving layouts again and again

Layouts are saved one after the other.  A layout of a user replaces the one that was saved before.
A shared layout has no user, so it never conflicts with a row in the sense of the `ON CONFLICT`
clause, and the index of the shared layouts refuses the second one.

## Main definitions

* `LayoutCall`, `LayoutCall.run` — a call of `upsert`.
* `KeepsLast` — every call succeeded, and the last layout of each key is found.
* `Upsertable` — the calls that replace a layout of a user, or save the first one of a key, with
  texts that can be stored.

## Main results

* `keepsLast_iff` — the last layout is kept exactly if all calls are of this kind.
* `shared_layout_refused` — the second shared layout of a tenant is not saved.
-/

namespace Klynt

open PgTenantDesktopLayoutRepository

/-! ## Calls -/

/-- Shared layouts have no user, the others have one. -/
def TenantDesktopLayout.Scoped (layout : TenantDesktopLayout) : Prop :=
  (layout.scope = .shared ∧ layout.userId = none) ∨ (layout.scope = .user ∧ layout.userId ≠ none)

/-- A call of `upsert`. -/
structure LayoutCall where
  /-- When the statement runs. -/
  now : Time
  /-- The layout. -/
  layout : TenantDesktopLayout
  /-- The layout is as the table demands. -/
  checked : layout.Scoped
  /-- The coordinates are 32-bit integers. -/
  fits : layout.Fits

/-- The layouts saved before, newest first, with the databases they were saved in. -/
abbrev LayoutCalls : Type := List (Db × LayoutCall)

/-- No layout is saved. -/
def NoLayouts (db : Db) : Prop := db.desktopLayouts = []

/-- The layout that was saved last under a key. -/
def lastUpsert (k : LayoutKey) (tr : LayoutCalls) : Option TenantDesktopLayout :=
  (tr.find? fun e => e.2.layout.key = k).map (·.2.layout)

/-- Two layouts differ in nothing but their ids. -/
def SameContent (l l' : TenantDesktopLayout) : Prop := l' = { l with id := l'.id }

/-- The columns of a row that identify a layout. -/
def DesktopLayoutRow.key (row : DesktopLayoutRow) : TenantId × String × Option UserId :=
  (row.tenantId, row.scope, row.userId)

/-- The columns of a key. -/
def LayoutKey.columns (k : LayoutKey) : TenantId × String × Option UserId :=
  (⟨k.1⟩, k.2.1.text, k.2.2.map fun u => ⟨u⟩)

/-- A row may be inserted: neither its key nor its id is taken, and its tenant and its user
exist. -/
def Insertable (db : Db) (row : DesktopLayoutRow) : Prop :=
  (∀ r ∈ db.desktopLayouts, r.id ≠ row.id ∧ r.key ≠ row.key) ∧
    (∃ t ∈ db.tenants, t.id = row.tenantId) ∧
    ∀ u ∈ row.userId, ∃ x ∈ db.users, x.id = u

instance (db : Db) (row : DesktopLayoutRow) : Decidable (Insertable db row) :=
  inferInstanceAs (Decidable (_ ∧ _ ∧ _))

/-- The texts of a layout have no U+0000, and it replaces a layout of a user or is the first one of
its key. -/
def Upsertable (db : Db) (layout : TenantDesktopLayout) : Prop :=
  layout.Storable ∧
    ((layout.scope = .user ∧ ∃ r ∈ db.desktopLayouts, r.key = LayoutKey.columns layout.key) ∨
      Insertable db (rowOf layout 0))

instance (db : Db) (layout : TenantDesktopLayout) : Decidable (Upsertable db layout) :=
  inferInstanceAs (Decidable (_ ∧ (_ ∨ _)))

section Calls

variable [Unicode]

/-- A call. -/
def LayoutCall.run (call : LayoutCall) (db : Db) : Except DomainError TenantDesktopLayout × Db :=
  upsert call.layout call.now db

/-- A call and what it leaves. -/
def UpsertStep (db : Db) (call : LayoutCall) (db' : Db) : Prop := db' = (call.run db).2

/-- Every call succeeded, the layout saved last under a key is the one that is found, and no key has
two rows. -/
structure KeepsLast (tr : LayoutCalls) (db : Db) : Prop where
  /-- Every call succeeded. -/
  saved : ∀ e ∈ tr, ∃ layout, (e.2.run e.1).1 = .ok layout
  /-- The last layout is found. -/
  found : ∀ t scope u, ∃ o, find t scope u db = .ok o ∧
    Option.Rel SameContent (lastUpsert (t, scope, u) tr) o
  /-- No key has two rows. -/
  unique : ∀ t scope u, (db.desktopLayouts.filter (·.key = LayoutKey.columns (t, scope, u))).length ≤ 1

end Calls

/-! ## Keys -/

/-- Keys with the same columns are the same. -/
lemma LayoutKey.columns_inj {k k' : LayoutKey} : columns k = columns k' ↔ k = k' := by
  obtain ⟨t, scope, u⟩ := k
  obtain ⟨t', scope', u'⟩ := k'
  have htext : scope.text = scope'.text ↔ scope = scope' := by
    cases scope <;> cases scope' <;> simp [LayoutScope.text]
  have huser : (u.map fun u => (⟨u⟩ : UserId)) = u'.map (fun u => ⟨u⟩) ↔ u = u' := by
    cases u <;> cases u' <;> simp
  simp [columns, htext, huser]

/-- The key of the row of a layout. -/
@[simp] lemma key_rowOf (layout : TenantDesktopLayout) (now : Time) :
    (rowOf layout now).key = LayoutKey.columns layout.key := rfl

/-- What has a key is said by comparing its columns. -/
lemma DesktopLayoutRow.hasKey_iff {row : DesktopLayoutRow} {k : TenantId × String × Option UserId} :
    row.hasKey k.1 k.2.1 k.2.2 = decide (row.key = k) := by
  obtain ⟨t, scope, u⟩ := k
  simp [hasKey, key]

/-- The rows that conflict with the row of a user's layout are those with its key. -/
lemma DesktopLayoutRow.conflictsWith_of_isSome {row new : DesktopLayoutRow}
    (h : new.userId.isSome) : row.conflictsWith new = decide (row.key = new.key) := by
  have hkey : row.hasKey new.tenantId new.scope new.userId = decide (row.key = new.key) :=
    hasKey_iff (k := new.key)
  have huser : row.key = new.key → row.userId.isSome := by
    intro heq
    rw [show row.userId = new.userId from congrArg (·.2.2) heq]
    exact h
  simp only [conflictsWith, hkey]
  by_cases heq : row.key = new.key
  · simp [heq, huser heq]
  · simp [heq]

/-- No row conflicts with a row without a user. -/
lemma DesktopLayoutRow.conflictsWith_of_none {row new : DesktopLayoutRow} (h : new.userId = none) :
    row.conflictsWith new = false := by
  have hdiff : ¬ (row.hasKey new.tenantId new.scope new.userId = true ∧ row.userId.isSome) := by
    rintro ⟨hkey, huser⟩
    have heq : row.userId = new.userId := (of_decide_eq_true hkey).2.2
    rw [heq, h] at huser
    cases huser
  exact decide_eq_false hdiff

/-- Taking the columns of another row keeps the key. -/
@[simp] lemma DesktopLayoutRow.key_takes (old new : DesktopLayoutRow) (now : Time) :
    (old.takes new now).key = old.key := rfl

/-! ## The layouts of a database -/

/-- What the constraints of the table say of its rows. -/
structure Db.LayoutsOk (db : Db) : Prop where
  /-- No key has two rows. -/
  keys : (db.desktopLayouts.map DesktopLayoutRow.key).Nodup
  /-- Shared layouts have no user. -/
  shared : ∀ row ∈ db.desktopLayouts, row.scope = "shared" → row.userId = none

section Find

variable [Unicode] {db : Db} {layout : TenantDesktopLayout} {now : Time}

/-- The layout of a key is found by comparing the columns. -/
lemma find_eq (k : LayoutKey) : find k.1 k.2.1 k.2.2 db =
    mapOption mapLayoutRow (db.desktopLayouts.find? (·.key = LayoutKey.columns k)) := by
  have hkey : (fun r : DesktopLayoutRow => r.hasKey ⟨k.1⟩ k.2.1.text (k.2.2.map fun u => ⟨u⟩)) =
      fun r => decide (r.key = LayoutKey.columns k) := by
    funext r
    exact DesktopLayoutRow.hasKey_iff (k := LayoutKey.columns k)
  rw [find, hkey]

/-- After a row with a new key is appended, its layout is found under its key. -/
lemma find_append (hfits : layout.Fits)
    (hnew : ∀ r ∈ db.desktopLayouts, r.key ≠ (rowOf layout now).key) (k : LayoutKey) :
    find k.1 k.2.1 k.2.2 { db with desktopLayouts := db.desktopLayouts ++ [rowOf layout now] } =
      if k = layout.key then .ok (some layout) else find k.1 k.2.1 k.2.2 db := by
  rw [find_eq, find_eq]
  dsimp only
  rw [← Keyed.upsert_of_forall_ne DesktopLayoutRow.key hnew, Keyed.find?_upsert, key_rowOf]
  by_cases hk : k = layout.key
  · rw [if_pos hk, if_pos (LayoutKey.columns_inj.mpr hk)]
    simp only [mapOption, mapLayoutRow_rowOf hfits now, Except.map]
  · rw [if_neg hk, if_neg (mt LayoutKey.columns_inj.mp hk)]

/-- The layout of a row that took the columns of a new one. -/
lemma mapLayoutRow_takes {old : DesktopLayoutRow} (hfits : layout.Fits)
    (hkey : old.key = LayoutKey.columns layout.key) :
    mapLayoutRow (old.takes (rowOf layout now) now) = .ok { layout with id := old.id } := by
  have hrow : mapLayoutRow (old.takes (rowOf layout now) now) =
      mapLayoutRow (rowOf { layout with id := old.id } now) := by
    obtain ⟨id, t, scope, u, version, background, icons, windows, etag, created, updated⟩ := old
    obtain ⟨rfl, hrest⟩ := Prod.mk.inj hkey
    obtain ⟨rfl, rfl⟩ := Prod.mk.inj hrest
    rfl
  have hfits' : TenantDesktopLayout.Fits { layout with id := old.id } :=
    ⟨hfits.icons, hfits.windows⟩
  rw [hrow, mapLayoutRow_rowOf hfits']

variable (now) in
/-- After a row took the columns of a new one, the new layout is found under its key, with the id of
the old one. -/
lemma find_modify {old : DesktopLayoutRow} (hfits : layout.Fits)
    (hold : db.desktopLayouts.find? (·.key = LayoutKey.columns layout.key) = some old)
    (k : LayoutKey) :
    find k.1 k.2.1 k.2.2 { db with
        desktopLayouts := Keyed.modify DesktopLayoutRow.key (LayoutKey.columns layout.key)
          (·.takes (rowOf layout now) now) db.desktopLayouts } =
      if k = layout.key then .ok (some { layout with id := old.id })
      else find k.1 k.2.1 k.2.2 db := by
  rw [find_eq, find_eq]
  dsimp only
  rw [Keyed.find?_modify fun r => r.key_takes (rowOf layout now) now]
  by_cases hk : k = layout.key
  · have hkey : old.key = LayoutKey.columns layout.key := by simpa using List.find?_some hold
    subst hk
    rw [hold]
    simp only [mapOption, Option.map_some, ↓reduceIte, mapLayoutRow_takes hfits hkey, Except.map]
  · simp only [hk, ↓reduceIte, LayoutKey.columns_inj]
    simp

end Find

/-! ## One call -/

section Insert

variable {db : Db} {row : DesktopLayoutRow} {now : Time}

/-- The row of a call passes the checks of the table. -/
lemma LayoutCall.checkLayoutRow_rowOf (call : LayoutCall) :
    checkLayoutRow (rowOf call.layout now) = .ok () := by
  obtain ⟨hscope, huser⟩ | ⟨hscope, huser⟩ := call.checked
  · simp [checkLayoutRow, rowOf, hscope, huser, LayoutScope.text]
  · simp [checkLayoutRow, rowOf, hscope, huser, LayoutScope.text]

/-- A row of a call has a user exactly if it is not shared. -/
lemma LayoutCall.scope_rowOf (call : LayoutCall) :
    (rowOf call.layout now).scope = "shared" ↔ (rowOf call.layout now).userId = none := by
  obtain ⟨hscope, huser⟩ | ⟨hscope, huser⟩ := call.checked
  · simp [rowOf, hscope, huser, LayoutScope.text]
  · simp [rowOf, hscope, huser, LayoutScope.text]

variable (now) in
/-- A row that may be inserted is appended. -/
lemma insertLayoutRow_ok (h : Insertable db row)
    (hchecked : row.scope = "shared" → row.userId = none) (hok : db.LayoutsOk) :
    insertLayoutRow row now db =
      .ok (row, { db with desktopLayouts := db.desktopLayouts ++ [row] }) := by
  obtain ⟨hnew, ⟨t, ht, htid⟩, huser⟩ := h
  have hid : ¬ db.desktopLayouts.any (·.id = row.id) = true := by
    simpa using fun r hr => (hnew r hr).1
  have hshared : ¬ (row.scope = "shared" ∧ db.desktopLayouts.any (fun r =>
      r.tenantId = row.tenantId ∧ r.scope = "shared") = true) := by
    rintro ⟨hscope, hany⟩
    obtain ⟨r, hr, hr'⟩ := List.any_eq_true.mp hany
    obtain ⟨htenant, hrscope⟩ := of_decide_eq_true hr'
    apply (hnew r hr).2
    rw [DesktopLayoutRow.key, DesktopLayoutRow.key, htenant, hrscope, hscope,
      hok.shared r hr hrscope, hchecked hscope]
  have htenant : db.tenants.any (·.id = row.tenantId) = true :=
    List.any_eq_true.mpr ⟨t, ht, decide_eq_true htid⟩
  have husers : row.userId.all (fun u => db.users.any (·.id = u)) = true := by
    cases hu : row.userId with
    | none => rfl
    | some u =>
      obtain ⟨x, hx, hxid⟩ := huser u hu
      exact List.any_eq_true.mpr ⟨x, hx, decide_eq_true hxid⟩
  rw [insertLayoutRow, if_neg hid, if_neg hshared, if_neg (not_not.mpr htenant),
    if_neg (not_not.mpr husers)]

/-- A row that was inserted might be. -/
lemma insertable_of_ok {p : DesktopLayoutRow × Db} (h : insertLayoutRow row now db = .ok p)
    (hchecked : row.scope = "shared" ↔ row.userId = none)
    (hnone : ∀ r ∈ db.desktopLayouts, row.userId.isSome → r.key ≠ row.key) : Insertable db row := by
  unfold insertLayoutRow at h
  split_ifs at h with hid hshared htenant huser
  refine ⟨fun r hr => ⟨fun heq => hid ?_, fun hkey => ?_⟩, ?_, fun u hu => ?_⟩
  · exact List.any_eq_true.mpr ⟨r, hr, decide_eq_true heq⟩
  · -- A row with the same key is another shared row, or it belongs to the same user.
    cases hu : row.userId with
    | some u => exact hnone r hr (by rw [hu]; rfl) hkey
    | none =>
      have hscope := hchecked.mpr hu
      obtain ⟨ht, hrest⟩ := Prod.mk.inj hkey
      have hrscope : r.scope = "shared" := (Prod.mk.inj hrest).1.trans hscope
      exact hshared ⟨hscope, List.any_eq_true.mpr ⟨r, hr, decide_eq_true ⟨ht, hrscope⟩⟩⟩
  · simpa using htenant
  · rw [Option.mem_def.mp hu] at huser
    simpa using huser

end Insert

section Step

variable [Unicode] {db : Db} (call : LayoutCall)

omit [Unicode] in
/-- The checks pass. -/
lemma LayoutCall.upsertLayoutRow_eq (hstorable : call.layout.Storable) :
    upsertLayoutRow (rowOf call.layout call.now) call.now db =
      match db.desktopLayouts.find? (·.conflictsWith (rowOf call.layout call.now)) with
      | some old => .ok (old.takes (rowOf call.layout call.now) call.now, { db with
          desktopLayouts := db.desktopLayouts.map fun r =>
            if r.conflictsWith (rowOf call.layout call.now) then
              r.takes (rowOf call.layout call.now) call.now else r })
      | none => insertLayoutRow (rowOf call.layout call.now) call.now db := by
  have htexts : checkLayoutTexts (rowOf call.layout call.now) = .ok () :=
    checkLayoutTexts_rowOf.mpr hstorable
  rw [upsertLayoutRow, htexts, call.checkLayoutRow_rowOf]
  rfl

/-- A layout with a text that is refused is not saved. -/
lemma LayoutCall.run_of_not_storable (h : ¬ call.layout.Storable) :
    ∃ e, call.run db = (.error e, db) := by
  cases htexts : checkLayoutTexts (rowOf call.layout call.now) with
  | ok u => exact absurd (checkLayoutTexts_rowOf.mp htexts) h
  | error e =>
    refine ⟨.ofSqlx e, ?_⟩
    rw [LayoutCall.run, upsert, upsertLayoutRow, htexts]
    rfl

/-- What a call that succeeds leaves: the layout is found under its key, and all other keys find
what they found. -/
structure LayoutCall.Effect (db db' : Db) (saved : TenantDesktopLayout) : Prop where
  /-- The constraints still hold. -/
  ok : db'.LayoutsOk
  /-- The layout is the one that was saved. -/
  same : SameContent call.layout saved
  /-- What is found. -/
  find : ∀ k : LayoutKey, find k.1 k.2.1 k.2.2 db' =
    if k = call.layout.key then .ok (some saved)
    else PgTenantDesktopLayoutRepository.find k.1 k.2.1 k.2.2 db

/-- The first layout of a key is saved. -/
lemma LayoutCall.run_of_insertable (hok : db.LayoutsOk) (hstorable : call.layout.Storable)
    (h : Insertable db (rowOf call.layout call.now)) :
    ∃ saved db', call.run db = (.ok saved, db') ∧ call.Effect db db' saved := by
  have hnone : db.desktopLayouts.find? (·.conflictsWith (rowOf call.layout call.now)) = none := by
    refine List.find?_eq_none.mpr fun r hr hconflict => (h.1 r hr).2 ?_
    cases hu : (rowOf call.layout call.now).userId with
    | none => rw [DesktopLayoutRow.conflictsWith_of_none hu] at hconflict; cases hconflict
    | some u =>
      rw [DesktopLayoutRow.conflictsWith_of_isSome (by rw [hu]; rfl)] at hconflict
      exact of_decide_eq_true hconflict
  have hrow := insertLayoutRow_ok call.now h call.scope_rowOf.mp hok
  refine ⟨call.layout, _, ?_, ⟨?_, ?_⟩, rfl,
    find_append call.fits fun r hr => (h.1 r hr).2⟩
  · rw [LayoutCall.run, upsert, call.upsertLayoutRow_eq hstorable, hnone]
    dsimp only
    rw [hrow]
    exact congrArg (·, _) (mapLayoutRow_rowOf call.fits call.now)
  · exact Keyed.nodup_concat _ hok.keys fun r hr => (h.1 r hr).2
  · intro r hr
    rcases List.mem_append.mp hr with hr | hr
    · exact hok.shared r hr
    · obtain rfl := List.mem_singleton.mp hr
      exact call.scope_rowOf.mp

/-- The layout of a user is replaced. -/
lemma LayoutCall.run_of_replaced (hok : db.LayoutsOk) (hstorable : call.layout.Storable)
    (hscope : call.layout.scope = .user)
    {r : DesktopLayoutRow} (hr : r ∈ db.desktopLayouts)
    (hkey : r.key = LayoutKey.columns call.layout.key) :
    ∃ saved db', call.run db = (.ok saved, db') ∧ call.Effect db db' saved := by
  have huser : (rowOf call.layout call.now).userId.isSome := by
    cases hu : (rowOf call.layout call.now).userId with
    | some u => rfl
    | none =>
      have hshared : call.layout.scope.text = "shared" := call.scope_rowOf.mpr hu
      rw [hscope] at hshared
      exact absurd hshared (by decide)
  have hconflict : ∀ r : DesktopLayoutRow, r.conflictsWith (rowOf call.layout call.now) =
      decide (r.key = LayoutKey.columns call.layout.key) := fun r =>
    DesktopLayoutRow.conflictsWith_of_isSome huser
  have hfind : db.desktopLayouts.find? (·.key = LayoutKey.columns call.layout.key) = some r := by
    rw [← hkey]
    exact Keyed.find?_key_eq _ hok.keys hr
  refine ⟨{ call.layout with id := r.id }, _, ?_, ⟨?_, ?_⟩, rfl, find_modify call.now call.fits hfind⟩
  · rw [LayoutCall.run, upsert, call.upsertLayoutRow_eq hstorable]
    simp only [hconflict, hfind, decide_eq_true_eq]
    exact congrArg (·, _) (mapLayoutRow_takes call.fits hkey)
  · exact Keyed.nodup_modify _ (fun r => r.key_takes (rowOf call.layout call.now) call.now) hok.keys
  · intro r' hr'
    obtain ⟨r₀, hr₀, rfl⟩ := List.mem_map.mp hr'
    have hold := hok.shared r₀ hr₀
    split
    · exact hold
    · exact hold

/-- A call that may save its layout does. -/
lemma LayoutCall.run_of_upsertable (hok : db.LayoutsOk) (h : Upsertable db call.layout) :
    ∃ saved db', call.run db = (.ok saved, db') ∧ call.Effect db db' saved := by
  obtain ⟨hstorable, ⟨hscope, r, hr, hkey⟩ | hnew⟩ := h
  · exact call.run_of_replaced hok hstorable hscope hr hkey
  · exact call.run_of_insertable hok hstorable hnew

/-- A call that may not save its layout fails and changes nothing. -/
lemma LayoutCall.run_of_not_upsertable (h : ¬ Upsertable db call.layout) :
    ∃ e, call.run db = (.error e, db) := by
  by_cases hstorable : call.layout.Storable
  swap
  · exact call.run_of_not_storable hstorable
  rw [LayoutCall.run, upsert, call.upsertLayoutRow_eq hstorable]
  cases hfind : db.desktopLayouts.find? (·.conflictsWith (rowOf call.layout call.now)) with
  | some old =>
    exfalso
    have hconflict : old.conflictsWith (rowOf call.layout call.now) = true := by
      simpa using List.find?_some hfind
    cases hu : (rowOf call.layout call.now).userId with
    | none => rw [DesktopLayoutRow.conflictsWith_of_none hu] at hconflict; cases hconflict
    | some u =>
      rw [DesktopLayoutRow.conflictsWith_of_isSome (by rw [hu]; rfl)] at hconflict
      refine h ⟨hstorable, .inl ⟨?_, old, List.mem_of_find?_eq_some hfind,
        of_decide_eq_true hconflict⟩⟩
      obtain ⟨-, hnone⟩ | ⟨hscope, -⟩ := call.checked
      · simp [rowOf, hnone] at hu
      · exact hscope
  | none =>
    cases hinsert : insertLayoutRow (rowOf call.layout call.now) call.now db with
    | error e => exact ⟨_, rfl⟩
    | ok p =>
      have hnew : Insertable db (rowOf call.layout call.now) → Upsertable db call.layout :=
        fun hnew => ⟨hstorable, .inr hnew⟩
      refine absurd (hnew (insertable_of_ok hinsert call.scope_rowOf ?_)) h
      intro r hr huser hkey
      refine List.find?_eq_none.mp hfind r hr ?_
      rw [DesktopLayoutRow.conflictsWith_of_isSome huser]
      exact decide_eq_true hkey

end Step

/-! ## Runs -/

section Runs

variable [Unicode] {tr : LayoutCalls} {db : Db}

omit [Unicode] in
/-- An empty table satisfies the constraints. -/
lemma NoLayouts.ok (h : NoLayouts db) : db.LayoutsOk := by
  have hnil : db.desktopLayouts = [] := h
  exact ⟨by rw [hnil]; exact List.nodup_nil, by rw [hnil]; exact nofun⟩

/-- A call keeps the constraints. -/
lemma UpsertStep.ok {call : LayoutCall} {db' : Db} (hok : db.LayoutsOk)
    (h : UpsertStep db call db') : db'.LayoutsOk := by
  obtain rfl : db' = (call.run db).2 := h
  by_cases hU : Upsertable db call.layout
  · obtain ⟨saved, db', hrun, heffect⟩ := call.run_of_upsertable hok hU
    rw [hrun]
    exact heffect.ok
  · obtain ⟨e, hrun⟩ := call.run_of_not_upsertable hU
    rw [hrun]
    exact hok

/-- The constraints hold in every database that is reached. -/
lemma layoutsOk_of_run (h : Run NoLayouts UpsertStep tr db) : db.LayoutsOk :=
  h.invariant (fun _ => NoLayouts.ok) fun _ _ _ hok hstep => hstep.ok hok

omit [Unicode] in
/-- With the constraints, no key has two rows. -/
lemma Db.LayoutsOk.unique (h : db.LayoutsOk) (k : TenantId × String × Option UserId) :
    (db.desktopLayouts.filter (·.key = k)).length ≤ 1 := by
  cases hfilter : db.desktopLayouts.filter (·.key = k) with
  | nil => exact Nat.zero_le 1
  | cons r rest =>
    obtain ⟨hr, hkey⟩ := List.mem_filter.mp (hfilter ▸ List.mem_cons_self : r ∈ _)
    rw [← hfilter, ← of_decide_eq_true hkey, Keyed.filter_key_eq _ h.keys hr]
    rfl

omit [Unicode] in
/-- The layout saved last, after one more call. -/
lemma lastUpsert_cons (k : LayoutKey) (call : LayoutCall) :
    lastUpsert k ((db, call) :: tr) =
      if call.layout.key = k then some call.layout else lastUpsert k tr := by
  unfold lastUpsert
  rw [List.find?_cons]
  by_cases hk : call.layout.key = k
  · simp [hk]
  · simp [hk]

/-- After calls that may save their layouts, the last layout of a key is found. -/
lemma found_of_run (h : Run NoLayouts UpsertStep tr db)
    (hU : ∀ e ∈ tr, Upsertable e.1 e.2.layout) (k : LayoutKey) :
    ∃ o, find k.1 k.2.1 k.2.2 db = .ok o ∧ Option.Rel SameContent (lastUpsert k tr) o := by
  induction h with
  | start h0 =>
    refine ⟨none, ?_, .none⟩
    rw [find_eq, show _ = [] from h0]
    rfl
  | @snoc tr db db' call hrun hstep ih =>
    obtain rfl : db' = (call.run db).2 := hstep
    obtain ⟨o, hfind, hrel⟩ := ih fun e he => hU e (List.mem_cons_of_mem _ he)
    obtain ⟨saved, db', hsaved, heffect⟩ :=
      call.run_of_upsertable (layoutsOk_of_run hrun) (hU _ List.mem_cons_self)
    rw [hsaved]
    by_cases hk : k = call.layout.key
    · refine ⟨some saved, (heffect.find k).trans (if_pos hk), ?_⟩
      rw [lastUpsert_cons, if_pos hk.symm]
      exact .some heffect.same
    · refine ⟨o, (heffect.find k).trans ((if_neg hk).trans hfind), ?_⟩
      rw [lastUpsert_cons, if_neg (Ne.symm hk)]
      exact hrel

/-- **The last layout is kept**, in a run of saves from an empty table, exactly if every call
replaces a layout of a user, or saves the first layout of a key, with a new id and for a tenant and
a user that exist, and the texts of all layouts have no U+0000.

**Proof sketch.** A call of another kind fails.  A call of this kind stores its layout under its
key and nothing else under another one, and the invariant is that the rows have different keys and
that shared rows have no user. -/
theorem keepsLast_iff (h : Run NoLayouts UpsertStep tr db) :
    KeepsLast tr db ↔ ∀ e ∈ tr, Upsertable e.1 e.2.layout := by
  constructor
  · intro hkeeps e he
    by_contra hU
    obtain ⟨layout, hok⟩ := hkeeps.saved e he
    obtain ⟨err, hrun⟩ := e.2.run_of_not_upsertable hU
    rw [hrun] at hok
    cases hok
  · intro hU
    refine ⟨fun e he => ?_, fun t scope u => found_of_run h hU (t, scope, u),
      fun t scope u => (layoutsOk_of_run h).unique _⟩
    have hok : e.1.LayoutsOk :=
      h.invariant_mem (fun _ => NoLayouts.ok) (fun _ _ _ hok hstep => hstep.ok hok) e he
    obtain ⟨saved, db', hsaved, -⟩ := e.2.run_of_upsertable hok (hU e he)
    exact ⟨saved, congrArg Prod.fst hsaved⟩

end Runs

/-! ## Two saves -/

namespace Scenario

/-- A database with a tenant. -/
def tenantDb : Db :=
  { db with
    tenants := [{ id := ⟨500⟩, slug := "acme", name := "Acme", ownerId := ⟨901⟩, maxMembers := 25
                  maxOwners := 1, settings := .obj [], status := "active", createdAt := 0
                  updatedAt := 0 }] }

/-- An empty desktop, for all members of the tenant or for one user. -/
def emptyLayout (id : Uuid) (scope : LayoutScope) (userId : Option Uuid) (etag : String) :
    TenantDesktopLayout :=
  { id, tenantId := 500, scope, userId, version := 1, backgroundPresetId := "aurora", icons := []
    windows := [], etag }

/-- An empty desktop is saved for all members. -/
def saveShared (id : Uuid) (etag : String) : LayoutCall where
  now := 0
  layout := emptyLayout id .shared none etag
  checked := .inl ⟨rfl, rfl⟩
  fits := ⟨nofun, nofun⟩

/-- An empty desktop is saved for a user. -/
def saveUser (id : Uuid) (etag : String) : LayoutCall where
  now := 0
  layout := emptyLayout id .user (some 901) etag
  checked := .inr ⟨rfl, nofun⟩
  fits := ⟨nofun, nofun⟩

/-- The database after a call. -/
def afterSave (call : LayoutCall) (db : Db) : Db :=
  letI := Unicode.ascii
  (call.run db).2

/-- Two calls. -/
def twoSaves (first second : LayoutCall) : LayoutCalls :=
  [(afterSave first tenantDb, second), (tenantDb, first)]

/-- Two calls are a run. -/
lemma run_twoSaves (first second : LayoutCall) :
    @Run Db LayoutCall NoLayouts (@UpsertStep Unicode.ascii) (twoSaves first second)
      (afterSave second (afterSave first tenantDb)) :=
  .snoc (.snoc (.start rfl) rfl) rfl

end Scenario

/-- A user's layout is saved twice, and the second one is kept. -/
theorem keepsLast_user :
    @KeepsLast Unicode.ascii (Scenario.twoSaves (Scenario.saveUser 1 "a") (Scenario.saveUser 2 "b"))
      (Scenario.afterSave (Scenario.saveUser 2 "b")
        (Scenario.afterSave (Scenario.saveUser 1 "a") Scenario.tenantDb)) := by
  refine (@keepsLast_iff Unicode.ascii _ _ (Scenario.run_twoSaves _ _)).mpr fun e he => ?_
  rcases List.mem_cons.mp he with rfl | he
  · decide +kernel
  · obtain rfl := List.mem_singleton.mp he
    decide +kernel

/-- The second shared layout of a tenant is not saved: the index of the shared layouts refuses its
row, and the first layout stays. -/
theorem shared_layout_refused :
    let first := Scenario.saveShared 1 "a"
    let second := Scenario.saveShared 2 "b"
    let saved := Scenario.afterSave first Scenario.tenantDb
    @Run Db LayoutCall NoLayouts (@UpsertStep Unicode.ascii) (Scenario.twoSaves first second) saved ∧
      (@LayoutCall.run Unicode.ascii second saved).1 = .error (.internal
        ("error returned from database: duplicate key value violates unique constraint " ++
          "\"idx_tenant_desktop_layouts_tenant_shared\"")) ∧
      ¬ @KeepsLast Unicode.ascii (Scenario.twoSaves first second) saved := by
  intro first second saved
  have herror : (@LayoutCall.run Unicode.ascii second saved).1 = .error (.internal
      ("error returned from database: duplicate key value violates unique constraint " ++
        "\"idx_tenant_desktop_layouts_tenant_shared\"")) := by decide +kernel
  have hrun := Scenario.run_twoSaves first second
  have hsaved : Scenario.afterSave second saved = saved := by
    have hunsaved : ¬ @Upsertable saved second.layout := by decide +kernel
    obtain ⟨e, hrefused⟩ := @LayoutCall.run_of_not_upsertable Unicode.ascii _ second hunsaved
    show (@LayoutCall.run Unicode.ascii second saved).2 = saved
    rw [hrefused]
  rw [hsaved] at hrun
  refine ⟨hrun, herror, fun hkeeps => ?_⟩
  obtain ⟨layout, hok⟩ := @KeepsLast.saved Unicode.ascii _ _ hkeeps (saved, second) List.mem_cons_self
  rw [herror] at hok
  cases hok

end Klynt
