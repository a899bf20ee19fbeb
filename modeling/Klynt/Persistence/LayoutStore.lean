import Klynt.Persistence.Inversion
import Klynt.Persistence.Repository
import Klynt.Service.DesktopLayout

set_option relaxedAutoImplicit false
set_option autoImplicit false

/-!
# The repository of desktop layouts

Layouts are rows of `tenant_desktop_layouts`, their icons and windows documents.  A layout is saved
by one `INSERT` with an `ON CONFLICT` clause.

## Main definitions

* `DesktopIcon.toJson`, `DesktopIcon.ofJson`, … — icons and windows as documents.
* `mapLayoutRow` — the layout of a row.
* `insertLayoutRow`, `upsertLayoutRow` — the statement, with the constraints of the table.
* `PgTenantDesktopLayoutRepository.find`, `upsert` — the operations.

## Main results

* `mapLayoutRow_rowOf` — a stored layout is read back.

## Implementation notes

The clause `ON CONFLICT (tenant_id, scope, user_id)` infers the unique constraint of these three
columns.  For a unique constraint two nulls are distinct, so a row without a user conflicts with no
row there.  The sequence form in which a record may also be read is left out, and the characters of
a text are not escaped in the messages of the reader.
-/

namespace Klynt

/-! ## Documents -/

/-- What an error of the reader calls a document. -/
def unexpected : Json → String
  | .null => "null"
  | .bool b => "boolean `" ++ toString b ++ "`"
  | .num n => "integer `" ++ toString n ++ "`"
  | .str s => "string \"" ++ s ++ "\""
  | .arr _ => "sequence"
  | .obj _ => "map"

/-- The error of a document of another type. -/
def invalidType {α : Type} (j : Json) (expected : String) : Except String α :=
  .error ("invalid type: " ++ unexpected j ++ ", expected " ++ expected)

/-- The integers that fit into 32 bits. -/
def FitsI32 (n : Int) : Prop := -2 ^ 31 ≤ n ∧ n < 2 ^ 31

instance (n : Int) : Decidable (FitsI32 n) := inferInstanceAs (Decidable (_ ∧ _))

/-- An `i32`, read from a document. -/
def i32OfJson : Json → Except String Int
  | .num n =>
    if FitsI32 n then .ok n
    else .error ("invalid value: integer `" ++ toString n ++ "`, expected i32")
  | j => invalidType j "i32"

/-- A `String`, read from a document. -/
def stringOfJson : Json → Except String String
  | .str s => .ok s
  | j => invalidType j "a string"

/-- A list, read from a document. -/
def listOfJson {α : Type} (read : Json → Except String α) : Json → Except String (List α)
  | .arr items => items.mapM read
  | j => invalidType j "a sequence"

/-- A member of an object, if it is there. -/
def memberOfJson {α : Type} (read : Json → Except String α) (j : Json) (key : String) :
    Except String (Option α) :=
  match j.member? key with
  | some v => (read v).map some
  | none => .ok none

/-- A member that may not be missing. -/
def requireField {α : Type} (key : String) : Option α → Except String α
  | some a => .ok a
  | none => .error ("missing field `" ++ key ++ "`")

/-- An icon as a document. -/
def DesktopIcon.toJson (icon : DesktopIcon) : Json :=
  .obj [("app_id", .str icon.appId), ("x", .num icon.x), ("y", .num icon.y)]

/-- An icon, read from a document: the members in the order of their keys, then the missing ones in
the order of the fields. -/
def DesktopIcon.ofJson : Json → Except String DesktopIcon
  | .obj members => do
    let appId ← memberOfJson stringOfJson (.obj members) "app_id"
    let x ← memberOfJson i32OfJson (.obj members) "x"
    let y ← memberOfJson i32OfJson (.obj members) "y"
    return { appId := ← requireField "app_id" appId, x := ← requireField "x" x
             y := ← requireField "y" y }
  | j => invalidType j "struct DesktopIcon"

/-- A window as a document. -/
def DesktopWindow.toJson (w : DesktopWindow) : Json :=
  .obj [("app_id", .str w.appId), ("x", .num w.x), ("y", .num w.y), ("width", .num w.width),
    ("height", .num w.height), ("state", .str w.state)]

/-- A window, read from a document. -/
def DesktopWindow.ofJson : Json → Except String DesktopWindow
  | .obj members => do
    let appId ← memberOfJson stringOfJson (.obj members) "app_id"
    let height ← memberOfJson i32OfJson (.obj members) "height"
    let state ← memberOfJson stringOfJson (.obj members) "state"
    let width ← memberOfJson i32OfJson (.obj members) "width"
    let x ← memberOfJson i32OfJson (.obj members) "x"
    let y ← memberOfJson i32OfJson (.obj members) "y"
    return { appId := ← requireField "app_id" appId, x := ← requireField "x" x
             y := ← requireField "y" y, width := ← requireField "width" width
             height := ← requireField "height" height, state := ← requireField "state" state }
  | j => invalidType j "struct DesktopWindow"

/-! ## Rows -/

/-- `LayoutScope::from_str`. -/
def LayoutScope.fromStr [Unicode] (s : String) : Except DomainError LayoutScope :=
  match toLowercase s with
  | "shared" => .ok .shared
  | "user" => .ok .user
  | _ => .error (.validation "invalid layout scope")

/-- `map_layout_row`. -/
def mapLayoutRow [Unicode] (row : DesktopLayoutRow) : Except DomainError TenantDesktopLayout := do
  let scope ← (LayoutScope.fromStr row.scope).mapError fun e =>
    .internal ("invalid layout scope in DB: " ++ e.text)
  let icons ← (listOfJson DesktopIcon.ofJson row.icons).mapError fun e =>
    .internal ("invalid icons JSON in DB: " ++ e)
  let windows ← (listOfJson DesktopWindow.ofJson row.windows).mapError fun e =>
    .internal ("invalid windows JSON in DB: " ++ e)
  return { id := row.id, tenantId := row.tenantId.inner, scope
           userId := row.userId.map (·.inner), version := row.version
           backgroundPresetId := row.backgroundPresetId, icons, windows, etag := row.etag }

/-- `tenant_id = $1 AND scope = $2 AND user_id IS NOT DISTINCT FROM $3`. -/
def DesktopLayoutRow.hasKey (row : DesktopLayoutRow) (t : TenantId) (scope : String)
    (u : Option UserId) : Bool := row.tenantId = t ∧ row.scope = scope ∧ row.userId = u

/-- The rows that `UNIQUE (tenant_id, scope, user_id)` does not allow beside a new row. -/
def DesktopLayoutRow.conflictsWith (row new : DesktopLayoutRow) : Bool :=
  row.hasKey new.tenantId new.scope new.userId ∧ row.userId.isSome

/-! ## The statement -/

/-- A check is violated. -/
def checkViolation (table constraint : String) : SqlxError :=
  .database ⟨.checkViolation, some constraint,
    "new row for relation \"" ++ table ++ "\" violates check constraint \"" ++ constraint ++ "\""⟩

/-- The server refuses a document with U+0000 in a text. -/
def checkJson (j : Json) : Except SqlxError Unit :=
  if j.allTexts (Storable ·) then .ok ()
  else .error (serverError "unsupported Unicode escape sequence")

/-- The texts of a row that the server may refuse. -/
def checkLayoutTexts (row : DesktopLayoutRow) : Except SqlxError Unit := do
  checkText row.backgroundPresetId
  checkJson row.icons
  checkJson row.windows
  checkText row.etag

/-- The checks of `tenant_desktop_layouts`. -/
def checkLayoutRow (row : DesktopLayoutRow) : Except SqlxError Unit :=
  if ¬ ((row.scope = "shared" ∧ row.userId = none) ∨ (row.scope = "user" ∧ row.userId ≠ none)) then
    .error (checkViolation "tenant_desktop_layouts" "chk_tenant_desktop_layout_scope_user_id")
  else if ¬ (row.scope = "shared" ∨ row.scope = "user") then
    .error (checkViolation "tenant_desktop_layouts" "tenant_desktop_layouts_scope_check")
  else .ok ()

/-- The indexes and references of `tenant_desktop_layouts` on a new row that does not conflict with
another row. -/
def insertLayoutRow (row : DesktopLayoutRow) : Statement DesktopLayoutRow := fun _ db =>
  if db.desktopLayouts.any (·.id = row.id) then
    .error (uniqueViolation "tenant_desktop_layouts_pkey")
  else if row.scope = "shared" ∧
      db.desktopLayouts.any (fun r => r.tenantId = row.tenantId ∧ r.scope = "shared") then
    .error (uniqueViolation "idx_tenant_desktop_layouts_tenant_shared")
  else if ¬ db.tenants.any (·.id = row.tenantId) then
    .error (foreignKeyViolation "tenant_desktop_layouts" "tenant_desktop_layouts_tenant_id_fkey")
  else if ¬ row.userId.all (fun u => db.users.any (·.id = u)) then
    .error (foreignKeyViolation "tenant_desktop_layouts" "tenant_desktop_layouts_user_id_fkey")
  else .ok (row, { db with desktopLayouts := db.desktopLayouts ++ [row] })

/-- `DO UPDATE SET …`: the columns that a conflicting row takes from the new one. -/
def DesktopLayoutRow.takes (old new : DesktopLayoutRow) (now : Time) : DesktopLayoutRow :=
  { old with version := new.version, backgroundPresetId := new.backgroundPresetId
             icons := new.icons, windows := new.windows, etag := new.etag, updatedAt := now }

/-- `INSERT INTO tenant_desktop_layouts … ON CONFLICT (tenant_id, scope, user_id) DO UPDATE …
RETURNING …`. -/
def upsertLayoutRow (row : DesktopLayoutRow) : Statement DesktopLayoutRow := fun now db => do
  checkLayoutTexts row
  checkLayoutRow row
  match db.desktopLayouts.find? (·.conflictsWith row) with
  | some old =>
    .ok (old.takes row now, { db with
      desktopLayouts := db.desktopLayouts.map fun r =>
        if r.conflictsWith row then r.takes row now else r })
  | none => insertLayoutRow row now db

/-! ## The operations -/

namespace PgTenantDesktopLayoutRepository

/-- The row of a layout. -/
def rowOf (layout : TenantDesktopLayout) (now : Time) : DesktopLayoutRow :=
  { id := layout.id, tenantId := ⟨layout.tenantId⟩, scope := layout.scope.text
    userId := layout.userId.map fun u => ⟨u⟩, version := layout.version
    backgroundPresetId := layout.backgroundPresetId
    icons := .arr (layout.icons.map DesktopIcon.toJson)
    windows := .arr (layout.windows.map DesktopWindow.toJson), etag := layout.etag
    createdAt := now, updatedAt := now }

variable [Unicode]

/-- `find`. -/
def find (tenantId : Uuid) (scope : LayoutScope) (userId : Option Uuid) (db : Db) :
    Except DomainError (Option TenantDesktopLayout) :=
  mapOption mapLayoutRow (db.desktopLayouts.find?
    (·.hasKey ⟨tenantId⟩ scope.text (userId.map fun u => ⟨u⟩)))

/-- `upsert`. -/
def upsert (layout : TenantDesktopLayout) (now : Time) (db : Db) :
    Except DomainError TenantDesktopLayout × Db :=
  match upsertLayoutRow (rowOf layout now) now db with
  | .ok (row, db') => (mapLayoutRow row, db')
  | .error e => (.error (.ofSqlx e), db)

end PgTenantDesktopLayoutRepository

/-! ## Writing texts -/

/-- The texts of a layout have no U+0000. -/
def TenantDesktopLayout.Storable (layout : TenantDesktopLayout) : Prop :=
  Klynt.Storable layout.backgroundPresetId ∧ (∀ icon ∈ layout.icons, Klynt.Storable icon.appId) ∧
    (∀ w ∈ layout.windows, Klynt.Storable w.appId ∧ Klynt.Storable w.state) ∧
    Klynt.Storable layout.etag

instance (layout : TenantDesktopLayout) : Decidable layout.Storable :=
  inferInstanceAs (Decidable (_ ∧ _ ∧ _ ∧ _))

/-- The documents that are not refused. -/
lemma checkJson_eq_ok {j : Json} {u : Unit} :
    checkJson j = .ok u ↔ j.allTexts (Storable ·) = true := by
  unfold checkJson
  split
  · rename_i h
    exact iff_of_true rfl h
  · rename_i h
    exact iff_of_false (nomatch ·) h

/-- The texts of an icon. -/
lemma DesktopIcon.allTexts_toJson {p : String → Bool} (hp : p "app_id" && p "x" && p "y" = true)
    (icon : DesktopIcon) : icon.toJson.allTexts p = p icon.appId := by
  simp_all [toJson, Json.allTexts, Json.allTextsOfMembers]

/-- The texts of a window. -/
lemma DesktopWindow.allTexts_toJson {p : String → Bool}
    (hp : p "app_id" && p "x" && p "y" && p "width" && p "height" && p "state" = true)
    (w : DesktopWindow) : w.toJson.allTexts p = (p w.appId && p w.state) := by
  simp_all [toJson, Json.allTexts, Json.allTextsOfMembers]

/-- **The layouts whose texts are not refused.** -/
lemma checkLayoutTexts_rowOf {layout : TenantDesktopLayout} {now : Time} {u : Unit} :
    checkLayoutTexts (PgTenantDesktopLayoutRepository.rowOf layout now) = .ok u ↔
      layout.Storable := by
  have hicon : ∀ icon : DesktopIcon,
      icon.toJson.allTexts (Storable ·) = true ↔ Storable icon.appId := fun icon => by
    rw [DesktopIcon.allTexts_toJson (by decide), decide_eq_true_eq]
  have hwindow : ∀ w : DesktopWindow,
      w.toJson.allTexts (Storable ·) = true ↔ Storable w.appId ∧ Storable w.state := fun w => by
    rw [DesktopWindow.allTexts_toJson (by decide), Bool.and_eq_true, decide_eq_true_eq,
      decide_eq_true_eq]
  simp only [checkLayoutTexts, PgTenantDesktopLayoutRepository.rowOf, Except.bind_eq_ok,
    checkText_eq_ok, checkJson_eq_ok, Json.allTexts_arr_map, hicon, hwindow, exists_const]
  rfl

/-! ## Reading what was written -/

/-- The coordinates of an icon are 32-bit integers. -/
def DesktopIcon.Fits (icon : DesktopIcon) : Prop := FitsI32 icon.x ∧ FitsI32 icon.y

/-- The coordinates of a window are 32-bit integers. -/
def DesktopWindow.Fits (w : DesktopWindow) : Prop :=
  FitsI32 w.x ∧ FitsI32 w.y ∧ FitsI32 w.width ∧ FitsI32 w.height

/-- A member that is there is read. -/
lemma memberOfJson_of_lookup {α : Type} {read : Json → Except String α}
    {members : List (String × Json)} {key : String} {v : Json} {a : α}
    (hlookup : members.lookup key = some v) (hread : read v = .ok a) :
    memberOfJson read (.obj members) key = .ok (some a) := by
  simp only [memberOfJson, Json.member?, hlookup, hread, Except.map]

/-- An integer that fits is read. -/
lemma i32OfJson_num {n : Int} (h : FitsI32 n) : i32OfJson (.num n) = .ok n := if_pos h

/-- An icon is read back. -/
lemma DesktopIcon.ofJson_toJson {icon : DesktopIcon} (h : icon.Fits) :
    ofJson icon.toJson = .ok icon := by
  unfold ofJson toJson
  dsimp only
  rw [memberOfJson_of_lookup (a := icon.appId) rfl rfl,
    memberOfJson_of_lookup rfl (i32OfJson_num h.1), memberOfJson_of_lookup rfl (i32OfJson_num h.2)]
  rfl

/-- A window is read back. -/
lemma DesktopWindow.ofJson_toJson {w : DesktopWindow} (h : w.Fits) : ofJson w.toJson = .ok w := by
  obtain ⟨hx, hy, hwidth, hheight⟩ := h
  unfold ofJson toJson
  dsimp only
  rw [memberOfJson_of_lookup (a := w.appId) rfl rfl,
    memberOfJson_of_lookup rfl (i32OfJson_num hheight),
    memberOfJson_of_lookup (a := w.state) rfl rfl,
    memberOfJson_of_lookup rfl (i32OfJson_num hwidth),
    memberOfJson_of_lookup rfl (i32OfJson_num hx), memberOfJson_of_lookup rfl (i32OfJson_num hy)]
  rfl

/-- A list is read back if its elements are. -/
lemma listOfJson_map {α : Type} {read : Json → Except String α} {write : α → Json} {l : List α}
    (h : ∀ a ∈ l, read (write a) = .ok a) : listOfJson read (.arr (l.map write)) = .ok l := by
  show (l.map write).mapM read = .ok l
  induction l with
  | nil => rfl
  | cons a l ih =>
    rw [List.map_cons, List.mapM_cons, h a List.mem_cons_self,
      ih fun b hb => h b (List.mem_cons_of_mem _ hb)]
    rfl

/-- A scope is read back. -/
@[simp] lemma LayoutScope.fromStr_text [Unicode] (scope : LayoutScope) :
    fromStr scope.text = .ok scope := by
  have hlower : toLowercase scope.text = scope.text :=
    toLowercase_eq_self (by cases scope <;> rfl)
  rw [fromStr, hlower]
  cases scope with
  | shared => rfl
  | user => rfl

/-- The coordinates of a layout are 32-bit integers. -/
structure TenantDesktopLayout.Fits (layout : TenantDesktopLayout) : Prop where
  /-- Of its icons. -/
  icons : ∀ icon ∈ layout.icons, icon.Fits
  /-- Of its windows. -/
  windows : ∀ w ∈ layout.windows, w.Fits

/-- **A stored layout is read back**, whatever its row was created from.

**Proof sketch.** The scope is one of the two texts, and the documents are lists of records that
hold all fields. -/
lemma mapLayoutRow_rowOf [Unicode] {layout : TenantDesktopLayout} (h : layout.Fits) (now : Time) :
    mapLayoutRow (PgTenantDesktopLayoutRepository.rowOf layout now) = .ok layout := by
  have hicons := listOfJson_map fun icon hicon => DesktopIcon.ofJson_toJson (h.icons icon hicon)
  have hwindows := listOfJson_map fun w hw => DesktopWindow.ofJson_toJson (h.windows w hw)
  have huser : (layout.userId.map fun u => (⟨u⟩ : UserId)).map (·.inner) = layout.userId := by
    cases layout.userId <;> rfl
  simp [mapLayoutRow, PgTenantDesktopLayoutRepository.rowOf, hicons, hwindows, huser,
    Except.mapError, bind, Except.bind, pure, Except.pure]

end Klynt
