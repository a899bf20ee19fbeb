import Mathlib.Data.Rat.Encodable
import Klynt.Lib.JsonText
import Klynt.Desktop.LayoutWire

set_option relaxedAutoImplicit false
set_option autoImplicit false

/-!
# Layouts in the storage of the browser

Without a tenant, a desktop keeps its layout in the storage of the browser, as the text of a
document.

## Main definitions

* `LocalStorage` — the storage.
* `LocalStorageAdapter.save`, `LocalStorageAdapter.load` — the adapter.
* `DesktopLayout.document`, `readDocument` — a layout as a document.
* `LoadedDocument.result` — what the component takes the loaded document to be.

## Main results

* `load_of_save` — the layout that was saved is loaded.
* `windows_survive` — the windows of a desktop are the same after they were saved and loaded.

## Implementation notes

A document that is not a layout is loaded too, and the component then fails somewhere or shows
nothing; what it does with such a document is left out.
-/

namespace Klynt

open Wire Scenario

/-! ## The adapter -/

/-- The storage of a browser. -/
structure LocalStorage where
  /-- The items. -/
  items : Record String
  /-- Whether every access throws. -/
  blocked : Bool
  /-- Whether an item is refused, because the storage is full. -/
  refuses : String → String → Bool

/-- `localStorage.getItem`. -/
def LocalStorage.getItem (storage : LocalStorage) (key : String) : Option (Option String) :=
  if storage.blocked then none else some (storage.items.get? key)

/-- `localStorage.setItem`. -/
def LocalStorage.setItem (storage : LocalStorage) (key value : String) : Option LocalStorage :=
  if storage.blocked || storage.refuses key value then none
  else some { storage with items := storage.items.set key value }

/-- The result of `save`. -/
inductive SaveResult where
  /-- The layout is stored. -/
  | ok
  /-- The layout is not stored. -/
  | failed (error : String) (retryable : Bool)
  deriving DecidableEq

/-- The result of `load`, before the component reads it. -/
inductive LoadedDocument where
  /-- What is stored, if something is. -/
  | ok (document : Option Wire)
  /-- Nothing could be loaded. -/
  | failed (error : String) (retryable : Bool)

/-- A layout as a document. -/
def DesktopLayout.document (layout : DesktopLayout) : Wire :=
  .obj ([("version", .num layout.version),
      ("backgroundPresetId", .str layout.backgroundPresetId)] ++
    (layout.icons.toList.map fun icons => ("icons", .arr (icons.map LayoutIcon.body))) ++
    [("windows", .arr (layout.windows.map LayoutWindow.body))])

/-- `storageKey`. -/
def storageKey (desktopId : String) : String := "klynt-desktop-layout:" ++ desktopId

namespace LocalStorageAdapter

variable (N : Numerals) (storage : LocalStorage) (desktopId : String)

/-- `load`. -/
def load : LoadedDocument :=
  match storage.getItem (storageKey desktopId) with
  | none => .failed "unknown" false
  | some none => .ok none
  | some (some raw) =>
    match JsonText.parse N raw with
    | some document => .ok (some document)
    | none => .failed "unknown" false

/-- `save`. -/
def save (layout : DesktopLayout) : SaveResult × LocalStorage :=
  match storage.setItem (storageKey desktopId) (JsonText.stringify N layout.document) with
  | some storage' => (.ok, storage')
  | none => (.failed "unknown" false, storage)

end LocalStorageAdapter

/-! ## Reading a layout -/

/-- The icons of a layout, if there are any. -/
def readIcons (w : Wire) : Option (Option (List LayoutIcon)) :=
  match w.field "icons" with
  | some icons => (icons.asList readIcon).map some
  | none => some none

/-- A layout, as the component reads it. -/
def readDocument (w : Wire) : Option DesktopLayout := do
  let version ← (← w.field "version").asNumber
  let backgroundPresetId ← (← w.field "backgroundPresetId").asString
  let icons ← readIcons w
  let windows ← (← w.field "windows").asList readWindow
  return { version, backgroundPresetId, icons, windows }

/-- What the component takes the loaded document to be; `null` is no layout. -/
def LoadedDocument.result : LoadedDocument → Option LoadResult
  | ok none | ok (some .null) => some (.ok none)
  | ok (some document) => (readDocument document).map fun layout => .ok (some layout)
  | failed _ _ => some .failed

/-! ## What was saved is loaded -/

/-- An icon is read back. -/
lemma LayoutIcon.readIcon_body (icon : LayoutIcon) : readIcon icon.body = some icon := by
  simp [readIcon, LayoutIcon.body, field, asString, asNumber]

/-- A window is read back. -/
lemma LayoutWindow.readWindow_body (w : LayoutWindow) : readWindow w.body = some w := by
  simp [readWindow, LayoutWindow.body, field, asString, asNumber]

/-- Lists are read back. -/
lemma asList_body {α : Type} {read : Wire → Option α} {body : α → Wire}
    (h : ∀ a, read (body a) = some a) (l : List α) : asList read (.arr (l.map body)) = some l := by
  have hlist := asList_map_of_eq h l
  rwa [List.map_id'] at hlist

/-- **A layout is read back.** -/
lemma readDocument_document (layout : DesktopLayout) :
    readDocument layout.document = some layout := by
  obtain ⟨version, background, icons, windows⟩ := layout
  have hwindows := asList_body LayoutWindow.readWindow_body windows
  cases icons with
  | none => simp [readDocument, readIcons, DesktopLayout.document, field, asNumber, asString, hwindows]
  | some icons =>
    have hicons := asList_body LayoutIcon.readIcon_body icons
    simp [readDocument, readIcons, DesktopLayout.document, field, asNumber, asString, hwindows,
      hicons]

/-- The keys of an icon are distinct. -/
lemma LayoutIcon.keysDistinct_body (icon : LayoutIcon) : icon.body.KeysDistinct := by
  refine .obj (by simp) fun m hm => ?_
  simp only [List.mem_cons, List.not_mem_nil, or_false] at hm
  rcases hm with rfl | rfl | rfl
  · exact .str _
  · exact .num _
  · exact .num _

/-- The keys of a window are distinct. -/
lemma LayoutWindow.keysDistinct_body (w : LayoutWindow) : w.body.KeysDistinct := by
  refine .obj (by simp) fun m hm => ?_
  simp only [List.mem_cons, List.not_mem_nil, or_false] at hm
  rcases hm with rfl | rfl | rfl | rfl | rfl | rfl
  · exact .str _
  · exact .num _
  · exact .num _
  · exact .num _
  · exact .num _
  · exact .str _

/-- A list of documents with distinct keys. -/
lemma keysDistinct_map {α : Type} {body : α → Wire} (h : ∀ a, (body a).KeysDistinct) (l : List α) :
    (Wire.arr (l.map body)).KeysDistinct := by
  refine .arr fun w hw => ?_
  obtain ⟨a, -, rfl⟩ := List.mem_map.mp hw
  exact h a

/-- The keys of a layout are distinct. -/
lemma DesktopLayout.keysDistinct_document (layout : DesktopLayout) :
    layout.document.KeysDistinct := by
  obtain ⟨version, background, icons, windows⟩ := layout
  have hwindows := keysDistinct_map LayoutWindow.keysDistinct_body windows
  cases icons with
  | none =>
    refine .obj (by simp) fun m hm => ?_
    simp only [Option.toList_none, List.map_nil, List.append_nil, List.cons_append, List.nil_append,
      List.mem_cons, List.not_mem_nil, or_false] at hm
    rcases hm with rfl | rfl | rfl
    · exact .num _
    · exact .str _
    · exact hwindows
  | some icons =>
    refine .obj (by simp) fun m hm => ?_
    simp only [Option.toList_some, List.map_cons, List.map_nil, List.cons_append, List.nil_append,
      List.mem_cons, List.not_mem_nil, or_false] at hm
    rcases hm with rfl | rfl | rfl | rfl
    · exact .num _
    · exact .str _
    · exact keysDistinct_map LayoutIcon.keysDistinct_body icons
    · exact hwindows

section Adapter

variable {N : Numerals} {storage storage' : LocalStorage} {desktopId : String}
  {layout : DesktopLayout}

/-- **The layout that was saved is loaded.** -/
lemma load_of_save (hN : N.Documented)
    (h : LocalStorageAdapter.save N storage desktopId layout = (.ok, storage')) :
    (LocalStorageAdapter.load N storage' desktopId).result = some (.ok (some layout)) := by
  have hset : storage.setItem (storageKey desktopId) (JsonText.stringify N layout.document) =
      some storage' := by
    unfold LocalStorageAdapter.save at h
    split at h
    · rename_i s hset
      rw [hset, (Prod.mk.inj h).2]
    · cases (Prod.mk.inj h).1
  have hget : storage'.getItem (storageKey desktopId) =
      some (some (JsonText.stringify N layout.document)) := by
    unfold LocalStorage.setItem at hset
    split at hset
    · cases hset
    · rename_i hopen
      obtain rfl := Option.some.inj hset
      rw [Bool.or_eq_true, not_or] at hopen
      unfold LocalStorage.getItem
      rw [if_neg hopen.1, Record.get?_set, if_pos rfl]
  have hparse := JsonText.parse_stringify hN layout.keysDistinct_document
  rw [LocalStorageAdapter.load, hget]
  dsimp only
  rw [hparse]
  show (readDocument layout.document).map _ = _
  rw [readDocument_document]
  rfl

end Adapter

/-- **The windows of a desktop are the same** — with their apps, places, sizes and states, in their
order — after the layout was saved in the storage, loaded, and opened in a new store.

**Proof sketch.** The apps of the windows of a desktop are distinct in every state that is reached,
so each window of the layout is opened as a new one, with everything prescribed that was saved. -/
theorem windows_survive {N : Numerals} (hN : N.Documented) (config : DesktopConfig)
    (viewport : Viewport) (freshId : ℕ → String) (isBelowLg : Bool) {env : DesktopEnvironment}
    {tr : List (WindowManagerState × WindowOperation)}
    (hrun : Run (· = initialState) WindowStep tr env.windows) {layout : DesktopLayout}
    (hlayout : env.save? config = some layout) {storage storage' : LocalStorage}
    (hsaved : LocalStorageAdapter.save N storage config.id layout = (.ok, storage')) :
    ∃ result, (LocalStorageAdapter.load N storage' config.id).result = some result ∧
      (((DesktopEnvironment.mounted config initialState isBelowLg).load config viewport freshId
        result).windows.desktopWindows config.id).map Window.saved =
      (env.windows.desktopWindows config.id).map Window.saved := by
  obtain rfl : env.layout config = layout := by
    unfold DesktopEnvironment.save? at hlayout
    split_ifs at hlayout
    exact Option.some.inj hlayout
  refine ⟨_, load_of_save hN hsaved, ?_⟩
  have happs : (((env.windows.desktopWindows config.id).map Window.saved).map (·.appId)).Nodup := by
    rw [List.map_map]
    exact (stacked_of_run hrun).apps config.id
  exact desktopWindows_openStored config viewport _ freshId initialState happs

namespace Scenario

/-- Numbers that are written as a browser does it if they are natural; the others are numbered. -/
def naturalNumerals : Numerals where
  write q :=
    if q = (q.num.toNat : ℚ) then Nat.toDigits 10 q.num.toNat
    else '-' :: Nat.toDigits 10 (Encodable.encode q)
  read
    | '-' :: digits => Encodable.decode (Nat.ofDigitChars 10 digits 0)
    | digits => some (Nat.ofDigitChars 10 digits 0 : ℕ)

/-- Digits occur in numbers. -/
lemma isNumeralChar_of_mem_toDigits {n : ℕ} {c : Char} (h : c ∈ Nat.toDigits 10 n) :
    isNumeralChar c = true := by
  have hdigit : c.isDigit = true := Nat.isDigit_of_mem_toDigits (by decide) (by decide) h
  simp only [isNumeralChar, hdigit, Bool.true_or]

/-- These numbers are as documented. -/
lemma documented_naturalNumerals : naturalNumerals.Documented where
  read_write q := by
    by_cases hq : q = (q.num.toNat : ℚ)
    · have hwrite : naturalNumerals.write q = Nat.toDigits 10 q.num.toNat := if_pos hq
      have hminus : ∀ digits, Nat.toDigits 10 q.num.toNat ≠ '-' :: digits := by
        intro digits heq
        have hmem : '-' ∈ Nat.toDigits 10 q.num.toNat := by rw [heq]; exact List.mem_cons_self
        have hdigit := Nat.isDigit_of_mem_toDigits (by decide) (by decide) hmem
        revert hdigit
        decide
      rw [hwrite]
      unfold naturalNumerals
      dsimp only
      split
      · rename_i heq
        exact absurd heq (hminus _)
      · rw [Nat.ofDigitChars_toDigits (by decide) (by decide)]
        exact congrArg some hq.symm
    · have hwrite : naturalNumerals.write q = '-' :: Nat.toDigits 10 (Encodable.encode q) :=
        if_neg hq
      rw [hwrite]
      show Encodable.decode (Nat.ofDigitChars 10 (Nat.toDigits 10 (Encodable.encode q)) 0) = _
      rw [Nat.ofDigitChars_toDigits (by decide) (by decide), Encodable.encodek]
  write_ne_nil q := by
    unfold naturalNumerals
    dsimp only
    split
    · exact List.ne_nil_of_length_pos Nat.length_toDigits_pos
    · exact List.cons_ne_nil _ _
  chars q c hc := by
    unfold naturalNumerals at hc
    dsimp only at hc
    split at hc
    · exact isNumeralChar_of_mem_toDigits hc
    · rcases List.mem_cons.mp hc with rfl | hc
      · decide
      · exact isNumeralChar_of_mem_toDigits hc

/-- Two windows are opened, and one of them is minimized. -/
def openingOperations : List WindowOperation :=
  [.openApp viewport "w1" desktop.id "notes" ⟨some 10, some 20, some 300, some 200, none⟩,
    .openApp viewport "w2" desktop.id "files" ⟨some 40, some 60, some 640, some 480, none⟩,
    .minimizeWindow desktop.id "w1"]

/-- The windows after these operations. -/
def openedWindows : WindowManagerState := openingOperations.foldl (·.perform ·) initialState

/-- A desktop with these windows. -/
def openedDesktop : DesktopEnvironment :=
  { windows := openedWindows, backgroundPresetId := "dunes", isLoading := false, isBelowLg := false }

/-- An empty storage that refuses nothing. -/
def emptyStorage : LocalStorage :=
  { items := .empty, blocked := false, refuses := fun _ _ => false }

end Scenario

/-- Two windows are saved and loaded. -/
theorem windows_survive_opened :
    ∃ storage result, LocalStorageAdapter.save Scenario.naturalNumerals Scenario.emptyStorage
        desktop.id (openedDesktop.layout desktop) = (.ok, storage) ∧
      (LocalStorageAdapter.load Scenario.naturalNumerals storage desktop.id).result =
        some result ∧
      (((DesktopEnvironment.mounted desktop initialState false).load desktop viewport
        (fun _ => "w3") result).windows.desktopWindows desktop.id).map Window.saved =
      (openedWindows.desktopWindows desktop.id).map Window.saved := by
  have hopened : Run (· = initialState) WindowStep _ openedWindows :=
    run_performed openingOperations (.start rfl)
  have hrun : Run (· = initialState) WindowStep _ openedDesktop.windows := hopened
  obtain ⟨result, hload, hsame⟩ := windows_survive documented_naturalNumerals desktop viewport
    (fun _ => "w3") false hrun rfl
    (rfl : LocalStorageAdapter.save naturalNumerals emptyStorage desktop.id _ = _)
  exact ⟨_, result, rfl, hload, hsame⟩

end Klynt
