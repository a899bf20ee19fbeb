import Klynt.System.UserManagement

set_option relaxedAutoImplicit false
set_option autoImplicit false

/-!
# Pages of the list of users

Users are listed page by page.  How many users come before a page is computed in 32 bits, while the
number of the page is whatever 32-bit number the request names.

## Main definitions

* `Db.liveUsers`, `Db.userList` — the users that are not deleted, the newest first.
* `Db.slice` — the users at the positions of a page.
* `ListsSlice` — the list returns what stands there.

## Main results

* `list_slice_iff` — the pages that are listed right.
* `slices_flatten` — pages that are listed right partition the list.
-/

namespace Klynt

/-! ## Parts of a list -/

section Lists

variable {α β : Type} {f : α → Option β} {l : List α}

/-- Where every element is mapped, positions stay. -/
lemma filterMap_drop (h : ∀ a ∈ l, (f a).isSome = true) (n : ℕ) :
    (l.drop n).filterMap f = (l.filterMap f).drop n := by
  induction l generalizing n with
  | nil => simp
  | cons a l ih =>
    obtain ⟨b, hb⟩ := Option.isSome_iff_exists.mp (h a List.mem_cons_self)
    cases n with
    | zero => rfl
    | succ n =>
      rw [List.drop_succ_cons, List.filterMap_cons_some hb, List.drop_succ_cons]
      exact ih (fun x hx => h x (List.mem_cons_of_mem a hx)) n

/-- Where every element is mapped, so are the first ones. -/
lemma filterMap_take (h : ∀ a ∈ l, (f a).isSome = true) (n : ℕ) :
    (l.take n).filterMap f = (l.filterMap f).take n := by
  induction l generalizing n with
  | nil => simp
  | cons a l ih =>
    obtain ⟨b, hb⟩ := Option.isSome_iff_exists.mp (h a List.mem_cons_self)
    cases n with
    | zero => rfl
    | succ n =>
      rw [List.take_succ_cons, List.filterMap_cons_some hb, List.filterMap_cons_some hb,
        List.take_succ_cons, ih (fun x hx => h x (List.mem_cons_of_mem a hx)) n]

/-- Parts of a list without repetitions that begin at two places are the same only if both are
empty. -/
lemma take_drop_inj {l : List α} (hl : l.Nodup) {i j n : ℕ} (hij : i ≠ j) (hn : 0 < n)
    (h : (l.drop i).take n = (l.drop j).take n) : l.length ≤ i ∧ l.length ≤ j := by
  have hhead : l[i]? = l[j]? := by
    have hfirst := congrArg (fun m : List α => m[0]?) h
    simpa only [List.getElem?_take_of_lt hn, List.getElem?_drop, Nat.add_zero] using hfirst
  rcases Nat.lt_or_ge i l.length with hi | hi
  · exact absurd ((List.getElem?_inj hi hl).mp hhead) hij
  · refine ⟨hi, ?_⟩
    rw [List.getElem?_eq_none hi] at hhead
    exact List.getElem?_eq_none_iff.mp hhead.symm

/-- The parts of a list of one length, one after the other. -/
lemma flatten_parts (l : List α) (n : ℕ) : ∀ pages : ℕ,
    ((List.range pages).map fun i => (l.drop (i * n)).take n).flatten = l.take (pages * n)
  | 0 => by simp
  | pages + 1 => by
    rw [List.range_succ, List.map_append, List.flatten_append, flatten_parts l n pages,
      Nat.succ_mul, List.take_add]
    simp

end Lists

/-! ## The list -/

namespace Db

/-- The order of the list: `created_at DESC, id DESC`. -/
def UserBefore (r s : UserRow) : Prop :=
  s.createdAt < r.createdAt ∨ s.createdAt = r.createdAt ∧ s.id.inner.toNat ≤ r.id.inner.toNat

instance : DecidableRel UserBefore := fun _ _ => inferInstanceAs (Decidable (_ ∨ _))

/-- The rows that are not deleted, the newest first. -/
def liveUsers (db : Db) : List UserRow :=
  (db.users.filter (·.deletedAt.isNone)).insertionSort UserBefore

/-- The list of users. -/
def userList [Unicode] (db : Db) : List User := db.liveUsers.filterMap (·.intoUser.toOption)

/-- The users at the positions of a page. -/
def slice [Unicode] (db : Db) (pagination : PaginationRequest) : List User :=
  (db.userList.drop ((pagination.page - 1) * pagination.pageSize)).take pagination.pageSize

/-- The rows of the list. -/
lemma mem_liveUsers {db : Db} {row : UserRow} :
    row ∈ db.liveUsers ↔ row ∈ db.users ∧ row.deletedAt = none := by
  unfold liveUsers
  rw [List.mem_insertionSort, List.mem_filter, Option.isNone_iff_eq_none]

/-- What is listed on a page. -/
lemma usersOn_eq (db : Db) (pagination : PaginationRequest) :
    db.usersOn pagination = (db.liveUsers.drop pagination.offset).take pagination.pageSize := rfl

end Db

/-! ## The pages -/

section Pages

variable [Unicode] {w : World} {pagination : PaginationRequest}

/-- The list returns the users at the positions of a page. -/
def ListsSlice (w : World) (pagination : PaginationRequest) : Prop :=
  ∃ total, (PgUserRepository.list pagination).Exec (Env noFault) w
    (.ok (w.db.slice pagination, total)) w

/-- **What the list returns.** -/
lemma exec_list_ok {F : Req → Prop} {users : List User} {total : ℕ} {w' : World} :
    (PgUserRepository.list pagination).Exec (Env F) w (.ok (users, total)) w' ↔
      users = (w.db.usersOn pagination).filterMap (·.intoUser.toOption) ∧
        total = w.db.users.countP (·.deletedAt.isNone) ∧ w' = w := by
  constructor
  · intro h
    obtain ⟨rows, w₁, hrows, h⟩ := Prog.exec_bind_ok.mp h
    obtain ⟨rfl, rfl⟩ := exec_select_ok.mp (Prog.exec_mapErr_ok.mp hrows)
    obtain ⟨count, w₂, hcount, hreturn, rfl⟩ := Prog.exec_bind_ok.mp h
    obtain ⟨rfl, rfl⟩ := exec_select_ok.mp (Prog.exec_mapErr_ok.mp hcount)
    obtain ⟨rfl, rfl⟩ := Prod.mk.inj (Except.ok.inj hreturn)
    exact ⟨rfl, rfl, rfl⟩
  · rintro ⟨rfl, rfl, rfl⟩
    exact Prog.exec_bind_ok.mpr ⟨_, w', Prog.exec_mapErr_ok.mpr (exec_select_ok.mpr ⟨rfl, rfl⟩),
      Prog.exec_bind_ok.mpr ⟨_, w', Prog.exec_mapErr_ok.mpr (exec_select_ok.mpr ⟨rfl, rfl⟩), rfl, rfl⟩⟩

/-- Every row of the list has a user. -/
def Db.AllMap (db : Db) : Prop :=
  ∀ row ∈ db.users, row.deletedAt = none → ∃ user, row.intoUser = .ok user

/-- Where every row has a user, a list of rows has as many users. -/
lemma Db.AllMap.isSome {db : Db} (h : db.AllMap) :
    ∀ row ∈ db.liveUsers, row.intoUser.toOption.isSome = true := by
  intro row hrow
  obtain ⟨hmem, hlive⟩ := Db.mem_liveUsers.mp hrow
  obtain ⟨user, huser⟩ := h row hmem hlive
  rw [huser]
  rfl

/-- The list of users has no user twice. -/
lemma nodup_userList {db : Db} (hids : (db.users.map (·.id)).Nodup) : db.userList.Nodup := by
  have hlive : db.liveUsers.Pairwise fun r s => r.id ≠ s.id := by
    have hperm : db.liveUsers.Perm (db.users.filter (·.deletedAt.isNone)) := List.perm_insertionSort _ _
    refine (hperm.pairwise_iff fun h => Ne.symm h).mpr (List.Pairwise.filter _ ?_)
    exact List.pairwise_map.mp hids
  refine hlive.filterMap _ fun r s hrs user huser user' huser' heq => hrs ?_
  have hid : ∀ {row : UserRow} {user : User}, row.intoUser.toOption = some user → user.id = row.id := by
    intro row user h
    cases hrow : row.intoUser with
    | error e =>
      rw [hrow] at h
      cases h
    | ok found =>
      rw [hrow] at h
      obtain rfl := Option.some.inj h
      obtain ⟨_, _, _, _, -, -, -, -, -, rfl⟩ := UserRow.intoUser_eq hrow
      rfl
  exact (hid huser).symm.trans ((congrArg User.id heq).trans (hid huser'))

/-- The list is right iff the users after the offset are those of the page. -/
lemma listsSlice_iff (hmap : w.db.AllMap) : ListsSlice w pagination ↔
    (w.db.userList.drop pagination.offset).take pagination.pageSize = w.db.slice pagination := by
  have hpage : (w.db.usersOn pagination).filterMap (·.intoUser.toOption) =
      (w.db.userList.drop pagination.offset).take pagination.pageSize := by
    rw [Db.usersOn_eq, filterMap_take, filterMap_drop hmap.isSome]
    · rfl
    · exact fun row hrow => hmap.isSome row (List.mem_of_mem_drop hrow)
  constructor
  · rintro ⟨total, hexec⟩
    rw [← hpage]
    exact (exec_list_ok.mp hexec).1.symm
  · intro heq
    exact ⟨_, exec_list_ok.mpr ⟨(hpage.trans heq).symm, rfl, rfl⟩⟩

omit [Unicode] in
/-- Pages have at least one user. -/
lemma PaginationRequest.pageSize_pos (page pageSize : ℕ) :
    0 < (PaginationRequest.new page pageSize).pageSize := by
  unfold PaginationRequest.new
  dsimp only
  omega

omit [Unicode] in
/-- The offset is the number of users before the page, if that number fits in 32 bits. -/
lemma PaginationRequest.offset_eq_iff : pagination.offset = (pagination.page - 1) * pagination.pageSize ↔
    (pagination.page - 1) * pagination.pageSize < 2 ^ 32 := by
  unfold PaginationRequest.offset
  exact Nat.mod_eq_iff_lt (by decide)

end Pages

/-- **Pages of the list.** The list returns the users at the positions of the page, and computes the
offset without overflow, iff the number of users before the page is below `2 ^ 32`.  Else it returns
them only if the list is so short that there are none after the offset that is left of the number.

**Proof sketch.** Rows and users have the same positions.  No user is listed twice, so that two
parts of the list that begin at different places are the same only if both are empty. -/
theorem list_slice_iff [Unicode] (w : World) (hids : (w.db.users.map (·.id)).Nodup)
    (hmap : w.db.AllMap) (page pageSize : UInt32) :
    let pagination := PaginationRequest.new page.toNat pageSize.toNat
    let before := (pagination.page - 1) * pagination.pageSize
    (ListsSlice w pagination ∧ pagination.offset = before ↔ before < 2 ^ 32) ∧
      (ListsSlice w pagination ↔ before < 2 ^ 32 ∨ w.db.userList.length ≤ pagination.offset) := by
  intro pagination before
  have hfits : before < 2 ^ 32 → ListsSlice w pagination := by
    intro hlt
    rw [listsSlice_iff hmap, PaginationRequest.offset_eq_iff.mpr hlt]
    rfl
  refine ⟨⟨fun h => PaginationRequest.offset_eq_iff.mp h.2, fun hlt =>
    ⟨hfits hlt, PaginationRequest.offset_eq_iff.mpr hlt⟩⟩, ?_, ?_⟩
  · intro hslice
    by_cases hlt : before < 2 ^ 32
    · exact .inl hlt
    · have hne : pagination.offset ≠ before := fun h => hlt (PaginationRequest.offset_eq_iff.mp h)
      exact .inr (take_drop_inj (nodup_userList hids) hne
        (PaginationRequest.pageSize_pos page.toNat pageSize.toNat) ((listsSlice_iff hmap).mp hslice)).1
  · rintro (hlt | hshort)
    · exact hfits hlt
    · have hle : pagination.offset ≤ before := Nat.mod_le _ _
      rw [listsSlice_iff hmap, List.drop_eq_nil_of_le hshort, Db.slice,
        List.drop_eq_nil_of_le (hshort.trans hle)]

/-- **Pages that are listed right partition the list**, and those past its end are empty. -/
theorem slices_flatten [Unicode] (db : Db) (pages pageSize : ℕ) :
    ((List.range pages).map fun i => db.slice (.new (i + 1) pageSize)).flatten =
        db.userList.take (pages * (PaginationRequest.new pages pageSize).pageSize) ∧
      ∀ pagination : PaginationRequest,
        db.userList.length ≤ (pagination.page - 1) * pagination.pageSize →
          db.slice pagination = [] := by
  constructor
  · rw [← flatten_parts]
    refine congrArg List.flatten (List.map_congr_left fun i _ => ?_)
    have hpage : max (i + 1) 1 - 1 = i := by omega
    unfold Db.slice PaginationRequest.new
    rw [hpage]
  · intro pagination hend
    unfold Db.slice
    rw [List.drop_eq_nil_of_le hend, List.take_nil]

/-- The second page of three users, one on each. -/
theorem list_slice_second :
    letI := Unicode.ascii
    ListsSlice Scenario.world (.new 2 1) ∧ PaginationRequest.offset (.new 2 1) = 1 := by
  let _ := Unicode.ascii
  have hmap : Scenario.world.db.AllMap := by
    intro row hrow _
    have hall : ∀ row ∈ Scenario.db.users, row.intoUser.isOk = true := by decide +kernel
    have hok := hall row hrow
    cases huser : row.intoUser with
    | ok user => exact ⟨user, rfl⟩
    | error e =>
      rw [huser] at hok
      cases hok
  exact (list_slice_iff Scenario.world (by decide +kernel) hmap 2 1).1.mpr (by decide)

/-- Page 67108865 of 64 users is the first one again. -/
theorem list_wraps :
    letI := Unicode.ascii
    let pagination := PaginationRequest.new (67108865 : UInt32).toNat (64 : UInt32).toNat
    pagination.offset = 0 ∧
      (Scenario.world.db.usersOn pagination).map (·.email) = ["eve@x.org", "bob@x.org", "ada@x.org"] ∧
      Scenario.world.db.slice pagination = [] ∧ ¬ ListsSlice Scenario.world pagination := by
  let _ := Unicode.ascii
  have hslice : Scenario.world.db.slice
      (.new (67108865 : UInt32).toNat (64 : UInt32).toNat) = [] := by
    unfold Db.slice
    refine List.take_eq_nil_iff.mpr (.inr (List.drop_eq_nil_of_le ?_))
    have hlength : Scenario.world.db.userList.length = 3 := by decide +kernel
    rw [hlength]
    decide
  refine ⟨by decide, by decide +kernel, hslice, ?_⟩
  rintro ⟨total, hexec⟩
  have husers := (exec_list_ok.mp hexec).1
  rw [hslice] at husers
  have hlength := congrArg List.length husers
  revert hlength
  decide +kernel

end Klynt
