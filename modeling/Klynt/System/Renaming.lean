import Klynt.Domain.Slug
import Klynt.Domain.Email
import Klynt.System.GuardedCall
import Klynt.System.Isolation
import Klynt.System.WellFormed

set_option relaxedAutoImplicit false
set_option autoImplicit false

/-!
# Renaming a tenant

The repository renames a tenant by writing its whole row, the owner's column included, so the
trigger that limits how many tenants a user owns fires, and it counts the renamed tenant with
the others.  An owner of two tenants can rename neither.

## Main definitions

* `RestrictedStep` — the steps of a run that never lose the owner of a tenant.
* `TenantsSound` — what every stored tenant can be read back from.
* `AcceptableName`, `Db.renamed` — the names in question, and what renaming should do.

## Main results

* `tenantsSound_of_run` — the invariant holds in every state of every run.
* `rename_succeeds` — renaming succeeds exactly if the owner owns fewer than two tenants.
-/

namespace Klynt

/-! ## Runs -/

/-- No owner of a tenant is lost: the foreign key of `tenants.owner_id` restricts deletions. -/
def World.KeepsOwners (w w' : World) : Prop :=
  ∀ t ∈ w.db.tenants, (∃ u ∈ w.db.users, u.id = t.ownerId) → ∃ u ∈ w'.db.users, u.id = t.ownerId

/-- The steps of a run in which the other services respect the foreign key. -/
def RestrictedStep [Unicode] (service : TenantService) (F : Req → Prop) (w : World)
    (l : TenantLabel) (w' : World) : Prop :=
  TenantStep service F w l w' ∧ (l = .other → w.KeepsOwners w')

/-! ## The invariant -/

/-- A tenant row that is read back as it was written. -/
structure TenantRow.Sound [Unicode] (row : TenantRow) : Prop where
  /-- The slug is valid. -/
  slug : slugError row.slug = none
  /-- The slug is in lower case. -/
  lower : toLowercase row.slug = row.slug
  /-- The tenant is in use. -/
  status : row.status = "active"

/-- Every tenant is read back, has a slug of its own and an owner. -/
structure TenantsSound [Unicode] (tenants : List TenantRow) (users : List UserRow) : Prop where
  /-- Each row. -/
  rows : ∀ t ∈ tenants, t.Sound
  /-- Slugs are unique. -/
  slugs : (tenants.map (·.slug)).Nodup
  /-- Owners exist. -/
  owners : ∀ t ∈ tenants, ∃ u ∈ users, u.id = t.ownerId

section Invariant

variable [Unicode] {tenants : List TenantRow} {users : List UserRow}

/-- A stored slug is parsed as it is. -/
lemma TenantRow.Sound.parse_slug {row : TenantRow} (h : row.Sound) {slug : String}
    (hslug : toLowercase slug = row.slug) :
    TenantSlug.parse slug = .ok ⟨row.slug, h.slug⟩ := by
  unfold TenantSlug.parse
  split
  · rename_i message hmessage
    rw [hslug, h.slug] at hmessage
    cases hmessage
  · simp only [hslug]

/-- A stored status is parsed as it is. -/
lemma TenantRow.Sound.parse_status {row : TenantRow} (h : row.Sound) :
    TenantStatus.fromStr row.status = .ok .active := by
  have hlower : toLowercase "active" = "active" := toLowercase_eq_self (by decide)
  unfold TenantStatus.fromStr
  rw [h.status, hlower]
  rfl

/-- Tenants are filtered. -/
lemma TenantsSound.filter (h : TenantsSound tenants users) (p : TenantRow → Bool) :
    TenantsSound (tenants.filter p) users where
  rows := fun t ht => h.rows t (List.mem_filter.mp ht).1
  slugs := Keyed.nodup_filter _ h.slugs
  owners := fun t ht => h.owners t (List.mem_filter.mp ht).1

/-- A tenant is added. -/
lemma TenantsSound.concat (h : TenantsSound tenants users) {row : TenantRow} (hrow : row.Sound)
    (hslug : ∀ t ∈ tenants, t.slug ≠ row.slug) (howner : ∃ u ∈ users, u.id = row.ownerId) :
    TenantsSound (tenants ++ [row]) users where
  rows := by
    intro t ht
    rcases List.mem_append.mp ht with ht | ht
    · exact h.rows t ht
    · obtain rfl := List.mem_singleton.mp ht
      exact hrow
  slugs := Keyed.nodup_concat _ h.slugs hslug
  owners := by
    intro t ht
    rcases List.mem_append.mp ht with ht | ht
    · exact h.owners t ht
    · obtain rfl := List.mem_singleton.mp ht
      exact howner

/-- Columns that are not read back change. -/
lemma TenantsSound.map (h : TenantsSound tenants users) {f : TenantRow → TenantRow}
    (hf : ∀ t ∈ tenants, (f t).slug = t.slug ∧ (f t).status = t.status ∧
      (f t).ownerId = t.ownerId) : TenantsSound (tenants.map f) users where
  rows := by
    intro t ht
    obtain ⟨t₀, ht₀, rfl⟩ := List.mem_map.mp ht
    obtain ⟨hslug, hstatus, -⟩ := hf t₀ ht₀
    have hrow := h.rows t₀ ht₀
    refine ⟨?_, ?_, ?_⟩
    · rw [hslug]
      exact hrow.slug
    · rw [hslug]
      exact hrow.lower
    · rw [hstatus]
      exact hrow.status
  slugs := by
    have hmap : (tenants.map f).map (·.slug) = tenants.map (·.slug) := by
      rw [List.map_map]
      exact List.map_congr_left fun t ht => (hf t ht).1
    rw [hmap]
    exact h.slugs
  owners := by
    intro t ht
    obtain ⟨t₀, ht₀, rfl⟩ := List.mem_map.mp ht
    rw [(hf t₀ ht₀).2.2]
    exact h.owners t₀ ht₀

/-- A sound row is written back with its own columns, up to its name. -/
lemma TenantRow.Sound.stored {row : TenantRow} (h : row.Sound) {tenant : Tenant}
    (htenant : mapTenantRow row = .ok tenant) (name name' : String) (now now' : Time) :
    (TenantRow.ofTenant { tenant with name, updatedAt := now }).stored row name' now' =
      { row with name := name', updatedAt := now' } := by
  rw [mapTenantRow_ok h.parse_status (h.parse_slug h.lower)] at htenant
  obtain rfl := Except.ok.inj htenant
  obtain ⟨-, -, hstatus⟩ := h
  simp only [TenantRow.stored, TenantRow.ofTenant, TenantStatus.asStr, hstatus]

/-- **The effect of a call keeps the invariant.** -/
lemma TenantEffect.tenantsSound (laws : LowercaseLaws) {now : Time} {actor : UserId} {db db' : Db}
    {call : TenantCall} {complete : Bool} {event : Option MembershipEvent}
    (h : TenantEffect now actor db call complete event db') (hw : db.WellFormed)
    (hs : TenantsSound db.tenants db.users) : TenantsSound db'.tenants db'.users := by
  cases h with
  | created hslug hnew h =>
    obtain ⟨name, rfl, -, -, hfresh, howner, -, -, seeds, -, -, rfl⟩ :=
      createTenantTx_ok hw.roles.roleTenant hw.roles.roleIds h
    refine hs.concat ⟨?_, ?_, ?_⟩ hfresh howner
    · exact TenantSlug.valid _
    · exact TenantSlug.lower_of_parse laws hslug
    · obtain ⟨-, hstatus⟩ := Tenant.create_eq_ok.mp hnew
      show TenantStatus.asStr _ = "active"
      rw [hstatus]
      rfl
  | renamed hrow htenant hgrant h =>
    obtain ⟨-, rfl⟩ | ⟨-, name', -, -, rfl⟩ := updateTenant_ok h
    · exact hs
    · have hmem := Db.mem_of_tenantNamed? hrow
      refine hs.map fun t ht => ?_
      split
      · rename_i hid
        have hid := hid.trans (mapTenantRow_id htenant)
        obtain rfl := Keyed.eq_of_key_eq _ hw.roles.tenantIds ht hmem hid
        rw [(hs.rows t ht).stored htenant]
        exact ⟨rfl, rfl, rfl⟩
      · exact ⟨rfl, rfl, rfl⟩
  | deleted hrow hgrant h =>
    obtain ⟨-, rfl, -⟩ | ⟨-, rfl⟩ := deleteTenant_ok h
    · exact hs
    · exact hs.filter _
  | memberAdded hrow hgrant hu hrole h =>
    obtain ⟨-, -, -, -, -, rfl⟩ := insertMembership_ok h
    exact hs
  | memberUpdated hrow hgrant hu hrole h hn =>
    obtain ⟨-, -, rfl⟩ := updateMembershipRole_ok h
    exact hs
  | memberRemoved hrow hgrant hu h hn =>
    obtain ⟨-, rfl⟩ := deleteMembership_ok h
    exact hs
  | inviteCreated hrow hgrant hrole htenant hroleId hby hpending h =>
    obtain ⟨_, -, -, -, -, -, rfl⟩ := insertInvite_ok h
    exact hs
  | inviteInserted hinv h =>
    obtain ⟨-, -, -, -, -, rfl⟩ := insertMembership_ok h
    exact hs
  | inviteAccepted hinv h hmark =>
    obtain ⟨-, -, -, -, -, rfl⟩ := insertMembership_ok h
    obtain ⟨-, rfl⟩ := markInviteAccepted_ok hmark
    exact hs
  | roleCreated hrow hgrant htenant hcustom hperms h =>
    obtain ⟨_, -, -, -, rfl⟩ := createRoleTx_ok h
    exact hs
  | roleUpdated hrow hgrant h =>
    obtain ⟨-, rfl⟩ := updateRolePermissionsTx_ok h
    exact hs
  | roleDeleted hrow hgrant h hn =>
    obtain ⟨-, rfl⟩ | ⟨-, -, -, -, rfl⟩ := deleteRole_ok h
    · exact hs
    · exact hs

/-- Between calls the invariant is kept as far as owners are. -/
lemma TenantsSound.congr {w w' : World} (h : TenantsSound w.db.tenants w.db.users)
    (hs : w.db.SameTenancy w'.db) (hk : w.KeepsOwners w') :
    TenantsSound w'.db.tenants w'.db.users := by
  have htenants : w'.db.tenants = w.db.tenants := by
    obtain ⟨_, _, _, _, _, hdb⟩ := hs
    rw [hdb]
  rw [htenants]
  exact ⟨h.rows, h.slugs, fun t ht => hk t ht (h.owners t ht)⟩

/-- **The invariant holds in every state of every run.** -/
theorem tenantsSound_of_run (laws : LowercaseLaws) {enabled : Bool} {backend : SessionBackend}
    {F : Req → Prop} {tr : List (World × TenantLabel)} {w : World}
    (h : Run (·.db.NoTenants) (RestrictedStep (platform enabled backend) F) tr w) :
    w.db.WellFormed ∧ TenantsSound w.db.tenants w.db.users := by
  refine h.invariant (I := fun w => w.db.WellFormed ∧ TenantsSound w.db.tenants w.db.users)
    (fun w h0 => ⟨h0.wellFormed, ?_⟩) ?_
  · rw [h0.tenants]
    exact ⟨nofun, List.nodup_nil, nofun⟩
  · rintro w l w' ⟨hw, hs⟩ ⟨hstep, howners⟩
    refine ⟨hstep.wellFormed hw, ?_⟩
    cases hstep with
    | other hsame => exact hs.congr hsame (howners rfl)
    | call hexec =>
      cases TenantCall.outcome hexec with
      | nothing => exact hs
      | failed hctx heff => exact heff.tenantsSound laws hw hs
      | silent hctx heff => exact heff.tenantsSound laws hw hs
      | notified hctx heff hrun hr =>
        obtain ⟨_, _, _, rfl⟩ := sessionsMoved_of_exec (all_notify enabled backend _) hrun
        exact heff.tenantsSound laws hw hs

end Invariant

/-! ## Renaming -/

/-- A name for a tenant: not blank, of at most 255 characters, none of which is NUL. -/
structure AcceptableName (name : String) : Prop where
  /-- The name is not blank. -/
  notBlank : (trim name).toList ≠ []
  /-- The name fits its column. -/
  short : name.length ≤ 255
  /-- Texts in the database have no NUL character. -/
  noNul : Char.ofNat 0 ∉ name.toList

/-- A tenant has another name and another time of its last change, and nothing else changes. -/
def Db.renamed (db : Db) (t : TenantId) (name : String) (now : Time) : Db :=
  { db with
    tenants := db.tenants.map fun row =>
      if row.id = t then { row with name, updatedAt := now } else row }

section Rename

variable [Unicode] {F : Req → Prop} {w w' : World} {ctx : ExecutionContext} {slug name : String}

omit [Unicode] in
/-- The successful runs of `update`. -/
lemma PgTenantRepository.exec_update_ok {tenant t : Tenant} :
    (update tenant).Exec (Env F) w (.ok t) w' ↔ t = tenant ∧ ∃ n db, n ≠ 0 ∧
      updateTenant (.ofTenant tenant) w.now w.db = .ok (n, db) ∧ w' = { w with db } := by
  constructor
  · intro h
    obtain ⟨n, w₁, hexecute, h₁⟩ := Prog.exec_bind_ok.mp h
    obtain ⟨db, hdb, rfl⟩ := (exec_execute_ok (u := .tenant _)).mp (Prog.exec_mapErr_ok.mp hexecute)
    obtain ⟨_, w₂, hreject, hreturn⟩ := Prog.exec_bind_ok.mp h₁
    obtain ⟨hn, rfl⟩ := exec_rejectIf_ok.mp hreject
    obtain ⟨ht, rfl⟩ := Prog.exec_pure.mp hreturn
    exact ⟨Except.ok.inj ht, n, db, hn, hdb, rfl⟩
  · rintro ⟨rfl, n, db, hn, hdb, rfl⟩
    refine Prog.exec_bind_ok.mpr ⟨n, { w with db }, Prog.exec_mapErr_ok.mpr
      ((exec_execute_ok (u := .tenant _)).mpr ⟨db, hdb, rfl⟩), ?_⟩
    exact Prog.exec_bind_ok.mpr ⟨(), _, exec_rejectIf_ok.mpr ⟨hn, rfl⟩, Prog.exec_pure.mpr ⟨rfl, rfl⟩⟩

/-- **The successful runs of `update_tenant`.** -/
lemma TenantService.exec_updateTenant_ok {t : Tenant} :
    (TenantService.updateTenant ctx slug name).Exec (Env F) w (.ok t) w' ↔
    ∃ actor row tenant, ctx.actorId = some actor.inner ∧ w.db.tenantNamed? slug = some row ∧
      mapTenantRow row = .ok tenant ∧ w.db.Grants row.id actor Permission.manageSettings ∧
      (trim name).toList ≠ [] ∧ t = { tenant with name, updatedAt := w.now } ∧
      ∃ n db, n ≠ 0 ∧
        Klynt.updateTenant (.ofTenant { tenant with name, updatedAt := w.now }) w.now w.db =
          .ok (n, db) ∧ w' = { w with db } := by
  refine exec_guarded_ok.trans ?_
  refine exists_congr fun actor => exists_congr fun row => exists_congr fun tenant => ?_
  refine and_congr_right fun _ => and_congr_right fun _ => and_congr_right fun _ =>
    and_congr_right fun _ => ?_
  constructor
  · intro h
    obtain ⟨now, w₁, hnow, h₁⟩ := Prog.exec_bind_ok.mp h
    obtain ⟨hok, rfl⟩ := exec_now.mp hnow
    obtain rfl := Except.ok.inj hok
    rw [Prog.exec_bind_ok] at h₁
    obtain ⟨renamed, w₂, hrename, hupdate⟩ := h₁
    obtain ⟨hrename, rfl⟩ := Prog.exec_done.mp hrename
    have hrename := Except.mapError_eq_ok.mp hrename.symm
    obtain ⟨rfl, hstatement⟩ :=
      PgTenantRepository.exec_update_ok.mp (Prog.exec_mapErr_ok.mp hupdate)
    unfold Tenant.rename at hrename
    split at hrename
    · cases hrename
    · rename_i hblank
      obtain rfl := Except.ok.inj hrename
      exact ⟨hblank, rfl, hstatement⟩
  · rintro ⟨hblank, rfl, hstatement⟩
    refine Prog.exec_bind_ok.mpr ⟨w.now, w, exec_now.mpr ⟨rfl, rfl⟩, ?_⟩
    rw [Prog.exec_bind_ok]
    refine ⟨_, w, Prog.exec_done.mpr ⟨?_, rfl⟩, Prog.exec_mapErr_ok.mpr
      (PgTenantRepository.exec_update_ok.mpr ⟨rfl, hstatement⟩)⟩
    rw [Tenant.rename, if_neg hblank]
    rfl

/-- The requests of `update_tenant` are determined. -/
lemma TenantService.all_updateTenant :
    (TenantService.updateTenant ctx slug name).All Req.Determined := by
  have hselects : ∀ q : Req, q.Selects → q.Determined := by
    intro q hq
    cases q with
    | query q => trivial
    | _ => exact hq.elim
  refine Prog.All.bind (Prog.all_ofOption _ _) fun actor => ?_
  refine Prog.All.bind ((all_fetchTenant slug).mono hselects) fun tenant => ?_
  refine Prog.All.bind ((all_requirePermission _ _ _ _).mono hselects) fun _ => ?_
  refine Prog.All.bind ⟨trivial, fun _ => Prog.all_done _⟩ fun now => ?_
  -- the ascription keeps the name from being evaluated
  refine (Prog.All.bind (Prog.all_done _) fun renamed => Prog.All.mapErr ?_ : Prog.All _ (_ >>= _))
  refine Prog.All.bind (Prog.All.mapErr (all_execute trivial)) fun (n : Nat) => ?_
  exact Prog.All.bind (Prog.all_rejectIf _ _) fun _ => Prog.all_pure _

/-- **The statement succeeds** for a sound row exactly if the trigger does not count two tenants of
its owner. -/
lemma updateTenant_renamed {db : Db} (hw : db.WellFormed) (hs : TenantsSound db.tenants db.users)
    {row : TenantRow} (hrow : row ∈ db.tenants) {tenant : Tenant}
    (htenant : mapTenantRow row = .ok tenant) (hshort : name.length ≤ 255) (hstorable : Storable name)
    {now : Time} (hcount : db.activeOwned row.ownerId < 2) :
    updateTenant (.ofTenant { tenant with name, updatedAt := now }) now db =
      .ok (1, db.renamed row.id name now) := by
  have hsound := hs.rows row hrow
  have hid : tenant.id = row.id := mapTenantRow_id htenant
  have howner : tenant.ownerId = row.ownerId := mapTenantRow_ownerId htenant
  have hslug : tenant.slug.text = row.slug := by
    rw [mapTenantRow_ok hsound.parse_status (hsound.parse_slug hsound.lower)] at htenant
    obtain rfl := Except.ok.inj htenant
    rfl
  have hrows : ∀ t ∈ db.tenants,
      (if t.id = tenant.id then
        ((TenantRow.ofTenant { tenant with name, updatedAt := now }).stored t name now) else t) =
      if t.id = row.id then { t with name, updatedAt := now } else t := by
    intro t ht
    by_cases h : t.id = row.id
    · obtain rfl := Keyed.eq_of_key_eq _ hw.roles.tenantIds ht hrow h
      rw [if_pos hid.symm, if_pos rfl]
      exact hsound.stored htenant name name now now
    · rw [if_neg h, if_neg fun heq => h (heq.trans hid)]
  -- the row is there, its slug is its own, and its owner exists
  have hname : varchar 255 (TenantRow.ofTenant { tenant with name, updatedAt := now }).name =
      .ok name := varchar_eq_ok.mpr ⟨hstorable, .inl ⟨hshort, rfl⟩⟩
  refine (updateTenant_of hname ⟨row, hrow, hid.symm⟩ ?_ ?_ ?_).trans
    (congrArg (fun tenants => Except.ok (1, { db with tenants })) (List.map_congr_left hrows))
  · show db.activeOwned tenant.ownerId < 2
    rwa [howner]
  · intro t ht hsame
    obtain rfl := Keyed.eq_of_key_eq _ hs.slugs ht hrow (hsame.trans hslug)
    exact hid.symm
  · obtain ⟨u, hu, huid⟩ := hs.owners row hrow
    exact ⟨u, hu, huid.trans howner.symm⟩

/-- **Renaming succeeds below the ownership limit only.** In every reachable state, a member who
may manage the settings of a tenant gives it an acceptable name, and changes nothing else,
exactly if its owner owns fewer than two active tenants.

**Proof sketch.** Rows of tenants are read back as they were written, so the row that is written
differs from the stored one in the name and the time, and passes the constraints of the table.
What is left is the trigger, which counts the tenant itself. -/
theorem rename_succeeds (laws : LowercaseLaws) {enabled : Bool} {backend : SessionBackend}
    {tr : List (World × TenantLabel)}
    (h : Run (·.db.NoTenants) (RestrictedStep (platform enabled backend) F) tr w)
    {row : TenantRow} (hrow : row ∈ w.db.tenants) (hslug : toLowercase slug = row.slug)
    {actor : UserId} (hctx : ctx.actorId = some actor.inner)
    (hgrant : w.db.Grants row.id actor Permission.manageSettings) (hname : AcceptableName name)
    {r : Except TenantError Tenant}
    (hrun : (TenantService.updateTenant ctx slug name).Exec (Env noFault) w r w') :
    ((∃ tenant, r = .ok tenant) ∧ w' = { w with db := w.db.renamed row.id name w.now }) ↔
      w.db.activeOwned row.ownerId < 2 := by
  obtain ⟨hw, hs⟩ := tenantsSound_of_run laws h
  have hsound := hs.rows row hrow
  have hmap := mapTenantRow_ok hsound.parse_status (hsound.parse_slug hsound.lower)
  have hnamed : w.db.tenantNamed? slug = some row := by
    unfold Db.tenantNamed?
    rw [hsound.parse_slug hslug]
    exact Keyed.find?_key_eq _ hs.slugs hrow
  constructor
  · rintro ⟨⟨tenant, rfl⟩, -⟩
    rw [TenantService.exec_updateTenant_ok] at hrun
    obtain ⟨_, row', tenant', -, hrow', htenant', -, -, -, n, db, hn, hdb, -⟩ := hrun
    obtain rfl := Option.some.inj (hnamed.symm.trans hrow')
    obtain ⟨rfl, -⟩ | ⟨-, _, hcount, -, -⟩ := updateTenant_ok hdb
    · exact absurd rfl hn
    · have hcount : w.db.activeOwned tenant'.ownerId < 2 := hcount
      rwa [mapTenantRow_ownerId htenant'] at hcount
  · intro hcount
    have hdone := (TenantService.exec_updateTenant_ok (F := noFault)).mpr
      ⟨actor, row, _, hctx, hnamed, hmap, hgrant,
      hname.notBlank, rfl, 1, _, one_ne_zero,
      updateTenant_renamed hw hs hrow hmap hname.short hname.noNul hcount, rfl⟩
    obtain ⟨rfl, rfl⟩ := exec_unique TenantService.all_updateTenant hrun hdone
    exact ⟨⟨_, rfl⟩, rfl⟩

end Rename

/-! ## A small platform -/

namespace Scenario

/-- Calls by users are a run that loses no owner. -/
lemma run_restricted (calls : List (Nat × TenantCall)) :
    Run (·.db.NoTenants) (@RestrictedStep Unicode.ascii (platform true .database) noFault)
      (playedHistory calls) (played calls) := by
  induction calls with
  | nil => exact .start ⟨rfl, rfl, rfl, rfl, rfl⟩
  | cons c earlier ih => exact ih.snoc ⟨step_played c earlier, nofun⟩

/-- Ada owns one tenant. -/
def acme : World := played [(901, .createTenant "acme" "Acme")]

/-- Ada owns two tenants. -/
def acmeAndGlobex : World :=
  played [(901, .createTenant "globex" "Globex"), (901, .createTenant "acme" "Acme")]

/-- The outcome of a new name for a tenant of Ada's. -/
def renamedByAda (w : World) : Except TenantError Tenant × World :=
  letI := Unicode.ascii
  (TenantService.updateTenant (ctx 901) "acme" "Ajax").eval World.answer w

/-- It is a run. -/
lemma exec_renamedByAda (w : World) : (@TenantService.updateTenant Unicode.ascii (ctx 901) "acme"
    "Ajax").Exec (Env noFault) w (renamedByAda w).1 (renamedByAda w).2 :=
  exec_answer rfl

end Scenario

/-- The owner of one tenant renames it. -/
theorem rename_succeeds_acme :
    ∃ row ∈ Scenario.acme.db.tenants, (∃ tenant, (Scenario.renamedByAda Scenario.acme).1 = .ok tenant) ∧
      (Scenario.renamedByAda Scenario.acme).2 =
        { Scenario.acme with db := Scenario.acme.db.renamed row.id "Ajax" Scenario.acme.now } := by
  obtain ⟨row, hrow, hslug, hgrant, hcount⟩ : ∃ row ∈ Scenario.acme.db.tenants,
      @toLowercase Unicode.ascii "acme" = row.slug ∧
      @Db.Grants Unicode.ascii Scenario.acme.db row.id ⟨BitVec.ofNat 128 901⟩
        Permission.manageSettings ∧
      Scenario.acme.db.activeOwned row.ownerId < 2 := by decide +kernel
  have hname : AcceptableName "Ajax" := ⟨by decide, by decide, by decide⟩
  have hreached : Run (·.db.NoTenants)
      (@RestrictedStep Unicode.ascii (platform true .database) noFault)
      (Scenario.playedHistory [(901, .createTenant "acme" "Acme")]) Scenario.acme :=
    Scenario.run_restricted _
  have hiff := @rename_succeeds Unicode.ascii _ _ _ _ _ _ lowercaseLaws_ascii _ _ _ hreached row hrow
    hslug ⟨BitVec.ofNat 128 901⟩ rfl hgrant hname _ (Scenario.exec_renamedByAda Scenario.acme)
  exact ⟨row, hrow, hiff.mpr hcount⟩

/-- The owner of two tenants can rename neither: the trigger counts the tenant itself. -/
theorem rename_refused_second :
    Run (·.db.NoTenants) (@RestrictedStep Unicode.ascii (platform true .database) noFault)
      (Scenario.playedHistory
        [(901, .createTenant "globex" "Globex"), (901, .createTenant "acme" "Acme")])
      Scenario.acmeAndGlobex ∧
    (∃ row ∈ Scenario.acmeAndGlobex.db.tenants, row.slug = "acme" ∧
      @Db.Grants Unicode.ascii Scenario.acmeAndGlobex.db row.id ⟨BitVec.ofNat 128 901⟩
        Permission.manageSettings) ∧
    AcceptableName "Ajax" ∧
    ∃ e w', (@TenantService.updateTenant Unicode.ascii (Scenario.ctx 901) "acme" "Ajax").Exec
      (Env noFault) Scenario.acmeAndGlobex (.error e) w' := by
  obtain ⟨hacme, hrefused⟩ :
      (∃ row ∈ Scenario.acmeAndGlobex.db.tenants, row.slug = "acme" ∧
        @Db.Grants Unicode.ascii Scenario.acmeAndGlobex.db row.id ⟨BitVec.ofNat 128 901⟩
          Permission.manageSettings) ∧
      (Scenario.renamedByAda Scenario.acmeAndGlobex).1.isOk = false := by decide +kernel
  refine ⟨Scenario.run_restricted _, hacme, ⟨by decide, by decide, by decide⟩, ?_⟩
  cases hr : (Scenario.renamedByAda Scenario.acmeAndGlobex).1 with
  | ok tenant =>
    rw [hr] at hrefused
    cases hrefused
  | error e => exact ⟨e, _, hr ▸ Scenario.exec_renamedByAda Scenario.acmeAndGlobex⟩

end Klynt
