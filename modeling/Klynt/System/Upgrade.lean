import Klynt.Persistence.TenantMigration
import Klynt.System.PermissionView
import Klynt.System.SystemRoles

set_option relaxedAutoImplicit false
set_option autoImplicit false

/-!
# Tenants that are older than their roles

A platform can be upgraded from a schema without roles.  The migrations give its tenants what the
service gives to new ones, but they do not fill the reference from a membership to its role; whoever
was a member before has none.  Nothing depends on it: authorization goes by the name of the role.

## Main definitions

* `LegacyTables.Kept` — what the service kept before the migrations.

## Main results

* `LegacyTables.rolesHave_upgraded` — the upgraded database has the invariants of the service.
* `upgraded_platform` — they last, and old members are granted what new ones are.
-/

namespace Klynt

/-- What the service kept before the migrations. -/
structure LegacyTables.Kept (tables : LegacyTables) : Prop where
  /-- The roles of memberships are canonical. -/
  named : ∀ m ∈ tables.memberships, ∃ role : TenantRole, m.role = role.asStr
  /-- The owner of a tenant is a member with the role `owner`. -/
  owner : ∀ t ∈ tables.tenants, ∃ m ∈ tables.memberships,
    m.tenantId = t.id ∧ m.userId = t.ownerId ∧ m.role = "owner"

namespace LegacyTables

variable {tables : LegacyTables} {ids : SeedIds} {now now' : Time} {seeds : SeedTables} {rest : Db}

/-- The catalogue of an upgraded database is that of the migrations. -/
lemma migrated_upgraded (h : tables.migration0009 ids now .empty = .ok seeds) :
    (tables.migration0010 now' seeds rest).Migrated := by
  obtain ⟨hpermissions, -, hids, -⟩ := migration0009_ok h
  refine ⟨?_, hids⟩
  change seeds.permissions.map _ = _
  rw [hpermissions]
  exact map_catalogueRows ids

/-- Every tenant of an upgraded database has its system roles. -/
lemma rolesOk_upgraded (h : tables.migration0009 ids now .empty = .ok seeds) :
    RolesOk (tables.migration0010 now' seeds rest).tenants
      (tables.migration0010 now' seeds rest).tenantRoles := by
  obtain ⟨-, hroles, -, hids, -⟩ := migration0009_ok h
  refine ⟨?_, ?_, ?_, ?_, ?_⟩
  · simpa [migration0010, Function.comp_def] using tables.tenantIds
  · simpa [migration0010, Function.comp_def] using hids
  · simpa [migration0010, Function.comp_def, hroles] using nodup_roleRows
  · intro r hr
    obtain ⟨s, hs, rfl⟩ := List.mem_map.mp hr
    obtain ⟨role, -, t, ht, rfl⟩ := mem_roleRows.mp (hroles ▸ hs)
    exact ⟨_, List.mem_map_of_mem ht, rfl⟩
  · intro t ht role
    obtain ⟨old, hold, rfl⟩ := List.mem_map.mp ht
    obtain ⟨pair, hpair, rfl⟩ : ∃ pair ∈ systemRoles, pair.1 = role := by
      cases role <;> decide
    refine ⟨_, List.mem_map_of_mem (hroles ▸ mem_roleRows.mpr ⟨pair, hpair, old, hold, rfl⟩), ?_⟩
    exact ⟨rfl, rfl, rfl⟩

/-- The members of an upgraded database. -/
lemma membersOk_upgraded (hkept : tables.Kept) :
    MembersOk (tables.migration0010 now' seeds rest).tenants
      (tables.migration0010 now' seeds rest).memberships := by
  refine ⟨?_, ?_, ?_⟩
  · simpa [migration0010, Function.comp_def] using tables.keys
  · intro m hm
    obtain ⟨old, hold, rfl⟩ := List.mem_map.mp hm
    obtain ⟨t, ht, htenant⟩ := tables.memberTenant old hold
    exact ⟨_, List.mem_map_of_mem ht, htenant⟩
  · intro t ht
    obtain ⟨old, hold, rfl⟩ := List.mem_map.mp ht
    obtain ⟨m, hm, hmember⟩ := hkept.owner old hold
    exact ⟨_, List.mem_map_of_mem hm, hmember⟩

/-- The references of an upgraded database: memberships have none. -/
lemma refsOk_upgraded (hkept : tables.Kept) : (tables.migration0010 now' seeds rest).RefsOk := by
  refine ⟨fun m hm => ?_, fun m hm id hid => ?_, fun i hi => ?_, List.nodup_nil⟩
  · obtain ⟨old, hold, rfl⟩ := List.mem_map.mp hm
    exact hkept.named old hold
  · obtain ⟨old, -, rfl⟩ := List.mem_map.mp hm
    cases hid
  · cases hi

/-- **An upgraded database has the invariants of the service**, and its system roles grant what they
are seeded with. -/
theorem rolesHave_upgraded (hkept : tables.Kept)
    (h : tables.migration0009 ids now .empty = .ok seeds) :
    (tables.migration0010 now' seeds rest).RolesHave
      (SeededOrCustom (tables.migration0010 now' seeds rest)) seeds.permissions := by
  obtain ⟨-, hroles, -, hids, hlinks⟩ := migration0009_ok h
  have hlink : ∀ {r : SeedRoleRow} {p : PermissionId}, r ∈ seeds.roles →
      (⟨r.id, p⟩ ∈ seeds.rolePermissions ↔
        r.isSystem = true ∧ ∃ row ∈ seeds.permissions, row.id = p ∧ seedGrants r.name row.name) := by
    intro r p hr
    refine (hlinks _).trans ?_
    unfold seedLinks
    constructor
    · intro hmem
      obtain ⟨s, hs, hmem⟩ := List.mem_flatMap.mp hmem
      obtain ⟨hs, hsystem⟩ := List.mem_filter.mp hs
      obtain ⟨row, hrow, heq⟩ := List.mem_map.mp hmem
      obtain ⟨hrow, hgrants⟩ := List.mem_filter.mp hrow
      obtain ⟨hid, rfl⟩ := RolePermissionRow.mk.inj heq
      obtain rfl := Keyed.eq_of_key_eq _ hids hs hr hid
      exact ⟨hsystem, row, hrow, rfl, hgrants⟩
    · rintro ⟨hsystem, row, hrow, rfl, hgrants⟩
      refine List.mem_flatMap.mpr ⟨r, List.mem_filter.mpr ⟨hr, hsystem⟩, ?_⟩
      exact List.mem_map.mpr ⟨row, List.mem_filter.mpr ⟨hrow, hgrants⟩, rfl⟩
  refine ⟨⟨rolesOk_upgraded h, membersOk_upgraded hkept⟩, ?_, rfl, ?_⟩
  · intro link hmem
    obtain ⟨s, hs, hin⟩ := List.mem_flatMap.mp ((hlinks link).mp hmem)
    obtain ⟨row, -, rfl⟩ := List.mem_map.mp hin
    exact ⟨_, List.mem_map_of_mem (List.mem_filter.mp hs).1, rfl⟩
  · intro r hr
    obtain ⟨s, hs, rfl⟩ := List.mem_map.mp hr
    have hsystem : s.isSystem = true := by
      obtain ⟨role, -, t, -, rfl⟩ := mem_roleRows.mp (hroles ▸ hs)
      rfl
    refine ⟨?_, fun _ => ?_⟩
    · simp [hsystem]
    · ext p
      refine (hlink hs).trans ?_
      exact ⟨And.right, And.intro hsystem⟩

end LegacyTables

/-! ## Runs -/

variable [Unicode]

/-- **What a member is granted** where system roles grant what they are seeded with: what the name
of the role says. -/
lemma grants_iff_seed {db : Db} (hw : db.WellFormed) (hrefs : db.RefsOk) (hmigrated : db.Migrated)
    (heach : db.EachRole (SeededOrCustom db)) {m : MembershipRow} (hm : m ∈ db.memberships)
    {name : String} :
    db.Grants m.tenantId m.userId name ↔
      name ∈ permissionCatalogue.map (·.1) ∧ seedGrants m.role name = true := by
  obtain ⟨role, hrole⟩ := hrefs.named m hm
  have hparse : TenantRole.parse m.role = .ok role := by rw [hrole, TenantRole.parse_asStr]
  have hfind : db.membership? m.tenantId m.userId = some m := by
    have hfilter : db.memberships.filter (·.hasKey m.tenantId m.userId) = [m] := by
      rw [← Keyed.filter_key_eq _ hw.members.keys hm]
      refine List.filter_congr fun x _ => ?_
      rw [Bool.eq_iff_iff, MembershipRow.hasKey_iff, decide_eq_true_eq, Prod.mk.injEq]
    unfold Db.membership?
    rw [← List.head?_filter, hfilter, List.head?_cons]
  obtain ⟨t, ht, htenant⟩ := hw.members.memberTenant m hm
  obtain ⟨r, hr, hrt, hname, hsystem⟩ := hw.roles.systemRole t ht role
  have hfound : db.roleNamed? m.tenantId role.asStr = some r := by
    have hbyName := (hw.role_found hr).1
    rwa [hrt, htenant, hname] at hbyName
  have hgranted : db.granted r.id = db.seeded m.role := by
    rw [(heach r hr).2 hsystem, hname, hrole]
  have hnames : ∀ {p : PermissionRow}, p ∈ db.permissions →
      p.name ∈ permissionCatalogue.map (·.1) := by
    intro p hp
    rw [← hmigrated.catalogue, List.map_map]
    exact List.mem_map.mpr ⟨p, hp, rfl⟩
  constructor
  · rintro ⟨m', role', hm', hparse', r', p, c, hr', hp, -, hlink⟩
    obtain rfl := Option.some.inj (hfind.symm.trans hm')
    obtain rfl := Except.ok.inj (hparse.symm.trans hparse')
    obtain rfl := Option.some.inj (hfound.symm.trans hr')
    have hpname : p.name = name := by simpa using List.find?_some hp
    have hpmem := List.mem_of_find?_eq_some hp
    obtain ⟨row, hrow, hid, hseed⟩ : p.id ∈ db.seeded m.role := hgranted ▸ hlink
    obtain rfl := Keyed.eq_of_key_eq _ hmigrated.ids hrow hpmem hid
    exact ⟨hpname ▸ hnames hpmem, hpname ▸ hseed⟩
  · rintro ⟨hmem, hseed⟩
    obtain ⟨entry, hentry, rfl⟩ := List.mem_map.mp hmem
    obtain ⟨p, hp, hpname, -⟩ := hmigrated.exists_row hentry
    obtain ⟨c, hc⟩ := hmigrated.category hp
    have hlink : p.id ∈ db.granted r.id := by
      rw [hgranted]
      exact ⟨p, hp, rfl, hpname ▸ hseed⟩
    exact ⟨m, role, hfind, hparse, r, p, c, hfound, hpname ▸ hmigrated.find?_name hp, hc, hlink⟩

/-- **An upgraded platform is like any other.** Take any tenants and memberships of the old schema,
in which roles are canonical and owners are members, and let the two migrations go through; let then
any calls of the tenant service be made, by any actors, with any failures.  In every state the
tables are well formed, and references to roles are right where there are any; and if no call has
edited a system role, then every member, of an old tenant or a new one, is granted exactly what the
name of the role is seeded with.

**Proof sketch.** The migrations establish the invariants with which the service starts without
tenants, and every step keeps them.  Authorization finds the role of a member by its name, and never
follows the reference. -/
theorem upgraded_platform {tables : LegacyTables} (hkept : tables.Kept) {ids : SeedIds}
    {now now' : Time} {seeds : SeedTables} (h : tables.migration0009 ids now .empty = .ok seeds)
    {enabled : Bool} {backend : SessionBackend} {F : Req → Prop} {rest : Db}
    {tr : List (World × TenantLabel)} {w : World}
    (hr : Run (·.db = tables.migration0010 now' seeds rest) (TenantStep (platform enabled backend) F)
      tr w) :
    w.db.WellFormed ∧ w.db.RefsOk ∧
      ((∀ e ∈ tr, ¬ e.2.EditsSystemRole e.1.db) → ∀ m ∈ w.db.memberships, ∀ name,
        (w.db.Grants m.tenantId m.userId name ↔
          name ∈ permissionCatalogue.map (·.1) ∧ seedGrants m.role name = true)) := by
  have hboth : w.db.WellFormed ∧ w.db.RefsOk := by
    refine hr.invariant (I := fun w => w.db.WellFormed ∧ w.db.RefsOk) ?_ ?_
    · intro w₀ hinit
      rw [hinit]
      exact ⟨(LegacyTables.rolesHave_upgraded hkept h).wellFormed, LegacyTables.refsOk_upgraded hkept⟩
    · intro w l w' hI hs
      exact ⟨hs.wellFormed hI.1, hs.refsOk hI.1 hI.2⟩
  refine ⟨hboth.1, hboth.2, fun hl m hm name => ?_⟩
  have hseeds : w.db.RolesHave (SeededOrCustom (tables.migration0010 now' seeds rest))
      seeds.permissions := by
    refine hr.invariant_of_forall (C := fun w l => ¬ l.EditsSystemRole w.db)
      (I := fun w => w.db.RolesHave (SeededOrCustom (tables.migration0010 now' seeds rest))
        seeds.permissions) ?_ ?_ hl
    · intro w₀ hinit
      rw [hinit]
      exact LegacyTables.rolesHave_upgraded hkept h
    · intro w l w' hI hC hstep
      exact hstep.rolesHave (fun _ _ _ hS => hS) hI (TenantLabel.respects_seeds hI.permissions hC)
  have hmigrated : w.db.Migrated := by
    have hold : (tables.migration0010 now' seeds rest).Migrated := LegacyTables.migrated_upgraded h
    exact ⟨hseeds.permissions ▸ hold.catalogue, hseeds.permissions ▸ hold.ids⟩
  have hseeded : SeededOrCustom (tables.migration0010 now' seeds rest) = SeededOrCustom w.db := by
    unfold SeededOrCustom Db.seeded
    rw [hseeds.permissions]
    rfl
  exact grants_iff_seed hboth.1 hboth.2 hmigrated (hseeded ▸ hseeds.each) hm

namespace Scenario

omit [Unicode]

/-- A tenant of the old schema, with its owner and another member. -/
def legacy : LegacyTables where
  tenants := [{ id := ⟨BitVec.ofNat 128 600⟩, slug := "acme", name := "Acme",
                ownerId := ⟨BitVec.ofNat 128 901⟩, status := "active", createdAt := 0, updatedAt := 0 }]
  memberships :=
    [{ tenantId := ⟨BitVec.ofNat 128 600⟩, userId := ⟨BitVec.ofNat 128 901⟩, role := "owner",
       joinedAt := 0 },
     { tenantId := ⟨BitVec.ofNat 128 600⟩, userId := ⟨BitVec.ofNat 128 902⟩, role := "member",
       joinedAt := 0 }]
  tenantIds := List.nodup_singleton _
  keys := by decide +kernel
  memberTenant := by decide +kernel

/-- Numbers from 801 and from 701 are drawn. -/
def drawn : SeedIds where
  permission n := ⟨BitVec.ofNat 128 (801 + n)⟩
  role _ role := ⟨BitVec.ofNat 128 (701 + (systemRoles.map (·.1)).idxOf role)⟩

/-- The platform after the migrations. -/
def upgraded : World :=
  { world with db := legacy.migration0010 10 (legacy.seeded drawn 10 .empty) world.db }

/-- The owner of the old tenant adds a guest. -/
def newGuest : TenantCall := .addMember "acme" "eve@x.org" .guest

/-- The platform with the guest. -/
def upgradedGuest : Except TenantError Unit × World :=
  letI := Unicode.ascii
  (newGuest.run (platform true .database) (ctx 901)).eval World.answer upgraded

end Scenario

omit [Unicode] in
/-- An old member without a reference to a role, and a new one with it, are granted what the names
of their roles say. -/
theorem upgraded_platform_guest :
    let w := Scenario.upgradedGuest.2
    w.db.memberships.map (fun m => (m.role, m.tenantRoleId.isSome)) =
        [("owner", false), ("member", false), ("guest", true)] ∧
      ∀ m ∈ w.db.memberships, ∀ name,
        (@Db.Grants Unicode.ascii w.db m.tenantId m.userId name ↔
          name ∈ permissionCatalogue.map (·.1) ∧ seedGrants m.role name = true) := by
  have hmembers : Scenario.upgradedGuest.2.db.memberships.map (fun m => (m.role, m.tenantRoleId.isSome)) =
      [("owner", false), ("member", false), ("guest", true)] := by decide +kernel
  have hkept : Scenario.legacy.Kept := by
    refine ⟨fun m hm => ?_, fun t ht => ?_⟩
    · rcases List.mem_cons.mp hm with rfl | hm
      · exact ⟨.owner, rfl⟩
      · obtain rfl := List.mem_singleton.mp hm
        exact ⟨.member, rfl⟩
    · obtain rfl := List.mem_singleton.mp ht
      exact ⟨_, List.mem_cons_self, rfl, rfl, rfl⟩
  have hmigrated : Scenario.legacy.migration0009 Scenario.drawn 10 .empty =
      .ok (Scenario.legacy.seeded Scenario.drawn 10 .empty) :=
    if_pos ⟨by decide +kernel, by decide +kernel⟩
  let _ := Unicode.ascii
  have hstart : Run (·.db = Scenario.legacy.migration0010 10
      (Scenario.legacy.seeded Scenario.drawn 10 .empty) Scenario.world.db)
      (TenantStep (platform true .database) noFault) [] Scenario.upgraded := .start rfl
  have hstep : TenantStep (platform true .database) noFault Scenario.upgraded
      (.call (Scenario.ctx 901) Scenario.newGuest Scenario.upgradedGuest.1)
      Scenario.upgradedGuest.2 := .call (Prog.exec_eval (env_answer noFault))
  refine ⟨hmembers, (upgraded_platform hkept hmigrated (hstart.snoc hstep)).2.2 fun e he => ?_⟩
  obtain rfl := List.mem_singleton.mp he
  exact id

end Klynt
