import Klynt.System.WellFormed

set_option relaxedAutoImplicit false
set_option autoImplicit false

/-!
# The caps of a tenant

A tenant stores how many members and how many owners it may have, 100 and 1 unless it says
otherwise.  The creation of a tenant starts within these caps, and nothing else looks at them:
members are added, and made owners, until somebody stops.

## Main definitions

* `Db.memberCount`, `Db.ownerCount` — the members and the owners of a tenant.
* `TenantCall.AddsMember`, `TenantCall.MakesOwner` — the calls that may raise these numbers.
* `TenantLabel.WithinCaps` — such a call finds the number below the cap.

## Main results

* `tenant_caps` — what calls do to the two numbers, and the runs that stay within the caps.
* `second_owner` — an owner adds another.
-/

namespace Klynt

/-! ## Counting -/

section Count

variable {α : Type} {p q k : α → Bool} {l : List α} {c : Prop}

/-- An added element raises a count by at most one, and only if it counts. -/
lemma countP_concat {a : α} (h : p a = true → c) :
    (l ++ [a]).countP p ≤ l.countP p ∨ (l ++ [a]).countP p = l.countP p + 1 ∧ c := by
  rw [List.countP_append, List.countP_singleton]
  by_cases ha : p a = true
  · rw [if_pos ha]
    exact .inr ⟨rfl, h ha⟩
  · rw [if_neg ha]
    exact .inl le_rfl

/-- What counts differently is counted twice. -/
lemma countP_le_add (h : ∀ a ∈ l, q a = true → p a = true ∨ k a = true) :
    l.countP q ≤ l.countP p + l.countP k := by
  induction l with
  | nil => simp
  | cons a l ih =>
    have hl := ih fun b hb => h b (List.mem_cons_of_mem _ hb)
    have ha := h a List.mem_cons_self
    simp only [List.countP_cons]
    by_cases hq : q a = true
    · rcases ha hq with hp | hk
      · rw [if_pos hq, if_pos hp]
        omega
      · rw [if_pos hq, if_pos hk]
        omega
    · rw [if_neg hq]
      omega

/-- A change of one element raises a count by at most one, and only if it then counts. -/
lemma countP_map {f : α → α} (hf : ∀ a, p (f a) = true → p a = true ∨ k a = true ∧ c)
    (hone : l.countP k ≤ 1) :
    (l.map f).countP p ≤ l.countP p ∨ (l.map f).countP p = l.countP p + 1 ∧ c := by
  rw [List.countP_map]
  by_cases hc : c
  · have hle : l.countP (p ∘ f) ≤ l.countP p + l.countP k :=
      countP_le_add fun a _ h => (hf a h).imp id And.left
    rcases Nat.lt_or_ge (l.countP p) (l.countP (p ∘ f)) with hlt | hge
    · exact .inr ⟨by omega, hc⟩
    · exact .inl hge
  · exact .inl (List.countP_mono_left fun a _ h => (hf a h).resolve_right fun h' => hc h'.2)

/-- The first element that counts. -/
lemma countP_concat_eq_one {a : α} (hl : ∀ b ∈ l, ¬ p b = true) (ha : p a = true) :
    (l ++ [a]).countP p = 1 := by
  rw [List.countP_append, List.countP_singleton, List.countP_eq_zero.mpr hl, if_pos ha]

end Count

/-- The members of a tenant. -/
def Db.memberCount (db : Db) (t : TenantId) : Nat := db.memberships.countP fun m => m.tenantId = t

/-- The members of a tenant whose role is `owner`. -/
def Db.ownerCount (db : Db) (t : TenantId) : Nat :=
  db.memberships.countP fun m => m.tenantId = t ∧ m.role = TenantRole.owner.asStr

variable [Unicode]

/-! ## Calls -/

/-- The call may add a member to the tenant. -/
def TenantCall.AddsMember (db : Db) (t : TenantId) : TenantCall → Prop
  | addMember slug _ _ => ∃ row, db.tenantNamed? slug = some row ∧ row.id = t
  | acceptInvite token => ∃ inv roleName, db.invite? token = some (inv, roleName) ∧ inv.tenantId = t
  | _ => False

/-- The call may make somebody an owner of the tenant. -/
def TenantCall.MakesOwner (db : Db) (t : TenantId) : TenantCall → Prop
  | addMember slug _ role | updateMemberRole slug _ role =>
    role = .owner ∧ ∃ row, db.tenantNamed? slug = some row ∧ row.id = t
  | acceptInvite token => ∃ inv roleName, db.invite? token = some (inv, roleName) ∧
    inv.tenantId = t ∧ TenantRole.parse roleName = .ok .owner
  | _ => False

/-- What a call does to the members and the owners of a tenant `t` that it finds and leaves: the
caps stay, and each number rises by at most one, and only by the calls that may raise it. -/
structure CountsKept (call : TenantCall) (db db' : Db) (old t : TenantRow) : Prop where
  /-- The tenant was there. -/
  mem : old ∈ db.tenants
  /-- It is the same tenant. -/
  id : old.id = t.id
  /-- The cap on members stays. -/
  maxMembers : t.maxMembers = old.maxMembers
  /-- The cap on owners stays. -/
  maxOwners : t.maxOwners = old.maxOwners
  /-- The number of members. -/
  members : db'.memberCount t.id ≤ db.memberCount t.id ∨
    db'.memberCount t.id = db.memberCount t.id + 1 ∧ call.AddsMember db t.id
  /-- The number of owners. -/
  owners : db'.ownerCount t.id ≤ db.ownerCount t.id ∨
    db'.ownerCount t.id = db.ownerCount t.id + 1 ∧ call.MakesOwner db t.id

/-- A tenant starts with one member, its owner. -/
structure CountsNew (call : TenantCall) (db' : Db) (t : TenantRow) : Prop where
  /-- The call creates tenants. -/
  call : ∃ slug name, call = .createTenant slug name
  /-- The cap on members. -/
  maxMembers : t.maxMembers = defaultMaxMembers
  /-- The cap on owners. -/
  maxOwners : t.maxOwners = defaultMaxOwners
  /-- The number of members. -/
  members : db'.memberCount t.id = 1
  /-- The number of owners. -/
  owners : db'.ownerCount t.id = 1

section Effect

variable {now : Time} {actor : UserId} {db db' : Db} {call : TenantCall} {complete : Bool}
  {event : Option MembershipEvent}

/-- A call that leaves a tenant and does not add to its members. -/
lemma CountsKept.of_sublist {t : TenantRow} (ht : t ∈ db.tenants)
    (h : db'.memberships.Sublist db.memberships) : CountsKept call db db' t t :=
  ⟨ht, rfl, rfl, rfl, .inl (h.countP_le), .inl (h.countP_le)⟩

/-- A call that adds a member to some tenant. -/
lemma CountsKept.of_append {t : TenantRow} {m : MembershipRow} (ht : t ∈ db.tenants)
    (hdb : db'.memberships = db.memberships ++ [m])
    (hm : m.tenantId = t.id → call.AddsMember db t.id)
    (ho : m.tenantId = t.id → m.role = TenantRole.owner.asStr → call.MakesOwner db t.id) :
    CountsKept call db db' t t := by
  refine ⟨ht, rfl, rfl, rfl, ?_, ?_⟩
  · unfold Db.memberCount
    rw [hdb]
    exact countP_concat fun h => hm (of_decide_eq_true h)
  · unfold Db.ownerCount
    rw [hdb]
    exact countP_concat fun h => ho (of_decide_eq_true h).1 (of_decide_eq_true h).2

omit [Unicode] in
/-- A key occurs once. -/
lemma MembersOk.countP_hasKey_le {tenants : List TenantRow} {members : List MembershipRow}
    (h : MembersOk tenants members) (t : TenantId) (u : UserId) :
    members.countP (·.hasKey t u) ≤ 1 := by
  have hcount := List.nodup_iff_count_le_one.mp h.keys (t, u)
  rw [List.count, List.countP_map] at hcount
  refine le_trans (List.countP_mono_left fun m _ hkey => ?_) hcount
  obtain ⟨ht, hu⟩ := MembershipRow.hasKey_iff.mp hkey
  exact beq_iff_eq.mpr (Prod.ext ht hu)

/-- **What a call does to the members and the owners of a tenant.** -/
lemma TenantEffect.counts (h : TenantEffect now actor db call complete event db')
    (hw : db.WellFormed) {t : TenantRow} (ht : t ∈ db'.tenants) :
    (∃ old, CountsKept call db db' old t) ∨ CountsNew call db' t := by
  cases h with
  | @created slug name tenant ids row db' hslug hnew h =>
    obtain ⟨name', rfl, -, hid, -, -, -, -, seeds, -, -, rfl⟩ :=
      createTenantTx_ok hw.roles.roleTenant hw.roles.roleIds h
    obtain ⟨-, htenant⟩ := Tenant.create_eq_ok.mp hnew
    rcases List.mem_append.mp ht with ht | ht
    · have hne : tenant.id ≠ t.id := fun heq => hid t ht heq.symm
      exact .inl ⟨t, .of_append ht rfl (absurd · hne) (absurd · hne)⟩
    · obtain rfl := List.mem_singleton.mp ht
      have hfresh : ∀ m ∈ db.memberships, m.tenantId ≠ tenant.id := by
        intro m hm heq
        obtain ⟨row, hrow, hrid⟩ := hw.members.memberTenant m hm
        exact hid row hrow (hrid.trans heq)
      refine .inr ⟨⟨slug, name, rfl⟩, congrArg Tenant.maxMembers htenant,
        congrArg Tenant.maxOwners htenant, ?_, ?_⟩
      · exact countP_concat_eq_one (fun m hm h => hfresh m hm (of_decide_eq_true h)) (decide_eq_true rfl)
      · exact countP_concat_eq_one (fun m hm h => hfresh m hm (of_decide_eq_true h).1)
          (decide_eq_true ⟨rfl, rfl⟩)
  | @renamed slug name row tenant n db' hrow htenant hgrant h =>
    obtain ⟨-, rfl⟩ | ⟨-, name', -, -, rfl⟩ := updateTenant_ok h
    · exact .inl ⟨t, .of_sublist ht (.refl _)⟩
    · obtain ⟨_, _, -, -, rfl⟩ := mapTenantRow_eq_ok htenant
      obtain ⟨old, hold, rfl⟩ := List.mem_map.mp ht
      refine .inl ⟨old, ?_⟩
      split
      · rename_i hid
        obtain rfl := Keyed.eq_of_key_eq _ hw.roles.tenantIds hold (Db.mem_of_tenantNamed? hrow) hid
        exact ⟨hold, rfl, rfl, rfl, .inl le_rfl, .inl le_rfl⟩
      · exact .of_sublist hold (.refl _)
  | deleted hrow hgrant h =>
    obtain ⟨-, rfl, -⟩ | ⟨-, rfl⟩ := deleteTenant_ok h
    · exact .inl ⟨t, .of_sublist ht (.refl _)⟩
    · exact .inl ⟨t, .of_sublist (List.mem_filter.mp ht).1 List.filter_sublist⟩
  | @memberAdded slug email role row u r m db' hrow hgrant hu hrole h =>
    obtain ⟨-, -, -, -, -, rfl⟩ := insertMembership_ok h
    refine .inl ⟨t, .of_append ht rfl (fun heq => ⟨row, hrow, heq⟩) fun heq hname => ?_⟩
    exact ⟨TenantRole.asStr_injective hname, row, hrow, heq⟩
  | @memberUpdated slug email role row u r n db' hrow hgrant hu hrole h hn =>
    obtain ⟨-, -, rfl⟩ := updateMembershipRole_ok h
    refine .inl ⟨t, ht, rfl, rfl, rfl, .inl (le_of_eq ?_), ?_⟩
    · simp only [Db.memberCount, List.countP_map]
      refine List.countP_congr fun m _ => ?_
      simp only [Function.comp_apply]
      split <;> rfl
    · refine countP_map (k := (·.hasKey row.id u)) (fun m h => ?_)
        (hw.members.countP_hasKey_le row.id u)
      split at h
      · rename_i hkey
        obtain ⟨ht, hname⟩ := of_decide_eq_true h
        refine .inr ⟨hkey, TenantRole.asStr_injective hname, row, hrow, ?_⟩
        exact (MembershipRow.hasKey_iff.mp hkey).1.symm.trans ht
      · exact .inl h
  | memberRemoved hrow hgrant hu h hn =>
    obtain ⟨-, rfl⟩ := deleteMembership_ok h
    exact .inl ⟨t, .of_sublist ht List.filter_sublist⟩
  | inviteCreated hrow hgrant hrole htenant hroleId hby hpending h =>
    obtain ⟨_, -, -, -, -, -, rfl⟩ := insertInvite_ok h
    exact .inl ⟨t, .of_sublist ht (.refl _)⟩
  | @inviteInserted token roleName inv role m db' hinv h =>
    obtain ⟨-, -, -, -, -, rfl⟩ := insertMembership_ok h
    refine .inl ⟨t, .of_append ht rfl (fun heq => ⟨inv, roleName, hinv.found, heq⟩)
      fun heq hname => ?_⟩
    obtain rfl := TenantRole.asStr_injective hname
    exact ⟨inv, roleName, hinv.found, heq, hinv.role⟩
  | @inviteAccepted token roleName inv role m n db₁ db' hinv h hmark =>
    obtain ⟨-, -, -, -, -, rfl⟩ := insertMembership_ok h
    obtain ⟨-, rfl⟩ := markInviteAccepted_ok hmark
    refine .inl ⟨t, .of_append ht rfl (fun heq => ⟨inv, roleName, hinv.found, heq⟩)
      fun heq hname => ?_⟩
    obtain rfl := TenantRole.asStr_injective hname
    exact ⟨inv, roleName, hinv.found, heq, hinv.role⟩
  | roleCreated hrow hgrant htenant hcustom hperms h =>
    obtain ⟨_, -, -, -, rfl⟩ := createRoleTx_ok h
    exact .inl ⟨t, .of_sublist ht (.refl _)⟩
  | roleUpdated hrow hgrant h =>
    obtain ⟨-, rfl⟩ := updateRolePermissionsTx_ok h
    exact .inl ⟨t, .of_sublist ht (.refl _)⟩
  | roleDeleted hrow hgrant h hn =>
    obtain ⟨-, rfl⟩ | ⟨-, -, -, -, rfl⟩ := deleteRole_ok h
    · exact .inl ⟨t, .of_sublist ht (.refl _)⟩
    · exact .inl ⟨t, .of_sublist ht (.refl _)⟩

end Effect

/-! ## Runs -/

/-- A tenant is within its caps. -/
def Db.Within (db : Db) (t : TenantRow) : Prop :=
  db.memberCount t.id ≤ t.maxMembers ∧ db.ownerCount t.id ≤ t.maxOwners

/-- A call that may add a member finds fewer members than the tenant may have, and one that may
make an owner fewer owners. -/
def TenantLabel.WithinCaps (db : Db) : TenantLabel → Prop
  | call _ c _ => ∀ t ∈ db.tenants, (c.AddsMember db t.id → db.memberCount t.id < t.maxMembers) ∧
    (c.MakesOwner db t.id → db.ownerCount t.id < t.maxOwners)
  | other => True

section Run

variable {enabled : Bool} {backend : SessionBackend} {F : Req → Prop}

/-- What a run of a call does to the members and the owners of a tenant. -/
lemma TenantCall.counts_of_exec {ctx : ExecutionContext} {call : TenantCall}
    {r : Except TenantError Unit} {w w' : World} (hw : w.db.WellFormed)
    (h : (call.run (platform enabled backend) ctx).Exec (Env F) w r w') {t : TenantRow}
    (ht : t ∈ w'.db.tenants) :
    (∃ old, CountsKept call w.db w'.db old t) ∨ CountsNew call w'.db t := by
  obtain ⟨⟨_, _, _, _, _, hdb⟩, -⟩ | ⟨actor, complete, event, db, -, heff, ⟨_, _, _, _, _, hdb⟩, -⟩ :=
    TenantCall.effect_of_exec h
  · rw [hdb] at ht ⊢
    exact .inl ⟨t, .of_sublist ht (.refl _)⟩
  · rw [hdb] at ht ⊢
    obtain ⟨old, hkept⟩ | hnew := heff.counts hw ht
    · exact .inl ⟨old, hkept.mem, hkept.id, hkept.maxMembers, hkept.maxOwners, hkept.members,
        hkept.owners⟩
    · exact .inr ⟨hnew.call, hnew.maxMembers, hnew.maxOwners, hnew.members, hnew.owners⟩

/-- **A call below the caps stays within them.** -/
lemma TenantStep.within {w w' : World} {l : TenantLabel}
    (hstep : TenantStep (platform enabled backend) F w l w') (hw : w.db.WellFormed)
    (hcaps : ∀ t ∈ w.db.tenants, w.db.Within t) (hl : l.WithinCaps w.db) :
    ∀ t ∈ w'.db.tenants, w'.db.Within t := by
  intro t ht
  cases hstep with
  | other hs =>
    obtain ⟨_, _, _, _, _, hdb⟩ := hs
    rw [hdb] at ht ⊢
    exact hcaps t ht
  | call hexec =>
    unfold Db.Within
    obtain ⟨old, hkept⟩ | hnew := TenantCall.counts_of_exec hw hexec ht
    · obtain ⟨hmembers, howners⟩ := hcaps old hkept.mem
      obtain ⟨hadds, hmakes⟩ := hl old hkept.mem
      rw [hkept.id] at hmembers howners hadds hmakes
      rw [hkept.maxMembers, hkept.maxOwners]
      constructor
      · rcases hkept.members with hle | ⟨heq, hcall⟩
        · omega
        · have := hadds hcall
          omega
      · rcases hkept.owners with hle | ⟨heq, hcall⟩
        · omega
        · have := hmakes hcall
          omega
    · rw [hnew.members, hnew.owners, hnew.maxMembers, hnew.maxOwners]
      decide

/-- **The caps of tenants are left to the callers.** From every state a run reaches, a call
starts new tenants with one member, who is its owner, and the caps 100 and 1; it keeps the caps
of other tenants, and raises their numbers of members and of owners by at most one, the first only
if it adds a member or accepts an invite, the second only if moreover the role is `owner` or it
changes a role to `owner`.  In runs in which such a call finds the number below the cap, all
tenants are within their caps.

**Proof sketch.** Each effect on the membership table appends a row, edits the only row with a
key, or drops rows. -/
theorem tenant_caps {tr : List (World × TenantLabel)} {w : World}
    (h : Run (·.db.NoTenants) (TenantStep (platform enabled backend) F) tr w) :
    (∀ (ctx : ExecutionContext) (call : TenantCall) (r : Except TenantError Unit) (w' : World),
      (call.run (platform enabled backend) ctx).Exec (Env F) w r w' → ∀ t ∈ w'.db.tenants,
        (∃ old, CountsKept call w.db w'.db old t) ∨ CountsNew call w'.db t) ∧
    ((∀ e ∈ tr, e.2.WithinCaps e.1.db) → ∀ t ∈ w.db.tenants, w.db.Within t) := by
  refine ⟨fun ctx call r w' hexec t ht => TenantCall.counts_of_exec (wellFormed_of_run h) hexec ht,
    fun hl => ?_⟩
  have hboth : w.db.WellFormed ∧ ∀ t ∈ w.db.tenants, w.db.Within t := by
    refine h.invariant_of_forall (C := fun w l => l.WithinCaps w.db)
      (I := fun w => w.db.WellFormed ∧ ∀ t ∈ w.db.tenants, w.db.Within t) ?_ ?_ hl
    · intro w hno
      refine ⟨hno.wellFormed, fun t ht => ?_⟩
      rw [hno.tenants] at ht
      cases ht
    · intro w l w' hI hC hstep
      exact ⟨hstep.wellFormed hI.1, hstep.within hI.1 hI.2 hC⟩
  exact hboth.2

end Run

namespace Scenario

/-- The creator of a tenant adds a second owner. -/
def twoOwners : List (Nat × TenantCall) :=
  [(901, .addMember "acme" "bob@x.org" .owner), (901, .createTenant "acme" "Acme")]

/-- The creator of a tenant adds an administrator. -/
def oneOwner : List (Nat × TenantCall) :=
  [(901, .addMember "acme" "bob@x.org" .admin), (901, .createTenant "acme" "Acme")]

end Scenario

omit [Unicode] in
/-- A tenant with an owner and an administrator is within its caps. -/
theorem tenant_caps_admin :
    let w := Scenario.played Scenario.oneOwner
    w.db.memberships.length = 2 ∧ ∀ t ∈ w.db.tenants, w.db.Within t := by
  have hcount : ∀ t ∈ (Scenario.played (Scenario.oneOwner.drop 1)).db.tenants,
      (Scenario.played (Scenario.oneOwner.drop 1)).db.memberCount t.id < t.maxMembers := by
    decide +kernel
  refine ⟨by decide +kernel, (@tenant_caps Unicode.ascii _ _ _ _ _
    (Scenario.run_played Scenario.oneOwner)).2 fun e he => ?_⟩
  simp only [Scenario.playedHistory, Scenario.history, Scenario.oneOwner, List.mem_cons,
    List.not_mem_nil, or_false] at he
  simp only [Scenario.played, Scenario.oneOwner, List.drop_succ_cons, List.drop_zero] at hcount
  rcases he with rfl | rfl
  · intro t ht
    dsimp only at ht
    exact ⟨fun _ => hcount t ht, fun hmakes => nomatch hmakes.1⟩
  · exact fun t ht => ⟨nofun, nofun⟩

omit [Unicode] in
/-- **An owner adds another.** The tenant then has two owners and may have one. -/
theorem second_owner :
    let w := Scenario.played Scenario.twoOwners
    (∃ tr, Run (·.db.NoTenants) (@TenantStep Unicode.ascii (platform true .database) noFault) tr w) ∧
      ∃ t ∈ w.db.tenants, t.maxOwners = 1 ∧ w.db.ownerCount t.id = 2 :=
  ⟨⟨_, Scenario.run_played Scenario.twoOwners⟩, by decide +kernel⟩

end Klynt
