import HostAccess.Proofs.AccessDecisions

/-! # Integrity of the store

Every row of a role or a scope is about a member that is there. The tables do not ask for it: it
holds because each write of grants looks for the member in its own transaction, and because a
member that goes takes its rows along. So a uid that is free has nothing that a new member could
come into. -/
namespace HostAccess

namespace Store

/-- Rows belong to members, and members have names. -/
structure Owned (s : Store) : Prop where
  roles : ∀ row ∈ s.roleRows, s.IsMember row.memberUid
  scopes : ∀ row ∈ s.scopeRows, s.IsMember row.memberUid
  named : ∀ m ∈ s.memberRows, m.uid ≠ ""

/-- What the rows of members, roles and scopes satisfy, by themselves and with each other. -/
structure Sound (s : Store) : Prop where
  roleOwned : ∀ row ∈ s.roleRows, ∃ m ∈ s.memberRows, m.uid = row.memberUid
  scopeOwned : ∀ row ∈ s.scopeRows, ∃ m ∈ s.memberRows, m.uid = row.memberUid
  rolesApart : s.roleRows.Pairwise fun a b => ¬(a.memberUid = b.memberUid ∧ a.roleName = b.roleName)
  scopesApart : s.scopeRows.Pairwise fun a b =>
    ¬(a.memberUid = b.memberUid ∧ a.scopeType = b.scopeType ∧ a.scopeValue = b.scopeValue)
  roleRegistered : ∀ row ∈ s.roleRows, ∃ role : Role, role.name = row.roleName
  scopeTyped : ∀ row ∈ s.scopeRows, row.scopeType = "HOST"
  scopeNamed : ∀ row ∈ s.scopeRows, row.scopeValue ≠ ""
  memberNamed : ∀ m ∈ s.memberRows, m.uid ≠ ""

theorem Owned.sound {s : Store} (owned : s.Owned) (migrated : s.Migrated) : s.Sound where
  roleOwned := owned.roles
  scopeOwned := owned.scopes
  rolesApart := migrated.rolesLegal.apart.imp fun apart => (Schema.roleTable_apart_iff.mp apart).1
  scopesApart := migrated.scopesLegal.apart.imp fun apart => (Schema.scopeTable_apart_iff.mp apart).1
  roleRegistered := fun _ present => migrated.roleName_registered present
  scopeTyped := fun _ present => (migrated.scope_wellFormed present).1
  scopeNamed := fun _ present => (migrated.scope_wellFormed present).2
  memberNamed := owned.named

theorem Owned.holdsRole_member {s : Store} {uid : String} {role : Role} (owned : s.Owned)
    (held : s.HoldsRole uid role) : s.IsMember uid := by
  obtain ⟨row, present, rfl, -⟩ := held
  exact owned.roles row present

/-! ## Commits -/

/-- Rows of members stay so where some are taken away and those of another member are added. -/
theorem owned_replaced {ρ : Type} {owner : ρ → String} {taken : ρ → Bool} {old new : List ρ}
    {s : Store} {uid : String} (owned : ∀ row ∈ old, s.IsMember (owner row))
    (member : s.IsMember uid) (own : ∀ row ∈ new, owner row = uid) :
    ∀ row ∈ old.filter (!taken ·) ++ new, s.IsMember (owner row) := by
  intro row present
  rcases List.mem_append.mp present with kept | put
  · exact owned row (List.mem_filter.mp kept).1
  · exact own row put ▸ member

namespace Owned

variable {s s' : Store} {moment : Moment} (owned : s.Owned)

include owned

theorem joined {m : Member} (named : m.uid ≠ "") : (s.joined m).Owned where
  roles := fun row present => isMember_joined.mpr (Or.inl (owned.roles row present))
  scopes := fun row present => isMember_joined.mpr (Or.inl (owned.scopes row present))
  named := by
    intro other present
    rcases List.mem_append.mp present with old | new
    · exact owned.named other old
    · exact List.mem_singleton.mp new ▸ named

/-- The rows that stay are those of other members, who stay as well. -/
theorem without (uid : String) : (s.without uid).Owned where
  roles := by
    intro row present
    obtain ⟨present, differ⟩ := List.mem_filter.mp present
    exact isMember_without.mpr ⟨by simpa using differ, owned.roles row present⟩
  scopes := by
    intro row present
    obtain ⟨present, differ⟩ := List.mem_filter.mp present
    exact isMember_without.mpr ⟨by simpa using differ, owned.scopes row present⟩
  named := fun m present => owned.named m (List.mem_filter.mp present).1

theorem granted {uid : String} (member : s.IsMember uid) (change : GrantChange) (now : Instant) :
    (s.granted uid change now).Owned where
  roles := by
    rw [roleRows_granted]
    intro row present
    rw [isMember_granted]
    -- A dimension that the change is silent about keeps its rows, and their members.
    cases asked : change.roles with
    | none => exact owned.roles row (by simpa [asked] using present)
    | some roles =>
      rw [asked] at present
      exact owned_replaced owned.roles member owner_grantedRoles row present
  scopes := by
    rw [scopeRows_granted]
    intro row present
    rw [isMember_granted]
    cases asked : change.hosts with
    | none => exact owned.scopes row (by simpa [asked] using present)
    | some hosts =>
      rw [asked] at present
      exact owned_replaced owned.scopes member owner_grantedHosts row present
  named := by
    intro m present
    obtain ⟨old, member, rfl⟩ := List.mem_map.mp present
    split
    · exact owned.named old member
    · exact owned.named old member

theorem commit (settled : s.Settled) (commit : s.Commit moment s') : s'.Owned := by
  have migrated := settled.toMigrated
  cases commit with
  | joined new named free => exact owned.joined named
  | without uid member => exact owned.without uid
  | granted uid change member named => exact owned.granted member change moment.now
  | announced new valid named added =>
    -- Demo days belong to no member.
    obtain ⟨-, rfl⟩ := migrated.add_day_eq_ok_iff.mp added
    exact ⟨owned.roles, owned.scopes, owned.named⟩
  | moved slug status current found allowed revised =>
    obtain ⟨-, rfl⟩ := migrated.revise_day_eq_ok_iff.mp revised
    exact ⟨owned.roles, owned.scopes, owned.named⟩
  | rehosted slug host current valid found upcoming revised =>
    obtain ⟨-, rfl⟩ := migrated.revise_day_eq_ok_iff.mp revised
    exact ⟨owned.roles, owned.scopes, owned.named⟩

/-- A uid that no member has is in no row. -/
theorem rolesOf_absent {uid : String} (absent : ¬s.IsMember uid) :
    s.rolesOf uid = OrderedSet.empty :=
  rolesOf_eq_empty fun row present same => absent (same ▸ owned.roles row present)

theorem hostsOf_absent {uid : String} (absent : ¬s.IsMember uid) :
    s.hostsOf uid = OrderedSet.empty :=
  hostsOf_eq_empty fun row present same => absent (same ▸ owned.scopes row present)

end Owned

theorem fresh_owned : Store.fresh.Owned := by
  rw [fresh_eq]
  exact ⟨fun _ present => absurd present List.not_mem_nil,
    fun _ present => absurd present List.not_mem_nil,
    fun _ present => absurd present List.not_mem_nil⟩

end Store

/-! ## Runs -/

theorem Run.settled_and_owned (run : Run) :
    (Run.finalStore Store.fresh run).Settled ∧ (Run.finalStore Store.fresh run).Owned :=
  Run.finalStore_induction (fun settled owned commit => owned.commit settled commit)
    Store.fresh_settled Store.fresh_owned run

/-! ## New members -/

/-- A member without roles and hosts, to every read and every check. -/
structure Store.Powerless (s : Store) (uid : String) : Prop where
  roles : Roles.ofMember uid s = .ok OrderedSet.empty
  scopes : Scopes.ofMember uid s = .ok OrderedSet.empty
  hosts : Scopes.hosts uid s = .ok OrderedSet.empty
  grants : Grants.ofMember uid s = .ok ⟨OrderedSet.empty, OrderedSet.empty⟩
  administers : ∀ settings role host,
    (Access.canAdminister settings uid role host s).value = false
  administersDay : ∀ settings slug, (Access.canAdministerDay settings uid slug s).value = false
  capabilities : ∀ settings host,
    (Access.capabilities settings uid host s).value = OrderedSet.empty

theorem Store.powerless_of_rows {s : Store} (migrated : s.Migrated) {uid : String}
    (noRoles : ∀ row ∈ s.roleRows, row.memberUid ≠ uid)
    (noScopes : ∀ row ∈ s.scopeRows, row.memberUid ≠ uid) : s.Powerless uid := by
  -- No row names the member. The reads find nothing, and a yes would have nothing to rest on.
  have holdsNone (role : Role) : ¬s.HoldsRole uid role := by
    rintro ⟨row, present, owner, -⟩
    exact noRoles row present owner
  have rolesOf : s.rolesOf uid = OrderedSet.empty := rolesOf_eq_empty noRoles
  have hostsOf : s.hostsOf uid = OrderedSet.empty := hostsOf_eq_empty noScopes
  have ownScopes : s.scopeRows.filter (·.memberUid == uid) = [] := by
    rw [List.filter_eq_nil_iff]
    exact fun row present owner => noScopes row present (beq_iff_eq.mp owner)
  have scopes : Scopes.stored uid s = .ok OrderedSet.empty := by
    rw [Scopes.stored, migrated.readScopes]
    simp only [ok_bind, Schema.scopeTable, ownScopes, byScopeType, List.mergeSort_nil]
    rfl
  refine ⟨?_, ?_, ?_, ?_, ?_, ?_, ?_⟩
  · exact mapError_eq_ok_iff.mpr (rolesOf ▸ migrated.stored_roles uid)
  · exact mapError_eq_ok_iff.mpr scopes
  · exact hostsOf ▸ migrated.hosts_read uid
  · have read := migrated.stored_grants uid
    rw [rolesOf, hostsOf] at read
    exact mapError_eq_ok_iff.mpr read
  · intro settings role host
    rw [← Bool.not_eq_true]
    exact fun allowed => holdsNone role (Access.canAdminister_sound allowed).1
  · intro settings slug
    rw [← Bool.not_eq_true]
    intro allowed
    obtain ⟨row, -, -, held, -⟩ := (Access.canAdministerDay_sound allowed).1
    exact holdsNone .demoDayAdmin held
  · intro settings host
    refine OrderedSet.ext fun capability => iff_of_false ?_ OrderedSet.not_mem_empty
    intro granted
    obtain ⟨role, held, -⟩ := Access.mem_capabilities_sound granted
    exact holdsNone role held

/-- Whatever the directory has been asked to do, its rows are sound; and a member that it has just
created, also in the place of one that was deleted before, can do nothing. -/
theorem Run.reachable_sound (run : Run) :
    (Run.finalStore Store.fresh run).Sound ∧
      ∀ moment new answer,
        ((Operation.createMember new).perform.run moment (Run.finalStore Store.fresh run)).result =
            .ok answer →
          ((Operation.createMember new).perform.run moment
            (Run.finalStore Store.fresh run)).store.Powerless new.uid := by
  obtain ⟨settled, owned⟩ := Run.settled_and_owned run
  refine ⟨owned.sound settled.toMigrated, fun moment new answer answered => ?_⟩
  rw [Operation.perform, Operation.answering, Action.run_map] at answered ⊢
  cases returned : ((Members.create new).run moment (Run.finalStore Store.fresh run)).result with
  | error e =>
    rw [returned] at answered
    cases answered
  | ok m =>
    obtain ⟨free, left⟩ := Members.created settled.toMigrated returned
    dsimp only
    rw [left]
    -- The rows of roles and scopes are those from before, when nobody had the uid.
    refine Store.powerless_of_rows (settled.toMigrated.joined free) ?_ ?_
    · exact fun row present same => free (same ▸ owned.roles row present)
    · exact fun row present same => free (same ▸ owned.scopes row present)

end HostAccess
