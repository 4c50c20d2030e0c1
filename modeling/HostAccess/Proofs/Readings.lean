import HostAccess.Access
import HostAccess.Proofs.Actions
import HostAccess.Proofs.Migrated

/-! # What reads make of the rows

The roles and hosts of a member as the rows have them, without regard to whether a read finds them.
A read that succeeds, on whatever store, answers with just these; on a migrated store every read
succeeds. -/
namespace HostAccess

/-! ## Tables that are there -/

namespace Store

theorem readRoles_eq_ok_iff {s : Store} {t : Table RoleRow} :
    s.readRoles = .ok t ↔ s.roles = some t := by
  rw [readRoles, mapError_eq_ok_iff, roleTable]
  cases s.roles <;> simp [present]

theorem readScopes_eq_ok_iff {s : Store} {t : Table ScopeRow} :
    s.readScopes = .ok t ↔ s.scopes = some t := by
  rw [readScopes, mapError_eq_ok_iff, scopeTable]
  cases s.scopes <;> simp [present]

theorem readDays_eq_ok_iff {s : Store} {t : Table DayRow} :
    s.readDays = .ok t ↔ s.days = some t := by
  rw [readDays, mapError_eq_ok_iff, dayTable]
  cases s.days <;> simp [present]

theorem roleRows_of_eq {s : Store} {t : Table RoleRow} (found : s.roles = some t) :
    s.roleRows = t.rows := by
  simp [roleRows, found]

theorem scopeRows_of_eq {s : Store} {t : Table ScopeRow} (found : s.scopes = some t) :
    s.scopeRows = t.rows := by
  simp [scopeRows, found]

theorem dayRows_of_eq {s : Store} {t : Table DayRow} (found : s.days = some t) :
    s.dayRows = t.rows := by
  simp [dayRows, found]

/-! ## Roles and hosts of a member -/

/-- A row says that a member has a role. -/
def HoldsRole (s : Store) (uid : String) (role : Role) : Prop :=
  ∃ row ∈ s.roleRows, row.memberUid = uid ∧ row.roleName = role.name

/-- A row says that a member has a host. -/
def HasHost (s : Store) (uid host : String) : Prop :=
  ∃ row ∈ s.scopeRows, row.memberUid = uid ∧ row.scopeType = ScopeType.host.name ∧
    row.scopeValue = host

/-- A member has a host itself, or the wildcard where it is honored. -/
def Covers (s : Store) (settings : Settings) (uid host : String) : Prop :=
  s.HasHost uid host ∨ settings.honorWildcardHost = true ∧ s.HasHost uid Host.wildcard

/-- The registered roles that rows give to a member. -/
def rolesOf (s : Store) (uid : String) : RoleSet :=
  OrderedSet.ofList
    ((s.roleRows.filter (·.memberUid == uid)).filterMap fun row => Role.ofName? row.roleName)

/-- The hosts that rows give to a member. -/
def hostsOf (s : Store) (uid : String) : HostSet :=
  OrderedSet.ofList
    ((s.scopeRows.filter fun row => row.memberUid == uid && row.scopeType == ScopeType.host.name).map
      (·.scopeValue))

theorem mem_rolesOf {s : Store} {uid : String} {role : Role} :
    role ∈ s.rolesOf uid ↔ s.HoldsRole uid role := by
  simp only [rolesOf, OrderedSet.mem_ofList, List.mem_filterMap, List.mem_filter, beq_iff_eq,
    HoldsRole, and_assoc]
  refine exists_congr fun row => and_congr_right fun _ => and_congr_right fun _ => ?_
  exact ⟨fun named => (Role.name_of_ofName? named).symm, fun named => named ▸ Role.ofName?_name role⟩

theorem mem_hostsOf {s : Store} {uid host : String} :
    host ∈ s.hostsOf uid ↔ s.HasHost uid host := by
  simp [hostsOf, HasHost, and_assoc]

/-- Who is named by no row has no roles. -/
theorem rolesOf_eq_empty {s : Store} {uid : String}
    (unnamed : ∀ row ∈ s.roleRows, row.memberUid ≠ uid) : s.rolesOf uid = OrderedSet.empty := by
  refine OrderedSet.ext fun role => iff_of_false ?_ OrderedSet.not_mem_empty
  rw [mem_rolesOf]
  rintro ⟨row, present, owner, -⟩
  exact unnamed row present owner

theorem hostsOf_eq_empty {s : Store} {uid : String}
    (unnamed : ∀ row ∈ s.scopeRows, row.memberUid ≠ uid) : s.hostsOf uid = OrderedSet.empty := by
  refine OrderedSet.ext fun host => iff_of_false ?_ OrderedSet.not_mem_empty
  rw [mem_hostsOf]
  rintro ⟨row, present, owner, -⟩
  exact unnamed row present owner

end Store

/-! ## Stored names of roles -/

theorem decodeRole_eq_ok_iff {name : String} {role : Role} :
    decodeRole name = .ok role ↔ role.name = name := by
  unfold decodeRole
  cases found : Role.ofName? name with
  | none =>
    simp only [reduceCtorEq, false_iff]
    rintro rfl
    simp [Role.ofName?_name] at found
  | some other =>
    have named := Role.name_of_ofName? found
    rw [Except.ok.injEq, ← named]
    exact ⟨fun same => same ▸ rfl, fun same => Role.name_injective same.symm⟩

/-- Names can be understood just if each of them is the name of a role. -/
theorem decodeRoles_eq_ok_iff {names : List String} {roles : List Role} :
    decodeRoles names = .ok roles ↔ names = roles.map Role.name := by
  induction names generalizing roles with
  | nil => cases roles <;> simp [decodeRoles]
  | cons name rest ih =>
    simp only [decodeRoles, bind_eq_ok_iff, decodeRole_eq_ok_iff, ih, pure_eq_ok_iff]
    constructor
    · rintro ⟨role, rfl, others, rfl, rfl⟩
      rfl
    · intro same
      cases roles with
      | nil => simp at same
      | cons role others =>
        obtain ⟨rfl, rfl⟩ := List.cons.inj same
        exact ⟨role, rfl, others, rfl, rfl⟩

theorem decodeRoles_total {names : List String}
    (registered : ∀ name ∈ names, ∃ role : Role, role.name = name) :
    ∃ roles, decodeRoles names = .ok roles := by
  simp only [decodeRoles_eq_ok_iff]
  induction names with
  | nil => exact ⟨[], rfl⟩
  | cons name rest ih =>
    obtain ⟨role, rfl⟩ := registered name List.mem_cons_self
    obtain ⟨roles, rfl⟩ := ih fun other member => registered other (List.mem_cons_of_mem _ member)
    exact ⟨role :: roles, rfl⟩

theorem mem_inOrder {text : String} {texts : List String} : text ∈ inOrder texts ↔ text ∈ texts :=
  List.mem_mergeSort

theorem mem_roleNames {t : Table RoleRow} {uid name : String} :
    name ∈ Store.roleNames t uid ↔ ∃ row ∈ t.rows, row.memberUid = uid ∧ row.roleName = name := by
  simp [Store.roleNames, and_assoc]

/-- What is understood of the names of a member are the roles that its rows give it. -/
theorem rolesOf_of_decoded {s : Store} {t : Table RoleRow} {uid : String} {roles : List Role}
    (found : s.roles = some t)
    (decoded : decodeRoles (inOrder (Store.roleNames t uid)) = .ok roles) :
    OrderedSet.ofList roles = s.rolesOf uid := by
  -- Sorting the names first and dropping duplicates at the end is lost on a set.
  refine OrderedSet.ext fun role => ?_
  rw [OrderedSet.mem_ofList, Store.mem_rolesOf, Store.HoldsRole, Store.roleRows_of_eq found,
    ← mem_roleNames, ← mem_inOrder, decodeRoles_eq_ok_iff.mp decoded]
  constructor
  · exact List.mem_map_of_mem
  · intro named
    obtain ⟨other, member, same⟩ := List.mem_map.mp named
    exact Role.name_injective same ▸ member

theorem hostsOf_of_eq {s : Store} {t : Table ScopeRow} (found : s.scopes = some t) (uid : String) :
    OrderedSet.ofList (Store.hostValues t uid) = s.hostsOf uid := by
  rw [Store.hostsOf, Store.scopeRows_of_eq found]
  rfl

/-! ## Reads of grants -/

namespace Grants

theorem holds_iff {t : Table RoleRow} {s : Store} {uid : String} {role : Role}
    (found : s.roles = some t) : holds t uid role = true ↔ s.HoldsRole uid role := by
  rw [holds, List.contains_iff_mem, mem_roleNames, Store.HoldsRole, Store.roleRows_of_eq found]

/-- Grants that are read are the ones in the rows. -/
theorem stored_sound {s : Store} {uid : String} {grants : Grants}
    (returned : stored uid s = .ok grants) : grants = ⟨s.rolesOf uid, s.hostsOf uid⟩ := by
  simp only [stored, bind_eq_ok_iff, Store.readRoles_eq_ok_iff, Store.readScopes_eq_ok_iff,
    pure_eq_ok_iff] at returned
  -- Both tables were there, and all names of the member were understood.
  obtain ⟨roles, rolesFound, scopes, scopesFound, held, decoded, rfl⟩ := returned
  rw [rolesOf_of_decoded rolesFound decoded, hostsOf_of_eq scopesFound]

/-- The hosts of a holder are read only if a row says that the role is held. -/
theorem hostsIfHeld_sound {s : Store} {uid : String} {role : Role} {hosts : HostSet}
    (returned : hostsIfHeld uid role s = .ok (some hosts)) :
    s.HoldsRole uid role ∧ hosts = s.hostsOf uid := by
  simp only [hostsIfHeld, mapError_eq_ok_iff, bind_eq_ok_iff, Store.readRoles_eq_ok_iff] at returned
  obtain ⟨roles, found, returned⟩ := returned
  split at returned
  next held =>
    simp only [bind_eq_ok_iff, Store.readScopes_eq_ok_iff, pure_eq_ok_iff,
      Option.some.injEq] at returned
    obtain ⟨scopes, scopesFound, rfl⟩ := returned
    exact ⟨(holds_iff found).mp held, hostsOf_of_eq scopesFound uid⟩
  -- Who does not hold the role is answered with no hosts at all, not with an empty set.
  next => simp [pure_eq_ok_iff] at returned

end Grants

namespace Store.Migrated

variable {s : Store} (migrated : s.Migrated)

include migrated

theorem readMembers : s.readMembers = .ok (Schema.memberTable s.memberRows) := by
  rw [Store.readMembers, memberTable, migrated.members]
  rfl

theorem readRoles : s.readRoles = .ok (Schema.roleTable s.roleRows) :=
  readRoles_eq_ok_iff.mpr migrated.roles

theorem readScopes : s.readScopes = .ok (Schema.scopeTable s.scopeRows) :=
  readScopes_eq_ok_iff.mpr migrated.scopes

theorem readDays : s.readDays = .ok (Schema.dayTable s.dayRows) :=
  readDays_eq_ok_iff.mpr migrated.days

/-- Every stored name is the name of a role. -/
theorem roleName_registered {row : RoleRow} (present : row ∈ s.roleRows) :
    ∃ role : Role, role.name = row.roleName :=
  Schema.roleTable_fits_iff.mp (migrated.rolesLegal.fits row present)

theorem scope_wellFormed {row : ScopeRow} (present : row ∈ s.scopeRows) :
    row.scopeType = ScopeType.host.name ∧ row.scopeValue ≠ "" :=
  Schema.scopeTable_fits_iff.mp (migrated.scopesLegal.fits row present)

theorem day_wellFormed {row : DayRow} (present : row ∈ s.dayRows) :
    row.host ≠ "" ∧ ∃ status : Status, status.name = row.status :=
  Schema.dayTable_fits_iff.mp (migrated.daysLegal.fits row present)

theorem decodeRoles_roleNames (uid : String) :
    ∃ roles, decodeRoles (inOrder (roleNames (Schema.roleTable s.roleRows) uid)) = .ok roles := by
  refine decodeRoles_total fun name member => ?_
  obtain ⟨row, present, -, rfl⟩ := mem_roleNames.mp (mem_inOrder.mp member)
  exact migrated.roleName_registered present

theorem stored_roles (uid : String) : Roles.stored uid s = .ok (s.rolesOf uid) := by
  obtain ⟨roles, decoded⟩ := migrated.decodeRoles_roleNames uid
  rw [← rolesOf_of_decoded migrated.roles decoded]
  simp only [Roles.stored, migrated.readRoles, decoded, ok_bind, pure_eq_ok]

theorem stored_grants (uid : String) :
    Grants.stored uid s = .ok ⟨s.rolesOf uid, s.hostsOf uid⟩ := by
  obtain ⟨roles, decoded⟩ := migrated.decodeRoles_roleNames uid
  rw [← rolesOf_of_decoded migrated.roles decoded, ← hostsOf_of_eq migrated.scopes]
  simp only [Grants.stored, migrated.readRoles, migrated.readScopes, decoded, ok_bind, pure_eq_ok]

theorem hosts_read (uid : String) : Scopes.hosts uid s = .ok (s.hostsOf uid) := by
  rw [← hostsOf_of_eq migrated.scopes]
  simp only [Scopes.hosts, migrated.readScopes, ok_bind, pure_eq_ok, mapError_ok]

theorem hostsIfHeld_read (uid : String) (role : Role) :
    Grants.hostsIfHeld uid role s =
      .ok (if role ∈ s.rolesOf uid then some (s.hostsOf uid) else none) := by
  have held_iff : Grants.holds (Schema.roleTable s.roleRows) uid role = true ↔ role ∈ s.rolesOf uid :=
    (Grants.holds_iff migrated.roles).trans mem_rolesOf.symm
  rw [Grants.hostsIfHeld, mapError_eq_ok_iff]
  simp only [migrated.readRoles, migrated.readScopes, ok_bind, pure_eq_ok, hostsOf_of_eq migrated.scopes]
  by_cases held : role ∈ s.rolesOf uid
  · rw [if_pos held, if_pos (held_iff.mpr held)]
  · rw [if_neg held, if_neg (mt held_iff.mp held)]

end Store.Migrated

end HostAccess
