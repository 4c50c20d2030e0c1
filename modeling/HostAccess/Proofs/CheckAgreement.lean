import HostAccess.Proofs.AccessDecisions

/-! # Agreement of the checks

What a member administers and what it is capable of are found out by two reads. The one asks for a
single role and looks at hosts only if the role is held; the other takes all grants together, and
fails for any name among the roles that is not registered. Where the second read succeeds so does
the first, on the same rows: a role that needs a host is then usable exactly where it administers,
and any other role is usable everywhere. Where the second read fails nothing is usable at all. -/
namespace HostAccess

/-- No two roles grant the same capability. -/
theorem Role.eq_of_capability {role other : Role} {capability : Capability}
    (granted : capability ∈ role.capabilities) (also : capability ∈ other.capabilities) :
    role = other := by
  cases mem_capabilities_iff.mp granted <;> cases mem_capabilities_iff.mp also <;> rfl

namespace Grants

variable {s : Store} {uid : String} {grants : Grants}

/-- On tables that are there only the names of roles are in question. -/
theorem ofMember_eq {roles : Table RoleRow} {scopes : Table ScopeRow}
    (rolesFound : s.roles = some roles) (scopesFound : s.scopes = some scopes) (uid : String) :
    ofMember uid s = Except.mapError StoreError.toError do
      let held ← decodeRoles (inOrder (Store.roleNames roles uid))
      return ⟨OrderedSet.ofList held, OrderedSet.ofList (Store.hostValues scopes uid)⟩ := by
  rw [ofMember, stored, Store.readRoles_eq_ok_iff.mpr rolesFound, ok_bind,
    Store.readScopes_eq_ok_iff.mpr scopesFound, ok_bind]

/-- Who has all grants of a member read has both tables, and can ask for any role by itself. -/
theorem hostsIfHeld_of_read (read : ofMember uid s = .ok grants) (role : Role) :
    hostsIfHeld uid role s = .ok (if role ∈ grants.roles then some grants.hosts else none) := by
  simp only [ofMember, stored, mapError_eq_ok_iff, bind_eq_ok_iff, Store.readRoles_eq_ok_iff,
    Store.readScopes_eq_ok_iff, pure_eq_ok_iff] at read
  obtain ⟨roles, rolesFound, scopes, scopesFound, held, decoded, rfl⟩ := read
  have held_iff : holds roles uid role = true ↔ role ∈ OrderedSet.ofList held := by
    rw [holds_iff rolesFound, ← Store.mem_rolesOf, rolesOf_of_decoded rolesFound decoded]
  rw [hostsIfHeld, mapError_eq_ok_iff, Store.readRoles_eq_ok_iff.mpr rolesFound,
    Store.readScopes_eq_ok_iff.mpr scopesFound]
  simp only [ok_bind, pure_eq_ok]
  by_cases member : role ∈ OrderedSet.ofList held
  · rw [if_pos member, if_pos (held_iff.mpr member)]
  · rw [if_neg member, if_neg (mt held_iff.mp member)]

theorem mem_roles_of_read (read : ofMember uid s = .ok grants) {role : Role} :
    role ∈ grants.roles ↔ s.HoldsRole uid role := by
  rw [stored_sound (mapError_eq_ok_iff.mp read), Store.mem_rolesOf]

end Grants

namespace Access

variable {s : Store} {settings : Settings} {uid host : String} {grants : Grants} {role : Role}

section Read

variable (read : Grants.ofMember uid s = .ok grants)

include read

theorem canAdminister_of_read :
    (canAdminister settings uid role host s).value = true ↔
      role ∈ grants.roles ∧ hostMatches settings grants.hosts host = true := by
  by_cases held : role ∈ grants.roles
  · simp [canAdminister, Grants.hostsIfHeld_of_read read, held]
  · simp [canAdminister, Grants.hostsIfHeld_of_read read, held]

/-- A capability comes from one role, so that the other role does not matter for it. -/
theorem mem_capabilities_of_read {capability : Capability}
    (granted : capability ∈ role.capabilities) :
    capability ∈ (capabilities settings uid host s).value ↔
      role ∈ grants.roles ∧
        (role.requiresHostScope = true → hostMatches settings grants.hosts host = true) := by
  rw [capabilities, read]
  refine mem_usable_iff.trans ⟨?_, fun usable => ⟨role, usable.1, granted, usable.2⟩⟩
  rintro ⟨other, held, also, usable⟩
  exact Role.eq_of_capability also granted ▸ ⟨held, usable⟩

/-- A role that needs a host is usable where it administers. -/
theorem mem_capabilities_iff_canAdminister {capability : Capability}
    (granted : capability ∈ role.capabilities) (hosted : role.requiresHostScope = true) :
    capability ∈ (capabilities settings uid host s).value ↔
      (canAdminister settings uid role host s).value = true := by
  rw [mem_capabilities_of_read read granted, canAdminister_of_read read, forall_prop_of_true hosted]

/-- A role that needs no host is usable wherever it is held. -/
theorem mem_capabilities_iff_holdsRole {capability : Capability}
    (granted : capability ∈ role.capabilities) (hostless : role.requiresHostScope = false) :
    capability ∈ (capabilities settings uid host s).value ↔ s.HoldsRole uid role := by
  rw [mem_capabilities_of_read read granted, Grants.mem_roles_of_read read, hostless]
  exact and_iff_left nofun

end Read

/-- Both checks of a member on a host tell the same of the roles that it holds. -/
structure ChecksAgree (settings : Settings) (uid host : String) (s : Store) : Prop where
  hosted : ∀ capability ∈ Role.demoDayAdmin.capabilities,
    capability ∈ (capabilities settings uid host s).value ↔
      (canAdminister settings uid .demoDayAdmin host s).value = true
  hostless : ∀ capability ∈ Role.directoryAdmin.capabilities,
    capability ∈ (capabilities settings uid host s).value ↔ s.HoldsRole uid .directoryAdmin
  confined : ∀ capability ∈ (capabilities settings uid host s).value,
    ∃ role, s.HoldsRole uid role ∧ capability ∈ role.capabilities
  administered : ∀ role, (canAdminister settings uid role host s).value = true →
    ∀ capability ∈ role.capabilities, capability ∈ (capabilities settings uid host s).value

/-- On every store, whatever its tables and rows: if the grants of a member can be read, its
capabilities and what it administers agree on all hosts and under all settings, and if they cannot
be read it has no capability anywhere. -/
theorem checks_agree (s : Store) (uid : String) :
    (∀ grants, Grants.ofMember uid s = .ok grants →
      ∀ settings host, ChecksAgree settings uid host s) ∧
    ∀ e, Grants.ofMember uid s = .error e →
      ∀ settings host, (capabilities settings uid host s).value = OrderedSet.empty := by
  refine ⟨fun grants read settings host => ?_, fun e unread settings host => ?_⟩
  · constructor
    case hosted => exact fun _ granted => mem_capabilities_iff_canAdminister read granted rfl
    case hostless => exact fun _ granted => mem_capabilities_iff_holdsRole read granted rfl
    case confined =>
      intro capability granted
      obtain ⟨role, held, also, -⟩ := mem_capabilities_sound granted
      exact ⟨role, held, Role.mem_capabilities_iff.mpr also⟩
    case administered =>
      intro role allowed capability granted
      obtain ⟨held, matched⟩ := (canAdminister_of_read read).mp allowed
      exact (mem_capabilities_of_read read granted).mpr ⟨held, fun _ => matched⟩
  · rw [capabilities, unread]

/-- A store in which "ada" holds both roles on every host, and "eve" a role on one host and another
one that is not registered. -/
def divided : Store where
  roles := some (Schema.roleTable
    [⟨none, "ada", "DEMO_DAY_ADMIN", Instant.epoch⟩, ⟨none, "ada", "DIRECTORYADMIN", Instant.epoch⟩,
      ⟨none, "eve", "DEMO_DAY_ADMIN", Instant.epoch⟩, ⟨none, "eve", "ROOT", Instant.epoch⟩])
  scopes := some (Schema.scopeTable
    [⟨none, "ada", "HOST", "*", Instant.epoch⟩, ⟨none, "eve", "HOST", "acme.org", Instant.epoch⟩])

/-- Where the wildcard is not honored "ada" is left with what needs no host. "eve" administers its
host, and has no capability on it, as the read of all its grants fails. -/
theorem checks_agree_divided :
    let settings : Settings := { honorWildcardHost := false }
    (Capability.manageDemoDays ∉ (capabilities settings "ada" "acme.org" divided).value ∧
      Capability.manageTeams ∈ (capabilities settings "ada" "acme.org" divided).value) ∧
    (canAdminister settings "eve" .demoDayAdmin "acme.org" divided).value = true ∧
      (capabilities settings "eve" "acme.org" divided).value = OrderedSet.empty := by
  intro settings
  have read : Grants.ofMember "ada" divided =
      .ok ⟨OrderedSet.ofList [.demoDayAdmin, .directoryAdmin], OrderedSet.ofList ["*"]⟩ := by
    have names : inOrder ["DEMO_DAY_ADMIN", "DIRECTORYADMIN"] =
        ["DEMO_DAY_ADMIN", "DIRECTORYADMIN"] := List.mergeSort_of_pairwise (by decide)
    refine (Grants.ofMember_eq rfl rfl "ada").trans ?_
    change Except.mapError _ (decodeRoles (inOrder ["DEMO_DAY_ADMIN", "DIRECTORYADMIN"]) >>= _) = _
    rw [names]
    rfl
  have unread : Grants.ofMember "eve" divided =
      .error (.database (.row (.unknownRole "ROOT"))) := by
    have names : inOrder ["DEMO_DAY_ADMIN", "ROOT"] = ["DEMO_DAY_ADMIN", "ROOT"] :=
      List.mergeSort_of_pairwise (by decide)
    refine (Grants.ofMember_eq rfl rfl "eve").trans ?_
    change Except.mapError _ (decodeRoles (inOrder ["DEMO_DAY_ADMIN", "ROOT"]) >>= _) = _
    rw [names]
    rfl
  have agree := (checks_agree divided "ada").1 _ read settings "acme.org"
  refine ⟨⟨fun granted => ?_, ?_⟩, rfl, (checks_agree divided "eve").2 _ unread settings "acme.org"⟩
  · have allowed := (agree.hosted .manageDemoDays (by decide)).mp granted
    cases allowed
  · refine (agree.hostless .manageTeams (by decide)).mpr ?_
    exact ⟨⟨none, "ada", "DIRECTORYADMIN", Instant.epoch⟩, by decide, rfl, rfl⟩

end Access

end HostAccess
