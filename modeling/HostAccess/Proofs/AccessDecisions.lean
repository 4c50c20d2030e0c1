import HostAccess.Proofs.Commits

/-! # Access decisions

A check that says yes says so because of rows that are stored, whatever else is stored and whichever
reads fail: the argument starts from the answer and goes back to the rows. The converse needs a
store in which nothing is in the way of the reads, for which a migrated one is enough. -/
namespace HostAccess.Access

open Store

variable {s : Store} {settings : Settings} {uid host slug : String} {role : Role}

/-- A host matches if it is among the hosts itself, or the wildcard is and is honored. -/
theorem hostMatches_iff {hosts : HostSet} :
    hostMatches settings hosts host = true ↔
      host ∈ hosts ∨ settings.honorWildcardHost = true ∧ Host.wildcard ∈ hosts := by
  simp [hostMatches, OrderedSet.contains]

theorem hostMatches_hostsOf_iff :
    hostMatches settings (s.hostsOf uid) host = true ↔ s.Covers settings uid host := by
  rw [hostMatches_iff, mem_hostsOf, mem_hostsOf, Covers]

/-! ## Administration of a host -/

/-- Nothing that goes wrong on the way ends in a yes. -/
theorem canAdminister_sound (allowed : (canAdminister settings uid role host s).value = true) :
    s.HoldsRole uid role ∧ s.Covers settings uid host := by
  unfold canAdminister at allowed
  -- The read finds hosts, or that the role is not held, or fails. Only hosts can end in a yes.
  split at allowed
  next hosts returned =>
    obtain ⟨held, rfl⟩ := Grants.hostsIfHeld_sound returned
    exact ⟨held, hostMatches_hostsOf_iff.mp allowed⟩
  next => cases allowed
  next => cases allowed

theorem canAdminister_iff (migrated : s.Migrated) :
    (canAdminister settings uid role host s).value = true ↔
      s.HoldsRole uid role ∧ s.Covers settings uid host := by
  refine ⟨canAdminister_sound, fun ⟨held, covered⟩ => ?_⟩
  have read := migrated.hostsIfHeld_read uid role
  rw [if_pos (mem_rolesOf.mpr held)] at read
  simp only [canAdminister, read]
  exact hostMatches_hostsOf_iff.mpr covered

/-! ## Administration of a demo day -/

/-- The slug leads to a stored demo day, and the member administers the host of that day. -/
def AdministersDay (s : Store) (settings : Settings) (uid slug : String) : Prop :=
  ∃ row ∈ s.dayRows, row.slug = slug ∧ s.HoldsRole uid .demoDayAdmin ∧
    s.Covers settings uid row.host

/-- The host that is matched is the one under which the demo day was found. -/
theorem canAdministerDay_sound (allowed : (canAdministerDay settings uid slug s).value = true) :
    AdministersDay s settings uid slug ∧ ∃ day, DemoDays.find slug s = .ok day ∧
      s.Covers settings uid day.host := by
  unfold canAdministerDay at allowed
  split at allowed
  next day found =>
    -- The host that is checked is read off the row that the slug leads to.
    obtain ⟨row, present, named, hosted⟩ := DemoDays.find_sound found
    obtain ⟨held, covered⟩ := canAdminister_sound allowed
    exact ⟨⟨row, present, named, held, hosted ▸ covered⟩, day, found, covered⟩
  next => cases allowed

/-- A demo day whose record id cannot be read is not administered by anyone. -/
theorem canAdministerDay_iff (migrated : s.Migrated)
    (readable : ∀ row ∈ s.dayRows, row.slug = slug → (row.id.bind Uuid.parse?).isSome = true) :
    (canAdministerDay settings uid slug s).value = true ↔ AdministersDay s settings uid slug := by
  refine ⟨fun allowed => (canAdministerDay_sound allowed).1, ?_⟩
  rintro ⟨row, present, rfl, held, covered⟩
  obtain ⟨day, found, hosted⟩ := migrated.find_day present (readable row present rfl)
  simp only [canAdministerDay, found, hosted]
  exact (canAdminister_iff migrated).mpr ⟨held, covered⟩

/-! ## Capabilities -/

/-- A role of the member confers the capability. That of administering demo days counts only on the
hosts that it was given. -/
def Entitles (s : Store) (settings : Settings) (uid host : String) (capability : Capability) :
    Prop :=
  ∃ role : Role, s.HoldsRole uid role ∧ role.Confers capability ∧
    (role = .demoDayAdmin → s.Covers settings uid host)

theorem mem_usable_iff {grants : Grants} {capability : Capability} :
    capability ∈ usable settings grants host ↔ ∃ role ∈ grants.roles,
      capability ∈ role.capabilities ∧
        (role.requiresHostScope = true → hostMatches settings grants.hosts host = true) := by
  simp only [usable, OrderedSet.mem_ofList, List.mem_flatMap, List.mem_filter, OrderedSet.mem_toList,
    Bool.or_eq_true, Bool.not_eq_true']
  refine exists_congr fun role => ?_
  cases role.requiresHostScope <;> simp [and_assoc, and_comm]

theorem mem_usable_stored_iff {capability : Capability} :
    capability ∈ usable settings ⟨s.rolesOf uid, s.hostsOf uid⟩ host ↔
      Entitles s settings uid host capability := by
  simp only [mem_usable_iff, mem_rolesOf, hostMatches_hostsOf_iff, Role.mem_capabilities_iff,
    Role.requiresHostScope_iff, Entitles]

theorem mem_capabilities_sound {capability : Capability}
    (granted : capability ∈ (capabilities settings uid host s).value) :
    Entitles s settings uid host capability := by
  unfold capabilities at granted
  split at granted
  next grants returned =>
    have stored := Grants.stored_sound (mapError_eq_ok_iff.mp returned)
    rw [stored] at granted
    exact mem_usable_stored_iff.mp granted
  -- A read that fails leaves no capability.
  next => exact absurd granted OrderedSet.not_mem_empty

theorem mem_capabilities_iff (migrated : s.Migrated) {capability : Capability} :
    capability ∈ (capabilities settings uid host s).value ↔
      Entitles s settings uid host capability := by
  have read : Grants.ofMember uid s = .ok ⟨s.rolesOf uid, s.hostsOf uid⟩ :=
    mapError_eq_ok_iff.mpr (migrated.stored_grants uid)
  rw [capabilities, read]
  exact mem_usable_stored_iff

/-! ## The three checks -/

/-- Every check answers, on any store at any time. What it allows is allowed by rows, and on a
migrated store it allows all that they do. -/
theorem decisions_exact (s : Store) (moment : Moment) (settings : Settings) (uid : String) :
    (∀ role host, ∃ allowed,
      ((Operation.canAdminister settings uid role host).perform.run moment s).result =
          .ok (.flag allowed) ∧
        (allowed = true → s.HoldsRole uid role ∧ s.Covers settings uid host) ∧
        (s.Migrated → s.HoldsRole uid role ∧ s.Covers settings uid host → allowed = true)) ∧
    (∀ slug, ∃ allowed,
      ((Operation.canAdministerDay settings uid slug).perform.run moment s).result =
          .ok (.flag allowed) ∧
        (allowed = true → AdministersDay s settings uid slug ∧
          ∃ day, DemoDays.find slug s = .ok day ∧ s.Covers settings uid day.host) ∧
        (s.Migrated →
          (∀ row ∈ s.dayRows, row.slug = slug → (row.id.bind Uuid.parse?).isSome = true) →
            AdministersDay s settings uid slug → allowed = true)) ∧
    (∀ host, ∃ granted,
      ((Operation.capabilities settings uid host).perform.run moment s).result =
          .ok (.capabilities granted) ∧
        (∀ capability ∈ granted, Entitles s settings uid host capability) ∧
        (s.Migrated → ∀ capability, Entitles s settings uid host capability →
          capability ∈ granted)) := by
  -- As operations the checks have no error to end with, so an answer is always there.
  refine ⟨fun role host => ?_, fun slug => ?_, fun host => ?_⟩
  · refine ⟨(canAdminister settings uid role host s).value, rfl, canAdminister_sound, ?_⟩
    exact fun migrated => (canAdminister_iff migrated).mpr
  · refine ⟨(canAdministerDay settings uid slug s).value, rfl, canAdministerDay_sound, ?_⟩
    exact fun migrated readable => (canAdministerDay_iff migrated readable).mpr
  · refine ⟨(capabilities settings uid host s).value, rfl, fun _ => mem_capabilities_sound, ?_⟩
    exact fun migrated _ => (mem_capabilities_iff migrated).mpr

end HostAccess.Access
