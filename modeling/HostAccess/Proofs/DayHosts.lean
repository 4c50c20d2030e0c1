import HostAccess.Proofs.AlikeOutcomes
import HostAccess.Proofs.Integrity

/-! # Hosts of demo days

A check matches its target against the hosts of a member as texts, so a member with the wildcard
would match a target that is the wildcard, even where the wildcard is not honored. Of demo days the
target is the host of a stored row, and that the wildcard is never there is kept by the writes of
demo days alone. The rows of scopes may hold anything. -/
namespace HostAccess

variable {s s' t : Store} {moment : Moment} {uid : String} {settings : Settings}

theorem Host.validateConcrete_eq_ok_iff {host : String} :
    validateConcrete host = .ok () ↔ validate host = .ok () ∧ host ≠ wildcard := by
  unfold validateConcrete
  by_cases wild : host = wildcard <;> simp [wild]

namespace Store

/-- Every demo day is stored with one particular host. -/
def Placed (s : Store) : Prop := ∀ row ∈ s.dayRows, Host.validateConcrete row.host = .ok ()

namespace Placed

theorem fresh : Store.fresh.Placed := by
  rw [fresh_eq]
  exact fun _ present => absurd present List.not_mem_nil

variable (placed : s.Placed)

include placed

theorem announced {row : DayRow} (valid : Host.validateConcrete row.host = .ok ()) :
    (s.announced row).Placed := by
  intro other present
  rcases List.mem_append.mp present with old | new
  · exact placed other old
  · exact List.mem_singleton.mp new ▸ valid

theorem edited {edit : DayRow → DayRow} (id : Uuid) (now : Instant)
    (valid : ∀ row, Host.validateConcrete row.host = .ok () →
      Host.validateConcrete (edit row).host = .ok ()) : (s.edited id edit now).Placed := by
  intro row present
  obtain ⟨old, listed, rfl⟩ := List.mem_map.mp present
  split
  · exact valid old (placed old listed)
  · exact placed old listed

/-- A host is written with a new demo day or moved to, and is looked at in both cases. -/
theorem commit (settled : s.Settled) (commit : s.Commit moment s') : s'.Placed := by
  have migrated := settled.toMigrated
  cases commit with
  | joined | without | granted => exact placed
  | announced new valid named added =>
    obtain ⟨-, rfl⟩ := migrated.add_day_eq_ok_iff.mp added
    exact placed.announced valid
  | moved slug status current found allowed revised =>
    obtain ⟨-, rfl⟩ := migrated.revise_day_eq_ok_iff.mp revised
    exact placed.edited current.id moment.now fun _ valid => valid
  | rehosted slug host current valid found upcoming revised =>
    obtain ⟨-, rfl⟩ := migrated.revise_day_eq_ok_iff.mp revised
    exact placed.edited current.id moment.now fun _ _ => valid

/-- The host under which a demo day is found is not the wildcard. -/
theorem found_ne_wildcard {slug : String} {day : DemoDay} (found : DemoDays.find slug s = .ok day) :
    day.host ≠ Host.wildcard := by
  obtain ⟨row, present, -, hosted⟩ := DemoDays.find_sound found
  exact hosted ▸ (Host.validateConcrete_eq_ok_iff.mp (placed row present)).2

end Placed

theorem covers_iff_of_dishonored (dishonored : settings.honorWildcardHost = false) {host : String} :
    s.Covers settings uid host ↔ s.HasHost uid host := by
  simp [Covers, dishonored]

end Store

theorem Run.finalStore_placed (run : Run) : (Run.finalStore Store.fresh run).Placed :=
  (Run.finalStore_induction (fun settled placed commit => placed.commit settled commit)
    Store.fresh_settled .fresh run).2

/-! ## Two stores with the same demo days -/

namespace Access

/-- Where the wildcard is not honored, only the target itself is looked for. -/
theorem hostMatches_of_dishonored (dishonored : settings.honorWildcardHost = false)
    {hosts others : HostSet} {target : String} (same : target ∈ hosts ↔ target ∈ others) :
    hostMatches settings hosts target = hostMatches settings others target := by
  rw [Bool.eq_iff_iff, hostMatches_iff, hostMatches_iff, same]
  simp [dishonored]

theorem hostsIfHeld_eq_hostsOf {roles : Table RoleRow} {scopes : Table ScopeRow}
    (rolesThere : s.roles = some roles) (scopesThere : s.scopes = some scopes) (role : Role) :
    Grants.hostsIfHeld uid role s =
      .ok (if Grants.holds roles uid role then some (s.hostsOf uid) else none) := by
  rw [Grants.hostsIfHeld, mapError_eq_ok_iff, Store.readRoles_eq_ok_iff.mpr rolesThere, ok_bind,
    Store.readScopes_eq_ok_iff.mpr scopesThere, ok_bind, hostsOf_of_eq scopesThere]
  split <;> rfl

/-- A check of a target is the same on two stores that agree on who has the role and on whether the
member has the target itself. -/
theorem canAdminister_agree (migrated : s.Migrated) (roles : t.roles = s.roles)
    (scopes : t.scopes.isSome = true) (dishonored : settings.honorWildcardHost = false)
    {target : String} (same : t.HasHost uid target ↔ s.HasHost uid target) (role : Role) :
    canAdminister settings uid role target t = canAdminister settings uid role target s := by
  obtain ⟨table, there⟩ := Option.isSome_iff_exists.mp scopes
  have matched : hostMatches settings (t.hostsOf uid) target =
      hostMatches settings (s.hostsOf uid) target := by
    refine hostMatches_of_dishonored dishonored ?_
    rw [Store.mem_hostsOf, Store.mem_hostsOf, same]
  simp only [canAdminister, hostsIfHeld_eq_hostsOf migrated.roles migrated.scopes,
    hostsIfHeld_eq_hostsOf (roles.trans migrated.roles) there]
  cases Grants.holds (Schema.roleTable s.roleRows) uid role
  · rfl
  · simp only [if_true, matched]

/-- The target of a demo day is a stored host, on which stores agree that agree on all hosts but the
wildcard. -/
theorem canAdministerDay_agree (migrated : s.Migrated) (placed : s.Placed) (days : t.days = s.days)
    (roles : t.roles = s.roles) (scopes : t.scopes.isSome = true)
    (dishonored : settings.honorWildcardHost = false)
    (same : ∀ host, host ≠ Host.wildcard → (t.HasHost uid host ↔ s.HasHost uid host))
    (slug : String) :
    canAdministerDay settings uid slug t = canAdministerDay settings uid slug s := by
  unfold canAdministerDay
  rw [DemoDays.find_of_days days]
  cases found : DemoDays.find slug s with
  | error e => rfl
  | ok day =>
    have concrete := placed.found_ne_wildcard found
    exact canAdminister_agree migrated roles scopes dishonored (same day.host concrete) _

end Access

/-- Whatever is written to roles and scopes, no demo day is ever stored with the wildcard or with a
host that is not a valid one. So where the wildcard is not honored a member administers just the
demo days whose own hosts it has, and to give it the wildcard, or to take the wildcard away, changes
no check of a demo day. -/
theorem Run.wildcard_opens_no_day (run : Run) :
    let s := Run.finalStore Store.fresh run
    (∀ row ∈ s.dayRows, Host.validate row.host = .ok () ∧ row.host ≠ "*") ∧
      ∀ settings : Settings, settings.honorWildcardHost = false → ∀ uid,
        (∀ slug, (Access.canAdministerDay settings uid slug s).value = true ↔
          ∃ day, DemoDays.find slug s = .ok day ∧ s.HoldsRole uid .demoDayAdmin ∧
            s.HasHost uid day.host) ∧
        ∀ t : Store, t.days = s.days → t.roles = s.roles → t.scopes.isSome = true →
          (∀ host, host ≠ "*" → (t.HasHost uid host ↔ s.HasHost uid host)) →
          ∀ slug, Access.canAdministerDay settings uid slug t =
            Access.canAdministerDay settings uid slug s := by
  intro s
  have migrated := (Run.finalStore_settled Store.fresh_settled run).toMigrated
  have placed := Run.finalStore_placed run
  refine ⟨fun row present => Host.validateConcrete_eq_ok_iff.mp (placed row present),
    fun settings dishonored uid => ⟨fun slug => ⟨fun allowed => ?_, ?_⟩, ?_⟩⟩
  · obtain ⟨⟨row, -, -, held, -⟩, day, found, covered⟩ := Access.canAdministerDay_sound allowed
    exact ⟨day, found, held, (Store.covers_iff_of_dishonored dishonored).mp covered⟩
  · rintro ⟨day, found, held, has⟩
    rw [Access.canAdministerDay, found]
    exact (Access.canAdminister_iff migrated).mpr
      ⟨held, (Store.covers_iff_of_dishonored dishonored).mpr has⟩
  · intro t days roles scopes same slug
    exact Access.canAdministerDay_agree migrated placed days roles scopes dishonored same slug

/-- A member is given the wildcard past the checks of updates, beside an administrator of the host
that a demo day moves to. -/
def Run.unlocked : Run :=
  let moment : Moment := ⟨Instant.epoch, Uuid.ofNat 1⟩
  [(moment, .createMember ⟨"m-1", "Member", none⟩), (moment, .createMember ⟨"m-2", "Other", none⟩),
    (moment, .createDay ⟨"demo", "Demo", "acme.org"⟩), (moment, .updateHost "demo" "other.org"),
    (moment, .assign {} "m-1" ⟨some ["DEMO_DAY_ADMIN"], some ["acme.org"]⟩),
    (moment, .replaceScopes "m-1" .host (OrderedSet.ofList ["acme.org", "*"])),
    (moment, .assign {} "m-2" ⟨some ["DEMO_DAY_ADMIN"], some ["other.org"]⟩)]

theorem Run.wildcard_opens_no_day_unlocked :
    let s := Run.finalStore Store.fresh unlocked
    let t := Run.finalStore Store.fresh (unlocked ++ [(⟨Instant.epoch, Uuid.ofNat 1⟩,
      .replaceScopes "m-1" .host (OrderedSet.ofList ["acme.org"]))])
    s.HasHost "m-1" "*" ∧ ¬t.HasHost "m-1" "*" ∧
      (Access.canAdministerDay {} "m-1" "demo" s).value = true ∧
      (Access.canAdministerDay ⟨false, true⟩ "m-1" "demo" s).value = false ∧
      (Access.canAdministerDay ⟨false, true⟩ "m-2" "demo" s).value = true ∧
      ∀ slug, Access.canAdministerDay ⟨false, true⟩ "m-1" slug t =
        Access.canAdministerDay ⟨false, true⟩ "m-1" slug s := by
  intro s t
  have hosts : s.hostsOf "m-1" = OrderedSet.ofList ["acme.org", "*"] := by rfl
  have hosts' : t.hostsOf "m-1" = OrderedSet.ofList ["acme.org"] := by rfl
  have same (host : String) (other : host ≠ "*") :
      t.HasHost "m-1" host ↔ s.HasHost "m-1" host := by
    rw [← Store.mem_hostsOf, ← Store.mem_hostsOf, hosts, hosts', OrderedSet.mem_ofList,
      OrderedSet.mem_ofList]
    simp [other]
  obtain ⟨-, checks⟩ := wildcard_opens_no_day unlocked
  obtain ⟨opens, -⟩ := checks ⟨false, true⟩ rfl "m-2"
  refine ⟨?_, ?_, by rfl, by rfl, ?_, (checks ⟨false, true⟩ rfl "m-1").2 t rfl rfl rfl same⟩
  · rw [← Store.mem_hostsOf, hosts, OrderedSet.mem_ofList]
    decide
  · rw [← Store.mem_hostsOf, hosts', OrderedSet.mem_ofList]
    decide
  · refine (opens "demo").mpr ⟨_, by rfl, ?_, ?_⟩
    · exact ⟨⟨none, "m-2", "DEMO_DAY_ADMIN", Instant.epoch⟩, by decide, rfl, rfl⟩
    · exact ⟨⟨none, "m-2", "HOST", "other.org", Instant.epoch⟩, by decide, rfl, rfl, rfl⟩

end HostAccess
