import HostAccess.Proofs.Causes
import HostAccess.Proofs.Roster

/-! # Where hosts come from

A host that a member has at the end of a run it had at the start, or an operation of the run asked
for it. So hosts that were taken away stay away until somebody lists hosts for the member again, and
where all lists are checked no other hosts are ever stored. -/
namespace HostAccess

variable {s : Store} {moment : Moment} {uid who host : String}

/-! ## Origins -/

/-- An operation asks for a member to have a host. -/
def Operation.Supplies (operation : Operation) (uid host : String) : Prop :=
  ∃ change hosts, operation.change? = some (uid, change) ∧ change.hosts = some hosts ∧ host ∈ hosts

namespace Store

theorem hasHost_granted {change : GrantChange} {now : Instant}
    (has : (s.granted uid change now).HasHost who host) :
    s.HasHost who host ∨ who = uid ∧ ∃ hosts, change.hosts = some hosts ∧ host ∈ hosts := by
  rw [← mem_hostsOf, hostsOf_granted] at has
  split at has
  next own =>
    cases replaced : change.hosts with
    | none =>
      rw [replaced, Option.getD_none, mem_hostsOf] at has
      exact Or.inl (own ▸ has)
    | some hosts =>
      rw [replaced, Option.getD_some] at has
      exact Or.inr ⟨own, hosts, rfl, has⟩
  next => exact Or.inl (mem_hostsOf.mp has)

theorem Settled.hasHost_performed (settled : s.Settled) (operation : Operation) (moment : Moment)
    (has : (operation.perform.run moment s).store.HasHost who host) :
    s.HasHost who host ∨ operation.Supplies who host := by
  rcases operation.perform_writes settled moment with same | writes
  · exact Or.inl (same ▸ has)
  generalize (operation.perform.run moment s).store = after at has writes
  cases writes with
  | without uid => exact Or.inl (hasHost_without.mp has).2
  | granted asked =>
    refine (hasHost_granted has).imp_right ?_
    rintro ⟨rfl, hosts, replaced, member⟩
    exact ⟨_, hosts, asked, replaced, member⟩
  -- All other writes leave the table of scopes alone.
  | joined | announced | moved | rehosted => exact Or.inl has

end Store

/-- Every host at the end of a run has been there from the start, or was supplied. -/
theorem Run.hasHost_origin (settled : s.Settled) (run : Run)
    (has : (Run.finalStore s run).HasHost who host) :
    s.HasHost who host ∨ ∃ step ∈ run, step.2.Supplies who host := by
  induction run generalizing s with
  | nil => exact Or.inl has
  | cons step rest ih =>
    obtain ⟨moment, operation⟩ := step
    rcases ih (settled.performed operation moment) has with before | ⟨later, listed, supplied⟩
    · refine (settled.hasHost_performed operation moment before).imp_right fun supplied => ?_
      exact ⟨_, List.mem_cons_self, supplied⟩
    · exact Or.inr ⟨later, List.mem_cons_of_mem _ listed, supplied⟩

/-! ## Operations that supply hosts -/

namespace Operation

/-- An operation that writes grants as it is told to, without looking at hosts. -/
def isUnchecked : Operation → Bool
  | .replaceRoles .. => true
  | .replaceScopes .. => true
  | .applyGrants .. => true
  | _ => false

/-- An operation lists hosts for a member, if only the empty list. -/
def ListsHosts (uid : String) : Operation → Prop
  | .replaceScopes who _ _ => who = uid
  | .applyGrants who change => who = uid ∧ change.hosts.isSome = true
  | operation => ∃ settings request,
      operation.update? = some (settings, uid, request) ∧ request.hosts.isSome = true

/-- Hosts of an update are hosts that it lists, and each of them may be assigned. -/
theorem Supplies.update {operation : Operation} (supplied : operation.Supplies uid host)
    (checked : operation.isUnchecked = false) :
    ∃ settings request, operation.update? = some (settings, uid, request) ∧
      request.hosts.isSome = true ∧ Assignment.assignable settings host = true := by
  obtain ⟨change, hosts, asked, replaced, member⟩ := supplied
  have updated : operation.change? = operation.update?.bind fun update =>
      (Assignment.plan update.1 update.2.2).toOption.bind fun change =>
        some (update.2.1, change) := by
    cases operation with
    | replaceRoles | replaceScopes | applyGrants => cases checked
    | _ => rfl
  rw [updated] at asked
  cases found : operation.update? with
  | none =>
    rw [found] at asked
    cases asked
  | some update =>
    obtain ⟨settings, who, request⟩ := update
    cases planned : Assignment.plan settings request with
    | error e => simp [found, planned, Except.toOption] at asked
    | ok wanted =>
      obtain ⟨rfl, rfl⟩ : who = uid ∧ wanted = change := by
        simpa [found, planned, Except.toOption] using asked
      have wanted := (Assignment.plan_eq_ok_iff.mp planned).2.2
      obtain ⟨named, listed, -⟩ := Assignment.mem_wanted_hosts (wanted ▸ replaced) member
      exact ⟨settings, request, rfl, by rw [listed]; rfl,
        Assignment.plan_hosts_assignable planned replaced member⟩

theorem Supplies.lists {operation : Operation} (supplied : operation.Supplies uid host) :
    operation.ListsHosts uid := by
  by_cases checked : operation.isUnchecked = false
  · obtain ⟨settings, request, updated, listed, -⟩ := supplied.update checked
    cases operation with
    | replaceRoles | replaceScopes | applyGrants => cases checked
    | _ => exact ⟨settings, request, updated, listed⟩
  · obtain ⟨change, hosts, asked, replaced, -⟩ := supplied
    cases operation with
    | replaceRoles who roles =>
      cases asked
      cases replaced
    | replaceScopes who type values =>
      cases asked
      rfl
    | applyGrants who change =>
      cases asked
      exact ⟨rfl, by rw [replaced]; rfl⟩
    | _ => exact absurd rfl checked

end Operation

/-! ## Hosts that were retired -/

/-- A member without hosts, to the table of scopes and to every check that asks for hosts. -/
structure Store.Hostless (s : Store) (uid : String) : Prop where
  scopes : ∀ row ∈ s.scopeRows, row.memberUid = uid → row.scopeType ≠ "HOST"
  hosts : Scopes.hosts uid s = .ok OrderedSet.empty
  administers : ∀ settings role host,
    (Access.canAdminister settings uid role host s).value = false
  administersDay : ∀ settings slug, (Access.canAdministerDay settings uid slug s).value = false

theorem Store.hostless_of_none (migrated : s.Migrated) (none : ∀ host, ¬s.HasHost uid host) :
    s.Hostless uid := by
  have uncovered (settings : Settings) (host : String) : ¬s.Covers settings uid host := by
    rintro (own | ⟨-, wild⟩)
    · exact none _ own
    · exact none _ wild
  refine ⟨fun row present owner typed => ?_, ?_, fun settings role host => ?_,
    fun settings slug => ?_⟩
  · exact none _ ⟨row, present, owner, typed, rfl⟩
  · rw [migrated.hosts_read]
    refine congrArg Except.ok (OrderedSet.ext fun host => iff_of_false ?_ OrderedSet.not_mem_empty)
    exact mt mem_hostsOf.mp (none host)
  · rw [← Bool.not_eq_true]
    exact fun allowed => uncovered _ _ (Access.canAdminister_sound allowed).2
  · rw [← Bool.not_eq_true]
    intro allowed
    obtain ⟨row, -, -, -, covered⟩ := (Access.canAdministerDay_sound allowed).1
    exact uncovered _ _ covered

/-- Roles that are assigned without the administration of demo days, and without a word on hosts,
leave the member no host. -/
theorem Store.Settled.retires (settled : s.Settled) {settings : Settings} {names : List String}
    (dropped : Role.demoDayAdmin.name ∉ names)
    (updated : ((Operation.assign settings uid ⟨some names, none⟩).perform.run moment s).result =
      .ok .done) :
    ∀ host, ¬((Operation.assign settings uid ⟨some names, none⟩).perform.run moment s).store.HasHost
      uid host := by
  intro host has
  rw [Operation.perform, Operation.doing] at updated has
  rw [Operation.answering_store] at has
  obtain ⟨_, returned, -⟩ := Operation.answering_eq_ok_iff.mp updated
  obtain ⟨change, planned, -, left⟩ := Assignment.updated settled.toMigrated returned
  obtain ⟨-, -, rfl⟩ := Assignment.plan_eq_ok_iff.mp planned
  -- The plan replaces the hosts by none, so that it is not empty itself.
  have cleared : (Assignment.wanted ⟨some names, none⟩).hosts = some OrderedSet.empty :=
    if_neg (mt GrantRequest.demoDayAdmin_mem_iff.mp dropped)
  have written : (Assignment.wanted ⟨some names, none⟩).isEmpty ≠ true := Bool.false_ne_true
  rw [left, if_neg written, ← Store.mem_hostsOf, Store.hostsOf_granted, if_pos rfl,
    cleared] at has
  exact OrderedSet.not_mem_empty has

/-- Once a member has lost its hosts together with the administration of demo days, it has none and
passes no check until hosts are listed for it again; that it gets the role back, or is deleted and
created anew, gives it no host. -/
theorem Run.retired_hosts_stay_away (settled : s.Settled) (earlier later : Run) (moment : Moment)
    (settings : Settings) (uid : String) (names : List String)
    (dropped : Role.demoDayAdmin.name ∉ names)
    (updated : ((Operation.assign settings uid ⟨some names, none⟩).perform.run moment
      (Run.finalStore s earlier)).result = .ok .done)
    (silent : ∀ step ∈ later, ¬step.2.ListsHosts uid) :
    (Run.finalStore s (earlier ++ (moment, .assign settings uid ⟨some names, none⟩) :: later)).Hostless
      uid := by
  have before := Run.finalStore_settled settled earlier
  have after := before.performed (.assign settings uid ⟨some names, none⟩) moment
  rw [Run.finalStore_append]
  refine Store.hostless_of_none (Run.finalStore_settled after later).toMigrated fun host has => ?_
  -- A host at the end would have been left by the update, or listed after it.
  rcases Run.hasHost_origin after later has with left | ⟨step, listed, supplied⟩
  · exact before.retires dropped updated host left
  · exact silent step listed supplied.lists

/-- A member gets a host, loses it with the role, is deleted and created anew, and is given the
role back. -/
def Run.retirement : Run × (Moment × Operation) × Run :=
  let moment : Moment := ⟨Instant.epoch, Uuid.ofNat 1⟩
  ([(moment, .createMember ⟨"m-1", "Member", none⟩),
      (moment, .createDay ⟨"demo", "Demo", "acme.org"⟩),
      (moment, .assign {} "m-1" ⟨some ["DEMO_DAY_ADMIN"], some ["acme.org"]⟩)],
    (moment, .assign {} "m-1" ⟨some ["DIRECTORYADMIN"], none⟩),
    [(moment, .deleteMember "m-1"), (moment, .createMember ⟨"m-1", "Member", none⟩),
      (moment, .assign {} "m-1" ⟨some ["DEMO_DAY_ADMIN"], none⟩)])

theorem Run.retired_hosts_stay_away_retirement :
    let (earlier, step, later) := retirement
    (Access.canAdministerDay {} "m-1" "demo" (Run.finalStore Store.fresh earlier)).value = true ∧
      (Run.finalStore Store.fresh (earlier ++ step :: later)).HoldsRole "m-1" .demoDayAdmin ∧
      (Run.finalStore Store.fresh (earlier ++ step :: later)).Hostless "m-1" := by
  refine ⟨by rfl, ?_, ?_⟩
  · exact ⟨⟨none, "m-1", "DEMO_DAY_ADMIN", Instant.epoch⟩, by decide, rfl, rfl⟩
  · refine retired_hosts_stay_away Store.fresh_settled _ _ _ _ _ _ (by decide) (by rfl) ?_
    simp [Operation.ListsHosts, Operation.update?]

/-! ## Hosts that were checked -/

namespace Access

theorem hostMatches_settings {hosts : HostSet} (tame : Host.wildcard ∉ hosts)
    (settings other : Settings) (host : String) :
    hostMatches settings hosts host = hostMatches other hosts host := by
  simp [hostMatches, OrderedSet.contains, tame]

/-- To a member without the wildcard it is all the same whether the wildcard is honored. -/
theorem canAdminister_settings (tame : ¬s.HasHost uid Host.wildcard) (settings other : Settings)
    (role : Role) (host : String) :
    canAdminister settings uid role host s = canAdminister other uid role host s := by
  unfold canAdminister
  cases read : Grants.hostsIfHeld uid role s with
  | error e => rfl
  | ok found =>
    cases found with
    | none => rfl
    | some hosts =>
      obtain ⟨-, rfl⟩ := Grants.hostsIfHeld_sound read
      simp only [hostMatches_settings (mt Store.mem_hostsOf.mp tame) settings other]

theorem canAdministerDay_settings (tame : ¬s.HasHost uid Host.wildcard) (settings other : Settings)
    (slug : String) :
    canAdministerDay settings uid slug s = canAdministerDay other uid slug s := by
  unfold canAdministerDay
  cases DemoDays.find slug s with
  | error e => rfl
  | ok day => exact canAdminister_settings tame settings other .demoDayAdmin day.host

theorem capabilities_settings (tame : ¬s.HasHost uid Host.wildcard) (settings other : Settings)
    (host : String) : capabilities settings uid host s = capabilities other uid host s := by
  unfold capabilities
  cases read : Grants.ofMember uid s with
  | error e => rfl
  | ok grants =>
    have stored := Grants.stored_sound (mapError_eq_ok_iff.mp read)
    subst stored
    simp only [usable, hostMatches_settings (mt Store.mem_hostsOf.mp tame) settings other]

end Access

namespace Assignment

theorem validate_of_assignable {settings : Settings}
    (allowed : assignable settings host = true) : Host.validate host = .ok () :=
  if_pos (Bool.and_eq_true_iff.mp allowed).1

theorem ne_wildcard_of_assignable {settings : Settings}
    (forbidden : settings.allowWildcardAssignment = false)
    (allowed : assignable settings host = true) : host ≠ Host.wildcard := by
  rintro rfl
  simp [assignable, forbidden] at allowed

end Assignment

/-- An operation that is no update, or one whose settings do not let the wildcard be assigned. -/
def Operation.ForbidsWildcard (operation : Operation) : Prop :=
  ∀ settings uid request, operation.update? = some (settings, uid, request) →
    settings.allowWildcardAssignment = false

/-- Where grants are written by updates alone, every stored host is a valid one. Where these updates
may not assign the wildcard it is not stored either, and whether it is honored makes no difference
to any check. -/
theorem Run.checked_hosts (run : Run) (checked : ∀ step ∈ run, step.2.isUnchecked = false) :
    let s := Run.finalStore Store.fresh run
    (∀ row ∈ s.scopeRows, Host.validate row.scopeValue = .ok ()) ∧
      ((∀ step ∈ run, step.2.ForbidsWildcard) →
        (∀ row ∈ s.scopeRows, row.scopeValue ≠ "*") ∧
        ∀ settings other uid,
          (∀ role host, Access.canAdminister settings uid role host s =
            Access.canAdminister other uid role host s) ∧
          (∀ slug, Access.canAdministerDay settings uid slug s =
            Access.canAdministerDay other uid slug s) ∧
          ∀ host, Access.capabilities settings uid host s =
            Access.capabilities other uid host s) := by
  intro s
  have migrated := (Run.finalStore_settled Store.fresh_settled run).toMigrated
  -- The fresh store has no hosts, so that all of them come from updates.
  have origin {who host : String} (has : s.HasHost who host) :
      ∃ step ∈ run, ∃ settings request, step.2.update? = some (settings, who, request) ∧
        Assignment.assignable settings host = true := by
    rcases Run.hasHost_origin Store.fresh_settled run has with
      ⟨row, present, -⟩ | ⟨step, listed, given⟩
    · exact absurd present List.not_mem_nil
    · obtain ⟨settings, request, updated, -, allowed⟩ := given.update (checked step listed)
      exact ⟨step, listed, settings, request, updated, allowed⟩
  have stored (row : ScopeRow) (present : row ∈ s.scopeRows) :
      s.HasHost row.memberUid row.scopeValue :=
    ⟨row, present, rfl, (migrated.scope_wellFormed present).1, rfl⟩
  refine ⟨fun row present => ?_, fun forbidden => ?_⟩
  · obtain ⟨-, -, settings, -, -, allowed⟩ := origin (stored row present)
    exact Assignment.validate_of_assignable allowed
  · have tame (who : String) : ¬s.HasHost who Host.wildcard := by
      intro has
      obtain ⟨step, listed, settings, request, updated, allowed⟩ := origin has
      exact Assignment.ne_wildcard_of_assignable (forbidden step listed _ _ _ updated) allowed rfl
    refine ⟨fun row present wild => ?_, fun settings other uid => ⟨?_, ?_, ?_⟩⟩
    · have has := stored row present
      rw [wild] at has
      exact tame row.memberUid has
    · exact Access.canAdminister_settings (tame uid) settings other
    · exact Access.canAdministerDay_settings (tame uid) settings other
    · exact Access.capabilities_settings (tame uid) settings other

/-- Updates that may not assign the wildcard, one of which tries to. -/
def Run.guarded : Run :=
  let moment : Moment := ⟨Instant.epoch, Uuid.ofNat 1⟩
  let settings : Settings := { allowWildcardAssignment := false }
  [(moment, .createMember ⟨"m-1", "Member", none⟩),
    (moment, .assign settings "m-1" ⟨some ["DEMO_DAY_ADMIN"], some ["acme.org"]⟩),
    (moment, .assign settings "m-1" ⟨none, some ["acme.org", "*"]⟩)]

theorem Run.checked_hosts_guarded :
    let s := Run.finalStore Store.fresh guarded
    s.HasHost "m-1" "acme.org" ∧
      (∀ row ∈ s.scopeRows, Host.validate row.scopeValue = .ok ()) ∧
      (∀ row ∈ s.scopeRows, row.scopeValue ≠ "*") ∧
      ∀ settings other role host, Access.canAdminister settings "m-1" role host s =
        Access.canAdminister other "m-1" role host s := by
  have forbidden : ∀ step ∈ guarded, step.2.ForbidsWildcard := by
    simp [guarded, Operation.ForbidsWildcard, Operation.update?]
  obtain ⟨valid, tame⟩ := checked_hosts guarded (by decide)
  obtain ⟨noWildcard, checks⟩ := tame forbidden
  refine ⟨⟨⟨none, "m-1", "HOST", "acme.org", Instant.epoch⟩, by decide, rfl, rfl, rfl⟩, valid,
    noWildcard, fun settings other => (checks settings other "m-1").1⟩

end HostAccess
