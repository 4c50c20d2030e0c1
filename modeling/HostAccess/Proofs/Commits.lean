import HostAccess.Proofs.Outcomes

/-! # Commits

All that one operation can do to a migrated store. Reads, checks and refused writes do nothing, so
a property of stores survives whole runs as soon as it survives the six commits below. The
migrations are a case of their own: on a store that records both of them they find nothing to do. -/
namespace HostAccess

/-- One commit, with what was made sure of before it. -/
inductive Store.Commit (moment : Moment) (s : Store) : Store → Prop
  | joined (new : NewMember) (named : new.uid ≠ "") (free : ¬s.IsMember new.uid) :
      Commit moment s (s.joined (new.row moment.now))
  | without (uid : String) (member : s.IsMember uid) : Commit moment s (s.without uid)
  | granted (uid : String) (change : GrantChange) (member : s.IsMember uid)
      (named : ∀ hosts, change.hosts = some hosts → "" ∉ hosts) :
      Commit moment s (s.granted uid change moment.now)
  | announced {s' : Store} (new : NewDemoDay) (valid : Host.validateConcrete new.host = .ok ())
      (named : new.slug ≠ "") (added : DemoDays.add new moment s = .ok s') :
      Commit moment s s'
  | moved {s' : Store} (slug : String) (status : Status) (current : DemoDay)
      (found : DemoDays.find slug s = .ok current) (allowed : current.status.allows status = true)
      (revised : DemoDays.revise current.id ({ · with status := status.name }) moment.now s =
        .ok s') : Commit moment s s'
  | rehosted {s' : Store} (slug host : String) (current : DemoDay)
      (valid : Host.validateConcrete host = .ok ()) (found : DemoDays.find slug s = .ok current)
      (upcoming : current.status = .upcoming)
      (revised : DemoDays.revise current.id ({ · with host := host }) moment.now s = .ok s') :
      Commit moment s s'

theorem keepsKeys_status (status : Status) : KeepsKeys ({ · with status := status.name }) :=
  fun _ => ⟨rfl, rfl⟩

theorem keepsKeys_host (host : String) : KeepsKeys ({ · with host := host }) :=
  fun _ => ⟨rfl, rfl⟩

variable {s : Store} {moment : Moment}

/-! ## What every commit keeps -/

namespace Store.Commit

variable {s' : Store}

theorem migrated (before : s.Migrated) (commit : s.Commit moment s') : s'.Migrated := by
  cases commit with
  | joined new named free => exact before.joined free
  | without uid member => exact before.without uid
  | granted uid change member named => exact before.granted named
  | announced new valid named added =>
    obtain ⟨⟨concrete, free⟩, rfl⟩ := before.add_day_eq_ok_iff.mp added
    refine before.announced (Schema.dayTable_fits_iff.mpr ⟨concrete, .upcoming, rfl⟩) ?_
    intro other present
    obtain ⟨slugs, ids⟩ := free other present
    -- Ids are compared as text, and the text of the new one is on no row.
    exact ⟨slugs, fun id taken same => ids (taken.trans same.symm)⟩
  | moved slug status current found allowed revised =>
    exact before.edited (keepsKeys_status status) revised
  | rehosted slug host current valid found upcoming revised =>
    exact before.edited (keepsKeys_host host) revised

/-- The record of the migrations is no business of the directory. -/
theorem migrations_eq (before : s.Migrated) (commit : s.Commit moment s') :
    s'.migrations = s.migrations := by
  cases commit with
  | joined | without | granted => rfl
  | announced new valid named added =>
    obtain ⟨-, rfl⟩ := before.add_day_eq_ok_iff.mp added
    rfl
  | moved slug status current found allowed revised =>
    obtain ⟨-, rfl⟩ := before.revise_day_eq_ok_iff.mp revised
    rfl
  | rehosted slug host current valid found upcoming revised =>
    obtain ⟨-, rfl⟩ := before.revise_day_eq_ok_iff.mp revised
    rfl

end Store.Commit

/-! ## Every operation commits once or not at all -/

/-- An action leaves the store as it is, or it commits once and has a value to show for it. -/
def Action.Transactional {ε α : Type} (action : Action ε α) (moment : Moment) (s : Store) : Prop :=
  (action.run moment s).store = s ∨
    s.Commit moment (action.run moment s).store ∧ ∃ a, (action.run moment s).result = .ok a

theorem Action.Transactional.map {ε ε' α β : Type} {action : Action ε α}
    (transactional : action.Transactional moment s) (f : ε → ε') (g : α → β) :
    (Action.mapError f (do return g (← action))).Transactional moment s := by
  unfold Action.Transactional
  rw [Action.run_map]
  rcases transactional with same | ⟨commit, a, returned⟩
  · exact Or.inl same
  · exact Or.inr ⟨commit, g a, by rw [returned]; rfl⟩

namespace Store.Migrated

variable (migrated : s.Migrated)

include migrated

theorem create_transactional (new : NewMember) : (Members.create new).Transactional moment s := by
  unfold Action.Transactional
  rw [Members.run_create migrated]
  split
  next => exact Or.inl rfl
  next named =>
    split
    next => exact Or.inl rfl
    -- Past both checks the row is added and read back.
    next free => exact Or.inr ⟨.joined new named (mt present_iff.mpr free), _, rfl⟩

theorem delete_transactional (uid : String) : (Members.delete uid).Transactional moment s := by
  unfold Action.Transactional
  rw [Members.run_delete migrated]
  split
  next => exact Or.inl rfl
  next =>
    split
    next member => exact Or.inr ⟨.without uid (present_iff.mp member), _, rfl⟩
    next => exact Or.inl rfl

theorem commit_of_putGrants {s' : Store} {uid : String} {change : GrantChange}
    (written : s.putGrants uid change moment.now = .ok s') : s.Commit moment s' := by
  obtain ⟨⟨-, member, named⟩, rfl⟩ := migrated.putGrants_eq_ok_iff.mp written
  exact .granted uid change member named

theorem write_transactional (uid : String) (change : GrantChange) :
    (Grants.write uid change).Transactional moment s := by
  unfold Action.Transactional
  rw [Grants.run_write]
  cases written : s.putGrants uid change moment.now with
  | error e => exact Or.inl rfl
  | ok s' => exact Or.inr ⟨migrated.commit_of_putGrants written, _, rfl⟩

theorem apply_transactional (uid : String) (change : GrantChange) :
    (Grants.apply uid change).Transactional moment s := by
  unfold Action.Transactional
  rw [Grants.run_apply]
  split
  next => exact Or.inl rfl
  next =>
    cases written : s.putGrants uid change moment.now with
    | error e => exact Or.inl rfl
    | ok s' => exact Or.inr ⟨migrated.commit_of_putGrants written, _, rfl⟩

theorem update_transactional (settings : Settings) (uid : String) (request : GrantRequest) :
    (Assignment.update settings uid request).Transactional moment s := by
  unfold Action.Transactional
  rw [Assignment.run_update migrated]
  cases planned : Assignment.plan settings request with
  | error e => exact Or.inl rfl
  | ok change =>
    cases demanded : Assignment.demandMember uid s with
    | error e => exact Or.inl rfl
    | ok =>
      dsimp only
      split
      next => exact Or.inl rfl
      next =>
        -- From here on nothing is refused: the plan and the demand were stricter than the tables.
        have written := Assignment.putGrants_planned migrated planned demanded moment.now
        exact Or.inr ⟨migrated.commit_of_putGrants written, _, rfl⟩

theorem createDay_transactional (new : NewDemoDay) :
    (DemoDays.create new).Transactional moment s := by
  unfold Action.Transactional
  rw [DemoDays.run_create migrated]
  cases valid : Host.validateConcrete new.host with
  | error e => exact Or.inl rfl
  | ok =>
    dsimp only
    split
    next => exact Or.inl rfl
    next named =>
      cases DemoDays.demandFree new.slug s with
      | error e => exact Or.inl rfl
      | ok =>
        cases added : DemoDays.add new moment s with
        | error refusal => exact Or.inl rfl
        | ok s' => exact Or.inr ⟨.announced new valid named added, _, rfl⟩

/-- The demo day is read back after its row was written. A row that was edited is understood, as it
was only written because it fits; so the read fails only if there was no row to edit, and then
nothing was written. -/
theorem amend_transactional {id : Uuid} {edit : DayRow → DayRow} (keeps : KeepsKeys edit)
    (commits : ∀ {s'}, DemoDays.revise id edit moment.now s = .ok s' → s.Commit moment s') :
    (DemoDays.amend id edit).Transactional moment s := by
  unfold Action.Transactional
  rw [DemoDays.run_amend]
  cases revised : DemoDays.revise id edit moment.now s with
  | error refusal => exact Or.inl rfl
  | ok s' =>
    have after : s'.Migrated := migrated.edited keeps revised
    have left := (migrated.revise_day_eq_ok_iff.mp revised).2
    -- Whether the read fails is decided by the rows before the edit.
    by_cases present : s.HasDay id
    · have kept : s'.HasDay id := left ▸ (hasDay_edited keeps).mpr present
      obtain ⟨day, read⟩ := after.stored_day_isOk_iff.mpr kept
      refine Or.inr ⟨commits revised, day, ?_⟩
      dsimp only
      rw [read]
      rfl
    · exact Or.inl (left.trans (migrated.edited_absent present edit moment.now))

theorem updateStatus_transactional (slug : String) (status : Status) :
    (DemoDays.updateStatus slug status).Transactional moment s := by
  unfold Action.Transactional
  rw [DemoDays.run_updateStatus]
  cases found : DemoDays.find slug s with
  | error e => exact Or.inl rfl
  | ok current =>
    dsimp only
    split
    next allowed =>
      exact migrated.amend_transactional (keepsKeys_status status)
        fun revised => .moved slug status current found allowed revised
    next => exact Or.inl rfl

theorem updateHost_transactional (slug host : String) :
    (DemoDays.updateHost slug host).Transactional moment s := by
  unfold Action.Transactional
  rw [DemoDays.run_updateHost]
  cases valid : Host.validateConcrete host with
  | error e => exact Or.inl rfl
  | ok =>
    cases found : DemoDays.find slug s with
    | error e => exact Or.inl rfl
    | ok current =>
      dsimp only
      split
      next upcoming =>
        exact migrated.amend_transactional (keepsKeys_host host)
          fun revised => .rehosted slug host current valid found upcoming revised
      next => exact Or.inl rfl

theorem serve_transactional (settings : Settings) (request : Http.Request) :
    (Http.serve settings request).Transactional moment s := by
  -- A request is always answered, even if the answer is a complaint.
  have answered : ∃ response, ((Http.serve settings request).run moment s).result = .ok response := by
    cases ((Http.serve settings request).run moment s).result with
    | error e => exact e.elim
    | ok response => exact ⟨response, rfl⟩
  rcases Http.serve_store settings request moment s with same | ⟨uid, wanted, updated⟩
  · exact Or.inl same
  · rcases migrated.update_transactional settings uid wanted with
      same | ⟨commit, -⟩
    · exact Or.inl (updated.trans same)
    · exact Or.inr ⟨updated ▸ commit, answered⟩

end Store.Migrated

/-- On a migrated store this holds of every operation but the migrations, which are not
transactions. -/
theorem Operation.perform_transactional (migrated : s.Migrated) {operation : Operation}
    (other : operation ≠ .migrate) : operation.perform.Transactional moment s := by
  cases operation with
  | migrate => exact absurd rfl other
  | createMember new => exact (migrated.create_transactional new).map _ _
  | deleteMember uid => exact (migrated.delete_transactional uid).map _ _
  | replaceRoles uid roles =>
    rw [perform, doing, Roles.replace_eq_write]
    exact (migrated.write_transactional uid _).map _ _
  | replaceScopes uid type values =>
    rw [perform, doing, Scopes.replace_eq_write]
    exact (migrated.write_transactional uid _).map _ _
  | applyGrants uid change => exact (migrated.apply_transactional uid change).map _ _
  | assign settings uid request =>
    exact (migrated.update_transactional settings uid request).map _ _
  | createDay new => exact (migrated.createDay_transactional new).map _ _
  | updateStatus slug status => exact (migrated.updateStatus_transactional slug status).map _ _
  | updateHost slug host => exact (migrated.updateHost_transactional slug host).map _ _
  | serve settings request => exact (migrated.serve_transactional settings request).map _ _
  | _ =>
    -- All other operations only look at the store.
    exact Action.Transactional.map (Or.inl rfl) _ _

/-! ## Failures -/

/-- On a migrated store, however its rows got there, an operation that fails changes no row of any
table. -/
theorem Operation.failed_keeps_store (migrated : s.Migrated) {operation : Operation}
    (other : operation ≠ .migrate) {failure : Failure}
    (failed : (operation.perform.run moment s).result = .error failure) :
    (operation.perform.run moment s).store = s := by
  rcases perform_transactional migrated other with same | ⟨-, answer, returned⟩
  · exact same
  -- A commit has a value to show for it, which a failure has not.
  · rw [failed] at returned
    cases returned

/-! ## Stores that record the migrations -/

/-- The record that the migrations leave of themselves. -/
def Schema.appliedMigrations : Table MigrationRow :=
  ⟨migrationFields, migrationIndexes,
    [⟨none, 1, "members_roles_scopes"⟩, ⟨none, 2, "demo_days"⟩]⟩

structure Store.Settled (s : Store) : Prop extends s.Migrated where
  recorded : s.migrations = some Schema.appliedMigrations

theorem Store.Settled.run_migrate (settled : s.Settled) :
    Operation.migrate.perform.run moment s = ⟨.ok .done, s, []⟩ := by
  -- Both versions are recorded, so that no statement of a migration is run.
  have recorded := settled.recorded
  clear settled
  obtain ⟨migrations, members, roles, scopes, days⟩ := s
  cases recorded
  rfl

theorem Store.Settled.perform_transactional (settled : s.Settled) (operation : Operation)
    (moment : Moment) : operation.perform.Transactional moment s := by
  by_cases migration : operation = .migrate
  · left
    rw [migration, settled.run_migrate]
  · exact Operation.perform_transactional settled.toMigrated migration

theorem Store.Settled.commit {s' : Store} (settled : s.Settled) (commit : s.Commit moment s') :
    s'.Settled :=
  { commit.migrated settled.toMigrated with
    recorded := (commit.migrations_eq settled.toMigrated).trans settled.recorded }

/-! ## Runs -/

section Invariants

variable {Holds : Store → Prop}
  (kept : ∀ {s s' : Store} {moment : Moment}, s.Settled → Holds s → s.Commit moment s' → Holds s')

include kept

/-- What every commit keeps is kept by every operation. -/
theorem Store.Settled.perform_keeps (settled : s.Settled) (before : Holds s)
    (operation : Operation) (moment : Moment) :
    (operation.perform.run moment s).store.Settled ∧
      Holds (operation.perform.run moment s).store := by
  rcases settled.perform_transactional operation moment with same | ⟨commit, -⟩
  · rw [same]
    exact ⟨settled, before⟩
  · exact ⟨settled.commit commit, kept settled before commit⟩

/-- What every commit keeps holds at the end of a run if it held at its start. -/
theorem Run.finalStore_induction (settled : s.Settled) (initially : Holds s) (run : Run) :
    (Run.finalStore s run).Settled ∧ Holds (Run.finalStore s run) := by
  induction run generalizing s with
  | nil => exact ⟨settled, initially⟩
  | cons step rest ih =>
    obtain ⟨moment, operation⟩ := step
    obtain ⟨stillSettled, holds⟩ := settled.perform_keeps kept initially operation moment
    exact ih stillSettled holds

end Invariants

theorem Store.Settled.performed (settled : s.Settled) (operation : Operation) (moment : Moment) :
    (operation.perform.run moment s).store.Settled := by
  rcases settled.perform_transactional operation moment with same | ⟨commit, -⟩
  · rw [same]
    exact settled
  · exact settled.commit commit

theorem Run.finalStore_settled (settled : s.Settled) (run : Run) :
    (Run.finalStore s run).Settled := by
  induction run generalizing s with
  | nil => exact settled
  | cons step rest ih => exact ih (settled.performed step.2 step.1)

/-- A run goes on from the store at which an earlier part of it ends. -/
theorem Run.finalStore_append (s : Store) (earlier later : Run) :
    Run.finalStore s (earlier ++ later) = Run.finalStore (Run.finalStore s earlier) later := by
  induction earlier generalizing s with
  | nil => rfl
  | cons step rest ih => exact ih _

/-! ## The fresh store -/

theorem Store.fresh_eq :
    Store.fresh =
      { migrations := some Schema.appliedMigrations
        members := some (Schema.memberTable [])
        roles := some (Schema.roleTable [])
        scopes := some (Schema.scopeTable [])
        days := some (Schema.dayTable []) } := rfl

theorem Store.fresh_settled : Store.fresh.Settled := by
  rw [fresh_eq]
  exact {
    members := rfl
    roles := rfl
    scopes := rfl
    days := rfl
    membersLegal := Table.legal_nil (t := Schema.memberTable [])
    rolesLegal := Table.legal_nil (t := Schema.roleTable [])
    scopesLegal := Table.legal_nil (t := Schema.scopeTable [])
    daysLegal := Table.legal_nil (t := Schema.dayTable [])
    recorded := rfl }

/-! ## A failure after a write -/

/-- A store with a demo day whose record id spells a UUID in a way that is not the canonical one. -/
def Store.misspelt : Store :=
  Store.fresh.announced ⟨some "6BA7B8109DAD11D180B400C04FD430C8", "demo", "Demo", "acme.org",
    Status.upcoming.name, Instant.epoch, Instant.epoch⟩

/-- The demo day is found by its slug, and missed under its id after the statement that edits it. -/
theorem Operation.failed_keeps_misspelt :
    ((updateStatus "demo" .live).perform.run ⟨Instant.epoch, Uuid.ofNat 1⟩ Store.misspelt).result =
        .error (.error (.notFound "demo_day" "6ba7b810-9dad-11d1-80b4-00c04fd430c8")) ∧
      ((updateStatus "demo" .live).perform.run ⟨Instant.epoch, Uuid.ofNat 1⟩ Store.misspelt).store =
        Store.misspelt := by
  have migrated : Store.misspelt.Migrated := by
    refine Store.fresh_settled.toMigrated.announced ?_ fun other present => ?_
    · exact Schema.dayTable_fits_iff.mpr ⟨by decide, .upcoming, rfl⟩
    · exact absurd present List.not_mem_nil
  have failed : ((updateStatus "demo" .live).perform.run ⟨Instant.epoch, Uuid.ofNat 1⟩
      Store.misspelt).result =
        .error (.error (.notFound "demo_day" "6ba7b810-9dad-11d1-80b4-00c04fd430c8")) := rfl
  exact ⟨failed, failed_keeps_store migrated nofun failed⟩

end HostAccess
