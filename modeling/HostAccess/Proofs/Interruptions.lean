import HostAccess.Proofs.MigrationRuns

/-! # Interrupted runs of the migrations

A run may stop after any of its statements, because one of them is refused or because nothing runs
any more, and a script is not a transaction. Between two migrations it can be taken up again: what
has been applied is recorded, and the next run goes on from there. Within a script it cannot. A
script begins by declaring a table, which is then there without a record, and which the next run
declares again. -/
namespace HostAccess

/-! ## Where a run can stop -/

/-- The stores that a script passes through, one after each of its statements. -/
def Store.passes (s : Store) : List Statement → List Store
  | [] => []
  | statement :: rest => s.ensure statement :: (s.ensure statement).passes rest

namespace Migration

/-- The stores that migrations pass through on their way, one after each statement of a script and
one after each record. -/
def stops : List Migration → Store → List Store
  | [], _ => []
  | m :: rest, s =>
    s.passes m.script ++
      match s.runScript m.script with
      | (_, some _) => []
      | (s', none) =>
        match m.addRecord s' with
        | .ok s'' => s'' :: stops rest s''
        | .error _ => []

/-- The stores at which a run can stop, from the one it starts on to the one it leaves behind. -/
def stopsOf (s : Store) : List Store :=
  s :: (s.passes tracking ++
    match currentVersion (prepare s) with
    | .ok version => stops (pending version) (prepare s)
    | .error _ => [])

end Migration

namespace Store

variable {s p : Store}

theorem mem_passes_iff {script : List Statement} :
    p ∈ s.passes script ↔
      ∃ n, 0 < n ∧ n ≤ script.length ∧ p = (script.take n).foldl ensure s := by
  induction script generalizing s with
  | nil =>
    simp only [passes, List.not_mem_nil, List.length_nil, false_iff]
    rintro ⟨n, positive, bound, -⟩
    omega
  | cons statement rest ih =>
    rw [passes, List.mem_cons, ih]
    constructor
    -- The first statement is executed before any of the rest, and counts as one more.
    · rintro (rfl | ⟨n, -, bound, rfl⟩)
      · exact ⟨1, by simp, by simp, rfl⟩
      · exact ⟨n + 1, by simp, by simpa using bound, rfl⟩
    · rintro ⟨n, positive, bound, rfl⟩
      obtain ⟨n, rfl⟩ := Nat.exists_eq_add_of_lt positive
      cases n with
      | zero => exact Or.inl rfl
      | succ n => exact Or.inr ⟨n + 1, by simp, by simpa using bound, by simp⟩

theorem passes_getLast (script : List Statement) :
    (s.passes script).getLast?.getD s = script.foldl ensure s := by
  induction script generalizing s with
  | nil => rfl
  | cons statement rest ih =>
    rw [List.foldl_cons, ← ih, passes, List.getLast?_cons, Option.getD_some]

end Store

namespace Migration

variable {s p : Store} {m : Migration} {ms rest : List Migration} {moment : Moment}

/-- The last of the stores is the one that is left behind, whatever store it begins with. -/
theorem stops_getLast (ms : List Migration) :
    (stops ms s).getLast?.getD s = ((applyAll ms).run moment s).store := by
  induction ms generalizing s with
  | nil => rfl
  | cons m rest ih =>
    rw [stops, applyAll, Action.run_bind, apply, Action.run_bind, Action.run_report,
      Action.run_bind, run_execute]
    cases ran : s.runScript m.script with
    | mk s' refusal =>
      have executed : (s.passes m.script).getLast?.getD s = s' := by
        rw [Store.passes_getLast, ← Store.runScript_store, ran]
      -- A refused script and a refused record end the run where the script has come to.
      cases refusal with
      | some refusal => rw [List.append_nil, executed]
      | none =>
        dsimp only
        rw [Action.run_bind, Action.run_change]
        cases m.addRecord s' with
        | error refusal => rw [List.append_nil, executed]; rfl
        | ok s'' =>
          rw [List.getLast?_append, Option.getD_or, List.getLast?_cons, Option.getD_some, ih]
          rfl

theorem stopsOf_getLast : (stopsOf s).getLast? = some (run.run moment s).store := by
  have prepared : (s.passes tracking).getLast?.getD s = prepare s := Store.passes_getLast tracking
  rw [stopsOf, List.getLast?_cons, run, Action.run_bind, Action.run_change]
  dsimp only
  rw [Action.run_bind, Action.run_read]
  cases currentVersion (prepare s) with
  | error fault => rw [List.append_nil, prepared]
  | ok version =>
    rw [List.getLast?_append, Option.getD_or, prepared, stops_getLast]

/-- Between two migrations, or within the next one. -/
theorem stops_cases (awaits : s.Awaits ms) (stopped : p ∈ stops ms s) :
    ∃ recorded rest t events, ms = recorded ++ rest ∧
      Proceeds recorded s recorded ⟨.ok (), t, events⟩ ∧
      (p = t ∨ ∃ m later n, rest = m :: later ∧ 0 < n ∧ n ≤ m.script.length ∧
        p = (m.script.take n).foldl Store.ensure t) := by
  induction ms generalizing s with
  | nil => exact absurd stopped List.not_mem_nil
  | cons m later ih =>
    rw [stops, List.mem_append] at stopped
    rcases stopped with within | after
    · obtain ⟨n, positive, bound, left⟩ := Store.mem_passes_iff.mp within
      exact ⟨[], m :: later, s, [], rfl, .done, Or.inr ⟨m, later, n, rfl, positive, bound, left⟩⟩
    · cases ran : s.runScript m.script with
      | mk s' refusal =>
        rw [ran] at after
        cases refusal with
        | some refusal => exact absurd after List.not_mem_nil
        | none =>
          have still := awaits.ran ran
          dsimp only at after
          rw [still.tracked.addRecord still.there still.newer, List.mem_cons] at after
          -- The run has stopped at the record, or it has gone on from there.
          rcases after with rfl | further
          · exact ⟨[m], later, _, _, rfl, .applied ran .done, Or.inl rfl⟩
          · obtain ⟨recorded, rest, t, events, rfl, proceeds, stopped⟩ := ih still.recording further
            exact ⟨m :: recorded, rest, t, _, rfl, .applied ran proceeds, stopped⟩

/-- Where some migrations have been applied and recorded the others are waited for, and whether they
are run at once or later, they come out the same. -/
theorem Proceeds.onward {recorded : List Migration} {t : Store} {events : List Event}
    (proceeds : Proceeds recorded s recorded ⟨.ok (), t, events⟩)
    (awaits : s.Awaits (recorded ++ rest)) :
    t.Awaits rest ∧ ∀ moment, (applyAll (recorded ++ rest)).run moment s =
      { (applyAll rest).run moment t with
        events := events ++ ((applyAll rest).run moment t).events } := by
  induction recorded generalizing s events with
  | nil =>
    cases proceeds
    exact ⟨awaits, fun _ => rfl⟩
  | cons m recorded ih =>
    cases proceeds with
    | applied accepted onward =>
      obtain ⟨after, same⟩ := ih onward (awaits.ran accepted).recording
      refine ⟨after, fun moment => ?_⟩
      rw [List.cons_append, applyAll, Action.run_bind, run_apply awaits, accepted]
      dsimp only
      rw [same]
      rfl

/-- A run that stops while it declares the tracking table has declared nothing else, and the next
one declares what is missing of it. -/
theorem prepare_passes (tracked : s.Tracked) :
    ∀ p ∈ s.passes tracking, { p with migrations := s.migrations } = s ∧
      p.migrationRows = s.migrationRows ∧ prepare p = prepare s := by
  obtain ⟨migrations, members, roles, scopes, days⟩ := s
  refine List.forall_mem_cons.mpr ⟨?_, List.forall_mem_cons.mpr ⟨?_, List.forall_mem_cons.mpr ⟨?_,
    List.forall_mem_cons.mpr ⟨?_, List.forall_mem_singleton.mpr ?_⟩⟩⟩⟩
  -- One goal for each of the five statements.
  all_goals
    rcases tracked.migrations_cases with absent | ⟨rows, found⟩
    · cases absent
      exact ⟨rfl, rfl, rfl⟩
    · cases found
      exact ⟨rfl, rfl, rfl⟩

end Migration

/-! ## Stuck stores -/

/-- Every script begins with a table. -/
theorem Migration.all_declare :
    ∀ m ∈ Migration.all, ∃ name script, m.script = .table name :: script := by
  simp only [Migration.all, List.forall_mem_cons]
  exact ⟨⟨_, _, rfl⟩, ⟨_, _, rfl⟩, nofun⟩

namespace Store

variable {s s' : Store} {m : Migration} {rest : List Migration} {moment : Moment}

theorem declare_hasTable {statement : Statement} (declared : s.declare statement = .ok s')
    {name : TableName} (there : s.hasTable name = true) : s'.hasTable name = true := by
  -- A statement that is accepted leaves its own table there, and no other table is touched.
  have left {ρ : Type} {t t' : Option (Table ρ)} (declared : statement.declare t = .ok t') :
      t'.isSome = true := by
    cases statement with
    | table =>
      cases t with
      | none => cases declared; rfl
      | some => cases declared
    | field | index =>
      cases t with
      | none => cases declared
      | some t =>
        simp only [Statement.declare] at declared
        split at declared
        next => cases declared
        next => cases declared; rfl
  unfold declare at declared
  split at declared
  all_goals
    obtain ⟨t, accepted, same⟩ := bind_eq_ok_iff.mp declared
    obtain rfl := pure_eq_ok_iff.mp same
    cases name <;> first | exact there | exact left accepted

theorem ensure_hasTable {name : TableName} (there : s.hasTable name = true)
    (statement : Statement) : (s.ensure statement).hasTable name = true := by
  unfold ensure
  cases declared : s.declare statement with
  | ok s' => exact declare_hasTable declared there
  | error refusal => exact there

theorem foldl_ensure_hasTable {name : TableName} (there : s.hasTable name = true)
    (script : List Statement) : (script.foldl ensure s).hasTable name = true := by
  induction script generalizing s with
  | nil => exact there
  | cons statement rest ih => exact ih (ensure_hasTable there statement)

/-- A table is not declared twice. -/
theorem declare_table {name : TableName} (there : s.hasTable name = true) :
    s.declare (.table name) = .error (.alreadyDeclared name.name) := by
  have refused {ρ : Type} {t : Option (Table ρ)} (there : t.isSome = true) :
      (Statement.table name).declare t = .error (.alreadyDeclared name.name) := by
    obtain ⟨t, rfl⟩ := Option.isSome_iff_exists.mp there
    rfl
  cases name
  all_goals
    simp only [declare, Statement.target, refused there]
    rfl

theorem ensure_table (s : Store) (name : TableName) :
    (s.ensure (.table name)).hasTable name = true := by
  by_cases there : s.hasTable name = true
  · exact ensure_hasTable there _
  · have accepted {ρ : Type} {t : Option (Table ρ)} (absent : ¬t.isSome = true) :
        (Statement.table name).declare t = .ok (some {}) := by
      rw [Option.not_isSome_iff_eq_none.mp absent]
      rfl
    cases name
    all_goals
      simp only [ensure, declare, Statement.target, accepted there]
      rfl

/-- The next migration that a store waits for begins by declaring a table that is there already. -/
structure Stuck (s : Store) (m : Migration) (rest : List Migration) : Prop where
  awaits : s.Awaits (m :: rest)
  declared : ∃ name script, m.script = .table name :: script ∧ s.hasTable name = true

namespace Stuck

variable (stuck : s.Stuck m rest)

include stuck

theorem congr (same : s'.migrations = s.migrations)
    (kept : ∀ name, s.hasTable name = true → s'.hasTable name = true) : s'.Stuck m rest where
  awaits := stuck.awaits.congr same
  declared := by
    obtain ⟨name, script, first, there⟩ := stuck.declared
    exact ⟨name, script, first, kept name there⟩

theorem run_migrations (moment : Moment) :
    ∃ refusal, Migration.run.run moment s = ⟨.error (.script m.version m.name refusal),
      m.script.foldl ensure s, [.migrationStarted m.version m.name]⟩ := by
  obtain ⟨name, script, first, there⟩ := stuck.declared
  refine ⟨.alreadyDeclared name.name, ?_⟩
  -- The other statements are executed all the same, but the first refusal is the answer.
  have ran : s.runScript m.script =
      (m.script.foldl ensure s, some (.alreadyDeclared name.name)) := by
    refine Prod.ext (runScript_store m.script) ?_
    rw [first, runScript, declare_table there]
  rw [Migration.run_of_awaits stuck.awaits, Migration.applyAll, Action.run_bind,
    Migration.run_apply stuck.awaits, ran]

theorem performed (operation : Operation) (moment : Moment) :
    (operation.perform.run moment s).store.Stuck m rest := by
  by_cases migration : operation = .migrate
  · obtain ⟨refusal, refused⟩ := stuck.run_migrations moment
    rw [migration, Operation.perform, Action.run_map, refused]
    -- The script is executed once more, which takes no table away and records nothing.
    refine stuck.congr (foldl_ensure_migrations ?_) fun name there => ?_
    · exact stuck.awaits.ordered.apart m List.mem_cons_self
    · exact foldl_ensure_hasTable there m.script
  · have same := Operation.keepsSchema migration moment s
    exact stuck.congr same.migrations fun name there => (same.hasTable name).trans there

theorem finalStore (later : Run) : (Run.finalStore s later).Stuck m rest := by
  induction later generalizing s with
  | nil => exact stuck
  | cons step later ih => exact ih (stuck.performed step.2 step.1)

end Stuck

/-! ## Between and within migrations -/

/-- From the first store a run has come to the second without leaving a migration unfinished. Either
nothing is declared that was not, except for the tracking table, or the first of the migrations that
the store waited for are applied and recorded. -/
def Between (s p : Store) : Prop :=
  ({ p with migrations := s.migrations } = s ∧ p.migrationRows = s.migrationRows) ∨
    ∃ recorded rest events, Migration.pending s.latestVersion = recorded ++ rest ∧
      Migration.Proceeds recorded s.withTracking recorded ⟨.ok (), p, events⟩

/-- From the first store a run has come to the second by applying and recording the migrations
before this one, and by executing some statements of the script of this one. -/
def Within (s p : Store) (m : Migration) : Prop :=
  ∃ recorded rest t events n, Migration.pending s.latestVersion = recorded ++ m :: rest ∧
    Migration.Proceeds recorded s.withTracking recorded ⟨.ok (), t, events⟩ ∧
    0 < n ∧ n ≤ m.script.length ∧ p = (m.script.take n).foldl ensure t

variable {p : Store}

/-- Where nothing has been recorded, nothing is declared either. -/
theorem Between.same_of_rows (between : s.Between p) (rows : p.migrationRows = s.migrationRows) :
    { p with migrations := s.migrations } = s := by
  rcases between with ⟨same, -⟩ | ⟨recorded, rest, events, waiting, proceeds⟩
  · exact same
  · have ordered := Migration.pending_ordered s.latestVersion
    have apart (m : Migration) (present : m ∈ recorded) :=
      ordered.apart m (waiting ▸ List.mem_append_left rest present)
    have added : s.migrationRows = s.migrationRows ++ recorded.map Migration.row :=
      rows.symm.trans (proceeds.migrationRows apart)
    obtain rfl : recorded = [] := by simpa using added
    cases proceeds
    rfl

theorem Within.stuck (within : s.Within p m) (tracked : s.Tracked) : ∃ rest, p.Stuck m rest := by
  obtain ⟨recorded, rest, t, events, n, waiting, proceeds, positive, -, rfl⟩ := within
  obtain ⟨awaits, -⟩ := proceeds.onward (waiting ▸ tracked.awaits)
  have listed : m ∈ Migration.pending s.latestVersion := by simp [waiting]
  obtain ⟨name, script, first⟩ := Migration.all_declare m (List.mem_filter.mp listed).1
  refine ⟨rest, awaits.congr (foldl_ensure_migrations fun statement present => ?_),
    name, script, first, ?_⟩
  · exact awaits.ordered.apart m List.mem_cons_self statement (List.mem_of_mem_take present)
  -- At least one statement was executed, and the first one declares the table.
  · obtain ⟨n, rfl⟩ := Nat.exists_eq_add_of_lt positive
    rw [first, Nat.zero_add, List.take_succ_cons, List.foldl_cons]
    exact foldl_ensure_hasTable (ensure_table t name) _

end Store

namespace Migration

variable {s p : Store} {moment : Moment}

theorem stopsOf_cases (tracked : s.Tracked) (stopped : p ∈ stopsOf s) (moment : Moment) :
    (s.Between p ∧ (run.run moment p).result = (run.run moment s).result ∧
      (run.run moment p).store = (run.run moment s).store) ∨
    ∃ m, s.Within p m := by
  rw [stopsOf, tracked.prepare, tracked.withTracking.currentVersion rfl, List.mem_cons,
    List.mem_append] at stopped
  rcases stopped with rfl | tracking | further
  · exact Or.inl ⟨Or.inl ⟨rfl, rfl⟩, rfl, rfl⟩
  · obtain ⟨same, rows, prepared⟩ := prepare_passes tracked p tracking
    have again : run.run moment p = run.run moment s := by
      rw [run_prepared, prepared, ← run_prepared]
    exact Or.inl ⟨Or.inl ⟨same, rows⟩, congrArg _ again, congrArg _ again⟩
  · obtain ⟨recorded, rest, t, events, waiting, proceeds, stopped⟩ :=
      stops_cases tracked.awaits further
    rcases stopped with rfl | ⟨m, later, n, rfl, positive, bound, left⟩
    · obtain ⟨awaits, whole⟩ := proceeds.onward (waiting ▸ tracked.awaits)
      rw [run_eq tracked, waiting, whole, run_of_awaits awaits]
      exact Or.inl ⟨Or.inr ⟨recorded, rest, events, waiting, proceeds⟩, rfl, rfl⟩
    · exact Or.inr ⟨m, recorded, later, t, events, n, waiting, proceeds, positive, bound, left⟩

end Migration

/-- A run may stop at any of the stores that it passes through. If it stops between migrations, the
next run ends as it would have ended itself; from an empty store that is the whole schema. If it
stops within a migration, for whichever reason, every later run is refused because of that
migration, which is never recorded, whatever is asked of the directory in the meantime. -/
theorem Migration.run_interrupted {s : Store} (tracked : s.Tracked) (moment : Moment) :
    (stopsOf s).getLast? = some (run.run moment s).store ∧
      (∀ p ∈ stopsOf s,
        (s.Between p ∧ (run.run moment p).result = (run.run moment s).result ∧
          (run.run moment p).store = (run.run moment s).store) ∨
        ∃ m, s.Within p m ∧ ∀ later : Run,
          let q := Run.finalStore p later
          (∀ row ∈ q.migrationRows, row.version < m.version) ∧
            ∃ refusal, (run.run moment q).result = .error (.script m.version m.name refusal)) ∧
      ∀ p ∈ stopsOf Store.empty, (∃ m, Store.empty.Within p m) ∨
        (run.run moment p).result = .ok () ∧ (run.run moment p).store = Store.fresh := by
  refine ⟨stopsOf_getLast, fun p stopped => ?_, fun p stopped => ?_⟩
  · rcases stopsOf_cases tracked stopped moment with between | ⟨m, within⟩
    · exact Or.inl between
    · refine Or.inr ⟨m, within, fun later => ?_⟩
      obtain ⟨rest, stuck⟩ := within.stuck tracked
      have still := stuck.finalStore later
      obtain ⟨refusal, refused⟩ := still.run_migrations moment
      refine ⟨fun row present => ?_, refusal, by rw [refused]⟩
      have below := Store.version_le_latestVersion present
      have newer := still.awaits.newer
      omega
  · rcases stopsOf_cases (.of_none rfl) stopped moment with ⟨-, result, store⟩ | within
    · exact Or.inr ⟨result, store⟩
    · exact Or.inl within

/-- A migrated store that has lost one of its tables and the records of the migrations. -/
def Store.bereft : Store :=
  { Store.fresh with
    members := none
    migrations := some (Schema.migrationTable []) }

theorem Migration.run_interrupted_bereft :
    let moment : Moment := ⟨Instant.epoch, Uuid.ofNat 1⟩
    let p := (run.run moment Store.bereft).store
    Store.bereft.Tracked ∧ ∃ m, Store.bereft.Within p m ∧ ∀ later : Run, ∃ refusal,
      (run.run moment (Run.finalStore p later)).result =
        .error (.script m.version m.name refusal) := by
  intro moment p
  have tracked : Store.bereft.Tracked :=
    .of_rows (Table.legal_nil (t := Schema.migrationTable []))
      (fun _ present => absurd present List.not_mem_nil) rfl
  obtain ⟨last, points, -⟩ := run_interrupted tracked moment
  rcases points p (List.mem_of_getLast? last) with ⟨between, -⟩ | ⟨m, within, refused⟩
  · cases congrArg Store.members (between.same_of_rows rfl)
  · exact ⟨tracked, m, within, fun later => (refused later).2⟩

/-- The table that was lost is declared again, although the script as a whole is refused. -/
theorem Migration.refused_script_leaves_table :
    let moment : Moment := ⟨Instant.epoch, Uuid.ofNat 1⟩
    let p := (run.run moment Store.bereft).store
    p ∈ stopsOf Store.bereft ∧ ¬Store.bereft.Between p ∧
      (run.run moment Store.bereft).result =
        .error (.script 1 "members_roles_scopes" (.alreadyDeclared "member_role")) ∧
      Store.bereft.members = none ∧ p.members = some (Schema.memberTable []) ∧
      p.migrationRows = [] ∧
      ∃ q ∈ stopsOf Store.empty, ¬Store.empty.Between q ∧ (run.run moment q).result =
        .error (.script 1 "members_roles_scopes" (.alreadyDeclared "member")) := by
  intro moment p
  refine ⟨List.mem_of_getLast? stopsOf_getLast, fun between => ?_, rfl, rfl, rfl, rfl, ?_⟩
  · cases congrArg Store.members (between.same_of_rows rfl)
  -- Nothing is refused here: the run only ends after the first statement of the script.
  · let q : Store := { Store.empty.withTracking with members := some {} }
    have stopped : (stopsOf Store.empty)[6]? = some q := rfl
    refine ⟨q, List.mem_of_getElem? stopped, fun between => ?_, rfl⟩
    cases congrArg Store.members (between.same_of_rows rfl)

end HostAccess
