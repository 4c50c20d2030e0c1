import HostAccess.Proofs.Commits
import HostAccess.Proofs.Frames
import HostAccess.Store.Maintenance

/-! # Runs of the migrations

A run decides from one number, the greatest version that is recorded, and then writes scripts and
records in turns. What it comes to is told here by a relation that knows neither the number nor the
runner: migrations proceed one after the other, each recorded directly after its script, up to the
first whose script is refused. Nothing is assumed of the tables of the directory, any of which may
be missing or declared in some other way. -/
namespace HostAccess

/-! ## Records -/

namespace Schema

/-- The tracking table with these records. -/
def migrationTable (rows : List MigrationRow) : Table MigrationRow :=
  ⟨migrationFields, migrationIndexes, rows⟩

theorem migrationTable_fits (rows : List MigrationRow) (row : MigrationRow) :
    (migrationTable rows).Fits row := by
  simp [Table.Fits, migrationTable, migrationFields, Table.meets]

theorem migrationTable_apart_iff {rows : List MigrationRow} {a b : MigrationRow} :
    (migrationTable rows).Apart a b ↔
      a.version ≠ b.version ∧ ∀ id, a.id = some id → b.id ≠ some id := by
  have key : Table.sameKey ⟨"idx_migration_version", ["version"], true⟩ a b = false ↔
      a.version ≠ b.version := by
    rw [← Bool.not_eq_true, Table.sameKey_iff]
    simp [Row.cell]
  rw [← key]
  simp [Table.Apart, migrationTable, migrationIndexes, Row.id]

end Schema

/-- The record of a migration. -/
def Migration.row (m : Migration) : MigrationRow := { version := m.version, name := m.name }

namespace Store

/-- The records of migrations, of which a store without the tracking table has none. -/
def migrationRows (s : Store) : List MigrationRow := s.migrations.elim [] Table.rows

/-- The greatest recorded version, or zero. -/
def latestVersion (s : Store) : Nat :=
  (s.migrationRows.map fun row => row.version.toNat).foldr max 0

/-- A store with the tracking table and the records that it has, and otherwise as it is. -/
def withTracking (s : Store) : Store :=
  { s with migrations := some (Schema.migrationTable s.migrationRows) }

/-- A store with one more record. -/
def recording (s : Store) (m : Migration) : Store :=
  { s with migrations := some (Schema.migrationTable (s.migrationRows ++ [m.row])) }

/-- The tracking table, if it is there, is the one that runs declare, and its records can be read
back. Which versions are recorded is left open, and so is everything about the other tables. Every
store that comes about is like this, whatever records and tables it loses (`Reached.tracked`). -/
structure Tracked (s : Store) : Prop where
  declared : ∀ t, s.migrations = some t → t = Schema.migrationTable t.rows
  legal : (Schema.migrationTable s.migrationRows).Legal
  readable : ∀ row ∈ s.migrationRows, 0 ≤ row.version ∧ row.version ≤ Migration.maxVersion

variable {s s' : Store} {m : Migration}

theorem latestVersion_le_iff {n : Nat} :
    s.latestVersion ≤ n ↔ ∀ row ∈ s.migrationRows, row.version ≤ n := by
  unfold latestVersion
  induction s.migrationRows with
  | nil => simp
  | cons row rest ih =>
    simp only [List.map_cons, List.foldr_cons, List.forall_mem_cons, ← ih]
    omega

theorem version_le_latestVersion {row : MigrationRow} (present : row ∈ s.migrationRows) :
    row.version ≤ s.latestVersion :=
  latestVersion_le_iff.mp (Nat.le_refl _) row present

theorem migrationRows_congr (same : s'.migrations = s.migrations) :
    s'.migrationRows = s.migrationRows := by
  rw [migrationRows, same, migrationRows]

theorem latestVersion_congr (same : s'.migrations = s.migrations) :
    s'.latestVersion = s.latestVersion := by
  rw [latestVersion, migrationRows_congr same, latestVersion]

theorem latestVersion_recording (newer : s.latestVersion < m.version) :
    (s.recording m).latestVersion = m.version := by
  refine Nat.le_antisymm (latestVersion_le_iff.mpr fun row present => ?_) ?_
  · rcases List.mem_append.mp present with old | new
    · have below := version_le_latestVersion old
      omega
    · rw [List.mem_singleton.mp new]
      exact Int.le_refl _
  · have own : m.row ∈ (s.recording m).migrationRows := List.mem_append_right _ List.mem_cons_self
    have below := version_le_latestVersion own
    simp only [Migration.row] at below
    omega

/-- A version above all that are recorded is recorded beside them. -/
theorem apart_row (newer : s.latestVersion < m.version) :
    ∀ other ∈ s.migrationRows, (Schema.migrationTable s.migrationRows).Apart other m.row := by
  intro other present
  have below := version_le_latestVersion present
  refine Schema.migrationTable_apart_iff.mpr ⟨?_, fun _ _ => nofun⟩
  simp only [Migration.row]
  omega

namespace Tracked

/-- Records are added and taken away, and the tracking table with them. -/
theorem of_rows {rows : List MigrationRow} (legal : (Schema.migrationTable rows).Legal)
    (readable : ∀ row ∈ rows, 0 ≤ row.version ∧ row.version ≤ Migration.maxVersion)
    (left : s.migrations = some (Schema.migrationTable rows)) : s.Tracked where
  declared t found := by
    obtain rfl := Option.some.inj (left.symm.trans found)
    rfl
  legal := by
    rw [migrationRows, left]
    exact legal
  readable := by
    rw [migrationRows, left]
    exact readable

theorem of_none (absent : s.migrations = none) : s.Tracked where
  declared t found := by rw [absent] at found; cases found
  legal := by
    rw [migrationRows, absent]
    exact Table.legal_nil (t := Schema.migrationTable [])
  readable := by simp [migrationRows, absent]

variable (tracked : s.Tracked)

include tracked

theorem congr (same : s'.migrations = s.migrations) : s'.Tracked where
  declared t found := tracked.declared t (same ▸ found)
  legal := by
    rw [migrationRows_congr same]
    exact tracked.legal
  readable := by
    rw [migrationRows_congr same]
    exact tracked.readable

theorem migrations_cases :
    s.migrations = none ∨ ∃ rows, s.migrations = some (Schema.migrationTable rows) := by
  cases found : s.migrations with
  | none => exact Or.inl rfl
  | some t => exact Or.inr ⟨t.rows, congrArg some (tracked.declared t found)⟩

theorem migrations_eq (there : s.migrations.isSome = true) :
    s.migrations = some (Schema.migrationTable s.migrationRows) := by
  obtain ⟨t, found⟩ := Option.isSome_iff_exists.mp there
  rw [migrationRows, found, Option.elim_some, ← tracked.declared t found]

theorem withTracking_of_some (there : s.migrations.isSome = true) : s.withTracking = s := by
  rw [withTracking, ← tracked.migrations_eq there]

theorem withTracking : s.withTracking.Tracked := .of_rows tracked.legal tracked.readable rfl

theorem recording (newer : s.latestVersion < m.version) (small : m.version ≤ Migration.maxVersion) :
    (s.recording m).Tracked := by
  refine .of_rows ?_ ?_ rfl
  · exact (Table.legal_concat_iff (t := Schema.migrationTable []) tracked.legal).mpr
      ⟨Schema.migrationTable_fits _ _, apart_row newer⟩
  · intro row present
    rcases List.mem_append.mp present with old | new
    · exact tracked.readable row old
    · rw [List.mem_singleton.mp new]
      simp only [Migration.row]
      omega

theorem addRecord (there : s.migrations.isSome = true) (newer : s.latestVersion < m.version) :
    m.addRecord s = .ok (s.recording m) := by
  have accepted : (Schema.migrationTable s.migrationRows).insert m.row =
      .ok (Schema.migrationTable (s.migrationRows ++ [m.row])) :=
    Table.insert_eq_ok_iff.mpr ⟨⟨Schema.migrationTable_fits _ _, apart_row newer⟩, rfl⟩
  unfold Migration.addRecord
  rw [Store.migrationTable, tracked.migrations_eq there, present, ok_bind]
  exact bind_eq_ok_iff.mpr ⟨_, accepted, rfl⟩

/-- A tracking table that is there is left as it is, and one that is missing is declared. -/
theorem prepare : Migration.prepare s = s.withTracking := by
  obtain ⟨migrations, members, roles, scopes, days⟩ := s
  rcases tracked.migrations_cases with absent | ⟨rows, found⟩
  · cases absent
    rfl
  · cases found
    rfl

theorem currentVersion (there : s.migrations.isSome = true) :
    Migration.currentVersion s = .ok s.latestVersion := by
  unfold Migration.currentVersion
  rw [Store.migrationTable, tracked.migrations_eq there, present]
  dsimp only [Schema.migrationTable]
  cases greatest : (s.migrationRows.map MigrationRow.version).max? with
  | none =>
    have empty : s.migrationRows = [] := by simpa using greatest
    simp [latestVersion, empty]
  | some version =>
    obtain ⟨listed, greatest⟩ := List.max?_eq_some_iff.mp greatest
    obtain ⟨row, present, rfl⟩ := List.mem_map.mp listed
    have readable := tracked.readable row present
    have atMost : s.latestVersion ≤ row.version.toNat := by
      refine latestVersion_le_iff.mpr fun other listed => ?_
      have below := greatest other.version (List.mem_map_of_mem listed)
      omega
    have atLeast := version_le_latestVersion present
    dsimp only
    rw [if_pos readable]
    congr 1
    omega

end Tracked

/-! ## Scripts -/

/-- A script leaves what those of its statements leave that are accepted. -/
theorem runScript_store (script : List Statement) :
    (s.runScript script).1 = script.foldl ensure s := by
  induction script generalizing s with
  | nil => rfl
  | cons statement rest ih =>
    rw [List.foldl_cons, ← ih, runScript, ensure]
    cases s.declare statement <;> rfl

theorem ensure_migrations {statement : Statement} (other : statement.target ≠ .migration) :
    (s.ensure statement).migrations = s.migrations := by
  unfold ensure declare
  split
  next tracking => exact absurd tracking other
  next => cases statement.declare s.members <;> rfl
  next => cases statement.declare s.roles <;> rfl
  next => cases statement.declare s.scopes <;> rfl
  next => cases statement.declare s.days <;> rfl

theorem foldl_ensure_migrations {script : List Statement}
    (others : ∀ statement ∈ script, statement.target ≠ .migration) :
    (script.foldl ensure s).migrations = s.migrations := by
  induction script generalizing s with
  | nil => rfl
  | cons statement rest ih =>
    obtain ⟨other, others⟩ := List.forall_mem_cons.mp others
    rw [List.foldl_cons, ih others, ensure_migrations other]

theorem runScript_migrations {script : List Statement} {refusal : Option Refusal}
    (others : ∀ statement ∈ script, statement.target ≠ .migration)
    (ran : s.runScript script = (s', refusal)) : s'.migrations = s.migrations := by
  have left : s' = script.foldl ensure s := by rw [← runScript_store, ran]
  rw [left, foldl_ensure_migrations others]

end Store

namespace Migration

variable {s s' : Store} {m : Migration} {rest : List Migration} {version : Nat} {moment : Moment}

/-- Migrations that follow each other: numbered upwards, within what can be read back, and without
statements on the tracking table. -/
structure Ordered (ms : List Migration) : Prop where
  ascending : ms.Pairwise (·.version < ·.version)
  readable : ∀ m ∈ ms, m.version ≤ maxVersion
  apart : ∀ m ∈ ms, ∀ statement ∈ m.script, statement.target ≠ .migration

theorem all_ordered : Ordered all where
  ascending := by decide
  readable := by decide
  apart := by decide

theorem pending_ordered (version : Nat) : Ordered (pending version) where
  ascending := all_ordered.ascending.sublist List.filter_sublist
  readable m present := all_ordered.readable m (List.mem_filter.mp present).1
  apart m present := all_ordered.apart m (List.mem_filter.mp present).1

theorem lt_of_pending (waiting : pending version = m :: rest) : version < m.version := by
  have present : m ∈ pending version := waiting ▸ List.mem_cons_self
  exact of_decide_eq_true (List.mem_filter.mp present).2

/-- Once the first of them is recorded the others are still to come. -/
theorem pending_of_cons (waiting : pending version = m :: rest) : pending m.version = rest := by
  have ordered := waiting ▸ pending_ordered version
  have newer := lt_of_pending waiting
  calc
    pending m.version = (pending version).filter (m.version < ·.version) := by
      rw [pending, pending, List.filter_filter]
      refine List.filter_congr fun next _ => ?_
      rw [← Bool.decide_and]
      exact decide_eq_decide.mpr (by omega)
    _ = rest := by
      rw [waiting, List.filter_cons_of_neg (by simp)]
      refine List.filter_eq_self.mpr fun next present => decide_eq_true ?_
      exact (List.pairwise_cons.mp ordered.ascending).1 next present

theorem mem_pending_iff :
    m ∈ pending s.latestVersion ↔ m ∈ all ∧ ∀ row ∈ s.migrationRows, row.version < m.version := by
  have positive : ∀ m ∈ all, 0 < m.version := by decide
  rw [pending, List.mem_filter, decide_eq_true_eq]
  refine and_congr_right fun listed => ?_
  have positive := positive m listed
  rw [Nat.lt_iff_le_pred positive, Store.latestVersion_le_iff]
  refine forall₂_congr fun row _ => ?_
  omega

end Migration

/-! ## What a store waits for -/

/-- A store with the tracking table, and the migrations that are numbered above its records. -/
structure Store.Awaits (s : Store) (ms : List Migration) : Prop where
  tracked : s.Tracked
  there : s.migrations.isSome = true
  waiting : Migration.pending s.latestVersion = ms

theorem Store.Tracked.awaits {s : Store} (tracked : s.Tracked) :
    s.withTracking.Awaits (Migration.pending s.latestVersion) := ⟨tracked.withTracking, rfl, rfl⟩

namespace Store.Awaits

variable {s s' : Store} {m : Migration} {ms rest : List Migration}

theorem congr (awaits : s.Awaits ms) (same : s'.migrations = s.migrations) : s'.Awaits ms where
  tracked := awaits.tracked.congr same
  there := same ▸ awaits.there
  waiting := latestVersion_congr same ▸ awaits.waiting

theorem ordered (awaits : s.Awaits ms) : Migration.Ordered ms :=
  awaits.waiting ▸ Migration.pending_ordered _

variable (awaits : s.Awaits (m :: rest))

include awaits

theorem newer : s.latestVersion < m.version := Migration.lt_of_pending awaits.waiting

theorem recording : (s.recording m).Awaits rest where
  tracked := awaits.tracked.recording awaits.newer (awaits.ordered.readable m List.mem_cons_self)
  there := rfl
  waiting := by
    rw [latestVersion_recording awaits.newer]
    exact Migration.pending_of_cons awaits.waiting

/-- A script leaves the records alone, so that afterwards the same migrations are waited for. -/
theorem ran {refusal : Option Refusal} (ran : s.runScript m.script = (s', refusal)) :
    s'.Awaits (m :: rest) :=
  awaits.congr (runScript_migrations (awaits.ordered.apart m List.mem_cons_self) ran)

end Store.Awaits

/-! ## Migrations one after the other -/

namespace Migration

variable {s s' : Store} {m : Migration} {ms rest : List Migration} {moment : Moment}

/-- How migrations that follow each other on a store come out, and which of them are recorded. -/
inductive Proceeds : List Migration → Store → List Migration → Outcome MigrationFault Unit → Prop
  | done {s : Store} : Proceeds [] s [] ⟨.ok (), s, []⟩
  /-- The record is written directly after the script, before anything else is. -/
  | applied {m : Migration} {rest recorded : List Migration} {s s' t : Store}
      {result : Except MigrationFault Unit} {events : List Event}
      (accepted : s.runScript m.script = (s', none))
      (onward : Proceeds rest (s'.recording m) recorded ⟨result, t, events⟩) :
      Proceeds (m :: rest) s (m :: recorded)
        ⟨result, t, .migrationStarted m.version m.name :: .migrationApplied m.version :: events⟩
  /-- Nothing is recorded of a migration whose script is refused, and nothing follows it. -/
  | refused {m : Migration} {rest : List Migration} {s s' : Store} {refusal : Refusal}
      (failed : s.runScript m.script = (s', some refusal)) :
      Proceeds (m :: rest) s []
        ⟨.error (.script m.version m.name refusal), s', [.migrationStarted m.version m.name]⟩

theorem run_execute :
    m.execute.run moment s =
      match s.runScript m.script with
      | (s', none) => ⟨.ok (), s', []⟩
      | (s', some refusal) => ⟨.error (.script m.version m.name refusal), s', []⟩ := rfl

/-- The record of a version above all that are recorded is never refused. -/
theorem run_apply (awaits : s.Awaits (m :: rest)) :
    m.apply.run moment s =
      match s.runScript m.script with
      | (s', none) =>
        ⟨.ok (), s'.recording m, [.migrationStarted m.version m.name, .migrationApplied m.version]⟩
      | (s', some refusal) =>
        ⟨.error (.script m.version m.name refusal), s',
          [.migrationStarted m.version m.name]⟩ := by
  unfold apply
  rw [Action.run_bind, Action.run_report, Action.run_bind, run_execute]
  cases ran : s.runScript m.script with
  | mk s' refusal =>
    cases refusal with
    | some refusal => rfl
    | none =>
      have still := awaits.ran ran
      dsimp only
      rw [Action.run_bind, Action.run_change, still.tracked.addRecord still.there still.newer]
      rfl

theorem applyAll_proceeds (awaits : s.Awaits ms) :
    ∃ recorded, Proceeds ms s recorded ((applyAll ms).run moment s) := by
  induction ms generalizing s with
  | nil => exact ⟨[], .done⟩
  | cons m rest ih =>
    rw [applyAll, Action.run_bind, run_apply awaits]
    cases ran : s.runScript m.script with
    | mk s' refusal =>
      cases refusal with
      | some refusal => exact ⟨[], .refused ran⟩
      | none =>
        obtain ⟨recorded, proceeds⟩ := ih (awaits.ran ran).recording
        exact ⟨m :: recorded, .applied ran proceeds⟩

namespace Proceeds

variable {recorded : List Migration} {outcome : Outcome MigrationFault Unit}

/-- The migrations that are recorded are the first ones, the store waits for the others afterwards,
and the run succeeds if there are none. -/
theorem split (proceeds : Proceeds ms s recorded outcome) (awaits : s.Awaits ms) :
    ∃ rest, ms = recorded ++ rest ∧ outcome.store.Awaits rest ∧
      match rest with
      | [] => outcome.result = .ok ()
      | m :: _ => ∃ refusal, outcome.result = .error (.script m.version m.name refusal) := by
  induction proceeds with
  | done => exact ⟨[], rfl, awaits, rfl⟩
  | refused failed => exact ⟨_, rfl, awaits.ran failed, _, rfl⟩
  | applied accepted onward ih =>
    obtain ⟨rest, rfl, after, ends⟩ := ih (awaits.ran accepted).recording
    exact ⟨rest, rfl, after, ends⟩

/-- A record is added for each of them, in their order, and no record is lost. -/
theorem migrationRows (proceeds : Proceeds ms s recorded outcome)
    (apart : ∀ m ∈ ms, ∀ statement ∈ m.script, statement.target ≠ .migration) :
    outcome.store.migrationRows = s.migrationRows ++ recorded.map row := by
  induction proceeds with
  | done => simp
  | refused failed =>
    have same := Store.runScript_migrations (apart _ List.mem_cons_self) failed
    simp [Store.migrationRows_congr same]
  | @applied m _ _ s s' _ _ _ accepted _ ih =>
    obtain ⟨first, later⟩ := List.forall_mem_cons.mp apart
    have same : s'.migrationRows = s.migrationRows :=
      Store.migrationRows_congr (Store.runScript_migrations first accepted)
    calc
      _ = (s'.recording m).migrationRows ++ _ := ih later
      _ = s.migrationRows ++ [m.row] ++ _ := congrArg (· ++ [m.row] ++ _) same
      _ = s.migrationRows ++ (m :: _).map row := by simp

end Proceeds

/-! ## Runs -/

/-- A run sees of the store only what it has declared the tracking table in. -/
theorem run_prepared (s : Store) (moment : Moment) :
    run.run moment s =
      (Action.read currentVersion >>= (applyAll <| pending ·)).run moment (prepare s) := by
  rw [run, Action.run_bind, Action.run_change]
  rfl

theorem run_eq (tracked : s.Tracked) :
    run.run moment s = (applyAll (pending s.latestVersion)).run moment s.withTracking := by
  rw [run_prepared, tracked.prepare, Action.run_bind, Action.run_read,
    tracked.withTracking.currentVersion rfl]
  rfl

theorem run_of_awaits (awaits : s.Awaits ms) : run.run moment s = (applyAll ms).run moment s := by
  rw [run_eq awaits.tracked, awaits.tracked.withTracking_of_some awaits.there, awaits.waiting]

theorem run_proceeds (tracked : s.Tracked) (moment : Moment) :
    ∃ recorded, Proceeds (pending s.latestVersion) s.withTracking recorded (run.run moment s) := by
  rw [run_eq tracked]
  exact applyAll_proceeds tracked.awaits

theorem run_tracked (tracked : s.Tracked) (moment : Moment) : (run.run moment s).store.Tracked := by
  obtain ⟨recorded, proceeds⟩ := run_proceeds tracked moment
  obtain ⟨rest, -, after, -⟩ := proceeds.split tracked.awaits
  exact after.tracked

end Migration

namespace Store

variable {s : Store}

/-- A version as great as that of every migration is recorded. -/
def UpToDate (s : Store) : Prop :=
  ∃ row ∈ s.migrationRows, ∀ m ∈ Migration.all, (m.version : Int) ≤ row.version

theorem UpToDate.run_migrations (upToDate : s.UpToDate) (tracked : s.Tracked) (moment : Moment) :
    Migration.run.run moment s = ⟨.ok (), s, []⟩ := by
  obtain ⟨row, present, greatest⟩ := upToDate
  have there : s.migrations.isSome = true := by
    cases found : s.migrations with
    | none => simp [migrationRows, found] at present
    | some => rfl
  have nothing : Migration.pending s.latestVersion = [] := by
    refine List.eq_nil_iff_forall_not_mem.mpr fun m waiting => ?_
    obtain ⟨listed, above⟩ := Migration.mem_pending_iff.mp waiting
    exact absurd (above row present) (Int.not_lt.mpr (greatest m listed))
  exact Migration.run_of_awaits ⟨tracked, there, nothing⟩

/-- The directory keeps the records, and a run that has nothing to do keeps them as well. -/
theorem UpToDate.performed (upToDate : s.UpToDate) (tracked : s.Tracked) (operation : Operation)
    (moment : Moment) : (operation.perform.run moment s).store.migrations = s.migrations := by
  by_cases migration : operation = .migrate
  · rw [migration, Operation.perform, Action.run_map, upToDate.run_migrations tracked]
  · exact (Operation.keepsSchema migration moment s).migrations

theorem UpToDate.finalStore (upToDate : s.UpToDate) (tracked : s.Tracked) (later : Run) :
    (Run.finalStore s later).Tracked ∧ (Run.finalStore s later).UpToDate := by
  induction later generalizing s with
  | nil => exact ⟨tracked, upToDate⟩
  | cons step rest ih =>
    have same := upToDate.performed tracked step.2 step.1
    have rows := migrationRows_congr same
    exact ih (by rw [UpToDate, rows]; exact upToDate) (tracked.congr same)

/-- What becomes of an empty store by operations, lost records and lost tables. -/
inductive Reached : Store → Prop
  | empty : Reached Store.empty
  | performed {s : Store} (before : Reached s) (operation : Operation) (moment : Moment) :
      Reached (operation.perform.run moment s).store
  | forgot {s : Store} (before : Reached s) (version : Int) (moment : Moment) :
      Reached ((Maintenance.forgetVersion version).run moment s).store
  | dropped {s : Store} (before : Reached s) (table : String) (moment : Moment) :
      Reached ((Maintenance.removeTable table).run moment s).store

theorem Tracked.forgot (tracked : s.Tracked) (version : Int) (moment : Moment) :
    ((Maintenance.forgetVersion version).run moment s).store.Tracked := by
  rw [Maintenance.forgetVersion, Action.run_change, Store.migrationTable]
  cases found : s.migrations with
  | none => exact tracked
  | some t =>
    have rows : s.migrationRows = t.rows := by simp [migrationRows, found]
    have kept : (t.rows.filter fun row => !(row.version == version)).Sublist s.migrationRows :=
      rows ▸ List.filter_sublist
    rw [present, ok_bind, tracked.declared t found]
    exact .of_rows (tracked.legal.sublist kept)
      (fun row listed => tracked.readable row (kept.subset listed)) rfl

theorem Tracked.dropped (tracked : s.Tracked) (table : String) (moment : Moment) :
    ((Maintenance.removeTable table).run moment s).store.Tracked := by
  rw [Maintenance.removeTable, Action.run_change]
  cases TableName.ofName? table with
  | none => exact tracked
  | some name =>
    dsimp only
    split
    next s' removed =>
      split at removed
      next =>
        cases name with
        | migration => exact Except.ok.inj removed ▸ .of_none rfl
        | member | memberRole | memberScope | demoDay =>
          exact Except.ok.inj removed ▸ tracked.congr rfl
      next => cases removed
    next => exact tracked

theorem Reached.tracked (reached : s.Reached) : s.Tracked := by
  induction reached with
  | empty => exact .of_none rfl
  | performed before operation moment ih =>
    by_cases migration : operation = .migrate
    · rw [migration, Operation.perform, Action.run_map]
      exact Migration.run_tracked ih moment
    · exact ih.congr (Operation.keepsSchema migration moment _).migrations
  | forgot before version moment ih => exact ih.forgot version moment
  | dropped before table moment ih => exact ih.dropped table moment

theorem Tracked.versions_nodup (tracked : s.Tracked) :
    (s.migrationRows.map MigrationRow.version).Nodup :=
  List.pairwise_map.mpr (tracked.legal.apart.imp fun apart =>
    (Schema.migrationTable_apart_iff.mp apart).1)

end Store

/-- Of a store with any records and any tables, a run takes just the migrations that are numbered
above all records, upwards and up to the first whose script is refused, which it names. Those before
it are recorded, each directly after its script and none twice. So an empty store is migrated as a
whole, and once the greatest version is recorded no run changes anything again. -/
theorem Migration.run_pending {s : Store} (tracked : s.Tracked) (moment : Moment) :
    let waiting := pending s.latestVersion
    let outcome := run.run moment s
    (∀ m, m ∈ waiting ↔ m ∈ all ∧ ∀ row ∈ s.migrationRows, row.version < m.version) ∧
      waiting.Pairwise (·.version < ·.version) ∧
      (∃ recorded rest, waiting = recorded ++ rest ∧
        Proceeds waiting s.withTracking recorded outcome ∧
        outcome.store.migrationRows = s.migrationRows ++ recorded.map row ∧
        match rest with
        | [] => outcome.result = .ok ()
        | m :: _ => ∃ refusal : Refusal, outcome.result.mapError MigrationFault.toStoreError =
            .error (.migration ("Migration v" ++ m.version.repr ++ " \x27" ++ m.name ++
              "\x27" ++ " failed: " ++ refusal.reason))) ∧
      (outcome.store.migrationRows.map MigrationRow.version).Nodup ∧
      ((run.run moment Store.empty).result = .ok () ∧
        (run.run moment Store.empty).store.migrationRows = all.map row) ∧
      (s.UpToDate → ∀ later : Run,
        run.run moment (Run.finalStore s later) = ⟨.ok (), Run.finalStore s later, []⟩) := by
  intro waiting outcome
  obtain ⟨recorded, proceeds⟩ := run_proceeds tracked moment
  obtain ⟨rest, parts, after, ends⟩ := proceeds.split tracked.awaits
  have rows := proceeds.migrationRows (pending_ordered _).apart
  refine ⟨fun m => mem_pending_iff, (pending_ordered _).ascending,
    ⟨recorded, rest, parts, proceeds, rows, ?_⟩, after.tracked.versions_nodup, ⟨rfl, rfl⟩, ?_⟩
  · cases rest with
    | nil => exact ends
    | cons m rest =>
      obtain ⟨refusal, failed⟩ := ends
      exact ⟨refusal, by rw [failed]; rfl⟩
  · intro upToDate later
    obtain ⟨trackedLater, stillUpToDate⟩ := upToDate.finalStore tracked later
    exact stillUpToDate.run_migrations trackedLater moment

/-- A migrated store that has lost its last record, but not what that migration declared, and the
migrated store itself. -/
theorem Migration.run_pending_forgotten :
    let moment : Moment := ⟨Instant.epoch, Uuid.ofNat 1⟩
    let s := ((Maintenance.forgetVersion 2).run moment Store.fresh).store
    s.Tracked ∧
      (run.run moment s).result = .error (.script 2 "demo_days" (.alreadyDeclared "demo_day")) ∧
      (∃ recorded, Proceeds [demoDays] s.withTracking recorded (run.run moment s) ∧
        (run.run moment s).store.migrationRows = s.migrationRows ++ recorded.map row) ∧
      Store.fresh.UpToDate ∧
      ∀ later : Run, run.run moment (Run.finalStore Store.fresh later) =
        ⟨.ok (), Run.finalStore Store.fresh later, []⟩ := by
  intro moment s
  have fresh : Store.fresh.Reached := .performed .empty .migrate ⟨Instant.epoch, Uuid.ofNat 0⟩
  have tracked : s.Tracked := (fresh.forgot 2 moment).tracked
  have upToDate : Store.fresh.UpToDate := ⟨demoDays.row, by decide, by decide⟩
  obtain ⟨-, -, ⟨recorded, -, -, proceeds, rows, -⟩, -⟩ := run_pending tracked moment
  obtain ⟨-, -, -, -, -, idle⟩ := run_pending fresh.tracked moment
  exact ⟨tracked, rfl, ⟨recorded, proceeds, rows⟩, upToDate, idle upToDate⟩

end HostAccess
