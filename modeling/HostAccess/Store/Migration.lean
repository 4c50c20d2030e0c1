import HostAccess.Action
import HostAccess.Store.Schema

/-! # Migrations

The schema is built by numbered migrations. A run applies those above the greatest recorded version,
in order, and records each one after its script. A script is not a transaction: when one of its
statements is refused the others have taken effect, the migration is not recorded, and the run
ends. -/
namespace HostAccess

structure Migration where
  version : Nat
  name : String
  script : List Statement
deriving DecidableEq

/-- Why a run of the migrations ended early. -/
inductive MigrationFault
  /-- The tracking table cannot be read. -/
  | unreadable (reason : String)
  /-- A statement of a script was refused. -/
  | script (version : Nat) (name : String) (refusal : Refusal)
  /-- The record of a migration was refused. -/
  | record (version : Nat) (refusal : Refusal)
deriving DecidableEq

namespace MigrationFault

def scriptLabel (version : Nat) (name : String) : String :=
  "Migration v" ++ version.repr ++ " \x27" ++ name ++ "\x27"

def toStoreError : MigrationFault → StoreError
  | .unreadable reason => .engine reason
  | .script version name refusal =>
    .migration (scriptLabel version name ++ " failed: " ++ refusal.reason)
  | .record version refusal =>
    .migration ("Failed to record migration v" ++ version.repr ++ ": " ++ refusal.reason)

end MigrationFault

namespace Migration

def membersRolesScopes : Migration where
  version := 1
  name := "members_roles_scopes"
  script :=
    Schema.statements .member Schema.memberFields [] ++
      Schema.statements .memberRole Schema.roleFields Schema.roleIndexes ++
      Schema.statements .memberScope Schema.scopeFields Schema.scopeIndexes

def demoDays : Migration where
  version := 2
  name := "demo_days"
  script := Schema.statements .demoDay Schema.dayFields Schema.dayIndexes

def all : List Migration := [membersRolesScopes, demoDays]

def tracking : List Statement :=
  Schema.statements .migration Schema.migrationFields Schema.migrationIndexes

def prepare (s : Store) : Store := tracking.foldl Store.ensure s

/-- The greatest version that can be read back: versions have thirty-two bits. -/
def maxVersion : Nat := 4294967295

def currentVersion (s : Store) : Except MigrationFault Nat :=
  match s.migrationTable with
  | .error refusal => .error (.unreadable refusal.reason)
  | .ok table =>
    -- The greatest version counts, not the number of records: those below it may be gone.
    match (table.rows.map MigrationRow.version).max? with
    | none => .ok 0
    | some (version : Int) =>
      if 0 ≤ version ∧ version ≤ maxVersion then .ok version.toNat
      else .error (.unreadable Refusal.outOfRange.reason)

def pending (version : Nat) : List Migration := all.filter (version < ·.version)

def execute (m : Migration) : Action MigrationFault Unit := fun _ s =>
  match s.runScript m.script with
  | (s', none) => ⟨.ok (), s', []⟩
  | (s', some refusal) => ⟨.error (.script m.version m.name refusal), s', []⟩

def addRecord (m : Migration) (s : Store) : Except Refusal Store := do
  let table ← (← s.migrationTable).insert { version := m.version, name := m.name }
  return { s with migrations := some table }

def apply (m : Migration) : Action MigrationFault Unit := do
  Action.report (.migrationStarted m.version m.name)
  m.execute
  Action.change fun _ s => (m.addRecord s).mapError (.record m.version)
  Action.report (.migrationApplied m.version)

def applyAll : List Migration → Action MigrationFault Unit
  | [] => pure ()
  | m :: rest => do
    m.apply
    applyAll rest

def run : Action MigrationFault Unit := do
  Action.change fun _ s => .ok (prepare s)
  let version ← Action.read currentVersion
  applyAll (pending version)

end Migration

end HostAccess
