import HostAccess.Action
import HostAccess.Store.Schema

/-! # Maintenance

Work on the store past the directory's operations, as whoever administers the database may do it:
single rows, conditions of fields, and whole tables. The schema still holds for every row that is
written. -/
namespace HostAccess.Maintenance

/-- What a statement supplies for a column. -/
inductive Supplied
  | text (s : String)
  | number (n : Int)
  /-- A value of a type that no column has. -/
  | other
deriving DecidableEq

abbrev Columns := List (String × Supplied)

def optionalText (columns : Columns) (name : String) : Except Refusal (Option String) :=
  match columns.lookup name with
  | some (.text s) => .ok (some s)
  | some _ => .error (.wrongType name)
  | none => .ok none

def text (columns : Columns) (name : String) : Except Refusal String := do
  match ← optionalText columns name with
  | some s => return s
  | none => throw (.wrongType name)

/-- The number supplied for a column that must have one. Numbers have sixty-four bits. -/
def number (columns : Columns) (name : String) : Except Refusal Int :=
  match columns.lookup name with
  | some (.number n) =>
    if -9223372036854775808 ≤ n ∧ n ≤ 9223372036854775807 then .ok n else .error .outOfRange
  | _ => .error (.wrongType name)

/-- Refuse columns that are not among these. Times are left to the store. -/
def demandKnown (known : List String) (columns : Columns) : Except Refusal Unit :=
  match columns.find? fun column => !known.contains column.1 with
  | some column => .error (.unknownField column.1)
  | none => .ok ()

def add (table : TableName) (id : Option String) (columns : Columns) (moment : Moment) (s : Store) :
    Except Refusal Store := do
  if id = some "" then throw .emptyId
  match table with
  | .migration =>
    demandKnown ["name", "version"] columns
    let row : MigrationRow := ⟨id, ← number columns "version", ← text columns "name"⟩
    return { s with migrations := some (← (← s.migrationTable).insert row) }
  | .member =>
    demandKnown ["email", "name"] columns
    let row : Member := ⟨id.getD moment.id.text, ← text columns "name",
      ← optionalText columns "email", moment.now, moment.now⟩
    return { s with members := some (← (← s.memberTable).insert row) }
  | .memberRole =>
    demandKnown ["member_uid", "role_name"] columns
    let row : RoleRow := ⟨id, ← text columns "member_uid", ← text columns "role_name", moment.now⟩
    return { s with roles := some (← (← s.roleTable).insert row) }
  | .memberScope =>
    demandKnown ["member_uid", "scope_type", "scope_value"] columns
    let row : ScopeRow := ⟨id, ← text columns "member_uid", ← text columns "scope_type",
      ← text columns "scope_value", moment.now⟩
    return { s with scopes := some (← (← s.scopeTable).insert row) }
  | .demoDay =>
    demandKnown ["host", "name", "slug_url", "status"] columns
    let row : DayRow := ⟨id, ← text columns "slug_url", ← text columns "name",
      ← text columns "host", ← text columns "status", moment.now, moment.now⟩
    return { s with days := some (← (← s.dayTable).insert row) }

def insertRow (table : String) (id : Option String) (columns : Columns) : Action Refusal Unit :=
  Action.change fun moment s =>
    match TableName.ofName? table with
    | some name => add name id columns moment s
    | none => .error (.unknownTable table)

def forgetVersion (version : Int) : Action Refusal Unit :=
  Action.change fun _ s => do
    let table ← s.migrationTable
    return { s with migrations := some (table.remove (·.version == version)) }

def removeTable (table : String) : Action Refusal Unit :=
  Action.change fun _ s =>
    match TableName.ofName? table with
    | none => .error (.unknownTable table)
    | some name =>
      if s.hasTable name then
        match name with
        | .migration => .ok { s with migrations := none }
        | .member => .ok { s with members := none }
        | .memberRole => .ok { s with roles := none }
        | .memberScope => .ok { s with scopes := none }
        | .demoDay => .ok { s with days := none }
      else .error (.missingTable name)

/-- Put a declaration in place of the one that a table has for the same field. -/
def redeclare {ρ : Type} (declared : Field) (table : Table ρ) : Table ρ :=
  { table with fields := table.fields.map fun field =>
      if field.name = declared.name then declared else field }

/-- Put other declarations in place of the fields that have a condition. -/
def redeclareAll (f : Field → Field) (s : Store) : Store :=
  { s with
    roles := s.roles.map (redeclare (f Schema.roleName))
    scopes := s.scopes.map fun table =>
      redeclare (f Schema.scopeValue) (redeclare (f Schema.scopeType) table)
    days := s.days.map fun table =>
      redeclare (f Schema.dayStatus) (redeclare (f Schema.dayHost) table) }

/-- Lift the conditions of all fields. -/
def liftAssertions : Action Refusal Unit :=
  Action.change fun _ s => .ok (redeclareAll ({ · with assertion := none }) s)

/-- Put the conditions of all fields back. Rows that are there are not looked at. -/
def restoreAssertions : Action Refusal Unit :=
  Action.change fun _ s => .ok (redeclareAll id s)

end HostAccess.Maintenance
