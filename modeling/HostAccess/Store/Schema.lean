import HostAccess.Store.Basic

/-! # Schema

Declarations as statements that a store executes one at a time, and the statements that make up the
directory's schema. Declaring what is already declared is refused, unless the statement only asks
that the declaration be there. -/
namespace HostAccess

inductive Statement
  | table (name : TableName)
  | field (owner : TableName) (field : Field)
  | index (owner : TableName) (index : Index)
deriving DecidableEq

namespace Statement

def target : Statement → TableName
  | .table name => name
  | .field owner _ => owner
  | .index owner _ => owner

def declare {ρ : Type} : Statement → Option (Table ρ) → Except Refusal (Option (Table ρ))
  | .table _, none => .ok (some {})
  | .table name, some _ => .error (.alreadyDeclared name.name)
  | .field owner _, none => .error (.missingTable owner)
  | .field _ added, some t =>
    if t.fields.any (·.name == added.name) then .error (.alreadyDeclared added.name)
    else .ok (some { t with fields := t.fields ++ [added] })
  | .index owner _, none => .error (.missingTable owner)
  | .index _ added, some t =>
    if t.indexes.any (·.name == added.name) then .error (.alreadyDeclared added.name)
    else .ok (some { t with indexes := t.indexes ++ [added] })

end Statement

namespace Store

def declare (s : Store) (statement : Statement) : Except Refusal Store :=
  match statement.target with
  | .migration => return { s with migrations := ← statement.declare s.migrations }
  | .member => return { s with members := ← statement.declare s.members }
  | .memberRole => return { s with roles := ← statement.declare s.roles }
  | .memberScope => return { s with scopes := ← statement.declare s.scopes }
  | .demoDay => return { s with days := ← statement.declare s.days }

def ensure (s : Store) (statement : Statement) : Store := (s.declare statement).toOption.getD s

/-- Execute statements one after the other. A refused statement does not stop the later ones; the
first refusal is what the script as a whole answers. -/
def runScript (s : Store) : List Statement → Store × Option Refusal
  | [] => (s, none)
  | statement :: rest =>
    match s.declare statement with
    | .ok s => runScript s rest
    | .error refusal => ((runScript s rest).1, some refusal)

end Store

namespace Schema

/-- Names of the registered roles, which are all that a role row may hold. -/
def roleName : Field := ⟨"role_name", some (.oneOf ["DEMO_DAY_ADMIN", "DIRECTORYADMIN"])⟩

def scopeType : Field := ⟨"scope_type", some (.oneOf ["HOST"])⟩

def scopeValue : Field := ⟨"scope_value", some .nonempty⟩

def dayHost : Field := ⟨"host", some .nonempty⟩

def dayStatus : Field := ⟨"status", some (.oneOf ["UPCOMING", "LIVE", "COMPLETED"])⟩

def memberFields : List Field :=
  [{ name := "name" }, { name := "email" }, { name := "created_at" }, { name := "updated_at" }]

def roleFields : List Field := [{ name := "member_uid" }, roleName, { name := "created_at" }]

def roleIndexes : List Index :=
  [⟨"idx_member_role_unique", ["member_uid", "role_name"], true⟩,
    ⟨"idx_member_role_role", ["role_name"], false⟩]

def scopeFields : List Field :=
  [{ name := "member_uid" }, scopeType, scopeValue, { name := "created_at" }]

def scopeIndexes : List Index :=
  [⟨"idx_member_scope_unique", ["member_uid", "scope_type", "scope_value"], true⟩]

def dayFields : List Field :=
  [{ name := "slug_url" }, { name := "name" }, dayHost, dayStatus, { name := "created_at" },
    { name := "updated_at" }]

def dayIndexes : List Index :=
  [⟨"idx_demo_day_slug", ["slug_url"], true⟩, ⟨"idx_demo_day_host", ["host"], false⟩]

def migrationFields : List Field :=
  [{ name := "version" }, { name := "name" }, { name := "applied_at" }]

def migrationIndexes : List Index := [⟨"idx_migration_version", ["version"], true⟩]

/-- The statements that declare a table with its fields and indexes. -/
def statements (table : TableName) (fields : List Field) (indexes : List Index) : List Statement :=
  .table table :: (fields.map (.field table) ++ indexes.map (.index table))

end Schema

end HostAccess
