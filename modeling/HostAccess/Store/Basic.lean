import HostAccess.Store.Table

/-! # The store

Five tables, each of which may be missing. Rows of roles, scopes and demo days hold names as they
are stored, which need not be names that this library knows: what a stored name means is found out
when it is read. -/
namespace HostAccess

structure MigrationRow where
  id : Option String := none
  version : Int
  name : String
deriving DecidableEq

structure RoleRow where
  id : Option String := none
  memberUid : String
  roleName : String
  createdAt : Instant
deriving DecidableEq

structure ScopeRow where
  id : Option String := none
  memberUid : String
  scopeType : String
  scopeValue : String
  createdAt : Instant
deriving DecidableEq

structure DayRow where
  id : Option String
  slug : String
  name : String
  host : String
  status : String
  createdAt : Instant
  updatedAt : Instant
deriving DecidableEq

instance : Row MigrationRow where
  id := MigrationRow.id
  cell row
    | "version" => some (.number row.version)
    | "name" => some (.text row.name)
    | _ => none

instance : Row Member where
  id m := some m.uid
  cell m
    | "name" => some (.text m.name)
    | "email" => m.email.map .text
    | _ => none

instance : Row RoleRow where
  id := RoleRow.id
  cell row
    | "member_uid" => some (.text row.memberUid)
    | "role_name" => some (.text row.roleName)
    | _ => none

instance : Row ScopeRow where
  id := ScopeRow.id
  cell row
    | "member_uid" => some (.text row.memberUid)
    | "scope_type" => some (.text row.scopeType)
    | "scope_value" => some (.text row.scopeValue)
    | _ => none

instance : Row DayRow where
  id := DayRow.id
  cell row
    | "slug_url" => some (.text row.slug)
    | "name" => some (.text row.name)
    | "host" => some (.text row.host)
    | "status" => some (.text row.status)
    | _ => none

/-- All that is stored. -/
structure Store where
  migrations : Option (Table MigrationRow) := none
  members : Option (Table Member) := none
  roles : Option (Table RoleRow) := none
  scopes : Option (Table ScopeRow) := none
  days : Option (Table DayRow) := none
deriving DecidableEq

namespace Store

def empty : Store := {}

def present {ρ : Type} (name : TableName) : Option (Table ρ) → Except Refusal (Table ρ)
  | some table => .ok table
  | none => .error (.missingTable name)

def memberTable (s : Store) : Except Refusal (Table Member) := present .member s.members

def roleTable (s : Store) : Except Refusal (Table RoleRow) := present .memberRole s.roles

def scopeTable (s : Store) : Except Refusal (Table ScopeRow) := present .memberScope s.scopes

def dayTable (s : Store) : Except Refusal (Table DayRow) := present .demoDay s.days

def migrationTable (s : Store) : Except Refusal (Table MigrationRow) :=
  present .migration s.migrations

/-- The table of roles for a read, whose refusal is a fault of the store. -/
def readRoles (s : Store) : Except StoreError (Table RoleRow) :=
  s.roleTable.mapError Refusal.toStoreError

def readScopes (s : Store) : Except StoreError (Table ScopeRow) :=
  s.scopeTable.mapError Refusal.toStoreError

def readMembers (s : Store) : Except StoreError (Table Member) :=
  s.memberTable.mapError Refusal.toStoreError

def readDays (s : Store) : Except StoreError (Table DayRow) :=
  s.dayTable.mapError Refusal.toStoreError

def hasTable (s : Store) : TableName → Bool
  | .migration => s.migrations.isSome
  | .member => s.members.isSome
  | .memberRole => s.roles.isSome
  | .memberScope => s.scopes.isSome
  | .demoDay => s.days.isSome

end Store

end HostAccess
