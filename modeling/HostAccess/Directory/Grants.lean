import HostAccess.Action

/-! # Grants of members

Roles and scopes are written by replacing all that a member has of a kind, in one transaction that
first makes sure that the member is there and marks it as changed. What stored names mean is
found out on reading, and an unknown one makes the whole read fail. Names are understood in their
own order, so which unknown one is named does not hang on the order of the rows. -/
namespace HostAccess

def inOrder (texts : List String) : List String := texts.mergeSort fun a b => decide (a ≤ b)

def decodeRole (name : String) : Except StoreError Role :=
  match Role.ofName? name with
  | some role => .ok role
  | none => .error (.invalidRow (.unknownRole name))

def decodeRoles : List String → Except StoreError (List Role)
  | [] => .ok []
  | name :: rest => do
    let role ← decodeRole name
    return role :: (← decodeRoles rest)

def ScopeRow.decode (row : ScopeRow) : Except StoreError ScopeEntry :=
  match ScopeType.ofName? row.scopeType with
  | some type => .ok ⟨row.memberUid, type, row.scopeValue⟩
  | none => .error (.invalidRow (.unknownScopeType row.scopeType))

def byScopeType (rows : List ScopeRow) : List ScopeRow :=
  rows.mergeSort fun a b => decide (a.scopeType ≤ b.scopeType)

def decodeScopes : List ScopeRow → Except StoreError (List ScopeEntry)
  | [] => .ok []
  | row :: rest => do
    let entry ← row.decode
    return entry :: (← decodeScopes rest)

namespace Store

def roleNames (roles : Table RoleRow) (uid : String) : List String :=
  (roles.rows.filter (·.memberUid == uid)).map (·.roleName)

def hostValues (scopes : Table ScopeRow) (uid : String) : List String :=
  (scopes.rows.filter fun row => row.memberUid == uid && row.scopeType == ScopeType.host.name).map
    (·.scopeValue)

/-- Make sure that a member is there, and mark it as changed now. -/
def touchMember (uid : String) (now : Instant) (s : Store) : Except StoreError Store :=
  if uid.isEmpty then .error Refusal.emptyId.toCancellation
  else
    -- A table that is not there holds no member, so both are the same fault.
    match s.members.filter (·.hasId uid) with
    | none => .error (.notFound "member" uid)
    | some members => do
      let members ← (members.revise (·.uid == uid) ({ · with updatedAt := now })).mapError
        Refusal.toCancellation
      return { s with members := some members }

/-- Put rows for these roles in place of all role rows of a member. -/
def putRoles (uid : String) (roles : RoleSet) (now : Instant) (s : Store) :
    Except StoreError Store := do
  let table ← s.roleTable.mapError Refusal.toCancellation
  let rows := roles.toList.map fun role =>
    { memberUid := uid, roleName := role.name, createdAt := now : RoleRow }
  let table ← ((table.remove (·.memberUid == uid)).insertAll rows).mapError Refusal.toCancellation
  return { s with roles := some table }

/-- Put rows for these values in place of all scope rows of a member that have this type. -/
def putScopes (uid : String) (type : ScopeType) (values : HostSet) (now : Instant) (s : Store) :
    Except StoreError Store := do
  let table ← s.scopeTable.mapError Refusal.toCancellation
  let rows := values.toList.map fun value =>
    { memberUid := uid, scopeType := type.name, scopeValue := value, createdAt := now : ScopeRow }
  let kept := table.remove fun row => row.memberUid == uid && row.scopeType == type.name
  let table ← (kept.insertAll rows).mapError Refusal.toCancellation
  return { s with scopes := some table }

/-- Put the sets that a change names in place of what a member has. -/
def putGrants (uid : String) (change : GrantChange) (now : Instant) (s : Store) :
    Except StoreError Store := do
  let s ← s.touchMember uid now
  let s ← match change.roles with
    | some roles => s.putRoles uid roles now
    | none => .ok s
  match change.hosts with
    | some hosts => s.putScopes uid .host hosts now
    | none => .ok s

end Store

namespace Roles

def stored (uid : String) (s : Store) : Except StoreError RoleSet := do
  return OrderedSet.ofList (← decodeRoles (inOrder (Store.roleNames (← s.readRoles) uid)))

def ofMember (uid : String) (s : Store) : Except Error RoleSet :=
  (stored uid s).mapError StoreError.toError

def holders (role : Role) (s : Store) : Except Error (List String) := do
  let table ← s.readRoles.mapError StoreError.toError
  return inOrder ((table.rows.filter (·.roleName == role.name)).map (·.memberUid))

def replace (uid : String) (roles : RoleSet) : Action Error Unit :=
  Action.change fun moment s => Except.mapError StoreError.toError do
    (← s.touchMember uid moment.now).putRoles uid roles moment.now

end Roles

namespace Scopes

def stored (uid : String) (s : Store) : Except StoreError (OrderedSet ScopeEntry) := do
  let rows := (← s.readScopes).rows.filter (·.memberUid == uid)
  return OrderedSet.ofList (← decodeScopes (byScopeType rows))

def ofMember (uid : String) (s : Store) : Except Error (OrderedSet ScopeEntry) :=
  (stored uid s).mapError StoreError.toError

def hosts (uid : String) (s : Store) : Except Error HostSet := do
  return OrderedSet.ofList (Store.hostValues (← s.readScopes.mapError StoreError.toError) uid)

def replace (uid : String) (type : ScopeType) (values : HostSet) : Action Error Unit :=
  Action.change fun moment s => Except.mapError StoreError.toError do
    (← s.touchMember uid moment.now).putScopes uid type values moment.now

end Scopes

namespace Grants

/-- The roles and hosts of a member, from one state of the store. -/
def stored (uid : String) (s : Store) : Except StoreError Grants := do
  let roles ← s.readRoles
  let scopes ← s.readScopes
  -- Both tables are there before any name is understood.
  let held ← decodeRoles (inOrder (Store.roleNames roles uid))
  return ⟨OrderedSet.ofList held, OrderedSet.ofList (Store.hostValues scopes uid)⟩

def ofMember (uid : String) (s : Store) : Except Error Grants :=
  (stored uid s).mapError StoreError.toError

/-- Whether a role row of this member and this role is stored. -/
def holds (roles : Table RoleRow) (uid : String) (role : Role) : Bool :=
  (Store.roleNames roles uid).contains role.name

/-- The hosts of a member that holds a role. Without the role the scopes are not read. -/
def hostsIfHeld (uid : String) (role : Role) (s : Store) : Except Error (Option HostSet) :=
  Except.mapError StoreError.toError do
    let roles ← s.readRoles
    if holds roles uid role then
      return some (OrderedSet.ofList (Store.hostValues (← s.readScopes) uid))
    else
      return none

/-- Carry out a change of grants. An empty change does nothing, whoever it is for. -/
def apply (uid : String) (change : GrantChange) : Action Error Unit :=
  if change.isEmpty then pure ()
  else do
    Action.change fun moment s =>
      (s.putGrants uid change moment.now).mapError StoreError.toError
    Action.report (.grantChangeCommitted uid)

end Grants

end HostAccess
