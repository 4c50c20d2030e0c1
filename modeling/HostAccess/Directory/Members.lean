import HostAccess.Action

/-! # Members of the directory

A member is the row under its uid. The uid must not be empty: the store has no such record id, so
that even asking for it is an error. Deleting a member takes its roles and scopes along. -/
namespace HostAccess.Members

/-- Whether there is a member of this uid. A missing table holds no member. -/
def present (s : Store) (uid : String) : Bool :=
  match s.members with
  | some table => table.hasId uid
  | none => false

/-- Whether there is a member of this uid, where an empty uid is refused. -/
def isMember (uid : String) (s : Store) : Except Error Bool :=
  if uid.isEmpty then .error Refusal.emptyId.toStoreError.toError else .ok (present s uid)

def lookup (uid : String) (s : Store) : Except StoreError Member := do
  if uid.isEmpty then throw Refusal.emptyId.toStoreError
  match (← s.readMembers).rows.find? (·.uid == uid) with
  | some member => return member
  | none => throw (.notFound "member" uid)

def find (uid : String) (s : Store) : Except Error Member :=
  (lookup uid s).mapError StoreError.toError

def add (new : NewMember) (now : Instant) (s : Store) : Except Refusal Store := do
  let table ← s.memberTable
  let table ← table.insert ⟨new.uid, new.name, new.email, now, now⟩
  return { s with members := some table }

def create (new : NewMember) : Action Error Member := do
  -- Left to the store, an empty uid would be a fault of the store.
  if new.uid.isEmpty then Action.fail (.validation .emptyMemberUid)
  if ← Action.read (isMember new.uid) then Action.fail (.alreadyExists "member")
  Action.change fun moment s =>
    (add new moment.now s).mapError fun refusal => refusal.toRowError.toError
  Action.read (find new.uid)

/-- Take away a member with its roles and scopes, all or nothing. -/
def erase (uid : String) (s : Store) : Except Refusal Store := do
  -- Nothing is taken away unless all three tables are there.
  let roles ← s.roleTable
  let scopes ← s.scopeTable
  let members ← s.memberTable
  return { s with
    roles := some (roles.remove (·.memberUid == uid))
    scopes := some (scopes.remove (·.memberUid == uid))
    members := some (members.remove (·.uid == uid)) }

def delete (uid : String) : Action Error Unit := do
  unless ← Action.read (isMember uid) do Action.fail (StoreError.notFound "member" uid).toError
  Action.change fun _ s =>
    (erase uid s).mapError fun refusal => refusal.toCancellation.toError
  Action.report (.memberDeleted uid)

/-- The greatest offset and the greatest limit of a page: the store counts in sixty-four bits with a
sign. -/
def maxWindow : Nat := 9223372036854775807

def page (window : Pagination) (s : Store) : Except StoreError (Page Member) := do
  let table ← s.readMembers
  if maxWindow < window.limit ∨ maxWindow < window.offset then
    throw Refusal.outOfRange.toStoreError
  let ordered := table.rows.mergeSort fun a b => a.createdAt.atMost b.createdAt
  return ⟨(ordered.drop window.offset).take window.limit, table.rows.length, window.offset,
    window.limit⟩

def list (window : Pagination) (s : Store) : Except Error (Page Member) :=
  (page window s).mapError StoreError.toError

end HostAccess.Members
