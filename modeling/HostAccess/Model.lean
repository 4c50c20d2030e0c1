import HostAccess.Host
import HostAccess.Instant
import HostAccess.Role
import HostAccess.Scope
import HostAccess.Uuid

/-! # Members, demo days and grants

What the directory holds and hands out. A member's grants are its roles and the hosts it is scoped
to. A change of grants names the dimensions it replaces; a dimension it leaves out stays as it is,
which is not the same as replacing it by the empty set. -/
namespace HostAccess

structure Member where
  uid : String
  name : String
  email : Option String
  createdAt : Instant
  updatedAt : Instant
deriving DecidableEq

structure NewMember where
  uid : String
  name : String
  email : Option String
deriving DecidableEq

/-- A demo day. Administrators are matched against its host. -/
structure DemoDay where
  id : Uuid
  slug : String
  name : String
  host : String
  status : Status
  createdAt : Instant
  updatedAt : Instant
deriving DecidableEq

structure NewDemoDay where
  slug : String
  name : String
  host : String
deriving DecidableEq

abbrev HostSet := OrderedSet String

structure Grants where
  roles : RoleSet
  hosts : HostSet
deriving DecidableEq

/-- A replacement of a member's roles, hosts, or both. -/
structure GrantChange where
  roles : Option RoleSet := none
  hosts : Option HostSet := none
deriving DecidableEq

def GrantChange.isEmpty (change : GrantChange) : Bool :=
  change.roles.isNone && change.hosts.isNone

/-- A window on a list: how many items to leave out, and how many to take at most. -/
structure Pagination where
  offset : Nat := 0
  limit : Nat := 50
deriving DecidableEq

/-- The items of a window, with the number of items there are in all. -/
structure Page (α : Type) where
  items : List α
  total : Nat
  offset : Nat
  limit : Nat

end HostAccess
