import HostAccess.Directory.Grants
import HostAccess.Directory.Members
import HostAccess.Host
import HostAccess.Settings

/-! # Assignment of grants

An update names roles and hosts as the caller spells them. All of it is checked before the store is
looked at: roles first, then hosts, each list from its front. Roles without the administration of
demo days leave hosts without a purpose, so an update that drops that role and is silent about hosts
clears them. -/
namespace HostAccess

/-- An update as the caller words it. What a list that is left out would replace stays as it is; an
empty list clears. -/
structure GrantRequest where
  roles : Option (List String) := none
  hosts : Option (List String) := none
deriving DecidableEq

namespace Assignment

def validateHost (settings : Settings) (host : String) : Except Error Unit :=
  if host = Host.wildcard ∧ settings.allowWildcardAssignment = false then
    .error (AssignmentError.wildcardNotAllowed host).toError
  else Host.validate host

/-- Refuse a list for the first of its hosts that may not be assigned. -/
def validateHosts (settings : Settings) : List String → Except Error Unit
  | [] => .ok ()
  | host :: rest => do
    validateHost settings host
    validateHosts settings rest

def requestedRoles (request : GrantRequest) : Except Error (Option RoleSet) :=
  match request.roles with
  | some names => (parseRoles names).map some
  | none => .ok none

def requestedHosts (settings : Settings) (request : GrantRequest) : Except Error (Option HostSet) :=
  match request.hosts with
  | some hosts => (validateHosts settings hosts).map fun _ => some (OrderedSet.ofList hosts)
  | none => .ok none

def retireHosts (roles : Option RoleSet) (hosts : Option HostSet) : Option HostSet :=
  match roles, hosts with
  | some roles, none => if Role.demoDayAdmin ∈ roles then none else some OrderedSet.empty
  | _, hosts => hosts

def plan (settings : Settings) (request : GrantRequest) : Except Error GrantChange := do
  -- An unknown role is reported before any host is looked at.
  let roles ← requestedRoles request
  let hosts ← requestedHosts settings request
  return ⟨roles, retireHosts roles hosts⟩

/-- Refuse a uid that no member has. -/
def demandMember (uid : String) (s : Store) : Except Error Unit := do
  unless ← Members.isMember uid s do throw (AssignmentError.memberNotFound uid).toError

def update (settings : Settings) (uid : String) (request : GrantRequest) : Action Error Unit := do
  let change ← Action.ofExcept (plan settings request)
  Action.read (demandMember uid)
  -- A change that replaces nothing does not mark the member as changed either.
  unless change.isEmpty do
    Grants.apply uid change
    Action.report
      (.grantsUpdated uid (change.roles.map OrderedSet.size) (change.hosts.map OrderedSet.size))

def grantsOf (uid : String) (s : Store) : Except Error Grants := do
  demandMember uid s
  Grants.ofMember uid s

end Assignment

end HostAccess
