import HostAccess.Error
import HostAccess.OrderedSet

/-! # Roles

The registry of administrative roles is closed: two roles, each with the capabilities it grants. One
of them administers demo days and is worth nothing without a host it applies to. -/
namespace HostAccess

inductive Capability
  | manageDemoDays
  | manageDemoDayParticipants
  | manageMembers
  | manageTeams
  | manageProjects
  | manageFocusAreas
deriving DecidableEq

namespace Capability

def all : List Capability :=
  [.manageDemoDays, .manageDemoDayParticipants, .manageMembers, .manageTeams, .manageProjects,
    .manageFocusAreas]

def rank : Capability → Nat
  | .manageDemoDays => 0
  | .manageDemoDayParticipants => 1
  | .manageMembers => 2
  | .manageTeams => 3
  | .manageProjects => 4
  | .manageFocusAreas => 5

instance : Ord Capability := ⟨compareOn rank⟩

instance : Std.TransOrd Capability := inferInstanceAs (Std.TransCmp (compareOn rank))

instance : Std.LawfulEqOrd Capability where
  compare_self := by intro c; cases c <;> rfl
  eq_of_compare := by intro c d; cases c <;> cases d <;> decide

def name : Capability → String
  | .manageDemoDays => "MANAGE_DEMO_DAYS"
  | .manageDemoDayParticipants => "MANAGE_DEMO_DAY_PARTICIPANTS"
  | .manageMembers => "MANAGE_MEMBERS"
  | .manageTeams => "MANAGE_TEAMS"
  | .manageProjects => "MANAGE_PROJECTS"
  | .manageFocusAreas => "MANAGE_FOCUS_AREAS"

def ofName? (name : String) : Option Capability := all.find? (·.name == name)

theorem ofName?_name (c : Capability) : ofName? c.name = some c := by cases c <;> decide

end Capability

inductive Role
  | demoDayAdmin
  | directoryAdmin
deriving DecidableEq

namespace Role

def all : List Role := [.demoDayAdmin, .directoryAdmin]

def rank : Role → Nat
  | .demoDayAdmin => 0
  | .directoryAdmin => 1

instance : Ord Role := ⟨compareOn rank⟩

instance : Std.TransOrd Role := inferInstanceAs (Std.TransCmp (compareOn rank))

instance : Std.LawfulEqOrd Role where
  compare_self := by intro r; cases r <;> rfl
  eq_of_compare := by intro r s; cases r <;> cases s <;> decide

def name : Role → String
  | .demoDayAdmin => "DEMO_DAY_ADMIN"
  | .directoryAdmin => "DIRECTORYADMIN"

/-- The role registered under a name, which is matched exactly. -/
def ofName? (name : String) : Option Role := all.find? (·.name == name)

theorem ofName?_name (r : Role) : ofName? r.name = some r := by cases r <;> decide

theorem name_of_ofName? {name : String} {r : Role} (found : ofName? name = some r) :
    r.name = name := by
  simpa using List.find?_some found

theorem name_injective {r s : Role} (same : r.name = s.name) : r = s := by
  cases r <;> cases s <;> first | rfl | exact absurd same (by decide)

def capabilities : Role → List Capability
  | .demoDayAdmin => [.manageDemoDays, .manageDemoDayParticipants]
  | .directoryAdmin => [.manageMembers, .manageTeams, .manageProjects, .manageFocusAreas]

/-- Whether holding the role only counts together with a host scope that matches. -/
def requiresHostScope : Role → Bool
  | .demoDayAdmin => true
  | .directoryAdmin => false

/-- What the roles are for, told capability by capability. -/
inductive Confers : Role → Capability → Prop
  | demoDays : Confers .demoDayAdmin .manageDemoDays
  | participants : Confers .demoDayAdmin .manageDemoDayParticipants
  | members : Confers .directoryAdmin .manageMembers
  | teams : Confers .directoryAdmin .manageTeams
  | projects : Confers .directoryAdmin .manageProjects
  | focusAreas : Confers .directoryAdmin .manageFocusAreas

theorem mem_capabilities_iff {r : Role} {c : Capability} : c ∈ r.capabilities ↔ r.Confers c := by
  constructor
  · intro listed
    cases r <;> cases c <;> first | constructor | exact absurd listed (by decide)
  · intro conferred
    cases conferred <;> decide

instance (r : Role) (c : Capability) : Decidable (r.Confers c) :=
  decidable_of_iff _ mem_capabilities_iff

theorem requiresHostScope_iff {r : Role} : r.requiresHostScope = true ↔ r = .demoDayAdmin := by
  cases r <;> decide

def parse (name : String) : Except Error Role :=
  match ofName? name with
  | some role => .ok role
  | none => .error (.unknownRole name)

end Role

abbrev RoleSet := OrderedSet Role

/-- The roles of a list of names, or the first name that is not registered. -/
def parseRoleList : List String → Except Error (List Role)
  | [] => .ok []
  | name :: rest => do
    let role ← Role.parse name
    return role :: (← parseRoleList rest)

def parseRoles (names : List String) : Except Error RoleSet :=
  (parseRoleList names).map OrderedSet.ofList

end HostAccess
