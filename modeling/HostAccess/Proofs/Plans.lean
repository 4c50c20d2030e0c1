import HostAccess.Assignment

/-! # Plans

The lists of an update are read from the front, and the first entry that is not acceptable decides
the answer. If there is none, what is left of a list is the set of its entries. -/
namespace HostAccess

/-! ## Roles -/

/-- The first name of a list that is not the name of a role. -/
def firstUnregistered? (names : List String) : Option String :=
  names.find? fun name => (Role.ofName? name).isNone

theorem firstUnregistered?_cons (name : String) (rest : List String) :
    firstUnregistered? (name :: rest) =
      match Role.ofName? name with
      | some _ => firstUnregistered? rest
      | none => some name := by
  rw [firstUnregistered?, List.find?_cons]
  cases Role.ofName? name <;> rfl

theorem parseRoleList_eq (names : List String) :
    parseRoleList names =
      match firstUnregistered? names with
      | some name => .error (.unknownRole name)
      | none => .ok (names.filterMap Role.ofName?) := by
  induction names with
  | nil => rfl
  | cons name rest ih =>
    rw [parseRoleList, ih, Role.parse, firstUnregistered?_cons, List.filterMap_cons]
    cases Role.ofName? name with
    | none => rfl
    | some role => cases firstUnregistered? rest <;> rfl

theorem parseRoles_eq (names : List String) :
    parseRoles names =
      match firstUnregistered? names with
      | some name => .error (.unknownRole name)
      | none => .ok (OrderedSet.ofList (names.filterMap Role.ofName?)) := by
  rw [parseRoles, parseRoleList_eq]
  cases firstUnregistered? names <;> rfl

/-! ## Hosts -/

namespace Assignment

/-- A host that an update may name. -/
def assignable (settings : Settings) (host : String) : Bool :=
  Host.isValid host && (host != Host.wildcard || settings.allowWildcardAssignment)

/-- The first host of a list that may not be assigned. -/
def firstForbidden? (settings : Settings) (hosts : List String) : Option String :=
  hosts.find? fun host => !assignable settings host

theorem validateHost_eq (settings : Settings) (host : String) :
    validateHost settings host =
      if assignable settings host then .ok () else .error (.invalidHost host) := by
  unfold validateHost Host.validate assignable
  -- The wildcard passes the check of hosts, and is then looked at on its own.
  by_cases wild : host = Host.wildcard
  · cases allowed : settings.allowWildcardAssignment <;> simp [wild, AssignmentError.toError]
  · simp [wild]

theorem firstForbidden?_cons (settings : Settings) (host : String) (rest : List String) :
    firstForbidden? settings (host :: rest) =
      if assignable settings host then firstForbidden? settings rest else some host := by
  rw [firstForbidden?, List.find?_cons]
  cases assignable settings host <;> rfl

theorem validateHosts_eq (settings : Settings) (hosts : List String) :
    validateHosts settings hosts =
      match firstForbidden? settings hosts with
      | some host => .error (.invalidHost host)
      | none => .ok () := by
  induction hosts with
  | nil => rfl
  | cons host rest ih =>
    rw [validateHosts, ih, validateHost_eq, firstForbidden?_cons]
    cases assignable settings host <;> rfl

theorem not_assignable_empty (settings : Settings) : assignable settings "" = false := by
  have invalid : Host.isValid "" = false := by decide
  simp [assignable, invalid]

theorem firstForbidden?_eq_none_iff {settings : Settings} {hosts : List String} :
    firstForbidden? settings hosts = none ↔ ∀ host ∈ hosts, assignable settings host = true := by
  simp [firstForbidden?, List.find?_eq_none]

/-! ## Whole updates -/

theorem requestedRoles_eq (request : GrantRequest) :
    requestedRoles request =
      match request.roles.bind firstUnregistered? with
      | some name => .error (.unknownRole name)
      | none => .ok (request.roles.map fun names => OrderedSet.ofList (names.filterMap Role.ofName?)) := by
  obtain ⟨roles, hosts⟩ := request
  cases roles with
  | none => rfl
  | some names =>
    simp only [requestedRoles, parseRoles_eq, Option.bind_some]
    cases firstUnregistered? names <;> rfl

theorem requestedHosts_eq (settings : Settings) (request : GrantRequest) :
    requestedHosts settings request =
      match request.hosts.bind (firstForbidden? settings) with
      | some host => .error (.invalidHost host)
      | none => .ok (request.hosts.map OrderedSet.ofList) := by
  obtain ⟨roles, hosts⟩ := request
  cases hosts with
  | none => rfl
  | some hosts =>
    simp only [requestedHosts, validateHosts_eq, Option.bind_some]
    cases firstForbidden? settings hosts <;> rfl

/-- The change of an update none of whose entries is refused. -/
def wanted (request : GrantRequest) : GrantChange :=
  let roles := request.roles.map fun names => OrderedSet.ofList (names.filterMap Role.ofName?)
  ⟨roles, retireHosts roles (request.hosts.map OrderedSet.ofList)⟩

/-- A name that is not registered is reported before any host. -/
theorem plan_eq (settings : Settings) (request : GrantRequest) :
    plan settings request =
      match request.roles.bind firstUnregistered?,
          request.hosts.bind (firstForbidden? settings) with
      | some name, _ => .error (.unknownRole name)
      | none, some host => .error (.invalidHost host)
      | none, none => .ok (wanted request) := by
  rw [plan, requestedRoles_eq, requestedHosts_eq]
  cases request.roles.bind firstUnregistered? <;>
    cases request.hosts.bind (firstForbidden? settings) <;> rfl

theorem plan_eq_ok_iff {settings : Settings} {request : GrantRequest} {change : GrantChange} :
    plan settings request = .ok change ↔
      request.roles.bind firstUnregistered? = none ∧
        request.hosts.bind (firstForbidden? settings) = none ∧ change = wanted request := by
  rw [plan_eq]
  cases request.roles.bind firstUnregistered? <;>
    cases request.hosts.bind (firstForbidden? settings) <;> simp [eq_comm]

/-- Hosts that are written were named by the caller. -/
theorem mem_wanted_hosts {request : GrantRequest} {hosts : HostSet} {host : String}
    (written : (wanted request).hosts = some hosts) (member : host ∈ hosts) :
    ∃ named, request.hosts = some named ∧ host ∈ named := by
  obtain ⟨roles, asked⟩ := request
  cases asked with
  | some named =>
    have same : hosts = OrderedSet.ofList named := by
      cases roles <;> exact (Option.some.inj written).symm
    exact ⟨named, rfl, OrderedSet.mem_ofList.mp (same ▸ member)⟩
  | none =>
    -- Only a retirement writes hosts that nobody named, and it writes none.
    cases roles with
    | none => cases written
    | some names =>
      simp only [wanted, retireHosts, Option.map_some, Option.map_none] at written
      split at written
      · cases written
      · rw [← Option.some.inj written] at member
        exact absurd member OrderedSet.not_mem_empty

theorem plan_hosts_assignable {settings : Settings} {request : GrantRequest} {change : GrantChange}
    (planned : plan settings request = .ok change) {hosts : HostSet}
    (written : change.hosts = some hosts) {host : String} (member : host ∈ hosts) :
    assignable settings host = true := by
  obtain ⟨-, permitted, rfl⟩ := plan_eq_ok_iff.mp planned
  obtain ⟨named, asked, listed⟩ := mem_wanted_hosts written member
  rw [asked, Option.bind_some, firstForbidden?_eq_none_iff] at permitted
  exact permitted host listed

end Assignment

end HostAccess
