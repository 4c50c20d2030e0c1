import HostAccess.Proofs.Integrity

/-! # The directory as a roster

To those who create and delete members, assign grants and ask for access, the directory is a map
from uids to a set of roles and a set of hosts. The map knows no rows, tables or transactions; that
it answers every call of every run as the store does is the content of this module. A store in
which rows could outlive their member would not be one, as the map forgets what a member had. -/
namespace HostAccess

/-! ## Calls -/

/-- Calls that change members and their grants, and those that ask for them. -/
inductive Call
  | create (new : NewMember)
  | delete (uid : String)
  | update (settings : Settings) (uid : String) (request : GrantRequest)
  | grants (uid : String)
  | canAdminister (settings : Settings) (uid : String) (role : Role) (host : String)
  | capabilities (settings : Settings) (uid host : String)

def Call.operation : Call → Operation
  | .create new => .createMember new
  | .delete uid => .deleteMember uid
  | .update settings uid request => .assign settings uid request
  | .grants uid => .grantsOf uid
  | .canAdminister settings uid role host => .canAdminister settings uid role host
  | .capabilities settings uid host => .capabilities settings uid host

/-! ## The roster -/

/-- The members that there are, each with its grants. -/
def Roster : Type := String → Option Grants

namespace Roster

def empty : Roster := fun _ => none

def set (r : Roster) (uid : String) (entry : Option Grants) : Roster :=
  fun who => if who = uid then entry else r who

/-- The entry of a uid, for calls that need one. -/
def entry (r : Roster) (uid : String) : Except Error Grants :=
  if uid = "" then .error Refusal.emptyId.toStoreError.toError
  else
    match r uid with
    | some grants => .ok grants
    | none => .error (.notFound "member" uid)

end Roster

/-- What an update is refused for before it is known whether its member exists. -/
def GrantRequest.refusal? (request : GrantRequest) (settings : Settings) : Option Error :=
  match request.roles.bind firstUnregistered?,
      request.hosts.bind (Assignment.firstForbidden? settings) with
  | some name, _ => some (.unknownRole name)
  | none, some host => some (.invalidHost host)
  | none, none => none

/-- Grants after an update. Roles that are listed without the administration of demo days take the
hosts with them, unless hosts are listed as well. -/
def GrantRequest.supersede (request : GrantRequest) (grants : Grants) : Grants where
  roles :=
    match request.roles with
    | some names => OrderedSet.ofList (names.filterMap Role.ofName?)
    | none => grants.roles
  hosts :=
    match request.hosts, request.roles with
    | some hosts, _ => OrderedSet.ofList hosts
    | none, some names => if "DEMO_DAY_ADMIN" ∈ names then grants.hosts else OrderedSet.empty
    | none, none => grants.hosts

/-- Whether grants reach a host. -/
def Grants.reach (grants : Grants) (settings : Settings) (host : String) : Bool :=
  decide (host ∈ grants.hosts ∨ settings.honorWildcardHost = true ∧ "*" ∈ grants.hosts)

namespace Roster

def administers (r : Roster) (settings : Settings) (uid : String) (role : Role) (host : String) :
    Bool :=
  match r uid with
  | some grants => decide (role ∈ grants.roles) && grants.reach settings host
  | none => false

def capabilities (r : Roster) (settings : Settings) (uid host : String) : Access.CapabilitySet :=
  match r uid with
  | some grants => OrderedSet.ofList <| Capability.all.filter fun capability =>
      decide (∃ role ∈ grants.roles.toList, role.Confers capability ∧
        (role = .demoDayAdmin → grants.reach settings host = true))
  | none => OrderedSet.empty

/-- The answer to a call, and the roster that it leaves. -/
def step (r : Roster) (moment : Moment) : Call → Except Error Answer × Roster
  | .create new =>
    if new.uid = "" then (.error (.validation .emptyMemberUid), r)
    else
      match r new.uid with
      | some _ => (.error (.alreadyExists "member"), r)
      | none => (.ok (.member ⟨new.uid, new.name, new.email, moment.now, moment.now⟩),
          r.set new.uid (some ⟨OrderedSet.empty, OrderedSet.empty⟩))
  | .delete uid =>
    match r.entry uid with
    | .error e => (.error e, r)
    | .ok _ => (.ok .done, r.set uid none)
  | .update settings uid request =>
    match request.refusal? settings, r.entry uid with
    | some e, _ => (.error e, r)
    | none, .error e => (.error e, r)
    | none, .ok grants => (.ok .done, r.set uid (some (request.supersede grants)))
  | .grants uid => ((r.entry uid).map .grants, r)
  | .canAdminister settings uid role host => (.ok (.flag (r.administers settings uid role host)), r)
  | .capabilities settings uid host => (.ok (.capabilities (r.capabilities settings uid host)), r)

/-- The answers to calls that follow each other. -/
def answers (r : Roster) : List (Moment × Call) → List (Except Error Answer)
  | [] => []
  | (moment, call) :: rest => (r.step moment call).1 :: answers (r.step moment call).2 rest

@[simp] theorem set_self (r : Roster) (uid : String) (entry : Option Grants) :
    r.set uid entry uid = entry := if_pos rfl

theorem set_other {r : Roster} {uid who : String} {entry : Option Grants} (other : who ≠ uid) :
    r.set uid entry who = r who := if_neg other

theorem set_same {r : Roster} {uid : String} {entry : Option Grants} (same : r uid = entry) :
    r.set uid entry = r := by
  funext who
  by_cases own : who = uid
  · rw [own, set_self, same]
  · exact set_other own

end Roster

/-! ## The roster of a store -/

namespace Store

def roster (s : Store) : Roster := fun uid =>
  if Members.present s uid then some ⟨s.rolesOf uid, s.hostsOf uid⟩ else none

variable {s s' : Store} {uid : String}

theorem roster_member (member : s.IsMember uid) :
    s.roster uid = some ⟨s.rolesOf uid, s.hostsOf uid⟩ := if_pos (present_iff.mpr member)

theorem roster_absent (absent : ¬s.IsMember uid) : s.roster uid = none :=
  if_neg (mt present_iff.mp absent)

theorem roster_entry_eq_ok_iff {grants : Grants} : s.roster.entry uid = .ok grants ↔
    (uid ≠ "" ∧ s.IsMember uid) ∧ grants = ⟨s.rolesOf uid, s.hostsOf uid⟩ := by
  unfold Roster.entry
  by_cases empty : uid = ""
  · simp [empty]
  by_cases member : s.IsMember uid
  · simp [empty, member, roster_member, eq_comm]
  · simp [empty, member, roster_absent]

/-- The same members are missing in the store and in the roster, for the same reason. -/
theorem demandMember_eq_entry (s : Store) (uid : String) :
    Assignment.demandMember uid s = (s.roster.entry uid).map fun _ => () := by
  rw [Assignment.demandMember_eq, Roster.entry, roster]
  by_cases empty : uid = ""
  · rw [if_pos empty, if_pos empty]
    rfl
  · rw [if_neg empty, if_neg empty]
    cases Members.present s uid <;> rfl

/-- A write that is about one member changes the entry of that member. -/
theorem roster_frame (members : ∀ who, who ≠ uid → (s'.IsMember who ↔ s.IsMember who))
    (roles : ∀ who, who ≠ uid → s'.rolesOf who = s.rolesOf who)
    (hosts : ∀ who, who ≠ uid → s'.hostsOf who = s.hostsOf who) :
    s'.roster = s.roster.set uid (s'.roster uid) := by
  funext who
  by_cases own : who = uid
  · rw [own, Roster.set_self]
  rw [Roster.set_other own]
  by_cases member : s.IsMember who
  · rw [roster_member member, roster_member ((members who own).mpr member), roles who own,
      hosts who own]
  · rw [roster_absent member, roster_absent (mt (members who own).mp member)]

theorem roster_joined (owned : s.Owned) {m : Member} (free : ¬s.IsMember m.uid) :
    (s.joined m).roster = s.roster.set m.uid (some ⟨OrderedSet.empty, OrderedSet.empty⟩) := by
  have frame : (s.joined m).roster = s.roster.set m.uid ((s.joined m).roster m.uid) := by
    refine roster_frame (fun who other => ?_) (fun _ _ => rfl) (fun _ _ => rfl)
    exact isMember_joined.trans (or_iff_left other.symm)
  -- The new member has the rows that its uid had before, of which there are none.
  rw [frame, roster_member (isMember_joined.mpr (Or.inr rfl))]
  rw [show (s.joined m).rolesOf m.uid = s.rolesOf m.uid from rfl, owned.rolesOf_absent free,
    show (s.joined m).hostsOf m.uid = s.hostsOf m.uid from rfl, owned.hostsOf_absent free]

theorem roster_without (s : Store) (uid : String) :
    (s.without uid).roster = s.roster.set uid none := by
  have frame : (s.without uid).roster = s.roster.set uid ((s.without uid).roster uid) := by
    refine roster_frame (fun who other => ?_) (fun who other => ?_) (fun who other => ?_)
    · exact isMember_without.trans (and_iff_right other)
    · exact rolesOf_without.trans (if_neg other)
    · exact hostsOf_without.trans (if_neg other)
  rw [frame, roster_absent fun member => (isMember_without.mp member).1 rfl]

theorem roster_granted (member : s.IsMember uid) (change : GrantChange) (now : Instant) :
    (s.granted uid change now).roster =
      s.roster.set uid (some ⟨change.roles.getD (s.rolesOf uid), change.hosts.getD (s.hostsOf uid)⟩) := by
  have frame : (s.granted uid change now).roster =
      s.roster.set uid ((s.granted uid change now).roster uid) := by
    refine roster_frame (fun who other => ?_) (fun who other => ?_) (fun who other => ?_)
    · exact isMember_granted
    · exact rolesOf_granted.trans (if_neg other)
    · exact hostsOf_granted.trans (if_neg other)
  rw [frame, roster_member (isMember_granted.mpr member), rolesOf_granted, if_pos rfl,
    hostsOf_granted, if_pos rfl]

end Store

/-! ## Updates -/

namespace GrantRequest

theorem plan_eq_refusal (request : GrantRequest) (settings : Settings) :
    Assignment.plan settings request =
      match request.refusal? settings with
      | some e => .error e
      | none => .ok (Assignment.wanted request) := by
  rw [Assignment.plan_eq, refusal?]
  cases request.roles.bind firstUnregistered? <;>
    cases request.hosts.bind (Assignment.firstForbidden? settings) <;> rfl

theorem demoDayAdmin_mem_iff {names : List String} :
    Role.demoDayAdmin ∈ OrderedSet.ofList (names.filterMap Role.ofName?) ↔
      "DEMO_DAY_ADMIN" ∈ names := by
  rw [OrderedSet.mem_ofList, List.mem_filterMap]
  constructor
  · rintro ⟨name, listed, registered⟩
    rw [← Role.name_of_ofName? registered] at listed
    exact listed
  · exact fun listed => ⟨_, listed, Role.ofName?_name .demoDayAdmin⟩

/-- What the change of an update leaves of grants is what the update makes of them. -/
theorem supersede_eq (request : GrantRequest) (grants : Grants) :
    request.supersede grants = ⟨(Assignment.wanted request).roles.getD grants.roles,
      (Assignment.wanted request).hosts.getD grants.hosts⟩ := by
  obtain ⟨roles, hosts⟩ := request
  cases hosts with
  | some hosts => cases roles <;> rfl
  | none =>
    cases roles with
    | none => rfl
    | some names =>
      simp only [supersede, Assignment.wanted, Assignment.retireHosts, Option.map_some,
        Option.map_none, Option.getD_some]
      -- Roles without hosts: the name is looked for in the list here, the role in the set there.
      by_cases admin : "DEMO_DAY_ADMIN" ∈ names
      · rw [if_pos admin, if_pos (demoDayAdmin_mem_iff.mpr admin), Option.getD_none]
      · rw [if_neg admin, if_neg (mt demoDayAdmin_mem_iff.mp admin), Option.getD_some]

/-- An update that lists nothing leaves grants as they are. -/
theorem supersede_silent {request : GrantRequest}
    (silent : (Assignment.wanted request).isEmpty = true) (grants : Grants) :
    request.supersede grants = grants := by
  have none : (Assignment.wanted request).roles = none ∧ (Assignment.wanted request).hosts = none := by
    simpa [GrantChange.isEmpty] using silent
  rw [supersede_eq, none.1, none.2]
  rfl

end GrantRequest

/-! ## Checks -/

namespace Store

variable {s : Store} {settings : Settings} {uid host : String} {role : Role}

theorem reach_stored_iff :
    Grants.reach ⟨s.rolesOf uid, s.hostsOf uid⟩ settings host = true ↔ s.Covers settings uid host := by
  rw [Grants.reach, decide_eq_true_eq, mem_hostsOf, mem_hostsOf]
  rfl

/-- A member that is not there holds no role, so that checks need not ask whether it is. -/
theorem administers_roster_iff (owned : s.Owned) :
    s.roster.administers settings uid role host = true ↔
      s.HoldsRole uid role ∧ s.Covers settings uid host := by
  unfold Roster.administers
  by_cases member : s.IsMember uid
  · rw [roster_member member]
    simp only [Bool.and_eq_true, decide_eq_true_eq, mem_rolesOf, reach_stored_iff]
  · rw [roster_absent member]
    exact iff_of_false nofun fun held => member (owned.holdsRole_member held.1)

theorem mem_capabilities_roster_iff (owned : s.Owned) {capability : Capability} :
    capability ∈ s.roster.capabilities settings uid host ↔
      Access.Entitles s settings uid host capability := by
  unfold Roster.capabilities
  by_cases member : s.IsMember uid
  · have listed : capability ∈ Capability.all := by cases capability <;> decide
    rw [roster_member member]
    simp only [OrderedSet.mem_ofList, List.mem_filter, decide_eq_true_eq, OrderedSet.mem_toList,
      mem_rolesOf, reach_stored_iff, listed, true_and, Access.Entitles]
  · rw [roster_absent member]
    refine iff_of_false OrderedSet.not_mem_empty ?_
    rintro ⟨role, held, -⟩
    exact member (owned.holdsRole_member held)

end Store

/-! ## Steps -/

section Steps

variable {s : Store} {moment : Moment} (migrated : s.Migrated)

/-- A call does to a store and answers what it does to its roster and answers there. -/
def Call.Refines (call : Call) (moment : Moment) (s : Store) : Prop :=
  (call.operation.perform.run moment s).result = (s.roster.step moment call).1.mapError .error ∧
    (call.operation.perform.run moment s).store.roster = (s.roster.step moment call).2

include migrated

theorem create_refines (owned : s.Owned) (new : NewMember) : (Call.create new).Refines moment s := by
  unfold Call.Refines
  rw [Call.operation, Operation.perform, Operation.answering, Action.run_map,
    Members.run_create migrated, Roster.step]
  by_cases empty : new.uid = ""
  · rw [if_pos empty, if_pos empty]
    exact ⟨rfl, rfl⟩
  rw [if_neg empty, if_neg empty]
  by_cases member : s.IsMember new.uid
  · rw [if_pos (Store.present_iff.mpr member), Store.roster_member member]
    exact ⟨rfl, rfl⟩
  · rw [if_neg (mt Store.present_iff.mp member), Store.roster_absent member]
    exact ⟨rfl, Store.roster_joined (m := new.row moment.now) owned member⟩

theorem delete_refines (uid : String) : (Call.delete uid).Refines moment s := by
  unfold Call.Refines
  rw [Call.operation, Operation.perform, Operation.doing, Operation.answering, Action.run_map,
    Members.run_delete migrated, Roster.step, Roster.entry]
  by_cases empty : uid = ""
  · rw [if_pos empty, if_pos empty]
    exact ⟨rfl, rfl⟩
  rw [if_neg empty, if_neg empty]
  by_cases member : s.IsMember uid
  · rw [if_pos (Store.present_iff.mpr member), Store.roster_member member]
    exact ⟨rfl, Store.roster_without s uid⟩
  · rw [if_neg (mt Store.present_iff.mp member), Store.roster_absent member]
    exact ⟨rfl, rfl⟩

theorem update_refines (settings : Settings) (uid : String) (request : GrantRequest) :
    (Call.update settings uid request).Refines moment s := by
  unfold Call.Refines
  rw [Call.operation, Operation.perform, Operation.doing, Operation.answering, Action.run_map,
    Assignment.run_update migrated, request.plan_eq_refusal, Store.demandMember_eq_entry, Roster.step]
  -- An entry that is refused is reported before a member that is missing, on both sides.
  cases request.refusal? settings with
  | some e => exact ⟨rfl, rfl⟩
  | none =>
    cases found : s.roster.entry uid with
    | error e => exact ⟨rfl, rfl⟩
    | ok grants =>
      obtain ⟨⟨-, member⟩, rfl⟩ := Store.roster_entry_eq_ok_iff.mp found
      by_cases silent : (Assignment.wanted request).isEmpty = true
      -- The store is not written, and the roster sets the entry that is there.
      · simp only [Except.map, if_pos silent]
        rw [request.supersede_silent silent, Roster.set_same (Store.roster_member member)]
        exact ⟨trivial, rfl⟩
      · simp only [Except.map, if_neg silent]
        rw [request.supersede_eq]
        exact ⟨trivial, Store.roster_granted member _ _⟩

theorem grants_refines (uid : String) : (Call.grants uid).Refines moment s := by
  have read : Assignment.grantsOf uid s = s.roster.entry uid := by
    rw [Assignment.grantsOf, Store.demandMember_eq_entry]
    cases found : s.roster.entry uid with
    | error e => rfl
    | ok grants =>
      obtain ⟨-, rfl⟩ := Store.roster_entry_eq_ok_iff.mp found
      exact mapError_eq_ok_iff.mpr (migrated.stored_grants uid)
  unfold Call.Refines
  rw [Call.operation, Operation.perform, Operation.reading, Operation.answering, Action.run_map,
    Action.run_read, Roster.step, read]
  exact ⟨rfl, rfl⟩

theorem canAdminister_refines (owned : s.Owned) (settings : Settings) (uid : String) (role : Role)
    (host : String) : (Call.canAdminister settings uid role host).Refines moment s := by
  have same : (Access.canAdminister settings uid role host s).value =
      s.roster.administers settings uid role host := by
    rw [Bool.eq_iff_iff, Access.canAdminister_iff migrated, Store.administers_roster_iff owned]
  refine ⟨?_, rfl⟩
  rw [Roster.step, ← same]
  rfl

theorem capabilities_refines (owned : s.Owned) (settings : Settings) (uid host : String) :
    (Call.capabilities settings uid host).Refines moment s := by
  have same : (Access.capabilities settings uid host s).value =
      s.roster.capabilities settings uid host := by
    refine OrderedSet.ext fun capability => ?_
    rw [Access.mem_capabilities_iff migrated, Store.mem_capabilities_roster_iff owned]
  refine ⟨?_, rfl⟩
  rw [Roster.step, ← same]
  rfl

theorem Call.refines (owned : s.Owned) (call : Call) (moment : Moment) : call.Refines moment s := by
  cases call with
  | create new => exact create_refines migrated owned new
  | delete uid => exact delete_refines migrated uid
  | update settings uid request => exact update_refines migrated settings uid request
  | grants uid => exact grants_refines migrated uid
  | canAdminister settings uid role host =>
    exact canAdminister_refines migrated owned settings uid role host
  | capabilities settings uid host => exact capabilities_refines migrated owned settings uid host

end Steps

/-! ## Runs -/

def Call.run (calls : List (Moment × Call)) : Run :=
  calls.map fun (moment, call) => (moment, call.operation)

theorem Run.answers_of_roster {s : Store} (settled : s.Settled) (owned : s.Owned)
    (calls : List (Moment × Call)) :
    (Run.outcomes s (Call.run calls)).map Outcome.result =
      (s.roster.answers calls).map (Except.mapError .error) := by
  induction calls generalizing s with
  | nil => rfl
  | cons step rest ih =>
    obtain ⟨moment, call⟩ := step
    -- One call is answered alike, and leaves the roster of the store that it leaves.
    obtain ⟨answer, after⟩ := Call.refines settled.toMigrated owned call moment
    obtain ⟨stillSettled, stillOwned⟩ := settled.perform_keeps
      (fun settled owned commit => owned.commit settled commit) owned call.operation moment
    rw [Roster.answers, List.map_cons, ← answer, ← after, ← ih stillSettled stillOwned]
    rfl

/-- Whatever members are created and deleted and whatever they are assigned, in any order and with
any refusals in between, every call is answered as the roster answers it. -/
theorem Run.refines_roster (calls : List (Moment × Call)) :
    (Run.outcomes Store.fresh (Call.run calls)).map Outcome.result =
      (Roster.empty.answers calls).map (Except.mapError .error) :=
  Run.answers_of_roster Store.fresh_settled Store.fresh_owned calls

end HostAccess
