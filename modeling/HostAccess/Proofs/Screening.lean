import HostAccess.Proofs.Outcomes

/-! # Screening of updates

An update is screened for faults before the store is asked for anything. Its lists are read from the
front, roles before hosts, so the fault that is reported is the first one in that order; whether
there is a fault at all, and what is written if there is none, only hangs on which entries are
listed. The store may be in any state, down to one without tables. -/
namespace HostAccess

/-- An entry fails a test that all entries before it pass. -/
def FirstFailing {α : Type} (passes : α → Prop) (entries : List α) (entry : α) : Prop :=
  ∃ before after, entries = before ++ entry :: after ∧ (∀ other ∈ before, passes other) ∧
    ¬passes entry

theorem find?_eq_some_iff_firstFailing {α : Type} {passes : α → Prop} {fails : α → Bool}
    (same : ∀ a, fails a = true ↔ ¬passes a) {entries : List α} {entry : α} :
    entries.find? fails = some entry ↔ FirstFailing passes entries entry := by
  simp only [List.find?_eq_some_iff_append, FirstFailing, Bool.not_eq_true', ← Bool.not_eq_true,
    same, Classical.not_not]
  constructor
  · rintro ⟨failed, before, after, rfl, passed⟩
    exact ⟨before, after, rfl, passed, failed⟩
  · rintro ⟨before, after, rfl, passed, failed⟩
    exact ⟨failed, before, after, rfl, passed⟩

namespace Assignment

variable {settings : Settings} {request : GrantRequest}

/-! ## Faults -/

/-- A role is registered under this name. -/
def Registered (name : String) : Prop := ∃ role : Role, role.name = name

/-- An update may name this host: a valid one, and the wildcard only where it may be assigned. -/
def Permitted (settings : Settings) (host : String) : Prop :=
  Host.validate host = .ok () ∧ (host = "*" → settings.allowWildcardAssignment = true)

/-- No list of an update has an entry that is refused. -/
structure Faultless (settings : Settings) (request : GrantRequest) : Prop where
  registered : ∀ names, request.roles = some names → ∀ name ∈ names, Registered name
  permitted : ∀ hosts, request.hosts = some hosts → ∀ host ∈ hosts, Permitted settings host

/-- What an update is refused for. Hosts are looked at if all roles are registered. -/
inductive Fault (settings : Settings) (request : GrantRequest) : Error → Prop
  | unknownRole {names : List String} {name : String} (listed : request.roles = some names)
      (first : FirstFailing Registered names name) : Fault settings request (.unknownRole name)
  | invalidHost {hosts : List String} {host : String}
      (registered : ∀ names, request.roles = some names → ∀ name ∈ names, Registered name)
      (listed : request.hosts = some hosts)
      (first : FirstFailing (Permitted settings) hosts host) :
      Fault settings request (.invalidHost host)

theorem unregistered_iff {name : String} :
    (Role.ofName? name).isNone = true ↔ ¬Registered name := by
  rw [Option.isNone_iff_eq_none]
  constructor
  · rintro unknown ⟨role, rfl⟩
    rw [Role.ofName?_name] at unknown
    cases unknown
  · intro unregistered
    cases found : Role.ofName? name with
    | none => rfl
    | some role => exact absurd ⟨role, Role.name_of_ofName? found⟩ unregistered

theorem assignable_iff {host : String} :
    assignable settings host = true ↔ Permitted settings host := by
  unfold assignable Permitted Host.validate
  by_cases wild : host = "*"
  · cases Host.isValid host <;> simp [wild, Host.wildcard]
  · cases Host.isValid host <;> simp [wild, Host.wildcard]

theorem forbidden_iff {host : String} :
    (!assignable settings host) = true ↔ ¬Permitted settings host := by
  rw [Bool.not_eq_true', ← Bool.not_eq_true, assignable_iff]

theorem roles_registered_iff :
    request.roles.bind firstUnregistered? = none ↔
      ∀ names, request.roles = some names → ∀ name ∈ names, Registered name := by
  rw [Option.bind_eq_none_iff]
  refine forall₂_congr fun names _ => ?_
  rw [firstUnregistered?, List.find?_eq_none]
  refine forall₂_congr fun name _ => ?_
  rw [unregistered_iff, Classical.not_not]

theorem hosts_permitted_iff :
    request.hosts.bind (firstForbidden? settings) = none ↔
      ∀ hosts, request.hosts = some hosts → ∀ host ∈ hosts, Permitted settings host := by
  rw [Option.bind_eq_none_iff]
  refine forall₂_congr fun hosts _ => ?_
  rw [firstForbidden?_eq_none_iff]
  exact forall₂_congr fun host _ => assignable_iff

/-! ## Plans -/

/-- A plan fails for the fault of its update. -/
theorem fault_of_plan {e : Error} (refused : plan settings request = .error e) :
    Fault settings request e := by
  rw [plan_eq] at refused
  split at refused
  next name _ unknown =>
    cases refused
    obtain ⟨names, listed, first⟩ := Option.bind_eq_some_iff.mp unknown
    exact .unknownRole listed ((find?_eq_some_iff_firstFailing fun _ => unregistered_iff).mp first)
  next host known forbidden =>
    cases refused
    obtain ⟨hosts, listed, first⟩ := Option.bind_eq_some_iff.mp forbidden
    exact .invalidHost (roles_registered_iff.mp known) listed
      ((find?_eq_some_iff_firstFailing fun _ => forbidden_iff).mp first)
  next => cases refused

theorem plan_of_fault {e : Error} (fault : Fault settings request e) :
    plan settings request = .error e := by
  rw [plan_eq]
  cases fault with
  | unknownRole listed first =>
    rw [listed, Option.bind_some, firstUnregistered?,
      (find?_eq_some_iff_firstFailing fun _ => unregistered_iff).mpr first]
  | invalidHost registered listed first =>
    rw [roles_registered_iff.mpr registered, listed, Option.bind_some, firstForbidden?,
      (find?_eq_some_iff_firstFailing fun _ => forbidden_iff).mpr first]

theorem plan_of_faultless (faultless : Faultless settings request) :
    plan settings request = .ok (wanted request) :=
  plan_eq_ok_iff.mpr ⟨roles_registered_iff.mpr faultless.registered,
    hosts_permitted_iff.mpr faultless.permitted, rfl⟩

theorem faultless_of_plan {change : GrantChange} (planned : plan settings request = .ok change) :
    Faultless settings request := by
  obtain ⟨known, allowed, -⟩ := plan_eq_ok_iff.mp planned
  exact ⟨roles_registered_iff.mp known, hosts_permitted_iff.mp allowed⟩

/-- The two forms of an update, told apart by its plan. -/
theorem faultless_or_fault (settings : Settings) (request : GrantRequest) :
    Faultless settings request ∨ ∃ fault, Fault settings request fault := by
  cases planned : plan settings request with
  | ok change => exact Or.inl (faultless_of_plan planned)
  | error fault => exact Or.inr ⟨fault, fault_of_plan planned⟩

/-! ## Entries in another order -/

/-- Two updates leave the same lists out, and list the same entries, in any order and number. -/
structure SameEntries (a b : GrantRequest) : Prop where
  roles : Option.Rel (fun l m : List String => ∀ name, name ∈ l ↔ name ∈ m) a.roles b.roles
  hosts : Option.Rel (fun l m : List String => ∀ host, host ∈ l ↔ host ∈ m) a.hosts b.hosts

theorem SameEntries.symm {a b : GrantRequest} (same : SameEntries a b) : SameEntries b a := by
  obtain ⟨roles, hosts⟩ := a
  obtain ⟨roles', hosts'⟩ := b
  obtain ⟨sameRoles, sameHosts⟩ := same
  constructor
  · cases sameRoles with
    | none => exact .none
    | some same => exact .some fun name => (same name).symm
  · cases sameHosts with
    | none => exact .none
    | some same => exact .some fun host => (same host).symm

theorem SameEntries.faultless {a b : GrantRequest} (same : SameEntries a b)
    (faultless : Faultless settings a) : Faultless settings b := by
  obtain ⟨roles, hosts⟩ := a
  obtain ⟨roles', hosts'⟩ := b
  obtain ⟨sameRoles, sameHosts⟩ := same
  constructor
  · rintro names rfl name listed
    cases sameRoles with
    | some same => exact faultless.registered _ rfl name ((same name).mpr listed)
  · rintro hosts rfl host listed
    cases sameHosts with
    | some same => exact faultless.permitted _ rfl host ((same host).mpr listed)

/-- A change is made of sets, which keep neither the order nor the repetitions of a list. -/
theorem SameEntries.wanted {a b : GrantRequest} (same : SameEntries a b) :
    Assignment.wanted a = Assignment.wanted b := by
  obtain ⟨roles, hosts⟩ := a
  obtain ⟨roles', hosts'⟩ := b
  obtain ⟨sameRoles, sameHosts⟩ := same
  have rolesEqual : roles.map (fun names => OrderedSet.ofList (names.filterMap Role.ofName?)) =
      roles'.map fun names => OrderedSet.ofList (names.filterMap Role.ofName?) := by
    cases sameRoles with
    | none => rfl
    | some same =>
      refine congrArg some (OrderedSet.ext fun role => ?_)
      simp only [OrderedSet.mem_ofList, List.mem_filterMap, same]
  have hostsEqual : hosts.map OrderedSet.ofList = hosts'.map OrderedSet.ofList := by
    cases sameHosts with
    | none => rfl
    | some same =>
      refine congrArg some (OrderedSet.ext fun host => ?_)
      rw [OrderedSet.mem_ofList, OrderedSet.mem_ofList, same]
  simp only [Assignment.wanted, rolesEqual, hostsEqual]

/-! ## Answers of the store -/

/-- What the store can answer to an update for a member. -/
inductive StoreAnswer (uid : String) : Except Error Unit → Prop
  | done : StoreAnswer uid (.ok ())
  | absent : StoreAnswer uid (.error (.notFound "member" uid))
  | unavailable (detail : StorageDetail) : StoreAnswer uid (.error (.database detail))
  | rolledBack (reason : String) : StoreAnswer uid (.error (.assignmentTransaction reason))

/-- Failures of a transaction on the grants of a member. -/
inductive GrantFailure (uid : String) : StoreError → Prop
  | absent : GrantFailure uid (.notFound "member" uid)
  | cancelled (reason : String) : GrantFailure uid (.transaction reason)

/-- No step of a transaction fails in another way, whatever tables and rows it meets. -/
def Guarded {α : Type} (uid : String) (step : Except StoreError α) : Prop :=
  ∀ e, step = .error e → GrantFailure uid e

namespace Guarded

variable {α β : Type} {uid : String}

theorem ok (a : α) : Guarded uid (.ok a) := fun _ failed => nomatch failed

theorem bind {step : Except StoreError α} {next : α → Except StoreError β}
    (first : Guarded uid step) (rest : ∀ a, Guarded uid (next a)) :
    Guarded uid (step >>= next) := by
  cases step with
  | error e =>
    rintro e' ⟨⟩
    exact first e rfl
  | ok a => exact rest a

theorem ofRefusal (result : Except Refusal α) :
    Guarded uid (result.mapError Refusal.toCancellation) := by
  cases result with
  | error refusal =>
    rintro e ⟨⟩
    exact .cancelled _
  | ok a => exact ok a

theorem touchMember (now : Instant) (s : Store) : Guarded uid (s.touchMember uid now) := by
  unfold Store.touchMember
  split
  next => exact ofRefusal (.error .emptyId)
  next =>
    split
    next =>
      rintro e ⟨⟩
      exact .absent
    next => exact (ofRefusal _).bind fun _ => ok _

theorem putRoles (roles : RoleSet) (now : Instant) (s : Store) :
    Guarded uid (s.putRoles uid roles now) :=
  (ofRefusal _).bind fun _ => (ofRefusal _).bind fun _ => ok _

theorem putScopes (type : ScopeType) (values : HostSet) (now : Instant) (s : Store) :
    Guarded uid (s.putScopes uid type values now) :=
  (ofRefusal _).bind fun _ => (ofRefusal _).bind fun _ => ok _

theorem putGrants (change : GrantChange) (now : Instant) (s : Store) :
    Guarded uid (s.putGrants uid change now) := by
  rw [Store.putGrants_eq_bind]
  refine (touchMember now s).bind fun touched => bind ?_ fun replaced => ?_
  · cases change.roles with
    | none => exact ok touched
    | some roles => exact putRoles roles now touched
  · cases change.hosts with
    | none => exact ok replaced
    | some hosts => exact putScopes .host hosts now replaced

end Guarded

variable {s : Store} {moment : Moment} {uid : String}

theorem storeAnswer_of_failure {e : StoreError} (failure : GrantFailure uid e) :
    StoreAnswer uid (.error e.toError) := by
  cases failure with
  | absent => exact .absent
  | cancelled reason => exact .rolledBack reason

theorem storeAnswer_apply (change : GrantChange) :
    StoreAnswer uid ((Grants.apply uid change).run moment s).result := by
  rw [Grants.run_apply]
  split
  next => exact .done
  next =>
    cases put : s.putGrants uid change moment.now with
    | ok s' => exact .done
    | error e => exact storeAnswer_of_failure (Guarded.putGrants change moment.now s e put)

theorem storeAnswer_demandMember {e : Error} (refused : demandMember uid s = .error e) :
    StoreAnswer uid (.error e) := by
  rw [demandMember_eq] at refused
  split at refused
  next =>
    cases refused
    exact .unavailable _
  next =>
    split at refused
    next => cases refused
    next =>
      cases refused
      exact .absent

/-- Nothing is asked of the store before a plan is made. -/
theorem run_update_of_refused {e : Error} (refused : plan settings request = .error e) :
    (update settings uid request).run moment s = ⟨.error e, s, []⟩ := by
  rw [update, Action.run_bind, Action.run_ofExcept, refused]

theorem storeAnswer_update {change : GrantChange} (planned : plan settings request = .ok change) :
    StoreAnswer uid ((update settings uid request).run moment s).result := by
  rw [update, Action.run_bind, Action.run_ofExcept, planned]
  cases demanded : demandMember uid s with
  | error e =>
    simp only [Action.run_bind, Action.run_read, demanded]
    exact storeAnswer_demandMember demanded
  | ok =>
    by_cases silent : change.isEmpty = true
    -- Of a change that says nothing the store hears no more than the uid.
    · simpa [Action.run_bind, demanded, silent] using StoreAnswer.done
    have applied : StoreAnswer uid ((Grants.apply uid change).run moment s).result :=
      storeAnswer_apply change
    cases outcome : ((Grants.apply uid change).run moment s).result with
    | error e =>
      rw [outcome] at applied
      simpa [Action.run_bind, demanded, silent, outcome] using applied
    | ok =>
      simpa [Action.run_bind, demanded, silent, outcome] using StoreAnswer.done

/-- An update with a fault is refused for it by every store, which is left as it is. One without a
fault is left to the store. Order and repetitions of the entries have no part in that, nor in what
is written. -/
theorem update_screened (settings : Settings) (request : GrantRequest) :
    (Faultless settings request ∨ ∃ fault, Fault settings request fault) ∧
      (∀ fault, Fault settings request fault → ∀ uid moment s,
        (update settings uid request).run moment s = ⟨.error fault, s, []⟩) ∧
      (Faultless settings request → ∀ uid moment s,
        StoreAnswer uid ((update settings uid request).run moment s).result) ∧
      ∀ other, SameEntries request other →
        ((∃ fault, Fault settings request fault) ∧ ∃ fault, Fault settings other fault) ∨
          ∃ change, plan settings request = .ok change ∧ plan settings other = .ok change ∧
            ∀ uid moment s, (update settings uid request).run moment s =
              (update settings uid other).run moment s := by
  refine ⟨faultless_or_fault settings request,
    fun fault found uid moment s => run_update_of_refused (plan_of_fault found),
    fun faultless uid moment s => storeAnswer_update (plan_of_faultless faultless),
    fun other same => ?_⟩
  rcases faultless_or_fault settings request with faultless | faulty
  · have planned := plan_of_faultless faultless
    have plannedOther := plan_of_faultless (same.faultless faultless)
    rw [← same.wanted] at plannedOther
    refine Or.inr ⟨wanted request, planned, plannedOther, fun uid moment s => ?_⟩
    rw [update, update, planned, plannedOther]
  · rcases faultless_or_fault settings other with faultless | faultyOther
    · -- A list without a fault has none in another order either.
      obtain ⟨fault, found⟩ := faulty
      have planned := plan_of_faultless (same.symm.faultless faultless)
      rw [plan_of_fault found] at planned
      cases planned
    · exact Or.inl ⟨faulty, faultyOther⟩

/-- Two names are unknown, and a third fault is among the hosts. The name that is reported is the
first, on a store that has no tables. With the list turned around the update is refused as well. -/
theorem update_screened_misspelled :
    let settings : Settings := { allowWildcardAssignment := false }
    let moment : Moment := ⟨Instant.epoch, Uuid.ofNat 1⟩
    let request : GrantRequest := ⟨some ["DIRECTORYADMIN", "COOK", "JANITOR"], some ["*"]⟩
    let other : GrantRequest := ⟨some ["JANITOR", "COOK", "DIRECTORYADMIN", "COOK"], some ["*"]⟩
    Fault settings request (.unknownRole "COOK") ∧ SameEntries request other ∧
      (update settings "ada" request).run moment Store.empty =
        ⟨.error (.unknownRole "COOK"), Store.empty, []⟩ ∧
      ∃ fault, Fault settings other fault := by
  intro settings moment request other
  have planned : plan settings request = .error (.unknownRole "COOK") := rfl
  have fault := fault_of_plan planned
  have same : SameEntries request other :=
    ⟨.some fun name => by simp only [List.mem_cons]; grind, .some fun _ => Iff.rfl⟩
  obtain ⟨-, refused, -, alike⟩ := update_screened settings request
  refine ⟨fault, same, refused _ fault "ada" moment Store.empty, ?_⟩
  rcases alike other same with ⟨-, faulty⟩ | ⟨change, accepted, -⟩
  · exact faulty
  · rw [planned] at accepted
    cases accepted

end Assignment

end HostAccess
