import HostAccess.Proofs.Integrity

/-! # Requests and services

What comes in as a request is answered by a service, and the caller is owed what the service says.
The debt is written down here without the router, as a relation between a demand, a store and a
response, and the router is shown to pay it on every store that can come about. Internal faults are
no part of it: past the reads and writes that a migrated store cannot refuse there is only one left,
which is that the store is asked for a record without a name. -/
namespace HostAccess

/-- Where a type is listed in ascending order, each of its sets is listed in that order. -/
theorem OrderedSet.toList_sublist {α : Type} [Ord α] [Std.LawfulEqOrd α] [Std.TransOrd α]
    [DecidableEq α] (set : OrderedSet α) {all : List α}
    (ascending : all.Pairwise fun a b => compare a b = .lt) (listed : ∀ a, a ∈ all) :
    set.toList.Sublist all := by
  have same : set = ⟨all.filter (· ∈ set), ascending.filter _⟩ :=
    ext fun a => (List.mem_filter.trans (by simp [listed a])).symm
  rw [same]
  exact List.filter_sublist

namespace Http

variable {s : Store} {moment : Moment} {settings : Settings} {request : Request}

/-! ## Demands -/

/-- What a request on members asks for, once everything that it names is decoded. -/
inductive Demand
  | update (uid : String) (wanted : GrantRequest)
  | grants (uid : String)
  | access (uid role host : String)
  | dayAccess (uid slug : String)
deriving DecidableEq

/-- The demand of reading what a path leads to. -/
def Route.demand? (query : List Char) : Route → Option Demand
  | .health => none
  | .grants uid => do return .grants (← Text.percentDecode? uid)
  | .access uid => do
    return .access (← Text.percentDecode? uid) (← Query.single (Query.pairs query) "role")
      (← Query.single (Query.pairs query) "host")
  | .dayAccess uid slug => do
    return .dayAccess (← Text.percentDecode? uid) (← Text.percentDecode? slug)

/-- What a request demands, if it is one on members and its parts can be decoded. -/
def demand? (request : Request) : Option Demand := do
  let route ← Route.ofPath? request.target.path
  match request.method, route with
  | "PATCH", .grants uid =>
    return .update (← Text.percentDecode? uid) (← (requestedChange request).toOption)
  | "GET", route | "HEAD", route => route.demand? request.target.query
  | _, _ => none

/-- The response to a request for the head of a response has no content. -/
def Request.receives (request : Request) (response : Response) : Response :=
  if request.method = "HEAD" then { response with content := .empty } else response

namespace Demand

/-- The service that a demand goes to. -/
def service (settings : Settings) : Demand → Action Error Response
  | .update uid wanted => patchGrants settings uid wanted
  | .grants uid => getGrants uid
  | .access uid role host => getAccess settings uid role host
  | .dayAccess uid slug => getDayAccess settings uid slug

end Demand

theorem get_of_demand {route : Route} {query : List Char} {demand : Demand}
    (demanded : route.demand? query = some demand) :
    get settings route query = complain (demand.service settings) := by
  cases route with
  | health => cases demanded
  | grants uid =>
    simp only [Route.demand?, Option.bind_eq_bind, Option.bind_eq_some_iff, Option.pure_def,
      Option.some.injEq] at demanded
    obtain ⟨named, decoded, rfl⟩ := demanded
    simp only [get, decoded]
    rfl
  | access uid =>
    simp only [Route.demand?, Option.bind_eq_bind, Option.bind_eq_some_iff, Option.pure_def,
      Option.some.injEq] at demanded
    obtain ⟨named, decoded, role, roleGiven, host, hostGiven, rfl⟩ := demanded
    simp only [get, decoded, roleGiven, hostGiven]
    rfl
  | dayAccess uid slug =>
    simp only [Route.demand?, Option.bind_eq_bind, Option.bind_eq_some_iff, Option.pure_def,
      Option.some.injEq] at demanded
    obtain ⟨named, decoded, day, dayDecoded, rfl⟩ := demanded
    simp only [get, decoded, dayDecoded]
    rfl

theorem patch_of_demand {uid : String} {demand : Demand}
    (demanded : (do
      return .update (← Text.percentDecode? uid) (← (requestedChange request).toOption) :
        Option Demand) = some demand) :
    patch settings uid request = complain (demand.service settings) := by
  simp only [Option.bind_eq_bind, Option.bind_eq_some_iff, Option.pure_def,
    Option.some.injEq] at demanded
  obtain ⟨named, decoded, wanted, understood, rfl⟩ := demanded
  unfold patch
  cases content : requestedChange request with
  | error status => simp [content, Except.toOption] at understood
  | ok change =>
    obtain rfl : change = wanted := by simpa [content, Except.toOption] using understood
    simp only [decoded]
    rfl

/-- What a service says, as a response. -/
def told : Except Error Response → Response
  | .ok response => response
  | .error e => (complaint e).toResponse

/-- A request that demands something is answered by the service, and leaves what that leaves. -/
theorem serve_of_demand (settings : Settings) (moment : Moment) (s : Store) {demand : Demand}
    (demanded : demand? request = some demand) :
    let service := (demand.service settings).run moment s
    ((serve settings request).run moment s).store = service.store ∧
      ((serve settings request).run moment s).result =
        .ok (request.receives (told service.result)) := by
  intro service
  have kept : ((complain (demand.service settings)).run moment s).store = service.store :=
    complain_store _
  have complained : ((complain (demand.service settings)).run moment s).result =
      .ok (told service.result) := by
    rw [complain_result]
    rfl
  simp only [demand?, Option.bind_eq_bind, Option.bind_eq_some_iff] at demanded
  obtain ⟨route, leads, demanded⟩ := demanded
  split at demanded
  next uid patched =>
    have served : serve settings request = complain (demand.service settings) := by
      rw [serve, leads, patched]
      exact patch_of_demand demanded
    rw [served, Request.receives, patched]
    exact ⟨kept, complained⟩
  next read =>
    have served : serve settings request = complain (demand.service settings) := by
      rw [serve, leads, read]
      exact get_of_demand demanded
    rw [served, Request.receives, read]
    exact ⟨kept, complained⟩
  next read =>
    -- For the head, the same is read and told, and the content is dropped at the end.
    have served : serve settings request = (do
        let response ← complain (demand.service settings)
        return { response with content := .empty }) := by
      rw [serve, leads, read, ← get_of_demand demanded]
      rfl
    rw [served, Request.receives, read, Action.run_bind, complained]
    exact ⟨kept, rfl⟩
  next => cases demanded

/-! ## What is due -/

/-- The response that is due on a demand, and the store that it leaves behind. -/
inductive Due (settings : Settings) (moment : Moment) (s : Store) :
    Demand → Response → Store → Prop
  /-- An update that is accepted has the effect of its service, and nothing to tell. -/
  | updated {uid : String} {wanted : GrantRequest}
      (accepted : ((Assignment.update settings uid wanted).run moment s).result = .ok ()) :
      Due settings moment s (.update uid wanted) { status := 204 }
        ((Assignment.update settings uid wanted).run moment s).store
  | unknownRole {uid name : String} {wanted : GrantRequest}
      (refused : ((Assignment.update settings uid wanted).run moment s).result =
        .error (.unknownRole name)) :
      Due settings moment s (.update uid wanted)
        (Complaint.mk 400 "UNKNOWN_ROLE" ("Unknown role: " ++ name)).toResponse s
  | invalidHost {uid host : String} {wanted : GrantRequest}
      (refused : ((Assignment.update settings uid wanted).run moment s).result =
        .error (.invalidHost host)) :
      Due settings moment s (.update uid wanted)
        (Complaint.mk 400 "INVALID_HOST" ("Invalid host: " ++ host)).toResponse s
  | unknownMember {uid : String} {wanted : GrantRequest}
      (refused : ((Assignment.update settings uid wanted).run moment s).result =
        .error (.notFound "member" uid)) :
      Due settings moment s (.update uid wanted)
        (Complaint.mk 404 "NOT_FOUND" ("Entity not found: member with id " ++ uid)).toResponse s
  /-- Roles come in the order of the registry, and hosts in that of their characters. -/
  | granted {uid : String} {roles : List Role} {hosts : List String} (member : s.IsMember uid)
      (held : ∀ role, role ∈ roles ↔ s.HoldsRole uid role) (registry : roles.Sublist Role.all)
      (given : ∀ host, host ∈ hosts ↔ s.HasHost uid host) (ascending : hosts.Pairwise (· < ·)) :
      Due settings moment s (.grants uid)
        { status := 200
          content := .json (.object [("roles", .list (roles.map fun role => .text role.name)),
            ("hosts", .list (hosts.map .text))]) } s
  | stranger {uid : String} (absent : ¬s.IsMember uid) :
      Due settings moment s (.grants uid)
        (Complaint.mk 404 "NOT_FOUND" ("Entity not found: member with id " ++ uid)).toResponse s
  | checked {uid name host : String} {role : Role} (registered : Role.ofName? name = some role) :
      Due settings moment s (.access uid name host)
        (verdict (Access.canAdminister settings uid role host s).value) s
  | unregistered {uid name host : String} (unknown : Role.ofName? name = none) :
      Due settings moment s (.access uid name host)
        (Complaint.mk 400 "UNKNOWN_ROLE" ("Unknown role: " ++ name)).toResponse s
  | dayChecked {uid slug : String} :
      Due settings moment s (.dayAccess uid slug)
        (verdict (Access.canAdministerDay settings uid slug s).value) s

/-- A demand to see or to change grants says whose. -/
def Demand.Named : Demand → Prop
  | .update uid _ | .grants uid => uid ≠ ""
  | .access .. | .dayAccess .. => True

variable {uid : String} {wanted : GrantRequest} {demand : Demand} {response : Response}

theorem patchGrants_result :
    ((patchGrants settings uid wanted).run moment s).result =
      ((Assignment.update settings uid wanted).run moment s).result.map
        fun _ => { status := 204 } := by
  unfold patchGrants
  simp only [Action.run_bind, Action.run_report]
  cases ((Assignment.update settings uid wanted).run moment s).result <;> rfl

theorem plan_refused {e : Error} (refused : Assignment.plan settings wanted = .error e) :
    (∃ name, e = .unknownRole name) ∨ ∃ host, e = .invalidHost host := by
  rw [Assignment.plan_eq] at refused
  split at refused
  next name _ => exact Or.inl ⟨name, (Except.error.inj refused).symm⟩
  next host _ _ => exact Or.inr ⟨host, (Except.error.inj refused).symm⟩
  next => cases refused

/-- An update of a named member is refused for what it says or for whom it is about, and for nothing
that the store could refuse later on. -/
theorem update_refused (migrated : s.Migrated) (named : uid ≠ "") {e : Error}
    (refused : ((Assignment.update settings uid wanted).run moment s).result = .error e) :
    ((Assignment.update settings uid wanted).run moment s).store = s ∧
      ((∃ name, e = .unknownRole name) ∨ (∃ host, e = .invalidHost host) ∨
        e = .notFound "member" uid) := by
  rw [Assignment.run_update migrated, Assignment.demandMember_eq, if_neg named] at refused ⊢
  cases planned : Assignment.plan settings wanted with
  | error cause =>
    rw [planned] at refused
    obtain rfl := Except.error.inj refused
    exact ⟨rfl, (plan_refused planned).imp_right Or.inl⟩
  | ok change =>
    rw [planned] at refused
    cases present : Members.present s uid with
    | false =>
      rw [present] at refused
      exact ⟨rfl, Or.inr (Or.inr (Except.error.inj refused).symm)⟩
    | true =>
      -- Whether the change is silent or not, it is accepted here.
      rw [present, if_pos rfl] at refused
      dsimp only at refused
      cases silent : change.isEmpty <;> rw [silent] at refused <;> cases refused

theorem update_due (migrated : s.Migrated) (named : uid ≠ "") :
    Due settings moment s (.update uid wanted)
      (told ((patchGrants settings uid wanted).run moment s).result)
      ((patchGrants settings uid wanted).run moment s).store := by
  rw [patchGrants_result, patchGrants_store]
  cases answered : ((Assignment.update settings uid wanted).run moment s).result with
  | ok => exact .updated answered
  | error e =>
    obtain ⟨same, cause⟩ := update_refused migrated named answered
    rw [same]
    rcases cause with ⟨name, rfl⟩ | ⟨host, rfl⟩ | rfl
    · exact .unknownRole answered
    · exact .invalidHost answered
    · exact .unknownMember answered

theorem grantsOf_eq (migrated : s.Migrated) (named : uid ≠ "") :
    Assignment.grantsOf uid s =
      if Members.present s uid then .ok ⟨s.rolesOf uid, s.hostsOf uid⟩
      else .error (.notFound "member" uid) := by
  rw [Assignment.grantsOf, Assignment.demandMember_eq, if_neg named]
  cases Members.present s uid with
  | false => rfl
  | true =>
    rw [if_pos rfl, if_pos rfl, ok_bind, Grants.ofMember, migrated.stored_grants uid, mapError_ok]

theorem grants_due (migrated : s.Migrated) (named : uid ≠ "") :
    Due settings moment s (.grants uid) (told ((getGrants uid).run moment s).result) s := by
  unfold getGrants
  rw [Action.run_bind, Action.run_read, grantsOf_eq migrated named]
  cases present : Members.present s uid with
  | false => exact .stranger (by simp [← Store.present_iff, present])
  | true =>
    refine .granted (Store.present_iff.mp present) (fun role => Store.mem_rolesOf) ?_
      (fun host => Store.mem_hostsOf) ?_
    · exact (s.rolesOf uid).toList_sublist (by decide) (fun role => by cases role <;> decide)
    · exact (s.hostsOf uid).ascending.imp fun less => compareOfLessAndEq_eq_lt.mp less

theorem access_due {name host : String} :
    Due settings moment s (.access uid name host)
      (told ((getAccess settings uid name host).run moment s).result) s := by
  unfold getAccess
  rw [Action.run_bind, Action.run_ofExcept, Role.parse]
  cases found : Role.ofName? name with
  | none => exact .unregistered found
  | some role => exact .checked found

theorem service_due (migrated : s.Migrated) (named : demand.Named) :
    Due settings moment s demand (told ((demand.service settings).run moment s).result)
      ((demand.service settings).run moment s).store := by
  cases demand with
  | update uid wanted => exact update_due migrated named
  | grants uid =>
    rw [Demand.service, getGrants_store]
    exact grants_due migrated named
  | access uid name host =>
    rw [Demand.service, getAccess_store]
    exact access_due
  | dayAccess uid slug => exact .dayChecked

theorem Due.of_accepted {left : Store}
    (accepted : ((Assignment.update settings uid wanted).run moment s).result = .ok ())
    (due : Due settings moment s (.update uid wanted) response left) :
    response = { status := 204 } ∧
      left = ((Assignment.update settings uid wanted).run moment s).store := by
  cases due with
  | updated => exact ⟨rfl, rfl⟩
  | unknownRole refused | invalidHost refused | unknownMember refused =>
    rw [accepted] at refused
    cases refused

/-- Nothing that is due is an internal fault. -/
theorem Due.status_ne {left : Store} (due : Due settings moment s demand response left) :
    response.status ≠ internalStatus := by
  cases due <;> simp [Complaint.toResponse, verdict, internalStatus]

/-- A demand to check what is not there: a member, or a demo day. -/
def Demand.Vain (s : Store) : Demand → Prop
  | .update .. | .grants _ => False
  | .access uid _ _ => ¬s.IsMember uid
  | .dayAccess uid slug => ¬s.IsMember uid ∨ ∀ row ∈ s.dayRows, row.slug ≠ slug

/-- Rows are about members, so that whoever is not one is denied like anyone without a role. -/
theorem Due.verdict_of_vain (owned : s.Owned) {left : Store}
    (due : Due settings moment s demand response left) (vain : demand.Vain s)
    (answered : response.status = 200) : response = verdict false := by
  cases due with
  | updated | unknownRole | invalidHost | unknownMember | granted | stranger => exact vain.elim
  | unregistered => cases answered
  | checked =>
    refine congrArg verdict (Bool.eq_false_iff.mpr fun allowed => vain ?_)
    exact owned.holdsRole_member (Access.canAdminister_sound allowed).1
  | dayChecked =>
    refine congrArg verdict (Bool.eq_false_iff.mpr fun allowed => ?_)
    obtain ⟨⟨row, present, named, held, -⟩, -⟩ := Access.canAdministerDay_sound allowed
    rcases vain with absent | unknown
    · exact absent (owned.holdsRole_member held)
    · exact unknown row present named

end Http

/-- Whatever has been asked of the directory, a request that demands something about a named member
is answered with what is due. It does not fail internally, and a check of a member or a demo day
that is not there is answered like a check that is denied. -/
theorem Run.requests_agree (run : Run) (settings : Settings) {request : Http.Request}
    {demand : Http.Demand} (demanded : Http.demand? request = some demand) (named : demand.Named)
    (moment : Moment) :
    let s := Run.finalStore Store.fresh run
    let outcome := (Http.serve settings request).run moment s
    ∃ response, outcome.result = .ok (request.receives response) ∧
      Http.Due settings moment s demand response outcome.store ∧ response.status ≠ 500 ∧
      (demand.Vain s → response.status = 200 → response = Http.verdict false) := by
  intro s outcome
  obtain ⟨settled, owned⟩ := Run.settled_and_owned run
  obtain ⟨left, answered⟩ := Http.serve_of_demand settings moment s demanded
  have due : Http.Due settings moment s demand _ _ := Http.service_due settled.toMigrated named
  exact ⟨_, answered, left ▸ due, due.status_ne, due.verdict_of_vain owned⟩

/-- A request as it comes in, with JSON content. -/
def Http.Request.plain (method path content : String) : Http.Request :=
  ⟨method, ⟨path.toList, []⟩, some "application/json", content⟩

/-- A member is given a role and hosts, and one that is not there is asked about. -/
theorem Run.requests_agree_granted :
    let moment : Moment := ⟨Instant.epoch, Uuid.ofNat 1⟩
    let grant := Http.Request.plain "PATCH" "/v1/admin/members/m-1/roles"
      "\x7b\"roles\":[\"DEMO_DAY_ADMIN\"],\"hosts\":[\"b.org\",\"a.org\"]\x7d"
    let check := Http.Request.plain "GET" "/v1/admin/members/m-2/demo-days/demo/access" ""
    let run : Run := [(moment, .createMember ⟨"m-1", "Member", none⟩)]
    let s := Run.finalStore Store.fresh run
    ((Http.serve {} grant).run moment s).result = .ok { status := 204 } ∧
      ((Http.serve {} grant).run moment s).store.hostsOf "m-1" =
        OrderedSet.ofList ["a.org", "b.org"] ∧
      ((Http.serve {} check).run moment s).result = .ok (Http.verdict false) := by
  intro moment grant check run s
  have granting : Http.demand? grant =
      some (.update "m-1" ⟨some ["DEMO_DAY_ADMIN"], some ["b.org", "a.org"]⟩) := by decide +kernel
  have checking : Http.demand? check = some (.dayAccess "m-2" "demo") := rfl
  obtain ⟨response, told, due, -⟩ :=
    requests_agree run {} granting (show "m-1" ≠ "" by decide) moment
  obtain ⟨rfl, left⟩ := due.of_accepted rfl
  obtain ⟨checked, answered, dayDue, -, denied⟩ := requests_agree run {} checking trivial moment
  have absent : ¬s.IsMember "m-2" := by
    rw [← Store.present_iff]
    decide
  have answer : checked = Http.verdict false := by
    refine denied (Or.inl absent) ?_
    cases dayDue
    rfl
  exact ⟨told, by rw [left]; rfl, answer ▸ answered⟩

/-- The router decodes an empty name like any other, and the store has no record without a name to
look for. -/
theorem Run.unnamed_requests_fail :
    let moment : Moment := ⟨Instant.epoch, Uuid.ofNat 1⟩
    let see := Http.Request.plain "GET" "/v1/admin/members//roles" ""
    let change := Http.Request.plain "PATCH" "/v1/admin/members//roles" "\x7b\x7d"
    let internal : Http.Response :=
      (Http.Complaint.mk 500 "INTERNAL" "internal server error").toResponse
    Http.demand? see = some (.grants "") ∧ ¬Store.fresh.IsMember "" ∧
      ((Http.serve {} see).run moment Store.fresh).result = .ok internal ∧
      Http.demand? change = some (.update "" ⟨none, none⟩) ∧
      ((Http.serve {} change).run moment Store.fresh).result = .ok internal := by
  refine ⟨rfl, ?_, rfl, rfl, rfl⟩
  rw [← Store.present_iff]
  decide

end HostAccess
