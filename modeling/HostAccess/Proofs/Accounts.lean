import HostAccess.Proofs.HostOrigins
import HostAccess.Proofs.Replacements
import HostAccess.Proofs.Trails

/-! # Accounts of changes

The trail of an operation is an account of what it has made of the store: it holds what is due for
a change, once, if there was one, and nothing otherwise. The sizes in it are taken from the sets
that are about to be written, and are the numbers of rows that are there afterwards. -/
namespace HostAccess

variable {s : Store} {moment : Moment} {uid : String}

/-! ## What is due -/

namespace Store

/-- The number of role rows of a member. -/
def roleCount (s : Store) (uid : String) : Nat := (s.roleRows.filter (·.memberUid == uid)).length

/-- The number of rows that give a host to a member. -/
def hostCount (s : Store) (uid : String) : Nat := (s.scopeRows.filter (Grants.isHostOf uid)).length

end Store

namespace GrantRequest

/-- Whether anything is listed. -/
def lists (request : GrantRequest) : Bool := request.roles.isSome || request.hosts.isSome

def replacesRoles (request : GrantRequest) : Bool := request.roles.isSome

/-- Hosts are replaced if they are listed. They are cleared, which is to replace them as well, if
roles are listed without the administration of demo days. -/
def replacesHosts (request : GrantRequest) : Bool :=
  request.hosts.isSome || request.roles.any fun names => !names.contains "DEMO_DAY_ADMIN"

/-- What is told of an update that has left a store. -/
def records (request : GrantRequest) (uid : String) (after : Store) : List Record :=
  let count (replaced : Bool) (rows : Nat) : FieldValue :=
    .text (Event.countText (if replaced then some rows else none))
  [⟨.debug, "Grant change committed", [("member_uid", .text uid)]⟩,
    ⟨.info, "Member roles and hosts updated", [("member_uid", .text uid),
      ("roles", count request.replacesRoles (after.roleCount uid)),
      ("hosts", count request.replacesHosts (after.hostCount uid))]⟩]

end GrantRequest

namespace Operation

/-- Calls that are not accepted without a change of the store. -/
def asksChange : Operation → Bool
  | .deleteMember _ => true
  | .createDay _ => true
  | .applyGrants _ change => !change.isEmpty
  | .assign _ _ request => request.lists
  | _ => false

/-- Operations that write grants, be they those that are there already. -/
def writesGrants : Operation → Bool
  | .replaceRoles .. => true
  | .replaceScopes .. => true
  | .applyGrants .. => true
  | .assign .. => true
  | .serve .. => true
  | _ => false

/-- The trail of an operation that has changed the store and left this one. -/
def due (operation : Operation) (after : Store) : List Record :=
  match operation with
  | .deleteMember uid => [⟨.info, "Member deleted", [("member_uid", .text uid)]⟩]
  | .createDay new =>
    [⟨.info, "Demo day created", [("slug_url", .text new.slug), ("host", .text new.host)]⟩]
  | .applyGrants uid _ => [⟨.debug, "Grant change committed", [("member_uid", .text uid)]⟩]
  | operation =>
    match operation.update? with
    | some (_, uid, request) => request.records uid after
    | none => []

end Operation

/-! ## Rows that are counted -/

namespace Store

variable {change : GrantChange} {now : Instant}

theorem roleCount_granted {roles : RoleSet} (asked : change.roles = some roles) :
    (s.granted uid change now).roleCount uid = roles.size := by
  rw [roleCount, roleRows_granted, asked, Option.elim_some,
    (Grants.roles_replaced uid roles now s.roleRows).1, grantedRoles, List.length_map]
  rfl

theorem hostCount_granted {hosts : HostSet} (asked : change.hosts = some hosts) :
    (s.granted uid change now).hostCount uid = hosts.size := by
  rw [hostCount, scopeRows_granted, asked, Option.elim_some,
    (Grants.hosts_replaced uid hosts now s.scopeRows).1, grantedHosts, List.length_map]
  rfl

theorem roles_size_granted (s : Store) (uid : String) (change : GrantChange) (now : Instant) :
    change.roles.map OrderedSet.size =
      if change.roles.isSome then some ((s.granted uid change now).roleCount uid) else none := by
  cases asked : change.roles with
  | none => rfl
  | some roles => rw [roleCount_granted asked]; rfl

theorem hosts_size_granted (s : Store) (uid : String) (change : GrantChange) (now : Instant) :
    change.hosts.map OrderedSet.size =
      if change.hosts.isSome then some ((s.granted uid change now).hostCount uid) else none := by
  cases asked : change.hosts with
  | none => rfl
  | some hosts => rw [hostCount_granted asked]; rfl

end Store

namespace GrantRequest

theorem replacesRoles_eq (request : GrantRequest) :
    request.replacesRoles = (Assignment.wanted request).roles.isSome := by
  cases request with
  | mk roles hosts => cases roles <;> rfl

/-- Hosts that nobody has listed are replaced where they have lost their purpose. -/
theorem replacesHosts_eq (request : GrantRequest) :
    request.replacesHosts = (Assignment.wanted request).hosts.isSome := by
  obtain ⟨roles, hosts⟩ := request
  cases hosts with
  | some hosts => cases roles <;> rfl
  | none =>
    cases roles with
    | none => rfl
    | some names =>
      have retired : (Assignment.wanted ⟨some names, none⟩).hosts =
          if Role.demoDayAdmin ∈ OrderedSet.ofList (names.filterMap Role.ofName?) then none
          else some OrderedSet.empty := rfl
      rw [retired]
      by_cases admin : "DEMO_DAY_ADMIN" ∈ names
      · rw [if_pos (demoDayAdmin_mem_iff.mpr admin)]
        simp [replacesHosts, admin]
      · rw [if_neg (mt demoDayAdmin_mem_iff.mp admin)]
        simp [replacesHosts, admin]

theorem isEmpty_wanted (request : GrantRequest) :
    (Assignment.wanted request).isEmpty = !request.lists := by
  obtain ⟨roles, hosts⟩ := request
  cases roles <;> cases hosts <;> rfl

theorem trail_granted (request : GrantRequest) (s : Store) (uid : String) (now : Instant) :
    Event.trail [.grantChangeCommitted uid,
        .grantsUpdated uid ((Assignment.wanted request).roles.map OrderedSet.size)
          ((Assignment.wanted request).hosts.map OrderedSet.size)] =
      request.records uid (s.granted uid (Assignment.wanted request) now) := by
  rw [s.roles_size_granted uid _ now, s.hosts_size_granted uid _ now, ← replacesRoles_eq,
    ← replacesHosts_eq]
  rfl

end GrantRequest

/-! ## Writes that change a store -/

namespace Store

/-- No member was last changed at this time. -/
def UnmarkedAt (s : Store) (now : Instant) : Prop := ∀ m ∈ s.memberRows, m.updatedAt ≠ now

/-- A change of grants may write the very rows that are there. It is the mark on the member that
tells the stores apart. -/
theorem granted_ne {change : GrantChange} {now : Instant} (member : s.IsMember uid)
    (unmarked : s.UnmarkedAt now) : s.granted uid change now ≠ s := by
  intro same
  obtain ⟨m, present, named⟩ := member
  have rows : s.memberRows.map (fun m => if m.uid == uid then { m with updatedAt := now } else m) =
      s.memberRows.map id := (congrArg memberRows same).trans (List.map_id _).symm
  have marked := List.map_inj_left.mp rows m present
  rw [if_pos (beq_iff_eq.mpr named)] at marked
  exact unmarked m present (congrArg Member.updatedAt marked).symm

theorem without_ne (member : s.IsMember uid) : s.without uid ≠ s := by
  intro same
  rw [← same, isMember_without] at member
  exact member.1 rfl

theorem announced_ne (s : Store) (row : DayRow) : s.announced row ≠ s := by
  intro same
  have rows : (s.dayRows ++ [row]).length = s.dayRows.length :=
    congrArg (fun t => t.dayRows.length) same
  simp at rows

end Store

/-! ## The clock -/

theorem Operation.Writes.updatedAt {operation : Operation} {s' : Store}
    (writes : operation.Writes moment s s') {m : Member} (present : m ∈ s'.memberRows) :
    m.updatedAt = moment.now ∨ ∃ old ∈ s.memberRows, old.updatedAt = m.updatedAt := by
  cases writes with
  | joined new =>
    rcases List.mem_append.mp present with old | added
    · exact Or.inr ⟨m, old, rfl⟩
    · exact Or.inl (List.mem_singleton.mp added ▸ rfl)
  | without uid => exact Or.inr ⟨m, (List.mem_filter.mp present).1, rfl⟩
  | granted asked =>
    obtain ⟨old, there, rfl⟩ := List.mem_map.mp present
    split
    · exact Or.inl rfl
    · exact Or.inr ⟨old, there, rfl⟩
  -- All other writes leave the members alone.
  | announced | moved | rehosted => exact Or.inr ⟨m, present, rfl⟩

/-- A member was last changed at the time of an operation, or before the run. -/
theorem Run.updatedAt_origin (settled : s.Settled) (run : Run) {m : Member}
    (present : m ∈ (run.finalStore s).memberRows) :
    (∃ step ∈ run, step.1.now = m.updatedAt) ∨ ∃ old ∈ s.memberRows, old.updatedAt = m.updatedAt := by
  induction run generalizing s with
  | nil => exact Or.inr ⟨m, present, rfl⟩
  | cons step rest ih =>
    obtain ⟨moment, operation⟩ := step
    -- A mark that is older than the rest of the run is that of the first step, or older still.
    rcases ih (settled.performed operation moment) present with
      ⟨later, listed, marked⟩ | ⟨old, there, marked⟩
    · exact Or.inl ⟨later, List.mem_cons_of_mem _ listed, marked⟩
    rcases operation.perform_writes settled moment with same | writes
    · exact Or.inr ⟨old, same ▸ there, marked⟩
    rcases writes.updatedAt there with now | ⟨older, before, kept⟩
    · exact Or.inl ⟨_, List.mem_cons_self, now.symm.trans marked⟩
    · exact Or.inr ⟨older, before, kept.trans marked⟩

/-- The clock has moved on: no operation of a run has happened at this moment. -/
def Run.MovedOn (run : Run) (moment : Moment) : Prop := ∀ step ∈ run, step.1.now ≠ moment.now

instance (run : Run) (moment : Moment) : Decidable (run.MovedOn moment) :=
  inferInstanceAs (Decidable (∀ step ∈ run, step.1.now ≠ moment.now))

theorem Run.unmarkedAt {run : Run} (movedOn : run.MovedOn moment) :
    (run.finalStore Store.fresh).UnmarkedAt moment.now := by
  intro m present marked
  rcases updatedAt_origin Store.fresh_settled run present with
    ⟨step, listed, stamped⟩ | ⟨old, there, -⟩
  · exact movedOn step listed (stamped.trans marked)
  · exact absurd there List.not_mem_nil

/-! ## Changes of grants that are counted -/

namespace GrantRequest

/-- The rows behind the numbers that are told of an update. -/
structure Counted (request : GrantRequest) (uid : String) (now : Instant) (before after : Store) :
    Prop where
  /-- A number of roles is told if all role rows of the member are new. -/
  roles : if request.replacesRoles then
      ∀ row ∈ after.roleRows, row.memberUid = uid → row.createdAt = now
    else after.roles = before.roles
  hosts : if request.replacesHosts then
      ∀ row ∈ after.scopeRows, Grants.isHostOf uid row = true → row.createdAt = now
    else after.scopes = before.scopes
  /-- Hosts that have lost their purpose are counted, and there are none. -/
  cleared : ∀ names, request = ⟨some names, none⟩ → "DEMO_DAY_ADMIN" ∉ names →
    request.replacesHosts = true ∧ after.hostCount uid = 0

theorem counted {request : GrantRequest} {now : Instant} {before after : Store}
    (replaced : Grants.Replaced uid (Assignment.wanted request) now before after) :
    request.Counted uid now before after := by
  refine ⟨?_, ?_, ?_⟩
  · rw [replacesRoles_eq]
    cases asked : (Assignment.wanted request).roles with
    | none => exact replaced.keptRoles asked
    | some roles =>
      rw [if_pos Option.isSome_some]
      intro row present own
      have listed : row ∈ after.roleRows.filter (·.memberUid == uid) :=
        List.mem_filter.mpr ⟨present, beq_iff_eq.mpr own⟩
      rw [replaced.roles roles asked] at listed
      obtain ⟨role, -, rfl⟩ := List.mem_map.mp listed
      rfl
  · rw [replacesHosts_eq]
    cases asked : (Assignment.wanted request).hosts with
    | none => exact replaced.keptHosts asked
    | some hosts =>
      rw [if_pos Option.isSome_some]
      intro row present own
      have listed : row ∈ after.scopeRows.filter (Grants.isHostOf uid) :=
        List.mem_filter.mpr ⟨present, own⟩
      rw [replaced.hosts hosts asked] at listed
      obtain ⟨host, -, rfl⟩ := List.mem_map.mp listed
      rfl
  · rintro names rfl dropped
    have cleared : (Assignment.wanted ⟨some names, none⟩).hosts = some OrderedSet.empty :=
      if_neg (mt demoDayAdmin_mem_iff.mp dropped)
    constructor
    · rw [replacesHosts_eq, cleared, Option.isSome_some]
    · rw [Store.hostCount, replaced.hosts _ cleared]
      rfl

end GrantRequest

/-! ## What outcomes tell -/

/-- The two exits of an update of grants. -/
inductive Assignment.Exit (moment : Moment) (before : Store) (uid : String)
    (request : GrantRequest) (outcome : Outcome Error Unit) : Prop
  | idle (same : outcome.store = before) (silent : outcome.trail = [])
      (refused : request.lists = true → ∃ e, outcome.result = .error e)
  | written (listed : request.lists = true) (committed : before.Commit moment outcome.store)
      (left : outcome.store = before.granted uid (wanted request) moment.now)
      (told : outcome.trail = request.records uid outcome.store)
      (changed : before.UnmarkedAt moment.now → outcome.store ≠ before)

theorem Assignment.update_exit (migrated : s.Migrated) (moment : Moment) (settings : Settings)
    (uid : String) (request : GrantRequest) :
    Exit moment s uid request ((update settings uid request).run moment s) := by
  rw [run_update migrated]
  cases planned : plan settings request with
  | error e => exact .idle rfl rfl fun _ => ⟨e, rfl⟩
  | ok change =>
    obtain rfl : change = wanted request := (plan_eq_ok_iff.mp planned).2.2
    cases demanded : demandMember uid s with
    | error e => exact .idle rfl rfl fun _ => ⟨e, rfl⟩
    | ok =>
      obtain ⟨-, member⟩ := demandMember_eq_ok_iff.mp demanded
      dsimp only
      rw [request.isEmpty_wanted]
      cases listed : request.lists with
      | false => exact .idle rfl rfl (by simp [listed])
      | true =>
        -- What was told of the plan is told of the store: no table refuses what was planned.
        have written := putGrants_planned migrated planned demanded moment.now
        exact .written listed (migrated.commit_of_putGrants written) rfl
          (request.trail_granted s uid moment.now) (Store.granted_ne member)

namespace Operation

/-- An outcome made nothing of the store and tells nothing, or it made a commit and tells of it. A
call that asks for a change is not accepted without one. -/
inductive Tells (operation : Operation) (moment : Moment) (before : Store)
    (outcome : Outcome Failure Answer) : Prop
  | nothing (same : outcome.store = before) (silent : outcome.trail = [])
      (refused : operation.asksChange = true → ∃ failure, outcome.result = .error failure)
  | commit (committed : before.Commit moment outcome.store)
      (told : outcome.trail = operation.due outcome.store)
      (changed : (operation.writesGrants = true → before.UnmarkedAt moment.now) →
        outcome.store ≠ before)

variable {operation : Operation} {settings : Settings} {request : GrantRequest}

theorem deleteMember_tells (migrated : s.Migrated) (uid : String) :
    (deleteMember uid).Tells moment s ((deleteMember uid).perform.run moment s) := by
  rw [perform, doing, answering, Action.run_map, Members.run_delete migrated]
  split
  next => exact .nothing rfl rfl fun _ => ⟨_, rfl⟩
  next =>
    split
    next present =>
      have member := Store.present_iff.mp present
      exact .commit (.without uid member) rfl fun _ => Store.without_ne member
    next => exact .nothing rfl rfl fun _ => ⟨_, rfl⟩

theorem createDay_tells (migrated : s.Migrated) (new : NewDemoDay) :
    (createDay new).Tells moment s ((createDay new).perform.run moment s) := by
  rw [perform, answering, Action.run_map, DemoDays.run_create migrated]
  cases valid : Host.validateConcrete new.host with
  | error e => exact .nothing rfl rfl fun _ => ⟨_, rfl⟩
  | ok =>
    dsimp only
    split
    next => exact .nothing rfl rfl fun _ => ⟨_, rfl⟩
    next named =>
      cases DemoDays.demandFree new.slug s with
      | error e => exact .nothing rfl rfl fun _ => ⟨_, rfl⟩
      | ok =>
        cases added : DemoDays.add new moment s with
        | error refusal => exact .nothing rfl rfl fun _ => ⟨_, rfl⟩
        | ok s' =>
          have commit : s.Commit moment s' := .announced new valid named added
          obtain ⟨-, rfl⟩ := migrated.add_day_eq_ok_iff.mp added
          exact .commit commit rfl fun _ => s.announced_ne _

theorem applyGrants_tells (migrated : s.Migrated) (uid : String) (change : GrantChange) :
    (applyGrants uid change).Tells moment s ((applyGrants uid change).perform.run moment s) := by
  rw [perform, doing, answering, Action.run_map, Grants.run_apply]
  split
  next empty => exact .nothing rfl rfl (by simp [asksChange, empty])
  next =>
    cases written : s.putGrants uid change moment.now with
    | error e => exact .nothing rfl rfl fun _ => ⟨_, rfl⟩
    | ok s' =>
      have commit := migrated.commit_of_putGrants written
      obtain ⟨⟨-, member, -⟩, rfl⟩ := migrated.putGrants_eq_ok_iff.mp written
      exact .commit commit rfl fun unmarked => Store.granted_ne member (unmarked rfl)

theorem assign_tells (migrated : s.Migrated) (settings : Settings) (uid : String)
    (request : GrantRequest) :
    (assign settings uid request).Tells moment s
      ((assign settings uid request).perform.run moment s) := by
  rw [perform, doing, answering, Action.run_map]
  cases Assignment.update_exit migrated moment settings uid request with
  | idle same silent refused =>
    refine .nothing same silent fun asked => ?_
    obtain ⟨e, failed⟩ := refused asked
    exact ⟨.error e, by rw [failed]; rfl⟩
  | written _ committed _ told changed =>
    exact .commit committed told fun unmarked => changed (unmarked rfl)

/-- Updates are made directly or by requests, and both come to the same. -/
theorem update_performed (updates : operation.update? = some (settings, uid, request))
    (moment : Moment) (s : Store) :
    (operation.perform.run moment s).store =
        ((Assignment.update settings uid request).run moment s).store ∧
      (operation.perform.run moment s).trail =
        ((Assignment.update settings uid request).run moment s).trail := by
  cases operation with
  | assign =>
    cases updates
    exact ⟨answering_store _ _, answering_trail _⟩
  | serve settings' asked =>
    obtain ⟨update, stands, same⟩ := Option.map_eq_some_iff.mp updates
    cases same
    have store : ((Http.serve settings asked).run moment s).store = _ :=
      Http.serve_store_eq settings asked
    have trail : ((Http.serve settings asked).run moment s).trail = _ :=
      Http.serve_trail settings asked
    rw [stands] at store trail
    rw [perform, Action.run_map]
    exact ⟨store, trail⟩
  | _ => cases updates

theorem serve_tells (migrated : s.Migrated) (settings : Settings) (request : Http.Request) :
    (serve settings request).Tells moment s
      ((serve settings request).perform.run moment s) := by
  -- A request is answered whatever happens, so that nothing is asked of its result.
  have unasked : ¬(serve settings request).asksChange = true := Bool.false_ne_true
  cases updates : (serve settings request).update? with
  | none =>
    -- A request that stands for no update looks at the store at most.
    have stands : Http.updateOf? request = none := Option.map_eq_none_iff.mp updates
    have store : ((Http.serve settings request).run moment s).store = _ :=
      Http.serve_store_eq settings request
    have trail : ((Http.serve settings request).run moment s).trail = _ :=
      Http.serve_trail settings request
    rw [stands] at store trail
    rw [perform, Action.run_map]
    exact .nothing store trail (absurd · unasked)
  | some update =>
    obtain ⟨settings', uid, wanted⟩ := update
    obtain ⟨store, trail⟩ := update_performed updates moment s
    cases Assignment.update_exit migrated moment settings' uid wanted with
    | idle same silent _ => exact .nothing (store.trans same) (trail.trans silent) (absurd · unasked)
    | written _ committed _ told changed =>
      rw [← store] at committed told changed
      have due (after : Store) : (serve settings request).due after = wanted.records uid after := by
        simp only [due, updates]
      exact .commit committed (trail.trans (told.trans (due _).symm)) fun unmarked =>
        changed (unmarked rfl)

theorem unaudited_tells (settled : s.Settled) (unaudited : operation.isAudited = false)
    (moment : Moment) : operation.Tells moment s (operation.perform.run moment s) := by
  have silent := quiet unaudited moment s
  -- It may have made a commit nonetheless, for which nothing is due.
  by_cases same : (operation.perform.run moment s).store = s
  · refine .nothing same silent fun asks => ?_
    cases operation with
    | deleteMember | applyGrants | assign | createDay => cases unaudited
    | _ => cases asks
  · have nothing : operation.due (operation.perform.run moment s).store = [] := by
      cases operation with
      | deleteMember | applyGrants | assign | createDay | serve => cases unaudited
      | _ => rfl
    have committed := ((settled.perform_transactional operation moment).resolve_left same).1
    exact .commit committed (silent.trans nothing.symm) fun _ => same

theorem tells (settled : s.Settled) (operation : Operation) (moment : Moment) :
    operation.Tells moment s (operation.perform.run moment s) := by
  have migrated := settled.toMigrated
  cases operation with
  | migrate =>
    rw [settled.run_migrate]
    exact .nothing rfl rfl nofun
  | deleteMember uid => exact deleteMember_tells migrated uid
  | createDay new => exact createDay_tells migrated new
  | applyGrants uid change => exact applyGrants_tells migrated uid change
  | assign settings uid request => exact assign_tells migrated settings uid request
  | serve settings request => exact serve_tells migrated settings request
  | _ => exact unaudited_tells settled rfl moment

/-- An operation is accounted for by the trail of its outcome. -/
structure Accounted (operation : Operation) (moment : Moment) (before : Store)
    (outcome : Outcome Failure Answer) : Prop where
  /-- Nothing is told and nothing was done, or a commit was made and is told of, once and as it is
  due. -/
  told : outcome.store = before ∧ outcome.trail = [] ∨
    before.Commit moment outcome.store ∧ outcome.trail = operation.due outcome.store
  accepted : operation.asksChange = true → ∀ answer, outcome.result = .ok answer →
    before.Commit moment outcome.store ∧ outcome.trail = operation.due outcome.store
  refused : ∀ failure, outcome.result = .error failure →
    outcome.store = before ∧ outcome.trail = []
  idle : ∀ settings uid, operation.update? = some (settings, uid, {}) →
    outcome.store = before ∧ outcome.trail = []
  counted : outcome.trail ≠ [] → ∀ settings uid request,
    operation.update? = some (settings, uid, request) →
      request.Counted uid moment.now before outcome.store

theorem accounted (settled : s.Settled) (operation : Operation) (moment : Moment) :
    operation.Accounted moment s (operation.perform.run moment s) := by
  have migrated := settled.toMigrated
  have tells := operation.tells settled moment
  refine ⟨?_, ?_, ?_, ?_, ?_⟩
  · cases tells with
    | nothing same silent _ => exact Or.inl ⟨same, silent⟩
    | commit committed told _ => exact Or.inr ⟨committed, told⟩
  · intro asked answer returned
    cases tells with
    | nothing _ _ refused =>
      obtain ⟨e, failed⟩ := refused asked
      rw [returned] at failed
      cases failed
    | commit committed told _ => exact ⟨committed, told⟩
  · intro failure failed
    rcases settled.perform_transactional operation moment with same | ⟨-, answer, returned⟩
    · refine ⟨same, ?_⟩
      by_cases migration : operation = .migrate
      · rw [migration, settled.run_migrate]
        rfl
      · exact failsQuietly migration moment s failure failed
    · exact absurd (failed.symm.trans returned) nofun
  · intro settings uid updates
    obtain ⟨store, trail⟩ := update_performed updates moment s
    rw [store, trail]
    cases Assignment.update_exit migrated moment settings uid {} with
    | idle same silent _ => exact ⟨same, silent⟩
    | written listed => cases listed
  · intro loud settings uid request updates
    obtain ⟨store, trail⟩ := update_performed updates moment s
    rw [trail] at loud
    rw [store]
    cases Assignment.update_exit migrated moment settings uid request with
    | idle _ silent _ => exact absurd silent loud
    | written _ _ left _ _ =>
      rw [left]
      exact GrantRequest.counted (Grants.replaced_granted migrated.declared uid _ moment.now)

end Operation

namespace Run

/-- Whatever has happened before, the trail of an operation tells of what it committed, and of
nothing else. Only a change of grants may commit the rows that are there already, and if the clock
has moved on since the run, its mark on the member is new. -/
theorem trail_exact (run : Run) (operation : Operation) (moment : Moment) :
    let s := run.finalStore Store.fresh
    let outcome := operation.perform.run moment s
    operation.Accounted moment s outcome ∧
      ((operation.writesGrants = true → run.MovedOn moment) →
        outcome.trail = if outcome.store = s then [] else operation.due outcome.store) := by
  intro s outcome
  have settled : s.Settled := finalStore_settled Store.fresh_settled run
  refine ⟨operation.accounted settled moment, fun movedOn => ?_⟩
  cases operation.tells settled moment with
  | nothing same silent _ => rw [if_pos same, silent]
  | commit _ told changed =>
    rw [if_neg (changed fun writes => unmarkedAt (movedOn writes)), told]

/-- A member that administers the demo days of two hosts. -/
def staffing : Run :=
  let moment : Moment := ⟨Instant.epoch, Uuid.ofNat 1⟩
  let roles := ["DEMO_DAY_ADMIN", "DIRECTORYADMIN"]
  [(moment, .createMember ⟨"ada", "Ada", none⟩),
    (moment, .assign {} "ada" ⟨some roles, some ["acme.org", "beta.org"]⟩)]

/-- The administration of demo days is dropped, and the other role is listed twice. Both rows of
hosts are gone, and one row of a role is there. -/
theorem trail_exact_staffing :
    let moment : Moment := ⟨(Instant.at? 1 0).getD Instant.epoch, Uuid.ofNat 2⟩
    let operation : Operation :=
      .assign {} "ada" ⟨some ["DIRECTORYADMIN", "DIRECTORYADMIN"], none⟩
    let s := staffing.finalStore Store.fresh
    let outcome := operation.perform.run moment s
    staffing.MovedOn moment ∧ s.hostCount "ada" = 2 ∧ outcome.store.hostCount "ada" = 0 ∧
      outcome.trail = [⟨.debug, "Grant change committed", [("member_uid", .text "ada")]⟩,
        ⟨.info, "Member roles and hosts updated", [("member_uid", .text "ada"),
          ("roles", .text "Some(1)"), ("hosts", .text "Some(0)")]⟩] := by
  intro moment operation s outcome
  have movedOn : staffing.MovedOn moment := by decide
  have before : s.hostCount "ada" = 2 := by rfl
  have after : outcome.store.hostCount "ada" = 0 := by rfl
  have changed : outcome.store ≠ s := fun same => by
    rw [same, before] at after
    cases after
  obtain ⟨-, told⟩ := trail_exact staffing operation moment
  refine ⟨movedOn, before, after, (told fun _ => movedOn).trans ?_⟩
  rw [if_neg changed]
  decide

end Run

end HostAccess
