import HostAccess.Operation
import HostAccess.Proofs.DayWrites
import HostAccess.Proofs.Plans
import HostAccess.Proofs.Writes

/-! # Outcomes

What each writing action leaves behind, as a case distinction over its exits in the order in which
they are met. Later arguments cite these equations and do not look into the actions again. -/
namespace HostAccess

variable {s : Store} {moment : Moment}

namespace Members

theorem isMember_eq (s : Store) (uid : String) :
    isMember uid s =
      if uid = "" then .error Refusal.emptyId.toStoreError.toError else .ok (present s uid) := by
  simp [isMember]

/-- The member that was just created is the first under its uid, as it is the only one. -/
theorem find_joined {m : Member} (named : m.uid ≠ "") (new : ¬s.IsMember m.uid) :
    find m.uid (s.joined m) = .ok m := by
  have before : s.memberRows.find? (·.uid == m.uid) = none := by
    rw [List.find?_eq_none]
    exact fun other present same => new ⟨other, present, beq_iff_eq.mp same⟩
  have read : (s.joined m).readMembers = .ok (Schema.memberTable (s.memberRows ++ [m])) := rfl
  simp [find, lookup, named, read, Schema.memberTable, before, pure_eq_ok]

theorem run_create (migrated : s.Migrated) (new : NewMember) :
    (create new).run moment s =
      if new.uid = "" then ⟨.error (.validation .emptyMemberUid), s, []⟩
      else if present s new.uid then ⟨.error (.alreadyExists "member"), s, []⟩
      else ⟨.ok (new.row moment.now), s.joined (new.row moment.now), []⟩ := by
  unfold create
  by_cases empty : new.uid = ""
  · simp [Action.run_bind, empty]
  by_cases taken : present s new.uid = true
  · simp [Action.run_bind, isMember_eq, empty, taken]
  -- Behind the checks neither the transaction nor the read after it can fail.
  have free : ¬s.IsMember new.uid := mt Store.present_iff.mpr taken
  have added : add new moment.now s = .ok (s.joined (new.row moment.now)) :=
    migrated.add_member_eq_ok_iff.mpr ⟨free, rfl⟩
  have found : find new.uid (s.joined (new.row moment.now)) = .ok (new.row moment.now) :=
    find_joined (m := new.row moment.now) empty free
  simp [Action.run_bind, Action.run_change, isMember_eq, empty, taken, added, found]

theorem created (migrated : s.Migrated) {new : NewMember} {m : Member}
    (returned : ((create new).run moment s).result = .ok m) :
    ¬s.IsMember new.uid ∧ ((create new).run moment s).store = s.joined (new.row moment.now) := by
  rw [run_create migrated] at returned ⊢
  split at returned
  next => cases returned
  next named =>
    split at returned
    next => cases returned
    next free => exact ⟨mt Store.present_iff.mpr free, by rw [if_neg named, if_neg free]⟩

theorem run_delete (migrated : s.Migrated) (uid : String) :
    (delete uid).run moment s =
      if uid = "" then ⟨.error Refusal.emptyId.toStoreError.toError, s, []⟩
      else if present s uid then ⟨.ok (), s.without uid, [.memberDeleted uid]⟩
      else ⟨.error (.notFound "member" uid), s, []⟩ := by
  unfold delete
  by_cases empty : uid = ""
  · simp [Action.run_bind, isMember_eq, empty]
  by_cases member : present s uid = true
  · simp [Action.run_bind, Action.run_change, isMember_eq, empty, member, migrated.erase_member]
  · simp [Action.run_bind, isMember_eq, empty, member, StoreError.toError]

end Members

/-! ## Grants -/

namespace Grants

/-- The transaction that every change of grants is. -/
def write (uid : String) (change : GrantChange) : Action Error Unit :=
  Action.change fun moment s => (s.putGrants uid change moment.now).mapError StoreError.toError

theorem run_write (uid : String) (change : GrantChange) :
    (write uid change).run moment s =
      match s.putGrants uid change moment.now with
      | .ok s' => ⟨.ok (), s', []⟩
      | .error e => ⟨.error e.toError, s, []⟩ := by
  rw [write, Action.run_change]
  cases s.putGrants uid change moment.now <;> rfl

theorem run_apply (uid : String) (change : GrantChange) :
    (apply uid change).run moment s =
      if change.isEmpty then ⟨.ok (), s, []⟩
      else match s.putGrants uid change moment.now with
        | .ok s' => ⟨.ok (), s', [.grantChangeCommitted uid]⟩
        | .error e => ⟨.error e.toError, s, []⟩ := by
  unfold apply
  split
  · rfl
  · rw [← write, Action.run_bind, run_write]
    cases s.putGrants uid change moment.now <;> rfl

end Grants

/-- Roles alone are a change of grants that is silent about hosts. -/
theorem Roles.replace_eq_write (uid : String) (roles : RoleSet) :
    Roles.replace uid roles = Grants.write uid ⟨some roles, none⟩ := by
  -- The two transactions differ by a last statement that does nothing.
  refine congrArg Action.change (funext fun moment => funext fun s => congrArg (Except.mapError _) ?_)
  rw [Store.putGrants_eq_bind]
  cases s.touchMember uid moment.now with
  | error e => rfl
  | ok touched => exact (bind_pure (Store.putRoles uid roles moment.now touched)).symm

/-- Hosts are the only type of scope that there is. -/
theorem Scopes.replace_eq_write (uid : String) (type : ScopeType) (values : HostSet) :
    Scopes.replace uid type values = Grants.write uid ⟨none, some values⟩ := by
  cases type
  refine congrArg Action.change (funext fun moment => funext fun s => congrArg (Except.mapError _) ?_)
  rw [Store.putGrants_eq_bind]
  cases s.touchMember uid moment.now <;> rfl

namespace Assignment

theorem demandMember_eq (uid : String) (s : Store) :
    demandMember uid s =
      if uid = "" then .error Refusal.emptyId.toStoreError.toError
      else if Members.present s uid then .ok () else .error (.notFound "member" uid) := by
  rw [demandMember, Members.isMember_eq]
  by_cases empty : uid = ""
  · rw [if_pos empty, if_pos empty]
    rfl
  · rw [if_neg empty, if_neg empty]
    cases Members.present s uid <;> rfl

theorem demandMember_eq_ok_iff {uid : String} :
    demandMember uid s = .ok () ↔ uid ≠ "" ∧ s.IsMember uid := by
  rw [demandMember_eq, ← Store.present_iff]
  by_cases empty : uid = ""
  · simp [empty]
  · cases Members.present s uid <;> simp [empty]

/-- Whatever an update writes was looked at before, so that the store has nothing to refuse. -/
theorem putGrants_planned (migrated : s.Migrated) {settings : Settings} {uid : String}
    {request : GrantRequest} {change : GrantChange} (planned : plan settings request = .ok change)
    (demanded : demandMember uid s = .ok ()) (now : Instant) :
    s.putGrants uid change now = .ok (s.granted uid change now) := by
  obtain ⟨named, member⟩ := demandMember_eq_ok_iff.mp demanded
  refine migrated.putGrants_eq_ok_iff.mpr ⟨⟨named, member, fun hosts asked empty => ?_⟩, rfl⟩
  have allowed := plan_hosts_assignable planned asked empty
  rw [not_assignable_empty] at allowed
  cases allowed

theorem run_update (migrated : s.Migrated) (settings : Settings) (uid : String)
    (request : GrantRequest) :
    (update settings uid request).run moment s =
      match plan settings request with
      | .error e => ⟨.error e, s, []⟩
      | .ok change =>
        match demandMember uid s with
        | .error e => ⟨.error e, s, []⟩
        | .ok () =>
          if change.isEmpty then ⟨.ok (), s, []⟩
          else ⟨.ok (), s.granted uid change moment.now,
            [.grantChangeCommitted uid, .grantsUpdated uid (change.roles.map OrderedSet.size)
              (change.hosts.map OrderedSet.size)]⟩ := by
  unfold update
  cases planned : plan settings request with
  | error e => rfl
  | ok change =>
    cases demanded : demandMember uid s with
    | error e => simp [Action.run_bind, demanded]
    | ok =>
      by_cases silent : change.isEmpty = true
      -- A silent change is not even handed on, and no event tells of it.
      · simp [Action.run_bind, demanded, silent]
      have written := putGrants_planned migrated planned demanded moment.now
      simp [Action.run_bind, demanded, silent, Grants.run_apply, written]

end Assignment

/-! ## Demo days -/

/-- The demo day that a new one is at first. -/
def NewDemoDay.day (new : NewDemoDay) (moment : Moment) : DemoDay :=
  ⟨moment.id, new.slug, new.name, new.host, .upcoming, moment.now, moment.now⟩

namespace DemoDays

/-- The row that was just added is the only one under its id, and is understood. -/
theorem stored_announced (new : NewDemoDay)
    (free : ∀ row ∈ s.dayRows, row.id ≠ some moment.id.text) :
    stored moment.id (s.announced (new.row moment)) = .ok (new.day moment) := by
  have before : s.dayRows.find? (·.id == some moment.id.text) = none := by
    rw [List.find?_eq_none]
    exact fun row present same => free row present (beq_iff_eq.mp same)
  have read : (s.announced (new.row moment)).readDays =
      .ok (Schema.dayTable (s.dayRows ++ [new.row moment])) := rfl
  have decoded : (new.row moment).decodeAs moment.id = .ok (new.day moment) :=
    DayRow.decodeAs_eq_ok_iff.mpr ⟨.upcoming, rfl, rfl⟩
  have named : (new.row moment).id = some moment.id.text := rfl
  simp [stored, read, Schema.dayTable, before, named, decoded]

/-- Once the row of a new demo day is written, reading it back cannot fail. -/
theorem run_create (migrated : s.Migrated) (new : NewDemoDay) :
    (create new).run moment s =
      match Host.validateConcrete new.host with
      | .error e => ⟨.error e, s, []⟩
      | .ok () =>
        if new.slug = "" then ⟨.error (.validation .emptySlug), s, []⟩
        else match demandFree new.slug s with
          | .error e => ⟨.error e, s, []⟩
          | .ok () =>
            match add new moment s with
            | .error refusal => ⟨.error refusal.toRowError.toError, s, []⟩
            | .ok s' => ⟨.ok (new.day moment), s', [.dayCreated new.slug new.host]⟩ := by
  unfold create
  cases valid : Host.validateConcrete new.host with
  | error e => rfl
  | ok =>
    by_cases empty : new.slug = ""
    · simp [Action.run_bind, empty]
    cases free : demandFree new.slug s with
    | error e => simp [Action.run_bind, empty, free]
    | ok =>
      cases added : add new moment s with
      | error refusal =>
        simp [Action.run_bind, Action.run_change, empty, free, added]
      | ok s' =>
        -- The row was accepted, so its id was free, and the read finds no older row under it.
        obtain ⟨⟨-, apart⟩, rfl⟩ := migrated.add_day_eq_ok_iff.mp added
        have read := stored_announced new fun row present => (apart row present).2
        simp [Action.run_bind, Action.run_change, Action.run_moment, empty, free, added, read,
          NewDemoDay.day]

theorem run_amend (id : Uuid) (edit : DayRow → DayRow) :
    (amend id edit).run moment s =
      match revise id edit moment.now s with
      | .error refusal => ⟨.error refusal.toRowError.toError, s, []⟩
      | .ok s' => ⟨(stored id s').mapError StoreError.toError, s', []⟩ := by
  unfold amend
  cases revised : revise id edit moment.now s <;>
    simp [Action.run_bind, Action.run_change, revised]

theorem run_updateStatus (slug : String) (status : Status) :
    (updateStatus slug status).run moment s =
      match find slug s with
      | .error e => ⟨.error e, s, []⟩
      | .ok current =>
        if current.status.allows status then
          (amend current.id ({ · with status := status.name })).run moment s
        else ⟨.error (.validation (.backwardMove slug current.status status)), s, []⟩ := by
  unfold updateStatus
  cases found : find slug s with
  | error e => simp [Action.run_bind, found]
  | ok current =>
    by_cases allowed : current.status.allows status = true <;>
      simp [Action.run_bind, found, allowed]

theorem run_updateHost (slug host : String) :
    (updateHost slug host).run moment s =
      match Host.validateConcrete host with
      | .error e => ⟨.error e, s, []⟩
      | .ok () =>
        match find slug s with
        | .error e => ⟨.error e, s, []⟩
        | .ok current =>
          if current.status = .upcoming then (amend current.id ({ · with host := host })).run moment s
          else ⟨.error (.validation (.fixedHost slug current.status)), s, []⟩ := by
  unfold updateHost
  cases valid : Host.validateConcrete host with
  | error e => rfl
  | ok =>
    cases found : find slug s with
    | error e => simp [Action.run_bind, found]
    | ok current =>
      by_cases upcoming : current.status = .upcoming <;>
        simp [Action.run_bind, found, upcoming]

end DemoDays

/-! ## Requests -/

namespace Http

/-- What went wrong is reported or not; either way the caller gets a response. -/
theorem run_complain (action : Action Error Response) :
    (complain action).run moment s =
      match (action.run moment s).result with
      | .ok response => ⟨.ok response, (action.run moment s).store, (action.run moment s).events⟩
      | .error e => ⟨.ok (complaint e).toResponse, (action.run moment s).store,
          (action.run moment s).events ++ (faultEvent? e).toList⟩ := by
  unfold complain
  rw [Action.run_bind, Action.run_attempt]
  cases (action.run moment s).result with
  | ok response => simp
  | error e => cases found : faultEvent? e <;> simp [Action.run_bind, found]

theorem complain_store (action : Action Error Response) :
    ((complain action).run moment s).store = (action.run moment s).store := by
  rw [run_complain]
  cases (action.run moment s).result <;> rfl

theorem complain_result (action : Action Error Response) :
    ((complain action).run moment s).result =
      .ok (match (action.run moment s).result with
        | .ok response => response
        | .error e => (complaint e).toResponse) := by
  rw [run_complain]
  cases (action.run moment s).result <;> rfl

theorem getGrants_store (uid : String) : ((getGrants uid).run moment s).store = s := by
  unfold getGrants
  rw [Action.run_bind, Action.run_read]
  cases Assignment.grantsOf uid s <;> rfl

theorem getAccess_store (settings : Settings) (uid role host : String) :
    ((getAccess settings uid role host).run moment s).store = s := by
  unfold getAccess
  rw [Action.run_bind, Action.run_ofExcept]
  cases Role.parse role <;> rfl

theorem get_store (settings : Settings) (route : Route) (query : List Char) :
    ((get settings route query).run moment s).store = s := by
  cases route with
  | health => rfl
  | grants uid =>
    simp only [get]
    split
    · rw [complain_store, getGrants_store]
    · rfl
  | access uid =>
    simp only [get]
    split
    · rw [complain_store, getAccess_store]
    · rfl
  | dayAccess uid slug =>
    simp only [get]
    split
    · rw [complain_store]
      rfl
    · rfl

theorem patchGrants_store (settings : Settings) (uid : String) (wanted : GrantRequest) :
    ((patchGrants settings uid wanted).run moment s).store =
      ((Assignment.update settings uid wanted).run moment s).store := by
  unfold patchGrants
  simp only [Action.run_bind, Action.run_report]
  cases ((Assignment.update settings uid wanted).run moment s).result <;> rfl

/-- The update that a request stands for, if its method, its path and its content make one. -/
def updateOf? (request : Request) : Option (String × GrantRequest) :=
  if request.method = "PATCH" then
    match Route.ofPath? request.target.path with
    | some (.grants uid) => do
      return (← Text.percentDecode? uid, ← (requestedChange request).toOption)
    | _ => none
  else none

theorem patch_store (settings : Settings) (uid : String) (request : Request) :
    ((patch settings uid request).run moment s).store =
      match (do return (← Text.percentDecode? uid, ← (requestedChange request).toOption) :
        Option (String × GrantRequest)) with
      | some (uid, wanted) => ((Assignment.update settings uid wanted).run moment s).store
      | none => s := by
  unfold patch
  cases Text.percentDecode? uid with
  | none => rfl
  | some uid =>
    cases requestedChange request with
    | error status => rfl
    | ok wanted => exact (complain_store _).trans (patchGrants_store settings uid wanted)

/-- A request leaves the store that its update leaves, if it stands for one. -/
theorem serve_store_eq (settings : Settings) (request : Request) :
    ((serve settings request).run moment s).store =
      match updateOf? request with
      | some (uid, wanted) => ((Assignment.update settings uid wanted).run moment s).store
      | none => s := by
  unfold serve updateOf?
  cases Route.ofPath? request.target.path with
  | none => simp
  | some route =>
    by_cases method : request.method = "PATCH"
    · rw [if_pos method, method]
      cases route with
      | grants uid => exact patch_store settings uid request
      | _ => rfl
    · rw [if_neg method]
      dsimp only
      split
      next => exact get_store settings _ _
      next =>
        -- A request for the head runs the same read and drops the content.
        rw [Action.run_bind]
        split <;> exact get_store settings _ _
      next patched => exact absurd patched method
      next => rfl

/-- A request changes the store only as an update of grants does. -/
theorem serve_store (settings : Settings) (request : Request) (moment : Moment) (s : Store) :
    ((serve settings request).run moment s).store = s ∨ ∃ uid wanted,
      ((serve settings request).run moment s).store =
        ((Assignment.update settings uid wanted).run moment s).store := by
  rw [serve_store_eq]
  cases updateOf? request with
  | none => exact Or.inl rfl
  | some update => exact Or.inr ⟨update.1, update.2, rfl⟩

end Http

end HostAccess
