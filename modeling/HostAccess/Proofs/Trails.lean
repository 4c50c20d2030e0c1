import HostAccess.Proofs.Causes

/-! # Trails

What is left of the events of an operation for somebody who asks what has been changed: all that is
told at the level of information, and the commits of grants. Most operations leave no trail, and
none leaves one if it fails. Both hold of every store, because a trail is left behind the last step
that can fail. -/
namespace HostAccess

variable {ε ε' α β : Type}

/-- An event as it is written down. -/
structure Record where
  level : Level
  message : String
  fields : List (String × FieldValue)
deriving DecidableEq

namespace Event

def record (event : Event) : Record := ⟨event.level, event.message, event.fields⟩

/-- Events that belong to a trail. The commit of grants is told to those who look for faults, and
is here because an update of grants is to be told after it. -/
def isAudit : Event → Bool
  | .grantChangeCommitted _ => true
  | event => event.level = .info

def trail (events : List Event) : List Record := (events.filter isAudit).map record

@[simp] theorem trail_nil : trail [] = [] := rfl

@[simp] theorem trail_append (before after : List Event) :
    trail (before ++ after) = trail before ++ trail after := by
  rw [trail, List.filter_append, List.map_append, trail, trail]

end Event

def Outcome.trail (outcome : Outcome ε α) : List Record := Event.trail outcome.events

/-! ## Actions without a trail -/

namespace Action

theorem trail_bind_of_ok {moment : Moment} {s : Store} {action : Action ε α}
    {next : α → Action ε β} {a : α} (returned : (action.run moment s).result = .ok a) :
    ((action >>= next).run moment s).trail = (action.run moment s).trail ++
      ((next a).run moment (action.run moment s).store).trail := by
  rw [run_bind, returned]
  exact Event.trail_append _ _

theorem trail_bind_of_error {moment : Moment} {s : Store} {action : Action ε α}
    {next : α → Action ε β} {e : ε} (failed : (action.run moment s).result = .error e) :
    ((action >>= next).run moment s).trail = (action.run moment s).trail := by
  rw [run_bind, failed]
  rfl

/-- An action leaves no trail, on whatever store it runs. -/
def Quiet (action : Action ε α) : Prop :=
  ∀ (moment : Moment) (s : Store), (action.run moment s).trail = []

namespace Quiet

variable {action : Action ε α}

theorem pure (a : α) : (Pure.pure a : Action ε α).Quiet := fun _ _ => rfl

theorem ofExcept (result : Except ε α) : (Action.ofExcept result).Quiet := fun _ _ => rfl

theorem read (query : Store → Except ε α) : (Action.read query).Quiet := fun _ _ => rfl

theorem moment : (Action.moment : Action ε Moment).Quiet := fun _ _ => rfl

theorem change (write : Moment → Store → Except ε Store) : (Action.change write).Quiet := by
  intro moment s
  rw [run_change]
  cases write moment s <;> rfl

theorem audited {check : Store → Audited α} (quiet : ∀ s, Event.trail (check s).events = []) :
    (Audited.toAction check : Action ε α).Quiet := fun _ s => quiet s

/-- What would follow a failure is not run. -/
theorem failing (e : ε) (next : α → Action ε β) : (Action.fail e >>= next).Quiet := fun _ _ => rfl

theorem bind {next : α → Action ε β} (first : action.Quiet) (later : ∀ a, (next a).Quiet) :
    (action >>= next).Quiet := by
  intro moment s
  cases returned : (action.run moment s).result with
  | ok a => rw [trail_bind_of_ok returned, first moment s, later a moment _, List.append_nil]
  | error e => rw [trail_bind_of_error returned, first moment s]

theorem ite {p : Prop} [Decidable p] {other : Action ε α} (first : action.Quiet)
    (second : other.Quiet) : (if p then action else other).Quiet := by
  split
  · exact first
  · exact second

end Quiet

/-! ## Actions that leave no trail if they fail -/

def FailsQuietly (action : Action ε α) : Prop :=
  ∀ (moment : Moment) (s : Store) (e : ε), (action.run moment s).result = .error e →
    (action.run moment s).trail = []

/-- An action has a value on every store. -/
def Total (action : Action ε α) : Prop :=
  ∀ (moment : Moment) (s : Store), ∃ a, (action.run moment s).result = .ok a

theorem Total.pure (a : α) : (Pure.pure a : Action ε α).Total := fun _ _ => ⟨a, rfl⟩

theorem Total.report (event : Event) : (Action.report event : Action ε Unit).Total :=
  fun _ _ => ⟨(), rfl⟩

theorem Quiet.failsQuietly {action : Action ε α} (quiet : action.Quiet) : action.FailsQuietly :=
  fun moment s _ _ => quiet moment s

theorem Total.failsQuietly {action : Action ε α} (total : action.Total) :
    action.FailsQuietly := by
  intro moment s e failed
  obtain ⟨a, returned⟩ := total moment s
  rw [failed] at returned
  cases returned

namespace FailsQuietly

variable {action : Action ε α} {next : α → Action ε β}

/-- A trail is left behind steps that leave none. -/
theorem bind (first : action.Quiet) (later : ∀ a, (next a).FailsQuietly) :
    (action >>= next).FailsQuietly := by
  intro moment s e failed
  cases returned : (action.run moment s).result with
  | ok a =>
    rw [run_bind, returned] at failed
    rw [trail_bind_of_ok returned, first moment s, later a moment _ e failed, List.append_nil]
  | error _ => rw [trail_bind_of_error returned, first moment s]

/-- A trail is left, and nothing that follows can fail. -/
theorem bind_total (first : action.FailsQuietly) (later : ∀ a, (next a).Total) :
    (action >>= next).FailsQuietly := by
  intro moment s e failed
  cases returned : (action.run moment s).result with
  | ok a =>
    obtain ⟨b, answered⟩ := later a moment (action.run moment s).store
    rw [run_bind, returned] at failed
    exact absurd (answered.symm.trans failed) nofun
  | error e' => rw [trail_bind_of_error returned, first moment s e' returned]

theorem mapError (quietly : action.FailsQuietly) (f : ε → ε') :
    (Action.mapError f action).FailsQuietly := by
  intro moment s e failed
  cases returned : (action.run moment s).result with
  | ok a =>
    rw [run_mapError, returned] at failed
    cases failed
  | error e' => exact quietly moment s e' returned

theorem ite {p : Prop} [Decidable p] {other : Action ε α} (first : action.FailsQuietly)
    (second : other.FailsQuietly) : (if p then action else other).FailsQuietly := by
  split
  · exact first
  · exact second

end FailsQuietly

end Action

/-! ## The directory -/

theorem Members.create_quiet (new : NewMember) : (Members.create new).Quiet := by
  unfold Members.create
  refine .ite (.failing _ _) (.bind (.read _) fun _ => .ite (.failing _ _) ?_)
  exact .bind (.change _) fun _ => .read _

theorem Members.delete_failsQuietly (uid : String) : (Members.delete uid).FailsQuietly := by
  unfold Members.delete
  refine .bind (.read _) fun _ => .ite ?_ (Action.Quiet.failing _ _).failsQuietly
  exact .bind (.change _) fun _ => (Action.Total.report _).failsQuietly

theorem Grants.apply_failsQuietly (uid : String) (change : GrantChange) :
    (Grants.apply uid change).FailsQuietly :=
  .ite (Action.Quiet.pure ()).failsQuietly
    (.bind (.change _) fun _ => (Action.Total.report _).failsQuietly)

theorem Assignment.update_failsQuietly (settings : Settings) (uid : String)
    (request : GrantRequest) : (Assignment.update settings uid request).FailsQuietly := by
  unfold Assignment.update
  refine .bind (.ofExcept _) fun change => .bind (.read _) fun _ => ?_
  refine .ite (Action.Quiet.pure ()).failsQuietly ?_
  exact .bind_total (Grants.apply_failsQuietly uid change) fun _ => .report _

theorem DemoDays.create_failsQuietly (new : NewDemoDay) :
    (DemoDays.create new).FailsQuietly := by
  unfold DemoDays.create
  refine .bind (.ofExcept _) fun _ => .ite (Action.Quiet.failing _ _).failsQuietly ?_
  refine .bind (.read _) fun _ => .bind (.change _) fun _ => .bind .moment fun _ => ?_
  refine .bind (.read _) fun day => Action.FailsQuietly.bind_total ?_ fun _ => .pure day
  exact (Action.Total.report _).failsQuietly

theorem DemoDays.amend_quiet (id : Uuid) (edit : DayRow → DayRow) :
    (DemoDays.amend id edit).Quiet := .bind (.change _) fun _ => .read _

theorem DemoDays.updateStatus_quiet (slug : String) (status : Status) :
    (DemoDays.updateStatus slug status).Quiet := by
  unfold DemoDays.updateStatus
  exact .bind (.read _) fun _ => .ite (DemoDays.amend_quiet _ _) (.failing _ _)

theorem DemoDays.updateHost_quiet (slug host : String) : (DemoDays.updateHost slug host).Quiet := by
  unfold DemoDays.updateHost
  refine .bind (.ofExcept _) fun _ => .bind (.read _) fun _ => ?_
  exact .ite (DemoDays.amend_quiet _ _) (.failing _ _)

namespace Access

theorem trail_canAdminister (settings : Settings) (uid : String) (role : Role) (host : String)
    (s : Store) : Event.trail (canAdminister settings uid role host s).events = [] := by
  unfold canAdminister
  cases Grants.hostsIfHeld uid role s with
  | error e => rfl
  | ok found => cases found <;> rfl

theorem trail_canAdministerDay (settings : Settings) (uid slug : String) (s : Store) :
    Event.trail (canAdministerDay settings uid slug s).events = [] := by
  unfold canAdministerDay
  cases DemoDays.find slug s with
  | error e => rfl
  | ok day => exact trail_canAdminister settings uid .demoDayAdmin day.host s

theorem trail_capabilities (settings : Settings) (uid host : String) (s : Store) :
    Event.trail (capabilities settings uid host s).events = [] := by
  unfold capabilities
  cases Grants.ofMember uid s <;> rfl

end Access

variable {moment : Moment} {s : Store}

/-! ## Requests -/

namespace Http

/-- A fault that is not for the caller is reported as one, which belongs to no trail. -/
theorem trail_faultEvent? (e : Error) : Event.trail (faultEvent? e).toList = [] := by
  cases e <;> rfl

theorem complain_trail (action : Action Error Response) :
    ((complain action).run moment s).trail = (action.run moment s).trail := by
  rw [run_complain]
  cases (action.run moment s).result with
  | ok response => rfl
  | error e =>
    rw [Outcome.trail, Event.trail_append, trail_faultEvent?, List.append_nil]
    rfl

theorem complain_quiet {action : Action Error Response} (quiet : action.Quiet) :
    (complain action).Quiet := fun moment s => (complain_trail action).trans (quiet moment s)

theorem get_quiet (settings : Settings) (route : Route) (query : List Char) :
    (get settings route query).Quiet := by
  cases route with
  | health => exact .pure _
  | grants uid =>
    simp only [get]
    split
    · exact complain_quiet (.bind (.read _) fun _ => .pure _)
    · exact .pure _
  | access uid =>
    simp only [get]
    split
    · refine complain_quiet (.bind (.ofExcept _) fun role => .bind ?_ fun _ => .pure _)
      exact .audited (Access.trail_canAdminister settings _ role _)
    · exact .pure _
  | dayAccess uid slug =>
    simp only [get]
    split
    · refine complain_quiet (.bind ?_ fun _ => .pure _)
      exact .audited (Access.trail_canAdministerDay settings _ _)
    · exact .pure _

theorem patchGrants_trail (settings : Settings) (uid : String) (wanted : GrantRequest) :
    ((patchGrants settings uid wanted).run moment s).trail =
      ((Assignment.update settings uid wanted).run moment s).trail := by
  unfold patchGrants
  rw [Action.trail_bind_of_ok (a := ()) rfl]
  cases updated : ((Assignment.update settings uid wanted).run moment s).result with
  | ok => exact (Action.trail_bind_of_ok updated).trans (List.append_nil _)
  | error e => exact Action.trail_bind_of_error updated

theorem patch_trail (settings : Settings) (uid : String) (request : Request) :
    ((patch settings uid request).run moment s).trail =
      match (do return (← Text.percentDecode? uid, ← (requestedChange request).toOption) :
        Option (String × GrantRequest)) with
      | some (uid, wanted) => ((Assignment.update settings uid wanted).run moment s).trail
      | none => [] := by
  unfold patch
  cases Text.percentDecode? uid with
  | none => rfl
  | some uid =>
    cases requestedChange request with
    | error status => rfl
    | ok wanted => exact (complain_trail _).trans (patchGrants_trail settings uid wanted)

/-- A request leaves the trail of its update, if it stands for one. -/
theorem serve_trail (settings : Settings) (request : Request) :
    ((serve settings request).run moment s).trail =
      match updateOf? request with
      | some (uid, wanted) => ((Assignment.update settings uid wanted).run moment s).trail
      | none => [] := by
  unfold serve updateOf?
  cases Route.ofPath? request.target.path with
  | none => simp [Outcome.trail]
  | some route =>
    by_cases method : request.method = "PATCH"
    · rw [if_pos method, method]
      cases route with
      | grants uid => exact patch_trail settings uid request
      | _ => rfl
    · rw [if_neg method]
      dsimp only
      split
      next => exact get_quiet settings _ _ moment s
      next => exact Action.Quiet.bind (get_quiet settings _ _) (fun _ => .pure _) moment s
      next patched => exact absurd patched method
      next => rfl

end Http

/-! ## Operations -/

namespace Operation

theorem answering_trail {answer : α → Answer} (action : Action Error α) :
    ((answering answer action).run moment s).trail = (action.run moment s).trail := by
  rw [answering, Action.run_map]
  rfl

theorem answering_quiet {answer : α → Answer} {action : Action Error α} (quiet : action.Quiet) :
    (answering answer action).Quiet := fun moment s => (answering_trail action).trans (quiet moment s)

theorem answering_failsQuietly {answer : α → Answer} {action : Action Error α}
    (quietly : action.FailsQuietly) : (answering answer action).FailsQuietly :=
  .mapError (.bind_total quietly fun _ => .pure _) _

/-- Operations that may leave a trail. -/
def isAudited : Operation → Bool
  | .migrate => true
  | .deleteMember _ => true
  | .applyGrants .. => true
  | .assign .. => true
  | .createDay _ => true
  | .serve .. => true
  | _ => false

theorem quiet {operation : Operation} (unaudited : operation.isAudited = false) :
    operation.perform.Quiet := by
  cases operation with
  | migrate | deleteMember | applyGrants | assign | createDay | serve => cases unaudited
  | createMember new => exact answering_quiet (Members.create_quiet new)
  | replaceRoles | replaceScopes => exact answering_quiet (.change _)
  | updateStatus slug status => exact answering_quiet (DemoDays.updateStatus_quiet slug status)
  | updateHost slug host => exact answering_quiet (DemoDays.updateHost_quiet slug host)
  | canAdminister settings uid role host =>
    exact answering_quiet (.audited (Access.trail_canAdminister settings uid role host))
  | canAdministerDay settings uid slug =>
    exact answering_quiet (.audited (Access.trail_canAdministerDay settings uid slug))
  | capabilities settings uid host =>
    exact answering_quiet (.audited (Access.trail_capabilities settings uid host))
  | _ => exact answering_quiet (.read _)

/-- An operation that fails leaves no trail, not even one whose transaction the store has taken
back. Only the migrations tell of those that were applied before the one that failed. -/
theorem failsQuietly {operation : Operation} (other : operation ≠ .migrate) :
    operation.perform.FailsQuietly := by
  cases audited : operation.isAudited with
  | false => exact (quiet audited).failsQuietly
  | true =>
    cases operation with
    | migrate => exact absurd rfl other
    | deleteMember uid => exact answering_failsQuietly (Members.delete_failsQuietly uid)
    | applyGrants uid change => exact answering_failsQuietly (Grants.apply_failsQuietly uid change)
    | assign settings uid request =>
      exact answering_failsQuietly (Assignment.update_failsQuietly settings uid request)
    | createDay new => exact answering_failsQuietly (DemoDays.create_failsQuietly new)
    | serve settings request =>
      -- A request is always answered.
      exact .mapError (fun _ _ e => e.elim) _
    | _ => cases audited

end Operation

end HostAccess
