import HostAccess.Proofs.Commits

/-! # What operations write

A commit tells what became of the rows, and not which operation asked for it. Here every operation
is tied to the writes that it may end in, so that what is known of the operations of a run is known
of the rows that they leave. -/
namespace HostAccess

variable {s : Store} {moment : Moment}

/-! ## Changes of grants -/

namespace Operation

/-- The update of a member's grants that an operation is, under the settings that judge it. -/
def update? : Operation → Option (Settings × String × GrantRequest)
  | .assign settings uid request => some (settings, uid, request)
  | .serve settings request => (Http.updateOf? request).map (settings, ·)
  | _ => none

/-- The change of grants that an operation asks for, with the uid that it names. An update whose
entries are refused asks for none. -/
def change? : Operation → Option (String × GrantChange)
  | .replaceRoles uid roles => some (uid, ⟨some roles, none⟩)
  | .replaceScopes uid _ values => some (uid, ⟨none, some values⟩)
  | .applyGrants uid change => some (uid, change)
  | operation => do
    let (settings, uid, request) ← operation.update?
    return (uid, ← (Assignment.plan settings request).toOption)

/-- A write, under the operation that may end in it. -/
inductive Writes (moment : Moment) (s : Store) : Operation → Store → Prop
  | joined (new : NewMember) : Writes moment s (.createMember new) (s.joined (new.row moment.now))
  | without (uid : String) : Writes moment s (.deleteMember uid) (s.without uid)
  | granted {operation : Operation} {uid : String} {change : GrantChange}
      (asked : operation.change? = some (uid, change)) :
      Writes moment s operation (s.granted uid change moment.now)
  | announced (new : NewDemoDay) : Writes moment s (.createDay new) (s.announced (new.row moment))
  | moved (slug : String) (status : Status) (current : DemoDay)
      (found : DemoDays.find slug s = .ok current) :
      Writes moment s (.updateStatus slug status)
        (s.edited current.id ({ · with status := status.name }) moment.now)
  | rehosted (slug host : String) (current : DemoDay) (found : DemoDays.find slug s = .ok current) :
      Writes moment s (.updateHost slug host)
        (s.edited current.id ({ · with host := host }) moment.now)

/-! ## Writes of each operation -/

theorem answering_eq_ok_iff {α : Type} {answer : α → Answer} {action : Action Error α}
    {a : Answer} :
    ((answering answer action).run moment s).result = .ok a ↔
      ∃ value, (action.run moment s).result = .ok value ∧ answer value = a := by
  rw [answering, Action.run_map]
  cases (action.run moment s).result <;> simp [Except.map]

theorem answering_store {α : Type} (answer : α → Answer) (action : Action Error α) :
    ((answering answer action).run moment s).store = (action.run moment s).store := by
  rw [answering, Action.run_map]

end Operation

/-- An update that succeeds has a plan and a member, and writes its plan unless there is nothing to
write. -/
theorem Assignment.updated (migrated : s.Migrated) {settings : Settings} {uid : String}
    {request : GrantRequest}
    (returned : ((update settings uid request).run moment s).result = .ok ()) :
    ∃ change, plan settings request = .ok change ∧ demandMember uid s = .ok () ∧
      ((update settings uid request).run moment s).store =
        if change.isEmpty then s else s.granted uid change moment.now := by
  rw [run_update migrated] at returned ⊢
  cases planned : plan settings request with
  | error e =>
    rw [planned] at returned
    cases returned
  | ok change =>
    cases demanded : demandMember uid s with
    | error e =>
      rw [planned, demanded] at returned
      cases returned
    | ok =>
      refine ⟨change, rfl, rfl, ?_⟩
      dsimp only
      split <;> rfl

namespace Store.Migrated

variable (migrated : s.Migrated)

include migrated

theorem write_leaves (uid : String) (change : GrantChange) :
    ((Grants.write uid change).run moment s).store = s ∨
      ((Grants.write uid change).run moment s).store = s.granted uid change moment.now := by
  rw [Grants.run_write]
  cases written : s.putGrants uid change moment.now with
  | error e => exact Or.inl rfl
  | ok s' => exact Or.inr (migrated.putGrants_eq_ok_iff.mp written).2

theorem apply_leaves (uid : String) (change : GrantChange) :
    ((Grants.apply uid change).run moment s).store = s ∨
      ((Grants.apply uid change).run moment s).store = s.granted uid change moment.now := by
  rw [Grants.run_apply]
  split
  next => exact Or.inl rfl
  next =>
    cases written : s.putGrants uid change moment.now with
    | error e => exact Or.inl rfl
    | ok s' => exact Or.inr (migrated.putGrants_eq_ok_iff.mp written).2

theorem update_leaves (settings : Settings) (uid : String) (request : GrantRequest) :
    ((Assignment.update settings uid request).run moment s).store = s ∨
      ∃ change, Assignment.plan settings request = .ok change ∧
        ((Assignment.update settings uid request).run moment s).store =
          s.granted uid change moment.now := by
  rw [Assignment.run_update migrated]
  cases Assignment.plan settings request with
  | error e => exact Or.inl rfl
  | ok change =>
    cases Assignment.demandMember uid s with
    | error e => exact Or.inl rfl
    | ok =>
      dsimp only
      split
      next => exact Or.inl rfl
      next => exact Or.inr ⟨change, rfl, rfl⟩

theorem amend_leaves (id : Uuid) (edit : DayRow → DayRow) :
    ((DemoDays.amend id edit).run moment s).store = s ∨
      ((DemoDays.amend id edit).run moment s).store = s.edited id edit moment.now := by
  rw [DemoDays.run_amend]
  cases revised : DemoDays.revise id edit moment.now s with
  | error refusal => exact Or.inl rfl
  | ok s' => exact Or.inr (migrated.revise_day_eq_ok_iff.mp revised).2

end Store.Migrated

namespace Operation

theorem createMember_writes (migrated : s.Migrated) (new : NewMember) :
    ((createMember new).perform.run moment s).store = s ∨
      (createMember new).Writes moment s ((createMember new).perform.run moment s).store := by
  rw [perform, answering_store, Members.run_create migrated]
  split
  next => exact Or.inl rfl
  next =>
    split
    next => exact Or.inl rfl
    next => exact Or.inr (.joined new)

theorem deleteMember_writes (migrated : s.Migrated) (uid : String) :
    ((deleteMember uid).perform.run moment s).store = s ∨
      (deleteMember uid).Writes moment s ((deleteMember uid).perform.run moment s).store := by
  rw [perform, doing, answering_store, Members.run_delete migrated]
  split
  next => exact Or.inl rfl
  next =>
    split
    next => exact Or.inr (.without uid)
    next => exact Or.inl rfl

theorem createDay_writes (migrated : s.Migrated) (new : NewDemoDay) :
    ((createDay new).perform.run moment s).store = s ∨
      (createDay new).Writes moment s ((createDay new).perform.run moment s).store := by
  rw [perform, answering_store, DemoDays.run_create migrated]
  cases Host.validateConcrete new.host with
  | error e => exact Or.inl rfl
  | ok =>
    dsimp only
    split
    next => exact Or.inl rfl
    next =>
      cases DemoDays.demandFree new.slug s with
      | error e => exact Or.inl rfl
      | ok =>
        cases added : DemoDays.add new moment s with
        | error refusal => exact Or.inl rfl
        | ok s' =>
          obtain ⟨-, rfl⟩ := migrated.add_day_eq_ok_iff.mp added
          exact Or.inr (.announced new)

theorem updateStatus_writes (migrated : s.Migrated) (slug : String) (status : Status) :
    ((updateStatus slug status).perform.run moment s).store = s ∨
      (updateStatus slug status).Writes moment s
        ((updateStatus slug status).perform.run moment s).store := by
  rw [perform, answering_store, DemoDays.run_updateStatus]
  cases found : DemoDays.find slug s with
  | error e => exact Or.inl rfl
  | ok current =>
    dsimp only
    split
    next =>
      refine (migrated.amend_leaves current.id _).imp_right fun left => ?_
      rw [left]
      exact .moved slug status current found
    next => exact Or.inl rfl

theorem updateHost_writes (migrated : s.Migrated) (slug host : String) :
    ((updateHost slug host).perform.run moment s).store = s ∨
      (updateHost slug host).Writes moment s
        ((updateHost slug host).perform.run moment s).store := by
  rw [perform, answering_store, DemoDays.run_updateHost]
  cases Host.validateConcrete host with
  | error e => exact Or.inl rfl
  | ok =>
    cases found : DemoDays.find slug s with
    | error e => exact Or.inl rfl
    | ok current =>
      dsimp only
      split
      next =>
        refine (migrated.amend_leaves current.id _).imp_right fun left => ?_
        rw [left]
        exact .rehosted slug host current found
      next => exact Or.inl rfl

theorem serve_writes (migrated : s.Migrated) (settings : Settings) (request : Http.Request) :
    ((serve settings request).perform.run moment s).store = s ∨
      (serve settings request).Writes moment s
        ((serve settings request).perform.run moment s).store := by
  rw [perform, Action.run_map, Http.serve_store_eq]
  cases stands : Http.updateOf? request with
  | none => exact Or.inl rfl
  | some update =>
    obtain ⟨uid, wanted⟩ := update
    rcases migrated.update_leaves settings uid wanted with same | ⟨change, planned, left⟩
    · exact Or.inl same
    · refine Or.inr ?_
      dsimp only
      rw [left]
      exact .granted (by simp [change?, update?, stands, planned, Except.toOption])

/-- An operation leaves the store as it is, or it ends in one of its writes. -/
theorem perform_writes (settled : s.Settled) (operation : Operation) (moment : Moment) :
    (operation.perform.run moment s).store = s ∨
      operation.Writes moment s (operation.perform.run moment s).store := by
  have migrated := settled.toMigrated
  cases operation with
  | migrate => exact Or.inl (by rw [settled.run_migrate])
  | createMember new => exact createMember_writes migrated new
  | deleteMember uid => exact deleteMember_writes migrated uid
  | replaceRoles uid roles =>
    rw [perform, doing, answering_store, Roles.replace_eq_write]
    refine (migrated.write_leaves uid ⟨some roles, none⟩).imp_right fun left => ?_
    rw [left]
    exact .granted rfl
  | replaceScopes uid type values =>
    rw [perform, doing, answering_store, Scopes.replace_eq_write]
    refine (migrated.write_leaves uid ⟨none, some values⟩).imp_right fun left => ?_
    rw [left]
    exact .granted rfl
  | applyGrants uid change =>
    rw [perform, doing, answering_store]
    refine (migrated.apply_leaves uid change).imp_right fun left => ?_
    rw [left]
    exact .granted rfl
  | assign settings uid request =>
    rw [perform, doing, answering_store]
    rcases migrated.update_leaves settings uid request with same | ⟨change, planned, left⟩
    · exact Or.inl same
    · exact Or.inr (left ▸ .granted (by simp [change?, update?, planned, Except.toOption]))
  | createDay new => exact createDay_writes migrated new
  | updateStatus slug status => exact updateStatus_writes migrated slug status
  | updateHost slug host => exact updateHost_writes migrated slug host
  | serve settings request => exact serve_writes migrated settings request
  | _ => exact Or.inl (answering_store _ _)

end Operation

end HostAccess
