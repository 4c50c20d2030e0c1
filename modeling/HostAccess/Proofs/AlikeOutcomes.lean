import HostAccess.Proofs.Views

/-! # Outcomes that look alike

An operation in view that is performed on two stores that look alike gives the same answer, apart
from times and generated ids, and leaves stores that look alike again. Each action is taken through
the exits of its equation, and both stores are found to take the same one. -/
namespace HostAccess

variable {focus : Focus} {s t : Store} {moment moment' : Moment}

/-! ## Operations in view -/

theorem Http.complain_alike {action : Action Error Response}
    (outcomes : (action.run moment s).Alike focus id (action.run moment' t)) :
    ((complain action).run moment s).Alike focus id ((complain action).run moment' t) where
  results := by rw [complain_result, complain_result, outcomes.results_eq]
  stores := by
    rw [complain_store, complain_store]
    exact outcomes.stores

namespace Operation

theorem answering_alike {α β : Type} {answer : α → Answer} {view : α → β} {action : Action Error α}
    (shown : ∀ a b, view a = view b → (answer a).plain = (answer b).plain)
    (outcomes : (action.run moment s).Alike focus view (action.run moment' t)) :
    ((answering answer action).run moment s).Alike focus Answer.plain
      ((answering answer action).run moment' t) := by
  rw [answering, Action.run_map, Action.run_map]
  refine ⟨?_, outcomes.stores⟩
  have same := outcomes.results
  cases first : (action.run moment s).result with
  | error e =>
    cases second : (action.run moment' t).result with
    | error e' =>
      rw [first, second] at same
      cases same
      rfl
    | ok b =>
      rw [first, second] at same
      cases same
  | ok a =>
    cases second : (action.run moment' t).result with
    | error e' =>
      rw [first, second] at same
      cases same
    | ok b =>
      rw [first, second] at same
      exact congrArg Except.ok (shown a b (Except.ok.inj same))

theorem aggregate_store {operation : Operation} (aggregate : operation.isAggregate = true) :
    (operation.perform.run moment s).store = s := by
  cases operation with
  | listMembers | holdersOf | daysOn => exact answering_store _ _
  | _ => cases aggregate

/-- What is asked in the same way of stores that look alike, and understood in the same way. -/
theorem reading_alike {α : Type} {answer : α → Answer} {query : Store → Except Error α}
    (alike : s.Alike focus t) (same : query s = query t) :
    ((reading answer query).run moment s).Alike focus Answer.plain
      ((reading answer query).run moment' t) :=
  answering_alike (fun _ _ => congrArg fun a => (answer a).plain)
    (Outcome.Alike.mk (congrArg (Except.map id) same) alike)

theorem checking_alike {α : Type} {answer : α → Answer} {check : Store → Audited α}
    (alike : s.Alike focus t) (same : check s = check t) :
    ((checking answer check).run moment s).Alike focus Answer.plain
      ((checking answer check).run moment' t) :=
  answering_alike (fun _ _ => congrArg fun a => (answer a).plain)
    (Outcome.Alike.mk (congrArg (fun audited => Except.ok (Audited.value audited)) same) alike)

theorem doing_alike {action : Action Error Unit}
    (outcomes : (action.run moment s).Alike focus id (action.run moment' t)) :
    ((doing action).run moment s).Alike focus Answer.plain ((doing action).run moment' t) :=
  answering_alike (fun _ _ _ => rfl) outcomes

end Operation

section Inside

variable (first : s.Orderly) (second : t.Orderly) (alike : s.Alike focus t)

include first second alike

theorem Members.create_alike {new : NewMember} (inside : focus.member new.uid = true) :
    ((create new).run moment s).Alike focus Member.plain ((create new).run moment' t) := by
  rw [run_create first.toMigrated, run_create second.toMigrated,
    Store.present_congr (alike.members new.uid inside)]
  split
  next => exact ⟨rfl, alike⟩
  next =>
    split
    next => exact ⟨rfl, alike⟩
    next => exact ⟨rfl, alike.joined rfl⟩

theorem Members.delete_alike {uid : String} (inside : focus.member uid = true) :
    ((delete uid).run moment s).Alike focus id ((delete uid).run moment' t) := by
  rw [run_delete first.toMigrated, run_delete second.toMigrated,
    Store.present_congr (alike.members uid inside)]
  split
  next => exact ⟨rfl, alike⟩
  next =>
    split
    next => exact ⟨rfl, alike.without uid⟩
    next => exact ⟨rfl, alike⟩

/-- A change of grants is refused in both stores for the same reason, or written in both. -/
theorem Store.putGrants_alike {uid : String} (inside : focus.member uid = true)
    (change : GrantChange) (now now' : Instant) :
    (∃ e, s.putGrants uid change now = .error e ∧ t.putGrants uid change now' = .error e) ∨
      s.putGrants uid change now = .ok (s.granted uid change now) ∧
        t.putGrants uid change now' = .ok (t.granted uid change now') := by
  rw [first.declared.putGrants_eq, second.declared.putGrants_eq,
    Store.present_congr (alike.members uid inside)]
  split
  next => exact Or.inl ⟨_, rfl, rfl⟩
  next =>
    split
    next =>
      split
      next => exact Or.inl ⟨_, rfl, rfl⟩
      next => exact Or.inr ⟨rfl, rfl⟩
    next => exact Or.inl ⟨_, rfl, rfl⟩

theorem Grants.write_alike {uid : String} (inside : focus.member uid = true)
    (change : GrantChange) :
    ((write uid change).run moment s).Alike focus id ((write uid change).run moment' t) := by
  rw [run_write, run_write]
  rcases Store.putGrants_alike first second alike inside change moment.now moment'.now with
    ⟨e, refused, refused'⟩ | ⟨written, written'⟩
  · rw [refused, refused']
    exact ⟨rfl, alike⟩
  · rw [written, written']
    exact ⟨rfl, alike.granted uid change _ _⟩

theorem Grants.apply_alike {uid : String} (inside : focus.member uid = true)
    (change : GrantChange) :
    ((apply uid change).run moment s).Alike focus id ((apply uid change).run moment' t) := by
  rw [run_apply, run_apply]
  split
  next => exact ⟨rfl, alike⟩
  next =>
    rcases Store.putGrants_alike first second alike inside change moment.now moment'.now with
      ⟨e, refused, refused'⟩ | ⟨written, written'⟩
    · rw [refused, refused']
      exact ⟨rfl, alike⟩
    · rw [written, written']
      exact ⟨rfl, alike.granted uid change _ _⟩

theorem Assignment.update_alike {uid : String} (inside : focus.member uid = true)
    (settings : Settings) (request : GrantRequest) :
    ((update settings uid request).run moment s).Alike focus id
      ((update settings uid request).run moment' t) := by
  rw [run_update first.toMigrated, run_update second.toMigrated,
    Store.demandMember_congr (alike.members uid inside)]
  cases plan settings request with
  | error e => exact ⟨rfl, alike⟩
  | ok change =>
    cases demandMember uid t with
    | error e => exact ⟨rfl, alike⟩
    | ok =>
      dsimp only
      split
      next => exact ⟨rfl, alike⟩
      next => exact ⟨rfl, alike.granted uid change _ _⟩

theorem DemoDays.create_alike {new : NewDemoDay} (inside : focus.day new.slug = true)
    (unused : ¬s.HasDay moment.id) (unused' : ¬t.HasDay moment'.id) :
    ((create new).run moment s).Alike focus DemoDay.plain ((create new).run moment' t) := by
  rw [first.catalogued.run_create first.toMigrated unused,
    second.catalogued.run_create second.toMigrated unused']
  cases Host.validateConcrete new.host with
  | error e => exact ⟨rfl, alike⟩
  | ok =>
    dsimp only
    split
    next => exact ⟨rfl, alike⟩
    next =>
      rcases Store.dayProfile_eq_cases (alike.days new.slug inside) with
        ⟨free, free'⟩ | ⟨day, day', found, found', -⟩
      · rw [free, free']
        exact ⟨rfl, alike.announced first.catalogued second.catalogued new⟩
      · rw [found, found']
        exact ⟨rfl, alike⟩

theorem DemoDays.updateStatus_alike {slug : String} (inside : focus.day slug = true)
    (status : Status) :
    ((updateStatus slug status).run moment s).Alike focus DemoDay.plain
      ((updateStatus slug status).run moment' t) := by
  rw [first.catalogued.run_updateStatus first.toMigrated,
    second.catalogued.run_updateStatus second.toMigrated]
  rcases Store.dayProfile_eq_cases (alike.days slug inside) with
    ⟨absent, absent'⟩ | ⟨day, day', found, found', plain⟩
  · rw [absent, absent']
    exact ⟨rfl, alike⟩
  obtain ⟨-, -, -, statuses⟩ := DemoDay.plain_eq_iff.mp plain
  -- To revise a demo day and to leave out its id and times go together.
  have revised : ({ day with status := status, updatedAt := moment.now } : DemoDay).plain =
      ({ day' with status := status, updatedAt := moment'.now } : DemoDay).plain :=
    congrArg (fun d : DemoDay => { d with status := status }) plain
  rw [found, found']
  dsimp only
  rw [statuses]
  split
  next =>
    refine ⟨congrArg Except.ok revised, ?_⟩
    exact alike.edited first second (List.mem_of_find?_eq_some found)
      (List.mem_of_find?_eq_some found')
      (fun now d => { d with status := status, updatedAt := now }) (fun _ _ => rfl)
      (fun _ _ => rfl) revised
  next => exact ⟨rfl, alike⟩

theorem DemoDays.updateHost_alike {slug : String} (inside : focus.day slug = true) (host : String) :
    ((updateHost slug host).run moment s).Alike focus DemoDay.plain
      ((updateHost slug host).run moment' t) := by
  rw [first.catalogued.run_updateHost first.toMigrated,
    second.catalogued.run_updateHost second.toMigrated]
  cases Host.validateConcrete host with
  | error e => exact ⟨rfl, alike⟩
  | ok =>
    rcases Store.dayProfile_eq_cases (alike.days slug inside) with
      ⟨absent, absent'⟩ | ⟨day, day', found, found', plain⟩
    · rw [absent, absent']
      exact ⟨rfl, alike⟩
    obtain ⟨-, -, -, statuses⟩ := DemoDay.plain_eq_iff.mp plain
    have revised : ({ day with host := host, updatedAt := moment.now } : DemoDay).plain =
        ({ day' with host := host, updatedAt := moment'.now } : DemoDay).plain :=
      congrArg (fun d : DemoDay => { d with host := host }) plain
    rw [found, found']
    by_cases upcoming : day'.status = .upcoming
    · simp only [if_pos upcoming, if_pos (statuses.trans upcoming)]
      refine ⟨congrArg Except.ok revised, ?_⟩
      exact alike.edited first second (List.mem_of_find?_eq_some found)
        (List.mem_of_find?_eq_some found')
        (fun now d => { d with host := host, updatedAt := now }) (fun _ _ => rfl)
        (fun _ _ => rfl) revised
    · simp only [statuses, if_neg upcoming]
      exact ⟨rfl, alike⟩

/-! ### Requests -/

namespace Http

theorem getGrants_alike {uid : String} (inside : focus.member uid = true) :
    ((getGrants uid).run moment s).Alike focus id ((getGrants uid).run moment' t) := by
  have same := Store.grantsOf_congr (alike.members uid inside) first.toMigrated second.toMigrated
  unfold getGrants
  rw [Action.run_bind, Action.run_bind, Action.run_read, Action.run_read, same]
  cases Assignment.grantsOf uid t <;> exact ⟨rfl, alike⟩

theorem getAccess_alike {uid : String} (inside : focus.member uid = true) (settings : Settings)
    (role host : String) :
    ((getAccess settings uid role host).run moment s).Alike focus id
      ((getAccess settings uid role host).run moment' t) := by
  unfold getAccess
  rw [Action.run_bind, Action.run_bind, Action.run_ofExcept, Action.run_ofExcept]
  cases Role.parse role with
  | error e => exact ⟨rfl, alike⟩
  | ok role =>
    have same := Store.canAdminister_congr (alike.members uid inside) first.toMigrated
      second.toMigrated settings role host
    refine ⟨congrArg (fun allowed => Except.ok (verdict (Audited.value allowed))) same, alike⟩

theorem getDayAccess_alike {uid slug : String} (inside : focus.member uid = true)
    (insideDay : focus.day slug = true) (settings : Settings) :
    ((getDayAccess settings uid slug).run moment s).Alike focus id
      ((getDayAccess settings uid slug).run moment' t) := by
  have same := Store.canAdministerDay_congr (alike.members uid inside) first.toMigrated
    second.toMigrated settings (alike.days slug insideDay) first.catalogued second.catalogued
  exact ⟨congrArg (fun allowed => Except.ok (verdict (Audited.value allowed))) same, alike⟩

theorem get_alike (settings : Settings) {route : Route} (query : List Char)
    (inside : ∀ uid, route.member? = some uid → focus.member uid = true)
    (insideDay : ∀ slug, route.slug? = some slug → focus.day slug = true) :
    ((get settings route query).run moment s).Alike focus id
      ((get settings route query).run moment' t) := by
  cases route with
  | health => exact ⟨rfl, alike⟩
  | grants spelt =>
    simp only [get]
    cases decoded : Text.percentDecode? spelt with
    | none => exact ⟨rfl, alike⟩
    | some uid => exact complain_alike (getGrants_alike first second alike (inside uid decoded))
  | access spelt =>
    simp only [get]
    split
    next uid role host decoded _ _ =>
      exact complain_alike
        (getAccess_alike first second alike (inside uid decoded) settings role host)
    next => exact ⟨rfl, alike⟩
  | dayAccess spelt spelt' =>
    simp only [get]
    split
    next uid slug decoded decoded' =>
      exact complain_alike (getDayAccess_alike first second alike (inside uid decoded)
        (insideDay slug decoded') settings)
    next => exact ⟨rfl, alike⟩

theorem patch_alike (settings : Settings) {spelt : String} (request : Request)
    (inside : ∀ uid, Text.percentDecode? spelt = some uid → focus.member uid = true) :
    ((patch settings spelt request).run moment s).Alike focus id
      ((patch settings spelt request).run moment' t) := by
  unfold patch
  split
  next => exact ⟨rfl, alike⟩
  next => exact ⟨rfl, alike⟩
  next uid wanted decoded _ =>
    have updates := @Assignment.update_alike focus s t moment moment' first second alike uid
      (inside uid decoded) settings wanted
    refine complain_alike ⟨?_, ?_⟩
    · unfold patchGrants
      simp only [Action.run_bind, Action.run_report, updates.results_eq]
      cases ((Assignment.update settings uid wanted).run moment' t).result <;> rfl
    · rw [patchGrants_store, patchGrants_store]
      exact updates.stores

theorem serve_alike (settings : Settings) {request : Request}
    (inside : ∀ uid, (Route.ofPath? request.target.path).bind Route.member? = some uid →
      focus.member uid = true)
    (insideDay : ∀ slug, (Route.ofPath? request.target.path).bind Route.slug? = some slug →
      focus.day slug = true) :
    ((serve settings request).run moment s).Alike focus id
      ((serve settings request).run moment' t) := by
  unfold serve
  cases leads : Route.ofPath? request.target.path with
  | none => exact ⟨rfl, alike⟩
  | some route =>
    rw [leads, Option.bind_some] at inside insideDay
    have read := @get_alike focus s t moment moment' first second alike settings route
      request.target.query inside insideDay
    dsimp only
    split
    next => exact read
    next =>
      -- The content is left out of both responses.
      rw [Action.run_bind, Action.run_bind, read.results_eq]
      split
      next => exact ⟨rfl, read.stores⟩
      next => exact ⟨rfl, read.stores⟩
    next => exact patch_alike first second alike settings request inside
    next => exact ⟨rfl, alike⟩

end Http

/-- An operation in view is answered alike, as nothing is seen of it but what is in view. A new demo
day is the exception: its row is refused if its id is taken, by whichever demo day. -/
theorem Operation.perform_alike {operation : Operation} (inside : focus.admits operation = true)
    (single : operation.isAggregate = false)
    (creates : ∀ new, operation = .createDay new → ((DemoDays.create new).run moment s).Alike focus
      DemoDay.plain ((DemoDays.create new).run moment' t)) :
    (operation.perform.run moment s).Alike focus Answer.plain
      (operation.perform.run moment' t) := by
  obtain ⟨members, days⟩ := Focus.admits_iff.mp inside
  have same (uid : String) (named : operation.member? = some uid) : s.profile uid = t.profile uid :=
    alike.members uid (members uid named)
  have sameDay (slug : String) (named : operation.slug? = some slug) :
      s.dayProfile slug = t.dayProfile slug := alike.days slug (days slug named)
  have migrated := first.toMigrated
  have migrated' := second.toMigrated
  cases operation with
  | migrate =>
    rw [first.run_migrate, second.run_migrate]
    exact ⟨rfl, alike⟩
  | createMember new =>
    exact answering_alike (fun _ _ => congrArg Answer.member)
      (Members.create_alike first second alike (members _ rfl))
  | findMember uid =>
    exact answering_alike (fun _ _ => congrArg Answer.member)
      ⟨Store.find_congr (same uid rfl) migrated migrated', alike⟩
  | isMember uid =>
    exact reading_alike alike (Store.isMember_congr (same uid rfl))
  | deleteMember uid => exact doing_alike (Members.delete_alike first second alike (members _ rfl))
  | listMembers | holdersOf | daysOn => cases single
  | rolesOf uid =>
    exact reading_alike alike (Store.roles_congr (same uid rfl) migrated migrated')
  | replaceRoles uid roles =>
    rw [perform, Roles.replace_eq_write]
    exact doing_alike (Grants.write_alike first second alike (members _ rfl) _)
  | scopesOf uid =>
    exact reading_alike alike (Store.scopes_congr (same uid rfl) migrated migrated')
  | hostsOf uid =>
    exact reading_alike alike (Store.hosts_congr (same uid rfl) migrated migrated')
  | replaceScopes uid type values =>
    rw [perform, Scopes.replace_eq_write]
    exact doing_alike (Grants.write_alike first second alike (members _ rfl) _)
  | applyGrants uid change =>
    exact doing_alike (Grants.apply_alike first second alike (members _ rfl) change)
  | storedGrants uid =>
    exact reading_alike alike (Store.grants_congr (same uid rfl) migrated migrated')
  | hostsIfHeld uid role =>
    exact reading_alike alike (Store.hostsIfHeld_congr (same uid rfl) migrated migrated' role)
  | assign settings uid request =>
    exact doing_alike (Assignment.update_alike first second alike (members _ rfl) settings request)
  | grantsOf uid =>
    exact reading_alike alike (Store.grantsOf_congr (same uid rfl) migrated migrated')
  | canAdminister settings uid role host =>
    exact checking_alike alike
      (Store.canAdminister_congr (same uid rfl) migrated migrated' settings role host)
  | canAdministerDay settings uid slug =>
    exact checking_alike alike (Store.canAdministerDay_congr (same uid rfl) migrated migrated'
      settings (sameDay slug rfl) first.catalogued second.catalogued)
  | capabilities settings uid host =>
    exact checking_alike alike
      (Store.capabilities_congr (same uid rfl) migrated migrated' settings host)
  | createDay new =>
    exact answering_alike (fun _ _ => congrArg Answer.day) (creates new rfl)
  | findDay slug =>
    refine answering_alike (fun _ _ => congrArg Answer.day) ⟨?_, alike⟩
    rw [Action.run_read, Action.run_read, first.catalogued.find_plain migrated,
      second.catalogued.find_plain migrated', sameDay slug rfl]
  | updateStatus slug status =>
    exact answering_alike (fun _ _ => congrArg Answer.day)
      (DemoDays.updateStatus_alike first second alike (days _ rfl) status)
  | updateHost slug host =>
    exact answering_alike (fun _ _ => congrArg Answer.day)
      (DemoDays.updateHost_alike first second alike (days _ rfl) host)
  | serve settings request =>
    have served := @Http.serve_alike focus s t moment moment' first second alike settings request
      members days
    rw [perform, Action.run_map, Action.run_map, served.results_eq]
    exact ⟨rfl, served.stores⟩

/-- Aggregates look at what is out of view as well, but leave the stores as they are. -/
theorem Operation.perform_stores_alike {operation : Operation}
    (inside : focus.admits operation = true)
    (creates : ∀ new, operation = .createDay new → ((DemoDays.create new).run moment s).Alike focus
      DemoDay.plain ((DemoDays.create new).run moment' t)) :
    (operation.perform.run moment s).store.Alike focus (operation.perform.run moment' t).store := by
  cases aggregate : operation.isAggregate with
  | true =>
    rw [aggregate_store aggregate, aggregate_store aggregate]
    exact alike
  | false => exact (perform_alike first second alike inside aggregate creates).stores

end Inside

/-! ## Equal tables of demo days -/

/-- Operations that may write the table of demo days. -/
def Operation.writesDays : Operation → Bool
  | .createDay _ | .updateStatus _ _ | .updateHost _ _ => true
  | _ => false

theorem Operation.keeps_days (settled : s.Settled) {operation : Operation}
    (other : operation.writesDays = false) (moment : Moment) :
    (operation.perform.run moment s).store.days = s.days := by
  rcases perform_writes settled operation moment with same | writes
  · rw [same]
  generalize (operation.perform.run moment s).store = left at writes ⊢
  cases writes with
  | joined | without | granted => rfl
  | announced | moved | rehosted => cases other

/-- Where all demo days are in view, an operation out of view is about a member. -/
theorem Operation.writesDays_of_outside (whole : ∀ slug, focus.day slug = true)
    {operation : Operation} (outside : focus.admits operation = false) :
    operation.writesDays = false := by
  cases operation with
  | createDay | updateStatus | updateHost =>
    rw [Focus.admits_day rfl rfl, whole] at outside
    cases outside
  | _ => rfl

section SameDays

variable (first : s.Orderly) (second : t.Orderly) (same : s.days = t.days)

include same

theorem Store.dayRows_of_days : s.dayRows = t.dayRows := by rw [dayRows, dayRows, same]

theorem DemoDays.find_of_days (slug : String) : find slug s = find slug t := by
  have read : s.readDays = t.readDays := by
    rw [Store.readDays, Store.readDays, Store.dayTable, Store.dayTable, same]
  rw [find, find, lookup, lookup, read]

theorem DemoDays.demandFree_of_days (slug : String) : demandFree slug s = demandFree slug t := by
  rw [demandFree, demandFree, find_of_days same]

/-- A table takes a row or refuses it, whatever else is stored. -/
theorem DemoDays.add_of_days (new : NewDemoDay) (moment : Moment) :
    (∃ refusal, add new moment s = .error refusal ∧ add new moment t = .error refusal) ∨
      ∃ table, add new moment s = .ok { s with days := some table } ∧
        add new moment t = .ok { t with days := some table } := by
  have table : s.dayTable = t.dayTable := by rw [Store.dayTable, Store.dayTable, same]
  rw [add, add, table]
  cases t.dayTable with
  | error refusal => exact Or.inl ⟨refusal, rfl, rfl⟩
  | ok before =>
    simp only [ok_bind]
    cases before.insert _ with
    | error refusal => exact Or.inl ⟨refusal, rfl, rfl⟩
    | ok after => exact Or.inr ⟨after, rfl, rfl⟩

include first second

/-- Where all demo days are the same, an id that is taken is so in both stores. -/
theorem DemoDays.create_of_days (alike : s.Alike focus t) (new : NewDemoDay) :
    ((create new).run moment s).Alike focus DemoDay.plain ((create new).run moment t) ∧
      ((create new).run moment s).store.days = ((create new).run moment t).store.days := by
  rw [run_create first.toMigrated, run_create second.toMigrated, demandFree_of_days same]
  cases Host.validateConcrete new.host with
  | error e => exact ⟨⟨rfl, alike⟩, same⟩
  | ok =>
    dsimp only
    split
    next => exact ⟨⟨rfl, alike⟩, same⟩
    next =>
      cases demandFree new.slug t with
      | error e => exact ⟨⟨rfl, alike⟩, same⟩
      | ok =>
        rcases add_of_days same new moment with
          ⟨refusal, refused, refused'⟩ | ⟨table, added, added'⟩
        · rw [refused, refused']
          exact ⟨⟨rfl, alike⟩, same⟩
        · rw [added, added']
          exact ⟨⟨rfl, alike.members, fun _ _ => rfl⟩, rfl⟩

theorem DemoDays.updateStatus_of_days (slug : String) (status : Status) :
    ((updateStatus slug status).run moment s).store.days =
      ((updateStatus slug status).run moment t).store.days := by
  have rows := Store.dayRows_of_days same
  rw [first.catalogued.run_updateStatus first.toMigrated,
    second.catalogued.run_updateStatus second.toMigrated, Store.catalogue_congr rows]
  cases t.catalogue.find? (·.slug == slug) with
  | none => exact same
  | some current =>
    dsimp only
    split
    next => simp only [Store.edited, rows]
    next => exact same

theorem DemoDays.updateHost_of_days (slug host : String) :
    ((updateHost slug host).run moment s).store.days =
      ((updateHost slug host).run moment t).store.days := by
  have rows := Store.dayRows_of_days same
  rw [first.catalogued.run_updateHost first.toMigrated,
    second.catalogued.run_updateHost second.toMigrated, Store.catalogue_congr rows]
  cases Host.validateConcrete host with
  | error e => exact same
  | ok =>
    cases t.catalogue.find? (·.slug == slug) with
    | none => exact same
    | some current =>
      dsimp only
      split
      next => simp only [Store.edited, rows]
      next => exact same

theorem Operation.days_of_days (alike : s.Alike focus t) (operation : Operation) (moment : Moment) :
    (operation.perform.run moment s).store.days = (operation.perform.run moment t).store.days := by
  cases writes : operation.writesDays with
  | false =>
    rw [keeps_days first.toSettled writes, keeps_days second.toSettled writes]
    exact same
  | true =>
    cases operation with
    | createDay new =>
      rw [perform, answering_store, answering_store]
      exact (DemoDays.create_of_days first second same alike new).2
    | updateStatus slug status =>
      rw [perform, answering_store, answering_store]
      exact DemoDays.updateStatus_of_days first second same slug status
    | updateHost slug host =>
      rw [perform, answering_store, answering_store]
      exact DemoDays.updateHost_of_days first second same slug host
    | _ => cases writes

end SameDays

end HostAccess
