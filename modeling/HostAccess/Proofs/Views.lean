import HostAccess.Proofs.Profiles

/-! # Views

What is kept in view of the directory is some of its members and some of its demo days. Two stores
look alike if they have the same profiles of these. An operation that names something out of view
leaves a store that looks as before. -/
namespace HostAccess

/-! ## Names in operations -/

namespace Http.Route

/-- The uid in a path, if it can be decoded. -/
def member? : Route → Option String
  | .health => none
  | .grants uid | .access uid | .dayAccess uid _ => Text.percentDecode? uid

def slug? : Route → Option String
  | .dayAccess _ slug => Text.percentDecode? slug
  | _ => none

end Http.Route

namespace Operation

/-- The uid that an operation names. -/
def member? : Operation → Option String
  | .createMember new => some new.uid
  | .findMember uid | .isMember uid | .deleteMember uid => some uid
  | .rolesOf uid | .replaceRoles uid _ => some uid
  | .scopesOf uid | .hostsOf uid | .replaceScopes uid _ _ => some uid
  | .applyGrants uid _ | .storedGrants uid | .hostsIfHeld uid _ => some uid
  | .assign _ uid _ | .grantsOf uid => some uid
  | .canAdminister _ uid _ _ | .canAdministerDay _ uid _ | .capabilities _ uid _ => some uid
  | .serve _ request => (Http.Route.ofPath? request.target.path).bind Http.Route.member?
  | .migrate | .listMembers _ | .holdersOf _ => none
  | .createDay _ | .findDay _ | .updateStatus _ _ | .updateHost _ _ | .daysOn _ => none

/-- The slug that an operation names. -/
def slug? : Operation → Option String
  | .createDay new => some new.slug
  | .findDay slug | .updateStatus slug _ | .updateHost slug _ => some slug
  | .canAdministerDay _ _ slug => some slug
  | .serve _ request => (Http.Route.ofPath? request.target.path).bind Http.Route.slug?
  | _ => none

/-- Reads that range over all members or all demo days. -/
def isAggregate : Operation → Bool
  | .listMembers _ | .holdersOf _ | .daysOn _ => true
  | _ => false

end Operation

/-- An answer without times and generated ids. -/
def Answer.plain : Answer → Answer
  | .member m => .member m.plain
  | .members page => .members { page with items := page.items.map Member.plain }
  | .day d => .day d.plain
  | .days listed => .days (listed.map DemoDay.plain)
  | answer => answer

/-- The uids and the slugs that are kept in view. -/
structure Focus where
  member : String → Bool
  day : String → Bool

namespace Focus

def onMember (uid : String) : Focus := ⟨(· == uid), fun _ => true⟩

def onDay (slug : String) : Focus := ⟨fun _ => true, (· == slug)⟩

/-- Whether an operation names nothing that is out of view. -/
def admits (focus : Focus) (operation : Operation) : Bool :=
  operation.member?.all focus.member && operation.slug?.all focus.day

theorem admits_iff {focus : Focus} {operation : Operation} :
    focus.admits operation = true ↔
      (∀ uid, operation.member? = some uid → focus.member uid = true) ∧
        ∀ slug, operation.slug? = some slug → focus.day slug = true := by
  rw [admits, Bool.and_eq_true, Option.all_eq_true, Option.all_eq_true]

theorem admits_member {focus : Focus} {operation : Operation} {uid : String}
    (member : operation.member? = some uid) (slug : operation.slug? = none) :
    focus.admits operation = focus.member uid := by
  rw [admits, member, slug, Option.all_some, Option.all_none, Bool.and_true]

theorem admits_day {focus : Focus} {operation : Operation} {slug : String}
    (member : operation.member? = none) (day : operation.slug? = some slug) :
    focus.admits operation = focus.day slug := by
  rw [admits, member, day, Option.all_none, Option.all_some, Bool.true_and]

end Focus

/-! ## Stores that look alike -/

/-- Stores with the same profiles of all that is in view. -/
structure Store.Alike (focus : Focus) (s t : Store) : Prop where
  members : ∀ uid, focus.member uid = true → s.profile uid = t.profile uid
  days : ∀ slug, focus.day slug = true → s.dayProfile slug = t.dayProfile slug

/-- Outcomes that give the same view of their results and leave stores that look alike. -/
structure Outcome.Alike {ε α β : Type} (focus : Focus) (view : α → β) (a b : Outcome ε α) :
    Prop where
  results : a.result.map view = b.result.map view
  stores : a.store.Alike focus b.store

theorem Outcome.Alike.results_eq {ε α : Type} {focus : Focus} {a b : Outcome ε α}
    (alike : a.Alike focus id b) : a.result = b.result := by
  simpa only [Except.map_id, id] using alike.results

/-- What the directory makes of a fresh store: it records the migrations, and its demo days are read
as they were written. -/
structure Store.Orderly (s : Store) : Prop extends s.Settled where
  catalogued : s.Catalogued

variable {focus : Focus} {s s' t : Store} {moment moment' : Moment}

namespace Store

theorem Orderly.performed (orderly : s.Orderly) (operation : Operation) (moment : Moment) :
    (operation.perform.run moment s).store.Orderly := by
  obtain ⟨settled, catalogued⟩ := orderly.toSettled.perform_keeps
    (fun settled catalogued commit => (commit.catalogue_cases settled.toMigrated catalogued).1)
    orderly.catalogued operation moment
  exact { settled with catalogued := catalogued }

namespace Alike

theorem refl (s : Store) : s.Alike focus s := ⟨fun _ _ => rfl, fun _ _ => rfl⟩

theorem trans (first : s.Alike focus s') (second : s'.Alike focus t) : s.Alike focus t where
  members uid inside := (first.members uid inside).trans (second.members uid inside)
  days slug inside := (first.days slug inside).trans (second.days slug inside)

/-! ### The same write in both stores -/

variable (alike : s.Alike focus t)

include alike

theorem joined {m m' : Member} (same : m.plain = m'.plain) :
    (s.joined m).Alike focus (t.joined m') where
  members who inside := by
    have named : m.uid = m'.uid := show m.plain.uid = m'.plain.uid from congrArg Member.uid same
    have before := alike.members who inside
    rw [profile_joined, profile_joined, before, record_congr before, named, same]
  days := alike.days

theorem without (uid : String) : (s.without uid).Alike focus (t.without uid) where
  members who inside := by rw [profile_without, profile_without, alike.members who inside]
  days := alike.days

theorem granted (uid : String) (change : GrantChange) (now now' : Instant) :
    (s.granted uid change now).Alike focus (t.granted uid change now') where
  members who inside := by
    rw [profile_granted, profile_granted, alike.members who inside]
    split
    next own =>
      have before := alike.members uid (own ▸ inside)
      rw [before, rolesOf_congr before, hostsOf_congr before]
    next => rfl
  days := alike.days

theorem announced (first : s.Catalogued) (second : t.Catalogued) (new : NewDemoDay) :
    (s.announced (new.row moment)).Alike focus (t.announced (new.row moment')) where
  members := alike.members
  days slug inside := by
    rw [dayProfile_announced first, dayProfile_announced second, alike.days slug inside]
    rfl

/-- Demo days of one slug, revised in the same way at different times. -/
theorem edited (first : s.Orderly) (second : t.Orderly) {current current' : DemoDay}
    (present : current ∈ s.catalogue) (present' : current' ∈ t.catalogue)
    {edit : DayRow → DayRow} (revision : Instant → DemoDay → DemoDay)
    (keeps : ∀ now day, (revision now day).slug = day.slug)
    (revises : ∀ now (day : DemoDay),
      { edit day.row with updatedAt := now } = (revision now day).row)
    {now now' : Instant} (same : (revision now current).plain = (revision now' current').plain) :
    (s.edited current.id edit now).Alike focus (t.edited current'.id edit now') where
  members := alike.members
  days slug inside := by
    obtain ⟨slugs, -⟩ := DemoDay.plain_eq_iff.mp same
    rw [keeps, keeps] at slugs
    rw [dayProfile_edited first.toMigrated first.catalogued present (keeps now) (revises now),
      dayProfile_edited second.toMigrated second.catalogued present' (keeps now') (revises now'),
      alike.days slug inside, slugs, same]

end Alike

/-! ### A write out of view -/

theorem alike_joined {m : Member} (outside : focus.member m.uid = false) :
    (s.joined m).Alike focus s where
  members who inside := by
    have other : m.uid ≠ who := fun same => by simp [same, inside] at outside
    rw [profile_joined, if_neg other, Option.or_none]
    rfl
  days _ _ := rfl

theorem alike_without {uid : String} (outside : focus.member uid = false) :
    (s.without uid).Alike focus s where
  members who inside := by
    rw [profile_without, if_neg]
    rintro rfl
    simp [inside] at outside
  days _ _ := rfl

theorem alike_granted {uid : String} {change : GrantChange} {now : Instant}
    (outside : focus.member uid = false) : (s.granted uid change now).Alike focus s where
  members who inside := by
    rw [profile_granted, if_neg]
    rintro rfl
    simp [inside] at outside
  days _ _ := rfl

theorem alike_announced (catalogued : s.Catalogued) {new : NewDemoDay}
    (outside : focus.day new.slug = false) : (s.announced (new.row moment)).Alike focus s where
  members _ _ := rfl
  days slug inside := by
    have other : new.slug ≠ slug := fun same => by simp [same, inside] at outside
    rw [dayProfile_announced catalogued, if_neg other, Option.or_none]

theorem alike_edited (orderly : s.Orderly) {current : DemoDay} (present : current ∈ s.catalogue)
    {edit : DayRow → DayRow} (revision : DemoDay → DemoDay) {now : Instant}
    (keeps : ∀ day, (revision day).slug = day.slug)
    (revises : ∀ day : DemoDay, { edit day.row with updatedAt := now } = (revision day).row)
    (outside : focus.day current.slug = false) : (s.edited current.id edit now).Alike focus s where
  members _ _ := rfl
  days slug inside := by
    rw [dayProfile_edited orderly.toMigrated orderly.catalogued present keeps revises, if_neg]
    rintro rfl
    simp [inside] at outside

end Store

/-! ## Operations out of view -/

namespace Operation

theorem names_of_updateOf? {request : Http.Request} {uid : String} {wanted : GrantRequest}
    (stands : Http.updateOf? request = some (uid, wanted)) :
    ∃ spelt, Http.Route.ofPath? request.target.path = some (.grants spelt) ∧
      Text.percentDecode? spelt = some uid := by
  unfold Http.updateOf? at stands
  split at stands
  next =>
    split at stands
    next spelt leads =>
      simp only [Option.bind_eq_bind, Option.bind_eq_some_iff] at stands
      obtain ⟨decoded, names, change, -, same⟩ := stands
      cases same
      exact ⟨spelt, leads, names⟩
    next => cases stands
  next => cases stands

/-- A change of grants is asked for by one name. -/
theorem names_of_change? {operation : Operation} {uid : String} {change : GrantChange}
    (asked : operation.change? = some (uid, change)) :
    operation.member? = some uid ∧ operation.slug? = none := by
  cases operation with
  | replaceRoles who roles => cases asked; exact ⟨rfl, rfl⟩
  | replaceScopes who type values => cases asked; exact ⟨rfl, rfl⟩
  | applyGrants who other => cases asked; exact ⟨rfl, rfl⟩
  | assign settings who request =>
    simp only [change?, update?, Option.bind_eq_bind, Option.bind_some,
      Option.bind_eq_some_iff] at asked
    obtain ⟨planned, -, same⟩ := asked
    cases same
    exact ⟨rfl, rfl⟩
  | serve settings request =>
    simp only [change?, update?, Option.bind_eq_bind, Option.bind_eq_some_iff,
      Option.map_eq_some_iff] at asked
    obtain ⟨_, ⟨⟨who, wanted⟩, stands, rfl⟩, planned, -, same⟩ := asked
    cases same
    obtain ⟨spelt, leads, names⟩ := names_of_updateOf? stands
    rw [member?, slug?, leads]
    exact ⟨names, rfl⟩
  | _ => cases asked

theorem alike_of_outside (orderly : s.Orderly) {operation : Operation}
    (outside : focus.admits operation = false) (moment : Moment) :
    (operation.perform.run moment s).store.Alike focus s := by
  rcases perform_writes orderly.toSettled operation moment with same | writes
  · rw [same]
    exact .refl s
  revert writes
  generalize (operation.perform.run moment s).store = left
  intro writes
  cases writes with
  | joined new => exact Store.alike_joined ((Focus.admits_member rfl rfl).symm.trans outside)
  | without uid => exact Store.alike_without ((Focus.admits_member rfl rfl).symm.trans outside)
  | granted asked =>
    obtain ⟨member, slug⟩ := names_of_change? asked
    exact Store.alike_granted ((Focus.admits_member member slug).symm.trans outside)
  | announced new =>
    exact Store.alike_announced orderly.catalogued ((Focus.admits_day rfl rfl).symm.trans outside)
  | moved slug status current found =>
    obtain ⟨present, rfl⟩ := (orderly.catalogued.find_eq_ok_iff orderly.toMigrated).mp found
    exact Store.alike_edited orderly present ({ · with status := status, updatedAt := moment.now })
      (fun _ => rfl) (fun _ => rfl) ((Focus.admits_day rfl rfl).symm.trans outside)
  | rehosted slug host current found =>
    obtain ⟨present, rfl⟩ := (orderly.catalogued.find_eq_ok_iff orderly.toMigrated).mp found
    exact Store.alike_edited orderly present ({ · with host := host, updatedAt := moment.now })
      (fun _ => rfl) (fun _ => rfl) ((Focus.admits_day rfl rfl).symm.trans outside)

end Operation

end HostAccess
