import HostAccess.Proofs.Noninterference
import HostAccess.Proofs.Readability

/-! # Demo days as a listing

To those who announce demo days and change them, the directory is a map from slugs to a name, a host
and a status. The map knows no ids, rows or faults of the store. That it answers as the store does
needs that a slug and an id lead to the same row, which holds as the directory names its rows
itself. -/
namespace HostAccess

theorem Host.validateConcrete_eq (host : String) :
    validateConcrete host =
      if host = "*" ∨ isValid host = false then .error (.invalidHost host) else .ok () := by
  unfold validateConcrete validate wildcard
  by_cases wild : host = "*"
  · rw [if_pos wild, if_pos (Or.inl wild)]
  · cases isValid host <;> simp [wild]

/-! ## Calls -/

/-- Calls that announce or change a demo day, and the one that asks for it. -/
inductive DayCall
  | create (new : NewDemoDay)
  | find (slug : String)
  | updateStatus (slug : String) (status : Status)
  | updateHost (slug host : String)

namespace DayCall

def slug : DayCall → String
  | create new => new.slug
  | find slug => slug
  | updateStatus slug _ => slug
  | updateHost slug _ => slug

def action : DayCall → Action Error DemoDay
  | create new => DemoDays.create new
  | find slug => Action.read (DemoDays.find slug)
  | updateStatus slug status => DemoDays.updateStatus slug status
  | updateHost slug host => DemoDays.updateHost slug host

def operation : DayCall → Operation
  | create new => .createDay new
  | find slug => .findDay slug
  | updateStatus slug status => .updateStatus slug status
  | updateHost slug host => .updateHost slug host

theorem operation_store (call : DayCall) (moment : Moment) (s : Store) :
    (call.operation.perform.run moment s).store = (call.action.run moment s).store := by
  cases call <;> exact Operation.answering_store _ _

end DayCall

/-- The call that an operation is. -/
def Operation.dayCall? : Operation → Option DayCall
  | .createDay new => some (.create new)
  | .findDay slug => some (.find slug)
  | .updateStatus slug status => some (.updateStatus slug status)
  | .updateHost slug host => some (.updateHost slug host)
  | _ => none

theorem Operation.dayCall?_eq_some_iff {operation : Operation} {call : DayCall} :
    operation.dayCall? = some call ↔ operation = call.operation := by
  constructor
  · intro asked
    cases operation <;> cases asked <;> rfl
  · rintro rfl
    cases call <;> rfl

theorem Operation.writesDays_of_other {operation : Operation}
    (other : operation.dayCall? = none) : operation.writesDays = false := by
  cases operation <;> first | rfl | cases other

/-! ## The listing -/

/-- What is listed of a demo day. -/
structure DayEntry where
  name : String
  host : String
  status : Status
deriving DecidableEq

def DemoDay.entry (day : DemoDay) : DayEntry := ⟨day.name, day.host, day.status⟩

/-- The demo days that there are, by their slugs. -/
def Listing : Type := String → Option DayEntry

namespace Listing

def empty : Listing := fun _ => none

def set (l : Listing) (slug : String) (entry : DayEntry) : Listing :=
  fun other => if other = slug then some entry else l other

theorem set_same {l : Listing} {slug : String} {entry : DayEntry} (same : l slug = some entry) :
    l.set slug entry = l := by
  funext other
  unfold set
  split
  next own => rw [own, same]
  next => rfl

/-- The answer to a call. -/
def answer (l : Listing) : DayCall → Except Error DayEntry
  | .create new =>
    if new.host = "*" ∨ Host.isValid new.host = false then .error (.invalidHost new.host)
    else if new.slug = "" then .error (.validation .emptySlug)
    else
      match l new.slug with
      | some _ => .error (.alreadyExists "demo_day")
      | none => .ok ⟨new.name, new.host, .upcoming⟩
  | .find slug =>
    match l slug with
    | none => .error (.notFound "demo_day" slug)
    | some entry => .ok entry
  | .updateStatus slug status =>
    match l slug with
    | none => .error (.notFound "demo_day" slug)
    | some entry =>
      if status < entry.status then
        .error (.validation (.backwardMove slug entry.status status))
      else .ok { entry with status := status }
  | .updateHost slug host =>
    if host = "*" ∨ Host.isValid host = false then .error (.invalidHost host)
    else
      match l slug with
      | none => .error (.notFound "demo_day" slug)
      | some entry =>
        if entry.status = .upcoming then .ok { entry with host := host }
        else .error (.validation (.fixedHost slug entry.status))

/-- The listing that a call leaves: what was answered is what is listed. -/
def after (l : Listing) (call : DayCall) : Listing :=
  match l.answer call with
  | .ok entry => l.set call.slug entry
  | .error _ => l

/-- The answers to the calls of a run. -/
def answers (l : Listing) : Run → List (Except Error DayEntry)
  | [] => []
  | (_, operation) :: rest =>
    match operation.dayCall? with
    | some call => l.answer call :: (l.after call).answers rest
    | none => l.answers rest

end Listing

/-! ## The listing of a store -/

namespace Store

def listing (s : Store) : Listing := fun slug =>
  (s.catalogue.find? (·.slug == slug)).map DemoDay.entry

variable {s s' : Store} {moment : Moment}

theorem listing_congr (same : s'.dayRows = s.dayRows) : s'.listing = s.listing := by
  unfold listing
  rw [catalogue_congr same]

theorem fresh_listing : Store.fresh.listing = Listing.empty := by
  rw [fresh_eq]
  rfl

namespace Catalogued

variable (catalogued : s.Catalogued)

include catalogued

/-- A slug is listed with what its row says. -/
theorem listing_eq_some_iff (migrated : s.Migrated) {slug : String} {entry : DayEntry} :
    s.listing slug = some entry ↔ ∃ row ∈ s.dayRows, row.slug = slug ∧ row.name = entry.name ∧
      row.host = entry.host ∧ row.status = entry.status.name := by
  rw [listing, Option.map_eq_some_iff, catalogued.rows]
  constructor
  · rintro ⟨day, hit, rfl⟩
    obtain ⟨present, named⟩ := (catalogued.find?_eq_some_iff migrated).mp hit
    exact ⟨day.row, List.mem_map_of_mem present, named, rfl, rfl, rfl⟩
  · rintro ⟨row, present, rfl, names, hosts, statuses⟩
    obtain ⟨day, listed, rfl⟩ := List.mem_map.mp present
    have status : day.status = entry.status := Status.name_injective statuses
    refine ⟨day, (catalogued.find?_eq_some_iff migrated).mpr ⟨listed, rfl⟩, ?_⟩
    rw [DemoDay.entry, status, show day.name = entry.name from names,
      show day.host = entry.host from hosts]

theorem listing_announced (new : NewDemoDay) (free : s.listing new.slug = none) :
    (s.announced (new.row moment)).listing =
      s.listing.set new.slug ⟨new.name, new.host, .upcoming⟩ := by
  funext slug
  rw [listing, catalogued.find?_announced, Option.map_or, Listing.set]
  by_cases own : slug = new.slug
  · have absent : (s.catalogue.find? (·.slug == slug)).map DemoDay.entry = none := own ▸ free
    rw [absent, if_pos own, if_pos own.symm]
    rfl
  · rw [if_neg own, if_neg (Ne.symm own), Option.map_none, Option.or_none]
    rfl

theorem listing_edited (migrated : s.Migrated) {current : DemoDay}
    (present : current ∈ s.catalogue) {edit : DayRow → DayRow} {revision : DemoDay → DemoDay}
    {now : Instant} (keeps : ∀ day, (revision day).slug = day.slug)
    (revises : ∀ day : DemoDay, { edit day.row with updatedAt := now } = (revision day).row) :
    (s.edited current.id edit now).listing =
      s.listing.set current.slug (revision current).entry := by
  funext slug
  rw [listing, catalogued.find?_edited migrated present keeps revises, Listing.set]
  split <;> rfl

end Catalogued

end Store

/-! ## Steps -/

/-- A call does to a store and answers what it does to the listing and answers there. The rest says
what a listing does not show: nothing is written if the call is refused, an answer is what its slug
leads to afterwards, with the id and the time of creation that it had if it was there before, and
all other demo days are as they were. -/
structure DayCall.Refines (call : DayCall) (moment : Moment) (s : Store) : Prop where
  answer : (call.action.run moment s).result.map DemoDay.entry = s.listing.answer call
  after : (call.action.run moment s).store.listing = s.listing.after call
  refused : ∀ e, (call.action.run moment s).result = .error e →
    (call.action.run moment s).store = s
  found : ∀ day, (call.action.run moment s).result = .ok day → day.slug = call.slug ∧
    DemoDays.find call.slug (call.action.run moment s).store = .ok day
  kept : ∀ old day, DemoDays.find call.slug s = .ok old →
    (call.action.run moment s).result = .ok day → day.id = old.id ∧ day.createdAt = old.createdAt
  others : ∀ slug, slug ≠ call.slug →
    DemoDays.find slug (call.action.run moment s).store = DemoDays.find slug s

namespace DayCall

variable {s s' : Store} {moment : Moment} {call : DayCall} {events : List Event}

theorem Refines.of_refused {e : Error} (run : call.action.run moment s = ⟨.error e, s, events⟩)
    (answered : s.listing.answer call = .error e) : call.Refines moment s where
  answer := by
    rw [run, answered]
    rfl
  after := by
    rw [run, Listing.after, answered]
  refused := by
    rintro - -
    rw [run]
  found := by
    rw [run]
    rintro day ⟨⟩
  kept := by
    rw [run]
    rintro old day - ⟨⟩
  others := by
    rw [run]
    exact fun _ _ => rfl

/-- A call that is answered is compared with the listing at its own slug, and with the store before
it at all others. -/
theorem Refines.of_answered {day : DemoDay}
    (run : call.action.run moment s = ⟨.ok day, s', events⟩)
    (answered : s.listing.answer call = .ok day.entry)
    (after : s'.listing = s.listing.set call.slug day.entry)
    (named : day.slug = call.slug) (found : DemoDays.find call.slug s' = .ok day)
    (kept : ∀ old, DemoDays.find call.slug s = .ok old →
      day.id = old.id ∧ day.createdAt = old.createdAt)
    (others : ∀ slug, slug ≠ call.slug → DemoDays.find slug s' = DemoDays.find slug s) :
    call.Refines moment s where
  answer := by
    rw [run, answered]
    rfl
  after := by
    rw [run, Listing.after, answered]
    exact after
  refused := by
    rw [run]
    rintro e ⟨⟩
  found := by
    rw [run]
    rintro day ⟨⟩
    exact ⟨named, found⟩
  kept := by
    rw [run]
    rintro old day before ⟨⟩
    exact kept old before
  others := by
    rw [run]
    exact others

variable (orderly : s.Orderly)

include orderly

theorem orderly_after (call : DayCall) (moment : Moment) :
    (call.action.run moment s).store.Orderly := by
  rw [← call.operation_store]
  exact orderly.performed call.operation moment

theorem find_congr {slug : String} (after : s'.Orderly)
    (same : s'.catalogue.find? (·.slug == slug) = s.catalogue.find? (·.slug == slug)) :
    DemoDays.find slug s' = DemoDays.find slug s := by
  rw [after.catalogued.find_eq after.toMigrated, orderly.catalogued.find_eq orderly.toMigrated,
    same]

/-- A call that is refused needs no id, so only an answer asks for one that is free. -/
theorem create_refines (new : NewDemoDay)
    (unused : ∀ entry, s.listing.answer (create new) = .ok entry → ¬s.HasDay moment.id) :
    (create new).Refines moment s := by
  have run : (create new).action.run moment s = _ := DemoDays.run_create orderly.toMigrated new
  rw [Host.validateConcrete_eq] at run
  by_cases refused : new.host = "*" ∨ Host.isValid new.host = false
  · rw [if_pos refused] at run
    exact .of_refused run (if_pos refused)
  rw [if_neg refused] at run
  by_cases nameless : new.slug = ""
  · refine .of_refused (run.trans (if_pos nameless)) ?_
    rw [Listing.answer, if_neg refused, if_pos nameless]
  replace run := run.trans (if_neg nameless)
  rw [orderly.catalogued.demandFree_eq orderly.toMigrated] at run
  cases hit : s.catalogue.find? (·.slug == new.slug) with
  | some taken =>
    rw [hit] at run
    have listed : s.listing new.slug = some taken.entry := congrArg (Option.map _) hit
    refine .of_refused run ?_
    rw [Listing.answer, if_neg refused, if_neg nameless, listed]
  | none =>
    have free : s.listing new.slug = none := congrArg (Option.map _) hit
    -- Only here is a row written, whose id must not be in use.
    have answered : s.listing.answer (create new) = .ok (new.day moment).entry := by
      rw [Listing.answer, if_neg refused, if_neg nameless, free]
      rfl
    have written : (create new).action.run moment s =
        ⟨.ok (new.day moment), s.announced (new.row moment), [.dayCreated new.slug new.host]⟩ := by
      refine (orderly.catalogued.run_create orderly.toMigrated (unused _ answered) new).trans ?_
      rw [Host.validateConcrete_eq, if_neg refused, if_neg nameless, hit]
    have after := orderly_after orderly (create new) moment
    rw [written] at after
    refine .of_answered written answered (orderly.catalogued.listing_announced new free) rfl
      (orderly.catalogued.find_announced after.toMigrated nameless) ?_ fun slug other => ?_
    · intro old before
      rw [show (create new).slug = new.slug from rfl,
        orderly.catalogued.find_eq orderly.toMigrated, hit] at before
      cases before
    · have apart : new.slug ≠ slug := Ne.symm other
      refine find_congr orderly after ?_
      rw [orderly.catalogued.find?_announced, if_neg apart, Option.or_none]

theorem find_refines (slug : String) : (find slug).Refines moment s := by
  have run : (find slug).action.run moment s = ⟨DemoDays.find slug s, s, []⟩ := rfl
  rw [orderly.catalogued.find_eq orderly.toMigrated] at run
  cases hit : s.catalogue.find? (·.slug == slug) with
  | none =>
    rw [hit] at run
    have free : s.listing slug = none := congrArg (Option.map _) hit
    refine .of_refused run ?_
    rw [Listing.answer, free]
  | some day =>
    rw [hit] at run
    have listed : s.listing slug = some day.entry := congrArg (Option.map _) hit
    have named := ((orderly.catalogued.find?_eq_some_iff orderly.toMigrated).mp hit).2
    have found : DemoDays.find slug s = .ok day := by
      rw [orderly.catalogued.find_eq orderly.toMigrated, hit]
    refine .of_answered run ?_ (Listing.set_same listed).symm named found ?_ fun _ _ => rfl
    · rw [Listing.answer, listed]
    · intro old before
      rw [show (find slug).slug = slug from rfl, found] at before
      cases before
      exact ⟨rfl, rfl⟩

/-- A call that revises the demo day that its slug leads to. -/
theorem Refines.of_revised {current : DemoDay} (present : current ∈ s.catalogue)
    (own : current.slug = call.slug) {edit : DayRow → DayRow} (revision : DemoDay → DemoDay)
    (revises : ∀ day : DemoDay, { edit day.row with updatedAt := moment.now } = (revision day).row)
    (keeps : ∀ day, (revision day).slug = day.slug ∧ (revision day).id = day.id ∧
      (revision day).createdAt = day.createdAt)
    (run : call.action.run moment s =
      ⟨.ok (revision current), s.edited current.id edit moment.now, events⟩)
    (answered : s.listing.answer call = .ok (revision current).entry) :
    call.Refines moment s := by
  have slugs (day : DemoDay) : (revision day).slug = day.slug := (keeps day).1
  have after := orderly_after orderly call moment
  rw [run] at after
  refine .of_answered run answered ?_ ((slugs current).trans own) ?_ (fun old before => ?_)
    fun slug other => ?_
  · rw [← own]
    exact orderly.catalogued.listing_edited orderly.toMigrated present slugs revises
  · rw [← own]
    exact orderly.catalogued.find_edited present after.toMigrated revision slugs revises
  · have same : DemoDays.find call.slug s = .ok current :=
      (orderly.catalogued.find_eq_ok_iff orderly.toMigrated).mpr ⟨present, own⟩
    rw [same] at before
    cases before
    exact (keeps current).2
  · refine find_congr orderly after ?_
    rw [orderly.catalogued.find?_edited orderly.toMigrated present slugs revises, own,
      if_neg other]

theorem updateStatus_refines (slug : String) (status : Status) :
    (updateStatus slug status).Refines moment s := by
  have run : (updateStatus slug status).action.run moment s = _ :=
    orderly.catalogued.run_updateStatus orderly.toMigrated slug status
  cases hit : s.catalogue.find? (·.slug == slug) with
  | none =>
    rw [hit] at run
    have free : s.listing slug = none := congrArg (Option.map _) hit
    refine .of_refused run ?_
    rw [Listing.answer, free]
  | some current =>
    rw [hit] at run
    obtain ⟨present, named⟩ := (orderly.catalogued.find?_eq_some_iff orderly.toMigrated).mp hit
    have listed : s.listing slug = some current.entry := congrArg (Option.map _) hit
    by_cases back : status < current.status
    · have barred : current.status.allows status = false := Status.allows_eq_false_iff.mpr back
      refine .of_refused (run.trans (if_neg (by simp [barred]))) ?_
      rw [Listing.answer, listed]
      exact if_pos back
    · have allowed : current.status.allows status = true :=
        eq_true_of_ne_false (mt Status.allows_eq_false_iff.mp back)
      refine .of_revised orderly present named
        ({ · with status := status, updatedAt := moment.now }) (fun _ => rfl)
        (fun _ => ⟨rfl, rfl, rfl⟩) (run.trans (if_pos allowed)) ?_
      rw [Listing.answer, listed]
      exact if_neg back

theorem updateHost_refines (slug host : String) : (updateHost slug host).Refines moment s := by
  have run : (updateHost slug host).action.run moment s = _ :=
    orderly.catalogued.run_updateHost orderly.toMigrated slug host
  rw [Host.validateConcrete_eq] at run
  by_cases refused : host = "*" ∨ Host.isValid host = false
  · rw [if_pos refused] at run
    exact .of_refused run (if_pos refused)
  rw [if_neg refused] at run
  cases hit : s.catalogue.find? (·.slug == slug) with
  | none =>
    rw [hit] at run
    have free : s.listing slug = none := congrArg (Option.map _) hit
    refine .of_refused run ?_
    rw [Listing.answer, if_neg refused, free]
  | some current =>
    rw [hit] at run
    obtain ⟨present, named⟩ := (orderly.catalogued.find?_eq_some_iff orderly.toMigrated).mp hit
    have listed : s.listing slug = some current.entry := congrArg (Option.map _) hit
    by_cases upcoming : current.status = .upcoming
    · refine .of_revised orderly present named
        ({ · with host := host, updatedAt := moment.now }) (fun _ => rfl)
        (fun _ => ⟨rfl, rfl, rfl⟩) (run.trans (if_pos upcoming)) ?_
      rw [Listing.answer, if_neg refused, listed]
      exact if_pos upcoming
    · refine .of_refused (run.trans (if_neg upcoming)) ?_
      rw [Listing.answer, if_neg refused, listed]
      exact if_neg upcoming

/-- Where a demo day is announced, the id that the moment brings is on no row yet. -/
def Supplied (call : DayCall) (moment : Moment) (s : Store) : Prop :=
  ∀ new entry, call = create new → s.listing.answer call = .ok entry → ¬s.HasDay moment.id

theorem refines (call : DayCall) (supplied : call.Supplied moment s) : call.Refines moment s := by
  cases call with
  | create new => exact create_refines orderly new fun entry => supplied new entry rfl
  | find slug => exact find_refines orderly slug
  | updateStatus slug status => exact updateStatus_refines orderly slug status
  | updateHost slug host => exact updateHost_refines orderly slug host

end DayCall

/-! ## Runs -/

theorem Listing.answers_cons {operation : Operation} {call : DayCall}
    (asked : operation.dayCall? = some call) (l : Listing) (moment : Moment) (rest : Run) :
    l.answers ((moment, operation) :: rest) = l.answer call :: (l.after call).answers rest := by
  rw [answers, asked]

namespace Run

/-- The answers to the calls about demo days of a run, as far as a listing shows them. -/
def dayAnswers (s : Store) : Run → List (Except Error DayEntry)
  | [] => []
  | (moment, operation) :: rest =>
    let later := dayAnswers (operation.perform.run moment s).store rest
    match operation.dayCall? with
    | some call => (call.action.run moment s).result.map DemoDay.entry :: later
    | none => later

variable {s : Store}

theorem dayAnswers_eq {run : Run} (ready : Ready s run) :
    dayAnswers s run = s.listing.answers run := by
  induction run generalizing s with
  | nil => rfl
  | cons step rest ih =>
    obtain ⟨moment, operation⟩ := step
    have later := ih ready.tail
    cases asked : operation.dayCall? with
    | none =>
      -- What else is done leaves the rows of demo days alone.
      have days := Operation.keeps_days ready.orderly.toSettled
        (Operation.writesDays_of_other asked) moment
      rw [Store.listing_congr (Store.dayRows_of_days days)] at later
      rw [dayAnswers, Listing.answers, asked]
      exact later
    | some call =>
      have unused : ¬s.HasDay moment.id := ready.unused (moment, operation) List.mem_cons_self
      have step := call.refines ready.orderly fun _ _ _ _ => unused
      obtain rfl := Operation.dayCall?_eq_some_iff.mp asked
      rw [call.operation_store, step.after] at later
      rw [Listing.answers_cons asked, dayAnswers, asked, call.operation_store, ← step.answer,
        later]

theorem finalStore_orderly (run : Run) : (finalStore Store.fresh run).Orderly :=
  { finalStore_settled Store.fresh_settled run with catalogued := finalStore_catalogued run }

/-- At every point of every run, a slug is listed if a row has it, with what the row says, and a
call does to the store and answers what it does to the listing and answers there. So where ids are
unique, all calls of a run are answered as by the listing that starts empty and goes along. -/
theorem refines_listing (run : Run) :
    let s := Run.finalStore Store.fresh run
    (∀ slug entry, s.listing slug = some entry ↔ ∃ row ∈ s.dayRows, row.slug = slug ∧
      row.name = entry.name ∧ row.host = entry.host ∧ row.status = entry.status.name) ∧
    (∀ moment (call : DayCall), call.Supplied moment s → call.Refines moment s) ∧
    (run.IdsApart → dayAnswers Store.fresh run = Listing.empty.answers run) := by
  intro s
  have orderly : s.Orderly := finalStore_orderly run
  refine ⟨fun slug entry => orderly.catalogued.listing_eq_some_iff orderly.toMigrated,
    fun moment call supplied => call.refines orderly supplied, fun apart => ?_⟩
  rw [dayAnswers_eq (ready_fresh apart), Store.fresh_listing]

/-- Members and demo days in turns: two demo days are announced and go live. Then a third one is
announced, and the first one is to move back. The listing tells what the first two were answered,
what the third one is, and that the move is refused. -/
theorem refines_listing_crossing :
    let run := crossing 0
    let moment : Moment := ⟨Instant.epoch, Uuid.ofNat 10⟩
    let call : DayCall := .create ⟨"third", "Third", "other.org"⟩
    let back : DayCall := .updateStatus "demo" .upcoming
    run.IdsApart ∧
      dayAnswers Store.fresh run = [.ok ⟨"Demo", "acme.org", .upcoming⟩,
        .ok ⟨"Next", "acme.org", .upcoming⟩, .ok ⟨"Next", "acme.org", .live⟩,
        .ok ⟨"Demo", "acme.org", .live⟩] ∧
      call.Supplied moment (finalStore Store.fresh run) ∧
      (call.action.run moment (finalStore Store.fresh run)).result.map DemoDay.entry =
        .ok ⟨"Third", "other.org", .upcoming⟩ ∧
      (back.action.run moment (finalStore Store.fresh run)).result.map DemoDay.entry =
        .error (.validation (.backwardMove "demo" .live .upcoming)) := by
  intro run moment call back
  have apart : run.IdsApart := by
    unfold IdsApart
    decide
  have unused : ¬(finalStore Store.fresh run).HasDay moment.id := by
    unfold Store.HasDay
    decide
  have supplied : call.Supplied moment (finalStore Store.fresh run) := fun _ _ _ _ => unused
  obtain ⟨-, refines, answers⟩ := refines_listing run
  refine ⟨apart, (answers apart).trans rfl, supplied, ?_, ?_⟩
  · exact (refines moment call supplied).answer.trans rfl
  · exact (refines moment back nofun).answer.trans rfl

end Run

end HostAccess
