import HostAccess.Proofs.Noninterference
import HostAccess.Proofs.Readability

/-! # The order of creation

Who has been created in a run, and when, can be told from its operations and which of them
succeeded, without a look at a store. The rows of members and of demo days are in this order, with
these times: a row is added behind the others, and neither its place nor the time of its creation is
ever changed. So where each creation takes a later time than those before it, rows are in the order
of their times. To sort rows by time gives that order, in whatever order they are stored. -/
namespace HostAccess

variable {s s' : Store} {moment : Moment} {operation : Operation}

/-- So many nanoseconds into the minute of the epoch, with an id of its own. -/
def Moment.tick (nanos : Nat) : Moment :=
  ⟨(Instant.at? 0 nanos).getD Instant.epoch, Uuid.ofNat nanos⟩

/-- The uid of a member or the slug of a demo day, with the time of its creation. -/
structure Creation where
  key : String
  time : Instant
deriving DecidableEq

def Member.creation (m : Member) : Creation := ⟨m.uid, m.createdAt⟩

def DemoDay.creation (day : DemoDay) : Creation := ⟨day.slug, day.createdAt⟩

/-! ## Creations of a run -/

namespace Operation

/-- The member that an operation creates if it succeeds. -/
def memberCreated? (moment : Moment) : Operation → Option Creation
  | .createMember new => some ⟨new.uid, moment.now⟩
  | _ => none

/-- The demo day that an operation announces if it succeeds. -/
def dayCreated? (moment : Moment) : Operation → Option Creation
  | .createDay new => some ⟨new.slug, moment.now⟩
  | _ => none

/-- The members after an operation that succeeds. One that is created again is the last. -/
def enrol (moment : Moment) (roll : List Creation) : Operation → List Creation
  | .deleteMember uid => roll.filter fun creation => !(creation.key == uid)
  | operation => roll ++ (operation.memberCreated? moment).toList

end Operation

namespace Run

/-- The operations of a run that succeed. -/
def succeeded (s : Store) : Run → Run
  | [] => []
  | (moment, operation) :: rest =>
    let outcome := operation.perform.run moment s
    match outcome.result with
    | .ok _ => (moment, operation) :: succeeded outcome.store rest
    | .error _ => succeeded outcome.store rest

/-- The members after operations that all succeed, in the order of their latest creation. -/
def roll (before : List Creation) : Run → List Creation
  | [] => before
  | (moment, operation) :: rest => roll (operation.enrol moment before) rest

def Deletes (run : Run) (uid : String) : Prop :=
  ∃ moment, (moment, Operation.deleteMember uid) ∈ run

/-- The member was created, and not deleted afterwards. -/
def Stands (run : Run) (creation : Creation) : Prop :=
  ∃ earlier moment operation later, run = earlier ++ (moment, operation) :: later ∧
    operation.memberCreated? moment = some creation ∧ ¬Deletes later creation.key

def membersCreated (run : Run) : List Creation :=
  run.flatMap fun (moment, operation) => (operation.memberCreated? moment).toList

def daysCreated (run : Run) : List Creation :=
  run.flatMap fun (moment, operation) => (operation.dayCreated? moment).toList

/-- Each creation of a member takes a later time than the ones before. -/
def MembersInTurn (run : Run) : Prop :=
  (run.succeeded Store.fresh).membersCreated.Pairwise (·.time < ·.time)

/-- Each creation of a demo day takes a later time than the ones before. -/
def DaysInTurn (run : Run) : Prop :=
  (run.succeeded Store.fresh).daysCreated.Pairwise (·.time < ·.time)

end Run

/-! ## Writes -/

theorem Store.map_touched {α : Type} {f : Member → α} {now : Instant}
    (kept : ∀ m : Member, f { m with updatedAt := now } = f m) (uid : String) (rows : List Member) :
    (Store.touched uid now rows).map f = rows.map f := by
  rw [Store.touched, List.map_map]
  refine List.map_congr_left fun m _ => ?_
  rw [Function.comp_apply]
  split
  · exact kept m
  · rfl

/-- A revision that keeps the slug and the time of creation keeps all creations. -/
theorem Store.Catalogued.creations_edited (catalogued : s.Catalogued) {now : Instant}
    (edit : DayRow → DayRow) (revision : DemoDay → DemoDay)
    (keeps : ∀ day, (revision day).creation = day.creation)
    (revises : ∀ day : DemoDay, { edit day.row with updatedAt := now } = (revision day).row)
    (id : Uuid) :
    (s.edited id edit now).catalogue.map DemoDay.creation = s.catalogue.map DemoDay.creation := by
  have slugs (day : DemoDay) : (revision day).slug = day.slug := congrArg Creation.key (keeps day)
  rw [(catalogued.edited edit revision slugs revises id).1, List.map_map]
  refine List.map_congr_left fun day _ => ?_
  rw [Function.comp_apply]
  split
  · exact keeps day
  · rfl

namespace Operation

/-- An operation that adds or deletes a member or a demo day. -/
def registers : Operation → Bool
  | .createMember _ => true
  | .deleteMember _ => true
  | .createDay _ => true
  | _ => false

theorem enrol_of_other (other : operation.registers = false) (roll : List Creation) :
    operation.enrol moment roll = roll := by
  cases operation with
  | createMember | deleteMember => cases other
  | _ => exact List.append_nil roll

theorem dayCreated?_of_other (other : operation.registers = false) :
    operation.dayCreated? moment = none := by
  cases operation with
  | createDay => cases other
  | _ => rfl

theorem mem_enrol_iff {roll : List Creation} {creation : Creation} :
    creation ∈ operation.enrol moment roll ↔
      creation ∈ roll ∧ operation ≠ .deleteMember creation.key ∨
        operation.memberCreated? moment = some creation := by
  cases operation with
  | createMember new => simp [enrol, memberCreated?, @eq_comm _ creation]
  | deleteMember uid => simp [enrol, memberCreated?, @eq_comm _ uid]
  | _ => simp [enrol, memberCreated?]

theorem registers_of_change? {change : String × GrantChange}
    (asked : operation.change? = some change) : operation.registers = false := by
  cases operation with
  | createMember | deleteMember | createDay => cases asked
  | _ => rfl

namespace Writes

theorem members (writes : operation.Writes moment s s') :
    s'.memberRows.map Member.creation =
      operation.enrol moment (s.memberRows.map Member.creation) := by
  cases writes with
  | joined new =>
    rw [Store.memberRows_joined, List.map_append]
    rfl
  | without uid =>
    rw [enrol, List.filter_map]
    rfl
  | granted asked =>
    rw [enrol_of_other (registers_of_change? asked), Store.memberRows_granted]
    exact Store.map_touched (fun _ => rfl) _ _
  | announced | moved | rehosted => exact (List.append_nil _).symm

theorem days (catalogued : s.Catalogued) (writes : operation.Writes moment s s') :
    s'.catalogue.map DemoDay.creation =
      s.catalogue.map DemoDay.creation ++ (operation.dayCreated? moment).toList := by
  cases writes with
  | joined | without =>
    rw [Store.catalogue_congr (s := s) rfl]
    exact (List.append_nil _).symm
  | granted asked =>
    rw [Store.catalogue_congr (s := s) rfl, dayCreated?_of_other (registers_of_change? asked)]
    exact (List.append_nil _).symm
  | announced new =>
    rw [(catalogued.announced moment new).1, List.map_append]
    rfl
  | moved slug status current found =>
    rw [catalogued.creations_edited _ ({ · with status := status, updatedAt := moment.now })
      (fun _ => rfl) fun _ => rfl]
    exact (List.append_nil _).symm
  | rehosted slug host current found =>
    rw [catalogued.creations_edited _ ({ · with host := host, updatedAt := moment.now })
      (fun _ => rfl) fun _ => rfl]
    exact (List.append_nil _).symm

end Writes

end Operation

/-! ## Steps -/

theorem Members.deleted (migrated : s.Migrated) {uid : String}
    (returned : ((delete uid).run moment s).result = .ok ()) :
    ((delete uid).run moment s).store = s.without uid := by
  rw [run_delete migrated] at returned ⊢
  split at returned
  next => cases returned
  next named =>
    split at returned
    next member => rw [if_neg named, if_pos member]
    next => cases returned

namespace Store.Settled

variable (settled : s.Settled)

include settled

theorem unchanged_of_error {failure : Failure}
    (failed : (operation.perform.run moment s).result = .error failure) :
    (operation.perform.run moment s).store = s := by
  rcases settled.perform_transactional operation moment with same | ⟨-, answer, returned⟩
  · exact same
  · rw [failed] at returned
    cases returned

section Answered

variable {answer : Answer} (answered : (operation.perform.run moment s).result = .ok answer)

include answered

/-- What is to be added or deleted is, if the operation succeeds. -/
theorem writes_of_registers (registers : operation.registers = true) :
    operation.Writes moment s (operation.perform.run moment s).store := by
  have migrated := settled.toMigrated
  cases operation with
  | createMember new =>
    obtain ⟨m, returned, -⟩ := Operation.answering_eq_ok_iff.mp answered
    rw [Operation.perform, Operation.answering_store, (Members.created migrated returned).2]
    exact .joined new
  | deleteMember uid =>
    obtain ⟨⟨⟩, returned, -⟩ := Operation.answering_eq_ok_iff.mp answered
    rw [Operation.perform, Operation.doing, Operation.answering_store,
      Members.deleted migrated returned]
    exact .without uid
  | createDay new =>
    obtain ⟨day, returned, -⟩ := Operation.answering_eq_ok_iff.mp answered
    rw [Operation.perform, Operation.answering_store, (migrated.createDay_leaves returned).2.2]
    exact .announced new
  | _ => cases registers

/-- An operation that succeeds ends in one of its writes, or has nothing to add or to delete. -/
theorem writes_or_idle :
    operation.Writes moment s (operation.perform.run moment s).store ∨
      (operation.perform.run moment s).store = s ∧ operation.registers = false := by
  -- That an operation writes or leaves the store as it is does not say which of the two it does.
  -- For those that register somebody it is their success that rules the second one out.
  cases registers : operation.registers with
  | true => exact Or.inl (settled.writes_of_registers answered registers)
  | false =>
    rcases operation.perform_writes settled moment with same | writes
    · exact Or.inr ⟨same, rfl⟩
    · exact Or.inl writes

theorem members_performed :
    (operation.perform.run moment s).store.memberRows.map Member.creation =
      operation.enrol moment (s.memberRows.map Member.creation) := by
  rcases settled.writes_or_idle answered with writes | ⟨same, other⟩
  · exact writes.members
  · rw [same, Operation.enrol_of_other other]

theorem days_performed (catalogued : s.Catalogued) :
    (operation.perform.run moment s).store.catalogue.map DemoDay.creation =
      s.catalogue.map DemoDay.creation ++ (operation.dayCreated? moment).toList := by
  rcases settled.writes_or_idle answered with writes | ⟨same, other⟩
  · exact writes.days catalogued
  · rw [same, Operation.dayCreated?_of_other other]
    exact (List.append_nil _).symm

end Answered

end Store.Settled

/-! ## Runs -/

namespace Run

/-- An operation that fails leaves what it found, so that a run is followed along the operations
that succeed. -/
theorem succeeded_induction {motive : Store → Run → Store → Prop} (done : ∀ s, motive s [] s)
    (step : ∀ {s t : Store} {moment : Moment} {operation : Operation} {answer : Answer}
      {rest : Run}, s.Orderly → (operation.perform.run moment s).result = .ok answer →
        motive (operation.perform.run moment s).store rest t →
          motive s ((moment, operation) :: rest) t)
    (orderly : s.Orderly) (run : Run) : motive s (run.succeeded s) (run.finalStore s) := by
  induction run generalizing s with
  | nil => exact done s
  | cons first rest ih =>
    obtain ⟨moment, operation⟩ := first
    have later := ih (orderly.performed operation moment)
    rw [succeeded, finalStore]
    cases result : (operation.perform.run moment s).result with
    | error failure =>
      rw [orderly.unchanged_of_error result] at later ⊢
      exact later
    | ok answer => exact step orderly result later

/-- The rows of members are those of the roll, in its order. -/
theorem members_finalStore (orderly : s.Orderly) (run : Run) :
    (run.finalStore s).memberRows.map Member.creation =
      (run.succeeded s).roll (s.memberRows.map Member.creation) := by
  refine succeeded_induction (motive := fun s run t =>
    t.memberRows.map Member.creation = run.roll (s.memberRows.map Member.creation))
    (fun _ => rfl) ?_ orderly run
  intro s t moment operation answer rest orderly answered later
  rw [later, orderly.members_performed answered, roll]

/-- The demo days are those that were announced, in the order in which they were. -/
theorem days_finalStore (orderly : s.Orderly) (run : Run) :
    (run.finalStore s).catalogue.map DemoDay.creation =
      s.catalogue.map DemoDay.creation ++ (run.succeeded s).daysCreated := by
  refine succeeded_induction (motive := fun s run t =>
    t.catalogue.map DemoDay.creation = s.catalogue.map DemoDay.creation ++ run.daysCreated)
    (fun _ => (List.append_nil _).symm) ?_ orderly run
  intro s t moment operation answer rest orderly answered later
  rw [later, orderly.days_performed answered orderly.catalogued, List.append_assoc, daysCreated,
    daysCreated, List.flatMap_cons]

theorem mem_roll_iff {run : Run} {before : List Creation} {creation : Creation} :
    creation ∈ run.roll before ↔
      creation ∈ before ∧ ¬run.Deletes creation.key ∨ run.Stands creation := by
  induction run generalizing before with
  | nil => simp [roll, Deletes, Stands]
  | cons step rest ih =>
    obtain ⟨moment, operation⟩ := step
    have deletes_cons : Deletes ((moment, operation) :: rest) creation.key ↔
        operation = .deleteMember creation.key ∨ Deletes rest creation.key := by
      simp [Deletes, exists_or, eq_comm]
    rw [roll, ih, Operation.mem_enrol_iff, deletes_cons, not_or]
    constructor
    · rintro (⟨⟨old, kept⟩ | created, standing⟩ | ⟨earlier, m, o, later, rfl, created, standing⟩)
      · exact Or.inl ⟨old, kept, standing⟩
      · exact Or.inr ⟨[], moment, operation, rest, rfl, created, standing⟩
      · exact Or.inr ⟨(moment, operation) :: earlier, m, o, later, rfl, created, standing⟩
    · rintro (⟨old, kept, standing⟩ | ⟨earlier, m, o, later, split, created, standing⟩)
      · exact Or.inl ⟨Or.inl ⟨old, kept⟩, standing⟩
      · cases earlier with
        | nil =>
          obtain ⟨⟨rfl, rfl⟩, rfl⟩ := by simpa using split
          exact Or.inl ⟨Or.inr created, standing⟩
        | cons first earlier =>
          obtain ⟨-, rfl⟩ := List.cons.inj split
          exact Or.inr ⟨earlier, m, o, later, rfl, created, standing⟩

theorem enrol_sublist (moment : Moment) (operation : Operation) (before : List Creation) :
    (operation.enrol moment before).Sublist
      (before ++ (operation.memberCreated? moment).toList) := by
  cases operation with
  | deleteMember uid => exact List.filter_sublist.trans (List.sublist_append_left _ _)
  | _ => exact List.Sublist.refl _

/-- Nobody is on the roll but by creation. -/
theorem roll_sublist (run : Run) (before : List Creation) :
    (run.roll before).Sublist (before ++ run.membersCreated) := by
  induction run generalizing before with
  | nil => exact List.sublist_append_left _ _
  | cons step rest ih =>
    obtain ⟨moment, operation⟩ := step
    rw [roll, membersCreated, List.flatMap_cons, ← List.append_assoc]
    exact (ih _).trans ((enrol_sublist moment operation before).append_right _)

end Run

/-! ## Times in order -/

namespace Instant

variable {a b c : Instant}

theorem atMost_iff :
    a.atMost b = true ↔ a.minute < b.minute ∨ a.minute = b.minute ∧ a.nanos ≤ b.nanos := by
  simp [atMost]

theorem atMost_total (a b : Instant) : (a.atMost b || b.atMost a) = true := by
  simp only [Bool.or_eq_true, atMost_iff]
  omega

theorem atMost_trans (first : a.atMost b = true) (second : b.atMost c = true) :
    a.atMost c = true := by
  rw [atMost_iff] at *
  omega

theorem atMost_antisymm (forth : a.atMost b = true) (back : b.atMost a = true) : a = b := by
  rw [atMost_iff] at forth back
  obtain ⟨minute, nanos⟩ : a.minute = b.minute ∧ a.nanos = b.nanos := by omega
  cases a
  cases b
  simp_all

theorem atMost_of_lt (before : a < b) : a.atMost b = true := by
  have total := a.atMost_total b
  rwa [show b.atMost a = false from before, Bool.or_false] at total

theorem ne_of_lt (before : a < b) : a ≠ b := by
  rintro rfl
  have total := a.atMost_total a
  rw [show a.atMost a = false from before] at total
  cases total

end Instant

/-- In whatever order rows are stored, to sort them by time puts them in turn. -/
theorem mergeSort_of_inTurn {ρ : Type} {time : ρ → Instant} {rows sorted : List ρ}
    (same : sorted.Perm rows) (inTurn : sorted.Pairwise fun a b => time a < time b) :
    rows.mergeSort (fun a b => (time a).atMost (time b)) = sorted := by
  have order : (rows.mergeSort fun a b => (time a).atMost (time b)).Pairwise
      fun a b => (time a).atMost (time b) = true := by
    refine List.pairwise_mergeSort ?_ ?_ rows
    · exact fun _ _ _ => Instant.atMost_trans
    · exact fun _ _ => Instant.atMost_total _ _
  have perm : (rows.mergeSort fun a b => (time a).atMost (time b)).Perm sorted :=
    (List.mergeSort_perm ..).trans same.symm
  refine List.Perm.eq_of_pairwise ?_ order (inTurn.imp Instant.atMost_of_lt) perm
  -- Rows of one time are one row, so that no two of them can be put either way.
  intro a b listed listed' forth back
  exact Table.eq_of_key (inTurn.imp Instant.ne_of_lt) (perm.mem_iff.mp listed) listed'
    (Instant.atMost_antisymm forth back)

namespace Run

theorem members_fresh (run : Run) :
    (run.finalStore Store.fresh).memberRows.map Member.creation =
      (run.succeeded Store.fresh).roll [] := by
  rw [members_finalStore Store.fresh_orderly run, Store.fresh_eq]
  rfl

theorem days_fresh (run : Run) :
    (run.finalStore Store.fresh).catalogue.map DemoDay.creation =
      (run.succeeded Store.fresh).daysCreated := by
  rw [days_finalStore Store.fresh_orderly run, Store.fresh_eq]
  rfl

theorem memberRows_inTurn {run : Run} (inTurn : run.MembersInTurn) :
    (run.finalStore Store.fresh).memberRows.Pairwise (·.createdAt < ·.createdAt) := by
  have enrolled : ((run.succeeded Store.fresh).roll []).Pairwise (·.time < ·.time) :=
    List.Pairwise.sublist (roll_sublist _ []) inTurn
  rw [← members_fresh, List.pairwise_map] at enrolled
  exact enrolled

theorem catalogue_inTurn {run : Run} (inTurn : run.DaysInTurn) :
    (run.finalStore Store.fresh).catalogue.Pairwise (·.createdAt < ·.createdAt) := by
  have announced := inTurn
  rw [DaysInTurn, ← days_fresh, List.pairwise_map] at announced
  exact announced

end Run

end HostAccess
