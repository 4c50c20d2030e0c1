import HostAccess.Proofs.AlikeOutcomes

/-! # Noninterference

What is asked of the directory about one member does not depend on what is asked of it about others,
and the same goes for demo days: take all operations out of a run that name somebody else, and the
operations that are left are answered as before. Both runs are walked in step, where the shorter one
waits while the longer one goes through operations that are out of view. -/
namespace HostAccess

variable {focus : Focus} {s s' t : Store} {moment moment' : Moment}

/-! ## Ids of demo days -/

/-- The only id that a commit brings in is that of its moment. -/
theorem Store.Commit.hasDay (migrated : s.Migrated) (commit : s.Commit moment s') {id : Uuid}
    (has : s'.HasDay id) : s.HasDay id ∨ id = moment.id := by
  cases commit with
  | joined | without | granted => exact Or.inl has
  | announced new valid named added =>
    obtain ⟨-, rfl⟩ := migrated.add_day_eq_ok_iff.mp added
    obtain ⟨row, present, taken⟩ := has
    rcases List.mem_append.mp present with old | new
    · exact Or.inl ⟨row, old, taken⟩
    · rw [List.mem_singleton.mp new] at taken
      exact Or.inr (Uuid.text_injective (Option.some.inj taken)).symm
  | moved slug status current found allowed revised =>
    obtain ⟨-, rfl⟩ := migrated.revise_day_eq_ok_iff.mp revised
    exact Or.inl ((hasDay_edited (keepsKeys_status status)).mp has)
  | rehosted slug host current valid found upcoming revised =>
    obtain ⟨-, rfl⟩ := migrated.revise_day_eq_ok_iff.mp revised
    exact Or.inl ((hasDay_edited (keepsKeys_host host)).mp has)

theorem Store.Settled.hasDay_performed (settled : s.Settled) {operation : Operation} {id : Uuid}
    (has : (operation.perform.run moment s).store.HasDay id) : s.HasDay id ∨ id = moment.id := by
  rcases settled.perform_transactional operation moment with same | ⟨commit, -⟩
  · exact Or.inl (same ▸ has)
  · exact commit.hasDay settled.toMigrated has

/-! ## Runs -/

theorem Store.fresh_orderly : Store.fresh.Orderly :=
  { Store.fresh_settled with catalogued := Store.fresh_catalogued }

namespace Run

/-- Every moment of a run brings in an id of its own. -/
def IdsApart (run : Run) : Prop := (run.map fun step => step.1.id).Nodup

/-- What is left of a run when all operations are deleted that name something out of view. -/
def purge (focus : Focus) (run : Run) : Run := run.filter fun step => focus.admits step.2

def operations (run : Run) : List Operation := run.map Prod.snd

theorem purge_cons_of_inside {operation : Operation} (inside : focus.admits operation = true)
    (moment : Moment) (rest : Run) :
    purge focus ((moment, operation) :: rest) = (moment, operation) :: purge focus rest :=
  List.filter_cons_of_pos inside

theorem purge_cons_of_outside {operation : Operation} (outside : focus.admits operation = false)
    (moment : Moment) (rest : Run) :
    purge focus ((moment, operation) :: rest) = purge focus rest :=
  List.filter_cons_of_neg (by simp [outside])

/-- The operations in view that are about one member or one demo day each, with their results apart
from times and generated ids. -/
def transcript (focus : Focus) (s : Store) : Run → List (Operation × Except Failure Answer)
  | [] => []
  | (moment, operation) :: rest =>
    let outcome := operation.perform.run moment s
    let later := transcript focus outcome.store rest
    if focus.admits operation && !operation.isAggregate then
      (operation, outcome.result.map Answer.plain) :: later
    else later

/-- A run that can go on from a store without meeting an id that is in use. -/
structure Ready (s : Store) (run : Run) : Prop where
  orderly : s.Orderly
  apart : run.IdsApart
  unused : ∀ step ∈ run, ¬s.HasDay step.1.id

theorem Ready.tail {operation : Operation} {rest : Run}
    (ready : Ready s ((moment, operation) :: rest)) :
    Ready (operation.perform.run moment s).store rest := by
  obtain ⟨other, apart⟩ := List.nodup_cons.mp ready.apart
  refine ⟨ready.orderly.performed operation moment, apart, fun step later has => ?_⟩
  rcases ready.orderly.toSettled.hasDay_performed has with before | same
  · exact ready.unused step (List.mem_cons_of_mem _ later) before
  · exact other (List.mem_map.mpr ⟨step, later, same⟩)

/-- Where ids are new, whether a demo day is taken depends on its slug and its host alone. -/
theorem Ready.creates {operation : Operation} {rest rest' : Run}
    (ready : Ready s ((moment, operation) :: rest))
    (ready' : Ready t ((moment', operation) :: rest')) (alike : s.Alike focus t)
    (inside : focus.admits operation = true) (new : NewDemoDay)
    (create : operation = .createDay new) :
    ((DemoDays.create new).run moment s).Alike focus DemoDay.plain
      ((DemoDays.create new).run moment' t) := by
  subst create
  obtain ⟨-, days⟩ := Focus.admits_iff.mp inside
  refine DemoDays.create_alike ready.orderly ready'.orderly alike (days new.slug rfl) ?_ ?_
  · exact ready.unused (moment, .createDay new) List.mem_cons_self
  · exact ready'.unused (moment', .createDay new) List.mem_cons_self

theorem transcript_cons (focus : Focus) (s : Store) (moment : Moment) (operation : Operation)
    (rest : Run) :
    transcript focus s ((moment, operation) :: rest) =
      if focus.admits operation && !operation.isAggregate then
        (operation, (operation.perform.run moment s).result.map Answer.plain) ::
          transcript focus (operation.perform.run moment s).store rest
      else transcript focus (operation.perform.run moment s).store rest := rfl

/-- A relation between two runs and the stores that they start from, which is kept when the first run
goes on with an operation out of view, and when both go on with the same operation in view, which
is then answered alike. -/
structure Unwinding (focus : Focus) (Related : Run → Store → Run → Store → Prop) : Prop where
  skips : ∀ {moment operation rest s rerun t}, focus.admits operation = false →
    Related ((moment, operation) :: rest) s rerun t →
      Related rest (operation.perform.run moment s).store rerun t
  advances : ∀ {moment moment' operation rest rest' s t}, focus.admits operation = true →
    Related ((moment, operation) :: rest) s ((moment', operation) :: rest') t →
      Related rest (operation.perform.run moment s).store rest'
        (operation.perform.run moment' t).store
  answers : ∀ {moment moment' operation rest rest' s t}, focus.admits operation = true →
    operation.isAggregate = false →
    Related ((moment, operation) :: rest) s ((moment', operation) :: rest') t →
      (operation.perform.run moment s).result.map Answer.plain =
        (operation.perform.run moment' t).result.map Answer.plain

/-- Runs that can be walked in step are answered alike, where the second has the operations that are
left of the first. -/
theorem Unwinding.transcript_eq {Related : Run → Store → Run → Store → Prop}
    (unwinding : Unwinding focus Related) {run rerun : Run} (related : Related run s rerun t)
    (replays : operations rerun = operations (purge focus run)) :
    transcript focus t rerun = transcript focus s run := by
  induction run generalizing rerun s t with
  | nil =>
    cases rerun with
    | nil => rfl
    | cons => cases replays
  | cons step rest ih =>
    obtain ⟨moment, operation⟩ := step
    cases inside : focus.admits operation with
    | false =>
      -- The rerun waits for the next operation in view.
      rw [purge_cons_of_outside inside] at replays
      rw [transcript_cons, inside, Bool.false_and, if_neg Bool.false_ne_true]
      exact ih (unwinding.skips inside related) replays
    | true =>
      rw [purge_cons_of_inside inside] at replays
      cases rerun with
      | nil => cases replays
      | cons step' rest' =>
        obtain ⟨moment', operation'⟩ := step'
        obtain ⟨rfl, later⟩ : operation' = operation ∧
          operations rest' = operations (purge focus rest) := List.cons.inj replays
        rw [transcript_cons, transcript_cons, ih (unwinding.advances inside related) later]
        cases aggregate : operation'.isAggregate with
        | true => rw [inside, Bool.not_true, Bool.and_false]; rfl
        | false => rw [unwinding.answers inside aggregate related]

/-- Runs whose ids are new to stores that look alike. -/
theorem unwinding_ready (focus : Focus) :
    Unwinding focus fun run s rerun t => Ready s run ∧ Ready t rerun ∧ s.Alike focus t where
  skips := by
    rintro moment operation rest s rerun t outside ⟨ready, ready', alike⟩
    have away := Operation.alike_of_outside ready.orderly outside moment
    exact ⟨ready.tail, ready', away.trans alike⟩
  advances := by
    rintro moment moment' operation rest rest' s t inside ⟨ready, ready', alike⟩
    refine ⟨ready.tail, ready'.tail, ?_⟩
    exact Operation.perform_stores_alike ready.orderly ready'.orderly alike inside
      (ready.creates ready' alike inside)
  answers := by
    rintro moment moment' operation rest rest' s t inside single ⟨ready, ready', alike⟩
    exact (Operation.perform_alike ready.orderly ready'.orderly alike inside single
      (ready.creates ready' alike inside)).results

/-- A run and what is left of it, where all demo days are in view and thus stay the same. -/
theorem unwinding_days (whole : ∀ slug, focus.day slug = true) :
    Unwinding focus fun run s rerun t => s.Orderly ∧ t.Orderly ∧ s.Alike focus t ∧
      s.days = t.days ∧ rerun = purge focus run where
  skips := by
    rintro moment operation rest s rerun t outside ⟨first, second, alike, days, left⟩
    have away := Operation.alike_of_outside first outside moment
    have others := Operation.keeps_days first.toSettled
      (Operation.writesDays_of_outside whole outside) moment
    exact ⟨first.performed operation moment, second, away.trans alike, others.trans days,
      left.trans (purge_cons_of_outside outside moment rest)⟩
  advances := by
    rintro moment moment' operation rest rest' s t inside ⟨first, second, alike, days, left⟩
    rw [purge_cons_of_inside inside] at left
    obtain ⟨step, later⟩ := List.cons.inj left
    cases step
    refine ⟨first.performed operation moment, second.performed operation moment, ?_,
      Operation.days_of_days first second days alike operation moment, later⟩
    exact Operation.perform_stores_alike first second alike inside
      fun new _ => (DemoDays.create_of_days first second days alike new).1
  answers := by
    rintro moment moment' operation rest rest' s t inside single ⟨first, second, alike, days, left⟩
    rw [purge_cons_of_inside inside] at left
    obtain ⟨step, -⟩ := List.cons.inj left
    cases step
    exact (Operation.perform_alike first second alike inside single
      fun new _ => (DemoDays.create_of_days first second days alike new).1).results

theorem IdsApart.purge {run : Run} (apart : run.IdsApart) (focus : Focus) :
    (run.purge focus).IdsApart :=
  List.Nodup.sublist (List.filter_sublist.map _) apart

theorem ready_fresh {run : Run} (apart : run.IdsApart) : Ready Store.fresh run where
  orderly := Store.fresh_orderly
  apart := apart
  unused := by
    rw [Store.fresh_eq]
    rintro step - ⟨row, present, -⟩
    exact List.not_mem_nil present

/-- To delete all operations that name another member does not change how the others are answered.
Where ids are unique, neither does it to delete all that name another demo day; and then runs in
which the same operations are in view are answered alike in view, whatever else is in them and
whenever they take place. -/
theorem noninterference (run : Run) :
    (∀ uid, transcript (.onMember uid) Store.fresh (run.purge (.onMember uid)) =
      transcript (.onMember uid) Store.fresh run) ∧
    (run.IdsApart →
      (∀ slug, transcript (.onDay slug) Store.fresh (run.purge (.onDay slug)) =
        transcript (.onDay slug) Store.fresh run) ∧
      ∀ (focus : Focus) (rerun : Run), rerun.IdsApart →
        (rerun.purge focus).operations = (run.purge focus).operations →
          transcript focus Store.fresh rerun = transcript focus Store.fresh run) := by
  have purged (focus : Focus) (run : Run) (apart : run.IdsApart) :
      transcript focus Store.fresh (run.purge focus) = transcript focus Store.fresh run :=
    (unwinding_ready focus).transcript_eq
      ⟨ready_fresh apart, ready_fresh (apart.purge focus), .refl _⟩ rfl
  refine ⟨fun uid => ?_, fun apart => ⟨fun slug => purged _ run apart, ?_⟩⟩
  · exact (unwinding_days fun _ => rfl).transcript_eq
      ⟨Store.fresh_orderly, Store.fresh_orderly, .refl _, rfl, rfl⟩ rfl
  · intro focus rerun reapart same
    -- Both runs are answered as what is left of the rerun.
    rw [← purged focus rerun reapart]
    exact (unwinding_ready focus).transcript_eq
      ⟨ready_fresh apart, ready_fresh (reapart.purge focus), .refl _⟩ same

/-- Two members and two demo days in turns, with ids from some number on. -/
def crossing (first : Nat) : Run :=
  let moment (n : Nat) : Moment := ⟨Instant.epoch, Uuid.ofNat (first + n)⟩
  let request : GrantRequest := ⟨some ["DEMO_DAY_ADMIN"], some ["acme.org"]⟩
  [(moment 0, .createMember ⟨"m-1", "Member", none⟩),
    (moment 1, .createMember ⟨"m-2", "Another", none⟩),
    (moment 2, .createDay ⟨"demo", "Demo", "acme.org"⟩),
    (moment 3, .assign {} "m-1" request), (moment 4, .assign {} "m-2" request),
    (moment 5, .createDay ⟨"next", "Next", "acme.org"⟩), (moment 6, .updateStatus "next" .live),
    (moment 7, .deleteMember "m-2"), (moment 8, .canAdministerDay {} "m-1" "demo"),
    (moment 9, .updateStatus "demo" .live)]

theorem noninterference_crossing :
    let run := crossing 0
    let alone := run.purge (.onMember "m-1")
    let rerun := (crossing 20).purge (.onDay "demo")
    (run.length, alone.length, rerun.length) = (10, 7, 8) ∧ run.IdsApart ∧ rerun.IdsApart ∧
      transcript (.onMember "m-1") Store.fresh alone =
        transcript (.onMember "m-1") Store.fresh run ∧
      transcript (.onDay "demo") Store.fresh rerun =
        transcript (.onDay "demo") Store.fresh run := by
  have apart : (crossing 0).IdsApart := by
    unfold IdsApart
    decide
  have reapart : ((crossing 20).purge (.onDay "demo")).IdsApart := by
    unfold IdsApart
    decide
  obtain ⟨members, unique⟩ := noninterference (crossing 0)
  exact ⟨rfl, apart, reapart, members "m-1", (unique apart).2 (.onDay "demo") _ reapart rfl⟩

end Run

end HostAccess
