import HostAccess.Proofs.Commits

/-! # The catalogue of demo days

The table of demo days as the list of the demo days that its rows stand for. Nothing asks for the
record ids to be UUIDs, and rows that were put there by hand may have others; the directory itself
writes canonical ids only, so that its own rows are the written forms of demo days, and looking for
a slug is looking into the list. -/
namespace HostAccess

variable {s s' : Store} {moment : Moment}

theorem Host.ne_empty_of_concrete {host : String} (valid : validateConcrete host = .ok ()) :
    host ≠ "" := by
  rintro rfl
  cases valid

/-- The row that a demo day is stored as. -/
def DemoDay.row (day : DemoDay) : DayRow :=
  ⟨some day.id.text, day.slug, day.name, day.host, day.status.name, day.createdAt, day.updatedAt⟩

theorem DemoDay.decodeAs_row (day : DemoDay) : day.row.decodeAs day.id = .ok day :=
  DayRow.decodeAs_eq_ok_iff.mpr ⟨day.status, rfl, rfl⟩

theorem DemoDay.decode_row (day : DemoDay) : day.row.decode = .ok day := by
  refine DayRow.decode_eq_ok_iff.mpr ⟨day.id, ?_, day.decodeAs_row⟩
  rw [row, Option.bind_some, Uuid.parse?_text]

theorem decodeDays_map_row (days : List DemoDay) :
    decodeDays (days.map DemoDay.row) = .ok days := by
  induction days with
  | nil => rfl
  | cons day rest ih =>
    rw [List.map_cons, decodeDays, day.decode_row, ih]
    rfl

/-- A row is chosen by the text of its id, which no other id has. -/
theorem DemoDay.row_id_beq (day : DemoDay) (id : Uuid) :
    (day.row.id == some id.text) = (day.id == id) := by
  rw [Bool.eq_iff_iff, beq_iff_eq, beq_iff_eq]
  exact ⟨fun same => Uuid.text_injective (Option.some.inj same), fun same => same ▸ rfl⟩

namespace Store

/-- The demo days that the rows of a store can be read as. -/
def catalogue (s : Store) : List DemoDay := s.dayRows.filterMap fun row => row.decode.toOption

/-- The rows of demo days are those of the catalogue, and all of them can be asked for. -/
structure Catalogued (s : Store) : Prop where
  rows : s.dayRows = s.catalogue.map DemoDay.row
  named : ∀ day ∈ s.catalogue, day.slug ≠ ""

theorem catalogue_of_rows {days : List DemoDay} (rows : s.dayRows = days.map DemoDay.row) :
    s.catalogue = days := by
  have read : (fun row : DayRow => row.decode.toOption) ∘ DemoDay.row = some := by
    funext day
    rw [Function.comp_apply, day.decode_row]
    rfl
  rw [catalogue, rows, List.filterMap_map, read, List.filterMap_some]

/-- The catalogue depends on the rows of demo days alone. -/
theorem catalogue_congr (same : s'.dayRows = s.dayRows) : s'.catalogue = s.catalogue := by
  rw [catalogue, catalogue, same]

theorem Catalogued.of_rows {days : List DemoDay} (rows : s.dayRows = days.map DemoDay.row)
    (named : ∀ day ∈ days, day.slug ≠ "") : s.Catalogued := by
  have same := catalogue_of_rows rows
  exact ⟨same.symm ▸ rows, same.symm ▸ named⟩

theorem Catalogued.congr (catalogued : s.Catalogued) (same : s'.dayRows = s.dayRows) :
    s'.Catalogued :=
  .of_rows (same.trans catalogued.rows) catalogued.named

namespace Catalogued

variable (catalogued : s.Catalogued)

include catalogued

theorem decodeDays_rows : decodeDays s.dayRows = .ok s.catalogue := by
  rw [catalogued.rows, decodeDays_map_row]

theorem apart (migrated : s.Migrated) :
    s.catalogue.Pairwise fun a b => a.slug ≠ b.slug ∧ a.id ≠ b.id := by
  have rows : s.dayRows.Pairwise (Schema.dayTable s.dayRows).Apart := migrated.daysLegal.apart
  rw [catalogued.rows, List.pairwise_map] at rows
  refine rows.imp fun {a b} apart => ?_
  obtain ⟨slugs, ids⟩ := Schema.dayTable_apart_iff.mp apart
  exact ⟨slugs, fun same => ids _ rfl (congrArg (fun id : Uuid => some id.text) same.symm)⟩

/-- A demo day of the catalogue is the only one of its id. -/
theorem eq_of_id (migrated : s.Migrated) {a b : DemoDay} (first : a ∈ s.catalogue)
    (second : b ∈ s.catalogue) (same : a.id = b.id) : a = b := by
  have ids := (catalogued.apart migrated).imp fun apart => apart.2
  exact Table.eq_of_key ids first second same

/-- To look for a slug is to look into the catalogue. -/
theorem find_eq (migrated : s.Migrated) (slug : String) :
    DemoDays.find slug s =
      match s.catalogue.find? (·.slug == slug) with
      | some day => .ok day
      | none => .error (.notFound "demo_day" slug) := by
  have rows : (Schema.dayTable s.dayRows).rows.find? (·.slug == slug) =
      (s.catalogue.find? (·.slug == slug)).map DemoDay.row := by
    rw [Schema.dayTable, catalogued.rows, List.find?_map]
    rfl
  rw [DemoDays.find, DemoDays.lookup, migrated.readDays, ok_bind, rows]
  cases s.catalogue.find? (·.slug == slug) with
  | none => rfl
  | some day => exact mapError_eq_ok_iff.mpr day.decode_row

/-- A slug leads to the demo day that has it, as no other one does. -/
theorem find?_eq_some_iff (migrated : s.Migrated) {slug : String} {day : DemoDay} :
    s.catalogue.find? (·.slug == slug) = some day ↔ day ∈ s.catalogue ∧ day.slug = slug := by
  have slugs := (catalogued.apart migrated).imp fun apart => apart.1
  exact Table.find?_key_eq_some_iff slugs

/-- A demo day of the catalogue is the only one of its slug. -/
theorem eq_of_slug (migrated : s.Migrated) {a b : DemoDay} (first : a ∈ s.catalogue)
    (second : b ∈ s.catalogue) (same : a.slug = b.slug) : a = b := by
  have slugs := (catalogued.apart migrated).imp fun apart => apart.1
  exact Table.eq_of_key slugs first second same

theorem find_eq_ok_iff (migrated : s.Migrated) {slug : String} {day : DemoDay} :
    DemoDays.find slug s = .ok day ↔ day ∈ s.catalogue ∧ day.slug = slug := by
  rw [catalogued.find_eq migrated, ← catalogued.find?_eq_some_iff migrated]
  cases s.catalogue.find? (·.slug == slug) <;> simp

/-! ## Writes -/

theorem announced (moment : Moment) (new : NewDemoDay) :
    (s.announced (new.row moment)).catalogue = s.catalogue ++ [new.day moment] ∧
      (new.slug ≠ "" → (s.announced (new.row moment)).Catalogued) := by
  have rows : (s.announced (new.row moment)).dayRows =
      (s.catalogue ++ [new.day moment]).map DemoDay.row := by
    rw [List.map_append, ← catalogued.rows]
    rfl
  refine ⟨catalogue_of_rows rows, fun named => .of_rows rows fun day present => ?_⟩
  rcases List.mem_append.mp present with old | new
  · exact catalogued.named day old
  · exact List.mem_singleton.mp new ▸ named

/-- An edit of the row under an id is a revision of the demo day of this id. -/
theorem edited {now : Instant} (edit : DayRow → DayRow) (revision : DemoDay → DemoDay)
    (keeps : ∀ day, (revision day).slug = day.slug)
    (revises : ∀ day : DemoDay, { edit day.row with updatedAt := now } = (revision day).row)
    (id : Uuid) :
    (s.edited id edit now).catalogue =
        s.catalogue.map (fun day => if day.id = id then revision day else day) ∧
      (s.edited id edit now).Catalogued := by
  have rows : (s.edited id edit now).dayRows =
      (s.catalogue.map fun day => if day.id = id then revision day else day).map DemoDay.row := by
    rw [dayRows_edited, catalogued.rows, List.map_map, List.map_map]
    refine List.map_congr_left fun day _ => ?_
    rw [Function.comp_apply, Function.comp_apply, day.row_id_beq]
    by_cases own : day.id = id
    · simp only [own, beq_self_eq_true, if_true, revises]
    · simp only [own, beq_iff_eq, if_false]
  refine ⟨catalogue_of_rows rows, .of_rows rows fun day present => ?_⟩
  obtain ⟨old, listed, rfl⟩ := List.mem_map.mp present
  split
  · exact keeps old ▸ catalogued.named old listed
  · exact catalogued.named old listed

theorem find?_announced (moment : Moment) (new : NewDemoDay) (slug : String) :
    (s.announced (new.row moment)).catalogue.find? (·.slug == slug) =
      (s.catalogue.find? (·.slug == slug)).or
        (if new.slug = slug then some (new.day moment) else none) := by
  rw [(catalogued.announced moment new).1, List.find?_append]
  congr 1
  by_cases own : new.slug = slug <;> simp [own, NewDemoDay.day]

/-- A revision is found under the slug of the demo day that was revised, and nowhere else. -/
theorem find?_edited (migrated : s.Migrated) {current : DemoDay} (present : current ∈ s.catalogue)
    {edit : DayRow → DayRow} {revision : DemoDay → DemoDay} {now : Instant}
    (keeps : ∀ day, (revision day).slug = day.slug)
    (revises : ∀ day : DemoDay, { edit day.row with updatedAt := now } = (revision day).row)
    (slug : String) :
    (s.edited current.id edit now).catalogue.find? (·.slug == slug) =
      if slug = current.slug then some (revision current)
      else s.catalogue.find? (·.slug == slug) := by
  have unmoved (day : DemoDay) :
      (if day.id = current.id then revision day else day).slug = day.slug := by
    split
    · exact keeps day
    · rfl
  -- The search meets the same demo days as before, one of which was revised.
  have found : (s.edited current.id edit now).catalogue.find? (·.slug == slug) =
      (s.catalogue.find? (·.slug == slug)).map fun day =>
        if day.id = current.id then revision day else day := by
    rw [(catalogued.edited edit revision keeps revises current.id).1, List.find?_map]
    simp only [Function.comp_def, unmoved]
  rw [found]
  split
  next own =>
    rw [(catalogued.find?_eq_some_iff migrated).mpr ⟨present, own.symm⟩, Option.map_some,
      if_pos rfl]
  next other =>
    cases hit : s.catalogue.find? (·.slug == slug) with
    | none => rfl
    | some day =>
      obtain ⟨listed, named⟩ := (catalogued.find?_eq_some_iff migrated).mp hit
      have apart : day.id ≠ current.id := fun same => other <| by
        rw [← named, catalogued.eq_of_id migrated listed present same]
      rw [Option.map_some, if_neg apart]

/-! ## Operations -/

theorem demandFree_eq (migrated : s.Migrated) (slug : String) :
    DemoDays.demandFree slug s =
      match s.catalogue.find? (·.slug == slug) with
      | some _ => .error (.alreadyExists "demo_day")
      | none => .ok () := by
  rw [DemoDays.demandFree, catalogued.find_eq migrated]
  cases s.catalogue.find? (·.slug == slug) <;> rfl

/-- Under an id that nobody has used, only the host and the slug decide. -/
theorem run_create (migrated : s.Migrated) (unused : ¬s.HasDay moment.id) (new : NewDemoDay) :
    (DemoDays.create new).run moment s =
      match Host.validateConcrete new.host with
      | .error e => ⟨.error e, s, []⟩
      | .ok () =>
        if new.slug = "" then ⟨.error (.validation .emptySlug), s, []⟩
        else match s.catalogue.find? (·.slug == new.slug) with
          | some _ => ⟨.error (.alreadyExists "demo_day"), s, []⟩
          | none => ⟨.ok (new.day moment), s.announced (new.row moment),
              [.dayCreated new.slug new.host]⟩ := by
  rw [DemoDays.run_create migrated]
  cases valid : Host.validateConcrete new.host with
  | error e => rfl
  | ok =>
    dsimp only
    split
    next => rfl
    next =>
      rw [catalogued.demandFree_eq migrated]
      cases free : s.catalogue.find? (·.slug == new.slug) with
      | some taken => rfl
      | none =>
        have added : DemoDays.add new moment s = .ok (s.announced (new.row moment)) := by
          refine migrated.add_day_eq_ok_iff.mpr ⟨⟨Host.ne_empty_of_concrete valid, ?_⟩, rfl⟩
          intro row present
          refine ⟨?_, fun same => unused ⟨row, present, same⟩⟩
          rw [catalogued.rows] at present
          obtain ⟨day, listed, rfl⟩ := List.mem_map.mp present
          have differs : day.slug ≠ new.slug := by simpa using List.find?_eq_none.mp free day listed
          exact differs
        simp only [added]

/-- A demo day is read under its id, as it is the only one that has it. -/
theorem stored_of_mem (migrated : s.Migrated) {day : DemoDay} (present : day ∈ s.catalogue) :
    DemoDays.stored day.id s = .ok day := by
  have ids := (catalogued.apart migrated).imp fun apart => apart.2
  have rows : (Schema.dayTable s.dayRows).rows.find? (·.id == some day.id.text) = some day.row := by
    rw [Schema.dayTable, catalogued.rows, List.find?_map]
    simp only [Function.comp_def, DemoDay.row_id_beq, Table.find?_key ids present, Option.map_some]
  simp only [DemoDays.stored, migrated.readDays, ok_bind, rows, day.decodeAs_row]

/-- An edit that makes a storable revision of a demo day is written and answers with it. -/
theorem run_amend (migrated : s.Migrated) {current : DemoDay} (present : current ∈ s.catalogue)
    {edit : DayRow → DayRow} (keeps : KeepsKeys edit) (revision : DemoDay → DemoDay)
    (revises : ∀ day : DemoDay, { edit day.row with updatedAt := moment.now } = (revision day).row)
    (hosted : (revision current).host ≠ "") :
    (DemoDays.amend current.id edit).run moment s =
      ⟨.ok (revision current), s.edited current.id edit moment.now, []⟩ := by
  have slugs (day : DemoDay) : (revision day).slug = day.slug :=
    (congrArg DayRow.slug (revises day)).symm.trans (keeps day.row).2
  have ids (day : DemoDay) : (revision day).id = day.id :=
    Uuid.text_injective <| Option.some.inj <|
      (congrArg DayRow.id (revises day)).symm.trans (keeps day.row).1
  have revised : DemoDays.revise current.id edit moment.now s =
      .ok (s.edited current.id edit moment.now) := by
    refine migrated.revise_day_eq_ok_iff.mpr ⟨fun row stored named => ?_, rfl⟩
    -- The row under the id is that of the demo day itself.
    rw [catalogued.rows] at stored
    obtain ⟨day, listed, rfl⟩ := List.mem_map.mp stored
    obtain rfl := catalogued.eq_of_id migrated listed present
      (Uuid.text_injective (Option.some.inj named))
    rw [revises]
    exact Schema.dayTable_fits_iff.mpr ⟨hosted, _, rfl⟩
  obtain ⟨left, still⟩ := catalogued.edited edit revision slugs revises current.id
  have listed : revision current ∈ (s.edited current.id edit moment.now).catalogue := by
    rw [left]
    exact List.mem_map.mpr ⟨current, present, if_pos rfl⟩
  have read := still.stored_of_mem (migrated.edited keeps revised) listed
  rw [ids] at read
  rw [DemoDays.run_amend, revised]
  simp only [read, mapError_ok]

theorem run_updateStatus (migrated : s.Migrated) (slug : String) (status : Status) :
    (DemoDays.updateStatus slug status).run moment s =
      match s.catalogue.find? (·.slug == slug) with
      | none => ⟨.error (.notFound "demo_day" slug), s, []⟩
      | some current =>
        if current.status.allows status then
          ⟨.ok { current with status := status, updatedAt := moment.now },
            s.edited current.id ({ · with status := status.name }) moment.now, []⟩
        else ⟨.error (.validation (.backwardMove slug current.status status)), s, []⟩ := by
  rw [DemoDays.run_updateStatus, catalogued.find_eq migrated]
  cases hit : s.catalogue.find? (·.slug == slug) with
  | none => rfl
  | some current =>
    have present := List.mem_of_find?_eq_some hit
    dsimp only
    split
    next =>
      -- The host stays, and is one that the table holds already.
      have stored : current.row ∈ s.dayRows := catalogued.rows ▸ List.mem_map_of_mem present
      exact catalogued.run_amend migrated present (keepsKeys_status status)
        ({ · with status := status, updatedAt := moment.now }) (fun _ => rfl)
        (migrated.day_wellFormed stored).1
    next => rfl

theorem run_updateHost (migrated : s.Migrated) (slug host : String) :
    (DemoDays.updateHost slug host).run moment s =
      match Host.validateConcrete host with
      | .error e => ⟨.error e, s, []⟩
      | .ok () =>
        match s.catalogue.find? (·.slug == slug) with
        | none => ⟨.error (.notFound "demo_day" slug), s, []⟩
        | some current =>
          if current.status = .upcoming then
            ⟨.ok { current with host := host, updatedAt := moment.now },
              s.edited current.id ({ · with host := host }) moment.now, []⟩
          else ⟨.error (.validation (.fixedHost slug current.status)), s, []⟩ := by
  rw [DemoDays.run_updateHost, catalogued.find_eq migrated]
  cases valid : Host.validateConcrete host with
  | error e => rfl
  | ok =>
    cases hit : s.catalogue.find? (·.slug == slug) with
    | none => rfl
    | some current =>
      dsimp only
      split
      next =>
        exact catalogued.run_amend migrated (List.mem_of_find?_eq_some hit) (keepsKeys_host host)
          ({ · with host := host, updatedAt := moment.now }) (fun _ => rfl)
          (Host.ne_empty_of_concrete valid)
      next => rfl

end Catalogued

/-- What one commit makes of the catalogue: the demo days that it had, revised or not, and new ones
behind them. -/
theorem Commit.catalogue_cases (migrated : s.Migrated) (catalogued : s.Catalogued)
    (commit : s.Commit moment s') : s'.Catalogued ∧
      (s'.catalogue = s.catalogue ∨
        (∃ new : NewDemoDay, s'.catalogue = s.catalogue ++ [new.day moment]) ∨
        (∃ current ∈ s.catalogue, ∃ status, current.status.allows status = true ∧
          s'.catalogue = s.catalogue.map fun day =>
            if day.id = current.id then { day with status := status, updatedAt := moment.now }
            else day) ∨
        ∃ current ∈ s.catalogue, current.status = .upcoming ∧ ∃ host,
          s'.catalogue = s.catalogue.map fun day =>
            if day.id = current.id then { day with host := host, updatedAt := moment.now }
            else day) := by
  cases commit with
  | joined | without | granted => exact ⟨catalogued.congr rfl, Or.inl (catalogue_congr rfl)⟩
  | announced new valid named added =>
    obtain ⟨-, rfl⟩ := migrated.add_day_eq_ok_iff.mp added
    obtain ⟨grown, still⟩ := catalogued.announced moment new
    exact ⟨still named, Or.inr (Or.inl ⟨new, grown⟩)⟩
  | moved slug status current found allowed revised =>
    obtain ⟨-, rfl⟩ := migrated.revise_day_eq_ok_iff.mp revised
    obtain ⟨present, -⟩ := (catalogued.find_eq_ok_iff migrated).mp found
    obtain ⟨revised, still⟩ := catalogued.edited ({ · with status := status.name })
      ({ · with status := status, updatedAt := moment.now }) (fun _ => rfl) (fun _ => rfl)
      current.id
    exact ⟨still, Or.inr (Or.inr (Or.inl ⟨current, present, status, allowed, revised⟩))⟩
  | rehosted slug host current valid found upcoming revised =>
    obtain ⟨-, rfl⟩ := migrated.revise_day_eq_ok_iff.mp revised
    obtain ⟨present, -⟩ := (catalogued.find_eq_ok_iff migrated).mp found
    obtain ⟨revised, still⟩ := catalogued.edited ({ · with host := host })
      ({ · with host := host, updatedAt := moment.now }) (fun _ => rfl) (fun _ => rfl) current.id
    exact ⟨still, Or.inr (Or.inr (Or.inr ⟨current, present, upcoming, host, revised⟩))⟩

theorem fresh_catalogued : Store.fresh.Catalogued := by
  rw [fresh_eq]
  exact @Catalogued.of_rows _ [] rfl fun _ present => absurd present List.not_mem_nil

end Store

/-- Whatever the directory has been asked to do, it can read its demo days as it wrote them. -/
theorem Run.finalStore_catalogued (run : Run) : (Run.finalStore Store.fresh run).Catalogued :=
  (Run.finalStore_induction
    (fun settled catalogued commit => (commit.catalogue_cases settled.toMigrated catalogued).1)
    Store.fresh_settled Store.fresh_catalogued run).2

end HostAccess
