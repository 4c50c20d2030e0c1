import HostAccess.Proofs.Readings

/-! # What a write of a demo day leaves

A new demo day is the last row of its table. An edit addresses the row under a record id and leaves
the id and the slug alone, so it never makes two rows clash; if no row has the id, it changes
nothing at all. -/
namespace HostAccess

namespace Store

def announced (s : Store) (row : DayRow) : Store :=
  { s with days := some (Schema.dayTable (s.dayRows ++ [row])) }

def edited (s : Store) (id : Uuid) (edit : DayRow → DayRow) (now : Instant) : Store :=
  { s with days := some (Schema.dayTable (s.dayRows.map fun row =>
      if row.id == some id.text then { edit row with updatedAt := now } else row)) }

/-- The row under the canonical text of an id is there. -/
def HasDay (s : Store) (id : Uuid) : Prop := ∃ row ∈ s.dayRows, row.id = some id.text

@[simp] theorem dayRows_edited (s : Store) (id : Uuid) (edit : DayRow → DayRow) (now : Instant) :
    (s.edited id edit now).dayRows = s.dayRows.map fun row =>
      if row.id == some id.text then { edit row with updatedAt := now } else row := rfl

end Store

/-- The row of a new demo day. -/
def NewDemoDay.row (new : NewDemoDay) (moment : Moment) : DayRow :=
  ⟨some moment.id.text, new.slug, new.name, new.host, Status.upcoming.name, moment.now, moment.now⟩

/-- Edits that leave the record id and the slug alone. -/
def KeepsKeys (edit : DayRow → DayRow) : Prop :=
  ∀ row, (edit row).id = row.id ∧ (edit row).slug = row.slug

namespace Schema

theorem dayTable_legal_append_iff {rows : List DayRow} (legal : (dayTable rows).Legal)
    (row : DayRow) :
    (dayTable (rows ++ [row])).Legal ↔
      (dayTable []).Fits row ∧ ∀ other ∈ rows, other.slug ≠ row.slug ∧
        ∀ id, other.id = some id → row.id ≠ some id := by
  -- Fitting and being apart depend on the declarations and not on the rows of a table.
  refine (Table.legal_concat_iff (t := dayTable []) legal).trans ?_
  exact and_congr_right fun _ => forall₂_congr fun other _ => dayTable_apart_iff

end Schema

/-! ## Stored days -/

theorem DayRow.decodeAs_eq_ok_iff {row : DayRow} {id : Uuid} {day : DemoDay} :
    row.decodeAs id = .ok day ↔ ∃ status : Status, status.name = row.status ∧
      day = ⟨id, row.slug, row.name, row.host, status, row.createdAt, row.updatedAt⟩ := by
  simp only [decodeAs, decodeStatus, bind_eq_ok_iff, pure_eq_ok_iff]
  constructor
  · rintro ⟨status, decoded, rfl⟩
    split at decoded
    next known =>
      cases decoded
      exact ⟨status, Status.name_of_ofName? known, rfl⟩
    next => cases decoded
  · rintro ⟨status, named, rfl⟩
    exact ⟨status, by rw [← named, Status.ofName?_name], rfl⟩

theorem DayRow.decode_eq_ok_iff {row : DayRow} {day : DemoDay} :
    row.decode = .ok day ↔
      ∃ id, row.id.bind Uuid.parse? = some id ∧ row.decodeAs id = .ok day := by
  unfold decode
  cases row.id.bind Uuid.parse? <;> simp

theorem DemoDays.find_eq_ok_iff {s : Store} {slug : String} {day : DemoDay} :
    find slug s = .ok day ↔ ∃ t, s.days = some t ∧
      ∃ row, t.rows.find? (·.slug == slug) = some row ∧ row.decode = .ok day := by
  simp only [find, lookup, mapError_eq_ok_iff, bind_eq_ok_iff, Store.readDays_eq_ok_iff]
  refine exists_congr fun t => and_congr_right fun _ => ?_
  cases t.rows.find? (·.slug == slug) with
  | none => simp [throw, throwThe, MonadExceptOf.throw]
  | some row => simp

/-- A demo day that is found has the slug and the host of a row. -/
theorem DemoDays.find_sound {s : Store} {slug : String} {day : DemoDay}
    (found : find slug s = .ok day) :
    ∃ row ∈ s.dayRows, row.slug = slug ∧ row.host = day.host := by
  obtain ⟨t, there, row, first, decoded⟩ := find_eq_ok_iff.mp found
  obtain ⟨id, -, decoded⟩ := DayRow.decode_eq_ok_iff.mp decoded
  obtain ⟨status, -, rfl⟩ := DayRow.decodeAs_eq_ok_iff.mp decoded
  obtain ⟨present, sameSlug⟩ := Table.of_find?_key first
  exact ⟨row, Store.dayRows_of_eq there ▸ present, sameSlug, rfl⟩

namespace Store

theorem not_hasDay_iff {s : Store} {id : Uuid} :
    ¬s.HasDay id ↔ s.dayRows.find? (·.id == some id.text) = none := by
  simp [HasDay, List.find?_eq_none]

theorem hasDay_edited {s : Store} {id : Uuid} {edit : DayRow → DayRow} {now : Instant}
    (keeps : KeepsKeys edit) {other : Uuid} :
    (s.edited id edit now).HasDay other ↔ s.HasDay other := by
  have same (row : DayRow) :
      (if row.id == some id.text then { edit row with updatedAt := now } else row).id = row.id := by
    split
    · exact (keeps row).1
    · rfl
  simp only [HasDay, dayRows_edited, List.mem_map]
  constructor
  · rintro ⟨_, ⟨row, present, rfl⟩, named⟩
    exact ⟨row, present, (same row).symm.trans named⟩
  · rintro ⟨row, present, named⟩
    exact ⟨_, ⟨row, present, rfl⟩, (same row).trans named⟩

namespace Migrated

variable {s : Store} (migrated : s.Migrated)

include migrated

theorem dayTable_eq : s.dayTable = .ok (Schema.dayTable s.dayRows) := by
  rw [dayTable, migrated.days]
  rfl

/-- A row under an id is always understood, as its status is one that may be stored. -/
theorem stored_day_isOk_iff {id : Uuid} : (∃ day, DemoDays.stored id s = .ok day) ↔ s.HasDay id := by
  simp only [DemoDays.stored, migrated.readDays, bind_eq_ok_iff, Except.ok.injEq, exists_eq_left']
  constructor
  · rintro ⟨day, returned⟩
    apply Classical.byContradiction
    intro absent
    rw [show (Schema.dayTable s.dayRows).rows = s.dayRows from rfl, not_hasDay_iff.mp absent] at returned
    cases returned
  · rintro ⟨row, present, named⟩
    cases found : (Schema.dayTable s.dayRows).rows.find? (·.id == some id.text) with
    | none => exact absurd ⟨row, present, named⟩ (not_hasDay_iff.mpr found)
    | some other =>
      -- The id is not parsed here, it is the one that was asked for.
      obtain ⟨-, status, known⟩ := migrated.day_wellFormed (List.mem_of_find?_eq_some found)
      exact ⟨_, DayRow.decodeAs_eq_ok_iff.mpr ⟨status, known, rfl⟩⟩

theorem slugs_apart : s.dayRows.Pairwise fun a b => a.slug ≠ b.slug :=
  migrated.daysLegal.apart.imp fun apart => (Schema.dayTable_apart_iff.mp apart).1

/-- A row whose id is a UUID is found by its slug. -/
theorem find_day {row : DayRow} (present : row ∈ s.dayRows)
    (named : (row.id.bind Uuid.parse?).isSome = true) :
    ∃ day, DemoDays.find row.slug s = .ok day ∧ day.host = row.host := by
  obtain ⟨id, spelt⟩ := Option.isSome_iff_exists.mp named
  obtain ⟨-, status, known⟩ := migrated.day_wellFormed present
  refine ⟨⟨id, row.slug, row.name, row.host, status, row.createdAt, row.updatedAt⟩, ?_, rfl⟩
  refine DemoDays.find_eq_ok_iff.mpr ⟨_, migrated.days, row, ?_, ?_⟩
  -- No other row has the slug, so that the search ends with this one.
  · exact Table.find?_key migrated.slugs_apart present
  · exact DayRow.decode_eq_ok_iff.mpr
      ⟨id, spelt, DayRow.decodeAs_eq_ok_iff.mpr ⟨status, known, rfl⟩⟩

/-! ## When a write is accepted -/

theorem add_day_eq_ok_iff {s' : Store} {new : NewDemoDay} {moment : Moment} :
    DemoDays.add new moment s = .ok s' ↔
      (new.host ≠ "" ∧ ∀ row ∈ s.dayRows, row.slug ≠ new.slug ∧ row.id ≠ some moment.id.text) ∧
        s' = s.announced (new.row moment) := by
  have legal : (Schema.dayTable (s.dayRows ++ [new.row moment])).Legal ↔
      new.host ≠ "" ∧ ∀ row ∈ s.dayRows, row.slug ≠ new.slug ∧ row.id ≠ some moment.id.text := by
    rw [Schema.dayTable_legal_append_iff migrated.daysLegal, Schema.dayTable_fits_iff]
    refine and_congr (and_iff_left ⟨.upcoming, rfl⟩) (forall₂_congr fun row _ => and_congr_right ?_)
    intro _
    exact ⟨fun free taken => free _ taken rfl, fun free id taken same => free (taken.trans same.symm)⟩
  rw [← legal]
  simp only [DemoDays.add, migrated.dayTable_eq, bind_eq_ok_iff, Except.ok.injEq, exists_eq_left',
    Table.insert_eq_ok_iff_legal migrated.daysLegal, pure_eq_ok_iff]
  constructor
  · rintro ⟨t, ⟨rfl, accepted⟩, rfl⟩
    exact ⟨accepted, rfl⟩
  · rintro ⟨accepted, rfl⟩
    exact ⟨_, ⟨rfl, accepted⟩, rfl⟩

/-- An edit is accepted if the row that it is about fits afterwards, whichever column it changed. -/
theorem revise_day_eq_ok_iff {s' : Store} {id : Uuid} {edit : DayRow → DayRow} {now : Instant} :
    DemoDays.revise id edit now s = .ok s' ↔
      (∀ row ∈ s.dayRows, row.id = some id.text →
        (Schema.dayTable []).Fits { edit row with updatedAt := now }) ∧ s' = s.edited id edit now := by
  simp only [DemoDays.revise, migrated.dayTable_eq, bind_eq_ok_iff, Except.ok.injEq,
    exists_eq_left', Table.revise_eq_ok_iff, pure_eq_ok_iff]
  constructor
  · rintro ⟨t, ⟨fits, rfl⟩, rfl⟩
    exact ⟨fun row present named => fits row present (beq_iff_eq.mpr named), rfl⟩
  · rintro ⟨fits, rfl⟩
    exact ⟨_, ⟨fun row present chosen => fits row present (beq_iff_eq.mp chosen), rfl⟩, rfl⟩

/-! ## Writes keep a store migrated -/

theorem announced {row : DayRow} (fits : (Schema.dayTable []).Fits row)
    (free : ∀ other ∈ s.dayRows, other.slug ≠ row.slug ∧
      ∀ id, other.id = some id → row.id ≠ some id) : (s.announced row).Migrated :=
  { migrated with
    days := rfl
    daysLegal := (Schema.dayTable_legal_append_iff migrated.daysLegal row).mpr ⟨fits, free⟩ }

theorem edited {s' : Store} {id : Uuid} {edit : DayRow → DayRow} {now : Instant}
    (keeps : KeepsKeys edit) (revised : DemoDays.revise id edit now s = .ok s') : s'.Migrated := by
  obtain ⟨fits, rfl⟩ := migrated.revise_day_eq_ok_iff.mp revised
  have accepted : (Schema.dayTable s.dayRows).revise (·.id == some id.text)
      (fun row => { edit row with updatedAt := now }) =
        .ok (Schema.dayTable (s.edited id edit now).dayRows) :=
    Table.revise_eq_ok_iff.mpr
      ⟨fun row present chosen => fits row present (beq_iff_eq.mp chosen), rfl⟩
  -- The slug is the only column that an index asks to be unique.
  have cells : ∀ index ∈ Schema.dayIndexes, index.unique = true → ∀ column ∈ index.columns,
      ∀ row : DayRow, Row.cell { edit row with updatedAt := now } column = Row.cell row column := by
    simp [Schema.dayIndexes, Row.cell, (keeps _).2]
  have legal : (Schema.dayTable (s.edited id edit now).dayRows).Legal := by
    refine migrated.daysLegal.revise ?_ cells accepted
    exact fun row => (keeps row).1
  exact { migrated with days := rfl, daysLegal := legal }

/-- An edit under an id that no row has changes nothing. -/
theorem edited_absent {id : Uuid} (absent : ¬s.HasDay id) (edit : DayRow → DayRow) (now : Instant) :
    s.edited id edit now = s := by
  have same : s.dayRows.map (fun row =>
      if row.id == some id.text then { edit row with updatedAt := now } else row) = s.dayRows := by
    refine (List.map_congr_left fun row present => if_neg ?_).trans (List.map_id' _)
    exact fun named => absent ⟨row, present, beq_iff_eq.mp named⟩
  rw [Store.edited, same, ← migrated.days]

end Migrated

end Store

end HostAccess
