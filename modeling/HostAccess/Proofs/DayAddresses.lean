import HostAccess.Proofs.Commits

/-! # Which row a change of a demo day is written to

A demo day is found by its slug and changed under its id. The id is read from the record id of the
row that was found, in any spelling, and the write addresses the canonical one. Where rows were put
there by hand, the canonical spelling may be the record id of another row, and then it is this other
demo day that is changed. -/
namespace HostAccess

/-- What may be changed of a demo day. -/
inductive DayChange
  | move (next : Status)
  | rehost (host : String)

namespace DayChange

def perform (slug : String) : DayChange → Action Error DemoDay
  | move next => DemoDays.updateStatus slug next
  | rehost host => DemoDays.updateHost slug host

def edit : DayChange → DayRow → DayRow
  | move next, row => { row with status := next.name }
  | rehost host, row => { row with host := host }

/-- A row after the change. -/
def revise (change : DayChange) (now : Instant) (row : DayRow) : DayRow :=
  { change.edit row with updatedAt := now }

/-- A row has the status or host that was asked for. -/
def ShownBy : DayChange → DayRow → Prop
  | move next, row => row.status = next.name
  | rehost host, row => row.host = host

/-- A change is confined to the demo day of a slug: the answer is this demo day, its row has what
was asked for, and everything else that is stored is as before. -/
structure Confined (change : DayChange) (slug : String) (s s' : Store) (day : DemoDay) : Prop where
  answer : day.slug = slug
  shown : ∃ row ∈ s'.dayRows, row.slug = slug ∧ change.ShownBy row
  tables : ∃ rows, s' = { s with days := some (Schema.dayTable rows) }
  rows : ∀ row, row.slug ≠ slug → (row ∈ s'.dayRows ↔ row ∈ s.dayRows)

variable {s : Store} {moment : Moment} {change : DayChange} {slug : String} {day : DemoDay}

theorem keepsKeys_edit (change : DayChange) : KeepsKeys change.edit := by
  cases change with
  | move next => exact keepsKeys_status next
  | rehost host => exact keepsKeys_host host

theorem shownBy_revise (change : DayChange) (now : Instant) (row : DayRow) :
    change.ShownBy (change.revise now row) := by
  cases change <;> rfl

end DayChange

/-! ## Rows that a key tells apart -/

namespace Store.Migrated

variable {s : Store} (migrated : s.Migrated)

include migrated

theorem row_eq_of_slug {a b : DayRow} (first : a ∈ s.dayRows) (second : b ∈ s.dayRows)
    (same : a.slug = b.slug) : a = b :=
  Table.eq_of_key migrated.slugs_apart first second same

/-- Record ids tell rows apart, but for the rows whose ids nothing can name. -/
theorem row_eq_of_id {a b : DayRow} (first : a ∈ s.dayRows) (second : b ∈ s.dayRows) {id : String}
    (named : a.id = some id) (same : b.id = some id) : a = b := by
  have apart := migrated.daysLegal.apart
  have alike : s.dayRows.Pairwise fun a b => a.id = some id → b.id = some id → a = b :=
    apart.imp fun apart named same => absurd same ((Schema.dayTable_apart_iff.mp apart).2 id named)
  have mirrored : s.dayRows.Pairwise (flip fun a b => a.id = some id → b.id = some id → a = b) :=
    alike.imp fun equal same named => (equal named same).symm
  exact alike.forall_of_forall_of_flip (fun _ _ _ _ => rfl) mirrored first second named same

end Store.Migrated

/-! ## Changes that return -/

namespace DemoDays

variable {s : Store} {moment : Moment} {id : Uuid} {day : DemoDay}

/-- A demo day that is read under an id is that of a row. -/
theorem stored_sound (read : stored id s = .ok day) :
    ∃ row ∈ s.dayRows, row.id = some id.text ∧ row.decodeAs id = .ok day := by
  simp only [stored, bind_eq_ok_iff, Store.readDays_eq_ok_iff] at read
  obtain ⟨t, there, read⟩ := read
  rw [Store.dayRows_of_eq there]
  cases found : t.rows.find? (·.id == some id.text) with
  | none =>
    rw [found] at read
    cases read
  | some row =>
    rw [found] at read
    obtain ⟨present, named⟩ := Table.of_find?_key found
    exact ⟨row, present, named, read⟩

/-- An edit that returns was made to a row, which is read back as the answer. -/
theorem amend_returned (migrated : s.Migrated) {edit : DayRow → DayRow}
    (returned : ((amend id edit).run moment s).result = .ok day) :
    ((amend id edit).run moment s).store = s.edited id edit moment.now ∧
      ∃ row ∈ s.dayRows, row.id = some id.text ∧
        { edit row with updatedAt := moment.now : DayRow }.decodeAs id = .ok day := by
  rw [run_amend] at returned ⊢
  cases revised : revise id edit moment.now s with
  | error refusal =>
    rw [revised] at returned
    cases returned
  | ok s' =>
    rw [revised] at returned
    obtain ⟨-, rfl⟩ := migrated.revise_day_eq_ok_iff.mp revised
    obtain ⟨row, present, named, decoded⟩ := stored_sound (mapError_eq_ok_iff.mp returned)
    obtain ⟨old, listed, rfl⟩ := List.mem_map.mp present
    refine ⟨rfl, old, listed, ?_⟩
    by_cases chosen : (old.id == some id.text) = true
    · rw [if_pos chosen] at decoded
      exact ⟨beq_iff_eq.mp chosen, decoded⟩
    · rw [if_neg chosen] at named
      exact absurd (beq_iff_eq.mpr named) chosen

end DemoDays

namespace DayChange

variable {s : Store} {moment : Moment} {change : DayChange} {slug : String} {day : DemoDay}

/-- Behind its checks, a change is an edit under the id of the demo day that was found. -/
theorem perform_returned (returned : ((change.perform slug).run moment s).result = .ok day) :
    ∃ current, DemoDays.find slug s = .ok current ∧ (change.perform slug).run moment s =
      (DemoDays.amend current.id change.edit).run moment s := by
  cases change with
  | move next =>
    simp only [perform, DemoDays.run_updateStatus] at returned ⊢
    cases found : DemoDays.find slug s with
    | error e =>
      rw [found] at returned
      cases returned
    | ok current =>
      simp only [found] at returned
      split at returned
      next allowed => exact ⟨current, rfl, if_pos allowed⟩
      next => cases returned
  | rehost host =>
    simp only [perform, DemoDays.run_updateHost] at returned ⊢
    cases valid : Host.validateConcrete host with
    | error e =>
      rw [valid] at returned
      cases returned
    | ok =>
      cases found : DemoDays.find slug s with
      | error e =>
        rw [valid, found] at returned
        cases returned
      | ok current =>
        simp only [valid, found] at returned
        split at returned
        next upcoming => exact ⟨current, rfl, if_pos upcoming⟩
        next => cases returned

/-- The row that is found for a slug, and what its record id is read as. -/
theorem found_row {current : DemoDay} (found : DemoDays.find slug s = .ok current) :
    ∃ named ∈ s.dayRows, named.slug = slug ∧ named.id.bind Uuid.parse? = some current.id := by
  obtain ⟨t, there, named, first, read⟩ := DemoDays.find_eq_ok_iff.mp found
  obtain ⟨id, spelt, decoded⟩ := DayRow.decode_eq_ok_iff.mp read
  obtain ⟨status, -, rfl⟩ := DayRow.decodeAs_eq_ok_iff.mp decoded
  obtain ⟨present, sameSlug⟩ := Table.of_find?_key first
  exact ⟨named, Store.dayRows_of_eq there ▸ present, sameSlug, spelt⟩

/-- The rows after a change of one of them, which keeps its slug. -/
def rowsAfter (change : DayChange) (now : Instant) (written : DayRow) (rows : List DayRow) :
    List DayRow :=
  rows.map fun row => if row = written then change.revise now row else row

theorem edited_eq_rowsAfter (migrated : s.Migrated) {written : DayRow}
    (present : written ∈ s.dayRows) {id : Uuid} (addressed : written.id = some id.text)
    (now : Instant) :
    s.edited id change.edit now =
      { s with days := some (Schema.dayTable (change.rowsAfter now written s.dayRows)) } := by
  have same : s.dayRows.map (fun row =>
      if row.id == some id.text then { change.edit row with updatedAt := now } else row) =
        change.rowsAfter now written s.dayRows := by
    refine List.map_congr_left fun row listed => ?_
    by_cases own : row = written
    · rw [if_pos own, if_pos (beq_iff_eq.mpr (own ▸ addressed))]
      rfl
    · have differs : ¬(row.id == some id.text) = true := fun chosen =>
        own (migrated.row_eq_of_id listed present (beq_iff_eq.mp chosen) addressed)
      rw [if_neg own, if_neg differs]
  rw [Store.edited, same]

theorem mem_rowsAfter_of_ne {now : Instant} {written row : DayRow} {rows : List DayRow}
    (other : row.slug ≠ written.slug) : row ∈ change.rowsAfter now written rows ↔ row ∈ rows := by
  constructor
  · intro present
    obtain ⟨old, listed, rfl⟩ := List.mem_map.mp present
    by_cases own : old = written
    · rw [if_pos own] at other
      exact absurd ((change.keepsKeys_edit old).2.trans (congrArg DayRow.slug own)) other
    · rwa [if_neg own]
  · intro present
    exact List.mem_map.mpr ⟨row, present, if_neg fun own => other (congrArg DayRow.slug own)⟩

/-- A change that returns has written one row: the one whose record id is the canonical spelling of
the id of the demo day that was named. So it is confined to this demo day just where the demo day is
stored under that spelling itself. -/
theorem confined_iff_canonical (migrated : s.Migrated)
    (returned : ((change.perform slug).run moment s).result = .ok day) :
    ∃ named ∈ s.dayRows, ∃ written ∈ s.dayRows,
      named.slug = slug ∧ named.id.bind Uuid.parse? = some day.id ∧
      written.id = some day.id.text ∧
      (change.revise moment.now written).decodeAs day.id = .ok day ∧
      ((change.perform slug).run moment s).store =
        { s with days := some (Schema.dayTable (change.rowsAfter moment.now written s.dayRows)) } ∧
      (change.Confined slug s ((change.perform slug).run moment s).store day ↔
        named.id = some day.id.text) := by
  obtain ⟨current, found, behind⟩ := perform_returned returned
  rw [behind] at returned ⊢
  obtain ⟨left, written, present, addressed, decoded⟩ := DemoDays.amend_returned migrated returned
  obtain ⟨named, listed, named_slug, spelt⟩ := found_row found
  have answer : day.id = current.id ∧ day.slug = written.slug := by
    obtain ⟨status, -, rfl⟩ := DayRow.decodeAs_eq_ok_iff.mp decoded
    exact ⟨rfl, (change.keepsKeys_edit written).2⟩
  obtain ⟨sameId, sameSlug⟩ := answer
  rw [← sameId] at addressed decoded spelt
  rw [left, ← sameId, edited_eq_rowsAfter migrated present addressed]
  refine ⟨named, listed, written, present, named_slug, spelt, addressed, decoded, rfl, ?_, ?_⟩
  · intro confined
    -- The answer has the slug of the row that was written, and a slug is on one row only.
    have same : named = written :=
      migrated.row_eq_of_slug listed present (by rw [named_slug, ← sameSlug, confined.answer])
    rw [same, addressed]
  · intro canonical
    -- Both rows have the same record id, which is on one row only too.
    obtain rfl := migrated.row_eq_of_id listed present canonical addressed
    exact {
      answer := sameSlug.trans named_slug
      shown := ⟨change.revise moment.now named, List.mem_map.mpr ⟨named, present, if_pos rfl⟩,
        (change.keepsKeys_edit named).2.trans named_slug, change.shownBy_revise moment.now named⟩
      tables := ⟨_, rfl⟩
      rows := fun row other => mem_rowsAfter_of_ne (named_slug ▸ other) }

/-- Beside the demo day with the other spelling, one whose record id is the canonical spelling. -/
def shadowing : DayRow :=
  ⟨some "6ba7b810-9dad-11d1-80b4-00c04fd430c8", "finals", "Finals", "beta.org",
    Status.upcoming.name, Instant.epoch, Instant.epoch⟩

def shadowed : Store := Store.misspelt.announced shadowing

theorem shadowed_migrated : shadowed.Migrated := by
  have migrated : Store.misspelt.Migrated := by
    refine Store.fresh_settled.toMigrated.announced ?_ fun other present => ?_
    · exact Schema.dayTable_fits_iff.mpr ⟨by decide, .upcoming, rfl⟩
    · exact absurd present List.not_mem_nil
  refine migrated.announced ?_ fun other present => ?_
  · exact Schema.dayTable_fits_iff.mpr ⟨by decide, .upcoming, rfl⟩
  · obtain rfl := List.mem_singleton.mp present
    exact ⟨by decide, by decide⟩

/-- The demo day under the canonical spelling is changed alone. -/
theorem confined_iff_canonical_shadowing :
    let outcome := ((move .live).perform "finals").run ⟨Instant.epoch, Uuid.ofNat 1⟩ shadowed
    ∃ day, shadowed.Migrated ∧ outcome.result = .ok day ∧
      (move .live).Confined "finals" shadowed outcome.store day := by
  intro outcome
  have present : shadowing ∈ shadowed.dayRows := List.mem_append_right _ List.mem_cons_self
  obtain ⟨day, returned, canonical⟩ :
      ∃ day, outcome.result = .ok day ∧ shadowing.id = some day.id.text := ⟨_, rfl, rfl⟩
  obtain ⟨named, listed, -, -, slug, -, -, -, -, confined⟩ :=
    confined_iff_canonical shadowed_migrated returned
  obtain rfl := shadowed_migrated.row_eq_of_slug listed present slug
  exact ⟨day, shadowed_migrated, returned, confined.mpr canonical⟩

/-- Asked to change the one demo day, by its status or by its host, the directory changes the other
and answers with it. -/
theorem shadowed_changes_other :
    let moment : Moment := ⟨Instant.epoch, Uuid.ofNat 1⟩
    shadowed.Migrated ∧ ∀ change ∈ [move .live, rehost "gamma.org"],
      let outcome := (change.perform "demo").run moment shadowed
      ∃ day, outcome.result = .ok day ∧ day.slug = "finals" ∧
        outcome.store.dayRows =
          Store.misspelt.dayRows ++ [change.revise moment.now shadowing] ∧
        ¬change.Confined "demo" shadowed outcome.store day := by
  intro moment
  refine ⟨shadowed_migrated, fun change asked => ?_⟩
  simp only [List.mem_cons, List.not_mem_nil, or_false] at asked
  rcases asked with rfl | rfl
  · refine ⟨_, rfl, rfl, rfl, fun confined => ?_⟩
    exact absurd confined.answer (by decide)
  · refine ⟨_, rfl, rfl, rfl, fun confined => ?_⟩
    exact absurd confined.answer (by decide)

end DayChange

end HostAccess
