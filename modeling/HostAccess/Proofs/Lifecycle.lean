import HostAccess.Proofs.Catalogue

/-! # The life of a demo day

A demo day is never lost, and what it is called and known by never changes. Its status moves forward
only, and its host stays as soon as it has gone live. Each commit revises at most the demo day that
its slug led to, so one comparison of demo days, which composes, carries over from commits to
runs. -/
namespace HostAccess

variable {s s' : Store} {moment : Moment}

/-- What a demo day may have become at a later point. -/
structure DemoDay.Continues (earlier later : DemoDay) : Prop where
  id : later.id = earlier.id
  slug : later.slug = earlier.slug
  name : later.name = earlier.name
  createdAt : later.createdAt = earlier.createdAt
  forward : earlier.status ≤ later.status
  fixed : earlier.status ≠ .upcoming → later.host = earlier.host

namespace DemoDay.Continues

theorem refl (day : DemoDay) : day.Continues day :=
  ⟨rfl, rfl, rfl, rfl, day.status.le_refl, fun _ => rfl⟩

theorem trans {a b c : DemoDay} (first : a.Continues b) (second : b.Continues c) :
    a.Continues c where
  id := second.id.trans first.id
  slug := second.slug.trans first.slug
  name := second.name.trans first.name
  createdAt := second.createdAt.trans first.createdAt
  forward := Status.le_trans first.forward second.forward
  fixed := by
    intro started
    -- A demo day that is no longer upcoming is not upcoming on the way either.
    have between : b.status ≠ .upcoming := Status.ne_upcoming_of_le started first.forward
    exact (second.fixed between).trans (first.fixed started)

end DemoDay.Continues

namespace Store

/-- No demo day of the first store is missing or set back in the second. -/
def Continues (s s' : Store) : Prop :=
  ∀ day ∈ s.catalogue, ∃ later ∈ s'.catalogue, day.Continues later

theorem Continues.refl (s : Store) : s.Continues s := fun day present => ⟨day, present, .refl day⟩

theorem Continues.trans {s'' : Store} (first : s.Continues s') (second : s'.Continues s'') :
    s.Continues s'' := by
  intro day present
  obtain ⟨middle, there, before⟩ := first day present
  obtain ⟨later, stillThere, after⟩ := second middle there
  exact ⟨later, stillThere, before.trans after⟩

/-- A demo day of the second store is one of the first, or it is new and upcoming. -/
def Arrives (s s' : Store) : Prop :=
  ∀ later ∈ s'.catalogue, (∃ day ∈ s.catalogue, day.Continues later) ∨ later.status = .upcoming

theorem continues_of_map {next : DemoDay → DemoDay} (left : s'.catalogue = s.catalogue.map next)
    (each : ∀ day ∈ s.catalogue, day.Continues (next day)) : s.Continues s' ∧ s.Arrives s' := by
  refine ⟨fun day present => ?_, fun later present => Or.inl ?_⟩
  · exact ⟨next day, left ▸ List.mem_map_of_mem present, each day present⟩
  · rw [left] at present
    obtain ⟨day, listed, rfl⟩ := List.mem_map.mp present
    exact ⟨day, listed, each day listed⟩

/-- A revision of the demo day of one id continues every demo day if it continues that one. -/
theorem continues_of_revision (migrated : s.Migrated) (catalogued : s.Catalogued)
    {current : DemoDay} (present : current ∈ s.catalogue) {revision : DemoDay → DemoDay}
    (left : s'.catalogue = s.catalogue.map fun day =>
      if day.id = current.id then revision day else day)
    (revised : current.Continues (revision current)) : s.Continues s' ∧ s.Arrives s' := by
  refine continues_of_map left fun day listed => ?_
  split
  next same => exact catalogued.eq_of_id migrated listed present same ▸ revised
  next => exact .refl day

theorem Commit.continues (migrated : s.Migrated) (catalogued : s.Catalogued)
    (commit : s.Commit moment s') : s.Continues s' ∧ s.Arrives s' := by
  obtain ⟨-, same | ⟨new, grown⟩ | ⟨current, present, status, allowed, revised⟩ |
    ⟨current, present, upcoming, host, revised⟩⟩ := commit.catalogue_cases migrated catalogued
  · exact continues_of_map (same.trans (List.map_id _).symm) fun day _ => .refl day
  · refine ⟨fun day present => ⟨day, grown ▸ List.mem_append_left _ present, .refl day⟩, ?_⟩
    intro later present
    rcases List.mem_append.mp (grown ▸ present) with old | added
    · exact Or.inl ⟨later, old, .refl later⟩
    · exact Or.inr (List.mem_singleton.mp added ▸ rfl)
  · refine continues_of_revision migrated catalogued present revised ?_
    exact ⟨rfl, rfl, rfl, rfl, Status.allows_iff.mp allowed, fun _ => rfl⟩
  · refine continues_of_revision migrated catalogued present revised ?_
    exact ⟨rfl, rfl, rfl, rfl, Status.le_refl _, fun started => absurd upcoming started⟩

/-- An operation that writes nothing loses and adds nothing, and one that commits is as good as its
commit. -/
theorem Settled.continues (settled : s.Settled) (catalogued : s.Catalogued) (operation : Operation)
    (moment : Moment) : s.Continues (operation.perform.run moment s).store ∧
      s.Arrives (operation.perform.run moment s).store := by
  rcases settled.perform_transactional operation moment with same | ⟨commit, -⟩
  · rw [same]
    exact ⟨.refl s, fun day present => Or.inl ⟨day, present, .refl day⟩⟩
  · exact commit.continues settled.toMigrated catalogued

end Store

theorem Run.continues (settled : s.Settled) (catalogued : s.Catalogued) (run : Run) :
    s.Continues (Run.finalStore s run) := by
  induction run generalizing s with
  | nil => exact .refl s
  | cons step rest ih =>
    obtain ⟨moment, operation⟩ := step
    obtain ⟨stillSettled, stillCatalogued⟩ := settled.perform_keeps
      (fun settled catalogued commit => (commit.catalogue_cases settled.toMigrated catalogued).1)
      catalogued operation moment
    exact (settled.continues catalogued operation moment).1.trans (ih stillSettled stillCatalogued)

/-- At every point of every run the rows of demo days are all understood, and no two have a slug or
an id in common. Of each that is there, the slug leads at every later point to the same demo day,
which has not moved back, and has not changed its host unless it was upcoming. What a single
operation adds is upcoming. -/
theorem Run.demo_day_lifecycle (earlier later : Run) :
    let s := Run.finalStore Store.fresh earlier
    let s' := Run.finalStore Store.fresh (earlier ++ later)
    (decodeDays s.dayRows = .ok s.catalogue ∧
      s.catalogue.Pairwise (fun a b => a.slug ≠ b.slug ∧ a.id ≠ b.id) ∧
      ∀ day ∈ s.catalogue, day.slug ≠ "" ∧ DemoDays.find day.slug s = .ok day) ∧
    (∀ slug day, DemoDays.find slug s = .ok day →
      ∃ day', DemoDays.find slug s' = .ok day' ∧ day.Continues day') ∧
    ∀ (moment : Moment) (operation : Operation),
      ∀ day ∈ (operation.perform.run moment s).store.catalogue,
        (∃ before ∈ s.catalogue, before.Continues day) ∨ day.status = .upcoming := by
  intro s s'
  have settled := Run.finalStore_settled Store.fresh_settled earlier
  have catalogued := Run.finalStore_catalogued earlier
  have laterSettled := Run.finalStore_settled Store.fresh_settled (earlier ++ later)
  have laterCatalogued := Run.finalStore_catalogued (earlier ++ later)
  refine ⟨⟨catalogued.decodeDays_rows, catalogued.apart settled.toMigrated, fun day present => ?_⟩,
    fun slug day found => ?_, fun moment operation => ?_⟩
  · exact ⟨catalogued.named day present,
      (catalogued.find_eq_ok_iff settled.toMigrated).mpr ⟨present, rfl⟩⟩
  · obtain ⟨present, rfl⟩ := (catalogued.find_eq_ok_iff settled.toMigrated).mp found
    have continues : s.Continues s' := by
      rw [show s' = Run.finalStore s later from Run.finalStore_append _ earlier later]
      exact Run.continues settled catalogued later
    obtain ⟨day', there, after⟩ := continues day present
    exact ⟨day', (laterCatalogued.find_eq_ok_iff laterSettled.toMigrated).mpr ⟨there, after.slug⟩,
      after⟩
  · exact (settled.continues catalogued operation moment).2

/-- A demo day is announced, then goes live, and is kept from moving to another host. -/
def Run.launch : Run × Run :=
  let moment : Moment := ⟨Instant.epoch, Uuid.ofNat 1⟩
  ([(moment, .createDay ⟨"demo", "Demo", "acme.org"⟩)],
    [(moment, .updateStatus "demo" .live), (moment, .updateHost "demo" "other.org")])

theorem Run.demo_day_lifecycle_launch :
    let (earlier, later) := launch
    let day : DemoDay := ⟨Uuid.ofNat 1, "demo", "Demo", "acme.org", .upcoming, Instant.epoch,
      Instant.epoch⟩
    DemoDays.find "demo" (Run.finalStore Store.fresh earlier) = .ok day ∧
      ∃ day', DemoDays.find "demo" (Run.finalStore Store.fresh (earlier ++ later)) = .ok day' ∧
        day.Continues day' ∧ day'.status = .live := by
  have found : DemoDays.find "demo" (Run.finalStore Store.fresh launch.1) =
      .ok ⟨Uuid.ofNat 1, "demo", "Demo", "acme.org", .upcoming, Instant.epoch, Instant.epoch⟩ := by
    rfl
  have live : DemoDays.find "demo" (Run.finalStore Store.fresh (launch.1 ++ launch.2)) =
      .ok ⟨Uuid.ofNat 1, "demo", "Demo", "acme.org", .live, Instant.epoch, Instant.epoch⟩ := by
    rfl
  obtain ⟨-, continues, -⟩ := demo_day_lifecycle launch.1 launch.2
  obtain ⟨day', found', after⟩ := continues "demo" _ found
  refine ⟨found, day', found', after, ?_⟩
  rw [live] at found'
  exact Except.ok.inj found' ▸ rfl

end HostAccess
