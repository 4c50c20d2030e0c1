import HostAccess.Proofs.Creations

/-! # Demo days by host

The lists of the hosts take the demo days apart: each demo day is in the list of its host and in no
other one, and each list is in the order of creation. No change of a demo day moves it within this
order. One that is given another host leaves a list for another one, at the place that its creation
has there, and all other lists stay as they are. -/
namespace HostAccess

variable {s : Store} {moment : Moment}

/-! ## Lists of hosts -/

/-- The lists of the hosts are parts of this list of demo days. -/
structure Store.Hosted (s : Store) (days : List DemoDay) : Prop where
  /-- Demo days of the list are what is found under slugs. -/
  found : ∀ slug day, DemoDays.find slug s = .ok day ↔ day ∈ days ∧ day.slug = slug
  once : (days.map DemoDay.slug).Nodup
  onHost : ∀ host, DemoDays.onHost host s = .ok (days.filter (·.host == host))
  /-- Each demo day is in the list of one host and of no other. -/
  parted : ∀ day ∈ days, ∀ host,
    (∃ listed, DemoDays.onHost host s = .ok listed ∧ day ∈ listed) ↔ host = day.host

namespace Store.Catalogued

variable (catalogued : s.Catalogued)

include catalogued

variable (migrated : s.Migrated) {days : List DemoDay} (same : days.Perm s.catalogue)
  (inTurn : days.Pairwise (·.createdAt < ·.createdAt))

include migrated same inTurn

/-- The rows may be stored in any order. A list shows them by their times. -/
theorem onHost_inTurn (host : String) :
    DemoDays.onHost host s = .ok (days.filter (·.host == host)) := by
  have rows : s.dayRows.filter (·.host == host) =
      (s.catalogue.filter (·.host == host)).map DemoDay.row := by
    rw [catalogued.rows, List.filter_map]
    rfl
  have ordered : ((days.filter (·.host == host)).map DemoDay.row).Pairwise
      fun a b => a.createdAt < b.createdAt :=
    List.pairwise_map.mpr (inTurn.sublist List.filter_sublist)
  rw [DemoDays.onHost, mapError_eq_ok_iff, migrated.readDays, ok_bind]
  simp only [Schema.dayTable]
  rw [rows, mergeSort_of_inTurn ((same.filter _).map _) ordered, decodeDays_map_row]

theorem hosted : s.Hosted days where
  found _ _ := by rw [catalogued.find_eq_ok_iff migrated, same.mem_iff]
  once := (same.map DemoDay.slug).nodup_iff.mpr
    (List.pairwise_map.mpr ((catalogued.apart migrated).imp fun apart => apart.1))
  onHost := catalogued.onHost_inTurn migrated same inTurn
  parted day present host := by
    rw [catalogued.onHost_inTurn migrated same inTurn]
    constructor
    · rintro ⟨_, ⟨⟩, listed⟩
      exact (by simpa using (List.mem_filter.mp listed).2 : day.host = host).symm
    · rintro rfl
      exact ⟨_, rfl, List.mem_filter.mpr ⟨present, beq_self_eq_true _⟩⟩

end Store.Catalogued

/-! ## Moves -/

/-- The demo day after it was moved to another host. -/
def DemoDay.movedTo (day : DemoDay) (host : String) (now : Instant) : DemoDay :=
  { day with host := host, updatedAt := now }

/-- The lists of the hosts after a demo day was moved. -/
structure DemoDay.Moves (current day : DemoDay) (s s' : Store) : Prop where
  others : ∀ host, host ≠ current.host → host ≠ day.host →
    DemoDays.onHost host s' = DemoDays.onHost host s
  left : current.host ≠ day.host → ∃ listed, DemoDays.onHost current.host s = .ok listed ∧
    current ∈ listed ∧
      DemoDays.onHost current.host s' = .ok (listed.filter (·.slug != current.slug))
  entered : ∃ before after, DemoDays.onHost day.host s = .ok before ∧
    DemoDays.onHost day.host s' = .ok after ∧ day ∈ after ∧
      after.filter (·.slug != current.slug) = before.filter (·.slug != current.slug)

/-- To look for what a change does not touch is to look for it before the change. -/
theorem filter_map_untouched {α : Type} {p q : α → Bool} {f : α → α} {items : List α}
    (untouched : ∀ a ∈ items, f a = a ∧ p a = q a ∨ p (f a) = false ∧ q a = false) :
    (items.map f).filter p = items.filter q := by
  induction items with
  | nil => rfl
  | cons a rest ih =>
    have others := ih fun b later => untouched b (List.mem_cons_of_mem _ later)
    rw [List.map_cons, List.filter_cons, List.filter_cons, others]
    rcases untouched a List.mem_cons_self with ⟨fixed, same⟩ | ⟨gone, absent⟩
    · rw [fixed, same]
    · rw [gone, absent, if_neg Bool.false_ne_true, if_neg Bool.false_ne_true]

/-- The store after the demo day under an id was moved to another host. -/
def Store.rehosted (s : Store) (id : Uuid) (host : String) (now : Instant) : Store :=
  s.edited id ({ · with host := host }) now

/-- A move leaves the demo days in the order that they are in. -/
theorem DemoDay.inTurn_moved {days : List DemoDay}
    (inTurn : days.Pairwise (·.createdAt < ·.createdAt)) (id : Uuid) (host : String)
    (now : Instant) :
    (days.map fun day => if day.id = id then day.movedTo host now else day).Pairwise
      (·.createdAt < ·.createdAt) := by
  have kept (day : DemoDay) :
      (if day.id = id then day.movedTo host now else day).createdAt = day.createdAt := by
    split <;> rfl
  refine List.pairwise_map.mpr (inTurn.imp fun before => ?_)
  rwa [kept, kept]

namespace Store.Catalogued

variable (catalogued : s.Catalogued)

include catalogued

theorem rehosted (id : Uuid) (host : String) (now : Instant) :
    (s.rehosted id host now).catalogue =
        s.catalogue.map (fun day => if day.id = id then day.movedTo host now else day) ∧
      (s.rehosted id host now).Catalogued :=
  catalogued.edited _ (·.movedTo host now) (fun _ => rfl) (fun _ => rfl) id

variable (migrated : s.Migrated) {days : List DemoDay} (same : days.Perm s.catalogue)
  {current : DemoDay} (present : current ∈ s.catalogue) {host : String} {now : Instant}

include migrated same present

/-- Where neither the demo day that moved nor what it was is let through, only the others are to be
compared. -/
theorem filter_moved {p q : DemoDay → Bool} (gone : p (current.movedTo host now) = false)
    (absent : q current = false)
    (others : ∀ day : DemoDay, day.slug ≠ current.slug → p day = q day) :
    (days.map fun day => if day.id = current.id then day.movedTo host now else day).filter p =
      days.filter q := by
  refine filter_map_untouched fun day listed => ?_
  have stored : day ∈ s.catalogue := same.mem_iff.mp listed
  -- The row to be changed is chosen by its id, and the lists are compared by slugs.
  by_cases own : day.id = current.id
  · obtain rfl := catalogued.eq_of_id migrated stored present own
    rw [if_pos rfl]
    exact Or.inr ⟨gone, absent⟩
  · have other : day.slug ≠ current.slug := fun named =>
      own (congrArg DemoDay.id (catalogued.eq_of_slug migrated stored present named))
    exact Or.inl ⟨if_neg own, others day other⟩

theorem moves (inTurn : days.Pairwise (·.createdAt < ·.createdAt))
    (after : (s.rehosted current.id host now).Migrated) :
    current.Moves (current.movedTo host now) s (s.rehosted current.id host now) := by
  obtain ⟨revised, still⟩ := catalogued.rehosted current.id host now
  have lists := catalogued.onHost_inTurn migrated same inTurn
  have lists' := still.onHost_inTurn after (revised ▸ same.map _)
    (DemoDay.inTurn_moved inTurn current.id host now)
  constructor
  case others =>
    intro of notOld notNew
    rw [lists, lists']
    refine congrArg Except.ok (catalogued.filter_moved migrated same present ?_ ?_ fun _ _ => rfl)
    · exact beq_eq_false_iff_ne.mpr notNew.symm
    · exact beq_eq_false_iff_ne.mpr notOld.symm
  case left =>
    intro apart
    refine ⟨_, lists current.host, by simp [same.mem_iff, present], ?_⟩
    rw [lists', List.filter_filter]
    -- No demo day is left out of the new list for its slug, as the one that has it is not there.
    refine congrArg Except.ok (catalogued.filter_moved migrated same present ?_ ?_ ?_)
    · exact beq_eq_false_iff_ne.mpr apart.symm
    · simp
    · intro day other
      simp [other]
  case entered =>
    refine ⟨_, _, lists host, lists' host, List.mem_filter.mpr ⟨?_, beq_self_eq_true _⟩, ?_⟩
    · exact List.mem_map.mpr ⟨current, same.mem_iff.mpr present, if_pos rfl⟩
    · rw [List.filter_filter, List.filter_filter]
      refine catalogued.filter_moved migrated same present ?_ ?_ fun _ _ => rfl
      · simp [DemoDay.movedTo]
      · simp

end Store.Catalogued

/-- The demo days are listed by their hosts, all of them, each once and in the order of creation. A
change of a host moves one demo day from the list of one host to that of another. -/
theorem Run.hosts_partition (run : Run) (inTurn : run.DaysInTurn) :
    let s := Run.finalStore Store.fresh run
    ∃ days : List DemoDay,
      days.map DemoDay.creation = (run.succeeded Store.fresh).daysCreated ∧ s.Hosted days ∧
        ∀ moment slug host day,
          ((DemoDays.updateHost slug host).run moment s).result = .ok day →
            ∃ current ∈ days, current.slug = slug ∧ day = current.movedTo host moment.now ∧
              current.Moves day s ((DemoDays.updateHost slug host).run moment s).store := by
  intro s
  have settled : s.Settled := finalStore_settled Store.fresh_settled run
  have catalogued : s.Catalogued := finalStore_catalogued run
  have ordered : s.catalogue.Pairwise (·.createdAt < ·.createdAt) := catalogue_inTurn inTurn
  refine ⟨_, days_fresh run, catalogued.hosted settled.toMigrated (.refl _) ordered, ?_⟩
  intro moment slug host day returned
  obtain ⟨current, present, named, answer, left⟩ :=
    catalogued.updateHost_leaves settled.toMigrated returned
  refine ⟨current, present, named, answer, ?_⟩
  have after := (settled.performed (.updateHost slug host) moment).toMigrated
  rw [Operation.perform, Operation.answering_store, left] at after
  rw [answer, left]
  exact catalogued.moves settled.toMigrated (.refl _) present ordered after

/-- Three demo days are announced, and the second one goes live. -/
def Run.season : Run :=
  [(.tick 1, .createDay ⟨"spring", "Spring", "acme.org"⟩),
    (.tick 2, .createDay ⟨"summer", "Summer", "acme.org"⟩),
    (.tick 3, .createDay ⟨"autumn", "Autumn", "beta.org"⟩),
    (.tick 4, .updateStatus "summer" .live)]

/-- The first one moves to the host of the third. -/
theorem Run.hosts_partition_season :
    season.DaysInTurn ∧
      let s := Run.finalStore Store.fresh season
      let move := (DemoDays.updateHost "spring" "beta.org").run (.tick 5) s
      ∃ days : List DemoDay,
        days.map DemoDay.creation = [⟨"spring", (Moment.tick 1).now⟩,
          ⟨"summer", (Moment.tick 2).now⟩, ⟨"autumn", (Moment.tick 3).now⟩] ∧ s.Hosted days ∧
        ∃ current ∈ days, ∃ day, move.result = .ok day ∧ current.slug = "spring" ∧
          day.host = "beta.org" ∧ current.Moves day s move.store := by
  have created : (season.succeeded Store.fresh).daysCreated = [⟨"spring", (Moment.tick 1).now⟩,
      ⟨"summer", (Moment.tick 2).now⟩, ⟨"autumn", (Moment.tick 3).now⟩] := by rfl
  have inTurn : season.DaysInTurn := by
    rw [DaysInTurn, created]
    decide
  have returned : ((DemoDays.updateHost "spring" "beta.org").run (.tick 5)
      (Run.finalStore Store.fresh season)).result =
        .ok ⟨Uuid.ofNat 1, "spring", "Spring", "beta.org", .upcoming, (Moment.tick 1).now,
          (Moment.tick 5).now⟩ := by rfl
  obtain ⟨days, history, hosted, moves⟩ := hosts_partition season inTurn
  obtain ⟨current, present, named, -, moved⟩ := moves _ _ _ _ returned
  exact ⟨inTurn, days, history.trans created, hosted, current, present, _, returned, named, rfl,
    moved⟩

end HostAccess
