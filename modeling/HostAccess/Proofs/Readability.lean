import Mathlib.Algebra.Group.Nat.Defs
import HostAccess.Proofs.ReadPaths

/-! # Stored rows can be read

Names of roles, types and statuses and the ids of demo days are stored as text, and are understood
by other code than wrote them. The reads answer with a fault of the store where they do not
understand a row. No run comes to such a row: what the operations write is understood, as what it
was before it was written. -/
namespace HostAccess

variable {s : Store} {moment : Moment}

namespace Store

/-- Every row holds the written forms of values, and is understood as these values. -/
structure Readable (s : Store) : Prop where
  roles : ∀ row ∈ s.roleRows, ∃ role : Role,
    row.roleName = role.name ∧ decodeRole row.roleName = .ok role
  scopes : ∀ row ∈ s.scopeRows, ∃ type : ScopeType,
    row.scopeType = type.name ∧ row.decode = .ok ⟨row.memberUid, type, row.scopeValue⟩
  days : ∀ row ∈ s.dayRows, ∃ (id : Uuid) (status : Status),
    row.id = some id.text ∧ row.status = status.name ∧
      row.decode = .ok
        ⟨id, row.slug, row.name, row.host, status, row.createdAt, row.updatedAt⟩

theorem Migrated.readable (migrated : s.Migrated) (catalogued : s.Catalogued) : s.Readable where
  roles := by
    intro row present
    obtain ⟨role, named⟩ := migrated.roleName_registered present
    exact ⟨role, named.symm, decodeRole_eq_ok_iff.mpr named⟩
  scopes := by
    intro row present
    have typed := (migrated.scope_wellFormed present).1
    refine ⟨.host, typed, ?_⟩
    rw [ScopeRow.decode, typed, ScopeType.ofName?_name]
  days := by
    intro row present
    rw [catalogued.rows] at present
    obtain ⟨day, -, rfl⟩ := List.mem_map.mp present
    exact ⟨day.id, day.status, rfl, rfl, day.decode_row⟩

end Store

/-! ## Answers to reads -/

namespace Operation

/-- A read, of arguments that the store can be asked about. -/
inductive Reads : Operation → Prop
  | findMember {uid : String} (named : uid ≠ "") : Reads (.findMember uid)
  | isMember {uid : String} (named : uid ≠ "") : Reads (.isMember uid)
  | listMembers {window : Pagination} (offset : window.offset ≤ 2 ^ 63 - 1)
      (limit : window.limit ≤ 2 ^ 63 - 1) : Reads (.listMembers window)
  | rolesOf (uid : String) : Reads (.rolesOf uid)
  | holdersOf (role : Role) : Reads (.holdersOf role)
  | scopesOf (uid : String) : Reads (.scopesOf uid)
  | hostsOf (uid : String) : Reads (.hostsOf uid)
  | storedGrants (uid : String) : Reads (.storedGrants uid)
  | hostsIfHeld (uid : String) (role : Role) : Reads (.hostsIfHeld uid role)
  | findDay (slug : String) : Reads (.findDay slug)
  | daysOn (host : String) : Reads (.daysOn host)

end Operation

/-- There is an answer, or there is no such record. -/
def Answered (result : Except Failure Answer) : Prop :=
  (∃ answer, result = .ok answer) ∨ ∃ entity id, result = .error (.error (.notFound entity id))

theorem Operation.reading_answered {α : Type} {answer : α → Answer} {query : Store → Except Error α}
    (found : (∃ a, query s = .ok a) ∨ ∃ entity id, query s = .error (.notFound entity id)) :
    Answered ((reading answer query).run moment s).result := by
  rw [reading, answering, Action.run_map, Action.run_read]
  rcases found with ⟨a, found⟩ | ⟨entity, id, missing⟩
  · exact Or.inl ⟨answer a, by rw [found]; rfl⟩
  · exact Or.inr ⟨entity, id, by rw [missing]; rfl⟩

theorem decodeDays_total {rows : List DayRow}
    (readable : ∀ row ∈ rows, ∃ day, row.decode = .ok day) :
    ∃ days, decodeDays rows = .ok days := by
  induction rows with
  | nil => exact ⟨[], rfl⟩
  | cons row rest ih =>
    obtain ⟨day, decoded⟩ := readable row List.mem_cons_self
    obtain ⟨days, others⟩ := ih fun other later => readable other (List.mem_cons_of_mem _ later)
    exact ⟨day :: days, by rw [decodeDays, decoded, others]; rfl⟩

namespace Store.Migrated

variable (migrated : s.Migrated)

include migrated

theorem find_answered {uid : String} (named : uid ≠ "") :
    (∃ m, Members.find uid s = .ok m) ∨
      ∃ entity id, Members.find uid s = .error (.notFound entity id) := by
  rw [migrated.find_member, if_neg named]
  cases s.memberRows.find? (·.uid == uid) with
  | none => exact Or.inr ⟨_, _, rfl⟩
  | some m => exact Or.inl ⟨m, rfl⟩

theorem list_read {window : Pagination} (offset : window.offset ≤ 2 ^ 63 - 1)
    (limit : window.limit ≤ 2 ^ 63 - 1) :
    Members.list window s =
      .ok ⟨((s.memberRows.mergeSort fun a b => a.createdAt.atMost b.createdAt).drop
        window.offset).take window.limit, s.memberRows.length, window.offset, window.limit⟩ := by
  have within : ¬(Members.maxWindow < window.limit ∨ Members.maxWindow < window.offset) := by
    unfold Members.maxWindow
    omega
  rw [Members.list, Members.page, migrated.readMembers, ok_bind, if_neg within]
  rfl

theorem onHost_answered (readable : s.Readable) (host : String) :
    ∃ days, DemoDays.onHost host s = .ok days := by
  have rows : ∀ row ∈ (s.dayRows.filter (·.host == host)).mergeSort
      fun a b => a.createdAt.atMost b.createdAt, ∃ day, row.decode = .ok day := by
    intro row listed
    have present := (List.mem_filter.mp (List.mem_mergeSort.mp listed)).1
    obtain ⟨id, status, -, -, decoded⟩ := readable.days row present
    exact ⟨_, decoded⟩
  obtain ⟨days, decoded⟩ := decodeDays_total rows
  refine ⟨days, mapError_eq_ok_iff.mpr ?_⟩
  rw [migrated.readDays]
  exact decoded

theorem read_answered (catalogued : s.Catalogued) {operation : Operation}
    (reads : operation.Reads) (moment : Moment) :
    Answered (operation.perform.run moment s).result := by
  have readable := migrated.readable catalogued
  cases reads with
  | findMember named => exact Operation.reading_answered (migrated.find_answered named)
  | isMember named =>
    exact Operation.reading_answered (Or.inl ⟨_, by rw [Members.isMember_eq, if_neg named]⟩)
  | listMembers offset limit =>
    exact Operation.reading_answered (Or.inl ⟨_, migrated.list_read offset limit⟩)
  | rolesOf uid => exact Operation.reading_answered (Or.inl ⟨_, migrated.roles_read uid⟩)
  | holdersOf role =>
    obtain ⟨uids, read, -⟩ := migrated.holders_read role
    exact Operation.reading_answered (Or.inl ⟨uids, read⟩)
  | scopesOf uid => exact Operation.reading_answered (Or.inl ⟨_, migrated.scopes_read uid⟩)
  | hostsOf uid => exact Operation.reading_answered (Or.inl ⟨_, migrated.hosts_read uid⟩)
  | storedGrants uid => exact Operation.reading_answered (Or.inl ⟨_, migrated.grants_read uid⟩)
  | hostsIfHeld uid role =>
    exact Operation.reading_answered (Or.inl ⟨_, migrated.hostsIfHeld_read uid role⟩)
  | findDay slug =>
    refine Operation.reading_answered ?_
    rw [catalogued.find_eq migrated]
    cases s.catalogue.find? (·.slug == slug) with
    | none => exact Or.inr ⟨_, _, rfl⟩
    | some day => exact Or.inl ⟨day, rfl⟩
  | daysOn host =>
    exact Operation.reading_answered (Or.inl (migrated.onHost_answered readable host))

/-- To delete a member is to look for it first. -/
theorem delete_answered {uid : String} (named : uid ≠ "") (moment : Moment) :
    Answered ((Operation.deleteMember uid).perform.run moment s).result := by
  rw [Operation.perform, Operation.doing, Operation.answering, Action.run_map,
    Members.run_delete migrated, if_neg named]
  split
  next => exact Or.inl ⟨_, rfl⟩
  next => exact Or.inr ⟨_, _, rfl⟩

end Store.Migrated

/-! ## What was written is read -/

/-- The dimensions that a change of grants names are read as it names them. -/
structure Store.Shows (s : Store) (uid : String) (change : GrantChange) : Prop where
  roles : ∀ roles, change.roles = some roles → Roles.ofMember uid s = .ok roles
  hosts : ∀ hosts, change.hosts = some hosts → Scopes.hosts uid s = .ok hosts
  scopes : ∀ hosts, change.hosts = some hosts → Scopes.ofMember uid s =
    .ok (OrderedSet.ofList (hosts.toList.map fun host => ⟨uid, .host, host⟩))

/-- What an operation has written is read from the store that it leaves, as it was written. -/
def Operation.Recovers (moment : Moment) (after : Store) : Operation → Answer → Prop
  | .createMember new, answer => ∃ m, answer = .member m ∧ m.uid = new.uid ∧ m.name = new.name ∧
      m.email = new.email ∧ Members.find new.uid after = .ok m
  | .replaceRoles uid roles, _ => after.Shows uid ⟨some roles, none⟩
  | .replaceScopes uid _ values, _ => after.Shows uid ⟨none, some values⟩
  | .applyGrants uid change, _ => after.Shows uid change
  | .assign settings uid request, _ =>
    ∃ change, Assignment.plan settings request = .ok change ∧ after.Shows uid change
  | .createDay new, answer => ∃ day, answer = .day day ∧ day.id = moment.id ∧
      day.slug = new.slug ∧ day.name = new.name ∧ day.host = new.host ∧ day.status = .upcoming ∧
      DemoDays.find new.slug after = .ok day
  | .updateStatus slug status, answer => ∃ day, answer = .day day ∧ day.status = status ∧
      DemoDays.find slug after = .ok day
  | .updateHost slug host, answer => ∃ day, answer = .day day ∧ day.host = host ∧
      DemoDays.find slug after = .ok day
  | _, _ => True

theorem Store.shows_silent (s : Store) (uid : String) {change : GrantChange}
    (silent : change.isEmpty = true) : s.Shows uid change := by
  obtain ⟨roles, hosts⟩ := change
  cases roles <;> cases hosts <;> simp [GrantChange.isEmpty] at silent
  exact ⟨nofun, nofun, nofun⟩

namespace Store.Migrated

variable (migrated : s.Migrated)

include migrated

theorem shows_granted {s' : Store} {uid : String} {change : GrantChange}
    (written : s.putGrants uid change moment.now = .ok s') : s'.Shows uid change := by
  obtain ⟨⟨-, -, named⟩, rfl⟩ := migrated.putGrants_eq_ok_iff.mp written
  have after : (s.granted uid change moment.now).Migrated := migrated.granted named
  refine ⟨?_, ?_, ?_⟩
  · intro roles supplied
    rw [after.roles_read, rolesOf_granted, if_pos rfl, supplied, Option.getD_some]
  · intro hosts supplied
    rw [after.hosts_read, hostsOf_granted, if_pos rfl, supplied, Option.getD_some]
  · intro hosts supplied
    rw [after.scopes_read, hostsOf_granted, if_pos rfl, supplied, Option.getD_some]

theorem shows_write {uid : String} {change : GrantChange}
    (returned : ((Grants.write uid change).run moment s).result = .ok ()) :
    ((Grants.write uid change).run moment s).store.Shows uid change := by
  rw [Grants.run_write] at returned ⊢
  cases written : s.putGrants uid change moment.now with
  | error e =>
    rw [written] at returned
    cases returned
  | ok s' => exact migrated.shows_granted written

theorem shows_apply {uid : String} {change : GrantChange}
    (returned : ((Grants.apply uid change).run moment s).result = .ok ()) :
    ((Grants.apply uid change).run moment s).store.Shows uid change := by
  rw [Grants.run_apply] at returned ⊢
  split
  next silent => exact Store.shows_silent _ uid silent
  next asked =>
    rw [if_neg asked] at returned
    cases written : s.putGrants uid change moment.now with
    | error e =>
      rw [written] at returned
      cases returned
    | ok s' => exact migrated.shows_granted written

theorem shows_update {settings : Settings} {uid : String} {request : GrantRequest}
    (returned : ((Assignment.update settings uid request).run moment s).result = .ok ()) :
    ∃ change, Assignment.plan settings request = .ok change ∧
      ((Assignment.update settings uid request).run moment s).store.Shows uid change := by
  obtain ⟨change, planned, demanded, left⟩ := Assignment.updated migrated returned
  refine ⟨change, planned, ?_⟩
  rw [left]
  split
  next silent => exact Store.shows_silent _ uid silent
  next =>
    exact migrated.shows_granted (Assignment.putGrants_planned migrated planned demanded moment.now)

theorem create_recovers {new : NewMember} {m : Member}
    (returned : ((Members.create new).run moment s).result = .ok m) :
    m = new.row moment.now ∧
      Members.find new.uid ((Members.create new).run moment s).store = .ok m := by
  rw [Members.run_create migrated] at returned ⊢
  by_cases nameless : new.uid = ""
  · rw [if_pos nameless] at returned
    cases returned
  rw [if_neg nameless] at returned ⊢
  by_cases taken : Members.present s new.uid = true
  · rw [if_pos taken] at returned
    cases returned
  rw [if_neg taken] at returned ⊢
  cases returned
  exact ⟨rfl, Members.find_joined (m := new.row moment.now) nameless (mt present_iff.mpr taken)⟩

theorem createDay_leaves {new : NewDemoDay} {day : DemoDay}
    (returned : ((DemoDays.create new).run moment s).result = .ok day) :
    day = new.day moment ∧ new.slug ≠ "" ∧
      ((DemoDays.create new).run moment s).store = s.announced (new.row moment) := by
  rw [DemoDays.run_create migrated] at returned ⊢
  cases valid : Host.validateConcrete new.host with
  | error e =>
    rw [valid] at returned
    cases returned
  | ok =>
    rw [valid] at returned
    dsimp only at returned ⊢
    by_cases nameless : new.slug = ""
    · rw [if_pos nameless] at returned
      cases returned
    rw [if_neg nameless] at returned ⊢
    cases free : DemoDays.demandFree new.slug s with
    | error e =>
      rw [free] at returned
      cases returned
    | ok =>
      rw [free] at returned
      cases added : DemoDays.add new moment s with
      | error refusal =>
        rw [added] at returned
        cases returned
      | ok s' =>
        rw [added] at returned
        obtain ⟨-, rfl⟩ := migrated.add_day_eq_ok_iff.mp added
        cases returned
        exact ⟨rfl, nameless, rfl⟩

end Store.Migrated

namespace Store.Catalogued

variable (catalogued : s.Catalogued)

include catalogued

theorem find_announced {new : NewDemoDay} (migrated : (s.announced (new.row moment)).Migrated)
    (named : new.slug ≠ "") :
    DemoDays.find new.slug (s.announced (new.row moment)) = .ok (new.day moment) := by
  obtain ⟨grown, still⟩ := catalogued.announced moment new
  refine ((still named).find_eq_ok_iff migrated).mpr ⟨?_, rfl⟩
  rw [grown]
  exact List.mem_append_right _ (List.mem_singleton_self _)

/-- A demo day that was revised is found under its slug as what it was made. -/
theorem find_edited {current : DemoDay} (present : current ∈ s.catalogue) {edit : DayRow → DayRow}
    {now : Instant} (migrated : (s.edited current.id edit now).Migrated)
    (revision : DemoDay → DemoDay) (keeps : ∀ day, (revision day).slug = day.slug)
    (revises : ∀ day : DemoDay, { edit day.row with updatedAt := now } = (revision day).row) :
    DemoDays.find current.slug (s.edited current.id edit now) = .ok (revision current) := by
  obtain ⟨left, still⟩ := catalogued.edited edit revision keeps revises current.id
  refine (still.find_eq_ok_iff migrated).mpr ⟨?_, keeps current⟩
  rw [left]
  exact List.mem_map.mpr ⟨current, present, if_pos rfl⟩

theorem updateStatus_leaves (migrated : s.Migrated) {slug : String} {status : Status}
    {day : DemoDay}
    (returned : ((DemoDays.updateStatus slug status).run moment s).result = .ok day) :
    ∃ current ∈ s.catalogue, current.slug = slug ∧
      day = { current with status := status, updatedAt := moment.now } ∧
      ((DemoDays.updateStatus slug status).run moment s).store =
        s.edited current.id ({ · with status := status.name }) moment.now := by
  rw [catalogued.run_updateStatus migrated] at returned ⊢
  cases found : s.catalogue.find? (·.slug == slug) with
  | none =>
    rw [found] at returned
    cases returned
  | some current =>
    rw [found] at returned
    dsimp only at returned ⊢
    by_cases allowed : current.status.allows status = true
    · rw [if_pos allowed] at returned ⊢
      cases returned
      obtain ⟨present, named⟩ := Table.of_find?_key found
      exact ⟨current, present, named, rfl, rfl⟩
    · rw [if_neg allowed] at returned
      cases returned

theorem updateHost_leaves (migrated : s.Migrated) {slug host : String} {day : DemoDay}
    (returned : ((DemoDays.updateHost slug host).run moment s).result = .ok day) :
    ∃ current ∈ s.catalogue, current.slug = slug ∧
      day = { current with host := host, updatedAt := moment.now } ∧
      ((DemoDays.updateHost slug host).run moment s).store =
        s.edited current.id ({ · with host := host }) moment.now := by
  rw [catalogued.run_updateHost migrated] at returned ⊢
  cases valid : Host.validateConcrete host with
  | error e =>
    rw [valid] at returned
    cases returned
  | ok =>
    rw [valid] at returned
    cases found : s.catalogue.find? (·.slug == slug) with
    | none =>
      rw [found] at returned
      cases returned
    | some current =>
      rw [found] at returned
      dsimp only at returned ⊢
      by_cases upcoming : current.status = .upcoming
      · rw [if_pos upcoming] at returned ⊢
        cases returned
        obtain ⟨present, named⟩ := Table.of_find?_key found
        exact ⟨current, present, named, rfl, rfl⟩
      · rw [if_neg upcoming] at returned
        cases returned

end Store.Catalogued

/-- An operation that succeeds can be asked for what it has written. -/
theorem Operation.recovers (settled : s.Settled) (catalogued : s.Catalogued)
    {operation : Operation} {answer : Answer}
    (answered : (operation.perform.run moment s).result = .ok answer) :
    operation.Recovers moment (operation.perform.run moment s).store answer := by
  have migrated := settled.toMigrated
  have after := (settled.performed operation moment).toMigrated
  cases operation with
  | createMember new =>
    rw [perform, answering_eq_ok_iff] at answered
    obtain ⟨m, returned, rfl⟩ := answered
    obtain ⟨rfl, found⟩ := migrated.create_recovers returned
    rw [perform, answering_store]
    exact ⟨_, rfl, rfl, rfl, rfl, found⟩
  | replaceRoles uid roles =>
    rw [perform, doing, Roles.replace_eq_write, answering_eq_ok_iff] at answered
    obtain ⟨⟨⟩, returned, -⟩ := answered
    rw [perform, doing, Roles.replace_eq_write, answering_store]
    exact migrated.shows_write returned
  | replaceScopes uid type values =>
    rw [perform, doing, Scopes.replace_eq_write, answering_eq_ok_iff] at answered
    obtain ⟨⟨⟩, returned, -⟩ := answered
    rw [perform, doing, Scopes.replace_eq_write, answering_store]
    exact migrated.shows_write returned
  | applyGrants uid change =>
    rw [perform, doing, answering_eq_ok_iff] at answered
    obtain ⟨⟨⟩, returned, -⟩ := answered
    rw [perform, doing, answering_store]
    exact migrated.shows_apply returned
  | assign settings uid request =>
    rw [perform, doing, answering_eq_ok_iff] at answered
    obtain ⟨⟨⟩, returned, -⟩ := answered
    rw [perform, doing, answering_store]
    exact migrated.shows_update returned
  | createDay new =>
    rw [perform, answering_eq_ok_iff] at answered
    obtain ⟨day, returned, rfl⟩ := answered
    obtain ⟨rfl, named, left⟩ := migrated.createDay_leaves returned
    rw [perform, answering_store, left] at after ⊢
    exact ⟨_, rfl, rfl, rfl, rfl, rfl, rfl, catalogued.find_announced after named⟩
  | updateStatus slug status =>
    rw [perform, answering_eq_ok_iff] at answered
    obtain ⟨day, returned, rfl⟩ := answered
    obtain ⟨current, present, rfl, rfl, left⟩ := catalogued.updateStatus_leaves migrated returned
    rw [perform, answering_store, left] at after ⊢
    exact ⟨_, rfl, rfl, catalogued.find_edited present after
      ({ · with status := status, updatedAt := moment.now }) (fun _ => rfl) fun _ => rfl⟩
  | updateHost slug host =>
    rw [perform, answering_eq_ok_iff] at answered
    obtain ⟨day, returned, rfl⟩ := answered
    obtain ⟨current, present, rfl, rfl, left⟩ := catalogued.updateHost_leaves migrated returned
    rw [perform, answering_store, left] at after ⊢
    exact ⟨_, rfl, rfl, catalogued.find_edited present after
      ({ · with host := host, updatedAt := moment.now }) (fun _ => rfl) fun _ => rfl⟩
  | _ => trivial

/-- Whatever the directory has been asked to do, it understands all of its rows; a read answers, or
says that there is no such record; and what an operation has written is read as it was written. -/
theorem Run.rows_readable (run : Run) :
    (Run.finalStore Store.fresh run).Readable ∧
      (∀ moment (operation : Operation), operation.Reads →
        Answered (operation.perform.run moment (Run.finalStore Store.fresh run)).result) ∧
      (∀ moment uid, uid ≠ "" →
        Answered ((Operation.deleteMember uid).perform.run moment
          (Run.finalStore Store.fresh run)).result) ∧
      ∀ moment (operation : Operation) answer,
        (operation.perform.run moment (Run.finalStore Store.fresh run)).result = .ok answer →
          operation.Recovers moment
            (operation.perform.run moment (Run.finalStore Store.fresh run)).store answer := by
  have settled := Run.finalStore_settled Store.fresh_settled run
  have catalogued := Run.finalStore_catalogued run
  have migrated := settled.toMigrated
  exact ⟨migrated.readable catalogued,
    fun moment _ reads => migrated.read_answered catalogued reads moment,
    fun moment _ named => migrated.delete_answered named moment,
    fun _ _ _ answered => Operation.recovers settled catalogued answered⟩

/-- A demo day is announced. -/
def Run.announcement : Run :=
  [(⟨Instant.epoch, Uuid.ofNat 1⟩, .createDay ⟨"demo", "Demo", "acme.org"⟩)]

/-- It goes live: its slug leads to what was written, and another slug leads nowhere. -/
theorem Run.rows_readable_announcement :
    (Run.finalStore Store.fresh announcement).Readable ∧
      Answered ((Operation.findDay "other").perform.run ⟨Instant.epoch, Uuid.ofNat 2⟩
        (Run.finalStore Store.fresh announcement)).result ∧
      (Operation.updateStatus "demo" .live).Recovers ⟨Instant.epoch, Uuid.ofNat 2⟩
        ((Operation.updateStatus "demo" .live).perform.run ⟨Instant.epoch, Uuid.ofNat 2⟩
          (Run.finalStore Store.fresh announcement)).store
        (.day ⟨Uuid.ofNat 1, "demo", "Demo", "acme.org", .live, Instant.epoch, Instant.epoch⟩) := by
  obtain ⟨readable, reads, -, recovers⟩ := rows_readable announcement
  have answered : ((Operation.updateStatus "demo" .live).perform.run ⟨Instant.epoch, Uuid.ofNat 2⟩
      (Run.finalStore Store.fresh announcement)).result =
        .ok (.day
          ⟨Uuid.ofNat 1, "demo", "Demo", "acme.org", .live, Instant.epoch, Instant.epoch⟩) := by
    rfl
  exact ⟨readable, reads _ _ (.findDay "other"), recovers _ _ _ answered⟩

end HostAccess
