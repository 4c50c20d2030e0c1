import HostAccess.Proofs.Catalogue
import HostAccess.Proofs.Causes

/-! # Profiles

What a store has about one uid, and what it has about one slug, without times and generated ids.
Every answer about a member is made from its profile and every answer about a demo day from that of
its slug, and a write changes the profile that it names and no other. -/
namespace HostAccess

variable {s t : Store} {moment : Moment}

/-- A member without the times at which it was written. -/
def Member.plain (m : Member) : Member :=
  { m with createdAt := Instant.epoch, updatedAt := Instant.epoch }

/-- A demo day without its id and the times at which it was written. -/
def DemoDay.plain (day : DemoDay) : DemoDay :=
  { day with id := Uuid.ofNat 0, createdAt := Instant.epoch, updatedAt := Instant.epoch }

theorem DemoDay.plain_eq_iff {a b : DemoDay} :
    a.plain = b.plain ↔
      a.slug = b.slug ∧ a.name = b.name ∧ a.host = b.host ∧ a.status = b.status := by
  simp [plain]

/-- All that is stored about a uid. -/
structure Profile where
  record : Option Member
  roles : RoleSet
  hosts : HostSet

/-- Scopes are understood one by one if they have the one type that there is. -/
theorem decodeScopes_eq {rows : List ScopeRow}
    (typed : ∀ row ∈ rows, row.scopeType = ScopeType.host.name) :
    decodeScopes rows = .ok (rows.map fun row => ⟨row.memberUid, .host, row.scopeValue⟩) := by
  induction rows with
  | nil => rfl
  | cons row rest ih =>
    have decoded : row.decode = .ok ⟨row.memberUid, .host, row.scopeValue⟩ := by
      rw [ScopeRow.decode, typed row List.mem_cons_self, ScopeType.ofName?_name]
    rw [decodeScopes, decoded, ih fun other later => typed other (List.mem_cons_of_mem _ later)]
    rfl

namespace Store

def record (s : Store) (uid : String) : Option Member :=
  (s.memberRows.find? (·.uid == uid)).map Member.plain

def profile (s : Store) (uid : String) : Profile := ⟨s.record uid, s.rolesOf uid, s.hostsOf uid⟩

/-- All that is stored about a slug. -/
def dayProfile (s : Store) (slug : String) : Option DemoDay :=
  (s.catalogue.find? (·.slug == slug)).map DemoDay.plain

/-! ## Profiles of members after a write -/

section Members

variable (s : Store) (uid who : String)

theorem profile_joined (m : Member) :
    (s.joined m).profile who = { s.profile who with
      record := (s.record who).or (if m.uid = who then some m.plain else none) } := by
  have added : (s.joined m).record who =
      (s.record who).or (if m.uid = who then some m.plain else none) := by
    simp only [record, memberRows_joined, List.find?_append, Option.map_or]
    by_cases own : m.uid = who <;> simp [own]
  rw [profile, added]
  rfl

theorem profile_without :
    (s.without uid).profile who =
      if who = uid then ⟨none, OrderedSet.empty, OrderedSet.empty⟩ else s.profile who := by
  have record_without : (s.without uid).record who = if who = uid then none else s.record who := by
    have rows : (s.without uid).memberRows = s.memberRows.filter fun m => !(m.uid == uid) := rfl
    rw [record, rows, List.find?_filter]
    split
    next own => simp [own]
    next other =>
      -- Whom the search is for is not among those that are taken away.
      refine congrArg (fun p => (s.memberRows.find? p).map Member.plain) (funext fun m => ?_)
      by_cases hit : m.uid = who <;> simp [hit, other]
  rw [profile, record_without, rolesOf_without, hostsOf_without]
  split <;> rfl

theorem profile_granted (change : GrantChange) (now : Instant) :
    (s.granted uid change now).profile who =
      if who = uid then { s.profile uid with
        roles := change.roles.getD (s.rolesOf uid)
        hosts := change.hosts.getD (s.hostsOf uid) }
      else s.profile who := by
  have record_granted : (s.granted uid change now).record who = s.record who := by
    rw [record, memberRows_granted, touched, List.find?_map, Option.map_map]
    have plains (m : Member) :
        (if m.uid == uid then { m with updatedAt := now } else m).plain = m.plain := by
      split <;> rfl
    simp only [Function.comp_def, uid_touched, plains]
    rfl
  rw [profile, record_granted, rolesOf_granted, hostsOf_granted]
  split
  next own => rw [own]; rfl
  next => rfl

end Members

/-! ## Profiles of demo days after a write -/

theorem dayProfile_announced (catalogued : s.Catalogued) (new : NewDemoDay) (slug : String) :
    (s.announced (new.row moment)).dayProfile slug =
      (s.dayProfile slug).or (if new.slug = slug then some (new.day moment).plain else none) := by
  rw [dayProfile, catalogued.find?_announced, Option.map_or, dayProfile]
  split <;> rfl

/-- A revision shows in the profile of the slug of the demo day that was revised. -/
theorem dayProfile_edited (migrated : s.Migrated) (catalogued : s.Catalogued)
    {current : DemoDay} (present : current ∈ s.catalogue) {edit : DayRow → DayRow}
    {revision : DemoDay → DemoDay} {now : Instant} (keeps : ∀ day, (revision day).slug = day.slug)
    (revises : ∀ day : DemoDay, { edit day.row with updatedAt := now } = (revision day).row)
    (slug : String) :
    (s.edited current.id edit now).dayProfile slug =
      if slug = current.slug then some (revision current).plain else s.dayProfile slug := by
  rw [dayProfile, catalogued.find?_edited migrated present keeps revises, dayProfile]
  split <;> rfl

/-! ## Reads of profiles -/

theorem present_eq_isSome (s : Store) (uid : String) :
    Members.present s uid = (s.record uid).isSome := by
  rw [Bool.eq_iff_iff, present_iff, record, Option.isSome_map, List.find?_isSome, IsMember]
  simp only [beq_iff_eq]

namespace Migrated

variable (migrated : s.Migrated) (uid : String)

include migrated

theorem find_member :
    Members.find uid s =
      if uid = "" then .error Refusal.emptyId.toStoreError.toError
      else match s.memberRows.find? (·.uid == uid) with
        | some m => .ok m
        | none => .error (.notFound "member" uid) := by
  rw [Members.find, Members.lookup, migrated.readMembers]
  by_cases empty : uid = ""
  · rw [if_pos empty, empty]
    rfl
  · rw [if_neg empty, if_neg (by simpa using empty)]
    cases hit : s.memberRows.find? (·.uid == uid) <;> simp [Schema.memberTable, hit] <;> rfl

theorem find_plain :
    (Members.find uid s).map Member.plain =
      if uid = "" then .error Refusal.emptyId.toStoreError.toError
      else match s.record uid with
        | some m => .ok m
        | none => .error (.notFound "member" uid) := by
  rw [migrated.find_member, record]
  split
  next => rfl
  next => cases s.memberRows.find? (·.uid == uid) <;> rfl

theorem roles_read : Roles.ofMember uid s = .ok (s.rolesOf uid) :=
  mapError_eq_ok_iff.mpr (migrated.stored_roles uid)

theorem grants_read : Grants.ofMember uid s = .ok ⟨s.rolesOf uid, s.hostsOf uid⟩ :=
  mapError_eq_ok_iff.mpr (migrated.stored_grants uid)

/-- The scopes of a member are its hosts, as there is no other type. -/
theorem scopes_read :
    Scopes.ofMember uid s =
      .ok (OrderedSet.ofList ((s.hostsOf uid).toList.map fun host => ⟨uid, .host, host⟩)) := by
  have typed : ∀ row ∈ byScopeType (s.scopeRows.filter (·.memberUid == uid)),
      row.scopeType = ScopeType.host.name := fun row listed =>
    (migrated.scope_wellFormed (List.mem_filter.mp (List.mem_mergeSort.mp listed)).1).1
  rw [Scopes.ofMember, mapError_eq_ok_iff]
  simp only [Scopes.stored, migrated.readScopes, ok_bind, Schema.scopeTable, decodeScopes_eq typed,
    pure_eq_ok]
  refine congrArg Except.ok (OrderedSet.ext fun entry => ?_)
  simp only [OrderedSet.mem_ofList, List.mem_map, byScopeType, List.mem_mergeSort, List.mem_filter,
    beq_iff_eq, OrderedSet.mem_toList, mem_hostsOf, HasHost]
  constructor
  · rintro ⟨row, ⟨present, rfl⟩, rfl⟩
    exact ⟨row.scopeValue, ⟨row, present, rfl, (migrated.scope_wellFormed present).1, rfl⟩, rfl⟩
  · rintro ⟨_, ⟨row, present, rfl, -, rfl⟩, rfl⟩
    exact ⟨row, ⟨present, rfl⟩, rfl⟩

end Migrated

theorem Catalogued.find_plain (catalogued : s.Catalogued) (migrated : s.Migrated) (slug : String) :
    (DemoDays.find slug s).map DemoDay.plain =
      match s.dayProfile slug with
      | some day => .ok day
      | none => .error (.notFound "demo_day" slug) := by
  rw [catalogued.find_eq migrated, dayProfile]
  cases s.catalogue.find? (·.slug == slug) <;> rfl

/-- Where a slug has the same profile, it leads to no demo day in either store, or to demo days that
differ in their ids and times at most. -/
theorem dayProfile_eq_cases {slug : String} (same : s.dayProfile slug = t.dayProfile slug) :
    (s.catalogue.find? (·.slug == slug) = none ∧ t.catalogue.find? (·.slug == slug) = none) ∨
      ∃ day day', s.catalogue.find? (·.slug == slug) = some day ∧
        t.catalogue.find? (·.slug == slug) = some day' ∧ day.plain = day'.plain := by
  unfold dayProfile at same
  cases first : s.catalogue.find? (·.slug == slug) <;>
    cases second : t.catalogue.find? (·.slug == slug) <;> simp [first, second] at same ⊢
  exact same

/-! ## Reads of two stores with the same profile -/

section Congruence

variable {uid : String} (same : s.profile uid = t.profile uid)

include same

theorem rolesOf_congr : s.rolesOf uid = t.rolesOf uid := congrArg Profile.roles same

theorem hostsOf_congr : s.hostsOf uid = t.hostsOf uid := congrArg Profile.hosts same

theorem record_congr : s.record uid = t.record uid := congrArg Profile.record same

theorem present_congr : Members.present s uid = Members.present t uid := by
  rw [present_eq_isSome, present_eq_isSome, record_congr same]

theorem isMember_congr : Members.isMember uid s = Members.isMember uid t := by
  rw [Members.isMember_eq, Members.isMember_eq, present_congr same]

theorem demandMember_congr : Assignment.demandMember uid s = Assignment.demandMember uid t := by
  rw [Assignment.demandMember_eq, Assignment.demandMember_eq, present_congr same]

variable (first : s.Migrated) (second : t.Migrated)

include first second

theorem find_congr :
    (Members.find uid s).map Member.plain = (Members.find uid t).map Member.plain := by
  rw [first.find_plain, second.find_plain, record_congr same]

theorem roles_congr : Roles.ofMember uid s = Roles.ofMember uid t := by
  rw [first.roles_read, second.roles_read, rolesOf_congr same]

theorem scopes_congr : Scopes.ofMember uid s = Scopes.ofMember uid t := by
  rw [first.scopes_read, second.scopes_read, hostsOf_congr same]

theorem hosts_congr : Scopes.hosts uid s = Scopes.hosts uid t := by
  rw [first.hosts_read, second.hosts_read, hostsOf_congr same]

theorem grants_congr : Grants.ofMember uid s = Grants.ofMember uid t := by
  rw [first.grants_read, second.grants_read, rolesOf_congr same, hostsOf_congr same]

theorem hostsIfHeld_congr (role : Role) :
    Grants.hostsIfHeld uid role s = Grants.hostsIfHeld uid role t := by
  rw [first.hostsIfHeld_read, second.hostsIfHeld_read, rolesOf_congr same, hostsOf_congr same]

theorem grantsOf_congr : Assignment.grantsOf uid s = Assignment.grantsOf uid t := by
  rw [Assignment.grantsOf, Assignment.grantsOf, demandMember_congr same,
    grants_congr same first second]

theorem canAdminister_congr (settings : Settings) (role : Role) (host : String) :
    Access.canAdminister settings uid role host s =
      Access.canAdminister settings uid role host t := by
  rw [Access.canAdminister, Access.canAdminister, hostsIfHeld_congr same first second]

theorem capabilities_congr (settings : Settings) (host : String) :
    Access.capabilities settings uid host s = Access.capabilities settings uid host t := by
  rw [Access.capabilities, Access.capabilities, grants_congr same first second]

/-- The demo day only says at which host the member is looked for. -/
theorem canAdministerDay_congr (settings : Settings) {slug : String}
    (sameDay : s.dayProfile slug = t.dayProfile slug) (catalogued : s.Catalogued)
    (catalogued' : t.Catalogued) :
    Access.canAdministerDay settings uid slug s = Access.canAdministerDay settings uid slug t := by
  rw [Access.canAdministerDay, Access.canAdministerDay, catalogued.find_eq first,
    catalogued'.find_eq second]
  rcases dayProfile_eq_cases sameDay with ⟨absent, absent'⟩ | ⟨day, day', found, found', plain⟩
  · rw [absent, absent']
  · obtain ⟨-, -, hosts, -⟩ := DemoDay.plain_eq_iff.mp plain
    rw [found, found']
    dsimp only
    rw [hosts, canAdminister_congr same first second]

end Congruence

end Store

end HostAccess
