import HostAccess.Directory.Members
import HostAccess.Proofs.Readings

/-! # What a write leaves

The writes of the directory on a migrated store: when each is accepted, and the rows that it leaves.
A write that is accepted leaves a migrated store, so a run of them never meets any other. -/
namespace HostAccess

/-- The row of a new member. -/
def NewMember.row (new : NewMember) (now : Instant) : Member :=
  ⟨new.uid, new.name, new.email, now, now⟩

namespace Store

def IsMember (s : Store) (uid : String) : Prop := ∃ m ∈ s.memberRows, m.uid = uid

theorem present_iff {s : Store} {uid : String} : Members.present s uid = true ↔ s.IsMember uid := by
  unfold Members.present IsMember memberRows
  cases s.members with
  | none => simp
  | some t => simp [Table.hasId_iff, Row.id]

/-! ## Rows after a write -/

def touched (uid : String) (now : Instant) (rows : List Member) : List Member :=
  rows.map fun m => if m.uid == uid then { m with updatedAt := now } else m

def grantedRoles (uid : String) (roles : RoleSet) (now : Instant) : List RoleRow :=
  roles.toList.map fun role => { memberUid := uid, roleName := role.name, createdAt := now }

def grantedHosts (uid : String) (hosts : HostSet) (now : Instant) : List ScopeRow :=
  hosts.toList.map fun host =>
    { memberUid := uid, scopeType := ScopeType.host.name, scopeValue := host, createdAt := now }

/-- Rows in which a member has these roles and no others. -/
def replaceRoles (uid : String) (roles : RoleSet) (now : Instant) (rows : List RoleRow) :
    List RoleRow :=
  (rows.filter fun row => !(row.memberUid == uid)) ++ grantedRoles uid roles now

/-- Rows in which a member has these hosts and no others. -/
def replaceHosts (uid : String) (hosts : HostSet) (now : Instant) (rows : List ScopeRow) :
    List ScopeRow :=
  (rows.filter fun row => !(row.memberUid == uid && row.scopeType == ScopeType.host.name)) ++
    grantedHosts uid hosts now

/-- A store after a change of grants. A dimension that the change leaves out stays as it is. -/
def granted (s : Store) (uid : String) (change : GrantChange) (now : Instant) : Store :=
  { s with
    members := some (Schema.memberTable (touched uid now s.memberRows))
    roles := some (Schema.roleTable
      (change.roles.elim s.roleRows fun roles => replaceRoles uid roles now s.roleRows))
    scopes := some (Schema.scopeTable
      (change.hosts.elim s.scopeRows fun hosts => replaceHosts uid hosts now s.scopeRows)) }

def joined (s : Store) (m : Member) : Store :=
  { s with members := some (Schema.memberTable (s.memberRows ++ [m])) }

def without (s : Store) (uid : String) : Store :=
  { s with
    members := some (Schema.memberTable (s.memberRows.filter fun m => !(m.uid == uid)))
    roles := some (Schema.roleTable (s.roleRows.filter fun row => !(row.memberUid == uid)))
    scopes := some (Schema.scopeTable (s.scopeRows.filter fun row => !(row.memberUid == uid))) }

end Store

/-! ## Legal rows after a write -/

namespace Schema

open Table

theorem memberTable_legal_append_iff {rows : List Member} (legal : (memberTable rows).Legal)
    (m : Member) : (memberTable (rows ++ [m])).Legal ↔ ∀ other ∈ rows, other.uid ≠ m.uid := by
  refine (legal_concat_iff (t := memberTable []) legal).trans ?_
  rw [and_iff_right (memberTable_fits [] m)]
  exact forall₂_congr fun other _ => memberTable_apart_iff

theorem memberTable_revise_touch (uid : String) (now : Instant) (rows : List Member) :
    (memberTable rows).revise (·.uid == uid) ({ · with updatedAt := now }) =
      .ok (memberTable (Store.touched uid now rows)) :=
  revise_eq_ok_iff.mpr ⟨fun _ _ _ => memberTable_fits _ _, rfl⟩

theorem memberTable_legal_touched {rows : List Member} (legal : (memberTable rows).Legal)
    (uid : String) (now : Instant) : (memberTable (Store.touched uid now rows)).Legal := by
  refine Legal.revise legal ?_ ?_ (memberTable_revise_touch uid now rows)
  · exact fun _ => rfl
  · exact fun index listed => absurd listed List.not_mem_nil

theorem roleTable_legal_granted (uid : String) (roles : RoleSet) (now : Instant) :
    (roleTable (Store.grantedRoles uid roles now)).Legal := by
  refine ⟨fun row member => ?_, List.pairwise_map.mpr (roles.ascending.imp fun {a b} below => ?_)⟩
  · obtain ⟨role, -, rfl⟩ := List.mem_map.mp member
    exact roleTable_fits_iff.mpr ⟨role, rfl⟩
  · rw [roleTable_apart_iff]
    -- A set lists nothing twice, and rows that are inserted have no id of their own.
    refine ⟨fun same => ?_, by simp⟩
    rw [Role.name_injective same.2] at below
    exact OrderedSet.not_below_self b below

/-- No row that is kept is about the member that the new rows are about. -/
theorem roleTable_apart_granted (table : List RoleRow) {rows : List RoleRow} {uid : String}
    {roles : RoleSet} {now : Instant} :
    ∀ new ∈ Store.grantedRoles uid roles now,
      ∀ old ∈ rows.filter fun row => !(row.memberUid == uid), (roleTable table).Apart old new := by
  intro new member old kept
  obtain ⟨role, -, rfl⟩ := List.mem_map.mp member
  rw [roleTable_apart_iff]
  refine ⟨fun same => ?_, by simp⟩
  simp [same.1] at kept

theorem roleTable_legal_replace {rows : List RoleRow} (legal : (roleTable rows).Legal) (uid : String)
    (roles : RoleSet) (now : Instant) :
    (roleTable (Store.replaceRoles uid roles now rows)).Legal :=
  (legal_append_iff (t := roleTable [])).mpr
    ⟨legal.sublist List.filter_sublist, roleTable_legal_granted uid roles now,
      fun old kept new member => roleTable_apart_granted [] new member old kept⟩

theorem scopeTable_legal_granted_iff {uid : String} {hosts : HostSet} {now : Instant} :
    (scopeTable (Store.grantedHosts uid hosts now)).Legal ↔ "" ∉ hosts := by
  constructor
  · intro legal member
    have fits := legal.fits _ (List.mem_map_of_mem member)
    exact (scopeTable_fits_iff.mp fits).2 rfl
  · intro named
    refine ⟨fun row member => ?_, List.pairwise_map.mpr (hosts.ascending.imp fun {a b} below => ?_)⟩
    · obtain ⟨host, listed, rfl⟩ := List.mem_map.mp member
      refine scopeTable_fits_iff.mpr ⟨rfl, fun empty => named ?_⟩
      exact (show host = "" from empty) ▸ listed
    · rw [scopeTable_apart_iff]
      refine ⟨fun same => ?_, by simp⟩
      have equal : a = b := same.2.2
      rw [equal] at below
      exact OrderedSet.not_below_self b below

theorem scopeTable_apart_granted (table : List ScopeRow) {rows : List ScopeRow} {uid : String}
    {hosts : HostSet} {now : Instant} :
    ∀ new ∈ Store.grantedHosts uid hosts now,
      ∀ old ∈ rows.filter fun row =>
        !(row.memberUid == uid && row.scopeType == ScopeType.host.name),
        (scopeTable table).Apart old new := by
  intro new member old kept
  obtain ⟨host, -, rfl⟩ := List.mem_map.mp member
  rw [scopeTable_apart_iff]
  refine ⟨fun same => ?_, by simp⟩
  simp [same.1, same.2.1] at kept

theorem scopeTable_legal_replace_iff {rows : List ScopeRow} (legal : (scopeTable rows).Legal)
    {uid : String} {hosts : HostSet} {now : Instant} :
    (scopeTable (Store.replaceHosts uid hosts now rows)).Legal ↔ "" ∉ hosts := by
  rw [← @scopeTable_legal_granted_iff uid hosts now]
  exact (legal_append_iff (t := scopeTable [])).trans
    ⟨fun parts => parts.2.1, fun new => ⟨legal.sublist List.filter_sublist, new,
      fun old kept new member => scopeTable_apart_granted [] new member old kept⟩⟩

end Schema

namespace Store

/-! ## Rows of the stores that writes leave -/

section Rows

variable (s : Store) (uid : String) (change : GrantChange) (now : Instant) (m : Member)

@[simp] theorem memberRows_joined : (s.joined m).memberRows = s.memberRows ++ [m] := rfl

@[simp] theorem memberRows_granted :
    (s.granted uid change now).memberRows = touched uid now s.memberRows := rfl

@[simp] theorem roleRows_granted : (s.granted uid change now).roleRows =
    change.roles.elim s.roleRows fun roles => replaceRoles uid roles now s.roleRows := rfl

@[simp] theorem scopeRows_granted : (s.granted uid change now).scopeRows =
    change.hosts.elim s.scopeRows fun hosts => replaceHosts uid hosts now s.scopeRows := rfl

end Rows

/-! ## When a write is accepted -/

theorem putGrants_eq_bind (s : Store) (uid : String) (change : GrantChange) (now : Instant) :
    s.putGrants uid change now =
      s.touchMember uid now >>= fun s =>
        change.roles.elim (.ok s) (putRoles uid · now s) >>= fun s =>
          change.hosts.elim (.ok s) (putScopes uid .host · now s) := by
  obtain ⟨roles, hosts⟩ := change
  cases roles <;> cases hosts <;> rfl

/-- The empty text comes first wherever it is listed. -/
theorem toList_of_mem_empty {hosts : HostSet} (listed : "" ∈ hosts) :
    ∃ rest, hosts.toList = "" :: rest := by
  rw [← OrderedSet.mem_toList] at listed
  have ascending := hosts.ascending
  cases shape : hosts.toList with
  | nil => simp [shape] at listed
  | cons first rest =>
    rw [shape] at listed ascending
    rcases List.mem_cons.mp listed with same | later
    · exact ⟨rest, by rw [← same]⟩
    · have below : first < "" :=
        compareOfLessAndEq_eq_lt.mp ((List.pairwise_cons.mp ascending).1 "" later)
      exact absurd (String.lt_iff.mp below) (List.not_lt_nil _)

/-! ### A change of grants, whatever is stored -/

theorem declared_granted (s : Store) (uid : String) (change : GrantChange) (now : Instant) :
    (s.granted uid change now).Declared := ⟨rfl, rfl, rfl⟩

namespace Declared

variable {s : Store} (declared : s.Declared)

include declared

theorem touchMember_eq (uid : String) (now : Instant) :
    s.touchMember uid now =
      if uid = "" then .error Refusal.emptyId.toCancellation
      else if Members.present s uid then .ok (s.granted uid {} now)
      else .error (.notFound "member" uid) := by
  -- A change that is silent in both dimensions writes the rows back as they are.
  have whole : s.granted uid {} now =
      { s with members := some (Schema.memberTable (touched uid now s.memberRows)) } := by
    rw [granted, Option.elim_none, Option.elim_none, ← declared.roles, ← declared.scopes]
  have found : s.members.filter (·.hasId uid) =
      if Members.present s uid then some (Schema.memberTable s.memberRows) else none := by
    rw [Members.present, declared.members]
    rfl
  rw [touchMember, found, whole]
  by_cases empty : uid = ""
  · simp [empty]
  · rw [if_neg (by simpa using empty), if_neg empty]
    by_cases member : Members.present s uid = true
    · rw [if_pos member, if_pos member]
      simp only [Schema.memberTable_revise_touch, mapError_ok]
      rfl
    · rw [if_neg member, if_neg member]

theorem putRoles_eq (uid : String) (roles : RoleSet) (now : Instant) :
    s.putRoles uid roles now =
      .ok { s with roles := some (Schema.roleTable (replaceRoles uid roles now s.roleRows)) } := by
  have table : s.roleTable = .ok (Schema.roleTable s.roleRows) := by
    rw [roleTable, declared.roles]
    rfl
  have legal := Schema.roleTable_legal_granted uid roles now
  -- The rows in the way are gone by now, so that nothing is refused.
  have inserted : ((Schema.roleTable s.roleRows).remove (·.memberUid == uid)).insertAll
      (grantedRoles uid roles now) =
        .ok (Schema.roleTable (replaceRoles uid roles now s.roleRows)) :=
    Table.insertAll_eq_ok_iff.mpr ⟨⟨fun row member =>
      ⟨legal.fits row member, Schema.roleTable_apart_granted _ row member⟩, legal.apart⟩, rfl⟩
  simp only [putRoles, table, mapError_ok, ok_bind, pure_eq_ok]
  rw [show roles.toList.map _ = grantedRoles uid roles now from rfl, inserted]
  rfl

/-- A set with an empty host is refused at its first row, as nothing is ordered before it. The rows
that were there are gone by then, and come back with the transaction. -/
theorem putScopes_eq (uid : String) (hosts : HostSet) (now : Instant) :
    s.putScopes uid .host hosts now =
      if "" ∈ hosts then .error (Refusal.assertionBroken "scope_value").toCancellation
      else .ok { s with
        scopes := some (Schema.scopeTable (replaceHosts uid hosts now s.scopeRows)) } := by
  have table : s.scopeTable = .ok (Schema.scopeTable s.scopeRows) := by
    rw [scopeTable, declared.scopes]
    rfl
  by_cases listed : "" ∈ hosts
  · obtain ⟨rest, shape⟩ := toList_of_mem_empty listed
    simp only [putScopes, table, shape, List.map_cons, Table.insertAll, Table.insert, mapError_ok,
      ok_bind, if_pos listed]
    rfl
  · have legal : (Schema.scopeTable (grantedHosts uid hosts now)).Legal :=
      Schema.scopeTable_legal_granted_iff.mpr listed
    have inserted : ((Schema.scopeTable s.scopeRows).remove fun row =>
        row.memberUid == uid && row.scopeType == ScopeType.host.name).insertAll
          (grantedHosts uid hosts now) =
        .ok (Schema.scopeTable (replaceHosts uid hosts now s.scopeRows)) :=
      Table.insertAll_eq_ok_iff.mpr ⟨⟨fun row member =>
        ⟨legal.fits row member, Schema.scopeTable_apart_granted _ row member⟩, legal.apart⟩, rfl⟩
    simp only [putScopes, table, mapError_ok, ok_bind, pure_eq_ok, if_neg listed]
    rw [show hosts.toList.map _ = grantedHosts uid hosts now from rfl, inserted]
    rfl

/-- What a change of grants comes to. Hosts are refused in the transaction that has replaced the
roles, and the roles come back with it. -/
theorem putGrants_eq (uid : String) (change : GrantChange) (now : Instant) :
    s.putGrants uid change now =
      if uid = "" then .error Refusal.emptyId.toCancellation
      else if Members.present s uid then
        if "" ∈ change.hosts.getD OrderedSet.empty then
          .error (Refusal.assertionBroken "scope_value").toCancellation
        else .ok (s.granted uid change now)
      else .error (.notFound "member" uid) := by
  rw [putGrants_eq_bind, declared.touchMember_eq]
  by_cases empty : uid = ""
  · rw [if_pos empty, if_pos empty]
    rfl
  by_cases member : Members.present s uid = true
  · obtain ⟨roles, hosts⟩ := change
    -- The roles come first and are never refused, so the hosts decide.
    have first : roles.elim (.ok (s.granted uid {} now)) (putRoles uid · now (s.granted uid {} now)) =
        .ok (s.granted uid ⟨roles, none⟩ now) := by
      cases roles with
      | none => rfl
      | some roles => exact (s.declared_granted uid {} now).putRoles_eq uid roles now
    -- The hosts are put into the store in which the roles were replaced.
    have left := s.declared_granted uid ⟨roles, none⟩ now
    simp only [if_neg empty, if_pos member, ok_bind, first]
    cases hosts with
    | none => simp
    | some hosts =>
      rw [Option.elim_some, left.putScopes_eq, Option.getD_some]
      rfl
  · rw [if_neg empty, if_neg member, if_neg empty, if_neg member]
    rfl

end Declared

namespace Migrated

variable {s : Store} (migrated : s.Migrated)

include migrated

theorem add_member_eq_ok_iff {s' : Store} {new : NewMember} {now : Instant} :
    Members.add new now s = .ok s' ↔
      ¬s.IsMember new.uid ∧ s' = s.joined (new.row now) := by
  have table : s.memberTable = .ok (Schema.memberTable s.memberRows) := by
    rw [memberTable, migrated.members]
    rfl
  simp only [Members.add, table, bind_eq_ok_iff, pure_eq_ok_iff, Except.ok.injEq, exists_eq_left',
    Table.insert_eq_ok_iff_legal migrated.membersLegal]
  constructor
  · rintro ⟨t, ⟨rfl, legal⟩, rfl⟩
    refine ⟨?_, rfl⟩
    rintro ⟨other, present, same⟩
    exact (Schema.memberTable_legal_append_iff migrated.membersLegal _).mp legal other present same
  · rintro ⟨new, rfl⟩
    refine ⟨_, ⟨rfl, ?_⟩, rfl⟩
    exact (Schema.memberTable_legal_append_iff migrated.membersLegal _).mpr
      fun other present same => new ⟨other, present, same⟩

theorem erase_member (uid : String) : Members.erase uid s = .ok (s.without uid) := by
  simp only [Members.erase, Store.roleTable, Store.scopeTable, Store.memberTable, migrated.roles,
    migrated.scopes, migrated.members, present, ok_bind, pure_eq_ok]
  rfl

/-! ## Writes keep a store migrated -/

theorem joined {m : Member} (new : ¬s.IsMember m.uid) : (s.joined m).Migrated where
  members := rfl
  roles := migrated.roles
  scopes := migrated.scopes
  days := migrated.days
  membersLegal := (Schema.memberTable_legal_append_iff migrated.membersLegal m).mpr
    fun other present same => new ⟨other, present, same⟩
  rolesLegal := migrated.rolesLegal
  scopesLegal := migrated.scopesLegal
  daysLegal := migrated.daysLegal

theorem without (uid : String) : (s.without uid).Migrated where
  members := rfl
  roles := rfl
  scopes := rfl
  days := migrated.days
  membersLegal := migrated.membersLegal.sublist List.filter_sublist
  rolesLegal := migrated.rolesLegal.sublist List.filter_sublist
  scopesLegal := migrated.scopesLegal.sublist List.filter_sublist
  daysLegal := migrated.daysLegal

theorem granted {uid : String} {change : GrantChange} {now : Instant}
    (named : ∀ hosts, change.hosts = some hosts → "" ∉ hosts) :
    (s.granted uid change now).Migrated where
  members := rfl
  roles := rfl
  scopes := rfl
  days := migrated.days
  membersLegal := Schema.memberTable_legal_touched migrated.membersLegal uid now
  rolesLegal := by
    rw [roleRows_granted]
    cases change.roles with
    | none => exact migrated.rolesLegal
    | some roles => exact Schema.roleTable_legal_replace migrated.rolesLegal uid roles now
  scopesLegal := by
    rw [scopeRows_granted]
    cases replaced : change.hosts with
    | none => exact migrated.scopesLegal
    | some hosts =>
      exact (Schema.scopeTable_legal_replace_iff migrated.scopesLegal).mpr (named hosts replaced)
  daysLegal := migrated.daysLegal

/-- A change of grants is written exactly if its member is there and it names no empty host. -/
theorem putGrants_eq_ok_iff {s' : Store} {uid : String} {change : GrantChange} {now : Instant} :
    s.putGrants uid change now = .ok s' ↔
      (uid ≠ "" ∧ s.IsMember uid ∧ ∀ hosts, change.hosts = some hosts → "" ∉ hosts) ∧
        s' = s.granted uid change now := by
  have named : (∀ hosts, change.hosts = some hosts → "" ∉ hosts) ↔
      "" ∉ change.hosts.getD OrderedSet.empty := by
    cases change.hosts <;> simp
  rw [migrated.declared.putGrants_eq, ← present_iff, named]
  split
  next empty => simp [empty]
  next other =>
    split
    next member =>
      split
      next refused => simp [refused]
      next accepted => simp [other, member, accepted, eq_comm]
    next absent => simp [absent]

end Migrated

/-! ## Who has what after a write -/

section Effects

variable {s : Store} {uid who : String}

theorem isMember_joined {m : Member} :
    (s.joined m).IsMember who ↔ s.IsMember who ∨ m.uid = who := by
  simp only [IsMember, memberRows_joined, List.mem_append, List.mem_singleton]
  constructor
  · rintro ⟨other, present | rfl, same⟩
    · exact Or.inl ⟨other, present, same⟩
    · exact Or.inr same
  · rintro (⟨other, present, same⟩ | same)
    · exact ⟨other, Or.inl present, same⟩
    · exact ⟨m, Or.inr rfl, same⟩

/-- To mark a member as changed leaves its uid alone. -/
theorem uid_touched (uid : String) (now : Instant) (m : Member) :
    (if m.uid == uid then { m with updatedAt := now } else m).uid = m.uid := by
  split <;> rfl

theorem isMember_granted {change : GrantChange} {now : Instant} :
    (s.granted uid change now).IsMember who ↔ s.IsMember who := by
  have same := uid_touched uid now
  simp only [IsMember, memberRows_granted, touched, List.mem_map]
  constructor
  · rintro ⟨_, ⟨m, present, rfl⟩, named⟩
    exact ⟨m, present, (same m).symm.trans named⟩
  · rintro ⟨m, present, named⟩
    exact ⟨_, ⟨m, present, rfl⟩, (same m).trans named⟩

/-- Rows of one owner where rows were taken away and put in place of them. If all that matter of
`uid` are taken away, it has what is put in their place; other owners keep what they had. -/
theorem exists_replaced_iff {ρ : Type} {owner : ρ → String} {P : ρ → Prop} {taken : ρ → Bool}
    {old new : List ρ} (all : ∀ row, owner row = uid → P row → taken row = true)
    (only : ∀ row, taken row = true → owner row = uid) (own : ∀ row ∈ new, owner row = uid) :
    (∃ row ∈ old.filter (!taken ·) ++ new, owner row = who ∧ P row) ↔
      if who = uid then ∃ row ∈ new, P row else ∃ row ∈ old, owner row = who ∧ P row := by
  simp only [List.mem_append, List.mem_filter, Bool.not_eq_true']
  split
  next same =>
    subst same
    constructor
    · rintro ⟨row, ⟨-, kept⟩ | put, mine, holds⟩
      · simp [all row mine holds] at kept
      · exact ⟨row, put, holds⟩
    · rintro ⟨row, put, holds⟩
      exact ⟨row, Or.inr put, own row put, holds⟩
  next other =>
    constructor
    · rintro ⟨row, ⟨present, -⟩ | put, mine, holds⟩
      · exact ⟨row, present, mine, holds⟩
      · exact absurd (mine.symm.trans (own row put)) other
    · rintro ⟨row, present, mine, holds⟩
      have kept : taken row = false := by
        rw [← Bool.not_eq_true]
        exact fun gone => other (mine.symm.trans (only row gone))
      exact ⟨row, Or.inl ⟨present, kept⟩, mine, holds⟩

theorem exists_kept_iff {ρ : Type} {owner : ρ → String} {P : ρ → Prop} {old : List ρ} :
    (∃ row ∈ old.filter fun row => !(owner row == uid), owner row = who ∧ P row) ↔
      who ≠ uid ∧ ∃ row ∈ old, owner row = who ∧ P row := by
  -- To take all rows of an owner away is to put none in their place.
  have replaced := @exists_replaced_iff uid who ρ owner P (owner · == uid) old []
    (fun _ mine _ => beq_iff_eq.mpr mine) (fun _ gone => beq_iff_eq.mp gone) nofun
  rw [List.append_nil] at replaced
  rw [replaced]
  split
  next same => simp [same]
  next other => simp [other]

theorem isMember_without : (s.without uid).IsMember who ↔ who ≠ uid ∧ s.IsMember who := by
  have kept := @exists_kept_iff uid who Member Member.uid (fun _ => True) s.memberRows
  simp only [and_true] at kept
  exact kept

theorem holdsRole_without {role : Role} :
    (s.without uid).HoldsRole who role ↔ who ≠ uid ∧ s.HoldsRole who role := exists_kept_iff

theorem hasHost_without {host : String} :
    (s.without uid).HasHost who host ↔ who ≠ uid ∧ s.HasHost who host := exists_kept_iff

theorem rolesOf_without :
    (s.without uid).rolesOf who = if who = uid then OrderedSet.empty else s.rolesOf who := by
  refine OrderedSet.ext fun role => ?_
  rw [mem_rolesOf, holdsRole_without, ← mem_rolesOf]
  split
  next same => simp [same]
  next other => simp [other]

theorem hostsOf_without :
    (s.without uid).hostsOf who = if who = uid then OrderedSet.empty else s.hostsOf who := by
  refine OrderedSet.ext fun host => ?_
  rw [mem_hostsOf, hasHost_without, ← mem_hostsOf]
  split
  next same => simp [same]
  next other => simp [other]

theorem owner_grantedRoles {roles : RoleSet} {now : Instant} :
    ∀ row ∈ grantedRoles uid roles now, row.memberUid = uid := by
  intro row granted
  obtain ⟨role, -, rfl⟩ := List.mem_map.mp granted
  rfl

theorem owner_grantedHosts {hosts : HostSet} {now : Instant} :
    ∀ row ∈ grantedHosts uid hosts now, row.memberUid = uid := by
  intro row granted
  obtain ⟨host, -, rfl⟩ := List.mem_map.mp granted
  rfl

theorem mem_replaceRoles {roles : RoleSet} {now : Instant} {rows : List RoleRow} {role : Role} :
    (∃ row ∈ replaceRoles uid roles now rows, row.memberUid = who ∧ row.roleName = role.name) ↔
      if who = uid then role ∈ roles
      else ∃ row ∈ rows, row.memberUid = who ∧ row.roleName = role.name := by
  -- Every row that matters here is taken away, as rows are chosen by their member alone.
  have granted : (∃ row ∈ grantedRoles uid roles now, row.roleName = role.name) ↔ role ∈ roles := by
    constructor
    · rintro ⟨row, present, named⟩
      obtain ⟨other, listed, rfl⟩ := List.mem_map.mp present
      exact Role.name_injective named ▸ listed
    · exact fun listed => ⟨_, List.mem_map_of_mem listed, rfl⟩
  rw [← granted]
  exact exists_replaced_iff (fun _ mine _ => beq_iff_eq.mpr mine) (fun _ gone => beq_iff_eq.mp gone)
    owner_grantedRoles

theorem mem_replaceHosts {hosts : HostSet} {now : Instant} {rows : List ScopeRow} {host : String} :
    (∃ row ∈ replaceHosts uid hosts now rows, row.memberUid = who ∧
        row.scopeType = ScopeType.host.name ∧ row.scopeValue = host) ↔
      if who = uid then host ∈ hosts
      else ∃ row ∈ rows, row.memberUid = who ∧ row.scopeType = ScopeType.host.name ∧
        row.scopeValue = host := by
  have granted : (∃ row ∈ grantedHosts uid hosts now,
      row.scopeType = ScopeType.host.name ∧ row.scopeValue = host) ↔ host ∈ hosts := by
    constructor
    · rintro ⟨row, present, -, rfl⟩
      obtain ⟨other, listed, rfl⟩ := List.mem_map.mp present
      exact listed
    · exact fun listed => ⟨_, List.mem_map_of_mem listed, rfl, rfl⟩
  rw [← granted]
  -- Only rows of the type are taken away, and only those count as hosts.
  exact exists_replaced_iff
    (fun row mine typed => by simp [mine, typed.1])
    (fun row gone => by simpa using (Bool.and_eq_true_iff.mp gone).1) owner_grantedHosts

/-- Only the roles of the member that is named change, and only if the change names roles. -/
theorem rolesOf_granted {change : GrantChange} {now : Instant} :
    (s.granted uid change now).rolesOf who =
      if who = uid then change.roles.getD (s.rolesOf uid) else s.rolesOf who := by
  refine OrderedSet.ext fun role => ?_
  rw [mem_rolesOf, HoldsRole, roleRows_granted]
  cases change.roles with
  | none =>
    rw [Option.elim_none, Option.getD_none, ← HoldsRole, ← mem_rolesOf]
    split
    next same => rw [same]
    next => rfl
  | some roles =>
    rw [Option.elim_some, Option.getD_some, mem_replaceRoles, ← HoldsRole, ← mem_rolesOf]
    split <;> rfl

theorem hostsOf_granted {change : GrantChange} {now : Instant} :
    (s.granted uid change now).hostsOf who =
      if who = uid then change.hosts.getD (s.hostsOf uid) else s.hostsOf who := by
  refine OrderedSet.ext fun host => ?_
  rw [mem_hostsOf, HasHost, scopeRows_granted]
  cases change.hosts with
  | none =>
    rw [Option.elim_none, Option.getD_none, ← HasHost, ← mem_hostsOf]
    split
    next same => rw [same]
    next => rfl
  | some hosts =>
    rw [Option.elim_some, Option.getD_some, mem_replaceHosts, ← HasHost, ← mem_hostsOf]
    split <;> rfl

end Effects

end Store

end HostAccess
