import HostAccess.Proofs.Commits
import HostAccess.Proofs.Replacements

/-! # Joint and separate writes of grants

Roles and hosts of a member can be replaced each by a write of its own, or both by one. A later
change wins over an earlier one in what both of them name, so two changes that name different things
can be made in either order, and as well at once. What is refused is refused for the member or for
the hosts and never for the roles, so the joint write fails as the one of the hosts does. -/
namespace HostAccess

variable {s : Store} {uid : String}

/-! ## Changes one after the other -/

/-- The change that two changes come to, the later of which wins. -/
def GrantChange.after (later earlier : GrantChange) : GrantChange where
  roles := later.roles.or earlier.roles
  hosts := later.hosts.or earlier.hosts

namespace Store

theorem touched_touched (uid : String) (first second : Instant) (rows : List Member) :
    touched uid second (touched uid first rows) = touched uid second rows := by
  rw [touched, touched, touched, List.map_map]
  refine List.map_congr_left fun m _ => ?_
  rw [Function.comp_apply, uid_touched]
  split <;> rfl

/-- Two changes at one time are one change. -/
theorem granted_granted (s : Store) (uid : String) (earlier later : GrantChange) (now : Instant) :
    (s.granted uid earlier now).granted uid later now =
      s.granted uid (later.after earlier) now := by
  have roles : later.roles.elim (s.granted uid earlier now).roleRows
        (fun roles => replaceRoles uid roles now (s.granted uid earlier now).roleRows) =
      (s.granted uid (later.after earlier) now).roleRows := by
    simp only [roleRows_granted, GrantChange.after]
    cases later.roles with
    | none => rfl
    | some roles =>
      cases earlier.roles with
      | none => rfl
      -- The rows of the earlier change are among those that make way.
      | some before => exact congrArg (· ++ _) (Grants.roles_replaced uid before now s.roleRows).2
  have hosts : later.hosts.elim (s.granted uid earlier now).scopeRows
        (fun hosts => replaceHosts uid hosts now (s.granted uid earlier now).scopeRows) =
      (s.granted uid (later.after earlier) now).scopeRows := by
    simp only [scopeRows_granted, GrantChange.after]
    cases later.hosts with
    | none => rfl
    | some hosts =>
      cases earlier.hosts with
      | none => rfl
      | some before => exact congrArg (· ++ _) (Grants.hosts_replaced uid before now s.scopeRows).2
  rw [granted, roles, hosts, memberRows_granted, touched_touched]
  rfl

end Store

/-! ## Times -/

def RoleRow.redated (uid : String) (now : Instant) (row : RoleRow) : RoleRow :=
  if row.memberUid == uid then { row with createdAt := now } else row

def ScopeRow.redated (uid : String) (now : Instant) (row : ScopeRow) : ScopeRow :=
  if row.memberUid == uid then { row with createdAt := now } else row

namespace Store

/-- A store in which all that a member has bears one time. -/
def redated (s : Store) (uid : String) (now : Instant) : Store :=
  { s with
    members := s.members.map fun t => t.withRows (touched uid now t.rows)
    roles := s.roles.map fun t => t.withRows (t.rows.map (RoleRow.redated uid now))
    scopes := s.scopes.map fun t => t.withRows (t.rows.map (ScopeRow.redated uid now)) }

section Rows

variable (s : Store) (uid : String) (now : Instant)

theorem memberRows_redated : (s.redated uid now).memberRows = touched uid now s.memberRows := by
  unfold memberRows redated
  cases s.members <;> rfl

theorem roleRows_redated :
    (s.redated uid now).roleRows = s.roleRows.map (RoleRow.redated uid now) := by
  unfold roleRows redated
  cases s.roles <;> rfl

theorem scopeRows_redated :
    (s.redated uid now).scopeRows = s.scopeRows.map (ScopeRow.redated uid now) := by
  unfold scopeRows redated
  cases s.scopes <;> rfl

end Rows

/-- Where rows make way for new ones, the rows that are kept can be dated before or after. -/
theorem map_replaced {ρ : Type} {taken : ρ → Bool} {date : ρ → ρ}
    (keeps : ∀ row, taken (date row) = taken row) (old new : List ρ) :
    (old.filter (!taken ·) ++ new).map date = (old.map date).filter (!taken ·) ++ new.map date := by
  rw [List.map_append, List.filter_map]
  simp only [Function.comp_def, keeps]

theorem replaceRoles_redated (uid : String) (roles : RoleSet) (earlier now : Instant)
    (rows : List RoleRow) :
    (replaceRoles uid roles earlier rows).map (RoleRow.redated uid now) =
      replaceRoles uid roles now (rows.map (RoleRow.redated uid now)) := by
  refine (map_replaced (fun row => ?_) _ _).trans (congrArg _ ?_)
  · unfold RoleRow.redated
    split <;> rfl
  · rw [grantedRoles, List.map_map]
    exact List.map_congr_left fun role _ => if_pos (beq_self_eq_true uid)

theorem replaceHosts_redated (uid : String) (hosts : HostSet) (earlier now : Instant)
    (rows : List ScopeRow) :
    (replaceHosts uid hosts earlier rows).map (ScopeRow.redated uid now) =
      replaceHosts uid hosts now (rows.map (ScopeRow.redated uid now)) := by
  refine (map_replaced (fun row => ?_) _ _).trans (congrArg _ ?_)
  · unfold ScopeRow.redated
    split <;> rfl
  · rw [grantedHosts, List.map_map]
    exact List.map_congr_left fun host _ => if_pos (beq_self_eq_true uid)

/-- When a change was made does not show in a store in which all that its member has bears one
time. -/
theorem redated_granted (s : Store) (uid : String) (change : GrantChange) (earlier now : Instant) :
    (s.granted uid change earlier).redated uid now =
      (s.redated uid now).granted uid change now := by
  have members : touched uid now (touched uid earlier s.memberRows) =
      touched uid now (s.redated uid now).memberRows := by
    rw [memberRows_redated, touched_touched, touched_touched]
  have roles : (s.granted uid change earlier).roleRows.map (RoleRow.redated uid now) =
      ((s.redated uid now).granted uid change now).roleRows := by
    rw [roleRows_granted, roleRows_granted, roleRows_redated]
    cases change.roles with
    | none => rfl
    | some roles => exact replaceRoles_redated uid roles earlier now s.roleRows
  have scopes : (s.granted uid change earlier).scopeRows.map (ScopeRow.redated uid now) =
      ((s.redated uid now).granted uid change now).scopeRows := by
    rw [scopeRows_granted, scopeRows_granted, scopeRows_redated]
    cases change.hosts with
    | none => rfl
    | some hosts => exact replaceHosts_redated uid hosts earlier now s.scopeRows
  have left : (s.granted uid change earlier).redated uid now =
      { s with
        members := some (Schema.memberTable (touched uid now (touched uid earlier s.memberRows)))
        roles := some (Schema.roleTable
          ((s.granted uid change earlier).roleRows.map (RoleRow.redated uid now)))
        scopes := some (Schema.scopeTable
          ((s.granted uid change earlier).scopeRows.map (ScopeRow.redated uid now))) } := rfl
  rw [left, members, roles, scopes]
  rfl

/-! ## Refusals -/

/-- Why a change of grants is refused. The roles that it names have no part in it. -/
def refusal? (s : Store) (uid : String) (hosts : Option HostSet) : Option StoreError :=
  if uid = "" then some Refusal.emptyId.toCancellation
  else if Members.present s uid then
    if "" ∈ hosts.getD OrderedSet.empty then
      some (Refusal.assertionBroken "scope_value").toCancellation
    else none
  else some (.notFound "member" uid)

/-- A change that is made for a member does not get in the way of another. -/
theorem refusal?_granted (s : Store) (uid : String) (change : GrantChange) (now : Instant)
    (hosts : Option HostSet) :
    (s.granted uid change now).refusal? uid hosts = s.refusal? uid hosts := by
  have same : Members.present (s.granted uid change now) uid = Members.present s uid := by
    rw [Bool.eq_iff_iff, present_iff, present_iff, isMember_granted]
  rw [refusal?, same, refusal?]

/-- Without hosts there is no refusal, or the one that there is with them. -/
theorem refusal?_without (s : Store) (uid : String) (hosts : Option HostSet) :
    s.refusal? uid none = none ∨ s.refusal? uid none = s.refusal? uid hosts := by
  unfold refusal?
  by_cases nameless : uid = ""
  · exact Or.inr (by rw [if_pos nameless, if_pos nameless])
  rw [if_neg nameless, if_neg nameless]
  by_cases member : Members.present s uid = true
  -- No host is empty where none is named.
  · exact Or.inl (by rw [if_pos member, Option.getD_none, if_neg OrderedSet.not_mem_empty])
  · exact Or.inr (by rw [if_neg member, if_neg member])

end Store

section Declared

variable (declared : s.Declared)

include declared

theorem Store.Declared.putGrants_eq_refusal (uid : String) (change : GrantChange) (now : Instant) :
    s.putGrants uid change now =
      match s.refusal? uid change.hosts with
      | some e => .error e
      | none => .ok (s.granted uid change now) := by
  rw [declared.putGrants_eq, Store.refusal?]
  by_cases nameless : uid = ""
  · rw [if_pos nameless, if_pos nameless]
  rw [if_neg nameless, if_neg nameless]
  by_cases member : Members.present s uid = true
  · rw [if_pos member, if_pos member]
    by_cases unnamed : "" ∈ change.hosts.getD OrderedSet.empty
    · rw [if_pos unnamed, if_pos unnamed]
    · rw [if_neg unnamed, if_neg unnamed]
  · rw [if_neg member, if_neg member]

namespace Grants

theorem run_write_declared (uid : String) (change : GrantChange) (moment : Moment) :
    (write uid change).run moment s =
      match s.refusal? uid change.hosts with
      | some e => ⟨.error e.toError, s, []⟩
      | none => ⟨.ok (), s.granted uid change moment.now, []⟩ := by
  rw [run_write, declared.putGrants_eq_refusal]
  cases s.refusal? uid change.hosts <;> rfl

/-- A change that says something is the transaction of a write, and is told of once it is made. -/
theorem run_apply_declared (uid : String) {change : GrantChange} (asked : change.isEmpty = false)
    (moment : Moment) :
    (apply uid change).run moment s =
      match s.refusal? uid change.hosts with
      | some e => ⟨.error e.toError, s, []⟩
      | none => ⟨.ok (), s.granted uid change moment.now, [.grantChangeCommitted uid]⟩ := by
  rw [run_apply, if_neg (by simp [asked]), declared.putGrants_eq_refusal]
  cases s.refusal? uid change.hosts <;> rfl

end Grants

end Declared

/-! ## Agreement -/

/-- Outcomes of writing the grants of a member in two ways: with equal results, and with stores in
which at most the times differ that what the member has was given, and not even those if the clock
stood still. -/
structure Outcome.Matches (uid : String) (still : Prop) (a b : Outcome Error Unit) : Prop where
  result : a.result = b.result
  store : ∀ now, a.store.redated uid now = b.store.redated uid now
  undelayed : still → a.store = b.store

namespace Grants

section Agreement

variable (declared : s.Declared)

include declared

/-- A change that is made by a write of its own is the change that the joint write makes. -/
theorem write_matches (uid : String) {change : GrantChange} (asked : change.isEmpty = false)
    (alone joint : Moment) :
    ((write uid change).run alone s).Matches uid (alone.now = joint.now)
      ((apply uid change).run joint s) := by
  rw [run_write_declared declared, run_apply_declared declared uid asked]
  cases s.refusal? uid change.hosts with
  | some e => exact ⟨rfl, fun _ => rfl, fun _ => rfl⟩
  | none =>
    refine ⟨rfl, fun now => ?_, fun still => by rw [still]⟩
    rw [Store.redated_granted, Store.redated_granted]

/-- Two changes that are made one after the other are the change that they come to. -/
theorem writes_match (uid : String) {earlier later : GrantChange}
    (asked : (later.after earlier).isEmpty = false)
    (admitted : s.refusal? uid earlier.hosts = none ∧ s.refusal? uid later.hosts = none ∧
      s.refusal? uid (later.after earlier).hosts = none) (first second joint : Moment) :
    ((write uid later).run second ((write uid earlier).run first s).store).Matches uid
      (first.now = joint.now ∧ second.now = joint.now)
      ((apply uid (later.after earlier)).run joint s) := by
  rw [run_write_declared declared, run_apply_declared declared uid asked, admitted.1, admitted.2.2]
  -- The second write meets the store of the first, which does not make it fail.
  rw [run_write_declared (s.declared_granted uid earlier first.now), Store.refusal?_granted,
    admitted.2.1]
  refine ⟨rfl, fun now => ?_, ?_⟩
  · rw [Store.redated_granted, Store.redated_granted, Store.redated_granted, Store.granted_granted]
  · rintro ⟨firstStill, secondStill⟩
    dsimp only
    rw [firstStill, secondStill, Store.granted_granted]

end Agreement

/-- Whatever rows the tables hold: the write of roles and the one of hosts do what the joint write
does with one of them. The joint write of both is accepted exactly if each of the two is, and then
leaves what they leave one after the other, in either order. If it is refused, then with the error
of the one that is refused, and it leaves the store as it was. -/
theorem joint_agrees_with_separate (declared : s.Declared) (uid : String) (roles : RoleSet)
    (type : ScopeType) (hosts : HostSet) (joint first second : Moment) :
    let both := (apply uid ⟨some roles, some hosts⟩).run joint s
    let ofRoles := (Roles.replace uid roles).run first s
    let ofHosts := (Scopes.replace uid type hosts).run second s
    let still := first.now = joint.now ∧ second.now = joint.now
    ofRoles.Matches uid (first.now = joint.now) ((apply uid ⟨some roles, none⟩).run joint s) ∧
      ofHosts.Matches uid (second.now = joint.now) ((apply uid ⟨none, some hosts⟩).run joint s) ∧
      (both.result = .ok () ↔ ofRoles.result = .ok () ∧ ofHosts.result = .ok ()) ∧
      (both.result = .ok () →
        ((Scopes.replace uid type hosts).run second ofRoles.store).Matches uid still both ∧
          ((Roles.replace uid roles).run first ofHosts.store).Matches uid still both) ∧
      ∀ e, both.result = .error e → both.store = s ∧
        (ofRoles.result = .error e ∨ ofHosts.result = .error e) ∧
        (∀ e', ofRoles.result = .error e' → e' = e) ∧
        ∀ e', ofHosts.result = .error e' → e' = e := by
  rw [Roles.replace_eq_write, Scopes.replace_eq_write]
  intro both ofRoles ofHosts still
  have bothRun : both = _ := run_apply_declared declared uid rfl joint
  have rolesRun : ofRoles = _ := run_write_declared declared uid _ first
  have hostsRun : ofHosts = _ := run_write_declared declared uid _ second
  refine ⟨write_matches declared uid rfl first joint,
    write_matches declared uid rfl second joint, ?_⟩
  cases refused : s.refusal? uid (some hosts) with
  | some e =>
    rw [refused] at bothRun hostsRun
    rw [bothRun, hostsRun]
    refine ⟨by simp, nofun, ?_⟩
    rintro _ ⟨⟩
    refine ⟨rfl, Or.inr rfl, fun e' failed => ?_, fun e' failed => (Except.error.inj failed).symm⟩
    rw [rolesRun] at failed
    rcases s.refusal?_without uid (some hosts) with unrefused | same
    · rw [unrefused] at failed
      cases failed
    · rw [same, refused] at failed
      exact (Except.error.inj failed).symm
  | none =>
    have unrefused : s.refusal? uid none = none :=
      (s.refusal?_without uid (some hosts)).elim id fun same => same.trans refused
    rw [refused] at bothRun hostsRun
    rw [unrefused] at rolesRun
    refine ⟨by simp [bothRun, hostsRun, rolesRun], fun _ => ⟨?_, ?_⟩, fun e failed => ?_⟩
    · exact @writes_match _ declared uid ⟨some roles, none⟩ ⟨none, some hosts⟩ rfl
        ⟨unrefused, refused, refused⟩ first second joint
    · have reversed := @writes_match _ declared uid ⟨none, some hosts⟩ ⟨some roles, none⟩ rfl
        ⟨refused, unrefused, refused⟩ second first joint
      exact ⟨reversed.result, reversed.store, fun undelayed => reversed.undelayed undelayed.symm⟩
    · rw [bothRun] at failed
      cases failed

/-- A member with a role and a host, which were assigned at the start of the epoch. -/
def staffed : Store :=
  let moment : Moment := ⟨Instant.epoch, Uuid.ofNat 1⟩
  Run.finalStore Store.fresh [(moment, .createMember ⟨"ada", "Ada", none⟩),
    (moment, .assign {} "ada" ⟨some ["DEMO_DAY_ADMIN"], some ["acme.org"]⟩)]

/-- The roles are replaced a minute later and the hosts another minute later, or both at once. With
an empty host the joint write replaces nothing: the write of hosts fails, though that of roles would
not. -/
theorem joint_agrees_with_separate_staffed :
    let first : Moment := ⟨⟨1, 0, by decide, by decide, by decide⟩, Uuid.ofNat 2⟩
    let second : Moment := ⟨⟨2, 0, by decide, by decide, by decide⟩, Uuid.ofNat 3⟩
    let roles : RoleSet := OrderedSet.ofList [.directoryAdmin]
    let hosts : HostSet := OrderedSet.ofList ["acme.org", "beta.org"]
    let both (hosts : HostSet) := (apply "ada" ⟨some roles, some hosts⟩).run second staffed
    let ofRoles := (Roles.replace "ada" roles).run first staffed
    let refused : HostSet := OrderedSet.ofList [""]
    staffed.Declared ∧ (both hosts).result = .ok () ∧
      ((Scopes.replace "ada" .host hosts).run second ofRoles.store).Matches "ada"
        (first.now = second.now ∧ second.now = second.now) (both hosts) ∧
      (both refused).result =
        .error (Refusal.assertionBroken "scope_value").toCancellation.toError ∧
      ofRoles.result = .ok () ∧ (both refused).store = staffed := by
  intro first second roles hosts both ofRoles refused
  have declared : staffed.Declared :=
    (Run.finalStore_settled Store.fresh_settled _).toMigrated.declared
  have accepted : (both hosts).result = .ok () := rfl
  have failed : (both refused).result =
      .error (Refusal.assertionBroken "scope_value").toCancellation.toError := rfl
  obtain ⟨-, -, -, sequence, -⟩ :=
    joint_agrees_with_separate declared "ada" roles .host hosts second first second
  obtain ⟨-, -, -, -, unchanged⟩ :=
    joint_agrees_with_separate declared "ada" roles .host refused second first second
  exact ⟨declared, accepted, (sequence accepted).1, failed, rfl, (unchanged _ failed).1⟩

end Grants

end HostAccess
