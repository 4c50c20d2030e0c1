import HostAccess.Proofs.Outcomes

/-! # What a change of grants leaves

The exits of a change of grants on tables that are declared as they should be, whatever rows they
hold: names that no role has, scopes of other types, rows of members that are not there. A change
that is written replaces just the rows that it is about, and one that is refused replaces none. -/
namespace HostAccess

variable {s : Store} {moment : Moment}

/-- Where the chosen rows make way for new ones, the new ones are all that is chosen afterwards, and
the others are those that were there. -/
theorem filter_replaced {ρ : Type} {chosen : ρ → Bool} {old new : List ρ}
    (own : ∀ row ∈ new, chosen row = true) :
    (old.filter (!chosen ·) ++ new).filter chosen = new ∧
      (old.filter (!chosen ·) ++ new).filter (!chosen ·) = old.filter (!chosen ·) := by
  have gone : (old.filter (!chosen ·)).filter chosen = [] := by simp [List.filter_filter]
  have stays : (old.filter (!chosen ·)).filter (!chosen ·) = old.filter (!chosen ·) := by
    simp [List.filter_filter]
  have none : new.filter (!chosen ·) = [] := by simpa [List.filter_eq_nil_iff] using own
  rw [List.filter_append, List.filter_append, gone, stays, none, List.append_nil, List.nil_append,
    List.filter_eq_self.mpr own]
  exact ⟨rfl, rfl⟩

namespace Grants

/-- Whether a scope row gives a host to this member. -/
def isHostOf (uid : String) (row : ScopeRow) : Bool :=
  row.memberUid == uid && row.scopeType == "HOST"

theorem roles_replaced (uid : String) (roles : RoleSet) (now : Instant) (rows : List RoleRow) :
    (Store.replaceRoles uid roles now rows).filter (·.memberUid == uid) =
        Store.grantedRoles uid roles now ∧
      (Store.replaceRoles uid roles now rows).filter (fun row => !(row.memberUid == uid)) =
        rows.filter fun row => !(row.memberUid == uid) :=
  filter_replaced fun row new => beq_iff_eq.mpr (Store.owner_grantedRoles row new)

theorem hosts_replaced (uid : String) (hosts : HostSet) (now : Instant) (rows : List ScopeRow) :
    (Store.replaceHosts uid hosts now rows).filter (isHostOf uid) =
        Store.grantedHosts uid hosts now ∧
      (Store.replaceHosts uid hosts now rows).filter (fun row => !isHostOf uid row) =
        rows.filter fun row => !isHostOf uid row := by
  refine filter_replaced fun row new => ?_
  obtain ⟨host, -, rfl⟩ := List.mem_map.mp new
  simp [isHostOf, ScopeType.name]

/-- All rows after a change of grants, next to those before it. -/
structure Replaced (uid : String) (change : GrantChange) (now : Instant) (before after : Store) :
    Prop where
  roles : ∀ roles, change.roles = some roles → after.roleRows.filter (·.memberUid == uid) =
    roles.toList.map fun role => { memberUid := uid, roleName := role.name, createdAt := now }
  otherRoles : after.roleRows.filter (fun row => !(row.memberUid == uid)) =
    before.roleRows.filter fun row => !(row.memberUid == uid)
  keptRoles : change.roles = none → after.roles = before.roles
  hosts : ∀ hosts, change.hosts = some hosts → after.scopeRows.filter (isHostOf uid) =
    hosts.toList.map fun host =>
      { memberUid := uid, scopeType := "HOST", scopeValue := host, createdAt := now }
  otherScopes : after.scopeRows.filter (fun row => !isHostOf uid row) =
    before.scopeRows.filter fun row => !isHostOf uid row
  keptHosts : change.hosts = none → after.scopes = before.scopes
  members : after.memberRows =
    before.memberRows.map fun m => if m.uid = uid then { m with updatedAt := now } else m
  days : after.days = before.days
  migrations : after.migrations = before.migrations
  declared : after.Declared

/-- How a change of grants for a uid ends: the result and the store that it leaves. -/
inductive Applied (moment : Moment) (s : Store) (uid : String) (change : GrantChange) :
    Except Error Unit → Store → Prop
  | silent (empty : change.isEmpty = true) : Applied moment s uid change (.ok ()) s
  | nameless (reason : String) (asked : change.isEmpty = false) (nameless : uid = "") :
      Applied moment s uid change (.error (.assignmentTransaction reason)) s
  | absent (asked : change.isEmpty = false) (named : uid ≠ "")
      (absent : ∀ m ∈ s.memberRows, m.uid ≠ uid) :
      Applied moment s uid change (.error (.notFound "member" uid)) s
  | refused (reason : String) (hosts : HostSet) (named : uid ≠ "")
      (member : ∃ m ∈ s.memberRows, m.uid = uid) (supplied : change.hosts = some hosts)
      (empty : "" ∈ hosts) : Applied moment s uid change (.error (.assignmentTransaction reason)) s
  | written {after : Store} (asked : change.isEmpty = false) (named : uid ≠ "")
      (member : ∃ m ∈ s.memberRows, m.uid = uid)
      (filled : ∀ hosts, change.hosts = some hosts → "" ∉ hosts)
      (replaced : Replaced uid change moment.now s after) :
      Applied moment s uid change (.ok ()) after

theorem replaced_granted (declared : s.Declared) (uid : String) (change : GrantChange)
    (now : Instant) : Replaced uid change now s (s.granted uid change now) := by
  obtain ⟨roles, hosts⟩ := change
  refine ⟨?_, ?_, ?_, ?_, ?_, ?_, ?_, rfl, rfl, s.declared_granted uid _ now⟩
  · rintro roles ⟨⟩
    exact (roles_replaced uid roles now s.roleRows).1
  · cases roles with
    | none => rfl
    | some roles => exact (roles_replaced uid roles now s.roleRows).2
  -- A dimension that is left out is written back as it is, declarations included.
  · rintro ⟨⟩
    exact declared.roles.symm
  · rintro hosts ⟨⟩
    exact (hosts_replaced uid hosts now s.scopeRows).1
  · cases hosts with
    | none => rfl
    | some hosts => exact (hosts_replaced uid hosts now s.scopeRows).2
  · rintro ⟨⟩
    exact declared.scopes.symm
  · simp only [Store.memberRows_granted, Store.touched, beq_iff_eq]

/-- Whatever is stored, a change of grants does what it says or nothing, and which of the two only
hangs on whether it says anything, on its member, and on whether it names an empty host. -/
theorem apply_exact (declared : s.Declared) (moment : Moment) (uid : String)
    (change : GrantChange) :
    Applied moment s uid change ((apply uid change).run moment s).result
      ((apply uid change).run moment s).store := by
  rw [run_apply, declared.putGrants_eq]
  by_cases empty : change.isEmpty = true
  · rw [if_pos empty]
    exact .silent empty
  have asked : change.isEmpty = false := by simpa using empty
  rw [if_neg empty]
  by_cases nameless : uid = ""
  · rw [if_pos nameless]
    exact .nameless _ asked nameless
  rw [if_neg nameless]
  by_cases member : Members.present s uid = true
  · rw [if_pos member]
    by_cases unnamed : "" ∈ change.hosts.getD OrderedSet.empty
    · rw [if_pos unnamed]
      cases supplied : change.hosts with
      | none => simp [supplied] at unnamed
      | some hosts =>
        rw [supplied, Option.getD_some] at unnamed
        exact .refused _ hosts nameless (Store.present_iff.mp member) supplied unnamed
    · rw [if_neg unnamed]
      refine .written asked nameless (Store.present_iff.mp member) ?_
        (replaced_granted declared uid change moment.now)
      rintro hosts supplied listed
      exact unnamed (by rwa [supplied, Option.getD_some])
  · rw [if_neg member]
    exact .absent asked nameless fun m present same =>
      member (Store.present_iff.mpr ⟨m, present, same⟩)

/-- Rows that came in while no condition was asked: a role that is not registered, a scope of
another type, and a role of nobody. -/
def tampered : Store where
  members := some (Schema.memberTable [⟨"ada", "Ada", none, Instant.epoch, Instant.epoch⟩])
  roles := some (Schema.roleTable [⟨none, "ada", "ROOT", Instant.epoch⟩,
    ⟨none, "bob", "DEMO_DAY_ADMIN", Instant.epoch⟩])
  scopes := some (Schema.scopeTable [⟨none, "ada", "TEAM", "blue", Instant.epoch⟩,
    ⟨none, "ada", "HOST", "", Instant.epoch⟩])

/-- The member gets its new role and host; the scope of another type and the role of nobody stay. -/
theorem apply_exact_tampered :
    let moment : Moment := ⟨Instant.epoch, Uuid.ofNat 1⟩
    let change : GrantChange :=
      ⟨some (OrderedSet.ofList [.demoDayAdmin]), some (OrderedSet.ofList ["acme.org"])⟩
    let outcome := (apply "ada" change).run moment tampered
    tampered.Declared ∧ Applied moment tampered "ada" change outcome.result outcome.store ∧
      outcome.result = .ok () ∧
      outcome.store.roleRows.map (fun row => (row.memberUid, row.roleName)) =
        [("bob", "DEMO_DAY_ADMIN"), ("ada", "DEMO_DAY_ADMIN")] ∧
      outcome.store.scopeRows.map (fun row => (row.memberUid, row.scopeType, row.scopeValue)) =
        [("ada", "TEAM", "blue"), ("ada", "HOST", "acme.org")] := by
  intro moment change outcome
  have declared : tampered.Declared := ⟨rfl, rfl, rfl⟩
  exact ⟨declared, apply_exact declared moment "ada" change, rfl, rfl, rfl⟩

end Grants

end HostAccess
