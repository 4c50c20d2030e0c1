import HostAccess.Proofs.Integrity
import HostAccess.Proofs.Profiles

/-! # One relation behind all reads

Roles and hosts are asked for in six ways, each of which looks at the rows by itself. On a migrated
store all of them answer from one relation between uids and roles and one between uids and hosts;
and where rows belong to members, the list of the holders of a role names members only. -/
namespace HostAccess

theorem inOrder_ascending {texts : List String} (apart : texts.Nodup) :
    (inOrder texts).Pairwise (· < ·) := by
  have sorted : (inOrder texts).Pairwise fun a b => decide (a ≤ b) = true := by
    refine List.pairwise_mergeSort (fun a b c first second => ?_) (fun a b => ?_) texts
    · simp only [decide_eq_true_eq] at first second ⊢
      exact String.le_trans first second
    · simpa using String.le_total a b
  have differ : (inOrder texts).Pairwise (· ≠ ·) :=
    (List.mergeSort_perm texts _).nodup_iff.mpr apart
  -- What is sorted and never repeats is sorted strictly.
  refine (sorted.and differ).imp fun {a b} ⟨below, differ⟩ => ?_
  apply Classical.byContradiction
  intro above
  exact differ (String.le_antisymm (of_decide_eq_true below) (String.not_lt.mp above))

namespace Store

variable {s : Store}

namespace Migrated

variable (migrated : s.Migrated)

include migrated

/-- The holders of a role are those whose rows name it, each of them once. -/
theorem holders_read (role : Role) :
    ∃ uids, Roles.holders role s = .ok uids ∧ uids.Pairwise (· < ·) ∧
      ∀ uid, uid ∈ uids ↔ s.HoldsRole uid role := by
  have read : Roles.holders role s =
      .ok (inOrder ((s.roleRows.filter (·.roleName == role.name)).map (·.memberUid))) := by
    rw [Roles.holders, migrated.readRoles]
    rfl
  refine ⟨_, read, inOrder_ascending ?_, fun uid => ?_⟩
  -- Two rows of one role and one member would have one key of the unique index.
  · rw [List.Nodup, List.pairwise_map]
    refine List.Pairwise.imp_of_mem ?_ (migrated.rolesLegal.apart.filter _)
    intro a b first second apart same
    have named := (List.mem_filter.mp first).2
    have named' := (List.mem_filter.mp second).2
    simp only [beq_iff_eq] at named named'
    exact (Schema.roleTable_apart_iff.mp apart).1 ⟨same, named.trans named'.symm⟩
  · simp only [mem_inOrder, List.mem_map, List.mem_filter, beq_iff_eq, HoldsRole]
    constructor
    · rintro ⟨row, ⟨present, named⟩, owner⟩
      exact ⟨row, present, owner, named⟩
    · rintro ⟨row, present, owner, named⟩
      exact ⟨row, ⟨present, named⟩, owner⟩

end Migrated

/-- The answers of all reads about a uid and a role, put together from a set of roles and a set of
hosts. -/
structure ReadsAgree (s : Store) (uid : String) (role : Role) (roles : RoleSet) (hosts : HostSet) :
    Prop where
  rolesRead : Roles.ofMember uid s = .ok roles
  hostsRead : Scopes.hosts uid s = .ok hosts
  grantsRead : Grants.ofMember uid s = .ok ⟨roles, hosts⟩
  scopesRead : ∃ entries, Scopes.ofMember uid s = .ok entries ∧
    ∀ entry, entry ∈ entries ↔ ∃ host ∈ hosts, entry = ⟨uid, .host, host⟩
  hostsIfHeldRead : Grants.hostsIfHeld uid role s = .ok (if role ∈ roles then some hosts else none)
  holdersRead : ∃ uids, Roles.holders role s = .ok uids ∧ uids.Pairwise (· < ·) ∧
    (uid ∈ uids ↔ role ∈ roles) ∧ ∀ holder ∈ uids, Members.isMember holder s = .ok true

theorem Migrated.readsAgree (migrated : s.Migrated) (owned : s.Owned) (uid : String) (role : Role) :
    s.ReadsAgree uid role (s.rolesOf uid) (s.hostsOf uid) where
  rolesRead := migrated.roles_read uid
  hostsRead := migrated.hosts_read uid
  grantsRead := migrated.grants_read uid
  scopesRead := by
    refine ⟨_, migrated.scopes_read uid, fun entry => ?_⟩
    simp only [OrderedSet.mem_ofList, List.mem_map, OrderedSet.mem_toList, eq_comm]
  hostsIfHeldRead := migrated.hostsIfHeld_read uid role
  holdersRead := by
    obtain ⟨uids, read, ascending, held⟩ := migrated.holders_read role
    refine ⟨uids, read, ascending, (held uid).trans mem_rolesOf.symm, fun holder listed => ?_⟩
    obtain ⟨m, present, named⟩ := owned.holdsRole_member ((held holder).mp listed)
    rw [Members.isMember_eq, if_neg (named ▸ owned.named m present),
      present_iff.mpr ⟨m, present, named⟩]

end Store

/-- Whatever the directory has been asked to do, all its reads answer from the rows of roles and the
rows of hosts, and agree. -/
theorem Run.reads_agree (run : Run) (uid : String) (role : Role) :
    ∃ roles hosts, (Run.finalStore Store.fresh run).ReadsAgree uid role roles hosts ∧
      (∀ r, r ∈ roles ↔ (Run.finalStore Store.fresh run).HoldsRole uid r) ∧
      ∀ host, host ∈ hosts ↔ (Run.finalStore Store.fresh run).HasHost uid host := by
  obtain ⟨settled, owned⟩ := Run.settled_and_owned run
  exact ⟨_, _, settled.toMigrated.readsAgree owned uid role, fun _ => Store.mem_rolesOf,
    fun _ => Store.mem_hostsOf⟩

end HostAccess
