import HostAccess.Proofs.Creations

/-! # Pages of members

A page takes a piece out of the members, in the order of their creation, and tells how many members
there are. The pages of one size that follow each other are a partition: nobody is missing and
nobody is on two of them, whatever has been changed, deleted and created again before. -/
namespace HostAccess

/-! ## Windows on a list -/

/-- Windows of one size that follow each other show a list up to where the last of them ends. -/
theorem flatMap_windows {α : Type} (items : List α) (size count : Nat) :
    ((List.range count).flatMap fun k => (items.drop (k * size)).take size) =
      items.take (count * size) := by
  induction count with
  | zero => rw [Nat.zero_mul, List.take_zero, List.range_zero, List.flatMap_nil]
  | succ count ih =>
    rw [List.range_succ, List.flatMap_append, ih, List.flatMap_singleton, Nat.succ_mul,
      List.take_add]

theorem mapM_eq_ok {α β ε : Type} {query : α → Except ε β} {answer : α → β} {asked : List α}
    (answers : ∀ a ∈ asked, query a = .ok (answer a)) :
    asked.mapM query = .ok (asked.map answer) := by
  induction asked with
  | nil => rfl
  | cons a rest ih =>
    rw [List.mapM_cons, answers a List.mem_cons_self,
      ih fun other later => answers other (List.mem_cons_of_mem _ later)]
    rfl

/-! ## Members in the order of creation -/

/-- The members of a store are in pages as they are in this list. -/
structure Store.Paged (s : Store) (members : List Member) : Prop where
  /-- Members of the list are what is found under uids. -/
  found : ∀ uid m, Members.find uid s = .ok m ↔ m ∈ members ∧ m.uid = uid
  once : (members.map Member.uid).Nodup
  /-- A page is the piece of the list that its window asks for. -/
  page : ∀ window : Pagination, window.offset ≤ 2 ^ 63 - 1 → window.limit ≤ 2 ^ 63 - 1 →
    Members.list window s = .ok ⟨(members.drop window.offset).take window.limit, members.length,
      window.offset, window.limit⟩
  /-- Pages that follow each other up to the total show the list. -/
  pages : ∀ size count, size ≤ 2 ^ 63 - 1 → (∀ k < count, k * size ≤ 2 ^ 63 - 1) →
    members.length ≤ count * size →
      ∃ pages, (List.range count).mapM (fun k => Members.list ⟨k * size, size⟩ s) = .ok pages ∧
        pages.flatMap Page.items = members

variable {s : Store}

namespace Store.Migrated

variable (migrated : s.Migrated)

include migrated

theorem uids_apart : s.memberRows.Pairwise fun a b => a.uid ≠ b.uid :=
  migrated.membersLegal.apart.imp Schema.memberTable_apart_iff.mp

theorem find_member_eq_ok_iff (owned : s.Owned) {uid : String} {m : Member} :
    Members.find uid s = .ok m ↔ m ∈ s.memberRows ∧ m.uid = uid := by
  rw [migrated.find_member]
  by_cases nameless : uid = ""
  · rw [if_pos nameless]
    refine iff_of_false nofun ?_
    rintro ⟨present, rfl⟩
    exact owned.named m present nameless
  · rw [if_neg nameless, ← Table.find?_key_eq_some_iff migrated.uids_apart]
    cases s.memberRows.find? (·.uid == uid) <;> simp

variable {members : List Member} (same : members.Perm s.memberRows)
  (inTurn : members.Pairwise (·.createdAt < ·.createdAt))

include same inTurn

/-- The rows may be stored in any order. A page shows them by their times. -/
theorem list_inTurn {window : Pagination} (offset : window.offset ≤ 2 ^ 63 - 1)
    (limit : window.limit ≤ 2 ^ 63 - 1) :
    Members.list window s = .ok ⟨(members.drop window.offset).take window.limit, members.length,
      window.offset, window.limit⟩ := by
  rw [migrated.list_read offset limit, mergeSort_of_inTurn same inTurn, same.length_eq]

theorem paged (owned : s.Owned) : s.Paged members where
  found _ _ := by rw [migrated.find_member_eq_ok_iff owned, same.mem_iff]
  once := (same.map Member.uid).nodup_iff.mpr (List.pairwise_map.mpr migrated.uids_apart)
  page _ offset limit := migrated.list_inTurn same inTurn offset limit
  pages size count limit offsets covered := by
    refine ⟨_, mapM_eq_ok fun k asked =>
      migrated.list_inTurn same inTurn (offsets k (List.mem_range.mp asked)) limit, ?_⟩
    rw [List.flatMap_map, flatMap_windows, List.take_of_length_le covered]

end Store.Migrated

/-- The members are those who were created and not deleted since, listed in the order of their
latest creation. A page is a piece of this list, and pages that follow each other list every member
exactly once. -/
theorem Run.member_pages (run : Run) (inTurn : run.MembersInTurn) :
    ∃ members : List Member,
      members.map Member.creation = (run.succeeded Store.fresh).roll [] ∧
        (∀ creation, creation ∈ members.map Member.creation ↔
          (run.succeeded Store.fresh).Stands creation) ∧
        (Run.finalStore Store.fresh run).Paged members := by
  obtain ⟨settled, owned⟩ := Run.settled_and_owned run
  refine ⟨_, members_fresh run, fun creation => ?_,
    settled.toMigrated.paged (.refl _) (memberRows_inTurn inTurn) owned⟩
  rw [members_fresh, mem_roll_iff]
  simp only [List.not_mem_nil, false_and, false_or]

/-- Members are given roles, deleted and created again. -/
def Run.reenrolment : Run :=
  [(.tick 1, .createMember ⟨"ada", "Ada", none⟩), (.tick 2, .createMember ⟨"bob", "Bob", none⟩),
    (.tick 3, .createMember ⟨"cleo", "Cleo", none⟩),
    (.tick 4, .replaceRoles "ada" (OrderedSet.ofList [.directoryAdmin])),
    (.tick 5, .deleteMember "bob"), (.tick 6, .createMember ⟨"bob", "Bob", none⟩)]

/-- Who was created again is the last, on the second page. -/
theorem Run.member_pages_reenrolment :
    reenrolment.MembersInTurn ∧ ∃ members : List Member,
      members.map Member.creation =
          [⟨"ada", (Moment.tick 1).now⟩, ⟨"cleo", (Moment.tick 3).now⟩,
            ⟨"bob", (Moment.tick 6).now⟩] ∧
        ∃ pages, (List.range 2).mapM (fun k =>
            Members.list ⟨k * 2, 2⟩ (Run.finalStore Store.fresh reenrolment)) = .ok pages ∧
          pages.flatMap Page.items = members := by
  have created : (reenrolment.succeeded Store.fresh).membersCreated =
      [⟨"ada", (Moment.tick 1).now⟩, ⟨"bob", (Moment.tick 2).now⟩, ⟨"cleo", (Moment.tick 3).now⟩,
        ⟨"bob", (Moment.tick 6).now⟩] := by rfl
  have inTurn : reenrolment.MembersInTurn := by
    rw [MembersInTurn, created]
    decide
  obtain ⟨members, history, -, paged⟩ := member_pages reenrolment inTurn
  have listed : members.map Member.creation = [⟨"ada", (Moment.tick 1).now⟩,
      ⟨"cleo", (Moment.tick 3).now⟩, ⟨"bob", (Moment.tick 6).now⟩] := history.trans rfl
  have three : members.length = 3 := by
    simpa using congrArg List.length listed
  refine ⟨inTurn, members, listed, paged.pages 2 2 (by decide) (fun k asked => ?_) ?_⟩
  · omega
  · omega

end HostAccess
