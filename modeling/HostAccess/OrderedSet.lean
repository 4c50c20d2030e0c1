/-! # Ordered sets

A finite set of an ordered type, kept as its strictly ascending list of elements. The list is a
canonical form: two sets with the same elements are equal, so a set answers with one order
whatever order and repetitions it was built from. -/
namespace HostAccess

/-- Ascending lists without repetitions, as sets. -/
structure OrderedSet (α : Type) [Ord α] where
  toList : List α
  ascending : toList.Pairwise (fun a b => compare a b = .lt)

namespace OrderedSet

variable {α : Type} [Ord α]

instance [DecidableEq α] : DecidableEq (OrderedSet α) := fun a b =>
  if same : a.toList = b.toList then
    isTrue (by cases a; cases b; cases same; rfl)
  else
    isFalse (fun equal => same (by rw [equal]))

instance : Membership α (OrderedSet α) := ⟨fun s a => a ∈ s.toList⟩

theorem mem_toList {a : α} {s : OrderedSet α} : a ∈ s.toList ↔ a ∈ s := Iff.rfl

instance [DecidableEq α] (a : α) (s : OrderedSet α) : Decidable (a ∈ s) :=
  inferInstanceAs (Decidable (a ∈ s.toList))

def empty : OrderedSet α := ⟨[], .nil⟩

@[simp] theorem not_mem_empty {a : α} : a ∉ (empty : OrderedSet α) := List.not_mem_nil

def size (s : OrderedSet α) : Nat := s.toList.length

def contains [DecidableEq α] (s : OrderedSet α) (a : α) : Bool := decide (a ∈ s)

/-- Put `a` at its place in an ascending list, unless it is there already. -/
def place (a : α) : List α → List α
  | [] => [a]
  | b :: rest =>
    match compare a b with
    | .lt => a :: b :: rest
    | .eq => b :: rest
    | .gt => b :: place a rest

section Lawful

variable [Std.LawfulEqOrd α]

theorem not_below_self (a : α) : compare a a ≠ .lt := by
  have same : compare a a = .eq := Std.ReflCmp.compare_self
  rw [same]
  decide

theorem mem_place {a c : α} {l : List α} : c ∈ place a l ↔ c = a ∨ c ∈ l := by
  induction l with
  | nil => simp [place]
  | cons b rest ih =>
    unfold place
    split
    next => simp
    next same =>
      have : a = b := Std.LawfulEqOrd.eq_of_compare same
      subst this
      simp
    next => simp only [List.mem_cons, ih]; grind

variable [Std.TransOrd α]

theorem pairwise_place {a : α} {l : List α}
    (ascending : l.Pairwise (fun x y => compare x y = .lt)) :
    (place a l).Pairwise (fun x y => compare x y = .lt) := by
  induction l with
  | nil => simp [place]
  | cons b rest ih =>
    have ⟨below, tail⟩ := List.pairwise_cons.mp ascending
    unfold place
    split
    next less =>
      refine List.pairwise_cons.mpr ⟨fun c member => ?_, ascending⟩
      rcases List.mem_cons.mp member with rfl | member
      · exact less
      · exact Std.TransCmp.lt_trans less (below c member)
    next => exact ascending
    next greater =>
      refine List.pairwise_cons.mpr ⟨fun c member => ?_, ih tail⟩
      rcases mem_place.mp member with rfl | member
      · exact Std.OrientedCmp.lt_of_gt greater
      · exact below c member

def insert (s : OrderedSet α) (a : α) : OrderedSet α :=
  ⟨place a s.toList, pairwise_place s.ascending⟩

def ofList (l : List α) : OrderedSet α := l.foldr (fun a s => s.insert a) empty

theorem mem_insert {a c : α} {s : OrderedSet α} : c ∈ s.insert a ↔ c = a ∨ c ∈ s := mem_place

@[simp] theorem mem_ofList {c : α} {l : List α} : c ∈ ofList l ↔ c ∈ l := by
  induction l with
  | nil => exact Iff.rfl
  | cons a rest ih => rw [List.mem_cons, ← ih]; exact mem_insert

/-- Sets are equal as soon as they have the same elements. -/
theorem ext {s t : OrderedSet α} (same : ∀ a, a ∈ s ↔ a ∈ t) : s = t := by
  obtain ⟨l, ascending⟩ := s
  obtain ⟨m, descending⟩ := t
  suffices l = m by subst this; rfl
  change ∀ a, a ∈ l ↔ a ∈ m at same
  induction l generalizing m with
  | nil =>
    cases m with
    | nil => rfl
    | cons b rest => exact absurd ((same b).mpr List.mem_cons_self) List.not_mem_nil
  | cons a rest ih =>
    cases m with
    | nil => exact absurd ((same a).mp List.mem_cons_self) List.not_mem_nil
    | cons b rest' =>
      have ⟨belowA, tailA⟩ := List.pairwise_cons.mp ascending
      have ⟨belowB, tailB⟩ := List.pairwise_cons.mp descending
      have heads : a = b := by
        rcases List.mem_cons.mp ((same a).mp List.mem_cons_self) with equal | member
        · exact equal
        rcases List.mem_cons.mp ((same b).mpr List.mem_cons_self) with equal | other
        · exact equal.symm
        exact absurd (Std.TransCmp.lt_trans (belowA b other) (belowB a member)) (not_below_self a)
      subst heads
      congr 1
      refine ih tailA rest' tailB (fun c => ?_)
      have at_c := same c
      constructor
      · intro member
        rcases List.mem_cons.mp (at_c.mp (List.mem_cons_of_mem _ member)) with rfl | member'
        · exact absurd (belowA c member) (not_below_self c)
        · exact member'
      · intro member
        rcases List.mem_cons.mp (at_c.mpr (List.mem_cons_of_mem _ member)) with rfl | member'
        · exact absurd (belowB c member) (not_below_self c)
        · exact member'

theorem ofList_toList (s : OrderedSet α) : ofList s.toList = s := ext (fun _ => mem_ofList)

end Lawful

end OrderedSet

end HostAccess
