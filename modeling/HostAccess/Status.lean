/-! # Status of a demo day

A demo day is upcoming, then live, then completed. Its status may stay or move forward, over several
steps at once if need be, and never moves back. -/
namespace HostAccess

inductive Status
  | upcoming
  | live
  | completed
deriving DecidableEq

namespace Status

def all : List Status := [.upcoming, .live, .completed]

def rank : Status → Nat
  | .upcoming => 0
  | .live => 1
  | .completed => 2

def name : Status → String
  | .upcoming => "UPCOMING"
  | .live => "LIVE"
  | .completed => "COMPLETED"

def ofName? (name : String) : Option Status := all.find? (·.name == name)

theorem ofName?_name (s : Status) : ofName? s.name = some s := by cases s <;> decide

theorem name_of_ofName? {name : String} {s : Status} (found : ofName? name = some s) :
    s.name = name := by
  simpa using List.find?_some found

theorem name_injective {s t : Status} (same : s.name = t.name) : s = t := by
  have found := ofName?_name s
  rw [same, ofName?_name] at found
  exact (Option.some.inj found).symm

def allows (current next : Status) : Bool := decide (current.rank ≤ next.rank)

/-! ## The order of a life

The order in which the statuses are gone through, told without numbers. -/

inductive Precedes : Status → Status → Prop
  | upcoming_live : Precedes .upcoming .live
  | upcoming_completed : Precedes .upcoming .completed
  | live_completed : Precedes .live .completed

instance : LT Status := ⟨Precedes⟩

instance : LE Status := ⟨fun earlier later => earlier = later ∨ earlier < later⟩

instance (a b : Status) : Decidable (a < b) :=
  match a, b with
  | .upcoming, .live => .isTrue .upcoming_live
  | .upcoming, .completed => .isTrue .upcoming_completed
  | .live, .completed => .isTrue .live_completed
  | .upcoming, .upcoming | .live, .upcoming | .live, .live => .isFalse nofun
  | .completed, .upcoming | .completed, .live | .completed, .completed => .isFalse nofun

instance (a b : Status) : Decidable (a ≤ b) := inferInstanceAs (Decidable (a = b ∨ a < b))

/-- The ranks put this order, and no other, into numbers. -/
theorem rank_le_iff {a b : Status} : a.rank ≤ b.rank ↔ a ≤ b := by
  cases a <;> cases b <;> decide

theorem rank_lt_iff {a b : Status} : a.rank < b.rank ↔ a < b := by
  cases a <;> cases b <;> decide

theorem le_refl (s : Status) : s ≤ s := Or.inl rfl

theorem le_trans {a b c : Status} (first : a ≤ b) (second : b ≤ c) : a ≤ c :=
  rank_le_iff.mp (Nat.le_trans (rank_le_iff.mpr first) (rank_le_iff.mpr second))

theorem ne_upcoming_of_le {a b : Status} (started : a ≠ .upcoming) (forward : a ≤ b) :
    b ≠ .upcoming := by
  rintro rfl
  cases a with
  | upcoming => exact started rfl
  | live | completed => exact absurd forward (by decide)

theorem allows_iff {current next : Status} : current.allows next = true ↔ current ≤ next := by
  rw [allows, decide_eq_true_iff, rank_le_iff]

theorem allows_eq_false_iff {current next : Status} :
    current.allows next = false ↔ next < current := by
  rw [allows, decide_eq_false_iff_not, Nat.not_le, rank_lt_iff]

end Status

end HostAccess
