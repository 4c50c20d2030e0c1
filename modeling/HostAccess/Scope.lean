import HostAccess.Error
import HostAccess.OrderedSet

/-! # Scopes

A scope entry ties a member to a value of some type. Hosts are the only type there is. -/
namespace HostAccess

inductive ScopeType
  | host
deriving DecidableEq

namespace ScopeType

instance : Ord ScopeType := ⟨fun _ _ => .eq⟩

instance : Std.TransOrd ScopeType where
  eq_swap := rfl
  isLE_trans := fun _ _ => rfl

instance : Std.LawfulEqOrd ScopeType where
  compare_self := rfl
  eq_of_compare := by intro s t; cases s; cases t; exact fun _ => rfl

def name : ScopeType → String
  | .host => "HOST"

def ofName? (name : String) : Option ScopeType := if name = "HOST" then some .host else none

theorem ofName?_name (t : ScopeType) : ofName? t.name = some t := by cases t; rfl

/-- The scope type of a name, or the complaint that there is none. -/
def parse (name : String) : Except Error ScopeType :=
  match ofName? name with
  | some type => .ok type
  | none => .error (.validation (.unknownScopeType name))

end ScopeType

structure ScopeEntry where
  memberUid : String
  scopeType : ScopeType
  value : String
deriving DecidableEq

namespace ScopeEntry

def order : ScopeEntry → ScopeEntry → Ordering :=
  compareLex (compareOn memberUid) (compareLex (compareOn scopeType) (compareOn value))

instance : Ord ScopeEntry := ⟨order⟩

instance : Std.TransOrd ScopeEntry := inferInstanceAs (Std.TransCmp
  (compareLex (compareOn memberUid) (compareLex (compareOn scopeType) (compareOn value))))

instance : Std.LawfulEqOrd ScopeEntry where
  compare_self := Std.ReflCmp.compare_self
  eq_of_compare := by
    intro a b same
    obtain ⟨sameMember, rest⟩ := compareLex_eq_eq.mp same
    obtain ⟨sameType, sameValue⟩ := compareLex_eq_eq.mp rest
    have member : a.memberUid = b.memberUid := Std.LawfulEqOrd.eq_of_compare sameMember
    have type : a.scopeType = b.scopeType := Std.LawfulEqOrd.eq_of_compare sameType
    have value : a.value = b.value := Std.LawfulEqOrd.eq_of_compare sameValue
    cases a; cases b
    simp_all

end ScopeEntry

end HostAccess
