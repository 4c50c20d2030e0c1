import HostAccess.Model

/-! # Tables

A table of the store is what has been declared of it, its fields and indexes, together with its
rows. A write is refused when a row breaks an assertion of a declared field, repeats a key that a
unique index guards, or takes an id that is in use; a refused write leaves nothing behind. -/
namespace HostAccess

inductive TableName
  | migration
  | member
  | memberRole
  | memberScope
  | demoDay
deriving DecidableEq

namespace TableName

def all : List TableName := [.migration, .member, .memberRole, .memberScope, .demoDay]

def name : TableName → String
  | .migration => "_migration"
  | .member => "member"
  | .memberRole => "member_role"
  | .memberScope => "member_scope"
  | .demoDay => "demo_day"

def ofName? (name : String) : Option TableName := all.find? (·.name == name)

end TableName

inductive Cell
  | text (s : String)
  | number (n : Int)
deriving DecidableEq

inductive Assertion
  | oneOf (names : List String)
  | nonempty
deriving DecidableEq

def Assertion.holds : Assertion → Cell → Bool
  | .oneOf names, .text s => names.contains s
  | .nonempty, .text s => !s.isEmpty
  | _, .number _ => false

/-- A declared field, with the condition on its content if there is one. -/
structure Field where
  name : String
  assertion : Option Assertion := none
deriving DecidableEq

structure Index where
  name : String
  columns : List String
  unique : Bool := false
deriving DecidableEq

/-- Types whose values are rows. A row without an id was given one that nothing can name. -/
class Row (ρ : Type) where
  id : ρ → Option String
  cell : ρ → String → Option Cell

inductive Refusal
  | missingTable (table : TableName)
  | unknownTable (name : String)
  | emptyId
  | idInUse (id : String)
  | assertionBroken (field : String)
  | keyInUse (index : String)
  | alreadyDeclared (name : String)
  | wrongType (field : String)
  | unknownField (field : String)
  | outOfRange
deriving DecidableEq

def Refusal.reason : Refusal → String
  | .missingTable table => "the table " ++ table.name ++ " does not exist"
  | .unknownTable name => "there is no table " ++ name
  | .emptyId => "a record id must not be empty"
  | .idInUse id => "the record id " ++ id ++ " is in use"
  | .assertionBroken field => "the value of field " ++ field ++ " does not meet its assertion"
  | .keyInUse index => "index " ++ index ++ " already contains this key"
  | .alreadyDeclared name => name ++ " is already declared"
  | .wrongType field => "the value of field " ++ field ++ " has the wrong type"
  | .unknownField field => "there is no field " ++ field
  | .outOfRange => "a number is out of range"

def Refusal.toStoreError (r : Refusal) : StoreError := .engine r.reason

/-- A refused statement of a transaction, which cancels the transaction. -/
def Refusal.toCancellation (r : Refusal) : StoreError := .transaction r.reason

def Refusal.toRowError (r : Refusal) : StoreError := .invalidRow (.refused r.reason)

/-- Declarations and rows of one table. -/
structure Table (ρ : Type) where
  fields : List Field := []
  indexes : List Index := []
  rows : List ρ := []
deriving DecidableEq

namespace Table

variable {ρ : Type} [Row ρ]

def meets (row : ρ) (field : Field) : Bool :=
  match field.assertion with
  | none => true
  | some assertion =>
    match Row.cell row field.name with
    | some cell => assertion.holds cell
    | none => false

def brokenField? (t : Table ρ) (row : ρ) : Option Field := t.fields.find? (!meets row ·)

def sameKey (index : Index) (a b : ρ) : Bool :=
  index.columns.all fun column => Row.cell a column == Row.cell b column

/-- The first unique index that already holds the key of a row. -/
def takenIndex? (t : Table ρ) (row : ρ) : Option Index :=
  t.indexes.find? fun index => index.unique && t.rows.any (sameKey index row)

def hasId (t : Table ρ) (id : String) : Bool := t.rows.any fun row => Row.id row == some id

def insert (t : Table ρ) (row : ρ) : Except Refusal (Table ρ) :=
  -- Of several faults, the one that is reported is the first in this order.
  match t.brokenField? row, t.takenIndex? row, (Row.id row).filter t.hasId with
  | some field, _, _ => .error (.assertionBroken field.name)
  | none, some index, _ => .error (.keyInUse index.name)
  | none, none, some id => .error (.idInUse id)
  | none, none, none => .ok { t with rows := t.rows ++ [row] }

def insertAll (t : Table ρ) : List ρ → Except Refusal (Table ρ)
  | [] => .ok t
  | row :: rest => do (← t.insert row).insertAll rest

def remove (t : Table ρ) (chosen : ρ → Bool) : Table ρ :=
  { t with rows := t.rows.filter fun row => !chosen row }

/-- Change the chosen rows. Every changed row must meet all conditions, not only those of the
columns that change. A change leaves the columns of unique indexes alone. -/
def revise (t : Table ρ) (chosen : ρ → Bool) (edit : ρ → ρ) : Except Refusal (Table ρ) :=
  match ((t.rows.filter chosen).map edit).findSome? t.brokenField? with
  | some field => .error (.assertionBroken field.name)
  | none => .ok { t with rows := t.rows.map fun row => if chosen row then edit row else row }

end Table

end HostAccess
