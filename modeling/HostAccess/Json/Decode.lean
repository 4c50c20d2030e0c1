import HostAccess.Json.Draft
import HostAccess.OrderedSet

/-! # Decoding JSON

Decoders turn a draft into a value of a type of this library, or say which fault comes first in the
text: the text is not JSON, or its content has the wrong shape. A record is decoded from an object,
whose fields may come in any order, or from a list of its fields in their own order. -/
namespace HostAccess.Json

inductive Fault
  /-- The text is not JSON. -/
  | malformed
  /-- The text is JSON so far, but not of the expected shape. -/
  | mismatched
deriving DecidableEq

abbrev Decoder (α : Type) := Draft → Except Fault α

/-- The fault of meeting a value where another kind of value is expected. -/
def unexpected : Draft → Fault
  | .broken => .malformed
  | .number false => .malformed
  | .text none => .malformed
  | _ => .mismatched

def text : Decoder String
  | .text (some content) => .ok (String.ofList content)
  | draft => .error (unexpected draft)

def textAs {α : Type} (parse? : String → Option α) : Decoder α := fun draft => do
  match parse? (← text draft) with
  | some a => .ok a
  | none => .error .mismatched

def optional {α : Type} (value : Decoder α) : Decoder (Option α)
  | .null => .ok none
  | draft => (value draft).map some

/-- One of a fixed choice of names: a string, or an object with the name as its only field and
`null` for its value. -/
def oneOf {α : Type} (parse? : String → Option α) : Decoder α
  | .text content => textAs parse? (.text content)
  | .object [] true => .error .malformed
  | .object ((name, value) :: rest) closed => do
    let a ← textAs parse? (.text name)
    match value, rest, closed with
    | .null, [], true => .ok a
    | .null, _, _ => .error .malformed
    | value, _, _ => .error (unexpected value)
  | .object [] false => .error .malformed
  | _ => .error .malformed

def items {α : Type} (item : Decoder α) : List Draft → Except Fault (List α)
  | [] => .ok []
  | draft :: rest => do
    let a ← item draft
    return a :: (← items item rest)

def list {α : Type} (item : Decoder α) : Decoder (List α)
  | .list drafts closed => do
    let values ← items item drafts
    if closed then .ok values else .error .malformed
  | draft => .error (unexpected draft)

/-- A set, written as a list in any order and with any repetitions. -/
def set {α : Type} [Ord α] [Std.TransOrd α] [Std.LawfulEqOrd α] (item : Decoder α) :
    Decoder (OrderedSet α) := fun draft => (list item draft).map OrderedSet.ofList

/-! ## Records -/

abbrev Check := Draft → Except Fault Unit

def Decoder.check {α : Type} (decode : Decoder α) : Check := fun draft =>
  (decode draft).map fun _ => ()

structure FieldCheck where
  name : String
  check : Check

/-- How a record is read: its fields in order, whether other fields are passed over or refused, and
whether a list may leave out fields at its end. -/
structure Layout where
  fields : List FieldCheck
  passesOver : Bool
  mayEndEarly : Bool

abbrev Supplied := List (String × Draft)

/-- Walk the fields of an object in the order of the text. A known field must not come twice and
must meet its check; another field must be JSON, if it may be there at all. -/
def walkFields (layout : Layout) : Supplied → List (Option (List Char) × Draft) →
    Except Fault Supplied
  | seen, [] => .ok seen
  | seen, (name, value) :: rest => do
    let name ← text (.text name)
    match layout.fields.find? (·.name == name) with
    | some field =>
      if seen.any (·.1 == name) then .error .mismatched
      field.check value
      walkFields layout ((name, value) :: seen) rest
    | none =>
      if !layout.passesOver then .error .mismatched
      if !value.isJson then .error .malformed
      walkFields layout seen rest

def walkItems : List FieldCheck → List Draft → Except Fault (Supplied × List FieldCheck)
  | fields, [] => .ok ([], fields)
  | [], _ :: _ => .error .malformed
  | field :: fields, value :: rest => do
    field.check value
    let (supplied, missing) ← walkItems fields rest
    return ((field.name, value) :: supplied, missing)

/-- The fields that a draft supplies for a record of this layout. -/
def supplied (layout : Layout) : Draft → Except Fault Supplied
  | .object fields closed => do
    let seen ← walkFields layout [] fields
    if closed then .ok seen else .error .malformed
  | .list drafts closed => do
    let (seen, missing) ← walkItems layout.fields drafts
    if !closed then .error .malformed
    if !missing.isEmpty && !layout.mayEndEarly then .error .mismatched
    return seen
  | draft => .error (unexpected draft)

def required {α : Type} (fields : Supplied) (name : String) (decode : Decoder α) : Except Fault α :=
  match fields.find? (·.1 == name) with
  | some field => decode field.2
  | none => .error .mismatched

def absentable {α : Type} (fields : Supplied) (name : String) (decode : Decoder α) :
    Except Fault (Option α) :=
  match fields.find? (·.1 == name) with
  | some field => optional decode field.2
  | none => .ok none

/-- Decode a whole text. White space may stand behind the value and nothing else. -/
def decodeText {α : Type} (decode : Decoder α) (s : String) : Except Fault α := do
  let document := Document.read s.toList
  let a ← decode document.draft
  if document.finished then .ok a else .error .malformed

end HostAccess.Json
