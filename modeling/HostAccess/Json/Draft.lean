import HostAccess.Json.Token
import HostAccess.Json.Value

/-! # JSON drafts

A draft is what a text shows of a JSON value up to the first place where the text stops being JSON.
The place itself is kept, as a `broken` value or an unclosed container. A decoder that walks a draft
in the order of the text therefore meets a fault of the text and a fault of the content in the
order in which one pass over the text would. -/
namespace HostAccess.Json

inductive Draft
  | broken
  | null
  | bool (b : Bool)
  | number (inRange : Bool)
  | text (content : Option (List Char))
  | list (items : List Draft) (closed : Bool)
  | object (fields : List (Option (List Char) × Draft)) (closed : Bool)

mutual

/-- The value at the front of the tokens, and the tokens behind it. -/
def readValue : Nat → List Token → Draft × List Token
  | 0, _ => (.broken, [])
  | _, [] => (.broken, [])
  | fuel + 1, token :: rest =>
    match token with
    | .null => (.null, rest)
    | .bool b => (.bool b, rest)
    | .number inRange => (.number inRange, rest)
    | .text content => (.text content, rest)
    | .openList =>
      match rest with
      | .closeList :: rest => (.list [] true, rest)
      | rest =>
        let (items, closed, rest) := readItems fuel rest
        (.list items closed, rest)
    | .openObject =>
      match rest with
      | .closeObject :: rest => (.object [] true, rest)
      | rest =>
        let (fields, closed, rest) := readFields fuel rest
        (.object fields closed, rest)
    | _ => (.broken, [])

/-- One or more items with commas between, the closing bracket, and the tokens behind it. -/
def readItems : Nat → List Token → List Draft × Bool × List Token
  | 0, _ => ([], false, [])
  | fuel + 1, tokens =>
    let (item, rest) := readValue fuel tokens
    match rest with
    | .closeList :: rest => ([item], true, rest)
    | .comma :: rest =>
      let (items, closed, rest) := readItems fuel rest
      (item :: items, closed, rest)
    | _ => ([item], false, [])

/-- One or more fields with commas between, the closing brace, and the tokens behind it. -/
def readFields : Nat → List Token → List (Option (List Char) × Draft) × Bool × List Token
  | 0, _ => ([], false, [])
  | fuel + 1, .text name :: .colon :: tokens =>
    let (value, rest) := readValue fuel tokens
    match rest with
    | .closeObject :: rest => ([(name, value)], true, rest)
    | .comma :: rest =>
      let (fields, closed, rest) := readFields fuel rest
      ((name, value) :: fields, closed, rest)
    | _ => ([(name, value)], false, [])
  | _ + 1, .text name :: _ => ([(name, .broken)], false, [])
  | _ + 1, _ => ([], false, [])

end

/-- A text read as one value: its draft, and whether nothing but white space stands behind it. -/
structure Document where
  draft : Draft
  finished : Bool

/-- Read a text. A value takes at least one token at every level, so twice their number is fuel
enough. -/
def Document.read (cs : List Char) : Document :=
  let tokens := tokens cs
  let (draft, rest) := readValue (2 * tokens.length) tokens
  ⟨draft, rest.isEmpty⟩

mutual

def Draft.ofValue : Value → Draft
  | .null => .null
  | .bool b => .bool b
  | .text s => .text (some s.toList)
  | .list items => .list (Draft.ofItems items) true
  | .object fields => .object (Draft.ofFields fields) true

def Draft.ofItems : List Value → List Draft
  | [] => []
  | item :: rest => Draft.ofValue item :: Draft.ofItems rest

def Draft.ofFields : List (String × Value) → List (Option (List Char) × Draft)
  | [] => []
  | (name, value) :: rest => (some name.toList, Draft.ofValue value) :: Draft.ofFields rest

end

mutual

/-- Whether the text of this value is JSON throughout. A value that is passed over may be any
JSON: halves of surrogate pairs and numbers out of range included. -/
def Draft.isJson : Draft → Bool
  | .broken => false
  | .null => true
  | .bool _ => true
  | .number _ => true
  | .text _ => true
  | .list items closed => Draft.areJson items && closed
  | .object fields closed => Draft.fieldsAreJson fields && closed

def Draft.areJson : List Draft → Bool
  | [] => true
  | item :: rest => item.isJson && Draft.areJson rest

def Draft.fieldsAreJson : List (Option (List Char) × Draft) → Bool
  | [] => true
  | (_, value) :: rest => value.isJson && Draft.fieldsAreJson rest

end

end HostAccess.Json
