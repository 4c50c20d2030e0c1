import HostAccess.Text.Hex

/-! # JSON values

What this library writes as JSON, and its one written form: no white space, fields in the order
given, and in strings only the quote, the backslash and the control characters escaped. -/
namespace HostAccess.Json

/-- A value to be written. Nothing here is ever a number. -/
inductive Value
  | null
  | bool (b : Bool)
  | text (s : String)
  | list (items : List Value)
  | object (fields : List (String × Value))

def escapeChar (c : Char) : List Char :=
  if c = '"' then ['\\', '"']
  else if c = '\\' then ['\\', '\\']
  else if c = '\x08' then ['\\', 'b']
  else if c = '\x0c' then ['\\', 'f']
  else if c = '\n' then ['\\', 'n']
  else if c = '\r' then ['\\', 'r']
  else if c = '\t' then ['\\', 't']
  else if h : c.toNat < 0x20 then
    ['\\', 'u', '0', '0', Text.hexChar ⟨c.toNat / 16, by omega⟩,
      Text.hexChar ⟨c.toNat % 16, by omega⟩]
  else [c]

def stringChars (s : List Char) : List Char := ['"'] ++ s.flatMap escapeChar ++ ['"']

mutual

def Value.chars : Value → List Char
  | .null => ['n', 'u', 'l', 'l']
  | .bool true => ['t', 'r', 'u', 'e']
  | .bool false => ['f', 'a', 'l', 's', 'e']
  | .text s => stringChars s.toList
  | .list items => '[' :: itemsChars items
  | .object fields => '\x7b' :: fieldsChars fields

/-- The items of a list with commas between, and the closing bracket. -/
def itemsChars : List Value → List Char
  | [] => [']']
  | [item] => item.chars ++ [']']
  | item :: rest => item.chars ++ ',' :: itemsChars rest

/-- The fields of an object with commas between, and the closing brace. -/
def fieldsChars : List (String × Value) → List Char
  | [] => ['\x7d']
  | [(name, value)] => stringChars name.toList ++ ':' :: value.chars ++ ['\x7d']
  | (name, value) :: rest =>
    stringChars name.toList ++ ':' :: value.chars ++ ',' :: fieldsChars rest

end

def Value.render (v : Value) : String := String.ofList v.chars

end HostAccess.Json
