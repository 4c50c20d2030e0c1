import HostAccess.Text.Decimal
import HostAccess.Text.Hex

/-! # JSON tokens

The lexical level of RFC 8259, read strictly from left to right. Reading never fails as a whole:
where the text stops being JSON the tokens end with `broken`, so whoever consumes them meets the
faults of a document in the order of its text. -/
namespace HostAccess.Json

open Text

/-- A lexical element. A string that escapes one half of a surrogate pair has no text, and a number
may lie beyond the range of double precision; both are well-formed all the same. -/
inductive Token
  | openObject
  | closeObject
  | openList
  | closeList
  | colon
  | comma
  | null
  | bool (b : Bool)
  | number (inRange : Bool)
  | text (content : Option (List Char))
  | broken
deriving DecidableEq

def unitOf (a b c d : Char) : Option Nat := do
  let a ← hexValue? a
  let b ← hexValue? b
  let c ← hexValue? c
  let d ← hexValue? d
  return ((a.val * 16 + b.val) * 16 + c.val) * 16 + d.val

def isHighHalf (unit : Nat) : Bool := 0xd800 ≤ unit && unit ≤ 0xdbff

def isLowHalf (unit : Nat) : Bool := 0xdc00 ≤ unit && unit ≤ 0xdfff

/-- The character that a two-character escape other than `\u` names. -/
def simpleEscape? (c : Char) : Option Char :=
  if c = '"' then some '"'
  else if c = '\\' then some '\\'
  else if c = '/' then some '/'
  else if c = 'b' then some '\x08'
  else if c = 'f' then some '\x0c'
  else if c = 'n' then some '\n'
  else if c = 'r' then some '\r'
  else if c = 't' then some '\t'
  else none

def prepend (code : Nat) (following : List Nat × List Char) : List Nat × List Char :=
  (code :: following.1, following.2)

/-- Read the inside of a string up to its closing quote: its code points, among which escaped
halves of surrogate pairs, and what follows the quote. There is no result when the string does not
end or holds what no string may hold. -/
def stringBody? : List Char → Option (List Nat × List Char)
  | [] => none
  | '"' :: rest => some ([], rest)
  | '\\' :: 'u' :: a :: b :: c :: d :: rest =>
    match unitOf a b c d with
    | some unit => (stringBody? rest).map (prepend unit)
    | none => none
  | '\\' :: c :: rest =>
    match simpleEscape? c with
    | some e => (stringBody? rest).map (prepend e.toNat)
    | none => none
  | c :: rest =>
    if c.toNat < 0x20 ∨ c = '\\' then none else (stringBody? rest).map (prepend c.toNat)

/-- Join each first half with the second half that follows it. A half without its partner leaves
no text. -/
def joinHalves : List Nat → Option (List Char)
  | [] => some []
  | high :: low :: rest =>
    if isHighHalf high then
      if isLowHalf low then
        (joinHalves rest).map
          (Char.ofNat (0x10000 + (high - 0xd800) * 0x400 + (low - 0xdc00)) :: ·)
      else none
    else if isLowHalf high then none
    else (joinHalves (low :: rest)).map (Char.ofNat high :: ·)
  | [code] => if isHighHalf code || isLowHalf code then none else some [Char.ofNat code]

/-- The least magnitude that rounds beyond the largest finite double. -/
def doubleLimit : Nat := Nat.pow 2 1024 - Nat.pow 2 970

/-- Whether `significand` times ten to the `exponent` is within the range of double precision. -/
def inDoubleRange (significand digits : Nat) (exponent : Int) : Bool :=
  -- The cases in the middle keep the powers small, whatever the exponent.
  if significand = 0 then true
  else if 310 < exponent then false
  else if digits + exponent ≤ 308 then true
  else if 0 ≤ exponent then significand * Nat.pow 10 exponent.toNat < doubleLimit
  else significand < doubleLimit * Nat.pow 10 exponent.natAbs

/-- The integer part of a number: one zero, or digits that do not start with one. -/
def integerPart? (cs : List Char) : Option (List Char × List Char) :=
  let digits := cs.takeWhile isDigit
  if digits.isEmpty ∨ (digits.head? = some '0' ∧ 1 < digits.length) then none
  else some (digits, cs.drop digits.length)

def fractionPart? (cs : List Char) : Option (List Char × List Char) :=
  match cs with
  | '.' :: rest =>
    let digits := rest.takeWhile isDigit
    if digits.isEmpty then none else some (digits, rest.drop digits.length)
  | cs => some ([], cs)

def exponentPart? (cs : List Char) : Option (Int × List Char) :=
  match cs with
  | [] => some (0, [])
  | e :: rest =>
    if e = 'e' ∨ e = 'E' then
      let (sign, rest) : Int × List Char := match rest with
        | '+' :: rest => (1, rest)
        | '-' :: rest => (-1, rest)
        | rest => (1, rest)
      let digits := rest.takeWhile isDigit
      if digits.isEmpty then none
      else some (sign * digitsValue digits, rest.drop digits.length)
    else some (0, e :: rest)

def number? (cs : List Char) : Option (Token × List Char) := do
  let (whole, cs) ← integerPart? cs
  let (fraction, cs) ← fractionPart? cs
  let (exponent, cs) ← exponentPart? cs
  -- Moving the point behind the last digit lowers the exponent by the length of the fraction.
  let digits := whole ++ fraction
  return (.number
    (inDoubleRange (digitsValue digits) digits.length (exponent - fraction.length)), cs)

/-- The token at the front of a text that starts with one, and what follows it. -/
def nextToken (c : Char) (rest : List Char) : Token × List Char :=
  if c = '\x7b' then (.openObject, rest)
  else if c = '\x7d' then (.closeObject, rest)
  else if c = '[' then (.openList, rest)
  else if c = ']' then (.closeList, rest)
  else if c = ':' then (.colon, rest)
  else if c = ',' then (.comma, rest)
  else if c = '"' then
    match stringBody? rest with
    | some (codes, rest) => (.text (joinHalves codes), rest)
    | none => (.broken, [])
  else if c = 'n' then
    if rest.take 3 = ['u', 'l', 'l'] then (.null, rest.drop 3) else (.broken, [])
  else if c = 't' then
    if rest.take 3 = ['r', 'u', 'e'] then (.bool true, rest.drop 3) else (.broken, [])
  else if c = 'f' then
    if rest.take 4 = ['a', 'l', 's', 'e'] then (.bool false, rest.drop 4) else (.broken, [])
  else if c = '-' then (number? rest).getD (.broken, [])
  else if isDigit c then (number? (c :: rest)).getD (.broken, [])
  else (.broken, [])

def isGap (c : Char) : Bool := c == ' ' || c == '\n' || c == '\t' || c == '\r'

/-- The tokens of a text, reading at most `fuel` characters or tokens. -/
def tokensWithin : Nat → List Char → List Token
  | 0, _ => []
  | _, [] => []
  | fuel + 1, c :: rest =>
    if isGap c then tokensWithin fuel rest
    else
      let (token, rest) := nextToken c rest
      token :: tokensWithin fuel rest

/-- The tokens of a text. Every token takes a character, so the length is fuel enough. -/
def tokens (cs : List Char) : List Token := tokensWithin cs.length cs

end HostAccess.Json
