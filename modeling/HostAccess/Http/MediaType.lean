/-! # Media types

A media type is a type and a subtype with a slash between, with parameters behind semicolons. The
part of a subtype behind its last plus sign is its suffix. Only what is needed to recognize JSON is
kept; the parameters are read to know that they are well-formed. -/
namespace HostAccess.Http

def isTokenChar (c : Char) : Bool :=
  c.isAlphanum ||
    ['!', '#', '$', '%', '&', '\x27', '*', '+', '-', '.', '^', '_', '\x60', '|', '~'].contains c

/-- A type and a subtype in lower case. The suffix is apart from the subtype. -/
structure MediaType where
  type : List Char
  subtype : List Char
  suffix : Option (List Char)
deriving DecidableEq

namespace MediaType

def isQuotedChar (c : Char) : Bool := 0x20 ≤ c.toNat && c.toNat != 0x7f

/-- Where a reader of parameters stands. -/
inductive Place
  | start
  | name
  | beforeValue
  | value
  /-- Behind an opening quote, where a second quote does not close. -/
  | opened
  | quoted
  | closed
deriving DecidableEq

def step (place : Place) (c : Char) : Option Place :=
  match place with
  | .start => if c = ' ' then some .start else if isTokenChar c then some .name else none
  | .name => if c = '=' then some .beforeValue else if isTokenChar c then some .name else none
  | .beforeValue => if c = '"' then some .opened else if isTokenChar c then some .value else none
  | .value => if c = ';' then some .start else if isTokenChar c then some .value else none
  | .opened => if isQuotedChar c then some .quoted else none
  | .quoted => if c = '"' then some .closed else if isQuotedChar c then some .quoted else none
  | .closed => if c = ' ' then some .closed else if c = ';' then some .start else none

def Place.mayEnd : Place → Bool
  | .start | .beforeValue | .value | .closed => true
  | .name | .opened | .quoted => false

def areParameters : Place → List Char → Bool
  | place, [] => place.mayEnd
  | place, c :: rest =>
    match step place c with
    | some place => areParameters place rest
    | none => false

/-- A subtype without its suffix, and the suffix behind the last plus sign. A plus sign in front is
part of the subtype. -/
def splitSuffix (cs : List Char) : List Char × Option (List Char) :=
  let suffix := (cs.reverse.takeWhile (· != '+')).reverse
  -- Without a plus sign the whole subtype looks like a suffix, and nothing is left in front.
  let front := cs.take (cs.length - suffix.length - 1)
  if suffix.length < cs.length ∧ !front.isEmpty then (front, some suffix) else (cs, none)

def parse? (s : String) : Option MediaType :=
  let cs := s.toList.map Char.toLower
  let type := cs.takeWhile isTokenChar
  match type, cs.drop type.length with
  | _ :: _, '/' :: rest =>
    let whole := rest.takeWhile isTokenChar
    let (subtype, suffix) := splitSuffix whole
    match whole, rest.drop whole.length with
    | _, [] => some ⟨type, subtype, suffix⟩
    | _ :: _, ';' :: parameters =>
      if areParameters .start parameters then some ⟨type, subtype, suffix⟩ else none
    | _, _ => none
  | _, _ => none

def isJson (t : MediaType) : Bool :=
  let json := ['j', 's', 'o', 'n']
  t.type == "application".toList && (t.subtype == json || t.suffix == some json)

end MediaType

end HostAccess.Http
