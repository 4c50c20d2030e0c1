/-! # Request targets

What a request asks for: a path and a query. A target is a path with a query, or that behind a
scheme and an authority, or an authority alone, which has no path. A fragment is left out, and
nothing in it is looked at. -/
namespace HostAccess.Http

structure Target where
  path : List Char
  query : List Char
deriving DecidableEq

namespace Target

/-- The greatest length of a target, in octets. -/
def maxLength : Nat := 65534

/-- The characters of a path. Some that ought to be percent-encoded are let through, and so is
everything beyond ASCII. -/
def isPathChar (c : Char) : Bool :=
  let n := c.toNat
  n == 0x21 || n == 0x22 || (0x24 ≤ n && n ≤ 0x3b) || n == 0x3d || (0x40 ≤ n && n ≤ 0x5f) ||
    (0x61 ≤ n && n ≤ 0x7e) || 0x7f ≤ n

def isQueryChar (c : Char) : Bool :=
  let n := c.toNat
  n == 0x21 || (0x24 ≤ n && n ≤ 0x3b) || n == 0x3d || 0x3f ≤ n

/-- A path, and a query behind a question mark. An empty path is the root. -/
def ofPathAndQuery? (cs : List Char) : Option Target :=
  let path := cs.takeWhile fun c => c != '?' && c != '#'
  let query :=
    match cs.drop path.length with
    | '?' :: rest => rest.takeWhile (· != '#')
    | _ => []
  if path.all isPathChar && query.all isQueryChar then
    some ⟨if path.isEmpty then ['/'] else path, query⟩
  else none

def isSchemeChar (c : Char) : Bool := c.isAlphanum || c == '+' || c == '-' || c == '.'

def afterScheme? (cs : List Char) : Option (List Char) :=
  match cs.dropWhile isSchemeChar with
  | ':' :: '/' :: '/' :: rest => some rest
  | _ => none

/-- The characters of an authority that have no meaning of their own. -/
def isAuthorityChar (c : Char) : Bool :=
  c.isAlphanum ||
    ['!', '$', '&', '\x27', '(', ')', '*', '+', ',', '-', '.', ';', '=', '_', '~'].contains c

/-- What is known of an authority while it is read: colons and percent signs since the user
information or an address in brackets, the brackets, and whether an at sign came last. -/
structure Authority where
  colons : Nat := 0
  opened : Bool := false
  closed : Bool := false
  percent : Bool := false
  afterAt : Bool := false

def Authority.mayEnd (a : Authority) : Bool :=
  a.opened == a.closed && decide (a.colons ≤ 1) && !a.percent && !a.afterAt

def afterAuthority? (a : Authority) : List Char → Option (List Char)
  | [] => if a.mayEnd then some [] else none
  | c :: rest =>
    if c = '/' ∨ c = '?' ∨ c = '#' then if a.mayEnd then some (c :: rest) else none
    else if c = ':' then
      if a.colons < 8 then
        afterAuthority? { a with colons := a.colons + 1, afterAt := false } rest
      else none
    else if c = '[' then
      if a.percent || a.opened then none
      else afterAuthority? { a with opened := true, afterAt := false } rest
    else if c = ']' then
      if a.opened && !a.closed then
        afterAuthority?
          { a with closed := true, colons := 0, percent := false, afterAt := false } rest
      else none
    -- What came before was user information, whose colons do not count.
    else if c = '@' then
      afterAuthority? { a with colons := 0, percent := false, afterAt := true } rest
    else if c = '%' then afterAuthority? { a with percent := true, afterAt := false } rest
    else if isAuthorityChar c then afterAuthority? { a with afterAt := false } rest
    else none

def parse? (s : String) : Option Target :=
  if maxLength < s.utf8ByteSize then none
  else
    match s.toList with
    | [] => none
    | '/' :: rest => ofPathAndQuery? ('/' :: rest)
    | cs =>
      match afterScheme? cs with
      | some rest => do
        let behind ← afterAuthority? {} rest
        if behind.length = rest.length then none else ofPathAndQuery? behind
      | none => do
        let behind ← afterAuthority? {} cs
        if behind.isEmpty then some ⟨[], []⟩ else none

end Target

end HostAccess.Http
