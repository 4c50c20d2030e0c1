import HostAccess.Error
import HostAccess.Text.Split

/-! # Hosts

A host is a lower-case domain name, or the wildcard. Matching elsewhere is exact, so a name in any
other spelling is refused instead of never matching. -/
namespace HostAccess.Host

/-- The host that stands for every host. -/
def wildcard : String := "*"

/-- The greatest length of a host, in octets. -/
def maxLength : Nat := 253

def maxLabelLength : Nat := 63

def isLabelChar (c : Char) : Bool := ('a' ≤ c && c ≤ 'z') || ('0' ≤ c && c ≤ '9') || c == '-'

/-- A label: one to sixty-three label characters without a hyphen at either end. Label characters
are ASCII, so their count is the length in octets. -/
def isLabel (label : List Char) : Bool :=
  !label.isEmpty && decide (label.length ≤ maxLabelLength) && label.head? != some '-' &&
    label.getLast? != some '-' && label.all isLabelChar

def labels (name : List Char) : List (List Char) := Text.parts '.' name

/-- Whether the host is the wildcard or a domain name. -/
def isValid (host : String) : Bool :=
  host == wildcard ||
    (!host.isEmpty && decide (host.utf8ByteSize ≤ maxLength) && (labels host.toList).all isLabel)

def validate (host : String) : Except Error Unit :=
  if isValid host then .ok () else .error (.invalidHost host)

/-- Refuse what is not one particular host: the wildcard too. -/
def validateConcrete (host : String) : Except Error Unit :=
  if host = wildcard then .error (.invalidHost host) else validate host

end HostAccess.Host
