/-! # Decimal digits

Numbers written with a fixed count of digits, and the value of a run of digits. -/
namespace HostAccess.Text

def isDigit (c : Char) : Bool := '0' ≤ c && c ≤ '9'

/-- The character of a digit; only the last decimal digit of `d` counts. -/
def digitChar (d : Nat) : Char := Char.ofNat (48 + d % 10)

/-- The last `width` decimal digits of `n`, with zeros in front. -/
def padded : Nat → Nat → List Char
  | 0, _ => []
  | width + 1, n => padded width (n / 10) ++ [digitChar n]

def digitsValue (cs : List Char) : Nat := cs.foldl (fun n c => n * 10 + (c.toNat - 48)) 0

/-- A number of at least one and at most `most` digits at the front, and what follows it. -/
def number? (most : Nat) (cs : List Char) : Option (Nat × List Char) :=
  let digits := (cs.take most).takeWhile isDigit
  if digits.isEmpty then none else some (digitsValue digits, cs.drop digits.length)

end HostAccess.Text
