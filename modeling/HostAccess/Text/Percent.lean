import HostAccess.Text.Hex
import HostAccess.Text.Utf8

/-! # Percent-encoding

Decoding of percent-encoded octets. An escape is a percent sign and two hexadecimal digits;
a percent sign that starts no escape stands for itself. -/
namespace HostAccess.Text

def hexOctet? (b : UInt8) : Option HexDigit := hexValue? (Char.ofNat b.toNat)

def percentDecode : List UInt8 → List UInt8
  | 0x25 :: high :: low :: rest =>
    match hexOctet? high, hexOctet? low with
    | some h, some l => UInt8.ofNat (h.val * 16 + l.val) :: percentDecode rest
    | _, _ => 0x25 :: percentDecode (high :: low :: rest)
  | b :: rest => b :: percentDecode rest
  | [] => []

/-- The text that a percent-encoded text names, if its octets are UTF-8. -/
def percentDecode? (s : String) : Option String := Utf8.decode? (percentDecode (Utf8.encode s))

/-- The text of a form component: a plus sign is a blank, and ill-formed octets become U+FFFD. -/
def formDecode (s : String) : String :=
  Utf8.decodeLossy (percentDecode ((Utf8.encode s).map fun b => if b = 0x2b then 0x20 else b))

end HostAccess.Text
