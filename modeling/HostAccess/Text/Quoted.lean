import HostAccess.Text.Graphic
import HostAccess.Text.Hex

/-! # Quoted text

How a diagnostic shows a string: between double quotes, with the quote, the backslash and the
usual control characters behind a backslash, and every other character that is not shown as its
code point in braces. -/
namespace HostAccess.Text

def quoteChar (c : Char) : List Char :=
  if c = '"' then ['\\', '"']
  else if c = '\\' then ['\\', '\\']
  else if c = '\n' then ['\\', 'n']
  else if c = '\r' then ['\\', 'r']
  else if c = '\t' then ['\\', 't']
  else if c = '\x00' then ['\\', '0']
  else if isShown c then [c]
  else ['\\', 'u', '\x7b'] ++ hexText 6 c.toNat ++ ['\x7d']

def quoted (s : String) : String :=
  String.ofList (['"'] ++ s.toList.flatMap quoteChar ++ ['"'])

end HostAccess.Text
