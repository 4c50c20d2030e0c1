/-! # UTF-8

Decoding an octet sequence one octet at a time. The decoder's state is what the character in
progress still needs, with the least and the greatest next octet it accepts; an octet that does not
fit ends that character as ill-formed and is read again as a first octet. Each ill-formed piece is
one `none`, so the strict and the lenient reading of a sequence share one decoder. -/
namespace HostAccess.Text.Utf8

/-- A character in progress: the bits so far, how many octets it still needs, and which octets it
takes next. -/
structure Pending where
  bits : Nat
  owed : Nat
  least : Nat := 0x80
  greatest : Nat := 0xbf
deriving DecidableEq

/-- What a first octet starts: nothing that UTF-8 knows, a whole character, or one in progress. -/
inductive First
  | illFormed
  | whole (c : Char)
  | start (p : Pending)

def first (b : Nat) : First :=
  if b < 0x80 then .whole (Char.ofNat b)
  else if b < 0xc2 then .illFormed
  else if b < 0xe0 then .start ⟨b - 0xc0, 1, 0x80, 0xbf⟩
  else if b = 0xe0 then .start ⟨0, 2, 0xa0, 0xbf⟩
  else if b = 0xed then .start ⟨0xd, 2, 0x80, 0x9f⟩
  else if b < 0xf0 then .start ⟨b - 0xe0, 2, 0x80, 0xbf⟩
  else if b = 0xf0 then .start ⟨0, 3, 0x90, 0xbf⟩
  else if b < 0xf4 then .start ⟨b - 0xf0, 3, 0x80, 0xbf⟩
  else if b = 0xf4 then .start ⟨4, 3, 0x80, 0x8f⟩
  else .illFormed

/-- Decode from a state: a character for each well-formed sequence, `none` for each ill-formed
piece. -/
def decodeFrom : Option Pending → List UInt8 → List (Option Char)
  | none, [] => []
  | some _, [] => [none]
  | state, b :: rest =>
    let begin (_ : Unit) := match first b.toNat with
      | .illFormed => none :: decodeFrom none rest
      | .whole c => some c :: decodeFrom none rest
      | .start p => decodeFrom (some p) rest
    match state with
    | none => begin ()
    | some p =>
      if p.least ≤ b.toNat ∧ b.toNat ≤ p.greatest then
        let bits := p.bits * 64 + (b.toNat - 0x80)
        if p.owed ≤ 1 then some (Char.ofNat bits) :: decodeFrom none rest
        else decodeFrom (some ⟨bits, p.owed - 1, 0x80, 0xbf⟩) rest
      else
        none :: begin ()

def decode? (octets : List UInt8) : Option String :=
  ((decodeFrom none octets).mapM id).map String.ofList

/-- The text of any sequence, with U+FFFD for each ill-formed piece. -/
def decodeLossy (octets : List UInt8) : String :=
  String.ofList ((decodeFrom none octets).map (·.getD '\ufffd'))

def encode (s : String) : List UInt8 := s.toList.flatMap String.utf8EncodeChar

end HostAccess.Text.Utf8
