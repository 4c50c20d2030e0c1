import HostAccess.Text.Hex

/-! # UUIDs

A UUID is its thirty-two hexadecimal digits. It is written in one canonical form, hyphenated and
lower-case, and read from that form in either case, from the bare digits, from braces around the
hyphenated form and from its URN. -/
namespace HostAccess

open Text

/-- Thirty-two hexadecimal digits. -/
structure Uuid where
  digits : List HexDigit
  complete : digits.length = 32
deriving DecidableEq

namespace Uuid

/-- The UUID of these digits, if there are thirty-two of them. -/
def ofDigits? (digits : List HexDigit) : Option Uuid :=
  if h : digits.length = 32 then some ⟨digits, h⟩ else none

/-- The UUID whose digits are those of `n`, which counts modulo 16 to the 32nd. -/
def ofNat (n : Nat) : Uuid :=
  ⟨(List.range 32).reverse.map fun place => ⟨n / Nat.pow 16 place % 16, Nat.mod_lt _ (by decide)⟩,
    by simp⟩

/-- The canonical form: groups of 8, 4, 4, 4 and 12 lower-case digits with hyphens between. -/
def chars (id : Uuid) : List Char :=
  let cs := id.digits.map hexChar
  cs.take 8 ++ ['-'] ++ (cs.drop 8).take 4 ++ ['-'] ++ (cs.drop 12).take 4 ++ ['-'] ++
    (cs.drop 16).take 4 ++ ['-'] ++ cs.drop 20

def text (id : Uuid) : String := String.ofList id.chars

def ofSimple? (cs : List Char) : Option Uuid := cs.mapM hexValue? >>= ofDigits?

/-- Digits with hyphens at the places 8, 13, 18 and 23, and nowhere else. -/
def ofHyphenated? (cs : List Char) : Option Uuid :=
  if cs.length = 36 ∧ cs[8]? = some '-' ∧ cs[13]? = some '-' ∧ cs[18]? = some '-' ∧
      cs[23]? = some '-' then
    ofSimple? (cs.take 8 ++ (cs.drop 9).take 4 ++ (cs.drop 14).take 4 ++ (cs.drop 19).take 4 ++
      cs.drop 24)
  else
    none

def urnLead : List Char := ['u', 'r', 'n', ':', 'u', 'u', 'i', 'd', ':']

def ofChars? (cs : List Char) : Option Uuid :=
  -- The spellings have different lengths.
  if cs.length = 32 then ofSimple? cs
  else if cs.length = 36 then ofHyphenated? cs
  else if cs.length = 38 ∧ cs.head? = some '\x7b' ∧ cs.getLast? = some '\x7d' then
    ofHyphenated? (cs.drop 1).dropLast
  else if cs.length = 45 ∧ cs.take 9 = urnLead then ofHyphenated? (cs.drop 9)
  else none

/-- Read a text. Every digit is ASCII, so counting characters counts octets. -/
def parse? (s : String) : Option Uuid := ofChars? s.toList

/-! ## Reading what was written -/

theorem ofSimple?_hexChars (id : Uuid) : ofSimple? (id.digits.map hexChar) = some id := by
  have read (digits : List HexDigit) : (digits.map hexChar).mapM hexValue? = some digits := by
    induction digits with
    | nil => rfl
    | cons d rest ih => rw [List.map_cons, List.mapM_cons, ih, hexValue?_hexChar]; rfl
  rw [ofSimple?, read]
  exact dif_pos id.complete

theorem ofHyphenated?_groups {a b c d e : List Char} (ha : a.length = 8) (hb : b.length = 4)
    (hc : c.length = 4) (hd : d.length = 4) (he : e.length = 12) :
    ofHyphenated? (a ++ ['-'] ++ b ++ ['-'] ++ c ++ ['-'] ++ d ++ ['-'] ++ e) =
      ofSimple? (a ++ b ++ c ++ d ++ e) := by
  have hyphens : ∀ place ∈ [8, 13, 18, 23],
      (a ++ ['-'] ++ b ++ ['-'] ++ c ++ ['-'] ++ d ++ ['-'] ++ e)[place]? = some '-' := by
    simp [List.getElem?_append, ha, hb, hc, hd]
  rw [ofHyphenated?, if_pos ⟨by simp [ha, hb, hc, hd, he], hyphens 8 (by decide),
    hyphens 13 (by decide), hyphens 18 (by decide), hyphens 23 (by decide)⟩]
  simp (disch := omega) [ha, hb, hc, hd, List.drop_append, List.drop_eq_nil_of_le]

/-- The canonical form of a UUID is read as that UUID. -/
theorem parse?_text (id : Uuid) : parse? id.text = some id := by
  have size : (id.digits.map hexChar).length = 32 := by simp [id.complete]
  have whole := ofSimple?_hexChars id
  rw [parse?, text, String.toList_ofList, chars]
  generalize id.digits.map hexChar = cs at size whole
  have groups : cs.take 8 ++ (cs.drop 8).take 4 ++ (cs.drop 12).take 4 ++ (cs.drop 16).take 4 ++
      cs.drop 20 = cs := by
    rw [← List.take_add, ← List.take_add, ← List.take_add, List.take_append_drop]
  have shape := @ofHyphenated?_groups (cs.take 8) ((cs.drop 8).take 4) ((cs.drop 12).take 4)
    ((cs.drop 16).take 4) (cs.drop 20) (by simp [size]) (by simp [size]) (by simp [size])
    (by simp [size]) (by simp [size])
  rw [groups, whole] at shape
  rw [ofChars?, if_neg (by simp [size]), if_pos (by simp [size])]
  exact shape

theorem text_injective {a b : Uuid} (same : a.text = b.text) : a = b := by
  have read := parse?_text a
  rw [same, parse?_text] at read
  exact (Option.some.inj read).symm

end Uuid

end HostAccess
