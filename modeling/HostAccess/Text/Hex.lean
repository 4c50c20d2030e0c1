/-! # Hexadecimal digits

One digit at a time: its value, and its lower-case character. Reading a written digit gives the
digit back. -/
namespace HostAccess.Text

abbrev HexDigit := Fin 16

def hexValue? (c : Char) : Option HexDigit :=
  if h : '0' ≤ c ∧ c ≤ '9' then
    some ⟨c.toNat - 48, by
      have : c.toNat ≤ 57 := h.2
      omega⟩
  else if h : 'a' ≤ c ∧ c ≤ 'f' then
    some ⟨c.toNat - 87, by
      have : c.toNat ≤ 102 := h.2
      omega⟩
  else if h : 'A' ≤ c ∧ c ≤ 'F' then
    some ⟨c.toNat - 55, by
      have : c.toNat ≤ 70 := h.2
      omega⟩
  else
    none

def hexChar (d : HexDigit) : Char :=
  if d.val < 10 then Char.ofNat (48 + d.val) else Char.ofNat (87 + d.val)

theorem hexValue?_hexChar (d : HexDigit) : hexValue? (hexChar d) = some d := by
  revert d
  decide

/-- A number in hexadecimal, lower-case and without padding; `digits` bounds its length. -/
def hexText (digits : Nat) (n : Nat) : List Char :=
  match digits with
  | 0 => []
  | digits + 1 =>
    let last := hexChar ⟨n % 16, Nat.mod_lt _ (by decide)⟩
    if n < 16 then [last] else hexText digits (n / 16) ++ [last]

end HostAccess.Text
