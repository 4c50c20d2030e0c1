import HostAccess.Json.Decode

/-! # Reading written documents

What is written as JSON is read back: the characters of a string, the tokens of a value, and the
draft that decoders walk. Each of the three levels is stated for a written part with anything behind
it, so that parts can be put together. -/
namespace HostAccess.Json

open Text

/-! ## Strings -/

theorem unitOf_hexChar (a b c d : HexDigit) :
    unitOf (hexChar a) (hexChar b) (hexChar c) (hexChar d) =
      some (((a.val * 16 + b.val) * 16 + c.val) * 16 + d.val) := by
  simp only [unitOf, hexValue?_hexChar, Option.bind_eq_bind, Option.bind_some, Option.pure_def]

theorem stringBody?_plain {c : Char} {rest : List Char} (quote : c ≠ '"') (backslash : c ≠ '\\')
    (shown : ¬ c.toNat < 0x20) :
    stringBody? (c :: rest) = (stringBody? rest).map (prepend c.toNat) := by
  rw [stringBody?.eq_def]
  split
  next nothing => cases nothing
  next ends => cases ends; exact absurd rfl quote
  next escape => cases escape; exact absurd rfl backslash
  next escape => cases escape; exact absurd rfl backslash
  next whole =>
    cases whole
    exact if_neg (by simp only [not_or]; exact ⟨shown, backslash⟩)

theorem stringBody?_escapeChar (c : Char) (rest : List Char) :
    stringBody? (escapeChar c ++ rest) = (stringBody? rest).map (prepend c.toNat) := by
  unfold escapeChar
  split
  next quote => subst quote; rfl
  split
  next backslash => subst backslash; rfl
  split
  next backspace => subst backspace; rfl
  split
  next feed => subst feed; rfl
  split
  next line => subst line; rfl
  split
  next carriage => subst carriage; rfl
  split
  next tab => subst tab; rfl
  split
  next control =>
    have zero : hexChar 0 = '0' := rfl
    have unit : unitOf '0' '0' (hexChar ⟨c.toNat / 16, by omega⟩)
        (hexChar ⟨c.toNat % 16, by omega⟩) = some c.toNat := by
      rw [← zero, unitOf_hexChar]
      congr 1
      simp only [Fin.val_zero]
      omega
    simp only [List.cons_append, List.nil_append, stringBody?, unit]
  next quote backslash _ _ _ _ _ shown => exact stringBody?_plain quote backslash shown

theorem stringBody?_escaped (s rest : List Char) :
    stringBody? (s.flatMap escapeChar ++ '"' :: rest) = some (s.map Char.toNat, rest) := by
  induction s with
  | nil => rfl
  | cons c s ih =>
    rw [List.flatMap_cons, List.append_assoc, stringBody?_escapeChar, ih]
    rfl

/-- No character is one half of a surrogate pair. -/
theorem not_half (c : Char) : isHighHalf c.toNat = false ∧ isLowHalf c.toNat = false := by
  have valid : c.toNat < 0xd800 ∨ 0xdfff < c.toNat ∧ c.toNat < 0x110000 := c.valid
  simp only [isHighHalf, isLowHalf, Bool.and_eq_false_iff, decide_eq_false_iff_not]
  omega

theorem joinHalves_cons (c : Char) (codes : List Nat) :
    joinHalves (c.toNat :: codes) = (joinHalves codes).map (c :: ·) := by
  obtain ⟨high, low⟩ := not_half c
  cases codes with
  | nil => simp [joinHalves, high, low]
  | cons code codes => simp [joinHalves, high, low]

theorem joinHalves_toNat (s : List Char) : joinHalves (s.map Char.toNat) = some s := by
  induction s with
  | nil => rfl
  | cons c s ih => rw [List.map_cons, joinHalves_cons, ih]; rfl

/-! ## Tokens -/

mutual

/-- The tokens of a written value. -/
def Value.tokens : Value → List Token
  | .null => [.null]
  | .bool b => [.bool b]
  | .text s => [.text (some s.toList)]
  | .list items => .openList :: itemsTokens items
  | .object fields => .openObject :: fieldsTokens fields

def itemsTokens : List Value → List Token
  | [] => [.closeList]
  | [item] => item.tokens ++ [.closeList]
  | item :: rest => item.tokens ++ .comma :: itemsTokens rest

def fieldsTokens : List (String × Value) → List Token
  | [] => [.closeObject]
  | [(name, value)] => .text (some name.toList) :: .colon :: value.tokens ++ [.closeObject]
  | (name, value) :: rest =>
    .text (some name.toList) :: .colon :: value.tokens ++ .comma :: fieldsTokens rest

end

/-- Wherever these characters stand, they are read as these tokens, in one step for each of them. -/
structure Spell (cs : List Char) (ts : List Token) : Prop where
  read : ∀ rest fuel, tokensWithin (ts.length + fuel) (cs ++ rest) = ts ++ tokensWithin fuel rest
  short : ts.length ≤ cs.length

namespace Spell

variable {cs ds : List Char} {ts us : List Token}

theorem append (first : Spell cs ts) (second : Spell ds us) : Spell (cs ++ ds) (ts ++ us) where
  read rest fuel := by
    rw [List.length_append, Nat.add_assoc, List.append_assoc, first.read, second.read,
      List.append_assoc]
  short := by
    rw [List.length_append, List.length_append]
    exact Nat.add_le_add first.short second.short

theorem token {c : Char} {more : List Char} {token : Token} (solid : isGap c = false)
    (reads : ∀ rest, nextToken c (more ++ rest) = (token, rest)) : Spell (c :: more) [token] where
  read rest fuel := by
    rw [List.length_singleton, Nat.add_comm, List.cons_append, tokensWithin, solid, reads]
    rfl
  short := Nat.le_add_left 1 more.length

theorem cons {c : Char} {token : Token} (mark : Spell [c] [token]) (second : Spell cs ts) :
    Spell (c :: cs) (token :: ts) :=
  mark.append second

theorem openList : Spell ['['] [.openList] := token (by decide) fun _ => rfl

theorem closeList : Spell [']'] [.closeList] := token (by decide) fun _ => rfl

theorem openObject : Spell ['\x7b'] [.openObject] := token (by decide) fun _ => rfl

theorem closeObject : Spell ['\x7d'] [.closeObject] := token (by decide) fun _ => rfl

theorem colon : Spell [':'] [.colon] := token (by decide) fun _ => rfl

theorem comma : Spell [','] [.comma] := token (by decide) fun _ => rfl

theorem string (s : List Char) : Spell (stringChars s) [.text (some s)] := by
  have quoted : stringChars s = '"' :: (s.flatMap escapeChar ++ ['"']) := rfl
  rw [quoted]
  refine token (by decide) fun rest => ?_
  have body := stringBody?_escaped s rest
  rw [List.append_assoc, List.singleton_append]
  simp [nextToken, body, joinHalves_toNat]

mutual

/-- A written value is read as its tokens. -/
theorem value : ∀ v : Value, Spell v.chars v.tokens
  | .null => token (by decide) fun _ => rfl
  | .bool true => token (by decide) fun _ => rfl
  | .bool false => token (by decide) fun _ => rfl
  | .text s => string s.toList
  | .list items => openList.cons (Spell.items items)
  | .object fields => openObject.cons (Spell.fields fields)

theorem items : ∀ vs : List Value, Spell (itemsChars vs) (itemsTokens vs)
  | [] => closeList
  | [v] => (value v).append closeList
  | v :: w :: vs => (value v).append (comma.cons (items (w :: vs)))

theorem fields : ∀ fs : List (String × Value), Spell (fieldsChars fs) (fieldsTokens fs)
  | [] => closeObject
  | [(name, v)] => ((string name.toList).append (colon.cons (value v))).append closeObject
  | (name, v) :: f :: fs =>
    ((string name.toList).append (colon.cons (value v))).append (comma.cons (fields (f :: fs)))

end

/-- A whole text is read as the tokens that it spells. -/
theorem tokens_eq (whole : Spell cs ts) : tokens cs = ts := by
  obtain ⟨fuel, enough⟩ := Nat.exists_eq_add_of_le whole.short
  have read := whole.read [] fuel
  rw [← enough, List.append_nil] at read
  rw [tokens, read]
  cases fuel <;> simp [tokensWithin]

end Spell

/-! ## Drafts -/

theorem readValue_openList {fuel : Nat} {rest : List Token} (more : rest.head? ≠ some .closeList) :
    readValue (fuel + 1) (.openList :: rest) =
      (.list (readItems fuel rest).1 (readItems fuel rest).2.1, (readItems fuel rest).2.2) := by
  rw [readValue]
  rintro _ rfl
  exact more rfl

theorem readValue_openObject {fuel : Nat} {rest : List Token}
    (more : rest.head? ≠ some .closeObject) :
    readValue (fuel + 1) (.openObject :: rest) =
      (.object (readFields fuel rest).1 (readFields fuel rest).2.1,
        (readFields fuel rest).2.2) := by
  rw [readValue]
  rintro _ rfl
  exact more rfl

theorem head?_itemsTokens (v : Value) (vs : List Value) (rest : List Token) :
    (itemsTokens (v :: vs) ++ rest).head? ≠ some .closeList := by
  cases v <;> cases vs <;> simp [itemsTokens, Value.tokens]

theorem head?_fieldsTokens (f : String × Value) (fs : List (String × Value)) (rest : List Token) :
    (fieldsTokens (f :: fs) ++ rest).head? ≠ some .closeObject := by
  cases fs <;> simp [fieldsTokens]

theorem length_tokens_pos (v : Value) : 0 < v.tokens.length := by
  cases v <;> exact Nat.succ_pos _

mutual

/-- The tokens of a written value are read as its draft. Every token is worth two units of fuel,
one for the value or the list it belongs to and one for the step to its item. -/
theorem readValue_tokens : ∀ (v : Value) (rest : List Token) (fuel : Nat),
    2 * v.tokens.length ≤ fuel + 1 → readValue fuel (v.tokens ++ rest) = (Draft.ofValue v, rest)
  | v, _, 0, enough => by
    have := length_tokens_pos v
    omega
  | .null, rest, fuel + 1, _ => rfl
  | .bool b, rest, fuel + 1, _ => rfl
  | .text s, rest, fuel + 1, _ => rfl
  | .list [], rest, fuel + 1, _ => rfl
  | .object [], rest, fuel + 1, _ => rfl
  | .list (v :: vs), rest, fuel + 1, enough => by
    have items := readItems_tokens v vs rest fuel (by
      simp only [Value.tokens, List.length_cons] at enough
      omega)
    rw [Value.tokens, List.cons_append, readValue_openList (head?_itemsTokens v vs rest), items]
    rfl
  | .object (f :: fs), rest, fuel + 1, enough => by
    have fields := readFields_tokens f fs rest fuel (by
      simp only [Value.tokens, List.length_cons] at enough
      omega)
    rw [Value.tokens, List.cons_append, readValue_openObject (head?_fieldsTokens f fs rest), fields]
    rfl

theorem readItems_tokens : ∀ (v : Value) (vs : List Value) (rest : List Token) (fuel : Nat),
    2 * (itemsTokens (v :: vs)).length ≤ fuel + 2 →
      readItems fuel (itemsTokens (v :: vs) ++ rest) = (Draft.ofItems (v :: vs), true, rest)
  | v, vs, _, 0, enough => by
    have := length_tokens_pos v
    cases vs <;> simp only [itemsTokens, List.length_append, List.length_cons] at enough <;> omega
  | v, [], rest, fuel + 1, enough => by
    simp only [itemsTokens, List.length_append, List.length_singleton] at enough
    have item := readValue_tokens v (.closeList :: rest) fuel (by omega)
    simp [itemsTokens, readItems, item, Draft.ofItems]
  | v, w :: vs, rest, fuel + 1, enough => by
    simp only [itemsTokens, List.length_append, List.length_cons] at enough
    have item := readValue_tokens v (.comma :: (itemsTokens (w :: vs) ++ rest)) fuel
      (by omega)
    have others := readItems_tokens w vs rest fuel (by omega)
    simp [itemsTokens, readItems, item, others, Draft.ofItems]

theorem readFields_tokens : ∀ (f : String × Value) (fs : List (String × Value)) (rest : List Token)
    (fuel : Nat), 2 * (fieldsTokens (f :: fs)).length ≤ fuel + 2 →
      readFields fuel (fieldsTokens (f :: fs) ++ rest) = (Draft.ofFields (f :: fs), true, rest)
  | f, fs, _, 0, enough => by
    cases fs <;> simp only [fieldsTokens, List.length_append, List.length_cons] at enough <;> omega
  | (name, v), [], rest, fuel + 1, enough => by
    simp only [fieldsTokens, List.length_append, List.length_cons] at enough
    have value := readValue_tokens v (.closeObject :: rest) fuel (by omega)
    simp [fieldsTokens, readFields, value, Draft.ofFields]
  | (name, v), f :: fs, rest, fuel + 1, enough => by
    simp only [fieldsTokens, List.length_append, List.length_cons] at enough
    have value := readValue_tokens v (.comma :: (fieldsTokens (f :: fs) ++ rest)) fuel
      (by omega)
    have others := readFields_tokens f fs rest fuel (by omega)
    simp [fieldsTokens, readFields, value, others, Draft.ofFields]

end

/-- A written value is read as its draft, with nothing behind it. -/
theorem Document.read_chars (v : Value) : Document.read v.chars = ⟨Draft.ofValue v, true⟩ := by
  have whole := readValue_tokens v [] (2 * v.tokens.length) (by omega)
  rw [List.append_nil] at whole
  rw [Document.read, (Spell.value v).tokens_eq]
  simp only [whole, List.isEmpty_nil]

/-- A decoder meets a written value as its draft. -/
theorem decodeText_render {α : Type} (decode : Decoder α) (v : Value) :
    decodeText decode v.render = decode (Draft.ofValue v) := by
  rw [decodeText, Value.render, String.toList_ofList, Document.read_chars]
  dsimp only
  cases decode (Draft.ofValue v) <;> rfl

end HostAccess.Json
