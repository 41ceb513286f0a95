import Mathlib.Algebra.GroupWithZero.Nat
import SyrupRail.Lib.Utf8

/-!
# Texts on the wire

The `application/x-www-form-urlencoded` encoding of names and values and the compact JSON encoding
of a value, with their lengths in octets. A form component is encoded octet by octet; a JSON string
is escaped character by character, and a character that needs no escape is written as it is. The
members of an object are kept in the order of their names, and `insert` replaces a member of the
same name.

`byteLen_insert_le` bounds an object that is built member by member: an insertion adds at most the
new member.
-/

namespace WireText

open RustText

/-! ## Forms -/

/-- A hexadecimal digit in upper case. -/
def hexUpper (n : ℕ) : Char := Char.ofNat (if n < 10 then 48 + n else 55 + n)

/-- Whether an octet of a form component is written as it is. -/
def formUnchanged (byte : ℕ) : Bool :=
  (48 ≤ byte && byte ≤ 57) || (65 ≤ byte && byte ≤ 90) || (97 ≤ byte && byte ≤ 122) ||
    byte = 42 || byte = 45 || byte = 46 || byte = 95

/-- An octet of a form component. A blank is a plus sign. -/
def formOctet (byte : ℕ) : List Char :=
  if formUnchanged byte then [Char.ofNat byte]
  else if byte = 32 then ['+']
  else ['%', hexUpper (byte / 16), hexUpper (byte % 16)]

/-- The name or the value of a form pair. -/
def formComponent (text : String) : List Char := (utf8Bytes text.toList).flatMap formOctet

/-- A name and its value. -/
def formPair (pair : String × String) : List Char :=
  formComponent pair.1 ++ '=' :: formComponent pair.2

/-- The pairs of a form. -/
def formBody (pairs : List (String × String)) : List Char := ['&'].intercalate (pairs.map formPair)

/-- A small number is the code of a character. -/
theorem toNat_ofNat_lt {n : ℕ} (h : n < 128) : (Char.ofNat n).toNat < 128 := by
  have hall : ∀ n < 128, (Char.ofNat n).toNat < 128 := by decide
  exact hall n h

/-- A hexadecimal digit is ASCII. -/
theorem hexUpper_ascii {n : ℕ} (h : n < 16) : (hexUpper n).toNat < 128 := by
  unfold hexUpper
  exact toNat_ofNat_lt (by split_ifs <;> omega)

/-- The octets of a text are octets. -/
theorem lt_of_mem_utf8Bytes {cs : List Char} {byte : ℕ} (h : byte ∈ utf8Bytes cs) : byte < 256 := by
  obtain ⟨c, -, hbyte⟩ := List.mem_flatMap.mp h
  obtain ⟨octet, -, rfl⟩ := List.mem_map.mp hbyte
  exact UInt8.toNat_lt octet

/-- An encoded octet is ASCII. -/
theorem formOctet_ascii {byte : ℕ} (h : byte < 256) : ∀ c ∈ formOctet byte, c.toNat < 128 := by
  unfold formOctet
  split_ifs with hunchanged hblank
  · have hlt : byte < 128 := by
      simp only [formUnchanged, Bool.or_eq_true, Bool.and_eq_true, decide_eq_true_eq] at hunchanged
      omega
    intro c hc
    rw [List.mem_singleton.mp hc]
    exact toNat_ofNat_lt hlt
  · intro c hc
    rw [List.mem_singleton.mp hc]
    decide
  · have hhigh := hexUpper_ascii (show byte / 16 < 16 by omega)
    have hlow := hexUpper_ascii (show byte % 16 < 16 by omega)
    intro c hc
    simp only [List.mem_cons, List.not_mem_nil, or_false] at hc
    rcases hc with rfl | rfl | rfl
    · decide
    · exact hhigh
    · exact hlow

/-- An encoded component is ASCII. -/
theorem formComponent_ascii (text : String) : ∀ c ∈ formComponent text, c.toNat < 128 := by
  intro c hc
  obtain ⟨byte, hbyte, hc⟩ := List.mem_flatMap.mp hc
  exact formOctet_ascii (lt_of_mem_utf8Bytes hbyte) c hc

/-- The length of an encoded component, by octets. -/
theorem byteLen_formComponent (text : String) :
    byteLen (formComponent text) =
      ((utf8Bytes text.toList).map fun byte => (formOctet byte).length).sum := by
  rw [byteLen_of_ascii (formComponent_ascii text), formComponent, List.length_flatMap]

/-- The length of a pair. -/
theorem byteLen_formPair (pair : String × String) :
    byteLen (formPair pair) = byteLen (formComponent pair.1) +
      byteLen (formComponent pair.2) + 1 := by
  have hsign : (charBytes '=').length = 1 := by decide
  rw [formPair, byteLen_append, byteLen_cons, hsign]
  omega

/-- A form is no longer than its pairs with a separator each. -/
theorem byteLen_formBody_le (pairs : List (String × String)) :
    byteLen (formBody pairs) ≤
      (pairs.map fun pair =>
        byteLen (formComponent pair.1) + byteLen (formComponent pair.2) + 2).sum := by
  have hsign : byteLen ['&'] = 1 := by decide
  unfold formBody
  induction pairs with
  | nil => exact Nat.le_refl _
  | cons pair pairs ih =>
    have hpair := byteLen_formPair pair
    cases pairs with
    | nil =>
      simp only [List.map_cons, List.map_nil, List.intercalate_singleton, List.sum_cons,
        List.sum_nil]
      omega
    | cons pair' pairs =>
      rw [List.map_cons, List.map_cons, List.intercalate_cons_cons, byteLen_append, byteLen_append,
        List.map_cons, List.sum_cons]
      rw [List.map_cons] at ih
      omega

/-! ## JSON -/

/-- A hexadecimal digit in lower case. -/
def hexLower (n : ℕ) : Char := Char.ofNat (if n < 10 then 48 + n else 87 + n)

/-- A character of a JSON string. -/
def jsonChar (c : Char) : List Char :=
  if c = '\x22' then ['\x5c', '\x22']
  else if c = '\x5c' then ['\x5c', '\x5c']
  else if c = '\x08' then ['\x5c', 'b']
  else if c = '\x0c' then ['\x5c', 'f']
  else if c = '\n' then ['\x5c', 'n']
  else if c = '\r' then ['\x5c', 'r']
  else if c = '\t' then ['\x5c', 't']
  else if c.toNat < 32 then ['\x5c', 'u', '0', '0', hexLower (c.toNat / 16),
    hexLower (c.toNat % 16)]
  else [c]

/-- A JSON string. -/
def jsonString (text : String) : List Char :=
  '\x22' :: (text.toList.flatMap jsonChar ++ ['\x22'])

mutual

/-- A JSON value with whole numbers. -/
inductive Json
  | string (text : String)
  | number (value : ℕ)
  | bool (value : Bool)
  | object (members : JsonMembers)

/-- The members of an object. -/
inductive JsonMembers
  | nil
  | cons (name : String) (value : Json) (rest : JsonMembers)

end

mutual

/-- The text of a value. -/
def Json.render : Json → List Char
  | .string text => jsonString text
  | .number value => (toString value).toList
  | .bool value => (if value then "true" else "false").toList
  | .object members => '\x7b' :: (members.render.drop 1 ++ ['\x7d'])

/-- The text of the members, with a comma before each. -/
def JsonMembers.render : JsonMembers → List Char
  | .nil => []
  | .cons name value rest => ',' :: (jsonString name ++ ':' :: (value.render ++ rest.render))

end

/-- The members with a member that is set. -/
def JsonMembers.insert (name : String) (value : Json) : JsonMembers → JsonMembers
  | .nil => .cons name value .nil
  | .cons name' value' rest =>
    if name < name' then .cons name value (.cons name' value' rest)
    else if name = name' then .cons name value rest
    else .cons name' value' (rest.insert name value)

/-- The length of a character of a JSON string. -/
def jsonCharBytes (c : Char) : ℕ :=
  if c = '\x22' ∨ c = '\x5c' ∨ c = '\x08' ∨ c = '\x0c' ∨ c = '\n' ∨ c = '\r' ∨ c = '\t' then 2
  else if c.toNat < 32 then 6
  else c.utf8Size

/-- A hexadecimal digit is ASCII. -/
theorem hexLower_ascii {n : ℕ} (h : n < 16) : (hexLower n).toNat < 128 := by
  unfold hexLower
  exact toNat_ofNat_lt (by split_ifs <;> omega)

/-- The length of an escaped character. -/
theorem byteLen_jsonChar (c : Char) : byteLen (jsonChar c) = jsonCharBytes c := by
  by_cases hescape : c = '\x22' ∨ c = '\x5c' ∨ c = '\x08' ∨ c = '\x0c' ∨ c = '\n' ∨ c = '\r' ∨
    c = '\t'
  · unfold jsonCharBytes
    rw [if_pos hescape]
    rcases hescape with rfl | rfl | rfl | rfl | rfl | rfl | rfl <;> decide
  · have hchar : jsonChar c = if c.toNat < 32 then
        ['\x5c', 'u', '0', '0', hexLower (c.toNat / 16), hexLower (c.toNat % 16)] else [c] := by
      simp only [not_or] at hescape
      obtain ⟨h1, h2, h3, h4, h5, h6, h7⟩ := hescape
      unfold jsonChar
      rw [if_neg h1, if_neg h2, if_neg h3, if_neg h4, if_neg h5, if_neg h6, if_neg h7]
    unfold jsonCharBytes
    rw [hchar, if_neg hescape]
    split_ifs with hcontrol
    · have hhigh := hexLower_ascii (show c.toNat / 16 < 16 by omega)
      have hlow := hexLower_ascii (show c.toNat % 16 < 16 by omega)
      have hascii : ∀ d ∈ ['\x5c', 'u', '0', '0', hexLower (c.toNat / 16), hexLower (c.toNat % 16)],
          d.toNat < 128 := by
        intro d hd
        simp only [List.mem_cons, List.not_mem_nil, or_false] at hd
        rcases hd with rfl | rfl | rfl | rfl | rfl | rfl
        · decide
        · decide
        · decide
        · decide
        · exact hhigh
        · exact hlow
      rw [byteLen_of_ascii hascii]
      rfl
    · rw [byteLen_cons, length_charBytes]
      rfl

/-- The length of a JSON string. -/
theorem byteLen_jsonString (text : String) :
    byteLen (jsonString text) = 2 + (text.toList.map jsonCharBytes).sum := by
  have hquote : (charBytes '\x22').length = 1 := by decide
  have hend : byteLen ['\x22'] = 1 := by decide
  have hchars (cs : List Char) : byteLen (cs.flatMap jsonChar) = (cs.map jsonCharBytes).sum := by
    induction cs with
    | nil => rfl
    | cons c cs ih =>
      rw [List.flatMap_cons, byteLen_append, byteLen_jsonChar, ih, List.map_cons, List.sum_cons]
  unfold jsonString
  rw [byteLen_cons, byteLen_append, hchars, hquote, hend]
  omega

/-- The length of members, by the first of them. -/
theorem byteLen_render_cons (name : String) (value : Json) (rest : JsonMembers) :
    byteLen (JsonMembers.cons name value rest).render =
      byteLen (jsonString name) + byteLen value.render + 2 + byteLen rest.render := by
  have hcomma : (charBytes ',').length = 1 := by decide
  have hcolon : (charBytes ':').length = 1 := by decide
  rw [JsonMembers.render, byteLen_cons, byteLen_append, byteLen_cons, byteLen_append,
    hcomma, hcolon]
  omega

/-- A member that is set adds at most itself. -/
theorem byteLen_insert_le (name : String) (value : Json) :
    ∀ members : JsonMembers, byteLen (members.insert name value).render ≤
      byteLen members.render + (byteLen (jsonString name) + byteLen value.render + 2)
  | .nil => by
    rw [JsonMembers.insert, byteLen_render_cons]
    omega
  | .cons name' value' rest => by
    have ih := byteLen_insert_le name value rest
    have hcons := byteLen_render_cons name' value' rest
    rw [JsonMembers.insert]
    split_ifs
    · rw [byteLen_render_cons]
      omega
    · rw [byteLen_render_cons]
      omega
    · rw [byteLen_render_cons]
      omega

/-- An object is its members in braces. -/
theorem byteLen_object_le (members : JsonMembers) :
    byteLen (Json.object members).render ≤ byteLen members.render + 2 := by
  have hopen : (charBytes '\x7b').length = 1 := by decide
  have hclose : byteLen ['\x7d'] = 1 := by decide
  have hdrop : byteLen (members.render.drop 1) ≤ byteLen members.render := by
    conv_rhs => rw [← List.take_append_drop 1 members.render, byteLen_append]
    omega
  rw [Json.render, byteLen_cons, byteLen_append, hopen, hclose]
  omega

end WireText
