import Mathlib.Data.List.Basic
import Mathlib.Data.String.Basic

/-!
# Octets and slices of a text

A Rust `str` is the UTF-8 encoding of its characters, and is indexed and sliced by octets. A slice
whose end lies inside a character panics. Here a text is the list of its characters; `utf8Bytes` are
its octets, and a slice is `none` where Rust panics.
-/

namespace RustText

/-- The octets of a character. -/
def charBytes (c : Char) : List ℕ := (String.utf8EncodeChar c).map UInt8.toNat

/-- `as_bytes`. -/
def utf8Bytes (cs : List Char) : List ℕ := cs.flatMap charBytes

/-- `len`. -/
def byteLen (cs : List Char) : ℕ := (utf8Bytes cs).length

/-- `value[index..]`. -/
def sliceFrom : List Char → ℕ → Option (List Char)
  | cs, 0 => some cs
  | [], _ + 1 => none
  | c :: cs, index + 1 =>
    if index + 1 < (charBytes c).length then none else sliceFrom cs
      (index + 1 - (charBytes c).length)

/-- `value[..length]`. -/
def sliceTo : List Char → ℕ → Option (List Char)
  | _, 0 => some []
  | [], _ + 1 => none
  | c :: cs, length + 1 =>
    if length + 1 < (charBytes c).length then none
    else (sliceTo cs (length + 1 - (charBytes c).length)).map (c :: ·)

/-- `value[start..stop]`. -/
def slice (cs : List Char) (start stop : ℕ) : Option (List Char) :=
  if stop < start then none else (sliceFrom cs start).bind (sliceTo · (stop - start))

/-- `is_char_boundary`. -/
def IsBoundary (cs : List Char) (index : ℕ) : Prop :=
  ∃ before after, cs = before ++ after ∧ index = byteLen before

/-! ## Octets -/

/-- A character has an octet. -/
theorem length_charBytes (c : Char) : (charBytes c).length = c.utf8Size := by
  unfold charBytes
  rw [List.length_map, String.length_utf8EncodeChar]

/-- A character has an octet. -/
theorem length_charBytes_pos (c : Char) : 0 < (charBytes c).length := by
  rw [length_charBytes]
  exact c.utf8Size_pos

/-- The octet of an ASCII character is its code. -/
theorem charBytes_ascii {c : Char} (h : c.toNat < 128) : charBytes c = [c.toNat] := by
  have hnat : c.toNat = c.val.toNat := rfl
  unfold charBytes String.utf8EncodeChar
  dsimp only
  rw [if_pos (by omega), List.map_singleton, hnat]
  rw [UInt8.toNat_ofNat', Nat.mod_eq_of_lt (by omega)]

/-- The octets of any other character are not ASCII. -/
theorem le_of_mem_charBytes {c : Char} (h : ¬ c.toNat < 128) {byte : ℕ}
    (hmem : byte ∈ charBytes c) : 128 ≤ byte := by
  have hnat : c.toNat = c.val.toNat := rfl
  unfold charBytes String.utf8EncodeChar at hmem
  dsimp only at hmem
  rw [if_neg (by omega)] at hmem
  split_ifs at hmem <;>
    simp only [List.map_cons, List.map_nil, List.mem_cons, List.not_mem_nil, or_false,
      UInt8.toNat_ofNat'] at hmem <;> omega

/-- An octet of a character is an ASCII octet only when it is the character. -/
theorem charBytes_head {c : Char} {byte : ℕ} {rest : List ℕ} (h : charBytes c = byte :: rest) :
    (c.toNat < 128 ∧ byte = c.toNat ∧ rest = []) ∨ (¬ c.toNat < 128 ∧ 128 ≤ byte) := by
  by_cases hascii : c.toNat < 128
  · rw [charBytes_ascii hascii] at h
    cases h
    exact .inl ⟨hascii, rfl, rfl⟩
  · exact .inr ⟨hascii, le_of_mem_charBytes hascii (by rw [h]; exact List.mem_cons_self)⟩

/-- The octets of a text in two parts. -/
theorem utf8Bytes_append (cs cs' : List Char) :
    utf8Bytes (cs ++ cs') = utf8Bytes cs ++ utf8Bytes cs' :=
  List.flatMap_append

/-- The octets of a text and its first character. -/
theorem utf8Bytes_cons (c : Char) (cs : List Char) :
    utf8Bytes (c :: cs) = charBytes c ++ utf8Bytes cs :=
  List.flatMap_cons

/-- The length of a text in two parts. -/
theorem byteLen_append (cs cs' : List Char) : byteLen (cs ++ cs') = byteLen cs + byteLen cs' := by
  unfold byteLen
  rw [utf8Bytes_append, List.length_append]

/-- The length of a text and its first character. -/
theorem byteLen_cons (c : Char) (cs : List Char) :
    byteLen (c :: cs) = (charBytes c).length + byteLen cs := by
  unfold byteLen
  rw [utf8Bytes_cons, List.length_append]

/-- Only the empty text has no octets. -/
theorem byteLen_eq_zero {cs : List Char} : byteLen cs = 0 ↔ cs = [] := by
  cases cs with
  | nil => exact iff_of_true rfl rfl
  | cons c cs =>
    have hpos := length_charBytes_pos c
    rw [byteLen_cons]
    exact iff_of_false (by omega) (by simp)

/-- An octet behind a part of a text is an octet of the rest. -/
theorem getElem?_utf8Bytes (before after : List Char) (offset : ℕ) :
    (utf8Bytes (before ++ after))[byteLen before + offset]? = (utf8Bytes after)[offset]? := by
  rw [utf8Bytes_append, byteLen, List.getElem?_append_right (by omega), Nat.add_sub_cancel_left]

/-- A text of ASCII has an octet for each character. -/
theorem utf8Bytes_of_ascii {cs : List Char} (h : ∀ c ∈ cs, c.toNat < 128) :
    utf8Bytes cs = cs.map Char.toNat := by
  induction cs with
  | nil => rfl
  | cons c cs ih =>
    obtain ⟨hc, hcs⟩ := List.forall_mem_cons.mp h
    rw [utf8Bytes_cons, charBytes_ascii hc, ih hcs]
    rfl

/-- The length of a text of ASCII. -/
theorem byteLen_of_ascii {cs : List Char} (h : ∀ c ∈ cs, c.toNat < 128) :
    byteLen cs = cs.length := by
  unfold byteLen
  rw [utf8Bytes_of_ascii h, List.length_map]

/-! ## Slices -/

/-- A slice that starts behind a part of a text is the rest. -/
theorem sliceFrom_append (before after : List Char) :
    sliceFrom (before ++ after) (byteLen before) = some after := by
  induction before with
  | nil =>
    show sliceFrom after 0 = some after
    cases after <;> rfl
  | cons c before ih =>
    have hpos := length_charBytes_pos c
    obtain ⟨index, hindex⟩ := Nat.exists_eq_add_one_of_ne_zero
      (show byteLen (c :: before) ≠ 0 by rw [byteLen_cons]; omega)
    have hrest : index + 1 - (charBytes c).length = byteLen before := by
      rw [← hindex, byteLen_cons]
      omega
    rw [hindex, List.cons_append, sliceFrom, hrest, if_neg, ih]
    rw [← hindex, byteLen_cons]
    omega

/-- A slice that ends behind a part of a text is the part. -/
theorem sliceTo_append (before after : List Char) :
    sliceTo (before ++ after) (byteLen before) = some before := by
  induction before with
  | nil =>
    show sliceTo after 0 = some []
    cases after <;> rfl
  | cons c before ih =>
    have hpos := length_charBytes_pos c
    obtain ⟨index, hindex⟩ := Nat.exists_eq_add_one_of_ne_zero
      (show byteLen (c :: before) ≠ 0 by rw [byteLen_cons]; omega)
    have hrest : index + 1 - (charBytes c).length = byteLen before := by
      rw [← hindex, byteLen_cons]
      omega
    rw [hindex, List.cons_append, sliceTo, hrest, if_neg, ih, Option.map_some]
    rw [← hindex, byteLen_cons]
    omega

/-- A slice between two boundaries is the text between them. -/
theorem slice_append (before middle after : List Char) :
    slice (before ++ (middle ++ after)) (byteLen before) (byteLen (before ++ middle)) =
      some middle := by
  have hlength := byteLen_append before middle
  unfold slice
  rw [if_neg (by omega), sliceFrom_append, Option.bind_some, hlength, Nat.add_sub_cancel_left,
    sliceTo_append]

end RustText
