import Mathlib.Algebra.GroupWithZero.Nat
import Mathlib.Data.List.DropRight
import Mathlib.Data.List.Infix
import Mathlib.Data.String.Basic

/-!
# Rust's text functions

The functions of `str` and `char` that Rust programs use to read short protocol scalars, on Lean's
`String`: the Unicode `trim`, the ASCII case and blank tests, and the unsigned `FromStr` parsers.
A Rust `str` is a sequence of Unicode scalar values, as a Lean `String` is, so `chars().count()`
is `String.length`.
-/

namespace RustText

/-- `char::is_whitespace`: the Unicode property `White_Space`. -/
def isWhitespace (c : Char) : Bool :=
  (0x9 ≤ c.toNat && c.toNat ≤ 0xD) || c.toNat == 0x20 || c.toNat == 0x85 || c.toNat == 0xA0 ||
    c.toNat == 0x1680 || (0x2000 ≤ c.toNat && c.toNat ≤ 0x200A) || c.toNat == 0x2028 ||
    c.toNat == 0x2029 || c.toNat == 0x202F || c.toNat == 0x205F || c.toNat == 0x3000

/-- `char::is_ascii_whitespace`: blank, tab, line feed, form feed, and carriage return. The
vertical tab is not in it. -/
def isAsciiWhitespace (c : Char) : Bool :=
  c == ' ' || c == '\t' || c == '\n' || c == '\x0C' || c == '\r'

/-- The letters, by their code points. -/
theorem isUpper_eq (c : Char) : c.isUpper = decide (c.val ≥ 'A'.val ∧ c.val ≤ 'Z'.val) := rfl

/-- `is_ascii_lowercase` as a range of code points. -/
theorem isLower_eq (c : Char) :
    c.isLower = (decide (c.val ≥ 'a'.val) && decide (c.val ≤ 'z'.val)) := rfl

/-- A letter is of either case. -/
theorem isAlpha_eq (c : Char) : c.isAlpha = (c.isUpper || c.isLower) := rfl

/-- `str::trim`: without leading and trailing Unicode whitespace. -/
def trim (s : String) : String :=
  String.ofList ((s.toList.dropWhile isWhitespace).rdropWhile isWhitespace)

/-- Trimming a trimmed text changes nothing. -/
@[simp]
theorem trim_trim (s : String) : trim (trim s) = trim s := by
  unfold trim
  rw [String.toList_ofList]
  congr 1
  generalize hd : s.toList.dropWhile isWhitespace = d
  have hpre : d.rdropWhile isWhitespace <+: d := List.rdropWhile_prefix _ _
  have hdrop : (d.rdropWhile isWhitespace).dropWhile isWhitespace = d.rdropWhile isWhitespace := by
    cases hr : d.rdropWhile isWhitespace with
    | nil => rfl
    | cons a t =>
      -- The first character left is the first of `d`, where the leading blanks are gone.
      rw [hr] at hpre
      obtain ⟨u, hu⟩ := hpre
      have ha : isWhitespace a = false := by
        have := List.head?_dropWhile_not isWhitespace s.toList
        rw [hd, ← hu] at this
        simpa using this
      simp [ha]
  rw [hdrop, List.rdropWhile_idempotent]

/-- `str::to_ascii_lowercase`; `Char.toLower` maps the ASCII letters only. -/
def toAsciiLowercase (s : String) : String := String.ofList (s.toList.map Char.toLower)

/-- The words of `str::split_whitespace`, joined by one blank. -/
def collapseWhitespace (s : String) : String :=
  String.ofList ([' '].intercalate ((s.toList.splitOnP isWhitespace).filter (!·.isEmpty)))

/-- `str::contains` of a string pattern. -/
def contains (pattern s : String) : Bool := pattern.toList <:+: s.toList

/-- The value of a digit string in base ten, when it is not empty and every character is an ASCII
digit. -/
def parseDigits (cs : List Char) : Option ℕ :=
  if cs ≠ [] ∧ cs.all Char.isDigit then
    some (Nat.ofDigitChars 10 cs 0)
  else none

/-- `FromStr` of an unsigned type whose largest value is `max`: one optional plus sign, then a
digit string whose value fits. -/
def parseUnsigned (max : ℕ) (s : String) : Option ℕ :=
  let digits := match s.toList with
    | '+' :: cs => cs
    | cs => cs
  (parseDigits digits).filter (· ≤ max)

/-- `FromStr` of `u16`. -/
def parseU16 (s : String) : Option ℕ := parseUnsigned 65535 s

/-- The decimal spelling determines the number. -/
theorem toString_inj {m n : ℕ} (h : toString m = toString n) : m = n := by
  have hm := Nat.ofDigitChars_ten_toDigits (n := m)
  have hn := Nat.ofDigitChars_ten_toDigits (n := n)
  have hd : Nat.toDigits 10 m = Nat.toDigits 10 n := String.ofList_inj.mp h
  rw [← hm, ← hn, hd]

/-! ## Blanks -/

/-- Splitting drops the separators and nothing else. -/
theorem flatten_splitOnP {α : Type*} (p : α → Bool) (l : List α) :
    (l.splitOnP p).flatten = l.filter fun a => !p a := by
  induction l with
  | nil => rfl
  | cons a l ih =>
    rw [List.splitOnP_cons_eq_if_modifyHead]
    cases hp : p a with
    | true => simp [hp, ih]
    | false =>
      cases hl : l.splitOnP p with
      | nil => exact absurd hl (List.splitOnP_ne_nil p l)
      | cons first parts =>
        rw [hl] at ih
        simpa [hp] using ih

/-- Trimming does not make a text longer. -/
theorem length_trim_le (s : String) : (trim s).toList.length ≤ s.toList.length := by
  unfold trim
  rw [String.toList_ofList]
  exact (List.rdropWhile_prefix _ _).length_le.trans (List.dropWhile_suffix _).length_le

/-- A text without blanks has none to trim. -/
theorem trim_eq {s : String} (h : ∀ c ∈ s.toList, isWhitespace c = false) : trim s = s := by
  have hdrop (l : List Char) (hl : ∀ c ∈ l, isWhitespace c = false) :
      l.dropWhile isWhitespace = l := by
    cases l with
    | nil => rfl
    | cons c l => rw [List.dropWhile_cons_of_neg (by simp [hl c List.mem_cons_self])]
  unfold trim
  rw [hdrop _ h, List.rdropWhile, hdrop _ (by simpa using h), List.reverse_reverse,
    String.ofList_toList]

/-- The octets of a text are those of its characters. -/
theorem utf8ByteSize_ofList (cs : List Char) :
    (String.ofList cs).utf8ByteSize = (cs.map Char.utf8Size).sum := by
  induction cs with
  | nil => simp
  | cons c cs ih =>
    have hcons : String.ofList (c :: cs) = String.singleton c ++ String.ofList cs := by
      apply String.toList_injective
      simp
    rw [hcons, String.utf8ByteSize_append, ih, String.utf8ByteSize_singleton, List.map_cons,
      List.sum_cons]

/-- Characters take no fewer octets than there are of them, and as many only when each takes one. -/
theorem sum_utf8Size_le_length_iff (cs : List Char) :
    cs.length ≤ (cs.map Char.utf8Size).sum ∧
      ((cs.map Char.utf8Size).sum ≤ cs.length ↔ ∀ c ∈ cs, c.utf8Size = 1) := by
  induction cs with
  | nil => simp
  | cons c cs ih =>
    have hpos := c.utf8Size_pos
    obtain ⟨hle, hiff⟩ := ih
    simp only [List.map_cons, List.sum_cons, List.length_cons, List.forall_mem_cons]
    refine ⟨by omega, fun h => ⟨by omega, hiff.mp (by omega)⟩, fun h => ?_⟩
    have hrest := hiff.mpr h.2
    have hone := h.1
    omega

/-- A text that is cut at `n` characters fits `n` octets when the whole text does, or when the
characters that are left take one octet each; and in no other case. -/
theorem utf8ByteSize_take_le_iff (n : ℕ) (s : String) :
    (String.ofList (s.toList.take n)).utf8ByteSize ≤ n ↔
      s.utf8ByteSize ≤ n ∨ ∀ c ∈ s.toList.take n, c.utf8Size = 1 := by
  have hs : s.utf8ByteSize = (s.toList.map Char.utf8Size).sum := by
    rw [← utf8ByteSize_ofList, String.ofList_toList]
  obtain ⟨hlen, -⟩ := sum_utf8Size_le_length_iff s.toList
  obtain ⟨-, htake⟩ := sum_utf8Size_le_length_iff (s.toList.take n)
  rw [utf8ByteSize_ofList, hs]
  by_cases hshort : s.toList.length ≤ n
  · rw [List.take_of_length_le hshort] at htake ⊢
    refine ⟨.inl, fun h => h.elim id fun hone => ?_⟩
    exact (htake.mpr hone).trans hshort
  · -- The cut is real: exactly `n` characters are left, and the whole text is longer than `n`
    -- octets.
    have htaken : (s.toList.take n).length = n := List.length_take_of_le (by omega)
    rw [htaken] at htake
    rw [htake]
    refine ⟨.inr, fun h => h.elim (fun hle => ?_) id⟩
    omega

end RustText
