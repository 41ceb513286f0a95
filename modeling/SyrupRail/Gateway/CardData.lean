import Mathlib.Data.List.Infix
import SyrupRail.Gateway.Value
import SyrupRail.Lib.Utf8

/-!
# The card scanner

`card_data.rs` on the octets of a text, with every index, slice, and octet arithmetic that may
panic: where it would, or where the loop does not end, the result is `none`. The general categories
of Unicode are a parameter.

The scalars that the scan reads lie end to end (`Scanned`), and a letter ends a candidate. What is
left of a candidate is a window of its last digits and a flag; `WindowOf` says which digits they
are, and that the flag is set when some window passed. The fold over the scalars is then the list of
their pieces between letters, each with its span.
-/

namespace SyrupRail.CardData

open RustText

/-! ## The code -/

/-- The data of Unicode: `GeneralCategory::DecimalNumber` of a code point, and
`char::is_alphabetic`. -/
structure UnicodeData where
  isDecimalNumber : ℕ → Bool
  isAlphabetic : Char → Bool

/-- The loop of `decimal_digit_value` that looks for the start of a run of digits. -/
def runStart (data : UnicodeData) : ℕ → ℕ
  | 0 => 0
  | start + 1 => if data.isDecimalNumber start then runStart data start else start + 1

/-- `decimal_digit_value`. -/
def decimalDigitValue (data : UnicodeData) (c : Char) : Option ℕ :=
  if data.isDecimalNumber c.toNat then some ((c.toNat - runStart data c.toNat) % 10) else none

/-- A result of `u8` arithmetic. -/
def checkedU8 (n : ℕ) : Option ℕ := if n < 256 then some n else none

/-- The loop of `luhn_digits_pass`, from the last digit on. -/
def luhnLoop : List ℕ → Bool → ℕ → Option ℕ
  | [], _, sum => some sum
  | digit :: digits, double, sum => do
    let value ← if double then do
        let value ← checkedU8 (digit * 2)
        some (if 9 < value then value - 9 else value)
      else some digit
    let sum ← checkedU8 (sum + value)
    luhnLoop digits (!double) sum

/-- `luhn_digits_pass`. -/
def luhnDigitsPass (digits : List ℕ) : Option Bool :=
  if minPanDigits ≤ digits.length ∧ digits.length ≤ maxPanDigits then do
    let sum ← luhnLoop digits.reverse false 0
    some (sum % 10 == 0)
  else some false

/-- `PanDigitWindow`. -/
structure PanDigitWindow where
  digits : List ℕ
  len : ℕ
  hasLuhnWindow : Bool
  deriving DecidableEq, Repr

/-- `PanDigitWindow::new`, and what `reset` leaves. -/
def PanDigitWindow.new : PanDigitWindow := ⟨List.replicate maxPanDigits 0, 0, false⟩

/-- `digits[index] = digit`. -/
def setIndex (digits : List ℕ) (index digit : ℕ) : Option (List ℕ) :=
  if index < digits.length then some (digits.set index digit) else none

/-- `&digits[len - window_len..len]`. -/
def lastDigits (digits : List ℕ) (len windowLen : ℕ) : Option (List ℕ) :=
  if windowLen ≤ len ∧ len ≤ digits.length
    then some ((digits.take len).drop (len - windowLen)) else none

/-- `copy_within(1..MAX_PAN_DIGITS, 0)`. -/
def copyWithin (digits : List ℕ) : Option (List ℕ) :=
  if maxPanDigits ≤ digits.length then
    some ((digits.take maxPanDigits).drop 1 ++ digits.drop (maxPanDigits - 1))
  else none

/-- The first half of `push`: the array and the length with the digit. -/
def PanDigitWindow.storeDigit (window : PanDigitWindow) (digit : ℕ) : Option (List ℕ × ℕ) :=
  if window.len < maxPanDigits then do
    some (← setIndex window.digits window.len digit, window.len + 1)
  else do
    let digits ← copyWithin window.digits
    some (← setIndex digits (maxPanDigits - 1) digit, window.len)

/-- `push`. -/
def PanDigitWindow.push (window : PanDigitWindow) (digit : ℕ) : Option PanDigitWindow := do
  let (digits, len) ← window.storeDigit digit
  if window.hasLuhnWindow then some ⟨digits, len, true⟩
  else do
    let passed ← (List.range' minPanDigits (len + 1 - minPanDigits)).anyM fun windowLen =>
      (lastDigits digits len windowLen).bind luhnDigitsPass
    some ⟨digits, len, passed⟩

/-- `percent_decoded_byte`; `char::from` of an octet is a character below 256. -/
def percentDecodedByte (bytes : List ℕ) (index : ℕ) : Option ℕ :=
  if bytes[index]? = some 0x25 then do
    let high ← hexDigit (Char.ofNat (← bytes[index + 1]?))
    let low ← hexDigit (Char.ofNat (← bytes[index + 2]?))
    some (16 * high + low)
  else none

/-- `percent_decoded_scalar`. Here `none` is the result of the source. -/
def percentDecodedScalar (bytes : List ℕ) (index : ℕ) : Option (Char × ℕ) := do
  let first ← percentDecodedByte bytes index
  let width ← scalarWidth first
  let rest ← (List.range' 1 (width - 1)).mapM fun offset =>
    percentDecodedByte bytes (index + offset * 3)
  match (String.fromUTF8? ⟨((first :: rest).map UInt8.ofNat).toArray⟩).map String.toList with
  | some [c] => some (c, index + width * 3)
  | _ => none

/-- `next_card_scan_scalar`. -/
def nextCardScanScalar (value : List Char) (index : ℕ) : Option (Char × ℕ) := do
  let byte ← (utf8Bytes value)[index]?
  match if byte = 0x25 then percentDecodedScalar (utf8Bytes value) index else none with
  | some scalar => some scalar
  | none =>
    let rest ← sliceFrom value index
    let c ← rest.head?
    some (c, index + (charBytes c).length)

/-- `parse_ascii_digits`. -/
def parseAsciiDigits (bytes : List ℕ) : Option ℕ :=
  bytes.foldlM (fun value byte => if 48 ≤ byte then some (value * 10 + (byte - 48)) else none) 0

/-- `&bytes[start..stop]`. -/
def bytesSlice (bytes : List ℕ) (start stop : ℕ) : Option (List ℕ) :=
  if start ≤ stop ∧ stop ≤ bytes.length then some ((bytes.take stop).drop start) else none

/-- `candidate_is_compact_date_time`. -/
def candidateIsCompactDateTime (bytes : List ℕ) : Option Bool :=
  if bytes.length ≠ 14 ∨ ¬ bytes.all (fun byte => 48 ≤ byte && byte ≤ 57) then some false
  else do
    let year ← parseAsciiDigits (← bytesSlice bytes 0 4)
    let month ← parseAsciiDigits (← bytesSlice bytes 4 6)
    let day ← parseAsciiDigits (← bytesSlice bytes 6 8)
    let hour ← parseAsciiDigits (← bytesSlice bytes 8 10)
    let minute ← parseAsciiDigits (← bytesSlice bytes 10 12)
    let second ← parseAsciiDigits (← bytesSlice bytes 12 14)
    some (2000 ≤ year && year ≤ 2099 && 1 ≤ month && month ≤ 12 && 1 ≤ day && day ≤ 31 &&
      hour ≤ 23 && minute ≤ 59 && second ≤ 59)

/-- The variables of `raw_card_data_ranges`. -/
structure Scan where
  ranges : List (ℕ × ℕ)
  digits : PanDigitWindow
  candidateStart : Option ℕ
  candidateEnd : ℕ
  index : ℕ
  deriving DecidableEq, Repr

/-- `push_raw_card_range`: the ranges afterwards. -/
def pushRawCardRange (value : List Char) (scan : Scan) : Option (List (ℕ × ℕ)) :=
  match scan.candidateStart with
  | none => some scan.ranges
  | some start =>
    if !scan.digits.hasLuhnWindow then some scan.ranges
    else do
      let candidate ← slice value start scan.candidateEnd
      if ← candidateIsCompactDateTime (utf8Bytes candidate) then some scan.ranges
      else some (scan.ranges ++ [(start, scan.candidateEnd)])

/-- The body of the loop of `raw_card_data_ranges`, for the scalar at the index. -/
def scanScalar (data : UnicodeData) (value : List Char) (scan : Scan) (c : Char) (next : ℕ) :
    Option Scan :=
  match decimalDigitValue data c with
  | some digit => do
    let digits ← scan.digits.push digit
    some { scan with
      digits := digits, candidateStart := scan.candidateStart.or (some scan.index)
      candidateEnd := next, index := next }
  | none =>
    if data.isAlphabetic c then do
      let ranges ← pushRawCardRange value scan
      some { scan with
        ranges := ranges, candidateStart := none, digits := .new, index := next }
    else some { scan with index := next }

/-- The loop of `raw_card_data_ranges`. Where the fuel ends the loop has not ended. -/
def scanLoop (data : UnicodeData) (value : List Char) : ℕ → Scan → Option Scan
  | 0, _ => none
  | fuel + 1, scan =>
    if scan.index < byteLen value then do
      let (c, next) ← nextCardScanScalar value scan.index
      scanLoop data value fuel (← scanScalar data value scan c next)
    else some scan

/-- `raw_card_data_ranges`. -/
def rawCardDataRanges (data : UnicodeData) (value : List Char) : Option (List (ℕ × ℕ)) := do
  let scan ← scanLoop data value (byteLen value + 1) ⟨[], .new, none, 0, 0⟩
  pushRawCardRange value scan

/-- `string_contains_raw_card_data`. -/
def stringContainsRawCardData (data : UnicodeData) (value : String) : Option Bool := do
  let ranges ← rawCardDataRanges data value.toList
  some (!ranges.isEmpty)

/-! ## The window of digits -/

/-- No digit overflows an octet: nineteen of them add up to at most 171. -/
theorem luhnLoop_eq {digits : List ℕ} (hdigits : ∀ digit ∈ digits, digit ≤ 9) (double : Bool)
    {sum : ℕ} (hsum : sum + 9 * digits.length < 256) :
    luhnLoop digits double sum = some (sum + luhnSum double digits) := by
  induction digits generalizing double sum with
  | nil => rfl
  | cons digit digits ih =>
    obtain ⟨hdigit, hdigits⟩ := List.forall_mem_cons.mp hdigits
    rw [List.length_cons] at hsum
    have hchecked {n : ℕ} (hn : n < 256) : checkedU8 n = some n := if_pos hn
    unfold luhnLoop luhnSum
    cases double with
    | false =>
      simp only [Bool.false_eq_true, if_false, Option.bind_eq_bind, Option.bind_some]
      rw [hchecked (by omega), Option.bind_some, ih hdigits _ (by omega)]
      congr 1
      omega
    | true =>
      have hvalue : (if 9 < digit * 2 then digit * 2 - 9 else digit * 2) ≤ 9 := by
        split_ifs <;> omega
      simp only [if_true, Option.bind_eq_bind]
      rw [hchecked (by omega), Option.bind_some, Option.bind_some, hchecked (by omega),
        Option.bind_some, ih hdigits _ (by omega)]
      congr 1
      omega

/-- The check of a window does not panic. -/
theorem luhnDigitsPass_eq {digits : List ℕ} (hdigits : ∀ digit ∈ digits, digit ≤ 9) :
    luhnDigitsPass digits = some (SyrupRail.luhnDigitsPass digits) := by
  unfold luhnDigitsPass SyrupRail.luhnDigitsPass
  by_cases hlength : minPanDigits ≤ digits.length ∧ digits.length ≤ maxPanDigits
  · have hmax : digits.length ≤ 19 := hlength.2
    have hloop :=
      @luhnLoop_eq digits.reverse (fun digit h => hdigits digit (List.mem_reverse.mp h)) false 0
        (by rw [List.length_reverse]; omega)
    rw [if_pos hlength, hloop]
    simp [hlength.1, hlength.2]
  · rw [if_neg hlength]
    rcases not_and_or.mp hlength with h | h <;> simp [h]

/-- Whether some window of 13 to 19 digits passes. -/
def hasLuhnWindow (digits : List ℕ) : Bool :=
  (digits.tails.flatMap List.inits).any SyrupRail.luhnDigitsPass

/-- A window is a contiguous part of the digits. -/
theorem hasLuhnWindow_iff {digits : List ℕ} :
    hasLuhnWindow digits = true ↔
      ∃ window, window <:+: digits ∧ SyrupRail.luhnDigitsPass window = true := by
  unfold hasLuhnWindow
  simp only [List.any_eq_true, List.mem_flatMap, List.mem_tails, List.mem_inits]
  constructor
  · rintro ⟨window, ⟨tail, htail, hwindow⟩, hpass⟩
    exact ⟨window, hwindow.isInfix.trans htail.isInfix, hpass⟩
  · rintro ⟨window, hinfix, hpass⟩
    obtain ⟨tail, hwindow, htail⟩ := List.infix_iff_prefix_suffix.mp hinfix
    exact ⟨window, ⟨tail, htail, hwindow⟩, hpass⟩

/-- The window of some digits: the last of them, and whether some window passed. -/
structure WindowOf (digits : List ℕ) (window : PanDigitWindow) : Prop where
  size : window.digits.length = maxPanDigits
  len : window.len = min digits.length maxPanDigits
  last : window.digits.take window.len = digits.drop (digits.length - window.len)
  flag : window.hasLuhnWindow = hasLuhnWindow digits

/-- The empty window. -/
theorem windowOf_new : WindowOf [] .new := ⟨by decide, by decide, by decide, by decide⟩

/-- A search that does not panic. -/
theorem anyM_eq {α : Type} {f : α → Option Bool} {g : α → Bool} {l : List α}
    (h : ∀ a ∈ l, f a = some (g a)) : l.anyM f = some (l.any g) := by
  induction l with
  | nil => rfl
  | cons a l ih =>
    obtain ⟨ha, hl⟩ := List.forall_mem_cons.mp h
    rw [List.anyM_cons, ha, List.any_cons]
    cases hg : g a with
    | true => rfl
    | false => exact ih hl

/-- The array and the length after a digit: its last digits are those of the longer list. -/
theorem storeDigit_spec {digits : List ℕ} {window : PanDigitWindow} (h : WindowOf digits window)
    (digit : ℕ) :
    ∃ digits' len', window.storeDigit digit = some (digits', len') ∧
      digits'.length = maxPanDigits ∧ len' = min (digits ++ [digit]).length maxPanDigits ∧
      digits'.take len' = (digits ++ [digit]).drop ((digits ++ [digit]).length - len') := by
  obtain ⟨hsize, hlen, hlast, -⟩ := h
  have hmax : maxPanDigits = 19 := rfl
  unfold PanDigitWindow.storeDigit
  rw [hmax] at hsize hlen ⊢
  by_cases hshort : window.len < 19
  · have hall : window.len = digits.length := by omega
    have hset : setIndex window.digits window.len digit =
        some (window.digits.set window.len digit) :=
      if_pos (by omega)
    refine ⟨window.digits.set window.len digit, window.len + 1, ?_, ?_, ?_, ?_⟩
    · rw [if_pos hshort, hset]
      rfl
    · rw [List.length_set, hsize]
    · rw [List.length_append, List.length_singleton]
      omega
    · rw [hall, Nat.sub_self, List.drop_zero] at hlast
      rw [List.length_append, List.length_singleton, hall, Nat.sub_self, List.drop_zero,
        List.take_add_one, List.getElem?_set_self (by omega),
          List.take_set_of_le (le_refl _), hlast]
      rfl
  · have hfull : window.len = 19 := by omega
    have hcopy : copyWithin window.digits =
        some (window.digits.drop 1 ++ window.digits.drop 18) := by
      unfold copyWithin
      rw [hmax, if_pos (by omega), List.take_of_length_le (by omega)]
    have hset : setIndex (window.digits.drop 1 ++ window.digits.drop 18) 18 digit =
        some (window.digits.drop 1 ++ [digit]) := by
      unfold setIndex
      rw [if_pos (by simp [hsize]), List.set_append_right _ _ (by simp [hsize])]
      obtain ⟨last, hlast⟩ := List.length_eq_one_iff.mp
        (show (window.digits.drop 18).length = 1 by simp [hsize])
      rw [hlast]
      simp [hsize]
    refine ⟨window.digits.drop 1 ++ [digit], 19, ?_, ?_, ?_, ?_⟩
    · rw [if_neg hshort, hcopy]
      show (setIndex (window.digits.drop 1 ++ window.digits.drop 18) 18 digit).bind _ = _
      rw [hset, hfull]
      rfl
    · simp [hsize]
    · rw [List.length_append, List.length_singleton]
      omega
    · rw [hfull, List.take_of_length_le (by omega)] at hlast
      rw [List.take_of_length_le (by simp [hsize]), hlast, List.drop_drop, List.length_append,
        List.length_singleton, List.drop_append_of_le_length (by omega)]
      congr 2
      omega

/-- The windows that end with a digit are the ends of the last nineteen. -/
theorem hasLuhnWindow_concat (digits : List ℕ) (digit : ℕ) :
    hasLuhnWindow (digits ++ [digit]) = (hasLuhnWindow digits ||
      (List.range' minPanDigits
        (min (digits ++ [digit]).length maxPanDigits + 1 - minPanDigits)).any
        fun n => SyrupRail.luhnDigitsPass
          ((digits ++ [digit]).drop ((digits ++ [digit]).length - n))) := by
  have hmin : minPanDigits = 13 := rfl
  have hmax : maxPanDigits = 19 := rfl
  rw [Bool.eq_iff_iff, Bool.or_eq_true, hasLuhnWindow_iff, hasLuhnWindow_iff, List.any_eq_true]
  simp only [List.mem_range'_1, hmin, hmax]
  constructor
  · rintro ⟨window, hinfix, hpass⟩
    rcases List.infix_concat_iff.mp hinfix with hsuffix | hinfix
    · refine .inr ⟨window.length, ?_, ?_⟩
      · have hle := hsuffix.length_le
        unfold SyrupRail.luhnDigitsPass at hpass
        rw [Bool.and_eq_true, Bool.and_eq_true, decide_eq_true_eq, decide_eq_true_eq, hmin,
          hmax] at hpass
        omega
      · rw [← List.suffix_iff_eq_drop.mp hsuffix]
        exact hpass
    · exact .inl ⟨window, hinfix, hpass⟩
  · rintro (⟨window, hinfix, hpass⟩ | ⟨n, -, hpass⟩)
    · exact ⟨window, List.infix_concat_iff.mpr (.inr hinfix), hpass⟩
    · exact ⟨_, (List.drop_suffix _ _).isInfix, hpass⟩

/-- Pushing a digit does not panic, and leaves the window of the longer list. -/
theorem push_spec {digits : List ℕ} {window : PanDigitWindow} (h : WindowOf digits window)
    (hdigits : ∀ digit ∈ digits, digit ≤ 9) {digit : ℕ} (hdigit : digit ≤ 9) :
    ∃ window', window.push digit = some window' ∧ WindowOf (digits ++ [digit]) window' := by
  obtain ⟨digits', len, hpushed, hsize, hlen, hlast⟩ := storeDigit_spec h digit
  have hflag := hasLuhnWindow_concat digits digit
  unfold PanDigitWindow.push
  rw [hpushed]
  simp only [Option.bind_eq_bind, Option.bind_some]
  cases hwindow : window.hasLuhnWindow with
  | true =>
    refine ⟨⟨digits', len, true⟩, rfl, hsize, hlen, hlast, ?_⟩
    rw [hflag, ← h.flag, hwindow, Bool.true_or]
  | false =>
    have hnine : ∀ d ∈ digits ++ [digit], d ≤ 9 := by
      intro d hd
      rcases List.mem_append.mp hd with hd | hd
      · exact hdigits d hd
      · rwa [List.mem_singleton.mp hd]
    have hany :=
      @anyM_eq ℕ (fun windowLen => (lastDigits digits' len windowLen).bind luhnDigitsPass)
        (fun n => SyrupRail.luhnDigitsPass
          ((digits ++ [digit]).drop ((digits ++ [digit]).length - n)))
      (List.range' minPanDigits (len + 1 - minPanDigits)) fun n hn => by
        rw [List.mem_range'_1] at hn
        have hslice : lastDigits digits' len n =
            some ((digits ++ [digit]).drop ((digits ++ [digit]).length - n)) := by
          unfold lastDigits
          rw [if_pos ⟨by omega, by omega⟩, hlast, List.drop_drop]
          congr 2
          omega
        rw [hslice, Option.bind_some]
        exact luhnDigitsPass_eq fun d hd => hnine d (List.drop_subset _ _ hd)
    rw [if_neg (by simp), hany, Option.bind_some]
    refine ⟨_, rfl, hsize, hlen, hlast, ?_⟩
    rw [hflag, ← h.flag, hwindow, Bool.false_or, hlen]

/-! ## The scalars of the scan -/

/-- Only an ASCII character is a hexadecimal digit. -/
theorem hexDigit_eq_none {c : Char} (h : 128 ≤ c.toNat) : hexDigit c = none := by
  have hnat : c.toNat = c.val.toNat := rfl
  have hnine : '9'.val.toNat = 57 := rfl
  have hf : 'f'.val.toNat = 102 := rfl
  have hF : 'F'.val.toNat = 70 := rfl
  have hdigit : c.isDigit = false := by
    simp only [Char.isDigit, Bool.and_eq_false_iff, decide_eq_false_iff_not, UInt32.le_iff_toNat_le]
    omega
  unfold hexDigit
  rw [if_neg (by simp [hdigit]), if_neg, if_neg]
  · simp only [Char.le_def, UInt32.le_iff_toNat_le]
    omega
  · simp only [Char.le_def, UInt32.le_iff_toNat_le]
    omega

/-- The first octet of a character is read as a hexadecimal digit exactly when the character is
one. -/
theorem hexDigit_first {c : Char} {byte : ℕ} {rest : List ℕ} (h : charBytes c = byte :: rest) :
    hexDigit (Char.ofNat byte) = hexDigit c := by
  have hmem : byte ∈ charBytes c := by
    rw [h]
    exact List.mem_cons_self
  have hsmall : byte < 256 := by
    obtain ⟨octet, -, rfl⟩ := List.mem_map.mp hmem
    exact octet.toNat_lt
  rcases charBytes_head h with ⟨-, rfl, -⟩ | ⟨hascii, hbyte⟩
  · rw [Char.ofNat_toNat]
  · have hvalid : (Char.ofNat byte).toNat = byte := by
      unfold Char.ofNat
      rw [dif_pos (.inl (by omega))]
      rfl
    rw [hexDigit_eq_none (by omega), hexDigit_eq_none (by omega)]

/-- A percent-encoded octet at a boundary is that of the characters there. -/
theorem percentDecodedByte_eq (before cs : List Char) :
    percentDecodedByte (utf8Bytes (before ++ cs)) (byteLen before) =
      SyrupRail.percentDecodedByte cs := by
  have hfirst := getElem?_utf8Bytes before cs 0
  rw [Nat.add_zero] at hfirst
  unfold percentDecodedByte
  rw [hfirst, getElem?_utf8Bytes, getElem?_utf8Bytes]
  match cs with
  | [] => rfl
  | c :: cs =>
    obtain ⟨byte, rest, hbytes⟩ := List.exists_cons_of_length_pos (length_charBytes_pos c)
    by_cases hpercent : c = '%'
    · subst hpercent
      have hcode : charBytes '%' = [0x25] := by decide
      rw [utf8Bytes_cons, hcode, List.singleton_append, if_pos (by rfl), List.getElem?_cons_succ,
        List.getElem?_cons_succ]
      match cs with
      | [] => rfl
      | [high] =>
        obtain ⟨octet, octets, hhigh⟩ := List.exists_cons_of_length_pos (length_charBytes_pos high)
        have hrest : (utf8Bytes [high])[1]? = none ∨ hexDigit high = none := by
          rcases charBytes_head hhigh with ⟨-, -, rfl⟩ | ⟨hascii, -⟩
          · rw [utf8Bytes_cons, hhigh]
            exact .inl rfl
          · exact .inr (hexDigit_eq_none (by omega))
        have hnone : SyrupRail.percentDecodedByte ['%', high] = none := rfl
        have hzero : (utf8Bytes [high])[0]? = some octet := by
          rw [utf8Bytes_cons, hhigh]
          rfl
        rw [hnone, hzero]
        rcases hrest with hrest | hrest
        · rw [hrest]
          simp
        · simp [hexDigit_first hhigh, hrest]
      | high :: low :: tail =>
        obtain ⟨octet, octets, hhigh⟩ := List.exists_cons_of_length_pos (length_charBytes_pos high)
        obtain ⟨octet', octets', hlow⟩ := List.exists_cons_of_length_pos (length_charBytes_pos low)
        have hzero : (utf8Bytes (high :: low :: tail))[0]? = some octet := by
          rw [utf8Bytes_cons, hhigh]
          rfl
        have hvalue : SyrupRail.percentDecodedByte ('%' :: high :: low :: tail) =
            (hexDigit high).bind fun h => (hexDigit low).bind fun l => some (16 * h + l) := rfl
        rw [hvalue, hzero]
        rcases charBytes_head hhigh with ⟨-, -, rfl⟩ | ⟨hascii, -⟩
        · have hone : (utf8Bytes (high :: low :: tail))[1]? = some octet' := by
            rw [utf8Bytes_cons, hhigh, utf8Bytes_cons, hlow]
            rfl
          rw [hone]
          simp only [Option.bind_eq_bind, Option.bind_some, hexDigit_first hhigh,
            hexDigit_first hlow]
        · simp [hexDigit_first hhigh, hexDigit_eq_none (show 128 ≤ high.toNat by omega)]
    · have hother : SyrupRail.percentDecodedByte (c :: cs) = none := by
        unfold SyrupRail.percentDecodedByte
        split
        · rename_i heq
          exact absurd (List.cons.inj heq).1 hpercent
        · rfl
      have hbyte : byte ≠ 0x25 := by
        rintro rfl
        rcases charBytes_head hbytes with ⟨-, hcode, -⟩ | ⟨-, hle⟩
        · exact hpercent (Char.toNat_inj.mp hcode.symm)
        · omega
      rw [hother, utf8Bytes_cons, hbytes, List.cons_append, List.getElem?_cons_zero,
        if_neg (by simpa using hbyte)]

/-- A percent-encoded octet takes three characters of ASCII. -/
theorem percentDecodedByte_eq_some {cs : List Char} {byte : ℕ}
    (h : SyrupRail.percentDecodedByte cs = some byte) :
    ∃ high low rest, cs = ['%', high, low] ++ rest ∧ byteLen ['%', high, low] = 3 := by
  unfold SyrupRail.percentDecodedByte at h
  split at h
  · rename_i high low rest
    have hascii {c : Char} (hc : hexDigit c ≠ none) : (charBytes c).length = 1 := by
      by_contra hlength
      refine hc (hexDigit_eq_none (Nat.le_of_not_lt fun hlt => hlength ?_))
      rw [charBytes_ascii hlt]
      rfl
    simp only [Option.bind_eq_bind, Option.bind_eq_some_iff] at h
    obtain ⟨h1, hhigh, h2, hlow, -⟩ := h
    refine ⟨high, low, rest, rfl, ?_⟩
    rw [byteLen_cons, byteLen_cons, byteLen_cons, hascii (c := high) (by simp [hhigh]),
      hascii (c := low) (by simp [hlow])]
    rfl
  · cases h

/-- The octets of a scalar are read in step: where one is read, the next begins three characters
on. -/
theorem percentDecodedBytes_eq (k offset : ℕ) (all : List Char) {index : ℕ}
    {value before cs : List Char} (hvalue : value = before ++ cs)
    (hindex : index + offset * 3 = byteLen before) (hcs : cs = all.drop (3 * offset)) :
    ((List.range' offset k).mapM fun o => percentDecodedByte (utf8Bytes value) (index + o * 3)) =
        ((List.range' offset k).mapM fun o => SyrupRail.percentDecodedByte (all.drop (3 * o))) ∧
      ∀ bytes,
        ((List.range' offset k).mapM fun o => SyrupRail.percentDecodedByte (all.drop (3 * o))) =
          some bytes → ∃ taken rest, cs = taken ++ rest ∧ taken.length = 3 * k ∧
            byteLen taken = 3 * k := by
  induction k generalizing offset before cs with
  | zero => exact ⟨rfl, fun _ _ => ⟨[], cs, rfl, rfl, rfl⟩⟩
  | succ k ih =>
    have hfirst : percentDecodedByte (utf8Bytes value) (index + offset * 3) =
        SyrupRail.percentDecodedByte (all.drop (3 * offset)) := by
      rw [hindex, hvalue, percentDecodedByte_eq, hcs]
    rw [List.range'_succ, List.mapM_cons, List.mapM_cons, hfirst]
    cases hbyte : SyrupRail.percentDecodedByte (all.drop (3 * offset)) with
    | none => exact ⟨rfl, fun bytes h => by cases h⟩
    | some byte =>
      rw [← hcs] at hbyte
      obtain ⟨high, low, rest, heq, hthree⟩ := percentDecodedByte_eq_some hbyte
      obtain ⟨hsame, htaken⟩ := @ih (offset + 1) (before ++ ['%', high, low]) rest
        (by rw [hvalue, heq, List.append_assoc]) (by rw [byteLen_append, hthree]; omega)
        (by
          rw [Nat.mul_succ, ← List.drop_drop, ← hcs, heq]
          rfl)
      refine ⟨by rw [hsame], fun bytes hbytes => ?_⟩
      obtain ⟨_, -, hbytes⟩ := Option.bind_eq_some_iff.mp hbytes
      obtain ⟨_, hbytes, -⟩ := Option.bind_eq_some_iff.mp hbytes
      obtain ⟨taken, rest', rfl, hlength, hbytes⟩ := htaken _ hbytes
      refine ⟨['%', high, low] ++ taken, rest', by rw [heq, List.append_assoc], ?_, ?_⟩
      · rw [List.length_append, hlength]
        simp only [List.length_cons, List.length_nil]
        omega
      · rw [byteLen_append, hthree, hbytes]
        omega

/-- A percent-encoded scalar at a boundary is that of the characters there, and ends at a
boundary. -/
theorem percentDecodedScalar_eq {value before cs : List Char} (hvalue : value = before ++ cs) :
    percentDecodedScalar (utf8Bytes value) (byteLen before) =
        (SyrupRail.percentDecodedScalar cs).map (fun scalar =>
          (scalar.1, byteLen (before ++ cs.take scalar.2))) ∧
      ∀ scalar, SyrupRail.percentDecodedScalar cs = some scalar →
        0 < scalar.2 ∧ scalar.2 ≤ cs.length := by
  have hfirst : percentDecodedByte (utf8Bytes value) (byteLen before) =
      SyrupRail.percentDecodedByte cs := by
    rw [hvalue, percentDecodedByte_eq]
  unfold percentDecodedScalar SyrupRail.percentDecodedScalar
  rw [hfirst]
  cases hbyte : SyrupRail.percentDecodedByte cs with
  | none => exact ⟨rfl, fun scalar h => by cases h⟩
  | some first =>
    simp only [Option.bind_eq_bind, Option.bind_some]
    cases hwidth : scalarWidth first with
    | none => exact ⟨rfl, fun scalar h => by cases h⟩
    | some width =>
      have hpos : 0 < width := by
        unfold scalarWidth at hwidth
        split_ifs at hwidth <;> cases hwidth <;> omega
      obtain ⟨rest, rfl⟩ := Nat.exists_eq_add_one_of_ne_zero hpos.ne'
      obtain ⟨hsame, htaken⟩ := percentDecodedBytes_eq (rest + 1) 0 cs hvalue
        (by rw [Nat.zero_mul, Nat.add_zero]) (by simp)
      have hzero : percentDecodedByte (utf8Bytes value) (byteLen before + 0 * 3) = some first := by
        rw [Nat.zero_mul, Nat.add_zero, hfirst, hbyte]
      have hall : ((List.range' 0 (rest + 1)).mapM fun o =>
            percentDecodedByte (utf8Bytes value) (byteLen before + o * 3)) =
          ((List.range' 1 rest).mapM fun o =>
            percentDecodedByte (utf8Bytes value) (byteLen before + o * 3)).map (first :: ·) := by
        rw [List.range'_succ, List.mapM_cons, hzero]
        simp only [Option.bind_eq_bind, Option.bind_some, Option.pure_def, Nat.zero_add]
        rw [Option.map_eq_bind]
        rfl
      simp only [Option.bind_some]
      rw [List.range_eq_range', ← hsame, hall, Nat.add_sub_cancel]
      rw [← hsame, hall] at htaken
      cases hrest : (List.range' 1 rest).mapM fun offset =>
          percentDecodedByte (utf8Bytes value) (byteLen before + offset * 3) with
      | none => exact ⟨rfl, fun scalar h => by cases h⟩
      | some bytes =>
        obtain ⟨taken, rest', rfl, hlength, hbytes⟩ := htaken (first :: bytes) (by rw [hrest]; rfl)
        simp only [Option.bind_some, Option.map_some]
        generalize (String.fromUTF8? ⟨((first :: bytes).map UInt8.ofNat).toArray⟩).map
          String.toList = decoded
        rcases decoded with _ | _ | ⟨c, _ | _⟩
        · exact ⟨rfl, fun scalar h => by cases h⟩
        · exact ⟨rfl, fun scalar h => by cases h⟩
        · refine ⟨?_, fun scalar h => ?_⟩
          · show some (c, byteLen before + (rest + 1) * 3) =
              some (c, byteLen (before ++ (taken ++ rest').take (3 * (rest + 1))))
            rw [← hlength, List.take_left, byteLen_append, hbytes, Nat.mul_comm]
          · cases h
            rw [List.length_append]
            omega
        · exact ⟨rfl, fun scalar h => by cases h⟩

/-- The scalar at a boundary is that of the characters there, and ends at a boundary. -/
theorem nextCardScanScalar_eq (before : List Char) (c : Char) (cs : List Char) :
    nextCardScanScalar (before ++ c :: cs) (byteLen before) =
        some ((SyrupRail.nextCardScanScalar c cs).1,
          byteLen (before ++ (c :: cs).take (SyrupRail.nextCardScanScalar c cs).2)) ∧
      0 < (SyrupRail.nextCardScanScalar c cs).2 ∧
      (SyrupRail.nextCardScanScalar c cs).2 ≤ (c :: cs).length := by
  obtain ⟨byte, rest, hbytes⟩ := List.exists_cons_of_length_pos (length_charBytes_pos c)
  have hbyte : (utf8Bytes (before ++ c :: cs))[byteLen before]? = some byte := by
    have hoffset := getElem?_utf8Bytes before (c :: cs) 0
    rw [Nat.add_zero] at hoffset
    rw [hoffset, utf8Bytes_cons, hbytes]
    rfl
  have hpercent : byte = 0x25 ↔ c = '%' := by
    constructor
    · rintro rfl
      rcases charBytes_head hbytes with ⟨-, hcode, -⟩ | ⟨-, hle⟩
      · exact Char.toNat_inj.mp hcode.symm
      · omega
    · rintro rfl
      have hcode : charBytes '%' = [0x25] := by decide
      rw [hcode] at hbytes
      exact (List.cons.inj hbytes).1.symm
  have hplain : (sliceFrom (before ++ c :: cs) (byteLen before)).bind (fun rest => rest.head?.bind
      fun c => some (c, byteLen before + (charBytes c).length)) =
      some (c, byteLen (before ++ (c :: cs).take 1)) := by
    have hone : byteLen [c] = (charBytes c).length := by
      rw [byteLen_cons]
      rfl
    rw [sliceFrom_append, Option.bind_some, List.head?_cons, Option.bind_some, byteLen_append,
      List.take_succ_cons, List.take_zero, hone]
  unfold nextCardScanScalar SyrupRail.nextCardScanScalar
  rw [hbyte]
  simp only [Option.bind_eq_bind, Option.bind_some]
  by_cases hc : c = '%'
  · rw [if_pos (hpercent.mpr hc), if_pos hc]
    obtain ⟨hsame, hbounds⟩ := @percentDecodedScalar_eq (before ++ c :: cs) before (c :: cs) rfl
    rw [hsame]
    cases hscalar : SyrupRail.percentDecodedScalar (c :: cs) with
    | none => exact ⟨hplain, by simp⟩
    | some scalar => exact ⟨rfl, hbounds scalar hscalar⟩
  · rw [if_neg fun h => hc (hpercent.mp h), if_neg hc]
    exact ⟨hplain, by simp⟩

end SyrupRail.CardData
