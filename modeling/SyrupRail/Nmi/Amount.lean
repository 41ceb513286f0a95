import SyrupRail.Gateway.Value
import SyrupRail.Lib.Fields
import SyrupRail.Nmi.Response

/-!
# Amounts as texts

Three places of the NMI crates read or write an amount. A sale sends it as `amount_string`, the
parser of reports compares the occurrences of an amount by `normalize_report_amount`, and the
lifecycle of a report values it by `action_amount_cents`. Both readers take a sign, a currency mark,
and up to two decimals, and are written apart.

A text that the normalizer reads has `AmountParts`; from these come its normal form and its value
(`normalizeReportAmount_of_parts`, `actionAmountCents_of_parts`). The normal form has parts of the
same value, and a text without parts is its own normal form up to blanks. So the value of a text is
that of its normal form.
-/

namespace SyrupRail.Nmi

open RustText

/-! ## The code -/

/-- The sign of an amount: `strip_prefix('-')`, and the blanks behind it. -/
def splitSign : List Char → Bool × List Char
  | '-' :: unsigned => (true, unsigned.dropWhile isWhitespace)
  | amount => (false, amount)

/-- `strip_prefix('$')`. -/
def stripCurrency : List Char → List Char
  | '$' :: amount => amount
  | amount => amount

/-- Whether a text is digits only; it may be empty. -/
def allDigits (cs : List Char) : Bool := cs.all Char.isDigit

/-- The whole and the fraction of an amount: `split('.')` into one or two parts. A third part is
refused. -/
def splitAmount (cs : List Char) : Option (List Char × List Char) :=
  match cs.splitOn '.' with
  | [whole] => some (whole, [])
  | [whole, fraction] => some (whole, fraction)
  | _ => none

/-- Whether the whole and the fraction of an amount are digits, with at most two decimals. -/
def readableAmount (whole fraction : List Char) : Bool :=
  !whole.isEmpty && allDigits whole && fraction.length ≤ 2 && allDigits fraction

/-- The two decimals of a fraction. -/
def twoDecimals : List Char → List Char
  | [] => ['0', '0']
  | [tenths] => [tenths, '0']
  | fraction => fraction

/-- `trim_start_matches('0')`, with one digit left. -/
def withoutLeadingZeros (whole : List Char) : List Char :=
  match whole.dropWhile (· == '0') with
  | [] => ['0']
  | whole => whole

/-- The text of a normal form. -/
def amountText (negative : Bool) (whole fraction : List Char) : String :=
  String.ofList ((if negative then ['-'] else []) ++ whole ++ '.' :: fraction)

/-- `normalize_report_amount`: a text that is no amount is only trimmed. -/
def normalizeReportAmount (value : String) : String :=
  let value := trim value
  let (negative, unsigned) := splitSign value.toList
  match splitAmount (stripCurrency unsigned) with
  | none => value
  | some (whole, fraction) =>
    if !readableAmount whole fraction then value
    else
      let whole := withoutLeadingZeros whole
      let fraction := twoDecimals fraction
      amountText (negative && (whole != ['0'] || fraction != ['0', '0'])) whole fraction

/-- The largest `i64`. -/
def maxI64 : ℕ := 9223372036854775807

/-- `parse::<i64>` of digits. -/
def parseI64Digits (cs : List Char) : Option ℕ := (parseDigits cs).filter (· ≤ maxI64)

/-- A result of checked arithmetic on numbers that are not negative. -/
def checkedI64 (n : ℕ) : Option ℕ := if n ≤ maxI64 then some n else none

/-- The cents of a fraction. -/
def fractionCents (fraction : List Char) : Option ℕ :=
  match fraction with
  | [] => some 0
  | [_] => (parseI64Digits fraction).bind fun tenths => checkedI64 (tenths * 10)
  | _ => parseI64Digits fraction

/-- `action_amount_cents`, of the text of an amount. -/
def actionAmountCents (amount : String) : Option ℤ :=
  let (negative, amount) := splitSign (trim amount).toList
  match splitAmount (amount.dropWhile (· == '$')) with
  | none => none
  | some (whole, fraction) =>
    if !readableAmount whole fraction then none
    else do
      let wholeCents ← (parseI64Digits whole).bind fun n => checkedI64 (n * 100)
      let fractionCents ← fractionCents fraction
      let cents ← checkedI64 (wholeCents + fractionCents)
      some (if negative then -(cents : ℤ) else cents)

/-- `{:02}` of a number below 100. -/
def twoDigits (n : ℕ) : String := if n < 10 then "0" ++ toString n else toString n

/-- `amount_string`. -/
def amountString (amountCents : ℤ) : Except WireError String :=
  if amountCents ≤ 0 then .error (.localInvalidRequest "payment amount must be positive")
  else .ok (toString (amountCents.toNat / 100) ++ "." ++ twoDigits (amountCents.toNat % 100))

/-- The amount that `select_transaction_diagnostics` looks for. -/
def expectedAmount (cents : ℕ) : String := toString (cents / 100) ++ "." ++ twoDigits (cents % 100)

/-! ## The parts of an amount -/

/-- A text that is an amount: its sign, its whole, and its fraction. -/
def AmountParts (value : String) (negative : Bool) (whole fraction : List Char) : Prop :=
  (splitSign (trim value).toList).1 = negative ∧
    splitAmount (stripCurrency (splitSign (trim value).toList).2) = some (whole, fraction) ∧
    readableAmount whole fraction = true

/-- The parts of an amount have no point. -/
theorem readableAmount_spec {whole fraction : List Char}
    (h : readableAmount whole fraction = true) : whole ≠ [] ∧ (∀ c ∈ whole, c.isDigit = true) ∧
      fraction.length ≤ 2 ∧ ∀ c ∈ fraction, c.isDigit = true := by
  simp only [readableAmount, allDigits, Bool.and_eq_true, List.all_eq_true, decide_eq_true_eq,
    Bool.not_eq_true', List.isEmpty_eq_false_iff] at h
  exact ⟨h.1.1.1, h.1.1.2, h.1.2, h.2⟩

/-- The normal form of an amount. -/
theorem normalizeReportAmount_of_parts {value : String} {negative : Bool}
    {whole fraction : List Char} (h : AmountParts value negative whole fraction) :
    normalizeReportAmount value = amountText
      (negative && (withoutLeadingZeros whole != ['0'] || twoDecimals fraction != ['0', '0']))
      (withoutLeadingZeros whole) (twoDecimals fraction) := by
  obtain ⟨rfl, hsplit, hreadable⟩ := h
  unfold normalizeReportAmount
  dsimp only
  rw [hsplit]
  simp [hreadable]

/-- A text that is no amount is trimmed. -/
theorem normalizeReportAmount_of_no_parts {value : String}
    (h : ∀ negative whole fraction, ¬ AmountParts value negative whole fraction) :
    normalizeReportAmount value = trim value := by
  unfold normalizeReportAmount
  dsimp only
  cases hsplit : splitAmount (stripCurrency (splitSign (trim value).toList).2) with
  | none => rfl
  | some parts =>
    obtain ⟨whole, fraction⟩ := parts
    have hunreadable : readableAmount whole fraction = false :=
      Bool.eq_false_iff.mpr fun hreadable => h _ whole fraction ⟨rfl, hsplit, hreadable⟩
    simp [hunreadable]

/-- The parts of a text are those of its trimmed text. -/
theorem amountParts_trim {value : String} {negative : Bool} {whole fraction : List Char} :
    AmountParts (trim value) negative whole fraction ↔
      AmountParts value negative whole fraction := by
  unfold AmountParts
  rw [trim_trim]

/-- A text that is split is the whole, or the whole, the point, and the fraction. -/
theorem eq_of_splitAmount {cs whole fraction : List Char}
    (h : splitAmount cs = some (whole, fraction)) : (cs = whole ∧ fraction = []) ∨
      cs = whole ++ '.' :: fraction := by
  have hjoin : ['.'].intercalate (cs.splitOn '.') = cs := List.intercalate_splitOn '.'
  unfold splitAmount at h
  split at h
  · rename_i part hparts
    cases h
    rw [hparts, List.intercalate_singleton] at hjoin
    exact .inl ⟨hjoin.symm, rfl⟩
  · rename_i first second hparts
    cases h
    rw [hparts, List.intercalate_cons_of_ne_nil (by simp), List.intercalate_singleton,
      List.append_assoc, List.singleton_append] at hjoin
    exact .inr hjoin.symm
  · cases h

/-- Splitting at the point between digits. -/
theorem splitAmount_of_digits {whole fraction : List Char} (hwhole : ∀ c ∈ whole, c.isDigit = true)
    (hfraction : ∀ c ∈ fraction, c.isDigit = true) :
    splitAmount (whole ++ '.' :: fraction) = some (whole, fraction) := by
  have hpoint {cs : List Char} (h : ∀ c ∈ cs, c.isDigit = true) : '.' ∉ cs :=
    fun hmem => absurd (h '.' hmem) (by decide)
  have hsplit : (whole ++ '.' :: fraction).splitOn '.' = [whole, fraction] := by
    rw [List.splitOn_append_cons_self_of_not_mem (hpoint hwhole),
      List.splitOn_eq_singleton (hpoint hfraction)]
  unfold splitAmount
  rw [hsplit]

/-- The value of an amount. -/
def amountValue (negative : Bool) (whole fraction : List Char) : Option ℤ := do
  let wholeCents ← (parseI64Digits whole).bind fun n => checkedI64 (n * 100)
  let fractionCents ← fractionCents fraction
  let cents ← checkedI64 (wholeCents + fractionCents)
  some (if negative then -(cents : ℤ) else cents)

/-- The first character of a readable amount is a digit. -/
theorem head_isDigit_of_splitAmount {cs whole fraction : List Char}
    (hsplit : splitAmount cs = some (whole, fraction))
    (hreadable : readableAmount whole fraction = true) :
    ∃ c rest, cs = c :: rest ∧ c.isDigit = true := by
  obtain ⟨hne, hdigits, -, -⟩ := readableAmount_spec hreadable
  obtain ⟨c, rest, rfl⟩ := List.exists_cons_of_ne_nil hne
  have hc := hdigits c List.mem_cons_self
  rcases eq_of_splitAmount hsplit with ⟨rfl, -⟩ | rfl
  · exact ⟨c, rest, rfl, hc⟩
  · exact ⟨c, rest ++ '.' :: fraction, rfl, hc⟩

/-- The value of a text is that of its parts. Behind at most one currency mark stands a digit, so
that both readers take the same marks away. -/
theorem actionAmountCents_of_parts {value : String} {negative : Bool} {whole fraction : List Char}
    (h : AmountParts value negative whole fraction) :
    actionAmountCents value = amountValue negative whole fraction := by
  obtain ⟨rfl, hsplit, hreadable⟩ := h
  have hmarks : (splitSign (trim value).toList).2.dropWhile (· == '$') =
      stripCurrency (splitSign (trim value).toList).2 := by
    obtain ⟨c, rest, heq, hdigit⟩ := head_isDigit_of_splitAmount hsplit hreadable
    have hmark : c ≠ '$' := fun hc => by
      rw [hc] at hdigit
      exact absurd hdigit (by decide)
    have hstop : (c :: rest).dropWhile (· == '$') = c :: rest :=
      List.dropWhile_cons_of_neg (by simpa using hmark)
    rw [heq]
    unfold stripCurrency at heq
    split at heq
    · rename_i amount hunsigned
      rw [hunsigned, List.dropWhile_cons_of_pos (by simp), heq, hstop]
    · rw [heq, hstop]
  unfold actionAmountCents
  dsimp only
  rw [hmarks, hsplit]
  simp [hreadable, amountValue]

/-! ## The normal form -/

/-- Zeros in front do not change a number. -/
theorem ofDigitChars_dropWhile_zero (cs : List Char) :
    Nat.ofDigitChars 10 (cs.dropWhile (· == '0')) 0 = Nat.ofDigitChars 10 cs 0 := by
  induction cs with
  | nil => rfl
  | cons c cs ih =>
    by_cases hc : c = '0'
    · rw [hc, List.dropWhile_cons_of_pos (by simp), ih, Nat.ofDigitChars_cons]
      rfl
    · rw [List.dropWhile_cons_of_neg (by simpa using hc)]

/-- The whole without the zeros in front is a number of the same value. -/
theorem withoutLeadingZeros_spec {whole : List Char} (hdigits : ∀ c ∈ whole, c.isDigit = true) :
    withoutLeadingZeros whole ≠ [] ∧ (∀ c ∈ withoutLeadingZeros whole, c.isDigit = true) ∧
      Nat.ofDigitChars 10 (withoutLeadingZeros whole) 0 = Nat.ofDigitChars 10 whole 0 := by
  have hvalue := ofDigitChars_dropWhile_zero whole
  unfold withoutLeadingZeros
  split
  · rename_i hnil
    rw [hnil] at hvalue
    exact ⟨by simp, List.all_iff_forall_prop.mp (by decide), hvalue⟩
  · rename_i hne
    refine ⟨hne, fun c hc => hdigits c ?_, hvalue⟩
    exact (List.dropWhile_sublist _).subset hc

/-- The number that digits write, when it fits. -/
theorem parseI64Digits_eq {cs : List Char} (hne : cs ≠ []) (hdigits : ∀ c ∈ cs, c.isDigit = true) :
    parseI64Digits cs = checkedI64 (Nat.ofDigitChars 10 cs 0) := by
  have hparse : parseDigits cs = some (Nat.ofDigitChars 10 cs 0) := by
    unfold parseDigits
    rw [if_pos ⟨hne, List.all_eq_true.mpr hdigits⟩]
  unfold parseI64Digits checkedI64
  rw [hparse]
  split_ifs with hfits
  · rw [Option.filter_some_pos (by simpa using hfits)]
  · rw [Option.filter_some_neg (by simpa using hfits)]

/-- The value of a digit. -/
theorem digit_le_nine {c : Char} (h : c.isDigit = true) : c.toNat - '0'.toNat ≤ 9 := by
  simp only [Char.isDigit, Bool.and_eq_true, decide_eq_true_eq, UInt32.le_iff_toNat_le] at h
  have hnat : c.toNat = c.val.toNat := rfl
  have hnine : '9'.val.toNat = 57 := rfl
  have hzero : '0'.toNat = 48 := rfl
  omega

/-- The two decimals of a fraction are digits, of the same value. -/
theorem twoDecimals_spec {fraction : List Char} (hlength : fraction.length ≤ 2)
    (hdigits : ∀ c ∈ fraction, c.isDigit = true) :
    (twoDecimals fraction).length = 2 ∧ (∀ c ∈ twoDecimals fraction, c.isDigit = true) ∧
      fractionCents (twoDecimals fraction) = fractionCents fraction := by
  match fraction, hlength, hdigits with
  | [], _, _ => exact ⟨rfl, List.all_iff_forall_prop.mp (by decide), by decide⟩
  | [tenths], _, hdigits =>
    have htenths := hdigits tenths List.mem_cons_self
    have hnine := digit_le_nine htenths
    have hall : ∀ c ∈ [tenths, '0'], c.isDigit = true := by
      intro c hc
      rcases List.mem_cons.mp hc with rfl | hc
      · exact htenths
      · rw [List.mem_singleton.mp hc]
        decide
    refine ⟨rfl, hall, ?_⟩
    show parseI64Digits [tenths, '0'] = (parseI64Digits [tenths]).bind fun n => checkedI64 (n * 10)
    have hsmall (n : ℕ) (hn : n ≤ 90) : checkedI64 n = some n := by
      unfold checkedI64
      rw [if_pos]
      have : 90 ≤ maxI64 := by decide
      omega
    rw [parseI64Digits_eq (by simp) hall, parseI64Digits_eq (by simp) hdigits]
    simp only [Nat.ofDigitChars_cons, Nat.ofDigitChars_nil, Nat.mul_zero, Nat.zero_add,
      Nat.sub_self, Nat.add_zero]
    rw [hsmall _ (by omega), hsmall (tenths.toNat - '0'.toNat) (by omega), Option.bind_some,
      hsmall _ (by omega), Nat.mul_comm]
  | [tenths, hundredths], _, hdigits => exact ⟨rfl, hdigits, rfl⟩
  | _ :: _ :: _ :: _, hlength, _ => simp at hlength

/-- A normal form has the parts it is made of. -/
theorem amountParts_amountText {negative : Bool} {whole fraction : List Char}
    (hreadable : readableAmount whole fraction = true) :
    AmountParts (amountText negative whole fraction) negative whole fraction := by
  obtain ⟨hne, hwhole, -, hfraction⟩ := readableAmount_spec hreadable
  have hblank : ∀ c ∈ (amountText negative whole fraction).toList, isWhitespace c = false := by
    intro c hc
    unfold amountText at hc
    rw [String.toList_ofList, List.mem_append, List.mem_append, List.mem_cons] at hc
    have hdigit {c : Char} (h : c.isDigit = true) : isWhitespace c = false :=
      (digit_spec (.inl h)).1
    rcases hc with (hc | hc) | rfl | hc
    · split_ifs at hc
      · rw [List.mem_singleton.mp hc]
        decide
      · cases hc
    · exact hdigit (hwhole c hc)
    · decide
    · exact hdigit (hfraction c hc)
  obtain ⟨c, rest, rfl⟩ := List.exists_cons_of_ne_nil hne
  have hc := hwhole c List.mem_cons_self
  have hcblank : isWhitespace c = false := (digit_spec (.inl hc)).1
  have hsign : c ≠ '-' ∧ c ≠ '$' := by
    constructor
    · rintro rfl
      exact absurd hc (by decide)
    · rintro rfl
      exact absurd hc (by decide)
  have hsplit : splitSign (amountText negative (c :: rest) fraction).toList =
      (negative, c :: rest ++ '.' :: fraction) := by
    unfold amountText
    rw [String.toList_ofList]
    cases negative with
    | true =>
      show (true, ((c :: rest) ++ '.' :: fraction).dropWhile isWhitespace) = _
      rw [List.cons_append, List.dropWhile_cons_of_neg (by simp [hcblank])]
    | false =>
      show splitSign (c :: (rest ++ '.' :: fraction)) = _
      unfold splitSign
      split
      · rename_i heq
        exact absurd (List.cons.inj heq).1 hsign.1
      · rfl
  have hcurrency : stripCurrency (c :: rest ++ '.' :: fraction) = c :: rest ++ '.' :: fraction := by
    unfold stripCurrency
    split
    · rename_i heq
      exact absurd (List.cons.inj heq).1 hsign.2
    · rfl
  unfold AmountParts
  rw [trim_eq hblank, hsplit]
  dsimp only
  rw [hcurrency]
  exact ⟨rfl, splitAmount_of_digits hwhole hfraction, hreadable⟩

/-- A text that begins with another digit keeps it. -/
theorem withoutLeadingZeros_of_head {c : Char} {rest : List Char} (hc : c ≠ '0') :
    withoutLeadingZeros (c :: rest) = c :: rest := by
  have hstop : (c :: rest).dropWhile (· == '0') = c :: rest :=
    List.dropWhile_cons_of_neg (by simpa using hc)
  unfold withoutLeadingZeros
  rw [hstop]

/-- Digits in normal form are in normal form. -/
theorem withoutLeadingZeros_idem (whole : List Char) :
    withoutLeadingZeros (withoutLeadingZeros whole) = withoutLeadingZeros whole := by
  cases hdrop : whole.dropWhile (· == '0') with
  | nil =>
    have hzero : withoutLeadingZeros whole = ['0'] := by
      unfold withoutLeadingZeros
      rw [hdrop]
    rw [hzero]
    rfl
  | cons c rest =>
    have hkept : withoutLeadingZeros whole = c :: rest := by
      unfold withoutLeadingZeros
      rw [hdrop]
    have hc : c ≠ '0' := by
      have hhead := List.head?_dropWhile_not (· == '0') whole
      rw [hdrop] at hhead
      simpa using hhead
    rw [hkept, withoutLeadingZeros_of_head hc]

/-- The parts of the normal form of an amount. -/
theorem normal_parts {value : String} {negative : Bool} {whole fraction : List Char}
    (h : AmountParts value negative whole fraction) :
    AmountParts (normalizeReportAmount value)
      (negative && (withoutLeadingZeros whole != ['0'] || twoDecimals fraction != ['0', '0']))
      (withoutLeadingZeros whole) (twoDecimals fraction) := by
  obtain ⟨hne, hwhole, hlength, hfraction⟩ := readableAmount_spec h.2.2
  obtain ⟨hne', hwhole', -⟩ := withoutLeadingZeros_spec hwhole
  obtain ⟨hlength', hfraction', -⟩ := twoDecimals_spec hlength hfraction
  rw [normalizeReportAmount_of_parts h]
  refine amountParts_amountText ?_
  simp only [readableAmount, allDigits, Bool.and_eq_true, List.all_eq_true, decide_eq_true_eq,
    Bool.not_eq_true', List.isEmpty_eq_false_iff]
  exact ⟨⟨⟨hne', hwhole'⟩, hlength'.le⟩, hfraction'⟩

/-- The normal form of an amount has its value. -/
theorem amountValue_normal {negative : Bool} {whole fraction : List Char}
    (hreadable : readableAmount whole fraction = true) :
    amountValue
      (negative && (withoutLeadingZeros whole != ['0'] || twoDecimals fraction != ['0', '0']))
        (withoutLeadingZeros whole) (twoDecimals fraction) =
          amountValue negative whole fraction := by
  obtain ⟨hne, hwhole, hlength, hfraction⟩ := readableAmount_spec hreadable
  obtain ⟨hne', hwhole', hvalue⟩ := withoutLeadingZeros_spec hwhole
  obtain ⟨-, -, hcents⟩ := twoDecimals_spec hlength hfraction
  have hsame (sign : Bool) :
      amountValue sign (withoutLeadingZeros whole) (twoDecimals fraction) =
        amountValue sign whole fraction := by
    unfold amountValue
    rw [parseI64Digits_eq hne' hwhole', parseI64Digits_eq hne hwhole, hvalue, hcents]
  by_cases hzero : withoutLeadingZeros whole = ['0'] ∧ twoDecimals fraction = ['0', '0']
  · -- Only here is the sign dropped, and the value is zero.
    rw [← hsame negative, hzero.1, hzero.2]
    cases negative <;> decide
  · have hsign : (withoutLeadingZeros whole != ['0'] || twoDecimals fraction != ['0', '0']) =
        true := by
      rw [Bool.or_eq_true, bne_iff_ne, bne_iff_ne]
      exact not_and_or.mp hzero
    rw [hsign, Bool.and_true, hsame]

/-- The value of a text is that of its normal form. -/
theorem actionAmountCents_normalize (value : String) :
    actionAmountCents (normalizeReportAmount value) = actionAmountCents value := by
  by_cases h : ∃ negative whole fraction, AmountParts value negative whole fraction
  · obtain ⟨negative, whole, fraction, hparts⟩ := h
    rw [actionAmountCents_of_parts (normal_parts hparts), actionAmountCents_of_parts hparts,
      amountValue_normal hparts.2.2]
  · simp only [not_exists] at h
    rw [normalizeReportAmount_of_no_parts h]
    unfold actionAmountCents
    rw [trim_trim]

/-- A normal form is its own normal form. -/
theorem normalizeReportAmount_idem (value : String) :
    normalizeReportAmount (normalizeReportAmount value) = normalizeReportAmount value := by
  by_cases h : ∃ negative whole fraction, AmountParts value negative whole fraction
  · obtain ⟨negative, whole, fraction, hparts⟩ := h
    obtain ⟨-, -, hlength, hfraction⟩ := readableAmount_spec hparts.2.2
    have htwo : twoDecimals (twoDecimals fraction) = twoDecimals fraction := by
      obtain ⟨hlength', -, -⟩ := twoDecimals_spec hlength hfraction
      obtain ⟨tenths, hundredths, htwo⟩ := List.length_eq_two.mp hlength'
      rw [htwo]
      rfl
    rw [normalizeReportAmount_of_parts (normal_parts hparts), normalizeReportAmount_of_parts hparts,
      withoutLeadingZeros_idem, htwo, Bool.and_assoc, Bool.and_self]
  · simp only [not_exists] at h
    have htrim := normalizeReportAmount_of_no_parts h
    have hagain : normalizeReportAmount (trim value) = trim (trim value) :=
      normalizeReportAmount_of_no_parts fun negative whole fraction hparts =>
        h negative whole fraction (amountParts_trim.mp hparts)
    rw [htrim, hagain, trim_trim]

/-! ## The amount of a request -/

/-- The decimal of a number other than zero does not begin with a zero: below ten it is one digit,
and from ten on it begins as the decimal of its tenth part does. -/
theorem toDigits_eq_cons {n : ℕ} (hpos : 0 < n) :
    ∃ c rest, Nat.toDigits 10 n = c :: rest ∧ c ≠ '0' := by
  induction n using Nat.strong_induction_on with
  | _ n ih =>
    by_cases hten : n < 10
    · have hdigit : ∀ m < 10, 0 < m → m.digitChar ≠ '0' := by decide
      exact ⟨n.digitChar, [], Nat.toDigits_of_lt_base hten, hdigit n hten hpos⟩
    · obtain ⟨c, rest, heq, hc⟩ := ih (n / 10) (by omega) (by omega)
      refine ⟨c, rest ++ [(n % 10).digitChar], ?_, hc⟩
      rw [Nat.toDigits_of_base_le (by omega) (by omega), heq, List.cons_append]

/-- The decimal of a number is in normal form. -/
theorem withoutLeadingZeros_toDigits (n : ℕ) :
    withoutLeadingZeros (Nat.toDigits 10 n) = Nat.toDigits 10 n := by
  rcases Nat.eq_zero_or_pos n with rfl | hpos
  · decide
  · obtain ⟨c, rest, heq, hc⟩ := toDigits_eq_cons hpos
    rw [heq, withoutLeadingZeros_of_head hc]

/-- The two digits of a number of cents are two decimals of its value. -/
theorem twoDigits_spec {cents : ℕ} (h : cents < 100) :
    (∀ c ∈ (twoDigits cents).toList, c.isDigit = true) ∧ (twoDigits cents).toList.length = 2 ∧
      fractionCents (twoDigits cents).toList = some cents := by
  have hall : ∀ cents < 100,
      ((twoDigits cents).toList.all Char.isDigit && (twoDigits cents).toList.length == 2 &&
        fractionCents (twoDigits cents).toList == some cents) = true := by
    decide +kernel
  have hcents := hall cents h
  simp only [Bool.and_eq_true, List.all_eq_true, beq_iff_eq] at hcents
  exact ⟨hcents.1.1, hcents.1.2, hcents.2⟩

/-- An amount of cents is written as a normal form. -/
theorem expectedAmount_eq (cents : ℕ) :
    expectedAmount cents =
      amountText false (Nat.toDigits 10 (cents / 100)) (twoDigits (cents % 100)).toList := by
  apply String.toList_injective
  unfold expectedAmount amountText
  rw [String.toList_ofList, String.toList_append, String.toList_append]
  show (Nat.repr (cents / 100)).toList ++ _ ++ _ = _
  rw [Nat.toList_repr]
  simp

/-- The parts of an amount of cents. -/
theorem expectedAmount_parts (cents : ℕ) :
    AmountParts (expectedAmount cents) false (Nat.toDigits 10 (cents / 100))
      (twoDigits (cents % 100)).toList := by
  obtain ⟨hdigits, hlength, -⟩ := twoDigits_spec (Nat.mod_lt cents (by decide : 0 < 100))
  rw [expectedAmount_eq]
  refine amountParts_amountText ?_
  simp only [readableAmount, allDigits, Bool.and_eq_true, List.all_eq_true, decide_eq_true_eq,
    Bool.not_eq_true', List.isEmpty_eq_false_iff]
  exact ⟨⟨⟨Nat.toDigits_ne_nil, fun c hc => Nat.isDigit_of_mem_toDigits (by decide) (by decide) hc⟩,
    hlength.le⟩, hdigits⟩

/-- An amount of cents is its own normal form. -/
theorem normalizeReportAmount_expectedAmount (cents : ℕ) :
    normalizeReportAmount (expectedAmount cents) = expectedAmount cents := by
  have htwo : twoDecimals (twoDigits (cents % 100)).toList = (twoDigits (cents % 100)).toList := by
    obtain ⟨-, hlength, -⟩ := twoDigits_spec (Nat.mod_lt cents (by decide : 0 < 100))
    obtain ⟨tenths, hundredths, heq⟩ := List.length_eq_two.mp hlength
    rw [heq]
    rfl
  rw [normalizeReportAmount_of_parts (expectedAmount_parts cents),
    withoutLeadingZeros_toDigits, htwo, Bool.false_and, ← expectedAmount_eq]

/-- An amount of cents that fits is read back. -/
theorem actionAmountCents_expectedAmount {cents : ℕ} (hfits : cents ≤ maxI64) :
    actionAmountCents (expectedAmount cents) = some (cents : ℤ) := by
  have hchecked {n : ℕ} (hn : n ≤ cents) : checkedI64 n = some n := if_pos (hn.trans hfits)
  have hwhole : parseI64Digits (Nat.toDigits 10 (cents / 100)) = some (cents / 100) := by
    rw [parseI64Digits_eq Nat.toDigits_ne_nil
      (fun c hc => Nat.isDigit_of_mem_toDigits (by decide) (by decide) hc),
      Nat.ofDigitChars_ten_toDigits, hchecked (Nat.div_le_self _ _)]
  obtain ⟨-, -, hfraction⟩ := twoDigits_spec (Nat.mod_lt cents (by decide : 0 < 100))
  have hsum : cents / 100 * 100 + cents % 100 = cents := Nat.div_add_mod' cents 100
  rw [actionAmountCents_of_parts (expectedAmount_parts cents)]
  unfold amountValue
  rw [hwhole, hfraction, Option.bind_some, hchecked (by omega)]
  show (checkedI64 (cents / 100 * 100 + cents % 100)).bind _ = _
  rw [hsum, hchecked le_rfl]
  rfl

/-- The amount of a request is a normal form, is read back to the same cents, and is the amount that
the diagnostics look for; a normal form is its own normal form; and the value of a text depends on
its normal form only. -/
theorem amounts_round_trip :
    (∀ cents : ℤ, 0 < cents → cents ≤ 2147483647 → ∃ amount, amountString cents = .ok amount ∧
      normalizeReportAmount amount = amount ∧ actionAmountCents amount = some cents ∧
      expectedAmount cents.toNat = amount) ∧
    (∀ value, normalizeReportAmount (normalizeReportAmount value) = normalizeReportAmount value) ∧
    (∀ value value', normalizeReportAmount value = normalizeReportAmount value' →
      actionAmountCents value = actionAmountCents value') := by
  refine ⟨fun cents hpos hmax => ?_, normalizeReportAmount_idem, fun value value' heq => ?_⟩
  · have hcents : (cents.toNat : ℤ) = cents := Int.toNat_of_nonneg hpos.le
    have hfits : cents.toNat ≤ maxI64 := by
      unfold maxI64
      omega
    have hread := actionAmountCents_expectedAmount hfits
    rw [hcents] at hread
    refine ⟨expectedAmount cents.toNat, ?_, normalizeReportAmount_expectedAmount _, hread, rfl⟩
    unfold amountString
    rw [if_neg (by omega)]
    rfl
  · rw [← actionAmountCents_normalize value, ← actionAmountCents_normalize value', heq]

/-- A text of a report with a sign, a currency mark, and a short fraction has the normal form, and
so the value, of the amount of the request it answers. -/
theorem amounts_round_trip_currency :
    amountString 1050 = .ok "10.50" ∧ actionAmountCents " $0010.5 " = some 1050 := by
  obtain ⟨amount, hsent, -, hread, -⟩ := amounts_round_trip.1 1050 (by decide) (by decide)
  have hamount : amountString 1050 = .ok "10.50" := by decide +kernel
  rw [hamount] at hsent
  cases hsent
  refine ⟨hamount, ?_⟩
  rw [amounts_round_trip.2.2 " $0010.5 " "10.50" (by decide +kernel), hread]

end SyrupRail.Nmi
