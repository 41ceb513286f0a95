import SyrupRail.Attempt.Fingerprint

/-!
# Discounted charges

`discounted_charge` of `discount.rs`, on the machine integers of the code: a product of 64 bits, a
checked narrowing to 32 bits, and a saturating subtraction. On the ranges that the constructors
admit none of them loses anything (`discountedCents_eq`), so that the discounted charge is the base
without a discount that is rounded down.
-/

namespace SyrupRail

/-- `SubscriptionDiscountError`. -/
inductive SubscriptionDiscountError
  | invalidCode
  | invalidAmountOff
  | invalidPercentOff
  | invalidDurationMonths
  | limitedDiscountCadence
  | invalidChargeSnapshot
  | invalidState
  deriving DecidableEq, Repr

/-- `i32::saturating_sub`. -/
def saturatingSubI32 (a b : ℤ) : ℤ := max (-2147483648) (min 2147483647 (a - b))

/-- The product of two `i64`, which wraps around. -/
def mulI64 (a b : ℤ) : ℤ := Int.bmod (a * b) (2 ^ 64)

/-- `i32::try_from`. -/
def i32TryFrom (n : ℤ) : Option ℤ := if -2147483648 ≤ n ∧ n ≤ 2147483647 then some n else none

/-- `CurrencyCode`. -/
abbrev CurrencyCode := {code : String // isCurrencyCode code = true}

/-- `ChargeAmount`. -/
abbrev ChargeAmount := {amount : Money // amount.isChargeAmount = true}

/-- A kind with its `PositiveDiscountCents` or `PercentOffBasisPoints`. -/
abbrev CheckedDiscountKind := {kind : SubscriptionDiscountKind // kind.isKind = true}

/-- `ChargeAmount::new` of an `i32`: only an amount above zero passes. -/
def chargeAmountNew (cents : ℤ) (currency : CurrencyCode) : Option ChargeAmount :=
  let amount : Money := ⟨cents.toNat, currency.val⟩
  if h : amount.isChargeAmount = true then some ⟨amount, h⟩ else none

/-- `discounted_cents` of `discounted_charge`; the division truncates. -/
def discountedCents (base : ℤ) : SubscriptionDiscountKind → Option ℤ
  | .amountOffCents amount => some (saturatingSubI32 base amount)
  | .percentOffBasisPoints percent =>
    (i32TryFrom ((mulI64 base percent).tdiv 10000)).map (saturatingSubI32 base)

/-- `discounted_charge`. -/
def discountedCharge (baseCharge : ChargeAmount) (currency : CurrencyCode)
    (kind : CheckedDiscountKind) : Except SubscriptionDiscountError ChargeAmount :=
  if currency.val ≠ baseCharge.val.currency then .error .invalidChargeSnapshot
  else
    match (discountedCents baseCharge.val.cents kind.val).bind fun cents =>
      chargeAmountNew cents currency with
    | none => .error .invalidChargeSnapshot
    | some charge => .ok charge

/-! ## The exact discount -/

/-- What a discount takes off a base, over the natural numbers. -/
def SubscriptionDiscountKind.discountOf (base : ℕ) : SubscriptionDiscountKind → ℕ
  | .amountOffCents amount => amount
  | .percentOffBasisPoints percent => base * percent / 10000

/-- A charge has between one cent and the largest `i32`. -/
theorem Money.cents_range {amount : Money} (h : amount.isChargeAmount = true) :
    0 < amount.cents ∧ amount.cents ≤ 2147483647 := by
  unfold Money.isChargeAmount Money.isMoney at h
  simp only [Bool.and_eq_true, decide_eq_true_eq] at h
  exact ⟨h.2, h.1.2⟩

/-- The product of a base and of basis points fits in 64 bits. -/
theorem mulI64_eq {base percent : ℕ} (hbase : base ≤ 2147483647) (hpercent : percent ≤ 9999) :
    mulI64 base percent = (base * percent : ℕ) := by
  have hle : base * percent ≤ 2147483647 * 9999 := Nat.mul_le_mul hbase hpercent
  have hcast : ((base : ℤ) * percent) = ((base * percent : ℕ) : ℤ) := by push_cast; rfl
  unfold mulI64
  rw [hcast]
  generalize base * percent = product at hle
  exact Int.bmod_eq_of_le (by omega) (by omega)

/-- A percentage is less than the base. -/
theorem percent_discount_lt {base percent : ℕ} (hbase : 0 < base) (hpercent : percent ≤ 9999) :
    base * percent / 10000 < base := by
  have hle : base * percent ≤ base * 9999 := Nat.mul_le_mul_left base hpercent
  omega

/-- No step of the code loses anything: the product does not wrap, the quotient is an `i32`, and the
subtraction does not saturate. -/
def ExactSteps (base : ℕ) : SubscriptionDiscountKind → Prop
  | .amountOffCents amount => saturatingSubI32 base amount = (base : ℤ) - amount
  | .percentOffBasisPoints percent =>
    mulI64 base percent = (base * percent : ℕ) ∧
      i32TryFrom ((mulI64 base percent).tdiv 10000) = some ((base * percent / 10000 : ℕ) : ℤ) ∧
      saturatingSubI32 base (base * percent / 10000 : ℕ) = (base : ℤ) - (base * percent / 10000 : ℕ)

/-- On the ranges of the constructors every step is exact. -/
theorem exactSteps {base : ℕ} {kind : SubscriptionDiscountKind} (hpos : 0 < base)
    (hbase : base ≤ 2147483647) (hkind : kind.isKind = true) : ExactSteps base kind := by
  have hsub {n : ℕ} (hn : n ≤ 2147483647) : saturatingSubI32 base n = (base : ℤ) - n := by
    unfold saturatingSubI32
    omega
  cases kind with
  | amountOffCents amount =>
    have hamount : amount ≤ 2147483647 := by
      simp only [SubscriptionDiscountKind.isKind, Bool.and_eq_true, decide_eq_true_eq] at hkind
      exact hkind.2
    exact hsub hamount
  | percentOffBasisPoints percent =>
    have hpercent : percent ≤ 9999 := by
      simp only [SubscriptionDiscountKind.isKind, Bool.and_eq_true, decide_eq_true_eq] at hkind
      exact hkind.2
    have hlt := percent_discount_lt hpos hpercent
    have hquotient : (mulI64 base percent).tdiv 10000 = ((base * percent / 10000 : ℕ) : ℤ) := by
      rw [mulI64_eq hbase hpercent]
      exact Int.ofNat_tdiv (base * percent) 10000
    refine ⟨mulI64_eq hbase hpercent, ?_, hsub (by omega)⟩
    rw [hquotient]
    unfold i32TryFrom
    exact if_pos (by omega)

/-- The code's arithmetic is exact. -/
theorem discountedCents_eq {base : ℕ} {kind : SubscriptionDiscountKind} (h : ExactSteps base kind) :
    discountedCents base kind = some ((base : ℤ) - kind.discountOf base) := by
  cases kind with
  | amountOffCents amount => exact congrArg some h
  | percentOffBasisPoints percent =>
    obtain ⟨-, hnarrow, hsub⟩ := h
    show (i32TryFrom ((mulI64 base percent).tdiv 10000)).map (saturatingSubI32 base) = _
    rw [hnarrow, Option.map_some, hsub]
    rfl

/-- A discounted charge exists exactly for the currency of the base and a discount below it, and is
the base without the discount. -/
theorem discountedCharge_eq_ok {base charge : ChargeAmount} {currency : CurrencyCode}
    {kind : CheckedDiscountKind} :
    discountedCharge base currency kind = .ok charge ↔
      currency.val = base.val.currency ∧ kind.val.discountOf base.val.cents < base.val.cents ∧
        charge.val = ⟨base.val.cents - kind.val.discountOf base.val.cents, base.val.currency⟩ := by
  obtain ⟨hpos, hmax⟩ := Money.cents_range base.property
  unfold discountedCharge
  by_cases hcurrency : currency.val = base.val.currency
  · rw [if_neg (not_not.mpr hcurrency), discountedCents_eq (exactSteps hpos hmax kind.property),
      Option.bind_some]
    unfold chargeAmountNew
    dsimp only
    generalize kind.val.discountOf base.val.cents = discount
    have hcents : ((base.val.cents : ℤ) - discount).toNat = base.val.cents - discount := by omega
    have hvalid : Money.isChargeAmount ⟨base.val.cents - discount, currency.val⟩ = true ↔
        discount < base.val.cents := by
      have hcode := currency.property
      simp only [Money.isChargeAmount, Money.isMoney, hcode, Bool.true_and, Bool.and_eq_true,
        decide_eq_true_eq]
      omega
    rw [hcents, ← hcurrency]
    by_cases hlt : discount < base.val.cents
    · rw [dif_pos (hvalid.mpr hlt)]
      simp only [Except.ok.injEq, hlt, true_and]
      exact Subtype.ext_iff.trans eq_comm
    · rw [dif_neg (mt hvalid.mp hlt)]
      simp [hlt]
  · rw [if_pos hcurrency]
    simp [hcurrency]

/-- The only failures are another currency and an amount that is not below the base. -/
theorem discountedCharge_eq_error {base : ChargeAmount} {currency : CurrencyCode}
    {kind : CheckedDiscountKind} :
    discountedCharge base currency kind = .error .invalidChargeSnapshot ↔
      currency.val ≠ base.val.currency ∨
        ∃ amount, kind.val = .amountOffCents amount ∧ base.val.cents ≤ amount := by
  have hbelow : kind.val.discountOf base.val.cents < base.val.cents ↔
      ¬ ∃ amount, kind.val = .amountOffCents amount ∧ base.val.cents ≤ amount := by
    obtain ⟨hpos, -⟩ := Money.cents_range base.property
    obtain ⟨kind, hkind⟩ := kind
    cases kind with
    | amountOffCents amount => simp [SubscriptionDiscountKind.discountOf]
    | percentOffBasisPoints percent =>
      simp only [SubscriptionDiscountKind.isKind, Bool.and_eq_true, decide_eq_true_eq] at hkind
      have hlt : base.val.cents * percent / 10000 < base.val.cents :=
        percent_discount_lt hpos hkind.2
      simpa [SubscriptionDiscountKind.discountOf] using hlt
  have hok : (∃ charge, discountedCharge base currency kind = .ok charge) ↔
      currency.val = base.val.currency ∧ kind.val.discountOf base.val.cents < base.val.cents := by
    constructor
    · rintro ⟨charge, hcharge⟩
      obtain ⟨hcurrency, hlt, -⟩ := discountedCharge_eq_ok.mp hcharge
      exact ⟨hcurrency, hlt⟩
    · rintro ⟨hcurrency, hlt⟩
      have hbase := base.property
      refine ⟨⟨⟨base.val.cents - kind.val.discountOf base.val.cents, base.val.currency⟩, ?_⟩,
        discountedCharge_eq_ok.mpr ⟨hcurrency, hlt, rfl⟩⟩
      simp only [Money.isChargeAmount, Money.isMoney, Bool.and_eq_true,
        decide_eq_true_eq] at hbase ⊢
      exact ⟨⟨hbase.1.1, by omega⟩, by omega⟩
  have herror : discountedCharge base currency kind = .error .invalidChargeSnapshot ↔
      ¬ ∃ charge, discountedCharge base currency kind = .ok charge := by
    unfold discountedCharge
    split_ifs
    · simp
    · split <;> simp
  rw [herror, hok, hbelow]
  by_cases hcurrency : currency.val = base.val.currency
  · simp [hcurrency]
  · simp [hcurrency]

/-- A percentage leaves the least integer not below the exact price. -/
theorem isLeast_percent {base percent : ℕ} (hpercent : percent ≤ 9999) :
    IsLeast {n : ℕ | base * (10000 - percent) ≤ n * 10000} (base - base * percent / 10000) := by
  have hle : base * percent ≤ base * 10000 := Nat.mul_le_mul_left base (by omega)
  have hprice : base * (10000 - percent) = base * 10000 - base * percent :=
    Nat.mul_sub base 10000 percent
  constructor
  · show base * (10000 - percent) ≤ (base - base * percent / 10000) * 10000
    omega
  · intro n hn
    have hn : base * (10000 - percent) ≤ n * 10000 := hn
    omega

/-- A larger base has no smaller discounted price. -/
theorem discountOf_monotone {base base' : ℕ} {kind : SubscriptionDiscountKind}
    (hkind : kind.isKind = true) (h : base ≤ base') :
    base - kind.discountOf base ≤ base' - kind.discountOf base' := by
  cases kind with
  | amountOffCents amount => exact Nat.sub_le_sub_right h amount
  | percentOffBasisPoints percent =>
    have hpercent : percent ≤ 9999 := by
      simp only [SubscriptionDiscountKind.isKind, Bool.and_eq_true, decide_eq_true_eq] at hkind
      exact hkind.2
    -- The price of the larger base is among the integers that are not below that of the smaller.
    have hlarger : base' * (10000 - percent) ≤ (base' - base' * percent / 10000) * 10000 :=
      (isLeast_percent hpercent).1
    have hsmaller : base * (10000 - percent) ≤ base' * (10000 - percent) := Nat.mul_le_mul_right _ h
    exact (isLeast_percent hpercent).2 (hsmaller.trans hlarger)

/-- A larger percentage takes off no less. -/
theorem percent_discount_mono (base : ℕ) {percent percent' : ℕ} (h : percent ≤ percent') :
    base * percent / 10000 ≤ base * percent' / 10000 :=
  Nat.div_le_div_right (Nat.mul_le_mul_left base h)

end SyrupRail
