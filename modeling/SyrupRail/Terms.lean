import SyrupRail.Domain
import SyrupRail.Lib.Calendar

/-!
# Billing periods and subscription terms

`next_billing_period` of `policy.rs`, which advances one fixed-day or calendar-month period, and the
offer that an enrollment accepts. Chrono's dates reach from the year -262143 to the year 262142, and
an advance beyond them is an overflow.
-/

namespace SyrupRail

/-- The microseconds of a day. -/
def microsPerDay : ℤ := 86400 * 1000000

/-- Whether chrono can represent a date. -/
def chronoYearInRange (d : Calendar.Date) : Bool := -262143 ≤ d.year && d.year ≤ 262142

/-- `DateTime::checked_add_signed` of a positive duration: the timestamp, when its date is one that
chrono can represent. -/
def checkedAdd (t : Timestamp) (duration : ℤ) : Option Timestamp :=
  if chronoYearInRange (Calendar.civilFromDays ((t + duration) / microsPerDay)) then
    some (t + duration)
  else none

/-- `DateTime::checked_add_months`: the same time of day, that many calendar months later. -/
def checkedAddMonths (t : Timestamp) (months : ℕ) : Option Timestamp :=
  let date := Calendar.addMonths (Calendar.civilFromDays (t / microsPerDay)) months
  if chronoYearInRange date then
    some (Calendar.daysFromCivil date * microsPerDay + t % microsPerDay)
  else none

/-- Why a billing period could not be advanced. -/
inductive BillingPeriodPolicyError
  | overflow
  | endNotAfterStart
  deriving DecidableEq, Repr

/-- `BillingPeriod::new`. -/
def BillingPeriod.new (startAt endAt : Timestamp) : Except BillingPeriodPolicyError BillingPeriod :=
  if h : startAt < endAt then .ok ⟨startAt, endAt, h⟩ else .error .endNotAfterStart

/-- `next_billing_period`: the period of a rule that starts at `startAt`. -/
def nextBillingPeriod (startAt : Timestamp) (rule : SubscriptionPeriodRule) :
    Except BillingPeriodPolicyError BillingPeriod :=
  let nextEnd := match rule with
    | .fixedDays days => checkedAdd startAt (days * microsPerDay)
    | .calendarMonths months => checkedAddMonths startAt months
  match nextEnd with
  | none => .error .overflow
  | some endAt => BillingPeriod.new startAt endAt

/-- The period that is returned starts where it was asked to. -/
theorem nextBillingPeriod_startAt {startAt : Timestamp} {rule : SubscriptionPeriodRule}
    {period : BillingPeriod} (h : nextBillingPeriod startAt rule = .ok period) :
    period.startAt = startAt := by
  unfold nextBillingPeriod at h
  dsimp only at h
  split at h
  · cases h
  · unfold BillingPeriod.new at h
    split_ifs at h
    cases h
    rfl

/-- How a subscription starts. -/
inductive SubscriptionStart
  | recurringImmediately
  | paidTrial (charge : Money) (period : SubscriptionPeriodRule)
  deriving DecidableEq, Repr

/-- The offer that an enrollment accepts. -/
structure SubscriptionOffer where
  planKey : String
  recurringCharge : Money
  recurringPeriod : SubscriptionPeriodRule
  start : SubscriptionStart
  renewalFailure : RenewalFailurePolicy
  deriving DecidableEq, Repr

/-- How long a discount lasts. -/
inductive SubscriptionDiscountDuration
  | indefinite
  | limitedMonths (months : ℕ)
  deriving DecidableEq, Repr

/-- What a discount takes off. -/
inductive SubscriptionDiscountKind
  | amountOffCents (cents : ℕ)
  | percentOffBasisPoints (bps : ℕ)
  deriving DecidableEq, Repr

/-- `CurrencyCode::new`. -/
def isCurrencyCode (value : String) : Bool :=
  value.utf8ByteSize == 3 && value.toList.all Char.isUpper

/-- `Money::new`, on the range of an `i32`. -/
def Money.isMoney (amount : Money) : Bool :=
  isCurrencyCode amount.currency && amount.cents ≤ 2147483647

/-- `ChargeAmount::new`. -/
def Money.isChargeAmount (amount : Money) : Bool := amount.isMoney && 0 < amount.cents

/-- The normalized text of `SubscriptionDiscountCode::new`. -/
def isDiscountCode (code : String) : Bool :=
  5 ≤ code.utf8ByteSize && code.utf8ByteSize ≤ 64 &&
    code.toList.all fun c => c.isUpper || c.isDigit || c == '_' || c == '-'

/-- `PositiveDiscountCents` and `PercentOffBasisPoints`. -/
def SubscriptionDiscountKind.isKind : SubscriptionDiscountKind → Bool
  | .amountOffCents cents => 0 < cents && cents ≤ 2147483647
  | .percentOffBasisPoints bps => 1 ≤ bps && bps ≤ 9999

/-- `LimitedDiscountMonths`. -/
def SubscriptionDiscountDuration.isDuration : SubscriptionDiscountDuration → Bool
  | .indefinite => true
  | .limitedMonths months => 1 ≤ months && months ≤ 36

/-- `SubscriptionDiscountSnapshot`: a discount with its code and label, and the charges before and
after it. -/
structure SubscriptionDiscountSnapshot where
  code : String
  label : Option String
  kind : SubscriptionDiscountKind
  duration : SubscriptionDiscountDuration
  baseCharge : Money
  discountedCharge : Money
  code_valid : isDiscountCode code = true
  kind_valid : kind.isKind = true
  duration_valid : duration.isDuration = true
  base_valid : baseCharge.isChargeAmount = true
  discounted_valid : discountedCharge.isChargeAmount = true
  currency_eq : baseCharge.currency = discountedCharge.currency
  discounted_le : discountedCharge.cents ≤ baseCharge.cents
  deriving DecidableEq, Repr

/-- The discount that an enrollment reserved: its claim and code, and what it was when it was
quoted. -/
structure SubscriptionEnrollmentDiscountSnapshot where
  claimId : Id
  codeId : Id
  snapshot : SubscriptionDiscountSnapshot
  deriving DecidableEq, Repr

/-- `SubscriptionActivationProjection`. -/
structure SubscriptionActivationProjection where
  phase : SubscriptionPhase
  initialCharge : Money
  initialPeriodRule : SubscriptionPeriodRule
  recurringChargeAfterInitial : Money
  discountPeriodsApplied : ℕ
  deriving DecidableEq, Repr

/-- `recurring_charge_after_initial` of `from_expected_terms`. -/
def chargeAfterInitial (recurringCharge : Money) (discountPeriodsApplied : ℕ) :
    Option SubscriptionDiscountSnapshot → Money
  | none => recurringCharge
  | some snapshot =>
    match snapshot.duration with
    | .indefinite => snapshot.discountedCharge
    | .limitedMonths months =>
      if months ≤ discountPeriodsApplied then snapshot.baseCharge else snapshot.discountedCharge

/-- `from_expected_terms`, of an offer and a discount. -/
def fromExpectedTerms (offer : SubscriptionOffer)
    (discountSnapshot : Option SubscriptionDiscountSnapshot) :
    SubscriptionActivationProjection :=
  match offer.start with
  | .recurringImmediately =>
    let initialCharge := match discountSnapshot with
      | some snapshot => snapshot.discountedCharge
      | none => offer.recurringCharge
    let discountPeriodsApplied := match discountSnapshot with
      | some _ => 1
      | none => 0
    { phase := .recurring, initialCharge, initialPeriodRule := offer.recurringPeriod,
      recurringChargeAfterInitial :=
        chargeAfterInitial offer.recurringCharge discountPeriodsApplied discountSnapshot,
      discountPeriodsApplied }
  | .paidTrial charge period =>
    { phase := .paidTrial, initialCharge := charge, initialPeriodRule := period,
      recurringChargeAfterInitial := chargeAfterInitial offer.recurringCharge 0 discountSnapshot,
      discountPeriodsApplied := 0 }

/-- The projected recurring charge is that after the periods that the first charge counts. -/
theorem fromExpectedTerms_charge (offer : SubscriptionOffer)
    (discountSnapshot : Option SubscriptionDiscountSnapshot) :
    (fromExpectedTerms offer discountSnapshot).recurringChargeAfterInitial =
      chargeAfterInitial offer.recurringCharge
        (fromExpectedTerms offer discountSnapshot).discountPeriodsApplied discountSnapshot := by
  unfold fromExpectedTerms
  cases offer.start <;> rfl

end SyrupRail
