import SyrupRail.Discount.Code
import SyrupRail.Store.Approval

/-!
# Accepted enrollment terms

The terms that a customer accepts at an enrollment: `SubscriptionEnrollmentExpectedTerms` of
`enrollment.rs`, with what they project onto a new subscription, and the offer that a durable
attempt stores in their place. The stored offer has the base price of the discount where the catalog
may have another one.

Everything that reads the terms later reads the recurring price of the offer only where there is no
discount, and then the stored offer is the accepted one. `survives` collects what follows: the terms
that are rebuilt from an attempt project, store, and match as the accepted terms do.
-/

namespace SyrupRail

open Transactions

/-! ## Quotes and snapshots -/

/-- A `SubscriptionOffer`. -/
abbrev CheckedOffer := {offer : SubscriptionOffer // offer.isOffer = true}

/-- `is_one_calendar_month`. -/
def SubscriptionPeriodRule.isOneCalendarMonth (rule : SubscriptionPeriodRule) : Bool :=
  rule = .calendarMonths 1

/-- Whether a duration is `LimitedMonths`. -/
def SubscriptionDiscountDuration.isLimited : SubscriptionDiscountDuration → Bool
  | .indefinite => false
  | .limitedMonths _ => true

/-- The recurring charge of an offer. -/
def CheckedOffer.recurringCharge (offer : CheckedOffer) : ChargeAmount :=
  ⟨offer.val.recurringCharge, by
    have hoffer := offer.property
    unfold SubscriptionOffer.isOffer at hoffer
    simp only [Bool.and_eq_true] at hoffer
    exact hoffer.1.1.2⟩

/-- `SubscriptionDiscountCodeQuote`. -/
structure SubscriptionDiscountCodeQuote where
  code : SubscriptionDiscountCodeRecord
  baseCharge : ChargeAmount
  discountedCharge : ChargeAmount

/-- `SubscriptionDiscountCodeQuote::new`. -/
def SubscriptionDiscountCodeQuote.new (code : SubscriptionDiscountCodeRecord)
    (offer : CheckedOffer) : Except SubscriptionDiscountError SubscriptionDiscountCodeQuote :=
  if code.planKey.val ≠ offer.val.planKey then .error .invalidState
  else if code.duration.val.isLimited && !offer.val.recurringPeriod.isOneCalendarMonth then
    .error .limitedDiscountCadence
  else do
    let baseCharge := CheckedOffer.recurringCharge offer
    let discountedCharge ← SyrupRail.discountedCharge baseCharge code.currency code.kind
    .ok ⟨code, baseCharge, discountedCharge⟩

/-- `SubscriptionDiscountSnapshot::new`. -/
def SubscriptionDiscountSnapshot.new (code : SubscriptionDiscountCode) (label : Option String)
    (kind : CheckedDiscountKind) (duration : CheckedDiscountDuration)
    (baseCharge discountedCharge : ChargeAmount) :
    Except SubscriptionDiscountError SubscriptionDiscountSnapshot :=
  if h : baseCharge.val.currency = discountedCharge.val.currency ∧
      discountedCharge.val.cents ≤ baseCharge.val.cents then
    .ok ⟨code, label, kind, duration, baseCharge, discountedCharge, code.property, kind.property,
      duration.property, baseCharge.property, discountedCharge.property, h.1, h.2⟩
  else .error .invalidChargeSnapshot

/-- The snapshot of a quoted code. -/
def SubscriptionDiscountCodeQuote.snapshot (quote : SubscriptionDiscountCodeQuote) :
    Except SubscriptionDiscountError SubscriptionDiscountSnapshot :=
  SubscriptionDiscountSnapshot.new quote.code.code quote.code.label quote.code.kind
    quote.code.duration quote.baseCharge quote.discountedCharge

namespace Enrollment

/-! ## Terms -/

/-- `SubscriptionEnrollmentTermsError`. -/
inductive SubscriptionEnrollmentTermsError
  | currencyMismatch
  | limitedDiscountCadence
  deriving DecidableEq, Repr

/-- What `discounted` checks. -/
def termsError (offer : SubscriptionOffer) (snapshot : SubscriptionDiscountSnapshot) :
    Option SubscriptionEnrollmentTermsError :=
  if offer.recurringCharge.currency ≠ snapshot.baseCharge.currency then some .currencyMismatch
  else if snapshot.duration.isLimited && !offer.recurringPeriod.isOneCalendarMonth then
    some .limitedDiscountCadence
  else none

/-- `SubscriptionEnrollmentExpectedTerms`: an offer, and a discount that may be combined with it. -/
structure SubscriptionEnrollmentExpectedTerms where
  offer : CheckedOffer
  discountSnapshot : Option SubscriptionDiscountSnapshot
  combined : ∀ snapshot, discountSnapshot = some snapshot → termsError offer.val snapshot = none

/-- `full_price`. -/
def fullPrice (offer : CheckedOffer) : SubscriptionEnrollmentExpectedTerms :=
  ⟨offer, none, fun snapshot h => by cases h⟩

/-- `discounted`. -/
def discounted (offer : CheckedOffer) (snapshot : SubscriptionDiscountSnapshot) :
    Except SubscriptionEnrollmentTermsError SubscriptionEnrollmentExpectedTerms :=
  match h : termsError offer.val snapshot with
  | some error => .error error
  | none =>
    .ok ⟨offer, some snapshot, fun other hother => by rw [← Option.some.inj hother]; exact h⟩

/-- `SubscriptionTermsError`, as far as an offer is built. -/
inductive SubscriptionTermsError
  | currencyMismatch
  deriving DecidableEq, Repr

/-- `SubscriptionOffer::new`. -/
def subscriptionOfferNew (planKey : String) (recurringCharge : Money)
    (recurringPeriod : SubscriptionPeriodRule) (start : SubscriptionStart)
    (renewalFailure : RenewalFailurePolicy) :
    Except SubscriptionTermsError SubscriptionOffer :=
  let mismatch := match start with
    | .recurringImmediately => false
    | .paidTrial charge _ => charge.currency ≠ recurringCharge.currency
  if mismatch then .error .currencyMismatch
  else .ok { planKey, recurringCharge, recurringPeriod, start, renewalFailure }

/-- `has_same_terms_except_recurring_amount`. -/
def hasSameTermsExceptRecurringAmount (offer other : SubscriptionOffer) : Bool :=
  offer.planKey = other.planKey &&
    offer.recurringCharge.currency = other.recurringCharge.currency &&
      offer.recurringPeriod = other.recurringPeriod && offer.start = other.start &&
    offer.renewalFailure = other.renewalFailure

/-- `has_same_charge_terms`. -/
def hasSameChargeTerms (snapshot other : SubscriptionDiscountSnapshot) : Bool :=
  snapshot.code = other.code && snapshot.kind = other.kind && snapshot.duration = other.duration &&
    snapshot.baseCharge = other.baseCharge && snapshot.discountedCharge = other.discountedCharge

namespace SubscriptionEnrollmentExpectedTerms

variable (terms : SubscriptionEnrollmentExpectedTerms)

/-- `activation_projection`. -/
def activationProjection : SubscriptionActivationProjection :=
  fromExpectedTerms terms.offer.val terms.discountSnapshot

/-- `initial_charge`. -/
def initialCharge : Money := terms.activationProjection.initialCharge

/-- `durable_offer`, before its `expect`. -/
def durableOffer : Except SubscriptionTermsError SubscriptionOffer :=
  let offer := terms.offer.val
  let recurringCharge := (terms.discountSnapshot.map (·.baseCharge)).getD offer.recurringCharge
  subscriptionOfferNew offer.planKey recurringCharge offer.recurringPeriod offer.start
    offer.renewalFailure

/-- `matches_locked_terms`. -/
def matchesLockedTerms (currentOffer : SubscriptionOffer)
    (savedDiscount : Option SubscriptionDiscountSnapshot) :
    Bool :=
  match terms.discountSnapshot, savedDiscount with
  | none, none => terms.offer.val = currentOffer
  | some expected, some saved =>
    hasSameTermsExceptRecurringAmount terms.offer.val currentOffer &&
      currentOffer.recurringCharge.currency = expected.baseCharge.currency &&
        hasSameChargeTerms expected saved
  | _, _ => false

end SubscriptionEnrollmentExpectedTerms

/-! ## Reservations -/

/-- The target of a durable attempt, as far as an enrollment reads it. -/
inductive StoredTarget
  | subscriptionInitial (offer : CheckedOffer)
      (discount : Option SubscriptionEnrollmentDiscountSnapshot)
  | other (kind : PaymentAttemptKind)

/-- What `from_attempt` reads of a durable attempt; the contact is copied as it is. -/
structure StoredAttempt (Contact : Type) where
  identity : PaymentAttemptIdentity
  idempotencyKey : String
  gatewayOrderId : String
  billingContact : Contact
  target : StoredTarget

/-- `SubscriptionEnrollmentReservation`. -/
structure SubscriptionEnrollmentReservation (Contact : Type) where
  identity : PaymentAttemptIdentity
  providerKey : String
  idempotencyKey : String
  gatewayOrderId : String
  billingContact : Contact
  expectedTerms : SubscriptionEnrollmentExpectedTerms

/-- `SubscriptionEnrollmentReservationBuildError`, as far as `from_attempt` returns it. -/
inductive SubscriptionEnrollmentReservationBuildError
  | attemptKindMismatch
  | invalidTerms
  deriving DecidableEq, Repr

/-- The terms that `from_attempt` rebuilds. -/
def rebuiltTerms (offer : CheckedOffer) : Option SubscriptionEnrollmentDiscountSnapshot →
    Except SubscriptionEnrollmentReservationBuildError SubscriptionEnrollmentExpectedTerms
  | some discount => (discounted offer discount.snapshot).mapError fun _ => .invalidTerms
  | none => .ok (fullPrice offer)

/-- `from_attempt`. -/
def fromAttempt {Contact : Type} (attempt : StoredAttempt Contact) (providerKey : String) :
    Except SubscriptionEnrollmentReservationBuildError
      (SubscriptionEnrollmentReservation Contact) :=
  match attempt.target with
  | .other _ => .error .attemptKindMismatch
  | .subscriptionInitial offer discount => do
    let expectedTerms ← rebuiltTerms offer discount
    .ok
      { identity := attempt.identity, providerKey, idempotencyKey := attempt.idempotencyKey,
        gatewayOrderId := attempt.gatewayOrderId, billingContact := attempt.billingContact,
        expectedTerms }

/-! ## A quote can be enrolled with -/

/-- A discount may be combined with an offer of its currency and, if it is limited, of its
cadence. -/
theorem termsError_eq_none {offer : SubscriptionOffer} {snapshot : SubscriptionDiscountSnapshot} :
    termsError offer snapshot = none ↔
      offer.recurringCharge.currency = snapshot.baseCharge.currency ∧
        (snapshot.duration.isLimited = true → offer.recurringPeriod.isOneCalendarMonth = true) := by
  unfold termsError
  split_ifs with hcurrency hcadence
  · simp [hcurrency]
  · simp only [Bool.and_eq_true, Bool.not_eq_true'] at hcadence
    simp [hcadence.1, hcadence.2]
  · simp only [Bool.and_eq_true, Bool.not_eq_true', not_and, Bool.not_eq_false] at hcadence
    exact iff_of_true rfl ⟨not_not.mp hcurrency, hcadence⟩

/-- Terms with a discount are built exactly if the discount may be combined with the offer. -/
theorem discounted_eq_ok {offer : CheckedOffer} {snapshot : SubscriptionDiscountSnapshot}
    (h : termsError offer.val snapshot = none) :
    ∃ terms, discounted offer snapshot = .ok terms ∧ terms.offer = offer ∧
      terms.discountSnapshot = some snapshot := by
  unfold discounted
  split
  · rename_i error herror
    rw [h] at herror
    cases herror
  · exact ⟨_, rfl, rfl, rfl⟩

/-- A quote takes the offer's recurring charge, with a discounted charge in its currency that is not
above it. -/
theorem quote_spec {code : SubscriptionDiscountCodeRecord} {offer : CheckedOffer}
    {quote : SubscriptionDiscountCodeQuote}
    (h : SubscriptionDiscountCodeQuote.new code offer = .ok quote) :
    quote.code = code ∧ quote.baseCharge = CheckedOffer.recurringCharge offer ∧
      discountedCharge quote.baseCharge code.currency code.kind = .ok quote.discountedCharge ∧
      (code.duration.val.isLimited = true →
        offer.val.recurringPeriod.isOneCalendarMonth = true) := by
  unfold SubscriptionDiscountCodeQuote.new at h
  split_ifs at h with hplan hcadence
  obtain ⟨charge, hcharge, h⟩ := bind_eq_ok.mp h
  obtain rfl := Except.ok.inj h
  simp only [Bool.and_eq_true, Bool.not_eq_true', not_and, Bool.not_eq_false] at hcadence
  exact ⟨rfl, rfl, hcharge, hcadence⟩

/-- A quote has a snapshot, and terms with the quoted offer and with any other offer of its currency
and cadence. -/
theorem quote_enrolls {code : SubscriptionDiscountCodeRecord} {offer : CheckedOffer}
    {quote : SubscriptionDiscountCodeQuote}
    (h : SubscriptionDiscountCodeQuote.new code offer = .ok quote) :
    ∃ snapshot, quote.snapshot = .ok snapshot ∧ (∃ terms, discounted offer snapshot = .ok terms) ∧
      ∀ other : CheckedOffer,
        other.val.recurringCharge.currency = offer.val.recurringCharge.currency →
        (code.duration.val.isLimited = true → other.val.recurringPeriod.isOneCalendarMonth = true) →
        ∃ terms, discounted other snapshot = .ok terms := by
  obtain ⟨rfl, hbase, hcharge, hcadence⟩ := quote_spec h
  obtain ⟨-, -, hvalue⟩ := discountedCharge_eq_ok.mp hcharge
  have hcurrency : quote.baseCharge.val.currency = quote.discountedCharge.val.currency := by
    rw [hvalue]
  have hle : quote.discountedCharge.val.cents ≤ quote.baseCharge.val.cents := by
    rw [hvalue]
    exact Nat.sub_le _ _
  have hoffer : quote.baseCharge.val.currency = offer.val.recurringCharge.currency := by
    rw [hbase]
    rfl
  have hterms (snapshot : SubscriptionDiscountSnapshot)
      (hsnapshot : snapshot.baseCharge = quote.baseCharge.val)
      (hduration : snapshot.duration = quote.code.duration.val) (other : CheckedOffer)
      (hother : other.val.recurringCharge.currency = offer.val.recurringCharge.currency)
      (hperiod : quote.code.duration.val.isLimited = true →
        other.val.recurringPeriod.isOneCalendarMonth = true) :
      ∃ terms, discounted other snapshot = .ok terms := by
    have hnone : termsError other.val snapshot = none := by
      rw [termsError_eq_none, hsnapshot, hduration, hother, hoffer]
      exact ⟨rfl, hperiod⟩
    obtain ⟨terms, hok, -⟩ := discounted_eq_ok hnone
    exact ⟨terms, hok⟩
  unfold SubscriptionDiscountCodeQuote.snapshot SubscriptionDiscountSnapshot.new
  rw [dif_pos ⟨hcurrency, hle⟩]
  exact ⟨_, rfl, hterms _ rfl rfl offer rfl hcadence, hterms _ rfl rfl⟩

/-- Discounts whose parameters may be compared: one takes off no more than the other. -/
def NoLargerThan : SubscriptionDiscountKind → SubscriptionDiscountKind → Prop
  | .amountOffCents amount, .amountOffCents amount' => amount ≤ amount'
  | .percentOffBasisPoints percent, .percentOffBasisPoints percent' => percent ≤ percent'
  | _, _ => False

/-- A larger discount of the same kind takes off no less. -/
theorem discountOf_mono {kind kind' : SubscriptionDiscountKind} (h : NoLargerThan kind kind')
    (base : ℕ) : kind.discountOf base ≤ kind'.discountOf base := by
  cases kind with
  | amountOffCents amount =>
    cases kind' with
    | amountOffCents amount' => exact h
    | percentOffBasisPoints percent' => exact h.elim
  | percentOffBasisPoints percent =>
    cases kind' with
    | amountOffCents amount' => exact h.elim
    | percentOffBasisPoints percent' => exact percent_discount_mono base h

/-- Discount arithmetic is exact: no step of it loses anything; it fails exactly for another
currency and for an amount that is not below the base; what it returns is the exact price, rounded
up to a cent; it is monotone in the base and antitone in the discount; and every quote has a
snapshot that the quoted offer, and any other of its currency and cadence, can be enrolled with. -/
theorem discount_arithmetic_exact :
    (∀ (base : ChargeAmount) (currency : CurrencyCode) (kind : CheckedDiscountKind),
      ExactSteps base.val.cents kind.val ∧
      ((∃ error, discountedCharge base currency kind = .error error) ↔
        currency.val ≠ base.val.currency ∨ ∃ amount, kind.val = .amountOffCents amount ∧
          base.val.cents ≤ amount) ∧
      ∀ charge, discountedCharge base currency kind = .ok charge →
        1 ≤ charge.val.cents ∧ charge.val.cents ≤ base.val.cents ∧
          charge.val.currency = base.val.currency ∧
        (∀ amount, kind.val = .amountOffCents amount → charge.val.cents + amount = base.val.cents) ∧
        ∀ percent, kind.val = .percentOffBasisPoints percent →
          IsLeast {n : ℕ | base.val.cents * (10000 - percent) ≤ n * 10000} charge.val.cents) ∧
    (∀ (base base' charge charge' : ChargeAmount) (currency currency' : CurrencyCode)
      (kind : CheckedDiscountKind), discountedCharge base currency kind = .ok charge →
        discountedCharge base' currency' kind = .ok charge' →
      base.val.cents ≤ base'.val.cents → charge.val.cents ≤ charge'.val.cents) ∧
    (∀ (base charge charge' : ChargeAmount) (currency : CurrencyCode)
      (kind kind' : CheckedDiscountKind), discountedCharge base currency kind = .ok charge →
        discountedCharge base currency kind' = .ok charge' →
      NoLargerThan kind.val kind'.val → charge'.val.cents ≤ charge.val.cents) ∧
    ∀ (code : SubscriptionDiscountCodeRecord) (offer : CheckedOffer)
      (quote : SubscriptionDiscountCodeQuote),
        SubscriptionDiscountCodeQuote.new code offer = .ok quote →
      ∃ snapshot, quote.snapshot = .ok snapshot ∧ (∃ terms, discounted offer snapshot = .ok terms) ∧
        ∀ other : CheckedOffer,
          other.val.recurringCharge.currency = offer.val.recurringCharge.currency →
          (code.duration.val.isLimited = true →
            other.val.recurringPeriod.isOneCalendarMonth = true) →
          ∃ terms, discounted other snapshot = .ok terms := by
  refine ⟨fun base currency kind => ⟨?_, ?_, fun charge h => ?_⟩, ?_, ?_,
    fun code offer quote => quote_enrolls⟩
  · obtain ⟨hpos, hmax⟩ := Money.cents_range base.property
    exact exactSteps hpos hmax kind.property
  -- A checked kind leaves the arithmetic one way to fail.
  · rw [← discountedCharge_eq_error]
    constructor
    · rintro ⟨error, herror⟩
      unfold discountedCharge at herror ⊢
      split_ifs at herror ⊢
      · rfl
      · split at herror
        · rfl
        · cases herror
    · exact fun herror => ⟨_, herror⟩
  · obtain ⟨-, hlt, hvalue⟩ := discountedCharge_eq_ok.mp h
    rw [hvalue]
    refine ⟨?_, Nat.sub_le _ _, rfl, fun amount hkind => ?_, fun percent hkind => ?_⟩
    · exact Nat.sub_pos_of_lt hlt
    · rw [hkind] at hlt ⊢
      exact Nat.sub_add_cancel hlt.le
    · have hvalid := kind.property
      rw [hkind] at hvalid ⊢
      simp only [SubscriptionDiscountKind.isKind, Bool.and_eq_true, decide_eq_true_eq] at hvalid
      exact isLeast_percent hvalid.2
  -- Both charges are the bases less their discounts, so monotonicity is one of `discountOf`.
  · intro base base' charge charge' currency currency' kind h h' hle
    obtain ⟨-, -, hvalue⟩ := discountedCharge_eq_ok.mp h
    obtain ⟨-, -, hvalue'⟩ := discountedCharge_eq_ok.mp h'
    rw [hvalue, hvalue']
    exact discountOf_monotone kind.property hle
  · intro base charge charge' currency kind kind' h h' hle
    obtain ⟨-, -, hvalue⟩ := discountedCharge_eq_ok.mp h
    obtain ⟨-, -, hvalue'⟩ := discountedCharge_eq_ok.mp h'
    rw [hvalue, hvalue']
    exact Nat.sub_le_sub_left (discountOf_mono hle base.val.cents) base.val.cents

/-! ## Storage -/

/-- A paid trial has the currency of the recurring charge. -/
theorem trial_currency {offer : CheckedOffer} {charge : Money} {period : SubscriptionPeriodRule}
    (h : offer.val.start = .paidTrial charge period) :
    charge.isChargeAmount = true ∧ period.isPeriodRule = true ∧
      charge.currency = offer.val.recurringCharge.currency := by
  have hoffer := offer.property
  unfold SubscriptionOffer.isOffer at hoffer
  rw [h] at hoffer
  simp only [Bool.and_eq_true, beq_iff_eq] at hoffer
  exact ⟨hoffer.2.1.1, hoffer.2.1.2, hoffer.2.2⟩

/-- An offer whose recurring charge is replaced by another one in its currency. -/
theorem isOffer_of_recurringCharge {offer : CheckedOffer} {charge : Money}
    (hcharge : charge.isChargeAmount = true)
    (hcurrency : charge.currency = offer.val.recurringCharge.currency) :
    ({ offer.val with recurringCharge := charge } : SubscriptionOffer).isOffer = true := by
  have hoffer := offer.property
  unfold SubscriptionOffer.isOffer at hoffer ⊢
  simp only [Bool.and_eq_true] at hoffer ⊢
  refine ⟨⟨⟨hoffer.1.1.1, hcharge⟩, hoffer.1.2⟩, ?_⟩
  rw [hcurrency]
  exact hoffer.2

/-- The recurring charge that is stored: the base of the discount, or that of the offer. -/
def durableCharge (terms : SubscriptionEnrollmentExpectedTerms) : Money :=
  (terms.discountSnapshot.map (·.baseCharge)).getD terms.offer.val.recurringCharge

/-- The stored charge is a charge in the currency of the offer. -/
theorem durableCharge_spec (terms : SubscriptionEnrollmentExpectedTerms) :
    (durableCharge terms).isChargeAmount = true ∧
      (durableCharge terms).currency = terms.offer.val.recurringCharge.currency := by
  unfold durableCharge
  cases hdiscount : terms.discountSnapshot with
  | none => exact ⟨(CheckedOffer.recurringCharge terms.offer).property, rfl⟩
  | some snapshot =>
    obtain ⟨hcurrency, -⟩ := termsError_eq_none.mp (terms.combined snapshot hdiscount)
    exact ⟨snapshot.base_valid, hcurrency.symm⟩

/-- The stored offer is built: its currency is that of the accepted one. -/
theorem durableOffer_eq (terms : SubscriptionEnrollmentExpectedTerms) :
    terms.durableOffer = .ok { terms.offer.val with recurringCharge := durableCharge terms } := by
  obtain ⟨-, hcurrency⟩ := durableCharge_spec terms
  unfold SubscriptionEnrollmentExpectedTerms.durableOffer subscriptionOfferNew
  dsimp only
  show (if _ then _ else _) = _
  cases hstart : terms.offer.val.start with
  | recurringImmediately => rfl
  | paidTrial charge period =>
    obtain ⟨-, -, htrial⟩ := trial_currency hstart
    have hsame : charge.currency = (durableCharge terms).currency := htrial.trans hcurrency.symm
    exact if_neg (by simpa [durableCharge] using hsame)

/-- A projection reads the recurring charge of an offer only where there is no discount. -/
theorem fromExpectedTerms_congr {offer other : SubscriptionOffer}
    {discountSnapshot : Option SubscriptionDiscountSnapshot}
    (hperiod : offer.recurringPeriod = other.recurringPeriod) (hstart : offer.start = other.start)
    (hcharge : discountSnapshot = none → offer.recurringCharge = other.recurringCharge) :
    fromExpectedTerms offer discountSnapshot = fromExpectedTerms other discountSnapshot := by
  unfold fromExpectedTerms
  rw [hstart]
  cases discountSnapshot with
  | none => rw [hcharge rfl, hperiod]
  | some snapshot =>
    cases other.start with
    | recurringImmediately => rw [hperiod]; rfl
    | paidTrial charge period => rfl

/-- A match with locked terms reads the recurring amount of an offer only where there is no
discount. -/
theorem matchesLockedTerms_congr {terms other : SubscriptionEnrollmentExpectedTerms}
    (hdiscount : other.discountSnapshot = terms.discountSnapshot)
    (hnone : terms.discountSnapshot = none → other.offer = terms.offer)
    (hsome : terms.discountSnapshot ≠ none →
      ∀ current, hasSameTermsExceptRecurringAmount other.offer.val current =
        hasSameTermsExceptRecurringAmount terms.offer.val current)
    (currentOffer : SubscriptionOffer) (savedDiscount : Option SubscriptionDiscountSnapshot) :
    other.matchesLockedTerms currentOffer savedDiscount =
      terms.matchesLockedTerms currentOffer savedDiscount := by
  unfold SubscriptionEnrollmentExpectedTerms.matchesLockedTerms
  rw [hdiscount]
  cases h : terms.discountSnapshot with
  | none => rw [hnone h]
  | some snapshot =>
    cases savedDiscount with
    | none => rfl
    | some saved =>
      dsimp only
      rw [hsome (by rw [h]; exact Option.some_ne_none snapshot)]

/-- The terms that are rebuilt from the stored offer and the discount. -/
theorem rebuiltTerms_eq (terms : SubscriptionEnrollmentExpectedTerms) {durable : CheckedOffer}
    (hdurable : durable.val = { terms.offer.val with recurringCharge := durableCharge terms })
    (claimId codeId : Id) :
    ∃ rebuilt, rebuiltTerms durable
      (terms.discountSnapshot.map fun snapshot => ⟨claimId, codeId, snapshot⟩) =
        .ok rebuilt ∧
      rebuilt.offer = durable ∧ rebuilt.discountSnapshot = terms.discountSnapshot := by
  cases hdiscount : terms.discountSnapshot with
  | none => exact ⟨fullPrice durable, rfl, rfl, rfl⟩
  | some snapshot =>
    obtain ⟨-, hcadence⟩ := termsError_eq_none.mp (terms.combined snapshot hdiscount)
    have hbase : durableCharge terms = snapshot.baseCharge := by
      unfold durableCharge
      rw [hdiscount]
      rfl
    have hnone : termsError durable.val snapshot = none := by
      rw [termsError_eq_none, hdurable, hbase]
      exact ⟨rfl, hcadence⟩
    obtain ⟨rebuilt, hok, hoffer, hsnapshot⟩ := discounted_eq_ok hnone
    refine ⟨rebuilt, ?_, hoffer, hsnapshot⟩
    show (discounted durable snapshot).mapError _ = _
    rw [hok]
    rfl

/-- Accepted enrollment terms survive storage. The stored offer is built and valid; the terms that
are rebuilt from an attempt with that offer and the discount project and store as the accepted ones
do, and match the same locked terms. A catalog price that changes later does not change what
discounted terms project, and terms with a discount still match an offer that differs in its price
only. -/
theorem enrollment_terms_survive_storage (terms : SubscriptionEnrollmentExpectedTerms) :
    (∃ durable : CheckedOffer, terms.durableOffer = .ok durable.val ∧
      ∀ (Contact : Type) (attempt : StoredAttempt Contact) (providerKey : String)
        (claimId codeId : Id), attempt.target = .subscriptionInitial durable
          (terms.discountSnapshot.map fun snapshot => ⟨claimId, codeId, snapshot⟩) →
        ∃ reservation, fromAttempt attempt providerKey = .ok reservation ∧
          reservation.expectedTerms.activationProjection = terms.activationProjection ∧
          reservation.expectedTerms.durableOffer = terms.durableOffer ∧
          ∀ currentOffer savedDiscount,
            reservation.expectedTerms.matchesLockedTerms currentOffer savedDiscount =
              terms.matchesLockedTerms currentOffer savedDiscount) ∧
    ∀ (later : SubscriptionEnrollmentExpectedTerms) (snapshot : SubscriptionDiscountSnapshot),
      terms.discountSnapshot = some snapshot → later.discountSnapshot = some snapshot →
      hasSameTermsExceptRecurringAmount terms.offer.val later.offer.val = true →
      later.activationProjection = terms.activationProjection ∧
        terms.matchesLockedTerms later.offer.val (some snapshot) = true := by
  obtain ⟨hcharge, hcurrency⟩ := durableCharge_spec terms
  constructor
  · refine ⟨⟨_, isOffer_of_recurringCharge hcharge hcurrency⟩, durableOffer_eq terms, ?_⟩
    intro Contact attempt providerKey claimId codeId htarget
    obtain ⟨rebuilt, hrebuilt, hoffer, hdiscount⟩ := @rebuiltTerms_eq terms
      ⟨_, isOffer_of_recurringCharge hcharge hcurrency⟩ rfl claimId codeId
    -- Without a discount the offer is stored as it is.
    have hfull (hnone : terms.discountSnapshot = none) :
        durableCharge terms = terms.offer.val.recurringCharge := by
      unfold durableCharge
      rw [hnone]
      rfl
    refine ⟨⟨attempt.identity, providerKey, attempt.idempotencyKey, attempt.gatewayOrderId,
      attempt.billingContact, rebuilt⟩, ?_, ?_, ?_, ?_⟩
    · unfold fromAttempt
      rw [htarget]
      show (do let expectedTerms ← rebuiltTerms _ _; _) = _
      rw [hrebuilt]
      rfl
    · unfold SubscriptionEnrollmentExpectedTerms.activationProjection
      rw [hdiscount, hoffer]
      exact fromExpectedTerms_congr rfl rfl hfull
    -- Stored once more, the charge is the same: with a snapshot it is the base of that, whatever
    -- the offer says, and without one the rebuilt offer has the whole charge.
    · have hagain : durableCharge rebuilt = durableCharge terms := by
        cases hsnapshot : terms.discountSnapshot with
        | none =>
          unfold durableCharge
          rw [hdiscount, hsnapshot, hoffer]
          exact hfull hsnapshot
        | some snapshot =>
          unfold durableCharge
          rw [hdiscount, hsnapshot]
          rfl
      show rebuilt.durableOffer = terms.durableOffer
      rw [durableOffer_eq, durableOffer_eq, hagain, hoffer]
    · refine matchesLockedTerms_congr hdiscount (fun hnone => ?_) fun _ current => ?_
      · rw [hoffer]
        apply Subtype.ext
        show { terms.offer.val with recurringCharge := durableCharge terms } = terms.offer.val
        rw [hfull hnone]
      · rw [hoffer]
        unfold hasSameTermsExceptRecurringAmount
        dsimp only
        rw [hcurrency]
  -- Later terms with the same snapshot: the catalogue may move its recurring amount only.
  · intro later snapshot hterms hlater hsame
    obtain ⟨hsaved, -⟩ := termsError_eq_none.mp (later.combined snapshot hlater)
    have hparts := hsame
    unfold hasSameTermsExceptRecurringAmount at hparts
    simp only [Bool.and_eq_true, decide_eq_true_eq] at hparts
    obtain ⟨⟨⟨-, hperiod⟩, hstart⟩, -⟩ := hparts
    constructor
    · unfold SubscriptionEnrollmentExpectedTerms.activationProjection
      rw [hterms, hlater]
      exact fromExpectedTerms_congr hperiod.symm hstart.symm fun hnone => by cases hnone
    · unfold SubscriptionEnrollmentExpectedTerms.matchesLockedTerms
      rw [hterms]
      simp [hsame, hsaved, hasSameChargeTerms]

end Enrollment

end SyrupRail
