import Mathlib.Logic.Equiv.Nat
import SyrupRail.Terms
import SyrupRail.Lib.Fields

/-!
# Fingerprints of payment requests

The constructors of `attempt/fingerprint.rs` write a request as fields with colons between them. Six
formats share one namespace: the optional groups differ in length, a plan may have the name of
another format's keyword, and two fields, the text of a timestamp and a transaction identifier, may
contain colons themselves. The parts of a fingerprint between its colons determine the request up to
the label of its discount: the first part names the format, with the fourth where two formats share
it, and a field with colons has the same number of fields before it, and behind it, in every text of
its format.
-/

namespace SyrupRail

open Fields RustText

/-! ## What the constructors of the arguments check -/

/-- `BoundedSlug::parse`. -/
def isSlug (value : String) : Bool :=
  value.utf8ByteSize ≤ 64 &&
    match value.toList with
    | [] => false
    | first :: rest =>
      (first.isLower || first.isDigit) &&
        rest.all fun c => c.isLower || c.isDigit || c == '_' || c == '-'

/-- `count` of a period rule. -/
def SubscriptionPeriodRule.count : SubscriptionPeriodRule → ℕ
  | .fixedDays n | .calendarMonths n => n

/-- A count is a `NonZeroU16`. -/
def SubscriptionPeriodRule.isPeriodRule (rule : SubscriptionPeriodRule) : Bool :=
  0 < rule.count && rule.count ≤ 65535

/-- `SubscriptionOffer::new`, with the constructors of its parts. The policy for failed renewals
carries its own. -/
def SubscriptionOffer.isOffer (offer : SubscriptionOffer) : Bool :=
  isSlug offer.planKey && offer.recurringCharge.isChargeAmount &&
    offer.recurringPeriod.isPeriodRule &&
    match offer.start with
    | .recurringImmediately => true
    | .paidTrial charge period =>
      charge.isChargeAmount && period.isPeriodRule &&
        charge.currency == offer.recurringCharge.currency

/-- The arguments of the constructors of a fingerprint. -/
inductive PaymentRequest
  | hostCharge (targetId : Id) (amount : Money)
  | subscriptionInitialV1 (planKey : String) (amount : Money)
      (discount : Option SubscriptionEnrollmentDiscountSnapshot)
  | subscriptionInitialV2 (offer : SubscriptionOffer) (amount : Money)
    (discount : Option SubscriptionEnrollmentDiscountSnapshot)
  | subscriptionRecovery (planKey : String) (subscriptionId paymentMethodId : Id)
    (periodStartAt : Timestamp) (amount : Money)
  | subscriptionRenewal (planKey : String) (subscriptionId paymentMethodId : Id)
    (periodStartAt : Timestamp) (amount : Money)
  | subscriptionPaymentMethodUpdate (planKey : String) (subscriptionId paymentMethodId : Id)
    (expectedInitialTransactionId : String)
  deriving DecidableEq

/-- Whether the arguments are values of their types. A transaction identifier may be any text. -/
def PaymentRequest.isRequest : PaymentRequest → Bool
  | .hostCharge _ amount => amount.isMoney
  | .subscriptionInitialV1 planKey amount _ => isSlug planKey && amount.isMoney
  | .subscriptionInitialV2 offer amount _ => offer.isOffer && amount.isMoney
  | .subscriptionRecovery planKey _ _ _ amount => isSlug planKey && amount.isMoney
  | .subscriptionRenewal planKey _ _ _ amount => isSlug planKey && amount.isMoney
  | .subscriptionPaymentMethodUpdate planKey _ _ _ => isSlug planKey

/-! ## The formats -/

/-- `Display` of a UUID and of a `DateTime<Utc>`, which other crates print. -/
structure DisplayTexts where
  uuid : Id → String
  timestamp : Timestamp → String

/-- `as_str` of a period rule. -/
def SubscriptionPeriodRule.asStr : SubscriptionPeriodRule → String
  | .fixedDays _ => "fixed_days"
  | .calendarMonths _ => "calendar_months"

/-- `as_str` of what ends the retries. -/
def DunningExhaustion.asStr : DunningExhaustion → String
  | .remainPastDue => "remain_past_due"
  | .markUnpaid => "mark_unpaid"

/-- `as_str` of the access while past due. -/
def PastDueAccessPolicy.asStr : PastDueAccessPolicy → String
  | .suspendImmediately => "suspend_immediately"
  | .continueUntilDunningExhausted => "continue_until_dunning_exhausted"

/-- `as_str` of the kind of a discount. -/
def SubscriptionDiscountKind.asStr : SubscriptionDiscountKind → String
  | .amountOffCents _ => "amount_off"
  | .percentOffBasisPoints _ => "percent_off"

/-- `as_str` of the duration of a discount. -/
def SubscriptionDiscountDuration.asStr : SubscriptionDiscountDuration → String
  | .indefinite => "indefinite"
  | .limitedMonths _ => "limited_months"

/-- `discount_amount_off`. -/
def discountAmountOff : SubscriptionDiscountKind → String
  | .amountOffCents cents => toString cents
  | .percentOffBasisPoints _ => "none"

/-- `discount_percent_off`. -/
def discountPercentOff : SubscriptionDiscountKind → String
  | .amountOffCents _ => "none"
  | .percentOffBasisPoints bps => toString bps

/-- `discount_duration_months`. -/
def discountDurationMonths : SubscriptionDiscountDuration → String
  | .indefinite => "none"
  | .limitedMonths months => toString months

namespace DisplayTexts

variable (texts : DisplayTexts)

/-- The fields of `for_host_charge`. -/
def hostChargeFields (targetId : Id) (amount : Money) : List String :=
  ["host_charge", texts.uuid targetId, toString amount.cents, amount.currency]

/-- The fields of a discount after the keyword `discount`. -/
def discountFields (discount : SubscriptionEnrollmentDiscountSnapshot) : List String :=
  let snapshot := discount.snapshot
  [texts.uuid discount.claimId, texts.uuid discount.codeId, snapshot.code, snapshot.kind.asStr,
    discountAmountOff snapshot.kind, discountPercentOff snapshot.kind, snapshot.baseCharge.currency,
    toString snapshot.baseCharge.cents, toString snapshot.discountedCharge.cents,
    snapshot.duration.asStr, discountDurationMonths snapshot.duration]

/-- The fields of an optional discount. -/
def optionalDiscountFields : Option SubscriptionEnrollmentDiscountSnapshot → List String
  | some discount => texts.discountFields discount
  | none => ["none"]

/-- The fields of `subscription_initial_expected_fingerprint`. -/
def expectedFields (amount : Money) : Option SubscriptionDiscountSnapshot → List String
  | some snapshot =>
    ["discounted", snapshot.code, snapshot.kind.asStr, discountAmountOff snapshot.kind,
      discountPercentOff snapshot.kind, snapshot.duration.asStr,
      discountDurationMonths snapshot.duration, snapshot.baseCharge.currency,
      toString snapshot.baseCharge.cents, toString snapshot.discountedCharge.cents]
  | none => ["full_price", toString amount.cents, amount.currency]

/-- The fields of `for_subscription_initial_v1`. -/
def initialV1Fields (planKey : String) (amount : Money)
    (discount : Option SubscriptionEnrollmentDiscountSnapshot) : List String :=
  ["subscription_initial", planKey, toString amount.cents, amount.currency, "discount"] ++
    texts.optionalDiscountFields discount ++ ["expected"] ++
    expectedFields amount (discount.map (·.snapshot))

/-- The fields of the start of an offer. -/
def startFields : SubscriptionStart → List String
  | .recurringImmediately => ["recurring_immediately", "trial", "none"]
  | .paidTrial charge period =>
    ["paid_trial", "trial", toString charge.cents, charge.currency, period.asStr,
      toString period.count]

/-- The list of retry delays in seconds, between brackets. -/
def retryDelaysField (delays : List ℕ) : String :=
  "[" ++ ",".intercalate (delays.map toString) ++ "]"

/-- The fields of `for_subscription_initial_v2`. -/
def initialV2Fields (offer : SubscriptionOffer) (amount : Money)
    (discount : Option SubscriptionEnrollmentDiscountSnapshot) : List String :=
  ["subscription_initial", "v2", offer.planKey, "start"] ++ startFields offer.start ++
    ["recurring", toString offer.recurringCharge.cents, offer.recurringCharge.currency,
      offer.recurringPeriod.asStr, toString offer.recurringPeriod.count, "dunning",
      retryDelaysField offer.renewalFailure.retryDelays, offer.renewalFailure.exhaustion.asStr,
      offer.renewalFailure.pastDueAccess.asStr, "initial", toString amount.cents, amount.currency,
      "discount"] ++ texts.optionalDiscountFields discount

/-- The fields of a charge of one period of a subscription. -/
def periodChargeFields (format planKey : String) (subscriptionId paymentMethodId : Id)
    (periodStartAt : Timestamp) (amount : Money) : List String :=
  [format, planKey, texts.uuid subscriptionId, texts.uuid paymentMethodId] ++
    texts.timestamp periodStartAt :: [toString amount.cents, amount.currency]

/-- The fields of `for_subscription_payment_method_update`. -/
def paymentMethodUpdateFields (planKey : String) (subscriptionId paymentMethodId : Id)
    (expectedInitialTransactionId : String) : List String :=
  ["subscription_payment_method_update", planKey, texts.uuid subscriptionId,
    texts.uuid paymentMethodId] ++ expectedInitialTransactionId :: []

/-- `for_host_charge`. -/
def forHostCharge (targetId : Id) (amount : Money) : String :=
  ":".intercalate (texts.hostChargeFields targetId amount)

/-- `for_subscription_initial_v1`. -/
def forSubscriptionInitialV1 (planKey : String) (amount : Money)
    (discount : Option SubscriptionEnrollmentDiscountSnapshot) : String :=
  ":".intercalate (texts.initialV1Fields planKey amount discount)

/-- `for_subscription_initial_v2`. -/
def forSubscriptionInitialV2 (offer : SubscriptionOffer) (amount : Money)
    (discount : Option SubscriptionEnrollmentDiscountSnapshot) : String :=
  ":".intercalate (texts.initialV2Fields offer amount discount)

/-- `for_subscription_recovery`. -/
def forSubscriptionRecovery (planKey : String) (subscriptionId paymentMethodId : Id)
    (periodStartAt : Timestamp) (amount : Money) : String :=
  ":".intercalate (texts.periodChargeFields "subscription_recovery" planKey subscriptionId
    paymentMethodId periodStartAt amount)

/-- `for_subscription_renewal`. -/
def forSubscriptionRenewal (planKey : String) (subscriptionId paymentMethodId : Id)
    (periodStartAt : Timestamp) (amount : Money) : String :=
  ":".intercalate (texts.periodChargeFields "subscription_renewal" planKey subscriptionId
    paymentMethodId periodStartAt amount)

/-- `for_subscription_payment_method_update`. -/
def forSubscriptionPaymentMethodUpdate (planKey : String) (subscriptionId paymentMethodId : Id)
    (expectedInitialTransactionId : String) : String :=
  ":".intercalate (texts.paymentMethodUpdateFields planKey subscriptionId paymentMethodId
    expectedInitialTransactionId)

/-- The fingerprint of a request. -/
def fingerprint : PaymentRequest → String
  | .hostCharge targetId amount => texts.forHostCharge targetId amount
  | .subscriptionInitialV1 planKey amount discount =>
    texts.forSubscriptionInitialV1 planKey amount discount
  | .subscriptionInitialV2 offer amount discount =>
    texts.forSubscriptionInitialV2 offer amount discount
  | .subscriptionRecovery planKey subscriptionId paymentMethodId periodStartAt amount =>
    texts.forSubscriptionRecovery planKey subscriptionId paymentMethodId periodStartAt amount
  | .subscriptionRenewal planKey subscriptionId paymentMethodId periodStartAt amount =>
    texts.forSubscriptionRenewal planKey subscriptionId paymentMethodId periodStartAt amount
  | .subscriptionPaymentMethodUpdate planKey subscriptionId paymentMethodId transactionId =>
    texts.forSubscriptionPaymentMethodUpdate planKey subscriptionId paymentMethodId transactionId

/-- `matches_subscription_initial_v2`. -/
def matchesSubscriptionInitialV2 (stored : String) (offer : SubscriptionOffer) (amount : Money)
    (discount : Option SubscriptionEnrollmentDiscountSnapshot) : Bool :=
  stored == texts.forSubscriptionInitialV2 offer amount discount

/-- `matches_subscription_recovery`. -/
def matchesSubscriptionRecovery (stored planKey : String) (subscriptionId paymentMethodId : Id)
    (periodStartAt : Timestamp) (amount : Money) : Bool :=
  stored == texts.forSubscriptionRecovery planKey subscriptionId paymentMethodId
    periodStartAt amount

/-- `matches_subscription_renewal`. -/
def matchesSubscriptionRenewal (stored planKey : String) (subscriptionId paymentMethodId : Id)
    (periodStartAt : Timestamp) (amount : Money) : Bool :=
  stored == texts.forSubscriptionRenewal planKey subscriptionId paymentMethodId periodStartAt amount

/-- `matches_subscription_payment_method_update`. -/
def matchesSubscriptionPaymentMethodUpdate (stored planKey : String)
    (subscriptionId paymentMethodId : Id) (expectedInitialTransactionId : String) : Bool :=
  stored == texts.forSubscriptionPaymentMethodUpdate planKey subscriptionId paymentMethodId
    expectedInitialTransactionId

end DisplayTexts

/-! ## Fields without colons -/

/-- What is assumed of the texts that other crates print. -/
structure DisplayTexts.Lawful (texts : DisplayTexts) : Prop where
  uuid_injective : Function.Injective texts.uuid
  uuid_colonless : ∀ id, Colonless (texts.uuid id)
  timestamp_injective : Function.Injective texts.timestamp

/-- A text whose characters all satisfy a test that a colon fails has no colon. -/
theorem colonless_of_all {s : String} {p : Char → Bool} (h : s.toList.all p = true)
    (hcolon : p ':' = false) : Colonless s := by
  intro hmem
  rw [List.all_eq_true] at h
  exact absurd (h ':' hmem) (by simp [hcolon])

/-- A slug has no colon. -/
theorem colonless_of_isSlug {s : String} (h : isSlug s = true) : Colonless s := by
  unfold isSlug at h
  rw [Bool.and_eq_true] at h
  obtain ⟨-, h⟩ := h
  intro hmem
  cases hs : s.toList with
  | nil => simp [hs] at hmem
  | cons first rest =>
    rw [hs] at h hmem
    simp only [Bool.and_eq_true, List.all_eq_true] at h
    rcases List.mem_cons.mp hmem with hfirst | hrest
    · rw [← hfirst] at h
      exact absurd h.1 (by decide)
    · exact absurd (h.2 ':' hrest) (by decide)

/-- A currency code has no colon. -/
theorem colonless_of_isCurrencyCode {s : String} (h : isCurrencyCode s = true) : Colonless s := by
  unfold isCurrencyCode at h
  rw [Bool.and_eq_true] at h
  exact colonless_of_all h.2 (by decide)

/-- The currency of an amount has no colon. -/
theorem Money.currency_colonless {amount : Money} (h : amount.isMoney = true) :
    Colonless amount.currency := by
  unfold Money.isMoney at h
  rw [Bool.and_eq_true] at h
  exact colonless_of_isCurrencyCode h.1

/-- A charge is an amount. -/
theorem Money.isMoney_of_isChargeAmount {amount : Money} (h : amount.isChargeAmount = true) :
    amount.isMoney = true := by
  unfold Money.isChargeAmount at h
  rw [Bool.and_eq_true] at h
  exact h.1

/-- A discount code has no colon. -/
theorem colonless_of_isDiscountCode {s : String} (h : isDiscountCode s = true) : Colonless s := by
  unfold isDiscountCode at h
  rw [Bool.and_eq_true] at h
  exact colonless_of_all h.2 (by decide)

/-- A decimal number or a keyword has no colon. -/
theorem colonless_discountWords (kind : SubscriptionDiscountKind)
    (duration : SubscriptionDiscountDuration) :
    Colonless kind.asStr ∧ Colonless (discountAmountOff kind) ∧
      Colonless (discountPercentOff kind) ∧ Colonless duration.asStr ∧
        Colonless (discountDurationMonths duration) := by
  have hnone : Colonless "none" := by decide
  refine ⟨?_, ?_, ?_, ?_, ?_⟩
  · cases kind with
    | amountOffCents _ => exact (by decide : Colonless "amount_off")
    | percentOffBasisPoints _ => exact (by decide : Colonless "percent_off")
  · cases kind with
    | amountOffCents cents => exact colonless_toString cents
    | percentOffBasisPoints _ => exact hnone
  · cases kind with
    | amountOffCents _ => exact hnone
    | percentOffBasisPoints bps => exact colonless_toString bps
  · cases duration with
    | indefinite => exact (by decide : Colonless "indefinite")
    | limitedMonths _ => exact (by decide : Colonless "limited_months")
  · cases duration with
    | indefinite => exact hnone
    | limitedMonths months => exact colonless_toString months

/-- The keyword of a period rule has no colon. -/
theorem colonless_periodRule (rule : SubscriptionPeriodRule) : Colonless rule.asStr := by
  cases rule with
  | fixedDays _ => exact (by decide : Colonless "fixed_days")
  | calendarMonths _ => exact (by decide : Colonless "calendar_months")

/-- The keywords of a policy have no colon. -/
theorem colonless_policyWords (exhaustion : DunningExhaustion) (access : PastDueAccessPolicy) :
    Colonless exhaustion.asStr ∧ Colonless access.asStr := by
  constructor
  · cases exhaustion <;> decide
  · cases access <;> decide

namespace DisplayTexts

variable {texts : DisplayTexts}

/-- The fields of an optional discount have no colon. -/
theorem colonless_optionalDiscountFields (hlaw : texts.Lawful)
    (discount : Option SubscriptionEnrollmentDiscountSnapshot) :
    ∀ field ∈ texts.optionalDiscountFields discount, Colonless field := by
  cases discount with
  | none =>
    have hword : Colonless "none" := by decide
    simpa [optionalDiscountFields] using hword
  | some discount =>
    obtain ⟨hkind, hamount, hpercent, hduration, hmonths⟩ :=
      colonless_discountWords discount.snapshot.kind discount.snapshot.duration
    have hcode := colonless_of_isDiscountCode discount.snapshot.code_valid
    have hcurrency := Money.currency_colonless
      (Money.isMoney_of_isChargeAmount discount.snapshot.base_valid)
    simp [optionalDiscountFields, discountFields, hlaw.uuid_colonless, hcode, hkind, hamount,
      hpercent, hcurrency, hduration, hmonths, colonless_toString, -Nat.toString_eq_repr]

/-- The fields of the terms that a customer expected have no colon. -/
theorem colonless_expectedFields {amount : Money} (hamount : amount.isMoney = true)
    (snapshot : Option SubscriptionDiscountSnapshot) :
    ∀ field ∈ expectedFields amount snapshot, Colonless field := by
  cases snapshot with
  | none =>
    have hword : Colonless "full_price" := by decide
    simp [expectedFields, hword, colonless_toString, Money.currency_colonless hamount,
      -Nat.toString_eq_repr]
  | some snapshot =>
    obtain ⟨hkind, hamount, hpercent, hduration, hmonths⟩ :=
      colonless_discountWords snapshot.kind snapshot.duration
    have hcode := colonless_of_isDiscountCode snapshot.code_valid
    have hcurrency := Money.currency_colonless (Money.isMoney_of_isChargeAmount snapshot.base_valid)
    have hword : Colonless "discounted" := by decide
    simp [expectedFields, hword, hcode, hkind, hamount, hpercent,
      hcurrency, hduration, hmonths, colonless_toString, -Nat.toString_eq_repr]

/-- The fields of the start of an offer have no colon. -/
theorem colonless_startFields {offer : SubscriptionOffer} (h : offer.isOffer = true) :
    ∀ field ∈ startFields offer.start, Colonless field := by
  unfold SubscriptionOffer.isOffer at h
  rw [Bool.and_eq_true] at h
  obtain ⟨-, h⟩ := h
  cases hstart : offer.start with
  | recurringImmediately => decide
  | paidTrial charge period =>
    rw [hstart] at h
    simp only [Bool.and_eq_true] at h
    have hcurrency := Money.currency_colonless (Money.isMoney_of_isChargeAmount h.1.1)
    have hkeyword : Colonless "paid_trial" := by decide
    have htrial : Colonless "trial" := by decide
    simp [startFields, hkeyword, htrial, hcurrency, colonless_periodRule, colonless_toString,
      -Nat.toString_eq_repr]

/-- The list of retry delays has no colon. -/
theorem colonless_retryDelaysField (delays : List ℕ) : Colonless (retryDelaysField delays) := by
  intro hmem
  have hlist : (retryDelaysField delays).toList =
      '[' :: ([','].intercalate ((delays.map toString).map String.toList) ++ [']']) := by
    simp [retryDelaysField]
  rw [hlist, List.mem_cons, List.mem_append, List.mem_singleton] at hmem
  rcases hmem with h | hmem | h
  · exact absurd h (by decide)
  · rcases mem_intercalate hmem with h | ⟨field, hfield, hmem⟩
    · exact absurd h (by decide)
    · obtain ⟨s, hs, rfl⟩ := List.mem_map.mp hfield
      obtain ⟨delay, -, rfl⟩ := List.mem_map.mp hs
      exact colonless_toString delay hmem
  · exact absurd h (by decide)

/-- The fields of a version-1 enrollment have no colon. -/
theorem colonless_initialV1Fields (hlaw : texts.Lawful) {planKey : String}
    (hplan : isSlug planKey = true) {amount : Money} (hamount : amount.isMoney = true)
    (discount : Option SubscriptionEnrollmentDiscountSnapshot) :
    ∀ field ∈ texts.initialV1Fields planKey amount discount, Colonless field := by
  have hhead : ∀ field ∈ ["subscription_initial", planKey, toString amount.cents, amount.currency,
      "discount"], Colonless field := by
    have h₁ : Colonless "subscription_initial" := by decide
    have h₂ : Colonless "discount" := by decide
    simp [h₁, h₂, colonless_of_isSlug hplan, Money.currency_colonless hamount, colonless_toString,
      -Nat.toString_eq_repr]
  have hword : Colonless "expected" := by decide
  intro field hfield
  unfold initialV1Fields at hfield
  simp only [List.mem_append, List.mem_singleton] at hfield
  rcases hfield with ((hfield | hfield) | rfl) | hfield
  · exact hhead field hfield
  · exact colonless_optionalDiscountFields hlaw discount field hfield
  · exact hword
  · exact colonless_expectedFields hamount _ field hfield

/-- The fields of a version-2 enrollment have no colon. -/
theorem colonless_initialV2Fields (hlaw : texts.Lawful) {offer : SubscriptionOffer}
    (hoffer : offer.isOffer = true) {amount : Money} (hamount : amount.isMoney = true)
    (discount : Option SubscriptionEnrollmentDiscountSnapshot) :
    ∀ field ∈ texts.initialV2Fields offer amount discount, Colonless field := by
  have hstart := colonless_startFields hoffer
  unfold SubscriptionOffer.isOffer at hoffer
  simp only [Bool.and_eq_true] at hoffer
  obtain ⟨⟨⟨hplan, hcharge⟩, -⟩, -⟩ := hoffer
  have hcurrency := Money.currency_colonless (Money.isMoney_of_isChargeAmount hcharge)
  obtain ⟨hexhaustion, haccess⟩ :=
    colonless_policyWords offer.renewalFailure.exhaustion offer.renewalFailure.pastDueAccess
  have hwords : ∀ field ∈ ["subscription_initial", "v2", "start", "recurring", "dunning", "initial",
      "discount"], Colonless field := by decide
  simp only [List.forall_mem_cons] at hwords
  obtain ⟨h₁, h₂, h₃, h₄, h₅, h₆, h₇, -⟩ := hwords
  intro field hfield
  unfold initialV2Fields at hfield
  simp only [List.mem_append] at hfield
  rcases hfield with ((hfield | hfield) | hfield) | hfield
  · revert field
    simp [h₁, h₂, h₃, colonless_of_isSlug hplan]
  · exact hstart field hfield
  · revert field
    simp [h₄, h₅, h₆, h₇, hcurrency, hexhaustion, haccess, Money.currency_colonless hamount,
      colonless_periodRule, colonless_retryDelaysField, colonless_toString, -Nat.toString_eq_repr]
  · exact colonless_optionalDiscountFields hlaw discount field hfield

/-! ## What the fields determine -/

/-- The words of a kind determine it. -/
theorem kind_of_words {kind kind' : SubscriptionDiscountKind}
    (hamount : discountAmountOff kind = discountAmountOff kind')
    (hpercent : discountPercentOff kind = discountPercentOff kind')
    (hword : kind.asStr = kind'.asStr) :
    kind = kind' := by
  cases kind with
  | amountOffCents cents =>
    cases kind' with
    | amountOffCents cents' => rw [toString_inj hamount]
    | percentOffBasisPoints _ => exact absurd hword (by simp [SubscriptionDiscountKind.asStr])
  | percentOffBasisPoints bps =>
    cases kind' with
    | amountOffCents _ => exact absurd hword (by simp [SubscriptionDiscountKind.asStr])
    | percentOffBasisPoints bps' => rw [toString_inj hpercent]

/-- The words of a duration determine it. -/
theorem duration_of_words {duration duration' : SubscriptionDiscountDuration}
    (hword : duration.asStr = duration'.asStr)
    (hmonths : discountDurationMonths duration = discountDurationMonths duration') :
    duration = duration' := by
  cases duration with
  | indefinite =>
    cases duration' with
    | indefinite => rfl
    | limitedMonths _ => exact absurd hword (by simp [SubscriptionDiscountDuration.asStr])
  | limitedMonths months =>
    cases duration' with
    | indefinite => exact absurd hword (by simp [SubscriptionDiscountDuration.asStr])
    | limitedMonths months' => rw [toString_inj hmonths]

/-- The words of a period rule determine it. -/
theorem periodRule_of_words {rule rule' : SubscriptionPeriodRule} (hword : rule.asStr = rule'.asStr)
    (hcount : toString rule.count = toString rule'.count) : rule = rule' := by
  have hcount := toString_inj hcount
  cases rule with
  | fixedDays n =>
    cases rule' with
    | fixedDays n' => exact congrArg _ hcount
    | calendarMonths _ => exact absurd hword (by simp [SubscriptionPeriodRule.asStr])
  | calendarMonths n =>
    cases rule' with
    | fixedDays _ => exact absurd hword (by simp [SubscriptionPeriodRule.asStr])
    | calendarMonths n' => exact congrArg _ hcount

/-- The cents and the currency determine an amount. -/
theorem money_of_words {amount amount' : Money}
    (hcents : toString amount.cents = toString amount'.cents)
    (hcurrency : amount.currency = amount'.currency) : amount = amount' := by
  cases amount
  cases amount'
  rw [Money.mk.injEq]
  exact ⟨toString_inj hcents, hcurrency⟩

/-- The keywords of a policy and its retry delays determine it. -/
theorem policy_of_words {policy policy' : RenewalFailurePolicy}
    (hdelays : retryDelaysField policy.retryDelays = retryDelaysField policy'.retryDelays)
    (hexhaustion : policy.exhaustion.asStr = policy'.exhaustion.asStr)
    (haccess : policy.pastDueAccess.asStr = policy'.pastDueAccess.asStr) : policy = policy' := by
  have hnumbers (delays : List ℕ) :
      ∀ field ∈ (delays.map toString).map String.toList, field ≠ [] ∧ ',' ∉ field := by
    intro field hfield
    obtain ⟨s, hs, rfl⟩ := List.mem_map.mp hfield
    obtain ⟨delay, -, rfl⟩ := List.mem_map.mp hs
    exact ⟨toString_ne_nil delay, fun hmem => absurd (isDigit_of_mem_toString hmem) (by decide)⟩
  have hlists : policy.retryDelays = policy'.retryDelays := by
    have htexts := congrArg String.toList hdelays
    simp only [retryDelaysField, String.toList_append, String.toList_intercalate] at htexts
    have hjoined := List.append_cancel_left (List.append_cancel_right htexts)
    have hfields := intercalate_inj (hnumbers _) (hnumbers _) hjoined
    rw [List.map_map, List.map_map] at hfields
    refine List.map_injective_iff.mpr ?_ hfields
    intro m n hmn
    exact toString_inj (String.toList_injective hmn)
  have hends : policy.exhaustion = policy'.exhaustion := by
    cases h : policy.exhaustion <;> cases h' :
      policy'.exhaustion <;> simp_all [DunningExhaustion.asStr]
  have haccesses : policy.pastDueAccess = policy'.pastDueAccess := by
    cases h : policy.pastDueAccess <;> cases h' : policy'.pastDueAccess <;>
      simp_all [PastDueAccessPolicy.asStr]
  cases policy
  cases policy'
  simp_all

end DisplayTexts

/-- A discount without its label. -/
def SubscriptionEnrollmentDiscountSnapshot.withoutLabel
    (discount : SubscriptionEnrollmentDiscountSnapshot) : SubscriptionEnrollmentDiscountSnapshot :=
  { discount with snapshot := { discount.snapshot with label := none } }

/-- A request without the label of its discount. -/
def PaymentRequest.withoutLabel : PaymentRequest → PaymentRequest
  | .subscriptionInitialV1 planKey amount discount =>
    .subscriptionInitialV1 planKey amount
      (discount.map SubscriptionEnrollmentDiscountSnapshot.withoutLabel)
  | .subscriptionInitialV2 offer amount discount =>
    .subscriptionInitialV2 offer amount
      (discount.map SubscriptionEnrollmentDiscountSnapshot.withoutLabel)
  | request => request

namespace DisplayTexts

variable {texts : DisplayTexts}

/-- The fields of a discount determine it, up to its label. -/
theorem discountFields_inj (hlaw : texts.Lawful)
    {discount discount' : SubscriptionEnrollmentDiscountSnapshot}
    (h : texts.discountFields discount = texts.discountFields discount') :
    discount.withoutLabel = discount'.withoutLabel := by
  simp only [discountFields, List.cons.injEq, and_true] at h
  obtain ⟨hclaim, hcodeId, hcode, hkind, hamount, hpercent, hcurrency, hbase, hdiscounted,
    hduration, hmonths⟩ := h
  have hclaim := hlaw.uuid_injective hclaim
  have hcodeId := hlaw.uuid_injective hcodeId
  have hkind := kind_of_words hamount hpercent hkind
  have hduration := duration_of_words hduration hmonths
  have hbaseCharge := money_of_words hbase hcurrency
  have hdiscountedCharge := money_of_words hdiscounted
    (by rw [← discount.snapshot.currency_eq, ← discount'.snapshot.currency_eq, hcurrency])
  obtain ⟨claimId, codeId, ⟨code, label, kind, duration, base, discounted⟩⟩ := discount
  obtain ⟨claimId', codeId', ⟨code', label', kind', duration', base', discounted'⟩⟩ := discount'
  simp_all [SubscriptionEnrollmentDiscountSnapshot.withoutLabel]

/-- The fields of an optional discount determine it, up to its label. -/
theorem optionalDiscountFields_inj (hlaw : texts.Lawful)
    {discount discount' : Option SubscriptionEnrollmentDiscountSnapshot}
    (h : texts.optionalDiscountFields discount = texts.optionalDiscountFields discount') :
    discount.map SubscriptionEnrollmentDiscountSnapshot.withoutLabel =
      discount'.map SubscriptionEnrollmentDiscountSnapshot.withoutLabel := by
  have hlength := congrArg List.length h
  cases discount with
  | none =>
    cases discount' with
    | none => rfl
    | some _ => simp [optionalDiscountFields, discountFields] at hlength
  | some discount =>
    cases discount' with
    | none => simp [optionalDiscountFields, discountFields] at hlength
    | some discount' => exact congrArg some (discountFields_inj hlaw h)

/-- The fields of a version-1 enrollment determine it, up to the label of its discount. -/
theorem initialV1Fields_inj (hlaw : texts.Lawful) {planKey planKey' : String}
    {amount amount' : Money} {discount discount' : Option SubscriptionEnrollmentDiscountSnapshot}
    (h : texts.initialV1Fields planKey amount discount =
      texts.initialV1Fields planKey' amount' discount') :
    planKey = planKey' ∧ amount = amount' ∧
      discount.map SubscriptionEnrollmentDiscountSnapshot.withoutLabel =
        discount'.map SubscriptionEnrollmentDiscountSnapshot.withoutLabel := by
  have hlength := congrArg List.length h
  have hdiscounts : (texts.optionalDiscountFields discount).length =
      (texts.optionalDiscountFields discount').length := by
    cases discount <;> cases discount' <;>
      simp_all [initialV1Fields, optionalDiscountFields, discountFields, expectedFields]
  unfold initialV1Fields at h
  rw [List.append_assoc, List.append_assoc, List.append_assoc, List.append_assoc] at h
  obtain ⟨hhead, hrest⟩ := List.append_inj h (by simp)
  obtain ⟨hdiscount, -⟩ := List.append_inj hrest hdiscounts
  simp only [List.cons.injEq, true_and, and_true] at hhead
  obtain ⟨hplan, hcents, hcurrency⟩ := hhead
  exact ⟨hplan, money_of_words hcents hcurrency, optionalDiscountFields_inj hlaw hdiscount⟩

/-- The fields of the start of an offer end where they end, and determine it. -/
theorem startFields_append_inj {start start' : SubscriptionStart} {rest rest' : List String}
    (h : startFields start ++ rest = startFields start' ++ rest') :
    start = start' ∧ rest = rest' := by
  cases start with
  | recurringImmediately =>
    cases start' with
    | recurringImmediately => exact ⟨rfl, List.append_cancel_left h⟩
    | paidTrial charge' period' => simp [startFields] at h
  | paidTrial charge period =>
    cases start' with
    | recurringImmediately => simp [startFields] at h
    | paidTrial charge' period' =>
      obtain ⟨hfields, hrest⟩ := List.append_inj h rfl
      simp only [startFields, List.cons.injEq, true_and, and_true] at hfields
      obtain ⟨hcents, hcurrency, hword, hcount⟩ := hfields
      rw [money_of_words hcents hcurrency, periodRule_of_words hword hcount]
      exact ⟨rfl, hrest⟩

/-- The fields of a version-2 enrollment determine it, up to the label of its discount. -/
theorem initialV2Fields_inj (hlaw : texts.Lawful) {offer offer' : SubscriptionOffer}
    {amount amount' : Money} {discount discount' : Option SubscriptionEnrollmentDiscountSnapshot}
    (h : texts.initialV2Fields offer amount discount =
      texts.initialV2Fields offer' amount' discount') :
    offer = offer' ∧ amount = amount' ∧
      discount.map SubscriptionEnrollmentDiscountSnapshot.withoutLabel =
        discount'.map SubscriptionEnrollmentDiscountSnapshot.withoutLabel := by
  unfold initialV2Fields at h
  rw [List.append_assoc, List.append_assoc, List.append_assoc, List.append_assoc] at h
  obtain ⟨hhead, hrest⟩ := List.append_inj h (by simp)
  obtain ⟨hstart, hrest⟩ := startFields_append_inj hrest
  obtain ⟨hterms, hdiscount⟩ := List.append_inj hrest (by simp)
  simp only [List.cons.injEq, true_and, and_true] at hhead hterms
  obtain ⟨hcents, hcurrency, hword, hcount, hdelays, hexhaustion, haccess, hamount,
    hamountCurrency⟩ :=
    hterms
  have hcharge := money_of_words hcents hcurrency
  have hperiod := periodRule_of_words hword hcount
  have hpolicy := policy_of_words hdelays hexhaustion haccess
  refine ⟨?_, money_of_words hamount hamountCurrency, optionalDiscountFields_inj hlaw hdiscount⟩
  cases offer
  cases offer'
  simp_all

/-! ## The format -/

/-- The first field of a fingerprint. -/
def formatOf : PaymentRequest → String
  | .hostCharge _ _ => "host_charge"
  | .subscriptionInitialV1 _ _ _ | .subscriptionInitialV2 _ _ _ => "subscription_initial"
  | .subscriptionRecovery _ _ _ _ _ => "subscription_recovery"
  | .subscriptionRenewal _ _ _ _ _ => "subscription_renewal"
  | .subscriptionPaymentMethodUpdate _ _ _ _ => "subscription_payment_method_update"

/-- The fields before and behind the timestamp of a charge of one period have no colon. -/
theorem colonless_periodChargeFields (hlaw : texts.Lawful) {format planKey : String}
    (hformat : Colonless format) (hplan : isSlug planKey = true) {amount : Money}
    (hamount : amount.isMoney = true) (subscriptionId paymentMethodId : Id) :
    (∀ field ∈ [format, planKey, texts.uuid subscriptionId, texts.uuid paymentMethodId],
        Colonless field) ∧
      ∀ field ∈ [toString amount.cents, amount.currency], Colonless field := by
  constructor
  · simp [hformat, colonless_of_isSlug hplan, hlaw.uuid_colonless]
  · simp [Money.currency_colonless hamount, colonless_toString, -Nat.toString_eq_repr]

/-- The fields before the transaction identifier have no colon. -/
theorem colonless_paymentMethodUpdateFields (hlaw : texts.Lawful) {planKey : String}
    (hplan : isSlug planKey = true) (subscriptionId paymentMethodId : Id) :
    ∀ field ∈ ["subscription_payment_method_update", planKey, texts.uuid subscriptionId,
      texts.uuid paymentMethodId], Colonless field := by
  have hword : Colonless "subscription_payment_method_update" := by decide
  simp [hword, colonless_of_isSlug hplan, hlaw.uuid_colonless]

/-- The fields of a host charge have no colon. -/
theorem colonless_hostChargeFields (hlaw : texts.Lawful) {amount : Money}
    (hamount : amount.isMoney = true) (targetId : Id) :
    ∀ field ∈ texts.hostChargeFields targetId amount, Colonless field := by
  have hword : Colonless "host_charge" := by decide
  simp [hostChargeFields, hword, hlaw.uuid_colonless, Money.currency_colonless hamount,
    colonless_toString, -Nat.toString_eq_repr]

/-- The first part of a fingerprint is its format. -/
theorem head_parts_fingerprint (hlaw : texts.Lawful) {request : PaymentRequest}
    (hrequest : request.isRequest = true) :
    (parts (texts.fingerprint request)).head? = some (formatOf request).toList := by
  cases request with
  | hostCharge targetId amount =>
    rw [fingerprint, forHostCharge,
      parts_intercalate (colonless_hostChargeFields hlaw hrequest targetId)
        (by simp [hostChargeFields])]
    rfl
  | subscriptionInitialV1 planKey amount discount =>
    simp only [PaymentRequest.isRequest, Bool.and_eq_true] at hrequest
    rw [fingerprint, forSubscriptionInitialV1,
      parts_intercalate (colonless_initialV1Fields hlaw hrequest.1 hrequest.2 discount)
        (by simp [initialV1Fields])]
    rfl
  | subscriptionInitialV2 offer amount discount =>
    simp only [PaymentRequest.isRequest, Bool.and_eq_true] at hrequest
    rw [fingerprint, forSubscriptionInitialV2,
      parts_intercalate (colonless_initialV2Fields hlaw hrequest.1 hrequest.2 discount)
        (by simp [initialV2Fields])]
    rfl
  | subscriptionRecovery planKey subscriptionId paymentMethodId periodStartAt amount =>
    simp only [PaymentRequest.isRequest, Bool.and_eq_true] at hrequest
    obtain ⟨hfront, hback⟩ := colonless_periodChargeFields hlaw
      (by decide : Colonless "subscription_recovery") hrequest.1 hrequest.2 subscriptionId
        paymentMethodId
    rw [fingerprint, forSubscriptionRecovery, periodChargeFields, parts_around hfront hback]
    rfl
  | subscriptionRenewal planKey subscriptionId paymentMethodId periodStartAt amount =>
    simp only [PaymentRequest.isRequest, Bool.and_eq_true] at hrequest
    obtain ⟨hfront, hback⟩ := colonless_periodChargeFields hlaw
      (by decide : Colonless "subscription_renewal") hrequest.1 hrequest.2 subscriptionId
        paymentMethodId
    rw [fingerprint, forSubscriptionRenewal, periodChargeFields, parts_around hfront hback]
    rfl
  | subscriptionPaymentMethodUpdate planKey subscriptionId paymentMethodId transactionId =>
    have hfront := colonless_paymentMethodUpdateFields hlaw hrequest subscriptionId paymentMethodId
    rw [fingerprint, forSubscriptionPaymentMethodUpdate, paymentMethodUpdateFields,
      parts_around hfront (by simp)]
    rfl

/-- A charge of one period is determined by its text. -/
theorem periodChargeFields_inj (hlaw : texts.Lawful) {format planKey planKey' : String}
    (hformat : Colonless format) (hplan : isSlug planKey = true) (hplan' : isSlug planKey' = true)
    {amount amount' : Money} (hamount : amount.isMoney = true) (hamount' : amount'.isMoney = true)
    {subscriptionId subscriptionId' paymentMethodId paymentMethodId' : Id}
    {periodStartAt periodStartAt' : Timestamp}
    (h : ":".intercalate (texts.periodChargeFields format planKey subscriptionId paymentMethodId
        periodStartAt amount) =
      ":".intercalate (texts.periodChargeFields format planKey' subscriptionId' paymentMethodId'
        periodStartAt' amount')) :
    planKey = planKey' ∧ subscriptionId = subscriptionId' ∧ paymentMethodId = paymentMethodId' ∧
      periodStartAt = periodStartAt' ∧ amount = amount' := by
  obtain ⟨hfront, hback⟩ := colonless_periodChargeFields hlaw hformat hplan hamount subscriptionId
    paymentMethodId
  obtain ⟨hfront', hback'⟩ :=
    colonless_periodChargeFields hlaw hformat hplan' hamount' subscriptionId' paymentMethodId'
  obtain ⟨hids, hstart, hmoney⟩ := around_inj hfront hback hfront' hback' rfl rfl h
  simp only [List.cons.injEq, true_and, and_true] at hids hmoney
  exact ⟨hids.1, hlaw.uuid_injective hids.2.1, hlaw.uuid_injective hids.2.2,
    hlaw.timestamp_injective hstart, money_of_words hmoney.1 hmoney.2⟩

/-- No version-1 enrollment has the text of a version-2 enrollment: where the one has its currency,
the other has a keyword. -/
theorem initialV1_ne_initialV2 (hlaw : texts.Lawful) {planKey : String}
    (hplan : isSlug planKey = true) {amount amount' : Money} (hamount : amount.isMoney = true)
    (hamount' : amount'.isMoney = true) {offer : SubscriptionOffer} (hoffer : offer.isOffer = true)
    (discount discount' : Option SubscriptionEnrollmentDiscountSnapshot) :
    texts.forSubscriptionInitialV1 planKey amount discount ≠
      texts.forSubscriptionInitialV2 offer amount' discount' := by
  intro h
  have hfields := intercalate_colon_inj (colonless_initialV1Fields hlaw hplan hamount discount)
    (colonless_initialV2Fields hlaw hoffer hamount' discount') (by simp [initialV1Fields])
    (by simp [initialV2Fields]) h
  simp only [initialV1Fields, initialV2Fields, List.cons_append, List.cons.injEq] at hfields
  have hcurrency : amount.currency = "start" := hfields.2.2.2.1
  unfold Money.isMoney at hamount
  rw [hcurrency, Bool.and_eq_true] at hamount
  exact absurd hamount.1 (by decide)

/-- Equal fingerprints are those of one request, up to the label of its discount. -/
theorem withoutLabel_of_fingerprint (hlaw : texts.Lawful) {request other : PaymentRequest}
    (hrequest : request.isRequest = true) (hother : other.isRequest = true)
    (h : texts.fingerprint request = texts.fingerprint other) :
    request.withoutLabel = other.withoutLabel := by
  -- The first field names the format. The two formats of an enrollment have one name between them,
  -- and are told apart behind it; within a format the fields are read off one by one.
  have hformat : formatOf request = formatOf other := by
    have hhead := congrArg (fun text => (parts text).head?) h
    simp only [head_parts_fingerprint hlaw hrequest, head_parts_fingerprint hlaw hother] at hhead
    exact String.toList_injective (Option.some.inj hhead)
  cases request with
  | hostCharge targetId amount =>
    cases other with
    | hostCharge targetId' amount' =>
      have hfields := intercalate_colon_inj (colonless_hostChargeFields hlaw hrequest targetId)
        (colonless_hostChargeFields hlaw hother targetId') (by simp [hostChargeFields])
        (by simp [hostChargeFields]) h
      simp only [hostChargeFields, List.cons.injEq, true_and, and_true] at hfields
      rw [hlaw.uuid_injective hfields.1, money_of_words hfields.2.1 hfields.2.2]
    | _ => exact absurd hformat (by simp [formatOf])
  | subscriptionInitialV1 planKey amount discount =>
    simp only [PaymentRequest.isRequest, Bool.and_eq_true] at hrequest
    cases other with
    | subscriptionInitialV1 planKey' amount' discount' =>
      simp only [PaymentRequest.isRequest, Bool.and_eq_true] at hother
      obtain ⟨hplan, hamount, hdiscount⟩ := initialV1Fields_inj hlaw (intercalate_colon_inj
        (colonless_initialV1Fields hlaw hrequest.1 hrequest.2 discount)
        (colonless_initialV1Fields hlaw hother.1 hother.2 discount') (by simp [initialV1Fields])
        (by simp [initialV1Fields]) h)
      rw [PaymentRequest.withoutLabel, PaymentRequest.withoutLabel, hplan, hamount, hdiscount]
    | subscriptionInitialV2 offer amount' discount' =>
      simp only [PaymentRequest.isRequest, Bool.and_eq_true] at hother
      exact absurd h (initialV1_ne_initialV2 hlaw hrequest.1 hrequest.2 hother.2 hother.1 _ _)
    | _ => exact absurd hformat (by simp [formatOf])
  | subscriptionInitialV2 offer amount discount =>
    simp only [PaymentRequest.isRequest, Bool.and_eq_true] at hrequest
    cases other with
    | subscriptionInitialV1 planKey' amount' discount' =>
      simp only [PaymentRequest.isRequest, Bool.and_eq_true] at hother
      exact absurd h.symm (initialV1_ne_initialV2 hlaw hother.1 hother.2 hrequest.2 hrequest.1 _ _)
    | subscriptionInitialV2 offer' amount' discount' =>
      simp only [PaymentRequest.isRequest, Bool.and_eq_true] at hother
      obtain ⟨hoffer, hamount, hdiscount⟩ := initialV2Fields_inj hlaw (intercalate_colon_inj
        (colonless_initialV2Fields hlaw hrequest.1 hrequest.2 discount)
        (colonless_initialV2Fields hlaw hother.1 hother.2 discount') (by simp [initialV2Fields])
        (by simp [initialV2Fields]) h)
      rw [PaymentRequest.withoutLabel, PaymentRequest.withoutLabel, hoffer, hamount, hdiscount]
    | _ => exact absurd hformat (by simp [formatOf])
  | subscriptionRecovery planKey subscriptionId paymentMethodId periodStartAt amount =>
    simp only [PaymentRequest.isRequest, Bool.and_eq_true] at hrequest
    cases other with
    | subscriptionRecovery planKey' subscriptionId' paymentMethodId' periodStartAt' amount' =>
      simp only [PaymentRequest.isRequest, Bool.and_eq_true] at hother
      rw [fingerprint, fingerprint, forSubscriptionRecovery, forSubscriptionRecovery] at h
      obtain ⟨hplan, hsubscription, hmethod, hstart, hamount⟩ := periodChargeFields_inj hlaw
        (by decide) hrequest.1 hother.1 hrequest.2 hother.2 h
      rw [hplan, hsubscription, hmethod, hstart, hamount]
    | _ => exact absurd hformat (by simp [formatOf])
  | subscriptionRenewal planKey subscriptionId paymentMethodId periodStartAt amount =>
    simp only [PaymentRequest.isRequest, Bool.and_eq_true] at hrequest
    cases other with
    | subscriptionRenewal planKey' subscriptionId' paymentMethodId' periodStartAt' amount' =>
      simp only [PaymentRequest.isRequest, Bool.and_eq_true] at hother
      rw [fingerprint, fingerprint, forSubscriptionRenewal, forSubscriptionRenewal] at h
      obtain ⟨hplan, hsubscription, hmethod, hstart, hamount⟩ := periodChargeFields_inj hlaw
        (by decide) hrequest.1 hother.1 hrequest.2 hother.2 h
      rw [hplan, hsubscription, hmethod, hstart, hamount]
    | _ => exact absurd hformat (by simp [formatOf])
  | subscriptionPaymentMethodUpdate planKey subscriptionId paymentMethodId transactionId =>
    cases other with
    | subscriptionPaymentMethodUpdate planKey' subscriptionId' paymentMethodId' transactionId' =>
      rw [fingerprint, fingerprint, forSubscriptionPaymentMethodUpdate,
        forSubscriptionPaymentMethodUpdate] at h
      obtain ⟨hids, htransaction, -⟩ := around_inj
        (colonless_paymentMethodUpdateFields hlaw hrequest subscriptionId paymentMethodId) (by simp)
        (colonless_paymentMethodUpdateFields hlaw hother subscriptionId' paymentMethodId') (by simp)
        rfl rfl h
      simp only [List.cons.injEq, true_and, and_true] at hids
      rw [hids.1, hlaw.uuid_injective hids.2.1, hlaw.uuid_injective hids.2.2, htransaction]
    | _ => exact absurd hformat (by simp [formatOf])

/-- The label of a discount does not stand in the fingerprint. -/
theorem fingerprint_withoutLabel (texts : DisplayTexts) (request : PaymentRequest) :
    texts.fingerprint request.withoutLabel = texts.fingerprint request := by
  cases request with
  | subscriptionInitialV1 planKey amount discount => cases discount <;> rfl
  | subscriptionInitialV2 offer amount discount => cases discount <;> rfl
  | hostCharge _ _ | subscriptionRecovery _ _ _ _ _ | subscriptionRenewal _ _ _ _ _ => rfl
  | subscriptionPaymentMethodUpdate _ _ _ _ => rfl

end DisplayTexts

/-- A request whose arguments are values of their types. -/
structure ValidPaymentRequest where
  request : PaymentRequest
  valid : request.isRequest = true

/-- Two requests have one fingerprint exactly when they are the same request, up to the label of a
discount. So a stored fingerprint matches exactly the requests that are economically the same. -/
theorem fingerprint_injective (texts : DisplayTexts) (hlaw : texts.Lawful)
    (stored : ValidPaymentRequest) :
    (∀ other : ValidPaymentRequest,
        texts.fingerprint stored.request = texts.fingerprint other.request ↔
          stored.request.withoutLabel = other.request.withoutLabel) ∧
      (∀ offer amount discount,
        (PaymentRequest.subscriptionInitialV2 offer amount discount).isRequest = true →
          (texts.matchesSubscriptionInitialV2 (texts.fingerprint stored.request) offer amount
              discount = true ↔
            stored.request.withoutLabel =
              (PaymentRequest.subscriptionInitialV2 offer amount discount).withoutLabel)) ∧
      (∀ planKey subscriptionId paymentMethodId periodStartAt amount,
        isSlug planKey = true → amount.isMoney = true →
          (texts.matchesSubscriptionRecovery (texts.fingerprint stored.request) planKey
              subscriptionId paymentMethodId periodStartAt amount = true ↔
            stored.request = .subscriptionRecovery planKey subscriptionId paymentMethodId
              periodStartAt amount)) ∧
      (∀ planKey subscriptionId paymentMethodId periodStartAt amount,
        isSlug planKey = true → amount.isMoney = true →
          (texts.matchesSubscriptionRenewal (texts.fingerprint stored.request) planKey
              subscriptionId paymentMethodId periodStartAt amount = true ↔
            stored.request = .subscriptionRenewal planKey subscriptionId paymentMethodId
              periodStartAt amount)) ∧
      ∀ planKey subscriptionId paymentMethodId transactionId, isSlug planKey = true →
        (texts.matchesSubscriptionPaymentMethodUpdate (texts.fingerprint stored.request) planKey
            subscriptionId paymentMethodId transactionId = true ↔
          stored.request = .subscriptionPaymentMethodUpdate planKey subscriptionId paymentMethodId
            transactionId) := by
  have hiff {other : PaymentRequest} (hother : other.isRequest = true) :
      texts.fingerprint stored.request = texts.fingerprint other ↔
        stored.request.withoutLabel = other.withoutLabel := by
    constructor
    · exact DisplayTexts.withoutLabel_of_fingerprint hlaw stored.valid hother
    · intro h
      rw [← texts.fingerprint_withoutLabel stored.request, h, texts.fingerprint_withoutLabel]
  -- Only an initial request with a discount has a label; for the others equality is of the whole.
  have hplain (other : PaymentRequest) (hother : other.isRequest = true)
      (hlabel : ∀ request : PaymentRequest, request.withoutLabel = other ↔ request = other) :
      texts.fingerprint stored.request = texts.fingerprint other ↔ stored.request = other := by
    rw [hiff hother, (hlabel other).mpr rfl, hlabel]
  refine ⟨fun other => hiff other.valid, fun offer amount discount hother => ?_,
    fun planKey subscriptionId paymentMethodId periodStartAt amount hplan hamount => ?_,
    fun planKey subscriptionId paymentMethodId periodStartAt amount hplan hamount => ?_,
    fun planKey subscriptionId paymentMethodId transactionId hplan => ?_⟩
  · rw [DisplayTexts.matchesSubscriptionInitialV2, beq_iff_eq]
    exact hiff hother
  · rw [DisplayTexts.matchesSubscriptionRecovery, beq_iff_eq]
    refine hplain (.subscriptionRecovery planKey subscriptionId paymentMethodId periodStartAt
      amount) (by simp [PaymentRequest.isRequest, hplan, hamount]) fun request => ?_
    cases request <;> simp [PaymentRequest.withoutLabel]
  · rw [DisplayTexts.matchesSubscriptionRenewal, beq_iff_eq]
    refine hplain (.subscriptionRenewal planKey subscriptionId paymentMethodId periodStartAt
      amount) (by simp [PaymentRequest.isRequest, hplan, hamount]) fun request => ?_
    cases request <;> simp [PaymentRequest.withoutLabel]
  · rw [DisplayTexts.matchesSubscriptionPaymentMethodUpdate, beq_iff_eq]
    refine hplain (.subscriptionPaymentMethodUpdate planKey subscriptionId paymentMethodId
      transactionId) hplan fun request => ?_
    cases request <;> simp [PaymentRequest.withoutLabel]

/-- The text of a UUID that is at most nine; other numbers have other texts. -/
def sampleUuid (id : Id) : String := "00000000-0000-0000-0000-00000000000" ++ toString id

/-- The text of one timestamp; other timestamps have other texts. -/
def sampleTimestamp (t : Timestamp) : String :=
  if t = 1788825600000000 then "2026-09-08 00:00:00 UTC" else toString (Equiv.intEquivNat t)

/-- The sample texts of UUIDs differ. -/
theorem sampleUuid_injective : Function.Injective sampleUuid := by
  intro m n h
  have hchars := congrArg String.toList h
  unfold sampleUuid at hchars
  rw [String.toList_append, String.toList_append] at hchars
  exact toString_inj (String.toList_injective (List.append_cancel_left hchars))

/-- The sample texts of UUIDs have no colon. -/
theorem colonless_sampleUuid (id : Id) : Colonless (sampleUuid id) := by
  intro hmem
  unfold sampleUuid at hmem
  rw [String.toList_append, List.mem_append] at hmem
  rcases hmem with hmem | hmem
  · exact absurd hmem (by decide)
  · exact colonless_toString id hmem

/-- The sample texts of timestamps differ. -/
theorem sampleTimestamp_injective : Function.Injective sampleTimestamp := by
  have hdigits (n : ℕ) : "2026-09-08 00:00:00 UTC" ≠ toString n := by
    intro h
    have hblank : ' ' ∈ (toString n).toList := by
      rw [← h]
      decide
    exact absurd (isDigit_of_mem_toString hblank) (by decide)
  intro s t h
  unfold sampleTimestamp at h
  split_ifs at h with hs ht ht
  · rw [hs, ht]
  · exact absurd h (hdigits _)
  · exact absurd h.symm (hdigits _)
  · exact Equiv.intEquivNat.injective (toString_inj h)

/-- The sample texts. -/
def sampleTexts : DisplayTexts := ⟨sampleUuid, sampleTimestamp⟩

/-- A transaction identifier with a colon is told from one without. -/
theorem fingerprint_injective_colon :
    sampleTexts.fingerprint (.subscriptionPaymentMethodUpdate "v2" 1 2 "7:8") =
        "subscription_payment_method_update:v2:00000000-0000-0000-0000-000000000001:" ++
          "00000000-0000-0000-0000-000000000002:7:8" ∧
      sampleTexts.matchesSubscriptionPaymentMethodUpdate
        (sampleTexts.fingerprint (.subscriptionPaymentMethodUpdate "v2" 1 2 "7:8")) "v2" 1 2 "7" =
          false := by
  refine ⟨by decide +kernel, ?_⟩
  rw [← Bool.not_eq_true,
    (fingerprint_injective sampleTexts
      ⟨sampleUuid_injective, colonless_sampleUuid, sampleTimestamp_injective⟩
      ⟨.subscriptionPaymentMethodUpdate "v2" 1 2 "7:8", by decide⟩).2.2.2.2 "v2" 1 2 "7"
      (by decide)]
  decide

end SyrupRail
