import SyrupRail.Lib.RustText

/-!
# The billing domain

The identities, vocabularies, and values of the engine that the later modules share, as the crate
`syrup-rail` has them: the kinds and statuses of payment attempts, the resolution codes, the
processor evidence, and the terms of a subscription. UUIDs are opaque natural numbers, a timestamp
is a number of microseconds since the epoch, which is PostgreSQL's resolution, and amounts are
cents.
-/

namespace SyrupRail

/-- A UUID. -/
abbrev Id := ℕ

/-- A `timestamptz`, in microseconds since the epoch. -/
abbrev Timestamp := ℤ

/-- A number of seconds as a difference of timestamps. -/
def seconds (n : ℕ) : ℤ := n * 1000000

/-- Why a transaction on the store fails. The last three are errors of the database: a row that
breaks a constraint, a row that breaks a unique index, and a text with U+0000. -/
inductive StoreError
  | invalidState (message : String)
  | checkViolation
  | uniqueViolation
  | characterNotInRepertoire
  deriving DecidableEq, Repr

/-! ## Payment attempts -/

/-- What an attempt pays for. -/
inductive PaymentAttemptKind
  | hostCharge
  | subscriptionInitial
  | subscriptionRenewal
  | subscriptionRecovery
  | subscriptionPaymentMethodUpdate
  deriving DecidableEq, Repr

/-- The status of a payment attempt. -/
inductive PaymentAttemptStatus
  | pending | approved | declined | unknown | reviewRequired | failed
  deriving DecidableEq, Repr

/-- `is_resolvable`: an outcome may still be recorded. -/
def PaymentAttemptStatus.isResolvable : PaymentAttemptStatus → Bool
  | .pending | .unknown | .reviewRequired => true
  | .approved | .declined | .failed => false

/-- `is_terminal`. -/
def PaymentAttemptStatus.isTerminal : PaymentAttemptStatus → Bool
  | .approved | .declined | .failed => true
  | .pending | .unknown | .reviewRequired => false

/-- A status is terminal or resolvable, and not both. -/
@[simp]
theorem PaymentAttemptStatus.isTerminal_eq_not (s : PaymentAttemptStatus) :
    s.isTerminal = !s.isResolvable := by
  cases s <;> rfl

/-- Why an attempt ended, or waits, as it does. -/
inductive PaymentResolutionCode
  | subscriptionInitialCurrentSubscriptionConflict
  | subscriptionInitialCurrentGrantConflict
  | subscriptionInitialExternallyRefunded
  | subscriptionInitialExternallyVoided
  | processorChargeExternallyRefunded
  | processorChargeExternallyVoided
  | subscriptionInitialPreparedAttemptExpired
  | subscriptionRenewalRetryStateChangedBeforeCharge
  | gatewayLiveReadinessFailedBeforeSubmission
  | gatewayTestReadinessFailedBeforeSubmission
  | gatewayMalformedBeforeSubmission
  | gatewayRequestRejectedBeforeSubmission
  | gatewayConfigurationBeforeSubmission
  | gatewayUnavailableBeforeSubmission
  | gatewayProviderRateLimitedBeforeSubmission
  | gatewayAccountRateLimitedBeforeSubmission
  | gatewayAccountMutationCooldownBeforeSubmission
  | hostChargeApprovedStaleState
  | subscriptionApprovedRenewalStaleState
  | subscriptionApprovedRecoveryStaleState
  | subscriptionApprovedRecoveryInactiveReplacementMethod
  | subscriptionApprovedPaymentMethodUpdateSubscriptionIneligible
  | subscriptionApprovedPaymentMethodUpdateStaleState
  | subscriptionApprovedPaymentMethodUpdateInactiveReplacementMethod
  | subscriptionPeriodExpiredBeforeCharge
  | subscriptionApprovedPeriodExpired
  deriving DecidableEq, Repr

/-- `RENEWAL_INFRASTRUCTURE_PACING_CODES`. -/
def renewalInfrastructurePacingCodes : List PaymentResolutionCode :=
  [.gatewayLiveReadinessFailedBeforeSubmission, .gatewayTestReadinessFailedBeforeSubmission,
    .gatewayMalformedBeforeSubmission, .gatewayRequestRejectedBeforeSubmission,
    .gatewayConfigurationBeforeSubmission, .gatewayUnavailableBeforeSubmission]

/-- `RENEWAL_RATE_LIMIT_PACING_CODES`. -/
def renewalRateLimitPacingCodes : List PaymentResolutionCode :=
  [.gatewayProviderRateLimitedBeforeSubmission, .gatewayAccountRateLimitedBeforeSubmission]

/-- `RENEWAL_INFRASTRUCTURE_RETRY_CODES`. -/
def renewalInfrastructureRetryCodes : List PaymentResolutionCode :=
  renewalInfrastructurePacingCodes ++ renewalRateLimitPacingCodes ++
    [.gatewayAccountMutationCooldownBeforeSubmission]

/-! ## Processor evidence -/

/-- The masked card data of a gateway response. -/
structure GatewayPaymentDescriptor where
  paymentType : Option String := none
  cardBrand : Option String := none
  cardLastFour : Option String := none
  cardExpMonth : Option ℕ := none
  cardExpYear : Option ℕ := none
  deriving DecidableEq, Repr

/-- What the processor said about one payment. -/
structure ProcessorEvidence where
  transactionId : Option String := none
  paymentMethodReference : Option String := none
  response : Option String := none
  responseCode : Option String := none
  responseText : Option String := none
  condition : Option String := none
  descriptor : GatewayPaymentDescriptor := {}
  deriving DecidableEq, Repr

/-- `MAX_GATEWAY_TEXT_BYTES`, the limit of a diagnostic and of its column. -/
def maxGatewayTextBytes : ℕ := 512

/-- Whether a diagnostic fits its column. -/
def diagnosticFits (text : Option String) : Bool :=
  text.all fun t => t.utf8ByteSize ≤ maxGatewayTextBytes

/-- A text that is kept when present, and else replaced by one that fits. -/
theorem diagnosticFits_orElse {text : Option String} {s : String} (h : diagnosticFits text = true)
    (hs : diagnosticFits (some s) = true) : diagnosticFits (text <|> some s) = true := by
  cases text with
  | none => exact hs
  | some t => exact h

/-- The constraint on the texts of stored evidence, which every value of the type
`ProcessorEvidence` of the source meets. -/
def ProcessorEvidence.textCheck (e : ProcessorEvidence) : Bool :=
  diagnosticFits e.response && diagnosticFits e.responseCode && diagnosticFits e.responseText &&
    diagnosticFits e.condition && diagnosticFits e.descriptor.paymentType &&
    diagnosticFits e.descriptor.cardBrand

/-- Evidence with another text and condition fits when both of them do. -/
theorem ProcessorEvidence.textCheck_with {e : ProcessorEvidence} (h : e.textCheck = true)
    {text condition : Option String} (ht : diagnosticFits text = true)
    (hc : diagnosticFits condition = true) :
    { e with responseText := text, condition := condition }.textCheck = true := by
  simp only [textCheck, Bool.and_eq_true] at h ⊢
  exact ⟨⟨⟨⟨⟨h.1.1.1.1.1, h.1.1.1.1.2⟩, ht⟩, hc⟩, h.1.2⟩, h.2⟩

/-- The text and the condition of evidence that fits. -/
theorem ProcessorEvidence.diagnosticFits_of_textCheck {e : ProcessorEvidence}
    (h : e.textCheck = true) :
    diagnosticFits e.responseText = true ∧ diagnosticFits e.condition = true := by
  simp only [textCheck, Bool.and_eq_true] at h
  exact ⟨h.1.1.1.2, h.1.1.2⟩

/-- `has_gateway_reference`. -/
def ProcessorEvidence.hasGatewayReference (e : ProcessorEvidence) : Bool :=
  e.transactionId.isSome || e.paymentMethodReference.isSome

/-- `normalized_gateway_state_value`: trimmed, in lower case, without ASCII blanks, `_`, and `-`. -/
def normalizedGatewayStateValue (value : String) : String :=
  String.ofList ((RustText.toAsciiLowercase (RustText.trim value)).toList.filter
    fun c => !RustText.isAsciiWhitespace c && c != '_' && c != '-')

/-- `gateway_state_is_approved`. -/
def gatewayStateIsApproved (value : String) : Bool :=
  normalizedGatewayStateValue value ∈
    ["approved", "complete", "completed", "captured", "success", "successful", "pendingsettlement"]

/-- `gateway_response_is_approved`. -/
def gatewayResponseIsApproved (value : Option String) : Bool :=
  match value.map normalizedGatewayStateValue with
  | none => false
  | some normalized =>
    normalized == "1" || normalized == "100" || gatewayStateIsApproved normalized

/-- `indicates_approved_payment`: a transaction identity with an approved response, response code,
or condition. -/
def ProcessorEvidence.indicatesApprovedPayment (e : ProcessorEvidence) : Bool :=
  e.transactionId.isSome &&
    (gatewayResponseIsApproved e.response || gatewayResponseIsApproved e.responseCode ||
      e.condition.any gatewayStateIsApproved)

/-! ## Money and terms -/

/-- An amount of one currency, in cents. -/
structure Money where
  cents : ℕ
  currency : String
  deriving DecidableEq, Repr

/-- A billing period ends after it starts. -/
structure BillingPeriod where
  startAt : Timestamp
  endAt : Timestamp
  start_lt_end : startAt < endAt
  deriving DecidableEq, Repr

/-- The cadence of a subscription; the count is a `NonZeroU16`. -/
inductive SubscriptionPeriodRule
  | fixedDays (days : ℕ)
  | calendarMonths (months : ℕ)
  deriving DecidableEq, Repr

/-- What happens when the retries of a period are used up. -/
inductive DunningExhaustion
  | remainPastDue | markUnpaid
  deriving DecidableEq, Repr

/-- Whether a past-due subscription keeps its access while retries remain. -/
inductive PastDueAccessPolicy
  | suspendImmediately | continueUntilDunningExhausted
  deriving DecidableEq, Repr

/-- `MAX_DUNNING_RETRY_STEPS`. -/
def maxDunningRetrySteps : ℕ := 16

/-- The largest retry delay, `u32::MAX` seconds. -/
def maxDunningRetryDelay : ℕ := 4294967295

/-- A renewal-failure policy. A schedule has at most 16 retry delays, each a positive number of
seconds that fits `u32`. -/
structure RenewalFailurePolicy where
  retryDelays : List ℕ
  exhaustion : DunningExhaustion
  pastDueAccess : PastDueAccessPolicy
  length_le : retryDelays.length ≤ maxDunningRetrySteps
  delay_pos : ∀ d ∈ retryDelays, 0 < d
  delay_le : ∀ d ∈ retryDelays, d ≤ maxDunningRetryDelay
  deriving DecidableEq, Repr

/-- The status of a subscription. -/
inductive SubscriptionStatus
  | active | pastDue | canceled | unpaid
  deriving DecidableEq, Repr

/-- The phase of a subscription. -/
inductive SubscriptionPhase
  | paidTrial | recurring
  deriving DecidableEq, Repr

/-- The mode of a gateway account. -/
inductive GatewayAccountMode
  | live | test
  deriving DecidableEq, Repr

/-- Whether the host rejects charges for a billing period that is already over. -/
inductive SubscriptionPeriodExpiryPolicy
  | disabled | rejectExpiredPeriods
  deriving DecidableEq, Repr

end SyrupRail
