import SyrupRail.Store.Approval

/-!
# Reconciliation and operator review

The writes that come from neither a reservation nor an outcome: the phases of the reconciliation,
the last-resort write of approved evidence, and what an operator decides about an attempt under
review or a charge that was reversed outside the engine.
-/

namespace SyrupRail

/-! ## Reconciliation -/

/-- The batch of stale attempts that a phase expires: the writer of their kind on the rows that were
selected. -/
def expireBatch (now : Timestamp) (w : AttemptWriter) (attemptIds : List Id) : Program Unit :=
  onAttempts (writeAttempts now (·.id ∈ attemptIds) w)

/-- Whether the claim of an exact query passes over an attempt: one whose charge an operator is to
reverse, or has reversed. -/
def PaymentAttempt.isSettledByOperator (a : PaymentAttempt) : Bool :=
  (a.kind = .subscriptionInitial ∧ a.status = .reviewRequired ∧
    (a.resolutionCode = some .subscriptionInitialCurrentSubscriptionConflict ∨
      a.resolutionCode = some .subscriptionInitialCurrentGrantConflict)) ∨
  a.resolutionCode = some .subscriptionInitialExternallyRefunded ∨
  a.resolutionCode = some .subscriptionInitialExternallyVoided ∨
  isParkedExpiredPeriodApproval a ∨
  (a.isSubscriptionCharge ∧ (a.resolutionCode = some .processorChargeExternallyRefunded ∨
    a.resolutionCode = some .processorChargeExternallyVoided))

/-- `claim_exact_reconciliation_attempts`, on the rows that were selected. -/
def claimExactReconciliationAttempts (now : Timestamp) (attemptIds : List Id) : Program Unit :=
  onAttempts (writeAttempts now
    (fun a => a.id ∈ attemptIds ∧ a.submittedAt ≠ none ∧ a.isSettledByOperator = false) .claim)

/-- `apply_exact_query_observation` on a claimed attempt. -/
def applyExactQuery (now : Timestamp) (billingScopeId attemptId : Id)
    (observation : ExactQueryObservation) : Program Unit := do
  let a ← requireAttempt (.invalidState "claimed exact-query attempt was not found") billingScopeId
    attemptId
  onAttempts (writeAttempt now invalidAttemptState a.id (.observe observation))

/-- One charge of `classify_pending_processor_charges`, with its attempt. -/
def classifyPendingProcessorCharge (now : Timestamp) (chargeId : Id) : Program Unit := do
  match Table.findBy ProcessorCharge.id chargeId (← get).ledger.charges with
  | none => pure ()
  | some c =>
    let a ← requireAttempt invalidReconciliationState c.billingScopeId c.attemptId
    onLedger fun ledger => (classifyCharge now a chargeId ledger).map (·, ())

/-! ## Evidence without the attempt -/

/-- Whether the last-resort write gives a charge the disposition of an expired period. -/
def startsInReversal (reverseExpiredPeriod : Bool) (role : ProcessorChargeRole) (a : PaymentAttempt)
    (evidence : ProcessorEvidence) : Bool :=
  reverseExpiredPeriod ∧ role = .primary ∧ 0 < a.amount.cents ∧ evidence.transactionId ≠ none

/-- The row that the last-resort write inserts: the attempt is not looked at, and an additional
charge is pending as any other. -/
def lockFreeCharge (now : Timestamp) (newChargeId : Id) (a : PaymentAttempt)
    (evidence : ProcessorEvidence) (reverseExpiredPeriod : Bool) (role : ProcessorChargeRole) :
    ProcessorCharge :=
  if startsInReversal reverseExpiredPeriod role a evidence then
    { newCharge now newChargeId a evidence role .externalReversalRequired with
      stateCode := some (.paymentResolution .subscriptionApprovedPeriodExpired) }
  else newCharge now newChargeId a evidence role .pending

/-- `persist_approved_evidence_without_attempt_lock_with_policy`. The second try sees no other row
than the first, and finds the same conflict. -/
def persistApprovedEvidenceWithoutAttemptLock (now : Timestamp) (newChargeId : Id)
    (billingScopeId attemptId : Id) (evidence : ProcessorEvidence) (reverseExpiredPeriod : Bool) :
    Program Unit := do
  -- The reservation's terms are those of the attempt, by the foreign key.
  let a ← requireAttempt .checkViolation billingScopeId attemptId
  onCharges fun charges =>
    let role : ProcessorChargeRole :=
      if charges.any (·.attemptId = a.id) then .additional else .primary
    let row := lockFreeCharge now newChargeId a evidence reverseExpiredPeriod role
    if !row.checks then .error .checkViolation
    else if chargeIndexes (row :: charges) then .ok (row :: charges, ())
    else if (matchingCharge a evidence charges).any fun c =>
        c.evidence.matchesExceptTransaction evidence then .ok (charges, ())
    else if evidence.transactionId.any fun tx => ownedByOtherAttempt a tx charges then
      .ok (charges, ())
    else .error (.invalidState "approved processor evidence is not durable")

/-- `initial_charge_state_code`. -/
def initialChargeStateCode (role : ProcessorChargeRole) (progression : ProcessorChargeProgression)
    (transactionId : Option String) : Option ProcessorChargeStateCode :=
  match role, progression, transactionId with
  | .additional, .externalReversalRequired, some _ => some .additionalApprovedChargeIdentified
  | _, .reconciliationRequired, none => some .transactionIdentityRequired
  | .primary, .reconciliationRequired, some _ => some .approvedChargeWaitingForApplication
  | .additional, .reconciliationRequired, some _ => some .zeroAmountAdditionalApprovedCharge
  | _, _, _ => none

/-- The state code of a charge that was just observed. -/
def recordInitialStateCode (now : Timestamp) (chargeId : Id) (evidence : ProcessorEvidence) :
    Program Unit :=
  onCharges fun charges =>
    match Table.findBy ProcessorCharge.id chargeId charges with
    | none => .error invalidChargeState
    | some c =>
      let code := initialChargeStateCode c.role c.progression evidence.transactionId
      if c.stateCode = code then .ok (charges, ())
      else
        (transitionProcessorCharge now chargeId [c.progression] c.progression (.replace code)
          charges).map (·, ())

/-- `observe_processor_charge_in_transaction`, and, with the progression of
`compensating_progression`, `store_compensating_processor_charge` without its comparison with an
attestation. -/
def observeProcessorChargeInTransaction (now : Timestamp) (newChargeId : Id)
    (billingScopeId attemptId : Id) (gatewayOrderId : String) (evidence : ProcessorEvidence)
    (requested : ProcessorChargeProgression) : Program Unit := do
  let a ← requireAttempt (.invalidState "processor charge attempt was not found") billingScopeId
    attemptId
  if a.gatewayOrderId ≠ gatewayOrderId then
    throw (.invalidState "processor charge order does not match its attempt")
  else
    match ← observe now newChargeId a evidence requested with
    | .ownedByOtherAttempt => pure ()
    | .owned charge =>
      if charge.exactReplay then pure () else recordInitialStateCode now charge.id evidence

/-! ## Manual failure -/

/-- Whether a character is of the class `[:alnum:]`. -/
def isAsciiAlphanumeric (c : Char) : Bool := c.isAlpha || c.isDigit

/-- Whether a text begins with the word `approved`, in any case. -/
def beginsWithApproved (text : List Char) : Bool :=
  (text.take 8).map Char.toLower = "approved".toList ∧
    (text.drop 8).head?.all fun c => isAsciiAlphanumeric c = false

/-- The search of `APPROVED_WORD_RE`, after the character `previous`. -/
def approvedWordFrom (previous : Option Char) : List Char → Bool
  | [] => false
  | c :: text =>
    (previous.all (fun p => isAsciiAlphanumeric p = false ∧ p ≠ '-') &&
      beginsWithApproved (c :: text)) || approvedWordFrom (some c) text

/-- `gateway_text_says_approved`. -/
def gatewayTextSaysApproved (text : String) : Bool :=
  approvedWordFrom none (RustText.trim text).toList

/-- `processor_evidence_indicates_approval`: also by the words of its text. -/
def processorEvidenceIndicatesApproval (e : ProcessorEvidence) : Bool :=
  gatewayResponseIsApproved e.response || gatewayResponseIsApproved e.responseCode ||
    e.condition.any gatewayStateIsApproved || e.responseText.any gatewayTextSaysApproved

/-- `review_required_attempt_can_be_manually_failed`. A payment-method update always has its
snapshot. -/
def reviewRequiredAttemptCanBeManuallyFailed (a : PaymentAttempt) : Bool :=
  if a.status ≠ .reviewRequired then false
  else if a.kind = .subscriptionPaymentMethodUpdate then true
  else if a.kind = .hostCharge ∧ a.submittedAt ≠ none then false
  else !a.evidence.hasGatewayReference && !processorEvidenceIndicatesApproval a.evidence

/-- `ManualFailureHostCharge`. -/
structure ManualFailureHostCharge where
  billingScopeId : Id
  subscriberId : Id
  targetId : Id
  deriving DecidableEq, Repr

/-- `ManualAttemptFailureHostTransitionOutcome`. -/
inductive ManualAttemptFailureHostTransitionOutcome
  | changed | unchanged
  deriving DecidableEq, Repr

/-- `ManualAttemptFailureHostStore`, by its answers: it writes the host's tables only. -/
structure ManualAttemptFailureHostStore where
  lockPaymentFailureTarget : ManualFailureHostCharge → Except StoreError Unit
  markPaymentFailed :
    ManualFailureHostCharge → Except StoreError ManualAttemptFailureHostTransitionOutcome

/-- `ManualFailureMode`. -/
inductive ManualFailureMode
  | ordinary (host : ManualAttemptFailureHostStore)
  | retryRenewal

/-- Whether a mode retries a renewal. -/
def ManualFailureMode.isRetryRenewal : ManualFailureMode → Bool
  | .ordinary _ => false
  | .retryRenewal => true

/-- Whether the failure of a renewal counts for its dunning schedule. -/
def PaymentAttempt.failsRenewal (a : PaymentAttempt) : Bool :=
  a.kind = .subscriptionRenewal ∧ a.submittedAt ≠ none ∧ a.resolutionCode = none

/-- `accepts`. -/
def ManualFailureMode.accepts (mode : ManualFailureMode) (a : PaymentAttempt) : Bool :=
  reviewRequiredAttemptCanBeManuallyFailed a && (!mode.isRetryRenewal || a.failsRenewal)

/-- `processor_charge_blocks_failure`. -/
def processorChargeBlocksFailure (mode : ManualFailureMode) (attemptId : Id) (db : Db) : Bool :=
  db.ledger.charges.any fun c =>
    c.attemptId = attemptId ∧ (mode.isRetryRenewal ∨ c.progression = .pending ∨
      c.progression = .reconciliationRequired ∨ c.progression = .externalReversalRequired)

/-- The row that `lock_retryable_subscription` and `expedite_retry` have in common. -/
def isSubscriptionOf (a : PaymentAttempt) (s : Subscription) : Bool :=
  a.target.subscriptionId = some s.id ∧ s.billingScopeId = a.billingScopeId ∧
    s.subscriberId = a.subscriberId ∧ a.periodStartAt = some s.nextRenewalAt ∧ s.unpaidAt = none

/-- `lock_retryable_subscription`. -/
def lockRetryableSubscription (now : Timestamp) (a : PaymentAttempt) (db : Db) : Bool :=
  db.subscriptions.any fun s =>
    isSubscriptionOf a s ∧ s.status.isBilled ∧ s.nextRenewalAt ≤ now ∧ s.nextPaymentAttemptAt ≠ none

/-- `INVALID_OPERATOR_STATE`. -/
def invalidOperatorState : StoreError := .invalidState "canonical operator review state is invalid"

/-- `MANUAL_ATTEMPT_FAILURE_NOTE`. -/
def manualAttemptFailureNote : String := "Manual review confirmed no processor transaction."

/-- `PAYMENT_METHOD_UPDATE_MANUAL_CLOSURE_NOTE`. -/
def paymentMethodUpdateManualClosureNote : String :=
  "Manual review closed payment method update without changing subscription."

/-- `PROCESSOR_RESPONSE_MARKER`. -/
def processorResponseMarker : String := "Processor response:"

/-- `payment_method_update_has_processor_evidence`. -/
def paymentMethodUpdateHasProcessorEvidence (e : ProcessorEvidence) : Bool :=
  e.hasGatewayReference || e.response.isSome || e.responseCode.isSome || e.condition.isSome ||
    e.descriptor.paymentType.isSome || e.descriptor.cardBrand.isSome ||
    e.descriptor.cardLastFour.isSome || e.descriptor.cardExpMonth.isSome ||
    e.descriptor.cardExpYear.isSome ||
    e.responseText.any fun text =>
      RustText.contains (RustText.toAsciiLowercase processorResponseMarker)
        (RustText.toAsciiLowercase (RustText.trim text)) || gatewayTextSaysApproved text

/-- `payment_method_update_manual_failure_response_text`; `sanitize` is `sanitize_gateway_detail`,
which redacts and bounds a diagnostic. -/
def paymentMethodUpdateManualFailureResponseText (sanitize : String → String)
    (existing : Option String) : String :=
  match (existing.map RustText.trim).filter (· ≠ "") with
  | none => sanitize paymentMethodUpdateManualClosureNote
  | some existing =>
    if RustText.contains paymentMethodUpdateManualClosureNote existing then
      sanitize existing
    else sanitize (existing ++ " " ++ paymentMethodUpdateManualClosureNote)

/-- `review_required_manual_failure_evidence`: a payment-method update keeps what the processor said
about it. -/
def reviewRequiredManualFailureEvidence (sanitize : String → String) (a : PaymentAttempt) :
    ProcessorEvidence :=
  if a.kind = .subscriptionPaymentMethodUpdate ∧
      paymentMethodUpdateHasProcessorEvidence a.evidence then
    { a.evidence with
      responseText :=
        some (paymentMethodUpdateManualFailureResponseText sanitize a.evidence.responseText) }
  else
    { a.evidence with
      responseText := some (sanitize manualAttemptFailureNote)
      condition := some "failed" }

/-- The row after its retry was brought forward. -/
def Subscription.expedited (now : Timestamp) (s : Subscription) : Subscription :=
  { s with nextPaymentAttemptAt := s.nextPaymentAttemptAt.map (min now), updatedAt := now }

/-- The one event of a failure with a retry, which carries the time that the retry was brought
forward to. -/
def expeditedEvents (attemptId : Id) (scheduledAt retryAt : Timestamp)
    (events : List BillingEvent) : Except StoreError (List BillingEvent) :=
  match events with
  | [.subscriptionPaymentFailed eventAttemptId subscriptionId planKey (.retryScheduled at_)
    access] =>
    if eventAttemptId = attemptId ∧ at_ = scheduledAt then
      .ok [.subscriptionPaymentFailed eventAttemptId subscriptionId planKey
        (.retryScheduled retryAt) access]
    else .error invalidOperatorState
  | _ => .error invalidOperatorState

/-- `expedite_retry`. -/
def expediteRetry (now : Timestamp) (a : PaymentAttempt) (scheduledAt : Timestamp)
    (events : List BillingEvent) : Program (List BillingEvent) := do
  updateOneSubscription invalidOperatorState
    (fun s => isSubscriptionOf a s && s.status = .pastDue &&
      s.nextPaymentAttemptAt = some scheduledAt)
    (·.expedited now)
  Tx.read fun _ => expeditedEvents a.id scheduledAt (min now scheduledAt) events

/-- The events of a manual failure, whose retry is brought forward in the mode for it. -/
def manualFailureEvents (now : Timestamp) (mode : ManualFailureMode) (a : PaymentAttempt)
    (application : RenewalFailureApplication) : Program (List BillingEvent) :=
  match application with
  | .applied (.retryScheduled retryAt) events =>
    if mode.isRetryRenewal then expediteRetry now a retryAt events else pure events
  | .applied _ events => pure events
  | .noop => pure []

/-- The dunning of a renewal that was failed manually. -/
def applyManualRenewalFailure (now : Timestamp) (mode : ManualFailureMode)
    (failed : PaymentAttempt) : Program Unit := do
  if failed.failsRenewal then
    let application ← applyRenewalFailure now failed
    let events ← manualFailureEvents now mode failed application
    appendEvents now events
  else pure ()

/-- The host's target of an attempt, in the mode that tells the host. -/
def ManualFailureMode.hostCharge (mode : ManualFailureMode) (a : PaymentAttempt) :
    Option (ManualAttemptFailureHostStore × ManualFailureHostCharge) :=
  match mode, a.target with
  | .ordinary host, .hostCharge targetId =>
    some (host, { billingScopeId := a.billingScopeId, subscriberId := a.subscriberId, targetId })
  | _, _ => none

/-- The lock of the host's target, which precedes that of the attempt. -/
def lockPaymentFailureTarget (mode : ManualFailureMode) (a : PaymentAttempt) : Program Unit :=
  match mode.hostCharge a with
  | none => pure ()
  | some (host, charge) => Tx.read fun _ => host.lockPaymentFailureTarget charge

/-- The host is told that the payment failed; its answer does not matter. -/
def markPaymentFailed (mode : ManualFailureMode) (a : PaymentAttempt) : Program Unit :=
  match mode.hostCharge a with
  | none => pure ()
  | some (host, charge) => Tx.read fun _ => (host.markPaymentFailed charge).map fun _ => ()

/-- The failure of an attempt under review, once nothing stands in its way. -/
def failManually (now : Timestamp) (sanitize : String → String) (mode : ManualFailureMode)
    (a : PaymentAttempt) : Program PaymentAttempt := do
  onAttempts (writeAttempt now invalidOperatorState a.id
    (.manualFailure (reviewRequiredManualFailureEvidence sanitize a)))
  markPaymentFailed mode a
  let failed ← requireAttempt invalidOperatorState a.billingScopeId a.id
  applyManualRenewalFailure now mode failed
  pure failed

/-- `ManualAttemptFailureOutcome`. -/
inductive ManualAttemptFailureOutcome
  | failed (attempt : PaymentAttempt)
  | keptOpen (attempt : PaymentAttempt)
  | notFound
  deriving DecidableEq, Repr

/-- Whether the locked attempt is the one that was loaded before: its identity and its request. -/
def PaymentAttempt.isSameAttempt (a b : PaymentAttempt) : Bool :=
  a.identity = b.identity ∧ a.target = b.target ∧ a.idempotencyKey = b.idempotencyKey ∧
    a.amount = b.amount ∧ a.gatewayOrderId = b.gatewayOrderId

/-- The transaction of `fail_review_required`, on the attempt that was loaded before it. -/
def failReviewRequiredLocked (now : Timestamp) (sanitize : String → String)
    (mode : ManualFailureMode) (preloaded : PaymentAttempt) :
    Program ManualAttemptFailureOutcome := do
  lockPaymentFailureTarget mode preloaded
  let found ← Tx.read fun db =>
    findPaymentAttemptById db.attempts preloaded.billingScopeId preloaded.id
  match found with
  | none => pure .notFound
  | some current =>
    let db ← get
    if current.isSameAttempt preloaded = false then throw invalidOperatorState
    else if mode.accepts current = false ∨ (current.kind ≠ .subscriptionPaymentMethodUpdate ∧
        processorChargeBlocksFailure mode current.id db) then pure (.keptOpen current)
    else if mode.isRetryRenewal ∧ lockRetryableSubscription now current db = false then
      pure (.keptOpen current)
    else .failed <$> failManually now sanitize mode current

/-- `fail_review_required`. The attempt is first loaded outside the transaction. -/
def failReviewRequired (now : Timestamp) (sanitize : String → String) (mode : ManualFailureMode)
    (preloaded : Option PaymentAttempt) : Program ManualAttemptFailureOutcome :=
  match preloaded with
  | none => pure .notFound
  | some preloaded =>
    if mode.accepts preloaded = false then pure (.keptOpen preloaded)
    else failReviewRequiredLocked now sanitize mode preloaded

/-! ## External reversal -/

/-- `attest_external_reversal`: the charge, and its attempt when the charge is the primary one. -/
def attestReversal (rules : TextRules) (now : Timestamp) (t : ReversalAttestation) :
    Program ExternalReversalAttestationOutcome := do
  match Table.findBy ProcessorCharge.id t.chargeId (← get).ledger.charges with
  | none => pure .notFound
  | some c =>
    let found ← Tx.read fun db => findPaymentAttemptById db.attempts c.billingScopeId c.attemptId
    match found with
    | none => pure .notFound
    | some a =>
      let outcome ← onLedger (attestExternalReversal rules now a t)
      if outcome = .attested ∧ c.role = .primary then
        onAttempts (writeAttempt now
          (.invalidState "eligible attempt did not accept external reversal") a.id
          (.attest (expectedFinalResolutionCode a.kind t.kind)))
        pure outcome
      else pure outcome

end SyrupRail
