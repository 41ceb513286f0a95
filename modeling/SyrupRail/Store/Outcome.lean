import SyrupRail.Store

/-!
# Applying an outcome that is not an approval

What an outcome of the gateway does to its attempt when it does not approve it, and how an approval
that cannot be applied is parked. The evidence of a declined, failed, or unknown outcome is
reconciled with what the attempt already holds, so that an outcome with another identity never
resolves it. An approval that arrived after its period ended is parked for good: no later outcome
resolves its attempt.
-/

namespace SyrupRail

/-! ## Reservations -/

/-- `OutcomeReservation`. -/
inductive OutcomeReservation
  | initial (reservation : SubscriptionEnrollmentReservation)
  | charge (reservation : SubscriptionChargeReservation)
  | replacement (reservation : SubscriptionPaymentMethodReplacement)
  deriving DecidableEq, Repr

/-- `identity`. -/
def OutcomeReservation.identity : OutcomeReservation → PaymentAttemptIdentity
  | .initial r => r.identity
  | .charge r => r.identity
  | .replacement r => r.identity

/-- `matches_attempt`. -/
def OutcomeReservation.matchesAttempt (r : OutcomeReservation) (a : PaymentAttempt) : Bool :=
  match r with
  | .initial r => r.matchesAttempt a
  | .charge r => r.matchesAttempt a
  | .replacement r => r.matchesAttempt a

/-- `preserves_review_required_for_unknown`. -/
def OutcomeReservation.preservesReviewRequiredForUnknown : OutcomeReservation → Bool
  | .replacement _ => true
  | .initial _ | .charge _ => false

/-- `lock_expected_reservation_attempt`. -/
def lockExpectedReservationAttempt (r : OutcomeReservation) : Program PaymentAttempt := do
  let a ← requireAttempt invalidApplicationState r.identity.billingScopeId r.identity.attemptId
  if r.matchesAttempt a then pure a else throw invalidApplicationState

/-- `payment_result_for_reservation_attempt`. -/
def paymentResultForReservationAttempt (r : OutcomeReservation) : Program PaymentAttempt := do
  let a ← requireAttempt invalidApplicationState r.identity.billingScopeId r.identity.attemptId
  paymentResultForAttempt a

/-! ## Identities of the processor -/

/-- `identifiers_conflict`. -/
def identifiersConflict (persisted observed : Option String) : Bool :=
  match persisted, observed with
  | some persisted, some observed => persisted ≠ observed
  | _, _ => false

/-- Whether `processor_identity_conflict_diagnostics` is not empty. -/
def processorIdentityConflict (a : PaymentAttempt) (observed : ProcessorEvidence) : Bool :=
  identifiersConflict a.evidence.transactionId observed.transactionId ||
    identifiersConflict a.evidence.paymentMethodReference observed.paymentMethodReference

/-- `same_processor_transaction`. -/
def sameProcessorTransaction (a : PaymentAttempt) (observed : ProcessorEvidence) : Bool :=
  a.evidence.transactionId.isSome && a.evidence.transactionId = observed.transactionId

/-- The identities of the reconciled evidence: a partial identity of another observation is not
spliced onto an established one. -/
def reconciledIdentity (persisted observed : ProcessorEvidence) : Option String × Option String :=
  match observed.transactionId, observed.paymentMethodReference with
  | some tx, some reference => (some tx, some reference)
  | some tx, none =>
    if persisted.transactionId = some tx then (some tx, persisted.paymentMethodReference)
    else if persisted.hasGatewayReference then
      (persisted.transactionId, persisted.paymentMethodReference)
    else (some tx, none)
  | none, some reference =>
    if persisted.paymentMethodReference = some reference then
      (persisted.transactionId, some reference)
    else if persisted.hasGatewayReference then
      (persisted.transactionId, persisted.paymentMethodReference)
    else (none, some reference)
  | none, none => (persisted.transactionId, persisted.paymentMethodReference)

/-- The evidence of `reconcile_non_approved_evidence`. -/
def reconcileNonApprovedEvidence (a : PaymentAttempt) (observed : ProcessorEvidence) :
    ProcessorEvidence :=
  if !a.status.isResolvable then observed
  else if processorIdentityConflict a observed then a.evidence
  else
    { observed with
      transactionId := (reconciledIdentity a.evidence observed).1
      paymentMethodReference := (reconciledIdentity a.evidence observed).2 }

/-! ## Resolution -/

/-- `OutcomeResolutionBoundary`. -/
inductive OutcomeResolutionBoundary
  | prepared | admittedNotSubmitted | submitted
  deriving DecidableEq, Repr

/-- `OutcomeResolutionKind`. -/
inductive OutcomeResolutionKind
  | nonApproved | unknown
  deriving DecidableEq, Repr

/-- `OutcomeResolutionCommand`. The cooldown of a rate limit is committed on its own. -/
structure OutcomeResolutionCommand where
  kind : OutcomeResolutionKind
  status : AttemptResolutionStatus
  resolutionCode : Option PaymentResolutionCode
  boundary : OutcomeResolutionBoundary
  deriving DecidableEq, Repr

namespace OutcomeResolutionCommand

/-- `OutcomeResolutionCommand::unknown`. -/
def unknown : OutcomeResolutionCommand where
  kind := .unknown
  status := .unknown
  resolutionCode := none
  boundary := .submitted

/-- A declined or failed outcome of a submission. -/
def determinate (status : AttemptResolutionStatus) : OutcomeResolutionCommand where
  kind := .nonApproved
  status := status
  resolutionCode := none
  boundary := .submitted

/-- A failure before the submission. -/
def notSubmitted (code : PaymentResolutionCode) (boundary : OutcomeResolutionBoundary) :
    OutcomeResolutionCommand where
  kind := .nonApproved
  status := .failed
  resolutionCode := some code
  boundary := boundary

/-- `may_resolve`. -/
def mayResolve (c : OutcomeResolutionCommand) (a : PaymentAttempt) : Bool :=
  a.status.isResolvable &&
    match c.boundary with
    | .prepared => a.submittedAt.isNone
    | .admittedNotSubmitted => a.submittedAt.isSome
    | .submitted => true

/-- `resolved_status`: an unknown outcome leaves the update of a payment method under review. -/
def resolvedStatus (c : OutcomeResolutionCommand) (r : OutcomeReservation)
    (current : PaymentAttemptStatus) : AttemptResolutionStatus :=
  if c.kind = .unknown ∧ r.preservesReviewRequiredForUnknown ∧ current = .reviewRequired then
    .reviewRequired
  else c.status

/-- `records_pending_evidence`. -/
def recordsPendingEvidence (c : OutcomeResolutionCommand) : Bool :=
  c.kind = .unknown && c.status ≠ .reviewRequired

/-- `marks_renewal_past_due`, of an outcome without a code. -/
def marksRenewalPastDue (c : OutcomeResolutionCommand) : Bool :=
  c.boundary = .submitted ∧ (c.status = .declined ∨ c.status = .failed) ∧ c.resolutionCode = none

/-- The writer of a resolution: `AdmittedNotSubmitted` also clears the submission. -/
def writer (c : OutcomeResolutionCommand) (evidence : ProcessorEvidence) : AttemptWriter :=
  if c.boundary = .admittedNotSubmitted then
    .resolveNotSubmitted evidence c.status c.resolutionCode
  else .persist evidence (.resolved c.status c.resolutionCode)

end OutcomeResolutionCommand

/-- `is_parked_expired_period_approval`. -/
def isParkedExpiredPeriodApproval (a : PaymentAttempt) : Bool :=
  a.status = .reviewRequired ∧ a.resolutionCode = some .subscriptionApprovedPeriodExpired

/-- The resolution of a locked attempt: an outcome with a conflicting identity is an unknown one. -/
def effectiveResolution (a : PaymentAttempt) (observed : ProcessorEvidence)
    (c : OutcomeResolutionCommand) : OutcomeResolutionCommand :=
  if processorIdentityConflict a observed then .unknown else c

/-- Whether a resolution is applied to a locked attempt. -/
def resolutionApplies (a : PaymentAttempt) (c : OutcomeResolutionCommand) : Bool :=
  !isParkedExpiredPeriodApproval a && c.mayResolve a

/-- `resolve_locked_outcome`. -/
def resolveLockedOutcome (now : Timestamp) (newChargeId : Id) (r : OutcomeReservation)
    (a : PaymentAttempt) (observed : ProcessorEvidence) (c : OutcomeResolutionCommand) :
    Program PaymentAttempt := do
  let evidence := reconcileNonApprovedEvidence a observed
  let c := effectiveResolution a observed c
  let c := { c with status := c.resolvedStatus r a.status }
  if resolutionApplies a c then
    persist now a.id (c.writer evidence)
    if c.recordsPendingEvidence ∧ evidence.indicatesApprovedPayment then
      let _ ← observe now newChargeId a evidence .pending
      paymentResultForReservationAttempt r
    else paymentResultForReservationAttempt r
  else paymentResultForReservationAttempt r

/-- `resolve_pool_outcome`. -/
def resolvePoolOutcome (now : Timestamp) (newChargeId : Id) (r : OutcomeReservation)
    (observed : ProcessorEvidence) (c : OutcomeResolutionCommand) : Program PaymentAttempt := do
  let a ← lockExpectedReservationAttempt r
  resolveLockedOutcome now newChargeId r a observed c

/-- `apply_resolved_automatic_renewal_failure`, on the store. -/
def applyRenewalFailure (now : Timestamp) (a : PaymentAttempt) :
    Program RenewalFailureApplication :=
  do
  let attempts := (← get).attempts
  onSubscriptions (applyResolvedAutomaticRenewalFailure now attempts a)

/-- The events of an applied failure. -/
def RenewalFailureApplication.events : RenewalFailureApplication → List BillingEvent
  | .applied _ events => events
  | .noop => []

/-- `resolve_renewal_non_approved_outcome`: a determinate failure after submission also moves the
subscription along its dunning schedule. -/
def resolveRenewalNonApprovedOutcome (now : Timestamp) (r : SubscriptionChargeReservation)
    (observed : ProcessorEvidence) (c : OutcomeResolutionCommand) : Program PaymentAttempt := do
  let a ← lockExpectedReservationAttempt (.charge r)
  let evidence := reconcileNonApprovedEvidence a observed
  let c := effectiveResolution a observed c
  if resolutionApplies a c then
    persist now a.id (c.writer evidence)
    if c.marksRenewalPastDue then
      let resolved ← requireAttempt invalidApplicationState r.identity.billingScopeId
        r.identity.attemptId
      let application ← applyRenewalFailure now resolved
      let result ← paymentResultForReservationAttempt (.charge r)
      appendEvents now application.events
      pure result
    else paymentResultForReservationAttempt (.charge r)
  else paymentResultForReservationAttempt (.charge r)

/-- `restore_admitted_attempt_for_retry`. -/
def restoreAdmittedAttemptForRetry (now : Timestamp) (r : OutcomeReservation) :
    Program PaymentAttempt := do
  let a ← lockExpectedReservationAttempt r
  if a.status = .pending ∧ a.submittedAt ≠ none then
    persist now a.id .restore
    paymentResultForReservationAttempt r
  else paymentResultForReservationAttempt r

/-! ## Parking -/

/-- `PERIOD_EXPIRED_APPROVAL_TEXT`. -/
def periodExpiredApprovalText : String :=
  "Approved subscription payment arrived after its billing period ended; external reversal is " ++
    "required."

/-- `park_locked_attempt`: only a pending attempt without an identity adopts the observation. -/
def parkLockedAttempt (now : Timestamp) (a : PaymentAttempt) (evidence : ProcessorEvidence)
    (code : Option PaymentResolutionCode) (message : String) : Program PaymentAttempt := do
  let durable :=
    if a.status = .pending ∧ a.evidence.hasGatewayReference = false then evidence else a.evidence
  persist now a.id (.persist durable (.lateApprovalReview code message))
  requireAttempt invalidApplicationState a.billingScopeId a.id

/-- The progressions from which an expired approval is moved. -/
def expiredApprovalExpected : List ProcessorChargeProgression :=
  [.pending, .reconciliationRequired, .externalReversalRequired]

/-- The transition of a charge whose period has expired. -/
def moveExpiredCharge (now : Timestamp) (chargeId : Id) : Program Unit :=
  onCharges fun charges =>
    (transitionProcessorCharge now chargeId expiredApprovalExpected .externalReversalRequired
      (.replace (some (.paymentResolution .subscriptionApprovedPeriodExpired))) charges).map (·, ())

/-- `park_expired_period_approval`. -/
def parkExpiredPeriodApproval (now : Timestamp) (a : PaymentAttempt) (chargeId : Id)
    (evidence : ProcessorEvidence) : Program PaymentAttempt := do
  moveExpiredCharge now chargeId
  parkLockedAttempt now a evidence (some .subscriptionApprovedPeriodExpired)
    periodExpiredApprovalText

/-- The charge that an expired period gives its typed disposition: the identified primary charge of
an attempt that is neither approved nor parked. -/
def expiredPrimaryCharge (now : Timestamp) (a : PaymentAttempt) (observation : ObservedCharge)
    (evidence : ProcessorEvidence) (expiredPeriodEnd : Option Timestamp) : Option ChargeRecord :=
  match observation with
  | .ownedByOtherAttempt => none
  | .owned charge =>
    if expiredPeriodEnd.any (periodHasExpired now) ∧ a.status ≠ .approved ∧
        isParkedExpiredPeriodApproval a = false ∧ evidence.transactionId ≠ none ∧
        charge.role = .primary then some charge
    else none

/-- `park_observed_approval_if_period_expired`: a terminal attempt keeps its status. -/
def parkObservedApprovalIfPeriodExpired (now : Timestamp) (a : PaymentAttempt)
    (observation : ObservedCharge) (evidence : ProcessorEvidence)
    (expiredPeriodEnd : Option Timestamp) : Program (Option PaymentAttempt) := do
  match expiredPrimaryCharge now a observation evidence expiredPeriodEnd with
  | none => pure none
  | some charge =>
    if a.status.isTerminal then
      if chargeIsExternallyReversed charge.id (← get) then pure none
      else do
        moveExpiredCharge now charge.id
        pure none
    else some <$> parkExpiredPeriodApproval now a charge.id evidence

/-- `park_compensated_approved_attempt`: an attempt that is parked for an expired period keeps that
disposition. -/
def parkCompensatedApprovedAttempt (now : Timestamp) (newChargeId : Id) (a : PaymentAttempt)
    (evidence : ProcessorEvidence) (message : String) (expiredPeriodEnd : Option Timestamp) :
    Program PaymentAttempt := do
  if isParkedExpiredPeriodApproval a then
    let _ ← observe now newChargeId a evidence .externalReversalRequired
    pure a
  else
    let observation ← observe now newChargeId a evidence .pending
    match ← parkObservedApprovalIfPeriodExpired now a observation evidence expiredPeriodEnd with
    | some parked => pure parked
    | none => parkLockedAttempt now a evidence none message

end SyrupRail
