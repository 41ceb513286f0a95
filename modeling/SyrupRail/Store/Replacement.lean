import SyrupRail.Store.Approval
import SyrupRail.Store.Reserve

/-!
# Replacing a payment method

An update of a subscription's stored method is an attempt of no amount: it is reserved, admitted,
and resolved like a charge, and its approval rebinds the subscription to the method that the
processor has stored. It never moves a period. A reconciled approval is compared with what the
attempt already holds before it is applied, and one whose identity conflicts is only recorded.
-/

namespace SyrupRail

/-! ## Reservation -/

/-- `ReplaceSubscriptionPaymentMethod`. `contactMatches` is whether the billing contact is the one
of the attempt that the key already belongs to. -/
structure ReplaceSubscriptionPaymentMethod where
  attemptId : Id
  billingScopeId : Id
  subscriberId : Id
  planKey : String
  gatewayConfigurationId : Id
  idempotencyKey : String
  contactMatches : Bool
  deriving DecidableEq, Repr

/-- `SubscriptionPaymentMethodReplacementRejection`. -/
inductive ReplacementRejection
  | subscriptionNotFound | subscriptionIneligible | gatewayAccountModeChanged
  | chargeAttemptInProgress | paymentMethodUpdateInProgress | gatewayConfigurationChanged
  deriving DecidableEq, Repr

/-- `SubscriptionPaymentMethodReplacementReservationOutcome`. -/
inductive ReplacementReservationOutcome
  | reserved (reservation : SubscriptionPaymentMethodReplacement) (attempt : PaymentAttempt)
  | replay (attempt : PaymentAttempt)
  | idempotencyConflict
  | rejected (rejection : ReplacementRejection)
  deriving DecidableEq, Repr

/-- `payment_method_replacement_attempt_matches_command`; a stored fingerprint is that of its own
target. -/
def replacementAttemptMatchesCommand (a : PaymentAttempt)
    (command : ReplaceSubscriptionPaymentMethod) : Bool :=
  a.kind = .subscriptionPaymentMethodUpdate ∧ a.billingScopeId = command.billingScopeId ∧
    a.subscriberId = command.subscriberId ∧
    a.gatewayConfigurationId = command.gatewayConfigurationId ∧
    a.target.planKey = some command.planKey ∧ command.contactMatches

/-- `payment_method_replacement_attempt_matches_replay_context`. -/
def replacementAttemptMatchesReplayContext (a : PaymentAttempt) (db : Db) : Bool :=
  match a.target with
  | .subscriptionPaymentMethodUpdate planKey expected =>
    db.subscriptions.any fun s =>
      s.id = expected.subscriptionId ∧ s.billingScopeId = a.billingScopeId ∧
        s.subscriberId = a.subscriberId ∧ s.gatewayAccountId = a.gatewayAccountId ∧
        s.planKey = planKey ∧ s.requiredGatewayAccountMode = a.requiredGatewayAccountMode ∧
        ((s.status.isBilled ∧ s.paymentMethodId = expected.paymentMethodId ∧
            s.initialTransactionId = expected.initialTransactionId) ∨
          (a.status = .approved ∧ a.paymentMethodId = some s.paymentMethodId ∧
            a.evidence.transactionId = some s.initialTransactionId))
  | _ => false

/-- The answer to a replay of an update. -/
def replacementReplayOutcome (mode : GatewayAccountMode) (a : PaymentAttempt) :
    ReplacementReservationOutcome :=
  if a.isPrepared ∧ a.requiredGatewayAccountMode ≠ mode then .rejected .gatewayAccountModeChanged
  else .replay a

/-- `payment_method_replacement_reservation_replay_outcome`. -/
def replacementReservationReplayOutcome (now : Timestamp) (mode : GatewayAccountMode)
    (a : PaymentAttempt) : Program ReplacementReservationOutcome := do
  if a.isCanonical then pure (replacementReplayOutcome mode a)
  else
    match a.target.subscriptionId with
    | none => throw invalidAttemptState
    | some subscriptionId =>
      failStaleUnsubmittedPaymentMethodUpdates now true subscriptionId
      let a ← requireAttempt invalidAttemptState a.billingScopeId a.id
      if a.isCanonical ∨ replacementAttemptMatchesReplayContext a (← get) then
        pure (replacementReplayOutcome mode a)
      else pure .idempotencyConflict

/-- The answer to a command whose key is already an attempt's. -/
def answerExistingReplacement (now : Timestamp) (mode : GatewayAccountMode)
    (command : ReplaceSubscriptionPaymentMethod) (a : PaymentAttempt) :
    Program ReplacementReservationOutcome :=
  if replacementAttemptMatchesCommand a command then
    replacementReservationReplayOutcome now mode a
  else pure .idempotencyConflict

/-- The subscription that an update is for: `ORDER BY updated_at DESC, id DESC`. -/
def replacementSubscription (command : ReplaceSubscriptionPaymentMethod) (db : Db) :
    Option Subscription :=
  ((db.subscriptions.filter fun s =>
    s.billingScopeId = command.billingScopeId ∧ s.subscriberId = command.subscriberId ∧
      s.planKey = command.planKey).insertionSort fun s s' =>
        s'.updatedAt < s.updatedAt ∨ (s'.updatedAt = s.updatedAt ∧ s'.id ≤ s.id)).head?

/-- `blocking_subscription_charge_attempt_exists_for_method_replacement`: a charge under review does
not stand in the way. -/
def blockingChargeExistsForReplacement (subscriptionId : Id) (db : Db) : Bool :=
  db.attempts.any fun a =>
    a.subscriptionId = some subscriptionId ∧ a.isSubscriptionCharge ∧
      (a.status = .pending ∨ a.status = .unknown ∨ a.status = .approved) ∧
      (Table.findBy Subscription.id subscriptionId db.subscriptions).any fun s =>
        a.periodStartAt = some s.nextRenewalAt

/-- `blocking_payment_method_update_exists_except`. -/
def blockingPaymentMethodUpdateExistsExcept (subscriptionId excludedAttemptId : Id) (db : Db) :
    Bool :=
  db.attempts.any fun a =>
    a.subscriptionId = some subscriptionId ∧ a.id ≠ excludedAttemptId ∧
      a.kind = .subscriptionPaymentMethodUpdate ∧ a.status.isResolvable

/-- `from_locked_subscription_terms`: the reservation of an update of the subscription's method. -/
def Subscription.replacement (s : Subscription) (gateway : ResolvedGateway) (attemptId : Id)
    (idempotencyKey : String) : SubscriptionPaymentMethodReplacement where
  identity :=
    { attemptId
      billingScopeId := s.billingScopeId
      subscriberId := s.subscriberId
      gatewayAccountId := s.gatewayAccountId
      gatewayConfigurationId := gateway.gatewayConfigurationId
      requiredGatewayAccountMode := s.requiredGatewayAccountMode }
  providerKey := gateway.providerKey
  planKey := s.planKey
  paymentMethodId := s.paymentMethodId
  expected :=
    { subscriptionId := s.id
      paymentMethodId := s.paymentMethodId
      initialTransactionId := s.initialTransactionId }
  idempotencyKey := idempotencyKey
  amount := { s.amount with cents := 0 }
  gatewayOrderId := gateway.forAttempt .subscriptionPaymentMethodUpdate attemptId

/-- The values of `insert_payment_method_replacement_attempt`, which inserts no amount. -/
def SubscriptionPaymentMethodReplacement.newAttempt (now : Timestamp)
    (r : SubscriptionPaymentMethodReplacement) : NewAttempt where
  id := r.identity.attemptId
  billingScopeId := r.identity.billingScopeId
  subscriberId := r.identity.subscriberId
  gatewayAccountId := r.identity.gatewayAccountId
  gatewayConfigurationId := r.identity.gatewayConfigurationId
  requiredGatewayAccountMode := r.identity.requiredGatewayAccountMode
  target := r.target
  idempotencyKey := r.idempotencyKey
  amount := { r.amount with cents := 0 }
  gatewayOrderId := r.gatewayOrderId
  paymentMethodId := r.expected.paymentMethodId
  createdAt := now
  amount_fits := ⟨fun _ => rfl, fun _ => rfl⟩

/-- The gates of an update that follow the expiries. -/
def replacementGate (expected : ExpectedGatewayIdentity) (s : Subscription) (db : Db) :
    Option ReplacementRejection :=
  if blockingChargeExistsForReplacement s.id db then some .chargeAttemptInProgress
  else if blockingPaymentMethodUpdateExists s.id db then some .paymentMethodUpdateInProgress
  else if s.gatewayAccountId ≠ expected.gatewayAccountId ∨
      gatewayIdentityMatchesAccount expected db = false then
    some .gatewayConfigurationChanged
  else none

/-- The insertion of an update whose gates passed. -/
def insertReplacement (now : Timestamp) (mode : GatewayAccountMode) (gateway : ResolvedGateway)
    (command : ReplaceSubscriptionPaymentMethod) (s : Subscription) :
    Program ReplacementReservationOutcome := do
  let r := s.replacement gateway command.attemptId command.idempotencyKey
  if gateway.billingScopeId ≠ command.billingScopeId ∨
      gateway.gatewayConfigurationId ≠ command.gatewayConfigurationId ∨
      s.gatewayAccountId ≠ gateway.gatewayAccountId then throw invalidAttemptState
  else
    let inserted ← insertOrIgnore (r.newAttempt now)
    let existing ← Tx.read (paymentAttemptByIdempotency command.billingScopeId command.subscriberId
      command.idempotencyKey)
    match existing with
    | some a =>
      if inserted then pure (.reserved r a) else answerExistingReplacement now mode command a
    | none =>
      if inserted then throw invalidAttemptState
      else pure (.rejected .paymentMethodUpdateInProgress)

/-- `reserve_subscription_payment_method_replacement_in_transaction`. -/
def reservePaymentMethodReplacement (now : Timestamp) (mode : GatewayAccountMode)
    (gateway : ResolvedGateway) (command : ReplaceSubscriptionPaymentMethod) :
    Program ReplacementReservationOutcome := do
  let existing ← Tx.read (paymentAttemptByIdempotency command.billingScopeId command.subscriberId
    command.idempotencyKey)
  match existing with
  | some a => answerExistingReplacement now mode command a
  | none =>
    match replacementSubscription command (← get) with
    | none => pure (.rejected .subscriptionNotFound)
    | some s =>
      if s.status.isBilled = false then pure (.rejected .subscriptionIneligible)
      else if s.requiredGatewayAccountMode ≠ mode then
        pure (.rejected .gatewayAccountModeChanged)
      else
        expireStaleAttempts now s.id
        let expected : ExpectedGatewayIdentity :=
          { billingScopeId := command.billingScopeId
            gatewayAccountId := gateway.gatewayAccountId
            gatewayConfigurationId := command.gatewayConfigurationId
            providerKey := gateway.providerKey }
        match replacementGate expected s (← get) with
        | some rejection => pure (.rejected rejection)
        | none => insertReplacement now mode gateway command s

/-! ## Admission -/

/-- `SubscriptionPaymentMethodReplacementSubmissionRejection`. -/
inductive ReplacementSubmissionRejection
  | billingStateChanged | gatewayConfigurationChanged
  deriving DecidableEq, Repr

/-- The code of a rejection. -/
def ReplacementSubmissionRejection.code : ReplacementSubmissionRejection → PaymentResolutionCode
  | .billingStateChanged => .subscriptionRenewalRetryStateChangedBeforeCharge
  | .gatewayConfigurationChanged => .gatewayConfigurationBeforeSubmission

/-- `PAYMENT_METHOD_REPLACEMENT_STATE_CHANGED_TEXT` and
`PAYMENT_METHOD_REPLACEMENT_CONFIGURATION_CHANGED_TEXT`. -/
def ReplacementSubmissionRejection.text : ReplacementSubmissionRejection → String
  | .billingStateChanged =>
    "Payment method replacement was canceled before submission because billing state changed."
  | .gatewayConfigurationChanged =>
    "Payment method replacement was canceled before submission because payment configuration " ++
      "changed."

/-- `SubscriptionPaymentMethodReplacementSubmissionOutcome`. -/
inductive ReplacementSubmissionOutcome
  | admitted (attempt : PaymentAttempt)
  | alreadyAdmitted (attempt : PaymentAttempt)
  | rejected (attempt : PaymentAttempt) (rejection : ReplacementSubmissionRejection)
  deriving DecidableEq, Repr

/-- `payment_method_replacement_subscription_state_matches`. -/
def SubscriptionPaymentMethodReplacement.subscriptionStateMatches
    (r : SubscriptionPaymentMethodReplacement) (db : Db) : Bool :=
  db.subscriptions.any fun s => r.locates s ∧ r.isEligible s ∧ r.baselineMatches s

/-- The checks of an admission, in their order. -/
def SubscriptionPaymentMethodReplacement.submissionRejection
    (r : SubscriptionPaymentMethodReplacement) (a : PaymentAttempt) (db : Db) :
    Option ReplacementSubmissionRejection :=
  if ¬ (r.requestMatches a ∧ r.subscriptionStateMatches db ∧
      blockingChargeExistsForReplacement r.expected.subscriptionId db = false ∧
      blockingPaymentMethodUpdateExistsExcept r.expected.subscriptionId r.identity.attemptId db =
        false) then
    some .billingStateChanged
  else if gatewayIdentityMatchesAccount
      { billingScopeId := r.identity.billingScopeId
        gatewayAccountId := r.identity.gatewayAccountId
        gatewayConfigurationId := r.identity.gatewayConfigurationId
        providerKey := r.providerKey } db = false then
    some .gatewayConfigurationChanged
  else none

/-- `admit_subscription_payment_method_replacement_in_transaction`. -/
def admitReplacement (now : Timestamp) (r : SubscriptionPaymentMethodReplacement) :
    Program ReplacementSubmissionOutcome := do
  expireStaleAttempts now r.expected.subscriptionId
  let found ← Tx.read (paymentAttemptByIdempotency r.identity.billingScopeId
    r.identity.subscriberId r.idempotencyKey)
  match found with
  | none => throw invalidAttemptState
  | some a =>
    if r.owns a = false then throw invalidAttemptState
    else if a.isPrepared = false then pure (.alreadyAdmitted a)
    else
      match r.submissionRejection a (← get) with
      | some rejection =>
        let a ← writeAdmission now a (.reject rejection.code rejection.text)
        pure (.rejected a rejection)
      | none => .admitted <$> writeAdmission now a .admitPrepared

/-! ## Approval -/

/-- The replacement of a subscription's payment method, by an approved update of it. -/
def Subscription.withPaymentMethod (now : Timestamp) (methodId : Id) (tx : String)
    (s : Subscription) : Subscription :=
  { s with paymentMethodId := methodId, initialTransactionId := tx, updatedAt := now }

/-- The message of an approval after the first. -/
def additionalStoredMethodText : String :=
  "An additional approved stored-method result requires manual review."

/-- `PAYMENT_METHOD_REPLACEMENT_STALE_STATE_TEXT`. -/
def replacementStaleStateText : String :=
  "Approved payment method replacement could not attach because the subscription changed."

/-- The event of a replaced method, without its card. -/
def SubscriptionPaymentMethodReplacement.changedEvent (r : SubscriptionPaymentMethodReplacement) :
    BillingEvent :=
  .paymentMethodChanged r.identity.attemptId r.expected.subscriptionId r.planKey

/-- An approval that is parked because its subscription has changed. -/
def parkStaleReplacement (now : Timestamp) (a : PaymentAttempt) (chargeId : Id)
    (evidence : ProcessorEvidence) (code : PaymentResolutionCode) : Program PaymentAttempt := do
  moveCharge now chargeId .reconciliationRequired (some code)
  parkLockedAttempt now a evidence (some code) replacementStaleStateText

/-- The binding of a subscription to its new method: the `UPDATE` that is made unless the
subscription already has it. -/
def rebindSubscription (now : Timestamp) (r : SubscriptionPaymentMethodReplacement)
    (baselineMatches : Bool) (methodId : Id) (tx : String) : Program Unit :=
  if baselineMatches then
    updateOneSubscription invalidApplicationState
      (fun s => r.locates s ∧ r.isEligible s ∧ r.baselineMatches s)
      (·.withPaymentMethod now methodId tx)
  else pure ()

/-- The application of an approval to a subscription that has its method of before, or already the
new one. -/
def applyReplacement (now : Timestamp) (r : SubscriptionPaymentMethodReplacement)
    (a : PaymentAttempt) (evidence : ProcessorEvidence) (chargeId : Id) (baselineMatches : Bool)
    (methodId : Id) (tx : String) : Program PaymentAttempt := do
  rebindSubscription now r baselineMatches methodId tx
  markAttemptApproved now a evidence r.expected.subscriptionId methodId
  disablePaymentMethodIfUnreferenced r.expected.paymentMethodId
  moveCharge now chargeId .applied none
  let approved ← requireAttempt invalidApplicationState r.identity.billingScopeId
    r.identity.attemptId
  if loadSubscription r.identity.billingScopeId r.expected.subscriptionId (← get) = none then
    throw invalidApplicationState
  else
    appendEvents now [r.changedEvent]
    pure approved

/-- The approval of an update that is still open. -/
def applyOpenReplacementApproval (now : Timestamp) (ids : NewIds)
    (r : SubscriptionPaymentMethodReplacement) (a : PaymentAttempt) (evidence : ProcessorEvidence) :
    Program PaymentAttempt := do
  match ← observe now ids.charge a evidence .pending with
  | .ownedByOtherAttempt => parkLockedAttempt now a evidence none ownedByOtherAttemptText
  | .owned charge =>
    if charge.role = .additional then
      moveCharge now charge.id .reconciliationRequired none
      parkLockedAttempt now a evidence none additionalStoredMethodText
    else
      match evidence.transactionId with
      | none => throw invalidApplicationState
      | some tx =>
        let methodId ← upsertPaymentMethod ids.method a evidence
        match (← get).subscriptions.find? r.locates with
        | none =>
          parkStaleReplacement now a charge.id evidence
            .subscriptionApprovedPaymentMethodUpdateSubscriptionIneligible
        | some s =>
          if r.isEligible s = false then
            parkStaleReplacement now a charge.id evidence
              .subscriptionApprovedPaymentMethodUpdateSubscriptionIneligible
          else if r.baselineMatches s = false ∧
              ¬ (s.paymentMethodId = methodId ∧ s.initialTransactionId = tx) then
            parkStaleReplacement now a charge.id evidence
              .subscriptionApprovedPaymentMethodUpdateStaleState
          else applyReplacement now r a evidence charge.id (r.baselineMatches s) methodId tx

/-- `apply_locked_payment_method_replacement_approved_outcome`. -/
def applyLockedReplacementApproved (now : Timestamp) (ids : NewIds) (liveRecipient : Bool)
    (r : SubscriptionPaymentMethodReplacement) (a : PaymentAttempt) (evidence : ProcessorEvidence) :
    Program PaymentAttempt := do
  match ← stopConflictingSubscriptionApproval now ids.charge a evidence with
  | some payment => pure payment
  | none =>
    if a.status = .approved then
      if loadAppliedSubscription a (← get) = none then throw invalidApplicationState
      else
        let _ ← observe now ids.charge a evidence
          (if a.evidence.transactionId = evidence.transactionId then .applied
            else .reconciliationRequired)
        pure a
    else if liveRecipient = false then
      throw (.invalidState "a payment method replacement event requires a live recipient")
    else if a.status.isTerminal then
      let _ ← observe now ids.charge a evidence .reconciliationRequired
      pure a
    else applyOpenReplacementApproval now ids r a evidence

/-- `apply_payment_method_replacement_approved_on_connection`. -/
def applyReplacementApproved (now : Timestamp) (ids : NewIds) (liveRecipient : Bool)
    (r : SubscriptionPaymentMethodReplacement) (evidence : ProcessorEvidence) :
    Program PaymentAttempt := do
  let a ← lockExpectedReservationAttempt (.replacement r)
  applyLockedReplacementApproved now ids liveRecipient r a evidence

/-- `park_locked_payment_method_replacement_approved_outcome`. -/
def parkLockedReplacementApproved (now : Timestamp) (newChargeId : Id) (a : PaymentAttempt)
    (evidence : ProcessorEvidence) (message : String) : Program PaymentAttempt := do
  if a.status = .approved then
    let _ ← observe now newChargeId a evidence .applied
    paymentResultForAttempt a
  else if a.status.isTerminal then
    let _ ← observe now newChargeId a evidence .reconciliationRequired
    paymentResultForAttempt a
  else
    let parked ← match ← observe now newChargeId a evidence .pending with
      | .owned _ => parkLockedAttempt now a evidence none message
      | .ownedByOtherAttempt => parkLockedAttempt now a evidence none ownedByOtherAttemptText
    paymentResultForAttempt parked

/-- `try_park_payment_method_replacement_approved_outcome`. -/
def tryParkReplacementApproved (now : Timestamp) (newChargeId : Id)
    (r : SubscriptionPaymentMethodReplacement) (evidence : ProcessorEvidence) (message : String) :
    Program PaymentAttempt := do
  let a ← lockExpectedReservationAttempt (.replacement r)
  parkLockedReplacementApproved now newChargeId a evidence message

/-- `observe_payment_method_replacement_approved_evidence_with_retry`, of one try. -/
def observeReplacementApproved (now : Timestamp) (newChargeId : Id)
    (r : SubscriptionPaymentMethodReplacement) (evidence : ProcessorEvidence) : Program Unit := do
  let a ← lockExpectedReservationAttempt (.replacement r)
  let _ ← observe now newChargeId a evidence .pending
  pure ()

/-! ## Reconciliation -/

/-- Whether a reconciled approval conflicts with what an open attempt holds, or was itself diagnosed
with an invalid or conflicting identity. -/
def replacementIdentityConflict (a : PaymentAttempt) (observed : ProcessorEvidence)
    (diagnosed : Bool) : Bool :=
  a.status.isResolvable ∧ (processorIdentityConflict a observed ∨ diagnosed)

/-- A conflicting approval of a reconciliation: it is recorded, and the attempt becomes an unknown
one with the evidence that it holds. -/
def recordConflictingReplacement (now : Timestamp) (newChargeId pendingChargeId : Id)
    (r : SubscriptionPaymentMethodReplacement) (a : PaymentAttempt) (evidence : ProcessorEvidence) :
    Program PaymentAttempt := do
  let _ ← observe now newChargeId a evidence .reconciliationRequired
  resolveLockedOutcome now pendingChargeId (.replacement r) a a.evidence .unknown

/-- Whether an approval lacks the identities that a rebinding needs. -/
def ProcessorEvidence.missesStoredMethod (evidence : ProcessorEvidence) : Bool :=
  evidence.transactionId = none ∨ evidence.paymentMethodReference = none

/-- `PAYMENT_METHOD_REPLACEMENT_INCOMPLETE_APPROVAL_TEXT`. -/
def replacementIncompleteApprovalText : String :=
  "Approved payment method replacement is missing required processor identity."

/-- `PAYMENT_METHOD_REPLACEMENT_STORAGE_FAILURE_TEXT`. -/
def replacementStorageFailureText : String :=
  "Approved payment method replacement could not be applied; manual review is required."

/-- `apply_locked_reconciled_payment_method_replacement_outcome`, of an approval. -/
def applyReconciledReplacement (now : Timestamp) (ids : NewIds) (pendingChargeId : Id)
    (liveRecipient diagnosed : Bool) (r : SubscriptionPaymentMethodReplacement)
    (evidence : ProcessorEvidence) : Program PaymentAttempt := do
  let a ← lockExpectedReservationAttempt (.replacement r)
  if replacementIdentityConflict a evidence diagnosed then
    recordConflictingReplacement now ids.charge pendingChargeId r a evidence
  else if a.status.isResolvable ∧ evidence.missesStoredMethod then
    parkLockedReplacementApproved now ids.charge a evidence replacementIncompleteApprovalText
  else applyLockedReplacementApproved now ids liveRecipient r a evidence

/-- `try_park_reconciled_payment_method_replacement_approved_outcome`. -/
def tryParkReconciledReplacement (now : Timestamp) (newChargeId pendingChargeId : Id)
    (diagnosed : Bool) (r : SubscriptionPaymentMethodReplacement) (evidence : ProcessorEvidence)
    (message : String) : Program PaymentAttempt := do
  let a ← lockExpectedReservationAttempt (.replacement r)
  if replacementIdentityConflict a evidence diagnosed then
    recordConflictingReplacement now newChargeId pendingChargeId r a evidence
  else if evidence.missesStoredMethod then
    parkLockedReplacementApproved now newChargeId a evidence replacementIncompleteApprovalText
  else parkLockedReplacementApproved now newChargeId a evidence message

end SyrupRail
