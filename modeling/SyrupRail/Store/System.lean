import SyrupRail.Store.Lifecycle
import SyrupRail.Store.Operator
import SyrupRail.Store.Replacement

/-!
# The engine

The operations of the engine on one store, in any order and at any times. Each is one atomic
transaction at the time of its clock, which does not go back. The reservations of enrollments and of
host charges, and the writers of host charges, are taken as arbitrary ones, since nothing here
depends on the checks before them.
-/

namespace SyrupRail

open Transactions

/-- An outcome of the gateway that is not an approval. A charge that was not submitted was admitted,
or was still prepared. -/
inductive NonApproval
  | unknown
  | declined
  | failed
  | notSubmitted (code : PaymentResolutionCode) (admitted : Bool)
  deriving DecidableEq, Repr

/-- The resolution that an outcome asks for. -/
def NonApproval.command : NonApproval → OutcomeResolutionCommand
  | .unknown => .unknown
  | .declined => .determinate .declined
  | .failed => .determinate .failed
  | .notSubmitted code admitted =>
    .notSubmitted code (if admitted then .admittedNotSubmitted else .prepared)

/-- The application of an outcome that is not an approval: only a renewal that is not unknown goes
through its own. -/
def resolveOutcome (now : Timestamp) (newChargeId : Id) (r : OutcomeReservation)
    (observed : ProcessorEvidence) (outcome : NonApproval) : Program PaymentAttempt :=
  match r with
  | .initial _ | .replacement _ => resolvePoolOutcome now newChargeId r observed outcome.command
  | .charge c =>
    if c.kind = .renewal ∧ outcome ≠ .unknown then
      resolveRenewalNonApprovedOutcome now c observed outcome.command
    else resolvePoolOutcome now newChargeId r observed outcome.command

/-- The operations of the engine. -/
inductive Op
  /-- The rows that belong to the host, to the gateway accounts, and to the stored methods. -/
  | configure (accounts : List GatewayAccount) (limits : List GatewayProviderRateLimit)
      (methods : List PaymentMethod) (claims : List SubscriptionDiscountClaim)
  | reserveOther (n : NewAttempt)
  | writeOther (attemptId : Id) (w : AttemptWriter)
  | reserveReplacement (mode : GatewayAccountMode) (gateway : ResolvedGateway)
      (command : ReplaceSubscriptionPaymentMethod)
  | admitReplacement (r : SubscriptionPaymentMethodReplacement)
  | reconcileReplacement (ids : NewIds) (pendingChargeId : Id) (liveRecipient diagnosed : Bool)
      (r : SubscriptionPaymentMethodReplacement) (evidence : ProcessorEvidence)
  | parkReconciledReplacement (newChargeId pendingChargeId : Id) (diagnosed : Bool)
      (r : SubscriptionPaymentMethodReplacement) (evidence : ProcessorEvidence) (message : String)
  | admitEnrollment (billingScopeId attemptId : Id)
  | rejectEnrollment (billingScopeId attemptId : Id) (message : String)
  | reserveRenewal (policy : SubscriptionPeriodExpiryPolicy) (mode : GatewayAccountMode)
      (gateway : ResolvedGateway) (attemptId : Id) (command : ChargeRenewal)
  | reserveRecovery (mode : GatewayAccountMode) (gateway : ResolvedGateway)
      (command : RecoverSubscriptionPayment)
  | admitPrepared (policy : SubscriptionPeriodExpiryPolicy) (r : SubscriptionChargeReservation)
  | restore (r : OutcomeReservation)
  | resolve (newChargeId : Id) (r : OutcomeReservation) (observed : ProcessorEvidence)
      (outcome : NonApproval)
  | applyApproved (ids : NewIds) (liveRecipient : Bool) (policy : SubscriptionPeriodExpiryPolicy)
      (r : OutcomeReservation) (evidence : ProcessorEvidence)
  | parkApproved (newChargeId : Id) (policy : SubscriptionPeriodExpiryPolicy)
      (r : OutcomeReservation) (evidence : ProcessorEvidence) (message : String)
  | observeApproved (newChargeId : Id) (policy : SubscriptionPeriodExpiryPolicy)
      (r : OutcomeReservation) (evidence : ProcessorEvidence)
  | persistEvidence (newChargeId billingScopeId attemptId : Id) (evidence : ProcessorEvidence)
      (reverseExpiredPeriod : Bool)
  | observeCharge (newChargeId billingScopeId attemptId : Id) (gatewayOrderId : String)
      (evidence : ProcessorEvidence) (requested : ProcessorChargeProgression)
  | expireCharges (attemptIds : List Id)
  | expireMethodUpdates (attemptIds : List Id)
  | expireEnrollments (attemptIds : List Id)
  | expireHostCharges (attemptIds : List Id)
  | claimExact (attemptIds : List Id)
  | exactQuery (billingScopeId attemptId : Id) (observation : ExactQueryObservation)
  | classifyPending (chargeId : Id)
  | manualFailure (sanitize : String → String) (mode : ManualFailureMode)
      (preloaded : Option PaymentAttempt)
  | attestReversal (rules : TextRules) (attestation : ReversalAttestation)
  | createGrant (creation : SubscriptionGrantCreation)
  | revokeGrant (revocation : SubscriptionGrantRevocation)
  | cancel (owner : PlanOwner)
  | retire (command : RetireExpiredSubscriptionPeriod)
  | changePastDueAccess (owner : PlanOwner) (subscriptionId : Id) (access : PastDueAccessPolicy)

/-- Whether an attempt is neither an enrollment nor a charge of a period. -/
def PaymentAttemptKind.isOther : PaymentAttemptKind → Bool
  | .hostCharge | .subscriptionPaymentMethodUpdate => true
  | .subscriptionInitial | .subscriptionRenewal | .subscriptionRecovery => false

/-- The reservation of an enrollment or of a host charge. -/
def reserveOther (now : Timestamp) (n : NewAttempt) : Program Unit :=
  if n.target.kind = .subscriptionInitial ∨ n.target.kind = .hostCharge then do
    let _ ← insertOrIgnore { n with createdAt := now }
    pure ()
  else throw invalidAttemptState

/-- A writer on a host charge. -/
def writeOther (now : Timestamp) (attemptId : Id) (w : AttemptWriter) : Program Unit := do
  if (← get).attempts.any fun a => a.id = attemptId ∧ a.kind ≠ .hostCharge then
    throw invalidAttemptState
  else onAttempts (writeAttempt now invalidAttemptState attemptId w)

/-- A writer on an enrollment. -/
def writeEnrollment (now : Timestamp) (billingScopeId attemptId : Id) (w : AttemptWriter) :
    Program Unit := do
  let a ← requireAttempt invalidAttemptState billingScopeId attemptId
  if a.kind = .subscriptionInitial then onAttempts (writeAttempt now invalidAttemptState a.id w)
  else throw invalidAttemptState

/-- The application of an approval. -/
def applyApproved (now : Timestamp) (ids : NewIds) (liveRecipient : Bool)
    (policy : SubscriptionPeriodExpiryPolicy) (r : OutcomeReservation)
    (evidence : ProcessorEvidence) : Program PaymentAttempt :=
  match r with
  | .initial r => applyEnrollmentApproved now ids liveRecipient policy r evidence
  | .charge r => applyChargeApproved now ids liveRecipient policy r evidence
  | .replacement r => applyReplacementApproved now ids liveRecipient r evidence

/-- The compensation of an approval. -/
def parkApproved (now : Timestamp) (newChargeId : Id) (policy : SubscriptionPeriodExpiryPolicy)
    (r : OutcomeReservation) (evidence : ProcessorEvidence) (message : String) :
    Program PaymentAttempt :=
  match r with
  | .initial r => tryParkEnrollmentApproved now newChargeId policy r evidence message
  | .charge r => tryParkChargeApproved now newChargeId policy r evidence message
  | .replacement r => tryParkReplacementApproved now newChargeId r evidence message

/-- The evidence of an approval, without its application. -/
def observeApproved (now : Timestamp) (newChargeId : Id) (policy : SubscriptionPeriodExpiryPolicy)
    (r : OutcomeReservation) (evidence : ProcessorEvidence) : Program Unit :=
  match r with
  | .initial r => observeEnrollmentApproved now newChargeId policy r evidence
  | .charge r => observeChargeApproved now newChargeId policy r evidence
  | .replacement r => observeReplacementApproved now newChargeId r evidence

/-- The transaction of an operation. -/
def Op.transaction (now : Timestamp) : Op → Program Unit
  | .configure gatewayAccounts providerRateLimits paymentMethods discountClaims =>
    modify fun db => { db with gatewayAccounts, providerRateLimits, paymentMethods, discountClaims }
  | .reserveOther n => SyrupRail.reserveOther now n
  | .writeOther attemptId w => SyrupRail.writeOther now attemptId w
  | .reserveReplacement mode gateway command =>
    discard (reservePaymentMethodReplacement now mode gateway command)
  | .admitReplacement r => discard (SyrupRail.admitReplacement now r)
  | .reconcileReplacement ids pendingChargeId liveRecipient diagnosed r evidence =>
    discard (applyReconciledReplacement now ids pendingChargeId liveRecipient diagnosed r evidence)
  | .parkReconciledReplacement newChargeId pendingChargeId diagnosed r evidence message =>
    discard
      (tryParkReconciledReplacement now newChargeId pendingChargeId diagnosed r evidence message)
  | .admitEnrollment billingScopeId attemptId =>
    writeEnrollment now billingScopeId attemptId .admitPrepared
  | .rejectEnrollment billingScopeId attemptId message =>
    writeEnrollment now billingScopeId attemptId (.rejectInitial message)
  | .reserveRenewal policy mode gateway attemptId command =>
    discard (reserveSubscriptionRenewal now policy mode gateway attemptId command)
  | .reserveRecovery mode gateway command =>
    discard (reserveSubscriptionRecovery now mode gateway command)
  | .admitPrepared policy r => discard (admitSubmission now policy r)
  | .restore r => discard (restoreAdmittedAttemptForRetry now r)
  | .resolve newChargeId r observed outcome =>
    discard (resolveOutcome now newChargeId r observed outcome)
  | .applyApproved ids liveRecipient policy r evidence =>
    discard (SyrupRail.applyApproved now ids liveRecipient policy r evidence)
  | .parkApproved newChargeId policy r evidence message =>
    discard (SyrupRail.parkApproved now newChargeId policy r evidence message)
  | .observeApproved newChargeId policy r evidence =>
    SyrupRail.observeApproved now newChargeId policy r evidence
  | .persistEvidence newChargeId billingScopeId attemptId evidence reverseExpiredPeriod =>
    persistApprovedEvidenceWithoutAttemptLock now newChargeId billingScopeId attemptId evidence
      reverseExpiredPeriod
  | .observeCharge newChargeId billingScopeId attemptId gatewayOrderId evidence requested =>
    observeProcessorChargeInTransaction now newChargeId billingScopeId attemptId gatewayOrderId
      evidence requested
  | .expireCharges attemptIds => expireBatch now .expireSubscriptionCharge attemptIds
  | .expireMethodUpdates attemptIds =>
    expireBatch now (.expirePaymentMethodUpdate false) attemptIds
  | .expireEnrollments attemptIds => expireBatch now .expireInitial attemptIds
  | .expireHostCharges attemptIds => expireBatch now .expireHostCharge attemptIds
  | .claimExact attemptIds => claimExactReconciliationAttempts now attemptIds
  | .exactQuery billingScopeId attemptId observation =>
    applyExactQuery now billingScopeId attemptId observation
  | .classifyPending chargeId => classifyPendingProcessorCharge now chargeId
  | .manualFailure sanitize mode preloaded =>
    discard (failReviewRequired now sanitize mode preloaded)
  | .attestReversal rules attestation => discard (SyrupRail.attestReversal rules now attestation)
  | .createGrant creation => discard (createSubscriptionGrant now creation)
  | .revokeGrant revocation => discard (revokeSubscriptionGrant now revocation)
  | .cancel owner => discard (cancelSubscription now owner)
  | .retire command => discard (retireExpiredSubscriptionPeriod now command)
  | .changePastDueAccess owner subscriptionId access =>
    changeSubscriptionPastDueAccess now owner subscriptionId access

/-- The store at a later time. -/
def Db.at (db : Db) (now : Timestamp) : Db := { db with clock := now }

/-- The store after an operation that starts `elapsed` microseconds after the previous one; a
failure leaves the tables as they were. -/
def execStore (db : Db) (step : ℕ × Op) : Db :=
  let now := db.clock + step.1
  match step.2.transaction now (db.at now) with
  | .ok (_, db') => db'
  | .error _ => db.at now

/-- A store without any subscriptions, attempts, charges, grants, or events. -/
structure Db.Fresh (db : Db) : Prop where
  subscriptions : db.subscriptions = []
  attempts : db.attempts = []
  charges : db.ledger = {}
  discounts : db.discounts = []
  grants : db.grants = []
  events : db.events = []

end SyrupRail
