import SyrupRail.Store.Approval
import SyrupRail.Store.Reserve

/-!
# Grants, cancellation, retirement, and entitlement

The operations on a subscriber's plan that move no money, and the two queries that say what access
the plan gives at an instant. `now()` and `clock_timestamp()` of one atomic transaction are the same
time.
-/

namespace SyrupRail

/-- Whether a charge still waits for its application, an identity, or a reversal. -/
def ProcessorChargeProgression.isUnsettled : ProcessorChargeProgression → Bool
  | .pending | .reconciliationRequired | .externalReversalRequired => true
  | .applied | .externallyReversed => false

/-! ## Grants -/

/-- `SubscriptionGrantCreation`. -/
structure SubscriptionGrantCreation where
  id : Id
  owner : PlanOwner
  kind : SubscriptionGrantKind
  reason : String
  endsAt : Timestamp
  grantedByActorId : Id
  deriving DecidableEq, Repr

/-- `SubscriptionGrantCreationOutcome`. -/
inductive SubscriptionGrantCreationOutcome
  | endsAtNotFuture | currentPaidSubscription | activeGrant | blockingInitialAttempt
  | pendingApprovedProcessorEvidence | created
  deriving DecidableEq, Repr

/-- Whether an attempt enrolls an owner in their plan. -/
def PaymentAttempt.enrolls (owner : PlanOwner) (a : PaymentAttempt) : Bool :=
  a.kind = .subscriptionInitial ∧ a.billingScopeId = owner.billingScopeId ∧
    a.subscriberId = owner.subscriberId ∧ a.target.planKey = some owner.planKey

/-- Whether an attempt is an open enrollment, unless it is parked for a current subscription. -/
def PaymentAttempt.isOpenEnrollment (owner : PlanOwner) (a : PaymentAttempt) : Bool :=
  a.enrolls owner ∧ (a.status = .pending ∨ a.status = .unknown ∨
    (a.status = .reviewRequired ∧
      a.resolutionCode ≠ some .subscriptionInitialCurrentSubscriptionConflict))

/-- Whether a subscription of the owner started after an attempt. -/
def laterSubscriptionExists (owner : PlanOwner) (a : PaymentAttempt) (db : Db) : Bool :=
  db.subscriptions.any fun s => s.owner = owner ∧ a.createdAt ≤ s.createdAt

/-- `blocking_initial_attempt_exists`. -/
def blockingInitialAttemptExists (owner : PlanOwner) (db : Db) : Bool :=
  db.attempts.any fun a => a.isOpenEnrollment owner ∧ laterSubscriptionExists owner a db = false

/-- `pending_processor_evidence_exists`. -/
def pendingProcessorEvidenceExists (owner : PlanOwner) (db : Db) : Bool :=
  db.ledger.charges.any fun c =>
    c.progression.isUnsettled ∧ db.attempts.any fun a => a.id = c.attemptId ∧ a.enrolls owner

/-- The row of a new grant. -/
def SubscriptionGrantCreation.row (now : Timestamp) (creation : SubscriptionGrantCreation) :
    SubscriptionGrant where
  id := creation.id
  billingScopeId := creation.owner.billingScopeId
  subscriberId := creation.owner.subscriberId
  planKey := creation.owner.planKey
  kind := creation.kind
  reason := creation.reason
  startsAt := now
  endsAt := creation.endsAt
  grantedByActorId := creation.grantedByActorId
  revokedAt := none
  revokedByActorId := none
  revocationReason := none

/-- `create_subscription_grant`. -/
def createSubscriptionGrant (now : Timestamp) (creation : SubscriptionGrantCreation) :
    Program SubscriptionGrantCreationOutcome := do
  let db ← get
  if creation.endsAt ≤ now then pure .endsAtNotFuture
  else if currentSubscriptionExists now creation.owner db then pure .currentPaidSubscription
  else if activeGrantExists now creation.owner db then pure .activeGrant
  else if blockingInitialAttemptExists creation.owner db then pure .blockingInitialAttempt
  else if pendingProcessorEvidenceExists creation.owner db then
    pure .pendingApprovedProcessorEvidence
  else if db.grants.any (·.id = creation.id) then throw .uniqueViolation
  else
    modify fun db => { db with grants := creation.row now :: db.grants }
    pure .created

/-- `SubscriptionGrantRevocation`. -/
structure SubscriptionGrantRevocation where
  id : Id
  owner : PlanOwner
  revokedByActorId : Id
  reason : String
  deriving DecidableEq, Repr

/-- `SubscriptionGrantRevocationOutcome`. -/
inductive SubscriptionGrantRevocationOutcome
  | notFound | alreadyRevoked | expired | revoked
  deriving DecidableEq, Repr

/-- The row of a revoked grant. -/
def SubscriptionGrant.revoked (now : Timestamp) (revocation : SubscriptionGrantRevocation)
    (g : SubscriptionGrant) : SubscriptionGrant :=
  { g with
    revokedAt := some now
    revokedByActorId := some revocation.revokedByActorId
    revocationReason := some revocation.reason }

/-- `revoke_subscription_grant`. -/
def revokeSubscriptionGrant (now : Timestamp) (revocation : SubscriptionGrantRevocation) :
    Program SubscriptionGrantRevocationOutcome := do
  let db ← get
  match db.grants.find? fun g => g.id = revocation.id ∧ g.owner = revocation.owner with
  | none => pure .notFound
  | some g =>
    if g.revokedAt ≠ none then pure .alreadyRevoked
    else if g.endsAt ≤ now then pure .expired
    else
      modify fun db => { db with
        grants := Table.updateWhere (·.id = revocation.id) (·.revoked now revocation) db.grants }
      pure .revoked

/-! ## Access -/

/-- `PastDueAccess`. -/
inductive PastDueAccess
  | allowedDuringDunning | suspended
  deriving DecidableEq, Repr

/-- `classify_past_due_access`. -/
def classifyPastDueAccess (policy : PastDueAccessPolicy) (nextPaymentAttemptAt : Option Timestamp) :
    PastDueAccess :=
  match policy, nextPaymentAttemptAt with
  | .continueUntilDunningExhausted, some _ => .allowedDuringDunning
  | _, _ => .suspended

/-- The access of a past-due subscription. -/
def Subscription.pastDueAccess (s : Subscription) : PastDueAccess :=
  classifyPastDueAccess s.renewalFailure.pastDueAccess s.nextPaymentAttemptAt

/-! ## Cancellation -/

/-- `INVALID_SUBSCRIPTION_STATE`. -/
def invalidSubscriptionState : StoreError := .invalidState "canonical subscription state is invalid"

/-- `current_subscription_rank`. -/
def SubscriptionStatus.currentRank : SubscriptionStatus → ℕ
  | .active => 0
  | .pastDue => 1
  | .canceled | .unpaid => 2

/-- `ORDER BY current_subscription_rank, updated_at DESC, id DESC`. -/
def currentOrder (s s' : Subscription) : Bool :=
  s.status.currentRank < s'.status.currentRank ∨
    (s.status.currentRank = s'.status.currentRank ∧
      (s'.updatedAt < s.updatedAt ∨ (s'.updatedAt = s.updatedAt ∧ s'.id ≤ s.id)))

/-- The current subscriptions of an owner, in their order. -/
def currentSubscriptions (now : Timestamp) (owner : PlanOwner) (mode : Option GatewayAccountMode)
    (db : Db) : List Subscription :=
  (db.subscriptions.filter fun s =>
    s.owner = owner ∧ mode.all (s.requiredGatewayAccountMode = ·) ∧ s.isCurrent now).insertionSort
      fun s s' => currentOrder s s'

/-- `selected_subscription_id`: the current subscription, and else the newest. -/
def selectedSubscription (now : Timestamp) (owner : PlanOwner) (db : Db) : Option Subscription :=
  (currentSubscriptions now owner none db).head? <|>
    ((db.subscriptions.filter (·.owner = owner)).insertionSort fun s s' =>
      s'.createdAt < s.createdAt ∨ (s'.createdAt = s.createdAt ∧ s'.id ≤ s.id)).head?

/-- `has_blocking_renewal`. -/
def hasBlockingRenewal (s : Subscription) (db : Db) : Bool :=
  db.attempts.any fun a =>
    a.chargesPeriod s.id s.nextRenewalAt ∧ (a.status.isResolvable ∨ a.status = .approved)

/-- Whether a billed subscription gives access at the moment it ends: an active one does, and a
past-due one that continues while a retry is scheduled. -/
def Subscription.accessIsOpen (s : Subscription) : Bool :=
  s.status = .active || s.pastDueAccess = .allowedDuringDunning

/-- The causal boundary of a past-due subscription's access. -/
def causalAccessEndedAt (s : Subscription) (db : Db) : Except StoreError Timestamp := do
  let history ← pastDueCausalHistory db.attempts s.id s.nextRenewalAt
  match history.accessEndedAt s.renewalFailure.pastDueAccess with
  | some accessEndedAt => .ok accessEndedAt
  | none => .error invalidSubscriptionState

/-- The boundary of a cancellation. -/
def cancellationAccessEndsAt (now : Timestamp) (s : Subscription) (db : Db) :
    Except StoreError Timestamp :=
  if s.status = .active then .ok s.currentPeriodEndAt
  else if s.accessIsOpen then .ok now
  else causalAccessEndedAt s db

/-- `CancelSubscriptionOutcome`. -/
inductive CancelSubscriptionOutcome
  | notFound | alreadyCanceled | blockedByRenewal | blockedByPaymentMethodUpdate | canceled
  deriving DecidableEq, Repr

/-- The row after a cancellation. -/
def Subscription.canceledRow (now : Timestamp) (s : Subscription) : Subscription :=
  { s with
    status := .canceled
    canceledAt := some now
    nextPaymentAttemptAt := none
    updatedAt := now }

/-- The cancellation of a billed subscription that nothing stands in the way of. -/
def cancelCurrentSubscription (now : Timestamp) (s : Subscription) :
    Program CancelSubscriptionOutcome := do
  let accessEndsAt ← Tx.read (cancellationAccessEndsAt now s)
  updateOneSubscription invalidSubscriptionState
    (fun s' => s'.id = s.id ∧ s'.owner = s.owner ∧ s'.status = s.status) (·.canceledRow now)
  appendEvents now [.subscriptionCanceled s.id s.planKey accessEndsAt]
  pure .canceled

/-- `cancel_subscription_on_connection`. -/
def cancelSubscription (now : Timestamp) (owner : PlanOwner) :
    Program CancelSubscriptionOutcome := do
  match selectedSubscription now owner (← get) with
  | none => pure .notFound
  | some s =>
    match s.status with
    | .unpaid => pure .notFound
    | .canceled => pure .alreadyCanceled
    | .active | .pastDue =>
      failStaleUnsubmittedSubscriptionCharges now s.id
      if hasBlockingRenewal s (← get) then pure .blockedByRenewal
      else
        failStaleUnsubmittedPaymentMethodUpdates now false s.id
        if blockingPaymentMethodUpdateExists s.id (← get) then pure .blockedByPaymentMethodUpdate
        else cancelCurrentSubscription now s

/-! ## Retirement -/

/-- `RetireExpiredSubscriptionPeriod`. -/
structure RetireExpiredSubscriptionPeriod where
  owner : PlanOwner
  subscriptionId : Id
  periodStartAt : Timestamp
  deriving DecidableEq, Repr

/-- `SubscriptionPeriodRetirementOutcome`. -/
inductive SubscriptionPeriodRetirementOutcome
  | notFound | canceled | alreadyUnpaid | periodChanged | notExpired | unresolvedPayment | retired
  deriving DecidableEq, Repr

/-- `lock_exact_subscription`. -/
def exactSubscription (owner : PlanOwner) (subscriptionId : Id) (db : Db) : Option Subscription :=
  db.subscriptions.find? fun s => s.id = subscriptionId ∧ s.owner = owner

/-- `unresolved_payment_exists`. -/
def unresolvedPaymentExists (subscriptionId : Id) (periodStartAt : Timestamp) (db : Db) : Bool :=
  (db.attempts.any fun a =>
    a.subscriptionId = some subscriptionId ∧ a.isSubscriptionCharge ∧
      (a.status = .unknown ∨ a.status = .reviewRequired ∨
        (a.status = .pending ∧ a.submittedAt ≠ none) ∨
        (a.status = .approved ∧ a.periodStartAt = some periodStartAt))) ||
  db.ledger.charges.any fun c =>
    c.progression.isUnsettled ∧
      c.attemptKind ∈ [.subscriptionInitial, .subscriptionRenewal, .subscriptionRecovery] ∧
      db.attempts.any fun a => a.id = c.attemptId ∧ a.subscriptionId = some subscriptionId

/-- `RETIRED_PERIOD_UNSUBMITTED_TEXT`. -/
def retiredPeriodUnsubmittedText : String :=
  "Subscription payment was canceled before submission because its billing period ended."

/-- `reject_unsubmitted_period_attempts`. -/
def rejectUnsubmittedPeriodAttempts (now : Timestamp) (subscriptionId : Id)
    (periodStartAt : Timestamp) : Program Unit :=
  onAttempts (writeAttempts now (·.chargesPeriod subscriptionId periodStartAt)
    (.reject .subscriptionPeriodExpiredBeforeCharge retiredPeriodUnsubmittedText))

/-- The boundary of a retirement. -/
def retirementAccessEndsAt (now : Timestamp) (s : Subscription) (db : Db) :
    Except StoreError Timestamp :=
  if s.accessIsOpen then .ok now else causalAccessEndedAt s db

/-- The row after a retirement. -/
def Subscription.retiredRow (now : Timestamp) (s : Subscription) : Subscription :=
  { s with
    status := .unpaid
    unpaidAt := some now
    nextPaymentAttemptAt := none
    updatedAt := now }

/-- The retirement of a billed subscription without an unresolved payment. -/
def retireSubscription (now : Timestamp) (s : Subscription) (period : BillingPeriod) :
    Program SubscriptionPeriodRetirementOutcome := do
  let accessEndsAt ← Tx.read (retirementAccessEndsAt now s)
  rejectUnsubmittedPeriodAttempts now s.id s.nextRenewalAt
  updateOneSubscription invalidSubscriptionState
    (fun s' => s'.id = s.id ∧ s'.owner = s.owner ∧ s'.status = s.status ∧
      s'.nextRenewalAt = s.nextRenewalAt ∧ s'.unpaidAt = none ∧ s'.canceledAt = none)
    (·.retiredRow now)
  appendEvents now [.subscriptionPeriodExpired s.id s.planKey period now accessEndsAt]
  pure .retired

/-- The retirement of a billed subscription for the period of the command. -/
def retireBilledSubscription (now : Timestamp) (command : RetireExpiredSubscriptionPeriod)
    (s : Subscription) : Program SubscriptionPeriodRetirementOutcome := do
  if s.nextRenewalAt ≠ command.periodStartAt then pure .periodChanged
  else
    match nextBillingPeriod command.periodStartAt s.recurringPeriod with
    | .error _ => throw invalidSubscriptionState
    | .ok period =>
      if periodHasExpired now period.endAt = false then pure .notExpired
      else
        failStaleUnsubmittedSubscriptionCharges now s.id
        if unresolvedPaymentExists s.id s.nextRenewalAt (← get) then pure .unresolvedPayment
        else retireSubscription now s period

/-- `retire_expired_subscription_period_on_connection`. -/
def retireExpiredSubscriptionPeriod (now : Timestamp) (command : RetireExpiredSubscriptionPeriod) :
    Program SubscriptionPeriodRetirementOutcome := do
  match exactSubscription command.owner command.subscriptionId (← get) with
  | none => pure .notFound
  | some s =>
    match s.status with
    | .canceled => pure .canceled
    | .unpaid => pure (if s.nextRenewalAt = command.periodStartAt then .alreadyUnpaid
        else .periodChanged)
    | .active | .pastDue => retireBilledSubscription now command s

/-- The row with another access policy. -/
def Subscription.withPastDueAccess (now : Timestamp) (access : PastDueAccessPolicy)
    (s : Subscription) : Subscription :=
  { s with renewalFailure := { s.renewalFailure with pastDueAccess := access }, updatedAt := now }

/-- `change_subscription_past_due_access_in_transaction`; a terminal or unchanged subscription stays
as it is. -/
def changeSubscriptionPastDueAccess (now : Timestamp) (owner : PlanOwner) (subscriptionId : Id)
    (access : PastDueAccessPolicy) : Program Unit := do
  match exactSubscription owner subscriptionId (← get) with
  | none => pure ()
  | some s =>
    if s.status.isBilled = false ∨ s.renewalFailure.pastDueAccess = access then pure ()
    else
      updateOneSubscription invalidSubscriptionState
        (fun s' => s'.id = subscriptionId ∧ s'.owner = owner ∧ s'.status.isBilled ∧
          s'.renewalFailure.pastDueAccess = s.renewalFailure.pastDueAccess)
        (·.withPastDueAccess now access)

/-! ## Entitlement -/

/-- What a subscriber without a subscription should do. -/
inductive MissingSubscriptionAction
  | startSubscription | confirmInitialPayment
  deriving DecidableEq, Repr

/-- What a subscriber with a past-due subscription should do. -/
inductive PastDueAction
  | recoverPayment | confirmRecoveryPayment
  deriving DecidableEq, Repr

/-- `Entitlement`, without the discounts. -/
inductive Entitlement
  | missing (nextAction : MissingSubscriptionAction)
  | granted (grant : SubscriptionGrant)
  | paidActive (subscription : Subscription)
  | pastDue (subscription : Subscription) (access : PastDueAccess) (nextAction : PastDueAction)
  | paidThroughCancellation (subscription : Subscription)
  deriving DecidableEq, Repr

/-- `EntitlementQuery`. -/
structure EntitlementQuery where
  owner : PlanOwner
  requiredGatewayAccountMode : Option GatewayAccountMode
  deriving DecidableEq, Repr

/-- The active grants of an owner. -/
def activeGrants (now : Timestamp) (owner : PlanOwner) (db : Db) : List SubscriptionGrant :=
  db.grants.filter fun g => g.owner = owner ∧ g.isActive now

/-- `INVALID_ENTITLEMENT_STATE`. -/
def invalidEntitlementState : StoreError :=
  .invalidState "canonical subscription state cannot be represented as one entitlement"

/-- The next action without a subscription. -/
def missingAction (now : Timestamp) (owner : PlanOwner) (db : Db) : MissingSubscriptionAction :=
  if db.attempts.any fun a => a.isOpenEnrollment owner ∧ a.isStaleUnsubmitted now = false ∧
      laterSubscriptionExists owner a db = false then .confirmInitialPayment
  else .startSubscription

/-- The next action of a past-due subscription. -/
def pastDueAction (now : Timestamp) (s : Subscription) (db : Db) : PastDueAction :=
  if db.attempts.any fun a => a.subscriptionId = some s.id ∧ a.isBlockingCharge ∧
      a.isStaleUnsubmitted now = false then .confirmRecoveryPayment
  else .recoverPayment

/-- `entitlement_from_row`, of the snapshot at an instant. -/
def entitlement (now : Timestamp) (query : EntitlementQuery) (db : Db) :
    Except StoreError Entitlement :=
  let paid := currentSubscriptions now query.owner query.requiredGatewayAccountMode db
  let grants := activeGrants now query.owner db
  if 1 < paid.length ∨ 1 < grants.length ∨ (0 < paid.length ∧ 0 < grants.length) then
    .error invalidEntitlementState
  else
    match grants, paid with
    | grant :: _, _ => .ok (.granted grant)
    | [], [] => .ok (.missing (missingAction now query.owner db))
    | [], s :: _ =>
      match s.status with
      | .active => .ok (.paidActive s)
      | .pastDue => .ok (.pastDue s s.pastDueAccess (pastDueAction now s db))
      | .canceled => .ok (.paidThroughCancellation s)
      | .unpaid => .error invalidEntitlementState

/-- The subscription that an entitlement grants access through. -/
def Entitlement.accessThrough : Entitlement → Option Subscription
  | .paidActive s | .paidThroughCancellation s => some s
  | .pastDue s .allowedDuringDunning _ => some s
  | .pastDue _ .suspended _ | .granted _ | .missing _ => none

/-- `GuardAccess`. -/
inductive GuardAccess
  | invalid | granted | missing | paid | paidThroughCancellation | pastDue
  deriving DecidableEq, Repr

/-- `classify_guard_access`, over the rows of the owner in the order of their ids. -/
def classifyGuardAccess (now : Timestamp) (query : EntitlementQuery) (db : Db) : GuardAccess :=
  let currentPaid := ((db.subscriptions.filter fun s => s.owner = query.owner ∧
    query.requiredGatewayAccountMode.all (s.requiredGatewayAccountMode = ·)).insertionSort
      fun s s' => s.id ≤ s'.id).filter (·.isCurrent now)
  let activeGrantCount := (db.grants.filter (·.owner = query.owner)).countP (·.isActive now)
  if 1 < currentPaid.length ∨ 1 < activeGrantCount ∨
      (currentPaid ≠ [] ∧ 0 < activeGrantCount) then .invalid
  else if activeGrantCount = 1 then .granted
  else
    match currentPaid with
    | [] => .missing
    | s :: _ =>
      match s.status with
      | .active => .paid
      | .canceled => .paidThroughCancellation
      | .pastDue => if s.pastDueAccess = .allowedDuringDunning then .paid else .pastDue
      | .unpaid => .invalid

end SyrupRail
