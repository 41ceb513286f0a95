import SyrupRail.Store.Outcome

/-!
# Applying an approval

What an approved outcome does: it renews or recovers the subscription of its attempt, starts a new
subscription, or is parked. A renewal and a recovery go through the same steps and differ in the
subscription they accept and in what they write, and are one program here, with the parts in which
they differ given by the kind. The charge is observed first and becomes applied last, so that a
charge that cannot become applied undoes the application.
-/

namespace SyrupRail

/-! ## Conflicting identities -/

/-- `promote_conflicting_charge_to_external_reversal`. -/
def promoteConflictingCharge (now : Timestamp) (observation : ObservedCharge) : Program Unit := do
  match observation with
  | .ownedByOtherAttempt => pure ()
  | .owned charge =>
    match Table.findBy ProcessorCharge.id charge.id (← get).ledger.charges with
    | none => throw invalidChargeState
    | some c =>
      match c.progression with
      | .pending | .reconciliationRequired =>
        moveCharge now charge.id .externalReversalRequired none
      | .externalReversalRequired | .externallyReversed => pure ()
      | .applied =>
        throw (.invalidState
          "an applied processor charge cannot become a conflicting external reversal")

/-- The progression that a conflicting approval is observed with. -/
def conflictingProgression (a : PaymentAttempt) : ProcessorChargeProgression :=
  if a.status.isResolvable ∨ a.amount.cents = 0 then .reconciliationRequired
  else .externalReversalRequired

/-- `stop_conflicting_subscription_approval`: the payment of a conflicting approval, which is only
recorded. -/
def stopConflictingSubscriptionApproval (now : Timestamp) (newChargeId : Id) (a : PaymentAttempt)
    (evidence : ProcessorEvidence) : Program (Option PaymentAttempt) := do
  if processorIdentityConflict a evidence = false then pure none
  else if a.status.isResolvable = false ∧ a.status ≠ .approved then pure none
  else if a.status = .approved ∧ sameProcessorTransaction a evidence then
    some <$> paymentResultForAttempt a
  else
    let observation ← observe now newChargeId a evidence (conflictingProgression a)
    if conflictingProgression a = .externalReversalRequired ∧ evidence.transactionId ≠ none then
      promoteConflictingCharge now observation
      some <$> paymentResultForAttempt a
    else some <$> paymentResultForAttempt a

/-! ## Payment methods and discounts -/

/-- `upsert_payment_method`, which returns the method's id. -/
def upsertPaymentMethod (newMethodId : Id) (a : PaymentAttempt) (evidence : ProcessorEvidence) :
    Program Id := do
  match evidence.paymentMethodReference with
  | none => throw invalidApplicationState
  | some reference =>
    let db ← get
    let owned (m : PaymentMethod) : Bool :=
      m.gatewayAccountId = a.gatewayAccountId ∧ m.subscriberId = a.subscriberId ∧
        m.reference = reference
    match db.paymentMethods.find? owned with
    | some method =>
      modify fun db => { db with
        paymentMethods := Table.updateWhere owned
          (fun m => { m with status := .active, descriptor := evidence.descriptor })
          db.paymentMethods }
      pure method.id
    | none =>
      if db.paymentMethods.any (·.id = newMethodId) then throw .uniqueViolation
      else
        modify fun db => { db with
          paymentMethods :=
            { id := newMethodId
              billingScopeId := a.billingScopeId
              subscriberId := a.subscriberId
              gatewayAccountId := a.gatewayAccountId
              reference
              status := .active
              descriptor := evidence.descriptor } :: db.paymentMethods }
        pure newMethodId

/-- `disable_payment_method_if_unreferenced`. -/
def disablePaymentMethodIfUnreferenced (methodId : Id) : Program Unit :=
  modify fun db =>
    if db.subscriptions.any fun s => s.paymentMethodId = methodId ∧ s.status.isBilled then db
    else { db with
      paymentMethods := Table.updateWhere (fun m => m.id = methodId ∧ m.status = .active)
        (fun m => { m with status := .disabled }) db.paymentMethods }

/-- An `UPDATE` of one subscription, and the error when it does not affect one row. -/
def updateOneSubscription (mismatch : StoreError) (matched : Subscription → Bool)
    (f : Subscription → Subscription) : Program Unit :=
  onSubscriptions fun subscriptions =>
    if Table.rowsAffected matched subscriptions = 1 then
      (storeSubscriptions (Table.updateWhere matched f subscriptions)).map (·, ())
    else .error mismatch

/-- The discount row with one more period. -/
def SubscriptionDiscount.advanced (now : Timestamp) (total : ℕ) (d : SubscriptionDiscount) :
    SubscriptionDiscount :=
  { d with
    periodsApplied := d.periodsApplied + 1
    status := if d.periodsApplied + 1 = total then .completed else .active
    completedAt := if d.periodsApplied + 1 = total then some now else none }

/-- The subscription with the price after its discount. -/
def Subscription.withAmountCents (now : Timestamp) (cents : ℕ) (s : Subscription) : Subscription :=
  { s with amount := { s.amount with cents }, updatedAt := now }

/-- `advance_subscription_discount_after_successful_charge`. -/
def advanceDiscountAfterSuccessfulCharge (now : Timestamp) (subscriptionId : Id)
    (planKey : String) : Program Unit := do
  let owned (d : SubscriptionDiscount) : Bool :=
    d.subscriptionId = subscriptionId ∧ d.planKey = planKey
  match (← get).discounts.find? owned with
  | none => pure ()
  | some d =>
    if d.status = .completed then pure ()
    else
      match d.duration with
      | .indefinite =>
        if d.periodsApplied = 0 then
          modify fun db => { db with
            discounts := Table.updateWhere (fun d => owned d && d.status = .active)
              (fun d => { d with periodsApplied := 1 }) db.discounts }
        else if d.periodsApplied = 1 then pure ()
        else throw invalidApplicationState
      | .limitedMonths total =>
        if total ≤ d.periodsApplied then throw invalidApplicationState
        else
          modify fun db => { db with
            discounts := Table.updateWhere owned (·.advanced now total) db.discounts }
          if d.periodsApplied + 1 = total then
            onSubscriptions fun subscriptions =>
              (storeSubscriptions (Table.updateWhere (·.id = subscriptionId)
                (·.withAmountCents now d.baseAmount.cents) subscriptions)).map (·, ())
          else pure ()

/-! ## Renewal and recovery -/

/-- The row after a renewal. -/
def Subscription.renewed (now : Timestamp) (period : BillingPeriod) (s : Subscription) :
    Subscription :=
  { s with
    status := .active
    phase := .recurring
    currentPeriodStartAt := period.startAt
    currentPeriodEndAt := period.endAt
    nextRenewalAt := period.endAt
    nextPaymentAttemptAt := some period.endAt
    updatedAt := now }

/-- The row after a recovery, which also takes the new payment method. -/
def Subscription.recovered (now : Timestamp) (period : BillingPeriod) (methodId : Id) (tx : String)
    (s : Subscription) : Subscription :=
  { s.renewed now period with paymentMethodId := methodId, initialTransactionId := tx }

namespace SubscriptionChargeReservation

/-- The `WHERE` of the update of a renewal. -/
def renews (r : SubscriptionChargeReservation) (s : Subscription) : Bool :=
  r.locates s ∧ r.expects s ∧ s.initialTransactionId = r.expected.initialTransactionId ∧
    s.amount = r.amount

/-- The `WHERE` of the update of a recovery. -/
def recovers (r : SubscriptionChargeReservation) (s : Subscription) : Bool :=
  r.locates s ∧ r.expects s ∧ s.initialTransactionId = r.expected.initialTransactionId

/-- `renewal_subscription_matches` and `recovery_subscription_matches`. -/
def subscriptionMatches (r : SubscriptionChargeReservation) (db : Db) : Bool :=
  (db.subscriptions.find? r.locates).any fun s =>
    match r.kind with
    | .renewal => r.renewalSubscriptionMatches s
    | .recovery => r.recoverySubscriptionMatches s

/-- The code of an approval whose subscription has changed. -/
def staleStateCode (r : SubscriptionChargeReservation) : PaymentResolutionCode :=
  match r.kind with
  | .renewal => .subscriptionApprovedRenewalStaleState
  | .recovery => .subscriptionApprovedRecoveryStaleState

/-- `RENEWAL_STALE_STATE_TEXT` and `RECOVERY_STALE_STATE_TEXT`. -/
def staleStateText (r : SubscriptionChargeReservation) : String :=
  match r.kind with
  | .renewal =>
    "Approved subscription renewal could not update billing state because the subscription changed."
  | .recovery =>
    "Approved subscription recovery could not update billing state because the subscription changed."

/-- The error of an approval whose subject is no live recipient. -/
def recipientText (r : SubscriptionChargeReservation) : String :=
  match r.kind with
  | .renewal => "a subscription renewal event requires a live recipient"
  | .recovery => "a subscription recovery event requires a live recipient"

/-- The end of the reserved period, under a policy that rejects expired ones. -/
def expiredPeriodEnd (r : SubscriptionChargeReservation)
    (policy : SubscriptionPeriodExpiryPolicy) : Option Timestamp :=
  if policy = .rejectExpiredPeriods then some r.period.endAt else none

/-- The event of a renewal or a recovery. -/
def renewedEvent (r : SubscriptionChargeReservation) : BillingEvent :=
  .subscriptionRenewed r.identity.attemptId r.expected.subscriptionId r.planKey r.amount r.period

end SubscriptionChargeReservation

/-- The UUIDs that an application may generate. -/
structure NewIds where
  charge : Id
  method : Id
  subscription : Id
  deriving DecidableEq, Repr

/-- The message of an approval whose charge is another attempt's. -/
def ownedByOtherAttemptText : String :=
  "The approved gateway transaction is already owned by another payment attempt."

/-- The message of an approval after the first. -/
def additionalChargeText : String :=
  "An additional approved charge requires manual reversal review."

/-- `mark_attempt_approved`. -/
def markAttemptApproved (now : Timestamp) (a : PaymentAttempt) (evidence : ProcessorEvidence)
    (subscriptionId methodId : Id) : Program Unit :=
  persist now a.id (.persist evidence (.approved (.subscription subscriptionId methodId)))

/-- The subscription's side of a renewal or a recovery: the payment method that the attempt is
approved with. -/
def advanceSubscription (now : Timestamp) (ids : NewIds) (r : SubscriptionChargeReservation)
    (a : PaymentAttempt) (evidence : ProcessorEvidence) : Program Id := do
  match r.kind with
  | .renewal =>
    updateOneSubscription invalidApplicationState r.renews (·.renewed now r.period)
    advanceDiscountAfterSuccessfulCharge now r.expected.subscriptionId r.planKey
    pure r.expected.paymentMethodId
  | .recovery =>
    match evidence.transactionId with
    | none => throw invalidApplicationState
    | some tx =>
      let methodId ← upsertPaymentMethod ids.method a evidence
      updateOneSubscription invalidApplicationState r.recovers
        (·.recovered now r.period methodId tx)
      advanceDiscountAfterSuccessfulCharge now r.expected.subscriptionId r.planKey
      disablePaymentMethodIfUnreferenced r.expected.paymentMethodId
      pure methodId

/-- The application of an approval whose subscription is as it was reserved. -/
def applyCharge (now : Timestamp) (ids : NewIds) (r : SubscriptionChargeReservation)
    (a : PaymentAttempt) (evidence : ProcessorEvidence) (chargeId : Id) :
    Program PaymentAttempt := do
  let methodId ← advanceSubscription now ids r a evidence
  markAttemptApproved now a evidence r.expected.subscriptionId methodId
  moveCharge now chargeId .applied none
  let approved ← requireAttempt invalidApplicationState r.identity.billingScopeId
    r.identity.attemptId
  if loadSubscription r.identity.billingScopeId r.expected.subscriptionId (← get) = none then
    throw invalidApplicationState
  else
    appendEvents now [r.renewedEvent]
    pure approved

/-- The approval of an attempt that is still open. -/
def applyOpenChargeApproval (now : Timestamp) (ids : NewIds)
    (policy : SubscriptionPeriodExpiryPolicy) (r : SubscriptionChargeReservation)
    (a : PaymentAttempt) (evidence : ProcessorEvidence) : Program PaymentAttempt := do
  match ← observe now ids.charge a evidence .pending with
  | .ownedByOtherAttempt => parkLockedAttempt now a evidence none ownedByOtherAttemptText
  | .owned charge =>
    if charge.role = .additional then
      moveCharge now charge.id .externalReversalRequired none
      parkLockedAttempt now a evidence none additionalChargeText
    else if r.subscriptionMatches (← get) = false then
      moveCharge now charge.id .externalReversalRequired (some r.staleStateCode)
      parkLockedAttempt now a evidence (some r.staleStateCode) r.staleStateText
    else if policy = .rejectExpiredPeriods ∧ periodHasExpired now r.period.endAt then
      parkExpiredPeriodApproval now a charge.id evidence
    else applyCharge now ids r a evidence charge.id

/-- The approval of a renewal or recovery that has ended: it keeps its failure history. -/
def applyTerminalChargeApproval (now : Timestamp) (ids : NewIds)
    (policy : SubscriptionPeriodExpiryPolicy) (r : SubscriptionChargeReservation)
    (a : PaymentAttempt) (evidence : ProcessorEvidence) : Program PaymentAttempt := do
  match ← observe now ids.charge a evidence .externalReversalRequired with
  | .ownedByOtherAttempt => pure a
  | .owned charge =>
    if chargeIsExternallyReversed charge.id (← get) then paymentResultForAttempt a
    else
      moveCharge now charge.id .externalReversalRequired none
      let _ ← parkObservedApprovalIfPeriodExpired now a (.owned charge) evidence
        (r.expiredPeriodEnd policy)
      pure a

/-- An approval of an attempt that is already approved. -/
def applyApprovedAgain (now : Timestamp) (ids : NewIds) (a : PaymentAttempt)
    (evidence : ProcessorEvidence) : Program PaymentAttempt := do
  if loadAppliedSubscription a (← get) = none then throw invalidApplicationState
  else
    let _ ← observe now ids.charge a evidence .applied
    pure a

/-- `apply_renewal_approved_on_connection` and `apply_recovery_approved_on_connection`. -/
def applyChargeApproved (now : Timestamp) (ids : NewIds) (liveRecipient : Bool)
    (policy : SubscriptionPeriodExpiryPolicy) (r : SubscriptionChargeReservation)
    (evidence : ProcessorEvidence) : Program PaymentAttempt := do
  let a ← lockExpectedReservationAttempt (.charge r)
  match ← stopConflictingSubscriptionApproval now ids.charge a evidence with
  | some payment => pure payment
  | none =>
    if a.status = .approved then applyApprovedAgain now ids a evidence
    else if isParkedExpiredPeriodApproval a then
      let _ ← observe now ids.charge a evidence .externalReversalRequired
      pure a
    else if liveRecipient = false then throw (.invalidState r.recipientText)
    else if a.status.isTerminal then applyTerminalChargeApproval now ids policy r a evidence
    else applyOpenChargeApproval now ids policy r a evidence

/-- The progression that the compensation of a terminal attempt observes. -/
def compensatedProgression (a : PaymentAttempt) (evidence : ProcessorEvidence) :
    ProcessorChargeProgression :=
  if evidence.transactionId ≠ none ∧ 0 < a.amount.cents then .externalReversalRequired
  else .reconciliationRequired

/-- `try_park_renewal_approved_outcome` and `try_park_recovery_approved_outcome`: the compensation
of an approval that could not be applied, and the only step of one without its identity. -/
def tryParkChargeApproved (now : Timestamp) (newChargeId : Id)
    (policy : SubscriptionPeriodExpiryPolicy) (r : SubscriptionChargeReservation)
    (evidence : ProcessorEvidence) (message : String) : Program PaymentAttempt := do
  let a ← lockExpectedReservationAttempt (.charge r)
  if a.status = .approved then
    let _ ← observe now newChargeId a evidence .applied
    paymentResultForAttempt a
  else if a.status.isTerminal then
    let observation ← observe now newChargeId a evidence (compensatedProgression a evidence)
    let _ ← parkObservedApprovalIfPeriodExpired now a observation evidence
      (r.expiredPeriodEnd policy)
    paymentResultForAttempt a
  else
    let parked ← parkCompensatedApprovedAttempt now newChargeId a evidence message
      (r.expiredPeriodEnd policy)
    paymentResultForAttempt parked

/-- `observe_renewal_approved_evidence_with_retry` and its recovery, which hold only the attempt's
lock. -/
def observeChargeApproved (now : Timestamp) (newChargeId : Id)
    (policy : SubscriptionPeriodExpiryPolicy) (r : SubscriptionChargeReservation)
    (evidence : ProcessorEvidence) : Program Unit := do
  let a ← lockExpectedReservationAttempt (.charge r)
  let observation ← observe now newChargeId a evidence .pending
  let _ ← parkObservedApprovalIfPeriodExpired now a observation evidence (r.expiredPeriodEnd policy)
  pure ()

/-! ## Enrollment -/

/-- The projection of the terms that an enrollment attempt carries. -/
def activationProjection (offer : SubscriptionOffer)
    (discount : Option SubscriptionEnrollmentDiscountSnapshot) : SubscriptionActivationProjection :=
  fromExpectedTerms offer (discount.map (·.snapshot))

/-- `submitted_or_created_at`. -/
def PaymentAttempt.submittedOrCreatedAt (a : PaymentAttempt) : Timestamp :=
  a.submittedAt.getD a.createdAt

/-- The terms that an enrollment attempt carries, and the initial period that they give. -/
def initialTerms (a : PaymentAttempt) :
    Except StoreError (SubscriptionOffer × Option SubscriptionEnrollmentDiscountSnapshot ×
      BillingPeriod) :=
  match a.target with
  | .subscriptionInitial offer discount =>
    match nextBillingPeriod a.submittedOrCreatedAt
      (activationProjection offer discount).initialPeriodRule with
    | .ok period => .ok (offer, discount, period)
    | .error _ => .error invalidApplicationState
  | _ => .error invalidApplicationState

/-- `initial_period_end`, under a policy that rejects expired periods. -/
def initialExpiredPeriodEnd (policy : SubscriptionPeriodExpiryPolicy) (a : PaymentAttempt) :
    Program (Option Timestamp) :=
  if policy = .rejectExpiredPeriods then
    Tx.read fun _ => (initialTerms a).map fun terms => some terms.2.2.endAt
  else pure none

/-- The key of a subscriber's plan. -/
structure PlanOwner where
  billingScopeId : Id
  subscriberId : Id
  planKey : String
  deriving DecidableEq, Repr

/-- The owner of a subscription. -/
def Subscription.owner (s : Subscription) : PlanOwner :=
  ⟨s.billingScopeId, s.subscriberId, s.planKey⟩

/-- The owner of a grant. -/
def SubscriptionGrant.owner (g : SubscriptionGrant) : PlanOwner :=
  ⟨g.billingScopeId, g.subscriberId, g.planKey⟩

/-- The owner of the plan that an enrollment is for. -/
def SubscriptionEnrollmentReservation.owner (r : SubscriptionEnrollmentReservation) : PlanOwner :=
  ⟨r.identity.billingScopeId, r.identity.subscriberId, r.planKey⟩

/-- Whether a subscription is a current paid one: active, past due, or canceled with its period
still running. -/
def Subscription.isCurrent (at_ : Timestamp) (s : Subscription) : Bool :=
  s.status.isBilled || (s.status = .canceled && at_ < s.currentPeriodEndAt)

/-- Whether a grant is active: started, not ended, and not revoked. -/
def SubscriptionGrant.isActive (at_ : Timestamp) (g : SubscriptionGrant) : Bool :=
  g.startsAt ≤ at_ ∧ at_ < g.endsAt ∧ g.revokedAt = none

/-- `current_subscription_exists`. -/
def currentSubscriptionExists (now : Timestamp) (owner : PlanOwner) (db : Db) : Bool :=
  db.subscriptions.any fun s => s.owner = owner ∧ s.isCurrent now

/-- `active_grant_exists`. -/
def activeGrantExists (now : Timestamp) (owner : PlanOwner) (db : Db) : Bool :=
  db.grants.any fun g => g.owner = owner ∧ g.isActive now

/-- The row of `insert_subscription`. -/
def newSubscription (now : Timestamp) (subscriptionId methodId : Id) (a : PaymentAttempt)
    (offer : SubscriptionOffer) (activation : SubscriptionActivationProjection)
    (period : BillingPeriod) (tx : String) : Subscription where
  id := subscriptionId
  billingScopeId := a.billingScopeId
  subscriberId := a.subscriberId
  planKey := offer.planKey
  status := .active
  gatewayAccountId := a.gatewayAccountId
  paymentMethodId := methodId
  amount := { a.amount with cents := activation.recurringChargeAfterInitial.cents }
  currentPeriodStartAt := period.startAt
  currentPeriodEndAt := period.endAt
  nextRenewalAt := period.endAt
  initialTransactionId := tx
  canceledAt := none
  createdAt := now
  updatedAt := now
  phase := activation.phase
  recurringPeriod := offer.recurringPeriod
  renewalFailure := offer.renewalFailure
  nextPaymentAttemptAt := some period.endAt
  unpaidAt := none
  requiredGatewayAccountMode := a.requiredGatewayAccountMode

/-- The row that `apply_initial_discount` inserts. -/
def newDiscount (a : PaymentAttempt) (subscriptionId : Id) (planKey : String)
    (appliedAt : Timestamp) (periodsApplied : ℕ)
    (discount : SubscriptionEnrollmentDiscountSnapshot) : SubscriptionDiscount :=
  let completed : Bool := match discount.snapshot.duration with
    | .indefinite => false
    | .limitedMonths months => periodsApplied = months
  { subscriptionId
    billingScopeId := a.billingScopeId
    subscriberId := a.subscriberId
    planKey
    claimId := discount.claimId
    codeId := discount.codeId
    kind := discount.snapshot.kind
    duration := discount.snapshot.duration
    baseAmount := discount.snapshot.baseCharge
    discountedAmount := discount.snapshot.discountedCharge
    periodsApplied
    status := if completed then .completed else .active
    appliedAt
    completedAt := if completed then some appliedAt else none }

/-- `apply_initial_discount`: the discount, and its claim. -/
def applyInitialDiscount (a : PaymentAttempt) (subscriptionId : Id) (planKey : String)
    (appliedAt : Timestamp) (periodsApplied : ℕ)
    (discount : Option SubscriptionEnrollmentDiscountSnapshot) : Program Unit := do
  match discount with
  | none => pure ()
  | some discount =>
    let db ← get
    let claimed (c : SubscriptionDiscountClaim) : Bool :=
      c.id = discount.claimId ∧ c.billingScopeId = a.billingScopeId ∧
        c.subscriberId = a.subscriberId ∧ c.planKey = planKey ∧
        (c.status = .saved ∨ c.status = .expired) ∧ c.appliedSubscriptionId = none ∧
        c.appliedPaymentAttemptId = none
    if db.discounts.any (·.subscriptionId = subscriptionId) then throw .uniqueViolation
    else if Table.rowsAffected claimed db.discountClaims ≠ 1 then throw invalidApplicationState
    else
      set { db with
        discounts :=
          newDiscount a subscriptionId planKey appliedAt periodsApplied discount :: db.discounts
        discountClaims := Table.updateWhere claimed
          (fun c => { c with
            status := .applied
            appliedSubscriptionId := some subscriptionId
            appliedPaymentAttemptId := some a.id
            appliedAt := some appliedAt }) db.discountClaims }

/-- `CURRENT_SUBSCRIPTION_CONFLICT_TEXT`. -/
def currentSubscriptionConflictText : String :=
  "Approved subscription enrollment conflicts with a current subscription."

/-- `CURRENT_GRANT_CONFLICT_TEXT`. -/
def currentGrantConflictText : String :=
  "Approved subscription enrollment conflicts with an active subscription grant."

/-- `TERMINAL_APPROVAL_RACE_TEXT`. -/
def terminalApprovalRaceText : String :=
  "Approved processor evidence arrived after the enrollment attempt became terminal."

/-- The start of a subscription by an approval that nothing conflicts with. -/
def startSubscription (now : Timestamp) (ids : NewIds) (r : SubscriptionEnrollmentReservation)
    (a : PaymentAttempt) (evidence : ProcessorEvidence) (chargeId : Id) :
    Program PaymentAttempt := do
  let (offer, discount, period) ← Tx.read fun _ => initialTerms a
  let activation := activationProjection offer discount
  match evidence.transactionId with
  | none => throw invalidApplicationState
  | some tx =>
    let methodId ← upsertPaymentMethod ids.method a evidence
    onSubscriptions fun subscriptions =>
      (storeSubscriptions
        (newSubscription now ids.subscription methodId a offer activation period tx ::
          subscriptions)).map (·, ())
    applyInitialDiscount a ids.subscription offer.planKey a.submittedOrCreatedAt
      activation.discountPeriodsApplied discount
    markAttemptApproved now a evidence ids.subscription methodId
    moveCharge now chargeId .applied none
    let approved ← requireAttempt invalidApplicationState r.identity.billingScopeId
      r.identity.attemptId
    appendEvents now [.subscriptionStarted r.identity.attemptId ids.subscription r.planKey a.amount
      period activation.phase]
    pure approved

/-- The approval of an enrollment that is still open. The expiry of its period precedes the
conflicts, which can clear later. -/
def applyOpenEnrollmentApproval (now : Timestamp) (ids : NewIds)
    (policy : SubscriptionPeriodExpiryPolicy) (r : SubscriptionEnrollmentReservation)
    (a : PaymentAttempt) (evidence : ProcessorEvidence) : Program PaymentAttempt := do
  match ← observe now ids.charge a evidence .pending with
  | .ownedByOtherAttempt => parkLockedAttempt now a evidence none ownedByOtherAttemptText
  | .owned charge =>
    if charge.role = .additional then
      moveCharge now charge.id .externalReversalRequired none
      parkLockedAttempt now a evidence none additionalChargeText
    else
      let (_, _, period) ← Tx.read fun _ => initialTerms a
      if policy = .rejectExpiredPeriods ∧ evidence.transactionId ≠ none ∧
          periodHasExpired now period.endAt then
        parkExpiredPeriodApproval now a charge.id evidence
      else if currentSubscriptionExists now r.owner (← get) then
        moveCharge now charge.id .externalReversalRequired
          (some .subscriptionInitialCurrentSubscriptionConflict)
        parkLockedAttempt now a evidence (some .subscriptionInitialCurrentSubscriptionConflict)
          currentSubscriptionConflictText
      else if activeGrantExists now r.owner (← get) then
        moveCharge now charge.id .externalReversalRequired
          (some .subscriptionInitialCurrentGrantConflict)
        parkLockedAttempt now a evidence (some .subscriptionInitialCurrentGrantConflict)
          currentGrantConflictText
      else startSubscription now ids r a evidence charge.id

/-- The primary charge of a terminal enrollment whose initial period has expired. -/
def terminalExpiredCharge (now : Timestamp) (expiredPeriodEnd : Option Timestamp)
    (evidence : ProcessorEvidence) (observation : ObservedCharge) : Option ChargeRecord :=
  match observation with
  | .ownedByOtherAttempt => none
  | .owned charge =>
    if expiredPeriodEnd.any (periodHasExpired now) ∧ evidence.transactionId ≠ none ∧
        charge.role = .primary then some charge
    else none

/-- Whether an observation is of a charge that was reversed. -/
def ObservedCharge.isExternallyReversed (observation : ObservedCharge) (db : Db) : Bool :=
  match observation with
  | .ownedByOtherAttempt => false
  | .owned charge => chargeIsExternallyReversed charge.id db

/-- The approval of an enrollment that has ended, which is reopened for review unless the charge was
reversed. -/
def applyTerminalEnrollmentApproval (now : Timestamp) (ids : NewIds)
    (policy : SubscriptionPeriodExpiryPolicy) (a : PaymentAttempt) (evidence : ProcessorEvidence) :
    Program PaymentAttempt := do
  let observation ← observe now ids.charge a evidence .externalReversalRequired
  if observation.isExternallyReversed (← get) then paymentResultForAttempt a
  else
    let expiredPeriodEnd ← initialExpiredPeriodEnd policy a
    match terminalExpiredCharge now expiredPeriodEnd evidence observation with
    | some charge => parkExpiredPeriodApproval now a charge.id evidence
    | none =>
      let parked ← parkLockedAttempt now a evidence none terminalApprovalRaceText
      match observation with
      | .ownedByOtherAttempt => pure parked
      | .owned charge =>
        moveCharge now charge.id .externalReversalRequired none
        pure parked

/-- `apply_approved_on_connection`. -/
def applyEnrollmentApproved (now : Timestamp) (ids : NewIds) (liveRecipient : Bool)
    (policy : SubscriptionPeriodExpiryPolicy) (r : SubscriptionEnrollmentReservation)
    (evidence : ProcessorEvidence) : Program PaymentAttempt := do
  let a ← lockExpectedReservationAttempt (.initial r)
  match ← stopConflictingSubscriptionApproval now ids.charge a evidence with
  | some payment => pure payment
  | none =>
    if a.status = .approved then applyApprovedAgain now ids a evidence
    else if isParkedExpiredPeriodApproval a then
      let _ ← observe now ids.charge a evidence .externalReversalRequired
      pure a
    else if liveRecipient = false then
      throw (.invalidState "a new subscription enrollment event requires a live recipient")
    else if a.status.isTerminal then applyTerminalEnrollmentApproval now ids policy a evidence
    else applyOpenEnrollmentApproval now ids policy r a evidence

/-- `try_park_approved_outcome`. -/
def tryParkEnrollmentApproved (now : Timestamp) (newChargeId : Id)
    (policy : SubscriptionPeriodExpiryPolicy) (r : SubscriptionEnrollmentReservation)
    (evidence : ProcessorEvidence) (message : String) : Program PaymentAttempt := do
  let a ← lockExpectedReservationAttempt (.initial r)
  if a.status = .approved then
    let _ ← observe now newChargeId a evidence .applied
    paymentResultForAttempt a
  else if a.status.isTerminal then
    let observation ← observe now newChargeId a evidence (compensatedProgression a evidence)
    if compensatedProgression a evidence = .externalReversalRequired ∧
        observation.isExternallyReversed (← get) = false then
      let expiredPeriodEnd ← initialExpiredPeriodEnd policy a
      match terminalExpiredCharge now expiredPeriodEnd evidence observation with
      | some charge =>
        let parked ← parkExpiredPeriodApproval now a charge.id evidence
        paymentResultForAttempt parked
      | none => paymentResultForAttempt a
    else paymentResultForAttempt a
  else
    let expiredPeriodEnd ← initialExpiredPeriodEnd policy a
    let parked ← parkCompensatedApprovedAttempt now newChargeId a evidence message expiredPeriodEnd
    paymentResultForAttempt parked

/-- `observe_approved_evidence_with_retry`. -/
def observeEnrollmentApproved (now : Timestamp) (newChargeId : Id)
    (policy : SubscriptionPeriodExpiryPolicy) (r : SubscriptionEnrollmentReservation)
    (evidence : ProcessorEvidence) : Program Unit := do
  let a ← lockExpectedReservationAttempt (.initial r)
  let observation ← observe now newChargeId a evidence .pending
  let expiredPeriodEnd ← initialExpiredPeriodEnd policy a
  let _ ← parkObservedApprovalIfPeriodExpired now a observation evidence expiredPeriodEnd
  pure ()

end SyrupRail
