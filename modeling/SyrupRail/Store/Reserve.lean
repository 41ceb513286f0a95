import SyrupRail.Store.Outcome

/-!
# Reserving and admitting a charge of a subscription

How a renewal or a recovery of the next period of a subscription is reserved, and how a reserved one
is admitted to the gateway. Both first expire the attempts that were abandoned before their
submission. The gates of a reservation are apart from its insertion, which can still find the key of
another attempt in its way. The query of the due renewals repeats the gates as one predicate.
-/

namespace SyrupRail

/-! ## The state of a period -/

/-- `RenewalAttemptState`. -/
structure RenewalAttemptState where
  attemptSequenceCount : ℕ
  automaticInfrastructureAttemptCount : ℕ
  lastAutomaticInfrastructureFailureAt : Option Timestamp
  rateLimitedAttemptCount : ℕ
  lastRateLimitedAt : Option Timestamp
  hasBlockingAttempt : Bool
  deriving DecidableEq, Repr

/-- Whether an attempt is a renewal or recovery of a period of a subscription. -/
def PaymentAttempt.chargesPeriod (subscriptionId : Id) (periodStartAt : Timestamp)
    (a : PaymentAttempt) : Bool :=
  a.isSubscriptionCharge ∧ a.subscriptionId = some subscriptionId ∧
    a.periodStartAt = some periodStartAt

/-- Whether an attempt is a renewal that failed with one of the codes. -/
def PaymentAttempt.failedWith (codes : List PaymentResolutionCode) (a : PaymentAttempt) : Bool :=
  a.kind = .subscriptionRenewal ∧ a.status = .failed ∧ a.resolutionCode.any (· ∈ codes)

/-- Whether an attempt stands in the way of another charge of its period, unless it is one that the
next reservation expires. -/
def PaymentAttempt.blocksRetry (now : Timestamp) (a : PaymentAttempt) : Bool :=
  (a.status.isResolvable || a.status = .approved) && !a.isStaleUnsubmitted now

/-- `MAX(resolved_at)` of some rows. -/
def lastResolvedAt (rows : List PaymentAttempt) : Option Timestamp :=
  (rows.filterMap (·.resolvedAt)).max?

/-- The aggregates over the charges of a period, which the state of a reservation and the page of
the due renewals have in common. A null configuration is equal to none. -/
def renewalAttemptAggregates (now : Timestamp) (configurationId : Option Id)
    (rows : List PaymentAttempt) : RenewalAttemptState :=
  let configured := rows.filter fun a => some a.gatewayConfigurationId = configurationId
  { attemptSequenceCount := rows.length
    automaticInfrastructureAttemptCount :=
      configured.countP (·.failedWith renewalInfrastructureRetryCodes)
    lastAutomaticInfrastructureFailureAt :=
      lastResolvedAt (configured.filter (·.failedWith renewalInfrastructurePacingCodes))
    rateLimitedAttemptCount := rows.countP (·.failedWith renewalRateLimitPacingCodes)
    lastRateLimitedAt := lastResolvedAt (rows.filter (·.failedWith renewalRateLimitPacingCodes))
    hasBlockingAttempt := rows.any (·.blocksRetry now) }

/-- The gateway account of a subscription. -/
def accountOf (s : Subscription) (db : Db) : Option GatewayAccount :=
  db.gatewayAccounts.find? fun g => g.id = s.gatewayAccountId ∧ g.billingScopeId = s.billingScopeId

/-- `renewal_attempt_state`. -/
def renewalAttemptState (now : Timestamp) (subscriptionId : Id) (periodStartAt : Timestamp)
    (excludedAttemptId : Option Id) (db : Db) : RenewalAttemptState :=
  let configurationId :=
    ((Table.findBy Subscription.id subscriptionId db.subscriptions).bind fun s =>
      accountOf s db).map (·.gatewayConfigurationId)
  renewalAttemptAggregates now configurationId
    (db.attempts.filter fun a =>
      a.chargesPeriod subscriptionId periodStartAt ∧ excludedAttemptId.all (a.id ≠ ·))

/-- `MAX_RENEWAL_INFRASTRUCTURE_ATTEMPTS_PER_PERIOD_CONFIGURATION`. -/
def maxRenewalInfrastructureAttempts : ℕ := 8

/-- `RENEWAL_INFRASTRUCTURE_RETRY_AFTER_SECONDS`. -/
def renewalInfrastructureRetryAfterSeconds : ℕ := 24 * 60 * 60

/-- `RENEWAL_RATE_LIMIT_FAST_RETRY_ATTEMPTS`. -/
def renewalRateLimitFastRetryAttempts : ℕ := 5

/-- `RENEWAL_RATE_LIMIT_SLOW_RETRY_AFTER_SECONDS`. -/
def renewalRateLimitSlowRetryAfterSeconds : ℕ := 24 * 60 * 60

/-- `GATEWAY_MUTATION_RATE_LIMIT_RETRY_AFTER_SECONDS`. -/
def gatewayMutationRateLimitRetryAfterSeconds : ℕ := 60

/-- `rate_limit_retry_after_seconds`. -/
def rateLimitRetryAfterSeconds (attemptCount : ℕ) : ℕ :=
  if renewalRateLimitFastRetryAttempts ≤ attemptCount then renewalRateLimitSlowRetryAfterSeconds
  else gatewayMutationRateLimitRetryAfterSeconds

/-- `retry_window_elapsed`. -/
def retryWindowElapsed (lastAttemptAt : Option Timestamp) (now : Timestamp)
    (retryAfterSeconds : ℕ) : Bool :=
  lastAttemptAt.all (· ≤ now - seconds retryAfterSeconds)

/-- `blocks_automatic_retry`. -/
def RenewalAttemptState.blocksAutomaticRetry (now : Timestamp) (state : RenewalAttemptState) :
    Bool :=
  maxRenewalInfrastructureAttempts ≤ state.automaticInfrastructureAttemptCount ||
    state.hasBlockingAttempt ||
    !retryWindowElapsed state.lastAutomaticInfrastructureFailureAt now
      renewalInfrastructureRetryAfterSeconds ||
    !retryWindowElapsed state.lastRateLimitedAt now
      (rateLimitRetryAfterSeconds state.rateLimitedAttemptCount)

/-! ## Gates -/

/-- `fail_stale_unsubmitted_subscription_charges`. -/
def failStaleUnsubmittedSubscriptionCharges (now : Timestamp) (subscriptionId : Id) :
    Program Unit :=
  onAttempts (writeAttempts now
    (fun a => a.isSubscriptionCharge ∧ a.subscriptionId = some subscriptionId)
    .expireSubscriptionCharge)

/-- `fail_stale_unsubmitted_payment_method_updates`. -/
def failStaleUnsubmittedPaymentMethodUpdates (now : Timestamp) (keepResolvedAt : Bool)
    (subscriptionId : Id) : Program Unit :=
  onAttempts (writeAttempts now
    (fun a => a.kind = .subscriptionPaymentMethodUpdate ∧ a.subscriptionId = some subscriptionId)
    (.expirePaymentMethodUpdate keepResolvedAt))

/-- The two expiries that a reservation and an admission begin with. -/
def expireStaleAttempts (now : Timestamp) (subscriptionId : Id) : Program Unit := do
  failStaleUnsubmittedPaymentMethodUpdates now true subscriptionId
  failStaleUnsubmittedSubscriptionCharges now subscriptionId

/-- `blocking_subscription_charge_attempt_exists_except`: an open charge of the subscription, or an
approved one of the period that it is at. -/
def blockingSubscriptionChargeAttemptExists (subscriptionId : Id) (excludedAttemptId : Option Id)
    (db : Db) : Bool :=
  db.attempts.any fun a =>
    a.subscriptionId = some subscriptionId ∧ excludedAttemptId.all (a.id ≠ ·) ∧
      a.isSubscriptionCharge ∧
      (Table.findBy Subscription.id subscriptionId db.subscriptions).any fun s =>
        a.status.isResolvable || (a.status = .approved && a.periodStartAt = some s.nextRenewalAt)

/-- `blocking_payment_method_update_exists`. -/
def blockingPaymentMethodUpdateExists (subscriptionId : Id) (db : Db) : Bool :=
  db.attempts.any fun a =>
    a.subscriptionId = some subscriptionId ∧ a.kind = .subscriptionPaymentMethodUpdate ∧
      a.status.isResolvable

/-- `ExpectedGatewayIdentity`. -/
structure ExpectedGatewayIdentity where
  billingScopeId : Id
  gatewayAccountId : Id
  gatewayConfigurationId : Id
  providerKey : String
  deriving DecidableEq, Repr

/-- `gateway_identity_matches_account`. -/
def gatewayIdentityMatchesAccount (expected : ExpectedGatewayIdentity) (db : Db) : Bool :=
  (db.gatewayAccounts.find? fun g =>
    g.id = expected.gatewayAccountId ∧ g.billingScopeId = expected.billingScopeId).any fun g =>
      g.gatewayConfigurationId = expected.gatewayConfigurationId ∧
        g.providerKey = expected.providerKey

/-- `ResolvedGateway`: the gateway that the host resolved, with its references for mutations. -/
structure ResolvedGateway where
  billingScopeId : Id
  gatewayAccountId : Id
  gatewayConfigurationId : Id
  providerKey : String
  forAttempt : PaymentAttemptKind → Id → String

/-- Why a charge of a subscription is not reserved. -/
inductive ReservationRejection
  | subscriptionNotFound | paymentNotDue | gatewayAccountModeChanged | billingPeriodExpired
  | gatewayConfigurationChanged | attemptInProgress | paymentMethodUpdateInProgress | retryBlocked
  deriving DecidableEq, Repr

/-- The gates of a reservation after the expiries: the gateway, the charges, and the method
updates of the subscription. -/
def chargeGate (expected : ExpectedGatewayIdentity) (s : Subscription) (db : Db) :
    Option ReservationRejection :=
  if s.gatewayAccountId ≠ expected.gatewayAccountId ∨
      gatewayIdentityMatchesAccount expected db = false then
    some .gatewayConfigurationChanged
  else if blockingSubscriptionChargeAttemptExists s.id none db then some .attemptInProgress
  else if blockingPaymentMethodUpdateExists s.id db then some .paymentMethodUpdateInProgress
  else none

/-! ## Reservation -/

/-- The outcome of a reservation. -/
inductive ReservationOutcome
  | reserved (reservation : SubscriptionChargeReservation) (attempt : PaymentAttempt)
  | replay (attempt : PaymentAttempt)
  | idempotencyConflict
  | rejected (rejection : ReservationRejection)
  deriving DecidableEq, Repr

/-- The snapshot of a locked subscription. -/
def Subscription.paymentState (s : Subscription) : SubscriptionPaymentStateSnapshot where
  subscriptionId := s.id
  paymentMethodId := s.paymentMethodId
  initialTransactionId := s.initialTransactionId
  status := s.status

/-- `from_locked_subscription_terms`: the reservation of the subscription's next period. -/
def Subscription.reservation (s : Subscription) (kind : SubscriptionChargeKind)
    (gateway : ResolvedGateway) (attemptId : Id) (idempotencyKey : String)
    (period : BillingPeriod) : SubscriptionChargeReservation where
  kind := kind
  identity :=
    { attemptId
      billingScopeId := s.billingScopeId
      subscriberId := s.subscriberId
      gatewayAccountId := s.gatewayAccountId
      gatewayConfigurationId := gateway.gatewayConfigurationId
      requiredGatewayAccountMode := s.requiredGatewayAccountMode }
  providerKey := gateway.providerKey
  planKey := s.planKey
  paymentMethodId := s.paymentMethodId
  period := period
  expected := s.paymentState
  idempotencyKey := idempotencyKey
  amount := s.amount
  gatewayOrderId := gateway.forAttempt
    (match kind with
      | .renewal => .subscriptionRenewal
      | .recovery => .subscriptionRecovery) attemptId

/-- The values of `insert_renewal_attempt` and `insert_recovery_attempt`. -/
def SubscriptionChargeReservation.newAttempt (now : Timestamp) (r : SubscriptionChargeReservation)
    (h : r.amount.cents ≠ 0) : NewAttempt where
  id := r.identity.attemptId
  billingScopeId := r.identity.billingScopeId
  subscriberId := r.identity.subscriberId
  gatewayAccountId := r.identity.gatewayAccountId
  gatewayConfigurationId := r.identity.gatewayConfigurationId
  requiredGatewayAccountMode := r.identity.requiredGatewayAccountMode
  target := r.target
  idempotencyKey := r.idempotencyKey
  amount := r.amount
  gatewayOrderId := r.gatewayOrderId
  paymentMethodId := r.expected.paymentMethodId
  createdAt := now
  amount_fits := by
    rcases hk : r.kind with _ | _
    · simp [SubscriptionChargeReservation.target, hk, PaymentAttemptTarget.kind, h]
    · simp [SubscriptionChargeReservation.target, hk, PaymentAttemptTarget.kind, h]

/-- An `INSERT ... ON CONFLICT DO NOTHING` of an attempt, and whether there is a new row. -/
def insertOrIgnore (n : NewAttempt) : Program Bool :=
  Tx.statement Db.attempts (fun attempts db => { db with attempts }) fun attempts =>
    .ok (insertAttempt n attempts)

/-- The insertion of a reservation whose terms are those of the locked subscription: whether there
is a new row. -/
def insertReservation (now : Timestamp) (gateway : ResolvedGateway) (billingScopeId : Id)
    (r : SubscriptionChargeReservation) : Program Bool :=
  if h : r.amount.cents = 0 then throw invalidAttemptState
  else if gateway.billingScopeId ≠ billingScopeId then throw invalidAttemptState
  else insertOrIgnore (r.newAttempt now h)

/-- The next period of a subscription. -/
def nextPeriod (s : Subscription) : Except StoreError BillingPeriod :=
  match nextBillingPeriod s.nextRenewalAt s.recurringPeriod with
  | .ok period => .ok period
  | .error _ => .error invalidAttemptState

/-- `ChargeRenewal`. -/
structure ChargeRenewal where
  billingScopeId : Id
  subscriptionId : Id
  periodStartAt : Timestamp
  deriving DecidableEq, Repr

/-- What the gates of a renewal found. -/
inductive RenewalGates
  | rejected (rejection : ReservationRejection)
  | passed (subscription : Subscription) (state : RenewalAttemptState)
  deriving DecidableEq, Repr

/-- The gates of a renewal that follow the expiries. -/
def openRenewalGates (now : Timestamp) (gateway : ResolvedGateway) (command : ChargeRenewal)
    (s : Subscription) (db : Db) : RenewalGates :=
  let expected : ExpectedGatewayIdentity :=
    { billingScopeId := command.billingScopeId
      gatewayAccountId := gateway.gatewayAccountId
      gatewayConfigurationId := gateway.gatewayConfigurationId
      providerKey := gateway.providerKey }
  match chargeGate expected s db with
  | some rejection => .rejected rejection
  | none =>
    let state := renewalAttemptState now command.subscriptionId command.periodStartAt none db
    if state.blocksAutomaticRetry now then .rejected .retryBlocked else .passed s state

/-- Whether a policy rejects the next period of a subscription. -/
def nextPeriodIsRejected (now : Timestamp) (policy : SubscriptionPeriodExpiryPolicy)
    (s : Subscription) : Except StoreError Bool :=
  if policy = .rejectExpiredPeriods then
    (nextPeriod s).map fun period => periodHasExpired now period.endAt
  else .ok false

/-- Whether a renewal of a subscription is due for a command. -/
def Subscription.renewalIsDue (now : Timestamp) (command : ChargeRenewal) (s : Subscription) :
    Bool :=
  s.status.isBilled ∧ s.nextRenewalAt = command.periodStartAt ∧
    s.nextPaymentAttemptAt.any (· ≤ now)

/-- The gates of `reserve_subscription_renewal_with_policy_in_transaction`. -/
def renewalGates (now : Timestamp) (policy : SubscriptionPeriodExpiryPolicy)
    (mode : GatewayAccountMode) (gateway : ResolvedGateway) (command : ChargeRenewal) :
    Program RenewalGates := do
  match loadSubscription command.billingScopeId command.subscriptionId (← get) with
  | none => pure (.rejected .subscriptionNotFound)
  | some s =>
    if s.renewalIsDue now command = false then pure (.rejected .paymentNotDue)
    else if s.requiredGatewayAccountMode ≠ mode then pure (.rejected .gatewayAccountModeChanged)
    else
      let rejected ← Tx.read fun _ => nextPeriodIsRejected now policy s
      if rejected then pure (.rejected .billingPeriodExpired)
      else
        expireStaleAttempts now command.subscriptionId
        return openRenewalGates now gateway command s (← get)

/-- `renewal_attempt_idempotency_key`. -/
def renewalAttemptIdempotencyKey (subscriptionId : Id) (periodStartAt : Timestamp)
    (attemptSequenceCount : ℕ) : String :=
  "subscription-renewal:" ++ toString subscriptionId ++ ":" ++
    toString (periodStartAt / 1000000) ++ ":" ++ toString attemptSequenceCount

/-- The insertion of a renewal whose gates passed. -/
def insertRenewal (now : Timestamp) (gateway : ResolvedGateway) (command : ChargeRenewal)
    (attemptId : Id) (s : Subscription) (state : RenewalAttemptState) :
    Program ReservationOutcome := do
  let period ← Tx.read fun _ => nextPeriod s
  let r := s.reservation .renewal gateway attemptId
    (renewalAttemptIdempotencyKey command.subscriptionId command.periodStartAt
      state.attemptSequenceCount) period
  let inserted ← insertReservation now gateway command.billingScopeId r
  if inserted then
    let a ← requireAttempt invalidAttemptState r.identity.billingScopeId r.identity.attemptId
    pure (.reserved r a)
  else pure (.rejected .attemptInProgress)

/-- `reserve_subscription_renewal_with_policy_in_transaction`. -/
def reserveSubscriptionRenewal (now : Timestamp) (policy : SubscriptionPeriodExpiryPolicy)
    (mode : GatewayAccountMode) (gateway : ResolvedGateway) (attemptId : Id)
    (command : ChargeRenewal) : Program ReservationOutcome := do
  match ← renewalGates now policy mode gateway command with
  | .rejected rejection => pure (.rejected rejection)
  | .passed s state => insertRenewal now gateway command attemptId s state

/-- `RecoverSubscriptionPayment`. `contactMatches` is whether the billing contact is the one of the
attempt that the key already belongs to. -/
structure RecoverSubscriptionPayment where
  attemptId : Id
  billingScopeId : Id
  subscriberId : Id
  planKey : String
  gatewayConfigurationId : Id
  idempotencyKey : String
  contactMatches : Bool
  deriving DecidableEq, Repr

/-- `payment_attempt_by_idempotency`. -/
def paymentAttemptByIdempotency (billingScopeId subscriberId : Id) (idempotencyKey : String)
    (db : Db) : Except StoreError (Option PaymentAttempt) :=
  match db.attempts.find? fun a => a.billingScopeId = billingScopeId ∧
      a.subscriberId = subscriberId ∧ a.idempotencyKey = idempotencyKey with
  | none => .ok none
  | some a => (storedAttempt a).map some

/-- `recovery_attempt_matches_command`; a stored fingerprint is that of its own target. -/
def recoveryAttemptMatchesCommand (a : PaymentAttempt) (command : RecoverSubscriptionPayment) :
    Bool :=
  a.kind = .subscriptionRecovery ∧ a.billingScopeId = command.billingScopeId ∧
    a.subscriberId = command.subscriberId ∧
    a.gatewayConfigurationId = command.gatewayConfigurationId ∧
    a.target.planKey = some command.planKey ∧ command.contactMatches

/-- Whether `attempt_replay_disposition` is `ReturnCanonical`. -/
def PaymentAttempt.isCanonical (a : PaymentAttempt) : Bool :=
  ¬ ((a.status = .pending ∨ a.status = .reviewRequired) ∧ a.submittedAt = none)

/-- `recovery_attempt_matches_replay_context`. -/
def recoveryAttemptMatchesReplayContext (now : Timestamp) (a : PaymentAttempt) (db : Db) : Bool :=
  match a.target with
  | .subscriptionRecovery planKey period expected =>
    db.subscriptions.any fun s =>
      s.id = expected.subscriptionId ∧ s.billingScopeId = a.billingScopeId ∧
        s.subscriberId = a.subscriberId ∧ s.planKey = planKey ∧
        s.requiredGatewayAccountMode = a.requiredGatewayAccountMode ∧
        ((s.status.isBilled ∧ s.nextRenewalAt = period.startAt) ∨
          (a.status = .approved ∧ now < s.nextRenewalAt ∧ s.currentPeriodStartAt = period.startAt))
  | _ => false

/-- The answer to a replay of an attempt. -/
def replayOutcome (mode : GatewayAccountMode) (a : PaymentAttempt) : ReservationOutcome :=
  if a.isPrepared ∧ a.requiredGatewayAccountMode ≠ mode then .rejected .gatewayAccountModeChanged
  else .replay a

/-- `recovery_reservation_replay_outcome`. -/
def recoveryReservationReplayOutcome (now : Timestamp) (mode : GatewayAccountMode)
    (a : PaymentAttempt) : Program ReservationOutcome := do
  if a.isCanonical then pure (replayOutcome mode a)
  else
    match a.target.subscriptionId with
    | none => throw invalidAttemptState
    | some subscriptionId =>
      failStaleUnsubmittedSubscriptionCharges now subscriptionId
      let a ← requireAttempt invalidAttemptState a.billingScopeId a.id
      if a.isCanonical ∨ recoveryAttemptMatchesReplayContext now a (← get) then
        pure (replayOutcome mode a)
      else pure .idempotencyConflict

/-- The answer to a command whose key is already an attempt's. -/
def answerExistingRecovery (now : Timestamp) (mode : GatewayAccountMode)
    (command : RecoverSubscriptionPayment) (a : PaymentAttempt) : Program ReservationOutcome :=
  if recoveryAttemptMatchesCommand a command then recoveryReservationReplayOutcome now mode a
  else pure .idempotencyConflict

/-- The subscription that a recovery is for: `ORDER BY updated_at DESC, id DESC`. -/
def pastDueSubscription (command : RecoverSubscriptionPayment) (db : Db) : Option Subscription :=
  ((db.subscriptions.filter fun s =>
    s.billingScopeId = command.billingScopeId ∧ s.subscriberId = command.subscriberId ∧
      s.planKey = command.planKey ∧ s.status = .pastDue).insertionSort fun s s' =>
        s'.updatedAt < s.updatedAt ∨ (s'.updatedAt = s.updatedAt ∧ s'.id ≤ s.id)).head?

/-- The insertion of a recovery whose gates passed. -/
def insertRecovery (now : Timestamp) (mode : GatewayAccountMode) (gateway : ResolvedGateway)
    (command : RecoverSubscriptionPayment) (s : Subscription) : Program ReservationOutcome := do
  let period ← Tx.read fun _ => nextPeriod s
  let r := s.reservation .recovery gateway command.attemptId command.idempotencyKey period
  if gateway.gatewayConfigurationId ≠ command.gatewayConfigurationId then throw invalidAttemptState
  else
    let inserted ← insertReservation now gateway command.billingScopeId r
    let existing ← Tx.read (paymentAttemptByIdempotency command.billingScopeId command.subscriberId
      command.idempotencyKey)
    match existing with
    | some a => if inserted then pure (.reserved r a) else answerExistingRecovery now mode command a
    | none => if inserted then throw invalidAttemptState else pure (.rejected .attemptInProgress)

/-- `reserve_subscription_recovery_in_transaction`. -/
def reserveSubscriptionRecovery (now : Timestamp) (mode : GatewayAccountMode)
    (gateway : ResolvedGateway) (command : RecoverSubscriptionPayment) :
    Program ReservationOutcome := do
  let existing ← Tx.read (paymentAttemptByIdempotency command.billingScopeId command.subscriberId
    command.idempotencyKey)
  match existing with
  | some a => answerExistingRecovery now mode command a
  | none =>
    match pastDueSubscription command (← get) with
    | none => pure (.rejected .subscriptionNotFound)
    | some s =>
      if now < s.nextRenewalAt then pure (.rejected .paymentNotDue)
      else if s.requiredGatewayAccountMode ≠ mode then
        pure (.rejected .gatewayAccountModeChanged)
      else
        expireStaleAttempts now s.id
        let expected : ExpectedGatewayIdentity :=
          { billingScopeId := command.billingScopeId
            gatewayAccountId := gateway.gatewayAccountId
            gatewayConfigurationId := command.gatewayConfigurationId
            providerKey := gateway.providerKey }
        match chargeGate expected s (← get) with
        | some rejection => pure (.rejected rejection)
        | none => insertRecovery now mode gateway command s

/-! ## Admission -/

/-- Why a reserved charge is not admitted. -/
inductive SubmissionRejection
  | billingStateChanged | billingPeriodExpired | gatewayConfigurationChanged
  deriving DecidableEq, Repr

/-- The code of a rejection. -/
def SubmissionRejection.code : SubmissionRejection → PaymentResolutionCode
  | .billingStateChanged => .subscriptionRenewalRetryStateChangedBeforeCharge
  | .billingPeriodExpired => .subscriptionPeriodExpiredBeforeCharge
  | .gatewayConfigurationChanged => .gatewayConfigurationBeforeSubmission

/-- The text of a rejection. -/
def SubmissionRejection.text (kind : SubscriptionChargeKind) (rejection : SubmissionRejection) :
    String :=
  (match kind with
    | .renewal => "Subscription renewal was canceled before submission because "
    | .recovery => "Subscription recovery was canceled before submission because ") ++
  match rejection with
  | .billingStateChanged => "billing state changed."
  | .billingPeriodExpired => "its billing period ended."
  | .gatewayConfigurationChanged => "payment configuration changed."

/-- The outcome of an admission. -/
inductive SubmissionOutcome
  | admitted (attempt : PaymentAttempt)
  | alreadyAdmitted (attempt : PaymentAttempt)
  | rejected (attempt : PaymentAttempt) (rejection : SubmissionRejection)
  deriving DecidableEq, Repr

namespace SubscriptionChargeReservation

/-- The subscription's side of `state_matches`: only a renewal looks at the due time and at the
retry gates. -/
def subscriptionStateMatches (now : Timestamp) (r : SubscriptionChargeReservation) (db : Db) :
    Bool :=
  match r.kind with
  | .renewal =>
    (db.subscriptions.find? r.locates).any (r.renewalSubscriptionStateMatches now) &&
      !(renewalAttemptState now r.expected.subscriptionId r.period.startAt
        (some r.identity.attemptId) db).blocksAutomaticRetry now
  | .recovery => (db.subscriptions.find? r.locates).any r.recoverySubscriptionStateMatches

/-- The checks of an admission, in their order. -/
def submissionRejection (now : Timestamp) (policy : SubscriptionPeriodExpiryPolicy)
    (r : SubscriptionChargeReservation) (a : PaymentAttempt) (db : Db) :
    Option SubmissionRejection :=
  if ¬ (r.requestMatches a ∧ r.subscriptionStateMatches now db ∧
      blockingSubscriptionChargeAttemptExists r.expected.subscriptionId
        (some r.identity.attemptId) db = false ∧
      blockingPaymentMethodUpdateExists r.expected.subscriptionId db = false) then
    some .billingStateChanged
  else if policy = .rejectExpiredPeriods ∧ periodHasExpired now r.period.endAt then
    some .billingPeriodExpired
  else if gatewayIdentityMatchesAccount
      { billingScopeId := r.identity.billingScopeId
        gatewayAccountId := r.identity.gatewayAccountId
        gatewayConfigurationId := r.identity.gatewayConfigurationId
        providerKey := r.providerKey } db = false then
    some .gatewayConfigurationChanged
  else none

/-- The attempt of a reservation: a renewal is looked up by its id, a recovery by its key. -/
def findAttempt (r : SubscriptionChargeReservation) (db : Db) :
    Except StoreError (Option PaymentAttempt) :=
  match r.kind with
  | .renewal => findPaymentAttemptById db.attempts r.identity.billingScopeId r.identity.attemptId
  | .recovery => paymentAttemptByIdempotency r.identity.billingScopeId r.identity.subscriberId
      r.idempotencyKey db

end SubscriptionChargeReservation

/-- A writer of an admission on the attempt. -/
def writeAdmission (now : Timestamp) (a : PaymentAttempt) (w : AttemptWriter) :
    Program PaymentAttempt := do
  onAttempts (writeAttempt now invalidAttemptState a.id w)
  requireAttempt invalidAttemptState a.billingScopeId a.id

/-- `admit_subscription_renewal_submission_with_policy_in_transaction` and its recovery. -/
def admitSubmission (now : Timestamp) (policy : SubscriptionPeriodExpiryPolicy)
    (r : SubscriptionChargeReservation) : Program SubmissionOutcome := do
  expireStaleAttempts now r.expected.subscriptionId
  let found ← Tx.read r.findAttempt
  match found with
  | none => throw invalidAttemptState
  | some a =>
    if r.owns a = false then throw invalidAttemptState
    else if a.isPrepared = false then pure (.alreadyAdmitted a)
    else
      match r.submissionRejection now policy a (← get) with
      | some rejection =>
        let a ← writeAdmission now a (.reject rejection.code (rejection.text r.kind))
        pure (.rejected a rejection)
      | none => .admitted <$> writeAdmission now a .admitPrepared

/-! ## Due renewals -/

/-- `RenewalDispatch`. -/
structure RenewalDispatch where
  billingScopeId : Id
  subscriptionId : Id
  requiredGatewayAccountMode : GatewayAccountMode
  periodStartAt : Timestamp
  attemptSequenceCount : ℕ
  deriving DecidableEq, Repr

/-- The state of the current period of a subscription, as the page computes it. -/
def pageAttemptState (observedAt : Timestamp) (g : GatewayAccount) (s : Subscription) (db : Db) :
    RenewalAttemptState :=
  renewalAttemptAggregates observedAt (some g.gatewayConfigurationId)
    (db.attempts.filter (·.chargesPeriod s.id s.nextRenewalAt))

/-- Whether the cooldowns of an account and its provider have elapsed. -/
def cooldownsElapsed (observedAt : Timestamp) (g : GatewayAccount) (db : Db) : Bool :=
  (db.providerRateLimits.any fun limit =>
    limit.providerKey = g.providerKey ∧ limit.rateLimitedUntil ≤ observedAt) &&
  g.mutationRateLimitedUntil.all (· ≤ observedAt)

/-- The `WHERE` of the page on the aggregates of a period. -/
def RenewalAttemptState.pageAllows (observedAt : Timestamp) (state : RenewalAttemptState) : Bool :=
  let rateLimitSeconds :=
    if renewalRateLimitFastRetryAttempts ≤ state.rateLimitedAttemptCount then
      renewalRateLimitSlowRetryAfterSeconds
    else gatewayMutationRateLimitRetryAfterSeconds
  state.hasBlockingAttempt = false ∧
    state.automaticInfrastructureAttemptCount < maxRenewalInfrastructureAttempts ∧
    state.lastAutomaticInfrastructureFailureAt.all
      (· ≤ observedAt - seconds renewalInfrastructureRetryAfterSeconds) ∧
    state.lastRateLimitedAt.all (· ≤ observedAt - seconds rateLimitSeconds)

/-- Whether a payment-method update stands in the way of a renewal, unless it is one that the next
reservation expires. -/
def PaymentAttempt.isOpenMethodUpdate (observedAt : Timestamp) (subscriptionId : Id)
    (a : PaymentAttempt) : Bool :=
  a.subscriptionId = some subscriptionId ∧ a.kind = .subscriptionPaymentMethodUpdate ∧
    a.status.isResolvable ∧ a.isStaleUnsubmitted observedAt = false

/-- The `WHERE` of the page: a due subscription without an open method update, and with a period
that allows another attempt. -/
def isDueForRenewal (observedAt : Timestamp) (g : GatewayAccount) (s : Subscription) (db : Db) :
    Bool :=
  s.status.isBilled ∧ s.nextPaymentAttemptAt.any (· ≤ observedAt) ∧
    cooldownsElapsed observedAt g db ∧
    db.attempts.any (·.isOpenMethodUpdate observedAt s.id) = false ∧
    (pageAttemptState observedAt g s db).pageAllows observedAt

/-- The row of the page for a subscription. -/
def Subscription.dispatch (attemptSequenceCount : ℕ) (s : Subscription) : RenewalDispatch where
  billingScopeId := s.billingScopeId
  subscriptionId := s.id
  requiredGatewayAccountMode := s.requiredGatewayAccountMode
  periodStartAt := s.nextRenewalAt
  attemptSequenceCount := attemptSequenceCount

end SyrupRail
