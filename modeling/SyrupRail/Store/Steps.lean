import SyrupRail.Store.Frames

/-!
# The steps of the engine

Every operation is a quiet program and then at most one effect: a reservation, an admission, a
renewal, an enrollment, a step of a dunning schedule, an end of a subscription, or a change of a
grant. `Effect` says what each of them writes, with the guards it passed, and `Op.steps` takes all
the programs apart once. The laws of whole runs are proved by cases on `Effect`.
-/

namespace SyrupRail

open Transactions Tx

/-! ## Applied approvals -/

/-- The charge that an approval was applied on. -/
def ChargeApplied (a : PaymentAttempt) (evidence : ProcessorEvidence) (db db' : Db) : Prop :=
  (∀ time, ChargesTraced time [] db.ledger.charges db'.ledger.charges) ∧
    evidence.transactionId ≠ none ∧ OwnedAlone a evidence db.ledger.charges ∧
    ∃ c ∈ db'.ledger.charges, c.attemptId = a.id ∧ c.evidence = evidence ∧
      c.progression = .applied ∧ c.role = .primary

/-- The attempt that an approval resolved. -/
def AttemptApproved (now : Timestamp) (a : PaymentAttempt) (evidence : ProcessorEvidence)
    (subscriptionId methodId : Id) (db db' : Db) : Prop :=
  ∃ a',
    (AttemptWriter.persist evidence (.approved (.subscription subscriptionId methodId))).write now
      a = .ok a' ∧
    db'.attempts = Table.updateWhere (·.id = a.id) (fun _ => a') db.attempts ∧
    attemptIndexes db'.attempts = true

/-- The tables that an application leaves alone. -/
structure SameFrame (db db' : Db) : Prop where
  attestations : db'.ledger.attestations = db.ledger.attestations
  clock : db'.clock = db.clock
  gatewayAccounts : db'.gatewayAccounts = db.gatewayAccounts
  providerRateLimits : db'.providerRateLimits = db.providerRateLimits
  grants : db'.grants = db.grants

/-- The row of a subscription that a reservation renews or recovers, before its discount. -/
def SubscriptionChargeReservation.advanced (now : Timestamp) (methodId : Id)
    (evidence : ProcessorEvidence) (r : SubscriptionChargeReservation) (s : Subscription) :
    Subscription :=
  match r.kind with
  | .renewal => s.renewed now r.period
  | .recovery => s.recovered now r.period methodId (evidence.transactionId.getD "")

/-- What the application of a renewal or a recovery writes. `renewed` is the store between the
update of the subscription and that of its discount. -/
structure Renewed (now : Timestamp) (r : SubscriptionChargeReservation) (a : PaymentAttempt)
    (evidence : ProcessorEvidence) (db db' : Db) : Prop where
  mem : a ∈ db.attempts
  open_ : a.status.isResolvable = true
  reserved : r.matchesAttempt a = true
  subscription : ∃ s ∈ db.subscriptions, ∃ methodId renewed discounted,
    r.locates s = true ∧ r.expects s = true ∧ (r.kind = .renewal → s.amount = r.amount) ∧
    AttemptApproved now a evidence s.id methodId db db' ∧
    renewed.subscriptions =
      Table.updateWhere (·.id = s.id) (fun _ => r.advanced now methodId evidence s)
        db.subscriptions ∧
    (∀ t ∈ renewed.subscriptions, t.checks = true) ∧
    subscriptionIndexes renewed.subscriptions = true ∧
    renewed.discounts = db.discounts ∧
    advanceDiscountAfterSuccessfulCharge now s.id r.planKey renewed = .ok ((), discounted) ∧
    db'.subscriptions = discounted.subscriptions ∧ db'.discounts = discounted.discounts
  charge : ChargeApplied a evidence db db'
  frame : SameFrame db db'
  claims : db'.discountClaims = db.discountClaims
  events : db'.events = db.events ++ [(now, r.renewedEvent)]

/-- What the application of an enrollment writes. -/
structure Enrolled (now : Timestamp) (r : SubscriptionEnrollmentReservation) (a : PaymentAttempt)
    (evidence : ProcessorEvidence) (db db' : Db) : Prop where
  mem : a ∈ db.attempts
  open_ : a.status.isResolvable = true
  reserved : r.matchesAttempt a = true
  noCurrent : currentSubscriptionExists now r.owner db = false
  noGrant : activeGrantExists now r.owner db = false
  subscription : ∃ subscriptionId methodId offer discount period tx unclaimed claimed,
    initialTerms a = .ok (offer, discount, period) ∧ evidence.transactionId = some tx ∧
    AttemptApproved now a evidence subscriptionId methodId db db' ∧
    db'.subscriptions =
      newSubscription now subscriptionId methodId a offer (activationProjection offer discount)
        period tx :: db.subscriptions ∧
    (∀ s ∈ db'.subscriptions, s.checks = true) ∧ subscriptionIndexes db'.subscriptions = true ∧
    unclaimed.discounts = db.discounts ∧ unclaimed.discountClaims = db.discountClaims ∧
    applyInitialDiscount a subscriptionId offer.planKey a.submittedOrCreatedAt
      (activationProjection offer discount).discountPeriodsApplied discount unclaimed =
        .ok ((), claimed) ∧
    db'.discounts = claimed.discounts ∧ db'.discountClaims = claimed.discountClaims ∧
    db'.events = db.events ++ [(now, .subscriptionStarted a.id subscriptionId r.planKey a.amount
      period (activationProjection offer discount).phase)]
  charge : ChargeApplied a evidence db db'
  frame : SameFrame db db'

/-! ## Effects -/

/-- A subscription that an `UPDATE` of one row changes. -/
def SubscriptionUpdated (matched : Subscription → Bool) (f : Subscription → Subscription)
    (subscriptions subscriptions' : List Subscription) : Prop :=
  Table.rowsAffected matched subscriptions = 1 ∧
    subscriptions' = Table.updateWhere matched f subscriptions ∧
    (∀ s ∈ subscriptions', s.checks = true) ∧ subscriptionIndexes subscriptions' = true

/-- The effects of the engine at the time `now`. -/
inductive Effect (now : Timestamp) : Db → Db → Prop
  /-- A charge of the next period of a billed subscription is reserved. -/
  | reserve {db : Db} (s : Subscription) (kind : SubscriptionChargeKind) (gateway : ResolvedGateway)
      (attemptId : Id) (key : String) (period : BillingPeriod) (h : s.amount.cents ≠ 0)
      (mem : s ∈ db.subscriptions) (billed : s.status.isBilled = true)
      (period_eq : nextPeriod s = .ok period)
      (free : blockingSubscriptionChargeAttemptExists s.id none db = false)
      (indexes : attemptIndexes
        (((s.reservation kind gateway attemptId key period).newAttempt now h).row :: db.attempts) =
          true) :
      Effect now db { db with
        attempts := ((s.reservation kind gateway attemptId key period).newAttempt now h).row ::
          db.attempts }
  /-- An attempt that charges no period is reserved. -/
  | insert {db : Db} (n : NewAttempt) (created : n.createdAt = now)
      (kind : n.row.isSubscriptionCharge = false)
      (indexes : attemptIndexes (n.row :: db.attempts) = true) :
      Effect now db { db with attempts := n.row :: db.attempts }
  /-- A prepared charge is admitted, for a subscription that is as it was reserved. -/
  | admitPrepared {db : Db} (r : SubscriptionChargeReservation) (a a' : PaymentAttempt)
      (s : Subscription)
      (mem : a ∈ db.attempts) (prepared : a.isPrepared = true) (owned : r.owns a = true)
      (request : r.requestMatches a = true) (subscription : s ∈ db.subscriptions)
      (located : r.locates s = true) (expected : r.expects s = true)
      (free : blockingSubscriptionChargeAttemptExists s.id (some a.id) db = false)
      (write : AttemptWriter.admitPrepared.write now a = .ok a')
      (indexes : attemptIndexes
        (Table.updateWhere (·.id = a.id) (fun _ => a') db.attempts) = true) :
      Effect now db { db with
        attempts := Table.updateWhere (·.id = a.id) (fun _ => a') db.attempts }
  /-- A prepared update of a method is admitted, for a subscription that is as it was reserved. -/
  | admitUpdate {db : Db} (r : SubscriptionPaymentMethodReplacement) (a a' : PaymentAttempt)
      (s : Subscription) (mem : a ∈ db.attempts) (prepared : a.isPrepared = true)
      (request : r.requestMatches a = true) (subscription : s ∈ db.subscriptions)
      (located : r.locates s = true) (eligible : r.isEligible s = true)
      (write : AttemptWriter.admitPrepared.write now a = .ok a')
      (indexes : attemptIndexes
        (Table.updateWhere (·.id = a.id) (fun _ => a') db.attempts) = true) :
      Effect now db { db with
        attempts := Table.updateWhere (·.id = a.id) (fun _ => a') db.attempts }
  /-- A renewal that failed is one step of its dunning schedule. -/
  | fail {db : Db} (a : PaymentAttempt) (subscriptions : List Subscription)
      (application : RenewalFailureApplication)
      (applied : applyResolvedAutomaticRenewalFailure now db.attempts a db.subscriptions =
        .ok (subscriptions, application)) :
      Effect now db { db with
        subscriptions, events := db.events ++ application.events.map (now, ·) }
  /-- The retry of a failure is brought forward in the same transaction. -/
  | expedite {db : Db} (a : PaymentAttempt) (subscriptions subscriptions' : List Subscription)
      (retryAt : Timestamp) (events events' : List BillingEvent)
      (applied : applyResolvedAutomaticRenewalFailure now db.attempts a db.subscriptions =
        .ok (subscriptions, .applied (.retryScheduled retryAt) events))
      (expedited : SubscriptionUpdated
        (fun s => isSubscriptionOf a s && s.status = .pastDue &&
          s.nextPaymentAttemptAt = some retryAt)
        (·.expedited now) subscriptions subscriptions')
      (announced : expeditedEvents a.id retryAt (min now retryAt) events = .ok events') :
      Effect now db { db with
        subscriptions := subscriptions', events := db.events ++ events'.map (now, ·) }
  /-- A subscription is renewed or recovered. -/
  | renew {db db' : Db} (r : SubscriptionChargeReservation) (a : PaymentAttempt)
      (evidence : ProcessorEvidence) (renewed : Renewed now r a evidence db db') : Effect now db db'
  /-- A subscription starts. -/
  | enroll {db db' : Db} (r : SubscriptionEnrollmentReservation) (a : PaymentAttempt)
      (evidence : ProcessorEvidence) (enrolled : Enrolled now r a evidence db db') :
        Effect now db db'
  /-- A billed subscription without an open charge of its period is canceled. -/
  | cancel {db : Db} (s : Subscription) (accessEndsAt : Timestamp)
      (subscriptions : List Subscription)
      (mem : s ∈ db.subscriptions) (billed : s.status.isBilled = true)
      (free : hasBlockingRenewal s db = false)
      (freeUpdate : blockingPaymentMethodUpdateExists s.id db = false)
      (access : cancellationAccessEndsAt now s db = .ok accessEndsAt)
      (updated : SubscriptionUpdated
        (fun s' => s'.id = s.id ∧ s'.owner = s.owner ∧ s'.status = s.status) (·.canceledRow now)
        db.subscriptions subscriptions) :
      Effect now db { db with
        subscriptions
        events := db.events ++ [(now, .subscriptionCanceled s.id s.planKey accessEndsAt)] }
  /-- A billed subscription whose period has expired is retired. -/
  | retire {db : Db} (s : Subscription) (period : BillingPeriod) (accessEndsAt : Timestamp)
      (attempts : List PaymentAttempt) (subscriptions : List Subscription)
      (mem : s ∈ db.subscriptions) (billed : s.status.isBilled = true)
      (period_eq : nextBillingPeriod s.nextRenewalAt s.recurringPeriod = .ok period)
      (expired : period.endAt ≤ now)
      (free : unresolvedPaymentExists s.id s.nextRenewalAt db = false)
      (access : retirementAccessEndsAt now s db = .ok accessEndsAt)
      (rejected : writeAttempts now (·.chargesPeriod s.id s.nextRenewalAt)
        (.reject .subscriptionPeriodExpiredBeforeCharge retiredPeriodUnsubmittedText) db.attempts =
          .ok attempts)
      (updated : SubscriptionUpdated
        (fun s' => s'.id = s.id ∧ s'.owner = s.owner ∧ s'.status = s.status ∧
          s'.nextRenewalAt = s.nextRenewalAt ∧ s'.unpaidAt = none ∧ s'.canceledAt = none)
        (·.retiredRow now) db.subscriptions subscriptions) :
      Effect now db { db with
        attempts
        subscriptions
        events := db.events ++
          [(now, .subscriptionPeriodExpired s.id s.planKey period now accessEndsAt)] }
  /-- The access policy of a billed subscription changes. -/
  | changeAccess {db : Db} (access : PastDueAccessPolicy) (matched : Subscription → Bool)
      (subscriptions : List Subscription)
      (billed : ∀ s, matched s = true → s.status.isBilled = true)
      (updated : SubscriptionUpdated matched (·.withPastDueAccess now access) db.subscriptions
        subscriptions) :
      Effect now db { db with subscriptions }
  /-- The payment method of a billed subscription is replaced, unless it already has the new one. -/
  | replace {db : Db} (r : SubscriptionPaymentMethodReplacement) (methodId : Id) (tx : String)
      (subscriptions : List Subscription) (paymentMethods : List PaymentMethod)
      (rebound : subscriptions = db.subscriptions ∨
        SubscriptionUpdated (fun s => r.locates s ∧ r.isEligible s ∧ r.baselineMatches s)
          (·.withPaymentMethod now methodId tx) db.subscriptions subscriptions) :
      Effect now db { db with
        subscriptions
        paymentMethods
        events := db.events ++ [(now, r.changedEvent)] }
  /-- A grant is given to an owner without access. -/
  | grant {db : Db} (creation : SubscriptionGrantCreation) (future : now < creation.endsAt)
      (noCurrent : currentSubscriptionExists now creation.owner db = false)
      (noGrant : activeGrantExists now creation.owner db = false) :
      Effect now db { db with grants := creation.row now :: db.grants }
  /-- A grant is revoked. -/
  | revoke {db : Db} (revocation : SubscriptionGrantRevocation) :
      Effect now db { db with
        grants := Table.updateWhere (·.id = revocation.id) (·.revoked now revocation) db.grants }
  /-- The rows that no operation of the engine writes. -/
  | configure {db : Db} (gatewayAccounts : List GatewayAccount)
      (providerRateLimits : List GatewayProviderRateLimit) (paymentMethods : List PaymentMethod)
      (discountClaims : List SubscriptionDiscountClaim) :
      Effect now db { db with gatewayAccounts, providerRateLimits, paymentMethods, discountClaims }

/-- What an operation does: a quiet program, and at most one effect. -/
def Steps (now : Timestamp) (db db' : Db) : Prop :=
  ∃ db₁, Quiet now db db₁ ∧ (db' = db₁ ∨ Effect now db₁ db')

section Steps

variable {now : Timestamp} {db db' db'' : Db}

/-- Quiet statements alone. -/
theorem Quiet.steps (h : Quiet now db db') : Steps now db db' := ⟨db', h, .inl rfl⟩

/-- An effect alone. -/
theorem Effect.steps (h : Effect now db db') : Steps now db db' := ⟨db, .refl now db, .inr h⟩

/-- A quiet program before a step. -/
theorem Quiet.then (h : Quiet now db db') (h' : Steps now db' db'') : Steps now db db'' := by
  obtain ⟨db₁, hquiet, heffect⟩ := h'
  exact ⟨db₁, h.trans hquiet, heffect⟩

/-! ## Valid tables -/

/-- A store whose tables meet their constraints and indexes. -/
structure Db.Valid (db : Db) : Prop where
  attempts : attemptIndexes db.attempts = true
  rows : ∀ a ∈ db.attempts, a.Stored
  linked : ∀ a ∈ db.attempts, a.Linked
  subscriptions : subscriptionIndexes db.subscriptions = true
  checks : ∀ s ∈ db.subscriptions, s.checks = true
  charges : ChargesValid db.ledger.charges

/-- A quiet program leaves every other table. -/
theorem Quiet.subscriptions (h : Quiet now db db') : db'.subscriptions = db.subscriptions := by
  obtain ⟨attempts, ledger, rfl⟩ := h.frame
  rfl

/-- A quiet program keeps the tables valid. -/
theorem Quiet.valid (h : Quiet now db db') (hvalid : db.Valid) : db'.Valid where
  attempts := h.indexes hvalid.attempts
  rows a' ha' := by
    obtain ⟨a, ha, hrow⟩ := Table.exists_of_mem_right h.rows ha'
    exact hrow.stored (hvalid.rows a ha)
  linked a' ha' := by
    obtain ⟨a, ha, hrow⟩ := Table.exists_of_mem_right h.rows ha'
    exact hrow.linked (hvalid.linked a ha)
  subscriptions := by
    rw [h.subscriptions]
    exact hvalid.subscriptions
  checks := by
    rw [h.subscriptions]
    exact hvalid.checks
  charges := h.charges.valid hvalid.charges

/-! ## Reservations -/

/-- The insertion of an attempt adds its row, or changes nothing. -/
theorem ensures_insertOrIgnore {n : NewAttempt} :
    Ensures (insertOrIgnore n) db fun inserted db' =>
      (inserted = false ∧ db' = db) ∨
        (inserted = true ∧ attemptIndexes (n.row :: db.attempts) = true ∧
          db' = { db with attempts := n.row :: db.attempts }) := by
  rw [insertOrIgnore, ensures_statement]
  intro attempts inserted h
  have h := Except.ok.inj h
  unfold insertAttempt at h
  split_ifs at h with hindexes
  · obtain ⟨rfl, rfl⟩ := Prod.mk.inj h
    exact .inr ⟨rfl, hindexes, rfl⟩
  · obtain ⟨rfl, rfl⟩ := Prod.mk.inj h
    exact .inl ⟨rfl, rfl⟩

/-- The reservation of a charge is that effect, or changes nothing. -/
theorem ensures_insertReservation {gateway gateway' : ResolvedGateway} {billingScopeId : Id}
    {s : Subscription} {kind : SubscriptionChargeKind} {attemptId : Id} {key : String}
    {period : BillingPeriod} (mem : s ∈ db.subscriptions) (billed : s.status.isBilled = true)
    (period_eq : nextPeriod s = .ok period)
    (free : blockingSubscriptionChargeAttemptExists s.id none db = false) :
    Ensures (insertReservation now gateway' billingScopeId
      (s.reservation kind gateway attemptId key period)) db fun inserted db' =>
        (inserted = false ∧ db' = db) ∨ (inserted = true ∧ Effect now db db') := by
  unfold insertReservation
  split
  · exact ensures_throw
  · rename_i hamount
    rw [ensures_ite]
    refine ⟨fun _ => ensures_throw, fun _ => ensures_insertOrIgnore.mono fun inserted db' h => ?_⟩
    refine h.imp_right fun ⟨hinserted, indexes, hdb⟩ => ⟨hinserted, ?_⟩
    rw [hdb]
    exact .reserve s kind gateway attemptId key period hamount mem billed period_eq free indexes

/-- A subscription that is loaded is in the table. -/
theorem loadSubscription_eq_some {billingScopeId subscriptionId : Id} {s : Subscription}
    (h : loadSubscription billingScopeId subscriptionId db = some s) :
    s ∈ db.subscriptions ∧ s.billingScopeId = billingScopeId ∧ s.id = subscriptionId := by
  have hp : s.billingScopeId = billingScopeId ∧ s.id = subscriptionId := by
    simpa using List.find?_some h
  exact ⟨List.mem_of_find?_eq_some h, hp⟩

/-- The gates after the expiries find no open charge. -/
theorem chargeGate_eq_none {expected : ExpectedGatewayIdentity} {s : Subscription}
    (h : chargeGate expected s db = none) :
    blockingSubscriptionChargeAttemptExists s.id none db = false := by
  unfold chargeGate at h
  split_ifs at h with _ hfree
  simpa using hfree

/-- The gates of a renewal only expire stale attempts. -/
theorem ensures_renewalGates {policy : SubscriptionPeriodExpiryPolicy} {mode : GatewayAccountMode}
    {gateway : ResolvedGateway} {command : ChargeRenewal} :
    Ensures (renewalGates now policy mode gateway command) db fun gates db' =>
      Quiet now db db' ∧ ∀ s state, gates = .passed s state →
        s ∈ db'.subscriptions ∧ s.status.isBilled = true ∧
          blockingSubscriptionChargeAttemptExists s.id none db' = false := by
  have rejected (rejection : ReservationRejection) :
      Ensures (pure (.rejected rejection) : Program RenewalGates) db fun gates db' =>
        Quiet now db db' ∧ ∀ s state, gates = .passed s state →
          s ∈ db'.subscriptions ∧ s.status.isBilled = true ∧
            blockingSubscriptionChargeAttemptExists s.id none db' = false :=
    ensures_pure.mpr ⟨.refl now db, fun _ _ h => by cases h⟩
  rw [renewalGates, ensures_bind, ensures_get]
  split
  · exact rejected _
  · rename_i s hload
    obtain ⟨mem, -, -⟩ := loadSubscription_eq_some hload
    rw [ensures_ite]
    refine ⟨fun _ => rejected _, fun hdue => ?_⟩
    rw [ensures_ite]
    refine ⟨fun _ => rejected _, fun _ => ?_⟩
    rw [ensures_bind, ensures_read]
    intro expired _
    rw [ensures_ite]
    refine ⟨fun _ => rejected _, fun _ => ?_⟩
    rw [ensures_bind]
    refine ensures_expireStaleAttempts.mono fun _ db₁ h₁ => ?_
    rw [ensures_bind, ensures_get]
    refine ensures_pure.mpr ⟨h₁, fun s' state hgates => ?_⟩
    simp only [openRenewalGates] at hgates
    split at hgates
    · cases hgates
    · rename_i hgate
      split at hgates
      · cases hgates
      · obtain ⟨rfl, -⟩ := RenewalGates.passed.inj hgates
        have hbilled : s.status.isBilled = true := by
          simp only [Subscription.renewalIsDue, Bool.not_eq_false, decide_eq_true_eq] at hdue
          exact hdue.1
        exact ⟨by rwa [h₁.subscriptions], hbilled, chargeGate_eq_none hgate⟩

/-- The reservation of a renewal. -/
theorem ensures_reserveRenewal {policy : SubscriptionPeriodExpiryPolicy} {mode : GatewayAccountMode}
    {gateway : ResolvedGateway} {attemptId : Id} {command : ChargeRenewal} :
    Ensures (reserveSubscriptionRenewal now policy mode gateway attemptId command) db
      fun _ db' => Steps now db db' := by
  rw [reserveSubscriptionRenewal, ensures_bind]
  refine ensures_renewalGates.mono fun gates db₁ hpost => ?_
  obtain ⟨hquiet, hpassed⟩ := hpost
  cases gates with
  | rejected rejection => exact ensures_pure.mpr hquiet.steps
  | passed s state =>
    obtain ⟨mem, billed, free⟩ := hpassed s state rfl
    simp only [insertRenewal]
    rw [ensures_bind, ensures_read]
    intro period hperiod
    rw [ensures_bind]
    refine (ensures_insertReservation mem billed hperiod free).mono fun inserted db₂ h₂ => ?_
    have hsteps : Steps now db db₂ := by
      rcases h₂ with ⟨-, rfl⟩ | ⟨-, heffect⟩
      · exact hquiet.steps
      · exact hquiet.then heffect.steps
    rw [ensures_ite]
    refine ⟨fun _ => ?_, fun _ => ensures_pure.mpr hsteps⟩
    rw [ensures_bind]
    exact ensures_requireAttempt fun _ _ _ _ => ensures_pure.mpr hsteps

/-- The answer to a key that is already an attempt's expires stale charges at most. -/
theorem ensures_answerExisting {mode : GatewayAccountMode} {command : RecoverSubscriptionPayment}
    {a : PaymentAttempt} :
    Ensures (answerExistingRecovery now mode command a) db fun _ db' => Quiet now db db' := by
  unfold answerExistingRecovery
  rw [ensures_ite]
  refine ⟨fun _ => ?_, fun _ => ensures_pure.mpr (.refl now db)⟩
  rw [recoveryReservationReplayOutcome, ensures_ite]
  refine ⟨fun _ => ensures_pure.mpr (.refl now db), fun _ => ?_⟩
  split
  · exact ensures_throw
  · rw [ensures_bind]
    refine ensures_failStaleCharges.mono fun _ db₁ h₁ => ?_
    rw [ensures_bind]
    refine ensures_requireAttempt fun _ _ _ _ => ?_
    rw [ensures_bind, ensures_get, ensures_ite]
    exact ⟨fun _ => ensures_pure.mpr h₁, fun _ => ensures_pure.mpr h₁⟩

/-- The subscription of a recovery is a past-due one of the table. -/
theorem pastDueSubscription_eq_some {command : RecoverSubscriptionPayment} {s : Subscription}
    (h : pastDueSubscription command db = some s) :
    s ∈ db.subscriptions ∧ s.status = .pastDue := by
  have hmem := List.mem_of_head? h
  rw [List.mem_insertionSort, List.mem_filter] at hmem
  have hp := of_decide_eq_true hmem.2
  exact ⟨hmem.1, hp.2.2.2⟩

/-- The insertion of a recovery. -/
theorem ensures_insertRecovery {mode : GatewayAccountMode} {gateway : ResolvedGateway}
    {command : RecoverSubscriptionPayment} {s : Subscription} (mem : s ∈ db.subscriptions)
    (billed : s.status.isBilled = true)
    (free : blockingSubscriptionChargeAttemptExists s.id none db = false) :
    Ensures (insertRecovery now mode gateway command s) db fun _ db' => Steps now db db' := by
  rw [insertRecovery, ensures_bind, ensures_read]
  intro period hperiod
  simp only []
  rw [ensures_ite]
  refine ⟨fun _ => ensures_throw, fun _ => ?_⟩
  rw [ensures_bind]
  refine (ensures_insertReservation mem billed hperiod free).mono fun inserted db₁ h₁ => ?_
  rw [ensures_bind, ensures_read]
  intro existing _
  rcases h₁ with ⟨rfl, rfl⟩ | ⟨rfl, heffect⟩
  · cases existing with
    | none => exact ensures_pure.mpr (Quiet.refl now db₁).steps
    | some a => exact ensures_answerExisting.mono fun _ _ h => h.steps
  · cases existing with
    | none => exact ensures_throw
    | some a => exact ensures_pure.mpr heffect.steps

/-- The reservation of a recovery. -/
theorem ensures_reserveRecovery {mode : GatewayAccountMode} {gateway : ResolvedGateway}
    {command : RecoverSubscriptionPayment} :
    Ensures (reserveSubscriptionRecovery now mode gateway command) db
      fun _ db' => Steps now db db' := by
  have rejected (rejection : ReservationRejection) :
      Ensures (pure (.rejected rejection) : Program ReservationOutcome) db
        fun _ db' => Steps now db db' := ensures_pure.mpr (Quiet.refl now db).steps
  rw [reserveSubscriptionRecovery, ensures_bind, ensures_read]
  intro existing _
  cases existing with
  | some a => exact ensures_answerExisting.mono fun _ _ h => h.steps
  | none =>
    rw [ensures_bind, ensures_get]
    split
    · exact rejected _
    · rename_i s hfind
      obtain ⟨mem, hpastDue⟩ := pastDueSubscription_eq_some hfind
      rw [ensures_ite]
      refine ⟨fun _ => rejected _, fun _ => ?_⟩
      rw [ensures_ite]
      refine ⟨fun _ => rejected _, fun _ => ?_⟩
      rw [ensures_bind]
      refine ensures_expireStaleAttempts.mono fun _ db₁ h₁ => ?_
      rw [ensures_bind, ensures_get]
      split
      · exact ensures_pure.mpr h₁.steps
      · rename_i hgate
        refine (ensures_insertRecovery (by rwa [h₁.subscriptions]) ?_
          (chargeGate_eq_none hgate)).mono fun _ _ h => h₁.then h
        rw [hpastDue]
        rfl

/-- The insertion of an attempt that charges no period is a step. -/
theorem ensures_insertOther {n : NewAttempt} (created : n.createdAt = now)
    (kind : n.row.isSubscriptionCharge = false) :
    Ensures (insertOrIgnore n) db fun _ db' => Steps now db db' := by
  refine ensures_insertOrIgnore.mono fun inserted db₁ h₁ => ?_
  rcases h₁ with ⟨-, rfl⟩ | ⟨-, hindexes, rfl⟩
  · exact (Quiet.refl now db₁).steps
  · exact (Effect.insert n created kind hindexes).steps

/-- The reservation of an enrollment or of a host charge. -/
theorem ensures_reserveOther {n : NewAttempt} :
    Ensures (reserveOther now n) db fun _ db' => Steps now db db' := by
  unfold reserveOther
  rw [ensures_ite]
  refine ⟨fun hkind => ?_, fun _ => ensures_throw⟩
  rw [ensures_bind]
  refine (ensures_insertOther rfl ?_).mono fun _ _ h => ensures_pure.mpr h
  rcases hkind with hk | hk
  · exact decide_eq_false (by simp [PaymentAttempt.kind, NewAttempt.row, hk])
  · exact decide_eq_false (by simp [PaymentAttempt.kind, NewAttempt.row, hk])

/-! ## Admission -/

/-- The attempt that was found by its key is in the table. -/
theorem paymentAttemptByIdempotency_eq_some {billingScopeId subscriberId : Id} {key : String}
    {a : PaymentAttempt}
    (h : paymentAttemptByIdempotency billingScopeId subscriberId key db = .ok (some a)) :
    a ∈ db.attempts := by
  unfold paymentAttemptByIdempotency at h
  split at h
  · simp at h
  · rename_i b hfind
    obtain ⟨c, hc, hsome⟩ := map_eq_ok.mp h
    obtain rfl := Option.some.inj hsome
    unfold storedAttempt at hc
    split_ifs at hc
    obtain rfl := Except.ok.inj hc
    exact List.mem_of_find?_eq_some hfind

/-- The attempt that an admission looks up is in the table. -/
theorem SubscriptionChargeReservation.findAttempt_eq_some {r : SubscriptionChargeReservation}
    {a : PaymentAttempt} (h : r.findAttempt db = .ok (some a)) : a ∈ db.attempts := by
  unfold SubscriptionChargeReservation.findAttempt at h
  split at h
  · exact (findPaymentAttemptById_eq_some h).1
  · exact paymentAttemptByIdempotency_eq_some h

/-- The subscription of an admission that nothing rejects. -/
theorem SubscriptionChargeReservation.submissionRejection_eq_none
    {r : SubscriptionChargeReservation} {policy : SubscriptionPeriodExpiryPolicy}
    {a : PaymentAttempt} (h : r.submissionRejection now policy a db = none) :
    r.requestMatches a = true ∧ (∃ s ∈ db.subscriptions, r.locates s = true ∧ r.expects s = true) ∧
      blockingSubscriptionChargeAttemptExists r.expected.subscriptionId
        (some r.identity.attemptId) db = false := by
  unfold SubscriptionChargeReservation.submissionRejection at h
  split_ifs at h with hstate
  obtain ⟨hrequest, hsubscription, hfree, -⟩ := hstate
  refine ⟨hrequest, ?_, hfree⟩
  unfold SubscriptionChargeReservation.subscriptionStateMatches at hsubscription
  split at hsubscription
  · rw [Bool.and_eq_true, Option.any_eq_true] at hsubscription
    obtain ⟨⟨s, hfind, hmatches⟩, -⟩ := hsubscription
    have hexpects := (of_decide_eq_true (of_decide_eq_true hmatches).1).1
    exact ⟨s, List.mem_of_find?_eq_some hfind, List.find?_some hfind, hexpects⟩
  · rw [Option.any_eq_true] at hsubscription
    obtain ⟨s, hfind, hmatches⟩ := hsubscription
    exact ⟨s, List.mem_of_find?_eq_some hfind, List.find?_some hfind,
      (of_decide_eq_true hmatches).1⟩

/-- An admission. -/
theorem ensures_admitSubmission {policy : SubscriptionPeriodExpiryPolicy}
    {r : SubscriptionChargeReservation} (hindex : attemptIndexes db.attempts = true) :
    Ensures (admitSubmission now policy r) db fun _ db' => Steps now db db' := by
  rw [admitSubmission, ensures_bind]
  refine ensures_expireStaleAttempts.mono fun _ db₁ h₁ => ?_
  rw [ensures_bind, ensures_read]
  intro found hfound
  cases found with
  | none => exact ensures_throw
  | some a =>
    have ha := r.findAttempt_eq_some hfound
    have hindex₁ := h₁.indexes hindex
    rw [ensures_ite]
    refine ⟨fun _ => ensures_throw, fun howns => ?_⟩
    rw [ensures_ite]
    refine ⟨fun _ => ensures_pure.mpr h₁.steps, fun hprepared => ?_⟩
    rw [ensures_bind, ensures_get]
    split
    · rw [ensures_bind, writeAdmission, ensures_bind]
      refine (ensures_writeAttempt hindex₁ fun b _ _ =>
        AttemptWriter.quietWriter_of_isPlain rfl b).mono fun _ db₂ h₂ => ?_
      exact ensures_requireAttempt fun _ _ _ _ => ensures_pure.mpr (h₁.trans h₂).steps
    · rename_i hrejection
      obtain ⟨request, ⟨s, mem, located, expected⟩, free⟩ :=
        r.submissionRejection_eq_none hrejection
      have howns : r.owns a = true := by simpa using howns
      have hid : r.identity.attemptId = a.id :=
        congrArg PaymentAttemptIdentity.attemptId (of_decide_eq_true howns).1.symm
      have hs : s.id = r.expected.subscriptionId := (of_decide_eq_true located).1
      rw [hid, ← hs] at free
      rw [map_eq_pure_bind, ensures_bind, writeAdmission, ensures_bind, ensures_onAttempts]
      intro attempts hwrite
      obtain ⟨b, hb, hbid, b', hwritten, rfl, hindexes⟩ := writeAttempt_eq_ok hwrite
      obtain rfl := nodup_id_of_attemptIndexes hindex₁ hb ha hbid
      refine ensures_requireAttempt fun _ _ _ _ => ensures_pure.mpr (h₁.then ?_)
      exact (Effect.admitPrepared r b b' s ha (by simpa using hprepared) howns request mem located
        expected free hwritten hindexes).steps

end Steps

end SyrupRail
