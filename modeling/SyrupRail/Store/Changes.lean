import SyrupRail.Store.Operations

/-!
# What a step does to a subscription

Every row of `billing_subscriptions` that an effect changes is billed, and there is one of them: it
is renewed, failed, expedited, canceled, retired, or changed. `SubscriptionChange` lists these with
what their transaction has checked, and `Effect.subscriptions` finds the one that an effect is. The
tables stay valid, so that a law of the store holds along every run that starts from a fresh one as
soon as each quiet program and each effect keeps it.
-/

namespace SyrupRail

open Transactions Tx

/-! ## Steps of dunning -/

/-- A failure that the dunning engine applies: what it has read, and what it decides. -/
structure FailureApplied (attempts : List PaymentAttempt) (a : PaymentAttempt)
    (v : ValidatedRenewalFailureAttempt) (s : Subscription) (history : PastDueCausalHistory)
    (disposition : RenewalFailureDisposition) (events : List BillingEvent) : Prop where
  validated : validateResolvedRenewalAttempt a = .ok v
  durable : findPaymentAttemptById attempts v.billingScopeId v.attemptId = .ok (some a)
  locked : v.locks s = true
  causes : pastDueCausalHistory attempts s.id s.nextRenewalAt = .ok history
  period : s.nextRenewalAt = v.periodStartAt
  latest : history.automatic.latest = some ⟨v.attemptId, v.resolvedAt⟩
  disposed : renewalFailureDisposition s.renewalFailure history.automatic.count v.resolvedAt =
    .ok disposition
  retried : history.automatic.previousWasRetried s.renewalFailure = true
  before : beforeIsValid v.submittedAt s.nextRenewalAt s.failureProjection history = true
  announced : failureEvents v s.renewalFailure history disposition = .ok events

/-- A decision to apply a failure passed every guard. -/
theorem decideRenewalFailure_eq_apply {v : ValidatedRenewalFailureAttempt} {s : Subscription}
    {history : PastDueCausalHistory} {t : RenewalFailureTransition}
    (h : decideRenewalFailure v s history = .ok (.apply t)) :
    s.nextRenewalAt = v.periodStartAt ∧
      history.automatic.latest = some ⟨v.attemptId, v.resolvedAt⟩ ∧
      renewalFailureDisposition s.renewalFailure history.automatic.count v.resolvedAt =
        .ok t.disposition ∧
      history.automatic.previousWasRetried s.renewalFailure = true ∧
      beforeIsValid v.submittedAt s.nextRenewalAt s.failureProjection history = true ∧
      failureEvents v s.renewalFailure history t.disposition = .ok t.events ∧
      t.before = s.failureProjection ∧ t.after = t.disposition.projection := by
  unfold decideRenewalFailure at h
  split at h
  · cases h
  rename_i hperiod
  split at h
  · cases h
  rename_i latest hlatest
  split at h
  · cases h
  rename_i hattempt
  split at h
  · cases h
  rename_i hresolved
  split at h
  · cases h
  rename_i disposition hdisposition
  split at h
  · cases h
  rename_i hretried
  split at h
  · cases h
  split at h
  · cases h
  rename_i hbefore
  obtain ⟨events, hevents, happly⟩ := map_eq_ok.mp h
  obtain rfl := RenewalFailureDecision.apply.inj happly
  have hattempt : latest.attemptId = v.attemptId := by simpa using hattempt
  have hresolved : latest.resolvedAt = v.resolvedAt := by simpa using hresolved
  refine ⟨by simpa using hperiod, ?_, ?_, by simpa using hretried, by simpa using hbefore, hevents,
    rfl, rfl⟩
  · rw [hlatest, ← hattempt, ← hresolved]
  · rw [← hresolved, hdisposition]

/-- A failure that is applied changes the row of its subscription. -/
theorem applyResolvedAutomaticRenewalFailure_eq_ok {now : Timestamp}
    {attempts : List PaymentAttempt} {a : PaymentAttempt}
    {subscriptions subscriptions' : List Subscription} {application : RenewalFailureApplication}
    (hindex : subscriptionIndexes subscriptions = true)
    (h : applyResolvedAutomaticRenewalFailure now attempts a subscriptions =
      .ok (subscriptions', application)) :
    (application = .noop ∧ subscriptions' = subscriptions) ∨
      ∃ v, ∃ s ∈ subscriptions, ∃ history disposition events,
        FailureApplied attempts a v s history disposition events ∧
        application = .applied disposition events ∧
        subscriptions' = Table.updateWhere (·.id = s.id)
          (fun _ => s.withFailure now disposition.projection) subscriptions ∧
        (∀ t ∈ subscriptions', t.checks = true) ∧ subscriptionIndexes subscriptions' = true := by
  unfold applyResolvedAutomaticRenewalFailure at h
  obtain ⟨v, hv, h⟩ := bind_eq_ok.mp h
  obtain ⟨durable, hdurable, h⟩ := bind_eq_ok.mp h
  split at h
  · cases h
  rename_i hsame
  obtain rfl : durable = some a := by simpa using hsame
  split at h
  · cases h
  rename_i s hfind
  have hs := List.mem_of_find?_eq_some hfind
  have hlocks : v.locks s = true := List.find?_some hfind
  have hid : s.id = v.subscriptionId := (of_decide_eq_true hlocks).1
  rw [← hid] at h
  obtain ⟨history, hhistory, h⟩ := bind_eq_ok.mp h
  obtain ⟨decision, hdecision, h⟩ := bind_eq_ok.mp h
  cases decision with
  | noop =>
    obtain ⟨rfl, rfl⟩ := Prod.mk.inj (Except.ok.inj h)
    exact .inl ⟨rfl, rfl⟩
  | apply t =>
    obtain ⟨rows, hpersist, h⟩ := bind_eq_ok.mp h
    obtain ⟨rfl, rfl⟩ := Prod.mk.inj (Except.ok.inj h)
    obtain ⟨hperiod, hlatest, hdisposition, hretried, hbefore, hevents, ht, hafter⟩ :=
      decideRenewalFailure_eq_apply hdecision
    unfold persistRenewalFailureTransition at hpersist
    simp only [] at hpersist
    split at hpersist
    · rename_i hone
      obtain ⟨hrows, hchecks, hindexes⟩ := storeSubscriptions_eq_ok hpersist
      rw [← hrows] at hchecks hindexes
      obtain ⟨s', hs', hmatched, hupdate⟩ :=
        Table.updateWhere_of_rowsAffected_eq_one (nodup_id_of_subscriptionIndexes hindex) hone
      obtain rfl :=
        Table.eq_of_key_eq (nodup_id_of_subscriptionIndexes hindex) hs' hs
          (of_decide_eq_true hmatched).1
      refine .inr ⟨v, s', hs, history, t.disposition, t.events, ?_, rfl, ?_, hchecks, hindexes⟩
      · exact ⟨hv, hdurable, hlocks, hhistory, hperiod, hlatest, hdisposition, hretried, hbefore,
          hevents⟩
      · rw [hrows, hupdate, hafter]
    · cases hpersist

/-- What is validated of a failed renewal. -/
theorem validateResolvedRenewalAttempt_ok {a : PaymentAttempt} {v : ValidatedRenewalFailureAttempt}
    (h : validateResolvedRenewalAttempt a = .ok v) :
    a.kind = .subscriptionRenewal ∧ (a.status = .declined ∨ a.status = .failed) ∧
      a.resolutionCode = none ∧ a.submittedAt = some v.submittedAt ∧
      a.resolvedAt = some v.resolvedAt ∧ v.attemptId = a.id ∧
      a.target.subscriptionId = some v.subscriptionId ∧ a.periodStartAt = some v.periodStartAt ∧
      a.target.planKey = some v.planKey := by
  unfold validateResolvedRenewalAttempt at h
  split at h
  · rename_i planKey period expected htarget
    split at h
    · rename_i hstatus
      split at h
      · rename_i submittedAt resolvedAt hsubmitted hresolved
        obtain rfl := Except.ok.inj h
        refine ⟨?_, hstatus.1, hstatus.2, hsubmitted, hresolved, rfl, ?_, ?_, ?_⟩
        · rw [PaymentAttempt.kind, htarget]
          rfl
        · rw [htarget]
          rfl
        · rw [PaymentAttempt.periodStartAt, htarget]
          rfl
        · rw [htarget]
          rfl
      · cases h
    · cases h
  · cases h

/-- The subscription of an applied failure is billed. -/
theorem FailureApplied.isBilled {attempts : List PaymentAttempt} {a : PaymentAttempt}
    {v : ValidatedRenewalFailureAttempt} {s : Subscription} {history : PastDueCausalHistory}
    {disposition : RenewalFailureDisposition} {events : List BillingEvent}
    (h : FailureApplied attempts a v s history disposition events) : s.status.isBilled = true := by
  have hbefore := h.before
  unfold beforeIsValid at hbefore
  simp only [Subscription.failureProjection] at hbefore
  split at hbefore
  · cases hbefore
  · obtain ⟨hstatus, -⟩ := of_decide_eq_true hbefore
    rcases hstatus with hactive | ⟨hpastDue, -⟩
    · rw [hactive]
      rfl
    · rw [hpastDue]
      rfl
  · rw [(of_decide_eq_true hbefore).1]
    rfl

/-! ## Discounts -/

/-- The discount of a subscription on a plan. -/
def SubscriptionDiscount.isOf (subscriptionId : Id) (planKey : String) (d : SubscriptionDiscount) :
    Bool :=
  d.subscriptionId = subscriptionId ∧ d.planKey = planKey

/-- What an advance of a discount does. -/
inductive DiscountAdvance (now : Timestamp) (subscriptionId : Id) (planKey : String) (db : Db) :
    Db → Prop
  /-- There is no discount, or it has ended, or it was already counted. -/
  | none (h : ∀ d, db.discounts.find? (·.isOf subscriptionId planKey) = some d →
      d.status = .completed ∨ (d.duration = .indefinite ∧ d.periodsApplied = 1)) :
      DiscountAdvance now subscriptionId planKey db db
  /-- The first period of an indefinite discount. -/
  | indefinite (d : SubscriptionDiscount)
      (found : db.discounts.find? (·.isOf subscriptionId planKey) = some d)
      (active : d.status ≠ .completed) (duration : d.duration = .indefinite)
      (first : d.periodsApplied = 0) :
      DiscountAdvance now subscriptionId planKey db { db with
        discounts :=
          Table.updateWhere (fun d => d.isOf subscriptionId planKey && d.status = .active)
            (fun d => { d with periodsApplied := 1 }) db.discounts }
  /-- A period of a limited discount that has more. -/
  | counted (d : SubscriptionDiscount) (total : ℕ)
      (found : db.discounts.find? (·.isOf subscriptionId planKey) = some d)
      (active : d.status ≠ .completed) (duration : d.duration = .limitedMonths total)
      (more : d.periodsApplied + 1 < total) :
      DiscountAdvance now subscriptionId planKey db { db with
        discounts := Table.updateWhere (·.isOf subscriptionId planKey) (·.advanced now total)
          db.discounts }
  /-- The last period of a limited discount: the price goes back to the base. -/
  | completed (d : SubscriptionDiscount) (total : ℕ) (subscriptions : List Subscription)
      (found : db.discounts.find? (·.isOf subscriptionId planKey) = some d)
      (active : d.status ≠ .completed) (duration : d.duration = .limitedMonths total)
      (last : d.periodsApplied + 1 = total)
      (priced : subscriptions = Table.updateWhere (·.id = subscriptionId)
        (·.withAmountCents now d.baseAmount.cents) db.subscriptions)
      (checks : ∀ s ∈ subscriptions, s.checks = true)
      (indexes : subscriptionIndexes subscriptions = true) :
      DiscountAdvance now subscriptionId planKey db { db with
        discounts := Table.updateWhere (·.isOf subscriptionId planKey) (·.advanced now total)
          db.discounts
        subscriptions }

/-- The advance of a discount is one of these. -/
theorem ensures_discountAdvance {now : Timestamp} {subscriptionId : Id} {planKey : String}
    {db : Db} :
    Ensures (advanceDiscountAfterSuccessfulCharge now subscriptionId planKey) db fun _ db' =>
      DiscountAdvance now subscriptionId planKey db db' := by
  rw [advanceDiscountAfterSuccessfulCharge, ensures_bind, ensures_get]
  simp only []
  split
  · rename_i hnone
    refine ensures_pure.mpr (.none fun d hd => ?_)
    rw [show db.discounts.find? (·.isOf subscriptionId planKey) = none from hnone] at hd
    cases hd
  rename_i d hfound
  have same : ∀ d', db.discounts.find? (·.isOf subscriptionId planKey) = some d' → d' = d :=
    fun d' hd' => Option.some.inj (hd'.symm.trans hfound)
  rw [ensures_ite]
  refine ⟨fun hcompleted => ensures_pure.mpr (.none fun d' hd' => ?_), fun hactive => ?_⟩
  · rw [same d' hd']
    exact .inl hcompleted
  split
  · rename_i hduration
    rw [ensures_ite]
    refine ⟨fun hfirst => ensures_modify.mpr (.indefinite d hfound hactive hduration hfirst),
      fun _ => ?_⟩
    rw [ensures_ite]
    refine ⟨fun hone => ensures_pure.mpr (.none fun d' hd' => ?_), fun _ => ensures_throw⟩
    rw [same d' hd']
    exact .inr ⟨hduration, hone⟩
  · rename_i total hduration
    rw [ensures_ite]
    refine ⟨fun _ => ensures_throw, fun hmore => ?_⟩
    rw [ensures_bind, ensures_modify, ensures_ite]
    refine ⟨fun hlast => ?_, fun hlast => ensures_pure.mpr ?_⟩
    · rw [ensures_onSubscriptions]
      intro subscriptions _ h
      obtain ⟨rows, hstore, hpair⟩ := map_eq_ok.mp h
      obtain ⟨rfl, -⟩ := Prod.mk.inj hpair
      obtain ⟨hrows, hchecks, hindexes⟩ := storeSubscriptions_eq_ok hstore
      rw [← hrows] at hchecks hindexes
      exact .completed d total rows hfound hactive hduration hlast hrows hchecks hindexes
    · exact .counted d total hfound hactive hduration (by omega)

/-- The advance of a discount changes at most the price of its subscription. -/
theorem DiscountAdvance.subscriptions {now : Timestamp} {subscriptionId : Id} {planKey : String}
    {db db' : Db} (h : DiscountAdvance now subscriptionId planKey db db') :
    db'.subscriptions = db.subscriptions ∨
      ∃ cents, db'.subscriptions = Table.updateWhere (·.id = subscriptionId)
          (·.withAmountCents now cents) db.subscriptions ∧
        (∀ s ∈ db'.subscriptions, s.checks = true) ∧ subscriptionIndexes db'.subscriptions =
          true := by
  cases h with
  | none _ => exact .inl rfl
  | indefinite => exact .inl rfl
  | counted => exact .inl rfl
  | completed d total subscriptions _ _ _ _ priced checks indexes =>
    exact .inr ⟨d.baseAmount.cents, priced, checks, indexes⟩

/-- An advance does not touch the discounts of other subscriptions. -/
theorem DiscountAdvance.others {now : Timestamp} {subscriptionId id : Id} {planKey : String}
    {db db' : Db} (h : DiscountAdvance now subscriptionId planKey db db')
    (hne : id ≠ subscriptionId) :
    db'.discounts.filter (·.subscriptionId = id) = db.discounts.filter (·.subscriptionId = id) := by
  have other {d : SubscriptionDiscount} (hof : d.isOf subscriptionId planKey = true) :
      decide (d.subscriptionId = id) = false := by
    rw [(of_decide_eq_true hof).1]
    exact decide_eq_false hne.symm
  cases h with
  | none _ => rfl
  | indefinite =>
    refine Table.filter_updateWhere_of_disjoint fun d _ hd => ?_
    have hof := other (Bool.and_eq_true_iff.mp hd).1
    exact ⟨hof, hof⟩
  | counted =>
    exact Table.filter_updateWhere_of_disjoint fun d _ hd => ⟨other hd, other hd⟩
  | completed =>
    exact Table.filter_updateWhere_of_disjoint fun d _ hd => ⟨other hd, other hd⟩

/-- The claim that an enrollment's discount was reserved with, while it may still be applied. -/
def SubscriptionEnrollmentDiscountSnapshot.claims (a : PaymentAttempt) (planKey : String)
    (discount : SubscriptionEnrollmentDiscountSnapshot) (c : SubscriptionDiscountClaim) : Bool :=
  c.id = discount.claimId ∧ c.billingScopeId = a.billingScopeId ∧
    c.subscriberId = a.subscriberId ∧ c.planKey = planKey ∧
    (c.status = .saved ∨ c.status = .expired) ∧ c.appliedSubscriptionId = none ∧
    c.appliedPaymentAttemptId = none

/-- The row of a claim that an enrollment has applied. -/
def SubscriptionDiscountClaim.applied (a : PaymentAttempt) (subscriptionId : Id)
    (appliedAt : Timestamp) (c : SubscriptionDiscountClaim) : SubscriptionDiscountClaim :=
  { c with
    status := .applied
    appliedSubscriptionId := some subscriptionId
    appliedPaymentAttemptId := some a.id
    appliedAt := some appliedAt }

/-- What the application of an enrollment's discount does. -/
inductive InitialDiscount (a : PaymentAttempt) (subscriptionId : Id) (planKey : String)
    (appliedAt : Timestamp) (periodsApplied : ℕ) (db : Db) :
    Option SubscriptionEnrollmentDiscountSnapshot → Db → Prop
  /-- The enrollment has none. -/
  | none : InitialDiscount a subscriptionId planKey appliedAt periodsApplied db none db
  /-- The discount is inserted, and its claim is applied. -/
  | applied (discount : SubscriptionEnrollmentDiscountSnapshot)
      (new : ∀ d ∈ db.discounts, d.subscriptionId ≠ subscriptionId)
      (claimed : Table.rowsAffected (discount.claims a planKey) db.discountClaims = 1) :
      InitialDiscount a subscriptionId planKey appliedAt periodsApplied db (some discount) { db with
        discounts :=
          newDiscount a subscriptionId planKey appliedAt periodsApplied discount :: db.discounts
        discountClaims := Table.updateWhere (discount.claims a planKey)
          (·.applied a subscriptionId appliedAt) db.discountClaims }

/-- The application of an enrollment's discount is one of these. -/
theorem ensures_initialDiscount {a : PaymentAttempt} {subscriptionId : Id} {planKey : String}
    {appliedAt : Timestamp} {periodsApplied : ℕ} {db : Db}
    {discount : Option SubscriptionEnrollmentDiscountSnapshot} :
    Ensures (applyInitialDiscount a subscriptionId planKey appliedAt periodsApplied discount) db
      fun _ db' => InitialDiscount a subscriptionId planKey appliedAt periodsApplied db discount
        db' := by
  unfold applyInitialDiscount
  split
  · exact ensures_pure.mpr .none
  · rename_i discount
    rw [ensures_bind, ensures_get]
    simp only []
    rw [ensures_ite]
    refine ⟨fun _ => ensures_throw, fun hnew => ?_⟩
    rw [ensures_ite]
    refine ⟨fun _ => ensures_throw, fun hclaimed => ?_⟩
    refine ensures_modify.mpr (.applied discount (fun d hd hid => hnew ?_) ?_)
    · exact List.any_eq_true.mpr ⟨d, hd, decide_eq_true hid⟩
    · exact not_not.mp hclaimed

/-! ## Changes of a subscription -/

/-- What an effect may write to the row of a billed subscription. -/
inductive SubscriptionChange (now : Timestamp) (db db' : Db) (s : Subscription) :
    Subscription → Prop
  /-- The charge of its next period is approved; the price changes when a discount ends with it. -/
  | renewed (r : SubscriptionChargeReservation) (a : PaymentAttempt) (evidence : ProcessorEvidence)
      (methodId : Id) (s' : Subscription) (renewed : Renewed now r a evidence db db')
      (located : r.locates s = true) (expected : r.expects s = true)
      (charged : r.kind = .renewal → s.amount = r.amount)
      (approved : AttemptApproved now a evidence s.id methodId db db')
      (priced : s' = r.advanced now methodId evidence s ∨
        ∃ cents, s' = (r.advanced now methodId evidence s).withAmountCents now cents) :
      SubscriptionChange now db db' s s'
  /-- A charge of its next period has failed. -/
  | failed (a : PaymentAttempt) (v : ValidatedRenewalFailureAttempt)
      (history : PastDueCausalHistory)
      (disposition : RenewalFailureDisposition) (events : List BillingEvent)
      (applied : FailureApplied db.attempts a v s history disposition events)
      (rows : db'.attempts = db.attempts)
      (announced : db'.events = db.events ++ events.map (now, ·)) :
      SubscriptionChange now db db' s (s.withFailure now disposition.projection)
  /-- A charge of its next period has failed by hand, to be tried again at once. -/
  | expedited (a : PaymentAttempt) (v : ValidatedRenewalFailureAttempt)
      (history : PastDueCausalHistory) (retryAt : Timestamp) (events events' : List BillingEvent)
      (applied : FailureApplied db.attempts a v s history (.retryScheduled retryAt) events)
      (expedited : expeditedEvents a.id retryAt (min now retryAt) events = .ok events')
      (rows : db'.attempts = db.attempts)
      (announced : db'.events = db.events ++ events'.map (now, ·)) :
      SubscriptionChange now db db' s
        (s.withFailure now (RenewalFailureDisposition.retryScheduled (min now retryAt)).projection)
  /-- It is canceled. -/
  | canceled (accessEndsAt : Timestamp) (free : hasBlockingRenewal s db = false)
      (freeUpdate : blockingPaymentMethodUpdateExists s.id db = false)
      (access : cancellationAccessEndsAt now s db = .ok accessEndsAt)
      (rows : db'.attempts = db.attempts)
      (announced : db'.events = db.events ++
        [(now, .subscriptionCanceled s.id s.planKey accessEndsAt)]) :
      SubscriptionChange now db db' s (s.canceledRow now)
  /-- Its period has expired, and it is retired. -/
  | retired (period : BillingPeriod) (accessEndsAt : Timestamp)
      (period_eq : nextBillingPeriod s.nextRenewalAt s.recurringPeriod = .ok period)
      (expired : period.endAt ≤ now)
      (free : unresolvedPaymentExists s.id s.nextRenewalAt db = false)
      (access : retirementAccessEndsAt now s db = .ok accessEndsAt)
      (rejected : writeAttempts now (·.chargesPeriod s.id s.nextRenewalAt)
        (.reject .subscriptionPeriodExpiredBeforeCharge retiredPeriodUnsubmittedText) db.attempts =
          .ok db'.attempts)
      (announced : db'.events = db.events ++
        [(now, .subscriptionPeriodExpired s.id s.planKey period now accessEndsAt)]) :
      SubscriptionChange now db db' s (s.retiredRow now)
  /-- Its access policy changes. -/
  | accessChanged (access : PastDueAccessPolicy) (rows : db'.attempts = db.attempts)
      (announced : db'.events = db.events) :
      SubscriptionChange now db db' s (s.withPastDueAccess now access)
  /-- Its payment method changes. -/
  | methodChanged (r : SubscriptionPaymentMethodReplacement) (methodId : Id) (tx : String)
      (located : r.locates s = true) (rows : db'.attempts = db.attempts)
      (announced : db'.events = db.events ++ [(now, r.changedEvent)]) :
      SubscriptionChange now db db' s (s.withPaymentMethod now methodId tx)

/-- A change keeps the identity of the subscription and the terms of its periods. -/
theorem SubscriptionChange.identity {now : Timestamp} {db db' : Db} {s s' : Subscription}
    (h : SubscriptionChange now db db' s s') :
    s'.id = s.id ∧ s'.owner = s.owner ∧ s'.createdAt = s.createdAt ∧
      s'.recurringPeriod = s.recurringPeriod ∧
      s'.requiredGatewayAccountMode = s.requiredGatewayAccountMode := by
  cases h with
  | renewed r a evidence methodId s' _ _ _ _ _ priced =>
    have hadvanced : (r.advanced now methodId evidence s).id = s.id ∧
        (r.advanced now methodId evidence s).owner = s.owner ∧
        (r.advanced now methodId evidence s).createdAt = s.createdAt ∧
        (r.advanced now methodId evidence s).recurringPeriod = s.recurringPeriod ∧
        (r.advanced now methodId evidence s).requiredGatewayAccountMode =
          s.requiredGatewayAccountMode := by
      unfold SubscriptionChargeReservation.advanced
      split
      · exact ⟨rfl, rfl, rfl, rfl, rfl⟩
      · exact ⟨rfl, rfl, rfl, rfl, rfl⟩
    rcases priced with rfl | ⟨cents, rfl⟩
    · exact hadvanced
    · exact hadvanced
  | _ => exact ⟨rfl, rfl, rfl, rfl, rfl⟩

/-- The subscription of a reserved charge. -/
theorem SubscriptionChargeReservation.target_subscriptionId (r : SubscriptionChargeReservation) :
    r.target.subscriptionId = some r.expected.subscriptionId := by
  unfold SubscriptionChargeReservation.target
  split
  · rfl
  · rfl

/-- The period of a reserved charge. -/
theorem SubscriptionChargeReservation.target_period (r : SubscriptionChargeReservation) :
    r.target.period = some r.period := by
  unfold SubscriptionChargeReservation.target
  split
  · rfl
  · rfl

/-- The subscription of a charge that its reservation matches. -/
theorem SubscriptionChargeReservation.target_of_matchesAttempt {r : SubscriptionChargeReservation}
    {a : PaymentAttempt} (h : r.matchesAttempt a = true) :
    a.target.subscriptionId = some r.expected.subscriptionId := by
  have htarget : a.target = r.target := (of_decide_eq_true (of_decide_eq_true h).2.2).1
  rw [htarget, r.target_subscriptionId]

/-- An enrollment is for no subscription yet. -/
theorem SubscriptionEnrollmentReservation.isOfSubscription_eq_false
    {r : SubscriptionEnrollmentReservation} {a : PaymentAttempt} (h : r.matchesAttempt a = true) :
    a.isOfSubscription = false := by
  have hkind : a.kind = .subscriptionInitial := (of_decide_eq_true h).2.1
  simp [PaymentAttempt.isOfSubscription, r.isSubscriptionCharge_eq_false h, hkind]

/-- What an effect does to the table of subscriptions: nothing, an enrollment, or a change of one
billed row. -/
inductive SubscriptionsStep (now : Timestamp) (db db' : Db) : Prop
  | same (h : db'.subscriptions = db.subscriptions)
  | enrolled (r : SubscriptionEnrollmentReservation) (a : PaymentAttempt)
      (evidence : ProcessorEvidence) (enrolled : Enrolled now r a evidence db db')
  | changed (s s' : Subscription) (mem : s ∈ db.subscriptions) (billed : s.status.isBilled = true)
      (change : SubscriptionChange now db db' s s')
      (rows : db'.subscriptions = Table.updateWhere (·.id = s.id) (fun _ => s') db.subscriptions)
      (checks : ∀ t ∈ db'.subscriptions, t.checks = true)
      (indexes : subscriptionIndexes db'.subscriptions = true)

section Effects

variable {now : Timestamp} {db db' : Db}

/-- An `UPDATE` of one row is a change of the row that it found. -/
theorem SubscriptionUpdated.changed {matched : Subscription → Bool}
    {f : Subscription → Subscription} (hindex : subscriptionIndexes db.subscriptions = true)
    (h : SubscriptionUpdated matched f db.subscriptions db'.subscriptions)
    (billed : ∀ s ∈ db.subscriptions, matched s = true → s.status.isBilled = true)
    (change : ∀ s ∈ db.subscriptions, matched s = true → SubscriptionChange now db db' s (f s)) :
    SubscriptionsStep now db db' := by
  obtain ⟨hone, hrows, hchecks, hindexes⟩ := h
  obtain ⟨s, hs, hmatched, hupdate⟩ :=
    Table.updateWhere_of_rowsAffected_eq_one (f := f) (nodup_id_of_subscriptionIndexes hindex) hone
  exact .changed s (f s) hs (billed s hs hmatched) (change s hs hmatched)
    (hrows.trans hupdate) hchecks hindexes

/-- Two updates of one row, the second by its id. -/
theorem updateWhere_updateWhere_id {f : Subscription → Subscription} {s s' : Subscription}
    {subscriptions : List Subscription} (hid : s'.id = s.id) :
    Table.updateWhere (·.id = s.id) f
        (Table.updateWhere (·.id = s.id) (fun _ => s') subscriptions) =
      Table.updateWhere (·.id = s.id) (fun _ => f s') subscriptions := by
  unfold Table.updateWhere
  rw [List.map_map]
  refine List.map_congr_left fun t _ => ?_
  by_cases ht : t.id = s.id
  · simp [ht, hid]
  · simp [ht]

/-- The row whose retry is brought forward is the one that has just failed. -/
theorem FailureApplied.expedited_rows {attempts : List PaymentAttempt} {a : PaymentAttempt}
    {v : ValidatedRenewalFailureAttempt} {s : Subscription} {history : PastDueCausalHistory}
    {retryAt : Timestamp} {events : List BillingEvent} {rows rows' rows'' : List Subscription}
    (h : FailureApplied attempts a v s history (.retryScheduled retryAt) events)
    (hrows : rows' = Table.updateWhere (·.id = s.id)
      (fun _ => s.withFailure now (RenewalFailureDisposition.retryScheduled retryAt).projection)
        rows)
    (hindexes : subscriptionIndexes rows' = true)
    (hexpedited : SubscriptionUpdated (fun s => isSubscriptionOf a s && s.status = .pastDue &&
      s.nextPaymentAttemptAt = some retryAt) (·.expedited now) rows' rows'') :
    rows'' = Table.updateWhere (·.id = s.id)
      (fun _ => s.withFailure now
        (RenewalFailureDisposition.retryScheduled (min now retryAt)).projection) rows := by
  obtain ⟨hone, hrows', -, -⟩ := hexpedited
  obtain ⟨t, ht, hmatched, hupdate⟩ := Table.updateWhere_of_rowsAffected_eq_one
    (f := (·.expedited now)) (nodup_id_of_subscriptionIndexes hindexes) hone
  simp only [Bool.and_eq_true] at hmatched
  have htarget := (validateResolvedRenewalAttempt_ok h.validated).2.2.2.2.2.2.1
  have hid : t.id = s.id := by
    have hof := (of_decide_eq_true hmatched.1.1).1
    rw [htarget] at hof
    rw [← Option.some.inj hof, (of_decide_eq_true h.locked).1]
  have hrow :
      t = s.withFailure now (RenewalFailureDisposition.retryScheduled retryAt).projection := by
    rcases Table.mem_replaceBy (hrows ▸ ht) with ⟨-, hne⟩ | hrow
    · exact absurd hid hne
    · exact hrow
  rw [hrows', hupdate, hid, hrows, updateWhere_updateWhere_id (by exact rfl), hrow]
  rfl

/-- A renewal changes the row of its subscription. -/
theorem Renewed.changed {r : SubscriptionChargeReservation} {a : PaymentAttempt}
    {evidence : ProcessorEvidence} (h : Renewed now r a evidence db db') :
    SubscriptionsStep now db db' := by
  obtain ⟨s, hs, methodId, renewed, discounted, hlocates, hexpects, hamount, happroved, hrows,
    hchecks, hindexes, -, hrun, hsubscriptions, -⟩ := h.subscription
  have hbilled : s.status.isBilled = true := (of_decide_eq_true hexpects).2.1
  have hid : (r.advanced now methodId evidence s).id = s.id := by
    unfold SubscriptionChargeReservation.advanced
    split
    · rfl
    · rfl
  rcases (ensures_discountAdvance _ _ hrun).subscriptions with hsame |
    ⟨cents, hpriced, hchecks', hindexes'⟩
  · have hdb : db'.subscriptions = renewed.subscriptions := hsubscriptions.trans hsame
    refine .changed s _ hs hbilled (.renewed r a evidence methodId _ h hlocates hexpects hamount
      happroved (.inl rfl)) (hdb.trans hrows) ?_ ?_
    · rw [hdb]
      exact hchecks
    · rw [hdb]
      exact hindexes
  · rw [← hsubscriptions] at hpriced hchecks' hindexes'
    refine .changed s _ hs hbilled (.renewed r a evidence methodId _ h hlocates hexpects hamount
      happroved (.inr ⟨cents, rfl⟩)) ?_ hchecks' hindexes'
    rw [hpriced, hrows, updateWhere_updateWhere_id hid]

/-- What an effect does to the subscriptions. -/
theorem Effect.subscriptions (h : Effect now db db') (hvalid : db.Valid) :
    SubscriptionsStep now db db' := by
  have hindex := hvalid.subscriptions
  cases h with
  | reserve => exact .same rfl
  | insert => exact .same rfl
  | admitPrepared => exact .same rfl
  | admitUpdate => exact .same rfl
  | fail a subscriptions application applied =>
    rcases applyResolvedAutomaticRenewalFailure_eq_ok hindex applied with ⟨-, hsame⟩ |
      ⟨v, s, hs, history, disposition, events, hfailure, rfl, hrows, hchecks, hindexes⟩
    · exact .same hsame
    · exact .changed s _ hs hfailure.isBilled
        (.failed a v history disposition events hfailure rfl rfl) hrows hchecks hindexes
  | expedite a subscriptions subscriptions' retryAt events events' applied expedited announced =>
    rcases applyResolvedAutomaticRenewalFailure_eq_ok hindex applied with ⟨hnoop, -⟩ |
      ⟨v, s, hs, history, disposition, events₁, hfailure, happlied, hrows, hchecks, hindexes⟩
    · cases hnoop
    · obtain ⟨rfl, rfl⟩ := RenewalFailureApplication.applied.inj happlied
      exact .changed s _ hs hfailure.isBilled
        (.expedited a v history retryAt events events' hfailure announced rfl rfl)
          (hfailure.expedited_rows hrows hindexes expedited) expedited.2.2.1 expedited.2.2.2
  | renew r a evidence renewed => exact renewed.changed
  | enroll r a evidence enrolled => exact .enrolled r a evidence enrolled
  | cancel s accessEndsAt subscriptions mem billed free freeUpdate access updated =>
    -- What the update matches by its key is the row that was locked.
    have same (s' : Subscription) (hs' : s' ∈ db.subscriptions)
        (hmatched : decide (s'.id = s.id ∧ s'.owner = s.owner ∧ s'.status = s.status) = true) :
        s' = s :=
      Table.eq_of_key_eq (nodup_id_of_subscriptionIndexes hindex) hs' mem
        (of_decide_eq_true hmatched).1
    refine SubscriptionUpdated.changed hindex updated (fun s' hs' hm => ?_) fun s' hs' hm => ?_
    · rw [same s' hs' hm]
      exact billed
    · rw [same s' hs' hm]
      exact .canceled accessEndsAt free freeUpdate access rfl rfl
  | retire s period accessEndsAt attempts subscriptions mem billed period_eq expired free access
      rejected updated =>
    have same (s' : Subscription) (hs' : s' ∈ db.subscriptions)
        (hmatched : decide (s'.id = s.id ∧ s'.owner = s.owner ∧ s'.status = s.status ∧
          s'.nextRenewalAt = s.nextRenewalAt ∧ s'.unpaidAt = none ∧ s'.canceledAt = none) = true) :
        s' = s :=
      Table.eq_of_key_eq (nodup_id_of_subscriptionIndexes hindex) hs' mem
        (of_decide_eq_true hmatched).1
    refine SubscriptionUpdated.changed hindex updated (fun s' hs' hm => ?_) fun s' hs' hm => ?_
    · rw [same s' hs' hm]
      exact billed
    · rw [same s' hs' hm]
      exact .retired period accessEndsAt period_eq expired free access rejected rfl
  | changeAccess access matched subscriptions billed updated =>
    exact SubscriptionUpdated.changed hindex updated (fun s _ hm => billed s hm)
      fun s _ _ => .accessChanged access rfl rfl
  | replace r methodId tx subscriptions paymentMethods rebound =>
    rcases rebound with hsame | hupdated
    · exact .same hsame
    · refine SubscriptionUpdated.changed hindex hupdated (fun s _ hm => ?_) fun s _ hm => ?_
      · exact (of_decide_eq_true (of_decide_eq_true hm).2.1).1
      · exact .methodChanged r methodId tx (of_decide_eq_true hm).1 rfl rfl
  | grant => exact .same rfl
  | revoke => exact .same rfl
  | configure => exact .same rfl

/-- An effect keeps the rows of the subscriptions valid. -/
theorem SubscriptionsStep.valid (h : SubscriptionsStep now db db') (hvalid : db.Valid) :
    subscriptionIndexes db'.subscriptions = true ∧ ∀ s ∈ db'.subscriptions, s.checks = true := by
  cases h with
  | same h =>
    rw [h]
    exact ⟨hvalid.subscriptions, hvalid.checks⟩
  | enrolled r a evidence enrolled =>
    obtain ⟨_, _, _, _, _, _, _, _, -, -, -, -, hchecks, hindexes, -⟩ := enrolled.subscription
    exact ⟨hindexes, hchecks⟩
  | changed s s' mem billed change rows checks indexes => exact ⟨indexes, checks⟩

/-- What an effect does to the table of attempts. -/
inductive AttemptsStep (now : Timestamp) (db db' : Db) : Prop
  /-- Quiet writers, or nothing. -/
  | kept (rows : List.Forall₂ (RowQuiet now) db.attempts db'.attempts)
      (indexes : attemptIndexes db.attempts = true → attemptIndexes db'.attempts = true)
  /-- A new row; one that charges a period is for the next one of a billed subscription. -/
  | inserted (n : NewAttempt) (created : n.createdAt = now)
      (charge : n.row.isSubscriptionCharge = true → ∃ s ∈ db.subscriptions, ∃ period,
        s.status.isBilled = true ∧ nextPeriod s = .ok period ∧ n.target.period = some period ∧
        n.target.subscriptionId = some s.id ∧ n.amount = s.amount ∧
        blockingSubscriptionChargeAttemptExists s.id none db = false)
      (rows : db'.attempts = n.row :: db.attempts) (indexes : attemptIndexes db'.attempts = true)
  /-- A prepared row is admitted, for a billed subscription; one that charges a period is for the
  next one, which no other attempt has charged. -/
  | admitted (a a' : PaymentAttempt) (s : Subscription) (mem : a ∈ db.attempts)
      (prepared : a.isPrepared = true) (ofSubscription : a.target.subscriptionId = some s.id)
      (subscription : s ∈ db.subscriptions) (billed : s.status.isBilled = true)
      (charge : a.isSubscriptionCharge = true → a.periodStartAt = some s.nextRenewalAt ∧
        blockingSubscriptionChargeAttemptExists s.id (some a.id) db = false)
      (write : AttemptWriter.admitPrepared.write now a = .ok a')
      (rows : db'.attempts = Table.updateWhere (·.id = a.id) (fun _ => a') db.attempts)
      (indexes : attemptIndexes db'.attempts = true)
  /-- An open row is approved, on an observed charge. -/
  | approved (a a' : PaymentAttempt) (evidence : ProcessorEvidence) (subscriptionId methodId : Id)
      (mem : a ∈ db.attempts) (open_ : a.status.isResolvable = true)
      (charge : ChargeApplied a evidence db db')
      (links : a.isOfSubscription = true → a.target.subscriptionId = some subscriptionId)
      (write : (AttemptWriter.persist evidence
        (.approved (.subscription subscriptionId methodId))).write now a = .ok a')
      (rows : db'.attempts = Table.updateWhere (·.id = a.id) (fun _ => a') db.attempts)
      (indexes : attemptIndexes db'.attempts = true)

/-- Rows that stay. -/
theorem AttemptsStep.same (h : db'.attempts = db.attempts) : AttemptsStep now db db' :=
  .kept (by rw [h]; exact List.forall₂_same.mpr fun a _ => .refl now a) (by rw [h]; exact id)

/-- What an effect does to the attempts. -/
theorem Effect.attempts (h : Effect now db db') : AttemptsStep now db db' := by
  cases h with
  | reserve s kind gateway attemptId key period h mem billed period_eq free indexes =>
    refine .inserted _ rfl (fun _ => ⟨s, mem, period, billed, period_eq, ?_, ?_, rfl, free⟩)
      rfl indexes
    · cases kind with
      | renewal => rfl
      | recovery => rfl
    · cases kind with
      | renewal => rfl
      | recovery => rfl
  | insert n created kind indexes =>
    exact .inserted n created (fun hcharge => by simp [kind] at hcharge) rfl indexes
  | admitPrepared r a a' s mem prepared owned request subscription located expected free write
    indexes =>
    obtain ⟨hstatus, hbilled, hmethod, hstart⟩ := of_decide_eq_true expected
    have htarget : a.target = r.target := (of_decide_eq_true request).1
    refine .admitted a a' s mem prepared ?_ subscription hbilled (fun _ => ⟨?_, free⟩) write
      rfl indexes
    · rw [htarget, r.target_subscriptionId, (of_decide_eq_true located).1]
    · rw [PaymentAttempt.periodStartAt, htarget, r.target_period, hstart]
      rfl
  | admitUpdate r a a' s mem prepared request subscription located eligible write indexes =>
    have htarget : a.target = r.target := (of_decide_eq_true request).1
    refine .admitted a a' s mem prepared ?_ subscription (of_decide_eq_true eligible).1
      (fun hcharge => ?_) write rfl indexes
    · rw [htarget, (of_decide_eq_true located).1]
      rfl
    · simp [PaymentAttempt.isSubscriptionCharge, PaymentAttempt.kind, htarget,
        SubscriptionPaymentMethodReplacement.target, PaymentAttemptTarget.kind] at hcharge
  | renew r a evidence renewed =>
    obtain ⟨s, -, methodId, -, -, hlocates, -, -, happroved, -⟩ := renewed.subscription
    obtain ⟨a', hwrite, hrows, hindexes⟩ := happroved
    refine .approved a a' evidence s.id methodId renewed.mem renewed.open_ renewed.charge
      (fun _ => ?_) hwrite hrows hindexes
    rw [r.target_of_matchesAttempt renewed.reserved, (of_decide_eq_true hlocates).1]
  | enroll r a evidence enrolled =>
    obtain ⟨subscriptionId, methodId, _, _, _, _, _, _, -, -, happroved, -⟩ := enrolled.subscription
    obtain ⟨a', hwrite, hrows, hindexes⟩ := happroved
    have hother : a.isOfSubscription = false := r.isOfSubscription_eq_false enrolled.reserved
    exact .approved a a' evidence subscriptionId methodId enrolled.mem enrolled.open_
      enrolled.charge (fun h => by simp [hother] at h) hwrite hrows hindexes
  | retire s period accessEndsAt attempts subscriptions mem billed period_eq expired free access
      rejected updated =>
    have hquiet : Quiet now db { db with attempts } :=
      Quiet.of_writeAttempts rejected fun a _ _ => AttemptWriter.quietWriter_of_isPlain rfl a
    exact .kept hquiet.rows hquiet.indexes
  | _ => exact .same rfl

/-- A new row is linked. -/
theorem NewAttempt.linked_row (n : NewAttempt) : n.row.Linked := fun _ => rfl

/-- A row that replaces another one keeps the rows of the attempts valid. -/
theorem valid_replaceAttempt {w : AttemptWriter} {a a' : PaymentAttempt}
    {attempts : List PaymentAttempt} (hvalid : db.Valid) (ha : a ∈ db.attempts)
    (hwrite : w.write now a = .ok a') (hw : w.Links a)
    (hrows : attempts = Table.updateWhere (·.id = a.id) (fun _ => a') db.attempts) :
    ∀ b ∈ attempts, b.Stored ∧ b.Linked := by
  intro b hb
  rcases Table.mem_replaceBy (hrows ▸ hb) with ⟨hb, -⟩ | rfl
  · exact ⟨hvalid.rows b hb, hvalid.linked b hb⟩
  · exact ⟨AttemptWriter.stored_of_write hwrite (hvalid.rows a ha),
      AttemptWriter.linked hwrite hw (hvalid.linked a ha)⟩

/-- An effect keeps the rows of the attempts valid. -/
theorem AttemptsStep.valid (h : AttemptsStep now db db') (hvalid : db.Valid) :
    attemptIndexes db'.attempts = true ∧ ∀ b ∈ db'.attempts, b.Stored ∧ b.Linked := by
  cases h with
  | kept rows indexes =>
    refine ⟨indexes hvalid.attempts, fun b hb => ?_⟩
    obtain ⟨a, ha, hrow⟩ := Table.exists_of_mem_right rows hb
    exact ⟨hrow.stored (hvalid.rows a ha), hrow.linked (hvalid.linked a ha)⟩
  | inserted n _ _ rows indexes =>
    refine ⟨indexes, ?_⟩
    rw [rows]
    exact List.forall_mem_cons.mpr
      ⟨⟨n.stored_row, n.linked_row⟩, fun b hb => ⟨hvalid.rows b hb, hvalid.linked b hb⟩⟩
  | admitted a a' s mem _ _ _ _ _ write rows indexes =>
    exact ⟨indexes, valid_replaceAttempt hvalid mem write (fun _ _ _ h => by cases h) rows⟩
  | approved a a' evidence subscriptionId methodId mem _ _ links write rows indexes =>
    refine ⟨indexes, valid_replaceAttempt hvalid mem write (fun e s m heq hof => ?_) rows⟩
    cases heq
    exact links hof

/-- An effect keeps what the ledger holds. -/
theorem Effect.charges (h : Effect now db db') :
    ChargesKept db.ledger.charges db'.ledger.charges := by
  cases h with
  | renew r a evidence renewed => exact (renewed.charge.1 now).toChargesKept
  | enroll r a evidence enrolled => exact (enrolled.charge.1 now).toChargesKept
  | _ => exact .refl _

/-- An effect keeps the tables valid. -/
theorem Effect.valid (h : Effect now db db') (hvalid : db.Valid) : db'.Valid := by
  obtain ⟨hsubscriptions, hchecks⟩ := (h.subscriptions hvalid).valid hvalid
  obtain ⟨hindexes, hrows⟩ := h.attempts.valid hvalid
  exact ⟨hindexes, fun b hb => (hrows b hb).1, fun b hb => (hrows b hb).2, hsubscriptions, hchecks,
    h.charges.valid hvalid.charges⟩

/-- An effect leaves the clock. -/
theorem Effect.clock (h : Effect now db db') : db'.clock = db.clock := by
  cases h with
  | renew r a evidence renewed => exact renewed.frame.clock
  | enroll r a evidence enrolled => exact enrolled.frame.clock
  | _ => rfl

/-- A quiet program leaves the clock. -/
theorem Quiet.clock (h : Quiet now db db') : db'.clock = db.clock := by
  obtain ⟨attempts, ledger, rfl⟩ := h.frame
  rfl

end Effects

/-! ## Runs -/

/-- A fresh store is valid. -/
theorem Db.Fresh.valid {db : Db} (h : db.Fresh) : db.Valid where
  attempts := by rw [h.attempts]; rfl
  rows := by rw [h.attempts]; exact List.forall_mem_nil _
  linked := by rw [h.attempts]; exact List.forall_mem_nil _
  subscriptions := by rw [h.subscriptions]; rfl
  checks := by rw [h.subscriptions]; exact List.forall_mem_nil _
  charges := by rw [h.charges]; exact ⟨List.forall_mem_nil _, rfl⟩

/-- The time alone changes no table. -/
theorem Db.Valid.at {db : Db} (h : db.Valid) (now : Timestamp) : (db.at now).Valid :=
  ⟨h.attempts, h.rows, h.linked, h.subscriptions, h.checks, h.charges⟩

/-- An operation of a run is a step at its time, also when it fails. -/
theorem execStore_steps {db : Db} (hvalid : db.Valid) (step : ℕ × Op) :
    Steps (db.clock + step.1) (db.at (db.clock + step.1)) (execStore db step) := by
  unfold execStore
  simp only []
  split
  · rename_i db' hrun
    exact step.2.steps (hvalid.at _) () db' hrun
  · exact (Quiet.refl _ _).steps

/-- A property of the store that the passing of time, each quiet program, and each effect keep. -/
structure Db.Stable (I : Db → Prop) : Prop where
  later : ∀ (db : Db) (now : Timestamp), db.Valid → db.clock ≤ now → I db → I (db.at now)
  quiet : ∀ db db' : Db, db.Valid → Quiet db.clock db db' → I db → I db'
  effect : ∀ db db' : Db, db.Valid → Effect db.clock db db' → I db → I db'

/-- A law of the store: it is stable, and holds of a fresh one. -/
structure Db.Law (I : Db → Prop) : Prop extends Db.Stable I where
  fresh : ∀ db : Db, db.Fresh → I db

/-- A step keeps a stable property. -/
theorem Db.Stable.step {I : Db → Prop} (hI : Db.Stable I) {db : Db} (hvalid : db.Valid) (h : I db)
    (step : ℕ × Op) : I (execStore db step) := by
  have hle : db.clock ≤ db.clock + step.1 := Int.le_add_of_nonneg_right (Int.natCast_nonneg _)
  have hnow := hI.later db _ hvalid hle h
  have hvalid' := hvalid.at (db.clock + step.1)
  obtain ⟨db₁, hquiet, heffect⟩ := execStore_steps hvalid step
  have h₁ : I db₁ := hI.quiet _ _ hvalid' hquiet hnow
  rcases heffect with heq | heffect
  · rw [heq]
    exact h₁
  · have hclock : db₁.clock = db.clock + step.1 := hquiet.clock
    rw [← hclock] at heffect
    exact hI.effect _ _ (hquiet.valid hvalid') heffect h₁

/-- The tables are valid along every run. -/
theorem Db.law_valid : Db.Law Db.Valid where
  fresh _ h := h.valid
  later _ now hvalid _ _ := hvalid.at now
  quiet _ _ hvalid h _ := h.valid hvalid
  effect _ _ hvalid h _ := h.valid hvalid

/-- A stable property holds along every run from a valid store that it holds of. -/
theorem Db.Stable.run_of {I : Db → Prop} (hI : Db.Stable I) {db : Db} (hvalid : db.Valid) (h : I db)
    (steps : List (ℕ × Op)) : (run execStore db steps).Valid ∧ I (run execStore db steps) :=
  run_invariant (I := fun db => db.Valid ∧ I db) (P := fun _ => True)
    (fun _ step _ hs => ⟨Db.law_valid.step hs.1 hs.1 step, hI.step hs.1 hs.2 step⟩) steps db
    (fun _ _ => trivial) ⟨hvalid, h⟩

/-- A law holds after every run from a fresh store. -/
theorem Db.Law.holds {I : Db → Prop} (hI : Db.Law I) {db : Db} (h : db.Fresh)
    (steps : List (ℕ × Op)) : (run execStore db steps).Valid ∧ I (run execStore db steps) :=
  hI.run_of h.valid (hI.fresh db h) steps

/-- A law that another one helps to keep. -/
theorem Db.Law.and {I J : Db → Prop} (hI : Db.Law I) (fresh : ∀ db : Db, db.Fresh → J db)
    (later : ∀ (db : Db) (now : Timestamp), db.Valid → db.clock ≤ now → I db → J db → J (db.at now))
    (quiet : ∀ db db' : Db, db.Valid → Quiet db.clock db db' → I db → J db → J db')
    (effect : ∀ db db' : Db, db.Valid → Effect db.clock db db' → I db → J db → J db') :
    Db.Law fun db => I db ∧ J db where
  fresh db h := ⟨hI.fresh db h, fresh db h⟩
  later db now hvalid hle h := ⟨hI.later db now hvalid hle h.1, later db now hvalid hle h.1 h.2⟩
  quiet db db' hvalid hquiet h :=
    ⟨hI.quiet db db' hvalid hquiet h.1, quiet db db' hvalid hquiet h.1 h.2⟩
  effect db db' hvalid heffect h :=
    ⟨hI.effect db db' hvalid heffect h.1, effect db db' hvalid heffect h.1 h.2⟩

end SyrupRail
