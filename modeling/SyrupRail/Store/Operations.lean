import SyrupRail.Store.Steps

/-!
# The operations as steps

The programs with an effect, taken apart: failures and their dunning, approvals, and the operations
on a subscriber's plan. `Op.steps` collects them: every operation of the engine is a step.
-/

namespace SyrupRail

open Transactions Tx

variable {now : Timestamp} {db db' : Db}

/-! ## Failures -/

/-- The application of a failure writes the subscriptions. -/
theorem ensures_applyRenewalFailure {a : PaymentAttempt} :
    Ensures (applyRenewalFailure now a) db fun application db' =>
      ∃ subscriptions, applyResolvedAutomaticRenewalFailure now db.attempts a db.subscriptions =
        .ok (subscriptions, application) ∧ db' = { db with subscriptions } := by
  rw [applyRenewalFailure, ensures_bind, ensures_get, ensures_onSubscriptions]
  exact fun subscriptions application h => ⟨subscriptions, h, rfl⟩

/-- A renewal's outcome that is not an approval. -/
theorem ensures_resolveRenewal {r : SubscriptionChargeReservation} {observed : ProcessorEvidence}
    {c : OutcomeResolutionCommand} (hindex : attemptIndexes db.attempts = true) :
    Ensures (resolveRenewalNonApprovedOutcome now r observed c) db fun _ db' =>
      Steps now db db' := by
  have result {db₁ : Db} (h : Steps now db db₁) :
      Ensures (paymentResultForReservationAttempt (.charge r)) db₁ fun _ db' => Steps now db db' :=
    ensures_paymentResultForReservation fun _ _ => h
  rw [resolveRenewalNonApprovedOutcome, ensures_bind]
  refine ensures_lockExpected fun a _ _ => ?_
  simp only []
  rw [ensures_ite]
  refine ⟨fun _ => ?_, fun _ => result (Quiet.refl now db).steps⟩
  rw [ensures_bind]
  refine (ensures_writeAttempt hindex fun b _ _ => OutcomeResolutionCommand.writer_quiet _ _ b).mono
    fun _ db₁ h₁ => ?_
  rw [ensures_ite]
  refine ⟨fun _ => ?_, fun _ => result h₁.steps⟩
  rw [ensures_bind]
  refine ensures_requireAttempt fun resolved _ _ _ => ?_
  rw [ensures_bind]
  refine ensures_applyRenewalFailure.mono fun application db₂ hpost => ?_
  obtain ⟨subscriptions, happlied, hdb⟩ := hpost
  rw [ensures_bind]
  refine ensures_paymentResultForReservation fun b _ => ?_
  rw [ensures_bind, ensures_appendEvents, hdb]
  exact ensures_pure.mpr (h₁.then (Effect.fail resolved subscriptions application happlied).steps)

/-- An `UPDATE` of one subscription. -/
theorem ensures_updateOneSubscription {mismatch : StoreError} {matched : Subscription → Bool}
    {f : Subscription → Subscription} :
    Ensures (updateOneSubscription mismatch matched f) db fun _ db' =>
      ∃ subscriptions, SubscriptionUpdated matched f db.subscriptions subscriptions ∧
        db' = { db with subscriptions } := by
  rw [updateOneSubscription, ensures_onSubscriptions]
  intro subscriptions _ h
  split_ifs at h with hone
  obtain ⟨rows, hstore, hpair⟩ := map_eq_ok.mp h
  obtain ⟨rfl, -⟩ := Prod.mk.inj hpair
  obtain ⟨rfl, hchecks, hindexes⟩ := storeSubscriptions_eq_ok hstore
  exact ⟨_, ⟨hone, rfl, hchecks, hindexes⟩, rfl⟩

/-- The dunning of a renewal that was failed manually. -/
theorem ensures_applyManualRenewalFailure {mode : ManualFailureMode} {failed : PaymentAttempt} :
    Ensures (applyManualRenewalFailure now mode failed) db fun _ db' => Steps now db db' := by
  unfold applyManualRenewalFailure
  rw [ensures_ite]
  refine ⟨fun _ => ?_, fun _ => ensures_pure.mpr (Quiet.refl now db).steps⟩
  rw [ensures_bind]
  refine ensures_applyRenewalFailure.mono fun application db₁ hpost => ?_
  obtain ⟨subscriptions, happlied, hdb⟩ := hpost
  subst hdb
  have plain : Ensures (pure application.events >>= appendEvents now : Program Unit)
      { db with subscriptions } fun _ db' => Steps now db db' := by
    rw [ensures_bind, ensures_pure, ensures_appendEvents]
    exact (Effect.fail failed subscriptions application happlied).steps
  cases application with
  | noop => exact plain
  | applied disposition events =>
    cases disposition with
    | remainPastDue exhaustedAt => exact plain
    | markUnpaid endedAt => exact plain
    | retryScheduled retryAt =>
      simp only [manualFailureEvents]
      rw [ensures_bind, ensures_ite]
      refine ⟨fun _ => ?_, fun _ => ensures_bind.mp plain⟩
      rw [expediteRetry, ensures_bind]
      refine ensures_updateOneSubscription.mono fun _ db₂ hpost => ?_
      obtain ⟨subscriptions', hupdated, hdb₂⟩ := hpost
      subst hdb₂
      rw [ensures_read]
      intro events' hevents
      rw [ensures_appendEvents]
      exact (Effect.expedite failed subscriptions subscriptions' retryAt events events' happlied
        hupdated hevents).steps

/-- The host's answers change no table of the engine. -/
theorem ensures_lockPaymentFailureTarget {mode : ManualFailureMode} {a : PaymentAttempt}
    {Q : Unit → Db → Prop} (h : Q () db) : Ensures (lockPaymentFailureTarget mode a) db Q := by
  unfold lockPaymentFailureTarget
  split
  · exact ensures_pure.mpr h
  · exact ensures_read.mpr fun _ _ => h

/-- What the host is told of a failure leaves the tables of the engine. -/
theorem ensures_markPaymentFailed {mode : ManualFailureMode} {a : PaymentAttempt}
    {Q : Unit → Db → Prop} (h : Q () db) : Ensures (markPaymentFailed mode a) db Q := by
  unfold markPaymentFailed
  split
  · exact ensures_pure.mpr h
  · exact ensures_read.mpr fun _ _ => h

/-- A manual failure. -/
theorem ensures_failReviewRequired {sanitize : String → String} {mode : ManualFailureMode}
    {preloaded : Option PaymentAttempt} (hindex : attemptIndexes db.attempts = true) :
    Ensures (failReviewRequired now sanitize mode preloaded) db fun _ db' => Steps now db db' := by
  have keep {outcome : ManualAttemptFailureOutcome} :
      Ensures (pure outcome : Program ManualAttemptFailureOutcome) db fun _ db' =>
          Steps now db db' :=
    ensures_pure.mpr (Quiet.refl now db).steps
  unfold failReviewRequired
  split
  · exact keep
  · rw [ensures_ite]
    refine ⟨fun _ => keep, fun _ => ?_⟩
    rw [failReviewRequiredLocked, ensures_bind]
    refine ensures_lockPaymentFailureTarget ?_
    rw [ensures_bind, ensures_read]
    intro found _
    cases found with
    | none => exact keep
    | some current =>
      rw [ensures_bind, ensures_get, ensures_ite]
      refine ⟨fun _ => ensures_throw, fun _ => ?_⟩
      rw [ensures_ite]
      refine ⟨fun _ => keep, fun _ => ?_⟩
      rw [ensures_ite]
      refine ⟨fun _ => keep, fun _ => ?_⟩
      rw [map_eq_pure_bind, ensures_bind, failManually, ensures_bind]
      refine (ensures_writeAttempt hindex fun b _ _ => ?_).mono fun _ db₁ h₁ => ?_
      · exact AttemptWriter.quietWriter_of_isPlain rfl b
      · rw [ensures_bind]
        refine ensures_markPaymentFailed ?_
        rw [ensures_bind]
        refine ensures_requireAttempt fun failed _ _ _ => ?_
        rw [ensures_bind]
        exact ensures_applyManualRenewalFailure.mono
          fun _ _ h₂ => ensures_pure.mpr (ensures_pure.mpr (h₁.then h₂))

/-! ## Renewals and recoveries -/

/-- The ids of the subscriptions are unique. -/
theorem nodup_id_of_subscriptionIndexes {subscriptions : List Subscription}
    (h : subscriptionIndexes subscriptions = true) : (subscriptions.map (·.id)).Nodup := by
  simp only [subscriptionIndexes, Bool.and_eq_true] at h
  exact Table.nodup_map_of_uniqueOn h.1.1

/-- A payment method is stored. -/
theorem ensures_upsertPaymentMethod {newId : Id} {a : PaymentAttempt}
    {evidence : ProcessorEvidence} : Ensures (upsertPaymentMethod newId a evidence) db fun _ db' =>
      ∃ paymentMethods, db' = { db with paymentMethods } := by
  unfold upsertPaymentMethod
  split
  · exact ensures_throw
  · rw [ensures_bind, ensures_get]
    simp only []
    split
    · rw [ensures_bind, ensures_modify]
      exact ensures_pure.mpr ⟨_, rfl⟩
    · rw [ensures_ite]
      refine ⟨fun _ => ensures_throw, fun _ => ?_⟩
      rw [ensures_bind, ensures_modify]
      exact ensures_pure.mpr ⟨_, rfl⟩

/-- A payment method is disabled. -/
theorem ensures_disablePaymentMethod {methodId : Id} :
    Ensures (disablePaymentMethodIfUnreferenced methodId) db fun _ db' =>
      ∃ paymentMethods, db' = { db with paymentMethods } := by
  rw [disablePaymentMethodIfUnreferenced, ensures_modify]
  split_ifs
  · exact ⟨_, rfl⟩
  · exact ⟨_, rfl⟩

/-- A discount advances with the price of its subscription. -/
theorem ensures_advanceDiscount {subscriptionId : Id} {planKey : String} :
    Ensures (advanceDiscountAfterSuccessfulCharge now subscriptionId planKey) db fun _ db' =>
      ∃ discounts subscriptions, db' = { db with discounts, subscriptions } := by
  rw [advanceDiscountAfterSuccessfulCharge, ensures_bind, ensures_get]
  simp only []
  split
  · exact ensures_pure.mpr ⟨_, _, rfl⟩
  · rw [ensures_ite]
    refine ⟨fun _ => ensures_pure.mpr ⟨_, _, rfl⟩, fun _ => ?_⟩
    split
    · rw [ensures_ite]
      refine ⟨fun _ => ensures_modify.mpr ⟨_, _, rfl⟩, fun _ => ?_⟩
      rw [ensures_ite]
      exact ⟨fun _ => ensures_pure.mpr ⟨_, _, rfl⟩, fun _ => ensures_throw⟩
    · rw [ensures_ite]
      refine ⟨fun _ => ensures_throw, fun _ => ?_⟩
      rw [ensures_bind, ensures_modify, ensures_ite]
      refine ⟨fun _ => ?_, fun _ => ensures_pure.mpr ⟨_, _, rfl⟩⟩
      rw [ensures_onSubscriptions]
      exact fun _ _ _ => ⟨_, _, rfl⟩

/-- The store after the subscription's side of a renewal or a recovery. -/
def SubscriptionAdvanced (now : Timestamp) (r : SubscriptionChargeReservation)
    (evidence : ProcessorEvidence) (methodId : Id) (db db' : Db) : Prop :=
  ∃ s ∈ db.subscriptions, ∃ (renewed discounted : Db) (paymentMethods : List PaymentMethod),
    r.locates s = true ∧ r.expects s = true ∧ (r.kind = .renewal → s.amount = r.amount) ∧
    renewed.subscriptions =
      Table.updateWhere (·.id = s.id) (fun _ => r.advanced now methodId evidence s)
        db.subscriptions ∧
    (∀ t ∈ renewed.subscriptions, t.checks = true) ∧
    subscriptionIndexes renewed.subscriptions = true ∧
    renewed.discounts = db.discounts ∧
    advanceDiscountAfterSuccessfulCharge now s.id r.planKey renewed = .ok ((), discounted) ∧
    db' = { db with
      subscriptions := discounted.subscriptions
      discounts := discounted.discounts
      paymentMethods }

/-- The subscription's side of a renewal or a recovery. -/
theorem ensures_advanceSubscription {ids : NewIds} {r : SubscriptionChargeReservation}
    {a : PaymentAttempt} {evidence : ProcessorEvidence}
    (hindex : subscriptionIndexes db.subscriptions = true) :
    Ensures (advanceSubscription now ids r a evidence) db fun methodId db' =>
      SubscriptionAdvanced now r evidence methodId db db' := by
  have hnodup := nodup_id_of_subscriptionIndexes hindex
  unfold advanceSubscription
  split
  · rename_i hkind
    rw [ensures_bind]
    refine ensures_updateOneSubscription.mono fun _ db₁ ⟨subscriptions, ⟨hone, hrows, hchecks,
      hindexes⟩, hdb₁⟩ => ?_
    obtain ⟨s, hs, hrenews, hupdate⟩ := Table.updateWhere_of_rowsAffected_eq_one hnodup hone
    obtain ⟨hlocates, hexpects, -, hamount⟩ := of_decide_eq_true hrenews
    have hid : s.id = r.expected.subscriptionId := (of_decide_eq_true hlocates).1
    rw [ensures_bind, ← hid]
    refine (ensures_run ensures_advanceDiscount).mono
      fun _ db₂ ⟨hrun, discounts, subscriptions', hdb₂⟩ => ensures_pure.mpr ?_
    refine ⟨s, hs, db₁, db₂, db.paymentMethods, hlocates, hexpects, fun _ => hamount, ?_,
      ?_, ?_, ?_, hrun, ?_⟩
    · rw [hdb₁, SubscriptionChargeReservation.advanced, hkind]
      exact hrows.trans hupdate
    · rw [hdb₁]
      exact hchecks
    · rw [hdb₁]
      exact hindexes
    · rw [hdb₁]
    · rw [hdb₂, hdb₁]
  · rename_i hkind
    split
    · exact ensures_throw
    · rename_i tx htx
      rw [ensures_bind]
      refine ensures_upsertPaymentMethod.mono fun methodId db₁ hpost => ?_
      obtain ⟨methods, hdb₁⟩ := hpost
      subst hdb₁
      rw [ensures_bind]
      refine ensures_updateOneSubscription.mono fun _ db₂ ⟨subscriptions, ⟨hone, hrows, hchecks,
        hindexes⟩, hdb₂⟩ => ?_
      obtain ⟨s, hs, hrecovers, hupdate⟩ := Table.updateWhere_of_rowsAffected_eq_one hnodup hone
      obtain ⟨hlocates, hexpects, -⟩ := of_decide_eq_true hrecovers
      have hid : s.id = r.expected.subscriptionId := (of_decide_eq_true hlocates).1
      rw [ensures_bind, ← hid]
      refine (ensures_run ensures_advanceDiscount).mono
        fun _ db₃ hpost => ?_
      obtain ⟨hrun, discounts, subscriptions', hdb₃⟩ := hpost
      rw [ensures_bind]
      refine ensures_disablePaymentMethod.mono fun _ db₄ ⟨methods', hdb₄⟩ => ensures_pure.mpr ?_
      refine ⟨s, hs, db₂, db₃, methods', hlocates, hexpects, fun h => ?_, ?_, ?_, ?_, ?_, hrun, ?_⟩
      · simp [hkind] at h
      · rw [hdb₂, SubscriptionChargeReservation.advanced, hkind, htx]
        exact hrows.trans hupdate
      · rw [hdb₂]
        exact hchecks
      · rw [hdb₂]
        exact hindexes
      · rw [hdb₂]
      · rw [hdb₄, hdb₃, hdb₂]

/-- An approval is written to its attempt. -/
theorem ensures_markAttemptApproved {a : PaymentAttempt} {evidence : ProcessorEvidence}
    {subscriptionId methodId : Id} (hindex : attemptIndexes db.attempts = true)
    (ha : a ∈ db.attempts) :
    Ensures (markAttemptApproved now a evidence subscriptionId methodId) db fun _ db' =>
      ∃ attempts, db' = { db with attempts } ∧
        AttemptApproved now a evidence subscriptionId methodId db db' := by
  rw [markAttemptApproved, persist, ensures_onAttempts]
  intro attempts h
  obtain ⟨b, hb, hid, b', hwrite, rfl, hindexes⟩ := writeAttempt_eq_ok h
  obtain rfl := nodup_id_of_attemptIndexes hindex hb ha hid
  exact ⟨_, rfl, b', hwrite, rfl, hindexes⟩

/-- A charge with the evidence of an attempt, whose transaction is no other attempt's. -/
def ObservedAs (a : PaymentAttempt) (evidence : ProcessorEvidence) (chargeId : Id)
    (charges : List ProcessorCharge) : Prop :=
  (∃ c ∈ charges, c.id = chargeId ∧ c.attemptId = a.id ∧ c.evidence = evidence) ∧
    OwnedAlone a evidence charges

/-- The observed charge of an attempt becomes applied. -/
theorem ensures_moveCharge_applied {a : PaymentAttempt} {evidence : ProcessorEvidence}
    {chargeId : Id} (hvalid : ChargesValid db.ledger.charges)
    (hcharge : ObservedAs a evidence chargeId db.ledger.charges) :
    Ensures (moveCharge now chargeId .applied none) db fun _ db' =>
      ∃ charges, db' = db.withCharges charges ∧ ChargeApplied a evidence db db' := by
  obtain ⟨⟨c, hc, hid, hattempt, hevidence⟩, halone⟩ := hcharge
  rw [moveCharge, ensures_onCharges]
  intro charges _ h
  obtain ⟨rows, hrows, hpair⟩ := map_eq_ok.mp h
  obtain ⟨rfl, -⟩ := Prod.mk.inj hpair
  refine ⟨rows, rfl, fun _ => transitionCharge_traced hrows, ?_⟩
  obtain ⟨⟨c', hc', hmatched⟩, hcharges⟩ := transitionProcessorCharge_eq_ok hrows
  have hmatch := of_decide_eq_true hmatched
  obtain rfl := hvalid.eq_of_id hc' hc (hmatch.1.trans hid.symm)
  have hidentified : c'.role = .primary ∧ c'.evidence.transactionId.isSome = true := by
    have heligible := hmatch.2.2
    simp only [ProcessorCharge.eligible, Bool.and_eq_true, Bool.or_eq_true] at heligible
    exact (heligible.2.resolve_left (by simp)).imp_left of_decide_eq_true
  have htx : c'.evidence.transactionId ≠ none := Option.isSome_iff_ne_none.mp hidentified.2
  have hmem : c'.transitioned now .applied (.preserveExisting none) ∈ rows := by
    rw [hcharges]
    exact Table.mem_updateWhere.mpr ⟨c', hc, by simp [hmatched]⟩
  exact ⟨hevidence ▸ htx, halone, _, hmem, hattempt, hevidence, rfl, hidentified.1⟩

/-- The application of a renewal or a recovery. -/
theorem ensures_applyCharge {ids : NewIds} {r : SubscriptionChargeReservation} {a : PaymentAttempt}
    {evidence : ProcessorEvidence} {chargeId : Id} (hvalid : db.Valid) (ha : a ∈ db.attempts)
    (hopen : a.status.isResolvable = true) (hreserved : r.matchesAttempt a = true)
    (hcharge : ObservedAs a evidence chargeId db.ledger.charges) :
    Ensures (applyCharge now ids r a evidence chargeId) db fun _ db' =>
      Renewed now r a evidence db db' := by
  rw [applyCharge, ensures_bind]
  refine (ensures_advanceSubscription hvalid.subscriptions).mono fun methodId db₁ h₁ => ?_
  obtain ⟨s, hs, renewed, discounted, methods, hlocates, hexpects, hamount, hrows, hchecks,
    hindexes, hdiscounts, hrun, hdb₁⟩ := h₁
  have hid : s.id = r.expected.subscriptionId := (of_decide_eq_true hlocates).1
  have hattempts₁ : db₁.attempts = db.attempts := by rw [hdb₁]
  rw [ensures_bind, ← hid]
  refine (ensures_markAttemptApproved (by rw [hattempts₁]; exact hvalid.attempts)
    (by rw [hattempts₁]; exact ha)).mono fun _ db₂ hpost => ?_
  obtain ⟨attempts, hdb₂, a', hwrite, hrows₂, hindexes₂⟩ := hpost
  have hledger₂ : db₂.ledger = db.ledger := by rw [hdb₂, hdb₁]
  rw [← hledger₂] at hcharge
  rw [ensures_bind]
  refine (ensures_moveCharge_applied (by rw [hledger₂]; exact hvalid.charges) hcharge).mono
    fun _ db₃ hpost => ?_
  obtain ⟨charges, hdb₃, happlied⟩ := hpost
  rw [ensures_bind]
  refine ensures_requireAttempt fun approved _ _ _ => ?_
  rw [ensures_bind, ensures_get, ensures_ite]
  refine ⟨fun _ => ensures_throw, fun _ => ?_⟩
  rw [ensures_bind, ensures_appendEvents]
  rw [hattempts₁] at hrows₂
  rw [ChargeApplied, hledger₂] at happlied
  rw [hdb₁] at hdb₂
  rw [hdb₂] at hdb₃ hrows₂ hindexes₂
  rw [hdb₃] at happlied ⊢
  refine ensures_pure.mpr ⟨ha, hopen, hreserved, ?_, happlied, ⟨rfl, rfl, rfl, rfl, rfl⟩, rfl, rfl⟩
  exact ⟨s, hs, methodId, renewed, discounted, hlocates, hexpects, hamount,
    ⟨a', hwrite, hrows₂, hindexes₂⟩, hrows, hchecks, hindexes, hdiscounts, hrun, rfl, rfl⟩

/-- The approval of a renewal or recovery that is still open. -/
theorem ensures_applyOpenCharge {ids : NewIds} {policy : SubscriptionPeriodExpiryPolicy}
    {r : SubscriptionChargeReservation} {a : PaymentAttempt} {evidence : ProcessorEvidence}
    (hvalid : db.Valid) (ha : a ∈ db.attempts) (hopen : a.status.isResolvable = true)
    (hreserved : r.matchesAttempt a = true) :
    Ensures (applyOpenChargeApproval now ids policy r a evidence) db fun _ db' =>
      Steps now db db' := by
  have hpark : MayPark a db := ⟨hvalid.attempts, ha, fun _ => hopen⟩
  rw [applyOpenChargeApproval, ensures_bind]
  refine ensures_observe.mono fun observation db₁ hpost => ?_
  obtain ⟨charges, hdb₁, hobserves⟩ := hpost
  have h₁ : LedgerOnly now db db₁ := hdb₁ ▸ hobserves.ledgerOnly (mem_dimensions ha)
  have hquiet₁ : Quiet now db db₁ := h₁.quiet
  have hpark₁ := hpark.of_ledgerOnly h₁
  cases observation with
  | ownedByOtherAttempt =>
    exact (ensures_parkLockedAttempt hpark₁).mono fun _ _ hq => (hquiet₁.trans hq).steps
  | owned charge =>
    simp only []
    rw [ensures_ite]
    refine ⟨fun _ => ?_, fun _ => ?_⟩
    · exact (ensures_moveCharge_parkLocked hpark₁).mono fun _ _ hq => (hquiet₁.trans hq).steps
    rw [ensures_bind, ensures_get, ensures_ite]
    refine ⟨fun _ => ?_, fun _ => ?_⟩
    · exact (ensures_moveCharge_parkLocked hpark₁).mono fun _ _ hq => (hquiet₁.trans hq).steps
    rw [ensures_ite]
    refine ⟨fun _ => ?_, fun _ => ?_⟩
    · exact (ensures_parkExpiredPeriodApproval hpark₁).mono fun _ _ hq => (hquiet₁.trans hq).steps
    · have hcharge : ObservedAs a evidence charge.id db₁.ledger.charges := by
        obtain ⟨c, hc, hid, hattempt, hevidence, -⟩ := hobserves.owned charge rfl
        rw [hdb₁]
        exact ⟨⟨c, hc, hid, hattempt, hevidence⟩, hobserves.alone charge rfl⟩
      refine (ensures_applyCharge (hquiet₁.valid hvalid) hpark₁.2.1 hopen hreserved hcharge).mono
        fun _ _ hrenewed => ?_
      exact hquiet₁.then (Effect.renew r a evidence hrenewed).steps

/-- The approval of a renewal or a recovery. -/
theorem ensures_applyChargeApproved {ids : NewIds} {liveRecipient : Bool}
    {policy : SubscriptionPeriodExpiryPolicy} {r : SubscriptionChargeReservation}
    {evidence : ProcessorEvidence} (hvalid : db.Valid) :
    Ensures (applyChargeApproved now ids liveRecipient policy r evidence) db
      fun _ db' => Steps now db db' := by
  rw [applyChargeApproved, ensures_bind]
  refine ensures_lockExpected fun a ha hreserved => ?_
  rw [ensures_bind]
  refine (ensures_stopConflicting ha).mono fun payment db₁ hpost => ?_
  obtain ⟨h₁, hnone⟩ := hpost
  cases payment with
  | some payment => exact ensures_pure.mpr h₁.quiet.steps
  | none =>
    obtain rfl := hnone rfl
    simp only []
    rw [ensures_ite]
    refine ⟨fun _ => (ensures_applyApprovedAgain ha).mono fun _ _ h => h.steps, fun _ => ?_⟩
    rw [ensures_ite]
    refine ⟨fun _ => ?_, fun _ => ?_⟩
    · rw [ensures_bind]
      exact (ensures_observeKnown (mem_dimensions ha)).mono fun _ _ h =>
        ensures_pure.mpr h.quiet.steps
    rw [ensures_ite]
    refine ⟨fun _ => ensures_throw, fun _ => ?_⟩
    rw [ensures_ite]
    refine ⟨fun _ => ?_, fun hterminal => ?_⟩
    · exact (ensures_applyTerminalCharge hvalid.attempts ha).mono fun _ _ h => h.steps
    · have hopen : a.status.isResolvable = true := by
        simpa [PaymentAttemptStatus.isTerminal_eq_not] using hterminal
      exact ensures_applyOpenCharge hvalid ha hopen hreserved

/-! ## Enrollment -/

/-- The discount of an enrollment and its claim. -/
theorem ensures_applyInitialDiscount {a : PaymentAttempt} {subscriptionId : Id} {planKey : String}
    {appliedAt : Timestamp} {periodsApplied : ℕ}
    {discount : Option SubscriptionEnrollmentDiscountSnapshot} :
    Ensures (applyInitialDiscount a subscriptionId planKey appliedAt periodsApplied discount) db
      fun _ db' => ∃ discounts discountClaims, db' = { db with discounts, discountClaims } := by
  unfold applyInitialDiscount
  split
  · exact ensures_pure.mpr ⟨_, _, rfl⟩
  · rw [ensures_bind, ensures_get]
    simp only []
    rw [ensures_ite]
    refine ⟨fun _ => ensures_throw, fun _ => ?_⟩
    rw [ensures_ite]
    refine ⟨fun _ => ensures_throw, fun _ => ?_⟩
    exact ensures_modify.mpr ⟨_, _, rfl⟩

/-- The start of a subscription. -/
theorem ensures_startSubscription {ids : NewIds} {r : SubscriptionEnrollmentReservation}
    {a : PaymentAttempt} {evidence : ProcessorEvidence} {chargeId : Id} (hvalid : db.Valid)
    (ha : a ∈ db.attempts) (hopen : a.status.isResolvable = true)
    (hreserved : r.matchesAttempt a = true)
    (hcurrent : currentSubscriptionExists now r.owner db = false)
    (hgrant : activeGrantExists now r.owner db = false)
    (hcharge : ObservedAs a evidence chargeId db.ledger.charges) :
    Ensures (startSubscription now ids r a evidence chargeId) db fun _ db' =>
      Enrolled now r a evidence db db' := by
  rw [startSubscription, ensures_bind, ensures_read]
  rintro ⟨offer, discount, period⟩ hterms
  simp only []
  split
  · exact ensures_throw
  rename_i tx htx
  rw [ensures_bind]
  refine ensures_upsertPaymentMethod.mono fun methodId db₁ hpost => ?_
  obtain ⟨methods, hdb₁⟩ := hpost
  rw [ensures_bind, ensures_onSubscriptions]
  intro subscriptions _ hstored
  obtain ⟨rows, hstore, hpair⟩ := map_eq_ok.mp hstored
  obtain ⟨rfl, -⟩ := Prod.mk.inj hpair
  obtain ⟨hrows, hchecks, hindexes⟩ := storeSubscriptions_eq_ok hstore
  rw [← hrows] at hchecks hindexes
  rw [hdb₁] at hrows
  rw [ensures_bind]
  refine (ensures_run ensures_applyInitialDiscount).mono
    fun _ db₃ hpost => ?_
  obtain ⟨hrun, discounts, claims, hdb₃⟩ := hpost
  -- The method, the row and its discount leave the attempts and the charges for the next two steps.
  have hattempts₃ : db₃.attempts = db.attempts := by rw [hdb₃, hdb₁]
  rw [ensures_bind]
  refine (ensures_markAttemptApproved (by rw [hattempts₃]; exact hvalid.attempts)
    (by rw [hattempts₃]; exact ha)).mono fun _ db₄ hpost => ?_
  obtain ⟨attempts, hdb₄, a', hwrite, hrows₄, hindexes₄⟩ := hpost
  have hledger₄ : db₄.ledger = db.ledger := by rw [hdb₄, hdb₃, hdb₁]
  rw [← hledger₄] at hcharge
  rw [ensures_bind]
  refine (ensures_moveCharge_applied (by rw [hledger₄]; exact hvalid.charges) hcharge).mono
    fun _ db₅ hpost => ?_
  obtain ⟨charges, hdb₅, happlied⟩ := hpost
  rw [ensures_bind]
  refine ensures_requireAttempt fun approved _ _ _ => ?_
  rw [ensures_bind, ensures_appendEvents]
  have hid : r.identity.attemptId = a.id :=
    congrArg PaymentAttemptIdentity.attemptId (of_decide_eq_true hreserved).1.symm
  rw [hattempts₃] at hrows₄
  rw [ChargeApplied, hledger₄] at happlied
  rw [hid]
  have hdiscounts : db₃.discounts = discounts := by rw [hdb₃]
  have hclaims : db₃.discountClaims = claims := by rw [hdb₃]
  rw [hdb₃, hdb₁] at hdb₄
  rw [hdb₄] at hdb₅ hrows₄ hindexes₄
  rw [hdb₅] at happlied ⊢
  refine ensures_pure.mpr ⟨ha, hopen, hreserved, hcurrent, hgrant, ?_, happlied,
    ⟨rfl, rfl, rfl, rfl, rfl⟩⟩
  refine ⟨ids.subscription, methodId, offer, discount, period, tx, _, _, hterms, htx,
    ⟨a', hwrite, hrows₄, hindexes₄⟩, hrows, hchecks, hindexes, ?_, ?_, hrun, hdiscounts.symm,
    hclaims.symm, rfl⟩
  · rw [hdb₁]
  · rw [hdb₁]

/-- The approval of an enrollment that is still open. -/
theorem ensures_applyOpenEnrollment {ids : NewIds} {policy : SubscriptionPeriodExpiryPolicy}
    {r : SubscriptionEnrollmentReservation} {a : PaymentAttempt} {evidence : ProcessorEvidence}
    (hvalid : db.Valid) (ha : a ∈ db.attempts) (hopen : a.status.isResolvable = true)
    (hreserved : r.matchesAttempt a = true) :
    Ensures (applyOpenEnrollmentApproval now ids policy r a evidence) db
      fun _ db' => Steps now db db' := by
  have hpark : MayPark a db := ⟨hvalid.attempts, ha, fun _ => hopen⟩
  rw [applyOpenEnrollmentApproval, ensures_bind]
  refine ensures_observe.mono fun observation db₁ hpost => ?_
  obtain ⟨charges, hdb₁, hobserves⟩ := hpost
  have h₁ : LedgerOnly now db db₁ := hdb₁ ▸ hobserves.ledgerOnly (mem_dimensions ha)
  have hquiet₁ : Quiet now db db₁ := h₁.quiet
  have hpark₁ := hpark.of_ledgerOnly h₁
  cases observation with
  | ownedByOtherAttempt =>
    exact (ensures_parkLockedAttempt hpark₁).mono fun _ _ hq => (hquiet₁.trans hq).steps
  | owned charge =>
    simp only []
    rw [ensures_ite]
    refine ⟨fun _ => ?_, fun _ => ?_⟩
    · exact (ensures_moveCharge_parkLocked hpark₁).mono fun _ _ hq => (hquiet₁.trans hq).steps
    rw [ensures_bind, ensures_read]
    rintro ⟨_, _, period⟩ _
    simp only []
    rw [ensures_ite]
    refine ⟨fun _ => ?_, fun _ => ?_⟩
    · exact (ensures_parkExpiredPeriodApproval hpark₁).mono fun _ _ hq => (hquiet₁.trans hq).steps
    rw [ensures_bind, ensures_get, ensures_ite]
    refine ⟨fun _ => ?_, fun hcurrent => ?_⟩
    · exact (ensures_moveCharge_parkLocked hpark₁).mono fun _ _ hq => (hquiet₁.trans hq).steps
    rw [ensures_bind, ensures_get, ensures_ite]
    refine ⟨fun _ => ?_, fun hgrant => ?_⟩
    · exact (ensures_moveCharge_parkLocked hpark₁).mono fun _ _ hq => (hquiet₁.trans hq).steps
    · have hcharge : ObservedAs a evidence charge.id db₁.ledger.charges := by
        obtain ⟨c, hc, hid, hattempt, hevidence, -⟩ := hobserves.owned charge rfl
        rw [hdb₁]
        exact ⟨⟨c, hc, hid, hattempt, hevidence⟩, hobserves.alone charge rfl⟩
      refine (ensures_startSubscription (hquiet₁.valid hvalid) hpark₁.2.1 hopen hreserved
        (by simpa using hcurrent) (by simpa using hgrant) hcharge).mono fun _ _ henrolled => ?_
      exact hquiet₁.then (Effect.enroll r a evidence henrolled).steps

/-- The approval of an enrollment. -/
theorem ensures_applyEnrollmentApproved {ids : NewIds} {liveRecipient : Bool}
    {policy : SubscriptionPeriodExpiryPolicy} {r : SubscriptionEnrollmentReservation}
    {evidence : ProcessorEvidence} (hvalid : db.Valid) :
    Ensures (applyEnrollmentApproved now ids liveRecipient policy r evidence) db
      fun _ db' => Steps now db db' := by
  rw [applyEnrollmentApproved, ensures_bind]
  refine ensures_lockExpected fun a ha hreserved => ?_
  rw [ensures_bind]
  refine (ensures_stopConflicting ha).mono fun payment db₁ hpost => ?_
  obtain ⟨h₁, hnone⟩ := hpost
  cases payment with
  | some payment => exact ensures_pure.mpr h₁.quiet.steps
  | none =>
    obtain rfl := hnone rfl
    simp only []
    rw [ensures_ite]
    refine ⟨fun _ => (ensures_applyApprovedAgain ha).mono fun _ _ h => h.steps, fun _ => ?_⟩
    rw [ensures_ite]
    refine ⟨fun _ => ?_, fun _ => ?_⟩
    · rw [ensures_bind]
      exact (ensures_observeKnown (mem_dimensions ha)).mono fun _ _ h =>
        ensures_pure.mpr h.quiet.steps
    rw [ensures_ite]
    refine ⟨fun _ => ensures_throw, fun _ => ?_⟩
    rw [ensures_ite]
    refine ⟨fun _ => ?_, fun hterminal => ?_⟩
    · refine (ensures_applyTerminalEnrollment ⟨hvalid.attempts, ha, fun hc => ?_⟩).mono
        fun _ _ h => h.steps
      simp [r.isSubscriptionCharge_eq_false hreserved] at hc
    · have hopen : a.status.isResolvable = true := by
        simpa [PaymentAttemptStatus.isTerminal_eq_not] using hterminal
      exact ensures_applyOpenEnrollment hvalid ha hopen hreserved

/-! ## Cancellation and retirement -/

/-- The current subscription of an owner, or the newest, is in the table. -/
theorem selectedSubscription_eq_some {owner : PlanOwner} {s : Subscription}
    (h : selectedSubscription now owner db = some s) : s ∈ db.subscriptions := by
  have hmem {l : List Subscription} {p : Subscription → Bool}
      {order : Subscription → Subscription → Prop} [DecidableRel order]
      (h : ((l.filter p).insertionSort order).head? = some s) : s ∈ l := by
    have := List.mem_of_head? h
    rw [List.mem_insertionSort] at this
    exact List.mem_of_mem_filter this
  unfold selectedSubscription at h
  cases hcurrent : (currentSubscriptions now owner none db).head? with
  | some s' =>
    rw [hcurrent] at h
    obtain rfl := Option.some.inj h
    exact hmem hcurrent
  | none =>
    rw [hcurrent] at h
    exact hmem h

/-- A quiet program opens and approves no charge of a period. -/
theorem Quiet.hasBlockingRenewal (h : Quiet now db db') {s : Subscription}
    (hfree : hasBlockingRenewal s db = false) : hasBlockingRenewal s db' = false := by
  unfold SyrupRail.hasBlockingRenewal at hfree ⊢
  rw [List.any_eq_false] at hfree ⊢
  intro a' ha' hblocking
  obtain ⟨a, ha, hrow⟩ := Table.exists_of_mem_right h.rows ha'
  obtain ⟨hperiod', hopen'⟩ := of_decide_eq_true hblocking
  obtain ⟨hcharge', hid', hstart'⟩ := of_decide_eq_true hperiod'
  have hcharge : a.isSubscriptionCharge = true := by rw [← hrow.same.isSubscriptionCharge, hcharge']
  have hother := PaymentAttempt.isOther_of_isSubscriptionCharge hcharge
  refine hfree a ha (decide_eq_true ⟨decide_eq_true ⟨hcharge, ?_, ?_⟩, ?_⟩)
  · rw [← (hrow.linkage hother).subscriptionId, hid']
  · rw [← hrow.same.periodStartAt, hstart']
  · rcases hopen' with hopen' | happroved'
    · left
      by_contra hclosed
      rw [hrow.closed hcharge (by simpa using hclosed)] at hopen'
      cases hopen'
    · exact .inr ((hrow.approved hother).mp happroved')

/-- The end of a billed subscription by a cancellation. -/
theorem ensures_cancelCurrent {s : Subscription} (mem : s ∈ db.subscriptions)
    (billed : s.status.isBilled = true) (free : hasBlockingRenewal s db = false)
    (freeUpdate : blockingPaymentMethodUpdateExists s.id db = false) :
    Ensures (cancelCurrentSubscription now s) db fun _ db' => Effect now db db' := by
  rw [cancelCurrentSubscription, ensures_bind, ensures_read]
  intro accessEndsAt haccess
  rw [ensures_bind]
  refine ensures_updateOneSubscription.mono fun _ db₁ hpost => ?_
  obtain ⟨subscriptions, hupdated, hdb₁⟩ := hpost
  rw [ensures_bind, ensures_appendEvents, hdb₁]
  exact ensures_pure.mpr
    (.cancel s accessEndsAt subscriptions mem billed free freeUpdate haccess hupdated)

/-- A cancellation. -/
theorem ensures_cancelSubscription {owner : PlanOwner} :
    Ensures (cancelSubscription now owner) db fun _ db' => Steps now db db' := by
  have keep {outcome : CancelSubscriptionOutcome} :
      Ensures (pure outcome : Program CancelSubscriptionOutcome) db fun _ db' => Steps now db db' :=
    ensures_pure.mpr (Quiet.refl now db).steps
  have current {s : Subscription} (mem : s ∈ db.subscriptions) (billed : s.status.isBilled = true) :
      Ensures (do
        failStaleUnsubmittedSubscriptionCharges now s.id
        if hasBlockingRenewal s (← get) then pure .blockedByRenewal
        else
          failStaleUnsubmittedPaymentMethodUpdates now false s.id
          if blockingPaymentMethodUpdateExists s.id (← get) then pure .blockedByPaymentMethodUpdate
          else cancelCurrentSubscription now s) db fun _ db' => Steps now db db' := by
    rw [ensures_bind]
    refine ensures_failStaleCharges.mono fun _ db₁ h₁ => ?_
    rw [ensures_bind, ensures_get, ensures_ite]
    refine ⟨fun _ => ensures_pure.mpr h₁.steps, fun hblocking => ?_⟩
    rw [ensures_bind]
    refine ensures_failStaleMethodUpdates.mono fun _ db₂ h₂ => ?_
    rw [ensures_bind, ensures_get, ensures_ite]
    refine ⟨fun _ => ensures_pure.mpr (h₁.trans h₂).steps, fun hupdate => ?_⟩
    have mem₂ : s ∈ db₂.subscriptions := by rwa [(h₁.trans h₂).subscriptions]
    -- The expiry of method updates comes after the check for charges, and opens none.
    have free : hasBlockingRenewal s db₂ = false := h₂.hasBlockingRenewal (by simpa using hblocking)
    exact (ensures_cancelCurrent mem₂ billed free (by simpa using hupdate)).mono
      fun _ _ heffect => (h₁.trans h₂).then heffect.steps
  rw [cancelSubscription, ensures_bind, ensures_get]
  split
  · exact keep
  · rename_i s hselected
    have mem := selectedSubscription_eq_some hselected
    split
    · exact keep
    · exact keep
    · rename_i hstatus
      exact current mem (by rw [hstatus]; rfl)
    · rename_i hstatus
      exact current mem (by rw [hstatus]; rfl)

/-- The subscription of a command is in the table. -/
theorem exactSubscription_eq_some {owner : PlanOwner} {subscriptionId : Id} {s : Subscription}
    (h : exactSubscription owner subscriptionId db = some s) :
    s ∈ db.subscriptions ∧ s.id = subscriptionId ∧ s.owner = owner := by
  have hp : s.id = subscriptionId ∧ s.owner = owner := by simpa using List.find?_some h
  exact ⟨List.mem_of_find?_eq_some h, hp⟩

/-- The end of a billed subscription by a retirement. -/
theorem ensures_retireSubscription {s : Subscription} {period : BillingPeriod}
    (mem : s ∈ db.subscriptions) (billed : s.status.isBilled = true)
    (period_eq : nextBillingPeriod s.nextRenewalAt s.recurringPeriod = .ok period)
    (expired : period.endAt ≤ now)
    (free : unresolvedPaymentExists s.id s.nextRenewalAt db = false) :
    Ensures (retireSubscription now s period) db fun _ db' => Effect now db db' := by
  rw [retireSubscription, ensures_bind, ensures_read]
  intro accessEndsAt haccess
  rw [ensures_bind, rejectUnsubmittedPeriodAttempts, ensures_onAttempts]
  intro attempts hrejected
  rw [ensures_bind]
  refine ensures_updateOneSubscription.mono fun _ db₁ hpost => ?_
  obtain ⟨subscriptions, hupdated, hdb₁⟩ := hpost
  rw [ensures_bind, ensures_appendEvents, hdb₁]
  exact ensures_pure.mpr (.retire s period accessEndsAt attempts subscriptions mem billed period_eq
    expired free haccess hrejected hupdated)

/-- A retirement. -/
theorem ensures_retireExpired {command : RetireExpiredSubscriptionPeriod} :
    Ensures (retireExpiredSubscriptionPeriod now command) db fun _ db' => Steps now db db' := by
  have keep {outcome : SubscriptionPeriodRetirementOutcome} :
      Ensures (pure outcome : Program SubscriptionPeriodRetirementOutcome) db
        fun _ db' => Steps now db db' := ensures_pure.mpr (Quiet.refl now db).steps
  have current {s : Subscription} (mem : s ∈ db.subscriptions) (billed : s.status.isBilled = true) :
      Ensures (retireBilledSubscription now command s) db fun _ db' => Steps now db db' := by
    rw [retireBilledSubscription, ensures_ite]
    refine ⟨fun _ => keep, fun hstart => ?_⟩
    have hstart : s.nextRenewalAt = command.periodStartAt := by simpa using hstart
    split
    · exact ensures_throw
    rename_i period hperiod
    rw [← hstart] at hperiod
    rw [ensures_ite]
    refine ⟨fun _ => keep, fun hexpired => ?_⟩
    rw [ensures_bind]
    refine ensures_failStaleCharges.mono fun _ db₁ h₁ => ?_
    rw [ensures_bind, ensures_get, ensures_ite]
    refine ⟨fun _ => ensures_pure.mpr h₁.steps, fun hfree => ?_⟩
    have mem₁ : s ∈ db₁.subscriptions := by rwa [h₁.subscriptions]
    have hexpired : period.endAt ≤ now := by simpa [periodHasExpired] using hexpired
    exact (ensures_retireSubscription mem₁ billed hperiod hexpired (by simpa using hfree)).mono
      fun _ _ heffect => h₁.then heffect.steps
  rw [retireExpiredSubscriptionPeriod, ensures_bind, ensures_get]
  split
  · exact keep
  · rename_i s hexact
    obtain ⟨mem, -, -⟩ := exactSubscription_eq_some hexact
    split
    · exact keep
    · exact keep
    · rename_i hstatus
      exact current mem (by rw [hstatus]; rfl)
    · rename_i hstatus
      exact current mem (by rw [hstatus]; rfl)

/-! ## Changes of a plan -/

/-- A change of the access policy. -/
theorem ensures_changePastDueAccess {owner : PlanOwner} {subscriptionId : Id}
    {access : PastDueAccessPolicy} :
    Ensures (changeSubscriptionPastDueAccess now owner subscriptionId access) db
      fun _ db' => Steps now db db' := by
  rw [changeSubscriptionPastDueAccess, ensures_bind, ensures_get]
  split
  · exact ensures_pure.mpr (Quiet.refl now db).steps
  rw [ensures_ite]
  refine ⟨fun _ => ensures_pure.mpr (Quiet.refl now db).steps, fun _ => ?_⟩
  refine ensures_updateOneSubscription.mono fun _ db₁ hpost => ?_
  obtain ⟨subscriptions, hupdated, hdb₁⟩ := hpost
  rw [hdb₁]
  refine (Effect.changeAccess access _ subscriptions (fun s' hs' => ?_) hupdated).steps
  exact (of_decide_eq_true hs').2.2.1

/-! ## Updates of a method -/

/-- The answer to a key that is already an attempt's expires stale updates at most. -/
theorem ensures_answerExistingReplacement {mode : GatewayAccountMode}
    {command : ReplaceSubscriptionPaymentMethod} {a : PaymentAttempt} :
    Ensures (answerExistingReplacement now mode command a) db fun _ db' => Quiet now db db' := by
  unfold answerExistingReplacement
  rw [ensures_ite]
  refine ⟨fun _ => ?_, fun _ => ensures_pure.mpr (.refl now db)⟩
  rw [replacementReservationReplayOutcome, ensures_ite]
  refine ⟨fun _ => ensures_pure.mpr (.refl now db), fun _ => ?_⟩
  split
  · exact ensures_throw
  · rw [ensures_bind]
    refine ensures_failStaleMethodUpdates.mono fun _ db₁ h₁ => ?_
    rw [ensures_bind]
    refine ensures_requireAttempt fun _ _ _ _ => ?_
    rw [ensures_bind, ensures_get, ensures_ite]
    exact ⟨fun _ => ensures_pure.mpr h₁, fun _ => ensures_pure.mpr h₁⟩

/-- The insertion of an update. -/
theorem ensures_insertReplacement {mode : GatewayAccountMode} {gateway : ResolvedGateway}
    {command : ReplaceSubscriptionPaymentMethod} {s : Subscription} :
    Ensures (insertReplacement now mode gateway command s) db fun _ db' => Steps now db db' := by
  unfold insertReplacement
  simp only []
  rw [ensures_ite]
  refine ⟨fun _ => ensures_throw, fun _ => ?_⟩
  rw [ensures_bind]
  refine ensures_insertOrIgnore.mono fun inserted db₁ h₁ => ?_
  rw [ensures_bind, ensures_read]
  intro existing _
  rcases h₁ with ⟨rfl, rfl⟩ | ⟨rfl, hindexes, rfl⟩
  · cases existing with
    | none => exact ensures_pure.mpr (Quiet.refl now db₁).steps
    | some a => exact ensures_answerExistingReplacement.mono fun _ _ h => h.steps
  · cases existing with
    | none => exact ensures_throw
    | some a => exact ensures_pure.mpr (Effect.insert _ rfl rfl hindexes).steps

/-- The reservation of an update. -/
theorem ensures_reserveReplacement {mode : GatewayAccountMode} {gateway : ResolvedGateway}
    {command : ReplaceSubscriptionPaymentMethod} :
    Ensures (reservePaymentMethodReplacement now mode gateway command) db
      fun _ db' => Steps now db db' := by
  have rejected (rejection : ReplacementRejection) :
      Ensures (pure (.rejected rejection) : Program ReplacementReservationOutcome) db
        fun _ db' => Steps now db db' := ensures_pure.mpr (Quiet.refl now db).steps
  rw [reservePaymentMethodReplacement, ensures_bind, ensures_read]
  intro existing _
  cases existing with
  | some a => exact ensures_answerExistingReplacement.mono fun _ _ h => h.steps
  | none =>
    rw [ensures_bind, ensures_get]
    split
    · exact rejected _
    · rw [ensures_ite]
      refine ⟨fun _ => rejected _, fun _ => ?_⟩
      rw [ensures_ite]
      refine ⟨fun _ => rejected _, fun _ => ?_⟩
      rw [ensures_bind]
      refine ensures_expireStaleAttempts.mono fun _ db₁ h₁ => ?_
      rw [ensures_bind, ensures_get]
      split
      · exact ensures_pure.mpr h₁.steps
      · exact ensures_insertReplacement.mono fun _ _ h => h₁.then h

/-- The subscription of an update that nothing rejects. -/
theorem SubscriptionPaymentMethodReplacement.submissionRejection_eq_none
    {r : SubscriptionPaymentMethodReplacement} {a : PaymentAttempt}
    (h : r.submissionRejection a db = none) :
    r.requestMatches a = true ∧
      ∃ s ∈ db.subscriptions, r.locates s = true ∧ r.isEligible s = true := by
  unfold SubscriptionPaymentMethodReplacement.submissionRejection at h
  split_ifs at h with hstate
  obtain ⟨hrequest, hsubscription, -⟩ := hstate
  obtain ⟨s, hs, hmatches⟩ := List.any_eq_true.mp hsubscription
  have hmatches := of_decide_eq_true hmatches
  exact ⟨hrequest, s, hs, hmatches.1, hmatches.2.1⟩

/-- The admission of an update. -/
theorem ensures_admitReplacement {r : SubscriptionPaymentMethodReplacement}
    (hindex : attemptIndexes db.attempts = true) :
    Ensures (admitReplacement now r) db fun _ db' => Steps now db db' := by
  rw [admitReplacement, ensures_bind]
  refine ensures_expireStaleAttempts.mono fun _ db₁ h₁ => ?_
  rw [ensures_bind, ensures_read]
  intro found hfound
  cases found with
  | none => exact ensures_throw
  | some a =>
    have ha := paymentAttemptByIdempotency_eq_some hfound
    have hindex₁ := h₁.indexes hindex
    rw [ensures_ite]
    refine ⟨fun _ => ensures_throw, fun _ => ?_⟩
    rw [ensures_ite]
    refine ⟨fun _ => ensures_pure.mpr h₁.steps, fun hprepared => ?_⟩
    rw [ensures_bind, ensures_get]
    split
    · rw [ensures_bind, writeAdmission, ensures_bind]
      refine (ensures_writeAttempt hindex₁ fun b _ _ =>
        AttemptWriter.quietWriter_of_isPlain rfl b).mono fun _ db₂ h₂ => ?_
      exact ensures_requireAttempt fun _ _ _ _ => ensures_pure.mpr (h₁.trans h₂).steps
    · rename_i hrejection
      obtain ⟨request, s, mem, located, eligible⟩ := r.submissionRejection_eq_none hrejection
      rw [map_eq_pure_bind, ensures_bind, writeAdmission, ensures_bind, ensures_onAttempts]
      intro attempts hwrite
      obtain ⟨b, hb, hbid, b', hwritten, rfl, hindexes⟩ := writeAttempt_eq_ok hwrite
      obtain rfl := nodup_id_of_attemptIndexes hindex₁ hb ha hbid
      refine ensures_requireAttempt fun _ _ _ _ => ensures_pure.mpr (h₁.then ?_)
      exact (Effect.admitUpdate r b b' s ha (by simpa using hprepared) request mem located eligible
        hwritten hindexes).steps

/-- A quiet program after the methods have changed. -/
theorem Quiet.steps_of_methods {paymentMethods : List PaymentMethod}
    (h : Quiet now { db with paymentMethods } db') : Steps now db db' := by
  have hcharges := h.charges
  have hrows := h.rows
  have hindexes := h.indexes
  have hlinked := h.linked
  have hdated := h.dated
  obtain ⟨attempts, ledger, rfl⟩ := h.frame
  refine ⟨{ db with attempts, ledger },
    ⟨⟨_, _, rfl⟩, hcharges, hrows, hindexes, fun hvalid hbefore => ?_, hdated⟩, .inr ?_⟩
  · have hafter := hlinked hvalid ⟨hbefore.dimensions, hbefore.attested, hbefore.methodUpdates⟩
    exact ⟨hafter.dimensions, hafter.attested, hafter.methodUpdates⟩
  exact Effect.configure db.gatewayAccounts db.providerRateLimits paymentMethods db.discountClaims

/-- An update that is parked because its subscription has changed. -/
theorem ensures_parkStaleReplacement {a : PaymentAttempt} {chargeId : Id}
    {evidence : ProcessorEvidence} {code : PaymentResolutionCode} (h : MayPark a db) :
    Ensures (parkStaleReplacement now a chargeId evidence code) db fun _ db' => Quiet now db db' :=
  ensures_moveCharge_parkLocked h

/-- A subscription is bound to its new method, or already has it. -/
theorem ensures_rebindSubscription {r : SubscriptionPaymentMethodReplacement}
    {baselineMatches : Bool} {methodId : Id} {tx : String} :
    Ensures (rebindSubscription now r baselineMatches methodId tx) db fun _ db' =>
      ∃ subscriptions, db' = { db with subscriptions } ∧ (subscriptions = db.subscriptions ∨
        SubscriptionUpdated (fun s => r.locates s ∧ r.isEligible s ∧ r.baselineMatches s)
          (·.withPaymentMethod now methodId tx) db.subscriptions subscriptions) := by
  unfold rebindSubscription
  rw [ensures_ite]
  refine ⟨fun _ => ?_, fun _ => ensures_pure.mpr ⟨_, rfl, .inl rfl⟩⟩
  exact ensures_updateOneSubscription.mono
    fun _ _ ⟨subscriptions, hupdated, hdb⟩ => ⟨subscriptions, hdb, .inr hupdated⟩

/-- The transaction of an attempt that a writer approves is that of the evidence. -/
theorem transactionId_of_approval {a a' : PaymentAttempt} {evidence : ProcessorEvidence}
    {application : AttemptApproval}
    (h : (AttemptWriter.persist evidence (.approved application)).write now a = .ok a') :
    a'.evidence.transactionId = evidence.transactionId := by
  obtain ⟨-, -, r, rfl⟩ := PaymentAttempt.update_eq_some (requireOneRow_eq_ok h)
  cases application with
  | hostCharge => rfl
  | subscription s m => rfl

/-- The approval of an update and the application of its charge are quiet together: the update has a
primary charge with its transaction. -/
theorem Quiet.of_replacement {r : SubscriptionPaymentMethodReplacement} {a : PaymentAttempt}
    {evidence : ProcessorEvidence} {e : StoreError} {methodId : Id} {attempts : List PaymentAttempt}
    {charges : List ProcessorCharge} (hindex : attemptIndexes db.attempts = true)
    (ha : a ∈ db.attempts) (hm : r.matchesAttempt a = true)
    (hwrite : writeAttempt now e a.id
      (.persist evidence (.approved (.subscription r.expected.subscriptionId methodId)))
        db.attempts = .ok attempts)
    (happlied : ChargeApplied a evidence db (({ db with attempts } : Db).withCharges charges)) :
    Quiet now db (({ db with attempts } : Db).withCharges charges) := by
  have hkind : a.kind = .subscriptionPaymentMethodUpdate := (of_decide_eq_true hm).2.1
  have hframe : ∀ b ∈ db.attempts, b.id = a.id → FrameWriter b
      (.persist evidence (.approved (.subscription r.expected.subscriptionId methodId))) := by
    intro b hb hid
    obtain rfl := nodup_id_of_attemptIndexes hindex hb ha hid
    refine ⟨fun hk => ?_, fun _ => nofun, fun hc => ?_, fun e s m h _ => ?_⟩
    · rw [hkind] at hk
      cases hk
    · simp [r.isSubscriptionCharge_eq_false hm] at hc
    · have htarget : b.target = r.target := (of_decide_eq_true (of_decide_eq_true hm).2.2).1
      cases h
      rw [htarget]
      rfl
  obtain ⟨hrows, hindexes⟩ := rowQuiet_of_writeAttempt hindex hwrite hframe
  obtain ⟨htraced, hsome, -, c, hc, hattempt, hevidence, -, hrole⟩ := happlied
  refine ⟨⟨_, _, rfl⟩, (htraced now).toChargesKept, hrows, fun _ => hindexes,
    fun hvalid hlinked => ?_, (htraced now).dated⟩
  have hlinked' : (db.withCharges charges).ChargesLinked :=
    hlinked.of_ledger hvalid ((htraced now).mono (List.nil_subset _))
      (hlinked.attested.of_kept hvalid (htraced now).toChargesKept rfl)
  refine hlinked'.of_attempts (map_chargeDimensions_of_rows hrows ▸ List.Subset.refl _)
    fun b' hb' _ hstatus => ?_
  obtain ⟨b, hb, hid, b₁, hw, rfl, -⟩ := writeAttempt_eq_ok hwrite
  obtain rfl := nodup_id_of_attemptIndexes hindex hb ha hid
  obtain ⟨b₀, hb₀, rfl⟩ := Table.mem_updateWhere.mp hb'
  by_cases hid₀ : b₀.id = b.id
  · -- The update that is approved is the one whose charge was applied.
    simp only [hid₀, decide_true, if_true]
    have hid₁ : b₁.id = b.id := (AttemptWriter.rowQuiet hw (hframe b hb rfl)).same.id
    have htx : b₁.evidence.transactionId = evidence.transactionId := transactionId_of_approval hw
    exact .inr ⟨c, hc, hattempt.trans hid₁.symm, hrole, hevidence ▸ hsome, by rw [hevidence, htx]⟩
  · simp only [hid₀, decide_false, Bool.false_eq_true, if_false] at hstatus ⊢
    exact .inl ⟨b₀, hb₀, rfl, rfl, hstatus, rfl⟩

/-- The application of an update, in a transaction that has changed the methods. -/
theorem ensures_applyReplacement {r : SubscriptionPaymentMethodReplacement} {a : PaymentAttempt}
    {evidence : ProcessorEvidence} {chargeId methodId : Id} {baselineMatches : Bool} {tx : String}
    {paymentMethods : List PaymentMethod} (hvalid : db.Valid) (ha : a ∈ db.attempts)
    (hm : r.matchesAttempt a = true)
    (hcharge : ObservedAs a evidence chargeId db.ledger.charges) :
    Ensures (applyReplacement now r a evidence chargeId baselineMatches methodId tx)
      { db with paymentMethods } fun _ db' => Steps now db db' := by
  rw [applyReplacement, ensures_bind]
  refine ensures_rebindSubscription.mono fun _ db₁ hpost => ?_
  obtain ⟨subscriptions, hdb₁, hrebound⟩ := hpost
  rw [ensures_bind, markAttemptApproved, persist, ensures_onAttempts]
  intro attempts hwrite
  have hattempts₁ : db₁.attempts = db.attempts := by rw [hdb₁]
  rw [hattempts₁] at hwrite
  rw [ensures_bind]
  refine ensures_disablePaymentMethod.mono fun _ db₂ hpost => ?_
  obtain ⟨methods, hdb₂⟩ := hpost
  have hledger₂ : db₂.ledger = db.ledger := by rw [hdb₂, hdb₁]
  rw [ensures_bind]
  rw [← hledger₂] at hcharge
  refine (ensures_moveCharge_applied (by rw [hledger₂]; exact hvalid.charges) hcharge).mono
    fun _ db₃ hpost => ?_
  obtain ⟨charges, hdb₃, happlied⟩ := hpost
  rw [ensures_bind]
  refine ensures_requireAttempt fun _ _ _ _ => ?_
  rw [ensures_bind, ensures_get, ensures_ite]
  refine ⟨fun _ => ensures_throw, fun _ => ?_⟩
  rw [ensures_bind, ensures_appendEvents]
  rw [ChargeApplied, hledger₂, hdb₃] at happlied
  have hquiet : Quiet now db (({ db with attempts } : Db).withCharges charges) :=
    .of_replacement hvalid.attempts ha hm hwrite happlied
  refine ensures_pure.mpr ⟨_, hquiet, .inr ?_⟩
  rw [hdb₃, hdb₂, hdb₁]
  exact Effect.replace r methodId tx subscriptions methods hrebound

/-- The approval of an update that is still open. -/
theorem ensures_applyOpenReplacement {ids : NewIds} {r : SubscriptionPaymentMethodReplacement}
    {a : PaymentAttempt} {evidence : ProcessorEvidence} (hvalid : db.Valid) (ha : a ∈ db.attempts)
    (hm : r.matchesAttempt a = true) :
    Ensures (applyOpenReplacementApproval now ids r a evidence) db
      fun _ db' => Steps now db db' := by
  have hpark := MayPark.of_replacement hvalid.attempts ha hm
  rw [applyOpenReplacementApproval, ensures_bind]
  refine ensures_observe.mono fun observation db₁ hpost => ?_
  obtain ⟨charges, hdb₁, hobserves⟩ := hpost
  have h₁ : LedgerOnly now db db₁ := hdb₁ ▸ hobserves.ledgerOnly (mem_dimensions ha)
  have hquiet₁ : Quiet now db db₁ := h₁.quiet
  have hpark₁ := hpark.of_ledgerOnly h₁
  cases observation with
  | ownedByOtherAttempt =>
    exact (ensures_parkLockedAttempt hpark₁).mono fun _ _ hq => (hquiet₁.trans hq).steps
  | owned charge =>
    simp only []
    rw [ensures_ite]
    refine ⟨fun _ => ?_, fun _ => ?_⟩
    · exact (ensures_moveCharge_parkLocked hpark₁).mono fun _ _ hq => (hquiet₁.trans hq).steps
    split
    · exact ensures_throw
    rw [ensures_bind]
    refine ensures_upsertPaymentMethod.mono fun methodId db₂ hpost => ?_
    obtain ⟨methods, hdb₂⟩ := hpost
    have hpark₂ : MayPark a db₂ := by rw [hdb₂]; exact hpark₁
    have park {code : PaymentResolutionCode} :
        Ensures (parkStaleReplacement now a charge.id evidence code) db₂
          fun _ db' => Steps now db db' := by
      refine (ensures_parkStaleReplacement hpark₂).mono fun _ _ hq => hquiet₁.then ?_
      rw [hdb₂] at hq
      exact hq.steps_of_methods
    rw [ensures_bind, ensures_get]
    split
    · exact park
    rw [ensures_ite]
    refine ⟨fun _ => park, fun _ => ?_⟩
    rw [ensures_ite]
    refine ⟨fun _ => park, fun _ => ?_⟩
    have hcharge : ObservedAs a evidence charge.id db₁.ledger.charges := by
      obtain ⟨c, hc, hid, hattempt, hevidence, -⟩ := hobserves.owned charge rfl
      rw [hdb₁]
      exact ⟨⟨c, hc, hid, hattempt, hevidence⟩, hobserves.alone charge rfl⟩
    rw [hdb₂]
    exact (ensures_applyReplacement (hquiet₁.valid hvalid) hpark₁.2.1 hm hcharge).mono
      fun _ _ h => hquiet₁.then h

/-- The approval of an update. -/
theorem ensures_applyLockedReplacement {ids : NewIds} {liveRecipient : Bool}
    {r : SubscriptionPaymentMethodReplacement} {a : PaymentAttempt} {evidence : ProcessorEvidence}
    (hvalid : db.Valid) (ha : a ∈ db.attempts) (hm : r.matchesAttempt a = true) :
    Ensures (applyLockedReplacementApproved now ids liveRecipient r a evidence) db
      fun _ db' => Steps now db db' := by
  rw [applyLockedReplacementApproved, ensures_bind]
  refine (ensures_stopConflicting ha).mono fun payment db₁ hpost => ?_
  obtain ⟨h₁, hnone⟩ := hpost
  cases payment with
  | some payment => exact ensures_pure.mpr h₁.quiet.steps
  | none =>
    obtain rfl := hnone rfl
    simp only []
    have observed (progression : ProcessorChargeProgression) :
        Ensures (do
          let _ ← observe now ids.charge a evidence progression
          pure a) db₁ fun _ db' => Steps now db₁ db' := by
      rw [ensures_bind]
      exact (ensures_observeKnown (mem_dimensions ha)).mono fun _ _ h =>
        ensures_pure.mpr h.quiet.steps
    rw [ensures_ite]
    refine ⟨fun _ => ?_, fun _ => ?_⟩
    · rw [ensures_bind, ensures_get, ensures_ite]
      exact ⟨fun _ => ensures_throw, fun _ => observed _⟩
    rw [ensures_ite]
    refine ⟨fun _ => ensures_throw, fun _ => ?_⟩
    rw [ensures_ite]
    exact ⟨fun _ => observed _, fun _ => ensures_applyOpenReplacement hvalid ha hm⟩

/-- The approval of an update, of an attempt that is still to be locked. -/
theorem ensures_applyReplacementApproved {ids : NewIds} {liveRecipient : Bool}
    {r : SubscriptionPaymentMethodReplacement} {evidence : ProcessorEvidence} (hvalid : db.Valid) :
    Ensures (applyReplacementApproved now ids liveRecipient r evidence) db
      fun _ db' => Steps now db db' := by
  rw [applyReplacementApproved, ensures_bind]
  exact ensures_lockExpected fun a ha hm => ensures_applyLockedReplacement hvalid ha hm

/-- The reconciliation of an update's approval. -/
theorem ensures_applyReconciledReplacement {ids : NewIds} {pendingId : Id}
    {liveRecipient diagnosed : Bool} {r : SubscriptionPaymentMethodReplacement}
    {evidence : ProcessorEvidence} (hvalid : db.Valid) :
    Ensures (applyReconciledReplacement now ids pendingId liveRecipient diagnosed r evidence) db
      fun _ db' => Steps now db db' := by
  rw [applyReconciledReplacement, ensures_bind]
  refine ensures_lockExpected fun a ha hm => ?_
  rw [ensures_ite]
  refine ⟨fun _ => ?_, fun _ => ?_⟩
  · exact (ensures_recordConflicting hvalid.attempts ha).mono fun _ _ h => h.steps
  rw [ensures_ite]
  refine ⟨fun _ => ?_, fun _ => ensures_applyLockedReplacement hvalid ha hm⟩
  exact (ensures_parkLockedReplacement (.of_replacement hvalid.attempts ha hm)).mono
    fun _ _ h => h.steps

/-! ## Grants -/

/-- A grant. -/
theorem ensures_createGrant {creation : SubscriptionGrantCreation} :
    Ensures (createSubscriptionGrant now creation) db fun _ db' => Steps now db db' := by
  have keep {outcome : SubscriptionGrantCreationOutcome} :
      Ensures (pure outcome : Program SubscriptionGrantCreationOutcome) db
        fun _ db' => Steps now db db' := ensures_pure.mpr (Quiet.refl now db).steps
  rw [createSubscriptionGrant, ensures_bind, ensures_get, ensures_ite]
  refine ⟨fun _ => keep, fun hfuture => ?_⟩
  rw [ensures_ite]
  refine ⟨fun _ => keep, fun hcurrent => ?_⟩
  rw [ensures_ite]
  refine ⟨fun _ => keep, fun hgrant => ?_⟩
  rw [ensures_ite]
  refine ⟨fun _ => keep, fun _ => ?_⟩
  rw [ensures_ite]
  refine ⟨fun _ => keep, fun _ => ?_⟩
  rw [ensures_ite]
  refine ⟨fun _ => ensures_throw, fun _ => ?_⟩
  rw [ensures_bind, ensures_modify]
  exact ensures_pure.mpr (Effect.grant creation (not_le.mp hfuture) (by simpa using hcurrent)
    (by simpa using hgrant)).steps

/-- A revocation. -/
theorem ensures_revokeGrant {revocation : SubscriptionGrantRevocation} :
    Ensures (revokeSubscriptionGrant now revocation) db fun _ db' => Steps now db db' := by
  have keep {outcome : SubscriptionGrantRevocationOutcome} :
      Ensures (pure outcome : Program SubscriptionGrantRevocationOutcome) db
        fun _ db' => Steps now db db' := ensures_pure.mpr (Quiet.refl now db).steps
  rw [revokeSubscriptionGrant, ensures_bind, ensures_get]
  split
  · exact keep
  rw [ensures_ite]
  refine ⟨fun _ => keep, fun _ => ?_⟩
  rw [ensures_ite]
  refine ⟨fun _ => keep, fun _ => ?_⟩
  rw [ensures_bind, ensures_modify]
  exact ensures_pure.mpr (Effect.revoke revocation).steps

/-! ## Every operation -/

/-- An outcome that is not an approval. -/
theorem ensures_resolveOutcome {newId : Id} {r : OutcomeReservation} {observed : ProcessorEvidence}
    {outcome : NonApproval} (hindex : attemptIndexes db.attempts = true) :
    Ensures (resolveOutcome now newId r observed outcome) db fun _ db' => Steps now db db' := by
  have pool (r : OutcomeReservation) :
      Ensures (resolvePoolOutcome now newId r observed outcome.command) db
        fun _ db' => Steps now db db' :=
    (ensures_resolvePoolOutcome hindex).mono fun _ _ h => h.steps
  cases r with
  | initial r => exact pool _
  | charge r =>
    rw [resolveOutcome, ensures_ite]
    exact ⟨fun _ => ensures_resolveRenewal hindex, fun _ => pool _⟩
  | replacement r => exact pool _

/-- Every operation is a step: a quiet program, and at most one effect. -/
theorem Op.steps (op : Op) (hvalid : db.Valid) :
    Ensures (op.transaction now) db fun _ db' => Steps now db db' := by
  have hindex := hvalid.attempts
  have quiet {α : Type} {x : Program α} (h : Ensures x db fun _ db' => Quiet now db db') :
      Ensures x db fun _ db' => Steps now db db' := h.mono fun _ _ h => h.steps
  cases op with
  | configure accounts limits methods claims =>
    exact ensures_modify.mpr (Effect.configure accounts limits methods claims).steps
  | reserveOther n => exact ensures_reserveOther
  | writeOther attemptId w => exact quiet (ensures_writeOther hindex)
  | reserveReplacement mode gateway command => exact ensures_discard.mpr ensures_reserveReplacement
  | admitReplacement r => exact ensures_discard.mpr (ensures_admitReplacement hindex)
  | reconcileReplacement ids pendingId liveRecipient diagnosed r evidence =>
    exact ensures_discard.mpr (ensures_applyReconciledReplacement hvalid)
  | parkReconciledReplacement newId pendingId diagnosed r evidence message =>
    exact ensures_discard.mpr (quiet (ensures_tryParkReconciled hindex))
  | admitEnrollment billingScopeId attemptId => exact quiet (ensures_writeEnrollment hindex rfl)
  | rejectEnrollment billingScopeId attemptId message =>
    exact quiet (ensures_writeEnrollment hindex rfl)
  | reserveRenewal policy mode gateway attemptId command =>
    exact ensures_discard.mpr ensures_reserveRenewal
  | reserveRecovery mode gateway command => exact ensures_discard.mpr ensures_reserveRecovery
  | admitPrepared policy r => exact ensures_discard.mpr (ensures_admitSubmission hindex)
  | restore r => exact ensures_discard.mpr (quiet (ensures_restore hindex))
  | resolve newId r observed outcome => exact ensures_discard.mpr (ensures_resolveOutcome hindex)
  | applyApproved ids liveRecipient policy r evidence =>
    cases r with
    | initial r => exact ensures_discard.mpr (ensures_applyEnrollmentApproved hvalid)
    | charge r => exact ensures_discard.mpr (ensures_applyChargeApproved hvalid)
    | replacement r => exact ensures_discard.mpr (ensures_applyReplacementApproved hvalid)
  | parkApproved newId policy r evidence message =>
    cases r with
    | initial r => exact ensures_discard.mpr (quiet (ensures_tryParkEnrollment hindex))
    | charge r => exact ensures_discard.mpr (quiet (ensures_tryParkCharge hindex))
    | replacement r => exact ensures_discard.mpr (quiet (ensures_tryParkReplacement hindex))
  | observeApproved newId policy r evidence =>
    cases r with
    | initial r => exact quiet (ensures_observeEnrollment hindex)
    | charge r => exact quiet (ensures_observeCharge hindex)
    | replacement r => exact quiet ensures_observeReplacement
  | persistEvidence newId billingScopeId attemptId evidence reverse =>
    exact ensures_persistEvidence.mono fun _ _ h => h.quiet.steps
  | observeCharge newId billingScopeId attemptId gatewayOrderId evidence requested =>
    exact (ensures_observeInTransaction hvalid.charges).mono fun _ _ h => h.quiet.steps
  | expireCharges attemptIds => exact quiet (ensures_writePlain _ rfl)
  | expireMethodUpdates attemptIds => exact quiet (ensures_writePlain _ rfl)
  | expireEnrollments attemptIds => exact quiet (ensures_writePlain _ rfl)
  | expireHostCharges attemptIds => exact quiet (ensures_writePlain _ rfl)
  | claimExact attemptIds => exact quiet (ensures_writePlain _ rfl)
  | exactQuery billingScopeId attemptId observation => exact quiet (ensures_applyExactQuery hindex)
  | classifyPending chargeId => exact quiet ensures_classifyPending
  | manualFailure sanitize mode preloaded =>
    exact ensures_discard.mpr (ensures_failReviewRequired hindex)
  | attestReversal rules attestation =>
    exact ensures_discard.mpr (quiet (ensures_attestReversal hindex))
  | createGrant creation => exact ensures_discard.mpr ensures_createGrant
  | revokeGrant revocation => exact ensures_discard.mpr ensures_revokeGrant
  | cancel owner => exact ensures_discard.mpr ensures_cancelSubscription
  | retire command => exact ensures_discard.mpr ensures_retireExpired
  | changePastDueAccess owner subscriptionId access => exact ensures_changePastDueAccess

end SyrupRail
