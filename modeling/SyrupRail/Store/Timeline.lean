import SyrupRail.PeriodChain
import SyrupRail.Store.Periods
import SyrupRail.Store.TerminalAccess

/-!
# The time line of a subscription

The events that a subscription has started and was renewed tell its whole life: they are its
approved attempts, each once, and their periods are the chain of its rule from the end of the first
one to the end of the period that its row is at. Only the approval of an enrollment and that of a
charge write to either side, and both write one entry: `PaymentStep` takes an effect apart once into
these two and what keeps both sides. A charge is approved for the period that its reservation
computed, so that the chain goes on with the rule because every reserved charge carries the period
of the rule (`Scheduled`).
-/

namespace SyrupRail

open Transactions Tx

/-! ## Paid periods -/

/-- A period that an event announces as paid, and the phase that a subscription starts with it. -/
structure PaidPeriod where
  attemptId : Id
  charge : Money
  period : BillingPeriod
  start : Option SubscriptionPhase
  deriving DecidableEq, Repr

/-- The period of a subscription that an event announces as paid. -/
def BillingEvent.paid (subscriptionId : Id) : BillingEvent → Option PaidPeriod
  | .subscriptionStarted attemptId id _ charge period phase =>
    if id = subscriptionId then some ⟨attemptId, charge, period, some phase⟩ else none
  | .subscriptionRenewed attemptId id _ charge period =>
    if id = subscriptionId then some ⟨attemptId, charge, period, none⟩ else none
  | .subscriptionPaymentFailed .. | .subscriptionEnded .. | .subscriptionPeriodExpired ..
  | .subscriptionCanceled .. | .paymentMethodChanged .. => none

/-- The paid periods of a subscription, in the order of the log. -/
def Db.paidPeriods (db : Db) (subscriptionId : Id) : List PaidPeriod :=
  db.events.filterMap (·.2.paid subscriptionId)

/-- What an attempt was asked to charge; an enrollment carries no period yet. -/
abbrev Payment := Id × Money × Option BillingPeriod

/-- The request of an announced period. -/
def PaidPeriod.payment (p : PaidPeriod) : Payment :=
  (p.attemptId, p.charge, if p.start.isSome then none else some p.period)

/-- The payment of a subscription that an attempt is, once it is approved. -/
def PaymentAttempt.paymentOf (subscriptionId : Id) (a : PaymentAttempt) : Option Payment :=
  if a.status = .approved ∧ a.kind.isOther = false ∧ a.subscriptionId = some subscriptionId then
    some (a.id, a.amount, a.target.period)
  else none

/-- The payments of a subscription. -/
def Db.payments (db : Db) (subscriptionId : Id) : List Payment :=
  db.attempts.filterMap (·.paymentOf subscriptionId)

/-- The columns of a subscription that only a payment moves. -/
structure Subscription.SamePeriod (s s' : Subscription) : Prop where
  id : s'.id = s.id
  owner : s'.owner = s.owner
  rule : s'.recurringPeriod = s.recurringPeriod
  startAt : s'.currentPeriodStartAt = s.currentPeriodStartAt
  endAt : s'.currentPeriodEndAt = s.currentPeriodEndAt
  amount : s'.amount = s.amount
  next : s'.nextRenewalAt = s.nextRenewalAt

/-- A row that stays as it is. -/
theorem Subscription.SamePeriod.refl (s : Subscription) : s.SamePeriod s :=
  ⟨rfl, rfl, rfl, rfl, rfl, rfl, rfl⟩

/-! ## One step -/

/-- What an effect does to the paid periods: nothing, a renewal, or an enrollment. -/
inductive PaymentStep (now : Timestamp) (db db' : Db) : Prop
  | kept (payments : ∀ id, db'.payments id = db.payments id)
      (log : ∀ id, db'.paidPeriods id = db.paidPeriods id)
      (subscriptions : List.Forall₂ Subscription.SamePeriod db.subscriptions db'.subscriptions)
      (discounts : db'.discounts = db.discounts)
  | renewed (r : SubscriptionChargeReservation) (a : PaymentAttempt) (evidence : ProcessorEvidence)
      (renewed : Renewed now r a evidence db db')
  | enrolled (r : SubscriptionEnrollmentReservation) (a : PaymentAttempt)
      (evidence : ProcessorEvidence)
      (enrolled : Enrolled now r a evidence db db')

section Steps

variable {now : Timestamp} {db db' : Db}

/-- An attempt that is not approved pays nothing. -/
theorem PaymentAttempt.paymentOf_eq_none {a : PaymentAttempt} (h : a.status ≠ .approved) (id : Id) :
    a.paymentOf id = none := if_neg fun h' => h h'.1

/-- An open attempt pays nothing. -/
theorem PaymentAttempt.paymentOf_of_isResolvable {a : PaymentAttempt}
    (h : a.status.isResolvable = true) (id : Id) : a.paymentOf id = none := by
  refine PaymentAttempt.paymentOf_eq_none (fun happroved => ?_) id
  rw [happroved] at h
  cases h

/-- Quiet writers keep the payment of a row. -/
theorem RowQuiet.paymentOf {a a' : PaymentAttempt} (h : RowQuiet now a a') (id : Id) :
    a'.paymentOf id = a.paymentOf id := by
  unfold PaymentAttempt.paymentOf
  rw [h.same.kind]
  cases hother : a.kind.isOther with
  | true => simp
  | false =>
    have happroved := h.approved hother
    have hlink := (h.linkage hother).subscriptionId
    rw [h.same.id, h.same.amount, h.same.target, hlink]
    by_cases ha : a.status = .approved
    · simp [ha, happroved.mpr ha]
    · simp [ha, mt happroved.mp ha]

/-- Quiet writers keep the payments. -/
theorem payments_of_rowQuiet (h : List.Forall₂ (RowQuiet now) db.attempts db'.attempts) (id : Id) :
    db'.payments id = db.payments id :=
  Table.filterMap_eq_of_forall₂ (h.imp fun _ _ hrow => hrow.paymentOf id)

/-- A new row pays nothing. -/
theorem payments_insert {n : NewAttempt} (h : db'.attempts = n.row :: db.attempts) (id : Id) :
    db'.payments id = db.payments id := by
  unfold Db.payments
  rw [h, List.filterMap_cons, PaymentAttempt.paymentOf_of_isResolvable (by rfl) id]

/-- A prepared row that is admitted pays nothing before it is resolved. -/
theorem payments_of_admitted (hvalid : db.Valid) {a a' : PaymentAttempt} (ha : a ∈ db.attempts)
    (prepared : a.isPrepared = true) (write : AttemptWriter.admitPrepared.write now a = .ok a')
    (h : db'.attempts = Table.updateWhere (·.id = a.id) (fun _ => a') db.attempts) (id : Id) :
    db'.payments id = db.payments id := by
  have hpending : a.status = .pending := (of_decide_eq_true prepared).1
  have hpending' : a'.status = .pending := by
    obtain ⟨-, -, row, rfl⟩ := PaymentAttempt.update_eq_some (requireOneRow_eq_ok write)
    exact hpending
  unfold Db.payments
  rw [h]
  refine Table.filterMap_eq_of_forall₂ (Table.forall₂_updateWhere (fun b hb hid => ?_) fun _ => rfl)
  obtain rfl := nodup_id_of_attemptIndexes hvalid.attempts hb ha (of_decide_eq_true hid)
  rw [PaymentAttempt.paymentOf_eq_none (by simp [hpending']) id,
    PaymentAttempt.paymentOf_eq_none (by simp [hpending]) id]

/-- An update of one row that keeps the period of every row. -/
theorem SubscriptionUpdated.samePeriod {matched : Subscription → Bool}
    {f : Subscription → Subscription} {subscriptions subscriptions' : List Subscription}
    (h : SubscriptionUpdated matched f subscriptions subscriptions')
    (hf : ∀ s : Subscription, s.SamePeriod (f s)) :
    List.Forall₂ Subscription.SamePeriod subscriptions subscriptions' := by
  rw [h.2.1]
  exact Table.forall₂_updateWhere (fun s _ _ => hf s) .refl

/-- A row that replaces another one of the same period. -/
theorem samePeriod_replace {subscriptions subscriptions' : List Subscription} {s s' : Subscription}
    (hindex : subscriptionIndexes subscriptions = true) (hs : s ∈ subscriptions)
    (hrows : subscriptions' = Table.updateWhere (·.id = s.id) (fun _ => s') subscriptions)
    (h : s.SamePeriod s') : List.Forall₂ Subscription.SamePeriod subscriptions subscriptions' := by
  rw [hrows]
  refine Table.forall₂_updateWhere (fun t ht hid => ?_) .refl
  obtain rfl :=
    Table.eq_of_key_eq (nodup_id_of_subscriptionIndexes hindex) ht hs (of_decide_eq_true hid)
  exact h

/-- Rows that stay. -/
theorem samePeriod_refl (subscriptions : List Subscription) :
    List.Forall₂ Subscription.SamePeriod subscriptions subscriptions :=
  List.forall₂_same.mpr fun s _ => .refl s

/-- Events that announce no paid period. -/
theorem paidPeriods_append {events : List BillingEvent}
    (h : db'.events = db.events ++ events.map (now, ·))
    (hpaid : ∀ e ∈ events, ∀ id, e.paid id = none) (id : Id) :
    db'.paidPeriods id = db.paidPeriods id := by
  have hnone : (events.map (now, ·)).filterMap (·.2.paid id) = [] := by
    rw [List.filterMap_map, List.filterMap_eq_nil_iff]
    exact fun e he => hpaid e he id
  unfold Db.paidPeriods
  rw [h, List.filterMap_append, hnone, List.append_nil]

/-- The events of a failure announce no paid period. -/
theorem failureEvents_paid {v : ValidatedRenewalFailureAttempt} {policy : RenewalFailurePolicy}
    {history : PastDueCausalHistory} {d : RenewalFailureDisposition} {events : List BillingEvent}
    (h : failureEvents v policy history d = .ok events) : ∀ e ∈ events, ∀ id, e.paid id = none := by
  obtain ⟨access, -, hevents⟩ := failureEvents_eq h
  intro e he id
  rcases hevents e he with rfl | ⟨_, _, -, -, rfl⟩
  · rfl
  · rfl

/-- What an effect does to the paid periods. -/
theorem Effect.paymentStep (h : Effect now db db') (hvalid : db.Valid) :
    PaymentStep now db db' := by
  have hindex := hvalid.subscriptions
  have same := samePeriod_refl db.subscriptions
  -- Only the approvals of enrollments and charges pay; whatever else an effect does keeps the
  -- payments, the paid periods and the period of every row.
  cases h with
  | reserve => exact .kept (payments_insert rfl) (fun _ => rfl) same rfl
  | insert => exact .kept (payments_insert rfl) (fun _ => rfl) same rfl
  | admitPrepared r a a' s mem prepared owned request subscription located expected free write =>
    exact .kept (payments_of_admitted hvalid mem prepared write rfl) (fun _ => rfl) same rfl
  | admitUpdate r a a' s mem prepared request subscription located eligible write =>
    exact .kept (payments_of_admitted hvalid mem prepared write rfl) (fun _ => rfl) same rfl
  | fail a subscriptions application applied =>
    rcases applyResolvedAutomaticRenewalFailure_eq_ok hindex applied with ⟨rfl, hsame⟩ |
      ⟨v, s, hs, history, disposition, events, hfailure, rfl, hrows, -, -⟩
    · refine .kept (fun _ => rfl) (paidPeriods_append rfl (List.forall_mem_nil _)) ?_ rfl
      rw [hsame]
      exact same
    · exact .kept (fun _ => rfl) (paidPeriods_append rfl (failureEvents_paid hfailure.announced))
        (samePeriod_replace hindex hs hrows ⟨rfl, rfl, rfl, rfl, rfl, rfl, rfl⟩) rfl
  | expedite a subscriptions subscriptions' retryAt events events' applied expedited announced =>
    rcases applyResolvedAutomaticRenewalFailure_eq_ok hindex applied with ⟨hnoop, -⟩ |
      ⟨v, s, hs, history, disposition, events₁, hfailure, happlied, hrows, -, hindexes⟩
    · cases hnoop
    · obtain ⟨rfl, rfl⟩ := RenewalFailureApplication.applied.inj happlied
      refine .kept (fun _ => rfl) (paidPeriods_append rfl fun e he id => ?_)
        (samePeriod_replace hindex hs (hfailure.expedited_rows hrows hindexes expedited)
          ⟨rfl, rfl, rfl, rfl, rfl, rfl, rfl⟩) rfl
      unfold expeditedEvents at announced
      split at announced
      · split at announced
        · obtain rfl := Except.ok.inj announced
          rw [List.mem_singleton.mp he]
          rfl
        · cases announced
      · cases announced
  | renew r a evidence renewed => exact .renewed r a evidence renewed
  | enroll r a evidence enrolled => exact .enrolled r a evidence enrolled
  | cancel s accessEndsAt subscriptions mem billed free freeUpdate access updated =>
    have hlog : ∀ e ∈ [BillingEvent.subscriptionCanceled s.id s.planKey accessEndsAt], ∀ id,
        e.paid id = none := List.forall_mem_singleton.mpr fun _ => rfl
    exact .kept (fun _ => rfl) (paidPeriods_append rfl hlog)
      (updated.samePeriod fun s => ⟨rfl, rfl, rfl, rfl, rfl, rfl, rfl⟩) rfl
  | retire s period accessEndsAt attempts subscriptions mem billed period_eq expired free access
      rejected updated =>
    have hquiet : Quiet now db { db with attempts } :=
      Quiet.of_writeAttempts rejected fun a _ _ => AttemptWriter.quietWriter_of_isPlain rfl a
    have hlog :
      ∀ e ∈ [BillingEvent.subscriptionPeriodExpired s.id s.planKey period now accessEndsAt],
        ∀ id, e.paid id = none := List.forall_mem_singleton.mpr fun _ => rfl
    exact .kept (payments_of_rowQuiet hquiet.rows) (paidPeriods_append rfl hlog)
      (updated.samePeriod fun s => ⟨rfl, rfl, rfl, rfl, rfl, rfl, rfl⟩) rfl
  | changeAccess access matched subscriptions billed updated =>
    exact .kept (fun _ => rfl) (fun _ => rfl)
      (updated.samePeriod fun s => ⟨rfl, rfl, rfl, rfl, rfl, rfl, rfl⟩) rfl
  | replace r methodId tx subscriptions paymentMethods rebound =>
    have hlog : ∀ e ∈ [r.changedEvent], ∀ id, e.paid id = none :=
      List.forall_mem_singleton.mpr fun _ => rfl
    refine .kept (fun _ => rfl) (paidPeriods_append rfl hlog) ?_ rfl
    rcases rebound with hsame | hupdated
    · rw [hsame]
      exact same
    · exact hupdated.samePeriod fun s => ⟨rfl, rfl, rfl, rfl, rfl, rfl, rfl⟩
  | _ => exact .kept (fun _ => rfl) (fun _ => rfl) same rfl

/-- An approval adds the payment of its attempt to those of its subscription, and to no others. -/
theorem AttemptApproved.payments {a : PaymentAttempt} {evidence : ProcessorEvidence}
    {subscriptionId methodId : Id}
    (h : AttemptApproved now a evidence subscriptionId methodId db db') (hvalid : db.Valid)
    (ha : a ∈ db.attempts) (hopen : a.status.isResolvable = true) (hkind : a.kind.isOther = false) :
    (db'.payments subscriptionId).Perm
    ((a.id, a.amount, a.target.period) :: db.payments subscriptionId) ∧
      ∀ id, id ≠ subscriptionId → db'.payments id = db.payments id := by
  obtain ⟨a', hwrite, hrows, -⟩ := h
  obtain ⟨-, -, row, rfl⟩ := PaymentAttempt.update_eq_some (requireOneRow_eq_ok hwrite)
  unfold Db.payments
  rw [hrows]
  refine ⟨?_, fun id hid => ?_⟩
  · refine Table.perm_filterMap_updateWhere (nodup_map_id_of_attemptIndexes hvalid.attempts) ha
      (PaymentAttempt.paymentOf_of_isResolvable hopen subscriptionId) ?_
    exact if_pos ⟨rfl, hkind, rfl⟩
  · refine Table.filterMap_eq_of_forall₂
      (Table.forall₂_updateWhere (fun b hb hbid => ?_) fun _ => rfl)
    obtain rfl := nodup_id_of_attemptIndexes hvalid.attempts hb ha (of_decide_eq_true hbid)
    rw [PaymentAttempt.paymentOf_of_isResolvable hopen id]
    exact if_neg fun h => hid (Option.some.inj h.2.2).symm

/-- The attempt of a reserved charge is one for a period. -/
theorem SubscriptionChargeReservation.isSubscriptionCharge_of_target
    {r : SubscriptionChargeReservation} {a : PaymentAttempt} (h : a.target = r.target) :
    a.isSubscriptionCharge = true := by
  refine decide_eq_true ?_
  rw [PaymentAttempt.kind, h, SubscriptionChargeReservation.target]
  split
  · exact .inl rfl
  · exact .inr rfl

/-- What a renewal or a recovery has paid: the next period of the row that it moves there. -/
structure RenewedRow (now : Timestamp) (r : SubscriptionChargeReservation) (a : PaymentAttempt)
    (db db' : Db) (s s' : Subscription) : Prop where
  mem : s ∈ db.subscriptions
  attempt : a ∈ db.attempts
  target : a.target = r.target
  amount : a.amount = r.amount
  charge : a.isSubscriptionCharge = true
  ofSubscription : a.target.subscriptionId = some s.id
  billed : s.status.isBilled = true
  due : s.nextRenewalAt = r.period.startAt
  charged : r.kind = .renewal → s.amount = r.amount
  id : s'.id = s.id
  owner : s'.owner = s.owner
  rule : s'.recurringPeriod = s.recurringPeriod
  startAt : s'.currentPeriodStartAt = r.period.startAt
  endAt : s'.currentPeriodEndAt = r.period.endAt
  next : s'.nextRenewalAt = r.period.endAt
  rows : db'.subscriptions = Table.updateWhere (·.id = s.id) (fun _ => s') db.subscriptions
  payments : (db'.payments s.id).Perm ((a.id, a.amount, a.target.period) :: db.payments s.id)
  others : ∀ id, id ≠ s.id → db'.payments id = db.payments id
  log : db'.paidPeriods s.id = db.paidPeriods s.id ++ [⟨a.id, a.amount, r.period, none⟩]
  othersLog : ∀ id, id ≠ s.id → db'.paidPeriods id = db.paidPeriods id
  discount : ∃ moved counted, moved.discounts = db.discounts ∧
    DiscountAdvance now s.id s.planKey moved counted ∧ db'.discounts = counted.discounts ∧
    (counted.subscriptions = moved.subscriptions → s'.amount = s.amount) ∧
    ∀ cents, counted.subscriptions = Table.updateWhere (·.id = s.id) (·.withAmountCents now cents)
      moved.subscriptions → s'.amount = { s.amount with cents }

/-- The period of a renewal, in the log of its subscription. -/
theorem paidPeriods_renewed {r : SubscriptionChargeReservation}
    (h : db'.events = db.events ++ [(now, r.renewedEvent)]) :
    db'.paidPeriods r.expected.subscriptionId = db.paidPeriods r.expected.subscriptionId ++
        [⟨r.identity.attemptId, r.amount, r.period, none⟩] ∧
      ∀ id, id ≠ r.expected.subscriptionId → db'.paidPeriods id = db.paidPeriods id := by
  unfold Db.paidPeriods
  rw [h]
  refine ⟨?_, fun id hid => ?_⟩
  · rw [List.filterMap_append]
    simp [SubscriptionChargeReservation.renewedEvent, BillingEvent.paid]
  · rw [List.filterMap_append]
    simp [SubscriptionChargeReservation.renewedEvent, BillingEvent.paid, hid.symm]

/-- A renewal pays the next period of one row. -/
theorem Renewed.row {r : SubscriptionChargeReservation} {a : PaymentAttempt}
    {evidence : ProcessorEvidence} (h : Renewed now r a evidence db db') (hvalid : db.Valid) :
    ∃ s s', RenewedRow now r a db db' s s' := by
  obtain ⟨s, hs, methodId, renewed, discounted, hlocates, hexpects, hamount, happroved, hrows, -,
    -, hkept, hrun, hsubscriptions, hdiscounts⟩ := h.subscription
  have hid : s.id = r.expected.subscriptionId := (of_decide_eq_true hlocates).1
  have hmatches := of_decide_eq_true h.reserved
  have hrequest := of_decide_eq_true hmatches.2.2
  have htarget : a.target = r.target := hrequest.1
  have hcharge := SubscriptionChargeReservation.isSubscriptionCharge_of_target htarget
  have hother := PaymentAttempt.isOther_of_isSubscriptionCharge hcharge
  have hof : a.target.subscriptionId = some s.id := by
    rw [htarget, r.target_subscriptionId, hid]
  have hattempt : r.identity.attemptId = a.id := by
    rw [← hmatches.1]
    rfl
  obtain ⟨hlog, hlogs⟩ := paidPeriods_renewed h.events
  rw [← hid, hattempt, ← hrequest.2.2.2.1] at hlog
  rw [← hid] at hlogs
  obtain ⟨hpayments, hothers⟩ := happroved.payments hvalid h.mem h.open_ hother
  have hcolumns : (r.advanced now methodId evidence s).id = s.id ∧
      (r.advanced now methodId evidence s).owner = s.owner ∧
      (r.advanced now methodId evidence s).recurringPeriod = s.recurringPeriod ∧
      (r.advanced now methodId evidence s).currentPeriodStartAt = r.period.startAt ∧
      (r.advanced now methodId evidence s).currentPeriodEndAt = r.period.endAt ∧
      (r.advanced now methodId evidence s).nextRenewalAt = r.period.endAt ∧
      (r.advanced now methodId evidence s).amount = s.amount := by
    unfold SubscriptionChargeReservation.advanced
    split
    · exact ⟨rfl, rfl, rfl, rfl, rfl, rfl, rfl⟩
    · exact ⟨rfl, rfl, rfl, rfl, rfl, rfl, rfl⟩
  obtain ⟨hid', howner, hrule, hstart, hend, hnext, hsame⟩ := hcolumns
  -- Up to its price, the row is the one that the reservation advances.
  have hadvance := ensures_discountAdvance _ _ hrun
  have hplan : r.planKey = s.planKey := (of_decide_eq_true hlocates).2.2.2.2.symm
  rw [hplan] at hadvance
  obtain ⟨s', hs', hdb⟩ : ∃ s', (s' = r.advanced now methodId evidence s ∨
      ∃ cents, s' = (r.advanced now methodId evidence s).withAmountCents now cents) ∧
      db'.subscriptions = Table.updateWhere (·.id = s.id) (fun _ => s') db.subscriptions := by
    rcases hadvance.subscriptions with hkept | ⟨cents, hpriced, -⟩
    · exact ⟨_, .inl rfl, by rw [hsubscriptions, hkept, hrows]⟩
    · refine ⟨_, .inr ⟨cents, rfl⟩, ?_⟩
      rw [hsubscriptions, hpriced, hrows, updateWhere_updateWhere_id hid']
  have hnew : s' ∈ db'.subscriptions := by
    rw [hdb]
    exact Table.mem_replaceBy_self hs
  have hid'' : s'.id = s.id := by
    rcases hs' with rfl | ⟨cents, rfl⟩
    · exact hid'
    · exact hid'
  -- The discount sets the price of the row, or leaves it.
  have hprice : (discounted.subscriptions = renewed.subscriptions → s'.amount = s.amount) ∧
      ∀ cents, discounted.subscriptions =
        Table.updateWhere (·.id = s.id) (·.withAmountCents now cents) renewed.subscriptions →
            s'.amount = { s.amount with cents } := by
    refine ⟨fun hkept => ?_, fun cents hpriced => ?_⟩
    · rw [hsubscriptions, hkept, hrows] at hnew
      rcases Table.mem_replaceBy hnew with ⟨-, hne⟩ | heq
      · exact absurd hid'' hne
      · rw [heq, hsame]
    · rw [hsubscriptions, hpriced, hrows, updateWhere_updateWhere_id hid'] at hnew
      rcases Table.mem_replaceBy hnew with ⟨-, hne⟩ | heq
      · exact absurd hid'' hne
      · rw [heq, ← hsame]
        rfl
  have hrow : s'.owner = s.owner ∧ s'.recurringPeriod = s.recurringPeriod ∧
      s'.currentPeriodStartAt = r.period.startAt ∧ s'.currentPeriodEndAt = r.period.endAt ∧
      s'.nextRenewalAt = r.period.endAt := by
    rcases hs' with rfl | ⟨cents, rfl⟩
    · exact ⟨howner, hrule, hstart, hend, hnext⟩
    · exact ⟨howner, hrule, hstart, hend, hnext⟩
  obtain ⟨howner, hrule, hstart, hend, hnext⟩ := hrow
  exact ⟨s, s', hs, h.mem, htarget, hrequest.2.2.2.1, hcharge, hof,
    (of_decide_eq_true hexpects).2.1, (of_decide_eq_true hexpects).2.2.2, hamount, hid'', howner,
      hrule, hstart, hend, hnext, hdb, hpayments,
    hothers, hlog, hlogs, renewed, discounted, hkept, hadvance, hdiscounts, hprice.1, hprice.2⟩

/-- What an enrollment has paid: the first period of a new row. -/
structure EnrolledRow (a : PaymentAttempt) (db db' : Db) (s : Subscription) (period : BillingPeriod)
    (phase : SubscriptionPhase) : Prop where
  startAt : s.currentPeriodStartAt = period.startAt
  endAt : s.currentPeriodEndAt = period.endAt
  next : s.nextRenewalAt = period.endAt
  rows : db'.subscriptions = s :: db.subscriptions
  fresh : ∀ t ∈ db.subscriptions, t.id ≠ s.id
  payments : (db'.payments s.id).Perm ((a.id, a.amount, none) :: db.payments s.id)
  others : ∀ id, id ≠ s.id → db'.payments id = db.payments id
  log : db'.paidPeriods s.id = db.paidPeriods s.id ++ [⟨a.id, a.amount, period, some phase⟩]
  othersLog : ∀ id, id ≠ s.id → db'.paidPeriods id = db.paidPeriods id
  discount : ∃ offer discount appliedAt unclaimed claimed,
    phase = (activationProjection offer discount).phase ∧
    s.amount.cents = (activationProjection offer discount).recurringChargeAfterInitial.cents ∧
    unclaimed.discounts = db.discounts ∧
    InitialDiscount a s.id s.planKey appliedAt
      (activationProjection offer discount).discountPeriodsApplied unclaimed discount claimed ∧
        db'.discounts = claimed.discounts

/-- An enrollment pays the first period of one new row. -/
theorem Enrolled.row {r : SubscriptionEnrollmentReservation} {a : PaymentAttempt}
    {evidence : ProcessorEvidence} (h : Enrolled now r a evidence db db') (hvalid : db.Valid) :
    ∃ s period phase, EnrolledRow a db db' s period phase := by
  obtain ⟨subscriptionId, methodId, offer, discount, period, tx, unclaimed, claimed, hterms, -,
    happroved, hrows, -, hindexes, hkept, -, hrun, hdiscounts, -, hevents⟩ := h.subscription
  have hkind : a.kind = .subscriptionInitial := (of_decide_eq_true h.reserved).2.1
  obtain ⟨hpayments, hothers⟩ := happroved.payments hvalid h.mem h.open_ (by rw [hkind]; rfl)
  have hperiod : a.target.period = none := by
    cases htarget : a.target with
    | subscriptionInitial => rfl
    | hostCharge => rfl
    | subscriptionPaymentMethodUpdate => rfl
    | subscriptionRenewal =>
      rw [PaymentAttempt.kind, htarget] at hkind
      cases hkind
    | subscriptionRecovery =>
      rw [PaymentAttempt.kind, htarget] at hkind
      cases hkind
  rw [hperiod] at hpayments
  have hfresh : ∀ t ∈ db.subscriptions, t.id ≠ subscriptionId := by
    have hnodup := nodup_id_of_subscriptionIndexes hindexes
    rw [hrows, List.map_cons, List.nodup_cons] at hnodup
    intro t ht hid
    exact hnodup.1 (List.mem_map.mpr ⟨t, ht, hid⟩)
  have hlog (id : Id) : db'.paidPeriods id = db.paidPeriods id ++
      (if subscriptionId = id then
        [⟨a.id, a.amount, period, some (activationProjection offer discount).phase⟩] else []) := by
    unfold Db.paidPeriods
    rw [hevents, List.filterMap_append]
    congr 1
    by_cases hid : subscriptionId = id
    · simp [BillingEvent.paid, hid]
    · simp [BillingEvent.paid, hid]
  refine ⟨_, period, (activationProjection offer discount).phase, rfl, rfl, rfl, hrows, hfresh,
    hpayments, hothers, ?_, fun id hid => ?_, offer, discount, _, unclaimed, claimed, rfl,
      rfl, hkept,
    ensures_initialDiscount _ _ hrun, hdiscounts⟩
  · rw [hlog]
    exact congrArg _ (if_pos rfl)
  · rw [hlog, if_neg (by exact hid.symm), List.append_nil]

/-! ## Scheduled charges -/

/-- A charge of a subscription: its period is one of the rule, not after the next renewal, and a
charge of the next one has the price of the row. -/
structure ScheduledFor (a : PaymentAttempt) (s : Subscription) : Prop where
  ofSubscription : a.target.subscriptionId = some s.id
  period : ∃ period, a.target.period = some period ∧
    nextBillingPeriod period.startAt s.recurringPeriod = .ok period ∧
      period.startAt ≤ s.nextRenewalAt ∧
    (period.startAt = s.nextRenewalAt → a.amount = s.amount)

/-- Every charge belongs to a subscription. -/
def Scheduled (db : Db) : Prop :=
  ∀ a ∈ db.attempts, a.isSubscriptionCharge = true → ∃ s ∈ db.subscriptions, ScheduledFor a s

/-- A charge stays scheduled with its request and the period of its row. -/
theorem ScheduledFor.same {a a' : PaymentAttempt} {s s' : Subscription} (h : ScheduledFor a s)
    (ha : a.SameRequest a') (hs : s.SamePeriod s') : ScheduledFor a' s' := by
  obtain ⟨period, hperiod, hnext, hle, hamount⟩ := h.period
  refine ⟨by rw [ha.target, h.ofSubscription, hs.id], period, by rw [ha.target, hperiod],
    ?_, ?_, ?_⟩
  · rw [hs.rule]
    exact hnext
  · rw [hs.next]
    exact hle
  · rw [hs.next, ha.amount, hs.amount]
    exact hamount

/-- The reservation of a charge takes the period and the price of the row. -/
theorem scheduledFor_inserted {n : NewAttempt} {s : Subscription} {period : BillingPeriod}
    (hnext : nextPeriod s = .ok period) (hperiod : n.target.period = some period)
    (hof : n.target.subscriptionId = some s.id) (hamount : n.amount = s.amount) :
    ScheduledFor n.row s := by
  have hstart := nextPeriod_startAt hnext
  refine ⟨hof, period, hperiod, ?_, le_of_eq hstart, fun _ => hamount⟩
  unfold nextPeriod at hnext
  split at hnext
  · rename_i period' hbilling
    obtain rfl := Except.ok.inj hnext
    rw [hstart]
    exact hbilling
  · cases hnext

/-- A charge of a row that a payment moves is one of an earlier period. -/
theorem ScheduledFor.moved {a b : PaymentAttempt} {r : SubscriptionChargeReservation}
    {s s' : Subscription} (h : ScheduledFor b s) (hrow : RenewedRow now r a db db' s s') :
    ScheduledFor b s' := by
  obtain ⟨period, hperiod, hnext, hle, -⟩ := h.period
  have hlt : s.nextRenewalAt < s'.nextRenewalAt := by
    rw [hrow.next, hrow.due]
    exact r.period.start_lt_end
  refine ⟨by rw [h.ofSubscription,
    hrow.id], period, hperiod, by rw [hrow.rule]; exact hnext, ?_, ?_⟩
  · exact le_of_lt (lt_of_le_of_lt hle hlt)
  · intro heq
    exact absurd heq (ne_of_lt (lt_of_le_of_lt hle hlt))

/-- Every row after an effect is a new one or has the request of one before. -/
theorem AttemptsStep.sameRequest (h : AttemptsStep now db db') {a' : PaymentAttempt}
    (ha' : a' ∈ db'.attempts) :
    (∃ a ∈ db.attempts, a.SameRequest a') ∨
      (a'.isSubscriptionCharge = true → ∃ s ∈ db.subscriptions, ScheduledFor a' s) := by
  have written {a : PaymentAttempt} {w : AttemptWriter} (ha : a ∈ db.attempts)
      (hwrite : w.write now a = .ok a') : ∃ a ∈ db.attempts, a.SameRequest a' := by
    rcases AttemptWriter.write_stores hwrite with heq | hs
    · exact ⟨a, ha, by rw [heq]; rfl⟩
    · exact ⟨a, ha, hs.same⟩
  cases h with
  | kept rows _ =>
    obtain ⟨a, ha, hrow⟩ := Table.exists_of_mem_right rows ha'
    exact .inl ⟨a, ha, hrow.same⟩
  | inserted n _ charge rows _ =>
    rcases List.mem_cons.mp (rows ▸ ha') with rfl | ha
    · refine .inr fun hcharge => ?_
      obtain ⟨s, hs, period, -, hnext, hperiod, hof, hamount, -⟩ := charge hcharge
      exact ⟨s, hs, scheduledFor_inserted hnext hperiod hof hamount⟩
    · exact .inl ⟨a', ha, rfl⟩
  | admitted a b s mem _ _ _ _ _ write rows _ =>
    rcases Table.mem_replaceBy (rows ▸ ha') with ⟨ha, -⟩ | rfl
    · exact .inl ⟨a', ha, rfl⟩
    · exact .inl (written mem write)
  | approved a b _ _ _ mem _ _ _ write rows _ =>
    rcases Table.mem_replaceBy (rows ▸ ha') with ⟨ha, -⟩ | rfl
    · exact .inl ⟨a', ha, rfl⟩
    · exact .inl (written mem write)

/-- A row of a subscription is found again after an effect, with the charges scheduled for it. -/
theorem PaymentStep.scheduled (h : PaymentStep now db db') (hvalid : db.Valid) {s : Subscription}
    (hs : s ∈ db.subscriptions) {a : PaymentAttempt} (ha : ScheduledFor a s) :
    ∃ s' ∈ db'.subscriptions, ScheduledFor a s' := by
  cases h with
  | kept _ _ subscriptions _ =>
    obtain ⟨s', hs', hsame⟩ := Table.exists_of_mem_left subscriptions hs
    exact ⟨s', hs', ha.same rfl hsame⟩
  | renewed r b evidence renewed =>
    obtain ⟨t, t', hrow⟩ := renewed.row hvalid
    by_cases hid : s.id = t.id
    · obtain rfl :=
        Table.eq_of_key_eq (nodup_id_of_subscriptionIndexes hvalid.subscriptions) hs hrow.mem hid
      refine ⟨t', ?_, ha.moved hrow⟩
      rw [hrow.rows]
      exact Table.mem_replaceBy_self hs
    · refine ⟨s, ?_, ha⟩
      rw [hrow.rows]
      exact Table.mem_replaceBy_of_ne hs hid
  | enrolled r b evidence enrolled =>
    obtain ⟨t, period, phase, hrow⟩ := enrolled.row hvalid
    refine ⟨s, ?_, ha⟩
    rw [hrow.rows]
    exact List.mem_cons_of_mem _ hs

/-- An effect keeps the charges scheduled. -/
theorem Effect.scheduled (h : Effect now db db') (hvalid : db.Valid) (hscheduled : Scheduled db) :
    Scheduled db' := by
  intro a' ha' hcharge
  rcases h.attempts.sameRequest ha' with ⟨a, ha, hsame⟩ | hnew
  · obtain ⟨s, hs, hfor⟩ := hscheduled a ha (hsame.isSubscriptionCharge.symm.trans hcharge)
    exact (h.paymentStep hvalid).scheduled hvalid hs (hfor.same hsame (.refl s))
  · obtain ⟨s, hs, hfor⟩ := hnew hcharge
    exact (h.paymentStep hvalid).scheduled hvalid hs hfor

end Steps

/-- The charges are scheduled along every run. -/
theorem law_scheduled : Db.Law Scheduled where
  fresh db h := by
    intro a ha
    simp [h.attempts] at ha
  later _ _ _ _ h := h
  quiet db db' _ hquiet h := by
    intro a' ha' hcharge
    obtain ⟨a, ha, hrow⟩ := Table.exists_of_mem_right hquiet.rows ha'
    obtain ⟨s, hs, hfor⟩ := h a ha (hrow.same.isSubscriptionCharge.symm.trans hcharge)
    exact ⟨s, by rwa [hquiet.subscriptions], hfor.same hrow.same (.refl s)⟩
  effect _ _ hvalid heffect h := heffect.scheduled hvalid h

/-! ## The time line -/

/-- The life of a subscription as its events tell it: the approved attempts are the announced
periods, which start once and then follow the rule up to the period of the row. -/
structure Timeline (db : Db) (s : Subscription) : Prop where
  attempts : (db.payments s.id).Perm ((db.paidPeriods s.id).map PaidPeriod.payment)
  periods : ∃ first renewals last, db.paidPeriods s.id = first :: renewals ∧ first.start ≠ none ∧
    (∀ p ∈ renewals, p.start = none) ∧
    billingPeriodChain s.recurringPeriod renewals.length first.period.endAt =
      .ok (renewals.map (·.period)) ∧
    (first :: renewals).getLast? = some last ∧ last.period.startAt = s.currentPeriodStartAt ∧
    last.period.endAt = s.currentPeriodEndAt

/-- Every subscription has its time line, and nothing is paid for any other. -/
structure Timelines (db : Db) : Prop where
  timeline : ∀ s ∈ db.subscriptions, Timeline db s
  unknown : ∀ id, (∀ s ∈ db.subscriptions, s.id ≠ id) → db.payments id = [] ∧ db.paidPeriods id = []

/-- A chain goes on with the next period of its rule. -/
theorem billingPeriodChain_concat {rule : SubscriptionPeriodRule} {n : ℕ} {startAt : Timestamp}
    {periods : List BillingPeriod} {period : BillingPeriod}
    (h : billingPeriodChain rule n startAt = .ok periods)
    (hnext : nextBillingPeriod ((periods.getLast?.map (·.endAt)).getD startAt) rule = .ok period) :
    billingPeriodChain rule (n + 1) startAt = .ok (periods ++ [period]) := by
  induction n generalizing startAt periods with
  | zero =>
    obtain rfl := Except.ok.inj h
    have hnext : nextBillingPeriod startAt rule = .ok period := hnext
    rw [billingPeriodChain, hnext]
    rfl
  | succ n ih =>
    rw [billingPeriodChain] at h
    obtain ⟨first, hfirst, h⟩ := bind_eq_ok.mp h
    obtain ⟨rest, hrest, h⟩ := bind_eq_ok.mp h
    obtain rfl := Except.ok.inj h
    have hlast : ((first :: rest).getLast?.map (·.endAt)).getD startAt =
        (rest.getLast?.map (·.endAt)).getD first.endAt := by
      cases hl : rest.getLast? with
      | none =>
        rw [List.getLast?_eq_none_iff.mp hl]
        rfl
      | some last => rw [List.getLast?_cons, hl]; rfl
    rw [hlast] at hnext
    rw [billingPeriodChain, hfirst]
    show (do
      let rest ← billingPeriodChain rule (n + 1) first.endAt
      Except.ok (first :: rest)) = _
    rw [ih hrest hnext]
    rfl

section Laws

variable {now : Timestamp} {db db' : Db}

/-- A time line that neither side of changes. -/
theorem Timeline.same {s s' : Subscription} (h : Timeline db s) (hs : s.SamePeriod s')
    (hpayments : db'.payments s.id = db.payments s.id)
    (hlog : db'.paidPeriods s.id = db.paidPeriods s.id) : Timeline db' s' := by
  refine ⟨?_, ?_⟩
  · rw [hs.id, hpayments, hlog]
    exact h.attempts
  · rw [hs.id, hlog, hs.rule, hs.startAt, hs.endAt]
    exact h.periods

/-- The time line of a row that is renewed goes on with the period that is paid. -/
theorem Timeline.renewed {s s' : Subscription} {r : SubscriptionChargeReservation}
    {a : PaymentAttempt} (h : Timeline db s) (hrow : RenewedRow now r a db db' s s')
    (hvalid : db.Valid) (hscheduled : Scheduled db) :
    Timeline db' s' := by
  have hperiod : a.target.period = some r.period := by rw [hrow.target, r.target_period]
  refine ⟨?_, ?_⟩
  · rw [hrow.id, hrow.log, List.map_append, List.map_singleton]
    refine hrow.payments.trans ?_
    rw [hperiod]
    exact (h.attempts.cons _).trans (List.perm_append_singleton _ _).symm
  · obtain ⟨first, renewals, last, hpaid, hfirst, hrenewals, hchain, hlast, -, hend⟩ := h.periods
    refine ⟨first, renewals ++ [⟨a.id, a.amount, r.period, none⟩],
      ⟨a.id, a.amount, r.period, none⟩, ?_, hfirst, fun p hp => ?_, ?_, ?_, hrow.startAt.symm,
        hrow.endAt.symm⟩
    · rw [hrow.id, hrow.log, hpaid, List.cons_append]
    · rcases List.mem_append.mp hp with hp | hp
      · exact hrenewals p hp
      · rw [List.mem_singleton.mp hp]
    · -- The attempt charges the period that follows the one of the row.
      obtain ⟨t, ht, hfor⟩ := hscheduled a hrow.attempt hrow.charge
      have hid : t.id = s.id := Option.some.inj (hfor.ofSubscription.symm.trans hrow.ofSubscription)
      obtain rfl :=
        Table.eq_of_key_eq (nodup_id_of_subscriptionIndexes hvalid.subscriptions) ht hrow.mem hid
      obtain ⟨period, htarget, hnext, -⟩ := hfor.period
      obtain rfl := Option.some.inj (htarget.symm.trans hperiod)
      have hcurrent : r.period.startAt = t.currentPeriodEndAt := by
        rw [← hrow.due]
        exact Subscription.nextRenewalAt_eq (hvalid.checks t ht)
      rw [hrow.rule, List.length_append, List.length_singleton, List.map_append, List.map_singleton]
      refine billingPeriodChain_concat hchain ?_
      have hstart : ((renewals.map (·.period)).getLast?.map (·.endAt)).getD first.period.endAt =
          r.period.startAt := by
        rw [hcurrent, ← hend]
        cases hl : renewals.getLast? with
        | none =>
          rw [List.getLast?_eq_none_iff.mp hl] at hlast ⊢
          rw [Option.some.inj hlast.symm]
          rfl
        | some p =>
          rw [List.getLast?_cons, hl] at hlast
          rw [List.getLast?_map, hl, ← Option.some.inj hlast]
          rfl
      rw [hstart]
      exact hnext
    · rw [← List.cons_append, List.getLast?_concat]

/-- An effect keeps the time lines. -/
theorem Effect.timelines (h : Effect now db db') (hvalid : db.Valid) (hscheduled : Scheduled db)
    (hlines : Timelines db) : Timelines db' := by
  cases h.paymentStep hvalid with
  | kept payments log subscriptions _ =>
    refine ⟨fun s' hs' => ?_, fun id hid => ?_⟩
    · obtain ⟨s, hs, hsame⟩ := Table.exists_of_mem_right subscriptions hs'
      exact (hlines.timeline s hs).same hsame (payments s.id) (log s.id)
    · rw [payments, log]
      refine hlines.unknown id fun s hs heq => ?_
      obtain ⟨s', hs', hsame⟩ := Table.exists_of_mem_left subscriptions hs
      exact hid s' hs' (hsame.id.trans heq)
  | renewed r a evidence renewed =>
    obtain ⟨s, s', hrow⟩ := renewed.row hvalid
    refine ⟨fun t ht => ?_, fun id hid => ?_⟩
    · rcases Table.mem_replaceBy (hrow.rows ▸ ht) with ⟨ht, hne⟩ | rfl
      · exact (hlines.timeline t ht).same (.refl t) (hrow.others t.id hne) (hrow.othersLog t.id hne)
      · exact (hlines.timeline s hrow.mem).renewed hrow hvalid hscheduled
    · have hne : id ≠ s.id := by
        rintro rfl
        refine hid s' ?_ hrow.id
        rw [hrow.rows]
        exact Table.mem_replaceBy_self hrow.mem
      rw [hrow.others id hne, hrow.othersLog id hne]
      refine hlines.unknown id fun t ht heq => ?_
      refine hid t ?_ heq
      rw [hrow.rows]
      exact Table.mem_replaceBy_of_ne ht (heq ▸ hne)
  | enrolled r a evidence enrolled =>
    obtain ⟨s, period, phase, hrow⟩ := enrolled.row hvalid
    have hnone := hlines.unknown s.id hrow.fresh
    refine ⟨fun t ht => ?_, fun id hid => ?_⟩
    · rcases List.mem_cons.mp (hrow.rows ▸ ht) with rfl | ht
      · -- The first period of a new row.
        have hlog : db'.paidPeriods t.id = [⟨a.id, a.amount, period, some phase⟩] := by
          rw [hrow.log, hnone.2, List.nil_append]
        refine ⟨?_, ⟨a.id, a.amount, period, some phase⟩, [], ⟨a.id, a.amount, period, some phase⟩,
          hlog, Option.some_ne_none _, List.forall_mem_nil _, rfl, rfl, hrow.startAt.symm,
            hrow.endAt.symm⟩
        rw [hlog]
        refine hrow.payments.trans ?_
        rw [hnone.1]
        rfl
      · have hne := hrow.fresh t ht
        exact (hlines.timeline t ht).same (.refl t) (hrow.others t.id hne) (hrow.othersLog t.id hne)
    · have hne : id ≠ s.id := by
        rintro rfl
        refine hid s ?_ rfl
        rw [hrow.rows]
        exact List.mem_cons_self
      rw [hrow.others id hne, hrow.othersLog id hne]
      refine hlines.unknown id fun t ht heq => ?_
      refine hid t ?_ heq
      rw [hrow.rows]
      exact List.mem_cons_of_mem _ ht

end Laws

/-- The time lines are kept along every run. -/
theorem law_timelines : Db.Law fun db => Scheduled db ∧ Timelines db :=
  law_scheduled.and
    (fun db h => by
      refine ⟨fun s hs => ?_, fun id _ => ?_⟩
      · simp [h.subscriptions] at hs
      · simp [Db.payments, Db.paidPeriods, h.attempts, h.events])
    (fun _ _ _ _ _ h =>
      ⟨fun s hs => ⟨(h.timeline s hs).attempts, (h.timeline s hs).periods⟩, h.unknown⟩)
    (fun db db' _ hquiet _ h => by
      have hpayments := payments_of_rowQuiet hquiet.rows
      have hlog (id : Id) : db'.paidPeriods id = db.paidPeriods id := by
        obtain ⟨attempts, ledger, rfl⟩ := hquiet.frame
        rfl
      refine ⟨fun s hs => ?_, fun id hid => ?_⟩
      · rw [hquiet.subscriptions] at hs
        exact (h.timeline s hs).same (.refl s) (hpayments s.id) (hlog s.id)
      · rw [hpayments, hlog]
        rw [hquiet.subscriptions] at hid
        exact h.unknown id hid)
    (fun _ _ hvalid heffect hscheduled h => heffect.timelines hvalid hscheduled h)

/-- The payments of a subscription have the ids of their attempts, each once. -/
theorem nodup_payments {db : Db} (hvalid : db.Valid) (id : Id) :
    ((db.payments id).map (·.1)).Nodup := by
  have hids (attempts : List PaymentAttempt) :
    ((attempts.filterMap (·.paymentOf id)).map (·.1)).Sublist
      (attempts.map (·.id)) := by
    induction attempts with
    | nil => exact List.Sublist.slnil
    | cons a attempts ih =>
      rw [List.filterMap_cons]
      unfold PaymentAttempt.paymentOf at ih ⊢
      split
      · exact ih.cons _
      · rename_i payment hpayment
        split_ifs at hpayment
        rw [← Option.some.inj hpayment]
        exact ih.cons_cons _
  exact (nodup_map_id_of_attemptIndexes hvalid.attempts).sublist (hids db.attempts)

/-- The paid periods of a subscription tile its life. After every run of the engine, the log
announces for each subscription one start and then its renewals, with the periods of its rule one
after the other from the end of the first to the end of the period that the row is at; these are
exactly its approved attempts, each announced once, with its charge and its period; and nothing is
announced or approved for a subscription that there is not. -/
theorem paid_periods_tile {db₀ : Db} (hfresh : db₀.Fresh) (steps : List (ℕ × Op)) :
    let db := run execStore db₀ steps
    (∀ s ∈ db.subscriptions, Timeline db s ∧ ((db.paidPeriods s.id).map (·.attemptId)).Nodup) ∧
      ∀ id, (∀ s ∈ db.subscriptions, s.id ≠ id) → db.payments id = [] ∧ db.paidPeriods id = [] := by
  intro db
  obtain ⟨hvalid, -, hlines⟩ := law_timelines.holds hfresh steps
  refine ⟨fun s hs => ⟨hlines.timeline s hs, ?_⟩, hlines.unknown⟩
  have hperm := (hlines.timeline s hs).attempts.map (·.1)
  rw [List.map_map] at hperm
  exact hperm.nodup (nodup_payments hvalid s.id)

/-- An enrollment and its first renewal are two paid periods. -/
theorem paid_periods_tile_firstRenewal :
    let db := run execStore accountStore (enrollment ++ submittedRenewal ++ [approvedRenewal])
    ∃ s ∈ db.subscriptions, Timeline db s ∧ (db.paidPeriods s.id).length = 2 ∧
      s.currentPeriodEndAt = 60 * microsPerDay := by
  intro db
  have htile := (paid_periods_tile accountStore_fresh
    (enrollment ++ submittedRenewal ++ [approvedRenewal])).1
  have hrow : (db.subscriptions.any fun s => (db.paidPeriods s.id).length = 2 ∧
      s.currentPeriodEndAt = 60 * microsPerDay) = true := by
    decide +kernel
  obtain ⟨s, hs, hlength⟩ := List.any_eq_true.mp hrow
  exact ⟨s, hs, (htile s hs).1, (of_decide_eq_true hlength).1, (of_decide_eq_true hlength).2⟩

end SyrupRail
