import SyrupRail.Store.Linkage

/-!
# The end of a subscription

A cancellation and a retirement fence the charges that come after them. Each first fails the
attempts of the subscription that are stale and were never submitted, then looks for one that is
still open, and only then writes the row, all in one transaction. From then on the row is fixed:
every effect that changes a subscription changes a billed one, and so does every admission find one,
so that a run after the end of a subscription neither moves it nor charges it.
-/

namespace SyrupRail

open Transactions Tx

/-! ## Rows that an ending fails -/

/-- What an expiry does to a row: nothing, or it fails a stale one that was never submitted, which
keeps its request and its links. -/
def ExpiryRow (now : Timestamp) (a a' : PaymentAttempt) : Prop :=
  a' = a ∨
    (a.isStaleUnsubmitted now = true ∧ a.SameRequest a' ∧ a.SameLinkage a' ∧ a'.status = .failed)

/-- An attempt that has failed is not stale. -/
theorem PaymentAttempt.isStaleUnsubmitted_eq_false {now : Timestamp} {a : PaymentAttempt}
    (h : a.status = .failed) : a.isStaleUnsubmitted now = false :=
  decide_eq_false fun hstale => by simp [h] at hstale

/-- Two expiries. -/
theorem ExpiryRow.trans {now : Timestamp} {a b c : PaymentAttempt} (h : ExpiryRow now a b)
    (h' : ExpiryRow now b c) : ExpiryRow now a c := by
  rcases h' with rfl | ⟨hstale, hkept⟩
  · exact h
  · rcases h with rfl | ⟨-, -, -, hfailed'⟩
    · exact .inr ⟨hstale, hkept⟩
    · rw [PaymentAttempt.isStaleUnsubmitted_eq_false hfailed'] at hstale
      cases hstale

/-- An update that fails a stale row. -/
theorem ExpiryRow.of_update {now : Timestamp} {p : Bool} {a a' : PaymentAttempt}
    {text : Option String} {code : Option PaymentResolutionCode} {resolvedAt : Option Timestamp}
    (h : orUnchanged a (PaymentAttempt.update now (p && a.isStaleUnsubmitted now)
      (a.expired now text code resolvedAt)) = .ok a') : ExpiryRow now a a' := by
  rcases orUnchanged_eq_ok h with heq | hu
  · exact .inl heq
  · obtain ⟨hmatched, -, r, rfl⟩ := PaymentAttempt.update_eq_some hu
    exact .inr ⟨(Bool.and_eq_true_iff.mp hmatched).2,
      a.sameRequest_expired now text code resolvedAt, ⟨rfl, rfl⟩, rfl⟩

section Fences

variable {now : Timestamp} {db db' : Db}

/-- The expiry of the charges of a subscription. -/
theorem ensures_failStaleCharges_rows {subscriptionId : Id} :
    Ensures (failStaleUnsubmittedSubscriptionCharges now subscriptionId) db fun _ db' =>
      List.Forall₂ (ExpiryRow now) db.attempts db'.attempts ∧
        ∃ attempts, db' = { db with attempts } := by
  refine ensures_onAttempts.mpr fun attempts h => ⟨?_, attempts, rfl⟩
  refine (forall₂_of_writeAttempts h).1.imp fun a a' hrow => ?_
  rcases hrow with ⟨-, hw⟩ | ⟨-, heq⟩
  · exact .of_update hw
  · exact .inl heq

/-- The expiry of the method updates of a subscription. -/
theorem ensures_failStaleMethodUpdates_rows {keep : Bool} {subscriptionId : Id} :
    Ensures (failStaleUnsubmittedPaymentMethodUpdates now keep subscriptionId) db fun _ db' =>
      List.Forall₂ (ExpiryRow now) db.attempts db'.attempts ∧
        ∃ attempts, db' = { db with attempts } := by
  refine ensures_onAttempts.mpr fun attempts h => ⟨?_, attempts, rfl⟩
  refine (forall₂_of_writeAttempts h).1.imp fun a a' hrow => ?_
  rcases hrow with ⟨-, hw⟩ | ⟨-, heq⟩
  · exact .of_update hw
  · exact .inl heq

/-! ## Cancellation -/

/-- What a cancellation that returns `Canceled` has found and left: the attempts that it failed were
stale, and none is left that could still charge the period or change the method. -/
structure CancellationFenced (now : Timestamp) (owner : PlanOwner) (db db' : Db)
    (s : Subscription) : Prop where
  mem : s ∈ db.subscriptions
  owned : s.owner = owner
  billed : s.status.isBilled = true
  canceled : s.canceledRow now ∈ db'.subscriptions
  expired : List.Forall₂ (ExpiryRow now) db.attempts db'.attempts
  charges : ∀ a ∈ db'.attempts, a.chargesPeriod s.id s.nextRenewalAt = true →
    a.status.isResolvable = false ∧ a.status ≠ .approved
  updates : ∀ a ∈ db'.attempts, a.subscriptionId = some s.id →
    a.kind = .subscriptionPaymentMethodUpdate → a.status.isResolvable = false

/-- The selected subscription is the owner's. -/
theorem selectedSubscription_owner {owner : PlanOwner} {s : Subscription}
    (h : selectedSubscription now owner db = some s) : s.owner = owner := by
  unfold selectedSubscription at h
  cases hcurrent : (currentSubscriptions now owner none db).head? with
  | some s' =>
    rw [hcurrent] at h
    obtain rfl := Option.some.inj h
    have hmem := List.mem_of_head? hcurrent
    rw [currentSubscriptions, List.mem_insertionSort, List.mem_filter] at hmem
    exact (of_decide_eq_true hmem.2).1
  | none =>
    rw [hcurrent] at h
    have hmem := List.mem_of_head? h
    rw [List.mem_insertionSort, List.mem_filter] at hmem
    exact of_decide_eq_true hmem.2

/-- An update of one row that is known writes it. -/
theorem SubscriptionUpdated.mem {matched : Subscription → Bool} {f : Subscription → Subscription}
    {subscriptions subscriptions' : List Subscription} {s : Subscription}
    (h : SubscriptionUpdated matched f subscriptions subscriptions') (hs : s ∈ subscriptions)
    (hmatched : matched s = true) : f s ∈ subscriptions' := by
  rw [h.2.1, Table.mem_updateWhere]
  exact ⟨s, hs, by rw [if_pos hmatched]⟩

/-- The end of a cancellation, after its checks. -/
theorem ensures_cancelCurrent_row {s : Subscription} (mem : s ∈ db.subscriptions) :
    Ensures (cancelCurrentSubscription now s) db fun _ db' =>
      s.canceledRow now ∈ db'.subscriptions ∧ db'.attempts = db.attempts := by
  rw [cancelCurrentSubscription, ensures_bind, ensures_read]
  intro accessEndsAt _
  rw [ensures_bind]
  refine ensures_updateOneSubscription.mono fun _ db₁ hpost => ?_
  obtain ⟨subscriptions, hupdated, hdb₁⟩ := hpost
  rw [ensures_bind, ensures_appendEvents, hdb₁]
  exact ensures_pure.mpr ⟨hupdated.mem mem (decide_eq_true ⟨rfl, rfl, rfl⟩), rfl⟩

/-- A cancellation is fenced. -/
theorem ensures_cancellationFenced {owner : PlanOwner} :
    Ensures (cancelSubscription now owner) db fun outcome db' =>
      outcome = .canceled → ∃ s, CancellationFenced now owner db db' s := by
  -- An active and a past due subscription are canceled alike, past the expiry of stale attempts.
  have current {s : Subscription} (mem : s ∈ db.subscriptions) (owned : s.owner = owner)
      (billed : s.status.isBilled = true) :
      Ensures (do
        failStaleUnsubmittedSubscriptionCharges now s.id
        if hasBlockingRenewal s (← get) then pure .blockedByRenewal
        else
          failStaleUnsubmittedPaymentMethodUpdates now false s.id
          if blockingPaymentMethodUpdateExists s.id (← get) then pure .blockedByPaymentMethodUpdate
          else cancelCurrentSubscription now s) db fun outcome db' =>
            outcome = .canceled → ∃ s, CancellationFenced now owner db db' s := by
    rw [ensures_bind]
    refine (ensures_failStaleCharges_rows.and ensures_failStaleCharges).mono
      fun _ db₁ hpost => ?_
    obtain ⟨⟨hrows₁, _⟩, hquiet₁⟩ := hpost
    rw [ensures_bind, ensures_get, ensures_ite]
    refine ⟨fun _ => ensures_pure.mpr (by simp), fun hblocking => ?_⟩
    rw [ensures_bind]
    refine (ensures_failStaleMethodUpdates_rows.and ensures_failStaleMethodUpdates).mono
      fun _ db₂ hpost => ?_
    obtain ⟨⟨hrows₂, _⟩, hquiet₂⟩ := hpost
    rw [ensures_bind, ensures_get, ensures_ite]
    refine ⟨fun _ => ensures_pure.mpr (by simp), fun hupdate => ?_⟩
    have mem₂ : s ∈ db₂.subscriptions := by rwa [(hquiet₁.trans hquiet₂).subscriptions]
    have free : hasBlockingRenewal s db₂ = false :=
      hquiet₂.hasBlockingRenewal (by simpa using hblocking)
    have freeUpdate : blockingPaymentMethodUpdateExists s.id db₂ = false := by simpa using hupdate
    refine (ensures_cancelCurrent_row mem₂).mono fun _ db' hpost _ => ⟨s, ?_⟩
    obtain ⟨canceled, hattempts⟩ := hpost
    refine ⟨mem, owned, billed, canceled, ?_, fun a ha hcharges => ?_, fun a ha hof hkind => ?_⟩
    · rw [hattempts]
      exact Table.forall₂_trans (fun _ _ _ hab hbc => hab.trans hbc) hrows₁ hrows₂
    · have hnone := List.any_eq_false.mp free a (hattempts ▸ ha)
      constructor
      · by_contra hopen
        exact hnone (decide_eq_true ⟨hcharges, .inl (by simpa using hopen)⟩)
      · intro happroved
        exact hnone (decide_eq_true ⟨hcharges, .inr happroved⟩)
    · by_contra hopen
      exact List.any_eq_false.mp freeUpdate a (hattempts ▸ ha)
        (decide_eq_true ⟨hof, hkind, by simpa using hopen⟩)
  have keep {outcome : CancelSubscriptionOutcome} (hne : outcome ≠ .canceled) :
      Ensures (pure outcome : Program CancelSubscriptionOutcome) db fun outcome db' =>
        outcome = .canceled → ∃ s, CancellationFenced now owner db db' s :=
    ensures_pure.mpr fun h => absurd h hne
  rw [cancelSubscription, ensures_bind, ensures_get]
  split
  · exact keep (by decide)
  · rename_i s hselected
    have mem := selectedSubscription_eq_some hselected
    have owned := selectedSubscription_owner hselected
    split
    · exact keep (by decide)
    · exact keep (by decide)
    · rename_i hstatus
      exact current mem owned (by rw [hstatus]; rfl)
    · rename_i hstatus
      exact current mem owned (by rw [hstatus]; rfl)

/-! ## Retirement -/

/-- What a retirement does to a row: nothing, or it fails one that was never submitted, which keeps
its request and its links. -/
def RetirementRow (a a' : PaymentAttempt) : Prop :=
  a' = a ∨ (a.submittedAt = none ∧ a.status ≠ .unknown ∧ a.SameRequest a' ∧ a.SameLinkage a' ∧
    a'.status = .failed)

/-- Whether every processor charge of a subscription, among those of the kinds, is settled. -/
def Db.ChargesSettled (db : Db) (kinds : PaymentAttemptKind → Prop) (subscriptionId : Id) : Prop :=
  ∀ c ∈ db.ledger.charges, kinds c.attemptKind → ∀ a ∈ db.attempts, a.id = c.attemptId →
    a.subscriptionId = some subscriptionId → c.progression.isUnsettled = false

/-- What a retirement that returns `Retired` has found and left: the exact period has expired, the
attempts that it failed were never submitted, and no payment is left unresolved. -/
structure RetirementFenced (now : Timestamp) (command : RetireExpiredSubscriptionPeriod)
    (db db' : Db) (s : Subscription) : Prop where
  mem : s ∈ db.subscriptions
  exact_ : s.id = command.subscriptionId ∧ s.owner = command.owner ∧
    s.nextRenewalAt = command.periodStartAt
  billed : s.status.isBilled = true
  expired : ∃ period, nextBillingPeriod s.nextRenewalAt s.recurringPeriod = .ok period ∧
    period.endAt ≤ now
  retired : s.retiredRow now ∈ db'.subscriptions
  failed : List.Forall₂ RetirementRow db.attempts db'.attempts
  ledger : db'.ledger = db.ledger
  resolved : ∀ a ∈ db'.attempts, a.isSubscriptionCharge = true → a.subscriptionId = some s.id →
    a.status ≠ .unknown ∧ a.status ≠ .reviewRequired ∧ (a.status = .pending → a.submittedAt = none)
  settled : db'.ChargesSettled
    (· ∈ [.subscriptionInitial, .subscriptionRenewal, .subscriptionRecovery]) s.id
  rejected : ∀ a ∈ db'.attempts, a.chargesPeriod s.id s.nextRenewalAt = true → a.status ≠ .pending

/-- An expiry is what a retirement may do. -/
theorem ExpiryRow.retirement {a a' : PaymentAttempt} (h : ExpiryRow now a a') :
    RetirementRow a a' := by
  rcases h with heq | ⟨hstale, hkept⟩
  · exact .inl heq
  · obtain ⟨hstatus, hsubmitted, -⟩ := of_decide_eq_true hstale
    refine .inr ⟨hsubmitted, fun hunknown => ?_, hkept⟩
    simp [hunknown] at hstatus

/-- An expiry, and then the rejection of a retired period. -/
theorem RetirementRow.trans {a b c : PaymentAttempt} (h : RetirementRow a b)
    (h' : c = b ∨ (b.isPrepared = true ∧ b.SameRequest c ∧ b.SameLinkage c ∧ c.status = .failed)) :
    RetirementRow a c := by
  rcases h' with rfl | ⟨hprepared, hkept⟩
  · exact h
  · obtain ⟨hpending, hsubmitted⟩ := of_decide_eq_true hprepared
    rcases h with rfl | ⟨-, -, -, -, hfailed'⟩
    · exact .inr ⟨hsubmitted, by simp [hpending], hkept⟩
    · simp [hpending] at hfailed'

/-- A retirement keeps the request and the links of every row. -/
theorem RetirementRow.same {a a' : PaymentAttempt} (h : RetirementRow a a') :
    a.SameRequest a' ∧ a.SameLinkage a' := by
  rcases h with rfl | ⟨-, -, hsame, hlinkage, -⟩
  · exact ⟨rfl, rfl, rfl⟩
  · exact ⟨hsame, hlinkage⟩

/-- An update of a row that may not match. -/
theorem orUnchanged_update_eq_ok {m : Bool} {a new a' : PaymentAttempt}
    (h : orUnchanged a (PaymentAttempt.update now m new) = .ok a') :
    (m = false ∧ a' = a) ∨ (m = true ∧ ∃ r, a' = { new with reviewRequiredAt := r }) := by
  cases m with
  | false => exact .inl ⟨rfl, (Except.ok.inj h).symm⟩
  | true =>
    obtain ⟨row, hrow, rfl⟩ := map_eq_ok.mp h
    cases row with
    | none =>
      unfold PaymentAttempt.update at hrow
      rw [if_pos rfl] at hrow
      split at hrow
      · cases hrow
      · cases hrow
    | some a' =>
      obtain ⟨-, -, hr⟩ := PaymentAttempt.update_eq_some hrow
      exact .inr ⟨rfl, hr⟩

/-- The rejection of the prepared attempts of a period, row by row. -/
theorem rejected_rows {subscriptionId : Id} {periodStartAt : Timestamp}
    {code : PaymentResolutionCode} {message : String} {attempts attempts' : List PaymentAttempt}
    (h : writeAttempts now (·.chargesPeriod subscriptionId periodStartAt) (.reject code message)
      attempts = .ok attempts') :
    List.Forall₂ (fun a a' =>
      (a' = a ∧ (a.chargesPeriod subscriptionId periodStartAt = true → a.isPrepared = false)) ∨
        (a.isPrepared = true ∧ a.SameRequest a' ∧ a.SameLinkage a' ∧ a'.status = .failed))
      attempts attempts' := by
  refine (forall₂_of_writeAttempts h).1.imp fun a a' hrow => ?_
  rcases hrow with ⟨-, hw⟩ | ⟨hp, heq⟩
  · rcases orUnchanged_update_eq_ok hw with ⟨hprepared, heq⟩ | ⟨hprepared, r, rfl⟩
    · exact .inl ⟨heq, fun _ => hprepared⟩
    · exact .inr ⟨hprepared, rfl, ⟨rfl, rfl⟩, rfl⟩
  · exact .inl ⟨heq, fun hp' => by simp [hp] at hp'⟩

/-- The end of a retirement, after its checks. -/
theorem ensures_retirementFenced_row {command : RetireExpiredSubscriptionPeriod} {db₀ : Db}
    {s : Subscription} {period : BillingPeriod} (mem₀ : s ∈ db₀.subscriptions)
    (exact_ : s.id = command.subscriptionId ∧ s.owner = command.owner ∧
      s.nextRenewalAt = command.periodStartAt)
    (billed : s.status.isBilled = true)
    (period_eq : nextBillingPeriod s.nextRenewalAt s.recurringPeriod = .ok period)
    (expired : period.endAt ≤ now) (rows₀ : List.Forall₂ (ExpiryRow now) db₀.attempts db.attempts)
    (ledger : db.ledger = db₀.ledger) (mem : s ∈ db.subscriptions)
    (checks : ∀ t ∈ db.subscriptions, t.checks = true)
    (free : unresolvedPaymentExists s.id s.nextRenewalAt db = false) :
    Ensures (retireSubscription now s period) db fun _ db' =>
      RetirementFenced now command db₀ db' s := by
  obtain ⟨hattempts, hcharges⟩ := Bool.or_eq_false_iff.mp free
  rw [retireSubscription, ensures_bind, ensures_read]
  intro accessEndsAt _
  rw [ensures_bind, rejectUnsubmittedPeriodAttempts, ensures_onAttempts]
  intro attempts hrejected
  rw [ensures_bind]
  refine ensures_updateOneSubscription.mono fun _ db₁ hpost => ?_
  obtain ⟨subscriptions, hupdated, hdb₁⟩ := hpost
  rw [ensures_bind, ensures_appendEvents, hdb₁]
  refine ensures_pure.mpr ?_
  have hrows := rejected_rows hrejected
  -- A charge of the subscription that is there after the rejection was resolved before it.
  have hresolved (a : PaymentAttempt) (ha : a ∈ db.attempts)
      (hcharge : a.isSubscriptionCharge = true) (hof : a.subscriptionId = some s.id) :
      a.status ≠ .unknown ∧ a.status ≠ .reviewRequired ∧
        (a.status = .pending → a.submittedAt = none) := by
    have hnone := List.any_eq_false.mp hattempts a ha
    refine ⟨fun h => ?_, fun h => ?_, fun h => by_contra fun hsub => ?_⟩
    · exact hnone (decide_eq_true ⟨hof, hcharge, .inl h⟩)
    · exact hnone (decide_eq_true ⟨hof, hcharge, .inr (.inl h)⟩)
    · exact hnone (decide_eq_true ⟨hof, hcharge, .inr (.inr (.inl ⟨h, hsub⟩))⟩)
  refine ⟨mem₀, exact_, billed, ⟨period, period_eq, expired⟩, ?_, ?_, ledger, ?_, ?_, ?_⟩
  -- A billed row has neither end, so the update of the unended row finds it.
  · have hends := checks s mem
    simp only [Subscription.checks, Bool.and_eq_true] at hends
    obtain ⟨hcanceled, hunpaid⟩ := of_decide_eq_true hends.1.1.2
    refine hupdated.mem mem (decide_eq_true ⟨rfl, rfl, rfl, rfl, ?_, ?_⟩)
    · by_contra h
      rw [hunpaid.mpr h] at billed
      cases billed
    · by_contra h
      rw [hcanceled.mpr h] at billed
      cases billed
  · refine Table.forall₂_trans (fun a b c hab hbc => ?_) rows₀ hrows
    refine hab.retirement.trans ?_
    rcases hbc with ⟨heq, -⟩ | hfailed
    · exact .inl heq
    · exact .inr hfailed
  · intro a' ha' hcharge hof
    obtain ⟨a, ha, hrow⟩ := Table.exists_of_mem_right hrows ha'
    rcases hrow with ⟨rfl, -⟩ | ⟨-, -, -, hfailed⟩
    · exact hresolved a' ha hcharge hof
    · simp [hfailed]
  · intro c hc hkind a' ha' hid hof
    obtain ⟨a, ha, hrow⟩ := Table.exists_of_mem_right hrows ha'
    have hsame : a.id = a'.id ∧ a.subscriptionId = a'.subscriptionId := by
      rcases hrow with ⟨rfl, -⟩ | ⟨-, hsame, hlink, -⟩
      · exact ⟨rfl, rfl⟩
      · exact ⟨hsame.id.symm, hlink.subscriptionId.symm⟩
    by_contra hunsettled
    refine List.any_eq_false.mp hcharges c hc
      (decide_eq_true ⟨by simpa using hunsettled, hkind, ?_⟩)
    exact List.any_eq_true.mpr
      ⟨a, ha, decide_eq_true ⟨hsame.1.trans hid, hsame.2.trans hof⟩⟩
  · intro a' ha' hperiod hpending
    obtain ⟨a, ha, hrow⟩ := Table.exists_of_mem_right hrows ha'
    rcases hrow with ⟨rfl, hprepared⟩ | ⟨-, -, -, hfailed⟩
    · obtain ⟨hcharge, hof, -⟩ := of_decide_eq_true hperiod
      have hsubmitted := (hresolved a' ha hcharge hof).2.2 hpending
      have hnot := of_decide_eq_false (hprepared hperiod)
      exact hnot ⟨hpending, hsubmitted⟩
    · simp [hfailed] at hpending

/-- A retirement is fenced. -/
theorem ensures_retirementFenced {command : RetireExpiredSubscriptionPeriod} (hvalid : db.Valid) :
    Ensures (retireExpiredSubscriptionPeriod now command) db fun outcome db' =>
      outcome = .retired → ∃ s, RetirementFenced now command db db' s := by
  have keep {outcome : SubscriptionPeriodRetirementOutcome} (hne : outcome ≠ .retired) :
      Ensures (pure outcome : Program SubscriptionPeriodRetirementOutcome) db fun outcome db' =>
        outcome = .retired → ∃ s, RetirementFenced now command db db' s :=
    ensures_pure.mpr fun h => absurd h hne
  have current {s : Subscription} (mem : s ∈ db.subscriptions) (hid : s.id = command.subscriptionId)
      (howner : s.owner = command.owner) (billed : s.status.isBilled = true) :
      Ensures (retireBilledSubscription now command s) db fun outcome db' =>
        outcome = .retired → ∃ s, RetirementFenced now command db db' s := by
    rw [retireBilledSubscription, ensures_ite]
    refine ⟨fun _ => keep (by decide), fun hstart => ?_⟩
    have hstart : s.nextRenewalAt = command.periodStartAt := by simpa using hstart
    split
    · exact ensures_throw
    rename_i period hperiod
    rw [← hstart] at hperiod
    rw [ensures_ite]
    refine ⟨fun _ => keep (by decide), fun hexpired => ?_⟩
    rw [ensures_bind]
    refine (ensures_failStaleCharges_rows.and ensures_failStaleCharges).mono
      fun _ db₁ hpost => ?_
    obtain ⟨⟨hrows, attempts, hdb₁⟩, hquiet⟩ := hpost
    rw [ensures_bind, ensures_get, ensures_ite]
    refine ⟨fun _ => ensures_pure.mpr (by simp), fun hfree => ?_⟩
    have hexpired : period.endAt ≤ now := by simpa [periodHasExpired] using hexpired
    have mem₁ : s ∈ db₁.subscriptions := by rwa [hquiet.subscriptions]
    have ledger : db₁.ledger = db.ledger := by rw [hdb₁]
    refine (ensures_retirementFenced_row mem ⟨hid, howner, hstart⟩ billed hperiod hexpired hrows
      ledger mem₁ (hquiet.valid hvalid).checks (by simpa using hfree)).mono fun _ _ h _ => ⟨s, h⟩
  rw [retireExpiredSubscriptionPeriod, ensures_bind, ensures_get]
  split
  · exact keep (by decide)
  · rename_i s hexact
    obtain ⟨mem, hid, howner⟩ := exactSubscription_eq_some hexact
    split
    · exact keep (by decide)
    · refine ensures_pure.mpr fun h => ?_
      split_ifs at h
    · rename_i hstatus
      exact current mem hid howner (by rw [hstatus]; rfl)
    · rename_i hstatus
      exact current mem hid howner (by rw [hstatus]; rfl)

/-- The kind of a charge is that of its attempt. -/
theorem Db.ChargesLinked.attemptKind (hlinked : db.ChargesLinked) (hvalid : db.Valid)
    {c : ProcessorCharge} (hc : c ∈ db.ledger.charges) {a : PaymentAttempt} (ha : a ∈ db.attempts)
    (hid : a.id = c.attemptId) : a.kind = c.attemptKind := by
  obtain ⟨b, hb, hdimensions⟩ := List.mem_map.mp (hlinked.dimensions c hc)
  have heq : b = a := nodup_id_of_attemptIndexes hvalid.attempts hb ha
    ((congrArg ChargeDimensions.attemptId hdimensions).trans hid.symm)
  rw [← heq]
  exact congrArg ChargeDimensions.attemptKind hdimensions

/-- An attempt of a subscription is no host charge. -/
theorem PaymentAttempt.Stored.kind_ne_hostCharge {a : PaymentAttempt} (h : a.Stored)
    {subscriptionId : Id} (hof : a.subscriptionId = some subscriptionId) :
    a.kind ≠ .hostCharge := by
  intro hkind
  have htarget := h.targetFromRow
  simp [PaymentAttempt.targetFromRow, hkind, hof] at htarget

/-- After a retirement every charge of the subscription is settled exactly when those of its method
updates were settled before it: the retirement itself looks for those of the other kinds. -/
theorem RetirementFenced.chargesSettled_iff {command : RetireExpiredSubscriptionPeriod}
    {s : Subscription} (h : RetirementFenced now command db db' s) (hlinked : db.ChargesLinked)
    (hvalid : db.Valid) :
    db'.ChargesSettled (fun _ => True) s.id ↔
      db.ChargesSettled (· = .subscriptionPaymentMethodUpdate) s.id := by
  constructor
  · intro hsettled c hc _ a ha hid hof
    obtain ⟨a', ha', hrow⟩ := Table.exists_of_mem_left h.failed ha
    obtain ⟨hsame, hlinkage⟩ := hrow.same
    exact hsettled c (h.ledger ▸ hc) trivial a' ha' (hsame.id.trans hid)
      (hlinkage.subscriptionId.trans hof)
  · intro hsettled c hc _ a' ha' hid' hof'
    obtain ⟨a, ha, hrow⟩ := Table.exists_of_mem_right h.failed ha'
    obtain ⟨hsame, hlinkage⟩ := hrow.same
    have hc₀ : c ∈ db.ledger.charges := h.ledger ▸ hc
    have hid : a.id = c.attemptId := hsame.id.symm.trans hid'
    have hof : a.subscriptionId = some s.id := hlinkage.subscriptionId.symm.trans hof'
    have hkind := hlinked.attemptKind hvalid hc₀ ha hid
    have hne : c.attemptKind ≠ .hostCharge := hkind ▸ (hvalid.rows a ha).kind_ne_hostCharge hof
    cases hk : c.attemptKind with
    | hostCharge => exact absurd hk hne
    | subscriptionPaymentMethodUpdate => exact hsettled c hc₀ hk a ha hid hof
    | subscriptionInitial | subscriptionRenewal | subscriptionRecovery =>
      exact h.settled c hc (by simp [hk]) a' ha' hid' hof'

end Fences

/-! ## After the end -/

/-- A subscription that is not billed, with its discounts. -/
def HasEnded (s : Subscription) (discounts : List SubscriptionDiscount) (db : Db) : Prop :=
  s ∈ db.subscriptions ∧ db.discounts.filter (·.subscriptionId = s.id) = discounts

section Ended

variable {now : Timestamp} {db db' : Db} {s : Subscription}

/-- A billed subscription is another one. -/
theorem id_ne_of_isBilled (hvalid : db.Valid) (hs : s ∈ db.subscriptions)
    (hended : s.status.isBilled = false) {t : Subscription} (ht : t ∈ db.subscriptions)
    (hbilled : t.status.isBilled = true) : s.id ≠ t.id := by
  intro hid
  obtain rfl := Table.eq_of_key_eq (nodup_id_of_subscriptionIndexes hvalid.subscriptions) hs ht hid
  rw [hbilled] at hended
  cases hended

/-- No effect changes the row of a subscription that has ended. -/
theorem Effect.mem_of_ended (h : Effect now db db') (hvalid : db.Valid) (hs : s ∈ db.subscriptions)
    (hended : s.status.isBilled = false) : s ∈ db'.subscriptions := by
  cases h.subscriptions hvalid with
  | same heq => rwa [heq]
  | enrolled r a evidence enrolled =>
    obtain ⟨_, _, _, _, _, _, _, _, -, -, -, hrows, -⟩ := enrolled.subscription
    rw [hrows]
    exact List.mem_cons_of_mem _ hs
  | changed t t' mem billed change rows checks indexes =>
    rw [rows]
    exact Table.mem_replaceBy_of_ne hs (id_ne_of_isBilled hvalid hs hended mem billed)

/-- No effect changes the discounts of a subscription that has ended. -/
theorem Effect.discounts_of_ended (h : Effect now db db') (hvalid : db.Valid)
    (hs : s ∈ db.subscriptions) (hended : s.status.isBilled = false) :
    db'.discounts.filter (·.subscriptionId = s.id) =
      db.discounts.filter (·.subscriptionId = s.id) := by
  cases h with
  | renew r a evidence renewed =>
    obtain ⟨t, ht, _, _, discounted, _, hexpects, _, _, _, _, _, hkept, hrun, _, hdiscounts⟩ :=
      renewed.subscription
    have hbilled : t.status.isBilled = true := (of_decide_eq_true hexpects).2.1
    have hadvance := ensures_discountAdvance _ _ hrun
    rw [hdiscounts, hadvance.others (id_ne_of_isBilled hvalid hs hended ht hbilled), hkept]
  | enroll r a evidence enrolled =>
    obtain ⟨subscriptionId, _, _, _, _, _, unclaimed, claimed, _, _, _, hrows, _, hindexes,
      hkept, _, hrun, hdiscounts, _⟩ := enrolled.subscription
    -- The new subscription has a new id.
    have hne : s.id ≠ subscriptionId := by
      have hnodup := nodup_id_of_subscriptionIndexes hindexes
      rw [hrows, List.map_cons, List.nodup_cons] at hnodup
      intro hid
      exact hnodup.1 (List.mem_map.mpr ⟨s, hs, hid⟩)
    cases ensures_initialDiscount _ _ hrun with
    | none => rw [hdiscounts, hkept]
    | applied discount new claimed' =>
      rw [hdiscounts]
      show (newDiscount .. :: unclaimed.discounts).filter _ = _
      rw [List.filter_cons_of_neg (by simpa using fun h => hne h.symm), hkept]
  | _ => rfl

/-- A run does not change a subscription that has ended. -/
theorem stable_hasEnded (hended : s.status.isBilled = false)
    (discounts : List SubscriptionDiscount) : Db.Stable (HasEnded s discounts) where
  later _ _ _ _ h := h
  quiet db db' _ hquiet h := by
    obtain ⟨attempts, ledger, rfl⟩ := hquiet.frame
    exact h
  effect db db' hvalid heffect h :=
    ⟨heffect.mem_of_ended hvalid h.1 hended,
      (heffect.discounts_of_ended hvalid h.1 hended).trans h.2⟩

/-- Whether every submission of an attempt for a subscription is one that was already there. -/
def NothingAdmitted (subscriptionId : Id) (attempts attempts' : List PaymentAttempt) : Prop :=
  ∀ a' ∈ attempts', a'.isOfSubscription = true → a'.target.subscriptionId = some subscriptionId →
    a'.submittedAt ≠ none → ∃ a ∈ attempts, a.SameRequest a' ∧ a.submittedAt = a'.submittedAt

/-- Two changes that admit nothing. -/
theorem NothingAdmitted.trans {subscriptionId : Id}
    {attempts attempts' attempts'' : List PaymentAttempt}
    (h : NothingAdmitted subscriptionId attempts attempts')
    (h' : NothingAdmitted subscriptionId attempts' attempts'') :
    NothingAdmitted subscriptionId attempts attempts'' := by
  intro a'' ha'' hof htarget hsubmitted
  obtain ⟨a', ha', hsame', heq'⟩ := h' a'' ha'' hof htarget hsubmitted
  obtain ⟨a, ha, hsame, heq⟩ := h a' ha' (hsame'.isOfSubscription.symm.trans hof)
    (hsame'.target ▸ htarget) (heq' ▸ hsubmitted)
  exact ⟨a, ha, hsame'.trans hsame, heq.trans heq'⟩

/-- Quiet writers admit nothing. -/
theorem NothingAdmitted.of_rowQuiet {attempts attempts' : List PaymentAttempt}
    (h : List.Forall₂ (RowQuiet now) attempts attempts') (subscriptionId : Id) :
    NothingAdmitted subscriptionId attempts attempts' := by
  intro a' ha' hof _ hsubmitted
  obtain ⟨a, ha, hrow⟩ := Table.exists_of_mem_right h ha'
  refine ⟨a, ha, hrow.same, ?_⟩
  rcases hrow.unsubmitted (hrow.same.isOfSubscription.symm.trans hof) with heq | hnone
  · exact heq.symm
  · exact absurd hnone hsubmitted

/-- A new row was not submitted. -/
theorem NothingAdmitted.insert (subscriptionId : Id) (n : NewAttempt)
    (attempts : List PaymentAttempt) :
    NothingAdmitted subscriptionId attempts (n.row :: attempts) := by
  intro a' ha' _ _ hsubmitted
  rcases List.mem_cons.mp ha' with rfl | ha
  · exact absurd rfl hsubmitted
  · exact ⟨a', ha, rfl, rfl⟩

/-- One row that is written, and not submitted by it. -/
theorem NothingAdmitted.replace {subscriptionId : Id} {a a' : PaymentAttempt}
    {attempts attempts' : List PaymentAttempt} (ha : a ∈ attempts)
    (hrows : attempts' = Table.updateWhere (·.id = a.id) (fun _ => a') attempts)
    (hsame : a.SameRequest a')
    (h : a'.target.subscriptionId = some subscriptionId → a'.submittedAt = a.submittedAt) :
    NothingAdmitted subscriptionId attempts attempts' := by
  intro b hb _ htarget _
  rcases Table.mem_replaceBy (hrows ▸ hb) with ⟨hb, -⟩ | rfl
  · exact ⟨b, hb, rfl, rfl⟩
  · exact ⟨a, ha, hsame, (h htarget).symm⟩

/-- No effect admits an attempt for a subscription that has ended. -/
theorem Effect.nothingAdmitted (h : Effect now db db') (hvalid : db.Valid)
    (hs : s ∈ db.subscriptions) (hended : s.status.isBilled = false) :
    NothingAdmitted s.id db.attempts db'.attempts := by
  cases h.attempts with
  | kept rows _ => exact .of_rowQuiet rows s.id
  | inserted n _ _ rows _ =>
    rw [rows]
    exact .insert s.id n db.attempts
  | admitted a a' t mem _ ofSubscription subscription billed _ write rows _ =>
    obtain ⟨-, -, row, rfl⟩ := PaymentAttempt.update_eq_some (requireOneRow_eq_ok write)
    refine .replace mem rows rfl fun htarget => ?_
    -- The subscription of an admission is billed, and that of its target.
    have heq : s.id = t.id := Option.some.inj (htarget.symm.trans ofSubscription)
    exact absurd heq (id_ne_of_isBilled hvalid hs hended subscription billed)
  | approved a a' evidence subscriptionId methodId mem _ _ _ write rows _ =>
    obtain ⟨-, -, row, rfl⟩ := PaymentAttempt.update_eq_some (requireOneRow_eq_ok write)
    exact .replace mem rows rfl fun _ => rfl

/-- No step admits an attempt for a subscription that has ended. -/
theorem Steps.nothingAdmitted (h : Steps now db db') (hvalid : db.Valid) (hs : s ∈ db.subscriptions)
    (hended : s.status.isBilled = false) : NothingAdmitted s.id db.attempts db'.attempts := by
  obtain ⟨db₁, hquiet, heffect⟩ := h
  have hquiet' := NothingAdmitted.of_rowQuiet hquiet.rows s.id
  rcases heffect with rfl | heffect
  · exact hquiet'
  · have hs₁ : s ∈ db₁.subscriptions := by rwa [hquiet.subscriptions]
    exact hquiet'.trans (heffect.nothingAdmitted (hquiet.valid hvalid) hs₁ hended)

end Ended

/-- Cancellation and retirement fence later charges: in every run from a fresh store, what each of
them returns as done was free of open payments, and from then on the subscription and its discounts
stay as they are, and no attempt is admitted for it. A retirement leaves no processor charge of the
subscription open exactly when no charge of one of its method updates is open at the retirement. -/
theorem cancellation_and_retirement_fence {db₀ : Db} (hfresh : db₀.Fresh) (steps : List (ℕ × Op)) :
    let db := run execStore db₀ steps
    (∀ (elapsed : ℕ) owner db', let now := db.clock + elapsed
      cancelSubscription now owner (db.at now) = .ok (.canceled, db') →
        ∃ s, CancellationFenced now owner db db' s) ∧
    (∀ (elapsed : ℕ) command db', let now := db.clock + elapsed
      retireExpiredSubscriptionPeriod now command (db.at now) = .ok (.retired, db') →
        ∃ s, RetirementFenced now command db db' s ∧
          (db'.ChargesSettled (fun _ => True) s.id ↔
            db.ChargesSettled (· = .subscriptionPaymentMethodUpdate) s.id)) ∧
    ∀ s ∈ db.subscriptions, s.status = .canceled ∨ s.status = .unpaid →
      ∀ later : List (ℕ × Op), let db' := run execStore db later
        s ∈ db'.subscriptions ∧
        db'.discounts.filter (·.subscriptionId = s.id) =
          db.discounts.filter (·.subscriptionId = s.id) ∧
        ∀ step, NothingAdmitted s.id db'.attempts (execStore db' step).attempts := by
  intro db
  obtain ⟨hvalid, hlinked, -⟩ := Db.law_chargesLinked.holds hfresh steps
  refine ⟨fun elapsed owner db' hrun => ?_, fun elapsed command db' hrun => ?_,
    fun s hs hstatus later => ?_⟩
  · obtain ⟨s, h⟩ := ensures_cancellationFenced _ _ hrun rfl
    exact ⟨s, h.mem, h.owned, h.billed, h.canceled, h.expired, h.charges, h.updates⟩
  · obtain ⟨s, h⟩ := ensures_retirementFenced (hvalid.at _) _ _ hrun rfl
    exact ⟨s, ⟨h.mem, h.exact_, h.billed, h.expired, h.retired, h.failed, h.ledger, h.resolved,
      h.settled, h.rejected⟩, h.chargesSettled_iff (hlinked.congr rfl rfl) (hvalid.at _)⟩
  -- An ended row is stable with its discounts, and nothing is admitted for it in any later step.
  · have hended : s.status.isBilled = false := by
      rcases hstatus with h | h
      · rw [h]
        rfl
      · rw [h]
        rfl
    obtain ⟨hvalid', hs', hdiscounts⟩ := (stable_hasEnded hended _).run_of hvalid ⟨hs, rfl⟩ later
    refine ⟨hs', hdiscounts, fun step => ?_⟩
    exact (execStore_steps hvalid' step).nothingAdmitted (hvalid'.at _) hs' hended

/-! ## A subscription and its end -/

/-- A store with one gateway account. -/
def accountStore : Db where
  clock := 0
  gatewayAccounts := [⟨1, 1, "nmi", 1, none⟩]
  providerRateLimits := []
  paymentMethods := []
  subscriptions := []
  attempts := []
  ledger := {}
  discounts := []
  discountClaims := []
  grants := []
  events := []

/-- It is a fresh one. -/
theorem accountStore_fresh : accountStore.Fresh := ⟨rfl, rfl, rfl, rfl, rfl, rfl⟩

/-- Its gateway, which numbers the orders of a kind. -/
def accountGateway : ResolvedGateway where
  billingScopeId := 1
  gatewayAccountId := 1
  gatewayConfigurationId := 1
  providerKey := "nmi"
  forAttempt _ attemptId := String.ofList (List.replicate attemptId 'o')

/-- A policy with one retry, a day after the failure. -/
def nextDayRetry : RenewalFailurePolicy where
  retryDelays := [86400]
  exhaustion := .markUnpaid
  pastDueAccess := .suspendImmediately
  length_le := by decide
  delay_pos := by decide
  delay_le := by decide

/-- A plan of thirty days. -/
def monthlyOffer : SubscriptionOffer where
  planKey := "plan"
  recurringCharge := ⟨1000, "USD"⟩
  recurringPeriod := .fixedDays 30
  start := .recurringImmediately
  renewalFailure := nextDayRetry

/-- The attempt of an enrollment. -/
def enrollmentAttempt (discount : Option SubscriptionEnrollmentDiscountSnapshot) : NewAttempt where
  id := 1
  billingScopeId := 1
  subscriberId := 1
  gatewayAccountId := 1
  gatewayConfigurationId := 1
  requiredGatewayAccountMode := .live
  target := .subscriptionInitial monthlyOffer discount
  idempotencyKey := "enrollment"
  amount := ⟨1000, "USD"⟩
  gatewayOrderId := "enrollment"
  paymentMethodId := 0
  createdAt := 0
  amount_fits := by simp [PaymentAttemptTarget.kind]

/-- The reservation of that enrollment. -/
def enrollmentReservation : SubscriptionEnrollmentReservation :=
  ⟨(enrollmentAttempt none).row.identity, "plan", "enrollment"⟩

/-- An approval of the processor. -/
def approvedEvidence (tx : String) : ProcessorEvidence where
  transactionId := some tx
  paymentMethodReference := some "vault"
  response := some "1"

/-- The enrollment is reserved, admitted, and approved. -/
def enrollment : List (ℕ × Op) :=
  [(0, .reserveOther (enrollmentAttempt none)), (0, .admitEnrollment 1 1),
    (0, .applyApproved ⟨1, 1, 1⟩ true .disabled (.initial enrollmentReservation)
      (approvedEvidence "tx-1"))]

/-- An update of its method is reserved and admitted, and the evidence of its approval is stored
without the attempt. -/
def methodUpdate : List (ℕ × Op) :=
  [(0, .reserveReplacement .live accountGateway ⟨2, 1, 1, "plan", 1, "update", true⟩),
    (0, .admitReplacement
      { identity := ⟨2, 1, 1, 1, 1, .live⟩
        providerKey := "nmi"
        planKey := "plan"
        paymentMethodId := 1
        expected := ⟨1, 1, "tx-1"⟩
        idempotencyKey := "update"
        amount := ⟨0, "USD"⟩
        gatewayOrderId := "oo" }),
    (0, .persistEvidence 2 1 2 (approvedEvidence "tx-2") false)]

/-- The retirement of its first unpaid period. -/
def retireFirstPeriod : RetireExpiredSubscriptionPeriod := ⟨⟨1, 1, "plan"⟩, 1, 30 * microsPerDay⟩

/-- Two months later the subscription is retired, and the record of the method update is still
pending: a retirement looks for the charges of enrollments, renewals, and recoveries. -/
theorem retirement_keeps_methodUpdate_charge :
    let db := run execStore accountStore (enrollment ++ methodUpdate)
    let now := db.clock + (60 * microsPerDay).toNat
    ∃ db', retireExpiredSubscriptionPeriod now retireFirstPeriod (db.at now) = .ok (.retired, db') ∧
      ∃ c ∈ db'.ledger.charges, c.progression.isUnsettled = true ∧
        ∃ a ∈ db'.attempts, a.id = c.attemptId ∧ a.submittedAt ≠ none ∧
          a.subscriptionId = some retireFirstPeriod.subscriptionId := by
  intro db now
  have heval : ((retireExpiredSubscriptionPeriod now retireFirstPeriod (db.at now)).toOption.any
      fun r => decide (r.1 = .retired) && r.2.ledger.charges.any fun c =>
        c.progression.isUnsettled && r.2.attempts.any fun a => a.id = c.attemptId ∧
          a.submittedAt ≠ none ∧ a.subscriptionId = some retireFirstPeriod.subscriptionId) =
              true := by
    decide +kernel
  cases hrun : retireExpiredSubscriptionPeriod now retireFirstPeriod (db.at now) with
  | error e =>
    rw [hrun] at heval
    cases heval
  | ok r =>
    rw [hrun] at heval
    obtain ⟨houtcome, hcharge⟩ := Bool.and_eq_true_iff.mp heval
    obtain ⟨c, hc, hopen⟩ := List.any_eq_true.mp hcharge
    obtain ⟨hopen, hof⟩ := Bool.and_eq_true_iff.mp hopen
    obtain ⟨a, ha, hattempt⟩ := List.any_eq_true.mp hof
    have hretired : r = (.retired, r.2) := Prod.ext (of_decide_eq_true houtcome) rfl
    exact ⟨r.2, by rw [← hretired], c, hc, hopen, a, ha, of_decide_eq_true hattempt⟩

/-- The subscription of an enrollment stays canceled. -/
theorem cancellation_and_retirement_fence_enrollment :
    let db := run execStore accountStore (enrollment ++ [(0, .cancel ⟨1, 1, "plan"⟩)])
    ∃ s ∈ db.subscriptions, s.status = .canceled ∧
        ∀ later, s ∈ (run execStore db later).subscriptions := by
  intro db
  have hfence := (cancellation_and_retirement_fence accountStore_fresh
    (enrollment ++ [(0, .cancel ⟨1, 1, "plan"⟩)])).2.2
  have hcanceled : (db.subscriptions.any fun s => s.status = .canceled) = true := by
    decide +kernel
  obtain ⟨s, hs, hstatus⟩ := List.any_eq_true.mp hcanceled
  have hstatus : s.status = .canceled := of_decide_eq_true hstatus
  exact ⟨s, hs, hstatus, fun later => (hfence s hs (.inl hstatus) later).1⟩

end SyrupRail
