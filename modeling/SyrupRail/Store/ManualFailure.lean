import SyrupRail.Dunning.Schedule
import SyrupRail.Store.Periods

/-!
# Manual failure

An operator may close an attempt under review as failed, and may fail a renewal so that it is tried
again. `MayFail` says in terms of the tables when that is allowed: nothing that is stored speaks of
a charge. The transaction judges the attempt on a copy that was read before, again under its lock,
and by two more queries; `mayFail_iff` says that together these are `MayFail`. What was decided then
shows in the tables (`ensures_failManually`), and what the dunning engine makes of a retried renewal
is one step of its schedule (`DunningConsumed`). The copy has the request of the stored row in every
later store (`stable_sameRequest`), so that its age does not matter.
-/

namespace SyrupRail

open Transactions Tx

/-! ## When an attempt may be failed -/

section Eligibility

variable {now : Timestamp} {mode : ManualFailureMode} {db : Db} {a : PaymentAttempt}

/-- Nothing that is stored says that the processor may have taken a payment. -/
structure NoChargeRisk (db : Db) (a : PaymentAttempt) : Prop where
  reference : a.evidence.hasGatewayReference = false
  approval : processorEvidenceIndicatesApproval a.evidence = false
  hostCharge : a.kind = .hostCharge → a.submittedAt = none
  charges : ∀ c ∈ db.ledger.charges, c.attemptId = a.id →
    c.progression ≠ .pending ∧ c.progression ≠ .reconciliationRequired ∧
      c.progression ≠ .externalReversalRequired

/-- A renewal that may be tried again for the subscription `s`, whose period it is for. -/
structure Retryable (now : Timestamp) (db : Db) (a : PaymentAttempt) (s : Subscription) : Prop where
  renewal : a.kind = .subscriptionRenewal
  submitted : a.submittedAt ≠ none
  undecided : a.resolutionCode = none
  uncharged : ∀ c ∈ db.ledger.charges, c.attemptId ≠ a.id
  target : a.target.subscriptionId = some s.id
  owner : s.billingScopeId = a.billingScopeId ∧ s.subscriberId = a.subscriberId
  billed : s.status = .active ∨ s.status = .pastDue
  unended : s.unpaidAt = none
  period : a.periodStartAt = some s.nextRenewalAt
  due : s.nextRenewalAt ≤ now
  scheduled : s.nextPaymentAttemptAt ≠ none

/-- Whether a manual failure may close an attempt. A payment-method update charges nothing. -/
structure MayFail (now : Timestamp) (mode : ManualFailureMode) (db : Db) (a : PaymentAttempt) :
    Prop where
  review : a.status = .reviewRequired
  riskless : a.kind ≠ .subscriptionPaymentMethodUpdate → NoChargeRisk db a
  retryable : mode.isRetryRenewal = true → ∃ s ∈ db.subscriptions, Retryable now db a s

/-- The judgment on the attempt alone. -/
theorem reviewRequiredAttemptCanBeManuallyFailed_iff :
    reviewRequiredAttemptCanBeManuallyFailed a = true ↔ a.status = .reviewRequired ∧
      (a.kind ≠ .subscriptionPaymentMethodUpdate → a.evidence.hasGatewayReference = false ∧
        processorEvidenceIndicatesApproval a.evidence = false ∧
        (a.kind = .hostCharge → a.submittedAt = none)) := by
  unfold reviewRequiredAttemptCanBeManuallyFailed
  by_cases hstatus : a.status = .reviewRequired
  · by_cases hkind : a.kind = .subscriptionPaymentMethodUpdate
    · simp [hstatus, hkind]
    · by_cases hhost : a.kind = .hostCharge ∧ a.submittedAt ≠ none
      · simp [hstatus, hhost.1, hhost.2]
      · have hsubmitted : a.kind = .hostCharge → a.submittedAt = none := by simpa using hhost
        have hnone : a.evidence.hasGatewayReference = false →
            processorEvidenceIndicatesApproval a.evidence = false → a.kind = .hostCharge →
                a.submittedAt = none :=
          fun _ _ => hsubmitted
        simpa [hstatus, hkind, hhost] using hnone
  · simp [hstatus]

/-- The charges that stand in the way of a failure. -/
theorem processorChargeBlocksFailure_eq_false {attemptId : Id} :
    processorChargeBlocksFailure mode attemptId db = false ↔
      ∀ c ∈ db.ledger.charges, c.attemptId = attemptId → mode.isRetryRenewal = false ∧
        c.progression ≠ .pending ∧ c.progression ≠ .reconciliationRequired ∧
        c.progression ≠ .externalReversalRequired := by
  simp [processorChargeBlocksFailure]

/-- The subscription of a renewal that may be tried again. -/
theorem lockRetryableSubscription_iff :
    lockRetryableSubscription now a db = true ↔
      ∃ s ∈ db.subscriptions, (a.target.subscriptionId = some s.id ∧
        s.billingScopeId = a.billingScopeId ∧ s.subscriberId = a.subscriberId ∧
        a.periodStartAt = some s.nextRenewalAt ∧ s.unpaidAt = none) ∧
        (s.status = .active ∨ s.status = .pastDue) ∧ s.nextRenewalAt ≤ now ∧
        s.nextPaymentAttemptAt ≠ none := by
  have hbilled (status : SubscriptionStatus) :
      status.isBilled = true ↔ status = .active ∨ status = .pastDue := by
    cases status <;> simp [SubscriptionStatus.isBilled]
  simp only [lockRetryableSubscription, isSubscriptionOf, List.any_eq_true, decide_eq_true_eq,
    hbilled]

/-- The guards of the transaction, all together. -/
theorem mayFail_iff :
    (mode.accepts a = true ∧
        (a.kind ≠ .subscriptionPaymentMethodUpdate →
          processorChargeBlocksFailure mode a.id db = false) ∧
        (mode.isRetryRenewal = true → lockRetryableSubscription now a db = true)) ↔
      MayFail now mode db a := by
  rw [ManualFailureMode.accepts, Bool.and_eq_true, reviewRequiredAttemptCanBeManuallyFailed_iff,
    processorChargeBlocksFailure_eq_false, lockRetryableSubscription_iff]
  constructor
  · rintro ⟨⟨⟨hstatus, hevidence⟩, hmode⟩, hcharges, hlock⟩
    refine ⟨hstatus, fun hkind => ?_, fun hretry => ?_⟩
    · obtain ⟨hreference, happroval, hhost⟩ := hevidence hkind
      exact ⟨hreference, happroval, hhost, fun c hc hid => (hcharges hkind c hc hid).2⟩
    · have hfails : a.failsRenewal = true := by simpa [hretry] using hmode
      obtain ⟨hkind, hsubmitted, hcode⟩ := of_decide_eq_true hfails
      obtain ⟨s, hs, ⟨htarget, hscope, hsubscriber, hperiod, hunpaid⟩, hbilled, hdue, hnext⟩ :=
        hlock hretry
      refine ⟨s, hs, hkind, hsubmitted, hcode, fun c hc hid => ?_, htarget, ⟨hscope, hsubscriber⟩,
        hbilled, hunpaid, hperiod, hdue, hnext⟩
      have hblocked := (hcharges (by simp [hkind]) c hc hid).1
      simp [hretry] at hblocked
  · rintro ⟨hstatus, hrisk, hretry⟩
    refine ⟨⟨⟨hstatus, fun hkind => ?_⟩, ?_⟩,
      fun hkind c hc hid => ⟨?_, (hrisk hkind).charges c hc hid⟩, fun hmode => ?_⟩
    · exact ⟨(hrisk hkind).reference, (hrisk hkind).approval, (hrisk hkind).hostCharge⟩
    · cases hmode : mode.isRetryRenewal with
      | false => rfl
      | true =>
        obtain ⟨s, -, h⟩ := hretry hmode
        exact decide_eq_true ⟨h.renewal, h.submitted, h.undecided⟩
    · cases hmode : mode.isRetryRenewal with
      | false => rfl
      | true =>
        obtain ⟨s, -, h⟩ := hretry hmode
        exact absurd hid (h.uncharged c hc)
    · obtain ⟨s, hs, h⟩ := hretry hmode
      exact ⟨s, hs, ⟨h.target, h.owner.1, h.owner.2, h.period, h.unended⟩, h.billed, h.due,
        h.scheduled⟩

end Eligibility

/-! ## One step of the schedule -/

section Dunning

variable {now : Timestamp} {mode : ManualFailureMode} {db db' : Db}

/-- The count of a history is the number of its failures. -/
theorem count_eq_of_historyFromResolved {resolved : List ResolvedAutomaticRenewalFailure}
    {history : AutomaticRenewalFailureHistory}
    (h : automaticRenewalFailureHistoryFromResolved resolved = .ok history) :
    history.count = resolved.length := by
  rcases List.eq_nil_or_concat resolved with rfl | ⟨earlier, latest, rfl⟩
  · obtain rfl := Except.ok.inj h
    rfl
  · rw [List.concat_eq_append] at h ⊢
    have hlen : earlier.length < maxFailureCount := by
      by_contra hge
      have hlong : maxFailureCount < (earlier ++ [latest]).length := by
        rw [List.length_append, List.length_singleton]
        omega
      rw [automaticRenewalFailureHistoryFromResolved, if_pos hlong] at h
      cases h
    rw [historyFromResolved_concat hlen] at h
    obtain rfl := Except.ok.inj h
    rw [count_historyOf, List.length_append, List.length_singleton]

/-- The count that a failure is judged by is the number of failures of its period. -/
theorem count_eq_length_automaticFailures {attempts : List PaymentAttempt} {subscriptionId : Id}
    {periodStartAt : Timestamp} {history : PastDueCausalHistory}
    (h : pastDueCausalHistory attempts subscriptionId periodStartAt = .ok history) :
    history.automatic.count = (automaticFailures subscriptionId periodStartAt attempts).length := by
  obtain ⟨automatic, hautomatic, h⟩ := bind_eq_ok.mp h
  obtain ⟨legacy, -, h⟩ := bind_eq_ok.mp h
  obtain rfl := Except.ok.inj h
  obtain ⟨resolved, hread, hresolved⟩ := bind_eq_ok.mp hautomatic
  calc automatic.count = resolved.length := count_eq_of_historyFromResolved hresolved
    _ = _ := (forall₂_of_mapM_eq_ok hread).length_eq.symm
    _ = (automaticFailures subscriptionId periodStartAt attempts).length := by
      rw [List.length_insertionSort, automaticFailures_eq_map, List.length_map]

/-- A failure that is no news for its subscription: another one of the period is later, or the row
has the columns of the disposition already. -/
def NoNews (v : ValidatedRenewalFailureAttempt) (s : Subscription)
    (history : PastDueCausalHistory) : Prop :=
  (∃ latest, history.automatic.latest = some latest ∧ latest.attemptId ≠ v.attemptId) ∨
    ∃ d, renewalFailureDisposition s.renewalFailure history.automatic.count v.resolvedAt = .ok d ∧
      s.failureProjection = d.projection

/-- A decision to do nothing has one of the two reasons. -/
theorem noNews_of_decideRenewalFailure {v : ValidatedRenewalFailureAttempt} {s : Subscription}
    {history : PastDueCausalHistory} (h : decideRenewalFailure v s history = .ok .noop) :
    NoNews v s history := by
  unfold decideRenewalFailure at h
  split at h
  · cases h
  split at h
  · cases h
  rename_i latest hlatest
  split at h
  · rename_i hother
    exact .inl ⟨latest, hlatest, hother⟩
  split at h
  · cases h
  rename_i hresolved
  split at h
  · cases h
  rename_i d hdisposition
  split at h
  · cases h
  split at h
  · rename_i hsame
    have htime : latest.resolvedAt = v.resolvedAt := by simpa using hresolved
    exact .inr ⟨d, htime ▸ hdisposition, hsame⟩
  split at h
  · cases h
  · obtain ⟨_, -, hfalse⟩ := map_eq_ok.mp h
    cases hfalse

/-- What the dunning engine reads of a failure that it passes over. -/
theorem noNews_of_applyResolved {attempts : List PaymentAttempt} {a : PaymentAttempt}
    {subscriptions subscriptions' : List Subscription}
    (h : applyResolvedAutomaticRenewalFailure now attempts a subscriptions =
      .ok (subscriptions', .noop)) :
    subscriptions' = subscriptions ∧ ∃ v, validateResolvedRenewalAttempt a = .ok v ∧
      ∃ s ∈ subscriptions, v.locks s = true ∧ ∃ history,
        pastDueCausalHistory attempts s.id s.nextRenewalAt = .ok history ∧ NoNews v s history := by
  unfold applyResolvedAutomaticRenewalFailure at h
  obtain ⟨v, hv, h⟩ := bind_eq_ok.mp h
  obtain ⟨durable, -, h⟩ := bind_eq_ok.mp h
  split at h
  · cases h
  split at h
  · cases h
  rename_i s hfind
  have hlocks : v.locks s = true := List.find?_some hfind
  obtain ⟨history, hhistory, h⟩ := bind_eq_ok.mp h
  obtain ⟨decision, hdecision, h⟩ := bind_eq_ok.mp h
  cases decision with
  | noop =>
    obtain ⟨rfl, -⟩ := Prod.mk.inj (Except.ok.inj h)
    rw [← (of_decide_eq_true hlocks).1] at hhistory
    exact ⟨rfl, v, hv, s, List.mem_of_find?_eq_some hfind, hlocks, history, hhistory,
      noNews_of_decideRenewalFailure hdecision⟩
  | apply transition =>
    obtain ⟨_, -, h⟩ := bind_eq_ok.mp h
    cases h

/-- The columns that a disposition gives to a renewal that is to be tried again. -/
def RenewalFailureDisposition.retried (now : Timestamp) (d : RenewalFailureDisposition) :
    FailureProjection :=
  { d.projection with nextPaymentAttemptAt := d.projection.nextPaymentAttemptAt.map (min now) }

/-- What the dunning engine makes of a failed renewal that is to be tried again: nothing, or its
disposition, whose retry is brought forward. -/
def RetriedRow (now : Timestamp) (failed : PaymentAttempt) (db db' : Db) : Prop :=
  ∃ v, validateResolvedRenewalAttempt failed = .ok v ∧ ∃ s ∈ db.subscriptions, v.locks s = true ∧
    ∃ history, pastDueCausalHistory db.attempts s.id s.nextRenewalAt = .ok history ∧
      ((db'.subscriptions = db.subscriptions ∧ NoNews v s history) ∨
        ∃ d, renewalFailureDisposition s.renewalFailure history.automatic.count
          v.resolvedAt = .ok d ∧ db'.subscriptions = Table.updateWhere (·.id = s.id)
            (fun _ => s.withFailure now (d.retried now)) db.subscriptions)

/-- The dunning of a renewal that was failed manually writes the subscriptions alone. -/
theorem ensures_applyManualRenewalFailure_row {failed : PaymentAttempt}
    (hindex : subscriptionIndexes db.subscriptions = true) :
    Ensures (applyManualRenewalFailure now mode failed) db fun _ db' =>
      (db'.attempts = db.attempts ∧ db'.ledger = db.ledger) ∧
        (mode.isRetryRenewal = true → failed.failsRenewal = true →
          RetriedRow now failed db db') := by
  unfold applyManualRenewalFailure
  rw [ensures_ite]
  refine ⟨fun _ => ?_, fun hother => ensures_pure.mpr ⟨⟨rfl, rfl⟩, fun _ h => absurd h hother⟩⟩
  rw [ensures_bind]
  refine ensures_applyRenewalFailure.mono fun application db₁ hpost => ?_
  obtain ⟨subscriptions, happlied, hdb⟩ := hpost
  subst hdb
  rw [ensures_bind]
  rcases applyResolvedAutomaticRenewalFailure_eq_ok hindex happlied with ⟨rfl, -⟩ |
    ⟨v, s, hs, history, d, events, hfailure, rfl, hrows, -, hindexes⟩
  · obtain ⟨rfl, v, hv, s, hs, hlocks, history, hhistory, hnews⟩ := noNews_of_applyResolved happlied
    rw [manualFailureEvents, ensures_pure, ensures_appendEvents]
    exact ⟨⟨rfl, rfl⟩, fun _ _ => ⟨v, hv, s, hs, hlocks, history, hhistory, .inl ⟨rfl, hnews⟩⟩⟩
  · have applied : ∀ {db₂ : Db}, db₂.subscriptions = Table.updateWhere (·.id = s.id)
        (fun _ => s.withFailure now (d.retried now)) db.subscriptions →
            RetriedRow now failed db db₂ := by
      intro db₂ hrows₂
      exact ⟨v, hfailure.validated, s, hs, hfailure.locked, history, hfailure.causes,
        .inr ⟨d, hfailure.disposed, hrows₂⟩⟩
    cases d with
    | retryScheduled retryAt =>
      rw [manualFailureEvents, ensures_ite]
      constructor
      · intro _
        rw [expediteRetry, ensures_bind]
        refine ensures_updateOneSubscription.mono fun _ db₂ hpost => ?_
        obtain ⟨subscriptions', hupdated, hdb₂⟩ := hpost
        subst hdb₂
        rw [ensures_read]
        intro events' _
        rw [ensures_appendEvents]
        exact ⟨⟨rfl, rfl⟩, fun _ _ => applied (hfailure.expedited_rows hrows hindexes hupdated)⟩
      · intro hordinary
        rw [ensures_pure, ensures_appendEvents]
        exact ⟨⟨rfl, rfl⟩, fun hretry => absurd hretry hordinary⟩
    -- Without a retry there is nothing to bring forward.
    | remainPastDue exhaustedAt =>
      have hplain : manualFailureEvents now mode failed
          (.applied (.remainPastDue exhaustedAt) events) = pure events := rfl
      rw [hplain, ensures_pure, ensures_appendEvents]
      exact ⟨⟨rfl, rfl⟩, fun _ _ => applied hrows⟩
    | markUnpaid endedAt =>
      have hplain : manualFailureEvents now mode failed (.applied (.markUnpaid endedAt) events) =
          pure events := rfl
      rw [hplain, ensures_pure, ensures_appendEvents]
      exact ⟨⟨rfl, rfl⟩, fun _ _ => applied hrows⟩

end Dunning

/-! ## The failure -/

section Failure

variable {now : Timestamp} {mode : ManualFailureMode} {sanitize : String → String} {db db' : Db}
  {a a' : PaymentAttempt}

/-- One step of the schedule of a subscription, by the failure of an attempt: its period has one
failure more. The row gets the columns of the disposition for that many failures, where a retry is
brought forward to now at the latest; it stays as it is where another failure of the period is later
than this one, or where it has the columns of the disposition. -/
structure DunningConsumed (now : Timestamp) (attemptId : Id) (s : Subscription) (db db' : Db) :
    Prop where
  consumed : (automaticFailures s.id s.nextRenewalAt db'.attempts).length =
    (automaticFailures s.id s.nextRenewalAt db.attempts).length + 1
  row :
    (∃ d, renewalFailureDisposition s.renewalFailure
        (automaticFailures s.id s.nextRenewalAt db'.attempts).length now = .ok d ∧
      (db'.subscriptions = Table.updateWhere (·.id = s.id)
        (fun _ => s.withFailure now (d.retried now)) db.subscriptions ∨
      (db'.subscriptions = db.subscriptions ∧ s.failureProjection = d.projection))) ∨
    (db'.subscriptions = db.subscriptions ∧ ∃ history latest,
      pastDueCausalHistory db'.attempts s.id s.nextRenewalAt = .ok history ∧
        history.automatic.latest = some latest ∧ latest.attemptId ≠ attemptId)

/-- What a manual failure does to the tables. -/
structure ManuallyFailed (now : Timestamp) (mode : ManualFailureMode) (db : Db)
    (a a' : PaymentAttempt) (db' : Db) : Prop where
  mayFail : MayFail now mode db a
  same : a.SameRequest a'
  failed : a'.status = .failed
  attempts : db'.attempts = Table.updateWhere (·.id = a.id) (fun _ => a') db.attempts
  ledger : db'.ledger = db.ledger
  retried : mode.isRetryRenewal = true →
    ∀ s ∈ db.subscriptions, Retryable now db a s → DunningConsumed now a.id s db db'

/-- The row of a manual failure. -/
theorem manualFailure_row {evidence : ProcessorEvidence}
    (h : (AttemptWriter.manualFailure evidence).write now a = .ok a') :
    a.SameRequest a' ∧ a'.status = .failed ∧ a'.resolutionCode = a.resolutionCode ∧
      a'.submittedAt = a.submittedAt ∧ a'.subscriptionId = a.subscriptionId ∧
      a'.resolvedAt = some now := by
  obtain ⟨-, reviewRequiredAt, rfl⟩ := requireOneRow_update_eq_ok h
  exact ⟨rfl, rfl, rfl, rfl, rfl, rfl⟩

/-- A renewal that was failed is one failure more of its period. -/
theorem length_automaticFailures_manualFailure {evidence : ProcessorEvidence} {s : Subscription}
    (hvalid : db.Valid) (ha : a ∈ db.attempts) (hreview : a.status = .reviewRequired)
    (hretry : Retryable now db a s)
    (hwrite : (AttemptWriter.manualFailure evidence).write now a = .ok a') :
    (automaticFailures s.id s.nextRenewalAt
        (Table.updateWhere (·.id = a.id) (fun _ => a') db.attempts)).length =
      (automaticFailures s.id s.nextRenewalAt db.attempts).length + 1 := by
  obtain ⟨hsame, hfailed, hcode, hsubmitted, hsubscription, -⟩ := manualFailure_row hwrite
  have hopen : a.status.isResolvable = true := by
    rw [hreview]
    rfl
  have hlinked : a.subscriptionId = some s.id := by
    rw [hvalid.linked a ha ?_, hretry.target]
    simp [PaymentAttempt.isOfSubscription, PaymentAttempt.isSubscriptionCharge, hretry.renewal]
  have hfailure : a'.isAutomaticFailure s.id s.nextRenewalAt = true := by
    refine PaymentAttempt.isAutomaticFailure_iff.mpr ⟨hsubscription.trans hlinked, ?_, ?_, ?_,
      .inr hfailed, hcode.trans hretry.undecided⟩
    · rw [hsame.periodStartAt, hretry.period]
    · rw [hsame.kind, hretry.renewal]
    · rw [hsubmitted]
      exact hretry.submitted
  have hids := hvalid.attempts
  simp only [attemptIndexes, Bool.and_eq_true] at hids
  have hunfailed : a.failureKey s.id s.nextRenewalAt = none :=
    PaymentAttempt.failureKey_of_isResolvable hopen
  have hperm :=
    Table.perm_filterMap_updateWhere (Table.nodup_map_of_uniqueOn hids.1.1.1.1.1.1.1.1) ha hunfailed
    (if_pos hfailure : a'.failureKey s.id s.nextRenewalAt = some a'.failure)
  exact hperm.length_eq

/-- The failure of an attempt that may be failed. -/
theorem ensures_failManually (hvalid : db.Valid) (ha : a ∈ db.attempts)
    (hmay : MayFail now mode db a) : Ensures (failManually now sanitize mode a) db fun a' db' =>
      ManuallyFailed now mode db a a' db' := by
  rw [failManually, ensures_bind, ensures_onAttempts]
  intro attempts hstored
  obtain ⟨b, hb, hid, a', hwrite, hrows, hindex⟩ := writeAttempt_eq_ok hstored
  obtain rfl := nodup_id_of_attemptIndexes hvalid.attempts hb ha hid
  obtain ⟨hsame, hfailed, hcode, hsubmitted, -, hresolved⟩ := manualFailure_row hwrite
  rw [ensures_bind]
  refine ensures_markPaymentFailed ?_
  rw [ensures_bind]
  refine ensures_requireAttempt fun failed hmem _ hid' => ?_
  obtain rfl : failed = a' := by
    rcases Table.mem_replaceBy (hrows ▸ hmem) with ⟨-, hne⟩ | heq
    · exact absurd hid' hne
    · exact heq
  rw [ensures_bind]
  have hdunning :=
      @ensures_applyManualRenewalFailure_row now mode { db with attempts := attempts } failed
    hvalid.subscriptions
  refine hdunning.mono fun _ db' hpost => ensures_pure.mpr ?_
  obtain ⟨⟨hattempts, hledger⟩, hretried⟩ := hpost
  have hattempts' : db'.attempts = Table.updateWhere (·.id = b.id) (fun _ => failed) db.attempts :=
    hattempts.trans hrows
  refine ⟨hmay, hsame, hfailed, hattempts', hledger, fun hmode s hs hretry => ?_⟩
  have hconsumed : (automaticFailures s.id s.nextRenewalAt db'.attempts).length =
      (automaticFailures s.id s.nextRenewalAt db.attempts).length + 1 := by
    rw [hattempts']
    exact length_automaticFailures_manualFailure hvalid ha hmay.review hretry hwrite
  have hfails : failed.failsRenewal = true := by
    refine decide_eq_true ⟨?_, ?_, ?_⟩
    · rw [hsame.kind, hretry.renewal]
    · rw [hsubmitted]
      exact hretry.submitted
    · rw [hcode, hretry.undecided]
  obtain ⟨v, hv, t, ht, hlocks, history, hhistory, hrow⟩ := hretried hmode hfails
  obtain ⟨-, -, -, -, htime, hattempt, htarget, -⟩ := validateResolvedRenewalAttempt_ok hv
  -- The subscription that the engine has locked is the one of the renewal.
  have hts : t.id = s.id := by
    rw [hsame.target, hretry.target] at htarget
    rw [(of_decide_eq_true hlocks).1, Option.some.inj htarget]
  obtain rfl := eq_of_subscriptionIndexes hvalid.subscriptions ht hs hts
  have hnow : v.resolvedAt = now := Option.some.inj (htime.symm.trans hresolved)
  have hcount : history.automatic.count =
      (automaticFailures t.id t.nextRenewalAt db'.attempts).length := by
    rw [count_eq_length_automaticFailures hhistory, hattempts]
  rw [hnow, hcount] at hrow
  refine ⟨hconsumed, ?_⟩
  rcases hrow with ⟨hsubscriptions, ⟨latest, hlatest, hother⟩ | ⟨d, hd, hprojection⟩⟩ |
    ⟨d, hd, hupdated⟩
  · refine .inr ⟨hsubscriptions, history, latest, ?_, hlatest, ?_⟩
    · rw [hattempts]
      exact hhistory
    · rw [← hsame.id, ← hattempt]
      exact hother
  · rw [hnow, hcount] at hd
    exact .inl ⟨d, hd, .inr ⟨hsubscriptions, hprojection⟩⟩
  · exact .inl ⟨d, hd, .inl hupdated⟩

/-- A manual failure closes an attempt that may be failed, or changes nothing. -/
theorem ensures_failReviewRequired_row {preloaded : Option PaymentAttempt} (hvalid : db.Valid) :
    Ensures (failReviewRequired now sanitize mode preloaded) db fun outcome db' =>
      (∃ p a a', preloaded = some p ∧ a ∈ db.attempts ∧ a.id = p.id ∧ outcome = .failed a' ∧
        ManuallyFailed now mode db a a' db') ∨
      ((outcome = .notFound ∨ ∃ b, outcome = .keptOpen b) ∧ db' = db) := by
  unfold failReviewRequired
  split
  · exact ensures_pure.mpr (.inr ⟨.inl rfl, rfl⟩)
  · rename_i p
    rw [ensures_ite]
    refine ⟨fun _ => ensures_pure.mpr (.inr ⟨.inr ⟨_, rfl⟩, rfl⟩), fun _ => ?_⟩
    rw [failReviewRequiredLocked, ensures_bind]
    refine ensures_lockPaymentFailureTarget ?_
    rw [ensures_bind, ensures_read]
    intro found hfound
    cases found with
    | none => exact ensures_pure.mpr (.inr ⟨.inl rfl, rfl⟩)
    | some a =>
      obtain ⟨ha, -, hid⟩ := findPaymentAttemptById_eq_some hfound
      rw [ensures_bind, ensures_get, ensures_ite]
      refine ⟨fun _ => ensures_throw, fun _ => ?_⟩
      rw [ensures_ite]
      refine ⟨fun _ => ensures_pure.mpr (.inr ⟨.inr ⟨_, rfl⟩, rfl⟩), fun hguard => ?_⟩
      rw [ensures_ite]
      refine ⟨fun _ => ensures_pure.mpr (.inr ⟨.inr ⟨_, rfl⟩, rfl⟩), fun hlock => ?_⟩
      have hmay : MayFail now mode db a := by
        refine mayFail_iff.mp ⟨?_, fun hkind => ?_, fun hmode => ?_⟩
        · exact Bool.eq_true_of_not_eq_false fun h => hguard (.inl h)
        · exact Bool.eq_false_of_not_eq_true fun h => hguard (.inr ⟨hkind, h⟩)
        · exact Bool.eq_true_of_not_eq_false fun h => hlock ⟨hmode, h⟩
      rw [map_eq_pure_bind, ensures_bind]
      exact (ensures_failManually hvalid ha hmay).mono fun a' db' hfailed =>
        ensures_pure.mpr (.inl ⟨p, a, a', rfl, ha, hid, rfl, hfailed⟩)

/-- The lock of a host's target that succeeds. -/
theorem lockPaymentFailureTarget_eq {p : PaymentAttempt}
    (h : ∀ host charge, mode.hostCharge p = some (host, charge) →
      host.lockPaymentFailureTarget charge = .ok ()) :
        lockPaymentFailureTarget mode p db = .ok ((), db) := by
  unfold lockPaymentFailureTarget
  cases hcharge : mode.hostCharge p with
  | none => rfl
  | some target =>
    show (target.1.lockPaymentFailureTarget target.2).map (fun u => (u, db)) = _
    rw [h target.1 target.2 hcharge]
    rfl

/-- Rows with the same request are the same attempt. -/
theorem PaymentAttempt.SameRequest.isSameAttempt {p : PaymentAttempt} (h : p.SameRequest a) :
    a.isSameAttempt p = true := by
  have hidentity : a.identity = p.identity := by
    unfold PaymentAttempt.identity
    rw [PaymentAttemptIdentity.mk.injEq]
    exact ⟨h.id, congrArg AttemptRequest.billingScopeId h, congrArg AttemptRequest.subscriberId h,
      congrArg AttemptRequest.gatewayAccountId h, congrArg AttemptRequest.gatewayConfigurationId h,
      congrArg AttemptRequest.requiredGatewayAccountMode h⟩
  exact decide_eq_true ⟨hidentity, h.target, congrArg AttemptRequest.idempotencyKey h, h.amount,
    congrArg AttemptRequest.gatewayOrderId h⟩

/-- An attempt that may not be failed is kept open, without a change. -/
theorem failReviewRequired_of_not_mayFail {p : PaymentAttempt} (hvalid : db.Valid)
    (ha : a ∈ db.attempts) (hsame : p.SameRequest a)
    (hhost : ∀ host charge, mode.hostCharge p = some (host, charge) →
      host.lockPaymentFailureTarget charge = .ok ()) (hmay : ¬ MayFail now mode db a) :
    ∃ b, failReviewRequired now sanitize mode (some p) db = .ok (.keptOpen b, db) := by
  unfold failReviewRequired
  by_cases haccepts : mode.accepts p = false
  · refine ⟨p, ?_⟩
    dsimp only
    rw [if_pos haccepts]
    rfl
  · refine ⟨a, ?_⟩
    dsimp only
    rw [if_neg haccepts]
    have hscope : p.billingScopeId = a.billingScopeId :=
      (congrArg AttemptRequest.billingScopeId hsame).symm
    have hfound : findPaymentAttemptById db.attempts p.billingScopeId p.id = .ok (some a) := by
      rw [hscope, ← hsame.id]
      exact findPaymentAttemptById_eq hvalid.attempts ha (hvalid.rows a ha)
    have hguards : ¬ (¬ (mode.accepts a = false ∨ (a.kind ≠ .subscriptionPaymentMethodUpdate ∧
        processorChargeBlocksFailure mode a.id db = true)) ∧
        ¬ (mode.isRetryRenewal = true ∧ lockRetryableSubscription now a db = false)) := by
      rintro ⟨hguard, hlock⟩
      refine hmay (mayFail_iff.mp ⟨?_, fun hkind => ?_, fun hmode => ?_⟩)
      · exact Bool.eq_true_of_not_eq_false fun h => hguard (.inl h)
      · exact Bool.eq_false_of_not_eq_true fun h => hguard (.inr ⟨hkind, h⟩)
      · exact Bool.eq_true_of_not_eq_false fun h => hlock ⟨hmode, h⟩
    have hsameAttempt : ¬ a.isSameAttempt p = false := by
      rw [hsame.isSameAttempt]
      exact Bool.true_eq_false.mp
    simp only [failReviewRequiredLocked, bind, StateT.bind, lockPaymentFailureTarget_eq hhost,
      Except.bind, Tx.read, hfound, Except.map, get, getThe, MonadStateOf.get, StateT.get, pure,
        Except.pure, if_neg hsameAttempt]
    by_cases hguard : mode.accepts a = false ∨ (a.kind ≠ .subscriptionPaymentMethodUpdate ∧
        processorChargeBlocksFailure mode a.id db = true)
    · rw [if_pos hguard]
      rfl
    · rw [if_neg hguard, if_pos (by_contra fun hlock => hguards ⟨hguard, hlock⟩)]
      rfl

/-- A row stays in its table with its request. -/
theorem stable_sameRequest (p : PaymentAttempt) :
    Db.Stable fun db => ∃ a ∈ db.attempts, p.SameRequest a where
  later _ _ _ _ h := h
  quiet db db' _ hquiet h := by
    obtain ⟨a, ha, hsame⟩ := h
    obtain ⟨a', ha', hrow⟩ := Table.exists_of_mem_left hquiet.rows ha
    exact ⟨a', ha', hrow.same.trans hsame⟩
  effect db db' hvalid heffect h := by
    obtain ⟨a, ha, hsame⟩ := h
    -- A row that is written keeps its request, and another one stays.
    have written {c c' : PaymentAttempt} (mem : c ∈ db.attempts) (hwrite : c.SameRequest c')
        (rows : db'.attempts = Table.updateWhere (·.id = c.id) (fun _ => c') db.attempts) :
        ∃ a' ∈ db'.attempts, p.SameRequest a' := by
      rw [rows]
      by_cases hid : a.id = c.id
      · obtain rfl := nodup_id_of_attemptIndexes hvalid.attempts ha mem hid
        exact ⟨c', Table.mem_updateWhere.mpr ⟨a, ha, by simp⟩, hwrite.trans hsame⟩
      · exact ⟨a, Table.mem_replaceBy_of_ne ha hid, hsame⟩
    cases heffect.attempts with
    | kept rows _ =>
      obtain ⟨a', ha', hrow⟩ := Table.exists_of_mem_left rows ha
      exact ⟨a', ha', hrow.same.trans hsame⟩
    | inserted n _ _ rows _ =>
      rw [rows]
      exact ⟨a, List.mem_cons_of_mem _ ha, hsame⟩
    | admitted c c' s mem _ _ _ _ _ write rows _ =>
      have hwrite : c.SameRequest c' := by
        obtain ⟨-, -, row, rfl⟩ := PaymentAttempt.update_eq_some (requireOneRow_eq_ok write)
        rfl
      exact written mem hwrite rows
    | approved c c' _ _ _ mem _ _ _ write rows _ =>
      have hwrite : c.SameRequest c' := by
        obtain ⟨-, -, row, rfl⟩ := PaymentAttempt.update_eq_some (requireOneRow_eq_ok write)
        rfl
      exact written mem hwrite rows

/-- Manual failure. After every run of the engine, and on an attempt that was read at any time of
it, the transaction fails an attempt that may be failed, of which only the attempt and the schedule
of its subscription change, or it returns `KeptOpen` or `NotFound` and changes nothing. The latter
is what it does for every attempt that may not be failed and whose host target is locked. -/
theorem manual_failure_safe {db₀ : Db} (hfresh : db₀.Fresh) (steps later : List (ℕ × Op))
    (attemptId : Id) (elapsed : ℕ) (sanitize : String → String) (mode : ManualFailureMode) :
    let preloaded := Table.findBy PaymentAttempt.id attemptId (run execStore db₀ steps).attempts
    let store := run execStore db₀ (steps ++ later)
    let now := store.clock + elapsed
    let db := store.at now
    (∀ outcome db', failReviewRequired now sanitize mode preloaded db = .ok (outcome, db') →
      (∃ a ∈ db.attempts, ∃ a', a.id = attemptId ∧ outcome = .failed a' ∧
        ManuallyFailed now mode db a a' db') ∨ ((outcome = .notFound ∨ ∃ b, outcome = .keptOpen b) ∧
          db' = db)) ∧
    (preloaded = none → failReviewRequired now sanitize mode preloaded db = .ok (.notFound, db)) ∧
    ∀ p, preloaded = some p → ∃ a ∈ db.attempts, p.SameRequest a ∧
      ((∀ host charge, mode.hostCharge p = some (host, charge) →
        host.lockPaymentFailureTarget charge = .ok ()) → ¬ MayFail now mode db a →
            ∃ b, failReviewRequired now sanitize mode preloaded db = .ok (.keptOpen b, db)) := by
  intro preloaded store now db
  have hvalid₀ := (Db.law_valid.holds hfresh steps).1
  have hvalid : db.Valid := (Db.law_valid.holds hfresh (steps ++ later)).1.at now
  refine ⟨fun outcome db' hrun => ?_, fun hnone => ?_, fun p hp => ?_⟩
  · obtain ⟨p, a, a', hp, ha, hid, houtcome, hfailed⟩ | hkept :=
      ensures_failReviewRequired_row hvalid outcome db' hrun
    · obtain ⟨-, hpid⟩ := Table.findBy_some hp
      exact .inl ⟨a, ha, a', hid.trans hpid, houtcome, hfailed⟩
    · exact .inr hkept
  · rw [hnone]
    rfl
  -- The attempt that was read before the transaction is still there with its request; the rest of
  -- it is judged again on the row that is locked.
  · obtain ⟨hmem, -⟩ := Table.findBy_some hp
    have hrun := ((stable_sameRequest p).run_of hvalid₀ ⟨p, hmem, rfl⟩ later).2
    rw [← run_append] at hrun
    obtain ⟨a, ha, hsame⟩ := hrun
    refine ⟨a, ha, hsame, fun hhost hmay => ?_⟩
    rw [hp]
    exact failReviewRequired_of_not_mayFail hvalid ha hsame hhost hmay

end Failure

/-! ## The last chance of a renewal -/

/-- No delay of an empty schedule is zero. -/
theorem noRetry_pos : ∀ delay ∈ ([] : List ℕ), 0 < delay := by
  intro _ h
  cases h

/-- No delay of an empty schedule is too long. -/
theorem noRetry_le : ∀ delay ∈ ([] : List ℕ), delay ≤ maxDunningRetryDelay := by
  intro _ h
  cases h

/-- A policy without retries. -/
def noRetries : RenewalFailurePolicy where
  retryDelays := []
  exhaustion := .markUnpaid
  pastDueAccess := .suspendImmediately
  length_le := Nat.zero_le _
  delay_pos := noRetry_pos
  delay_le := noRetry_le

/-- A subscription with that policy is renewed, and half an hour later its processor knows no
transaction. -/
def lastChance : List (ℕ × Op) :=
  [(0, .reserveOther { enrollmentAttempt none with
      target := .subscriptionInitial { monthlyOffer with renewalFailure := noRetries } none
      amount_fits := by simp [PaymentAttemptTarget.kind, enrollmentAttempt] }),
    (0, .admitEnrollment 1 1),
    (0, .applyApproved ⟨1, 1, 1⟩ true .disabled (.initial enrollmentReservation)
      (approvedEvidence "tx-1"))] ++
  submittedRenewal ++ [(0, .resolve 2 (.charge firstRenewal) {} .unknown),
    (1800 * 1000000, .exactQuery 1 2 .noTransaction)]

/-- Whether an outcome is a failure. -/
def ManualAttemptFailureOutcome.isFailed : ManualAttemptFailureOutcome → Bool
  | .failed _ => true
  | .keptOpen _ | .notFound => false

/-- It is failed to be tried again; its subscription, which had a payment scheduled, has none
then. -/
theorem lastChance_failed :
    let store := run execStore accountStore lastChance
    ∃ a' db', failReviewRequired store.clock id .retryRenewal
      (Table.findBy PaymentAttempt.id 2 store.attempts)
        (store.at store.clock) = .ok (.failed a', db') ∧
      (∀ s ∈ store.subscriptions, s.nextPaymentAttemptAt ≠ none) ∧
      ∃ s ∈ db'.subscriptions, s.nextPaymentAttemptAt = none := by
  intro store
  have heval :
    ((failReviewRequired store.clock id .retryRenewal
      (Table.findBy PaymentAttempt.id 2 store.attempts) (store.at store.clock)).toOption.any
      fun r => r.1.isFailed &&
        ((store.subscriptions.all fun s => s.nextPaymentAttemptAt ≠ none) &&
          r.2.subscriptions.any fun s => s.nextPaymentAttemptAt = none)) = true := by
    decide +kernel
  cases hrun : failReviewRequired store.clock id .retryRenewal
    (Table.findBy PaymentAttempt.id 2 store.attempts)
      (store.at store.clock) with
  | error e =>
    rw [hrun] at heval
    cases heval
  | ok r =>
    obtain ⟨outcome, db'⟩ := r
    rw [hrun] at heval
    obtain ⟨houtcome, hschedule⟩ := Bool.and_eq_true_iff.mp heval
    obtain ⟨hbefore, hafter⟩ := Bool.and_eq_true_iff.mp hschedule
    cases outcome with
    | keptOpen => cases houtcome
    | notFound => cases houtcome
    | failed a' =>
      obtain ⟨s, hs, hnone⟩ := List.any_eq_true.mp hafter
      exact ⟨a', db', rfl, fun s hs => of_decide_eq_true (List.all_eq_true.mp hbefore s hs), s, hs,
        of_decide_eq_true hnone⟩

/-- A failure for a retry does end a schedule. -/
theorem manual_failure_ends_schedule :
    ¬ ∀ (steps : List (ℕ × Op)) (attemptId : Id) (a' : PaymentAttempt) (db' : Db),
      let store := run execStore accountStore steps
      failReviewRequired store.clock id .retryRenewal
        (Table.findBy PaymentAttempt.id attemptId store.attempts)
          (store.at store.clock) = .ok (.failed a', db') →
        (∀ s ∈ store.subscriptions, s.nextPaymentAttemptAt ≠ none) →
        ∀ s ∈ db'.subscriptions, s.nextPaymentAttemptAt ≠ none := by
  intro h
  obtain ⟨a', db', hrun, hbefore, s, hs, hnone⟩ := lastChance_failed
  exact h lastChance 2 a' db' hrun hbefore s hs hnone

/-- The last chance was the failure of an attempt that may be failed, and one step of the
schedule. -/
theorem manual_failure_safe_last_chance :
    let store := run execStore accountStore lastChance
    ∃ a ∈ store.attempts, ∃ a' db', a.id = 2 ∧
      ManuallyFailed store.clock .retryRenewal (store.at store.clock) a a' db' := by
  intro store
  obtain ⟨a', db', hrun, -, -⟩ := lastChance_failed
  have hsafe :=
    (manual_failure_safe accountStore_fresh lastChance [] 2 0 id .retryRenewal).1 (.failed a') db'
  rw [List.append_nil, Int.natCast_zero, Int.add_zero] at hsafe
  obtain ⟨a, ha, b, hid, -, hfailed⟩ | ⟨hkept, -⟩ := hsafe hrun
  · exact ⟨a, ha, b, db', hid, hfailed⟩
  · obtain h | ⟨b, h⟩ := hkept
    · cases h
    · cases h

end SyrupRail
