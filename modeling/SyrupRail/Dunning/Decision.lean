import SyrupRail.Dunning.History

/-!
# The decision about a failure

`decideRenewalFailure` taken apart. Under a history in which every failure but the latest left a
retry, it is the disposition of the latest one (`decideRenewalFailure_eq`); where the payment was
due at the submission, the state before is valid, the events exist, and the transition is stored.
The last part says which writers make a renewal a failure: exactly those that the application
follows.
-/

namespace SyrupRail

open Transactions

/-! ## Projections of a period -/

/-- The projection of the subscription after the failures of the period. -/
def dunningProjection (s₀ : Subscription) (failures : List ResolvedAutomaticRenewalFailure)
    (p : FailureProjection) : Prop :=
  match failures.getLast? with
  | none => p = s₀.failureProjection
  | some latest =>
    ∃ d, renewalFailureDisposition s₀.renewalFailure failures.length latest.resolvedAt = .ok d ∧
      p = d.projection

/-- Every failure but the latest left a retry. -/
def Retried (policy : RenewalFailurePolicy) (failures : List ResolvedAutomaticRenewalFailure) :
    Prop :=
  ∀ earlier f later, failures = earlier ++ f :: later → later ≠ [] →
    ∃ t, renewalFailureDisposition policy (earlier.length + 1) f.resolvedAt =
      .ok (.retryScheduled t)

/-! ## Dispositions -/

/-- The disposition of a failure is the retry after its delay, or the exhaustion of the schedule. -/
theorem renewalFailureDisposition_cases {policy : RenewalFailurePolicy} {k : ℕ} {t : Timestamp}
    {d : RenewalFailureDisposition} (h : renewalFailureDisposition policy (k + 1) t = .ok d) :
    (∃ delay, policy.retryDelays[k]? = some delay ∧ 0 < delay ∧
      d = .retryScheduled (t + seconds delay)) ∨
      (policy.retryDelays[k]? = none ∧ d = policy.exhaustion.disposition t) := by
  simp only [renewalFailureDisposition] at h
  split at h
  · rename_i delay hdelay
    left
    have hpos : 0 < delay := policy.delay_pos delay (List.mem_of_getElem? hdelay)
    unfold checkedAdd at h
    split_ifs at h with hrange
    exact ⟨delay, hdelay, hpos, by simpa using h.symm⟩
  · rename_i hdelay
    right
    exact ⟨hdelay, by simpa using h.symm⟩

/-- A retry is after its failure. -/
theorem lt_add_seconds {delay : ℕ} (h : 0 < delay) (t : Timestamp) : t < t + seconds delay := by
  have hpos : (0 : ℤ) < seconds delay := by
    unfold seconds
    omega
  exact Int.lt_add_of_pos_right t hpos

/-- Without a retry left, no payment is scheduled, and the subscription is past due or unpaid. -/
theorem DunningExhaustion.projection_disposition (x : DunningExhaustion) (t : Timestamp) :
    (x.disposition t).projection.nextPaymentAttemptAt = none ∧
      (x.disposition t).projection.status ≠ .active ∧
      ((x.disposition t).projection.unpaidAt ≠ none ↔
        (x.disposition t).projection.status = .unpaid) := by
  cases x with
  | remainPastDue =>
    exact ⟨rfl, nofun,
      by simp [DunningExhaustion.disposition, RenewalFailureDisposition.projection]⟩
  | markUnpaid =>
    exact ⟨rfl, nofun,
      by simp [DunningExhaustion.disposition, RenewalFailureDisposition.projection]⟩

/-- What every retried failure but the latest means for the decision about the latest. -/
theorem previousWasRetried_historyOf {policy : RenewalFailurePolicy}
    {earlier : List ResolvedAutomaticRenewalFailure} {latest : ResolvedAutomaticRenewalFailure}
    (h : Retried policy (earlier ++ [latest])) :
    (historyOf earlier latest).previousWasRetried policy = true := by
  unfold historyOf
  split
  · rfl
  · rename_i previous hlast
    obtain ⟨before, rfl⟩ := List.getLast?_eq_some_iff.mp hlast
    obtain ⟨t, ht⟩ := h before previous [latest] (by simp) (by simp)
    simp [AutomaticRenewalFailureHistory.previousWasRetried, ht]

/-- A policy has at most one failure more than it has delays. -/
theorem Retried.length_le {policy : RenewalFailurePolicy}
    {failures : List ResolvedAutomaticRenewalFailure} (h : Retried policy failures) :
    failures.length ≤ policy.retryDelays.length + 1 := by
  rcases List.eq_nil_or_concat failures with rfl | ⟨earlier, latest, rfl⟩
  · simp
  · rcases List.eq_nil_or_concat earlier with rfl | ⟨before, previous, rfl⟩
    · simp
    · obtain ⟨t, ht⟩ := h before previous [latest] (by simp) (by simp)
      -- The failure before the latest has a delay of its own.
      have hlt : before.length < policy.retryDelays.length := by
        rcases renewalFailureDisposition_cases ht with ⟨delay, hdelay, -, -⟩ | ⟨-, hd⟩
        · exact (List.getElem?_eq_some_iff.mp hdelay).1
        · cases hx : policy.exhaustion <;> simp [hx, DunningExhaustion.disposition] at hd
      simp only [List.concat_eq_append, List.length_append, List.length_singleton]
      omega

/-- One failure more, when the latest so far left a retry. -/
theorem Retried.concat {policy : RenewalFailurePolicy}
    {failures : List ResolvedAutomaticRenewalFailure} (h : Retried policy failures)
    (hlast : ∀ f, failures.getLast? = some f →
      ∃ t, renewalFailureDisposition policy failures.length f.resolvedAt = .ok (.retryScheduled t))
    (f : ResolvedAutomaticRenewalFailure) : Retried policy (failures ++ [f]) := by
  intro earlier g later heq hne
  obtain ⟨before, z, rfl⟩ := (List.eq_nil_or_concat later).resolve_left hne
  rw [List.concat_eq_append, ← List.cons_append, ← List.append_assoc] at heq
  obtain ⟨hinit, -⟩ := List.append_inj' heq rfl
  cases before with
  | nil =>
    have hg := hlast g (by rw [hinit, List.getLast?_concat])
    rwa [hinit, List.length_append, List.length_singleton] at hg
  | cons b before => exact h earlier g (b :: before) hinit (List.cons_ne_nil _ _)

/-! ## The decision -/

/-- The events of a failure exist as soon as the history has a failure. -/
theorem failureEvents_eq_ok (v : ValidatedRenewalFailureAttempt) (policy : RenewalFailurePolicy)
    {history : PastDueCausalHistory} {earlier : List ResolvedAutomaticRenewalFailure}
    {latest : ResolvedAutomaticRenewalFailure} (h : history.automatic = historyOf earlier latest)
    (d : RenewalFailureDisposition) : ∃ events, failureEvents v policy history d = .ok events := by
  obtain ⟨first, hfirst⟩ : ∃ t, history.automatic.firstResolvedAt = some t := by
    rw [h]
    unfold historyOf
    split
    · exact ⟨_, rfl⟩
    · exact ⟨_, rfl⟩
  have hlatest : history.automatic.latestResolvedAt = some latest.resolvedAt := by
    rw [h, AutomaticRenewalFailureHistory.latestResolvedAt, latest_historyOf]
    rfl
  obtain ⟨ended, hended⟩ : ∃ t, history.accessEndedAt policy.pastDueAccess = some t := by
    unfold PastDueCausalHistory.accessEndedAt
    cases policy.pastDueAccess with
    | suspendImmediately =>
      rw [hfirst]
      cases history.legacyRecoveryAccessEndedAt with
      | none => exact ⟨_, rfl⟩
      | some legacy => exact ⟨_, rfl⟩
    | continueUntilDunningExhausted => exact ⟨_, hlatest⟩
  unfold failureEvents failureEventAccess
  rw [hended]
  cases policy.pastDueAccess with
  | suspendImmediately => cases d <;> exact ⟨_, rfl⟩
  | continueUntilDunningExhausted => cases d <;> exact ⟨_, rfl⟩

section Decision

variable {v : ValidatedRenewalFailureAttempt} {s : Subscription} {history : PastDueCausalHistory}
  {earlier : List ResolvedAutomaticRenewalFailure} {latest : ResolvedAutomaticRenewalFailure}

/-- The decision about the latest failure of the period is that about its disposition. -/
theorem decideRenewalFailure_eq (hstart : s.nextRenewalAt = v.periodStartAt)
    (hhistory : history.automatic = historyOf earlier latest) (hid : latest.attemptId = v.attemptId)
    (htime : latest.resolvedAt = v.resolvedAt)
    (hretried : Retried s.renewalFailure (earlier ++ [latest])) :
    decideRenewalFailure v s history =
      match renewalFailureDisposition s.renewalFailure (earlier.length + 1) latest.resolvedAt with
      | .error _ => .error invalidRenewalFailureState
      | .ok d =>
        if s.failureProjection = d.projection then .ok .noop
        else if !beforeIsValid v.submittedAt s.nextRenewalAt s.failureProjection history then
          .error invalidRenewalFailureState
        else
          (failureEvents v s.renewalFailure history d).map fun events =>
            .apply ⟨s.failureProjection, d.projection, d, events⟩ := by
  have hprevious : history.automatic.previousWasRetried s.renewalFailure = true := by
    rw [hhistory]
    exact previousWasRetried_historyOf hretried
  unfold decideRenewalFailure
  rw [if_neg (not_not.mpr hstart), hprevious, hhistory, latest_historyOf, count_historyOf]
  rw [htime]
  cases hd : renewalFailureDisposition s.renewalFailure (earlier.length + 1) v.resolvedAt with
  | error e => simp only [hid, htime, hd, ne_eq, not_true_eq_false, if_false]
  | ok d =>
    simp only [hid, htime, hd, ne_eq, not_true_eq_false, if_false, Bool.not_true,
      Bool.false_eq_true]

/-- A failure that is not the latest of its period has nothing left to do. -/
theorem decideRenewalFailure_of_earlier (hstart : s.nextRenewalAt = v.periodStartAt)
    (hhistory : history.automatic = historyOf earlier latest)
    (hid : latest.attemptId ≠ v.attemptId) : decideRenewalFailure v s history = .ok .noop := by
  unfold decideRenewalFailure
  rw [if_neg (not_not.mpr hstart), hhistory, latest_historyOf]
  simp [hid]

end Decision

/-! ## The transition -/

/-- Two subscriptions of a table with one id are the same. -/
theorem eq_of_subscriptionIndexes {subscriptions : List Subscription}
    (h : subscriptionIndexes subscriptions = true) {s t : Subscription} (hs : s ∈ subscriptions)
    (ht : t ∈ subscriptions) (hid : s.id = t.id) : s = t := by
  simp only [subscriptionIndexes, Bool.and_eq_true] at h
  exact Table.eq_of_uniqueOn h.1.1 hs ht (congrArg some hid) rfl

/-- A failure of a billed subscription meets the constraints. -/
theorem Subscription.checks_withFailure {s : Subscription} {now : Timestamp}
    {d : RenewalFailureDisposition} (h : s.checks = true) (hbilled : s.status.isBilled = true)
    (hnow : s.createdAt ≤ now) (hretry : ∀ t, d = .retryScheduled t → s.nextRenewalAt ≤ t) :
    (s.withFailure now d.projection).checks = true := by
  simp only [Subscription.checks, Bool.and_eq_true, decide_eq_true_eq] at h
  obtain ⟨⟨⟨hperiod, hend⟩, -⟩, -⟩ := h
  have hcanceled : s.canceledAt = none := by
    simp only [Subscription.endStateCheck, decide_eq_true_eq] at hend
    by_contra hne
    rw [hend.1.mpr hne] at hbilled
    simp [SubscriptionStatus.isBilled] at hbilled
  have hperiod' : (s.withFailure now d.projection).periodCheck = true := hperiod
  simp only [Subscription.checks, Bool.and_eq_true, decide_eq_true_eq]
  refine ⟨⟨⟨hperiod', ?_⟩, ?_⟩, hnow⟩
  · cases d <;> simp [Subscription.endStateCheck, Subscription.withFailure,
      RenewalFailureDisposition.projection, hcanceled]
  · cases d with
    | retryScheduled t =>
      have hle : s.nextRenewalAt ≤ t := hretry t rfl
      exact decide_eq_true hle
    | remainPastDue t => rfl
    | markUnpaid t => rfl

/-- A transition from the columns of a billed subscription is stored. -/
theorem persistRenewalFailureTransition_eq_ok {subscriptions : List Subscription} {now : Timestamp}
    (transition : RenewalFailureTransition) {s : Subscription}
    (hchecks : ∀ t ∈ subscriptions, t.checks = true)
    (hindexes : subscriptionIndexes subscriptions = true) (hs : s ∈ subscriptions)
    (hbefore : transition.before = s.failureProjection) (hbilled : s.status.isBilled = true)
    (hafter : (s.withFailure now transition.after).checks = true) :
    ∃ subscriptions', persistRenewalFailureTransition now s.id transition subscriptions =
        .ok subscriptions' ∧
      subscriptions' =
        Table.updateWhere (·.id = s.id) (·.withFailure now transition.after) subscriptions ∧
      (∀ t ∈ subscriptions', t.checks = true) ∧ subscriptionIndexes subscriptions' = true := by
  -- The predicate of the update is that of the id, which is unique.
  have hmatched : ∀ t ∈ subscriptions,
      (decide (t.id = s.id ∧ t.failureProjection = transition.before)) = decide (t.id = s.id) := by
    intro t ht
    rw [decide_eq_decide]
    refine ⟨And.left, fun hid => ⟨hid, ?_⟩⟩
    rw [eq_of_subscriptionIndexes hindexes ht hs hid, hbefore]
  have hrows : Table.updateWhere
      (fun t => decide (t.id = s.id ∧ t.failureProjection = transition.before))
      (·.withFailure now transition.after) subscriptions =
      Table.updateWhere (·.id = s.id) (·.withFailure now transition.after) subscriptions := by
    refine List.map_congr_left fun t ht => ?_
    simp only [hmatched t ht]
  have hcount : Table.rowsAffected
      (fun t => decide (t.id = s.id ∧ t.failureProjection = transition.before))
          subscriptions = 1 := by
    have hid := hindexes
    simp only [subscriptionIndexes, Bool.and_eq_true] at hid
    exact Table.rowsAffected_eq_one hid.1.1 hs (by simp [hbefore]) fun t _ ht =>
      (of_decide_eq_true ht).1
  have hchecks' : ∀ t ∈ Table.updateWhere (·.id = s.id) (·.withFailure now transition.after)
      subscriptions, t.checks = true := by
    intro t ht
    obtain ⟨t₀, ht₀, rfl⟩ := Table.mem_updateWhere.mp ht
    split_ifs with hid
    · rw [eq_of_subscriptionIndexes hindexes ht₀ hs (of_decide_eq_true hid)]
      exact hafter
    · exact hchecks t₀ ht₀
  have hindexes' : subscriptionIndexes
      (Table.updateWhere (·.id = s.id) (·.withFailure now transition.after) subscriptions) =
          true := by
    have hindexes₀ := hindexes
    simp only [subscriptionIndexes, Bool.and_eq_true] at hindexes ⊢
    refine ⟨⟨Table.uniqueOn_updateWhere (fun t _ _ => .inl rfl) hindexes.1.1, ?_⟩,
      Table.uniqueOn_updateWhere (fun t _ _ => .inl rfl) hindexes.2⟩
    refine Table.uniqueOn_updateWhere (fun t ht hid => ?_) hindexes.1.2
    rw [eq_of_subscriptionIndexes hindexes₀ ht hs (of_decide_eq_true hid)]
    unfold Subscription.currentOwnerPlanKey
    rw [if_pos hbilled]
    split_ifs
    · exact .inl rfl
    · exact .inr rfl
  refine ⟨_, ?_, rfl, hchecks', hindexes'⟩
  have hall : (Table.updateWhere (·.id = s.id) (·.withFailure now transition.after)
      subscriptions).all Subscription.checks = true := List.all_eq_true.mpr hchecks'
  simp only [persistRenewalFailureTransition, hcount, if_true]
  rw [hrows]
  simp [storeSubscriptions, hall, hindexes']

/-- The projection of an active subscription. -/
theorem Subscription.failureProjection_of_active {s : Subscription} (h : s.checks = true)
    (hactive : s.status = .active) :
    s.failureProjection = ⟨.active, some s.nextRenewalAt, none⟩ := by
  simp only [Subscription.checks, Bool.and_eq_true] at h
  obtain ⟨⟨⟨-, hend⟩, hschedule⟩, -⟩ := h
  have hunpaid : s.unpaidAt = none := by
    simp only [Subscription.endStateCheck, decide_eq_true_eq] at hend
    by_contra hne
    have := hend.2.mpr hne
    simp [hactive] at this
  simp only [Subscription.paymentScheduleCheck, hactive, decide_eq_true_eq] at hschedule
  simp [Subscription.failureProjection, hactive, hunpaid, hschedule]

/-- No payment is scheduled before the period starts. -/
theorem Subscription.nextRenewalAt_le {s : Subscription} {t : Timestamp} (h : s.checks = true)
    (ht : s.nextPaymentAttemptAt = some t) : s.nextRenewalAt ≤ t := by
  simp only [Subscription.checks, Bool.and_eq_true] at h
  have hschedule := h.1.2
  unfold Subscription.paymentScheduleCheck at hschedule
  rw [ht] at hschedule
  cases hstatus : s.status with
  | active =>
    simp only [hstatus, decide_eq_true_eq, Option.some.injEq] at hschedule
    exact le_of_eq hschedule.symm
  | pastDue =>
    rw [hstatus] at hschedule
    exact of_decide_eq_true hschedule
  | canceled => simp [hstatus] at hschedule
  | unpaid => simp [hstatus] at hschedule

/-- What a payment that is still scheduled says about the failures so far: there is none, or the
latest left a retry. -/
theorem dunningProjection_of_scheduled {s₀ : Subscription} {p : FailureProjection}
    {failures : List ResolvedAutomaticRenewalFailure} (hfirst : s₀.checks = true)
    (hactive : s₀.status = .active) (h : dunningProjection s₀ failures p)
    (hscheduled : p.nextPaymentAttemptAt ≠ none) :
    p.unpaidAt = none ∧
      (∀ f, failures.getLast? = some f → p.status = .pastDue ∧
        ∃ t, renewalFailureDisposition s₀.renewalFailure failures.length f.resolvedAt =
          .ok (.retryScheduled t)) ∧
      (failures.getLast? = none → p = ⟨.active, some s₀.nextRenewalAt, none⟩) := by
  unfold dunningProjection at h
  split at h
  · rename_i hlast
    rw [Subscription.failureProjection_of_active hfirst hactive] at h
    exact ⟨by rw [h], fun f hf => by simp [hlast] at hf, fun _ => h⟩
  · rename_i latest hlast
    obtain ⟨d, hd, rfl⟩ := h
    cases d with
    | retryScheduled t =>
      refine ⟨rfl, fun f hf => ⟨rfl, t, ?_⟩, fun hn => by simp [hlast] at hn⟩
      rw [hlast, Option.some.injEq] at hf
      rw [← hf]
      exact hd
    | remainPastDue t => exact absurd rfl hscheduled
    | markUnpaid t => exact absurd rfl hscheduled

/-- The payment that a failure was admitted for was due by then, so its projection is a new one. -/
theorem RenewalFailureDisposition.projection_ne {policy : RenewalFailurePolicy} {k : ℕ}
    {now t : Timestamp} {d : RenewalFailureDisposition} {p : FailureProjection}
    (hd : renewalFailureDisposition policy (k + 1) now = .ok d)
    (hp : p.nextPaymentAttemptAt = some t) (ht : t ≤ now) : p ≠ d.projection := by
  rintro rfl
  rcases renewalFailureDisposition_cases hd with ⟨delay, -, hpos, rfl⟩ | ⟨-, rfl⟩
  · have heq : now + seconds delay = t := by
      simpa [RenewalFailureDisposition.projection] using hp
    have hlt := lt_add_seconds hpos now
    rw [heq] at hlt
    exact absurd ht (not_le.mpr hlt)
  · rw [(policy.exhaustion.projection_disposition now).1] at hp
    simp at hp

/-- A scheduled payment that was due at the submission is a valid state before the latest
failure. -/
theorem beforeIsValid_historyOf {history : PastDueCausalHistory} {p : FailureProjection}
    {earlier : List ResolvedAutomaticRenewalFailure} {latest : ResolvedAutomaticRenewalFailure}
    {t nextRenewalAt : Timestamp} (hhistory : history.automatic = historyOf earlier latest)
    (hunpaid : p.unpaidAt = none) (hdue : p.nextPaymentAttemptAt.any (· ≤ t) = true)
    (hrepeated : ∀ f, earlier.getLast? = some f → p.status = .pastDue)
    (hfirst : earlier.getLast? = none →
      p.status = .active ∧ p.nextPaymentAttemptAt = some nextRenewalAt) :
    beforeIsValid t nextRenewalAt p history = true := by
  unfold beforeIsValid
  rw [hhistory]
  cases hlast : earlier.getLast? with
  | none =>
    simp only [historyOf, hlast]
    exact decide_eq_true ⟨.inl (hfirst hlast).1, (hfirst hlast).2, hdue, hunpaid⟩
  | some previous =>
    simp only [historyOf, hlast]
    exact decide_eq_true ⟨hrepeated previous hlast, hdue, hunpaid⟩

/-- What the application of the next failure returns. -/
def appliedFailure (now : Timestamp) (s : Subscription) (count : ℕ)
    (subscriptions : List Subscription)
    (result : Except StoreError (List Subscription × RenewalFailureApplication)) : Prop :=
  match renewalFailureDisposition s.renewalFailure count now with
  | .error _ => result = .error invalidRenewalFailureState
  | .ok d =>
    ∃ events, result = .ok
      (Table.updateWhere (·.id = s.id) (·.withFailure now d.projection) subscriptions,
        .applied d events)

/-! ## The writers -/

/-- Whether a writer is followed by the application of the failure. An outcome is, when it is
`Declined` or `Failed` without a code; a manual failure is, when the renewal was submitted. -/
def AttemptWriter.marksRenewalPastDue (w : AttemptWriter) (a : PaymentAttempt) : Bool :=
  (a.kind = .subscriptionRenewal && a.resolutionCode = none) &&
    match w with
    | .persist _ (.resolved .declined none) | .persist _ (.resolved .failed none) => true
    | .manualFailure _ => a.submittedAt.isSome
    | _ => false

section Writers

variable {now : Timestamp} {w : AttemptWriter} {a a' : PaymentAttempt}

/-- What an update stores, but for the time of a review. -/
theorem requireOneRow_update_eq_ok {m : Bool} {new : PaymentAttempt}
    (h : requireOneRow (PaymentAttempt.update now m new) = .ok a') :
    m = true ∧ ∃ r, a' = { new with reviewRequiredAt := r } := by
  obtain ⟨hm, -, hr⟩ := PaymentAttempt.update_eq_some (requireOneRow_eq_ok h)
  exact ⟨hm, hr⟩

/-- A writer that is followed by the application has failed an open renewal, now. -/
theorem AttemptWriter.write_of_marksRenewalPastDue (h : w.write now a = .ok a')
    (hm : w.marksRenewalPastDue a' = true) :
    a.status.isResolvable = true ∧ (a'.status = .declined ∨ a'.status = .failed) ∧
      a'.resolutionCode = none ∧ a'.kind = .subscriptionRenewal ∧
      a'.submittedAt = a.submittedAt ∧ a'.resolvedAt = some now ∧
      a'.subscriptionId = a.subscriptionId := by
  simp only [AttemptWriter.marksRenewalPastDue, Bool.and_eq_true, decide_eq_true_eq] at hm
  obtain ⟨⟨hkind, hcode⟩, hw⟩ := hm
  split at hw
  · obtain ⟨hopen, r, rfl⟩ := requireOneRow_update_eq_ok h
    exact ⟨hopen, .inl rfl, hcode, hkind, rfl, rfl, rfl⟩
  · obtain ⟨hopen, r, rfl⟩ := requireOneRow_update_eq_ok h
    exact ⟨hopen, .inr rfl, hcode, hkind, rfl, rfl, rfl⟩
  · obtain ⟨hreview, r, rfl⟩ := requireOneRow_update_eq_ok h
    have hstatus : a.status = .reviewRequired := of_decide_eq_true hreview
    exact ⟨by rw [hstatus]; rfl, .inr rfl, hcode, hkind, rfl, rfl, rfl⟩
  · simp at hw

/-- An expiry does not leave a submitted attempt behind. -/
theorem submittedAt_of_expiry {k : Bool} {text : Option String}
    {code : Option PaymentResolutionCode} {resolvedAt : Option Timestamp}
    (h : orUnchanged a (PaymentAttempt.update now (k && a.isStaleUnsubmitted now)
      (a.expired now text code resolvedAt)) = .ok a') : a' = a ∨ a'.submittedAt = none := by
  refine (orUnchanged_eq_ok h).imp_right fun hu => ?_
  obtain ⟨hm, -, r, rfl⟩ := PaymentAttempt.update_eq_some hu
  rw [Bool.and_eq_true] at hm
  show a.submittedAt = none
  exact PaymentAttempt.submittedAt_of_isStaleUnsubmitted hm.2

/-- Only a method update is failed by an exact query. -/
theorem exactQueryDecision_fail {o : ExactQueryObservation} {message : String}
    (h : exactQueryDecision now o a = some (.fail message)) :
    a.kind = .subscriptionPaymentMethodUpdate := by
  unfold exactQueryDecision at h
  split at h
  · simp at h
  · cases o with
    | noTransaction =>
      dsimp only at h
      split_ifs at h with h₁ h₂
      · simp at h
      · exact h₂.2.1
      · simp at h
      · simp at h
    | malformedResponse =>
      dsimp only at h
      split_ifs at h
      simp at h

/-- Only a writer that is followed by the application makes an open attempt a failure. -/
theorem AttemptWriter.marksRenewalPastDue_of_isAutomaticFailure {subscriptionId : Id}
    {periodStartAt : Timestamp} (h : w.write now a = .ok a') (hopen : a.status.isResolvable = true)
    (hf : a'.isAutomaticFailure subscriptionId periodStartAt = true) :
    w.marksRenewalPastDue a' = true := by
  obtain ⟨-, -, hkind, hsub, hstatus, hcode⟩ := PaymentAttempt.isAutomaticFailure_iff.mp hf
  have hended : a'.status.isResolvable = false := by
    rcases hstatus with hs | hs <;> rw [hs] <;> rfl
  -- A writer that keeps the status, or takes the submission away, leaves no failure behind.
  have hsame {P : Prop} (hs : a'.status = a.status) : P := by
    rw [hs, hopen] at hended
    simp at hended
  have hexpiry {P : Prop} (hx : a' = a ∨ a'.submittedAt = none) : P := by
    rcases hx with hx | hx
    · exact hsame (congrArg PaymentAttempt.status hx)
    · exact absurd hx hsub
  cases w with
  | persist e t =>
    obtain ⟨-, r, hr⟩ := requireOneRow_update_eq_ok h
    match t with
    | .approved .hostCharge => simp [hr, AttemptTransition.row, PaymentAttempt.record] at hstatus
    | .approved (.subscription ..) =>
      simp [hr, AttemptTransition.row, PaymentAttempt.record] at hstatus
    | .lateApprovalReview .. => simp [hr, AttemptTransition.row] at hstatus
    | .resolved s c =>
      obtain rfl : c = none := by
        simpa [hr, AttemptTransition.row, PaymentAttempt.record] using hcode
      cases s with
      | declined => simp [AttemptWriter.marksRenewalPastDue, hkind, hcode]
      | failed => simp [AttemptWriter.marksRenewalPastDue, hkind, hcode]
      | unknown => simp [hr, AttemptTransition.row, PaymentAttempt.record,
          AttemptResolutionStatus.paymentStatus] at hstatus
      | reviewRequired => simp [hr, AttemptTransition.row, PaymentAttempt.record,
          AttemptResolutionStatus.paymentStatus] at hstatus
  | admitPrepared =>
    obtain ⟨-, r, rfl⟩ := requireOneRow_update_eq_ok h
    exact hsame rfl
  | reject c m =>
    rcases orUnchanged_eq_ok h with rfl | hu
    · exact hsame rfl
    · obtain ⟨-, -, r, rfl⟩ := PaymentAttempt.update_eq_some hu
      simp at hcode
  | rejectInitial m =>
    obtain ⟨hm, r, rfl⟩ := requireOneRow_update_eq_ok h
    exact absurd (of_decide_eq_true hm).2 hsub
  | restore =>
    obtain ⟨-, r, rfl⟩ := requireOneRow_update_eq_ok h
    exact hsame rfl
  | resolveNotSubmitted e s c =>
    obtain ⟨b, -, hclear⟩ := bind_eq_ok.mp h
    obtain ⟨-, r, rfl⟩ := requireOneRow_update_eq_ok hclear
    exact absurd rfl hsub
  | expireSubscriptionCharge => exact hexpiry (submittedAt_of_expiry h)
  | expirePaymentMethodUpdate keep => exact hexpiry (submittedAt_of_expiry h)
  | expireInitial => exact hexpiry (submittedAt_of_expiry h)
  | expireHostCharge => exact hexpiry (submittedAt_of_expiry h)
  | observe o =>
    have hsame' : a'.kind = a.kind := by
      rcases AttemptWriter.write_stores h with heq | hs
      · rw [heq]
      · exact hs.same.kind
    replace h : applyExactQueryObservation now o a = .ok a' := h
    unfold applyExactQueryObservation at h
    split at h
    · exact hsame (by rw [Except.ok.inj h])
    · -- Only a method update is failed by an observation.
      rename_i hd
      rw [exactQueryDecision_fail hd] at hsame'
      simp [hsame'] at hkind
    · rcases orUnchanged_eq_ok h with rfl | hu
      · exact hsame rfl
      · obtain ⟨-, -, r, rfl⟩ := PaymentAttempt.update_eq_some hu
        simp at hstatus
    · rcases orUnchanged_eq_ok h with rfl | hu
      · exact hsame rfl
      · obtain ⟨-, -, r, rfl⟩ := PaymentAttempt.update_eq_some hu
        exact hsame rfl
  | claim =>
    rcases orUnchanged_eq_ok h with rfl | hu
    · exact hsame rfl
    · obtain ⟨-, -, r, rfl⟩ := PaymentAttempt.update_eq_some hu
      exact hsame rfl
  | manualFailure e =>
    simp [AttemptWriter.marksRenewalPastDue, hkind, hcode, Option.isSome_iff_ne_none, hsub]
  | attest c =>
    replace h : failReversedAttempt now c a = .ok a' := h
    unfold failReversedAttempt at h
    split_ifs at h with hterminal
    · exact hsame (by rw [Except.ok.inj h])
    · obtain ⟨-, r, rfl⟩ := requireOneRow_update_eq_ok h
      simp at hcode

end Writers

end SyrupRail
