import SyrupRail.Dunning.Decision
import SyrupRail.Reservation

/-!
# Dunning follows the policy

A run of one billing period: attempts are reserved, admitted when the subscription is due, and ended
by any of the writers, and a renewal that fails determinately is projected onto the subscription in
the same transaction. `DunningInvariant` relates the subscription to the failures of the period,
which are in no column of it: after `i` failures its projection is that of step `i` of the policy.
The proof takes the application apart once, in `applyResolved_of_failure`, and every statement about
a step is read off it.
-/

namespace SyrupRail

open Transactions

/-! ## The system of one period -/

/-- The tables that a period's renewals read and write, and the clock. -/
structure DunningStore where
  clock : Timestamp
  subscriptions : List Subscription
  attempts : List PaymentAttempt
  deriving DecidableEq, Repr

/-- The steps of a period. -/
inductive DunningStep
  /-- A reservation of any kind inserts its attempt. -/
  | insert (n : NewAttempt)
  /-- The admission of a renewal. -/
  | admitPrepared (r : SubscriptionChargeReservation)
  /-- A writer on an attempt; a renewal that it fails determinately is applied. -/
  | write (attemptId : Id) (w : AttemptWriter)
  /-- A failure that is applied once more. -/
  | reapply (attemptId : Id)

/-- What a step has done. -/
inductive DunningOutcome
  | unchanged
  | stored
  | applied (application : RenewalFailureApplication)
  deriving DecidableEq, Repr

/-- A writer and, in the same transaction, the application of the failure that it leaves. -/
def DunningStore.settle (now : Timestamp) (attemptId : Id) (w : AttemptWriter) (σ : DunningStore) :
    Except StoreError (DunningStore × DunningOutcome) := do
  let attempts ← writeAttempt now invalidApplicationState attemptId w σ.attempts
  match Table.findBy PaymentAttempt.id attemptId attempts with
  | none => .error invalidApplicationState
  | some a =>
    if w.marksRenewalPastDue a then do
      let (subscriptions, application) ←
        applyResolvedAutomaticRenewalFailure now attempts a σ.subscriptions
      .ok ({ σ with subscriptions, attempts }, .applied application)
    else .ok ({ σ with attempts }, .stored)

/-- The admission of a renewal: the prepared attempt of the reservation, and the subscription that
is due and as the reservation expects it. The further conditions of the admission only refuse more,
and a refusal is the writer `reject`. -/
def DunningStore.admitPrepared (now : Timestamp) (r : SubscriptionChargeReservation)
    (σ : DunningStore) : Except StoreError (DunningStore × DunningOutcome) :=
  match Table.findBy PaymentAttempt.id r.identity.attemptId σ.attempts,
    σ.subscriptions.find? r.locates with
  | some a, some s =>
    if r.owns a ∧ a.isPrepared ∧ r.requestMatches a ∧ r.renewalSubscriptionStateMatches now s then
      (writeAttempt now invalidAttemptState a.id .admitPrepared σ.attempts).map
        fun attempts => ({ σ with attempts }, .stored)
    else .ok (σ, .unchanged)
  | _, _ => .ok (σ, .unchanged)

/-- One step at the time `now`. -/
def DunningStore.step (now : Timestamp) (σ : DunningStore) :
    DunningStep → Except StoreError (DunningStore × DunningOutcome)
  | .insert n =>
    let (attempts, inserted) := insertAttempt { n with createdAt := now } σ.attempts
    .ok ({ σ with attempts }, if inserted then .stored else .unchanged)
  | .admitPrepared r => σ.admitPrepared now r
  | .write attemptId w => σ.settle now attemptId w
  | .reapply attemptId =>
    match Table.findBy PaymentAttempt.id attemptId σ.attempts with
    | none => .ok (σ, .unchanged)
    | some a => do
      let (subscriptions, application) ←
        applyResolvedAutomaticRenewalFailure now σ.attempts a σ.subscriptions
      .ok ({ σ with subscriptions }, .applied application)

/-- The store after a step that starts `elapsed` microseconds after the previous one; a step that
fails leaves the tables as they were. -/
def execDunning (σ : DunningStore) (step : ℕ × DunningStep) : DunningStore :=
  { commit (DunningStore.step (σ.clock + step.1)) σ step.2 with clock := σ.clock + step.1 }

/-- The steps of a run in which the renewals of the subscription's period fail one after another. A
renewal of the subscription is reserved for the subscription as it is, is admitted by an admission,
and is not reopened once it has ended; no attempt for a subscription is approved. A failure that is
applied is one of a submitted renewal, later than the failures before it, and one that is applied
again is in the table. -/
def DunningStep.Legal (s₀ : Subscription) (σ : DunningStore) (step : ℕ × DunningStep) : Prop :=
  let now := σ.clock + step.1
  match step.2 with
  | .insert n =>
    n.target.subscriptionId = some s₀.id → n.target.kind = .subscriptionRenewal →
      n.billingScopeId = s₀.billingScopeId ∧ n.subscriberId = s₀.subscriberId ∧
        n.target.planKey = some s₀.planKey ∧
        n.target.period.map (·.startAt) = some s₀.nextRenewalAt
  | .admitPrepared r => r.kind = .renewal
  | .write attemptId w =>
    ∀ a ∈ σ.attempts, a.id = attemptId →
      (a.kind ≠ .hostCharge → w.approves = false) ∧
      (a.kind = .subscriptionRenewal → w ≠ .admitPrepared ∧
        ((∃ e c m, w = .persist e (.lateApprovalReview c m)) → a.status.isResolvable = true) ∧
        ∀ a', w.write now a = .ok a' → w.marksRenewalPastDue a' = true →
          a.subscriptionId = some s₀.id ∧ a.submittedAt ≠ none ∧
            ∀ f ∈ automaticFailures s₀.id s₀.nextRenewalAt σ.attempts,
              failureOrder f { attemptId, resolvedAt := now })
  | .reapply attemptId =>
    ∃ a ∈ σ.attempts, a.id = attemptId ∧ a.isAutomaticFailure s₀.id s₀.nextRenewalAt = true

/-! ## The invariant -/

/-- The tables of a period with the failures `failures`. The subscription is the first one, `s₀`,
but for the columns of the failure projection. -/
structure DunningTables (s₀ : Subscription) (failures : List ResolvedAutomaticRenewalFailure)
    (s : Subscription) (σ : DunningStore) : Prop where
  attemptIndexes : attemptIndexes σ.attempts = true
  stored : ∀ a ∈ σ.attempts, a.Stored
  subscriptionChecks : ∀ t ∈ σ.subscriptions, t.checks = true
  subscriptionIndexes : subscriptionIndexes σ.subscriptions = true
  mem : s ∈ σ.subscriptions
  active : s₀.status = .active
  first : s₀.checks = true
  frame : ∃ t p, s = s₀.withFailure t p
  reserved : ∀ a ∈ σ.attempts, a.subscriptionId = some s₀.id → a.kind = .subscriptionRenewal →
    a.status.isResolvable = true ∨ a.periodStartAt = some s₀.nextRenewalAt →
    a.billingScopeId = s₀.billingScopeId ∧ a.subscriberId = s₀.subscriberId ∧
      a.target.planKey = some s₀.planKey ∧ a.periodStartAt = some s₀.nextRenewalAt ∧
      a.subscriptionId = a.target.subscriptionId
  perm : (automaticFailures s₀.id s₀.nextRenewalAt σ.attempts).Perm failures
  sorted : failures.Pairwise failureOrder
  retried : Retried s₀.renewalFailure failures
  createdAt_le : s₀.createdAt ≤ σ.clock

/-- The state of a period after its failures have been applied. -/
structure DunningInvariant (s₀ : Subscription) (failures : List ResolvedAutomaticRenewalFailure)
    (s : Subscription) (σ : DunningStore) : Prop extends DunningTables s₀ failures s σ where
  projection : dunningProjection s₀ failures s.failureProjection
  due : ∀ a ∈ σ.attempts, a.subscriptionId = some s₀.id → a.kind = .subscriptionRenewal →
    a.status.isResolvable = true → ∀ t, a.submittedAt = some t →
      t ≤ σ.clock ∧ s.nextPaymentAttemptAt.any (· ≤ t) = true

/-- The start of a period: an active subscription, whose payment is next due at the start of the
period, and whose renewals in the table have ended and are of other periods. -/
structure DunningStart (s₀ : Subscription) (σ : DunningStore) : Prop where
  attemptIndexes : attemptIndexes σ.attempts = true
  stored : ∀ a ∈ σ.attempts, a.Stored
  subscriptionChecks : ∀ t ∈ σ.subscriptions, t.checks = true
  subscriptionIndexes : subscriptionIndexes σ.subscriptions = true
  mem : s₀ ∈ σ.subscriptions
  active : s₀.status = .active
  fresh : ∀ a ∈ σ.attempts, a.subscriptionId = some s₀.id → a.kind = .subscriptionRenewal →
    a.status.isResolvable = false ∧ a.periodStartAt ≠ some s₀.nextRenewalAt
  createdAt_le : s₀.createdAt ≤ σ.clock

/-! ## The application -/

/-- The columns that no failure changes. -/
theorem DunningTables.frame_columns {s₀ s : Subscription} {σ : DunningStore}
    {failures : List ResolvedAutomaticRenewalFailure} (h : DunningTables s₀ failures s σ) :
    s.id = s₀.id ∧ s.billingScopeId = s₀.billingScopeId ∧ s.subscriberId = s₀.subscriberId ∧
      s.planKey = s₀.planKey ∧ s.nextRenewalAt = s₀.nextRenewalAt ∧
      s.renewalFailure = s₀.renewalFailure ∧ s.createdAt = s₀.createdAt := by
  obtain ⟨t, p, rfl⟩ := h.frame
  exact ⟨rfl, rfl, rfl, rfl, rfl, rfl, rfl⟩

/-- The application of a failure of the period is the decision about the subscription as it is and
the history of the period. -/
theorem DunningTables.applyResolved_eq {s₀ s : Subscription} {σ : DunningStore}
    {earlier : List ResolvedAutomaticRenewalFailure} {latest : ResolvedAutomaticRenewalFailure}
    (h : DunningTables s₀ (earlier ++ [latest]) s σ) {a : PaymentAttempt} (ha : a ∈ σ.attempts)
    (hf : a.isAutomaticFailure s₀.id s₀.nextRenewalAt = true) (now : Timestamp) :
    ∃ v history, v.attemptId = a.id ∧ v.periodStartAt = s.nextRenewalAt ∧
      some v.submittedAt = a.submittedAt ∧ some v.resolvedAt = a.resolvedAt ∧
      history.automatic = historyOf earlier latest ∧
      applyResolvedAutomaticRenewalFailure now σ.attempts a σ.subscriptions =
        decideRenewalFailure v s history >>= fun
          | .noop => .ok (σ.subscriptions, .noop)
          | .apply transition =>
            (persistRenewalFailureTransition now s.id transition σ.subscriptions).map
              fun subscriptions =>
                (subscriptions, .applied transition.disposition transition.events) := by
  obtain ⟨hid, hscope, hsubscriber, hplan, hnext, -, -⟩ := h.frame_columns
  obtain ⟨hsub, hstart, hkind, -, -, -⟩ := PaymentAttempt.isAutomaticFailure_iff.mp hf
  obtain ⟨hascope, hasubscriber, haplan, -, htarget⟩ := h.reserved a ha hsub hkind (.inr hstart)
  obtain ⟨v, hv, hvid, hvscope, hvsubscriber, hvsub, hvplan, hvstart, hvsubmitted, hvresolved⟩ :=
    validateResolvedRenewalAttempt_eq_ok hf (h.stored a ha) htarget
  have hlen : earlier.length < maxFailureCount := by
    have hle := h.retried.length_le
    have hsteps := s₀.renewalFailure.length_le
    rw [List.length_append, List.length_singleton] at hle
    unfold maxDunningRetrySteps at hsteps
    unfold maxFailureCount
    omega
  obtain ⟨legacy, hhistory⟩ := pastDueCausalHistory_eq_ok h.stored h.perm h.sorted hlen
  have hlocks : v.locks s = true := by
    have hvplan' : v.planKey = s₀.planKey := Option.some.inj (hvplan.trans haplan)
    simp [ValidatedRenewalFailureAttempt.locks, hvsub, hvscope, hvsubscriber, hvplan', hid, hscope,
      hsubscriber, hplan, hascope, hasubscriber]
  have hfind : σ.subscriptions.find? v.locks = some s := by
    refine Table.find?_eq_some_of_unique h.mem hlocks fun t ht hp => ?_
    refine eq_of_subscriptionIndexes h.subscriptionIndexes ht h.mem ?_
    rw [(of_decide_eq_true hp).1, hvsub, hid]
  have hdurable : findPaymentAttemptById σ.attempts v.billingScopeId v.attemptId =
      .ok (some a) := by
    rw [hvscope, hvid]
    exact findPaymentAttemptById_eq h.attemptIndexes ha (h.stored a ha)
  refine ⟨v, ⟨historyOf earlier latest, legacy⟩, hvid, hvstart.trans hnext.symm, hvsubmitted,
    hvresolved, rfl, ?_⟩
  unfold applyResolvedAutomaticRenewalFailure
  simp only [hv, hdurable, hfind, bind, Except.bind, ne_eq, not_true_eq_false, if_false]
  rewrite [hvsub, hnext, hhistory, ← hid]
  rfl

/-- The application of the next failure of a period: the disposition of its step, unless the time of
the retry is beyond what chrono can represent. -/
theorem DunningTables.applyResolved_of_failure {s₀ s : Subscription} {σ : DunningStore}
    {failures : List ResolvedAutomaticRenewalFailure} {a : PaymentAttempt} {now t : Timestamp}
    (h : DunningTables s₀ (failures ++ [⟨a.id, now⟩]) s σ)
    (hprojection : dunningProjection s₀ failures s.failureProjection) (ha : a ∈ σ.attempts)
    (hf : a.isAutomaticFailure s₀.id s₀.nextRenewalAt = true) (hresolved : a.resolvedAt = some now)
    (hsubmitted : a.submittedAt = some t) (ht : t ≤ now) (hnow : s₀.createdAt ≤ now)
    (hdue : s.nextPaymentAttemptAt.any (· ≤ t) = true) :
    appliedFailure now s (failures.length + 1) σ.subscriptions
        (applyResolvedAutomaticRenewalFailure now σ.attempts a σ.subscriptions) ∧
      ∀ d, renewalFailureDisposition s.renewalFailure (failures.length + 1) now = .ok d →
        (∀ r ∈ Table.updateWhere (·.id = s.id) (·.withFailure now d.projection) σ.subscriptions,
          r.checks = true) ∧
        SyrupRail.subscriptionIndexes
          (Table.updateWhere (·.id = s.id) (·.withFailure now d.projection) σ.subscriptions) =
            true := by
  obtain ⟨v, history, hvid, hvstart, hvsubmitted, hvresolved, hhistory, happly⟩ :=
    h.applyResolved_eq ha hf now
  obtain ⟨hid, -, -, -, hnext, hpolicy, hcreated⟩ := h.frame_columns
  rw [hresolved, Option.some.injEq] at hvresolved
  rw [hsubmitted, Option.some.injEq] at hvsubmitted
  have hdecide := decideRenewalFailure_eq hvstart.symm hhistory hvid.symm hvresolved.symm
    (by rw [hpolicy]; exact h.retried)
  rw [happly, hdecide]
  unfold appliedFailure
  cases hd : renewalFailureDisposition s.renewalFailure (failures.length + 1) now with
  | error e => exact ⟨rfl, nofun⟩
  | ok d =>
    -- The payment was due when the renewal was submitted.
    obtain ⟨u, hu, hut⟩ : ∃ u, s.nextPaymentAttemptAt = some u ∧ u ≤ t := by
      simpa [Option.any_eq_true] using hdue
    have hne : s.failureProjection ≠ d.projection :=
      RenewalFailureDisposition.projection_ne hd hu (le_trans hut ht)
    obtain ⟨hunpaid, hrepeated, hfirst⟩ :=
      dunningProjection_of_scheduled h.first h.active hprojection
        (by simp [Subscription.failureProjection, hu])
    have hbefore : beforeIsValid v.submittedAt s.nextRenewalAt s.failureProjection history =
        true := by
      refine beforeIsValid_historyOf hhistory hunpaid (hvsubmitted ▸ hdue)
        (fun f hlast => (hrepeated f hlast).1) fun hlast => ?_
      rw [hfirst hlast, hnext]
      exact ⟨rfl, rfl⟩
    obtain ⟨events, hevents⟩ := failureEvents_eq_ok v s.renewalFailure hhistory d
    have hbilled : s.status.isBilled = true := by
      show s.failureProjection.status.isBilled = true
      cases hlast : failures.getLast? with
      | none => rw [hfirst hlast]; rfl
      | some f => rw [(hrepeated f hlast).1]; rfl
    have hchecks : (s.withFailure now d.projection).checks = true := by
      refine Subscription.checks_withFailure (h.subscriptionChecks s h.mem) hbilled
        (hcreated ▸ hnow) ?_
      rintro retryAt rfl
      rcases renewalFailureDisposition_cases hd with ⟨delay, -, hpos, heq⟩ | ⟨-, heq⟩
      · obtain rfl : retryAt = now + seconds delay := by simpa using heq
        calc s.nextRenewalAt
            ≤ u := Subscription.nextRenewalAt_le (h.subscriptionChecks s h.mem) hu
          _ ≤ t := hut
          _ ≤ now := ht
          _ ≤ now + seconds delay := le_of_lt (lt_add_seconds hpos now)
      · cases hx : s.renewalFailure.exhaustion <;> simp [hx, DunningExhaustion.disposition] at heq
    obtain ⟨subscriptions', hpersist, rfl, hchecks', hindexes'⟩ :=
      persistRenewalFailureTransition_eq_ok ⟨s.failureProjection, d.projection, d, events⟩
      h.subscriptionChecks h.subscriptionIndexes h.mem rfl hbilled hchecks
    refine ⟨⟨events, ?_⟩, fun d' hd' => ?_⟩
    · simp only [if_neg hne, hbefore, hevents, Except.map, bind, Except.bind, hpersist,
        Bool.not_true, Bool.false_eq_true, if_false]
    · obtain rfl : d = d' := by simpa using hd'
      exact ⟨hchecks', hindexes'⟩

/-- A failure that has been applied has nothing left to do. -/
theorem DunningInvariant.applyResolved_again {s₀ s : Subscription} {σ : DunningStore}
    {failures : List ResolvedAutomaticRenewalFailure} {a : PaymentAttempt}
    (h : DunningInvariant s₀ failures s σ) (ha : a ∈ σ.attempts)
    (hf : a.isAutomaticFailure s₀.id s₀.nextRenewalAt = true) (now : Timestamp) :
    applyResolvedAutomaticRenewalFailure now σ.attempts a σ.subscriptions =
      .ok (σ.subscriptions, .noop) := by
  have hmem : a.failure ∈ failures := h.perm.mem_iff.mp (mem_automaticFailures.mpr ⟨a, ha, hf, rfl⟩)
  obtain ⟨earlier, latest, rfl⟩ :=
    (List.eq_nil_or_concat failures).resolve_left (List.ne_nil_of_mem hmem)
  rw [List.concat_eq_append] at h
  obtain ⟨v, history, hvid, hvstart, -, hvresolved, hhistory, happly⟩ :=
    h.toDunningTables.applyResolved_eq ha hf now
  obtain ⟨-, -, -, -, -, hpolicy, -⟩ := h.frame_columns
  have hnoop : decideRenewalFailure v s history = .ok .noop := by
    by_cases hid : latest.attemptId = v.attemptId
    · -- The latest failure is the row itself, whose projection the subscription has.
      obtain ⟨b, hb, hbf, rfl⟩ := mem_automaticFailures.mp
        (h.perm.mem_iff.mpr (List.mem_append_right earlier (List.mem_singleton_self latest)))
      obtain rfl : b = a := nodup_id_of_attemptIndexes h.attemptIndexes hb ha (hid.trans hvid)
      have htime : b.failure.resolvedAt = v.resolvedAt := by
        simp [PaymentAttempt.failure, ← hvresolved]
      have hprojection := h.projection
      unfold dunningProjection at hprojection
      rw [List.getLast?_concat, List.length_append, List.length_singleton, ← hpolicy] at hprojection
      obtain ⟨d, hd, hp⟩ := hprojection
      rw [decideRenewalFailure_eq hvstart.symm hhistory hid htime (hpolicy ▸ h.retried), hd]
      simp [hp]
    · exact decideRenewalFailure_of_earlier hvstart.symm hhistory hid
  rw [happly, hnoop]
  rfl

/-! ## One step -/

/-- What a legal writer does to a renewal: an open renewal that it leaves was open, and it stays
with its subscription. -/
structure KeepsRenewal (a a' : PaymentAttempt) : Prop where
  same : a.SameRequest a'
  subscriptionId : a'.subscriptionId = a.subscriptionId
  open_ : a'.status.isResolvable = true → a.status.isResolvable = true

/-- A writer that neither admits nor approves a renewal, nor reopens an ended one, keeps it, with
its submission or without one. -/
theorem AttemptWriter.keepsRenewal {now : Timestamp} {w : AttemptWriter} {a a' : PaymentAttempt}
    (h : w.write now a = .ok a') (hadmitted : w ≠ .admitPrepared) (happroves : w.approves = false)
    (hreopen : (∃ e c m, w = .persist e (.lateApprovalReview c m)) → a.status.isResolvable = true) :
    KeepsRenewal a a' ∧ (a'.submittedAt = a.submittedAt ∨ a'.submittedAt = none) := by
  rcases AttemptWriter.write_stores h with rfl | hs
  · exact ⟨⟨rfl, rfl, id⟩, .inl rfl⟩
  · have hlink : a.SameLinkage a' := by
      rcases hs.linkage with ⟨happ, -⟩ | hl
      · simp [happroves] at happ
      · exact hl
    cases hs.effect with
    | touch hstatus hsub _ _ =>
      exact ⟨⟨hs.same, hlink.subscriptionId, fun ho => hstatus ▸ ho⟩, .inl hsub⟩
    | resolve hopen _ hsub _ => exact ⟨⟨hs.same, hlink.subscriptionId, fun _ => hopen⟩, hsub⟩
    | reopen hw _ _ hsub => exact ⟨⟨hs.same, hlink.subscriptionId, fun _ => hreopen hw⟩, .inl hsub⟩
    | admitPrepared hw _ _ => exact absurd hw hadmitted
    | restore _ hp _ hsub =>
      exact ⟨⟨hs.same, hlink.subscriptionId, fun _ => by rw [hp.1]; rfl⟩, .inr hsub⟩

section Step

variable {s₀ s : Subscription} {failures failures' : List ResolvedAutomaticRenewalFailure}
  {σ : DunningStore} {now : Timestamp}

/-- The tables after a writer on one row. -/
theorem DunningTables.update (h : DunningTables s₀ failures s σ) {a a' : PaymentAttempt}
    (ha : a ∈ σ.attempts) {attempts' : List PaymentAttempt}
    (hrows : attempts' = Table.updateWhere (·.id = a.id) (fun _ => a') σ.attempts)
    (hindex : SyrupRail.attemptIndexes attempts' = true) (hstored : a'.Stored)
    (hkeeps : a.kind = .subscriptionRenewal → KeepsRenewal a a') (hkind : a'.kind = a.kind)
    (hperm : (automaticFailures s₀.id s₀.nextRenewalAt attempts').Perm failures')
    (hsorted : failures'.Pairwise failureOrder) (hretried : Retried s₀.renewalFailure failures')
    (hclock : σ.clock ≤ now) :
    DunningTables s₀ failures' s { σ with clock := now, attempts := attempts' } := by
  have hcases : ∀ b ∈ attempts', b ∈ σ.attempts ∨ b = a' := by
    intro b hb
    rw [hrows] at hb
    exact (Table.mem_replaceBy hb).imp_left And.left
  refine { h with
    attemptIndexes := hindex
    stored := fun b hb => ?_
    reserved := fun b hb hsub hkb hb' => ?_
    perm := hperm
    sorted := hsorted
    retried := hretried
    createdAt_le := le_trans h.createdAt_le hclock }
  · rcases hcases b hb with hb | rfl
    · exact h.stored b hb
    · exact hstored
  · rcases hcases b hb with hb | rfl
    · exact h.reserved b hb hsub hkb hb'
    · have hk := hkeeps (hkind ▸ hkb)
      have htarget := hk.same.target
      have hscope : b.billingScopeId = a.billingScopeId :=
        congrArg AttemptRequest.billingScopeId hk.same
      have hsubscriber : b.subscriberId = a.subscriberId :=
        congrArg AttemptRequest.subscriberId hk.same
      have hstart : b.periodStartAt = a.periodStartAt := by
        unfold PaymentAttempt.periodStartAt
        rw [htarget]
      rw [hscope, hsubscriber, htarget, hstart, hk.subscriptionId]
      refine h.reserved a ha (hk.subscriptionId ▸ hsub) (hkind ▸ hkb) ?_
      exact hb'.imp hk.open_ fun hs => hstart ▸ hs

/-- A later clock. -/
theorem DunningInvariant.tick (h : DunningInvariant s₀ failures s σ) (hclock : σ.clock ≤ now) :
    DunningInvariant s₀ failures s { σ with clock := now } :=
  { h with
    createdAt_le := le_trans h.createdAt_le hclock
    due := fun a ha hsub hkind hopen t ht =>
      ⟨le_trans (h.due a ha hsub hkind hopen t ht).1 hclock, (h.due a ha hsub hkind hopen t ht).2⟩ }

/-- An insertion adds no failure, and no submission. -/
theorem DunningInvariant.insert (h : DunningInvariant s₀ failures s σ) {n : NewAttempt}
    {elapsed : ℕ} (hlegal : DunningStep.Legal s₀ σ (elapsed, .insert n)) (at_ : Timestamp) :
    DunningInvariant s₀ failures s
      { σ with attempts := (insertAttempt { n with createdAt := at_ } σ.attempts).1 } := by
  unfold insertAttempt
  split_ifs with hindex
  · have hrow : ({ n with createdAt := at_ } : NewAttempt).row.failureKey s₀.id s₀.nextRenewalAt =
        none := PaymentAttempt.failureKey_of_isResolvable rfl
    refine { h with
      attemptIndexes := hindex
      stored := fun a ha => ?_
      reserved := fun a ha hsub hkind ho => ?_
      perm := ?_
      due := fun a ha hsub hkind ho t ht => ?_ }
    · rcases List.mem_cons.mp ha with rfl | ha
      · exact NewAttempt.stored_row _
      · exact h.stored a ha
    · rcases List.mem_cons.mp ha with rfl | ha
      · obtain ⟨hscope, hsubscriber, hplan, hstart⟩ := hlegal hsub hkind
        exact ⟨hscope, hsubscriber, hplan, hstart, rfl⟩
      · exact h.reserved a ha hsub hkind ho
    · simpa [automaticFailures, hrow] using h.perm
    · rcases List.mem_cons.mp ha with rfl | ha
      · simp [NewAttempt.row] at ht
      · exact h.due a ha hsub hkind ho t ht
  · exact h

/-- The failure of an admitted renewal: the tables have one failure more, and the payment of the
subscription was due when it was submitted. -/
theorem DunningInvariant.tables_of_failure (h : DunningInvariant s₀ failures s σ)
    {w : AttemptWriter} {a a' : PaymentAttempt} {attempts' : List PaymentAttempt} {elapsed : ℕ}
    (hlegal : DunningStep.Legal s₀ σ (elapsed, .write a.id w)) (ha : a ∈ σ.attempts)
    (hw : w.write (σ.clock + elapsed) a = .ok a') (hm : w.marksRenewalPastDue a' = true)
    (hrows : attempts' = Table.updateWhere (·.id = a.id) (fun _ => a') σ.attempts)
    (hindex : attemptIndexes attempts' = true) :
    DunningTables s₀ (failures ++ [⟨a'.id, σ.clock + elapsed⟩]) s
        { σ with clock := σ.clock + elapsed, attempts := attempts' } ∧
      a'.isAutomaticFailure s₀.id s₀.nextRenewalAt = true ∧
      a'.resolvedAt = some (σ.clock + elapsed) ∧ a.isBlockingCharge = true ∧
      a.subscriptionId = some s₀.id ∧
      ∃ t, a'.submittedAt = some t ∧ t ≤ σ.clock ∧ s.nextPaymentAttemptAt.any (· ≤ t) = true := by
  obtain ⟨hopen, hstatus, hcode, hkind', hsubmitted, hresolved, hsub'⟩ :=
    AttemptWriter.write_of_marksRenewalPastDue hw hm
  have hsame : a.SameRequest a' := by
    rcases AttemptWriter.write_stores hw with rfl | hs
    · exact rfl
    · exact hs.same
  have hkind : a.kind = .subscriptionRenewal := hsame.kind ▸ hkind'
  obtain ⟨happroves, hrenewal⟩ := hlegal a ha rfl
  obtain ⟨hadmitted, hreopen, hfail⟩ := hrenewal hkind
  obtain ⟨hsub, hsubmittedNe, horder⟩ := hfail a' hw hm
  obtain ⟨t, ht⟩ := Option.ne_none_iff_exists'.mp hsubmittedNe
  obtain ⟨htclock, hdue⟩ := h.due a ha hsub hkind hopen t ht
  obtain ⟨-, -, -, hstart, -⟩ := h.reserved a ha hsub hkind (.inl hopen)
  have hf : a'.isAutomaticFailure s₀.id s₀.nextRenewalAt = true := by
    refine PaymentAttempt.isAutomaticFailure_iff.mpr
      ⟨hsub'.trans hsub, ?_, hkind', hsubmitted ▸ hsubmittedNe, hstatus, hcode⟩
    unfold PaymentAttempt.periodStartAt at hstart ⊢
    rw [hsame.target, hstart]
  have hblocking : a.isBlockingCharge = true := by
    simp [PaymentAttempt.isBlockingCharge, PaymentAttempt.isSubscriptionCharge, hkind, hopen]
  refine ⟨?_, hf, hresolved, hblocking, hsub, t, hsubmitted.trans ht, htclock, hdue⟩
  -- One failure more, after all the others.
  have hperm : (automaticFailures s₀.id s₀.nextRenewalAt attempts').Perm
      (failures ++ [⟨a'.id, σ.clock + elapsed⟩]) := by
    have hids := h.attemptIndexes
    simp only [attemptIndexes, Bool.and_eq_true] at hids
    have hnew : a'.failureKey s₀.id s₀.nextRenewalAt = some ⟨a'.id, σ.clock + elapsed⟩ := by
      simp [PaymentAttempt.failureKey, hf, PaymentAttempt.failure, hresolved]
    rw [hrows]
    refine (Table.perm_filterMap_updateWhere
      (Table.nodup_map_of_uniqueOn hids.1.1.1.1.1.1.1.1) ha
      (PaymentAttempt.failureKey_of_isResolvable hopen) hnew).trans ?_
    exact (h.perm.cons _).trans (List.perm_append_singleton _ _).symm
  have hsorted : List.Pairwise failureOrder (failures ++ [⟨a'.id, σ.clock + elapsed⟩]) := by
    rw [List.pairwise_append]
    refine ⟨h.sorted, List.pairwise_singleton _ _, fun f hf g hg => ?_⟩
    rw [List.mem_singleton.mp hg, hsame.id]
    exact horder f (h.perm.mem_iff.mpr hf)
  have hretried : Retried s₀.renewalFailure (failures ++ [⟨a'.id, σ.clock + elapsed⟩]) := by
    refine h.retried.concat (fun f hf => ?_) _
    have hscheduled : s.failureProjection.nextPaymentAttemptAt ≠ none := by
      intro hn
      have hn' : s.nextPaymentAttemptAt = none := hn
      simp [hn'] at hdue
    exact ((dunningProjection_of_scheduled h.first h.active h.projection hscheduled).2.1 f hf).2
  exact h.toDunningTables.update ha hrows hindex (AttemptWriter.stored_of_write hw (h.stored a ha))
    (fun _ => (AttemptWriter.keepsRenewal hw hadmitted (happroves (by simp [hkind])) hreopen).1)
      hsame.kind
    hperm hsorted hretried (Int.le_add_of_nonneg_right (Int.natCast_nonneg _))

/-- The failure of an admitted renewal, and its application. -/
theorem DunningInvariant.of_failure (h : DunningInvariant s₀ failures s σ) {w : AttemptWriter}
    {a a' : PaymentAttempt} {attempts' : List PaymentAttempt} {elapsed : ℕ}
    (hlegal : DunningStep.Legal s₀ σ (elapsed, .write a.id w)) (ha : a ∈ σ.attempts)
    (hw : w.write (σ.clock + elapsed) a = .ok a') (hm : w.marksRenewalPastDue a' = true)
    (hrows : attempts' = Table.updateWhere (·.id = a.id) (fun _ => a') σ.attempts)
    (hindex : attemptIndexes attempts' = true) :
    appliedFailure (σ.clock + elapsed) s (failures.length + 1) σ.subscriptions
        (applyResolvedAutomaticRenewalFailure (σ.clock + elapsed) attempts' a' σ.subscriptions) ∧
      ∀ d, renewalFailureDisposition s.renewalFailure (failures.length + 1) (σ.clock + elapsed) =
          .ok d →
        DunningInvariant s₀ (failures ++ [⟨a'.id, σ.clock + elapsed⟩])
          (s.withFailure (σ.clock + elapsed) d.projection)
          { clock := σ.clock + elapsed
            subscriptions := Table.updateWhere (·.id = s.id)
              (·.withFailure (σ.clock + elapsed) d.projection) σ.subscriptions
            attempts := attempts' } := by
  obtain ⟨htables, hf, hresolved, hblocking, hsub, t, ht, htclock, hdue⟩ :=
    h.tables_of_failure hlegal ha hw hm hrows hindex
  have hclock : σ.clock ≤ σ.clock + elapsed := Int.le_add_of_nonneg_right (Int.natCast_nonneg _)
  have ha' : a' ∈ attempts' := by
    rw [hrows]
    exact Table.mem_updateWhere.mpr ⟨a, ha, by simp⟩
  obtain ⟨happlied, hstored⟩ := htables.applyResolved_of_failure h.projection ha' hf hresolved ht
    (le_trans htclock hclock) (le_trans h.createdAt_le hclock) hdue
  refine ⟨happlied, fun d hd => ?_⟩
  obtain ⟨hchecks, hindexes⟩ := hstored d hd
  obtain ⟨-, -, -, -, -, hpolicy, -⟩ := h.frame_columns
  refine { htables with
    subscriptionChecks := hchecks
    subscriptionIndexes := hindexes
    mem := Table.mem_updateWhere.mpr ⟨s, h.mem, by simp⟩
    frame := ?_
    projection := ?_
    due := fun b hb hsubb hkb hopen => ?_ }
  · obtain ⟨u, p, rfl⟩ := h.frame
    exact ⟨_, _, rfl⟩
  · unfold dunningProjection
    rw [List.getLast?_concat, List.length_append, List.length_singleton, ← hpolicy]
    exact ⟨d, hd, rfl⟩
  · -- The renewal that failed was the only one that was open.
    have hbb : b.isBlockingCharge = true := by
      simp [PaymentAttempt.isBlockingCharge, PaymentAttempt.isSubscriptionCharge, hkb, hopen]
    replace hb : b ∈ attempts' := hb
    rw [hrows] at hb
    rcases Table.mem_replaceBy hb with ⟨hb, hne⟩ | rfl
    · exact absurd (congrArg PaymentAttempt.id
        (eq_of_isBlockingCharge h.attemptIndexes hb ha hbb hblocking hsubb hsub)) hne
    · obtain ⟨-, -, -, -, hstatus, -⟩ := PaymentAttempt.isAutomaticFailure_iff.mp hf
      rcases hstatus with hs | hs <;> simp [hs, PaymentAttemptStatus.isResolvable] at hopen

/-- A writer that the application does not follow leaves the failures as they are. -/
theorem DunningInvariant.of_other (h : DunningInvariant s₀ failures s σ) {w : AttemptWriter}
    {a a' : PaymentAttempt} {attempts' : List PaymentAttempt} {elapsed : ℕ}
    (hlegal : DunningStep.Legal s₀ σ (elapsed, .write a.id w)) (ha : a ∈ σ.attempts)
    (hw : w.write (σ.clock + elapsed) a = .ok a') (hm : w.marksRenewalPastDue a' = false)
    (hrows : attempts' = Table.updateWhere (·.id = a.id) (fun _ => a') σ.attempts)
    (hindex : attemptIndexes attempts' = true) :
    DunningInvariant s₀ failures s
      { σ with clock := σ.clock + elapsed, attempts := attempts' } := by
  have hclock : σ.clock ≤ σ.clock + elapsed := Int.le_add_of_nonneg_right (Int.natCast_nonneg _)
  have hkind : a'.kind = a.kind := by
    rcases AttemptWriter.write_stores hw with rfl | hs
    · rfl
    · exact hs.same.kind
  obtain ⟨happroves, hrenewal⟩ := hlegal a ha rfl
  have hkeeps (hk : a.kind = .subscriptionRenewal) :
      KeepsRenewal a a' ∧ (a'.submittedAt = a.submittedAt ∨ a'.submittedAt = none) :=
    AttemptWriter.keepsRenewal hw (hrenewal hk).1 (happroves (by simp [hk])) (hrenewal hk).2.1
  have hkey : a'.failureKey s₀.id s₀.nextRenewalAt = a.failureKey s₀.id s₀.nextRenewalAt := by
    by_cases hk : a.kind = .subscriptionRenewal
    · rcases AttemptWriter.write_stores hw with rfl | hs
      · rfl
      · refine (hs.failureKey (hrenewal hk).2.1).resolve_right fun hnew => ?_
        have hmarks := AttemptWriter.marksRenewalPastDue_of_isAutomaticFailure hw hnew.1 hnew.2.1
        simp [hm] at hmarks
    · rw [PaymentAttempt.failureKey_of_kind_ne hk, PaymentAttempt.failureKey_of_kind_ne
        (hkind ▸ hk)]
  have hfailures : automaticFailures s₀.id s₀.nextRenewalAt attempts' =
      automaticFailures s₀.id s₀.nextRenewalAt σ.attempts := by
    refine Table.filterMap_eq_of_forall₂ ?_
    rw [hrows]
    refine Table.forall₂_updateWhere (fun b hb hid => ?_) fun _ => rfl
    rw [nodup_id_of_attemptIndexes h.attemptIndexes hb ha (of_decide_eq_true hid)]
    exact hkey
  have htables := h.toDunningTables.update ha hrows hindex
    (AttemptWriter.stored_of_write hw (h.stored a ha)) (fun hk => (hkeeps hk).1) hkind
      (hfailures ▸ h.perm) h.sorted
    h.retried hclock
  refine { htables with
    projection := h.projection
    due := fun b hb hsub hkb hopen t ht => ?_ }
  replace hb : b ∈ attempts' := hb
  rw [hrows] at hb
  rcases Table.mem_replaceBy hb with ⟨hb, -⟩ | rfl
  · obtain ⟨hle, hdue⟩ := h.due b hb hsub hkb hopen t ht
    exact ⟨le_trans hle hclock, hdue⟩
  · obtain ⟨hk, hsubmitted⟩ := hkeeps (hkind ▸ hkb)
    have ht' : a.submittedAt = some t := by
      rcases hsubmitted with hs | hs
      · rw [← hs, ht]
      · simp [hs] at ht
    obtain ⟨hle, hdue⟩ := h.due a ha (hk.subscriptionId ▸ hsub) (hkind ▸ hkb) (hk.open_ hopen) t ht'
    exact ⟨le_trans hle hclock, hdue⟩

/-- The admission of a renewal submits a payment that is due. -/
theorem DunningInvariant.of_admitPrepared (h : DunningInvariant s₀ failures s σ)
    {r : SubscriptionChargeReservation} (hr : r.kind = .renewal) {σ' : DunningStore}
    {outcome : DunningOutcome} (hclock : σ.clock ≤ now)
    (hstep : σ.admitPrepared now r = .ok (σ', outcome)) :
    DunningInvariant s₀ failures s { σ' with clock := now } ∧ σ'.subscriptions = σ.subscriptions ∧
      (outcome = .stored → r.expected.subscriptionId = s₀.id →
        s.nextPaymentAttemptAt.any (· ≤ now) = true) ∧
      ∀ application, outcome ≠ .applied application := by
  unfold DunningStore.admitPrepared at hstep
  split at hstep
  · rename_i a t hfinda hfindt
    split_ifs at hstep with hadmitted
    · obtain ⟨-, -, hrequest, hstate⟩ := hadmitted
      obtain ⟨attempts', hwrite, heq⟩ := map_eq_ok.mp hstep
      obtain ⟨rfl, rfl⟩ := Prod.mk.inj heq
      obtain ⟨b, hb, hid, a', hw, hrows, hindex⟩ := writeAttempt_eq_ok hwrite
      obtain rfl := nodup_id_of_attemptIndexes h.attemptIndexes hb (Table.findBy_some hfinda).1 hid
      obtain ⟨hprepared, review, ha'⟩ := requireOneRow_update_eq_ok hw
      obtain ⟨hlocates, hmatches⟩ := And.intro (List.find?_some hfindt) (of_decide_eq_true hstate)
      -- The subscription of the reservation is the one of the period.
      have hsubscription (hs : r.expected.subscriptionId = s₀.id) :
          s.nextPaymentAttemptAt.any (· ≤ now) = true := by
        obtain rfl : t = s := by
          refine eq_of_subscriptionIndexes h.subscriptionIndexes (List.mem_of_find?_eq_some hfindt)
            h.mem ?_
          rw [(of_decide_eq_true hlocates).1, hs, h.frame_columns.1]
        exact hmatches.2
      have hpending : b.status = .pending := (of_decide_eq_true hprepared).1
      have hopen : b.status.isResolvable = true := by rw [hpending]; rfl
      have hopen' : a'.status.isResolvable = true := by rw [ha']; exact hopen
      have hfailures : automaticFailures s₀.id s₀.nextRenewalAt attempts' =
          automaticFailures s₀.id s₀.nextRenewalAt σ.attempts := by
        refine Table.filterMap_eq_of_forall₂ ?_
        rw [hrows]
        refine Table.forall₂_updateWhere (fun c hc hcid => ?_) fun _ => rfl
        rw [nodup_id_of_attemptIndexes h.attemptIndexes hc hb (of_decide_eq_true hcid),
          PaymentAttempt.failureKey_of_isResolvable hopen,
          PaymentAttempt.failureKey_of_isResolvable hopen']
      have htables := h.toDunningTables.update hb hrows hindex
        (AttemptWriter.stored_of_write hw (h.stored b hb))
        (fun _ => ⟨by rw [ha']; rfl, by rw [ha'], fun _ => hopen⟩) (by rw [ha']; rfl)
        (hfailures ▸ h.perm) h.sorted h.retried hclock
      refine ⟨{ htables with projection := h.projection, due := fun c hc hsub hkc ho u hu => ?_ },
        rfl, fun _ => hsubscription, nofun⟩
      replace hc : c ∈ attempts' := hc
      rw [hrows] at hc
      rcases Table.mem_replaceBy hc with ⟨hc, -⟩ | rfl
      · obtain ⟨hle, hdue⟩ := h.due c hc hsub hkc ho u hu
        exact ⟨le_trans hle hclock, hdue⟩
      · obtain rfl : now = u := by simpa [ha'] using hu
        refine ⟨le_refl now, hsubscription ?_⟩
        have hsub' : b.subscriptionId = some s₀.id := by simpa [ha'] using hsub
        have hkb : b.kind = .subscriptionRenewal := by rw [ha'] at hkc; exact hkc
        have htarget : b.target = r.target := (of_decide_eq_true hrequest).1
        obtain ⟨-, -, -, -, hlinked⟩ := h.reserved b hb hsub' hkb (.inl hopen)
        rw [hsub', htarget, SubscriptionChargeReservation.target, hr] at hlinked
        exact (Option.some.inj hlinked).symm
    · obtain ⟨rfl, rfl⟩ := Prod.mk.inj (Except.ok.inj hstep)
      exact ⟨h.tick hclock, rfl, nofun, nofun⟩
  · obtain ⟨rfl, rfl⟩ := Prod.mk.inj (Except.ok.inj hstep)
    exact ⟨h.tick hclock, rfl, nofun, nofun⟩

/-- A writer and its application, from the row that the writer stores. -/
theorem DunningStore.settle_eq {w : AttemptWriter} (hindex : attemptIndexes σ.attempts = true)
    {a a' : PaymentAttempt} {attempts' : List PaymentAttempt} (ha : a ∈ σ.attempts)
    (hw : w.write now a = .ok a')
    (hwrite : writeAttempt now invalidApplicationState a.id w σ.attempts = .ok attempts') :
    σ.settle now a.id w =
      if w.marksRenewalPastDue a' then
        (applyResolvedAutomaticRenewalFailure now attempts' a' σ.subscriptions).map fun result =>
          ({ σ with subscriptions := result.1, attempts := attempts' }, .applied result.2)
      else .ok ({ σ with attempts := attempts' }, .stored) := by
  obtain ⟨b, hb, hid, b', hwb, hrows, hindex'⟩ := writeAttempt_eq_ok hwrite
  obtain rfl := nodup_id_of_attemptIndexes hindex hb ha hid
  obtain rfl : a' = b' := by simpa [hw] using hwb
  have hfind : Table.findBy PaymentAttempt.id b.id attempts' = some a' := by
    have hid' : a'.id = b.id := by
      rcases AttemptWriter.write_stores hw with rfl | hs
      · rfl
      · exact hs.same.id
    rw [← hid']
    refine findBy_id_eq_some hindex' ?_
    rw [hrows]
    exact Table.mem_updateWhere.mpr ⟨b, hb, by simp⟩
  unfold DunningStore.settle
  rw [hwrite]
  simp only [bind, Except.bind, hfind]
  split_ifs
  · cases applyResolvedAutomaticRenewalFailure now attempts' a' σ.subscriptions with
    | error e => rfl
    | ok r => rfl
  · rfl

/-- The state of a period after every legal step. -/
theorem execDunning_invariant (h : DunningInvariant s₀ failures s σ) {step : ℕ × DunningStep}
    (hlegal : DunningStep.Legal s₀ σ step) :
    ∃ failures' s', DunningInvariant s₀ failures' s' (execDunning σ step) := by
  obtain ⟨elapsed, action⟩ := step
  have hclock : σ.clock ≤ σ.clock + elapsed := Int.le_add_of_nonneg_right (Int.natCast_nonneg _)
  have hfailed (e : StoreError) (he : σ.step (σ.clock + elapsed) action = .error e) :
      ∃ failures' s', DunningInvariant s₀ failures' s' (execDunning σ (elapsed, action)) := by
    simp only [execDunning, commit_error he]
    exact ⟨failures, s, h.tick hclock⟩
  have hdone {σ' : DunningStore} {outcome : DunningOutcome}
      (hok : σ.step (σ.clock + elapsed) action = .ok (σ', outcome))
      (hinv : ∃ failures' s',
        DunningInvariant s₀ failures' s' { σ' with clock := σ.clock + elapsed }) :
      ∃ failures' s', DunningInvariant s₀ failures' s' (execDunning σ (elapsed, action)) := by
    simp only [execDunning, commit_ok hok]
    exact hinv
  cases action with
  | insert n =>
    exact hdone rfl ⟨failures, s, (h.insert hlegal _).tick hclock⟩
  | admitPrepared r =>
    cases hstep : σ.admitPrepared (σ.clock + elapsed) r with
    | error e => exact hfailed e hstep
    | ok result => exact hdone hstep ⟨failures, s, (h.of_admitPrepared hlegal hclock hstep).1⟩
  | write attemptId w =>
    cases hwrite : writeAttempt (σ.clock + elapsed) invalidApplicationState attemptId w
      σ.attempts with
    | error e =>
      refine hfailed e ?_
      show σ.settle (σ.clock + elapsed) attemptId w = .error e
      simp [DunningStore.settle, hwrite, bind, Except.bind]
    | ok attempts' =>
      obtain ⟨a, ha, rfl, a', hw, hrows, hindex⟩ := writeAttempt_eq_ok hwrite
      have hsettle := DunningStore.settle_eq h.attemptIndexes ha hw hwrite
      cases hm : w.marksRenewalPastDue a' with
      | false =>
        rw [hm, if_neg (by simp)] at hsettle
        exact hdone hsettle ⟨failures, s, h.of_other hlegal ha hw hm hrows hindex⟩
      | true =>
        rw [hm, if_pos rfl] at hsettle
        obtain ⟨happlied, hinv⟩ := h.of_failure hlegal ha hw hm hrows hindex
        unfold appliedFailure at happlied
        split at happlied
        · rw [happlied] at hsettle
          exact hfailed _ hsettle
        · rename_i d hd
          obtain ⟨events, happlied⟩ := happlied
          rw [happlied] at hsettle
          exact hdone hsettle ⟨_, _, hinv d hd⟩
  | reapply attemptId =>
    obtain ⟨a, ha, rfl, hf⟩ := hlegal
    have hnoop : σ.step (σ.clock + elapsed) (.reapply a.id) = .ok (σ, .applied .noop) := by
      simp only [DunningStore.step, findBy_id_eq_some h.attemptIndexes ha,
        h.applyResolved_again ha hf, bind, Except.bind]
    exact hdone hnoop ⟨failures, s, h.tick hclock⟩

end Step

/-! ## The run -/

/-- A period at its start. -/
theorem DunningStart.invariant {s₀ : Subscription} {σ : DunningStore} (h : DunningStart s₀ σ) :
    DunningInvariant s₀ [] s₀ σ := by
  have hnone : automaticFailures s₀.id s₀.nextRenewalAt σ.attempts = [] := by
    refine List.eq_nil_iff_forall_not_mem.mpr fun f hf => ?_
    obtain ⟨a, ha, hfail, -⟩ := mem_automaticFailures.mp hf
    obtain ⟨hsub, hstart, hkind, -⟩ := PaymentAttempt.isAutomaticFailure_iff.mp hfail
    exact (h.fresh a ha hsub hkind).2 hstart
  exact
    { attemptIndexes := h.attemptIndexes
      stored := h.stored
      subscriptionChecks := h.subscriptionChecks
      subscriptionIndexes := h.subscriptionIndexes
      mem := h.mem
      active := h.active
      first := h.subscriptionChecks s₀ h.mem
      frame := ⟨s₀.updatedAt, s₀.failureProjection, rfl⟩
      reserved := fun a ha hsub hkind ho => by
        obtain ⟨hclosed, hother⟩ := h.fresh a ha hsub hkind
        rcases ho with ho | ho
        · simp [hclosed] at ho
        · exact absurd ho hother
      perm := hnone ▸ List.Perm.refl _
      sorted := List.Pairwise.nil
      retried := fun earlier f later heq _ => by simp at heq
      createdAt_le := h.createdAt_le
      projection := rfl
      due := fun a ha hsub hkind ho => by
        rw [(h.fresh a ha hsub hkind).1] at ho
        simp at ho }

/-- No payment is scheduled exactly when the schedule is exhausted. -/
theorem dunningProjection_eq_none_iff {s₀ : Subscription} {p : FailureProjection}
    {failures : List ResolvedAutomaticRenewalFailure} (hfirst : s₀.checks = true)
    (hactive : s₀.status = .active) (h : dunningProjection s₀ failures p)
    (hretried : Retried s₀.renewalFailure failures) :
    p.nextPaymentAttemptAt = none ↔
      failures.length = s₀.renewalFailure.retryDelays.length + 1 := by
  have hle := hretried.length_le
  unfold dunningProjection at h
  split at h
  · rename_i hlast
    rw [Subscription.failureProjection_of_active hfirst hactive] at h
    rw [List.getLast?_eq_none_iff] at hlast
    simp [h, hlast]
  · rename_i latest hlast
    obtain ⟨d, hd, rfl⟩ := h
    obtain ⟨earlier, rfl⟩ := List.getLast?_eq_some_iff.mp hlast
    rw [List.length_append, List.length_singleton] at hd hle ⊢
    rcases renewalFailureDisposition_cases hd with ⟨delay, hdelay, -, rfl⟩ | ⟨hdelay, rfl⟩
    · have hlt := (List.getElem?_eq_some_iff.mp hdelay).1
      simp only [RenewalFailureDisposition.projection, reduceCtorEq, false_iff]
      omega
    · rw [List.getElem?_eq_none_iff] at hdelay
      simp only [(s₀.renewalFailure.exhaustion.projection_disposition latest.resolvedAt).1,
        true_iff]
      omega

/-- A payment that is scheduled is one of a step of the schedule. -/
theorem DunningInvariant.length_le_of_scheduled {s₀ s : Subscription} {σ : DunningStore}
    {failures : List ResolvedAutomaticRenewalFailure} (h : DunningInvariant s₀ failures s σ)
    {t : Timestamp} (hdue : s.nextPaymentAttemptAt.any (· ≤ t) = true) :
    failures.length ≤ s₀.renewalFailure.retryDelays.length := by
  have hle := h.retried.length_le
  have hne : failures.length ≠ s₀.renewalFailure.retryDelays.length + 1 := by
    intro heq
    have hnone : s.nextPaymentAttemptAt = none :=
      (dunningProjection_eq_none_iff h.first h.active h.projection h.retried).mpr heq
    simp [hnone] at hdue
  omega

/-- A stored subscription is unpaid exactly when it has the time of it. -/
theorem Subscription.unpaidAt_ne_none_iff {s : Subscription} (h : s.checks = true) :
    s.unpaidAt ≠ none ↔ s.status = .unpaid := by
  simp only [Subscription.checks, Subscription.endStateCheck, Bool.and_eq_true,
    decide_eq_true_eq] at h
  exact h.1.1.2.2.symm

/-- The outcome of the next failure, in the terms of the policy. -/
structure FollowsPolicy (policy : RenewalFailurePolicy) (count : ℕ) (now : Timestamp)
    (result : Except StoreError (DunningStore × DunningOutcome)) : Prop where
  /-- The failure with the number `count + 1` is within the schedule and its exhaustion. -/
  within : count ≤ policy.retryDelays.length
  /-- It is retried after its delay. -/
  retry : ∀ delay, policy.retryDelays[count]? = some delay →
    checkedAdd now (seconds delay) ≠ none →
      ∃ σ' events, result =
        .ok (σ', .applied (.applied (.retryScheduled (now + seconds delay)) events))
  /-- It exhausts the schedule. -/
  exhaustion : count = policy.retryDelays.length →
    ∃ σ' events, result = .ok (σ', .applied (.applied (policy.exhaustion.disposition now) events))
  /-- It is rolled back when chrono cannot represent the time of its retry. -/
  overflow : ∀ delay, policy.retryDelays[count]? = some delay →
    checkedAdd now (seconds delay) = none → result = .error invalidRenewalFailureState

/-- The next failure follows the policy. -/
theorem DunningInvariant.followsPolicy {s₀ s : Subscription} {σ : DunningStore}
    {failures : List ResolvedAutomaticRenewalFailure} (h : DunningInvariant s₀ failures s σ)
    {w : AttemptWriter} {a a' : PaymentAttempt} {attempts' : List PaymentAttempt} {elapsed : ℕ}
    (hlegal : DunningStep.Legal s₀ σ (elapsed, .write a.id w)) (ha : a ∈ σ.attempts)
    (hw : w.write (σ.clock + elapsed) a = .ok a') (hm : w.marksRenewalPastDue a' = true)
    (hwrite : writeAttempt (σ.clock + elapsed) invalidApplicationState a.id w σ.attempts =
      .ok attempts') :
    FollowsPolicy s₀.renewalFailure failures.length (σ.clock + elapsed)
      (σ.step (σ.clock + elapsed) (.write a.id w)) := by
  obtain ⟨b, hb, hid, b', hwb, hrows, hindex⟩ := writeAttempt_eq_ok hwrite
  obtain rfl := nodup_id_of_attemptIndexes h.attemptIndexes hb ha hid
  obtain rfl : a' = b' := by simpa [hw] using hwb
  have hsettle : σ.step (σ.clock + elapsed) (.write b.id w) = _ :=
    DunningStore.settle_eq h.attemptIndexes ha hw hwrite
  rw [hm, if_pos rfl] at hsettle
  obtain ⟨-, -, -, -, -, t, -, -, hdue⟩ := h.tables_of_failure hlegal ha hw hm hrows hindex
  obtain ⟨happlied, -⟩ := h.of_failure hlegal ha hw hm hrows hindex
  unfold appliedFailure at happlied
  rw [h.frame_columns.2.2.2.2.2.1] at happlied
  refine ⟨h.length_le_of_scheduled hdue, fun delay hdelay hadd => ?_, fun hcount => ?_,
    fun delay hdelay hadd => ?_⟩
  · obtain ⟨retryAt, hretry⟩ := Option.ne_none_iff_exists'.mp hadd
    have heq : retryAt = σ.clock + elapsed + seconds delay := by
      unfold checkedAdd at hretry
      split_ifs at hretry
      simpa using hretry.symm
    simp only [renewalFailureDisposition, hdelay, hretry] at happlied
    obtain ⟨events, happlied⟩ := happlied
    rw [hsettle, happlied, ← heq]
    exact ⟨_, events, rfl⟩
  · have hdelay : s₀.renewalFailure.retryDelays[failures.length]? = none := by
      rw [List.getElem?_eq_none_iff]
      omega
    simp only [renewalFailureDisposition, hdelay] at happlied
    obtain ⟨events, happlied⟩ := happlied
    rw [hsettle, happlied]
    exact ⟨_, events, rfl⟩
  · simp only [renewalFailureDisposition, hdelay, hadd] at happlied
    rw [hsettle, happlied]
    rfl

/-- What a legal step does: it leaves the subscription and the failures as they are, or it applies
one failure more, of a submitted renewal that ended without a code. -/
theorem DunningInvariant.step_cases {s₀ s : Subscription} {σ σ' : DunningStore}
    {failures : List ResolvedAutomaticRenewalFailure} (h : DunningInvariant s₀ failures s σ)
    {step : ℕ × DunningStep} {outcome : DunningOutcome} (hlegal : DunningStep.Legal s₀ σ step)
    (hstep : σ.step (σ.clock + step.1) step.2 = .ok (σ', outcome)) :
    (σ'.subscriptions = σ.subscriptions ∧
        (automaticFailures s₀.id s₀.nextRenewalAt σ'.attempts).Perm failures ∧
        ∀ d events, outcome ≠ .applied (.applied d events)) ∨
      ∃ a ∈ σ'.attempts, a.isAutomaticFailure s₀.id s₀.nextRenewalAt = true ∧
        (automaticFailures s₀.id s₀.nextRenewalAt σ'.attempts).Perm (failures ++ [a.failure]) ∧
        ∃ d events, outcome = .applied (.applied d events) := by
  obtain ⟨elapsed, action⟩ := step
  have hclock : σ.clock ≤ σ.clock + elapsed := Int.le_add_of_nonneg_right (Int.natCast_nonneg _)
  cases action with
  | insert n =>
    left
    obtain ⟨rfl, rfl⟩ := Prod.mk.inj (Except.ok.inj hstep)
    refine ⟨rfl, (h.insert hlegal (σ.clock + elapsed)).perm, ?_⟩
    split_ifs <;> simp
  | admitPrepared r =>
    left
    obtain ⟨hinv, hsubscriptions, -, houtcome⟩ := h.of_admitPrepared hlegal hclock hstep
    exact ⟨hsubscriptions, hinv.perm, fun d events => houtcome _⟩
  | write attemptId w =>
    obtain ⟨attempts', hwrite, -⟩ := bind_eq_ok.mp hstep
    obtain ⟨a, ha, rfl, a', hw, hrows, hindex⟩ := writeAttempt_eq_ok hwrite
    have hsettle : σ.step (σ.clock + elapsed) (.write a.id w) = _ :=
      DunningStore.settle_eq h.attemptIndexes ha hw hwrite
    cases hm : w.marksRenewalPastDue a' with
    | false =>
      left
      rw [hm, if_neg (by simp), hstep] at hsettle
      obtain ⟨rfl, rfl⟩ := Prod.mk.inj (Except.ok.inj hsettle)
      exact ⟨rfl, (h.of_other hlegal ha hw hm hrows hindex).perm, by simp⟩
    | true =>
      right
      rw [hm, if_pos rfl, hstep] at hsettle
      obtain ⟨htables, hf, hresolved, -⟩ := h.tables_of_failure hlegal ha hw hm hrows hindex
      obtain ⟨happlied, -⟩ := h.of_failure hlegal ha hw hm hrows hindex
      have hfailure : a'.failure = ⟨a'.id, σ.clock + elapsed⟩ := by
        simp [PaymentAttempt.failure, hresolved]
      have ha' : a' ∈ attempts' := by
        rw [hrows]
        exact Table.mem_updateWhere.mpr ⟨a, ha, by simp⟩
      unfold appliedFailure at happlied
      split at happlied
      · rw [happlied] at hsettle
        simp [Except.map] at hsettle
      · obtain ⟨events, happlied⟩ := happlied
        rw [happlied] at hsettle
        obtain ⟨rfl, rfl⟩ := Prod.mk.inj (Except.ok.inj hsettle)
        exact ⟨a', ha', hf, hfailure ▸ htables.perm, _, events, rfl⟩
  | reapply attemptId =>
    left
    obtain ⟨a, ha, rfl, hf⟩ := hlegal
    simp only [DunningStore.step, findBy_id_eq_some h.attemptIndexes ha,
      h.applyResolved_again ha hf, bind, Except.bind] at hstep
    obtain ⟨rfl, rfl⟩ := Prod.mk.inj (Except.ok.inj hstep)
    exact ⟨rfl, h.perm, by simp⟩

/-- Every run in which the renewals of a period fail one after another follows the policy of the
subscription. After `failures`, the subscription has the projection of the latest of them; a payment
is scheduled until the schedule is exhausted, which is one failure after its last delay; the next
failure is retried after its delay or exhausts the schedule, and is rolled back when chrono cannot
represent the time of the retry; no renewal is admitted after that; a failure that is applied again
does nothing; and no other step changes the subscription or consumes a step of the schedule. -/
theorem dunning_follows_policy {s₀ : Subscription} {σ₀ : DunningStore}
    {steps : List (ℕ × DunningStep)} (hstart : DunningStart s₀ σ₀)
    (hrun : Follows execDunning (DunningStep.Legal s₀) σ₀ steps) :
    let σ := run execDunning σ₀ steps
    let n := s₀.renewalFailure.retryDelays.length
    ∃ s ∈ σ.subscriptions, ∃ failures : List ResolvedAutomaticRenewalFailure,
      s.id = s₀.id ∧ failures.Pairwise failureOrder ∧
      (automaticFailures s₀.id s₀.nextRenewalAt σ.attempts).Perm failures ∧
      dunningProjection s₀ failures s.failureProjection ∧
      failures.length ≤ n + 1 ∧ (s.unpaidAt ≠ none ↔ s.status = .unpaid) ∧
      (s.nextPaymentAttemptAt = none ↔ failures.length = n + 1) ∧
      (∀ elapsed r σ', DunningStep.Legal s₀ σ (elapsed, .admitPrepared r) →
        r.expected.subscriptionId = s₀.id →
        σ.step (σ.clock + elapsed) (.admitPrepared r) = .ok (σ', .stored) → failures.length ≤ n) ∧
      (∀ elapsed w, ∀ a ∈ σ.attempts, ∀ a' attempts',
        DunningStep.Legal s₀ σ (elapsed, .write a.id w) →
        w.write (σ.clock + elapsed) a = .ok a' → w.marksRenewalPastDue a' = true →
        writeAttempt (σ.clock + elapsed) invalidApplicationState a.id w σ.attempts = .ok attempts' →
          FollowsPolicy s₀.renewalFailure failures.length (σ.clock + elapsed)
            (σ.step (σ.clock + elapsed) (.write a.id w))) ∧
      (∀ elapsed attemptId, DunningStep.Legal s₀ σ (elapsed, .reapply attemptId) →
        σ.step (σ.clock + elapsed) (.reapply attemptId) = .ok (σ, .applied .noop)) ∧
      ∀ step σ' outcome, DunningStep.Legal s₀ σ step →
        σ.step (σ.clock + step.1) step.2 = .ok (σ', outcome) →
        (σ'.subscriptions = σ.subscriptions ∧
            (automaticFailures s₀.id s₀.nextRenewalAt σ'.attempts).Perm failures ∧
            ∀ d events, outcome ≠ .applied (.applied d events)) ∨
          ∃ a ∈ σ'.attempts, a.isAutomaticFailure s₀.id s₀.nextRenewalAt = true ∧
            (automaticFailures s₀.id s₀.nextRenewalAt σ'.attempts).Perm (failures ++ [a.failure]) ∧
            ∃ d events, outcome = .applied (.applied d events) := by
  intro σ n
  obtain ⟨failures, s, h⟩ : ∃ failures s, DunningInvariant s₀ failures s σ :=
    Follows.invariant (I := fun σ => ∃ failures s, DunningInvariant s₀ failures s σ)
      (fun _ _ hlegal ⟨_, _, h⟩ => execDunning_invariant h hlegal) hrun ⟨_, _, hstart.invariant⟩
  refine ⟨s, h.mem, failures, h.frame_columns.1, h.sorted, h.perm, h.projection,
    h.retried.length_le, Subscription.unpaidAt_ne_none_iff (h.subscriptionChecks s h.mem),
    dunningProjection_eq_none_iff h.first h.active h.projection h.retried, ?_, ?_, ?_, ?_⟩
  -- An admission finds a payment scheduled, so the retries are not used up.
  · intro elapsed r σ' hlegal hsub hstep
    have hclock : σ.clock ≤ σ.clock + elapsed := Int.le_add_of_nonneg_right (Int.natCast_nonneg _)
    obtain ⟨-, -, hdue, -⟩ := h.of_admitPrepared hlegal hclock hstep
    exact h.length_le_of_scheduled (hdue rfl hsub)
  · intro elapsed w a ha a' attempts' hlegal hw hm hwrite
    exact h.followsPolicy hlegal ha hw hm hwrite
  -- A failure that is applied again is found in the history, which the schedule has followed.
  · intro elapsed attemptId hlegal
    obtain ⟨a, ha, rfl, hf⟩ := hlegal
    simp only [DunningStore.step, findBy_id_eq_some h.attemptIndexes ha,
      h.applyResolved_again ha hf, bind, Except.bind]
  · intro step σ' outcome hlegal hstep
    exact h.step_cases hlegal hstep

/-! ## A period whose renewal fails -/

/-- A policy with one retry, two years after the failure. -/
def twoYearRetry : RenewalFailurePolicy where
  retryDelays := [63072000]
  exhaustion := .markUnpaid
  pastDueAccess := .suspendImmediately
  length_le := by decide
  delay_pos := by decide
  delay_le := by decide

/-- A subscription that is next renewed at `startAt`. -/
def renewedSubscription (startAt : Timestamp) : Subscription where
  id := 1
  billingScopeId := 1
  subscriberId := 1
  planKey := "plan"
  status := .active
  gatewayAccountId := 1
  paymentMethodId := 1
  amount := ⟨1000, "USD"⟩
  currentPeriodStartAt := startAt - 30 * microsPerDay
  currentPeriodEndAt := startAt
  nextRenewalAt := startAt
  initialTransactionId := "transaction"
  canceledAt := none
  createdAt := startAt - 30 * microsPerDay
  updatedAt := startAt - 30 * microsPerDay
  phase := .recurring
  recurringPeriod := .fixedDays 30
  renewalFailure := twoYearRetry
  nextPaymentAttemptAt := some startAt
  unpaidAt := none
  requiredGatewayAccountMode := .live

/-- The period of thirty days from `startAt`. -/
def thirtyDays (startAt : Timestamp) : BillingPeriod where
  startAt
  endAt := startAt + 30 * microsPerDay
  start_lt_end := Int.lt_add_of_pos_right startAt (by decide)

/-- The reservation of that renewal. -/
def renewalReservation (startAt : Timestamp) : SubscriptionChargeReservation where
  kind := .renewal
  identity := ⟨1, 1, 1, 1, 1, .live⟩
  providerKey := "nmi"
  planKey := "plan"
  paymentMethodId := 1
  period := thirtyDays startAt
  expected := ⟨1, 1, "transaction", .active⟩
  idempotencyKey := "renewal"
  amount := ⟨1000, "USD"⟩
  gatewayOrderId := "order"

/-- The attempt of that reservation. -/
def renewalAttempt (startAt : Timestamp) : NewAttempt where
  id := 1
  billingScopeId := 1
  subscriberId := 1
  gatewayAccountId := 1
  gatewayConfigurationId := 1
  requiredGatewayAccountMode := .live
  target := (renewalReservation startAt).target
  idempotencyKey := "renewal"
  amount := ⟨1000, "USD"⟩
  gatewayOrderId := "order"
  paymentMethodId := 1
  createdAt := startAt
  amount_fits := by simp [renewalReservation, SubscriptionChargeReservation.target,
    PaymentAttemptTarget.kind]

/-- The store when the renewal is due. -/
def renewalDue (startAt : Timestamp) : DunningStore :=
  ⟨startAt, [renewedSubscription startAt], []⟩

/-- A declined payment. -/
def declinedOutcome : AttemptWriter :=
  .persist { response := some "2", responseCode := some "200" } (.resolved .declined none)

/-- The renewal is reserved, admitted, and declined, all at its start. -/
def declinedRenewal (startAt : Timestamp) : List (ℕ × DunningStep) :=
  [(0, .insert (renewalAttempt startAt)), (0, .admitPrepared (renewalReservation startAt)),
    (0, .write 1 declinedOutcome)]

/-- The first day of the last year that chrono can represent. -/
def lastYear : Timestamp := Calendar.daysFromCivil ⟨262142, 1, 1⟩ * microsPerDay

/-- The renewal is due at the start of a period. -/
theorem dunningStart_renewalDue {t : Timestamp} (ht : t = 0 ∨ t = lastYear) :
    DunningStart (renewedSubscription t) (renewalDue t) := by
  have hchecks : (renewedSubscription t).checks = true := by
    rcases ht with rfl | rfl <;> decide +kernel
  have hindexes : subscriptionIndexes (renewalDue t).subscriptions = true := by
    rcases ht with rfl | rfl <;> decide +kernel
  have hcreated : (renewedSubscription t).createdAt ≤ t := by
    rcases ht with rfl | rfl <;> decide +kernel
  refine ⟨by simp [renewalDue, attemptIndexes], by simp [renewalDue], fun s hs => ?_, hindexes,
    List.mem_singleton_self _, rfl, by simp [renewalDue], hcreated⟩
  rw [List.mem_singleton.mp hs]
  exact hchecks

/-- The renewal is one of a run in which renewals fail. -/
theorem declinedRenewal_legal {t : Timestamp} (ht : t = 0 ∨ t = lastYear) :
    Follows execDunning (DunningStep.Legal (renewedSubscription t)) (renewalDue t)
      (declinedRenewal t) := by
  have hrows : (run execDunning (renewalDue t) ((declinedRenewal t).take 2)).attempts =
      [{ (renewalAttempt t).row with submittedAt := some t }] := by
    rcases ht with rfl | rfl <;> decide +kernel
  have hfailures : automaticFailures 1 t
      (run execDunning (renewalDue t) ((declinedRenewal t).take 2)).attempts = [] := by
    rcases ht with rfl | rfl <;> decide +kernel
  refine ⟨fun _ _ => ⟨rfl, rfl, rfl, rfl⟩, rfl, fun a ha _ => ?_, trivial⟩
  replace ha : a ∈ (run execDunning (renewalDue t) ((declinedRenewal t).take 2)).attempts := ha
  rw [hrows] at ha
  rw [List.mem_singleton.mp ha]
  refine ⟨fun _ => rfl, fun _ => ⟨nofun, ?_, fun a' _ _ => ⟨rfl, nofun, fun f hf => ?_⟩⟩⟩
  · rintro ⟨e, c, m, h⟩
    simp [declinedOutcome] at h
  · replace hf : f ∈ automaticFailures 1 t
        (run execDunning (renewalDue t) ((declinedRenewal t).take 2)).attempts := hf
    rw [hfailures] at hf
    simp at hf

/-- A run with one failure, of the two that its policy has. -/
theorem dunning_follows_policy_declinedRenewal :
    ∃ s ∈ (run execDunning (renewalDue 0) (declinedRenewal 0)).subscriptions,
      ∃ failures : List ResolvedAutomaticRenewalFailure,
        (automaticFailures 1 0 (run execDunning (renewalDue 0) (declinedRenewal 0)).attempts).Perm
          failures ∧ failures.length ≤ 2 ∧
        (s.nextPaymentAttemptAt = none ↔ failures.length = 2) := by
  obtain ⟨s, hs, failures, -, -, hperm, -, hle, -, hnone, -⟩ :=
    dunning_follows_policy (dunningStart_renewalDue (.inl rfl)) (declinedRenewal_legal (.inl rfl))
  exact ⟨s, hs, failures, hperm, hle, hnone⟩

/-- In the last year that chrono can represent, the retry of a renewal that was reserved, admitted,
and declined is beyond its dates: the application fails, and nothing is retried. -/
theorem declinedRenewal_overflows :
    DunningStart (renewedSubscription lastYear) (renewalDue lastYear) ∧
      Follows execDunning (DunningStep.Legal (renewedSubscription lastYear)) (renewalDue lastYear)
        (declinedRenewal lastYear) ∧
      nextBillingPeriod lastYear (.fixedDays 30) = .ok (thirtyDays lastYear) ∧
      (run execDunning (renewalDue lastYear) ((declinedRenewal lastYear).take 2)).step lastYear
        (.write 1 declinedOutcome) = .error invalidRenewalFailureState := by
  refine ⟨dunningStart_renewalDue (.inr rfl), declinedRenewal_legal (.inr rfl), ?_, ?_⟩
  · decide +kernel
  · decide +kernel

end SyrupRail
