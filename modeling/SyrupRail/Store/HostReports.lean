import SyrupRail.Store.HostCharge

/-!
# Reports of a deployment

The lifecycle's own tables and those of a deployment both have the attempts. A report of a
deployment leaves out the pending rows and the quarantines, and does to the attempts and to the host
what the whole transaction does: `reportLifecycle_of_evidenceTransaction`.
-/

namespace SyrupRail

open Transactions Tx

section Reports

variable {η : Type} {targets : HostChargeTargetStore η} {now : Timestamp}
  {account : GatewayLifecycleAccount} {evidence : StoredEvidence} {newId : Id}
  {pendingId : Option Id} {b : HostBilling η} {s s' : LifecycleStore η}

/-- The host of a report, which finds the tables of the engine as they are in `db`. -/
def HostChargeTargetStore.reversals (targets : HostChargeTargetStore η) (db : Db) : HostTargets η :=
  fun r h => targets.applyTransition r.transition db h

/-- A host that is told of its targets without a look at the tables of the engine. -/
def HostChargeTargetStore.ReadsOwnTables (targets : HostChargeTargetStore η) : Prop :=
  ∀ t db db' h, targets.applyTransition t db h = targets.applyTransition t db' h

/-- The tables of a deployment that reports read and write. -/
structure HostBilling.Shows (b : HostBilling η) (s : LifecycleStore η) : Prop where
  accounts : s.accounts = b.db.gatewayAccounts.map (·.lifecycleAccount)
  attempts : s.attempts = b.db.attempts.map (·.lifecycleRow)
  host : s.host = b.host

/-- The amount of a report that is applied is one that is stored. -/
theorem storedAmountIsValid_of_lifecycleTransition {current incoming : GatewayLifecycleState}
    {currentRefunded captured refunded : ℕ} {currentAt incomingAt : Option Timestamp}
    (h : lifecycleTransition current currentRefunded currentAt incoming incomingAt captured =
      .ok (.apply refunded)) : storedAmountIsValid incoming refunded captured = true := by
  unfold lifecycleTransition at h
  split_ifs at h with _ _ _ hvalid
  all_goals cases h
  simpa using hvalid

/-- A report moves no key of an index. -/
theorem attemptIndexes_reported (refunded : ℕ) (p : PaymentAttempt → Bool)
    (attempts : List PaymentAttempt) :
    attemptIndexes (Table.updateWhere p (·.reported now refunded evidence) attempts) =
      attemptIndexes attempts := by
  have huniq {κ : Type} [DecidableEq κ] (key : PaymentAttempt → Option κ)
      (hkey : ∀ a : PaymentAttempt, key (a.reported now refunded evidence) = key a) :
      Table.uniqueOn key (Table.updateWhere p (·.reported now refunded evidence) attempts) =
        Table.uniqueOn key attempts := by
    apply Table.uniqueOn_congr
    simp only [Table.updateWhere, List.map_map]
    apply List.map_congr_left
    intro a _
    by_cases ha : p a
    · simp [ha, hkey]
    · simp [ha]
  unfold attemptIndexes
  rw [huniq _ fun _ => rfl, huniq _ fun _ => rfl, huniq _ fun _ => rfl, huniq _ fun _ => rfl,
    huniq _ fun _ => rfl, huniq _ fun _ => rfl, huniq _ fun _ => rfl, huniq _ fun _ => rfl,
    huniq _ fun _ => rfl]

/-- The update of an attempt is that of its lifecycle row. -/
theorem reportAttempt_of_updateAttempt {refunded captured : ℕ} {attemptId : Id} (hb : b.Shows s)
    (hindex : attemptIndexes b.db.attempts = true)
    (hamount : storedAmountIsValid evidence.state refunded captured = true) :
    Ensures (updateAttempt now account refunded evidence attemptId) s fun _ s' =>
      ∃ attempts, reportAttempt now account refunded evidence attemptId b.db.attempts =
        .ok attempts ∧ HostBilling.Shows { b with db := { b.db with attempts } } s' := by
  have hrow (a : PaymentAttempt) : a.lifecycleRow.updated now refunded evidence =
      (a.reported now refunded evidence).lifecycleRow := (a.lifecycleRow_reported hamount).symm
  have hmatched (a : PaymentAttempt) : a.isReported account attemptId =
      decide (a.lifecycleRow.id = attemptId ∧
        a.lifecycleRow.billingScopeId = account.billingScopeId ∧
        a.lifecycleRow.gatewayAccountId = account.gatewayAccountId) := rfl
  -- The guards of the two updates are the same, read off the rows and off their lifecycle rows.
  rw [updateAttempt, ensures_bind, ensures_get, ensures_ite]
  refine ⟨fun _ => ensures_throw, fun hencodable => ?_⟩
  rw [ensures_ite]
  refine ⟨fun _ => ensures_throw, fun hchecks => ?_⟩
  rw [ensures_ite]
  refine ⟨fun _ => ensures_throw, fun hone => ?_⟩
  refine ensures_modify.mpr ⟨Table.updateWhere (·.isReported account attemptId)
    (·.reported now refunded evidence) b.db.attempts, ?_, hb.accounts, ?_, hb.host⟩
  · rw [hb.attempts] at hchecks hone
    have hchecked : ¬ (b.db.attempts.any fun a => a.isReported account attemptId ∧
        (a.reported now refunded evidence).lifecycleRow.check = false) = true := by
      simpa [hrow, hmatched] using hchecks
    have hfound : Table.rowsAffected (·.isReported account attemptId) b.db.attempts = 1 := by
      rw [Table.rowsAffected, List.countP_map] at hone
      exact not_not.mp hone
    rw [reportAttempt, if_neg hencodable, if_neg hchecked, if_neg (not_not.mpr hfound),
      storeAttempts, attemptIndexes_reported, if_pos hindex]
  · simp only [hb.attempts, Table.updateWhere, List.map_map]
    apply List.map_congr_left
    intro a _
    simp only [Function.comp, apply_ite PaymentAttempt.lifecycleRow, hrow, hmatched]

/-- The host is told of a full reversal as the lifecycle tells it. -/
theorem tellReversal_of_reverseHostTarget {db : Db} {a : LifecycleAttempt}
    (hreads : targets.ReadsOwnTables) (hb : b.Shows s) :
    Ensures (reverseHostTarget now (targets.reversals db) evidence a) s fun applied s' =>
      ∃ b', tellReversal targets now evidence a b = .ok (applied, b') ∧ b'.Shows s' := by
  unfold reverseHostTarget tellReversal
  have untold : Ensures (pure true : LifecycleProgram η Bool) s fun applied s' =>
      ∃ b', (pure true : HostProgram η Bool) b = .ok (applied, b') ∧ b'.Shows s' :=
    ensures_pure.mpr ⟨b, rfl, hb⟩
  -- The host is asked only of a full reversal of a host charge, and by the same callback.
  cases evidence.state.fullReversalKind with
  | none => exact untold
  | some kind =>
    cases a.kind with
    | subscriptionInitial | subscriptionRenewal | subscriptionRecovery
    | subscriptionPaymentMethodUpdate => exact untold
    | hostCharge =>
      cases a.hostChargeTargetId with
      | none => exact ensures_throw
      | some targetId =>
        dsimp only
        rw [ensures_bind, ensures_get]
        cases hanswer : targets.reversals db (hostReversal now evidence a kind targetId) s.host with
        | none => exact ensures_throw
        | some answer =>
          obtain ⟨h, outcome⟩ := answer
          rw [HostChargeTargetStore.reversals, hreads _ db b.db, hb.host] at hanswer
          dsimp only
          rw [ensures_bind]
          refine ensures_modify.mpr (ensures_pure.mpr
            ⟨{ b with
                host := h
                told := b.told ++
                  [.transition (hostReversal now evidence a kind targetId).transition outcome] },
              ?_, hb.accounts, hb.attempts, rfl⟩)
          simp only [tellHost, askHost, bind, StateT.bind, hanswer]
          rfl

/-- A step that changes nothing of what a deployment shows. -/
def Unshown (s s' : LifecycleStore η) : Prop := ∀ b : HostBilling η, b.Shows s → b.Shows s'

instance : Std.Refl (Unshown (η := η)) := ⟨fun _ _ h => h⟩

instance : IsTrans (LifecycleStore η) Unshown := ⟨fun _ _ _ h h' b hb => h' b (h b hb)⟩

/-- The pending rows and the quarantines are not shown. -/
theorem concludeEvidence_unshown (transition : LifecycleTransition) :
    Keeps Unshown (concludeEvidence (η := η) now newId account evidence pendingId transition) := by
  have hquarantines (f) : Keeps (Unshown (η := η)) (onQuarantines f) :=
    keeps_statement fun _ _ _ _ b hb => ⟨hb.accounts, hb.attempts, hb.host⟩
  have hpending : Keeps (Unshown (η := η)) (deletePending account pendingId) := by
    unfold deletePending
    split
    · exact keeps_pure ()
    · intro s
      rw [ensures_bind, ensures_get]
      exact ensures_modify.mpr fun b hb => ⟨hb.accounts, hb.attempts, hb.host⟩
  unfold concludeEvidence
  split <;> exact (hquarantines _).bind fun _ => hpending.bind fun _ => keeps_pure _

/-- Staging changes the pending rows. -/
theorem stageUnlessPending_unshown :
    Keeps Unshown (stageUnlessPending (η := η) now newId account evidence pendingId) := by
  unfold stageUnlessPending
  split
  · intro s
    have unshown (pending : List PendingUpdate) (staged : Bool) :
        Ensures (do
          set { s with pending }
          pure staged : LifecycleProgram η Bool) s fun _ s' => Unshown s s' := by
      rw [ensures_bind]
      refine ensures_modify.mpr (ensures_pure.mpr fun b hb => ?_)
      exact ⟨hb.accounts, hb.attempts, hb.host⟩
    rw [stageEvidence, ensures_bind, ensures_get, ensures_ite]
    refine ⟨fun _ => ensures_throw, fun _ => ?_⟩
    rw [ensures_ite]
    refine ⟨fun _ => ensures_throw, fun _ => ?_⟩
    rw [ensures_ite]
    refine ⟨fun _ => unshown _ _, fun _ => ?_⟩
    rw [ensures_ite]
    exact ⟨fun _ => ensures_throw, fun _ => unshown _ _⟩
  · exact keeps_pure false

/-- The outcome that is concluded of a transition. -/
def LifecycleTransition.outcome : LifecycleTransition → GatewayLifecycleApplyOutcome
  | .apply _ => .applied
  | .alreadySuperseded => .alreadySuperseded
  | .invalidRefundEconomics => .invalidRefundEconomics
  | .conflictingLifecycleEvidence => .conflictingLifecycleEvidence

/-- So it is when it commits. -/
theorem ensures_concludeEvidence (transition : LifecycleTransition) :
    Ensures (concludeEvidence now newId account evidence pendingId transition) s
      fun outcome _ => outcome = transition.outcome := by
  unfold concludeEvidence
  split <;>
  · rw [ensures_bind]
    intro _ _ _
    rw [ensures_bind]
    intro _ _ _
    exact ensures_pure.mpr rfl

/-- A result of the store is its own, and the tables stay. -/
theorem ensures_liftLifecycle {α : Type} {x : Except StoreError α}
    {Q : α → LifecycleStore η → Prop} (h : ∀ a, x = .ok a → Q a s) :
    Ensures (liftLifecycle x) s Q := by
  intro a s' hrun
  cases x with
  | ok a' =>
    obtain ⟨rfl, rfl⟩ := Prod.mk.inj (Except.ok.inj hrun)
    exact h _ rfl
  | error e => cases hrun

/-- What a report of a deployment does, given what the whole transaction does: a refusal of the host
rolls it back. -/
def Mirrors {α : Type} (x : HostProgram η α) (b : HostBilling η) (refused : Bool) (a : α)
    (s' : LifecycleStore η) : Prop :=
  if refused then x b = .error .refused else ∃ b', x b = .ok (a, b') ∧ b'.Shows s'

/-- Whether the host has refused. -/
def GatewayLifecycleApplyOutcome.isRefusal : GatewayLifecycleApplyOutcome → Bool
  | .hostTargetTransitionSkipped => true
  | _ => false

/-- A transition is not refused. -/
@[simp]
theorem LifecycleTransition.isRefusal_outcome (transition : LifecycleTransition) :
    transition.outcome.isRefusal = false := by
  cases transition <;> rfl

/-- The report on its candidate. -/
theorem reportCandidate_of_applyToCandidate {candidate : AttemptCandidate} {db : Db}
    (hreads : targets.ReadsOwnTables) (hindex : attemptIndexes b.db.attempts = true)
    (hb : b.Shows s) :
    Ensures (applyToCandidate (targets.reversals db) now newId account evidence pendingId candidate)
      s
      fun outcome s' => Mirrors (reportCandidate targets now account evidence candidate) b
        outcome.isRefusal outcome s' := by
  rw [applyToCandidate, ensures_bind]
  refine ensures_liftLifecycle fun transition htransition => ?_
  have hread : onEngine (Tx.read fun _ => lifecycleTransition candidate.currentState
      candidate.attempt.lifecycle.refundedAmountCents candidate.attempt.lifecycle.lifecycleAt
      evidence.state evidence.effectiveAt candidate.attempt.amountCents) b =
          .ok (transition, b) := by
    simp only [onEngine, Tx.read, htransition, Except.map]
  -- Once the deployment has reported, the rest of the transaction is about rows it does not show.
  have concluded {b' : HostBilling η} {s₁ : LifecycleStore η} (hb' : b'.Shows s₁)
      (hreport : reportCandidate targets now account evidence candidate b =
        .ok (transition.outcome, b')) :
      Ensures (concludeEvidence (η := η) now newId account evidence pendingId transition) s₁
        fun outcome s' => Mirrors (reportCandidate targets now account evidence candidate) b
          outcome.isRefusal outcome s' := by
    refine ((concludeEvidence_unshown transition s₁).and (ensures_concludeEvidence transition)).mono
      fun outcome s' hend => ?_
    obtain ⟨hunshown, rfl⟩ := hend
    rw [Mirrors, LifecycleTransition.isRefusal_outcome]
    exact ⟨b', hreport, hunshown b' hb'⟩
  cases transition with
  | apply refunded =>
    have hnext : reportCandidate targets now account evidence candidate b = (do
        onEngine (onAttempts (reportAttempt now account refunded evidence candidate.attempt.id))
        if ← tellReversal targets now evidence candidate.attempt then pure .applied
        else throw .refused : HostProgram η GatewayLifecycleApplyOutcome) b := by
      simp only [reportCandidate, bind, StateT.bind, hread, Except.bind]
    dsimp only
    rw [ensures_bind]
    have hamount := storedAmountIsValid_of_lifecycleTransition htransition
    refine (reportAttempt_of_updateAttempt hb hindex hamount).mono fun _ s₁ hwritten => ?_
    obtain ⟨attempts, hreported, hb₁⟩ := hwritten
    rw [ensures_bind]
    refine (tellReversal_of_reverseHostTarget hreads hb₁).mono fun applied s₂ hasked => ?_
    obtain ⟨b', htold, hb'⟩ := hasked
    have hreport : reportCandidate targets now account evidence candidate b =
        (if applied then pure .applied else throw .refused : HostProgram η _) b' := by
      simp only [hnext, bind, StateT.bind, onEngine, onAttempts, Tx.statement, hreported,
        Except.map, Except.bind, htold]
    rw [ensures_ite]
    refine ⟨fun happlied => ?_, fun happlied => ?_⟩
    · rw [if_pos happlied] at hreport
      exact concluded hb' hreport
    · rw [if_neg happlied] at hreport
      exact ensures_pure.mpr hreport
  | alreadySuperseded | invalidRefundEconomics | conflictingLifecycleEvidence =>
    refine concluded hb ?_
    simp only [reportCandidate, bind, StateT.bind, hread, Except.bind]
    rfl

/-- A report of a deployment is the transaction of the lifecycle on its own tables: it has the same
outcome, and does the same to the attempts and to the host; a refusal of the host rolls it back. -/
theorem reportLifecycle_of_evidenceTransaction (hreads : targets.ReadsOwnTables)
    (hindex : attemptIndexes b.db.attempts = true) (hb : b.Shows s) :
    Ensures (evidenceTransaction (targets.reversals b.db) now newId account evidence pendingId) s
      fun application s' => Mirrors (reportLifecycle targets now account evidence) b
        application.outcome.isRefusal application.outcome s' := by
  rw [evidenceTransaction, ensures_bind, ensureLifecycleAccount, ensures_bind, ensures_get,
    ensures_ite]
  refine ⟨fun haccount => ensures_pure.mpr ?_, fun _ => ensures_throw⟩
  rw [ensures_bind, ensures_get, ensures_bind]
  refine ensures_liftLifecycle fun candidates hcandidates => ?_
  rw [hb.accounts] at haccount
  rw [hb.attempts] at hcandidates
  cases hselected : selectedCandidate candidates with
  | none =>
    have hnext : reportLifecycle targets now account evidence b =
        .ok (if candidates = [] then .stagedNoMatch else .stagedAmbiguous, b) := by
      simp only [reportLifecycle, bind, StateT.bind, get, getThe, MonadStateOf.get, StateT.get,
        pure, Except.pure, Except.bind, haccount, not_true, if_false, onEngine, Tx.read,
        reportCandidates, hcandidates, Except.map, hselected]
      rfl
    have hstaged : (if candidates = [] then .stagedNoMatch else .stagedAmbiguous :
        GatewayLifecycleApplyOutcome).isRefusal = false := by
      split <;> rfl
    dsimp only
    rw [ensures_bind]
    refine (stageUnlessPending_unshown s).mono fun _ s' hunshown => ensures_pure.mpr ?_
    rw [Mirrors, hstaged, hnext]
    exact ⟨b, rfl, hunshown b hb⟩
  | some candidate =>
    have hnext : reportLifecycle targets now account evidence b =
        reportCandidate targets now account evidence candidate b := by
      simp only [reportLifecycle, bind, StateT.bind, get, getThe, MonadStateOf.get, StateT.get,
        pure, Except.pure, Except.bind, haccount, not_true, if_false, onEngine, Tx.read,
        reportCandidates, hcandidates, Except.map, hselected]
    dsimp only
    rw [ensures_bind]
    refine (reportCandidate_of_applyToCandidate hreads hindex hb).mono
      fun outcome s' hreport => ensures_pure.mpr ?_
    rw [Mirrors, hnext]
    exact hreport

end Reports

end SyrupRail
