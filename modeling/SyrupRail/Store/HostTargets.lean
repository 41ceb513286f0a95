import SyrupRail.Store.HostStatements
import SyrupRail.Store.ManualFailure

/-!
# The host's targets follow the ledger

Over any run of a deployment, with any host: the events of paid targets are exactly the approved
host charges, each announced once with its target and amount; the host agreed to be paid in the
transaction of each; and once it has agreed, the host is not told of that attempt that its target is
released or that it failed. It may still be told that the payment was taken back, by a lifecycle
report of a full reversal, and that only after a payment. A subscriber pays for a target of a scope
once; nothing keeps two subscribers from paying for one target but the host.

`HostStep` says what a transaction that commits did, with the guards it passed; `HostOp.step` takes
the programs apart once. The laws of `TargetsFollow` are then proved by cases on it.
-/

namespace SyrupRail

open Transactions Tx

/-! ## What is paid -/

/-- The event of an approved host charge. -/
def PaymentAttempt.hostPayment (a : PaymentAttempt) : Option HostChargePaid :=
  match a.target with
  | .hostCharge targetId =>
    if a.status = .approved then
      some ⟨a.billingScopeId, a.subscriberId, a.id, targetId, a.amount⟩
    else none
  | _ => none

/-- Whether a writer does not pay for a target. -/
def AttemptWriter.paysNothing (w : AttemptWriter) : Prop :=
  ∀ evidence, w ≠ .persist evidence (.approved .hostCharge)

instance : CommonWriters AttemptWriter.paysNothing where
  allowed w hw evidence heq := by
    subst heq
    cases hw

section Payments

variable {now : Timestamp} {a a' : PaymentAttempt}

/-- The event of an attempt depends on its request and on whether it is approved. -/
theorem hostPayment_congr (hsame : a.SameRequest a')
    (hstatus : a'.status = .approved ↔ a.status = .approved) : a'.hostPayment = a.hostPayment := by
  have hscope : a'.billingScopeId = a.billingScopeId := congrArg AttemptRequest.billingScopeId hsame
  have hsubscriber : a'.subscriberId = a.subscriberId := congrArg AttemptRequest.subscriberId hsame
  unfold PaymentAttempt.hostPayment
  rw [hsame.target, hscope, hsubscriber, hsame.id, hsame.amount]
  simp only [hstatus]

/-- A revision neither pays nor takes a payment back. -/
theorem PaymentAttempt.Revised.hostPayment (h : a.Revised a') : a'.hostPayment = a.hostPayment := by
  rw [h.row]
  rfl

/-- Only an approval of a host charge pays: the linkage of any other one is not that of a host
charge. -/
theorem AttemptWriter.hostPayment_of_write {w : AttemptWriter} (hw : w.paysNothing)
    (h : w.write now a = .ok a') : a'.hostPayment = a.hostPayment := by
  rcases AttemptWriter.write_stores h with rfl | hstores
  · rfl
  by_cases happroved : a.status = .approved
  · have hsame : a' = { a with updatedAt := a'.updatedAt } :=
      AttemptWriter.write_approved h happroved
    rw [hsame]
    rfl
  by_cases happroved' : a'.status = .approved
  · -- The row is approved by the writer, so it is no host charge.
    rcases hstores.approved happroved' with happroves | hstatus
    · obtain ⟨evidence, approval, rfl⟩ := AttemptWriter.approves_eq_true happroves
      obtain ⟨subscriptionId, methodId, rfl⟩ : ∃ s m, approval = .subscription s m := by
        cases approval with
        | hostCharge => exact absurd rfl (hw evidence)
        | subscription s m => exact ⟨s, m, rfl⟩
      obtain ⟨-, hchecks, r, hrow⟩ := PaymentAttempt.update_eq_some (requireOneRow_eq_ok h)
      have hkind : a'.kind ≠ .hostCharge := by
        intro hkind
        have hshape : a'.relationshipShapeCheck = true := by
          simp only [PaymentAttempt.checks, Bool.and_eq_true] at hchecks
          exact hchecks.1.1.1.1
        rw [PaymentAttempt.relationshipShapeCheck, hkind, hrow] at hshape
        simp [AttemptTransition.row, PaymentAttempt.record] at hshape
      have hnone {b : PaymentAttempt} (hb : b.kind ≠ .hostCharge) : b.hostPayment = none := by
        unfold PaymentAttempt.hostPayment
        split
        · rename_i heq
          exact absurd (by rw [PaymentAttempt.kind, heq]; rfl) hb
        · rfl
      rw [hnone hkind, hnone (hstores.same.kind ▸ hkind)]
    · exact absurd (hstatus ▸ happroved') happroved
  · exact hostPayment_congr hstores.same (by simp only [happroved, happroved'])

/-- The payments of a table, in the order of its rows. -/
def hostPayments (attempts : List PaymentAttempt) : List HostChargePaid :=
  attempts.filterMap PaymentAttempt.hostPayment

variable {db db' : Db}

/-- A statement that pays nothing leaves the payments. -/
theorem Statement.hostPayments (h : Statement AttemptWriter.paysNothing now db db')
    (hkeyed : db.Keyed) :
    SyrupRail.hostPayments db'.attempts = SyrupRail.hostPayments db.attempts := by
  cases h with
  | insertAttempt n =>
    unfold SyrupRail.insertAttempt
    split_ifs
    · have hrow : n.row.hostPayment = none := by
        unfold PaymentAttempt.hostPayment
        split
        · rfl
        · rfl
      exact List.filterMap_cons_none hrow
    · rfl
  | writeAttempt allowed written =>
    obtain ⟨a, ha, rfl, a', hw, rfl, -⟩ := writeAttempt_eq_ok written
    refine Table.filterMap_eq_of_forall₂
      (Table.forall₂_updateWhere (fun b hb hid => ?_) fun _ => rfl)
    obtain rfl := nodup_id_of_attemptIndexes hkeyed.attempts hb ha (of_decide_eq_true hid)
    exact AttemptWriter.hostPayment_of_write allowed hw
  | writeAttempts allowed written =>
    refine Table.filterMap_eq_of_forall₂
      ((forall₂_of_writeAttempts written).1.imp fun a a' ha => ?_)
    rcases ha with ⟨-, hw⟩ | ⟨-, rfl⟩
    · exact AttemptWriter.hostPayment_of_write allowed hw
    · rfl
  | revise rows indexes => exact Table.filterMap_eq_of_forall₂ (rows.imp fun _ _ h => h.hostPayment)
  | _ => rfl

/-- So do many. -/
theorem Statements.hostPayments (h : Statements AttemptWriter.paysNothing now db db')
    (hkeyed : db.Keyed) :
    SyrupRail.hostPayments db'.attempts = SyrupRail.hostPayments db.attempts := by
  induction h with
  | refl => rfl
  | tail hsteps hstep ih =>
    calc SyrupRail.hostPayments _
        = SyrupRail.hostPayments _ := hstep.hostPayments (Statements.recordKept hsteps hkeyed).1
      _ = SyrupRail.hostPayments db.attempts := ih

end Payments

/-! ## What the host is told -/

/-- The statements of a transaction that pays for no target. -/
abbrev HostStatements : Timestamp → Db → Db → Prop := Statements AttemptWriter.paysNothing

namespace HostNotice

/-- The attempt that the host is told of. -/
def attemptId : HostNotice → Id
  | .transition t _ => t.attemptId
  | .released attemptId _ | .failed attemptId _ => attemptId

/-- The scope, the subscriber and the target that the host is told of. -/
def subject : HostNotice → Id × Id × Id
  | .transition t _ => (t.billingScopeId, t.subscriberId, t.targetId)
  | .released _ r => (r.billingScopeId, r.subscriberId, r.targetId)
  | .failed _ charge => (charge.billingScopeId, charge.subscriberId, charge.targetId)

/-- Whether the host agreed to be paid. -/
def isPayment : HostNotice → Bool
  | .transition t outcome => t.kind = .paid && outcome.isApplied
  | .released .. | .failed .. => false

/-- Whether the host is told that a payment was taken back. -/
def isReversal : HostNotice → Bool
  | .transition t _ => t.kind.isReversal
  | .released .. | .failed .. => false

/-- Whether the host is told that the attempt is over without a payment. -/
def givesUp : HostNotice → Bool
  | .transition t _ => t.kind ≠ .paid && !t.kind.isReversal
  | .released .. | .failed .. => true

/-- Whether the host, if it is asked, agrees to everything but a payment. -/
def isAgreed : HostNotice → Bool
  | .transition t outcome => t.kind = .paid || outcome.isApplied
  | .released .. | .failed .. => true

end HostNotice

/-- What the host is told of an attempt. -/
def PaymentAttempt.targetTransition (now : Timestamp) (targetId : Id)
    (kind : HostChargeTargetTransitionKind) (a : PaymentAttempt) : HostChargeTargetTransition :=
  ⟨a.billingScopeId, a.subscriberId, a.id, targetId, kind, now⟩

/-- What a transaction that commits may tell of a host charge without a payment: one that is already
there, one that the host finds stale, and one that is taken back; and that the target of an open
attempt is given up, when the host agrees, that an operator failed it, or that a charge of an
attempt that is not approved was reversed outside. -/
inductive MayTell (a : PaymentAttempt) (targetId : Id) : HostNotice → Prop
  | again (now : Timestamp) (outcome : HostTargetOutcome) (approved : a.status = .approved) :
      MayTell a targetId (.transition (a.targetTransition now targetId .paid) outcome)
  | stale (now : Timestamp) (open_ : a.status.isResolvable = true) :
      MayTell a targetId (.transition (a.targetTransition now targetId .paid) .staleTarget)
  | givenUp (now : Timestamp) {kind : HostChargeTargetTransitionKind} {outcome : HostTargetOutcome}
      (unpaid : kind ≠ .paid) (kept : kind.isReversal = false) (applied : outcome.isApplied = true)
      (open_ : a.status.isResolvable = true) :
      MayTell a targetId (.transition (a.targetTransition now targetId kind) outcome)
  | reversed (at_ : Timestamp) (kind : PaymentReversalKind) {outcome : HostTargetOutcome}
      (applied : outcome.isApplied = true) (approved : a.status = .approved) :
      MayTell a targetId (.transition (a.targetTransition at_ targetId (.reversed kind)) outcome)
  | released (unpaid : a.status ≠ .approved) :
      MayTell a targetId (.released a.id ⟨a.billingScopeId, a.subscriberId, targetId⟩)
  | failed (open_ : a.status.isResolvable = true) :
      MayTell a targetId (.failed a.id ⟨a.billingScopeId, a.subscriberId, targetId⟩)

/-- What the host was told is of the attempt `a`: of a payment that it agreed to, and of one that
was taken back, only when the attempt is approved. -/
structure HostNotice.IsOf (n : HostNotice) (a : PaymentAttempt) : Prop where
  id : n.attemptId = a.id
  target : ∃ targetId, a.target = .hostCharge targetId ∧
    n.subject = (a.billingScopeId, a.subscriberId, targetId)
  approved : (n.isPayment || n.isReversal) = true → a.status = .approved
  agreed : n.isAgreed = true

section Notices

variable {a a' : PaymentAttempt} {targetId : Id} {n : HostNotice}

/-- An open attempt is not approved. -/
theorem not_approved_of_isResolvable (h : a.status.isResolvable = true) : a.status ≠ .approved := by
  intro happroved
  rw [happroved] at h
  cases h

/-- What may be told of an attempt is of it. -/
theorem MayTell.isOf (h : MayTell a targetId n) (htarget : a.target = .hostCharge targetId) :
    n.IsOf a := by
  cases h with
  | again now outcome approved => exact ⟨rfl, ⟨targetId, htarget, rfl⟩, fun _ => approved, rfl⟩
  | stale now open_ => exact ⟨rfl, ⟨targetId, htarget, rfl⟩, (fun h => by cases h), rfl⟩
  | @givenUp now kind outcome unpaid kept applied open_ =>
    refine ⟨rfl, ⟨targetId, htarget, rfl⟩, fun h => ?_, ?_⟩
    · simp [HostNotice.isPayment, HostNotice.isReversal, PaymentAttempt.targetTransition, unpaid,
        kept] at h
    · simp [HostNotice.isAgreed, applied]
  | reversed at_ kind applied approved =>
    exact ⟨rfl, ⟨targetId, htarget, rfl⟩, fun _ => approved, by simp [HostNotice.isAgreed, applied]⟩
  | released unpaid => exact ⟨rfl, ⟨targetId, htarget, rfl⟩, (fun h => by cases h), rfl⟩
  | failed open_ => exact ⟨rfl, ⟨targetId, htarget, rfl⟩, (fun h => by cases h), rfl⟩

/-- Of an approved attempt the host is not told that it is over. -/
theorem MayTell.keeps (h : MayTell a targetId n) (happroved : a.status = .approved) :
    n.givesUp = false := by
  cases h with
  | again now outcome approved => rfl
  | stale now open_ => rfl
  | givenUp now unpaid kept applied open_ =>
    exact absurd happroved (not_approved_of_isResolvable open_)
  | reversed at_ kind applied approved => rfl
  | released unpaid => exact absurd happroved unpaid
  | failed open_ => exact absurd happroved (not_approved_of_isResolvable open_)

/-- The target of a row. -/
theorem PaymentAttempt.target_of_hostChargeTargetId (h : a.hostChargeTargetId = some targetId) :
    a.target = .hostCharge targetId := by
  unfold hostChargeTargetId at h
  split at h
  · rename_i htarget
    rw [htarget, Option.some.inj h]
  · cases h

/-- What was told of an attempt is of its later rows. -/
theorem HostNotice.IsOf.endures (h : n.IsOf a) (hends : a.Endures a') : n.IsOf a' where
  id := h.id.trans hends.id.symm
  target := by
    obtain ⟨targetId, htarget, hsubject⟩ := h.target
    refine ⟨targetId, hends.target.trans htarget, ?_⟩
    rw [hsubject, hends.billingScopeId, hends.subscriberId]
  approved hn := by
    have happroved := h.approved hn
    exact (hends.approved happroved).status.trans happroved
  agreed := h.agreed

end Notices

/-! ## What a transaction does -/

section Steps

variable {η : Type} {now : Timestamp}

/-- What a transaction that commits has done. -/
inductive HostStep (now : Timestamp) (s s' : HostBilling η) : Prop
  | quiet (quiet : HostQuiet AttemptWriter.paysNothing now s s')
  /-- The host is told of an attempt, and nothing is paid. -/
  | told {a : PaymentAttempt} {targetId : Id} {n : HostNotice} (mem : a ∈ s.db.attempts)
      (target : a.target = .hostCharge targetId) (may : MayTell a targetId n)
      (statements : HostStatements now s.db s'.db) (paid : s'.paid = s.paid)
      (told : s'.told = s.told ++ [n])
  /-- The host agrees to be paid, and the attempt is approved. -/
  | paid {a : PaymentAttempt} {targetId : Id} {outcome : HostTargetOutcome} {e : StoreError}
      {evidence : ProcessorEvidence} {db : Db} {attempts : List PaymentAttempt}
      (mem : a ∈ s.db.attempts) (target : a.target = .hostCharge targetId)
      (applied : outcome.isApplied = true) (before : HostStatements now s.db db)
      (written : writeAttempt now e a.id (.persist evidence (.approved .hostCharge)) db.attempts =
        .ok attempts)
      (after : HostStatements now { db with attempts } s'.db)
      (paid : s'.paid =
        s.paid ++ [(now, ⟨a.billingScopeId, a.subscriberId, a.id, targetId, a.amount⟩)])
      (told : s'.told = s.told ++ [.transition (a.targetTransition now targetId .paid) outcome])

variable (now) in
/-- The attempt of a reservation has its target, and the host is told of it under its identity. -/
theorem HostChargeReservation.transition_of_matches {r : HostChargeReservation} {a : PaymentAttempt}
    (h : r.matchesAttempt a = true) (kind : HostChargeTargetTransitionKind) :
    a.target = .hostCharge r.snapshot.targetId ∧
      r.transition now kind = a.targetTransition now r.snapshot.targetId kind ∧
      r.paidEvent = ⟨a.billingScopeId, a.subscriberId, a.id, r.snapshot.targetId, a.amount⟩ := by
  simp only [matchesAttempt, decide_eq_true_eq] at h
  obtain ⟨hidentity, htarget, -, hamount, -⟩ := h
  refine ⟨htarget, ?_, ?_⟩
  · rw [transition, ← hidentity]
    rfl
  · rw [paidEvent, ← hidentity, hamount]
    rfl

/-- An approval that commits has paid for the target, or found it paid or stale. -/
theorem applyHostChargeApproved_step (targets : HostChargeTargetStore η) (newId : Id)
    (liveRecipient : Bool) (r : HostChargeReservation) (evidence : ProcessorEvidence)
    (s : HostBilling η) :
    Ensures (applyHostChargeApproved targets now newId liveRecipient r evidence) s
      fun _ s' => HostStep now s s' := by
  rw [applyHostChargeApproved, ensures_ite]
  refine ⟨fun _ => ensures_throw, fun _ => ?_⟩
  rw [ensures_bind]
  refine ensures_tellHost fun host outcome => ?_
  rw [ensures_bind]
  refine ensures_onEngine (ensures_lockExpectedHostCharge fun a ha hmatches => ?_)
  obtain ⟨htarget, htransition, hevent⟩ :=
    HostChargeReservation.transition_of_matches now hmatches .paid
  rw [ensures_ite]
  refine ⟨fun _ => ensures_throw, fun _ => ?_⟩
  rw [ensures_ite]
  refine ⟨fun happroved => ?_, fun _ => ?_⟩
  -- An approved attempt observes the charge once more, whatever the host has answered.
  · have hobserve : Keeps (HostQuiet (η := η) AttemptWriter.paysNothing now) (do
        let _ ← onEngine (observe now newId a evidence .applied)
        pure a) :=
      (onEngine_quiet (observe_statements _ _ _ _)).bind fun _ => keeps_pure a
    refine (hobserve _).mono fun _ s' hquiet => ?_
    refine .told ha htarget (.again now outcome happroved) hquiet.statements hquiet.paid ?_
    rw [hquiet.told, htransition]
  rw [ensures_ite]
  refine ⟨fun _ => ensures_throw, fun hopen => ?_⟩
  have hresolvable : a.status.isResolvable = true := by
    simpa [PaymentAttemptStatus.isTerminal_eq_not] using hopen
  rw [ensures_bind]
  have hclaims : Keeps (HostQuiet (η := η) AttemptWriter.paysNothing now)
      (onEngine (claimHostCharge now newId a evidence)) :=
    onEngine_quiet (claimHostCharge_statements newId a evidence)
  refine (hclaims _).mono fun charge s₁ hclaim => ?_
  -- With the host's agreement the attempt is approved and announced, in this order.
  have hpaid : outcome.isApplied = true → Ensures (do
      let applied ← onEngine (payHostCharge now r a evidence charge.id)
      appendPaid now r.paidEvent
      pure applied) s₁ fun _ s' => HostStep now s s' := by
    intro happlied
    rw [ensures_bind]
    refine ensures_onEngine ((ensures_payHostCharge (W := AttemptWriter.paysNothing) r a evidence
      charge.id _).mono fun applied db' hpay => ?_)
    obtain ⟨attempts, hwritten, hafter⟩ := hpay
    rw [ensures_bind, appendPaid, ensures_modify, ensures_pure]
    refine .paid ha htarget happlied hclaim.statements hwritten hafter ?_ ?_
    · rw [hevent, hclaim.paid]
    · rw [hclaim.told, htransition]
  cases outcome with
  | applied => exact hpaid rfl
  | exactReplay => exact hpaid rfl
  | staleTarget =>
    refine (onEngine_quiet (W := AttemptWriter.paysNothing)
      (parkStaleHostCharge_statements a evidence charge.id) s₁).mono fun _ s' hpark => ?_
    have hquiet := trans_of (HostQuiet AttemptWriter.paysNothing now) hclaim hpark
    refine .told ha htarget (.stale now hresolvable) hquiet.statements hquiet.paid ?_
    rw [hquiet.told, htransition]
  | unchanged => exact ensures_throw

/-- A resolution that commits was agreed to by the host, for an open attempt. -/
theorem resolveHostChargeNonApproved_step (targets : HostChargeTargetStore η) (newId : Id)
    (r : HostChargeReservation) (observed : ProcessorEvidence) (c : OutcomeResolutionCommand)
    (s : HostBilling η) :
    Ensures (resolveHostChargeNonApproved targets now newId r observed c) s
      fun _ s' => HostStep now s s' := by
  rw [resolveHostChargeNonApproved, ensures_bind]
  refine ensures_tellHost fun host outcome => ?_
  rw [ensures_ite]
  refine ⟨fun _ => ensures_throw, fun happlied => ?_⟩
  rw [ensures_bind]
  refine ensures_onEngine (ensures_lockExpectedHostCharge fun a ha hmatches => ?_)
  obtain ⟨htarget, htransition, -⟩ :=
    HostChargeReservation.transition_of_matches now hmatches c.boundary.targetTransition
  rw [ensures_ite]
  refine ⟨fun _ => ensures_throw, fun hmay => ?_⟩
  have hresolvable : a.status.isResolvable = true := by
    simp only [hostChargeAttemptMayResolve, Bool.not_eq_false, Bool.and_eq_true] at hmay
    exact hmay.1
  rw [ensures_ite]
  refine ⟨fun _ => ensures_throw, fun _ => ?_⟩
  have hgivenUp : c.boundary.targetTransition ≠ .paid ∧
      c.boundary.targetTransition.isReversal = false := by
    cases c.boundary <;> exact ⟨nofun, rfl⟩
  refine (onEngine_quiet (W := AttemptWriter.paysNothing)
    (resolveLockedHostCharge_statements newId r a _ c) _).mono fun _ s' hquiet => ?_
  refine .told ha htarget (.givenUp now hgivenUp.1 hgivenUp.2 (by simpa using happlied) hresolvable)
    hquiet.statements hquiet.paid ?_
  rw [hquiet.told, htransition]

/-- So was an expiry. -/
theorem failStaleHostCharge_step (targets : HostChargeTargetStore η) (c : StaleHostChargeCandidate)
    (s : HostBilling η) :
    Ensures (failStaleHostCharge targets now c) s fun _ s' => HostStep now s s' := by
  rw [failStaleHostCharge, ensures_bind]
  refine ensures_tellHost fun host outcome => ?_
  rw [ensures_ite]
  refine ⟨fun _ => ensures_throw, fun happlied => ?_⟩
  rw [ensures_bind, ensures_get, ensures_ite]
  refine ⟨fun hany => ?_, fun _ => ensures_throw⟩
  obtain ⟨a, ha, hstale⟩ := List.any_eq_true.mp hany
  simp only [StaleHostChargeCandidate.isStale, decide_eq_true_eq] at hstale
  obtain ⟨hid, hscope, hsubscriber, htarget, -, hunsubmitted⟩ := hstale
  have hopen := PaymentAttempt.isResolvable_of_isStaleUnsubmitted hunsubmitted
  refine (onEngine_quiet (W := AttemptWriter.paysNothing) (writeAttempts_statements _ _ rfl) _).mono
    fun _ s' hquiet => ?_
  have hunpaid : HostChargeTargetTransitionKind.releasedBeforeSubmission ≠ .paid := nofun
  refine .told ha htarget (.givenUp now hunpaid rfl (by simpa using happlied) hopen)
    hquiet.statements hquiet.paid ?_
  rw [hquiet.told, PaymentAttempt.targetTransition, hid, hscope, hsubscriber]

/-- A report that commits leaves the host alone, or has told it of an approved charge that was taken
back. -/
theorem reportLifecycle_step (targets : HostChargeTargetStore η) (account : GatewayLifecycleAccount)
    (evidence : StoredEvidence) (s : HostBilling η) :
    Ensures (reportLifecycle targets now account evidence) s fun _ s' => HostStep now s s' := by
  have unchanged {outcome : GatewayLifecycleApplyOutcome} :
      Ensures (pure outcome : HostProgram η GatewayLifecycleApplyOutcome) s
        fun _ s' => HostStep now s s' :=
    ensures_pure.mpr (.quiet ⟨.refl, rfl, rfl⟩)
  rw [reportLifecycle, ensures_bind, ensures_get, ensures_ite]
  refine ⟨fun _ => ensures_throw, fun _ => ?_⟩
  rw [ensures_bind]
  refine ensures_onEngine (ensures_read.mpr fun candidates hcandidates => ?_)
  cases hselected : selectedCandidate candidates with
  | none => exact unchanged
  | some candidate =>
    -- The candidate is an approved attempt.
    obtain ⟨hmem, happroved⟩ :=
      attempt_mem_of_attemptCandidates hcandidates (selectedCandidate_mem hselected)
    obtain ⟨a, ha, hrow⟩ := List.mem_map.mp hmem
    rw [← hrow] at happroved
    have happroved : a.status = .approved := (of_decide_eq_true happroved).2.2
    show Ensures (reportCandidate targets now account evidence candidate) s _
    rw [reportCandidate, ensures_bind]
    refine ensures_onEngine (ensures_read.mpr fun transition _ => ?_)
    cases transition with
    | alreadySuperseded => exact unchanged
    | invalidRefundEconomics => exact unchanged
    | conflictingLifecycleEvidence => exact unchanged
    | apply refunded =>
      dsimp only
      rw [ensures_bind, ← hrow]
      refine ensures_onEngine ((reportAttempt_statements (W := AttemptWriter.paysNothing) account
        refunded evidence _ s.db).mono fun _ db' hstatements => ?_)
      rw [ensures_bind]
      refine ensures_tellReversal ?_ fun kind targetId h outcome htarget => ensures_ite.mpr
        ⟨fun happlied => ensures_pure.mpr ?_, fun _ => ensures_throw⟩
      · exact ensures_pure.mpr (.quiet ⟨hstatements, rfl, rfl⟩)
      · exact .told ha (PaymentAttempt.target_of_hostChargeTargetId htarget)
          (.reversed _ kind happlied happroved) hstatements rfl rfl

/-- An attestation releases the target of a host charge that is not approved, or leaves the host
alone. -/
theorem attestedRows_logged {rules : TextRules} {reversals : ExternalReversalHostStore η}
    {t : ReversalAttestation} {before after : Db} {h h' : η}
    {log log' : List ExternalReversalHostChargeRelease}
    {rows : PaymentAttempt × ExternalReversalAttestation}
    (hrun : attestedRows rules reversals.logged t before (h, log) after =
      .ok (rows.1, rows.2, h', log')) :
    log' = log ∨ ∃ c a targetId,
      Table.findBy ProcessorCharge.id t.chargeId before.ledger.charges = some c ∧
      a ∈ before.attempts ∧ a.id = c.attemptId ∧ a.status ≠ .approved ∧
      a.target = .hostCharge targetId ∧
      log' = log ++ [⟨a.billingScopeId, a.subscriberId, targetId⟩] := by
  unfold attestedRows at hrun
  cases hfind : Table.findBy ProcessorCharge.id t.chargeId before.ledger.charges with
  | none =>
    rw [hfind] at hrun
    cases hrun
  | some c =>
    rw [hfind] at hrun
    obtain ⟨⟨a, db⟩, hlocked, hrun⟩ := bind_eq_ok.mp hrun
    obtain ⟨⟨h₁, log₁⟩, hrelease, hrun⟩ := bind_eq_ok.mp hrun
    obtain ⟨⟨_, _⟩, -, hrun⟩ := bind_eq_ok.mp hrun
    -- What follows the release does not tell the host anything.
    have hlog : log' = log₁ := by
      dsimp only at hrun
      split at hrun
      · cases hrun
      · exact (congrArg (·.2.2.2) (Except.ok.inj hrun)).symm
    rw [hlog]
    obtain ⟨ha, hid⟩ : a ∈ before.attempts ∧ a.id = c.attemptId :=
      ensures_requireAttempt (Q := fun a _ => a ∈ before.attempts ∧ a.id = c.attemptId)
        (fun a ha _ hid => ⟨ha, hid⟩) _ _ hlocked
    unfold releaseIfAllowed at hrelease
    split_ifs at hrelease with hcan
    · unfold releaseHostTarget at hrelease
      split at hrelease
      · rename_i targetId htarget
        obtain ⟨⟨logged, outcome⟩, hlogged, hfst⟩ := map_eq_ok.mp hrelease
        obtain ⟨⟨_, _⟩, -, hpair⟩ := map_eq_ok.mp hlogged
        refine .inr ⟨c, a, targetId, rfl, ha, hid, ?_, htarget, ?_⟩
        · intro happroved
          simp [canReleaseHostTarget, happroved, PaymentAttemptStatus.isTerminal] at hcan
        · obtain rfl : logged = (h₁, log₁) := hfst
          exact (congrArg (·.1.2) hpair).symm
      · cases hrelease
    · exact .inl (congrArg Prod.snd (Except.ok.inj hrelease)).symm

/-- An attestation that commits has told the host of a release, or nothing. -/
theorem attestHostReversal_step (host : HostStores η) (rules : TextRules) (t : ReversalAttestation)
    (s : HostBilling η) :
    Ensures (attestHostReversal host now rules t) s fun _ s' => HostStep now s s' := by
  intro answer s' hrun
  unfold attestHostReversal at hrun
  split at hrun
  swap
  · cases hrun
  rename_i answer' db h releases hattest
  obtain ⟨-, rfl⟩ := Prod.mk.inj (Except.ok.inj hrun)
  obtain ⟨outcome, hdb⟩ := attestReversal_of_withHost hattest
  have hstatements : HostStatements now s.db db :=
    attestReversal_statements rules t s.db outcome db hdb
  -- The releases that the host was told of are those of the log: at most one, of the attempt of the
  -- attested charge.
  have quiet (hnone : releases = []) : HostStep now s
      { s with db, host := h, told := s.told ++ releaseNotices t s.db releases } := by
    refine .quiet ⟨hstatements, rfl, ?_⟩
    subst hnone
    unfold releaseNotices
    split
    · exact List.append_nil _
    · exact List.append_nil _
  have released (rows : PaymentAttempt × ExternalReversalAttestation)
      (hrows : attestedRows rules host.toExternalReversalHostStore.logged t s.db (s.host, []) db =
        .ok (rows.1, rows.2, h, releases)) : HostStep now s
      { s with db, host := h, told := s.told ++ releaseNotices t s.db releases } := by
    rcases attestedRows_logged hrows with hnone |
      ⟨c, a, targetId, hc, ha, hid, hunpaid, htarget, hlog⟩
    · exact quiet hnone
    · refine .told ha htarget (.released hunpaid) hstatements rfl ?_
      rw [releaseNotices, hc, hlog, hid]
      rfl
  obtain ⟨⟨outcome₁, db₁⟩, -, hrest⟩ := bind_eq_ok.mp hattest
  cases outcome₁ with
  | notFound | ineligible | replayConflict =>
    obtain ⟨-, hpair⟩ := Prod.mk.inj (Except.ok.inj hrest)
    exact quiet (Prod.mk.inj (Prod.mk.inj hpair).2).2.symm
  | attested | replayed =>
    obtain ⟨⟨a, attestation, h₁, log⟩, hrows, hrest⟩ := bind_eq_ok.mp hrest
    obtain ⟨-, hpair⟩ := Prod.mk.inj (Except.ok.inj hrest)
    obtain ⟨rfl, hlast⟩ := Prod.mk.inj hpair
    obtain ⟨rfl, rfl⟩ := Prod.mk.inj hlast
    exact released (a, attestation) hrows

/-- The attempt that a manual failure has closed is the one that was under review. -/
theorem ensures_failManually_endures {sanitize : String → String} {mode : ManualFailureMode}
    {a : PaymentAttempt} {db : Db} (hindex : attemptIndexes db.attempts = true)
    (ha : a ∈ db.attempts) :
    Ensures (failManually now sanitize mode a) db fun failed _ => a.Endures failed := by
  rw [failManually, ensures_bind, ensures_onAttempts]
  intro attempts hwritten
  obtain ⟨hrows, hindex'⟩ := writeAttempt_endures hindex hwritten
  rw [ensures_bind]
  refine ensures_markPaymentFailed ?_
  rw [ensures_bind]
  refine ensures_requireAttempt fun failed hfailed _ hid => ?_
  have hends : a.Endures failed := by
    obtain ⟨a', ha', hlater⟩ := hrows a ha
    obtain rfl := nodup_id_of_attemptIndexes hindex' ha' hfailed (hlater.id.trans hid.symm)
    exact hlater
  rw [ensures_bind]
  have hrest : Ensures (applyManualRenewalFailure now mode failed) { db with attempts }
      fun _ _ => True := fun _ _ _ => trivial
  exact hrest.mono fun _ _ _ => ensures_pure.mpr hends

/-- An operator fails an open attempt. -/
theorem ensures_failReviewRequired_failed {sanitize : String → String} {mode : ManualFailureMode}
    {preloaded : Option PaymentAttempt} {db : Db} (hindex : attemptIndexes db.attempts = true) :
    Ensures (failReviewRequired now sanitize mode preloaded) db fun outcome _ =>
      ∀ failed, outcome = .failed failed →
        ∃ a ∈ db.attempts, a.status.isResolvable = true ∧ a.Endures failed := by
  have keep (outcome : ManualAttemptFailureOutcome) {db₁ : Db}
      (hne : ∀ failed, outcome ≠ .failed failed) :
      Ensures (pure outcome : Program ManualAttemptFailureOutcome) db₁ fun outcome _ =>
        ∀ failed, outcome = .failed failed →
          ∃ a ∈ db.attempts, a.status.isResolvable = true ∧ a.Endures failed :=
    ensures_pure.mpr fun failed heq => absurd heq (hne failed)
  cases preloaded with
  | none =>
    show Ensures (pure ManualAttemptFailureOutcome.notFound) db _
    exact keep .notFound (by simp)
  | some preloaded =>
    rw [failReviewRequired, ensures_ite]
    refine ⟨fun _ => keep (.keptOpen preloaded) (by simp), fun _ => ?_⟩
    rw [failReviewRequiredLocked, ensures_bind]
    refine ensures_lockPaymentFailureTarget ?_
    rw [ensures_bind, ensures_read]
    intro found hfound
    cases found with
    | none => exact keep .notFound (by simp)
    | some current =>
      obtain ⟨ha, -, -⟩ := findPaymentAttemptById_eq_some hfound
      dsimp only
      rw [ensures_bind, ensures_get, ensures_ite]
      refine ⟨fun _ => ensures_throw, fun _ => ?_⟩
      rw [ensures_ite]
      refine ⟨fun _ => keep (.keptOpen current) (by simp), fun hguard => ?_⟩
      rw [ensures_ite]
      refine ⟨fun _ => keep (.keptOpen current) (by simp), fun _ => ?_⟩
      -- The guards that are left accept the attempt, which is then under review.
      have haccepts : reviewRequiredAttemptCanBeManuallyFailed current = true := by
        have hmode : mode.accepts current = true := by
          simpa using fun h => hguard (.inl h)
        rw [ManualFailureMode.accepts, Bool.and_eq_true] at hmode
        exact hmode.1
      have hopen : current.status.isResolvable = true := by
        rw [(reviewRequiredAttemptCanBeManuallyFailed_iff.mp haccepts).1]
        rfl
      rw [map_eq_pure_bind, ensures_bind]
      refine (ensures_failManually_endures hindex ha).mono fun failed _ hends => ?_
      refine ensures_pure.mpr fun failed' heq => ?_
      obtain rfl := ManualAttemptFailureOutcome.failed.inj heq
      exact ⟨current, ha, hopen, hends⟩

/-- A manual failure that commits has told the host of the failed attempt, or nothing. -/
theorem failReviewRequiredAttempt_step (host : HostStores η) (sanitize : String → String)
    (preloaded : Option PaymentAttempt) (s : HostBilling η) (hkeyed : s.db.Keyed) :
    Ensures (failReviewRequiredAttempt host now sanitize preloaded) s
      fun _ s' => HostStep now s s' := by
  rw [failReviewRequiredAttempt, ensures_bind, ensures_get, ensures_bind]
  refine ensures_onEngine fun outcome db hrun => ?_
  have hstatements : HostStatements now s.db db := failReviewRequired_statements _ _ _ _ _ _ hrun
  have hfailed := ensures_failReviewRequired_failed hkeyed.attempts _ _ hrun
  show Ensures (do
    tellFailed host outcome.hostCharge
    pure outcome) { s with db } _
  rw [ensures_bind]
  refine ensures_tellFailed (fun _ => ?_) fun attemptId charge h hcharge => ?_
  · exact ensures_pure.mpr (.quiet ⟨hstatements, rfl, rfl⟩)
  · refine ensures_pure.mpr ?_
    cases outcome with
    | failed failed =>
      obtain ⟨a, ha, hopen, hends⟩ := hfailed failed rfl
      obtain ⟨targetId, htarget, hpair⟩ := Option.map_eq_some_iff.mp hcharge
      obtain ⟨rfl, rfl⟩ := Prod.mk.inj hpair
      have hkept : a.target = .hostCharge targetId :=
        hends.target.symm.trans (PaymentAttempt.target_of_hostChargeTargetId htarget)
      refine .told ha hkept (.failed hopen) hstatements rfl ?_
      rw [hends.id, hends.billingScopeId, hends.subscriberId]
    | keptOpen _ => cases hcharge
    | notFound => cases hcharge

/-- What each operation does when it commits. -/
theorem HostOp.step (host : HostStores η) (op : HostOp) (s : HostBilling η) (hkeyed : s.db.Keyed) :
    Ensures (op.transaction host now) s fun _ s' => HostStep now s s' := by
  have hquiet {α : Type} {x : HostProgram η α}
      (h : Keeps (HostQuiet AttemptWriter.paysNothing now) x) :
      Ensures x s fun _ s' => HostStep now s s' :=
    (h s).mono fun _ _ hquiet => .quiet hquiet
  cases op with
  | engine op other =>
    refine hquiet (onEngine_quiet (op.statements fun w hw => ?_))
    -- Without the writers of other attempts, only a restore is left.
    cases op with
    | writeOther attemptId w => simp [Op.writesHostCharges] at other
    | restore r =>
      obtain rfl := Option.some.inj hw
      exact fun _ h => by cases h
    | _ => cases hw
  | reserve r => exact hquiet (reserveHostCharge_quiet _ r).discard
  | admitSubmission r => exact hquiet (admitHostCharge_quiet _ r).discard
  | applyApproved newId liveRecipient r evidence =>
    exact ensures_discard.mpr (applyHostChargeApproved_step _ newId liveRecipient r evidence s)
  | observeConflicting newId r evidence =>
    exact hquiet (onEngine_quiet (observeConflictingHostCharge_statements newId r evidence).discard)
  | observeTerminal newId r closed evidence =>
    exact hquiet
      (onEngine_quiet (observeTerminalHostCharge_statements newId r closed evidence).discard)
  | park newId r evidence =>
    exact hquiet (onEngine_quiet (parkHostChargeApproved_statements newId r evidence).discard)
  | resolve newId r observed outcome =>
    refine ensures_discard.mpr ?_
    rw [resolveHostCharge, ensures_ite]
    exact ⟨fun _ => hquiet (onEngine_quiet (resolveHostChargeUnknown_statements newId r observed)),
      fun _ => resolveHostChargeNonApproved_step _ newId r observed outcome.command s⟩
  | restore r =>
    have hrestore : AttemptWriter.paysNothing .restore := fun _ h => by cases h
    exact hquiet (onEngine_quiet (restoreAdmittedHostCharge_statements hrestore r).discard)
  | expire candidate => exact failStaleHostCharge_step _ candidate s
  | report account evidence => exact ensures_discard.mpr (reportLifecycle_step _ account evidence s)
  | attest rules t => exact ensures_discard.mpr (attestHostReversal_step host rules t s)
  | failReviewed sanitize preloaded =>
    exact ensures_discard.mpr (failReviewRequiredAttempt_step host sanitize preloaded s hkeyed)
  | scrub billingScopeId subscriberId =>
    exact hquiet (onEngine_quiet (scrub_statements billingScopeId subscriberId).discard)

/-! ## The laws -/

/-- What is true of the targets and the ledger. -/
structure TargetsFollow (s : HostBilling η) : Prop where
  /-- The events are the approved host charges, each once, with its target and amount. -/
  announced : (s.paid.map (·.2)).Perm (hostPayments s.db.attempts)
  /-- The host agreed to be paid, in the transaction of the event. -/
  agreed : ∀ e ∈ s.paid, ∃ outcome : HostTargetOutcome, outcome.isApplied = true ∧
    .transition ⟨e.2.billingScopeId, e.2.subscriberId, e.2.attemptId, e.2.targetId, .paid, e.1⟩
      outcome ∈ s.told
  /-- The host was told of attempts for its targets. -/
  known : ∀ n ∈ s.told, ∃ a ∈ s.db.attempts, n.IsOf a
  /-- After a payment that the host agreed to, it is not told that the attempt is over. -/
  kept : s.told.Pairwise fun n n' =>
    n.attemptId = n'.attemptId → n.isPayment = true → n'.givesUp = false
  /-- Before it is told that a payment was taken back, the host agreed to that payment. -/
  reversed : ∀ l n, l ++ [n] <+: s.told → n.isReversal = true →
    ∃ p ∈ l, p.isPayment = true ∧ p.attemptId = n.attemptId ∧ p.subject = n.subject

section Laws

variable {s s' : HostBilling η}

/-- The writer of a payment brings the event of its attempt into the payments. -/
theorem hostPayments_of_paid {e : StoreError} {id : Id} {evidence : ProcessorEvidence}
    {attempts attempts' : List PaymentAttempt} (hindex : attemptIndexes attempts = true)
    (h : writeAttempt now e id (.persist evidence (.approved .hostCharge)) attempts =
      .ok attempts') :
    ∃ a' ∈ attempts', a'.id = id ∧ a'.status = .approved ∧ ∀ p, a'.hostPayment = some p →
      (hostPayments attempts').Perm (p :: hostPayments attempts) := by
  obtain ⟨a, ha, rfl, a', hw, rfl, -⟩ := writeAttempt_eq_ok h
  obtain ⟨haccepts, -, r, hrow⟩ := PaymentAttempt.update_eq_some (requireOneRow_eq_ok hw)
  have hnone : a.hostPayment = none := by
    have hstatus : a.status ≠ .approved := not_approved_of_isResolvable haccepts
    unfold PaymentAttempt.hostPayment
    split
    · exact if_neg hstatus
    · rfl
  refine ⟨a', Table.mem_replaceBy_self ha, ?_, ?_, fun p hp => ?_⟩
  · rw [hrow]
    rfl
  · rw [hrow]
    rfl
  · exact Table.perm_filterMap_updateWhere (nodup_map_id_of_attemptIndexes hindex) ha hnone hp

/-- The event of an approved host charge. -/
theorem hostPayment_of_approved {a : PaymentAttempt} {targetId : Id}
    (htarget : a.target = .hostCharge targetId) (hstatus : a.status = .approved) :
    a.hostPayment = some ⟨a.billingScopeId, a.subscriberId, a.id, targetId, a.amount⟩ := by
  unfold PaymentAttempt.hostPayment
  rw [htarget]
  exact if_pos hstatus

/-- A payment approves its attempt, and adds the event of it to the payments. -/
theorem payments_of_paid {e : StoreError} {evidence : ProcessorEvidence} {db db' db'' : Db}
    {attempts : List PaymentAttempt} {a : PaymentAttempt} {targetId : Id} (hkeyed : db.Keyed)
    (ha : a ∈ db.attempts) (htarget : a.target = .hostCharge targetId)
    (before : HostStatements now db db')
    (written : writeAttempt now e a.id (.persist evidence (.approved .hostCharge)) db'.attempts =
      .ok attempts)
    (after : HostStatements now { db' with attempts } db'') :
    ∃ a' ∈ db''.attempts, a.Endures a' ∧ a'.status = .approved ∧ (hostPayments db''.attempts).Perm
      (⟨a.billingScopeId, a.subscriberId, a.id, targetId, a.amount⟩ ::
        hostPayments db.attempts) := by
  obtain ⟨hkeyed', hkept⟩ := before.recordKept hkeyed
  obtain ⟨hrows, hindex⟩ := writeAttempt_endures hkeyed'.attempts written
  have hwritten : Db.Keyed { db' with attempts } := ⟨hindex, hkeyed'.charges, hkeyed'.grants⟩
  obtain ⟨b, hb, hid, hstatus, hperm⟩ := hostPayments_of_paid hkeyed'.attempts written
  -- By the key, the row that is written is the one of the attempt.
  have hends : a.Endures b := by
    obtain ⟨a₁, ha₁, h₁⟩ := hkept.attempts a ha
    obtain ⟨a₂, ha₂, h₂⟩ := hrows a₁ ha₁
    have hsame := (h₁.trans h₂).id.trans hid.symm
    obtain rfl := nodup_id_of_attemptIndexes hindex ha₂ hb hsame
    exact h₁.trans h₂
  obtain ⟨a', ha', hlast⟩ := (after.recordKept hwritten).2.attempts b hb
  have hstatus' : a'.status = .approved := (hlast.approved hstatus).status.trans hstatus
  have hevent : b.hostPayment =
      some ⟨a.billingScopeId, a.subscriberId, a.id, targetId, a.amount⟩ := by
    rw [hostPayment_of_approved (hends.target.trans htarget) hstatus, hends.billingScopeId,
      hends.subscriberId, hid, hends.amount]
  refine ⟨a', ha', hends.trans hlast, hstatus', ?_⟩
  rw [after.hostPayments hwritten, ← before.hostPayments hkeyed]
  exact hperm _ hevent

/-- The host agreed to the payment of an approved host charge. -/
theorem TargetsFollow.agreed_of_approved (hs : TargetsFollow s) {a : PaymentAttempt} {targetId : Id}
    (ha : a ∈ s.db.attempts) (htarget : a.target = .hostCharge targetId)
    (happroved : a.status = .approved) :
    ∃ p ∈ s.told, p.isPayment = true ∧ p.attemptId = a.id ∧
      p.subject = (a.billingScopeId, a.subscriberId, targetId) := by
  have hpayment := List.mem_filterMap.mpr ⟨a, ha, hostPayment_of_approved htarget happroved⟩
  obtain ⟨e, he, hevent⟩ := List.mem_map.mp (hs.announced.mem_iff.mpr hpayment)
  obtain ⟨outcome, happlied, hmem⟩ := hs.agreed e he
  refine ⟨_, hmem, happlied, ?_, ?_⟩
  · exact congrArg HostChargePaid.attemptId hevent
  · rw [HostNotice.subject, hevent]

/-- The events follow the ledger through a transaction. -/
theorem HostStep.announced (h : HostStep now s s') (hkeyed : s.db.Keyed)
    (hannounced : (s.paid.map (·.2)).Perm (hostPayments s.db.attempts)) :
    (s'.paid.map (·.2)).Perm (hostPayments s'.db.attempts) := by
  cases h with
  | quiet quiet =>
    rw [quiet.paid, quiet.statements.hostPayments hkeyed]
    exact hannounced
  | told mem target may statements paid told =>
    rw [paid, statements.hostPayments hkeyed]
    exact hannounced
  | paid mem target applied before written after paid told =>
    obtain ⟨_, _, _, _, hperm⟩ := payments_of_paid hkeyed mem target before written after
    rw [paid, List.map_append]
    exact ((hannounced.append_right _).trans (List.perm_append_singleton _ _)).trans hperm.symm

/-- The host agrees to each payment in the transaction of its event. -/
theorem HostStep.agreed (h : HostStep now s s') (hs : TargetsFollow s) :
    ∀ e ∈ s'.paid, ∃ outcome : HostTargetOutcome, outcome.isApplied = true ∧
      .transition ⟨e.2.billingScopeId, e.2.subscriberId, e.2.attemptId, e.2.targetId, .paid, e.1⟩
        outcome ∈ s'.told := by
  intro e he
  cases h with
  | quiet quiet =>
    rw [quiet.paid] at he
    rw [quiet.told]
    exact hs.agreed e he
  | told mem target may statements paid told =>
    rw [paid] at he
    obtain ⟨outcome, happlied, hmem⟩ := hs.agreed e he
    exact ⟨outcome, happlied, told ▸ List.mem_append_left _ hmem⟩
  | paid mem target applied before written after paid told =>
    rw [paid] at he
    rcases List.mem_append.mp he with he | he
    · obtain ⟨outcome, happlied, hmem⟩ := hs.agreed e he
      exact ⟨outcome, happlied, told ▸ List.mem_append_left _ hmem⟩
    · obtain rfl := List.mem_singleton.mp he
      exact ⟨_, applied, told ▸ List.mem_append_right _ (List.mem_singleton_self _)⟩

/-- What the host is told stays known of the later rows, and is so when it is told. -/
theorem HostStep.known (h : HostStep now s s') (hkeyed : s.db.Keyed) (hkept : RecordKept s.db s'.db)
    (hs : TargetsFollow s) : ∀ n ∈ s'.told, ∃ a ∈ s'.db.attempts, n.IsOf a := by
  have hkeep : ∀ n ∈ s.told, ∃ a ∈ s'.db.attempts, n.IsOf a := by
    intro n hn
    obtain ⟨a, ha, hknown⟩ := hs.known n hn
    obtain ⟨a', ha', hlater⟩ := hkept.attempts a ha
    exact ⟨a', ha', hknown.endures hlater⟩
  intro n hn
  cases h with
  | quiet quiet => exact hkeep n (quiet.told ▸ hn)
  | told mem target may statements paid told =>
    rw [told] at hn
    rcases List.mem_append.mp hn with hn | hn
    · exact hkeep n hn
    · obtain rfl := List.mem_singleton.mp hn
      obtain ⟨a', ha', hlater⟩ := hkept.attempts _ mem
      exact ⟨a', ha', (may.isOf target).endures hlater⟩
  | paid mem target applied before written after paid told =>
    rw [told] at hn
    rcases List.mem_append.mp hn with hn | hn
    · exact hkeep n hn
    · obtain rfl := List.mem_singleton.mp hn
      obtain ⟨a', ha', hlater, hstatus, -⟩ :=
        payments_of_paid hkeyed mem target before written after
      refine ⟨a', ha', hlater.id.symm, ⟨_, hlater.target.trans target, ?_⟩, fun _ => hstatus, rfl⟩
      rw [hlater.billingScopeId, hlater.subscriberId]
      rfl

/-- After a payment that the host agreed to, the attempt is approved, so that it is not told to be
over. -/
theorem HostStep.kept (h : HostStep now s s') (hkeyed : s.db.Keyed) (hs : TargetsFollow s) :
    s'.told.Pairwise fun n n' =>
      n.attemptId = n'.attemptId → n.isPayment = true → n'.givesUp = false := by
  cases h with
  | quiet quiet =>
    rw [quiet.told]
    exact hs.kept
  | @told a targetId m mem target may statements paid told =>
    rw [told]
    refine List.pairwise_append.mpr
      ⟨hs.kept, List.pairwise_singleton _ _, fun n hn n' hn' hid hpaid => ?_⟩
    obtain rfl := List.mem_singleton.mp hn'
    obtain ⟨b, hb, hof⟩ := hs.known n hn
    have hba : b.id = a.id := (hof.id.symm.trans hid).trans (may.isOf target).id
    obtain rfl := nodup_id_of_attemptIndexes hkeyed.attempts hb mem hba
    exact may.keeps (hof.approved (by simp [hpaid]))
  | paid mem target applied before written after paid told =>
    rw [told]
    refine List.pairwise_append.mpr
      ⟨hs.kept, List.pairwise_singleton _ _, fun n hn n' hn' _ _ => ?_⟩
    obtain rfl := List.mem_singleton.mp hn'
    rfl

/-- A payment that is taken back was agreed to before. -/
theorem HostStep.reversed (h : HostStep now s s') (hs : TargetsFollow s) :
    ∀ l n, l ++ [n] <+: s'.told → n.isReversal = true →
      ∃ p ∈ l, p.isPayment = true ∧ p.attemptId = n.attemptId ∧ p.subject = n.subject := by
  intro l n hprefix hreversal
  cases h with
  | quiet quiet => exact hs.reversed l n (quiet.told ▸ hprefix) hreversal
  | told mem target may statements paid told =>
    rw [told] at hprefix
    rcases List.prefix_concat_iff.mp hprefix with hlast | hbefore
    · obtain ⟨rfl, heq⟩ := List.append_inj' hlast rfl
      obtain rfl := List.singleton_inj.mp heq
      -- What is taken back is of an approved attempt, whose payment was agreed to.
      have hof := may.isOf target
      obtain ⟨_, htarget, hsubject⟩ := hof.target
      obtain ⟨p, hp, hpaid, hid, hof'⟩ :=
        hs.agreed_of_approved mem htarget (hof.approved (by simp [hreversal]))
      exact ⟨p, hp, hpaid, hid.trans hof.id.symm, hof'.trans hsubject.symm⟩
    · exact hs.reversed l n hbefore hreversal
  | paid mem target applied before written after paid told =>
    rw [told] at hprefix
    rcases List.prefix_concat_iff.mp hprefix with hlast | hbefore
    · obtain ⟨-, heq⟩ := List.append_inj' hlast rfl
      obtain rfl := List.singleton_inj.mp heq
      cases hreversal
    · exact hs.reversed l n hbefore hreversal

/-- A transaction keeps the laws. -/
theorem HostStep.targetsFollow (h : HostStep now s s') (hkeyed : s.db.Keyed)
    (hkept : RecordKept s.db s'.db) (hs : TargetsFollow s) : TargetsFollow s' where
  announced := h.announced hkeyed hs.announced
  agreed := h.agreed hs
  known := h.known hkeyed hkept hs
  kept := h.kept hkeyed hs
  reversed := h.reversed hs

/-- An operation keeps them, also when it fails. -/
theorem execHost_targetsFollow (host : HostStores η) (step : ℕ × HostOp)
    (h : s.db.Keyed ∧ TargetsFollow s) :
    (execHost host s step).db.Keyed ∧ TargetsFollow (execHost host s step) := by
  obtain ⟨hkeyed, hs⟩ := h
  have hkeyedAt : (s.at (s.db.clock + step.1)).db.Keyed :=
    ⟨hkeyed.attempts, hkeyed.charges, hkeyed.grants⟩
  have hsAt : TargetsFollow (s.at (s.db.clock + step.1)) :=
    ⟨hs.announced, hs.agreed, hs.known, hs.kept, hs.reversed⟩
  unfold execHost
  dsimp only
  split
  · rename_i s' hrun
    obtain ⟨hkeyed', hkept⟩ := step.2.recordKept host hkeyedAt hrun
    exact ⟨hkeyed', (step.2.step host _ hkeyedAt _ _ hrun).targetsFollow hkeyedAt hkept hsAt⟩
  · exact ⟨hkeyedAt, hsAt⟩

/-- A deployment in which nothing has happened follows the laws. -/
theorem HostBilling.Fresh.targetsFollow (h : s.Fresh) : TargetsFollow s where
  announced := by
    rw [h.paid, hostPayments, h.db.attempts]
    exact .nil
  agreed := by simp [h.paid]
  known := by simp [h.told]
  kept := by simp [h.told]
  reversed := by simp [h.told]

/-- The index of host charges keeps a subscriber from paying for a target twice. -/
theorem nodup_target_hostPayments {attempts : List PaymentAttempt}
    (h : attemptIndexes attempts = true) :
    ((hostPayments attempts).map fun p =>
      (p.billingScopeId, p.subscriberId, p.targetId)).Nodup := by
  simp only [attemptIndexes, Bool.and_eq_true] at h
  refine Table.nodup_map_filterMap_of_uniqueOn (fun a p hp => ?_) h.1.1.1.2
  unfold PaymentAttempt.hostPayment at hp
  split at hp
  · rename_i targetId htarget
    split_ifs at hp with hstatus
    obtain rfl := Option.some.inj hp
    simp [PaymentAttempt.hostChargeOnceKey, htarget, hstatus]
  · cases hp

end Laws

end Steps

/-- The host's targets follow the ledger. After any run of a deployment, with any host, the events
of paid targets are the approved host charges, each once, with its target and amount; no subscriber
of a scope has two for one target; the host agreed to each in the transaction of its event; a
payment that the host agreed to is the approval of its attempt, and after it the host is not told
that this attempt is over; and it is told that a payment was taken back only after it agreed to that
payment. -/
theorem host_targets_follow_ledger {η : Type} (host : HostStores η) {s₀ : HostBilling η}
    (hfresh : s₀.Fresh) (steps : List (ℕ × HostOp)) :
    let s := run (execHost host) s₀ steps
    TargetsFollow s ∧
      (s.paid.map fun e => (e.2.billingScopeId, e.2.subscriberId, e.2.targetId)).Nodup := by
  have hrun := run_invariant (I := fun s => s.db.Keyed ∧ TargetsFollow s) (P := fun _ => True)
    (fun s step _ hs => execHost_targetsFollow host step hs) steps s₀ (fun _ _ => trivial)
    ⟨hfresh.db.keyed, hfresh.targetsFollow⟩
  obtain ⟨hkeyed, hfollow⟩ := hrun
  refine ⟨hfollow, ?_⟩
  have hpayments := nodup_target_hostPayments hkeyed.attempts
  have hperm := hfollow.announced.map fun p => (p.billingScopeId, p.subscriberId, p.targetId)
  rw [List.map_map] at hperm
  exact hperm.nodup_iff.mpr hpayments

/-- A seat is paid for; a second approval and an expiry of the charge leave it paid. A report of the
full refund then takes the seat back, and a deletion of the subscriber's billing data leaves the
laws. -/
theorem host_targets_follow_ledger_seat :
    let s₀ : HostBilling (List Id) := ⟨accountStore, [], [], []⟩
    let again : List (ℕ × HostOp) :=
      [(0, .applyApproved 2 true seatCharge (approvedEvidence "tx-1")),
        (0, .expire ⟨1, 1, 1, 7, 1⟩)]
    let s := run (execHost seats) s₀ (paidSeat ++ again)
    let s' := run (execHost seats) s₀ (paidSeat ++ again ++ refundedSeat)
    s.host = [7] ∧ s'.host = [] ∧ s'.paid.length = 1 ∧
      s'.told.map (fun n => (n.isPayment, n.isReversal)) =
        [(true, false), (true, false), (false, true)] ∧ TargetsFollow s' :=
  ⟨by decide +kernel, by decide +kernel, by decide +kernel, by decide +kernel,
    (host_targets_follow_ledger seats ⟨accountStore_fresh, rfl, rfl⟩ _).1⟩

end SyrupRail
