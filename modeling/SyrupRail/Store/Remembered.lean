import SyrupRail.Lib.Call
import SyrupRail.Store.Audit

/-!
# Approvals that are not forgotten

The answer of a call that was told of an approval promises that the approval is in the store. On the
way there the call tries to apply the approval, then to park it, then to record its evidence, and at
last to record the evidence without the attempt's lock; each of these is a transaction, which can
fail, and whose answer can be lost, while other calls and workers change the store. `Remembered`
says where an approval is found. Every program of the call ends with it, since none can succeed
without an observation of the evidence; the record of the store is append-only, so that it stays.
-/

namespace SyrupRail

open Transactions Tx

/-! ## What a store remembers -/

/-- A charge has this evidence, in which a missing transaction may have been filled in since. -/
def ProcessorCharge.Witnesses (evidence : ProcessorEvidence) (c : ProcessorCharge) : Prop :=
  c.evidence = evidence ∨
    evidence.transactionId = none ∧ ∃ tx, c.evidence = { evidence with transactionId := some tx }

/-- Where a store has an approval of an attempt: a charge of the attempt with its evidence; the
charge of another attempt, at the same account, with its transaction; or the attempt itself, which
is approved with that transaction. -/
inductive Remembered (attemptId : Id) (evidence : ProcessorEvidence) (db : Db) : Prop
  | charged {c : ProcessorCharge} (mem : c ∈ db.ledger.charges) (attempt : c.attemptId = attemptId)
      (same : c.Witnesses evidence)
  | owned {c : ProcessorCharge} {a : PaymentAttempt} (mem : c ∈ db.ledger.charges)
      (attempt : a ∈ db.attempts) (id : a.id = attemptId)
      (account : c.gatewayAccountId = a.gatewayAccountId)
      (identified : evidence.transactionId ≠ none)
      (same : c.evidence.transactionId = evidence.transactionId)
  | approved {a : PaymentAttempt} (attempt : a ∈ db.attempts) (id : a.id = attemptId)
      (status : a.status = .approved) (identified : evidence.transactionId ≠ none)
      (same : a.evidence.transactionId = evidence.transactionId)

section Memory

variable {now : Timestamp} {db db' : Db} {a b : PaymentAttempt} {attemptId : Id}
    {evidence : ProcessorEvidence}

/-- A later row of a charge has the evidence as well. -/
theorem ProcessorCharge.Witnesses.endures {c c' : ProcessorCharge} (h : c.Witnesses evidence)
    (hkept : c.Endures c') : c'.Witnesses evidence := by
  rcases hkept.evolves.2 with hsame | ⟨hnone, tx, hfilled⟩
  · unfold ProcessorCharge.Witnesses
    rw [hsame]
    exact h
  · rcases h with rfl | ⟨-, tx', hfilled'⟩
    · exact .inr ⟨hnone, tx, hfilled⟩
    · rw [hfilled'] at hnone
      cases hnone

/-- What is remembered stays so. -/
theorem Remembered.of_recordKept (h : Remembered attemptId evidence db)
    (hkept : RecordKept db db') : Remembered attemptId evidence db' := by
  cases h with
  | charged mem attempt same =>
    obtain ⟨c', hc', hcontinues⟩ := hkept.charges _ mem
    have hdimensions := congrArg ChargeDimensions.attemptId hcontinues.continues.dimensions
    exact .charged hc' (hdimensions.trans attempt) (same.endures hcontinues)
  | owned mem ha id account identified same =>
    obtain ⟨c', hc', hcontinues⟩ := hkept.charges _ mem
    obtain ⟨a', ha', hendures⟩ := hkept.attempts _ ha
    have hdimensions := congrArg ChargeDimensions.gatewayAccountId hcontinues.continues.dimensions
    refine .owned hc' ha' (hendures.id.trans id) ?_ identified ?_
    · exact hdimensions.trans (account.trans hendures.gatewayAccountId.symm)
    · exact (hcontinues.continues.transaction (same ▸ identified)).trans same
  | approved ha id status identified same =>
    obtain ⟨a', ha', hendures⟩ := hkept.attempts _ ha
    have hrevised := hendures.approved status
    exact .approved ha' (hendures.id.trans id) (hrevised.status.trans status) identified
      (hrevised.evidence.transactionId.trans same)

/-- The charge of another attempt with the observed transaction. -/
theorem Remembered.of_ownedByOther {tx : String} (hb : b ∈ db.attempts) (hsame : a.Endures b)
    (htx : evidence.transactionId = some tx)
    (hother : ownedByOtherAttempt a tx db.ledger.charges = true) : Remembered a.id evidence db := by
  obtain ⟨c, hc, hmatches⟩ := List.any_eq_true.mp hother
  obtain ⟨haccount, htransaction, -⟩ := of_decide_eq_true hmatches
  refine .owned hc hb hsame.id (haccount.trans hsame.gatewayAccountId.symm) ?_
    (htransaction.trans htx.symm)
  rw [htx]
  exact Option.some_ne_none tx

/-- After an observation the evidence is remembered. -/
theorem Observation.remembered (h : Observation now a evidence db db') (hb : b ∈ db.attempts)
    (hsame : a.Endures b) : Remembered a.id evidence db' := by
  cases h with
  | @observe newId requested charges o observed =>
    have hobserves := observeProcessorCharge_observes observed
    cases o with
    | owned record =>
      obtain ⟨c, hc, -, hattempt, hevidence, -⟩ := hobserves.owned record rfl
      exact .charged hc hattempt (.inl hevidence)
    | ownedByOtherAttempt =>
      obtain ⟨rfl, tx, htx, hother⟩ := hobserves.other rfl
      exact .of_ownedByOther hb hsame htx hother

/-- A recorded approval is remembered. -/
theorem ApprovalRecorded.remembered (h : ApprovalRecorded AnyWriter now attemptId evidence db db')
    (hkeyed : db.Keyed) : Remembered attemptId evidence db' := by
  cases h with
  | replayed ha id status same rest =>
    obtain ⟨hidentified, hsame⟩ := Bool.and_eq_true_iff.mp same
    have htransaction := of_decide_eq_true hsame
    refine (Remembered.approved ha id status ?_ htransaction).of_recordKept
      (rest.recordKept hkeyed).2
    rw [← htransaction]
    exact Option.isSome_iff_ne_none.mp hidentified
  | observed ha id before observation after =>
    obtain ⟨hkeyed₀, hkept₀⟩ := before.recordKept hkeyed
    obtain ⟨b, hb, hendures⟩ := hkept₀.attempts _ ha
    have hkeyed₁ := ((observation.statements (W := AnyWriter)).recordKept hkeyed₀).1
    have hremembered := observation.remembered hb hendures
    exact id ▸ hremembered.of_recordKept (after.recordKept hkeyed₁).2

/-- The row of the last resort is of the attempt, with the evidence. -/
theorem lockFreeCharge_witness (newId : Id) (a : PaymentAttempt) (evidence : ProcessorEvidence)
    (reverseExpiredPeriod : Bool) (role : ProcessorChargeRole) :
    (lockFreeCharge now newId a evidence reverseExpiredPeriod role).attemptId = a.id ∧
      (lockFreeCharge now newId a evidence reverseExpiredPeriod role).evidence = evidence := by
  unfold lockFreeCharge
  split
  · exact ⟨rfl, rfl⟩
  · exact ⟨rfl, rfl⟩

/-- The write of the last resort leaves the evidence remembered: it inserts its row, or finds it, or
finds the transaction of another attempt. -/
theorem ensures_persistApproved_remembered (newId billingScopeId : Id)
    (reverseExpiredPeriod : Bool) :
    Ensures (persistApprovedEvidenceWithoutAttemptLock now newId billingScopeId attemptId evidence
      reverseExpiredPeriod) db fun _ db' => Remembered attemptId evidence db' := by
  rw [persistApprovedEvidenceWithoutAttemptLock, ensures_bind]
  refine ensures_requireAttempt fun a ha _ hid => ensures_onCharges.mpr fun charges _ h => ?_
  subst hid
  dsimp only at h
  generalize (if db.ledger.charges.any (·.attemptId = a.id) then ProcessorChargeRole.additional
    else .primary) = role at h
  split_ifs at h with hchecks hindexes hmatching hother
  · obtain ⟨rfl, -⟩ := Prod.mk.inj (Except.ok.inj h)
    obtain ⟨hattempt, hevidence⟩ :=
      lockFreeCharge_witness newId a evidence reverseExpiredPeriod role
    exact .charged List.mem_cons_self hattempt (.inl hevidence)
  · obtain ⟨rfl, -⟩ := Prod.mk.inj (Except.ok.inj h)
    obtain ⟨c, hfind, hsame⟩ := (Option.any_eq_true _ _).mp hmatching
    unfold matchingCharge at hfind
    have hmatches : c.attemptId = a.id ∧ c.evidence.transactionId = evidence.transactionId := by
      simpa using List.find?_some hfind
    have hevidence := ProcessorEvidence.eq_of_matches hsame hmatches.2
    exact .charged (List.mem_of_find?_eq_some hfind) hmatches.1 (.inl hevidence)
  · obtain ⟨rfl, -⟩ := Prod.mk.inj (Except.ok.inj h)
    obtain ⟨tx, htx, howned⟩ := (Option.any_eq_true _ _).mp hother
    exact .of_ownedByOther ha (.refl a) htx howned

end Memory

/-! ## The calls -/

/-- `APPROVED_APPLICATION_ATTEMPTS`. -/
def approvedApplicationAttempts : ℕ := 3

/-- `APPROVED_EVIDENCE_WRITE_ATTEMPTS`. -/
def approvedEvidenceWriteAttempts : ℕ := 3

/-- A fault of the database or of the connection: `is_retryable_evidence_error` is of a
serialization failure, a deadlock, a lock that was not available, or a canceled statement. -/
inductive DatabaseFault
  | retryable
  | other
  deriving DecidableEq, Repr

/-- What a transaction of a call is given at its moment. The last-resort write is told whether the
period of the approval was found to have ended. -/
structure ApprovalInput where
  elapsed : ℕ
  ids : NewIds
  pendingChargeId : Id
  liveRecipient : Bool
  policy : SubscriptionPeriodExpiryPolicy
  reverseExpiredPeriod : Bool

namespace OutcomeReservation

/-- `INCOMPLETE_APPROVAL_TEXT`, and that of each other kind. -/
def incompleteApprovalText : OutcomeReservation → String
  | .initial _ => "Approved subscription enrollment is missing required processor identity."
  | .charge r =>
    if r.kind = .renewal then
      "Approved subscription renewal is missing required processor identity."
    else "Approved subscription recovery is missing required processor identity."
  | .replacement _ => replacementIncompleteApprovalText

/-- `APPROVED_STORAGE_FAILURE_TEXT`, and that of each other kind. -/
def approvedStorageFailureText : OutcomeReservation → String
  | .initial _ =>
    "Approved subscription enrollment could not be applied; manual review is required."
  | .charge r =>
    if r.kind = .renewal then
      "Approved subscription renewal could not be applied; manual review is required."
    else "Approved subscription recovery could not be applied; manual review is required."
  | .replacement _ => replacementStorageFailureText

/-- Whether an approval lacks an identity that its application needs: a renewal has its stored
method. -/
def missesIdentity (r : OutcomeReservation) (evidence : ProcessorEvidence) : Bool :=
  match r with
  | .charge c =>
    if c.kind = .renewal then evidence.transactionId = none else evidence.missesStoredMethod
  | .initial _ | .replacement _ => evidence.missesStoredMethod

/-- Whether the evidence of an approval is written without the attempt's lock in the end, which a
renewal leaves to its reconciliation. -/
def hasLastResort : OutcomeReservation → Bool
  | .charge r => r.kind ≠ .renewal
  | .initial _ | .replacement _ => true

/-- Whether an approval after the end of its period is a result of its own. -/
def hasPeriod : OutcomeReservation → Bool
  | .replacement _ => false
  | .initial _ | .charge _ => true

end OutcomeReservation

/-- The phases of `apply_subscription_enrollment_gateway_decision` and of its renewal, its recovery,
and its payment method replacement, for an approval. -/
inductive ApprovalPhase
  | applying (failures : ℕ)
  | parking (message : String)
  | observing (failures : ℕ)
  | lastResort
  | confirming
  | returned (ok : Bool)
  deriving DecidableEq, Repr

/-- The answer of a call that recorded its evidence: the payment of the attempt, or a confirmation
that is pending, which only an attempt of a subscription has. -/
def confirmApproval (r : OutcomeReservation) : Program Unit := do
  let a ← requireAttempt invalidApplicationState r.identity.billingScopeId r.identity.attemptId
  if a.status = .approved ∨ (r.hasPeriod ∧ isParkedExpiredPeriodApproval a) then
    discard (paymentResultForAttempt a)
  else if a.kind = .hostCharge then
    throw (.invalidState "a subscription payment result requires a subscription attempt")
  else pure ()

namespace ApprovalPhase

/-- The transaction of a phase. -/
def program (r : OutcomeReservation) (evidence : ProcessorEvidence) (now : Timestamp)
    (i : ApprovalInput) : ApprovalPhase → Program Unit
  | .applying _ => discard (applyApproved now i.ids i.liveRecipient i.policy r evidence)
  | .parking message => discard (parkApproved now i.ids.charge i.policy r evidence message)
  | .observing _ => observeApproved now i.ids.charge i.policy r evidence
  | .lastResort =>
    persistApprovedEvidenceWithoutAttemptLock now i.ids.charge r.identity.billingScopeId
      r.identity.attemptId evidence i.reverseExpiredPeriod
  | .confirming => confirmApproval r
  | .returned _ => pure ()

/-- The first phase. -/
def start (r : OutcomeReservation) (evidence : ProcessorEvidence) : ApprovalPhase :=
  if r.missesIdentity evidence then .parking r.incompleteApprovalText else .applying 0

/-- The phase after the answer of a transaction: an application is tried again after any error, an
observation after a retryable fault. -/
def next (r : OutcomeReservation) : ApprovalPhase → Answer StoreError DatabaseFault → ApprovalPhase
  | .applying _, .committed => .returned true
  | .applying n, _ =>
    if n + 1 < approvedApplicationAttempts then .applying (n + 1)
    else .parking r.approvedStorageFailureText
  | .parking _, .committed => .returned true
  | .parking _, _ => .observing 0
  | .observing _, .committed => .confirming
  | .observing n, .lost .retryable =>
    if n + 1 < approvedEvidenceWriteAttempts then .observing (n + 1)
    else if r.hasLastResort then .lastResort
    else .returned false
  | .observing _, _ => .returned false
  | .lastResort, .committed => .confirming
  | .lastResort, _ => .returned false
  | .confirming, .committed => .returned true
  | .confirming, _ => .returned false
  | .returned ok, _ => .returned ok

/-- The most transactions that a phase has before it. -/
def rank : ApprovalPhase → ℕ
  | .applying n => max 1 (approvedApplicationAttempts - n) + 6
  | .parking _ => 6
  | .observing n => max 1 (approvedEvidenceWriteAttempts - n) + 2
  | .lastResort => 2
  | .confirming => 1
  | .returned _ => 0

end ApprovalPhase

/-- The phases of `apply_reconciled_subscription_payment_method_replacement_gateway_outcome`, for an
approval. -/
inductive ReconciliationPhase
  | applying (failures : ℕ)
  | parking (failures : ℕ)
  | returned (ok : Bool)
  deriving DecidableEq, Repr

namespace ReconciliationPhase

/-- The transaction of a phase. -/
def program (r : SubscriptionPaymentMethodReplacement) (evidence : ProcessorEvidence)
    (diagnosed : Bool) (now : Timestamp) (i : ApprovalInput) : ReconciliationPhase → Program Unit
  | .applying _ =>
    discard
      (applyReconciledReplacement now i.ids i.pendingChargeId i.liveRecipient diagnosed r evidence)
  | .parking _ =>
    discard (tryParkReconciledReplacement now i.ids.charge i.pendingChargeId diagnosed r evidence
      replacementStorageFailureText)
  | .returned _ => pure ()

/-- The phase after the answer of a transaction. -/
def next : ReconciliationPhase → Answer StoreError DatabaseFault → ReconciliationPhase
  | .applying _, .committed => .returned true
  | .applying n, _ => if n + 1 < approvedApplicationAttempts then .applying (n + 1) else .parking 0
  | .parking _, .committed => .returned true
  | .parking n, .lost .retryable =>
    if n + 1 < approvedEvidenceWriteAttempts then .parking (n + 1) else .returned false
  | .parking _, _ => .returned false
  | .returned ok, _ => .returned ok

/-- The most transactions that a phase has before it. -/
def rank : ReconciliationPhase → ℕ
  | .applying n => max 1 (approvedApplicationAttempts - n) + 3
  | .parking n => max 1 (approvedEvidenceWriteAttempts - n)
  | .returned _ => 0

end ReconciliationPhase

/-- A call whose phases run programs at the times of their inputs. -/
def callOf {ρ : Type} (program : Timestamp → ApprovalInput → ρ → Program Unit)
    (next : ρ → Answer StoreError DatabaseFault → ρ) :
    Call Db StoreError DatabaseFault ApprovalInput ρ where
  transaction p i db :=
    let now := db.clock + i.elapsed
    (program now i p (db.at now)).map (·.2)
  next := next

/-- The call that applies an approval. -/
def approvalCall (r : OutcomeReservation) (evidence : ProcessorEvidence) :
    Call Db StoreError DatabaseFault ApprovalInput ApprovalPhase :=
  callOf (ApprovalPhase.program r evidence) (ApprovalPhase.next r)

/-- The call that applies the approval of a replacement that was reconciled. -/
def reconciliationCall (r : SubscriptionPaymentMethodReplacement) (evidence : ProcessorEvidence)
    (diagnosed : Bool) : Call Db StoreError DatabaseFault ApprovalInput ReconciliationPhase :=
  callOf (ReconciliationPhase.program r evidence diagnosed) ReconciliationPhase.next

section Calls

variable {now : Timestamp} {db db' : Db} {attemptId : Id} {evidence : ProcessorEvidence}

/-- A transaction is a program at a later time. -/
theorem callOf_ok {ρ : Type} {program : Timestamp → ApprovalInput → ρ → Program Unit}
    {next : ρ → Answer StoreError DatabaseFault → ρ} {p : ρ} {i : ApprovalInput}
    (h : (callOf program next).transaction p i db = .ok db') :
    program (db.clock + i.elapsed) i p (db.at (db.clock + i.elapsed)) = .ok ((), db') := by
  obtain ⟨⟨_, db₁⟩, hrun, rfl⟩ := map_eq_ok.mp h
  exact hrun

/-- The time of a store is not part of its record. -/
theorem recordKept_at (db : Db) (now : Timestamp) : RecordKept db (db.at now) :=
  { RecordKept.refl db with }

/-- The promise of some phases that an approval is remembered holds along every schedule, when a
phase with the promise only follows one with it, or a transaction that left the approval
remembered. -/
theorem callOf_promise {ρ : Type} (program : Timestamp → ApprovalInput → ρ → Program Unit)
    (next : ρ → Answer StoreError DatabaseFault → ρ) {promises : ρ → Prop}
    (hstatements : ∀ now i p, Keeps (Statements AnyWriter now) (program now i p))
    (hcommitted : ∀ now i p (db : Db), db.Keyed → promises (next p .committed) → ¬ promises p →
      Ensures (program now i p) db fun _ db' => Remembered attemptId evidence db')
    (hfailed : ∀ p answer, answer ≠ .committed → promises (next p answer) → promises p)
    (moves : List (Move (ℕ × Op) DatabaseFault ApprovalInput)) {p : ρ} (hp : ¬ promises p)
    (hkeyed : db.Keyed) :
    let s := run ((callOf program next).exec execStore) (p, db) moves
    s.2.Keyed ∧ (promises s.1 → Remembered attemptId evidence s.2) := by
  refine Call.invariant (P := fun p db => db.Keyed ∧
    (promises p → Remembered attemptId evidence db)) ?_ ?_ ?_ moves ⟨hkeyed, fun h => absurd h hp⟩
  · intro p db step h
    obtain ⟨hkeyed', hkept⟩ := execStore_recordKept h.1 step
    exact ⟨hkeyed', fun hpromises => (h.2 hpromises).of_recordKept hkept⟩
  · intro p i db db' h hok
    have hrun := callOf_ok hok
    have hat : (db.at (db.clock + i.elapsed)).Keyed := ⟨h.1.attempts, h.1.charges, h.1.grants⟩
    obtain ⟨hkeyed', hkept⟩ := (hstatements _ i p _ () db' hrun).recordKept hat
    have hkept' := (recordKept_at db _).trans hkept
    refine ⟨⟨hkeyed', fun hpromises => ?_⟩, fun fault => ⟨hkeyed', fun hpromises => ?_⟩⟩
    · by_cases hbefore : promises p
      · exact (h.2 hbefore).of_recordKept hkept'
      · exact hcommitted _ i p _ hat hpromises hbefore () db' hrun
    · exact (h.2 (hfailed p _ (fun h => by cases h) hpromises)).of_recordKept hkept'
  · intro p db h
    exact ⟨fun e => ⟨h.1, fun hpromises => h.2 (hfailed p _ (fun h => by cases h) hpromises)⟩,
      fun fault => ⟨h.1, fun hpromises => h.2 (hfailed p _ (fun h => by cases h) hpromises)⟩⟩

/-- The answer of a call is read from the store. -/
theorem confirmApproval_statements (r : OutcomeReservation) :
    Keeps (Statements AnyWriter now) (confirmApproval r) :=
  (requireAttempt_statements _ _ _).bind fun a =>
    (paymentResultForAttempt_statements a).discard.ite ((keeps_throw _).ite (keeps_pure ()))

/-- The phases of a call that has recorded its approval. -/
def ApprovalPhase.promises (p : ApprovalPhase) : Prop := p = .confirming ∨ p = .returned true

/-- A recorded approval is remembered, whatever else the program answers. -/
theorem RecordsApproval.remembered {α : Type} {x : Program α}
    (h : RecordsApproval AnyWriter now attemptId evidence x) (hkeyed : db.Keyed) :
    Ensures (discard x) db fun _ db' => Remembered attemptId evidence db' :=
  ensures_discard.mpr ((h db).mono fun _ _ hrecorded => hrecorded.remembered hkeyed)

/-- Every phase of an approval is a sequence of statements. -/
theorem ApprovalPhase.statements (r : OutcomeReservation) (evidence : ProcessorEvidence)
    (i : ApprovalInput) (p : ApprovalPhase) :
    Keeps (Statements AnyWriter now) (ApprovalPhase.program r evidence now i p) := by
  cases p with
  | applying n => exact (applyApproved_records _ _ _ _ _).statements.discard
  | parking message => exact (parkApproved_records _ _ _ _ _).statements.discard
  | observing n => exact (observeApproved_records _ _ _ _).statements
  | lastResort => exact persistApproved_statements _ _ _ _ _
  | confirming => exact confirmApproval_statements r
  | returned ok => exact keeps_pure ()

/-- A phase that is followed by one with a promise leaves the approval remembered. -/
theorem ApprovalPhase.ensures_remembered (r : OutcomeReservation) (evidence : ProcessorEvidence)
    (i : ApprovalInput) {p : ApprovalPhase} (hkeyed : db.Keyed)
    (hnext : (next r p .committed).promises) (hp : ¬ p.promises) :
    Ensures (ApprovalPhase.program r evidence now i p) db fun _ db' =>
      Remembered r.identity.attemptId evidence db' := by
  cases p with
  | applying n => exact (applyApproved_records _ _ _ _ _).remembered hkeyed
  | parking message => exact (parkApproved_records _ _ _ _ _).remembered hkeyed
  | observing n => exact (observeApproved_records _ _ _ _ db).mono fun _ _ h => h.remembered hkeyed
  | lastResort => exact ensures_persistApproved_remembered _ _ _
  | confirming => exact absurd (.inl rfl) hp
  | returned ok => exact absurd hnext hp

/-- No failure and no fault leads to a phase with a promise. -/
theorem ApprovalPhase.promises_of_failure (r : OutcomeReservation) (p : ApprovalPhase)
    (answer : Answer StoreError DatabaseFault) (hanswer : answer ≠ .committed)
    (h : (next r p answer).promises) : p.promises := by
  cases p with
  | applying n =>
    cases answer <;> simp only [next, promises] at h
    · exact absurd rfl hanswer
    all_goals split_ifs at h <;> simp at h
  | parking message =>
    cases answer <;> simp [next, promises] at h hanswer
  | observing n =>
    cases answer with
    | committed => exact absurd rfl hanswer
    | failed e => simp [next, promises] at h
    | lost fault =>
      cases fault <;> simp only [next, promises] at h
      · split_ifs at h <;> simp at h
      · simp at h
  | lastResort => cases answer <;> simp [next, promises] at h hanswer
  | confirming => exact .inl rfl
  | returned ok => exact h

/-- Each transaction of a call lowers its rank. -/
theorem ApprovalPhase.rank_next (r : OutcomeReservation) (p : ApprovalPhase)
    (answer : Answer StoreError DatabaseFault) : (next r p answer).rank ≤ p.rank - 1 := by
  have happlied (n : ℕ) : rank (if n + 1 < approvedApplicationAttempts then .applying (n + 1)
      else .parking r.approvedStorageFailureText) ≤ rank (.applying n) - 1 := by
    unfold approvedApplicationAttempts
    split_ifs
    all_goals simp only [rank, approvedApplicationAttempts]
    all_goals omega
  have hobserved (n : ℕ) : rank (if n + 1 < approvedEvidenceWriteAttempts then .observing (n + 1)
      else if r.hasLastResort then .lastResort else .returned false) ≤ rank (.observing n) - 1 := by
    unfold approvedEvidenceWriteAttempts
    split_ifs
    all_goals simp only [rank, approvedEvidenceWriteAttempts]
    all_goals omega
  have hconfirming (n : ℕ) : 2 ≤ rank (.observing n) - 1 := by
    simp only [rank]
    omega
  cases p with
  | applying n =>
    cases answer with
    | committed => exact Nat.zero_le _
    | failed e => exact happlied n
    | lost fault => exact happlied n
  | parking message =>
    cases answer with
    | committed => exact Nat.zero_le _
    | failed e => exact Nat.le_refl 5
    | lost fault => exact Nat.le_refl 5
  | observing n =>
    cases answer with
    | committed => exact Nat.le_of_lt (hconfirming n)
    | failed e => exact Nat.zero_le _
    | lost fault =>
      cases fault with
      | retryable => exact hobserved n
      | other => exact Nat.zero_le _
  | lastResort =>
    cases answer with
    | committed => exact Nat.le_refl 1
    | failed e => exact Nat.zero_le _
    | lost fault => exact Nat.zero_le _
  | confirming =>
    cases answer with
    | committed => exact Nat.zero_le _
    | failed e => exact Nat.zero_le _
    | lost fault => exact Nat.zero_le _
  | returned ok => exact Nat.zero_le _

/-- The phases of a reconciliation that has recorded its approval. -/
def ReconciliationPhase.promises (p : ReconciliationPhase) : Prop := p = .returned true

/-- Every phase of a reconciliation is a sequence of statements. -/
theorem ReconciliationPhase.statements (r : SubscriptionPaymentMethodReplacement)
    (evidence : ProcessorEvidence) (diagnosed : Bool) (i : ApprovalInput)
    (p : ReconciliationPhase) :
    Keeps (Statements AnyWriter now)
      (ReconciliationPhase.program r evidence diagnosed now i p) := by
  cases p with
  | applying n => exact (applyReconciledReplacement_records _ _ _ _ _ _).statements.discard
  | parking n => exact (tryParkReconciledReplacement_records _ _ _ _ _ _).statements.discard
  | returned ok => exact keeps_pure ()

/-- A phase that is followed by one with a promise leaves the approval remembered. -/
theorem ReconciliationPhase.ensures_remembered (r : SubscriptionPaymentMethodReplacement)
    (evidence : ProcessorEvidence) (diagnosed : Bool) (i : ApprovalInput) {p : ReconciliationPhase}
    (hkeyed : db.Keyed) (hnext : (next p .committed).promises) (hp : ¬ p.promises) :
    Ensures (ReconciliationPhase.program r evidence diagnosed now i p) db fun _ db' =>
      Remembered r.identity.attemptId evidence db' := by
  cases p with
  | applying n => exact (applyReconciledReplacement_records _ _ _ _ _ _).remembered hkeyed
  | parking n => exact (tryParkReconciledReplacement_records _ _ _ _ _ _).remembered hkeyed
  | returned ok => exact absurd hnext hp

/-- Neither a failure nor a fault leads to a phase with a promise. -/
theorem ReconciliationPhase.promises_of_failure (p : ReconciliationPhase)
    (answer : Answer StoreError DatabaseFault) (hanswer : answer ≠ .committed)
    (h : (next p answer).promises) : p.promises := by
  cases p with
  | applying n =>
    cases answer <;> simp only [next, promises] at h
    · exact absurd rfl hanswer
    all_goals split_ifs at h
  | parking n =>
    cases answer with
    | committed => exact absurd rfl hanswer
    | failed e => simp [next, promises] at h
    | lost fault =>
      cases fault <;> simp only [next, promises] at h
      · split_ifs at h
        simp at h
      · simp at h
  | returned ok => exact h

/-- Each transaction of a reconciliation lowers its rank. -/
theorem ReconciliationPhase.rank_next (p : ReconciliationPhase)
    (answer : Answer StoreError DatabaseFault) : (next p answer).rank ≤ p.rank - 1 := by
  have happlied (n : ℕ) : rank (if n + 1 < approvedApplicationAttempts then .applying (n + 1)
      else .parking 0) ≤ rank (.applying n) - 1 := by
    unfold approvedApplicationAttempts
    split_ifs
    all_goals simp only [rank, approvedApplicationAttempts, approvedEvidenceWriteAttempts]
    all_goals omega
  have hparked (n : ℕ) : rank (if n + 1 < approvedEvidenceWriteAttempts then .parking (n + 1)
      else .returned false) ≤ rank (.parking n) - 1 := by
    unfold approvedEvidenceWriteAttempts
    split_ifs
    all_goals simp only [rank, approvedEvidenceWriteAttempts]
    all_goals omega
  cases p with
  | applying n =>
    cases answer with
    | committed => exact Nat.zero_le _
    | failed e => exact happlied n
    | lost fault => exact happlied n
  | parking n =>
    cases answer with
    | committed => exact Nat.zero_le _
    | failed e => exact Nat.zero_le _
    | lost fault =>
      cases fault with
      | retryable => exact hparked n
      | other => exact Nat.zero_le _
  | returned ok => exact Nat.zero_le _

/-- Only a call that has returned has no rank left. -/
theorem ApprovalPhase.returned_of_rank {p : ApprovalPhase} (h : p.rank = 0) :
    ∃ ok, p = .returned ok := by
  cases p with
  | returned ok => exact ⟨ok, rfl⟩
  | _ => simp [rank] at h

/-- A reconciliation of rank zero has returned. -/
theorem ReconciliationPhase.returned_of_rank {p : ReconciliationPhase} (h : p.rank = 0) :
    ∃ ok, p = .returned ok := by
  cases p with
  | applying n => simp [rank] at h
  | parking n => simp [rank] at h
  | returned ok => exact ⟨ok, rfl⟩

/-- What is promised of a call that was told of an approval, from a store that is changed by others
in between: when it returns without an error, the approval is remembered then and at all later
times; and it returns after a number of transactions, whatever their answers. -/
structure NotForgotten (attemptId : Id) (evidence : ProcessorEvidence) {ρ : Type}
    (call : Call Db StoreError DatabaseFault ApprovalInput ρ) (returned : Bool → ρ) (start : ρ)
    (transactions : ℕ) (db : Db) : Prop where
  remembered : ∀ (moves : List (Move (ℕ × Op) DatabaseFault ApprovalInput)) (later : List (ℕ × Op)),
    let s := run (call.exec execStore) (start, db) moves
    s.1 = returned true → Remembered attemptId evidence (run execStore s.2 later)
  returns : ∀ moves : List (Move (ℕ × Op) DatabaseFault ApprovalInput),
    transactions ≤ moves.countP Move.isOwn →
      ∃ ok, (run (call.exec execStore) (start, db) moves).1 = returned ok

/-- The call that applies an approval. -/
theorem approvalCall_notForgotten (hkeyed : db.Keyed) (r : OutcomeReservation)
    (evidence : ProcessorEvidence) :
    NotForgotten r.identity.attemptId evidence (approvalCall r evidence) .returned
      (.start r evidence) 9 db := by
  constructor
  · intro moves later s hs
    have hstart : ¬ (ApprovalPhase.start r evidence).promises := by
      unfold ApprovalPhase.start
      split_ifs
      all_goals simp [ApprovalPhase.promises]
    obtain ⟨hkeyed', hpromise⟩ := callOf_promise (ApprovalPhase.program r evidence)
      (ApprovalPhase.next r) (fun _ i p => p.statements r evidence i)
      (fun _ i _ _ hkeyed hnext hp => ApprovalPhase.ensures_remembered r evidence i hkeyed hnext hp)
      (ApprovalPhase.promises_of_failure r) moves hstart hkeyed
    exact (hpromise (.inr hs)).of_recordKept (run_recordKept later hkeyed').2
  · intro moves hmoves
    have hrank := Call.rank_le execStore (approvalCall r evidence) (ApprovalPhase.rank_next r)
      moves (.start r evidence) db
    have hstart : (ApprovalPhase.start r evidence).rank ≤ 9 := by
      unfold ApprovalPhase.start
      split_ifs
      all_goals simp [ApprovalPhase.rank, approvedApplicationAttempts]
    exact ApprovalPhase.returned_of_rank (by omega)

/-- The call that applies the approval of a replacement that was reconciled. -/
theorem reconciliationCall_notForgotten (hkeyed : db.Keyed)
    (r : SubscriptionPaymentMethodReplacement) (evidence : ProcessorEvidence) (diagnosed : Bool) :
    NotForgotten r.identity.attemptId evidence (reconciliationCall r evidence diagnosed) .returned
      (.applying 0) 6 db := by
  constructor
  · intro moves later s hs
    have hstart : ¬ (ReconciliationPhase.applying 0).promises := by
      simp [ReconciliationPhase.promises]
    obtain ⟨hkeyed', hpromise⟩ := callOf_promise (ReconciliationPhase.program r evidence diagnosed)
      ReconciliationPhase.next (fun _ i p => p.statements r evidence diagnosed i)
      (fun _ i _ _ hkeyed hnext hp =>
        ReconciliationPhase.ensures_remembered r evidence diagnosed i hkeyed hnext hp)
      ReconciliationPhase.promises_of_failure moves hstart hkeyed
    exact (hpromise hs).of_recordKept (run_recordKept later hkeyed').2
  · intro moves hmoves
    have hrank := Call.rank_le execStore (reconciliationCall r evidence diagnosed)
      ReconciliationPhase.rank_next moves (.applying 0) db
    have hstart : (ReconciliationPhase.applying 0).rank = 6 := rfl
    exact ReconciliationPhase.returned_of_rank (by omega)

end Calls

/-- An approved outcome is not forgotten. From every state of every run, a call that applies an
approval or the reconciled approval of a replacement, with any steps of the engine between its
transactions and with any of their answers lost, returns without an error only when the store has
the approval, which stays in it for good; and it returns after at most nine transactions, or six. -/
theorem approval_not_forgotten {db₀ : Db} (hfresh : db₀.Fresh) (steps : List (ℕ × Op)) :
    let db := run execStore db₀ steps
    (∀ r evidence, NotForgotten r.identity.attemptId evidence (approvalCall r evidence)
      .returned (.start r evidence) 9 db) ∧
    ∀ r evidence diagnosed, NotForgotten r.identity.attemptId evidence
      (reconciliationCall r evidence diagnosed) .returned (.applying 0) 6 db := by
  intro db
  have hkeyed : db.Keyed := (run_recordKept steps hfresh.keyed).1
  exact ⟨approvalCall_notForgotten hkeyed, reconciliationCall_notForgotten hkeyed⟩

/-- What the transactions of a call are given. -/
def callInput : ApprovalInput := ⟨0, ⟨1, 1, 1⟩, 2, true, .disabled, false⟩

/-- A call whose three applications meet faults, and whose compensation commits while its answer is
lost. -/
def lostAnswers : List (Move (ℕ × Op) DatabaseFault ApprovalInput) :=
  [.lose callInput .other false, .lose callInput .retryable false, .lose callInput .other false,
    .lose callInput .other true, .own callInput, .other (5, .expireEnrollments [1]), .own callInput]

/-- The approval of an enrollment is found after lost answers. -/
theorem approval_not_forgotten_lostAnswers :
    let r : OutcomeReservation := .initial enrollmentReservation
    let evidence := approvedEvidence "tx-1"
    let s := run ((approvalCall r evidence).exec execStore)
      (.start r evidence, run execStore accountStore (enrollment.take 2)) lostAnswers
    s.1 = .returned true ∧ Remembered 1 evidence (run execStore s.2 []) :=
  have hreturned :
    (run ((approvalCall (.initial enrollmentReservation) (approvedEvidence "tx-1")).exec execStore)
      (.start (.initial enrollmentReservation) (approvedEvidence "tx-1"),
        run execStore accountStore (enrollment.take 2)) lostAnswers).1 = .returned true := by
    decide +kernel
  ⟨hreturned, ((approval_not_forgotten accountStore_fresh (enrollment.take 2)).1
    (.initial enrollmentReservation) (approvedEvidence "tx-1")).remembered lostAnswers [] hreturned⟩

end SyrupRail
