import Mathlib.Data.Prod.Lex
import SyrupRail.Lib.Keyset
import SyrupRail.Store.Attestation

/-!
# Classification of pending charges

A pass over the pending charges of an account gives each the progression that its attempt asks for.
The progression is chosen from the role of the charge, the attempt, and how their transactions
compare; the update asks again whether the row is eligible, and the table has constraints of its
own. The choice is always one that both accept (`classifyPendingCharge_accepted`), and the case that
needs an argument over whole runs is an update of a method, which has no amount: an additional
charge of one that was approved has another transaction, because the primary charge has that of the
attempt.

The pass reads pages of candidates behind a cursor and stops when it has made enough transitions. It
is compared with a walk over the candidates in their order, which skips the locked ones.
-/

namespace SyrupRail

open Transactions

/-! ## One charge -/

section Charge

variable {now : Timestamp} {db : Db} {a : PaymentAttempt} {c : ProcessorCharge}
  {charges : List ProcessorCharge}

/-- A pending charge has none of the times of a progression. -/
theorem ProcessorCharge.times_of_pending (h : c.checks = true)
    (hpending : c.progression = .pending) : c.reconciliationRequiredAt = none ∧
      c.externalReversalRequiredAt = none ∧ c.appliedAt = none ∧ c.externallyReversedAt = none := by
  simp only [ProcessorCharge.checks, Bool.and_eq_true] at h
  have htimes := h.1.1.1.1
  rw [ProcessorCharge.stateTimestampsCheck, hpending] at htimes
  exact of_decide_eq_true htimes

/-- A pending charge passes the constraints after every transition that it is eligible for. -/
theorem ProcessorCharge.checks_transitioned {progression : ProcessorChargeProgression}
    {update : ChargeStateCodeUpdate} (h : c.checks = true) (hpending : c.progression = .pending)
    (hnow : c.createdAt ≤ now) (heligible : c.eligible progression = true)
    (hidentity : c.evidence.transactionId = none → progression = .reconciliationRequired) :
    (c.transitioned now progression update).checks = true := by
  obtain ⟨hreconciliation, hreversal, happlied, hreversed⟩ := times_of_pending h hpending
  have htext : c.evidence.textCheck = true := by
    simp only [ProcessorCharge.checks, Bool.and_eq_true] at h
    exact h.2
  have heligibility : (!progression.isReversal || c.reversalEligible) = true := by
    simp only [ProcessorCharge.eligible, Bool.and_eq_true] at heligible
    exact heligible.1
  have hidentified : (c.evidence.transactionId.isSome || progression = .pending ||
      progression = .reconciliationRequired) = true := by
    cases htx : c.evidence.transactionId with
    | none => simp [hidentity htx]
    | some tx => rfl
  have htimes : (c.transitioned now progression update).stateTimestampsCheck = true := by
    cases progression <;> simp [ProcessorCharge.transitioned, ProcessorCharge.progressed,
      ProcessorCharge.stateTimestampsCheck, hreconciliation, hreversal, happlied, hreversed]
  show ((((c.transitioned now progression update).stateTimestampsCheck && _) && _) && _ && _) = true
  rw [htimes]
  simp only [Bool.true_and, Bool.and_eq_true, decide_eq_true_eq]
  exact ⟨⟨⟨hidentified, heligibility⟩, hnow⟩, htext⟩

/-- A transition keeps the keys of the row. -/
theorem chargeIndexes_transitioned {p : ProcessorCharge → Bool}
    {progression : ProcessorChargeProgression} {update : ChargeStateCodeUpdate}
    (h : chargeIndexes charges = true) :
    chargeIndexes (Table.updateWhere p (·.transitioned now progression update) charges) = true := by
  have kept {κ : Type} [DecidableEq κ] {key : ProcessorCharge → Option κ}
      (hkey : ∀ c, key (c.transitioned now progression update) = key c)
      (hunique : Table.uniqueOn key charges = true) :
      Table.uniqueOn key
        (Table.updateWhere p (·.transitioned now progression update) charges) = true :=
    Table.uniqueOn_updateWhere (fun c _ _ => .inl (hkey c)) hunique
  simp only [chargeIndexes, Bool.and_eq_true] at h ⊢
  obtain ⟨⟨⟨⟨hid, hgateway⟩, hattempt⟩, htransactionless⟩, hprimary⟩ := h
  exact ⟨⟨⟨⟨kept (fun _ => rfl) hid, kept (fun _ => rfl) hgateway⟩, kept (fun _ => rfl) hattempt⟩,
    kept (fun _ => rfl) htransactionless⟩, kept (fun _ => rfl) hprimary⟩

/-- A transition that a pending row is eligible for is stored. -/
theorem transitionPendingCharge_eq_ok {progression : ProcessorChargeProgression}
    {code : Option ProcessorChargeStateCode} (hvalid : ChargesValid charges) (hc : c ∈ charges)
    (hpending : c.progression = .pending) (hnow : c.createdAt ≤ now)
    (heligible : c.eligible progression = true)
    (hidentity : c.evidence.transactionId = none → progression = .reconciliationRequired) :
    transitionPendingCharge now c.id progression code charges =
      .ok
        (Table.updateWhere (·.id = c.id) (·.transitioned now progression (.replace code))
          charges) := by
  have hmatched : c.transitionMatched c.id [.pending] progression = true :=
    decide_eq_true ⟨rfl, by simp [hpending], heligible⟩
  -- The row is the only one with its id, so that the predicate of the update is its key.
  have hwhere : Table.updateWhere (·.transitionMatched c.id [.pending] progression)
      (·.transitioned now progression (.replace code)) charges =
      Table.updateWhere (·.id = c.id) (·.transitioned now progression (.replace code)) charges := by
    refine List.map_congr_left fun b hb => ?_
    by_cases hid : b.id = c.id
    · obtain rfl := hvalid.eq_of_id hb hc hid
      simp [hmatched]
    · have hne : b.transitionMatched c.id [.pending] progression = false :=
        decide_eq_false fun h => hid h.1
      simp [hne, hid]
  rw [transitionPendingCharge, if_pos (List.any_eq_true.mpr ⟨c, hc, hmatched⟩), hwhere,
    storeCharges]
  have hchecks : (Table.updateWhere (·.id = c.id) (·.transitioned now progression (.replace code))
      charges).all ProcessorCharge.checks = true := by
    refine List.all_eq_true.mpr fun b hb => ?_
    obtain ⟨b₀, hb₀, rfl⟩ := Table.mem_updateWhere.mp hb
    by_cases hid : b₀.id = c.id
    · obtain rfl := hvalid.eq_of_id hb₀ hc hid
      simp only [decide_true, if_true]
      exact ProcessorCharge.checks_transitioned (hvalid.checks b₀ hc) hpending hnow heligible
        hidentity
    · simp only [hid, decide_false, Bool.false_eq_true, if_false]
      exact hvalid.checks b₀ hb₀
  rw [hchecks, chargeIndexes_transitioned hvalid.indexes]
  rfl

/-- A pending charge has no attestation. -/
theorem ChargeOf.find_attestation_of_pending (h : ChargeOf db a c) (hvalid : db.Valid)
    (hlinked : db.ChargesLinked) (hpending : c.progression = .pending) {tx : String}
    (htx : c.evidence.transactionId = some tx) :
    db.ledger.attestations.find? (fun t => t.attemptId = a.id ∧ t.gatewayTransactionId = tx) =
      none := by
  rw [List.find?_eq_none]
  intro t ht hmatch
  obtain ⟨hattempt, htransaction⟩ := of_decide_eq_true hmatch
  obtain ⟨c', hc', -, hattempt', htx', hreversed⟩ := hlinked.attested t ht
  have hof : c.attemptId = a.id := congrArg ChargeDimensions.attemptId h.dimensions
  have heq : c' = c := hvalid.charges.eq_of_transaction hc' h.charge
    (hattempt'.trans (hattempt.trans hof.symm)) (htx'.trans (congrArg some htransaction)) htx
  rw [heq, hpending] at hreversed
  cases hreversed

/-- Charges with the transaction of their attempt. -/
theorem sameCharge_of_identified {tx : String} (htx : c.evidence.transactionId = some tx)
    (h : sameCharge a c = true) : a.evidence.transactionId = some tx := by
  unfold sameCharge at h
  rw [htx] at h
  split at h
  · rename_i tx₁ tx₂ h₁ h₂
    rw [h₁, of_decide_eq_true h, ← h₂]
  · rename_i h₁
    cases h₁
  · cases h

/-- A charge that is applied is the primary one of its attempt: an approved update of a method,
which has no amount, has its primary charge under the same transaction. -/
theorem ChargeOf.primary_of_applied (h : ChargeOf db a c) (hvalid : db.Valid)
    (hlinked : db.ChargesLinked) {tx : String} (htx : c.evidence.transactionId = some tx)
    (hsame : sameCharge a c = true) (happroved : a.status = .approved)
    (hreverse : ¬ (0 < a.amount.cents ∧ c.role = .additional)) : c.role = .primary := by
  cases hrole : c.role with
  | primary => rfl
  | additional =>
    have hzero : a.amount.cents = 0 := by
      by_contra hne
      exact hreverse ⟨Nat.pos_of_ne_zero hne, hrole⟩
    have hkind := (hvalid.rows a h.attempt).constrained.amount.mpr hzero
    obtain ⟨c', hc', hattempt, hprimary, -, htx'⟩ :=
      hlinked.methodUpdates a h.attempt hkind happroved
    have hof : c.attemptId = a.id := congrArg ChargeDimensions.attemptId h.dimensions
    have heq : c' = c := hvalid.charges.eq_of_transaction hc' h.charge (hattempt.trans hof.symm)
      (htx'.trans (sameCharge_of_identified htx hsame)) htx
    rw [← heq, hprimary] at hrole
    cases hrole

/-- What is chosen for a pending charge: the row is eligible for it, and it is an application only
for the primary charge with the transaction of an approved attempt. -/
structure Classified (a : PaymentAttempt) (c : ProcessorCharge)
    (progression : ProcessorChargeProgression) : Prop where
  moved : progression ≠ .pending
  eligible : c.eligible progression = true
  identity : c.evidence.transactionId = none → progression = .reconciliationRequired
  applied : progression = .applied → c.role = .primary ∧ a.status = .approved ∧
    c.evidence.transactionId ≠ none ∧ a.evidence.transactionId = c.evidence.transactionId

/-- The choice for a pending charge. -/
theorem ChargeOf.classifyPendingCharge_eq_ok (h : ChargeOf db a c) (hvalid : db.Valid)
    (hlinked : db.ChargesLinked) (hpending : c.progression = .pending) :
    ∃ progression code, classifyPendingCharge db.ledger.attestations a c = .ok (progression, code) ∧
      Classified a c progression := by
  have hreconcile : c.eligible .reconciliationRequired = true := rfl
  unfold classifyPendingCharge
  cases htx : c.evidence.transactionId with
  | none => exact ⟨_, _, rfl, by simp, hreconcile, fun _ => rfl, by simp⟩
  | some tx =>
    simp only [h.find_attestation_of_pending hvalid hlinked hpending htx]
    have hidentity {progression : ProcessorChargeProgression} :
        c.evidence.transactionId = none → progression = .reconciliationRequired := by
      rw [htx]
      simp
    split
    · rename_i hreverse
      -- A positive amount is of no update of a method.
      refine ⟨_, _, rfl, by simp, ?_, hidentity, by simp⟩
      have hamount : c.amount = a.amount := congrArg ChargeDimensions.amount h.dimensions
      have hkind : c.attemptKind = a.kind := congrArg ChargeDimensions.attemptKind h.dimensions
      have hnot : a.kind ≠ .subscriptionPaymentMethodUpdate := fun hk =>
        hreverse.1.ne' ((hvalid.rows a h.attempt).constrained.amount.mp hk)
      simp [ProcessorCharge.eligible, ProcessorCharge.reversalEligible, htx, hamount, hkind,
        hreverse.1, hnot]
    rename_i hreverse
    split
    · rename_i happly
      obtain ⟨hsame, happroved⟩ := happly
      have hprimary := h.primary_of_applied hvalid hlinked htx hsame happroved
        fun hadditional => hreverse ⟨hadditional.1, .inl hadditional.2⟩
      refine ⟨_, _, rfl, by simp, ?_, hidentity, fun _ => ⟨hprimary, happroved, by simp [htx], ?_⟩⟩
      · simp [ProcessorCharge.eligible, ProcessorChargeProgression.isReversal, hprimary, htx]
      · rw [sameCharge_of_identified htx hsame, htx]
    · exact ⟨_, _, rfl, by simp, hreconcile, hidentity, by simp⟩

/-- The choice for a pending charge is accepted by the update and by the constraints. -/
theorem ChargeOf.classifyPendingCharge_accepted (h : ChargeOf db a c) (hvalid : db.Valid)
    (hlinked : db.ChargesLinked) (hpending : c.progression = .pending) (hnow : c.createdAt ≤ now) :
    ∃ progression code, classifyPendingCharge db.ledger.attestations a c = .ok (progression, code) ∧
      Classified a c progression ∧
      transitionPendingCharge now c.id progression code db.ledger.charges =
        .ok (Table.updateWhere (·.id = c.id) (·.transitioned now progression (.replace code))
          db.ledger.charges) := by
  obtain ⟨progression, code, hclassify, hclassified⟩ :=
    h.classifyPendingCharge_eq_ok hvalid hlinked hpending
  exact ⟨progression, code, hclassify, hclassified, transitionPendingCharge_eq_ok hvalid.charges
    h.charge hpending hnow hclassified.eligible hclassified.identity⟩

/-- The classification of a pending charge stores what was chosen for it. -/
theorem ChargeOf.classifyCharge_eq {progression : ProcessorChargeProgression}
    {code : Option ProcessorChargeStateCode} (h : ChargeOf db a c) (hvalid : db.Valid)
    (hpending : c.progression = .pending)
    (hclassify : classifyPendingCharge db.ledger.attestations a c = .ok (progression, code))
    (htransition : transitionPendingCharge now c.id progression code db.ledger.charges =
      .ok charges) :
    classifyCharge now a c.id db.ledger = .ok { db.ledger with charges } := by
  have hof : c.attemptId = a.id := congrArg ChargeDimensions.attemptId h.dimensions
  have hfind : db.ledger.charges.find? (fun c' => c'.id = c.id ∧ c'.attemptId = a.id ∧
      c'.progression = .pending) = some c :=
    Table.find?_eq_some_of_unique h.charge (by simp [hof, hpending]) fun b hb hp =>
      hvalid.charges.eq_of_id hb h.charge (of_decide_eq_true hp).1
  simp only [classifyCharge, hfind, chargeDimensionsMatch_iff.mpr h.dimensions, Bool.not_true,
    Bool.false_eq_true, if_false, hclassify, bind, Except.bind, htransition]

/-- A charge that is no longer pending is not moved. -/
theorem mem_of_transitionPendingCharge {chargeId : Id} {progression : ProcessorChargeProgression}
    {code : Option ProcessorChargeStateCode} {charges' : List ProcessorCharge}
    (h : transitionPendingCharge now chargeId progression code charges = .ok charges')
    (hc : c ∈ charges) (hmoved : c.progression ≠ .pending) : c ∈ charges' := by
  unfold transitionPendingCharge at h
  split_ifs at h
  obtain ⟨rfl, -⟩ := chargesValid_of_storeCharges h
  exact mem_updateWhere_of_not hc (by simp [ProcessorCharge.transitionMatched, hmoved])

end Charge

/-! ## The pass -/

/-- `RECONCILIATION_PHASE_BATCH_SIZE`. -/
def reconciliationPhaseBatchSize : ℕ := 100

/-- `PROCESSOR_CHARGE_CANDIDATE_PAGE_SIZE`. -/
def processorChargeCandidatePageSize : ℕ := 128

/-- What the candidates are ordered by. `observed_at` has the time of the insertion, as `created_at`
does, and no statement writes either. -/
def ProcessorCharge.observedKey (c : ProcessorCharge) : Timestamp ×ₗ Id := toLex (c.createdAt, c.id)

/-- `PendingChargeCandidate`. -/
structure PendingChargeCandidate where
  id : Id
  attemptId : Id
  transactionId : Option String
  observedAt : Timestamp
  deriving DecidableEq, Repr

/-- The columns of a candidate. -/
def ProcessorCharge.candidate (c : ProcessorCharge) : PendingChargeCandidate where
  id := c.id
  attemptId := c.attemptId
  transactionId := c.evidence.transactionId
  observedAt := c.createdAt

/-- The key of a candidate. -/
def PendingChargeCandidate.key (candidate : PendingChargeCandidate) : Timestamp ×ₗ Id :=
  toLex (candidate.observedAt, candidate.id)

/-- Whether a charge is a pending one of an account. -/
def isPendingOf (gatewayAccountId : Id) (c : ProcessorCharge) : Bool :=
  c.gatewayAccountId = gatewayAccountId ∧ c.progression = .pending

/-- `count_pending_processor_charges`. -/
def countPendingProcessorCharges (gatewayAccountId : Id) (db : Db) : ℕ :=
  db.ledger.charges.countP (isPendingOf gatewayAccountId)

/-- The key of the last pending charge when the pass starts. -/
def pendingUpperBound (gatewayAccountId : Id) (db : Db) : Option (Timestamp ×ₗ Id) :=
  (((db.ledger.charges.filter (isPendingOf gatewayAccountId)).map (·.observedKey)).insertionSort
    (· ≥ ·)).head?

/-- Whether a charge is selected as a candidate: a pending one whose attempt is of the account,
after the cursor and up to the bound. -/
def isPendingCandidate (gatewayAccountId : Id) (upper : Timestamp ×ₗ Id)
    (cursor : Option (Timestamp ×ₗ Id)) (db : Db) (c : ProcessorCharge) : Bool :=
  isPendingOf gatewayAccountId c &&
    (db.attempts.any fun a => a.id = c.attemptId ∧ a.gatewayAccountId = gatewayAccountId) &&
    cursor.all (· < c.observedKey) && c.observedKey ≤ upper

/-- The rows of the candidates after a cursor, in order. -/
def pendingCandidateRows (gatewayAccountId : Id) (upper : Timestamp ×ₗ Id)
    (cursor : Option (Timestamp ×ₗ Id)) (db : Db) : List ProcessorCharge :=
  (db.ledger.charges.filter (isPendingCandidate gatewayAccountId upper cursor db)).insertionSort
    fun c c' => c.observedKey ≤ c'.observedKey

/-- When a candidate is examined, and which of its locks another transaction holds then. -/
structure Examination where
  elapsed : ℕ
  aggregateBusy : Bool
  attemptLocked : Bool
  chargeLocked : Bool
  deriving DecidableEq, Repr

/-- Whether a candidate is skipped; a host charge has no aggregate. -/
def Examination.skips (x : Examination) (a : PaymentAttempt) : Bool :=
  (a.target.planKey.isSome && x.aggregateBusy) || x.attemptLocked || x.chargeLocked

/-- What became of a candidate. -/
inductive CandidateOutcome
  | missing | skipped | transitioned
  deriving DecidableEq, Repr

/-- The transaction on one candidate. -/
def classifyCandidate (gatewayAccountId : Id) (x : Examination) (candidate : PendingChargeCandidate)
    (db : Db) : Except StoreError (Db × CandidateOutcome) :=
  let now := db.clock + x.elapsed
  match Table.findBy PaymentAttempt.id candidate.attemptId db.attempts with
  | none => .ok (db.at now, .missing)
  | some a =>
    if a.gatewayAccountId ≠ gatewayAccountId then .error invalidReconciliationState
    else if x.skips a then .ok (db.at now, .skipped)
    else
      match db.ledger.charges.find? fun c =>
          c.id = candidate.id ∧ c.attemptId = candidate.attemptId ∧ c.progression = .pending with
      | none => .ok (db.at now, .skipped)
      | some c =>
        if c.evidence.transactionId ≠ candidate.transactionId then .error invalidReconciliationState
        else
          (classifyPendingProcessorCharge now candidate.id (db.at now)).map fun r =>
            (r.2, .transitioned)

/-- The state of a pass: the store, the counts of its summary, and the charges that it examined. -/
structure ClassificationPass where
  db : Db
  transitioned : ℕ := 0
  skippedLocked : ℕ := 0
  examined : List Id := []
  deriving DecidableEq, Repr

/-- The counts after a candidate. -/
def ClassificationPass.count (pass : ClassificationPass) (db : Db) (id : Id) :
    CandidateOutcome → ClassificationPass
  | .missing => { pass with db, examined := pass.examined ++ [id] }
  | .skipped =>
    { pass with db, skippedLocked := pass.skippedLocked + 1, examined := pass.examined ++ [id] }
  | .transitioned =>
    { pass with db, transitioned := pass.transitioned + 1, examined := pass.examined ++ [id] }

/-- The candidates of a page, until there were enough transitions. -/
def classifyPage (gatewayAccountId : Id) (limit : ℕ) (examine : Id → Examination) :
    List PendingChargeCandidate → ClassificationPass → Except StoreError ClassificationPass
  | [], pass => .ok pass
  | candidate :: rest, pass =>
    if limit ≤ pass.transitioned then .ok pass
    else
      match classifyCandidate gatewayAccountId (examine candidate.id) candidate pass.db with
      | .error e => .error e
      | .ok (db, outcome) =>
        classifyPage gatewayAccountId limit examine rest (pass.count db candidate.id outcome)

/-- The pages of a pass, with a bound on their number; `none` when it is not enough. -/
def classifyPages (gatewayAccountId : Id) (limit : ℕ) (examine : Id → Examination)
    (upper : Timestamp ×ₗ Id) :
    ℕ → Option (Timestamp ×ₗ Id) → ClassificationPass →
      Option (Except StoreError ClassificationPass)
  | 0, _, _ => none
  | pages + 1, cursor, pass =>
    if limit ≤ pass.transitioned then some (.ok pass)
    else
      let candidates := ((pendingCandidateRows gatewayAccountId upper cursor pass.db).take
        processorChargeCandidatePageSize).map (·.candidate)
      match candidates.getLast? with
      | none => some (.ok pass)
      | some last =>
        match classifyPage gatewayAccountId limit examine candidates pass with
        | .error e => some (.error e)
        | .ok pass => classifyPages gatewayAccountId limit examine upper pages (some last.key) pass

/-- `ProcessorChargeClassificationSummary`. -/
structure ProcessorChargeClassificationSummary where
  transitioned : ℕ
  skippedLocked : ℕ
  remainingPending : ℕ
  deriving DecidableEq, Repr

/-- The summary of a pass. -/
def ClassificationPass.summary (gatewayAccountId : Id) (pass : ClassificationPass) :
    ProcessorChargeClassificationSummary where
  transitioned := pass.transitioned
  skippedLocked := pass.skippedLocked
  remainingPending := countPendingProcessorCharges gatewayAccountId pass.db

/-- `classify_pending_processor_charges`: its summary, and the pass that it is of. -/
def classifyPendingProcessorCharges (pages : ℕ) (gatewayAccountId : Id) (maxTransitions : ℕ)
    (examine : Id → Examination) (db : Db) :
    Option (Except StoreError (ProcessorChargeClassificationSummary × ClassificationPass)) :=
  let limit := min maxTransitions reconciliationPhaseBatchSize
  let start : ClassificationPass := { db }
  if limit = 0 then some (.ok (start.summary gatewayAccountId, start))
  else
    match pendingUpperBound gatewayAccountId db with
    | none => some (.ok (⟨0, 0, 0⟩, start))
    | some upper =>
      (classifyPages gatewayAccountId limit examine upper pages none start).map fun result =>
        result.map fun pass => (pass.summary gatewayAccountId, pass)

/-! ## One candidate -/

/-- A store that a run may have left: the pass needs no more of it. -/
def Db.Settled (db : Db) : Prop := db.Valid ∧ db.ChargesLinked ∧ db.ChargesDated

/-- What a pass does to a row: it is moved, or it stays. -/
def RowMoved (moved : List Id) (c c' : ProcessorCharge) : Prop :=
  (c.id ∈ moved → c'.id = c.id ∧ c'.createdAt = c.createdAt ∧ c'.progression ≠ .pending) ∧
    (c.id ∉ moved → c' = c)

section Candidate

variable {gatewayAccountId : Id} {db : Db} {a : PaymentAttempt} {c : ProcessorCharge}

/-- The transaction on a pending charge. -/
theorem ChargeOf.classifyPendingProcessorCharge_eq {now : Timestamp} (h : ChargeOf db a c)
    (hvalid : db.Valid) (hlinked : db.ChargesLinked) (hpending : c.progression = .pending)
    (hnow : c.createdAt ≤ now) :
    ∃ progression code, progression ≠ .pending ∧ classifyPendingProcessorCharge now c.id db =
      .ok ((), db.withCharges (Table.updateWhere (·.id = c.id)
        (·.transitioned now progression (.replace code)) db.ledger.charges)) := by
  obtain ⟨progression, code, hclassify, hclassified, htransition⟩ :=
    h.classifyPendingCharge_accepted hvalid hlinked hpending hnow
  refine ⟨progression, code, hclassified.moved, ?_⟩
  have hledger := h.classifyCharge_eq hvalid hpending hclassify htransition
  simp only [classifyPendingProcessorCharge, bind, StateT.bind, get, getThe, MonadStateOf.get,
    StateT.get, pure, Except.pure, Except.bind, h.find_charge hvalid, h.requireAttempt_eq hvalid,
    onLedger, Tx.statement, hledger, Except.map]
  rfl

/-- The passing of time leaves a store settled. -/
theorem Db.Settled.at (h : db.Settled) (elapsed : ℕ) : (db.at (db.clock + elapsed)).Settled :=
  ⟨h.1.at _, Db.law_chargesLinked.later db _ h.1
    (Int.le_add_of_nonneg_right (Int.natCast_nonneg _)) h.2⟩

/-- A candidate is skipped because of its locks, or its charge is moved; either way the store is one
that a run may leave. -/
theorem ChargeOf.classifyCandidate_eq (h : ChargeOf db a c) (hdb : db.Settled)
    (hpending : isPendingOf gatewayAccountId c = true) (x : Examination) :
    ∃ db', classifyCandidate gatewayAccountId x c.candidate db =
        .ok (db', if x.skips a then .skipped else .transitioned) ∧
      db'.Settled ∧ db'.attempts = db.attempts ∧
      List.Forall₂ (RowMoved (if x.skips a then [] else [c.id])) db.ledger.charges
        db'.ledger.charges := by
  obtain ⟨hvalid, hlinked, hdated⟩ := hdb
  obtain ⟨haccount, hprogression⟩ := of_decide_eq_true hpending
  have hof : c.attemptId = a.id := congrArg ChargeDimensions.attemptId h.dimensions
  have hsame : c.gatewayAccountId = a.gatewayAccountId :=
    congrArg ChargeDimensions.gatewayAccountId h.dimensions
  have hattempt : Table.findBy PaymentAttempt.id c.candidate.attemptId db.attempts = some a := by
    refine Table.find?_eq_some_of_unique h.attempt (decide_eq_true hof.symm) fun b hb hp => ?_
    exact nodup_id_of_attemptIndexes hvalid.attempts hb h.attempt ((of_decide_eq_true hp).trans hof)
  have haccount' : ¬ a.gatewayAccountId ≠ gatewayAccountId :=
    not_not.mpr (hsame.symm.trans haccount)
  have hcharge : db.ledger.charges.find? (fun c' => c'.id = c.candidate.id ∧
      c'.attemptId = c.candidate.attemptId ∧ c'.progression = .pending) = some c :=
    Table.find?_eq_some_of_unique h.charge (decide_eq_true ⟨rfl, rfl, hprogression⟩) fun b hb hp =>
      hvalid.charges.eq_of_id hb h.charge (of_decide_eq_true hp).1
  have htransaction : ¬ c.evidence.transactionId ≠ c.candidate.transactionId := not_not.mpr rfl
  have hnow : c.createdAt ≤ db.clock + x.elapsed :=
    (hdated c h.charge).trans (Int.le_add_of_nonneg_right (Int.natCast_nonneg _))
  cases hskips : x.skips a with
  | true =>
    refine ⟨db.at (db.clock + x.elapsed), ?_, Db.Settled.at ⟨hvalid, hlinked, hdated⟩ x.elapsed,
      rfl, ?_⟩
    · simp only [classifyCandidate, hattempt, if_neg haccount', hskips, if_true]
    · exact List.forall₂_same.mpr fun b _ => ⟨fun hb => (List.not_mem_nil hb).elim, fun _ => rfl⟩
  | false =>
    have hat : ChargeOf (db.at (db.clock + x.elapsed)) a c := ⟨h.charge, h.attempt, h.dimensions⟩
    have hlater := Db.Settled.at ⟨hvalid, hlinked, hdated⟩ x.elapsed
    obtain ⟨progression, code, hmoved, hclassify⟩ := hat.classifyPendingProcessorCharge_eq hlater.1
      hlater.2.1 hprogression hnow
    -- The transaction is the operation of the engine that classifies the charge.
    have hexec : execStore db (x.elapsed, .classifyPending c.id) =
        (db.at (db.clock + x.elapsed)).withCharges (Table.updateWhere (·.id = c.id)
          (·.transitioned (db.clock + x.elapsed) progression (.replace code))
              db.ledger.charges) := by
      simp only [execStore, Op.transaction]
      rw [hclassify]
      rfl
    refine ⟨(db.at (db.clock + x.elapsed)).withCharges (Table.updateWhere (·.id = c.id)
      (·.transitioned (db.clock + x.elapsed) progression (.replace code)) db.ledger.charges), ?_,
      ?_, rfl,
      ?_⟩
    · have hclassify' : classifyPendingProcessorCharge (db.clock + x.elapsed) c.candidate.id
          (db.at (db.clock + x.elapsed)) = _ := hclassify
      simp only [classifyCandidate, hattempt, if_neg haccount', hskips, Bool.false_eq_true,
        if_false, hcharge, if_neg htransaction, hclassify', Except.map]
      rfl
    · have hstep :=
        Db.law_chargesLinked.step hvalid ⟨hlinked, hdated⟩ (x.elapsed, .classifyPending c.id)
      have hvalid' := Db.law_valid.step hvalid hvalid (x.elapsed, .classifyPending c.id)
      rw [hexec] at hstep hvalid'
      exact ⟨hvalid', hstep⟩
    · refine List.forall₂_map_right_iff.mpr (List.forall₂_same.mpr fun b _ => ?_)
      by_cases hid : b.id = c.id
      · simp only [hid, decide_true, if_true]
        exact ⟨fun _ => ⟨rfl, rfl, hmoved⟩, fun hne => absurd (by simp [hid]) hne⟩
      · simp only [hid, decide_false, Bool.false_eq_true, if_false]
        exact ⟨fun hmem => absurd (List.mem_singleton.mp hmem) hid, fun _ => rfl⟩

end Candidate

/-! ## Walks -/

/-- Whether the locks on a charge make the pass skip it. -/
def isBusy (examine : Id → Examination) (attempts : List PaymentAttempt) (c : ProcessorCharge) :
    Bool :=
  (Table.findBy PaymentAttempt.id c.attemptId attempts).any (examine c.id).skips

/-- What a pass has done when it has visited some charges. -/
structure Visited (examine : Id → Examination) (visited : List ProcessorCharge)
    (pass pass' : ClassificationPass) : Prop where
  settled : pass'.db.Settled
  attempts : pass'.db.attempts = pass.db.attempts
  transitioned : pass'.transitioned =
    pass.transitioned + visited.countP (!isBusy examine pass.db.attempts ·)
  skipped : pass'.skippedLocked =
    pass.skippedLocked + visited.countP (isBusy examine pass.db.attempts)
  examined : pass'.examined = pass.examined ++ visited.map (·.id)
  rows : List.Forall₂ (RowMoved ((visited.filter (!isBusy examine pass.db.attempts ·)).map (·.id)))
    pass.db.ledger.charges pass'.db.ledger.charges

section Walks

variable {gatewayAccountId : Id} {limit : ℕ} {examine : Id → Examination}
  {pass pass' pass'' : ClassificationPass} {visited visited' : List ProcessorCharge}

/-- Rows that are moved twice are moved. -/
theorem RowMoved.trans {moved moved' : List Id} {c c' c'' : ProcessorCharge}
    (h : RowMoved moved c c') (h' : RowMoved moved' c' c'') : RowMoved (moved ++ moved') c c'' := by
  by_cases hmem : c.id ∈ moved
  · obtain ⟨hid, hcreated, hprogression⟩ := h.1 hmem
    refine ⟨fun _ => ?_, fun hne => absurd (List.mem_append_left _ hmem) hne⟩
    by_cases hmem' : c'.id ∈ moved'
    · obtain ⟨hid', hcreated', hprogression'⟩ := h'.1 hmem'
      exact ⟨hid'.trans hid, hcreated'.trans hcreated, hprogression'⟩
    · rw [h'.2 hmem']
      exact ⟨hid, hcreated, hprogression⟩
  · obtain rfl := h.2 hmem
    refine ⟨fun happend => ?_, fun hne => h'.2 fun hmem' => hne (List.mem_append_right _ hmem')⟩
    exact h'.1 ((List.mem_append.mp happend).resolve_left hmem)

/-- Nothing is visited. -/
theorem Visited.refl (h : pass.db.Settled) : Visited examine [] pass pass := by
  refine ⟨h, rfl, rfl, rfl, by simp, List.forall₂_same.mpr fun c _ => ?_⟩
  exact ⟨fun hmem => (List.not_mem_nil hmem).elim, fun _ => rfl⟩

/-- One visit after another. -/
theorem Visited.trans (h : Visited examine visited pass pass')
    (h' : Visited examine visited' pass' pass'') :
    Visited examine (visited ++ visited') pass pass'' := by
  obtain ⟨hsettled, hattempts, htransitioned, hskipped, hexamined, hrows⟩ := h'
  rw [h.attempts] at hattempts htransitioned hskipped hrows
  refine ⟨hsettled, hattempts, ?_, ?_, ?_, ?_⟩
  · rw [htransitioned, h.transitioned, List.countP_append, Nat.add_assoc]
  · rw [hskipped, h.skipped, List.countP_append, Nat.add_assoc]
  · rw [hexamined, h.examined, List.map_append, List.append_assoc]
  · rw [List.filter_append, List.map_append]
    exact Table.forall₂_trans (fun _ _ _ hab hbc => hab.trans hbc) h.rows hrows

/-- One candidate is visited. -/
theorem visited_candidate (examine : Id → Examination) {a : PaymentAttempt} {c : ProcessorCharge}
    (h : ChargeOf pass.db a c) (hdb : pass.db.Settled)
    (hpending : isPendingOf gatewayAccountId c = true) :
    ∃ db outcome, classifyCandidate gatewayAccountId (examine c.id) c.candidate pass.db =
        .ok (db, outcome) ∧
      Visited examine [c] pass (pass.count db c.id outcome) := by
  obtain ⟨db', hclassify, hsettled, hattempts, hrows⟩ :=
    h.classifyCandidate_eq hdb hpending (examine c.id)
  have hof : c.attemptId = a.id := congrArg ChargeDimensions.attemptId h.dimensions
  have hattempt : Table.findBy PaymentAttempt.id c.attemptId pass.db.attempts = some a := by
    refine Table.find?_eq_some_of_unique h.attempt (decide_eq_true hof.symm) fun b hb hp => ?_
    exact nodup_id_of_attemptIndexes hdb.1.attempts hb h.attempt ((of_decide_eq_true hp).trans hof)
  have hbusy : isBusy examine pass.db.attempts c = (examine c.id).skips a := by
    rw [isBusy, hattempt, Option.any_some]
  refine ⟨db', _, hclassify, ?_⟩
  cases hskips : (examine c.id).skips a with
  | true =>
    rw [hskips] at hbusy hrows
    exact ⟨hsettled, hattempts, by simp [hbusy, ClassificationPass.count],
      by simp [hbusy, ClassificationPass.count], rfl,
      by simpa [hbusy, ClassificationPass.count] using hrows⟩
  | false =>
    rw [hskips] at hbusy hrows
    exact ⟨hsettled, hattempts, by simp [hbusy, ClassificationPass.count],
      by simp [hbusy, ClassificationPass.count], rfl,
      by simpa [hbusy, ClassificationPass.count] using hrows⟩

/-- A row that no visit has moved is still there. -/
theorem Visited.mem (h : Visited examine visited pass pass') {c : ProcessorCharge}
    (hc : c ∈ pass.db.ledger.charges) (hne : c.id ∉ visited.map (·.id)) :
    c ∈ pass'.db.ledger.charges := by
  obtain ⟨c', hc', hrow⟩ := Table.exists_of_mem_left h.rows hc
  have hmoved : c.id ∉ (visited.filter (!isBusy examine pass.db.attempts ·)).map (·.id) :=
    fun hmem =>
    hne (List.map_subset _ (List.filter_subset_self _) hmem)
  rwa [← hrow.2 hmoved]

/-- The rows of a page are visited in order, as long as the budget lasts. -/
theorem classifyPage_eq (limit : ℕ) (examine : Id → Examination) (rows : List ProcessorCharge)
    (pass : ClassificationPass) (hdb : pass.db.Settled)
    (hrows : ∀ c ∈ rows, c ∈ pass.db.ledger.charges)
    (hpending : ∀ c ∈ rows, isPendingOf gatewayAccountId c = true)
    (hids : (rows.map (·.id)).Nodup) :
    ∃ pass', classifyPage gatewayAccountId limit examine (rows.map (·.candidate)) pass = .ok pass' ∧
      Visited examine
        (Keyset.spend (isBusy examine pass.db.attempts) (limit - pass.transitioned) rows) pass
          pass' := by
  induction rows generalizing pass with
  | nil =>
    have hnil : Keyset.spend (isBusy examine pass.db.attempts) (limit - pass.transitioned) [] =
        [] := by
      cases limit - pass.transitioned <;> rfl
    exact ⟨pass, rfl, hnil ▸ .refl hdb⟩
  | cons c rows ih =>
    rw [List.map_cons, List.nodup_cons] at hids
    by_cases hspent : limit ≤ pass.transitioned
    · refine ⟨pass, by simp only [List.map_cons, classifyPage, if_pos hspent], ?_⟩
      rw [Nat.sub_eq_zero_of_le hspent, Keyset.spend_zero]
      exact .refl hdb
    · obtain ⟨a, hof⟩ := hdb.2.1.chargeOf (hrows c List.mem_cons_self)
      obtain ⟨db, outcome, hclassify, hvisited⟩ :=
        visited_candidate examine hof hdb (hpending c List.mem_cons_self)
      obtain ⟨pass', hpage, hrest⟩ := ih (pass.count db c.id outcome) hvisited.settled
        (fun b hb => hvisited.mem (hrows b (List.mem_cons_of_mem c hb)) fun hmem => by
          have hid : b.id = c.id := List.mem_singleton.mp hmem
          exact hids.1 (hid ▸ List.mem_map_of_mem (f := (·.id)) hb))
        (fun b hb => hpending b (List.mem_cons_of_mem c hb)) hids.2
      refine ⟨pass', ?_, ?_⟩
      · have hclassify' : classifyCandidate gatewayAccountId (examine c.candidate.id) c.candidate
            pass.db = .ok (db, outcome) := hclassify
        simp only [List.map_cons, classifyPage, if_neg hspent, hclassify']
        exact hpage
      · have hbudget : limit - pass.transitioned = limit - pass.transitioned - 1 + 1 := by omega
        have hleft : limit - (pass.count db c.id outcome).transitioned =
            if isBusy examine pass.db.attempts c then limit - pass.transitioned - 1 + 1
            else limit - pass.transitioned - 1 := by
          rw [hvisited.transitioned, List.countP_singleton]
          cases isBusy examine pass.db.attempts c with
          | true => simp only [Bool.not_true, Bool.false_eq_true, if_false, if_true]; omega
          | false => simp only [Bool.not_false, Bool.false_eq_true, if_false, if_true]; omega
        rw [hvisited.attempts, hleft] at hrest
        rw [hbudget, Keyset.spend]
        exact hvisited.trans hrest

/-- The candidates have distinct keys, in order. -/
theorem pairwise_pendingCandidateRows {db : Db} (hvalid : db.Valid) (gatewayAccountId : Id)
    (upper : Timestamp ×ₗ Id) (cursor : Option (Timestamp ×ₗ Id)) :
    (pendingCandidateRows gatewayAccountId upper cursor db).Pairwise
      fun c c' => c.observedKey < c'.observedKey := by
  have hsorted : (pendingCandidateRows gatewayAccountId upper cursor db).Pairwise
      fun c c' => c.observedKey ≤ c'.observedKey := List.pairwise_insertionSort
    (fun c c' : ProcessorCharge => c.observedKey ≤ c'.observedKey) _
  have hindexes := hvalid.charges.indexes
  simp only [chargeIndexes, Bool.and_eq_true] at hindexes
  have hids : (db.ledger.charges.map (·.id)).Nodup := Table.nodup_map_of_uniqueOn hindexes.1.1.1.1
  have hdistinct : (pendingCandidateRows gatewayAccountId upper cursor db).Pairwise
      fun c c' => c.id ≠ c'.id := by
    have hperm :=
      List.perm_insertionSort (fun c c' : ProcessorCharge => c.observedKey ≤ c'.observedKey)
        (db.ledger.charges.filter (isPendingCandidate gatewayAccountId upper cursor db))
    have hnodup : ((pendingCandidateRows gatewayAccountId upper cursor db).map (·.id)).Nodup :=
      (hperm.map _).nodup_iff.mpr (hids.sublist (List.filter_sublist.map _))
    exact List.pairwise_map.mp hnodup
  refine hsorted.imp₂ (fun c c' hle hne => lt_of_le_of_ne hle fun heq => hne ?_) hdistinct
  exact congrArg (fun k => (ofLex k).2) heq

/-- A candidate row is a pending charge of the account. -/
theorem mem_pendingCandidateRows {db : Db} {upper : Timestamp ×ₗ Id}
    {cursor : Option (Timestamp ×ₗ Id)} {c : ProcessorCharge} :
    c ∈ pendingCandidateRows gatewayAccountId upper cursor db ↔
      c ∈ db.ledger.charges ∧ isPendingCandidate gatewayAccountId upper cursor db c = true := by
  rw [pendingCandidateRows, List.mem_insertionSort, List.mem_filter]

/-- The visits leave the candidates after the last of them. -/
theorem Visited.pendingCandidateRows_eq (h : Visited examine visited pass pass')
    (hvalid : pass.db.Valid) {upper k : Timestamp ×ₗ Id}
    (hvisited : ∀ c ∈ visited, c ∈ pass.db.ledger.charges)
    (hbefore : ∀ c ∈ visited, c.observedKey ≤ k) :
    pendingCandidateRows gatewayAccountId upper (some k) pass'.db =
      pendingCandidateRows gatewayAccountId upper (some k) pass.db := by
  have hfilter : pass'.db.ledger.charges.filter
      (isPendingCandidate gatewayAccountId upper (some k) pass'.db) =
      pass.db.ledger.charges.filter
          (isPendingCandidate gatewayAccountId upper (some k) pass.db) := by
    have hcandidate : isPendingCandidate gatewayAccountId upper (some k) pass'.db =
        isPendingCandidate gatewayAccountId upper (some k) pass.db := by
      funext c
      rw [isPendingCandidate, isPendingCandidate, h.attempts]
    rw [hcandidate]
    -- A row that was moved has a key that the cursor is not before.
    have hrow : ∀ c c', c ∈ pass.db.ledger.charges →
        RowMoved ((visited.filter (!isBusy examine pass.db.attempts ·)).map (·.id)) c c' →
        c' = c ∨ (isPendingCandidate gatewayAccountId upper (some k) pass.db c = false ∧
          isPendingCandidate gatewayAccountId upper (some k) pass.db c' = false) := by
      intro c c' hc hmoved
      by_cases hmem : c.id ∈ (visited.filter (!isBusy examine pass.db.attempts ·)).map (·.id)
      · obtain ⟨b, hb, hid⟩ := List.mem_map.mp hmem
        have hb := (List.mem_filter.mp hb).1
        obtain rfl := hvalid.charges.eq_of_id (hvisited b hb) hc hid
        obtain ⟨hid', hcreated, -⟩ := hmoved.1 hmem
        have hkey : c'.observedKey = b.observedKey := by
          rw [ProcessorCharge.observedKey, ProcessorCharge.observedKey, hid', hcreated]
        have hnot : ¬ k < b.observedKey := not_lt.mpr (hbefore b hb)
        exact .inr ⟨by simp [isPendingCandidate, hnot], by simp [isPendingCandidate, hkey, hnot]⟩
      · exact .inl (hmoved.2 hmem)
    exact Table.filter_eq_of_forall₂ h.rows fun c hc c' hmoved => hrow c c' hc hmoved
  rw [pendingCandidateRows, pendingCandidateRows, hfilter]

/-- The candidates after the last one of a page are those that the page left over. -/
theorem pendingCandidateRows_after {db : Db} (hvalid : db.Valid) {upper : Timestamp ×ₗ Id}
    {cursor : Option (Timestamp ×ₗ Id)} {n : ℕ} {last : ProcessorCharge}
    (hlast : ((pendingCandidateRows gatewayAccountId upper cursor db).take n).getLast? =
      some last) :
    pendingCandidateRows gatewayAccountId upper (some last.observedKey) db =
      (pendingCandidateRows gatewayAccountId upper cursor db).drop n := by
  have hsorted := pairwise_pendingCandidateRows hvalid gatewayAccountId upper cursor
  have hcut := Keyset.filter_key_lt_of_pairwise ProcessorCharge.observedKey
    (by rwa [List.take_append_drop]) hlast
  rw [List.take_append_drop] at hcut
  rw [← hcut]
  have hmem := (mem_pendingCandidateRows.mp (List.mem_of_mem_take (List.mem_of_getLast? hlast))).2
  have hcursor : cursor.all (· < last.observedKey) = true := by
    simp only [isPendingCandidate, Bool.and_eq_true] at hmem
    exact hmem.1.2
  -- A key after the last one is after the old cursor, because the last one is.
  have hselect : ∀ c, isPendingCandidate gatewayAccountId upper (some last.observedKey) db c =
      (isPendingCandidate gatewayAccountId upper cursor db c &&
          decide (last.observedKey < c.observedKey)) := by
    intro c
    by_cases hlt : last.observedKey < c.observedKey
    · have hafter : cursor.all (· < c.observedKey) = true := by
        cases cursor with
        | none => rfl
        | some k => exact decide_eq_true ((of_decide_eq_true hcursor).trans hlt)
      simp [isPendingCandidate, hlt, hafter]
    · simp [isPendingCandidate, hlt]
  refine List.Perm.eq_of_pairwise
    (fun c c' _ _ (h : c.observedKey < c'.observedKey) h' => absurd h' h.asymm)
    (pairwise_pendingCandidateRows hvalid _ upper _) (hsorted.filter _) ?_
  rw [pendingCandidateRows, pendingCandidateRows]
  refine (List.perm_insertionSort _ _).trans ?_
  refine List.Perm.trans ?_ ((List.perm_insertionSort _ _).filter _).symm
  rw [List.filter_filter]
  refine List.Perm.of_eq (List.filter_congr fun c _ => ?_)
  rw [hselect c, Bool.and_comm]

/-- A pass whose bound is more than the number of candidates ends: it has visited the candidates in
their order, as long as the budget lasted. -/
theorem classifyPages_eq (limit : ℕ) (examine : Id → Examination) (upper : Timestamp ×ₗ Id)
    (pages : ℕ) (cursor : Option (Timestamp ×ₗ Id))
    (pass : ClassificationPass) (hdb : pass.db.Settled)
    (hpages : (pendingCandidateRows gatewayAccountId upper cursor pass.db).length < pages) :
    ∃ pass', classifyPages gatewayAccountId limit examine upper pages cursor pass =
      some (.ok pass') ∧
        Visited examine (Keyset.spend (isBusy examine pass.db.attempts) (limit - pass.transitioned)
        (pendingCandidateRows gatewayAccountId upper cursor pass.db)) pass pass' := by
  -- The fuel counts the rows that are left behind the cursor, and each page takes one at least.
  induction pages generalizing cursor pass with
  | zero => exact absurd hpages (Nat.not_lt_zero _)
  | succ pages ih =>
    have hsorted := pairwise_pendingCandidateRows hdb.1 gatewayAccountId upper cursor
    have hmem {c : ProcessorCharge}
        (hc : c ∈ pendingCandidateRows gatewayAccountId upper cursor pass.db) :=
      mem_pendingCandidateRows.mp hc
    have hafter {last : ProcessorCharge} (n : ℕ)
        (h : ((pendingCandidateRows gatewayAccountId upper cursor pass.db).take n).getLast? =
            some last) :=
      pendingCandidateRows_after hdb.1 h
    rw [classifyPages]
    generalize pendingCandidateRows gatewayAccountId upper cursor pass.db =
      rows at hpages hsorted hmem hafter
    by_cases hspent : limit ≤ pass.transitioned
    · refine ⟨pass, by rw [if_pos hspent], ?_⟩
      rw [Nat.sub_eq_zero_of_le hspent, Keyset.spend_zero]
      exact .refl hdb
    rw [if_neg hspent]
    simp only [List.getLast?_map]
    cases hlast : (rows.take processorChargeCandidatePageSize).getLast? with
    | none =>
      obtain rfl : rows = [] := by
        cases rows with
        | nil => rfl
        | cons c rows => simp [processorChargeCandidatePageSize, List.getLast?_eq_none_iff] at hlast
      have hnil : Keyset.spend (isBusy examine pass.db.attempts) (limit - pass.transitioned) [] =
          [] := by
        cases limit - pass.transitioned <;> rfl
      exact ⟨pass, rfl, hnil ▸ .refl hdb⟩
    | some last =>
      have hpending : ∀ c ∈ rows, isPendingOf gatewayAccountId c = true := by
        intro c hc
        have hcandidate := (hmem hc).2
        simp only [isPendingCandidate, Bool.and_eq_true] at hcandidate
        exact hcandidate.1.1.1
      have hids : (rows.map (·.id)).Nodup := by
        refine List.pairwise_map.mpr (hsorted.imp_of_mem fun hb hc hlt hid => ?_)
        rw [hdb.1.charges.eq_of_id (hmem hb).1 (hmem hc).1 hid] at hlt
        exact lt_irrefl _ hlt
      obtain ⟨pass₁, hpage, hvisited⟩ := classifyPage_eq limit examine
        (rows.take processorChargeCandidatePageSize) pass hdb
        (fun c hc => (hmem (List.mem_of_mem_take hc)).1)
          (fun c hc => hpending c (List.mem_of_mem_take hc))
        (hids.sublist ((List.take_sublist _ _).map _))
      -- The next page starts after the last row of this one, which no visit has passed.
      have hnext : pendingCandidateRows gatewayAccountId upper (some last.observedKey) pass₁.db =
          rows.drop processorChargeCandidatePageSize := by
        have hsub :=
          (Keyset.spend_prefix (isBusy examine pass.db.attempts) (limit - pass.transitioned)
            (rows.take processorChargeCandidatePageSize)).subset
        rw [hvisited.pendingCandidateRows_eq hdb.1
          (fun c hc => (hmem (List.mem_of_mem_take (hsub hc))).1) (fun c hc => ?_)]
        · exact hafter _ hlast
        · have hpaged := hsorted.sublist (List.take_sublist processorChargeCandidatePageSize rows)
          obtain ⟨initial, hinitial⟩ := List.getLast?_eq_some_iff.mp hlast
          have hcut := hsub hc
          rw [hinitial] at hpaged hcut
          rcases List.mem_append.mp hcut with hfront | hsame
          · exact ((List.pairwise_append.mp hpaged).2.2 c hfront last
              (List.mem_singleton_self last)).le
          · rw [List.mem_singleton.mp hsame]
      have hlength :
        (pendingCandidateRows gatewayAccountId upper (some last.observedKey) pass₁.db).length <
          pages := by
        rw [hnext, List.length_drop, processorChargeCandidatePageSize]
        have hpos : 0 < rows.length :=
          List.length_pos_of_mem (List.mem_of_mem_take (List.mem_of_getLast? hlast))
        omega
      obtain ⟨pass', hrest, hvisited'⟩ := ih (some last.observedKey) pass₁ hvisited.settled hlength
      refine ⟨pass', ?_, ?_⟩
      · simp only [Option.map_some, hpage]
        exact hrest
      -- What this page spends and what the rest spends are one spending of the whole list.
      · rw [hnext, hvisited.attempts, hvisited.transitioned, Keyset.countP_spend] at hvisited'
        have hleft : limit - (pass.transitioned + min (limit - pass.transitioned)
            ((rows.take processorChargeCandidatePageSize).countP
              (!isBusy examine pass.db.attempts ·))) =
            limit - pass.transitioned -
              (rows.take processorChargeCandidatePageSize).countP
                  (!isBusy examine pass.db.attempts ·) := by
          omega
        rw [hleft] at hvisited'
        have hsplit :=
          Keyset.spend_append (isBusy examine pass.db.attempts) (limit - pass.transitioned)
            (rows.take processorChargeCandidatePageSize)
              (rows.drop processorChargeCandidatePageSize)
        rw [List.take_append_drop] at hsplit
        rw [hsplit]
        exact hvisited.trans hvisited'

/-- The bound is not below any pending charge, and without one there is no pending charge. -/
theorem pendingUpperBound_cases (gatewayAccountId : Id) (db : Db) :
    (pendingUpperBound gatewayAccountId db = none ∧
      db.ledger.charges.filter (isPendingOf gatewayAccountId) = []) ∨
    ∃ upper, pendingUpperBound gatewayAccountId db = some upper ∧
      ∀ c ∈ db.ledger.charges, isPendingOf gatewayAccountId c = true → c.observedKey ≤ upper := by
  unfold pendingUpperBound
  have hmem {c : ProcessorCharge} (hc : c ∈ db.ledger.charges)
      (hpending : isPendingOf gatewayAccountId c = true) :
      c.observedKey ∈ ((db.ledger.charges.filter (isPendingOf gatewayAccountId)).map
        (·.observedKey)).insertionSort (· ≥ ·) :=
    (List.mem_insertionSort _).mpr (List.mem_map_of_mem (List.mem_filter.mpr ⟨hc, hpending⟩))
  have hsorted := List.pairwise_insertionSort (· ≥ ·)
    ((db.ledger.charges.filter (isPendingOf gatewayAccountId)).map (·.observedKey))
  generalize ((db.ledger.charges.filter (isPendingOf gatewayAccountId)).map
    (·.observedKey)).insertionSort (· ≥ ·) = keys at hmem hsorted
  cases keys with
  | nil =>
    refine .inl ⟨rfl, List.filter_eq_nil_iff.mpr fun c hc hpending => ?_⟩
    exact List.not_mem_nil (hmem hc hpending)
  | cons upper keys =>
    refine .inr ⟨upper, rfl, fun c hc hpending => ?_⟩
    rcases List.mem_cons.mp (hmem hc hpending) with heq | hkey
    · exact heq.le
    · exact (List.pairwise_cons.mp hsorted).1 _ hkey

/-- The candidates of a pass are the pending charges of the account. -/
theorem perm_pendingCandidateRows {db : Db} (hlinked : db.ChargesLinked) {upper : Timestamp ×ₗ Id}
    (hupper : ∀ c ∈ db.ledger.charges, isPendingOf gatewayAccountId c = true →
      c.observedKey ≤ upper) :
    (pendingCandidateRows gatewayAccountId upper none db).Perm
      (db.ledger.charges.filter (isPendingOf gatewayAccountId)) := by
  refine (List.perm_insertionSort _ _).trans (List.Perm.of_eq (List.filter_congr fun c hc => ?_))
  cases hpending : isPendingOf gatewayAccountId c with
  | false => simp [isPendingCandidate, hpending]
  | true =>
    obtain ⟨a, hof⟩ := hlinked.chargeOf hc
    have hid : c.attemptId = a.id := congrArg ChargeDimensions.attemptId hof.dimensions
    have haccount : c.gatewayAccountId = a.gatewayAccountId :=
      congrArg ChargeDimensions.gatewayAccountId hof.dimensions
    have hjoin : (db.attempts.any fun a => a.id = c.attemptId ∧
        a.gatewayAccountId = gatewayAccountId) = true :=
      List.any_eq_true.mpr ⟨a, hof.attempt,
        decide_eq_true ⟨hid.symm, haccount.symm.trans (of_decide_eq_true hpending).1⟩⟩
    rw [isPendingCandidate, hpending, hjoin, decide_eq_true (hupper c hc hpending)]
    rfl

/-- The pass as a whole: it has visited pending charges of the account, each once, and its budget
went to those that were not locked. -/
theorem classifyPendingProcessorCharges_eq {db : Db} (hdb : db.Settled) (gatewayAccountId : Id)
    (maxTransitions : ℕ) (examine : Id → Examination) {pages : ℕ}
    (hpages : countPendingProcessorCharges gatewayAccountId db < pages) :
    ∃ visited summary pass,
      classifyPendingProcessorCharges pages gatewayAccountId maxTransitions examine db =
        some (.ok (summary, pass)) ∧
      summary = pass.summary gatewayAccountId ∧
      Visited examine visited { db } pass ∧
      (visited.map (·.id)).Nodup ∧
      (∀ c ∈ visited, c ∈ db.ledger.charges ∧ isPendingOf gatewayAccountId c = true) ∧
      pass.transitioned = min (min maxTransitions reconciliationPhaseBatchSize)
        (db.ledger.charges.countP fun c =>
          isPendingOf gatewayAccountId c && !isBusy examine db.attempts c) := by
  have hstart : Visited examine [] { db } { db } := .refl hdb
  unfold classifyPendingProcessorCharges
  simp only []
  by_cases hzero : min maxTransitions reconciliationPhaseBatchSize = 0
  · rw [if_pos hzero]
    refine ⟨[], _, _, rfl, rfl, hstart, List.nodup_nil, List.forall_mem_nil _, ?_⟩
    rw [hzero, Nat.zero_min]
  rw [if_neg hzero]
  rcases pendingUpperBound_cases gatewayAccountId db with ⟨hnone, hempty⟩ | ⟨upper, hsome, hupper⟩
  · have hcount {q : ProcessorCharge → Bool} :
        (db.ledger.charges.countP fun c => isPendingOf gatewayAccountId c && q c) = 0 := by
      refine List.countP_eq_zero.mpr fun c hc hpending => ?_
      exact List.filter_eq_nil_iff.mp hempty c hc (Bool.and_eq_true_iff.mp hpending).1
    have hremaining : countPendingProcessorCharges gatewayAccountId db = 0 :=
      List.countP_eq_zero.mpr fun c hc => List.filter_eq_nil_iff.mp hempty c hc
    rw [hnone]
    refine ⟨[], _, _, rfl, ?_, hstart, List.nodup_nil, List.forall_mem_nil _, ?_⟩
    · simp [ClassificationPass.summary, hremaining]
    · rw [hcount, Nat.min_zero]
  · have hperm := perm_pendingCandidateRows hdb.2.1 hupper
    have hlength : (pendingCandidateRows gatewayAccountId upper none db).length < pages := by
      rw [hperm.length_eq, ← List.countP_eq_length_filter]
      exact hpages
    obtain ⟨pass, hpass, hvisited⟩ := classifyPages_eq
      (min maxTransitions reconciliationPhaseBatchSize) examine upper pages none { db } hdb hlength
    have hstart := Keyset.spend_prefix (isBusy examine db.attempts)
      (min maxTransitions reconciliationPhaseBatchSize - 0)
        (pendingCandidateRows gatewayAccountId upper none db)
    refine ⟨_, pass.summary gatewayAccountId, pass, ?_, rfl, hvisited, ?_, fun c hc => ?_, ?_⟩
    · rw [hsome]
      simp only [hpass]
      rfl
    · have hindexes := hdb.1.charges.indexes
      simp only [chargeIndexes, Bool.and_eq_true] at hindexes
      have hids : (db.ledger.charges.map (·.id)).Nodup :=
        Table.nodup_map_of_uniqueOn hindexes.1.1.1.1
      have hrows : ((pendingCandidateRows gatewayAccountId upper none db).map (·.id)).Nodup :=
        (hperm.map _).nodup_iff.mpr (hids.sublist (List.filter_sublist.map _))
      exact hrows.sublist (hstart.sublist.map _)
    · exact List.mem_filter.mp (hperm.subset (hstart.subset hc))
    · rw [hvisited.transitioned, Keyset.countP_spend, hperm.countP_eq, List.countP_filter]
      simp only [Nat.zero_add, Nat.sub_zero, Bool.and_comm]

end Walks

/-- Classification is total, eligible, and bounded, in every reachable store. The choice for a
pending charge is accepted by the update and by the table, is an application only for a primary
charge with the transaction of an approved attempt, and no update moves a charge that is no longer
pending. A pass over the charges of an account ends within as many pages as there are pending
charges, and one more; it examines each of them at most once, and its transitions are as many as the
limit and the unlocked charges allow, so that locked charges use none of the limit. -/
theorem classification_total {store : Db} (hfresh : store.Fresh) (steps : List (ℕ × Op)) :
    (∀ a ∈ (run execStore store steps).attempts, ∀ c ∈ (run execStore store steps).ledger.charges,
      c.attemptId = a.id → c.progression = .pending →
      ∀ now, (run execStore store steps).clock ≤ now → ∃ progression code charges,
        classifyPendingCharge (run execStore store steps).ledger.attestations a c =
          .ok (progression, code) ∧
        transitionPendingCharge now c.id progression code
          (run execStore store steps).ledger.charges = .ok charges ∧
        classifyCharge now a c.id (run execStore store steps).ledger =
          .ok { (run execStore store steps).ledger with charges } ∧
        (progression = .applied → c.role = .primary ∧ a.status = .approved ∧
          c.evidence.transactionId ≠ none ∧ a.evidence.transactionId = c.evidence.transactionId)) ∧
    (∀ now chargeId progression code charges,
      transitionPendingCharge now chargeId progression code
        (run execStore store steps).ledger.charges = .ok charges →
      ∀ c ∈ (run execStore store steps).ledger.charges, c.progression ≠ .pending → c ∈ charges) ∧
    ∀ (gatewayAccountId : Id) (maxTransitions : ℕ) (examine : Id → Examination) (pages : ℕ),
      countPendingProcessorCharges gatewayAccountId (run execStore store steps) < pages →
      ∃ summary pass,
        classifyPendingProcessorCharges pages gatewayAccountId maxTransitions examine
          (run execStore store steps) = some (.ok (summary, pass)) ∧
        pass.examined.Nodup ∧
        (∀ id ∈ pass.examined, ∃ c ∈ (run execStore store steps).ledger.charges, c.id = id ∧
          isPendingOf gatewayAccountId c = true) ∧
        summary.transitioned ≤ min maxTransitions reconciliationPhaseBatchSize ∧
        summary.transitioned = min (min maxTransitions reconciliationPhaseBatchSize)
          ((run execStore store steps).ledger.charges.countP fun c =>
            isPendingOf gatewayAccountId c &&
              !isBusy examine (run execStore store steps).attempts c) ∧
        ∀ c ∈ (run execStore store steps).ledger.charges,
          (c.progression ≠ .pending ∨
            isBusy examine (run execStore store steps).attempts c = true) →
          c ∈ pass.db.ledger.charges := by
  obtain ⟨hvalid, hlinked, hdated⟩ := Db.law_chargesLinked.holds hfresh steps
  generalize run execStore store steps = db at hvalid hlinked hdated
  refine ⟨fun a ha c hc hid hpending now hnow => ?_,
    fun now chargeId progression code charges h c hc =>
    mem_of_transitionPendingCharge h hc,
      fun gatewayAccountId maxTransitions examine pages hpages => ?_⟩
  -- The attempt of a linked charge classifies it to a progression that the update accepts.
  · obtain ⟨a', hof⟩ := hlinked.chargeOf hc
    have hid' : c.attemptId = a'.id := congrArg ChargeDimensions.attemptId hof.dimensions
    obtain rfl := nodup_id_of_attemptIndexes hvalid.attempts hof.attempt ha (hid'.symm.trans hid)
    obtain ⟨progression, code, hclassify, hclassified, htransition⟩ :=
      hof.classifyPendingCharge_accepted hvalid hlinked hpending ((hdated c hc).trans hnow)
    refine ⟨progression, code, _, hclassify, htransition, ?_, hclassified.applied⟩
    exact hof.classifyCharge_eq hvalid hpending hclassify htransition
  -- A pass is the walk over the pages, whose visited rows and counts are read off here.
  · obtain ⟨visited, summary, pass, hpass, rfl, hvisited, hnodup, hpending, htransitioned⟩ :=
      classifyPendingProcessorCharges_eq ⟨hvalid, hlinked, hdated⟩ gatewayAccountId
        maxTransitions examine hpages
    have hexamined : pass.examined = visited.map (·.id) := hvisited.examined
    refine ⟨_, pass, hpass, hexamined ▸ hnodup, fun id hid => ?_, ?_, htransitioned,
      fun c hc hkept => ?_⟩
    · rw [hexamined] at hid
      obtain ⟨c, hc, rfl⟩ := List.mem_map.mp hid
      exact ⟨c, (hpending c hc).1, rfl, (hpending c hc).2⟩
    · exact htransitioned.trans_le (Nat.min_le_left _ _)
    · obtain ⟨c', hc', hrow⟩ := Table.exists_of_mem_left hvisited.rows hc
      rw [← hrow.2 fun hmem => ?_]
      · exact hc'
      · -- A row that was moved was pending and not locked.
        obtain ⟨b, hb, hid⟩ := List.mem_map.mp hmem
        obtain ⟨hb, hbusy⟩ := List.mem_filter.mp hb
        obtain ⟨hmem, hpend⟩ := hpending b hb
        obtain rfl := hvalid.charges.eq_of_id hmem hc hid
        rcases hkept with hmoved | hlocked
        · exact hmoved (of_decide_eq_true hpend).2
        · rw [hlocked] at hbusy
          cases hbusy

/-- An enrollment whose approval was written without its attempt. -/
def unappliedEnrollment : List (ℕ × Op) :=
  [(0, .reserveOther (enrollmentAttempt none)), (0, .admitEnrollment 1 1),
    (0, .persistEvidence 1 1 1 (approvedEvidence "tx-1") false)]

/-- Its pending charge is classified by a pass over its account. -/
theorem classification_total_unapplied :
    let db := run execStore accountStore unappliedEnrollment
    ∃ summary pass,
      classifyPendingProcessorCharges 2 1 5 (fun _ => ⟨0, false, false, false⟩) db =
        some (.ok (summary, pass)) ∧ pass.examined.Nodup ∧ summary.transitioned = 1 := by
  intro db
  have hpages : countPendingProcessorCharges 1 db < 2 := by decide +kernel
  have hunlocked : (db.ledger.charges.countP fun c => isPendingOf 1 c &&
      !isBusy (fun _ => ⟨0, false, false, false⟩) db.attempts c) = 1 := by decide +kernel
  obtain ⟨summary, pass, hpass, hnodup, -, -, htransitioned, -⟩ :=
    (classification_total accountStore_fresh unappliedEnrollment).2.2 1 5
      (fun _ => ⟨0, false, false, false⟩) 2 hpages
  refine ⟨summary, pass, hpass, hnodup, ?_⟩
  rw [htransitioned, hunlocked]
  rfl

end SyrupRail
