import Mathlib.Data.List.Sort
import SyrupRail.Lib.Table
import SyrupRail.Lib.Tx
import SyrupRail.Lifecycle.Transition

/-!
# The reconciliation of lifecycle reports

A report is matched with an approved attempt of its account, by the transaction or else by the
order, and applied to it. A report that no attempt matches waits in a table of pending updates, from
which it is taken up again once an attempt does; one whose amounts cannot be right is put in
quarantine. The host moves its own charge target in the transaction of a full reversal, and may
refuse. Transaction identifiers are stored trimmed, which their constraints require, so
`billing_canonical_gateway_transaction_id` is the identity on them.
-/

namespace SyrupRail

/-! ## Tables -/

/-- `GatewayLifecycleAccount`. -/
structure GatewayLifecycleAccount where
  billingScopeId : Id
  gatewayAccountId : Id
  providerKey : String
  deriving DecidableEq, Repr

/-- `StoredEvidence`. -/
structure StoredEvidence where
  transactionId : Option String
  orderId : Option String
  state : GatewayLifecycleState
  condition : Option String
  action : Option String
  effectiveAt : Option Timestamp
  deriving DecidableEq, Repr

/-- The texts of evidence. -/
def StoredEvidence.texts (e : StoredEvidence) : List (Option String) :=
  [e.transactionId, e.orderId, e.condition, e.action]

/-- Whether PostgreSQL takes the texts: none of them contains U+0000. -/
def encodable (texts : List (Option String)) : Bool :=
  texts.all fun text => text.all fun t => !t.toList.contains '\x00'

/-- The columns of an attempt that lifecycle reports read and write. -/
structure LifecycleAttempt where
  id : Id
  billingScopeId : Id
  subscriberId : Id
  gatewayAccountId : Id
  kind : PaymentAttemptKind
  status : PaymentAttemptStatus
  hostChargeTargetId : Option Id
  amountCents : ℕ
  gatewayTransactionId : Option String
  gatewayOrderId : String
  createdAt : Timestamp
  updatedAt : Timestamp
  condition : Option String
  lifecycleAction : Option String
  lifecycle : StoredLifecycle
  lifecycleReconciledAt : Option Timestamp
  deriving DecidableEq, Repr

/-- A row of `billing_gateway_lifecycle_pending_updates`. -/
structure PendingUpdate where
  id : Id
  billingScopeId : Id
  gatewayAccountId : Id
  transactionId : Option String
  orderId : Option String
  condition : Option String
  status : GatewayLifecycleStatus
  action : Option String
  lifecycleAt : Option Timestamp
  refundedAmountCents : Option ℕ
  firstSeenAt : Timestamp
  updatedAt : Timestamp
  lastCheckedAt : Option Timestamp := none
  checkCount : ℕ := 0
  expiresAt : Timestamp
  deriving DecidableEq, Repr

/-- `GatewayLifecycleQuarantineReason`. -/
inductive GatewayLifecycleQuarantineReason
  | ambiguousReversalSuccess | invalidRefundEconomics | malformedReportStructure
  deriving DecidableEq, Repr

/-- The columns of `billing_gateway_lifecycle_quarantines`. -/
structure LifecycleQuarantine where
  billingScopeId : Id
  gatewayAccountId : Id
  transactionId : Option String
  orderId : Option String
  reason : GatewayLifecycleQuarantineReason
  firstSeenAt : Timestamp
  lastSeenAt : Timestamp
  occurrenceCount : ℕ := 1
  resolvedAt : Option Timestamp := none
  lastOperatorAlertedAt : Option Timestamp := none
  deriving DecidableEq, Repr

/-- A row of `billing_gateway_lifecycle_quarantines`, with its key. -/
structure QuarantineRow extends LifecycleQuarantine where
  id : Id
  deriving DecidableEq, Repr

/-- The tables, with what the host stores for its charge targets. -/
structure LifecycleStore (η : Type) where
  accounts : List GatewayLifecycleAccount
  attempts : List LifecycleAttempt
  pending : List PendingUpdate
  quarantines : List QuarantineRow
  host : η

/-- `GatewayLifecycleReconciliationError`. -/
inductive LifecycleError
  | store (e : StoreError)
  | accountNotFound
  | hostChargeTarget
  deriving DecidableEq, Repr

/-- A program of one transaction. -/
abbrev LifecycleProgram (η α : Type) := Tx (LifecycleStore η) LifecycleError α

/-! ## The host -/

/-- `PaymentReversalKind`. -/
inductive PaymentReversalKind
  | refunded | voided | chargeback
  deriving DecidableEq, Repr

/-- `full_reversal_kind`. -/
def GatewayLifecycleState.fullReversalKind : GatewayLifecycleState → Option PaymentReversalKind
  | .voided => some .voided
  | .refunded _ => some .refunded
  | .chargeback _ => some .chargeback
  | .unknown | .pendingSettlement | .settled _ => none

/-- `HostChargeTargetTransition`, of a reversal. -/
structure HostTargetReversal where
  billingScopeId : Id
  subscriberId : Id
  attemptId : Id
  targetId : Id
  kind : PaymentReversalKind
  reversedAt : Timestamp
  deriving DecidableEq, Repr

/-- `HostChargeTargetTransitionOutcome`; the reason of an unchanged target is not read. -/
inductive HostTargetOutcome
  | applied | exactReplay | staleTarget | unchanged
  deriving DecidableEq, Repr

/-- `is_applied`. -/
def HostTargetOutcome.isApplied : HostTargetOutcome → Bool
  | .applied | .exactReplay => true
  | .staleTarget | .unchanged => false

/-- `HostChargeTargetStore::apply_transition`, which is the host's: it fails, or answers and changes
its own tables. -/
abbrev HostTargets (η : Type) := HostTargetReversal → η → Option (η × HostTargetOutcome)

/-! ## Candidates -/

section Candidates

variable {η : Type} (account : GatewayLifecycleAccount)

/-- `ensure_account`. -/
def ensureLifecycleAccount : LifecycleProgram η Unit := do
  let s ← get
  if account ∈ s.accounts then pure () else throw .accountNotFound

/-- `matched_transaction_id`. -/
def matchedTransactionId (transactionId : Option String) (a : LifecycleAttempt) : Bool :=
  transactionId ≠ none ∧ a.gatewayTransactionId = transactionId

/-- `matched_order_id`. -/
def matchedOrderId (transactionId orderId : Option String) (a : LifecycleAttempt) : Bool :=
  orderId ≠ none ∧ (transactionId = none ∨ a.gatewayTransactionId = none) ∧
    some a.gatewayOrderId = orderId

/-- Whether an attempt is an approved one of the account. -/
def LifecycleAttempt.approvedOf (a : LifecycleAttempt) : Bool :=
  a.billingScopeId = account.billingScopeId ∧ a.gatewayAccountId = account.gatewayAccountId ∧
    a.status = .approved

/-- The condition of the candidates' query, which the query of pending rows repeats. -/
def isCandidate (transactionId orderId : Option String) (a : LifecycleAttempt) : Bool :=
  a.approvedOf account ∧
    (matchedTransactionId transactionId a ∨ matchedOrderId transactionId orderId a)

/-- `ORDER BY created_at, id`. -/
def candidateOrder (a b : LifecycleAttempt) : Prop :=
  a.createdAt < b.createdAt ∨ (a.createdAt = b.createdAt ∧ a.id ≤ b.id)

instance : DecidableRel candidateOrder :=
  fun _ _ => inferInstanceAs (Decidable (_ ∨ (_ ∧ _)))

/-- `AttemptCandidate`. -/
structure AttemptCandidate where
  attempt : LifecycleAttempt
  currentState : GatewayLifecycleState
  matchedTransactionId : Bool
  matchedOrderId : Bool
  deriving DecidableEq, Repr

/-- The decoding of a candidate's row. -/
def attemptCandidate (evidence : StoredEvidence) (a : LifecycleAttempt) :
    Except StoreError AttemptCandidate :=
  (lifecycleStateFromParts a.lifecycle.status (some a.lifecycle.refundedAmountCents)).map
    fun currentState =>
      { attempt := a
        currentState
        matchedTransactionId := matchedTransactionId evidence.transactionId a
        matchedOrderId := matchedOrderId evidence.transactionId evidence.orderId a }

/-- The rows of the candidates' query. -/
def candidateRows (evidence : StoredEvidence) (attempts : List LifecycleAttempt) :
    List LifecycleAttempt :=
  (attempts.filter (isCandidate account evidence.transactionId evidence.orderId)).insertionSort
    candidateOrder

/-- `attempt_candidates`. -/
def attemptCandidates (evidence : StoredEvidence) (attempts : List LifecycleAttempt) :
    Except StoreError (List AttemptCandidate) :=
  if encodable [evidence.transactionId, evidence.orderId] then
    (candidateRows account evidence attempts).mapM (attemptCandidate evidence)
  else .error .characterNotInRepertoire

/-- The candidate that a report is applied to: the first with its transaction, or else the only one,
by the order. -/
def selectedCandidate (candidates : List AttemptCandidate) : Option AttemptCandidate :=
  match candidates.find? (·.matchedTransactionId) with
  | some candidate => some candidate
  | none =>
    match candidates with
    | [candidate] => if candidate.matchedOrderId then some candidate else none
    | _ => none

/-- The rows of the candidates' query are the candidates. -/
theorem mem_candidateRows {account : GatewayLifecycleAccount} {evidence : StoredEvidence}
    {attempts : List LifecycleAttempt} {a : LifecycleAttempt} :
    a ∈ candidateRows account evidence attempts ↔
      a ∈ attempts ∧ isCandidate account evidence.transactionId evidence.orderId a = true := by
  rw [candidateRows, List.mem_insertionSort, List.mem_filter]

/-- What is selected is a candidate. -/
theorem selectedCandidate_mem {candidates : List AttemptCandidate} {c : AttemptCandidate}
    (h : selectedCandidate candidates = some c) : c ∈ candidates := by
  unfold selectedCandidate at h
  cases hfind : candidates.find? (·.matchedTransactionId) with
  | some c' =>
    obtain rfl : c' = c := by simpa [hfind] using h
    exact List.mem_of_find?_eq_some hfind
  | none =>
    simp only [hfind] at h
    obtain _ | ⟨c', _ | ⟨c'', rest⟩⟩ := candidates
    · cases h
    · by_cases hc : c'.matchedOrderId = true
      · obtain rfl : c' = c := by simpa [hc] using h
        exact List.mem_cons_self
      · simp [hc] at h
    · cases h

/-- Every candidate is an approved attempt of the account. -/
theorem attempt_mem_of_attemptCandidates {account : GatewayLifecycleAccount}
    {evidence : StoredEvidence} {attempts : List LifecycleAttempt}
    {candidates : List AttemptCandidate}
    (h : attemptCandidates account evidence attempts = .ok candidates) {c : AttemptCandidate}
    (hc : c ∈ candidates) : c.attempt ∈ attempts ∧ c.attempt.approvedOf account = true := by
  unfold attemptCandidates at h
  split_ifs at h
  obtain ⟨a, ha, hdecoded⟩ := Table.exists_of_mem_right (Transactions.forall₂_of_mapM_eq_ok h) hc
  obtain ⟨state, -, rfl⟩ := Transactions.map_eq_ok.mp hdecoded
  obtain ⟨hmem, hcandidate⟩ := mem_candidateRows.mp ha
  simp only [isCandidate, decide_eq_true_eq] at hcandidate
  exact ⟨hmem, hcandidate.1⟩

end Candidates

/-! ## Statements -/

/-- `PENDING_RETENTION_SECONDS`. -/
def pendingRetentionSeconds : ℕ := 7 * 24 * 60 * 60

/-- The constraint that a diagnostic fits its column and an order is not blank. -/
def orderIdCheck (orderId : Option String) : Bool := orderId.all fun o => RustText.trim o ≠ ""

/-- The constraint that a transaction identifier is trimmed and not blank. -/
def transactionIdCheck (transactionId : Option String) : Bool :=
  transactionId.all fun t => RustText.trim t = t ∧ t ≠ ""

/-- `billing_gateway_lifecycle_pending_state_check`. -/
def PendingUpdate.stateCheck (p : PendingUpdate) : Bool :=
  match p.status with
  | .unknown | .pendingSettlement | .voided => p.refundedAmountCents = none
  | .settled | .chargeback => p.refundedAmountCents ≠ some 0
  | .refunded => p.refundedAmountCents ≠ none ∧ p.refundedAmountCents ≠ some 0

/-- The texts of a pending row. -/
def PendingUpdate.texts (p : PendingUpdate) : List (Option String) :=
  [p.transactionId, p.orderId, p.condition, p.action]

/-- The constraints of `billing_gateway_lifecycle_pending_updates`, on texts that PostgreSQL
stores. -/
def PendingUpdate.check (p : PendingUpdate) : Bool :=
  encodable p.texts ∧ (p.transactionId ≠ none ∨ p.orderId ≠ none) ∧
    transactionIdCheck p.transactionId ∧ orderIdCheck p.orderId ∧ diagnosticFits p.condition ∧
      diagnosticFits p.action ∧
    p.stateCheck ∧ p.firstSeenAt ≤ p.expiresAt ∧ p.firstSeenAt ≤ p.updatedAt

/-- The columns of `billing_gateway_lifecycle_pending_dedupe_idx`, where an absent text is empty. -/
structure PendingDedupeKey where
  gatewayAccountId : Id
  transactionId : String
  orderId : String
  condition : String
  status : GatewayLifecycleStatus
  action : String
  lifecycleAt : Option Timestamp
  refundedAmountCents : Option ℕ
  deriving DecidableEq, Repr

/-- The key of a pending row. -/
def PendingUpdate.dedupeKey (p : PendingUpdate) : PendingDedupeKey where
  gatewayAccountId := p.gatewayAccountId
  transactionId := p.transactionId.getD ""
  orderId := p.orderId.getD ""
  condition := p.condition.getD ""
  status := p.status
  action := p.action.getD ""
  lifecycleAt := p.lifecycleAt
  refundedAmountCents := p.refundedAmountCents

section Statements

variable {η : Type} (now : Timestamp) (account : GatewayLifecycleAccount)

/-- The row that staging inserts. -/
def newPendingUpdate (newId : Id) (evidence : StoredEvidence) : PendingUpdate where
  id := newId
  billingScopeId := account.billingScopeId
  gatewayAccountId := account.gatewayAccountId
  transactionId := evidence.transactionId
  orderId := evidence.orderId
  condition := evidence.condition
  status := lifecycleStatus evidence.state
  action := evidence.action
  lifecycleAt := evidence.effectiveAt
  refundedAmountCents := lifecycleRefundedAmount evidence.state
  firstSeenAt := now
  updatedAt := now
  expiresAt := now + seconds pendingRetentionSeconds

/-- A row whose evidence is reported again. -/
def PendingUpdate.touched (p : PendingUpdate) : PendingUpdate := { p with updatedAt := now }

/-- `stage_evidence`: an insert whose conflict with the full key only touches the row that is
there. -/
def stageEvidence (newId : Id) (evidence : StoredEvidence) : LifecycleProgram η Bool := do
  let s ← get
  let row := newPendingUpdate now account newId evidence
  if encodable evidence.texts = false then throw (.store .characterNotInRepertoire)
  else if row.check = false then throw (.store .checkViolation)
  else if s.pending.any fun p => p.dedupeKey = row.dedupeKey then do
    let pending :=
      Table.updateWhere (fun p => p.dedupeKey = row.dedupeKey) (·.touched now) s.pending
    set { s with pending }
    pure false
  else if s.pending.any fun p => p.id = newId then throw (.store .uniqueViolation)
  else do
    set { s with pending := row :: s.pending }
    pure true

/-- The key of `billing_gateway_lifecycle_quarantines_dedupe_idx`. -/
def LifecycleQuarantine.dedupeKey (q : LifecycleQuarantine) :
    Id × String × String × GatewayLifecycleQuarantineReason :=
  (q.gatewayAccountId, q.transactionId.getD "", q.orderId.getD "", q.reason)

/-- The constraints of `billing_gateway_lifecycle_quarantines` on what a row is about. -/
def LifecycleQuarantine.check (q : LifecycleQuarantine) : Bool :=
  transactionIdCheck q.transactionId ∧ orderIdCheck q.orderId ∧
    (q.transactionId ≠ none ∨ q.orderId ≠ none ∨ q.reason = .malformedReportStructure)

/-- The largest `bigint`. -/
def maxBigint : ℕ := 9223372036854775807

/-- `billing_gateway_lifecycle_quarantines_count_check`, the range of the column, and
`billing_gateway_lifecycle_quarantines_time_check`. -/
def LifecycleQuarantine.sightingCheck (q : LifecycleQuarantine) : Bool :=
  0 < q.occurrenceCount ∧ q.occurrenceCount ≤ maxBigint ∧ q.firstSeenAt ≤ q.lastSeenAt ∧
    q.resolvedAt.all (q.firstSeenAt ≤ ·) ∧ q.lastOperatorAlertedAt.all (q.firstSeenAt ≤ ·)

/-- A quarantine that is reported again. -/
def QuarantineRow.seenAgain (q : QuarantineRow) : QuarantineRow :=
  { q with
    lastSeenAt := now
    occurrenceCount := q.occurrenceCount + 1
    resolvedAt := none
    lastOperatorAlertedAt := if q.resolvedAt = none then q.lastOperatorAlertedAt else none }

/-- A quarantine that is resolved. -/
def QuarantineRow.close (q : QuarantineRow) : QuarantineRow := { q with resolvedAt := some now }

/-- An update of quarantines, whose rows are checked again. -/
def updateQuarantines (p : QuarantineRow → Bool) (f : QuarantineRow → QuarantineRow)
    (rows : List QuarantineRow) : Except LifecycleError (List QuarantineRow) :=
  if rows.all fun q => !p q || (f q).sightingCheck then .ok (Table.updateWhere p f rows)
  else .error (.store .checkViolation)

/-- An update commits if the rows that it rewrites pass their checks. -/
theorem updateQuarantines_eq_ok {p : QuarantineRow → Bool} {f : QuarantineRow → QuarantineRow}
    {rows rows' : List QuarantineRow} :
    updateQuarantines p f rows = .ok rows' ↔
      (∀ q ∈ rows, p q = true → (f q).sightingCheck = true) ∧
        rows' = Table.updateWhere p f rows := by
  have hall : (rows.all fun q => !p q || (f q).sightingCheck) = true ↔
      ∀ q ∈ rows, p q = true → (f q).sightingCheck = true := by
    rw [List.all_eq_true]
    refine forall₂_congr fun q _ => ?_
    rw [Bool.or_eq_true, Bool.not_eq_true', ← Bool.not_eq_true]
    exact imp_iff_not_or.symm
  unfold updateQuarantines
  split_ifs with h
  · constructor
    · intro heq
      exact ⟨hall.mp h, (Except.ok.inj heq).symm⟩
    · rintro ⟨-, rfl⟩
      rfl
  · constructor
    · intro heq
      cases heq
    · rintro ⟨hcheck, -⟩
      exact absurd (hall.mpr hcheck) h

/-- The row that `record_quarantine_parts` proposes. -/
def newQuarantine (newId : Id) (account : GatewayLifecycleAccount)
    (transactionId orderId : Option String) (reason : GatewayLifecycleQuarantineReason) :
    QuarantineRow where
  billingScopeId := account.billingScopeId
  gatewayAccountId := account.gatewayAccountId
  transactionId := transactionId
  orderId := orderId
  reason := reason
  firstSeenAt := now
  lastSeenAt := now
  id := newId

/-- `record_quarantine_parts`, with the key of a new row. -/
def recordQuarantineParts (newId : Id) (account : GatewayLifecycleAccount)
    (transactionId orderId : Option String) (reason : GatewayLifecycleQuarantineReason)
    (rows : List QuarantineRow) : Except LifecycleError (List QuarantineRow) :=
  let row := newQuarantine now newId account transactionId orderId reason
  if row.check = false then .error (.store .checkViolation)
  else if rows.any fun q => q.dedupeKey = row.dedupeKey then
    updateQuarantines (fun q => q.dedupeKey = row.dedupeKey) (·.seenAgain now) rows
  else if rows.any fun q => q.id = newId then .error (.store .uniqueViolation)
  else .ok (row :: rows)

/-- Whether a quarantine is resolved by evidence that is applied or superseded. -/
def quarantineMatches (evidence : StoredEvidence) (q : LifecycleQuarantine) : Bool :=
  q.billingScopeId = account.billingScopeId ∧ q.gatewayAccountId = account.gatewayAccountId ∧
    q.resolvedAt = none ∧
    ((evidence.transactionId ≠ none ∧ q.transactionId = evidence.transactionId) ∨
      (q.transactionId = none ∧ q.orderId ≠ none ∧ q.orderId = evidence.orderId))

/-- `resolve_matching_quarantines`. -/
def resolveMatchingQuarantines (evidence : StoredEvidence) (rows : List QuarantineRow) :
    Except LifecycleError (List QuarantineRow) :=
  updateQuarantines (fun q => quarantineMatches account evidence q.toLifecycleQuarantine)
    (·.close now) rows

/-- A statement on the quarantines. -/
def onQuarantines (f : List QuarantineRow → Except LifecycleError (List QuarantineRow)) :
    LifecycleProgram η Unit :=
  Tx.statement (·.quarantines) (fun quarantines s => { s with quarantines }) fun rows =>
    (f rows).map (·, ())

/-- Whether a pending row is one of the account. -/
def PendingUpdate.isOf (p : PendingUpdate) : Bool :=
  p.billingScopeId = account.billingScopeId ∧ p.gatewayAccountId = account.gatewayAccountId

/-- `delete_pending`, of the row that the evidence was replayed from. -/
def deletePending (pendingId : Option Id) : LifecycleProgram η Unit :=
  match pendingId with
  | none => pure ()
  | some pendingId => do
    let s ← get
    let pending := s.pending.filter fun p => ¬ (p.id = pendingId ∧ p.isOf account)
    set { s with pending }

/-- The row after evidence that is applied. -/
def LifecycleAttempt.updated (refunded : ℕ) (evidence : StoredEvidence) (a : LifecycleAttempt) :
    LifecycleAttempt :=
  { a with
    condition := evidence.condition <|> a.condition
    lifecycleAction := evidence.action
    lifecycle := a.lifecycle.updated refunded ⟨evidence.state, evidence.effectiveAt⟩
    lifecycleReconciledAt := some now
    updatedAt := now }

/-- The constraints on the columns that an update writes. -/
def LifecycleAttempt.check (a : LifecycleAttempt) : Bool :=
  a.lifecycle.amountCheck a.amountCents ∧ diagnosticFits a.condition ∧
    diagnosticFits a.lifecycleAction ∧ a.createdAt ≤ a.updatedAt

/-- The `UPDATE` of the attempt that evidence is applied to. -/
def updateAttempt (refunded : ℕ) (evidence : StoredEvidence) (attemptId : Id) :
    LifecycleProgram η Unit := do
  let s ← get
  let target (a : LifecycleAttempt) : Bool :=
    a.id = attemptId ∧ a.billingScopeId = account.billingScopeId ∧
      a.gatewayAccountId = account.gatewayAccountId
  let attempts := Table.updateWhere target (·.updated now refunded evidence) s.attempts
  if encodable [evidence.condition, evidence.action] = false then
    throw (.store .characterNotInRepertoire)
  else if s.attempts.any fun a => target a ∧ (a.updated now refunded evidence).check = false then
    throw (.store .checkViolation)
  else if Table.rowsAffected target s.attempts ≠ 1 then throw (.store invalidStoredLifecycle)
  else set { s with attempts }

/-- The transition that the host is asked for. -/
def hostReversal (evidence : StoredEvidence) (a : LifecycleAttempt) (kind : PaymentReversalKind)
    (targetId : Id) : HostTargetReversal where
  billingScopeId := a.billingScopeId
  subscriberId := a.subscriberId
  attemptId := a.id
  targetId := targetId
  kind := kind
  reversedAt := (greatest a.lifecycle.lifecycleAt evidence.effectiveAt).getD now

/-- The part of the host in evidence that is applied: whether its target took a full reversal
over. -/
def reverseHostTarget (host : HostTargets η) (evidence : StoredEvidence) (a : LifecycleAttempt) :
    LifecycleProgram η Bool :=
  match evidence.state.fullReversalKind, a.kind with
  | some kind, .hostCharge =>
    match a.hostChargeTargetId with
    | none => throw (.store invalidStoredLifecycle)
    | some targetId => do
      let s ← get
      match host (hostReversal now evidence a kind targetId) s.host with
      | none => throw .hostChargeTarget
      | some (host', outcome) => do
        set { s with host := host' }
        pure outcome.isApplied
  | _, _ => pure true

end Statements

/-! ## Evidence -/

/-- `GatewayLifecycleApplyOutcome`. -/
inductive GatewayLifecycleApplyOutcome
  | applied
  | alreadySuperseded
  | invalidRefundEconomics
  | conflictingLifecycleEvidence
  | hostTargetTransitionSkipped
  | stagedAmbiguous
  | stagedNoMatch
  deriving DecidableEq, Repr

/-- `EvidenceApplication`. -/
structure EvidenceApplication where
  outcome : GatewayLifecycleApplyOutcome
  newlyStaged : Bool
  deriving DecidableEq, Repr

section Evidence

variable {η : Type} (host : HostTargets η) (now : Timestamp) (newId : Id)
  (account : GatewayLifecycleAccount) (evidence : StoredEvidence) (pendingId : Option Id)

/-- A store error as an error of the reconciliation. -/
def liftLifecycle {α : Type} (x : Except StoreError α) : LifecycleProgram η α :=
  fun s => match x with
    | .ok a => .ok (a, s)
    | .error e => .error (.store e)

/-- First-seen evidence is staged; replayed evidence has its row. -/
def stageUnlessPending : LifecycleProgram η Bool :=
  match pendingId with
  | none => stageEvidence now account newId evidence
  | some _ => pure false

/-- What is done with evidence that has been looked at. -/
def concludeEvidence (transition : LifecycleTransition) :
    LifecycleProgram η GatewayLifecycleApplyOutcome := do
  match transition with
  | .apply _ =>
    onQuarantines (resolveMatchingQuarantines now account evidence)
    deletePending account pendingId
    pure .applied
  | .alreadySuperseded =>
    onQuarantines (resolveMatchingQuarantines now account evidence)
    deletePending account pendingId
    pure .alreadySuperseded
  | .invalidRefundEconomics =>
    onQuarantines (recordQuarantineParts now newId account evidence.transactionId evidence.orderId
      .invalidRefundEconomics)
    deletePending account pendingId
    pure .invalidRefundEconomics
  | .conflictingLifecycleEvidence =>
    onQuarantines (recordQuarantineParts now newId account evidence.transactionId evidence.orderId
      .invalidRefundEconomics)
    deletePending account pendingId
    pure .conflictingLifecycleEvidence

/-- The evidence on the selected candidate. -/
def applyToCandidate (candidate : AttemptCandidate) :
    LifecycleProgram η GatewayLifecycleApplyOutcome := do
  let transition ← liftLifecycle (lifecycleTransition candidate.currentState
    candidate.attempt.lifecycle.refundedAmountCents candidate.attempt.lifecycle.lifecycleAt
    evidence.state evidence.effectiveAt candidate.attempt.amountCents)
  match transition with
  | .apply refunded =>
    updateAttempt now account refunded evidence candidate.attempt.id
    if ← reverseHostTarget now host evidence candidate.attempt then
      concludeEvidence now newId account evidence pendingId transition
    else pure .hostTargetTransitionSkipped
  | _ => concludeEvidence now newId account evidence pendingId transition

/-- The transaction of `apply_or_stage_evidence`. -/
def evidenceTransaction : LifecycleProgram η EvidenceApplication := do
  ensureLifecycleAccount account
  let s ← get
  let candidates ← liftLifecycle (attemptCandidates account evidence s.attempts)
  match selectedCandidate candidates with
  | none =>
    let newlyStaged ← stageUnlessPending now newId account evidence pendingId
    pure ⟨if candidates = [] then .stagedNoMatch else .stagedAmbiguous, newlyStaged⟩
  | some candidate =>
    let outcome ← applyToCandidate host now newId account evidence pendingId candidate
    pure ⟨outcome, false⟩

/-- The second transaction, after a refusal of the host has rolled the first one back. -/
def refusalTransaction : LifecycleProgram η EvidenceApplication := do
  ensureLifecycleAccount account
  let newlyStaged ← stageUnlessPending now newId account evidence pendingId
  pure ⟨.hostTargetTransitionSkipped, newlyStaged⟩

/-- `apply_or_stage_evidence`. -/
def applyOrStageEvidence : LifecycleProgram η EvidenceApplication :=
  fun s =>
    match evidenceTransaction host now newId account evidence pendingId s with
    | .error e => .error e
    | .ok (application, s') =>
      if application.outcome = .hostTargetTransitionSkipped then
        refusalTransaction now newId account evidence pendingId s
      else .ok (application, s')

end Evidence

/-! ## Pending rows -/

section Pending

variable {η : Type} (now : Timestamp) (account : GatewayLifecycleAccount)

/-- `PENDING_CLEANUP_BATCH_SIZE`. -/
def pendingCleanupBatchSize : ℕ := 500

/-- `STAGED_APPLICATION_BATCH_SIZE`. -/
def stagedApplicationBatchSize : ℕ := 100

/-- `PENDING_MAX_CHECKS`. -/
def pendingMaxChecks : ℕ := 24

/-- `ORDER BY first_seen_at, id`. -/
def pendingOrder (p q : PendingUpdate) : Prop :=
  p.firstSeenAt < q.firstSeenAt ∨ (p.firstSeenAt = q.firstSeenAt ∧ p.id ≤ q.id)

instance : DecidableRel pendingOrder :=
  fun _ _ => inferInstanceAs (Decidable (_ ∨ (_ ∧ _)))

/-- `ORDER BY expires_at, first_seen_at, id`. -/
def expiryOrder (p q : PendingUpdate) : Prop :=
  p.expiresAt < q.expiresAt ∨ (p.expiresAt = q.expiresAt ∧ pendingOrder p q)

instance : DecidableRel expiryOrder :=
  fun _ _ => inferInstanceAs (Decidable (_ ∨ (_ ∧ _)))

/-- `ORDER BY last_checked_at NULLS FIRST, first_seen_at, id`. -/
def checkOrder (p q : PendingUpdate) : Prop :=
  match p.lastCheckedAt, q.lastCheckedAt with
  | none, none => pendingOrder p q
  | none, some _ => True
  | some _, none => False
  | some t, some t' => t < t' ∨ (t = t' ∧ pendingOrder p q)

instance : DecidableRel checkOrder := fun p q => by
  unfold checkOrder
  exact match p.lastCheckedAt, q.lastCheckedAt with
    | none, none => inferInstanceAs (Decidable (pendingOrder p q))
    | none, some _ => inferInstanceAs (Decidable True)
    | some _, none => inferInstanceAs (Decidable False)
    | some _, some _ => inferInstanceAs (Decidable (_ ∨ (_ ∧ _)))

/-- `cleanup_pending`; the number of deleted rows is returned. -/
def cleanupPending : LifecycleProgram η ℕ := do
  ensureLifecycleAccount account
  let s ← get
  let stale := ((s.pending.filter fun p => p.isOf account ∧ p.expiresAt ≤ now).insertionSort
    expiryOrder).take pendingCleanupBatchSize
  let pending := s.pending.filter fun p => ¬ stale.any (·.id = p.id)
  set { s with pending }
  pure stale.length

/-- The condition of a pending row that can be applied, as the query has it: a candidate with its
transaction, or exactly one candidate. -/
def hasActionableMatch (attempts : List LifecycleAttempt) (p : PendingUpdate) : Bool :=
  (attempts.any fun a => isCandidate account p.transactionId p.orderId a ∧
      matchedTransactionId p.transactionId a) ∨
    attempts.countP (isCandidate account p.transactionId p.orderId) = 1

/-- A row that was looked at in vain. -/
def PendingUpdate.checked (p : PendingUpdate) : PendingUpdate :=
  { p with lastCheckedAt := some now, checkCount := p.checkCount + 1 }

/-- `record_unactionable_checks`. -/
def recordUnactionableChecks : LifecycleProgram η Unit := do
  ensureLifecycleAccount account
  let s ← get
  let unactionable := ((s.pending.filter fun p => p.isOf account ∧ now < p.expiresAt ∧
    p.checkCount < pendingMaxChecks ∧ ¬ hasActionableMatch account s.attempts p).insertionSort
      checkOrder).take pendingCleanupBatchSize
  let pending :=
    Table.updateWhere (fun p => unactionable.any (·.id = p.id)) (·.checked now) s.pending
  set { s with pending }

/-- The evidence of a pending row. -/
def PendingUpdate.evidence (p : PendingUpdate) : Except StoreError (Id × StoredEvidence) :=
  (lifecycleStateFromParts p.status p.refundedAmountCents).map fun state =>
    (p.id,
      { transactionId := p.transactionId
        orderId := p.orderId
        state
        condition := p.condition
        action := p.action
        effectiveAt := p.lifecycleAt })

/-- The condition of the query of pending rows that can be applied. -/
def isActionable (attempts : List LifecycleAttempt) (p : PendingUpdate) : Bool :=
  p.isOf account ∧ now < p.expiresAt ∧ hasActionableMatch account attempts p

/-- `actionable_pending`. -/
def actionablePending (s : LifecycleStore η) :
    Except StoreError (List (Id × StoredEvidence)) :=
  (((s.pending.filter (isActionable now account s.attempts)).insertionSort
    pendingOrder).take stagedApplicationBatchSize).mapM (·.evidence)

end Pending

end SyrupRail
