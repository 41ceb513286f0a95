import SyrupRail.Store.Attestation
import SyrupRail.Store.Audit

/-!
# Charges for the host's targets

A host charge pays for something of the host's, its target, and the host keeps the target's state in
tables of its own. Each transaction that settles such a charge first tells the host's store what
becomes of the target, then locks the attempt, and only then finds out whether it may go on; when it
may not, the rollback takes the host's answer back with everything else. The host is told of its
targets in three more places: of a full reversal that a lifecycle report brings, of a charge that an
operator reversed outside, and of an attempt that an operator failed. The host is a parameter: its
callbacks change the host's tables in the same transaction, and answer as they please.

The transactions are programs over `HostBilling`, the tables of the engine and of the host together.
It also has the events of paid targets and, in no table, what the host was told by the transactions
that committed.
-/

namespace SyrupRail

open Transactions Tx

/-! ## The host's store -/

/-- `HostChargeTargetSnapshot`: a target and what it costs. -/
structure HostChargeTargetSnapshot where
  targetId : Id
  charge : Money
  deriving DecidableEq, Repr

/-- `HostChargeTargetRejection`. -/
inductive HostChargeTargetRejection
  | targetUnavailable | chargeChanged | ledgerUnsafe
  deriving DecidableEq, Repr

/-- `HostChargeTargetReservation`. -/
structure HostChargeTargetReservation where
  billingScopeId : Id
  subscriberId : Id
  targetId : Id
  idempotencyKey : String
  deriving DecidableEq, Repr

/-- `HostChargeReservationDecision`. -/
inductive HostChargeReservationDecision
  | reserved (snapshot : HostChargeTargetSnapshot)
  | idempotentContender (snapshot : HostChargeTargetSnapshot)
  | rejected (reason : HostChargeTargetRejection)
  deriving DecidableEq, Repr

/-- `HostChargeSubmissionAdmission`. -/
structure HostChargeSubmissionAdmission where
  billingScopeId : Id
  subscriberId : Id
  targetId : Id
  attemptId : Id
  expectedCharge : Money
  deriving DecidableEq, Repr

/-- `HostChargeSubmissionDecision`. -/
inductive HostChargeSubmissionDecision
  | admitted (snapshot : HostChargeTargetSnapshot)
  | rejected (reason : HostChargeTargetRejection)
  deriving DecidableEq, Repr

/-- `HostChargeTargetTransitionKind`. The release after an external reversal is never told as such a
transition: it has a callback of its own. -/
inductive HostChargeTargetTransitionKind
  | paid | releasedBeforeSubmission | paymentFailed
  | releasedAfterExternalReversal (kind : PaymentReversalKind)
  | reversed (kind : PaymentReversalKind)
  deriving DecidableEq, Repr

/-- Whether a transition takes a payment back. -/
def HostChargeTargetTransitionKind.isReversal : HostChargeTargetTransitionKind → Bool
  | .reversed _ => true
  | _ => false

/-- `HostChargeTargetTransition`. -/
structure HostChargeTargetTransition where
  billingScopeId : Id
  subscriberId : Id
  attemptId : Id
  targetId : Id
  kind : HostChargeTargetTransitionKind
  effectiveAt : Timestamp
  deriving DecidableEq, Repr

/-- `HostChargeTargetStore`: the callbacks of a host whose tables are `η`. Each reads the tables of
the engine, and fails or answers. -/
structure HostChargeTargetStore (η : Type) where
  reserveTarget : HostChargeTargetReservation → Db → η → Option (η × HostChargeReservationDecision)
  ensureSubmissionAdmitted :
    HostChargeSubmissionAdmission → Db → η → Option (η × HostChargeSubmissionDecision)
  applyTransition : HostChargeTargetTransition → Db → η → Option (η × HostTargetOutcome)

/-- The callbacks of a host: those of `HostChargeTargetStore`, of `ExternalReversalHostStore`, and
of `ManualAttemptFailureHostStore`. -/
structure HostStores (η : Type) extends HostChargeTargetStore η, ExternalReversalHostStore η where
  lockPaymentFailureTarget : ManualFailureHostCharge → η → Except StoreError Unit
  markPaymentFailed : ManualFailureHostCharge → η →
    Except StoreError (η × ManualAttemptFailureHostTransitionOutcome)

/-- What the host was told: a transition of a target, with its answer, the release of the target of
an attempt whose charge was reversed outside, or the failure of an attempt by an operator. -/
inductive HostNotice
  | transition (t : HostChargeTargetTransition) (outcome : HostTargetOutcome)
  | released (attemptId : Id) (r : ExternalReversalHostChargeRelease)
  | failed (attemptId : Id) (charge : ManualFailureHostCharge)
  deriving DecidableEq, Repr

/-- `BillingEvent::HostChargePaid`, with the subject of its transaction. -/
structure HostChargePaid where
  billingScopeId : Id
  subscriberId : Id
  attemptId : Id
  targetId : Id
  charge : Money
  deriving DecidableEq, Repr

/-- The tables of the engine and of the host, the events of paid targets, and what the host was told
and answered in the transactions that committed. -/
structure HostBilling (η : Type) where
  db : Db
  host : η
  paid : List (Timestamp × HostChargePaid)
  told : List HostNotice

/-- Why a transaction of a host charge is rolled back. -/
inductive HostChargeError
  | store (error : StoreError)
  | target
  /-- The approval has another processor identity than the attempt. -/
  | conflicting
  /-- The attempt is closed without an approval. -/
  | terminal (a : PaymentAttempt)
  /-- The host refuses the outcome. -/
  | refused
  /-- The attempt is not to be resolved, or not with this evidence. -/
  | unresolvable
  /-- A report is for an account that is not there. -/
  | accountNotFound
  deriving DecidableEq, Repr

/-- A program of one transaction over both. -/
abbrev HostProgram (η α : Type) := Tx (HostBilling η) HostChargeError α

section Statements

variable {η : Type}

/-- A program of the engine, in a transaction of a host charge. -/
def onEngine {α : Type} (x : Program α) : HostProgram η α := fun s =>
  match x s.db with
  | .ok (a, db) => .ok (a, { s with db })
  | .error e => .error (.store e)

/-- A callback that the host answers. -/
def askHost {α : Type} (callback : Db → η → Option (η × α)) : HostProgram η α := fun s =>
  match callback s.db s.host with
  | some (host, answer) => .ok (answer, { s with host })
  | none => .error .target

/-- `HostChargeTargetStore::apply_transition`, which the transaction keeps when it commits. -/
def tellHost (targets : HostChargeTargetStore η) (transition : HostChargeTargetTransition) :
    HostProgram η HostTargetOutcome := do
  let outcome ← askHost (targets.applyTransition transition)
  modify fun s => { s with told := s.told ++ [.transition transition outcome] }
  pure outcome

/-- The event of a paid target. -/
def appendPaid (now : Timestamp) (event : HostChargePaid) : HostProgram η Unit :=
  modify fun s => { s with paid := s.paid ++ [(now, event)] }

end Statements

/-! ## Reservations -/

/-- `HostChargeReservation`. Both of its constructors take the target and the amount of the request
from the snapshot; a charge is positive. -/
structure HostChargeReservation where
  identity : PaymentAttemptIdentity
  snapshot : HostChargeTargetSnapshot
  idempotencyKey : String
  gatewayOrderId : String
  positive : snapshot.charge.cents ≠ 0

namespace HostChargeReservation

variable (r : HostChargeReservation)

/-- `host_charge_attempt_matches_reservation_without_required_mode`. -/
def matchesWithoutMode (a : PaymentAttempt) : Bool :=
  a.target = .hostCharge r.snapshot.targetId ∧ a.billingScopeId = r.identity.billingScopeId ∧
    a.subscriberId = r.identity.subscriberId ∧
    a.gatewayAccountId = r.identity.gatewayAccountId ∧
    a.gatewayConfigurationId = r.identity.gatewayConfigurationId ∧
    a.idempotencyKey = r.idempotencyKey ∧ a.amount = r.snapshot.charge

/-- `host_charge_attempt_matches_reservation`. -/
def matchesAttempt (a : PaymentAttempt) : Bool :=
  a.identity = r.identity ∧ a.target = .hostCharge r.snapshot.targetId ∧
    a.idempotencyKey = r.idempotencyKey ∧ a.amount = r.snapshot.charge ∧
    a.gatewayOrderId = r.gatewayOrderId

/-- The row of a reservation. -/
def newAttempt (now : Timestamp) : NewAttempt where
  id := r.identity.attemptId
  billingScopeId := r.identity.billingScopeId
  subscriberId := r.identity.subscriberId
  gatewayAccountId := r.identity.gatewayAccountId
  gatewayConfigurationId := r.identity.gatewayConfigurationId
  requiredGatewayAccountMode := r.identity.requiredGatewayAccountMode
  target := .hostCharge r.snapshot.targetId
  idempotencyKey := r.idempotencyKey
  amount := r.snapshot.charge
  gatewayOrderId := r.gatewayOrderId
  paymentMethodId := 0
  createdAt := now
  amount_fits := by
    constructor
    · intro h
      cases h
    · intro h
      exact absurd h r.positive

/-- What the host is told of the reserved attempt. -/
def transition (now : Timestamp) (kind : HostChargeTargetTransitionKind) :
    HostChargeTargetTransition where
  billingScopeId := r.identity.billingScopeId
  subscriberId := r.identity.subscriberId
  attemptId := r.identity.attemptId
  targetId := r.snapshot.targetId
  kind := kind
  effectiveAt := now

/-- The event of the reserved attempt, once it is paid. -/
def paidEvent : HostChargePaid where
  billingScopeId := r.identity.billingScopeId
  subscriberId := r.identity.subscriberId
  attemptId := r.identity.attemptId
  targetId := r.snapshot.targetId
  charge := r.snapshot.charge

end HostChargeReservation

/-- `HostChargeReservation::from_attempt`. -/
def HostChargeReservation.fromAttempt (a : PaymentAttempt) : Option HostChargeReservation :=
  match a.target with
  | .hostCharge targetId =>
    if h : a.amount.cents ≠ 0 then
      some
        { identity := a.identity
          snapshot := ⟨targetId, a.amount⟩
          idempotencyKey := a.idempotencyKey
          gatewayOrderId := a.gatewayOrderId
          positive := h }
    else none
  | _ => none

/-- `HostChargeReservationOutcome`. -/
inductive HostChargeReservationOutcome
  | reserved (a : PaymentAttempt)
  | replay (a : PaymentAttempt)
  | gatewayAccountModeChanged
  | idempotencyConflict
  | rejected (reason : HostChargeTargetRejection)
  deriving DecidableEq, Repr

/-- `HostChargeStoreError::InvalidState`. -/
def invalidHostChargeStoreState : StoreError :=
  .invalidState "canonical host charge state is invalid"

/-- `prepared_replay_required_mode_changed`. -/
def preparedReplayRequiredModeChanged (a : PaymentAttempt) (mode : GatewayAccountMode) : Bool :=
  a.isPrepared ∧ a.requiredGatewayAccountMode ≠ mode

/-- The attempt of an idempotency key, which must be there. -/
def requireAttemptByKey (r : HostChargeReservation) : Program PaymentAttempt := do
  match ← Tx.read (paymentAttemptByIdempotency r.identity.billingScopeId r.identity.subscriberId
    r.idempotencyKey) with
  | some a => pure a
  | none => throw invalidHostChargeStoreState

/-- `INSERT ... ON CONFLICT (billing_scope_id, subscriber_id, idempotency_key) DO NOTHING`: whether
the row was inserted. The other indexes are not given way to. -/
def insertUnlessKeyed (n : NewAttempt) : Program Bool :=
  Tx.statement Db.attempts (fun attempts db => { db with attempts }) fun attempts =>
    if attempts.any fun a => a.billingScopeId = n.billingScopeId ∧ a.subscriberId = n.subscriberId ∧
        a.idempotencyKey = n.idempotencyKey then .ok (attempts, false)
    else (storeAttempts (n.row :: attempts)).map (·, true)

section Transactions

variable {η : Type} (targets : HostChargeTargetStore η) (now : Timestamp)

/-- The attempt that has the key of a reservation: the one just inserted, or the one that was
there. -/
def keyedAttemptId (r : HostChargeReservation) (inserted : Bool) : Program Id :=
  if inserted then pure r.identity.attemptId else PaymentAttempt.id <$> requireAttemptByKey r

/-- The row of a reservation that the host has agreed to. -/
def insertReservedHostCharge (r : HostChargeReservation) :
    Program HostChargeReservationOutcome := do
  let inserted ← insertUnlessKeyed (r.newAttempt now)
  let attemptId ← keyedAttemptId r inserted
  let a ← requireAttempt invalidHostChargeStoreState r.identity.billingScopeId attemptId
  if r.matchesWithoutMode a = false then pure .idempotencyConflict
  else if preparedReplayRequiredModeChanged a r.identity.requiredGatewayAccountMode then
    pure .gatewayAccountModeChanged
  else if inserted then pure (.reserved a)
  else pure (.replay a)

/-- `reserve_host_charge_in_transaction`. -/
def reserveHostCharge (r : HostChargeReservation) : HostProgram η HostChargeReservationOutcome := do
  let decision ← askHost (targets.reserveTarget
    ⟨r.identity.billingScopeId, r.identity.subscriberId, r.snapshot.targetId, r.idempotencyKey⟩)
  match decision with
  | .reserved snapshot =>
    if snapshot ≠ r.snapshot then pure (.rejected .chargeChanged)
    else onEngine (insertReservedHostCharge now r)
  | .idempotentContender snapshot =>
    let existing ← onEngine (requireAttemptByKey r)
    if snapshot ≠ r.snapshot ∨ r.matchesWithoutMode existing = false then pure .idempotencyConflict
    else if preparedReplayRequiredModeChanged existing r.identity.requiredGatewayAccountMode then
      pure .gatewayAccountModeChanged
    else pure (.replay existing)
  | .rejected reason => pure (.rejected reason)

/-! ## Admission -/

/-- `HostChargeSubmissionOutcome`. -/
inductive HostChargeSubmissionOutcome
  | admitted (a : PaymentAttempt)
  | alreadyAdmitted (a : PaymentAttempt)
  | rejected (a : PaymentAttempt) (reason : HostChargeTargetRejection)
  deriving DecidableEq, Repr

/-- The rejection that the host's decision is for a reservation. -/
def HostChargeSubmissionDecision.rejection (r : HostChargeReservation) :
    HostChargeSubmissionDecision → Option HostChargeTargetRejection
  | .admitted snapshot => if snapshot = r.snapshot then none else some .chargeChanged
  | .rejected reason => some reason

/-- The admission of a locked attempt, after the host's decision. -/
def admitLockedHostCharge (r : HostChargeReservation) (decision : HostChargeSubmissionDecision) :
    Program HostChargeSubmissionOutcome := do
  let a ← requireAttempt invalidHostChargeStoreState r.identity.billingScopeId r.identity.attemptId
  if r.matchesWithoutMode a = false then throw invalidHostChargeStoreState
  else if a.isPrepared = false then pure (.alreadyAdmitted a)
  else if r.matchesAttempt a = false then throw invalidHostChargeStoreState
  else
    match decision.rejection r with
    | some reason =>
      onAttempts (writeAttempt now invalidHostChargeStoreState a.id
        (.rejectInitial "Host target changed before payment submission."))
      let a ← requireAttempt invalidHostChargeStoreState r.identity.billingScopeId
        r.identity.attemptId
      pure (.rejected a reason)
    | none => .admitted <$> writeAdmission now a .admitPrepared

/-- `admit_host_charge_submission_in_transaction`. The host is not asked about an attempt that is
not the reserved one, or no longer prepared. -/
def admitHostChargeSubmission (r : HostChargeReservation) :
    HostProgram η HostChargeSubmissionOutcome := do
  let observed ← onEngine (requireAttempt invalidHostChargeStoreState r.identity.billingScopeId
    r.identity.attemptId)
  if r.matchesWithoutMode observed = false then throw (.store invalidHostChargeStoreState)
  else if observed.isPrepared = false then pure (.alreadyAdmitted observed)
  else if r.matchesAttempt observed = false then throw (.store invalidHostChargeStoreState)
  else
    let decision ← askHost (targets.ensureSubmissionAdmitted
      ⟨r.identity.billingScopeId, r.identity.subscriberId, r.snapshot.targetId,
        r.identity.attemptId, r.snapshot.charge⟩)
    onEngine (admitLockedHostCharge now r decision)

/-! ## Approvals -/

/-- `INVALID_HOST_CHARGE_STATE`. -/
def invalidHostChargeState : StoreError :=
  .invalidState "canonical host charge application state is invalid"

/-- `APPROVED_STALE_TARGET_TEXT`. -/
def approvedStaleTargetText : String :=
  "Approved host charge could not update its target because the target changed."

/-- `APPROVED_STORAGE_FAILURE_TEXT` of a host charge. -/
def approvedHostChargeFailureText : String :=
  "Approved host charge could not be applied; manual review is required."

/-- `lock_expected_host_charge`. -/
def lockExpectedHostCharge (r : HostChargeReservation) : Program PaymentAttempt := do
  let a ← requireAttempt invalidHostChargeState r.identity.billingScopeId r.identity.attemptId
  if r.matchesAttempt a then pure a else throw invalidHostChargeState

/-- The charge that an approval of an open attempt is applied on. -/
def claimHostCharge (newChargeId : Id) (a : PaymentAttempt) (evidence : ProcessorEvidence) :
    Program ChargeRecord := do
  match ← observe now newChargeId a evidence .pending with
  | .ownedByOtherAttempt =>
    throw (.invalidState "the approved gateway transaction belongs to another payment attempt")
  | .owned charge =>
    if charge.role = .additional then
      throw (.invalidState "an additional approved host charge requires external reversal")
    else pure charge

/-- The approval of an open attempt whose target the host has paid. -/
def payHostCharge (r : HostChargeReservation) (a : PaymentAttempt) (evidence : ProcessorEvidence)
    (chargeId : Id) : Program PaymentAttempt := do
  persist now a.id (.persist evidence (.approved .hostCharge))
  moveCharge now chargeId .applied none
  requireAttempt invalidHostChargeState r.identity.billingScopeId r.identity.attemptId

/-- The approval of an open attempt whose target has changed. -/
def parkStaleHostCharge (a : PaymentAttempt) (evidence : ProcessorEvidence) (chargeId : Id) :
    Program PaymentAttempt := do
  moveCharge now chargeId .externalReversalRequired (some .hostChargeApprovedStaleState)
  parkLockedAttempt now a evidence (some .hostChargeApprovedStaleState) approvedStaleTargetText

/-- `apply_host_charge_approved`, its first transaction. -/
def applyHostChargeApproved (newChargeId : Id) (liveRecipient : Bool) (r : HostChargeReservation)
    (evidence : ProcessorEvidence) : HostProgram η PaymentAttempt := do
  if liveRecipient = false then
    throw (.store (.invalidState "a host charge payment event requires a live recipient"))
  else
    let outcome ← tellHost targets (r.transition now .paid)
    let a ← onEngine (lockExpectedHostCharge r)
    if processorIdentityConflict a evidence then throw .conflicting
    else if a.status = .approved then
      -- The approval is already there, so that the host may refuse to be paid again.
      let _ ← onEngine (observe now newChargeId a evidence .applied)
      pure a
    else if a.status.isTerminal then throw (.terminal a)
    else
      let charge ← onEngine (claimHostCharge now newChargeId a evidence)
      match outcome with
      | .applied | .exactReplay =>
        let applied ← onEngine (payHostCharge now r a evidence charge.id)
        appendPaid now r.paidEvent
        pure applied
      | .staleTarget => onEngine (parkStaleHostCharge now a evidence charge.id)
      | .unchanged => throw (.store invalidHostChargeState)

/-- `observe_conflicting_host_charge_approval`. -/
def observeConflictingHostCharge (newChargeId : Id) (r : HostChargeReservation)
    (evidence : ProcessorEvidence) : Program PaymentAttempt := do
  let a ← lockExpectedHostCharge r
  if processorIdentityConflict a evidence = false then pure a
  else if a.status = .approved ∧ sameProcessorTransaction a evidence then pure a
  else if a.status.isResolvable then
    let _ ← observe now newChargeId a evidence .reconciliationRequired
    pure a
  else
    let observation ← observe now newChargeId a evidence .externalReversalRequired
    if evidence.transactionId ≠ none then
      promoteConflictingCharge now observation
      pure a
    else pure a

/-- `observe_terminal_host_charge_approval`, of the attempt that the first transaction found
closed. -/
def observeTerminalHostCharge (newChargeId : Id) (r : HostChargeReservation)
    (closed : PaymentAttempt) (evidence : ProcessorEvidence) : Program PaymentAttempt := do
  match ← observe now newChargeId closed evidence .pending with
  | .ownedByOtherAttempt =>
    throw (.invalidState "the approved gateway transaction belongs to another payment attempt")
  | .owned _ =>
    let a ← lockExpectedHostCharge r
    if a.status.isTerminal = false ∨ a.status = .approved then throw invalidHostChargeState
    else pure a

/-- `park_host_charge_approved`. -/
def parkHostChargeApproved (newChargeId : Id) (r : HostChargeReservation)
    (evidence : ProcessorEvidence) : Program PaymentAttempt := do
  let a ← lockExpectedHostCharge r
  if processorIdentityConflict a evidence then
    if a.status = .approved ∧ sameProcessorTransaction a evidence then pure a
    else if a.status.isResolvable then
      match ← observe now newChargeId a evidence .reconciliationRequired with
      | .ownedByOtherAttempt => pure a
      | .owned charge =>
        moveCharge now charge.id .reconciliationRequired none
        pure a
    else
      let observation ← observe now newChargeId a evidence .externalReversalRequired
      promoteConflictingCharge now observation
      pure a
  else
    let progression : ProcessorChargeProgression :=
      if evidence.transactionId ≠ none then .externalReversalRequired else .reconciliationRequired
    match ← observe now newChargeId a evidence progression with
    | .ownedByOtherAttempt => parkLockedAttempt now a evidence none approvedHostChargeFailureText
    | .owned charge =>
      moveCharge now charge.id progression none
      parkLockedAttempt now a evidence none approvedHostChargeFailureText

/-! ## Outcomes without an approval -/

/-- `host_charge_attempt_may_resolve`. -/
def hostChargeAttemptMayResolve (a : PaymentAttempt) (boundary : OutcomeResolutionBoundary) :
    Bool :=
  a.status.isResolvable &&
    match boundary with
    | .prepared => a.submittedAt.isNone
    | .admittedNotSubmitted => a.submittedAt.isSome
    | .submitted => true

/-- What the host is told of an outcome without an approval. -/
def OutcomeResolutionBoundary.targetTransition : OutcomeResolutionBoundary →
    HostChargeTargetTransitionKind
  | .prepared | .admittedNotSubmitted => .releasedBeforeSubmission
  | .submitted => .paymentFailed

/-- The statements of a resolution. The submission of an outcome that was never submitted is cleared
together with it. -/
def resolveLockedHostCharge (newChargeId : Id) (r : HostChargeReservation) (a : PaymentAttempt)
    (evidence : ProcessorEvidence) (c : OutcomeResolutionCommand) : Program PaymentAttempt := do
  persist now a.id (c.writer evidence)
  if evidence.indicatesApprovedPayment then
    let _ ← observe now newChargeId a evidence .pending
    requireAttempt invalidHostChargeState r.identity.billingScopeId r.identity.attemptId
  else requireAttempt invalidHostChargeState r.identity.billingScopeId r.identity.attemptId

/-- `resolve_host_charge_non_approved`: declined or failed. The cooldown of a rate limit is
committed on its own. -/
def resolveHostChargeNonApproved (newChargeId : Id) (r : HostChargeReservation)
    (observed : ProcessorEvidence) (c : OutcomeResolutionCommand) :
    HostProgram η PaymentAttempt := do
  let outcome ← tellHost targets (r.transition now c.boundary.targetTransition)
  if outcome.isApplied = false then throw .refused
  else
    let a ← onEngine (lockExpectedHostCharge r)
    if hostChargeAttemptMayResolve a c.boundary = false then throw .unresolvable
    else if processorIdentityConflict a observed then throw .unresolvable
    else
      onEngine
        (resolveLockedHostCharge now newChargeId r a (reconcileNonApprovedEvidence a observed) c)

/-- `restore_admitted_host_charge_for_retry`. -/
def restoreAdmittedHostCharge (r : HostChargeReservation) : Program PaymentAttempt := do
  let a ← lockExpectedHostCharge r
  if a.status = .pending ∧ a.submittedAt ≠ none then
    persist now a.id .restore
    requireAttempt invalidHostChargeState r.identity.billingScopeId r.identity.attemptId
  else requireAttempt invalidHostChargeState r.identity.billingScopeId r.identity.attemptId

/-- `resolve_host_charge_unknown`. -/
def resolveHostChargeUnknown (newChargeId : Id) (r : HostChargeReservation)
    (observed : ProcessorEvidence) : Program PaymentAttempt := do
  let a ← lockExpectedHostCharge r
  if a.status.isTerminal then
    requireAttempt invalidHostChargeState r.identity.billingScopeId r.identity.attemptId
  else
    resolveLockedHostCharge now newChargeId r a (reconcileNonApprovedEvidence a observed)
      OutcomeResolutionCommand.unknown

/-! ## Abandoned charges -/

/-- A candidate of `fail_stale_unsubmitted_host_charges`. -/
structure StaleHostChargeCandidate where
  billingScopeId : Id
  subscriberId : Id
  attemptId : Id
  targetId : Id
  gatewayAccountId : Id
  deriving DecidableEq, Repr

/-- The `WHERE` of the expiry of a candidate. -/
def StaleHostChargeCandidate.isStale (now : Timestamp) (c : StaleHostChargeCandidate)
    (a : PaymentAttempt) : Bool :=
  a.id = c.attemptId ∧ a.billingScopeId = c.billingScopeId ∧ a.subscriberId = c.subscriberId ∧
    a.target = .hostCharge c.targetId ∧ a.gatewayAccountId = c.gatewayAccountId ∧
    a.isStaleUnsubmitted now

/-- The transaction of a candidate in `fail_stale_unsubmitted_host_charges`. -/
def failStaleHostCharge (c : StaleHostChargeCandidate) : HostProgram η Unit := do
  let outcome ← tellHost targets
    ⟨c.billingScopeId, c.subscriberId, c.attemptId, c.targetId, .releasedBeforeSubmission, now⟩
  if outcome.isApplied = false then throw .refused
  else if (← get).db.attempts.any (c.isStale now) then
    onEngine (onAttempts (writeAttempts now (c.isStale now) .expireHostCharge))
  else throw .unresolvable

/-! ## Lifecycle reports -/

/-- The transition that the host is told of a full reversal. -/
def HostTargetReversal.transition (r : HostTargetReversal) : HostChargeTargetTransition where
  billingScopeId := r.billingScopeId
  subscriberId := r.subscriberId
  attemptId := r.attemptId
  targetId := r.targetId
  kind := .reversed r.kind
  effectiveAt := r.reversedAt

/-- The part of the host in a report that is applied: whether its target took a full reversal
over. -/
def tellReversal (evidence : StoredEvidence) (a : LifecycleAttempt) : HostProgram η Bool :=
  match evidence.state.fullReversalKind, a.kind with
  | some kind, .hostCharge =>
    match a.hostChargeTargetId with
    | none => throw (.store invalidStoredLifecycle)
    | some targetId => do
      let outcome ← tellHost targets (hostReversal now evidence a kind targetId).transition
      pure outcome.isApplied
  | _, _ => pure true

/-- The candidates of a report among the attempts. -/
def reportCandidates (account : GatewayLifecycleAccount) (evidence : StoredEvidence) (db : Db) :
    Except StoreError (List AttemptCandidate) :=
  attemptCandidates account evidence (db.attempts.map (·.lifecycleRow))

/-- A report on the selected candidate. A refusal of the host is rolled back. -/
def reportCandidate (account : GatewayLifecycleAccount) (evidence : StoredEvidence)
    (candidate : AttemptCandidate) : HostProgram η GatewayLifecycleApplyOutcome := do
  let transition ← onEngine (Tx.read fun _ => lifecycleTransition candidate.currentState
    candidate.attempt.lifecycle.refundedAmountCents candidate.attempt.lifecycle.lifecycleAt
    evidence.state evidence.effectiveAt candidate.attempt.amountCents)
  match transition with
  | .apply refunded =>
    onEngine (onAttempts (reportAttempt now account refunded evidence candidate.attempt.id))
    if ← tellReversal targets now evidence candidate.attempt then pure .applied else throw .refused
  | .alreadySuperseded => pure .alreadySuperseded
  | .invalidRefundEconomics => pure .invalidRefundEconomics
  | .conflictingLifecycleEvidence => pure .conflictingLifecycleEvidence

/-- `apply_or_stage_evidence`, of which the tables of pending reports and of quarantines are left to
`evidenceTransaction`. -/
def reportLifecycle (account : GatewayLifecycleAccount) (evidence : StoredEvidence) :
    HostProgram η GatewayLifecycleApplyOutcome := do
  if account ∉ (← get).db.gatewayAccounts.map (·.lifecycleAccount) then throw .accountNotFound
  else
    let candidates ← onEngine (Tx.read (reportCandidates account evidence))
    match selectedCandidate candidates with
    | none => pure (if candidates = [] then .stagedNoMatch else .stagedAmbiguous)
    | some candidate => reportCandidate targets now account evidence candidate

end Transactions

/-! ## Operators -/

section Operators

variable {η : Type} (host : HostStores η) (now : Timestamp)

/-- The releases of a host, written down. -/
def ExternalReversalHostStore.logged (host : ExternalReversalHostStore η) :
    ExternalReversalHostStore (η × List ExternalReversalHostChargeRelease) where
  release r h := (host.release r h.1).map fun (h', outcome) => ((h', h.2 ++ [r]), outcome)

/-- The releases that are told in an attestation, of the attempt of its charge. -/
def releaseNotices (t : ReversalAttestation) (before : Db)
    (releases : List ExternalReversalHostChargeRelease) : List HostNotice :=
  match Table.findBy ProcessorCharge.id t.chargeId before.ledger.charges with
  | none => []
  | some c => releases.map (.released c.attemptId)

/-- `attest_external_reversal`. -/
def attestHostReversal (rules : TextRules) (t : ReversalAttestation) :
    HostProgram η ExternalReversalAttestationAnswer := fun s =>
  match attestExternalReversalWithHost rules host.toExternalReversalHostStore.logged now t
    (s.db, s.host, []) with
  | .ok (answer, db, h, releases) =>
    .ok (answer, { s with db, host := h, told := s.told ++ releaseNotices t s.db releases })
  | .error e => .error (.store e)

/-- The callbacks of a manual failure, at the tables that the host has. -/
def HostStores.manualFailures (h : η) : ManualAttemptFailureHostStore where
  lockPaymentFailureTarget charge := host.lockPaymentFailureTarget charge h
  markPaymentFailed charge := (host.markPaymentFailed charge h).map Prod.snd

/-- The host charge that an operator has failed, with its attempt. -/
def ManualAttemptFailureOutcome.hostCharge :
    ManualAttemptFailureOutcome → Option (Id × ManualFailureHostCharge)
  | .failed a => a.hostChargeTargetId.map (a.id, ⟨a.billingScopeId, a.subscriberId, ·⟩)
  | .keptOpen _ | .notFound => none

/-- `mark_payment_failed`, which the transaction keeps when it commits. -/
def tellFailed (failed : Option (Id × ManualFailureHostCharge)) : HostProgram η Unit := fun s =>
  match failed with
  | none => .ok ((), s)
  | some (attemptId, charge) =>
    match host.markPaymentFailed charge s.host with
    | .ok (h, _) => .ok ((), { s with host := h, told := s.told ++ [.failed attemptId charge] })
    | .error e => .error (.store e)

/-- `fail_review_required_attempt`. The host's answer about the target does not matter, and nothing
after it reads the host's tables, so that they are changed at the end. -/
def failReviewRequiredAttempt (sanitize : String → String) (preloaded : Option PaymentAttempt) :
    HostProgram η ManualAttemptFailureOutcome := do
  let h := (← get).host
  let outcome ← onEngine
    (failReviewRequired now sanitize (.ordinary (host.manualFailures h)) preloaded)
  tellFailed host outcome.hostCharge
  pure outcome

end Operators

end SyrupRail
