import SyrupRail.Attempt
import SyrupRail.Lib.Table

/-!
# Processor charges

The ledger of approved processor charges, `billing_processor_charges`, and of the attestations that
an operator has reversed one outside the engine. A charge is observed with the evidence of an
approval, progresses through the writers below, and is never deleted. Every statement passes the
constraints and the unique indexes of the table, so that a statement that would break one of them
fails with the error of the database and not with one of the engine's own.
-/

namespace SyrupRail

/-- Whether a charge is the first of its attempt. -/
inductive ProcessorChargeRole
  | primary | additional
  deriving DecidableEq, Repr

/-- How far a charge has been applied or reversed. -/
inductive ProcessorChargeProgression
  | pending | reconciliationRequired | externalReversalRequired | applied | externallyReversed
  deriving DecidableEq, Repr

/-- Why a charge has its progression. -/
inductive ProcessorChargeStateCode
  | paymentResolution (code : PaymentResolutionCode)
  | externalReversalRequired
  | additionalApprovedChargeIdentified
  | transactionIdentityRequired
  | approvedChargeWaitingForApplication
  | zeroAmountAdditionalApprovedCharge
  deriving DecidableEq, Repr

/-- A row of `billing_processor_charges`. -/
structure ProcessorCharge where
  id : Id
  attemptId : Id
  billingScopeId : Id
  gatewayAccountId : Id
  gatewayOrderId : String
  attemptKind : PaymentAttemptKind
  amount : Money
  role : ProcessorChargeRole
  progression : ProcessorChargeProgression
  stateCode : Option ProcessorChargeStateCode
  evidence : ProcessorEvidence
  reconciliationRequiredAt : Option Timestamp
  externalReversalRequiredAt : Option Timestamp
  appliedAt : Option Timestamp
  externallyReversedAt : Option Timestamp
  createdAt : Timestamp
  updatedAt : Timestamp
  deriving DecidableEq, Repr

/-! ## Constraints and indexes -/

/-- `billing_processor_charges_state_timestamps_check`. -/
def ProcessorCharge.stateTimestampsCheck (c : ProcessorCharge) : Bool :=
  match c.progression with
  | .pending => c.reconciliationRequiredAt = none ∧ c.externalReversalRequiredAt = none ∧
      c.appliedAt = none ∧ c.externallyReversedAt = none
  | .reconciliationRequired => c.reconciliationRequiredAt ≠ none ∧
      c.externalReversalRequiredAt = none ∧ c.appliedAt = none ∧ c.externallyReversedAt = none
  | .externalReversalRequired => c.externalReversalRequiredAt ≠ none ∧ c.appliedAt = none ∧
      c.externallyReversedAt = none
  | .applied => c.appliedAt ≠ none ∧ c.externallyReversedAt = none
  | .externallyReversed => c.externallyReversedAt ≠ none

/-- Whether a progression is one of an external reversal. -/
def ProcessorChargeProgression.isReversal : ProcessorChargeProgression → Bool
  | .externalReversalRequired | .externallyReversed => true
  | .pending | .reconciliationRequired | .applied => false

/-- `billing_processor_charges_transaction_identity_check`. -/
def ProcessorCharge.transactionIdentityCheck (c : ProcessorCharge) : Bool :=
  c.evidence.transactionId.isSome || c.progression = .pending ||
    c.progression = .reconciliationRequired

/-- Whether an external reversal of a charge is possible. -/
def ProcessorCharge.reversalEligible (c : ProcessorCharge) : Bool :=
  c.evidence.transactionId.isSome && 0 < c.amount.cents &&
    c.attemptKind ≠ .subscriptionPaymentMethodUpdate

/-- `billing_processor_charges_reversal_eligibility_check`. -/
def ProcessorCharge.reversalEligibilityCheck (c : ProcessorCharge) : Bool :=
  !c.progression.isReversal || c.reversalEligible

/-- The constraints of the table on the columns that a writer changes. -/
def ProcessorCharge.checks (c : ProcessorCharge) : Bool :=
  c.stateTimestampsCheck && c.transactionIdentityCheck && c.reversalEligibilityCheck &&
    c.createdAt ≤ c.updatedAt && c.evidence.textCheck

/-- The key of `billing_processor_charges_gateway_transaction_idx`. -/
def ProcessorCharge.gatewayTransactionKey (c : ProcessorCharge) : Option (Id × String) :=
  c.evidence.transactionId.map fun tx => (c.gatewayAccountId, tx)

/-- The key of `billing_processor_charges_attempt_transaction_idx`. -/
def ProcessorCharge.attemptTransactionKey (c : ProcessorCharge) : Option (Id × String) :=
  c.evidence.transactionId.map fun tx => (c.attemptId, tx)

/-- The key of `billing_processor_charges_attempt_transactionless_idx`. -/
def ProcessorCharge.transactionlessKey (c : ProcessorCharge) : Option Id :=
  if c.evidence.transactionId = none then some c.attemptId else none

/-- The key of `billing_processor_charges_primary_attempt_idx`. -/
def ProcessorCharge.primaryKey (c : ProcessorCharge) : Option Id :=
  if c.role = .primary then some c.attemptId else none

/-- The unique indexes of the table, the primary key first. -/
def chargeIndexes (charges : List ProcessorCharge) : Bool :=
  Table.uniqueOn (fun c => some c.id) charges &&
    Table.uniqueOn ProcessorCharge.gatewayTransactionKey charges &&
    Table.uniqueOn ProcessorCharge.attemptTransactionKey charges &&
    Table.uniqueOn ProcessorCharge.transactionlessKey charges &&
    Table.uniqueOn ProcessorCharge.primaryKey charges

/-- `INVALID_CHARGE_STATE`. -/
def invalidChargeState : StoreError := .invalidState "canonical processor charge state is invalid"

/-- The end of a statement: the constraints, and then the indexes, of the new table. -/
def storeCharges (charges : List ProcessorCharge) : Except StoreError (List ProcessorCharge) :=
  if !charges.all ProcessorCharge.checks then .error .checkViolation
  else if !chargeIndexes charges then .error .uniqueViolation
  else .ok charges

/-! ## Observation -/

/-- The record of an observed charge. -/
structure ChargeRecord where
  id : Id
  role : ProcessorChargeRole
  exactReplay : Bool
  deriving DecidableEq, Repr

/-- What an observation found. -/
inductive ObservedCharge
  | ownedByOtherAttempt
  | owned (record : ChargeRecord)
  deriving DecidableEq, Repr

/-- `evidence_matches`: every column but the transaction is the same. -/
def ProcessorEvidence.matchesExceptTransaction (stored observed : ProcessorEvidence) : Bool :=
  { stored with transactionId := observed.transactionId } = observed

/-- `owned_by_other_attempt`. -/
def ownedByOtherAttempt (a : PaymentAttempt) (tx : String) (charges : List ProcessorCharge) :
    Bool :=
  charges.any fun c =>
    c.gatewayAccountId = a.gatewayAccountId ∧ c.evidence.transactionId = some tx ∧
      c.attemptId ≠ a.id

/-- `matching_charge`. -/
def matchingCharge (a : PaymentAttempt) (evidence : ProcessorEvidence)
    (charges : List ProcessorCharge) : Option ProcessorCharge :=
  charges.find? fun c =>
    c.attemptId = a.id ∧ c.evidence.transactionId = evidence.transactionId

/-- `initial_charge_progression`. -/
def initialChargeProgression (role : ProcessorChargeRole) (amountCents : ℕ)
    (transactionId : Option String) (requested : ProcessorChargeProgression) :
    ProcessorChargeProgression :=
  match transactionId, role with
  | none, _ => .reconciliationRequired
  | some _, .primary => requested
  | some _, .additional =>
    if 0 < amountCents then .externalReversalRequired else .reconciliationRequired

/-- The row that an observation inserts. The reversal time has no column value in the `INSERT`. -/
def newCharge (now : Timestamp) (id : Id) (a : PaymentAttempt) (evidence : ProcessorEvidence)
    (role : ProcessorChargeRole) (progression : ProcessorChargeProgression) : ProcessorCharge where
  id := id
  attemptId := a.id
  billingScopeId := a.billingScopeId
  gatewayAccountId := a.gatewayAccountId
  gatewayOrderId := a.gatewayOrderId
  attemptKind := a.kind
  amount := a.amount
  role := role
  progression := progression
  stateCode := none
  evidence := evidence
  reconciliationRequiredAt := if progression = .reconciliationRequired then some now else none
  externalReversalRequiredAt := if progression = .externalReversalRequired then some now else none
  appliedAt := if progression = .applied then some now else none
  externallyReversedAt := none
  createdAt := now
  updatedAt := now

/-- The progression columns of a row: the time of the new progression is kept when it is set, and
those of the others are cleared. -/
def ProcessorCharge.progressed (now : Timestamp) (progression : ProcessorChargeProgression)
    (c : ProcessorCharge) : ProcessorCharge :=
  { c with
    progression
    reconciliationRequiredAt :=
      if progression = .reconciliationRequired then c.reconciliationRequiredAt <|> some now
        else none
    externalReversalRequiredAt :=
      if progression = .externalReversalRequired then c.externalReversalRequiredAt <|> some now
      else none
    appliedAt := if progression = .applied then c.appliedAt <|> some now else none
    externallyReversedAt :=
      if progression = .externallyReversed then c.externallyReversedAt <|> some now else none
    updatedAt := now }

/-- The first update of an identification. -/
def ProcessorCharge.identified (now : Timestamp) (tx : String) (c : ProcessorCharge) :
    ProcessorCharge :=
  { c with evidence := { c.evidence with transactionId := some tx }, updatedAt := now }

/-- The second update of an identification: as `progressed`, without the column of the reversal. -/
def ProcessorCharge.identifiedProgress (now : Timestamp) (progression : ProcessorChargeProgression)
    (c : ProcessorCharge) : ProcessorCharge :=
  { c.progressed now progression with
    stateCode := none
    externallyReversedAt := c.externallyReversedAt }

/-- `identify_transactionless`: the attempt's charge without a transaction, when all its other
evidence is the same, receives the transaction and then its initial progression. -/
def identifyTransactionless (now : Timestamp) (a : PaymentAttempt) (evidence : ProcessorEvidence)
    (tx : String) (requested : ProcessorChargeProgression) (charges : List ProcessorCharge) :
    Except StoreError (Option (List ProcessorCharge × ChargeRecord)) :=
  match charges.find? fun c => c.attemptId = a.id ∧ c.evidence.transactionId = none with
  | none => .ok none
  | some c =>
    if c.evidence.matchesExceptTransaction evidence then
      let progression := initialChargeProgression c.role a.amount.cents (some tx) requested
      let identified := do
        let charges ← storeCharges (Table.updateWhere (·.id = c.id) (·.identified now tx) charges)
        storeCharges
          (Table.updateWhere (·.id = c.id) (·.identifiedProgress now progression) charges)
      identified.map fun charges =>
        some (charges, { id := c.id, role := c.role, exactReplay := false })
    else .ok none

/-- The conflict targets of the insertion: the transaction of an identified charge, and else the
attempt's charge without a transaction. -/
def ProcessorCharge.conflictsWith (row c : ProcessorCharge) : Bool :=
  if row.evidence.transactionId.isSome then c.gatewayTransactionKey = row.gatewayTransactionKey
  else c.transactionlessKey = row.transactionlessKey

/-- The reading back of a charge that was already there. -/
def replayObservedCharge (a : PaymentAttempt) (evidence : ProcessorEvidence)
    (charges : List ProcessorCharge) : Except StoreError ObservedCharge :=
  match matchingCharge a evidence charges with
  | some c =>
    if c.evidence.matchesExceptTransaction evidence then
      .ok (.owned { id := c.id, role := c.role, exactReplay := true })
    else .error (.invalidState "processor charge replay evidence changed")
  | none =>
    if evidence.transactionId.any fun tx => ownedByOtherAttempt a tx charges then
      .ok .ownedByOtherAttempt
    else .error invalidChargeState

/-- The insertion of `observe_processor_charge`. The constraints are checked before the conflict;
a row that conflicts is read back and compared. -/
def insertObservedCharge (now : Timestamp) (newId : Id) (a : PaymentAttempt)
    (evidence : ProcessorEvidence) (role : ProcessorChargeRole)
    (progression : ProcessorChargeProgression) (charges : List ProcessorCharge) :
    Except StoreError (List ProcessorCharge × ObservedCharge) :=
  let row := newCharge now newId a evidence role progression
  if !row.checks then .error .checkViolation
  else if charges.any row.conflictsWith then
    (replayObservedCharge a evidence charges).map (charges, ·)
  else
    (storeCharges (row :: charges)).map
      (·, .owned { id := newId, role := role, exactReplay := false })

/-- `observe_processor_charge`. -/
def observeProcessorCharge (now : Timestamp) (newId : Id) (a : PaymentAttempt)
    (evidence : ProcessorEvidence) (requested : ProcessorChargeProgression)
    (charges : List ProcessorCharge) :
    Except StoreError (List ProcessorCharge × ObservedCharge) :=
  let role : ProcessorChargeRole :=
    if charges.any (·.attemptId = a.id) then .additional else .primary
  let progression :=
    initialChargeProgression role a.amount.cents evidence.transactionId requested
  match evidence.transactionId with
  | none => insertObservedCharge now newId a evidence role progression charges
  | some tx =>
    if ownedByOtherAttempt a tx charges then .ok (charges, .ownedByOtherAttempt)
    else
      match identifyTransactionless now a evidence tx requested charges with
      | .error e => .error e
      | .ok (some (charges, record)) => .ok (charges, .owned record)
      | .ok none => insertObservedCharge now newId a evidence role progression charges

/-! ## Transitions -/

/-- How a transition treats the state code. -/
inductive ChargeStateCodeUpdate
  | replace (code : Option ProcessorChargeStateCode)
  | preserveExisting (code : Option ProcessorChargeStateCode)
  deriving DecidableEq, Repr

/-- The state code after a transition. -/
def ChargeStateCodeUpdate.apply (update : ChargeStateCodeUpdate)
    (current : Option ProcessorChargeStateCode) : Option ProcessorChargeStateCode :=
  match update with
  | .replace code => code
  | .preserveExisting code => current <|> code

/-- The eligibility of a row for a progression. -/
def ProcessorCharge.eligible (progression : ProcessorChargeProgression) (c : ProcessorCharge) :
    Bool :=
  (!progression.isReversal || c.reversalEligible) &&
    (progression ≠ .applied || (c.role = .primary && c.evidence.transactionId.isSome))

/-- The predicate of a transition: the row, its progression, and its eligibility. -/
def ProcessorCharge.transitionMatched (chargeId : Id) (expected : List ProcessorChargeProgression)
    (progression : ProcessorChargeProgression) (c : ProcessorCharge) : Bool :=
  c.id = chargeId ∧ c.progression ∈ expected ∧ c.eligible progression

/-- The row after a transition. -/
def ProcessorCharge.transitioned (now : Timestamp) (progression : ProcessorChargeProgression)
    (update : ChargeStateCodeUpdate) (c : ProcessorCharge) : ProcessorCharge :=
  { c.progressed now progression with stateCode := update.apply c.stateCode }

/-- `transition_processor_charge`. -/
def transitionProcessorCharge (now : Timestamp) (chargeId : Id)
    (expected : List ProcessorChargeProgression) (progression : ProcessorChargeProgression)
    (update : ChargeStateCodeUpdate) (charges : List ProcessorCharge) :
    Except StoreError (List ProcessorCharge) :=
  if expected.isEmpty then
    .error (.invalidState "processor charge transition requires an expected state")
  else if charges.any (·.transitionMatched chargeId expected progression) then
    storeCharges (Table.updateWhere (·.transitionMatched chargeId expected progression)
      (·.transitioned now progression update) charges)
  else
    .error (.invalidState
      "processor charge transition did not match its expected state or eligibility")

/-- The progressions that `transition_charge` expects: every one but the external reversal. -/
def transitionChargeExpected : List ProcessorChargeProgression :=
  [.pending, .reconciliationRequired, .externalReversalRequired, .applied]

/-- `transition_charge`. -/
def transitionCharge (now : Timestamp) (chargeId : Id) (progression : ProcessorChargeProgression)
    (code : Option PaymentResolutionCode) (charges : List ProcessorCharge) :
    Except StoreError (List ProcessorCharge) :=
  transitionProcessorCharge now chargeId transitionChargeExpected progression
    (.preserveExisting (code.map .paymentResolution)) charges

/-! ## Attestation -/

/-- How a charge was reversed outside the engine. -/
inductive ExternalReversalKind
  | refund | void
  deriving DecidableEq, Repr

/-- A row of `billing_external_reversal_attestations`. -/
structure ExternalReversalAttestation where
  processorChargeId : Id
  attemptId : Id
  actorId : Id
  kind : ExternalReversalKind
  reason : String
  priorResolutionCode : ProcessorChargeStateCode
  finalResolutionCode : PaymentResolutionCode
  gatewayAccountId : Id
  gatewayConfigurationId : Id
  gatewayOrderId : String
  amount : Money
  gatewayTransactionId : String
  evidence : ProcessorEvidence
  attestedAt : Timestamp
  deriving DecidableEq, Repr

/-- The charges and their attestations. -/
structure ChargeLedger where
  charges : List ProcessorCharge := []
  attestations : List ExternalReversalAttestation := []
  deriving DecidableEq, Repr

/-- `expected_prior_resolution_code`. -/
def expectedPriorResolutionCode (a : PaymentAttempt) (c : ProcessorCharge) :
    ProcessorChargeStateCode :=
  let holds (code : PaymentResolutionCode) : Bool :=
    a.resolutionCode = some code ∨ c.stateCode = some (.paymentResolution code)
  if c.role = .primary ∧ c.attemptKind = .subscriptionInitial ∧
      holds .subscriptionInitialCurrentGrantConflict then
    .paymentResolution .subscriptionInitialCurrentGrantConflict
  else if c.role = .primary ∧ c.attemptKind ∈
      [.subscriptionInitial, .subscriptionRenewal, .subscriptionRecovery] ∧
      holds .subscriptionApprovedPeriodExpired then
    .paymentResolution .subscriptionApprovedPeriodExpired
  else .externalReversalRequired

/-- `expected_final_resolution_code`. -/
def expectedFinalResolutionCode (attemptKind : PaymentAttemptKind) (kind : ExternalReversalKind) :
    PaymentResolutionCode :=
  match attemptKind, kind with
  | .subscriptionInitial, .refund => .subscriptionInitialExternallyRefunded
  | .subscriptionInitial, .void => .subscriptionInitialExternallyVoided
  | _, .refund => .processorChargeExternallyRefunded
  | _, .void => .processorChargeExternallyVoided

/-- `processor_charge_can_attest_external_reversal`. -/
def processorChargeCanAttestExternalReversal (c : ProcessorCharge) : Bool :=
  c.progression = .externalReversalRequired && c.evidence.transactionId.isSome &&
    c.attemptKind ≠ .subscriptionPaymentMethodUpdate

/-- `processor_charge_from_row`: the texts of the evidence are sanitized again. -/
def processorChargeFromRow (rules : TextRules) (c : ProcessorCharge) : ProcessorCharge :=
  { c with evidence := processorEvidenceFromRow rules c.evidence }

/-- `attestation_from_row`: the texts of the evidence are sanitized again. -/
def attestationFromRow (rules : TextRules) (t : ExternalReversalAttestation) :
    ExternalReversalAttestation :=
  { t with evidence := processorEvidenceFromRow rules t.evidence }

/-- `attestation_matches_source`. -/
def attestationMatchesSource (t : ExternalReversalAttestation) (a : PaymentAttempt)
    (c : ProcessorCharge) : Bool :=
  t.processorChargeId = c.id ∧ t.attemptId = a.id ∧ t.gatewayAccountId = a.gatewayAccountId ∧
    t.gatewayConfigurationId = a.gatewayConfigurationId ∧ t.gatewayOrderId = a.gatewayOrderId ∧
    t.amount = c.amount ∧ some t.gatewayTransactionId = c.evidence.transactionId ∧
    t.evidence = c.evidence ∧ t.priorResolutionCode = expectedPriorResolutionCode a c ∧
    t.finalResolutionCode = expectedFinalResolutionCode a.kind t.kind

/-- `locator_matches`: the charge has the dimensions of the attempt. -/
def chargeDimensionsMatch (a : PaymentAttempt) (c : ProcessorCharge) : Bool :=
  c.attemptId = a.id ∧ c.billingScopeId = a.billingScopeId ∧
    c.gatewayAccountId = a.gatewayAccountId ∧ c.attemptKind = a.kind ∧
    c.gatewayOrderId = a.gatewayOrderId ∧ c.amount = a.amount

/-- The answers of `attest_external_reversal`. -/
inductive ExternalReversalAttestationOutcome
  | notFound | replayed | replayConflict | ineligible | attested
  deriving DecidableEq, Repr

/-- The unique keys of the attestations: one for each charge, and one for each transaction. -/
def attestationIndexes (attestations : List ExternalReversalAttestation) : Bool :=
  Table.uniqueOn (fun t => some t.processorChargeId) attestations &&
    Table.uniqueOn (fun t => some (t.attemptId, t.gatewayTransactionId)) attestations &&
    Table.uniqueOn (fun t => some (t.gatewayAccountId, t.gatewayTransactionId)) attestations

/-- The row after its reversal was attested: it keeps the time at which its reversal became
required. -/
def ProcessorCharge.reversed (now : Timestamp) (prior : ProcessorChargeStateCode)
    (c : ProcessorCharge) : ProcessorCharge :=
  { c with
    progression := .externallyReversed
    stateCode := some prior
    externallyReversedAt := c.externallyReversedAt <|> some now
    updatedAt := now }

/-- What an operator attests. -/
structure ReversalAttestation where
  chargeId : Id
  actorId : Id
  kind : ExternalReversalKind
  expectedTransactionId : String
  reason : String
  deriving DecidableEq, Repr

/-- Whether an attestation is the replay of an existing one. -/
def ReversalAttestation.replays (t : ReversalAttestation) (existing : ExternalReversalAttestation)
    (a : PaymentAttempt) (c : ProcessorCharge) : Bool :=
  existing.actorId = t.actorId ∧ existing.kind = t.kind ∧ existing.reason = t.reason ∧
    existing.gatewayTransactionId = t.expectedTransactionId ∧
    c.progression = .externallyReversed ∧ attestationMatchesSource existing a c

/-- The row of `insert_attestation`. -/
def ReversalAttestation.row (now : Timestamp) (t : ReversalAttestation) (a : PaymentAttempt)
    (c : ProcessorCharge) : ExternalReversalAttestation where
  processorChargeId := c.id
  attemptId := a.id
  actorId := t.actorId
  kind := t.kind
  reason := t.reason
  priorResolutionCode := expectedPriorResolutionCode a c
  finalResolutionCode := expectedFinalResolutionCode a.kind t.kind
  gatewayAccountId := a.gatewayAccountId
  gatewayConfigurationId := a.gatewayConfigurationId
  gatewayOrderId := a.gatewayOrderId
  amount := c.amount
  gatewayTransactionId := t.expectedTransactionId
  evidence := c.evidence
  attestedAt := now

/-- The two statements of a first attestation. -/
def attestCharge (now : Timestamp) (a : PaymentAttempt) (t : ReversalAttestation)
    (c : ProcessorCharge) (l : ChargeLedger) : Except StoreError ChargeLedger :=
  if !attestationIndexes (t.row now a c :: l.attestations) then .error .uniqueViolation
  else
    (storeCharges (Table.updateWhere
      (fun c => c.id = t.chargeId ∧ c.progression = .externalReversalRequired)
      (·.reversed now (expectedPriorResolutionCode a c)) l.charges)).map fun charges =>
        { charges, attestations := t.row now a c :: l.attestations }

/-- `attest_external_reversal` on the charge, which is loaded as the existing attestation is. -/
def attestExternalReversal (rules : TextRules) (now : Timestamp) (a : PaymentAttempt)
    (t : ReversalAttestation) (l : ChargeLedger) :
    Except StoreError (ChargeLedger × ExternalReversalAttestationOutcome) :=
  match (Table.findBy ProcessorCharge.id t.chargeId l.charges).map
    (processorChargeFromRow rules) with
  | none => .ok (l, .notFound)
  | some c =>
    if !chargeDimensionsMatch a c then
      .error (.invalidState "operator review locator changed while locking")
    else
      match l.attestations.find? fun existing => existing.processorChargeId = t.chargeId with
      | some existing =>
        .ok (l, if t.replays (attestationFromRow rules existing) a c then .replayed
          else .replayConflict)
      | none =>
        if !processorChargeCanAttestExternalReversal c ||
            c.evidence.transactionId ≠ some t.expectedTransactionId then .ok (l, .ineligible)
        else (attestCharge now a t c l).map (·, .attested)

/-! ## Classification of pending charges -/

/-- Whether a charge is the one that the attempt's own evidence is about. -/
def sameCharge (a : PaymentAttempt) (c : ProcessorCharge) : Bool :=
  match a.evidence.transactionId, c.evidence.transactionId with
  | some tx, some tx' => tx = tx'
  | none, none => a.gatewayOrderId = c.gatewayOrderId && a.evidence = c.evidence
  | _, _ => false

/-- The codes of an attempt whose primary charge was reversed. -/
def PaymentResolutionCode.isExternalReversal : PaymentResolutionCode → Bool
  | .subscriptionInitialExternallyRefunded | .subscriptionInitialExternallyVoided
  | .processorChargeExternallyRefunded | .processorChargeExternallyVoided => true
  | _ => false

/-- The error of a reconciliation that finds an impossible state. -/
def invalidReconciliationState : StoreError :=
  .invalidState "canonical reconciliation state is invalid"

/-- `classify_pending_charge`. -/
def classifyPendingCharge (attestations : List ExternalReversalAttestation) (a : PaymentAttempt)
    (c : ProcessorCharge) :
    Except StoreError (ProcessorChargeProgression × Option ProcessorChargeStateCode) :=
  match c.evidence.transactionId with
  | none => .ok (.reconciliationRequired, some .transactionIdentityRequired)
  | some tx =>
    match attestations.find? fun t => t.attemptId = a.id ∧ t.gatewayTransactionId = tx with
    | some t =>
      if t.processorChargeId ≠ c.id then .error invalidReconciliationState
      else .ok (.externallyReversed, some (.paymentResolution t.finalResolutionCode))
    | none =>
      let terminalExternalReversal : Bool :=
        a.status = .failed && a.resolutionCode.any PaymentResolutionCode.isExternalReversal
      let initialGrantConflict : Bool :=
        a.kind = .subscriptionInitial &&
          a.resolutionCode = some .subscriptionInitialCurrentGrantConflict
      if 0 < a.amount.cents ∧ (c.role = .additional ∨ terminalExternalReversal ∨
          initialGrantConflict ∨ (a.evidence.transactionId.isSome ∧ ¬ sameCharge a c)) then
        .ok (.externalReversalRequired,
          some (if c.role = .additional then .additionalApprovedChargeIdentified
            else .externalReversalRequired))
      else if sameCharge a c ∧ a.status = .approved then .ok (.applied, none)
      else
        .ok (.reconciliationRequired,
          some (if c.role = .additional then .zeroAmountAdditionalApprovedCharge
            else .approvedChargeWaitingForApplication))

/-- `transition_pending_charge`. -/
def transitionPendingCharge (now : Timestamp) (chargeId : Id)
    (progression : ProcessorChargeProgression) (code : Option ProcessorChargeStateCode)
    (charges : List ProcessorCharge) : Except StoreError (List ProcessorCharge) :=
  if charges.any (·.transitionMatched chargeId [.pending] progression) then
    storeCharges (Table.updateWhere (·.transitionMatched chargeId [.pending] progression)
      (·.transitioned now progression (.replace code)) charges)
  else .error invalidReconciliationState

/-- One classification of `classify_pending_processor_charges`: a charge that is no longer pending
is skipped. -/
def classifyCharge (now : Timestamp) (a : PaymentAttempt) (chargeId : Id) (l : ChargeLedger) :
    Except StoreError ChargeLedger :=
  match l.charges.find? fun c => c.id = chargeId ∧ c.attemptId = a.id ∧
    c.progression = .pending with
  | none => .ok l
  | some c =>
    if !chargeDimensionsMatch a c then .error invalidReconciliationState
    else do
      let (progression, code) ← classifyPendingCharge l.attestations a c
      let charges ← transitionPendingCharge now chargeId progression code l.charges
      .ok { l with charges }

end SyrupRail
