import SyrupRail.Dunning.History
import SyrupRail.Gateway.FieldPattern
import SyrupRail.Store.Linkage
import SyrupRail.Store.Reversal

/-!
# Attestations of external reversals

An operator who has refunded or voided a charge outside the engine attests it, once, and may repeat
the call. A replay is recognised by comparing the stored attestation with the charge and the
attempt, and the first call has rewritten both: the charge carries the prior code as its state code,
and an open attempt of a primary charge has failed with the final code. The comparison still
succeeds because the prior code is found again on the charge, and because no final code is one of
the prior ones (`expectedPriorResolutionCode_attested`). The rows that decide whether the host
releases its target change as well, and give the same answer (`canReleaseHostTarget_attested`).

The texts are compared too. The first call loads the charge, with its texts sanitized once, and
stores these; the second one loads the attestation, and so sanitizes them twice. A call is replayed
exactly when that is no difference (`replays_attested_iff`), and is a conflict with itself
otherwise.
-/

namespace SyrupRail

open Transactions

/-! ## The host -/

/-- `ExternalReversalHostChargeRelease`. -/
structure ExternalReversalHostChargeRelease where
  billingScopeId : Id
  subscriberId : Id
  targetId : Id
  deriving DecidableEq, Repr

/-- `ExternalReversalHostTransitionOutcome`. -/
inductive ExternalReversalHostTransitionOutcome
  | changed | unchanged
  deriving DecidableEq, Repr

/-- `ExternalReversalHostStore`, over the host's own tables. -/
structure ExternalReversalHostStore (H : Type) where
  release : ExternalReversalHostChargeRelease → H →
    Except StoreError (H × ExternalReversalHostTransitionOutcome)

/-- A target that was released stays released: to release it again changes nothing. -/
def ExternalReversalHostStore.Idempotent {H : Type} (host : ExternalReversalHostStore H) : Prop :=
  ∀ r h h' outcome, host.release r h = .ok (h', outcome) → host.release r h' = .ok (h', .unchanged)

/-- `can_release_host_target`. -/
def canReleaseHostTarget (a : PaymentAttempt) (c : ProcessorCharge) : Bool :=
  a.kind = .hostCharge ∧ ((a.status = .declined ∨ a.status = .failed) ∨
    (c.role = .primary ∧ ¬ a.status.isTerminal))

/-- `release_host_target`. -/
def releaseHostTarget {H : Type} (host : ExternalReversalHostStore H) (a : PaymentAttempt) (h : H) :
    Except StoreError H :=
  match a.target with
  | .hostCharge targetId =>
    (host.release { billingScopeId := a.billingScopeId, subscriberId := a.subscriberId, targetId }
      h).map Prod.fst
  | _ => .error (.invalidState "host charge is missing exact target")

/-- The release of a target that the rows allow. -/
def releaseIfAllowed {H : Type} (host : ExternalReversalHostStore H) (a : PaymentAttempt)
    (c : ProcessorCharge) (h : H) : Except StoreError H :=
  if canReleaseHostTarget a c then releaseHostTarget host a h else .ok h

/-- `ExternalReversalAttestationOutcome`, with the rows that it carries. -/
inductive ExternalReversalAttestationAnswer
  | attested (attempt : PaymentAttempt) (attestation : ExternalReversalAttestation)
  | replayed (attempt : PaymentAttempt) (attestation : ExternalReversalAttestation)
  | notFound | ineligible | replayConflict
  deriving DecidableEq, Repr

/-- The attempt and the attestation that an answer carries, as they are loaded after the host has
released its target. -/
def attestedRows {H : Type} (rules : TextRules) (host : ExternalReversalHostStore H)
    (t : ReversalAttestation) (before : Db) (h : H) (after : Db) :
    Except StoreError (PaymentAttempt × ExternalReversalAttestation × H) := do
  match Table.findBy ProcessorCharge.id t.chargeId before.ledger.charges with
  | none => .error (.invalidState "operator review processor charge disappeared while locked")
  | some c =>
    let (locked, _) ← requireAttempt (.invalidState "locked operator review attempt is invalid")
      c.billingScopeId c.attemptId before
    let h ← releaseIfAllowed host locked c h
    let (attempt, _) ← requireAttempt (.invalidState "operator review attempt disappeared")
      c.billingScopeId c.attemptId after
    match after.ledger.attestations.find? fun s => s.processorChargeId = t.chargeId with
    | none => .error (.invalidState "external reversal attestation disappeared while locked")
    | some attestation => .ok (attempt.fromRow rules, attestationFromRow rules attestation, h)

/-- `attest_external_reversal`, with the host in the same transaction. The target is released by the
rows that were locked, also on a replay. -/
def attestExternalReversalWithHost {H : Type} (rules : TextRules)
    (host : ExternalReversalHostStore H) (now : Timestamp) (t : ReversalAttestation) :
    Tx (Db × H) StoreError ExternalReversalAttestationAnswer :=
  fun (db, h) => do
    let (outcome, db') ← attestReversal rules now t db
    match outcome with
    | .notFound => .ok (.notFound, db', h)
    | .ineligible => .ok (.ineligible, db', h)
    | .replayConflict => .ok (.replayConflict, db', h)
    | .attested =>
      let (attempt, attestation, h) ← attestedRows rules host t db h db'
      .ok (.attested attempt attestation, db', h)
    | .replayed =>
      let (attempt, attestation, h) ← attestedRows rules host t db h db'
      .ok (.replayed attempt attestation, db', h)

/-- `billing_external_reversal_attestations_resolution_check`. -/
def ExternalReversalAttestation.resolutionCheck (t : ExternalReversalAttestation) : Bool :=
  t.priorResolutionCode ∈ [.paymentResolution .subscriptionInitialCurrentGrantConflict,
      .externalReversalRequired, .paymentResolution .subscriptionApprovedPeriodExpired] ∧
    ((t.kind = .refund ∧ t.finalResolutionCode ∈
        [.subscriptionInitialExternallyRefunded, .processorChargeExternallyRefunded]) ∨
      (t.kind = .void ∧ t.finalResolutionCode ∈
        [.subscriptionInitialExternallyVoided, .processorChargeExternallyVoided]))

/-- The codes of an attestation pass the constraint. -/
theorem resolutionCheck_row (now : Timestamp) (t : ReversalAttestation) (a : PaymentAttempt)
    (c : ProcessorCharge) : (t.row now a c).resolutionCheck = true := by
  have hprior : expectedPriorResolutionCode a c ∈
      [.paymentResolution .subscriptionInitialCurrentGrantConflict, .externalReversalRequired,
        .paymentResolution .subscriptionApprovedPeriodExpired] := by
    simp only [expectedPriorResolutionCode]
    split_ifs <;> simp
  refine decide_eq_true ⟨hprior, ?_⟩
  show (t.kind = .refund ∧ expectedFinalResolutionCode a.kind t.kind ∈ _) ∨
    (t.kind = .void ∧ expectedFinalResolutionCode a.kind t.kind ∈ _)
  cases t.kind with
  | refund =>
    refine .inl ⟨rfl, ?_⟩
    cases a.kind <;> simp [expectedFinalResolutionCode]
  | void =>
    refine .inr ⟨rfl, ?_⟩
    cases a.kind <;> simp [expectedFinalResolutionCode]

/-! ## Calls on a charge and its attempt -/

section Calls

variable {rules : TextRules} {now : Timestamp} {db : Db} {t : ReversalAttestation}
  {a : PaymentAttempt} {c : ProcessorCharge}

/-- A charge of the ledger, with the attempt that it is of. -/
structure ChargeOf (db : Db) (a : PaymentAttempt) (c : ProcessorCharge) : Prop where
  charge : c ∈ db.ledger.charges
  attempt : a ∈ db.attempts
  dimensions : c.dimensions = a.chargeDimensions

/-- Every charge is of an attempt. -/
theorem Db.ChargesLinked.chargeOf (h : db.ChargesLinked) (hc : c ∈ db.ledger.charges) :
    ∃ a, ChargeOf db a c := by
  obtain ⟨a, ha, hdimensions⟩ := List.mem_map.mp (h.dimensions c hc)
  exact ⟨a, hc, ha, hdimensions.symm⟩

/-- The charge is found by its identity. -/
theorem ChargeOf.find_charge (h : ChargeOf db a c) (hvalid : db.Valid) :
    Table.findBy ProcessorCharge.id c.id db.ledger.charges = some c :=
  Table.find?_eq_some_of_unique h.charge (by simp) fun _ hb hp =>
    hvalid.charges.eq_of_id hb h.charge (of_decide_eq_true hp)

/-- The attempt is found by the columns of the charge. -/
theorem ChargeOf.find_attempt (h : ChargeOf db a c) (hvalid : db.Valid) :
    findPaymentAttemptById db.attempts c.billingScopeId c.attemptId = .ok (some a) := by
  have hscope : c.billingScopeId = a.billingScopeId :=
    congrArg ChargeDimensions.billingScopeId h.dimensions
  have hid : c.attemptId = a.id := congrArg ChargeDimensions.attemptId h.dimensions
  rw [hscope, hid]
  exact findPaymentAttemptById_eq hvalid.attempts h.attempt (hvalid.rows a h.attempt)

/-- The attempt of a charge is loaded. -/
theorem ChargeOf.requireAttempt_eq (h : ChargeOf db a c) (hvalid : db.Valid) (e : StoreError) :
    requireAttempt e c.billingScopeId c.attemptId db = .ok (a, db) := by
  simp only [requireAttempt, bind, StateT.bind, Tx.read, h.find_attempt hvalid, Except.map,
    Except.bind, pure, Tx.pure_run]

/-- A call that leaves the ledger leaves everything. -/
theorem ChargeOf.attestReversal_eq {outcome : ExternalReversalAttestationOutcome}
    (h : ChargeOf db a c) (hvalid : db.Valid) (hid : t.chargeId = c.id)
    (hledger : attestExternalReversal rules now a t db.ledger = .ok (db.ledger, outcome))
    (hne : outcome ≠ .attested) : attestReversal rules now t db = .ok (outcome, db) := by
  have hfind : Table.findBy ProcessorCharge.id t.chargeId db.ledger.charges = some c := by
    rw [hid]
    exact h.find_charge hvalid
  simp only [attestReversal, bind, StateT.bind, get, getThe, MonadStateOf.get, StateT.get, pure,
    Except.pure, Except.bind, hfind, Tx.read, h.find_attempt hvalid, Except.map, onLedger,
      Tx.statement,
    hledger, hne, false_and, if_false, Tx.pure_run]

/-- A call on a charge that was attested is a replay or a conflict. -/
theorem ChargeOf.attestReversal_of_existing {s : ExternalReversalAttestation} (h : ChargeOf db a c)
    (hvalid : db.Valid) (hid : t.chargeId = c.id)
    (hexisting : db.ledger.attestations.find? (·.processorChargeId = t.chargeId) = some s) :
    attestReversal rules now t db =
      .ok
        (if t.replays (attestationFromRow rules s) a (processorChargeFromRow rules c) then .replayed
        else .replayConflict, db) := by
  refine h.attestReversal_eq hvalid hid ?_ (by split_ifs <;> nofun)
  have hfind : Table.findBy ProcessorCharge.id t.chargeId db.ledger.charges = some c := by
    rw [hid]
    exact h.find_charge hvalid
  have hmatch : chargeDimensionsMatch a (processorChargeFromRow rules c) = true :=
    chargeDimensionsMatch_iff.mpr h.dimensions
  simp only [attestExternalReversal, hfind, Option.map_some, hmatch, Bool.not_true,
    Bool.false_eq_true, if_false, hexisting]

/-- A call on a charge that may not be attested. -/
theorem ChargeOf.attestReversal_of_ineligible (h : ChargeOf db a c) (hvalid : db.Valid)
    (hid : t.chargeId = c.id) (hfirst : ∀ s ∈ db.ledger.attestations, s.processorChargeId ≠ c.id)
    (hineligible : processorChargeCanAttestExternalReversal c = false ∨
      c.evidence.transactionId ≠ some t.expectedTransactionId) :
    attestReversal rules now t db = .ok (.ineligible, db) := by
  refine h.attestReversal_eq hvalid hid ?_ nofun
  have hfind : Table.findBy ProcessorCharge.id t.chargeId db.ledger.charges = some c := by
    rw [hid]
    exact h.find_charge hvalid
  have hmatch : chargeDimensionsMatch a (processorChargeFromRow rules c) = true :=
    chargeDimensionsMatch_iff.mpr h.dimensions
  have hnone : db.ledger.attestations.find? (fun s => s.processorChargeId = t.chargeId) = none := by
    rw [List.find?_eq_none]
    intro s hs
    rw [hid]
    simpa using hfirst s hs
  have hcondition : (!processorChargeCanAttestExternalReversal (processorChargeFromRow rules c) ||
      decide ((processorChargeFromRow rules c).evidence.transactionId ≠
        some t.expectedTransactionId)) = true := by
    rcases hineligible with hcannot | htx
    · have hloaded : processorChargeCanAttestExternalReversal (processorChargeFromRow rules c) =
        false := hcannot
      rw [hloaded]
      rfl
    · simp [processorChargeFromRow, htx]
  simp only [attestExternalReversal, hfind, Option.map_some, hmatch, Bool.not_true,
    Bool.false_eq_true, if_false, hnone]
  rw [if_pos hcondition]

end Calls

/-! ## The first call -/

/-- What the first call writes on the attempts: an open attempt of a primary charge fails with the
final code. -/
structure AttemptReversed (now : Timestamp) (code : PaymentResolutionCode) (c : ProcessorCharge)
    (a a' : PaymentAttempt) (attempts attempts' : List PaymentAttempt) : Prop where
  same : a.SameRequest a'
  failed : c.role = .primary → a.status.isTerminal = false →
    a'.status = .failed ∧ a'.resolutionCode = some code
  kept : c.role ≠ .primary ∨ a.status.isTerminal = true → a' = a
  rows : attempts' = Table.updateWhere (·.id = a.id) (fun _ => a') attempts

/-- The writer of the reversal. -/
theorem attest_write_eq_ok {now : Timestamp} {code : PaymentResolutionCode} {a a' : PaymentAttempt}
    (h : (AttemptWriter.attest code).write now a = .ok a') :
    a.SameRequest a' ∧
      (a.status.isTerminal = false → a'.status = .failed ∧ a'.resolutionCode = some code) ∧
      (a.status.isTerminal = true → a' = a) := by
  simp only [AttemptWriter.write, failReversedAttempt] at h
  split_ifs at h with hterminal
  · obtain rfl := Except.ok.inj h
    refine ⟨rfl, fun hopen => ?_, fun _ => rfl⟩
    rw [hterminal] at hopen
    cases hopen
  · obtain ⟨-, -, r, rfl⟩ := PaymentAttempt.update_eq_some (requireOneRow_eq_ok h)
    exact ⟨rfl, fun _ => ⟨rfl, rfl⟩, fun h => absurd h hterminal⟩

/-- What the first call writes. -/
theorem ensures_attestReversal_attested {rules : TextRules} {now : Timestamp} {db : Db}
    {t : ReversalAttestation} (hvalid : db.Valid) :
    Tx.Ensures (attestReversal rules now t) db fun outcome db' => outcome = .attested →
      ∃ a c a', a ∈ db.attempts ∧ Attests rules now a t c db.ledger db'.ledger ∧
        AttemptReversed now (expectedFinalResolutionCode a.kind t.kind) c a a' db.attempts
          db'.attempts ∧
        db' = { db with attempts := db'.attempts, ledger := db'.ledger } := by
  rw [attestReversal, Tx.ensures_bind, Tx.ensures_get]
  split
  · exact Tx.ensures_pure.mpr (by simp)
  · rename_i c hfind
    rw [Tx.ensures_bind, Tx.ensures_read]
    intro found hfound
    cases found with
    | none => exact Tx.ensures_pure.mpr (by simp)
    | some a =>
      obtain ⟨ha, -, -⟩ := findPaymentAttemptById_eq_some hfound
      rw [Tx.ensures_bind, ensures_onLedger]
      intro ledger outcome hattest
      have attests (hattested : outcome = .attested) :
          Attests rules now a t c db.ledger ledger := by
        rcases attestExternalReversal_eq_ok hattest with ⟨hne, -⟩ | ⟨-, c', hc'⟩
        · exact absurd hattested hne
        · obtain ⟨hc, hid⟩ := Table.findBy_some hfind
          rwa [← hvalid.charges.eq_of_id hc'.mem hc (hc'.id.trans hid.symm)]
      rw [Tx.ensures_ite]
      -- Only the primary charge of an attempt fails it; with any other one the attempt stays.
      refine ⟨fun hprimary => ?_, fun hne => Tx.ensures_pure.mpr fun hattested => ?_⟩
      · obtain ⟨hattested, hrole⟩ := hprimary
        rw [Tx.ensures_bind, ensures_onAttempts]
        intro attempts hwrite
        refine Tx.ensures_pure.mpr fun _ => ?_
        obtain ⟨b, hb, hid, a', hw, hrows, -⟩ := writeAttempt_eq_ok hwrite
        obtain rfl := nodup_id_of_attemptIndexes hvalid.attempts hb ha hid
        obtain ⟨hsame, hfailed, hkept⟩ := attest_write_eq_ok hw
        exact ⟨b, c, a', ha, attests hattested, ⟨hsame, fun _ => hfailed,
          fun h => hkept (h.resolve_left fun hne => hne hrole), hrows⟩, rfl⟩
      · have hrole : c.role ≠ .primary := fun hrole => hne ⟨hattested, hrole⟩
        refine ⟨a, c, a, ha, attests hattested,
          ⟨rfl, fun h => absurd h hrole, fun _ => rfl, ?_⟩, rfl⟩
        refine (Table.updateWhere_eq_self fun b hb hp => ?_).symm
        exact nodup_id_of_attemptIndexes hvalid.attempts ha hb (of_decide_eq_true hp).symm

/-! ## Replays -/

section Replays

variable {rules : TextRules} {now : Timestamp} {db db' : Db} {t : ReversalAttestation}
  {a a' : PaymentAttempt} {c : ProcessorCharge} {attempts attempts' : List PaymentAttempt}

/-- A final code is one of an external reversal. -/
theorem isExternalReversal_expectedFinalResolutionCode (attemptKind : PaymentAttemptKind)
    (kind : ExternalReversalKind) :
    (expectedFinalResolutionCode attemptKind kind).isExternalReversal = true := by
  cases attemptKind <;> cases kind <;> rfl

/-- A final code is no prior one: an attempt that has the code of a conflict or of an expired period
after the call had it before. -/
theorem AttemptReversed.resolutionCode {kind : ExternalReversalKind} {code : PaymentResolutionCode}
    (h : AttemptReversed now (expectedFinalResolutionCode a.kind kind) c a a' attempts attempts')
    (hprior : code.isExternalReversal = false) (hcode : a'.resolutionCode = some code) :
    a.resolutionCode = some code := by
  by_cases hkept : c.role ≠ .primary ∨ a.status.isTerminal = true
  · rwa [← h.kept hkept]
  · obtain ⟨hrole, hopen⟩ := not_or.mp hkept
    have hfinal := (h.failed (not_not.mp hrole) (by simpa using hopen)).2
    rw [hfinal] at hcode
    rw [← Option.some.inj hcode, isExternalReversal_expectedFinalResolutionCode] at hprior
    cases hprior

/-- The rows that the first call leaves have the prior code that it stored. -/
theorem expectedPriorResolutionCode_attested {kind : ExternalReversalKind}
    (h : AttemptReversed now (expectedFinalResolutionCode a.kind kind) c a a' attempts attempts') :
    expectedPriorResolutionCode a' (c.reversed now (expectedPriorResolutionCode a c)) =
      expectedPriorResolutionCode a c := by
  have hconflict : a'.resolutionCode = some .subscriptionInitialCurrentGrantConflict →
      a.resolutionCode = some .subscriptionInitialCurrentGrantConflict := h.resolutionCode rfl
  have hexpired : a'.resolutionCode = some .subscriptionApprovedPeriodExpired →
      a.resolutionCode = some .subscriptionApprovedPeriodExpired := h.resolutionCode rfl
  -- Each branch of the first call is the branch of the second, by the state code or by the attempt.
  unfold expectedPriorResolutionCode
  simp only [ProcessorCharge.reversed, decide_eq_true_eq]
  split_ifs <;> simp_all

/-- The host releases its target on a replay exactly when it did on the first call. -/
theorem canReleaseHostTarget_attested {code : PaymentResolutionCode}
    {prior : ProcessorChargeStateCode} (h : AttemptReversed now code c a a' attempts attempts') :
    canReleaseHostTarget a' (c.reversed now prior) = canReleaseHostTarget a c := by
  by_cases hkept : c.role ≠ .primary ∨ a.status.isTerminal = true
  · rw [h.kept hkept]
    rfl
  · obtain ⟨hrole, hopen⟩ := not_or.mp hkept
    have hfailed := (h.failed (not_not.mp hrole) (by simpa using hopen)).1
    have hresolvable : a.status.isResolvable = true := by simpa using hopen
    simp [canReleaseHostTarget, h.same.kind, hfailed, not_not.mp hrole, hresolvable]

/-- The release of the same target. -/
theorem releaseHostTarget_attested {H : Type} {host : ExternalReversalHostStore H} {h : H}
    (hsame : a.SameRequest a') : releaseHostTarget host a' h = releaseHostTarget host a h := by
  have hrequest : a'.request = a.request := hsame
  simp only [PaymentAttempt.request, AttemptRequest.mk.injEq] at hrequest
  simp only [releaseHostTarget, hsame.target, hrequest]

/-- A target that was released on the first call is released again without a change. -/
theorem releaseIfAllowed_attested {H : Type} {host : ExternalReversalHostStore H}
    (hhost : host.Idempotent) {code : PaymentResolutionCode} {prior : ProcessorChargeStateCode}
    {h h' : H} (hrow : AttemptReversed now code c a a' attempts attempts')
    (hrelease : releaseIfAllowed host a c h = .ok h') :
    releaseIfAllowed host a' (c.reversed now prior) h' = .ok h' := by
  rw [releaseIfAllowed, canReleaseHostTarget_attested hrow, releaseHostTarget_attested hrow.same]
  unfold releaseIfAllowed at hrelease
  split_ifs at hrelease ⊢ with hallowed
  · unfold releaseHostTarget at hrelease ⊢
    split at hrelease
    · obtain ⟨⟨h₁, outcome⟩, hreleased, rfl⟩ := map_eq_ok.mp hrelease
      rw [hhost _ _ _ _ hreleased]
      rfl
    · cases hrelease
  · rfl

/-- The attestation that the first call stores, as it is loaded. -/
def storedAttestation (rules : TextRules) (now : Timestamp) (t : ReversalAttestation)
    (a : PaymentAttempt) (c : ProcessorCharge) : ExternalReversalAttestation :=
  t.row now a (processorChargeFromRow rules c)

/-- The identical call is a replay of the first one exactly when the texts that it stored are loaded
as they are. -/
theorem replays_attested_iff (hattests : Attests rules now a t c db.ledger db'.ledger)
    (hrow : AttemptReversed now (expectedFinalResolutionCode a.kind t.kind) c a a' db.attempts
      db'.attempts) :
    t.replays (attestationFromRow rules (storedAttestation rules now t a c)) a'
        (processorChargeFromRow rules (c.reversed now (expectedPriorResolutionCode a c))) = true ↔
      c.evidence.Settled rules := by
  have hrequest : a'.request = a.request := hrow.same
  simp only [PaymentAttempt.request, AttemptRequest.mk.injEq] at hrequest
  constructor
  · intro hreplays
    obtain ⟨-, -, -, -, -, hsource⟩ := of_decide_eq_true hreplays
    obtain ⟨-, -, -, -, -, -, -, hevidence, -⟩ := of_decide_eq_true hsource
    exact hevidence
  · intro hsettled
    refine decide_eq_true ⟨rfl, rfl, rfl, rfl, rfl, decide_eq_true ?_⟩
    refine ⟨rfl, hrow.same.id.symm, ?_, ?_, ?_, rfl, hattests.transaction.symm, hsettled,
      (expectedPriorResolutionCode_attested hrow).symm, ?_⟩
    · simp [attestationFromRow, storedAttestation, ReversalAttestation.row, hrequest]
    · simp [attestationFromRow, storedAttestation, ReversalAttestation.row, hrequest]
    · simp [attestationFromRow, storedAttestation, ReversalAttestation.row, hrequest]
    · simp [attestationFromRow, storedAttestation, ReversalAttestation.row, hrow.same.kind]

/-- Any other call on the charge is a conflict. -/
theorem replays_eq_false {t' : ReversalAttestation} {c' : ProcessorCharge}
    (hcharge : t'.chargeId = t.chargeId) (hne : t' ≠ t) :
    t'.replays (attestationFromRow rules (storedAttestation rules now t a c)) a' c' = false := by
  rw [← Bool.not_eq_true]
  intro hreplays
  obtain ⟨hactor, hkind, hreason, htx, -⟩ := of_decide_eq_true hreplays
  refine hne ?_
  cases t
  cases t'
  simp_all [attestationFromRow, storedAttestation, ReversalAttestation.row]

end Replays

/-! ## Exactly once -/

/-- What a first call leaves: the charge is reversed, an open attempt of a primary charge has
failed, a terminal one is untouched, and the attestation is the only one of the charge. -/
structure ReversalAttested (rules : TextRules) (now : Timestamp) (t : ReversalAttestation)
    (db db' : Db) (a : PaymentAttempt) (c : ProcessorCharge) (attempt : PaymentAttempt)
    (attestation : ExternalReversalAttestation) : Prop where
  chargeOf : ChargeOf db a c
  id : c.id = t.chargeId
  required : c.progression = .externalReversalRequired
  reversed : c.reversed now attestation.priorResolutionCode ∈ db'.ledger.charges
  others : ∀ c' ∈ db.ledger.charges, c'.id ≠ t.chargeId → c' ∈ db'.ledger.charges
  stored : attempt ∈ db'.attempts ∧ a.SameRequest attempt
  failed : c.role = .primary → a.status.isTerminal = false → attempt.status = .failed ∧
    attempt.resolutionCode = some (expectedFinalResolutionCode a.kind t.kind)
  untouched : c.role ≠ .primary ∨ a.status.isTerminal = true →
    attempt = a ∧ db'.attempts = db.attempts
  codes : attestation = storedAttestation rules now t a c ∧ attestation.resolutionCheck = true
  once : db'.ledger.attestations.filter (·.processorChargeId = t.chargeId) = [attestation]
  frame : db' = { db with attempts := db'.attempts, ledger := db'.ledger }

section ExactlyOnce

variable {H : Type} {rules : TextRules} {host : ExternalReversalHostStore H} {now : Timestamp}
  {db db' : Db} {h h' : H} {t : ReversalAttestation} {a a' : PaymentAttempt} {c : ProcessorCharge}

/-- The rows of an answer, from the charge and the attempt before and after it. -/
theorem attestedRows_eq {s : ExternalReversalAttestation} (hvalid : db.Valid) (hvalid' : db'.Valid)
    (hof : ChargeOf db a c) (hid : c.id = t.chargeId) {c' : ProcessorCharge}
    (hof' : ChargeOf db' a' c') (hsame : c'.dimensions = c.dimensions)
    (hexisting : db'.ledger.attestations.find? (·.processorChargeId = t.chargeId) = some s) :
    attestedRows rules host t db h db' =
      (releaseIfAllowed host a c h).map fun h' =>
        (a'.fromRow rules, attestationFromRow rules s, h') := by
  have hfind : Table.findBy ProcessorCharge.id t.chargeId db.ledger.charges = some c := by
    rw [← hid]
    exact hof.find_charge hvalid
  have hscope : c.billingScopeId = c'.billingScopeId :=
    congrArg ChargeDimensions.billingScopeId hsame.symm
  have hattempt : c.attemptId = c'.attemptId := congrArg ChargeDimensions.attemptId hsame.symm
  have hafter (e : StoreError) : requireAttempt e c.billingScopeId c.attemptId db' =
      .ok (a', db') := by
    rw [hscope, hattempt]
    exact hof'.requireAttempt_eq hvalid' e
  unfold attestedRows
  rw [hfind]
  simp only [hof.requireAttempt_eq hvalid, bind, Except.bind]
  cases releaseIfAllowed host a c h with
  | error e => rfl
  | ok h₁ =>
    simp only [hafter, hexisting]
    rfl

/-- The attested charge, with its attempt, after the first call. -/
theorem Attests.chargeOf (hattests : Attests rules now a t c db.ledger db'.ledger)
    (ha : a ∈ db.attempts)
    (hrow : AttemptReversed now (expectedFinalResolutionCode a.kind t.kind) c a a' db.attempts
      db'.attempts) :
    ChargeOf db' a' (c.reversed now (expectedPriorResolutionCode a c)) := by
  obtain ⟨hcharges, -⟩ := chargesValid_of_storeCharges hattests.store
  refine ⟨?_, ?_, ?_⟩
  · rw [hcharges]
    exact Table.mem_updateWhere.mpr ⟨c, hattests.mem, by simp [hattests.id, hattests.required]⟩
  · rw [hrow.rows]
    exact Table.mem_updateWhere.mpr ⟨a, ha, by simp⟩
  · rw [hrow.same.chargeDimensions]
    exact hattests.dimensions

/-- The attestation of the charge is the new one. -/
theorem Attests.find_attestation (hattests : Attests rules now a t c db.ledger db'.ledger) :
    db'.ledger.attestations.find? (·.processorChargeId = t.chargeId) =
      some (storedAttestation rules now t a c) := by
  rw [hattests.attestations]
  exact List.find?_cons_of_pos (decide_eq_true hattests.id)

/-- The call with its host, when the engine's part has attested the charge. -/
theorem attest_eq_attested {attempt : PaymentAttempt} {attestation : ExternalReversalAttestation}
    (hvalid : db.Valid)
    (hcall : attestExternalReversalWithHost rules host now t (db, h) =
      .ok (.attested attempt attestation, (db', h'))) :
    ∃ a c row, a ∈ db.attempts ∧ Attests rules now a t c db.ledger db'.ledger ∧
      AttemptReversed now (expectedFinalResolutionCode a.kind t.kind) c a row db.attempts
        db'.attempts ∧
      db' = { db with attempts := db'.attempts, ledger := db'.ledger } ∧ db'.Valid ∧
      attempt = row.fromRow rules ∧
      attestation = attestationFromRow rules (storedAttestation rules now t a c) ∧
      releaseIfAllowed host a c h = .ok h' := by
  obtain ⟨⟨outcome, db₁⟩, hengine, hcall⟩ := bind_eq_ok.mp hcall
  cases outcome with
  | notFound => cases hcall
  | ineligible => cases hcall
  | replayConflict => cases hcall
  | replayed =>
    obtain ⟨⟨_, _, _⟩, -, hcall⟩ := bind_eq_ok.mp hcall
    cases hcall
  | attested =>
    obtain ⟨⟨attempt₁, attestation₁, h₁⟩, hrows, hcall⟩ := bind_eq_ok.mp hcall
    cases hcall
    obtain ⟨a, c, a', ha, hattests, hrow, hframe⟩ :=
      ensures_attestReversal_attested hvalid _ _ hengine rfl
    have hquiet : Quiet now db db' := ensures_attestReversal hvalid.attempts _ _ hengine
    have hvalid' := hquiet.valid hvalid
    have hof : ChargeOf db a c := ⟨hattests.mem, ha, hattests.dimensions⟩
    rw [attestedRows_eq hvalid hvalid' hof hattests.id (hattests.chargeOf ha hrow) rfl
      hattests.find_attestation] at hrows
    obtain ⟨h₂, hrelease, hpair⟩ := map_eq_ok.mp hrows
    cases hpair
    exact ⟨a, c, a', ha, hattests, hrow, hframe, hvalid', rfl, rfl, hrelease⟩

/-- The first call leaves what it should. -/
theorem Attests.reversalAttested (hvalid : db.Valid) (ha : a ∈ db.attempts)
    (hattests : Attests rules now a t c db.ledger db'.ledger)
    (hrow : AttemptReversed now (expectedFinalResolutionCode a.kind t.kind) c a a' db.attempts
      db'.attempts)
    (hframe : db' = { db with attempts := db'.attempts, ledger := db'.ledger }) :
    ReversalAttested rules now t db db' a c a' (storedAttestation rules now t a c) := by
  have hof' := hattests.chargeOf ha hrow
  refine ⟨⟨hattests.mem, ha, hattests.dimensions⟩, hattests.id, hattests.required, hof'.charge, ?_,
    ⟨hof'.attempt, hrow.same⟩, hrow.failed, fun hkept => ⟨hrow.kept hkept, ?_⟩,
    ⟨rfl, resolutionCheck_row now t a (processorChargeFromRow rules c)⟩, ?_, hframe⟩
  · intro c' hc' hne
    obtain ⟨hcharges, -⟩ := chargesValid_of_storeCharges hattests.store
    rw [hcharges]
    exact mem_updateWhere_of_not hc' (by simp [hne])
  · rw [hrow.rows, hrow.kept hkept]
    refine Table.updateWhere_eq_self fun b hb hp => ?_
    exact nodup_id_of_attemptIndexes hvalid.attempts ha hb (of_decide_eq_true hp).symm
  · have hother : db.ledger.attestations.filter (·.processorChargeId = t.chargeId) = [] := by
      rw [List.filter_eq_nil_iff]
      intro s hs
      simpa using hattests.first s hs
    rw [hattests.attestations, List.filter_cons, hother]
    simp [storedAttestation, ReversalAttestation.row, processorChargeFromRow, hattests.id]

/-- The engine's part of a call that repeats the first one. -/
theorem Attests.attestReversal_again (hvalid' : db'.Valid) (ha : a ∈ db.attempts)
    (hattests : Attests rules now a t c db.ledger db'.ledger)
    (hrow : AttemptReversed now (expectedFinalResolutionCode a.kind t.kind) c a a' db.attempts
      db'.attempts) (now' : Timestamp) :
    attestReversal rules now' t db' =
      .ok (if c.evidence.Settled rules then .replayed else .replayConflict, db') := by
  have hof' := hattests.chargeOf ha hrow
  have hid : t.chargeId = (c.reversed now (expectedPriorResolutionCode a c)).id := hattests.id.symm
  rw [hof'.attestReversal_of_existing hvalid' hid hattests.find_attestation]
  simp only [replays_attested_iff hattests hrow]

/-- A call that repeats the first one changes nothing, and is a replay when the texts are
settled. -/
theorem Attests.replayed (hhost : host.Idempotent) (hvalid' : db'.Valid) (ha : a ∈ db.attempts)
    (hattests : Attests rules now a t c db.ledger db'.ledger)
    (hrow : AttemptReversed now (expectedFinalResolutionCode a.kind t.kind) c a a' db.attempts
      db'.attempts)
    (hrelease : releaseIfAllowed host a c h = .ok h') (hsettled : c.evidence.Settled rules)
    (now' : Timestamp) :
    attestExternalReversalWithHost rules host now' t (db', h') =
      .ok
        (.replayed (a'.fromRow rules)
          (attestationFromRow rules (storedAttestation rules now t a c)), (db', h')) := by
  have hof' := hattests.chargeOf ha hrow
  have hid : t.chargeId = (c.reversed now (expectedPriorResolutionCode a c)).id := hattests.id.symm
  have hengine := hattests.attestReversal_again hvalid' ha hrow now'
  rw [if_pos hsettled] at hengine
  have hrows : attestedRows rules host t db' h' db' =
      .ok (a'.fromRow rules, attestationFromRow rules (storedAttestation rules now t a c), h') := by
    rw [attestedRows_eq hvalid' hvalid' hof' hid.symm hof' rfl hattests.find_attestation,
      releaseIfAllowed_attested hhost hrow hrelease]
    rfl
  simp only [attestExternalReversalWithHost, hengine, bind, Except.bind, hrows]

/-- A call that repeats the first one is a conflict when the texts are not settled. -/
theorem Attests.refused (hvalid' : db'.Valid) (ha : a ∈ db.attempts)
    (hattests : Attests rules now a t c db.ledger db'.ledger)
    (hrow : AttemptReversed now (expectedFinalResolutionCode a.kind t.kind) c a a' db.attempts
      db'.attempts) (hsettled : ¬ c.evidence.Settled rules) (now' : Timestamp) :
    attestExternalReversalWithHost rules host now' t (db', h') =
      .ok (.replayConflict, (db', h')) := by
  have hengine := hattests.attestReversal_again hvalid' ha hrow now'
  rw [if_neg hsettled] at hengine
  simp only [attestExternalReversalWithHost, hengine, bind, Except.bind]

/-- Any other call on the charge changes nothing. -/
theorem Attests.conflict (hvalid' : db'.Valid) (ha : a ∈ db.attempts)
    (hattests : Attests rules now a t c db.ledger db'.ledger)
    (hrow : AttemptReversed now (expectedFinalResolutionCode a.kind t.kind) c a a' db.attempts
      db'.attempts) {t' : ReversalAttestation} (hcharge : t'.chargeId = t.chargeId) (hne : t' ≠ t)
    (now' : Timestamp) :
    attestExternalReversalWithHost rules host now' t' (db', h') =
      .ok (.replayConflict, (db', h')) := by
  have hof' := hattests.chargeOf ha hrow
  have hid : t'.chargeId = (c.reversed now (expectedPriorResolutionCode a c)).id :=
    hcharge.trans hattests.id.symm
  have hexisting : db'.ledger.attestations.find? (·.processorChargeId = t'.chargeId) =
      some (storedAttestation rules now t a c) := by
    rw [hcharge]
    exact hattests.find_attestation
  have hengine : attestReversal rules now' t' db' = .ok (.replayConflict, db') := by
    rw [hof'.attestReversal_of_existing hvalid' hid hexisting, replays_eq_false hcharge hne]
    rfl
  simp only [attestExternalReversalWithHost, hengine, bind, Except.bind]

/-- A call that leaves the tables and answers always the same does so any number of times. -/
theorem mapM_attest_eq {answer : ExternalReversalAttestationAnswer} {s : Db × H}
    (hcall : ∀ now, attestExternalReversalWithHost rules host now t s = .ok (answer, s))
    (times : List Timestamp) :
    (times.mapM fun now => attestExternalReversalWithHost rules host now t) s =
      .ok (times.map fun _ => answer, s) := by
  induction times with
  | nil => rfl
  | cons now times ih =>
    rw [List.mapM_cons]
    simp only [bind, StateT.bind, hcall now, Except.bind, ih, pure, Tx.pure_run,
      List.map_cons]

end ExactlyOnce

/-- Attestation is exactly-once, and replayable as far as the sanitizer allows, in every reachable
store. A call that attests a charge reverses it, fails the open attempt of a primary charge, and
leaves one attestation of it with codes that pass the constraint. From then on the identical call
changes nothing, at any times and any number of times, and it answers with a replay exactly when the
texts of the charge, once loaded, are loaded again as they are; otherwise it is a conflict. Every
other call on the charge is a conflict that changes nothing, whatever its host. A charge without an
attestation that is not eligible, or whose transaction is another one, is left as it is. -/
theorem attestation_exactly_once {H : Type} {store : Db} (hfresh : store.Fresh)
    (steps : List (ℕ × Op)) (rules : TextRules) (host : ExternalReversalHostStore H)
    (hhost : host.Idempotent) (now : Timestamp) (t : ReversalAttestation) (h : H) :
    (∀ attempt attestation db' h',
      attestExternalReversalWithHost rules host now t (run execStore store steps, h) =
        .ok (.attested attempt attestation, (db', h')) →
      ∃ a c row stored,
        ReversalAttested rules now t (run execStore store steps) db' a c row stored ∧
        attempt = row.fromRow rules ∧ attestation = attestationFromRow rules stored ∧
        ((∀ times : List Timestamp,
            (times.mapM fun now' => attestExternalReversalWithHost rules host now' t) (db', h') =
              .ok (times.map fun _ => .replayed attempt attestation, (db', h'))) ↔
          c.evidence.Settled rules) ∧
        (¬ c.evidence.Settled rules → ∀ times : List Timestamp,
          (times.mapM fun now' => attestExternalReversalWithHost rules host now' t) (db', h') =
            .ok (times.map fun _ => .replayConflict, (db', h'))) ∧
        ∀ (host' : ExternalReversalHostStore H) (now' : Timestamp) (t' : ReversalAttestation),
          t'.chargeId = t.chargeId → t' ≠ t →
          attestExternalReversalWithHost rules host' now' t' (db', h') =
            .ok (.replayConflict, (db', h'))) ∧
    ∀ c ∈ (run execStore store steps).ledger.charges, t.chargeId = c.id →
      (∀ s ∈ (run execStore store steps).ledger.attestations, s.processorChargeId ≠ c.id) →
      (processorChargeCanAttestExternalReversal c = false ∨
        c.evidence.transactionId ≠ some t.expectedTransactionId) →
      attestExternalReversalWithHost rules host now t (run execStore store steps, h) =
        .ok (.ineligible, (run execStore store steps, h)) := by
  obtain ⟨hvalid, hlinked, -⟩ := Db.law_chargesLinked.holds hfresh steps
  generalize run execStore store steps = db at hvalid hlinked
  constructor
  · intro attempt attestation db' h' hcall
    obtain ⟨a, c, row, ha, hattests, hrow, hframe, hvalid', rfl, rfl, hrelease⟩ :=
      attest_eq_attested hvalid hcall
    -- A later call loads the texts of the charge as the first one did, and those of the attestation
    -- once more than that.
    have hrefused (hsettled : ¬ c.evidence.Settled rules) (times : List Timestamp) :
        (times.mapM fun now' => attestExternalReversalWithHost rules host now' t) (db', h') =
          .ok (times.map fun _ => .replayConflict, (db', h')) :=
      mapM_attest_eq (hattests.refused hvalid' ha hrow hsettled) times
    refine ⟨a, c, row, _, hattests.reversalAttested hvalid ha hrow hframe, rfl, rfl,
      ⟨fun hreplayed => ?_, fun hsettled => ?_⟩, hrefused,
      fun host' now' t' hcharge hne => hattests.conflict hvalid' ha hrow hcharge hne now'⟩
    · -- One more call tells a replay from a conflict.
      by_contra hsettled
      have hanswers := (hreplayed [now]).symm.trans (hrefused hsettled [now])
      simp at hanswers
    · exact mapM_attest_eq (hattests.replayed hhost hvalid' ha hrow hrelease hsettled)
  · intro c hc hid hfirst hineligible
    obtain ⟨a, hof⟩ := hlinked.chargeOf hc
    have hengine : attestReversal rules now t db = .ok (.ineligible, db) :=
      hof.attestReversal_of_ineligible hvalid hid hfirst hineligible
    simp only [attestExternalReversalWithHost, hengine, bind, Except.bind]

/-- A host whose only target is released once. -/
def releasingHost : ExternalReversalHostStore Bool where
  release _ released := .ok (true, if released then .unchanged else .changed)

/-- To release its target again changes nothing. -/
theorem releasingHost_idempotent : releasingHost.Idempotent := by
  intro r h h' outcome hrelease
  obtain ⟨rfl, -⟩ := Prod.mk.inj (Except.ok.inj hrelease)
  rfl

/-- A late approval with this text, of an enrollment that was declined. -/
def lateEnrollment (text : String) : List (ℕ × Op) :=
  [(0, .reserveOther (enrollmentAttempt none)), (0, .admitEnrollment 1 1),
    (0, .resolve 1 (.initial enrollmentReservation) {} .declined),
    (0, .applyApproved ⟨1, 1, 1⟩ true .disabled (.initial enrollmentReservation)
      { approvedEvidence "tx-1" with responseText := some text })]

/-- The operator refunds it. -/
def lateEnrollmentRefund : ReversalAttestation := ⟨1, 7, .refund, "tx-1", "refunded by hand"⟩

/-- The refund of a declined enrollment whose approval arrived late is attested, and replayed
twice. -/
theorem attestation_exactly_once_refund :
    let db := run execStore accountStore (lateEnrollment "Approved")
    ∃ attempt attestation s,
      attestExternalReversalWithHost .ascii releasingHost 5 lateEnrollmentRefund (db, false) =
        .ok (.attested attempt attestation, s) ∧
      ([6, 7].mapM fun now =>
          attestExternalReversalWithHost .ascii releasingHost now lateEnrollmentRefund) s =
        .ok ([.replayed attempt attestation, .replayed attempt attestation], s) := by
  intro db
  have hattested : ((attestExternalReversalWithHost .ascii releasingHost 5 lateEnrollmentRefund
      (db, false)).toOption.any fun r => r.1 matches .attested _ _) = true := by
    decide +kernel
  have hsettled : ∀ c ∈ db.ledger.charges, c.evidence.Settled .ascii := by decide +kernel
  match hcall : attestExternalReversalWithHost .ascii releasingHost 5 lateEnrollmentRefund
    (db, false) with
  | .ok (.attested attempt attestation, (db', h')) =>
    obtain ⟨a, c, row, stored, hfirst, -, -, hreplayed, -⟩ :=
      (attestation_exactly_once accountStore_fresh (lateEnrollment "Approved") .ascii releasingHost
        releasingHost_idempotent 5 lateEnrollmentRefund false).1 attempt attestation db' h' hcall
    exact ⟨attempt, attestation, (db', h'), rfl,
      hreplayed.mpr (hsettled c hfirst.chargeOf.charge) [6, 7]⟩
  | .ok (.replayed _ _, _) | .ok (.notFound, _) | .ok (.ineligible, _) | .ok (.replayConflict, _)
  | .error _ =>
    rw [hcall] at hattested
    simp [Except.toOption] at hattested

/-- Rules of ASCII whose fields are those of the pattern. -/
def TextRules.fields : TextRules :=
  { TextRules.ascii with
    sensitiveField := fun message =>
      (FieldPattern.captures message.toList).map fun (skipped, label, rest) =>
        { start := skipped.length
          stop := message.toList.length - rest.length
          name := String.ofList label } }

/-- The identical call of an operator is a conflict, because the stored text loses a quote each time
it is loaded. -/
theorem attestation_conflicts_with_itself :
    let db := run execStore accountStore (lateEnrollment "\x22\x22pin=[redacted]")
    ∃ attempt attestation s,
      attestExternalReversalWithHost .fields releasingHost 5 lateEnrollmentRefund (db, false) =
        .ok (.attested attempt attestation, s) ∧
      attestExternalReversalWithHost .fields releasingHost 6 lateEnrollmentRefund s =
        .ok (.replayConflict, s) := by
  intro db
  have hfirst : ((attestExternalReversalWithHost .fields releasingHost 5 lateEnrollmentRefund
      (db, false)).toOption.any fun r => r.1 matches .attested _ _) = true := by
    decide +kernel
  have hagain : ((attestExternalReversalWithHost .fields releasingHost 5 lateEnrollmentRefund
      (db, false)).toOption.all fun r =>
        attestExternalReversalWithHost .fields releasingHost 6 lateEnrollmentRefund r.2 =
          .ok (.replayConflict, r.2)) = true := by
    decide +kernel
  match hcall : attestExternalReversalWithHost .fields releasingHost 5 lateEnrollmentRefund
    (db, false) with
  | .ok (.attested attempt attestation, s) =>
    rw [hcall] at hagain
    exact ⟨attempt, attestation, s, rfl, of_decide_eq_true hagain⟩
  | .ok (.replayed _ _, _) | .ok (.notFound, _) | .ok (.ineligible, _) | .ok (.replayConflict, _)
  | .error _ =>
    rw [hcall] at hfirst
    simp [Except.toOption] at hfirst

end SyrupRail
