import SyrupRail.Gateway.Outcome
import SyrupRail.Store.Outcome

/-!
# Evidence that is reconciled

What `reconcile_non_approved_evidence` returns beside the evidence: whether an identifier conflicts
with the one that the attempt holds, and whether one was discarded because it could not be joined to
the sibling that the attempt holds. An attempt has two optional identifiers and so has an
observation; the proofs go by these four, and the texts are those of one side.
-/

namespace SyrupRail

/-- `ReconciledNonApprovedEvidence`. -/
structure ReconciledNonApprovedEvidence where
  evidence : ProcessorEvidence
  transactionIdConflict : Bool
  paymentMethodReferenceConflict : Bool
  discardedTransactionId : Bool
  discardedPaymentMethodReference : Bool
  deriving DecidableEq, Repr

namespace ReconciledNonApprovedEvidence

/-- `has_identity_conflict`. -/
def hasIdentityConflict (r : ReconciledNonApprovedEvidence) : Bool :=
  r.transactionIdConflict || r.paymentMethodReferenceConflict

/-- `identity_conflict_diagnostics`. -/
def identityConflictDiagnostics (r : ReconciledNonApprovedEvidence) :
    List GatewayPaymentDiagnostic :=
  (if r.transactionIdConflict || r.discardedTransactionId then
      [.invalidOrConflictingTransactionIdentifier] else []) ++
    (if r.paymentMethodReferenceConflict || r.discardedPaymentMethodReference then
      [.invalidOrConflictingPaymentMethodReference] else [])

end ReconciledNonApprovedEvidence

/-- `reconcile_non_approved_evidence`, with what it reports. -/
def reconcileNonApproved (a : PaymentAttempt) (observed : ProcessorEvidence) :
    ReconciledNonApprovedEvidence :=
  let persisted := a.evidence
  let discards := a.status.isResolvable && !processorIdentityConflict a observed
  { evidence := reconcileNonApprovedEvidence a observed
    transactionIdConflict := identifiersConflict persisted.transactionId observed.transactionId
    paymentMethodReferenceConflict :=
      identifiersConflict persisted.paymentMethodReference observed.paymentMethodReference
    discardedTransactionId := discards && observed.transactionId.isSome &&
      observed.paymentMethodReference.isNone && persisted.transactionId.isNone &&
      persisted.paymentMethodReference.isSome
    discardedPaymentMethodReference := discards && observed.transactionId.isNone &&
      observed.paymentMethodReference.isSome && persisted.transactionId.isSome &&
      persisted.paymentMethodReference.isNone }

/-! ## The identifiers -/

/-- Two identifiers conflict when both are there and differ. -/
theorem identifiersConflict_iff (persisted observed : Option String) :
    identifiersConflict persisted observed = true ↔
      ∃ p o, persisted = some p ∧ observed = some o ∧ p ≠ o := by
  unfold identifiersConflict
  cases persisted <;> cases observed <;> simp

/-- The identity that is reconciled without a conflict: it keeps what is held, and is what is held,
what was observed, or what was observed with the sibling that is held. -/
theorem reconciledIdentity_spec {persisted observed : ProcessorEvidence}
    (htransaction : identifiersConflict persisted.transactionId observed.transactionId = false)
    (hmethod : identifiersConflict persisted.paymentMethodReference
      observed.paymentMethodReference = false) :
    (reconciledIdentity persisted observed =
          (persisted.transactionId, persisted.paymentMethodReference) ∨
        reconciledIdentity persisted observed =
          (observed.transactionId, observed.paymentMethodReference) ∨
        (observed.transactionId.isSome = true ∧ observed.transactionId = persisted.transactionId ∧
          reconciledIdentity persisted observed =
            (observed.transactionId, persisted.paymentMethodReference)) ∨
        (observed.paymentMethodReference.isSome = true ∧
          observed.paymentMethodReference = persisted.paymentMethodReference ∧
          reconciledIdentity persisted observed =
            (persisted.transactionId, observed.paymentMethodReference))) ∧
      ((∀ id, persisted.transactionId = some id →
          (reconciledIdentity persisted observed).1 = some id) ∧
        (∀ id, persisted.paymentMethodReference = some id →
          (reconciledIdentity persisted observed).2 = some id)) ∧
      ((∃ id, observed.transactionId = some id ∧
          (reconciledIdentity persisted observed).1 ≠ some id) ↔
        observed.transactionId.isSome = true ∧ observed.paymentMethodReference.isNone = true ∧
          persisted.transactionId.isNone = true ∧ persisted.paymentMethodReference.isSome = true) ∧
      ((∃ id, observed.paymentMethodReference = some id ∧
          (reconciledIdentity persisted observed).2 ≠ some id) ↔
        observed.transactionId.isNone = true ∧ observed.paymentMethodReference.isSome = true ∧
          persisted.transactionId.isSome = true ∧
          persisted.paymentMethodReference.isNone = true) := by
  unfold reconciledIdentity ProcessorEvidence.hasGatewayReference
  unfold identifiersConflict at htransaction hmethod
  generalize persisted.transactionId = pt at *
  generalize persisted.paymentMethodReference = pm at *
  generalize observed.transactionId = ot at *
  generalize observed.paymentMethodReference = om at *
  cases ot <;> cases om <;> cases pt <;> cases pm <;> simp_all

/-! ## The evidence -/

/-- The diagnostics, by the flags. -/
theorem mem_identityConflictDiagnostics (r : ReconciledNonApprovedEvidence) :
    (.invalidOrConflictingTransactionIdentifier ∈ r.identityConflictDiagnostics ↔
        r.transactionIdConflict = true ∨ r.discardedTransactionId = true) ∧
      (.invalidOrConflictingPaymentMethodReference ∈ r.identityConflictDiagnostics ↔
        r.paymentMethodReferenceConflict = true ∨ r.discardedPaymentMethodReference = true) := by
  unfold ReconciledNonApprovedEvidence.identityConflictDiagnostics
  rw [List.mem_append, List.mem_append, ← Bool.or_eq_true, ← Bool.or_eq_true]
  cases r.transactionIdConflict || r.discardedTransactionId <;>
    cases r.paymentMethodReferenceConflict || r.discardedPaymentMethodReference <;> simp

/-- The evidence of a resolvable attempt without a conflict. -/
theorem reconcileNonApprovedEvidence_eq {a : PaymentAttempt} {observed : ProcessorEvidence}
    (hresolvable : a.status.isResolvable = true)
    (hconflict : processorIdentityConflict a observed = false) :
    reconcileNonApprovedEvidence a observed =
      { observed with
        transactionId := (reconciledIdentity a.evidence observed).1
        paymentMethodReference := (reconciledIdentity a.evidence observed).2 } := by
  unfold reconcileNonApprovedEvidence
  rw [hresolvable, hconflict]
  rfl

/-- Reconciling again with the same observation changes nothing. -/
theorem reconcile_reconciled {a : PaymentAttempt} {observed : ProcessorEvidence}
    (hresolvable : a.status.isResolvable = true) :
    reconcileNonApprovedEvidence { a with evidence := reconcileNonApprovedEvidence a observed }
      observed = reconcileNonApprovedEvidence a observed := by
  cases hconflict : processorIdentityConflict a observed with
  | true =>
    have hheld : reconcileNonApprovedEvidence a observed = a.evidence := by
      unfold reconcileNonApprovedEvidence
      rw [hresolvable, hconflict]
      rfl
    rw [hheld]
    exact hheld
  | false =>
    have hfirst := reconcileNonApprovedEvidence_eq hresolvable hconflict
    unfold processorIdentityConflict at hconflict
    rw [Bool.or_eq_false_iff] at hconflict
    have hagain : processorIdentityConflict
        { a with evidence := reconcileNonApprovedEvidence a observed } observed = false ∧
        reconciledIdentity (reconcileNonApprovedEvidence a observed) observed =
          reconciledIdentity a.evidence observed := by
      rw [hfirst]
      unfold processorIdentityConflict
      dsimp only
      obtain ⟨htransaction, hmethod⟩ := hconflict
      unfold reconciledIdentity ProcessorEvidence.hasGatewayReference
      unfold identifiersConflict at *
      generalize a.evidence.transactionId = pt at *
      generalize a.evidence.paymentMethodReference = pm at *
      generalize observed.transactionId = ot at *
      generalize observed.paymentMethodReference = om at *
      cases ot <;> cases om <;> cases pt <;> cases pm <;> simp_all
    have hsecond := reconcileNonApprovedEvidence_eq
      (a := { a with evidence := reconcileNonApprovedEvidence a observed }) hresolvable hagain.1
    rw [hsecond]
    dsimp only
    rw [hagain.2]
    exact hfirst.symm

/-- Evidence that is not an approval never splices or loses identities. On a conflict the
diagnostics name the identifiers that conflict; otherwise they name those that were discarded. -/
theorem reconcile_keeps_identity (a : PaymentAttempt) (hresolvable : a.status.isResolvable = true)
    (observed : ProcessorEvidence) :
    let r := reconcileNonApproved a observed
    let p := a.evidence
    let identity := (r.evidence.transactionId, r.evidence.paymentMethodReference)
    (identity = (p.transactionId, p.paymentMethodReference) ∨
        identity = (observed.transactionId, observed.paymentMethodReference) ∨
        (observed.transactionId.isSome = true ∧ observed.transactionId = p.transactionId ∧
          identity = (observed.transactionId, p.paymentMethodReference)) ∨
        (observed.paymentMethodReference.isSome = true ∧
          observed.paymentMethodReference = p.paymentMethodReference ∧
          identity = (p.transactionId, observed.paymentMethodReference))) ∧
      ((∀ id, p.transactionId = some id → r.evidence.transactionId = some id) ∧
        (∀ id, p.paymentMethodReference = some id → r.evidence.paymentMethodReference = some id)) ∧
      ((r.transactionIdConflict = true ↔
          ∃ x y, p.transactionId = some x ∧ observed.transactionId = some y ∧ x ≠ y) ∧
        (r.paymentMethodReferenceConflict = true ↔ ∃ x y, p.paymentMethodReference = some x ∧
          observed.paymentMethodReference = some y ∧ x ≠ y)) ∧
      (r.hasIdentityConflict = true → r.evidence = p ∧
        (.invalidOrConflictingTransactionIdentifier ∈ r.identityConflictDiagnostics ↔
          r.transactionIdConflict = true) ∧
        (.invalidOrConflictingPaymentMethodReference ∈ r.identityConflictDiagnostics ↔
          r.paymentMethodReferenceConflict = true)) ∧
      (r.hasIdentityConflict = false →
        (r.evidence.response = observed.response ∧ r.evidence.responseCode = observed.responseCode ∧
          r.evidence.responseText = observed.responseText ∧
          r.evidence.condition = observed.condition ∧
          r.evidence.descriptor = observed.descriptor) ∧
        (.invalidOrConflictingTransactionIdentifier ∈ r.identityConflictDiagnostics ↔
          ∃ id, observed.transactionId = some id ∧ r.evidence.transactionId ≠ some id) ∧
        (.invalidOrConflictingPaymentMethodReference ∈ r.identityConflictDiagnostics ↔
          ∃ id, observed.paymentMethodReference = some id ∧
            r.evidence.paymentMethodReference ≠ some id)) ∧
      (reconcileNonApproved { a with evidence := r.evidence } observed).evidence = r.evidence := by
  intro r p identity
  have hconflicts : r.hasIdentityConflict = processorIdentityConflict a observed := rfl
  obtain ⟨hdiagnosticT, hdiagnosticM⟩ := mem_identityConflictDiagnostics r
  -- A conflict of either identifier keeps the whole of the stored evidence; without one the
  -- observed texts are taken, with the identifiers merged.
  have hheld (hconflict : processorIdentityConflict a observed = true) : r.evidence = p := by
    show reconcileNonApprovedEvidence a observed = a.evidence
    unfold reconcileNonApprovedEvidence
    rw [hresolvable, hconflict]
    rfl
  have hmerged (hconflict : processorIdentityConflict a observed = false) :
      r.evidence = { observed with
        transactionId := (reconciledIdentity p observed).1
        paymentMethodReference := (reconciledIdentity p observed).2 } :=
    reconcileNonApprovedEvidence_eq hresolvable hconflict
  have hspec (hconflict : processorIdentityConflict a observed = false) :=
    reconciledIdentity_spec (Bool.or_eq_false_iff.mp hconflict).1
      (Bool.or_eq_false_iff.mp hconflict).2
  refine ⟨?_, ?_, ⟨identifiersConflict_iff _ _, identifiersConflict_iff _ _⟩, fun hconflict => ?_,
    fun hconflict => ?_, reconcile_reconciled hresolvable⟩
  · cases hconflict : processorIdentityConflict a observed with
    | true =>
      left
      show (r.evidence.transactionId, r.evidence.paymentMethodReference) = _
      rw [hheld hconflict]
    | false =>
      have hidentity : identity = reconciledIdentity p observed := by
        show (r.evidence.transactionId, r.evidence.paymentMethodReference) = _
        rw [hmerged hconflict]
      rw [hidentity]
      exact (hspec hconflict).1
  · cases hconflict : processorIdentityConflict a observed with
    | true =>
      rw [hheld hconflict]
      exact ⟨fun _ h => h, fun _ h => h⟩
    | false =>
      rw [hmerged hconflict]
      exact (hspec hconflict).2.1
  · rw [hconflicts] at hconflict
    -- The evidence is held, so nothing counts as discarded, and a conflict is what is diagnosed.
    have hdiscarded : r.discardedTransactionId = false ∧ r.discardedPaymentMethodReference =
        false := by
      show (_ && _ && _ && _ && _) = false ∧ (_ && _ && _ && _ && _) = false
      rw [hconflict]
      simp
    rw [hdiagnosticT, hdiagnosticM, hdiscarded.1, hdiscarded.2]
    simp [hheld hconflict]
  · rw [hconflicts] at hconflict
    -- There is no conflict, so what is diagnosed is an identifier that the merge has discarded.
    obtain ⟨-, -, hdiscardT, hdiscardM⟩ := hspec hconflict
    have hconflictT : r.transactionIdConflict = false := (Bool.or_eq_false_iff.mp hconflict).1
    have hconflictM : r.paymentMethodReferenceConflict = false :=
      (Bool.or_eq_false_iff.mp hconflict).2
    rw [hdiagnosticT, hdiagnosticM, hconflictT, hconflictM, hmerged hconflict, hdiscardT, hdiscardM]
    refine ⟨⟨rfl, rfl, rfl, rfl, rfl⟩, ?_, ?_⟩
    · show _ ∨ (_ && _ && _ && _ && _) = true ↔ _
      rw [hresolvable, hconflict]
      simp [and_assoc]
    · show _ ∨ (_ && _ && _ && _ && _) = true ↔ _
      rw [hresolvable, hconflict]
      simp [and_assoc]

/-- An attempt whose outcome is unknown, with some evidence. -/
def unknownAttempt (evidence : ProcessorEvidence) : PaymentAttempt where
  id := 1
  billingScopeId := 1
  subscriberId := 1
  gatewayAccountId := 1
  gatewayConfigurationId := 1
  requiredGatewayAccountMode := .live
  target := .hostCharge 1
  idempotencyKey := "host-charge-1"
  amount := ⟨500, "USD"⟩
  gatewayOrderId := "SR-1"
  subscriptionId := none
  paymentMethodId := none
  status := .unknown
  resolutionCode := none
  evidence := evidence
  lifecycle := .unknown
  createdAt := 0
  updatedAt := 0
  submittedAt := some 0
  resolvedAt := none
  reviewRequiredAt := none

/-- A payment-method reference alone is not joined to the transaction that the attempt holds. -/
theorem reconcile_keeps_identity_partial :
    (unknownAttempt { transactionId := some "T1" }).status.isResolvable = true ∧
      (reconcileNonApproved (unknownAttempt { transactionId := some "T1" })
        { paymentMethodReference := some "M2" }).evidence.transactionId = some "T1" :=
  ⟨rfl, (reconcile_keeps_identity (unknownAttempt { transactionId := some "T1" }) rfl
    { paymentMethodReference := some "M2" }).2.1.1 "T1" rfl⟩

/-- On a conflict of the transaction, a reference that the attempt does not hold is dropped, and no
diagnostic names it. -/
theorem conflict_drops_reference :
    (reconcileNonApproved (unknownAttempt { transactionId := some "T1" })
        { transactionId := some "T2", paymentMethodReference := some "M2" }).evidence =
          { transactionId := some "T1" } ∧
      .invalidOrConflictingPaymentMethodReference ∉
        (reconcileNonApproved (unknownAttempt { transactionId := some "T1" })
          { transactionId := some "T2",
            paymentMethodReference := some "M2" }).identityConflictDiagnostics := by
  decide

end SyrupRail
