import Mathlib.Data.List.Dedup
import Mathlib.Data.List.Sort
import SyrupRail.Gateway.Value

/-!
# The outcome of a gateway

What a provider's adapter hands to the engine: a status, the evidence, and payload-free diagnostics.
The definitions are those of `gateway.rs`. Diagnostics only take certainty away: `withDiagnostics`
removes an identity that is missing or unusable, and makes a status unknown, and does nothing else.
-/

namespace SyrupRail

/-- `GatewayPaymentStatus`. -/
inductive GatewayPaymentStatus
  | approved | declined | unknown | failed
  deriving DecidableEq, Repr

/-- `GatewayPaymentDiagnostic`. -/
inductive GatewayPaymentDiagnostic
  | missingTransactionIdentifier
  | missingPaymentMethodReference
  | invalidOrConflictingTransactionIdentifier
  | invalidOrConflictingPaymentMethodReference
  | invalidOrConflictingDecisionField
  | indeterminatePaymentOutcome
  | processorReportedDuplicate
  | conflictingDecisionEvidence
  | unrecognizedDecisionEvidence
  | missingDecisionEvidence
  | unmappedProviderDiagnostic
  deriving DecidableEq, Repr

/-- The place of a diagnostic in the canonical order, that of its declaration. -/
def GatewayPaymentDiagnostic.index : GatewayPaymentDiagnostic → ℕ
  | .missingTransactionIdentifier => 0
  | .missingPaymentMethodReference => 1
  | .invalidOrConflictingTransactionIdentifier => 2
  | .invalidOrConflictingPaymentMethodReference => 3
  | .invalidOrConflictingDecisionField => 4
  | .indeterminatePaymentOutcome => 5
  | .processorReportedDuplicate => 6
  | .conflictingDecisionEvidence => 7
  | .unrecognizedDecisionEvidence => 8
  | .missingDecisionEvidence => 9
  | .unmappedProviderDiagnostic => 10

/-- `requires_unknown_status`. -/
def GatewayPaymentDiagnostic.requiresUnknownStatus : GatewayPaymentDiagnostic → Bool
  | .missingTransactionIdentifier | .missingPaymentMethodReference
  | .invalidOrConflictingTransactionIdentifier | .invalidOrConflictingPaymentMethodReference =>
    false
  | .invalidOrConflictingDecisionField | .indeterminatePaymentOutcome | .processorReportedDuplicate
  | .conflictingDecisionEvidence | .unrecognizedDecisionEvidence | .missingDecisionEvidence
  | .unmappedProviderDiagnostic => true

/-- `prevents_approval`. -/
def GatewayPaymentDiagnostic.preventsApproval (d : GatewayPaymentDiagnostic) : Bool :=
  d.requiresUnknownStatus || d == .invalidOrConflictingTransactionIdentifier ||
    d == .invalidOrConflictingPaymentMethodReference

/-- `normalize_gateway_payment_diagnostics`: sorted, without duplicates. -/
def normalizeGatewayPaymentDiagnostics (ds : List GatewayPaymentDiagnostic) :
    List GatewayPaymentDiagnostic :=
  (ds.insertionSort fun d e => d.index ≤ e.index).dedup

/-- `GatewayPaymentOutcome`. -/
structure GatewayPaymentOutcome where
  status : GatewayPaymentStatus
  evidence : ProcessorEvidence
  diagnostics : List GatewayPaymentDiagnostic := []
  deriving DecidableEq, Repr

/-- `with_diagnostics`. -/
def GatewayPaymentOutcome.withDiagnostics (o : GatewayPaymentOutcome)
    (diagnostics : List GatewayPaymentDiagnostic) : GatewayPaymentOutcome :=
  let diagnostics := normalizeGatewayPaymentDiagnostics diagnostics
  let evidence :=
    if diagnostics.any fun d =>
        d == .missingTransactionIdentifier || d == .invalidOrConflictingTransactionIdentifier then
      { o.evidence with transactionId := none }
    else o.evidence
  let evidence :=
    if diagnostics.any fun d =>
        d == .missingPaymentMethodReference || d == .invalidOrConflictingPaymentMethodReference then
      { evidence with paymentMethodReference := none }
    else evidence
  { status :=
      if diagnostics.any fun d =>
          d.requiresUnknownStatus || (o.status == .approved && d.preventsApproval) then .unknown
      else o.status
    evidence
    diagnostics }

/-- `approved_evidence`. -/
def GatewayPaymentOutcome.approvedEvidence (o : GatewayPaymentOutcome) : Option ProcessorEvidence :=
  if o.status = .approved then some o.evidence else none

/-- `CardLastFour::from_provider`. -/
def cardLastFourFromProvider (value : String) : Option String :=
  let value := RustText.trim value
  if value.utf8ByteSize = 4 ∧ value.toList.all Char.isDigit then some value else none

/-- `from_provider_parts`. -/
def GatewayPaymentDescriptor.fromProviderParts (paymentType cardBrand cardLastFour : Option String)
    (cardExpMonth cardExpYear : Option ℕ) : GatewayPaymentDescriptor where
  paymentType := paymentType
  cardBrand := cardBrand
  cardLastFour := cardLastFour.bind cardLastFourFromProvider
  cardExpMonth := cardExpMonth.filter fun month => 1 ≤ month && month ≤ 12
  cardExpYear := cardExpYear.filter fun year => 2000 ≤ year && year ≤ 2100

/-! ## What the diagnostics leave -/

/-- Normalizing diagnostics changes their order and number only. -/
theorem mem_normalizeGatewayPaymentDiagnostics {ds : List GatewayPaymentDiagnostic}
    {d : GatewayPaymentDiagnostic} : d ∈ normalizeGatewayPaymentDiagnostics ds ↔ d ∈ ds := by
  unfold normalizeGatewayPaymentDiagnostics
  rw [List.mem_dedup]
  exact (List.perm_insertionSort _ ds).mem_iff

/-- What stands after the diagnostics, by the diagnostics that were given. -/
theorem GatewayPaymentOutcome.withDiagnostics_spec (o : GatewayPaymentOutcome)
    (ds : List GatewayPaymentDiagnostic) :
    ((o.withDiagnostics ds).evidence.transactionId =
        if .missingTransactionIdentifier ∈ ds ∨ .invalidOrConflictingTransactionIdentifier ∈ ds then
          none
        else o.evidence.transactionId) ∧
      ((o.withDiagnostics ds).evidence.paymentMethodReference =
        if .missingPaymentMethodReference ∈ ds ∨
            .invalidOrConflictingPaymentMethodReference ∈ ds then none
        else o.evidence.paymentMethodReference) ∧
      ((o.withDiagnostics ds).evidence.response = o.evidence.response ∧
        (o.withDiagnostics ds).evidence.responseCode = o.evidence.responseCode ∧
        (o.withDiagnostics ds).evidence.responseText = o.evidence.responseText ∧
        (o.withDiagnostics ds).evidence.condition = o.evidence.condition) ∧
      ((o.withDiagnostics ds).status =
        if ∃ d ∈ ds, d.requiresUnknownStatus = true ∨
            (o.status = .approved ∧ d.preventsApproval = true) then .unknown
        else o.status) := by
  have hany (p : GatewayPaymentDiagnostic → Bool) :
      (normalizeGatewayPaymentDiagnostics ds).any p = true ↔ ∃ d ∈ ds, p d = true := by
    simp only [List.any_eq_true, mem_normalizeGatewayPaymentDiagnostics]
  have hboth (a b : GatewayPaymentDiagnostic) :
      ((normalizeGatewayPaymentDiagnostics ds).any fun d => d == a || d == b) = true ↔
        a ∈ ds ∨ b ∈ ds := by
    rw [hany]
    simp only [Bool.or_eq_true, beq_iff_eq]
    constructor
    · rintro ⟨d, hd, rfl | rfl⟩
      · exact .inl hd
      · exact .inr hd
    · rintro (h | h)
      · exact ⟨a, h, .inl rfl⟩
      · exact ⟨b, h, .inr rfl⟩
  have hstatus : ((normalizeGatewayPaymentDiagnostics ds).any fun d =>
      d.requiresUnknownStatus || (o.status == .approved && d.preventsApproval)) = true ↔
        ∃ d ∈ ds, d.requiresUnknownStatus = true ∨
          (o.status = .approved ∧ d.preventsApproval = true) := by
    rw [hany]
    simp only [Bool.or_eq_true, Bool.and_eq_true, beq_iff_eq]
  unfold GatewayPaymentOutcome.withDiagnostics
  dsimp only
  refine ⟨?_, ?_, ?_, ?_⟩
  · simp only [hboth]
    split_ifs <;> rfl
  · simp only [hboth]
    split_ifs <;> rfl
  · simp only [hboth]
    split_ifs <;> exact ⟨rfl, rfl, rfl, rfl⟩
  · simp only [hstatus]

end SyrupRail
