import SyrupRail.Gateway.Outcome
import SyrupRail.Nmi.Query

/-!
# The adapter between the NMI client and the engine

`map_payment_outcome` of the crate `syrup-rail-nmi`: the identifiers of an outcome are admitted by
the engine's own rules, an identifier that is not admitted takes the other with it, and the texts
are sanitized. `mapPaymentOutcome_spec` says what the evidence of the mapped outcome holds.
-/

namespace SyrupRail.Nmi

open RustText

/-- `map_payment_status`. -/
def mapPaymentStatus : PaymentStatus → GatewayPaymentStatus
  | .approved => .approved
  | .declined => .declined
  | .unknown => .unknown
  | .failed => .failed

/-- `map_payment_diagnostic`. -/
def mapPaymentDiagnostic : PaymentOutcomeDiagnostic → GatewayPaymentDiagnostic
  | .missingTransactionIdentifier => .missingTransactionIdentifier
  | .missingCustomerVaultIdentifier => .missingPaymentMethodReference
  | .invalidOrConflictingTransactionIdentifier => .invalidOrConflictingTransactionIdentifier
  | .invalidOrConflictingCustomerVaultIdentifier => .invalidOrConflictingPaymentMethodReference
  | .invalidOrConflictingDecisionField => .invalidOrConflictingDecisionField
  | .indeterminatePaymentOutcome => .indeterminatePaymentOutcome
  | .duplicateTransactionAtProcessor => .processorReportedDuplicate
  | .conflictingDecisionEvidence => .conflictingDecisionEvidence
  | .unrecognizedDecisionEvidence => .unrecognizedDecisionEvidence
  | .missingDecisionEvidence => .missingDecisionEvidence

/-- `validated_transaction_id` and `validated_payment_method_reference`: the admitted identifier,
and whether there was one that was rejected. -/
def validatedIdentifier (rules : TextRules) : Option String → Option String × Bool
  | none => (none, false)
  | some value =>
    match rules.fromCorrelation value with
    | .ok identifier => (some identifier, false)
    | .error _ => (none, true)

/-- `map_payment_descriptor_parts`. -/
def mapPaymentDescriptor (rules : TextRules) (d : PaymentDescriptor) : GatewayPaymentDescriptor :=
  GatewayPaymentDescriptor.fromProviderParts (d.paymentType.map rules.sanitizeGatewayDetail)
    (d.cardBrand.map rules.sanitizeGatewayDetail) d.cardLast4 d.cardExpMonth d.cardExpYear

/-- The diagnostics of an outcome, and those of the identifiers that are not admitted. -/
def adaptedDiagnostics (rules : TextRules) (outcome : PaymentOutcome) :
    List GatewayPaymentDiagnostic :=
  outcome.diagnostics.map mapPaymentDiagnostic ++
    (if (validatedIdentifier rules outcome.transactionId).2 then
      [.invalidOrConflictingTransactionIdentifier] else []) ++
    (if (validatedIdentifier rules outcome.customerVaultId).2 then
      [.invalidOrConflictingPaymentMethodReference] else [])

/-- `map_payment_outcome`. -/
def mapPaymentOutcome (rules : TextRules) (outcome : PaymentOutcome) : GatewayPaymentOutcome :=
  let diagnostics := adaptedDiagnostics rules outcome
  let invalidIdentityBundle := diagnostics.any fun d =>
    d == .invalidOrConflictingTransactionIdentifier ||
      d == .invalidOrConflictingPaymentMethodReference
  let evidence : ProcessorEvidence :=
    { transactionId :=
        if invalidIdentityBundle then none else (validatedIdentifier rules outcome.transactionId).1
      paymentMethodReference :=
        if invalidIdentityBundle then none
          else (validatedIdentifier rules outcome.customerVaultId).1
      response := outcome.response.map rules.sanitizeGatewayDetail
      responseCode := outcome.responseCode.map rules.sanitizeGatewayDetail
      responseText := outcome.responseText.map rules.sanitizeGatewayDetail
      condition := outcome.condition.map rules.sanitizeGatewayDetail
      descriptor := mapPaymentDescriptor rules outcome.descriptor }
  ({ status := mapPaymentStatus outcome.status, evidence } : GatewayPaymentOutcome).withDiagnostics
    diagnostics

/-! ## What the evidence holds -/

/-- Whether some identifier of an outcome is unusable, to the client or to the engine. -/
def unusableIdentity (rules : TextRules) (outcome : PaymentOutcome) : Prop :=
  .invalidOrConflictingTransactionIdentifier ∈ adaptedDiagnostics rules outcome ∨
    .invalidOrConflictingPaymentMethodReference ∈ adaptedDiagnostics rules outcome

/-- The evidence of a mapped outcome. -/
theorem mapPaymentOutcome_spec (rules : TextRules) (outcome : PaymentOutcome) :
    (∀ id, (mapPaymentOutcome rules outcome).evidence.transactionId = some id ↔
        ¬ unusableIdentity rules outcome ∧
          .missingTransactionIdentifier ∉ adaptedDiagnostics rules outcome ∧
          (validatedIdentifier rules outcome.transactionId).1 = some id) ∧
      (∀ id, (mapPaymentOutcome rules outcome).evidence.paymentMethodReference = some id ↔
        ¬ unusableIdentity rules outcome ∧
          .missingPaymentMethodReference ∉ adaptedDiagnostics rules outcome ∧
          (validatedIdentifier rules outcome.customerVaultId).1 = some id) ∧
      ((mapPaymentOutcome rules outcome).evidence.response =
          outcome.response.map rules.sanitizeGatewayDetail ∧
        (mapPaymentOutcome rules outcome).evidence.responseCode =
          outcome.responseCode.map rules.sanitizeGatewayDetail ∧
        (mapPaymentOutcome rules outcome).evidence.responseText =
          outcome.responseText.map rules.sanitizeGatewayDetail ∧
        (mapPaymentOutcome rules outcome).evidence.condition =
          outcome.condition.map rules.sanitizeGatewayDetail) ∧
      ((mapPaymentOutcome rules outcome).status = .approved →
        outcome.status = .approved ∧ ¬ unusableIdentity rules outcome) := by
  -- What the code asks of the diagnostics is that the identity is unusable.
  have hbundle : ((adaptedDiagnostics rules outcome).any fun d =>
      d == .invalidOrConflictingTransactionIdentifier ||
        d == .invalidOrConflictingPaymentMethodReference) = true ↔
            unusableIdentity rules outcome := by
    unfold unusableIdentity
    simp only [List.any_eq_true, Bool.or_eq_true, beq_iff_eq]
    constructor
    · rintro ⟨d, hd, rfl | rfl⟩
      · exact .inl hd
      · exact .inr hd
    · rintro (h | h)
      · exact ⟨_, h, .inl rfl⟩
      · exact ⟨_, h, .inr rfl⟩
  unfold mapPaymentOutcome
  dsimp only
  obtain ⟨htransaction, hmethod, htexts, hstatus⟩ :=
    GatewayPaymentOutcome.withDiagnostics_spec _ (adaptedDiagnostics rules outcome)
  rw [htransaction, hmethod, hstatus]
  refine ⟨fun id => ?_, fun id => ?_, htexts, fun h => ?_⟩
  · dsimp only
    split_ifs with hdropped hbad
    · simp only [false_iff, unusableIdentity]
      tauto
    · have hunusable := hbundle.mp hbad
      simp [hunusable]
    · have husable : ¬ unusableIdentity rules outcome := fun h => hbad (hbundle.mpr h)
      rw [not_or] at hdropped
      simp [husable, hdropped.1]
  · dsimp only
    split_ifs with hdropped hbad
    · simp only [false_iff, unusableIdentity]
      tauto
    · have hunusable := hbundle.mp hbad
      simp [hunusable]
    · have husable : ¬ unusableIdentity rules outcome := fun h => hbad (hbundle.mpr h)
      rw [not_or] at hdropped
      simp [husable, hdropped.1]
  -- An approval with an unusable identity is downgraded, so what is left of one was approved.
  · dsimp only at h
    split_ifs at h with hdowngraded
    have happroved : outcome.status = .approved := by
      cases hs : outcome.status with
      | approved => rfl
      | declined | unknown | failed =>
        rw [hs] at h
        cases h
    refine ⟨happroved, fun hunusable => hdowngraded ?_⟩
    rcases hunusable with hd | hd
    · exact ⟨_, hd, .inr ⟨h, rfl⟩⟩
    · exact ⟨_, hd, .inr ⟨h, rfl⟩⟩

/-- An identifier that is admitted is the trimmed one. -/
theorem eq_trim_of_validatedIdentifier {rules : TextRules} {value : Option String} {id : String}
    (h : (validatedIdentifier rules value).1 = some id) : value.map trim = some id := by
  cases value with
  | none => cases h
  | some value =>
    unfold validatedIdentifier at h
    dsimp only at h
    cases hadmitted : rules.fromCorrelation value with
    | error e =>
      rw [hadmitted] at h
      cases h
    | ok identifier =>
      rw [hadmitted] at h
      unfold TextRules.fromCorrelation at hadmitted
      dsimp only at hadmitted
      split_ifs at hadmitted
      rw [Option.map_some, Except.ok.inj hadmitted]
      exact h

/-- An identifier that is not unusable is admitted. -/
theorem validatedIdentifier_eq_some {rules : TextRules} {value : String}
    (h : (validatedIdentifier rules (some value)).2 = false) :
    (validatedIdentifier rules (some value)).1 = some (trim value) := by
  cases hadmitted : rules.fromCorrelation value with
  | error e => simp [validatedIdentifier, hadmitted] at h
  | ok identifier =>
    have hfirst : (validatedIdentifier rules (some value)).1 = some identifier := by
      simp [validatedIdentifier, hadmitted]
    rw [hfirst, ← eq_trim_of_validatedIdentifier hfirst, Option.map_some]

end SyrupRail.Nmi
