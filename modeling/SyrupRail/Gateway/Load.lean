import SyrupRail.Gateway.Truncate

/-!
# Loads of evidence

A row of evidence is read with every diagnostic sanitized once more: `diagnostic` of
`persistence.rs` passes the stored text through `GatewayDiagnostic::new`. What was sanitized need
not be kept by that, so the evidence that is loaded is not always the evidence that was stored. The
identifiers and the card come back as they are.
-/

namespace SyrupRail

/-- `diagnostic`: the text of a column, sanitized as it is loaded. -/
def TextRules.diagnostic (rules : TextRules) (text : Option String) : Option String :=
  text.map rules.sanitizeGatewayDetail

/-- `processor_evidence_from_row`. -/
def processorEvidenceFromRow (rules : TextRules) (e : ProcessorEvidence) : ProcessorEvidence :=
  { e with
    response := rules.diagnostic e.response
    responseCode := rules.diagnostic e.responseCode
    responseText := rules.diagnostic e.responseText
    condition := rules.diagnostic e.condition
    descriptor :=
      { e.descriptor with
        paymentType := rules.diagnostic e.descriptor.paymentType
        cardBrand := rules.diagnostic e.descriptor.cardBrand } }

/-- Evidence whose texts stay as they are once they were loaded: to load them again changes
nothing. -/
def ProcessorEvidence.Settled (rules : TextRules) (e : ProcessorEvidence) : Prop :=
  processorEvidenceFromRow rules (processorEvidenceFromRow rules e) =
    processorEvidenceFromRow rules e

instance (rules : TextRules) (e : ProcessorEvidence) : Decidable (e.Settled rules) :=
  inferInstanceAs (Decidable (_ = _))

/-- The texts that a statement binds for evidence. -/
def ProcessorEvidence.texts (e : ProcessorEvidence) : List String :=
  [e.transactionId, e.paymentMethodReference, e.response, e.responseCode, e.responseText,
    e.condition, e.descriptor.paymentType, e.descriptor.cardBrand,
      e.descriptor.cardLastFour].reduceOption

/-- Whether PostgreSQL takes the texts: none of them contains U+0000. -/
def ProcessorEvidence.encodable (e : ProcessorEvidence) : Bool :=
  e.texts.all fun text => !text.toList.contains '\x00'

/-- The transaction of loaded evidence. -/
@[simp]
theorem transactionId_processorEvidenceFromRow (rules : TextRules) (e : ProcessorEvidence) :
    (processorEvidenceFromRow rules e).transactionId = e.transactionId := rfl

/-- The identity of loaded evidence. -/
@[simp]
theorem hasGatewayReference_processorEvidenceFromRow (rules : TextRules) (e : ProcessorEvidence) :
    (processorEvidenceFromRow rules e).hasGatewayReference = e.hasGatewayReference := rfl

/-- A sanitized text fits its column. -/
theorem TextRules.diagnosticFits_diagnostic (rules : TextRules) (text : Option String) :
    diagnosticFits (rules.diagnostic text) = true := by
  cases text with
  | none => rfl
  | some s =>
    simp only [diagnostic, Option.map_some, diagnosticFits, Option.all_some, decide_eq_true_eq,
      sanitizeGatewayDetail]
    exact utf8ByteSize_truncate_le _ _

/-- Loaded evidence is evidence of the domain. -/
theorem textCheck_processorEvidenceFromRow (rules : TextRules) (e : ProcessorEvidence) :
    (processorEvidenceFromRow rules e).textCheck = true := by
  simp only [ProcessorEvidence.textCheck, processorEvidenceFromRow, rules.diagnosticFits_diagnostic,
    Bool.and_self]

end SyrupRail
