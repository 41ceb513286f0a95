import SyrupRail.Nmi.Response

/-!
# Classic form responses

A Classic response is a list of decoded `name=value` pairs, in which a field may occur any number of
times and under more than one name. The definitions are those of `client/response/form.rs`; the
decoding of the body into pairs is that of the crate `form_urlencoded` and not part of the model.
-/

namespace SyrupRail.Nmi

open RustText

/-- The occurrences of a field under its names, in wire order. A value of a form is always a
text. -/
def classicOccurrences (fields : List (String × String)) (aliases : List String) :
    List ScalarOccurrence :=
  (fields.filter fun field => field.1 ∈ aliases).map fun field => .scalar field.2

/-- `collect_classic_scalar` with the bounds of a protocol scalar, as a decision field. -/
def collectClassicDecision (fields : List (String × String)) (aliases : List String)
    (kind : DecisionFieldKind) : DecisionField :=
  (collect (classicOccurrences fields aliases)).finishDecision kind

/-- `collect_classic_scalar` with the bounds of a descriptive text. -/
def collectClassicText (fields : List (String × String)) (aliases : List String) : ResolvedScalar :=
  collectBounded (classicOccurrences fields aliases)

/-- `collect_classic_optional_identifier`. -/
def collectClassicOptionalIdentifier (fields : List (String × String)) (aliases : List String) :
    ResolvedScalar :=
  collectIdentifier .optional (classicOccurrences fields aliases)

/-- The names of the transaction identifier. -/
def classicTransactionAliases : List String := ["transactionid", "transaction_id"]

/-- `collect_classic_transaction_identifier`: as evidence, where a blank one says nothing, and as
the identifier of the outcome. -/
def collectClassicTransactionIdentifier (fields : List (String × String)) :
    ResolvedScalar × ResolvedScalar :=
  (collectIdentifier .optional (classicOccurrences fields classicTransactionAliases),
    collectIdentifier .foregroundRequired (classicOccurrences fields classicTransactionAliases))

/-- The decision of a form. -/
def classicDecision (fields : List (String × String)) : ResolvedPaymentDecision :=
  PaymentDecisionFields.resolve
    { response := collectClassicDecision fields ["response"] .response
      responseCode :=
        collectClassicDecision fields ["response_code", "responsecode"] .responseCode
      status := collectClassicDecision fields ["status"] .gatewayState
      condition := collectClassicDecision fields ["condition"] .gatewayState }

/-- Whether a field of a form belongs to the documented throttle. -/
def isClassicRateLimitField (field : String × String) : Bool :=
  if field.1 = "response" ∨ field.1 = "response_code" then true
  else if field.1 = "responsetext" then field.2 = "Rate limit exceeded"
  else if field.1 ∈ ["authcode", "transactionid", "avsresponse", "cvvresponse", "orderid",
    "type"] then
    field.2.isEmpty
  else false

/-- `classic_is_known_preprocessing_rate_limit`. -/
def classicIsKnownPreprocessingRateLimit (fields : List (String × String))
    (decision : ResolvedPaymentDecision) (evidence : List ResolvedScalar) : Bool :=
  decision.knownPreprocessingRateLimit && evidence.all (· = .missing) &&
    fields.all isClassicRateLimitField

/-- `gateway_text_reports_unknown`. -/
def gatewayTextReportsUnknown (value : String) : Bool :=
  contains "unknown" value || contains "pending" value || contains "in progress" value ||
    contains "processing" value || contains "under review" value

/-- `last4`: the last four digits of a text that has four, or has more and is masked. -/
def last4 (value : String) : Option String :=
  let hasMask := value.toList.any fun c => c == '*' || c == 'x' || c == 'X' || c == '#'
  let digits := value.toList.filter Char.isDigit
  if digits.length = 4 ∨ (hasMask ∧ 4 ≤ digits.length) then
    some (String.ofList (digits.drop (digits.length - 4)))
  else none

/-- The channels of a form that say that the payment was processed. -/
def classicEvidence (fields : List (String × String)) : List ResolvedScalar :=
  [(collectClassicTransactionIdentifier fields).1,
    collectClassicOptionalIdentifier fields ["customer_vault_id", "customer_vaultid"],
    collectClassicOptionalIdentifier fields ["authcode", "auth_code", "authorization_code"],
    collectClassicOptionalIdentifier fields ["avsresponse", "avs_response"],
    collectClassicOptionalIdentifier fields ["cvvresponse", "cvv_response"]]

/-- `classic_payment_outcome_from_form`, on the decoded pairs. Without any decision field a text may
still say that the payment is in progress. -/
def classicPaymentOutcomeFromForm (fields : List (String × String)) :
    Except WireError PaymentOutcome :=
  let decision := classicDecision fields
  let customerVaultIdentifier :=
    collectClassicOptionalIdentifier fields ["customer_vault_id", "customer_vaultid"]
  if classicIsKnownPreprocessingRateLimit fields decision (classicEvidence fields) then
    .error rateLimitedWireError
  else
    let (responseText, invalidResponseText) :=
      resolveOptionalScalar (collectClassicText fields ["responsetext", "response_text"])
    let reportsUnknown :=
      responseText.any fun value => gatewayTextReportsUnknown (toAsciiLowercase (trim value))
    if !decision.hasStructuredEvidence && !(invalidResponseText || reportsUnknown) then
      .error (.malformedResponse
        "NMI classic response did not include a recognizable payment status.")
    else
      let status := if decision.hasStructuredEvidence then decision.status else .unknown
      let diagnostics :=
        if !decision.hasStructuredEvidence && reportsUnknown && !invalidResponseText then []
        else decision.diagnostics
      let identifiers := finalizePaymentIdentifiers status
        (collectClassicTransactionIdentifier fields).2 customerVaultIdentifier diagnostics
      let (paymentType, _) := resolveOptionalScalar (collectClassicText fields ["type"])
      let (cardBrand, _) :=
        resolveOptionalScalar (collectClassicText fields ["cctype", "card_type"])
      let (cardNumber, _) :=
        resolveOptionalScalar (collectClassicText fields ["cc_number", "ccnumber"])
      .ok (PaymentOutcome.normalizeDiagnostics
        { status := identifiers.status
          transactionId := identifiers.transactionId
          customerVaultId := identifiers.customerVaultId
          response := decision.response
          responseCode := decision.responseCode
          responseText
          condition := decision.condition
          descriptor := { paymentType, cardBrand, cardLast4 := cardNumber.bind last4 }
          diagnostics := identifiers.diagnostics })

/-- `has_payment_processing_evidence`: a decision field, other than a `status` that repeats the HTTP
status. -/
def ResolvedPaymentDecision.hasPaymentProcessingEvidence (decision : ResolvedPaymentDecision)
    (httpStatus : ℕ) : Bool :=
  decision.hasNonStatusPaymentProcessingEvidence ||
    (decision.statusSawOccurrence && decision.genericHttpStatus != some httpStatus)

/-- `is_classic_form_candidate`: every part between `&` is a name of lower case letters, digits, and
`_`, and a value. -/
def isClassicFormCandidate (text : String) : Bool :=
  !text.isEmpty && (text.toList.splitOn '&').all fun pair =>
    let name := pair.takeWhile (· != '=')
    pair.contains '=' && !name.isEmpty &&
      name.all fun c => ('a' ≤ c && c ≤ 'z') || c.isDigit || c == '_'

/-- The names under which a form carries an identifier, or the data of a card or its
verification. -/
def classicProcessingAliases : List (List String) :=
  [["customer_vault_id", "customer_vaultid"], ["authcode", "auth_code", "authorization_code"],
    ["avsresponse", "avs_response"], ["cvvresponse", "cvv_response"], ["type"],
    ["cctype", "card_type", "cc_type"], ["cc_number", "ccnumber"], ["cc_exp"]]

/-- `classic_form_has_payment_processing_evidence`, after the test of the text. -/
def classicFieldsHavePaymentProcessingEvidence (fields : List (String × String)) (httpStatus : ℕ) :
    Bool :=
  (classicDecision fields).hasPaymentProcessingEvidence httpStatus ||
    (collectClassicTransactionIdentifier fields).1 != .missing ||
    classicProcessingAliases.any fun aliases =>
      collectClassicOptionalIdentifier fields aliases != .missing

/-- `classic_form_has_payment_processing_evidence`. -/
def classicFormHasPaymentProcessingEvidence (parse : String → List (String × String))
    (text : String) (httpStatus : ℕ) : Bool :=
  isClassicFormCandidate text && classicFieldsHavePaymentProcessingEvidence (parse text) httpStatus

end SyrupRail.Nmi
