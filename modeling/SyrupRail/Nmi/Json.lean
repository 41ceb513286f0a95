import SyrupRail.Nmi.Form

/-!
# v5 JSON responses

A v5 response is a JSON value whose objects keep every member in wire order, duplicates included.
The decision fields are direct members; an identifier may stand under several paths. The definitions
are those of `lossless_json.rs` and `client/response/json.rs`. The parser is that of `serde_json`;
of a number the model keeps the text that `Number::to_string` gives.
-/

namespace SyrupRail.Nmi

open RustText

/-- `LosslessJsonValue`. -/
inductive LosslessJsonValue
  | null
  | bool (value : Bool)
  | number (text : String)
  | string (value : String)
  | array (values : List LosslessJsonValue)
  | object (fields : List (String × LosslessJsonValue))
  deriving Repr

/-- The members of an object; another value has none. -/
def LosslessJsonValue.members : LosslessJsonValue → List (String × LosslessJsonValue)
  | .object fields => fields
  | _ => []

/-- `last_field`. -/
def LosslessJsonValue.lastField (value : LosslessJsonValue) (name : String) :
    Option LosslessJsonValue :=
  (value.members.reverse.find? fun field => field.1 == name).map Prod.snd

/-- `scalar_text`. -/
def LosslessJsonValue.scalarText : LosslessJsonValue → Option String
  | .string value => some value
  | .number text => some text
  | .null | .bool _ | .array _ | .object _ => none

/-- Whether a value is a string that is not blank. -/
def LosslessJsonValue.isNonblankString : LosslessJsonValue → Bool
  | .string text => !(trim text).isEmpty
  | _ => false

/-- Whether a value is null or a string. -/
def LosslessJsonValue.isNullOrString : LosslessJsonValue → Bool
  | .null | .string _ => true
  | _ => false

/-- `JSON_TRANSACTION_ID_PATHS`. -/
def jsonTransactionIdPaths : List (List String) :=
  [["transaction_id"], ["transaction", "id"], ["payment", "id"], ["id"]]

/-- `JSON_CUSTOMER_VAULT_ID_PATHS`. -/
def jsonCustomerVaultIdPaths : List (List String) :=
  [["customer_vault_id"], ["customer_vault", "customer_vault_id"],
    ["customer_vault", "customer_id"], ["customer_vault", "id"], ["customer", "customer_vault_id"]]

/-- `json_scalar_occurrence`. -/
def jsonScalarOccurrence : LosslessJsonValue → ScalarOccurrence
  | .string value => .scalar value
  | .number text => .coercedScalar text
  | .null => .null
  | .bool _ | .array _ | .object _ => .invalidShape

/-- The occurrences that `collect_json_identifier_path` records: a member on the way that is not an
object has an invalid shape. -/
def jsonPathOccurrences : List String → LosslessJsonValue → List ScalarOccurrence
  | [], _ => []
  | segment :: remaining, value =>
    (value.members.filter fun field => field.1 == segment).flatMap fun field =>
      if remaining.isEmpty then [jsonScalarOccurrence field.2]
      else
        match field.2 with
        | .object _ => jsonPathOccurrences remaining field.2
        | _ => [.invalidShape]

/-- `collect_json_identifier`. -/
def collectJsonIdentifier (value : LosslessJsonValue) (paths : List (List String))
    (presence : IdentifierPresence) : ResolvedScalar :=
  collectIdentifier presence (paths.flatMap (jsonPathOccurrences · value))

/-- The occurrences of a direct member. -/
def jsonOccurrences (value : LosslessJsonValue) (name : String) : List ScalarOccurrence :=
  (value.members.filter fun field => field.1 == name).map fun field => jsonScalarOccurrence field.2

/-- `collect_json_direct_scalar` with the bounds of a protocol scalar, as a decision field. -/
def collectJsonDecision (value : LosslessJsonValue) (name : String) (kind : DecisionFieldKind) :
    DecisionField :=
  (collect (jsonOccurrences value name)).finishDecision kind

/-- `payment_decision_from_json`. -/
def paymentDecisionFromJson (value : LosslessJsonValue) : ResolvedPaymentDecision :=
  PaymentDecisionFields.resolve
    { response := collectJsonDecision value "response" .response
      responseCode := collectJsonDecision value "response_code" .responseCode
      status := collectJsonDecision value "status" .gatewayState
      condition := collectJsonDecision value "condition" .gatewayState }

/-- Whether a member of an object belongs to the documented throttle. -/
def isJsonRateLimitField (field : String × LosslessJsonValue) : Bool :=
  if field.1 = "response" ∨ field.1 = "response_code" then true
  else if field.1 = "response_text" then
    match field.2 with
    | .string message => message == "Rate limit exceeded"
    | _ => false
  else false

/-- `json_is_known_preprocessing_rate_limit`. -/
def jsonIsKnownPreprocessingRateLimit (value : LosslessJsonValue)
    (decision : ResolvedPaymentDecision) : Bool :=
  match value with
  | .object fields => decision.knownPreprocessingRateLimit && fields.all isJsonRateLimitField
  | _ => false

/-! ## The descriptor -/

/-- `valid_last4`. -/
def validLast4 (value : String) : Option String :=
  if value.utf8ByteSize = 4 ∧ value.toList.all Char.isDigit then some value else none

/-- `FromStr` of `i16`, for a text without a minus sign. -/
def parseI16 (text : List Char) : Option ℕ := parseUnsigned 32767 (String.ofList text)

/-- `valid_expiry`. -/
def validExpiry (month year : Option ℕ) : Option ℕ × Option ℕ :=
  match month with
  | some m =>
    if 1 ≤ m ∧ m ≤ 12 then (some m, year.filter fun y => 2000 ≤ y ∧ y ≤ 2100) else (none, none)
  | none => (none, none)

/-- `parse_expiry`: `MMYY`, `MMYYYY`, or a month and a year around `/` or `-`. -/
def parseExpiry (expiry : Option String) : Option ℕ × Option ℕ :=
  match expiry with
  | none => (none, none)
  | some expiry =>
    let text := (trim expiry).toList
    if text.length = 4 ∧ text.all Char.isDigit then
      validExpiry (parseI16 (text.take 2)) ((parseI16 (text.drop 2)).map (2000 + ·))
    else if text.length = 6 ∧ text.all Char.isDigit then
      validExpiry (parseI16 (text.take 2)) (parseI16 (text.drop 2))
    else
      match text.splitOnP fun c => c == '/' || c == '-' with
      | [month, year] =>
        validExpiry (parseI16 month)
          ((parseI16 year).map fun value => if value < 100 then 2000 + value else value)
      | _ => (none, none)

/-- `string_field`. -/
def stringField (value : LosslessJsonValue) (field : String) : Option String :=
  ((value.lastField field).bind LosslessJsonValue.scalarText).bind boundedGatewayText

/-- `descriptor_from_json`. -/
def descriptorFromJson (value : LosslessJsonValue) : PaymentDescriptor :=
  let paymentDetails := (value.lastField "payment_details").getD value
  let nestedCard := (paymentDetails.lastField "card").or (value.lastField "card")
  let card := nestedCard.getD paymentDetails
  let exp := (stringField card "exp").or <| (stringField card "expiry").or <|
    (stringField card "card_exp").or (stringField value "card_exp")
  let (expMonth, expYear) := parseExpiry exp
  { paymentType := (stringField value "payment_type").or <|
      (stringField value "transaction_type").or (stringField paymentDetails "type")
    cardBrand := (stringField card "brand").or <| (stringField card "card_type").or <|
      (nestedCard.bind (stringField · "type")).or (stringField value "card_type")
    cardLast4 := ((stringField card "last4").bind validLast4).or <|
      ((stringField card "number").bind last4).or <|
      ((stringField card "card_number").bind last4).or
        ((stringField value "card_number").bind last4)
    cardExpMonth := expMonth
    cardExpYear := expYear }

/-! ## The outcome, and the envelopes of an error -/

/-- `payment_outcome_from_json`. -/
def paymentOutcomeFromJson (value : LosslessJsonValue) : Except WireError PaymentOutcome :=
  let decision := paymentDecisionFromJson value
  if jsonIsKnownPreprocessingRateLimit value decision then .error rateLimitedWireError
  else
    let (responseText, _) :=
      resolveOptionalScalar (collectBounded (jsonOccurrences value "response_text"))
    let identifiers := finalizePaymentIdentifiers decision.status
      (collectJsonIdentifier value jsonTransactionIdPaths .foregroundRequired)
      (collectJsonIdentifier value jsonCustomerVaultIdPaths .optional) decision.diagnostics
    .ok (PaymentOutcome.normalizeDiagnostics
      { status := identifiers.status
        transactionId := identifiers.transactionId
        customerVaultId := identifiers.customerVaultId
        response := decision.response
        responseCode := decision.responseCode
        responseText
        condition := decision.condition
        descriptor := descriptorFromJson value
        diagnostics := identifiers.diagnostics })

/-- Whether the members of an object are among `allowed`, each at most once. -/
def membersAllowed (allowed : List String) (fields : List (String × LosslessJsonValue)) : Bool :=
  fields.all (fun field => allowed.contains field.1) &&
    allowed.all fun name => fields.countP (fun field => field.1 == name) ≤ 1

/-- `is_known_preprocessing_http_error_envelope`: the bounded metadata of a generic error. -/
def isKnownPreprocessingHttpErrorEnvelope (value : LosslessJsonValue) (httpStatus : ℕ) : Bool :=
  match value with
  | .object fields =>
    !fields.isEmpty &&
      membersAllowed ["type", "error_code", "message", "ref_id", "status"] fields &&
        fields.any (fun field =>
        (field.1 == "error_code" || field.1 == "message") && field.2.isNonblankString) &&
      fields.all (fun field =>
        if field.1 ∈ ["type", "error_code", "message"] then field.2.isNonblankString
        else if field.1 = "ref_id" then field.2.isNullOrString
        else field.1 = "status") &&
      !(paymentDecisionFromJson value).hasPaymentProcessingEvidence httpStatus
  | _ => false

/-- `documented_validation_details`. -/
def documentedValidationDetails : LosslessJsonValue → Bool
  | .array details =>
    !details.isEmpty && details.all fun detail =>
      match detail with
      | .object fields =>
        fields.length = 2 && fields.all (fun field => field.1 ∈ ["fieldName", "message"]) &&
          (detail.lastField "fieldName").any LosslessJsonValue.isNonblankString &&
          (detail.lastField "message").any LosslessJsonValue.isNonblankString
      | _ => false
  | _ => false

/-- Whether a value is the string `expected`. -/
def LosslessJsonValue.isString (expected : String) : LosslessJsonValue → Bool
  | .string value => value == expected
  | _ => false

/-- `is_documented_v5_validation_error`. -/
def isDocumentedV5ValidationError (value : LosslessJsonValue) : Bool :=
  match value with
  | .object fields =>
    membersAllowed ["type", "error_code", "message", "ref_id", "details"] fields &&
      (value.lastField "type").any (LosslessJsonValue.isString "validationError") &&
      (value.lastField "error_code").any (LosslessJsonValue.isString "E_INVALID_SUBMISSION") &&
      (value.lastField "message").any LosslessJsonValue.isNonblankString &&
      (value.lastField "ref_id").all LosslessJsonValue.isNullOrString &&
      (value.lastField "details").any documentedValidationDetails
  | _ => false

end SyrupRail.Nmi
