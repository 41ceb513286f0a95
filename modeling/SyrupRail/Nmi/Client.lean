import SyrupRail.Nmi.Json

/-!
# Payment mutations

How the client turns the answer to a submitted mutation into an outcome or an error: `client.rs` and
`client/transport.rs`. A sale that creates a vault entry and a merchant-initiated renewal go to the
Classic endpoint, every other sale to v5; storing a payment method goes to the Classic endpoint. The
model begins where a request has passed its local checks and is handed to the transport.

The decoders of a body and the texts of an HTTP status and of a parse error come from other crates,
and are the parameters of `Decoders`.
-/

namespace SyrupRail.Nmi

open RustText

/-- What other crates decode and print. -/
structure Decoders where
  /-- `form_urlencoded::parse`. -/
  parseForm : String → List (String × String)
  /-- `serde_json::from_str`; `none` is a parse error. -/
  parseJson : String → Option LosslessJsonValue
  /-- The text of the error of `serde_json::from_str`. -/
  jsonError : String → String
  /-- `Display` of `StatusCode`. -/
  statusText : ℕ → String

/-! ## Errors -/

/-- `MutationError`. -/
inductive MutationError
  | invalidRequest (detail : String)
  | requestRejected (detail : String)
  | configuration (detail : String)
  | rateLimited (detail : String)
  | unavailable (detail : String)
  | rateLimitedIndeterminate (detail : String)
  | indeterminate (detail : String)
  deriving DecidableEq, Repr

/-- `MutationCertainty`. -/
inductive MutationCertainty
  | notSubmitted | indeterminate
  deriving DecidableEq, Repr

/-- `certainty`. -/
def MutationError.certainty : MutationError → MutationCertainty
  | .rateLimitedIndeterminate _ | .indeterminate _ => .indeterminate
  | .invalidRequest _ | .requestRejected _ | .configuration _ | .rateLimited _ | .unavailable _ =>
    .notSubmitted

/-- `into_mutation`. An HTTP 429 does not say that the mutation was not processed. -/
def WireError.intoMutation : WireError → MutationError
  | .indeterminate detail => .indeterminate detail
  | .localInvalidRequest detail => .invalidRequest detail
  | .requestRejected detail => .requestRejected detail
  | .malformedResponse detail => .indeterminate detail
  | .configuration detail => .configuration detail
  | .transportRateLimited detail => .rateLimitedIndeterminate detail
  | .rateLimited detail => .rateLimited detail
  | .unavailable detail => .unavailable detail

/-- `after_success`. -/
def WireError.afterSuccess : WireError → WireError
  | .rateLimited detail => .rateLimited detail
  | .indeterminate detail | .localInvalidRequest detail | .requestRejected detail
  | .malformedResponse detail | .configuration detail | .transportRateLimited detail
  | .unavailable detail => .indeterminate detail

/-! ## The transport -/

/-- `MAX_NMI_STANDARD_RESPONSE_BYTES`. -/
def maxNmiStandardResponseBytes : ℕ := 256 * 1024

/-- The body of a response as it is read: the text, or why there is none. -/
inductive ResponseBody
  | text (body : String)
  | tooLarge
  | readFailed (error : String)
  | notUtf8 (error : String)
  deriving DecidableEq, Repr

/-- What comes back when a request is handed to the transport. -/
inductive Submission
  | response (status : ℕ) (body : ResponseBody)
  | connectFailed (error : String)
  | sendFailed (error : String)
  deriving DecidableEq, Repr

/-- `StatusCode::is_success`. -/
def isSuccess (status : ℕ) : Bool := 200 ≤ status && status ≤ 299

/-- `bounded_detail`. -/
def boundedDetail (value : String) : String :=
  truncateGatewayText (collapseWhitespace value) maxNmiFieldChars

/-- `read_nmi_response_text` for a payment mutation: a body that cannot be read says nothing about
what was processed. -/
def readMutationResponseText (decoders : Decoders) (status : ℕ) : ResponseBody →
    Except WireError String
  | .text body => .ok body
  | .tooLarge =>
    .error (.indeterminate (s!"NMI response body exceeded {maxNmiStandardResponseBytes}" ++
      s!" bytes after HTTP {decoders.statusText status}"))
  | .readFailed error => .error (.indeterminate (boundedDetail
      s!"NMI response body read failed after HTTP {decoders.statusText status}: {error}"))
  | .notUtf8 error => .error (.indeterminate
      s!"NMI response body was not valid UTF-8 after HTTP {decoders.statusText status}: {error}")

/-- `gateway_error_for_http_status`. -/
def gatewayErrorForHttpStatus (status : ℕ) (message : String) : WireError :=
  if status = 400 ∨ status = 422 then .requestRejected message
  else if status = 401 ∨ status = 403 ∨ status = 404 ∨ status = 405 then .configuration message
  else if status = 429 then .transportRateLimited message
  else .indeterminate message

/-- `gateway_error_from_http_response`: the status decides, the body may give the detail. -/
def gatewayErrorFromHttpResponse (decoders : Decoders) (status : ℕ) (body : String) : WireError :=
  let message :=
    ((decoders.parseJson body).bind fun value =>
      (stringField value "response_text").or (stringField value "message")).getD
        s!"NMI returned HTTP {decoders.statusText status}"
  gatewayErrorForHttpStatus status (boundedDetail message)

/-- `json_payment_error_envelope_is_unproven`. -/
def jsonPaymentErrorEnvelopeIsUnproven (value : LosslessJsonValue) (status : ℕ) : Bool :=
  match value with
  | .object _ => !isKnownPreprocessingHttpErrorEnvelope value status
  | .array values => !values.isEmpty
  | .null | .bool _ | .number _ | .string _ => false

/-- Whether a body speaks of a payment: an object that is not a bounded error envelope, a list with
elements, or a form with fields of a payment. -/
def hasPaymentProcessingEvidence (decoders : Decoders) (status : ℕ) (body : String) : Bool :=
  (decoders.parseJson body).any (jsonPaymentErrorEnvelopeIsUnproven · status) ||
    classicFormHasPaymentProcessingEvidence decoders.parseForm body status

/-- `gateway_error_from_payment_http_response`. -/
def gatewayErrorFromPaymentHttpResponse (decoders : Decoders) (status : ℕ) (body : String) :
    WireError :=
  if status = 429 then gatewayErrorFromHttpResponse decoders status body
  else if status = 400 then
    if (decoders.parseJson body).any isDocumentedV5ValidationError then
      gatewayErrorFromHttpResponse decoders status body
    else .indeterminate "NMI returned an unproven HTTP 400 payment rejection envelope."
  else if status = 422 then
    .indeterminate "NMI returned undocumented HTTP 422 after a payment submission."
  else if hasPaymentProcessingEvidence decoders status body then
    .indeterminate ("NMI returned payment processing evidence with unexpected HTTP " ++
      decoders.statusText status)
  else gatewayErrorFromHttpResponse decoders status body

/-- `gateway_error_from_classic_payment_http_response`. -/
def gatewayErrorFromClassicPaymentHttpResponse (decoders : Decoders) (status : ℕ) (body : String) :
    WireError :=
  if status = 429 then gatewayErrorFromHttpResponse decoders status body
  else if status = 400 ∨ status = 422 then
    .indeterminate (s!"NMI returned undocumented HTTP {decoders.statusText status}" ++
      " after a Classic payment submission.")
  else if hasPaymentProcessingEvidence decoders status body then
    .indeterminate ("NMI returned Classic payment processing evidence with unexpected HTTP " ++
      decoders.statusText status)
  else gatewayErrorFromHttpResponse decoders status body

/-- `map_submit_error`: only a connection that was never made proves that nothing was sent. -/
def mapSubmitError (connect : Bool) (error : String) : WireError :=
  if connect then .unavailable (boundedDetail error) else .indeterminate (boundedDetail error)

/-- The body of a successful response, or the error of any other submission. -/
def mutationText (decoders : Decoders) (httpError : ℕ → String → WireError) :
    Submission → Except WireError String
  | .connectFailed error => .error (mapSubmitError true error)
  | .sendFailed error => .error (mapSubmitError false error)
  | .response status body => do
    let body ← readMutationResponseText decoders status body
    if isSuccess status then pure body else throw (httpError status body)

/-- `post_json`. -/
def postJson (decoders : Decoders) (submission : Submission) :
    Except WireError LosslessJsonValue := do
  let body ← mutationText decoders (gatewayErrorFromPaymentHttpResponse decoders) submission
  match decoders.parseJson body with
  | some value => pure value
  | none => throw (.indeterminate
      s!"NMI returned invalid JSON after accepting a sale request: {decoders.jsonError body}")

/-- `post_mutation_form_text`. -/
def postMutationFormText (decoders : Decoders) (submission : Submission) :
    Except WireError String :=
  mutationText decoders (gatewayErrorFromClassicPaymentHttpResponse decoders) submission

/-! ## Sales and stored methods -/

/-- `PaymentSource`. -/
inductive PaymentSource
  | paymentToken (token : String)
  | customerVault (customerVaultId : String)
  deriving DecidableEq, Repr

/-- `VaultAction`. -/
inductive VaultAction
  | addCustomer
  deriving DecidableEq, Repr

/-- `StoredCredential`. -/
inductive StoredCredential
  | initialCustomer
  | recurringMerchant (initialTransactionId : String)
  deriving DecidableEq, Repr

/-- `SaleRequest`, without what only the outgoing request carries. -/
structure SaleRequest where
  source : PaymentSource
  vaultAction : Option VaultAction
  storedCredential : Option StoredCredential
  deriving DecidableEq, Repr

/-- Whether a sale is a merchant-initiated renewal. -/
def SaleRequest.isRecurringMerchant (request : SaleRequest) : Bool :=
  match request.storedCredential with
  | some (.recurringMerchant _) => true
  | _ => false

/-- `sale_uses_classic_form`. -/
def saleUsesClassicForm (request : SaleRequest) : Bool :=
  request.vaultAction = some .addCustomer || request.isRecurringMerchant

/-- The outcome of a sale with the vault source that was submitted, where an approval names none. -/
def PaymentOutcome.retainSource (outcome : PaymentOutcome) (source : PaymentSource) :
    PaymentOutcome :=
  match source with
  | .customerVault customerVaultId =>
    if outcome.status = .approved ∧ outcome.customerVaultId = none then
      { outcome with customerVaultId := some customerVaultId }
    else outcome
  | .paymentToken _ => outcome

/-- The identities that an approval of a sale must have. -/
def SaleRequest.requirement (request : SaleRequest) : ApprovedIdentityRequirement :=
  if saleUsesClassicForm request then .approvedTransactionAndCustomerVault else .approvedTransaction

/-- The outcome of the body of a successful response to a sale. -/
def saleOutcome (request : SaleRequest) (parsed : Except WireError PaymentOutcome) :
    Except WireError PaymentOutcome :=
  (parsed.mapError WireError.afterSuccess).map fun outcome =>
    requireApprovedIdentities (outcome.retainSource request.source) request.requirement

/-- `sale_wire`, with `classic_sale`. -/
def saleWire (decoders : Decoders) (request : SaleRequest) (submission : Submission) :
    Except WireError PaymentOutcome := do
  if saleUsesClassicForm request then
    let body ← postMutationFormText decoders submission
    saleOutcome request (classicPaymentOutcomeFromForm (decoders.parseForm body))
  else
    let value ← postJson decoders submission
    saleOutcome request (paymentOutcomeFromJson value)

/-- `store_payment_method_wire`. -/
def storePaymentMethodWire (decoders : Decoders) (submission : Submission) :
    Except WireError PaymentOutcome := do
  let body ← postMutationFormText decoders submission
  ((classicPaymentOutcomeFromForm (decoders.parseForm body)).map fun outcome =>
    requireApprovedIdentities outcome .approvedTransactionAndCustomerVault).mapError
      WireError.afterSuccess

/-- `sale`, after the local checks. -/
def sale (decoders : Decoders) (request : SaleRequest) (submission : Submission) :
    Except MutationError PaymentOutcome :=
  (saleWire decoders request submission).mapError WireError.intoMutation

/-- `store_payment_method`, after the local checks. -/
def storePaymentMethod (decoders : Decoders) (submission : Submission) :
    Except MutationError PaymentOutcome :=
  (storePaymentMethodWire decoders submission).mapError WireError.intoMutation

/-- The payment mutations. -/
inductive PaymentMutation
  | sale (request : SaleRequest)
  | storePaymentMethod
  deriving DecidableEq, Repr

/-- Whether a mutation goes to the Classic endpoint. -/
def PaymentMutation.usesClassicForm : PaymentMutation → Bool
  | .sale request => saleUsesClassicForm request
  | .storePaymentMethod => true

/-- A mutation and what came back when it was submitted. -/
def PaymentMutation.submit (decoders : Decoders) (mutation : PaymentMutation)
    (submission : Submission) : Except MutationError PaymentOutcome :=
  match mutation with
  | .sale request => Nmi.sale decoders request submission
  | .storePaymentMethod => Nmi.storePaymentMethod decoders submission

/-! ## A mutation by the text of its response -/

/-- What the client does with the outcome of a parsed body. -/
def PaymentMutation.finishes (mutation : PaymentMutation) (outcome : PaymentOutcome) :
    PaymentOutcome :=
  match mutation with
  | .sale request =>
    requireApprovedIdentities (outcome.retainSource request.source) request.requirement
  | .storePaymentMethod => requireApprovedIdentities outcome .approvedTransactionAndCustomerVault

/-- The result of a mutation whose response has the outcome `parsed`. -/
def PaymentMutation.conclude (mutation : PaymentMutation)
    (parsed : Except WireError PaymentOutcome) : Except MutationError PaymentOutcome :=
  (parsed.map mutation.finishes).mapError fun e => e.afterSuccess.intoMutation

/-- The result of a sale whose response has the outcome `parsed`. -/
theorem mapError_saleOutcome (request : SaleRequest) (parsed : Except WireError PaymentOutcome) :
    (saleOutcome request parsed).mapError WireError.intoMutation =
      (PaymentMutation.sale request).conclude parsed := by
  cases parsed <;> rfl

/-- A mutation of the Classic endpoint, by the text of its response. -/
theorem submit_classic (decoders : Decoders) {mutation : PaymentMutation}
    (hclassic : mutation.usesClassicForm = true) (submission : Submission) :
    mutation.submit decoders submission =
      match mutationText decoders (gatewayErrorFromClassicPaymentHttpResponse decoders)
        submission with
      | .ok text => mutation.conclude (classicPaymentOutcomeFromForm (decoders.parseForm text))
      | .error e => .error e.intoMutation := by
  cases mutation with
  | sale request =>
    have hrequest : saleUsesClassicForm request = true := hclassic
    simp only [PaymentMutation.submit, sale, saleWire, hrequest, if_true, postMutationFormText]
    cases mutationText decoders (gatewayErrorFromClassicPaymentHttpResponse decoders)
      submission with
    | error e => rfl
    | ok text => exact mapError_saleOutcome request _
  | storePaymentMethod =>
    simp only [PaymentMutation.submit, storePaymentMethod, storePaymentMethodWire,
      postMutationFormText]
    cases mutationText decoders (gatewayErrorFromClassicPaymentHttpResponse decoders)
      submission with
    | error e => rfl
    | ok text =>
      have hconclude (parsed : Except WireError PaymentOutcome) :
          (Except.mapError WireError.afterSuccess (parsed.map fun outcome =>
            requireApprovedIdentities outcome .approvedTransactionAndCustomerVault)).mapError
              WireError.intoMutation = PaymentMutation.storePaymentMethod.conclude parsed := by
        cases parsed <;> rfl
      exact hconclude _

/-- A mutation of the v5 endpoint, by the text of its response. -/
theorem submit_v5 (decoders : Decoders) {mutation : PaymentMutation}
    (hv5 : mutation.usesClassicForm = false) (submission : Submission) :
    mutation.submit decoders submission =
      match mutationText decoders (gatewayErrorFromPaymentHttpResponse decoders) submission with
      | .ok text =>
        match decoders.parseJson text with
        | some value => mutation.conclude (paymentOutcomeFromJson value)
        | none => .error (.indeterminate
            s!"NMI returned invalid JSON after accepting a sale request: {decoders.jsonError text}")
      | .error e => .error e.intoMutation := by
  cases mutation with
  | sale request =>
    have hrequest : saleUsesClassicForm request = false := hv5
    simp only [PaymentMutation.submit, sale, saleWire, hrequest, Bool.false_eq_true, if_false,
      postJson]
    cases mutationText decoders (gatewayErrorFromPaymentHttpResponse decoders) submission with
    | error e => rfl
    | ok text =>
      dsimp only
      cases hparse : decoders.parseJson text with
      | none =>
        simp only [bind, Except.bind, hparse]
        rfl
      | some value =>
        simp only [bind, Except.bind, hparse]
        exact mapError_saleOutcome request _
  | storePaymentMethod => cases hv5

end SyrupRail.Nmi
