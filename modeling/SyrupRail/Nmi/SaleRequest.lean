import SyrupRail.Lib.WireText
import SyrupRail.Nmi.Amount
import SyrupRail.Nmi.Query

/-!
# Sales on the wire

What the client does with a sale before anything is sent: the checks of `client/validation.rs` with
the size budget of `client/request_budget.rs`, the parameters of the Classic form
(`client/form.rs`), the body of a v5 sale (`client/v5.rs`), and the check of `form_request` on the
parameters that were built.

The validator counts the values of a request before it is built, above a fixed reserve for names,
literals and structure. The check of `form_request` counts the built parameters, names and values,
above the same reserve.
-/

namespace SyrupRail.Nmi

open RustText WireText

/-! ## Requests -/

/-- `BillingAddress`. -/
structure BillingAddress where
  address1 : String
  address2 : Option String
  city : Option String
  state : Option String
  zip : Option String
  country : String
  deriving DecidableEq, Repr

/-- `BillingContact`. -/
structure BillingContact where
  firstName : Option String
  lastName : Option String
  email : Option String
  address : Option BillingAddress
  deriving DecidableEq, Repr

/-- `StatementDescriptor`. -/
structure StatementDescriptor where
  name : String
  phone : Option String
  url : Option String
  deriving DecidableEq, Repr

/-- `SaleRequest`, with what only the outgoing request carries. -/
structure OutgoingSaleRequest extends SaleRequest where
  amountCents : Int32
  currency : String
  orderId : String
  billingContact : Option BillingContact
  descriptor : Option StatementDescriptor

/-- `DuplicateCheckWindow`, from `MIN_SECONDS` to `MAX_SECONDS`. -/
structure DuplicateCheckWindow where
  seconds : ℕ
  minSeconds : 1 ≤ seconds
  maxSeconds : seconds ≤ 7862400

/-- `DuplicateCheck`. -/
inductive DuplicateCheck
  | processorConfigured
  | window (range : DuplicateCheckWindow)

/-- `wire_seconds`. -/
def DuplicateCheck.wireSeconds : DuplicateCheck → Option ℕ
  | .processorConfigured => none
  | .window range => some range.seconds

/-- What a client adds to a sale. -/
structure ClientSettings where
  privateApiKey : String
  duplicateCheck : DuplicateCheck
  customerReceiptsDisabled : Bool

/-! ## The size budget -/

/-- `MAX_NMI_OUTBOUND_REQUEST_BYTES`. -/
def maxNmiOutboundRequestBytes : ℕ := 16 * 1024

/-- `MAX_NMI_FIXED_REQUEST_BYTES`. -/
def maxNmiFixedRequestBytes : ℕ := 1024

/-- The error of a request that is too large. -/
def outboundSizeError : String := "NMI outbound request exceeds the supported size"

/-- `RequestEncoding`. -/
inductive RequestEncoding
  | form | json
  deriving DecidableEq, Repr

/-- `encoded_form_component_bytes`: the lengths of the pieces of `byte_serialize`, here one for each
octet. -/
def encodedFormComponentBytes (value : String) : ℕ :=
  ((utf8Bytes value.toList).map fun byte => (formOctet byte).length).sum

/-- `encoded_json_string_bytes`. -/
def encodedJsonStringBytes (value : String) : ℕ :=
  value.toList.foldl (fun bytes character => bytes + jsonCharBytes character) 2

/-- The encoded size of a value. -/
def RequestEncoding.valueBytes : RequestEncoding → String → ℕ
  | .form => encodedFormComponentBytes
  | .json => encodedJsonStringBytes

/-- `OutboundRequestBudget`. -/
structure OutboundRequestBudget where
  encodedBytes : ℕ
  bounded : encodedBytes ≤ maxNmiOutboundRequestBytes

/-- `add_bytes`. A sum that `checked_add` refuses is past the limit too, and has the same error. -/
def OutboundRequestBudget.addBytes (budget : OutboundRequestBudget) (bytes : ℕ) :
    Except String OutboundRequestBudget :=
  if h : budget.encodedBytes + bytes ≤ maxNmiOutboundRequestBytes then
    .ok ⟨budget.encodedBytes + bytes, h⟩
  else .error outboundSizeError

/-- `OutboundRequestBudget::new`. -/
def OutboundRequestBudget.new : Except String OutboundRequestBudget :=
  OutboundRequestBudget.addBytes ⟨0, Nat.zero_le _⟩ maxNmiFixedRequestBytes

/-- `add_encoded_value`. -/
def OutboundRequestBudget.addEncodedValue (budget : OutboundRequestBudget)
    (encoding : RequestEncoding) (value : String) : Except String OutboundRequestBudget :=
  budget.addBytes (encoding.valueBytes value)

/-- `add_form_pair`. -/
def OutboundRequestBudget.addFormPair (budget : OutboundRequestBudget) (pair : String × String) :
    Except String OutboundRequestBudget := do
  let budget ← budget.addEncodedValue .form pair.1
  budget.addEncodedValue .form pair.2

/-- `OutboundRequestValidator`. -/
structure OutboundRequestValidator where
  encoding : RequestEncoding
  budget : OutboundRequestBudget

/-- The size of a credential: an `Authorization` header carries it as it is. -/
def RequestEncoding.credentialBytes : RequestEncoding → String → ℕ
  | .form, credential => encodedFormComponentBytes credential
  | .json, credential => byteLen credential.toList

/-- `OutboundRequestValidator::new`. -/
def OutboundRequestValidator.new (encoding : RequestEncoding) (credential : String) :
    Except String OutboundRequestValidator := do
  let budget ← OutboundRequestBudget.new
  let budget ← budget.addBytes (encoding.credentialBytes credential)
  pure ⟨encoding, budget⟩

/-- The validator with a value added to its budget. -/
def OutboundRequestValidator.add (validator : OutboundRequestValidator) (value : String) :
    Except String OutboundRequestValidator :=
  (validator.budget.addEncodedValue validator.encoding value).map fun budget =>
    { validator with budget := budget }

/-- An error unless a condition holds. -/
def ensure (condition : Bool) (error : String) : Except String Unit :=
  if condition then .ok () else .error error

/-- `field`, with `ensure_bounded_request_field`. -/
def OutboundRequestValidator.field (validator : OutboundRequestValidator) (value : String)
    (maxBytes : ℕ) (error : String) : Except String OutboundRequestValidator := do
  ensure (byteLen value.toList ≤ maxBytes) error
  validator.add value

/-- `trimmed_field`. -/
def OutboundRequestValidator.trimmedField (validator : OutboundRequestValidator) (value : String)
    (maxBytes : ℕ) (error : String) : Except String OutboundRequestValidator := do
  ensure (byteLen value.toList ≤ maxBytes) error
  if trim value = "" then pure validator else validator.add (trim value)

/-- `trimmed_field` of a value that may be absent. -/
def OutboundRequestValidator.optionalField (validator : OutboundRequestValidator)
    (value : Option String) (maxBytes : ℕ) (error : String) :
    Except String OutboundRequestValidator :=
  match value with
  | none => pure validator
  | some value => validator.trimmedField value maxBytes error

/-! ## The checks of a sale -/

/-- The state of an address: blank, or two ASCII letters or digits. -/
def stateIsSupported (state : Option String) : Bool :=
  state.all fun value => trim value = "" ||
    (byteLen (trim value).toList = 2 && (trim value).toList.all Char.isAlphanum)

/-- The ZIP code of an address: ASCII letters, digits, blanks, and hyphens. -/
def zipIsSupported (zip : Option String) : Bool :=
  zip.all fun value => (trim value).toList.all fun c => c.isAlphanum || c = ' ' || c = '-'

/-- The country of an address: two uppercase ASCII letters. -/
def countryIsSupported (country : String) : Bool :=
  byteLen country.toList = 2 && country.toList.all Char.isUpper

/-- `validate_billing_address`. -/
def validateBillingAddress (address : BillingAddress) (validator : OutboundRequestValidator) :
    Except String OutboundRequestValidator := do
  let validator ← validator.trimmedField address.address1 100
    "billing address line 1 exceeds the supported size"
  ensure (trim address.address1 ≠ "") "billing address line 1 is required"
  let validator ← validator.optionalField address.address2 100
    "billing address line 2 exceeds the supported size"
  let validator ← validator.optionalField address.city 50 "billing city exceeds the supported size"
  let validator ← validator.optionalField address.state 2
    "billing state must be two ASCII letters or digits"
  ensure (stateIsSupported address.state) "billing state must be two ASCII letters or digits"
  let validator ← validator.optionalField address.zip 20
    "billing ZIP code exceeds the supported size"
  ensure (zipIsSupported address.zip) "billing ZIP code contains unsupported characters"
  let validator ← validator.field address.country 2
    "billing country must be two uppercase ASCII letters"
  ensure (countryIsSupported address.country) "billing country must be two uppercase ASCII letters"
  pure validator

/-- `validate_billing_address` of a contact that may have none. -/
def validateOptionalAddress (address : Option BillingAddress)
    (validator : OutboundRequestValidator) : Except String OutboundRequestValidator :=
  match address with
  | none => pure validator
  | some address => validateBillingAddress address validator

/-- `validate_billing_contact`. -/
def validateBillingContact (contact : BillingContact) (validator : OutboundRequestValidator) :
    Except String OutboundRequestValidator := do
  let validator ← validator.optionalField contact.firstName 256
    "billing first name exceeds the supported size"
  let validator ← validator.optionalField contact.lastName 256
    "billing last name exceeds the supported size"
  let validator ← validator.optionalField contact.email 320
    "billing email exceeds the supported size"
  validateOptionalAddress contact.address validator

/-- `validate_billing_contact` of a request that may have none. -/
def validateOptionalContact (contact : Option BillingContact)
    (validator : OutboundRequestValidator) : Except String OutboundRequestValidator :=
  match contact with
  | none => pure validator
  | some contact => validateBillingContact contact validator

/-- The condition of `ensure_printable_ascii`. -/
def isPrintableAscii (value : String) : Bool :=
  value.toList.all fun c => 32 ≤ c.toNat && c.toNat ≤ 126

/-- The phone number of a descriptor: ASCII digits, blanks, and its five signs. -/
def phoneIsSupported (phone : Option String) : Bool :=
  phone.all fun value => value.toList.all fun c =>
    c.isDigit || c = ' ' || c = '+' || c = '-' || c = '(' || c = ')' || c = '.'

/-- `validate_statement_descriptor`. -/
def validateStatementDescriptor (descriptor : StatementDescriptor)
    (validator : OutboundRequestValidator) : Except String OutboundRequestValidator := do
  let name := trim descriptor.name
  let phone := descriptor.phone.map trim
  let url := descriptor.url.map trim
  ensure (name ≠ "") "statement descriptor is required"
  let validator ← validator.trimmedField name 25 "statement descriptor exceeds the supported size"
  ensure (isPrintableAscii name) "statement descriptor contains unsupported characters"
  let validator ← validator.optionalField phone 20
    "statement descriptor phone exceeds the supported size"
  ensure (phoneIsSupported phone) "statement descriptor phone contains unsupported characters"
  let validator ← validator.optionalField url 40
    "statement descriptor URL exceeds the supported size"
  ensure (url.all isPrintableAscii) "statement descriptor URL contains unsupported characters"
  ensure (!url.any fun value => value.toList.any isAsciiWhitespace)
    "statement descriptor URL contains whitespace"
  pure validator

/-- `validate_statement_descriptor` of a request that may have none. -/
def validateOptionalDescriptor (descriptor : Option StatementDescriptor)
    (validator : OutboundRequestValidator) : Except String OutboundRequestValidator :=
  match descriptor with
  | none => pure validator
  | some descriptor => validateStatementDescriptor descriptor validator

/-- The payment source of a sale. -/
def validateSource (source : PaymentSource) (validator : OutboundRequestValidator) :
    Except String OutboundRequestValidator :=
  match source with
  | .paymentToken token => validator.field token 4096 "payment token exceeds the supported size"
  | .customerVault customerVaultId =>
    validator.field customerVaultId 512 "Customer Vault ID exceeds the supported size"

/-- The stored credential of a sale. -/
def validateStoredCredential (credential : Option StoredCredential)
    (validator : OutboundRequestValidator) : Except String OutboundRequestValidator :=
  match credential with
  | some (.recurringMerchant initialTransactionId) =>
    validator.field initialTransactionId 512 "initial transaction ID exceeds the supported size"
  | some .initialCustomer | none => pure validator

/-- The encoding of a sale. -/
def saleEncoding (request : SaleRequest) : RequestEncoding :=
  if saleUsesClassicForm request then .form else .json

/-- `validate_sale_request_size`, with the validator that it drops. -/
def validateSaleRequestSize (request : OutgoingSaleRequest) (privateApiKey : String) :
    Except String OutboundRequestValidator := do
  let validator ← OutboundRequestValidator.new (saleEncoding request.toSaleRequest) privateApiKey
  let validator ← validator.field request.currency 3 "payment currency must be USD"
  let validator ← validator.trimmedField request.orderId 512
    "payment order ID exceeds the supported size"
  let validator ← validateSource request.source validator
  let validator ← validateStoredCredential request.storedCredential validator
  let validator ← validateOptionalContact request.billingContact validator
  validateOptionalDescriptor request.descriptor validator

/-- The checks of `validate_sale_request` on the source and the stored credential. -/
def validateSaleSource (request : SaleRequest) : Except String Unit := do
  match request.source with
  | .paymentToken token => ensure (trim token ≠ "") "payment token is required"
  | .customerVault customerVaultId =>
    ensure (trim customerVaultId ≠ "") "Customer Vault ID is required"
    ensure (request.vaultAction ≠ some .addCustomer)
      "adding a Customer Vault entry requires a payment token"
  match request.source, request.storedCredential with
  | .customerVault _, some .initialCustomer =>
    throw "initial stored credentials require a payment token"
  | .paymentToken _, some .initialCustomer =>
    ensure (request.vaultAction = some .addCustomer)
      "initial stored credentials require adding a Customer Vault entry"
  | .paymentToken _, some (.recurringMerchant _) =>
    throw "merchant-initiated stored credentials require a Customer Vault source"
  | .customerVault _, some (.recurringMerchant initialTransactionId) =>
    ensure (trim initialTransactionId ≠ "")
      "merchant-initiated stored credentials require the initial transaction ID"
  | _, none => pure ()

/-- The checks of `validate_sale_request` in their order. -/
def saleRequestChecks (request : OutgoingSaleRequest) (privateApiKey : String) :
    Except String Unit := do
  let _ ← validateSaleRequestSize request privateApiKey
  ensure (0 < request.amountCents.toInt) "payment amount must be positive"
  ensure (request.currency = "USD") "payment currency must be USD"
  ensure (trim request.orderId ≠ "") "payment order ID is required"
  validateSaleSource request.toSaleRequest

/-- `validate_sale_request`. -/
def validateSaleRequest (request : OutgoingSaleRequest) (privateApiKey : String) :
    Except MutationError Unit :=
  (saleRequestChecks request privateApiKey).mapError .invalidRequest

/-! ## The Classic form -/

/-- A parameter for a value that is not blank. -/
def optionalParam (name : String) (value : Option String) : List (String × String) :=
  ((trimmedOptional value).map fun value => (name, value)).toList

/-- The parameters of an address. -/
def classicAddressParams (address : BillingAddress) : List (String × String) :=
  [("address1", trim address.address1)] ++ optionalParam "address2" address.address2 ++
    optionalParam "city" address.city ++ optionalParam "state" address.state ++
    optionalParam "zip" address.zip ++ [("country", trim address.country)]

/-- `push_classic_billing_contact`. -/
def classicBillingContactParams (contact : BillingContact) : List (String × String) :=
  optionalParam "first_name" contact.firstName ++ optionalParam "last_name" contact.lastName ++
    optionalParam "email" contact.email ++ (contact.address.map classicAddressParams).getD []

/-- `push_classic_statement_descriptor`. -/
def classicStatementDescriptorParams (descriptor : StatementDescriptor) : List (String × String) :=
  [("descriptor", trim descriptor.name)] ++ optionalParam "descriptor_phone" descriptor.phone ++
    optionalParam "descriptor_url" descriptor.url

/-- The parameter of the payment source. -/
def classicSourceParams : PaymentSource → List (String × String)
  | .paymentToken token => [("payment_token", token)]
  | .customerVault customerVaultId => [("customer_vault_id", customerVaultId)]

/-- The parameters of the stored credential. -/
def classicCredentialParams : StoredCredential → List (String × String)
  | .initialCustomer => [("billing_method", "recurring"),
      ("stored_credential_indicator", "stored"), ("initiated_by", "customer")]
  | .recurringMerchant initialTransactionId => [("billing_method", "recurring"),
      ("stored_credential_indicator", "used"), ("initiated_by", "merchant"),
      ("initial_transaction_id", initialTransactionId)]

/-- `classic_sale_params`. -/
def classicSaleParams (securityKey : String) (request : OutgoingSaleRequest) (amount : String)
    (duplicateCheck : DuplicateCheck) : List (String × String) :=
  [("security_key", securityKey), ("type", "sale"), ("amount", amount),
      ("currency", request.currency)] ++
    (duplicateCheck.wireSeconds.map fun seconds => ("dup_seconds", toString seconds)).toList ++
    [("orderid", trim request.orderId)] ++ classicSourceParams request.source ++
    (if request.vaultAction = some .addCustomer then [("customer_vault", "add_customer")]
      else []) ++
    (request.storedCredential.map classicCredentialParams).getD [] ++
    (request.billingContact.map classicBillingContactParams).getD [] ++
    (request.descriptor.map classicStatementDescriptorParams).getD []

/-- The parameters of a sale as `classic_sale` sends them. -/
def classicSaleForm (client : ClientSettings) (request : OutgoingSaleRequest) (amount : String) :
    List (String × String) :=
  classicSaleParams client.privateApiKey request amount client.duplicateCheck ++
    if client.customerReceiptsDisabled then [("customer_receipt", "false")] else []

/-- `ensure_form_request_is_bounded`. -/
def ensureFormRequestIsBounded (params : List (String × String)) : Except WireError Unit :=
  ((do
    let budget ← OutboundRequestBudget.new
    params.foldlM OutboundRequestBudget.addFormPair budget).map fun _ => ()).mapError
    .localInvalidRequest

/-! ## The v5 body -/

/-- The member of a value that is not blank. -/
def setOptional (name : String) (value : Option String) (members : JsonMembers) : JsonMembers :=
  match trimmedOptional value with
  | none => members
  | some value => members.insert name (.string value)

/-- The members of an address. -/
def setAddress (address : BillingAddress) (members : JsonMembers) : JsonMembers :=
  let members := members.insert "address1" (.string (trim address.address1))
  let members := setOptional "address2" address.address2 members
  let members := setOptional "city" address.city members
  let members := setOptional "state" address.state members
  let members := setOptional "zip" address.zip members
  members.insert "country" (.string (trim address.country))

/-- The members of an address that may be absent. -/
def setOptionalAddress (address : Option BillingAddress) (members : JsonMembers) : JsonMembers :=
  match address with
  | none => members
  | some address => setAddress address members

/-- `billing_address_json`. -/
def billingAddressJson (contact : BillingContact) : Json :=
  let members := setOptional "first_name" contact.firstName .nil
  let members := setOptional "last_name" contact.lastName members
  let members := setOptional "email" contact.email members
  .object (setOptionalAddress contact.address members)

/-- `payment_details_json`. -/
def paymentDetailsJson : PaymentSource → Json
  | .paymentToken token => .object (JsonMembers.nil.insert "payment_token" (.string token))
  | .customerVault customerVaultId =>
    .object (JsonMembers.nil.insert "customer_vault_id" (.string customerVaultId))

/-- `order_details_json`. -/
def orderDetailsJson (orderId : String) : Json :=
  .object (JsonMembers.nil.insert "id" (.string (trim orderId)))

/-- `customer_vault_json`. -/
def customerVaultJson : Json :=
  .object (JsonMembers.nil.insert "billing_method" (.string "recurring"))

/-- `cit_mit_json`. -/
def citMitJson : StoredCredential → Json
  | .initialCustomer => .object (((JsonMembers.nil.insert
      "stored_credential_indicator" (.string "stored")).insert "initiated_by" (.string "customer")))
  | .recurringMerchant initialTransactionId => .object ((((JsonMembers.nil.insert
      "stored_credential_indicator" (.string "used")).insert "initiated_by"
        (.string "merchant")).insert
      "initial_transaction_id" (.string initialTransactionId)))

/-- The duplicate check of a body. -/
def setDupSeconds (seconds : Option ℕ) (members : JsonMembers) : JsonMembers :=
  match seconds with
  | none => members
  | some seconds => members.insert "dup_seconds" (.number seconds)

/-- The contact of a body. -/
def setContact (contact : Option BillingContact) (members : JsonMembers) : JsonMembers :=
  match contact with
  | none => members
  | some contact => members.insert "billing_address" (billingAddressJson contact)

/-- The stored credential of a body. -/
def setCredential (credential : Option StoredCredential) (members : JsonMembers) : JsonMembers :=
  match credential with
  | none => members
  | some credential =>
    (members.insert "customer_vault" customerVaultJson).insert "cit_mit" (citMitJson credential)

/-- `sale_body_json`. -/
def saleBodyJson (request : OutgoingSaleRequest) (amount : Json) (duplicateCheck : DuplicateCheck) :
    JsonMembers :=
  let body := JsonMembers.nil.insert "amount" amount
  let body := body.insert "currency" (.string request.currency)
  let body := body.insert "payment_details" (paymentDetailsJson request.source)
  let body := body.insert "order_details" (orderDetailsJson request.orderId)
  let body := setDupSeconds duplicateCheck.wireSeconds body
  let body := setContact request.billingContact body
  setCredential request.storedCredential body

/-- The body of a sale as `sale_wire` sends it. -/
def v5SaleBody (client : ClientSettings) (request : OutgoingSaleRequest) (amount : String) : Json :=
  let body := saleBodyJson request (.string amount) client.duplicateCheck
  .object (if client.customerReceiptsDisabled then body.insert "customer_receipt" (.bool false)
    else body)

/-! ## What is sent -/

/-- A request that is handed to the transport. -/
inductive OutboundRequest
  | classicForm (params : List (String × String))
  | v5Sale (authorization : String) (body : Json)

/-- The octets of a request: its body, and the line of the header that carries a credential. -/
def OutboundRequest.bytes : OutboundRequest → ℕ
  | .classicForm params => byteLen (formBody params)
  | .v5Sale authorization body =>
    byteLen ("authorization: ".toList ++ authorization.toList ++ "\r\n".toList) +
      byteLen body.render

/-- `ensure_supported_sale_currency`. -/
def ensureSupportedSaleCurrency (currency : String) : Except WireError Unit :=
  if currency = "USD" then .ok ()
  else .error (.localInvalidRequest s!"unsupported NMI sale currency '{currency}'")

/-- The request that `sale_wire` and `classic_sale` hand to the transport. -/
def prepareSaleWire (client : ClientSettings) (request : OutgoingSaleRequest) :
    Except WireError OutboundRequest := do
  ensureSupportedSaleCurrency request.currency
  let amount ← amountString request.amountCents.toInt
  if saleUsesClassicForm request.toSaleRequest then
    let params := classicSaleForm client request amount
    ensureFormRequestIsBounded params
    pure (.classicForm params)
  else pure (.v5Sale client.privateApiKey (v5SaleBody client request amount))

/-- The request that `sale` hands to the transport, or the error before anything is sent. -/
def prepareSale (client : ClientSettings) (request : OutgoingSaleRequest) :
    Except MutationError OutboundRequest := do
  validateSaleRequest request client.privateApiKey
  (prepareSaleWire client request).mapError WireError.intoMutation

end SyrupRail.Nmi
