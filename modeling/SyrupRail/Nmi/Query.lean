import SyrupRail.Nmi.Client

/-!
# Exact queries

An exact query names a transaction by its identifier, by its order, or by both, and is answered in
XML. The definitions are those of `client/response/xml.rs`: the response has one envelope and at
most one transaction, whose fields are its direct children, and an outcome is returned only where
every selector of the request is repeated. The document comes from the parser of the crate
`roxmltree`; of it the model keeps the elements, by their local names, and the texts.
-/

namespace SyrupRail.Nmi

open RustText

/-- A node of a parsed document. -/
inductive XmlNode
  | element (name : String) (children : List XmlNode)
  | text (value : String)
  | other
  deriving Repr

/-- `has_tag_name` of an element. -/
def XmlNode.hasTagName (name : String) : XmlNode → Bool
  | .element tag _ => tag == name
  | .text _ | .other => false

/-- `is_element`. -/
def XmlNode.isElement : XmlNode → Bool
  | .element _ _ => true
  | .text _ | .other => false

/-- `children`. -/
def XmlNode.children : XmlNode → List XmlNode
  | .element _ children => children
  | .text _ | .other => []

mutual

/-- `descendants`: the node itself, and the nodes below it. -/
def XmlNode.descendants : XmlNode → List XmlNode
  | .element name children => .element name children :: descendantsOfNodes children
  | .text value => [.text value]
  | .other => [.other]

/-- The descendants of the nodes of a list. -/
def descendantsOfNodes : List XmlNode → List XmlNode
  | [] => []
  | node :: nodes => node.descendants ++ descendantsOfNodes nodes

end

/-- `text` of an element: that of its first child, when it is a text. -/
def XmlNode.firstText (node : XmlNode) : Option String :=
  match node.children with
  | .text value :: _ => some value
  | _ => none

/-- `element_children_named`. -/
def elementChildrenNamed (node : XmlNode) (tag : String) : List XmlNode :=
  node.children.filter (XmlNode.hasTagName tag)

/-- `malformed_xml`. -/
def malformedXml (text : String) : WireError :=
  let unclosed (tag : String) : Bool :=
    contains ("<" ++ tag) text && !contains ("</" ++ tag ++ ">") text
  if unclosed "action" then
    .malformedResponse "NMI transaction report response included an unclosed <action> block."
  else if unclosed "transaction" then
    .malformedResponse "NMI transaction report response included an unclosed <transaction> block."
  else .malformedResponse "NMI transaction report response XML was malformed."

/-- `unique_nmi_response_root`, of the root element. -/
def uniqueNmiResponseRoot (root : XmlNode) (responseKind : String) : Except WireError XmlNode :=
  if !root.hasTagName "nm_response" ||
      (root.descendants.filter (XmlNode.hasTagName "nm_response")).length != 1 then
    .error (.malformedResponse
      ("NMI " ++ responseKind ++ " did not include exactly one root nm_response envelope."))
  else .ok root

/-- `query_error_reports_invalid_credentials`. -/
def queryErrorReportsInvalidCredentials (value : String) : Bool :=
  let value := toAsciiLowercase (trim value)
  contains "api key" value || contains "security key" value || contains "authentication" value

/-- `successful_query_response_root`. -/
def successfulQueryResponseRoot (root : XmlNode) (responseKind : String) :
    Except WireError XmlNode := do
  let root ← uniqueNmiResponseRoot root responseKind
  let errors := root.descendants.filter (XmlNode.hasTagName "error_response")
  if errors.isEmpty then pure root
  else if errors.any fun error => error.firstText.any queryErrorReportsInvalidCredentials then
    throw (.configuration "NMI Query API rejected the configured query credentials.")
  else throw (.requestRejected "NMI Query API rejected the query request.")

/-- `direct_element_count_without_nested_matches`. -/
def directElementCountWithoutNestedMatches (parent : XmlNode) (elementName responseKind : String) :
    Except WireError ℕ :=
  let directCount := (elementChildrenNamed parent elementName).length
  if (parent.descendants.filter (XmlNode.hasTagName elementName)).length != directCount then
    .error (.malformedResponse
      ("NMI " ++ responseKind ++ " included a nested or wrapped " ++ elementName ++ " element."))
  else .ok directCount

/-- `xml_scalar_occurrence`. -/
def xmlScalarOccurrence (node : XmlNode) : ScalarOccurrence :=
  if node.children.any XmlNode.isElement then .invalidShape
  else
    .scalar (String.join (node.children.filterMap fun child =>
      match child with
      | .text value => some value
      | _ => none))

/-- The occurrences of a field of a transaction. -/
def xmlOccurrences (transaction : XmlNode) (name : String) : List ScalarOccurrence :=
  (elementChildrenNamed transaction name).map xmlScalarOccurrence

/-- `collect_xml_scalar` with the bounds of a protocol scalar, as a decision field. -/
def collectXmlDecision (transaction : XmlNode) (name : String) (kind : DecisionFieldKind) :
    DecisionField :=
  (collect (xmlOccurrences transaction name)).finishDecision kind

/-- `collect_xml_identifier`. -/
def collectXmlIdentifier (transaction : XmlNode) (name : String) (presence : IdentifierPresence) :
    ResolvedScalar :=
  collectIdentifier presence (xmlOccurrences transaction name)

/-- The decision of a transaction. -/
def xmlDecision (transaction : XmlNode) : ResolvedPaymentDecision :=
  PaymentDecisionFields.resolve
    { response := collectXmlDecision transaction "response" .response
      responseCode := collectXmlDecision transaction "response_code" .responseCode
      status := collectXmlDecision transaction "status" .gatewayState
      condition := collectXmlDecision transaction "condition" .gatewayState }

/-- `DescriptorPurpose`. -/
inductive DescriptorPurpose
  | financialEvidence | displayMetadata
  deriving DecidableEq, Repr

/-- The card data of a transaction: only what is displayed has the expiry, and passes over the case
of a brand. -/
def xmlDescriptor (transaction : XmlNode) (purpose : DescriptorPurpose) : PaymentDescriptor :=
  let text (name : String) : Option String :=
    (resolveOptionalScalar (collectBounded (xmlOccurrences transaction name))).1
  let brand :=
    (xmlOccurrences transaction "cc_type").foldl ScalarOccurrenceCollector.recordBounded {}
  let expiry : Option ℕ × Option ℕ :=
    match purpose with
    | .financialEvidence => (none, none)
    | .displayMetadata => parseExpiry (text "cc_exp")
  { paymentType := text "transaction_type"
    cardBrand :=
      (resolveOptionalScalar (match purpose with
        | .financialEvidence => brand.finish
        | .displayMetadata => brand.finishNormalized toAsciiLowercase)).1
    cardLast4 := (text "cc_number").bind last4
    cardExpMonth := expiry.1
    cardExpYear := expiry.2 }

/-- The outcome of a transaction. -/
def xmlPaymentOutcome (transaction : XmlNode) (purpose : DescriptorPurpose) : PaymentOutcome :=
  let decision := xmlDecision transaction
  let (responseText, _) :=
    resolveOptionalScalar (collectBounded (xmlOccurrences transaction "response_text"))
  let transactionIdentifier := collectXmlIdentifier transaction "transaction_id" .required
  let missing := transactionIdentifier = .missing
  let identifiers := finalizePaymentIdentifiers
    (if missing ∧ decision.status = .approved then .unknown else decision.status)
    transactionIdentifier (collectXmlIdentifier transaction "customer_vault_id" .optional)
    (decision.diagnostics ++ if missing then [.missingTransactionIdentifier] else [])
  PaymentOutcome.normalizeDiagnostics
    { status := identifiers.status
      transactionId := identifiers.transactionId
      customerVaultId := identifiers.customerVaultId
      response := decision.response
      responseCode := decision.responseCode
      responseText
      condition := decision.condition
      descriptor := xmlDescriptor transaction purpose
      diagnostics := identifiers.diagnostics }

/-- The transaction of a response; there may be none. -/
def exactQueryTransaction (root : XmlNode) : Except WireError (Option XmlNode) := do
  let envelope ← successfulQueryResponseRoot root "exact query"
  let count ← directElementCountWithoutNestedMatches envelope "transaction" "exact query response"
  if 1 < count then
    throw (.malformedResponse "NMI exact query response included an invalid transaction structure.")
  else pure (elementChildrenNamed envelope "transaction").head?

/-- `TransactionQuery`. -/
structure TransactionQuery where
  transactionId : Option String
  orderId : Option String
  deriving DecidableEq, Repr

/-- `trimmed_optional`. -/
def trimmedOptional (value : Option String) : Option String :=
  (value.map trim).filter fun value => !value.isEmpty

/-- `bind_exact_query_identifier`. -/
def bindExactQueryIdentifier (expected : Option String) (response : ResolvedScalar)
    (identifierName : String) : Except WireError Unit :=
  let mismatch (problem : String) : Except WireError Unit :=
    .error (.malformedResponse
      ("NMI exact query response " ++ problem ++ " " ++ identifierName ++ " identifier."))
  match expected with
  | none => .ok ()
  | some expected =>
    match response with
    | .missing => mismatch "did not include"
    | .invalidOrConflicting => mismatch "contained an invalid or conflicting"
    | .oneConsistent actual =>
      if actual ≠ expected then mismatch "did not match the requested" else .ok ()

/-- `query_outcome_for_purpose`. -/
def queryOutcomeForPurpose (parseXml : String → Option XmlNode) (text : String)
    (request : TransactionQuery) (purpose : DescriptorPurpose) :
    Except WireError (Option PaymentOutcome) :=
  match parseXml text with
  | none => .error (malformedXml text)
  | some root => do
    match ← exactQueryTransaction root with
    | none => pure none
    | some transaction =>
      bindExactQueryIdentifier (trimmedOptional request.transactionId)
        (collectXmlIdentifier transaction "transaction_id" .required) "transaction"
      bindExactQueryIdentifier (trimmedOptional request.orderId)
        (collectXmlIdentifier transaction "order_id" .optional) "order"
      pure (some (xmlPaymentOutcome transaction purpose))

/-- `query_outcome_for_request_from_xml`. -/
def queryOutcomeForRequestFromXml (parseXml : String → Option XmlNode) (text : String)
    (request : TransactionQuery) : Except WireError (Option PaymentOutcome) :=
  queryOutcomeForPurpose parseXml text request .financialEvidence

/-! ## What a query returns -/

/-- A selector that is bound is the one value of its field. -/
theorem bindExactQueryIdentifier_eq_ok_iff {expected : Option String} {response : ResolvedScalar}
    {identifierName : String} :
    bindExactQueryIdentifier expected response identifierName = .ok () ↔
      ∀ value, expected = some value → response = .oneConsistent value := by
  unfold bindExactQueryIdentifier
  cases expected with
  | none => simp
  | some value =>
    cases response with
    | missing => simp
    | invalidOrConflicting => simp
    | oneConsistent actual =>
      dsimp only
      split_ifs with hne
      · simp [hne]
      · rw [not_not] at hne
        simp [hne]

/-- A query returns the outcome of the one transaction of its response, which repeats the selectors
of the request. -/
theorem queryOutcomeForPurpose_eq_some {parseXml : String → Option XmlNode} {text : String}
    {request : TransactionQuery} {purpose : DescriptorPurpose} {outcome : PaymentOutcome}
    (h : queryOutcomeForPurpose parseXml text request purpose = .ok (some outcome)) :
    ∃ root transaction, parseXml text = some root ∧
      exactQueryTransaction root = .ok (some transaction) ∧
      (∀ value, trimmedOptional request.transactionId = some value →
        collectXmlIdentifier transaction "transaction_id" .required = .oneConsistent value) ∧
      (∀ value, trimmedOptional request.orderId = some value →
        collectXmlIdentifier transaction "order_id" .optional = .oneConsistent value) ∧
      outcome = xmlPaymentOutcome transaction purpose := by
  unfold queryOutcomeForPurpose at h
  cases hroot : parseXml text with
  | none =>
    rw [hroot] at h
    cases h
  | some root =>
    rw [hroot] at h
    dsimp only at h
    cases hfound : exactQueryTransaction root with
    | error e =>
      rw [hfound] at h
      cases h
    | ok found =>
      rw [hfound] at h
      cases found with
      | none => cases h
      | some transaction =>
        simp only [bind, Except.bind] at h
        cases htransaction : bindExactQueryIdentifier (trimmedOptional request.transactionId)
            (collectXmlIdentifier transaction "transaction_id" .required) "transaction" with
        | error e =>
          rw [htransaction] at h
          cases h
        | ok _ =>
          rw [htransaction] at h
          cases horder : bindExactQueryIdentifier (trimmedOptional request.orderId)
              (collectXmlIdentifier transaction "order_id" .optional) "order" with
          | error e =>
            rw [horder] at h
            cases h
          | ok _ =>
            rw [horder] at h
            have houtcome : xmlPaymentOutcome transaction purpose = outcome :=
              Option.some.inj (Except.ok.inj h)
            exact ⟨root, transaction, rfl, hfound, bindExactQueryIdentifier_eq_ok_iff.mp
              htransaction, bindExactQueryIdentifier_eq_ok_iff.mp horder, houtcome.symm⟩

end SyrupRail.Nmi
