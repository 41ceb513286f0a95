import SyrupRail.Lib.RustText

/-!
# The payment decision of an NMI response

The four decision fields of a payment response, `response`, `response_code`, `status`, and
`condition`, may each occur any number of times on the wire. A `ScalarOccurrenceCollector` gathers
the occurrences of one field, `finishDecision` reduces them to one `DecisionField`, and
`PaymentDecisionFields.resolve` reduces the four fields to one payment status. The definitions are
those of `client/response/common.rs` and `client/text.rs` of the NMI client.

The lemmas give one level each: `collect_spec` says what the collector holds,
`finishDecision_settled_some` when one field settles on an evidence, and `reduceStatuses_eq_iff`
which payment statuses of the fields reduce to a determinate one. `Nmi/DecisionSpec.lean` composes
them into the meaning of the reduction on the wire.
-/

namespace SyrupRail.Nmi

open RustText

/-- `MAX_NMI_FIELD_CHARS`. -/
def maxNmiFieldChars : ℕ := 512

/-- The status of a payment outcome. -/
inductive PaymentStatus
  | approved | declined | unknown | failed
  deriving DecidableEq, Repr

/-- The payload-free reasons why provider evidence could not be trusted normally, in their
canonical order. -/
inductive PaymentOutcomeDiagnostic
  | missingTransactionIdentifier
  | missingCustomerVaultIdentifier
  | invalidOrConflictingTransactionIdentifier
  | invalidOrConflictingCustomerVaultIdentifier
  | invalidOrConflictingDecisionField
  | indeterminatePaymentOutcome
  | duplicateTransactionAtProcessor
  | conflictingDecisionEvidence
  | unrecognizedDecisionEvidence
  | missingDecisionEvidence
  deriving DecidableEq, Repr

/-- One occurrence of a field on the wire. A coerced scalar is a JSON number: it is ordinary
evidence, but never an exact textual spelling. -/
inductive ScalarOccurrence
  | scalar (raw : String)
  | coercedScalar (raw : String)
  | null
  | invalidShape
  deriving DecidableEq, Repr

/-- A protocol scalar: the trimmed text, when it is neither blank nor too long. -/
def parseProviderScalar (value : String) : Option String :=
  let value := trim value
  if value.isEmpty ∨ maxNmiFieldChars < value.length then none else some value

/-- The occurrences of one field, as they are recorded. -/
structure ScalarOccurrenceCollector where
  values : List String := []
  comparisonValues : List String := []
  exactWireSpellings : List (Option String) := []
  sawOccurrence : Bool := false
  sawAbsentRequiredIdentifier : Bool := false
  sawBoundedOccurrence : Bool := false
  invalid : Bool := false
  deriving DecidableEq, Repr

/-- The text of an occurrence, and whether its wire spelling was textual. -/
def ScalarOccurrence.raw : ScalarOccurrence → Option (String × Bool)
  | .scalar raw => some (raw, true)
  | .coercedScalar raw => some (raw, false)
  | .null => none
  | .invalidShape => none

/-- `record_with`: keep the parsed value of an occurrence, or mark the field invalid. -/
def ScalarOccurrenceCollector.recordWith (c : ScalarOccurrenceCollector) (o : ScalarOccurrence)
    (parse : String → Option String) : ScalarOccurrenceCollector :=
  let c := { c with sawOccurrence := true }
  match o.raw with
  | none => { c with invalid := true }
  | some (raw, exactText) =>
    match parse raw with
    | none => { c with invalid := true }
    | some value =>
      let spelling := if exactText ∧ raw.length ≤ maxNmiFieldChars then some raw else none
      { c with
        comparisonValues := c.comparisonValues ++ [value]
        values := c.values ++ [value]
        exactWireSpellings := c.exactWireSpellings ++ [spelling] }

/-- `record`: an occurrence of a protocol scalar. -/
def ScalarOccurrenceCollector.record (c : ScalarOccurrenceCollector) (o : ScalarOccurrence) :
    ScalarOccurrenceCollector :=
  c.recordWith o parseProviderScalar

/-- What one occurrence of a decision field says. -/
inductive DecisionEvidence
  | paymentStatus (status : PaymentStatus)
  | providerError
  | indeterminatePaymentOutcome
  | processorDuplicate
  deriving DecidableEq, Repr

/-- The payment status that an evidence stands for; a generic provider error stands for none. -/
def DecisionEvidence.toPaymentStatus : DecisionEvidence → Option PaymentStatus
  | .paymentStatus status => some status
  | .indeterminatePaymentOutcome | .processorDuplicate => some .unknown
  | .providerError => none

/-- The diagnostic of an evidence. -/
def DecisionEvidence.diagnostic : DecisionEvidence → Option PaymentOutcomeDiagnostic
  | .indeterminatePaymentOutcome => some .indeterminatePaymentOutcome
  | .processorDuplicate => some .duplicateTransactionAtProcessor
  | .paymentStatus _ | .providerError => none

/-- How a decision field is read; `status` and `condition` are both gateway states. -/
inductive DecisionFieldKind
  | response | responseCode | gatewayState
  deriving DecidableEq, Repr

/-- `normalize_gateway_state`: trimmed, in lower case, without ASCII blanks, `_`, and `-`. -/
def normalizeGatewayState (value : String) : String :=
  String.ofList ((toAsciiLowercase (trim value)).toList.filter
    fun c => !isAsciiWhitespace c && !(c == '_' || c == '-'))

/-- The gateway states that say approved. -/
def approvedGatewayStates : List String :=
  ["approved", "complete", "completed", "captured", "success", "successful", "pendingsettlement"]

/-- The gateway states that leave the payment unknown. -/
def unknownGatewayStates : List String :=
  ["voided", "canceled", "refunded", "chargeback", "unknown", "pending", "queued", "inprogress",
    "processing", "review", "underreview"]

/-- `classified_payment_status_from_gateway_state`. -/
def classifiedPaymentStatusFromGatewayState (value : String) : Option PaymentStatus :=
  let state := normalizeGatewayState value
  if state ∈ approvedGatewayStates then some .approved
  else if state = "declined" then some .declined
  else if state = "failed" then some .failed
  else if state ∈ unknownGatewayStates then some .unknown
  else none

/-- `classified_decision_evidence_from_response_code`. -/
def classifiedDecisionEvidenceFromResponseCode (value : String) : Option DecisionEvidence :=
  match parseU16 (trim value) with
  | none => none
  | some code =>
    if code = 100 then some (.paymentStatus .approved)
    else if 200 ≤ code ∧ code ≤ 299 then some (.paymentStatus .declined)
    else if code ∈ [300, 410, 411, 460, 461] then some (.paymentStatus .failed)
    else if code ∈ [400, 420, 421, 440, 441] then some .indeterminatePaymentOutcome
    else if code = 430 then some .processorDuplicate
    else none

/-- `classify`: the evidence of one value of a field. -/
def DecisionFieldKind.classify (kind : DecisionFieldKind) (value : String) :
    Option DecisionEvidence :=
  match kind with
  | .response =>
    if trim value = "1" then some (.paymentStatus .approved)
    else if trim value = "2" then some (.paymentStatus .declined)
    -- `response=3` is a data error or a system error; it does not say what was charged.
    else if trim value = "3" then some .providerError
    else none
  | .responseCode => classifiedDecisionEvidenceFromResponseCode value
  | .gatewayState =>
    if normalizeGatewayState value = "error" then some .providerError
    else (classifiedPaymentStatusFromGatewayState value).map .paymentStatus

/-- `normalize`: the spelling under which values of a field are compared. -/
def DecisionFieldKind.normalize (kind : DecisionFieldKind) (value : String) : String :=
  match kind with
  | .response => trim value
  | .responseCode =>
    match parseU16 (trim value) with
    | some code => toString code
    | none => trim value
  | .gatewayState => normalizeGatewayState value

/-- One decision field, reduced over its occurrences. -/
structure DecisionField where
  kind : DecisionFieldKind
  raw : Option String := none
  evidence : Option DecisionEvidence := none
  sawOccurrence : Bool := false
  invalidOrConflicting : Bool := false
  unrecognized : Bool := false
  exactWireSpelling : Option String := none
  observedNormalized : List String := []
  wireSpellings : List (Option String) := []
  sawBoundedOccurrence : Bool := false
  deriving DecidableEq, Repr

/-- The field that does not occur. -/
def DecisionField.empty (kind : DecisionFieldKind) : DecisionField := { kind }

/-- `finish_decision`: a field is conflicting when two of its values classify differently, and a
response code also when two of them are different numbers. -/
def ScalarOccurrenceCollector.finishDecision (c : ScalarOccurrenceCollector)
    (kind : DecisionFieldKind) : DecisionField :=
  let observedNormalized := c.values.map kind.normalize
  if c.invalid then
    { DecisionField.empty kind with
      sawOccurrence := true
      invalidOrConflicting := true
      observedNormalized
      wireSpellings := c.exactWireSpellings
      sawBoundedOccurrence := c.sawBoundedOccurrence }
  else
    match c.values with
    | [] => DecisionField.empty kind
    | selected :: rest =>
      let selectedEvidence := kind.classify selected
      let selectedNormalized := kind.normalize selected
      let conflictingStatus := rest.any fun value => kind.classify value != selectedEvidence
      let conflictingNormalized :=
        (observedNormalized.drop 1).any fun value => value != selectedNormalized
      let invalidOrConflicting :=
        conflictingStatus || (kind == .responseCode && conflictingNormalized)
      let semanticallyExactSpelling :=
        (c.comparisonValues.drop 1).all fun value => some value == c.comparisonValues.head?
      let exactWireSpelling :=
        (c.exactWireSpellings.head?.bind id).filter fun selected =>
          c.exactWireSpellings.all fun value => value == some selected
      let raw :=
        if conflictingNormalized then none
        else if semanticallyExactSpelling then some selected
        else (c.values.find? fun value => value == selectedNormalized).or c.values.min?
      { kind
        raw
        evidence := if invalidOrConflicting then none else selectedEvidence
        sawOccurrence := true
        invalidOrConflicting
        unrecognized := !invalidOrConflicting && selectedEvidence.isNone
        exactWireSpelling
        observedNormalized
        wireSpellings := c.exactWireSpellings
        sawBoundedOccurrence := c.sawBoundedOccurrence }

/-- `observed_evidence`: whether some occurrence, read again from its normal form, says
`expected`. -/
def DecisionField.observedEvidence (f : DecisionField) (expected : DecisionEvidence) : Bool :=
  f.observedNormalized.any fun value => f.kind.classify value == some expected

/-- `exactly_matches`: the field is the one spelling `expected`. -/
def DecisionField.exactlyMatches (f : DecisionField) (expected : String) : Bool :=
  !f.invalidOrConflicting && f.exactWireSpelling == some expected

/-- `generic_http_status`: the HTTP status that a canonical numeric `status` repeats. -/
def DecisionField.genericHttpStatus (f : DecisionField) : Option ℕ :=
  if f.invalidOrConflicting || !f.sawOccurrence || f.sawBoundedOccurrence then none
  else
    match f.observedNormalized with
    | [] => none
    | normalized :: _ =>
      match parseU16 normalized with
      | none => none
      | some status =>
        if !(100 ≤ status && status ≤ 599) ||
            f.observedNormalized.any (fun value => value != normalized) then none
        else if !f.wireSpellings.isEmpty &&
            f.wireSpellings.all (fun s => s.all fun spelling => spelling == toString status) then
          some status
        else none

/-- The four decision fields of a response. -/
structure PaymentDecisionFields where
  response : DecisionField
  responseCode : DecisionField
  status : DecisionField
  condition : DecisionField
  deriving DecidableEq, Repr

/-- The decision that the four fields resolve to. -/
structure ResolvedPaymentDecision where
  status : PaymentStatus
  diagnostics : List PaymentOutcomeDiagnostic
  response : Option String
  responseCode : Option String
  condition : Option String
  hasStructuredEvidence : Bool
  hasNonStatusPaymentProcessingEvidence : Bool
  statusSawOccurrence : Bool
  genericHttpStatus : Option ℕ
  knownPreprocessingRateLimit : Bool
  deriving DecidableEq, Repr

/-- The four fields in the order in which `resolve` reads them. -/
def PaymentDecisionFields.fields (d : PaymentDecisionFields) : List DecisionField :=
  [d.response, d.responseCode, d.status, d.condition]

/-- Whether a generic provider error was observed; a response code never is one. -/
def PaymentDecisionFields.sawProviderError (d : PaymentDecisionFields) : Bool :=
  d.response.observedEvidence .providerError || d.status.observedEvidence .providerError ||
    d.condition.observedEvidence .providerError

/-- The status of `resolve`, with the diagnostic that explains an unknown one. The first payment
status among the fields wins when no other contradicts it and, unless it is a failure, no generic
provider error was observed. -/
def PaymentDecisionFields.resolveStatus (d : PaymentDecisionFields) :
    PaymentStatus × Option PaymentOutcomeDiagnostic :=
  if d.fields.any (·.invalidOrConflicting) then
    (.unknown, some .invalidOrConflictingDecisionField)
  else if d.fields.any (·.unrecognized) then
    (.unknown, some .unrecognizedDecisionEvidence)
  else
    match d.fields.filterMap fun f => f.evidence.bind DecisionEvidence.toPaymentStatus with
    | [] =>
      if d.sawProviderError then (.unknown, none) else (.unknown, some .missingDecisionEvidence)
    | status :: evidence =>
      if evidence.any (fun candidate => candidate != status) ||
          (d.sawProviderError && (status == .approved || status == .declined)) then
        (.unknown, some .conflictingDecisionEvidence)
      else (status, none)

/-- `resolve`: the decision of the four fields. -/
def PaymentDecisionFields.resolve (d : PaymentDecisionFields) : ResolvedPaymentDecision :=
  let specificErrorEvidence := [DecisionEvidence.indeterminatePaymentOutcome, .processorDuplicate]
  let hasSpecificErrorDiagnostic := specificErrorEvidence.any d.responseCode.observedEvidence
  let specific :=
    (specificErrorEvidence.filter d.responseCode.observedEvidence).filterMap
      DecisionEvidence.diagnostic
  let (status, diagnostic) := d.resolveStatus
  let diagnostics := specific ++ diagnostic.toList ++
    (if d.sawProviderError && status != .failed && !hasSpecificErrorDiagnostic then
      [.indeterminatePaymentOutcome] else [])
  { status
    diagnostics
    response := d.response.raw
    responseCode := d.responseCode.raw
    condition := d.condition.raw
    hasStructuredEvidence := d.response.sawOccurrence || d.responseCode.sawOccurrence ||
      d.status.sawOccurrence || d.condition.sawOccurrence
    hasNonStatusPaymentProcessingEvidence := d.response.sawOccurrence ||
      d.responseCode.sawOccurrence || d.condition.sawOccurrence
    statusSawOccurrence := d.status.sawOccurrence
    genericHttpStatus := d.status.genericHttpStatus
    knownPreprocessingRateLimit := d.response.exactlyMatches "3" &&
      d.responseCode.exactlyMatches "301" && !d.status.sawOccurrence && !d.condition.sawOccurrence }

/-! ## Collecting the occurrences of a field -/

/-- The value that the collector keeps of an occurrence, when it is readable. -/
def ScalarOccurrence.value (o : ScalarOccurrence) : Option String :=
  o.raw.bind fun r => parseProviderScalar r.1

/-- The collector after the occurrences of one field, in wire order. -/
def collect (os : List ScalarOccurrence) : ScalarOccurrenceCollector :=
  os.foldl ScalarOccurrenceCollector.record {}

/-- One occurrence appends its value, or makes the field invalid. -/
theorem record_spec (c : ScalarOccurrenceCollector) (o : ScalarOccurrence) :
    (c.record o).values = c.values ++ o.value.toList ∧
      (c.record o).invalid = (c.invalid || o.value.isNone) := by
  unfold ScalarOccurrenceCollector.record ScalarOccurrenceCollector.recordWith
    ScalarOccurrence.value
  rcases hr : o.raw with _ | ⟨raw, exactText⟩
  · simp
  · rcases hp : parseProviderScalar raw with _ | v
    · simp [hp]
    · simp [hp]

/-- Recording any further occurrences. -/
theorem foldl_record_spec (os : List ScalarOccurrence) (c : ScalarOccurrenceCollector) :
    (os.foldl ScalarOccurrenceCollector.record c).values =
        c.values ++ os.filterMap ScalarOccurrence.value ∧
      (os.foldl ScalarOccurrenceCollector.record c).invalid =
        (c.invalid || os.any fun o => o.value.isNone) := by
  induction os generalizing c with
  | nil => simp
  | cons o os ih =>
    obtain ⟨hv, hi⟩ := record_spec c o
    obtain ⟨ihv, ihi⟩ := ih (c.record o)
    rw [List.foldl_cons, ihv, ihi, hv, hi]
    rcases ho : o.value with _ | v
    · simp [ho]
    · simp [ho]

/-- The collector holds the values of the readable occurrences, and is invalid exactly when some
occurrence is not readable. -/
theorem collect_spec (os : List ScalarOccurrence) :
    (collect os).values = os.filterMap ScalarOccurrence.value ∧
      (collect os).invalid = os.any fun o => o.value.isNone := by
  simpa [collect] using foldl_record_spec os {}

/-! ## When one field settles -/

/-- The field is neither conflicting nor unrecognized, and its evidence is `e`. -/
def DecisionField.Settled (f : DecisionField) (e : Option DecisionEvidence) : Prop :=
  f.invalidOrConflicting = false ∧ f.unrecognized = false ∧ f.evidence = e

/-- Two values of a field agree: they classify alike and, for a response code, they are the same
number. -/
def DecisionFieldKind.Agree (kind : DecisionFieldKind) (v w : String) : Prop :=
  kind.classify w = kind.classify v ∧ (kind = .responseCode → kind.normalize w = kind.normalize v)

/-- What `finishDecision` makes of readable values: conflicting unless they all agree with the
first, whose evidence it then takes. -/
theorem finishDecision_cons (c : ScalarOccurrenceCollector) (kind : DecisionFieldKind)
    (v : String) (vs : List String) (hc : c.invalid = false) (hv : c.values = v :: vs) :
    ((c.finishDecision kind).invalidOrConflicting = false ↔ ∀ w ∈ vs, kind.Agree v w) ∧
      ((c.finishDecision kind).invalidOrConflicting = false →
        (c.finishDecision kind).evidence = kind.classify v ∧
          (c.finishDecision kind).unrecognized = (kind.classify v).isNone) := by
  constructor
  · simp only [ScalarOccurrenceCollector.finishDecision, hc, hv, DecisionFieldKind.Agree]
    simp only [Bool.false_eq_true, if_false, List.map_cons, List.drop_succ_cons, List.drop_zero,
      Bool.or_eq_false_iff, Bool.and_eq_false_iff, List.any_eq_false, bne_iff_ne, ne_eq,
      not_not, beq_eq_false_iff_ne, List.mem_map, forall_exists_index, and_imp,
      forall_apply_eq_imp_iff₂]
    by_cases hk : kind = .responseCode
    · simp only [hk, not_true_eq_false, false_or, true_implies]
      exact forall₂_and.symm
    · simp [hk]
  · intro h
    simp only [ScalarOccurrenceCollector.finishDecision, hc, hv, Bool.false_eq_true,
      if_false] at h ⊢
    rw [h]
    simp

/-- The occurrences of a field that is not conflicting are all readable. -/
theorem readable_of_not_conflicting {os : List ScalarOccurrence} {kind : DecisionFieldKind}
    (h : ((collect os).finishDecision kind).invalidOrConflicting = false) :
    (collect os).invalid = false ∧ ∀ o ∈ os, ∃ v, o.value = some v := by
  have hc : (collect os).invalid = false := by
    by_contra hc
    simp [ScalarOccurrenceCollector.finishDecision, (Bool.not_eq_false _).mp hc] at h
  refine ⟨hc, ?_⟩
  rw [(collect_spec os).2, List.any_eq_false] at hc
  intro o ho
  have := hc o ho
  rwa [Option.isNone_iff_eq_none, ← ne_eq, Option.ne_none_iff_exists'] at this

/-- A field that does not occur settles on no evidence, and only such a field does. -/
theorem finishDecision_settled_none (os : List ScalarOccurrence) (kind : DecisionFieldKind) :
    ((collect os).finishDecision kind).Settled none ↔ os = [] := by
  obtain ⟨hv, -⟩ := collect_spec os
  constructor
  · rintro ⟨hconf, hunrec, hev⟩
    by_contra hne
    obtain ⟨hc, hread⟩ := readable_of_not_conflicting hconf
    obtain ⟨o, os', rfl⟩ := List.exists_cons_of_ne_nil hne
    obtain ⟨v, ho⟩ := hread o (by simp)
    rw [List.filterMap_cons_some ho] at hv
    obtain ⟨-, hsel⟩ := finishDecision_cons _ kind v _ hc hv
    obtain ⟨he, hu⟩ := hsel hconf
    rw [hev] at he
    rw [hunrec, ← he] at hu
    simp at hu
  · rintro rfl
    simp [collect, ScalarOccurrenceCollector.finishDecision, DecisionField.empty,
      DecisionField.Settled]

/-- A field settles on the evidence `e` exactly when it occurs, every occurrence is readable and
classifies as `e`, and the occurrences of a response code are one number. -/
theorem finishDecision_settled_some (os : List ScalarOccurrence) (kind : DecisionFieldKind)
    (e : DecisionEvidence) :
    ((collect os).finishDecision kind).Settled (some e) ↔
      os ≠ [] ∧ (∀ o ∈ os, ∃ v, o.value = some v ∧ kind.classify v = some e) ∧
        (kind = .responseCode → ∀ o ∈ os, ∀ o' ∈ os,
          o.value.map kind.normalize = o'.value.map kind.normalize) := by
  obtain ⟨hv, hi⟩ := collect_spec os
  constructor
  · intro hset
    have hne : os ≠ [] := by
      rintro rfl
      have hnone := (finishDecision_settled_none [] kind).mpr rfl
      exact absurd (hset.2.2.symm.trans hnone.2.2) (by simp)
    obtain ⟨hconf, hunrec, hev⟩ := hset
    obtain ⟨hc, hread⟩ := readable_of_not_conflicting hconf
    obtain ⟨o, os', rfl⟩ := List.exists_cons_of_ne_nil hne
    obtain ⟨v, ho⟩ := hread o (by simp)
    rw [List.filterMap_cons_some ho] at hv
    obtain ⟨hagree, hsel⟩ := finishDecision_cons _ kind v _ hc hv
    have hall := hagree.mp hconf
    have hve : kind.classify v = some e := by rw [← (hsel hconf).1, hev]
    have hfirst : ∀ o' ∈ o :: os', ∃ w, o'.value = some w ∧ kind.Agree v w := by
      intro o' ho'
      rcases List.mem_cons.mp ho' with rfl | ho'
      · exact ⟨v, ho, rfl, fun _ => rfl⟩
      · obtain ⟨w, hw⟩ := hread o' (by simp [ho'])
        exact ⟨w, hw, hall w (List.mem_filterMap.mpr ⟨o', ho', hw⟩)⟩
    refine ⟨hne, fun o' ho' => ?_, fun hk o₁ h₁ o₂ h₂ => ?_⟩
    · obtain ⟨w, hw, hcl, -⟩ := hfirst o' ho'
      exact ⟨w, hw, hcl.trans hve⟩
    · obtain ⟨w₁, hw₁, -, hn₁⟩ := hfirst o₁ h₁
      obtain ⟨w₂, hw₂, -, hn₂⟩ := hfirst o₂ h₂
      rw [hw₁, hw₂, Option.map_some, Option.map_some, hn₁ hk, hn₂ hk]
  · rintro ⟨hne, hall, hnum⟩
    obtain ⟨o, os', rfl⟩ := List.exists_cons_of_ne_nil hne
    obtain ⟨v, ho, hve⟩ := hall o (by simp)
    have hc : (collect (o :: os')).invalid = false := by
      rw [hi, List.any_eq_false]
      intro o' ho'
      obtain ⟨w, hw, -⟩ := hall o' ho'
      simp [hw]
    rw [List.filterMap_cons_some ho] at hv
    obtain ⟨hagree, hsel⟩ := finishDecision_cons _ kind v _ hc hv
    have hconf : ((collect (o :: os')).finishDecision kind).invalidOrConflicting = false := by
      rw [hagree]
      intro w hw
      obtain ⟨o', ho', hw'⟩ := List.mem_filterMap.mp hw
      obtain ⟨w', hw'', hwe⟩ := hall o' (by simp [ho'])
      obtain rfl : w' = w := Option.some.inj (hw''.symm.trans hw')
      refine ⟨hwe.trans hve.symm, fun hk => ?_⟩
      have := hnum hk o' (by simp [ho']) o (by simp)
      simpa [hw', ho] using this
    obtain ⟨he, hu⟩ := hsel hconf
    exact ⟨hconf, by rw [hu, hve]; rfl, by rw [he, hve]⟩

/-- The gateway states that classify are their own normal forms. -/
theorem normalizeGatewayState_of_mem {state : String}
    (h : state ∈ "error" :: "declined" :: "failed" :: approvedGatewayStates ++
      unknownGatewayStates) :
    normalizeGatewayState state = state := by
  have hall : ∀ s ∈ "error" :: "declined" :: "failed" ::
      approvedGatewayStates ++ unknownGatewayStates, normalizeGatewayState s = s := by
    decide
  exact hall state h

/-- A gateway state that classifies is one of the vocabulary. -/
theorem normalizeGatewayState_mem {v : String} {e : DecisionEvidence}
    (h : DecisionFieldKind.classify .gatewayState v = some e) :
    normalizeGatewayState v ∈
      "error" :: "declined" :: "failed" :: approvedGatewayStates ++ unknownGatewayStates := by
  simp only [DecisionFieldKind.classify] at h
  split_ifs at h with herr
  · simp [herr]
  · simp only [classifiedPaymentStatusFromGatewayState] at h
    split_ifs at h with ha hd hf hu
    · simp [ha]
    · simp [hd]
    · simp [hf]
    · simp [hu]
    · simp at h

/-- A value that classifies says the same when it is read again from its normal form. -/
theorem classify_normalize {kind : DecisionFieldKind} {v : String} {e : DecisionEvidence}
    (hk : kind ≠ .responseCode) (h : kind.classify v = some e) :
    kind.classify (kind.normalize v) = some e := by
  cases kind with
  | response =>
    unfold DecisionFieldKind.classify DecisionFieldKind.normalize at *
    dsimp only at h ⊢
    rw [trim_trim]
    exact h
  | responseCode => exact absurd rfl hk
  | gatewayState =>
    have hn := normalizeGatewayState_of_mem (normalizeGatewayState_mem h)
    unfold DecisionFieldKind.classify DecisionFieldKind.normalize
      classifiedPaymentStatusFromGatewayState at *
    dsimp only at h ⊢
    rw [hn]
    exact h

/-- `finishDecision` keeps the kind and the normal forms of the values of the field. -/
theorem finishDecision_observed (c : ScalarOccurrenceCollector) (kind : DecisionFieldKind) :
    (c.finishDecision kind).kind = kind ∧
      (c.finishDecision kind).observedNormalized = c.values.map kind.normalize := by
  unfold ScalarOccurrenceCollector.finishDecision
  split_ifs
  · simp [DecisionField.empty]
  · split
    · simp [DecisionField.empty, *]
    · simp [*]

/-- A settled field, read again from the normal forms of its values, shows a generic provider error
exactly when it settled on one. -/
theorem observedEvidence_providerError {os : List ScalarOccurrence} {kind : DecisionFieldKind}
    {e : Option DecisionEvidence} (hk : kind ≠ .responseCode)
    (h : ((collect os).finishDecision kind).Settled e) :
    ((collect os).finishDecision kind).observedEvidence .providerError = true ↔
      e = some .providerError := by
  obtain ⟨hkind, hobs⟩ := finishDecision_observed (collect os) kind
  simp only [DecisionField.observedEvidence, hkind, hobs, (collect_spec os).1, List.any_eq_true,
    List.mem_map, List.mem_filterMap, beq_iff_eq]
  rcases e with _ | e
  · obtain rfl := (finishDecision_settled_none os kind).mp h
    simp
  · obtain ⟨hne, hall, -⟩ := (finishDecision_settled_some os kind e).mp h
    constructor
    · rintro ⟨-, ⟨v, ⟨o, ho, hov⟩, rfl⟩, hcl⟩
      obtain ⟨w, hw, hwe⟩ := hall o ho
      obtain rfl : w = v := Option.some.inj (hw.symm.trans hov)
      rw [← hcl, classify_normalize hk hwe]
    · intro he
      obtain ⟨o, os', rfl⟩ := List.exists_cons_of_ne_nil hne
      obtain ⟨w, hw, hwe⟩ := hall o (by simp)
      exact ⟨_, ⟨w, ⟨o, by simp, hw⟩, rfl⟩, (classify_normalize hk hwe).trans he⟩

/-! ## Which settled fields give which status -/

/-- The status that the payment statuses of the fields reduce to. -/
def reduceStatuses (statuses : List PaymentStatus) (sawProviderError : Bool) : PaymentStatus :=
  match statuses with
  | [] => .unknown
  | status :: evidence =>
    if evidence.any (fun candidate => candidate != status) ||
        (sawProviderError && (status == .approved || status == .declined)) then .unknown
    else status

/-- The reduction returns a determinate status exactly when it is the only status among the fields
and no provider error stands against an approval or a decline. -/
theorem reduceStatuses_eq_iff (ts : List PaymentStatus) (spe : Bool) {s : PaymentStatus}
    (hs : s ≠ .unknown) :
    reduceStatuses ts spe = s ↔ s ∈ ts ∧ (∀ t ∈ ts, t = s) ∧ (spe = true → s = .failed) := by
  unfold reduceStatuses
  rcases ts with _ | ⟨t, ts⟩
  · simp [hs.symm]
  · dsimp only
    split_ifs with hconf
    · simp only [Bool.or_eq_true, List.any_eq_true, bne_iff_ne, Bool.and_eq_true, beq_iff_eq]
        at hconf
      constructor
      · intro h
        exact absurd h.symm hs
      · rintro ⟨-, hall, hspe⟩
        obtain rfl := hall t (by simp)
        rcases hconf with ⟨u, hu, hne⟩ | ⟨hspe', h | h⟩
        · exact absurd (hall u (by simp [hu])) hne
        · simp [h] at hspe
          simp [hspe] at hspe'
        · simp [h] at hspe
          simp [hspe] at hspe'
    · simp only [Bool.or_eq_true, List.any_eq_true, bne_iff_ne, Bool.and_eq_true, beq_iff_eq,
        not_or, not_exists, not_and, not_not] at hconf
      obtain ⟨hall, hspe⟩ := hconf
      constructor
      · rintro rfl
        refine ⟨by simp, ?_, fun h => ?_⟩
        · intro u hu
          rcases List.mem_cons.mp hu with rfl | hu
          · rfl
          · exact hall u hu
        · have := hspe h
          cases t <;> simp_all
      · rintro ⟨-, hall', -⟩
        exact hall' t (by simp)

/-- A conflicting or unrecognized field makes the decision unknown. -/
theorem resolveStatus_unknown (d : PaymentDecisionFields)
    (h : ∃ f ∈ d.fields, f.invalidOrConflicting = true ∨ f.unrecognized = true) :
    d.resolveStatus.1 = .unknown := by
  obtain ⟨f, hf, h⟩ := h
  unfold PaymentDecisionFields.resolveStatus
  by_cases h1 : d.fields.any (·.invalidOrConflicting)
  · rw [if_pos h1]
  · have h2 : d.fields.any (·.unrecognized) := by
      rw [List.any_eq_true] at h1 ⊢
      rcases h with h | h
      · exact absurd ⟨f, hf, h⟩ h1
      · exact ⟨f, hf, h⟩
    rw [if_neg h1, if_pos h2]

/-- Otherwise the decision is the reduction of the payment statuses of the fields. -/
theorem resolveStatus_eq_reduce (d : PaymentDecisionFields)
    (h : ∀ f ∈ d.fields, f.invalidOrConflicting = false ∧ f.unrecognized = false) :
    d.resolveStatus.1 = reduceStatuses
      (d.fields.filterMap fun f => f.evidence.bind DecisionEvidence.toPaymentStatus)
      d.sawProviderError := by
  have hinv : d.fields.any (·.invalidOrConflicting) = false := by
    rw [List.any_eq_false]
    intro f hf
    simp [(h f hf).1]
  have hun : d.fields.any (·.unrecognized) = false := by
    rw [List.any_eq_false]
    intro f hf
    simp [(h f hf).2]
  unfold PaymentDecisionFields.resolveStatus reduceStatuses
  rw [hinv, hun]
  simp only [Bool.false_eq_true, if_false]
  split
  · split_ifs <;> rfl
  · split_ifs <;> rfl

end SyrupRail.Nmi
