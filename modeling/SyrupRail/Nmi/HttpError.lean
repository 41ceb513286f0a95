import Mathlib.Data.Bool.AllAny
import SyrupRail.Nmi.NotSubmitted

/-!
# Error responses to a payment mutation

An HTTP error says that a mutation was not submitted only where its body does not speak of a
payment. A JSON body is measured against the few members of an error envelope, so that any other
member, at any depth, counts as evidence. A form is searched for the fields of a payment, but only a
body that has the grammar of a form (`IsForm`) is read as one: an error page in HTML or plain text
is classified by its status.
-/

namespace SyrupRail.Nmi

open RustText

/-! ## What speaks of a payment -/

/-- The occurrence of a `status` that only repeats the HTTP status, as a normalized gateway
state. -/
def ScalarOccurrence.RepeatsHttpStatus (o : ScalarOccurrence) (httpStatus : ℕ) : Prop :=
  ∃ value, o.value = some value ∧ parseU16 (normalizeGatewayState value) = some httpStatus

/-- The names of a form that carry an identifier, or the data of a card or its verification. -/
def classicProcessingNames : List String :=
  classicTransactionAliases ++ classicProcessingAliases.flatten

/-- The fields of a form speak of a payment: a decision field other than a `status` that repeats the
HTTP status, or a value of an identifier, a card, or its verification. A blank value is how NMI says
that there is none. -/
def FormEvidence (httpStatus : ℕ) (fields : List (String × String)) : Prop :=
  ∃ field ∈ fields,
    field.1 ∈ ["response", "response_code", "responsecode", "condition"] ∨
      (field.1 = "status" ∧ ¬ (ScalarOccurrence.scalar field.2).RepeatsHttpStatus httpStatus) ∨
      (field.1 ∈ classicProcessingNames ∧ trim field.2 ≠ "")

mutual

/-- The names of the members of a value, at any depth. -/
def LosslessJsonValue.names : LosslessJsonValue → List String
  | .array values => namesOfValues values
  | .object members => namesOfMembers members
  | .null | .bool _ | .number _ | .string _ => []

/-- The names in a list of values. -/
def namesOfValues : List LosslessJsonValue → List String
  | [] => []
  | value :: values => value.names ++ namesOfValues values

/-- The names in a list of members. -/
def namesOfMembers : List (String × LosslessJsonValue) → List String
  | [] => []
  | (name, value) :: members => name :: value.names ++ namesOfMembers members

end

/-- The members of an object speak of a payment: one that is no member of an error envelope, one
with such a name at any depth, or a `status` that does not only repeat the HTTP status. -/
def JsonEvidence (httpStatus : ℕ) (members : List (String × LosslessJsonValue)) : Prop :=
  ∃ member ∈ members,
    member.1 ∉ ["type", "error_code", "message", "ref_id", "details", "status"] ∨
      (∃ name ∈ member.2.names, name ∉ ["fieldName", "message"]) ∨
      (member.1 = "status" ∧ ¬ (jsonScalarOccurrence member.2).RepeatsHttpStatus httpStatus)

/-- A part of a form: a name of lower case letters, digits and `_`, and a value. -/
def IsFormPart (part : List Char) : Prop :=
  ∃ name value, part = name ++ '=' :: value ∧ name ≠ [] ∧ '&' ∉ value ∧
    ∀ c ∈ name, ('a' ≤ c ∧ c ≤ 'z') ∨ c.isDigit = true ∨ c = '_'

/-- The grammar of a form: one part or more, with `&` between them. -/
def IsForm (text : String) : Prop :=
  ∃ parts, parts ≠ [] ∧ (∀ part ∈ parts, IsFormPart part) ∧ text.toList = ['&'].intercalate parts

/-- A body speaks of a payment, read as a JSON object or as a form. -/
def BodyEvidence (decoders : Decoders) (httpStatus : ℕ) (text : String) : Prop :=
  (∃ members, decoders.parseJson text = some (.object members) ∧ JsonEvidence httpStatus members) ∨
    (IsForm text ∧ FormEvidence httpStatus (decoders.parseForm text))

/-! ## The grammar of a form -/

/-- A part that is split off has no separator. -/
theorem not_mem_of_mem_splitOn {sep : Char} {cs part : List Char} (h : part ∈ cs.splitOn sep) :
    sep ∉ part := by
  induction cs generalizing part with
  | nil =>
    rw [List.splitOn_nil, List.mem_singleton] at h
    simp [h]
  | cons c cs ih =>
    rw [List.splitOn_cons_eq_if_modifyHead] at h
    split_ifs at h with hc
    · rcases List.mem_cons.mp h with rfl | h
      · exact List.not_mem_nil
      · exact ih h
    · cases hparts : cs.splitOn sep with
      | nil => exact absurd hparts (List.splitOn_ne_nil sep cs)
      | cons first parts =>
        rw [hparts, List.modifyHead_cons] at h
        rcases List.mem_cons.mp h with rfl | h
        · have hfirst := ih (by rw [hparts]; exact List.mem_cons_self)
          have hne : sep ≠ c := fun heq => hc (by simp [heq])
          simp [hne, hfirst]
        · exact ih (by rw [hparts]; exact List.mem_cons_of_mem _ h)

/-- The characters of a name. -/
theorem isFormName_iff {name : List Char} :
    (name.all fun c => ('a' ≤ c && c ≤ 'z') || c.isDigit || c == '_') = true ↔
      ∀ c ∈ name, ('a' ≤ c ∧ c ≤ 'z') ∨ c.isDigit = true ∨ c = '_' := by
  simp only [List.all_eq_true, Bool.or_eq_true, Bool.and_eq_true, decide_eq_true_eq, beq_iff_eq,
    or_assoc]

/-- Neither separator is in a name. -/
theorem not_mem_of_isFormName {name : List Char}
    (h : ∀ c ∈ name, ('a' ≤ c ∧ c ≤ 'z') ∨ c.isDigit = true ∨ c = '_') :
    '=' ∉ name ∧ '&' ∉ name :=
  ⟨fun hmem => absurd (h _ hmem) (by decide), fun hmem => absurd (h _ hmem) (by decide)⟩

/-- The test of a part, where no separator is in it. -/
theorem isFormPart_iff {part : List Char} (hsep : '&' ∉ part) :
    (part.contains '=' && !(part.takeWhile (· != '=')).isEmpty &&
      (part.takeWhile (· != '=')).all fun c =>
        ('a' ≤ c && c ≤ 'z') || c.isDigit || c == '_') = true ↔ IsFormPart part := by
  simp only [Bool.and_eq_true, isFormName_iff, Bool.not_eq_true', List.isEmpty_eq_false_iff,
    List.contains_iff_mem]
  constructor
  · rintro ⟨⟨hmem, hne⟩, hname⟩
    -- The value begins at the first equals sign.
    obtain ⟨d, value, hdrop⟩ : ∃ d value, part.dropWhile (· != '=') = d :: value := by
      cases hdrop : part.dropWhile (· != '=') with
      | nil => exact absurd (List.dropWhile_eq_nil_iff.mp hdrop _ hmem) (by simp)
      | cons d value => exact ⟨d, value, rfl⟩
    obtain rfl : d = '=' := by
      have hhead := List.head?_dropWhile_not (· != '=') part
      simpa [hdrop] using hhead
    have hsplit : part = part.takeWhile (· != '=') ++ '=' :: value := by
      rw [← hdrop, List.takeWhile_append_dropWhile]
    refine ⟨_, value, hsplit, hne, fun hvalue => hsep ?_, hname⟩
    rw [hsplit]
    exact List.mem_append_right _ (List.mem_cons_of_mem _ hvalue)
  · rintro ⟨name, value, rfl, hne, -, hname⟩
    have htake : (name ++ '=' :: value).takeWhile (· != '=') = name := by
      have hall : ∀ c ∈ name, (c != '=') = true := by
        intro c hc
        have hnot := (not_mem_of_isFormName hname).1
        simpa using fun heq : c = '=' => hnot (heq ▸ hc)
      rw [List.takeWhile_append_of_pos hall]
      simp
    rw [htake]
    exact ⟨⟨by simp, hne⟩, hname⟩

/-- The client's test of a body is the grammar of a form. -/
theorem isClassicFormCandidate_iff {text : String} :
    isClassicFormCandidate text = true ↔ IsForm text := by
  have hparts : isClassicFormCandidate text = true ↔
      text ≠ "" ∧ ∀ part ∈ text.toList.splitOn '&', IsFormPart part := by
    rw [isClassicFormCandidate, Bool.and_eq_true, List.all_eq_true, Bool.not_eq_true']
    refine and_congr (by simp) (forall₂_congr fun part hpart => ?_)
    exact isFormPart_iff (not_mem_of_mem_splitOn hpart)
  rw [hparts]
  constructor
  · rintro ⟨-, hform⟩
    exact ⟨_, List.splitOn_ne_nil _ _, hform, (List.intercalate_splitOn '&').symm⟩
  · rintro ⟨parts, hne, hform, htext⟩
    have hsep : ∀ part ∈ parts, '&' ∉ part := by
      intro part hpart
      obtain ⟨name, value, rfl, -, hvalue, hname⟩ := hform part hpart
      simp [hvalue, (not_mem_of_isFormName hname).2]
    rw [htext, List.splitOn_intercalate '&' hsep hne]
    refine ⟨?_, hform⟩
    rintro rfl
    obtain ⟨first, rest, rfl⟩ := List.exists_cons_of_ne_nil hne
    obtain ⟨name, value, rfl, -⟩ := hform first List.mem_cons_self
    have hlength := congrArg List.length htext
    cases rest <;> simp at hlength

instance (text : String) : Decidable (IsForm text) :=
  decidable_of_iff _ isClassicFormCandidate_iff

/-! ## The status that is repeated -/

/-- Every occurrence of a field that repeats the HTTP status repeats it. -/
theorem repeats_of_genericHttpStatus {os : List ScalarOccurrence} {httpStatus : ℕ}
    (h : ((collect os).finishDecision .gatewayState).genericHttpStatus = some httpStatus) :
    ∀ o ∈ os, o.RepeatsHttpStatus httpStatus := by
  obtain ⟨-, hobserved⟩ := finishDecision_observed (collect os) .gatewayState
  unfold DecisionField.genericHttpStatus at h
  split_ifs at h with hbad
  rw [Bool.or_eq_true, Bool.or_eq_true, not_or, not_or, Bool.not_eq_true] at hbad
  obtain ⟨-, hread⟩ := readable_of_not_conflicting hbad.1.1
  rw [hobserved, (collect_spec os).1] at h
  intro o ho
  obtain ⟨v, hv⟩ := hread o ho
  have hmem : normalizeGatewayState v ∈
      (os.filterMap ScalarOccurrence.value).map (DecisionFieldKind.normalize .gatewayState) :=
    List.mem_map.mpr ⟨v, List.mem_filterMap.mpr ⟨o, ho, hv⟩, rfl⟩
  revert h hmem
  generalize (os.filterMap ScalarOccurrence.value).map (DecisionFieldKind.normalize .gatewayState) =
    l
  intro h hmem
  cases l with
  | nil => cases h
  | cons normalized rest =>
    dsimp only at h
    cases hparse : parseU16 normalized with
    | none =>
      rw [hparse] at h
      cases h
    | some status =>
      rw [hparse] at h
      dsimp only at h
      split_ifs at h with hrange hspelled
      have hstatus : status = httpStatus := Option.some.inj h
      rw [Bool.or_eq_true, not_or, Bool.not_eq_true, Bool.not_eq_true, List.any_eq_false] at hrange
      have hsame : normalizeGatewayState v = normalized := by simpa using hrange.2 _ hmem
      exact ⟨v, hv, by rw [hsame, hparse, hstatus]⟩

/-- Without evidence of processing no decision field occurs, other than a `status` that repeats the
HTTP status. -/
theorem no_decision_of_no_evidence {response code status condition : List ScalarOccurrence}
    {httpStatus : ℕ}
    (h : (PaymentDecisionFields.resolve
      { response := (collect response).finishDecision .response
        responseCode := (collect code).finishDecision .responseCode
        status := (collect status).finishDecision .gatewayState
        condition :=
          (collect condition).finishDecision .gatewayState }).hasPaymentProcessingEvidence
          httpStatus = false) :
    response = [] ∧ code = [] ∧ condition = [] ∧ ∀ o ∈ status, o.RepeatsHttpStatus httpStatus := by
  unfold ResolvedPaymentDecision.hasPaymentProcessingEvidence at h
  rw [Bool.or_eq_false_iff] at h
  obtain ⟨hother, hstatus⟩ := h
  have hother : (((collect response).finishDecision .response).sawOccurrence ||
      ((collect code).finishDecision .responseCode).sawOccurrence ||
      ((collect condition).finishDecision .gatewayState).sawOccurrence) = false := hother
  have hstatus : (((collect status).finishDecision .gatewayState).sawOccurrence &&
      ((collect status).finishDecision .gatewayState).genericHttpStatus != some httpStatus) =
          false :=
    hstatus
  rw [finishDecision_sawOccurrence, finishDecision_sawOccurrence, finishDecision_sawOccurrence,
    Bool.or_eq_false_iff, Bool.or_eq_false_iff, Bool.not_eq_false', Bool.not_eq_false',
    Bool.not_eq_false', List.isEmpty_iff, List.isEmpty_iff, List.isEmpty_iff] at hother
  refine ⟨hother.1.1, hother.1.2, hother.2, ?_⟩
  rw [finishDecision_sawOccurrence, Bool.and_eq_false_iff] at hstatus
  rcases hstatus with hempty | hgeneric
  · have hnil : status = [] := by simpa using hempty
    simp [hnil]
  · exact repeats_of_genericHttpStatus (by simpa using hgeneric)

/-! ## Bodies without evidence -/

/-- A form in which the client finds no evidence does not speak of a payment. -/
theorem not_formEvidence {fields : List (String × String)} {httpStatus : ℕ}
    (h : classicFieldsHavePaymentProcessingEvidence fields httpStatus = false) :
    ¬ FormEvidence httpStatus fields := by
  unfold classicFieldsHavePaymentProcessingEvidence at h
  rw [Bool.or_eq_false_iff, Bool.or_eq_false_iff] at h
  obtain ⟨⟨hdecision, htransaction⟩, hchannels⟩ := h
  obtain ⟨hresponse, hcode, hcondition, hstatus⟩ := no_decision_of_no_evidence hdecision
  have hblank {aliases : List String}
      (hmissing : collectClassicOptionalIdentifier fields aliases = .missing)
      {field : String × String} (hfield : field ∈ fields) (hname : field.1 ∈ aliases) :
      trim field.2 = "" := by
    have ho := (collectIdentifier_eq_missing_iff.mp hmissing (.scalar field.2)
      (mem_classicOccurrences.mpr ⟨field, hfield, hname, rfl⟩)).1
    simpa [ScalarOccurrence.isBlank] using ho
  have hnone {aliases : List String} (hnil : classicOccurrences fields aliases = [])
      {field : String × String} (hfield : field ∈ fields) : field.1 ∉ aliases := by
    intro hname
    have ho : ScalarOccurrence.scalar field.2 ∈ classicOccurrences fields aliases :=
      mem_classicOccurrences.mpr ⟨field, hfield, hname, rfl⟩
    rw [hnil] at ho
    cases ho
  -- A decision field does not occur, a status repeats the HTTP status, and what stands in any other
  -- field is blank.
  rintro ⟨field, hfield, hname | ⟨hname, hrepeat⟩ | ⟨hname, hvalue⟩⟩
  · have h₁ := hnone hresponse hfield
    have h₂ := hnone hcode hfield
    have h₃ := hnone hcondition hfield
    simp only [List.mem_cons, List.not_mem_nil, or_false, not_or] at hname h₁ h₂ h₃
    tauto
  · exact hrepeat (hstatus _ (mem_classicOccurrences.mpr ⟨field, hfield, by simp [hname], rfl⟩))
  · unfold classicProcessingNames at hname
    rcases List.mem_append.mp hname with hname | hname
    · have hmissing : (collectClassicTransactionIdentifier fields).1 = .missing := by
        simpa using htransaction
      exact hvalue (hblank hmissing hfield hname)
    · obtain ⟨aliases, haliases, hname⟩ := List.mem_flatten.mp hname
      have hmissing := List.any_eq_false.mp hchannels aliases haliases
      exact hvalue (hblank (by simpa using hmissing) hfield hname)

/-- A null or a string has no members. -/
theorem names_of_isNullOrString {value : LosslessJsonValue} (h : value.isNullOrString = true) :
    value.names = [] := by
  cases value with
  | null | string _ => rfl
  | bool _ | number _ | array _ | object _ => cases h

/-- A string that is not blank has no members. -/
theorem names_of_isNonblankString {value : LosslessJsonValue} (h : value.isNonblankString = true) :
    value.names = [] := by
  cases value with
  | string _ => rfl
  | null | bool _ | number _ | array _ | object _ => cases h

/-- A value that repeats the HTTP status has no members. -/
theorem names_of_repeats {value : LosslessJsonValue} {httpStatus : ℕ}
    (h : (jsonScalarOccurrence value).RepeatsHttpStatus httpStatus) : value.names = [] := by
  obtain ⟨v, hv, -⟩ := h
  cases value with
  | string _ | number _ | null | bool _ => rfl
  | array _ | object _ => cases hv

/-- The bounded error envelope does not speak of a payment. -/
theorem not_jsonEvidence_of_known {members : List (String × LosslessJsonValue)} {httpStatus : ℕ}
    (h : isKnownPreprocessingHttpErrorEnvelope (.object members) httpStatus = true) :
    ¬ JsonEvidence httpStatus members := by
  have h : (!members.isEmpty &&
      membersAllowed ["type", "error_code", "message", "ref_id", "status"] members && _ &&
      members.all _ && !(paymentDecisionFromJson (.object members)).hasPaymentProcessingEvidence
        httpStatus) = true := h
  simp only [Bool.and_eq_true, List.all_eq_true, Bool.not_eq_true'] at h
  obtain ⟨⟨⟨⟨-, hallowed⟩, -⟩, hvalues⟩, hdecision⟩ := h
  obtain ⟨-, -, -, hstatus⟩ := no_decision_of_no_evidence hdecision
  have hstatus {member : String × LosslessJsonValue} (hmember : member ∈ members)
      (hname : member.1 = "status") :
          (jsonScalarOccurrence member.2).RepeatsHttpStatus httpStatus :=
    hstatus _ (mem_jsonOccurrences.mpr ⟨member, hmember, hname, rfl⟩)
  rintro ⟨member, hmember, hname | ⟨name, hname, -⟩ | ⟨hname, hrepeat⟩⟩
  · unfold membersAllowed at hallowed
    rw [Bool.and_eq_true, List.all_eq_true] at hallowed
    have hin := hallowed.1 member hmember
    simp only [List.contains_iff_mem, List.mem_cons, List.not_mem_nil, or_false] at hin
    simp only [List.mem_cons, List.not_mem_nil, or_false, not_or] at hname
    tauto
  · have hnil : member.2.names = [] := by
      have hvalue := hvalues member hmember
      split_ifs at hvalue with h₁ h₂
      · exact names_of_isNonblankString hvalue
      · exact names_of_isNullOrString hvalue
      · exact names_of_repeats (hstatus hmember (by simpa using hvalue))
    rw [hnil] at hname
    cases hname
  · exact hrepeat (hstatus hmember hname)

/-- Where no name of the allowed ones occurs twice, the last member of a name is the only one. -/
theorem lastField_of_membersAllowed {allowed : List String}
    {members : List (String × LosslessJsonValue)} (h : membersAllowed allowed members = true)
    {member : String × LosslessJsonValue} (hmember : member ∈ members) :
    (LosslessJsonValue.object members).lastField member.1 = some member.2 := by
  unfold membersAllowed at h
  rw [Bool.and_eq_true, List.all_eq_true, List.all_eq_true] at h
  obtain ⟨hallowed, honce⟩ := h
  have hname : member.1 ∈ allowed := by simpa using hallowed member hmember
  have hcount : (members.filter fun other => other.1 == member.1).length ≤ 1 := by
    rw [← List.countP_eq_length_filter]
    simpa using honce member.1 hname
  have hfilter : member ∈ members.filter fun other => other.1 == member.1 :=
    List.mem_filter.mpr ⟨hmember, by simp⟩
  show (members.reverse.find? fun other => other.1 == member.1).map Prod.snd = some member.2
  cases hfind : members.reverse.find? fun other => other.1 == member.1 with
  | none => exact absurd (List.find?_eq_none.mp hfind member (by simpa using hmember)) (by simp)
  | some other =>
    have hname := List.find?_some hfind
    have hother : other ∈ members.filter fun other => other.1 == member.1 :=
      List.mem_filter.mpr ⟨by simpa using List.mem_of_find?_eq_some hfind, by simpa using hname⟩
    obtain ⟨only, honly⟩ := List.length_eq_one_iff.mp
      (le_antisymm hcount (List.length_pos_of_mem hfilter))
    rw [honly, List.mem_singleton] at hother hfilter
    rw [hother, ← hfilter]
    rfl

/-- The names in a list of values are those of its values. -/
theorem mem_namesOfValues {name : String} {values : List LosslessJsonValue} :
    name ∈ namesOfValues values ↔ ∃ value ∈ values, name ∈ value.names := by
  induction values with
  | nil => simp [namesOfValues]
  | cons value values ih => simp [namesOfValues, ih]

/-- The documented details name a field and give a message. -/
theorem names_of_documentedValidationDetails {value : LosslessJsonValue}
    (h : documentedValidationDetails value = true) :
    ∀ name ∈ value.names, name ∈ ["fieldName", "message"] := by
  cases value with
  | null | bool _ | number _ | string _ | object _ => cases h
  | array details =>
    intro name hname
    have h : (!details.isEmpty && details.all _) = true := h
    rw [Bool.and_eq_true, List.all_eq_true] at h
    obtain ⟨detail, hdetail, hname⟩ := mem_namesOfValues.mp hname
    have hshape := h.2 detail hdetail
    cases detail with
    | null | bool _ | number _ | string _ | array _ => exact absurd hshape (by simp)
    | object members =>
      simp only [Bool.and_eq_true, decide_eq_true_eq, List.all_eq_true] at hshape
      obtain ⟨⟨⟨hlength, hnames⟩, hfield⟩, hmessage⟩ := hshape
      obtain ⟨⟨first, v⟩, ⟨second, w⟩, rfl⟩ := List.length_eq_two.mp hlength
      -- One of the two is the name of the field and the other the message, so both are strings.
      have hnames : (first = "fieldName" ∨ first = "message") ∧
          (second = "fieldName" ∨ second = "message") := by simpa using hnames
      have hleaves : v.names = [] ∧ w.names = [] := by
        obtain ⟨rfl | rfl, rfl | rfl⟩ := hnames
        · simp [LosslessJsonValue.lastField, LosslessJsonValue.members] at hmessage
        · simp [LosslessJsonValue.lastField, LosslessJsonValue.members] at hfield hmessage
          exact ⟨names_of_isNonblankString hfield, names_of_isNonblankString hmessage⟩
        · simp [LosslessJsonValue.lastField, LosslessJsonValue.members] at hfield hmessage
          exact ⟨names_of_isNonblankString hmessage, names_of_isNonblankString hfield⟩
        · simp [LosslessJsonValue.lastField, LosslessJsonValue.members] at hfield
      have hname : name = first ∨ name = second := by
        simpa [LosslessJsonValue.names, namesOfMembers, hleaves.1, hleaves.2] using hname
      rcases hname with rfl | rfl
      · simpa using hnames.1
      · simpa using hnames.2

/-- The documented validation envelope does not speak of a payment. -/
theorem not_jsonEvidence_of_documented {members : List (String × LosslessJsonValue)}
    {httpStatus : ℕ} (h : isDocumentedV5ValidationError (.object members) = true) :
    ¬ JsonEvidence httpStatus members := by
  have h : (membersAllowed ["type", "error_code", "message", "ref_id", "details"] members &&
      _ && _ && _ && _ && _) = true := h
  simp only [Bool.and_eq_true] at h
  obtain ⟨⟨⟨⟨⟨hallowed, htype⟩, hcode⟩, hmessage⟩, href⟩, hdetails⟩ := h
  have hname {member : String × LosslessJsonValue} (hmember : member ∈ members) :
      member.1 ∈ ["type", "error_code", "message", "ref_id", "details"] := by
    unfold membersAllowed at hallowed
    rw [Bool.and_eq_true, List.all_eq_true] at hallowed
    simpa using hallowed.1 member hmember
  have hstring {expected : String} {value : LosslessJsonValue}
      (hvalue : LosslessJsonValue.isString expected value = true) : value.names = [] := by
    cases value with
    | string _ => rfl
    | null | bool _ | number _ | array _ | object _ => cases hvalue
  rintro ⟨member, hmember, hother | ⟨name, hnested, hother⟩ | ⟨hstatus, -⟩⟩
  · have hin := hname hmember
    simp only [List.mem_cons, List.not_mem_nil, or_false] at hin
    simp only [List.mem_cons, List.not_mem_nil, or_false, not_or] at hother
    tauto
  · have hlast := lastField_of_membersAllowed hallowed hmember
    have hin := hname hmember
    simp only [List.mem_cons, List.not_mem_nil, or_false] at hin
    rcases hin with heq | heq | heq | heq | heq
    · rw [heq] at hlast
      rw [hlast] at htype
      rw [hstring htype] at hnested
      cases hnested
    · rw [heq] at hlast
      rw [hlast] at hcode
      rw [hstring hcode] at hnested
      cases hnested
    · rw [heq] at hlast
      rw [hlast] at hmessage
      rw [names_of_isNonblankString hmessage] at hnested
      cases hnested
    · rw [heq] at hlast
      rw [hlast] at href
      rw [names_of_isNullOrString href] at hnested
      cases hnested
    · rw [heq] at hlast
      rw [hlast] at hdetails
      exact hother (names_of_documentedValidationDetails hdetails name hnested)
  · have hin := hname hmember
    simp [hstatus] at hin

/-! ## The class of an error response -/

/-- The text of a JSON object begins with its brace, after blanks. -/
def Decoders.ObjectText (decoders : Decoders) : Prop :=
  ∀ text members, decoders.parseJson text = some (.object members) →
    ∃ c ∈ ['\x7b', ' ', '\t', '\n', '\r'], text.toList.head? = some c

/-- The text of a form begins with a name. -/
theorem IsForm.head {text : String} (h : IsForm text) :
    ∀ c ∈ ['\x7b', ' ', '\t', '\n', '\r'], text.toList.head? ≠ some c := by
  intro c hc htext
  obtain ⟨parts, hne, hform, hjoined⟩ := h
  obtain ⟨first, rest, rfl⟩ := List.exists_cons_of_ne_nil hne
  obtain ⟨name, value, rfl, hname, -, hchars⟩ := hform first List.mem_cons_self
  obtain ⟨d, name, rfl⟩ := List.exists_cons_of_ne_nil hname
  have hd : d = c := by
    rw [hjoined] at htext
    cases rest <;> simpa using htext
  have hother : ∀ c ∈ ['\x7b', ' ', '\t', '\n', '\r'],
      ¬ (('a' ≤ c ∧ c ≤ 'z') ∨ c.isDigit = true ∨ c = '_') := by
    simp only [List.mem_cons, List.not_mem_nil, or_false]
    rintro c (rfl | rfl | rfl | rfl | rfl) <;> decide
  exact hother c hc (hd ▸ hchars d List.mem_cons_self)

/-- A body in which the client finds no evidence does not speak of a payment. -/
theorem not_bodyEvidence {decoders : Decoders} {status : ℕ} {text : String}
    (h : hasPaymentProcessingEvidence decoders status text = false) :
    ¬ BodyEvidence decoders status text := by
  unfold hasPaymentProcessingEvidence at h
  rw [Bool.or_eq_false_iff] at h
  rintro (⟨members, hparse, hevidence⟩ | ⟨hcandidate, hevidence⟩)
  · have hknown : isKnownPreprocessingHttpErrorEnvelope (.object members) status = true := by
      simpa [hparse, jsonPaymentErrorEnvelopeIsUnproven] using h.1
    exact not_jsonEvidence_of_known hknown hevidence
  · have hnone : classicFieldsHavePaymentProcessingEvidence (decoders.parseForm text) status =
        false := by
      simpa [classicFormHasPaymentProcessingEvidence, isClassicFormCandidate_iff.mpr hcandidate]
        using h.2
    exact not_formEvidence hnone hevidence

/-- The class that the status of a response gives. -/
theorem certainty_of_httpStatus {decoders : Decoders} {status : ℕ} {text : String}
    (h : (gatewayErrorFromHttpResponse decoders status text).intoMutation.certainty =
      .notSubmitted) :
    (status ∈ [400, 422] ∧
        ∃ detail, gatewayErrorFromHttpResponse decoders status text = .requestRejected detail) ∨
      (status ∈ [401, 403, 404, 405] ∧
        ∃ detail, gatewayErrorFromHttpResponse decoders status text = .configuration detail) := by
  unfold gatewayErrorFromHttpResponse gatewayErrorForHttpStatus at h ⊢
  dsimp only at h ⊢
  split_ifs at h ⊢ with h₁ h₂ h₃
  · exact .inl ⟨by simpa using h₁, _, rfl⟩
  · exact .inr ⟨by simpa using h₂, _, rfl⟩
  · cases h
  · cases h

/-- The documented validation envelope of v5. -/
def DocumentedRejection (decoders : Decoders) (text : String) : Prop :=
  ∃ value, decoders.parseJson text = some value ∧ isDocumentedV5ValidationError value = true

/-- A body that is the documented validation envelope does not speak of a payment. -/
theorem not_bodyEvidence_of_documented {decoders : Decoders} (hdecoders : decoders.ObjectText)
    {text : String} (h : DocumentedRejection decoders text) (status : ℕ) :
    ¬ BodyEvidence decoders status text := by
  obtain ⟨value, hparse, hdocumented⟩ := h
  cases value with
  | null | bool _ | number _ | string _ | array _ => cases hdocumented
  | object members =>
    rintro (⟨others, hothers, hevidence⟩ | ⟨hcandidate, -⟩)
    · have hsame : others = members := by simpa [hparse] using hothers.symm
      exact not_jsonEvidence_of_documented hdocumented (hsame ▸ hevidence)
    · -- An object begins with a brace, and a form with a name.
      obtain ⟨c, hc, hhead⟩ := hdecoders text members hparse
      exact hcandidate.head c hc hhead

/-- The error of a text that came with an HTTP error, in the format of the mutation. -/
def PaymentMutation.httpError (decoders : Decoders) (mutation : PaymentMutation) (status : ℕ)
    (text : String) : WireError :=
  if mutation.usesClassicForm then gatewayErrorFromClassicPaymentHttpResponse decoders status text
  else gatewayErrorFromPaymentHttpResponse decoders status text

/-- An HTTP error ends a mutation with the error of its text, or with an indeterminate one where
there is none. -/
theorem submit_of_httpError (decoders : Decoders) (mutation : PaymentMutation) {status : ℕ}
    (hstatus : isSuccess status = false) (body : ResponseBody) :
    (∃ text, body = .text text ∧ mutation.submit decoders (.response status body) =
        .error (mutation.httpError decoders status text).intoMutation) ∨
      ((∀ text, body ≠ .text text) ∧ ∃ detail,
        mutation.submit decoders (.response status body) = .error (.indeterminate detail)) := by
  have htext (httpError : ℕ → String → WireError) (text : String) :
      mutationText decoders httpError (.response status (.text text)) =
        .error (httpError status text) := by
    show (if isSuccess status then pure text else throw (httpError status text)) = _
    rw [hstatus]
    rfl
  cases hformat : mutation.usesClassicForm with
  | true =>
    rw [submit_classic decoders hformat]
    cases body with
    | text text =>
      left
      refine ⟨text, rfl, ?_⟩
      rw [htext, PaymentMutation.httpError, if_pos hformat]
    | tooLarge | readFailed _ | notUtf8 _ => exact .inr ⟨by simp, _, rfl⟩
  | false =>
    rw [submit_v5 decoders hformat]
    cases body with
    | text text =>
      left
      refine ⟨text, rfl, ?_⟩
      rw [htext, PaymentMutation.httpError, if_neg (by simp [hformat])]
    | tooLarge | readFailed _ | notUtf8 _ => exact .inr ⟨by simp, _, rfl⟩

/-- Where the status alone decides, and is not one that rejects a request, the class is that of the
configuration. -/
theorem configuration_of_httpStatus {decoders : Decoders} {status : ℕ} {text : String}
    (h : (gatewayErrorFromHttpResponse decoders status text).intoMutation.certainty = .notSubmitted)
    (hother : status ∉ [400, 422]) :
    status ∈ [401, 403, 404, 405] ∧
      ∃ detail, gatewayErrorFromHttpResponse decoders status text = .configuration detail := by
  rcases certainty_of_httpStatus h with ⟨hstatus, -⟩ | hconfiguration
  · exact absurd hstatus hother
  · exact hconfiguration

/-- The texts and statuses that prove that a mutation was not submitted. -/
theorem notSubmitted_of_httpError {decoders : Decoders} {mutation : PaymentMutation} {status : ℕ}
    {text : String}
    (h : (mutation.httpError decoders status text).intoMutation.certainty = .notSubmitted) :
    (status ∈ [401, 403, 404, 405] ∧ ¬ BodyEvidence decoders status text ∧
        ∃ detail, mutation.httpError decoders status text = .configuration detail) ∨
      (status = 400 ∧ mutation.usesClassicForm = false ∧ DocumentedRejection decoders text ∧
        ∃ detail, mutation.httpError decoders status text = .requestRejected detail) := by
  unfold PaymentMutation.httpError at h ⊢
  split_ifs at h ⊢ with hformat
  · left
    unfold gatewayErrorFromClassicPaymentHttpResponse at h ⊢
    split_ifs at h ⊢ with hlimit hrejected hevidence
    · have hstatus := (configuration_of_httpStatus h (by simp [hlimit])).1
      simp [hlimit] at hstatus
    · cases h
    · cases h
    · obtain ⟨hstatus, hdetail⟩ := configuration_of_httpStatus h (by simpa using hrejected)
      exact ⟨hstatus, not_bodyEvidence (by simpa using hevidence), hdetail⟩
  · unfold gatewayErrorFromPaymentHttpResponse at h ⊢
    split_ifs at h ⊢ with hlimit hbad hdocumented hundocumented hevidence
    · have hstatus := (configuration_of_httpStatus h (by simp [hlimit])).1
      simp [hlimit] at hstatus
    · right
      rcases certainty_of_httpStatus h with ⟨-, hdetail⟩ | ⟨hstatus, -⟩
      · exact ⟨hbad, by simpa using hformat, (Option.any_eq_true _ _).mp hdocumented, hdetail⟩
      · simp [hbad] at hstatus
    · cases h
    · cases h
    · cases h
    · left
      obtain ⟨hstatus, hdetail⟩ := configuration_of_httpStatus h (by simp [hbad, hundocumented])
      exact ⟨hstatus, not_bodyEvidence (by simpa using hevidence), hdetail⟩

/-- An error says that nothing was submitted, or is of one of the two classes that say nothing. -/
theorem MutationError.certainty_cases (e : MutationError) :
    e.certainty = .notSubmitted ∨
      (∃ detail, e = .indeterminate detail) ∨ ∃ detail, e = .rateLimitedIndeterminate detail := by
  cases e with
  | invalidRequest _ | requestRejected _ | configuration _ | rateLimited _ | unavailable _ =>
    exact .inl rfl
  | indeterminate detail => exact .inr (.inl ⟨detail, rfl⟩)
  | rateLimitedIndeterminate detail => exact .inr (.inr ⟨detail, rfl⟩)

/-- An HTTP error ends every payment mutation with an error. It is indeterminate where the body
speaks of a payment, and it says that nothing was submitted only for a status of the configuration
with a body that does not, or for the documented rejection of a v5 request. -/
theorem not_submitted_of_http_error (decoders : Decoders) (hdecoders : decoders.ObjectText)
    (mutation : PaymentMutation) (status : ℕ) (hstatus : isSuccess status = false)
    (body : ResponseBody) :
    ∃ e, mutation.submit decoders (.response status body) = .error e ∧
      (∀ text, body = .text text → BodyEvidence decoders status text →
        (∃ detail, e = .indeterminate detail) ∨ ∃ detail, e = .rateLimitedIndeterminate detail) ∧
      (e.certainty = .notSubmitted → ∃ text, body = .text text ∧
        ¬ BodyEvidence decoders status text ∧
          ((status ∈ [401, 403, 404, 405] ∧ ∃ detail, e = .configuration detail) ∨
            (status = 400 ∧ mutation.usesClassicForm = false ∧ DocumentedRejection decoders text ∧
              ∃ detail, e = .requestRejected detail))) := by
  rcases submit_of_httpError decoders mutation hstatus body with
    ⟨text, rfl, hsubmit⟩ | ⟨hunread, detail, hsubmit⟩
  · have hproof (hcertainty :
        (mutation.httpError decoders status text).intoMutation.certainty = .notSubmitted) :
        ¬ BodyEvidence decoders status text ∧
          ((status ∈ [401, 403, 404, 405] ∧
              ∃ detail, (mutation.httpError decoders status text).intoMutation =
                .configuration detail) ∨
            (status = 400 ∧ mutation.usesClassicForm = false ∧ DocumentedRejection decoders text ∧
              ∃ detail, (mutation.httpError decoders status text).intoMutation =
                .requestRejected detail)) := by
      rcases notSubmitted_of_httpError hcertainty with
        ⟨hconfiguration, hevidence, detail, herror⟩ | ⟨hrejected, hformat, hdocumented,
          detail, herror⟩
      · exact ⟨hevidence, .inl ⟨hconfiguration, detail, by rw [herror]; rfl⟩⟩
      · exact ⟨not_bodyEvidence_of_documented hdecoders hdocumented status,
          .inr ⟨hrejected, hformat, hdocumented, detail, by rw [herror]; rfl⟩⟩
    refine ⟨_, hsubmit, ?_, fun hcertainty => ⟨text, rfl, hproof hcertainty⟩⟩
    -- A body with evidence is not told as not submitted, and no other certainty is left.
    intro other hother hevidence
    have hsame : other = text := (ResponseBody.text.inj hother).symm
    rcases MutationError.certainty_cases (mutation.httpError decoders status text).intoMutation with
      hcertainty | hindeterminate
    · exact absurd (hsame ▸ hevidence) (hproof hcertainty).1
    · exact hindeterminate
  -- A body that could not be read is indeterminate.
  · refine ⟨_, hsubmit, fun text htext => absurd htext (hunread text), ?_⟩
    intro hcertainty
    cases hcertainty

/-- A form with an approved response, in the grammar of a form, under HTTP 404. -/
theorem not_submitted_of_http_error_approved_form :
    ∃ e, PaymentMutation.storePaymentMethod.submit plainDecoders
        (.response 404 (.text "response=1&transactionid=7")) = .error e ∧
      ((∃ detail, e = .indeterminate detail) ∨ ∃ detail, e = .rateLimitedIndeterminate detail) := by
  obtain ⟨e, hsubmit, hevidence, -⟩ := not_submitted_of_http_error plainDecoders
    (fun _ _ h => by cases h) .storePaymentMethod 404 (by decide)
      (.text "response=1&transactionid=7")
  have hfields : plainDecoders.parseForm "response=1&transactionid=7" =
      [("response", "1"), ("transactionid", "7")] := by
    decide +kernel
  refine ⟨e, hsubmit,
    hevidence _ rfl (.inr ⟨by decide +kernel, ("response", "1"), ?_, .inl (by simp)⟩)⟩
  rw [hfields]
  exact List.mem_cons_self

/-- With a separator at its end the same body has no longer the grammar of a form. Its pairs speak
of an approved payment, and both endpoints classify it by its status. A body that has the grammar,
and an authorization identifier that is blank, is classified so as well. -/
theorem not_submitted_with_fields :
    (FormEvidence 404 (plainDecoders.parseForm "response=1&transactionid=7&") ∧
      PaymentMutation.storePaymentMethod.submit plainDecoders
        (.response 404 (.text "response=1&transactionid=7&")) =
          .error (.configuration "NMI returned HTTP 404 Not Found") ∧
      (PaymentMutation.sale ⟨.customerVault "vault", none, none⟩).submit plainDecoders
        (.response 404 (.text "response=1&transactionid=7&")) =
          .error (.configuration "NMI returned HTTP 404 Not Found")) ∧
    IsForm "authcode=" ∧ plainDecoders.parseForm "authcode=" = [("authcode", "")] ∧
      PaymentMutation.storePaymentMethod.submit plainDecoders (.response 401 (.text "authcode=")) =
        .error (.configuration "NMI returned HTTP 401 Unauthorized") ∧
      (PaymentMutation.sale ⟨.customerVault "vault", none, none⟩).submit plainDecoders
        (.response 401 (.text "authcode=")) =
          .error (.configuration "NMI returned HTTP 401 Unauthorized") := by
  have hfields : plainDecoders.parseForm "response=1&transactionid=7&" =
      [("response", "1"), ("transactionid", "7")] := by
    decide +kernel
  refine ⟨⟨⟨("response", "1"), ?_, .inl (by simp)⟩, ?_, ?_⟩, ?_⟩
  · rw [hfields]
    exact List.mem_cons_self
  · decide +kernel
  · decide +kernel
  · decide +kernel

end SyrupRail.Nmi
