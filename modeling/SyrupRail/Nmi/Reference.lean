import SyrupRail.Lib.Fields
import SyrupRail.Nmi.Report

/-!
# Order references

The order reference of an attempt names its namespace, its kind, and its identifier, between
underscores. No part has an underscore, so that a reference splits into its parts again
(`parts_referenceText`), and `nmi_mutation_reference_attempt_id` finds the attempt of exactly the
references that are generated.

The texts of a UUID belong to another crate, and are the parameter `UuidText`.
-/

namespace SyrupRail.Nmi

open RustText

/-! ## The code -/

/-- The texts of a UUID: `Uuid::simple` and `Uuid::parse_str`. -/
structure UuidText (Uuid : Type) where
  simple : Uuid → String
  parse : String → Option Uuid

/-- A hexadecimal digit in lower case. -/
def isLowerHex (c : Char) : Bool := c.isDigit || ('a' ≤ c && c ≤ 'f')

/-- A text of 32 hexadecimal digits in lower case. -/
def isSimpleUuid (cs : List Char) : Bool := cs.length == 32 && cs.all isLowerHex

/-- What the crate says of these texts: the simple text of a UUID is 32 digits in lower case, and
such a text is that of the UUID it is parsed to. -/
structure UuidText.Lawful {Uuid : Type} (uuids : UuidText Uuid) : Prop where
  simple_digits : ∀ id, isSimpleUuid (uuids.simple id).toList = true
  parse_simple : ∀ id, uuids.parse (uuids.simple id) = some id
  simple_parse : ∀ text id, isSimpleUuid text.toList = true → uuids.parse text = some id →
    uuids.simple id = text

/-- Two ASCII letters in lower case; of these the octets are the characters. -/
def isNamespace (cs : List Char) : Bool := cs.length == 2 && cs.all Char.isLower

/-- `NmiMutationNamespace`. -/
structure NmiMutationNamespace where
  text : String
  valid : isNamespace text.toList = true
  deriving DecidableEq

/-- `NmiMutationNamespace::new`. -/
def NmiMutationNamespace.new (value : String) : Option NmiMutationNamespace :=
  if h : isNamespace value.toList = true then some ⟨value, h⟩ else none

/-- The token of a kind. -/
def kindToken : PaymentAttemptKind → String
  | .hostCharge => "order"
  | .subscriptionInitial => "base-sub"
  | .subscriptionRenewal => "renewal"
  | .subscriptionRecovery => "recovery"
  | .subscriptionPaymentMethodUpdate => "payment-method"

section Code

variable {Uuid : Type} (rules : TextRules) (uuids : UuidText Uuid)

/-- `GatewayOrderId::from_generated_attempt`. -/
def fromGeneratedAttempt (value : String) (attemptId : Uuid) :
    Except GatewayReferenceValueError String :=
  let value := trim value
  let suffix := (uuids.simple attemptId).toList
  let start := value.toList.take (value.toList.length - suffix.length)
  if value.isEmpty then .error .empty
  else if maxGatewayTextBytes < value.utf8ByteSize then .error .tooLong
  else if !(value.toList.all fun c => c.isAlphanum || c == '_' || c == '-' || c == '.') then
    .error .unsupportedCorrelationCharacter
  else if !suffix.isSuffixOf value.toList then .error .generatedOrderAttemptMismatch
  else if !(start.getLast?.any fun c => c == '_' || c == '-' || c == '.') then
    .error .generatedOrderAttemptMismatch
  else if rules.stringContainsRawCardData (String.ofList start) then .error .rawCardData
  else .ok value

/-- The text of a reference. -/
def referenceText (ns : NmiMutationNamespace) (kind : PaymentAttemptKind) (attemptId : Uuid) :
    String :=
  ns.text ++ "_" ++ kindToken kind ++ "_" ++ uuids.simple attemptId

/-- `for_attempt`; an error is a panic. -/
def forAttempt (ns : NmiMutationNamespace) (kind : PaymentAttemptKind) (attemptId : Uuid) :
    Except String String :=
  expect "validated namespace, closed kind token, and UUID form a valid NMI order ID"
    (fromGeneratedAttempt rules uuids (referenceText uuids ns kind attemptId) attemptId)

/-- `nmi_mutation_reference_attempt_id`. -/
def nmiMutationReferenceAttemptId (value : String) : Option Uuid :=
  match value.toList.splitOn '_' with
  | [ns, kind, attemptId] =>
    if isNamespace ns &&
        ["order", "base-sub", "renewal", "recovery", "payment-method"].contains
          (String.ofList kind) &&
        isSimpleUuid attemptId then
      uuids.parse (String.ofList attemptId)
    else none
  | _ => none

/-- `validated_report_order_id`. -/
def validatedReportOrderId (value : Option String) : Option String :=
  value.bind fun value =>
    let value := trim value
    match nmiMutationReferenceAttemptId uuids value with
    | some attemptId => (fromGeneratedAttempt rules uuids value attemptId).toOption
    | none => (rules.fromCorrelation value).toOption

end Code

/-! ## The characters of a reference -/

/-- The characters of a reference. -/
def isReferenceChar (c : Char) : Bool := c.isLower || c.isDigit || c == '_' || c == '-'

/-- A reference is a text of ASCII without blanks that a correlation may have. -/
theorem referenceChar_spec {c : Char} (h : isReferenceChar c = true) :
    c.toNat < 128 ∧ isWhitespace c = false ∧ c ≠ '%' ∧
      (c.isAlphanum || c == '_' || c == '-' || c == '.') = true := by
  have hascii : c.toNat < 128 := by
    unfold isReferenceChar at h
    simp only [isLower_eq, Char.isDigit, Bool.or_eq_true, Bool.and_eq_true, decide_eq_true_eq,
      UInt32.le_iff_toNat_le, beq_iff_eq] at h
    have hnat : c.toNat = c.val.toNat := rfl
    have hz : 'z'.val.toNat = 122 := rfl
    have hnine : '9'.val.toNat = 57 := rfl
    rcases h with ((h | h) | rfl) | rfl
    · omega
    · omega
    · decide
    · decide
  have hall : ∀ n < 128, isReferenceChar (Char.ofNat n) = true →
      isWhitespace (Char.ofNat n) = false ∧ Char.ofNat n ≠ '%' ∧
        ((Char.ofNat n).isAlphanum || Char.ofNat n == '_' || Char.ofNat n == '-' ||
          Char.ofNat n == '.') = true := by
    decide +kernel
  have hc := hall c.toNat hascii
  rw [Char.ofNat_toNat] at hc
  exact ⟨hascii, hc h⟩

/-- The parts of a reference have no underscore, and only characters of a reference. -/
theorem lower_spec {c : Char} (h : c.isLower = true) : c ≠ '_' ∧ isReferenceChar c = true := by
  constructor
  · rintro rfl
    exact absurd h (by decide)
  · unfold isReferenceChar
    rw [h]
    rfl

/-- The same of a hexadecimal digit. -/
theorem lowerHex_spec {c : Char} (h : isLowerHex c = true) :
    c ≠ '_' ∧ isReferenceChar c = true := by
  unfold isLowerHex at h
  rw [Bool.or_eq_true, Bool.and_eq_true, decide_eq_true_eq, decide_eq_true_eq] at h
  rcases h with h | ⟨hlo, hhi⟩
  · refine ⟨?_, ?_⟩
    · rintro rfl
      exact absurd h (by decide)
    · unfold isReferenceChar
      rw [h, Bool.or_true]
      rfl
  · refine lower_spec ?_
    have hz : 'f' ≤ 'z' := by decide
    simp only [isLower_eq, Bool.and_eq_true, decide_eq_true_eq]
    exact ⟨hlo, hhi.trans hz⟩

/-- The same of a token, and its length. -/
theorem kindToken_spec (kind : PaymentAttemptKind) :
    (∀ c ∈ (kindToken kind).toList, c ≠ '_' ∧ isReferenceChar c = true ∧ c.isDigit = false) ∧
      (kindToken kind).toList.length ≤ 14 := by
  have hall : ((kindToken kind).toList.all fun c =>
      c ≠ '_' ∧ isReferenceChar c = true ∧ c.isDigit = false) = true := by
    cases kind <;> decide +kernel
  exact ⟨List.all_iff_forall_prop.mp hall, by cases kind <;> decide +kernel⟩

/-- The token determines the kind. -/
theorem kindToken_injective : Function.Injective kindToken := by
  intro kind kind' h
  cases kind <;> cases kind' <;> first | rfl | exact absurd h (by decide)

/-- A token that is recognized is that of a kind. -/
theorem exists_kindToken {token : String}
    (h : ["order", "base-sub", "renewal", "recovery", "payment-method"].contains token = true) :
    ∃ kind, kindToken kind = token := by
  simp only [List.contains_cons, List.contains_nil, Bool.or_false, Bool.or_eq_true, beq_iff_eq] at h
  rcases h with rfl | rfl | rfl | rfl | rfl
  · exact ⟨.hostCharge, rfl⟩
  · exact ⟨.subscriptionInitial, rfl⟩
  · exact ⟨.subscriptionRenewal, rfl⟩
  · exact ⟨.subscriptionRecovery, rfl⟩
  · exact ⟨.subscriptionPaymentMethodUpdate, rfl⟩

/-- Every token is recognized. -/
theorem contains_kindToken (kind : PaymentAttemptKind) :
    ["order", "base-sub", "renewal", "recovery", "payment-method"].contains (kindToken kind) =
      true := by
  cases kind <;> decide +kernel

/-! ## Generated references -/

section Generated

variable {Uuid : Type} {rules : TextRules} {uuids : UuidText Uuid}

/-- The parts of a namespace. -/
theorem isNamespace_spec {cs : List Char} (h : isNamespace cs = true) :
    cs.length = 2 ∧ ∀ c ∈ cs, c.isLower = true := by
  unfold isNamespace at h
  rwa [Bool.and_eq_true, beq_iff_eq, List.all_eq_true] at h

/-- The digits of a simple UUID. -/
theorem isSimpleUuid_spec {cs : List Char} (h : isSimpleUuid cs = true) :
    cs.length = 32 ∧ ∀ c ∈ cs, isLowerHex c = true := by
  unfold isSimpleUuid at h
  rwa [Bool.and_eq_true, beq_iff_eq, List.all_eq_true] at h

/-- The characters of a reference, in front of the identifier. -/
def referenceStart (ns : NmiMutationNamespace) (kind : PaymentAttemptKind) : List Char :=
  ns.text.toList ++ '_' :: ((kindToken kind).toList ++ ['_'])

/-- A reference is its start and the identifier. -/
theorem toList_referenceText (ns : NmiMutationNamespace) (kind : PaymentAttemptKind) (id : Uuid) :
    (referenceText uuids ns kind id).toList = referenceStart ns kind ++
      (uuids.simple id).toList := by
  unfold referenceText referenceStart
  simp [String.toList_append]

/-- The start of a reference has no digits. -/
theorem referenceStart_spec (ns : NmiMutationNamespace) (kind : PaymentAttemptKind) :
    (referenceStart ns kind).length ≤ 18 ∧ (referenceStart ns kind).getLast? = some '_' ∧
      ∀ c ∈ referenceStart ns kind, isReferenceChar c = true ∧ c.isDigit = false := by
  obtain ⟨hlength, hlower⟩ := isNamespace_spec ns.valid
  obtain ⟨hkind, hshort⟩ := kindToken_spec kind
  unfold referenceStart
  refine ⟨?_, ?_, fun c hc => ?_⟩
  · rw [List.length_append, List.length_cons, List.length_append, List.length_singleton]
    omega
  · rw [← List.cons_append, ← List.append_assoc, List.getLast?_concat]
  · have hscore : isReferenceChar '_' = true ∧ '_'.isDigit = false := by decide
    rw [List.mem_append, List.mem_cons, List.mem_append, List.mem_singleton] at hc
    rcases hc with hc | rfl | hc | rfl
    · have hnodigit : c.isDigit = false := by
        have hc' := hlower c hc
        simp only [isLower_eq, Bool.and_eq_true, decide_eq_true_eq, UInt32.le_iff_toNat_le] at hc'
        have ha : 'a'.val.toNat = 97 := rfl
        have hnine : '9'.val.toNat = 57 := rfl
        simp only [Char.isDigit, Bool.and_eq_false_iff, decide_eq_false_iff_not,
          UInt32.le_iff_toNat_le]
        omega
      exact ⟨(lower_spec (hlower c hc)).2, hnodigit⟩
    · exact hscore
    · exact (hkind c hc).2
    · exact hscore

variable (huuids : uuids.Lawful)

include huuids

/-- The characters of a generated reference. -/
theorem mem_referenceText (ns : NmiMutationNamespace) (kind : PaymentAttemptKind) (id : Uuid)
    {c : Char} (hc : c ∈ (referenceText uuids ns kind id).toList) : isReferenceChar c = true := by
  rw [toList_referenceText, List.mem_append] at hc
  rcases hc with hc | hc
  · exact ((referenceStart_spec ns kind).2.2 c hc).1
  · exact (lowerHex_spec ((isSimpleUuid_spec (huuids.simple_digits id)).2 c hc)).2

/-- A generated reference has at most 50 octets. -/
theorem utf8ByteSize_referenceText (ns : NmiMutationNamespace) (kind : PaymentAttemptKind)
    (id : Uuid) : (referenceText uuids ns kind id).utf8ByteSize ≤ 50 ∧
      referenceText uuids ns kind id ≠ "" := by
  have hbytes : (referenceText uuids ns kind id).utf8ByteSize =
      (referenceText uuids ns kind id).toList.length :=
    utf8ByteSize_of_ascii fun c hc =>
      (referenceChar_spec (mem_referenceText huuids ns kind id hc)).1
  have hlength : (referenceText uuids ns kind id).toList.length =
      (referenceStart ns kind).length + 32 := by
    rw [toList_referenceText, List.length_append, (isSimpleUuid_spec (huuids.simple_digits id)).1]
  have hshort := (referenceStart_spec ns kind).1
  refine ⟨by omega, fun hempty => ?_⟩
  rw [hempty] at hlength
  simp at hlength

/-- A generated reference splits into its parts. -/
theorem parts_referenceText (ns : NmiMutationNamespace) (kind : PaymentAttemptKind) (id : Uuid) :
    (referenceText uuids ns kind id).toList.splitOn '_' =
      [ns.text.toList, (kindToken kind).toList, (uuids.simple id).toList] := by
  have hns : '_' ∉ ns.text.toList :=
    fun hmem => (lower_spec ((isNamespace_spec ns.valid).2 _ hmem)).1 rfl
  have hkind : '_' ∉ (kindToken kind).toList := fun hmem => ((kindToken_spec kind).1 _ hmem).1 rfl
  have hid : '_' ∉ (uuids.simple id).toList :=
    fun hmem => (lowerHex_spec ((isSimpleUuid_spec (huuids.simple_digits id)).2 _ hmem)).1 rfl
  have hlist : (referenceText uuids ns kind id).toList =
      ns.text.toList ++ '_' :: ((kindToken kind).toList ++ '_' :: (uuids.simple id).toList) := by
    rw [toList_referenceText, referenceStart]
    simp
  rw [hlist, List.splitOn_append_cons_self_of_not_mem hns,
    List.splitOn_append_cons_self_of_not_mem hkind, List.splitOn_eq_singleton hid]

/-- A generated reference determines the namespace, the kind, and the attempt. -/
theorem referenceText_injective {ns ns' : NmiMutationNamespace} {kind kind' : PaymentAttemptKind}
    {id id' : Uuid} (h : referenceText uuids ns kind id = referenceText uuids ns' kind' id') :
    ns = ns' ∧ kind = kind' ∧ id = id' := by
  have hparts := parts_referenceText huuids ns kind id
  rw [h, parts_referenceText huuids ns' kind' id'] at hparts
  simp only [List.cons.injEq, String.toList_inj, and_true] at hparts
  obtain ⟨hns, hkind, hid⟩ := hparts
  have hsame : some id' = some id := by
    rw [← huuids.parse_simple id', ← huuids.parse_simple id, hid]
  obtain ⟨text, valid⟩ := ns
  obtain ⟨text', valid'⟩ := ns'
  cases hns
  exact ⟨rfl, (kindToken_injective hkind).symm, (Option.some.inj hsame).symm⟩

/-- A generated reference passes the check of its constructor: behind its start, which has no
digits, stands the identifier of the attempt. -/
theorem fromGeneratedAttempt_referenceText (hrules : rules.Lawful) (ns : NmiMutationNamespace)
    (kind : PaymentAttemptKind) (id : Uuid) :
    fromGeneratedAttempt rules uuids (referenceText uuids ns kind id) id =
      .ok (referenceText uuids ns kind id) := by
  have hchars {c : Char} (hc : c ∈ (referenceText uuids ns kind id).toList) :=
    referenceChar_spec (mem_referenceText huuids ns kind id hc)
  have htrim : trim (referenceText uuids ns kind id) = referenceText uuids ns kind id :=
    trim_eq fun c hc => (hchars hc).2.1
  obtain ⟨hbytes, hne⟩ := utf8ByteSize_referenceText huuids ns kind id
  obtain ⟨-, hlast, hstart⟩ := referenceStart_spec ns kind
  have htake : (referenceText uuids ns kind id).toList.take
      ((referenceText uuids ns kind id).toList.length - (uuids.simple id).toList.length) =
      referenceStart ns kind := by
    rw [toList_referenceText, List.length_append, Nat.add_sub_cancel, List.take_left]
  have hcard : rules.stringContainsRawCardData (String.ofList (referenceStart ns kind)) =
      false := by
    have hranges : rules.rawCardDataRanges (referenceStart ns kind) = [] := by
      refine rules.rawCardDataRanges_of_no_digit (fun hmem => ?_) fun c hc => ?_
      · exact (referenceChar_spec (hstart _ hmem).1).2.2.1 rfl
      · rw [hrules.decimalDigitValue_ascii c (referenceChar_spec (hstart c hc).1).1,
          (hstart c hc).2]
        rfl
    unfold TextRules.stringContainsRawCardData
    rw [String.toList_ofList, hranges]
    rfl
  have hsuffix : (uuids.simple id).toList.isSuffixOf (referenceText uuids ns kind id).toList =
      true := by
    rw [List.isSuffixOf_iff_suffix, toList_referenceText]
    exact List.suffix_append _ _
  unfold fromGeneratedAttempt
  dsimp only
  rw [htrim, htake, hlast, hcard, hsuffix, if_neg (by simpa using hne),
    if_neg (by unfold maxGatewayTextBytes; omega), if_neg]
  · rfl
  · rw [Bool.not_eq_true', Bool.not_eq_false, List.all_eq_true]
    exact fun c hc => (hchars hc).2.2.2

/-- `for_attempt` does not panic, and returns the text of the reference. -/
theorem forAttempt_eq (hrules : rules.Lawful) (ns : NmiMutationNamespace)
    (kind : PaymentAttemptKind) (id : Uuid) :
    forAttempt rules uuids ns kind id = .ok (referenceText uuids ns kind id) := by
  unfold forAttempt
  rw [fromGeneratedAttempt_referenceText huuids hrules]
  rfl

/-- The attempt is found in exactly the references that are generated for it. -/
theorem nmiMutationReferenceAttemptId_eq_some {value : String} {id : Uuid} :
    nmiMutationReferenceAttemptId uuids value = some id ↔
      ∃ ns kind, value = referenceText uuids ns kind id := by
  constructor
  · intro h
    unfold nmiMutationReferenceAttemptId at h
    split at h
    · rename_i ns kind attemptId hparts
      split_ifs at h with hshape
      rw [Bool.and_eq_true, Bool.and_eq_true] at hshape
      obtain ⟨⟨hns, hkind⟩, hid⟩ := hshape
      obtain ⟨kind', hkind'⟩ := exists_kindToken hkind
      have hsimple := huuids.simple_parse (String.ofList attemptId) id
        (by rwa [String.toList_ofList]) h
      refine ⟨⟨String.ofList ns, by rwa [String.toList_ofList]⟩, kind', ?_⟩
      have hjoin : ['_'].intercalate (value.toList.splitOn '_') = value.toList :=
        List.intercalate_splitOn '_'
      rw [hparts] at hjoin
      apply String.toList_injective
      rw [toList_referenceText, referenceStart, hkind', hsimple, ← hjoin]
      simp
    · cases h
  · rintro ⟨ns, kind, rfl⟩
    have hshape : (isNamespace ns.text.toList &&
        ["order", "base-sub", "renewal", "recovery", "payment-method"].contains
          (String.ofList (kindToken kind).toList) && isSimpleUuid (uuids.simple id).toList) =
              true := by
      rw [ns.valid, String.ofList_toList, contains_kindToken, huuids.simple_digits]
      rfl
    unfold nmiMutationReferenceAttemptId
    rw [parts_referenceText huuids]
    dsimp only
    rw [if_pos hshape, String.ofList_toList, huuids.parse_simple]

end Generated

/-- References are decodable and do not collide. Generating one never panics, it has at most 50
octets and passes its own check, and determines the namespace, the kind, and the attempt; the
attempt is found in exactly the references that are generated for it; and the order of a report is
admitted unchanged when it is one of them, and through the scan for card data otherwise. -/
theorem references_decodable {Uuid : Type} {rules : TextRules} {uuids : UuidText Uuid}
    (hrules : rules.Lawful) (huuids : uuids.Lawful) :
    (∀ ns kind id, ∃ reference, forAttempt rules uuids ns kind id = .ok reference ∧
      reference.utf8ByteSize ≤ 50 ∧ fromGeneratedAttempt rules uuids reference id = .ok reference) ∧
    (∀ ns kind id ns' kind' id',
      forAttempt rules uuids ns kind id = forAttempt rules uuids ns' kind' id' →
      ns = ns' ∧ kind = kind' ∧ id = id') ∧
    (∀ value id, nmiMutationReferenceAttemptId uuids value = some id ↔
      ∃ ns kind, forAttempt rules uuids ns kind id = .ok value) ∧
    (∀ ns kind id reference, forAttempt rules uuids ns kind id = .ok reference →
      validatedReportOrderId rules uuids (some reference) = some reference) ∧
    (∀ value, (∀ ns kind id, forAttempt rules uuids ns kind id ≠ .ok (trim value)) →
      validatedReportOrderId rules uuids (some value) =
        (rules.fromCorrelation value).toOption) := by
  have hgenerated := forAttempt_eq huuids hrules
  have hdecoded {value : String} {id : Uuid} : nmiMutationReferenceAttemptId uuids value = some id ↔
      ∃ ns kind, forAttempt rules uuids ns kind id = .ok value := by
    rw [nmiMutationReferenceAttemptId_eq_some huuids]
    simp only [hgenerated, Except.ok.injEq, eq_comm]
  refine ⟨fun ns kind id => ?_, fun ns kind id ns' kind' id' h => ?_, fun value id => hdecoded,
    fun ns kind id reference h => ?_, fun value h => ?_⟩
  · exact ⟨_, hgenerated ns kind id, (utf8ByteSize_referenceText huuids ns kind id).1,
      fromGeneratedAttempt_referenceText huuids hrules ns kind id⟩
  · rw [hgenerated, hgenerated] at h
    exact referenceText_injective huuids (Except.ok.inj h)
  -- A reference of the adapter's own is found again as it was sent.
  · have hfound := hdecoded.mpr ⟨ns, kind, h⟩
    rw [hgenerated] at h
    cases h
    have htrim : trim (referenceText uuids ns kind id) = referenceText uuids ns kind id :=
      trim_eq fun c hc => (referenceChar_spec (mem_referenceText huuids ns kind id hc)).2.1
    unfold validatedReportOrderId
    rw [Option.bind_some, htrim]
    dsimp only
    rw [hfound]
    dsimp only
    rw [fromGeneratedAttempt_referenceText huuids hrules]
    rfl
  -- Any other one is a correlation value of the host.
  · have hnone : nmiMutationReferenceAttemptId uuids (trim value) = none := by
      cases hfound : nmiMutationReferenceAttemptId uuids (trim value) with
      | none => rfl
      | some id =>
        obtain ⟨ns, kind, heq⟩ := hdecoded.mp hfound
        exact absurd heq (h ns kind id)
    have hcorrelation : rules.fromCorrelation (trim value) = rules.fromCorrelation value := by
      unfold TextRules.fromCorrelation
      rw [trim_trim]
    unfold validatedReportOrderId
    rw [Option.bind_some, ← hcorrelation]
    dsimp only
    rw [hnone]

/-- The 128 bits of a UUID, four at a time. -/
abbrev UuidDigits := { digits : List (Fin 16) // digits.length = 32 }

/-- The texts of these: 32 digits in lower case. -/
def uuidDigitsText : UuidText UuidDigits where
  simple digits := String.ofList (digits.val.map fun digit => Nat.digitChar digit.val)
  parse text :=
    if h : text.toList.length = 32 ∧ text.toList.all isLowerHex = true then
      some ⟨text.toList.map fun c => Fin.ofNat 16 ((hexDigit c).getD 0), by simpa using h.1⟩
    else none

/-- These texts are lawful. -/
theorem uuidDigitsText_lawful : uuidDigitsText.Lawful := by
  have hdigit : ∀ digit : Fin 16, isLowerHex (Nat.digitChar digit.val) = true ∧
      Fin.ofNat 16 ((hexDigit (Nat.digitChar digit.val)).getD 0) = digit := by decide +kernel
  have hhex {c : Char} (h : isLowerHex c = true) :
      Nat.digitChar (Fin.ofNat 16 ((hexDigit c).getD 0)).val = c := by
    have hall : ∀ n < 128, isLowerHex (Char.ofNat n) = true →
        Nat.digitChar (Fin.ofNat 16 ((hexDigit (Char.ofNat n)).getD 0)).val = Char.ofNat n := by
      decide +kernel
    have hc := hall c.toNat (referenceChar_spec (lowerHex_spec h).2).1
    rw [Char.ofNat_toNat] at hc
    exact hc h
  have hsimple (id : UuidDigits) : (uuidDigitsText.simple id).toList.length = 32 ∧
      (uuidDigitsText.simple id).toList.all isLowerHex = true := by
    unfold uuidDigitsText
    simp only [String.toList_ofList, List.length_map, List.all_map, List.all_eq_true, Function.comp]
    exact ⟨id.property, fun digit _ => (hdigit digit).1⟩
  refine ⟨fun id => ?_, fun id => ?_, fun text id htext hparse => ?_⟩
  · unfold isSimpleUuid
    rw [(hsimple id).1, (hsimple id).2]
    rfl
  · show (if h : _ then _ else _) = some id
    rw [dif_pos (hsimple id)]
    have hsame :
      ((uuidDigitsText.simple id).toList.map fun c => Fin.ofNat 16 ((hexDigit c).getD 0)) =
        id.val := by
      unfold uuidDigitsText
      rw [String.toList_ofList, List.map_map]
      exact List.map_id'' (fun digit => (hdigit digit).2) _
    exact congrArg some (Subtype.ext hsame)
  · obtain ⟨hlength, hdigits⟩ := isSimpleUuid_spec htext
    have hvalue : uuidDigitsText.parse text = some ⟨text.toList.map fun c =>
        Fin.ofNat 16 ((hexDigit c).getD 0), by simpa using hlength⟩ :=
      dif_pos ⟨hlength, List.all_eq_true.mpr hdigits⟩
    rw [hvalue] at hparse
    cases hparse
    unfold uuidDigitsText
    dsimp only
    apply String.toList_injective
    rw [String.toList_ofList, List.map_map]
    exact (List.map_congr_left fun c hc => hhex (hdigits c hc)).trans (List.map_id _)

/-- The identifier of zeros looks like a card number. Its reference is admitted, and the same
identifier under another name is refused. -/
theorem references_decodable_zeros :
    validatedReportOrderId TextRules.ascii uuidDigitsText
        (some "ck_order_00000000000000000000000000000000") =
      some "ck_order_00000000000000000000000000000000" ∧
    TextRules.ascii.fromCorrelation "ck_other_00000000000000000000000000000000" =
      .error .rawCardData := by
  refine ⟨?_, by decide +kernel⟩
  have h := references_decodable TextRules.ascii_lawful uuidDigitsText_lawful
  refine h.2.2.2.1 ⟨"ck", by decide⟩ .hostCharge ⟨List.replicate 32 0, by simp⟩ _ ?_
  decide +kernel

end SyrupRail.Nmi
