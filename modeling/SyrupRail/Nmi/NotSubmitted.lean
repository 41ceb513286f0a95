import SyrupRail.Nmi.WireOrder
import SyrupRail.Nmi.Client

/-!
# Mutations that were not submitted

When the client says that a payment mutation was not submitted, the caller may submit it again, so
the client may say so only with a proof. Of a successful HTTP response the proof is the documented
throttle, spelled exactly (`throttle_of_success`). Of any other response it is a status that rejects
the endpoint or the credentials, without any sign of a payment in the body, or the documented
validation envelope (`not_submitted_of_http_error`).
-/

namespace SyrupRail.Nmi

open RustText

/-! ## The occurrences behind a decision field -/

/-- A field is seen exactly when it occurs. -/
theorem finishDecision_sawOccurrence (os : List ScalarOccurrence) (kind : DecisionFieldKind) :
    ((collect os).finishDecision kind).sawOccurrence = !os.isEmpty := by
  obtain ⟨hv, hi⟩ := collect_spec os
  unfold ScalarOccurrenceCollector.finishDecision
  cases os with
  | nil => rfl
  | cons o os =>
    cases ho : o.value with
    | none =>
      have hinvalid : (collect (o :: os)).invalid = true := by
        rw [hi, List.any_cons, ho]
        rfl
      rw [hinvalid]
      rfl
    | some v =>
      rw [List.filterMap_cons_some ho] at hv
      rw [hv]
      split_ifs <;> rfl

/-- The exact spelling of a field that is readable and occurs. -/
theorem finishDecision_exactWireSpelling {c : ScalarOccurrenceCollector} {v : String}
    {vs : List String} (hinvalid : c.invalid = false) (hvalues : c.values = v :: vs)
    (kind : DecisionFieldKind) : (c.finishDecision kind).exactWireSpelling =
      (c.exactWireSpellings.head?.bind id).filter fun selected =>
        c.exactWireSpellings.all fun value => value == some selected := by
  unfold ScalarOccurrenceCollector.finishDecision
  rw [hinvalid, hvalues]
  rfl

/-- A readable occurrence whose spelling is kept is a text of that spelling. -/
theorem eq_scalar_of_spelling {o : ScalarOccurrence} {s : String} (h : o.spelling = some (some s)) :
    o = .scalar s := by
  unfold ScalarOccurrence.spelling at h
  cases o with
  | scalar raw =>
    cases hp : parseProviderScalar raw with
    | none => simp [ScalarOccurrence.raw, hp] at h
    | some v =>
      have hraw : raw = s := by
        simp only [ScalarOccurrence.raw, Option.bind_some, hp, Option.map_some, true_and,
          Option.some.injEq] at h
        split_ifs at h
        exact Option.some.inj h
      rw [hraw]
  | coercedScalar raw => simp [ScalarOccurrence.raw] at h
  | null | invalidShape => simp [ScalarOccurrence.raw] at h

/-- A readable occurrence has a spelling, which may be none. -/
theorem exists_spelling_of_value {o : ScalarOccurrence} {v : String} (h : o.value = some v) :
    ∃ spelling, o.spelling = some spelling := by
  unfold ScalarOccurrence.value at h
  unfold ScalarOccurrence.spelling
  cases hr : o.raw with
  | none => simp [hr] at h
  | some r =>
    have hp : parseProviderScalar r.1 = some v := by simpa [hr] using h
    simp [hp]

/-- A field matches a protocol scalar exactly when it occurs and each occurrence is that text. -/
theorem exactlyMatches_iff {s : String} (hs : parseProviderScalar s = some s)
    (hlength : s.length ≤ maxNmiFieldChars)
    (os : List ScalarOccurrence) (kind : DecisionFieldKind) :
    ((collect os).finishDecision kind).exactlyMatches s = true ↔
      os ≠ [] ∧ ∀ o ∈ os, o = .scalar s := by
  have hspellings : (collect os).exactWireSpellings = os.filterMap ScalarOccurrence.spelling := by
    rw [collect, (foldl_record_lists os {}).2.1, List.nil_append]
  obtain ⟨hv, hi⟩ := collect_spec os
  constructor
  · intro h
    unfold DecisionField.exactlyMatches at h
    rw [Bool.and_eq_true, Bool.not_eq_true', beq_iff_eq] at h
    obtain ⟨hconflict, hexact⟩ := h
    obtain ⟨hinvalid, hread⟩ := readable_of_not_conflicting hconflict
    cases os with
    | nil => simp [collect, ScalarOccurrenceCollector.finishDecision, DecisionField.empty] at hexact
    -- Without a conflict every occurrence is readable, and one spelling for all is that of `s`.
    | cons o os =>
      obtain ⟨v, ho⟩ := hread o List.mem_cons_self
      rw [List.filterMap_cons_some ho] at hv
      rw [finishDecision_exactWireSpelling hinvalid hv, exactWireSpelling_eq_some_iff,
        hspellings] at hexact
      refine ⟨by simp, fun o' ho' => ?_⟩
      obtain ⟨w, hw⟩ := hread o' ho'
      obtain ⟨spelling, hspelling⟩ := exists_spelling_of_value hw
      have hsame : spelling = some s :=
        hexact.2 spelling (List.mem_filterMap.mpr ⟨o', ho', hspelling⟩)
      rw [hsame] at hspelling
      exact eq_scalar_of_spelling hspelling
  · rintro ⟨hne, hall⟩
    have hvalue : ∀ o ∈ os, o.value = some s := by
      intro o ho
      rw [hall o ho]
      simpa [ScalarOccurrence.value, ScalarOccurrence.raw] using hs
    have hspelling : ∀ o ∈ os, o.spelling = some (some s) := by
      intro o ho
      rw [hall o ho]
      simp [ScalarOccurrence.spelling, ScalarOccurrence.raw, hs, hlength]
    obtain ⟨o, os', rfl⟩ := List.exists_cons_of_ne_nil hne
    have hinvalid : (collect (o :: os')).invalid = false := by
      rw [hi, List.any_eq_false]
      intro o' ho'
      simp [hvalue o' ho']
    rw [List.filterMap_cons_some (hvalue o List.mem_cons_self)] at hv
    have hagree : ((collect (o :: os')).finishDecision kind).invalidOrConflicting = false := by
      rw [(finishDecision_cons _ kind s _ hinvalid hv).1]
      intro w hw
      obtain ⟨o', ho', hw'⟩ := List.mem_filterMap.mp hw
      have hws : w = s :=
        Option.some.inj (hw'.symm.trans (hvalue o' (List.mem_cons_of_mem o ho')))
      rw [hws]
      exact ⟨rfl, fun _ => rfl⟩
    have hexact : ((collect (o :: os')).finishDecision kind).exactWireSpelling = some s := by
      rw [finishDecision_exactWireSpelling hinvalid hv, exactWireSpelling_eq_some_iff, hspellings,
        List.filterMap_cons_some (hspelling o List.mem_cons_self)]
      refine ⟨by simp, List.forall_mem_cons.mpr ⟨rfl, fun value hvalue' => ?_⟩⟩
      obtain ⟨o', ho', hs'⟩ := List.mem_filterMap.mp hvalue'
      exact Option.some.inj (hs'.symm.trans (hspelling o' (List.mem_cons_of_mem o ho')))
    unfold DecisionField.exactlyMatches
    rw [hagree, hexact]
    simp

/-! ## The documented throttle -/

/-- The fields of the throttle's form that are there without a value. -/
def emptyThrottleFields : List String :=
  ["authcode", "transactionid", "avsresponse", "cvvresponse", "orderid", "type"]

/-- The documented throttle as a form: every `response` is `3` and every `response_code` is `301`,
both occur, and no other field says anything. A `status` or a `condition` is not among them. -/
structure FormThrottle (fields : List (String × String)) : Prop where
  response_occurs : ∃ field ∈ fields, field.1 = "response"
  response_eq : ∀ field ∈ fields, field.1 = "response" → field.2 = "3"
  code_occurs : ∃ field ∈ fields, field.1 = "response_code"
  code_eq : ∀ field ∈ fields, field.1 = "response_code" → field.2 = "301"
  documented : ∀ field ∈ fields, field.1 = "response" ∨ field.1 = "response_code" ∨
    (field.1 = "responsetext" ∧ field.2 = "Rate limit exceeded") ∨
    (field.1 ∈ emptyThrottleFields ∧ field.2 = "")

/-- The names that a throttle's form may have. -/
theorem FormThrottle.name_mem {fields : List (String × String)} (h : FormThrottle fields)
    {field : String × String} (hfield : field ∈ fields) :
    field.1 ∈ "response" :: "response_code" :: "responsetext" :: emptyThrottleFields := by
  rcases h.documented field hfield with hname | hname | hname | hname
  · simp [hname]
  · simp [hname]
  · simp [hname.1]
  · exact List.mem_cons_of_mem _ (List.mem_cons_of_mem _ (List.mem_cons_of_mem _ hname.1))

/-- The documented throttle as a JSON object. A number is not a text, whatever it is. -/
structure JsonThrottle (members : List (String × LosslessJsonValue)) : Prop where
  response_occurs : ∃ member ∈ members, member.1 = "response"
  response_eq : ∀ member ∈ members, member.1 = "response" → member.2 = .string "3"
  code_occurs : ∃ member ∈ members, member.1 = "response_code"
  code_eq : ∀ member ∈ members, member.1 = "response_code" → member.2 = .string "301"
  documented : ∀ member ∈ members, member.1 = "response" ∨ member.1 = "response_code" ∨
    (member.1 = "response_text" ∧ member.2 = .string "Rate limit exceeded")

/-- The throttle's texts are protocol scalars. -/
theorem throttle_scalars :
    (parseProviderScalar "3" = some "3" ∧ "3".length ≤ maxNmiFieldChars) ∧
      parseProviderScalar "301" = some "301" ∧ "301".length ≤ maxNmiFieldChars := by
  decide +kernel

/-- The occurrences of a field are those of its pairs. -/
theorem mem_classicOccurrences {fields : List (String × String)} {aliases : List String}
    {o : ScalarOccurrence} :
    o ∈ classicOccurrences fields aliases ↔
      ∃ field ∈ fields, field.1 ∈ aliases ∧ o = .scalar field.2 := by
  simp only [classicOccurrences, List.mem_map, List.mem_filter, decide_eq_true_eq]
  constructor
  · rintro ⟨field, ⟨hfield, hname⟩, rfl⟩
    exact ⟨field, hfield, hname, rfl⟩
  · rintro ⟨field, hfield, hname, rfl⟩
    exact ⟨field, ⟨hfield, hname⟩, rfl⟩

/-- The occurrences of a direct member are those of the members of its name. -/
theorem mem_jsonOccurrences {members : List (String × LosslessJsonValue)} {name : String}
    {o : ScalarOccurrence} :
    o ∈ jsonOccurrences (.object members) name ↔
      ∃ member ∈ members, member.1 = name ∧ o = jsonScalarOccurrence member.2 := by
  simp only [jsonOccurrences, LosslessJsonValue.members, List.mem_map, List.mem_filter, beq_iff_eq]
  constructor
  · rintro ⟨member, ⟨hmember, hname⟩, rfl⟩
    exact ⟨member, hmember, hname, rfl⟩
  · rintro ⟨member, hmember, hname, rfl⟩
    exact ⟨member, ⟨hmember, hname⟩, rfl⟩

/-- A list of occurrences is empty when it has none. -/
theorem ne_nil_iff {os : List ScalarOccurrence} : os ≠ [] ↔ ∃ o, o ∈ os :=
  List.ne_nil_iff_exists_cons.trans ⟨fun ⟨o, _, h⟩ => ⟨o, h ▸ List.mem_cons_self⟩,
    fun ⟨_, h⟩ => List.exists_cons_of_ne_nil (List.ne_nil_of_mem h)⟩

/-- When four fields resolve to the known throttle. -/
theorem knownPreprocessingRateLimit_iff (response code status condition : List ScalarOccurrence) :
    (PaymentDecisionFields.resolve
      { response := (collect response).finishDecision .response
        responseCode := (collect code).finishDecision .responseCode
        status := (collect status).finishDecision .gatewayState
        condition :=
          (collect condition).finishDecision .gatewayState }).knownPreprocessingRateLimit = true ↔
      ((response ≠ [] ∧ ∀ o ∈ response, o = .scalar "3") ∧ code ≠ [] ∧
        ∀ o ∈ code, o = .scalar "301") ∧ status = [] ∧ condition = [] := by
  obtain ⟨⟨h3, hlen3⟩, h301, hlen301⟩ := throttle_scalars
  show (((collect response).finishDecision .response).exactlyMatches "3" &&
    ((collect code).finishDecision .responseCode).exactlyMatches "301" &&
    !((collect status).finishDecision .gatewayState).sawOccurrence &&
    !((collect condition).finishDecision .gatewayState).sawOccurrence) = true ↔ _
  rw [finishDecision_sawOccurrence, finishDecision_sawOccurrence, Bool.not_not, Bool.not_not,
    Bool.and_eq_true, Bool.and_eq_true, Bool.and_eq_true, exactlyMatches_iff h3 hlen3,
    exactlyMatches_iff h301 hlen301, List.isEmpty_iff, List.isEmpty_iff, and_assoc]

/-- A form of throttle fields carries nothing under the names of an identifier. -/
theorem collectClassicOptionalIdentifier_of_throttle {fields : List (String × String)}
    (h : FormThrottle fields) {aliases : List String}
    (haliases : ∀ name ∈ aliases, name ∉ ["response", "response_code", "responsetext"]) :
    collectClassicOptionalIdentifier fields aliases = .missing := by
  unfold collectClassicOptionalIdentifier
  rw [collectIdentifier_eq_missing_iff]
  intro o ho
  obtain ⟨field, hfield, hname, rfl⟩ := mem_classicOccurrences.mp ho
  have hother := haliases field.1 hname
  simp only [List.mem_cons, List.not_mem_nil, or_false, not_or] at hother
  have hempty : field.2 = "" := by
    rcases h.documented field hfield with h | h | h | h
    · exact absurd h hother.1
    · exact absurd h hother.2.1
    · exact absurd h.1 hother.2.2
    · exact h.2
  rw [hempty]
  exact ⟨by decide, by simp⟩

/-- A form is the known throttle exactly when it is the documented one. -/
theorem classicIsKnownPreprocessingRateLimit_iff (fields : List (String × String)) :
    classicIsKnownPreprocessingRateLimit fields (classicDecision fields) (classicEvidence fields) =
      true ↔ FormThrottle fields := by
  have hknown := knownPreprocessingRateLimit_iff (classicOccurrences fields ["response"])
    (classicOccurrences fields ["response_code", "responsecode"])
    (classicOccurrences fields ["status"]) (classicOccurrences fields ["condition"])
  -- What the code allows of a field, name by name.
  have hfield (field : String × String) : isClassicRateLimitField field = true ↔
      field.1 = "response" ∨ field.1 = "response_code" ∨
        (field.1 = "responsetext" ∧ field.2 = "Rate limit exceeded") ∨
        (field.1 ∈ emptyThrottleFields ∧ field.2 = "") := by
    unfold isClassicRateLimitField emptyThrottleFields
    split_ifs with h₁ h₂ h₃
    · exact iff_of_true rfl (h₁.elim .inl fun h => .inr (.inl h))
    · simp [h₂]
    · have hempty : field.2.isEmpty = true ↔ field.2 = "" := by simp
      rw [not_or] at h₁
      rw [hempty]
      exact ⟨fun he => .inr (.inr (.inr ⟨h₃, he⟩)), fun h => h.elim (absurd · h₁.1) fun h =>
        h.elim (absurd · h₁.2) fun h => h.elim (fun h => absurd h.1 h₂) fun h => h.2⟩
    · rw [not_or] at h₁
      refine iff_of_false (by simp) ?_
      rintro (h | h | h | h)
      · exact h₁.1 h
      · exact h₁.2 h
      · exact h₂ h.1
      · exact h₃ h.1
  unfold classicIsKnownPreprocessingRateLimit
  rw [Bool.and_eq_true, Bool.and_eq_true, List.all_eq_true, List.all_eq_true]
  constructor
  · rintro ⟨⟨hdecision, -⟩, hall⟩
    obtain ⟨⟨⟨hresponse, hresponses⟩, hcode, hcodes⟩, -, -⟩ := hknown.mp hdecision
    have hdocumented := fun field hfield' => (hfield field).mp (hall field hfield')
    refine ⟨?_, ?_, ?_, ?_, hdocumented⟩
    · obtain ⟨o, ho⟩ := ne_nil_iff.mp hresponse
      obtain ⟨field, hmem, hname, -⟩ := mem_classicOccurrences.mp ho
      exact ⟨field, hmem, by simpa using hname⟩
    · intro field hmem hname
      have h := hresponses _ (mem_classicOccurrences.mpr ⟨field, hmem, by simp [hname], rfl⟩)
      exact ScalarOccurrence.scalar.inj h
    · obtain ⟨o, ho⟩ := ne_nil_iff.mp hcode
      obtain ⟨field, hmem, hname, -⟩ := mem_classicOccurrences.mp ho
      have hcodes : field.1 = "response_code" ∨ field.1 = "responsecode" := by simpa using hname
      rcases hcodes with hname | hname
      · exact ⟨field, hmem, hname⟩
      · -- The other spelling of the name is not a field of the throttle.
        have hlimit := hdocumented field hmem
        simp [hname, emptyThrottleFields] at hlimit
    · intro field hmem hname
      have h := hcodes _ (mem_classicOccurrences.mpr ⟨field, hmem, by simp [hname], rfl⟩)
      exact ScalarOccurrence.scalar.inj h
  · intro h
    -- A throttle has only the documented names, so every other collector has seen nothing.
    have hnone {name : String}
        (hname : name ∉ "response" :: "response_code" :: "responsetext" :: emptyThrottleFields) :
        classicOccurrences fields [name] = [] := by
      rw [List.eq_nil_iff_forall_not_mem]
      intro o ho
      obtain ⟨field, hmem, heq, -⟩ := mem_classicOccurrences.mp ho
      rw [List.mem_singleton] at heq
      exact hname (heq ▸ h.name_mem hmem)
    obtain ⟨response, hresponse, hresponseName⟩ := h.response_occurs
    obtain ⟨code, hcode, hcodeName⟩ := h.code_occurs
    refine ⟨⟨hknown.mpr ⟨⟨⟨?_, ?_⟩, ?_, ?_⟩, hnone (by decide), hnone (by decide)⟩, ?_⟩, ?_⟩
    · exact ne_nil_iff.mpr
        ⟨_, mem_classicOccurrences.mpr ⟨response, hresponse, by simp [hresponseName], rfl⟩⟩
    · intro o ho
      obtain ⟨field, hmem, hname, rfl⟩ := mem_classicOccurrences.mp ho
      rw [h.response_eq field hmem (by simpa using hname)]
    · exact ne_nil_iff.mpr ⟨_, mem_classicOccurrences.mpr ⟨code, hcode, by simp [hcodeName], rfl⟩⟩
    · intro o ho
      obtain ⟨field, hmem, hname, rfl⟩ := mem_classicOccurrences.mp ho
      have hcodes : field.1 = "response_code" ∨ field.1 = "responsecode" := by simpa using hname
      rcases hcodes with hname | hname
      · rw [h.code_eq field hmem hname]
      · exact absurd (hname ▸ h.name_mem hmem) (by decide)
    · intro channel hchannel
      rw [decide_eq_true_eq]
      simp only [classicEvidence, List.mem_cons, List.not_mem_nil, or_false] at hchannel
      rcases hchannel with rfl | rfl | rfl | rfl | rfl
      · show collectClassicOptionalIdentifier fields classicTransactionAliases = .missing
        exact collectClassicOptionalIdentifier_of_throttle h (by decide)
      · exact collectClassicOptionalIdentifier_of_throttle h (by decide)
      · exact collectClassicOptionalIdentifier_of_throttle h (by decide)
      · exact collectClassicOptionalIdentifier_of_throttle h (by decide)
      · exact collectClassicOptionalIdentifier_of_throttle h (by decide)
    · intro field hmem
      exact (hfield field).mpr (h.documented field hmem)

/-- A member that reads as a text is that string. -/
theorem eq_string_of_jsonScalarOccurrence {value : LosslessJsonValue} {s : String}
    (h : jsonScalarOccurrence value = .scalar s) : value = .string s := by
  cases value with
  | string text => rw [ScalarOccurrence.scalar.inj h]
  | null | bool _ | number _ | array _ | object _ => cases h

/-- An object is the known throttle exactly when it is the documented one. -/
theorem jsonIsKnownPreprocessingRateLimit_iff (members : List (String × LosslessJsonValue)) :
    jsonIsKnownPreprocessingRateLimit (.object members)
      (paymentDecisionFromJson (.object members)) = true ↔ JsonThrottle members := by
  have hknown := knownPreprocessingRateLimit_iff (jsonOccurrences (.object members) "response")
    (jsonOccurrences (.object members) "response_code") (jsonOccurrences (.object members) "status")
    (jsonOccurrences (.object members) "condition")
  have hmember (member : String × LosslessJsonValue) : isJsonRateLimitField member = true ↔
      member.1 = "response" ∨ member.1 = "response_code" ∨
        (member.1 = "response_text" ∧ member.2 = .string "Rate limit exceeded") := by
    unfold isJsonRateLimitField
    split_ifs with h₁ h₂
    · exact iff_of_true rfl (h₁.imp_right .inl)
    · cases hvalue : member.2 with
      | string message => simp [h₂]
      | null | bool _ | number _ | array _ | object _ => simp [h₂]
    · rw [not_or] at h₁
      exact iff_of_false (by simp) (by simp [h₁.1, h₁.2, h₂])
  show (_ && members.all isJsonRateLimitField) = true ↔ _
  rw [Bool.and_eq_true, List.all_eq_true]
  constructor
  · rintro ⟨hdecision, hall⟩
    obtain ⟨⟨⟨hresponse, hresponses⟩, hcode, hcodes⟩, -, -⟩ := hknown.mp hdecision
    refine ⟨?_, ?_, ?_, ?_, fun member hmem => (hmember member).mp (hall member hmem)⟩
    · obtain ⟨o, ho⟩ := ne_nil_iff.mp hresponse
      obtain ⟨member, hmem, hname, -⟩ := mem_jsonOccurrences.mp ho
      exact ⟨member, hmem, hname⟩
    · intro member hmem hname
      exact eq_string_of_jsonScalarOccurrence
        (hresponses _ (mem_jsonOccurrences.mpr ⟨member, hmem, hname, rfl⟩))
    · obtain ⟨o, ho⟩ := ne_nil_iff.mp hcode
      obtain ⟨member, hmem, hname, -⟩ := mem_jsonOccurrences.mp ho
      exact ⟨member, hmem, hname⟩
    · intro member hmem hname
      exact eq_string_of_jsonScalarOccurrence
        (hcodes _ (mem_jsonOccurrences.mpr ⟨member, hmem, hname, rfl⟩))
  · intro h
    -- A throttle has only the documented members, so `status` and `condition` do not occur.
    have hnone {name : String} (hname : name ∉ ["response", "response_code", "response_text"]) :
        jsonOccurrences (.object members) name = [] := by
      rw [List.eq_nil_iff_forall_not_mem]
      intro o ho
      obtain ⟨member, hmem, heq, -⟩ := mem_jsonOccurrences.mp ho
      simp only [← heq, List.mem_cons, List.not_mem_nil, or_false, not_or] at hname
      rcases h.documented member hmem with hother | hother | hother
      · exact hname.1 hother
      · exact hname.2.1 hother
      · exact hname.2.2 hother.1
    obtain ⟨response, hresponse, hresponseName⟩ := h.response_occurs
    obtain ⟨code, hcode, hcodeName⟩ := h.code_occurs
    refine ⟨hknown.mpr ⟨⟨⟨?_, ?_⟩, ?_, ?_⟩, hnone (by decide), hnone (by decide)⟩,
      fun member hmem => (hmember member).mpr (h.documented member hmem)⟩
    · exact ne_nil_iff.mpr ⟨_, mem_jsonOccurrences.mpr ⟨response, hresponse, hresponseName, rfl⟩⟩
    · intro o ho
      obtain ⟨member, hmem, hname, rfl⟩ := mem_jsonOccurrences.mp ho
      rw [h.response_eq member hmem hname]
      rfl
    · exact ne_nil_iff.mpr ⟨_, mem_jsonOccurrences.mpr ⟨code, hcode, hcodeName, rfl⟩⟩
    · intro o ho
      obtain ⟨member, hmem, hname, rfl⟩ := mem_jsonOccurrences.mp ho
      rw [h.code_eq member hmem hname]
      rfl

/-! ## Successful responses -/

/-- The error of a form: the throttle, or a response without any status. -/
theorem classicPaymentOutcomeFromForm_error {fields : List (String × String)} {e : WireError}
    (h : classicPaymentOutcomeFromForm fields = .error e) :
    (FormThrottle fields ∧ e = rateLimitedWireError) ∨
      (¬ FormThrottle fields ∧ ∃ detail, e = .malformedResponse detail) := by
  unfold classicPaymentOutcomeFromForm at h
  rw [← classicIsKnownPreprocessingRateLimit_iff]
  dsimp only at h
  split_ifs at h with hlimit hmalformed
  · exact .inl ⟨hlimit, (Except.error.inj h).symm⟩
  · exact .inr ⟨hlimit, _, (Except.error.inj h).symm⟩

/-- The throttle is an error. -/
theorem classicPaymentOutcomeFromForm_of_throttle {fields : List (String × String)}
    (h : FormThrottle fields) :
    classicPaymentOutcomeFromForm fields = .error rateLimitedWireError := by
  rw [← classicIsKnownPreprocessingRateLimit_iff] at h
  unfold classicPaymentOutcomeFromForm
  dsimp only
  rw [if_pos h]

/-- The error of a v5 response is the throttle. -/
theorem paymentOutcomeFromJson_error_iff {value : LosslessJsonValue} {e : WireError} :
    paymentOutcomeFromJson value = .error e ↔
      (∃ members, value = .object members ∧ JsonThrottle members) ∧ e = rateLimitedWireError := by
  have hlimit : jsonIsKnownPreprocessingRateLimit value (paymentDecisionFromJson value) = true ↔
      ∃ members, value = .object members ∧ JsonThrottle members := by
    cases value with
    | object members =>
      rw [jsonIsKnownPreprocessingRateLimit_iff]
      exact ⟨fun h => ⟨members, rfl, h⟩, fun ⟨_, heq, h⟩ => LosslessJsonValue.object.inj heq ▸ h⟩
    | null | bool _ | number _ | string _ | array _ =>
      exact iff_of_false (by simp [jsonIsKnownPreprocessingRateLimit]) (by simp)
  rw [← hlimit]
  unfold paymentOutcomeFromJson
  dsimp only
  split_ifs with h
  · exact ⟨fun heq => ⟨h, (Except.error.inj heq).symm⟩, fun heq => by rw [heq.2]⟩
  · exact iff_of_false (by simp) (by simp [h])

/-- The body of a successful response, when it can be read. -/
theorem mutationText_of_success (decoders : Decoders) (httpError : ℕ → String → WireError)
    {status : ℕ} (hstatus : isSuccess status = true) (body : ResponseBody) :
    (∃ text, body = .text text ∧
        mutationText decoders httpError (.response status body) = .ok text) ∨
      (∀ text, body ≠ .text text) ∧ ∃ detail,
        mutationText decoders httpError (.response status body) =
          .error (.indeterminate detail) := by
  cases body with
  | text text =>
    left
    refine ⟨text, rfl, ?_⟩
    show (if isSuccess status then pure text else throw (httpError status text)) = _
    rw [hstatus]
    rfl
  | tooLarge | readFailed _ | notUtf8 _ => exact .inr ⟨by simp, _, rfl⟩

/-- The body of a response is the documented throttle in the format of the mutation. -/
def PaymentMutation.Throttled (decoders : Decoders) (mutation : PaymentMutation)
    (body : ResponseBody) :
    Prop :=
  ∃ text, body = .text text ∧
    if mutation.usesClassicForm then FormThrottle (decoders.parseForm text)
    else ∃ members, decoders.parseJson text = some (.object members) ∧ JsonThrottle members

/-- The error that a mutation ends with is that of the parsed body. -/
theorem conclude_eq_error_iff {mutation : PaymentMutation}
    {parsed : Except WireError PaymentOutcome} {e : MutationError} :
    mutation.conclude parsed = .error e ↔
      ∃ error, parsed = .error error ∧ e = error.afterSuccess.intoMutation := by
  cases parsed with
  | error error =>
    exact ⟨fun h => ⟨error, rfl, (Except.error.inj h).symm⟩, fun ⟨_, heq, h⟩ => by
      rw [h, ← Except.error.inj heq]
      rfl⟩
  | ok outcome =>
    constructor
    · intro h
      cases h
    · rintro ⟨error, heq, -⟩
      cases heq

/-- The error of a successful response is the throttle, or is indeterminate. -/
theorem submit_error_of_success {decoders : Decoders} {mutation : PaymentMutation} {status : ℕ}
    (hstatus : isSuccess status = true) {body : ResponseBody} {e : MutationError}
    (h : mutation.submit decoders (.response status body) = .error e) :
    (mutation.Throttled decoders body ∧ e = rateLimitedWireError.intoMutation) ∨
      (¬ mutation.Throttled decoders body ∧ ∃ detail, e = .indeterminate detail) := by
  have hunread (hbody : ∀ text, body ≠ .text text) : ¬ mutation.Throttled decoders body :=
    fun ⟨text, heq, _⟩ => hbody text heq
  cases hformat : mutation.usesClassicForm with
  | true =>
    rw [submit_classic decoders hformat] at h
    rcases mutationText_of_success decoders (gatewayErrorFromClassicPaymentHttpResponse decoders)
      hstatus body with ⟨text, rfl, htext⟩ | ⟨hbody, detail, herror⟩
    · rw [htext] at h
      obtain ⟨error, hparsed, rfl⟩ := conclude_eq_error_iff.mp h
      have hthrottled : mutation.Throttled decoders (.text text) ↔
          FormThrottle (decoders.parseForm text) := by
        simp [PaymentMutation.Throttled, hformat]
      rw [hthrottled]
      rcases classicPaymentOutcomeFromForm_error hparsed with ⟨hlimit, rfl⟩ | ⟨hlimit, detail, rfl⟩
      · exact .inl ⟨hlimit, rfl⟩
      · exact .inr ⟨hlimit, detail, rfl⟩
    · rw [herror] at h
      exact .inr ⟨hunread hbody, detail, (Except.error.inj h).symm⟩
  | false =>
    rw [submit_v5 decoders hformat] at h
    rcases mutationText_of_success decoders (gatewayErrorFromPaymentHttpResponse decoders)
      hstatus body with ⟨text, rfl, htext⟩ | ⟨hbody, detail, herror⟩
    · rw [htext] at h
      dsimp only at h
      have hthrottled : mutation.Throttled decoders (.text text) ↔
          ∃ members, decoders.parseJson text = some (.object members) ∧ JsonThrottle members := by
        simp [PaymentMutation.Throttled, hformat]
      rw [hthrottled]
      cases hparse : decoders.parseJson text with
      | none =>
        rw [hparse] at h
        exact .inr ⟨by simp, _, (Except.error.inj h).symm⟩
      | some value =>
        rw [hparse] at h
        obtain ⟨error, hparsed, rfl⟩ := conclude_eq_error_iff.mp h
        obtain ⟨⟨members, rfl, hlimit⟩, rfl⟩ := paymentOutcomeFromJson_error_iff.mp hparsed
        exact .inl ⟨⟨members, rfl, hlimit⟩, rfl⟩
    · rw [herror] at h
      exact .inr ⟨hunread hbody, detail, (Except.error.inj h).symm⟩

/-- The throttle is an error of a successful response. -/
theorem submit_of_throttled {decoders : Decoders} {mutation : PaymentMutation} {status : ℕ}
    (hstatus : isSuccess status = true) {body : ResponseBody}
    (h : mutation.Throttled decoders body) :
    mutation.submit decoders (.response status body) =
      .error rateLimitedWireError.intoMutation := by
  obtain ⟨text, rfl, hlimit⟩ := h
  have htext (httpError : ℕ → String → WireError) :
      mutationText decoders httpError (.response status (.text text)) = .ok text := by
    show (if isSuccess status then pure text else throw (httpError status text)) = _
    rw [hstatus]
    rfl
  cases hformat : mutation.usesClassicForm with
  | true =>
    rw [hformat, if_pos rfl] at hlimit
    rw [submit_classic decoders hformat, htext]
    exact conclude_eq_error_iff.mpr ⟨_, classicPaymentOutcomeFromForm_of_throttle hlimit, rfl⟩
  | false =>
    rw [hformat, if_neg (by simp)] at hlimit
    obtain ⟨members, hparse, hthrottle⟩ := hlimit
    rw [submit_v5 decoders hformat, htext]
    dsimp only
    rw [hparse]
    exact conclude_eq_error_iff.mpr
      ⟨_, paymentOutcomeFromJson_error_iff.mpr ⟨⟨members, rfl, hthrottle⟩, rfl⟩, rfl⟩

/-- A successful response to a payment mutation is an error that says not submitted exactly when it
is the documented throttle; every other error of such a response is indeterminate. -/
theorem throttle_of_success (decoders : Decoders) (mutation : PaymentMutation) (status : ℕ)
    (hstatus : isSuccess status = true) (body : ResponseBody) :
    ((∃ e, mutation.submit decoders (.response status body) = .error e ∧
      e.certainty = .notSubmitted) ↔
        mutation.Throttled decoders body) ∧
      ∀ e, mutation.submit decoders (.response status body) = .error e →
        mutation.Throttled decoders body ∨ ∃ detail, e = .indeterminate detail := by
  refine ⟨⟨fun ⟨e, herror, hcertainty⟩ => ?_, fun h => ?_⟩, fun e herror => ?_⟩
  · rcases submit_error_of_success hstatus herror with h | ⟨-, detail, rfl⟩
    · exact h.1
    · cases hcertainty
  · exact ⟨_, submit_of_throttled hstatus h, rfl⟩
  · exact (submit_error_of_success hstatus herror).imp And.left And.right

/-- The pairs of a form without escapes. -/
def plainForm (text : String) : List (String × String) :=
  let decode (cs : List Char) : String := String.ofList (cs.map fun c => if c = '+' then ' ' else c)
  ((text.toList.splitOn '&').filter (!·.isEmpty)).map fun pair =>
    (decode (pair.takeWhile (· != '=')), decode ((pair.dropWhile (· != '=')).drop 1))

/-- Decoders for bodies that are forms without escapes. -/
def plainDecoders : Decoders where
  parseForm := plainForm
  parseJson := fun _ => none
  jsonError := fun _ => "expected value at line 1 column 1"
  statusText := fun status =>
    if status = 401 then "401 Unauthorized"
    else if status = 404 then "404 Not Found"
    else toString status

/-- The documented throttle, as NMI sends it. -/
theorem throttle_of_success_documented :
    ∃ e, PaymentMutation.storePaymentMethod.submit plainDecoders (.response 200 (.text
        "response=3&responsetext=Rate+limit+exceeded&transactionid=&response_code=301")) =
          .error e ∧
      e.certainty = .notSubmitted := by
  refine (throttle_of_success plainDecoders .storePaymentMethod 200 (by decide) _).1.mpr
    ⟨_, rfl, ?_⟩
  have hfields : plainDecoders.parseForm
      "response=3&responsetext=Rate+limit+exceeded&transactionid=&response_code=301" =
        [("response", "3"), ("responsetext", "Rate limit exceeded"), ("transactionid", ""),
          ("response_code", "301")] := by
    decide +kernel
  show FormThrottle _
  rw [hfields]
  exact ⟨by simp, by simp, by simp, by simp, by simp [emptyThrottleFields]⟩

end SyrupRail.Nmi
