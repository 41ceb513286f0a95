import SyrupRail.Nmi.Decision

/-!
# Terminal payment decisions are unanimous

The meaning of `PaymentDecisionFields.resolve` in terms of the wire alone. A response is a list of
occurrences of the four decision fields, in any number and order. `resolve_spec` says that a
determinate status needs every occurrence of every field to be readable and to agree: one contrary,
unreadable, or unrecognized occurrence makes the decision unknown. Only a failure tolerates other
fields, those that carry the generic provider error throughout.

A readable occurrence is measured after trimming (`parseProviderScalar`): blanks around a scalar do
not count against the limit of 512 characters (`padded_response_is_approved`).
-/

namespace SyrupRail.Nmi

open RustText

/-- The names of the decision fields. -/
inductive DecisionFieldName
  | response | responseCode | status | condition
  deriving DecidableEq, Repr

/-- How the field of a name is read. -/
def DecisionFieldName.kind : DecisionFieldName → DecisionFieldKind
  | .response => .response
  | .responseCode => .responseCode
  | .status | .condition => .gatewayState

/-- The occurrences of one field, in wire order. -/
def occurrencesOf (wire : List (DecisionFieldName × ScalarOccurrence)) (name : DecisionFieldName) :
    List ScalarOccurrence :=
  (wire.filter fun x => x.1 = name).map Prod.snd

/-- One decision field of a response. -/
def decisionField (wire : List (DecisionFieldName × ScalarOccurrence)) (name : DecisionFieldName) :
    DecisionField :=
  (collect (occurrencesOf wire name)).finishDecision name.kind

/-- The four decision fields of a response. -/
def paymentDecisionFields (wire : List (DecisionFieldName × ScalarOccurrence)) :
    PaymentDecisionFields where
  response := decisionField wire .response
  responseCode := decisionField wire .responseCode
  status := decisionField wire .status
  condition := decisionField wire .condition

/-- The occurrence is readable, that is a scalar which trimmed is neither blank nor longer than 512
characters, and its text satisfies `p`. -/
def ScalarOccurrence.Says (o : ScalarOccurrence) (p : String → Prop) : Prop :=
  ∃ raw exactText, o.raw = some (raw, exactText) ∧ trim raw ≠ "" ∧
    (trim raw).length ≤ maxNmiFieldChars ∧ p raw

/-- The texts that say approved: response `1`, response code 100, or an approved state. -/
def DecisionFieldKind.SaysApproved (kind : DecisionFieldKind) (raw : String) : Prop :=
  match kind with
  | .response => trim raw = "1"
  | .responseCode => parseU16 (trim raw) = some 100
  | .gatewayState => normalizeGatewayState raw ∈ approvedGatewayStates

/-- The texts that say declined: response `2`, a response code of the 200s, or the state. -/
def DecisionFieldKind.SaysDeclined (kind : DecisionFieldKind) (raw : String) : Prop :=
  match kind with
  | .response => trim raw = "2"
  | .responseCode => ∃ code, parseU16 (trim raw) = some code ∧ 200 ≤ code ∧ code ≤ 299
  | .gatewayState => normalizeGatewayState raw = "declined"

/-- The texts that say failed: one of five response codes, or the state. No response says it. -/
def DecisionFieldKind.SaysFailed (kind : DecisionFieldKind) (raw : String) : Prop :=
  match kind with
  | .response => False
  | .responseCode => ∃ code, parseU16 (trim raw) = some code ∧ code ∈ [300, 410, 411, 460, 461]
  | .gatewayState => normalizeGatewayState raw = "failed"

/-- The texts that are the generic provider error: response `3` or the state `error`. -/
def DecisionFieldKind.SaysProviderError (kind : DecisionFieldKind) (raw : String) : Prop :=
  match kind with
  | .response => trim raw = "3"
  | .responseCode => False
  | .gatewayState => normalizeGatewayState raw = "error"

/-- All occurrences of the response code are readable and denote the same number. -/
def SameResponseCode (wire : List (DecisionFieldName × ScalarOccurrence)) : Prop :=
  ∃ code, ∀ o ∈ occurrencesOf wire .responseCode, o.Says fun raw => parseU16 (trim raw) = some code

/-- There is an occurrence, and every occurrence of every field is readable and says approved. -/
def ApprovedOnWire (wire : List (DecisionFieldName × ScalarOccurrence)) : Prop :=
  wire ≠ [] ∧ ∀ x ∈ wire, x.2.Says x.1.kind.SaysApproved

/-- There is an occurrence, every occurrence of every field is readable and says declined, and the
response codes are one number. -/
def DeclinedOnWire (wire : List (DecisionFieldName × ScalarOccurrence)) : Prop :=
  (wire ≠ [] ∧ ∀ x ∈ wire, x.2.Says x.1.kind.SaysDeclined) ∧ SameResponseCode wire

/-- Every occurrence is readable, one field that occurs says failed throughout, every other field
says failed throughout or is the generic provider error throughout, and the response codes are one
number. -/
def FailedOnWire (wire : List (DecisionFieldName × ScalarOccurrence)) : Prop :=
  (∀ x ∈ wire, x.2.Says fun _ => True) ∧
    (∃ name, occurrencesOf wire name ≠ [] ∧
      (∀ o ∈ occurrencesOf wire name, o.Says name.kind.SaysFailed) ∧
      ∀ other, other ≠ name →
        (∀ o ∈ occurrencesOf wire other, o.Says other.kind.SaysFailed) ∨
          (∀ o ∈ occurrencesOf wire other, o.Says other.kind.SaysProviderError)) ∧
    SameResponseCode wire

/-! ## From the code's classification to the vocabulary -/

/-- Trimming does not change what a value says, or its normal form. -/
theorem classify_trim (kind : DecisionFieldKind) (raw : String) :
    kind.classify (trim raw) = kind.classify raw ∧
      kind.normalize (trim raw) = kind.normalize raw := by
  have hstate : normalizeGatewayState (trim raw) = normalizeGatewayState raw := by
    unfold normalizeGatewayState
    rw [trim_trim]
  cases kind with
  | response =>
    unfold DecisionFieldKind.classify DecisionFieldKind.normalize
    dsimp only
    rw [trim_trim]
    exact ⟨rfl, rfl⟩
  | responseCode =>
    unfold DecisionFieldKind.classify DecisionFieldKind.normalize
      classifiedDecisionEvidenceFromResponseCode
    dsimp only
    rw [trim_trim]
    exact ⟨rfl, rfl⟩
  | gatewayState =>
    unfold DecisionFieldKind.classify DecisionFieldKind.normalize
      classifiedPaymentStatusFromGatewayState
    dsimp only
    rw [hstate]
    exact ⟨rfl, rfl⟩

/-- A value classifies as approved exactly when it says approved. -/
theorem classify_approved_iff (kind : DecisionFieldKind) (raw : String) :
    kind.classify raw = some (.paymentStatus .approved) ↔ kind.SaysApproved raw := by
  cases kind with
  | response => simp only [DecisionFieldKind.classify, DecisionFieldKind.SaysApproved]; grind
  | responseCode =>
    simp only [DecisionFieldKind.classify, classifiedDecisionEvidenceFromResponseCode,
      DecisionFieldKind.SaysApproved]
    rcases parseU16 (trim raw) with _ | code <;> grind
  | gatewayState =>
    simp only [DecisionFieldKind.classify, classifiedPaymentStatusFromGatewayState,
      DecisionFieldKind.SaysApproved]
    have herr : "error" ∉ approvedGatewayStates := by decide
    grind

/-- A value classifies as declined exactly when it says declined. -/
theorem classify_declined_iff (kind : DecisionFieldKind) (raw : String) :
    kind.classify raw = some (.paymentStatus .declined) ↔ kind.SaysDeclined raw := by
  cases kind with
  | response => simp only [DecisionFieldKind.classify, DecisionFieldKind.SaysDeclined]; grind
  | responseCode =>
    simp only [DecisionFieldKind.classify, classifiedDecisionEvidenceFromResponseCode,
      DecisionFieldKind.SaysDeclined]
    rcases parseU16 (trim raw) with _ | code <;> grind
  | gatewayState =>
    simp only [DecisionFieldKind.classify, classifiedPaymentStatusFromGatewayState,
      DecisionFieldKind.SaysDeclined]
    have happ : "declined" ∉ approvedGatewayStates := by decide
    grind

/-- A value classifies as failed exactly when it says failed. -/
theorem classify_failed_iff (kind : DecisionFieldKind) (raw : String) :
    kind.classify raw = some (.paymentStatus .failed) ↔ kind.SaysFailed raw := by
  cases kind with
  | response => simp only [DecisionFieldKind.classify, DecisionFieldKind.SaysFailed]; grind
  | responseCode =>
    simp only [DecisionFieldKind.classify, classifiedDecisionEvidenceFromResponseCode,
      DecisionFieldKind.SaysFailed]
    rcases parseU16 (trim raw) with _ | code <;> grind
  | gatewayState =>
    simp only [DecisionFieldKind.classify, classifiedPaymentStatusFromGatewayState,
      DecisionFieldKind.SaysFailed]
    have happ : "failed" ∉ approvedGatewayStates := by decide
    grind

/-- A value classifies as a provider error exactly when it says so. -/
theorem classify_providerError_iff (kind : DecisionFieldKind) (raw : String) :
    kind.classify raw = some .providerError ↔ kind.SaysProviderError raw := by
  cases kind with
  | response => simp only [DecisionFieldKind.classify, DecisionFieldKind.SaysProviderError]; grind
  | responseCode =>
    simp only [DecisionFieldKind.classify, classifiedDecisionEvidenceFromResponseCode,
      DecisionFieldKind.SaysProviderError]
    rcases parseU16 (trim raw) with _ | code <;> grind
  | gatewayState =>
    simp only [DecisionFieldKind.classify, classifiedPaymentStatusFromGatewayState,
      DecisionFieldKind.SaysProviderError]
    grind

/-- The collector keeps the trimmed text of a readable occurrence. -/
theorem value_eq_some_iff (o : ScalarOccurrence) (v : String) :
    o.value = some v ↔ o.Says fun raw => trim raw = v := by
  unfold ScalarOccurrence.value ScalarOccurrence.Says parseProviderScalar
  rcases o.raw with _ | ⟨raw, exactText⟩
  · simp
  · simp only [Option.bind_some, Option.some.injEq, Prod.mk.injEq, String.isEmpty_iff]
    grind

/-- An occurrence whose kept value classifies as `e` is one that says `e`. -/
theorem classified_value_iff (o : ScalarOccurrence) (kind : DecisionFieldKind)
    (e : DecisionEvidence) :
    (∃ v, o.value = some v ∧ kind.classify v = some e) ↔
      o.Says fun raw => kind.classify raw = some e := by
  simp only [value_eq_some_iff, ScalarOccurrence.Says]
  constructor
  · rintro ⟨v, ⟨raw, b, hr, hne, hlen, rfl⟩, hcl⟩
    exact ⟨raw, b, hr, hne, hlen, (classify_trim kind raw).1.symm.trans hcl⟩
  · rintro ⟨raw, b, hr, hne, hlen, hcl⟩
    exact ⟨trim raw, ⟨raw, b, hr, hne, hlen, rfl⟩, (classify_trim kind raw).1.trans hcl⟩

/-- A response code that classifies is a number, which its normal form spells. -/
theorem normalize_responseCode {raw : String} {e : DecisionEvidence}
    (h : DecisionFieldKind.classify .responseCode raw = some e) :
    ∃ code, parseU16 (trim raw) = some code ∧
      DecisionFieldKind.normalize .responseCode raw = toString code := by
  simp only [DecisionFieldKind.classify, classifiedDecisionEvidenceFromResponseCode] at h
  rcases hp : parseU16 (trim raw) with _ | code
  · simp [hp] at h
  · exact ⟨code, rfl, by simp [DecisionFieldKind.normalize, hp]⟩

/-! ## The four fields -/

/-- The occurrences of a field are those of the response under its name. -/
theorem mem_occurrencesOf {wire : List (DecisionFieldName × ScalarOccurrence)}
    {name : DecisionFieldName} {o : ScalarOccurrence} :
    o ∈ occurrencesOf wire name ↔ (name, o) ∈ wire := by
  simp [occurrencesOf]

/-- A field of a response settles on no evidence exactly when it does not occur. -/
theorem decisionField_settled_none (wire : List (DecisionFieldName × ScalarOccurrence))
    (name : DecisionFieldName) :
    (decisionField wire name).Settled none ↔ occurrencesOf wire name = [] :=
  finishDecision_settled_none _ _

/-- A field of a response settles on `e` exactly when it occurs, all its occurrences say `e`, and
response codes are one number. -/
theorem decisionField_settled_some (wire : List (DecisionFieldName × ScalarOccurrence))
    (name : DecisionFieldName) (e : DecisionEvidence) :
    (decisionField wire name).Settled (some e) ↔
      occurrencesOf wire name ≠ [] ∧
        (∀ o ∈ occurrencesOf wire name, o.Says fun raw => name.kind.classify raw = some e) ∧
        (name = .responseCode → SameResponseCode wire) := by
  unfold decisionField
  rw [finishDecision_settled_some]
  simp only [classified_value_iff]
  refine and_congr_right fun hne => and_congr_right fun hall => ?_
  have hkind : name.kind = .responseCode ↔ name = .responseCode := by
    cases name <;> simp [DecisionFieldName.kind]
  rw [hkind]
  refine imp_congr_right fun hname => ?_
  subst hname
  constructor
  · -- The number is that of the first occurrence; the others have the same normal form.
    intro hnum
    obtain ⟨o, os, hos⟩ := List.exists_cons_of_ne_nil hne
    have ho : o ∈ occurrencesOf wire .responseCode := by simp [hos]
    obtain ⟨raw, b, hr, hblank, hlen, hcl⟩ := hall o ho
    obtain ⟨code, hcode, hspell⟩ := normalize_responseCode hcl
    refine ⟨code, fun o' ho' => ?_⟩
    obtain ⟨raw', b', hr', hblank', hlen', hcl'⟩ := hall o' ho'
    obtain ⟨code', hcode', hspell'⟩ := normalize_responseCode hcl'
    have hv : o.value = some (trim raw) :=
      (value_eq_some_iff _ _).mpr ⟨raw, b, hr, hblank, hlen, rfl⟩
    have hv' : o'.value = some (trim raw') :=
      (value_eq_some_iff _ _).mpr ⟨raw', b', hr', hblank', hlen', rfl⟩
    have heq := hnum o' ho' o ho
    rw [hv, hv', Option.map_some, Option.map_some, Option.some.injEq] at heq
    change DecisionFieldKind.normalize .responseCode _ =
      DecisionFieldKind.normalize .responseCode _ at heq
    rw [(classify_trim _ raw).2, (classify_trim _ raw').2, hspell, hspell'] at heq
    refine ⟨raw', b', hr', hblank', hlen', ?_⟩
    rw [← toString_inj heq]
    exact hcode'
  · rintro ⟨code, hcode⟩ o ho o' ho'
    have hspell : ∀ o ∈ occurrencesOf wire .responseCode,
        o.value.map (DecisionFieldKind.normalize .responseCode) = some (toString code) := by
      intro o ho
      obtain ⟨raw, b, hr, hblank, hlen, hp⟩ := hcode o ho
      rw [(value_eq_some_iff o (trim raw)).mpr ⟨raw, b, hr, hblank, hlen, rfl⟩, Option.map_some,
        (classify_trim _ raw).2]
      simp [DecisionFieldKind.normalize, hp]
    exact (hspell o ho).trans (hspell o' ho').symm

/-- A response code never is a generic provider error. -/
theorem responseCode_not_providerError (wire : List (DecisionFieldName × ScalarOccurrence)) :
    ¬ (decisionField wire .responseCode).Settled (some .providerError) := by
  rw [decisionField_settled_some]
  rintro ⟨hne, hall, -⟩
  obtain ⟨o, os, hos⟩ := List.exists_cons_of_ne_nil hne
  obtain ⟨raw, b, -, -, -, hcl⟩ := hall o (by simp [hos])
  exact (classify_providerError_iff .responseCode raw).mp hcl

/-- A statement about every field is one about the four fields of the list. -/
theorem forall_mem_fields (wire : List (DecisionFieldName × ScalarOccurrence))
    (p : DecisionField → Prop) :
    (∀ f ∈ (paymentDecisionFields wire).fields, p f) ↔ ∀ name, p (decisionField wire name) := by
  simp only [PaymentDecisionFields.fields, paymentDecisionFields, List.forall_mem_cons,
    List.not_mem_nil, false_implies, implies_true, and_true]
  constructor
  · rintro ⟨h1, h2, h3, h4⟩ name
    cases name <;> assumption
  · intro h
    exact ⟨h _, h _, h _, h _⟩

/-- The provider errors observed in settled fields are those on which a field settled. -/
theorem sawProviderError_iff (wire : List (DecisionFieldName × ScalarOccurrence))
    (h : ∀ name, (decisionField wire name).Settled (decisionField wire name).evidence) :
    (paymentDecisionFields wire).sawProviderError = true ↔
      ∃ name, (decisionField wire name).evidence = some .providerError := by
  have h1 := @observedEvidence_providerError _ .response _ (by decide) (h .response)
  have h3 := @observedEvidence_providerError _ .gatewayState _ (by decide) (h .status)
  have h4 := @observedEvidence_providerError _ .gatewayState _ (by decide) (h .condition)
  have hor : (paymentDecisionFields wire).sawProviderError = true ↔
      (decisionField wire .response).evidence = some .providerError ∨
      (decisionField wire .status).evidence = some .providerError ∨
      (decisionField wire .condition).evidence = some .providerError := by
    rw [← h1, ← h3, ← h4]
    simp only [PaymentDecisionFields.sawProviderError, paymentDecisionFields, Bool.or_eq_true,
      or_assoc]
    rfl
  rw [hor]
  constructor
  · rintro (h | h | h)
    · exact ⟨_, h⟩
    · exact ⟨_, h⟩
    · exact ⟨_, h⟩
  · rintro ⟨name, he⟩
    cases name with
    | response => exact .inl he
    | responseCode => exact absurd (he ▸ h .responseCode) (responseCode_not_providerError wire)
    | status => exact .inr (.inl he)
    | condition => exact .inr (.inr he)

/-- The status that a response resolves to, in terms of what its fields settle on. -/
theorem resolve_status_eq_iff (wire : List (DecisionFieldName × ScalarOccurrence))
    {s : PaymentStatus} (hs : s ≠ .unknown) :
    (paymentDecisionFields wire).resolve.status = s ↔
      ∃ E : DecisionFieldName → Option DecisionEvidence,
        (∀ name, (decisionField wire name).Settled (E name)) ∧
        (∃ name, (E name).bind DecisionEvidence.toPaymentStatus = some s) ∧
        (∀ name t, (E name).bind DecisionEvidence.toPaymentStatus = some t → t = s) ∧
        (∀ name, E name = some .providerError → s = .failed) := by
  have hstatus : (paymentDecisionFields wire).resolve.status =
      (paymentDecisionFields wire).resolveStatus.1 := rfl
  rw [hstatus]
  by_cases hok : ∀ name, (decisionField wire name).invalidOrConflicting = false ∧
      (decisionField wire name).unrecognized = false
  · have hset : ∀ name, (decisionField wire name).Settled (decisionField wire name).evidence :=
      fun name => ⟨(hok name).1, (hok name).2, rfl⟩
    have hmem : ∀ t, t ∈ ((paymentDecisionFields wire).fields.filterMap fun f =>
        f.evidence.bind DecisionEvidence.toPaymentStatus) ↔
        ∃ name, (decisionField wire name).evidence.bind DecisionEvidence.toPaymentStatus =
            some t := by
      intro t
      have := forall_mem_fields wire fun f =>
        ¬ f.evidence.bind DecisionEvidence.toPaymentStatus = some t
      rw [List.mem_filterMap, ← not_iff_not]
      simpa using this
    rw [resolveStatus_eq_reduce _ ((forall_mem_fields wire _).mpr hok),
      reduceStatuses_eq_iff _ _ hs, sawProviderError_iff wire hset]
    simp only [hmem]
    constructor
    · rintro ⟨hex, hall, herr⟩
      exact ⟨fun name => (decisionField wire name).evidence, hset, hex,
        fun name t h => hall t ⟨name, h⟩, fun name h => herr ⟨name, h⟩⟩
    · rintro ⟨E, hE, hex, hall, herr⟩
      obtain rfl : (fun name => (decisionField wire name).evidence) = E :=
        funext fun name => (hE name).2.2
      exact ⟨hex, fun t ⟨name, h⟩ => hall name t h, fun ⟨name, h⟩ => herr name h⟩
  · -- Some field is conflicting or unrecognized, so the decision is unknown.
    have hunknown : (paymentDecisionFields wire).resolveStatus.1 = .unknown := by
      apply resolveStatus_unknown
      by_contra hnone
      refine hok ((forall_mem_fields wire fun f =>
        f.invalidOrConflicting = false ∧ f.unrecognized = false).mp fun f hf => ?_)
      have : ¬ (f.invalidOrConflicting = true ∨ f.unrecognized = true) :=
        fun h => hnone ⟨f, hf, h⟩
      simpa using this
    constructor
    · intro h
      exact absurd (h.symm.trans hunknown) hs
    · rintro ⟨E, hE, -⟩
      exact absurd (fun name => ⟨(hE name).1, (hE name).2.1⟩) hok

/-! ## The decision -/

/-- An occurrence that says one thing says anything weaker. -/
theorem ScalarOccurrence.Says.mono {o : ScalarOccurrence} {p q : String → Prop} (h : o.Says p)
    (hpq : ∀ raw, p raw → q raw) : o.Says q := by
  obtain ⟨raw, b, hr, hblank, hlen, hp⟩ := h
  exact ⟨raw, b, hr, hblank, hlen, hpq raw hp⟩

/-- Only the evidence of a determinate payment status stands for it. -/
theorem toPaymentStatus_eq_some_iff {e : DecisionEvidence} {s : PaymentStatus} (hs : s ≠ .unknown) :
    e.toPaymentStatus = some s ↔ e = .paymentStatus s := by
  cases e <;> simp [DecisionEvidence.toPaymentStatus, hs.symm]

/-- Response codes that a field settled on are one number; a field that does not occur has none to
compare. -/
theorem sameResponseCode_of_settled {wire : List (DecisionFieldName × ScalarOccurrence)}
    {e : Option DecisionEvidence} (h : (decisionField wire .responseCode).Settled e) :
    SameResponseCode wire := by
  rcases e with _ | e
  · rw [decisionField_settled_none] at h
    exact ⟨0, by simp [h]⟩
  · exact ((decisionField_settled_some _ _ _).mp h).2.2 rfl

/-- A response is approved, or declined, exactly when it has an occurrence, every occurrence says
so, and the response codes are one number. -/
theorem resolve_unanimous (wire : List (DecisionFieldName × ScalarOccurrence)) {s : PaymentStatus}
    (hs : s = .approved ∨ s = .declined) :
    (paymentDecisionFields wire).resolve.status = s ↔
      (wire ≠ [] ∧
        ∀ x ∈ wire, x.2.Says fun raw => x.1.kind.classify raw = some (.paymentStatus s)) ∧
      SameResponseCode wire := by
  have hu : s ≠ .unknown := by rcases hs with rfl | rfl <;> decide
  have hf : s ≠ .failed := by rcases hs with rfl | rfl <;> decide
  rw [resolve_status_eq_iff wire hu]
  constructor
  · rintro ⟨E, hE, ⟨name, hname⟩, hall, herr⟩
    refine ⟨⟨?_, ?_⟩, sameResponseCode_of_settled (hE .responseCode)⟩
    · rintro rfl
      rw [(hE name).2.2.symm.trans ((decisionField_settled_none [] name).mpr rfl).2.2] at hname
      simp at hname
    · rintro ⟨n, o⟩ hx
      have ho := mem_occurrencesOf.mpr hx
      rcases hn : E n with _ | e
      · have := (decisionField_settled_none wire n).mp (hn ▸ hE n)
        simp [this] at ho
      · have he : e = .paymentStatus s := by
          rw [← toPaymentStatus_eq_some_iff hu]
          rcases ht : e.toPaymentStatus with _ | t
          · -- Only a provider error stands for no status, and it would force a failure.
            have : e = .providerError := by
              cases e <;> simp [DecisionEvidence.toPaymentStatus] at ht ⊢
            exact absurd (herr n (this ▸ hn)) hf
          · rw [hall n t (by rw [hn]; exact ht)]
        subst he
        exact ((decisionField_settled_some wire n _).mp (hn ▸ hE n)).2.1 o ho
  · rintro ⟨⟨hne, hall⟩, hcode⟩
    refine ⟨fun n => if occurrencesOf wire n = [] then none else some (.paymentStatus s),
      ?_, ?_, ?_, ?_⟩
    · intro n
      dsimp only
      split_ifs with hn
      · exact (decisionField_settled_none wire n).mpr hn
      · exact (decisionField_settled_some wire n _).mpr
          ⟨hn, fun o ho => hall (n, o) (mem_occurrencesOf.mp ho), fun _ => hcode⟩
    · obtain ⟨⟨n, o⟩, rest, rfl⟩ := List.exists_cons_of_ne_nil hne
      refine ⟨n, ?_⟩
      have : occurrencesOf ((n, o) :: rest) n ≠ [] :=
        List.ne_nil_of_mem (mem_occurrencesOf.mpr (by simp) : o ∈ _)
      simp [this, DecisionEvidence.toPaymentStatus]
    · intro n t ht
      dsimp only at ht
      split_ifs at ht
      · simp at ht
      · simpa [DecisionEvidence.toPaymentStatus] using ht.symm
    · intro n hn
      dsimp only at hn
      split_ifs at hn
      simp at hn

/-- A response is failed exactly when one field says failed throughout, every other field says so or
is the provider error throughout, and the response codes are one number. -/
theorem resolve_failed_iff (wire : List (DecisionFieldName × ScalarOccurrence)) :
    (paymentDecisionFields wire).resolve.status = .failed ↔ FailedOnWire wire := by
  rw [resolve_status_eq_iff wire (by decide)]
  constructor
  · rintro ⟨E, hE, ⟨name, hname⟩, hall, -⟩
    -- What every field settles on: nothing, the failure, or the provider error.
    have hsays : ∀ n, (∀ o ∈ occurrencesOf wire n, o.Says n.kind.SaysFailed) ∨
        ∀ o ∈ occurrencesOf wire n, o.Says n.kind.SaysProviderError := by
      intro n
      rcases hn : E n with _ | e
      · left
        simp [(decisionField_settled_none wire n).mp (hn ▸ hE n)]
      · obtain ⟨-, hocc, -⟩ := (decisionField_settled_some wire n e).mp (hn ▸ hE n)
        rcases ht : e.toPaymentStatus with _ | t
        · have : e = .providerError := by
            cases e <;> simp [DecisionEvidence.toPaymentStatus] at ht ⊢
          subst this
          exact .inr fun o ho => (hocc o ho).mono fun raw => (classify_providerError_iff _ raw).mp
        · obtain rfl := hall n t (by rw [hn]; exact ht)
          rw [toPaymentStatus_eq_some_iff (by decide)] at ht
          subst ht
          exact .inl fun o ho => (hocc o ho).mono fun raw => (classify_failed_iff _ raw).mp
    refine ⟨?_, ⟨name, ?_, ?_, fun other _ => hsays other⟩,
      sameResponseCode_of_settled (hE .responseCode)⟩
    · rintro ⟨n, o⟩ hx
      have ho := mem_occurrencesOf.mpr hx
      rcases hsays n with h | h
      · exact (h o ho).mono fun _ _ => trivial
      · exact (h o ho).mono fun _ _ => trivial
    · intro hempty
      have := (decisionField_settled_none wire name).mpr hempty
      rw [← (hE name).2.2, this.2.2] at hname
      simp at hname
    · rcases hn : E name with _ | e
      · simp [hn] at hname
      · rw [hn, Option.bind_some, toPaymentStatus_eq_some_iff (by decide)] at hname
        subst hname
        obtain ⟨-, hocc, -⟩ := (decisionField_settled_some wire name _).mp (hn ▸ hE name)
        exact fun o ho => (hocc o ho).mono fun raw => (classify_failed_iff _ raw).mp
  · rintro ⟨-, ⟨name, hne, hfailed, hother⟩, hcode⟩
    have hE : ∀ n, ∃ e, (decisionField wire n).Settled e ∧
        (e = none ∨ e = some (.paymentStatus .failed) ∨ e = some .providerError) ∧
        (n = name → e = some (.paymentStatus .failed)) := by
      intro n
      by_cases hn : n = name
      · subst hn
        refine ⟨_, (decisionField_settled_some wire n (.paymentStatus .failed)).mpr
          ⟨hne, fun o ho => (hfailed o ho).mono fun raw => (classify_failed_iff _ raw).mpr,
            fun _ => hcode⟩, by simp, fun _ => rfl⟩
      by_cases hempty : occurrencesOf wire n = []
      · exact ⟨none, (decisionField_settled_none wire n).mpr hempty, by simp, fun h => absurd h hn⟩
      rcases hother n hn with h | h
      · exact ⟨_, (decisionField_settled_some wire n (.paymentStatus .failed)).mpr
          ⟨hempty, fun o ho => (h o ho).mono fun raw => (classify_failed_iff _ raw).mpr,
            fun _ => hcode⟩, by simp, fun _ => rfl⟩
      · exact ⟨_, (decisionField_settled_some wire n .providerError).mpr
          ⟨hempty, fun o ho => (h o ho).mono fun raw => (classify_providerError_iff _ raw).mpr,
            fun _ => hcode⟩, by simp, fun h => absurd h hn⟩
    choose E hset hkinds hname using hE
    refine ⟨E, hset, ⟨name, by simp [hname name rfl, DecisionEvidence.toPaymentStatus]⟩, ?_,
      fun _ _ => rfl⟩
    intro n t ht
    rcases hkinds n with h | h | h
    · simp [h] at ht
    · simpa [h, DecisionEvidence.toPaymentStatus] using ht.symm
    · simp [h, DecisionEvidence.toPaymentStatus] at ht

/-- The response codes of an approved response all are 100. -/
theorem ApprovedOnWire.sameResponseCode {wire : List (DecisionFieldName × ScalarOccurrence)}
    (h : ApprovedOnWire wire) : SameResponseCode wire :=
  ⟨100, fun o ho => h.2 (.responseCode, o) (mem_occurrencesOf.mp ho)⟩

/-- Terminal payment decisions are unanimous: a response resolves to approved, declined, or failed
exactly when its occurrences say so, and to unknown in every other case. -/
theorem resolve_spec (wire : List (DecisionFieldName × ScalarOccurrence)) :
    ((paymentDecisionFields wire).resolve.status = .approved ↔ ApprovedOnWire wire) ∧
      ((paymentDecisionFields wire).resolve.status = .declined ↔ DeclinedOnWire wire) ∧
      ((paymentDecisionFields wire).resolve.status = .failed ↔ FailedOnWire wire) ∧
      ((paymentDecisionFields wire).resolve.status = .unknown ↔
        ¬ ApprovedOnWire wire ∧ ¬ DeclinedOnWire wire ∧ ¬ FailedOnWire wire) := by
  have happ : (paymentDecisionFields wire).resolve.status = .approved ↔ ApprovedOnWire wire := by
    rw [resolve_unanimous wire (.inl rfl)]
    simp only [classify_approved_iff]
    exact ⟨fun h => h.1, fun h => ⟨h, ApprovedOnWire.sameResponseCode h⟩⟩
  have hdec : (paymentDecisionFields wire).resolve.status = .declined ↔ DeclinedOnWire wire := by
    rw [resolve_unanimous wire (.inr rfl)]
    simp only [classify_declined_iff]
    rfl
  have hfail := resolve_failed_iff wire
  refine ⟨happ, hdec, hfail, ?_⟩
  rw [← happ, ← hdec, ← hfail]
  cases (paymentDecisionFields wire).resolve.status <;> simp

/-- The digit `1`, padded with blanks. -/
def paddedResponse (blanks : ℕ) : String := String.ofList ('1' :: List.replicate blanks ' ')

/-- The blanks of the padded response are trimmed. -/
theorem trim_paddedResponse (blanks : ℕ) : trim (paddedResponse blanks) = "1" := by
  have hblank : ∀ c ∈ List.replicate blanks ' ', isWhitespace c = true := by
    intro c hc
    rw [List.eq_of_mem_replicate hc]
    decide
  have hone : isWhitespace '1' = false := by decide
  unfold trim paddedResponse
  rw [String.toList_ofList, List.dropWhile_cons_of_neg (by simp [hone]), List.rdropWhile,
    List.reverse_cons, List.reverse_replicate, List.dropWhile_append_of_pos hblank,
    List.dropWhile_cons_of_neg (by simp [hone])]
  rfl

/-- The limit of 512 characters is on the trimmed scalar: a `response` of 513 characters, the digit
`1` and 512 blanks, is approved. -/
theorem padded_response_is_approved :
    (paddedResponse 512).length = 513 ∧
      (paymentDecisionFields [(.response, .scalar (paddedResponse 512))]).resolve.status =
        .approved := by
  constructor
  · rw [paddedResponse, String.length_ofList, List.length_cons, List.length_replicate]
  · rw [resolve_unanimous _ (.inl rfl)]
    refine ⟨⟨by simp, ?_⟩, 0, by simp [occurrencesOf]⟩
    intro x hx
    obtain rfl := List.mem_singleton.mp hx
    refine ⟨paddedResponse 512, true, rfl, ?_, ?_, ?_⟩
    · rw [trim_paddedResponse]
      decide
    · rw [trim_paddedResponse]
      decide
    · exact (classify_approved_iff .response _).mpr (trim_paddedResponse 512)

end SyrupRail.Nmi
