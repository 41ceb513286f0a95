import SyrupRail.Nmi.Json

/-!
# The order of a response on the wire

The outcome of a response does not depend on the order of its fields. A reduction over duplicates
takes the first value, a canonical one, or the least, and judges conflicts against the first; each
is the same for any order of the same occurrences. Of a decision field only the list of its normal
forms and the list of its spellings are in wire order (`DecisionField.SameUpToOrder`), and `resolve`
asks of them nothing that depends on it.
-/

namespace SyrupRail.Nmi

open RustText

/-! ## The decision fields -/

/-- The spelling that the collector keeps of a readable occurrence. -/
def ScalarOccurrence.spelling (o : ScalarOccurrence) : Option (Option String) :=
  o.raw.bind fun r => (parseProviderScalar r.1).map fun _ =>
    if r.2 ∧ r.1.length ≤ maxNmiFieldChars then some r.1 else none

/-- What else the collector holds after the occurrences of a field. -/
theorem foldl_record_lists (os : List ScalarOccurrence) (c : ScalarOccurrenceCollector) :
    (os.foldl ScalarOccurrenceCollector.record c).comparisonValues =
        c.comparisonValues ++ os.filterMap ScalarOccurrence.value ∧
      (os.foldl ScalarOccurrenceCollector.record c).exactWireSpellings =
        c.exactWireSpellings ++ os.filterMap ScalarOccurrence.spelling ∧
      (os.foldl ScalarOccurrenceCollector.record c).sawBoundedOccurrence =
        c.sawBoundedOccurrence := by
  induction os generalizing c with
  | nil => simp
  | cons o os ih =>
    obtain ⟨ihc, ihs, ihb⟩ := ih (c.record o)
    rw [List.foldl_cons, ihc, ihs, ihb]
    unfold ScalarOccurrenceCollector.record ScalarOccurrenceCollector.recordWith
    rcases hr : o.raw with _ | ⟨raw, exactText⟩
    · have hv : o.value = none := by simp [ScalarOccurrence.value, hr]
      have hs : o.spelling = none := by simp [ScalarOccurrence.spelling, hr]
      simp [hv, hs]
    · rcases hp : parseProviderScalar raw with _ | v
      · have hv : o.value = none := by simp [ScalarOccurrence.value, hr, hp]
        have hs : o.spelling = none := by simp [ScalarOccurrence.spelling, hr, hp]
        simp [hv, hs, hp]
      · have hv : o.value = some v := by simp [ScalarOccurrence.value, hr, hp]
        have hs : o.spelling =
            some (if exactText ∧ raw.length ≤ maxNmiFieldChars then some raw else none) := by
          simp [ScalarOccurrence.spelling, hr, hp]
        simp [hv, hs, hp]

/-- Two collectors of protocol scalars hold the same occurrences in any order. -/
structure ScalarOccurrenceCollector.SameUpToOrder (c c' : ScalarOccurrenceCollector) : Prop where
  values : c.values.Perm c'.values
  compared : c.comparisonValues = c.values
  compared' : c'.comparisonValues = c'.values
  exactWireSpellings : c.exactWireSpellings.Perm c'.exactWireSpellings
  sawBoundedOccurrence : c.sawBoundedOccurrence = c'.sawBoundedOccurrence
  invalid : c.invalid = c'.invalid

/-- The collectors of the same occurrences in any order. -/
theorem collect_perm {os os' : List ScalarOccurrence} (h : os.Perm os') :
    (collect os).SameUpToOrder (collect os') := by
  obtain ⟨hv, hi⟩ := collect_spec os
  obtain ⟨hv', hi'⟩ := collect_spec os'
  obtain ⟨hc, hs, hb⟩ := foldl_record_lists os {}
  obtain ⟨hc', hs', hb'⟩ := foldl_record_lists os' {}
  constructor
  · rw [hv, hv']
    exact h.filterMap _
  · rw [hv, collect, hc, List.nil_append]
  · rw [hv', collect, hc', List.nil_append]
  · rw [collect, collect, hs, hs']
    exact (h.filterMap _).append_left _
  · rw [collect, collect, hb, hb']
  · rw [hi, hi', h.any_eq]

/-- Two decision fields differ in the order of their occurrences at most. -/
structure DecisionField.SameUpToOrder (f f' : DecisionField) : Prop where
  kind : f.kind = f'.kind
  raw : f.raw = f'.raw
  evidence : f.evidence = f'.evidence
  sawOccurrence : f.sawOccurrence = f'.sawOccurrence
  invalidOrConflicting : f.invalidOrConflicting = f'.invalidOrConflicting
  unrecognized : f.unrecognized = f'.unrecognized
  exactWireSpelling : f.exactWireSpelling = f'.exactWireSpelling
  observedNormalized : f.observedNormalized.Perm f'.observedNormalized
  wireSpellings : f.wireSpellings.Perm f'.wireSpellings
  sawBoundedOccurrence : f.sawBoundedOccurrence = f'.sawBoundedOccurrence

/-- The spelling that all occurrences share is `s` when each of them is spelled so. -/
theorem exactWireSpelling_eq_some_iff (l : List (Option String)) (s : String) :
    ((l.head?.bind id).filter fun selected => l.all fun value => value == some selected) = some s ↔
      l ≠ [] ∧ ∀ value ∈ l, value = some s := by
  cases l with
  | nil => simp
  | cons a l =>
    cases a with
    | none => simp
    | some t =>
      simp only [List.head?_cons, Option.bind_some, id_eq, Option.filter_eq_some_iff,
        Option.some.injEq, List.all_eq_true, beq_iff_eq, ne_eq, reduceCtorEq, not_false_eq_true,
        true_and]
      constructor
      · rintro ⟨rfl, hall⟩
        exact hall
      · intro hall
        have ht : t = s := Option.some.inj (hall _ List.mem_cons_self)
        exact ⟨ht, ht ▸ hall⟩

/-- That spelling does not depend on the order. -/
theorem exactWireSpelling_perm {l l' : List (Option String)} (h : l.Perm l') :
    ((l.head?.bind id).filter fun selected => l.all fun value => value == some selected) =
      (l'.head?.bind id).filter fun selected => l'.all fun value => value == some selected := by
  have hnil : l ≠ [] ↔ l' ≠ [] := by
    rw [ne_eq, ne_eq, not_iff_not]
    exact ⟨fun hl => (hl ▸ h).nil_eq.symm, fun hl => (hl ▸ h).eq_nil⟩
  have hmem (value : Option String) : value ∈ l ↔ value ∈ l' := h.mem_iff
  apply Option.ext
  intro s
  rw [exactWireSpelling_eq_some_iff, exactWireSpelling_eq_some_iff, hnil]
  simp only [hmem]

/-- A decision field does not depend on the order of its occurrences. -/
theorem finishDecision_perm {c c' : ScalarOccurrenceCollector} (h : c.SameUpToOrder c')
    (kind : DecisionFieldKind) :
    (c.finishDecision kind).SameUpToOrder (c'.finishDecision kind) := by
  have hobserved : (c.values.map kind.normalize).Perm (c'.values.map kind.normalize) :=
    h.values.map _
  unfold ScalarOccurrenceCollector.finishDecision
  rw [← h.invalid]
  split_ifs with hinvalid
  · exact ⟨rfl, rfl, rfl, rfl, rfl, rfl, rfl, hobserved, h.exactWireSpellings,
      h.sawBoundedOccurrence⟩
  · have hexact := exactWireSpelling_perm h.exactWireSpellings
    have hmin := Duplicates.min?_perm h.values
    have hfind (a : String) := Duplicates.find?_beq_perm h.values a
    have hvalues := h.values
    rw [h.compared, h.compared']
    cases hc : c.values with
    | nil =>
      rw [hc] at hvalues
      rw [← hvalues.nil_eq]
      exact ⟨rfl, rfl, rfl, rfl, rfl, rfl, rfl, .refl _, .refl _, rfl⟩
    | cons selected rest =>
      cases hc' : c'.values with
      | nil =>
        rw [hc, hc'] at hvalues
        exact absurd hvalues.eq_nil (by simp)
      | cons selected' rest' =>
        rw [hc, hc'] at hvalues hmin hfind hobserved
        have hstatus := Duplicates.any_bne_eq kind.classify hvalues
        have hnormalized := Duplicates.any_bne_eq id hobserved
        have hspelling := Duplicates.any_bne_eq id hvalues
        -- The first value is used only where all values agree with it.
        have hevidence (hagree) : kind.classify selected = kind.classify selected' :=
          Duplicates.eq_of_any_bne_eq_false hvalues hagree
        have hnormal (hagree) : kind.normalize selected = kind.normalize selected' :=
          Duplicates.eq_of_any_bne_eq_false (f := id) hobserved hagree
        have hselected (hagree) : selected = selected' :=
          Duplicates.eq_of_any_bne_eq_false (f := id) hvalues hagree
        have hsemantic (a : String) (l : List String) :
            (l.all fun value => some value == some a) = !l.any fun value => id value != id a := by
          rw [List.all_eq_not_any_not]
          rfl
        have hconflict :
            ((rest.any fun value => kind.classify value != kind.classify selected) ||
              (kind == .responseCode && (((selected :: rest).map kind.normalize).drop 1).any
                fun value => value != kind.normalize selected)) =
            ((rest'.any fun value => kind.classify value != kind.classify selected') ||
              (kind == .responseCode && (((selected' :: rest').map kind.normalize).drop 1).any
                fun value => value != kind.normalize selected')) := by
          rw [hstatus]
          exact congrArg (fun conflicting => _ || (kind == .responseCode && conflicting))
            hnormalized
        refine ⟨rfl, ?_, ?_, rfl, hconflict, ?_, hexact, hobserved, h.exactWireSpellings,
          h.sawBoundedOccurrence⟩
        · show (if (rest.map kind.normalize).any (fun value => value != kind.normalize selected)
            then none
              else if rest.all (fun value => some value == some selected) then some selected
              else ((selected :: rest).find? fun value => value == kind.normalize selected).or
                (selected :: rest).min?) =
            if (rest'.map kind.normalize).any (fun value => value != kind.normalize selected')
              then none else if rest'.all (fun value => some value == some selected')
                then some selected'
              else ((selected' :: rest').find? fun value => value == kind.normalize selected').or
                (selected' :: rest').min?
          rw [hsemantic, hsemantic, ← hspelling, hfind, hmin]
          rw [show ((rest'.map kind.normalize).any fun value => value != kind.normalize selected') =
            (rest.map kind.normalize).any fun value => value != kind.normalize selected from
              hnormalized.symm]
          cases hn : (rest.map kind.normalize).any fun value =>
            value != kind.normalize selected with
          | true => rfl
          | false =>
            rw [hnormal hn]
            cases hs : rest.any fun value => id value != id selected with
            | true => rfl
            | false => rw [hselected hs]
        · dsimp only
          rw [hconflict]
          split_ifs with hbad
          · rfl
          · rw [Bool.not_eq_true, Bool.or_eq_false_iff, ← hstatus] at hbad
            exact hevidence hbad.1
        · dsimp only
          rw [hconflict]
          cases hbad : (rest'.any fun value => kind.classify value != kind.classify selected') with
          | true => rfl
          | false =>
            rw [← hstatus] at hbad
            rw [hevidence hbad]

/-- The evidence that is observed in a field does not depend on the order. -/
theorem observedEvidence_perm {f f' : DecisionField} (h : f.SameUpToOrder f')
    (expected : DecisionEvidence) : f.observedEvidence expected = f'.observedEvidence expected := by
  unfold DecisionField.observedEvidence
  rw [h.kind, h.observedNormalized.any_eq]

/-- Nor does the HTTP status that a field repeats. -/
theorem genericHttpStatus_perm {f f' : DecisionField} (h : f.SameUpToOrder f') :
    f.genericHttpStatus = f'.genericHttpStatus := by
  have hobserved := h.observedNormalized
  have hspellings (p : Option String → Bool) := h.wireSpellings.all_eq (f := p)
  unfold DecisionField.genericHttpStatus
  rw [h.invalidOrConflicting, h.sawOccurrence, h.sawBoundedOccurrence,
    h.wireSpellings.isEmpty_eq]
  simp only [hspellings]
  split_ifs
  · rfl
  · cases hf : f.observedNormalized with
    | nil =>
      rw [hf] at hobserved
      rw [← hobserved.nil_eq]
    | cons normalized rest =>
      cases hf' : f'.observedNormalized with
      | nil =>
        rw [hf, hf'] at hobserved
        exact absurd hobserved.eq_nil (by simp)
      | cons normalized' rest' =>
        rw [hf, hf'] at hobserved
        -- The head is bad itself only if it differs from itself, so the test is that of the rest.
        have hhead (a : String) (l : List String) :
            ((a :: l).any fun value => value != a) = l.any fun value => id value != id a := by
          simp
        have hany := Duplicates.any_bne_eq id hobserved
        dsimp only
        rw [hhead, hhead, ← hany]
        cases hagree : rest.any fun value => id value != id normalized with
        | true => cases parseU16 normalized <;> cases parseU16 normalized' <;> simp
        | false =>
          have hnormalized : normalized = normalized' :=
            Duplicates.eq_of_any_bne_eq_false (f := id) hobserved hagree
          rw [hnormalized]

/-- The decision does not depend on the order of the occurrences of its fields. -/
theorem resolve_perm {d d' : PaymentDecisionFields}
    (hresponse : d.response.SameUpToOrder d'.response)
    (hcode : d.responseCode.SameUpToOrder d'.responseCode)
    (hstatus : d.status.SameUpToOrder d'.status)
    (hcondition : d.condition.SameUpToOrder d'.condition) : d.resolve = d'.resolve := by
  have herror : d.sawProviderError = d'.sawProviderError := by
    unfold PaymentDecisionFields.sawProviderError
    rw [observedEvidence_perm hresponse, observedEvidence_perm hstatus,
      observedEvidence_perm hcondition]
  have hinvalid : d.fields.any (·.invalidOrConflicting) =
      d'.fields.any (·.invalidOrConflicting) := by
    simp only [PaymentDecisionFields.fields, List.any_cons, List.any_nil,
      hresponse.invalidOrConflicting, hcode.invalidOrConflicting, hstatus.invalidOrConflicting,
      hcondition.invalidOrConflicting]
  have hunrecognized : d.fields.any (·.unrecognized) = d'.fields.any (·.unrecognized) := by
    simp only [PaymentDecisionFields.fields, List.any_cons, List.any_nil, hresponse.unrecognized,
      hcode.unrecognized, hstatus.unrecognized, hcondition.unrecognized]
  have hevidence : d.fields.map (·.evidence) = d'.fields.map (·.evidence) := by
    simp only [PaymentDecisionFields.fields, List.map_cons, List.map_nil, hresponse.evidence,
      hcode.evidence, hstatus.evidence, hcondition.evidence]
  have hstatuses (l : List DecisionField) :
      l.filterMap (fun f => f.evidence.bind DecisionEvidence.toPaymentStatus) =
        (l.map (·.evidence)).filterMap fun e => e.bind DecisionEvidence.toPaymentStatus := by
    rw [List.filterMap_map]
    rfl
  have hresolved : d.resolveStatus = d'.resolveStatus := by
    unfold PaymentDecisionFields.resolveStatus
    rw [hinvalid, hunrecognized, hstatuses, hstatuses, hevidence, herror]
  have hobserved : d.responseCode.observedEvidence = d'.responseCode.observedEvidence :=
    funext (observedEvidence_perm hcode)
  have hmatches {f f' : DecisionField} (h : f.SameUpToOrder f') (expected : String) :
      f.exactlyMatches expected = f'.exactlyMatches expected := by
    unfold DecisionField.exactlyMatches
    rw [h.invalidOrConflicting, h.exactWireSpelling]
  unfold PaymentDecisionFields.resolve
  rw [hresolved, herror, hobserved, hmatches hresponse, hmatches hcode, hresponse.raw, hcode.raw,
    hcondition.raw, hresponse.sawOccurrence, hcode.sawOccurrence, hstatus.sawOccurrence,
    hcondition.sawOccurrence, genericHttpStatus_perm hstatus]

/-! ## Forms -/

variable {fields fields' : List (String × String)}

/-- The occurrences of a field, when the pairs are in another order. -/
theorem classicOccurrences_perm (h : fields.Perm fields') (aliases : List String) :
    (classicOccurrences fields aliases).Perm (classicOccurrences fields' aliases) :=
  (h.filter _).map _

/-- A decision field of a form does not depend on the order of the pairs. -/
theorem collectClassicDecision_perm (h : fields.Perm fields') (aliases : List String)
    (kind : DecisionFieldKind) :
    (collectClassicDecision fields aliases kind).SameUpToOrder
      (collectClassicDecision fields' aliases kind) :=
  finishDecision_perm (collect_perm (classicOccurrences_perm h aliases)) kind

/-- Nor does its decision. -/
theorem classicDecision_perm (h : fields.Perm fields') :
    classicDecision fields = classicDecision fields' :=
  resolve_perm (collectClassicDecision_perm h _ _) (collectClassicDecision_perm h _ _)
    (collectClassicDecision_perm h _ _) (collectClassicDecision_perm h _ _)

/-- Nor does its outcome, or the error that it is. -/
theorem classicPaymentOutcomeFromForm_perm (h : fields.Perm fields') :
    classicPaymentOutcomeFromForm fields = classicPaymentOutcomeFromForm fields' := by
  have htext (aliases : List String) :
      collectClassicText fields aliases = collectClassicText fields' aliases :=
    collectBounded_perm (classicOccurrences_perm h aliases)
  have hoptional (aliases : List String) :
      collectClassicOptionalIdentifier fields aliases =
        collectClassicOptionalIdentifier fields' aliases :=
    collectIdentifier_perm _ (classicOccurrences_perm h aliases)
  have htransaction : collectClassicTransactionIdentifier fields =
      collectClassicTransactionIdentifier fields' := by
    unfold collectClassicTransactionIdentifier
    rw [collectIdentifier_perm .optional (classicOccurrences_perm h _),
      collectIdentifier_perm .foregroundRequired (classicOccurrences_perm h _)]
  have hevidence : classicEvidence fields = classicEvidence fields' := by
    unfold classicEvidence
    simp only [htransaction, hoptional]
  have hlimit (decision : ResolvedPaymentDecision) (evidence : List ResolvedScalar) :
      classicIsKnownPreprocessingRateLimit fields decision evidence =
        classicIsKnownPreprocessingRateLimit fields' decision evidence := by
    unfold classicIsKnownPreprocessingRateLimit
    rw [h.all_eq]
  unfold classicPaymentOutcomeFromForm
  simp only [classicDecision_perm h, hevidence, hlimit, htransaction, htext, hoptional]

/-! ## JSON objects -/

variable {members members' : List (String × LosslessJsonValue)}

/-- The occurrences of a direct member, when the members are in another order. -/
theorem jsonOccurrences_perm (h : members.Perm members') (name : String) :
    (jsonOccurrences (.object members) name).Perm (jsonOccurrences (.object members') name) :=
  (h.filter _).map _

/-- The occurrences on a path. Only the members of the outermost object change their order. -/
theorem jsonPathOccurrences_perm (h : members.Perm members') (path : List String) :
    (jsonPathOccurrences path (.object members)).Perm
      (jsonPathOccurrences path (.object members')) := by
  cases path with
  | nil => exact .refl _
  | cons segment remaining => exact (h.filter _).flatMap_right _

/-- An identifier of an object does not depend on the order of its members. -/
theorem collectJsonIdentifier_perm (h : members.Perm members') (paths : List (List String))
    (presence : IdentifierPresence) :
    collectJsonIdentifier (.object members) paths presence =
      collectJsonIdentifier (.object members') paths presence :=
  collectIdentifier_perm presence
    (List.Perm.flatMap_left paths fun path _ => jsonPathOccurrences_perm h path)

/-- Nor does its decision. -/
theorem paymentDecisionFromJson_perm (h : members.Perm members') :
    paymentDecisionFromJson (.object members) = paymentDecisionFromJson (.object members') := by
  have hfield (name : String) (kind : DecisionFieldKind) :
      (collectJsonDecision (.object members) name kind).SameUpToOrder
        (collectJsonDecision (.object members') name kind) :=
    finishDecision_perm (collect_perm (jsonOccurrences_perm h name)) kind
  exact resolve_perm (hfield _ _) (hfield _ _) (hfield _ _) (hfield _ _)

/-- An outcome without the card display, which is read from the last member of a name. -/
def PaymentOutcome.withoutDescriptor (o : PaymentOutcome) : PaymentOutcome :=
  { o with descriptor := {} }

/-- The order of a response on the wire does not matter. Every permutation of the pairs of a form
gives the same result. Every permutation of the members of an object gives the same error, or an
outcome that differs in the card display at most. -/
theorem outcome_of_wire_order :
    (∀ fields fields' : List (String × String), fields.Perm fields' →
      classicPaymentOutcomeFromForm fields = classicPaymentOutcomeFromForm fields') ∧
    ∀ members members' : List (String × LosslessJsonValue), members.Perm members' →
      (paymentOutcomeFromJson (.object members)).map PaymentOutcome.withoutDescriptor =
        (paymentOutcomeFromJson (.object members')).map PaymentOutcome.withoutDescriptor := by
  refine ⟨fun _ _ h => classicPaymentOutcomeFromForm_perm h, fun members members' h => ?_⟩
  have hlimit (decision : ResolvedPaymentDecision) :
      jsonIsKnownPreprocessingRateLimit (.object members) decision =
        jsonIsKnownPreprocessingRateLimit (.object members') decision := by
    show (decision.knownPreprocessingRateLimit && members.all isJsonRateLimitField) =
      (decision.knownPreprocessingRateLimit && members'.all isJsonRateLimitField)
    rw [h.all_eq]
  have htext := collectBounded_perm (jsonOccurrences_perm h "response_text")
  unfold paymentOutcomeFromJson
  simp only [paymentDecisionFromJson_perm h, hlimit, htext, collectJsonIdentifier_perm h]
  split_ifs
  · rfl
  · rfl

/-- Two fields of an approval in either order. -/
theorem outcome_of_wire_order_approval :
    classicPaymentOutcomeFromForm [("transactionid", "7"), ("response", "1")] =
        classicPaymentOutcomeFromForm [("response", "1"), ("transactionid", "7")] ∧
      (paymentOutcomeFromJson (.object [("id", .string "7"), ("response", .string "1")])).map
          PaymentOutcome.withoutDescriptor =
        (paymentOutcomeFromJson (.object [("response", .string "1"), ("id", .string "7")])).map
          PaymentOutcome.withoutDescriptor :=
  ⟨outcome_of_wire_order.1 _ _ (.swap _ _ _), outcome_of_wire_order.2 _ _ (.swap _ _ _)⟩

end SyrupRail.Nmi
