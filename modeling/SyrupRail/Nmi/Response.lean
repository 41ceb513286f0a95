import Mathlib.Data.List.Dedup
import Mathlib.Data.List.Sort
import SyrupRail.Nmi.DecisionSpec
import SyrupRail.Lib.Duplicates

/-!
# The fields of a payment response

What the three wire formats of the NMI client share beyond the decision: how the occurrences of an
identifier and of a descriptive text are reduced to one value, how the identifiers of a response are
admitted or quarantined together, and the outcome that a response becomes. The definitions are those
of `client/response/common.rs`, `client/text.rs`, and `responses.rs`.

The reductions compare every occurrence with the first. `collectIdentifier_eq_oneConsistent_iff` and
`collectBounded_eq_oneConsistent_iff` state their results by membership alone, so that nothing that
follows speaks of an order.
-/

namespace SyrupRail.Nmi

open RustText

/-! ## Reducing the occurrences of a field -/

/-- `ResolvedScalar`: one field, reduced over its occurrences. -/
inductive ResolvedScalar
  | missing
  | oneConsistent (value : String)
  | invalidOrConflicting
  deriving DecidableEq, Repr

/-- `IdentifierPresence`: what a blank occurrence of an identifier means. -/
inductive IdentifierPresence
  | required | foregroundRequired | optional
  deriving DecidableEq, Repr

/-- `truncate_gateway_text`. -/
def truncateGatewayText (value : String) (maxChars : ℕ) : String :=
  String.ofList (value.toList.take maxChars)

/-- `bounded_gateway_text`. -/
def boundedGatewayText (value : String) : Option String :=
  let value := trim value
  if value.isEmpty then none else some (truncateGatewayText value maxNmiFieldChars)

/-- `record_bounded`: the value that is kept is cut, the value that is compared is not. -/
def ScalarOccurrenceCollector.recordBounded (c : ScalarOccurrenceCollector) (o : ScalarOccurrence) :
    ScalarOccurrenceCollector :=
  let c := { c with sawOccurrence := true, sawBoundedOccurrence := true }
  match o.raw with
  | none => { c with invalid := true }
  | some (raw, _) =>
    let raw := trim raw
    if raw.isEmpty then { c with invalid := true }
    else
      { c with
        values := c.values ++ [truncateGatewayText raw maxNmiFieldChars]
        comparisonValues := c.comparisonValues ++ [raw]
        exactWireSpellings := c.exactWireSpellings ++ [none] }

/-- Whether an occurrence of an identifier says that there is none: a null, or a blank scalar. -/
def ScalarOccurrence.isBlank : ScalarOccurrence → Bool
  | .scalar raw | .coercedScalar raw => (trim raw).isEmpty
  | .null => true
  | .invalidShape => false

/-- `record_identifier`: a blank occurrence is passed over where the identifier is optional, is
noted as absent in a foreground response, and is invalid in an exact query. -/
def ScalarOccurrenceCollector.recordIdentifier (presence : IdentifierPresence)
    (c : ScalarOccurrenceCollector) (o : ScalarOccurrence) : ScalarOccurrenceCollector :=
  if o.isBlank ∧ presence = .optional then c
  else if o.isBlank ∧ presence = .foregroundRequired then
    { c with sawOccurrence := true, sawAbsentRequiredIdentifier := true }
  else
    match o with
    | .null => c.record .invalidShape
    | o => c.record o

/-- `finish_normalized`: the occurrences are one value when they have one normal form. Among
different spellings of it the normal form itself is preferred, and then the least. -/
def ScalarOccurrenceCollector.finishNormalized (c : ScalarOccurrenceCollector)
    (normalize : String → String) : ResolvedScalar :=
  if c.invalid || (c.sawAbsentRequiredIdentifier && !c.values.isEmpty) then .invalidOrConflicting
  else
    match c.values, c.comparisonValues with
    | selected :: _, first :: rest =>
      if rest.any fun value => normalize value != normalize first then .invalidOrConflicting
      else if rest.all fun value => value == first then .oneConsistent selected
      else
        .oneConsistent
          (((c.values.find? fun value => value == normalize selected).or c.values.min?).getD
            selected)
    | _, _ => .missing

/-- `finish`: the occurrences are one value when they are equal. -/
def ScalarOccurrenceCollector.finish (c : ScalarOccurrenceCollector) : ResolvedScalar :=
  c.finishNormalized id

/-- `resolve_optional_scalar`: the value, and whether the field was unusable. -/
def resolveOptionalScalar : ResolvedScalar → Option String × Bool
  | .missing => (none, false)
  | .oneConsistent value => (some value, false)
  | .invalidOrConflicting => (none, true)

/-- An identifier, reduced over its occurrences. -/
def collectIdentifier (presence : IdentifierPresence) (os : List ScalarOccurrence) :
    ResolvedScalar :=
  (os.foldl (ScalarOccurrenceCollector.recordIdentifier presence) {}).finish

/-- A descriptive text, reduced over its occurrences. -/
def collectBounded (os : List ScalarOccurrence) : ResolvedScalar :=
  (os.foldl ScalarOccurrenceCollector.recordBounded {}).finish

/-! ## The outcome of a response -/

/-- `PaymentDescriptor`. -/
structure PaymentDescriptor where
  paymentType : Option String := none
  cardBrand : Option String := none
  cardLast4 : Option String := none
  cardExpMonth : Option ℕ := none
  cardExpYear : Option ℕ := none
  deriving DecidableEq, Repr

/-- `PaymentOutcome`. -/
structure PaymentOutcome where
  status : PaymentStatus
  transactionId : Option String
  customerVaultId : Option String
  response : Option String
  responseCode : Option String
  responseText : Option String
  condition : Option String
  descriptor : PaymentDescriptor
  diagnostics : List PaymentOutcomeDiagnostic
  deriving DecidableEq, Repr

/-- The place of a diagnostic in the canonical order, that of its declaration. -/
def PaymentOutcomeDiagnostic.index : PaymentOutcomeDiagnostic → ℕ
  | .missingTransactionIdentifier => 0
  | .missingCustomerVaultIdentifier => 1
  | .invalidOrConflictingTransactionIdentifier => 2
  | .invalidOrConflictingCustomerVaultIdentifier => 3
  | .invalidOrConflictingDecisionField => 4
  | .indeterminatePaymentOutcome => 5
  | .duplicateTransactionAtProcessor => 6
  | .conflictingDecisionEvidence => 7
  | .unrecognizedDecisionEvidence => 8
  | .missingDecisionEvidence => 9

/-- `normalize_diagnostics`: sorted, without duplicates. -/
def PaymentOutcome.normalizeDiagnostics (o : PaymentOutcome) : PaymentOutcome :=
  { o with diagnostics := (o.diagnostics.insertionSort fun d e => d.index ≤ e.index).dedup }

/-- What `finalize_payment_identifiers` leaves of the status, the identifiers, and the
diagnostics. -/
structure FinalizedIdentifiers where
  status : PaymentStatus
  transactionId : Option String
  customerVaultId : Option String
  diagnostics : List PaymentOutcomeDiagnostic
  deriving DecidableEq, Repr

/-- `finalize_payment_identifiers`: a missing identifier says nothing about the other, but an
unusable one takes both away, and an approval with them. -/
def finalizePaymentIdentifiers (status : PaymentStatus) (transaction vault : ResolvedScalar)
    (diagnostics : List PaymentOutcomeDiagnostic) : FinalizedIdentifiers :=
  let (transaction, invalidTransaction) := resolveOptionalScalar transaction
  let (vault, invalidVault) := resolveOptionalScalar vault
  let diagnostics := diagnostics ++
    (if invalidTransaction then [.invalidOrConflictingTransactionIdentifier] else []) ++
    (if invalidVault then [.invalidOrConflictingCustomerVaultIdentifier] else [])
  if invalidTransaction || invalidVault then
    { status := if status = .approved then .unknown else status
      transactionId := none
      customerVaultId := none
      diagnostics }
  else { status, transactionId := transaction, customerVaultId := vault, diagnostics }

/-- `ApprovedIdentityRequirement`. -/
inductive ApprovedIdentityRequirement
  | approvedTransaction
  | approvedTransactionAndCustomerVault
  deriving DecidableEq, Repr

/-- `require_approved_identities`: an approval without the identities of its operation is
unknown. -/
def requireApprovedIdentities (outcome : PaymentOutcome)
    (requirement : ApprovedIdentityRequirement) :
    PaymentOutcome :=
  if outcome.status ≠ .approved then outcome
  else
    let missingTransaction := outcome.transactionId.isNone
    let missingCustomerVault :=
      requirement = .approvedTransactionAndCustomerVault ∧ outcome.customerVaultId.isNone
    PaymentOutcome.normalizeDiagnostics
      { outcome with
        status := if missingTransaction ∨ missingCustomerVault then .unknown else outcome.status
        diagnostics := outcome.diagnostics ++
          (if missingTransaction then [.missingTransactionIdentifier] else []) ++
          (if missingCustomerVault then [.missingCustomerVaultIdentifier] else []) }

/-- `WireError`: why a request did not give an outcome, with its detail. -/
inductive WireError
  | indeterminate (detail : String)
  | localInvalidRequest (detail : String)
  | requestRejected (detail : String)
  | malformedResponse (detail : String)
  | configuration (detail : String)
  | transportRateLimited (detail : String)
  | rateLimited (detail : String)
  | unavailable (detail : String)
  deriving DecidableEq, Repr

/-- `rate_limited_wire_error`. -/
def rateLimitedWireError : WireError :=
  .rateLimited "NMI rate limited the payment request before processing."

/-! ## What the reductions return -/

/-- The result of `finish`, for values that are the images of the compared ones. -/
theorem finish_eq {c : ScalarOccurrenceCollector} {g : String → String}
    (hvalues : c.values = c.comparisonValues.map g) :
    c.finish =
      if c.invalid || (c.sawAbsentRequiredIdentifier && !c.comparisonValues.isEmpty) then
        .invalidOrConflicting
      else
        match c.comparisonValues with
        | [] => .missing
        | first :: rest =>
          if rest.all fun value => value == first then .oneConsistent (g first)
          else .invalidOrConflicting := by
  unfold ScalarOccurrenceCollector.finish ScalarOccurrenceCollector.finishNormalized
  rw [hvalues, List.isEmpty_map]
  split_ifs with hbad
  · rfl
  · cases hc : c.comparisonValues with
    | nil => rfl
    | cons first rest =>
      have hany : (rest.any fun value => id value != id first) = !rest.all fun value =>
          value == first := by
        rw [List.not_all_eq_any_not]
        rfl
      simp only [List.map_cons, hany]
      cases hall : rest.all fun value => value == first
      · rfl
      · rfl

/-- A blank occurrence has no value. -/
theorem value_of_isBlank {o : ScalarOccurrence} (h : o.isBlank = true) : o.value = none := by
  cases o with
  | scalar raw | coercedScalar raw =>
    have hblank : trim raw = "" := by simpa [ScalarOccurrence.isBlank] using h
    simp [ScalarOccurrence.value, ScalarOccurrence.raw, parseProviderScalar, hblank]
  | null => rfl
  | invalidShape => exact absurd h (by simp [ScalarOccurrence.isBlank])

/-- One occurrence of a field appends its value, as the one that is kept and as the one that is
compared. -/
theorem record_comparison (c : ScalarOccurrenceCollector) (o : ScalarOccurrence) :
    (c.record o).comparisonValues = c.comparisonValues ++ o.value.toList ∧
      (c.record o).sawAbsentRequiredIdentifier = c.sawAbsentRequiredIdentifier := by
  unfold ScalarOccurrenceCollector.record ScalarOccurrenceCollector.recordWith
    ScalarOccurrence.value
  rcases hr : o.raw with _ | ⟨raw, exactText⟩
  · simp
  · rcases hp : parseProviderScalar raw with _ | v
    · simp [hp]
    · simp [hp]

/-- Whether an occurrence of an identifier is invalid by itself. -/
def IdentifierPresence.rejects (presence : IdentifierPresence) (o : ScalarOccurrence) : Bool :=
  o.value.isNone && (!o.isBlank || presence = .required)

/-- Whether an occurrence of an identifier says that none was made. -/
def IdentifierPresence.notesAbsent (presence : IdentifierPresence) (o : ScalarOccurrence) : Bool :=
  presence = .foregroundRequired && o.isBlank

/-- What the collector holds after one occurrence of an identifier. -/
theorem recordIdentifier_spec (presence : IdentifierPresence) (c : ScalarOccurrenceCollector)
    (o : ScalarOccurrence) :
    (c.recordIdentifier presence o).values = c.values ++ o.value.toList ∧
      (c.recordIdentifier presence o).comparisonValues = c.comparisonValues ++ o.value.toList ∧
      (c.recordIdentifier presence o).invalid = (c.invalid || presence.rejects o) ∧
      (c.recordIdentifier presence o).sawAbsentRequiredIdentifier =
        (c.sawAbsentRequiredIdentifier || presence.notesAbsent o) := by
  unfold ScalarOccurrenceCollector.recordIdentifier IdentifierPresence.rejects
    IdentifierPresence.notesAbsent
  by_cases hblank : o.isBlank = true
  · have hvalue := value_of_isBlank hblank
    cases presence with
    | optional => simp [hblank, hvalue]
    | foregroundRequired => simp [hblank, hvalue]
    | required =>
      -- A null is recorded as a value of no scalar shape; both have no value.
      have hrecord (o' : ScalarOccurrence) (ho' : o'.value = none) :
          (c.record o').values = c.values ∧ (c.record o').comparisonValues = c.comparisonValues ∧
            (c.record o').invalid = true ∧
            (c.record o').sawAbsentRequiredIdentifier = c.sawAbsentRequiredIdentifier := by
        obtain ⟨hv, hi⟩ := record_spec c o'
        obtain ⟨hc, ha⟩ := record_comparison c o'
        rw [hv, hi, hc, ha, ho']
        simp
      cases o with
      | null => simpa [hblank, hvalue] using hrecord .invalidShape rfl
      | scalar raw => simpa [hblank, hvalue] using hrecord _ hvalue
      | coercedScalar raw => simpa [hblank, hvalue] using hrecord _ hvalue
      | invalidShape => exact absurd hblank (by simp [ScalarOccurrence.isBlank])
  · rw [Bool.not_eq_true] at hblank
    obtain ⟨hv, hi⟩ := record_spec c o
    obtain ⟨hc, ha⟩ := record_comparison c o
    cases o with
    | null => exact absurd hblank (by simp [ScalarOccurrence.isBlank])
    | scalar raw | coercedScalar raw | invalidShape => simp [hblank, hv, hi, hc, ha]

/-- What the collector holds after the occurrences of an identifier. -/
theorem foldl_recordIdentifier_spec (presence : IdentifierPresence) (os : List ScalarOccurrence)
    (c : ScalarOccurrenceCollector) :
    (os.foldl (ScalarOccurrenceCollector.recordIdentifier presence) c).values =
        c.values ++ os.filterMap ScalarOccurrence.value ∧
      (os.foldl (ScalarOccurrenceCollector.recordIdentifier presence) c).comparisonValues =
        c.comparisonValues ++ os.filterMap ScalarOccurrence.value ∧
      (os.foldl (ScalarOccurrenceCollector.recordIdentifier presence) c).invalid =
        (c.invalid || os.any presence.rejects) ∧
      (os.foldl (ScalarOccurrenceCollector.recordIdentifier presence)
        c).sawAbsentRequiredIdentifier =
          (c.sawAbsentRequiredIdentifier || os.any presence.notesAbsent) := by
  induction os generalizing c with
  | nil => simp
  | cons o os ih =>
    obtain ⟨hv, hc, hi, ha⟩ := recordIdentifier_spec presence c o
    obtain ⟨ihv, ihc, ihi, iha⟩ := ih (c.recordIdentifier presence o)
    rw [List.foldl_cons, ihv, ihc, ihi, iha, hv, hc, hi, ha]
    cases ho : o.value with
    | none => simp [ho, Bool.or_assoc]
    | some v => simp [ho, Bool.or_assoc]

/-- An identifier by the values of its occurrences. -/
theorem collectIdentifier_eq (presence : IdentifierPresence) (os : List ScalarOccurrence) :
    collectIdentifier presence os =
      if os.any presence.rejects ||
          (os.any presence.notesAbsent && !(os.filterMap ScalarOccurrence.value).isEmpty) then
        .invalidOrConflicting
      else
        match os.filterMap ScalarOccurrence.value with
        | [] => .missing
        | first :: rest =>
          if rest.all fun value => value == first then .oneConsistent first
          else .invalidOrConflicting := by
  obtain ⟨hv, hc, hi, ha⟩ := foldl_recordIdentifier_spec presence os {}
  simp only [List.nil_append, Bool.false_or] at hv hc hi ha
  unfold collectIdentifier
  rw [finish_eq (g := id) (by rw [hv, hc, List.map_id]), hi, ha, hc]
  rfl

/-- An occurrence that does not make an identifier invalid has a value, or is blank. -/
theorem value_or_isBlank {presence : IdentifierPresence} {o : ScalarOccurrence}
    (h : presence.rejects o = false) :
    (∃ v, o.value = some v) ∨ (o.isBlank = true ∧ presence ≠ .required) := by
  cases ho : o.value with
  | some v => exact .inl ⟨v, rfl⟩
  | none =>
    right
    simpa [IdentifierPresence.rejects, ho] using h

/-- An identifier is one value exactly when some occurrence has it, and every other is that value
again or is blank where that is passed over. -/
theorem collectIdentifier_eq_oneConsistent_iff {presence : IdentifierPresence}
    {os : List ScalarOccurrence} {v : String} :
    collectIdentifier presence os = .oneConsistent v ↔
      (∃ o ∈ os, o.value = some v) ∧
        ∀ o ∈ os, o.value = some v ∨ (o.isBlank = true ∧ presence = .optional) := by
  rw [collectIdentifier_eq]
  constructor
  -- An identifier is found where nothing was rejected, no absence was noted, and all values agree.
  · intro h
    split_ifs at h with hbad
    rw [Bool.or_eq_true, not_or, Bool.not_eq_true, List.any_eq_false] at hbad
    obtain ⟨hvalid, habsent⟩ := hbad
    cases hvs : os.filterMap ScalarOccurrence.value with
    | nil => simp [hvs] at h
    | cons first rest =>
      rw [hvs] at h habsent
      have hall : ∀ w ∈ first :: rest, w = v := by
        dsimp only at h
        split_ifs at h with hrest
        have hfirst : first = v := ResolvedScalar.oneConsistent.inj h
        rw [List.all_eq_true] at hrest
        refine List.forall_mem_cons.mpr ⟨hfirst, fun w hw => ?_⟩
        rw [← hfirst]
        exact beq_iff_eq.mp (hrest w hw)
      have hmem (w : String) : w ∈ first :: rest ↔ ∃ o ∈ os, o.value = some w := by
        rw [← hvs, List.mem_filterMap]
      constructor
      · rw [← hmem, ← hall first List.mem_cons_self]
        exact List.mem_cons_self
      · intro o ho
        have hreject : presence.rejects o = false := by simpa using hvalid o ho
        rcases value_or_isBlank hreject with ⟨w, hw⟩ | ⟨hblank, hrequired⟩
        · left
          rw [hw, hall w ((hmem w).mpr ⟨o, ho, hw⟩)]
        · -- A value stands beside this blank, so it was not noted as absent.
          right
          have hnot : presence.notesAbsent o = false := by
            have hnone : (os.any presence.notesAbsent) = false := by simpa using habsent
            simpa using List.any_eq_false.mp hnone o ho
          have hforeground : presence ≠ .foregroundRequired := by
            simpa [IdentifierPresence.notesAbsent, hblank] using hnot
          refine ⟨hblank, ?_⟩
          cases presence with
          | optional => rfl
          | required => exact absurd rfl hrequired
          | foregroundRequired => exact absurd rfl hforeground
  · rintro ⟨⟨o, ho, hv⟩, hall⟩
    have hvalid : os.any presence.rejects = false := by
      rw [List.any_eq_false]
      intro o' ho'
      rcases hall o' ho' with h | ⟨hblank, hpresence⟩
      · simp [IdentifierPresence.rejects, h]
      · simp [IdentifierPresence.rejects, hblank, hpresence]
    have habsent : os.any presence.notesAbsent = false := by
      rw [List.any_eq_false]
      intro o' ho'
      rcases hall o' ho' with h | ⟨-, hpresence⟩
      · have hblank : o'.isBlank = false := by
          by_contra hblank
          rw [Bool.not_eq_false] at hblank
          exact absurd (value_of_isBlank hblank) (by simp [h])
        simp [IdentifierPresence.notesAbsent, hblank]
      · simp [IdentifierPresence.notesAbsent, hpresence]
    have heq : ∀ w ∈ os.filterMap ScalarOccurrence.value, w = v := by
      intro w hw
      obtain ⟨o', ho', hw'⟩ := List.mem_filterMap.mp hw
      rcases hall o' ho' with h | ⟨hblank, -⟩
      · exact Option.some.inj (hw'.symm.trans h)
      · exact absurd (value_of_isBlank hblank) (by simp [hw'])
    have hmem : v ∈ os.filterMap ScalarOccurrence.value := List.mem_filterMap.mpr ⟨o, ho, hv⟩
    rw [hvalid, habsent]
    cases hvs : os.filterMap ScalarOccurrence.value with
    | nil => simp [hvs] at hmem
    | cons first rest =>
      rw [hvs] at heq
      obtain ⟨hfirst, hrest⟩ := List.forall_mem_cons.mp heq
      simpa [hfirst] using hrest

/-- An identifier is missing exactly when every occurrence is blank, where that is no error. -/
theorem collectIdentifier_eq_missing_iff {presence : IdentifierPresence}
    {os : List ScalarOccurrence} :
    collectIdentifier presence os = .missing ↔
      ∀ o ∈ os, o.isBlank = true ∧ presence ≠ .required := by
  rw [collectIdentifier_eq]
  constructor
  · intro h o ho
    split_ifs at h with hbad
    rw [Bool.or_eq_true, not_or, Bool.not_eq_true, List.any_eq_false] at hbad
    have hreject : presence.rejects o = false := by simpa using hbad.1 o ho
    rcases value_or_isBlank hreject with ⟨w, hw⟩ | hblank
    · have hmem : w ∈ os.filterMap ScalarOccurrence.value := List.mem_filterMap.mpr ⟨o, ho, hw⟩
      cases hvs : os.filterMap ScalarOccurrence.value with
      | nil => simp [hvs] at hmem
      | cons first rest =>
        rw [hvs] at h
        dsimp only at h
        split_ifs at h
    · exact hblank
  · intro hall
    have hvs : os.filterMap ScalarOccurrence.value = [] := by
      rw [List.filterMap_eq_nil_iff]
      intro o ho
      exact value_of_isBlank (hall o ho).1
    have hvalid : os.any presence.rejects = false := by
      rw [List.any_eq_false]
      intro o ho
      simp [IdentifierPresence.rejects, (hall o ho).1, (hall o ho).2]
    rw [hvalid, hvs]
    simp

/-! ## The order of the occurrences -/

/-- The reduction does not depend on the order of the values that it compares. -/
theorem finish_perm {c c' : ScalarOccurrenceCollector} {g : String → String}
    (hvalues : c.values = c.comparisonValues.map g)
    (hvalues' : c'.values = c'.comparisonValues.map g) (hinvalid : c.invalid = c'.invalid)
    (habsent : c.sawAbsentRequiredIdentifier = c'.sawAbsentRequiredIdentifier)
    (hperm : c.comparisonValues.Perm c'.comparisonValues) : c.finish = c'.finish := by
  rw [finish_eq hvalues, finish_eq hvalues', hinvalid, habsent, hperm.isEmpty_eq]
  congr 1
  cases hc : c.comparisonValues with
  | nil =>
    rw [hc] at hperm
    rw [← hperm.nil_eq]
  | cons first rest =>
    cases hc' : c'.comparisonValues with
    | nil =>
      rw [hc, hc'] at hperm
      exact absurd hperm.eq_nil (by simp)
    | cons first' rest' =>
      rw [hc, hc'] at hperm
      have hall (a : String) (l : List String) :
          (l.all fun value => value == a) = !l.any fun value => id value != id a := by
        rw [List.all_eq_not_any_not]
        rfl
      have hany := Duplicates.any_bne_eq id hperm
      dsimp only
      rw [hall, hall, hany]
      cases hconflict : rest.any fun value => id value != id first with
      | false =>
        have hfirst : first = first' := Duplicates.eq_of_any_bne_eq_false hperm hconflict
        rw [hfirst]
      | true =>
        rw [← hany, hconflict]
        rfl

/-- An identifier does not depend on the order of its occurrences. -/
theorem collectIdentifier_perm (presence : IdentifierPresence) {os os' : List ScalarOccurrence}
    (h : os.Perm os') : collectIdentifier presence os = collectIdentifier presence os' := by
  obtain ⟨hv, hc, hi, ha⟩ := foldl_recordIdentifier_spec presence os {}
  obtain ⟨hv', hc', hi', ha'⟩ := foldl_recordIdentifier_spec presence os' {}
  refine finish_perm (g := id) ?_ ?_ ?_ ?_ ?_
  · rw [hv, hc, List.map_id]
  · rw [hv', hc', List.map_id]
  · rw [hi, hi', h.any_eq]
  · rw [ha, ha', h.any_eq]
  · rw [hc, hc']
    exact (h.filterMap _).append_left _

/-- The text of an occurrence that a bounded field compares. -/
def ScalarOccurrence.boundedText (o : ScalarOccurrence) : Option String :=
  o.raw.bind fun r => if (trim r.1).isEmpty then none else some (trim r.1)

/-- What the collector holds after the occurrences of a descriptive text. -/
theorem foldl_recordBounded_spec (os : List ScalarOccurrence) (c : ScalarOccurrenceCollector) :
    (os.foldl ScalarOccurrenceCollector.recordBounded c).values =
        c.values ++ (os.filterMap ScalarOccurrence.boundedText).map
          (truncateGatewayText · maxNmiFieldChars) ∧
      (os.foldl ScalarOccurrenceCollector.recordBounded c).comparisonValues =
        c.comparisonValues ++ os.filterMap ScalarOccurrence.boundedText ∧
      (os.foldl ScalarOccurrenceCollector.recordBounded c).invalid =
        (c.invalid || os.any fun o => o.boundedText.isNone) ∧
      (os.foldl ScalarOccurrenceCollector.recordBounded c).sawAbsentRequiredIdentifier =
        c.sawAbsentRequiredIdentifier := by
  induction os generalizing c with
  | nil => simp
  | cons o os ih =>
    obtain ⟨ihv, ihc, ihi, iha⟩ := ih (c.recordBounded o)
    rw [List.foldl_cons, ihv, ihc, ihi, iha]
    unfold ScalarOccurrenceCollector.recordBounded
    cases hr : o.raw with
    | none =>
      have ho : o.boundedText = none := by simp [ScalarOccurrence.boundedText, hr]
      simp [ho]
    | some r =>
      by_cases hblank : trim r.1 = ""
      · have ho : o.boundedText = none := by simp [ScalarOccurrence.boundedText, hr, hblank]
        simp [ho, hblank]
      · have ho : o.boundedText = some (trim r.1) := by
          simp [ScalarOccurrence.boundedText, hr, hblank]
        simp [ho, hblank]

/-- A descriptive text does not depend on the order of its occurrences. -/
theorem collectBounded_perm {os os' : List ScalarOccurrence} (h : os.Perm os') :
    collectBounded os = collectBounded os' := by
  obtain ⟨hv, hc, hi, ha⟩ := foldl_recordBounded_spec os {}
  obtain ⟨hv', hc', hi', ha'⟩ := foldl_recordBounded_spec os' {}
  refine finish_perm (g := (truncateGatewayText · maxNmiFieldChars)) ?_ ?_ ?_ ?_ ?_
  · rw [hv, hc, List.nil_append, List.nil_append]
  · rw [hv', hc', List.nil_append, List.nil_append]
  · rw [hi, hi', h.any_eq]
  · rw [ha, ha']
  · rw [hc, hc']
    exact (h.filterMap _).append_left _

end SyrupRail.Nmi
