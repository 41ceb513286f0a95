import SyrupRail.Nmi.Adapter
import SyrupRail.Nmi.NotSubmitted

/-!
# Approved means identified

An approval that the client returns names its transaction, and its vault entry where the operation
needs one. Each wire format gathers the occurrences of the two identifiers in its own way
(`ResponseIdentifiers`); from there on the three formats share the pass that quarantines unusable
identifiers and the pass that requires the identities of an approval. `PaymentOutcome.Parsed` says
what the first leaves, `Identified` what the second does, and the adapter keeps it.
-/

namespace SyrupRail.Nmi

open RustText

/-! ## The identifiers of a response -/

/-- The occurrences of the identifiers in a response, and what its decision fields resolve to. -/
structure ResponseIdentifiers where
  decision : PaymentStatus
  presence : IdentifierPresence
  transaction : List ScalarOccurrence
  vault : List ScalarOccurrence

/-- The identifiers of a Classic form. -/
def formIdentifiers (fields : List (String × String)) : ResponseIdentifiers where
  decision := (classicDecision fields).status
  presence := .foregroundRequired
  transaction := classicOccurrences fields classicTransactionAliases
  vault := classicOccurrences fields ["customer_vault_id", "customer_vaultid"]

/-- The identifiers of a v5 response. -/
def jsonIdentifiers (value : LosslessJsonValue) : ResponseIdentifiers where
  decision := (paymentDecisionFromJson value).status
  presence := .foregroundRequired
  transaction := jsonTransactionIdPaths.flatMap (jsonPathOccurrences · value)
  vault := jsonCustomerVaultIdPaths.flatMap (jsonPathOccurrences · value)

/-- The identifiers of a transaction in XML. -/
def xmlIdentifiers (transaction : XmlNode) : ResponseIdentifiers where
  decision := (xmlDecision transaction).status
  presence := .required
  transaction := xmlOccurrences transaction "transaction_id"
  vault := xmlOccurrences transaction "customer_vault_id"

/-- The occurrences of an identifier are one value: some occurrence has it, and every other one has
it too, or is blank where that is passed over. -/
def Consistent (presence : IdentifierPresence) (os : List ScalarOccurrence) (value : String) :
    Prop :=
  (∃ o ∈ os, o.value = some value) ∧
    ∀ o ∈ os, o.value = some value ∨ (o.isBlank = true ∧ presence = .optional)

/-- No occurrence of an identifier says anything. -/
def Absent (presence : IdentifierPresence) (os : List ScalarOccurrence) : Prop :=
  ∀ o ∈ os, o.isBlank = true ∧ presence ≠ .required

/-- Some occurrence of an identifier is invalid, or stands beside a value and does not repeat it. -/
def Unusable (presence : IdentifierPresence) (os : List ScalarOccurrence) : Prop :=
  (∃ o ∈ os, o.value = none ∧ (o.isBlank = true → presence = .required)) ∨
    ∃ o ∈ os, ∃ value, o.value = some value ∧
      ∃ o' ∈ os, o'.value ≠ some value ∧ ¬ (o'.isBlank = true ∧ presence = .optional)

/-- The occurrences of an identifier are unusable exactly when they are no value and not absent. -/
theorem unusable_iff (presence : IdentifierPresence) (os : List ScalarOccurrence) :
    Unusable presence os ↔ (∀ value, ¬ Consistent presence os value) ∧ ¬ Absent presence os := by
  constructor
  · rintro (⟨o, ho, hnone, hblank⟩ | ⟨o, ho, value, hvalue, o', ho', hne, hpassed⟩)
    · refine ⟨fun w ⟨_, hall⟩ => ?_, fun habsent => (habsent o ho).2 (hblank (habsent o ho).1)⟩
      rcases hall o ho with h | ⟨h, hoptional⟩
      · rw [hnone] at h
        cases h
      · rw [hblank h] at hoptional
        cases hoptional
    · refine ⟨fun w ⟨_, hall⟩ => ?_, fun habsent => ?_⟩
      · rcases hall o ho with h | ⟨h, -⟩
        · rw [hvalue] at h
          rcases hall o' ho' with h' | h'
          · exact hne (h'.trans h.symm)
          · exact hpassed h'
        · rw [value_of_isBlank h] at hvalue
          cases hvalue
      · rw [value_of_isBlank (habsent o ho).1] at hvalue
        cases hvalue
  · rintro ⟨hinconsistent, hpresent⟩
    simp only [Absent, not_forall] at hpresent
    obtain ⟨o, ho, hpresent⟩ := hpresent
    cases hvalue : o.value with
    | none => exact .inl ⟨o, ho, hvalue, fun hblank => not_not.mp fun h => hpresent ⟨hblank, h⟩⟩
    | some value =>
      right
      refine ⟨o, ho, value, hvalue, ?_⟩
      by_contra hall
      refine hinconsistent value ⟨⟨o, ho, hvalue⟩, fun o' ho' => ?_⟩
      by_contra hne
      rw [not_or] at hne
      exact hall ⟨o', ho', hne.1, hne.2⟩

/-- The reduction of an identifier, by its occurrences. -/
theorem collectIdentifier_spec (presence : IdentifierPresence) (os : List ScalarOccurrence) :
    (∀ value, collectIdentifier presence os = .oneConsistent value ↔ Consistent presence os value) ∧
      (collectIdentifier presence os = .missing ↔ Absent presence os) ∧
      (collectIdentifier presence os = .invalidOrConflicting ↔ Unusable presence os) := by
  have hone (value : String) : collectIdentifier presence os = .oneConsistent value ↔
      Consistent presence os value := collectIdentifier_eq_oneConsistent_iff
  have hmissing : collectIdentifier presence os = .missing ↔ Absent presence os :=
    collectIdentifier_eq_missing_iff
  refine ⟨hone, hmissing, ?_⟩
  rw [unusable_iff]
  simp only [← hone, ← hmissing]
  cases collectIdentifier presence os with
  | missing => simp
  | oneConsistent value => simp
  | invalidOrConflicting => simp

/-- Some identifier of a response is unusable. -/
def ResponseIdentifiers.Quarantined (ids : ResponseIdentifiers) : Prop :=
  Unusable ids.presence ids.transaction ∨ Unusable .optional ids.vault

/-! ## The outcome that is parsed -/

/-- Whether a diagnostic is about an identifier. -/
def PaymentOutcomeDiagnostic.namesIdentifier : PaymentOutcomeDiagnostic → Bool
  | .missingTransactionIdentifier | .missingCustomerVaultIdentifier
  | .invalidOrConflictingTransactionIdentifier | .invalidOrConflictingCustomerVaultIdentifier =>
    true
  | .invalidOrConflictingDecisionField | .indeterminatePaymentOutcome
  | .duplicateTransactionAtProcessor | .conflictingDecisionEvidence | .unrecognizedDecisionEvidence
  | .missingDecisionEvidence => false

/-- What the parser of a response makes of its identifiers. -/
structure PaymentOutcome.Parsed (outcome : PaymentOutcome) (ids : ResponseIdentifiers) : Prop where
  /-- An unusable identifier takes an approval away. -/
  unusable : ids.Quarantined →
    outcome.status = if ids.decision = .approved then .unknown else ids.decision
  /-- Otherwise the status is that of the decision fields, unless a transaction must be named. -/
  usable : ¬ ids.Quarantined → outcome.status = ids.decision ∨
    (ids.presence = .required ∧ outcome.status = .unknown)
  /-- An identifier that is returned is the one value of its occurrences, and the other is
  usable. -/
  transaction : ∀ id, outcome.transactionId = some id ↔
    ¬ ids.Quarantined ∧ Consistent ids.presence ids.transaction id
  vault : ∀ id, outcome.customerVaultId = some id ↔
    ¬ ids.Quarantined ∧ Consistent .optional ids.vault id
  /-- The diagnostics say whether an identifier is unusable. -/
  diagnosed : (.invalidOrConflictingTransactionIdentifier ∈ outcome.diagnostics ∨
    .invalidOrConflictingCustomerVaultIdentifier ∈ outcome.diagnostics) ↔ ids.Quarantined
  /-- An approval is returned without a diagnostic about a missing identifier. -/
  complete : outcome.status = .approved → .missingTransactionIdentifier ∉ outcome.diagnostics ∧
    .missingCustomerVaultIdentifier ∉ outcome.diagnostics

/-- Normalizing diagnostics changes their order and number only. -/
theorem mem_normalizeDiagnostics {outcome : PaymentOutcome} {d : PaymentOutcomeDiagnostic} :
    d ∈ outcome.normalizeDiagnostics.diagnostics ↔ d ∈ outcome.diagnostics := by
  unfold PaymentOutcome.normalizeDiagnostics
  rw [List.mem_dedup]
  exact (List.perm_insertionSort _ outcome.diagnostics).mem_iff

/-- What `finalizePaymentIdentifiers` leaves. -/
theorem finalizePaymentIdentifiers_spec (status : PaymentStatus)
    (transaction vault : ResolvedScalar) (diagnostics : List PaymentOutcomeDiagnostic) :
    (transaction = .invalidOrConflicting ∨ vault = .invalidOrConflicting →
        (finalizePaymentIdentifiers status transaction vault diagnostics).transactionId = none ∧
        (finalizePaymentIdentifiers status transaction vault diagnostics).customerVaultId = none ∧
        (finalizePaymentIdentifiers status transaction vault diagnostics).status =
          (if status = .approved then .unknown else status) ∧
        (.invalidOrConflictingTransactionIdentifier ∈
            (finalizePaymentIdentifiers status transaction vault diagnostics).diagnostics ∨
          .invalidOrConflictingCustomerVaultIdentifier ∈
            (finalizePaymentIdentifiers status transaction vault diagnostics).diagnostics)) ∧
      (¬ (transaction = .invalidOrConflicting ∨ vault = .invalidOrConflicting) →
        finalizePaymentIdentifiers status transaction vault diagnostics =
          { status
            transactionId := (resolveOptionalScalar transaction).1
            customerVaultId := (resolveOptionalScalar vault).1
            diagnostics }) := by
  unfold finalizePaymentIdentifiers
  cases transaction with
  | invalidOrConflicting =>
    exact ⟨fun _ => ⟨rfl, rfl, rfl, by simp [resolveOptionalScalar]⟩, fun h => absurd (.inl rfl) h⟩
  | missing | oneConsistent _ =>
    cases vault with
    | invalidOrConflicting =>
      exact ⟨fun _ => ⟨rfl, rfl, rfl, by simp [resolveOptionalScalar]⟩,
        fun h => absurd (.inr rfl) h⟩
    | missing | oneConsistent _ =>
      refine ⟨fun h => ?_, fun _ => ?_⟩
      · rcases h with h | h <;> cases h
      · simp [resolveOptionalScalar]

/-- The value of a reduced field that is returned. -/
theorem resolveOptionalScalar_eq_some {scalar : ResolvedScalar} {value : String} :
    (resolveOptionalScalar scalar).1 = some value ↔ scalar = .oneConsistent value := by
  cases scalar with
  | oneConsistent v => simp [resolveOptionalScalar]
  | missing | invalidOrConflicting => simp [resolveOptionalScalar]

/-- The outcome of identifiers that were finalized. -/
theorem parsed_of_finalize {ids : ResponseIdentifiers} {status : PaymentStatus}
    {diagnostics : List PaymentOutcomeDiagnostic} {outcome : PaymentOutcome}
    {final : FinalizedIdentifiers}
    (hfinal : final = finalizePaymentIdentifiers status
      (collectIdentifier ids.presence ids.transaction) (collectIdentifier .optional ids.vault)
      diagnostics)
    (hstatus : status = ids.decision ∨ (status = .unknown ∧ ids.decision = .approved ∧
      ids.presence = .required))
    (hnames : ∀ d ∈ diagnostics, d.namesIdentifier = true →
      d = .missingTransactionIdentifier ∧ status ≠ .approved)
    (hs : outcome.status = final.status) (ht : outcome.transactionId = final.transactionId)
    (hv : outcome.customerVaultId = final.customerVaultId)
    (hd : ∀ d, d ∈ outcome.diagnostics ↔ d ∈ final.diagnostics) : outcome.Parsed ids := by
  obtain ⟨honeT, -, hbadT⟩ := collectIdentifier_spec ids.presence ids.transaction
  obtain ⟨honeV, -, hbadV⟩ := collectIdentifier_spec .optional ids.vault
  obtain ⟨hbad, hgood⟩ := finalizePaymentIdentifiers_spec status
    (collectIdentifier ids.presence ids.transaction) (collectIdentifier .optional ids.vault)
      diagnostics
  have hquarantined : (collectIdentifier ids.presence ids.transaction = .invalidOrConflicting ∨
      collectIdentifier .optional ids.vault = .invalidOrConflicting) ↔ ids.Quarantined :=
    or_congr hbadT hbadV
  rw [← hfinal, hquarantined] at hbad hgood
  by_cases hunusable : ids.Quarantined
  · obtain ⟨htn, hvn, hsn, hdn⟩ := hbad hunusable
    have hdecision : outcome.status =
        if ids.decision = .approved then .unknown else ids.decision := by
      rw [hs, hsn]
      rcases hstatus with rfl | ⟨rfl, hdecision, -⟩
      · rfl
      · rw [hdecision]
        rfl
    have hnot : outcome.status ≠ .approved := by
      rw [hdecision]
      split_ifs with h
      · simp
      · exact h
    refine ⟨fun _ => hdecision, fun h => absurd hunusable h, fun id => ?_, fun id => ?_, ?_,
      fun h => absurd h hnot⟩
    · rw [ht, htn]
      simp [hunusable]
    · rw [hv, hvn]
      simp [hunusable]
    · rw [hd, hd]
      exact iff_of_true hdn hunusable
  · have hfinal := hgood hunusable
    rw [hfinal] at hs ht hv hd
    dsimp only at hs ht hv hd
    have hnot {d : PaymentOutcomeDiagnostic} (hnames' : d.namesIdentifier = true)
        (hd' : d ≠ .missingTransactionIdentifier) : d ∉ outcome.diagnostics :=
      fun h => hd' (hnames d ((hd d).mp h) hnames').1
    refine ⟨fun h => absurd h hunusable, fun _ => ?_, fun id => ?_, fun id => ?_, ?_, fun h => ?_⟩
    · rw [hs]
      exact hstatus.imp_right fun ⟨heq, _, hrequired⟩ => ⟨hrequired, heq⟩
    · rw [ht, resolveOptionalScalar_eq_some, honeT]
      simp [hunusable]
    · rw [hv, resolveOptionalScalar_eq_some, honeV]
      simp [hunusable]
    · exact iff_of_false (not_or.mpr ⟨hnot rfl (by simp), hnot rfl (by simp)⟩) hunusable
    · refine ⟨fun hmissing => ?_, hnot rfl (by simp)⟩
      exact (hnames _ ((hd _).mp hmissing) rfl).2 (hs.symm.trans h)

/-- The diagnostic that explains an unknown status is about the decision fields. -/
theorem resolveStatus_diagnostic (d : PaymentDecisionFields) :
    ∀ x ∈ d.resolveStatus.2, x.namesIdentifier = false := by
  unfold PaymentDecisionFields.resolveStatus
  cases d.fields.filterMap fun f => f.evidence.bind DecisionEvidence.toPaymentStatus with
  | nil =>
    dsimp only
    split_ifs <;> simp [PaymentOutcomeDiagnostic.namesIdentifier]
  | cons status evidence =>
    dsimp only
    split_ifs <;> simp [PaymentOutcomeDiagnostic.namesIdentifier]

/-- The diagnostics of a decision are not about identifiers. -/
theorem resolve_diagnostics (d : PaymentDecisionFields) :
    ∀ x ∈ d.resolve.diagnostics, x.namesIdentifier = false := by
  intro x hx
  unfold PaymentDecisionFields.resolve at hx
  dsimp only at hx
  rw [List.mem_append, List.mem_append] at hx
  rcases hx with (hx | hx) | hx
  · obtain ⟨e, he, hdiagnostic⟩ := List.mem_filterMap.mp hx
    cases e with
    | paymentStatus _ | providerError => cases hdiagnostic
    | indeterminatePaymentOutcome | processorDuplicate =>
      cases hdiagnostic
      rfl
  · exact resolveStatus_diagnostic d x (Option.mem_toList.mp hx)
  · split_ifs at hx
    · rw [List.mem_singleton.mp hx]
      rfl
    · cases hx

/-! ## The three formats -/

/-- A field that is seen is what a decision other than unknown rests on. -/
theorem resolve_unknown_of_unseen (response code status condition : List ScalarOccurrence)
    (h : (PaymentDecisionFields.resolve
      { response := (collect response).finishDecision .response
        responseCode := (collect code).finishDecision .responseCode
        status := (collect status).finishDecision .gatewayState
        condition := (collect condition).finishDecision .gatewayState }).hasStructuredEvidence =
          false) :
    (PaymentDecisionFields.resolve
      { response := (collect response).finishDecision .response
        responseCode := (collect code).finishDecision .responseCode
        status := (collect status).finishDecision .gatewayState
        condition := (collect condition).finishDecision .gatewayState }).status = .unknown := by
  unfold PaymentDecisionFields.resolve at h
  simp only [finishDecision_sawOccurrence, Bool.or_eq_false_iff, Bool.not_eq_false',
    List.isEmpty_iff] at h
  obtain ⟨⟨⟨rfl, rfl⟩, rfl⟩, rfl⟩ := h
  decide

/-- The outcome of a Classic form. -/
theorem parsed_of_form {fields : List (String × String)} {outcome : PaymentOutcome}
    (h : classicPaymentOutcomeFromForm fields = .ok outcome) :
    outcome.Parsed (formIdentifiers fields) := by
  have hnames : ∀ d ∈ (classicDecision fields).diagnostics, d.namesIdentifier = false :=
    resolve_diagnostics _
  have hunseen : (classicDecision fields).hasStructuredEvidence = false →
      (classicDecision fields).status = .unknown := resolve_unknown_of_unseen _ _ _ _
  unfold classicPaymentOutcomeFromForm at h
  dsimp only at h
  split at h
  · cases h
  · split at h
    · cases h
    · obtain rfl := Except.ok.inj h
      refine @parsed_of_finalize (formIdentifiers fields) _ _ _ _ rfl (.inl ?_) (fun d hd hn => ?_)
        rfl rfl rfl (fun d => mem_normalizeDiagnostics)
      · split_ifs with hstructured
        · rfl
        · exact (hunseen (Bool.eq_false_iff.mpr hstructured)).symm
      · split_ifs at hd
        · cases hd
        · rw [hnames d hd] at hn
          cases hn

/-- The outcome of a v5 response. -/
theorem parsed_of_json {value : LosslessJsonValue} {outcome : PaymentOutcome}
    (h : paymentOutcomeFromJson value = .ok outcome) : outcome.Parsed (jsonIdentifiers value) := by
  have hnames : ∀ d ∈ (paymentDecisionFromJson value).diagnostics, d.namesIdentifier = false :=
    resolve_diagnostics _
  unfold paymentOutcomeFromJson at h
  dsimp only at h
  split at h
  · cases h
  · obtain rfl := Except.ok.inj h
    refine @parsed_of_finalize (jsonIdentifiers value) _ _ _ _ rfl (.inl rfl) (fun d hd hn => ?_)
      rfl rfl rfl (fun d => mem_normalizeDiagnostics)
    rw [hnames d hd] at hn
    cases hn

/-- The outcome of a transaction in XML. Here an approval must name its transaction. -/
theorem parsed_of_xml (transaction : XmlNode) (purpose : DescriptorPurpose) :
    (xmlPaymentOutcome transaction purpose).Parsed (xmlIdentifiers transaction) := by
  have hnames : ∀ d ∈ (xmlDecision transaction).diagnostics, d.namesIdentifier = false :=
    resolve_diagnostics _
  refine @parsed_of_finalize (xmlIdentifiers transaction) _ _ _ _ rfl ?_ (fun d hd hn => ?_)
    rfl rfl rfl (fun d => mem_normalizeDiagnostics)
  · split_ifs with h
    · exact .inr ⟨rfl, h.2, rfl⟩
    · exact .inl rfl
  · rcases List.mem_append.mp hd with hd | hd
    · rw [hnames d hd] at hn
      cases hn
    · split_ifs at hd with habsent
      · refine ⟨List.mem_singleton.mp hd, ?_⟩
        split_ifs with h
        · simp
        · exact fun happroved => h ⟨habsent, happroved⟩
      · cases hd

/-! ## The identities of an approval -/

/-- The submitted vault entry of a mutation. -/
def PaymentMutation.vaultSource : PaymentMutation → Option String
  | .sale request =>
    match request.source with
    | .customerVault customerVaultId => some customerVaultId
    | .paymentToken _ => none
  | .storePaymentMethod => none

/-- Whether an approval of a mutation must name a vault entry: a sale that creates one, a
merchant-initiated renewal, and a stored method. -/
def PaymentMutation.needsVault : PaymentMutation → Bool
  | .sale request => request.vaultAction = some .addCustomer || request.isRecurringMerchant
  | .storePaymentMethod => true

/-- What `requireApprovedIdentities` leaves. -/
theorem requireApprovedIdentities_spec (outcome : PaymentOutcome)
    (requirement : ApprovedIdentityRequirement) :
    ((requireApprovedIdentities outcome requirement).transactionId = outcome.transactionId ∧
        (requireApprovedIdentities outcome requirement).customerVaultId = outcome.customerVaultId) ∧
      ((requireApprovedIdentities outcome requirement).status = .approved ↔
        outcome.status = .approved ∧ outcome.transactionId.isSome = true ∧
          (requirement = .approvedTransactionAndCustomerVault →
            outcome.customerVaultId.isSome = true)) ∧
      (outcome.status ≠ .approved → requireApprovedIdentities outcome requirement = outcome) ∧
      (∀ d, d ∈ (requireApprovedIdentities outcome requirement).diagnostics ↔
        d ∈ outcome.diagnostics ∨ (outcome.status = .approved ∧ d = .missingTransactionIdentifier ∧
          outcome.transactionId = none) ∨
        (outcome.status = .approved ∧ d = .missingCustomerVaultIdentifier ∧
          requirement = .approvedTransactionAndCustomerVault ∧
            outcome.customerVaultId = none)) := by
  by_cases happroved : outcome.status = .approved
  · unfold requireApprovedIdentities
    rw [if_neg (not_not.mpr happroved)]
    refine ⟨⟨rfl, rfl⟩, ?_, fun h => absurd happroved h, fun d => ?_⟩
    · show (if _ then PaymentStatus.unknown else outcome.status) = .approved ↔ _
      split_ifs with hmissing
      · refine iff_of_false (by simp) fun ⟨_, htransaction, hvault⟩ => ?_
        rcases hmissing with h | ⟨hneeds, h⟩
        · rw [Option.isNone_iff_eq_none] at h
          simp [h] at htransaction
        · rw [Option.isNone_iff_eq_none] at h
          simp [h] at hvault
          exact hvault hneeds
      · rw [not_or] at hmissing
        refine iff_of_true happroved ⟨happroved, ?_, fun hneeds => ?_⟩
        · simpa [Option.ne_none_iff_isSome] using hmissing.1
        · have := fun h => hmissing.2 ⟨hneeds, h⟩
          simpa [Option.ne_none_iff_isSome] using this
    · rw [mem_normalizeDiagnostics]
      simp only [List.mem_append, happroved, Option.isNone_iff_eq_none, true_and]
      rw [or_assoc]
      refine or_congr_right (or_congr ?_ ?_)
      · split_ifs with h
        · simp [h]
        · simp [h]
      · split_ifs with h
        · simp [h]
        · simp only [List.not_mem_nil, false_iff]
          tauto
  · have hsame : requireApprovedIdentities outcome requirement = outcome := by
      unfold requireApprovedIdentities
      rw [if_pos happroved]
    rw [hsame]
    simp [happroved]

/-- An outcome, with the identities that an approval has: those of the response, or the vault entry
that was submitted. -/
structure PaymentOutcome.Identified (outcome : PaymentOutcome) (ids : ResponseIdentifiers)
    (vaultSource : Option String) (needsVault : Bool) : Prop where
  /-- Only an approval of the decision fields is returned as one. -/
  decision : outcome.status = .approved → ids.decision = .approved
  /-- It carries the one value of the transaction identifier. -/
  transaction : outcome.status = .approved →
    ∃ id, outcome.transactionId = some id ∧ Consistent ids.presence ids.transaction id
  /-- It carries a vault entry where its operation needs one. -/
  vault : outcome.status = .approved → needsVault = true → ∃ id, outcome.customerVaultId = some id ∧
    (Consistent .optional ids.vault id ∨ (Absent .optional ids.vault ∧ vaultSource = some id))
  /-- An unusable identifier takes both away, and makes an approval unknown. -/
  quarantined : ids.Quarantined → outcome.transactionId = none ∧ outcome.customerVaultId = none ∧
    outcome.status = if ids.decision = .approved then .unknown else ids.decision

/-- The outcome of a mutation with the vault entry that was submitted. -/
theorem finishes_eq (mutation : PaymentMutation) (outcome : PaymentOutcome) :
    mutation.finishes outcome = requireApprovedIdentities
      (if outcome.status = .approved ∧ outcome.customerVaultId = none then
        { outcome with customerVaultId := mutation.vaultSource } else outcome)
      (if mutation.needsVault then .approvedTransactionAndCustomerVault
          else .approvedTransaction) := by
  cases mutation with
  | storePaymentMethod =>
    show requireApprovedIdentities outcome _ = _
    congr 1
    split_ifs with h
    · rw [PaymentMutation.vaultSource, ← h.2]
    · rfl
  | sale request =>
    show requireApprovedIdentities (outcome.retainSource request.source) _ = _
    congr 1
    unfold PaymentOutcome.retainSource PaymentMutation.vaultSource
    dsimp only
    cases request.source with
    | customerVault customerVaultId => rfl
    | paymentToken token =>
      dsimp only
      split_ifs with h
      · rw [← h.2]
      · rfl

/-- An outcome that is not approved is left as it is. -/
theorem finishes_of_not_approved (mutation : PaymentMutation) {outcome : PaymentOutcome}
    (h : outcome.status ≠ .approved) : mutation.finishes outcome = outcome := by
  rw [finishes_eq, if_neg fun hboth => h hboth.1]
  exact (requireApprovedIdentities_spec outcome _).2.2.1 h

/-- What the client makes of an approval. -/
theorem finishes_of_approved (mutation : PaymentMutation) {outcome : PaymentOutcome}
    (h : outcome.status = .approved) :
    (mutation.finishes outcome).transactionId = outcome.transactionId ∧
      (mutation.finishes outcome).customerVaultId =
        outcome.customerVaultId.or mutation.vaultSource ∧
      ((mutation.finishes outcome).status = .approved ↔ outcome.transactionId.isSome = true ∧
        (mutation.needsVault = true →
          (outcome.customerVaultId.or mutation.vaultSource).isSome = true)) ∧
      (∀ d, d ∈ (mutation.finishes outcome).diagnostics ↔ d ∈ outcome.diagnostics ∨
        (d = .missingTransactionIdentifier ∧ outcome.transactionId = none) ∨
        (d = .missingCustomerVaultIdentifier ∧ mutation.needsVault = true ∧
          outcome.customerVaultId.or mutation.vaultSource = none)) := by
  have hsource : (if outcome.status = .approved ∧ outcome.customerVaultId = none then
      { outcome with customerVaultId := mutation.vaultSource } else outcome) =
        { outcome with customerVaultId := outcome.customerVaultId.or mutation.vaultSource } := by
    cases hvault : outcome.customerVaultId with
    | none => rw [if_pos ⟨h, rfl⟩, Option.none_or]
    | some id =>
      rw [if_neg (by simp), Option.some_or, ← hvault]
  have hneeds : (if mutation.needsVault = true then
      ApprovedIdentityRequirement.approvedTransactionAndCustomerVault else .approvedTransaction) =
        .approvedTransactionAndCustomerVault ↔ mutation.needsVault = true := by
    split_ifs with hneeds <;> simp [hneeds]
  rw [finishes_eq, hsource]
  obtain ⟨⟨ht, hv⟩, hs, -, hd⟩ := requireApprovedIdentities_spec
    { outcome with customerVaultId := outcome.customerVaultId.or mutation.vaultSource }
    (if mutation.needsVault then .approvedTransactionAndCustomerVault else .approvedTransaction)
  rw [hneeds] at hs
  refine ⟨ht, hv, hs.trans (and_iff_right h), fun d => ?_⟩
  rw [hd, hneeds]
  simp only [h, true_and]

/-- An approval that is parsed is one of the decision fields, with usable identifiers. -/
theorem PaymentOutcome.Parsed.decided {outcome : PaymentOutcome} {ids : ResponseIdentifiers}
    (h : outcome.Parsed ids) (happroved : outcome.status = .approved) :
    ¬ ids.Quarantined ∧ ids.decision = .approved := by
  have husable : ¬ ids.Quarantined := fun hunusable => by
    have hstatus := h.unusable hunusable
    rw [happroved] at hstatus
    split_ifs at hstatus with hdecision
    exact hdecision hstatus.symm
  rcases h.usable husable with hstatus | ⟨-, hstatus⟩
  · exact ⟨husable, hstatus.symm.trans happroved⟩
  · rw [happroved] at hstatus
    cases hstatus

/-- What is left beside an unusable identifier. -/
theorem PaymentOutcome.Parsed.quarantined {outcome : PaymentOutcome} {ids : ResponseIdentifiers}
    (h : outcome.Parsed ids) (hunusable : ids.Quarantined) :
    outcome.transactionId = none ∧ outcome.customerVaultId = none ∧
      outcome.status = if ids.decision = .approved then .unknown else ids.decision := by
  refine ⟨?_, ?_, h.unusable hunusable⟩
  · refine Option.eq_none_iff_forall_ne_some.mpr fun id hid => ?_
    exact ((h.transaction id).mp hid).1 hunusable
  · refine Option.eq_none_iff_forall_ne_some.mpr fun id hid => ?_
    exact ((h.vault id).mp hid).1 hunusable

/-- The identities of a mutation, from those of its response. -/
theorem PaymentOutcome.Parsed.finishes {outcome : PaymentOutcome} {ids : ResponseIdentifiers}
    (mutation : PaymentMutation) (h : outcome.Parsed ids) :
    (mutation.finishes outcome).Identified ids mutation.vaultSource mutation.needsVault ∧
      ((mutation.finishes outcome).status = .approved →
        .missingTransactionIdentifier ∉ (mutation.finishes outcome).diagnostics ∧
          .missingCustomerVaultIdentifier ∉ (mutation.finishes outcome).diagnostics) := by
  by_cases happroved : outcome.status = .approved
  · obtain ⟨husable, hdecision⟩ := h.decided happroved
    obtain ⟨ht, hv, hs, hd⟩ := finishes_of_approved mutation happroved
    refine ⟨⟨fun _ => hdecision, fun hstatus => ?_, fun hstatus hneeds => ?_,
      fun hunusable => absurd hunusable husable⟩, fun hstatus => ?_⟩
    · obtain ⟨id, hid⟩ := Option.isSome_iff_exists.mp (hs.mp hstatus).1
      exact ⟨id, ht.trans hid, ((h.transaction id).mp hid).2⟩
    · obtain ⟨id, hid⟩ := Option.isSome_iff_exists.mp ((hs.mp hstatus).2 hneeds)
      refine ⟨id, hv.trans hid, ?_⟩
      rcases Option.or_eq_some_iff.mp hid with hid | ⟨hnone, hid⟩
      · exact .inl ((h.vault id).mp hid).2
      · refine .inr ⟨?_, hid⟩
        by_contra hpresent
        refine husable (.inr ((unusable_iff _ _).mpr ⟨fun value hvalue => ?_, hpresent⟩))
        have hsome := (h.vault value).mpr ⟨husable, hvalue⟩
        rw [hnone] at hsome
        cases hsome
    · obtain ⟨hsome, hvault⟩ := hs.mp hstatus
      rw [hd, hd]
      obtain ⟨hnotT, hnotV⟩ := h.complete happroved
      refine ⟨?_, ?_⟩
      · rintro (hmem | ⟨-, hnone⟩ | ⟨hne, -⟩)
        · exact hnotT hmem
        · simp [hnone] at hsome
        · cases hne
      · rintro (hmem | ⟨hne, -⟩ | ⟨-, hneeds, hnone⟩)
        · exact hnotV hmem
        · cases hne
        · have := hvault hneeds
          simp [hnone] at this
  · rw [finishes_of_not_approved mutation happroved]
    exact ⟨⟨fun hstatus => absurd hstatus happroved, fun hstatus => absurd hstatus happroved,
      fun hstatus => absurd hstatus happroved, h.quarantined⟩, fun hstatus =>
      absurd hstatus happroved⟩

/-- An approval in XML names its transaction. -/
theorem xmlPaymentOutcome_not_approved {transaction : XmlNode} (purpose : DescriptorPurpose)
    (habsent : Absent .required (xmlOccurrences transaction "transaction_id")) :
    (xmlPaymentOutcome transaction purpose).status ≠ .approved := by
  have hmissing : collectXmlIdentifier transaction "transaction_id" .required = .missing :=
    (collectIdentifier_spec _ _).2.1.mpr habsent
  have hfinal (status : PaymentStatus) (t v : ResolvedScalar) (ds : List PaymentOutcomeDiagnostic)
      (h : status ≠ .approved) : (finalizePaymentIdentifiers status t v ds).status ≠ .approved := by
    obtain ⟨hbad, hgood⟩ := finalizePaymentIdentifiers_spec status t v ds
    by_cases hunusable : t = .invalidOrConflicting ∨ v = .invalidOrConflicting
    · rw [(hbad hunusable).2.2.1, if_neg h]
      exact h
    · rw [hgood hunusable]
      exact h
  unfold xmlPaymentOutcome
  refine hfinal _ _ _ _ ?_
  split_ifs with h
  · simp
  · exact fun happroved => h ⟨hmissing, happroved⟩

/-- The identities of the outcome of a query. -/
theorem xmlPaymentOutcome_identified (transaction : XmlNode) (purpose : DescriptorPurpose) :
    (xmlPaymentOutcome transaction purpose).Identified (xmlIdentifiers transaction) none false := by
  have h := parsed_of_xml transaction purpose
  refine ⟨fun hstatus => (h.decided hstatus).2, fun hstatus => ?_, fun _ hneeds => ?_,
    h.quarantined⟩
  · by_contra hnone
    have hinconsistent (value : String) :
        ¬ Consistent .required (xmlOccurrences transaction "transaction_id") value := fun hvalue =>
      hnone ⟨value, (h.transaction value).mpr ⟨(h.decided hstatus).1, hvalue⟩, hvalue⟩
    refine (h.decided hstatus).1 (.inl ((unusable_iff _ _).mpr ⟨hinconsistent, fun habsent => ?_⟩))
    exact xmlPaymentOutcome_not_approved purpose habsent hstatus
  · cases hneeds

/-- The evidence of an approval carries the identities that its operation needs. -/
def PaymentOutcome.EvidencedBy (outcome : PaymentOutcome) (gateway : GatewayPaymentOutcome)
    (needsVault : Bool) : Prop :=
  gateway.status = .approved → outcome.status = .approved ∧
    ∃ evidence, gateway.approvedEvidence = some evidence ∧
      (∃ id, outcome.transactionId = some id ∧ evidence.transactionId = some (trim id)) ∧
      (needsVault = true →
        ∃ id, outcome.customerVaultId = some id ∧ evidence.paymentMethodReference = some (trim id))

/-- The mapped diagnostics of an outcome about its identifiers. -/
theorem mem_adaptedDiagnostics (rules : TextRules) (outcome : PaymentOutcome) :
    (.missingTransactionIdentifier ∈ adaptedDiagnostics rules outcome ↔
        .missingTransactionIdentifier ∈ outcome.diagnostics) ∧
      (.missingPaymentMethodReference ∈ adaptedDiagnostics rules outcome ↔
        .missingCustomerVaultIdentifier ∈ outcome.diagnostics) ∧
      (.invalidOrConflictingTransactionIdentifier ∈ adaptedDiagnostics rules outcome ↔
        .invalidOrConflictingTransactionIdentifier ∈ outcome.diagnostics ∨
          (validatedIdentifier rules outcome.transactionId).2 = true) ∧
      (.invalidOrConflictingPaymentMethodReference ∈ adaptedDiagnostics rules outcome ↔
        .invalidOrConflictingCustomerVaultIdentifier ∈ outcome.diagnostics ∨
          (validatedIdentifier rules outcome.customerVaultId).2 = true) := by
  have hmap (d : PaymentOutcomeDiagnostic) :
      mapPaymentDiagnostic d ∈ outcome.diagnostics.map mapPaymentDiagnostic ↔
          d ∈ outcome.diagnostics := by
    refine List.mem_map_of_injective fun d e h => ?_
    cases d <;> cases e <;> first | rfl | cases h
  unfold adaptedDiagnostics
  rw [List.mem_append, List.mem_append, List.mem_append, List.mem_append, List.mem_append,
    List.mem_append, List.mem_append, List.mem_append]
  refine ⟨?_, ?_, ?_, ?_⟩
  · rw [← hmap .missingTransactionIdentifier, mapPaymentDiagnostic]
    split_ifs <;> simp
  · rw [← hmap .missingCustomerVaultIdentifier, mapPaymentDiagnostic]
    split_ifs <;> simp
  · rw [← hmap .invalidOrConflictingTransactionIdentifier, mapPaymentDiagnostic]
    split_ifs <;> simp [*]
  · rw [← hmap .invalidOrConflictingCustomerVaultIdentifier, mapPaymentDiagnostic]
    split_ifs <;> simp [*]

/-- The adapter keeps the identities of an approval. -/
theorem evidenced_of_identified (rules : TextRules) {outcome : PaymentOutcome}
    {ids : ResponseIdentifiers} {vaultSource : Option String} {needsVault : Bool}
    (h : outcome.Identified ids vaultSource needsVault)
    (hcomplete : outcome.status = .approved → .missingTransactionIdentifier ∉ outcome.diagnostics ∧
      .missingCustomerVaultIdentifier ∉ outcome.diagnostics) :
    outcome.EvidencedBy (mapPaymentOutcome rules outcome) needsVault := by
  obtain ⟨hmissingT, hmissingV, hinvalidT, hinvalidV⟩ := mem_adaptedDiagnostics rules outcome
  obtain ⟨htransaction, hmethod, -, hstatus⟩ := mapPaymentOutcome_spec rules outcome
  intro happroved
  obtain ⟨hclient, husable⟩ := hstatus happroved
  obtain ⟨hnotT, hnotV⟩ := hcomplete hclient
  have hadmitted := not_or.mp husable
  rw [hinvalidT, hinvalidV, not_or, not_or] at hadmitted
  refine ⟨hclient, (mapPaymentOutcome rules outcome).evidence, ?_, ?_, fun hneeds => ?_⟩
  · unfold GatewayPaymentOutcome.approvedEvidence
    rw [if_pos happroved]
  · obtain ⟨id, hid, -⟩ := h.transaction hclient
    rw [hid] at hadmitted htransaction
    exact ⟨id, hid, (htransaction _).mpr ⟨husable, fun hmem => hnotT (hmissingT.mp hmem),
      validatedIdentifier_eq_some (Bool.eq_false_iff.mpr hadmitted.1.2)⟩⟩
  · obtain ⟨id, hid, -⟩ := h.vault hclient hneeds
    rw [hid] at hadmitted hmethod
    exact ⟨id, hid, (hmethod _).mpr ⟨husable, fun hmem => hnotV (hmissingV.mp hmem),
      validatedIdentifier_eq_some (Bool.eq_false_iff.mpr hadmitted.2.2)⟩⟩

/-! ## Every response -/

/-- The identifiers of the response to a mutation, in the format of its endpoint. -/
def PaymentMutation.responseIdentifiers (decoders : Decoders) (mutation : PaymentMutation) :
    Submission → Option ResponseIdentifiers
  | .response _ (.text text) =>
    if mutation.usesClassicForm then some (formIdentifiers (decoders.parseForm text))
    else (decoders.parseJson text).map jsonIdentifiers
  | _ => none

/-- A response that gives a text is one whose body was read. -/
theorem eq_response_of_mutationText {decoders : Decoders} {httpError : ℕ → String → WireError}
    {submission : Submission} {text : String}
    (h : mutationText decoders httpError submission = .ok text) :
    ∃ status, submission = .response status (.text text) := by
  cases submission with
  | connectFailed error | sendFailed error => cases h
  | response status body =>
    cases body with
    | tooLarge | readFailed _ | notUtf8 _ => cases h
    | text body =>
      have hbody : (if isSuccess status then pure body else throw (httpError status body)) =
          (Except.ok text : Except WireError String) := h
      split_ifs at hbody
      exact ⟨status, by rw [Except.ok.inj hbody]⟩

/-- The outcome of a mutation is that of its response, in the format of its endpoint. -/
theorem submit_eq_ok {decoders : Decoders} {mutation : PaymentMutation} {submission : Submission}
    {outcome : PaymentOutcome} (h : mutation.submit decoders submission = .ok outcome) :
    ∃ status text parsed, submission = .response status (.text text) ∧
      outcome = mutation.finishes parsed ∧
      ((mutation.usesClassicForm = true ∧
          classicPaymentOutcomeFromForm (decoders.parseForm text) = .ok parsed) ∨
        (mutation.usesClassicForm = false ∧ ∃ value, decoders.parseJson text = some value ∧
          paymentOutcomeFromJson value = .ok parsed)) := by
  have hconclude {parsed : Except WireError PaymentOutcome}
      (h : mutation.conclude parsed = .ok outcome) :
      ∃ o, parsed = .ok o ∧ outcome = mutation.finishes o := by
    cases parsed with
    | error e => cases h
    | ok o => exact ⟨o, rfl, (Except.ok.inj h).symm⟩
  cases hformat : mutation.usesClassicForm with
  | true =>
    rw [submit_classic decoders hformat] at h
    cases htext : mutationText decoders (gatewayErrorFromClassicPaymentHttpResponse decoders)
        submission with
    | error e =>
      rw [htext] at h
      cases h
    | ok text =>
      rw [htext] at h
      obtain ⟨status, rfl⟩ := eq_response_of_mutationText htext
      obtain ⟨parsed, hparsed, rfl⟩ := hconclude h
      exact ⟨status, text, parsed, rfl, rfl, .inl ⟨rfl, hparsed⟩⟩
  | false =>
    rw [submit_v5 decoders hformat] at h
    cases htext : mutationText decoders (gatewayErrorFromPaymentHttpResponse decoders)
      submission with
    | error e =>
      rw [htext] at h
      cases h
    | ok text =>
      rw [htext] at h
      dsimp only at h
      obtain ⟨status, rfl⟩ := eq_response_of_mutationText htext
      cases hjson : decoders.parseJson text with
      | none =>
        rw [hjson] at h
        cases h
      | some value =>
        rw [hjson] at h
        obtain ⟨parsed, hparsed, rfl⟩ := hconclude h
        exact ⟨status, text, parsed, rfl, rfl, .inr ⟨rfl, value, hjson, hparsed⟩⟩

/-- What a mutation makes of the identifiers of its response. -/
theorem submit_parsed {decoders : Decoders} {mutation : PaymentMutation} {submission : Submission}
    {outcome : PaymentOutcome} (h : mutation.submit decoders submission = .ok outcome) :
    ∃ ids parsed, mutation.responseIdentifiers decoders submission = some ids ∧
      parsed.Parsed ids ∧ outcome = mutation.finishes parsed := by
  obtain ⟨status, text, parsed, rfl, rfl, ⟨hformat, hparsed⟩ | ⟨hformat, value, hjson, hparsed⟩⟩ :=
    submit_eq_ok h
  · refine ⟨formIdentifiers (decoders.parseForm text), parsed, ?_, parsed_of_form hparsed, rfl⟩
    simp [PaymentMutation.responseIdentifiers, hformat]
  · refine ⟨jsonIdentifiers value, parsed, ?_, parsed_of_json hparsed, rfl⟩
    simp [PaymentMutation.responseIdentifiers, hformat, hjson]

/-- Approved means identified: for every response to a mutation, and every response to an exact
query, which besides repeats the selectors of its request. The adapter keeps it. -/
theorem approved_identified (rules : TextRules) (decoders : Decoders)
    (parseXml : String → Option XmlNode) :
    (∀ mutation submission outcome,
      PaymentMutation.submit decoders mutation submission = .ok outcome →
        ∃ ids, mutation.responseIdentifiers decoders submission = some ids ∧
          outcome.Identified ids mutation.vaultSource mutation.needsVault ∧
          outcome.EvidencedBy (mapPaymentOutcome rules outcome) mutation.needsVault) ∧
      (∀ text request outcome,
        queryOutcomeForRequestFromXml parseXml text request = .ok (some outcome) →
          ∃ root transaction, parseXml text = some root ∧
            exactQueryTransaction root = .ok (some transaction) ∧
            outcome.Identified (xmlIdentifiers transaction) none false ∧
            (∀ id, trimmedOptional request.transactionId = some id →
              Consistent .required (xmlOccurrences transaction "transaction_id") id) ∧
            (∀ id, trimmedOptional request.orderId = some id →
              Consistent .optional (xmlOccurrences transaction "order_id") id) ∧
            outcome.EvidencedBy (mapPaymentOutcome rules outcome) false) := by
  constructor
  · intro mutation submission outcome h
    obtain ⟨ids, parsed, hids, hparsed, rfl⟩ := submit_parsed h
    obtain ⟨hidentified, hcomplete⟩ := hparsed.finishes mutation
    exact ⟨ids, hids, hidentified, evidenced_of_identified rules hidentified hcomplete⟩
  · intro text request outcome h
    obtain ⟨root, transaction, hroot, hfound, htransaction, horder, rfl⟩ :=
      queryOutcomeForPurpose_eq_some h
    have hidentified := xmlPaymentOutcome_identified transaction .financialEvidence
    refine ⟨root, transaction, hroot, hfound, hidentified, fun id hid => ?_, fun id hid => ?_,
      evidenced_of_identified rules hidentified (parsed_of_xml transaction _).complete⟩
    · exact ((collectIdentifier_spec _ _).1 id).mp (htransaction id hid)
    · exact ((collectIdentifier_spec _ _).1 id).mp (horder id hid)

/-- An approval of a stored method, and the identities of its evidence. -/
theorem approved_identified_stored :
    ∃ outcome, PaymentMutation.storePaymentMethod.submit plainDecoders (.response 200 (.text
        "response=1&transactionid=T1&customer_vault_id=V1")) = .ok outcome ∧
      outcome.status = .approved ∧
      (mapPaymentOutcome .ascii outcome).status = .approved ∧
      ∃ evidence, (mapPaymentOutcome .ascii outcome).approvedEvidence = some evidence ∧
        evidence.transactionId.isSome = true ∧ evidence.paymentMethodReference.isSome = true := by
  have hsubmit : PaymentMutation.storePaymentMethod.submit plainDecoders (.response 200 (.text
      "response=1&transactionid=T1&customer_vault_id=V1")) = .ok
        { status := .approved, transactionId := some "T1", customerVaultId := some "V1",
          response := some "1", responseCode := none, responseText := none, condition := none,
          descriptor := {}, diagnostics := [] } := by
    decide +kernel
  obtain ⟨ids, -, -, hevidenced⟩ :=
    (approved_identified .ascii plainDecoders fun _ => none).1 _ _ _ hsubmit
  refine ⟨_, hsubmit, rfl, by decide +kernel, ?_⟩
  obtain ⟨-, evidence, hevidence, ⟨id, -, hid⟩, hvault⟩ := hevidenced (by decide +kernel)
  obtain ⟨vault, -, hvault⟩ := hvault rfl
  exact ⟨evidence, hevidence, by rw [hid]; rfl, by rw [hvault]; rfl⟩

end SyrupRail.Nmi
