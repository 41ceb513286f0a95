import SyrupRail.Charge.Ledger

/-!
# What a statement on the charges keeps

`ChargesKept` is the frame of every statement on the charges: a table that meets its constraints
still meets them, and a charge that was reversed outside the engine stays in it as it is. It holds
because no transition expects that progression, and because a charge without a transaction is not a
reversed one. `ChargesTraced` follows the rows: each keeps its attempt, its role, and its
transaction, and a new one has the dimensions of an attempt that is known. An observation moreover
returns a charge of the attempt with the observed evidence.
-/

namespace SyrupRail

open Transactions

/-! ## The frame -/

/-- A table of charges that meets its constraints. -/
structure ChargesValid (charges : List ProcessorCharge) : Prop where
  checks : ∀ c ∈ charges, c.checks = true
  indexes : chargeIndexes charges = true

/-- What every statement on the charges keeps. -/
structure ChargesKept (charges charges' : List ProcessorCharge) : Prop where
  valid : ChargesValid charges → ChargesValid charges'
  reversed : ChargesValid charges →
    ∀ c ∈ charges, c.progression = .externallyReversed → c ∈ charges'

/-- The columns that a charge has from its attempt. -/
structure ChargeDimensions where
  attemptId : Id
  billingScopeId : Id
  gatewayAccountId : Id
  attemptKind : PaymentAttemptKind
  gatewayOrderId : String
  amount : Money
  deriving DecidableEq, Repr

/-- Those of a charge. -/
def ProcessorCharge.dimensions (c : ProcessorCharge) : ChargeDimensions where
  attemptId := c.attemptId
  billingScopeId := c.billingScopeId
  gatewayAccountId := c.gatewayAccountId
  attemptKind := c.attemptKind
  gatewayOrderId := c.gatewayOrderId
  amount := c.amount

/-- Those of an attempt. -/
def PaymentAttempt.chargeDimensions (a : PaymentAttempt) : ChargeDimensions where
  attemptId := a.id
  billingScopeId := a.billingScopeId
  gatewayAccountId := a.gatewayAccountId
  attemptKind := a.kind
  gatewayOrderId := a.gatewayOrderId
  amount := a.amount

/-- `locator_matches` compares the dimensions. -/
theorem chargeDimensionsMatch_iff {a : PaymentAttempt} {c : ProcessorCharge} :
    chargeDimensionsMatch a c = true ↔ c.dimensions = a.chargeDimensions := by
  simp [chargeDimensionsMatch, ProcessorCharge.dimensions, PaymentAttempt.chargeDimensions]

/-- A later row of the same charge: its role stays, and a transaction that it has. -/
structure ProcessorCharge.Continues (c c' : ProcessorCharge) : Prop where
  dimensions : c'.dimensions = c.dimensions
  created : c'.createdAt = c.createdAt
  role : c'.role = c.role
  transaction : c.evidence.transactionId ≠ none →
    c'.evidence.transactionId = c.evidence.transactionId

/-- A charge that stays as it is. -/
theorem ProcessorCharge.Continues.refl (c : ProcessorCharge) : c.Continues c :=
  ⟨rfl, rfl, rfl, fun _ => rfl⟩

/-- One continuation after another. -/
theorem ProcessorCharge.Continues.trans {c c' c'' : ProcessorCharge} (h : c.Continues c')
    (h' : c'.Continues c'') : c.Continues c'' := by
  refine ⟨h'.dimensions.trans h.dimensions, h'.created.trans h.created, h'.role.trans h.role,
    fun htx => ?_⟩
  have htx' := h.transaction htx
  exact (h'.transaction (htx' ▸ htx)).trans htx'

/-- What every statement at a time does with the rows of the charges: they continue, and a new one
is of an attempt with known dimensions. -/
structure ChargesTraced (time : Timestamp) (known : List ChargeDimensions)
    (charges charges' : List ProcessorCharge) : Prop extends ChargesKept charges charges' where
  rows : ChargesValid charges → ∀ c ∈ charges, ∃ c' ∈ charges', c.Continues c'
  origins : ∀ c' ∈ charges',
    (∃ c ∈ charges, c'.dimensions = c.dimensions ∧ c'.createdAt = c.createdAt) ∨
      (c'.dimensions ∈ known ∧ c'.createdAt = time)

section Statements

variable {charges charges' charges'' : List ProcessorCharge} {time : Timestamp}
  {known : List ChargeDimensions}

/-- Rows that stay as they are. -/
theorem ChargesKept.refl (charges : List ProcessorCharge) : ChargesKept charges charges :=
  ⟨id, fun _ _ hc _ => hc⟩

/-- What is kept twice is kept. -/
theorem ChargesKept.trans (h : ChargesKept charges charges') (h' : ChargesKept charges' charges'') :
    ChargesKept charges charges'' :=
  ⟨fun hv => h'.valid (h.valid hv),
    fun hv c hc hp => h'.reversed (h.valid hv) c (h.reversed hv c hc hp) hp⟩

/-- Rows that stay as they are are traced. -/
theorem ChargesTraced.refl (charges : List ProcessorCharge) :
    ChargesTraced time known charges charges :=
  ⟨.refl charges, fun _ c hc => ⟨c, hc, .refl c⟩, fun c hc => .inl ⟨c, hc, rfl, rfl⟩⟩

/-- Traces compose. -/
theorem ChargesTraced.trans (h : ChargesTraced time known charges charges')
    (h' : ChargesTraced time known charges' charges'') :
    ChargesTraced time known charges charges'' := by
  refine ⟨h.toChargesKept.trans h'.toChargesKept, fun hvalid c hc => ?_, fun c'' hc'' => ?_⟩
  · obtain ⟨c', hc', hcontinues⟩ := h.rows hvalid c hc
    obtain ⟨c'', hc'', hcontinues'⟩ := h'.rows (h.valid hvalid) c' hc'
    exact ⟨c'', hc'', hcontinues.trans hcontinues'⟩
  · rcases h'.origins c'' hc'' with ⟨c', hc', hsame, hcreated⟩ | hknown
    · rw [hsame, hcreated]
      exact h.origins c' hc'
    · exact .inr hknown

/-- More attempts may be known. -/
theorem ChargesTraced.mono {known' : List ChargeDimensions}
    (h : ChargesTraced time known charges charges') (hknown : known ⊆ known') :
    ChargesTraced time known' charges charges' :=
  ⟨h.toChargesKept, h.rows, fun c' hc' => (h.origins c' hc').imp_right fun hmem =>
    ⟨hknown hmem.1, hmem.2⟩⟩

/-- The end of a statement that succeeds: the rows, which meet the constraints. -/
theorem chargesValid_of_storeCharges (h : storeCharges charges = .ok charges') :
    charges' = charges ∧ ChargesValid charges := by
  obtain ⟨rfl, hindexes⟩ := storeCharges_eq_ok h
  refine ⟨rfl, fun c hc => ?_, hindexes⟩
  unfold storeCharges at h
  split_ifs at h with hc'
  exact List.all_eq_true.mp (by simpa using hc') c hc

/-- A statement whose rows keep the reversed ones. -/
theorem chargesKept_of_storeCharges (h : storeCharges charges' = .ok charges'')
    (hreversed : ChargesValid charges → ∀ c ∈ charges, c.progression = .externallyReversed →
      c ∈ charges') : ChargesKept charges charges'' := by
  obtain ⟨rfl, hvalid⟩ := chargesValid_of_storeCharges h
  exact ⟨fun _ => hvalid, hreversed⟩

/-- An update whose rows continue and that keeps the reversed ones. -/
theorem chargesTraced_of_update {p : ProcessorCharge → Bool} {f : ProcessorCharge → ProcessorCharge}
    (h : storeCharges (Table.updateWhere p f charges) = .ok charges')
    (hf : ∀ c ∈ charges, p c = true → c.Continues (f c))
    (hreversed : ChargesValid charges → ∀ c ∈ charges, c.progression = .externallyReversed →
      c ∈ Table.updateWhere p f charges) : ChargesTraced time known charges charges' := by
  have hkept := chargesKept_of_storeCharges h hreversed
  obtain ⟨rfl, -⟩ := chargesValid_of_storeCharges h
  have hrow : ∀ c ∈ charges, c.Continues (if p c then f c else c) := by
    intro c hc
    split_ifs with hp
    · exact hf c hc hp
    · exact .refl c
  refine ⟨hkept, fun _ c hc => ?_, fun c' hc' => ?_⟩
  · exact ⟨_, Table.mem_updateWhere.mpr ⟨c, hc, rfl⟩, hrow c hc⟩
  · obtain ⟨c, hc, rfl⟩ := Table.mem_updateWhere.mp hc'
    exact .inl ⟨c, hc, (hrow c hc).dimensions, (hrow c hc).created⟩

/-- The insertion of a row. -/
theorem chargesTraced_cons {row : ProcessorCharge} (hkept : ChargesKept charges (row :: charges))
    (hknown : row.dimensions ∈ known) (hcreated : row.createdAt = time) :
    ChargesTraced time known charges (row :: charges) := by
  refine ⟨hkept, fun _ c hc => ⟨c, List.mem_cons_of_mem _ hc, .refl c⟩, fun c hc => ?_⟩
  rcases List.mem_cons.mp hc with rfl | hc
  · exact .inr ⟨hknown, hcreated⟩
  · exact .inl ⟨c, hc, rfl, rfl⟩

/-- An update keeps the rows that it does not affect. -/
theorem mem_updateWhere_of_not {p : ProcessorCharge → Bool} {f : ProcessorCharge → ProcessorCharge}
    {c : ProcessorCharge} (hc : c ∈ charges) (hp : p c = false) :
    c ∈ Table.updateWhere p f charges :=
  Table.mem_updateWhere.mpr ⟨c, hc, by simp [hp]⟩

/-- Under the primary key, a charge is determined by its identity. -/
theorem ChargesValid.eq_of_id (h : ChargesValid charges) {c c' : ProcessorCharge} (hc : c ∈ charges)
    (hc' : c' ∈ charges) (hid : c.id = c'.id) : c = c' := by
  have hindexes := h.indexes
  simp only [chargeIndexes, Bool.and_eq_true] at hindexes
  exact Table.eq_of_uniqueOn hindexes.1.1.1.1 hc hc' rfl (congrArg some hid.symm)

/-- A charge of an attempt is determined by its transaction. -/
theorem ChargesValid.eq_of_transaction (h : ChargesValid charges) {c c' : ProcessorCharge}
    {tx : String} (hc : c ∈ charges) (hc' : c' ∈ charges) (hid : c.attemptId = c'.attemptId)
    (htx : c.evidence.transactionId = some tx) (htx' : c'.evidence.transactionId = some tx) :
    c = c' := by
  have hindexes := h.indexes
  simp only [chargeIndexes, Bool.and_eq_true] at hindexes
  refine Table.eq_of_uniqueOn hindexes.1.1.2 hc hc' (k := (c.attemptId, tx)) ?_ ?_
  · simp [ProcessorCharge.attemptTransactionKey, htx]
  · simp [ProcessorCharge.attemptTransactionKey, htx', hid]

/-- A charge without a transaction is not reversed, nor has it a time of a reversal. -/
theorem ProcessorCharge.not_reversed_of_transactionless {c : ProcessorCharge}
    (h : c.checks = true) (htx : c.evidence.transactionId = none) :
    c.progression ≠ .externallyReversed ∧ c.externallyReversedAt = none := by
  simp only [ProcessorCharge.checks, ProcessorCharge.stateTimestampsCheck,
    ProcessorCharge.transactionIdentityCheck, htx, Bool.and_eq_true] at h
  cases hp : c.progression with
  | pending => simp_all
  | reconciliationRequired => simp_all
  | externalReversalRequired => simp_all
  | applied => simp_all
  | externallyReversed => simp_all

/-! ## Transitions -/

/-- A transition from other progressions keeps the reversed charges. -/
theorem transitionProcessorCharge_traced {now : Timestamp} {chargeId : Id}
    {expected : List ProcessorChargeProgression} {progression : ProcessorChargeProgression}
    {update : ChargeStateCodeUpdate} (hexpected : .externallyReversed ∉ expected)
    (h : transitionProcessorCharge now chargeId expected progression update charges =
      .ok charges') :
    ChargesTraced time known charges charges' := by
  unfold transitionProcessorCharge at h
  split_ifs at h
  refine chargesTraced_of_update h (fun c _ _ => ⟨rfl, rfl, rfl, fun _ => rfl⟩)
    fun _ c hc hp => mem_updateWhere_of_not hc ?_
  simp [ProcessorCharge.transitionMatched, hp, hexpected]

/-- What a transition leaves of the charge it was for. -/
theorem transitionProcessorCharge_eq_ok {now : Timestamp} {chargeId : Id}
    {expected : List ProcessorChargeProgression} {progression : ProcessorChargeProgression}
    {update : ChargeStateCodeUpdate}
    (h : transitionProcessorCharge now chargeId expected progression update charges =
      .ok charges') :
    (∃ c ∈ charges, c.transitionMatched chargeId expected progression = true) ∧
      charges' = Table.updateWhere (·.transitionMatched chargeId expected progression)
        (·.transitioned now progression update) charges := by
  unfold transitionProcessorCharge at h
  split_ifs at h with hempty hany
  exact ⟨List.any_eq_true.mp hany, (chargesValid_of_storeCharges h).1⟩

/-- `transition_charge` keeps the reversed charges. -/
theorem transitionCharge_traced {now : Timestamp} {chargeId : Id}
    {progression : ProcessorChargeProgression} {code : Option PaymentResolutionCode}
    (h : transitionCharge now chargeId progression code charges = .ok charges') :
    ChargesTraced time known charges charges' :=
  transitionProcessorCharge_traced (by decide) h

/-- A classification keeps the reversed charges. -/
theorem transitionPendingCharge_traced {now : Timestamp} {chargeId : Id}
    {progression : ProcessorChargeProgression} {code : Option ProcessorChargeStateCode}
    (h : transitionPendingCharge now chargeId progression code charges = .ok charges') :
    ChargesTraced time known charges charges' := by
  unfold transitionPendingCharge at h
  split_ifs at h
  refine chargesTraced_of_update h (fun c _ _ => ⟨rfl, rfl, rfl, fun _ => rfl⟩)
    fun _ c hc hp => mem_updateWhere_of_not hc ?_
  simp [ProcessorCharge.transitionMatched, hp]

/-- `classify_pending_charge`, on the ledger. -/
theorem classifyCharge_traced {now : Timestamp} {a : PaymentAttempt} {chargeId : Id}
    {l l' : ChargeLedger} (h : classifyCharge now a chargeId l = .ok l') :
    ChargesTraced time known l.charges l'.charges := by
  unfold classifyCharge at h
  split at h
  · obtain rfl : l = l' := by simpa using h
    exact .refl _
  · split_ifs at h
    obtain ⟨⟨progression, code⟩, -, h⟩ := bind_eq_ok.mp h
    obtain ⟨charges, hcharges, h⟩ := bind_eq_ok.mp h
    obtain rfl : { l with charges := charges } = l' := by simpa using h
    exact transitionPendingCharge_traced hcharges

/-- A classification leaves the attestations. -/
theorem classifyCharge_attestations {now : Timestamp} {a : PaymentAttempt} {chargeId : Id}
    {l l' : ChargeLedger} (h : classifyCharge now a chargeId l = .ok l') :
    l'.attestations = l.attestations := by
  unfold classifyCharge at h
  split at h
  · obtain rfl : l = l' := by simpa using h
    rfl
  · split_ifs at h
    obtain ⟨⟨progression, code⟩, -, h⟩ := bind_eq_ok.mp h
    obtain ⟨charges, -, h⟩ := bind_eq_ok.mp h
    obtain rfl : { l with charges := charges } = l' := by simpa using h
    rfl

/-! ## Attestations -/

/-- The charge that an operator reverses, and the tables after it. -/
structure Attests (rules : TextRules) (now : Timestamp) (a : PaymentAttempt)
    (t : ReversalAttestation) (c : ProcessorCharge) (l l' : ChargeLedger) : Prop where
  mem : c ∈ l.charges
  id : c.id = t.chargeId
  dimensions : c.dimensions = a.chargeDimensions
  required : c.progression = .externalReversalRequired
  transaction : c.evidence.transactionId = some t.expectedTransactionId
  first : ∀ s ∈ l.attestations, s.processorChargeId ≠ t.chargeId
  attestations : l'.attestations = t.row now a (processorChargeFromRow rules c) :: l.attestations
  store : storeCharges (Table.updateWhere
    (fun c => c.id = t.chargeId ∧ c.progression = .externalReversalRequired)
    (·.reversed now (expectedPriorResolutionCode a c)) l.charges) = .ok l'.charges

/-- An attestation reverses its charge, or leaves the ledger. -/
theorem attestExternalReversal_eq_ok {rules : TextRules} {now : Timestamp} {a : PaymentAttempt}
    {t : ReversalAttestation} {l l' : ChargeLedger} {outcome : ExternalReversalAttestationOutcome}
    (h : attestExternalReversal rules now a t l = .ok (l', outcome)) :
    (outcome ≠ .attested ∧ l' = l) ∨ (outcome = .attested ∧ ∃ c, Attests rules now a t c l l') := by
  have unchanged {outcome' : ExternalReversalAttestationOutcome}
      (h : (Except.ok (l, outcome') : Except StoreError _) = .ok (l', outcome))
      (hne : outcome' ≠ .attested) : outcome ≠ .attested ∧ l' = l := by
    obtain ⟨rfl, rfl⟩ := Prod.mk.inj (Except.ok.inj h)
    exact ⟨hne, rfl⟩
  unfold attestExternalReversal at h
  split at h
  · exact .inl (unchanged h nofun)
  · rename_i loaded hload
    obtain ⟨c, hfind, rfl⟩ := Option.map_eq_some_iff.mp hload
    obtain ⟨hc, hid⟩ := Table.findBy_some hfind
    split at h
    · cases h
    · rename_i hdimensions
      split at h
      · refine .inl (unchanged h ?_)
        split_ifs <;> exact nofun
      · rename_i hfirst
        split at h
        · exact .inl (unchanged h nofun)
        · rename_i heligible
          obtain ⟨l₁, hattest, hpair⟩ := map_eq_ok.mp h
          obtain ⟨rfl, rfl⟩ := Prod.mk.inj hpair
          unfold attestCharge at hattest
          split_ifs at hattest
          obtain ⟨charges, hstore, rfl⟩ := map_eq_ok.mp hattest
          simp only [Bool.or_eq_true, Bool.not_eq_true', decide_eq_true_eq, not_or, ne_eq,
            not_not] at heligible
          have hrequired : c.progression = .externalReversalRequired := by
            have hcan : processorChargeCanAttestExternalReversal (processorChargeFromRow rules c) =
                true := by
              simpa using heligible.1
            simp only [processorChargeCanAttestExternalReversal, Bool.and_eq_true,
              decide_eq_true_eq] at hcan
            exact hcan.1.1
          refine .inr ⟨rfl, c, hc, hid, ?_, hrequired, heligible.2, ?_, rfl, hstore⟩
          · have hmatch : chargeDimensionsMatch a (processorChargeFromRow rules c) = true := by
              simpa using hdimensions
            exact chargeDimensionsMatch_iff.mp hmatch
          · intro s hs heq
            exact List.find?_eq_none.mp hfirst s hs (decide_eq_true heq)

/-- An attestation reverses a charge whose reversal is required, and keeps the ones reversed
before. -/
theorem attestExternalReversal_traced {rules : TextRules} {now : Timestamp} {a : PaymentAttempt}
    {t : ReversalAttestation} {l l' : ChargeLedger} {outcome : ExternalReversalAttestationOutcome}
    (h : attestExternalReversal rules now a t l = .ok (l', outcome)) :
    ChargesTraced time known l.charges l'.charges := by
  rcases attestExternalReversal_eq_ok h with ⟨-, rfl⟩ | ⟨-, c, hc⟩
  · exact .refl _
  · refine chargesTraced_of_update hc.store (fun c _ _ => ⟨rfl, rfl, rfl, fun _ => rfl⟩)
      fun _ c hc hp => mem_updateWhere_of_not hc ?_
    simp [hp]

/-- Every attestation is of a charge that was reversed. -/
def ChargeLedger.Attested (l : ChargeLedger) : Prop :=
  ∀ t ∈ l.attestations, ∃ c ∈ l.charges, c.id = t.processorChargeId ∧ c.attemptId = t.attemptId ∧
    c.evidence.transactionId = some t.gatewayTransactionId ∧ c.progression = .externallyReversed

/-- The reversed charges stay. -/
theorem ChargeLedger.Attested.of_kept {l l' : ChargeLedger} (h : l.Attested)
    (hvalid : ChargesValid l.charges) (hkept : ChargesKept l.charges l'.charges)
    (hsame : l'.attestations = l.attestations) : l'.Attested := by
  intro t ht
  rw [hsame] at ht
  obtain ⟨c, hc, hid, hattempt, htx, hreversed⟩ := h t ht
  exact ⟨c, hkept.reversed hvalid c hc hreversed, hid, hattempt, htx, hreversed⟩

/-- A new attestation is of the charge that it reverses. -/
theorem attestExternalReversal_attested {rules : TextRules} {now : Timestamp} {a : PaymentAttempt}
    {t : ReversalAttestation} {l l' : ChargeLedger} {outcome : ExternalReversalAttestationOutcome}
    (h : attestExternalReversal rules now a t l = .ok (l', outcome))
    (hvalid : ChargesValid l.charges) (hattested : l.Attested) : l'.Attested := by
  have htraced : ChargesTraced now [] l.charges l'.charges := attestExternalReversal_traced h
  rcases attestExternalReversal_eq_ok h with ⟨-, rfl⟩ | ⟨-, c, hc⟩
  · exact hattested
  · intro s hs
    rw [hc.attestations] at hs
    rcases List.mem_cons.mp hs with rfl | hs
    · obtain ⟨hcharges, -⟩ := chargesValid_of_storeCharges hc.store
      refine ⟨c.reversed now (expectedPriorResolutionCode a c), ?_, rfl,
        congrArg ChargeDimensions.attemptId hc.dimensions, hc.transaction, rfl⟩
      rw [hcharges]
      exact Table.mem_updateWhere.mpr ⟨c, hc.mem, by simp [hc.id, hc.required]⟩
    · obtain ⟨c', hc', hid, hattempt, htx, hreversed⟩ := hattested s hs
      exact ⟨c', htraced.reversed hvalid c' hc' hreversed, hid, hattempt, htx, hreversed⟩

/-! ## Observation -/

/-- Whether no other attempt has a charge with the transaction of the evidence. -/
def OwnedAlone (a : PaymentAttempt) (evidence : ProcessorEvidence)
    (charges : List ProcessorCharge) :
    Prop :=
  ∀ c ∈ charges, c.gatewayAccountId = a.gatewayAccountId → evidence.transactionId ≠ none →
    c.evidence.transactionId = evidence.transactionId → c.attemptId = a.id

/-- What an observation of evidence leaves: the reversed charges, and the observed charge, whose
transaction is another attempt's or which is one of the attempt with that evidence. A charge that
was not there before is not reversed, and a replay leaves the table. -/
structure Observes (now : Timestamp) (a : PaymentAttempt) (evidence : ProcessorEvidence)
    (charges charges' : List ProcessorCharge) (observed : ObservedCharge) : Prop where
  kept : ChargesTraced now [a.chargeDimensions] charges charges'
  other : observed = .ownedByOtherAttempt →
    charges' = charges ∧ ∃ tx, evidence.transactionId = some tx ∧ ownedByOtherAttempt a tx charges
  owned : ∀ record, observed = .owned record → ∃ c ∈ charges', c.id = record.id ∧
    c.attemptId = a.id ∧ c.evidence = evidence ∧ c.role = record.role ∧
    (ChargesValid charges → record.exactReplay = false → c.progression ≠ .externallyReversed)
  alone : ∀ record, observed = .owned record → OwnedAlone a evidence charges'
  replayed : ∀ record, observed = .owned record → record.exactReplay = true → charges' = charges

/-- Evidence that agrees in every column is the same. -/
theorem ProcessorEvidence.eq_of_matches {stored observed : ProcessorEvidence}
    (h : stored.matchesExceptTransaction observed = true)
    (htx : stored.transactionId = observed.transactionId) : stored = observed := by
  have h := of_decide_eq_true h
  rw [← htx] at h
  exact h

/-- A replay returns the charge of the attempt, or finds that it is another attempt's. -/
theorem replayObservedCharge_observes {now : Timestamp} {a : PaymentAttempt}
    {evidence : ProcessorEvidence} {observed : ObservedCharge}
    (halone : OwnedAlone a evidence charges)
    (h : replayObservedCharge a evidence charges = .ok observed) :
    Observes now a evidence charges charges observed := by
  unfold replayObservedCharge at h
  split at h
  · rename_i c hfind
    split_ifs at h with hmatches
    obtain rfl := Except.ok.inj h
    have hc := List.mem_of_find?_eq_some hfind
    have hp : c.attemptId = a.id ∧ c.evidence.transactionId = evidence.transactionId := by
      simpa using List.find?_some hfind
    refine ⟨.refl _, nofun, fun record hrecord => ?_, fun _ _ => halone, fun _ _ _ => rfl⟩
    obtain rfl := ObservedCharge.owned.inj hrecord
    exact ⟨c, hc, rfl, hp.1, ProcessorEvidence.eq_of_matches hmatches hp.2, rfl, fun _ => nofun⟩
  · split_ifs at h with hany
    obtain rfl := Except.ok.inj h
    refine ⟨.refl _, fun _ => ⟨rfl, ?_⟩, nofun, nofun, nofun⟩
    simpa [Option.any_eq_true] using hany

/-- The insertion of a charge, or its replay. -/
theorem insertObservedCharge_observes {now : Timestamp} {newId : Id} {a : PaymentAttempt}
    {evidence : ProcessorEvidence} {role : ProcessorChargeRole}
    {progression : ProcessorChargeProgression} {observed : ObservedCharge}
    (halone : OwnedAlone a evidence charges)
    (h : insertObservedCharge now newId a evidence role progression charges =
      .ok (charges', observed)) : Observes now a evidence charges charges' observed := by
  simp only [insertObservedCharge] at h
  split_ifs at h with hchecks hconflict
  · obtain ⟨o, ho, hpair⟩ := map_eq_ok.mp h
    obtain ⟨rfl, rfl⟩ := Prod.mk.inj hpair
    exact replayObservedCharge_observes halone ho
  · obtain ⟨rows, hstore, hpair⟩ := map_eq_ok.mp h
    obtain ⟨rfl, rfl⟩ := Prod.mk.inj hpair
    have hkept : ChargesKept charges rows := chargesKept_of_storeCharges hstore
      fun _ c hc _ => List.mem_cons_of_mem _ hc
    obtain ⟨rfl, -⟩ := chargesValid_of_storeCharges hstore
    refine ⟨chargesTraced_cons hkept (List.mem_singleton_self _) rfl, nofun,
      fun record hrecord => ?_, fun _ _ => List.forall_mem_cons.mpr ⟨fun _ _ _ => rfl, halone⟩,
        fun record hrecord hreplay => ?_⟩
    rotate_left
    · obtain rfl := ObservedCharge.owned.inj hrecord
      cases hreplay
    obtain rfl := ObservedCharge.owned.inj hrecord
    refine ⟨_, List.mem_cons_self, rfl, rfl, rfl, rfl, fun _ _ hreversed => ?_⟩
    -- The insertion has no time of a reversal, which that progression needs.
    replace hreversed : progression = .externallyReversed := hreversed
    simp [ProcessorCharge.checks, ProcessorCharge.stateTimestampsCheck, newCharge, hreversed]
      at hchecks

/-- The two updates of an identification continue every row. -/
theorem chargesTraced_of_identified {now : Timestamp} {tx : String}
    {progression : ProcessorChargeProgression} {c : ProcessorCharge} (hc : c ∈ charges)
    (hnone : c.evidence.transactionId = none)
    (hmem : (c.identified now tx).identifiedProgress now progression ∈
      Table.updateWhere (·.id = c.id) (·.identifiedProgress now progression)
        (Table.updateWhere (·.id = c.id) (·.identified now tx) charges))
    (hkept : ChargesKept charges
      (Table.updateWhere (·.id = c.id) (·.identifiedProgress now progression)
        (Table.updateWhere (·.id = c.id) (·.identified now tx) charges))) :
    ChargesTraced time known charges
      (Table.updateWhere (·.id = c.id) (·.identifiedProgress now progression)
        (Table.updateWhere (·.id = c.id) (·.identified now tx) charges)) := by
  refine ⟨hkept, fun hvalid c' hc' => ?_, fun c'' hc'' => .inl ?_⟩
  · by_cases hid : c'.id = c.id
    · obtain rfl := hvalid.eq_of_id hc' hc hid
      exact ⟨_, hmem, rfl, rfl, rfl, fun htx => absurd hnone htx⟩
    · have hne : decide (c'.id = c.id) = false := by simpa using hid
      exact ⟨c', mem_updateWhere_of_not (mem_updateWhere_of_not hc' hne) hne, .refl c'⟩
  · obtain ⟨c', hc', rfl⟩ := Table.mem_updateWhere.mp hc''
    obtain ⟨c₀, hc₀, rfl⟩ := Table.mem_updateWhere.mp hc'
    refine ⟨c₀, hc₀, ?_⟩
    split_ifs <;> exact ⟨rfl, rfl⟩

/-- The identification of a charge without a transaction. -/
theorem identifyTransactionless_observes {now : Timestamp} {a : PaymentAttempt}
    {evidence : ProcessorEvidence} {tx : String} {requested : ProcessorChargeProgression}
    {record : ChargeRecord} (htx : evidence.transactionId = some tx)
    (halone : OwnedAlone a evidence charges)
    (h : identifyTransactionless now a evidence tx requested charges =
      .ok (some (charges', record))) :
    Observes now a evidence charges charges' (.owned record) := by
  unfold identifyTransactionless at h
  split at h
  · simp at h
  · rename_i c hfind
    split_ifs at h with hmatches
    · simp only [map_eq_ok, Option.some.injEq, Prod.mk.injEq] at h
      obtain ⟨rows, hrows, rfl, rfl⟩ := h
      obtain ⟨rows₁, hfirst, hsecond⟩ := bind_eq_ok.mp hrows
      have hc := List.mem_of_find?_eq_some hfind
      have hp : c.attemptId = a.id ∧ c.evidence.transactionId = none := by
        simpa using List.find?_some hfind
      obtain ⟨rfl, -⟩ := chargesValid_of_storeCharges hfirst
      have hkept : ChargesKept charges rows := by
        refine chargesKept_of_storeCharges hsecond fun hvalid c' hc' hreversed => ?_
        -- The identified charge had no transaction, and was not a reversed one.
        have hne : c'.id ≠ c.id := by
          intro hid
          obtain rfl := hvalid.eq_of_id hc' hc hid
          exact (ProcessorCharge.not_reversed_of_transactionless (hvalid.checks c' hc) hp.2).1
            hreversed
        have hne' : decide (c'.id = c.id) = false := by simpa using hne
        exact mem_updateWhere_of_not (mem_updateWhere_of_not hc' hne') hne'
      obtain ⟨rfl, hvalid'⟩ := chargesValid_of_storeCharges hsecond
      have hmem : (c.identified now tx).identifiedProgress now
          (initialChargeProgression c.role a.amount.cents (some tx) requested) ∈
          Table.updateWhere (·.id = c.id)
            (·.identifiedProgress now
              (initialChargeProgression c.role a.amount.cents (some tx) requested))
            (Table.updateWhere (·.id = c.id) (·.identified now tx) charges) := by
        refine Table.mem_updateWhere.mpr ⟨c.identified now tx, ?_, by
          simp [ProcessorCharge.identified]⟩
        exact Table.mem_updateWhere.mpr ⟨c, hc, by simp⟩
      refine ⟨chargesTraced_of_identified hc hp.2 hmem hkept, by simp, fun record' hrecord => ?_,
        fun _ _ => ?_, fun record' hrecord hreplay => ?_⟩
      rotate_left
      · intro c' hc' haccount hsome htx'
        -- The identified row is the only one with its id, and the others are as they were.
        by_cases hid : c'.id = c.id
        · rw [hvalid'.eq_of_id hc' hmem hid]
          exact hp.1
        · obtain ⟨c₁, hc₁, rfl⟩ := Table.mem_updateWhere.mp hc'
          obtain ⟨c₀, hc₀, rfl⟩ := Table.mem_updateWhere.mp hc₁
          by_cases hid₀ : c₀.id = c.id
          · simp [hid₀, ProcessorCharge.identified, ProcessorCharge.identifiedProgress,
              ProcessorCharge.progressed] at hid
          · simp only [hid₀, decide_false, Bool.false_eq_true, if_false] at haccount htx' ⊢
            exact halone c₀ hc₀ haccount hsome htx'
      · obtain rfl := ObservedCharge.owned.inj hrecord
        cases hreplay
      obtain rfl := ObservedCharge.owned.inj hrecord
      refine ⟨_, hmem, rfl, hp.1, ?_, rfl, fun hvalid _ hreversed => ?_⟩
      · have hevidence := of_decide_eq_true hmatches
        rw [htx] at hevidence
        exact hevidence
      · have hnone :=
          (ProcessorCharge.not_reversed_of_transactionless (hvalid.checks c hc) hp.2).2
        have hchecks := hvalid'.checks _ hmem
        simp only [ProcessorCharge.checks, ProcessorCharge.stateTimestampsCheck, hreversed,
          Bool.and_eq_true] at hchecks
        have htime : c.externallyReversedAt ≠ none := of_decide_eq_true hchecks.1.1.1.1
        exact htime hnone
    · simp at h

/-- `observe_processor_charge`. -/
theorem observeProcessorCharge_observes {now : Timestamp} {newId : Id} {a : PaymentAttempt}
    {evidence : ProcessorEvidence} {requested : ProcessorChargeProgression}
    {observed : ObservedCharge}
    (h : observeProcessorCharge now newId a evidence requested charges = .ok (charges', observed)) :
    Observes now a evidence charges charges' observed := by
  simp only [observeProcessorCharge] at h
  split at h
  · rename_i htx
    exact insertObservedCharge_observes (fun _ _ _ hsome => absurd htx hsome) h
  · rename_i tx htx
    split at h
    · rename_i hother
      obtain ⟨rfl, rfl⟩ := Prod.mk.inj (Except.ok.inj h)
      exact ⟨.refl _, fun _ => ⟨rfl, tx, htx, hother⟩, nofun, nofun, nofun⟩
    · rename_i hother
      have halone : OwnedAlone a evidence charges := by
        intro c hc haccount _ hctx
        by_contra hne
        refine hother (List.any_eq_true.mpr ⟨c, hc, decide_eq_true ⟨haccount, ?_, hne⟩⟩)
        rw [hctx, htx]
      split at h
      · cases h
      · rename_i rows record hidentified
        obtain ⟨rfl, rfl⟩ := Prod.mk.inj (Except.ok.inj h)
        exact identifyTransactionless_observes htx halone hidentified
      · exact insertObservedCharge_observes halone h

end Statements

end SyrupRail
