import SyrupRail.Charge
import SyrupRail.Lib.Run

/-!
# The ledger of processor charges

What every sequence of observations, transitions, classifications, and attestations keeps of the
ledger. `ChargeRow` is the invariant of one row and implies the constraints of the table, so no
statement is stopped by one of them; the unique indexes give the properties of pairs of rows. Each
writer is a rewriting of rows that keeps `ChargeRow`, or the insertion of a row that has it. The
clock advances by the time that elapses before each step and never runs backwards.
-/

namespace SyrupRail

open Transactions

/-! ## Rows -/

/-- The requests of the attempts, which never change. -/
structure AttemptBook where
  request : Id → NewAttempt
  id_request : ∀ i, (request i).id = i

/-- The columns of an attempt that change while its charges are handled. -/
structure AttemptState where
  status : PaymentAttemptStatus
  resolutionCode : Option PaymentResolutionCode
  evidence : ProcessorEvidence
  deriving DecidableEq, Repr

/-- An attempt of the book in some state. -/
def AttemptBook.attempt (b : AttemptBook) (i : Id) (s : AttemptState) : PaymentAttempt :=
  { (b.request i).row with
    status := s.status
    resolutionCode := s.resolutionCode
    evidence := s.evidence }

/-- The times of a row are those of its progression. A reversed charge may keep the time at which
its reversal became required. -/
def ProcessorCharge.TimesMatch (c : ProcessorCharge) : Prop :=
  (c.reconciliationRequiredAt ≠ none ↔ c.progression = .reconciliationRequired) ∧
    (c.appliedAt ≠ none ↔ c.progression = .applied) ∧
    (c.externallyReversedAt ≠ none ↔ c.progression = .externallyReversed) ∧
    (c.progression = .externalReversalRequired → c.externalReversalRequiredAt ≠ none) ∧
    (c.externalReversalRequiredAt ≠ none → c.progression.isReversal = true)

/-- The invariant of one row, at a time of the clock. -/
structure ChargeRow (b : AttemptBook) (clock : Timestamp) (c : ProcessorCharge) : Prop where
  kind : c.attemptKind = (b.request c.attemptId).target.kind
  amount : c.amount = (b.request c.attemptId).amount
  times : c.TimesMatch
  identity : c.evidence.transactionId = none →
    c.progression = .pending ∨ c.progression = .reconciliationRequired
  reversal : c.progression.isReversal = true → c.reversalEligible = true
  applied : c.progression = .applied → c.role = .primary
  created : c.createdAt ≤ c.updatedAt
  updated : c.updatedAt ≤ clock
  text : c.evidence.textCheck = true

section Row

variable {b : AttemptBook} {clock now : Timestamp} {c : ProcessorCharge}

/-- A row of the invariant meets the constraints of the table. -/
theorem ChargeRow.checks (h : ChargeRow b clock c) : c.checks = true := by
  obtain ⟨h1, h2, h3, h4, h5⟩ := h.times
  have htimes : c.stateTimestampsCheck = true := by
    unfold ProcessorCharge.stateTimestampsCheck
    cases hp : c.progression <;>
      simp_all [ProcessorChargeProgression.isReversal]
  have hidentity : c.transactionIdentityCheck = true := by
    unfold ProcessorCharge.transactionIdentityCheck
    by_cases htx : c.evidence.transactionId = none
    · rcases h.identity htx with hp | hp <;> simp [hp]
    · simp [Option.isSome_iff_ne_none.mpr htx]
  have hreversal : c.reversalEligibilityCheck = true := by
    unfold ProcessorCharge.reversalEligibilityCheck
    by_cases hr : c.progression.isReversal = true
    · simp [h.reversal hr]
    · simp [hr]
  simp [ProcessorCharge.checks, htimes, hidentity, hreversal, h.created, h.text]

/-- The times of a row that has progressed. -/
theorem ProcessorCharge.timesMatch_progressed (now : Timestamp) (p : ProcessorChargeProgression)
    (c : ProcessorCharge) : (c.progressed now p).TimesMatch := by
  unfold ProcessorCharge.TimesMatch ProcessorCharge.progressed
  cases p <;> simp [ProcessorChargeProgression.isReversal]

/-- An eligible row that makes a transition keeps the invariant. -/
theorem ChargeRow.transitioned {p : ProcessorChargeProgression} (h : ChargeRow b clock c)
    (hnow : clock ≤ now) (heligible : c.eligible p = true) (u : ChargeStateCodeUpdate) :
    ChargeRow b now (c.transitioned now p u) := by
  simp only [ProcessorCharge.eligible, Bool.and_eq_true, Bool.or_eq_true, Bool.not_eq_true',
    decide_eq_true_eq] at heligible
  obtain ⟨hrev, happ⟩ := heligible
  refine ⟨h.kind, h.amount, c.timesMatch_progressed now p, fun htx => ?_, fun hr => ?_,
    fun hp => ?_, (h.created.trans h.updated).trans hnow, le_refl now, h.text⟩
  · -- Without a transaction neither a reversal nor an application is eligible.
    have htx' : c.evidence.transactionId = none := htx
    cases p with
    | pending => exact .inl rfl
    | reconciliationRequired => exact .inr rfl
    | externalReversalRequired | externallyReversed =>
      simp [ProcessorChargeProgression.isReversal, ProcessorCharge.reversalEligible, htx'] at hrev
    | applied => simp [htx'] at happ
  · rcases hrev with hrev | hrev
    · simp [ProcessorCharge.transitioned, ProcessorCharge.progressed, hrev] at hr
    · exact hrev
  · rcases happ with happ | happ
    · exact absurd hp happ
    · exact happ.1

/-- An identification keeps the invariant. -/
theorem ChargeRow.identified (h : ChargeRow b clock c) (hnow : clock ≤ now) (tx : String)
    (hnone : c.evidence.transactionId = none) : ChargeRow b now (c.identified now tx) := by
  refine ⟨h.kind, h.amount, h.times, nofun, fun hr => ?_, h.applied,
    (h.created.trans h.updated).trans hnow, le_refl now, h.text⟩
  have hr' : c.progression.isReversal = true := hr
  rcases h.identity hnone with hp | hp <;> simp [hp, ProcessorChargeProgression.isReversal] at hr'

/-- The second update of an identification is an ordinary transition, since a charge without a
transaction was never reversed. -/
theorem ChargeRow.identifiedProgress_eq (h : ChargeRow b clock c)
    (hnone : c.evidence.transactionId = none) (tx : String) {p : ProcessorChargeProgression}
    (hp : p ≠ .externallyReversed) :
    (c.identified now tx).identifiedProgress now p =
      (c.identified now tx).transitioned now p (.replace none) := by
  have hrev : c.externallyReversedAt = none := by
    by_contra hne
    have hp := h.times.2.2.1.mp hne
    rcases h.identity hnone with hp' | hp' <;> simp [hp] at hp'
  simp [ProcessorCharge.identifiedProgress, ProcessorCharge.transitioned,
    ProcessorCharge.progressed, ProcessorCharge.identified, ChargeStateCodeUpdate.apply, hp, hrev]

/-- An attested reversal keeps the invariant. -/
theorem ChargeRow.reversed (h : ChargeRow b clock c) (hnow : clock ≤ now)
    (hp : c.progression = .externalReversalRequired) (prior : ProcessorChargeStateCode) :
    ChargeRow b now (c.reversed now prior) := by
  have heligible := h.reversal (by rw [hp]; rfl)
  obtain ⟨h1, h2, -, h4, -⟩ := h.times
  refine ⟨h.kind, h.amount, ⟨?_, ?_, ?_, nofun, fun _ => rfl⟩, fun htx => ?_, fun _ => heligible,
    nofun, (h.created.trans h.updated).trans hnow, le_refl now, h.text⟩
  · simpa [ProcessorCharge.reversed, hp] using h1
  · simpa [ProcessorCharge.reversed, hp] using h2
  · simp [ProcessorCharge.reversed]
  · have htx' : c.evidence.transactionId = none := htx
    simp [ProcessorCharge.reversalEligible, htx'] at heligible

/-- A later clock keeps the invariant. -/
theorem ChargeRow.mono (h : ChargeRow b clock c) (hnow : clock ≤ now) : ChargeRow b now c :=
  ⟨h.kind, h.amount, h.times, h.identity, h.reversal, h.applied, h.created, h.updated.trans hnow,
    h.text⟩

end Row

/-! ## Tables -/

/-- The invariant of the ledger. -/
structure LedgerInvariant (b : AttemptBook) (clock : Timestamp) (charges : List ProcessorCharge) :
    Prop where
  row : ∀ c ∈ charges, ChargeRow b clock c
  indexes : chargeIndexes charges = true

section Table

variable {b : AttemptBook} {clock now : Timestamp} {charges charges' : List ProcessorCharge}

/-- The end of a statement that succeeds. -/
theorem storeCharges_eq_ok (h : storeCharges charges = .ok charges') :
    charges' = charges ∧ chargeIndexes charges = true := by
  unfold storeCharges at h
  split_ifs at h with hc hi
  exact ⟨by simpa using h.symm, by simpa using hi⟩

/-- A statement whose rows keep the invariant is not stopped by a constraint. -/
theorem storeCharges_ne_checkViolation (h : ∀ c ∈ charges, ChargeRow b now c) :
    storeCharges charges ≠ .error .checkViolation := by
  have hall : charges.all ProcessorCharge.checks = true :=
    List.all_eq_true.mpr fun c hc => (h c hc).checks
  unfold storeCharges
  simp only [hall, Bool.not_true, Bool.false_eq_true, if_false]
  split_ifs <;> simp

/-- The rows of a table after an update. -/
theorem chargeRow_updateWhere {p : ProcessorCharge → Bool} {f : ProcessorCharge → ProcessorCharge}
    (h : LedgerInvariant b clock charges) (hnow : clock ≤ now)
    (hf : ∀ c ∈ charges, p c = true → ChargeRow b now (f c)) :
    ∀ c ∈ Table.updateWhere p f charges, ChargeRow b now c := by
  intro c hc
  obtain ⟨c₀, hc₀, rfl⟩ := Table.mem_updateWhere.mp hc
  split_ifs with hp
  · exact hf c₀ hc₀ hp
  · exact (h.row c₀ hc₀).mono hnow

/-- A statement whose rows keep the invariant keeps that of the ledger. -/
theorem LedgerInvariant.of_store (hrow : ∀ c ∈ charges, ChargeRow b now c)
    (h : storeCharges charges = .ok charges') : LedgerInvariant b now charges' := by
  obtain ⟨rfl, hi⟩ := storeCharges_eq_ok h
  exact ⟨hrow, hi⟩

/-- Under the primary key, a row is determined by its identity. -/
theorem LedgerInvariant.eq_of_id (h : LedgerInvariant b clock charges) {c c' : ProcessorCharge}
    (hc : c ∈ charges) (hc' : c' ∈ charges) (hid : c.id = c'.id) : c = c' := by
  have hindex := h.indexes
  simp only [chargeIndexes, Bool.and_eq_true] at hindex
  exact Table.eq_of_uniqueOn hindex.1.1.1.1 hc hc' rfl (congrArg some hid.symm)

end Table

/-! ## Evidence -/

/-- The evidence of a charge stays, but that a missing transaction may be filled in. -/
def ProcessorCharge.Evolves (c c' : ProcessorCharge) : Prop :=
  c'.id = c.id ∧ (c'.evidence = c.evidence ∨ (c.evidence.transactionId = none ∧
    ∃ tx, c'.evidence = { c.evidence with transactionId := some tx }))

/-- A charge that stays as it is. -/
theorem ProcessorCharge.Evolves.refl (c : ProcessorCharge) : c.Evolves c := ⟨rfl, .inl rfl⟩

/-- A transaction that was filled in is there to stay. -/
theorem ProcessorCharge.Evolves.trans {c c' c'' : ProcessorCharge} (h : c.Evolves c')
    (h' : c'.Evolves c'') : c.Evolves c'' := by
  refine ⟨h'.1.trans h.1, ?_⟩
  rcases h.2 with he | ⟨hn, tx, he⟩
  · rcases h'.2 with he' | ⟨hn', tx', he'⟩
    · exact .inl (he'.trans he)
    · right
      rw [he] at hn' he'
      exact ⟨hn', tx', he'⟩
  · rcases h'.2 with he' | ⟨hn', -⟩
    · exact .inr ⟨hn, tx, he'.trans he⟩
    · simp [he] at hn'

/-- Every charge of a ledger is in the later one, with its evidence. -/
def EvidenceKept (charges charges' : List ProcessorCharge) : Prop :=
  ∀ c ∈ charges, ∃ c' ∈ charges', c.Evolves c'

/-- A ledger that stays as it is. -/
theorem EvidenceKept.refl (charges : List ProcessorCharge) : EvidenceKept charges charges :=
  fun c hc => ⟨c, hc, .refl c⟩

/-- What is kept twice is kept. -/
theorem EvidenceKept.trans {l l' l'' : List ProcessorCharge} (h : EvidenceKept l l')
    (h' : EvidenceKept l' l'') : EvidenceKept l l'' := by
  intro c hc
  obtain ⟨c', hc', hev⟩ := h c hc
  obtain ⟨c'', hc'', hev'⟩ := h' c' hc'
  exact ⟨c'', hc'', hev.trans hev'⟩

/-! ## Writers -/

/-- A writer keeps the ledger: when it succeeds, the invariant holds again and no evidence is
lost, and it does not fail on a constraint. -/
structure KeepsLedger (b : AttemptBook) (now : Timestamp) (charges : List ProcessorCharge)
    (result : Except StoreError (List ProcessorCharge)) : Prop where
  invariant : ∀ charges', result = .ok charges' → LedgerInvariant b now charges'
  evidence : ∀ charges', result = .ok charges' → EvidenceKept charges charges'
  unstopped : result ≠ .error .checkViolation

section Writers

variable {b : AttemptBook} {clock now : Timestamp} {charges : List ProcessorCharge}

/-- A writer that succeeds without a statement. -/
theorem KeepsLedger.unchanged (h : LedgerInvariant b clock charges) (hnow : clock ≤ now) :
    KeepsLedger b now charges (.ok charges) := by
  refine ⟨fun charges' heq => ?_, fun charges' heq => ?_, nofun⟩
  · cases heq
    exact ⟨fun c hc => (h.row c hc).mono hnow, h.indexes⟩
  · cases heq
    exact .refl charges

/-- A writer that fails with another error. -/
theorem KeepsLedger.failed {e : StoreError} (h : e ≠ .checkViolation) :
    KeepsLedger b now charges (.error e) :=
  ⟨nofun, nofun, fun heq => h (by simpa using heq)⟩

/-- An `UPDATE` of rows that keeps the invariant of each row and its evidence. -/
theorem KeepsLedger.update {p : ProcessorCharge → Bool} {f : ProcessorCharge → ProcessorCharge}
    (h : LedgerInvariant b clock charges) (hnow : clock ≤ now)
    (hf : ∀ c ∈ charges, p c = true → ChargeRow b now (f c) ∧ c.Evolves (f c)) :
    KeepsLedger b now charges (storeCharges (Table.updateWhere p f charges)) := by
  have hrow := chargeRow_updateWhere h hnow fun c hc hp => (hf c hc hp).1
  refine ⟨fun charges' heq => .of_store hrow heq, fun charges' heq c hc => ?_,
    storeCharges_ne_checkViolation hrow⟩
  obtain ⟨rfl, -⟩ := storeCharges_eq_ok heq
  refine ⟨if p c then f c else c, Table.mem_updateWhere.mpr ⟨c, hc, rfl⟩, ?_⟩
  split_ifs with hp
  · exact (hf c hc hp).2
  · exact .refl c

/-- An `INSERT` of a row of the invariant. -/
theorem KeepsLedger.insert {row : ProcessorCharge} (h : LedgerInvariant b clock charges)
    (hnow : clock ≤ now) (hrow : ChargeRow b now row) :
    KeepsLedger b now charges (storeCharges (row :: charges)) := by
  have hrows : ∀ c ∈ row :: charges, ChargeRow b now c := by
    intro c hc
    rcases List.mem_cons.mp hc with rfl | hc
    · exact hrow
    · exact (h.row c hc).mono hnow
  refine ⟨fun charges' heq => .of_store hrows heq, fun charges' heq c hc => ?_,
    storeCharges_ne_checkViolation hrows⟩
  obtain ⟨rfl, -⟩ := storeCharges_eq_ok heq
  exact ⟨c, List.mem_cons_of_mem row hc, .refl c⟩

/-- A transition of eligible rows. -/
theorem KeepsLedger.transition (h : LedgerInvariant b clock charges) (hnow : clock ≤ now)
    (chargeId : Id) (expected : List ProcessorChargeProgression) (p : ProcessorChargeProgression)
    (u : ChargeStateCodeUpdate) :
    KeepsLedger b now charges (storeCharges (Table.updateWhere
      (·.transitionMatched chargeId expected p) (·.transitioned now p u) charges)) := by
  refine .update h hnow fun c hc hmatched => ⟨?_, rfl, .inl rfl⟩
  simp only [ProcessorCharge.transitionMatched, decide_eq_true_eq] at hmatched
  exact (h.row c hc).transitioned hnow hmatched.2.2 u

/-- `transition_processor_charge` keeps the ledger. -/
theorem transitionProcessorCharge_keeps (h : LedgerInvariant b clock charges) (hnow : clock ≤ now)
    (chargeId : Id) (expected : List ProcessorChargeProgression) (p : ProcessorChargeProgression)
    (u : ChargeStateCodeUpdate) :
    KeepsLedger b now charges (transitionProcessorCharge now chargeId expected p u charges) := by
  unfold transitionProcessorCharge
  split_ifs
  · exact .failed nofun
  · exact .transition h hnow chargeId expected p u
  · exact .failed nofun

/-- `transition_pending_charge` keeps the ledger. -/
theorem transitionPendingCharge_keeps (h : LedgerInvariant b clock charges) (hnow : clock ≤ now)
    (chargeId : Id) (p : ProcessorChargeProgression) (code : Option ProcessorChargeStateCode) :
    KeepsLedger b now charges (transitionPendingCharge now chargeId p code charges) := by
  unfold transitionPendingCharge
  split_ifs
  · exact .transition h hnow chargeId [.pending] p (.replace code)
  · exact .failed nofun

/-- The progressions that the engine's callers request for a new charge: an external reversal only
where it is possible, and never one that has already happened. -/
def requestedProgressionFits (kind : PaymentAttemptKind) (p : ProcessorChargeProgression) : Bool :=
  match p with
  | .pending | .applied | .reconciliationRequired => true
  | .externalReversalRequired => kind ≠ .subscriptionPaymentMethodUpdate
  | .externallyReversed => false

/-- The initial progression of an identified charge is eligible, and is not a reversal that has
already happened. -/
theorem initialChargeProgression_eligible {i : Id} (role : ProcessorChargeRole)
    {requested : ProcessorChargeProgression} (tx : String)
    (hfits : requestedProgressionFits (b.request i).target.kind requested = true)
    {c : ProcessorCharge} (hkind : c.attemptKind = (b.request i).target.kind)
    (hamount : c.amount = (b.request i).amount) (hrole : c.role = role)
    (htx : c.evidence.transactionId.isSome = true) :
    let p := initialChargeProgression role (b.request i).amount.cents (some tx) requested
    c.eligible p = true ∧ p ≠ .externallyReversed := by
  have hpos := (b.request i).amount_fits
  have heligible (hk : (b.request i).target.kind ≠ .subscriptionPaymentMethodUpdate) :
      c.reversalEligible = true := by
    have hne : (b.request i).amount.cents ≠ 0 := fun h0 => hk (hpos.mpr h0)
    simp [ProcessorCharge.reversalEligible, htx, hkind, hamount, hk, Nat.pos_of_ne_zero hne]
  cases role with
  | primary =>
    cases requested with
    | pending | applied | reconciliationRequired =>
      simp [initialChargeProgression, ProcessorCharge.eligible,
        ProcessorChargeProgression.isReversal, hrole, htx]
    | externalReversalRequired =>
      have hk : (b.request i).target.kind ≠ .subscriptionPaymentMethodUpdate := by
        simpa [requestedProgressionFits] using hfits
      simp [initialChargeProgression, ProcessorCharge.eligible,
        ProcessorChargeProgression.isReversal, heligible hk]
    | externallyReversed => simp [requestedProgressionFits] at hfits
  | additional =>
    simp only [initialChargeProgression]
    split_ifs with h0
    · have hk : (b.request i).target.kind ≠ .subscriptionPaymentMethodUpdate := by
        intro hk
        have := hpos.mp hk
        omega
      simp [ProcessorCharge.eligible, ProcessorChargeProgression.isReversal, heligible hk]
    · simp [ProcessorCharge.eligible, ProcessorChargeProgression.isReversal]

variable {i : Id} {st : AttemptState} {evidence : ProcessorEvidence}
  {requested : ProcessorChargeProgression}

/-- Two writers, one after the other. -/
theorem KeepsLedger.bind {x : Except StoreError (List ProcessorCharge)}
    {f : List ProcessorCharge → Except StoreError (List ProcessorCharge)}
    (hx : KeepsLedger b now charges x)
    (hf : ∀ l, x = .ok l → LedgerInvariant b now l → KeepsLedger b now l (f l)) :
    KeepsLedger b now charges (x >>= f) := by
  cases x with
  | error e => exact .failed fun he => hx.unstopped (by rw [he])
  | ok l =>
    have hl := hf l rfl (hx.invariant l rfl)
    exact ⟨hl.invariant, fun l' h' => (hx.evidence l rfl).trans (hl.evidence l' h'), hl.unstopped⟩

/-- The identification of a charge without a transaction keeps the ledger. -/
theorem identifyTransactionless_keeps (h : LedgerInvariant b clock charges) (hnow : clock ≤ now)
    (tx : String) (hfits : requestedProgressionFits (b.request i).target.kind requested = true) :
    KeepsLedger b now charges
      ((identifyTransactionless now (b.attempt i st) evidence tx requested charges).map
        fun r => (r.map Prod.fst).getD charges) := by
  unfold identifyTransactionless
  split
  · exact .unchanged h hnow
  · rename_i c hfind
    have hc := List.mem_of_find?_eq_some hfind
    have hpred := List.find?_some hfind
    simp only [decide_eq_true_eq] at hpred
    have hattempt : c.attemptId = i := hpred.1.trans (b.id_request i)
    have hrow := h.row c hc
    split_ifs with hmatch
    · -- First the transaction is filled in, and then the identified row progresses.
      obtain ⟨helig, hne⟩ := initialChargeProgression_eligible c.role tx
        (c := c.identified now tx) hfits (hattempt ▸ hrow.kind) (hattempt ▸ hrow.amount) rfl rfl
      have hkeeps := KeepsLedger.bind
        (f := fun l => storeCharges (Table.updateWhere (·.id = c.id) (·.identifiedProgress now
          (initialChargeProgression c.role (b.request i).amount.cents (some tx) requested)) l))
        (KeepsLedger.update (p := (·.id = c.id)) (f := (·.identified now tx)) h hnow
          fun c' hc' hid => by
            obtain rfl := h.eq_of_id hc hc' (of_decide_eq_true hid).symm
            exact ⟨hrow.identified hnow tx hpred.2, rfl, .inr ⟨hpred.2, tx, rfl⟩⟩)
        fun l hl hinv => .update hinv (le_refl now) fun c' hc' hid => by
          obtain ⟨rfl, -⟩ := storeCharges_eq_ok hl
          obtain rfl := Table.eq_of_mem_updateWhere_key (f := (·.identified now tx))
            (fun _ hr _ hr' => h.eq_of_id hr hr') (fun _ => rfl) hc hc' (of_decide_eq_true hid)
          refine ⟨?_, rfl, .inl rfl⟩
          rw [hrow.identifiedProgress_eq hpred.2 tx hne]
          exact (hinv.row _ hc').transitioned (le_refl now) helig _
      -- The record that the operation returns beside the table is forgotten here.
      have hmap {x : Except StoreError (List ProcessorCharge)} {r : ChargeRecord} :
          x = (x.map fun l => some (l, r)).map fun o => (o.map Prod.fst).getD charges := by
        cases x <;> rfl
      rw [← hmap]
      exact hkeeps
    · exact .unchanged h hnow

/-- The row that an observation inserts. -/
theorem ChargeRow.newCharge {role : ProcessorChargeRole} {newId : Id}
    (hfits : requestedProgressionFits (b.request i).target.kind requested = true)
    (htext : evidence.textCheck = true) :
    ChargeRow b now (newCharge now newId (b.attempt i st) evidence role
      (initialChargeProgression role (b.request i).amount.cents evidence.transactionId
        requested)) := by
  have hid : (b.attempt i st).id = i := b.id_request i
  -- The new row is that of a pending charge after the transition to its initial progression.
  have htimes {p : ProcessorChargeProgression} (hp : p ≠ .externallyReversed) :
      (SyrupRail.newCharge now newId (b.attempt i st) evidence role p).TimesMatch := by
    unfold ProcessorCharge.TimesMatch SyrupRail.newCharge
    cases p <;> simp [ProcessorChargeProgression.isReversal] at hp ⊢
  cases htx : evidence.transactionId with
  | none =>
    have hp : initialChargeProgression role (b.request i).amount.cents none requested =
        .reconciliationRequired := by
      cases role <;> rfl
    rw [hp]
    exact
      { kind := by rw [SyrupRail.newCharge, hid]; rfl
        amount := by rw [SyrupRail.newCharge, hid]; rfl
        times := htimes nofun
        identity := fun _ => .inr rfl
        reversal := nofun
        applied := nofun
        created := le_refl now
        updated := le_refl now
        text := htext }
  | some tx =>
    obtain ⟨helig, hne⟩ := initialChargeProgression_eligible role tx
      (c := SyrupRail.newCharge now newId (b.attempt i st) evidence role
        (initialChargeProgression role (b.request i).amount.cents (some tx) requested))
      hfits rfl rfl rfl (by simp [SyrupRail.newCharge, htx])
    simp only [ProcessorCharge.eligible, Bool.and_eq_true, Bool.or_eq_true, Bool.not_eq_true',
      decide_eq_true_eq] at helig
    exact
      { kind := by rw [SyrupRail.newCharge, hid]; rfl
        amount := by rw [SyrupRail.newCharge, hid]; rfl
        times := htimes hne
        identity := fun hn => by simp [SyrupRail.newCharge, htx] at hn
        reversal := fun hr => helig.1.resolve_left (ne_true_of_eq_false.mt (not_not.mpr hr))
        applied := fun hp => (helig.2.resolve_left (not_not.mpr hp)).1
        created := le_refl now
        updated := le_refl now
        text := htext }

/-- A replay is answered, or fails with an error of the engine's own. -/
theorem replayObservedCharge_cases (a : PaymentAttempt) (evidence : ProcessorEvidence)
    (charges : List ProcessorCharge) :
    (∃ o, replayObservedCharge a evidence charges = .ok o) ∨
      ∃ m, replayObservedCharge a evidence charges = .error (.invalidState m) := by
  unfold replayObservedCharge
  split
  · split_ifs
    · exact .inl ⟨_, rfl⟩
    · exact .inr ⟨_, rfl⟩
  · split
    · exact .inl ⟨_, rfl⟩
    · exact .inr ⟨_, rfl⟩

/-- The insertion of an observed charge keeps the ledger. -/
theorem insertObservedCharge_keeps {role : ProcessorChargeRole} {newId : Id}
    (h : LedgerInvariant b clock charges) (hnow : clock ≤ now)
    (hfits : requestedProgressionFits (b.request i).target.kind requested = true)
    (htext : evidence.textCheck = true) :
    KeepsLedger b now charges
      ((insertObservedCharge now newId (b.attempt i st) evidence role
        (initialChargeProgression role (b.request i).amount.cents evidence.transactionId requested)
        charges).map Prod.fst) := by
  have hrow : ChargeRow b now (newCharge now newId (b.attempt i st) evidence role
      (initialChargeProgression role (b.request i).amount.cents evidence.transactionId
          requested)) :=
    ChargeRow.newCharge hfits htext
  have hkeeps := KeepsLedger.insert h hnow hrow
  unfold insertObservedCharge
  simp only [hrow.checks, Bool.not_true, Bool.false_eq_true, if_false]
  split_ifs
  · -- A replay changes nothing, whatever it answers.
    rcases replayObservedCharge_cases (b.attempt i st) evidence charges with ⟨o, ho⟩ | ⟨m, hm⟩
    · rw [ho]
      exact .unchanged h hnow
    · rw [hm]
      exact .failed nofun
  · generalize storeCharges (newCharge now newId (b.attempt i st) evidence role
      (initialChargeProgression role (b.request i).amount.cents evidence.transactionId requested) ::
      charges) = x at hkeeps ⊢
    cases x with
    | error e => exact hkeeps
    | ok l => exact hkeeps

/-- `observe_processor_charge` keeps the ledger. -/
theorem observeProcessorCharge_keeps {newId : Id}
    (h : LedgerInvariant b clock charges) (hnow : clock ≤ now)
    (hfits : requestedProgressionFits (b.request i).target.kind requested = true)
    (htext : evidence.textCheck = true) :
    KeepsLedger b now charges
      ((observeProcessorCharge now newId (b.attempt i st) evidence requested charges).map
        Prod.fst) := by
  have hinsert (role : ProcessorChargeRole) :
      KeepsLedger b now charges ((insertObservedCharge now newId (b.attempt i st) evidence role
        (initialChargeProgression role (b.request i).amount.cents evidence.transactionId requested)
        charges).map Prod.fst) :=
    insertObservedCharge_keeps h hnow hfits htext
  unfold observeProcessorCharge
  cases htx : evidence.transactionId with
  | none =>
    simp only [htx] at hinsert ⊢
    exact hinsert _
  | some tx =>
    simp only [htx] at hinsert ⊢
    by_cases hother : ownedByOtherAttempt (b.attempt i st) tx charges = true
    · rw [if_pos hother]
      exact .unchanged h hnow
    · rw [if_neg hother]
      have hidentify : KeepsLedger b now charges
          ((identifyTransactionless now (b.attempt i st) evidence tx requested charges).map
            fun r => (r.map Prod.fst).getD charges) :=
        identifyTransactionless_keeps h hnow tx hfits
      cases hi : identifyTransactionless now (b.attempt i st) evidence tx requested charges with
      | error e =>
        rw [hi] at hidentify
        exact hidentify
      | ok found =>
        rw [hi] at hidentify
        cases found with
        | none => exact hinsert _
        | some r => exact hidentify

/-- A classification finds a progression, or fails with an error of the engine's own. -/
theorem classifyPendingCharge_cases (attestations : List ExternalReversalAttestation)
    (a : PaymentAttempt) (c : ProcessorCharge) :
    (∃ p code, classifyPendingCharge attestations a c = .ok (p, code)) ∨
      classifyPendingCharge attestations a c = .error invalidReconciliationState := by
  unfold classifyPendingCharge
  split
  · exact .inl ⟨_, _, rfl⟩
  · split
    · split_ifs
      · exact .inr rfl
      · exact .inl ⟨_, _, rfl⟩
    · simp only
      split
      · exact .inl ⟨_, _, rfl⟩
      · split
        · exact .inl ⟨_, _, rfl⟩
        · exact .inl ⟨_, _, rfl⟩

/-- The classification of a pending charge keeps the ledger. -/
theorem classifyCharge_keeps {l : ChargeLedger} (h : LedgerInvariant b clock l.charges)
    (hnow : clock ≤ now) (a : PaymentAttempt) (chargeId : Id) :
    KeepsLedger b now l.charges ((classifyCharge now a chargeId l).map ChargeLedger.charges) := by
  unfold classifyCharge
  split
  · exact .unchanged h hnow
  · rename_i c hfind
    split_ifs
    · exact .failed nofun
    · rcases classifyPendingCharge_cases l.attestations a c with ⟨p, code, hp⟩ | hp
      · have hkeeps := transitionPendingCharge_keeps h hnow chargeId p code
        rw [hp]
        generalize hx : transitionPendingCharge now chargeId p code l.charges = x at hkeeps
        cases x with
        | error e => simpa [hx, bind, Except.bind, Except.map] using hkeeps
        | ok charges' => simpa [hx, bind, Except.bind, Except.map] using hkeeps
      · rw [hp]
        exact .failed nofun

/-- A first attestation keeps the ledger. -/
theorem attestCharge_keeps {l : ChargeLedger} (h : LedgerInvariant b clock l.charges)
    (hnow : clock ≤ now) (a : PaymentAttempt) (t : ReversalAttestation) (c : ProcessorCharge) :
    KeepsLedger b now l.charges ((attestCharge now a t c l).map ChargeLedger.charges) := by
  have hkeeps := KeepsLedger.update
    (p := fun c => c.id = t.chargeId ∧ c.progression = .externalReversalRequired)
    (f := (·.reversed now (expectedPriorResolutionCode a c))) h hnow fun c' hc' hp =>
      ⟨(h.row c' hc').reversed hnow (of_decide_eq_true hp).2 _, rfl, .inl rfl⟩
  unfold attestCharge
  split
  · exact .failed nofun
  · generalize storeCharges (Table.updateWhere _ _ l.charges) = x at hkeeps ⊢
    cases x with
    | error e => exact hkeeps
    | ok charges' => exact hkeeps

/-- The attestation of an external reversal keeps the ledger. -/
theorem attestExternalReversal_keeps {l : ChargeLedger} (h : LedgerInvariant b clock l.charges)
    (hnow : clock ≤ now) (rules : TextRules) (a : PaymentAttempt) (t : ReversalAttestation) :
    KeepsLedger b now l.charges
      ((attestExternalReversal rules now a t l).map fun r => r.1.charges) := by
  unfold attestExternalReversal
  split
  · exact .unchanged h hnow
  · rename_i c hfind
    split
    · exact .failed nofun
    · split
      · exact .unchanged h hnow
      · split
        · exact .unchanged h hnow
        · have hkeeps := attestCharge_keeps h hnow a t c
          generalize attestCharge now a t c l = x at hkeeps ⊢
          cases x with
          | error e => exact hkeeps
          | ok l' => exact hkeeps

end Writers

/-! ## Runs -/

/-- The operations on the ledger. Those that read an attempt find it in any of its states. -/
inductive LedgerOp
  | observe (attemptId : Id) (state : AttemptState) (evidence : ProcessorEvidence)
      (requested : ProcessorChargeProgression) (newId : Id)
  | transition (chargeId : Id) (expected : List ProcessorChargeProgression)
      (progression : ProcessorChargeProgression) (update : ChargeStateCodeUpdate)
  | transitionCharge (chargeId : Id) (progression : ProcessorChargeProgression)
      (code : Option PaymentResolutionCode)
  | classify (attemptId : Id) (state : AttemptState) (chargeId : Id)
  | attest (rules : TextRules) (attemptId : Id) (state : AttemptState)
      (attestation : ReversalAttestation)

/-- An operation at the time `now`. -/
def LedgerOp.apply (b : AttemptBook) (now : Timestamp) (op : LedgerOp) (l : ChargeLedger) :
    Except StoreError ChargeLedger :=
  match op with
  | .observe i st evidence requested newId =>
    (observeProcessorCharge now newId (b.attempt i st) evidence requested l.charges).map
      fun r => { l with charges := r.1 }
  | .transition chargeId expected progression update =>
    (transitionProcessorCharge now chargeId expected progression update l.charges).map
      fun charges => { l with charges }
  | .transitionCharge chargeId progression code =>
    (SyrupRail.transitionCharge now chargeId progression code l.charges).map
      fun charges => { l with charges }
  | .classify i st chargeId => classifyCharge now (b.attempt i st) chargeId l
  | .attest rules i st t => (attestExternalReversal rules now (b.attempt i st) t l).map Prod.fst

/-- What the callers of an operation promise: an observation requests a progression that is possible
for the attempt, and its evidence consists of diagnostics. -/
def LedgerOp.fits (b : AttemptBook) (op : LedgerOp) : Bool :=
  match op with
  | .observe i _ evidence requested _ =>
    requestedProgressionFits (b.request i).target.kind requested && evidence.textCheck
  | _ => true

/-- The ledger and the clock. -/
structure LedgerState where
  clock : Timestamp
  ledger : ChargeLedger
  deriving DecidableEq, Repr

/-- The state after an operation that starts `elapsed` microseconds after the previous one; an
operation that fails leaves the ledger as it was. -/
def execLedger (b : AttemptBook) (s : LedgerState) (step : ℕ × LedgerOp) : LedgerState where
  clock := s.clock + step.1
  ledger :=
    match step.2.apply b (s.clock + step.1) s.ledger with
    | .ok l => l
    | .error _ => s.ledger

section Runs

variable {b : AttemptBook} {clock now : Timestamp} {l : ChargeLedger}

/-- Forgetting what a writer of the ledger does beside the charges. -/
theorem KeepsLedger.of_map {α : Type} {x : Except StoreError α} {f : α → ChargeLedger}
    (h : KeepsLedger b now l.charges (x.map fun a => (f a).charges)) :
    KeepsLedger b now l.charges ((x.map f).map ChargeLedger.charges) := by
  cases x with
  | error e => exact h
  | ok a => exact h

/-- Every operation that fits keeps the ledger. -/
theorem LedgerOp.apply_keeps {op : LedgerOp} (h : LedgerInvariant b clock l.charges)
    (hnow : clock ≤ now) (hfits : op.fits b = true) :
    KeepsLedger b now l.charges ((op.apply b now l).map ChargeLedger.charges) := by
  cases op with
  | observe i st evidence requested newId =>
    simp only [LedgerOp.fits, Bool.and_eq_true] at hfits
    exact .of_map (observeProcessorCharge_keeps h hnow hfits.1 hfits.2)
  | transition chargeId expected progression update =>
    refine .of_map ?_
    have hkeeps := transitionProcessorCharge_keeps h hnow chargeId expected progression update
    generalize transitionProcessorCharge now chargeId expected progression update l.charges = x
      at hkeeps ⊢
    cases x <;> exact hkeeps
  | transitionCharge chargeId progression code =>
    refine .of_map ?_
    have hkeeps := transitionProcessorCharge_keeps h hnow chargeId transitionChargeExpected
      progression (.preserveExisting (code.map .paymentResolution))
    unfold SyrupRail.transitionCharge
    generalize transitionProcessorCharge now chargeId transitionChargeExpected progression
      (.preserveExisting (code.map .paymentResolution)) l.charges = x at hkeeps ⊢
    cases x <;> exact hkeeps
  | classify i st chargeId => exact classifyCharge_keeps h hnow (b.attempt i st) chargeId
  | attest rules i st t =>
    exact .of_map (attestExternalReversal_keeps h hnow rules (b.attempt i st) t)

/-- One step keeps the invariant, and the evidence of every charge. -/
theorem execLedger_keeps {s : LedgerState} {step : ℕ × LedgerOp}
    (h : LedgerInvariant b s.clock s.ledger.charges) (hfits : step.2.fits b = true) :
    LedgerInvariant b (execLedger b s step).clock (execLedger b s step).ledger.charges ∧
      EvidenceKept s.ledger.charges (execLedger b s step).ledger.charges := by
  have hnow : s.clock ≤ s.clock + step.1 := Int.le_add_of_nonneg_right (Int.natCast_nonneg _)
  have hkeeps := step.2.apply_keeps h hnow hfits
  unfold execLedger
  cases hx : step.2.apply b (s.clock + step.1) s.ledger with
  | error e =>
    have hsame := KeepsLedger.unchanged h hnow
    exact ⟨hsame.invariant _ rfl, hsame.evidence _ rfl⟩
  | ok l' =>
    rw [hx] at hkeeps
    exact ⟨hkeeps.invariant _ rfl, hkeeps.evidence _ rfl⟩

/-- Every run of operations that fit keeps the invariant. -/
theorem run_ledgerInvariant {s : LedgerState} (h : LedgerInvariant b s.clock s.ledger.charges)
    (steps : List (ℕ × LedgerOp)) (hfits : ∀ step ∈ steps, step.2.fits b = true) :
    LedgerInvariant b (run (execLedger b) s steps).clock
      (run (execLedger b) s steps).ledger.charges :=
  run_invariant (I := fun s => LedgerInvariant b s.clock s.ledger.charges)
    (P := fun step => step.2.fits b = true) (fun _ _ hP hI => (execLedger_keeps hI hP).1)
    steps s hfits h

/-- Every run of operations that fit keeps the evidence of every charge. -/
theorem run_evidenceKept {s : LedgerState} (h : LedgerInvariant b s.clock s.ledger.charges)
    (steps : List (ℕ × LedgerOp)) (hfits : ∀ step ∈ steps, step.2.fits b = true) :
    EvidenceKept s.ledger.charges (run (execLedger b) s steps).ledger.charges :=
  run_rel (R := fun s s' => EvidenceKept s.ledger.charges s'.ledger.charges)
    (I := fun s => LedgerInvariant b s.clock s.ledger.charges)
    (P := fun step => step.2.fits b = true) (fun _ => .refl _) (fun _ _ _ => .trans)
    (fun _ _ hP hI => (execLedger_keeps hI hP).1) (fun _ _ hP hI => (execLedger_keeps hI hP).2)
    steps s hfits h

/-- The empty ledger. -/
theorem ledgerInvariant_nil (b : AttemptBook) (clock : Timestamp) : LedgerInvariant b clock [] := by
  refine ⟨fun c hc => ?_, ?_⟩
  · simp at hc
  · simp [chargeIndexes]

/-- The pairs of rows that the unique indexes exclude. -/
theorem LedgerInvariant.unique {charges : List ProcessorCharge}
    (h : LedgerInvariant b clock charges) {c c' : ProcessorCharge} (hc : c ∈ charges)
    (hc' : c' ∈ charges) :
    (c.attemptId = c'.attemptId → c.role = .primary → c'.role = .primary → c = c') ∧
    (c.attemptId = c'.attemptId → c.evidence.transactionId = none →
      c'.evidence.transactionId = none → c = c') ∧
    (c.gatewayAccountId = c'.gatewayAccountId → c.evidence.transactionId ≠ none →
      c.evidence.transactionId = c'.evidence.transactionId → c = c') := by
  have hindex := h.indexes
  simp only [chargeIndexes, Bool.and_eq_true] at hindex
  obtain ⟨⟨⟨⟨-, htx⟩, -⟩, hless⟩, hprimary⟩ := hindex
  refine ⟨fun ha hr hr' => ?_, fun ha hn hn' => ?_, fun ha hne heq => ?_⟩
  · refine Table.eq_of_uniqueOn hprimary hc hc' (k := c.attemptId) ?_ ?_
    · simp [ProcessorCharge.primaryKey, hr]
    · simp [ProcessorCharge.primaryKey, hr', ha]
  · refine Table.eq_of_uniqueOn hless hc hc' (k := c.attemptId) ?_ ?_
    · simp [ProcessorCharge.transactionlessKey, hn]
    · simp [ProcessorCharge.transactionlessKey, hn', ha]
  · obtain ⟨tx, htx'⟩ := Option.ne_none_iff_exists'.mp hne
    refine Table.eq_of_uniqueOn htx hc hc' (k := (c.gatewayAccountId, tx)) ?_ ?_
    · simp [ProcessorCharge.gatewayTransactionKey, htx']
    · simp [ProcessorCharge.gatewayTransactionKey, ← heq, htx', ha]

end Runs

/-- The invariant of the ledger, over every sequence of operations from the empty one. -/
theorem charge_ledger_invariant (b : AttemptBook) (start : Timestamp)
    (steps : List (ℕ × LedgerOp)) (hfits : ∀ step ∈ steps, step.2.fits b = true) :
    let s := run (execLedger b) ⟨start, {}⟩ steps
    (∀ c ∈ s.ledger.charges, ∀ c' ∈ s.ledger.charges, c.attemptId = c'.attemptId →
      (c.role = .primary → c'.role = .primary → c = c') ∧
      (c.evidence.transactionId = none → c'.evidence.transactionId = none → c = c')) ∧
    (∀ c ∈ s.ledger.charges, ∀ c' ∈ s.ledger.charges, c.gatewayAccountId = c'.gatewayAccountId →
      c.evidence.transactionId ≠ none → c.evidence.transactionId = c'.evidence.transactionId →
        c.attemptId = c'.attemptId) ∧
    (∀ c ∈ s.ledger.charges,
      (c.progression = .externalReversalRequired ∨ c.progression = .externallyReversed →
        c.evidence.transactionId ≠ none ∧ 0 < c.amount.cents ∧
          c.attemptKind ≠ .subscriptionPaymentMethodUpdate) ∧
      (c.progression = .applied → c.role = .primary ∧ c.evidence.transactionId ≠ none) ∧
      c.TimesMatch) ∧
    (∀ more : List (ℕ × LedgerOp), (∀ step ∈ more, step.2.fits b = true) →
      EvidenceKept s.ledger.charges (run (execLedger b) s more).ledger.charges) ∧
    (∀ (elapsed : ℕ) (op : LedgerOp), op.fits b = true →
      op.apply b (s.clock + elapsed) s.ledger ≠ .error .checkViolation) := by
  intro s
  have hinv : LedgerInvariant b s.clock s.ledger.charges :=
    run_ledgerInvariant (ledgerInvariant_nil b start) steps hfits
  refine ⟨fun c hc c' hc' ha => ⟨(hinv.unique hc hc').1 ha, (hinv.unique hc hc').2.1 ha⟩,
    fun c hc c' hc' ha hne heq => congrArg _ ((hinv.unique hc hc').2.2 ha hne heq),
    fun c hc => ⟨fun hp => ?_, fun hp => ⟨(hinv.row c hc).applied hp, fun hn => ?_⟩,
      (hinv.row c hc).times⟩, fun more hmore => run_evidenceKept hinv more hmore,
    fun elapsed op hop hviolation => ?_⟩
  · have helig := (hinv.row c hc).reversal (by rcases hp with hp | hp <;> rw [hp] <;> rfl)
    simp only [ProcessorCharge.reversalEligible, Bool.and_eq_true, decide_eq_true_eq] at helig
    exact ⟨Option.isSome_iff_ne_none.mp helig.1.1, helig.1.2, helig.2⟩
  · rcases (hinv.row c hc).identity hn with hp' | hp' <;> simp [hp] at hp'
  · have hnow : s.clock ≤ s.clock + elapsed := Int.le_add_of_nonneg_right (Int.natCast_nonneg _)
    have hkeeps := op.apply_keeps hinv hnow hop
    rw [hviolation] at hkeeps
    exact hkeeps.unstopped rfl

/-- A book in which every attempt is a host charge of ten dollars. -/
def hostChargeBook : AttemptBook where
  request i :=
    { id := i
      billingScopeId := 1
      subscriberId := 2
      gatewayAccountId := 3
      gatewayConfigurationId := 4
      requiredGatewayAccountMode := .live
      target := .hostCharge 5
      idempotencyKey := "host-charge"
      amount := { cents := 1000, currency := "USD" }
      gatewayOrderId := "order"
      paymentMethodId := 6
      createdAt := 0
      amount_fits := by simp [PaymentAttemptTarget.kind] }
  id_request _ := rfl

/-- A late approval of a closed attempt, whose charge the operator then refunds. -/
def refundedCharge : List (ℕ × LedgerOp) :=
  [(10, .observe 7 ⟨.failed, none, {}⟩ { transactionId := some "tx" } .externalReversalRequired 8),
    (10, .attest .ascii 7 ⟨.failed, none, {}⟩ ⟨8, 9, .refund, "tx", "refunded by hand"⟩)]

/-- The invariant holds of the refunded charge. -/
theorem charge_ledger_invariant_refundedCharge :
    (∀ step ∈ refundedCharge, step.2.fits hostChargeBook = true) ∧
      ∀ c ∈ (run (execLedger hostChargeBook) ⟨0, {}⟩ refundedCharge).ledger.charges,
        c.TimesMatch := by
  have hfits : ∀ step ∈ refundedCharge, step.2.fits hostChargeBook = true := by decide
  exact ⟨hfits, fun c hc =>
    ((charge_ledger_invariant hostChargeBook 0 refundedCharge hfits).2.2.1 c hc).2.2⟩

/-- The refunded charge has the time of its reversal, and still that at which the reversal became
required: two times are set, and not only the one of its progression. -/
theorem refundedCharge_has_two_times :
    ∃ c ∈ (run (execLedger hostChargeBook) ⟨0, {}⟩ refundedCharge).ledger.charges,
      c.progression = .externallyReversed ∧ c.externallyReversedAt = some 20 ∧
        ¬ (c.externalReversalRequiredAt ≠ none ↔ c.progression = .externalReversalRequired) := by
  decide +kernel

end SyrupRail
