import SyrupRail.Store.Effects

/-!
# Programs within the quiet frame

Every operation that neither reserves nor admits a charge, and that moves no subscription, stays
within `Quiet`. The proofs follow the programs: a rule for each statement, and the row of the
attempt where a parking needs it.
-/

namespace SyrupRail

open Transactions Tx

variable {now : Timestamp} {db : Db}

/-! ## Outcomes -/

/-- The writer of a resolution is quiet on every row. -/
theorem OutcomeResolutionCommand.writer_quiet (c : OutcomeResolutionCommand)
    (evidence : ProcessorEvidence) (a : PaymentAttempt) : QuietWriter a (c.writer evidence) := by
  refine AttemptWriter.quietWriter_of_isPlain ?_ a
  unfold OutcomeResolutionCommand.writer
  split_ifs
  · rfl
  · rfl

/-- An outcome that is not an approval is quiet. -/
theorem ensures_resolveLockedOutcome {newId : Id} {r : OutcomeReservation} {a : PaymentAttempt}
    {observed : ProcessorEvidence} {c : OutcomeResolutionCommand}
    (hindex : attemptIndexes db.attempts = true) (ha : a ∈ db.attempts) :
    Ensures (resolveLockedOutcome now newId r a observed c) db fun _ db' => Quiet now db db' := by
  unfold resolveLockedOutcome
  simp only []
  rw [ensures_ite]
  refine ⟨fun _ => ?_, fun _ => ensures_paymentResultForReservation fun _ _ => .refl now db⟩
  rw [ensures_bind]
  refine (ensures_writeAttempt hindex fun b _ _ => OutcomeResolutionCommand.writer_quiet _ _ b).mono
    fun _ db₁ h₁ => ?_
  rw [ensures_ite]
  refine ⟨fun _ => ?_, fun _ => ensures_paymentResultForReservation fun _ _ => h₁⟩
  rw [ensures_bind]
  refine (ensures_observeKnown (h₁.dimensions ▸ mem_dimensions ha)).mono fun _ db₂ h₂ => ?_
  exact ensures_paymentResultForReservation fun _ _ => h₁.trans h₂.quiet

/-- So is one of an attempt that is still to be locked. -/
theorem ensures_resolvePoolOutcome {newId : Id} {r : OutcomeReservation}
    {observed : ProcessorEvidence} {c : OutcomeResolutionCommand}
    (hindex : attemptIndexes db.attempts = true) :
    Ensures (resolvePoolOutcome now newId r observed c) db fun _ db' => Quiet now db db' := by
  rw [resolvePoolOutcome, ensures_bind]
  exact ensures_lockExpected fun _ ha _ => ensures_resolveLockedOutcome hindex ha

/-- A submission that is prepared again is quiet. -/
theorem ensures_restore {r : OutcomeReservation} (hindex : attemptIndexes db.attempts = true) :
    Ensures (restoreAdmittedAttemptForRetry now r) db fun _ db' => Quiet now db db' := by
  rw [restoreAdmittedAttemptForRetry, ensures_bind]
  refine ensures_lockExpected fun a ha _ => ?_
  rw [ensures_ite]
  refine ⟨fun _ => ?_, fun _ => ensures_paymentResultForReservation fun _ _ => .refl now db⟩
  rw [ensures_bind]
  refine (ensures_writeAttempt (w := .restore) hindex
    fun b _ _ => AttemptWriter.quietWriter_of_isPlain rfl b).mono fun _ db₁ h₁ => ?_
  exact ensures_paymentResultForReservation fun _ _ => h₁

/-! ## Approvals that are not applied -/

/-- A second approval is quiet. -/
theorem ensures_applyApprovedAgain {ids : NewIds} {a : PaymentAttempt}
    {evidence : ProcessorEvidence} (ha : a ∈ db.attempts) :
    Ensures (applyApprovedAgain now ids a evidence) db fun _ db' => Quiet now db db' := by
  rw [applyApprovedAgain, ensures_bind, ensures_get, ensures_ite]
  refine ⟨fun _ => ensures_throw, fun _ => ?_⟩
  rw [ensures_bind]
  exact (ensures_observeKnown (mem_dimensions ha)).mono fun _ _ h₁ => ensures_pure.mpr h₁.quiet

/-- The approval of a charge that has ended is quiet. -/
theorem ensures_applyTerminalCharge {ids : NewIds} {policy : SubscriptionPeriodExpiryPolicy}
    {r : SubscriptionChargeReservation} {a : PaymentAttempt} {evidence : ProcessorEvidence}
    (hindex : attemptIndexes db.attempts = true) (ha : a ∈ db.attempts) :
    Ensures (applyTerminalChargeApproval now ids policy r a evidence) db
      fun _ db' => Quiet now db db' := by
  rw [applyTerminalChargeApproval, ensures_bind]
  refine (ensures_observeKnown (mem_dimensions ha)).mono fun observation db₁ h₁ => ?_
  cases observation with
  | ownedByOtherAttempt => exact ensures_pure.mpr h₁.quiet
  | owned charge =>
    rw [ensures_bind, ensures_get, ensures_ite]
    refine ⟨fun _ => ensures_paymentResultForAttempt h₁.quiet, fun _ => ?_⟩
    rw [ensures_bind]
    refine (moveCharge_ledgerOnly _ _ _ db₁).mono fun _ db₂ h₂ => ?_
    have h₂ := h₁.trans h₂
    rw [ensures_bind]
    refine (ensures_parkObserved (by rwa [h₂.attempts]) (by rwa [h₂.attempts])).mono
      fun _ db₃ h₃ => ?_
    exact ensures_pure.mpr (h₂.quiet.trans h₃.1)

/-- The end of an enrollment's period is only read. -/
theorem ensures_initialExpiredPeriodEnd {policy : SubscriptionPeriodExpiryPolicy}
    {a : PaymentAttempt} {Q : Option Timestamp → Db → Prop} (h : ∀ t, Q t db) :
    Ensures (initialExpiredPeriodEnd policy a) db Q := by
  unfold initialExpiredPeriodEnd
  rw [ensures_ite]
  exact ⟨fun _ => ensures_read.mpr fun t _ => h t, fun _ => ensures_pure.mpr (h none)⟩

/-- The approval of an enrollment that has ended is quiet: it may be reopened. -/
theorem ensures_applyTerminalEnrollment {ids : NewIds} {policy : SubscriptionPeriodExpiryPolicy}
    {a : PaymentAttempt} {evidence : ProcessorEvidence} (h : MayPark a db) :
    Ensures (applyTerminalEnrollmentApproval now ids policy a evidence) db
      fun _ db' => Quiet now db db' := by
  rw [applyTerminalEnrollmentApproval, ensures_bind]
  refine (ensures_observeKnown (mem_dimensions h.2.1)).mono fun observation db₁ h₁ => ?_
  rw [ensures_bind, ensures_get, ensures_ite]
  refine ⟨fun _ => ensures_paymentResultForAttempt h₁.quiet, fun _ => ?_⟩
  rw [ensures_bind]
  refine ensures_initialExpiredPeriodEnd fun expiredPeriodEnd => ?_
  split
  · exact (ensures_parkExpiredPeriodApproval (h.of_ledgerOnly h₁)).mono
      fun _ _ hq => h₁.quiet.trans hq
  · rw [ensures_bind]
    refine (ensures_parkLockedAttempt (h.of_ledgerOnly h₁)).mono fun parked db₂ h₂ => ?_
    have h₂ := h₁.quiet.trans h₂
    cases observation with
    | ownedByOtherAttempt => exact ensures_pure.mpr h₂
    | owned charge =>
      rw [ensures_bind]
      exact (moveCharge_ledgerOnly _ _ _ db₂).mono fun _ _ h₃ =>
        ensures_pure.mpr (h₂.trans h₃.quiet)

/-! ## Compensation -/

/-- The compensation of a charge's approval is quiet. -/
theorem ensures_tryParkCharge {newId : Id} {policy : SubscriptionPeriodExpiryPolicy}
    {r : SubscriptionChargeReservation} {evidence : ProcessorEvidence} {message : String}
    (hindex : attemptIndexes db.attempts = true) :
    Ensures (tryParkChargeApproved now newId policy r evidence message) db
      fun _ db' => Quiet now db db' := by
  rw [tryParkChargeApproved, ensures_bind]
  refine ensures_lockExpected fun a ha _ => ?_
  rw [ensures_ite]
  refine ⟨fun _ => ?_, fun _ => ?_⟩
  · rw [ensures_bind]
    exact (ensures_observeKnown (mem_dimensions ha)).mono fun _ _ h₁ =>
      ensures_paymentResultForAttempt h₁.quiet
  rw [ensures_ite]
  refine ⟨fun _ => ?_, fun hterminal => ?_⟩
  · rw [ensures_bind]
    refine (ensures_observeKnown (mem_dimensions ha)).mono fun observation db₁ h₁ => ?_
    rw [ensures_bind]
    refine (ensures_parkObserved (by rwa [h₁.attempts]) (by rwa [h₁.attempts])).mono
      fun _ db₂ h₂ => ?_
    exact ensures_paymentResultForAttempt (h₁.quiet.trans h₂.1)
  · have hopen : a.status.isResolvable = true := by
      simpa [PaymentAttemptStatus.isTerminal_eq_not] using hterminal
    rw [ensures_bind]
    exact (ensures_parkCompensated ⟨hindex, ha, fun _ => hopen⟩).mono
      fun _ _ hq => ensures_paymentResultForAttempt hq

/-- The evidence of a charge's approval is quiet. -/
theorem ensures_observeCharge {newId : Id} {policy : SubscriptionPeriodExpiryPolicy}
    {r : SubscriptionChargeReservation} {evidence : ProcessorEvidence}
    (hindex : attemptIndexes db.attempts = true) :
    Ensures (observeChargeApproved now newId policy r evidence) db fun _ db' =>
      Quiet now db db' := by
  rw [observeChargeApproved, ensures_bind]
  refine ensures_lockExpected fun a ha _ => ?_
  rw [ensures_bind]
  refine (ensures_observeKnown (mem_dimensions ha)).mono fun observation db₁ h₁ => ?_
  rw [ensures_bind]
  refine (ensures_parkObserved (by rwa [h₁.attempts]) (by rwa [h₁.attempts])).mono
    fun _ db₂ h₂ => ?_
  exact ensures_pure.mpr (h₁.quiet.trans h₂.1)

/-- An attempt that an enrollment's reservation matches is no charge. -/
theorem SubscriptionEnrollmentReservation.isSubscriptionCharge_eq_false
    {r : SubscriptionEnrollmentReservation} {a : PaymentAttempt} (h : r.matchesAttempt a = true) :
    a.isSubscriptionCharge = false := by
  have hkind : a.kind = .subscriptionInitial := (of_decide_eq_true h).2.1
  simp [PaymentAttempt.isSubscriptionCharge, hkind]

/-- The compensation of an enrollment's approval is quiet. -/
theorem ensures_tryParkEnrollment {newId : Id} {policy : SubscriptionPeriodExpiryPolicy}
    {r : SubscriptionEnrollmentReservation} {evidence : ProcessorEvidence} {message : String}
    (hindex : attemptIndexes db.attempts = true) :
    Ensures (tryParkEnrollmentApproved now newId policy r evidence message) db
      fun _ db' => Quiet now db db' := by
  rw [tryParkEnrollmentApproved, ensures_bind]
  refine ensures_lockExpected fun a ha hm => ?_
  have hpark : MayPark a db :=
    ⟨hindex, ha, fun hc => by simp [r.isSubscriptionCharge_eq_false hm] at hc⟩
  rw [ensures_ite]
  refine ⟨fun _ => ?_, fun _ => ?_⟩
  · rw [ensures_bind]
    exact (ensures_observeKnown (mem_dimensions ha)).mono fun _ _ h₁ =>
      ensures_paymentResultForAttempt h₁.quiet
  rw [ensures_ite]
  refine ⟨fun _ => ?_, fun _ => ?_⟩
  · rw [ensures_bind]
    refine (ensures_observeKnown (mem_dimensions ha)).mono fun observation db₁ h₁ => ?_
    rw [ensures_bind, ensures_get, ensures_ite]
    refine ⟨fun _ => ?_, fun _ => ensures_paymentResultForAttempt h₁.quiet⟩
    rw [ensures_bind]
    refine ensures_initialExpiredPeriodEnd fun expiredPeriodEnd => ?_
    split
    · rw [ensures_bind]
      exact (ensures_parkExpiredPeriodApproval (hpark.of_ledgerOnly h₁)).mono
        fun _ _ hq => ensures_paymentResultForAttempt (h₁.quiet.trans hq)
    · exact ensures_paymentResultForAttempt h₁.quiet
  · rw [ensures_bind]
    refine ensures_initialExpiredPeriodEnd fun expiredPeriodEnd => ?_
    rw [ensures_bind]
    exact (ensures_parkCompensated hpark).mono fun _ _ hq => ensures_paymentResultForAttempt hq

/-- The evidence of an enrollment's approval is quiet. -/
theorem ensures_observeEnrollment {newId : Id} {policy : SubscriptionPeriodExpiryPolicy}
    {r : SubscriptionEnrollmentReservation} {evidence : ProcessorEvidence}
    (hindex : attemptIndexes db.attempts = true) :
    Ensures (observeEnrollmentApproved now newId policy r evidence) db
      fun _ db' => Quiet now db db' := by
  rw [observeEnrollmentApproved, ensures_bind]
  refine ensures_lockExpected fun a ha _ => ?_
  rw [ensures_bind]
  refine (ensures_observeKnown (mem_dimensions ha)).mono fun observation db₁ h₁ => ?_
  rw [ensures_bind]
  refine ensures_initialExpiredPeriodEnd fun expiredPeriodEnd => ?_
  rw [ensures_bind]
  refine (ensures_parkObserved (by rwa [h₁.attempts]) (by rwa [h₁.attempts])).mono
    fun _ db₂ h₂ => ?_
  exact ensures_pure.mpr (h₁.quiet.trans h₂.1)

/-! ## Reconciliation -/

/-- A statement on many attempts with a plain writer is quiet. -/
theorem ensures_writePlain {p : PaymentAttempt → Bool} (w : AttemptWriter) (hw : w.isPlain = true) :
    Ensures (onAttempts (writeAttempts now p w)) db fun _ db' => Quiet now db db' :=
  ensures_writeAttempts fun a _ _ => AttemptWriter.quietWriter_of_isPlain hw a

/-- An exact query is quiet. -/
theorem ensures_applyExactQuery {billingScopeId attemptId : Id}
    {observation : ExactQueryObservation} (hindex : attemptIndexes db.attempts = true) :
    Ensures (applyExactQuery now billingScopeId attemptId observation) db
      fun _ db' => Quiet now db db' := by
  rw [applyExactQuery, ensures_bind]
  refine ensures_requireAttempt fun a _ _ _ => ?_
  exact ensures_writeAttempt hindex fun b _ _ => AttemptWriter.quietWriter_of_isPlain rfl b

/-- A change of the ledger that keeps its charges is quiet. -/
theorem Quiet.of_ledger {ledger : ChargeLedger}
    (h : ChargesTraced now db.dimensions db.ledger.charges ledger.charges)
    (hattested : ChargesValid db.ledger.charges → db.ledger.Attested → ledger.Attested) :
    Quiet now db { db with ledger } :=
  ⟨⟨_, _, rfl⟩, h.toChargesKept, List.forall₂_same.mpr fun a _ => .refl now a, id,
    fun hvalid hlinked => hlinked.of_ledger hvalid h (hattested hvalid hlinked.attested), h.dated⟩

/-- The classification of a pending charge is quiet. -/
theorem ensures_classifyPending {chargeId : Id} :
    Ensures (classifyPendingProcessorCharge now chargeId) db fun _ db' => Quiet now db db' := by
  rw [classifyPendingProcessorCharge, ensures_bind, ensures_get]
  split
  · exact ensures_pure.mpr (.refl now db)
  · rw [ensures_bind]
    refine ensures_requireAttempt fun a _ _ _ => ?_
    rw [ensures_onLedger]
    intro ledger _ h
    obtain ⟨l, hl, hpair⟩ := map_eq_ok.mp h
    obtain ⟨rfl, -⟩ := Prod.mk.inj hpair
    refine .of_ledger (classifyCharge_traced hl) fun hvalid hattested => ?_
    have htraced : ChargesTraced now [] db.ledger.charges l.charges := classifyCharge_traced hl
    exact hattested.of_kept hvalid htraced.toChargesKept (classifyCharge_attestations hl)

/-- The row of the last-resort write is one of its attempt, at that time. -/
theorem dimensions_lockFreeCharge (now : Timestamp) (newId : Id) (a : PaymentAttempt)
    (evidence : ProcessorEvidence) (reverse : Bool) (role : ProcessorChargeRole) :
    (lockFreeCharge now newId a evidence reverse role).dimensions = a.chargeDimensions ∧
      (lockFreeCharge now newId a evidence reverse role).createdAt = now := by
  unfold lockFreeCharge
  split_ifs <;> exact ⟨rfl, rfl⟩

/-- The last-resort write of approved evidence only adds a charge. -/
theorem ensures_persistEvidence {newId billingScopeId attemptId : Id} {evidence : ProcessorEvidence}
    {reverse : Bool} :
    Ensures (persistApprovedEvidenceWithoutAttemptLock now newId billingScopeId attemptId evidence
      reverse) db fun _ db' => LedgerOnly now db db' := by
  rw [persistApprovedEvidenceWithoutAttemptLock, ensures_bind]
  refine ensures_requireAttempt fun a ha _ _ => ?_
  rw [ensures_onCharges]
  intro charges _ h
  refine ⟨charges, rfl, ?_⟩
  have unchanged (h : (Except.ok (db.ledger.charges, ()) : Except StoreError _) =
    .ok (charges, ())) :
      ChargesTraced now db.dimensions db.ledger.charges charges := by
    obtain ⟨rfl, -⟩ := Prod.mk.inj (Except.ok.inj h)
    exact .refl _
  simp only [] at h
  have hrow := dimensions_lockFreeCharge now newId a evidence reverse
    (if db.ledger.charges.any (·.attemptId = a.id) then .additional else .primary)
  generalize lockFreeCharge now newId a evidence reverse
    (if db.ledger.charges.any (·.attemptId = a.id) then .additional else .primary) = row
    at h hrow
  split at h
  · cases h
  · rename_i hchecks
    split at h
    · rename_i hindexes
      obtain ⟨rfl, -⟩ := Prod.mk.inj (Except.ok.inj h)
      refine chargesTraced_cons ⟨fun hvalid => ⟨fun c hc => ?_, hindexes⟩,
        fun _ c hc _ => List.mem_cons_of_mem _ hc⟩ (hrow.1 ▸ mem_dimensions ha) hrow.2
      rcases List.mem_cons.mp hc with rfl | hc
      · simpa using hchecks
      · exact hvalid.checks c hc
    · split at h
      · exact unchanged h
      · split at h
        · exact unchanged h
        · cases h

/-- The charge of an observation that was not a replay takes its first state code. -/
theorem ensures_recordInitialStateCode {chargeId : Id} {evidence : ProcessorEvidence}
    (hrow : ∀ c ∈ db.ledger.charges, c.id = chargeId → c.progression ≠ .externallyReversed) :
    Ensures (recordInitialStateCode now chargeId evidence) db fun _ db' =>
      LedgerOnly now db db' := by
  rw [recordInitialStateCode, ensures_onCharges]
  intro charges _ h
  refine ⟨charges, rfl, ?_⟩
  split at h
  · cases h
  · rename_i c hfind
    obtain ⟨hc, hid⟩ := Table.findBy_some hfind
    simp only [] at h
    split at h
    · obtain ⟨rfl, -⟩ := Prod.mk.inj (Except.ok.inj h)
      exact .refl _
    · obtain ⟨rows, hrows, hpair⟩ := map_eq_ok.mp h
      obtain ⟨rfl, -⟩ := Prod.mk.inj hpair
      exact transitionProcessorCharge_traced (by simpa using (hrow c hc hid).symm) hrows

/-- An observation by the host only writes charges. -/
theorem ensures_observeInTransaction {newId billingScopeId attemptId : Id} {gatewayOrderId : String}
    {evidence : ProcessorEvidence} {requested : ProcessorChargeProgression}
    (hvalid : ChargesValid db.ledger.charges) :
    Ensures (observeProcessorChargeInTransaction now newId billingScopeId attemptId gatewayOrderId
      evidence requested) db fun _ db' => LedgerOnly now db db' := by
  rw [observeProcessorChargeInTransaction, ensures_bind]
  refine ensures_requireAttempt fun a ha _ _ => ?_
  rw [ensures_ite]
  refine ⟨fun _ => ensures_throw, fun _ => ?_⟩
  rw [ensures_bind]
  refine ensures_observe.mono fun observation db₁ hpost => ?_
  obtain ⟨charges, hdb, h₁⟩ := hpost
  have hledger : LedgerOnly now db db₁ := hdb ▸ h₁.ledgerOnly (mem_dimensions ha)
  cases observation with
  | ownedByOtherAttempt => exact ensures_pure.mpr hledger
  | owned charge =>
    simp only []
    split
    · exact ensures_pure.mpr hledger
    · rename_i hreplay
      refine (ensures_recordInitialStateCode fun c hc hid => ?_).mono fun _ _ h₂ => hledger.trans h₂
      -- The observed charge is the only one with its id, and it is a new one.
      obtain ⟨c₁, hc₁, hid₁, -, -, -, hnew⟩ := h₁.owned charge rfl
      rw [hdb] at hc
      obtain rfl := (h₁.kept.valid hvalid).eq_of_id hc hc₁ (hid.trans hid₁.symm)
      exact hnew hvalid (by simpa using hreplay)

/-! ## The operator -/

/-- An attestation is quiet. -/
theorem ensures_attestReversal {rules : TextRules} {t : ReversalAttestation}
    (hindex : attemptIndexes db.attempts = true) :
    Ensures (attestReversal rules now t) db fun _ db' => Quiet now db db' := by
  rw [attestReversal, ensures_bind, ensures_get]
  split
  · exact ensures_pure.mpr (.refl now db)
  · rw [ensures_bind, ensures_read]
    intro found _
    cases found with
    | none => exact ensures_pure.mpr (.refl now db)
    | some a =>
      rw [ensures_bind, ensures_onLedger]
      intro ledger outcome hattest
      have h₁ : Quiet now db { db with ledger } :=
        .of_ledger (attestExternalReversal_traced hattest) (attestExternalReversal_attested hattest)
      rw [ensures_ite]
      refine ⟨fun _ => ?_, fun _ => ensures_pure.mpr h₁⟩
      have hindex₁ : attemptIndexes ({ db with ledger } : Db).attempts = true := hindex
      rw [ensures_bind]
      refine (ensures_writeAttempt hindex₁ fun b _ _ => ?_).mono
        fun _ _ h₂ => ensures_pure.mpr (h₁.trans h₂)
      exact AttemptWriter.quietWriter_of_isPlain rfl b

/-! ## Updates of a method -/

/-- The attempt of an update charges no period. -/
theorem SubscriptionPaymentMethodReplacement.isSubscriptionCharge_eq_false
    {r : SubscriptionPaymentMethodReplacement} {a : PaymentAttempt}
    (h : r.matchesAttempt a = true) : a.isSubscriptionCharge = false := by
  have hkind : a.kind = .subscriptionPaymentMethodUpdate := (of_decide_eq_true h).2.1
  simp [PaymentAttempt.isSubscriptionCharge, hkind]

/-- An attempt that charges no period may be parked. -/
theorem MayPark.of_replacement {r : SubscriptionPaymentMethodReplacement} {a : PaymentAttempt}
    (hindex : attemptIndexes db.attempts = true) (ha : a ∈ db.attempts)
    (hm : r.matchesAttempt a = true) : MayPark a db := by
  refine ⟨hindex, ha, fun hc => ?_⟩
  simp [r.isSubscriptionCharge_eq_false hm] at hc

/-- The parking of an update's approval is quiet. -/
theorem ensures_parkLockedReplacement {newId : Id} {a : PaymentAttempt}
    {evidence : ProcessorEvidence} {message : String} (h : MayPark a db) :
    Ensures (parkLockedReplacementApproved now newId a evidence message) db
      fun _ db' => Quiet now db db' := by
  have observed (progression : ProcessorChargeProgression) :
      Ensures (do
        let _ ← observe now newId a evidence progression
        paymentResultForAttempt a) db fun _ db' => Quiet now db db' := by
    rw [ensures_bind]
    exact (ensures_observeKnown (mem_dimensions h.2.1)).mono
      fun _ _ h₁ => ensures_paymentResultForAttempt h₁.quiet
  unfold parkLockedReplacementApproved
  rw [ensures_ite]
  refine ⟨fun _ => observed .applied, fun _ => ?_⟩
  rw [ensures_ite]
  refine ⟨fun _ => observed .reconciliationRequired, fun _ => ?_⟩
  rw [ensures_bind]
  refine (ensures_observeKnown (mem_dimensions h.2.1)).mono fun observation db₁ h₁ => ?_
  have hquiet₁ : Quiet now db db₁ := h₁.quiet
  have hpark (text : String) :
      Ensures (do
        let parked ← parkLockedAttempt now a evidence none text
        paymentResultForAttempt parked) db₁ fun _ db' => Quiet now db db' := by
    rw [ensures_bind]
    exact (ensures_parkLockedAttempt (h.of_ledgerOnly h₁)).mono
      fun _ _ hq => ensures_paymentResultForAttempt (hquiet₁.trans hq)
  cases observation with
  | owned charge => exact hpark message
  | ownedByOtherAttempt => exact hpark ownedByOtherAttemptText

/-- The compensation of an update's approval is quiet. -/
theorem ensures_tryParkReplacement {newId : Id} {r : SubscriptionPaymentMethodReplacement}
    {evidence : ProcessorEvidence} {message : String} (hindex : attemptIndexes db.attempts = true) :
    Ensures (tryParkReplacementApproved now newId r evidence message) db
      fun _ db' => Quiet now db db' := by
  rw [tryParkReplacementApproved, ensures_bind]
  exact ensures_lockExpected fun a ha hm =>
    ensures_parkLockedReplacement (.of_replacement hindex ha hm)

/-- The evidence of an update's approval is quiet. -/
theorem ensures_observeReplacement {newId : Id} {r : SubscriptionPaymentMethodReplacement}
    {evidence : ProcessorEvidence} :
    Ensures (observeReplacementApproved now newId r evidence) db fun _ db' => Quiet now db db' := by
  rw [observeReplacementApproved, ensures_bind]
  refine ensures_lockExpected fun a ha _ => ?_
  rw [ensures_bind]
  exact (ensures_observeKnown (mem_dimensions ha)).mono fun _ _ h₁ => ensures_pure.mpr h₁.quiet

/-- A conflicting approval of a reconciliation is quiet. -/
theorem ensures_recordConflicting {newId pendingId : Id} {r : SubscriptionPaymentMethodReplacement}
    {a : PaymentAttempt} {evidence : ProcessorEvidence} (hindex : attemptIndexes db.attempts = true)
    (ha : a ∈ db.attempts) :
    Ensures (recordConflictingReplacement now newId pendingId r a evidence) db
      fun _ db' => Quiet now db db' := by
  rw [recordConflictingReplacement, ensures_bind]
  refine (ensures_observeKnown (mem_dimensions ha)).mono fun _ db₁ h₁ => ?_
  have hquiet₁ : Quiet now db db₁ := h₁.quiet
  exact (ensures_resolveLockedOutcome (hquiet₁.indexes hindex) (h₁.attempts ▸ ha)).mono
    fun _ _ h₂ => hquiet₁.trans h₂

/-- The compensation of a reconciled approval is quiet. -/
theorem ensures_tryParkReconciled {newId pendingId : Id} {diagnosed : Bool}
    {r : SubscriptionPaymentMethodReplacement} {evidence : ProcessorEvidence} {message : String}
    (hindex : attemptIndexes db.attempts = true) :
    Ensures (tryParkReconciledReplacement now newId pendingId diagnosed r evidence message) db
      fun _ db' => Quiet now db db' := by
  rw [tryParkReconciledReplacement, ensures_bind]
  refine ensures_lockExpected fun a ha hm => ?_
  have hpark := MayPark.of_replacement hindex ha hm
  rw [ensures_ite]
  refine ⟨fun _ => ensures_recordConflicting hindex ha, fun _ => ?_⟩
  rw [ensures_ite]
  exact ⟨fun _ => ensures_parkLockedReplacement hpark, fun _ => ensures_parkLockedReplacement hpark⟩

/-! ## Writers of other attempts -/

/-- A writer on a host charge is quiet. -/
theorem ensures_writeOther {attemptId : Id} {w : AttemptWriter}
    (hindex : attemptIndexes db.attempts = true) :
    Ensures (writeOther now attemptId w) db fun _ db' => Quiet now db db' := by
  rw [writeOther, ensures_bind, ensures_get, ensures_ite]
  refine ⟨fun _ => ensures_throw, fun hother => ?_⟩
  refine ensures_writeAttempt hindex fun a ha hid => ?_
  have hkind : a.kind = .hostCharge := by
    by_contra hk
    exact hother (List.any_eq_true.mpr ⟨a, ha, by simpa [hid] using hk⟩)
  have hcharge : a.isSubscriptionCharge = false := by
    simp [PaymentAttempt.isSubscriptionCharge, hkind]
  have hof : a.isOfSubscription = false := by
    simp [PaymentAttempt.isOfSubscription, hcharge, hkind]
  refine ⟨⟨fun hk => ?_, fun hc => ?_, fun hc => ?_, fun _ _ _ _ hc => ?_⟩, fun hk => ?_⟩
  · rw [hkind] at hk
    cases hk
  · simp [hof] at hc
  · simp [hcharge] at hc
  · simp [hof] at hc
  · rw [hkind] at hk
    cases hk

/-- A writer on an enrollment that does not approve it is quiet. -/
theorem ensures_writeEnrollment {billingScopeId attemptId : Id} {w : AttemptWriter}
    (hindex : attemptIndexes db.attempts = true) (hw : w.approves = false) :
    Ensures (writeEnrollment now billingScopeId attemptId w) db fun _ db' => Quiet now db db' := by
  rw [writeEnrollment, ensures_bind]
  refine ensures_requireAttempt fun a ha _ _ => ?_
  rw [ensures_ite]
  refine ⟨fun hk => ensures_writeAttempt hindex fun b hb hid => ?_, fun _ => ensures_throw⟩
  obtain rfl := nodup_id_of_attemptIndexes hindex hb ha hid
  have hcharge : b.isSubscriptionCharge = false := by
    simp [PaymentAttempt.isSubscriptionCharge, hk]
  have hof : b.isOfSubscription = false := by
    simp [PaymentAttempt.isOfSubscription, hcharge, hk]
  refine ⟨⟨fun _ => hw, fun hc => ?_, fun hc => ?_, fun _ _ _ _ hc => ?_⟩, fun _ => hw⟩
  · simp [hof] at hc
  · simp [hcharge] at hc
  · simp [hof] at hc

/-! ## Stale attempts -/

/-- The expiry of stale charges is quiet. -/
theorem ensures_failStaleCharges {subscriptionId : Id} :
    Ensures (failStaleUnsubmittedSubscriptionCharges now subscriptionId) db
      fun _ db' => Quiet now db db' :=
  ensures_writePlain _ rfl

/-- The expiry of stale method updates is quiet. -/
theorem ensures_failStaleMethodUpdates {keepResolvedAt : Bool} {subscriptionId : Id} :
    Ensures (failStaleUnsubmittedPaymentMethodUpdates now keepResolvedAt subscriptionId) db
      fun _ db' => Quiet now db db' :=
  ensures_writePlain _ rfl

/-- Both expiries are quiet. -/
theorem ensures_expireStaleAttempts {subscriptionId : Id} :
    Ensures (expireStaleAttempts now subscriptionId) db fun _ db' => Quiet now db db' := by
  rw [expireStaleAttempts, ensures_bind]
  refine ensures_failStaleMethodUpdates.mono fun _ _ h₁ => ?_
  exact ensures_failStaleCharges.mono fun _ _ h₂ => h₁.trans h₂

end SyrupRail
