import SyrupRail.Charge.Ledger
import SyrupRail.Store.Periods
import SyrupRail.Store.Statements

/-!
# The record of a store

The tables are also the account of what happened: who asked for what, which charges the processor
made, what an operator attested, what was granted, and what the host was told. `RecordKept` is what
a later store owes to an earlier one: rows stay, with the columns that say what they are a record
of, and the logs only grow. Not every column is such a one. Lifecycle reports move the settlement of
an approved attempt, and the deletion of a subscriber's billing data clears the processor's texts
and the card of attempts, approved or not; the approval stays. Each statement keeps the record, so a
whole run does.
-/

namespace SyrupRail

open Transactions Tx

/-! ## Rows that stay -/

/-- A later row of the same attempt: its request stays, but for the settlement, and of an approved
one only the settlement and the texts of the processor change. -/
structure PaymentAttempt.Endures (a a' : PaymentAttempt) : Prop where
  request : a.SameRequest { a' with lifecycle := a.lifecycle }
  approved : a.status = .approved → a.Revised a'

/-- A later row of the same charge: its attempt, its role, and its evidence stay, but that a missing
transaction may be filled in. -/
structure ProcessorCharge.Endures (c c' : ProcessorCharge) : Prop where
  continues : c.Continues c'
  evolves : c.Evolves c'

/-- A later row of the same grant: its terms stay, and so does its revocation. -/
structure SubscriptionGrant.Endures (g g' : SubscriptionGrant) : Prop where
  terms : g = { g' with
    revokedAt := g.revokedAt, revokedByActorId := g.revokedByActorId
    revocationReason := g.revocationReason }
  revoked : g.revokedAt ≠ none → g' = g

section Rows

namespace PaymentAttempt.Endures

variable {a a' a'' : PaymentAttempt}

/-- A row that stays as it is endures. -/
theorem refl (a : PaymentAttempt) : a.Endures a := ⟨rfl, fun _ => .refl a⟩

/-- What endures twice endures. -/
theorem trans (h : a.Endures a') (h' : a'.Endures a'') : a.Endures a'' where
  request := by
    have hlater : ({ a'' with lifecycle := a.lifecycle } : PaymentAttempt).request =
        ({ a' with lifecycle := a.lifecycle } : PaymentAttempt).request :=
      congrArg (fun r : AttemptRequest => { r with lifecycle := a.lifecycle }) h'.request
    exact hlater.trans h.request
  approved happroved := by
    have hrevised := h.approved happroved
    exact hrevised.trans (h'.approved (hrevised.status.trans happroved))

/-- A row that is revised endures. -/
theorem of_revised (h : a.Revised a') : a.Endures a' where
  request := by
    rw [h.row]
    rfl
  approved _ := h

/-- The attempt is the same one. -/
theorem id (h : a.Endures a') : a'.id = a.id := h.request.id

/-- Its target stays. -/
theorem target (h : a.Endures a') : a'.target = a.target := h.request.target

/-- Its kind stays. -/
theorem kind (h : a.Endures a') : a'.kind = a.kind := h.request.kind

/-- Its amount stays. -/
theorem amount (h : a.Endures a') : a'.amount = a.amount := h.request.amount

/-- Its order at the gateway stays. -/
theorem gatewayOrderId (h : a.Endures a') : a'.gatewayOrderId = a.gatewayOrderId :=
  congrArg AttemptRequest.gatewayOrderId h.request

/-- Its scope stays. -/
theorem billingScopeId (h : a.Endures a') : a'.billingScopeId = a.billingScopeId :=
  congrArg AttemptRequest.billingScopeId h.request

/-- Its subscriber stays. -/
theorem subscriberId (h : a.Endures a') : a'.subscriberId = a.subscriberId :=
  congrArg AttemptRequest.subscriberId h.request

/-- Its gateway account stays. -/
theorem gatewayAccountId (h : a.Endures a') : a'.gatewayAccountId = a.gatewayAccountId :=
  congrArg AttemptRequest.gatewayAccountId h.request

end PaymentAttempt.Endures

/-- A charge that stays as it is endures. -/
theorem ProcessorCharge.Endures.refl (c : ProcessorCharge) : c.Endures c := ⟨.refl c, .refl c⟩

/-- What endures twice endures. -/
theorem ProcessorCharge.Endures.trans {c c' c'' : ProcessorCharge} (h : c.Endures c')
    (h' : c'.Endures c'') : c.Endures c'' :=
  ⟨h.continues.trans h'.continues, h.evolves.trans h'.evolves⟩

/-- A grant that stays as it is endures. -/
theorem SubscriptionGrant.Endures.refl (g : SubscriptionGrant) : g.Endures g := ⟨rfl, fun _ => rfl⟩

/-- What endures twice endures. -/
theorem SubscriptionGrant.Endures.trans {g g' g'' : SubscriptionGrant} (h : g.Endures g')
    (h' : g'.Endures g'') : g.Endures g'' := by
  constructor
  · have hterms := h.terms
    rw [h'.terms] at hterms
    exact hterms
  · intro hrevoked
    have hg := h.revoked hrevoked
    rw [← hg] at hrevoked ⊢
    exact h'.revoked hrevoked

/-- A grant keeps its identity. -/
theorem SubscriptionGrant.Endures.id {g g' : SubscriptionGrant} (h : g.Endures g') :
    g'.id = g.id := by
  rw [h.terms]

/-- A note is only left on an unknown attempt. -/
theorem exactQueryDecision_eq_note {now : Timestamp} {observation : ExactQueryObservation}
    {a : PaymentAttempt} {message : String}
    (h : exactQueryDecision now observation a = some (.note message)) : a.status = .unknown := by
  unfold exactQueryDecision at h
  split at h
  · cases h
  · dsimp only at h
    split at h
    · split_ifs at h with _ _ _ hunknown
      · cases h
      · cases h
      · cases h
      · exact hunknown
    · split_ifs at h
      cases h

/-- An approved row matches no writer but the claim, which only renews its time. -/
theorem AttemptWriter.write_approved {now : Timestamp} {w : AttemptWriter} {a a' : PaymentAttempt}
    (h : w.write now a = .ok a') (happroved : a.status = .approved) :
    a' = { a with updatedAt := a'.updatedAt } := by
  have hunmatched {m : Bool} {new : PaymentAttempt} (hm : m = false)
      (h : orUnchanged a (PaymentAttempt.update now m new) = .ok a') :
      a' = { a with updatedAt := a'.updatedAt } := by
    subst hm
    obtain rfl : a = a' := by simpa [orUnchanged, PaymentAttempt.update, Except.map] using h
    rfl
  have hmissed {m : Bool} {new : PaymentAttempt} (hm : m = false)
      (h : requireOneRow (PaymentAttempt.update now m new) = .ok a') : False := by
    subst hm
    simp [requireOneRow, PaymentAttempt.update] at h
  have hprepared : a.isPrepared = false := by simp [PaymentAttempt.isPrepared, happroved]
  have hstale : a.isStaleUnsubmitted now = false := by
    simp [PaymentAttempt.isStaleUnsubmitted, happroved]
  cases w with
  | persist e t =>
    refine (hmissed ?_ h).elim
    cases t <;> simp [AttemptTransition.accepts, happroved, PaymentAttemptStatus.isResolvable]
  | admitPrepared => exact (hmissed hprepared h).elim
  | reject code message => exact hunmatched hprepared h
  | rejectInitial message => exact (hmissed hprepared h).elim
  | restore => exact (hmissed (by simp [happroved]) h).elim
  | resolveNotSubmitted e s c =>
    obtain ⟨a₁, hfirst, -⟩ := bind_eq_ok.mp h
    have hrow := requireOneRow_eq_ok hfirst
    simp [PaymentAttempt.update, AttemptTransition.accepts, happroved,
      PaymentAttemptStatus.isResolvable] at hrow
  | expireSubscriptionCharge => exact hunmatched (by simp [hstale]) h
  | expirePaymentMethodUpdate keep => exact hunmatched (by simp [hstale]) h
  | expireInitial => exact hunmatched (by simp [hstale]) h
  | expireHostCharge => exact hunmatched (by simp [hstale]) h
  | observe observation =>
    simp only [write, applyExactQueryObservation] at h
    split at h
    · obtain rfl := Except.ok.inj h
      rfl
    · exact hunmatched (by simp [happroved]) h
    · exact hunmatched (by simp [happroved, PaymentAttemptStatus.isResolvable]) h
    · rename_i hnote
      have hunknown := exactQueryDecision_eq_note hnote
      simp [happroved] at hunknown
  | claim =>
    rcases orUnchanged_eq_ok h with rfl | hrow
    · rfl
    · have hreview : ({ a with updatedAt := now } : PaymentAttempt).setReviewRequiredAt now =
          { a with updatedAt := now } := by simp [PaymentAttempt.setReviewRequiredAt, happroved]
      simp only [PaymentAttempt.update, hreview, if_true] at hrow
      split_ifs at hrow
      obtain rfl := Option.some.inj (Except.ok.inj hrow)
      rfl
  | manualFailure e => exact (hmissed (by simp [happroved]) h).elim
  | attest code =>
    simp only [write, failReversedAttempt, happroved] at h
    obtain rfl : a = a' := by simpa [PaymentAttemptStatus.isTerminal_eq_not,
      PaymentAttemptStatus.isResolvable] using h
    rfl

/-- A writer's row endures. -/
theorem AttemptWriter.endures_of_write {now : Timestamp} {w : AttemptWriter} {a a' : PaymentAttempt}
    (h : w.write now a = .ok a') : a.Endures a' := by
  constructor
  · have hsame : a.SameRequest a' := by
      rcases AttemptWriter.write_stores h with rfl | hstores
      · rfl
      · exact hstores.same
    exact congrArg (fun r : AttemptRequest => { r with lifecycle := a.lifecycle }) hsame
  · intro happroved
    rw [w.write_approved h happroved]
    exact ⟨rfl, .refl _⟩

end Rows

/-! ## Charges that stay -/

/-- Every charge is still there. -/
def ChargesEndure (charges charges' : List ProcessorCharge) : Prop :=
  ∀ c ∈ charges, ∃ c' ∈ charges', c.Endures c'

section Charges

variable {now : Timestamp} {charges charges' : List ProcessorCharge}

/-- Rows that stay as they are endure. -/
theorem ChargesEndure.refl (charges : List ProcessorCharge) : ChargesEndure charges charges :=
  fun c hc => ⟨c, hc, .refl c⟩

/-- An insertion keeps the rows. -/
theorem ChargesEndure.cons (row : ProcessorCharge) (charges : List ProcessorCharge) :
    ChargesEndure charges (row :: charges) :=
  fun c hc => ⟨c, List.mem_cons_of_mem _ hc, .refl c⟩

/-- An update keeps the rows. -/
theorem ChargesEndure.update {p : ProcessorCharge → Bool} {f : ProcessorCharge → ProcessorCharge}
    (hf : ∀ c ∈ charges, p c = true → c.Endures (f c)) :
    ChargesEndure charges (Table.updateWhere p f charges) := by
  intro c hc
  refine ⟨_, Table.mem_updateWhere.mpr ⟨c, hc, rfl⟩, ?_⟩
  split_ifs with hp
  · exact hf c hc hp
  · exact .refl c

/-- A stored update keeps the rows. -/
theorem ChargesEndure.of_store {p : ProcessorCharge → Bool} {f : ProcessorCharge → ProcessorCharge}
    (h : storeCharges (Table.updateWhere p f charges) = .ok charges')
    (hf : ∀ c ∈ charges, p c = true → c.Endures (f c)) : ChargesEndure charges charges' := by
  obtain ⟨rfl, -⟩ := chargesValid_of_storeCharges h
  exact .update hf

/-- A progression changes nothing that the charge is a record of. -/
theorem ProcessorCharge.endures_transitioned (now : Timestamp)
    (progression : ProcessorChargeProgression) (update : ChargeStateCodeUpdate)
    (c : ProcessorCharge) :
    c.Endures (c.transitioned now progression update) :=
  ⟨⟨rfl, rfl, rfl, fun _ => rfl⟩, rfl, .inl rfl⟩

/-- An insertion, or a replay, keeps the rows. -/
theorem insertObservedCharge_endures {newId : Id} {a : PaymentAttempt}
    {evidence : ProcessorEvidence} {role : ProcessorChargeRole}
    {progression : ProcessorChargeProgression} {o : ObservedCharge}
    (h : insertObservedCharge now newId a evidence role progression charges = .ok (charges', o)) :
    ChargesEndure charges charges' := by
  simp only [insertObservedCharge] at h
  split_ifs at h
  · obtain ⟨_, -, hpair⟩ := map_eq_ok.mp h
    obtain ⟨rfl, -⟩ := Prod.mk.inj hpair
    exact .refl _
  · obtain ⟨rows, hstore, hpair⟩ := map_eq_ok.mp h
    obtain ⟨rfl, -⟩ := Prod.mk.inj hpair
    obtain ⟨rfl, -⟩ := chargesValid_of_storeCharges hstore
    exact .cons _ _

/-- An identification fills in the transaction of the charge that has none. -/
theorem identifyTransactionless_endures {a : PaymentAttempt} {evidence : ProcessorEvidence}
    {tx : String} {requested : ProcessorChargeProgression} {record : ChargeRecord}
    (hvalid : ChargesValid charges)
    (h : identifyTransactionless now a evidence tx requested charges =
      .ok (some (charges', record))) :
    ChargesEndure charges charges' := by
  unfold identifyTransactionless at h
  split at h
  · cases h
  · rename_i c hfind
    split_ifs at h
    · simp only [map_eq_ok, Option.some.injEq, Prod.mk.injEq] at h
      obtain ⟨rows, hrows, rfl, -⟩ := h
      obtain ⟨rows₁, hfirst, hsecond⟩ := bind_eq_ok.mp hrows
      have hc := List.mem_of_find?_eq_some hfind
      have hnone : c.attemptId = a.id ∧ c.evidence.transactionId = none := by
        simpa using List.find?_some hfind
      have hidentified : ChargesEndure charges rows₁ := by
        refine .of_store hfirst fun c' hc' hid => ?_
        obtain rfl := hvalid.eq_of_id hc' hc (of_decide_eq_true hid)
        exact ⟨⟨rfl, rfl, rfl, fun htx => absurd hnone.2 htx⟩, rfl, .inr ⟨hnone.2, tx, rfl⟩⟩
      have hprogressed : ChargesEndure rows₁ rows :=
        .of_store hsecond fun c' _ _ => ⟨⟨rfl, rfl, rfl, fun _ => rfl⟩, rfl, .inl rfl⟩
      intro c₀ hc₀
      obtain ⟨c₁, hc₁, h₁⟩ := hidentified c₀ hc₀
      obtain ⟨c₂, hc₂, h₂⟩ := hprogressed c₁ hc₁
      exact ⟨c₂, hc₂, h₁.trans h₂⟩
    · cases h

/-- An observation keeps the rows. -/
theorem observeProcessorCharge_endures {newId : Id} {a : PaymentAttempt}
    {evidence : ProcessorEvidence} {requested : ProcessorChargeProgression} {o : ObservedCharge}
    (hvalid : ChargesValid charges)
    (h : observeProcessorCharge now newId a evidence requested charges = .ok (charges', o)) :
    ChargesEndure charges charges' := by
  simp only [observeProcessorCharge] at h
  split at h
  · exact insertObservedCharge_endures h
  · split at h
    · obtain ⟨rfl, -⟩ := Prod.mk.inj (Except.ok.inj h)
      exact .refl _
    · split at h
      · cases h
      · rename_i hidentified
        obtain ⟨rfl, -⟩ := Prod.mk.inj (Except.ok.inj h)
        exact identifyTransactionless_endures hvalid hidentified
      · exact insertObservedCharge_endures h

/-- A classification keeps the rows. -/
theorem classifyCharge_endures {a : PaymentAttempt} {chargeId : Id} {l l' : ChargeLedger}
    (h : classifyCharge now a chargeId l = .ok l') : ChargesEndure l.charges l'.charges := by
  unfold classifyCharge at h
  split at h
  · obtain rfl := Except.ok.inj h
    exact .refl _
  · split_ifs at h
    obtain ⟨⟨progression, code⟩, -, h⟩ := bind_eq_ok.mp h
    obtain ⟨rows, hrows, h⟩ := bind_eq_ok.mp h
    obtain rfl := Except.ok.inj h
    unfold transitionPendingCharge at hrows
    split_ifs at hrows
    exact .of_store hrows fun c _ _ => c.endures_transitioned _ _ _

/-- An attestation keeps the charges, and adds itself to the attestations. -/
theorem attestExternalReversal_endures {rules : TextRules} {a : PaymentAttempt}
    {t : ReversalAttestation} {l l' : ChargeLedger} {outcome : ExternalReversalAttestationOutcome}
    (h : attestExternalReversal rules now a t l = .ok (l', outcome)) :
    ChargesEndure l.charges l'.charges ∧ l.attestations <:+ l'.attestations := by
  rcases attestExternalReversal_eq_ok h with ⟨-, rfl⟩ | ⟨-, c, hc⟩
  · exact ⟨.refl _, List.suffix_refl _⟩
  · refine ⟨.of_store hc.store fun c _ _ => ⟨⟨rfl, rfl, rfl, fun _ => rfl⟩, rfl, .inl rfl⟩, ?_⟩
    rw [hc.attestations]
    exact List.suffix_cons _ _

end Charges

/-! ## The record -/

/-- The keys that tell the rows of the record apart. -/
structure Db.Keyed (db : Db) : Prop where
  attempts : attemptIndexes db.attempts = true
  charges : ChargesValid db.ledger.charges
  grants : (db.grants.map (·.id)).Nodup

/-- What a later store keeps of the record of an earlier one. -/
structure RecordKept (db db' : Db) : Prop where
  attempts : ∀ a ∈ db.attempts, ∃ a' ∈ db'.attempts, a.Endures a'
  charges : ChargesEndure db.ledger.charges db'.ledger.charges
  attestations : db.ledger.attestations <:+ db'.ledger.attestations
  subscriptions : ∀ s ∈ db.subscriptions, ∃ s' ∈ db'.subscriptions, s.SameOwner s'
  grants : ∀ g ∈ db.grants, ∃ g' ∈ db'.grants, g.Endures g'
  events : db.events <+: db'.events

section Record

variable {W : AttemptWriter → Prop} {now : Timestamp} {db db' db'' : Db}

/-- A record that stays as it is. -/
theorem RecordKept.refl (db : Db) : RecordKept db db where
  attempts a ha := ⟨a, ha, .refl a⟩
  charges := .refl _
  attestations := List.suffix_refl _
  subscriptions s hs := ⟨s, hs, rfl, rfl⟩
  grants g hg := ⟨g, hg, .refl g⟩
  events := List.prefix_refl _

/-- What is kept twice is kept. -/
theorem RecordKept.trans (h : RecordKept db db') (h' : RecordKept db' db'') :
    RecordKept db db'' where
  attempts a ha := by
    obtain ⟨a', ha', hkept⟩ := h.attempts a ha
    obtain ⟨a'', ha'', hkept'⟩ := h'.attempts a' ha'
    exact ⟨a'', ha'', hkept.trans hkept'⟩
  charges c hc := by
    obtain ⟨c', hc', hkept⟩ := h.charges c hc
    obtain ⟨c'', hc'', hkept'⟩ := h'.charges c' hc'
    exact ⟨c'', hc'', hkept.trans hkept'⟩
  attestations := h.attestations.trans h'.attestations
  subscriptions s hs := by
    obtain ⟨s', hs', hkept⟩ := h.subscriptions s hs
    obtain ⟨s'', hs'', hkept'⟩ := h'.subscriptions s' hs'
    exact ⟨s'', hs'', hkept'.id.trans hkept.id, hkept'.owner.trans hkept.owner⟩
  grants g hg := by
    obtain ⟨g', hg', hkept⟩ := h.grants g hg
    obtain ⟨g'', hg'', hkept'⟩ := h'.grants g' hg'
    exact ⟨g'', hg'', hkept.trans hkept'⟩
  events := h.events.trans h'.events

/-- The rows of a writer on one attempt endure. -/
theorem writeAttempt_endures {e : StoreError} {id : Id} {w : AttemptWriter}
    {attempts attempts' : List PaymentAttempt} (hindex : attemptIndexes attempts = true)
    (h : writeAttempt now e id w attempts = .ok attempts') :
    (∀ a ∈ attempts, ∃ a' ∈ attempts', a.Endures a') ∧ attemptIndexes attempts' = true := by
  obtain ⟨a, ha, rfl, a', hw, rfl, hindex'⟩ := writeAttempt_eq_ok h
  refine ⟨fun b hb => ?_, hindex'⟩
  by_cases hid : b.id = a.id
  · obtain rfl := nodup_id_of_attemptIndexes hindex hb ha hid
    exact ⟨a', Table.mem_replaceBy_self hb, AttemptWriter.endures_of_write hw⟩
  · exact ⟨b, Table.mem_replaceBy_of_ne hb hid, .refl b⟩

/-- The rows of a writer on many attempts endure. -/
theorem writeAttempts_endures {p : PaymentAttempt → Bool} {w : AttemptWriter}
    {attempts attempts' : List PaymentAttempt}
    (h : writeAttempts now p w attempts = .ok attempts') :
    (∀ a ∈ attempts, ∃ a' ∈ attempts', a.Endures a') ∧ attemptIndexes attempts' = true := by
  obtain ⟨hall, hindex⟩ := forall₂_of_writeAttempts h
  refine ⟨fun a ha => ?_, hindex⟩
  obtain ⟨a', ha', ⟨-, hw⟩ | ⟨-, rfl⟩⟩ := Table.exists_of_mem_left hall ha
  · exact ⟨a', ha', AttemptWriter.endures_of_write hw⟩
  · exact ⟨a', ha', .refl a'⟩

/-- A statement on the attempts alone. -/
theorem RecordKept.of_attempts {attempts : List PaymentAttempt}
    (h : ∀ a ∈ db.attempts, ∃ a' ∈ attempts, a.Endures a') :
    RecordKept db { db with attempts } :=
  { RecordKept.refl db with attempts := h }

/-- A statement on the charges alone. -/
theorem RecordKept.of_charges {charges : List ProcessorCharge}
    (h : ChargesEndure db.ledger.charges charges) : RecordKept db (db.withCharges charges) :=
  { RecordKept.refl db with charges := h }

/-- Every statement keeps the keys and the record. -/
theorem Statement.recordKept (h : Statement W now db db') (hkeyed : db.Keyed) :
    db'.Keyed ∧ RecordKept db db' := by
  cases h with
  | insertAttempt n =>
    unfold SyrupRail.insertAttempt
    split_ifs with hindex
    · exact ⟨⟨hindex, hkeyed.charges, hkeyed.grants⟩,
        .of_attempts fun a ha => ⟨a, List.mem_cons_of_mem _ ha, .refl a⟩⟩
    · exact ⟨hkeyed, .refl db⟩
  | writeAttempt _ written =>
    obtain ⟨hrows, hindex⟩ := writeAttempt_endures hkeyed.attempts written
    exact ⟨⟨hindex, hkeyed.charges, hkeyed.grants⟩, .of_attempts hrows⟩
  | writeAttempts _ written =>
    obtain ⟨hrows, hindex⟩ := writeAttempts_endures written
    exact ⟨⟨hindex, hkeyed.charges, hkeyed.grants⟩, .of_attempts hrows⟩
  | revise rows indexes =>
    refine ⟨⟨indexes, hkeyed.charges, hkeyed.grants⟩, .of_attempts fun a ha => ?_⟩
    obtain ⟨a', ha', hrow⟩ := Table.exists_of_mem_left rows ha
    exact ⟨a', ha', .of_revised hrow⟩
  -- The statements on the charges also keep their keys, by which later ones find their rows.
  | observe observed =>
    exact ⟨⟨hkeyed.attempts, (observeProcessorCharge_observes observed).kept.valid hkeyed.charges,
      hkeyed.grants⟩, .of_charges (observeProcessorCharge_endures hkeyed.charges observed)⟩
  | insertCharge checks indexes =>
    refine ⟨⟨hkeyed.attempts, ⟨?_, indexes⟩, hkeyed.grants⟩, .of_charges (.cons _ _)⟩
    exact List.forall_mem_cons.mpr ⟨checks, hkeyed.charges.checks⟩
  | transition moved =>
    unfold transitionProcessorCharge at moved
    split_ifs at moved
    exact ⟨⟨hkeyed.attempts, (chargesValid_of_storeCharges moved).1 ▸
      (chargesValid_of_storeCharges moved).2, hkeyed.grants⟩,
      .of_charges (.of_store moved fun c _ _ => c.endures_transitioned _ _ _)⟩
  | classify classified =>
    have htraced : ChargesTraced now [] _ _ := classifyCharge_traced classified
    refine ⟨⟨hkeyed.attempts, htraced.valid hkeyed.charges, hkeyed.grants⟩,
      { RecordKept.refl db with charges := classifyCharge_endures classified, attestations := ?_ }⟩
    show db.ledger.attestations <:+ _
    rw [classifyCharge_attestations classified]
  | attest attested =>
    have htraced : ChargesTraced now [] _ _ := attestExternalReversal_traced attested
    obtain ⟨hcharges, hattestations⟩ := attestExternalReversal_endures attested
    exact ⟨⟨hkeyed.attempts, htraced.valid hkeyed.charges, hkeyed.grants⟩,
      { RecordKept.refl db with charges := hcharges, attestations := hattestations }⟩
  | updateSubscriptions rows =>
    exact ⟨⟨hkeyed.attempts, hkeyed.charges, hkeyed.grants⟩, { RecordKept.refl db with
      subscriptions := fun s hs => Table.exists_of_mem_left rows hs }⟩
  | insertSubscription s₀ =>
    exact ⟨⟨hkeyed.attempts, hkeyed.charges, hkeyed.grants⟩, { RecordKept.refl db with
      subscriptions := fun s hs => ⟨s, List.mem_cons_of_mem _ hs, rfl, rfl⟩ }⟩
  | @insertGrant g₀ new =>
    refine ⟨⟨hkeyed.attempts, hkeyed.charges, ?_⟩, { RecordKept.refl db with
      grants := fun g hg => ⟨g, List.mem_cons_of_mem _ hg, .refl g⟩ }⟩
    rw [List.map_cons, List.nodup_cons]
    refine ⟨fun hmem => ?_, hkeyed.grants⟩
    obtain ⟨g, hg, hid⟩ := List.mem_map.mp hmem
    exact new g hg hid
  | @revokeGrant g₀ revocation mem id open_ =>
    refine ⟨⟨hkeyed.attempts, hkeyed.charges, ?_⟩,
      { RecordKept.refl db with grants := fun g hg => ?_ }⟩
    · have hids : (Table.updateWhere (·.id = revocation.id) (·.revoked now revocation)
          db.grants).map (·.id) = db.grants.map (·.id) := Table.map_key_updateWhere fun _ _ _ => rfl
      exact hids ▸ hkeyed.grants
    · refine ⟨_, Table.mem_updateWhere.mpr ⟨g, hg, rfl⟩, ?_⟩
      by_cases hid : g.id = revocation.id
      · -- By the key, it is the grant that was found, which was not revoked.
        obtain rfl := Table.eq_of_key_eq hkeyed.grants hg mem (hid.trans id.symm)
        simp only [hid, decide_true, if_true]
        exact ⟨rfl, fun hrevoked => absurd open_ hrevoked⟩
      · simp only [hid, decide_false, Bool.false_eq_true, if_false]
        exact .refl g
  | append events =>
    exact ⟨⟨hkeyed.attempts, hkeyed.charges, hkeyed.grants⟩,
      { RecordKept.refl db with events := List.prefix_append _ _ }⟩
  | others accounts limits methods discounts claims =>
    exact ⟨⟨hkeyed.attempts, hkeyed.charges, hkeyed.grants⟩, { RecordKept.refl db with }⟩

/-- A sequence of statements keeps them. -/
theorem Statements.recordKept (h : Statements W now db db') (hkeyed : db.Keyed) :
    db'.Keyed ∧ RecordKept db db' := by
  induction h with
  | refl => exact ⟨hkeyed, .refl db⟩
  | tail _ hstep ih =>
    obtain ⟨hkeyed', hkept⟩ := ih
    obtain ⟨hkeyed'', hkept'⟩ := hstep.recordKept hkeyed'
    exact ⟨hkeyed'', hkept.trans hkept'⟩

/-- An operation keeps them, at its time and also when it fails. -/
theorem execStore_recordKept (hkeyed : db.Keyed) (step : ℕ × Op) :
    (execStore db step).Keyed ∧ RecordKept db (execStore db step) := by
  have hat : (db.at (db.clock + step.1)).Keyed ∧ RecordKept db (db.at (db.clock + step.1)) :=
    ⟨⟨hkeyed.attempts, hkeyed.charges, hkeyed.grants⟩, { RecordKept.refl db with }⟩
  unfold execStore
  dsimp only
  split
  · rename_i db' hrun
    have hstatements : Keeps (Statements AnyWriter (db.clock + step.1)) (step.2.transaction _) :=
      step.2.statements fun _ _ => trivial
    obtain ⟨hkeyed', hkept⟩ := (hstatements (db.at _) _ db' hrun).recordKept hat.1
    exact ⟨hkeyed', hat.2.trans hkept⟩
  · exact hat

/-- Along a run. -/
theorem run_recordKept (steps : List (ℕ × Op)) (hkeyed : db.Keyed) :
    (run execStore db steps).Keyed ∧ RecordKept db (run execStore db steps) :=
  run_keeps (I := Db.Keyed) .refl (fun _ _ _ => .trans)
    (fun _ step hkeyed => execStore_recordKept hkeyed step) steps hkeyed

/-- A fresh store is keyed. -/
theorem Db.Fresh.keyed (h : db.Fresh) : db.Keyed where
  attempts := h.valid.attempts
  charges := h.valid.charges
  grants := by rw [h.grants]; exact List.nodup_nil

end Record

end SyrupRail
