import SyrupRail.Store.Periods

/-!
# A reversed charge is never applied

A charge that was reversed outside the engine stays in the ledger as it is: no statement expects its
progression. An approval resolves an attempt only together with a charge of its transaction that
becomes applied, and this charge is not the reversed one, since the ledger holds one charge of a
transaction; and every subscription that a step starts or moves comes with such an approval. The
application of an approval on the transaction of a reversed charge finds that charge, and no
statement after that both succeeds and changes a table.
-/

namespace SyrupRail

open Transactions Tx

/-! ## Reversed charges stay -/

/-- A reversed charge stays as it is. -/
theorem stable_reversed {c : ProcessorCharge} (hreversed : c.progression = .externallyReversed) :
    Db.Stable fun db => c ∈ db.ledger.charges where
  later _ _ _ _ hc := hc
  quiet _ _ hvalid hquiet hc := hquiet.charges.reversed hvalid.charges c hc hreversed
  effect _ _ hvalid heffect hc := heffect.charges.reversed hvalid.charges c hc hreversed

/-! ## Approvals on other charges -/

/-- An attempt of a subscription payment that a step approves. -/
structure ApprovedBy (db db' : Db) (a a' : PaymentAttempt) : Prop where
  mem : a ∈ db.attempts
  mem' : a' ∈ db'.attempts
  id : a'.id = a.id
  payment : a.kind.isOther = false
  open_ : a.status ≠ .approved
  approved : a'.status = .approved

/-- Whether a charge is of an attempt, or of its gateway account. -/
def ProcessorCharge.concerns (c : ProcessorCharge) (a : PaymentAttempt) : Prop :=
  c.attemptId = a.id ∨ c.gatewayAccountId = a.gatewayAccountId

section Steps

variable {now : Timestamp} {db db' : Db} {a a' : PaymentAttempt} {c : ProcessorCharge}
  {evidence : ProcessorEvidence}

/-- The transaction of an applied approval is that of no reversed charge. -/
theorem ChargeApplied.ne_reversed (h : ChargeApplied a evidence db db')
    (hvalid : ChargesValid db.ledger.charges) (hc : c ∈ db.ledger.charges)
    (hreversed : c.progression = .externallyReversed) (hconcerns : c.concerns a) :
    evidence.transactionId ≠ c.evidence.transactionId := by
  intro htx
  obtain ⟨htraced, hsome, halone, applied, happlied, hattempt, hevidence, hprogression, -⟩ := h
  have hkept := (htraced db.clock).toChargesKept
  obtain ⟨tx, hevidenceTx⟩ := Option.ne_none_iff_exists'.mp hsome
  have hof : c.attemptId = a.id := by
    rcases hconcerns with hof | haccount
    · exact hof
    · exact halone c hc haccount hsome htx.symm
  have hc' := hkept.reversed hvalid c hc hreversed
  have heq : applied = c :=
    (hkept.valid hvalid).eq_of_transaction happlied hc' (hattempt.trans hof.symm)
      (by rw [hevidence, hevidenceTx]) (by rw [← htx, hevidenceTx])
  rw [heq, hreversed] at hprogression
  cases hprogression

/-- An effect approves an attempt with the charge that becomes applied. -/
theorem Effect.chargeApplied (h : Effect now db db') (hvalid : db.Valid)
    (happroved : ApprovedBy db db' a a') : ChargeApplied a a'.evidence db db' := by
  obtain ⟨ha, ha', hid, hpayment, hopen, happroved⟩ := happroved
  have same {b : PaymentAttempt} (hb : b ∈ db.attempts) (hbid : b.id = a.id) : b = a :=
    nodup_id_of_attemptIndexes hvalid.attempts hb ha hbid
  cases h.attempts with
  | kept rows _ =>
    have hrow := rowQuiet_of_id hvalid rows ha ha' hid
    exact absurd ((hrow.approved hpayment).mp happroved) hopen
  | inserted n _ _ rows indexes =>
    rcases List.mem_cons.mp (rows ▸ ha') with rfl | hmem
    · cases happroved
    · exact absurd (same hmem hid ▸ happroved) hopen
  | admitted b b' _ mem _ _ _ _ _ write rows _ =>
    rcases Table.mem_replaceBy (rows ▸ ha') with ⟨hmem, -⟩ | rfl
    · exact absurd (same hmem hid ▸ happroved) hopen
    · obtain ⟨-, -, row, rfl⟩ := PaymentAttempt.update_eq_some (requireOneRow_eq_ok write)
      exact absurd (same mem hid ▸ happroved) hopen
  | approved b b' evidence _ _ mem _ charge _ write rows _ =>
    rcases Table.mem_replaceBy (rows ▸ ha') with ⟨hmem, -⟩ | rfl
    · exact absurd (same hmem hid ▸ happroved) hopen
    · obtain ⟨-, -, row, rfl⟩ := PaymentAttempt.update_eq_some (requireOneRow_eq_ok write)
      rw [← same mem hid]
      exact charge

/-- A quiet program approves no payment, so that the approval of a step is that of its effect. -/
theorem ApprovedBy.of_quiet {db₁ : Db} (happroved : ApprovedBy db db' a a')
    (hquiet : Quiet now db db₁) : ∃ a₁, RowQuiet now a a₁ ∧ ApprovedBy db₁ db' a₁ a' := by
  obtain ⟨a₁, ha₁, hrow⟩ := Table.exists_of_mem_left hquiet.rows happroved.mem
  refine ⟨a₁, hrow, ha₁, happroved.mem', happroved.id.trans hrow.same.id.symm, ?_, ?_,
    happroved.approved⟩
  · rw [hrow.same.kind]
    exact happroved.payment
  · exact mt (hrow.approved happroved.payment).mp happroved.open_

/-- A step approves no attempt on the transaction of a reversed charge. -/
theorem Steps.ne_reversed (h : Steps now db db') (hvalid : db.Valid) (hc : c ∈ db.ledger.charges)
    (hreversed : c.progression = .externallyReversed) (happroved : ApprovedBy db db' a a')
    (hconcerns : c.concerns a) : a'.evidence.transactionId ≠ c.evidence.transactionId := by
  obtain ⟨db₁, hquiet, heffect⟩ := h
  obtain ⟨a₁, hrow, happroved₁⟩ := happroved.of_quiet hquiet
  have hvalid₁ := hquiet.valid hvalid
  have hc₁ : c ∈ db₁.ledger.charges := hquiet.charges.reversed hvalid.charges c hc hreversed
  have hconcerns₁ : c.concerns a₁ := by
    have haccount : a₁.gatewayAccountId = a.gatewayAccountId :=
      congrArg AttemptRequest.gatewayAccountId hrow.same
    rw [ProcessorCharge.concerns, hrow.same.id, haccount]
    exact hconcerns
  rcases heffect with rfl | heffect
  · -- The rows of the quiet program are the last ones.
    have heq :=
      nodup_id_of_attemptIndexes hvalid₁.attempts happroved₁.mem' happroved₁.mem happroved₁.id
    exact absurd (heq ▸ happroved₁.approved) happroved₁.open_
  · exact (heffect.chargeApplied hvalid₁ happroved₁).ne_reversed hvalid₁.charges hc₁ hreversed
      hconcerns₁

/-- A subscription that an enrollment starts is that of the attempt it approves. -/
theorem Enrolled.paid {r : SubscriptionEnrollmentReservation} (h : Enrolled now r a evidence db db')
    {s' : Subscription} (hs' : s' ∈ db'.subscriptions) (hnew : s' ∉ db.subscriptions) :
    ∃ a', ApprovedBy db db' a a' ∧ a'.subscriptionId = some s'.id := by
  obtain ⟨subscriptionId, methodId, _, _, _, _, _, _, -, -, happroved, hrows, -⟩ := h.subscription
  obtain ⟨a', hwrite, hattempts, -⟩ := happroved
  obtain ⟨-, -, row, heq⟩ := PaymentAttempt.update_eq_some (requireOneRow_eq_ok hwrite)
  have hid : s'.id = subscriptionId := by
    rcases List.mem_cons.mp (hrows ▸ hs') with rfl | hmem
    · rfl
    · exact absurd hmem hnew
  have hkind : a.kind = .subscriptionInitial := (of_decide_eq_true h.reserved).2.1
  have hopen : a.status ≠ .approved := by
    intro happroved
    have hresolvable := h.open_
    simp [happroved, PaymentAttemptStatus.isResolvable] at hresolvable
  refine ⟨a', ⟨h.mem, ?_, by rw [heq]; rfl, by rw [hkind]; rfl, hopen, by rw [heq]; rfl⟩, ?_⟩
  · rw [hattempts]
    exact Table.mem_replaceBy_self h.mem
  · rw [heq, hid]
    rfl

/-- The attempt that moves a subscription is approved for it. -/
theorem PaidBy.approvedBy {s s' : Subscription} (h : PaidBy db db' s s') (hvalid : db.Valid)
    (hvalid' : db'.Valid) : ∃ a a', ApprovedBy db db' a a' ∧ a'.subscriptionId = some s.id := by
  obtain ⟨a, ha, a', ha', hsame, hperiod, hopen, happroved, -⟩ := h
  obtain ⟨hcharge, hof, -⟩ := of_decide_eq_true hperiod
  have hsubscription : a.isOfSubscription = true := by
    simp [PaymentAttempt.isOfSubscription, hcharge]
  refine ⟨a, a', ⟨ha, ha', hsame.id, PaymentAttempt.isOther_of_isSubscriptionCharge hcharge, hopen,
    happroved⟩, ?_⟩
  calc a'.subscriptionId
      = a'.target.subscriptionId :=
        hvalid'.linked a' ha' (hsame.isOfSubscription.trans hsubscription)
    _ = a.target.subscriptionId := by rw [hsame.target]
    _ = a.subscriptionId := (hvalid.linked a ha hsubscription).symm
    _ = some s.id := hof

/-- A subscription that an effect starts or moves is paid by an attempt that it approves. -/
theorem Effect.paid (h : Effect now db db') (hvalid : db.Valid) {s' : Subscription}
    (hs' : s' ∈ db'.subscriptions)
    (hnew : ∀ s ∈ db.subscriptions, s.id = s'.id → s.nextRenewalAt ≠ s'.nextRenewalAt) :
    ∃ a a', ApprovedBy db db' a a' ∧ a'.subscriptionId = some s'.id := by
  have hfresh : s' ∉ db.subscriptions := fun hmem => hnew s' hmem rfl rfl
  by_cases hstarted : ∀ s ∈ db.subscriptions, s.id ≠ s'.id
  · cases h.subscriptions hvalid with
    | same heq => exact absurd (heq ▸ hs') hfresh
    | enrolled r a evidence enrolled => exact ⟨a, enrolled.paid hs' hfresh⟩
    | changed s t mem billed change rows checks indexes =>
      rcases Table.mem_replaceBy (rows ▸ hs') with ⟨hmem, -⟩ | rfl
      · exact absurd hmem hfresh
      · exact absurd change.identity.1.symm (hstarted s mem)
  · push Not at hstarted
    obtain ⟨s, hs, hid⟩ := hstarted
    rw [← hid]
    exact (h.moved hvalid hs hs' hid.symm (hnew s hs hid).symm).approvedBy hvalid (h.valid hvalid)

/-- A subscription that a step starts or moves is paid by an attempt that it approves. -/
theorem Steps.paid (h : Steps now db db') (hvalid : db.Valid) {s' : Subscription}
    (hs' : s' ∈ db'.subscriptions)
    (hnew : ∀ s ∈ db.subscriptions, s.id = s'.id → s.nextRenewalAt ≠ s'.nextRenewalAt) :
    ∃ a a', ApprovedBy db db' a a' ∧ a'.subscriptionId = some s'.id := by
  obtain ⟨db₁, hquiet, heffect⟩ := h
  have hsubscriptions : db₁.subscriptions = db.subscriptions := hquiet.subscriptions
  rcases heffect with rfl | heffect
  · rw [hsubscriptions] at hs'
    exact absurd rfl (hnew s' hs' rfl)
  · rw [← hsubscriptions] at hnew
    obtain ⟨a₁, a', happroved, hof⟩ := heffect.paid (hquiet.valid hvalid) hs' hnew
    obtain ⟨a, ha, hrow⟩ := Table.exists_of_mem_right hquiet.rows happroved.mem
    have hpayment : a.kind.isOther = false := by
      rw [← hrow.same.kind]
      exact happroved.payment
    refine ⟨a, a', ⟨ha, happroved.mem', happroved.id.trans hrow.same.id, hpayment, ?_,
      happroved.approved⟩, hof⟩
    exact mt (hrow.approved hpayment).mpr happroved.open_

end Steps

/-! ## The approval of a reversed charge -/

section Replay

variable {now : Timestamp} {db : Db} {a : PaymentAttempt} {c : ProcessorCharge}
  {evidence : ProcessorEvidence}

/-- A reversed charge of an attempt, with the transaction of the evidence. -/
structure ReversedFor (db : Db) (a : PaymentAttempt) (evidence : ProcessorEvidence)
    (c : ProcessorCharge) : Prop where
  charges : ChargesValid db.ledger.charges
  mem : c ∈ db.ledger.charges
  reversed : c.progression = .externallyReversed
  attempt : c.attemptId = a.id
  account : c.gatewayAccountId = a.gatewayAccountId
  transaction : c.evidence.transactionId = evidence.transactionId

/-- The ids of the charges are unique. -/
theorem nodup_id_of_chargesValid {charges : List ProcessorCharge} (h : ChargesValid charges) :
    (charges.map ProcessorCharge.id).Nodup := by
  have hindexes := h.indexes
  simp only [chargeIndexes, Bool.and_eq_true] at hindexes
  exact Table.nodup_map_of_uniqueOn hindexes.1.1.1.1

/-- A reversed charge has a transaction. -/
theorem ReversedFor.transaction_eq_some (h : ReversedFor db a evidence c) :
    ∃ tx, c.evidence.transactionId = some tx := by
  by_contra hnone
  have hnone : c.evidence.transactionId = none := by
    simpa [← Option.ne_none_iff_exists'] using hnone
  exact (ProcessorCharge.not_reversed_of_transactionless (h.charges.checks c h.mem) hnone).1
    h.reversed

/-- An observation of the transaction of a reversed charge is a replay, which returns that
charge. -/
theorem ensures_observe_reversed {newId : Id} {requested : ProcessorChargeProgression}
    (h : ReversedFor db a evidence c) :
    Ensures (observe now newId a evidence requested) db fun o db' =>
      db' = db ∧ ∃ record, o = .owned record ∧ record.id = c.id := by
  obtain ⟨tx, hctx⟩ := h.transaction_eq_some
  have htx : evidence.transactionId = some tx := h.transaction ▸ hctx
  refine ensures_observe.mono fun o db' hpost => ?_
  obtain ⟨charges, hdb, hobserves⟩ := hpost
  cases o with
  | ownedByOtherAttempt =>
    -- The index on the transactions of an account leaves no other charge with this one.
    obtain ⟨-, tx', htx', hother⟩ := hobserves.other rfl
    obtain ⟨c', hc', howner⟩ := List.any_eq_true.mp hother
    obtain ⟨haccount, hctx', hne⟩ := of_decide_eq_true howner
    obtain rfl : tx = tx' := Option.some.inj (htx.symm.trans htx')
    have hindexes := h.charges.indexes
    simp only [chargeIndexes, Bool.and_eq_true] at hindexes
    have heq : c' = c := by
      refine Table.eq_of_uniqueOn hindexes.1.1.1.2 hc' h.mem (k := (a.gatewayAccountId, tx)) ?_ ?_
      · simp [ProcessorCharge.gatewayTransactionKey, hctx', haccount]
      · simp [ProcessorCharge.gatewayTransactionKey, hctx, h.account]
    exact absurd (heq ▸ h.attempt) hne
  | owned record =>
    obtain ⟨c', hc', hid, hattempt, hevidence, -, hnew⟩ := hobserves.owned record rfl
    have hc := hobserves.kept.reversed h.charges c h.mem h.reversed
    have heq : c' = c := (hobserves.kept.valid h.charges).eq_of_transaction hc' hc
      (hattempt.trans h.attempt.symm) (by rw [hevidence, htx]) hctx
    have hreplay : record.exactReplay = true := by
      by_contra hfalse
      exact hnew h.charges (by simpa using hfalse) (heq ▸ h.reversed)
    refine ⟨?_, record, rfl, by rw [← hid, heq]⟩
    rw [hdb, hobserves.replayed record rfl hreplay]
    rfl

/-- No transition that does not expect a reversed charge moves one. -/
theorem not_transitioned_of_reversed {charges charges' : List ProcessorCharge}
    (hvalid : ChargesValid charges) (hc : c ∈ charges)
    (hreversed : c.progression = .externallyReversed) {expected : List ProcessorChargeProgression}
    {progression : ProcessorChargeProgression} {update : ChargeStateCodeUpdate}
    (hexpected : .externallyReversed ∉ expected)
    (h : transitionProcessorCharge now c.id expected progression update charges = .ok charges') :
    False := by
  obtain ⟨⟨c', hc', hmatched⟩, -⟩ := transitionProcessorCharge_eq_ok h
  obtain ⟨hid, hmem, -⟩ := of_decide_eq_true hmatched
  obtain rfl := hvalid.eq_of_id hc' hc hid
  rw [hreversed] at hmem
  exact hexpected hmem

/-- A transition of a reversed charge fails. -/
theorem ensures_moveCharge_reversed {progression : ProcessorChargeProgression}
    {code : Option PaymentResolutionCode} {Q : Unit → Db → Prop}
    (hvalid : ChargesValid db.ledger.charges) (hc : c ∈ db.ledger.charges)
    (hreversed : c.progression = .externallyReversed) :
    Ensures (moveCharge now c.id progression code) db Q := by
  refine ensures_onCharges.mpr fun charges _ h => ?_
  obtain ⟨rows, hrows, -⟩ := map_eq_ok.mp h
  exact (not_transitioned_of_reversed hvalid hc hreversed (by decide) hrows).elim

/-- The parking of a reversed charge as an expired approval fails. -/
theorem ensures_parkExpired_reversed {Q : PaymentAttempt → Db → Prop}
    (hvalid : ChargesValid db.ledger.charges) (hc : c ∈ db.ledger.charges)
    (hreversed : c.progression = .externallyReversed) :
    Ensures (parkExpiredPeriodApproval now a c.id evidence) db Q := by
  rw [parkExpiredPeriodApproval, ensures_bind, moveExpiredCharge]
  refine ensures_onCharges.mpr fun charges _ h => ?_
  obtain ⟨rows, hrows, -⟩ := map_eq_ok.mp h
  exact (not_transitioned_of_reversed hvalid hc hreversed (by decide) hrows).elim

/-- A reversed charge is seen as one. -/
theorem chargeIsExternallyReversed_of_mem (hc : c ∈ db.ledger.charges)
    (hreversed : c.progression = .externallyReversed) : chargeIsExternallyReversed c.id db = true :=
  List.any_eq_true.mpr ⟨c, hc, decide_eq_true ⟨rfl, hreversed⟩⟩

/-- An approval that conflicts with its attempt changes nothing on a reversed charge. -/
theorem ensures_stopConflicting_reversed {newId : Id} (h : ReversedFor db a evidence c) :
    Ensures (stopConflictingSubscriptionApproval now newId a evidence) db fun _ db' =>
      db' = db := by
  have stop : Ensures (some <$> paymentResultForAttempt a) db fun _ db' => db' = db := by
    rw [map_eq_pure_bind, ensures_bind]
    exact ensures_paymentResultForAttempt (ensures_pure.mpr rfl)
  unfold stopConflictingSubscriptionApproval
  rw [ensures_ite]
  refine ⟨fun _ => ensures_pure.mpr rfl, fun _ => ?_⟩
  rw [ensures_ite]
  refine ⟨fun _ => ensures_pure.mpr rfl, fun _ => ?_⟩
  rw [ensures_ite]
  refine ⟨fun _ => stop, fun _ => ?_⟩
  rw [ensures_bind]
  refine (ensures_observe_reversed h).mono fun o db₁ hpost => ?_
  obtain ⟨hdb₁, record, hrecord, hid⟩ := hpost
  subst hdb₁ hrecord
  rw [ensures_ite]
  refine ⟨fun _ => ?_, fun _ => stop⟩
  rw [ensures_bind, promoteConflictingCharge, ensures_bind, ensures_get, hid,
    Table.findBy_eq_some (nodup_id_of_chargesValid h.charges) h.mem]
  simp only [h.reversed]
  exact ensures_pure.mpr stop

/-- A charge that does not become applied fails the application of a renewal or a recovery. -/
theorem ensures_applyCharge_reversed {ids : NewIds} {r : SubscriptionChargeReservation}
    {Q : PaymentAttempt → Db → Prop} (hvalid : db.Valid) (hc : c ∈ db.ledger.charges)
    (hreversed : c.progression = .externallyReversed) :
    Ensures (applyCharge now ids r a evidence c.id) db Q := by
  rw [applyCharge, ensures_bind]
  refine (ensures_advanceSubscription hvalid.subscriptions).mono fun methodId db₁ h₁ => ?_
  obtain ⟨_, _, _, _, _, -, -, -, -, -, -, -, -, hdb₁⟩ := h₁
  rw [ensures_bind, markAttemptApproved, persist, ensures_onAttempts]
  intro attempts _
  have hledger : ({ db₁ with attempts } : Db).ledger = db.ledger := by rw [hdb₁]
  rw [ensures_bind]
  exact ensures_moveCharge_reversed (by rw [hledger]; exact hvalid.charges)
    (by rw [hledger]; exact hc) hreversed

/-- A charge that does not become applied fails the start of a subscription. -/
theorem ensures_startSubscription_reversed {ids : NewIds} {r : SubscriptionEnrollmentReservation}
    {Q : PaymentAttempt → Db → Prop} (hvalid : db.Valid) (hc : c ∈ db.ledger.charges)
    (hreversed : c.progression = .externallyReversed) :
    Ensures (startSubscription now ids r a evidence c.id) db Q := by
  rw [startSubscription, ensures_bind, ensures_read]
  intro terms _
  simp only []
  split
  · exact ensures_throw
  rw [ensures_bind]
  refine ensures_upsertPaymentMethod.mono fun methodId db₁ hpost => ?_
  obtain ⟨methods, hdb₁⟩ := hpost
  rw [ensures_bind, ensures_onSubscriptions]
  intro subscriptions _ _
  rw [ensures_bind]
  refine ensures_applyInitialDiscount.mono fun _ db₂ hpost => ?_
  obtain ⟨discounts, claims, hdb₂⟩ := hpost
  rw [ensures_bind, markAttemptApproved, persist, ensures_onAttempts]
  intro attempts _
  have hledger : ({ db₂ with attempts } : Db).ledger = db.ledger := by rw [hdb₂, hdb₁]
  rw [ensures_bind]
  exact ensures_moveCharge_reversed (by rw [hledger]; exact hvalid.charges)
    (by rw [hledger]; exact hc) hreversed

/-- The approval of a charge that is still open fails on a reversed charge. -/
theorem ensures_applyOpenCharge_reversed {ids : NewIds} {policy : SubscriptionPeriodExpiryPolicy}
    {r : SubscriptionChargeReservation} {Q : PaymentAttempt → Db → Prop} (hvalid : db.Valid)
    (h : ReversedFor db a evidence c) :
    Ensures (applyOpenChargeApproval now ids policy r a evidence) db Q := by
  rw [applyOpenChargeApproval, ensures_bind]
  refine (ensures_observe_reversed h).mono fun o db₁ hpost => ?_
  obtain ⟨hdb₁, record, hrecord, hid⟩ := hpost
  subst hdb₁ hrecord
  have move {α : Type} {progression : ProcessorChargeProgression}
      {code : Option PaymentResolutionCode} {x : Program α} {Q : α → Db → Prop} :
      Ensures (do moveCharge now c.id progression code; x) db₁ Q :=
    ensures_bind.mpr (ensures_moveCharge_reversed h.charges h.mem h.reversed)
  simp only [hid]
  rw [ensures_ite]
  refine ⟨fun _ => move, fun _ => ?_⟩
  rw [ensures_bind, ensures_get, ensures_ite]
  refine ⟨fun _ => move, fun _ => ?_⟩
  rw [ensures_ite]
  exact ⟨fun _ => ensures_parkExpired_reversed h.charges h.mem h.reversed,
    fun _ => ensures_applyCharge_reversed hvalid h.mem h.reversed⟩

/-- The approval of an enrollment that is still open fails on a reversed charge. -/
theorem ensures_applyOpenEnrollment_reversed {ids : NewIds}
    {policy : SubscriptionPeriodExpiryPolicy} {r : SubscriptionEnrollmentReservation}
    {Q : PaymentAttempt → Db → Prop} (hvalid : db.Valid) (h : ReversedFor db a evidence c) :
    Ensures (applyOpenEnrollmentApproval now ids policy r a evidence) db Q := by
  rw [applyOpenEnrollmentApproval, ensures_bind]
  refine (ensures_observe_reversed h).mono fun o db₁ hpost => ?_
  obtain ⟨hdb₁, record, hrecord, hid⟩ := hpost
  subst hdb₁ hrecord
  have move {α : Type} {progression : ProcessorChargeProgression}
      {code : Option PaymentResolutionCode} {x : Program α} {Q : α → Db → Prop} :
      Ensures (do moveCharge now c.id progression code; x) db₁ Q :=
    ensures_bind.mpr (ensures_moveCharge_reversed h.charges h.mem h.reversed)
  simp only [hid]
  rw [ensures_ite]
  refine ⟨fun _ => move, fun _ => ?_⟩
  rw [ensures_bind, ensures_read]
  intro terms _
  rw [ensures_ite]
  refine ⟨fun _ => ensures_parkExpired_reversed h.charges h.mem h.reversed, fun _ => ?_⟩
  rw [ensures_bind, ensures_get, ensures_ite]
  refine ⟨fun _ => move, fun _ => ?_⟩
  rw [ensures_bind, ensures_get, ensures_ite]
  exact ⟨fun _ => move, fun _ => ensures_startSubscription_reversed hvalid h.mem h.reversed⟩

/-- What both applications do before the approval of an attempt that is open or has ended: on a
reversed charge, nothing. -/
theorem ensures_applyApprovedAgain_reversed {ids : NewIds} (h : ReversedFor db a evidence c) :
    Ensures (applyApprovedAgain now ids a evidence) db fun _ db' => db' = db := by
  rw [applyApprovedAgain, ensures_bind, ensures_get, ensures_ite]
  refine ⟨fun _ => ensures_throw, fun _ => ?_⟩
  rw [ensures_bind]
  exact (ensures_observe_reversed h).mono fun _ _ hdb => ensures_pure.mpr hdb.1

/-- The approval of a renewal or recovery changes nothing on a reversed charge. -/
theorem ensures_applyChargeApproved_reversed {ids : NewIds} {liveRecipient : Bool}
    {policy : SubscriptionPeriodExpiryPolicy} {r : SubscriptionChargeReservation}
    (hvalid : db.Valid) (h : ∀ a, r.matchesAttempt a = true → ReversedFor db a evidence c) :
    Ensures (applyChargeApproved now ids liveRecipient policy r evidence) db fun _ db' =>
      db' = db := by
  rw [applyChargeApproved, ensures_bind]
  refine ensures_lockExpected fun a _ hreserved => ?_
  have h := h a hreserved
  rw [ensures_bind]
  refine (ensures_stopConflicting_reversed h).mono fun payment db₁ hdb₁ => ?_
  subst hdb₁
  cases payment with
  | some payment => exact ensures_pure.mpr rfl
  | none =>
    simp only []
    rw [ensures_ite]
    refine ⟨fun _ => ensures_applyApprovedAgain_reversed h, fun _ => ?_⟩
    rw [ensures_ite]
    refine ⟨fun _ => ?_, fun _ => ?_⟩
    · rw [ensures_bind]
      exact (ensures_observe_reversed h).mono fun _ _ hdb => ensures_pure.mpr hdb.1
    rw [ensures_ite]
    refine ⟨fun _ => ensures_throw, fun _ => ?_⟩
    rw [ensures_ite]
    refine ⟨fun _ => ?_, fun _ => ensures_applyOpenCharge_reversed hvalid h⟩
    rw [applyTerminalChargeApproval, ensures_bind]
    refine (ensures_observe_reversed h).mono fun o db₂ hpost => ?_
    obtain ⟨hdb₂, record, hrecord, hid⟩ := hpost
    subst hdb₂ hrecord
    rw [ensures_bind, ensures_get, hid, if_pos (chargeIsExternallyReversed_of_mem h.mem h.reversed)]
    exact ensures_paymentResultForAttempt rfl

/-- The approval of an enrollment changes nothing on a reversed charge. -/
theorem ensures_applyEnrollmentApproved_reversed {ids : NewIds} {liveRecipient : Bool}
    {policy : SubscriptionPeriodExpiryPolicy} {r : SubscriptionEnrollmentReservation}
    (hvalid : db.Valid) (h : ∀ a, r.matchesAttempt a = true → ReversedFor db a evidence c) :
    Ensures (applyEnrollmentApproved now ids liveRecipient policy r evidence) db
      fun _ db' => db' = db := by
  rw [applyEnrollmentApproved, ensures_bind]
  refine ensures_lockExpected fun a _ hreserved => ?_
  have h := h a hreserved
  rw [ensures_bind]
  refine (ensures_stopConflicting_reversed h).mono fun payment db₁ hdb₁ => ?_
  subst hdb₁
  cases payment with
  | some payment => exact ensures_pure.mpr rfl
  | none =>
    simp only []
    rw [ensures_ite]
    refine ⟨fun _ => ensures_applyApprovedAgain_reversed h, fun _ => ?_⟩
    rw [ensures_ite]
    refine ⟨fun _ => ?_, fun _ => ?_⟩
    · rw [ensures_bind]
      exact (ensures_observe_reversed h).mono fun _ _ hdb => ensures_pure.mpr hdb.1
    rw [ensures_ite]
    refine ⟨fun _ => ensures_throw, fun _ => ?_⟩
    rw [ensures_ite]
    refine ⟨fun _ => ?_, fun _ => ensures_applyOpenEnrollment_reversed hvalid h⟩
    rw [applyTerminalEnrollmentApproval, ensures_bind]
    refine (ensures_observe_reversed h).mono fun o db₂ hpost => ?_
    obtain ⟨hdb₂, record, hrecord, hid⟩ := hpost
    subst hdb₂ hrecord
    have hseen : (ObservedCharge.owned record).isExternallyReversed db₂ = true := by
      rw [ObservedCharge.isExternallyReversed, hid]
      exact chargeIsExternallyReversed_of_mem h.mem h.reversed
    rw [ensures_bind, ensures_get, if_pos hseen]
    exact ensures_paymentResultForAttempt rfl

/-- Whether the approval of an attempt would be applied: the attempt is open, not parked for an
expired period, and of no other identity. -/
def PaymentAttempt.awaits (a : PaymentAttempt) (evidence : ProcessorEvidence) : Bool :=
  a.status.isResolvable && !isParkedExpiredPeriodApproval a && !processorIdentityConflict a evidence

/-- Such an attempt is neither approved nor ended. -/
theorem PaymentAttempt.awaits_eq_true (h : a.awaits evidence = true) :
    a.status ≠ .approved ∧ a.status.isTerminal = false ∧ isParkedExpiredPeriodApproval a = false ∧
      processorIdentityConflict a evidence = false := by
  simp only [PaymentAttempt.awaits, Bool.and_eq_true, Bool.not_eq_true'] at h
  obtain ⟨⟨hopen, hunparked⟩, hidentity⟩ := h
  refine ⟨fun happroved => ?_, ?_, hunparked, hidentity⟩
  · simp [happroved, PaymentAttemptStatus.isResolvable] at hopen
  · rw [PaymentAttemptStatus.isTerminal_eq_not, hopen]
    rfl

/-- The approval of a renewal or recovery that would be applied fails on a reversed charge. -/
theorem ensures_applyChargeApproved_awaits {ids : NewIds} {liveRecipient : Bool}
    {policy : SubscriptionPeriodExpiryPolicy} {r : SubscriptionChargeReservation}
    {Q : PaymentAttempt → Db → Prop} (hvalid : db.Valid)
    (h : ∀ a ∈ db.attempts, r.matchesAttempt a = true →
      ReversedFor db a evidence c ∧ a.awaits evidence = true) :
    Ensures (applyChargeApproved now ids liveRecipient policy r evidence) db Q := by
  rw [applyChargeApproved, ensures_bind]
  refine ensures_lockExpected fun a ha hreserved => ?_
  obtain ⟨hreversed, hawaits⟩ := h a ha hreserved
  obtain ⟨happroved, hterminal, hunparked, hidentity⟩ := PaymentAttempt.awaits_eq_true hawaits
  rw [ensures_bind, stopConflictingSubscriptionApproval, if_pos hidentity, ensures_pure]
  simp only [happroved, hunparked, hterminal, Bool.false_eq_true, if_false]
  rw [ensures_ite]
  exact ⟨fun _ => ensures_throw, fun _ => ensures_applyOpenCharge_reversed hvalid hreversed⟩

/-- The approval of an enrollment that would be applied fails on a reversed charge. -/
theorem ensures_applyEnrollmentApproved_awaits {ids : NewIds} {liveRecipient : Bool}
    {policy : SubscriptionPeriodExpiryPolicy} {r : SubscriptionEnrollmentReservation}
    {Q : PaymentAttempt → Db → Prop} (hvalid : db.Valid)
    (h : ∀ a ∈ db.attempts, r.matchesAttempt a = true →
      ReversedFor db a evidence c ∧ a.awaits evidence = true) :
    Ensures (applyEnrollmentApproved now ids liveRecipient policy r evidence) db Q := by
  rw [applyEnrollmentApproved, ensures_bind]
  refine ensures_lockExpected fun a ha hreserved => ?_
  obtain ⟨hreversed, hawaits⟩ := h a ha hreserved
  obtain ⟨happroved, hterminal, hunparked, hidentity⟩ := PaymentAttempt.awaits_eq_true hawaits
  rw [ensures_bind, stopConflictingSubscriptionApproval, if_pos hidentity, ensures_pure]
  simp only [happroved, hunparked, hterminal, Bool.false_eq_true, if_false]
  rw [ensures_ite]
  exact ⟨fun _ => ensures_throw, fun _ => ensures_applyOpenEnrollment_reversed hvalid hreversed⟩

end Replay

/-! ## Whole runs -/

/-- Whether a reservation is of a payment: an enrollment, a renewal, or a recovery. -/
def OutcomeReservation.isPayment : OutcomeReservation → Bool
  | .initial _ | .charge _ => true
  | .replacement _ => false

/-- The application of an approval on the transaction of a reversed charge changes nothing but the
time. -/
theorem execStore_applyApproved_reversed {db : Db} {c : ProcessorCharge} (hvalid : db.Valid)
    (hc : c ∈ db.ledger.charges) (hreversed : c.progression = .externallyReversed) (elapsed : ℕ)
    (ids : NewIds) (liveRecipient : Bool) (policy : SubscriptionPeriodExpiryPolicy)
    {r : OutcomeReservation} {evidence : ProcessorEvidence} (hpayment : r.isPayment = true)
    (hattempt : r.identity.attemptId = c.attemptId)
    (haccount : r.identity.gatewayAccountId = c.gatewayAccountId)
    (htx : evidence.transactionId = c.evidence.transactionId) :
    execStore db (elapsed, .applyApproved ids liveRecipient policy r evidence) =
      db.at (db.clock + elapsed) := by
  have reversed {a : PaymentAttempt} (hidentity : a.identity = r.identity) :
      ReversedFor (db.at (db.clock + elapsed)) a evidence c := by
    rw [← hidentity] at hattempt haccount
    exact ⟨hvalid.charges, hc, hreversed, hattempt.symm, haccount.symm, htx.symm⟩
  have unchanged : Ensures (Op.transaction (db.clock + elapsed)
      (.applyApproved ids liveRecipient policy r evidence)) (db.at (db.clock + elapsed))
      fun _ db' => db' = db.at (db.clock + elapsed) := by
    refine ensures_discard.mpr ?_
    cases r with
    | initial r =>
      exact ensures_applyEnrollmentApproved_reversed (hvalid.at _)
        fun a hreserved => reversed (of_decide_eq_true hreserved).1
    | charge r =>
      exact ensures_applyChargeApproved_reversed (hvalid.at _)
        fun a hreserved => reversed (of_decide_eq_true hreserved).1
    | replacement r => cases hpayment
  unfold execStore
  simp only []
  split
  · rename_i db' hrun
    exact unchanged () db' hrun
  · rfl

/-- The application of an approval on the transaction of a reversed charge fails when its attempt
would take it. -/
theorem applyApproved_reversed_fails {db : Db} {c : ProcessorCharge} (hvalid : db.Valid)
    (hc : c ∈ db.ledger.charges) (hreversed : c.progression = .externallyReversed) (now : Timestamp)
    (ids : NewIds) (liveRecipient : Bool) (policy : SubscriptionPeriodExpiryPolicy)
    {r : OutcomeReservation} {evidence : ProcessorEvidence} (hpayment : r.isPayment = true)
    (hattempt : r.identity.attemptId = c.attemptId)
    (haccount : r.identity.gatewayAccountId = c.gatewayAccountId)
    (htx : evidence.transactionId = c.evidence.transactionId)
    (hawaits : ∀ a ∈ db.attempts, a.identity = r.identity → a.awaits evidence = true) (db' : Db) :
    Op.transaction now (.applyApproved ids liveRecipient policy r evidence) (db.at now) ≠
      .ok ((), db') := by
  have awaits {a : PaymentAttempt} (ha : a ∈ db.attempts) (hidentity : a.identity = r.identity) :
      ReversedFor (db.at now) a evidence c ∧ a.awaits evidence = true := by
    refine ⟨?_, hawaits a ha hidentity⟩
    rw [← hidentity] at hattempt haccount
    exact ⟨hvalid.charges, hc, hreversed, hattempt.symm, haccount.symm, htx.symm⟩
  have fails : Ensures (Op.transaction now (.applyApproved ids liveRecipient policy r evidence))
      (db.at now) fun _ _ => False := by
    refine ensures_discard.mpr ?_
    cases r with
    | initial r =>
      exact ensures_applyEnrollmentApproved_awaits (hvalid.at now)
        fun a ha hreserved => awaits ha (of_decide_eq_true hreserved).1
    | charge r =>
      exact ensures_applyChargeApproved_awaits (hvalid.at now)
        fun a ha hreserved => awaits ha (of_decide_eq_true hreserved).1
    | replacement r => cases hpayment
  exact fun hrun => fails () db' hrun

/-- A reversed charge is never applied. In every run, a charge that was reversed outside the engine
stays as it is; no later step approves a payment with its transaction, and every subscription that a
step starts or moves is paid by an attempt that the step approves; and the application of an
approval with its transaction leaves every table as it was, and fails when the attempt would take
it. -/
theorem reversed_charge_never_applied {db₀ : Db} (hfresh : db₀.Fresh) (steps : List (ℕ × Op)) :
    ∀ c ∈ (run execStore db₀ steps).ledger.charges, c.progression = .externallyReversed → ∀ later,
      let db := run execStore (run execStore db₀ steps) later
      c ∈ db.ledger.charges ∧
      (∀ step a a', ApprovedBy db (execStore db step) a a' → c.concerns a →
        a'.evidence.transactionId ≠ c.evidence.transactionId) ∧
      (∀ step, ∀ s' ∈ (execStore db step).subscriptions,
        (∀ s ∈ db.subscriptions, s.id = s'.id → s.nextRenewalAt ≠ s'.nextRenewalAt) →
        ∃ a a', ApprovedBy db (execStore db step) a a' ∧ a'.subscriptionId = some s'.id) ∧
      ∀ (elapsed : ℕ) (ids : NewIds) (liveRecipient : Bool)
        (policy : SubscriptionPeriodExpiryPolicy) (r : OutcomeReservation)
        (evidence : ProcessorEvidence), r.isPayment = true →
        r.identity.attemptId = c.attemptId → r.identity.gatewayAccountId = c.gatewayAccountId →
        evidence.transactionId = c.evidence.transactionId →
        execStore db (elapsed, .applyApproved ids liveRecipient policy r evidence) =
          db.at (db.clock + elapsed) ∧
        ((∀ a ∈ db.attempts, a.identity = r.identity → a.awaits evidence = true) → ∀ now db',
          Op.transaction now (.applyApproved ids liveRecipient policy r evidence) (db.at now) ≠
            .ok ((), db')) := by
  intro c hc hreversed later db
  have hvalid₀ := (Db.law_valid.holds hfresh steps).1
  obtain ⟨hvalid, hmem⟩ := (stable_reversed hreversed).run_of hvalid₀ hc later
  refine ⟨hmem, fun step a a' happroved hconcerns => ?_, fun step s' hs' hnew => ?_,
    fun elapsed ids liveRecipient policy r evidence hpayment hattempt haccount htx => ?_⟩
  -- The laws of a step are about the store at its time, which has the rows of the store before it.
  · have hat : ApprovedBy (db.at (db.clock + step.1)) (execStore db step) a a' :=
      ⟨happroved.mem, happroved.mem', happroved.id, happroved.payment, happroved.open_,
        happroved.approved⟩
    exact (execStore_steps hvalid step).ne_reversed (hvalid.at _) hmem hreversed hat hconcerns
  · obtain ⟨a, a', happroved, hof⟩ := (execStore_steps hvalid step).paid (hvalid.at _) hs' hnew
    exact ⟨a, a', ⟨happroved.mem, happroved.mem', happroved.id, happroved.payment, happroved.open_,
      happroved.approved⟩, hof⟩
  · refine ⟨execStore_applyApproved_reversed hvalid hmem hreversed elapsed ids liveRecipient policy
      hpayment hattempt haccount htx, fun hawaits now db' => ?_⟩
    exact applyApproved_reversed_fails hvalid hmem hreversed now ids liveRecipient policy hpayment
      hattempt haccount htx hawaits db'

/-! ## A declined enrollment -/

/-- An enrollment is declined, its approval arrives late, and the charge is refunded. -/
def refundedEnrollment : List (ℕ × Op) :=
  [(0, .reserveOther (enrollmentAttempt none)), (0, .admitEnrollment 1 1),
    (0, .resolve 1 (.initial enrollmentReservation) {} .declined),
    (0, .applyApproved ⟨1, 1, 1⟩ true .disabled (.initial enrollmentReservation)
      (approvedEvidence "tx-1")),
    (0, .attestReversal .ascii ⟨1, 7, .refund, "tx-1", "refunded by hand"⟩)]

/-- Its refunded charge stays reversed, also when the approval of it arrives again. -/
theorem reversed_charge_never_applied_refunded :
    let db := run execStore accountStore refundedEnrollment
    ∃ c ∈ db.ledger.charges, c.progression = .externallyReversed ∧
      ∀ elapsed : ℕ, execStore db (elapsed, .applyApproved ⟨2, 2, 2⟩ true .disabled
        (.initial enrollmentReservation) (approvedEvidence "tx-1")) =
            db.at (db.clock + elapsed) := by
  intro db
  have hreversed : (db.ledger.charges.any fun c => c.progression = .externallyReversed ∧
      c.attemptId = 1 ∧ c.gatewayAccountId = 1 ∧ c.evidence.transactionId = some "tx-1") =
          true := by
    decide +kernel
  obtain ⟨c, hc, hrow⟩ := List.any_eq_true.mp hreversed
  obtain ⟨hprogression, hattempt, haccount, htx⟩ := of_decide_eq_true hrow
  have hnever :=
    reversed_charge_never_applied accountStore_fresh refundedEnrollment c hc hprogression []
  exact ⟨c, hc, hprogression, fun elapsed => (hnever.2.2.2 elapsed ⟨2, 2, 2⟩ true .disabled
    (.initial enrollmentReservation) (approvedEvidence "tx-1") rfl hattempt.symm haccount.symm
    htx.symm).1⟩

end SyrupRail
