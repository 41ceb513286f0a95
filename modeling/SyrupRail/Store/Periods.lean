import SyrupRail.Store.Ending

/-!
# One charge for a period

No period of a subscription is charged twice. An open charge of a subscription is the only one, by
the index on open charges; a charge is reserved and admitted for the period that the subscription is
at, and not when that period is already paid; an approved charge stays approved, and is the only one
of its period, by the index on periods; and the approval of a charge is what moves the subscription,
to the end of the period that was charged. `ChargeStep` says this of one step, whatever the
operation, from the two inversions of an effect.
-/

namespace SyrupRail

open Transactions Tx

/-! ## One step -/

/-- The attempt that moves a subscription: it was open, it is approved by the step, and it charged
the period that the subscription was at. -/
def PaidBy (db db' : Db) (s s' : Subscription) : Prop :=
  ∃ a ∈ db.attempts, ∃ a' ∈ db'.attempts, a.SameRequest a' ∧
    a.chargesPeriod s.id s.nextRenewalAt = true ∧ a.status ≠ .approved ∧ a'.status = .approved ∧
    ∃ period, a.target.period = some period ∧ s'.nextRenewalAt = period.endAt

/-- What one step of the engine may do to the charges of periods. -/
structure ChargeStep (db db' : Db) : Prop where
  /-- A new charge is for the next period of a billed subscription. -/
  reserved : ∀ a' ∈ db'.attempts, a'.isSubscriptionCharge = true →
    (∀ a ∈ db.attempts, a.id ≠ a'.id) →
    ∃ s ∈ db.subscriptions, s.status.isBilled = true ∧ a'.chargesPeriod s.id s.nextRenewalAt = true
  /-- A charge that is admitted is for the next period of a billed subscription, and no charge of
  that period is approved. -/
  admitted : ∀ a ∈ db.attempts, ∀ a' ∈ db'.attempts, a'.id = a.id → a.isSubscriptionCharge = true →
    a'.submittedAt ≠ none → a'.submittedAt ≠ a.submittedAt →
    ∃ s ∈ db.subscriptions, s.status.isBilled = true ∧
      a'.chargesPeriod s.id s.nextRenewalAt = true ∧
        ∀ b ∈ db.attempts, b.chargesPeriod s.id s.nextRenewalAt = true → b.status ≠ .approved
  /-- An approved charge stays approved. -/
  approved : ∀ a ∈ db.attempts, a.isSubscriptionCharge = true → a.status = .approved →
    ∃ a' ∈ db'.attempts, a.SameRequest a' ∧ a'.status = .approved
  /-- A subscription moves when a charge of its next period is approved, to the end of that
  period. -/
  moved : ∀ s ∈ db.subscriptions, ∀ s' ∈ db'.subscriptions, s'.id = s.id →
    s'.nextRenewalAt ≠ s.nextRenewalAt → PaidBy db db' s s'

section Steps

variable {now : Timestamp} {db db₁ db' : Db}

/-- A row that quiet writers wrote is the row with its id. -/
theorem rowQuiet_of_id (hvalid : db.Valid)
    (h : List.Forall₂ (RowQuiet now) db.attempts db'.attempts) {a a' : PaymentAttempt}
    (ha : a ∈ db.attempts) (ha' : a' ∈ db'.attempts) (hid : a'.id = a.id) :
    RowQuiet now a a' :=
  Table.rel_of_key_eq (fun _ hr _ hr' hk => nodup_id_of_attemptIndexes hvalid.attempts hr hr' hk)
    (fun _ _ hrow => hrow.same.id) h ha ha' hid

/-- The column of a charge names the subscription of its target. -/
theorem chargesPeriod_of_target (hvalid : db.Valid) {a : PaymentAttempt} (ha : a ∈ db.attempts)
    (hcharge : a.isSubscriptionCharge = true) {subscriptionId : Id} {startAt : Timestamp}
    (htarget : a.target.subscriptionId = some subscriptionId)
    (hstart : a.periodStartAt = some startAt) : a.chargesPeriod subscriptionId startAt = true := by
  have hof : a.isOfSubscription = true := by simp [PaymentAttempt.isOfSubscription, hcharge]
  exact decide_eq_true ⟨hcharge, (hvalid.linked a ha hof).trans htarget, hstart⟩

/-- A quiet writer keeps the period of a charge. -/
theorem RowQuiet.chargesPeriod {a a' : PaymentAttempt} (h : RowQuiet now a a') (subscriptionId : Id)
    (startAt : Timestamp) :
    a'.chargesPeriod subscriptionId startAt = a.chargesPeriod subscriptionId startAt := by
  have hsame := h.same.isSubscriptionCharge
  unfold PaymentAttempt.chargesPeriod
  cases hcharge : a.isSubscriptionCharge with
  | false => simp [hsame, hcharge]
  | true =>
    have hother := PaymentAttempt.isOther_of_isSubscriptionCharge hcharge
    rw [hsame, hcharge, (h.linkage hother).subscriptionId, h.same.periodStartAt]

/-- A quiet writer submits no charge. -/
theorem RowQuiet.submittedAt_eq {a a' : PaymentAttempt} (h : RowQuiet now a a')
    (hcharge : a.isSubscriptionCharge = true) (hsubmitted : a'.submittedAt ≠ none) :
    a'.submittedAt = a.submittedAt := by
  have hof : a.isOfSubscription = true := by simp [PaymentAttempt.isOfSubscription, hcharge]
  rcases h.unsubmitted hof with heq | hnone
  · exact heq
  · exact absurd hnone hsubmitted

/-- The next period starts where the subscription is. -/
theorem nextPeriod_startAt {s : Subscription} {period : BillingPeriod}
    (h : nextPeriod s = .ok period) : period.startAt = s.nextRenewalAt := by
  unfold nextPeriod at h
  split at h
  · rename_i hperiod
    obtain rfl := Except.ok.inj h
    exact nextBillingPeriod_startAt hperiod
  · cases h

/-- A new charge is for the next period. -/
theorem Effect.reserved (h : Effect now db db') {a' : PaymentAttempt}
    (ha' : a' ∈ db'.attempts) (hcharge : a'.isSubscriptionCharge = true)
    (hnew : ∀ a ∈ db.attempts, a.id ≠ a'.id) :
    ∃ s ∈ db.subscriptions, s.status.isBilled = true ∧
      a'.chargesPeriod s.id s.nextRenewalAt = true := by
  have written {a : PaymentAttempt} {w : AttemptWriter} (ha : a ∈ db.attempts)
      (hwrite : w.write now a = .ok a') : False := by
    refine hnew a ha ?_
    rcases AttemptWriter.write_stores hwrite with heq | hs
    · rw [heq]
    · exact hs.same.id.symm
  cases h.attempts with
  | kept rows _ =>
    obtain ⟨a, ha, hrow⟩ := Table.exists_of_mem_right rows ha'
    exact absurd hrow.same.id.symm (hnew a ha)
  | inserted n _ charge rows _ =>
    rw [rows] at ha'
    rcases List.mem_cons.mp ha' with rfl | ha
    · obtain ⟨s, hs, period, billed, hperiod, htarget, hof, -, -⟩ := charge hcharge
      refine ⟨s, hs, billed, decide_eq_true ⟨hcharge, hof, ?_⟩⟩
      show n.target.period.map _ = _
      rw [htarget, Option.map_some, nextPeriod_startAt hperiod]
    · exact absurd rfl (hnew a' ha)
  | admitted a b s mem _ _ _ _ _ write rows _ =>
    rcases Table.mem_replaceBy (rows ▸ ha') with ⟨ha, -⟩ | rfl
    · exact absurd rfl (hnew a' ha)
    · exact (written mem write).elim
  | approved a b _ _ _ mem _ _ _ write rows _ =>
    rcases Table.mem_replaceBy (rows ▸ ha') with ⟨ha, -⟩ | rfl
    · exact absurd rfl (hnew a' ha)
    · exact (written mem write).elim

/-- An admission is for the next period, and that period is not paid. -/
theorem Effect.admitted (h : Effect now db db') (hvalid : db.Valid) {a a' : PaymentAttempt}
    (ha : a ∈ db.attempts) (ha' : a' ∈ db'.attempts) (hid : a'.id = a.id)
    (hcharge : a.isSubscriptionCharge = true) (hsubmitted : a'.submittedAt ≠ none)
    (hnow : a'.submittedAt ≠ a.submittedAt) :
    ∃ s ∈ db.subscriptions, s.status.isBilled = true ∧
      a'.chargesPeriod s.id s.nextRenewalAt = true ∧
        ∀ b ∈ db.attempts, b.chargesPeriod s.id s.nextRenewalAt = true → b.status ≠ .approved := by
  have same {b : PaymentAttempt} (hb : b ∈ db.attempts) (hbid : b.id = a.id) : b = a :=
    nodup_id_of_attemptIndexes hvalid.attempts hb ha hbid
  cases h.attempts with
  | kept rows _ =>
    have hrow := rowQuiet_of_id hvalid rows ha ha' hid
    exact absurd (hrow.submittedAt_eq hcharge hsubmitted) hnow
  | inserted n _ _ rows _ =>
    rw [rows] at ha'
    rcases List.mem_cons.mp ha' with rfl | hmem
    · exact absurd rfl hsubmitted
    · exact absurd (congrArg _ (same hmem hid)) hnow
  | admitted c c' s mem prepared ofSubscription subscription billed charge write rows _ =>
    rcases Table.mem_replaceBy (rows ▸ ha') with ⟨hmem, -⟩ | rfl
    · exact absurd (congrArg _ (same hmem hid)) hnow
    · obtain ⟨-, -, row, rfl⟩ := PaymentAttempt.update_eq_some (requireOneRow_eq_ok write)
      obtain rfl := same mem hid
      obtain ⟨hstart, free⟩ := charge hcharge
      have hperiod := chargesPeriod_of_target hvalid mem hcharge ofSubscription hstart
      refine ⟨s, subscription, billed, hperiod, fun b hb hb' happroved => ?_⟩
      obtain ⟨hbcharge, hbof, hbstart⟩ := of_decide_eq_true hb'
      -- The admitted attempt is pending; every other one was looked for.
      have hbne : b.id ≠ c.id := by
        intro hbid
        obtain rfl := nodup_id_of_attemptIndexes hvalid.attempts hb mem hbid
        simp [(of_decide_eq_true prepared).1] at happroved
      refine List.any_eq_false.mp free b hb
        (decide_eq_true ⟨hbof, by simpa using hbne, hbcharge, ?_⟩)
      rw [Table.findBy_eq_some (nodup_id_of_subscriptionIndexes hvalid.subscriptions) subscription]
      simp [happroved, hbstart]
  | approved c c' _ _ _ mem _ _ _ write rows _ =>
    rcases Table.mem_replaceBy (rows ▸ ha') with ⟨hmem, -⟩ | rfl
    · exact absurd (congrArg _ (same hmem hid)) hnow
    · obtain ⟨-, -, row, rfl⟩ := PaymentAttempt.update_eq_some (requireOneRow_eq_ok write)
      exact absurd (congrArg PaymentAttempt.submittedAt (same mem hid)) hnow

/-- An effect keeps an approved charge. -/
theorem Effect.approvedCharge (h : Effect now db db') (hvalid : db.Valid) {a : PaymentAttempt}
    (ha : a ∈ db.attempts) (hcharge : a.isSubscriptionCharge = true)
    (happroved : a.status = .approved) :
    ∃ a' ∈ db'.attempts, a.SameRequest a' ∧ a'.status = .approved := by
  have hother := PaymentAttempt.isOther_of_isSubscriptionCharge hcharge
  -- The row that an admission or an approval writes is open, and so another one.
  have other {c c' : PaymentAttempt} (mem : c ∈ db.attempts) (hopen : c.status.isResolvable = true)
      (rows : db'.attempts = Table.updateWhere (·.id = c.id) (fun _ => c') db.attempts) :
      ∃ a' ∈ db'.attempts, a.SameRequest a' ∧ a'.status = .approved := by
    refine ⟨a, ?_, rfl, happroved⟩
    rw [rows]
    refine Table.mem_replaceBy_of_ne ha fun hid => ?_
    obtain rfl := nodup_id_of_attemptIndexes hvalid.attempts ha mem hid
    simp [happroved, PaymentAttemptStatus.isResolvable] at hopen
  cases h.attempts with
  | kept rows _ =>
    obtain ⟨a', ha', hrow⟩ := Table.exists_of_mem_left rows ha
    exact ⟨a', ha', hrow.same, (hrow.approved hother).mpr happroved⟩
  | inserted n _ _ rows _ =>
    exact ⟨a, by rw [rows]; exact List.mem_cons_of_mem _ ha, rfl, happroved⟩
  | admitted c c' s mem prepared _ _ _ _ _ rows _ =>
    have hopen : c.status.isResolvable = true := by
      rw [(of_decide_eq_true prepared).1]
      rfl
    exact other mem hopen rows
  | approved c c' _ _ _ mem open_ _ _ _ rows _ => exact other mem open_ rows

/-- A renewal and a recovery move the subscription to the end of their period. -/
theorem SubscriptionChargeReservation.advanced_nextRenewalAt (r : SubscriptionChargeReservation)
    (now : Timestamp) (methodId : Id) (evidence : ProcessorEvidence) (s : Subscription) :
    (r.advanced now methodId evidence s).nextRenewalAt = r.period.endAt := by
  unfold SubscriptionChargeReservation.advanced
  split
  · rfl
  · rfl

/-- A change of a subscription moves it only when it is renewed. -/
theorem SubscriptionChange.moved {s s' : Subscription} (h : SubscriptionChange now db db' s s')
    (hvalid : db.Valid) (hmoved : s'.nextRenewalAt ≠ s.nextRenewalAt) : PaidBy db db' s s' := by
  cases h with
  | renewed r a evidence methodId s' renewed located expected charged approved priced =>
    obtain ⟨a', hwrite, hrows, -⟩ := approved
    obtain ⟨-, -, row, heq⟩ := PaymentAttempt.update_eq_some (requireOneRow_eq_ok hwrite)
    have hmem : a' ∈ db'.attempts := by
      rw [hrows]
      exact Table.mem_replaceBy_self renewed.mem
    have hrequest := of_decide_eq_true (of_decide_eq_true renewed.reserved).2.2
    have htarget : a.target = r.target := hrequest.1
    have hstart : s.nextRenewalAt = r.period.startAt := (of_decide_eq_true expected).2.2.2
    have hcharge : a.isSubscriptionCharge = true := by
      refine decide_eq_true ?_
      rw [PaymentAttempt.kind, htarget, SubscriptionChargeReservation.target]
      split
      · exact .inl rfl
      · exact .inr rfl
    have hend : s'.nextRenewalAt = r.period.endAt := by
      rcases priced with rfl | ⟨cents, rfl⟩
      · exact r.advanced_nextRenewalAt now methodId evidence s
      · exact r.advanced_nextRenewalAt now methodId evidence s
    refine ⟨a, renewed.mem, a', hmem, by rw [heq]; rfl, ?_, ?_, by rw [heq]; rfl, r.period,
      by rw [htarget, r.target_period], hend⟩
    · refine chargesPeriod_of_target hvalid renewed.mem hcharge ?_ ?_
      · rw [htarget, r.target_subscriptionId, (of_decide_eq_true located).1]
      · rw [PaymentAttempt.periodStartAt, htarget, r.target_period, hstart]
        rfl
    · intro happroved
      have hopen := renewed.open_
      simp [happroved, PaymentAttemptStatus.isResolvable] at hopen
  | _ => exact absurd rfl hmoved

/-- An effect moves a subscription only when a charge of its next period is approved. -/
theorem Effect.moved (h : Effect now db db') (hvalid : db.Valid) {s s' : Subscription}
    (hs : s ∈ db.subscriptions) (hs' : s' ∈ db'.subscriptions) (hid : s'.id = s.id)
    (hmoved : s'.nextRenewalAt ≠ s.nextRenewalAt) : PaidBy db db' s s' := by
  have hkey := nodup_id_of_subscriptionIndexes hvalid.subscriptions
  -- A row that was there is the same one.
  have same (hmem : s' ∈ db.subscriptions) : PaidBy db db' s s' :=
    absurd (congrArg _ (Table.eq_of_key_eq hkey hmem hs hid)) hmoved
  cases h.subscriptions hvalid with
  | same heq => exact same (heq ▸ hs')
  | enrolled r a evidence enrolled =>
    obtain ⟨_, _, _, _, _, _, _, _, -, -, -, hrows, -, hindexes, -⟩ := enrolled.subscription
    have hs'' : s ∈ db'.subscriptions := by rw [hrows]; exact List.mem_cons_of_mem _ hs
    have heq := Table.eq_of_key_eq (nodup_id_of_subscriptionIndexes hindexes) hs' hs'' hid
    exact absurd (congrArg _ heq) hmoved
  | changed t t' mem billed change rows checks indexes =>
    rcases Table.mem_replaceBy (rows ▸ hs') with ⟨hmem, -⟩ | rfl
    · exact same hmem
    · obtain rfl := Table.eq_of_key_eq hkey mem hs (change.identity.1.symm.trans hid)
      exact change.moved hvalid hmoved

/-- Every step of the engine is a charge step. -/
theorem Steps.chargeStep (h : Steps now db db') (hvalid : db.Valid) : ChargeStep db db' := by
  obtain ⟨db₁, hquiet, heffect⟩ := h
  have hvalid₁ := hquiet.valid hvalid
  have hsubs : db₁.subscriptions = db.subscriptions := hquiet.subscriptions
  refine ⟨fun a' ha' hcharge hnew => ?_, fun a ha a' ha' hid hcharge hsubmitted hnow => ?_,
    fun a ha hcharge happroved => ?_, fun s hs s' hs' hid hmoved => ?_⟩
  · have hnew₁ : ∀ a₁ ∈ db₁.attempts, a₁.id ≠ a'.id := by
      intro a₁ ha₁
      obtain ⟨a, ha, hrow⟩ := Table.exists_of_mem_right hquiet.rows ha₁
      rw [hrow.same.id]
      exact hnew a ha
    rcases heffect with rfl | heffect
    · exact absurd rfl (hnew₁ a' ha')
    · rw [← hsubs]
      exact heffect.reserved ha' hcharge hnew₁
  · obtain ⟨a₁, ha₁, hrow⟩ := Table.exists_of_mem_left hquiet.rows ha
    have hid₁ : a'.id = a₁.id := hid.trans hrow.same.id.symm
    rcases heffect with rfl | heffect
    · have hrow' := rowQuiet_of_id hvalid hquiet.rows ha ha' hid
      exact absurd (hrow'.submittedAt_eq hcharge hsubmitted) hnow
    · have hnow₁ : a'.submittedAt ≠ a₁.submittedAt := by
        intro heq
        exact hnow (heq.trans (hrow.submittedAt_eq hcharge (heq ▸ hsubmitted)))
      have hcharge₁ : a₁.isSubscriptionCharge = true := hrow.same.isSubscriptionCharge.trans hcharge
      obtain ⟨s, hs, billed, hperiod, hfree⟩ :=
        heffect.admitted hvalid₁ ha₁ ha' hid₁ hcharge₁ hsubmitted hnow₁
      rw [hsubs] at hs
      refine ⟨s, hs, billed, hperiod, fun b hb hbperiod happroved => ?_⟩
      obtain ⟨b₁, hb₁, hrowb⟩ := Table.exists_of_mem_left hquiet.rows hb
      have hother := PaymentAttempt.isOther_of_isSubscriptionCharge (of_decide_eq_true hbperiod).1
      exact hfree b₁ hb₁ ((hrowb.chargesPeriod s.id s.nextRenewalAt).trans hbperiod)
        ((hrowb.approved hother).mpr happroved)
  · obtain ⟨a₁, ha₁, hrow⟩ := Table.exists_of_mem_left hquiet.rows ha
    have hother := PaymentAttempt.isOther_of_isSubscriptionCharge hcharge
    have happroved₁ : a₁.status = .approved := (hrow.approved hother).mpr happroved
    rcases heffect with rfl | heffect
    · exact ⟨a₁, ha₁, hrow.same, happroved₁⟩
    · have hcharge₁ : a₁.isSubscriptionCharge = true := hrow.same.isSubscriptionCharge.trans hcharge
      obtain ⟨a', ha', hsame, happroved'⟩ := heffect.approvedCharge hvalid₁ ha₁ hcharge₁ happroved₁
      exact ⟨a', ha', hsame.trans hrow.same, happroved'⟩
  · rw [← hsubs] at hs
    rcases heffect with rfl | heffect
    · have hkey := nodup_id_of_subscriptionIndexes hvalid₁.subscriptions
      exact absurd (congrArg _ (Table.eq_of_key_eq hkey hs' hs hid)) hmoved
    · obtain ⟨a₁, ha₁, a', ha', hsame, hperiod, hopen, happroved, period, htarget, hend⟩ :=
        heffect.moved hvalid₁ hs hs' hid hmoved
      obtain ⟨a, ha, hrow⟩ := Table.exists_of_mem_right hquiet.rows ha₁
      have hperiod₀ : a.chargesPeriod s.id s.nextRenewalAt = true :=
        (hrow.chargesPeriod s.id s.nextRenewalAt).symm.trans hperiod
      have hother := PaymentAttempt.isOther_of_isSubscriptionCharge (of_decide_eq_true hperiod₀).1
      exact ⟨a, ha, a', ha', hsame.trans hrow.same, hperiod₀, mt (hrow.approved hother).mpr hopen,
        happroved, period, hrow.same.target ▸ htarget, hend⟩

end Steps

/-! ## Whole runs -/

/-- An approved charge of a valid store is the only one of its period. -/
theorem eq_of_approved {db : Db} (hvalid : db.Valid) {a b : PaymentAttempt} (ha : a ∈ db.attempts)
    (hb : b ∈ db.attempts) {subscriptionId : Id} {startAt : Timestamp}
    (hpa : a.chargesPeriod subscriptionId startAt = true)
    (hpb : b.chargesPeriod subscriptionId startAt = true) (happrovedA : a.status = .approved)
    (happrovedB : b.status = .approved) : a = b := by
  have hkey {c : PaymentAttempt} (hp : c.chargesPeriod subscriptionId startAt = true)
      (happroved : c.status = .approved) : c.periodOnceKey = some (subscriptionId, startAt) := by
    obtain ⟨hcharge, hof, hstart⟩ := of_decide_eq_true hp
    rw [PaymentAttempt.periodOnceKey, if_pos ⟨hcharge, .inr happroved⟩, hof, hstart]
  have hindexes := hvalid.attempts
  simp only [attemptIndexes, Bool.and_eq_true] at hindexes
  exact Table.eq_of_uniqueOn hindexes.1.2 ha hb (hkey hpa happrovedA) (hkey hpb happrovedB)

/-- No period is charged twice. After every run of the engine, an open charge of a subscription is
the only one and an approved charge is the only one of its period, which it stays in every later
run; and every step reserves and admits a charge only for the next period of its subscription,
admits none for a period that is already paid, and moves a subscription only to the end of the
period that it has just been paid for. -/
theorem no_double_charge {db₀ : Db} (hfresh : db₀.Fresh) (steps : List (ℕ × Op)) :
    let db := run execStore db₀ steps
    (∀ a ∈ db.attempts, ∀ b ∈ db.attempts, ∀ subscriptionId, a.isBlockingCharge = true →
      b.isBlockingCharge = true → a.subscriptionId = some subscriptionId →
      b.subscriptionId = some subscriptionId → a = b) ∧
    (∀ a ∈ db.attempts, ∀ b ∈ db.attempts, ∀ subscriptionId startAt,
      a.chargesPeriod subscriptionId startAt = true →
        b.chargesPeriod subscriptionId startAt = true →
      a.status = .approved → b.status = .approved → a = b) ∧
    (∀ a ∈ db.attempts, a.isSubscriptionCharge = true → a.status = .approved → ∀ later,
      ∃ a' ∈ (run execStore db later).attempts, a.SameRequest a' ∧ a'.status = .approved) ∧
    ∀ step, ChargeStep db (execStore db step) := by
  intro db
  have hvalid : db.Valid := (Db.law_valid.holds hfresh steps).1
  refine ⟨fun a ha b hb subscriptionId hka hkb hsa hsb => ?_,
    fun a ha b hb subscriptionId startAt hpa hpb happrovedA happrovedB => ?_,
    fun a ha hcharge happroved later => ?_, fun step => ?_⟩
  · exact eq_of_isBlockingCharge hvalid.attempts ha hb hka hkb hsa hsb
  · exact eq_of_approved hvalid ha hb hpa hpb happrovedA happrovedB
  · -- The row of an approved charge stays approved, step by step.
    have hrun := run_invariant (P := fun _ => True)
      (I := fun db => db.Valid ∧ ∃ a' ∈ db.attempts, a.SameRequest a' ∧ a'.status = .approved)
      (fun db' step _ ⟨hvalid', a', ha', hsame, happroved'⟩ => by
        have hstep := (execStore_steps hvalid' step).chargeStep (hvalid'.at _)
        obtain ⟨a'', ha'', hsame', happroved''⟩ := hstep.approved a' ha'
          (hsame.isSubscriptionCharge.trans hcharge) happroved'
        exact ⟨Db.law_valid.step hvalid' hvalid' step, a'', ha'', hsame'.trans hsame, happroved''⟩)
      later db (fun _ _ => trivial) ⟨hvalid, a, ha, rfl, happroved⟩
    exact hrun.2
  · have hstep := (execStore_steps hvalid step).chargeStep (hvalid.at _)
    exact ⟨hstep.reserved, hstep.admitted, hstep.approved, hstep.moved⟩

/-! ## A first renewal -/

/-- The reservation of the first renewal after an enrollment. -/
def firstRenewal : SubscriptionChargeReservation where
  kind := .renewal
  identity := ⟨2, 1, 1, 1, 1, .live⟩
  providerKey := "nmi"
  planKey := "plan"
  paymentMethodId := 1
  period := ⟨30 * microsPerDay, 60 * microsPerDay, by decide⟩
  expected := ⟨1, 1, "tx-1", .active⟩
  idempotencyKey := renewalAttemptIdempotencyKey 1 (30 * microsPerDay) 0
  amount := ⟨1000, "USD"⟩
  gatewayOrderId := "oo"

/-- It is reserved and admitted when it is due. -/
def submittedRenewal : List (ℕ × Op) :=
  [((30 * microsPerDay).toNat,
      .reserveRenewal .disabled .live accountGateway 2 ⟨1, 1, 30 * microsPerDay⟩),
    (0, .admitPrepared .disabled firstRenewal)]

/-- Its approval. -/
def approvedRenewal : ℕ × Op :=
  (0, .applyApproved ⟨2, 2, 2⟩ true .disabled (.charge firstRenewal) (approvedEvidence "tx-2"))

/-- The first renewal of an enrollment is approved, and stays so. -/
theorem no_double_charge_firstRenewal :
    let db := run execStore accountStore (enrollment ++ submittedRenewal ++ [approvedRenewal])
    ∃ a ∈ db.attempts, a.chargesPeriod 1 (30 * microsPerDay) = true ∧ a.status = .approved ∧
      ∀ later, ∃ a' ∈ (run execStore db later).attempts, a.SameRequest a' ∧
          a'.status = .approved := by
  intro db
  have hpaid := (no_double_charge accountStore_fresh
    (enrollment ++ submittedRenewal ++ [approvedRenewal])).2.2.1
  have hrenewed : (db.attempts.any fun a =>
      a.chargesPeriod 1 (30 * microsPerDay) ∧ a.status = .approved) = true := by
    decide +kernel
  obtain ⟨a, ha, hrow⟩ := List.any_eq_true.mp hrenewed
  obtain ⟨hperiod, happroved⟩ := of_decide_eq_true hrow
  exact ⟨a, ha, hperiod, happroved, hpaid a ha (of_decide_eq_true hperiod).1 happroved⟩

end SyrupRail
