import SyrupRail.Charge.Observed
import SyrupRail.Store.System

/-!
# What a transaction may change

Most statements of a transaction only write the state of attempts and the ledger of their charges.
`Quiet` is the frame of these: it says once what such statements leave alone, row by row, and every
program that approves nothing, admits no charge, and moves no subscription is shown to stay within
it. The laws of the engine need to look only at the few statements that do more.
-/

namespace SyrupRail

open Transactions Tx

/-! ## Rows of attempts -/

/-- Whether an attempt is for a subscription: a charge of its period, or an update of its method. -/
def PaymentAttempt.isOfSubscription (a : PaymentAttempt) : Bool :=
  a.isSubscriptionCharge || a.kind = .subscriptionPaymentMethodUpdate

/-- Whether the column of an attempt for a subscription names the subscription of its target. -/
def PaymentAttempt.Linked (a : PaymentAttempt) : Prop :=
  a.isOfSubscription = true → a.subscriptionId = a.target.subscriptionId

/-- Whether a writer links an attempt for a subscription to the subscription of its target. -/
def AttemptWriter.Links (w : AttemptWriter) (a : PaymentAttempt) : Prop :=
  ∀ e s m, w = .persist e (.approved (.subscription s m)) → a.isOfSubscription = true →
    a.target.subscriptionId = some s

/-- Whether a writer on a row is part of no approval of a subscription payment, no admission of an
attempt for a subscription, and no reopening of a charge that has ended. -/
structure FrameWriter (a : PaymentAttempt) (w : AttemptWriter) : Prop where
  approves : a.kind.isOther = false → w.approves = false
  admits : a.isOfSubscription = true → w ≠ .admitPrepared
  reopens : a.isSubscriptionCharge = true →
    (∃ e c m, w = .persist e (.lateApprovalReview c m)) → a.status.isResolvable = true
  links : w.Links a

/-- A quiet writer moreover approves no update of a method, which its charge goes with. -/
structure QuietWriter (a : PaymentAttempt) (w : AttemptWriter) : Prop extends FrameWriter a w where
  updates : a.kind = .subscriptionPaymentMethodUpdate → w.approves = false

/-- What quiet writers at the time `now` keep of a row. -/
structure RowQuiet (now : Timestamp) (a a' : PaymentAttempt) : Prop where
  same : a.SameRequest a'
  linkage : a.kind.isOther = false → a.SameLinkage a'
  linked : a.Linked → a'.Linked
  stored : a.Stored → a'.Stored
  approved : a.kind.isOther = false → (a'.status = .approved ↔ a.status = .approved)
  closed : a.isSubscriptionCharge = true → a.status.isResolvable = false →
    a'.status.isResolvable = false
  unsubmitted : a.isOfSubscription = true →
    a'.submittedAt = a.submittedAt ∨ a'.submittedAt = none
  submitted : a'.submittedAt = a.submittedAt ∨ a'.submittedAt = none ∨ a'.submittedAt = some now
  resolved : a'.resolvedAt = a.resolvedAt ∨ a'.resolvedAt = some now

/-- A row that is not written. -/
theorem RowQuiet.refl (now : Timestamp) (a : PaymentAttempt) : RowQuiet now a a :=
  ⟨rfl, fun _ => ⟨rfl, rfl⟩, id, id, fun _ => Iff.rfl, fun _ => id, fun _ => .inl rfl, .inl rfl,
    .inl rfl⟩

/-- A charge of a subscription is no attempt of another kind. -/
theorem PaymentAttempt.isOther_of_isSubscriptionCharge {a : PaymentAttempt}
    (h : a.isSubscriptionCharge = true) : a.kind.isOther = false := by
  rcases of_decide_eq_true h with hk | hk
  · rw [hk]
    rfl
  · rw [hk]
    rfl

/-- Whether a row is a charge is part of its request. -/
theorem PaymentAttempt.SameRequest.isSubscriptionCharge {a a' : PaymentAttempt}
    (h : a.SameRequest a') : a'.isSubscriptionCharge = a.isSubscriptionCharge := by
  simp only [PaymentAttempt.isSubscriptionCharge, h.kind]

/-- Whether a row is for a subscription is part of its request. -/
theorem PaymentAttempt.SameRequest.isOfSubscription {a a' : PaymentAttempt} (h : a.SameRequest a') :
    a'.isOfSubscription = a.isOfSubscription := by
  simp only [PaymentAttempt.isOfSubscription, h.isSubscriptionCharge, h.kind]

/-- The period is that of the target. -/
theorem PaymentAttempt.SameRequest.periodStartAt {a a' : PaymentAttempt} (h : a.SameRequest a') :
    a'.periodStartAt = a.periodStartAt := by
  simp only [PaymentAttempt.periodStartAt, h.target]

/-- A row that is written twice. -/
theorem RowQuiet.trans {now : Timestamp} {a b c : PaymentAttempt} (h : RowQuiet now a b)
    (h' : RowQuiet now b c) : RowQuiet now a c where
  same := h'.same.trans h.same
  linkage hk :=
    have hb := h.same.kind ▸ hk
    ⟨(h'.linkage hb).subscriptionId.trans (h.linkage hk).subscriptionId,
      (h'.linkage hb).paymentMethodId.trans (h.linkage hk).paymentMethodId⟩
  linked ha := h'.linked (h.linked ha)
  stored ha := h'.stored (h.stored ha)
  approved hk := (h'.approved (h.same.kind ▸ hk)).trans (h.approved hk)
  closed hc ho := h'.closed (h.same.isSubscriptionCharge.trans hc) (h.closed hc ho)
  unsubmitted hc := by
    rcases h'.unsubmitted (h.same.isOfSubscription.trans hc) with h₂ | h₂
    · rw [h₂]
      exact h.unsubmitted hc
    · exact .inr h₂
  submitted := by
    rcases h'.submitted with h₂ | h₂
    · rw [h₂]
      exact h.submitted
    · exact .inr h₂
  resolved := by
    rcases h'.resolved with h₂ | h₂
    · rw [h₂]
      exact h.resolved
    · exact .inr h₂

/-- The times that an update leaves, or sets. -/
structure PaymentAttempt.TimesFrom (now : Timestamp) (a a' : PaymentAttempt) : Prop where
  submitted : a'.submittedAt = a.submittedAt ∨ a'.submittedAt = none ∨ a'.submittedAt = some now
  resolved : a'.resolvedAt = a.resolvedAt ∨ a'.resolvedAt = some now

/-- The times of an update are those of the row that it was asked to store. -/
theorem PaymentAttempt.timesFrom_of_update {now : Timestamp} {m : Bool} {a new a' : PaymentAttempt}
    (h : PaymentAttempt.update now m new = .ok (some a')) (hnew : a.TimesFrom now new) :
    a.TimesFrom now a' := by
  obtain ⟨-, -, r, rfl⟩ := PaymentAttempt.update_eq_some h
  exact ⟨hnew.submitted, hnew.resolved⟩

/-- The time of a row that is set once. -/
theorem PaymentAttempt.timesFrom_orElse {now : Timestamp} {a new : PaymentAttempt}
    (hs : new.submittedAt = a.submittedAt) (hr : new.resolvedAt = (a.resolvedAt <|> some now)) :
    a.TimesFrom now new := by
  refine ⟨.inl hs, ?_⟩
  rw [hr]
  cases a.resolvedAt with
  | none => exact .inr rfl
  | some t => exact .inl rfl

/-- Every writer leaves the times of a row, clears its submission, or sets them to the present. -/
theorem AttemptWriter.timesFrom {now : Timestamp} {w : AttemptWriter} {a a' : PaymentAttempt}
    (h : w.write now a = .ok a') : a.TimesFrom now a' := by
  have keep : a.TimesFrom now a := ⟨.inl rfl, .inl rfl⟩
  have one {m : Bool} {new : PaymentAttempt}
      (hu : requireOneRow (PaymentAttempt.update now m new) = .ok a') (hnew : a.TimesFrom now new) :
      a.TimesFrom now a' :=
    PaymentAttempt.timesFrom_of_update (requireOneRow_eq_ok hu) hnew
  have maybe {m : Bool} {new : PaymentAttempt}
      (hu : orUnchanged a (PaymentAttempt.update now m new) = .ok a') (hnew : a.TimesFrom now new) :
      a.TimesFrom now a' := by
    rcases orUnchanged_eq_ok hu with rfl | hu
    · exact keep
    · exact PaymentAttempt.timesFrom_of_update hu hnew
  have transition (e : ProcessorEvidence) (t : AttemptTransition) :
      a.TimesFrom now (t.row now e a) := by
    have record (status : PaymentAttemptStatus) (code : Option PaymentResolutionCode)
        (s m : Option Id) : a.TimesFrom now (a.record now e status code s m) := by
      refine ⟨.inl rfl, ?_⟩
      simp only [PaymentAttempt.record]
      split_ifs
      · exact .inr rfl
      · exact .inl rfl
    cases t with
    | approved approval =>
      cases approval with
      | hostCharge => exact record _ _ _ _
      | subscription => exact record _ _ _ _
    | resolved => exact record _ _ _ _
    | lateApprovalReview => exact ⟨.inl rfl, .inl rfl⟩
  cases w with
  | persist e t => exact one h (transition e t)
  | admitPrepared => exact one h ⟨.inr (.inr rfl), .inl rfl⟩
  | reject c m => exact maybe h (PaymentAttempt.timesFrom_orElse rfl rfl)
  | rejectInitial m => exact one h ⟨.inl rfl, .inr rfl⟩
  | restore => exact one h ⟨.inr (.inl rfl), .inl rfl⟩
  | resolveNotSubmitted e s c =>
    obtain ⟨b, hb, hclear⟩ := bind_eq_ok.mp h
    have hb := PaymentAttempt.timesFrom_of_update (requireOneRow_eq_ok hb) (transition e _)
    obtain ⟨-, -, r, rfl⟩ := PaymentAttempt.update_eq_some (requireOneRow_eq_ok hclear)
    exact ⟨.inr (.inl rfl), hb.resolved⟩
  | expireSubscriptionCharge => exact maybe h (PaymentAttempt.timesFrom_orElse rfl rfl)
  | expirePaymentMethodUpdate keep =>
    cases keep with
    | true => exact maybe h (PaymentAttempt.timesFrom_orElse rfl rfl)
    | false => exact maybe h ⟨.inl rfl, .inr rfl⟩
  | expireInitial => exact maybe h ⟨.inl rfl, .inr rfl⟩
  | expireHostCharge => exact maybe h (PaymentAttempt.timesFrom_orElse rfl rfl)
  | observe o =>
    simp only [AttemptWriter.write, applyExactQueryObservation] at h
    split at h
    · obtain rfl : a = a' := by simpa using h
      exact keep
    · exact maybe h ⟨.inl rfl, .inr rfl⟩
    · exact maybe h ⟨.inl rfl, .inl rfl⟩
    · exact maybe h ⟨.inl rfl, .inl rfl⟩
  | claim => exact maybe h ⟨.inl rfl, .inl rfl⟩
  | manualFailure e => exact one h ⟨.inl rfl, .inr rfl⟩
  | attest c =>
    simp only [AttemptWriter.write, failReversedAttempt] at h
    split_ifs at h
    · obtain rfl : a = a' := by simpa using h
      exact keep
    · exact one h ⟨.inl rfl, .inr rfl⟩

/-- Only a transition approves an attempt. -/
theorem AttemptWriter.approves_eq_true {w : AttemptWriter} (h : w.approves = true) :
    ∃ e application, w = .persist e (.approved application) := by
  cases w with
  | persist e t =>
    cases t with
    | approved application => exact ⟨e, application, rfl⟩
    | _ => cases h
  | _ => cases h

/-- A writer keeps a row linked. -/
theorem AttemptWriter.linked {now : Timestamp} {w : AttemptWriter} {a a' : PaymentAttempt}
    (h : w.write now a = .ok a') (hw : w.Links a) (ha : a.Linked) : a'.Linked := by
  rcases AttemptWriter.write_stores h with rfl | hs
  · exact ha
  · intro hof
    rw [hs.same.isOfSubscription] at hof
    rw [hs.same.target]
    rcases hs.linkage with ⟨happroves, -⟩ | hl
    · obtain ⟨e, application, rfl⟩ := AttemptWriter.approves_eq_true happroves
      obtain ⟨-, -, r, rfl⟩ := PaymentAttempt.update_eq_some (requireOneRow_eq_ok h)
      cases application with
      | hostCharge => exact ha hof
      | subscription s m => exact (hw e s m rfl hof).symm
    · rw [hl.subscriptionId]
      exact ha hof

/-- A quiet writer keeps a row quiet. -/
theorem AttemptWriter.rowQuiet {now : Timestamp} {w : AttemptWriter} {a a' : PaymentAttempt}
    (h : w.write now a = .ok a') (hquiet : FrameWriter a w) : RowQuiet now a a' := by
  rcases AttemptWriter.write_stores h with rfl | hs
  · exact RowQuiet.refl now a'
  · have htimes := AttemptWriter.timesFrom h
    have hlink (hk : a.kind.isOther = false) : a.SameLinkage a' := by
      rcases hs.linkage with ⟨happ, -⟩ | hl
      · simp [hquiet.approves hk] at happ
      · exact hl
    refine ⟨hs.same, hlink, AttemptWriter.linked h hquiet.links, AttemptWriter.stored_of_write h,
      fun hk => ?_, fun hc ho => ?_, fun hc => ?_, htimes.submitted, htimes.resolved⟩
    · constructor
      · intro ha
        rcases hs.approved ha with happ | heq
        · simp [hquiet.approves hk] at happ
        · rw [← heq, ha]
      · intro ha
        have hexec : execAttempt a (now, w) = a' := by simp [execAttempt, h]
        rw [← hexec]
        exact execAttempt_approved ha (now, w)
    · -- Only late approved evidence reopens an attempt that has ended.
      cases hs.effect with
      | touch hstatus _ _ _ => rw [hstatus, ho]
      | resolve hopen _ _ _ => simp [ho] at hopen
      | reopen hw _ _ _ => simp [hquiet.reopens hc hw] at ho
      | admitPrepared _ hp _ => simp [hp.1, PaymentAttemptStatus.isResolvable] at ho
      | restore _ hp _ _ => simp [hp.1, PaymentAttemptStatus.isResolvable] at ho
    · cases hs.effect with
      | touch _ hsub _ _ => exact .inl hsub
      | resolve _ _ hsub _ => exact hsub
      | reopen _ _ _ hsub => exact .inl hsub
      | admitPrepared hw _ _ => exact absurd hw (hquiet.admits hc)
      | restore _ _ _ hsub => exact .inr hsub

/-! ## Statements -/

section Statements

variable {db : Db} {α : Type}

/-- A statement on the attempts. -/
theorem ensures_onAttempts {f : List PaymentAttempt → Except StoreError (List PaymentAttempt)}
    {Q : Unit → Db → Prop} :
    Ensures (onAttempts f) db Q ↔
      ∀ attempts, f db.attempts = .ok attempts → Q () { db with attempts } := by
  rw [onAttempts, ensures_statement]
  constructor
  · intro h attempts hf
    exact h attempts () (map_eq_ok.mpr ⟨attempts, hf, rfl⟩)
  · intro h attempts _ hf
    obtain ⟨attempts', hf', hpair⟩ := map_eq_ok.mp hf
    obtain ⟨rfl, -⟩ := Prod.mk.inj hpair
    exact h attempts' hf'

/-- A statement on the ledger. -/
theorem ensures_onLedger {f : ChargeLedger → Except StoreError (ChargeLedger × α)}
    {Q : α → Db → Prop} :
    Ensures (onLedger f) db Q ↔
      ∀ ledger r, f db.ledger = .ok (ledger, r) → Q r { db with ledger } := by
  rw [onLedger, ensures_statement]

/-- The store with other charges. -/
def Db.withCharges (db : Db) (charges : List ProcessorCharge) : Db :=
  { db with ledger := { db.ledger with charges } }

/-- A statement on the charges. -/
theorem ensures_onCharges
    {f : List ProcessorCharge → Except StoreError (List ProcessorCharge × α)} {Q : α → Db → Prop} :
    Ensures (onCharges f) db Q ↔
      ∀ charges r, f db.ledger.charges = .ok (charges, r) → Q r (db.withCharges charges) := by
  rw [onCharges, ensures_onLedger]
  constructor
  · intro h charges r hf
    exact h _ r (map_eq_ok.mpr ⟨(charges, r), hf, rfl⟩)
  · intro h ledger r hf
    obtain ⟨⟨charges, r'⟩, hf', hpair⟩ := map_eq_ok.mp hf
    obtain ⟨rfl, rfl⟩ := Prod.mk.inj hpair
    exact h charges r' hf'

/-- A statement on the subscriptions. -/
theorem ensures_onSubscriptions
    {f : List Subscription → Except StoreError (List Subscription × α)} {Q : α → Db → Prop} :
    Ensures (onSubscriptions f) db Q ↔
      ∀ subscriptions r, f db.subscriptions = .ok (subscriptions, r) →
        Q r { db with subscriptions } := by
  rw [onSubscriptions, ensures_statement]

/-- The events of a transaction. -/
theorem ensures_appendEvents {now : Timestamp} {events : List BillingEvent} {Q : Unit → Db → Prop} :
    Ensures (appendEvents now events) db Q ↔
      Q () { db with events := db.events ++ events.map (now, ·) } :=
  ensures_modify

/-- A row that was found by its key. -/
theorem findPaymentAttemptById_eq_some {attempts : List PaymentAttempt}
    {billingScopeId attemptId : Id} {a : PaymentAttempt}
    (h : findPaymentAttemptById attempts billingScopeId attemptId = .ok (some a)) :
    a ∈ attempts ∧ a.billingScopeId = billingScopeId ∧ a.id = attemptId := by
  unfold findPaymentAttemptById at h
  split at h
  · simp at h
  · rename_i b hfind
    obtain ⟨c, hc, hsome⟩ := map_eq_ok.mp h
    obtain rfl := Option.some.inj hsome
    unfold storedAttempt at hc
    split_ifs at hc
    obtain rfl := Except.ok.inj hc
    have hp : b.billingScopeId = billingScopeId ∧ b.id = attemptId := by
      simpa using List.find?_some hfind
    exact ⟨List.mem_of_find?_eq_some hfind, hp⟩

/-- An attempt that must be there. -/
theorem ensures_requireAttempt {missing : StoreError} {billingScopeId attemptId : Id}
    {Q : PaymentAttempt → Db → Prop}
    (h : ∀ a ∈ db.attempts, a.billingScopeId = billingScopeId → a.id = attemptId → Q a db) :
    Ensures (requireAttempt missing billingScopeId attemptId) db Q := by
  rw [requireAttempt, ensures_bind, ensures_read]
  intro found hfound
  cases found with
  | none => exact ensures_throw
  | some a =>
    obtain ⟨ha, hscope, hid⟩ := findPaymentAttemptById_eq_some hfound
    exact ensures_pure.mpr (h a ha hscope hid)

/-- The attempt of a reservation. -/
theorem ensures_lockExpected {r : OutcomeReservation} {Q : PaymentAttempt → Db → Prop}
    (h : ∀ a ∈ db.attempts, r.matchesAttempt a = true → Q a db) :
    Ensures (lockExpectedReservationAttempt r) db Q := by
  rw [lockExpectedReservationAttempt, ensures_bind]
  refine ensures_requireAttempt fun a ha _ _ => ?_
  rw [ensures_ite]
  exact ⟨fun hm => ensures_pure.mpr (h a ha hm), fun _ => ensures_throw⟩

/-- The result of a payment changes nothing. -/
theorem ensures_paymentResultForAttempt {a : PaymentAttempt} {Q : PaymentAttempt → Db → Prop}
    (h : Q a db) : Ensures (paymentResultForAttempt a) db Q := by
  rw [paymentResultForAttempt, ensures_bind, ensures_get, ensures_ite]
  exact ⟨fun _ => ensures_throw, fun _ => ensures_pure.mpr h⟩

/-- The result of a reservation changes nothing. -/
theorem ensures_paymentResultForReservation {r : OutcomeReservation}
    {Q : PaymentAttempt → Db → Prop} (h : ∀ a ∈ db.attempts, Q a db) :
    Ensures (paymentResultForReservationAttempt r) db Q := by
  rw [paymentResultForReservationAttempt, ensures_bind]
  exact ensures_requireAttempt fun a ha _ _ => ensures_paymentResultForAttempt (h a ha)

end Statements

/-! ## Charges and their attempts -/

/-- The dimensions of the attempts. -/
def Db.dimensions (db : Db) : List ChargeDimensions := db.attempts.map (·.chargeDimensions)

/-- Whether an attempt has a primary charge with its transaction. -/
def HasPrimaryCharge (a : PaymentAttempt) (charges : List ProcessorCharge) : Prop :=
  ∃ c ∈ charges, c.attemptId = a.id ∧ c.role = .primary ∧ c.evidence.transactionId ≠ none ∧
    c.evidence.transactionId = a.evidence.transactionId

/-- What relates the charges to the attempts: a charge has the dimensions of an attempt, an
attestation is of a reversed charge, and an update of a method that was approved has a primary
charge with its transaction. -/
structure Db.ChargesLinked (db : Db) : Prop where
  dimensions : ∀ c ∈ db.ledger.charges, c.dimensions ∈ db.dimensions
  attested : db.ledger.Attested
  methodUpdates : ∀ a ∈ db.attempts, a.kind = .subscriptionPaymentMethodUpdate →
    a.status = .approved → HasPrimaryCharge a db.ledger.charges

/-- A statement on the ledger keeps the relation. -/
theorem Db.ChargesLinked.of_ledger {now : Timestamp} {db : Db} {ledger : ChargeLedger}
    (h : db.ChargesLinked) (hvalid : ChargesValid db.ledger.charges)
    (htraced : ChargesTraced now db.dimensions db.ledger.charges ledger.charges)
    (hattested : ledger.Attested) : ({ db with ledger } : Db).ChargesLinked where
  dimensions c' hc' := by
    rcases htraced.origins c' hc' with ⟨c, hc, hsame, -⟩ | ⟨hknown, -⟩
    · rw [hsame]
      exact h.dimensions c hc
    · exact hknown
  attested := hattested
  methodUpdates a ha hkind hstatus := by
    obtain ⟨c, hc, hattempt, hrole, htx, hsame⟩ := h.methodUpdates a ha hkind hstatus
    obtain ⟨c', hc', hcontinues⟩ := htraced.rows hvalid c hc
    have htx' := hcontinues.transaction htx
    exact ⟨c', hc', (congrArg ChargeDimensions.attemptId hcontinues.dimensions).trans hattempt,
      hcontinues.role.trans hrole, htx' ▸ htx, htx'.trans hsame⟩

/-- A statement on the attempts keeps the relation when an update of a method that it approves has
its charge. -/
theorem Db.ChargesLinked.of_attempts {db : Db} {attempts : List PaymentAttempt}
    (h : db.ChargesLinked) (hkept : db.dimensions ⊆ attempts.map (·.chargeDimensions))
    (hupdates : ∀ a' ∈ attempts, a'.kind = .subscriptionPaymentMethodUpdate →
      a'.status = .approved → (∃ a ∈ db.attempts, a.id = a'.id ∧ a.kind = a'.kind ∧
        a.status = .approved ∧ a'.evidence.transactionId = a.evidence.transactionId) ∨
        HasPrimaryCharge a' db.ledger.charges) :
    ({ db with attempts } : Db).ChargesLinked where
  dimensions c hc := hkept (h.dimensions c hc)
  attested := h.attested
  methodUpdates a' ha' hkind' hstatus' := by
    rcases hupdates a' ha' hkind' hstatus' with ⟨a, ha, hid, hkind, hstatus, htx⟩ | hcharge
    rotate_left
    · exact hcharge
    obtain ⟨c, hc, hattempt, hrole, hsome, hsame⟩ :=
      h.methodUpdates a ha (hkind.trans hkind') hstatus
    exact ⟨c, hc, hattempt.trans hid, hrole, hsome, hsame.trans htx.symm⟩

/-- The dimensions are part of the request. -/
theorem PaymentAttempt.SameRequest.chargeDimensions {a a' : PaymentAttempt} (h : a.SameRequest a') :
    a'.chargeDimensions = a.chargeDimensions := by
  have hrequest : a'.request = a.request := h
  simp only [PaymentAttempt.request, AttemptRequest.mk.injEq] at hrequest
  simp only [PaymentAttempt.chargeDimensions, hrequest, h.kind]

/-- A writer leaves the transaction of an approved attempt. -/
theorem AttemptWriter.transactionId_of_approved {now : Timestamp} {w : AttemptWriter}
    {a a' : PaymentAttempt} (h : w.write now a = .ok a') (hstatus : a.status = .approved) :
    a'.evidence.transactionId = a.evidence.transactionId := by
  have unmatched (hm : w.matched now a = false) :
      a'.evidence.transactionId = a.evidence.transactionId := by
    rcases AttemptWriter.write_of_not_matched hm with hw | hw
    · rw [hw] at h
      cases h
    · rw [hw] at h
      obtain rfl := Except.ok.inj h
      rfl
  have stored {m : Bool} {new : PaymentAttempt}
      (hu : orUnchanged a (PaymentAttempt.update now m new) = .ok a')
      (hnew : new.evidence.transactionId = a.evidence.transactionId) :
      a'.evidence.transactionId = a.evidence.transactionId := by
    rcases orUnchanged_eq_ok hu with rfl | hu
    · rfl
    · obtain ⟨-, -, r, rfl⟩ := PaymentAttempt.update_eq_some hu
      exact hnew
  -- Of the writers that match an approved row, none touches its transaction.
  cases w with
  | claim => exact stored h rfl
  | observe o =>
    simp only [AttemptWriter.write, applyExactQueryObservation] at h
    split at h
    · obtain rfl := Except.ok.inj h
      rfl
    · exact stored h rfl
    · exact stored h rfl
    · exact stored h rfl
  | persist e t =>
    refine unmatched ?_
    cases t <;> simp [AttemptWriter.matched, AttemptTransition.accepts, hstatus,
      PaymentAttemptStatus.isResolvable]
  | attest c =>
    exact unmatched (by simp [AttemptWriter.matched, PaymentAttemptStatus.isTerminal, hstatus])
  | _ =>
    refine unmatched ?_
    simp [AttemptWriter.matched, PaymentAttempt.isPrepared, hstatus,
      PaymentAttemptStatus.isResolvable, PaymentAttempt.isStaleUnsubmitted]

/-! ## The quiet frame -/

/-- What a quiet program at the time `now` may change: attempts, by quiet writers, and charges. -/
structure Quiet (now : Timestamp) (db db' : Db) : Prop where
  frame : ∃ attempts ledger, db' = { db with attempts, ledger }
  charges : ChargesKept db.ledger.charges db'.ledger.charges
  rows : List.Forall₂ (RowQuiet now) db.attempts db'.attempts
  indexes : attemptIndexes db.attempts = true → attemptIndexes db'.attempts = true
  linked : ChargesValid db.ledger.charges → db.ChargesLinked → db'.ChargesLinked
  dated : (∀ c ∈ db.ledger.charges, c.createdAt ≤ now) → ∀ c ∈ db'.ledger.charges, c.createdAt ≤ now

section Quiet

variable {now : Timestamp} {db db' db'' : Db}

/-- A program that changes nothing. -/
theorem Quiet.refl (now : Timestamp) (db : Db) : Quiet now db db :=
  ⟨⟨_, _, rfl⟩, .refl _, List.forall₂_same.mpr fun a _ => .refl now a, id, fun _ => id, id⟩

/-- One quiet program after another. -/
theorem Quiet.trans (h : Quiet now db db') (h' : Quiet now db' db'') : Quiet now db db'' := by
  have hrows : List.Forall₂ (RowQuiet now) db.attempts db''.attempts :=
    Table.forall₂_trans (fun _ _ _ hab hbc => hab.trans hbc) h.rows h'.rows
  have hcharges := h.charges.trans h'.charges
  have hindexes := h'.indexes ∘ h.indexes
  refine ⟨?_, hcharges, hrows, hindexes,
    fun hvalid hlinked => h'.linked (h.charges.valid hvalid) (h.linked hvalid hlinked),
    h'.dated ∘ h.dated⟩
  obtain ⟨attempts, ledger, rfl⟩ := h.frame
  obtain ⟨attempts', ledger', rfl⟩ := h'.frame
  exact ⟨_, _, rfl⟩

instance : Std.Refl (Quiet now) := ⟨Quiet.refl now⟩

instance : IsTrans Db (Quiet now) := ⟨fun _ _ _ => Quiet.trans⟩

/-- No charge is from the future. -/
theorem ChargesTraced.dated {known : List ChargeDimensions}
    {charges charges' : List ProcessorCharge} (h : ChargesTraced now known charges charges')
    (hbefore : ∀ c ∈ charges, c.createdAt ≤ now) :
    ∀ c ∈ charges', c.createdAt ≤ now := by
  intro c' hc'
  rcases h.origins c' hc' with ⟨c, hc, -, hcreated⟩ | ⟨-, hcreated⟩
  · exact hcreated.trans_le (hbefore c hc)
  · exact hcreated.le

/-- A statement on the charges is quiet. -/
theorem Quiet.of_charges {charges : List ProcessorCharge}
    (h : ChargesTraced now db.dimensions db.ledger.charges charges) :
    Quiet now db (db.withCharges charges) := by
  refine ⟨⟨_, _, rfl⟩, h.toChargesKept, List.forall₂_same.mpr fun a _ => .refl now a, id,
    fun hvalid hlinked => ?_, h.dated⟩
  exact hlinked.of_ledger hvalid h (hlinked.attested.of_kept hvalid h.toChargesKept rfl)

/-- Rows that quiet writers kept have the dimensions that they had. -/
theorem map_chargeDimensions_of_rows {attempts attempts' : List PaymentAttempt}
    (h : List.Forall₂ (RowQuiet now) attempts attempts') :
    attempts'.map (·.chargeDimensions) = attempts.map (·.chargeDimensions) := by
  induction h with
  | nil => rfl
  | cons hrow _ ih => rw [List.map_cons, List.map_cons, hrow.same.chargeDimensions, ih]

/-- A quiet program leaves the dimensions of the attempts. -/
theorem Quiet.dimensions (h : Quiet now db db') : db'.dimensions = db.dimensions :=
  map_chargeDimensions_of_rows h.rows

/-- A quiet writer approves no update of a method. -/
theorem QuietWriter.approved_of_write {w : AttemptWriter} {a a' : PaymentAttempt}
    (hquiet : QuietWriter a w) (hw : w.write now a = .ok a')
    (hkind : a'.kind = .subscriptionPaymentMethodUpdate) (hstatus : a'.status = .approved) :
    a.id = a'.id ∧ a.kind = a'.kind ∧ a.status = .approved ∧
      a'.evidence.transactionId = a.evidence.transactionId := by
  have hsame := (AttemptWriter.rowQuiet hw hquiet.toFrameWriter).same
  have happroved : a.status = .approved := by
    rcases AttemptWriter.write_stores hw with rfl | hs
    · exact hstatus
    · rcases hs.approved hstatus with happ | heq
      · rw [hquiet.updates (hsame.kind.symm.trans hkind)] at happ
        cases happ
      · rw [← heq, hstatus]
  exact ⟨hsame.id.symm, hsame.kind.symm, happroved, AttemptWriter.transactionId_of_approved hw
    happroved⟩

/-- The rows of a writer on one attempt. -/
theorem rowQuiet_of_writeAttempt {e : StoreError} {id : Id} {w : AttemptWriter}
    {attempts : List PaymentAttempt} (hindex : attemptIndexes db.attempts = true)
    (h : writeAttempt now e id w db.attempts = .ok attempts)
    (hquiet : ∀ a ∈ db.attempts, a.id = id → FrameWriter a w) :
    List.Forall₂ (RowQuiet now) db.attempts attempts ∧ attemptIndexes attempts = true := by
  obtain ⟨a, ha, rfl, a', hw, rfl, hindex'⟩ := writeAttempt_eq_ok h
  refine ⟨Table.forall₂_updateWhere (fun b hb hp => ?_) fun b => .refl now b, hindex'⟩
  obtain rfl := nodup_id_of_attemptIndexes hindex hb ha (of_decide_eq_true hp)
  exact AttemptWriter.rowQuiet hw (hquiet b ha rfl)

/-- A quiet writer on one row. -/
theorem Quiet.of_writeAttempt {e : StoreError} {id : Id} {w : AttemptWriter}
    {attempts : List PaymentAttempt} (hindex : attemptIndexes db.attempts = true)
    (h : writeAttempt now e id w db.attempts = .ok attempts)
    (hquiet : ∀ a ∈ db.attempts, a.id = id → QuietWriter a w) :
    Quiet now db { db with attempts } := by
  obtain ⟨hrows, hindex'⟩ := rowQuiet_of_writeAttempt hindex h fun a ha hid =>
    (hquiet a ha hid).toFrameWriter
  refine ⟨⟨_, _, rfl⟩, .refl _, hrows, fun _ => hindex', fun _ hlinked => ?_, fun h => h⟩
  refine hlinked.of_attempts (map_chargeDimensions_of_rows hrows ▸ List.Subset.refl _)
    fun a' ha' hkind hstatus => ?_
  obtain ⟨a, ha, rfl, a₁, hw, rfl, -⟩ := writeAttempt_eq_ok h
  obtain ⟨b, hb, rfl⟩ := Table.mem_updateWhere.mp ha'
  by_cases hid : b.id = a.id
  · obtain rfl := nodup_id_of_attemptIndexes hindex hb ha hid
    simp only [decide_true, if_true] at hkind hstatus ⊢
    exact .inl ⟨b, hb, (hquiet b hb rfl).approved_of_write hw hkind hstatus⟩
  · simp only [hid, decide_false, Bool.false_eq_true, if_false] at hkind hstatus ⊢
    exact .inl ⟨b, hb, rfl, rfl, hstatus, rfl⟩

/-- A quiet writer on many rows. -/
theorem Quiet.of_writeAttempts {p : PaymentAttempt → Bool} {w : AttemptWriter}
    {attempts : List PaymentAttempt} (h : writeAttempts now p w db.attempts = .ok attempts)
    (hquiet : ∀ a ∈ db.attempts, p a = true → QuietWriter a w) :
    Quiet now db { db with attempts } := by
  obtain ⟨hall, hindex⟩ := forall₂_of_writeAttempts h
  have hrows : List.Forall₂ (RowQuiet now) db.attempts attempts := by
    refine List.forall₂_iff_zip.mpr ⟨hall.length_eq, fun hzip => ?_⟩
    have ha := (List.of_mem_zip hzip).1
    rcases (List.forall₂_iff_zip.mp hall).2 hzip with ⟨hp, hw⟩ | ⟨-, heq⟩
    · exact AttemptWriter.rowQuiet hw (hquiet _ ha hp).toFrameWriter
    · rw [heq]
      exact .refl now _
  refine ⟨⟨_, _, rfl⟩, .refl _, hrows, fun _ => hindex, fun _ hlinked => ?_, id⟩
  refine hlinked.of_attempts (map_chargeDimensions_of_rows hrows ▸ List.Subset.refl _)
    fun a' ha' hkind hstatus => ?_
  obtain ⟨a, ha, ⟨hp, hw⟩ | ⟨-, rfl⟩⟩ := Table.exists_of_mem_right hall ha'
  · exact .inl ⟨a, ha, (hquiet a ha hp).approved_of_write hw hkind hstatus⟩
  · exact .inl ⟨a', ha, rfl, rfl, hstatus, rfl⟩

/-- A transaction with a quiet statement on one attempt. -/
theorem ensures_writeAttempt {e : StoreError} {id : Id} {w : AttemptWriter}
    (hindex : attemptIndexes db.attempts = true)
    (hquiet : ∀ a ∈ db.attempts, a.id = id → QuietWriter a w) :
    Ensures (onAttempts (writeAttempt now e id w)) db fun _ db' => Quiet now db db' :=
  ensures_onAttempts.mpr fun _ h => Quiet.of_writeAttempt hindex h hquiet

/-- A transaction with a quiet statement on many attempts. -/
theorem ensures_writeAttempts {p : PaymentAttempt → Bool} {w : AttemptWriter}
    (hquiet : ∀ a ∈ db.attempts, p a = true → QuietWriter a w) :
    Ensures (onAttempts (writeAttempts now p w)) db fun _ db' => Quiet now db db' :=
  ensures_onAttempts.mpr fun _ h => Quiet.of_writeAttempts h hquiet

/-- Whether a writer neither approves, nor admits, nor reopens. -/
def AttemptWriter.isPlain : AttemptWriter → Bool
  | .admitPrepared | .persist _ (.approved _) | .persist _ (.lateApprovalReview ..) => false
  | _ => true

/-- A plain writer is quiet on every row. -/
theorem AttemptWriter.quietWriter_of_isPlain {w : AttemptWriter} (h : w.isPlain = true)
    (a : PaymentAttempt) : QuietWriter a w := by
  have happroves : w.approves = false := by
    cases w with
    | persist e t => cases t with
      | approved _ => simp [isPlain] at h
      | _ => rfl
    | _ => rfl
  refine ⟨⟨fun _ => happroves, fun _ => ?_, fun _ => ?_, ?_⟩, fun _ => happroves⟩
  · rintro rfl
    simp [isPlain] at h
  · rintro ⟨e, c, m, rfl⟩
    simp [isPlain] at h
  · rintro e s m rfl
    simp [isPlain] at h

/-! ## Charges -/

/-- What a program that only writes charges may change. -/
def LedgerOnly (now : Timestamp) (db db' : Db) : Prop :=
  ∃ charges, db' = db.withCharges charges ∧
    ChargesTraced now db.dimensions db.ledger.charges charges

/-- A store that stays as it is. -/
theorem LedgerOnly.refl (now : Timestamp) (db : Db) : LedgerOnly now db db := ⟨_, rfl, .refl _⟩

/-- One change of the ledger after another. -/
theorem LedgerOnly.trans (h : LedgerOnly now db db') (h' : LedgerOnly now db' db'') :
    LedgerOnly now db db'' := by
  obtain ⟨charges, rfl, hkept⟩ := h
  obtain ⟨charges', rfl, hkept'⟩ := h'
  exact ⟨charges', rfl, hkept.trans hkept'⟩

instance : Std.Refl (LedgerOnly now) := ⟨LedgerOnly.refl now⟩

instance : IsTrans Db (LedgerOnly now) := ⟨fun _ _ _ => LedgerOnly.trans⟩

/-- A program that only writes charges is quiet. -/
theorem LedgerOnly.quiet (h : LedgerOnly now db db') : Quiet now db db' := by
  obtain ⟨charges, rfl, hkept⟩ := h
  exact .of_charges hkept

/-- Such a program leaves the attempts. -/
theorem LedgerOnly.attempts (h : LedgerOnly now db db') : db'.attempts = db.attempts := by
  obtain ⟨charges, rfl, -⟩ := h
  rfl

/-- An observation. -/
theorem ensures_observe {newId : Id} {a : PaymentAttempt} {evidence : ProcessorEvidence}
    {requested : ProcessorChargeProgression} :
    Ensures (observe now newId a evidence requested) db fun o db' =>
      ∃ charges, db' = db.withCharges charges ∧
        Observes now a evidence db.ledger.charges charges o :=
  ensures_onCharges.mpr fun charges _ h => ⟨charges, rfl, observeProcessorCharge_observes h⟩

/-- An observation only writes charges. -/
theorem Observes.ledgerOnly {a : PaymentAttempt} {evidence : ProcessorEvidence}
    {charges : List ProcessorCharge} {o : ObservedCharge}
    (hknown : a.chargeDimensions ∈ db.dimensions)
    (h : Observes now a evidence db.ledger.charges charges o) :
    LedgerOnly now db (db.withCharges charges) :=
  ⟨charges, rfl, h.kept.mono (by simpa using hknown)⟩

/-- A row of the table is known. -/
theorem mem_dimensions {a : PaymentAttempt} (ha : a ∈ db.attempts) :
    a.chargeDimensions ∈ db.dimensions :=
  List.mem_map_of_mem ha

/-- An observation for an attempt that is known only writes charges. -/
theorem ensures_observeKnown {newId : Id} {a : PaymentAttempt} {evidence : ProcessorEvidence}
    {requested : ProcessorChargeProgression} (hknown : a.chargeDimensions ∈ db.dimensions) :
    Ensures (observe now newId a evidence requested) db fun _ db' => LedgerOnly now db db' :=
  ensures_observe.mono fun _ _ ⟨_, hdb, h⟩ => hdb ▸ h.ledgerOnly hknown

/-- A transition only writes charges. -/
theorem moveCharge_ledgerOnly (chargeId : Id) (progression : ProcessorChargeProgression)
    (code : Option PaymentResolutionCode) :
    Keeps (LedgerOnly now) (moveCharge now chargeId progression code) := by
  intro db
  refine ensures_onCharges.mpr fun charges _ h => ⟨charges, rfl, ?_⟩
  obtain ⟨rows, hrows, hpair⟩ := map_eq_ok.mp h
  obtain ⟨rfl, -⟩ := Prod.mk.inj hpair
  exact transitionCharge_traced hrows

/-- The transition of an expired approval only writes charges. -/
theorem moveExpiredCharge_ledgerOnly (chargeId : Id) :
    Keeps (LedgerOnly now) (moveExpiredCharge now chargeId) := by
  intro db
  refine ensures_onCharges.mpr fun charges _ h => ⟨charges, rfl, ?_⟩
  obtain ⟨rows, hrows, hpair⟩ := map_eq_ok.mp h
  obtain ⟨rfl, -⟩ := Prod.mk.inj hpair
  exact transitionProcessorCharge_traced (by decide) hrows

/-- The promotion of a conflicting charge only writes charges. -/
theorem promoteConflictingCharge_ledgerOnly (observation : ObservedCharge) :
    Keeps (LedgerOnly now) (promoteConflictingCharge now observation) := by
  cases observation with
  | ownedByOtherAttempt => exact keeps_pure ()
  | owned charge =>
    refine keeps_get.bind fun db => ?_
    split
    · exact keeps_throw _
    · split
      · exact moveCharge_ledgerOnly _ _ _
      · exact moveCharge_ledgerOnly _ _ _
      · exact keeps_pure ()
      · exact keeps_pure ()
      · exact keeps_throw _

/-- The payment of a conflicting approval only writes charges, and nothing when it does not stop the
application. -/
theorem ensures_stopConflicting {newId : Id} {a : PaymentAttempt} {evidence : ProcessorEvidence}
    (ha : a ∈ db.attempts) :
    Ensures (stopConflictingSubscriptionApproval now newId a evidence) db fun r db' =>
      LedgerOnly now db db' ∧ (r = none → db' = db) := by
  have stop {db₁ : Db} (h₁ : LedgerOnly now db db₁) :
      Ensures (some <$> paymentResultForAttempt a) db₁ fun r db' =>
        LedgerOnly now db db' ∧ (r = none → db' = db) := by
    rw [map_eq_pure_bind, ensures_bind]
    exact ensures_paymentResultForAttempt (ensures_pure.mpr ⟨h₁, nofun⟩)
  unfold stopConflictingSubscriptionApproval
  rw [ensures_ite]
  refine ⟨fun _ => ensures_pure.mpr ⟨.refl now db, fun _ => rfl⟩, fun _ => ?_⟩
  rw [ensures_ite]
  refine ⟨fun _ => ensures_pure.mpr ⟨.refl now db, fun _ => rfl⟩, fun _ => ?_⟩
  rw [ensures_ite]
  refine ⟨fun _ => stop (.refl now db), fun _ => ?_⟩
  rw [ensures_bind]
  refine (ensures_observeKnown (mem_dimensions ha)).mono fun observation db₁ h₁ => ?_
  rw [ensures_ite]
  refine ⟨fun _ => ?_, fun _ => stop h₁⟩
  rw [ensures_bind]
  exact (promoteConflictingCharge_ledgerOnly _ db₁).mono fun _ db₂ h₂ => stop (h₁.trans h₂)

/-! ## Parking -/

/-- An attempt that a parking may put under review: a charge of a subscription is still open. -/
def MayPark (a : PaymentAttempt) (db : Db) : Prop :=
  attemptIndexes db.attempts = true ∧ a ∈ db.attempts ∧
    (a.isSubscriptionCharge = true → a.status.isResolvable = true)

/-- Charges have no part in it. -/
theorem MayPark.of_ledgerOnly {a : PaymentAttempt} (h : MayPark a db)
    (hdb : LedgerOnly now db db') : MayPark a db' := by
  rw [MayPark, hdb.attempts]
  exact h

/-- A parking is quiet. -/
theorem ensures_parkLockedAttempt {a : PaymentAttempt} {evidence : ProcessorEvidence}
    {code : Option PaymentResolutionCode} {message : String} (h : MayPark a db) :
    Ensures (parkLockedAttempt now a evidence code message) db fun _ db' => Quiet now db db' := by
  obtain ⟨hindex, ha, hopen⟩ := h
  rw [parkLockedAttempt, ensures_bind]
  refine (ensures_writeAttempt hindex fun b hb hid => ?_).mono fun _ db' hq => ?_
  · obtain rfl := nodup_id_of_attemptIndexes hindex hb ha hid
    exact ⟨⟨fun _ => rfl, fun _ => nofun, fun hc _ => hopen hc, fun _ _ _ h => by cases h⟩,
      fun _ => rfl⟩
  · exact ensures_requireAttempt fun _ _ _ _ => hq

/-- The parking of an approval whose period has expired is quiet. -/
theorem ensures_parkExpiredPeriodApproval {a : PaymentAttempt} {chargeId : Id}
    {evidence : ProcessorEvidence} (h : MayPark a db) :
    Ensures (parkExpiredPeriodApproval now a chargeId evidence) db fun _ db' =>
      Quiet now db db' := by
  rw [parkExpiredPeriodApproval, ensures_bind]
  refine (moveExpiredCharge_ledgerOnly chargeId db).mono fun _ db₁ h₁ => ?_
  exact (ensures_parkLockedAttempt (h.of_ledgerOnly h₁)).mono fun _ _ hq => h₁.quiet.trans hq

/-- A transition before a parking. -/
theorem ensures_moveCharge_parkLocked {a : PaymentAttempt} {chargeId : Id}
    {progression : ProcessorChargeProgression} {evidence : ProcessorEvidence}
    {code code' : Option PaymentResolutionCode} {message : String} (h : MayPark a db) :
    Ensures (do
      moveCharge now chargeId progression code
      parkLockedAttempt now a evidence code' message) db fun _ db' => Quiet now db db' := by
  rw [ensures_bind]
  refine (moveCharge_ledgerOnly chargeId progression code db).mono fun _ db₁ h₁ => ?_
  exact (ensures_parkLockedAttempt (h.of_ledgerOnly h₁)).mono fun _ _ hq => h₁.quiet.trans hq

/-- An observed approval whose period has expired is quiet, also for an attempt that has ended; an
attempt that it does not park stays. -/
theorem ensures_parkObserved {a : PaymentAttempt} {observation : ObservedCharge}
    {evidence : ProcessorEvidence} {expiredPeriodEnd : Option Timestamp}
    (hindex : attemptIndexes db.attempts = true) (ha : a ∈ db.attempts) :
    Ensures (parkObservedApprovalIfPeriodExpired now a observation evidence expiredPeriodEnd) db
      fun r db' => Quiet now db db' ∧ (r = none → LedgerOnly now db db') := by
  unfold parkObservedApprovalIfPeriodExpired
  split
  · exact ensures_pure.mpr ⟨.refl now db, fun _ => .refl now db⟩
  · rw [ensures_ite]
    refine ⟨fun _ => ?_, fun hterminal => ?_⟩
    · rw [ensures_bind, ensures_get, ensures_ite]
      refine ⟨fun _ => ensures_pure.mpr ⟨.refl now db, fun _ => .refl now db⟩, fun _ => ?_⟩
      rw [ensures_bind]
      exact (moveExpiredCharge_ledgerOnly _ db).mono
        fun _ _ h₁ => ensures_pure.mpr ⟨h₁.quiet, fun _ => h₁⟩
    · have hopen : a.status.isResolvable = true := by
        simpa [PaymentAttemptStatus.isTerminal_eq_not] using hterminal
      rw [map_eq_pure_bind, ensures_bind]
      exact (ensures_parkExpiredPeriodApproval ⟨hindex, ha, fun _ => hopen⟩).mono
        fun _ _ hq => ensures_pure.mpr ⟨hq, nofun⟩

/-- The compensation of an approval of an attempt that may be parked is quiet. -/
theorem ensures_parkCompensated {newId : Id} {a : PaymentAttempt} {evidence : ProcessorEvidence}
    {message : String} {expiredPeriodEnd : Option Timestamp} (h : MayPark a db) :
    Ensures (parkCompensatedApprovedAttempt now newId a evidence message expiredPeriodEnd) db
      fun _ db' => Quiet now db db' := by
  unfold parkCompensatedApprovedAttempt
  rw [ensures_ite]
  refine ⟨fun _ => ?_, fun _ => ?_⟩
  · rw [ensures_bind]
    exact (ensures_observeKnown (mem_dimensions h.2.1)).mono fun _ _ h₁ => ensures_pure.mpr h₁.quiet
  · rw [ensures_bind]
    refine (ensures_observeKnown (mem_dimensions h.2.1)).mono fun observation db₁ h₁ => ?_
    obtain ⟨hindex, ha, hopen⟩ := h.of_ledgerOnly h₁
    rw [ensures_bind]
    refine (ensures_parkObserved hindex ha).mono fun parked db₂ hpost => ?_
    obtain ⟨hquiet, hnone⟩ := hpost
    cases parked with
    | some parked => exact ensures_pure.mpr (h₁.quiet.trans hquiet)
    | none =>
      have h₂ := h₁.trans (hnone rfl)
      exact (ensures_parkLockedAttempt (h.of_ledgerOnly h₂)).mono fun _ _ hq => h₂.quiet.trans hq

end Quiet

end SyrupRail
