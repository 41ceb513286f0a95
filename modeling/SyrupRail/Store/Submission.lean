import SyrupRail.Lib.Capability
import SyrupRail.Store.Enroll
import SyrupRail.Store.HostTargets

/-!
# One request for each admission

An admission that commits yields a one-shot capability, which its holder spends on a single request
to the gateway. A request that the gateway has provably not submitted may be undone by restoring the
prepared attempt; renewals have no such replay. Holders crash, answers are lost, and workers and
other calls change the store between any two steps.

The admissions and the restores are programs over the store, and everything else that changes it is
an operation of the engine or of the deployment. None of those makes a submitted attempt a prepared
one, so that the rules of one-shot capabilities apply: no attempt is asked for again before its last
request was refused and restored.
-/

namespace SyrupRail

open Transactions Tx Capability

/-! ## Capabilities -/

/-- The reservation of an attempt of any kind, in a deployment whose contacts are `κ`. -/
inductive SubmissionReservation (κ : Type)
  | enrollment (r : Enrollment.SubscriptionEnrollmentReservation κ)
  | charge (r : SubscriptionChargeReservation)
  | replacement (r : SubscriptionPaymentMethodReplacement)
  | host (r : HostChargeReservation)

/-- The stored credential that the admission of a renewal captures. -/
structure RenewalCredential where
  paymentMethodReference : String
  firstChargeAfterPaidTrial : Bool
  deriving DecidableEq, Repr

/-- `AdmittedSubscriptionEnrollment` and its siblings. Only a renewal captures a credential. -/
structure Admitted (κ : Type) where
  reservation : SubmissionReservation κ
  attempt : PaymentAttempt
  credential : Option RenewalCredential

/-- `GatewaySaleIntent`, without the payment token that the command of a customer brings. -/
inductive GatewaySaleIntent
  | initialStoredCredential
  | oneTime
  | recurringStoredCredential (paymentMethodReference initialTransactionId : String)
      (firstChargeAfterPaidTrial : Bool)
  deriving DecidableEq, Repr

/-- `GatewaySaleRequest` and `GatewayStorePaymentMethodRequest`, without the billing contact. -/
inductive GatewayRequest
  | sale (charge : Money) (gatewayOrderId : String) (intent : GatewaySaleIntent)
  | storePaymentMethod (gatewayOrderId : String)
  deriving DecidableEq, Repr

namespace SubmissionReservation

variable {κ : Type}

/-- The identity of the reserved attempt. -/
def identity : SubmissionReservation κ → PaymentAttemptIdentity
  | .enrollment r => r.identity
  | .charge r => r.identity
  | .replacement r => r.identity
  | .host r => r.identity

/-- Whether a submission finds the request of its attempt in the reservation; an enrollment looks at
its command instead. -/
def requestMatches : SubmissionReservation κ → PaymentAttempt → Bool
  | .enrollment _, _ => true
  | .charge r, a => r.requestMatches a
  | .replacement r, a => r.requestMatches a
  | .host r, a => r.matchesAttempt a

/-- `prepared_attempt_replay`: a renewal has none. -/
def replaysPrepared : SubmissionReservation κ → Bool
  | .charge r => r.kind = .recovery
  | .enrollment _ | .replacement _ | .host _ => true

end SubmissionReservation

/-- What a sale of an admission is for. -/
def Admitted.intent {κ : Type} (c : Admitted κ) : GatewaySaleIntent :=
  match c.reservation, c.credential with
  | .charge r, some credential =>
    .recurringStoredCredential credential.paymentMethodReference r.expected.initialTransactionId
      credential.firstChargeAfterPaidTrial
  | .host _, _ => .oneTime
  | _, _ => .initialStoredCredential

/-- What a sale of an admission charges. -/
def Admitted.charge {κ : Type} (c : Admitted κ) : Money :=
  match c.reservation with
  | .host r => r.snapshot.charge
  | .enrollment _ | .charge _ | .replacement _ => c.attempt.amount

/-- The request of `submit_admitted_subscription_enrollment` and its siblings, unless the admission
is not one of the reserved attempt. -/
def Admitted.request {κ : Type} (c : Admitted κ) : Option GatewayRequest :=
  if c.attempt.identity ≠ c.reservation.identity ∨ c.reservation.requestMatches c.attempt = false ∨
      c.attempt.status ≠ .pending ∨ c.attempt.submittedAt = none then none
  else
    match c.reservation with
    | .replacement _ => some (.storePaymentMethod c.attempt.gatewayOrderId)
    | .enrollment _ | .charge _ | .host _ =>
      if c.charge.isChargeAmount then some (.sale c.charge c.attempt.gatewayOrderId c.intent)
        else none

/-! ## Admissions and restores -/

/-- The credential that `admit_subscription_renewal_submission_with_policy` captures after the
admission. -/
def captureRenewalCredential (r : SubscriptionChargeReservation) : Program RenewalCredential := do
  let db ← get
  match db.paymentMethods.find? fun m => m.id = r.expected.paymentMethodId ∧
      m.billingScopeId = r.identity.billingScopeId ∧ m.subscriberId = r.identity.subscriberId ∧
      m.gatewayAccountId = r.identity.gatewayAccountId ∧ m.status = .active with
  | none => throw invalidApplicationState
  | some method =>
    match db.subscriptions.find? fun s => s.id = r.expected.subscriptionId ∧
        s.billingScopeId = r.identity.billingScopeId ∧ s.subscriberId = r.identity.subscriberId with
    | none => throw invalidApplicationState
    | some s => pure ⟨method.reference, s.phase = .paidTrial⟩

/-- The credential of an admitted charge. -/
def captureCredential (r : SubscriptionChargeReservation) : Program (Option RenewalCredential) :=
  match r.kind with
  | .renewal => some <$> captureRenewalCredential r
  | .recovery => pure none

section Programs

variable {η κ : Type} (targets : HostChargeTargetStore η) (sources : EnrollmentSources η κ)
    (now : Timestamp)

/-- `admit_subscription_renewal_submission_with_policy` and its recovery. -/
def admitCharge (policy : SubscriptionPeriodExpiryPolicy) (r : SubscriptionChargeReservation) :
    Program (Option (Admitted κ)) := do
  match ← admitSubmission now policy r with
  | .admitted a =>
    let credential ← captureCredential r
    pure (some ⟨.charge r, a, credential⟩)
  | .alreadyAdmitted _ => pure none
  | .rejected _ _ => pure none

/-- `admit_subscription_payment_method_replacement`. -/
def admitMethodReplacement (r : SubscriptionPaymentMethodReplacement) :
    Program (Option (Admitted κ)) := do
  match ← admitReplacement now r with
  | .admitted a => pure (some ⟨.replacement r, a, none⟩)
  | .alreadyAdmitted _ => pure none
  | .rejected _ _ => pure none

/-- `admit_subscription_enrollment_submission`. -/
def admitEnrollment (r : Enrollment.SubscriptionEnrollmentReservation κ) :
    HostProgram η (Option (Admitted κ)) := do
  match ← admitSubscriptionEnrollment sources now r with
  | .admitted a => pure (some ⟨.enrollment r, a, none⟩)
  | .alreadyAdmitted _ => pure none
  | .rejected _ _ => pure none

/-- `admit_host_charge_submission`. -/
def admitHostCharge (r : HostChargeReservation) : HostProgram η (Option (Admitted κ)) := do
  match ← admitHostChargeSubmission targets now r with
  | .admitted a => pure (some ⟨.host r, a, none⟩)
  | .alreadyAdmitted _ => pure none
  | .rejected _ _ => pure none

/-- The admission of a reservation. Only one that commits yields a capability, and only when it was
this one that admitted the attempt. -/
def SubmissionReservation.admission (policy : SubscriptionPeriodExpiryPolicy) :
    SubmissionReservation κ → HostProgram η (Option (Admitted κ))
  | .enrollment r => admitEnrollment sources now r
  | .charge r => onEngine (admitCharge now policy r)
  | .replacement r => onEngine (admitMethodReplacement now r)
  | .host r => admitHostCharge targets now r

/-- `restore_admitted_attempt_for_retry` and `restore_admitted_host_charge_for_retry`. -/
def SubmissionReservation.restore : SubmissionReservation κ → Program PaymentAttempt
  | .enrollment r =>
    restoreAdmittedAttemptForRetry now (.initial ⟨r.identity, r.planKey, r.gatewayOrderId⟩)
  | .charge r => restoreAdmittedAttemptForRetry now (.charge r)
  | .replacement r => restoreAdmittedAttemptForRetry now (.replacement r)
  | .host r => restoreAdmittedHostCharge now r

end Programs

/-! ## Runs -/

/-- Whether an operation restores a prepared attempt. -/
def Op.isRestore : Op → Bool
  | .restore _ => true
  | _ => false

/-- The same of an operation between host charges. -/
def HostOp.isRestore : HostOp → Bool
  | .engine op _ => op.isRestore
  | .restore _ => true
  | _ => false

/-- The steps of the holders of capabilities, who are known by their places, and of everybody else.
An admission whose answer is lost is one whose holder never submits. -/
inductive Move (κ : Type)
  | transact (op : HostOp) (kept : op.isRestore = false)
  | reserveEnrollment (r : Enrollment.SubscriptionEnrollmentReservation κ)
  | admission (policy : SubscriptionPeriodExpiryPolicy) (r : SubmissionReservation κ)
  | submit (i : ℕ)
  | answer (i : ℕ)
  | refuse (i : ℕ)
  | restore (i : ℕ)

/-- The deployment with the capabilities that were granted in it. -/
abbrev SubmissionDesk (η κ : Type) := Desk (HostBilling η) (Admitted κ)

namespace SubmissionDesk

variable {η κ : Type}

/-- The request of a capability goes on from a stage. -/
def act (i : ℕ) (p p' : Stage) (ready : Admitted κ → Bool) (d : SubmissionDesk η κ) :
    SubmissionDesk η κ :=
  match d.granted[i]? with
  | some (c, q) => if q = p ∧ ready c then ⟨d.store, d.granted.set i (c, p')⟩ else d
  | none => d

/-- `apply_resumable_not_submitted_policy`, where the policy restores. -/
def restore (now : Timestamp) (i : ℕ) (d : SubmissionDesk η κ) : SubmissionDesk η κ :=
  match d.granted[i]? with
  | some (c, .refused) =>
    if c.reservation.replaysPrepared then
      match onEngine (c.reservation.restore now) (d.store.at now) with
      | .ok (_, s) => ⟨s, d.granted.set i (c, .returned)⟩
      | .error _ => ⟨d.store.at now, d.granted⟩
    else d
  | _ => d

/-- The desk after a transaction that may grant a capability. -/
def grant (d : SubmissionDesk η κ) (now : Timestamp) (x : HostProgram η (Option (Admitted κ))) :
    SubmissionDesk η κ :=
  match x (d.store.at now) with
  | .ok (some c, s) => ⟨s, d.granted ++ [(c, .held)]⟩
  | .ok (none, s) => ⟨s, d.granted⟩
  | .error _ => ⟨d.store.at now, d.granted⟩

end SubmissionDesk

/-- The desk after a step that starts `elapsed` microseconds after the previous transaction. -/
def execSubmission {η κ : Type} (host : HostStores η) (sources : EnrollmentSources η κ)
    (d : SubmissionDesk η κ) (step : ℕ × Move κ) : SubmissionDesk η κ :=
  let now := d.store.db.clock + step.1
  match step.2 with
  | .transact op _ => ⟨execHost host d.store (step.1, op), d.granted⟩
  | .reserveEnrollment r =>
    d.grant now ((fun _ => none) <$> reserveSubscriptionEnrollment sources now r)
  | .admission policy r =>
    d.grant now (r.admission host.toHostChargeTargetStore sources now policy)
  | .submit i => d.act i .held .sent (·.request.isSome)
  | .answer i => d.act i .sent .answered fun _ => true
  | .refuse i => d.act i .sent .refused fun _ => true
  | .restore i => d.restore now i

/-! ## Attempts that are prepared no longer -/

/-- An attempt that has been submitted or closed. -/
def Unprepared (attemptId : Id) (db : Db) : Prop :=
  ∃ a ∈ db.attempts, a.id = attemptId ∧ a.isPrepared = false

/-- The writers that do not restore a prepared attempt. -/
abbrev NeverRestores : AttemptWriter → Prop := fun w => w ≠ .restore

instance : CommonWriters NeverRestores where
  allowed w hw heq := by
    subst heq
    cases hw

section Unprepared

variable {now : Timestamp} {db db' : Db} {a a' : PaymentAttempt} {w : AttemptWriter}

/-- No other writer prepares an attempt again. -/
theorem AttemptWriter.isPrepared_of_write (hw : w ≠ .restore) (h : w.write now a = .ok a')
    (ha : a.isPrepared = false) : a'.isPrepared = false := by
  rcases AttemptWriter.write_stores h with rfl | hstores
  · exact ha
  have hnot : ¬ (a.status = .pending ∧ a.submittedAt = none) := of_decide_eq_false ha
  refine decide_eq_false fun ⟨hpending, hnone⟩ => ?_
  cases hstores.effect with
  | touch status submitted => exact hnot ⟨status ▸ hpending, submitted ▸ hnone⟩
  | resolve _ status => exact status hpending
  | reopen _ _ status =>
    rw [status] at hpending
    cases hpending
  | admitPrepared _ prepared => exact hnot prepared
  | restore writer => exact hw writer

/-- So a statement keeps what is not prepared. -/
theorem Statement.unprepared (h : Statement NeverRestores now db db') (hkeyed : db.Keyed)
    {attemptId : Id} (hdb : Unprepared attemptId db) : Unprepared attemptId db' := by
  obtain ⟨a, ha, hid, hprepared⟩ := hdb
  cases h with
  | insertAttempt n =>
    refine ⟨a, ?_, hid, hprepared⟩
    unfold SyrupRail.insertAttempt
    split_ifs
    · exact List.mem_cons_of_mem _ ha
    · exact ha
  | writeAttempt allowed written =>
    obtain ⟨b, hb, rfl, b', hwrite, rfl, -⟩ := writeAttempt_eq_ok written
    -- By the key it is the row of the attempt that is written, or that row stays.
    by_cases hab : a.id = b.id
    · obtain rfl := nodup_id_of_attemptIndexes hkeyed.attempts ha hb hab
      refine ⟨b', Table.mem_updateWhere.mpr ⟨a, ha, by simp⟩, ?_, ?_⟩
      · exact (AttemptWriter.endures_of_write hwrite).id.trans hid
      · exact AttemptWriter.isPrepared_of_write allowed hwrite hprepared
    · exact ⟨a, Table.mem_updateWhere.mpr ⟨a, ha, by simp [hab]⟩, hid, hprepared⟩
  | writeAttempts allowed written =>
    obtain ⟨a', ha', hrow⟩ := Table.exists_of_mem_left (forall₂_of_writeAttempts written).1 ha
    rcases hrow with ⟨-, hwrite⟩ | ⟨-, rfl⟩
    · refine ⟨a', ha', (AttemptWriter.endures_of_write hwrite).id.trans hid, ?_⟩
      exact AttemptWriter.isPrepared_of_write allowed hwrite hprepared
    · exact ⟨a', ha', hid, hprepared⟩
  | revise rows indexes =>
    obtain ⟨a', ha', hrevised⟩ := Table.exists_of_mem_left rows ha
    refine ⟨a', ha', hrevised.id.trans hid, ?_⟩
    rw [hrevised.row]
    exact hprepared
  | _ => exact ⟨a, ha, hid, hprepared⟩

/-- So do many. -/
theorem Statements.unprepared (h : Statements NeverRestores now db db') (hkeyed : db.Keyed)
    {attemptId : Id} (hdb : Unprepared attemptId db) : Unprepared attemptId db' := by
  induction h with
  | refl => exact hdb
  | tail hsteps hstep ih => exact hstep.unprepared (Statements.recordKept hsteps hkeyed).1 ih

/-! ## What an admission grants -/

/-- An admitted attempt was prepared before, and is in the table as it was admitted. -/
structure Grants (db : Db) (a : PaymentAttempt) (db' : Db) : Prop where
  free : ¬ Unprepared a.id db
  mem : a ∈ db'.attempts
  submitted : a.isPrepared = false

/-- Statements before an admission do not matter, if they restore nothing. -/
theorem Grants.after {db₁ : Db} (h : Grants db₁ a db')
    (hbefore : Statements NeverRestores now db db₁) (hkeyed : db.Keyed) : Grants db a db' :=
  ⟨fun hdb => h.free (hbefore.unprepared hkeyed hdb), h.mem, h.submitted⟩

/-- The write of an admission. -/
theorem ensures_writeAdmission_grants (hkeyed : db.Keyed) (ha : a ∈ db.attempts)
    (hprepared : a.isPrepared = true) :
    Ensures (writeAdmission now a .admitPrepared) db fun a' db' => Grants db a' db' := by
  rw [writeAdmission, ensures_bind, ensures_onAttempts]
  intro attempts hwritten
  obtain ⟨b, hb, hid, b', hwrite, rfl, -⟩ := writeAttempt_eq_ok hwritten
  obtain rfl := nodup_id_of_attemptIndexes hkeyed.attempts hb ha hid
  refine ensures_requireAttempt fun a' ha' _ hid' => ?_
  -- The row with the id is the written one.
  have hrow : a' = b' := by
    obtain ⟨c, hc, rfl⟩ := Table.mem_updateWhere.mp ha'
    split_ifs at hid' ⊢ with hcid
    · rfl
    · exact absurd hid' (by simpa using hcid)
  subst hrow
  refine ⟨?_, ha', ?_⟩
  · rintro ⟨c, hc, hcid, hunprepared⟩
    obtain rfl := nodup_id_of_attemptIndexes hkeyed.attempts hc hb (hcid.trans hid')
    rw [hprepared] at hunprepared
    cases hunprepared
  · obtain ⟨-, -, r, hnew⟩ := PaymentAttempt.update_eq_some (requireOneRow_eq_ok hwrite)
    rw [hnew]
    simp [PaymentAttempt.isPrepared]

/-- The outcome of an admission, after statements that restore nothing. -/
theorem ensures_map_writeAdmission_grants {β : Type} {g : PaymentAttempt → β} {db₁ : Db}
    (hg : ∀ a b, g a = g b → a = b) (hbefore : Statements NeverRestores now db db₁)
    (hkeyed : db.Keyed) (ha : a ∈ db₁.attempts) (hprepared : a.isPrepared = true) :
    Ensures (g <$> writeAdmission now a .admitPrepared) db₁ fun o db' => ∀ b, o = g b →
      Grants db b db' := by
  rw [map_eq_pure_bind, ensures_bind]
  have hgrants : Ensures (writeAdmission now a .admitPrepared) db₁ fun a' db' =>
      Grants db₁ a' db' :=
    ensures_writeAdmission_grants (hbefore.recordKept hkeyed).1 ha hprepared
  refine hgrants.mono fun a' db₂ h => ensures_pure.mpr fun b heq => ?_
  obtain rfl := hg _ _ heq
  exact h.after hbefore hkeyed

/-- An outcome that admits nothing. -/
theorem ensures_pure_of_ne {σ ε β γ : Type} {b : β} {g : γ → β} {s : σ} {Q : γ → σ → Prop}
    (h : ∀ c, b ≠ g c) : Ensures (pure b : Tx σ ε β) s fun o s' => ∀ c, o = g c → Q c s' := by
  refine ensures_pure.mpr fun c heq => ?_
  exact absurd heq (h c)

/-- A result that admits nothing. -/
theorem ensures_pure_bind_of_ne {α β γ : Type} {x : Program α} {f : α → β} {g : γ → β}
    {Q : γ → Db → Prop} (h : ∀ a c, f a ≠ g c) :
    Ensures (x >>= fun a => pure (f a)) db fun o db' => ∀ c, o = g c → Q c db' := by
  rw [ensures_bind]
  exact fun a _ _ => ensures_pure_of_ne (h a)

/-- The admission of a renewal or a recovery. -/
theorem ensures_admitSubmission_grants (policy : SubscriptionPeriodExpiryPolicy)
    (r : SubscriptionChargeReservation) (hkeyed : db.Keyed) :
    Ensures (admitSubmission now policy r) db fun o db' => ∀ a, o = .admitted a →
      Grants db a db' := by
  rw [admitSubmission, ensures_bind]
  refine (expireStale_statements (W := NeverRestores) _ db).mono fun _ db₁ hexpired => ?_
  rw [ensures_bind, ensures_read]
  intro found hfound
  cases found with
  | none => exact ensures_throw
  | some a =>
    have ha := r.findAttempt_eq_some hfound
    rw [ensures_ite]
    refine ⟨fun _ => ensures_throw, fun _ => ?_⟩
    rw [ensures_ite]
    refine ⟨fun _ => ensures_pure_of_ne fun _ heq => (by cases heq), fun hprepared => ?_⟩
    rw [ensures_bind, ensures_get]
    split
    · exact ensures_pure_bind_of_ne fun _ _ heq => by cases heq
    · exact ensures_map_writeAdmission_grants (fun _ _ h => SubmissionOutcome.admitted.inj h)
        hexpired hkeyed ha (by simpa using hprepared)

/-- The admission of a replacement. -/
theorem ensures_admitReplacement_grants (r : SubscriptionPaymentMethodReplacement)
    (hkeyed : db.Keyed) : Ensures (admitReplacement now r) db fun o db' => ∀ a, o = .admitted a →
      Grants db a db' := by
  rw [admitReplacement, ensures_bind]
  refine (expireStale_statements (W := NeverRestores) _ db).mono fun _ db₁ hexpired => ?_
  rw [ensures_bind, ensures_read]
  intro found hfound
  cases found with
  | none => exact ensures_throw
  | some a =>
    have ha := paymentAttemptByIdempotency_eq_some hfound
    rw [ensures_ite]
    refine ⟨fun _ => ensures_throw, fun _ => ?_⟩
    rw [ensures_ite]
    refine ⟨fun _ => ensures_pure_of_ne fun _ heq => (by cases heq), fun hprepared => ?_⟩
    rw [ensures_bind, ensures_get]
    split
    · exact ensures_pure_bind_of_ne fun _ _ heq => by cases heq
    · exact ensures_map_writeAdmission_grants
        (fun _ _ h => ReplacementSubmissionOutcome.admitted.inj h) hexpired hkeyed ha
          (by simpa using hprepared)

end Unprepared

section Admissions

variable {η κ : Type} {targets : HostChargeTargetStore η} {sources : EnrollmentSources η κ}
    {now : Timestamp}

/-- The admission of an enrollment. -/
theorem ensures_admitSubscriptionEnrollment_grants
    (r : Enrollment.SubscriptionEnrollmentReservation κ) {s : HostBilling η} (hkeyed : s.db.Keyed) :
    Ensures (admitSubscriptionEnrollment sources now r) s fun o s' =>
      ∀ a, o = .admitted a → Grants s.db a s'.db := by
  rw [admitSubscriptionEnrollment, ensures_bind]
  refine ensures_onEngine ?_
  rw [requireKeyedEnrollment, findKeyedEnrollment, ensures_bind, ensures_read]
  intro found hfound
  cases found with
  | none => exact ensures_throw
  | some a =>
    have ha := paymentAttemptByIdempotency_eq_some hfound
    refine ensures_pure.mpr ?_
    rw [ensures_ite]
    refine ⟨fun _ => ensures_throw, fun _ => ?_⟩
    rw [ensures_ite]
    refine ⟨fun _ => ensures_pure_of_ne fun _ heq => (by cases heq), fun hprepared => ?_⟩
    rw [ensures_ite]
    refine ⟨fun _ => ensures_pure_of_ne fun _ heq => (by cases heq), fun _ => ?_⟩
    rw [ensures_bind]
    refine ensures_askHost fun host offer => ?_
    rw [ensures_bind, ensures_get]
    refine ensures_onEngine ?_
    rw [admitLockedEnrollment, ensures_bind, ensures_get]
    split
    · exact ensures_pure_bind_of_ne fun _ _ heq => by cases heq
    · exact ensures_map_writeAdmission_grants
        (fun _ _ h => SubscriptionEnrollmentSubmissionOutcome.admitted.inj h) .refl hkeyed ha
          (by simpa using hprepared)

/-- The admission of a host charge, whose attempt is read again after the host was asked. -/
theorem ensures_admitHostChargeSubmission_grants (r : HostChargeReservation) {s : HostBilling η}
    (hkeyed : s.db.Keyed) :
    Ensures (admitHostChargeSubmission targets now r) s fun o s' =>
      ∀ a, o = .admitted a → Grants s.db a s'.db := by
  rw [admitHostChargeSubmission, ensures_bind]
  refine ensures_onEngine (ensures_requireAttempt fun observed _ _ _ => ?_)
  rw [ensures_ite]
  refine ⟨fun _ => ensures_throw, fun _ => ?_⟩
  rw [ensures_ite]
  refine ⟨fun _ => ensures_pure_of_ne fun _ heq => (by cases heq), fun _ => ?_⟩
  rw [ensures_ite]
  refine ⟨fun _ => ensures_throw, fun _ => ?_⟩
  rw [ensures_bind]
  refine ensures_askHost fun host decision => ensures_onEngine ?_
  rw [admitLockedHostCharge, ensures_bind]
  refine ensures_requireAttempt fun a ha _ _ => ?_
  rw [ensures_ite]
  refine ⟨fun _ => ensures_throw, fun _ => ?_⟩
  rw [ensures_ite]
  refine ⟨fun _ => ensures_pure_of_ne fun _ heq => (by cases heq), fun hprepared => ?_⟩
  rw [ensures_ite]
  refine ⟨fun _ => ensures_throw, fun _ => ?_⟩
  split
  · rw [ensures_bind]
    exact fun _ _ _ => ensures_pure_bind_of_ne fun _ _ heq => by cases heq
  · exact ensures_map_writeAdmission_grants
      (fun _ _ h => HostChargeSubmissionOutcome.admitted.inj h) .refl hkeyed ha
        (by simpa using hprepared)

/-- The capture of a credential changes nothing. -/
theorem captureCredential_eq (r : SubscriptionChargeReservation) :
    Keeps Eq (captureCredential r) := by
  have hcapture : Keeps Eq (captureRenewalCredential r) := by
    refine keeps_get.bind fun db => ?_
    split
    · exact keeps_throw _
    · split
      · exact keeps_throw _
      · exact keeps_pure _
  unfold captureCredential
  split
  · exact hcapture.map _
  · exact keeps_pure _

/-- What a transaction that may admit an attempt does. -/
def Admits (now : Timestamp) (s : HostBilling η) (o : Option (Admitted κ)) (s' : HostBilling η) :
    Prop :=
  HostStored NeverRestores now s s' ∧ ∀ c, o = some c → Grants s.db c.attempt s'.db

/-- A transaction that admits an attempt. -/
theorem Admits.some {s s' : HostBilling η} (hstored : HostStored NeverRestores now s s')
    {c : Admitted κ} (hgrants : Grants s.db c.attempt s'.db) : Admits now s (some c) s' :=
  ⟨hstored, fun _ hc => Option.some.inj hc ▸ hgrants⟩

/-- A transaction that admits none. -/
theorem Admits.none {s s' : HostBilling η} (hstored : HostStored NeverRestores now s s') :
    Admits (κ := κ) now s none s' :=
  ⟨hstored, fun _ hc => nomatch hc⟩

/-- The admission of a renewal or a recovery. -/
theorem ensures_admitCharge (policy : SubscriptionPeriodExpiryPolicy)
    (r : SubscriptionChargeReservation) {s : HostBilling η} (hkeyed : s.db.Keyed) :
    Ensures (onEngine (admitCharge now policy r)) s
      fun o s' => Admits (κ := κ) now s o s' := by
  refine ensures_onEngine ?_
  rw [admitCharge, ensures_bind]
  have hgrants : Ensures (admitSubmission now policy r) s.db fun o db' =>
      ∀ a, o = .admitted a → Grants s.db a db' := ensures_admitSubmission_grants policy r hkeyed
  refine ((admitSubmission_statements (W := NeverRestores) policy r s.db).and hgrants).mono
    fun o db' ⟨hstatements, hgrants⟩ => ?_
  have hstored : HostStored NeverRestores now s { s with db := db' } := hstatements
  cases o with
  | admitted a =>
    rw [ensures_bind]
    refine (captureCredential_eq r db').mono fun credential db'' heq => ensures_pure.mpr ?_
    subst heq
    exact .some hstored (hgrants a rfl)
  | alreadyAdmitted _ => exact ensures_pure.mpr (.none hstored)
  | rejected _ _ => exact ensures_pure.mpr (.none hstored)

/-- The admission of a replacement. -/
theorem ensures_admitMethodReplacement (r : SubscriptionPaymentMethodReplacement)
    {s : HostBilling η} (hkeyed : s.db.Keyed) : Ensures (onEngine (admitMethodReplacement now r)) s
      fun o s' => Admits (κ := κ) now s o s' := by
  refine ensures_onEngine ?_
  rw [admitMethodReplacement, ensures_bind]
  have hgrants : Ensures (admitReplacement now r) s.db fun o db' =>
      ∀ a, o = .admitted a → Grants s.db a db' := ensures_admitReplacement_grants r hkeyed
  refine ((admitReplacement_statements (W := NeverRestores) r s.db).and hgrants).mono
    fun o db' ⟨hstatements, hgrants⟩ => ?_
  have hstored : HostStored NeverRestores now s { s with db := db' } := hstatements
  cases o with
  | admitted a =>
    exact ensures_pure.mpr (.some hstored (hgrants a rfl))
  | alreadyAdmitted _ => exact ensures_pure.mpr (.none hstored)
  | rejected _ _ => exact ensures_pure.mpr (.none hstored)

/-- The admission of an enrollment. -/
theorem ensures_admitEnrollment (r : Enrollment.SubscriptionEnrollmentReservation κ)
    {s : HostBilling η} (hkeyed : s.db.Keyed) :
    Ensures (admitEnrollment sources now r) s fun o s' => Admits now s o s' := by
  rw [admitEnrollment, ensures_bind]
  have hgrants : Ensures (admitSubscriptionEnrollment sources now r) s fun o s' =>
      ∀ a, o = .admitted a → Grants s.db a s'.db :=
        ensures_admitSubscriptionEnrollment_grants r hkeyed
  refine ((admitSubscriptionEnrollment_quiet (W := NeverRestores) s).and hgrants).mono
    fun o s' ⟨hquiet, hgrants⟩ => ?_
  cases o with
  | admitted a => exact ensures_pure.mpr (.some hquiet.stored (hgrants a rfl))
  | alreadyAdmitted _ => exact ensures_pure.mpr (.none hquiet.stored)
  | rejected _ _ => exact ensures_pure.mpr (.none hquiet.stored)

/-- The admission of a host charge. -/
theorem ensures_admitHostCharge (r : HostChargeReservation) {s : HostBilling η}
    (hkeyed : s.db.Keyed) :
    Ensures (admitHostCharge targets now r) s fun o s' => Admits (κ := κ) now s o s' := by
  rw [admitHostCharge, ensures_bind]
  have hgrants : Ensures (admitHostChargeSubmission targets now r) s fun o s' =>
      ∀ a, o = .admitted a → Grants s.db a s'.db :=
        ensures_admitHostChargeSubmission_grants r hkeyed
  refine ((admitHostCharge_quiet (W := NeverRestores) targets r s).and hgrants).mono
    fun o s' ⟨hquiet, hgrants⟩ => ?_
  cases o with
  | admitted a => exact ensures_pure.mpr (.some hquiet.stored (hgrants a rfl))
  | alreadyAdmitted _ => exact ensures_pure.mpr (.none hquiet.stored)
  | rejected _ _ => exact ensures_pure.mpr (.none hquiet.stored)

/-- An admission of any kind. -/
theorem SubmissionReservation.ensures_admission (policy : SubscriptionPeriodExpiryPolicy)
    (r : SubmissionReservation κ) {s : HostBilling η} (hkeyed : s.db.Keyed) :
    Ensures (r.admission targets sources now policy) s fun o s' => Admits now s o s' := by
  cases r with
  | enrollment r => exact ensures_admitEnrollment r hkeyed
  | charge r => exact ensures_admitCharge policy r hkeyed
  | replacement r => exact ensures_admitMethodReplacement r hkeyed
  | host r => exact ensures_admitHostCharge r hkeyed

end Admissions

/-! ## What a restore gives back -/

section Restores

variable {now : Timestamp} {db db' : Db}

/-- A later store in which what was not prepared is not, but for one attempt. -/
def KeepsOthers (attemptId : Id) (db db' : Db) : Prop :=
  ∀ id, id ≠ attemptId → Unprepared id db → Unprepared id db'

/-- A writer on one attempt keeps the others as they are. -/
theorem keepsOthers_of_writeAttempt {e : StoreError} {attemptId : Id} {w : AttemptWriter}
    {attempts : List PaymentAttempt}
    (h : writeAttempt now e attemptId w db.attempts = .ok attempts) :
    KeepsOthers attemptId db { db with attempts } := by
  obtain ⟨b, -, rfl, b', -, rfl, -⟩ := writeAttempt_eq_ok h
  rintro id hne ⟨a, ha, rfl, hprepared⟩
  exact ⟨a, Table.mem_updateWhere.mpr ⟨a, ha, by simp [hne]⟩, rfl, hprepared⟩

/-- The restore of a subscription's attempt. -/
theorem ensures_restoreAdmittedAttempt (r : OutcomeReservation) :
    Ensures (restoreAdmittedAttemptForRetry now r) db fun _ db' =>
      KeepsOthers r.identity.attemptId db db' := by
  rw [restoreAdmittedAttemptForRetry, lockExpectedReservationAttempt, ensures_bind, ensures_bind]
  refine ensures_requireAttempt fun a _ _ hid => ?_
  rw [ensures_ite]
  refine ⟨fun _ => ensures_pure.mpr ?_, fun _ => ensures_throw⟩
  rw [ensures_ite]
  refine ⟨fun _ => ?_, fun _ => ensures_paymentResultForReservation fun _ _ _ _ h => h⟩
  rw [ensures_bind, persist, ensures_onAttempts]
  intro attempts hwritten
  refine ensures_paymentResultForReservation fun _ _ => ?_
  exact hid ▸ keepsOthers_of_writeAttempt hwritten

/-- The restore of a host charge. -/
theorem ensures_restoreAdmittedHostCharge (r : HostChargeReservation) :
    Ensures (restoreAdmittedHostCharge now r) db fun _ db' =>
      KeepsOthers r.identity.attemptId db db' := by
  rw [restoreAdmittedHostCharge, lockExpectedHostCharge, ensures_bind, ensures_bind]
  refine ensures_requireAttempt fun a _ _ hid => ?_
  rw [ensures_ite]
  refine ⟨fun _ => ensures_pure.mpr ?_, fun _ => ensures_throw⟩
  rw [ensures_ite]
  refine ⟨fun _ => ?_, fun _ => ensures_requireAttempt fun _ _ _ _ _ _ h => h⟩
  rw [ensures_bind, persist, ensures_onAttempts]
  intro attempts hwritten
  refine ensures_requireAttempt fun _ _ _ _ => ?_
  exact hid ▸ keepsOthers_of_writeAttempt hwritten

/-- The restore of any attempt: it is a sequence of statements, and changes no other attempt. -/
theorem SubmissionReservation.ensures_restore {κ : Type} (r : SubmissionReservation κ) :
    Ensures (r.restore now) db fun _ db' =>
      Statements AnyWriter now db db' ∧ KeepsOthers r.identity.attemptId db db' := by
  cases r with
  | enrollment r =>
    exact (restore_statements trivial _ db).and (ensures_restoreAdmittedAttempt _)
  | charge r =>
    exact (restore_statements trivial _ db).and (ensures_restoreAdmittedAttempt (.charge r))
  | replacement r =>
    exact (restore_statements trivial _ db).and (ensures_restoreAdmittedAttempt (.replacement r))
  | host r =>
    exact (restoreAdmittedHostCharge_statements trivial r db).and
      (ensures_restoreAdmittedHostCharge r)

end Restores

/-! ## Steps -/

/-- What a unique index of the attempts allows one of at a time: an open enrollment of a plan; an
open or paid charge of a target; an open charge of a subscription; an open or paid charge of a
period; and an open update of a subscription's method. -/
inductive AttemptPurpose
  | enrollment (key : Id × Id × Option String)
  | target (key : Id × Id × Id)
  | subscription (subscriptionId : Id)
  | period (key : Id × Timestamp)
  | methodUpdate (subscriptionId : Id)

/-- Whether an attempt has the key of a purpose. -/
def PaymentAttempt.Serves (a : PaymentAttempt) : AttemptPurpose → Prop
  | .enrollment key => a.initialInflightKey = some key
  | .target key => a.hostChargeOnceKey = some key
  | .subscription subscriptionId => a.billingInflightKey = some subscriptionId
  | .period key => a.periodOnceKey = some key
  | .methodUpdate subscriptionId => a.methodUpdateInflightKey = some subscriptionId

/-- Two attempts of one purpose are the same. -/
theorem eq_of_serves {attempts : List PaymentAttempt} (h : attemptIndexes attempts = true)
    {a b : PaymentAttempt} (ha : a ∈ attempts) (hb : b ∈ attempts) {p : AttemptPurpose}
    (hap : a.Serves p) (hbp : b.Serves p) :
    a = b := by
  simp only [attemptIndexes, Bool.and_eq_true] at h
  cases p with
  | enrollment key => exact Table.eq_of_uniqueOn h.1.1.1.1.2 ha hb hap hbp
  | target key => exact Table.eq_of_uniqueOn h.1.1.1.2 ha hb hap hbp
  | subscription subscriptionId => exact Table.eq_of_uniqueOn h.1.1.2 ha hb hap hbp
  | period key => exact Table.eq_of_uniqueOn h.1.2 ha hb hap hbp
  | methodUpdate subscriptionId => exact Table.eq_of_uniqueOn h.2 ha hb hap hbp

/-- What a request asks for is what an attempt was reserved for. -/
def GatewayRequest.Asks (a : PaymentAttempt) : GatewayRequest → Prop
  | .sale charge gatewayOrderId _ => charge = a.amount ∧ gatewayOrderId = a.gatewayOrderId
  | .storePaymentMethod gatewayOrderId =>
    gatewayOrderId = a.gatewayOrderId ∧ a.kind = .subscriptionPaymentMethodUpdate

section Desk

variable {η κ : Type} {now : Timestamp} {s s' : HostBilling η} {d d' : SubmissionDesk η κ}

/-- The attempt of a capability. -/
def Admitted.attemptId (c : Admitted κ) : Id := c.attempt.id

/-- A transaction that restores nothing, at its time. -/
theorem HostStored.kept (h : HostStored NeverRestores now (s.at now) s') (hkeyed : s.db.Keyed) :
    (s'.db.Keyed ∧ RecordKept s.db s'.db) ∧ ∀ id, Unprepared id s.db → Unprepared id s'.db := by
  have hat : (s.at now).db.Keyed := ⟨hkeyed.attempts, hkeyed.charges, hkeyed.grants⟩
  obtain ⟨hkeyed', hkept⟩ := Statements.recordKept h hat
  have hfirst : RecordKept s.db (s.at now).db := { RecordKept.refl s.db with }
  exact ⟨⟨hkeyed', hfirst.trans hkept⟩, fun _ hid => Statements.unprepared h hat hid⟩

/-- What a step does with the store and with each capability. -/
structure DeskStep (d d' : SubmissionDesk η κ) : Prop where
  step : Step Admitted.attemptId (fun id s => Unprepared id s.db) d d'
  record : d'.store.db.Keyed ∧ RecordKept d.store.db d'.store.db
  entries : ∀ x ∈ d'.granted, (x.2 = .held ∧ x.1.attempt ∈ d'.store.db.attempts) ∨
    ∃ p, (x.1, p) ∈ d.granted ∧ (x.2 ≠ .held → p ≠ .held ∨ x.1.request.isSome = true) ∧
      (x.2 = .returned → p = .returned ∨ x.1.reservation.replaysPrepared = true)

/-- The capabilities of a desk and the store. -/
structure DeskSound (d : SubmissionDesk η κ) : Prop where
  keyed : d.store.db.Keyed
  exclusive : Capability.Exclusive Admitted.attemptId (fun id s => Unprepared id s.db) d
  requested : ∀ x ∈ d.granted, x.2 ≠ .held → x.1.request.isSome = true
  rows : ∀ x ∈ d.granted, ∃ a ∈ d.store.db.attempts, x.1.attempt.Endures a
  replays : ∀ x ∈ d.granted, x.2 = .returned → x.1.reservation.replaysPrepared = true

/-- A step keeps it. -/
theorem DeskStep.sound (h : DeskStep d d') (hd : DeskSound d) : DeskSound d' where
  keyed := h.record.1
  exclusive := h.step.exclusive hd.exclusive
  requested x hx hp := by
    rcases h.entries x hx with ⟨hheld, -⟩ | ⟨p, hmem, hrequest, -⟩
    · exact absurd hheld hp
    · exact (hrequest hp).elim (hd.requested _ hmem) id
  rows x hx := by
    rcases h.entries x hx with ⟨-, hmem⟩ | ⟨p, hmem, -⟩
    · exact ⟨x.1.attempt, hmem, .refl _⟩
    · obtain ⟨a, ha, hsame⟩ := hd.rows _ hmem
      obtain ⟨a', ha', hendures⟩ := h.record.2.attempts a ha
      exact ⟨a', ha', hsame.trans hendures⟩
  replays x hx hp := by
    rcases h.entries x hx with ⟨hheld, -⟩ | ⟨p, hmem, -, hreplays⟩
    · rw [hheld] at hp
      cases hp
    · exact (hreplays hp).elim (hd.replays _ hmem) id

/-- A capability that stays as it is. -/
theorem DeskStep.entry {x : Admitted κ × Stage} (hx : x ∈ d.granted) :
    ∃ p, (x.1, p) ∈ d.granted ∧ (x.2 ≠ .held → p ≠ .held ∨ x.1.request.isSome = true) ∧
      (x.2 = .returned → p = .returned ∨ x.1.reservation.replaysPrepared = true) :=
  ⟨x.2, hx, fun h => .inl h, fun h => .inl h⟩

/-- A transaction that restores nothing and grants nothing. -/
theorem DeskStep.of_stored (hkeyed : d.store.db.Keyed)
    (h : HostStored NeverRestores now (d.store.at now) s') : DeskStep d ⟨s', d.granted⟩ where
  step := .background fun id => (h.kept hkeyed).2 id
  record := (h.kept hkeyed).1
  entries _ hx := .inr (DeskStep.entry hx)

/-- Nothing happens. -/
theorem DeskStep.refl (hkeyed : d.store.db.Keyed) : DeskStep d d where
  step := .background fun _ h => h
  record := ⟨hkeyed, .refl _⟩
  entries _ hx := .inr (DeskStep.entry hx)

/-- A transaction that may grant a capability. -/
theorem grant_deskStep (hkeyed : d.store.db.Keyed) {x : HostProgram η (Option (Admitted κ))}
    (h : Ensures x (d.store.at now) fun o s' => Admits now (d.store.at now) o s') :
    DeskStep d (d.grant now x) := by
  unfold SubmissionDesk.grant
  split
  · rename_i c s' hrun
    obtain ⟨hstored, hgrants⟩ := h _ _ hrun
    obtain ⟨hfree, hmem, hsubmitted⟩ := hgrants c rfl
    obtain ⟨hrecord, hkept⟩ := hstored.kept hkeyed
    refine ⟨.grant hfree ⟨c.attempt, hmem, rfl, hsubmitted⟩ hkept, hrecord, fun y hy => ?_⟩
    rcases List.mem_append.mp hy with hy | hy
    · exact .inr (DeskStep.entry hy)
    · obtain rfl := List.mem_singleton.mp hy
      exact .inl ⟨rfl, hmem⟩
  · rename_i s' hrun
    exact .of_stored hkeyed (h _ _ hrun).1
  · exact .of_stored hkeyed
      (Relation.ReflTransGen.refl : HostStored NeverRestores now (d.store.at now) _)

/-- An entry of a desk in which a capability has moved to another stage. -/
theorem DeskStep.entry_set {i : ℕ} {c : Admitted κ} {p p' : Stage}
    (hfound : d.granted[i]? = some (c, p))
    (hrequest : p' ≠ .held → p ≠ .held ∨ c.request.isSome = true)
    (hreplays : p' = .returned → p = .returned ∨ c.reservation.replaysPrepared = true)
    {x : Admitted κ × Stage} (hx : x ∈ d.granted.set i (c, p')) :
    ∃ p, (x.1, p) ∈ d.granted ∧ (x.2 ≠ .held → p ≠ .held ∨ x.1.request.isSome = true) ∧
      (x.2 = .returned → p = .returned ∨ x.1.reservation.replaysPrepared = true) := by
  rcases getElem?_of_mem_set hx with rfl | ⟨j, -, hj⟩
  · exact ⟨p, List.mem_of_getElem? hfound, hrequest, hreplays⟩
  · exact DeskStep.entry (List.mem_of_getElem? hj)

/-- What happens to a request. -/
theorem act_deskStep (hkeyed : d.store.db.Keyed) {i : ℕ} {p p' : Stage} (hacts : p.Acts p')
    {ready : Admitted κ → Bool}
    (hready : ∀ c, p = .held → ready c = true → c.request.isSome = true) :
    DeskStep d (d.act i p p' ready) := by
  unfold SubmissionDesk.act
  split
  · rename_i c q hfound
    split_ifs with hstage
    · obtain ⟨rfl, hc⟩ := hstage
      refine ⟨.act hfound hacts, ⟨hkeyed, .refl _⟩, fun x hx => .inr ?_⟩
      refine DeskStep.entry_set hfound (fun _ => ?_) (fun h => absurd h hacts.ne_returned.2) hx
      by_cases hq : q = .held
      · exact .inr (hready c hq hc)
      · exact .inl hq
    · exact .refl hkeyed
  · exact .refl hkeyed

/-- The checks of a submission. -/
theorem Admitted.checks_of_request {c : Admitted κ} (h : c.request.isSome = true) :
    c.attempt.identity = c.reservation.identity ∧ c.reservation.requestMatches c.attempt =
      true := by
  by_contra hne
  have hmismatch : c.attempt.identity ≠ c.reservation.identity ∨
      c.reservation.requestMatches c.attempt = false := by
    rw [not_and_or, Bool.not_eq_true] at hne
    exact hne
  unfold Admitted.request at h
  rw [if_pos (hmismatch.imp_right .inl)] at h
  cases h

/-- The identities of an admission whose request was sent. -/
theorem Admitted.attemptId_eq {c : Admitted κ} (h : c.request.isSome = true) :
    c.attemptId = c.reservation.identity.attemptId :=
  congrArg PaymentAttemptIdentity.attemptId (Admitted.checks_of_request h).1

/-- A request asks for what its attempt was reserved for. -/
theorem Admitted.asks {c : Admitted κ} {q : GatewayRequest} (h : c.request = some q) :
    q.Asks c.attempt := by
  have hmatches := (Admitted.checks_of_request (c := c) (by rw [h]; rfl)).2
  obtain ⟨reservation, a, credential⟩ := c
  unfold Admitted.request at h
  split at h
  · cases h
  cases reservation with
  | replacement r =>
    obtain rfl := Option.some.inj h
    refine ⟨rfl, ?_⟩
    have htarget : a.target = r.target := (of_decide_eq_true hmatches).1
    rw [PaymentAttempt.kind, htarget]
    rfl
  | host r =>
    dsimp only at h
    split_ifs at h
    obtain rfl := Option.some.inj h
    obtain ⟨-, -, -, hamount, -⟩ := of_decide_eq_true hmatches
    exact ⟨hamount.symm, rfl⟩
  | enrollment r =>
    dsimp only at h
    split_ifs at h
    obtain rfl := Option.some.inj h
    exact ⟨rfl, rfl⟩
  | charge r =>
    dsimp only at h
    split_ifs at h
    obtain rfl := Option.some.inj h
    exact ⟨rfl, rfl⟩

/-- A restore, by the holder of a refused capability. -/
theorem restore_deskStep (hd : DeskSound d) (i : ℕ) : DeskStep d (d.restore now i) := by
  have hkeyed := hd.keyed
  unfold SubmissionDesk.restore
  split
  · rename_i c hfound
    split_ifs with hreplays
    · split
      · rename_i a s' hrun
        have hrestored : Ensures (onEngine (c.reservation.restore now)) (d.store.at now) fun _ s' =>
            Statements AnyWriter now (d.store.at now).db s'.db ∧
              KeepsOthers c.reservation.identity.attemptId (d.store.at now).db s'.db :=
          ensures_onEngine c.reservation.ensures_restore
        obtain ⟨hstatements, hothers⟩ := hrestored _ _ hrun
        have hat : (d.store.at now).db.Keyed := ⟨hkeyed.attempts, hkeyed.charges, hkeyed.grants⟩
        obtain ⟨hkeyed', hkept⟩ := hstatements.recordKept hat
        have hfirst : RecordKept d.store.db (d.store.at now).db :=
          { RecordKept.refl d.store.db with }
        have hid :=
          Admitted.attemptId_eq (hd.requested _ (List.mem_of_getElem? hfound) fun h => nomatch h)
        refine ⟨.give hfound fun id hne => hothers id (hid ▸ hne), ⟨hkeyed', hfirst.trans hkept⟩,
          fun x hx => .inr ?_⟩
        exact DeskStep.entry_set hfound (fun _ => .inl fun h => nomatch h)
          (fun _ => .inr hreplays) hx
      · exact .of_stored hkeyed
          (Relation.ReflTransGen.refl : HostStored NeverRestores now (d.store.at now) _)
    · exact .refl hkeyed
  · exact .refl hkeyed

variable {host : HostStores η} {sources : EnrollmentSources η κ}

/-- An operation that restores nothing. -/
theorem execHost_stored (op : HostOp) (hop : op.isRestore = false) (elapsed : ℕ) :
    HostStored NeverRestores (s.db.clock + elapsed) (s.at (s.db.clock + elapsed))
      (execHost host s (elapsed, op)) := by
  have hrare : ∀ w, op.rareWriter = some w → NeverRestores w := by
    intro w hw heq
    subst heq
    cases op with
    | engine op other =>
      cases op with
      | restore r => cases hop
      | writeOther attemptId w => cases other
      | _ => cases hw
    | restore r => cases hop
    | applyApproved newId liveRecipient r evidence => cases hw
    | _ => cases hw
  unfold execHost
  dsimp only
  split
  · rename_i s' hrun
    exact op.statements host hrare _ _ _ hrun
  · exact Relation.ReflTransGen.refl

/-- Every step. -/
theorem execSubmission_deskStep (hd : DeskSound d) (step : ℕ × Move κ) :
    DeskStep d (execSubmission host sources d step) := by
  obtain ⟨elapsed, move⟩ := step
  have hat : (d.store.at (d.store.db.clock + elapsed)).db.Keyed :=
    ⟨hd.keyed.attempts, hd.keyed.charges, hd.keyed.grants⟩
  cases move with
  | transact op kept => exact .of_stored hd.keyed (execHost_stored op kept elapsed)
  | reserveEnrollment r =>
    refine grant_deskStep hd.keyed ?_
    rw [map_eq_pure_bind, ensures_bind]
    exact (reserveSubscriptionEnrollment_quiet (W := NeverRestores) _).mono
      fun _ _ h => ensures_pure.mpr (.none h.stored)
  | admission policy r => exact grant_deskStep hd.keyed (r.ensures_admission policy hat)
  | submit i => exact act_deskStep hd.keyed .send fun _ _ h => h
  | answer i => exact act_deskStep hd.keyed .answer fun _ h => nomatch h
  | refuse i => exact act_deskStep hd.keyed .refuse fun _ h => nomatch h
  | restore i => exact restore_deskStep hd i

end Desk

/-! ## Safety -/

/-- What the requests of a deployment cannot do. -/
structure SubmissionsSafe {η κ : Type} (d : SubmissionDesk η κ) : Prop where
  /-- A second request for an attempt is made only after the first was refused, and its attempt
  restored. -/
  once : (d.granted.filter (·.2.isSent)).Pairwise fun x y => x.1.attemptId = y.1.attemptId →
    x.2 = .returned
  /-- A renewal is never asked for twice. -/
  renewals : ∀ x ∈ d.granted, x.2 = .returned → x.1.reservation.replaysPrepared = true
  /-- The attempt of a capability that is not given back cannot be admitted: it is submitted or
  closed. -/
  submitted : ∀ x ∈ d.granted, x.2 ≠ .returned → Unprepared x.1.attemptId d.store.db
  /-- A request asks for what its attempt in the store was reserved for. -/
  asked : ∀ x ∈ d.granted, x.2.isSent = true →
    ∃ q a, x.1.request = some q ∧ a ∈ d.store.db.attempts ∧ x.1.attempt.Endures a ∧ q.Asks a
  /-- Two capabilities that are not given back, and whose attempts still have the key of one
  purpose, are the same. -/
  alone : ∀ (i j : ℕ) (x y : Admitted κ × Stage) (p : AttemptPurpose), d.granted[i]? = some x →
    d.granted[j]? = some y → x.2 ≠ .returned → y.2 ≠ .returned →
    ∀ a ∈ d.store.db.attempts, ∀ b ∈ d.store.db.attempts, a.id = x.1.attemptId →
      b.id = y.1.attemptId → a.Serves p → b.Serves p → i = j

/-- A sound desk is safe. -/
theorem DeskSound.safe {η κ : Type} {d : SubmissionDesk η κ} (h : DeskSound d) :
    SubmissionsSafe d where
  once := h.exclusive.requests
  renewals := h.replays
  submitted := h.exclusive.taken
  asked x hx hsent := by
    obtain ⟨q, hq⟩ := Option.isSome_iff_exists.mp (h.requested x hx (of_decide_eq_true hsent))
    obtain ⟨a, ha, hsame⟩ := h.rows x hx
    refine ⟨q, a, hq, ha, hsame, ?_⟩
    have hasks := Admitted.asks hq
    cases q with
    | sale charge gatewayOrderId intent =>
      exact ⟨hasks.1.trans hsame.amount.symm, hasks.2.trans hsame.gatewayOrderId.symm⟩
    | storePaymentMethod gatewayOrderId =>
      exact ⟨hasks.1.trans hsame.gatewayOrderId.symm, hsame.kind.trans hasks.2⟩
  alone i j x y p hx hy hxlive hylive a ha b hb hax hby hap hbp := by
    obtain rfl := eq_of_serves h.keyed.attempts ha hb hap hbp
    exact h.exclusive.eq_of_live hx hy (hax.symm.trans hby) hxlive hylive

/-- One request for each admission. In every run of a deployment, with any host and any order of
steps, in which holders may stop at any point, the gateway is asked a second time for an attempt
only after it refused the last request and the attempt was restored, and for a renewal never; each
request asks for the amount and the order that its attempt was reserved for; and of two capabilities
that are not given back, and whose attempts are both still open, or paid for a target or a period,
no two are for the same enrollment, target, subscription, period or method. -/
theorem one_request_per_admission {η κ : Type} (host : HostStores η)
    (sources : EnrollmentSources η κ) {s₀ : HostBilling η} (hfresh : s₀.Fresh)
    (steps : List (ℕ × Move κ)) :
    SubmissionsSafe (run (execSubmission host sources) ⟨s₀, []⟩ steps) := by
  have hstart : DeskSound (⟨s₀, []⟩ : SubmissionDesk η κ) :=
    { keyed := hfresh.db.keyed
      exclusive := .of_nil rfl
      requested := fun _ hx => by cases hx
      rows := fun _ hx => by cases hx
      replays := fun _ hx => by cases hx }
  have hstep : ∀ d step, True → DeskSound d → DeskSound (execSubmission host sources d step) :=
    fun _ step _ hd => (execSubmission_deskStep hd step).sound hd
  have hrun :=
      run_invariant (I := DeskSound) (P := fun _ => True) hstep steps ⟨s₀, []⟩
        (fun _ _ => trivial) hstart
  exact hrun.safe

/-- A host that enrolls nobody. -/
def noOffers : EnrollmentSources (List Id) Unit where
  lockEnrollmentOffer _ _ paid := some (paid, none)
  savedClaim _ _ _ := none
  sameTexts _ _ := true

/-- A request that is refused and made again, while admissions of the same charge are asked for at
every point: there are two requests, of which the first was given back. -/
theorem one_request_per_admission_seat :
    let s₀ : HostBilling (List Id) := ⟨accountStore, [], [], []⟩
    let admission : Move Unit := .admission .disabled (.host seatCharge)
    let d := run (execSubmission seats noOffers) ⟨s₀, []⟩
      [(0, .transact (.reserve seatCharge) rfl), (1, admission), (1, admission), (1, .submit 0),
        (1, admission), (1, .refuse 0), (1, admission), (1, .restore 0), (1, admission),
          (1, .submit 0), (1, .submit 1),
        (1, admission), (1, .restore 1), (1, .answer 1), (1, admission)]
    d.granted.map (·.2) = [.returned, .answered] ∧
      d.granted.map (·.1.request) = List.replicate 2 (some (.sale ⟨500, "USD"⟩ "o" .oneTime)) ∧
      SubmissionsSafe d :=
  ⟨by decide +kernel, by decide +kernel,
    one_request_per_admission seats noOffers ⟨accountStore_fresh, rfl, rfl⟩ _⟩

end SyrupRail
