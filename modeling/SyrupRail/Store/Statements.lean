import SyrupRail.Store.Changes
import SyrupRail.Store.Settlement

/-!
# The statements of the engine

What a transaction does to the store, statement by statement. `Statement` lists the statements that
the engine has, with the outcome that each had, and `Op.statements` takes the programs apart into
them, in whatever order their branches run them and however far they get. A fact about a store and a
later one is then proved once for each statement, and holds of every run. Unlike an `Effect`, a
statement needs nothing of the tables before it. Which writers of attempts it may use is a
parameter: nearly every program gets by with the common ones.
-/

namespace SyrupRail

open Transactions Tx

/-- A later row of the same subscription. -/
structure Subscription.SameOwner (s s' : Subscription) : Prop where
  id : s'.id = s.id
  owner : s'.owner = s.owner

/-- Whether a writer neither gives a submission back nor pays for a target of the host. -/
def AttemptWriter.isCommon : AttemptWriter → Bool
  | .restore => false
  | .persist _ (.approved .hostCharge) => false
  | _ => true

/-- A set of writers that has the common ones. -/
class CommonWriters (W : AttemptWriter → Prop) : Prop where
  allowed : ∀ w, w.isCommon = true → W w

/-- Any writer at all. -/
abbrev AnyWriter : AttemptWriter → Prop := fun _ => True

instance : CommonWriters AnyWriter := ⟨fun _ _ => trivial⟩

/-- The writer of a resolution is a common one. -/
theorem OutcomeResolutionCommand.isCommon_writer (c : OutcomeResolutionCommand)
    (evidence : ProcessorEvidence) : (c.writer evidence).isCommon = true := by
  unfold writer
  split_ifs
  · rfl
  · rfl

/-- The statements of the engine at the time `now`, with the writers `W` of attempts. -/
inductive Statement (W : AttemptWriter → Prop) (now : Timestamp) (db : Db) : Db → Prop
  /-- An attempt is inserted, unless it conflicts with another. -/
  | insertAttempt (n : NewAttempt) :
      Statement W now db { db with attempts := (SyrupRail.insertAttempt n db.attempts).1 }
  /-- A writer on one attempt. -/
  | writeAttempt {e : StoreError} {id : Id} {w : AttemptWriter} {attempts : List PaymentAttempt}
      (allowed : W w)
      (written : SyrupRail.writeAttempt now e id w db.attempts = .ok attempts) :
      Statement W now db { db with attempts }
  /-- A writer on many attempts. -/
  | writeAttempts {p : PaymentAttempt → Bool} {w : AttemptWriter} {attempts : List PaymentAttempt}
      (allowed : W w)
      (written : SyrupRail.writeAttempts now p w db.attempts = .ok attempts) :
      Statement W now db { db with attempts }
  /-- A lifecycle report on an attempt, or the deletion of a subscriber's billing data. -/
  | revise {attempts : List PaymentAttempt}
      (rows : List.Forall₂ PaymentAttempt.Revised db.attempts attempts)
      (indexes : attemptIndexes attempts = true) : Statement W now db { db with attempts }
  /-- Approved evidence is observed. -/
  | observe {newId : Id} {a : PaymentAttempt} {evidence : ProcessorEvidence}
      {requested : ProcessorChargeProgression} {charges : List ProcessorCharge} {o : ObservedCharge}
      (observed : observeProcessorCharge now newId a evidence requested db.ledger.charges =
        .ok (charges, o)) : Statement W now db (db.withCharges charges)
  /-- A charge is inserted without a look at its attempt. -/
  | insertCharge {row : ProcessorCharge} (checks : row.checks = true)
      (indexes : chargeIndexes (row :: db.ledger.charges) = true) :
      Statement W now db (db.withCharges (row :: db.ledger.charges))
  /-- A charge progresses. -/
  | transition {chargeId : Id} {expected : List ProcessorChargeProgression}
      {progression : ProcessorChargeProgression} {update : ChargeStateCodeUpdate}
      {charges : List ProcessorCharge}
      (moved : transitionProcessorCharge now chargeId expected progression update
        db.ledger.charges = .ok charges) : Statement W now db (db.withCharges charges)
  /-- A pending charge is classified. -/
  | classify {a : PaymentAttempt} {chargeId : Id} {ledger : ChargeLedger}
      (classified : classifyCharge now a chargeId db.ledger = .ok ledger) :
      Statement W now db { db with ledger }
  /-- A reversal is attested. -/
  | attest {rules : TextRules} {a : PaymentAttempt} {t : ReversalAttestation}
      {ledger : ChargeLedger}
      {outcome : ExternalReversalAttestationOutcome}
      (attested : attestExternalReversal rules now a t db.ledger = .ok (ledger, outcome)) :
      Statement W now db { db with ledger }
  /-- Subscriptions are changed, each for its owner. -/
  | updateSubscriptions {subscriptions : List Subscription}
      (rows : List.Forall₂ Subscription.SameOwner db.subscriptions subscriptions) :
      Statement W now db { db with subscriptions }
  /-- A subscription starts. -/
  | insertSubscription (s : Subscription) :
      Statement W now db { db with subscriptions := s :: db.subscriptions }
  /-- A grant is given. -/
  | insertGrant {g : SubscriptionGrant} (new : ∀ g' ∈ db.grants, g'.id ≠ g.id) :
      Statement W now db { db with grants := g :: db.grants }
  /-- A grant that is not revoked is. -/
  | revokeGrant {g : SubscriptionGrant} (revocation : SubscriptionGrantRevocation)
      (mem : g ∈ db.grants)
      (id : g.id = revocation.id) (open_ : g.revokedAt = none) :
      Statement W now db { db with
        grants := Table.updateWhere (·.id = revocation.id) (·.revoked now revocation) db.grants }
  /-- Events are appended. -/
  | append (events : List BillingEvent) :
      Statement W now db { db with events := db.events ++ events.map (now, ·) }
  /-- The rows that are not an account of anything. -/
  | others (gatewayAccounts : List GatewayAccount)
      (providerRateLimits : List GatewayProviderRateLimit)
      (paymentMethods : List PaymentMethod) (discounts : List SubscriptionDiscount)
      (discountClaims : List SubscriptionDiscountClaim) :
      Statement W now db { db with
        gatewayAccounts, providerRateLimits, paymentMethods, discounts, discountClaims }

/-- A sequence of statements. -/
def Statements (W : AttemptWriter → Prop) (now : Timestamp) : Db → Db → Prop :=
  Relation.ReflTransGen (Statement W now)

instance (W : AttemptWriter → Prop) (now : Timestamp) : Std.Refl (Statements W now) :=
  ⟨fun _ => .refl⟩

instance (W : AttemptWriter → Prop) (now : Timestamp) : IsTrans Db (Statements W now) :=
  ⟨fun _ _ _ => .trans⟩

/-- One statement. -/
theorem Statement.one {W : AttemptWriter → Prop} {now : Timestamp} {db db' : Db}
    (h : Statement W now db db') : Statements W now db db' := .single h

section Programs

variable {W : AttemptWriter → Prop} {now : Timestamp}

/-! ## Statements of the tables -/

/-- A write of one attempt, by a writer that is allowed. -/
theorem writeAllowed_statements (e : StoreError) (id : Id) {w : AttemptWriter} (hw : W w) :
    Keeps (Statements W now) (onAttempts (writeAttempt now e id w)) :=
  fun _ => ensures_onAttempts.mpr fun _ h => (Statement.writeAttempt hw h).one

/-- An insertion that may give way to a row that is there. -/
theorem insertOrIgnore_statements (n : NewAttempt) : Keeps (Statements W now) (insertOrIgnore n) :=
  keeps_statement fun db attempts _ h => by
    obtain ⟨rfl, -⟩ := Prod.mk.inj (Except.ok.inj h)
    exact (Statement.insertAttempt n).one

/-- An attempt is read, or the program fails. -/
theorem requireAttempt_statements (missing : StoreError) (billingScopeId attemptId : Id) :
    Keeps (Statements W now) (requireAttempt missing billingScopeId attemptId) := by
  refine (keeps_read _).bind fun found => ?_
  cases found with
  | none => exact keeps_throw _
  | some a => exact keeps_pure a

/-- An observation of evidence for an attempt. -/
inductive Observation (now : Timestamp) (a : PaymentAttempt) (evidence : ProcessorEvidence)
    (db : Db) : Db → Prop
  | observe {newId : Id} {requested : ProcessorChargeProgression} {charges : List ProcessorCharge}
      {o : ObservedCharge}
      (observed : observeProcessorCharge now newId a evidence requested db.ledger.charges =
        .ok (charges, o)) : Observation now a evidence db (db.withCharges charges)

/-- An observation is a statement. -/
theorem Observation.statements {a : PaymentAttempt} {evidence : ProcessorEvidence} {db db' : Db}
    (h : Observation now a evidence db db') : Statements W now db db' := by
  cases h with
  | observe observed => exact (Statement.observe observed).one

/-- A program that cannot succeed without an observation. -/
abbrev PassesObservation (W : AttemptWriter → Prop) (now : Timestamp) (a : PaymentAttempt)
    (evidence : ProcessorEvidence) {α : Type} (x : Program α) : Prop :=
  Passes (Statements W now) (Observation now a evidence) x

/-- Such a program is a sequence of statements. -/
theorem PassesObservation.statements {a : PaymentAttempt} {evidence : ProcessorEvidence} {α : Type}
    {x : Program α} (h : PassesObservation W now a evidence x) : Keeps (Statements W now) x :=
  Passes.keeps h fun _ _ => Observation.statements

/-- An observation cannot succeed without itself. -/
theorem observe_passes (newId : Id) (a : PaymentAttempt) (evidence : ProcessorEvidence)
    (requested : ProcessorChargeProgression) :
    PassesObservation W now a evidence (observe now newId a evidence requested) :=
  passes_of_ensures fun _ => ensures_onCharges.mpr fun _ _ h => .observe h

/-- An observation, whatever it finds. -/
theorem observe_statements (newId : Id) (a : PaymentAttempt) (evidence : ProcessorEvidence)
    (requested : ProcessorChargeProgression) :
    Keeps (Statements W now) (observe now newId a evidence requested) :=
  (observe_passes newId a evidence requested).statements

/-- A statement on the charges whose result is a transition. -/
theorem transition_statements
    {f : List ProcessorCharge → Except StoreError (List ProcessorCharge × Unit)}
    (h : ∀ charges charges', f charges = .ok (charges', ()) → charges' = charges ∨
      ∃ chargeId expected progression update,
        transitionProcessorCharge now chargeId expected progression update charges = .ok charges') :
    Keeps (Statements W now) (onCharges f) := by
  refine fun db => ensures_onCharges.mpr fun charges _ hf => ?_
  rcases h _ _ hf with rfl | ⟨_, _, _, _, hmoved⟩
  · exact .refl
  · exact (Statement.transition hmoved).one

/-- A charge is moved by a transition. -/
theorem moveCharge_statements (chargeId : Id) (progression : ProcessorChargeProgression)
    (code : Option PaymentResolutionCode) :
    Keeps (Statements W now) (moveCharge now chargeId progression code) :=
  transition_statements fun _ _ h => by
    obtain ⟨_, hmoved, hpair⟩ := map_eq_ok.mp h
    obtain ⟨rfl, -⟩ := Prod.mk.inj hpair
    exact .inr ⟨_, _, _, _, hmoved⟩

/-- So is the charge of an expired period. -/
theorem moveExpiredCharge_statements (chargeId : Id) :
    Keeps (Statements W now) (moveExpiredCharge now chargeId) :=
  transition_statements fun _ _ h => by
    obtain ⟨_, hmoved, hpair⟩ := map_eq_ok.mp h
    obtain ⟨rfl, -⟩ := Prod.mk.inj hpair
    exact .inr ⟨_, _, _, _, hmoved⟩

/-- Events are appended, and no other row is touched. -/
theorem appendEvents_statements (events : List BillingEvent) :
    Keeps (Statements W now) (appendEvents now events) :=
  keeps_modify fun _ => (Statement.append events).one

/-- An update of subscriptions that keeps their owners. -/
theorem updateSubscriptions_statements {db : Db} {p : Subscription → Bool}
    {f : Subscription → Subscription} {subscriptions : List Subscription}
    (h : storeSubscriptions (Table.updateWhere p f db.subscriptions) = .ok subscriptions)
    (hf : ∀ s : Subscription, s.SameOwner (f s)) :
    Statements W now db { db with subscriptions } := by
  obtain ⟨rfl, -⟩ := storeSubscriptions_eq_ok h
  exact (Statement.updateSubscriptions
    (Table.forall₂_updateWhere (fun s _ _ => hf s) fun _ => ⟨rfl, rfl⟩)).one

/-- An update of one subscription, which fails unless it meets exactly one row. -/
theorem updateOneSubscription_statements (mismatch : StoreError) (matched : Subscription → Bool)
    {f : Subscription → Subscription} (hf : ∀ s : Subscription, s.SameOwner (f s)) :
    Keeps (Statements W now) (updateOneSubscription mismatch matched f) := by
  refine fun db => ensures_onSubscriptions.mpr fun subscriptions _ h => ?_
  split_ifs at h
  obtain ⟨rows, hrows, hpair⟩ := map_eq_ok.mp h
  obtain ⟨rfl, -⟩ := Prod.mk.inj hpair
  exact updateSubscriptions_statements hrows hf

/-- The result of an attempt is read from its row. -/
theorem paymentResultForAttempt_statements (a : PaymentAttempt) :
    Keeps (Statements W now) (paymentResultForAttempt a) :=
  keeps_get.bind fun _ => (keeps_throw _).ite (keeps_pure a)

section CommonWriters

variable [CommonWriters W]

/-- A write of one attempt, by a common writer. -/
theorem writeAttempt_statements (e : StoreError) (id : Id) (w : AttemptWriter)
    (hw : w.isCommon = true) :
    Keeps (Statements W now) (onAttempts (writeAttempt now e id w)) :=
  writeAllowed_statements e id (CommonWriters.allowed w hw)

/-- A write of all attempts that a predicate selects. -/
theorem writeAttempts_statements (p : PaymentAttempt → Bool) (w : AttemptWriter)
    (hw : w.isCommon = true) :
    Keeps (Statements W now) (onAttempts (writeAttempts now p w)) :=
  fun _ => ensures_onAttempts.mpr fun _ h =>
    (Statement.writeAttempts (CommonWriters.allowed w hw) h).one

/-- The outcome of an attempt is persisted by a common writer. -/
theorem persist_statements (id : Id) (w : AttemptWriter) (hw : w.isCommon = true) :
    Keeps (Statements W now) (persist now id w) :=
  writeAttempt_statements _ id w hw

end CommonWriters

/-! ## Outcomes -/

/-- The lock of a reservation reads its attempt. -/
theorem lockExpected_statements (r : OutcomeReservation) :
    Keeps (Statements W now) (lockExpectedReservationAttempt r) :=
  (requireAttempt_statements _ _ _).bind fun a => (keeps_pure a).ite (keeps_throw _)

/-- What a transaction leaves of an approval: the attempt was already approved with its processor
transaction, or the evidence is observed for it. -/
inductive ApprovalRecorded (W : AttemptWriter → Prop) (now : Timestamp) (attemptId : Id)
    (evidence : ProcessorEvidence) (db db' : Db) : Prop
  | replayed {a : PaymentAttempt} (mem : a ∈ db.attempts) (id : a.id = attemptId)
      (status : a.status = .approved) (same : sameProcessorTransaction a evidence = true)
      (rest : Statements W now db db')
  | observed {a : PaymentAttempt} {db₀ db₁ : Db} (mem : a ∈ db.attempts) (id : a.id = attemptId)
      (before : Statements W now db db₀) (observation : Observation now a evidence db₀ db₁)
      (after : Statements W now db₁ db')

/-- A program that cannot succeed without recording an approval of an attempt. -/
def RecordsApproval (W : AttemptWriter → Prop) (now : Timestamp) (attemptId : Id)
    (evidence : ProcessorEvidence) {α : Type} (x : Program α) : Prop :=
  ∀ db, Ensures x db fun _ db' => ApprovalRecorded W now attemptId evidence db db'

/-- A program that has the row of the attempt, and cannot succeed without recording an approval of
it. -/
def RecordsFor (W : AttemptWriter → Prop) (now : Timestamp) (a : PaymentAttempt)
    (evidence : ProcessorEvidence) {α : Type} (x : Program α) : Prop :=
  ∀ db, a ∈ db.attempts → Ensures x db fun _ db' => ApprovalRecorded W now a.id evidence db db'

/-- Such a program is a sequence of statements. -/
theorem RecordsApproval.statements {attemptId : Id} {evidence : ProcessorEvidence} {α : Type}
    {x : Program α} (h : RecordsApproval W now attemptId evidence x) : Keeps (Statements W now) x :=
  fun db => (h db).mono fun _ db' hrecorded => by
    cases hrecorded with
    | replayed _ _ _ _ rest => exact rest
    | observed _ _ before observation after =>
      exact before.trans (observation.statements.trans after)

/-- An observation for an attempt whose row is there records its approval. -/
theorem PassesObservation.recordsFor {a : PaymentAttempt} {evidence : ProcessorEvidence} {α : Type}
    {x : Program α} (h : PassesObservation W now a evidence x) : RecordsFor W now a evidence x :=
  fun db ha => (h db).mono fun _ _ hpasses => by
    obtain ⟨db₀, db₁, before, observation, after⟩ := hpasses
    exact .observed ha rfl before observation after

/-- Both branches of a test have to record the approval. -/
theorem RecordsFor.ite {a : PaymentAttempt} {evidence : ProcessorEvidence} {α : Type} {p : Prop}
    [Decidable p] {x y : Program α} (hx : RecordsFor W now a evidence x)
    (hy : RecordsFor W now a evidence y) : RecordsFor W now a evidence (if p then x else y) := by
  split_ifs
  · exact hx
  · exact hy

/-- The program of a reservation, after the lock of its attempt. -/
theorem recordsApproval_locked {r : OutcomeReservation} {evidence : ProcessorEvidence} {α : Type}
    {f : PaymentAttempt → Program α} (h : ∀ a, RecordsFor W now a evidence (f a)) :
    RecordsApproval W now r.identity.attemptId evidence
      (lockExpectedReservationAttempt r >>= f) := by
  intro db
  rw [ensures_bind, lockExpectedReservationAttempt, ensures_bind]
  refine ensures_requireAttempt fun a ha _ hid => ?_
  rw [ensures_ite]
  exact ⟨fun _ => ensures_pure.mpr (hid ▸ h a db ha), fun _ => ensures_throw⟩

/-- The result of a reservation is read from its attempt. -/
theorem paymentResultForReservation_statements (r : OutcomeReservation) :
    Keeps (Statements W now) (paymentResultForReservationAttempt r) :=
  (requireAttempt_statements _ _ _).bind paymentResultForAttempt_statements

/-- A step of the dunning engine changes the rows of its subscription. -/
theorem applyRenewalFailure_statements (a : PaymentAttempt) :
    Keeps (Statements W now) (applyRenewalFailure now a) := by
  refine keeps_get.bind fun db' db =>
    ensures_onSubscriptions.mpr fun subscriptions application h => ?_
  unfold applyResolvedAutomaticRenewalFailure at h
  -- Up to its decision the engine only reads.
  obtain ⟨v, -, h⟩ := bind_eq_ok.mp h
  obtain ⟨durable, -, h⟩ := bind_eq_ok.mp h
  split at h
  · cases h
  split at h
  · cases h
  obtain ⟨history, -, h⟩ := bind_eq_ok.mp h
  obtain ⟨decision, -, h⟩ := bind_eq_ok.mp h
  cases decision with
  | noop =>
    obtain ⟨rfl, rfl⟩ := Prod.mk.inj (Except.ok.inj h)
    exact .refl
  | apply t =>
    obtain ⟨rows, hpersist, h⟩ := bind_eq_ok.mp h
    obtain ⟨rfl, rfl⟩ := Prod.mk.inj (Except.ok.inj h)
    unfold persistRenewalFailureTransition at hpersist
    dsimp only at hpersist
    split_ifs at hpersist
    exact updateSubscriptions_statements hpersist fun s => ⟨rfl, rfl⟩

/-- A submission is given back for another try, by a writer that is not common. -/
theorem restore_statements (hrestore : W .restore) (r : OutcomeReservation) :
    Keeps (Statements W now) (restoreAdmittedAttemptForRetry now r) :=
  have hresult : Keeps (Statements W now) _ := paymentResultForReservation_statements r
  (lockExpected_statements r).bind fun _ =>
    ((writeAllowed_statements _ _ hrestore).bind fun _ => hresult).ite hresult

section CommonWriters

variable [CommonWriters W]

/-- An outcome is written on the locked attempt, and evidence that calls for it is observed. -/
theorem resolveLockedOutcome_statements (newId : Id) (r : OutcomeReservation) (a : PaymentAttempt)
    (observed : ProcessorEvidence) (c : OutcomeResolutionCommand) :
    Keeps (Statements W now) (resolveLockedOutcome now newId r a observed c) :=
  have hresult : Keeps (Statements W now) _ := paymentResultForReservation_statements r
  ((persist_statements _ _ (OutcomeResolutionCommand.isCommon_writer _ _)).bind fun _ =>
    ((observe_statements _ _ _ _).bind fun _ => hresult).ite hresult).ite hresult

/-- An outcome other than an approval, of an enrollment, a recovery or a replacement. -/
theorem resolvePoolOutcome_statements (newId : Id) (r : OutcomeReservation)
    (observed : ProcessorEvidence) (c : OutcomeResolutionCommand) :
    Keeps (Statements W now) (resolvePoolOutcome now newId r observed c) :=
  (lockExpected_statements r).bind fun a => resolveLockedOutcome_statements newId r a observed c

/-- The outcome of a renewal, with the step of the dunning engine in the same transaction. -/
theorem resolveRenewal_statements (r : SubscriptionChargeReservation) (observed : ProcessorEvidence)
    (c : OutcomeResolutionCommand) :
    Keeps (Statements W now) (resolveRenewalNonApprovedOutcome now r observed c) := by
  have hresult : Keeps (Statements W now) _ := paymentResultForReservation_statements (.charge r)
  refine (lockExpected_statements _).bind fun a => Keeps.ite ?_ hresult
  refine (persist_statements _ _ (OutcomeResolutionCommand.isCommon_writer _ _)).bind fun _ =>
    Keeps.ite ?_ hresult
  exact (requireAttempt_statements _ _ _).bind fun resolved =>
    (applyRenewalFailure_statements resolved).bind fun application =>
      hresult.bind fun result => (appendEvents_statements _).bind fun _ => keeps_pure result

end CommonWriters

/-! ## Parking -/

section CommonWriters

variable [CommonWriters W]

/-- A locked attempt is parked for review. -/
theorem parkLockedAttempt_statements (a : PaymentAttempt) (evidence : ProcessorEvidence)
    (code : Option PaymentResolutionCode) (message : String) :
    Keeps (Statements W now) (parkLockedAttempt now a evidence code message) :=
  (persist_statements _ _ rfl).bind fun _ => requireAttempt_statements _ _ _

/-- An approval of an expired period is parked, and its charge has to be reversed. -/
theorem parkExpiredPeriodApproval_statements (a : PaymentAttempt) (chargeId : Id)
    (evidence : ProcessorEvidence) :
    Keeps (Statements W now) (parkExpiredPeriodApproval now a chargeId evidence) :=
  (moveExpiredCharge_statements chargeId).bind fun _ => parkLockedAttempt_statements _ _ _ _

/-- An observed approval is parked only if its period has expired. -/
theorem parkObserved_statements (a : PaymentAttempt) (observation : ObservedCharge)
    (evidence : ProcessorEvidence) (expiredPeriodEnd : Option Timestamp) :
    Keeps (Statements W now)
      (parkObservedApprovalIfPeriodExpired now a observation evidence expiredPeriodEnd) := by
  unfold parkObservedApprovalIfPeriodExpired
  split
  · exact keeps_pure none
  · refine Keeps.ite (keeps_get.bind fun db => Keeps.ite (keeps_pure none) ?_) ?_
    · exact (moveExpiredCharge_statements _).bind fun _ => keeps_pure none
    · exact (parkExpiredPeriodApproval_statements _ _ _).map some

/-- The compensation of an approval observes its evidence before it parks the attempt. -/
theorem parkCompensated_passes (newId : Id) (a : PaymentAttempt) (evidence : ProcessorEvidence)
    (message : String) (expiredPeriodEnd : Option Timestamp) :
    PassesObservation W now a evidence
      (parkCompensatedApprovedAttempt now newId a evidence message expiredPeriodEnd) := by
  refine Passes.ite ((observe_passes _ _ _ _).bind fun _ => keeps_pure a) ?_
  refine (observe_passes _ _ _ _).bind fun observation => ?_
  refine (parkObserved_statements a observation evidence expiredPeriodEnd).bind fun parked => ?_
  cases parked with
  | some parked => exact keeps_pure parked
  | none => exact parkLockedAttempt_statements _ _ _ _

end CommonWriters

/-! ## Approvals -/

/-- A conflicting charge is moved on from where it stands. -/
theorem promoteConflicting_statements (observation : ObservedCharge) :
    Keeps (Statements W now) (promoteConflictingCharge now observation) := by
  cases observation with
  | ownedByOtherAttempt => exact keeps_pure ()
  | owned charge =>
    refine keeps_get.bind fun db => ?_
    split
    · exact keeps_throw _
    · split
      · exact moveCharge_statements _ _ _
      · exact moveCharge_statements _ _ _
      · exact keeps_pure ()
      · exact keeps_pure ()
      · exact keeps_throw _

/-- An approval that is stopped is recorded, when one that is not stopped will be. -/
theorem stopConflicting_recordsFor {newId : Id} {a : PaymentAttempt} {evidence : ProcessorEvidence}
    {f : Option PaymentAttempt → Program PaymentAttempt}
    (hstopped : ∀ payment, Keeps (Statements W now) (f (some payment)))
    (hunstopped : PassesObservation W now a evidence (f none)) :
    RecordsFor W now a evidence
      (stopConflictingSubscriptionApproval now newId a evidence >>= f) := by
  intro db ha
  -- Where nothing is stopped the rest observes; where the approval is stopped, the attempt was
  -- approved with this transaction already, or the evidence is observed before the program goes on.
  have hnone : Ensures (pure none : Program (Option PaymentAttempt)) db fun r db₁ =>
      Ensures (f r) db₁ fun _ db' => ApprovalRecorded W now a.id evidence db db' :=
    ensures_pure.mpr (hunstopped.recordsFor db ha)
  have hresult {db₁ : Db} (h₁ : ∀ db', Statements W now db₁ db' →
    ApprovalRecorded W now a.id evidence db db') :
      Ensures (some <$> paymentResultForAttempt a) db₁ fun r db₂ =>
        Ensures (f r) db₂ fun _ db' => ApprovalRecorded W now a.id evidence db db' := by
    rw [map_eq_pure_bind, ensures_bind]
    exact ensures_paymentResultForAttempt
      (ensures_pure.mpr ((hstopped a db₁).mono fun _ db' hrest => h₁ db' hrest))
  rw [ensures_bind, stopConflictingSubscriptionApproval, ensures_ite]
  refine ⟨fun _ => hnone, fun _ => ?_⟩
  rw [ensures_ite]
  refine ⟨fun _ => hnone, fun _ => ?_⟩
  rw [ensures_ite]
  refine ⟨fun happroved => hresult fun _ hrest => .replayed ha rfl happroved.1 happroved.2 hrest,
    fun _ => ?_⟩
  rw [ensures_bind]
  refine (observe_passes (W := W) newId a evidence _ db).mono fun observation db₂ hpasses => ?_
  obtain ⟨db₀, db₁, before, hobserved, after⟩ := hpasses
  rw [ensures_ite]
  refine ⟨fun _ => ?_, fun _ => hresult fun _ hrest => .observed ha rfl before hobserved
    (after.trans hrest)⟩
  rw [ensures_bind]
  refine (promoteConflicting_statements (W := W) observation db₂).mono fun _ db₃ hpromoted => ?_
  exact hresult fun _ hrest =>
    .observed ha rfl before hobserved (after.trans (hpromoted.trans hrest))

/-- Rows that are not an account of anything. -/
theorem others_statements {f : Db → Db}
    (h : ∀ db, ∃ accounts limits methods discounts claims, f db = { db with
      gatewayAccounts := accounts, providerRateLimits := limits, paymentMethods := methods
      discounts := discounts, discountClaims := claims }) :
    Keeps (Statements W now) (modify f : Program PUnit) :=
  keeps_modify fun db => by
    obtain ⟨accounts, limits, methods, discounts, claims, heq⟩ := h db
    exact heq ▸ (Statement.others accounts limits methods discounts claims).one

/-- A payment method is inserted, or the one with its reference made active. -/
theorem upsertPaymentMethod_statements (newId : Id) (a : PaymentAttempt)
    (evidence : ProcessorEvidence) :
    Keeps (Statements W now) (upsertPaymentMethod newId a evidence) := by
  unfold upsertPaymentMethod
  split
  · exact keeps_throw _
  · refine keeps_get.bind fun db => ?_
    dsimp only
    split
    · exact (others_statements fun db => ⟨_, _, _, _, _, rfl⟩).bind fun _ => keeps_pure _
    · exact (keeps_throw _).ite
        ((others_statements fun db => ⟨_, _, _, _, _, rfl⟩).bind fun _ => keeps_pure _)

/-- A payment method that nothing refers to is disabled. -/
theorem disablePaymentMethod_statements (methodId : Id) :
    Keeps (Statements W now) (disablePaymentMethodIfUnreferenced methodId) := by
  refine others_statements fun db => ?_
  split_ifs
  · exact ⟨_, _, _, _, _, rfl⟩
  · exact ⟨_, _, _, _, _, rfl⟩

/-- A discount counts one more charge, and its end restores the base price. -/
theorem advanceDiscount_statements (subscriptionId : Id) (planKey : String) :
    Keeps (Statements W now) (advanceDiscountAfterSuccessfulCharge now subscriptionId planKey) := by
  refine keeps_get.bind fun db => ?_
  dsimp only
  split
  · exact keeps_pure ()
  · refine Keeps.ite (keeps_pure ()) ?_
    split
    · exact (others_statements fun db => ⟨_, _, _, _, _, rfl⟩).ite
        ((keeps_pure ()).ite (keeps_throw _))
    · refine (keeps_throw _).ite
        ((others_statements fun db => ⟨_, _, _, _, _, rfl⟩).bind fun _ => ?_)
      refine Keeps.ite (fun db => ensures_onSubscriptions.mpr fun subscriptions _ h => ?_)
        (keeps_pure ())
      obtain ⟨rows, hrows, hpair⟩ := map_eq_ok.mp h
      obtain ⟨rfl, -⟩ := Prod.mk.inj hpair
      exact updateSubscriptions_statements hrows fun s => ⟨rfl, rfl⟩

/-- A paid charge moves its subscription on, and a recovery its payment method too. -/
theorem advanceSubscription_statements (ids : NewIds) (r : SubscriptionChargeReservation)
    (a : PaymentAttempt) (evidence : ProcessorEvidence) :
    Keeps (Statements W now) (advanceSubscription now ids r a evidence) := by
  unfold advanceSubscription
  split
  · refine Keeps.bind (updateOneSubscription_statements _ _ ?_) fun _ =>
      (advanceDiscount_statements _ _).bind fun _ => keeps_pure _
    exact fun s => ⟨rfl, rfl⟩
  · split
    · exact keeps_throw _
    · refine (upsertPaymentMethod_statements _ _ _).bind fun methodId =>
        Keeps.bind (updateOneSubscription_statements _ _ ?_) fun _ =>
          (advanceDiscount_statements _ _).bind fun _ =>
            (disablePaymentMethod_statements _).bind fun _ => keeps_pure methodId
      exact fun s => ⟨rfl, rfl⟩

/-- An approval of an approved attempt is observed once more. -/
theorem applyApprovedAgain_passes (ids : NewIds) (a : PaymentAttempt)
    (evidence : ProcessorEvidence) :
    PassesObservation W now a evidence (applyApprovedAgain now ids a evidence) :=
  keeps_get.bind_passes fun _ =>
    (passes_throw _).ite ((observe_passes _ _ _ _).bind fun _ => keeps_pure a)

section CommonWriters

variable [CommonWriters W]

/-- The application of a charge that owns its evidence. -/
theorem applyCharge_statements (ids : NewIds) (r : SubscriptionChargeReservation)
    (a : PaymentAttempt) (evidence : ProcessorEvidence) (chargeId : Id) :
    Keeps (Statements W now) (applyCharge now ids r a evidence chargeId) :=
  (advanceSubscription_statements ids r a evidence).bind fun _ =>
    (persist_statements _ _ rfl).bind fun _ => (moveCharge_statements _ _ _).bind fun _ =>
      (requireAttempt_statements _ _ _).bind fun approved => keeps_get.bind fun _ =>
        (keeps_throw _).ite ((appendEvents_statements _).bind fun _ => keeps_pure approved)

/-- An approval of an open charge is observed, and then parked or applied. -/
theorem applyOpenCharge_passes (ids : NewIds) (policy : SubscriptionPeriodExpiryPolicy)
    (r : SubscriptionChargeReservation) (a : PaymentAttempt) (evidence : ProcessorEvidence) :
    PassesObservation W now a evidence (applyOpenChargeApproval now ids policy r a evidence) := by
  refine (observe_passes _ _ _ _).bind fun o => ?_
  cases o with
  | ownedByOtherAttempt => exact parkLockedAttempt_statements _ _ _ _
  | owned charge =>
    -- The ways to park differ in where they leave the charge and in what they say.
    have hpark {progression code code' message} : Keeps (Statements W now) _ :=
      (moveCharge_statements charge.id progression code).bind fun _ =>
        parkLockedAttempt_statements a evidence code' message
    refine Keeps.ite hpark (keeps_get.bind fun db => Keeps.ite hpark (Keeps.ite ?_ ?_))
    · exact parkExpiredPeriodApproval_statements _ _ _
    · exact applyCharge_statements _ _ _ _ _

/-- An approval of a charge that is closed is observed for a later reconciliation. -/
theorem applyTerminalCharge_passes (ids : NewIds) (policy : SubscriptionPeriodExpiryPolicy)
    (r : SubscriptionChargeReservation) (a : PaymentAttempt) (evidence : ProcessorEvidence) :
    PassesObservation W now a evidence
      (applyTerminalChargeApproval now ids policy r a evidence) := by
  refine (observe_passes _ _ _ _).bind fun o => ?_
  cases o with
  | ownedByOtherAttempt => exact keeps_pure a
  | owned charge =>
    refine keeps_get.bind fun db => Keeps.ite (paymentResultForAttempt_statements a) ?_
    exact (moveCharge_statements _ _ _).bind fun _ =>
      (parkObserved_statements _ _ _ _).bind fun _ => keeps_pure a

/-- The application of an approved charge records it. -/
theorem applyChargeApproved_records (ids : NewIds) (liveRecipient : Bool)
    (policy : SubscriptionPeriodExpiryPolicy) (r : SubscriptionChargeReservation)
    (evidence : ProcessorEvidence) :
    RecordsApproval W now r.identity.attemptId evidence
      (applyChargeApproved now ids liveRecipient policy r evidence) := by
  refine recordsApproval_locked (r := .charge r) fun a => stopConflicting_recordsFor keeps_pure ?_
  refine Passes.ite (applyApprovedAgain_passes _ _ _)
    (Passes.ite ?_ (Passes.ite (passes_throw _) ?_))
  · exact (observe_passes _ _ _ _).bind fun _ => keeps_pure a
  · exact (applyTerminalCharge_passes _ _ _ _ _).ite (applyOpenCharge_passes _ _ _ _ _)

/-- So does its compensation. -/
theorem tryParkCharge_records (newId : Id) (policy : SubscriptionPeriodExpiryPolicy)
    (r : SubscriptionChargeReservation) (evidence : ProcessorEvidence) (message : String) :
    RecordsApproval W now r.identity.attemptId evidence
      (tryParkChargeApproved now newId policy r evidence message) := by
  refine recordsApproval_locked (r := .charge r) fun a => ?_
  refine PassesObservation.recordsFor (Passes.ite ?_ (Passes.ite ?_ ?_))
  · exact (observe_passes _ _ _ _).bind fun _ => paymentResultForAttempt_statements a
  · exact (observe_passes _ _ _ _).bind fun o =>
      (parkObserved_statements _ o _ _).bind fun _ => paymentResultForAttempt_statements a
  · exact (parkCompensated_passes _ _ _ _ _).bind paymentResultForAttempt_statements

/-- So does the observation of its evidence alone. -/
theorem observeCharge_records (newId : Id) (policy : SubscriptionPeriodExpiryPolicy)
    (r : SubscriptionChargeReservation) (evidence : ProcessorEvidence) :
    RecordsApproval W now r.identity.attemptId evidence
      (observeChargeApproved now newId policy r evidence) :=
  recordsApproval_locked (r := .charge r) fun _ => PassesObservation.recordsFor <|
    (observe_passes _ _ _ _).bind fun _ => (parkObserved_statements _ _ _ _).bind fun _ =>
      keeps_pure ()

end CommonWriters

/-! ## Enrollment -/

/-- The end of an initial period is computed from the terms of the attempt. -/
theorem initialExpiredPeriodEnd_statements (policy : SubscriptionPeriodExpiryPolicy)
    (a : PaymentAttempt) : Keeps (Statements W now) (initialExpiredPeriodEnd policy a) :=
  (keeps_read _).ite (keeps_pure none)

/-- The discount of an enrollment is inserted together with the update of its claim. -/
theorem applyInitialDiscount_statements (a : PaymentAttempt) (subscriptionId : Id)
    (planKey : String) (appliedAt : Timestamp) (periodsApplied : ℕ)
    (discount : Option SubscriptionEnrollmentDiscountSnapshot) :
    Keeps (Statements W now)
      (applyInitialDiscount a subscriptionId planKey appliedAt periodsApplied discount) := by
  intro db
  cases discount with
  | none => exact keeps_pure () db
  | some discount =>
    -- The store that is set is the one that was read, so the two statements are one.
    unfold applyInitialDiscount
    rw [ensures_bind, ensures_get]
    dsimp only
    rw [ensures_ite]
    refine ⟨fun _ => ensures_throw, fun _ => ensures_ite.mpr ⟨fun _ => ensures_throw, fun _ => ?_⟩⟩
    intro _ db' h
    obtain ⟨-, rfl⟩ := Prod.mk.inj (Except.ok.inj h)
    exact (Statement.others _ _ _ _ _).one

section CommonWriters

variable [CommonWriters W]

/-- A subscription starts: its method, its row, its discount, its attempt and its charge. -/
theorem startSubscription_statements (ids : NewIds) (r : SubscriptionEnrollmentReservation)
    (a : PaymentAttempt) (evidence : ProcessorEvidence) (chargeId : Id) :
    Keeps (Statements W now) (startSubscription now ids r a evidence chargeId) := by
  refine (keeps_read _).bind fun terms => ?_
  obtain ⟨offer, discount, period⟩ := terms
  dsimp only
  split
  · exact keeps_throw _
  · refine (upsertPaymentMethod_statements _ _ _).bind fun methodId => Keeps.bind ?_ fun _ =>
      (applyInitialDiscount_statements _ _ _ _ _ _).bind fun _ =>
        (persist_statements _ _ rfl).bind fun _ => (moveCharge_statements _ _ _).bind fun _ =>
          (requireAttempt_statements _ _ _).bind fun approved =>
            (appendEvents_statements _).bind fun _ => keeps_pure approved
    refine fun db => ensures_onSubscriptions.mpr fun subscriptions _ h => ?_
    obtain ⟨rows, hrows, hpair⟩ := map_eq_ok.mp h
    obtain ⟨rfl, -⟩ := Prod.mk.inj hpair
    obtain ⟨rfl, -⟩ := storeSubscriptions_eq_ok hrows
    exact (Statement.insertSubscription _).one

/-- An approval of an open enrollment is observed, and then parked or applied. -/
theorem applyOpenEnrollment_passes (ids : NewIds) (policy : SubscriptionPeriodExpiryPolicy)
    (r : SubscriptionEnrollmentReservation) (a : PaymentAttempt) (evidence : ProcessorEvidence) :
    PassesObservation W now a evidence
      (applyOpenEnrollmentApproval now ids policy r a evidence) := by
  refine (observe_passes _ _ _ _).bind fun o => ?_
  cases o with
  | ownedByOtherAttempt => exact parkLockedAttempt_statements _ _ _ _
  | owned charge =>
    have hpark {code code' message} : Keeps (Statements W now) _ :=
      (moveCharge_statements charge.id .externalReversalRequired code).bind fun _ =>
        parkLockedAttempt_statements a evidence code' message
    refine hpark.ite ((keeps_read _).bind fun terms => ?_)
    obtain ⟨-, -, period⟩ := terms
    refine Keeps.ite (parkExpiredPeriodApproval_statements _ _ _) (keeps_get.bind fun db => ?_)
    refine hpark.ite (keeps_get.bind fun db => hpark.ite ?_)
    exact startSubscription_statements _ _ _ _ _

/-- An approval of a closed enrollment is observed, and the attempt is parked again. -/
theorem applyTerminalEnrollment_passes (ids : NewIds) (policy : SubscriptionPeriodExpiryPolicy)
    (a : PaymentAttempt) (evidence : ProcessorEvidence) :
    PassesObservation W now a evidence
      (applyTerminalEnrollmentApproval now ids policy a evidence) := by
  refine (observe_passes _ _ _ _).bind fun o => keeps_get.bind fun db => ?_
  refine Keeps.ite (paymentResultForAttempt_statements a) ?_
  -- The initial period decides whether the charge has to be reversed.
  refine (initialExpiredPeriodEnd_statements _ _).bind fun periodEnd => ?_
  split
  · exact parkExpiredPeriodApproval_statements _ _ _
  · refine (parkLockedAttempt_statements _ _ _ _).bind fun parked => ?_
    cases o with
    | ownedByOtherAttempt => exact keeps_pure parked
    | owned charge => exact (moveCharge_statements _ _ _).bind fun _ => keeps_pure parked

/-- The application of an approved enrollment records it. -/
theorem applyEnrollmentApproved_records (ids : NewIds) (liveRecipient : Bool)
    (policy : SubscriptionPeriodExpiryPolicy) (r : SubscriptionEnrollmentReservation)
    (evidence : ProcessorEvidence) :
    RecordsApproval W now r.identity.attemptId evidence
      (applyEnrollmentApproved now ids liveRecipient policy r evidence) := by
  refine recordsApproval_locked (r := .initial r) fun a => stopConflicting_recordsFor keeps_pure ?_
  refine Passes.ite (applyApprovedAgain_passes _ _ _)
    (Passes.ite ?_ (Passes.ite (passes_throw _) ?_))
  · exact (observe_passes _ _ _ _).bind fun _ => keeps_pure a
  · exact (applyTerminalEnrollment_passes _ _ _ _).ite (applyOpenEnrollment_passes _ _ _ _ _)

/-- So does its compensation. -/
theorem tryParkEnrollment_records (newId : Id) (policy : SubscriptionPeriodExpiryPolicy)
    (r : SubscriptionEnrollmentReservation) (evidence : ProcessorEvidence) (message : String) :
    RecordsApproval W now r.identity.attemptId evidence
      (tryParkEnrollmentApproved now newId policy r evidence message) := by
  have hresult (a) : Keeps (Statements W now) _ := paymentResultForAttempt_statements a
  refine recordsApproval_locked (r := .initial r) fun a => ?_
  refine PassesObservation.recordsFor (Passes.ite ?_ (Passes.ite ?_ ?_))
  · exact (observe_passes _ _ _ _).bind fun _ => hresult a
  · refine (observe_passes _ _ _ _).bind fun o => keeps_get.bind fun db => Keeps.ite ?_ (hresult a)
    refine (initialExpiredPeriodEnd_statements _ _).bind fun periodEnd => ?_
    split
    · exact (parkExpiredPeriodApproval_statements _ _ _).bind hresult
    · exact hresult a
  · exact (initialExpiredPeriodEnd_statements _ _).bind_passes fun _ =>
      (parkCompensated_passes _ _ _ _ _).bind hresult

/-- So does the observation of its evidence alone. -/
theorem observeEnrollment_records (newId : Id) (policy : SubscriptionPeriodExpiryPolicy)
    (r : SubscriptionEnrollmentReservation) (evidence : ProcessorEvidence) :
    RecordsApproval W now r.identity.attemptId evidence
      (observeEnrollmentApproved now newId policy r evidence) :=
  recordsApproval_locked (r := .initial r) fun _ => PassesObservation.recordsFor <|
    (observe_passes _ _ _ _).bind fun _ => (initialExpiredPeriodEnd_statements _ _).bind fun _ =>
      (parkObserved_statements _ _ _ _).bind fun _ => keeps_pure ()

end CommonWriters

/-! ## Reservations -/

/-- The attempt of a reserved charge is inserted. -/
theorem insertReservation_statements (gateway : ResolvedGateway) (billingScopeId : Id)
    (r : SubscriptionChargeReservation) :
    Keeps (Statements W now) (insertReservation now gateway billingScopeId r) := by
  unfold insertReservation
  split
  · exact keeps_throw _
  · exact (keeps_throw _).ite (insertOrIgnore_statements _)

section CommonWriters

variable [CommonWriters W]

/-- Stale attempts of a subscription expire, the method updates before the charges. -/
theorem expireStale_statements (subscriptionId : Id) :
    Keeps (Statements W now) (expireStaleAttempts now subscriptionId) :=
  (writeAttempts_statements _ _ rfl).bind fun _ => writeAttempts_statements _ _ rfl

/-- The gates of a renewal only expire stale attempts. -/
theorem renewalGates_statements (policy : SubscriptionPeriodExpiryPolicy)
    (mode : GatewayAccountMode) (gateway : ResolvedGateway) (command : ChargeRenewal) :
    Keeps (Statements W now) (renewalGates now policy mode gateway command) := by
  refine keeps_get.bind fun db => ?_
  split
  · exact keeps_pure _
  · refine (keeps_pure _).ite ((keeps_pure _).ite ((keeps_read _).bind fun rejected => ?_))
    refine (keeps_pure _).ite ((expireStale_statements _).bind fun _ => keeps_get.bind fun _ => ?_)
    exact keeps_pure _

/-- A renewal is reserved, or rejected by a gate. -/
theorem reserveRenewal_statements (policy : SubscriptionPeriodExpiryPolicy)
    (mode : GatewayAccountMode) (gateway : ResolvedGateway) (attemptId : Id)
    (command : ChargeRenewal) :
    Keeps (Statements W now)
      (reserveSubscriptionRenewal now policy mode gateway attemptId command) := by
  refine (renewalGates_statements _ _ _ _).bind fun gates => ?_
  cases gates with
  | rejected rejection => exact keeps_pure _
  | passed s state =>
    exact (keeps_read _).bind fun period =>
      (insertReservation_statements _ _ _).bind fun inserted =>
      ((requireAttempt_statements _ _ _).bind fun a => keeps_pure _).ite (keeps_pure _)

/-- A recovery that is repeated is answered from the attempt that has its key. -/
theorem answerExistingRecovery_statements (mode : GatewayAccountMode)
    (command : RecoverSubscriptionPayment) (a : PaymentAttempt) :
    Keeps (Statements W now) (answerExistingRecovery now mode command a) := by
  refine Keeps.ite (Keeps.ite (keeps_pure _) ?_) (keeps_pure _)
  split
  · exact keeps_throw _
  · exact (writeAttempts_statements _ _ rfl).bind fun _ =>
      (requireAttempt_statements _ _ _).bind fun _ =>
      keeps_get.bind fun _ => (keeps_pure _).ite (keeps_pure _)

/-- A recovery is reserved, rejected, or answered. -/
theorem reserveRecovery_statements (mode : GatewayAccountMode) (gateway : ResolvedGateway)
    (command : RecoverSubscriptionPayment) :
    Keeps (Statements W now) (reserveSubscriptionRecovery now mode gateway command) := by
  refine (keeps_read _).bind fun existing => ?_
  cases existing with
  | some a => exact answerExistingRecovery_statements _ _ _
  | none =>
    refine keeps_get.bind fun db => ?_
    dsimp only
    split
    · exact keeps_pure _
    -- The key is looked up again after the insertion, which another reservation may have won.
    · refine (keeps_pure _).ite ((keeps_pure _).ite ((expireStale_statements _).bind fun _ =>
        keeps_get.bind fun db => ?_))
      split
      · exact keeps_pure _
      · refine (keeps_read _).bind fun period => (keeps_throw _).ite ?_
        refine (insertReservation_statements _ _ _).bind fun inserted =>
          (keeps_read _).bind fun existing => ?_
        cases existing with
        | none => exact (keeps_throw _).ite (keeps_pure _)
        | some a => exact (keeps_pure _).ite (answerExistingRecovery_statements _ _ _)

/-- An admission writes the attempt and reads it back. -/
theorem writeAdmission_statements (a : PaymentAttempt) (w : AttemptWriter)
    (hw : w.isCommon = true) : Keeps (Statements W now) (writeAdmission now a w) :=
  (writeAttempt_statements _ _ _ hw).bind fun _ => requireAttempt_statements _ _ _

/-- The submission of a charge is admitted, or its attempt closed as not submitted. -/
theorem admitSubmission_statements (policy : SubscriptionPeriodExpiryPolicy)
    (r : SubscriptionChargeReservation) :
    Keeps (Statements W now) (admitSubmission now policy r) := by
  refine (expireStale_statements _).bind fun _ => (keeps_read _).bind fun found => ?_
  cases found with
  | none => exact keeps_throw _
  | some a =>
    refine (keeps_throw _).ite ((keeps_pure _).ite (keeps_get.bind fun db => ?_))
    split
    · exact (writeAdmission_statements _ _ rfl).bind fun _ => keeps_pure _
    · exact (writeAdmission_statements _ _ rfl).map _

end CommonWriters

/-! ## Replacements -/

/-- The evidence of a replacement records its approval. -/
theorem observeReplacement_records (newId : Id) (r : SubscriptionPaymentMethodReplacement)
    (evidence : ProcessorEvidence) :
    RecordsApproval W now r.identity.attemptId evidence
      (observeReplacementApproved now newId r evidence) :=
  recordsApproval_locked (r := .replacement r) fun _ => PassesObservation.recordsFor <|
    (observe_passes _ _ _ _).bind fun _ => keeps_pure ()

section CommonWriters

variable [CommonWriters W]

/-- A replacement that is repeated is answered from the attempt that has its key. -/
theorem answerExistingReplacement_statements (mode : GatewayAccountMode)
    (command : ReplaceSubscriptionPaymentMethod) (a : PaymentAttempt) :
    Keeps (Statements W now) (answerExistingReplacement now mode command a) := by
  refine Keeps.ite (Keeps.ite (keeps_pure _) ?_) (keeps_pure _)
  split
  · exact keeps_throw _
  · exact (writeAttempts_statements _ _ rfl).bind fun _ =>
      (requireAttempt_statements _ _ _).bind fun _ =>
      keeps_get.bind fun _ => (keeps_pure _).ite (keeps_pure _)

/-- A replacement is reserved, rejected, or answered. -/
theorem reserveReplacement_statements (mode : GatewayAccountMode) (gateway : ResolvedGateway)
    (command : ReplaceSubscriptionPaymentMethod) :
    Keeps (Statements W now) (reservePaymentMethodReplacement now mode gateway command) := by
  refine (keeps_read _).bind fun existing => ?_
  cases existing with
  | some a => exact answerExistingReplacement_statements _ _ _
  | none =>
    refine keeps_get.bind fun db => ?_
    dsimp only
    split
    · exact keeps_pure _
    · refine (keeps_pure _).ite ((keeps_pure _).ite ((expireStale_statements _).bind fun _ =>
        keeps_get.bind fun db => ?_))
      split
      · exact keeps_pure _
      · refine (keeps_throw _).ite ((insertOrIgnore_statements _).bind fun inserted =>
          (keeps_read _).bind fun existing => ?_)
        cases existing with
        | none => exact (keeps_throw _).ite (keeps_pure _)
        | some a => exact (keeps_pure _).ite (answerExistingReplacement_statements _ _ _)

/-- The submission of a replacement is admitted, or its attempt closed as not submitted. -/
theorem admitReplacement_statements (r : SubscriptionPaymentMethodReplacement) :
    Keeps (Statements W now) (admitReplacement now r) := by
  refine (expireStale_statements _).bind fun _ => (keeps_read _).bind fun found => ?_
  cases found with
  | none => exact keeps_throw _
  | some a =>
    refine (keeps_throw _).ite ((keeps_pure _).ite (keeps_get.bind fun db => ?_))
    split
    · exact (writeAdmission_statements _ _ rfl).bind fun _ => keeps_pure _
    · exact (writeAdmission_statements _ _ rfl).map _

/-- A subscription takes its new method if it still has the one that was replaced. -/
theorem applyReplacement_statements (r : SubscriptionPaymentMethodReplacement) (a : PaymentAttempt)
    (evidence : ProcessorEvidence) (chargeId : Id) (baselineMatches : Bool) (methodId : Id)
    (tx : String) :
    Keeps (Statements W now)
      (applyReplacement now r a evidence chargeId baselineMatches methodId tx) := by
  refine Keeps.bind (Keeps.ite (updateOneSubscription_statements _ _ ?_) (keeps_pure ())) fun _ =>
    (persist_statements _ _ rfl).bind fun _ => (disablePaymentMethod_statements _).bind fun _ =>
      (moveCharge_statements _ _ _).bind fun _ =>
        (requireAttempt_statements _ _ _).bind fun approved =>
        keeps_get.bind fun _ => (keeps_throw _).ite
          ((appendEvents_statements _).bind fun _ => keeps_pure approved)
  exact fun s => ⟨rfl, rfl⟩

/-- An approval of an open replacement is observed, and then parked or applied. -/
theorem applyOpenReplacement_passes (ids : NewIds) (r : SubscriptionPaymentMethodReplacement)
    (a : PaymentAttempt) (evidence : ProcessorEvidence) :
    PassesObservation W now a evidence (applyOpenReplacementApproval now ids r a evidence) := by
  refine (observe_passes _ _ _ _).bind fun o => ?_
  cases o with
  | ownedByOtherAttempt => exact parkLockedAttempt_statements _ _ _ _
  | owned charge =>
    have hpark {code code' message} : Keeps (Statements W now) _ :=
      (moveCharge_statements charge.id .reconciliationRequired code).bind fun _ =>
        parkLockedAttempt_statements a evidence code' message
    refine hpark.ite ?_
    split
    · exact keeps_throw _
    · refine (upsertPaymentMethod_statements _ _ _).bind fun methodId => keeps_get.bind fun db => ?_
      split
      · exact hpark
      · exact hpark.ite (hpark.ite (applyReplacement_statements _ _ _ _ _ _ _))

/-- The application of a replacement to the locked attempt records it. -/
theorem applyLockedReplacement_recordsFor (ids : NewIds) (liveRecipient : Bool)
    (r : SubscriptionPaymentMethodReplacement) (a : PaymentAttempt) (evidence : ProcessorEvidence) :
    RecordsFor W now a evidence
      (applyLockedReplacementApproved now ids liveRecipient r a evidence) := by
  have hobserve {requested} : PassesObservation W now a evidence _ :=
    (observe_passes ids.charge a evidence requested).bind fun _ => keeps_pure a
  refine stopConflicting_recordsFor keeps_pure (Passes.ite ?_ ?_)
  · exact keeps_get.bind_passes fun _ => (passes_throw _).ite hobserve
  · exact (passes_throw _).ite (hobserve.ite (applyOpenReplacement_passes _ _ _ _))

/-- The compensation of a replacement observes its evidence first. -/
theorem parkLockedReplacement_passes (newId : Id) (a : PaymentAttempt)
    (evidence : ProcessorEvidence) (message : String) :
    PassesObservation W now a evidence
      (parkLockedReplacementApproved now newId a evidence message) := by
  have hobserve {requested} : PassesObservation W now a evidence _ :=
    (observe_passes newId a evidence requested).bind fun _ => paymentResultForAttempt_statements a
  refine hobserve.ite (hobserve.ite ((observe_passes _ _ _ _).bind fun o => ?_))
  have hpark {message} : Keeps (Statements W now) _ :=
    (parkLockedAttempt_statements a evidence none message).bind paymentResultForAttempt_statements
  cases o with
  | owned charge => exact hpark
  | ownedByOtherAttempt => exact hpark

/-- So does the record of a conflict that a diagnosis has found. -/
theorem recordConflictingReplacement_passes (newId pendingId : Id)
    (r : SubscriptionPaymentMethodReplacement) (a : PaymentAttempt) (evidence : ProcessorEvidence) :
    PassesObservation W now a evidence
      (recordConflictingReplacement now newId pendingId r a evidence) :=
  (observe_passes _ _ _ _).bind fun _ => resolveLockedOutcome_statements _ _ _ _ _

/-- The application of an approved replacement records it. -/
theorem applyReplacementApproved_records (ids : NewIds) (liveRecipient : Bool)
    (r : SubscriptionPaymentMethodReplacement) (evidence : ProcessorEvidence) :
    RecordsApproval W now r.identity.attemptId evidence
      (applyReplacementApproved now ids liveRecipient r evidence) :=
  recordsApproval_locked (r := .replacement r) fun _ => applyLockedReplacement_recordsFor _ _ _ _ _

/-- So does its compensation. -/
theorem tryParkReplacement_records (newId : Id) (r : SubscriptionPaymentMethodReplacement)
    (evidence : ProcessorEvidence) (message : String) :
    RecordsApproval W now r.identity.attemptId evidence
      (tryParkReplacementApproved now newId r evidence message) :=
  recordsApproval_locked (r := .replacement r) fun _ =>
    (parkLockedReplacement_passes _ _ _ _).recordsFor

/-- A reconciled replacement is recorded, whichever of its three branches is taken. -/
theorem applyReconciledReplacement_records (ids : NewIds) (pendingId : Id)
    (liveRecipient diagnosed : Bool) (r : SubscriptionPaymentMethodReplacement)
    (evidence : ProcessorEvidence) :
    RecordsApproval W now r.identity.attemptId evidence
      (applyReconciledReplacement now ids pendingId liveRecipient diagnosed r evidence) :=
  recordsApproval_locked (r := .replacement r) fun _ =>
    (recordConflictingReplacement_passes _ _ _ _ _).recordsFor.ite
      ((parkLockedReplacement_passes _ _ _ _).recordsFor.ite
        (applyLockedReplacement_recordsFor _ _ _ _ _))

/-- So is its compensation. -/
theorem tryParkReconciledReplacement_records (newId pendingId : Id) (diagnosed : Bool)
    (r : SubscriptionPaymentMethodReplacement) (evidence : ProcessorEvidence) (message : String) :
    RecordsApproval W now r.identity.attemptId evidence
      (tryParkReconciledReplacement now newId pendingId diagnosed r evidence message) :=
  recordsApproval_locked (r := .replacement r) fun _ => PassesObservation.recordsFor <|
    (recordConflictingReplacement_passes _ _ _ _ _).ite
      ((parkLockedReplacement_passes _ _ _ _).ite (parkLockedReplacement_passes _ _ _ _))

end CommonWriters

/-! ## Reconciliation and review -/

/-- A pending charge is classified against its attempt. -/
theorem classifyPending_statements (chargeId : Id) :
    Keeps (Statements W now) (classifyPendingProcessorCharge now chargeId) := by
  refine keeps_get.bind fun db => ?_
  split
  · exact keeps_pure ()
  · refine (requireAttempt_statements _ _ _).bind fun a db =>
      ensures_onLedger.mpr fun ledger _ h => ?_
    obtain ⟨rows, hclassified, hpair⟩ := map_eq_ok.mp h
    obtain ⟨rfl, -⟩ := Prod.mk.inj hpair
    exact (Statement.classify hclassified).one

/-- The last-resort write inserts its row, or leaves the charges. -/
theorem persistApproved_statements (newId billingScopeId attemptId : Id)
    (evidence : ProcessorEvidence) (reverseExpiredPeriod : Bool) :
    Keeps (Statements W now)
      (persistApprovedEvidenceWithoutAttemptLock now newId billingScopeId attemptId
      evidence reverseExpiredPeriod) := by
  refine (requireAttempt_statements _ _ _).bind fun a db =>
    ensures_onCharges.mpr fun charges _ h => ?_
  dsimp only at h
  generalize lockFreeCharge now newId a evidence reverseExpiredPeriod
    (if db.ledger.charges.any (·.attemptId = a.id) then .additional else .primary) = row at h
  split_ifs at h with hchecks hindexes
  · obtain ⟨rfl, -⟩ := Prod.mk.inj (Except.ok.inj h)
    exact (Statement.insertCharge (by simpa using hchecks) hindexes).one
  · obtain ⟨rfl, -⟩ := Prod.mk.inj (Except.ok.inj h)
    exact .refl
  · obtain ⟨rfl, -⟩ := Prod.mk.inj (Except.ok.inj h)
    exact .refl

/-- The code of a charge is recorded where it has none. -/
theorem recordInitialStateCode_statements (chargeId : Id) (evidence : ProcessorEvidence) :
    Keeps (Statements W now) (recordInitialStateCode now chargeId evidence) :=
  transition_statements fun charges charges' h => by
    split at h
    · cases h
    · dsimp only at h
      split_ifs at h
      · obtain ⟨rfl, -⟩ := Prod.mk.inj (Except.ok.inj h)
        exact .inl rfl
      · obtain ⟨_, hmoved, hpair⟩ := map_eq_ok.mp h
        obtain ⟨rfl, -⟩ := Prod.mk.inj hpair
        exact .inr ⟨_, _, _, _, hmoved⟩

/-- An observation within a transaction, with its code. -/
theorem observeInTransaction_statements (newId billingScopeId attemptId : Id)
    (gatewayOrderId : String) (evidence : ProcessorEvidence)
    (requested : ProcessorChargeProgression) :
    Keeps (Statements W now) (observeProcessorChargeInTransaction now newId billingScopeId attemptId
      gatewayOrderId evidence requested) := by
  refine (requireAttempt_statements _ _ _).bind fun a => (keeps_throw _).ite ?_
  refine (observe_statements _ _ _ _).bind fun o => ?_
  cases o with
  | ownedByOtherAttempt => exact keeps_pure ()
  | owned charge => exact (keeps_pure ()).ite (recordInitialStateCode_statements _ _)

/-- A renewal that is failed by hand takes a step of the dunning engine. -/
theorem applyManualRenewalFailure_statements (mode : ManualFailureMode) (failed : PaymentAttempt) :
    Keeps (Statements W now) (applyManualRenewalFailure now mode failed) := by
  refine Keeps.ite ?_ (keeps_pure ())
  refine (applyRenewalFailure_statements _).bind fun application =>
    Keeps.bind ?_ fun events => appendEvents_statements events
  unfold manualFailureEvents
  split
  · refine Keeps.ite (Keeps.bind (updateOneSubscription_statements _ _ ?_) fun _ => keeps_read _)
      (keeps_pure _)
    exact fun s => ⟨rfl, rfl⟩
  · exact keeps_pure _
  · exact keeps_pure _

/-- What the host is told writes the host's tables only. -/
theorem markPaymentFailed_statements (mode : ManualFailureMode) (a : PaymentAttempt) :
    Keeps (Statements W now) (markPaymentFailed mode a) := by
  unfold markPaymentFailed
  split
  · exact keeps_pure ()
  · exact keeps_read _

section CommonWriters

variable [CommonWriters W]

/-- The answer to an exact query is written on its attempt. -/
theorem applyExactQuery_statements (billingScopeId attemptId : Id)
    (observation : ExactQueryObservation) :
    Keeps (Statements W now) (applyExactQuery now billingScopeId attemptId observation) :=
  (requireAttempt_statements _ _ _).bind fun _ => writeAttempt_statements _ _ _ rfl

/-- An attempt is failed by hand. -/
theorem failManually_statements (sanitize : String → String) (mode : ManualFailureMode)
    (a : PaymentAttempt) : Keeps (Statements W now) (failManually now sanitize mode a) :=
  (writeAttempt_statements _ _ _ rfl).bind fun _ => (markPaymentFailed_statements _ _).bind fun _ =>
    (requireAttempt_statements _ _ _).bind fun failed =>
      (applyManualRenewalFailure_statements _ _).bind fun _ => keeps_pure failed

/-- A manual failure judges the preloaded attempt and then the locked one. -/
theorem failReviewRequired_statements (sanitize : String → String) (mode : ManualFailureMode)
    (preloaded : Option PaymentAttempt) :
    Keeps (Statements W now) (failReviewRequired now sanitize mode preloaded) := by
  cases preloaded with
  | none => exact keeps_pure _
  | some preloaded =>
    refine (keeps_pure _).ite (Keeps.bind ?_ fun _ => (keeps_read _).bind fun found => ?_)
    -- The host locks its target before the attempt is locked and judged once more.
    · unfold lockPaymentFailureTarget
      split
      · exact keeps_pure ()
      · exact keeps_read _
    · cases found with
      | none => exact keeps_pure _
      | some current =>
        refine keeps_get.bind fun db =>
          (keeps_throw _).ite ((keeps_pure _).ite ((keeps_pure _).ite ?_))
        exact (failManually_statements _ _ _).map _

/-- A reversal is attested, and the attempt it is of is closed. -/
theorem attestReversal_statements (rules : TextRules) (t : ReversalAttestation) :
    Keeps (Statements W now) (attestReversal rules now t) := by
  refine keeps_get.bind fun db => ?_
  split
  · exact keeps_pure _
  · refine (keeps_read _).bind fun found => ?_
    cases found with
    | none => exact keeps_pure _
    | some a =>
      refine Keeps.bind (fun db => ensures_onLedger.mpr fun ledger _ h => (Statement.attest h).one)
        fun outcome => ?_
      exact ((writeAttempt_statements _ _ _ rfl).bind fun _ => keeps_pure _).ite (keeps_pure _)

end CommonWriters

/-! ## The plan of a subscriber -/

/-- The grant that is inserted is a new one, of the store that was read. -/
theorem createGrant_statements (creation : SubscriptionGrantCreation) :
    Keeps (Statements W now) (createSubscriptionGrant now creation) := by
  intro db
  rw [createSubscriptionGrant, ensures_bind, ensures_get]
  refine ensures_ite.mpr ⟨fun _ => ensures_pure.mpr .refl, fun _ => ?_⟩
  refine ensures_ite.mpr ⟨fun _ => ensures_pure.mpr .refl, fun _ => ?_⟩
  refine ensures_ite.mpr ⟨fun _ => ensures_pure.mpr .refl, fun _ => ?_⟩
  refine ensures_ite.mpr ⟨fun _ => ensures_pure.mpr .refl, fun _ => ?_⟩
  refine ensures_ite.mpr ⟨fun _ => ensures_pure.mpr .refl, fun _ => ?_⟩
  refine ensures_ite.mpr ⟨fun _ => ensures_throw, fun hnew => ?_⟩
  rw [ensures_bind, ensures_modify, ensures_pure]
  refine (Statement.insertGrant fun g hg hid => hnew ?_).one
  exact List.any_eq_true.mpr ⟨g, hg, decide_eq_true hid⟩

/-- The grant that is revoked is not revoked, in the store that was read. -/
theorem revokeGrant_statements (revocation : SubscriptionGrantRevocation) :
    Keeps (Statements W now) (revokeSubscriptionGrant now revocation) := by
  intro db
  rw [revokeSubscriptionGrant, ensures_bind, ensures_get]
  split
  · exact ensures_pure.mpr .refl
  · rename_i g hfind
    have hp : g.id = revocation.id ∧ g.owner = revocation.owner := by
      simpa using List.find?_some hfind
    refine ensures_ite.mpr ⟨fun _ => ensures_pure.mpr .refl, fun hopen => ?_⟩
    refine ensures_ite.mpr ⟨fun _ => ensures_pure.mpr .refl, fun _ => ?_⟩
    rw [ensures_bind, ensures_modify, ensures_pure]
    exact (Statement.revokeGrant revocation (List.mem_of_find?_eq_some hfind) hp.1
      (not_not.mp hopen)).one

/-- The access while past due is a column of a subscription. -/
theorem changePastDueAccess_statements (owner : PlanOwner) (subscriptionId : Id)
    (access : PastDueAccessPolicy) :
    Keeps (Statements W now) (changeSubscriptionPastDueAccess now owner subscriptionId access) := by
  refine keeps_get.bind fun db => ?_
  split
  · exact keeps_pure ()
  · refine (keeps_pure ()).ite (updateOneSubscription_statements _ _ ?_)
    exact fun s => ⟨rfl, rfl⟩

section CommonWriters

variable [CommonWriters W]

/-- A cancellation expires stale charges, and then stale method updates, before it cancels. -/
theorem cancelSubscription_statements (owner : PlanOwner) :
    Keeps (Statements W now) (cancelSubscription now owner) := by
  have hcancel (s : Subscription) : Keeps (Statements W now) (cancelCurrentSubscription now s) := by
    refine (keeps_read _).bind fun accessEndsAt =>
      Keeps.bind (updateOneSubscription_statements _ _ ?_) fun _ =>
        (appendEvents_statements _).bind fun _ => keeps_pure _
    exact fun s => ⟨rfl, rfl⟩
  refine keeps_get.bind fun db => ?_
  split
  · exact keeps_pure _
  · split
    · exact keeps_pure _
    · exact keeps_pure _
    all_goals
      refine (writeAttempts_statements _ _ rfl).bind fun _ => keeps_get.bind fun _ =>
        (keeps_pure _).ite ?_
      exact (writeAttempts_statements _ _ rfl).bind fun _ => keeps_get.bind fun _ =>
        (keeps_pure _).ite (hcancel _)

/-- A retirement expires stale charges, and closes what it cut off before it was submitted. -/
theorem retireExpired_statements (command : RetireExpiredSubscriptionPeriod) :
    Keeps (Statements W now) (retireExpiredSubscriptionPeriod now command) := by
  have hretire (s : Subscription) (period : BillingPeriod) :
      Keeps (Statements W now) (retireSubscription now s period) := by
    refine (keeps_read _).bind fun accessEndsAt => (writeAttempts_statements _ _ rfl).bind fun _ =>
      Keeps.bind (updateOneSubscription_statements _ _ ?_) fun _ =>
        (appendEvents_statements _).bind fun _ => keeps_pure _
    exact fun s => ⟨rfl, rfl⟩
  have hbilled (s : Subscription) :
      Keeps (Statements W now) (retireBilledSubscription now command s) := by
    refine (keeps_pure _).ite ?_
    split
    · exact keeps_throw _
    · exact (keeps_pure _).ite
        ((writeAttempts_statements _ _ rfl).bind fun _ => keeps_get.bind fun _ =>
        (keeps_pure _).ite (hretire _ _))
  refine keeps_get.bind fun db => ?_
  split
  · exact keeps_pure _
  · split
    · exact keeps_pure _
    · exact keeps_pure _
    · exact hbilled _
    · exact hbilled _

end CommonWriters

/-! ## Operations -/

/-- The writer of an operation that need not be a common one. -/
def Op.rareWriter : Op → Option AttemptWriter
  | .writeOther _ w => some w
  | .restore _ => some .restore
  | _ => none

section CommonWriters

variable [CommonWriters W]

/-- An outcome other than an approval, of any reservation. -/
theorem resolveOutcome_statements (newId : Id) (r : OutcomeReservation)
    (observed : ProcessorEvidence) (outcome : NonApproval) :
    Keeps (Statements W now) (resolveOutcome now newId r observed outcome) := by
  cases r with
  | initial r => exact resolvePoolOutcome_statements _ _ _ _
  | replacement r => exact resolvePoolOutcome_statements _ _ _ _
  | charge c => exact (resolveRenewal_statements _ _ _).ite (resolvePoolOutcome_statements _ _ _ _)

/-- A write of an attempt that has to be an enrollment. -/
theorem writeEnrollment_statements (billingScopeId attemptId : Id) (w : AttemptWriter)
    (hw : w.isCommon = true) :
    Keeps (Statements W now) (writeEnrollment now billingScopeId attemptId w) :=
  (requireAttempt_statements _ _ _).bind fun _ =>
    (writeAttempt_statements _ _ _ hw).ite (keeps_throw _)

/-- The application of an approval records it. -/
theorem applyApproved_records (ids : NewIds) (liveRecipient : Bool)
    (policy : SubscriptionPeriodExpiryPolicy) (r : OutcomeReservation)
    (evidence : ProcessorEvidence) :
    RecordsApproval W now r.identity.attemptId evidence
      (applyApproved now ids liveRecipient policy r evidence) := by
  cases r with
  | initial r => exact applyEnrollmentApproved_records _ _ _ _ _
  | charge r => exact applyChargeApproved_records _ _ _ _ _
  | replacement r => exact applyReplacementApproved_records _ _ _ _

/-- The compensation of an approval records it. -/
theorem parkApproved_records (newId : Id) (policy : SubscriptionPeriodExpiryPolicy)
    (r : OutcomeReservation) (evidence : ProcessorEvidence) (message : String) :
    RecordsApproval W now r.identity.attemptId evidence
      (parkApproved now newId policy r evidence message) := by
  cases r with
  | initial r => exact tryParkEnrollment_records _ _ _ _ _
  | charge r => exact tryParkCharge_records _ _ _ _ _
  | replacement r => exact tryParkReplacement_records _ _ _ _

/-- The evidence of an approval records it. -/
theorem observeApproved_records (newId : Id) (policy : SubscriptionPeriodExpiryPolicy)
    (r : OutcomeReservation) (evidence : ProcessorEvidence) :
    RecordsApproval W now r.identity.attemptId evidence
      (observeApproved now newId policy r evidence) := by
  cases r with
  | initial r => exact observeEnrollment_records _ _ _ _
  | charge r => exact observeCharge_records _ _ _ _
  | replacement r => exact observeReplacement_records _ _ _

/-- Every operation of the engine is a sequence of statements. -/
theorem Op.statements (op : Op) (hrare : ∀ w, op.rareWriter = some w → W w) :
    Keeps (Statements W now) (op.transaction now) := by
  cases op with
  | configure accounts limits methods claims =>
    exact others_statements fun db => ⟨_, _, _, _, _, rfl⟩
  | reserveOther n =>
    exact ((insertOrIgnore_statements _).bind fun _ => keeps_pure ()).ite (keeps_throw _)
  | writeOther attemptId w =>
    exact keeps_get.bind fun _ => (keeps_throw _).ite (writeAllowed_statements _ _ (hrare w rfl))
  | reserveReplacement mode gateway command => exact (reserveReplacement_statements _ _ _).discard
  | admitReplacement r => exact (admitReplacement_statements r).discard
  | reconcileReplacement ids pendingId live diagnosed r evidence =>
    exact (applyReconciledReplacement_records _ _ _ _ _ _).statements.discard
  | parkReconciledReplacement newId pendingId diagnosed r evidence message =>
    exact (tryParkReconciledReplacement_records _ _ _ _ _ _).statements.discard
  | admitEnrollment billingScopeId attemptId => exact writeEnrollment_statements _ _ _ rfl
  | rejectEnrollment billingScopeId attemptId message => exact writeEnrollment_statements _ _ _ rfl
  | reserveRenewal policy mode gateway attemptId command =>
    exact (reserveRenewal_statements _ _ _ _ _).discard
  | reserveRecovery mode gateway command => exact (reserveRecovery_statements _ _ _).discard
  | admitPrepared policy r => exact (admitSubmission_statements _ _).discard
  | restore r => exact (restore_statements (hrare _ rfl) r).discard
  | resolve newId r observed outcome => exact (resolveOutcome_statements _ _ _ _).discard
  | applyApproved ids live policy r evidence =>
    exact (applyApproved_records _ _ _ _ _).statements.discard
  | parkApproved newId policy r evidence message =>
    exact (parkApproved_records _ _ _ _ _).statements.discard
  | observeApproved newId policy r evidence => exact (observeApproved_records _ _ _ _).statements
  | persistEvidence newId billingScopeId attemptId evidence reverseExpiredPeriod =>
    exact persistApproved_statements _ _ _ _ _
  | observeCharge newId billingScopeId attemptId gatewayOrderId evidence requested =>
    exact observeInTransaction_statements _ _ _ _ _ _
  | expireCharges attemptIds => exact writeAttempts_statements _ _ rfl
  | expireMethodUpdates attemptIds => exact writeAttempts_statements _ _ rfl
  | expireEnrollments attemptIds => exact writeAttempts_statements _ _ rfl
  | expireHostCharges attemptIds => exact writeAttempts_statements _ _ rfl
  | claimExact attemptIds => exact writeAttempts_statements _ _ rfl
  | exactQuery billingScopeId attemptId observation => exact applyExactQuery_statements _ _ _
  | classifyPending chargeId => exact classifyPending_statements chargeId
  | manualFailure sanitize mode preloaded => exact (failReviewRequired_statements _ _ _).discard
  | attestReversal rules attestation => exact (attestReversal_statements rules attestation).discard
  | createGrant creation => exact (createGrant_statements creation).discard
  | revokeGrant revocation => exact (revokeGrant_statements revocation).discard
  | cancel owner => exact (cancelSubscription_statements owner).discard
  | retire command => exact (retireExpired_statements command).discard
  | changePastDueAccess owner subscriptionId access => exact changePastDueAccess_statements _ _ _

end CommonWriters

end Programs

end SyrupRail
