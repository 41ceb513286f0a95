import SyrupRail.Discount.Enrollment
import SyrupRail.Store.HostStatements

/-!
# Reserving and admitting an enrollment

An enrollment is asked for with the terms that the customer has accepted. Its reservation and its
admission each lock the host's current offer and the saved discount, and go on only when these still
are the accepted terms; the row that a reservation inserts has the accepted terms, and the admission
compares it with them once more.

The rows of this model have neither the billing contact nor the text of a discount code, and its
discount claims no snapshot. `EnrollmentSources` has what the programs read of them, beside the
host's offers.
-/

namespace SyrupRail

open Transactions Tx

/-! ## Sources -/

/-- `SubscriptionEnrollmentOfferStage`. -/
inductive SubscriptionEnrollmentOfferStage
  | reservation | submissionAdmission
  deriving DecidableEq, Repr

/-- `SubscriptionEnrollmentOfferContext`. -/
structure SubscriptionEnrollmentOfferContext where
  billingScopeId : Id
  subscriberId : Id
  planKey : String
  attemptId : Id
  idempotencyKey : String
  stage : SubscriptionEnrollmentOfferStage
  deriving DecidableEq, Repr

/-- What an enrollment reads beside the tables of the engine, in a deployment whose host has the
tables `η` and whose contacts are `κ`. -/
structure EnrollmentSources (η κ : Type) where
  /-- `SubscriptionOfferStore::lock_enrollment_offer`, which fails or answers. -/
  lockEnrollmentOffer : SubscriptionEnrollmentOfferContext → Db → η →
    Option (η × Option CheckedOffer)
  /-- The latest saved claim of a subscriber for a plan. -/
  savedClaim : PlanOwner → Db → η → Option SubscriptionEnrollmentDiscountSnapshot
  /-- Whether an attempt was reserved with the contact and the discount code of the reservation. -/
  sameTexts : Enrollment.SubscriptionEnrollmentReservation κ → PaymentAttempt → Bool

/-- `SubscriptionEnrollmentReservationRejection`. -/
inductive SubscriptionEnrollmentReservationRejection
  | currentSubscription | activeGrant | unresolvedProcessorCharge | enrollmentTermsChanged
  | gatewayConfigurationChanged | gatewayAccountModeChanged | attemptInProgress
  deriving DecidableEq, Repr

/-- `SubscriptionEnrollmentReservationOutcome`. -/
inductive SubscriptionEnrollmentReservationOutcome
  | reserved (a : PaymentAttempt)
  | replay (a : PaymentAttempt)
  | idempotencyConflict
  | rejected (reason : SubscriptionEnrollmentReservationRejection)
  deriving DecidableEq, Repr

/-- `SubscriptionEnrollmentSubmissionRejection`. -/
inductive SubscriptionEnrollmentSubmissionRejection
  | billingStateChanged | enrollmentTermsChanged | gatewayConfigurationChanged
  | gatewayAccountModeChanged
  deriving DecidableEq, Repr

/-- `SubscriptionEnrollmentSubmissionOutcome`. -/
inductive SubscriptionEnrollmentSubmissionOutcome
  | admitted (a : PaymentAttempt)
  | alreadyAdmitted (a : PaymentAttempt)
  | rejected (a : PaymentAttempt) (reason : SubscriptionEnrollmentSubmissionRejection)
  deriving DecidableEq, Repr

namespace Enrollment

/-- The accepted charge is one that can be made. -/
theorem initialCharge_isChargeAmount (terms : SubscriptionEnrollmentExpectedTerms) :
    terms.initialCharge.isChargeAmount = true := by
  show (fromExpectedTerms terms.offer.val terms.discountSnapshot).initialCharge.isChargeAmount =
    true
  unfold fromExpectedTerms
  cases hstart : terms.offer.val.start with
  | recurringImmediately =>
    cases terms.discountSnapshot with
    | none => exact (CheckedOffer.recurringCharge terms.offer).property
    | some snapshot => exact snapshot.discounted_valid
  | paidTrial charge period => exact (trial_currency hstart).1

namespace SubscriptionEnrollmentReservation

variable {κ : Type} (r : SubscriptionEnrollmentReservation κ)

/-- `plan_key`. -/
def planKey : String := r.expectedTerms.offer.val.planKey

/-- The subscriber's plan. -/
def owner : PlanOwner := ⟨r.identity.billingScopeId, r.identity.subscriberId, r.planKey⟩

/-- `SubscriptionEnrollmentOfferContext::from_reservation`. -/
def offerContext (stage : SubscriptionEnrollmentOfferStage) :
    SubscriptionEnrollmentOfferContext where
  billingScopeId := r.identity.billingScopeId
  subscriberId := r.identity.subscriberId
  planKey := r.planKey
  attemptId := r.identity.attemptId
  idempotencyKey := r.idempotencyKey
  stage := stage

/-- `attempt_identity_matches_requested_gateway_without_required_mode`. -/
def matchesGateway (a : PaymentAttempt) : Bool :=
  a.billingScopeId = r.identity.billingScopeId ∧ a.subscriberId = r.identity.subscriberId ∧
    a.gatewayAccountId = r.identity.gatewayAccountId ∧
    a.gatewayConfigurationId = r.identity.gatewayConfigurationId

/-- Whether the discount of an attempt has the charge terms of an accepted one. -/
def sameDiscount : Option SubscriptionEnrollmentDiscountSnapshot →
    Option SubscriptionDiscountSnapshot → Bool
  | none, none => true
  | some durable, some expected => hasSameChargeTerms durable.snapshot expected
  | _, _ => false

/-- `initial_attempt_matches_expected`; a stored fingerprint is that of its own target. -/
def initialAttemptMatchesExpected (a : PaymentAttempt) : Bool :=
  match a.target, r.expectedTerms.durableOffer with
  | .subscriptionInitial offer discount, .ok durable =>
    offer = durable ∧ a.amount = r.expectedTerms.initialCharge ∧
      sameDiscount discount r.expectedTerms.discountSnapshot
  | _, _ => false

/-- `enrollment_request_from_locked_terms`: the target of the request. -/
def requestFromLockedTerms (offer : CheckedOffer)
    (savedClaim : Option SubscriptionEnrollmentDiscountSnapshot) : Option PaymentAttemptTarget :=
  if r.expectedTerms.matchesLockedTerms offer.val (savedClaim.map (·.snapshot)) = false then none
  else
    match r.expectedTerms.durableOffer with
    | .ok durable => some (.subscriptionInitial durable savedClaim)
    | .error _ => none

/-- An accepted charge fits an enrollment: both are of an amount above zero. -/
theorem initialCharge_fits (target : PaymentAttemptTarget)
    (initial : target.kind = .subscriptionInitial) :
    target.kind = .subscriptionPaymentMethodUpdate ↔ r.expectedTerms.initialCharge.cents = 0 := by
  have hcharge := initialCharge_isChargeAmount r.expectedTerms
  simp only [Money.isChargeAmount, Bool.and_eq_true, decide_eq_true_eq] at hcharge
  rw [initial]
  constructor
  · intro h
    cases h
  · intro h
    omega

/-- The row of a request, whose amount is the accepted charge. -/
def newAttempt (now : Timestamp) (target : PaymentAttemptTarget)
    (initial : target.kind = .subscriptionInitial) : NewAttempt where
  id := r.identity.attemptId
  billingScopeId := r.identity.billingScopeId
  subscriberId := r.identity.subscriberId
  gatewayAccountId := r.identity.gatewayAccountId
  gatewayConfigurationId := r.identity.gatewayConfigurationId
  requiredGatewayAccountMode := r.identity.requiredGatewayAccountMode
  target := target
  idempotencyKey := r.idempotencyKey
  amount := r.expectedTerms.initialCharge
  gatewayOrderId := r.gatewayOrderId
  paymentMethodId := 0
  createdAt := now
  amount_fits := r.initialCharge_fits target initial

/-- A request is one for an enrollment. -/
theorem requestFromLockedTerms_kind {offer : CheckedOffer}
    {savedClaim : Option SubscriptionEnrollmentDiscountSnapshot} {target : PaymentAttemptTarget}
    (h : r.requestFromLockedTerms offer savedClaim = some target) :
    target.kind = .subscriptionInitial := by
  unfold requestFromLockedTerms at h
  split_ifs at h
  split at h
  · rw [← Option.some.inj h]
    rfl
  · cases h

end SubscriptionEnrollmentReservation

end Enrollment

/-! ## Checks -/

/-- `initial_attempt_is_stale`. -/
def initialAttemptIsStale (now : Timestamp) (a : PaymentAttempt) : Bool :=
  a.kind = .subscriptionInitial && a.isStaleUnsubmitted now

/-- `unresolved_initial_charge_exists`, which is the query of a grant's
`pending_processor_evidence_exists`. -/
def unresolvedInitialChargeExists (owner : PlanOwner) (db : Db) : Bool :=
  pendingProcessorEvidenceExists owner db

/-- `blocking_initial_attempt_exists` of an enrollment, which does not look at later
subscriptions. -/
def blockingEnrollmentExists (owner : PlanOwner) (db : Db) : Bool :=
  db.attempts.any (·.isOpenEnrollment owner)

/-- `gateway_identity_matches_scope`. -/
def gatewayIdentityMatchesScope (expected : ExpectedGatewayIdentity) (db : Db) : Bool :=
  (db.gatewayAccounts.find? fun g => g.billingScopeId = expected.billingScopeId).any fun g =>
    g.id = expected.gatewayAccountId ∧ g.gatewayConfigurationId = expected.gatewayConfigurationId ∧
      g.providerKey = expected.providerKey

/-- `INITIAL_BILLING_STATE_CHANGED_TEXT` and the texts of the other rejections that close an
attempt. -/
def SubscriptionEnrollmentSubmissionRejection.text :
    SubscriptionEnrollmentSubmissionRejection → String
  | .billingStateChanged => "Checkout was canceled before submission because billing state changed."
  | .enrollmentTermsChanged =>
    "Checkout was canceled before submission because enrollment terms changed."
  | .gatewayConfigurationChanged | .gatewayAccountModeChanged =>
    "Checkout was canceled before submission because payment configuration changed."

section Programs

variable {η κ : Type} (sources : EnrollmentSources η κ) (now : Timestamp)
  (r : Enrollment.SubscriptionEnrollmentReservation κ)

/-- The identity of the gateway that a reservation expects. -/
def Enrollment.SubscriptionEnrollmentReservation.expectedGateway : ExpectedGatewayIdentity where
  billingScopeId := r.identity.billingScopeId
  gatewayAccountId := r.identity.gatewayAccountId
  gatewayConfigurationId := r.identity.gatewayConfigurationId
  providerKey := r.providerKey

/-- `expire_stale_initial_attempts`. -/
def expireStaleInitialAttempts (owner : PlanOwner) : Program Unit :=
  onAttempts (writeAttempts now (·.enrolls owner) .expireInitial)

/-- The attempt of the key of a reservation. -/
def findKeyedEnrollment : Program (Option PaymentAttempt) :=
  Tx.read (paymentAttemptByIdempotency r.identity.billingScopeId r.identity.subscriberId
    r.idempotencyKey)

/-- The attempt of the key of a reservation, which must be there. -/
def requireKeyedEnrollment : Program PaymentAttempt := do
  match ← findKeyedEnrollment r with
  | some a => pure a
  | none => throw invalidAttemptState

/-- `replay_matches_reservation_without_required_mode`. -/
def EnrollmentSources.replayMatches (a : PaymentAttempt) : Bool :=
  r.matchesGateway a && a.kind = .subscriptionInitial && sources.sameTexts r a &&
    r.initialAttemptMatchesExpected a

/-- `pending_attempt_matches_request_without_required_mode`. -/
def EnrollmentSources.pendingMatches (target : PaymentAttemptTarget) (a : PaymentAttempt) : Bool :=
  r.matchesGateway a && a.isPrepared && a.target = target &&
    a.amount = r.expectedTerms.initialCharge && sources.sameTexts r a

/-! ## Reservation -/

/-- `pending_attempt_reservation_outcome`. -/
def EnrollmentSources.pendingOutcome (target : PaymentAttemptTarget) (a : PaymentAttempt) :
    SubscriptionEnrollmentReservationOutcome :=
  if sources.pendingMatches r target a = false then .idempotencyConflict
  else if preparedReplayRequiredModeChanged a r.identity.requiredGatewayAccountMode then
    .rejected .gatewayAccountModeChanged
  else .replay a

/-- The insertion of a request that no attempt blocks. -/
def insertEnrollment (target : PaymentAttemptTarget)
    (initial : target.kind = .subscriptionInitial) :
    Program SubscriptionEnrollmentReservationOutcome := do
  let inserted ← insertUnlessKeyed (r.newAttempt now target initial)
  let a ← requireKeyedEnrollment r
  if inserted then pure (.reserved a) else pure (sources.pendingOutcome r target a)

/-- The gates of a request, on the locked tables. -/
def enrollmentGate (db : Db) : Option SubscriptionEnrollmentReservationRejection :=
  if currentSubscriptionExists now r.owner db then some .currentSubscription
  else if activeGrantExists now r.owner db then some .activeGrant
  else if unresolvedInitialChargeExists r.owner db then some .unresolvedProcessorCharge
  else none

/-- The reservation on locked terms. -/
def reserveLockedTerms (offer : CheckedOffer)
    (savedClaim : Option SubscriptionEnrollmentDiscountSnapshot) :
    Program SubscriptionEnrollmentReservationOutcome := do
  match enrollmentGate now r (← get) with
  | some reason => pure (.rejected reason)
  | none =>
    match h : r.requestFromLockedTerms offer savedClaim with
    | none => pure (.rejected .enrollmentTermsChanged)
    | some target =>
      if gatewayIdentityMatchesScope r.expectedGateway (← get) = false then
        pure (.rejected .gatewayConfigurationChanged)
      else
        match ← findKeyedEnrollment r with
        | some a => pure (sources.pendingOutcome r target a)
        | none =>
          if blockingEnrollmentExists r.owner (← get) then pure (.rejected .attemptInProgress)
          else insertEnrollment sources now r target (r.requestFromLockedTerms_kind h)

/-- The reservation after the expiry of what was abandoned. -/
def reserveOffered (offer : CheckedOffer)
    (savedClaim : Option SubscriptionEnrollmentDiscountSnapshot) :
    Program SubscriptionEnrollmentReservationOutcome := do
  expireStaleInitialAttempts now r.owner
  match ← findKeyedEnrollment r with
  | some a =>
    if a.isPrepared then reserveLockedTerms sources now r offer savedClaim
    else if sources.replayMatches r a then pure (.replay a)
    else pure .idempotencyConflict
  | none => reserveLockedTerms sources now r offer savedClaim

/-- The reservation with the offer that the host has now. -/
def reserveWithOffer : HostProgram η SubscriptionEnrollmentReservationOutcome := do
  match ← askHost (sources.lockEnrollmentOffer (r.offerContext .reservation)) with
  | none => pure (.rejected .enrollmentTermsChanged)
  | some offer =>
    if offer.val.planKey ≠ r.planKey then pure (.rejected .enrollmentTermsChanged)
    else
      let s ← get
      onEngine (reserveOffered sources now r offer (sources.savedClaim r.owner s.db s.host))

/-- The replay of an abandoned attempt, which is closed first. -/
def replayStaleEnrollment : Program SubscriptionEnrollmentReservationOutcome := do
  expireStaleInitialAttempts now r.owner
  let a ← requireKeyedEnrollment r
  pure (.replay a)

/-- `reserve_subscription_enrollment_in_transaction`. -/
def reserveSubscriptionEnrollment : HostProgram η SubscriptionEnrollmentReservationOutcome := do
  match ← onEngine (findKeyedEnrollment r) with
  | some a =>
    if sources.replayMatches r a = false then pure .idempotencyConflict
    else if initialAttemptIsStale now a then onEngine (replayStaleEnrollment now r)
    else if preparedReplayRequiredModeChanged a r.identity.requiredGatewayAccountMode then
      pure (.rejected .gatewayAccountModeChanged)
    else if a.isPrepared then reserveWithOffer sources now r
    else pure (.replay a)
  | none => reserveWithOffer sources now r

/-! ## Admission -/

/-- Why a prepared enrollment is closed instead of being admitted. -/
def EnrollmentSources.submissionRejection (a : PaymentAttempt) (offer : Option CheckedOffer)
    (savedClaim : Option SubscriptionEnrollmentDiscountSnapshot) (db : Db) :
    Option SubscriptionEnrollmentSubmissionRejection :=
  match offer with
  | none => some .enrollmentTermsChanged
  | some offer =>
    if (enrollmentGate now r db).isSome then some .billingStateChanged
    else
      match r.requestFromLockedTerms offer savedClaim with
      | none => some .enrollmentTermsChanged
      | some target =>
        if sources.pendingMatches r target a = false then some .enrollmentTermsChanged
        else if gatewayIdentityMatchesScope r.expectedGateway db = false then
          some .gatewayConfigurationChanged
        else none

/-- The admission of a locked attempt. -/
def admitLockedEnrollment (a : PaymentAttempt) (offer : Option CheckedOffer)
    (savedClaim : Option SubscriptionEnrollmentDiscountSnapshot) :
    Program SubscriptionEnrollmentSubmissionOutcome := do
  match sources.submissionRejection now r a offer savedClaim (← get) with
  | some reason =>
    let a ← writeAdmission now a (.rejectInitial reason.text)
    pure (.rejected a reason)
  | none => .admitted <$> writeAdmission now a .admitPrepared

/-- `admit_subscription_enrollment_submission_in_transaction`. -/
def admitSubscriptionEnrollment : HostProgram η SubscriptionEnrollmentSubmissionOutcome := do
  let a ← onEngine (requireKeyedEnrollment r)
  if ¬ (r.matchesGateway a ∧ a.kind = .subscriptionInitial ∧ a.target.planKey = some r.planKey) then
    throw (.store invalidAttemptState)
  else if a.isPrepared = false then pure (.alreadyAdmitted a)
  else if a.requiredGatewayAccountMode ≠ r.identity.requiredGatewayAccountMode then
    pure (.rejected a .gatewayAccountModeChanged)
  else
    let offer ← askHost (sources.lockEnrollmentOffer (r.offerContext .submissionAdmission))
    let s ← get
    onEngine (admitLockedEnrollment sources now r a offer (sources.savedClaim r.owner s.db s.host))

end Programs

/-! ## Statements -/

section Statements

variable {η κ : Type} {W : AttemptWriter → Prop} {now : Timestamp}
  {sources : EnrollmentSources η κ} {r : Enrollment.SubscriptionEnrollmentReservation κ}

/-- The attempt of an enrollment is read by its key. -/
theorem requireKeyedEnrollment_statements :
    Keeps (Statements W now) (requireKeyedEnrollment r) := by
  refine (keeps_read _).bind fun found => ?_
  cases found with
  | none => exact keeps_throw _
  | some a => exact keeps_pure a

/-- The attempt of an enrollment is inserted, or found by its key. -/
theorem insertEnrollment_statements (target : PaymentAttemptTarget)
    (initial : target.kind = .subscriptionInitial) :
    Keeps (Statements W now) (insertEnrollment sources now r target initial) := by
  refine (insertUnlessKeyed_statements _).bind fun inserted => ?_
  exact requireKeyedEnrollment_statements.bind fun a => (keeps_pure _).ite (keeps_pure _)

/-- A reservation under the locked terms. -/
theorem reserveLockedTerms_statements (offer : CheckedOffer)
    (savedClaim : Option SubscriptionEnrollmentDiscountSnapshot) :
    Keeps (Statements W now) (reserveLockedTerms sources now r offer savedClaim) := by
  refine keeps_get.bind fun db => ?_
  split
  · exact keeps_pure _
  · split
    · exact keeps_pure _
    · refine keeps_get.bind fun db => (keeps_pure _).ite ((keeps_read _).bind fun found => ?_)
      cases found with
      | some a => exact keeps_pure _
      | none => exact keeps_get.bind fun db => (keeps_pure _).ite (insertEnrollment_statements _ _)

variable [CommonWriters W]

/-- Stale enrollments of an owner expire. -/
theorem expireStaleInitialAttempts_statements (owner : PlanOwner) :
    Keeps (Statements W now) (expireStaleInitialAttempts now owner) :=
  writeAttempts_statements _ _ rfl

/-- A reservation under an offer of the host, after the stale enrollments have expired. -/
theorem reserveOffered_statements (offer : CheckedOffer)
    (savedClaim : Option SubscriptionEnrollmentDiscountSnapshot) :
    Keeps (Statements W now) (reserveOffered sources now r offer savedClaim) := by
  refine (expireStaleInitialAttempts_statements _).bind fun _ => (keeps_read _).bind fun found => ?_
  cases found with
  | some a => exact (reserveLockedTerms_statements _ _).ite ((keeps_pure _).ite (keeps_pure _))
  | none => exact reserveLockedTerms_statements _ _

/-- A reservation that asks the host for its offer. -/
theorem reserveWithOffer_quiet : Keeps (HostQuiet W now) (reserveWithOffer sources now r) := by
  refine (askHost_quiet _).bind fun answer => ?_
  cases answer with
  | none => exact keeps_pure _
  | some offer =>
    exact (keeps_pure _).ite
      (keeps_get.bind fun s => onEngine_quiet (reserveOffered_statements _ _))

/-- A reservation is a sequence of statements, whatever the host offers. -/
theorem reserveSubscriptionEnrollment_quiet :
    Keeps (HostQuiet W now) (reserveSubscriptionEnrollment sources now r) := by
  refine (onEngine_quiet (keeps_read _)).bind fun found => ?_
  cases found with
  | some a =>
    have hreplay : Keeps (Statements W now) (replayStaleEnrollment now r) :=
      (expireStaleInitialAttempts_statements _).bind fun _ =>
        requireKeyedEnrollment_statements.bind fun _ => keeps_pure _
    refine (keeps_pure _).ite ((onEngine_quiet hreplay).ite ((keeps_pure _).ite ?_))
    exact reserveWithOffer_quiet.ite (keeps_pure _)
  | none => exact reserveWithOffer_quiet

/-- The admission of a locked enrollment. -/
theorem admitLockedEnrollment_statements (a : PaymentAttempt) (offer : Option CheckedOffer)
    (savedClaim : Option SubscriptionEnrollmentDiscountSnapshot) :
    Keeps (Statements W now) (admitLockedEnrollment sources now r a offer savedClaim) := by
  refine keeps_get.bind fun db => ?_
  split
  · exact (writeAdmission_statements _ _ rfl).bind fun _ => keeps_pure _
  · exact (writeAdmission_statements _ _ rfl).map _

/-- So is an admission. -/
theorem admitSubscriptionEnrollment_quiet :
    Keeps (HostQuiet W now) (admitSubscriptionEnrollment sources now r) := by
  refine (onEngine_quiet requireKeyedEnrollment_statements).bind fun a => ?_
  refine (keeps_throw _).ite
    ((keeps_pure _).ite ((keeps_pure _).ite ((askHost_quiet _).bind fun offer => ?_)))
  exact keeps_get.bind fun s => onEngine_quiet (admitLockedEnrollment_statements a offer _)

end Statements

end SyrupRail
