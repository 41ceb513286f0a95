import SyrupRail.Gateway.Load
import SyrupRail.Terms

/-!
# Payment attempts

The row of `billing_payment_attempts`: the immutable identity and request of an attempt, and the
state that its writers change. `PaymentAttempt.check` is the validation of `PaymentAttempt::new`,
through which every load of a row passes. A load also sanitizes the processor's texts again
(`PaymentAttempt.fromRow`), and need not give back the ones that were stored. Attestations and
parkings, whose answers depend on it, read the loaded texts; the other operations of the store are
modelled with the texts as they are stored (`storedAttempt`).
-/

namespace SyrupRail

/-- The subscription that a renewal or recovery was reserved against. -/
structure SubscriptionPaymentStateSnapshot where
  subscriptionId : Id
  paymentMethodId : Id
  initialTransactionId : String
  status : SubscriptionStatus
  deriving DecidableEq, Repr

/-- The subscription that a payment-method update was reserved against. -/
structure PaymentMethodUpdateSnapshot where
  subscriptionId : Id
  paymentMethodId : Id
  initialTransactionId : String
  deriving DecidableEq, Repr

/-- The business target of an attempt, with its optimistic snapshot. -/
inductive PaymentAttemptTarget
  | hostCharge (targetId : Id)
  | subscriptionInitial (offer : SubscriptionOffer)
      (discount : Option SubscriptionEnrollmentDiscountSnapshot)
  | subscriptionRenewal (planKey : String) (period : BillingPeriod)
      (expected : SubscriptionPaymentStateSnapshot)
  | subscriptionRecovery (planKey : String) (period : BillingPeriod)
      (expected : SubscriptionPaymentStateSnapshot)
  | subscriptionPaymentMethodUpdate (planKey : String) (expected : PaymentMethodUpdateSnapshot)
  deriving DecidableEq, Repr

/-- The kind of a target. -/
def PaymentAttemptTarget.kind : PaymentAttemptTarget → PaymentAttemptKind
  | .hostCharge _ => .hostCharge
  | .subscriptionInitial .. => .subscriptionInitial
  | .subscriptionRenewal .. => .subscriptionRenewal
  | .subscriptionRecovery .. => .subscriptionRecovery
  | .subscriptionPaymentMethodUpdate .. => .subscriptionPaymentMethodUpdate

/-- The plan of a subscription target. -/
def PaymentAttemptTarget.planKey : PaymentAttemptTarget → Option String
  | .hostCharge _ => none
  | .subscriptionInitial offer _ => some offer.planKey
  | .subscriptionRenewal planKey .. | .subscriptionRecovery planKey ..
  | .subscriptionPaymentMethodUpdate planKey _ => some planKey

/-- The billing period of a renewal or recovery. -/
def PaymentAttemptTarget.period : PaymentAttemptTarget → Option BillingPeriod
  | .subscriptionRenewal _ period _ | .subscriptionRecovery _ period _ => some period
  | _ => none

/-- The subscription snapshot of a renewal or recovery. -/
def PaymentAttemptTarget.expectedState :
    PaymentAttemptTarget → Option SubscriptionPaymentStateSnapshot
  | .subscriptionRenewal _ _ expected | .subscriptionRecovery _ _ expected => some expected
  | _ => none

/-- The subscription that a target belongs to; an initial attempt has none yet. -/
def PaymentAttemptTarget.subscriptionId : PaymentAttemptTarget → Option Id
  | .hostCharge _ | .subscriptionInitial .. => none
  | .subscriptionRenewal _ _ expected | .subscriptionRecovery _ _ expected =>
    some expected.subscriptionId
  | .subscriptionPaymentMethodUpdate _ expected => some expected.subscriptionId

/-- The settlement state that lifecycle evidence gives an approved payment. -/
inductive GatewayLifecycleState
  | unknown
  | pendingSettlement
  | voided
  | settled (cumulativeRefundedCents : Option ℕ)
  | refunded (cumulativeRefundedCents : ℕ)
  | chargeback (cumulativeRefundedCents : Option ℕ)
  deriving DecidableEq, Repr

/-- A row of `billing_payment_attempts`. The columns `subscription_id` and `payment_method_id`
belong to the target of a renewal, recovery, or method update, and are the application of an
approved initial attempt. -/
structure PaymentAttempt where
  id : Id
  billingScopeId : Id
  subscriberId : Id
  gatewayAccountId : Id
  gatewayConfigurationId : Id
  requiredGatewayAccountMode : GatewayAccountMode
  target : PaymentAttemptTarget
  idempotencyKey : String
  amount : Money
  gatewayOrderId : String
  subscriptionId : Option Id
  paymentMethodId : Option Id
  status : PaymentAttemptStatus
  resolutionCode : Option PaymentResolutionCode
  evidence : ProcessorEvidence
  lifecycle : GatewayLifecycleState
  lifecycleAction : Option String := none
  lifecycleAt : Option Timestamp := none
  lifecycleReconciledAt : Option Timestamp := none
  createdAt : Timestamp
  updatedAt : Timestamp
  submittedAt : Option Timestamp
  resolvedAt : Option Timestamp
  reviewRequiredAt : Option Timestamp
  deriving DecidableEq, Repr

/-- The kind of an attempt. -/
def PaymentAttempt.kind (a : PaymentAttempt) : PaymentAttemptKind := a.target.kind

/-- Whether an attempt is a renewal or a recovery of a subscription. -/
def PaymentAttempt.isSubscriptionCharge (a : PaymentAttempt) : Bool :=
  a.kind = .subscriptionRenewal ∨ a.kind = .subscriptionRecovery

/-- The start of the billing period that an attempt pays for. -/
def PaymentAttempt.periodStartAt (a : PaymentAttempt) : Option Timestamp :=
  a.target.period.map (·.startAt)

/-- `lifecycle_amount_is_valid`. -/
def lifecycleAmountIsValid (state : GatewayLifecycleState) (amountCents : ℕ) : Bool :=
  match state with
  | .unknown | .pendingSettlement | .voided => true
  | .settled refunded => refunded.all (· < amountCents)
  | .refunded refunded => 0 < amountCents && refunded == amountCents
  | .chargeback refunded => refunded.all (· ≤ amountCents)

/-- Why a row is not a payment attempt. -/
inductive PaymentAttemptError
  | zeroAmountRequiresPaymentMethodUpdate
  | paymentMethodUpdateRequiresZeroAmount
  | initialApplicationBeforeResolution
  | approvedInitialMissingApplication
  | terminalAttemptMissingResolvedAt
  | reviewAttemptMissingReviewRequiredAt
  | updatedBeforeCreated
  | invalidLifecycleAmount
  deriving DecidableEq, Repr

/-- The application of an initial attempt is read from its payment-method column. -/
def PaymentAttempt.hasInitialApplication (a : PaymentAttempt) : Bool := a.paymentMethodId.isSome

/-- `PaymentAttempt::new`: the checks, in their order, of a row that is loaded. -/
def PaymentAttempt.check (a : PaymentAttempt) : Except PaymentAttemptError Unit :=
  if a.kind ≠ .subscriptionPaymentMethodUpdate ∧ a.amount.cents = 0 then
    .error .zeroAmountRequiresPaymentMethodUpdate
  else if a.kind = .subscriptionPaymentMethodUpdate ∧ a.amount.cents ≠ 0 then
    .error .paymentMethodUpdateRequiresZeroAmount
  else if a.kind = .subscriptionInitial ∧ (a.status = .pending ∨ a.status = .unknown) ∧
      a.hasInitialApplication then
    .error .initialApplicationBeforeResolution
  else if a.kind = .subscriptionInitial ∧ a.status = .approved ∧ ¬ a.hasInitialApplication then
    .error .approvedInitialMissingApplication
  else if a.status.isTerminal ∧ a.resolvedAt = none then
    .error .terminalAttemptMissingResolvedAt
  else if a.status = .reviewRequired ∧ a.reviewRequiredAt = none then
    .error .reviewAttemptMissingReviewRequiredAt
  else if a.updatedAt < a.createdAt then
    .error .updatedBeforeCreated
  else if ¬ lifecycleAmountIsValid a.lifecycle a.amount.cents then
    .error .invalidLifecycleAmount
  else .ok ()

/-- `payment_attempt_target_from_row`: whether the linkage columns of a row fit its target. -/
def PaymentAttempt.targetFromRow (a : PaymentAttempt) : Bool :=
  match a.kind with
  | .hostCharge => a.subscriptionId = none ∧ a.paymentMethodId = none
  | .subscriptionInitial =>
    (a.subscriptionId = none ∨ a.paymentMethodId ≠ none) ∧
      ¬ ((a.status = .pending ∨ a.status = .unknown) ∧ a.paymentMethodId ≠ none)
  | .subscriptionRenewal | .subscriptionRecovery | .subscriptionPaymentMethodUpdate =>
    a.subscriptionId ≠ none ∧ a.paymentMethodId ≠ none

/-- What `check` requires, as one proposition: the invariant of stored rows. -/
structure PaymentAttempt.Loadable (a : PaymentAttempt) : Prop where
  amount : a.kind = .subscriptionPaymentMethodUpdate ↔ a.amount.cents = 0
  initialOpen : a.kind = .subscriptionInitial → (a.status = .pending ∨ a.status = .unknown) →
    a.paymentMethodId = none
  initialApproved : a.kind = .subscriptionInitial → a.status = .approved → a.paymentMethodId ≠ none
  resolvedAt : a.status.isResolvable = false → a.resolvedAt ≠ none
  reviewRequiredAt : a.status = .reviewRequired → a.reviewRequiredAt ≠ none
  updatedAt : a.createdAt ≤ a.updatedAt
  lifecycle : lifecycleAmountIsValid a.lifecycle a.amount.cents = true

/-- A row is loaded exactly when it meets the invariant. -/
theorem PaymentAttempt.check_ok_iff (a : PaymentAttempt) : a.check = .ok () ↔ a.Loadable := by
  have hpm : a.hasInitialApplication = true ↔ a.paymentMethodId ≠ none := by
    simp [PaymentAttempt.hasInitialApplication, Option.isSome_iff_ne_none]
  unfold PaymentAttempt.check
  simp only [hpm, PaymentAttemptStatus.isTerminal_eq_not, Bool.not_eq_true']
  constructor
  · intro h
    split_ifs at h with h1 h2 h3 h4 h5 h6 h7 h8
    exact
      { amount := ⟨fun hk => by_contra fun hc => h2 ⟨hk, hc⟩,
          fun hc => by_contra fun hk => h1 ⟨hk, hc⟩⟩
        initialOpen := fun hk hs => by_contra fun hp => h3 ⟨hk, hs, hp⟩
        initialApproved := fun hk hs hp => h4 ⟨hk, hs, not_not.mpr hp⟩
        resolvedAt := fun hs hr => h5 ⟨hs, hr⟩
        reviewRequiredAt := fun hs hr => h6 ⟨hs, hr⟩
        updatedAt := not_lt.mp h7
        lifecycle := by simpa using h8 }
  · rintro ⟨h1, h3, h4, h5, h6, h7, h8⟩
    rw [if_neg fun h => h.1 (h1.mpr h.2), if_neg fun h => h.2 (h1.mp h.1),
      if_neg fun h => h.2.2 (h3 h.1 h.2.1), if_neg fun h => h.2.2 (h4 h.1 h.2.1),
      if_neg fun h => h5 h.1 h.2, if_neg fun h => h6 h.1 h.2, if_neg (not_lt.mpr h7),
      if_neg (by simp [h8])]

/-! ## Loading -/

/-- `INVALID_ATTEMPT_STATE`. -/
def invalidAttemptState : StoreError := .invalidState "canonical payment attempt state is invalid"

/-- The attempt of a row: the processor's texts are sanitized again. So is the lifecycle action,
which nothing reads from a loaded attempt, and which is left here as it is stored. -/
def PaymentAttempt.fromRow (rules : TextRules) (a : PaymentAttempt) : PaymentAttempt :=
  { a with evidence := processorEvidenceFromRow rules a.evidence }

/-- `payment_attempt_from_row`. -/
def paymentAttemptFromRow (rules : TextRules) (a : PaymentAttempt) :
    Except StoreError PaymentAttempt :=
  if a.targetFromRow ∧ a.check = .ok () then .ok (a.fromRow rules) else .error invalidAttemptState

/-- A row that `payment_attempt_from_row` accepts, with its texts as they are stored. -/
def storedAttempt (a : PaymentAttempt) : Except StoreError PaymentAttempt :=
  if a.targetFromRow ∧ a.check = .ok () then .ok a else .error invalidAttemptState

/-- An attempt is loaded exactly when its row is accepted. -/
theorem paymentAttemptFromRow_eq (rules : TextRules) (a : PaymentAttempt) :
    paymentAttemptFromRow rules a = (storedAttempt a).map (·.fromRow rules) := by
  unfold paymentAttemptFromRow storedAttempt
  split_ifs <;> rfl

/-- `find_payment_attempt_by_id_on_connection`, with the texts as they are stored. -/
def findPaymentAttemptById (attempts : List PaymentAttempt) (billingScopeId attemptId : Id) :
    Except StoreError (Option PaymentAttempt) :=
  match attempts.find? fun a => a.billingScopeId = billingScopeId ∧ a.id = attemptId with
  | none => .ok none
  | some a => (storedAttempt a).map some

/-! ## Insertion -/

/-- The values of a reservation's `INSERT`. `paymentMethodId` is the method that a renewal,
recovery, or method update charges. -/
structure NewAttempt where
  id : Id
  billingScopeId : Id
  subscriberId : Id
  gatewayAccountId : Id
  gatewayConfigurationId : Id
  requiredGatewayAccountMode : GatewayAccountMode
  target : PaymentAttemptTarget
  idempotencyKey : String
  amount : Money
  gatewayOrderId : String
  paymentMethodId : Id
  createdAt : Timestamp
  amount_fits : target.kind = .subscriptionPaymentMethodUpdate ↔ amount.cents = 0

/-- The row that a reservation inserts: pending, and without any evidence. -/
def NewAttempt.row (n : NewAttempt) : PaymentAttempt where
  id := n.id
  billingScopeId := n.billingScopeId
  subscriberId := n.subscriberId
  gatewayAccountId := n.gatewayAccountId
  gatewayConfigurationId := n.gatewayConfigurationId
  requiredGatewayAccountMode := n.requiredGatewayAccountMode
  target := n.target
  idempotencyKey := n.idempotencyKey
  amount := n.amount
  gatewayOrderId := n.gatewayOrderId
  subscriptionId := n.target.subscriptionId
  paymentMethodId := n.target.subscriptionId.map fun _ => n.paymentMethodId
  status := .pending
  resolutionCode := none
  evidence := {}
  lifecycle := .unknown
  createdAt := n.createdAt
  updatedAt := n.createdAt
  submittedAt := none
  resolvedAt := none
  reviewRequiredAt := none

end SyrupRail
