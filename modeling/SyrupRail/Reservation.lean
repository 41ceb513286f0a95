import SyrupRail.Attempt
import SyrupRail.Subscription

/-!
# Reservations of subscription charges

A reservation is the authority to charge one period of one subscription, or to enroll: the identity
and the request of the attempt that was inserted with it. Admission and application compare it with
the attempt and with the subscription as they are by then; the comparisons differ in what they look
at, and are kept apart here as they are in the source.
-/

namespace SyrupRail

/-- `PaymentAttemptIdentity`. -/
structure PaymentAttemptIdentity where
  attemptId : Id
  billingScopeId : Id
  subscriberId : Id
  gatewayAccountId : Id
  gatewayConfigurationId : Id
  requiredGatewayAccountMode : GatewayAccountMode
  deriving DecidableEq, Repr

/-- The identity of a stored attempt. -/
def PaymentAttempt.identity (a : PaymentAttempt) : PaymentAttemptIdentity where
  attemptId := a.id
  billingScopeId := a.billingScopeId
  subscriberId := a.subscriberId
  gatewayAccountId := a.gatewayAccountId
  gatewayConfigurationId := a.gatewayConfigurationId
  requiredGatewayAccountMode := a.requiredGatewayAccountMode

/-- The two kinds of charge for a period. -/
inductive SubscriptionChargeKind
  | renewal | recovery
  deriving DecidableEq, Repr

/-- `SubscriptionRenewalReservation` and `SubscriptionRecoveryReservation`, which have the same
fields. The provider key is the one of the gateway that reserved it, and the payment method is that
of the attempt's target. -/
structure SubscriptionChargeReservation where
  kind : SubscriptionChargeKind
  identity : PaymentAttemptIdentity
  providerKey : String
  planKey : String
  paymentMethodId : Id
  period : BillingPeriod
  expected : SubscriptionPaymentStateSnapshot
  idempotencyKey : String
  amount : Money
  gatewayOrderId : String
  deriving DecidableEq, Repr

/-- The target of the reserved attempt. -/
def SubscriptionChargeReservation.target (r : SubscriptionChargeReservation) :
    PaymentAttemptTarget :=
  match r.kind with
  | .renewal => .subscriptionRenewal r.planKey r.period r.expected
  | .recovery => .subscriptionRecovery r.planKey r.period r.expected

/-- Equality of the requests of a reservation and an attempt. The payment method is read from the
column that an approval overwrites. -/
def SubscriptionChargeReservation.requestMatches (r : SubscriptionChargeReservation)
    (a : PaymentAttempt) : Bool :=
  a.target = r.target ∧ a.paymentMethodId = some r.paymentMethodId ∧
    a.idempotencyKey = r.idempotencyKey ∧ a.amount = r.amount ∧
    a.gatewayOrderId = r.gatewayOrderId

/-- `renewal_attempt_belongs_to_reservation` and `recovery_attempt_belongs_to_reservation`. -/
def SubscriptionChargeReservation.owns (r : SubscriptionChargeReservation) (a : PaymentAttempt) :
    Bool :=
  a.identity = r.identity ∧ a.kind = r.target.kind ∧ a.idempotencyKey = r.idempotencyKey ∧
    a.gatewayOrderId = r.gatewayOrderId

/-- `ReservationAttemptExpectation::matches` of an exact expectation. -/
def SubscriptionChargeReservation.matchesAttempt (r : SubscriptionChargeReservation)
    (a : PaymentAttempt) : Bool :=
  a.identity = r.identity ∧ a.kind = r.target.kind ∧ r.requestMatches a

/-- `canonical_gateway_transaction_ids_equal`. -/
def canonicalGatewayTransactionIdsEqual (left right : String) : Bool :=
  RustText.trim left = RustText.trim right ∧ RustText.trim left ≠ ""

/-- The row of a reservation's subscription: the `WHERE` of every comparison. -/
def SubscriptionChargeReservation.locates (r : SubscriptionChargeReservation) (s : Subscription) :
    Bool :=
  s.id = r.expected.subscriptionId ∧ s.billingScopeId = r.identity.billingScopeId ∧
    s.subscriberId = r.identity.subscriberId ∧
    s.gatewayAccountId = r.identity.gatewayAccountId ∧ s.planKey = r.planKey

/-- The comparison that all of them make: the status, the payment method, and the period. -/
def SubscriptionChargeReservation.expects (r : SubscriptionChargeReservation) (s : Subscription) :
    Bool :=
  s.status = r.expected.status ∧ s.status.isBilled ∧
    s.paymentMethodId = r.expected.paymentMethodId ∧ s.nextRenewalAt = r.period.startAt

/-- `renewal_subscription_matches`, of the located row. -/
def SubscriptionChargeReservation.renewalSubscriptionMatches (r : SubscriptionChargeReservation)
    (s : Subscription) : Bool :=
  r.expects s ∧
    canonicalGatewayTransactionIdsEqual s.initialTransactionId r.expected.initialTransactionId ∧
    s.amount = r.amount ∧ s.requiredGatewayAccountMode = r.identity.requiredGatewayAccountMode

/-- `renewal_subscription_state_matches`, of the located row: as at application, and due. -/
def SubscriptionChargeReservation.renewalSubscriptionStateMatches (now : Timestamp)
    (r : SubscriptionChargeReservation) (s : Subscription) : Bool :=
  r.renewalSubscriptionMatches s ∧ s.nextPaymentAttemptAt.any (· ≤ now)

/-- `recovery_subscription_matches`, of the located row; the amount may have changed. -/
def SubscriptionChargeReservation.recoverySubscriptionMatches (r : SubscriptionChargeReservation)
    (s : Subscription) : Bool :=
  r.expects s ∧
    canonicalGatewayTransactionIdsEqual s.initialTransactionId r.expected.initialTransactionId ∧
    s.requiredGatewayAccountMode = r.identity.requiredGatewayAccountMode

/-- `recovery_subscription_state_matches`, of the located row: the transaction is compared as it is
stored. -/
def SubscriptionChargeReservation.recoverySubscriptionStateMatches
    (r : SubscriptionChargeReservation) (s : Subscription) : Bool :=
  r.expects s ∧ s.initialTransactionId = r.expected.initialTransactionId

/-- `SubscriptionPaymentMethodReplacement`: the authority to replace the stored method of one
subscription. -/
structure SubscriptionPaymentMethodReplacement where
  identity : PaymentAttemptIdentity
  providerKey : String
  planKey : String
  paymentMethodId : Id
  expected : PaymentMethodUpdateSnapshot
  idempotencyKey : String
  amount : Money
  gatewayOrderId : String
  deriving DecidableEq, Repr

namespace SubscriptionPaymentMethodReplacement

/-- The target of the reserved attempt. -/
def target (r : SubscriptionPaymentMethodReplacement) : PaymentAttemptTarget :=
  .subscriptionPaymentMethodUpdate r.planKey r.expected

/-- Equality of the requests of a reservation and an attempt. -/
def requestMatches (r : SubscriptionPaymentMethodReplacement) (a : PaymentAttempt) : Bool :=
  a.target = r.target ∧ a.paymentMethodId = some r.paymentMethodId ∧
    a.idempotencyKey = r.idempotencyKey ∧ a.amount = r.amount ∧
    a.gatewayOrderId = r.gatewayOrderId

/-- `payment_method_replacement_attempt_belongs_to_reservation`. -/
def owns (r : SubscriptionPaymentMethodReplacement) (a : PaymentAttempt) : Bool :=
  a.identity = r.identity ∧ a.kind = .subscriptionPaymentMethodUpdate ∧
    a.idempotencyKey = r.idempotencyKey ∧ a.gatewayOrderId = r.gatewayOrderId

/-- `ReservationAttemptExpectation::matches` of an exact expectation. -/
def matchesAttempt (r : SubscriptionPaymentMethodReplacement) (a : PaymentAttempt) : Bool :=
  a.identity = r.identity ∧ a.kind = .subscriptionPaymentMethodUpdate ∧ r.requestMatches a

/-- The row of a reservation's subscription. -/
def locates (r : SubscriptionPaymentMethodReplacement) (s : Subscription) : Bool :=
  s.id = r.expected.subscriptionId ∧ s.billingScopeId = r.identity.billingScopeId ∧
    s.subscriberId = r.identity.subscriberId ∧
    s.gatewayAccountId = r.identity.gatewayAccountId ∧ s.planKey = r.planKey

/-- Whether a subscription is billed in the mode of the reservation. -/
def isEligible (r : SubscriptionPaymentMethodReplacement) (s : Subscription) : Bool :=
  s.status.isBilled ∧ s.requiredGatewayAccountMode = r.identity.requiredGatewayAccountMode

/-- Whether a subscription has the method and the transaction that it was reserved with. -/
def baselineMatches (r : SubscriptionPaymentMethodReplacement) (s : Subscription) : Bool :=
  s.paymentMethodId = r.expected.paymentMethodId ∧
    s.initialTransactionId = r.expected.initialTransactionId

end SubscriptionPaymentMethodReplacement

/-- `SubscriptionEnrollmentReservation`, with the fields that application compares. -/
structure SubscriptionEnrollmentReservation where
  identity : PaymentAttemptIdentity
  planKey : String
  gatewayOrderId : String
  deriving DecidableEq, Repr

/-- `ReservationAttemptExpectation::matches` of an enrollment, which does not compare the terms. -/
def SubscriptionEnrollmentReservation.matchesAttempt (r : SubscriptionEnrollmentReservation)
    (a : PaymentAttempt) : Bool :=
  a.identity = r.identity ∧ a.kind = .subscriptionInitial ∧ a.target.planKey = some r.planKey ∧
    a.gatewayOrderId = r.gatewayOrderId

end SyrupRail
