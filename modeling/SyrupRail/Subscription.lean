import SyrupRail.Terms
import SyrupRail.Lib.Table

/-!
# Subscriptions

The row of `billing_subscriptions` with its constraints, and the events that the engine emits about
it in the same transaction.
-/

namespace SyrupRail

/-- A row of `billing_subscriptions`. -/
structure Subscription where
  id : Id
  billingScopeId : Id
  subscriberId : Id
  planKey : String
  status : SubscriptionStatus
  gatewayAccountId : Id
  paymentMethodId : Id
  amount : Money
  currentPeriodStartAt : Timestamp
  currentPeriodEndAt : Timestamp
  nextRenewalAt : Timestamp
  initialTransactionId : String
  canceledAt : Option Timestamp
  createdAt : Timestamp
  updatedAt : Timestamp
  phase : SubscriptionPhase
  recurringPeriod : SubscriptionPeriodRule
  renewalFailure : RenewalFailurePolicy
  nextPaymentAttemptAt : Option Timestamp
  unpaidAt : Option Timestamp
  requiredGatewayAccountMode : GatewayAccountMode
  deriving DecidableEq, Repr

/-- Whether a subscription is one that is still billed. -/
def SubscriptionStatus.isBilled : SubscriptionStatus → Bool
  | .active | .pastDue => true
  | .canceled | .unpaid => false

/-! ## Constraints -/

/-- `billing_subscriptions_period_check`. -/
def Subscription.periodCheck (s : Subscription) : Bool :=
  s.currentPeriodStartAt < s.currentPeriodEndAt ∧ s.nextRenewalAt = s.currentPeriodEndAt

/-- `billing_subscriptions_canceled_state_check` and `billing_subscriptions_unpaid_state_check`. -/
def Subscription.endStateCheck (s : Subscription) : Bool :=
  (s.status = .canceled ↔ s.canceledAt ≠ none) ∧ (s.status = .unpaid ↔ s.unpaidAt ≠ none)

/-- `billing_subscriptions_payment_schedule_check`. -/
def Subscription.paymentScheduleCheck (s : Subscription) : Bool :=
  match s.status with
  | .active => s.nextPaymentAttemptAt = some s.nextRenewalAt
  | .pastDue => s.nextPaymentAttemptAt.all (s.nextRenewalAt ≤ ·)
  | .canceled | .unpaid => s.nextPaymentAttemptAt = none

/-- The constraints of the table on the columns that a writer changes. -/
def Subscription.checks (s : Subscription) : Bool :=
  s.periodCheck && s.endStateCheck && s.paymentScheduleCheck && s.createdAt ≤ s.updatedAt

/-- The key of `billing_subscriptions_current_owner_plan_idx`. -/
def Subscription.currentOwnerPlanKey (s : Subscription) : Option (Id × Id × String) :=
  if s.status.isBilled then some (s.billingScopeId, s.subscriberId, s.planKey) else none

/-- The unique indexes of the table: the primary key, the current subscription of a plan, and the
initial transaction. -/
def subscriptionIndexes (subscriptions : List Subscription) : Bool :=
  Table.uniqueOn (fun s => some s.id) subscriptions &&
    Table.uniqueOn Subscription.currentOwnerPlanKey subscriptions &&
    Table.uniqueOn (fun s => some (s.gatewayAccountId, s.initialTransactionId)) subscriptions

/-- The end of a statement on subscriptions. -/
def storeSubscriptions (subscriptions : List Subscription) :
    Except StoreError (List Subscription) :=
  if !subscriptions.all Subscription.checks then .error .checkViolation
  else if !subscriptionIndexes subscriptions then .error .uniqueViolation
  else .ok subscriptions

/-- A statement that succeeds stores its rows, which meet the constraints. -/
theorem storeSubscriptions_eq_ok {subscriptions subscriptions' : List Subscription}
    (h : storeSubscriptions subscriptions = .ok subscriptions') :
    subscriptions' = subscriptions ∧ (∀ s ∈ subscriptions, s.checks = true) ∧
      subscriptionIndexes subscriptions = true := by
  unfold storeSubscriptions at h
  split_ifs at h with hc hi
  refine ⟨by simpa using h.symm, ?_, by simpa using hi⟩
  simpa using hc

/-! ## Events -/

/-- What a failed renewal means for the dunning of its period. -/
inductive SubscriptionPaymentFailureDisposition
  | retryScheduled (retryAt : Timestamp)
  | dunningExhausted (exhaustedAt : Timestamp)
  | subscriptionEnded (endedAt : Timestamp)
  deriving DecidableEq, Repr

/-- What a failed renewal means for access. -/
inductive SubscriptionPaymentFailureAccess
  | continuesDuringDunning
  | ended (accessEndedAt : Timestamp)
  deriving DecidableEq, Repr

/-- The boundary of an access that has ended. -/
def SubscriptionPaymentFailureAccess.accessEndedAt :
    SubscriptionPaymentFailureAccess → Option Timestamp
  | .continuesDuringDunning => none
  | .ended accessEndedAt => some accessEndedAt

/-- A billing event. A subscription ends, in `subscriptionEnded`, for non-payment. -/
inductive BillingEvent
  | subscriptionStarted (attemptId subscriptionId : Id) (planKey : String) (charge : Money)
      (period : BillingPeriod) (phase : SubscriptionPhase)
  | subscriptionRenewed (attemptId subscriptionId : Id) (planKey : String) (charge : Money)
      (period : BillingPeriod)
  | subscriptionPaymentFailed (attemptId subscriptionId : Id) (planKey : String)
      (disposition : SubscriptionPaymentFailureDisposition)
      (access : SubscriptionPaymentFailureAccess)
  | subscriptionEnded (attemptId subscriptionId : Id) (planKey : String)
      (endedAt accessEndsAt : Timestamp)
  | subscriptionPeriodExpired (subscriptionId : Id) (planKey : String) (period : BillingPeriod)
      (endedAt accessEndsAt : Timestamp)
  | subscriptionCanceled (subscriptionId : Id) (planKey : String) (accessEndsAt : Timestamp)
  | paymentMethodChanged (attemptId subscriptionId : Id) (planKey : String)
  deriving DecidableEq, Repr

end SyrupRail
