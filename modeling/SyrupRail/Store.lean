import SyrupRail.Attempt.Rows
import SyrupRail.Charge
import SyrupRail.Dunning
import SyrupRail.Lib.Tx
import SyrupRail.Reservation

/-!
# The billing store

The tables that the engine reads and writes together, and the statements on them. A transaction is a
`Program`: it runs under the aggregate lock of its subscriber and plan, reads the clock once, and
its failure undoes all of it. The statements on attempts, charges, and subscriptions are those of
their own modules, lifted to the store; the others are below. The UUIDs that the engine generates
are arguments.
-/

namespace SyrupRail

/-! ## The remaining tables -/

/-- A row of `billing_gateway_accounts`. -/
structure GatewayAccount where
  id : Id
  billingScopeId : Id
  providerKey : String
  gatewayConfigurationId : Id
  mutationRateLimitedUntil : Option Timestamp
  deriving DecidableEq, Repr

/-- A row of `billing_gateway_provider_rate_limits`. -/
structure GatewayProviderRateLimit where
  providerKey : String
  rateLimitedUntil : Timestamp
  deriving DecidableEq, Repr

/-- The status of a payment method. -/
inductive PaymentMethodStatus
  | active | disabled
  deriving DecidableEq, Repr

/-- A row of `billing_payment_methods`, without the billing contact. -/
structure PaymentMethod where
  id : Id
  billingScopeId : Id
  subscriberId : Id
  gatewayAccountId : Id
  reference : String
  status : PaymentMethodStatus
  descriptor : GatewayPaymentDescriptor
  deriving DecidableEq, Repr

/-- The status of a discount. -/
inductive SubscriptionDiscountStatus
  | active | completed
  deriving DecidableEq, Repr

/-- A row of `billing_subscription_discounts`; the number of periods of a limited discount is that
of its duration. -/
structure SubscriptionDiscount where
  subscriptionId : Id
  billingScopeId : Id
  subscriberId : Id
  planKey : String
  claimId : Id
  codeId : Id
  kind : SubscriptionDiscountKind
  duration : SubscriptionDiscountDuration
  baseAmount : Money
  discountedAmount : Money
  periodsApplied : ℕ
  status : SubscriptionDiscountStatus
  appliedAt : Timestamp
  completedAt : Option Timestamp
  deriving DecidableEq, Repr

/-- The status of a discount claim. -/
inductive DiscountClaimStatus
  | saved | applied | superseded | expired
  deriving DecidableEq, Repr

/-- A row of `billing_subscription_discount_claims`. -/
structure SubscriptionDiscountClaim where
  id : Id
  billingScopeId : Id
  subscriberId : Id
  planKey : String
  status : DiscountClaimStatus
  appliedAt : Option Timestamp
  appliedSubscriptionId : Option Id
  appliedPaymentAttemptId : Option Id
  deriving DecidableEq, Repr

/-- Why a grant is given. -/
inductive SubscriptionGrantKind
  | testing | promotion
  deriving DecidableEq, Repr

/-- A row of `billing_subscription_grants`. -/
structure SubscriptionGrant where
  id : Id
  billingScopeId : Id
  subscriberId : Id
  planKey : String
  kind : SubscriptionGrantKind
  reason : String
  startsAt : Timestamp
  endsAt : Timestamp
  grantedByActorId : Id
  revokedAt : Option Timestamp
  revokedByActorId : Option Id
  revocationReason : Option String
  deriving DecidableEq, Repr

/-- The tables of the engine, its clock, and the events that were appended, with their times. -/
structure Db where
  clock : Timestamp
  gatewayAccounts : List GatewayAccount
  providerRateLimits : List GatewayProviderRateLimit
  paymentMethods : List PaymentMethod
  subscriptions : List Subscription
  attempts : List PaymentAttempt
  ledger : ChargeLedger
  discounts : List SubscriptionDiscount
  discountClaims : List SubscriptionDiscountClaim
  grants : List SubscriptionGrant
  events : List (Timestamp × BillingEvent)
  deriving DecidableEq, Repr

/-- A program of one transaction. -/
abbrev Program (α : Type) := Tx Db StoreError α

/-! ## Statements -/

/-- A statement on the attempts. -/
def onAttempts (f : List PaymentAttempt → Except StoreError (List PaymentAttempt)) :
    Program Unit :=
  Tx.statement Db.attempts (fun attempts db => { db with attempts }) fun attempts =>
    (f attempts).map (·, ())

/-- A statement on the charges and their attestations. -/
def onLedger {α : Type} (f : ChargeLedger → Except StoreError (ChargeLedger × α)) : Program α :=
  Tx.statement Db.ledger (fun ledger db => { db with ledger }) f

/-- A statement on the charges. -/
def onCharges {α : Type}
    (f : List ProcessorCharge → Except StoreError (List ProcessorCharge × α)) : Program α :=
  onLedger fun ledger => (f ledger.charges).map fun r => ({ ledger with charges := r.1 }, r.2)

/-- A statement on the subscriptions. -/
def onSubscriptions {α : Type}
    (f : List Subscription → Except StoreError (List Subscription × α)) : Program α :=
  Tx.statement Db.subscriptions (fun subscriptions db => { db with subscriptions }) f

/-- The events of a transaction, which the host's transaction appends before it commits. -/
def appendEvents (now : Timestamp) (events : List BillingEvent) : Program Unit :=
  modify fun db => { db with events := db.events ++ events.map (now, ·) }

/-- `find_payment_attempt_by_id_on_connection`, of an attempt that must be there. -/
def requireAttempt (missing : StoreError) (billingScopeId attemptId : Id) :
    Program PaymentAttempt := do
  match ← Tx.read fun db => findPaymentAttemptById db.attempts billingScopeId attemptId with
  | some a => pure a
  | none => throw missing

/-- A writer on the row of an attempt, in the application of an outcome. -/
def persist (now : Timestamp) (attemptId : Id) (w : AttemptWriter) : Program Unit :=
  onAttempts (writeAttempt now invalidApplicationState attemptId w)

/-- `observe_processor_charge`. -/
def observe (now : Timestamp) (newChargeId : Id) (a : PaymentAttempt) (evidence : ProcessorEvidence)
    (requested : ProcessorChargeProgression) : Program ObservedCharge :=
  onCharges (observeProcessorCharge now newChargeId a evidence requested)

/-- `transition_charge`. -/
def moveCharge (now : Timestamp) (chargeId : Id) (progression : ProcessorChargeProgression)
    (code : Option PaymentResolutionCode) : Program Unit :=
  onCharges fun charges => (transitionCharge now chargeId progression code charges).map (·, ())

/-- `charge_is_externally_reversed`. -/
def chargeIsExternallyReversed (chargeId : Id) (db : Db) : Bool :=
  db.ledger.charges.any fun c => c.id = chargeId ∧ c.progression = .externallyReversed

/-- `period_has_expired_at_database_time`: a period that ends exactly now has expired. -/
def periodHasExpired (now periodEndAt : Timestamp) : Bool := periodEndAt ≤ now

/-- `load_subscription`. -/
def loadSubscription (billingScopeId subscriptionId : Id) (db : Db) : Option Subscription :=
  db.subscriptions.find? fun s => s.billingScopeId = billingScopeId ∧ s.id = subscriptionId

/-- `load_applied_subscription`: the subscription of the target, which is that of the linkage column
for an approved enrollment. -/
def loadAppliedSubscription (a : PaymentAttempt) (db : Db) : Option Subscription :=
  a.subscriptionId.bind fun subscriptionId => loadSubscription a.billingScopeId subscriptionId db

/-- `payment_result_for_attempt`: the attempt of the result, whose subscription is there when it is
approved. -/
def paymentResultForAttempt (a : PaymentAttempt) : Program PaymentAttempt := do
  let db ← get
  if a.status = .approved ∧ loadAppliedSubscription a db = none then throw invalidApplicationState
  else pure a

end SyrupRail
