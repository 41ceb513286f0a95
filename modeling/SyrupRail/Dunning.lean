import Mathlib.Data.List.Sort
import SyrupRail.Attempt
import SyrupRail.Subscription

/-!
# Automatic renewal failures

What a determinate failure of an automatic renewal does to its subscription, as `renewal_failure.rs`
computes it. The step of the dunning schedule is not stored: it is the number of failed renewals of
the period, which a query over the attempts returns. `decideRenewalFailure` compares the projection
of that step with the subscription and returns the update and its events, or that there is nothing
left to do.
-/

namespace SyrupRail

/-! ## The schedule of a policy -/

/-- What a failed renewal does to its subscription. -/
inductive RenewalFailureDisposition
  | retryScheduled (retryAt : Timestamp)
  | remainPastDue (exhaustedAt : Timestamp)
  | markUnpaid (endedAt : Timestamp)
  deriving DecidableEq, Repr

/-- Why a failure has no disposition. -/
inductive RenewalFailurePolicyError
  | zeroFailureCount
  | retryTimestampOverflow
  deriving DecidableEq, Repr

/-- The disposition of a failure after which no retry is left. -/
def DunningExhaustion.disposition (exhaustion : DunningExhaustion) (failedAt : Timestamp) :
    RenewalFailureDisposition :=
  match exhaustion with
  | .remainPastDue => .remainPastDue failedAt
  | .markUnpaid => .markUnpaid failedAt

/-- `renewal_failure_disposition` of the failure with the one-based number
`automaticFailureCount`. -/
def renewalFailureDisposition (policy : RenewalFailurePolicy) (automaticFailureCount : ℕ)
    (failedAt : Timestamp) : Except RenewalFailurePolicyError RenewalFailureDisposition :=
  match automaticFailureCount with
  | 0 => .error .zeroFailureCount
  | scheduleIndex + 1 =>
    match policy.retryDelays[scheduleIndex]? with
    | some delay =>
      match checkedAdd failedAt (seconds delay) with
      | some retryAt => .ok (.retryScheduled retryAt)
      | none => .error .retryTimestampOverflow
    | none => .ok (policy.exhaustion.disposition failedAt)

/-! ## The history of a period -/

/-- `INVALID_RENEWAL_FAILURE_STATE`. -/
def invalidRenewalFailureState : StoreError :=
  .invalidState "automatic renewal failure state cannot be projected deterministically"

/-- One failed renewal. -/
structure ResolvedAutomaticRenewalFailure where
  attemptId : Id
  resolvedAt : Timestamp
  deriving DecidableEq, Repr

/-- The failed renewals of a period. -/
inductive AutomaticRenewalFailureHistory
  | empty
  | first (failure : ResolvedAutomaticRenewalFailure)
  | repeated (count : ℕ) (first previous latest : ResolvedAutomaticRenewalFailure)
  deriving DecidableEq, Repr

/-- `count`. -/
def AutomaticRenewalFailureHistory.count : AutomaticRenewalFailureHistory → ℕ
  | .empty => 0
  | .first _ => 1
  | .repeated count .. => count

/-- `first_resolved_at`. -/
def AutomaticRenewalFailureHistory.firstResolvedAt :
    AutomaticRenewalFailureHistory → Option Timestamp
  | .empty => none
  | .first failure => some failure.resolvedAt
  | .repeated _ earliest _ _ => some earliest.resolvedAt

/-- The latest failure of a history. -/
def AutomaticRenewalFailureHistory.latest :
    AutomaticRenewalFailureHistory → Option ResolvedAutomaticRenewalFailure
  | .empty => none
  | .first failure => some failure
  | .repeated _ _ _ latest => some latest

/-- `latest_resolved_at`. -/
def AutomaticRenewalFailureHistory.latestResolvedAt (h : AutomaticRenewalFailureHistory) :
    Option Timestamp :=
  h.latest.map (·.resolvedAt)

/-- The automatic failures of a period, and the recovery that a former version of the schema could
leave as the cause of a past-due subscription. -/
structure PastDueCausalHistory where
  automatic : AutomaticRenewalFailureHistory
  legacyRecoveryAccessEndedAt : Option Timestamp
  deriving DecidableEq, Repr

/-- `access_ended_at`. -/
def PastDueCausalHistory.accessEndedAt (h : PastDueCausalHistory) (policy : PastDueAccessPolicy) :
    Option Timestamp :=
  match policy with
  | .suspendImmediately =>
    match h.automatic.firstResolvedAt, h.legacyRecoveryAccessEndedAt with
    | some automatic, some legacy => some (min automatic legacy)
    | automatic, legacy => automatic <|> legacy
  | .continueUntilDunningExhausted => h.automatic.latestResolvedAt

/-- The largest `u16`, the limit of a failure count. -/
def maxFailureCount : ℕ := 65535

/-- `automatic_renewal_failure_history_from_resolved`. -/
def automaticRenewalFailureHistoryFromResolved (resolved : List ResolvedAutomaticRenewalFailure) :
    Except StoreError AutomaticRenewalFailureHistory :=
  if maxFailureCount < resolved.length then .error invalidRenewalFailureState
  else
    match resolved.head?, resolved.getLast?, resolved.dropLast.getLast? with
    | some first, some latest, some previous =>
      .ok (.repeated resolved.length first previous latest)
    | some first, some _, none => .ok (.first first)
    | _, _, _ => .ok .empty

/-- The condition of the history query: a submitted renewal of the period that failed without a
resolution code. -/
def PaymentAttempt.isAutomaticFailure (subscriptionId : Id) (periodStartAt : Timestamp)
    (a : PaymentAttempt) : Bool :=
  a.subscriptionId = some subscriptionId ∧ a.periodStartAt = some periodStartAt ∧
    a.kind = .subscriptionRenewal ∧ a.submittedAt ≠ none ∧
    (a.status = .declined ∨ a.status = .failed) ∧ a.resolutionCode = none

/-- `ORDER BY resolved_at ASC, id ASC`; a null is last. -/
def resolvedOrder (a b : PaymentAttempt) : Bool :=
  match a.resolvedAt, b.resolvedAt with
  | some t, some t' => t < t' ∨ (t = t' ∧ a.id ≤ b.id)
  | some _, none => true
  | none, some _ => false
  | none, none => a.id ≤ b.id

/-- The failure that a row of the history query is. -/
def resolvedFailureFromRow (a : PaymentAttempt) :
    Except StoreError ResolvedAutomaticRenewalFailure :=
  match a.resolvedAt with
  | some resolvedAt => .ok { attemptId := a.id, resolvedAt }
  | none => .error invalidRenewalFailureState

/-- `automatic_renewal_failure_history`. -/
def automaticRenewalFailureHistory (attempts : List PaymentAttempt) (subscriptionId : Id)
    (periodStartAt : Timestamp) : Except StoreError AutomaticRenewalFailureHistory := do
  let rows := (attempts.filter (·.isAutomaticFailure subscriptionId periodStartAt)).insertionSort
    fun a b => resolvedOrder a b
  let resolved ← rows.mapM resolvedFailureFromRow
  automaticRenewalFailureHistoryFromResolved resolved

/-- The condition of the query for a recovery of the former version: reserved from an active
subscription, reviewed, and failed by the operator. -/
def PaymentAttempt.isLegacyRecoveryFailure (subscriptionId : Id) (periodStartAt : Timestamp)
    (a : PaymentAttempt) : Bool :=
  a.subscriptionId = some subscriptionId ∧ a.periodStartAt = some periodStartAt ∧
    a.kind = .subscriptionRecovery ∧ a.target.expectedState.any (·.status = .active) ∧
    a.submittedAt ≠ none ∧ a.reviewRequiredAt ≠ none ∧ a.status = .failed ∧
    a.resolutionCode = none

/-- `ORDER BY resolved_at ASC NULLS FIRST, id ASC`. -/
def resolvedOrderNullsFirst (a b : PaymentAttempt) : Bool :=
  match a.resolvedAt, b.resolvedAt with
  | some t, some t' => t < t' ∨ (t = t' ∧ a.id ≤ b.id)
  | some _, none => false
  | none, some _ => true
  | none, none => a.id ≤ b.id

/-- `legacy_recovery_failure_access_ended_at`. -/
def legacyRecoveryFailureAccessEndedAt (attempts : List PaymentAttempt) (subscriptionId : Id)
    (periodStartAt : Timestamp) : Except StoreError (Option Timestamp) :=
  let rows :=
    (attempts.filter (·.isLegacyRecoveryFailure subscriptionId periodStartAt)).insertionSort
      fun a b => resolvedOrderNullsFirst a b
  match rows.head? with
  | none => .ok none
  | some a => (resolvedFailureFromRow a).map fun failure => some failure.resolvedAt

/-- `past_due_causal_history`. -/
def pastDueCausalHistory (attempts : List PaymentAttempt) (subscriptionId : Id)
    (periodStartAt : Timestamp) : Except StoreError PastDueCausalHistory := do
  let automatic ← automaticRenewalFailureHistory attempts subscriptionId periodStartAt
  let legacyRecoveryAccessEndedAt ←
    legacyRecoveryFailureAccessEndedAt attempts subscriptionId periodStartAt
  .ok { automatic, legacyRecoveryAccessEndedAt }

/-! ## The decision -/

/-- The columns of a subscription that a failure changes. -/
structure FailureProjection where
  status : SubscriptionStatus
  nextPaymentAttemptAt : Option Timestamp
  unpaidAt : Option Timestamp
  deriving DecidableEq, Repr

/-- The projection of a stored subscription. -/
def Subscription.failureProjection (s : Subscription) : FailureProjection where
  status := s.status
  nextPaymentAttemptAt := s.nextPaymentAttemptAt
  unpaidAt := s.unpaidAt

/-- `projection`. -/
def RenewalFailureDisposition.projection : RenewalFailureDisposition → FailureProjection
  | .retryScheduled retryAt => ⟨.pastDue, some retryAt, none⟩
  | .remainPastDue _ => ⟨.pastDue, none, none⟩
  | .markUnpaid endedAt => ⟨.unpaid, none, some endedAt⟩

/-- The identity of a failed renewal and the times that the decision compares. -/
structure ValidatedRenewalFailureAttempt where
  attemptId : Id
  billingScopeId : Id
  subscriberId : Id
  subscriptionId : Id
  planKey : String
  periodStartAt : Timestamp
  submittedAt : Timestamp
  resolvedAt : Timestamp
  deriving DecidableEq, Repr

/-- `validate_resolved_renewal_attempt`. -/
def validateResolvedRenewalAttempt (a : PaymentAttempt) :
    Except StoreError ValidatedRenewalFailureAttempt :=
  match a.target with
  | .subscriptionRenewal planKey period expected =>
    if (a.status = .declined ∨ a.status = .failed) ∧ a.resolutionCode = none then
      match a.submittedAt, a.resolvedAt with
      | some submittedAt, some resolvedAt =>
        .ok
          { attemptId := a.id
            billingScopeId := a.billingScopeId
            subscriberId := a.subscriberId
            subscriptionId := expected.subscriptionId
            planKey
            periodStartAt := period.startAt
            submittedAt
            resolvedAt }
      | _, _ => .error invalidRenewalFailureState
    else .error invalidRenewalFailureState
  | _ => .error invalidRenewalFailureState

/-- What `decide_renewal_failure` returns to apply: the columns before and after, and the events. -/
structure RenewalFailureTransition where
  before : FailureProjection
  after : FailureProjection
  disposition : RenewalFailureDisposition
  events : List BillingEvent
  deriving DecidableEq, Repr

/-- What `decide_renewal_failure` decides. -/
inductive RenewalFailureDecision
  | noop
  | apply (transition : RenewalFailureTransition)
  deriving DecidableEq, Repr

/-- The disposition that the event of a failure carries. -/
def RenewalFailureDisposition.eventDisposition :
    RenewalFailureDisposition → SubscriptionPaymentFailureDisposition
  | .retryScheduled retryAt => .retryScheduled retryAt
  | .remainPastDue exhaustedAt => .dunningExhausted exhaustedAt
  | .markUnpaid endedAt => .subscriptionEnded endedAt

/-- The access of `failure_event_projection`. -/
def failureEventAccess (access : PastDueAccessPolicy) (history : PastDueCausalHistory)
    (disposition : RenewalFailureDisposition) :
    Except StoreError SubscriptionPaymentFailureAccess :=
  match access, disposition with
  | .continueUntilDunningExhausted, .retryScheduled _ => .ok .continuesDuringDunning
  | _, _ =>
    match history.accessEndedAt access with
    | some accessEndedAt => .ok (.ended accessEndedAt)
    | none => .error invalidRenewalFailureState

/-- `failure_events`. -/
def failureEvents (v : ValidatedRenewalFailureAttempt) (policy : RenewalFailurePolicy)
    (history : PastDueCausalHistory) (disposition : RenewalFailureDisposition) :
    Except StoreError (List BillingEvent) := do
  let access ← failureEventAccess policy.pastDueAccess history disposition
  let failed := BillingEvent.subscriptionPaymentFailed v.attemptId v.subscriptionId v.planKey
    disposition.eventDisposition access
  match disposition with
  | .markUnpaid endedAt =>
    match access.accessEndedAt with
    | some accessEndsAt =>
      .ok [failed, .subscriptionEnded v.attemptId v.subscriptionId v.planKey endedAt accessEndsAt]
    | none => .error invalidRenewalFailureState
  | _ => .ok [failed]

/-- Whether the step before the latest failure left a retry. -/
def AutomaticRenewalFailureHistory.previousWasRetried (policy : RenewalFailurePolicy) :
    AutomaticRenewalFailureHistory → Bool
  | .repeated count _ previous _ =>
    match renewalFailureDisposition policy (count - 1) previous.resolvedAt with
    | .ok (.retryScheduled _) => true
    | _ => false
  | _ => true

/-- Whether a subscription is in the state that the latest failure was admitted from. -/
def beforeIsValid (submittedAt nextRenewalAt : Timestamp) (current : FailureProjection)
    (history : PastDueCausalHistory) : Bool :=
  let due : Bool := current.nextPaymentAttemptAt.any (· ≤ submittedAt)
  match history.automatic with
  | .empty => false
  | .first _ =>
    (current.status = .active ∨
      (current.status = .pastDue ∧ history.legacyRecoveryAccessEndedAt ≠ none)) ∧
      current.nextPaymentAttemptAt = some nextRenewalAt ∧ due ∧ current.unpaidAt = none
  | .repeated .. => current.status = .pastDue ∧ due ∧ current.unpaidAt = none

/-- `decide_renewal_failure`. -/
def decideRenewalFailure (v : ValidatedRenewalFailureAttempt) (s : Subscription)
    (history : PastDueCausalHistory) : Except StoreError RenewalFailureDecision :=
  if s.nextRenewalAt ≠ v.periodStartAt then .error invalidRenewalFailureState
  else
    match history.automatic.latest with
    | none => .error invalidRenewalFailureState
    | some latest =>
      if latest.attemptId ≠ v.attemptId then .ok .noop
      else if latest.resolvedAt ≠ v.resolvedAt then .error invalidRenewalFailureState
      else
        match renewalFailureDisposition s.renewalFailure history.automatic.count
          latest.resolvedAt with
        | .error _ => .error invalidRenewalFailureState
        | .ok disposition =>
          if !history.automatic.previousWasRetried s.renewalFailure then
            .error invalidRenewalFailureState
          else if s.failureProjection = disposition.projection then .ok .noop
          else if !beforeIsValid v.submittedAt s.nextRenewalAt s.failureProjection history then
            .error invalidRenewalFailureState
          else
            (failureEvents v s.renewalFailure history disposition).map fun events =>
              .apply
                { before := s.failureProjection
                  after := disposition.projection
                  disposition
                  events }

/-! ## The application -/

/-- What the application of a failure has done. -/
inductive RenewalFailureApplication
  | applied (disposition : RenewalFailureDisposition) (events : List BillingEvent)
  | noop
  deriving DecidableEq, Repr

/-- The row after a failure. -/
def Subscription.withFailure (now : Timestamp) (after : FailureProjection) (s : Subscription) :
    Subscription :=
  { s with
    status := after.status
    nextPaymentAttemptAt := after.nextPaymentAttemptAt
    unpaidAt := after.unpaidAt
    updatedAt := now }

/-- `persist_renewal_failure_transition`. -/
def persistRenewalFailureTransition (now : Timestamp) (subscriptionId : Id)
    (transition : RenewalFailureTransition) (subscriptions : List Subscription) :
    Except StoreError (List Subscription) :=
  let matched (s : Subscription) : Bool :=
    s.id = subscriptionId ∧ s.failureProjection = transition.before
  if Table.rowsAffected matched subscriptions = 1 then
    storeSubscriptions
      (Table.updateWhere matched (·.withFailure now transition.after) subscriptions)
  else .error invalidRenewalFailureState

/-- The row that `load_locked_renewal_failure_state` locks. -/
def ValidatedRenewalFailureAttempt.locks (v : ValidatedRenewalFailureAttempt) (s : Subscription) :
    Bool :=
  s.id = v.subscriptionId ∧ s.billingScopeId = v.billingScopeId ∧
    s.subscriberId = v.subscriberId ∧ s.planKey = v.planKey

/-- `apply_resolved_automatic_renewal_failure`. -/
def applyResolvedAutomaticRenewalFailure (now : Timestamp) (attempts : List PaymentAttempt)
    (a : PaymentAttempt) (subscriptions : List Subscription) :
    Except StoreError (List Subscription × RenewalFailureApplication) := do
  let v ← validateResolvedRenewalAttempt a
  let durable ← findPaymentAttemptById attempts v.billingScopeId v.attemptId
  if durable ≠ some a then .error invalidRenewalFailureState
  else
    match subscriptions.find? v.locks with
    | none => .error invalidRenewalFailureState
    | some s => do
      let history ← pastDueCausalHistory attempts v.subscriptionId s.nextRenewalAt
      match ← decideRenewalFailure v s history with
      | .noop => .ok (subscriptions, .noop)
      | .apply transition => do
        let subscriptions ←
          persistRenewalFailureTransition now v.subscriptionId transition subscriptions
        .ok (subscriptions, .applied transition.disposition transition.events)

end SyrupRail
