import SyrupRail.Attempt

/-!
# The writers of a payment attempt

Every statement of the engine that changes a row of `billing_payment_attempts`, as a function of the
row. A statement is an `UPDATE ... WHERE`: `PaymentAttempt.update` stores the new row when the
compare-and-set predicate matches and the row passes the table's constraints, and fails without an
effect when it breaks one of them. A writer that counts the affected rows fails when the predicate
does not match; the others leave the row as it is. Each writer reads the clock once.
-/

namespace SyrupRail

/-! ## One `UPDATE` of a row -/

/-- Why a writer fails. -/
inductive AttemptWriteError
  | invalidState
  | checkViolation
  deriving DecidableEq, Repr

/-- `billing_payment_attempts_relationship_shape_check`, for the columns that a writer changes. -/
def PaymentAttempt.relationshipShapeCheck (a : PaymentAttempt) : Bool :=
  match a.kind with
  | .hostCharge => a.subscriptionId.isNone && a.paymentMethodId.isNone
  | .subscriptionInitial =>
    (a.status ∈ [.approved, .declined, .failed, .reviewRequired] ∧ a.paymentMethodId.isSome) ∨
      (a.status ≠ .approved ∧ a.subscriptionId.isNone ∧ a.paymentMethodId.isNone)
  | .subscriptionRenewal | .subscriptionRecovery | .subscriptionPaymentMethodUpdate =>
    a.subscriptionId.isSome && a.paymentMethodId.isSome

/-- `billing_payment_attempts_resolved_state_check`. -/
def PaymentAttempt.resolvedStateCheck (a : PaymentAttempt) : Bool :=
  a.status.isResolvable || a.resolvedAt.isSome

/-- `billing_payment_attempts_review_required_at_check`. -/
def PaymentAttempt.reviewRequiredAtCheck (a : PaymentAttempt) : Bool :=
  a.status != .reviewRequired || a.reviewRequiredAt.isSome

/-- `billing_payment_attempts_timestamp_order_check`. -/
def PaymentAttempt.timestampOrderCheck (a : PaymentAttempt) : Bool := a.createdAt ≤ a.updatedAt

/-- The constraints of the table on the columns that a writer changes; the text constraint is
`billing_payment_attempts_gateway_text_check`. -/
def PaymentAttempt.checks (a : PaymentAttempt) : Bool :=
  a.relationshipShapeCheck && a.resolvedStateCheck && a.reviewRequiredAtCheck &&
    a.timestampOrderCheck && a.evidence.textCheck

/-- `billing_set_attempt_review_required_at`, the trigger before every write. -/
def PaymentAttempt.setReviewRequiredAt (now : Timestamp) (a : PaymentAttempt) : PaymentAttempt :=
  if a.status = .reviewRequired ∧ a.reviewRequiredAt = none then
    { a with reviewRequiredAt := some now }
  else a

/-- `UPDATE ... WHERE matched`: the affected row, if any. -/
def PaymentAttempt.update (now : Timestamp) (matched : Bool) (new : PaymentAttempt) :
    Except AttemptWriteError (Option PaymentAttempt) :=
  if matched then
    if (new.setReviewRequiredAt now).checks then .ok (some (new.setReviewRequiredAt now))
    else .error .checkViolation
  else .ok none

/-- A writer that requires one affected row. -/
def requireOneRow (result : Except AttemptWriteError (Option PaymentAttempt)) :
    Except AttemptWriteError PaymentAttempt :=
  match result with
  | .ok (some row) => .ok row
  | .ok none => .error .invalidState
  | .error e => .error e

/-- A writer that accepts that no row is affected. -/
def orUnchanged (a : PaymentAttempt) (result : Except AttemptWriteError (Option PaymentAttempt)) :
    Except AttemptWriteError PaymentAttempt :=
  result.map fun row => row.getD a

/-! ## `persist_attempt_transition` -/

/-- The non-approved statuses that application code may durably record. -/
inductive AttemptResolutionStatus
  | declined | failed | unknown | reviewRequired
  deriving DecidableEq, Repr

/-- `payment_status`. -/
def AttemptResolutionStatus.paymentStatus : AttemptResolutionStatus → PaymentAttemptStatus
  | .declined => .declined
  | .failed => .failed
  | .unknown => .unknown
  | .reviewRequired => .reviewRequired

/-- The linkage that an approval records. -/
inductive AttemptApproval
  | hostCharge
  | subscription (subscriptionId paymentMethodId : Id)
  deriving DecidableEq, Repr

/-- One legal durable application transition. -/
inductive AttemptTransition
  | approved (approval : AttemptApproval)
  | resolved (status : AttemptResolutionStatus) (resolutionCode : Option PaymentResolutionCode)
  | lateApprovalReview (resolutionCode : Option PaymentResolutionCode) (message : String)
  deriving DecidableEq, Repr

/-- The text of a late approval: the message before the processor's text, cut at 512 characters. -/
def lateApprovalText (message : String) (text : Option String) : String :=
  match text with
  | none => message
  | some text => String.ofList ((message ++ " " ++ text).toList.take 512)

/-- The columns of an ordinary transition, `Approved` or `Resolved`. -/
def PaymentAttempt.record (now : Timestamp) (evidence : ProcessorEvidence)
    (status : PaymentAttemptStatus) (resolutionCode : Option PaymentResolutionCode)
    (subscriptionId paymentMethodId : Option Id) (a : PaymentAttempt) : PaymentAttempt :=
  { a with
    status
    subscriptionId := subscriptionId <|> a.subscriptionId
    paymentMethodId := paymentMethodId <|> a.paymentMethodId
    evidence
    resolutionCode
    resolvedAt := if status.isTerminal then some now else a.resolvedAt
    reviewRequiredAt :=
      if status = .reviewRequired then a.reviewRequiredAt <|> some now else a.reviewRequiredAt
    updatedAt := now }

/-- The source states of a transition. Late approved evidence is the sole transition that may
reopen a declined or failed attempt. -/
def AttemptTransition.accepts (transition : AttemptTransition) (status : PaymentAttemptStatus) :
    Bool :=
  match transition with
  | .approved _ | .resolved .. => status.isResolvable
  | .lateApprovalReview .. => status != .approved

/-- The row that a transition stores. -/
def AttemptTransition.row (now : Timestamp) (evidence : ProcessorEvidence)
    (transition : AttemptTransition) (a : PaymentAttempt) : PaymentAttempt :=
  match transition with
  | .approved .hostCharge => a.record now evidence .approved none none none
  | .approved (.subscription subscriptionId paymentMethodId) =>
    a.record now evidence .approved none (some subscriptionId) (some paymentMethodId)
  | .resolved status resolutionCode =>
    a.record now evidence status.paymentStatus resolutionCode none none
  | .lateApprovalReview resolutionCode message =>
    { a with
      status := .reviewRequired
      evidence :=
        { evidence with responseText := some (lateApprovalText message evidence.responseText) }
      resolutionCode
      reviewRequiredAt := a.reviewRequiredAt <|> some now
      updatedAt := now }

/-- `persist_attempt_transition`. -/
def persistAttemptTransition (now : Timestamp) (evidence : ProcessorEvidence)
    (transition : AttemptTransition) (a : PaymentAttempt) :
    Except AttemptWriteError PaymentAttempt :=
  requireOneRow (PaymentAttempt.update now (transition.accepts a.status)
    (transition.row now evidence a))

/-! ## Admission -/

/-- An attempt that is prepared and has not crossed the provider boundary. -/
def PaymentAttempt.isPrepared (a : PaymentAttempt) : Bool :=
  a.status = .pending ∧ a.submittedAt = none

/-- `admit_prepared_attempt`. -/
def admitPreparedAttempt (now : Timestamp) (a : PaymentAttempt) :
    Except AttemptWriteError PaymentAttempt :=
  requireOneRow (PaymentAttempt.update now a.isPrepared
    { a with submittedAt := some now, updatedAt := now })

/-- `reject_prepared_attempt`; also the statement of a retired period. -/
def rejectPreparedAttempt (now : Timestamp) (code : PaymentResolutionCode) (message : String)
    (a : PaymentAttempt) : Except AttemptWriteError PaymentAttempt :=
  orUnchanged a (PaymentAttempt.update now a.isPrepared
    { a with
      status := .failed
      resolutionCode := some code
      evidence := { a.evidence with responseText := some message }
      resolvedAt := a.resolvedAt <|> some now
      updatedAt := now })

/-- `reject_locked_prepared_initial`, and the rejection of a host charge: without a code, and with
the condition `failed`. -/
def rejectLockedPreparedInitial (now : Timestamp) (message : String) (a : PaymentAttempt) :
    Except AttemptWriteError PaymentAttempt :=
  requireOneRow (PaymentAttempt.update now a.isPrepared
    { a with
      status := .failed
      evidence := { a.evidence with responseText := some message, condition := some "failed" }
      resolvedAt := some now
      updatedAt := now })

/-- `restore_prepared_attempt_submission`: the predicate is part of the update, so a concurrent
resolution is not cleared. -/
def restorePreparedAttemptSubmission (now : Timestamp) (a : PaymentAttempt) :
    Except AttemptWriteError PaymentAttempt :=
  requireOneRow (PaymentAttempt.update now (a.status = .pending ∧ a.submittedAt ≠ none)
    { a with submittedAt := none, updatedAt := now })

/-- `clear_resolved_attempt_submission`, whose predicate is only the identity of the row. -/
def clearResolvedAttemptSubmission (now : Timestamp) (a : PaymentAttempt) :
    Except AttemptWriteError PaymentAttempt :=
  requireOneRow (PaymentAttempt.update now true { a with submittedAt := none, updatedAt := now })

/-- A resolution at the boundary `AdmittedNotSubmitted`: the transition and, in the same
transaction, the clearing of the submission. -/
def resolveNotSubmitted (now : Timestamp) (evidence : ProcessorEvidence)
    (status : AttemptResolutionStatus) (code : Option PaymentResolutionCode) (a : PaymentAttempt) :
    Except AttemptWriteError PaymentAttempt := do
  let resolved ← persistAttemptTransition now evidence (.resolved status code) a
  clearResolvedAttemptSubmission now resolved

/-! ## Stale expiry -/

/-- `stale_after_seconds` of the local attempt policy. -/
def staleAfterSeconds : PaymentAttemptKind → ℕ
  | .subscriptionPaymentMethodUpdate => 3 * 60
  | _ => 30 * 60

/-- A local attempt is expirable when it never crossed the provider boundary and its kind's stale
window has elapsed. -/
def PaymentAttempt.isStaleUnsubmitted (now : Timestamp) (a : PaymentAttempt) : Bool :=
  (a.status = .pending ∨ a.status = .reviewRequired) ∧ a.submittedAt = none ∧
    a.createdAt ≤ now - seconds (staleAfterSeconds a.kind)

/-- The columns of an expired attempt; the kinds differ in the text, the code, and in whether an
older resolution time stays. -/
def PaymentAttempt.expired (now : Timestamp) (text : Option String)
    (code : Option PaymentResolutionCode) (resolvedAt : Option Timestamp) (a : PaymentAttempt) :
    PaymentAttempt :=
  { a with
    status := .failed
    resolutionCode := code
    evidence :=
      { a.evidence with
        responseText := text
        condition := a.evidence.condition <|> some "failed" }
    resolvedAt
    updatedAt := now }

/-- `fail_stale_unsubmitted_subscription_charges`. -/
def failStaleUnsubmittedSubscriptionCharge (now : Timestamp) (a : PaymentAttempt) :
    Except AttemptWriteError PaymentAttempt :=
  orUnchanged a (PaymentAttempt.update now (a.isSubscriptionCharge && a.isStaleUnsubmitted now)
    (a.expired now
      (some (if a.kind = .subscriptionRenewal then
        "Subscription renewal was abandoned before gateway submission."
      else "Subscription recovery was abandoned before gateway submission."))
      a.resolutionCode (a.resolvedAt <|> some now)))

/-- `fail_stale_unsubmitted_payment_method_updates`. The reconciliation phase and the cancellation
overwrite an older resolution time, the reservation keeps it. -/
def failStaleUnsubmittedPaymentMethodUpdate (now : Timestamp) (keepResolvedAt : Bool)
    (a : PaymentAttempt) : Except AttemptWriteError PaymentAttempt :=
  orUnchanged a (PaymentAttempt.update now
    (a.kind = .subscriptionPaymentMethodUpdate && a.isStaleUnsubmitted now)
    (a.expired now
      (a.evidence.responseText <|>
        some "Payment method update was abandoned before gateway submission.")
      a.resolutionCode (if keepResolvedAt then a.resolvedAt <|> some now else some now)))

/-- `expire_stale_initial_attempts`. -/
def expireStaleInitialAttempt (now : Timestamp) (a : PaymentAttempt) :
    Except AttemptWriteError PaymentAttempt :=
  orUnchanged a (PaymentAttempt.update now
    (a.kind = .subscriptionInitial && a.isStaleUnsubmitted now)
    (a.expired now
      (a.evidence.responseText <|> some "Prepared checkout expired before processor submission.")
      (a.resolutionCode <|> some .subscriptionInitialPreparedAttemptExpired) (some now)))

/-- The expiry of a stale host charge, once the host has released its target. -/
def failStaleUnsubmittedHostCharge (now : Timestamp) (a : PaymentAttempt) :
    Except AttemptWriteError PaymentAttempt :=
  orUnchanged a (PaymentAttempt.update now (a.kind = .hostCharge && a.isStaleUnsubmitted now)
    (a.expired now (some "Host charge was abandoned before gateway submission.")
      a.resolutionCode (a.resolvedAt <|> some now)))

/-! ## Exact-query reconciliation -/

/-- An authoritative negative exact-query observation. -/
inductive ExactQueryObservation
  | noTransaction | malformedResponse
  deriving DecidableEq, Repr

/-- `EXACT_STALE_AFTER_SECONDS`. -/
def exactStaleAfterSeconds : ℕ := 30 * 60

/-- The three statements of an observation, with their message. -/
inductive ExactQueryWrite
  | fail (message : String)
  | review (message : String)
  | note (message : String)
  deriving DecidableEq, Repr

/-- What an observation decides to write, from the locked row: the match of
`apply_exact_query_observation`. A review-required row goes through the review statement also when
only its claim is kept alive. -/
def exactQueryDecision (now : Timestamp) (observation : ExactQueryObservation)
    (a : PaymentAttempt) : Option ExactQueryWrite :=
  match a.submittedAt with
  | none => none
  | some submittedAt =>
    let stale : Bool := submittedAt ≤ now - seconds exactStaleAfterSeconds
    match observation with
    | .noTransaction =>
      if a.status = .reviewRequired ∧ a.evidence.hasGatewayReference then
        some (.review
          "Payment processor still has not returned a transaction during manual review.")
      else if stale ∧ a.kind = .subscriptionPaymentMethodUpdate ∧
          (a.status = .pending ∨ a.status = .reviewRequired) ∧
          a.evidence.transactionId = none ∧ a.evidence.condition = none then
        some (.fail ("Payment method update was submitted locally but no processor transaction " ++
          "appeared before the reconciliation deadline."))
      else if stale then
        some (.review
          "Payment processor did not return a transaction before the reconciliation deadline.")
      else if a.status = .unknown then
        some (.note "Payment processor has not returned a transaction yet.")
      else none
    | .malformedResponse =>
      if stale then
        some (.review ("Payment processor returned a malformed exact-query response after the " ++
          "reconciliation deadline."))
      else none

/-- `NULLIF(BTRIM(text), '') IS NOT NULL`: a text with a character other than a blank. -/
def textIsPresent (text : Option String) : Bool := text.any fun t => t.toList.any (· ≠ ' ')

/-- `apply_exact_query_observation`. -/
def applyExactQueryObservation (now : Timestamp) (observation : ExactQueryObservation)
    (a : PaymentAttempt) : Except AttemptWriteError PaymentAttempt :=
  match exactQueryDecision now observation a with
  | none => .ok a
  | some (.fail message) =>
    orUnchanged a (PaymentAttempt.update now (a.status = .pending ∨ a.status = .reviewRequired)
      (a.expired now (some message) a.resolutionCode (some now)))
  | some (.review message) =>
    orUnchanged a (PaymentAttempt.update now a.status.isResolvable
      { a with
        status := .reviewRequired
        evidence :=
          { a.evidence with
            responseText :=
              if a.status = .reviewRequired ∧ textIsPresent a.evidence.responseText then
                a.evidence.responseText
              else some message }
        updatedAt := now })
  | some (.note message) =>
    orUnchanged a (PaymentAttempt.update now true
      { a with
        evidence := { a.evidence with responseText := some message }
        updatedAt := now })

/-- The claim of a reconciliation phase, which renews only `updated_at`. -/
def claimForReconciliation (now : Timestamp) (a : PaymentAttempt) :
    Except AttemptWriteError PaymentAttempt :=
  orUnchanged a (PaymentAttempt.update now true { a with updatedAt := now })

/-! ## The operator -/

/-- `update_attempt_for_manual_failure`. -/
def updateAttemptForManualFailure (now : Timestamp) (evidence : ProcessorEvidence)
    (a : PaymentAttempt) : Except AttemptWriteError PaymentAttempt :=
  requireOneRow (PaymentAttempt.update now (a.status = .reviewRequired)
    { a with
      status := .failed
      evidence
      resolvedAt := some now
      updatedAt := now })

/-- The attempt's side of `attest_external_reversal` of its primary charge: an attempt that is not
terminal fails with the final code. -/
def failReversedAttempt (attestedAt : Timestamp) (finalCode : PaymentResolutionCode)
    (a : PaymentAttempt) : Except AttemptWriteError PaymentAttempt :=
  if a.status.isTerminal then .ok a
  else
    requireOneRow (PaymentAttempt.update attestedAt true
      { a with
        status := .failed
        resolutionCode := some finalCode
        resolvedAt := some attestedAt
        updatedAt := attestedAt })

/-! ## The writers together -/

/-- The writers of a payment attempt. -/
inductive AttemptWriter
  | persist (evidence : ProcessorEvidence) (transition : AttemptTransition)
  | admitPrepared
  | reject (code : PaymentResolutionCode) (message : String)
  | rejectInitial (message : String)
  | restore
  | resolveNotSubmitted (evidence : ProcessorEvidence) (status : AttemptResolutionStatus)
      (code : Option PaymentResolutionCode)
  | expireSubscriptionCharge
  | expirePaymentMethodUpdate (keepResolvedAt : Bool)
  | expireInitial
  | expireHostCharge
  | observe (observation : ExactQueryObservation)
  | claim
  | manualFailure (evidence : ProcessorEvidence)
  | attest (finalCode : PaymentResolutionCode)
  deriving DecidableEq, Repr

/-- A writer at the time `now`. -/
def AttemptWriter.write (now : Timestamp) (w : AttemptWriter) (a : PaymentAttempt) :
    Except AttemptWriteError PaymentAttempt :=
  match w with
  | .persist evidence transition => persistAttemptTransition now evidence transition a
  | .admitPrepared => admitPreparedAttempt now a
  | .reject code message => rejectPreparedAttempt now code message a
  | .rejectInitial message => rejectLockedPreparedInitial now message a
  | .restore => restorePreparedAttemptSubmission now a
  | .resolveNotSubmitted evidence status code =>
    SyrupRail.resolveNotSubmitted now evidence status code a
  | .expireSubscriptionCharge => failStaleUnsubmittedSubscriptionCharge now a
  | .expirePaymentMethodUpdate keep => failStaleUnsubmittedPaymentMethodUpdate now keep a
  | .expireInitial => expireStaleInitialAttempt now a
  | .expireHostCharge => failStaleUnsubmittedHostCharge now a
  | .observe observation => applyExactQueryObservation now observation a
  | .claim => claimForReconciliation now a
  | .manualFailure evidence => updateAttemptForManualFailure now evidence a
  | .attest finalCode => failReversedAttempt now finalCode a

end SyrupRail
