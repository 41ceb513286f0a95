import Mathlib.Algebra.Order.BigOperators.Group.List
import Mathlib.Data.Int.SuccPred
import Mathlib.Data.Int.ConditionallyCompleteOrder
import SyrupRail.Lifecycle.Transition
import SyrupRail.Nmi.Amount
import SyrupRail.Nmi.Decision

/-!
# The lifecycle of a report

A report of NMI names a transaction and lists its actions: a sale, a capture, refunds, a return.
`admit_report` reads the settlement state and the refunded cents from them, or quarantines the
report.

The loop over the refunds is specified once (`sumRefunds_spec`): it ends with the sum of their
cents, or with one of two reasons. `validatedRefundEvidence_spec` adds the captured amount, and
`lifecycleFromReport` is then read case by case: a return, a refund, a void, and else the condition
of the report.
-/

namespace SyrupRail.Nmi

open RustText

/-! ## The code -/

/-- `NmiAction`, by the texts of its diagnostics. -/
structure NmiAction where
  actionType : Option String
  date : Option String
  amount : Option String
  success : Option String
  deriving DecidableEq, Repr

/-- `NmiReport`. -/
structure NmiReport where
  transactionId : Option String
  orderId : Option String
  condition : Option String
  actions : List NmiAction
  malformedStructure : Bool
  deriving DecidableEq, Repr

/-- `GatewayLifecycleQuarantineReason`. -/
inductive QuarantineReason
  | ambiguousReversalSuccess | invalidRefundEconomics | malformedReportStructure
  deriving DecidableEq, Repr

/-- `GatewayLifecycleEvidence`: it names a transaction or an order. -/
structure GatewayLifecycleEvidence where
  transactionId : Option String
  orderId : Option String
  state : GatewayLifecycleState
  condition : Option String
  action : Option String
  effectiveAt : Option Timestamp
  located : transactionId.isSome ∨ orderId.isSome
  deriving DecidableEq

/-- `GatewayLifecycleQuarantine`: without a locator only a malformed report is quarantined. -/
structure GatewayLifecycleQuarantine where
  transactionId : Option String
  orderId : Option String
  reason : QuarantineReason
  located : transactionId.isSome ∨ orderId.isSome ∨ reason = .malformedReportStructure
  deriving DecidableEq

/-- `MissingLocator`, of both constructors. -/
inductive LocatorError
  | missingLocator
  deriving DecidableEq, Repr

/-- `GatewayLifecycleEvidence::new`. -/
def GatewayLifecycleEvidence.new (transactionId orderId : Option String)
    (state : GatewayLifecycleState) (condition action : Option String)
    (effectiveAt : Option Timestamp) :
    Except LocatorError GatewayLifecycleEvidence :=
  if h : transactionId.isSome ∨ orderId.isSome then
    .ok ⟨transactionId, orderId, state, condition, action, effectiveAt, h⟩
  else .error .missingLocator

/-- `GatewayLifecycleQuarantine::new`. -/
def GatewayLifecycleQuarantine.new (transactionId orderId : Option String)
    (reason : QuarantineReason) : Except LocatorError GatewayLifecycleQuarantine :=
  if h : transactionId.isSome ∨ orderId.isSome ∨ reason = .malformedReportStructure then
    .ok ⟨transactionId, orderId, reason, h⟩
  else .error .missingLocator

/-- `GatewayTransactionReport`. -/
inductive GatewayTransactionReport
  | ignore
  | evidence (evidence : GatewayLifecycleEvidence)
  | quarantine (quarantine : GatewayLifecycleQuarantine)
  deriving DecidableEq

/-- `ActionSuccess`. -/
inductive ActionSuccess
  | successful | failed | ambiguous
  deriving DecidableEq, Repr

/-- `RefundEvidence`; both amounts are positive `i32`. -/
structure RefundEvidence where
  refundedAmountCents : ℕ
  capturedAmountCents : ℕ
  deriving DecidableEq, Repr

/-- `InterpretedLifecycle`. -/
structure InterpretedLifecycle where
  state : GatewayLifecycleState
  action : Option String
  effectiveAt : Option Timestamp
  deriving DecidableEq, Repr

/-- `action_success`; `eq_ignore_ascii_case` compares with a text in lower case. -/
def actionSuccess (action : NmiAction) : ActionSuccess :=
  match action.success.map trim with
  | none => .ambiguous
  | some success =>
    if success = "1" then .successful
    else if toAsciiLowercase success = "true" then .successful
    else if success = "0" then .failed
    else if toAsciiLowercase success = "false" then .failed
    else .ambiguous

/-- `action_is_successful`: here an action without a mark counts. -/
def actionIsSuccessful (action : NmiAction) : Bool :=
  match actionSuccess action with
  | .successful => true
  | .failed => false
  | .ambiguous => action.success.isNone

/-- Whether the normalized type of an action is one of these. -/
def hasType (actionTypes : List String) (action : NmiAction) : Bool :=
  (action.actionType.map normalizeGatewayState).any (actionTypes.contains ·)

/-- `action_amount_cents`, of the action. -/
def actionCents (action : NmiAction) : Option ℤ := action.amount.bind actionAmountCents

/-- `i64::checked_abs`. -/
def checkedAbs (amount : ℤ) : Option ℕ := checkedI64 amount.natAbs

/-- `i32::try_from` of a number that is not negative. -/
def toI32 (amount : ℕ) : Option ℕ := if amount ≤ 2147483647 then some amount else none

/-- `CumulativeRefundCents::new`. -/
def cumulativeRefundCents (cents : ℕ) : Option ℕ := if cents = 0 then none else some cents

/-- The loop of `validated_refund_evidence`: the total so far and whether a refund succeeded. -/
def sumRefunds : List NmiAction → ℕ → Bool → Except QuarantineReason (ℕ × Bool)
  | [], total, seen => .ok (total, seen)
  | action :: rest, total, seen =>
    if hasType ["refund", "credit"] action then
      match actionSuccess action with
      | .successful =>
        match ((actionCents action).bind checkedAbs).filter (0 < ·) with
        | none => .error .invalidRefundEconomics
        | some amount =>
          match checkedI64 (total + amount) with
          | none => .error .invalidRefundEconomics
          | some total => sumRefunds rest total true
      | .failed => sumRefunds rest total seen
      | .ambiguous => .error .ambiguousReversalSuccess
    else sumRefunds rest total seen

/-- `validate_return_or_void_action_success`. -/
def validateReturnOrVoidActionSuccess (report : NmiReport) : Except QuarantineReason Unit :=
  if report.actions.any fun action => hasType ["return", "void"] action &&
      actionSuccess action == .ambiguous then
    .error .ambiguousReversalSuccess
  else .ok ()

/-- `NaiveDateTime::parse_from_str` of the calendar library, with the format `%Y%m%d%H%M%S`. -/
abbrev DateParser := String → Option Timestamp

variable (parse : DateParser)

/-- `action_date`. -/
def actionDate (action : NmiAction) : Option Timestamp :=
  action.date.bind fun date => parse (trim date)

/-- The order of `Option<DateTime<Utc>>`, where an action without a date is the earliest. -/
def dateKey (action : NmiAction) : WithBot Timestamp := actionDate parse action

/-- The comparison of that order. -/
def dateLt : Option Timestamp → Option Timestamp → Bool
  | none, some _ => true
  | some t, some t' => t < t'
  | _, none => false

/-- One step of `max_by_key`: an action replaces one that is not later. -/
def laterAction (best : Option NmiAction) (action : NmiAction) : Option NmiAction :=
  match best with
  | none => some action
  | some earlier =>
    if dateLt (actionDate parse action) (actionDate parse earlier) then some earlier
      else some action

/-- `max_by_key(action_date)`: of the latest actions the last one. -/
def latest (actions : List NmiAction) : Option NmiAction := actions.foldl (laterAction parse) none

/-- `latest_successful_action`. -/
def latestSuccessfulAction (report : NmiReport) : Option NmiAction :=
  latest parse (report.actions.filter actionIsSuccessful)

/-- `latest_matching_action`. -/
def latestMatchingAction (report : NmiReport) (actionTypes : List String) : Option NmiAction :=
  latest parse ((report.actions.filter actionIsSuccessful).filter (hasType actionTypes))

/-- The captured amount of `validated_refund_evidence`. -/
def capturedAmountCents (report : NmiReport) : Option ℕ :=
  (((latestMatchingAction parse report ["settle", "capture", "sale"]).bind actionCents).filter
    (0 < ·)).bind fun amount => toI32 amount.toNat

/-- `validated_refund_evidence`. -/
def validatedRefundEvidence (report : NmiReport) :
    Except QuarantineReason (Option RefundEvidence) := do
  let (total, seen) ← sumRefunds report.actions 0 false
  if !seen then return none
  match toI32 total, capturedAmountCents parse report with
  | some refunded, some captured =>
    if captured < refunded then throw .invalidRefundEconomics
    return some ⟨refunded, captured⟩
  | _, _ => throw .invalidRefundEconomics

/-- `lifecycle_from_action`. -/
def lifecycleFromAction (state : GatewayLifecycleState) (action : NmiAction) :
    InterpretedLifecycle :=
  ⟨state, action.actionType, actionDate parse action⟩

/-- A state with the action that is named for it, when there is one. -/
def lifecycleFromCondition (state : GatewayLifecycleState) (action : Option NmiAction) :
    InterpretedLifecycle :=
  ⟨state, action.bind (·.actionType), action.bind (actionDate parse)⟩

/-- The end of `lifecycle_from_report`, for a report without a return, a refund, or a void. -/
def lifecycleWithoutReversal (report : NmiReport) (refund : Option RefundEvidence) :
    Except QuarantineReason InterpretedLifecycle :=
  let latestSuccessful := latestSuccessfulAction parse report
  match report.condition.map normalizeGatewayState with
  | none =>
    match latestMatchingAction parse report ["settle"] with
    | some action => .ok (lifecycleFromAction parse (.settled none) action)
    | none => .ok (lifecycleFromCondition parse .unknown latestSuccessful)
  | some condition =>
    if condition = "chargeback" then
      .ok (lifecycleFromCondition parse
        (.chargeback
          (refund.bind fun evidence => cumulativeRefundCents evidence.refundedAmountCents))
        latestSuccessful)
    else if condition = "refunded" then .error .invalidRefundEconomics
    else if condition = "canceled" ∨ condition = "voided" then
      .ok (lifecycleFromCondition parse .voided latestSuccessful)
    else if condition = "complete" ∨ condition = "completed" then
      .ok (lifecycleFromCondition parse (.settled none)
        ((latestMatchingAction parse report ["settle"]).or latestSuccessful))
    else if condition = "pendingsettlement" then
      .ok (lifecycleFromCondition parse .pendingSettlement latestSuccessful)
    else .ok (lifecycleFromCondition parse .unknown latestSuccessful)

/-- The state of a report whose latest refund is this. -/
def refundState (refund : Option RefundEvidence) : Except QuarantineReason GatewayLifecycleState :=
  match refund with
  | none => .error .invalidRefundEconomics
  | some evidence =>
    match cumulativeRefundCents evidence.refundedAmountCents with
    | none => .error .invalidRefundEconomics
    | some refunded =>
      .ok (if evidence.refundedAmountCents < evidence.capturedAmountCents
        then .settled (some refunded) else .refunded refunded)

/-- `lifecycle_from_report`. -/
def lifecycleFromReport (report : NmiReport) : Except QuarantineReason InterpretedLifecycle := do
  validateReturnOrVoidActionSuccess report
  let refund ← validatedRefundEvidence parse report
  match latestMatchingAction parse report ["return"] with
  | some action =>
    return lifecycleFromAction parse
      (.chargeback (refund.bind fun evidence => cumulativeRefundCents evidence.refundedAmountCents))
        action
  | none =>
    match latestMatchingAction parse report ["refund", "credit"] with
    | some action => return lifecycleFromAction parse (← refundState refund) action
    | none =>
      match latestMatchingAction parse report ["void"] with
      | some action => return lifecycleFromAction parse .voided action
      | none => lifecycleWithoutReversal parse report refund

/-- `Result::expect`; the error is the text of the panic. -/
def expect {ε α : Type} (message : String) : Except ε α → Except String α
  | .ok a => .ok a
  | .error _ => .error message

/-- `admit_report`; an error is a panic. -/
def admitReport (report : NmiReport) : Except String GatewayTransactionReport :=
  if report.malformedStructure then
    .quarantine <$> expect "malformed reports may be quarantined without a locator"
      (GatewayLifecycleQuarantine.new report.transactionId report.orderId .malformedReportStructure)
  else if report.transactionId.isNone && report.orderId.isNone then .ok .ignore
  else
    match lifecycleFromReport parse report with
    | .ok lifecycle =>
      .evidence <$> expect "identified NMI report produces located lifecycle evidence"
        (GatewayLifecycleEvidence.new report.transactionId report.orderId lifecycle.state
          report.condition lifecycle.action lifecycle.effectiveAt)
    | .error reason =>
      .quarantine <$> expect "semantic NMI quarantine retains a safe locator"
        (GatewayLifecycleQuarantine.new report.transactionId report.orderId reason)

/-! ## The refunds of a report -/

/-- A refund or a credit. -/
abbrev isRefund (action : NmiAction) : Bool := hasType ["refund", "credit"] action

/-- A refund or a credit that succeeded. -/
def refundSucceeded (action : NmiAction) : Bool :=
  isRefund action && actionSuccess action == .successful

/-- The absolute cents of an action. -/
def absoluteCents (action : NmiAction) : ℕ := ((actionCents action).getD 0).natAbs

/-- The sum of the absolute cents of the refunds and credits that succeeded. -/
def refundedCents (actions : List NmiAction) : ℕ :=
  ((actions.filter refundSucceeded).map absoluteCents).sum

/-- Some refund or credit neither succeeded nor failed. -/
def AmbiguousRefund (actions : List NmiAction) : Prop :=
  ∃ action ∈ actions, isRefund action = true ∧ actionSuccess action = .ambiguous

/-- Every refund or credit that succeeded has an amount other than zero. -/
def ReadableRefunds (actions : List NmiAction) : Prop :=
  ∀ action ∈ actions, refundSucceeded action = true → ∃ cents, actionCents action = some cents ∧
    cents ≠ 0

/-- An amount that is read fits an `i64`. -/
theorem natAbs_le_of_actionAmountCents {amount : String} {cents : ℤ}
    (h : actionAmountCents amount = some cents) : cents.natAbs ≤ maxI64 := by
  unfold actionAmountCents at h
  dsimp only at h
  split at h
  · cases h
  · split at h
    · cases h
    · simp only [Option.bind_eq_bind, Option.bind_eq_some_iff] at h
      obtain ⟨_, _, _, _, total, htotal, hcents⟩ := h
      have hfits : total ≤ maxI64 := by
        unfold checkedI64 at htotal
        split_ifs at htotal with hfits
        cases htotal
        exact hfits
      cases hcents
      split_ifs
      · rwa [Int.natAbs_neg, Int.natAbs_natCast]
      · rwa [Int.natAbs_natCast]

/-- The amount that the loop adds. -/
theorem added_amount (action : NmiAction) :
    ((actionCents action).bind checkedAbs).filter (0 < ·) =
      if absoluteCents action = 0 then none else some (absoluteCents action) := by
  cases hcents : actionCents action with
  | none =>
    have hzero : absoluteCents action = 0 := by
      unfold absoluteCents
      rw [hcents]
      rfl
    rw [if_pos hzero]
    rfl
  | some cents =>
    have habs : absoluteCents action = cents.natAbs := by
      unfold absoluteCents
      rw [hcents]
      rfl
    have hfits : checkedAbs cents = some cents.natAbs := by
      unfold actionCents at hcents
      obtain ⟨amount, -, hread⟩ := Option.bind_eq_some_iff.mp hcents
      exact if_pos (natAbs_le_of_actionAmountCents hread)
    rw [Option.bind_some, hfits, habs]
    split_ifs with hzero
    · rw [Option.filter_some_neg (by simp [hzero])]
    · rw [Option.filter_some_pos (by simp; omega)]

/-- An amount is readable exactly when its absolute cents are not zero. -/
theorem absoluteCents_ne_zero {action : NmiAction} :
    absoluteCents action ≠ 0 ↔ ∃ cents, actionCents action = some cents ∧ cents ≠ 0 := by
  unfold absoluteCents
  cases actionCents action with
  | none => simp
  | some cents => simp

/-- How the loop may end: with the sum, or with a reason that holds. -/
def RefundsRead (actions : List NmiAction) (total : ℕ) (seen : Bool) :
    Except QuarantineReason (ℕ × Bool) → Prop
  | .ok result => ¬ AmbiguousRefund actions ∧ ReadableRefunds actions ∧
      total + refundedCents actions ≤ maxI64 ∧
      result = (total + refundedCents actions, seen || actions.any refundSucceeded)
  | .error .ambiguousReversalSuccess => AmbiguousRefund actions
  | .error .invalidRefundEconomics =>
      ¬ (ReadableRefunds actions ∧ total + refundedCents actions ≤ maxI64)
  | .error .malformedReportStructure => False

/-- An action that is no refund, or failed, changes nothing. -/
theorem RefundsRead.skip {action : NmiAction} {rest : List NmiAction} {total : ℕ} {seen : Bool}
    {result : Except QuarantineReason (ℕ × Bool)} (h : RefundsRead rest total seen result)
    (hskip : isRefund action = false ∨ actionSuccess action = .failed) :
    RefundsRead (action :: rest) total seen result := by
  have hnot : refundSucceeded action = false := by
    unfold refundSucceeded
    rcases hskip with hskip | hskip <;> simp [hskip]
  have hambiguous : AmbiguousRefund (action :: rest) ↔ AmbiguousRefund rest := by
    unfold AmbiguousRefund
    rw [List.exists_mem_cons_iff]
    rcases hskip with hskip | hskip <;> simp [hskip]
  have hreadable : ReadableRefunds (action :: rest) ↔ ReadableRefunds rest := by
    unfold ReadableRefunds
    rw [List.forall_mem_cons]
    simp [hnot]
  have hcents : refundedCents (action :: rest) = refundedCents rest := by
    unfold refundedCents
    rw [List.filter_cons_of_neg (by simp [hnot])]
  unfold RefundsRead at h ⊢
  rw [hambiguous, hreadable, hcents, List.any_cons, hnot, Bool.false_or]
  exact h

/-- A refund that succeeded is added. -/
theorem RefundsRead.add {action : NmiAction} {rest : List NmiAction} {total : ℕ} {seen : Bool}
    {result : Except QuarantineReason (ℕ × Bool)} (hsucceeded : refundSucceeded action = true)
    (hcents : absoluteCents action ≠ 0)
    (h : RefundsRead rest (total + absoluteCents action) true result) :
    RefundsRead (action :: rest) total seen result := by
  have hunambiguous : AmbiguousRefund (action :: rest) ↔ AmbiguousRefund rest := by
    unfold refundSucceeded at hsucceeded
    rw [Bool.and_eq_true, beq_iff_eq] at hsucceeded
    unfold AmbiguousRefund
    rw [List.exists_mem_cons_iff]
    simp [hsucceeded.2]
  have hreadable : ReadableRefunds (action :: rest) ↔ ReadableRefunds rest := by
    unfold ReadableRefunds
    rw [List.forall_mem_cons]
    exact and_iff_right fun _ => absoluteCents_ne_zero.mp hcents
  have hsum : total + refundedCents (action :: rest) =
      total + absoluteCents action + refundedCents rest := by
    unfold refundedCents
    rw [List.filter_cons_of_pos hsucceeded, List.map_cons, List.sum_cons, Nat.add_assoc]
  unfold RefundsRead at h ⊢
  rw [hunambiguous, hreadable, hsum, List.any_cons, hsucceeded, Bool.true_or, Bool.or_true]
  rwa [Bool.true_or] at h

/-- The loop over the refunds: what is read of the first action decides, or the rest does. -/
theorem sumRefunds_spec (actions : List NmiAction) {total : ℕ} (htotal : total ≤ maxI64)
    (seen : Bool) : RefundsRead actions total seen (sumRefunds actions total seen) := by
  induction actions generalizing total seen with
  | nil =>
    refine ⟨by simp [AmbiguousRefund], by simp [ReadableRefunds], ?_, ?_⟩
    · simpa [refundedCents] using htotal
    · simp [refundedCents]
  | cons action rest ih =>
    unfold sumRefunds
    by_cases hrefund : isRefund action = true
    · rw [if_pos hrefund]
      cases hsuccess : actionSuccess action with
      | failed => exact (ih htotal seen).skip (.inr hsuccess)
      | ambiguous => exact ⟨action, List.mem_cons_self, hrefund, hsuccess⟩
      | successful =>
        have hsucceeded : refundSucceeded action = true := by
          unfold refundSucceeded
          rw [hrefund, hsuccess]
          rfl
        rw [added_amount]
        by_cases hzero : absoluteCents action = 0
        · rw [if_pos hzero]
          exact fun h => absoluteCents_ne_zero.mpr (h.1 action List.mem_cons_self hsucceeded) hzero
        · rw [if_neg hzero]
          dsimp only
          unfold checkedI64
          by_cases hfits : total + absoluteCents action ≤ maxI64
          · rw [if_pos hfits]
            exact (ih hfits true).add hsucceeded hzero
          · -- The sum of all of them is larger still.
            rw [if_neg hfits]
            intro h
            have hsum := h.2
            unfold refundedCents at hsum
            rw [List.filter_cons_of_pos hsucceeded, List.map_cons, List.sum_cons] at hsum
            omega
    · rw [if_neg hrefund]
      exact (ih htotal seen).skip (.inl (by simpa using hrefund))

/-! ## The latest action -/

/-- The latest of the actions with a property, and of the latest the last. -/
def LatestAmong (p : NmiAction → Bool) (actions : List NmiAction) (action : NmiAction) : Prop :=
  ∃ before after, actions = before ++ action :: after ∧ p action = true ∧
    (∀ a ∈ before, p a = true → dateKey parse a ≤ dateKey parse action) ∧
    ∀ a ∈ after, p a = true → dateKey parse a < dateKey parse action

/-- The last action is the latest unless an earlier one has a later date. -/
theorem latest_append_singleton (actions : List NmiAction) (action : NmiAction) :
    latest parse (actions ++ [action]) =
      match latest parse actions with
      | none => some action
      | some earlier =>
        if dateLt (actionDate parse action) (actionDate parse earlier) then some earlier
        else some action := by
  unfold latest
  rw [List.foldl_append]
  rfl

/-- The comparison is that of the keys. -/
theorem dateLt_iff {a b : NmiAction} :
    dateLt (actionDate parse a) (actionDate parse b) = true ↔
      dateKey parse a < dateKey parse b := by
  unfold dateKey
  cases actionDate parse a with
  | none =>
    cases actionDate parse b with
    | none => exact iff_of_false (by simp [dateLt]) (lt_irrefl (⊥ : WithBot ℤ))
    | some t => exact iff_of_true rfl (WithBot.bot_lt_coe t)
  | some t =>
    cases actionDate parse b with
    | none => exact iff_of_false (by simp [dateLt]) (not_lt_bot (a := (t : WithBot ℤ)))
    | some t' => exact decide_eq_true_iff.trans (WithBot.coe_lt_coe (a := t) (b := t')).symm

/-- Only the empty list has no latest action. -/
theorem latest_eq_none {actions : List NmiAction} : latest parse actions = none ↔ actions = [] := by
  rcases List.eq_nil_or_concat actions with rfl | ⟨earlier, action, rfl⟩
  · exact iff_of_true rfl rfl
  · rw [List.concat_eq_append, latest_append_singleton]
    refine iff_of_false ?_ (by simp)
    split
    · simp
    · split_ifs <;> simp

/-- What the selection of the latest action returns. The list grows at its end, as the iterator
reads it. -/
theorem latestAmong_of_latest {p : NmiAction → Bool} {actions : List NmiAction} {action : NmiAction}
    (h : latest parse (actions.filter p) = some action) : LatestAmong parse p actions action := by
  induction actions using List.reverseRecOn generalizing action with
  | nil => simp [latest] at h
  | append_singleton actions last ih =>
    rw [List.filter_append] at h
    by_cases hlast : p last = true
    · rw [List.filter_cons_of_pos hlast, List.filter_nil, latest_append_singleton] at h
      cases hlatest : latest parse (actions.filter p) with
      | none =>
        rw [hlatest] at h
        cases h
        have hnil := (latest_eq_none parse).mp hlatest
        refine ⟨actions, [], rfl, hlast, fun a ha hp => ?_, by simp⟩
        exact absurd (hnil ▸ List.mem_filter.mpr ⟨ha, hp⟩) (by simp)
      | some earlier =>
        obtain ⟨before, after, hsplit, hearlier, hbefore, hafter⟩ := ih hlatest
        rw [hlatest] at h
        dsimp only at h
        split_ifs at h with hlt
        · cases h
          refine ⟨before, after ++ [last], by simp [hsplit], hearlier, hbefore, fun a ha hp => ?_⟩
          rcases List.mem_append.mp ha with ha | ha
          · exact hafter a ha hp
          · rw [List.mem_singleton.mp ha]
            exact (dateLt_iff parse).mp hlt
        · cases h
          refine ⟨actions, [], rfl, hlast, fun a ha hp => ?_, by simp⟩
          have hle : dateKey parse a ≤ dateKey parse earlier := by
            rw [hsplit, List.mem_append, List.mem_cons] at ha
            rcases ha with ha | rfl | ha
            · exact hbefore a ha hp
            · exact le_rfl
            · exact (hafter a ha hp).le
          exact hle.trans (not_lt.mp fun h => hlt ((dateLt_iff parse).mpr h))
    · rw [List.filter_cons_of_neg hlast, List.filter_nil, List.append_nil] at h
      obtain ⟨before, after, hsplit, haction, hbefore, hafter⟩ := ih h
      refine ⟨before, after ++ [last], by simp [hsplit], haction, hbefore, fun a ha hp => ?_⟩
      rcases List.mem_append.mp ha with ha | ha
      · exact hafter a ha hp
      · rw [List.mem_singleton.mp ha] at hp
        exact absurd hp hlast

/-- No action is later than the latest. -/
theorem mem_and_le_of_latest {actions : List NmiAction} {action : NmiAction}
    (h : latest parse actions = some action) :
    action ∈ actions ∧ ∀ a ∈ actions, dateKey parse a ≤ dateKey parse action := by
  rw [← List.filter_true actions] at h
  obtain ⟨before, after, hsplit, -, hbefore, hafter⟩ := latestAmong_of_latest parse h
  rw [hsplit]
  refine ⟨by simp, fun a ha => ?_⟩
  rw [List.mem_append, List.mem_cons] at ha
  rcases ha with ha | rfl | ha
  · exact hbefore a ha rfl
  · exact le_rfl
  · exact (hafter a ha rfl).le

/-- Two latest actions are one. -/
theorem LatestAmong.unique {p : NmiAction → Bool} {actions : List NmiAction}
    {action action' : NmiAction} (h : LatestAmong parse p actions action)
    (h' : LatestAmong parse p actions action') :
    action = action' := by
  obtain ⟨before, after, hsplit, haction, hbefore, hafter⟩ := h
  obtain ⟨before', after', hsplit', haction', hbefore', hafter'⟩ := h'
  rw [hsplit] at hsplit'
  rcases List.append_eq_append_iff.mp hsplit' with ⟨between, rfl, htail⟩ | ⟨between, rfl, htail⟩
  · rcases List.cons_eq_append_iff.mp htail with ⟨-, hcons⟩ | ⟨rest, rfl, hrest⟩
    · exact (List.cons.inj hcons).1.symm
    · have hle := hbefore' action (by simp) haction
      have hlt := hafter action' (by simp [hrest]) haction'
      exact absurd hlt (not_lt.mpr hle)
  · rcases List.cons_eq_append_iff.mp htail with ⟨-, hcons⟩ | ⟨rest, rfl, hrest⟩
    · exact (List.cons.inj hcons).1
    · have hle := hbefore action' (by simp) haction'
      have hlt := hafter' action (by simp [hrest]) haction
      exact absurd hlt (not_lt.mpr hle)

/-- The actions that `latest_matching_action` chooses from. -/
def matchingAction (actionTypes : List String) (action : NmiAction) : Bool :=
  hasType actionTypes action && actionIsSuccessful action

/-- `latest_matching_action` chooses from the matching actions. -/
theorem latestMatchingAction_eq (report : NmiReport) (actionTypes : List String) :
    latestMatchingAction parse report actionTypes =
      latest parse (report.actions.filter (matchingAction actionTypes)) := by
  unfold latestMatchingAction matchingAction
  rw [List.filter_filter]

/-- There is a latest matching action exactly when there is a matching one. -/
theorem latestMatchingAction_eq_none {report : NmiReport} {actionTypes : List String} :
    latestMatchingAction parse report actionTypes = none ↔
      ∀ action ∈ report.actions, matchingAction actionTypes action = false := by
  rw [latestMatchingAction_eq, latest_eq_none, List.filter_eq_nil_iff]
  simp

/-- The latest matching action is the one the selection returns. -/
theorem latestMatchingAction_eq_some {report : NmiReport} {actionTypes : List String}
    {action : NmiAction} : latestMatchingAction parse report actionTypes = some action ↔
      LatestAmong parse (matchingAction actionTypes) report.actions action := by
  constructor
  · intro h
    rw [latestMatchingAction_eq] at h
    exact latestAmong_of_latest parse h
  · intro h
    cases hlatest : latestMatchingAction parse report actionTypes with
    | none =>
      obtain ⟨before, after, hsplit, haction, -, -⟩ := h
      have hnone := (latestMatchingAction_eq_none parse).mp hlatest action (by simp [hsplit])
      rw [haction] at hnone
      cases hnone
    | some action' =>
      rw [latestMatchingAction_eq] at hlatest
      rw [(latestAmong_of_latest parse hlatest).unique parse h]

/-! ## The refunded cents -/

/-- The types of the actions that capture an amount. -/
abbrev captureTypes : List String := ["settle", "capture", "sale"]

/-- The captured amount is that of the latest capture, when it is positive and fits an `i32`. -/
theorem capturedAmountCents_eq_some {report : NmiReport} {captured : ℕ} :
    capturedAmountCents parse report = some captured ↔
      ∃ action, LatestAmong parse (matchingAction captureTypes) report.actions action ∧
        actionCents action = some (captured : ℤ) ∧ 0 < captured ∧ captured ≤ 2147483647 := by
  unfold capturedAmountCents
  simp only [Option.bind_eq_some_iff, Option.filter_eq_some_iff, latestMatchingAction_eq_some,
    decide_eq_true_eq]
  constructor
  · rintro ⟨amount, ⟨⟨action, hlatest, hcents⟩, hpos⟩, hfits⟩
    unfold toI32 at hfits
    split_ifs at hfits with hmax
    cases hfits
    refine ⟨action, hlatest, ?_, by omega, hmax⟩
    rw [hcents, Int.toNat_of_nonneg hpos.le]
  · rintro ⟨action, hlatest, hcents, hpos, hmax⟩
    refine ⟨captured, ⟨⟨action, hlatest, hcents⟩, by omega⟩, ?_⟩
    exact if_pos (by simpa using hmax)

/-- What the refunds of a report must be to count: each has an amount, and the sum fits and is at
most the captured amount. -/
def RefundsCount (report : NmiReport) (captured : ℕ) : Prop :=
  ReadableRefunds report.actions ∧ refundedCents report.actions ≤ 2147483647 ∧
    capturedAmountCents parse report = some captured ∧ refundedCents report.actions ≤ captured

/-- How `validated_refund_evidence` may end. -/
def RefundValidated (report : NmiReport) : Except QuarantineReason (Option RefundEvidence) → Prop
  | .ok none => ¬ AmbiguousRefund report.actions ∧ report.actions.any refundSucceeded = false
  | .ok (some evidence) => ¬ AmbiguousRefund report.actions ∧
      report.actions.any refundSucceeded = true ∧
      RefundsCount parse report evidence.capturedAmountCents ∧
      evidence.refundedAmountCents = refundedCents report.actions
  | .error .ambiguousReversalSuccess => AmbiguousRefund report.actions
  | .error .invalidRefundEconomics => report.actions.any refundSucceeded = true ∧
      ¬ ∃ captured, RefundsCount parse report captured
  | .error .malformedReportStructure => False

/-- Without a refund that succeeded nothing is refunded. -/
theorem refundedCents_eq_zero {actions : List NmiAction} (h : actions.any refundSucceeded = false) :
    ReadableRefunds actions ∧ refundedCents actions = 0 := by
  rw [List.any_eq_false] at h
  constructor
  · exact fun action ha hsucceeded => absurd hsucceeded (h action ha)
  · unfold refundedCents
    rw [List.filter_eq_nil_iff.mpr h]
    rfl

/-- What `validated_refund_evidence` returns. -/
theorem validatedRefundEvidence_spec (report : NmiReport) :
    RefundValidated parse report (validatedRefundEvidence parse report) := by
  have hread := sumRefunds_spec report.actions (Nat.zero_le maxI64) false
  unfold validatedRefundEvidence
  cases hsum : sumRefunds report.actions 0 false with
  | error reason =>
    rw [hsum] at hread
    cases reason with
    | ambiguousReversalSuccess => exact hread
    | malformedReportStructure => exact hread
    | invalidRefundEconomics =>
      -- A sum that fits an `i32` fits an `i64`.
      have hcount : ¬ ∃ captured, RefundsCount parse report captured := by
        rintro ⟨captured, hreadable, hmax, -, -⟩
        refine hread ⟨hreadable, ?_⟩
        unfold maxI64
        omega
      refine ⟨?_, hcount⟩
      by_contra hnone
      obtain ⟨hreadable, hzero⟩ := refundedCents_eq_zero (by simpa using hnone)
      exact hread ⟨hreadable, by simp [hzero]⟩
  | ok result =>
    rw [hsum] at hread
    obtain ⟨hunambiguous, hreadable, -, rfl⟩ := hread
    rw [Nat.zero_add, Bool.false_or]
    show RefundValidated parse report (if (!report.actions.any refundSucceeded) = true
      then _ else _)
    cases hany : report.actions.any refundSucceeded with
    | false => exact ⟨hunambiguous, hany⟩
    | true =>
      rw [if_neg (by simp)]
      by_cases hmax : refundedCents report.actions ≤ 2147483647
      · have hfits : toI32 (refundedCents report.actions) = some (refundedCents report.actions) :=
          if_pos hmax
        rw [hfits]
        cases hcaptured : capturedAmountCents parse report with
        | none =>
          refine ⟨hany, ?_⟩
          rintro ⟨captured, -, -, hsome, -⟩
          rw [hcaptured] at hsome
          cases hsome
        | some captured =>
          dsimp only
          by_cases hle : captured < refundedCents report.actions
          · rw [if_pos hle]
            refine ⟨hany, ?_⟩
            rintro ⟨captured', -, -, hsome, hle'⟩
            rw [hcaptured] at hsome
            cases hsome
            omega
          · rw [if_neg hle]
            exact ⟨hunambiguous, hany, ⟨hreadable, hmax, hcaptured, not_lt.mp hle⟩, rfl⟩
      · have hfits : toI32 (refundedCents report.actions) = none := if_neg hmax
        rw [hfits]
        refine ⟨hany, ?_⟩
        rintro ⟨captured, -, hmax', -, -⟩
        exact hmax hmax'

/-- A refund that succeeded refunds something. -/
theorem refundedCents_pos {actions : List NmiAction} (hany : actions.any refundSucceeded = true)
    (hreadable : ReadableRefunds actions) : 0 < refundedCents actions := by
  obtain ⟨action, hmem, hsucceeded⟩ := List.any_eq_true.mp hany
  have hcents := absoluteCents_ne_zero.mpr (hreadable action hmem hsucceeded)
  have hle : absoluteCents action ≤ refundedCents actions :=
    List.le_sum_of_mem (List.mem_map_of_mem (List.mem_filter.mpr ⟨hmem, hsucceeded⟩))
  omega

/-! ## The lifecycle -/

/-- A return that succeeded. -/
def ReturnSucceeded (actions : List NmiAction) : Prop :=
  ∃ action ∈ actions, hasType ["return"] action = true ∧ actionSuccess action = .successful

/-- Some return or void neither succeeded nor failed. -/
def AmbiguousReversal (actions : List NmiAction) : Prop :=
  ∃ action ∈ actions, hasType ["return", "void"] action = true ∧ actionSuccess action = .ambiguous

/-- Without an ambiguous return or void the first check passes, and with one it fails. -/
theorem validateReturnOrVoidActionSuccess_spec (report : NmiReport) :
    (¬ AmbiguousReversal report.actions ∧ validateReturnOrVoidActionSuccess report = .ok ()) ∨
      (AmbiguousReversal report.actions ∧
        validateReturnOrVoidActionSuccess report = .error .ambiguousReversalSuccess) := by
  have hiff : (report.actions.any fun action => hasType ["return", "void"] action &&
      actionSuccess action == .ambiguous) = true ↔ AmbiguousReversal report.actions := by
    simp [AmbiguousReversal]
  unfold validateReturnOrVoidActionSuccess
  by_cases h : AmbiguousReversal report.actions
  · exact .inr ⟨h, if_pos (hiff.mpr h)⟩
  · exact .inl ⟨h, if_neg (fun hany => h (hiff.mp hany))⟩

/-- An action that succeeded counts as successful. -/
theorem actionIsSuccessful_of_successful {action : NmiAction}
    (h : actionSuccess action = .successful) : actionIsSuccessful action = true := by
  unfold actionIsSuccessful
  rw [h]

/-- An action that counts as successful succeeded, or has no mark. -/
theorem successful_of_actionIsSuccessful {action : NmiAction} (h : actionIsSuccessful action = true)
    (hunambiguous : actionSuccess action ≠ .ambiguous) : actionSuccess action = .successful := by
  unfold actionIsSuccessful at h
  cases hsuccess : actionSuccess action with
  | successful => rfl
  | failed =>
    rw [hsuccess] at h
    cases h
  | ambiguous => exact absurd hsuccess hunambiguous

/-- A return is a return or a void. -/
theorem hasType_of_return {action : NmiAction} (h : hasType ["return"] action = true) :
    hasType ["return", "void"] action = true := by
  unfold hasType at h ⊢
  cases hkind : action.actionType.map normalizeGatewayState with
  | none =>
    rw [hkind] at h
    cases h
  | some kind =>
    rw [hkind] at h
    simp only [Option.any_some, List.contains_cons, List.contains_nil, Bool.or_false,
      Bool.or_eq_true, beq_iff_eq] at h ⊢
    exact .inl h

/-- There is a latest return exactly when a return succeeded, unless one is ambiguous. -/
theorem latest_return {report : NmiReport} (h : ¬ AmbiguousReversal report.actions) :
    (latestMatchingAction parse report ["return"]).isSome = true ↔
      ReturnSucceeded report.actions := by
  rw [← not_iff_not, Bool.not_eq_true, Option.isSome_eq_false_iff, Option.isNone_iff_eq_none,
    latestMatchingAction_eq_none]
  unfold ReturnSucceeded
  constructor
  · rintro hnone ⟨action, hmem, hreturn, hsuccess⟩
    have hmatching := hnone action hmem
    rw [matchingAction, hreturn, actionIsSuccessful_of_successful hsuccess] at hmatching
    cases hmatching
  · intro hnone action hmem
    by_contra hmatching
    rw [Bool.not_eq_false, matchingAction, Bool.and_eq_true] at hmatching
    refine hnone ⟨action, hmem, hmatching.1, successful_of_actionIsSuccessful hmatching.2 ?_⟩
    exact fun hambiguous => h ⟨action, hmem, hasType_of_return hmatching.1, hambiguous⟩

/-- With a refund that succeeded there is a latest refund. -/
theorem latest_refund {report : NmiReport} (h : report.actions.any refundSucceeded = true) :
    ∃ action, latestMatchingAction parse report ["refund", "credit"] = some action := by
  rw [← Option.isSome_iff_exists]
  by_contra hnone
  rw [Bool.not_eq_true, Option.isSome_eq_false_iff, Option.isNone_iff_eq_none,
    latestMatchingAction_eq_none] at hnone
  obtain ⟨action, hmem, hsucceeded⟩ := List.any_eq_true.mp h
  rw [refundSucceeded, Bool.and_eq_true, beq_iff_eq] at hsucceeded
  have hrefund : hasType ["refund", "credit"] action = true := hsucceeded.1
  have hmatching := hnone action hmem
  rw [matchingAction, hrefund, actionIsSuccessful_of_successful hsucceeded.2] at hmatching
  cases hmatching

/-- The state of a lifecycle that is read with refunds. -/
def refundedState (returned : Bool) (evidence : RefundEvidence) : GatewayLifecycleState :=
  if returned then .chargeback (some evidence.refundedAmountCents)
  else if evidence.refundedAmountCents < evidence.capturedAmountCents then
    .settled (some evidence.refundedAmountCents)
  else .refunded evidence.refundedAmountCents

/-- How `lifecycle_from_report` ends: it fails with an ambiguous reversal or with the reason of the
refunds; with refunds their sum is reported, and without none is. -/
theorem lifecycleFromReport_spec (report : NmiReport) :
    (AmbiguousReversal report.actions ∧
      lifecycleFromReport parse report = .error .ambiguousReversalSuccess) ∨
    (¬ AmbiguousReversal report.actions ∧ ∃ reason,
      validatedRefundEvidence parse report = .error reason ∧
      lifecycleFromReport parse report = .error reason) ∨
    (¬ AmbiguousReversal report.actions ∧ ∃ evidence lifecycle,
      validatedRefundEvidence parse report = .ok (some evidence) ∧
      lifecycleFromReport parse report = .ok lifecycle ∧
      lifecycle.state =
        refundedState (latestMatchingAction parse report ["return"]).isSome evidence) ∨
    (¬ AmbiguousReversal report.actions ∧ validatedRefundEvidence parse report = .ok none ∧
      ∀ lifecycle, lifecycleFromReport parse report = .ok lifecycle →
        lifecycleRefundedAmount lifecycle.state = none) := by
  rcases validateReturnOrVoidActionSuccess_spec report with ⟨hreversal, hcheck⟩ |
    ⟨hreversal, hcheck⟩
  swap
  · refine .inl ⟨hreversal, ?_⟩
    unfold lifecycleFromReport
    rw [hcheck]
    rfl
  refine .inr ?_
  have hspec := validatedRefundEvidence_spec parse report
  cases hrefund : validatedRefundEvidence parse report with
  | error reason =>
    refine .inl ⟨hreversal, reason, rfl, ?_⟩
    unfold lifecycleFromReport
    rw [hcheck, hrefund]
    rfl
  | ok refund =>
    rw [hrefund] at hspec
    -- Past both checks the latest return decides, then the latest refund, then the latest void.
    have hstep : lifecycleFromReport parse report =
        match latestMatchingAction parse report ["return"] with
        | some action => .ok (lifecycleFromAction parse
            (.chargeback
              (refund.bind fun evidence => cumulativeRefundCents evidence.refundedAmountCents))
            action)
        | none =>
          match latestMatchingAction parse report ["refund", "credit"] with
          | some action => (refundState refund).map fun state =>
            lifecycleFromAction parse state action
          | none =>
            match latestMatchingAction parse report ["void"] with
            | some action => .ok (lifecycleFromAction parse .voided action)
            | none => lifecycleWithoutReversal parse report refund := by
      unfold lifecycleFromReport
      rw [hcheck, hrefund]
      rfl
    rw [hstep]
    cases refund with
    | some evidence =>
      obtain ⟨-, hany, ⟨hreadable, -, -, -⟩, hcents⟩ := hspec
      have hpos : 0 < evidence.refundedAmountCents := hcents ▸ refundedCents_pos hany hreadable
      have hcumulative : cumulativeRefundCents evidence.refundedAmountCents =
          some evidence.refundedAmountCents := if_neg (by omega)
      refine .inr (.inl ⟨hreversal, evidence, ?_⟩)
      cases hreturn : latestMatchingAction parse report ["return"] with
      | some action =>
        refine ⟨_, rfl, rfl, ?_⟩
        simp [lifecycleFromAction, hcumulative, refundedState]
      | none =>
        obtain ⟨action, hlatest⟩ := latest_refund parse hany
        have hstate : refundState (some evidence) = .ok (refundedState false evidence) := by
          unfold refundState
          dsimp only
          rw [hcumulative]
          rfl
        refine ⟨lifecycleFromAction parse (refundedState false evidence) action, rfl, ?_, rfl⟩
        rw [hlatest]
        dsimp only
        rw [hstate]
        rfl
    -- Without refund evidence no branch has an amount to report.
    | none =>
      refine .inr (.inr ⟨hreversal, rfl, fun lifecycle hlifecycle => ?_⟩)
      split at hlifecycle
      · cases hlifecycle
        rfl
      · split at hlifecycle
        · cases hlifecycle
        · split at hlifecycle
          · cases hlifecycle
            rfl
          · unfold lifecycleWithoutReversal at hlifecycle
            dsimp only at hlifecycle
            split at hlifecycle
            · split at hlifecycle <;> cases hlifecycle <;> rfl
            · split_ifs at hlifecycle <;> cases hlifecycle <;> rfl

/-! ## The admitted report -/

/-- A report that is not ignored: it is malformed, or names a transaction or an order. -/
def NmiReport.Located (report : NmiReport) : Prop :=
  report.malformedStructure = true ∨ report.transactionId.isSome = true ∨
    report.orderId.isSome = true

/-- A malformed report is quarantined. -/
theorem admitReport_malformed {report : NmiReport} (h : report.malformedStructure = true) :
    ∃ quarantine, admitReport parse report = .ok (.quarantine quarantine) := by
  unfold admitReport
  rw [if_pos h]
  unfold GatewayLifecycleQuarantine.new
  rw [dif_pos (.inr (.inr rfl))]
  exact ⟨_, rfl⟩

/-- A report that names nothing is ignored. -/
theorem admitReport_unlocated {report : NmiReport} (h : ¬ report.Located) :
    admitReport parse report = .ok .ignore := by
  unfold NmiReport.Located at h
  simp only [not_or, Bool.not_eq_true] at h
  unfold admitReport
  rw [if_neg (by simp [h.1]), if_pos]
  rw [Bool.and_eq_true, ← Option.not_isSome, ← Option.not_isSome, h.2.1, h.2.2]
  exact ⟨rfl, rfl⟩

/-- A report that names a transaction or an order is evidence of the lifecycle that is read from
it. -/
theorem admitReport_evidence {report : NmiReport} (hformed : report.malformedStructure = false)
    (hlocated : report.transactionId.isSome = true ∨ report.orderId.isSome = true)
    {lifecycle : InterpretedLifecycle} (h : lifecycleFromReport parse report = .ok lifecycle) :
    admitReport parse report =
      .ok
        (.evidence
          ⟨report.transactionId, report.orderId, lifecycle.state, report.condition,
            lifecycle.action, lifecycle.effectiveAt, hlocated⟩) := by
  unfold admitReport
  rw [if_neg (by simp [hformed]), if_neg, h]
  · dsimp only
    unfold GatewayLifecycleEvidence.new
    rw [dif_pos hlocated]
    rfl
  · rw [Bool.and_eq_true, ← Option.not_isSome, ← Option.not_isSome]
    rcases hlocated with hlocated | hlocated <;> simp [hlocated]

/-- A report that names a transaction or an order is quarantined with the reason that is read from
it. -/
theorem admitReport_quarantine {report : NmiReport} (hformed : report.malformedStructure = false)
    (hlocated : report.transactionId.isSome = true ∨ report.orderId.isSome = true)
    {reason : QuarantineReason} (h : lifecycleFromReport parse report = .error reason) :
    admitReport parse report = .ok (.quarantine ⟨report.transactionId, report.orderId, reason,
      hlocated.imp_right .inl⟩) := by
  unfold admitReport
  rw [if_neg (by simp [hformed]), if_neg, h]
  · dsimp only
    unfold GatewayLifecycleQuarantine.new
    rw [dif_pos (hlocated.imp_right .inl)]
    rfl
  · rw [Bool.and_eq_true, ← Option.not_isSome, ← Option.not_isSome]
    rcases hlocated with hlocated | hlocated <;> simp [hlocated]

/-- What a result says about the refunds of a report. -/
structure RefundsExact (report : NmiReport) (result : GatewayTransactionReport) : Prop where
  /-- A report that names nothing is ignored, whatever its actions are. -/
  ignored : ¬ report.Located → result = .ignore
  /-- An ambiguous refund, credit, return, or void quarantines. -/
  ambiguous : report.Located →
    AmbiguousRefund report.actions ∨ AmbiguousReversal report.actions →
    ∃ quarantine, result = .quarantine quarantine
  /-- Refunds that have no amount, that do not fit, or that are more than was captured
  quarantine. -/
  invalid : report.Located → (∃ action ∈ report.actions, refundSucceeded action = true) →
    (¬ ReadableRefunds report.actions ∨ 2147483647 < refundedCents report.actions ∨
      ¬ ∃ action captured, LatestAmong parse (matchingAction captureTypes) report.actions action ∧
        actionCents action = some captured ∧ refundedCents report.actions ≤ captured ∧
        captured ≤ 2147483647) →
    ∃ quarantine, result = .quarantine quarantine
  /-- Evidence with a refund that succeeded reports the exact sum, and its state compares the sum
  with the amount of the latest capture. -/
  exact : ∀ evidence, result = .evidence evidence →
    (∃ action ∈ report.actions, refundSucceeded action = true) →
    ReadableRefunds report.actions ∧
    lifecycleRefundedAmount evidence.state = some (refundedCents report.actions) ∧
    0 < refundedCents report.actions ∧ refundedCents report.actions ≤ 2147483647 ∧
    ∃ action, ∃ captured : ℕ,
      LatestAmong parse (matchingAction captureTypes) report.actions action ∧
        actionCents action = some (captured : ℤ) ∧ refundedCents report.actions ≤ captured ∧
      (ReturnSucceeded report.actions →
        evidence.state = .chargeback (some (refundedCents report.actions))) ∧
      (¬ ReturnSucceeded report.actions →
        (evidence.state = .refunded (refundedCents report.actions) ↔
          refundedCents report.actions = captured) ∧
        (evidence.state = .settled (some (refundedCents report.actions)) ↔
          refundedCents report.actions < captured))
  /-- Without a refund that succeeded none is reported. -/
  unrefunded : ∀ evidence, result = .evidence evidence →
    (∀ action ∈ report.actions, refundSucceeded action = false) →
    lifecycleRefundedAmount evidence.state = none

/-- A quarantined report says nothing about refunds. -/
theorem RefundsExact.of_quarantine {report : NmiReport} (quarantine : GatewayLifecycleQuarantine)
    (hlocated : report.Located) : RefundsExact parse report (.quarantine quarantine) where
  ignored h := absurd hlocated h
  ambiguous _ _ := ⟨quarantine, rfl⟩
  invalid _ _ _ := ⟨quarantine, rfl⟩
  exact _ h := nomatch h
  unrefunded _ h := nomatch h

/-- Evidence with refunds is exact. -/
theorem RefundsExact.of_refunds {report : NmiReport} {evidence : GatewayLifecycleEvidence}
    {refund : RefundEvidence} (hlocated : report.Located)
    (hreversal : ¬ AmbiguousReversal report.actions)
    (hrefund : RefundValidated parse report (.ok (some refund)))
    (hstate : evidence.state =
      refundedState (latestMatchingAction parse report ["return"]).isSome refund) :
    RefundsExact parse report (.evidence evidence) := by
  obtain ⟨hunambiguous, hany, ⟨hreadable, hmax, hcaptured, hle⟩, hcents⟩ := hrefund
  obtain ⟨capture, hlatest, hamount, -, hfits⟩ := (capturedAmountCents_eq_some parse).mp hcaptured
  have hpos := refundedCents_pos hany hreadable
  rw [refundedState, hcents] at hstate
  refine ⟨fun h => absurd hlocated h, fun _ h => ?_, fun _ _ h => ?_, fun e he _ => ?_,
    fun e he h => ?_⟩
  · exact absurd h (not_or.mpr ⟨hunambiguous, hreversal⟩)
  · rcases h with h | h | h
    · exact absurd hreadable h
    · omega
    · exact absurd ⟨capture, _, hlatest, hamount, by omega, by omega⟩ h
  · cases he
    refine ⟨hreadable, ?_, hpos, hmax, capture, _, hlatest, hamount, hle, fun hreturn => ?_,
      fun hreturn => ?_⟩
    · rw [hstate]
      split_ifs <;> rfl
    · rw [hstate, if_pos ((latest_return parse hreversal).mpr hreturn)]
    · rw [hstate, if_neg fun h => hreturn ((latest_return parse hreversal).mp h)]
      split_ifs with hlt
      · exact ⟨iff_of_false (by simp) (by omega), iff_of_true rfl hlt⟩
      · exact ⟨iff_of_true rfl (by omega), iff_of_false (by simp) hlt⟩
  · obtain ⟨action, hmem, hsucceeded⟩ := List.any_eq_true.mp hany
    rw [h action hmem] at hsucceeded
    cases hsucceeded

/-- Evidence without refunds reports none. -/
theorem RefundsExact.of_no_refunds {report : NmiReport} {evidence : GatewayLifecycleEvidence}
    (hlocated : report.Located) (hreversal : ¬ AmbiguousReversal report.actions)
    (hrefund : RefundValidated parse report (.ok none))
    (hnone : lifecycleRefundedAmount evidence.state = none) :
    RefundsExact parse report (.evidence evidence) := by
  obtain ⟨hunambiguous, hany⟩ := hrefund
  have hnever : ¬ ∃ action ∈ report.actions, refundSucceeded action = true := by
    simpa using hany
  refine ⟨fun h => absurd hlocated h, fun _ h => ?_, fun _ h _ => absurd h hnever,
    fun e he h => absurd h hnever, fun e he _ => ?_⟩
  · exact absurd h (not_or.mpr ⟨hunambiguous, hreversal⟩)
  · cases he
    exact hnone

/-- Admitting a report never panics, and what is admitted is exact about its refunds. -/
theorem admitReport_refunds_exact (report : NmiReport) :
    ∃ result, admitReport parse report = .ok result ∧ RefundsExact parse report result := by
  by_cases hlocated : report.Located
  swap
  · refine ⟨.ignore, admitReport_unlocated parse hlocated, ?_⟩
    exact ⟨fun _ => rfl, fun h => absurd h hlocated, fun h => absurd h hlocated, nofun, nofun⟩
  by_cases hformed : report.malformedStructure = true
  · obtain ⟨quarantine, heq⟩ := admitReport_malformed parse hformed
    exact ⟨_, heq, .of_quarantine parse quarantine hlocated⟩
  · have hnames := hlocated.resolve_left hformed
    have hwell : report.malformedStructure = false := by simpa using hformed
    have hquarantine {reason : QuarantineReason} (h : lifecycleFromReport parse report =
      .error reason) :
        ∃ result, admitReport parse report = .ok result ∧ RefundsExact parse report result :=
      ⟨_, admitReport_quarantine parse hwell hnames h, .of_quarantine parse _ hlocated⟩
    have hspec := validatedRefundEvidence_spec parse report
    rcases lifecycleFromReport_spec parse report with ⟨-, heq⟩ | ⟨-, reason, -, heq⟩ |
      ⟨hreversal, evidence, lifecycle, hrefund, heq, hstate⟩ | ⟨hreversal, hrefund, hnone⟩
    · exact hquarantine heq
    · exact hquarantine heq
    · rw [hrefund] at hspec
      exact ⟨_, admitReport_evidence parse hwell hnames heq, .of_refunds parse hlocated hreversal
        hspec hstate⟩
    · rw [hrefund] at hspec
      cases heq : lifecycleFromReport parse report with
      | error reason => exact hquarantine heq
      | ok lifecycle =>
        exact ⟨_, admitReport_evidence parse hwell hnames heq,
          .of_no_refunds parse hlocated hreversal hspec (hnone lifecycle heq)⟩

/-- A report that names neither a transaction nor an order is ignored, though the success of its
refund is ambiguous. -/
theorem unlocated_report_ignored :
    ¬ ∀ (parse : DateParser) (report : NmiReport),
      AmbiguousRefund report.actions ∨ AmbiguousReversal report.actions →
      ∃ quarantine, admitReport parse report = .ok (.quarantine quarantine) := by
  intro h
  have hambiguous : AmbiguousRefund [⟨some "refund", none, some "1.00", some "maybe"⟩] :=
    ⟨_, List.mem_cons_self, by decide +kernel, by decide +kernel⟩
  obtain ⟨quarantine, heq⟩ := h (fun _ => none)
    ⟨none, none, none, [⟨some "refund", none, some "1.00", some "maybe"⟩], false⟩ (.inl hambiguous)
  cases heq

end SyrupRail.Nmi
