import SyrupRail.Attempt.StateMachine
import SyrupRail.Lib.Table

/-!
# The table of payment attempts

`billing_payment_attempts` as a list of rows with its unique indexes, and the three ways in which
the engine changes it: a writer on one row, the expiry of every stale row, and an insertion that
gives way to a conflict. `AttemptsChange` relates the table before and after any of them row by row,
so that what holds of one writer holds of every row, and `attemptIndexes` holds after each.
-/

namespace SyrupRail

open Transactions

/-! ## Indexes -/

/-- The key of `billing_payment_attempts_initial_inflight_idx`: an open enrollment of a plan, unless
it is parked for a conflict with a current subscription. -/
def PaymentAttempt.initialInflightKey (a : PaymentAttempt) : Option (Id × Id × Option String) :=
  if a.kind = .subscriptionInitial ∧ a.status.isResolvable ∧
      ¬ (a.status = .reviewRequired ∧
        a.resolutionCode = some .subscriptionInitialCurrentSubscriptionConflict) then
    some (a.billingScopeId, a.subscriberId, a.target.planKey)
  else none

/-- The key of `billing_payment_attempts_host_charge_once_idx`. -/
def PaymentAttempt.hostChargeOnceKey (a : PaymentAttempt) : Option (Id × Id × Id) :=
  match a.target with
  | .hostCharge targetId =>
    if a.status.isResolvable ∨ a.status = .approved then
      some (a.billingScopeId, a.subscriberId, targetId)
    else none
  | _ => none

/-- Whether an attempt is an open charge for a period of a subscription. -/
def PaymentAttempt.isBlockingCharge (a : PaymentAttempt) : Bool :=
  a.isSubscriptionCharge && a.status.isResolvable

/-- The key of `billing_payment_attempts_subscription_billing_inflight_idx`. -/
def PaymentAttempt.billingInflightKey (a : PaymentAttempt) : Option Id :=
  if a.isBlockingCharge then a.subscriptionId else none

/-- The key of `billing_payment_attempts_subscription_period_once_idx`. -/
def PaymentAttempt.periodOnceKey (a : PaymentAttempt) : Option (Id × Timestamp) :=
  if a.isSubscriptionCharge ∧ (a.status.isResolvable ∨ a.status = .approved) then
    match a.subscriptionId, a.periodStartAt with
    | some subscriptionId, some startAt => some (subscriptionId, startAt)
    | _, _ => none
  else none

/-- The key of `billing_payment_attempts_method_update_inflight_idx`. -/
def PaymentAttempt.methodUpdateInflightKey (a : PaymentAttempt) : Option Id :=
  if a.kind = .subscriptionPaymentMethodUpdate ∧ a.status.isResolvable then a.subscriptionId
  else none

/-- The unique indexes of the table, the primary key first. -/
def attemptIndexes (attempts : List PaymentAttempt) : Bool :=
  Table.uniqueOn (fun a => some a.id) attempts &&
    Table.uniqueOn (fun a => some (a.billingScopeId, a.subscriberId, a.idempotencyKey)) attempts &&
    Table.uniqueOn (fun a => some (a.gatewayAccountId, a.gatewayOrderId)) attempts &&
    Table.uniqueOn (fun a => a.evidence.transactionId.map (a.gatewayAccountId, ·)) attempts &&
    Table.uniqueOn PaymentAttempt.initialInflightKey attempts &&
    Table.uniqueOn PaymentAttempt.hostChargeOnceKey attempts &&
    Table.uniqueOn PaymentAttempt.billingInflightKey attempts &&
    Table.uniqueOn PaymentAttempt.periodOnceKey attempts &&
    Table.uniqueOn PaymentAttempt.methodUpdateInflightKey attempts

/-- The end of a statement on attempts, after the constraints. -/
def storeAttempts (attempts : List PaymentAttempt) : Except StoreError (List PaymentAttempt) :=
  if attemptIndexes attempts then .ok attempts else .error .uniqueViolation

/-- A statement that succeeds stores its rows. -/
theorem storeAttempts_eq_ok {attempts attempts' : List PaymentAttempt}
    (h : storeAttempts attempts = .ok attempts') :
    attempts' = attempts ∧ attemptIndexes attempts = true := by
  unfold storeAttempts at h
  split_ifs at h with hi
  exact ⟨by simpa using h.symm, hi⟩

/-! ## Statements -/

/-- `INVALID_APPLICATION_STATE`. -/
def invalidApplicationState : StoreError :=
  .invalidState "canonical initial-enrollment application state is invalid"

/-- A writer on the row of an attempt. `onMismatch` is the error of the caller for a writer that
needed a row and did not find it. -/
def writeAttempt (now : Timestamp) (onMismatch : StoreError) (attemptId : Id) (w : AttemptWriter)
    (attempts : List PaymentAttempt) : Except StoreError (List PaymentAttempt) :=
  match Table.findBy PaymentAttempt.id attemptId attempts with
  | none => .error onMismatch
  | some a =>
    match w.write now a with
    | .ok a' => storeAttempts (Table.updateWhere (·.id = attemptId) (fun _ => a') attempts)
    | .error .invalidState => .error onMismatch
    | .error .checkViolation => .error .checkViolation

/-- A writer on every row that meets a condition: the expiries, and the rejection of the prepared
attempts of a retired period. -/
def writeAttempts (now : Timestamp) (p : PaymentAttempt → Bool) (w : AttemptWriter)
    (attempts : List PaymentAttempt) : Except StoreError (List PaymentAttempt) := do
  let attempts ← attempts.mapM fun a =>
    if p a then
      match w.write now a with
      | .ok a' => .ok a'
      | .error _ => .error .checkViolation
    else .ok a
  storeAttempts attempts

/-- `INSERT ... ON CONFLICT DO NOTHING`: the table, and whether the row was inserted. -/
def insertAttempt (n : NewAttempt) (attempts : List PaymentAttempt) : List PaymentAttempt × Bool :=
  if attemptIndexes (n.row :: attempts) then (n.row :: attempts, true) else (attempts, false)

/-! ## What a statement changes -/

/-- A table after statements whose writers satisfy `W`: each row is as it was, or an effect of such
a writer. -/
def AttemptsChange (now : Timestamp) (W : PaymentAttempt → AttemptWriter → Prop)
    (attempts attempts' : List PaymentAttempt) : Prop :=
  List.Forall₂ (fun a a' => a' = a ∨ ∃ w, W a w ∧ w.Stores now a a') attempts attempts'

/-- A statement that changes nothing. -/
theorem AttemptsChange.refl (now : Timestamp) (W : PaymentAttempt → AttemptWriter → Prop)
    (attempts : List PaymentAttempt) : AttemptsChange now W attempts attempts :=
  List.forall₂_same.mpr fun _ _ => .inl rfl

/-- A writer on one row changes that row. -/
theorem writeAttempt_eq_ok {now : Timestamp} {e : StoreError} {id : Id} {w : AttemptWriter}
    {attempts attempts' : List PaymentAttempt}
    (h : writeAttempt now e id w attempts = .ok attempts') :
    ∃ a ∈ attempts, a.id = id ∧ ∃ a', w.write now a = .ok a' ∧
      attempts' = Table.updateWhere (·.id = id) (fun _ => a') attempts ∧
      attemptIndexes attempts' = true := by
  unfold writeAttempt at h
  split at h
  · simp at h
  · rename_i a hfind
    obtain ⟨ha, hid⟩ := Table.findBy_some hfind
    split at h
    · rename_i a' hw
      obtain ⟨hrows, hindex⟩ := storeAttempts_eq_ok h
      exact ⟨a, ha, hid, a', hw, hrows, hrows ▸ hindex⟩
    · simp at h
    · simp at h

/-- The ids of a table with its indexes are unique. -/
theorem nodup_id_of_attemptIndexes {attempts : List PaymentAttempt}
    (h : attemptIndexes attempts = true) {a b : PaymentAttempt} (ha : a ∈ attempts)
    (hb : b ∈ attempts) (hid : a.id = b.id) : a = b := by
  simp only [attemptIndexes, Bool.and_eq_true] at h
  exact Table.eq_of_uniqueOn h.1.1.1.1.1.1.1.1 ha hb rfl (congrArg some hid.symm)

/-- The table of attempts has one row for each id. -/
theorem nodup_map_id_of_attemptIndexes {attempts : List PaymentAttempt}
    (h : attemptIndexes attempts = true) : (attempts.map (·.id)).Nodup := by
  simp only [attemptIndexes, Bool.and_eq_true] at h
  exact Table.nodup_map_of_uniqueOn h.1.1.1.1.1.1.1.1

/-- A row of the table is the one with its id. -/
theorem findBy_id_eq_some {attempts : List PaymentAttempt} (h : attemptIndexes attempts = true)
    {a : PaymentAttempt} (ha : a ∈ attempts) :
    Table.findBy PaymentAttempt.id a.id attempts = some a := by
  simp only [attemptIndexes, Bool.and_eq_true] at h
  exact Table.findBy_eq_some (Table.nodup_map_of_uniqueOn h.1.1.1.1.1.1.1.1) ha

/-- At most one open charge of a subscription is in the table. -/
theorem eq_of_isBlockingCharge {attempts : List PaymentAttempt} {s : Id}
    (h : attemptIndexes attempts = true) {a b : PaymentAttempt} (ha : a ∈ attempts)
    (hb : b ∈ attempts) (hka : a.isBlockingCharge = true) (hkb : b.isBlockingCharge = true)
    (hsa : a.subscriptionId = some s) (hsb : b.subscriptionId = some s) : a = b := by
  simp only [attemptIndexes, Bool.and_eq_true] at h
  refine Table.eq_of_uniqueOn h.1.1.2 ha hb (k := s) ?_ ?_
  · simpa [PaymentAttempt.billingInflightKey, hka] using hsa
  · simpa [PaymentAttempt.billingInflightKey, hkb] using hsb

/-- A writer on many rows: each row of the condition is written, and the others stay. -/
theorem forall₂_of_writeAttempts {now : Timestamp} {p : PaymentAttempt → Bool} {w : AttemptWriter}
    {attempts attempts' : List PaymentAttempt}
    (h : writeAttempts now p w attempts = .ok attempts') :
    List.Forall₂ (fun a a' => (p a = true ∧ w.write now a = .ok a') ∨ (p a = false ∧ a' = a))
      attempts attempts' ∧ attemptIndexes attempts' = true := by
  obtain ⟨rows, hrows, hstore⟩ := bind_eq_ok.mp h
  obtain ⟨rfl, hindex⟩ := storeAttempts_eq_ok hstore
  refine ⟨(forall₂_of_mapM_eq_ok hrows).imp fun a a' ha => ?_, hindex⟩
  split_ifs at ha with hp
  · split at ha
    · rename_i b hw
      obtain rfl := Except.ok.inj ha
      exact .inl ⟨hp, hw⟩
    · cases ha
  · exact .inr ⟨by simpa using hp, (Except.ok.inj ha).symm⟩

end SyrupRail
