import SyrupRail.Lifecycle.Reconciliation
import SyrupRail.Store

/-!
# Attempts that are changed afterwards

Two writers touch attempts that were settled long ago. A lifecycle report moves the settlement
columns of an approved attempt, and the deletion of a subscriber's billing data clears the
processor's texts and the card of all attempts and methods of the subscriber. Neither touches the
request of an attempt, its status, its links, or its transaction, which is what `Revised` says.

The columns that reports read and write are those of `LifecycleAttempt`. `lifecycleRow` is an
attempt as such a row, and a report updates the one as it updates the other
(`lifecycleRow_reported`).
-/

namespace SyrupRail

open Transactions Tx

/-! ## Lifecycle reports -/

/-- The target of a host charge. -/
def PaymentAttempt.hostChargeTargetId (a : PaymentAttempt) : Option Id :=
  match a.target with
  | .hostCharge targetId => some targetId
  | _ => none

/-- The lifecycle columns of an attempt; `lifecycle` is what they are decoded to. -/
def PaymentAttempt.storedLifecycle (a : PaymentAttempt) : StoredLifecycle where
  status := lifecycleStatus a.lifecycle
  refundedAmountCents := (lifecycleRefundedAmount a.lifecycle).getD 0
  lifecycleAt := a.lifecycleAt

/-- The columns of an attempt that reports read and write. -/
def PaymentAttempt.lifecycleRow (a : PaymentAttempt) : LifecycleAttempt where
  id := a.id
  billingScopeId := a.billingScopeId
  subscriberId := a.subscriberId
  gatewayAccountId := a.gatewayAccountId
  kind := a.kind
  status := a.status
  hostChargeTargetId := a.hostChargeTargetId
  amountCents := a.amount.cents
  gatewayTransactionId := a.evidence.transactionId
  gatewayOrderId := a.gatewayOrderId
  createdAt := a.createdAt
  updatedAt := a.updatedAt
  condition := a.evidence.condition
  lifecycleAction := a.lifecycleAction
  lifecycle := a.storedLifecycle
  lifecycleReconciledAt := a.lifecycleReconciledAt

/-- The state of a report with the refunded amount that is stored with it. -/
def GatewayLifecycleState.withRefunded (refunded : ℕ) : GatewayLifecycleState →
    GatewayLifecycleState
  | .unknown => .unknown
  | .pendingSettlement => .pendingSettlement
  | .voided => .voided
  | .settled _ => .settled (if refunded = 0 then none else some refunded)
  | .refunded _ => .refunded refunded
  | .chargeback _ => .chargeback (if refunded = 0 then none else some refunded)

section Reports

variable {state : GatewayLifecycleState} {refunded captured : ℕ}

/-- The status stays. -/
@[simp]
theorem lifecycleStatus_withRefunded :
    lifecycleStatus (state.withRefunded refunded) = lifecycleStatus state := by
  cases state <;> rfl

/-- The refunded amount is read back. -/
theorem lifecycleRefundedAmount_withRefunded
    (h : storedAmountIsValid state refunded captured = true) :
    (lifecycleRefundedAmount (state.withRefunded refunded)).getD 0 = refunded := by
  cases state with
  | unknown | pendingSettlement | voided =>
    obtain rfl : refunded = 0 := by simpa [storedAmountIsValid] using h
    rfl
  | settled cumulative | chargeback cumulative => cases refunded <;> rfl
  | refunded cumulative => rfl

end Reports

/-- The row after evidence that is applied. -/
def PaymentAttempt.reported (now : Timestamp) (refunded : ℕ) (evidence : StoredEvidence)
    (a : PaymentAttempt) : PaymentAttempt :=
  { a with
    evidence := { a.evidence with condition := evidence.condition <|> a.evidence.condition }
    lifecycle := evidence.state.withRefunded refunded
    lifecycleAction := evidence.action
    lifecycleAt := greatest a.lifecycleAt evidence.effectiveAt
    lifecycleReconciledAt := some now
    updatedAt := now }

/-- A report updates an attempt as it updates its lifecycle row. -/
theorem PaymentAttempt.lifecycleRow_reported {now : Timestamp} {refunded captured : ℕ}
    {evidence : StoredEvidence} (a : PaymentAttempt)
    (h : storedAmountIsValid evidence.state refunded captured = true) :
    (a.reported now refunded evidence).lifecycleRow =
      a.lifecycleRow.updated now refunded evidence := by
  have hlifecycle : (a.reported now refunded evidence).storedLifecycle =
      a.storedLifecycle.updated refunded ⟨evidence.state, evidence.effectiveAt⟩ := by
    simp only [storedLifecycle, reported, StoredLifecycle.updated, lifecycleStatus_withRefunded,
      lifecycleRefundedAmount_withRefunded h]
  unfold lifecycleRow
  rw [hlifecycle]
  rfl

/-- The account of a row of `billing_gateway_accounts`. -/
def GatewayAccount.lifecycleAccount (g : GatewayAccount) : GatewayLifecycleAccount where
  billingScopeId := g.billingScopeId
  gatewayAccountId := g.id
  providerKey := g.providerKey

/-- The `WHERE` of the update of an attempt. -/
def PaymentAttempt.isReported (account : GatewayLifecycleAccount) (attemptId : Id)
    (a : PaymentAttempt) : Bool :=
  a.id = attemptId ∧ a.billingScopeId = account.billingScopeId ∧
    a.gatewayAccountId = account.gatewayAccountId

/-- The `UPDATE` of the attempt that evidence is applied to. -/
def reportAttempt (now : Timestamp) (account : GatewayLifecycleAccount) (refunded : ℕ)
    (evidence : StoredEvidence) (attemptId : Id) (attempts : List PaymentAttempt) :
    Except StoreError (List PaymentAttempt) :=
  if encodable [evidence.condition, evidence.action] = false then .error .characterNotInRepertoire
  else if attempts.any fun a => a.isReported account attemptId ∧
      (a.reported now refunded evidence).lifecycleRow.check = false then
    .error .checkViolation
  else if Table.rowsAffected (·.isReported account attemptId) attempts ≠ 1 then
    .error invalidStoredLifecycle
  else
    storeAttempts (Table.updateWhere (·.isReported account attemptId)
      (·.reported now refunded evidence) attempts)

/-! ## Deletion of billing data -/

/-- Evidence without what it says of the subscriber. -/
def ProcessorEvidence.scrubbed (e : ProcessorEvidence) : ProcessorEvidence :=
  { e with
    paymentMethodReference := none
    response := none
    responseText := none
    descriptor := {} }

/-- An attempt after the deletion of billing data. -/
def PaymentAttempt.scrubbed (now : Timestamp) (a : PaymentAttempt) : PaymentAttempt :=
  { a with evidence := a.evidence.scrubbed, updatedAt := now }

/-- A stored method after the deletion of billing data. -/
def PaymentMethod.scrubbed (m : PaymentMethod) : PaymentMethod :=
  { m with
    status := .disabled
    reference := "erased:" ++ toString m.id
    descriptor := {} }

/-- `ScrubbedBillingRows`. -/
structure ScrubbedBillingRows where
  paymentAttempts : ℕ
  paymentMethods : ℕ
  deriving DecidableEq, Repr

section Scrub

variable (now : Timestamp) (billingScopeId subscriberId : Id)

/-- Whether an attempt is one of the subscriber. -/
def PaymentAttempt.isOfSubscriber (a : PaymentAttempt) : Bool :=
  a.billingScopeId = billingScopeId ∧ a.subscriberId = subscriberId

/-- Whether a method is one of the subscriber. -/
def PaymentMethod.isOfSubscriber (m : PaymentMethod) : Bool :=
  m.billingScopeId = billingScopeId ∧ m.subscriberId = subscriberId

/-- The `UPDATE` of the attempts of the subscriber. -/
def scrubAttempts (attempts : List PaymentAttempt) :
    Except StoreError (List PaymentAttempt × ℕ) :=
  if attempts.any fun a => a.isOfSubscriber billingScopeId subscriberId ∧
      (a.scrubbed now).checks = false then
    .error .checkViolation
  else
    (storeAttempts (Table.updateWhere (·.isOfSubscriber billingScopeId subscriberId)
      (·.scrubbed now) attempts)).map
        (·, Table.rowsAffected (·.isOfSubscriber billingScopeId subscriberId) attempts)

/-- `scrub_subscriber_billing_data`, without the contacts, which no row here has. -/
def scrubSubscriberBillingData : Program ScrubbedBillingRows := do
  let paymentAttempts ← Tx.statement Db.attempts (fun attempts db => { db with attempts })
    (scrubAttempts now billingScopeId subscriberId)
  let methods := (← get).paymentMethods
  modify fun db => { db with
    paymentMethods := Table.updateWhere (·.isOfSubscriber billingScopeId subscriberId) (·.scrubbed)
      methods }
  pure
    { paymentAttempts
      paymentMethods := Table.rowsAffected (·.isOfSubscriber billingScopeId subscriberId) methods }

end Scrub

/-! ## Revisions -/

/-- Later evidence of the same payment: its condition may be another one, and what it says of the
subscriber may be gone. -/
def ProcessorEvidence.Fades (e e' : ProcessorEvidence) : Prop :=
  e' = { e with condition := e'.condition } ∨ e' = { e.scrubbed with condition := e'.condition }

/-- A later row of an attempt that only these two writers have changed. -/
structure PaymentAttempt.Revised (a a' : PaymentAttempt) : Prop where
  row : a' = { a with
    evidence := a'.evidence, lifecycle := a'.lifecycle, lifecycleAction := a'.lifecycleAction
    lifecycleAt := a'.lifecycleAt, lifecycleReconciledAt := a'.lifecycleReconciledAt
    updatedAt := a'.updatedAt }
  evidence : a.evidence.Fades a'.evidence

section Revisions

/-- Evidence that stays as it is. -/
theorem ProcessorEvidence.Fades.refl (e : ProcessorEvidence) : e.Fades e := .inl rfl

/-- Evidence that has faded twice. -/
theorem ProcessorEvidence.Fades.trans {e e' e'' : ProcessorEvidence} (h : e.Fades e')
    (h' : e'.Fades e'') : e.Fades e'' := by
  rcases h with h | h
  · rcases h' with h' | h'
    · exact .inl (by rw [h', h])
    · exact .inr (by rw [h', h]; rfl)
  · rcases h' with h' | h'
    · exact .inr (by rw [h', h])
    · exact .inr (by rw [h', h]; rfl)

/-- The transaction stays. -/
theorem ProcessorEvidence.Fades.transactionId {e e' : ProcessorEvidence} (h : e.Fades e') :
    e'.transactionId = e.transactionId := by
  rcases h with h | h
  · rw [h]
  · rw [h]
    rfl

namespace PaymentAttempt.Revised

variable {a a' a'' : PaymentAttempt}

/-- A row that stays as it is. -/
theorem refl (a : PaymentAttempt) : a.Revised a := ⟨rfl, .refl _⟩

/-- One revision after another. -/
theorem trans (h : a.Revised a') (h' : a'.Revised a'') : a.Revised a'' := by
  refine ⟨?_, h.evidence.trans h'.evidence⟩
  have hrow := h'.row
  rw [h.row] at hrow
  exact hrow

/-- The attempt is the same one. -/
theorem id (h : a.Revised a') : a'.id = a.id := by rw [h.row]

/-- Its status stays. -/
theorem status (h : a.Revised a') : a'.status = a.status := by rw [h.row]

/-- A report revises its attempt. -/
theorem reported (now : Timestamp) (refunded : ℕ) (evidence : StoredEvidence) (a : PaymentAttempt) :
    a.Revised (a.reported now refunded evidence) :=
  ⟨rfl, .inl rfl⟩

/-- So does the deletion of billing data. -/
theorem scrubbed (now : Timestamp) (a : PaymentAttempt) : a.Revised (a.scrubbed now) :=
  ⟨rfl, .inr rfl⟩

end PaymentAttempt.Revised

variable {now : Timestamp} {attempts attempts' : List PaymentAttempt}

/-- The update of a report revises the rows. -/
theorem reportAttempt_revised {account : GatewayLifecycleAccount} {refunded : ℕ}
    {evidence : StoredEvidence} {attemptId : Id}
    (h : reportAttempt now account refunded evidence attemptId attempts = .ok attempts') :
    List.Forall₂ PaymentAttempt.Revised attempts attempts' ∧ attemptIndexes attempts' = true := by
  unfold reportAttempt at h
  split_ifs at h
  obtain ⟨rfl, hindex⟩ := storeAttempts_eq_ok h
  exact ⟨Table.forall₂_updateWhere (fun a _ _ => .reported now refunded evidence a) .refl, hindex⟩

/-- So does the deletion. -/
theorem scrubAttempts_revised {billingScopeId subscriberId : Id} {rows : ℕ}
    (h : scrubAttempts now billingScopeId subscriberId attempts = .ok (attempts', rows)) :
    List.Forall₂ PaymentAttempt.Revised attempts attempts' ∧ attemptIndexes attempts' = true := by
  unfold scrubAttempts at h
  split_ifs at h
  obtain ⟨stored, hstored, hpair⟩ := map_eq_ok.mp h
  obtain ⟨rfl, -⟩ := Prod.mk.inj hpair
  obtain ⟨rfl, hindex⟩ := storeAttempts_eq_ok hstored
  exact ⟨Table.forall₂_updateWhere (fun a _ _ => .scrubbed now a) .refl, hindex⟩

end Revisions

end SyrupRail
