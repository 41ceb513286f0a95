import SyrupRail.Attempt
import SyrupRail.Lib.Run

/-!
# The lifecycle of an approved payment

What a gateway reports about an approved payment afterwards: its settlement, a void, refunds, and a
chargeback. `lifecycleTransition` decides whether a report advances the stored state, and the
`UPDATE` of a report that does. The reports of a payment arrive in any order, so the decision is by
the precedence of the states and not by time. That a stored state is always one that is decoded
again rests on `storedAmountIsValid`, which both the decoder and the table's constraint follow from.
-/

namespace SyrupRail

open Transactions

/-! ## States and their columns -/

/-- The values of the column `gateway_lifecycle_status`. -/
inductive GatewayLifecycleStatus
  | unknown | pendingSettlement | settled | voided | refunded | chargeback
  deriving DecidableEq, Repr

/-- The place of a status in the precedence of evidence. -/
def GatewayLifecycleStatus.precedence : GatewayLifecycleStatus → ℕ
  | .unknown => 0
  | .pendingSettlement => 1
  | .settled => 2
  | .voided => 3
  | .refunded => 4
  | .chargeback => 5

/-- The precedence tells the statuses apart. -/
theorem GatewayLifecycleStatus.precedence_injective :
    Function.Injective GatewayLifecycleStatus.precedence := by
  intro s s' h
  cases s <;> cases s' <;> simp_all [precedence]

/-- `lifecycle_status`. -/
def lifecycleStatus : GatewayLifecycleState → GatewayLifecycleStatus
  | .unknown => .unknown
  | .pendingSettlement => .pendingSettlement
  | .settled _ => .settled
  | .voided => .voided
  | .refunded _ => .refunded
  | .chargeback _ => .chargeback

/-- `INVALID_STORED_STATE`. -/
def invalidStoredLifecycle : StoreError :=
  .invalidState "canonical gateway lifecycle state is invalid"

/-- `lifecycle_state_from_parts`; the amount is a non-negative column. -/
def lifecycleStateFromParts (status : GatewayLifecycleStatus) (refunded : Option ℕ) :
    Except StoreError GatewayLifecycleState :=
  match status, refunded with
  | .unknown, none | .unknown, some 0 => .ok .unknown
  | .pendingSettlement, none | .pendingSettlement, some 0 => .ok .pendingSettlement
  | .voided, none | .voided, some 0 => .ok .voided
  | .settled, none | .settled, some 0 => .ok (.settled none)
  | .settled, some (n + 1) => .ok (.settled (some (n + 1)))
  | .refunded, some (n + 1) => .ok (.refunded (n + 1))
  | .chargeback, none | .chargeback, some 0 => .ok (.chargeback none)
  | .chargeback, some (n + 1) => .ok (.chargeback (some (n + 1)))
  | _, _ => .error invalidStoredLifecycle

/-! ## The transition -/

/-- `LifecycleTransition`. -/
inductive LifecycleTransition
  | apply (refundedAmountCents : ℕ)
  | alreadySuperseded
  | invalidRefundEconomics
  | conflictingLifecycleEvidence
  deriving DecidableEq, Repr

/-- `lifecycle_refunded_amount`. -/
def lifecycleRefundedAmount : GatewayLifecycleState → Option ℕ
  | .settled cumulative | .chargeback cumulative => cumulative
  | .refunded cumulative => some cumulative
  | .unknown | .pendingSettlement | .voided => none

/-- `incoming_amount_is_valid`. -/
def incomingAmountIsValid (state : GatewayLifecycleState) (captured : ℕ) : Bool :=
  match state with
  | .unknown | .pendingSettlement | .voided => true
  | .settled cumulative => 0 < captured ∧ cumulative.all (· < captured)
  | .refunded cumulative => 0 < captured ∧ cumulative = captured
  | .chargeback cumulative => 0 < captured ∧ cumulative.all (· ≤ captured)

/-- `stored_amount_is_valid`. -/
def storedAmountIsValid (state : GatewayLifecycleState) (refunded captured : ℕ) : Bool :=
  match state with
  | .unknown | .pendingSettlement | .voided => refunded = 0
  | .settled _ => 0 < captured ∧ refunded < captured
  | .refunded _ => 0 < captured ∧ refunded = captured
  | .chargeback _ => 0 < captured ∧ refunded ≤ captured

/-- `EvidenceTransition`. -/
inductive EvidenceTransition
  | advance | refresh | superseded
  deriving DecidableEq, Repr

/-- `evidence_transition`. -/
def evidenceTransition (current incoming : GatewayLifecycleState) : EvidenceTransition :=
  match current with
  | .unknown =>
    match incoming with
    | .unknown => .refresh
    | .pendingSettlement | .settled _ | .voided | .refunded _ | .chargeback _ => .advance
  | .pendingSettlement =>
    match incoming with
    | .unknown => .superseded
    | .pendingSettlement => .refresh
    | .settled _ | .voided | .refunded _ | .chargeback _ => .advance
  | .settled _ =>
    match incoming with
    | .unknown | .pendingSettlement => .superseded
    | .settled _ => .refresh
    | .voided | .refunded _ | .chargeback _ => .advance
  | .voided =>
    match incoming with
    | .unknown | .pendingSettlement | .settled _ => .superseded
    | .voided => .refresh
    | .refunded _ | .chargeback _ => .advance
  | .refunded _ =>
    match incoming with
    | .unknown | .pendingSettlement | .settled _ | .voided => .superseded
    | .refunded _ => .refresh
    | .chargeback _ => .advance
  | .chargeback _ =>
    match incoming with
    | .unknown | .pendingSettlement | .settled _ | .voided | .refunded _ => .superseded
    | .chargeback _ => .refresh

/-- Whether a report of the stored state's own status refreshes it. -/
def refreshes (currentRefunded : ℕ) (currentAt : Option Timestamp)
    (incoming : GatewayLifecycleState) (incomingAt : Option Timestamp) : Bool :=
  currentAt = none ∨
    (incomingAt.any fun incomingAt => currentAt.any fun currentAt => currentAt < incomingAt) ∨
    (lifecycleRefundedAmount incoming).any (currentRefunded < ·)

/-- Whether a report goes on to the economics of the advanced state. -/
def shouldAdvance (current : GatewayLifecycleState) (currentRefunded : ℕ)
    (currentAt : Option Timestamp) (incoming : GatewayLifecycleState)
    (incomingAt : Option Timestamp) : Bool :=
  match evidenceTransition current incoming with
  | .advance => true
  | .superseded => false
  | .refresh => refreshes currentRefunded currentAt incoming incomingAt

/-- The refunded amount after a report. -/
def nextRefunded (currentRefunded : ℕ) (incoming : GatewayLifecycleState) : ℕ :=
  max currentRefunded ((lifecycleRefundedAmount incoming).getD currentRefunded)

/-- `lifecycle_transition`. -/
def lifecycleTransition (current : GatewayLifecycleState) (currentRefunded : ℕ)
    (currentAt : Option Timestamp) (incoming : GatewayLifecycleState)
    (incomingAt : Option Timestamp) (captured : ℕ) : Except StoreError LifecycleTransition :=
  if storedAmountIsValid current currentRefunded captured = false then .error invalidStoredLifecycle
  else if incomingAmountIsValid incoming captured = false then .ok .invalidRefundEconomics
  else if shouldAdvance current currentRefunded currentAt incoming incomingAt = false then
    .ok .alreadySuperseded
  else if storedAmountIsValid incoming (nextRefunded currentRefunded incoming) captured = false then
    .ok .conflictingLifecycleEvidence
  else .ok (.apply (nextRefunded currentRefunded incoming))

/-! ## The stored lifecycle -/

/-- The lifecycle columns of an attempt. -/
structure StoredLifecycle where
  status : GatewayLifecycleStatus := .unknown
  refundedAmountCents : ℕ := 0
  lifecycleAt : Option Timestamp := none
  deriving DecidableEq, Repr

/-- `billing_payment_attempts_lifecycle_amount_check`. -/
def StoredLifecycle.amountCheck (captured : ℕ) (s : StoredLifecycle) : Bool :=
  match s.status with
  | .unknown | .pendingSettlement | .voided => s.refundedAmountCents = 0
  | .settled => s.refundedAmountCents < captured
  | .refunded => 0 < captured ∧ s.refundedAmountCents = captured
  | .chargeback => s.refundedAmountCents ≤ captured

/-- What a gateway reports about the lifecycle of a payment, and since when it holds. -/
structure LifecycleEvidence where
  state : GatewayLifecycleState
  effectiveAt : Option Timestamp
  deriving DecidableEq, Repr

/-- `GREATEST`, which ignores a null. -/
def greatest (t t' : Option Timestamp) : Option Timestamp :=
  match t, t' with
  | some t, some t' => some (max t t')
  | some t, none => some t
  | none, t' => t'

/-- The columns after a report that is applied. -/
def StoredLifecycle.updated (refunded : ℕ) (e : LifecycleEvidence) (s : StoredLifecycle) :
    StoredLifecycle where
  status := lifecycleStatus e.state
  refundedAmountCents := refunded
  lifecycleAt := greatest s.lifecycleAt e.effectiveAt

/-- One report on the columns of a payment of `captured` cents: the row is decoded, and the update
of a report that is applied passes the constraint. -/
def applyLifecycleEvidence (captured : ℕ) (s : StoredLifecycle) (e : LifecycleEvidence) :
    Except StoreError (StoredLifecycle × LifecycleTransition) := do
  let current ← lifecycleStateFromParts s.status (some s.refundedAmountCents)
  let transition ← lifecycleTransition current s.refundedAmountCents s.lifecycleAt e.state
    e.effectiveAt captured
  match transition with
  | .apply refunded =>
    if (s.updated refunded e).amountCheck captured then .ok (s.updated refunded e, transition)
    else .error .checkViolation
  | _ => .ok (s, transition)

/-- Reports one after another, from the columns of a payment without any. -/
def foldLifecycleEvidence (captured : ℕ) (s : StoredLifecycle) :
    List LifecycleEvidence → Except StoreError StoredLifecycle
  | [] => .ok s
  | e :: reports => do
    let (s', _) ← applyLifecycleEvidence captured s e
    foldLifecycleEvidence captured s' reports

/-! ## What one report does -/

/-- The invariant of the columns: the amount is one that the status allows. -/
def StoredLifecycle.Valid (captured : ℕ) (s : StoredLifecycle) : Prop :=
  ∃ state, lifecycleStateFromParts s.status (some s.refundedAmountCents) = .ok state ∧
    storedAmountIsValid state s.refundedAmountCents captured = true

section Step

variable {captured refunded : ℕ} {s : StoredLifecycle} {current incoming : GatewayLifecycleState}

/-- The decoder returns the status that it is given. -/
theorem lifecycleStatus_of_fromParts {status : GatewayLifecycleStatus} {refunded : Option ℕ}
    {state : GatewayLifecycleState} (h : lifecycleStateFromParts status refunded = .ok state) :
    lifecycleStatus state = status := by
  unfold lifecycleStateFromParts at h
  split at h <;> simp_all [lifecycleStatus] <;> subst h <;> rfl

/-- A valid amount is decoded, and passes the constraint. -/
theorem valid_of_storedAmountIsValid (hstatus : s.status = lifecycleStatus incoming)
    (h : storedAmountIsValid incoming s.refundedAmountCents captured = true) :
    s.Valid captured ∧ s.amountCheck captured = true ∧ s.refundedAmountCents ≤ captured := by
  obtain ⟨status, refunded, at_⟩ := s
  obtain rfl : status = lifecycleStatus incoming := hstatus
  cases incoming with
  | unknown | pendingSettlement | voided =>
    obtain rfl : refunded = 0 := by simpa [storedAmountIsValid] using h
    exact ⟨⟨_, rfl, rfl⟩, rfl, Nat.zero_le _⟩
  | settled cumulative =>
    obtain ⟨hpos, hlt⟩ : 0 < captured ∧ refunded < captured := by
      simpa [storedAmountIsValid] using h
    refine ⟨?_, by simpa [StoredLifecycle.amountCheck, lifecycleStatus] using hlt, hlt.le⟩
    cases refunded with
    | zero => exact ⟨_, rfl, by simpa [storedAmountIsValid] using hpos⟩
    | succ n => exact ⟨_, rfl, by simpa [storedAmountIsValid] using ⟨hpos, hlt⟩⟩
  | refunded cumulative =>
    obtain ⟨hpos, rfl⟩ : 0 < captured ∧ refunded = captured := by
      simpa [storedAmountIsValid] using h
    refine ⟨?_, by simpa [StoredLifecycle.amountCheck, lifecycleStatus] using hpos, le_refl _⟩
    obtain ⟨n, rfl⟩ := Nat.exists_eq_succ_of_ne_zero hpos.ne'
    exact ⟨_, rfl, by simp [storedAmountIsValid]⟩
  | chargeback cumulative =>
    obtain ⟨hpos, hle⟩ : 0 < captured ∧ refunded ≤ captured := by
      simpa [storedAmountIsValid] using h
    refine ⟨?_, by simpa [StoredLifecycle.amountCheck, lifecycleStatus] using hle, hle⟩
    cases refunded with
    | zero => exact ⟨_, rfl, by simpa [storedAmountIsValid] using hpos⟩
    | succ n => exact ⟨_, rfl, by simpa [storedAmountIsValid] using ⟨hpos, hle⟩⟩

/-- What a valid row satisfies: it is decoded, it passes the constraint, and no more was refunded
than captured. -/
theorem StoredLifecycle.Valid.checks (h : s.Valid captured) :
    s.amountCheck captured = true ∧ s.refundedAmountCents ≤ captured := by
  obtain ⟨state, hparts, hamount⟩ := h
  exact (valid_of_storedAmountIsValid (lifecycleStatus_of_fromParts hparts).symm hamount).2

/-- The precedence decides between two states. -/
theorem evidenceTransition_eq (current incoming : GatewayLifecycleState) :
    evidenceTransition current incoming =
      if (lifecycleStatus current).precedence < (lifecycleStatus incoming).precedence then .advance
      else if lifecycleStatus current = lifecycleStatus incoming then .refresh
      else .superseded := by
  cases current <;> cases incoming <;> rfl

/-- A report that is applied is of no lower precedence. -/
theorem precedence_le_of_shouldAdvance {currentAt incomingAt : Option Timestamp}
    (h : shouldAdvance current refunded currentAt incoming incomingAt = true) :
    (lifecycleStatus current).precedence ≤ (lifecycleStatus incoming).precedence := by
  unfold shouldAdvance at h
  rw [evidenceTransition_eq] at h
  split_ifs at h with hlt heq
  · exact hlt.le
  · exact (congrArg _ heq).le

/-- The refunded amount does not decrease. -/
theorem le_nextRefunded (refunded : ℕ) (incoming : GatewayLifecycleState) :
    refunded ≤ nextRefunded refunded incoming :=
  le_max_left _ _

/-- One report on a valid row: it is applied, or leaves the row. -/
theorem applyLifecycleEvidence_cases (h : s.Valid captured) (e : LifecycleEvidence) :
    (∃ r, applyLifecycleEvidence captured s e = .ok (s, r) ∧ ∀ n, r ≠ .apply n) ∨
      (applyLifecycleEvidence captured s e =
          .ok (s.updated (nextRefunded s.refundedAmountCents e.state) e,
            .apply (nextRefunded s.refundedAmountCents e.state)) ∧
        (s.updated (nextRefunded s.refundedAmountCents e.state) e).Valid captured ∧
        s.status.precedence ≤ (lifecycleStatus e.state).precedence) := by
  obtain ⟨state, hparts, hamount⟩ := h
  have hstatus := lifecycleStatus_of_fromParts hparts
  have hunfold (t : LifecycleTransition)
      (ht : lifecycleTransition state s.refundedAmountCents s.lifecycleAt e.state e.effectiveAt
        captured = .ok t) (hn : ∀ n, t ≠ .apply n) :
      applyLifecycleEvidence captured s e = .ok (s, t) := by
    simp only [applyLifecycleEvidence, hparts, ht, bind, Except.bind]
  unfold lifecycleTransition at hunfold
  rw [if_neg (by simp [hamount])] at hunfold
  by_cases hin : incomingAmountIsValid e.state captured = false
  · left
    exact ⟨.invalidRefundEconomics, hunfold _ (by rw [if_pos hin]) nofun, nofun⟩
  by_cases hadv :
    shouldAdvance state s.refundedAmountCents s.lifecycleAt e.state e.effectiveAt = false
  · left
    exact ⟨.alreadySuperseded, hunfold _ (by rw [if_neg hin, if_pos hadv]) nofun, nofun⟩
  by_cases hnext : storedAmountIsValid e.state (nextRefunded s.refundedAmountCents e.state)
      captured = false
  · left
    exact ⟨.conflictingLifecycleEvidence,
      hunfold _ (by rw [if_neg hin, if_neg hadv, if_pos hnext]) nofun, nofun⟩
  right
  have hvalid := valid_of_storedAmountIsValid
    (s := s.updated (nextRefunded s.refundedAmountCents e.state) e) rfl
    (Bool.eq_true_of_not_eq_false hnext)
  refine ⟨?_, hvalid.1, ?_⟩
  · simp only [applyLifecycleEvidence, hparts, lifecycleTransition, hamount, hin, hadv, hnext, bind,
      Except.bind, hvalid.2.1, Bool.true_eq_false, if_false, if_true]
  · rw [← hstatus]
    exact precedence_le_of_shouldAdvance (by simpa using hadv)

/-! ## Runs of reports -/

/-- The columns do not go back: neither the precedence, nor the refunded amount, nor the time. -/
structure StoredLifecycle.Advances (s s' : StoredLifecycle) : Prop where
  status : s.status.precedence ≤ s'.status.precedence
  refunded : s.refundedAmountCents ≤ s'.refundedAmountCents
  lifecycleAt : ∀ t, s.lifecycleAt = some t → ∃ t', s'.lifecycleAt = some t' ∧ t ≤ t'

/-- A lifecycle that stays where it is. -/
theorem StoredLifecycle.Advances.refl (s : StoredLifecycle) : s.Advances s :=
  ⟨le_refl _, le_refl _, fun t ht => ⟨t, ht, le_refl t⟩⟩

/-- Advances compose. -/
theorem StoredLifecycle.Advances.trans {s s' s'' : StoredLifecycle} (h : s.Advances s')
    (h' : s'.Advances s'') : s.Advances s'' := by
  refine ⟨h.status.trans h'.status, h.refunded.trans h'.refunded, fun t ht => ?_⟩
  obtain ⟨t', ht', hle⟩ := h.lifecycleAt t ht
  obtain ⟨t'', ht'', hle'⟩ := h'.lifecycleAt t' ht'
  exact ⟨t'', ht'', hle.trans hle'⟩

/-- A later time is kept. -/
theorem le_greatest {t : Timestamp} (t' : Option Timestamp) :
    ∃ u, greatest (some t) t' = some u ∧ t ≤ u := by
  cases t' with
  | none => exact ⟨t, rfl, le_refl t⟩
  | some t' => exact ⟨max t t', rfl, le_max_left t t'⟩

/-- A time that was taken over is not taken over again. -/
theorem greatest_greatest (t t' : Option Timestamp) :
    greatest (greatest t t') t' = greatest t t' := by
  cases t with
  | none => cases t' with
    | none => rfl
    | some t' => simp [greatest]
  | some t => cases t' with
    | none => rfl
    | some t' => simp [greatest]

/-- An amount that was taken over is not taken over again. -/
theorem nextRefunded_nextRefunded (refunded : ℕ) (incoming : GatewayLifecycleState) :
    nextRefunded (nextRefunded refunded incoming) incoming = nextRefunded refunded incoming := by
  unfold nextRefunded
  cases lifecycleRefundedAmount incoming with
  | none => simp
  | some n => simp

/-- One report on a valid row: the row stays valid and does not go back, only an applied report
changes it, and the same report again leaves it. -/
theorem applyLifecycleEvidence_valid (h : s.Valid captured) (e : LifecycleEvidence) :
    ∃ s' r, applyLifecycleEvidence captured s e = .ok (s', r) ∧ s'.Valid captured ∧
      s.Advances s' ∧ ((∀ n, r ≠ .apply n) → s' = s) ∧
      ∃ r', applyLifecycleEvidence captured s' e = .ok (s', r') := by
  rcases applyLifecycleEvidence_cases h e with ⟨r, hr, -⟩ | ⟨hr, hvalid, hprec⟩
  · exact ⟨s, r, hr, h, .refl s, fun _ => rfl, r, hr⟩
  refine ⟨_, _, hr, hvalid, ⟨hprec, le_nextRefunded _ _, ?_⟩, fun hn => absurd rfl (hn _), ?_⟩
  · intro t ht
    simpa [StoredLifecycle.updated, ht] using le_greatest e.effectiveAt
  -- A second application stores what the first one did.
  · rcases applyLifecycleEvidence_cases hvalid e with ⟨r', hr', -⟩ | ⟨hr', -, -⟩
    · exact ⟨r', hr'⟩
    · refine ⟨.apply (nextRefunded s.refundedAmountCents e.state), hr'.trans ?_⟩
      simp only [StoredLifecycle.updated, nextRefunded_nextRefunded, greatest_greatest]

/-- Reports on a valid row never fail, and leave it valid and further on. -/
theorem foldLifecycleEvidence_valid (reports : List LifecycleEvidence) :
    ∀ {s}, s.Valid captured → ∃ s', foldLifecycleEvidence captured s reports = .ok s' ∧
      s'.Valid captured ∧ s.Advances s' := by
  induction reports with
  | nil =>
    intro s h
    exact ⟨s, rfl, h, .refl s⟩
  | cons e reports ih =>
    intro s h
    obtain ⟨s₁, r, hr, hvalid, hadv, -⟩ := applyLifecycleEvidence_valid h e
    obtain ⟨s₂, hs₂, hvalid₂, hadv₂⟩ := ih hvalid
    refine ⟨s₂, ?_, hvalid₂, hadv.trans hadv₂⟩
    simp only [foldLifecycleEvidence, hr, bind, Except.bind]
    exact hs₂

/-- The reports of a run are those of its two parts. -/
theorem foldLifecycleEvidence_append (s : StoredLifecycle) (reports more : List LifecycleEvidence) :
    foldLifecycleEvidence captured s (reports ++ more) =
      (foldLifecycleEvidence captured s reports).bind
        (foldLifecycleEvidence captured · more) := by
  induction reports generalizing s with
  | nil => rfl
  | cons e reports ih =>
    simp only [List.cons_append, foldLifecycleEvidence, bind, Except.bind]
    cases applyLifecycleEvidence captured s e with
    | error _ => rfl
    | ok p => exact ih p.1

/-- A payment without reports. -/
theorem valid_initial (captured : ℕ) : ({} : StoredLifecycle).Valid captured := ⟨.unknown, rfl, rfl⟩

end Step

/-- The lifecycle of a payment, over every sequence of reports. After the reports the columns are
stored, decoded, and within the constraint, and no more is refunded than was captured; further
reports never fail and never go back in the precedence, the refunded amount, or the time; a report
that is not applied leaves the columns; and a report that is repeated at once leaves them too. -/
theorem lifecycle_evidence_monotone (captured : ℕ) (reports : List LifecycleEvidence) :
    ∃ s, foldLifecycleEvidence captured {} reports = .ok s ∧
      (∃ state, lifecycleStateFromParts s.status (some s.refundedAmountCents) = .ok state) ∧
      s.amountCheck captured = true ∧ s.refundedAmountCents ≤ captured ∧
      (∀ more, ∃ s', foldLifecycleEvidence captured {} (reports ++ more) = .ok s' ∧
        s.Advances s') ∧
      ∀ e, ∃ s' r, applyLifecycleEvidence captured s e = .ok (s', r) ∧
        ((∀ n, r ≠ .apply n) → s' = s) ∧
        ∃ r', applyLifecycleEvidence captured s' e = .ok (s', r') := by
  obtain ⟨s, hs, hvalid, -⟩ := foldLifecycleEvidence_valid reports (valid_initial captured)
  refine ⟨s, hs, ?_, hvalid.checks.1, hvalid.checks.2, fun more => ?_, fun e => ?_⟩
  · obtain ⟨state, hstate, -⟩ := hvalid
    exact ⟨state, hstate⟩
  · obtain ⟨s', hs', -, hadv⟩ := foldLifecycleEvidence_valid more hvalid
    refine ⟨s', ?_, hadv⟩
    rw [foldLifecycleEvidence_append, hs]
    exact hs'
  · obtain ⟨s', r, hr, -, -, hsame, hagain⟩ := applyLifecycleEvidence_valid hvalid e
    exact ⟨s', r, hr, hsame, hagain⟩

end SyrupRail
