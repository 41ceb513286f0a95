import SyrupRail.Attempt.Writers
import SyrupRail.Lib.Run

/-!
# The state machine of a payment attempt

What any sequence of the writers can make of an attempt. `AttemptEffect` says once what a writer may
do to a row, `AttemptWriter.write_effect` proves it of every writer, and each law of the machine is
read off that relation: the approved status is absorbing, a declined or failed attempt is reopened
only by late approved evidence, and a row that was submitted is prepared again only by a restore.
That a stored row loads again comes from the constraints, which every stored row has passed.
-/

namespace SyrupRail

open Transactions

/-! ## What one writer does -/

/-- The columns that no writer changes. -/
structure AttemptRequest where
  id : Id
  billingScopeId : Id
  subscriberId : Id
  gatewayAccountId : Id
  gatewayConfigurationId : Id
  requiredGatewayAccountMode : GatewayAccountMode
  target : PaymentAttemptTarget
  idempotencyKey : String
  amount : Money
  gatewayOrderId : String
  lifecycle : GatewayLifecycleState
  createdAt : Timestamp

/-- The request of an attempt. -/
def PaymentAttempt.request (a : PaymentAttempt) : AttemptRequest where
  id := a.id
  billingScopeId := a.billingScopeId
  subscriberId := a.subscriberId
  gatewayAccountId := a.gatewayAccountId
  gatewayConfigurationId := a.gatewayConfigurationId
  requiredGatewayAccountMode := a.requiredGatewayAccountMode
  target := a.target
  idempotencyKey := a.idempotencyKey
  amount := a.amount
  gatewayOrderId := a.gatewayOrderId
  lifecycle := a.lifecycle
  createdAt := a.createdAt

/-- Two rows with the same request. -/
def PaymentAttempt.SameRequest (a a' : PaymentAttempt) : Prop := a'.request = a.request

namespace PaymentAttempt.SameRequest

variable {a a' : PaymentAttempt}

/-- The attempt is the same one. -/
theorem id (h : a.SameRequest a') : a'.id = a.id := congrArg AttemptRequest.id h

/-- Its target is that of the request. -/
theorem target (h : a.SameRequest a') : a'.target = a.target := congrArg AttemptRequest.target h

/-- So is its amount. -/
theorem amount (h : a.SameRequest a') : a'.amount = a.amount := congrArg AttemptRequest.amount h

/-- No writer moves the settlement. -/
theorem lifecycle (h : a.SameRequest a') : a'.lifecycle = a.lifecycle :=
  congrArg AttemptRequest.lifecycle h

/-- The time of its reservation stays. -/
theorem createdAt (h : a.SameRequest a') : a'.createdAt = a.createdAt :=
  congrArg AttemptRequest.createdAt h

/-- The kind is that of the target. -/
theorem kind (h : a.SameRequest a') : a'.kind = a.kind :=
  congrArg PaymentAttemptTarget.kind h.target

end PaymentAttempt.SameRequest

/-- The linkage columns, which only an approval changes. -/
structure PaymentAttempt.SameLinkage (a a' : PaymentAttempt) : Prop where
  subscriptionId : a'.subscriptionId = a.subscriptionId
  paymentMethodId : a'.paymentMethodId = a.paymentMethodId

/-- Whether a writer approves its attempt. -/
def AttemptWriter.approves : AttemptWriter → Bool
  | .persist _ (.approved _) => true
  | _ => false

/-- What a writer that affects a row may do to its status and its submission. -/
inductive AttemptEffect (now : Timestamp) (w : AttemptWriter) (a a' : PaymentAttempt) : Prop
  /-- The status stays, with only texts and times changed. -/
  | touch (status : a'.status = a.status) (submitted : a'.submittedAt = a.submittedAt)
      (code : a'.resolutionCode = a.resolutionCode) (resolved : a'.resolvedAt = a.resolvedAt)
  /-- An open attempt is resolved or put under review, and its submission may be cleared. One that
  ends with its submission ends at the time of the writer. -/
  | resolve (open_ : a.status.isResolvable = true) (status : a'.status ≠ .pending)
      (submitted : a'.submittedAt = a.submittedAt ∨ a'.submittedAt = none)
      (resolved : a'.status.isResolvable = false → a'.submittedAt ≠ none → a'.resolvedAt = some now)
  /-- Late approved evidence puts any attempt that is not approved under review. -/
  | reopen (writer : ∃ e c m, w = .persist e (.lateApprovalReview c m))
      (open_ : a.status ≠ .approved) (status : a'.status = .reviewRequired)
      (submitted : a'.submittedAt = a.submittedAt)
  /-- A prepared attempt is admitted. -/
  | admitPrepared (writer : w = .admitPrepared) (prepared : a.status = .pending ∧
      a.submittedAt = none)
      (status : a'.status = .pending)
  /-- An admitted attempt is prepared again. -/
  | restore (writer : w = .restore) (admitted : a.status = .pending ∧ a.submittedAt ≠ none)
      (status : a'.status = .pending) (submitted : a'.submittedAt = none)

/-- The trigger changes only the review time. -/
theorem PaymentAttempt.setReviewRequiredAt_eq (now : Timestamp) (a : PaymentAttempt) :
    ∃ r, a.setReviewRequiredAt now = { a with reviewRequiredAt := r } := by
  unfold PaymentAttempt.setReviewRequiredAt
  split
  · exact ⟨_, rfl⟩
  · exact ⟨_, rfl⟩

/-- An update that affects a row: the predicate matched, and the stored row passed the
constraints. -/
theorem PaymentAttempt.update_eq_some {now : Timestamp} {m : Bool} {new a' : PaymentAttempt}
    (h : PaymentAttempt.update now m new = .ok (some a')) :
    m = true ∧ a'.checks = true ∧ ∃ r, a' = { new with reviewRequiredAt := r } := by
  unfold PaymentAttempt.update at h
  split_ifs at h with hm hc
  · obtain ⟨r, hr⟩ := new.setReviewRequiredAt_eq now
    have ha : new.setReviewRequiredAt now = a' := by simpa using h
    exact ⟨hm, ha ▸ hc, r, by rw [← ha, hr]⟩
  · simp at h

/-- A writer that requires one row stores the row of its update. -/
theorem requireOneRow_eq_ok {x : Except AttemptWriteError (Option PaymentAttempt)}
    {a' : PaymentAttempt} (h : requireOneRow x = .ok a') : x = .ok (some a') := by
  unfold requireOneRow at h
  split at h
  · simpa using h
  · simp at h
  · simp at h

/-- A writer that accepts no row leaves the row, or stores that of its update. -/
theorem orUnchanged_eq_ok {a a' : PaymentAttempt}
    {x : Except AttemptWriteError (Option PaymentAttempt)} (h : orUnchanged a x = .ok a') :
    a' = a ∨ x = .ok (some a') := by
  unfold orUnchanged at h
  match x, h with
  | .ok none, h =>
    left
    simpa [Except.map] using h.symm
  | .ok (some row), h =>
    right
    simpa [Except.map] using h

/-- A stored row of a writer: it passed the constraints, and is an effect of the writer. -/
structure AttemptWriter.Stores (now : Timestamp) (w : AttemptWriter) (a a' : PaymentAttempt) : Prop
    where
  checks : a'.checks = true
  same : a.SameRequest a'
  linkage : (w.approves = true ∧ a'.status = .approved) ∨ a.SameLinkage a'
  approved : a'.status = .approved → w.approves = true ∨ a'.status = a.status
  effect : AttemptEffect now w a a'

/-- The stored row of an update has the effect of the row it was asked to store. -/
theorem AttemptWriter.stores_of_update {w : AttemptWriter} {now : Timestamp} {m : Bool}
    {a new a' : PaymentAttempt} (h : PaymentAttempt.update now m new = .ok (some a'))
    (hsame : a.SameRequest new)
    (hlink : (w.approves = true ∧ new.status = .approved) ∨ a.SameLinkage new)
    (happroved : new.status = .approved → w.approves = true ∨ new.status = a.status)
    (heffect : m = true → AttemptEffect now w a new) : w.Stores now a a' := by
  obtain ⟨hm, hchecks, r, rfl⟩ := PaymentAttempt.update_eq_some h
  refine ⟨hchecks, hsame, hlink.imp_right fun hl => ⟨hl.subscriptionId, hl.paymentMethodId⟩,
    happroved, ?_⟩
  -- The trigger leaves the status and the submission of `new` alone.
  cases heffect hm with
  | touch h₁ h₂ h₃ h₄ => exact .touch h₁ h₂ h₃ h₄
  | resolve h₁ h₂ h₃ h₄ => exact .resolve h₁ h₂ h₃ h₄
  | reopen h₁ h₂ h₃ h₄ => exact .reopen h₁ h₂ h₃ h₄
  | admitPrepared h₁ h₂ h₃ => exact .admitPrepared h₁ h₂ h₃
  | restore h₁ h₂ h₃ h₄ => exact .restore h₁ h₂ h₃ h₄

/-- The columns of an expired attempt are those of the same request. -/
theorem PaymentAttempt.sameRequest_expired (now : Timestamp) (a : PaymentAttempt)
    (text : Option String) (code : Option PaymentResolutionCode) (resolvedAt : Option Timestamp) :
    a.SameRequest (a.expired now text code resolvedAt) :=
  rfl

/-- A stale local attempt is open. -/
theorem PaymentAttempt.isResolvable_of_isStaleUnsubmitted {now : Timestamp} {a : PaymentAttempt}
    (h : a.isStaleUnsubmitted now = true) : a.status.isResolvable = true := by
  simp only [PaymentAttempt.isStaleUnsubmitted, decide_eq_true_eq] at h
  rcases h.1 with h | h
  · simp [h, PaymentAttemptStatus.isResolvable]
  · simp [h, PaymentAttemptStatus.isResolvable]

/-- A stale local attempt was never submitted. -/
theorem PaymentAttempt.submittedAt_of_isStaleUnsubmitted {now : Timestamp} {a : PaymentAttempt}
    (h : a.isStaleUnsubmitted now = true) : a.submittedAt = none := by
  simp only [PaymentAttempt.isStaleUnsubmitted, decide_eq_true_eq] at h
  exact h.2.1

/-- An expiry of a stale attempt, of any kind, resolves it. -/
theorem AttemptWriter.stores_of_expiry {w : AttemptWriter} {now : Timestamp} {k : Bool}
    {a a' : PaymentAttempt} {text : Option String} {code : Option PaymentResolutionCode}
    {resolvedAt : Option Timestamp}
    (h : orUnchanged a (PaymentAttempt.update now (k && a.isStaleUnsubmitted now)
      (a.expired now text code resolvedAt)) = .ok a') : a' = a ∨ w.Stores now a a' := by
  rcases orUnchanged_eq_ok h with h | h
  · exact .inl h
  · right
    refine stores_of_update h (a.sameRequest_expired now text code resolvedAt) (.inr ⟨rfl, rfl⟩)
      nofun ?_
    intro hm
    have hstale : a.isStaleUnsubmitted now = true := by
      rw [Bool.and_eq_true] at hm
      exact hm.2
    refine .resolve (PaymentAttempt.isResolvable_of_isStaleUnsubmitted hstale)
      (by simp [PaymentAttempt.expired]) (.inl rfl) fun _ hsub => ?_
    exact absurd (PaymentAttempt.submittedAt_of_isStaleUnsubmitted hstale) hsub

/-- A transition keeps the request. -/
theorem AttemptTransition.sameRequest_row (now : Timestamp) (e : ProcessorEvidence)
    (t : AttemptTransition) (a : PaymentAttempt) : a.SameRequest (t.row now e a) := by
  match t with
  | .approved .hostCharge => exact rfl
  | .approved (.subscription ..) => exact rfl
  | .resolved .. => exact rfl
  | .lateApprovalReview .. => exact rfl

/-- A transition without a linkage of its own keeps the old one. -/
theorem PaymentAttempt.sameLinkage_record (now : Timestamp) (e : ProcessorEvidence)
    (s : PaymentAttemptStatus) (c : Option PaymentResolutionCode) (a : PaymentAttempt) :
    a.SameLinkage (a.record now e s c none none) :=
  ⟨rfl, rfl⟩

/-- A transition to a terminal status is timed. -/
theorem PaymentAttempt.resolvedAt_record {now : Timestamp} {e : ProcessorEvidence}
    {s : PaymentAttemptStatus} {c : Option PaymentResolutionCode} {sub pm : Option Id}
    {a : PaymentAttempt} (h : s.isResolvable = false) :
    (a.record now e s c sub pm).resolvedAt = some now := by
  simp [PaymentAttempt.record, h]

/-- No resolution makes an attempt pending again. -/
theorem AttemptResolutionStatus.paymentStatus_ne_pending (s : AttemptResolutionStatus) :
    s.paymentStatus ≠ .pending := by
  cases s <;> simp [AttemptResolutionStatus.paymentStatus]

/-- No resolution approves an attempt. -/
theorem AttemptResolutionStatus.paymentStatus_ne_approved (s : AttemptResolutionStatus) :
    s.paymentStatus ≠ .approved := by
  cases s <;> simp [AttemptResolutionStatus.paymentStatus]

/-- `persist_attempt_transition` resolves an open attempt, or reopens it. -/
theorem persistAttemptTransition_stores {now : Timestamp} {e : ProcessorEvidence}
    {t : AttemptTransition} {a a' : PaymentAttempt}
    (h : persistAttemptTransition now e t a = .ok a') :
    (AttemptWriter.persist e t).Stores now a a' := by
  have hu := requireOneRow_eq_ok h
  refine AttemptWriter.stores_of_update hu (t.sameRequest_row now e a) ?_ ?_ ?_
  · match t with
    | .approved .hostCharge => exact .inl ⟨rfl, rfl⟩
    | .approved (.subscription ..) => exact .inl ⟨rfl, rfl⟩
    | .resolved .. => exact .inr (a.sameLinkage_record now e _ _)
    | .lateApprovalReview .. => exact .inr ⟨rfl, rfl⟩
  · match t with
    | .approved _ => exact fun _ => .inl rfl
    | .resolved status _ => exact fun h => absurd h status.paymentStatus_ne_approved
    | .lateApprovalReview .. => exact nofun
  · intro hm
    match t with
    | .approved .hostCharge => exact .resolve hm (nofun) (.inl rfl) fun _ _ => rfl
    | .approved (.subscription ..) => exact .resolve hm (nofun) (.inl rfl) fun _ _ => rfl
    | .resolved status _ =>
      refine .resolve hm status.paymentStatus_ne_pending (.inl rfl) fun hs _ => ?_
      exact PaymentAttempt.resolvedAt_record hs
    | .lateApprovalReview c m =>
      refine .reopen ⟨e, c, m, rfl⟩ ?_ rfl rfl
      simpa [AttemptTransition.accepts] using hm

/-- A resolution at the boundary `AdmittedNotSubmitted` resolves an open attempt and clears its
submission. -/
theorem resolveNotSubmitted_stores {now : Timestamp} {e : ProcessorEvidence}
    {s : AttemptResolutionStatus} {c : Option PaymentResolutionCode} {a a' : PaymentAttempt}
    (h : resolveNotSubmitted now e s c a = .ok a') :
    (AttemptWriter.resolveNotSubmitted e s c).Stores now a a' := by
  unfold resolveNotSubmitted at h
  cases hp : persistAttemptTransition now e (.resolved s c) a with
  | error err => simp [hp, bind, Except.bind] at h
  | ok b =>
    have hclear : clearResolvedAttemptSubmission now b = .ok a' := by
      simpa [hp, bind, Except.bind] using h
    have hb := persistAttemptTransition_stores hp
    obtain ⟨-, hchecks, r, rfl⟩ := PaymentAttempt.update_eq_some (requireOneRow_eq_ok hclear)
    have hlink : a.SameLinkage b := by
      rcases hb.linkage with happ | hl
      · simp [AttemptWriter.approves] at happ
      · exact hl
    obtain ⟨hm, -, r', hrow⟩ := PaymentAttempt.update_eq_some (requireOneRow_eq_ok hp)
    refine ⟨hchecks, hb.same, .inr ⟨hlink.subscriptionId, hlink.paymentMethodId⟩, fun h => ?_, ?_⟩
    · rw [hrow] at h
      exact absurd h s.paymentStatus_ne_approved
    refine .resolve hm ?_ (.inr rfl) fun _ hsub => absurd rfl hsub
    rw [hrow]
    exact s.paymentStatus_ne_pending

/-- An exact-query observation resolves an open attempt, keeps it under review, or renews the text
of an unknown one. -/
theorem applyExactQueryObservation_stores {now : Timestamp} {o : ExactQueryObservation}
    {a a' : PaymentAttempt} (h : applyExactQueryObservation now o a = .ok a') :
    a' = a ∨ (AttemptWriter.observe o).Stores now a a' := by
  unfold applyExactQueryObservation at h
  split at h
  · left
    simpa using h.symm
  · refine (orUnchanged_eq_ok h).imp_right fun hu => ?_
    refine AttemptWriter.stores_of_update hu (a.sameRequest_expired now _ _ _)
      (.inr ⟨rfl, rfl⟩) nofun fun hm => ?_
    refine .resolve ?_ (nofun) (.inl rfl) fun _ _ => rfl
    rcases of_decide_eq_true hm with hs | hs
    · simp [hs, PaymentAttemptStatus.isResolvable]
    · simp [hs, PaymentAttemptStatus.isResolvable]
  · refine (orUnchanged_eq_ok h).imp_right fun hu => ?_
    refine AttemptWriter.stores_of_update hu rfl (.inr ⟨rfl, rfl⟩) nofun fun hm => ?_
    exact .resolve hm (nofun) (.inl rfl) nofun
  · refine (orUnchanged_eq_ok h).imp_right fun hu => ?_
    exact AttemptWriter.stores_of_update hu rfl (.inr ⟨rfl, rfl⟩) (fun _ => .inr rfl)
      fun _ => .touch rfl rfl rfl rfl

/-- What every writer does: it leaves the row as it was, or stores one of its effects. -/
theorem AttemptWriter.write_stores {now : Timestamp} {w : AttemptWriter} {a a' : PaymentAttempt}
    (h : w.write now a = .ok a') : a' = a ∨ w.Stores now a a' := by
  have prepared (hm : a.isPrepared = true) : a.status = .pending ∧ a.submittedAt = none := by
    simpa [PaymentAttempt.isPrepared] using hm
  have resolvable (hm : a.isPrepared = true) : a.status.isResolvable = true := by
    rw [(prepared hm).1]
    rfl
  cases w with
  | persist e t => exact .inr (persistAttemptTransition_stores h)
  | admitPrepared =>
    have hu := requireOneRow_eq_ok h
    refine .inr (stores_of_update hu rfl (.inr ⟨rfl, rfl⟩) (fun _ => .inr rfl) fun hm => ?_)
    exact .admitPrepared rfl (prepared hm) (prepared hm).1
  | reject c m =>
    refine (orUnchanged_eq_ok h).imp_right fun hu => ?_
    refine stores_of_update hu rfl (.inr ⟨rfl, rfl⟩) nofun fun hm => ?_
    exact .resolve (resolvable hm) (nofun) (.inl rfl) fun _ hsub => absurd (prepared hm).2 hsub
  | rejectInitial m =>
    have hu := requireOneRow_eq_ok h
    refine .inr (stores_of_update hu rfl (.inr ⟨rfl, rfl⟩) nofun fun hm => ?_)
    exact .resolve (resolvable hm) (nofun) (.inl rfl) fun _ hsub => absurd (prepared hm).2 hsub
  | restore =>
    have hu := requireOneRow_eq_ok h
    refine .inr (stores_of_update hu rfl (.inr ⟨rfl, rfl⟩) (fun _ => .inr rfl) fun hm => ?_)
    have hadmitted := of_decide_eq_true hm
    exact .restore rfl hadmitted hadmitted.1 rfl
  | resolveNotSubmitted e s c => exact .inr (resolveNotSubmitted_stores h)
  | expireSubscriptionCharge => exact stores_of_expiry h
  | expirePaymentMethodUpdate keep => exact stores_of_expiry h
  | expireInitial => exact stores_of_expiry h
  | expireHostCharge => exact stores_of_expiry h
  | observe o => exact applyExactQueryObservation_stores h
  | claim =>
    refine (orUnchanged_eq_ok h).imp_right fun hu => ?_
    exact stores_of_update hu rfl (.inr ⟨rfl, rfl⟩) (fun _ => .inr rfl)
      fun _ => .touch rfl rfl rfl rfl
  | manualFailure e =>
    have hu := requireOneRow_eq_ok h
    refine .inr (stores_of_update hu rfl (.inr ⟨rfl, rfl⟩) nofun fun hm => ?_)
    have hs : a.status.isResolvable = true := by
      rw [of_decide_eq_true hm]
      rfl
    exact .resolve hs (nofun) (.inl rfl) fun _ _ => rfl
  | attest c =>
    simp only [write, failReversedAttempt] at h
    split_ifs at h with hs
    · left
      simpa using h.symm
    · have hu := requireOneRow_eq_ok h
      refine .inr (stores_of_update hu rfl (.inr ⟨rfl, rfl⟩) nofun fun _ => ?_)
      exact .resolve (by simpa using hs) (nofun) (.inl rfl) fun _ _ => rfl

/-! ## Compare-and-set -/

/-- The predicate of a writer on the row it would change. -/
def AttemptWriter.matched (now : Timestamp) (w : AttemptWriter) (a : PaymentAttempt) : Bool :=
  match w with
  | .persist _ transition => transition.accepts a.status
  | .admitPrepared | .reject .. | .rejectInitial _ => a.isPrepared
  | .restore => a.status = .pending ∧ a.submittedAt ≠ none
  | .resolveNotSubmitted .. => a.status.isResolvable
  | .expireSubscriptionCharge => a.isSubscriptionCharge && a.isStaleUnsubmitted now
  | .expirePaymentMethodUpdate _ =>
    a.kind = .subscriptionPaymentMethodUpdate && a.isStaleUnsubmitted now
  | .expireInitial => a.kind = .subscriptionInitial && a.isStaleUnsubmitted now
  | .expireHostCharge => a.kind = .hostCharge && a.isStaleUnsubmitted now
  | .observe observation =>
    match exactQueryDecision now observation a with
    | none => false
    | some (.fail _) => a.status = .pending ∨ a.status = .reviewRequired
    | some (.review _) => a.status.isResolvable
    | some (.note _) => true
  | .claim => true
  | .manualFailure _ => a.status = .reviewRequired
  | .attest _ => !a.status.isTerminal

/-- An attempt after a writer at the time `now`: the stored row, or the old one when it fails. -/
def execAttempt (a : PaymentAttempt) (step : Timestamp × AttemptWriter) : PaymentAttempt :=
  match step.2.write step.1 a with
  | .ok a' => a'
  | .error _ => a

/-- An update whose predicate does not match affects no row. -/
theorem PaymentAttempt.update_false (now : Timestamp) (new : PaymentAttempt) :
    PaymentAttempt.update now false new = .ok none := rfl

/-- A writer that requires one row fails without one. -/
theorem requireOneRow_ok_none : requireOneRow (.ok none) = .error .invalidState := rfl

/-- A writer that accepts no row keeps the row without one. -/
theorem orUnchanged_ok_none (a : PaymentAttempt) : orUnchanged a (.ok none) = .ok a := rfl

/-- A writer whose predicate does not match fails, or succeeds with the row as it was. -/
theorem AttemptWriter.write_of_not_matched {now : Timestamp} {w : AttemptWriter}
    {a : PaymentAttempt} (h : w.matched now a = false) :
    w.write now a = .error .invalidState ∨ w.write now a = .ok a := by
  -- A writer that requires its row fails without one; the others leave it.
  cases w with
  | persist e t =>
    left
    simp only [matched] at h
    simp only [write, persistAttemptTransition, h, PaymentAttempt.update_false,
      requireOneRow_ok_none]
  | admitPrepared =>
    left
    simp only [matched] at h
    simp only [write, admitPreparedAttempt, h, PaymentAttempt.update_false, requireOneRow_ok_none]
  | reject c m =>
    right
    simp only [matched] at h
    simp only [write, rejectPreparedAttempt, h, PaymentAttempt.update_false, orUnchanged_ok_none]
  | rejectInitial m =>
    left
    simp only [matched] at h
    simp only [write, rejectLockedPreparedInitial, h, PaymentAttempt.update_false,
      requireOneRow_ok_none]
  | restore =>
    left
    simp only [matched] at h
    simp only [write, restorePreparedAttemptSubmission, h, PaymentAttempt.update_false,
      requireOneRow_ok_none]
  | resolveNotSubmitted e s c =>
    left
    simp only [matched] at h
    simp only [write, SyrupRail.resolveNotSubmitted, persistAttemptTransition,
      AttemptTransition.accepts, h, PaymentAttempt.update_false, requireOneRow_ok_none]
    rfl
  | expireSubscriptionCharge =>
    right
    simp only [matched] at h
    simp only [write, failStaleUnsubmittedSubscriptionCharge, h, PaymentAttempt.update_false,
      orUnchanged_ok_none]
  | expirePaymentMethodUpdate keep =>
    right
    simp only [matched] at h
    simp only [write, failStaleUnsubmittedPaymentMethodUpdate, h, PaymentAttempt.update_false,
      orUnchanged_ok_none]
  | expireInitial =>
    right
    simp only [matched] at h
    simp only [write, expireStaleInitialAttempt, h, PaymentAttempt.update_false,
      orUnchanged_ok_none]
  | expireHostCharge =>
    right
    simp only [matched] at h
    simp only [write, failStaleUnsubmittedHostCharge, h, PaymentAttempt.update_false,
      orUnchanged_ok_none]
  | observe o =>
    right
    simp only [matched] at h
    simp only [write, applyExactQueryObservation]
    cases hd : exactQueryDecision now o a with
    | none => rfl
    | some decision =>
      cases decision with
      | fail m =>
        simp only [hd] at h
        simp only [h, PaymentAttempt.update_false, orUnchanged_ok_none]
      | review m =>
        simp only [hd] at h
        simp only [h, PaymentAttempt.update_false, orUnchanged_ok_none]
      | note m => simp [hd] at h
  | claim => simp [matched] at h
  | manualFailure e =>
    left
    simp only [matched] at h
    simp only [write, updateAttemptForManualFailure, h, PaymentAttempt.update_false,
      requireOneRow_ok_none]
  | attest c =>
    right
    simp only [matched, Bool.not_eq_false'] at h
    simp only [write, failReversedAttempt, h, if_true]

/-- A writer whose predicate does not match leaves the row unchanged. -/
theorem execAttempt_of_not_matched {now : Timestamp} {w : AttemptWriter} {a : PaymentAttempt}
    (h : w.matched now a = false) : execAttempt a (now, w) = a := by
  unfold execAttempt
  rcases AttemptWriter.write_of_not_matched h with hw | hw
  · rw [hw]
  · rw [hw]

/-- A step leaves the row as it was, or stores an effect of its writer. -/
theorem execAttempt_stores (a : PaymentAttempt) (now : Timestamp) (w : AttemptWriter) :
    execAttempt a (now, w) = a ∨ w.Stores now a (execAttempt a (now, w)) := by
  cases h : w.write now a with
  | error e => simp [execAttempt, h]
  | ok a' => simpa [execAttempt, h] using AttemptWriter.write_stores h

/-! ## The laws of the machine -/

/-- The approved status is kept by every step. -/
theorem execAttempt_approved {a : PaymentAttempt} (h : a.status = .approved)
    (step : Timestamp × AttemptWriter) : (execAttempt a step).status = .approved := by
  rcases execAttempt_stores a step.1 step.2 with heq | hs
  · rw [heq, h]
  · cases hs.effect with
    | touch hstatus _ _ _ => rw [hstatus, h]
    | resolve hopen _ _ _ => simp [h, PaymentAttemptStatus.isResolvable] at hopen
    | reopen _ hopen _ _ => exact absurd h hopen
    | admitPrepared _ hp _ => simp [h] at hp
    | restore _ hp _ _ => simp [h] at hp

/-- The approved status is absorbing. -/
theorem run_approved (steps : List (Timestamp × AttemptWriter)) {a : PaymentAttempt}
    (h : a.status = .approved) : (run execAttempt a steps).status = .approved :=
  run_invariant (I := fun a => a.status = .approved) (P := fun _ => True)
    (fun _ step _ ha => execAttempt_approved ha step) steps a (fun _ _ => trivial) h

/-- A declined or failed attempt changes its status only by late approved evidence, and only to a
review. -/
theorem execAttempt_leaves_closed {a : PaymentAttempt} {now : Timestamp} {w : AttemptWriter}
    (h : a.status = .declined ∨ a.status = .failed)
    (hne : (execAttempt a (now, w)).status ≠ a.status) :
    (∃ e c m, w = .persist e (.lateApprovalReview c m)) ∧
      (execAttempt a (now, w)).status = .reviewRequired := by
  rcases execAttempt_stores a now w with heq | hs
  · rw [heq] at hne
    exact absurd rfl hne
  · cases hs.effect with
    | touch hstatus _ _ _ => exact absurd hstatus hne
    | resolve hopen _ _ _ =>
      rcases h with h | h <;> simp [h, PaymentAttemptStatus.isResolvable] at hopen
    | reopen hw _ hstatus _ => exact ⟨hw, hstatus⟩
    | admitPrepared _ hp _ => rcases h with h | h <;> simp [h] at hp
    | restore _ hp _ _ => rcases h with h | h <;> simp [h] at hp

/-- Only the admission of a prepared attempt sets the submission. -/
theorem execAttempt_submits {a : PaymentAttempt} {now : Timestamp} {w : AttemptWriter}
    (hne : (execAttempt a (now, w)).submittedAt ≠ a.submittedAt)
    (hset : (execAttempt a (now, w)).submittedAt ≠ none) :
    w = .admitPrepared ∧ a.status = .pending ∧ a.submittedAt = none := by
  rcases execAttempt_stores a now w with heq | hs
  · rw [heq] at hne
    exact absurd rfl hne
  · cases hs.effect with
    | touch _ hsub _ _ => exact absurd hsub hne
    | resolve _ _ hsub _ => exact absurd hsub (not_or.mpr ⟨hne, hset⟩)
    | reopen _ _ _ hsub => exact absurd hsub hne
    | admitPrepared hw hp _ => exact ⟨hw, hp⟩
    | restore _ _ _ hsub => exact absurd hsub hset

/-- A step that leaves a pending attempt without a submission that it had is a restore. -/
theorem execAttempt_restores {a : PaymentAttempt} {now : Timestamp} {w : AttemptWriter}
    (h : a.status = .pending → a.submittedAt ≠ none)
    (hp : (execAttempt a (now, w)).status = .pending)
    (hn : (execAttempt a (now, w)).submittedAt = none) :
    w = .restore ∧ a.status = .pending ∧ a.submittedAt ≠ none := by
  rcases execAttempt_stores a now w with heq | hs
  · rw [heq] at hp hn
    exact absurd hn (h hp)
  · cases hs.effect with
    | touch hstatus hsub _ _ =>
      rw [hstatus] at hp
      rw [hsub] at hn
      exact absurd hn (h hp)
    | resolve _ hstatus _ _ => exact absurd hp hstatus
    | reopen _ _ hstatus _ => simp [hstatus] at hp
    | admitPrepared _ hprep _ => exact absurd hprep.2 (h hprep.1)
    | restore hw hadm _ _ => exact ⟨hw, hadm⟩

/-- An attempt that was submitted and is prepared again was restored in between, while it was still
pending. -/
theorem run_prepared_exists_restore {a : PaymentAttempt} (h : a.submittedAt ≠ none)
    (steps : List (Timestamp × AttemptWriter))
    (hp : (run execAttempt a steps).status = .pending)
    (hn : (run execAttempt a steps).submittedAt = none) :
    ∃ pre now post, steps = pre ++ (now, .restore) :: post ∧
      (run execAttempt a pre).status = .pending ∧ (run execAttempt a pre).submittedAt ≠ none ∧
      (execAttempt (run execAttempt a pre) (now, .restore)).submittedAt = none := by
  -- The predicate "pending only with a submission" holds at first and not at the end.
  obtain ⟨pre, ⟨now, w⟩, post, rfl, hpre, hbreak⟩ :=
    run_exists_break (I := fun a => a.status = .pending → a.submittedAt ≠ none) steps a
      (fun _ => h) (fun hi => hi hp hn)
  simp only [Classical.not_imp, not_not] at hbreak
  obtain ⟨hw, hstatus, hsub⟩ := execAttempt_restores hpre hbreak.1 hbreak.2
  subst hw
  exact ⟨pre, now, post, rfl, hstatus, hsub, hbreak.2⟩

/-! ## Stored rows load again -/

/-- The constraints of the table on every column that is loaded. -/
structure PaymentAttempt.Constrained (a : PaymentAttempt) : Prop where
  checks : a.checks = true
  amount : a.kind = .subscriptionPaymentMethodUpdate ↔ a.amount.cents = 0
  lifecycle : lifecycleAmountIsValid a.lifecycle a.amount.cents = true

/-- A row that meets the constraints meets the validation of `PaymentAttempt::new`. -/
theorem PaymentAttempt.Constrained.loadable {a : PaymentAttempt} (h : a.Constrained) :
    a.Loadable := by
  have hchecks := h.checks
  simp only [PaymentAttempt.checks, relationshipShapeCheck, resolvedStateCheck,
    reviewRequiredAtCheck, timestampOrderCheck, Bool.and_eq_true, Bool.or_eq_true, bne_iff_ne,
    decide_eq_true_eq] at hchecks
  obtain ⟨⟨⟨⟨hshape, hresolved⟩, hreview⟩, htime⟩, -⟩ := hchecks
  refine ⟨h.amount, fun hk hs => ?_, fun hk hs => ?_, fun hs => ?_, fun hs => ?_, htime,
    h.lifecycle⟩
  · rw [hk] at hshape
    have hunlinked : a.subscriptionId = none ∧ a.paymentMethodId = none := by
      rcases hs with hs | hs <;> simpa [hs] using hshape
    exact hunlinked.2
  · rw [hk] at hshape
    simpa [hs, Option.isSome_iff_ne_none] using hshape
  · rcases hresolved with hr | hr
    · simp [hs] at hr
    · exact Option.isSome_iff_ne_none.mp hr
  · rcases hreview with hr | hr
    · exact absurd hs hr
    · exact Option.isSome_iff_ne_none.mp hr

/-- The linkage columns of a row that meets the constraints fit its target. -/
theorem PaymentAttempt.Constrained.targetFromRow {a : PaymentAttempt} (h : a.Constrained) :
    a.targetFromRow = true := by
  have hchecks := h.checks
  simp only [PaymentAttempt.checks, relationshipShapeCheck, Bool.and_eq_true] at hchecks
  have hshape := hchecks.1.1.1.1
  unfold PaymentAttempt.targetFromRow
  cases hk : a.kind with
  | hostCharge => simpa [hk] using hshape
  | subscriptionInitial =>
    rw [hk] at hshape
    have hshape := of_decide_eq_true hshape
    rw [decide_eq_true_eq]
    rcases hshape with ⟨hs, hpm⟩ | ⟨-, hsub, hpm⟩
    · refine ⟨.inr (Option.isSome_iff_ne_none.mp hpm), fun ⟨hopen, _⟩ => ?_⟩
      rcases hopen with ho | ho <;> simp [ho] at hs
    · exact ⟨.inl (by simpa using hsub), fun ⟨_, hne⟩ => hne (by simpa using hpm)⟩
  | subscriptionRenewal => simpa [hk, Option.isSome_iff_ne_none] using hshape
  | subscriptionRecovery => simpa [hk, Option.isSome_iff_ne_none] using hshape
  | subscriptionPaymentMethodUpdate => simpa [hk, Option.isSome_iff_ne_none] using hshape

/-- The invariant of stored rows: the constraints of the table on every column that is loaded, and
that an initial attempt is linked only by its approval. -/
structure PaymentAttempt.Stored (a : PaymentAttempt) : Prop where
  checks : a.checks = true
  amount : a.kind = .subscriptionPaymentMethodUpdate ↔ a.amount.cents = 0
  lifecycle : lifecycleAmountIsValid a.lifecycle a.amount.cents = true
  unlinked : a.kind = .subscriptionInitial → a.status ≠ .approved →
    a.subscriptionId = none ∧ a.paymentMethodId = none

/-- A stored row meets the constraints. -/
theorem PaymentAttempt.Stored.constrained {a : PaymentAttempt} (h : a.Stored) : a.Constrained :=
  ⟨h.checks, h.amount, h.lifecycle⟩

/-- A stored row meets the validation of `PaymentAttempt::new`. -/
theorem PaymentAttempt.Stored.loadable {a : PaymentAttempt} (h : a.Stored) : a.Loadable :=
  h.constrained.loadable

/-- The linkage columns of a stored row fit its target. -/
theorem PaymentAttempt.Stored.targetFromRow {a : PaymentAttempt} (h : a.Stored) :
    a.targetFromRow = true :=
  h.constrained.targetFromRow

/-- A freshly inserted row is stored. -/
theorem NewAttempt.stored_row (n : NewAttempt) : n.row.Stored := by
  have hshape : n.row.relationshipShapeCheck = true := by
    obtain ⟨_, _, _, _, _, _, target, _, _, _, _, _, _⟩ := n
    cases target <;> rfl
  have htime : n.row.timestampOrderCheck = true := decide_eq_true (le_refl n.createdAt)
  have hunlinked : n.row.kind = .subscriptionInitial →
      n.row.subscriptionId = none ∧ n.row.paymentMethodId = none := by
    obtain ⟨_, _, _, _, _, _, target, _, _, _, _, _, _⟩ := n
    cases target with
    | subscriptionInitial => exact fun _ => ⟨rfl, rfl⟩
    | _ => exact nofun
  refine ⟨?_, n.amount_fits, rfl, fun hk _ => hunlinked hk⟩
  rw [PaymentAttempt.checks, hshape, htime]
  rfl

/-- Every step keeps a row stored. -/
theorem execAttempt_stored {a : PaymentAttempt} (h : a.Stored)
    (step : Timestamp × AttemptWriter) : (execAttempt a step).Stored := by
  rcases execAttempt_stores a step.1 step.2 with heq | hs
  · rw [heq]
    exact h
  · have hkind : (execAttempt a step).kind = a.kind := hs.same.kind
    refine ⟨hs.checks, ?_, ?_, fun hk hne => ?_⟩
    · rw [hkind, hs.same.amount]
      exact h.amount
    · rw [hs.same.lifecycle, hs.same.amount]
      exact h.lifecycle
    · -- The row is not approved now, hence it was not, since that status is absorbing.
      have hne₀ : a.status ≠ .approved := fun ha => hne (execAttempt_approved ha step)
      obtain ⟨hsub, hpm⟩ := h.unlinked (hkind ▸ hk) hne₀
      rcases hs.linkage with ⟨-, ha⟩ | hl
      · exact absurd ha hne
      · exact ⟨hl.subscriptionId.trans hsub, hl.paymentMethodId.trans hpm⟩

/-- A writer that succeeds stores a row that a load accepts. -/
theorem AttemptWriter.stored_of_write {now : Timestamp} {w : AttemptWriter} {a a' : PaymentAttempt}
    (h : w.write now a = .ok a') (ha : a.Stored) : a'.Stored := by
  have hexec : execAttempt a (now, w) = a' := by simp [execAttempt, h]
  rw [← hexec]
  exact execAttempt_stored ha (now, w)

/-- Every row that a run of the writers reaches from an insertion is stored. -/
theorem run_stored (n : NewAttempt) (steps : List (Timestamp × AttemptWriter)) :
    (run execAttempt n.row steps).Stored :=
  run_invariant (I := PaymentAttempt.Stored) (P := fun _ => True)
    (fun _ step _ ha => execAttempt_stored ha step) steps n.row (fun _ _ => trivial) n.stored_row

/-! ## No writer is stopped by a constraint -/

/-- What the callers of a writer promise. An approval carries the linkage of the kind it approves:
the application of host charges persists `AttemptApproval::HostCharge`, that of subscription
payments `AttemptApproval::Subscription`. The texts are diagnostics of at most 512 bytes; for the
text of a late approval, which is cut at 512 characters, this is a condition of its own. -/
def AttemptWriter.fits (w : AttemptWriter) (a : PaymentAttempt) : Bool :=
  match w with
  | .persist e (.approved .hostCharge) => a.kind = .hostCharge && e.textCheck
  | .persist e (.approved (.subscription ..)) => a.kind ≠ .hostCharge && e.textCheck
  | .persist e (.lateApprovalReview _ message) =>
    e.textCheck && diagnosticFits (some (lateApprovalText message e.responseText))
  | .persist e (.resolved ..) | .resolveNotSubmitted e .. | .manualFailure e => e.textCheck
  | .reject _ message | .rejectInitial message => diagnosticFits (some message)
  | _ => true

/-- The trigger supplies what the review constraint asks for. -/
theorem PaymentAttempt.checks_setReviewRequiredAt {now : Timestamp} {new : PaymentAttempt}
    (hshape : new.relationshipShapeCheck = true) (hresolved : new.resolvedStateCheck = true)
    (htime : new.createdAt ≤ new.updatedAt) (htext : new.evidence.textCheck = true) :
    (new.setReviewRequiredAt now).checks = true := by
  have hreview : (new.setReviewRequiredAt now).reviewRequiredAtCheck = true := by
    unfold PaymentAttempt.setReviewRequiredAt PaymentAttempt.reviewRequiredAtCheck
    split_ifs with h
    · simp
    · rcases not_and_or.mp h with h | h
      · simp [h]
      · simp [Option.isSome_iff_ne_none.mpr h]
  obtain ⟨r, hr⟩ := new.setReviewRequiredAt_eq now
  rw [hr] at hreview ⊢
  simp only [PaymentAttempt.checks, hreview, Bool.and_eq_true]
  exact ⟨⟨⟨⟨hshape, hresolved⟩, trivial⟩, decide_eq_true htime⟩, htext⟩

/-- An update to a row that meets the constraints is not stopped by them. -/
theorem PaymentAttempt.update_ne_checkViolation {now : Timestamp} {m : Bool} {new : PaymentAttempt}
    (h : m = true → (new.setReviewRequiredAt now).checks = true) :
    PaymentAttempt.update now m new ≠ .error .checkViolation := by
  unfold PaymentAttempt.update
  split_ifs with hm hc
  · simp
  · exact absurd (h hm) hc
  · simp

/-- Nor is a writer that requires the updated row. -/
theorem requireOneRow_ne_checkViolation {x : Except AttemptWriteError (Option PaymentAttempt)}
    (h : x ≠ .error .checkViolation) : requireOneRow x ≠ .error .checkViolation := by
  unfold requireOneRow
  split
  · simp
  · simp
  · simpa using h

/-- Nor is a writer that accepts that no row is affected. -/
theorem orUnchanged_ne_checkViolation {a : PaymentAttempt}
    {x : Except AttemptWriteError (Option PaymentAttempt)} (h : x ≠ .error .checkViolation) :
    orUnchanged a x ≠ .error .checkViolation := by
  cases x with
  | ok row => simp [orUnchanged, Except.map]
  | error e => simpa [orUnchanged, Except.map] using h

section Constraints

variable {a : PaymentAttempt} {now : Timestamp}

/-- The parts of the constraints on a stored row. -/
theorem PaymentAttempt.Stored.shape_resolved_text (h : a.Stored) :
    a.relationshipShapeCheck = true ∧ a.resolvedStateCheck = true ∧
      a.evidence.textCheck = true := by
  have hchecks := h.checks
  simp only [PaymentAttempt.checks, Bool.and_eq_true] at hchecks
  exact ⟨hchecks.1.1.1.1, hchecks.1.1.1.2, hchecks.2⟩

/-- An open attempt that ends, or stays open, without an approval meets the constraints. -/
theorem PaymentAttempt.Stored.checks_of_sameLinkage {new : PaymentAttempt} (h : a.Stored)
    (hopen : a.status ≠ .approved) (hsame : a.SameRequest new) (hlink : a.SameLinkage new)
    (hne : new.status ≠ .approved) (hresolved : new.resolvedStateCheck = true)
    (htime : a.createdAt ≤ new.updatedAt) (htext : new.evidence.textCheck = true) :
    (new.setReviewRequiredAt now).checks = true := by
  have hkind : new.kind = a.kind := hsame.kind
  refine PaymentAttempt.checks_setReviewRequiredAt ?_ hresolved (hsame.createdAt ▸ htime) htext
  have hshape := h.shape_resolved_text.1
  unfold PaymentAttempt.relationshipShapeCheck at hshape ⊢
  rw [hkind, hlink.subscriptionId, hlink.paymentMethodId]
  cases hk : a.kind with
  | subscriptionInitial =>
    obtain ⟨hsub, hpm⟩ := h.unlinked hk hopen
    simp [hsub, hpm, hne]
  | _ => simpa [hk] using hshape

/-- A row whose status, linkage, and resolution stay meets the constraints again. -/
theorem PaymentAttempt.Stored.checks_of_sameStatus {new : PaymentAttempt} (h : a.Stored)
    (hsame : a.SameRequest new) (hlink : a.SameLinkage new) (hstatus : new.status = a.status)
    (hresolved : new.resolvedAt = a.resolvedAt) (htime : a.createdAt ≤ new.updatedAt)
    (htext : new.evidence.textCheck = true) : (new.setReviewRequiredAt now).checks = true := by
  have hkind : new.kind = a.kind := hsame.kind
  obtain ⟨hshape, hres, -⟩ := h.shape_resolved_text
  refine PaymentAttempt.checks_setReviewRequiredAt ?_ ?_ (hsame.createdAt ▸ htime) htext
  · unfold PaymentAttempt.relationshipShapeCheck at hshape ⊢
    rwa [hkind, hlink.subscriptionId, hlink.paymentMethodId, hstatus]
  · unfold PaymentAttempt.resolvedStateCheck at hres ⊢
    rwa [hstatus, hresolved]

/-- An open status is not approved. -/
theorem PaymentAttemptStatus.ne_approved_of_isResolvable {s : PaymentAttemptStatus}
    (h : s.isResolvable = true) : s ≠ .approved := by
  rintro rfl
  simp [PaymentAttemptStatus.isResolvable] at h

/-- The expiry of an open attempt meets the constraints. -/
theorem PaymentAttempt.Stored.checks_expired (h : a.Stored) (hnow : a.createdAt ≤ now)
    (hopen : a.status.isResolvable = true) {text : Option String}
    {code : Option PaymentResolutionCode} {resolvedAt : Option Timestamp}
    (hresolved : resolvedAt.isSome = true) (htext : diagnosticFits text = true) :
    ((a.expired now text code resolvedAt).setReviewRequiredAt now).checks = true := by
  have hcheck := h.shape_resolved_text.2.2
  have hcond : diagnosticFits (a.evidence.condition <|> some "failed") = true :=
    diagnosticFits_orElse (ProcessorEvidence.diagnosticFits_of_textCheck hcheck).2 (by decide)
  exact h.checks_of_sameLinkage (PaymentAttemptStatus.ne_approved_of_isResolvable hopen)
    (a.sameRequest_expired now text code resolvedAt) ⟨rfl, rfl⟩ (nofun)
    (by simp [PaymentAttempt.resolvedStateCheck, PaymentAttempt.expired, hresolved]) hnow
    (ProcessorEvidence.textCheck_with hcheck htext hcond)

/-- The message of a decided observation. -/
def ExactQueryWrite.message : ExactQueryWrite → String
  | .fail m | .review m | .note m => m

/-- The messages of observations are short. -/
theorem exactQueryDecision_message_fits {o : ExactQueryObservation} {d : ExactQueryWrite}
    (h : exactQueryDecision now o a = some d) : diagnosticFits (some d.message) = true := by
  unfold exactQueryDecision at h
  split at h
  · simp at h
  · cases o <;> simp only at h <;> split_ifs at h <;> cases h <;> decide +kernel

/-- A transition that fits the attempt meets the constraints. -/
theorem AttemptTransition.checks_row {e : ProcessorEvidence} {t : AttemptTransition}
    (h : a.Stored) (hnow : a.createdAt ≤ now) (hfits : (AttemptWriter.persist e t).fits a = true)
    (haccepts : t.accepts a.status = true) :
    ((t.row now e a).setReviewRequiredAt now).checks = true := by
  have hshape := h.shape_resolved_text.1
  match t with
  | .approved .hostCharge =>
    obtain ⟨hk, htext⟩ : a.kind = .hostCharge ∧ e.textCheck = true := by
      simpa [AttemptWriter.fits] using hfits
    refine PaymentAttempt.checks_setReviewRequiredAt ?_ rfl hnow htext
    have hk' : (row now e (.approved .hostCharge) a).kind = .hostCharge := hk
    unfold PaymentAttempt.relationshipShapeCheck at hshape ⊢
    rw [hk']
    rw [hk] at hshape
    exact hshape
  | .approved (.subscription sub pm) =>
    obtain ⟨hk, htext⟩ : a.kind ≠ .hostCharge ∧ e.textCheck = true := by
      simpa [AttemptWriter.fits] using hfits
    refine PaymentAttempt.checks_setReviewRequiredAt ?_ rfl hnow htext
    have hk' : (row now e (.approved (.subscription sub pm)) a).kind = a.kind := rfl
    unfold PaymentAttempt.relationshipShapeCheck
    rw [hk']
    cases hkind : a.kind with
    | hostCharge => exact absurd hkind hk
    | _ => simp [AttemptTransition.row, PaymentAttempt.record]
  | .resolved s c =>
    have hopen := PaymentAttemptStatus.ne_approved_of_isResolvable haccepts
    refine h.checks_of_sameLinkage hopen (sameRequest_row now e _ a)
      (a.sameLinkage_record now e s.paymentStatus c) ?_ ?_ hnow hfits
    · cases s <;> exact nofun
    · cases s <;> rfl
  | .lateApprovalReview c m =>
    have hopen : a.status ≠ .approved := by simpa [AttemptTransition.accepts] using haccepts
    obtain ⟨htext, hlate⟩ : e.textCheck = true ∧
        diagnosticFits (some (lateApprovalText m e.responseText)) = true := by
      simpa only [AttemptWriter.fits, Bool.and_eq_true] using hfits
    exact h.checks_of_sameLinkage hopen rfl ⟨rfl, rfl⟩ (nofun) rfl hnow
      (ProcessorEvidence.textCheck_with htext hlate
        (ProcessorEvidence.diagnosticFits_of_textCheck htext).2)

/-- On a stored row, and at a time not before its insertion, no writer that fits the attempt is
stopped by a constraint. -/
theorem AttemptWriter.write_ne_checkViolation {w : AttemptWriter} (h : a.Stored)
    (hnow : a.createdAt ≤ now) (hfits : w.fits a = true) :
    w.write now a ≠ .error .checkViolation := by
  have htext := h.shape_resolved_text.2.2
  obtain ⟨hrt, hcond⟩ := ProcessorEvidence.diagnosticFits_of_textCheck htext
  have prepared_open (hm : a.isPrepared = true) : a.status ≠ .approved := by
    simp only [PaymentAttempt.isPrepared, decide_eq_true_eq] at hm
    rw [hm.1]
    exact nofun
  -- The four expiries write one row, and differ in the text and in the time that they keep.
  have expiry {k : Bool} {text : Option String} {code : Option PaymentResolutionCode}
      {resolvedAt : Option Timestamp} (hr : resolvedAt.isSome = true)
      (ht : diagnosticFits text = true) :
      orUnchanged a (PaymentAttempt.update now (k && a.isStaleUnsubmitted now)
        (a.expired now text code resolvedAt)) ≠ .error .checkViolation := by
    refine orUnchanged_ne_checkViolation (PaymentAttempt.update_ne_checkViolation fun hm => ?_)
    rw [Bool.and_eq_true] at hm
    exact h.checks_expired hnow (PaymentAttempt.isResolvable_of_isStaleUnsubmitted hm.2) hr ht
  have coalesced : (a.resolvedAt <|> some now).isSome = true := by
    cases a.resolvedAt <;> rfl
  cases w with
  | persist e t =>
    exact requireOneRow_ne_checkViolation
      (PaymentAttempt.update_ne_checkViolation (AttemptTransition.checks_row h hnow hfits))
  | admitPrepared =>
    refine requireOneRow_ne_checkViolation (PaymentAttempt.update_ne_checkViolation fun _ => ?_)
    exact h.checks_of_sameStatus rfl ⟨rfl, rfl⟩ rfl rfl hnow htext
  | reject c m =>
    refine orUnchanged_ne_checkViolation (PaymentAttempt.update_ne_checkViolation fun hm => ?_)
    refine h.checks_of_sameLinkage (prepared_open hm) rfl ⟨rfl, rfl⟩ (nofun)
      ?_ hnow (ProcessorEvidence.textCheck_with htext hfits hcond)
    simp [PaymentAttempt.resolvedStateCheck]
  | rejectInitial m =>
    refine requireOneRow_ne_checkViolation (PaymentAttempt.update_ne_checkViolation fun hm => ?_)
    exact h.checks_of_sameLinkage (prepared_open hm) rfl ⟨rfl, rfl⟩ (nofun)
      rfl hnow (ProcessorEvidence.textCheck_with htext hfits (by decide))
  | restore =>
    refine requireOneRow_ne_checkViolation (PaymentAttempt.update_ne_checkViolation fun _ => ?_)
    exact h.checks_of_sameStatus rfl ⟨rfl, rfl⟩ rfl rfl hnow htext
  | resolveNotSubmitted e s c =>
    have hpersist := requireOneRow_ne_checkViolation (PaymentAttempt.update_ne_checkViolation
      (AttemptTransition.checks_row (e := e) (t := .resolved s c) h hnow hfits))
    cases hb : persistAttemptTransition now e (.resolved s c) a with
    | error err =>
      have herr : err ≠ .checkViolation := by
        rintro rfl
        exact hpersist hb
      simpa [write, SyrupRail.resolveNotSubmitted, hb, bind, Except.bind] using herr
    | ok b =>
      -- The resolved row is stored, and clearing its submission keeps every constrained column.
      have hexec : execAttempt a (now, .persist e (.resolved s c)) = b := by
        simp [execAttempt, write, hb]
      have hstored : b.Stored := hexec ▸ execAttempt_stored h _
      have hsame := (persistAttemptTransition_stores hb).same
      have hclear : clearResolvedAttemptSubmission now b ≠ .error .checkViolation := by
        refine requireOneRow_ne_checkViolation
          (PaymentAttempt.update_ne_checkViolation fun _ => ?_)
        exact hstored.checks_of_sameStatus rfl ⟨rfl, rfl⟩ rfl rfl
          (hsame.createdAt ▸ hnow) hstored.shape_resolved_text.2.2
      simpa [write, SyrupRail.resolveNotSubmitted, hb, bind, Except.bind] using hclear
  | expireSubscriptionCharge =>
    refine expiry coalesced ?_
    split_ifs
    · decide
    · decide
  | expirePaymentMethodUpdate keep =>
    refine expiry ?_ (diagnosticFits_orElse hrt (by decide))
    cases keep
    · rfl
    · exact coalesced
  | expireInitial => exact expiry rfl (diagnosticFits_orElse hrt (by decide))
  | expireHostCharge => exact expiry coalesced (by decide)
  -- A query may fail an open attempt, put it under review, or only note a message.
  | observe o =>
    simp only [write, applyExactQueryObservation]
    split
    · simp
    · rename_i m hd
      refine orUnchanged_ne_checkViolation (PaymentAttempt.update_ne_checkViolation fun hm => ?_)
      refine h.checks_expired hnow ?_ rfl (exactQueryDecision_message_fits hd)
      rcases of_decide_eq_true hm with hs | hs
      · simp [hs, PaymentAttemptStatus.isResolvable]
      · simp [hs, PaymentAttemptStatus.isResolvable]
    · rename_i m hd
      refine orUnchanged_ne_checkViolation (PaymentAttempt.update_ne_checkViolation fun hm => ?_)
      refine h.checks_of_sameLinkage (PaymentAttemptStatus.ne_approved_of_isResolvable hm)
        rfl ⟨rfl, rfl⟩ (nofun) rfl hnow
        (ProcessorEvidence.textCheck_with htext ?_ hcond)
      split_ifs
      · exact hrt
      · exact exactQueryDecision_message_fits hd
    · rename_i m hd
      refine orUnchanged_ne_checkViolation (PaymentAttempt.update_ne_checkViolation fun _ => ?_)
      exact h.checks_of_sameStatus rfl ⟨rfl, rfl⟩ rfl rfl hnow
        (ProcessorEvidence.textCheck_with htext (exactQueryDecision_message_fits hd) hcond)
  | claim =>
    refine orUnchanged_ne_checkViolation (PaymentAttempt.update_ne_checkViolation fun _ => ?_)
    exact h.checks_of_sameStatus rfl ⟨rfl, rfl⟩ rfl rfl hnow htext
  | manualFailure e =>
    refine requireOneRow_ne_checkViolation (PaymentAttempt.update_ne_checkViolation fun hm => ?_)
    have hopen : a.status ≠ .approved := by
      rw [of_decide_eq_true hm]
      exact nofun
    exact h.checks_of_sameLinkage hopen rfl ⟨rfl, rfl⟩ (nofun) rfl hnow hfits
  | attest c =>
    simp only [write, failReversedAttempt]
    split_ifs with hs
    · simp
    · refine requireOneRow_ne_checkViolation (PaymentAttempt.update_ne_checkViolation fun _ => ?_)
      have hopen : a.status ≠ .approved := by
        intro ha
        rw [ha] at hs
        exact hs rfl
      exact h.checks_of_sameLinkage hopen rfl ⟨rfl, rfl⟩ (nofun) rfl hnow htext

end Constraints

/-- The state machine of payment attempts, over every sequence of writers from an insertion, at any
clock readings. The last part says that a stored row loads because of what the writers store, and
not because the table refuses the rest. -/
theorem attempt_state_machine (n : NewAttempt) (steps : List (Timestamp × AttemptWriter)) :
    let a := run execAttempt n.row steps
    (a.status = .approved → ∀ more, (run execAttempt a more).status = .approved) ∧
    (∀ now w, a.status = .declined ∨ a.status = .failed →
      (execAttempt a (now, w)).status ≠ a.status →
        (∃ e c m, w = .persist e (.lateApprovalReview c m)) ∧
          (execAttempt a (now, w)).status = .reviewRequired) ∧
    (a.status = .approved ∨ a.status = .declined ∨ a.status = .failed → a.resolvedAt ≠ none) ∧
    (a.status = .reviewRequired → a.reviewRequiredAt ≠ none) ∧
    (∀ now w, (execAttempt a (now, w)).submittedAt ≠ a.submittedAt →
      (execAttempt a (now, w)).submittedAt ≠ none →
        w = .admitPrepared ∧ a.status = .pending ∧ a.submittedAt = none) ∧
    (∀ more now, a.submittedAt ≠ none →
      (run execAttempt a more).submittedAt = none →
      (execAttempt (run execAttempt a more) (now, .admitPrepared)).submittedAt ≠ none →
        ∃ pre t post, more = pre ++ (t, .restore) :: post ∧
          (run execAttempt a pre).status = .pending ∧ (run execAttempt a pre).submittedAt ≠ none ∧
          (execAttempt (run execAttempt a pre) (t, .restore)).submittedAt = none) ∧
    (∀ now w, w.matched now a = false → execAttempt a (now, w) = a) ∧
    (a.check = .ok () ∧ a.targetFromRow = true) ∧
    (∀ now (w : AttemptWriter), a.createdAt ≤ now → w.fits a = true →
      w.write now a ≠ .error .checkViolation) := by
  intro a
  have hstored : a.Stored := run_stored n steps
  have hload := hstored.loadable
  refine ⟨fun h more => run_approved more h, fun _ _ h hne => execAttempt_leaves_closed h hne,
    fun h => hload.resolvedAt ?_, hload.reviewRequiredAt, fun _ _ => execAttempt_submits,
    fun more now hsub hn hadmitted => ?_, fun _ _ => execAttempt_of_not_matched,
    ⟨a.check_ok_iff.mpr hload, hstored.targetFromRow⟩,
    fun _ _ => AttemptWriter.write_ne_checkViolation hstored⟩
  · rcases h with h | h | h <;> rw [h] <;> rfl
  · -- The second admission finds the attempt prepared, hence it was restored since `a`.
    have hne : (execAttempt (run execAttempt a more) (now, .admitPrepared)).submittedAt ≠
        (run execAttempt a more).submittedAt := by
      rw [hn]
      exact hadmitted
    obtain ⟨-, hp, -⟩ := execAttempt_submits hne hadmitted
    exact run_prepared_exists_restore hsub more hp hn

end SyrupRail
