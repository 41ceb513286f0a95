import SyrupRail.Lifecycle.Reconciliation

/-!
# Lifecycle evidence is accounted for

Every report that is passed to `applyOrStageEvidence` is applied to one approved attempt, superseded
on it, put in quarantine, or waits in a pending row. The proof follows the transaction: on a sound
store its statements fail only as `EvidenceFails` says, and `EvidenceAccounted` says for each
outcome what it left behind. The selection of an attempt is written twice, over the candidates and
as a condition on pending rows; `hasActionableMatch_iff` relates the two.

A pending row keeps its expiry when its evidence is reported again, so a row that has expired and
was not cleaned up yet stays expired. A row that waits is said to be unexpired only where there was
no such row.
-/

namespace SyrupRail

open Table

/-! ## Sound stores -/

/-- What the tables' constraints and the operations keep true of a store: the constraints
themselves, and that no row was created or first seen after the time of the call. -/
structure LifecycleStore.Sound {η : Type} (now : Timestamp) (s : LifecycleStore η) : Prop where
  attempts_unique : uniqueOn (fun a => some a.id) s.attempts = true
  lifecycle : ∀ a ∈ s.attempts, a.lifecycle.Valid a.amountCents
  condition : ∀ a ∈ s.attempts, diagnosticFits a.condition = true
  target : ∀ a ∈ s.attempts, a.kind = .hostCharge → a.hostChargeTargetId ≠ none
  created : ∀ a ∈ s.attempts, a.createdAt ≤ now
  pending_nodup : (s.pending.map (·.id)).Nodup
  pending_check : ∀ p ∈ s.pending, p.check = true
  pending_seen : ∀ p ∈ s.pending, p.firstSeenAt ≤ now
  quarantine_check : ∀ q ∈ s.quarantines, q.sightingCheck = true
  quarantine_seen : ∀ q ∈ s.quarantines, q.firstSeenAt ≤ now

/-- What the types of a report guarantee: an identifier, in its stored form, texts that fit, and
positive amounts; and that PostgreSQL stores the texts. -/
structure StoredEvidence.WellFormed (e : StoredEvidence) : Prop where
  encodable : SyrupRail.encodable e.texts = true
  locator : e.transactionId ≠ none ∨ e.orderId ≠ none
  transactionId : transactionIdCheck e.transactionId = true
  orderId : orderIdCheck e.orderId = true
  condition : diagnosticFits e.condition = true
  action : diagnosticFits e.action = true
  refunded : lifecycleRefundedAmount e.state ≠ some 0

/-- The identifiers of a report are stored, and its other texts are. -/
theorem StoredEvidence.WellFormed.encodable_parts {e : StoredEvidence} (h : e.WellFormed) :
    SyrupRail.encodable [e.transactionId, e.orderId] = true ∧
      SyrupRail.encodable [e.condition, e.action] = true := by
  have htexts := h.encodable
  simp only [SyrupRail.encodable, StoredEvidence.texts, List.all_cons, List.all_nil, Bool.and_true,
    Bool.and_eq_true] at htexts ⊢
  exact ⟨⟨htexts.1, htexts.2.1⟩, htexts.2.2⟩

/-- The full key under which a report waits. -/
def StoredEvidence.dedupeKey (account : GatewayLifecycleAccount) (e : StoredEvidence) :
    PendingDedupeKey where
  gatewayAccountId := account.gatewayAccountId
  transactionId := e.transactionId.getD ""
  orderId := e.orderId.getD ""
  condition := e.condition.getD ""
  status := lifecycleStatus e.state
  action := e.action.getD ""
  lifecycleAt := e.effectiveAt
  refundedAmountCents := lifecycleRefundedAmount e.state

/-- The key under which a report whose amounts cannot be right is in quarantine. -/
def StoredEvidence.quarantineKey (account : GatewayLifecycleAccount) (e : StoredEvidence) :
    Id × String × String × GatewayLifecycleQuarantineReason :=
  (account.gatewayAccountId, e.transactionId.getD "", e.orderId.getD "", .invalidRefundEconomics)

/-- Whether an identifier is new to the tables that a call inserts into. -/
def LifecycleStore.IsFresh {η : Type} (newId : Id) (s : LifecycleStore η) : Prop :=
  (∀ p ∈ s.pending, p.id ≠ newId) ∧ ∀ q ∈ s.quarantines, q.id ≠ newId

section

variable {η : Type} {host : HostTargets η} {now : Timestamp} {newId : Id}
  {account : GatewayLifecycleAccount} {evidence : StoredEvidence} {pendingId : Option Id}
  {s s' : LifecycleStore η}

/-! ## Staging -/

/-- The row of a well-formed report meets the constraints. -/
theorem newPendingUpdate_check (he : evidence.WellFormed) :
    (newPendingUpdate now account newId evidence).check = true := by
  have hexpiry : now ≤ now + seconds pendingRetentionSeconds :=
    Int.le_add_of_nonneg_right (by decide)
  have hstate : (newPendingUpdate now account newId evidence).stateCheck = true := by
    have hrefunded := he.refunded
    unfold PendingUpdate.stateCheck newPendingUpdate
    cases hs : evidence.state <;> simp_all [lifecycleStatus, lifecycleRefundedAmount]
  simp only [PendingUpdate.check, decide_eq_true_eq]
  exact ⟨he.encodable, he.locator, he.transactionId, he.orderId, he.condition, he.action, hstate,
    hexpiry, le_refl _⟩

/-- A row that is touched meets the constraints. -/
theorem PendingUpdate.check_touched {p : PendingUpdate} (h : p.check = true)
    (hseen : p.firstSeenAt ≤ now) : (p.touched now).check = true := by
  simp only [PendingUpdate.check, decide_eq_true_eq] at h ⊢
  obtain ⟨htexts, hlocator, htx, horder, hcondition, haction, hstate, hexpiry, -⟩ := h
  exact ⟨htexts, hlocator, htx, horder, hcondition, haction, hstate, hexpiry, hseen⟩

/-- What staging leaves behind: nothing but a pending row is written, no row goes, and one with the
full key is there, which is not expired unless one with the key was before. -/
structure Staged (now : Timestamp) (account : GatewayLifecycleAccount) (evidence : StoredEvidence)
    (s s' : LifecycleStore η) : Prop where
  rest : s' = { s with pending := s'.pending }
  kept : ∀ p ∈ s.pending, p ∈ s'.pending ∨ p.touched now ∈ s'.pending
  row : ∃ p ∈ s'.pending, p.dedupeKey = evidence.dedupeKey account ∧
    ((∀ q ∈ s.pending, q.dedupeKey = evidence.dedupeKey account → now < q.expiresAt) →
      now < p.expiresAt)

variable (account) in
/-- Evidence is staged. -/
theorem stageEvidence_ok (hs : s.Sound now) (he : evidence.WellFormed)
    (hfresh : ∀ p ∈ s.pending, p.id ≠ newId) :
    ∃ newlyStaged s', stageEvidence now account newId evidence s = .ok (newlyStaged, s') ∧
      s'.Sound now ∧ Staged now account evidence s s' := by
  have hcheck : (newPendingUpdate now account newId evidence).check = true :=
    newPendingUpdate_check he
  have hkey : (newPendingUpdate now account newId evidence).dedupeKey =
      evidence.dedupeKey account :=
    rfl
  have hexpiry : now < now + seconds pendingRetentionSeconds :=
    Int.lt_add_of_pos_right _ (by decide)
  by_cases hany : (s.pending.any fun p => p.dedupeKey = evidence.dedupeKey account) = true
  · -- The full key is there already: its row is touched.
    set pending := updateWhere (fun p => p.dedupeKey = evidence.dedupeKey account)
      (·.touched now) s.pending with hpending
    refine ⟨false, { s with pending }, ?_, ?_, ?_, ?_, ?_⟩
    · simp only [stageEvidence, bind, StateT.bind, get, getThe, MonadStateOf.get, StateT.get, pure,
        Except.pure, Except.bind, he.encodable, hcheck, hkey, hany, Bool.true_eq_false, if_false,
        if_true, set, Tx.set_run, Tx.pure_run, hpending]
    · have hids : pending.map (·.id) = s.pending.map (·.id) := by
        apply map_key_updateWhere
        intro p _ _
        rfl
      refine { hs with pending_nodup := ?_, pending_check := ?_, pending_seen := ?_ }
      · show (pending.map (·.id)).Nodup
        rw [hids]
        exact hs.pending_nodup
      · intro p hp
        obtain ⟨p₀, hp₀, rfl⟩ := mem_updateWhere.mp hp
        split_ifs
        · exact PendingUpdate.check_touched (hs.pending_check p₀ hp₀) (hs.pending_seen p₀ hp₀)
        · exact hs.pending_check p₀ hp₀
      · intro p hp
        obtain ⟨p₀, hp₀, rfl⟩ := mem_updateWhere.mp hp
        split_ifs
        · exact hs.pending_seen p₀ hp₀
        · exact hs.pending_seen p₀ hp₀
    · rfl
    · intro p hp
      by_cases hk : p.dedupeKey = evidence.dedupeKey account
      · right
        exact mem_updateWhere.mpr ⟨p, hp, by simp [hk]⟩
      · left
        exact mem_updateWhere.mpr ⟨p, hp, by simp [hk]⟩
    · obtain ⟨p, hp, hk⟩ := List.any_eq_true.mp hany
      have hk' : p.dedupeKey = evidence.dedupeKey account := of_decide_eq_true hk
      exact ⟨p.touched now, mem_updateWhere.mpr ⟨p, hp, by simp [hk']⟩, hk',
        fun hopen => hopen p hp hk'⟩
  · -- The key is new, and so is the id: a row is inserted that has just begun its retention.
    have hid : (s.pending.any fun p => p.id = newId) = false := by
      rw [List.any_eq_false]
      intro p hp
      simpa using hfresh p hp
    refine ⟨true, { s with pending := newPendingUpdate now account newId evidence :: s.pending },
      ?_, ?_, rfl, fun p hp => .inl (List.mem_cons_of_mem _ hp),
      _, List.mem_cons_self, hkey, fun _ => hexpiry⟩
    · simp only [stageEvidence, bind, StateT.bind, get, getThe, MonadStateOf.get, StateT.get, pure,
        Except.pure, Except.bind, he.encodable, hcheck, hkey, hany, hid, Bool.true_eq_false,
        Bool.false_eq_true, if_false, set, Tx.set_run, Tx.pure_run]
    · refine { hs with pending_nodup := ?_, pending_check := ?_, pending_seen := ?_ }
      · refine List.nodup_cons.mpr ⟨fun h => ?_, hs.pending_nodup⟩
        obtain ⟨p, hp, hp'⟩ := List.mem_map.mp h
        exact hfresh p hp hp'
      · intro p hp
        rcases List.mem_cons.mp hp with rfl | hp
        · exact hcheck
        · exact hs.pending_check p hp
      · intro p hp
        rcases List.mem_cons.mp hp with rfl | hp
        · exact le_refl now
        · exact hs.pending_seen p hp

/-! ## Selection -/

/-- The candidate of a row that decodes. -/
def decodedCandidate (evidence : StoredEvidence) (a : LifecycleAttempt) : AttemptCandidate where
  attempt := a
  currentState := (lifecycleStateFromParts a.lifecycle.status
    (some a.lifecycle.refundedAmountCents)).toOption.getD .unknown
  matchedTransactionId := matchedTransactionId evidence.transactionId a
  matchedOrderId := matchedOrderId evidence.transactionId evidence.orderId a

/-- A row whose columns are valid decodes. -/
theorem attemptCandidate_ok {a : LifecycleAttempt} (ha : a.lifecycle.Valid a.amountCents) :
    attemptCandidate evidence a = .ok (decodedCandidate evidence a) := by
  obtain ⟨state, hstate, -⟩ := ha
  simp only [attemptCandidate, decodedCandidate, hstate, Except.map, Except.toOption,
    Option.getD_some]

/-- The candidates of a sound store decode. -/
theorem attemptCandidates_ok (hs : s.Sound now)
    (he : encodable [evidence.transactionId, evidence.orderId] = true) :
    attemptCandidates account evidence s.attempts =
      .ok ((candidateRows account evidence s.attempts).map (decodedCandidate evidence)) := by
  rw [attemptCandidates, if_pos he]
  exact Transactions.mapM_eq_ok fun a ha =>
    attemptCandidate_ok (hs.lifecycle a (mem_candidateRows.mp ha).1)

/-- A candidate is selected when one has the transaction, or the only one has the order. -/
theorem isSome_selectedCandidate {candidates : List AttemptCandidate} :
    (selectedCandidate candidates).isSome = true ↔
      (∃ c ∈ candidates, c.matchedTransactionId = true) ∨
        ∃ c, candidates = [c] ∧ c.matchedOrderId = true := by
  unfold selectedCandidate
  cases hfind : candidates.find? (·.matchedTransactionId) with
  | some c =>
    have hc := List.find?_some hfind
    simpa using Or.inl ⟨c, List.mem_of_find?_eq_some hfind, hc⟩
  | none =>
    have hnone : ¬ ∃ c ∈ candidates, c.matchedTransactionId = true := by
      rintro ⟨c, hc, htx⟩
      exact List.find?_eq_none.mp hfind c hc htx
    simp only [hnone, false_or]
    match candidates with
    | [] => simp
    | [c] => by_cases hc : c.matchedOrderId = true <;> simp [hc]
    | _ :: _ :: _ => simp

/-- Whether an attempt is selected for a report. -/
def selectsAttempt (account : GatewayLifecycleAccount) (evidence : StoredEvidence)
    (attempts : List LifecycleAttempt) : Bool :=
  match attemptCandidates account evidence attempts with
  | .ok candidates => (selectedCandidate candidates).isSome
  | .error _ => false

/-- The condition of the query of pending rows is the selection: an only candidate has the
transaction or the order. -/
theorem hasActionableMatch_iff (hs : s.Sound now) {p : PendingUpdate}
    (he : encodable [evidence.transactionId, evidence.orderId] = true)
    (htx : p.transactionId = evidence.transactionId) (horder : p.orderId = evidence.orderId) :
    hasActionableMatch account s.attempts p = selectsAttempt account evidence s.attempts := by
  have hcount : (candidateRows account evidence s.attempts).length =
      s.attempts.countP (isCandidate account evidence.transactionId evidence.orderId) := by
    rw [candidateRows, List.length_insertionSort, List.countP_eq_length_filter]
  rw [Bool.eq_iff_iff, selectsAttempt, attemptCandidates_ok hs he]
  simp only [isSome_selectedCandidate, List.mem_map, hasActionableMatch, decide_eq_true_eq,
    List.any_eq_true, htx, horder, ← hcount]
  constructor
  · rintro (⟨a, ha, hcand, hmatch⟩ | hone)
    · exact .inl ⟨_, ⟨a, mem_candidateRows.mpr ⟨ha, hcand⟩, rfl⟩, hmatch⟩
    · obtain ⟨a, hrows⟩ := List.length_eq_one_iff.mp hone
      have hcand : isCandidate account evidence.transactionId evidence.orderId a = true :=
        (mem_candidateRows.mp (hrows ▸ List.mem_cons_self)).2
      simp only [isCandidate, decide_eq_true_eq] at hcand
      rcases hcand.2 with hmatch | hmatch
      · exact .inl ⟨_, ⟨a, hrows ▸ List.mem_cons_self, rfl⟩, hmatch⟩
      · exact .inr ⟨decodedCandidate evidence a, by rw [hrows, List.map_singleton], hmatch⟩
  · rintro (⟨_, ⟨a, ha, rfl⟩, hmatch⟩ | ⟨c, hc, -⟩)
    · obtain ⟨hmem, hcand⟩ := mem_candidateRows.mp ha
      exact .inl ⟨a, hmem, hcand, hmatch⟩
    · right
      rw [← List.length_map (f := decodedCandidate evidence), hc, List.length_singleton]

/-! ## What evidence leaves behind -/

/-- The attempt that is selected for a report. -/
def IsSelected (account : GatewayLifecycleAccount) (evidence : StoredEvidence)
    (attempts : List LifecycleAttempt) (a : LifecycleAttempt) : Prop :=
  a ∈ attempts ∧ a.approvedOf account = true ∧
    ∃ candidates c, attemptCandidates account evidence attempts = .ok candidates ∧
      selectedCandidate candidates = some c ∧ c.attempt = a

/-- The transition that the host is asked for, when a report fully reverses one of its charges. -/
def requestedReversal (now : Timestamp) (evidence : StoredEvidence) (a : LifecycleAttempt) :
    Option HostTargetReversal :=
  match evidence.state.fullReversalKind, a.kind, a.hostChargeTargetId with
  | some kind, .hostCharge, some targetId => some (hostReversal now evidence a kind targetId)
  | _, _, _ => none

/-- The pending rows without the one that evidence was replayed from. -/
def withoutPending (account : GatewayLifecycleAccount) (pendingId : Option Id)
    (pending : List PendingUpdate) : List PendingUpdate :=
  match pendingId with
  | none => pending
  | some pendingId => pending.filter fun p => ¬ (p.id = pendingId ∧ p.isOf account)

/-- What each outcome leaves behind. -/
def EvidenceAccounted (host : HostTargets η) (now : Timestamp) (account : GatewayLifecycleAccount)
    (evidence : StoredEvidence) (pendingId : Option Id) (s s' : LifecycleStore η) :
    GatewayLifecycleApplyOutcome → Prop
  -- Applied to one approved attempt; the host took a full reversal of its charge over.
  | .applied => ∃ a refunded, IsSelected account evidence s.attempts a ∧
      applyLifecycleEvidence a.amountCents a.lifecycle ⟨evidence.state, evidence.effectiveAt⟩ =
        .ok ((a.updated now refunded evidence).lifecycle, .apply refunded) ∧
      s'.attempts = updateWhere (fun r => r.id = a.id) (·.updated now refunded evidence)
        s.attempts ∧
      (∀ r, requestedReversal now evidence a = some r →
        ∃ o, host r s.host = some (s'.host, o) ∧ o.isApplied = true) ∧
      s'.pending = withoutPending account pendingId s.pending
  | .alreadySuperseded => ∃ a, IsSelected account evidence s.attempts a ∧
      applyLifecycleEvidence a.amountCents a.lifecycle ⟨evidence.state, evidence.effectiveAt⟩ =
        .ok (a.lifecycle, .alreadySuperseded) ∧
      s'.attempts = s.attempts ∧ s'.pending = withoutPending account pendingId s.pending
  | .invalidRefundEconomics | .conflictingLifecycleEvidence =>
      (∃ q ∈ s'.quarantines, q.resolvedAt = none ∧ q.dedupeKey = evidence.quarantineKey account) ∧
      s'.attempts = s.attempts ∧ s'.pending = withoutPending account pendingId s.pending
  -- The host refused, or no attempt is selected: the report waits.
  | .hostTargetTransitionSkipped => Staged now account evidence s s' ∧
      ∃ a r h o, IsSelected account evidence s.attempts a ∧
        requestedReversal now evidence a = some r ∧ host r s.host = some (h, o) ∧
        o.isApplied = false
  | .stagedAmbiguous | .stagedNoMatch => Staged now account evidence s s' ∧
      ∀ a, ¬ IsSelected account evidence s.attempts a

/-- Why a call fails: the host failed on the reversal that it was asked for, or the quarantine was
reported so often that its count is full. -/
inductive EvidenceFails (host : HostTargets η) (now : Timestamp) (account : GatewayLifecycleAccount)
    (evidence : StoredEvidence) (s : LifecycleStore η) : LifecycleError → Prop
  | host {a : LifecycleAttempt} {r : HostTargetReversal}
    (selected : IsSelected account evidence s.attempts a)
    (requested : requestedReversal now evidence a = some r) (failed : host r s.host = none) :
    EvidenceFails host now account evidence s .hostChargeTarget
  | count {q : QuarantineRow} (mem : q ∈ s.quarantines)
    (key : q.dedupeKey = evidence.quarantineKey account)
    (full : q.occurrenceCount = maxBigint) :
    EvidenceFails host now account evidence s (.store .checkViolation)

/-- Evidence that is replayed has its row. -/
def Replays (account : GatewayLifecycleAccount) (evidence : StoredEvidence) (pendingId : Option Id)
    (pending : List PendingUpdate) : Prop :=
  ∀ id, pendingId = some id → ∃ p ∈ pending, p.isOf account = true ∧ p.evidence = .ok (id, evidence)

/-- The key of a row is that of its evidence. -/
theorem dedupeKey_of_evidence {p : PendingUpdate} {id : Id} (hp : p.isOf account = true)
    (hcheck : p.check = true) (h : p.evidence = .ok (id, evidence)) :
    p.dedupeKey = evidence.dedupeKey account ∧ p.id = id ∧
      p.transactionId = evidence.transactionId ∧ p.orderId = evidence.orderId := by
  obtain ⟨state, hstate, hpair⟩ := Transactions.map_eq_ok.mp h
  obtain ⟨rfl, rfl⟩ := Prod.mk.inj hpair
  have hstatus := lifecycleStatus_of_fromParts hstate
  have haccount : p.gatewayAccountId = account.gatewayAccountId := by
    simp only [PendingUpdate.isOf, decide_eq_true_eq] at hp
    exact hp.2
  have hrefunded : lifecycleRefundedAmount state = p.refundedAmountCents := by
    simp only [PendingUpdate.check, decide_eq_true_eq] at hcheck
    have hcheck' : p.stateCheck = true := hcheck.2.2.2.2.2.2.1
    unfold PendingUpdate.stateCheck at hcheck'
    unfold lifecycleStateFromParts at hstate
    split at hstate <;> simp_all [lifecycleRefundedAmount] <;> subst hstate <;> rfl
  refine ⟨?_, rfl, rfl, rfl⟩
  simp only [PendingUpdate.dedupeKey, StoredEvidence.dedupeKey, haccount, hstatus, hrefunded]

/-- Evidence waits: first-seen evidence is staged, and replayed evidence has its row. -/
theorem stageUnlessPending_ok (hs : s.Sound now) (he : evidence.WellFormed)
    (hfresh : s.IsFresh newId) (hreplay : Replays account evidence pendingId s.pending) :
    ∃ newlyStaged s', stageUnlessPending now newId account evidence pendingId s =
        .ok (newlyStaged, s') ∧ s'.Sound now ∧ Staged now account evidence s s' := by
  cases hpending : pendingId with
  | none => exact stageEvidence_ok account hs he hfresh.1
  | some id =>
    obtain ⟨p, hp, hof, hev⟩ := hreplay id hpending
    obtain ⟨hkey, -⟩ := dedupeKey_of_evidence hof (hs.pending_check p hp) hev
    exact ⟨false, s, rfl, hs, rfl, fun q hq => .inl hq, p, hp, hkey, fun hopen => hopen p hp hkey⟩

/-! ## The selected attempt -/

variable (now evidence) in
/-- The transition of a valid row, as the lifecycle of the row has it. -/
theorem lifecycleTransition_ok {a : LifecycleAttempt} (ha : a.lifecycle.Valid a.amountCents) :
    ∃ t, lifecycleTransition (decodedCandidate evidence a).currentState
        a.lifecycle.refundedAmountCents a.lifecycle.lifecycleAt evidence.state evidence.effectiveAt
        a.amountCents = .ok t ∧
      match t with
      | .apply refunded =>
        applyLifecycleEvidence a.amountCents a.lifecycle ⟨evidence.state, evidence.effectiveAt⟩ =
            .ok ((a.updated now refunded evidence).lifecycle, .apply refunded) ∧
          (a.updated now refunded evidence).lifecycle.Valid a.amountCents
      | t => applyLifecycleEvidence a.amountCents a.lifecycle
          ⟨evidence.state, evidence.effectiveAt⟩ = .ok (a.lifecycle, t) := by
  have hcases := applyLifecycleEvidence_cases ha ⟨evidence.state, evidence.effectiveAt⟩
  obtain ⟨state, hstate, hamount⟩ := ha
  have hcurrent : (decodedCandidate evidence a).currentState = state := by
    simp only [decodedCandidate, hstate, Except.toOption, Option.getD_some]
  rw [hcurrent]
  cases ht : lifecycleTransition state a.lifecycle.refundedAmountCents a.lifecycle.lifecycleAt
      evidence.state evidence.effectiveAt a.amountCents with
  | error e =>
    unfold lifecycleTransition at ht
    rw [if_neg (by simp [hamount])] at ht
    split_ifs at ht
  | ok t =>
    refine ⟨t, rfl, ?_⟩
    cases t with
    | apply refunded =>
      have happly : applyLifecycleEvidence a.amountCents a.lifecycle
          ⟨evidence.state, evidence.effectiveAt⟩ =
            if (a.lifecycle.updated refunded ⟨evidence.state, evidence.effectiveAt⟩).amountCheck
                a.amountCents then
              .ok (a.lifecycle.updated refunded ⟨evidence.state, evidence.effectiveAt⟩,
                .apply refunded)
            else .error .checkViolation := by
        simp only [applyLifecycleEvidence, hstate, ht, bind, Except.bind]
      rcases hcases with ⟨r, hr, hne⟩ | ⟨hr, hvalid, -⟩
      · -- An applied report is not one that leaves the row.
        rw [happly] at hr
        split_ifs at hr
        obtain ⟨-, rfl⟩ := Prod.mk.inj (Except.ok.inj hr)
        exact absurd rfl (hne refunded)
      · rw [happly] at hr
        split_ifs at hr with hcheck
        obtain ⟨heq, -⟩ := Prod.mk.inj (Except.ok.inj hr)
        refine ⟨?_, ?_⟩
        · rw [happly, if_pos hcheck]
          rfl
        · show (a.lifecycle.updated refunded _).Valid a.amountCents
          rw [heq]
          exact hvalid
    | alreadySuperseded | invalidRefundEconomics | conflictingLifecycleEvidence =>
      simp only [applyLifecycleEvidence, hstate, ht, bind, Except.bind]

/-- The store with evidence applied to one attempt. -/
def LifecycleStore.withApplied (now : Timestamp) (refunded : ℕ) (evidence : StoredEvidence)
    (a : LifecycleAttempt) (s : LifecycleStore η) : LifecycleStore η where
  accounts := s.accounts
  attempts := updateWhere (fun r => r.id = a.id) (·.updated now refunded evidence) s.attempts
  pending := s.pending
  quarantines := s.quarantines
  host := s.host

/-- The condition after an update fits its column. -/
theorem updated_condition_fits (he : evidence.WellFormed) {a : LifecycleAttempt} {refunded : ℕ}
    (ha : diagnosticFits a.condition = true) :
    diagnosticFits (a.updated now refunded evidence).condition = true := by
  show diagnosticFits (evidence.condition <|> a.condition) = true
  cases hc : evidence.condition with
  | none => exact ha
  | some c => simpa [hc] using he.condition

/-- The `UPDATE` of an attempt of the account. -/
theorem updateAttempt_ok (hs : s.Sound now) (he : evidence.WellFormed) {a : LifecycleAttempt}
    {refunded : ℕ} (ha : a ∈ s.attempts) (happroved : a.approvedOf account = true)
    (hvalid : (a.updated now refunded evidence).lifecycle.Valid a.amountCents) :
    updateAttempt now account refunded evidence a.id s =
      .ok ((), s.withApplied now refunded evidence a) := by
  simp only [LifecycleAttempt.approvedOf, decide_eq_true_eq] at happroved
  have hnodup := nodup_map_of_uniqueOn hs.attempts_unique
  -- Among the rows of the account the id alone selects.
  have htarget : ∀ r ∈ s.attempts,
      (decide (r.id = a.id ∧ r.billingScopeId = account.billingScopeId ∧
        r.gatewayAccountId = account.gatewayAccountId)) = decide (r.id = a.id) := by
    intro r hr
    apply decide_eq_decide.mpr
    refine ⟨fun h => h.1, fun h => ?_⟩
    obtain rfl := eq_of_key_eq hnodup hr ha h
    exact ⟨rfl, happroved.1, happroved.2.1⟩
  have hcheck : (a.updated now refunded evidence).check = true := by
    simp only [LifecycleAttempt.check, decide_eq_true_eq]
    exact ⟨hvalid.checks.1, updated_condition_fits he (hs.condition a ha), he.action,
      hs.created a ha⟩
  have hany : (s.attempts.any fun r => (decide (r.id = a.id ∧
      r.billingScopeId = account.billingScopeId ∧ r.gatewayAccountId = account.gatewayAccountId)) ∧
      (r.updated now refunded evidence).check = false) = false := by
    rw [List.any_eq_false]
    intro r hr
    simp only [decide_eq_true_eq, not_and, Bool.not_eq_false]
    rintro ⟨hid, -, -⟩
    obtain rfl := eq_of_key_eq hnodup hr ha hid
    exact hcheck
  have haffected : rowsAffected (fun r : LifecycleAttempt => decide (r.id = a.id ∧
      r.billingScopeId = account.billingScopeId ∧ r.gatewayAccountId = account.gatewayAccountId))
      s.attempts = 1 := by
    apply rowsAffected_eq_one hs.attempts_unique ha
    · exact decide_eq_true ⟨rfl, happroved.1, happroved.2.1⟩
    · intro r _ hr
      exact (of_decide_eq_true hr).1
  have hupdate : updateWhere (fun r : LifecycleAttempt => decide (r.id = a.id ∧
      r.billingScopeId = account.billingScopeId ∧ r.gatewayAccountId = account.gatewayAccountId))
      (·.updated now refunded evidence) s.attempts =
      updateWhere (fun r => r.id = a.id) (·.updated now refunded evidence) s.attempts := by
    apply List.map_congr_left
    intro r hr
    simp only [htarget r hr]
  simp only [updateAttempt, bind, StateT.bind, get, getThe, MonadStateOf.get, StateT.get, pure,
    Except.pure, Except.bind, he.encodable_parts.2, Bool.true_eq_false, hany, haffected, hupdate,
    ne_eq, not_true_eq_false, if_false, set, Tx.set_run, Bool.false_eq_true]
  rfl

/-- The update keeps a sound store. -/
theorem sound_updateAttempt (hs : s.Sound now) (he : evidence.WellFormed) {a : LifecycleAttempt}
    {refunded : ℕ} (ha : a ∈ s.attempts)
    (hvalid : (a.updated now refunded evidence).lifecycle.Valid a.amountCents) :
    (s.withApplied now refunded evidence a).Sound now := by
  have hnodup := nodup_map_of_uniqueOn hs.attempts_unique
  have hcases : ∀ r ∈ updateWhere (fun r => r.id = a.id) (·.updated now refunded evidence)
    s.attempts,
      r ∈ s.attempts ∨ r = a.updated now refunded evidence := by
    intro r hr
    obtain ⟨r₀, hr₀, rfl⟩ := mem_updateWhere.mp hr
    by_cases hid : r₀.id = a.id
    · right
      obtain rfl := eq_of_key_eq hnodup hr₀ ha hid
      simp
    · left
      simpa [hid] using hr₀
  refine { hs with
    attempts_unique := ?_, lifecycle := ?_, condition := ?_, target := ?_, created := ?_ }
  · exact uniqueOn_updateWhere (fun r _ _ => .inl rfl) hs.attempts_unique
  · intro r hr
    rcases hcases r hr with hr | rfl
    · exact hs.lifecycle r hr
    · exact hvalid
  · intro r hr
    rcases hcases r hr with hr | rfl
    · exact hs.condition r hr
    · exact updated_condition_fits he (hs.condition a ha)
  · intro r hr
    rcases hcases r hr with hr | rfl
    · exact hs.target r hr
    · exact hs.target a ha
  · intro r hr
    rcases hcases r hr with hr | rfl
    · exact hs.created r hr
    · exact hs.created a ha

variable (host evidence) in
/-- The host takes over what it is asked for, refuses, or fails. -/
theorem reverseHostTarget_cases (hs : s.Sound now) {a : LifecycleAttempt} (ha : a ∈ s.attempts) :
    ∀ {t : LifecycleStore η}, t.host = s.host →
      (∃ r, requestedReversal now evidence a = some r ∧ host r s.host = none ∧
        reverseHostTarget now host evidence a t = .error .hostChargeTarget) ∨
      ∃ h applied, reverseHostTarget now host evidence a t = .ok (applied, { t with host := h }) ∧
        (∀ r, requestedReversal now evidence a = some r →
          ∃ o, host r s.host = some (h, o) ∧ o.isApplied = applied) ∧
        (requestedReversal now evidence a = none → applied = true) := by
  intro t ht
  unfold reverseHostTarget requestedReversal
  cases hkind : evidence.state.fullReversalKind with
  | none => exact .inr ⟨t.host, true, rfl, by simp, fun _ => rfl⟩
  | some kind =>
    cases hcharge : a.kind with
    | subscriptionInitial | subscriptionRenewal | subscriptionRecovery
    | subscriptionPaymentMethodUpdate => exact .inr ⟨t.host, true, rfl, by simp, fun _ => rfl⟩
    | hostCharge =>
      obtain ⟨targetId, htarget⟩ := Option.ne_none_iff_exists'.mp (hs.target a ha hcharge)
      simp only [htarget, bind, StateT.bind, get, getThe, MonadStateOf.get, StateT.get, pure,
        Except.pure, Except.bind, ht]
      cases hanswer : host (hostReversal now evidence a kind targetId) s.host with
      | none => exact .inl ⟨_, rfl, hanswer, rfl⟩
      | some answer =>
        refine .inr ⟨answer.1, answer.2.isApplied, rfl, ?_, by simp⟩
        intro r hr
        obtain rfl := Option.some.inj hr
        exact ⟨answer.2, hanswer, rfl⟩

/-- The row that evidence was replayed from is deleted. -/
theorem deletePending_ok :
    deletePending account pendingId s =
      .ok ((), { s with pending := withoutPending account pendingId s.pending }) := by
  cases pendingId <;> rfl

/-- Fewer pending rows, and quarantines that pass their checks, keep a sound store. -/
theorem LifecycleStore.Sound.of_sublist (hs : s.Sound now) (hattempts : s'.attempts = s.attempts)
    (hpending : s'.pending.Sublist s.pending)
    (hquarantines : ∀ q ∈ s'.quarantines, q.sightingCheck = true ∧ q.firstSeenAt ≤ now) :
    s'.Sound now where
  attempts_unique := hattempts ▸ hs.attempts_unique
  lifecycle := hattempts ▸ hs.lifecycle
  condition := hattempts ▸ hs.condition
  target := hattempts ▸ hs.target
  created := hattempts ▸ hs.created
  pending_nodup := hs.pending_nodup.sublist (hpending.map _)
  pending_check := fun p hp => hs.pending_check p (hpending.mem hp)
  pending_seen := fun p hp => hs.pending_seen p (hpending.mem hp)
  quarantine_check := fun q hq => (hquarantines q hq).1
  quarantine_seen := fun q hq => (hquarantines q hq).2

/-- The quarantines of a sound store. -/
theorem LifecycleStore.Sound.quarantines (hs : s.Sound now) :
    ∀ q ∈ s.quarantines, q.sightingCheck = true ∧ q.firstSeenAt ≤ now :=
  fun q hq => ⟨hs.quarantine_check q hq, hs.quarantine_seen q hq⟩

/-- The pending rows that are left are some of those before. -/
theorem withoutPending_sublist (pending : List PendingUpdate) :
    (withoutPending account pendingId pending).Sublist pending := by
  cases pendingId with
  | none => exact List.Sublist.refl _
  | some id => exact List.filter_sublist

/-- A quarantine that is reported again passes its checks, unless its count is full. -/
theorem sightingCheck_seenAgain {q : QuarantineRow} (h : q.sightingCheck = true)
    (hseen : q.firstSeenAt ≤ now) : (q.seenAgain now).sightingCheck = true ↔
      q.occurrenceCount ≠ maxBigint := by
  obtain ⟨-, hmax, -, -, halerted⟩ := of_decide_eq_true h
  have halert : (q.seenAgain now).lastOperatorAlertedAt.all (q.firstSeenAt ≤ ·) = true := by
    show (if q.resolvedAt = none then q.lastOperatorAlertedAt else none).all _ = true
    split_ifs
    · exact halerted
    · rfl
  constructor
  · intro hagain
    have hcount : q.occurrenceCount + 1 ≤ maxBigint := (of_decide_eq_true hagain).2.1
    omega
  · intro hcount
    have hcount : q.occurrenceCount + 1 ≤ maxBigint := by omega
    exact decide_eq_true ⟨Nat.succ_pos _, hcount, hseen, rfl, halert⟩

/-- A quarantine that is resolved passes its checks. -/
theorem sightingCheck_close {q : QuarantineRow} (h : q.sightingCheck = true)
    (hseen : q.firstSeenAt ≤ now) : (q.close now).sightingCheck = true := by
  obtain ⟨hpos, hmax, hfirst, -, halerted⟩ := of_decide_eq_true h
  exact decide_eq_true ⟨hpos, hmax, hfirst, decide_eq_true hseen, halerted⟩

/-- Rows that are updated keep what holds of the quarantines. -/
theorem quarantines_updateWhere {p : QuarantineRow → Bool} {f : QuarantineRow → QuarantineRow}
    (hs : s.Sound now) (hcheck : ∀ q ∈ s.quarantines, p q = true → (f q).sightingCheck = true)
    (hfirst : ∀ q, (f q).firstSeenAt = q.firstSeenAt) :
    ∀ q ∈ updateWhere p f s.quarantines, q.sightingCheck = true ∧ q.firstSeenAt ≤ now := by
  intro q hq
  obtain ⟨q₀, hq₀, rfl⟩ := mem_updateWhere.mp hq
  split_ifs with hp
  · exact ⟨hcheck q₀ hq₀ hp, (hfirst q₀).trans_le (hs.quarantine_seen q₀ hq₀)⟩
  · exact hs.quarantines q₀ hq₀

variable (account) in
/-- A quarantine of well-formed evidence is recorded, and is not resolved; or its count is full. -/
theorem recordQuarantineParts_cases (hs : s.Sound now) (he : evidence.WellFormed)
    (hfresh : s.IsFresh newId) :
    (recordQuarantineParts now newId account evidence.transactionId evidence.orderId
          .invalidRefundEconomics s.quarantines = .error (.store .checkViolation) ∧
        ∃ q ∈ s.quarantines, q.dedupeKey = evidence.quarantineKey account ∧
          q.occurrenceCount = maxBigint) ∨
      ∃ rows, recordQuarantineParts now newId account evidence.transactionId evidence.orderId
          .invalidRefundEconomics s.quarantines = .ok rows ∧
        (∀ q ∈ rows, q.sightingCheck = true ∧ q.firstSeenAt ≤ now) ∧
        ∃ q ∈ rows, q.resolvedAt = none ∧ q.dedupeKey = evidence.quarantineKey account := by
  set row := newQuarantine now newId account evidence.transactionId evidence.orderId
    .invalidRefundEconomics with hrow
  have hcheck : row.check = true := by
    simp only [LifecycleQuarantine.check, decide_eq_true_eq]
    exact ⟨he.transactionId, he.orderId, he.locator.imp_right .inl⟩
  have hkey : row.dedupeKey = evidence.quarantineKey account := rfl
  unfold recordQuarantineParts
  simp only [← hrow, hcheck, Bool.true_eq_false, if_false]
  by_cases hany : (s.quarantines.any fun q => q.dedupeKey = row.dedupeKey) = true
  · rw [if_pos hany]
    obtain ⟨q, hq, heq⟩ := List.any_eq_true.mp hany
    have heq := of_decide_eq_true heq
    -- The row is there and is counted once more, which its checks allow below the largest count.
    by_cases hfull : ∃ q ∈ s.quarantines, q.dedupeKey = row.dedupeKey ∧
        q.occurrenceCount = maxBigint
    · left
      obtain ⟨q, hq, hq', hcount⟩ := hfull
      refine ⟨?_, q, hq, hq'.trans hkey, hcount⟩
      rw [updateQuarantines, if_neg]
      intro hall
      have hagain := List.all_eq_true.mp hall q hq
      rw [decide_eq_true hq', Bool.not_true, Bool.false_or,
        sightingCheck_seenAgain (hs.quarantine_check q hq) (hs.quarantine_seen q hq)] at hagain
      exact hagain hcount
    · right
      have hagain : ∀ q ∈ s.quarantines, decide (q.dedupeKey = row.dedupeKey) = true →
          (q.seenAgain now).sightingCheck = true := by
        intro q hq hp
        refine (sightingCheck_seenAgain (hs.quarantine_check q hq) (hs.quarantine_seen q hq)).mpr ?_
        exact fun hcount => hfull ⟨q, hq, of_decide_eq_true hp, hcount⟩
      refine ⟨_, updateQuarantines_eq_ok.mpr ⟨hagain, rfl⟩,
        quarantines_updateWhere hs hagain fun _ => rfl, q.seenAgain now,
        mem_updateWhere.mpr ⟨q, hq, by simp [heq]⟩, rfl, heq.trans hkey⟩
  · right
    have hid : (s.quarantines.any fun q => q.id = newId) = false := by
      rw [List.any_eq_false]
      intro q hq
      simpa using hfresh.2 q hq
    rw [if_neg hany, hid]
    refine ⟨_, rfl, fun q hq => ?_, row, List.mem_cons_self, rfl, hkey⟩
    rcases List.mem_cons.mp hq with rfl | hq
    · have hmax : 1 ≤ maxBigint := by decide
      exact ⟨by simp [LifecycleQuarantine.sightingCheck, hrow, newQuarantine, hmax], le_refl now⟩
    · exact hs.quarantines q hq

variable (account evidence) in
/-- The quarantines that evidence resolves. -/
theorem resolveMatchingQuarantines_ok (hs : s.Sound now) :
    ∃ rows, resolveMatchingQuarantines now account evidence s.quarantines = .ok rows ∧
      ∀ q ∈ rows, q.sightingCheck = true ∧ q.firstSeenAt ≤ now := by
  have hclose :
    ∀ q ∈ s.quarantines, quarantineMatches account evidence q.toLifecycleQuarantine = true →
      (q.close now).sightingCheck = true :=
    fun q hq _ => sightingCheck_close (hs.quarantine_check q hq) (hs.quarantine_seen q hq)
  exact ⟨_, updateQuarantines_eq_ok.mpr ⟨hclose, rfl⟩, quarantines_updateWhere hs hclose
    fun _ => rfl⟩

variable (account evidence pendingId) in
/-- The end of evidence that is applied or superseded. -/
theorem resolve_then_delete_ok (hs : s.Sound now) (outcome : GatewayLifecycleApplyOutcome) :
    ∃ s', (do
          onQuarantines (resolveMatchingQuarantines now account evidence)
          deletePending account pendingId
          pure outcome : LifecycleProgram η _) s = .ok (outcome, s') ∧ s'.Sound now ∧
      s'.attempts = s.attempts ∧ s'.host = s.host ∧
      s'.pending = withoutPending account pendingId s.pending := by
  obtain ⟨rows, hrows, hchecked⟩ := resolveMatchingQuarantines_ok account evidence hs
  simp only [bind, StateT.bind, onQuarantines, Tx.statement, hrows, Except.map, Except.bind,
    deletePending_ok, pure, Tx.pure_run]
  exact ⟨_, rfl, hs.of_sublist rfl (withoutPending_sublist _) hchecked, rfl, rfl, rfl⟩

variable (account pendingId) in
/-- The end of evidence whose amounts cannot be right. -/
theorem quarantine_then_delete_cases (hs : s.Sound now) (he : evidence.WellFormed)
    (hfresh : s.IsFresh newId) (outcome : GatewayLifecycleApplyOutcome) :
    (((do
          onQuarantines (recordQuarantineParts now newId account evidence.transactionId
            evidence.orderId .invalidRefundEconomics)
          deletePending account pendingId
          pure outcome : LifecycleProgram η _) s = .error (.store .checkViolation)) ∧
        ∃ q ∈ s.quarantines, q.dedupeKey = evidence.quarantineKey account ∧
          q.occurrenceCount = maxBigint) ∨
      ∃ s', (do
          onQuarantines (recordQuarantineParts now newId account evidence.transactionId
            evidence.orderId .invalidRefundEconomics)
          deletePending account pendingId
          pure outcome : LifecycleProgram η _) s = .ok (outcome, s') ∧ s'.Sound now ∧
        (∃ q ∈ s'.quarantines, q.resolvedAt = none ∧ q.dedupeKey = evidence.quarantineKey account) ∧
        s'.attempts = s.attempts ∧ s'.pending = withoutPending account pendingId s.pending := by
  rcases recordQuarantineParts_cases account hs he hfresh with ⟨hfail, hfull⟩ |
    ⟨rows, hrows, hchecked, hq⟩
  · left
    refine ⟨?_, hfull⟩
    simp only [bind, StateT.bind, onQuarantines, Tx.statement, hfail, Except.map, Except.bind]
  · right
    simp only [bind, StateT.bind, onQuarantines, Tx.statement, hrows, Except.map, Except.bind,
      deletePending_ok, pure, Tx.pure_run]
    exact ⟨_, rfl, hs.of_sublist rfl (withoutPending_sublist _) hchecked, hq, rfl, rfl⟩

variable (host pendingId) in
/-- The evidence on a selected attempt: the transaction fails only as it may, and else the outcome
leaves what it says. A refusal is left to the second transaction. -/
theorem applyToCandidate_ok (hs : s.Sound now) (he : evidence.WellFormed) (hfresh : s.IsFresh newId)
    {a : LifecycleAttempt} (hsel : IsSelected account evidence s.attempts a) :
    (∃ e, applyToCandidate host now newId account evidence pendingId
          (decodedCandidate evidence a) s = .error e ∧
        EvidenceFails host now account evidence s e) ∨
    ∃ outcome s', applyToCandidate host now newId account evidence pendingId
        (decodedCandidate evidence a) s = .ok (outcome, s') ∧
      ((outcome = .hostTargetTransitionSkipped ∧
          ∃ r h o, requestedReversal now evidence a = some r ∧
            host r s.host = some (h, o) ∧ o.isApplied = false) ∨
        (outcome ≠ .hostTargetTransitionSkipped ∧ s'.Sound now ∧
          EvidenceAccounted host now account evidence pendingId s s' outcome)) := by
  obtain ⟨ha, happroved, -⟩ := id hsel
  obtain ⟨t, ht, hlife⟩ := lifecycleTransition_ok now evidence
    (hs.lifecycle a ha)
  -- Only an application writes the attempt and asks the host; the other transitions conclude.
  have hconclude (hnot : ∀ refunded, t ≠ .apply refunded) :
      applyToCandidate host now newId account evidence pendingId (decodedCandidate evidence a) s =
        concludeEvidence now newId account evidence pendingId t s := by
    simp only [applyToCandidate, bind, StateT.bind, liftLifecycle]
    rw [show (decodedCandidate evidence a).attempt = a from rfl, ht]
    cases t with
    | apply refunded => exact absurd rfl (hnot refunded)
    | alreadySuperseded | invalidRefundEconomics | conflictingLifecycleEvidence => rfl
  cases t with
  | apply refunded =>
    have hunfold :
      applyToCandidate host now newId account evidence pendingId (decodedCandidate evidence a) s =
        (do
          updateAttempt now account refunded evidence a.id
          if ← reverseHostTarget now host evidence a then
            concludeEvidence now newId account evidence pendingId (.apply refunded)
          else pure .hostTargetTransitionSkipped : LifecycleProgram η _) s := by
      simp only [applyToCandidate, bind, StateT.bind, liftLifecycle]
      rw [show (decodedCandidate evidence a).attempt = a from rfl, ht]
      rfl
    rw [hunfold]
    obtain ⟨happly, hvalid⟩ := hlife
    have hupdate := updateAttempt_ok hs he ha happroved hvalid
    have hsound := sound_updateAttempt hs he ha hvalid
    rcases reverseHostTarget_cases host evidence hs ha
      (t := s.withApplied now refunded evidence a) rfl with
      ⟨r, hr, hnone, hfail⟩ | ⟨h, applied, hok, hanswer, hfree⟩
    · left
      refine ⟨_, ?_, .host hsel hr hnone⟩
      simp only [bind, StateT.bind, hupdate, Except.bind, hfail]
    · right
      cases applied with
      | true =>
        obtain ⟨s', hend, hs', hattempts, hhost, hpending⟩ := resolve_then_delete_ok
          account evidence pendingId
          (s := { s.withApplied now refunded evidence a with host := h })
          (hsound.of_sublist rfl (List.Sublist.refl _) hs.quarantines) .applied
        refine ⟨.applied, s', ?_,
          .inr ⟨by simp, hs', a, refunded, hsel, happly, hattempts, ?_, hpending⟩⟩
        · simp only [bind, StateT.bind, hupdate, Except.bind, hok, if_true]
          exact hend
        · intro r hr
          obtain ⟨o, ho, happlied⟩ := hanswer r hr
          exact ⟨o, by rw [ho, hhost], happlied⟩
      -- A refusal is the host's own: without a request to it the reversal counts as applied.
      | false =>
        obtain ⟨r, hr⟩ : ∃ r, requestedReversal now evidence a = some r := by
          refine Option.ne_none_iff_exists'.mp fun hnone => ?_
          exact absurd (hfree hnone) (by decide)
        obtain ⟨o, ho, hrefused⟩ := hanswer r hr
        refine ⟨.hostTargetTransitionSkipped,
          { s.withApplied now refunded evidence a with host := h }, ?_,
            .inl ⟨rfl, r, h, o, hr, ho, hrefused⟩⟩
        simp only [bind, StateT.bind, hupdate, Except.bind, hok, Bool.false_eq_true, if_false]
        rfl
  | alreadySuperseded =>
    right
    obtain ⟨s', hend, hs', hattempts, -, hpending⟩ := resolve_then_delete_ok
      account evidence pendingId hs .alreadySuperseded
    exact ⟨_, s', (hconclude (by simp)).trans hend,
      .inr ⟨by simp, hs', a, hsel, hlife, hattempts, hpending⟩⟩
  | invalidRefundEconomics | conflictingLifecycleEvidence =>
    rcases quarantine_then_delete_cases account pendingId hs he hfresh _ with
      ⟨hend, q, hq, hkey, hfull⟩ | ⟨s', hend, hs', hacc⟩
    · exact .inl ⟨_, (hconclude (by simp)).trans hend, .count hq hkey hfull⟩
    · exact .inr ⟨_, s', (hconclude (by simp)).trans hend, .inr ⟨by simp, hs', hacc⟩⟩

/-! ## Evidence -/

/-- A selected candidate is the decoded row of the selected attempt. -/
theorem isSelected_of_selectedCandidate (hs : s.Sound now) (he : evidence.WellFormed)
    {c : AttemptCandidate} (hc : selectedCandidate ((candidateRows account evidence s.attempts).map
      (decodedCandidate evidence)) = some c) :
    IsSelected account evidence s.attempts c.attempt ∧ c = decodedCandidate evidence c.attempt := by
  obtain ⟨a, ha, rfl⟩ := List.mem_map.mp (selectedCandidate_mem hc)
  obtain ⟨hmem, hcand⟩ := mem_candidateRows.mp ha
  simp only [isCandidate, decide_eq_true_eq] at hcand
  exact ⟨⟨hmem, hcand.1, _, _, attemptCandidates_ok hs he.encodable_parts.1, hc, rfl⟩, rfl⟩

/-- No attempt is selected without a selected candidate. -/
theorem not_isSelected_of_selectedCandidate (hs : s.Sound now) (he : evidence.WellFormed)
    (hc : selectedCandidate ((candidateRows account evidence s.attempts).map
      (decodedCandidate evidence)) = none) (a : LifecycleAttempt) :
    ¬ IsSelected account evidence s.attempts a := by
  rintro ⟨-, -, candidates, c, hcandidates, hselected, -⟩
  obtain rfl :=
    Except.ok.inj ((attemptCandidates_ok hs he.encodable_parts.1).symm.trans hcandidates)
  rw [hc] at hselected
  cases hselected

/-- A report of an account that is there passes. -/
theorem ensureLifecycleAccount_ok (h : account ∈ s.accounts) :
    ensureLifecycleAccount account s = .ok ((), s) := by
  simp only [ensureLifecycleAccount, bind, StateT.bind, get, getThe, MonadStateOf.get,
    StateT.get, pure, Except.pure, Except.bind, h, if_true, Tx.pure_run]

/-- Evidence on a sound store: the call fails only as it may, and else its outcome leaves what it
says. -/
theorem applyOrStageEvidence_ok (hs : s.Sound now) (haccount : account ∈ s.accounts)
    (he : evidence.WellFormed) (hfresh : s.IsFresh newId)
    (hreplay : Replays account evidence pendingId s.pending) :
    (∃ e, applyOrStageEvidence host now newId account evidence pendingId s = .error e ∧
      EvidenceFails host now account evidence s e) ∨
    ∃ application s', applyOrStageEvidence host now newId account evidence pendingId s =
        .ok (application, s') ∧ s'.Sound now ∧
      EvidenceAccounted host now account evidence pendingId s s' application.outcome := by
  -- What staging leaves is needed twice: where no attempt is selected, and after a refusal.
  obtain ⟨newlyStaged, s₁, hstage, hs₁, hstaged⟩ := stageUnlessPending_ok hs he hfresh hreplay
  have hensure := ensureLifecycleAccount_ok haccount
  have hrefusal : refusalTransaction now newId account evidence pendingId s =
      .ok (⟨.hostTargetTransitionSkipped, newlyStaged⟩, s₁) := by
    simp only [refusalTransaction, bind, StateT.bind, hensure, Except.bind, hstage, pure,
      Tx.pure_run]
  unfold applyOrStageEvidence
  cases hc : selectedCandidate ((candidateRows account evidence s.attempts).map
      (decodedCandidate evidence)) with
  | none =>
    have htransaction : evidenceTransaction host now newId account evidence pendingId s =
        (do
          let newlyStaged ← stageUnlessPending now newId account evidence pendingId
          pure ⟨if (candidateRows account evidence s.attempts).map (decodedCandidate evidence) = []
            then .stagedNoMatch else .stagedAmbiguous, newlyStaged⟩ :
          LifecycleProgram η EvidenceApplication) s := by
      simp only [evidenceTransaction, bind, StateT.bind, hensure, Except.bind, get, getThe,
        MonadStateOf.get, StateT.get, pure, Except.pure, liftLifecycle,
        attemptCandidates_ok hs he.encodable_parts.1, hc]
    rw [htransaction]
    right
    have hnone := not_isSelected_of_selectedCandidate hs he hc
    by_cases hempty :
      (candidateRows account evidence s.attempts).map (decodedCandidate evidence) = []
    · refine ⟨⟨.stagedNoMatch, newlyStaged⟩, s₁, ?_, hs₁, hstaged, hnone⟩
      simp only [bind, StateT.bind, hstage, Except.bind, pure, Tx.pure_run, hempty, if_true,
        reduceCtorEq, if_false]
    · refine ⟨⟨.stagedAmbiguous, newlyStaged⟩, s₁, ?_, hs₁, hstaged, hnone⟩
      simp only [bind, StateT.bind, hstage, Except.bind, pure, Tx.pure_run, hempty,
        reduceCtorEq, if_false]
  | some c =>
    have htransaction : evidenceTransaction host now newId account evidence pendingId s =
        (do
          let outcome ← applyToCandidate host now newId account evidence pendingId c
          pure ⟨outcome, false⟩ : LifecycleProgram η EvidenceApplication) s := by
      simp only [evidenceTransaction, bind, StateT.bind, hensure, Except.bind, get, getThe,
        MonadStateOf.get, StateT.get, pure, Except.pure, liftLifecycle,
        attemptCandidates_ok hs he.encodable_parts.1, hc]
    rw [htransaction]
    obtain ⟨hsel, hdecoded⟩ := isSelected_of_selectedCandidate hs he hc
    rw [hdecoded]
    rcases applyToCandidate_ok host pendingId hs he hfresh hsel with
      ⟨e, hfail, hreason⟩ | ⟨outcome, s', hok, ⟨rfl, r, h, o, hr, ho, hrefused⟩ | ⟨hne, hs', hacc⟩⟩
    · left
      refine ⟨e, ?_, hreason⟩
      simp only [bind, StateT.bind, hfail, Except.bind]
    · -- The refusal rolls the transaction back, and the evidence is staged on the store as it was.
      right
      refine ⟨⟨.hostTargetTransitionSkipped, newlyStaged⟩, s₁, ?_, hs₁, hstaged, c.attempt, r, h, o,
        hsel, hr, ho, hrefused⟩
      simp only [bind, StateT.bind, hok, Except.bind, pure, Tx.pure_run, if_true]
      exact hrefusal
    · right
      refine ⟨⟨outcome, false⟩, s', ?_, hs', hacc⟩
      simp only [bind, StateT.bind, hok, Except.bind, pure, Tx.pure_run, hne, if_false]

/-! ## Pending rows -/

/-- Evidence deletes only the row that it was replayed from, and only when it was concluded. -/
theorem pending_deleted_of_accounted {outcome : GatewayLifecycleApplyOutcome}
    (hacc : EvidenceAccounted host now account evidence pendingId s s' outcome) {p : PendingUpdate}
    (hp : p ∈ s.pending) (hgone : ∀ p' ∈ s'.pending, p'.id ≠ p.id) :
    pendingId = some p.id ∧ outcome ∈ [GatewayLifecycleApplyOutcome.applied, .alreadySuperseded,
      .invalidRefundEconomics, .conflictingLifecycleEvidence] := by
  have hwithout (h : s'.pending = withoutPending account pendingId s.pending) :
      pendingId = some p.id := by
    rw [h] at hgone
    cases hpending : pendingId with
    | none =>
      rw [hpending] at hgone
      exact absurd rfl (hgone p hp)
    | some id =>
      rw [hpending] at hgone
      by_contra hne
      refine hgone p (List.mem_filter.mpr ⟨hp, ?_⟩) rfl
      simp only [decide_eq_true_eq, not_and]
      intro hid
      exact absurd (congrArg some hid.symm) hne
  have hstaged (h : Staged now account evidence s s') : False := by
    rcases h.kept p hp with hmem | hmem
    · exact hgone _ hmem rfl
    · exact hgone _ hmem rfl
  cases outcome with
  | applied =>
    obtain ⟨a, refunded, -, -, -, -, hpending⟩ := hacc
    exact ⟨hwithout hpending, by decide⟩
  | alreadySuperseded =>
    obtain ⟨a, -, -, -, hpending⟩ := hacc
    exact ⟨hwithout hpending, by decide⟩
  | invalidRefundEconomics => exact ⟨hwithout hacc.2.2, by decide⟩
  | conflictingLifecycleEvidence => exact ⟨hwithout hacc.2.2, by decide⟩
  | hostTargetTransitionSkipped => exact (hstaged hacc.1).elim
  | stagedAmbiguous | stagedNoMatch => exact (hstaged hacc.1).elim

/-- The cleanup deletes expired rows of the account, and nothing else. -/
theorem cleanupPending_spec (hs : s.Sound now) :
    Tx.Ensures (cleanupPending now account) s fun _ s' => s'.attempts = s.attempts ∧
      s'.quarantines = s.quarantines ∧ s'.pending.Sublist s.pending ∧
      ∀ p ∈ s.pending, p ∉ s'.pending → p.isOf account = true ∧ p.expiresAt ≤ now := by
  intro n s' h
  by_cases haccount : account ∈ s.accounts
  · simp only [cleanupPending, bind, StateT.bind, ensureLifecycleAccount_ok haccount, get, getThe,
      MonadStateOf.get, StateT.get, pure, Except.pure, Except.bind, set, Tx.set_run, Tx.pure_run,
      Except.ok.injEq, Prod.mk.injEq] at h
    obtain ⟨-, rfl⟩ := h
    refine ⟨rfl, rfl, List.filter_sublist, fun p hp hgone => ?_⟩
    simp only [List.mem_filter, hp, true_and, decide_eq_true_eq, List.any_eq_true] at hgone
    obtain ⟨q, hq, hid⟩ := not_not.mp hgone
    have hq' := (List.mem_filter.mp ((List.mem_insertionSort _).mp (List.mem_of_mem_take hq)))
    obtain rfl := eq_of_key_eq hs.pending_nodup hq'.1 hp hid
    simpa using hq'.2
  · simp only [cleanupPending, bind, StateT.bind, ensureLifecycleAccount, get, getThe,
      MonadStateOf.get, StateT.get, pure, Except.pure, Except.bind, haccount, if_false] at h
    cases h

/-- The checks of rows that cannot be applied keep the store sound and every row. -/
theorem recordUnactionableChecks_spec (hs : s.Sound now) :
    Tx.Ensures (recordUnactionableChecks now account) s fun _ s' => s'.Sound now ∧
      ∀ p ∈ s.pending, ∃ p' ∈ s'.pending, p'.id = p.id := by
  intro u s' h
  by_cases haccount : account ∈ s.accounts
  · simp only [recordUnactionableChecks, bind, StateT.bind, ensureLifecycleAccount_ok haccount, get,
      getThe, MonadStateOf.get, StateT.get, pure, Except.pure, Except.bind, set, Tx.set_run,
      Except.ok.injEq, Prod.mk.injEq] at h
    obtain ⟨-, rfl⟩ := h
    have hids (f : PendingUpdate → Bool) :
        (updateWhere f (·.checked now) s.pending).map (·.id) = s.pending.map (·.id) :=
      map_key_updateWhere fun p _ _ => rfl
    refine ⟨{ hs with pending_nodup := ?_, pending_check := ?_, pending_seen := ?_ }, ?_⟩
    · show (List.map _ (updateWhere _ _ s.pending)).Nodup
      rw [hids]
      exact hs.pending_nodup
    · intro p hp
      obtain ⟨p₀, hp₀, rfl⟩ := mem_updateWhere.mp hp
      split_ifs
      · exact hs.pending_check p₀ hp₀
      · exact hs.pending_check p₀ hp₀
    · intro p hp
      obtain ⟨p₀, hp₀, rfl⟩ := mem_updateWhere.mp hp
      split_ifs
      · exact hs.pending_seen p₀ hp₀
      · exact hs.pending_seen p₀ hp₀
    · intro p hp
      refine ⟨_, mem_updateWhere.mpr ⟨p, hp, rfl⟩, ?_⟩
      split_ifs <;> rfl
  · simp only [recordUnactionableChecks, bind, StateT.bind, ensureLifecycleAccount, get, getThe,
      MonadStateOf.get, StateT.get, pure, Except.pure, Except.bind, haccount, if_false] at h
    cases h

/-- A recording leaves rows that pass their checks and were not first seen later. -/
theorem recordQuarantineParts_spec (hs : s.Sound now) {transactionId orderId : Option String}
    {reason : GatewayLifecycleQuarantineReason} {rows : List QuarantineRow}
    (h : recordQuarantineParts now newId account transactionId orderId reason s.quarantines =
      .ok rows) :
    ∀ q ∈ rows, q.sightingCheck = true ∧ q.firstSeenAt ≤ now := by
  unfold recordQuarantineParts at h
  dsimp only at h
  split_ifs at h
  · obtain ⟨hcheck, rfl⟩ := updateQuarantines_eq_ok.mp h
    exact quarantines_updateWhere hs hcheck fun _ => rfl
  · obtain rfl := Except.ok.inj h
    intro q hq
    rcases List.mem_cons.mp hq with rfl | hq
    · have hmax : 1 ≤ maxBigint := by decide
      exact ⟨by simp [LifecycleQuarantine.sightingCheck, newQuarantine, hmax], le_refl now⟩
    · exact hs.quarantines q hq

/-- A pending row of well-formed evidence decodes. -/
theorem evidence_ok {p : PendingUpdate} (h : p.check = true) :
    ∃ evidence, p.evidence = .ok (p.id, evidence) ∧ evidence.WellFormed := by
  simp only [PendingUpdate.check, decide_eq_true_eq] at h
  obtain ⟨htexts, hlocator, htx, horder, hcondition, haction, hstate, -, -⟩ := h
  have hdecode : ∃ state, lifecycleStateFromParts p.status p.refundedAmountCents = .ok state ∧
      lifecycleRefundedAmount state ≠ some 0 := by
    unfold PendingUpdate.stateCheck at hstate
    cases hs : p.status <;> cases hr : p.refundedAmountCents with
    | none => simp_all [lifecycleStateFromParts, lifecycleRefundedAmount]
    | some n => cases n <;> simp_all [lifecycleStateFromParts, lifecycleRefundedAmount]
  obtain ⟨state, hok, hrefunded⟩ := hdecode
  refine ⟨_, by rw [PendingUpdate.evidence, hok]; rfl, ?_⟩
  exact ⟨htexts, hlocator, htx, horder, hcondition, haction, hrefunded⟩

/-- The query of pending rows returns the evidence of the first hundred unexpired rows of the
account that an attempt is selected for. -/
theorem actionablePending_ok (hs : s.Sound now) :
    (∀ p ∈ s.pending, ∃ evidence, p.evidence = .ok (p.id, evidence) ∧
      (isActionable now account s.attempts p = true ↔
        p.isOf account = true ∧ now < p.expiresAt ∧
          selectsAttempt account evidence s.attempts = true)) ∧
      ∃ rows, actionablePending now account s = .ok rows ∧
        rows.map Prod.fst = (((s.pending.filter (isActionable now account s.attempts)).insertionSort
          pendingOrder).take stagedApplicationBatchSize).map (·.id) := by
  refine ⟨fun p hp => ?_, ?_⟩
  · obtain ⟨evidence, hev, he⟩ := evidence_ok (hs.pending_check p hp)
    refine ⟨evidence, hev, ?_⟩
    have hlocators : p.transactionId = evidence.transactionId ∧ p.orderId = evidence.orderId := by
      obtain ⟨state, hstate, hpair⟩ := Transactions.map_eq_ok.mp hev
      obtain ⟨-, rfl⟩ := Prod.mk.inj hpair
      exact ⟨rfl, rfl⟩
    rw [isActionable, decide_eq_true_eq,
      hasActionableMatch_iff hs he.encodable_parts.1 hlocators.1 hlocators.2]
  · have hdecode : ∀ p ∈ ((s.pending.filter (isActionable now account s.attempts)).insertionSort
        pendingOrder).take stagedApplicationBatchSize,
        p.evidence = .ok (p.id, (p.evidence.toOption.getD (p.id, ⟨none, none, .unknown, none, none,
          none⟩)).2) := by
      intro p hp
      have hmem := (List.mem_filter.mp ((List.mem_insertionSort _).mp (List.mem_of_mem_take hp))).1
      obtain ⟨evidence, hev, -⟩ := evidence_ok (hs.pending_check p hmem)
      rw [hev]
      rfl
    refine ⟨_, Transactions.mapM_eq_ok hdecode, ?_⟩
    rw [List.map_map]
    rfl

/-! ## Operations -/

/-- The operations of the reconciliation on its tables. -/
inductive LifecycleOp
  | report (newId : Id) (evidence : StoredEvidence)
  | replay (newId pendingId : Id) (evidence : StoredEvidence)
  | stage (newId : Id) (evidence : StoredEvidence)
  | quarantine (newId : Id) (transactionId orderId : Option String)
      (reason : GatewayLifecycleQuarantineReason)
  | cleanup
  | check

/-- What an operation is given: well-formed evidence, a fresh identifier for its row, and the row of
evidence that is replayed. -/
def LifecycleOp.Admissible (account : GatewayLifecycleAccount) (s : LifecycleStore η) :
    LifecycleOp → Prop
  | .report newId evidence | .stage newId evidence => evidence.WellFormed ∧ s.IsFresh newId
  | .replay newId pendingId evidence => s.IsFresh newId ∧
      ∃ p ∈ s.pending, p.isOf account = true ∧ p.evidence = .ok (pendingId, evidence)
  | .quarantine .. | .cleanup | .check => True

/-- The transaction of an operation, with the outcome of evidence. -/
def LifecycleOp.run (host : HostTargets η) (now : Timestamp) (account : GatewayLifecycleAccount) :
    LifecycleOp → LifecycleProgram η (Option GatewayLifecycleApplyOutcome)
  | .report newId evidence => do
    let application ← applyOrStageEvidence host now newId account evidence none
    pure (some application.outcome)
  | .replay newId pendingId evidence => do
    let application ← applyOrStageEvidence host now newId account evidence (some pendingId)
    pure (some application.outcome)
  | .stage newId evidence => do
    ensureLifecycleAccount account
    let _ ← stageEvidence now account newId evidence
    pure none
  | .quarantine newId transactionId orderId reason => do
    ensureLifecycleAccount account
    onQuarantines (recordQuarantineParts now newId account transactionId orderId reason)
    pure none
  | .cleanup => do
    let _ ← cleanupPending now account
    pure none
  | .check => do
    recordUnactionableChecks now account
    pure none

/-- Why a pending row goes: it was replayed and concluded in the transaction that deleted it, or it
had expired. -/
def DeletionAllowed (now : Timestamp) (op : LifecycleOp)
    (outcome : Option GatewayLifecycleApplyOutcome) (p : PendingUpdate) : Prop :=
  (∃ newId evidence o, op = .replay newId p.id evidence ∧ outcome = some o ∧
      o ∈ [GatewayLifecycleApplyOutcome.applied, .alreadySuperseded, .invalidRefundEconomics,
        .conflictingLifecycleEvidence]) ∨
    (op = .cleanup ∧ p.expiresAt ≤ now)

/-- An operation keeps the store sound, and deletes only rows that may go. -/
theorem LifecycleOp.run_spec (hs : s.Sound now) (haccount : account ∈ s.accounts) {op : LifecycleOp}
    (hop : op.Admissible account s) :
    Tx.Ensures (op.run host now account) s fun outcome s' => s'.Sound now ∧
      ∀ p ∈ s.pending, (∀ p' ∈ s'.pending, p'.id ≠ p.id) → DeletionAllowed now op outcome p := by
  -- Reports and replays are one program, and its accounting says which rows it may delete.
  have hevidence (newId : Id) {evidence : StoredEvidence} (pendingId : Option Id)
      (he : evidence.WellFormed) (hfresh : s.IsFresh newId)
      (hreplay : Replays account evidence pendingId s.pending) :
      Tx.Ensures (applyOrStageEvidence host now newId account evidence pendingId) s fun app s' =>
        s'.Sound now ∧
          EvidenceAccounted host now account evidence pendingId s s' app.outcome := by
    intro app s' h
    rcases applyOrStageEvidence_ok hs haccount he hfresh hreplay with
      ⟨e, hfail, -⟩ | ⟨app', s₁, hok, hacc⟩
    · rw [hfail] at h
      cases h
    · obtain ⟨rfl, rfl⟩ := Prod.mk.inj (Except.ok.inj (hok.symm.trans h))
      exact hacc
  cases op with
  | report newId evidence =>
    have hreplay : Replays account evidence none s.pending := fun _ h => by cases h
    refine Tx.ensures_bind.mpr ((hevidence newId none hop.1 hop.2 hreplay).mono ?_)
    intro app s' ⟨hs', hacc⟩
    refine Tx.ensures_pure.mpr ⟨hs', fun p hp hgone => ?_⟩
    cases (pending_deleted_of_accounted hacc hp hgone).1
  | replay newId pendingId evidence =>
    obtain ⟨hfresh, p, hp, hof, hev⟩ := hop
    have he : evidence.WellFormed := by
      obtain ⟨evidence', hev', he'⟩ := evidence_ok (hs.pending_check p hp)
      obtain ⟨-, rfl⟩ := Prod.mk.inj (Except.ok.inj (hev.symm.trans hev'))
      exact he'
    have hreplay : Replays account evidence (some pendingId) s.pending := by
      intro id hid
      obtain rfl := Option.some.inj hid
      exact ⟨p, hp, hof, hev⟩
    refine Tx.ensures_bind.mpr ((hevidence newId (some pendingId) he hfresh hreplay).mono ?_)
    intro app s' ⟨hs', hacc⟩
    refine Tx.ensures_pure.mpr ⟨hs', fun p hp hgone => .inl ?_⟩
    obtain ⟨hid, hmem⟩ := pending_deleted_of_accounted hacc hp hgone
    obtain rfl := Option.some.inj hid
    exact ⟨newId, evidence, _, rfl, rfl, hmem⟩
  -- Staging, a quarantine and a check delete nothing; the cleanup deletes what has expired.
  | stage newId evidence =>
    obtain ⟨newly, s', hstage, hs', hstaged⟩ := stageEvidence_ok account hs hop.1 hop.2.1
    intro outcome s'' h
    simp only [LifecycleOp.run, bind, StateT.bind, ensureLifecycleAccount_ok haccount,
      Except.bind, hstage, pure, Tx.pure_run, Except.ok.injEq, Prod.mk.injEq] at h
    obtain ⟨-, rfl⟩ := h
    refine ⟨hs', fun p hp hgone => ?_⟩
    rcases hstaged.kept p hp with hmem | hmem
    · exact (hgone _ hmem rfl).elim
    · exact (hgone _ hmem rfl).elim
  | quarantine newId transactionId orderId reason =>
    intro outcome s' h
    simp only [LifecycleOp.run, bind, StateT.bind, ensureLifecycleAccount_ok haccount,
      Except.bind] at h
    obtain ⟨⟨u, s₁⟩, hrecord, hpure⟩ := Transactions.bind_eq_ok.mp h
    obtain ⟨-, rfl⟩ := Prod.mk.inj (Except.ok.inj hpure)
    simp only [onQuarantines, Tx.statement] at hrecord
    cases hrows : recordQuarantineParts now newId account transactionId orderId reason
      s.quarantines with
    | error e =>
      simp only [hrows, Except.map] at hrecord
      cases hrecord
    | ok rows =>
      simp only [hrows, Except.map] at hrecord
      obtain ⟨-, rfl⟩ := Prod.mk.inj (Except.ok.inj hrecord)
      refine ⟨hs.of_sublist rfl (List.Sublist.refl _) (recordQuarantineParts_spec hs hrows),
        fun p hp hgone => ?_⟩
      exact absurd rfl (hgone p hp)
  | cleanup =>
    refine Tx.ensures_bind.mpr ((cleanupPending_spec hs).mono fun n s' hpost => ?_)
    obtain ⟨hattempts, hquarantines, hsub, hgone⟩ := hpost
    refine Tx.ensures_pure.mpr ⟨hs.of_sublist hattempts hsub (hquarantines ▸ hs.quarantines),
      fun p hp hids => .inr ⟨rfl, ?_⟩⟩
    exact (hgone p hp fun hmem => hids p hmem rfl).2
  | check =>
    refine Tx.ensures_bind.mpr ((recordUnactionableChecks_spec hs).mono fun u s' hpost => ?_)
    obtain ⟨hs', hkept⟩ := hpost
    refine Tx.ensures_pure.mpr ⟨hs', fun p hp hgone => ?_⟩
    obtain ⟨p', hp', hid⟩ := hkept p hp
    exact absurd hid (hgone p' hp')

end

/-- Lifecycle evidence on every sound store, first-seen or replayed. A call fails only when the host
does or the count of a quarantine is full, and changes nothing then; else its one outcome says what
holds afterwards: the evidence was applied to one approved attempt of the account, it was superseded
on it, it is in an open quarantine, or a pending row with its full key is there, unexpired unless an
expired one was, which a refusal of the host leaves or creates on an unchanged attempt. A pending
row goes only in the transaction that concluded it, or after its expiry. And the pending rows that
are offered again are the first hundred of those that are not expired and that an attempt is
selected for. -/
theorem lifecycle_evidence_accounted {η : Type} (host : HostTargets η) (now : Timestamp)
    (account : GatewayLifecycleAccount) (s : LifecycleStore η) (hs : s.Sound now)
    (haccount : account ∈ s.accounts) :
    (∀ newId evidence pendingId, evidence.WellFormed → s.IsFresh newId →
      Replays account evidence pendingId s.pending →
      (∃ e, applyOrStageEvidence host now newId account evidence pendingId s = .error e ∧
        EvidenceFails host now account evidence s e) ∨
      ∃ application s', applyOrStageEvidence host now newId account evidence pendingId s =
          .ok (application, s') ∧ s'.Sound now ∧
        EvidenceAccounted host now account evidence pendingId s s' application.outcome) ∧
    (∀ op outcome s', op.Admissible account s →
      op.run host now account s = .ok (outcome, s') → s'.Sound now ∧
      ∀ p ∈ s.pending, (∀ p' ∈ s'.pending, p'.id ≠ p.id) → DeletionAllowed now op outcome p) ∧
    (∀ p ∈ s.pending, ∃ evidence, p.evidence = .ok (p.id, evidence) ∧
      (isActionable now account s.attempts p = true ↔
        p.isOf account = true ∧ now < p.expiresAt ∧
          selectsAttempt account evidence s.attempts = true)) ∧
    ∃ rows, actionablePending now account s = .ok rows ∧
      rows.map Prod.fst = (((s.pending.filter (isActionable now account s.attempts)).insertionSort
        pendingOrder).take stagedApplicationBatchSize).map (·.id) := by
  refine ⟨?_, ?_, (actionablePending_ok hs).1, (actionablePending_ok hs).2⟩
  · intro newId evidence pendingId he hfresh hreplay
    exact applyOrStageEvidence_ok hs haccount he hfresh hreplay
  · intro op outcome s' hop h
    exact LifecycleOp.run_spec hs haccount hop outcome s' h

/-- An account. -/
def lifecycleAccount : GatewayLifecycleAccount := ⟨1, 2, "nmi"⟩

/-- An approved host charge of 100 cents. -/
def approvedHostCharge : LifecycleAttempt where
  id := 10
  billingScopeId := 1
  subscriberId := 3
  gatewayAccountId := 2
  kind := .hostCharge
  status := .approved
  hostChargeTargetId := some 4
  amountCents := 100
  gatewayTransactionId := some "txn"
  gatewayOrderId := "order"
  createdAt := 0
  updatedAt := 0
  condition := none
  lifecycleAction := none
  lifecycle := {}
  lifecycleReconciledAt := none

/-- The report of its full refund. -/
def fullRefund : StoredEvidence := ⟨some "txn", none, .refunded 100, none, none, some 50⟩

/-- A store with the charge, and with the pending row of its refund, which expires at the time
given. -/
def pendingRefundStore (expiresAt : Timestamp) : LifecycleStore Unit where
  accounts := [lifecycleAccount]
  attempts := [approvedHostCharge]
  pending := [{ newPendingUpdate 0 lifecycleAccount 20 fullRefund with expiresAt }]
  quarantines := []
  host := ()

/-- The evidence of the full refund is well formed. -/
theorem fullRefund_wellFormed : fullRefund.WellFormed := by
  constructor <;> decide +kernel

/-- The store with its pending row is sound. -/
theorem pendingRefundStore_sound : (pendingRefundStore 200).Sound 100 where
  attempts_unique := rfl
  lifecycle := by
    intro a ha
    obtain rfl := List.mem_singleton.mp ha
    exact valid_initial 100
  condition := by decide +kernel
  target := by decide +kernel
  created := by decide +kernel
  pending_nodup := List.nodup_singleton _
  pending_check := by decide +kernel
  pending_seen := by decide +kernel
  quarantine_check := by decide
  quarantine_seen := by decide

/-- The host refuses the refund, and its row is there. -/
theorem lifecycle_evidence_accounted_pendingRefundStore :
    ∃ application s', applyOrStageEvidence (fun _ h => some (h, .unchanged)) 100 21 lifecycleAccount
        fullRefund none (pendingRefundStore 200) = .ok (application, s') ∧ s'.Sound 100 ∧
      EvidenceAccounted (fun _ h => some (h, .unchanged)) 100 lifecycleAccount fullRefund none
        (pendingRefundStore 200) s' application.outcome := by
  have h := (lifecycle_evidence_accounted (fun _ h => some (h, .unchanged)) 100 lifecycleAccount
    (pendingRefundStore 200) pendingRefundStore_sound (List.mem_singleton.mpr rfl)).1 21
    fullRefund none fullRefund_wellFormed ⟨by decide +kernel, by decide⟩ nofun
  rcases h with ⟨e, -, hfails⟩ | h
  · cases hfails with
    | host _ _ hnone => cases hnone
    | count hmem => cases hmem
  · exact h

/-- The evidence is applied, and a pending row with its full key remains that is not expired. An
expired row for which an attempt is selected is not offered again, and the cleanup deletes it; and
evidence that the host refuses while such a row is there has no other one. -/
theorem applied_evidence_is_still_pending :
    (∃ s', applyOrStageEvidence (fun _ h => some (h, .applied)) 100 21 lifecycleAccount
        fullRefund none (pendingRefundStore 200) = .ok (⟨.applied, false⟩, s') ∧
      ∃ p ∈ s'.pending, p.dedupeKey = fullRefund.dedupeKey lifecycleAccount ∧ 100 < p.expiresAt) ∧
    selectsAttempt lifecycleAccount fullRefund (pendingRefundStore 50).attempts = true ∧
    actionablePending 100 lifecycleAccount (pendingRefundStore 50) = .ok [] ∧
    (∃ s', cleanupPending 100 lifecycleAccount (pendingRefundStore 50) = .ok (1, s') ∧
      s'.pending = []) ∧
    ∃ s', applyOrStageEvidence (fun _ h => some (h, .unchanged)) 100 21 lifecycleAccount
        fullRefund none (pendingRefundStore 50) = .ok (⟨.hostTargetTransitionSkipped, false⟩, s') ∧
      ∀ p ∈ s'.pending, p.expiresAt ≤ 100 := by
  refine ⟨⟨_, rfl, _, List.mem_singleton.mpr rfl, rfl, by decide⟩, rfl, rfl, ⟨_, rfl, rfl⟩, _,
    rfl, ?_⟩
  intro p hp
  obtain rfl := List.mem_singleton.mp hp
  decide

end SyrupRail
