import SyrupRail.Lifecycle.Transition

/-!
# The order of lifecycle reports

What of a payment's lifecycle depends on the order in which its reports are delivered. The stored
status does not: it is the one of highest precedence, since each report moves it to the higher of
the two. The refunded amount does, and only through a chargeback: once one is stored, the amount of
a report of lower precedence is no longer looked at. Voids are left out, as one of them over a
partial refund is a conflict.
-/

namespace SyrupRail

/-- The amount that a report gives as refunded so far. -/
def LifecycleEvidence.reportedRefund (e : LifecycleEvidence) : ℕ :=
  (lifecycleRefundedAmount e.state).getD 0

/-- Whether a report is of a chargeback. -/
def LifecycleEvidence.isChargeback (e : LifecycleEvidence) : Bool :=
  lifecycleStatus e.state = .chargeback

/-- The largest amount that is reported as refunded. -/
def largestRefund : List LifecycleEvidence → ℕ
  | [] => 0
  | e :: reports => max e.reportedRefund (largestRefund reports)

/-- The highest precedence that is reported. -/
def highestPrecedence : List LifecycleEvidence → ℕ
  | [] => 0
  | e :: reports => max (lifecycleStatus e.state).precedence (highestPrecedence reports)

/-- The reports whose amounts count: those before the first chargeback, and the chargebacks. -/
def countedReports (reports : List LifecycleEvidence) : List LifecycleEvidence :=
  reports.takeWhile (!·.isChargeback) ++ reports.filter (·.isChargeback)

/-! ## Maxima -/

/-- The largest refund of two lists of reports. -/
theorem largestRefund_append (reports more : List LifecycleEvidence) :
    largestRefund (reports ++ more) = max (largestRefund reports) (largestRefund more) := by
  induction reports with
  | nil => simp [largestRefund]
  | cons e reports ih => simp only [List.cons_append, largestRefund, ih, max_assoc]

/-- The largest refund is the same in every order. -/
theorem largestRefund_perm {reports more : List LifecycleEvidence} (h : reports.Perm more) :
    largestRefund reports = largestRefund more := by
  induction h with
  | nil => rfl
  | cons e _ ih => simp only [largestRefund, ih]
  | swap e e' reports => simp only [largestRefund, max_left_comm]
  | trans _ _ ih ih' => exact ih.trans ih'

/-- So is the highest precedence. -/
theorem highestPrecedence_perm {reports more : List LifecycleEvidence} (h : reports.Perm more) :
    highestPrecedence reports = highestPrecedence more := by
  induction h with
  | nil => rfl
  | cons e _ ih => simp only [highestPrecedence, ih]
  | swap e e' reports => simp only [highestPrecedence, max_left_comm]
  | trans _ _ ih ih' => exact ih.trans ih'

/-! ## One report -/

/-- Every other status is below a chargeback. -/
theorem precedence_lt_chargeback {status : GatewayLifecycleStatus} (h : status ≠ .chargeback) :
    status.precedence < GatewayLifecycleStatus.chargeback.precedence := by
  cases status with
  | chargeback => exact absurd rfl h
  | unknown | pendingSettlement | settled | voided | refunded => decide

section Step

variable {captured : ℕ} {s : StoredLifecycle} {e : LifecycleEvidence}

/-- A row that no void has been stored on. -/
structure StoredLifecycle.Unvoided (captured : ℕ) (s : StoredLifecycle) : Prop where
  valid : s.Valid captured
  status : s.status ≠ .voided

/-- The economics of a valid report never conflict with a row without a void. -/
theorem storedAmountIsValid_next (hs : s.Unvoided captured)
    (he : incomingAmountIsValid e.state captured = true) (hvoid : e.state ≠ .voided)
    (hprec : s.status.precedence ≤ (lifecycleStatus e.state).precedence) :
    storedAmountIsValid e.state (nextRefunded s.refundedAmountCents e.state) captured = true := by
  obtain ⟨hcheck, hle⟩ := hs.valid.checks
  obtain ⟨status, refunded, at_⟩ := s
  obtain ⟨state, at_'⟩ := e
  have hstatus := hs.status
  cases state with
  | unknown =>
    cases status <;> simp_all [GatewayLifecycleStatus.precedence, lifecycleStatus,
      StoredLifecycle.amountCheck, storedAmountIsValid, nextRefunded, lifecycleRefundedAmount]
  | pendingSettlement =>
    cases status <;> simp_all [GatewayLifecycleStatus.precedence, lifecycleStatus,
      StoredLifecycle.amountCheck, storedAmountIsValid, nextRefunded, lifecycleRefundedAmount]
  | voided => exact absurd rfl hvoid
  | settled cumulative =>
    obtain ⟨hpos, hlt⟩ : 0 < captured ∧ cumulative.all (· < captured) = true := by
      simpa [incomingAmountIsValid] using he
    have hrefunded : refunded < captured := by
      cases status <;> simp_all [GatewayLifecycleStatus.precedence, lifecycleStatus,
        StoredLifecycle.amountCheck]
    cases cumulative <;>
      simp_all [storedAmountIsValid, nextRefunded, lifecycleRefundedAmount]
  | refunded cumulative =>
    obtain ⟨hpos, rfl⟩ : 0 < captured ∧ cumulative = captured := by
      simpa [incomingAmountIsValid] using he
    simpa [storedAmountIsValid, nextRefunded, lifecycleRefundedAmount, hpos] using hle
  | chargeback cumulative =>
    obtain ⟨hpos, hlt⟩ : 0 < captured ∧ cumulative.all (· ≤ captured) = true := by
      simpa [incomingAmountIsValid] using he
    cases cumulative <;>
      simp_all [storedAmountIsValid, nextRefunded, lifecycleRefundedAmount]

/-- The refunded amount after a report, when the report is looked at. -/
theorem nextRefunded_eq (refunded : ℕ) (e : LifecycleEvidence) :
    nextRefunded refunded e.state = max refunded e.reportedRefund := by
  unfold nextRefunded LifecycleEvidence.reportedRefund
  cases lifecycleRefundedAmount e.state <;> simp

/-- One valid report on a row without a void: the status moves to the higher one, and the amount to
the larger one unless the report is of lower precedence. -/
theorem applyLifecycleEvidence_unvoided (hs : s.Unvoided captured)
    (he : incomingAmountIsValid e.state captured = true) (hvoid : e.state ≠ .voided) :
    ∃ s' r, applyLifecycleEvidence captured s e = .ok (s', r) ∧ s'.Unvoided captured ∧
      s'.status.precedence = max s.status.precedence (lifecycleStatus e.state).precedence ∧
      s'.refundedAmountCents =
        if s.status.precedence ≤ (lifecycleStatus e.state).precedence then
          max s.refundedAmountCents e.reportedRefund
        else s.refundedAmountCents := by
  obtain ⟨state, hparts, hamount⟩ := hs.valid
  have hstatus := lifecycleStatus_of_fromParts hparts
  have hkept (hadv : shouldAdvance state s.refundedAmountCents s.lifecycleAt e.state
      e.effectiveAt = false) : applyLifecycleEvidence captured s e =
          .ok (s, .alreadySuperseded) := by
    simp only [applyLifecycleEvidence, hparts, lifecycleTransition, hamount, he, hadv, bind,
      Except.bind, Bool.true_eq_false, if_false, if_true]
  have happlied (hprec : s.status.precedence ≤ (lifecycleStatus e.state).precedence)
      (hadv : shouldAdvance state s.refundedAmountCents s.lifecycleAt e.state
        e.effectiveAt = true) :
      applyLifecycleEvidence captured s e =
          .ok (s.updated (nextRefunded s.refundedAmountCents e.state) e,
            .apply (nextRefunded s.refundedAmountCents e.state)) ∧
        (s.updated (nextRefunded s.refundedAmountCents e.state) e).Unvoided captured := by
    have hnext := storedAmountIsValid_next hs he hvoid hprec
    obtain ⟨hvalid, hcheck, -⟩ := valid_of_storedAmountIsValid
      (s := s.updated (nextRefunded s.refundedAmountCents e.state) e) rfl hnext
    refine ⟨?_, hvalid, ?_⟩
    · simp only [applyLifecycleEvidence, hparts, lifecycleTransition, hamount, he, hadv,
        hnext, bind, Except.bind, hcheck, Bool.true_eq_false, if_false, if_true]
    · show lifecycleStatus e.state ≠ .voided
      cases hstate : e.state <;> simp_all [lifecycleStatus]
  -- A higher report is applied, a lower one is superseded, and one of the same precedence is of the
  -- same status.
  rcases lt_trichotomy s.status.precedence (lifecycleStatus e.state).precedence with hlt | heq | hgt
  · have hadv : shouldAdvance state s.refundedAmountCents s.lifecycleAt e.state
        e.effectiveAt = true := by
      rw [shouldAdvance, evidenceTransition_eq, hstatus, if_pos hlt]
    obtain ⟨happly, hunvoided⟩ := happlied hlt.le hadv
    refine ⟨_, _, happly, hunvoided, (max_eq_right hlt.le).symm, ?_⟩
    rw [if_pos hlt.le]
    exact nextRefunded_eq _ _
  · -- A report of the stored status is looked at unless it has nothing new, its amount included.
    have hsame : s.status = lifecycleStatus e.state :=
      GatewayLifecycleStatus.precedence_injective heq
    have hadv : shouldAdvance state s.refundedAmountCents s.lifecycleAt e.state e.effectiveAt =
        refreshes s.refundedAmountCents s.lifecycleAt e.state e.effectiveAt := by
      rw [shouldAdvance, evidenceTransition_eq, hstatus, if_neg heq.not_lt, if_pos hsame]
    cases hrefresh : refreshes s.refundedAmountCents s.lifecycleAt e.state e.effectiveAt with
    | true =>
      obtain ⟨happly, hunvoided⟩ := happlied heq.le (hadv.trans hrefresh)
      refine ⟨_, _, happly, hunvoided, (max_eq_right heq.le).symm, ?_⟩
      rw [if_pos heq.le]
      exact nextRefunded_eq _ _
    | false =>
      refine ⟨_, _, hkept (hadv.trans hrefresh), hs, (max_eq_left heq.ge).symm, ?_⟩
      have hle : e.reportedRefund ≤ s.refundedAmountCents := by
        simp only [refreshes, decide_eq_false_iff_not, not_or, Bool.not_eq_true] at hrefresh
        unfold LifecycleEvidence.reportedRefund
        cases hr : lifecycleRefundedAmount e.state with
        | none => exact Nat.zero_le _
        | some n => simpa [hr] using hrefresh.2.2
      rw [if_pos heq.le, max_eq_left hle]
  · have hadv : shouldAdvance state s.refundedAmountCents s.lifecycleAt e.state
        e.effectiveAt = false := by
      have hne : s.status ≠ lifecycleStatus e.state := fun h => by simp [h] at hgt
      rw [shouldAdvance, evidenceTransition_eq, hstatus, if_neg hgt.not_gt, if_neg hne]
    refine ⟨_, _, hkept hadv, hs, (max_eq_left hgt.le).symm, ?_⟩
    rw [if_neg (not_le.mpr hgt)]

/-- Before a chargeback every amount counts: a report of lower precedence has none, or the payment
is already refunded in full. -/
theorem reportedRefund_le_of_precedence_lt (hs : s.Valid captured)
    (he : incomingAmountIsValid e.state captured = true) (hvoid : s.status ≠ .voided)
    (hcharge : s.status ≠ .chargeback)
    (hprec : (lifecycleStatus e.state).precedence < s.status.precedence) :
    e.reportedRefund ≤ s.refundedAmountCents := by
  have hcheck := hs.checks.1
  obtain ⟨status, refunded, at_⟩ := s
  obtain ⟨state, at_'⟩ := e
  cases status with
  | voided => exact absurd rfl hvoid
  | chargeback => exact absurd rfl hcharge
  | unknown => simp [GatewayLifecycleStatus.precedence] at hprec
  | pendingSettlement | settled =>
    cases state <;> simp_all [GatewayLifecycleStatus.precedence, lifecycleStatus,
      LifecycleEvidence.reportedRefund, lifecycleRefundedAmount]
  | refunded =>
    obtain ⟨-, rfl⟩ : 0 < captured ∧ refunded = captured := by
      simpa [StoredLifecycle.amountCheck] using hcheck
    cases state with
    | settled cumulative =>
      cases cumulative <;> simp_all [LifecycleEvidence.reportedRefund, lifecycleRefundedAmount,
        incomingAmountIsValid, le_of_lt]
    | unknown | pendingSettlement | voided | refunded | chargeback =>
      simp_all [GatewayLifecycleStatus.precedence, lifecycleStatus,
        LifecycleEvidence.reportedRefund, lifecycleRefundedAmount]

end Step

/-! ## Runs -/

section Runs

variable {captured : ℕ}

/-- After a chargeback only the chargebacks count. -/
theorem fold_of_chargeback (reports : List LifecycleEvidence)
    (hvalid : ∀ e ∈ reports, incomingAmountIsValid e.state captured = true)
    (hvoid : ∀ e ∈ reports, e.state ≠ .voided) :
    ∀ {s}, s.Unvoided captured → s.status = .chargeback →
      ∃ s', foldLifecycleEvidence captured s reports = .ok s' ∧ s'.status = .chargeback ∧
        s'.refundedAmountCents =
          max s.refundedAmountCents (largestRefund (reports.filter (·.isChargeback))) := by
  induction reports with
  | nil =>
    intro s _ hstatus
    exact ⟨s, rfl, hstatus, (max_eq_left (Nat.zero_le _)).symm⟩
  | cons e reports ih =>
    intro s hs hstatus
    obtain ⟨s₁, r, hr, hs₁, hprec, hrefund⟩ := applyLifecycleEvidence_unvoided hs
      (hvalid e List.mem_cons_self) (hvoid e List.mem_cons_self)
    have hle : (lifecycleStatus e.state).precedence ≤ 5 := by
      cases lifecycleStatus e.state <;> decide
    have hstatus₁ : s₁.status = .chargeback := by
      apply GatewayLifecycleStatus.precedence_injective
      rw [hprec, hstatus]
      exact max_eq_left hle
    obtain ⟨s₂, hs₂, hstatus₂, hrefund₂⟩ := ih
      (fun e he => hvalid e (List.mem_cons_of_mem _ he))
      (fun e he => hvoid e (List.mem_cons_of_mem _ he)) hs₁ hstatus₁
    refine ⟨s₂, ?_, hstatus₂, ?_⟩
    · simp only [foldLifecycleEvidence, hr, bind, Except.bind]
      exact hs₂
    · rw [hrefund₂, hrefund, hstatus]
      by_cases hcharge : e.isChargeback = true
      · have hstate : lifecycleStatus e.state = .chargeback := of_decide_eq_true hcharge
        rw [if_pos (by rw [hstate]), List.filter_cons_of_pos hcharge]
        exact max_assoc _ _ _
      · have hstate : lifecycleStatus e.state ≠ .chargeback := fun h => hcharge (decide_eq_true h)
        have hlt : ¬ GatewayLifecycleStatus.chargeback.precedence ≤
            (lifecycleStatus e.state).precedence := not_le.mpr (precedence_lt_chargeback hstate)
        rw [if_neg hlt, List.filter_cons_of_neg hcharge]

/-- Until a chargeback every report counts. -/
theorem fold_of_not_chargeback (reports : List LifecycleEvidence)
    (hvalid : ∀ e ∈ reports, incomingAmountIsValid e.state captured = true)
    (hvoid : ∀ e ∈ reports, e.state ≠ .voided) :
    ∀ {s}, s.Unvoided captured → s.status ≠ .chargeback →
      ∃ s', foldLifecycleEvidence captured s reports = .ok s' ∧
        s'.status.precedence = max s.status.precedence (highestPrecedence reports) ∧
        s'.refundedAmountCents =
          max s.refundedAmountCents (largestRefund (countedReports reports)) := by
  induction reports with
  | nil =>
    intro s _ _
    exact ⟨s, rfl, (max_eq_left (Nat.zero_le _)).symm, (max_eq_left (Nat.zero_le _)).symm⟩
  | cons e reports ih =>
    intro s hs hstatus
    have he := hvalid e List.mem_cons_self
    have hvalid' := fun e h => hvalid e (List.mem_cons_of_mem _ h)
    have hvoid' := fun e h => hvoid e (List.mem_cons_of_mem _ h)
    obtain ⟨s₁, r, hr, hs₁, hprec, hrefund⟩ := applyLifecycleEvidence_unvoided hs he
      (hvoid e List.mem_cons_self)
    have hrefund₁ : s₁.refundedAmountCents = max s.refundedAmountCents e.reportedRefund := by
      rw [hrefund]
      split_ifs with hle
      · rfl
      · exact (max_eq_left (reportedRefund_le_of_precedence_lt hs.valid he hs.status hstatus
          (not_le.mp hle))).symm
    have hstep : foldLifecycleEvidence captured s (e :: reports) =
        foldLifecycleEvidence captured s₁ reports := by
      simp only [foldLifecycleEvidence, hr, bind, Except.bind]
    by_cases hcharge : e.isChargeback = true
    · -- The first chargeback: what comes after it counts only as a chargeback.
      have hstate : lifecycleStatus e.state = .chargeback := of_decide_eq_true hcharge
      have hle : s.status.precedence ≤ 5 := by cases s.status <;> decide
      have hstatus₁ : s₁.status = .chargeback := by
        apply GatewayLifecycleStatus.precedence_injective
        rw [hprec, hstate]
        exact max_eq_right hle
      obtain ⟨s₂, hs₂, hstatus₂, hrefund₂⟩ := fold_of_chargeback reports hvalid' hvoid' hs₁ hstatus₁
      refine ⟨s₂, hstep.trans hs₂, ?_, ?_⟩
      · have hhigh : highestPrecedence reports ≤ 5 := by
          clear * -
          induction reports with
          | nil => exact Nat.zero_le _
          | cons e reports ih =>
            exact max_le (by cases lifecycleStatus e.state <;> decide) ih
        rw [hstatus₂, highestPrecedence, hstate]
        show 5 = max s.status.precedence (max 5 (highestPrecedence reports))
        omega
      · rw [hrefund₂, hrefund₁, countedReports, List.takeWhile_cons_of_neg (by simp [hcharge]),
          List.filter_cons_of_pos hcharge, List.nil_append, largestRefund, max_assoc]
    · -- Any other report leaves the payment without a chargeback, and the rest is by induction.
      have hstatus₁ : s₁.status ≠ .chargeback := by
        intro h
        have hstate : lifecycleStatus e.state ≠ .chargeback := fun h => hcharge (decide_eq_true h)
        rw [h] at hprec
        have hmax : max s.status.precedence (lifecycleStatus e.state).precedence < 5 :=
          max_lt (precedence_lt_chargeback hstatus) (precedence_lt_chargeback hstate)
        exact absurd hprec.symm hmax.ne
      obtain ⟨s₂, hs₂, hprec₂, hrefund₂⟩ := ih hvalid' hvoid' hs₁ hstatus₁
      refine ⟨s₂, hstep.trans hs₂, ?_, ?_⟩
      · rw [hprec₂, hprec, highestPrecedence, max_assoc]
      · rw [hrefund₂, hrefund₁, countedReports, countedReports,
          List.takeWhile_cons_of_pos (by simp [hcharge]), List.filter_cons_of_neg hcharge,
          List.cons_append, largestRefund, max_assoc]

end Runs

/-! ## Orders of delivery -/

/-- Fewer reports have no larger refund. -/
theorem largestRefund_sublist {reports more : List LifecycleEvidence}
    (h : reports.Sublist more) : largestRefund reports ≤ largestRefund more := by
  induction h with
  | slnil => exact le_refl _
  | cons e _ ih => exact ih.trans (le_max_right _ _)
  | cons_cons e _ ih => exact max_le_max_left _ ih

/-- The amounts that count are among those that are reported. -/
theorem largestRefund_countedReports_le (reports : List LifecycleEvidence) :
    largestRefund (countedReports reports) ≤ largestRefund reports := by
  rw [countedReports, largestRefund_append]
  exact max_le (largestRefund_sublist (List.takeWhile_sublist _))
    (largestRefund_sublist List.filter_sublist)

/-- The chargebacks count. -/
theorem largestRefund_chargebacks_le (reports : List LifecycleEvidence) :
    largestRefund (reports.filter (·.isChargeback)) ≤ largestRefund (countedReports reports) := by
  rw [countedReports, largestRefund_append]
  exact le_max_right _ _

/-- Without a chargeback every report counts. -/
theorem largestRefund_countedReports_of_none {reports : List LifecycleEvidence}
    (h : ∀ e ∈ reports, e.isChargeback = false) :
    largestRefund (countedReports reports) = largestRefund reports := by
  have htake : reports.takeWhile (!·.isChargeback) = reports :=
    List.takeWhile_eq_self_iff.mpr fun e he => by simp [h e he]
  apply le_antisymm (largestRefund_countedReports_le reports)
  rw [countedReports, htake, largestRefund_append]
  exact le_max_left _ _

/-- The order in which the chargebacks come first. -/
def chargebacksFirst (reports : List LifecycleEvidence) : List LifecycleEvidence :=
  reports.filter (·.isChargeback) ++ reports.filter (!·.isChargeback)

/-- The chargebacks first is an order of the reports. -/
theorem chargebacksFirst_perm (reports : List LifecycleEvidence) :
    (chargebacksFirst reports).Perm reports :=
  List.filter_append_perm _ reports

/-- With the chargebacks first, nothing else counts. -/
theorem largestRefund_counted_chargebacksFirst {reports : List LifecycleEvidence}
    (h : ∃ e ∈ reports, e.isChargeback = true) :
    largestRefund (countedReports (chargebacksFirst reports)) =
      largestRefund (reports.filter (·.isChargeback)) := by
  have htake : (chargebacksFirst reports).takeWhile (!·.isChargeback) = [] := by
    obtain ⟨e, he, hcharge⟩ := h
    have hne : reports.filter (·.isChargeback) ≠ [] :=
      List.ne_nil_of_mem (List.mem_filter.mpr ⟨he, hcharge⟩)
    obtain ⟨e', rest, hrest⟩ := List.exists_cons_of_ne_nil hne
    have hcharge' : e'.isChargeback = true := by
      have hmem : e' ∈ reports.filter (·.isChargeback) := hrest ▸ List.mem_cons_self
      exact (List.mem_filter.mp hmem).2
    rw [chargebacksFirst, hrest, List.cons_append, List.takeWhile_cons_of_neg (by simp [hcharge'])]
  have hfilter : largestRefund ((chargebacksFirst reports).filter (·.isChargeback)) =
      largestRefund (reports.filter (·.isChargeback)) :=
    largestRefund_perm ((chargebacksFirst_perm reports).filter _)
  rw [countedReports, htake, List.nil_append, hfilter]

/-- A payment without reports has no void. -/
theorem unvoided_initial (captured : ℕ) : ({} : StoredLifecycle).Unvoided captured :=
  ⟨valid_initial captured, nofun⟩

/-- Valid reports without a void, in every order of delivery. The stored status is the one of
highest precedence. The refunded amount is the largest one reported before the first chargeback or
by a chargeback; it is the largest one reported, in every order, exactly when there is no chargeback
or a chargeback reports it. -/
theorem lifecycle_evidence_converges (captured : ℕ) (reports : List LifecycleEvidence)
    (hvalid : ∀ e ∈ reports, incomingAmountIsValid e.state captured = true)
    (hvoid : ∀ e ∈ reports, e.state ≠ .voided) :
    (∀ order, order.Perm reports →
      ∃ s, foldLifecycleEvidence captured {} order = .ok s ∧
        s.status.precedence = highestPrecedence reports ∧
        s.refundedAmountCents = largestRefund (countedReports order)) ∧
      ((∀ order, order.Perm reports →
          ∃ s, foldLifecycleEvidence captured {} order = .ok s ∧
            s.refundedAmountCents = largestRefund reports) ↔
        (∀ e ∈ reports, e.isChargeback = false) ∨
          largestRefund (reports.filter (·.isChargeback)) = largestRefund reports) := by
  -- In any order the status is the highest one, and the refund the largest among the reports before
  -- the first chargeback and the chargebacks.
  have hfold : ∀ order, order.Perm reports →
      ∃ s, foldLifecycleEvidence captured {} order = .ok s ∧
        s.status.precedence = highestPrecedence reports ∧
        s.refundedAmountCents = largestRefund (countedReports order) := by
    intro order horder
    obtain ⟨s, hs, hprec, hrefund⟩ := fold_of_not_chargeback order
      (fun e he => hvalid e (horder.mem_iff.mp he)) (fun e he => hvoid e (horder.mem_iff.mp he))
      (unvoided_initial captured) nofun
    refine ⟨s, hs, ?_, ?_⟩
    · rw [hprec, highestPrecedence_perm horder]
      exact max_eq_right (Nat.zero_le _)
    · rw [hrefund]
      exact max_eq_right (Nat.zero_le _)
  refine ⟨hfold, fun hall => ?_, fun hcond order horder => ?_⟩
  · by_cases hcharge : ∃ e ∈ reports, e.isChargeback = true
    · -- The order with the chargebacks first stores only what a chargeback reports.
      right
      obtain ⟨s, hs, hrefund⟩ := hall _ (chargebacksFirst_perm reports)
      obtain ⟨s', hs', -, hrefund'⟩ := hfold _ (chargebacksFirst_perm reports)
      obtain rfl : s = s' := Except.ok.inj (hs.symm.trans hs')
      rw [← largestRefund_counted_chargebacksFirst hcharge, ← hrefund', hrefund]
    · left
      intro e he
      exact Bool.eq_false_of_not_eq_true fun h => hcharge ⟨e, he, h⟩
  · obtain ⟨s, hs, -, hrefund⟩ := hfold order horder
    refine ⟨s, hs, hrefund.trans ?_⟩
    rw [← largestRefund_perm horder]
    rcases hcond with hnone | hlargest
    · exact largestRefund_countedReports_of_none fun e he => hnone e (horder.mem_iff.mp he)
    · apply le_antisymm (largestRefund_countedReports_le order)
      have hchargebacks := largestRefund_perm (horder.filter (·.isChargeback))
      rw [largestRefund_perm horder, ← hlargest, ← hchargebacks]
      exact largestRefund_chargebacks_le order

/-- A partial refund and a chargeback without an amount. -/
def refundThenChargeback : List LifecycleEvidence :=
  [⟨.settled (some 50), none⟩, ⟨.chargeback none, none⟩]

/-- A refund that a chargeback follows. -/
theorem lifecycle_evidence_converges_refundThenChargeback :
    (∀ e ∈ refundThenChargeback, incomingAmountIsValid e.state 100 = true) ∧
      (∀ e ∈ refundThenChargeback, e.state ≠ .voided) ∧
      ∃ s, foldLifecycleEvidence 100 {} refundThenChargeback = .ok s ∧
        s.status.precedence = 5 ∧ s.refundedAmountCents = 50 := by
  have hvalid : ∀ e ∈ refundThenChargeback, incomingAmountIsValid e.state 100 = true := by decide
  have hvoid : ∀ e ∈ refundThenChargeback, e.state ≠ .voided := by decide
  obtain ⟨s, hs, hprec, hrefund⟩ :=
    (lifecycle_evidence_converges 100 refundThenChargeback hvalid hvoid).1 _ (List.Perm.refl _)
  exact ⟨hvalid, hvoid, s, hs, hprec, hrefund⟩

/-- The amount of a refund that arrives after the chargeback is not stored. -/
theorem refund_after_chargeback_is_superseded :
    (∀ e ∈ refundThenChargeback, incomingAmountIsValid e.state 100 = true) ∧
      (∀ e ∈ refundThenChargeback, e.state ≠ .voided) ∧
      refundThenChargeback.reverse.Perm refundThenChargeback ∧
      foldLifecycleEvidence 100 {} refundThenChargeback = .ok ⟨.chargeback, 50, none⟩ ∧
      foldLifecycleEvidence 100 {} refundThenChargeback.reverse = .ok ⟨.chargeback, 0, none⟩ := by
  refine ⟨by decide, by decide, List.reverse_perm _, ?_, ?_⟩
  · rfl
  · rfl

end SyrupRail
