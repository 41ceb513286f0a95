import SyrupRail.Nmi.Report

/-!
# The order of the actions of a report

The actions of a report come in the order in which NMI lists them. When the dates of the successful
ones differ, each selection of a latest action is the same in every order (`latest_perm`), and so
are the sum of the refunds and the questions whether they are readable and unambiguous. Only the
loop over the refunds looks at the order: it stops at the first refund that is ambiguous or has no
amount, and so chooses between two reasons when a report has both.
-/

namespace SyrupRail.Nmi

variable (parse : DateParser)

/-- The successful actions have dates, and no two have the same. -/
def DistinctDates (report : NmiReport) : Prop :=
  (∀ action ∈ report.actions, actionIsSuccessful action = true →
    (actionDate parse action).isSome = true) ∧
    ((report.actions.filter actionIsSuccessful).map (actionDate parse)).Nodup

/-- A report whose refunds may be quarantined for two reasons: one is ambiguous, and one that
succeeded has no amount, or their sum overflows. -/
def TwoReasons (report : NmiReport) : Prop :=
  report.malformedStructure = false ∧
    (report.transactionId.isSome = true ∨ report.orderId.isSome = true) ∧
      ¬ AmbiguousReversal report.actions ∧ AmbiguousRefund report.actions ∧
    ¬ (ReadableRefunds report.actions ∧ refundedCents report.actions ≤ maxI64)

/-! ## What does not depend on the order -/

/-- Where no two dates are the same, the latest action is the same in every order. -/
theorem latest_perm {actions actions' : List NmiAction} (hperm : actions'.Perm actions)
    (hdates : (actions.map (dateKey parse)).Nodup) :
    latest parse actions' = latest parse actions := by
  cases hlatest : latest parse actions with
  | none =>
    have hnil : actions' = [] := by
      rw [(latest_eq_none parse).mp hlatest] at hperm
      exact hperm.eq_nil
    exact (latest_eq_none parse).mpr hnil
  | some action =>
    cases hlatest' : latest parse actions' with
    | none =>
      rw [(latest_eq_none parse).mp hlatest'] at hperm
      rw [(latest_eq_none parse).mpr hperm.symm.eq_nil] at hlatest
      cases hlatest
    | some action' =>
      obtain ⟨hmem, hle⟩ := mem_and_le_of_latest parse hlatest
      obtain ⟨hmem', hle'⟩ := mem_and_le_of_latest parse hlatest'
      have hsame : dateKey parse action' = dateKey parse action :=
        le_antisymm (hle action' (hperm.mem_iff.mp hmem')) (hle' action (hperm.mem_iff.mpr hmem))
      rw [List.inj_on_of_nodup_map hdates (hperm.mem_iff.mp hmem') hmem hsame]

section Order

variable {report : NmiReport} {actions : List NmiAction} (hperm : actions.Perm report.actions)

include hperm

/-- The latest action of each selection is the same. -/
theorem latest_filter_perm (hdates : DistinctDates parse report) (p : NmiAction → Bool) :
    latest parse ((actions.filter actionIsSuccessful).filter p) =
      latest parse ((report.actions.filter actionIsSuccessful).filter p) := by
  refine latest_perm parse ((hperm.filter _).filter _) ?_
  exact hdates.2.sublist (List.Sublist.map _ (List.filter_sublist))

/-- The latest matching action is the same. -/
theorem latestMatchingAction_perm (hdates : DistinctDates parse report)
    (actionTypes : List String) :
    latestMatchingAction parse { report with actions := actions } actionTypes =
      latestMatchingAction parse report actionTypes :=
  latest_filter_perm parse hperm hdates _

/-- The latest successful action is the same. -/
theorem latestSuccessfulAction_perm (hdates : DistinctDates parse report) :
    latestSuccessfulAction parse { report with actions := actions } =
      latestSuccessfulAction parse report :=
  latest_perm parse (hperm.filter _) hdates.2

/-- What is said of some action is said in every order. -/
theorem exists_mem_perm (p : NmiAction → Prop) :
    (∃ action ∈ actions, p action) ↔ ∃ action ∈ report.actions, p action := by
  simp only [hperm.mem_iff]

/-- The refunds are ambiguous, are readable, have a sum, and have succeeded in every order. -/
theorem refunds_perm :
    (AmbiguousRefund actions ↔ AmbiguousRefund report.actions) ∧
      (ReadableRefunds actions ↔ ReadableRefunds report.actions) ∧
      refundedCents actions = refundedCents report.actions ∧
      actions.any refundSucceeded = report.actions.any refundSucceeded := by
  refine ⟨exists_mem_perm hperm _, ?_, ?_, ?_⟩
  · unfold ReadableRefunds
    simp only [hperm.mem_iff]
  · exact ((hperm.filter _).map _).sum_eq
  · rw [Bool.eq_iff_iff, List.any_eq_true, List.any_eq_true]
    exact exists_mem_perm hperm _

/-- The check of the returns and voids is the same. -/
theorem validateReturnOrVoid_perm :
    validateReturnOrVoidActionSuccess { report with actions := actions } =
      validateReturnOrVoidActionSuccess report := by
  have hany (p : NmiAction → Bool) : actions.any p = report.actions.any p := by
    rw [Bool.eq_iff_iff, List.any_eq_true, List.any_eq_true]
    exact exists_mem_perm hperm _
  unfold validateReturnOrVoidActionSuccess
  rw [hany]

/-- The loop over the refunds ends the same way unless both reasons apply. -/
theorem sumRefunds_perm (h : ¬ (AmbiguousRefund report.actions ∧
      ¬ (ReadableRefunds report.actions ∧ refundedCents report.actions ≤ maxI64))) :
    sumRefunds actions 0 false = sumRefunds report.actions 0 false := by
  obtain ⟨hambiguous, hreadable, hcents, hany⟩ := refunds_perm hperm
  have hspec := sumRefunds_spec report.actions (Nat.zero_le maxI64) false
  have hspec' := sumRefunds_spec actions (Nat.zero_le maxI64) false
  unfold RefundsRead at hspec hspec'
  rw [hambiguous, hreadable, hcents, hany] at hspec'
  rw [Nat.zero_add] at hspec hspec'
  rcases hsum : sumRefunds report.actions 0 false with reason | result <;>
    rcases hsum' : sumRefunds actions 0 false with reason' | result' <;>
    rw [hsum] at hspec <;> rw [hsum'] at hspec'
  · cases reason <;> cases reason' <;> simp only at hspec hspec'
    · rfl
    · exact absurd ⟨hspec, hspec'⟩ h
    · exact absurd ⟨hspec', hspec⟩ h
    · rfl
  · obtain ⟨hunambiguous, hreadable', hfits, -⟩ := hspec'
    cases reason <;> simp only at hspec
    · exact absurd hspec hunambiguous
    · exact absurd ⟨hreadable', hfits⟩ hspec
  · obtain ⟨hunambiguous, hreadable', hfits, -⟩ := hspec
    cases reason' <;> simp only at hspec'
    · exact absurd hspec' hunambiguous
    · exact absurd ⟨hreadable', hfits⟩ hspec'
  · obtain ⟨-, -, -, rfl⟩ := hspec
    obtain ⟨-, -, -, rfl⟩ := hspec'
    rfl

/-- The refund evidence is the same unless both reasons apply. -/
theorem validatedRefundEvidence_perm (hdates : DistinctDates parse report)
    (h : ¬ (AmbiguousRefund report.actions ∧
      ¬ (ReadableRefunds report.actions ∧ refundedCents report.actions ≤ maxI64))) :
    validatedRefundEvidence parse { report with actions := actions } =
      validatedRefundEvidence parse report := by
  have hcaptured : capturedAmountCents parse { report with actions := actions } =
      capturedAmountCents parse report := by
    unfold capturedAmountCents
    rw [latestMatchingAction_perm parse hperm hdates]
  unfold validatedRefundEvidence
  rw [hcaptured, sumRefunds_perm hperm h]

/-- The lifecycle of a report is the same unless both reasons apply. -/
theorem lifecycleFromReport_perm (hdates : DistinctDates parse report)
    (h : ¬ (¬ AmbiguousReversal report.actions ∧ AmbiguousRefund report.actions ∧
      ¬ (ReadableRefunds report.actions ∧ refundedCents report.actions ≤ maxI64))) :
    lifecycleFromReport parse { report with actions := actions } =
      lifecycleFromReport parse report := by
  have hcheck := validateReturnOrVoid_perm hperm
  rcases validateReturnOrVoidActionSuccess_spec report with ⟨hreversal, -⟩ | ⟨-, herror⟩
  · have hwithout (refund : Option RefundEvidence) :
        lifecycleWithoutReversal parse { report with actions := actions } refund =
          lifecycleWithoutReversal parse report refund := by
      unfold lifecycleWithoutReversal
      rw [latestSuccessfulAction_perm parse hperm hdates,
        latestMatchingAction_perm parse hperm hdates]
    unfold lifecycleFromReport
    rw [hcheck, validatedRefundEvidence_perm parse hperm hdates (fun hboth => h ⟨hreversal, hboth⟩)]
    simp only [latestMatchingAction_perm parse hperm hdates, hwithout]
  · -- Both orders stop at the check.
    unfold lifecycleFromReport
    rw [hcheck, herror]
    rfl

/-- Where both reasons apply, the lifecycle of a report fails with one of them. -/
theorem lifecycleFromReport_two_reasons (h : TwoReasons report) :
    ∃ reason, (reason = .ambiguousReversalSuccess ∨ reason = .invalidRefundEconomics) ∧
      lifecycleFromReport parse { report with actions := actions } = .error reason := by
  obtain ⟨-, -, hreversal, hambiguous, -⟩ := h
  have hambiguous' : AmbiguousRefund actions := (refunds_perm hperm).1.mpr hambiguous
  have hreversal' : ¬ AmbiguousReversal actions :=
    fun h => hreversal ((exists_mem_perm hperm _).mp h)
  have hspec := validatedRefundEvidence_spec parse { report with actions := actions }
  rcases lifecycleFromReport_spec parse { report with actions := actions } with ⟨h, -⟩ |
    ⟨-, reason, hrefund, heq⟩ | ⟨-, evidence, -, hrefund, -⟩ | ⟨-, hrefund, -⟩
  · exact absurd h hreversal'
  · rw [hrefund] at hspec
    cases reason with
    | ambiguousReversalSuccess => exact ⟨_, .inl rfl, heq⟩
    | invalidRefundEconomics => exact ⟨_, .inr rfl, heq⟩
    | malformedReportStructure => exact hspec.elim
  · rw [hrefund] at hspec
    exact absurd hambiguous' hspec.1
  · rw [hrefund] at hspec
    exact absurd hambiguous' hspec.1

end Order

/-! ## The admitted report -/

/-- Where the successful actions have dates and no two the same, a report is admitted with the same
result in every order of its actions; where both reasons apply to its refunds, it is quarantined
with one of the two. -/
theorem admitReport_perm {report : NmiReport} {actions : List NmiAction}
    (hperm : actions.Perm report.actions) (hdates : DistinctDates parse report) :
    (¬ TwoReasons report →
      admitReport parse { report with actions := actions } = admitReport parse report) ∧
    (TwoReasons report → ∃ quarantine,
      admitReport parse { report with actions := actions } = .ok (.quarantine quarantine) ∧
      quarantine.transactionId = report.transactionId ∧ quarantine.orderId = report.orderId ∧
      (quarantine.reason = .ambiguousReversalSuccess ∨
          quarantine.reason = .invalidRefundEconomics)) := by
  constructor
  · intro h
    by_cases hformed : report.malformedStructure = true
    · unfold admitReport
      rw [if_pos hformed, if_pos hformed]
    by_cases hlocated : report.transactionId.isSome = true ∨ report.orderId.isSome = true
    · have hsame := lifecycleFromReport_perm parse hperm hdates fun hboth =>
        h ⟨by simpa using hformed, hlocated, hboth⟩
      unfold admitReport
      rw [hsame]
    · have hnames : ¬ report.Located := not_or.mpr ⟨hformed, hlocated⟩
      have hnames' : ¬ NmiReport.Located { report with actions := actions } := hnames
      rw [admitReport_unlocated parse hnames, admitReport_unlocated parse hnames']
  · intro h
    obtain ⟨reason, hreason, heq⟩ := lifecycleFromReport_two_reasons parse hperm h
    have hadmitted :=
        @admitReport_quarantine parse { report with actions := actions } h.1 h.2.1 _ heq
    exact ⟨_, hadmitted, rfl, rfl, hreason⟩

/-- A refund that is ambiguous, and one that succeeded and has no amount. -/
def conflictingRefunds : List NmiAction :=
  [⟨some "refund", some "20260806120000", some "1.00", some "maybe"⟩,
    ⟨some "refund", some "20260806120001", some "unknown", some "1"⟩]

/-- A sale and a refund of a part of it. -/
def partialRefund : List NmiAction :=
  [⟨some "sale", some "20260806120000", some "10.00", some "1"⟩,
    ⟨some "refund", some "20260806120001", some "-3.00", some "1"⟩]

/-- The reading of the dates of these actions. -/
def readDate : DateParser := fun date =>
  if date = "20260806120000" then some 1786017600
  else if date = "20260806120001" then some 1786017601
  else none

/-- A sale and a refund are admitted in both orders with the same result. -/
theorem admitReport_perm_partial :
    admitReport readDate ⟨some "txn_1", none, none, partialRefund.reverse, false⟩ =
      admitReport readDate ⟨some "txn_1", none, none, partialRefund, false⟩ := by
  have hunambiguous : ¬ AmbiguousRefund partialRefund := by
    unfold AmbiguousRefund
    decide +kernel
  have hdates : DistinctDates readDate ⟨some "txn_1", none, none, partialRefund, false⟩ := by
    unfold DistinctDates
    decide +kernel
  exact (admitReport_perm readDate (List.reverse_perm _) hdates).1 fun h => hunambiguous h.2.2.2.1

/-- The reason of a quarantine depends on the order of two refunds. -/
theorem quarantine_reason_depends_on_order :
    ¬ ∀ (parse : DateParser) (report : NmiReport) (actions : List NmiAction),
      actions.Perm report.actions → DistinctDates parse report →
      admitReport parse { report with actions := actions } = admitReport parse report := by
  intro h
  have hdates : DistinctDates readDate ⟨some "txn_1", none, none, conflictingRefunds, false⟩ := by
    unfold DistinctDates
    decide +kernel
  have heq := h readDate ⟨some "txn_1", none, none, conflictingRefunds, false⟩
    conflictingRefunds.reverse (List.reverse_perm _) hdates
  revert heq
  decide +kernel

end SyrupRail.Nmi
