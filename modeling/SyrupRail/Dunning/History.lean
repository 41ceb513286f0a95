import SyrupRail.Attempt.Rows
import SyrupRail.Dunning

/-!
# The failures of a period

What the history query returns, as a function of the failures in the table and not of its rows:
`automaticRenewalFailureHistory_eq` says that it is the sorted list of their ids and times. A writer
then either leaves that list as it is or adds one failure at the time of the write, and
`AttemptWriter.Stores.failureKey` says which.
-/

namespace SyrupRail

open Transactions

/-! ## The list of failures -/

/-- The id and the time of a failed row; the constraints give it one. -/
def PaymentAttempt.failure (a : PaymentAttempt) : ResolvedAutomaticRenewalFailure where
  attemptId := a.id
  resolvedAt := a.resolvedAt.getD 0

section Query

variable (subscriptionId : Id) (periodStartAt : Timestamp)

/-- The failure that a row is, if it is one. -/
def PaymentAttempt.failureKey (a : PaymentAttempt) : Option ResolvedAutomaticRenewalFailure :=
  if a.isAutomaticFailure subscriptionId periodStartAt then some a.failure else none

/-- The failures of a period, in the order of the table. -/
def automaticFailures (attempts : List PaymentAttempt) : List ResolvedAutomaticRenewalFailure :=
  attempts.filterMap (PaymentAttempt.failureKey subscriptionId periodStartAt)

end Query

/-- The order of the history. -/
def failureOrder (f g : ResolvedAutomaticRenewalFailure) : Prop :=
  f.resolvedAt < g.resolvedAt ∨ (f.resolvedAt = g.resolvedAt ∧ f.attemptId ≤ g.attemptId)

instance : DecidableRel failureOrder := fun f g =>
  inferInstanceAs (Decidable (f.resolvedAt < g.resolvedAt ∨
    (f.resolvedAt = g.resolvedAt ∧ f.attemptId ≤ g.attemptId)))

instance : Std.Antisymm failureOrder where
  antisymm f g hfg hgf := by
    obtain ⟨i, t⟩ := f
    obtain ⟨j, u⟩ := g
    simp only [failureOrder] at hfg hgf
    have ht : t = u := by
      rcases hfg with h | h
      · rcases hgf with h' | h'
        · exact absurd h (lt_asymm h')
        · exact h'.1.symm
      · exact h.1
    have hi : i = j := by
      rcases hfg with h | h
      · exact absurd ht (ne_of_lt h)
      · rcases hgf with h' | h'
        · exact absurd ht.symm (ne_of_lt h')
        · exact le_antisymm h.2 h'.2
    rw [ht, hi]

instance : IsTrans ResolvedAutomaticRenewalFailure failureOrder where
  trans f g k hfg hgk := by
    rcases hfg with h | h <;> rcases hgk with h' | h'
    · exact .inl (lt_trans h h')
    · exact .inl (h'.1 ▸ h)
    · exact .inl (h.1 ▸ h')
    · exact .inr ⟨h.1.trans h'.1, le_trans h.2 h'.2⟩

instance : Std.Total failureOrder where
  total f g := by
    rcases lt_trichotomy f.resolvedAt g.resolvedAt with h | h | h
    · exact .inl (.inl h)
    · rcases le_total f.attemptId g.attemptId with h' | h'
      · exact .inl (.inr ⟨h, h'⟩)
      · exact .inr (.inr ⟨h.symm, h'⟩)
    · exact .inr (.inl h)

section History

variable {subscriptionId : Id} {periodStartAt : Timestamp} {attempts : List PaymentAttempt}

/-- A failure in the table. -/
theorem mem_automaticFailures {f : ResolvedAutomaticRenewalFailure} :
    f ∈ automaticFailures subscriptionId periodStartAt attempts ↔
      ∃ a ∈ attempts, a.isAutomaticFailure subscriptionId periodStartAt = true ∧ a.failure = f := by
  simp only [automaticFailures, List.mem_filterMap, PaymentAttempt.failureKey]
  constructor
  · rintro ⟨a, ha, hk⟩
    split_ifs at hk with hp
    exact ⟨a, ha, hp, by simpa using hk⟩
  · rintro ⟨a, ha, hp, rfl⟩
    exact ⟨a, ha, by simp [hp]⟩

/-- The list of failures as the rows of the query. -/
theorem automaticFailures_eq_map :
    automaticFailures subscriptionId periodStartAt attempts =
      (attempts.filter (·.isAutomaticFailure subscriptionId periodStartAt)).map
        PaymentAttempt.failure := by
  unfold automaticFailures
  induction attempts with
  | nil => rfl
  | cons a attempts ih =>
    by_cases hp : a.isAutomaticFailure subscriptionId periodStartAt = true
    · simp [PaymentAttempt.failureKey, hp, ih]
    · simp [PaymentAttempt.failureKey, hp, ih]

/-- The history is that of the sorted list of failures. -/
theorem automaticRenewalFailureHistory_eq
    (h : ∀ a ∈ attempts, a.isAutomaticFailure subscriptionId periodStartAt = true →
      a.resolvedAt ≠ none) :
    automaticRenewalFailureHistory attempts subscriptionId periodStartAt =
      automaticRenewalFailureHistoryFromResolved
        ((automaticFailures subscriptionId periodStartAt attempts).insertionSort failureOrder) := by
  -- The order of the rows is that of their failures.
  have horder : ∀ a ∈ attempts.filter (·.isAutomaticFailure subscriptionId periodStartAt),
      ∀ b ∈ attempts.filter (·.isAutomaticFailure subscriptionId periodStartAt),
      resolvedOrder a b = true ↔ failureOrder a.failure b.failure := by
    intro a ha b hb
    rw [List.mem_filter] at ha hb
    obtain ⟨t, ht⟩ := Option.ne_none_iff_exists'.mp (h a ha.1 ha.2)
    obtain ⟨u, hu⟩ := Option.ne_none_iff_exists'.mp (h b hb.1 hb.2)
    simp [resolvedOrder, failureOrder, PaymentAttempt.failure, ht, hu]
  -- No row of the query lacks its time, so every one is read.
  have hread := mapM_eq_ok (f := resolvedFailureFromRow) (g := PaymentAttempt.failure)
    (l := (attempts.filter (·.isAutomaticFailure subscriptionId periodStartAt)).insertionSort
      fun a b => resolvedOrder a b = true) (fun a ha => by
        rw [List.mem_insertionSort, List.mem_filter] at ha
        obtain ⟨t, ht⟩ := Option.ne_none_iff_exists'.mp (h a ha.1 ha.2)
        simp [resolvedFailureFromRow, PaymentAttempt.failure, ht])
  rw [automaticFailures_eq_map, ← List.map_insertionSort _ _ _ _ horder]
  simp only [automaticRenewalFailureHistory, hread]
  rfl

/-- A sorted list of the failures is the one that the query returns. -/
theorem insertionSort_automaticFailures {failures : List ResolvedAutomaticRenewalFailure}
    (hperm : (automaticFailures subscriptionId periodStartAt attempts).Perm failures)
    (hsorted : failures.Pairwise failureOrder) :
    (automaticFailures subscriptionId periodStartAt attempts).insertionSort failureOrder =
      failures :=
  List.Perm.eq_of_pairwise' (List.pairwise_insertionSort failureOrder _) hsorted
    ((List.perm_insertionSort failureOrder _).trans hperm)

end History

/-- The history with the latest failure `latest` after the failures `earlier`. -/
def historyOf (earlier : List ResolvedAutomaticRenewalFailure)
    (latest : ResolvedAutomaticRenewalFailure) : AutomaticRenewalFailureHistory :=
  match earlier.getLast? with
  | none => .first latest
  | some previous =>
    .repeated (earlier.length + 1) (earlier.head?.getD previous) previous latest

/-- The history of a list with a last failure. -/
theorem historyFromResolved_concat {earlier : List ResolvedAutomaticRenewalFailure}
    {latest : ResolvedAutomaticRenewalFailure} (h : earlier.length < maxFailureCount) :
    automaticRenewalFailureHistoryFromResolved (earlier ++ [latest]) =
      .ok (historyOf earlier latest) := by
  have hlen : ¬ maxFailureCount < (earlier ++ [latest]).length := by
    rw [List.length_append, List.length_singleton]
    omega
  unfold automaticRenewalFailureHistoryFromResolved
  rw [if_neg hlen, List.dropLast_concat, List.getLast?_concat]
  cases earlier with
  | nil => rfl
  | cons first rest =>
    obtain ⟨previous, hprevious⟩ : ∃ p, (first :: rest).getLast? = some p :=
      ⟨_, List.getLast?_eq_getLast_of_ne_nil (List.cons_ne_nil _ _)⟩
    simp [historyOf, hprevious]

/-- The latest failure is the one that it was built with. -/
@[simp]
theorem latest_historyOf (earlier : List ResolvedAutomaticRenewalFailure)
    (latest : ResolvedAutomaticRenewalFailure) :
    (historyOf earlier latest).latest = some latest := by
  unfold historyOf
  split <;> rfl

/-- It counts the latest failure with the earlier ones. -/
@[simp]
theorem count_historyOf (earlier : List ResolvedAutomaticRenewalFailure)
    (latest : ResolvedAutomaticRenewalFailure) :
    (historyOf earlier latest).count = earlier.length + 1 := by
  unfold historyOf
  split
  · rename_i h
    rw [List.getLast?_eq_none_iff.mp h]
    rfl
  · rfl

/-! ## What a writer does to the failures -/

section Writers

variable {subscriptionId : Id} {periodStartAt : Timestamp} {now : Timestamp} {a a' : PaymentAttempt}

/-- A failure ended without a code, after its submission. -/
theorem PaymentAttempt.isAutomaticFailure_iff :
    a.isAutomaticFailure subscriptionId periodStartAt = true ↔
      a.subscriptionId = some subscriptionId ∧ a.periodStartAt = some periodStartAt ∧
        a.kind = .subscriptionRenewal ∧ a.submittedAt ≠ none ∧
        (a.status = .declined ∨ a.status = .failed) ∧ a.resolutionCode = none := by
  simp [PaymentAttempt.isAutomaticFailure]

/-- An open attempt, or an approved one, is not a failure. -/
theorem PaymentAttempt.failureKey_eq_none (h : a.status ≠ .declined) (h' : a.status ≠ .failed) :
    a.failureKey subscriptionId periodStartAt = none := by
  simp [PaymentAttempt.failureKey, PaymentAttempt.isAutomaticFailure, h, h']

/-- An open attempt is not a failure. -/
theorem PaymentAttempt.failureKey_of_isResolvable (h : a.status.isResolvable = true) :
    a.failureKey subscriptionId periodStartAt = none := by
  refine PaymentAttempt.failureKey_eq_none ?_ ?_
  · intro hs
    simp [hs, PaymentAttemptStatus.isResolvable] at h
  · intro hs
    simp [hs, PaymentAttemptStatus.isResolvable] at h

/-- Only a renewal is a failure. -/
theorem PaymentAttempt.failureKey_of_kind_ne (h : a.kind ≠ .subscriptionRenewal) :
    a.failureKey subscriptionId periodStartAt = none := by
  simp [PaymentAttempt.failureKey, PaymentAttempt.isAutomaticFailure, h]

/-- A writer that does not reopen an ended attempt leaves the failures as they are, or adds the open
attempt to them, at its time. -/
theorem AttemptWriter.Stores.failureKey {w : AttemptWriter} (h : w.Stores now a a')
    (hreopen : (∃ e c m, w = .persist e (.lateApprovalReview c m)) → a.status.isResolvable = true) :
    a'.failureKey subscriptionId periodStartAt = a.failureKey subscriptionId periodStartAt ∨
      (a.status.isResolvable = true ∧ a'.isAutomaticFailure subscriptionId periodStartAt = true ∧
        a'.submittedAt = a.submittedAt ∧ a'.resolvedAt = some now) := by
  cases h.effect with
  | touch hstatus hsub hcode hres =>
    left
    rcases h.linkage with ⟨-, happ⟩ | hlink
    · rw [PaymentAttempt.failureKey_eq_none (by simp [happ]) (by simp [happ]),
        PaymentAttempt.failureKey_eq_none (by simp [← hstatus, happ]) (by simp [← hstatus, happ])]
    · have hid : a'.failure = a.failure := by
        simp [PaymentAttempt.failure, h.same.id, hres]
      have hcond : a'.isAutomaticFailure subscriptionId periodStartAt =
          a.isAutomaticFailure subscriptionId periodStartAt := by
        rw [Bool.eq_iff_iff, PaymentAttempt.isAutomaticFailure_iff,
          PaymentAttempt.isAutomaticFailure_iff, h.same.kind, PaymentAttempt.periodStartAt,
          h.same.target, hlink.subscriptionId, hstatus, hsub, hcode]
        rfl
      rw [PaymentAttempt.failureKey, PaymentAttempt.failureKey, hcond, hid]
  | resolve hopen _ hsub hres =>
    by_cases hf : a'.isAutomaticFailure subscriptionId periodStartAt = true
    · obtain ⟨-, -, -, hne, hstatus, -⟩ := PaymentAttempt.isAutomaticFailure_iff.mp hf
      have hend : a'.status.isResolvable = false := by
        rcases hstatus with hs | hs <;> rw [hs] <;> rfl
      exact .inr ⟨hopen, hf, hsub.resolve_right hne, hres hend hne⟩
    · left
      rw [PaymentAttempt.failureKey_of_isResolvable hopen]
      simp [PaymentAttempt.failureKey, hf]
  | reopen hw _ hstatus _ =>
    left
    rw [PaymentAttempt.failureKey_of_isResolvable (a := a') (by rw [hstatus]; rfl),
      PaymentAttempt.failureKey_of_isResolvable (hreopen hw)]
  | admitPrepared _ hp hstatus =>
    left
    rw [PaymentAttempt.failureKey_of_isResolvable (a := a') (by rw [hstatus]; rfl),
      PaymentAttempt.failureKey_of_isResolvable (by rw [hp.1]; rfl)]
  | restore _ hp hstatus _ =>
    left
    rw [PaymentAttempt.failureKey_of_isResolvable (a := a') (by rw [hstatus]; rfl),
      PaymentAttempt.failureKey_of_isResolvable (by rw [hp.1]; rfl)]

end Writers

/-! ## Reading the tables -/

/-- A stored row loads. -/
theorem findPaymentAttemptById_eq {attempts : List PaymentAttempt}
    (hindex : attemptIndexes attempts = true) {a : PaymentAttempt} (ha : a ∈ attempts)
    (hstored : a.Stored) :
    findPaymentAttemptById attempts a.billingScopeId a.id = .ok (some a) := by
  have hfind : attempts.find? (fun b => b.billingScopeId = a.billingScopeId ∧ b.id = a.id) =
      some a :=
    Table.find?_eq_some_of_unique ha (by simp) fun b hb hp =>
      nodup_id_of_attemptIndexes hindex hb ha (of_decide_eq_true hp).2
  have hload : a.targetFromRow = true ∧ a.check = .ok () :=
    ⟨hstored.targetFromRow, a.check_ok_iff.mpr hstored.loadable⟩
  rw [findPaymentAttemptById, hfind]
  simp [storedAttempt, hload, Except.map]

/-- The recovery of the former version, if there is one, has its time. -/
theorem legacyRecoveryFailureAccessEndedAt_eq_ok {attempts : List PaymentAttempt}
    (hstored : ∀ a ∈ attempts, a.Stored) (subscriptionId : Id) (periodStartAt : Timestamp) :
    ∃ legacy,
      legacyRecoveryFailureAccessEndedAt attempts subscriptionId periodStartAt = .ok legacy := by
  unfold legacyRecoveryFailureAccessEndedAt
  dsimp only
  split
  · exact ⟨none, rfl⟩
  · rename_i a hhead
    have ha := List.mem_of_head? hhead
    rw [List.mem_insertionSort, List.mem_filter] at ha
    have hfailed : a.status = .failed := by
      have := ha.2
      simp only [PaymentAttempt.isLegacyRecoveryFailure, decide_eq_true_eq] at this
      exact this.2.2.2.2.2.2.1
    obtain ⟨t, ht⟩ := Option.ne_none_iff_exists'.mp
      ((hstored a ha.1).loadable.resolvedAt (by rw [hfailed]; rfl))
    exact ⟨some t, by simp [resolvedFailureFromRow, ht, Except.map]⟩

/-- The history of a table whose failures are known. -/
theorem pastDueCausalHistory_eq_ok {attempts : List PaymentAttempt}
    {earlier : List ResolvedAutomaticRenewalFailure} {latest : ResolvedAutomaticRenewalFailure}
    {subscriptionId : Id} {periodStartAt : Timestamp} (hstored : ∀ a ∈ attempts, a.Stored)
    (hperm : (automaticFailures subscriptionId periodStartAt attempts).Perm (earlier ++ [latest]))
    (hsorted : (earlier ++ [latest]).Pairwise failureOrder)
    (hlen : earlier.length < maxFailureCount) :
    ∃ legacy, pastDueCausalHistory attempts subscriptionId periodStartAt =
      .ok ⟨historyOf earlier latest, legacy⟩ := by
  have htimes : ∀ a ∈ attempts, a.isAutomaticFailure subscriptionId periodStartAt = true →
      a.resolvedAt ≠ none := by
    intro a ha hf
    obtain ⟨-, -, -, -, hs, -⟩ := PaymentAttempt.isAutomaticFailure_iff.mp hf
    refine (hstored a ha).loadable.resolvedAt ?_
    rcases hs with hs | hs <;> rw [hs] <;> rfl
  obtain ⟨legacy, hlegacy⟩ :=
    legacyRecoveryFailureAccessEndedAt_eq_ok hstored subscriptionId periodStartAt
  have hauto := automaticRenewalFailureHistory_eq htimes
  rw [insertionSort_automaticFailures hperm hsorted, historyFromResolved_concat hlen] at hauto
  exact ⟨legacy, by simp [pastDueCausalHistory, hauto, hlegacy, bind, Except.bind]⟩

/-- The application of a failed renewal starts from the attempt as it is stored. -/
theorem validateResolvedRenewalAttempt_eq_ok {a : PaymentAttempt} {subscriptionId : Id}
    {periodStartAt : Timestamp} (hf : a.isAutomaticFailure subscriptionId periodStartAt = true)
    (hstored : a.Stored) (hsub : a.subscriptionId = a.target.subscriptionId) :
    ∃ v, validateResolvedRenewalAttempt a = .ok v ∧ v.attemptId = a.id ∧
      v.billingScopeId = a.billingScopeId ∧ v.subscriberId = a.subscriberId ∧
      v.subscriptionId = subscriptionId ∧ some v.planKey = a.target.planKey ∧
      v.periodStartAt = periodStartAt ∧ some v.submittedAt = a.submittedAt ∧
      some v.resolvedAt = a.resolvedAt := by
  obtain ⟨hid, hstart, hkind, hne, hs, hcode⟩ := PaymentAttempt.isAutomaticFailure_iff.mp hf
  obtain ⟨t, ht⟩ := Option.ne_none_iff_exists'.mp hne
  obtain ⟨u, hu⟩ := Option.ne_none_iff_exists'.mp (hstored.loadable.resolvedAt
    (by rcases hs with hs | hs <;> rw [hs] <;> rfl))
  unfold PaymentAttempt.kind at hkind
  rw [hid] at hsub
  unfold PaymentAttempt.periodStartAt at hstart
  unfold validateResolvedRenewalAttempt
  cases htarget : a.target with
  | subscriptionRenewal planKey period expected =>
    rw [htarget] at hsub hstart
    simp only [PaymentAttemptTarget.subscriptionId, PaymentAttemptTarget.period, Option.map_some,
      Option.some.injEq] at hsub hstart
    simp [hs, hcode, ht, hu, hsub, hstart, PaymentAttemptTarget.planKey]
  | _ => simp [htarget, PaymentAttemptTarget.kind] at hkind

end SyrupRail
