import Mathlib.Order.Bounds.Defs
import SyrupRail.Dunning.Decision
import SyrupRail.Store.Exclusivity

/-!
# What the events say of access

The access of a subscription is derived three times: by the events from the failures of its period,
by the boundaries of its cancellation and its retirement, and by the entitlement query from its row.
They agree because a past-due subscription's paid period is over, which no function checks: a
failure is applied only to a payment that was due at its submission, no payment is scheduled before
the period ends, and no submission lies ahead of the clock. `Dated` carries this along a run. The
row of a subscription that has ended never changes, so that what its last event says stays true.
-/

namespace SyrupRail

open Transactions Tx

/-! ## Times that are past -/

/-- The times of an attempt are past, and so is the paid period of a past-due subscription. -/
structure Dated (db : Db) : Prop where
  submitted : ∀ a ∈ db.attempts, ∀ t, a.submittedAt = some t → t ≤ db.clock
  resolved : ∀ a ∈ db.attempts, ∀ t, a.resolvedAt = some t → t ≤ db.clock
  pastDue : ∀ s ∈ db.subscriptions, s.status = .pastDue → s.currentPeriodEndAt ≤ db.clock

section Times

variable {now : Timestamp} {a a' : PaymentAttempt}

/-- A submission that an update leaves or sets is past. -/
theorem PaymentAttempt.TimesFrom.submitted_le (h : a.TimesFrom now a')
    (ha : ∀ t, a.submittedAt = some t → t ≤ now) : ∀ t, a'.submittedAt = some t → t ≤ now := by
  intro t ht
  rcases h.submitted with heq | hnone | hnow
  · exact ha t (heq ▸ ht)
  · rw [hnone] at ht
    cases ht
  · rw [hnow] at ht
    exact le_of_eq (Option.some.inj ht).symm

/-- A resolution that an update leaves or sets is past. -/
theorem PaymentAttempt.TimesFrom.resolved_le (h : a.TimesFrom now a')
    (ha : ∀ t, a.resolvedAt = some t → t ≤ now) : ∀ t, a'.resolvedAt = some t → t ≤ now := by
  intro t ht
  rcases h.resolved with heq | hnow
  · exact ha t (heq ▸ ht)
  · rw [hnow] at ht
    exact le_of_eq (Option.some.inj ht).symm

/-- The times of a row that quiet writers wrote. -/
theorem RowQuiet.timesFrom (h : RowQuiet now a a') : a.TimesFrom now a' := ⟨h.submitted, h.resolved⟩

/-- The times of a new row. -/
theorem NewAttempt.timesFrom_row (n : NewAttempt) :
    n.row.submittedAt = none ∧ n.row.resolvedAt = none :=
  ⟨rfl, rfl⟩

end Times

section Steps

variable {now : Timestamp} {db db' : Db}

/-- Every row after an effect is new, or has its times from a row before. -/
theorem AttemptsStep.timesFrom (h : AttemptsStep now db db') {a' : PaymentAttempt}
    (ha' : a' ∈ db'.attempts) :
    (a'.submittedAt = none ∧ a'.resolvedAt = none) ∨ ∃ a ∈ db.attempts, a.TimesFrom now a' := by
  have keep {a : PaymentAttempt} (ha : a ∈ db.attempts) : ∃ a₀ ∈ db.attempts, a₀.TimesFrom now a :=
    ⟨a, ha, .inl rfl, .inl rfl⟩
  cases h with
  | kept rows _ =>
    obtain ⟨a, ha, hrow⟩ := Table.exists_of_mem_right rows ha'
    exact .inr ⟨a, ha, hrow.timesFrom⟩
  | inserted n _ _ rows _ =>
    rw [rows] at ha'
    rcases List.mem_cons.mp ha' with rfl | ha
    · exact .inl n.timesFrom_row
    · exact .inr (keep ha)
  | admitted a b s mem _ _ _ _ _ write rows _ =>
    rcases Table.mem_replaceBy (rows ▸ ha') with ⟨ha, -⟩ | rfl
    · exact .inr (keep ha)
    · exact .inr ⟨a, mem, AttemptWriter.timesFrom write⟩
  | approved a b _ _ _ mem _ _ _ write rows _ =>
    rcases Table.mem_replaceBy (rows ▸ ha') with ⟨ha, -⟩ | rfl
    · exact .inr (keep ha)
    · exact .inr ⟨a, mem, AttemptWriter.timesFrom write⟩

/-- The payment of an applied failure was submitted, and was due by then. -/
theorem FailureApplied.periodEnd_le {a : PaymentAttempt} {v : ValidatedRenewalFailureAttempt}
    {s : Subscription} {history : PastDueCausalHistory} {disposition : RenewalFailureDisposition}
    {events : List BillingEvent} (h : FailureApplied db.attempts a v s history disposition events)
    (hchecks : s.checks = true) (hdated : Dated db) : s.currentPeriodEndAt ≤ db.clock := by
  have hbefore := h.before
  have hdue : s.nextPaymentAttemptAt.any (· ≤ v.submittedAt) = true := by
    unfold beforeIsValid at hbefore
    simp only [Subscription.failureProjection] at hbefore
    split at hbefore
    · cases hbefore
    · exact (of_decide_eq_true hbefore).2.2.1
    · exact (of_decide_eq_true hbefore).2.1
  obtain ⟨t, ht, hle⟩ := (Option.any_eq_true _ _).mp hdue
  have hsubmitted : v.submittedAt ≤ db.clock := by
    have ha : a ∈ db.attempts := (findPaymentAttemptById_eq_some h.durable).1
    exact hdated.submitted a ha _ (validateResolvedRenewalAttempt_ok h.validated).2.2.2.1
  have hnext : s.nextRenewalAt ≤ t := Subscription.nextRenewalAt_le hchecks ht
  have hend : s.nextRenewalAt = s.currentPeriodEndAt := by
    simp only [Subscription.checks, Bool.and_eq_true] at hchecks
    exact (of_decide_eq_true hchecks.1.1.1).2
  rw [← hend]
  exact le_trans hnext (le_trans (of_decide_eq_true hle) hsubmitted)

/-- A change of a billed subscription leaves no past-due one with a period ahead. -/
theorem SubscriptionChange.periodEnd_le {s s' : Subscription}
    (h : SubscriptionChange db.clock db db' s s') (hchecks : s.checks = true)
    (hs : s ∈ db.subscriptions) (hdated : Dated db) (hpastDue : s'.status = .pastDue) :
    s'.currentPeriodEndAt ≤ db.clock := by
  cases h with
  | renewed r a evidence methodId s' renewed located expected charged approved priced =>
    -- A renewed subscription is active.
    have hactive : (r.advanced db.clock methodId evidence s).status = .active := by
      unfold SubscriptionChargeReservation.advanced
      split
      · rfl
      · rfl
    have hstatus : s'.status = .active := by
      rcases priced with rfl | ⟨cents, rfl⟩
      · exact hactive
      · exact hactive
    rw [hstatus] at hpastDue
    cases hpastDue
  | failed a v history disposition events applied => exact applied.periodEnd_le hchecks hdated
  | expedited a v history retryAt events events' applied =>
    exact applied.periodEnd_le hchecks hdated
  | canceled => cases hpastDue
  | retired => cases hpastDue
  | accessChanged => exact hdated.pastDue s hs hpastDue
  | methodChanged => exact hdated.pastDue s hs hpastDue

/-- An effect sets no time ahead of the clock. -/
theorem Effect.timesPast (h : Effect db.clock db db') (hvalid : db.Valid) (hdated : Dated db) :
    Dated db' := by
  have hclock := h.clock
  refine ⟨fun a' ha' t ht => ?_, fun a' ha' t ht => ?_, fun s' hs' hpastDue => ?_⟩
  · rw [hclock]
    rcases h.attempts.timesFrom ha' with ⟨hnone, -⟩ | ⟨a, ha, htimes⟩
    · rw [hnone] at ht
      cases ht
    · exact htimes.submitted_le (hdated.submitted a ha) t ht
  · rw [hclock]
    rcases h.attempts.timesFrom ha' with ⟨-, hnone⟩ | ⟨a, ha, htimes⟩
    · rw [hnone] at ht
      cases ht
    · exact htimes.resolved_le (hdated.resolved a ha) t ht
  · rw [hclock]
    cases h.subscriptions hvalid with
    | same heq => exact hdated.pastDue s' (heq ▸ hs') hpastDue
    | enrolled r a evidence enrolled =>
      obtain ⟨_, _, _, _, _, _, _, _, -, -, -, hrows, -⟩ := enrolled.subscription
      rcases List.mem_cons.mp (hrows ▸ hs') with rfl | hs
      · cases hpastDue
      · exact hdated.pastDue s' hs hpastDue
    | changed s t mem billed change rows checks indexes =>
      rcases Table.mem_replaceBy (rows ▸ hs') with ⟨hs, -⟩ | rfl
      · exact hdated.pastDue s' hs hpastDue
      · exact change.periodEnd_le (hvalid.checks s mem) mem hdated hpastDue

/-- A quiet program sets no time ahead of the clock. -/
theorem Quiet.timesPast (h : Quiet db.clock db db') (hdated : Dated db) : Dated db' := by
  have hclock := h.clock
  refine ⟨fun a' ha' t ht => ?_, fun a' ha' t ht => ?_, fun s hs hpastDue => ?_⟩
  · obtain ⟨a, ha, hrow⟩ := Table.exists_of_mem_right h.rows ha'
    rw [hclock]
    exact hrow.timesFrom.submitted_le (hdated.submitted a ha) t ht
  · obtain ⟨a, ha, hrow⟩ := Table.exists_of_mem_right h.rows ha'
    rw [hclock]
    exact hrow.timesFrom.resolved_le (hdated.resolved a ha) t ht
  · rw [h.subscriptions] at hs
    rw [hclock]
    exact hdated.pastDue s hs hpastDue

end Steps

/-- The times of a store are past along every run. -/
theorem law_dated : Db.Law Dated where
  fresh db h := by
    refine ⟨fun a ha => ?_, fun a ha => ?_, fun s hs => ?_⟩
    · simp [h.attempts] at ha
    · simp [h.attempts] at ha
    · simp [h.subscriptions] at hs
  later db now _ hle h :=
    ⟨fun a ha t ht => le_trans (h.submitted a ha t ht) hle,
      fun a ha t ht => le_trans (h.resolved a ha t ht) hle,
      fun s hs hpastDue => le_trans (h.pastDue s hs hpastDue) hle⟩
  quiet _ _ _ hquiet h := hquiet.timesPast h
  effect _ _ hvalid heffect h := heffect.timesPast hvalid h

/-! ## The causal boundary -/

/-- The times of the failures that a condition selects. -/
def failureTimes (p : PaymentAttempt → Bool) (attempts : List PaymentAttempt) : Set Timestamp :=
  {t | ∃ a ∈ attempts, p a = true ∧ a.resolvedAt = some t}

/-- Where the access of a past-due subscription ended: at the first failure of its period, also one
of a recovery of the former version, and with access during dunning at the latest failed renewal. -/
def Subscription.CausalBoundary (attempts : List PaymentAttempt) (s : Subscription)
    (t : Timestamp) :
    Prop :=
  match s.renewalFailure.pastDueAccess with
  | .suspendImmediately =>
    IsLeast (failureTimes (fun a => a.isAutomaticFailure s.id s.nextRenewalAt ||
      a.isLegacyRecoveryFailure s.id s.nextRenewalAt) attempts) t
  | .continueUntilDunningExhausted =>
    IsGreatest (failureTimes (·.isAutomaticFailure s.id s.nextRenewalAt) attempts) t

section Causes

variable {attempts : List PaymentAttempt} {subscriptionId : Id} {periodStartAt : Timestamp}

/-- The ends of a history are those of its list. -/
theorem historyFromResolved_ends {l : List ResolvedAutomaticRenewalFailure}
    {h : AutomaticRenewalFailureHistory}
    (hok : automaticRenewalFailureHistoryFromResolved l = .ok h) :
    h.firstResolvedAt = l.head?.map (·.resolvedAt) ∧
      h.latestResolvedAt = l.getLast?.map (·.resolvedAt) := by
  unfold automaticRenewalFailureHistoryFromResolved at hok
  split at hok
  · cases hok
  · split at hok
    · rename_i first latest previous hfirst hlatest hprevious
      obtain rfl := Except.ok.inj hok
      rw [hfirst, hlatest]
      exact ⟨rfl, rfl⟩
    · rename_i first latest hfirst hlatest hprevious
      obtain rfl := Except.ok.inj hok
      -- A list with nothing before its last element is that element.
      obtain ⟨init, heq⟩ := List.getLast?_eq_some_iff.mp hlatest
      have hinit : init = [] := by
        rw [heq, List.dropLast_concat] at hprevious
        exact List.getLast?_eq_none_iff.mp hprevious
      subst hinit
      rw [heq, List.nil_append, List.head?_cons] at hfirst
      obtain rfl := Option.some.inj hfirst
      rw [heq]
      exact ⟨rfl, rfl⟩
    · rename_i hsome hone
      obtain rfl := Except.ok.inj hok
      have hnil : l = [] := by
        by_contra hne
        have hhead := List.head?_eq_some_head hne
        have hlast := List.getLast?_eq_getLast_of_ne_nil hne
        cases hprevious : l.dropLast.getLast? with
        | none => exact hone _ _ hhead hlast hprevious
        | some previous => exact hsome _ _ _ hhead hlast hprevious
      subst hnil
      exact ⟨rfl, rfl⟩

/-- The first of a sorted list is the least. -/
theorem resolvedAt_le_of_head? {l : List ResolvedAutomaticRenewalFailure}
    {f g : ResolvedAutomaticRenewalFailure} (hsorted : l.Pairwise failureOrder)
    (hhead : l.head? = some f) (hg : g ∈ l) : f.resolvedAt ≤ g.resolvedAt := by
  cases l with
  | nil => cases hg
  | cons f' l =>
    obtain rfl := Option.some.inj hhead
    rcases List.mem_cons.mp hg with rfl | hg
    · exact le_refl _
    · rcases List.rel_of_pairwise_cons hsorted hg with hlt | ⟨heq, -⟩
      · exact le_of_lt hlt
      · exact le_of_eq heq

/-- The last of a sorted list is the greatest. -/
theorem resolvedAt_le_of_getLast? {l : List ResolvedAutomaticRenewalFailure}
    {f g : ResolvedAutomaticRenewalFailure} (hsorted : l.Pairwise failureOrder)
    (hlast : l.getLast? = some f) (hg : g ∈ l) : g.resolvedAt ≤ f.resolvedAt := by
  obtain ⟨init, rfl⟩ := List.getLast?_eq_some_iff.mp hlast
  rcases List.mem_append.mp hg with hg | hg
  · rcases (List.pairwise_append.mp hsorted).2.2 g hg f (List.mem_singleton_self f) with hlt |
      ⟨heq, -⟩
    · exact le_of_lt hlt
    · exact le_of_eq heq
  · rw [List.mem_singleton.mp hg]

/-- A failed renewal has its time. -/
theorem PaymentAttempt.Stored.resolvedAt_of_isAutomaticFailure {a : PaymentAttempt} (h : a.Stored)
    (hp : a.isAutomaticFailure subscriptionId periodStartAt = true) : a.resolvedAt ≠ none := by
  obtain ⟨-, -, -, -, hs, -⟩ := PaymentAttempt.isAutomaticFailure_iff.mp hp
  refine h.loadable.resolvedAt ?_
  rcases hs with hs | hs
  · rw [hs]
    rfl
  · rw [hs]
    rfl

/-- A failed recovery of the former version has its time. -/
theorem PaymentAttempt.Stored.resolvedAt_of_isLegacyRecoveryFailure {a : PaymentAttempt}
    (h : a.Stored) (hp : a.isLegacyRecoveryFailure subscriptionId periodStartAt = true) :
    a.resolvedAt ≠ none := by
  have hs : a.status = .failed := (of_decide_eq_true hp).2.2.2.2.2.2.1
  exact h.loadable.resolvedAt (by rw [hs]; rfl)

/-- The time of a failure in the table. -/
theorem mem_failureTimes_automatic (hstored : ∀ a ∈ attempts, a.Stored) {t : Timestamp} :
    t ∈ failureTimes (·.isAutomaticFailure subscriptionId periodStartAt) attempts ↔
      ∃ f ∈ automaticFailures subscriptionId periodStartAt attempts, f.resolvedAt = t := by
  constructor
  · rintro ⟨a, ha, hp, ht⟩
    refine ⟨a.failure, mem_automaticFailures.mpr ⟨a, ha, hp, rfl⟩, ?_⟩
    simp [PaymentAttempt.failure, ht]
  · rintro ⟨f, hf, rfl⟩
    obtain ⟨a, ha, hp, rfl⟩ := mem_automaticFailures.mp hf
    obtain ⟨t, ht⟩ :=
      Option.ne_none_iff_exists'.mp ((hstored a ha).resolvedAt_of_isAutomaticFailure hp)
    exact ⟨a, ha, hp, by simp [PaymentAttempt.failure, ht]⟩

/-- The ends of the history that the query returns are the extreme failures of the table. -/
theorem automaticRenewalFailureHistory_ends (hstored : ∀ a ∈ attempts, a.Stored)
    {h : AutomaticRenewalFailureHistory}
    (hok : automaticRenewalFailureHistory attempts subscriptionId periodStartAt = .ok h) :
    (∀ t, h.firstResolvedAt = some t →
        IsLeast (failureTimes (·.isAutomaticFailure subscriptionId periodStartAt) attempts) t) ∧
      (h.firstResolvedAt = none →
        ∀ t, t ∉ failureTimes (·.isAutomaticFailure subscriptionId periodStartAt) attempts) ∧
      ∀ t, h.latestResolvedAt = some t →
        IsGreatest (failureTimes (·.isAutomaticFailure subscriptionId periodStartAt) attempts)
          t := by
  rw [automaticRenewalFailureHistory_eq fun a ha => (hstored a ha).resolvedAt_of_isAutomaticFailure]
    at hok
  generalize hl : (automaticFailures subscriptionId periodStartAt attempts).insertionSort
    failureOrder = l at hok
  have hsorted : l.Pairwise failureOrder := hl ▸ List.pairwise_insertionSort failureOrder _
  have hmem : ∀ t, t ∈ failureTimes (·.isAutomaticFailure subscriptionId periodStartAt) attempts ↔
      ∃ f ∈ l, f.resolvedAt = t := by
    intro t
    rw [mem_failureTimes_automatic hstored, ← hl]
    simp only [List.mem_insertionSort]
  obtain ⟨hfirst, hlatest⟩ := historyFromResolved_ends hok
  refine ⟨fun t ht => ?_, fun hnone t ht => ?_, fun t ht => ?_⟩
  · obtain ⟨f, hf, rfl⟩ := Option.map_eq_some_iff.mp (hfirst ▸ ht)
    refine ⟨(hmem _).mpr ⟨f, List.mem_of_head? hf, rfl⟩, fun u hu => ?_⟩
    obtain ⟨g, hg, rfl⟩ := (hmem u).mp hu
    exact resolvedAt_le_of_head? hsorted hf hg
  · obtain ⟨g, hg, -⟩ := (hmem t).mp ht
    rw [hfirst, Option.map_eq_none_iff, List.head?_eq_none_iff] at hnone
    rw [hnone] at hg
    cases hg
  · obtain ⟨f, hf, rfl⟩ := Option.map_eq_some_iff.mp (hlatest ▸ ht)
    refine ⟨(hmem _).mpr ⟨f, List.mem_of_getLast? hf, rfl⟩, fun u hu => ?_⟩
    obtain ⟨g, hg, rfl⟩ := (hmem u).mp hu
    exact resolvedAt_le_of_getLast? hsorted hf hg

/-- The recovery that the query returns is the first one of the table. -/
theorem legacyRecoveryFailureAccessEndedAt_least (hstored : ∀ a ∈ attempts, a.Stored)
    {legacy : Option Timestamp}
    (hok : legacyRecoveryFailureAccessEndedAt attempts subscriptionId periodStartAt = .ok legacy) :
    (∀ t, legacy = some t →
        IsLeast (failureTimes (·.isLegacyRecoveryFailure subscriptionId periodStartAt) attempts)
          t) ∧
      (legacy = none →
        ∀ t, t ∉ failureTimes (·.isLegacyRecoveryFailure subscriptionId periodStartAt)
          attempts) := by
  unfold legacyRecoveryFailureAccessEndedAt at hok
  dsimp only at hok
  have horder : ∀ a ∈ attempts.filter (·.isLegacyRecoveryFailure subscriptionId periodStartAt),
      ∀ b ∈ attempts.filter (·.isLegacyRecoveryFailure subscriptionId periodStartAt),
      resolvedOrderNullsFirst a b = true ↔ failureOrder a.failure b.failure := by
    intro a ha b hb
    rw [List.mem_filter] at ha hb
    obtain ⟨t, ht⟩ :=
      Option.ne_none_iff_exists'.mp ((hstored a ha.1).resolvedAt_of_isLegacyRecoveryFailure ha.2)
    obtain ⟨u, hu⟩ :=
      Option.ne_none_iff_exists'.mp ((hstored b hb.1).resolvedAt_of_isLegacyRecoveryFailure hb.2)
    simp [resolvedOrderNullsFirst, failureOrder, PaymentAttempt.failure, ht, hu]
  -- The rows in the order of the query are in that of their failures.
  have hmap := List.map_insertionSort _ failureOrder PaymentAttempt.failure _ horder
  generalize hrows :
    (attempts.filter (·.isLegacyRecoveryFailure subscriptionId periodStartAt)).insertionSort
      (fun a b => resolvedOrderNullsFirst a b = true) = rows at hok hmap
  have hsorted : (rows.map PaymentAttempt.failure).Pairwise failureOrder := by
    rw [hmap]
    exact List.pairwise_insertionSort failureOrder _
  have hmem : ∀ a, a ∈ rows ↔
      a ∈ attempts ∧ a.isLegacyRecoveryFailure subscriptionId periodStartAt = true := by
    intro a
    rw [← hrows, List.mem_insertionSort, List.mem_filter]
  cases hhead : rows.head? with
  | none =>
    rw [hhead] at hok
    obtain rfl := Except.ok.inj hok
    rw [List.head?_eq_none_iff] at hhead
    refine ⟨fun t ht => (Option.some_ne_none t ht.symm).elim, fun _ t ht => ?_⟩
    obtain ⟨a, ha, hp, -⟩ := ht
    have := (hmem a).mpr ⟨ha, hp⟩
    rw [hhead] at this
    cases this
  | some a =>
    rw [hhead] at hok
    obtain ⟨ha, hp⟩ := (hmem a).mp (List.mem_of_head? hhead)
    obtain ⟨t, ht⟩ :=
      Option.ne_none_iff_exists'.mp ((hstored a ha).resolvedAt_of_isLegacyRecoveryFailure hp)
    have hlegacy : legacy = some t := by
      simp only [resolvedFailureFromRow, ht, Except.map] at hok
      exact (Except.ok.inj hok).symm
    subst hlegacy
    refine ⟨fun u hu => ?_, fun hnone => (Option.some_ne_none t hnone).elim⟩
    obtain rfl := Option.some.inj hu
    refine ⟨⟨a, ha, hp, ht⟩, fun u hu => ?_⟩
    obtain ⟨b, hb, hpb, hbu⟩ := hu
    have hle := resolvedAt_le_of_head? (f := a.failure) (g := b.failure) hsorted
      (by rw [List.head?_map, hhead]; rfl) (List.mem_map_of_mem ((hmem b).mpr ⟨hb, hpb⟩))
    simpa [PaymentAttempt.failure, ht, hbu] using hle

/-- Failures that one of two conditions selects. -/
theorem failureTimes_or (p q : PaymentAttempt → Bool) (t : Timestamp) :
    t ∈ failureTimes (fun a => p a || q a) attempts ↔
      t ∈ failureTimes p attempts ∨ t ∈ failureTimes q attempts := by
  constructor
  · rintro ⟨a, ha, hpq, ht⟩
    rcases Bool.or_eq_true_iff.mp hpq with hp | hq
    · exact .inl ⟨a, ha, hp, ht⟩
    · exact .inr ⟨a, ha, hq, ht⟩
  · rintro (⟨a, ha, hp, ht⟩ | ⟨a, ha, hq, ht⟩)
    · exact ⟨a, ha, Bool.or_eq_true_iff.mpr (.inl hp), ht⟩
    · exact ⟨a, ha, Bool.or_eq_true_iff.mpr (.inr hq), ht⟩

/-- The boundary that the history gives is the causal one of the table. -/
theorem causalBoundary_of_accessEndedAt {s : Subscription} {history : PastDueCausalHistory}
    {t : Timestamp} (hstored : ∀ a ∈ attempts, a.Stored)
    (hhistory : pastDueCausalHistory attempts s.id s.nextRenewalAt = .ok history)
    (ht : history.accessEndedAt s.renewalFailure.pastDueAccess = some t) :
    s.CausalBoundary attempts t := by
  obtain ⟨automatic, hautomatic, hok⟩ := bind_eq_ok.mp hhistory
  obtain ⟨legacy, hlegacy, hok⟩ := bind_eq_ok.mp hok
  obtain rfl := Except.ok.inj hok
  obtain ⟨hfirst, hnone, hlatest⟩ := automaticRenewalFailureHistory_ends hstored hautomatic
  obtain ⟨hleast, hempty⟩ := legacyRecoveryFailureAccessEndedAt_least hstored hlegacy
  unfold Subscription.CausalBoundary
  unfold PastDueCausalHistory.accessEndedAt at ht
  cases hpolicy : s.renewalFailure.pastDueAccess with
  | continueUntilDunningExhausted =>
    rw [hpolicy] at ht
    exact hlatest t ht
  | suspendImmediately =>
    rw [hpolicy] at ht
    dsimp only at ht
    -- The minimum of two sets is that of their union, and an empty one adds nothing.
    cases hf : automatic.firstResolvedAt with
    | none =>
      have hl : legacy = some t := by
        rw [hf] at ht
        exact ht
      obtain ⟨hmem, hlower⟩ := hleast t hl
      refine ⟨(failureTimes_or _ _ t).mpr (.inr hmem), fun u hu => ?_⟩
      rcases (failureTimes_or _ _ u).mp hu with hu | hu
      · exact absurd hu (hnone hf u)
      · exact hlower hu
    | some f =>
      obtain ⟨hfmem, hflower⟩ := hfirst f hf
      cases legacy with
      | none =>
        obtain rfl : f = t := by
          rw [hf] at ht
          exact Option.some.inj ht
        refine ⟨(failureTimes_or _ _ f).mpr (.inl hfmem), fun u hu => ?_⟩
        rcases (failureTimes_or _ _ u).mp hu with hu | hu
        · exact hflower hu
        · exact absurd hu (hempty rfl u)
      | some l =>
        obtain ⟨hlmem, hllower⟩ := hleast l rfl
        obtain rfl : min f l = t := by
          rw [hf] at ht
          exact Option.some.inj ht
        refine ⟨(failureTimes_or _ _ _).mpr ?_, fun u hu => ?_⟩
        · rcases min_choice f l with heq | heq
          · rw [heq]
            exact .inl hfmem
          · rw [heq]
            exact .inr hlmem
        · rcases (failureTimes_or _ _ u).mp hu with hu | hu
          · exact le_trans (min_le_left f l) (hflower hu)
          · exact le_trans (min_le_right f l) (hllower hu)

end Causes

/-! ## The truth of an event -/

/-- The subscription whose access an event ends, and where. -/
def BillingEvent.accessBoundary : BillingEvent → Option (Id × Timestamp)
  | .subscriptionEnded _ subscriptionId _ _ accessEndsAt
  | .subscriptionPeriodExpired subscriptionId _ _ _ accessEndsAt
  | .subscriptionCanceled subscriptionId _ accessEndsAt => some (subscriptionId, accessEndsAt)
  | .subscriptionStarted .. | .subscriptionRenewed .. | .subscriptionPaymentFailed ..
  | .paymentMethodChanged .. => none

/-- The subscription whose payment has failed, and what that means for its access. -/
def BillingEvent.failureAccess : BillingEvent → Option (Id × SubscriptionPaymentFailureAccess)
  | .subscriptionPaymentFailed _ subscriptionId _ _ access => some (subscriptionId, access)
  | .subscriptionStarted .. | .subscriptionRenewed .. | .subscriptionEnded ..
  | .subscriptionPeriodExpired .. | .subscriptionCanceled .. | .paymentMethodChanged .. => none

/-- A billed subscription that ends, and the boundary of its access: the end of the period that is
paid when an active one is canceled, and else nothing that lies ahead. -/
structure AccessEnds (now accessEndsAt : Timestamp) (s s' : Subscription) : Prop where
  billed : s.status.isBilled = true
  owner : s'.owner = s.owner
  mode : s'.requiredGatewayAccountMode = s.requiredGatewayAccountMode
  ended : s'.status.isBilled = false
  paid : s.status = .active → s'.status = .canceled → accessEndsAt = s.currentPeriodEndAt
  past : s.status = .pastDue ∨ s'.status = .unpaid → accessEndsAt ≤ now
  current : ∀ t, now ≤ t → (s'.isCurrent t = true ↔ t < accessEndsAt)

/-- The access of a failed payment is that of the stored row, and its boundary the causal one. -/
structure FailureTold (attempts : List PaymentAttempt) (access : SubscriptionPaymentFailureAccess)
    (s : Subscription) : Prop where
  continues : access = .continuesDuringDunning ↔ s.pastDueAccess = .allowedDuringDunning
  ended : ∀ t, access = .ended t → s.CausalBoundary attempts t

/-- An event that a step emits is true of the rows that the step leaves. -/
structure BillingEvent.Truthful (now : Timestamp) (db db' : Db) (e : BillingEvent) : Prop where
  boundary : ∀ subscriptionId accessEndsAt, e.accessBoundary = some (subscriptionId, accessEndsAt) →
    ∃ s ∈ db.subscriptions, ∃ s' ∈ db'.subscriptions, s.id = subscriptionId ∧
      s'.id = subscriptionId ∧ AccessEnds now accessEndsAt s s'
  failure : ∀ subscriptionId access, e.failureAccess = some (subscriptionId, access) →
    ∃ s ∈ db'.subscriptions, s.id = subscriptionId ∧ FailureTold db'.attempts access s

section Events

variable {now : Timestamp} {db db' : Db} {s : Subscription}

/-- A causal boundary is past. -/
theorem Subscription.CausalBoundary.le {t : Timestamp} (h : s.CausalBoundary db.attempts t)
    (hdated : Dated db) : t ≤ db.clock := by
  unfold Subscription.CausalBoundary at h
  split at h
  · obtain ⟨⟨a, ha, -, ht⟩, -⟩ := h
    exact hdated.resolved a ha t ht
  · obtain ⟨⟨a, ha, -, ht⟩, -⟩ := h
    exact hdated.resolved a ha t ht

/-- The boundary that a cancellation or a retirement derives from the failures is past. -/
theorem causalAccessEndedAt_le {t : Timestamp} (hvalid : db.Valid) (hdated : Dated db)
    (h : causalAccessEndedAt s db = .ok t) : t ≤ db.clock := by
  obtain ⟨history, hhistory, h⟩ := bind_eq_ok.mp h
  split at h
  · rename_i accessEndedAt hended
    obtain rfl := Except.ok.inj h
    exact (causalBoundary_of_accessEndedAt hvalid.rows hhistory hended).le hdated
  · cases h

/-- The paid period of a billed subscription is the one up to its next renewal. -/
theorem Subscription.nextRenewalAt_eq (h : s.checks = true) :
    s.nextRenewalAt = s.currentPeriodEndAt := by
  simp only [Subscription.checks, Bool.and_eq_true] at h
  exact (of_decide_eq_true h.1.1.1).2

/-- A billed subscription that is not active is past due. -/
theorem Subscription.pastDue_of_isBilled (h : s.status.isBilled = true) (hne : s.status ≠ .active) :
    s.status = .pastDue := by
  cases hstatus : s.status with
  | active => exact absurd hstatus hne
  | pastDue => rfl
  | canceled =>
    rw [hstatus] at h
    cases h
  | unpaid =>
    rw [hstatus] at h
    cases h

/-- The boundary of a cancellation. -/
theorem accessEnds_canceled {accessEndsAt : Timestamp} (hvalid : db.Valid) (hdated : Dated db)
    (mem : s ∈ db.subscriptions) (billed : s.status.isBilled = true)
    (h : cancellationAccessEndsAt db.clock s db = .ok accessEndsAt) :
    AccessEnds db.clock accessEndsAt s (s.canceledRow db.clock) := by
  have hcurrent (t : Timestamp) : (s.canceledRow db.clock).isCurrent t = true ↔
      t < s.currentPeriodEndAt := by
    show decide (t < s.currentPeriodEndAt) = true ↔ _
    exact decide_eq_true_iff
  unfold cancellationAccessEndsAt at h
  by_cases hactive : s.status = .active
  · rw [if_pos hactive] at h
    obtain rfl := Except.ok.inj h
    refine ⟨billed, rfl, rfl, rfl, fun _ _ => rfl, fun hover => ?_, fun t _ => hcurrent t⟩
    rcases hover with hpastDue | hunpaid
    · rw [hactive] at hpastDue
      cases hpastDue
    · cases hunpaid
  · rw [if_neg hactive] at h
    have hpastDue := Subscription.pastDue_of_isBilled billed hactive
    have hend : s.currentPeriodEndAt ≤ db.clock := hdated.pastDue s mem hpastDue
    have hle : accessEndsAt ≤ db.clock := by
      split at h
      · exact le_of_eq (Except.ok.inj h).symm
      · exact causalAccessEndedAt_le hvalid hdated h
    refine ⟨billed, rfl, rfl, rfl, fun h => absurd h hactive, fun _ => hle, fun t ht => ?_⟩
    -- Neither the period nor the boundary lies ahead.
    rw [hcurrent]
    constructor
    · intro hlt
      exact absurd (lt_of_lt_of_le hlt hend) (not_lt.mpr ht)
    · intro hlt
      exact absurd (lt_of_lt_of_le hlt hle) (not_lt.mpr ht)

/-- An unpaid subscription gives no access, so that any boundary that is past is right. -/
theorem accessEnds_unpaid {s' : Subscription} {accessEndsAt : Timestamp}
    (billed : s.status.isBilled = true) (howner : s'.owner = s.owner)
    (hmode : s'.requiredGatewayAccountMode = s.requiredGatewayAccountMode)
    (hunpaid : s'.status = .unpaid) (hle : accessEndsAt ≤ now) :
    AccessEnds now accessEndsAt s s' := by
  have hended : s'.status.isBilled = false := by
    rw [hunpaid]
    rfl
  refine ⟨billed, howner, hmode, hended, fun _ hcanceled => ?_, fun _ => hle, fun t ht => ?_⟩
  · rw [hunpaid] at hcanceled
    cases hcanceled
  · constructor
    · intro hcurrent
      exact absurd hunpaid (Subscription.ne_unpaid_of_isCurrent hcurrent)
    · intro hlt
      exact absurd (lt_of_lt_of_le hlt hle) (not_lt.mpr ht)

/-- The boundary of a retirement is past. -/
theorem retirementAccessEndsAt_le {accessEndsAt : Timestamp} (hvalid : db.Valid) (hdated : Dated db)
    (h : retirementAccessEndsAt db.clock s db = .ok accessEndsAt) : accessEndsAt ≤ db.clock := by
  unfold retirementAccessEndsAt at h
  split at h
  · exact le_of_eq (Except.ok.inj h).symm
  · exact causalAccessEndedAt_le hvalid hdated h

/-- The events of a failure: the failure with its access, and the end of the subscription. -/
theorem failureEvents_eq {v : ValidatedRenewalFailureAttempt} {policy : RenewalFailurePolicy}
    {history : PastDueCausalHistory} {d : RenewalFailureDisposition} {events : List BillingEvent}
    (h : failureEvents v policy history d = .ok events) :
    ∃ access, failureEventAccess policy.pastDueAccess history d = .ok access ∧
      ∀ e ∈ events,
        e = .subscriptionPaymentFailed v.attemptId v.subscriptionId v.planKey d.eventDisposition
          access ∨ ∃ endedAt accessEndsAt, d = .markUnpaid endedAt ∧ access = .ended accessEndsAt ∧
            e = .subscriptionEnded v.attemptId v.subscriptionId v.planKey endedAt accessEndsAt := by
  obtain ⟨access, haccess, h⟩ := bind_eq_ok.mp h
  refine ⟨access, haccess, fun e he => ?_⟩
  split at h
  · cases access with
    | continuesDuringDunning => cases h
    | ended accessEndsAt =>
      obtain rfl := Except.ok.inj h
      rcases List.mem_pair.mp he with rfl | rfl
      · exact .inl rfl
      · exact .inr ⟨_, accessEndsAt, rfl, rfl, rfl⟩
  · obtain rfl := Except.ok.inj h
    exact .inl (List.mem_singleton.mp he)

/-- The access that a failure announces is that of a row with a payment scheduled exactly when a
retry is. -/
theorem failureTold {attempts : List PaymentAttempt} {history : PastDueCausalHistory}
    {d : RenewalFailureDisposition} {access : SubscriptionPaymentFailureAccess}
    (hstored : ∀ a ∈ attempts, a.Stored)
    (hhistory : pastDueCausalHistory attempts s.id s.nextRenewalAt = .ok history)
    (h : failureEventAccess s.renewalFailure.pastDueAccess history d = .ok access)
    (hretry : s.nextPaymentAttemptAt ≠ none ↔ ∃ t, d = .retryScheduled t) :
    FailureTold attempts access s := by
  -- An access that has ended, for a row that is suspended.
  have ended (hsuspended : s.pastDueAccess = .suspended) {accessEndedAt : Timestamp}
      (hended : history.accessEndedAt s.renewalFailure.pastDueAccess = some accessEndedAt) :
      FailureTold attempts (.ended accessEndedAt) s := by
    refine ⟨Iff.intro (fun h => ?_) (fun h => ?_), fun t ht => ?_⟩
    · cases h
    · rw [hsuspended] at h
      cases h
    · obtain rfl := SubscriptionPaymentFailureAccess.ended.inj ht
      exact causalBoundary_of_accessEndedAt hstored hhistory hended
  have unscheduled (hd : ∀ t, d ≠ .retryScheduled t) : s.pastDueAccess = .suspended := by
    have hnone : s.nextPaymentAttemptAt = none := by
      by_contra hne
      obtain ⟨t, ht⟩ := hretry.mp hne
      exact hd t ht
    rw [Subscription.pastDueAccess, hnone]
    cases s.renewalFailure.pastDueAccess with
    | suspendImmediately => rfl
    | continueUntilDunningExhausted => rfl
  unfold failureEventAccess at h
  split at h
  · rename_i retryAt hpolicy
    obtain rfl := Except.ok.inj h
    obtain ⟨t, ht⟩ := Option.ne_none_iff_exists'.mp (hretry.mpr ⟨retryAt, rfl⟩)
    refine ⟨Iff.intro (fun _ => ?_) (fun _ => rfl), fun t ht => ?_⟩
    · rw [Subscription.pastDueAccess, hpolicy, ht]
      rfl
    · cases ht
  · rename_i hother
    split at h
    · rename_i accessEndedAt hended
      obtain rfl := Except.ok.inj h
      refine ended ?_ hended
      cases hpolicy : s.renewalFailure.pastDueAccess with
      | suspendImmediately =>
        rw [Subscription.pastDueAccess, hpolicy]
        rfl
      | continueUntilDunningExhausted => exact unscheduled fun t ht => hother t hpolicy ht
    · cases h

/-- An update that only one row can match writes that row. -/
theorem SubscriptionUpdated.mem_of_id {matched : Subscription → Bool}
    {f : Subscription → Subscription} {subscriptions subscriptions' : List Subscription}
    (hindex : subscriptionIndexes subscriptions = true)
    (h : SubscriptionUpdated matched f subscriptions subscriptions') (hs : s ∈ subscriptions)
    (hid : ∀ t, matched t = true → t.id = s.id) : f s ∈ subscriptions' := by
  obtain ⟨t, ht, hmatched, -⟩ := Table.updateWhere_of_rowsAffected_eq_one (f := f)
    (nodup_id_of_subscriptionIndexes hindex) h.1
  obtain rfl := Table.eq_of_key_eq (nodup_id_of_subscriptionIndexes hindex) ht hs (hid t hmatched)
  exact h.mem hs hmatched

/-- An event that says nothing of access. -/
theorem BillingEvent.Truthful.of_none {e : BillingEvent} (hboundary : e.accessBoundary = none)
    (hfailure : e.failureAccess = none) : e.Truthful now db db' := by
  refine ⟨fun _ _ h => ?_, fun _ _ h => ?_⟩
  · rw [hboundary] at h
    cases h
  · rw [hfailure] at h
    cases h

/-- An event of the end of a subscription. -/
theorem BillingEvent.Truthful.of_boundary {e : BillingEvent} {s' : Subscription}
    {accessEndsAt : Timestamp} (hboundary : e.accessBoundary = some (s.id, accessEndsAt))
    (hfailure : e.failureAccess = none) (mem : s ∈ db.subscriptions) (mem' : s' ∈ db'.subscriptions)
    (hid : s'.id = s.id) (h : AccessEnds now accessEndsAt s s') : e.Truthful now db db' := by
  refine ⟨fun subscriptionId t ht => ?_, fun _ _ h => ?_⟩
  · rw [hboundary] at ht
    obtain ⟨rfl, rfl⟩ := Prod.mk.inj (Option.some.inj ht)
    exact ⟨s, mem, s', mem', rfl, hid, h⟩
  · rw [hfailure] at h
    cases h

/-- The events of an applied failure are true of the row with its projection. -/
theorem FailureApplied.truthful {a : PaymentAttempt} {v : ValidatedRenewalFailureAttempt}
    {history : PastDueCausalHistory} {d : RenewalFailureDisposition} {events : List BillingEvent}
    {s' : Subscription} (h : FailureApplied db.attempts a v s history d events) (hvalid : db.Valid)
    (hdated : Dated db) (mem : s ∈ db.subscriptions) (mem' : s' ∈ db'.subscriptions)
    (hrows : db'.attempts = db.attempts) {retryAt : Option Timestamp} {unpaidAt : Option Timestamp}
    {status : SubscriptionStatus} (hs' : s' = s.withFailure db.clock ⟨status, retryAt, unpaidAt⟩)
    (hretry : retryAt ≠ none ↔ ∃ t, d = .retryScheduled t)
    (hunpaid : ∀ t, d = .markUnpaid t → status = .unpaid) :
    ∀ e ∈ events, e.Truthful db.clock db db' := by
  intro e he
  have hid : s.id = v.subscriptionId := (of_decide_eq_true h.locked).1
  obtain ⟨access, haccess, hevents⟩ := failureEvents_eq h.announced
  rcases hevents e he with rfl | ⟨endedAt, accessEndsAt, rfl, rfl, rfl⟩
  · refine ⟨fun _ _ h => ?_, fun subscriptionId access' h' => ?_⟩
    · cases h
    · obtain ⟨rfl, rfl⟩ := Prod.mk.inj (Option.some.inj h')
      refine ⟨s', mem', ?_, ?_⟩
      · rw [hs', ← hid]
        rfl
      · rw [hrows, hs']
        exact failureTold hvalid.rows h.causes haccess hretry
  · -- A subscription that dunning ends is unpaid, and its access ended with a failure.
    have hended : history.accessEndedAt s.renewalFailure.pastDueAccess = some accessEndsAt := by
      unfold failureEventAccess at haccess
      split at haccess
      · cases haccess
      · split at haccess
        · rename_i t ht
          obtain rfl := SubscriptionPaymentFailureAccess.ended.inj (Except.ok.inj haccess)
          exact ht
        · cases haccess
    have hle : accessEndsAt ≤ db.clock :=
      (causalBoundary_of_accessEndedAt hvalid.rows h.causes hended).le hdated
    have hboundary : (BillingEvent.subscriptionEnded v.attemptId v.subscriptionId v.planKey endedAt
        accessEndsAt).accessBoundary = some (s.id, accessEndsAt) := by
      rw [hid]
      rfl
    have hid' : s'.id = s.id := by
      rw [hs']
      rfl
    refine .of_boundary hboundary rfl mem mem' hid' (accessEnds_unpaid h.isBilled ?_ ?_ ?_ hle)
    · rw [hs']
      rfl
    · rw [hs']
      rfl
    · rw [hs']
      exact hunpaid endedAt rfl

/-- The event of a failure whose retry is brought forward names the new time, and no other
access. -/
theorem expeditedEvents_eq {attemptId : Id} {scheduledAt retryAt : Timestamp}
    {events events' : List BillingEvent}
    (h : expeditedEvents attemptId scheduledAt retryAt events = .ok events') :
    ∃ e e', events = [e] ∧ events' = [e'] ∧ e'.accessBoundary = e.accessBoundary ∧
      e'.failureAccess = e.failureAccess := by
  unfold expeditedEvents at h
  split at h
  · split at h
    · obtain rfl := Except.ok.inj h
      exact ⟨_, _, rfl, rfl, rfl, rfl⟩
    · cases h
  · cases h

/-- An effect adds events to the log, and each of them is true of the rows that it leaves. -/
theorem Effect.truthful (h : Effect db.clock db db') (hvalid : db.Valid) (hdated : Dated db) :
    ∃ events : List BillingEvent, db'.events = db.events ++ events.map (db.clock, ·) ∧
      ∀ e ∈ events, e.Truthful db.clock db db' := by
  have silent {db' : Db} (heq : db'.events = db.events) :
      ∃ events : List BillingEvent, db'.events = db.events ++ events.map (db.clock, ·) ∧
        ∀ e ∈ events, BillingEvent.Truthful db.clock db db' e :=
    ⟨[], by rw [heq, List.map_nil, List.append_nil], List.forall_mem_nil _⟩
  have one {db' : Db} {e : BillingEvent} (heq : db'.events = db.events ++ [(db.clock, e)])
      (he : e.Truthful db.clock db db') :
      ∃ events : List BillingEvent, db'.events = db.events ++ events.map (db.clock, ·) ∧
        ∀ e ∈ events, BillingEvent.Truthful db.clock db db' e :=
    ⟨[e], heq, List.forall_mem_singleton.mpr he⟩
  cases h with
  | fail a subscriptions application applied =>
    rcases applyResolvedAutomaticRenewalFailure_eq_ok hvalid.subscriptions applied with ⟨rfl, -⟩ |
      ⟨v, s, hs, history, disposition, events, hfailure, rfl, hrows, -, -⟩
    · exact silent (by exact List.append_nil _)
    · refine ⟨events, rfl, hfailure.truthful hvalid hdated hs (hrows ▸ Table.mem_replaceBy_self hs)
        rfl rfl ?_ ?_⟩
      · cases disposition with
        | retryScheduled t => exact ⟨fun _ => ⟨t, rfl⟩, fun _ => Option.some_ne_none t⟩
        | remainPastDue t => exact ⟨fun h => absurd rfl h, fun ⟨_, h⟩ => by cases h⟩
        | markUnpaid t => exact ⟨fun h => absurd rfl h, fun ⟨_, h⟩ => by cases h⟩
      · rintro t rfl
        rfl
  | expedite a subscriptions subscriptions' retryAt events events' applied expedited announced =>
    rcases applyResolvedAutomaticRenewalFailure_eq_ok hvalid.subscriptions applied with ⟨hnoop, -⟩ |
      ⟨v, s, hs, history, disposition, events₁, hfailure, happlied, hrows, -, hindexes⟩
    · cases hnoop
    · obtain ⟨rfl, rfl⟩ := RenewalFailureApplication.applied.inj happlied
      have hrows' := hfailure.expedited_rows hrows hindexes expedited
      obtain ⟨e, e', rfl, rfl, hboundary, haccess⟩ := expeditedEvents_eq announced
      -- The event of the manual retry says what the one of the failure said, with the earlier time.
      have htrue : e.Truthful db.clock db { db with subscriptions := subscriptions' } := by
        have hrow : s.withFailure db.clock ⟨.pastDue, some (min db.clock retryAt), none⟩ ∈
            subscriptions' :=
          hrows' ▸ Table.mem_replaceBy_self hs
        refine hfailure.truthful hvalid hdated hs hrow ?_ rfl
          ⟨fun _ => ⟨retryAt, rfl⟩, fun _ => Option.some_ne_none _⟩ (fun _ h => by cases h) e
          (List.mem_singleton_self e)
        rfl
      refine one rfl ⟨fun subscriptionId t ht => ?_, fun subscriptionId access h => ?_⟩
      · exact htrue.boundary subscriptionId t (hboundary ▸ ht)
      · exact htrue.failure subscriptionId access (haccess ▸ h)
  | renew r a evidence renewed => exact one renewed.events (.of_none rfl rfl)
  | enroll r a evidence enrolled =>
    obtain ⟨_, _, _, _, _, _, _, _, -, -, -, -, -, -, -, -, -, -, -, hevents⟩ :=
      enrolled.subscription
    exact one hevents (.of_none rfl rfl)
  | cancel s accessEndsAt subscriptions mem billed free freeUpdate access updated =>
    exact one rfl (.of_boundary rfl rfl mem (updated.mem mem (decide_eq_true ⟨rfl, rfl, rfl⟩)) rfl
      (accessEnds_canceled hvalid hdated mem billed access))
  | retire s period accessEndsAt attempts subscriptions mem billed period_eq expired free access
      rejected updated =>
    have mem' : s.retiredRow db.clock ∈ subscriptions :=
      updated.mem_of_id hvalid.subscriptions mem fun t ht => (of_decide_eq_true ht).1
    exact one rfl (.of_boundary rfl rfl mem mem' rfl
      (accessEnds_unpaid billed rfl rfl rfl (retirementAccessEndsAt_le hvalid hdated access)))
  | replace r methodId tx subscriptions paymentMethods rebound => exact one rfl (.of_none rfl rfl)
  | _ => exact silent rfl

end Events

/-! ## Entitlement after the end -/

/-- The clock does not go back. -/
theorem stable_clock (t : Timestamp) : Db.Stable fun db => t ≤ db.clock where
  later _ _ _ hle h := le_trans h hle
  quiet _ _ _ hquiet h := by
    rw [hquiet.clock]
    exact h
  effect _ _ _ heffect h := by
    rw [heffect.clock]
    exact h

section Entitlement

variable {t : Timestamp} {query : EntitlementQuery} {db : Db} {s : Subscription}

/-- An entitlement grants access through a current subscription of its owner. -/
theorem mem_currentSubscriptions_of_accessThrough {e : Entitlement}
    (h : entitlement t query db = .ok e) (hs : e.accessThrough = some s) :
    s ∈ currentSubscriptions t query.owner query.requiredGatewayAccountMode db := by
  unfold entitlement at h
  dsimp only at h
  split at h
  · cases h
  · split at h
    · obtain rfl := Except.ok.inj h
      cases hs
    · obtain rfl := Except.ok.inj h
      cases hs
    · rename_i s' rest _ hlist
      have hmem : s' ∈ currentSubscriptions t query.owner query.requiredGatewayAccountMode db := by
        rw [hlist]
        exact List.mem_cons_self
      split at h
      · obtain rfl := Except.ok.inj h
        obtain rfl := Option.some.inj hs
        exact hmem
      · obtain rfl := Except.ok.inj h
        cases haccess : s'.pastDueAccess with
        | allowedDuringDunning =>
          rw [haccess] at hs
          obtain rfl := Option.some.inj hs
          exact hmem
        | suspended =>
          rw [haccess] at hs
          cases hs
      · obtain rfl := Except.ok.inj h
        obtain rfl := Option.some.inj hs
        exact hmem
      · cases h

/-- With exclusive sources, entitlement grants access through a subscription that has ended exactly
while it is current. -/
theorem Exclusive.accessThrough_iff (hexcl : Exclusive t db) (hs : s ∈ db.subscriptions)
    (hended : s.status.isBilled = false) (howner : query.owner = s.owner)
    (hmode : query.requiredGatewayAccountMode.all (s.requiredGatewayAccountMode = ·) = true) :
    (∃ e, entitlement t query db = .ok e ∧ e.accessThrough = some s) ↔ s.isCurrent t = true := by
  constructor
  · rintro ⟨e, he, haccess⟩
    have hmem := mem_currentSubscriptions_of_accessThrough he haccess
    rw [currentSubscriptions, List.mem_insertionSort, List.mem_filter] at hmem
    exact (of_decide_eq_true hmem.2).2.2
  · intro hcurrent
    have hmem : s ∈ currentSubscriptions t query.owner query.requiredGatewayAccountMode db := by
      rw [currentSubscriptions, List.mem_insertionSort, List.mem_filter]
      exact ⟨hs, decide_eq_true ⟨howner.symm, hmode, hcurrent⟩⟩
    have hcanceled : s.status = .canceled := by
      cases hstatus : s.status with
      | canceled => rfl
      | unpaid => exact absurd hstatus (Subscription.ne_unpaid_of_isCurrent hcurrent)
      | active =>
        rw [hstatus] at hended
        cases hended
      | pastDue =>
        rw [hstatus] at hended
        cases hended
    -- It is the only source of its owner.
    have hone := hexcl query.owner
    have hpaid := length_currentSubscriptions_le t query.owner query.requiredGatewayAccountMode db
    have hgrants := length_activeGrants t query.owner db
    have hpos := List.length_pos_of_mem hmem
    have hnil : activeGrants t query.owner db = [] := List.length_eq_zero_iff.mp (by omega)
    have hlist : currentSubscriptions t query.owner query.requiredGatewayAccountMode db = [s] := by
      obtain ⟨s', hs'⟩ := List.length_eq_one_iff.mp
        (show (currentSubscriptions t query.owner query.requiredGatewayAccountMode db).length =
          1 by omega)
      rw [hs', List.mem_singleton] at hmem
      rw [hs', hmem]
    refine ⟨.paidThroughCancellation s, ?_, rfl⟩
    unfold entitlement
    rw [hlist, hnil]
    simp [hcanceled]

end Entitlement

/-- Terminal events tell the truth about access. Every step of every run adds its events to the log
at its own time. For each one that ends a subscription with a boundary, entitlement grants access
through that subscription, at every later time of every later run, exactly before the boundary; the
boundary of a canceled active subscription is the end of its period, and every other one is past.
For each failed payment, the access continues exactly when the stored row allows it during dunning,
and has else ended at the first failure of the period or at its latest failed renewal, as the policy
says. -/
theorem terminal_events_true {db₀ : Db} (hfresh : db₀.Fresh) (steps : List (ℕ × Op))
    (step : ℕ × Op) :
    let db := run execStore db₀ steps
    let db' := execStore db step
    ∃ events : List BillingEvent, db'.events = db.events ++ events.map (db'.clock, ·) ∧
      ∀ e ∈ events,
        (∀ subscriptionId accessEndsAt, e.accessBoundary = some (subscriptionId, accessEndsAt) →
          ∃ s ∈ db.subscriptions, ∃ s' ∈ db'.subscriptions, s.id = subscriptionId ∧
            s'.id = subscriptionId ∧ AccessEnds db'.clock accessEndsAt s s' ∧
            ∀ later : List (ℕ × Op), let db'' := run execStore db' later
              ∀ t, db''.clock ≤ t → ∀ query : EntitlementQuery, query.owner = s'.owner →
                query.requiredGatewayAccountMode.all (s'.requiredGatewayAccountMode = ·) = true →
                ((∃ e, entitlement t query db'' = .ok e ∧ e.accessThrough = some s') ↔
                  t < accessEndsAt)) ∧
        ∀ subscriptionId access, e.failureAccess = some (subscriptionId, access) →
          ∃ s ∈ db'.subscriptions, s.id = subscriptionId ∧ FailureTold db'.attempts access s := by
  intro db db'
  obtain ⟨hvalid, hdated⟩ := law_dated.holds hfresh steps
  have hvalid' : db'.Valid := Db.law_valid.step hvalid hvalid step
  have hle : db.clock ≤ db.clock + step.1 := Int.le_add_of_nonneg_right (Int.natCast_nonneg _)
  -- A step is a quiet part, which tells nothing, and one effect at most.
  obtain ⟨db₁, hquiet, heffect⟩ := execStore_steps hvalid step
  have hclock : db₁.clock = db.clock + step.1 := hquiet.clock
  have hevents : db₁.events = db.events := by
    obtain ⟨attempts, ledger, rfl⟩ := hquiet.frame
    rfl
  have hsubscriptions : db₁.subscriptions = db.subscriptions := hquiet.subscriptions
  have hvalid₁ : db₁.Valid := hquiet.valid (hvalid.at _)
  have hdated₁ : Dated db₁ :=
    law_dated.quiet _ _ (hvalid.at _) hquiet (law_dated.later _ _ hvalid hle hdated)
  rcases heffect with heq | heffect
  · refine ⟨[], ?_, List.forall_mem_nil _⟩
    rw [List.map_nil, List.append_nil, show db' = db₁ from heq, hevents]
  · rw [← hclock] at heffect
    obtain ⟨events, hlog, htrue⟩ := heffect.truthful hvalid₁ hdated₁
    have hclock' : db'.clock = db₁.clock := heffect.clock
    refine ⟨events, by rw [hlog, hevents, hclock'], fun e he => ⟨fun subscriptionId accessEndsAt
      hb => ?_, (htrue e he).failure⟩⟩
    obtain ⟨s, hs, s', hs', hid, hid', hends⟩ :=
      (htrue e he).boundary subscriptionId accessEndsAt hb
    refine ⟨s, hsubscriptions ▸ hs, s', hs', hid, hid', hclock' ▸ hends, fun later => ?_⟩
    -- An ended subscription is never changed again, and no other one gives the same access.
    intro db'' t ht query howner hmode
    have hkept : s' ∈ db''.subscriptions :=
      ((stable_hasEnded hends.ended _).run_of hvalid' ⟨hs', rfl⟩ later).2.1
    have hlater : db'.clock ≤ db''.clock :=
      ((stable_clock db'.clock).run_of hvalid' (le_refl _) later).2
    have hexcl : Exclusive t db'' := by
      have hlaw := (law_accessExclusive.holds hfresh (steps ++ step :: later)).2
      rw [run_append] at hlaw
      exact AccessExclusive.later hlaw ht
    rw [hexcl.accessThrough_iff hkept hends.ended howner hmode]
    exact hends.current t (hclock' ▸ le_trans hlater ht)

/-- A subscription that is canceled at once keeps its access for thirty days. -/
theorem terminal_events_true_enrollment :
    let db' := execStore (run execStore accountStore enrollment) (0, .cancel ⟨1, 1, "plan"⟩)
    ∃ s ∈ db'.subscriptions, ∀ t, db'.clock ≤ t →
      ((∃ e, entitlement t ⟨⟨1, 1, "plan"⟩, none⟩ db' = .ok e ∧ e.accessThrough = some s) ↔
        t < 30 * microsPerDay) := by
  intro db'
  obtain ⟨events, hlog, htrue⟩ :=
    terminal_events_true accountStore_fresh enrollment (0, .cancel ⟨1, 1, "plan"⟩)
  have hboundary : (db'.events.getLast?.map fun e => e.2.accessBoundary) =
      some (some (1, 30 * microsPerDay)) := by
    decide +kernel
  have hnew : (run execStore accountStore enrollment).events.length < db'.events.length := by
    decide +kernel
  have howner : (db'.subscriptions.all fun s => s.owner = ⟨1, 1, "plan"⟩) = true := by
    decide +kernel
  obtain ⟨e, he, hb⟩ : ∃ e ∈ events, e.accessBoundary = some (1, 30 * microsPerDay) := by
    rcases List.eq_nil_or_concat events with rfl | ⟨before, e, rfl⟩
    · rw [show db'.events = _ from hlog, List.map_nil, List.append_nil] at hnew
      exact absurd hnew (lt_irrefl _)
    · rw [show db'.events = _ from hlog, List.concat_eq_append, List.map_append,
        ← List.append_assoc, List.map_singleton, List.getLast?_concat] at hboundary
      exact ⟨e, by simp, Option.some.inj hboundary⟩
  obtain ⟨-, -, s', hs', -, -, -, hlater⟩ := (htrue e he).1 _ _ hb
  exact ⟨s', hs', fun t ht => hlater [] t ht ⟨⟨1, 1, "plan"⟩, none⟩
    (of_decide_eq_true (List.all_eq_true.mp howner s' hs')).symm rfl⟩

end SyrupRail
