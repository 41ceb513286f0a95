import Mathlib.Order.Bounds.Basic
import SyrupRail.Attempt.Fingerprint
import SyrupRail.Lib.CivilDays
import SyrupRail.Lib.Run

/-!
# Chains of billing periods

A subscription renews from one boundary to the next, each period starting where
`next_billing_period` ended the one before. A calendar month is added to a date that may have been
clipped already, so the chain is not one long step: what composes is `MonthsLater`, in which the day
is the least of the first one and of the lengths of all months at the boundaries
(`MonthsLater.trans`). One step is a boundary of that kind, and a chain follows by induction on its
periods.
-/

namespace SyrupRail

open Calendar Transactions

/-- A period rule, whose count is a `NonZeroU16`. -/
abbrev CheckedPeriodRule := {rule : SubscriptionPeriodRule // rule.isPeriodRule = true}

/-- The first periods of a chain: each starts at the end of the one before. -/
def billingPeriodChain (rule : SubscriptionPeriodRule) :
    ℕ → Timestamp → Except BillingPeriodPolicyError (List BillingPeriod)
  | 0, _ => .ok []
  | n + 1, startAt => do
    let period ← nextBillingPeriod startAt rule
    let rest ← billingPeriodChain rule n period.endAt
    .ok (period :: rest)

/-- The date of a timestamp. -/
def dateAt (t : Timestamp) : Date := civilFromDays (t / microsPerDay)

/-- A day has a positive length. -/
theorem microsPerDay_eq : microsPerDay = 86400000000 := by decide

/-! ## One step -/

/-- A rule counts at least one. -/
theorem CheckedPeriodRule.count_pos (rule : CheckedPeriodRule) : 0 < rule.val.count := by
  have hrule := rule.property
  unfold SubscriptionPeriodRule.isPeriodRule at hrule
  simp only [Bool.and_eq_true, decide_eq_true_eq] at hrule
  exact hrule.1

/-- What an addition of months returns: the date of the later month with the day clipped, at the
same time of day, and later. -/
theorem checkedAddMonths_spec {t t' : ℤ} {months : ℕ} (hpos : 0 < months)
    (h : checkedAddMonths t months = some t') :
    t < t' ∧ t' % microsPerDay = t % microsPerDay ∧ dateAt t' = addMonths (dateAt t) months := by
  obtain ⟨hvalid, hnumber⟩ := civilFromDays_spec (t / microsPerDay)
  have hlater := daysFromCivil_lt_addMonths hvalid (show (0 : ℤ) < months by omega)
  have hdate := civilFromDays_daysFromCivil (valid_addMonths hvalid months)
  unfold checkedAddMonths at h
  dsimp only at h
  split_ifs at h with hrange
  have ht' : daysFromCivil (addMonths (civilFromDays (t / microsPerDay)) months) * microsPerDay +
      t % microsPerDay = (t' : ℤ) := Option.some.inj h
  unfold dateAt
  rw [hnumber] at hlater
  generalize daysFromCivil (addMonths (civilFromDays (t / microsPerDay)) months) = day at *
  rw [microsPerDay_eq] at *
  have hday : t' / 86400000000 = day := by omega
  refine ⟨by omega, by omega, ?_⟩
  rw [hday]
  exact hdate

/-- What an addition of days returns. -/
theorem checkedAdd_spec {t t' duration : ℤ} (h : checkedAdd t duration = some t') :
    t' = t + duration := by
  unfold checkedAdd at h
  split_ifs at h
  exact (Option.some.inj h).symm

/-- The end that a rule computes. -/
def nextEnd (startAt : Timestamp) : SubscriptionPeriodRule → Option Timestamp
  | .fixedDays days => checkedAdd startAt (days * microsPerDay)
  | .calendarMonths months => checkedAddMonths startAt months

/-- The end that a rule computes is later. -/
theorem lt_nextEnd (rule : CheckedPeriodRule) {startAt endAt : ℤ}
    (h : nextEnd startAt rule.val = some endAt) : startAt < endAt := by
  obtain ⟨rule, hrule⟩ := rule
  have hpos := CheckedPeriodRule.count_pos ⟨rule, hrule⟩
  cases rule with
  | fixedDays days =>
    have hend := checkedAdd_spec h
    have hdays : 0 < days := hpos
    rw [microsPerDay_eq] at hend
    omega
  | calendarMonths months => exact (checkedAddMonths_spec hpos h).1

/-- A period is returned exactly if its end does not overflow, and ends there. -/
theorem nextBillingPeriod_eq (rule : CheckedPeriodRule) (startAt : Timestamp) :
    (nextBillingPeriod startAt rule.val = .error .overflow ∧ nextEnd startAt rule.val = none) ∨
      ∃ period, nextBillingPeriod startAt rule.val = .ok period ∧ period.startAt = startAt ∧
        nextEnd startAt rule.val = some period.endAt := by
  have hnext : nextBillingPeriod startAt rule.val =
      (nextEnd startAt rule.val).elim (.error .overflow) (BillingPeriod.new startAt) := by
    unfold nextBillingPeriod nextEnd
    cases rule.val with
    | fixedDays days =>
      dsimp only
      cases checkedAdd startAt (days * microsPerDay) <;> rfl
    | calendarMonths months =>
      dsimp only
      cases checkedAddMonths startAt months <;> rfl
  cases hend : nextEnd startAt rule.val with
  | none =>
    left
    rw [hnext, hend]
    exact ⟨rfl, rfl⟩
  | some endAt =>
    right
    have hlt := lt_nextEnd rule hend
    refine ⟨⟨startAt, endAt, hlt⟩, ?_, rfl, rfl⟩
    rw [hnext, hend]
    exact dif_pos hlt

/-! ## Boundaries of calendar months -/

/-- The days that a boundary may have: that of the start, and the lengths of the months at the
boundaries. -/
def boundaryDays (start : Date) (count k : ℕ) : Set ℤ :=
  {day | day = start.day ∨ ∃ j : ℕ,
    1 ≤ j ∧ j ≤ k ∧ day = monthLength (start.monthIndex + j * count)}

/-- A timestamp `k` steps of `count` months later: at the same time of day, on the least of the
days. -/
def MonthsLater (startAt : Timestamp) (count k : ℕ) (t : Timestamp) : Prop :=
  t % microsPerDay = startAt % microsPerDay ∧
    ∃ day, dateAt t = dateOf ((dateAt startAt).monthIndex + k * count) day ∧
      IsLeast (boundaryDays (dateAt startAt) count k) day

/-- One step. -/
theorem monthsLater_one {startAt t : Timestamp} {count : ℕ} (hpos : 0 < count)
    (h : checkedAddMonths startAt count = some t) : MonthsLater startAt count 1 t := by
  obtain ⟨-, htime, hdate⟩ := checkedAddMonths_spec hpos h
  have hone : (dateAt startAt).monthIndex + ((1 : ℕ) : ℤ) * count = (dateAt startAt).monthIndex +
      count := by
    push_cast
    ring
  refine ⟨htime, min (dateAt startAt).day (monthLength ((dateAt startAt).monthIndex + count)),
    ?_, ?_, ?_⟩
  · rw [hdate, addMonths_eq, hone]
  · rcases min_choice (dateAt startAt).day (monthLength ((dateAt startAt).monthIndex + count))
      with hmin | hmin
    · exact .inl hmin
    · exact .inr ⟨1, le_rfl, le_rfl, by rw [hmin, hone]⟩
  · intro day hday
    obtain hday | ⟨j, hlow, hhigh, hday⟩ := hday
    · rw [hday]
      exact min_le_left _ _
    · have hj : j = 1 := by omega
      rw [hday, hj, hone]
      exact min_le_right _ _

/-- Steps after a first step are steps: the least of a least is the least of all. -/
theorem MonthsLater.trans {startAt middle t : Timestamp} {count k : ℕ}
    (hfirst : MonthsLater startAt count 1 middle) (hrest : MonthsLater middle count k t) :
    MonthsLater startAt count (k + 1) t := by
  obtain ⟨htime, day, hdate, hmem, hleast⟩ := hfirst
  obtain ⟨htime', day', hdate', hmem', hleast'⟩ := hrest
  have hindex : (dateAt middle).monthIndex = (dateAt startAt).monthIndex + count := by
    rw [hdate, monthIndex_dateOf]
    push_cast
    ring
  have hday : (dateAt middle).day = day := by rw [hdate]; rfl
  have hshift (j : ℕ) : (dateAt middle).monthIndex + j * count =
      (dateAt startAt).monthIndex + ((j + 1 : ℕ) : ℤ) * count := by
    rw [hindex]
    push_cast
    ring
  refine ⟨htime'.trans htime, day', ?_, ?_, ?_⟩
  · rw [hdate', hshift]
  · -- The day is that of the middle, or the length of a later month.
    obtain hmem' | ⟨j, hlow, hhigh, hmem'⟩ := hmem'
    · rw [hmem', hday]
      obtain hmem | ⟨j, hlow, hhigh, hmem⟩ := hmem
      · exact .inl hmem
      · exact .inr ⟨j, hlow, by omega, hmem⟩
    · exact .inr ⟨j + 1, by omega, by omega, by rw [hmem', hshift]⟩
  · intro other hother
    have hmiddle : day' ≤ day := hleast' (.inl hday.symm)
    obtain hother | ⟨j, hlow, hhigh, hother⟩ := hother
    · exact hmiddle.trans (hleast (.inl hother))
    · by_cases hj : j = 1
      · exact hmiddle.trans (hleast (.inr ⟨1, le_rfl, le_rfl, by rw [hother, hj]⟩))
      · refine hleast' (.inr ⟨j - 1, by omega, by omega, ?_⟩)
        rw [hother, hshift, Nat.sub_add_cancel hlow]

/-- The day of a boundary is at most that of the start. -/
theorem MonthsLater.day_le_start {startAt t : Timestamp} {count k : ℕ}
    (h : MonthsLater startAt count k t) : (dateAt t).day ≤ (dateAt startAt).day := by
  obtain ⟨-, day, hdate, -, hleast⟩ := h
  rw [hdate]
  exact hleast (.inl rfl)

/-- The day of a boundary is at most that of an earlier one. -/
theorem MonthsLater.day_le {startAt t t' : Timestamp} {count k k' : ℕ}
    (h : MonthsLater startAt count k t) (h' : MonthsLater startAt count k' t') (hle : k ≤ k') :
    (dateAt t').day ≤ (dateAt t).day := by
  obtain ⟨-, day, hdate, hmem, -⟩ := h
  obtain ⟨-, day', hdate', -, hleast'⟩ := h'
  rw [hdate, hdate']
  refine hleast' ?_
  obtain hmem | ⟨j, hlow, hhigh, hmem⟩ := hmem
  · exact .inl hmem
  · exact .inr ⟨j, hlow, by omega, hmem⟩

/-! ## Chains -/

section Chain

variable {rule : CheckedPeriodRule}

/-- A chain of one period more: a first period, and the chain that starts at its end. -/
theorem billingPeriodChain_succ_eq_ok {n : ℕ} {startAt : Timestamp} {periods : List BillingPeriod}
    (h : billingPeriodChain rule.val (n + 1) startAt = .ok periods) :
    ∃ period rest, periods = period :: rest ∧ period.startAt = startAt ∧
      nextEnd startAt rule.val = some period.endAt ∧ billingPeriodChain rule.val n period.endAt =
        .ok rest := by
  unfold billingPeriodChain at h
  obtain ⟨period, hperiod, h⟩ := bind_eq_ok.mp h
  obtain ⟨rest, hrest, h⟩ := bind_eq_ok.mp h
  obtain ⟨herror, -⟩ | ⟨found, hfound, hstart, hend⟩ := nextBillingPeriod_eq rule startAt
  · rw [hperiod] at herror
    cases herror
  · have heq : period = found := Except.ok.inj (hperiod.symm.trans hfound)
    refine ⟨period, rest, (Except.ok.inj h).symm, ?_, ?_, hrest⟩
    · rw [heq]
      exact hstart
    · rw [heq]
      exact hend

/-- A chain fails with an overflow only. -/
theorem billingPeriodChain_eq_error {n : ℕ} {startAt : Timestamp} {error : BillingPeriodPolicyError}
    (h : billingPeriodChain rule.val n startAt = .error error) : error = .overflow := by
  induction n generalizing startAt with
  | zero => cases h
  | succ n ih =>
    unfold billingPeriodChain at h
    obtain hperiod | ⟨period, -, h⟩ := bind_eq_error h
    · obtain ⟨herror, -⟩ | ⟨found, hfound, -⟩ := nextBillingPeriod_eq rule startAt
      · exact Except.error.inj (hperiod.symm.trans herror)
      · rw [hfound] at hperiod
        cases hperiod
    · obtain hrest | ⟨rest, -, h⟩ := bind_eq_error h
      · exact ih hrest
      · cases h

/-- A chain has as many periods as steps. -/
theorem length_billingPeriodChain {n : ℕ} {startAt : Timestamp} {periods : List BillingPeriod}
    (h : billingPeriodChain rule.val n startAt = .ok periods) : periods.length = n := by
  induction n generalizing startAt periods with
  | zero =>
    cases h
    rfl
  | succ n ih =>
    obtain ⟨period, rest, rfl, -, -, hrest⟩ := billingPeriodChain_succ_eq_ok h
    rw [List.length_cons, ih hrest]

/-- Each period starts at the end of the one before, and the first one at the start. -/
theorem contiguous_billingPeriodChain {n : ℕ} {startAt : Timestamp} {periods : List BillingPeriod}
    (h : billingPeriodChain rule.val n startAt = .ok periods) :
    periods.map (·.startAt) ++ [(periods.map (·.endAt)).getLastD startAt] =
      startAt :: periods.map (·.endAt) := by
  induction n generalizing startAt periods with
  | zero =>
    cases h
    rfl
  | succ n ih =>
    obtain ⟨period, rest, rfl, hstart, -, hrest⟩ := billingPeriodChain_succ_eq_ok h
    have htail := ih hrest
    rw [List.map_cons, List.map_cons, List.cons_append, hstart, List.getLastD_cons, htail]

/-- The rule of a chain's ends: what one step reaches, and what a step and the rest of a chain reach
together, every end of the chain has. -/
theorem ends_billingPeriodChain {E : Timestamp → ℕ → Timestamp → Prop}
    (hone : ∀ {s e : Timestamp}, nextEnd s rule.val = some e → E s 1 e)
    (htrans : ∀ {s m e : Timestamp} {k : ℕ}, E s 1 m → E m k e → E s (k + 1) e) {n : ℕ}
    {startAt : Timestamp} {periods : List BillingPeriod}
    (h : billingPeriodChain rule.val n startAt = .ok periods) {i : ℕ} {period : BillingPeriod}
    (hi : periods[i]? = some period) : E startAt (i + 1) period.endAt := by
  induction n generalizing startAt periods i with
  | zero =>
    cases h
    cases hi
  | succ n ih =>
    obtain ⟨first, rest, rfl, -, hfirst, hrest⟩ := billingPeriodChain_succ_eq_ok h
    cases i with
    | zero =>
      have heq : first = period := Option.some.inj hi
      rw [← heq]
      exact hone hfirst
    | succ i => exact htrans (hone hfirst) (ih hrest hi)

/-- The ends of a chain come one after the other. -/
theorem increasing_billingPeriodChain {n : ℕ} {startAt : Timestamp} {periods : List BillingPeriod}
    (h : billingPeriodChain rule.val n startAt = .ok periods) :
    (startAt :: periods.map (·.endAt)).Pairwise (· < ·) := by
  induction n generalizing startAt periods with
  | zero =>
    cases h
    exact List.pairwise_singleton _ _
  | succ n ih =>
    obtain ⟨period, rest, rfl, -, hend, hrest⟩ := billingPeriodChain_succ_eq_ok h
    have hlt : startAt < period.endAt := lt_nextEnd rule hend
    have htail := ih hrest
    refine List.pairwise_cons.mpr ⟨fun t ht => ?_, htail⟩
    obtain rfl | ht := List.mem_cons.mp ht
    · exact hlt
    · exact hlt.trans ((List.pairwise_cons.mp htail).1 t ht)

end Chain

/-! ## The closed form -/

/-- The closed form of a period rule: what lies `k` steps after a start. -/
def StepsLater (startAt : Timestamp) (k : ℕ) (t : Timestamp) : SubscriptionPeriodRule → Prop
  | .fixedDays days => t = startAt + k * days * microsPerDay
  | .calendarMonths months => MonthsLater startAt months k t

/-- One step of a rule. -/
theorem stepsLater_one {rule : CheckedPeriodRule} {s e : Timestamp}
    (h : nextEnd s rule.val = some e) : StepsLater s 1 e rule.val := by
  obtain ⟨rule, hrule⟩ := rule
  have hpos := CheckedPeriodRule.count_pos ⟨rule, hrule⟩
  cases rule with
  | fixedDays days =>
    show e = s + (1 : ℕ) * days * microsPerDay
    rw [checkedAdd_spec h, Nat.cast_one, one_mul]
  | calendarMonths months => exact monthsLater_one hpos h

/-- Steps of a rule after a first one. -/
theorem StepsLater.trans {rule : SubscriptionPeriodRule} {s m e : Timestamp} {k : ℕ}
    (hfirst : StepsLater s 1 m rule) (hrest : StepsLater m k e rule) :
    StepsLater s (k + 1) e rule := by
  cases rule with
  | fixedDays days =>
    have hmiddle : m = s + (1 : ℕ) * days * microsPerDay := hfirst
    have hend : e = m + k * days * microsPerDay := hrest
    show e = s + (k + 1 : ℕ) * days * microsPerDay
    rw [hend, hmiddle]
    push_cast
    ring
  | calendarMonths months => exact MonthsLater.trans hfirst hrest

/-- A period rule advances a billing period by its own count, and fails only where the end leaves
the range of timestamps. A chain of `n` periods is contiguous and increasing, its ends are those of
the closed form, and for calendar months the day of the month never increases along it. -/
theorem billing_period_chain_closed_form (rule : CheckedPeriodRule) (startAt : Timestamp) :
    (∀ error, nextBillingPeriod startAt rule.val = .error error → error = .overflow) ∧
      ∀ (n : ℕ) (periods : List BillingPeriod), billingPeriodChain rule.val n startAt =
        .ok periods → periods.length = n ∧
        (∀ period ∈ periods, period.startAt < period.endAt) ∧
        periods.map (·.startAt) ++ [(periods.map (·.endAt)).getLastD startAt] =
          startAt :: periods.map (·.endAt) ∧
        (startAt :: periods.map (·.endAt)).Pairwise (· < ·) ∧
        (∀ (i : ℕ) (period : BillingPeriod), periods[i]? = some period →
          StepsLater startAt (i + 1) period.endAt rule.val) ∧
        ∀ months, rule.val = .calendarMonths months →
          (startAt :: periods.map (·.endAt)).Pairwise fun t t' => (dateAt t').day ≤
            (dateAt t).day := by
  constructor
  · intro error herror
    obtain ⟨hoverflow, -⟩ | ⟨period, hperiod, -⟩ := nextBillingPeriod_eq rule startAt
    · exact Except.error.inj (herror.symm.trans hoverflow)
    · rw [hperiod] at herror
      cases herror
  · intro n periods h
    have hends {i : ℕ} {period : BillingPeriod} (hi : periods[i]? = some period) :
        StepsLater startAt (i + 1) period.endAt rule.val :=
      ends_billingPeriodChain (E := fun s k e => StepsLater s k e rule.val) stepsLater_one
        StepsLater.trans h hi
    refine ⟨length_billingPeriodChain h, fun period _ => period.start_lt_end,
      contiguous_billingPeriodChain h, increasing_billingPeriodChain h, fun i period => hends, ?_⟩
    -- Each end is on the least of the days so far, so a day that a short month has cut is not got
    -- back.
    intro months hmonths
    rw [hmonths] at hends
    refine List.pairwise_cons.mpr ⟨fun t ht => ?_, List.pairwise_map.mpr ?_⟩
    · obtain ⟨period, hperiod, rfl⟩ := List.mem_map.mp ht
      obtain ⟨i, hi⟩ := List.mem_iff_getElem?.mp hperiod
      exact MonthsLater.day_le_start (hends hi)
    · refine List.pairwise_iff_getElem.mpr fun i j hi hj hij => ?_
      exact MonthsLater.day_le (hends (List.getElem?_eq_getElem hi))
        (hends (List.getElem?_eq_getElem hj)) (by omega)

end SyrupRail
