import SyrupRail.Attempt.Fingerprint
import SyrupRail.Store.Timeline

/-!
# The time line of a discount

The counter of a discount, its status, and the price of its subscription stand in three columns of
two tables, and the promise that they keep is one about the charges: so many recurring charges at
the discounted price, and all later ones at the base price. A charge of a paid trial does not count.
An effect moves the three columns together or not at all (`DiscountStep`), and the charge that is
approved has the price of the row (`ScheduledFor`), so that the number of recurring charges of the
log determines the columns, and each charge has the price that its number gives.
-/

namespace SyrupRail

open Transactions Tx

/-! ## The terms of a discount -/

/-- Whether a number of recurring charges uses a discount up. -/
def SubscriptionDiscountDuration.isUsedUpBy (charges : ℕ) : SubscriptionDiscountDuration → Bool
  | .indefinite => false
  | .limitedMonths months => months ≤ charges

/-- The counter after a number of recurring charges: that of an indefinite discount stops at one. -/
def SubscriptionDiscountDuration.counter (charges : ℕ) : SubscriptionDiscountDuration → ℕ
  | .indefinite => min charges 1
  | .limitedMonths months => min charges months

/-- The price after a number of recurring charges. -/
def SubscriptionDiscount.centsAfter (charges : ℕ) (d : SubscriptionDiscount) : ℕ :=
  if d.duration.isUsedUpBy charges then d.baseAmount.cents else d.discountedAmount.cents

/-- The recurring charges of a subscription: its paid periods without the paid trial. -/
def Db.recurringCharges (db : Db) (subscriptionId : Id) : List PaidPeriod :=
  (db.paidPeriods subscriptionId).filter (·.start ≠ some .paidTrial)

/-- The columns of a discount after a number of recurring charges. -/
structure SubscriptionDiscount.Counts (d : SubscriptionDiscount) (charges : ℕ) : Prop where
  applied : d.periodsApplied = d.duration.counter charges
  completed : d.status = .completed ↔ d.duration.isUsedUpBy charges = true

/-- What the recurring charges of a subscription have done to its discount and to its price. -/
structure DiscountLine (db : Db) (s : Subscription) (d : SubscriptionDiscount) : Prop where
  counts : d.Counts (db.recurringCharges s.id).length
  price : s.amount.cents = d.centsAfter (db.recurringCharges s.id).length
  charges : ∀ i p, (db.recurringCharges s.id)[i]? = some p → p.start = none →
    p.charge = { s.amount with cents := d.centsAfter i }

/-- The discounts, each of one subscription, with their time lines, and the price of the others. -/
structure DiscountLines (db : Db) : Prop where
  nodup : (db.discounts.map (·.subscriptionId)).Nodup
  owned : ∀ d ∈ db.discounts, ∃ s ∈ db.subscriptions, s.id = d.subscriptionId ∧
    s.planKey = d.planKey
  line : ∀ d ∈ db.discounts, d.duration.isDuration = true → ∀ s ∈ db.subscriptions,
    s.id = d.subscriptionId → DiscountLine db s d
  full : ∀ s ∈ db.subscriptions, (∀ d ∈ db.discounts, d.subscriptionId ≠ s.id) →
    ∀ p ∈ db.paidPeriods s.id, p.start = none → p.charge = s.amount

/-! ## One charge -/

/-- The columns of a discount that no charge moves. -/
structure SubscriptionDiscount.SameTerms (d d' : SubscriptionDiscount) : Prop where
  subscriptionId : d'.subscriptionId = d.subscriptionId
  planKey : d'.planKey = d.planKey
  duration : d'.duration = d.duration
  baseAmount : d'.baseAmount = d.baseAmount
  discountedAmount : d'.discountedAmount = d.discountedAmount

/-- What the advance of the discount of a subscription does to a discount, and to the price. -/
structure DiscountStep (now : Timestamp) (subscriptionId : Id) (planKey : String) (db db' : Db)
    (d d' : SubscriptionDiscount) : Prop where
  same : d.SameTerms d'
  other : d.isOf subscriptionId planKey = false → d' = d
  counts : d.isOf subscriptionId planKey = true → ∀ n, d.Counts n → d'.Counts (n + 1) ∧
    ((d.centsAfter (n + 1) = d.centsAfter n ∧ db'.subscriptions = db.subscriptions) ∨
      (d.centsAfter (n + 1) = d.baseAmount.cents ∧
        db'.subscriptions = Table.updateWhere (·.id = subscriptionId)
          (·.withAmountCents now d.baseAmount.cents) db.subscriptions))

section Advance

variable {now : Timestamp} {subscriptionId : Id} {planKey : String} {db db' : Db}
variable {d : SubscriptionDiscount} {n : ℕ}

/-- A completed discount stays used up. -/
theorem SubscriptionDiscount.Counts.of_completed (h : d.Counts n)
    (hcompleted : d.status = .completed) :
    d.Counts (n + 1) ∧ d.centsAfter (n + 1) = d.centsAfter n := by
  have husedUp := h.completed.mp hcompleted
  cases hduration : d.duration with
  | indefinite =>
    rw [hduration] at husedUp
    cases husedUp
  | limitedMonths months =>
    have hle : months ≤ n := by
      rw [hduration] at husedUp
      exact of_decide_eq_true husedUp
    have hused (m : ℕ) (hm : n ≤ m) : d.duration.isUsedUpBy m = true := by
      rw [hduration]
      exact decide_eq_true (hle.trans hm)
    refine ⟨⟨?_, ?_⟩, ?_⟩
    · rw [h.applied, hduration]
      simp only [SubscriptionDiscountDuration.counter]
      omega
    · rw [hused _ (Nat.le_succ n)]
      exact ⟨fun _ => rfl, fun _ => hcompleted⟩
    · unfold SubscriptionDiscount.centsAfter
      rw [hused _ (Nat.le_succ n), hused n le_rfl]

/-- An indefinite discount that has counted its period counts no more. -/
theorem SubscriptionDiscount.Counts.of_indefinite (h : d.Counts n)
    (hduration : d.duration = .indefinite) (happlied : d.periodsApplied = 1) :
    d.Counts (n + 1) ∧ d.centsAfter (n + 1) = d.centsAfter n := by
  have happlied := h.applied.symm.trans happlied
  have hstatus := h.completed
  rw [hduration] at happlied hstatus
  refine ⟨⟨?_, ?_⟩, ?_⟩
  · rw [h.applied, hduration]
    simp only [SubscriptionDiscountDuration.counter] at happlied ⊢
    omega
  · rw [hduration]
    exact hstatus
  · simp [SubscriptionDiscount.centsAfter, hduration, SubscriptionDiscountDuration.isUsedUpBy]

/-- The first recurring charge of an indefinite discount. -/
theorem SubscriptionDiscount.Counts.first (h : d.Counts n) (hduration : d.duration = .indefinite)
    (hfirst : d.periodsApplied = 0) :
    ({ d with periodsApplied := 1 } : SubscriptionDiscount).Counts (n + 1) ∧
      d.centsAfter (n + 1) = d.centsAfter n := by
  have hstatus := h.completed
  have happlied := h.applied.symm.trans hfirst
  rw [hduration] at hstatus happlied
  refine ⟨⟨?_, ?_⟩, ?_⟩
  · rw [hduration]
    simp only [SubscriptionDiscountDuration.counter] at happlied ⊢
    omega
  · rw [hduration]
    exact hstatus
  · simp [SubscriptionDiscount.centsAfter, hduration, SubscriptionDiscountDuration.isUsedUpBy]

/-- A recurring charge of a limited discount that is not used up. -/
theorem SubscriptionDiscount.Counts.advanced {total : ℕ} (h : d.Counts n)
    (hduration : d.duration = .limitedMonths total) (hmore : d.periodsApplied < total) :
    (d.advanced now total).Counts (n + 1) ∧
      (d.periodsApplied + 1 < total → d.centsAfter (n + 1) = d.centsAfter n) ∧
      (d.periodsApplied + 1 = total → d.centsAfter (n + 1) = d.baseAmount.cents) := by
  have happlied := h.applied
  rw [hduration] at happlied
  have hn : d.periodsApplied = n := by
    simp only [SubscriptionDiscountDuration.counter] at happlied
    omega
  refine ⟨⟨?_, ?_⟩, fun hlt => ?_, fun heq => ?_⟩
  · show d.periodsApplied + 1 = d.duration.counter (n + 1)
    rw [hduration]
    simp only [SubscriptionDiscountDuration.counter]
    omega
  · show (if d.periodsApplied + 1 = total then SubscriptionDiscountStatus.completed else .active) =
      _ ↔ d.duration.isUsedUpBy (n + 1) = true
    rw [hduration]
    show _ ↔ decide (total ≤ n + 1) = true
    by_cases hlast : d.periodsApplied + 1 = total
    · rw [if_pos hlast, decide_eq_true_iff]
      exact ⟨fun _ => by omega, fun _ => rfl⟩
    · rw [if_neg hlast, decide_eq_true_iff]
      exact ⟨fun h => (by cases h), fun h => absurd h (by omega)⟩
  · have hbefore : d.duration.isUsedUpBy n = false := by
      rw [hduration]
      exact decide_eq_false (by omega)
    have hafter : d.duration.isUsedUpBy (n + 1) = false := by
      rw [hduration]
      exact decide_eq_false (by omega)
    unfold SubscriptionDiscount.centsAfter
    rw [hbefore, hafter]
  · have hafter : d.duration.isUsedUpBy (n + 1) = true := by
      rw [hduration]
      exact decide_eq_true (by omega)
    unfold SubscriptionDiscount.centsAfter
    rw [hafter, if_pos rfl]

/-- An advance changes the discounts row by row. -/
theorem DiscountAdvance.discounts (h : DiscountAdvance now subscriptionId planKey db db')
    (hnodup : (db.discounts.map (·.subscriptionId)).Nodup) :
    List.Forall₂ (DiscountStep now subscriptionId planKey db db') db.discounts db'.discounts := by
  have only {d d₀ : SubscriptionDiscount} (hd : d ∈ db.discounts)
      (hof : d.isOf subscriptionId planKey = true)
      (hfound : db.discounts.find? (·.isOf subscriptionId planKey) = some d₀) : d₀ = d := by
    have hof₀ := List.find?_some hfound
    refine Table.eq_of_key_eq hnodup (List.mem_of_find?_eq_some hfound) hd ?_
    rw [(of_decide_eq_true hof₀).1, (of_decide_eq_true hof).1]
  cases h with
  | none h =>
    refine List.forall₂_same.mpr fun d hd =>
      ⟨⟨rfl, rfl, rfl, rfl, rfl⟩, fun _ => rfl, fun hof n hn => ?_⟩
    have hfind : db.discounts.find? (·.isOf subscriptionId planKey) = some d :=
      Table.find?_eq_some_of_unique hd hof fun d' hd' hof' =>
        Table.eq_of_key_eq hnodup hd' hd
          (by rw [(of_decide_eq_true hof').1, (of_decide_eq_true hof).1])
    rcases h d hfind with hcompleted | ⟨hduration, happlied⟩
    · obtain ⟨hcounts, hprice⟩ := hn.of_completed hcompleted
      exact ⟨hcounts, .inl ⟨hprice, rfl⟩⟩
    · obtain ⟨hcounts, hprice⟩ := hn.of_indefinite hduration happlied
      exact ⟨hcounts, .inl ⟨hprice, rfl⟩⟩
  | indefinite d₀ found active duration first =>
    refine (List.forall₂_map_right_iff.mpr (List.forall₂_same.mpr fun d hd => ?_) :
      List.Forall₂ _ _ (Table.updateWhere _ _ _))
    by_cases hof : d.isOf subscriptionId planKey = true
    · obtain rfl := only hd hof found
      have hactive : d₀.status = .active := by
        cases hstatus : d₀.status with
        | active => rfl
        | completed => exact absurd hstatus active
      rw [if_pos (by simp [hof, hactive])]
      refine ⟨⟨rfl, rfl, rfl, rfl, rfl⟩, fun h => absurd (hof.symm.trans h) Bool.noConfusion,
        fun _ n hn => ?_⟩
      obtain ⟨hcounts, hprice⟩ := hn.first duration first
      exact ⟨hcounts, .inl ⟨hprice, rfl⟩⟩
    · rw [if_neg (by simp [hof])]
      exact ⟨⟨rfl, rfl, rfl, rfl, rfl⟩, fun _ => rfl, fun h => absurd h hof⟩
  | counted d₀ total found active duration more =>
    refine (List.forall₂_map_right_iff.mpr (List.forall₂_same.mpr fun d hd => ?_) :
      List.Forall₂ _ _ (Table.updateWhere _ _ _))
    by_cases hof : d.isOf subscriptionId planKey = true
    · obtain rfl := only hd hof found
      rw [if_pos hof]
      refine ⟨⟨rfl, rfl, rfl, rfl, rfl⟩, fun h => absurd (hof.symm.trans h) Bool.noConfusion,
        fun _ n hn => ?_⟩
      obtain ⟨hcounts, hprice, -⟩ := SubscriptionDiscount.Counts.advanced hn duration (by omega)
      exact ⟨hcounts, .inl ⟨hprice more, rfl⟩⟩
    · rw [if_neg hof]
      exact ⟨⟨rfl, rfl, rfl, rfl, rfl⟩, fun _ => rfl, fun h => absurd h hof⟩
  | completed d₀ total subscriptions found active duration last priced checks indexes =>
    refine (List.forall₂_map_right_iff.mpr (List.forall₂_same.mpr fun d hd => ?_) :
      List.Forall₂ _ _ (Table.updateWhere _ _ _))
    by_cases hof : d.isOf subscriptionId planKey = true
    · obtain rfl := only hd hof found
      rw [if_pos hof]
      refine ⟨⟨rfl, rfl, rfl, rfl, rfl⟩, fun h => absurd (hof.symm.trans h) Bool.noConfusion,
        fun _ n hn => ?_⟩
      obtain ⟨hcounts, -, hprice⟩ := SubscriptionDiscount.Counts.advanced hn duration (by omega)
      exact ⟨hcounts, .inr ⟨hprice last, priced⟩⟩
    · rw [if_neg hof]
      exact ⟨⟨rfl, rfl, rfl, rfl, rfl⟩, fun _ => rfl, fun h => absurd h hof⟩

/-- Without a discount the price stays. -/
theorem DiscountAdvance.subscriptions_of_none
    (h : DiscountAdvance now subscriptionId planKey db db')
    (hnone : ∀ d ∈ db.discounts, d.subscriptionId ≠ subscriptionId) :
    db'.subscriptions = db.subscriptions := by
  have absent {d : SubscriptionDiscount}
      (hfound : db.discounts.find? (·.isOf subscriptionId planKey) = some d) : False := by
    have hof := List.find?_some hfound
    exact hnone d (List.mem_of_find?_eq_some hfound) (of_decide_eq_true hof).1
  cases h with
  | none _ => rfl
  | indefinite d found => exact (absent found).elim
  | counted d total found => exact (absent found).elim
  | completed d total subscriptions found => exact (absent found).elim

end Advance

/-! ## The laws -/

section Laws

variable {now : Timestamp} {db db' : Db} {s s' t : Subscription} {d d' : SubscriptionDiscount}

/-- The terms give the prices. -/
theorem SubscriptionDiscount.SameTerms.centsAfter (h : d.SameTerms d') (n : ℕ) :
    d'.centsAfter n = d.centsAfter n := by
  unfold SubscriptionDiscount.centsAfter
  rw [h.duration, h.baseAmount, h.discountedAmount]

/-- A time line that an effect does not reach. -/
theorem DiscountLine.same (h : DiscountLine db s d) (hs : s.SamePeriod s')
    (hlog : db'.paidPeriods s.id = db.paidPeriods s.id) : DiscountLine db' s' d := by
  have hcharges : db'.recurringCharges s'.id = db.recurringCharges s.id := by
    unfold Db.recurringCharges
    rw [hs.id, hlog]
  refine ⟨?_, ?_, ?_⟩
  · rw [hcharges]
    exact h.counts
  · rw [hcharges, hs.amount]
    exact h.price
  · rw [hcharges, hs.amount]
    exact h.charges

/-- The time lines of the discounts do not change with neither side. -/
theorem DiscountLines.same (h : DiscountLines db)
    (hsubscriptions : List.Forall₂ Subscription.SamePeriod db.subscriptions db'.subscriptions)
    (hlog : ∀ id, db'.paidPeriods id = db.paidPeriods id)
    (hdiscounts : db'.discounts = db.discounts) :
    DiscountLines db' := by
  refine ⟨by rw [hdiscounts]; exact h.nodup, fun d hd => ?_, fun d hd hduration s' hs' hid => ?_,
    fun s' hs' hnone p hp hrenewal => ?_⟩
  · rw [hdiscounts] at hd
    obtain ⟨s, hs, hid, hplan⟩ := h.owned d hd
    obtain ⟨s', hs', hsame⟩ := Table.exists_of_mem_left hsubscriptions hs
    exact ⟨s', hs', hsame.id.trans hid, (congrArg PlanOwner.planKey hsame.owner).trans hplan⟩
  · rw [hdiscounts] at hd
    obtain ⟨s, hs, hsame⟩ := Table.exists_of_mem_right hsubscriptions hs'
    exact (h.line d hd hduration s hs (hsame.id.symm.trans hid)).same hsame (hlog s.id)
  · obtain ⟨s, hs, hsame⟩ := Table.exists_of_mem_right hsubscriptions hs'
    rw [hsame.amount]
    rw [hdiscounts, hsame.id] at hnone
    rw [hlog, hsame.id] at hp
    exact h.full s hs hnone p hp hrenewal

/-- The charge that renews a row has its price. -/
theorem RenewedRow.priced {r : SubscriptionChargeReservation} {a : PaymentAttempt}
    (h : RenewedRow now r a db db' s s') (hvalid : db.Valid) (hscheduled : Scheduled db) :
    a.amount = s.amount := by
  obtain ⟨t, ht, hfor⟩ := hscheduled a h.attempt h.charge
  have hid : t.id = s.id := Option.some.inj (hfor.ofSubscription.symm.trans h.ofSubscription)
  obtain rfl :=
    Table.eq_of_key_eq (nodup_id_of_subscriptionIndexes hvalid.subscriptions) ht h.mem hid
  obtain ⟨period, htarget, -, -, hamount⟩ := hfor.period
  rw [h.target, r.target_period] at htarget
  obtain rfl := Option.some.inj htarget
  exact hamount h.due.symm

/-- A renewal is one more recurring charge. -/
theorem RenewedRow.recurringCharges {r : SubscriptionChargeReservation} {a : PaymentAttempt}
    (h : RenewedRow now r a db db' s s') :
    db'.recurringCharges s'.id = db.recurringCharges s.id ++
      [⟨a.id, a.amount, r.period, none⟩] := by
  unfold Db.recurringCharges
  rw [h.id, h.log, List.filter_append]
  rfl

/-- The time line of the discount of a renewed row goes on with its charge. -/
theorem DiscountLine.renewed {r : SubscriptionChargeReservation} {a : PaymentAttempt}
    {moved counted : Db} {planKey : String} (h : DiscountLine db s d)
    (hrow : RenewedRow now r a db db' s s') (hpriced : a.amount = s.amount)
    (hstep : DiscountStep now s.id planKey moved counted d d') (hof : d.isOf s.id planKey = true)
    (hkept : counted.subscriptions = moved.subscriptions → s'.amount = s.amount)
    (hmoved : ∀ cents, counted.subscriptions =
      Table.updateWhere (·.id = s.id) (·.withAmountCents now cents)
      moved.subscriptions → s'.amount = { s.amount with cents }) : DiscountLine db' s' d' := by
  obtain ⟨hcounts, hprice⟩ := hstep.counts hof _ h.counts
  have hcents := hstep.same.centsAfter
  have hamount : s'.amount =
      { s.amount with cents := d.centsAfter ((db.recurringCharges s.id).length + 1) } := by
    rcases hprice with ⟨hsame, hrows⟩ | ⟨hbase, hrows⟩
    · rw [hkept hrows, hsame, ← h.price]
    · rw [hmoved _ hrows, hbase]
  have hlength : (db'.recurringCharges s'.id).length = (db.recurringCharges s.id).length + 1 := by
    rw [hrow.recurringCharges, List.length_append, List.length_singleton]
  refine ⟨by rw [hlength]; exact hcounts, by rw [hlength, hcents,
    hamount], fun i p hp hrenewal => ?_⟩
  rw [hcents, hamount]
  rw [hrow.recurringCharges] at hp
  rcases lt_or_ge i (db.recurringCharges s.id).length with hlt | hge
  · rw [List.getElem?_append_left hlt] at hp
    exact h.charges i p hp hrenewal
  · -- The charge has the price that the row had before it.
    rw [List.getElem?_append_right hge, List.getElem?_singleton] at hp
    split_ifs at hp with hzero
    obtain rfl := Option.some.inj hp
    have hi : i = (db.recurringCharges s.id).length := by omega
    show a.amount = { s.amount with cents := d.centsAfter i }
    rw [hpriced, hi, ← h.price]

/-- A renewal keeps the time lines of the discounts. -/
theorem DiscountLines.renewed {r : SubscriptionChargeReservation} {a : PaymentAttempt}
    (h : DiscountLines db) (hrow : RenewedRow now r a db db' s s') (hvalid : db.Valid)
    (hscheduled : Scheduled db) : DiscountLines db' := by
  obtain ⟨moved, counted, hmoved, hadvance, hcounted, hkept, hpriced⟩ := hrow.discount
  have hids := nodup_id_of_subscriptionIndexes hvalid.subscriptions
  have hsteps := hadvance.discounts (by rw [hmoved]; exact h.nodup)
  rw [hmoved, ← hcounted] at hsteps
  have hs' : s' ∈ db'.subscriptions := by
    rw [hrow.rows]
    exact Table.mem_replaceBy_self hrow.mem
  refine ⟨?_, fun d' hd' => ?_, fun d' hd' hduration t ht hid => ?_,
    fun t ht hnone p hp hrenewal => ?_⟩
  · have hkeys : db'.discounts.map (·.subscriptionId) = db.discounts.map (·.subscriptionId) := by
      rw [← List.filterMap_eq_map']
      exact Table.filterMap_eq_of_forall₂ (hsteps.imp fun d d' hstep =>
        congrArg some hstep.same.subscriptionId)
    rw [hkeys]
    exact h.nodup
  · obtain ⟨d, hd, hstep⟩ := Table.exists_of_mem_right hsteps hd'
    obtain ⟨t, ht, hid, hplan⟩ := h.owned d hd
    rw [hstep.same.subscriptionId, hstep.same.planKey]
    by_cases hts : t.id = s.id
    · obtain rfl := Table.eq_of_key_eq hids ht hrow.mem hts
      exact ⟨s', hs', hrow.id.trans hid, (congrArg PlanOwner.planKey hrow.owner).trans hplan⟩
    · refine ⟨t, ?_, hid, hplan⟩
      rw [hrow.rows]
      exact Table.mem_replaceBy_of_ne ht hts
  · obtain ⟨d, hd, hstep⟩ := Table.exists_of_mem_right hsteps hd'
    rw [hstep.same.duration] at hduration
    rw [hstep.same.subscriptionId] at hid
    rcases Table.mem_replaceBy (hrow.rows ▸ ht) with ⟨ht, hne⟩ | rfl
    · have hof : d.isOf s.id s.planKey = false := decide_eq_false fun h => hne (hid.trans h.1)
      rw [hstep.other hof]
      exact (h.line d hd hduration t ht hid).same (.refl t) (hrow.othersLog t.id hne)
    · have hid : s.id = d.subscriptionId := hrow.id.symm.trans hid
      obtain ⟨u, hu, huid, hplan⟩ := h.owned d hd
      obtain rfl := Table.eq_of_key_eq hids hu hrow.mem (huid.trans hid.symm)
      exact (h.line d hd hduration u hu hid).renewed hrow (hrow.priced hvalid hscheduled) hstep
        (decide_eq_true ⟨hid.symm, hplan.symm⟩) hkept hpriced
  · have hbefore (u : Subscription) (hu : u.id = t.id) : ∀ d ∈ db.discounts, d.subscriptionId ≠
        u.id := by
      intro d hd hdu
      obtain ⟨d', hd', hstep⟩ := Table.exists_of_mem_left hsteps hd
      exact hnone d' hd' (hstep.same.subscriptionId.trans (hdu.trans hu))
    rcases Table.mem_replaceBy (hrow.rows ▸ ht) with ⟨ht, hne⟩ | rfl
    · rw [hrow.othersLog t.id hne] at hp
      exact h.full t ht (hbefore t rfl) p hp hrenewal
    · have hnone := hbefore s hrow.id.symm
      have hsame : t.amount = s.amount :=
        hkept (hadvance.subscriptions_of_none (by rw [hmoved]; exact hnone))
      rw [hsame]
      rw [hrow.id, hrow.log] at hp
      rcases List.mem_append.mp hp with hp | hp
      · exact h.full s hrow.mem hnone p hp hrenewal
      · rw [List.mem_singleton.mp hp]
        exact hrow.priced hvalid hscheduled

/-- The time line of a discount starts with its enrollment. -/
theorem discountLine_enrolled {a : PaymentAttempt} {offer : SubscriptionOffer}
    {discount : SubscriptionEnrollmentDiscountSnapshot} {period : BillingPeriod}
    {appliedAt : Timestamp} (hlog : db'.paidPeriods s.id =
      [⟨a.id, a.amount, period, some (activationProjection offer (some discount)).phase⟩])
    (hamount : s.amount.cents =
      (activationProjection offer (some discount)).recurringChargeAfterInitial.cents) :
    DiscountLine db' s (newDiscount a s.id s.planKey appliedAt
      (activationProjection offer (some discount)).discountPeriodsApplied discount) := by
  have hcharges : db'.recurringCharges s.id =
      [⟨a.id, a.amount, period, some (activationProjection offer (some discount)).phase⟩].filter
        (·.start ≠ some .paidTrial) := by
    unfold Db.recurringCharges
    rw [hlog]
  -- What an enrollment has charged is one recurring period, or a trial, which is none.
  have hlength : (db'.recurringCharges s.id).length =
      (activationProjection offer (some discount)).discountPeriodsApplied := by
    rw [hcharges]
    unfold activationProjection fromExpectedTerms
    cases offer.start with
    | recurringImmediately => rfl
    | paidTrial charge period => rfl
  -- The enrollment counts one period or none, and a limited discount promises one at least.
  have hperiods : (activationProjection offer (some discount)).discountPeriodsApplied ≤ 1 := by
    unfold activationProjection fromExpectedTerms
    cases offer.start with
    | recurringImmediately => exact le_rfl
    | paidTrial charge period => exact Nat.zero_le 1
  have hrecurring : (activationProjection offer (some discount)).recurringChargeAfterInitial =
      if discount.snapshot.duration.isUsedUpBy
        (activationProjection offer (some discount)).discountPeriodsApplied then
        discount.snapshot.baseCharge else discount.snapshot.discountedCharge := by
    unfold activationProjection
    rw [fromExpectedTerms_charge]
    cases hmonths : discount.snapshot.duration with
    | indefinite => simp [chargeAfterInitial, hmonths, SubscriptionDiscountDuration.isUsedUpBy]
    | limitedMonths months =>
      simp [chargeAfterInitial, hmonths, SubscriptionDiscountDuration.isUsedUpBy]
  have hduration := discount.snapshot.duration_valid
  generalize (activationProjection offer (some discount)).discountPeriodsApplied = periods at *
  refine ⟨⟨?_, ?_⟩, ?_, fun i p hp hrenewal => ?_⟩
  · rw [hlength]
    show periods = discount.snapshot.duration.counter periods
    cases hmonths : discount.snapshot.duration with
    | indefinite =>
      simp only [SubscriptionDiscountDuration.counter]
      omega
    | limitedMonths months =>
      rw [hmonths] at hduration
      simp only [SubscriptionDiscountDuration.isDuration, Bool.and_eq_true,
        decide_eq_true_eq] at hduration
      simp only [SubscriptionDiscountDuration.counter]
      omega
  · rw [hlength]
    show (newDiscount a s.id s.planKey appliedAt periods discount).status = .completed ↔
      discount.snapshot.duration.isUsedUpBy periods = true
    unfold newDiscount
    cases hmonths : discount.snapshot.duration with
    | indefinite => simp [SubscriptionDiscountDuration.isUsedUpBy]
    | limitedMonths months =>
      rw [hmonths] at hduration
      simp only [SubscriptionDiscountDuration.isDuration, Bool.and_eq_true,
        decide_eq_true_eq] at hduration
      have hle : months ≤ periods ↔ periods = months := by omega
      by_cases heq : periods = months
      · simp [SubscriptionDiscountDuration.isUsedUpBy, heq]
      · simp [SubscriptionDiscountDuration.isUsedUpBy, heq, hle]
  · rw [hlength, hamount, hrecurring]
    show (if discount.snapshot.duration.isUsedUpBy periods then discount.snapshot.baseCharge
        else discount.snapshot.discountedCharge).cents =
      if discount.snapshot.duration.isUsedUpBy periods then discount.snapshot.baseCharge.cents
        else discount.snapshot.discountedCharge.cents
    exact apply_ite Money.cents _ _ _
  · have hmem := List.mem_of_getElem? hp
    rw [hcharges] at hmem
    rw [List.mem_singleton.mp (List.mem_filter.mp hmem).1] at hrenewal
    cases hrenewal

/-- An enrollment keeps the time lines of the discounts. -/
theorem DiscountLines.enrolled {a : PaymentAttempt} {period : BillingPeriod}
    {phase : SubscriptionPhase} (h : DiscountLines db) (hrow : EnrolledRow a db db' s period phase)
    (hlines : Timelines db) :
    DiscountLines db' := by
  obtain ⟨offer, discount, appliedAt, unclaimed, claimed, hphase, hamount, hkept, hinitial,
    hclaimed⟩ := hrow.discount
  have hlog : db'.paidPeriods s.id = [⟨a.id, a.amount, period, some phase⟩] := by
    rw [hrow.log, (hlines.unknown s.id hrow.fresh).2, List.nil_append]
  -- The new row has no discount of before, and the rows of before keep theirs and their log.
  have hold {d : SubscriptionDiscount} (hd : d ∈ db.discounts) : d.subscriptionId ≠ s.id := by
    obtain ⟨t, ht, hid, -⟩ := h.owned d hd
    exact hid ▸ hrow.fresh t ht
  have howned {d : SubscriptionDiscount} (hd : d ∈ db.discounts) :
      ∃ t ∈ db'.subscriptions, t.id = d.subscriptionId ∧ t.planKey = d.planKey := by
    obtain ⟨t, ht, hids⟩ := h.owned d hd
    refine ⟨t, ?_, hids⟩
    rw [hrow.rows]
    exact List.mem_cons_of_mem _ ht
  have hline {d : SubscriptionDiscount} (hd : d ∈ db.discounts)
      (hduration : d.duration.isDuration = true) {t : Subscription} (ht : t ∈ db'.subscriptions)
      (hid : t.id = d.subscriptionId) : DiscountLine db' t d := by
    rcases List.mem_cons.mp (hrow.rows ▸ ht) with rfl | ht
    · exact absurd hid.symm (hold hd)
    · exact (h.line d hd hduration t ht hid).same (.refl t) (hrow.othersLog t.id (hrow.fresh t ht))
  have hfull {t : Subscription} (hnone : ∀ d ∈ db.discounts, d.subscriptionId ≠ t.id)
      (ht : t ∈ db'.subscriptions) {p : PaidPeriod} (hp : p ∈ db'.paidPeriods t.id)
      (hrenewal : p.start = none) : p.charge = t.amount := by
    rcases List.mem_cons.mp (hrow.rows ▸ ht) with rfl | ht
    · rw [hlog] at hp
      rw [List.mem_singleton.mp hp] at hrenewal
      cases hrenewal
    · rw [hrow.othersLog t.id (hrow.fresh t ht)] at hp
      exact h.full t ht hnone p hp hrenewal
  cases hinitial with
  | none =>
    rw [hkept] at hclaimed
    exact ⟨by rw [hclaimed]; exact h.nodup, fun d hd => howned (hclaimed ▸ hd),
      fun d hd hduration t ht hid => hline (hclaimed ▸ hd) hduration ht hid,
      fun t ht hnone p hp hrenewal => hfull (by rwa [hclaimed] at hnone) ht hp hrenewal⟩
  | applied discount new claims =>
    have hdiscounts : db'.discounts = newDiscount a s.id s.planKey appliedAt
        (activationProjection offer (some discount)).discountPeriodsApplied discount ::
            db.discounts := by
      rw [hclaimed, ← hkept]
    refine ⟨?_, fun d hd => ?_, fun d hd hduration t ht hid => ?_,
      fun t ht hnone p hp hrenewal => ?_⟩
    · rw [hdiscounts, List.map_cons, List.nodup_cons]
      refine ⟨fun hmem => ?_, h.nodup⟩
      obtain ⟨d, hd, hid⟩ := List.mem_map.mp hmem
      exact hold hd hid
    · rcases List.mem_cons.mp (hdiscounts ▸ hd) with rfl | hd
      · refine ⟨s, ?_, rfl, rfl⟩
        rw [hrow.rows]
        exact List.mem_cons_self
      · exact howned hd
    · rcases List.mem_cons.mp (hdiscounts ▸ hd) with rfl | hd
      · rcases List.mem_cons.mp (hrow.rows ▸ ht) with rfl | ht
        · exact discountLine_enrolled (hphase ▸ hlog) hamount
        · exact absurd hid (hrow.fresh t ht)
      · exact hline hd hduration ht hid
    · refine hfull (fun d hd => hnone d ?_) ht hp hrenewal
      rw [hdiscounts]
      exact List.mem_cons_of_mem _ hd

/-- An effect keeps the time lines of the discounts. -/
theorem Effect.discountLines (h : Effect now db db') (hvalid : db.Valid) (hscheduled : Scheduled db)
    (hlines : Timelines db) (hdiscounts : DiscountLines db) : DiscountLines db' := by
  cases h.paymentStep hvalid with
  | kept _ log subscriptions discounts => exact hdiscounts.same subscriptions log discounts
  | renewed r a evidence renewed =>
    obtain ⟨s, s', hrow⟩ := renewed.row hvalid
    exact hdiscounts.renewed hrow hvalid hscheduled
  | enrolled r a evidence enrolled =>
    obtain ⟨s, period, phase, hrow⟩ := enrolled.row hvalid
    exact hdiscounts.enrolled hrow hlines

end Laws

/-- The time lines of the discounts are kept along every run. -/
theorem law_discountLines : Db.Law fun db => (Scheduled db ∧ Timelines db) ∧ DiscountLines db :=
  law_timelines.and
    (fun db h => by
      refine ⟨by simp [h.discounts], fun d hd => ?_, fun d hd => ?_, fun s hs => ?_⟩
      · simp [h.discounts] at hd
      · simp [h.discounts] at hd
      · simp [h.subscriptions] at hs)
    (fun db now _ _ _ h =>
      (h.same (samePeriod_refl _) (fun _ => rfl) rfl : DiscountLines (db.at now)))
    (fun db db' _ hquiet _ h => by
      obtain ⟨attempts, ledger, rfl⟩ := hquiet.frame
      exact h.same (samePeriod_refl _) (fun _ => rfl) rfl)
    (fun _ _ hvalid heffect hlines h => heffect.discountLines hvalid hlines.1 hlines.2 h)

/-- A statement that stores the subscriptions can only violate their constraints. -/
theorem onSubscriptions_ne_invalid (f : List Subscription → List Subscription) (db : Db) :
    onSubscriptions (fun subscriptions => (storeSubscriptions (f subscriptions)).map (·, ())) db ≠
      .error invalidApplicationState := by
  intro h
  have hstore : storeSubscriptions (f db.subscriptions) = .error invalidApplicationState := by
    unfold onSubscriptions statement at h
    dsimp only at h
    cases hrows : storeSubscriptions (f db.subscriptions) with
    | ok rows =>
      rw [hrows] at h
      cases h
    | error e =>
      rw [hrows] at h
      exact congrArg Except.error (Except.error.inj h)
  unfold storeSubscriptions at hstore
  split_ifs at hstore
  · cases Except.error.inj hstore
  · cases Except.error.inj hstore

/-- While its columns agree with a number of charges, the advance of a discount rejects no state. -/
theorem SubscriptionDiscount.Counts.advances {db : Db} {d : SubscriptionDiscount} {n : ℕ}
    (h : d.Counts n) (now : Timestamp)
    (hfind : db.discounts.find? (·.isOf d.subscriptionId d.planKey) = some d) :
    advanceDiscountAfterSuccessfulCharge now d.subscriptionId d.planKey db ≠
      .error invalidApplicationState := by
  have hget (f : Db → Program Unit) : (get >>= f : Program Unit) db = f db db := rfl
  have hmodify (f : Db → Db) (g : PUnit → Program Unit) : ((modify f >>= g : Program Unit) db) =
      g ⟨⟩ (f db) :=
    rfl
  have happlied := h.applied
  have hcompleted := h.completed
  intro herror
  unfold advanceDiscountAfterSuccessfulCharge at herror
  rw [hget] at herror
  have hfound : db.discounts.find? (fun d' => decide (d'.subscriptionId = d.subscriptionId ∧
      d'.planKey = d.planKey)) = some d := hfind
  simp only [hfound] at herror
  by_cases hstatus : d.status = .completed
  · rw [if_pos hstatus] at herror
    cases herror
  rw [if_neg hstatus] at herror
  have hstill := mt hcompleted.mpr hstatus
  cases hduration : d.duration with
  | indefinite =>
    rw [hduration] at happlied
    simp only [hduration] at herror
    have hone : d.periodsApplied = 0 ∨ d.periodsApplied = 1 := by
      simp only [SubscriptionDiscountDuration.counter] at happlied
      omega
    rcases hone with hzero | hcounted
    · rw [if_pos hzero] at herror
      cases herror
    · rw [if_neg (by omega), if_pos hcounted] at herror
      cases herror
  | limitedMonths total =>
    rw [hduration] at happlied hstill
    simp only [hduration] at herror
    have hmore : ¬ total ≤ d.periodsApplied := by
      have hle : ¬ total ≤ n := fun hle => hstill (decide_eq_true hle)
      simp only [SubscriptionDiscountDuration.counter] at happlied
      omega
    rw [if_neg hmore, hmodify] at herror
    by_cases hlast : d.periodsApplied + 1 = total
    · -- Only the storing of the price is left, and its constraints are other errors.
      rw [if_pos hlast] at herror
      exact onSubscriptions_ne_invalid _ _ herror
    · rw [if_neg hlast] at herror
      cases herror

/-- A discount is charged for the promised number of periods. After every run of the engine, the
counter of a discount, its status, and the price of its subscription are the ones that the number of
recurring charges of the log gives; the renewals that this number counts below the promised one were
charged the discounted price, the later ones the base price; a subscription without a discount was
always charged its price; and the next advance of a discount does not find a state that it
rejects. -/
theorem discount_charged_as_promised {db₀ : Db} (hfresh : db₀.Fresh) (steps : List (ℕ × Op)) :
    let db := run execStore db₀ steps
    (∀ d ∈ db.discounts, d.duration.isDuration = true →
      (∃ s ∈ db.subscriptions, s.id = d.subscriptionId ∧ s.planKey = d.planKey ∧
        DiscountLine db s d) ∧
      ∀ now (moved : Db), moved.discounts = db.discounts →
        advanceDiscountAfterSuccessfulCharge now d.subscriptionId d.planKey moved ≠
          .error invalidApplicationState) ∧
    (∀ s ∈ db.subscriptions, (∀ d ∈ db.discounts, d.subscriptionId ≠ s.id) →
      ∀ p ∈ db.paidPeriods s.id, p.start = none → p.charge = s.amount) := by
  intro db
  obtain ⟨-, -, hlines⟩ := law_discountLines.holds hfresh steps
  refine ⟨fun d hd hduration => ?_, hlines.full⟩
  obtain ⟨s, hs, hid, hplan⟩ := hlines.owned d hd
  have hline := hlines.line d hd hduration s hs hid
  refine ⟨⟨s, hs, hid, hplan, hline⟩, fun now moved hmoved => hline.counts.advances now ?_⟩
  rw [hmoved]
  exact Table.find?_eq_some_of_unique hd (decide_eq_true ⟨rfl, rfl⟩) fun d' hd' hof =>
    Table.eq_of_key_eq hlines.nodup hd' hd (of_decide_eq_true hof).1

/-- A discount of two months. -/
def twoMonthsDiscount : SubscriptionEnrollmentDiscountSnapshot where
  claimId := 1
  codeId := 1
  snapshot :=
    { code := "SPRING"
      label := none
      kind := .amountOffCents 400
      duration := .limitedMonths 2
      baseCharge := ⟨1000, "USD"⟩
      discountedCharge := ⟨600, "USD"⟩
      code_valid := by decide
      kind_valid := by decide
      duration_valid := by decide
      base_valid := by decide
      discounted_valid := by decide
      currency_eq := rfl
      discounted_le := by decide }

/-- A store with its claim. -/
def claimedStore : Db :=
  { accountStore with discountClaims := [⟨1, 1, 1, "plan", .saved, none, none, none⟩] }

/-- An enrollment with the discount, and its first renewal. -/
def discountedEnrollment : List (ℕ × Op) :=
  let renewal := { firstRenewal with amount := ⟨600, "USD"⟩ }
  [(0, .reserveOther (enrollmentAttempt (some twoMonthsDiscount))), (0, .admitEnrollment 1 1),
    (0, .applyApproved ⟨1, 1, 1⟩ true .disabled (.initial enrollmentReservation)
      (approvedEvidence "tx-1")),
    ((30 * microsPerDay).toNat,
      .reserveRenewal .disabled .live accountGateway 2 ⟨1, 1, 30 * microsPerDay⟩),
    (0, .admitPrepared .disabled renewal),
    (0, .applyApproved ⟨2, 2, 2⟩ true .disabled (.charge renewal) (approvedEvidence "tx-2"))]

/-- The second month completes the discount. -/
theorem discount_charged_as_promised_twoMonths :
    let db := run execStore claimedStore discountedEnrollment
    ∃ d ∈ db.discounts, d.status = .completed ∧ ∃ s ∈ db.subscriptions, s.amount.cents = 1000 ∧
      DiscountLine db s d ∧ (db.recurringCharges s.id).length = 2 := by
  intro db
  have hfresh : claimedStore.Fresh := ⟨rfl, rfl, rfl, rfl, rfl, rfl⟩
  have hpromised := (discount_charged_as_promised hfresh discountedEnrollment).1
  have hrows : (db.discounts.any fun d => d.status = .completed ∧ d.duration.isDuration = true ∧
      ∀ s ∈ db.subscriptions, s.amount.cents = 1000 ∧ (db.recurringCharges s.id).length = 2) =
          true := by
    decide +kernel
  obtain ⟨d, hd, hrow⟩ := List.any_eq_true.mp hrows
  obtain ⟨hstatus, hduration, hprice⟩ := of_decide_eq_true hrow
  obtain ⟨⟨s, hs, -, -, hline⟩, -⟩ := hpromised d hd hduration
  exact ⟨d, hd, hstatus, s, hs, (hprice s hs).1, hline, (hprice s hs).2⟩

end SyrupRail
