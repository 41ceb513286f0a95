import SyrupRail.Store.Ending

/-!
# One source of access

A plan of a subscriber has at most one source of access at a time: a current paid subscription or an
active grant. Both may only stop being one as time passes, so it is enough that an enrollment and a
grant are the only steps that add a source, and that each has found none at its own time. The
sources are counted, so that the law is one inequality, and entitlement and its write guard read it
off.
-/

namespace SyrupRail

open Transactions Tx

/-! ## Sources of access -/

/-- The number of current paid subscriptions of an owner. -/
def currentCount (t : Timestamp) (owner : PlanOwner) (db : Db) : ℕ :=
  db.subscriptions.countP fun s => s.owner = owner ∧ s.isCurrent t

/-- The number of active grants of an owner. -/
def activeCount (t : Timestamp) (owner : PlanOwner) (db : Db) : ℕ :=
  db.grants.countP fun g => g.owner = owner ∧ g.isActive t

/-- At most one source of access for each owner. -/
def Exclusive (t : Timestamp) (db : Db) : Prop :=
  ∀ owner, currentCount t owner db + activeCount t owner db ≤ 1

/-- The law of a store: its grants have started, and its sources of access exclude each other. -/
structure AccessExclusive (db : Db) : Prop where
  started : ∀ g ∈ db.grants, g.startsAt ≤ db.clock
  exclusive : Exclusive db.clock db

section Time

variable {t t' : Timestamp} {owner : PlanOwner} {db : Db}

/-- A subscription that is current was current before. -/
theorem Subscription.isCurrent_of_le {s : Subscription} (hle : t ≤ t') (h : s.isCurrent t' = true) :
    s.isCurrent t = true := by
  rcases Bool.or_eq_true_iff.mp h with hbilled | hcanceled
  · exact Bool.or_eq_true_iff.mpr (.inl hbilled)
  · obtain ⟨hstatus, hend⟩ := Bool.and_eq_true_iff.mp hcanceled
    have hend : t < s.currentPeriodEndAt := lt_of_le_of_lt hle (of_decide_eq_true hend)
    exact Bool.or_eq_true_iff.mpr (.inr (Bool.and_eq_true_iff.mpr ⟨hstatus, decide_eq_true hend⟩))

/-- A grant that is active was active since it started. -/
theorem SubscriptionGrant.isActive_of_le {g : SubscriptionGrant} (hstarted : g.startsAt ≤ t)
    (hle : t ≤ t') (h : g.isActive t' = true) : g.isActive t = true := by
  obtain ⟨-, hend, hrevoked⟩ := of_decide_eq_true h
  exact decide_eq_true ⟨hstarted, lt_of_le_of_lt hle hend, hrevoked⟩

/-- Time only ends sources of access. -/
theorem AccessExclusive.later (h : AccessExclusive db) (hle : db.clock ≤ t) : Exclusive t db := by
  intro owner
  have hcurrent : currentCount t owner db ≤ currentCount db.clock owner db :=
    List.countP_mono_left fun s _ hs =>
      have ⟨howner, hs⟩ := of_decide_eq_true hs
      decide_eq_true ⟨howner, s.isCurrent_of_le hle hs⟩
  have hactive : activeCount t owner db ≤ activeCount db.clock owner db :=
    List.countP_mono_left fun g hg hactive =>
      have ⟨howner, hactive⟩ := of_decide_eq_true hactive
      decide_eq_true ⟨howner, SubscriptionGrant.isActive_of_le (h.started g hg) hle hactive⟩
  have := h.exclusive owner
  omega

/-- An owner for whom the check finds no current subscription has none. -/
theorem currentCount_eq_zero (h : currentSubscriptionExists t owner db = false) :
    currentCount t owner db = 0 :=
  List.countP_eq_zero.mpr fun s hs hcurrent => List.any_eq_false.mp h s hs hcurrent

/-- An owner for whom the check finds no active grant has none. -/
theorem activeCount_eq_zero (h : activeGrantExists t owner db = false) :
    activeCount t owner db = 0 :=
  List.countP_eq_zero.mpr fun g hg hactive => List.any_eq_false.mp h g hg hactive

end Time

/-! ## Steps -/

section Steps

variable {now : Timestamp} {db db' : Db}

/-- A change of a billed subscription adds no current one. -/
theorem currentCount_changed {s s' : Subscription} (hvalid : db.Valid) (mem : s ∈ db.subscriptions)
    (billed : s.status.isBilled = true) (howner : s'.owner = s.owner)
    (rows : db'.subscriptions = Table.updateWhere (·.id = s.id) (fun _ => s') db.subscriptions)
    (t : Timestamp) (owner : PlanOwner) : currentCount t owner db' ≤ currentCount t owner db := by
  unfold currentCount
  rw [rows, Table.updateWhere, List.countP_map]
  refine List.countP_mono_left fun r hr hcurrent => ?_
  by_cases hid : r.id = s.id
  · obtain rfl :=
      Table.eq_of_key_eq (nodup_id_of_subscriptionIndexes hvalid.subscriptions) hr mem hid
    simp only [Function.comp_apply, if_true, decide_eq_true_eq] at hcurrent
    exact decide_eq_true ⟨howner.symm.trans hcurrent.1, by simp [Subscription.isCurrent, billed]⟩
  · simpa [hid] using hcurrent

/-- The owner of a new subscription is that of its reservation. -/
theorem Enrolled.owner_eq {r : SubscriptionEnrollmentReservation} {a : PaymentAttempt}
    {offer : SubscriptionOffer} {discount : Option SubscriptionEnrollmentDiscountSnapshot}
    {period : BillingPeriod} (h : r.matchesAttempt a = true)
    (hterms : initialTerms a = .ok (offer, discount, period)) :
    (⟨a.billingScopeId, a.subscriberId, offer.planKey⟩ : PlanOwner) = r.owner := by
  obtain ⟨hidentity, -, hplan, -⟩ := of_decide_eq_true h
  have htarget : a.target = .subscriptionInitial offer discount := by
    unfold initialTerms at hterms
    split at hterms
    · rename_i offer' discount' htarget
      split at hterms
      · obtain ⟨rfl, rfl, -⟩ : offer' = offer ∧ discount' = discount ∧ _ := by simpa using hterms
        exact htarget
      · cases hterms
    · cases hterms
  have hscope : a.billingScopeId = r.identity.billingScopeId :=
    congrArg PaymentAttemptIdentity.billingScopeId hidentity
  have hsubscriber : a.subscriberId = r.identity.subscriberId :=
    congrArg PaymentAttemptIdentity.subscriberId hidentity
  have hkey : offer.planKey = r.planKey := by
    rw [htarget] at hplan
    exact Option.some.inj hplan
  rw [hscope, hsubscriber, hkey]
  rfl

/-- An enrollment adds the only source of its owner. -/
theorem Enrolled.exclusive {r : SubscriptionEnrollmentReservation} {a : PaymentAttempt}
    {evidence : ProcessorEvidence} (h : Enrolled now r a evidence db db')
    (hexcl : Exclusive now db) :
    Exclusive now db' := by
  obtain ⟨subscriptionId, methodId, offer, discount, period, tx, _, _, hterms, -, -, hrows, -⟩ :=
    h.subscription
  intro owner
  have hgrants : activeCount now owner db' = activeCount now owner db := by
    unfold activeCount
    rw [h.frame.grants]
  have hcount : currentCount now owner db' ≤ currentCount now owner db + 1 ∧
      (owner ≠ r.owner → currentCount now owner db' = currentCount now owner db) := by
    unfold currentCount
    rw [hrows, List.countP_cons]
    refine ⟨by split <;> omega, fun hne => ?_⟩
    rw [if_neg, Nat.add_zero]
    intro hnew
    have howner := (of_decide_eq_true hnew).1
    exact hne (howner.symm.trans (Enrolled.owner_eq h.reserved hterms))
  have := hexcl owner
  by_cases howner : owner = r.owner
  · have hcurrent := currentCount_eq_zero h.noCurrent
    have hactive := activeCount_eq_zero h.noGrant
    rw [← howner] at hcurrent hactive
    omega
  · have := hcount.2 howner
    omega

/-- What an effect does to the grants, and with a new grant to nothing else. -/
theorem Effect.grants (h : Effect now db db') :
    db'.grants = db.grants ∨
      (∃ creation : SubscriptionGrantCreation, db' = { db with
          grants := creation.row now :: db.grants } ∧
        currentSubscriptionExists now creation.owner db = false ∧
        activeGrantExists now creation.owner db = false) ∨
      ∃ revocation : SubscriptionGrantRevocation, db'.grants =
        Table.updateWhere (·.id = revocation.id) (·.revoked now revocation) db.grants := by
  cases h with
  | renew r a evidence renewed => exact .inl renewed.frame.grants
  | enroll r a evidence enrolled => exact .inl enrolled.frame.grants
  | grant creation future noCurrent noGrant => exact .inr (.inl ⟨creation, rfl, noCurrent, noGrant⟩)
  | revoke revocation => exact .inr (.inr ⟨revocation, rfl⟩)
  | _ => exact .inl rfl

/-- A grant adds the only source of its owner. -/
theorem exclusive_grant {creation : SubscriptionGrantCreation}
    (hcurrent : currentSubscriptionExists now creation.owner db = false)
    (hactive : activeGrantExists now creation.owner db = false) (hexcl : Exclusive now db) :
    Exclusive now { db with grants := creation.row now :: db.grants } := by
  intro owner
  show currentCount now owner db + List.countP _ (creation.row now :: db.grants) ≤ 1
  rw [List.countP_cons]
  have := hexcl owner
  by_cases howner : owner = creation.owner
  · have hcurrent := currentCount_eq_zero hcurrent
    have hactive := activeCount_eq_zero hactive
    rw [← howner] at hcurrent hactive
    unfold activeCount at hactive
    split <;> omega
  · rw [if_neg, Nat.add_zero]
    · exact this
    · intro hnew
      exact howner (of_decide_eq_true hnew).1.symm

/-- A revocation adds no active grant. -/
theorem activeCount_revoked (revocation : SubscriptionGrantRevocation) (t : Timestamp)
    (owner : PlanOwner) (grants : List SubscriptionGrant) :
    (Table.updateWhere (·.id = revocation.id) (·.revoked now revocation) grants).countP
        (fun g => g.owner = owner ∧ g.isActive t) ≤
      grants.countP fun g => g.owner = owner ∧ g.isActive t := by
  rw [Table.updateWhere, List.countP_map]
  refine List.countP_mono_left fun g _ hactive => ?_
  by_cases hid : g.id = revocation.id
  · simp [hid, SubscriptionGrant.revoked, SubscriptionGrant.isActive] at hactive
  · simpa [hid] using hactive

/-- An effect keeps the sources of access exclusive. -/
theorem Effect.exclusive (h : Effect now db db') (hvalid : db.Valid) (hexcl : Exclusive now db) :
    Exclusive now db' := by
  -- Every effect but an enrollment and a grant adds no source.
  have kept (hcurrent : ∀ owner, currentCount now owner db' ≤ currentCount now owner db) :
      Exclusive now db' := by
    rcases h.grants with hgrants | ⟨creation, rfl, hnoCurrent, hnoGrant⟩ | ⟨revocation, hgrants⟩
    · intro owner
      have hactive : activeCount now owner db' = activeCount now owner db := by
        unfold activeCount
        rw [hgrants]
      have := hcurrent owner
      have := hexcl owner
      omega
    · exact exclusive_grant hnoCurrent hnoGrant hexcl
    · intro owner
      have hactive : activeCount now owner db' ≤ activeCount now owner db := by
        unfold activeCount
        rw [hgrants]
        exact activeCount_revoked revocation now owner db.grants
      have := hcurrent owner
      have := hexcl owner
      omega
  cases h.subscriptions hvalid with
  | same heq =>
    refine kept fun owner => ?_
    unfold currentCount
    rw [heq]
  | enrolled r a evidence enrolled => exact enrolled.exclusive hexcl
  | changed s s' mem billed change rows checks indexes =>
    exact kept fun owner =>
      currentCount_changed hvalid mem billed change.identity.2.1 rows now owner

/-- An effect starts a grant at its own time. -/
theorem Effect.started (h : Effect now db db') (hstarted : ∀ g ∈ db.grants, g.startsAt ≤ now) :
    ∀ g ∈ db'.grants, g.startsAt ≤ now := by
  intro g hg
  rcases h.grants with hgrants | ⟨creation, rfl, -, -⟩ | ⟨revocation, hgrants⟩
  · exact hstarted g (hgrants ▸ hg)
  · rcases List.mem_cons.mp hg with rfl | hg
    · exact le_refl now
    · exact hstarted g hg
  · obtain ⟨g₀, hg₀, rfl⟩ := Table.mem_updateWhere.mp (hgrants ▸ hg)
    split
    · exact hstarted g₀ hg₀
    · exact hstarted g₀ hg₀

end Steps

/-- The sources of access exclude each other along every run. -/
theorem law_accessExclusive : Db.Law AccessExclusive where
  fresh db h := by
    refine ⟨fun g hg => ?_, fun owner => ?_⟩
    · simp [h.grants] at hg
    · simp [currentCount, activeCount, h.subscriptions, h.grants]
  later db now _ hle h := ⟨fun g hg => le_trans (h.started g hg) hle, h.later hle⟩
  quiet db db' _ hquiet h := by
    obtain ⟨attempts, ledger, rfl⟩ := hquiet.frame
    exact ⟨h.started, h.exclusive⟩
  effect db db' hvalid heffect h := by
    refine ⟨?_, ?_⟩
    · rw [heffect.clock]
      exact heffect.started h.started
    · rw [heffect.clock]
      exact heffect.exclusive hvalid h.exclusive

/-! ## Entitlement -/

section Entitlement

variable {t : Timestamp} {query : EntitlementQuery} {db : Db}

/-- The subscriptions that entitlement reads are current ones of the owner. -/
theorem length_currentSubscriptions_le (t : Timestamp) (owner : PlanOwner)
    (mode : Option GatewayAccountMode) (db : Db) :
    (currentSubscriptions t owner mode db).length ≤ currentCount t owner db := by
  rw [currentSubscriptions, List.length_insertionSort, ← List.countP_eq_length_filter]
  refine List.countP_mono_left fun s _ hs => ?_
  obtain ⟨howner, -, hcurrent⟩ := of_decide_eq_true hs
  exact decide_eq_true ⟨howner, hcurrent⟩

/-- The grants that entitlement reads are the active ones. -/
theorem length_activeGrants (t : Timestamp) (owner : PlanOwner) (db : Db) :
    (activeGrants t owner db).length = activeCount t owner db := by
  rw [activeGrants, activeCount, List.countP_eq_length_filter]

/-- A current subscription is not unpaid. -/
theorem Subscription.ne_unpaid_of_isCurrent {s : Subscription} (h : s.isCurrent t = true) :
    s.status ≠ .unpaid := by
  intro hstatus
  simp [Subscription.isCurrent, hstatus, SubscriptionStatus.isBilled] at h

/-- With exclusive sources, the entitlement of an owner is always a value. -/
theorem Exclusive.entitlement_ok (h : Exclusive t db) : ∃ e, entitlement t query db = .ok e := by
  have hpaid := length_currentSubscriptions_le t query.owner query.requiredGatewayAccountMode db
  have hgrants := length_activeGrants t query.owner db
  have hone := h query.owner
  unfold entitlement
  simp only []
  rw [if_neg (by omega)]
  split
  · exact ⟨_, rfl⟩
  · exact ⟨_, rfl⟩
  · rename_i s rest _ hlist
    have hmem : s ∈ currentSubscriptions t query.owner query.requiredGatewayAccountMode db := by
      rw [hlist]
      exact List.mem_cons_self
    rw [currentSubscriptions, List.mem_insertionSort, List.mem_filter] at hmem
    have hcurrent := (of_decide_eq_true hmem.2).2.2
    split
    · exact ⟨_, rfl⟩
    · exact ⟨_, rfl⟩
    · exact ⟨_, rfl⟩
    · exact absurd ‹s.status = .unpaid› (Subscription.ne_unpaid_of_isCurrent hcurrent)

/-- With exclusive sources, the write guard never finds an invalid state. -/
theorem Exclusive.classifyGuardAccess_ne (h : Exclusive t db) :
    classifyGuardAccess t query db ≠ .invalid := by
  have hone := h query.owner
  unfold classifyGuardAccess
  simp only []
  generalize hlist : ((db.subscriptions.filter fun s => s.owner = query.owner ∧
    query.requiredGatewayAccountMode.all (s.requiredGatewayAccountMode = ·)).insertionSort
      fun s s' => s.id ≤ s'.id).filter (·.isCurrent t) = paid
  have hall : ∀ s ∈ paid, s.isCurrent t = true := by
    rw [← hlist]
    exact fun s hs => (List.mem_filter.mp hs).2
  have hpaid : paid.length ≤ currentCount t query.owner db := by
    rw [← hlist, ← List.countP_eq_length_filter, (List.perm_insertionSort _ _).countP_eq,
      List.countP_filter]
    refine List.countP_mono_left fun s _ hs => ?_
    obtain ⟨hcurrent, hof⟩ := Bool.and_eq_true_iff.mp hs
    exact decide_eq_true ⟨(of_decide_eq_true hof).1, hcurrent⟩
  have hgrants : (db.grants.filter (·.owner = query.owner)).countP (·.isActive t) =
      activeCount t query.owner db := by
    rw [List.countP_filter, activeCount]
    refine List.countP_congr fun g _ => ?_
    simp [and_comm]
  rw [hgrants]
  have hboth : ¬ (1 < paid.length ∨ 1 < activeCount t query.owner db ∨
      (paid ≠ [] ∧ 0 < activeCount t query.owner db)) := by
    rintro (h₁ | h₁ | ⟨hne, h₁⟩)
    · omega
    · omega
    · have := List.length_pos_iff.mpr hne
      omega
  rw [if_neg hboth]
  split
  · exact nofun
  · split
    · exact nofun
    · rename_i s _
      have hcurrent : s.isCurrent t = true := hall s List.mem_cons_self
      split
      · exact nofun
      · exact nofun
      · split
        · exact nofun
        · exact nofun
      · exact absurd ‹s.status = .unpaid› (Subscription.ne_unpaid_of_isCurrent hcurrent)

end Entitlement

/-- Entitlement is exclusive over time: after every run and at every later time before the next
step, each owner has at most one source of access, a current paid subscription or an active grant,
and neither entitlement nor its write guard reports an invalid state. -/
theorem entitlement_exclusive {db₀ : Db} (hfresh : db₀.Fresh) (steps : List (ℕ × Op)) :
    let db := run execStore db₀ steps
    ∀ t, db.clock ≤ t →
      (∀ owner, currentCount t owner db ≤ 1 ∧ activeCount t owner db ≤ 1 ∧
        ¬ (0 < currentCount t owner db ∧ 0 < activeCount t owner db)) ∧
      ∀ query, (∃ e, entitlement t query db = .ok e) ∧
          classifyGuardAccess t query db ≠ .invalid := by
  intro db t hle
  have hlaw : AccessExclusive db := (law_accessExclusive.holds hfresh steps).2
  have hexcl : Exclusive t db := hlaw.later hle
  refine ⟨fun owner => ?_, fun query => ⟨hexcl.entitlement_ok, hexcl.classifyGuardAccess_ne⟩⟩
  have hone := hexcl owner
  exact ⟨by omega, by omega, by omega⟩

/-- The owner of an enrollment has one source of access, until it is canceled. -/
theorem entitlement_exclusive_enrollment :
    let db := run execStore accountStore enrollment
    currentCount db.clock ⟨1, 1, "plan"⟩ db = 1 ∧
      ∀ t, db.clock ≤ t → currentCount t ⟨1, 1, "plan"⟩ db ≤ 1 := by
  intro db
  have hexcl := entitlement_exclusive accountStore_fresh enrollment
  exact ⟨by decide +kernel, fun t ht => ((hexcl t ht).1 ⟨1, 1, "plan"⟩).1⟩

end SyrupRail
