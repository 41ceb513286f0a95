import SyrupRail.Store.Exclusivity

/-!
# Reads and writes agree on access

The entitlement query ranks the current subscriptions of an owner and takes the first; the write
guard filters the rows in the order of their ids. Both lists hold the same rows, so that they are
the same list as soon as there is at most one, and both answers are invalid when there are more.
-/

namespace SyrupRail

/-- The answer of the write guard that an entitlement stands for. -/
def guardAccessOf : Except StoreError Entitlement → GuardAccess
  | .error _ => .invalid
  | .ok (.missing _) => .missing
  | .ok (.granted _) => .granted
  | .ok (.paidActive _) => .paid
  | .ok (.pastDue _ .allowedDuringDunning _) => .paid
  | .ok (.pastDue _ .suspended _) => .pastDue
  | .ok (.paidThroughCancellation _) => .paidThroughCancellation

section Guard

variable (now : Timestamp) (query : EntitlementQuery) (db : Db)

/-- The rows that the guard admits on, in the order of their ids. -/
def guardSubscriptions : List Subscription :=
  ((db.subscriptions.filter fun s => s.owner = query.owner ∧
    query.requiredGatewayAccountMode.all (s.requiredGatewayAccountMode = ·)).insertionSort
      fun s s' => s.id ≤ s'.id).filter (·.isCurrent now)

/-- The guard and the query see the same subscriptions. -/
theorem perm_guardSubscriptions :
    (guardSubscriptions now query db).Perm
      (currentSubscriptions now query.owner query.requiredGatewayAccountMode db) := by
  have hguard := (List.perm_insertionSort (fun s s' : Subscription => s.id ≤ s'.id)
    (db.subscriptions.filter fun s => s.owner = query.owner ∧
      query.requiredGatewayAccountMode.all (s.requiredGatewayAccountMode = ·))).filter
        (·.isCurrent now)
  have hrows : (db.subscriptions.filter fun s => s.owner = query.owner ∧
      query.requiredGatewayAccountMode.all (s.requiredGatewayAccountMode = ·)).filter
        (·.isCurrent now) =
      db.subscriptions.filter fun s => s.owner = query.owner ∧
        query.requiredGatewayAccountMode.all (s.requiredGatewayAccountMode = ·) ∧
          s.isCurrent now := by
    rw [List.filter_filter]
    refine List.filter_congr fun s _ => ?_
    grind
  rw [hrows] at hguard
  exact hguard.trans (List.perm_insertionSort _ _).symm

/-- The guard counts the active grants that the query reads. -/
theorem countP_grants :
    (db.grants.filter (·.owner = query.owner)).countP (·.isActive now) =
      (activeGrants now query.owner db).length := by
  rw [activeGrants, ← List.countP_eq_length_filter, List.countP_filter]
  refine List.countP_congr fun g _ => ?_
  grind

/-- The answer of the guard is that of the entitlement at the same time. -/
theorem classifyGuardAccess_eq :
    classifyGuardAccess now query db = guardAccessOf (entitlement now query db) := by
  have hperm := perm_guardSubscriptions now query db
  have hlength := hperm.length_eq
  unfold classifyGuardAccess entitlement
  simp only []
  rw [countP_grants]
  rw [show ((db.subscriptions.filter fun s => s.owner = query.owner ∧
    query.requiredGatewayAccountMode.all (s.requiredGatewayAccountMode = ·)).insertionSort
      fun s s' => s.id ≤ s'.id).filter (·.isCurrent now) = guardSubscriptions now query db from rfl]
  generalize guardSubscriptions now query db = rows at hperm hlength ⊢
  generalize currentSubscriptions now query.owner query.requiredGatewayAccountMode db = paid
    at hperm hlength ⊢
  generalize activeGrants now query.owner db = grants
  have hempty : rows ≠ [] ↔ 0 < paid.length := by
    rw [← hlength, List.length_pos_iff]
  by_cases hinvalid : 1 < paid.length ∨ 1 < grants.length ∨ (0 < paid.length ∧ 0 < grants.length)
  · have hrows : 1 < rows.length ∨ 1 < grants.length ∨ (rows ≠ [] ∧ 0 < grants.length) := by
      rw [hlength, hempty]
      exact hinvalid
    rw [if_pos hinvalid, if_pos hrows]
    rfl
  · have hrows : ¬ (1 < rows.length ∨ 1 < grants.length ∨ (rows ≠ [] ∧ 0 < grants.length)) := by
      rw [hlength, hempty]
      exact hinvalid
    rw [if_neg hinvalid, if_neg hrows]
    match grants, paid with
    | grant :: rest, _ =>
      have hone : (grant :: rest).length = 1 := by
        have hle : ¬ 1 < (grant :: rest).length := fun h => hinvalid (.inr (.inl h))
        rw [List.length_cons] at hle ⊢
        omega
      rw [if_pos hone]
      rfl
    | [], [] =>
      obtain rfl := hperm.eq_nil
      rfl
    | [], s :: rest =>
      -- There is one current subscription, and both lists are it.
      have hrest : rest = [] := by
        by_contra hne
        have hpos := List.length_pos_iff.mpr hne
        refine hinvalid (.inl ?_)
        rw [List.length_cons]
        omega
      subst hrest
      obtain rfl := List.perm_singleton.mp hperm
      simp only [List.length_nil, Nat.zero_ne_one, if_false]
      cases s.status with
      | active => rfl
      | pastDue =>
        cases s.pastDueAccess with
        | allowedDuringDunning => simp [guardAccessOf]
        | suspended => simp [guardAccessOf]
      | canceled => rfl
      | unpaid => rfl

/-- The query fails only with an invalid state. -/
theorem entitlement_error {e : StoreError} (h : entitlement now query db = .error e) :
    e = invalidEntitlementState := by
  unfold entitlement at h
  simp only [] at h
  split at h
  · exact (Except.error.inj h).symm
  · split at h
    · cases h
    · cases h
    · split at h
      · cases h
      · cases h
      · cases h
      · exact (Except.error.inj h).symm

end Guard

/-- The entitlement query and the write guard agree. At every time, for every store, owner, and
mode, the guard admits exactly what the query of the same time grants access for, and it refuses for
the same reason. -/
theorem guard_agrees_with_entitlement (now : Timestamp) (query : EntitlementQuery) (db : Db) :
    (classifyGuardAccess now query db = .paid ↔
      (∃ s, entitlement now query db = .ok (.paidActive s)) ∨
        ∃ s action, entitlement now query db = .ok (.pastDue s .allowedDuringDunning action)) ∧
    (classifyGuardAccess now query db = .paidThroughCancellation ↔
      ∃ s, entitlement now query db = .ok (.paidThroughCancellation s)) ∧
    (classifyGuardAccess now query db = .granted ↔
      ∃ grant, entitlement now query db = .ok (.granted grant)) ∧
    (classifyGuardAccess now query db = .missing ↔
      ∃ action, entitlement now query db = .ok (.missing action)) ∧
    (classifyGuardAccess now query db = .pastDue ↔
      ∃ s action, entitlement now query db = .ok (.pastDue s .suspended action)) ∧
    (classifyGuardAccess now query db = .invalid ↔
      ∃ text, entitlement now query db = .error (.invalidState text)) := by
  rw [classifyGuardAccess_eq]
  have herror := @entitlement_error now query db
  generalize entitlement now query db = result at herror ⊢
  match result with
  | .error e =>
    obtain rfl := herror rfl
    simp [guardAccessOf, invalidEntitlementState]
  | .ok (.missing _) => simp [guardAccessOf]
  | .ok (.granted _) => simp [guardAccessOf]
  | .ok (.paidActive _) => simp [guardAccessOf]
  | .ok (.pastDue _ .allowedDuringDunning _) => simp [guardAccessOf]
  | .ok (.pastDue _ .suspended _) => simp [guardAccessOf]
  | .ok (.paidThroughCancellation _) => simp [guardAccessOf]

end SyrupRail
