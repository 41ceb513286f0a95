import SyrupRail.Lib.Run

/-!
# Calls over transactions

A call runs one transaction after another, and its phase says which is next. Between two of them the
other parties take any steps. A transaction commits, fails and leaves the state, or is lost to a
fault: then the call learns only the fault, and the transaction may have committed all the same. A
`Call` gives the transactions of its phases and what it does with each answer; `Call.invariant`
carries a relation of the phase and the state through every schedule.
-/

namespace Transactions

/-- What a call learns of a transaction that it ran. -/
inductive Answer (ε φ : Type*)
  | committed
  | failed (error : ε)
  | lost (fault : φ)

/-- A call with the phases `ρ`: the transaction that each runs, with the inputs `ι` of that moment,
and the phase after each answer. -/
structure Call (σ ε φ ι ρ : Type*) where
  transaction : ρ → ι → σ → Except ε σ
  next : ρ → Answer ε φ → ρ

/-- One move of a schedule: a step of another party, or the next transaction of the call, whose
answer may be lost. -/
inductive Move (β φ ι : Type*)
  | other (step : β)
  | own (input : ι)
  | lose (input : ι) (fault : φ) (committed : Bool)

/-- Whether a move is a transaction of the call. -/
def Move.isOwn {β φ ι : Type*} : Move β φ ι → Bool
  | .other _ => false
  | .own _ | .lose _ _ _ => true

namespace Call

variable {σ ε φ ι ρ β : Type*}

/-- The phase of the call and the state after a move. -/
def exec (exec : σ → β → σ) (c : Call σ ε φ ι ρ) (s : ρ × σ) : Move β φ ι → ρ × σ
  | .other step => (s.1, exec s.2 step)
  | .own input =>
    match c.transaction s.1 input s.2 with
    | .ok s' => (c.next s.1 .committed, s')
    | .error e => (c.next s.1 (.failed e), s.2)
  | .lose input fault committed =>
    match c.transaction s.1 input s.2 with
    | .ok s' => (c.next s.1 (.lost fault), if committed then s' else s.2)
    | .error _ => (c.next s.1 (.lost fault), s.2)

/-- A relation of the phase and the state holds along every schedule when the steps of the others
keep it in each phase, when a transaction that commits keeps it also for the phase after it, and
when it needs nothing more for the phase after a failure or a fault. -/
theorem invariant {step : σ → β → σ} {c : Call σ ε φ ι ρ} {P : ρ → σ → Prop}
    (hother : ∀ p s b, P p s → P p (step s b))
    (hcommitted : ∀ p i s s', P p s → c.transaction p i s = .ok s' →
      P (c.next p .committed) s' ∧ ∀ fault, P (c.next p (.lost fault)) s')
    (hfailed : ∀ p s, P p s →
      (∀ e, P (c.next p (.failed e)) s) ∧ ∀ fault, P (c.next p (.lost fault)) s)
    (moves : List (Move β φ ι)) {p : ρ} {s : σ} (h : P p s) :
    P (run (c.exec step) (p, s) moves).1 (run (c.exec step) (p, s) moves).2 := by
  refine run_invariant (I := fun s => P s.1 s.2) (P := fun _ => True) (fun s move _ hs => ?_) moves
    (p, s) (fun _ _ => trivial) h
  cases move with
  | other b => exact hother _ _ b hs
  | own i =>
    unfold exec
    dsimp only
    split
    · rename_i s' hrun
      exact (hcommitted _ i _ s' hs hrun).1
    · exact (hfailed _ _ hs).1 _
  | lose i fault committed =>
    unfold exec
    dsimp only
    split
    · rename_i s' hrun
      cases committed with
      | true => exact (hcommitted _ i _ s' hs hrun).2 fault
      | false => exact (hfailed _ _ hs).2 fault
    · exact (hfailed _ _ hs).2 fault

/-- A call ends when each answer lowers a rank of its phases: its transactions use the rank up. -/
theorem rank_le (step : σ → β → σ) (c : Call σ ε φ ι ρ) {rank : ρ → ℕ}
    (hnext : ∀ p answer, rank (c.next p answer) ≤ rank p - 1) (moves : List (Move β φ ι)) (p : ρ)
    (s : σ) :
    rank (run (c.exec step) (p, s) moves).1 ≤ rank p - moves.countP Move.isOwn := by
  have hown (p : ρ) (s : σ) (move : Move β φ ι) (hmove : move.isOwn = true) :
      rank (c.exec step (p, s) move).1 ≤ rank p - 1 := by
    cases move with
    | other b => cases hmove
    | own i =>
      unfold exec
      dsimp only
      split
      · exact hnext _ _
      · exact hnext _ _
    | lose i fault committed =>
      unfold exec
      dsimp only
      split
      · exact hnext _ _
      · exact hnext _ _
  induction moves generalizing p s with
  | nil => exact Nat.le_of_eq (Nat.sub_zero _).symm
  | cons move moves ih =>
    have hrest := ih (c.exec step (p, s) move).1 (c.exec step (p, s) move).2
    rw [List.countP_cons]
    cases hmove : move.isOwn with
    | true =>
      have hfirst := hown p s move hmove
      simp only [if_true]
      calc rank (run (c.exec step) (p, s) (move :: moves)).1
          ≤ rank (c.exec step (p, s) move).1 - moves.countP Move.isOwn := hrest
        _ ≤ rank p - (moves.countP Move.isOwn + 1) := by omega
    | false =>
      cases move with
      | other b => exact hrest
      | own i => cases hmove
      | lose i fault committed => cases hmove

end Call

end Transactions
