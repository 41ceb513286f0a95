import Mathlib.Data.List.Forall2
import Mathlib.Order.Defs.Unbundled

/-!
# Runs of transactions

A system whose steps are transactions: a step from a state either commits a new state or fails, and
a failed transaction leaves the state as it was. A run is the fold of the steps over a list of
inputs. The rules here lift what one step preserves to whole runs: `run_invariant` for a predicate
of the state, `run_rel` for a relation between the first state and the last, and `run_exists_break`
for the step of a run that ends a predicate. A transaction is a sequence of fallible statements,
which `bind_eq_ok` takes apart.
-/

namespace Transactions

variable {σ α ε ρ : Type*}

/-! ## Sequences of statements -/

/-- A sequence of two statements succeeds when both do. -/
theorem bind_eq_ok {α β : Type _} {x : Except ε α} {f : α → Except ε β} {b : β} :
    (x >>= f) = .ok b ↔ ∃ a, x = .ok a ∧ f a = .ok b := by
  cases x with
  | error e => simp [bind, Except.bind]
  | ok a => simp [bind, Except.bind]

/-- The error of a sequence of two statements is that of one of them. -/
theorem bind_eq_error {α β : Type _} {x : Except ε α} {f : α → Except ε β} {e : ε}
    (h : (x >>= f) = .error e) : x = .error e ∨ ∃ a, x = .ok a ∧ f a = .error e := by
  cases x with
  | error e' =>
    obtain rfl : e' = e := Except.error.inj h
    exact .inl rfl
  | ok a => exact .inr ⟨a, rfl, h⟩

/-- A statement with a mapped result succeeds when the statement does. -/
theorem map_eq_ok {α β : Type*} {x : Except ε α} {f : α → β} {b : β} :
    x.map f = .ok b ↔ ∃ a, x = .ok a ∧ f a = b := by
  cases x with
  | error e => simp [Except.map]
  | ok a => simp [Except.map]

/-- A statement for each element succeeds when every one does. -/
theorem forall₂_of_mapM_eq_ok {α β : Type _} {f : α → Except ε β} {as : List α} {bs : List β}
    (h : as.mapM f = .ok bs) : List.Forall₂ (fun a b => f a = .ok b) as bs := by
  induction as generalizing bs with
  | nil =>
    obtain rfl : bs = [] := by simpa [pure, Except.pure] using h.symm
    exact .nil
  | cons a as ih =>
    rw [List.mapM_cons] at h
    obtain ⟨b, hb, hrest⟩ := bind_eq_ok.mp h
    obtain ⟨cs, hcs, hbs⟩ := bind_eq_ok.mp hrest
    obtain rfl : b :: cs = bs := by simpa [pure, Except.pure] using hbs
    exact .cons hb (ih hcs)

/-- Statements that all succeed succeed together. -/
theorem mapM_eq_ok {α β : Type _} {f : α → Except ε β} {g : α → β} {l : List α}
    (h : ∀ a ∈ l, f a = .ok (g a)) : l.mapM f = .ok (l.map g) := by
  induction l with
  | nil => rfl
  | cons a l ih =>
    rw [List.mapM_cons, h a List.mem_cons_self, ih fun b hb => h b (List.mem_cons_of_mem a hb)]
    rfl

/-! ## Transactions and runs -/

/-- The state after one transaction: the committed state, or the old one when it fails. -/
def commit (step : σ → α → Except ε (σ × ρ)) (s : σ) (a : α) : σ :=
  match step s a with
  | .ok (s', _) => s'
  | .error _ => s

/-- A transaction that commits. -/
theorem commit_ok {step : σ → α → Except ε (σ × ρ)} {s s' : σ} {a : α} {r : ρ}
    (h : step s a = .ok (s', r)) : commit step s a = s' := by
  simp [commit, h]

/-- A transaction that fails leaves the state as it was. -/
theorem commit_error {step : σ → α → Except ε (σ × ρ)} {s : σ} {a : α} {e : ε}
    (h : step s a = .error e) : commit step s a = s := by
  simp [commit, h]

/-- The state after the inputs `as`, one after another. -/
def run (exec : σ → α → σ) (s : σ) (as : List α) : σ := as.foldl exec s

/-- No steps. -/
@[simp]
theorem run_nil (exec : σ → α → σ) (s : σ) : run exec s [] = s := rfl

/-- The first step, and then the others. -/
@[simp]
theorem run_cons (exec : σ → α → σ) (s : σ) (a : α) (as : List α) :
    run exec s (a :: as) = run exec (exec s a) as := rfl

/-- A run of two parts is the second part after the first. -/
theorem run_append (exec : σ → α → σ) (s : σ) (as bs : List α) :
    run exec s (as ++ bs) = run exec (run exec s as) bs :=
  List.foldl_append

/-- What holds at first and is preserved by every step holds after every run. The inputs may be
restricted to those that satisfy `P`. -/
theorem run_invariant {exec : σ → α → σ} {I : σ → Prop} {P : α → Prop}
    (hstep : ∀ s a, P a → I s → I (exec s a)) (as : List α) :
    ∀ s, (∀ a ∈ as, P a) → I s → I (run exec s as) := by
  induction as with
  | nil =>
    intro s _ hs
    exact hs
  | cons a as ih =>
    intro s hP hs
    exact ih _ (fun b hb => hP b (List.mem_cons_of_mem a hb))
      (hstep s a (hP a List.mem_cons_self) hs)

/-- A run each of whose inputs is legal in the state that it meets. -/
def Follows (exec : σ → α → σ) (legal : σ → α → Prop) : σ → List α → Prop
  | _, [] => True
  | s, a :: as => legal s a ∧ Follows exec legal (exec s a) as

/-- What holds at first and is preserved by every legal step holds after every legal run. -/
theorem Follows.invariant {exec : σ → α → σ} {legal : σ → α → Prop} {I : σ → Prop}
    (hstep : ∀ s a, legal s a → I s → I (exec s a)) {as : List α} :
    ∀ {s}, Follows exec legal s as → I s → I (run exec s as) := by
  induction as with
  | nil =>
    intro s _ hs
    exact hs
  | cons a as ih =>
    intro s hlegal hs
    exact ih hlegal.2 (hstep s a hlegal.1 hs)

/-- A reflexive and transitive relation that every step from an invariant state satisfies relates
the first state of a run to its last. -/
theorem run_rel {exec : σ → α → σ} {I : σ → Prop} {P : α → Prop} {R : σ → σ → Prop}
    (hrefl : ∀ s, R s s) (htrans : ∀ s t u, R s t → R t u → R s u)
    (hI : ∀ s a, P a → I s → I (exec s a)) (hR : ∀ s a, P a → I s → R s (exec s a)) (as : List α) :
    ∀ s, (∀ a ∈ as, P a) → I s → R s (run exec s as) := by
  induction as with
  | nil =>
    intro s _ _
    exact hrefl s
  | cons a as ih =>
    intro s hP hs
    have ha := hP a List.mem_cons_self
    exact htrans _ _ _ (hR s a ha hs)
      (ih _ (fun b hb => hP b (List.mem_cons_of_mem a hb)) (hI s a ha hs))

/-- Steps that keep an invariant, and relate the states before and after by a reflexive and
transitive relation, do both along a run. -/
theorem run_keeps {exec : σ → α → σ} {I : σ → Prop} {R : σ → σ → Prop} (hrefl : ∀ s, R s s)
    (htrans : ∀ s t u, R s t → R t u → R s u) (hstep : ∀ s a, I s → I (exec s a) ∧ R s (exec s a))
    (as : List α) {s : σ} (hs : I s) : I (run exec s as) ∧ R s (run exec s as) := by
  have hinv : I (run exec s as) :=
    run_invariant (fun s a _ hs => (hstep s a hs).1) as s (fun _ _ => trivial) hs
  have hrel : R s (run exec s as) :=
    run_rel hrefl htrans (fun s a _ hs => (hstep s a hs).1) (fun s a _ hs => (hstep s a hs).2) as s
      (fun _ _ => trivial) hs
  exact ⟨hinv, hrel⟩

/-- A predicate that holds at first and not after the run is ended by some step of it. -/
theorem run_exists_break {exec : σ → α → σ} {I : σ → Prop} (as : List α) :
    ∀ s, I s → ¬ I (run exec s as) →
      ∃ pre a post, as = pre ++ a :: post ∧ I (run exec s pre) ∧ ¬ I (exec (run exec s pre) a) := by
  induction as with
  | nil =>
    intro s hs hn
    exact absurd hs hn
  | cons a as ih =>
    intro s hs hn
    by_cases ha : I (exec s a)
    · obtain ⟨pre, b, post, rfl, hpre, hb⟩ := ih _ ha hn
      exact ⟨a :: pre, b, post, rfl, hpre, hb⟩
    · exact ⟨[], a, as, rfl, hs, ha⟩

end Transactions
