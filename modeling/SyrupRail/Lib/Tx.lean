import SyrupRail.Lib.Run

/-!
# Programs of a transaction

A transaction is a program over a state that can fail, and a failure undoes all of it. `Ensures` is
its partial-correctness judgment, from one state and with a postcondition on the result and the last
state; the rules take a program apart along its structure. `Keeps` is the judgment of a frame: a
relation between the first state and the last one that every statement of the program respects, so
that a program keeps whatever its statements keep. `Passes` finds in the frame of a program the one
statement that it cannot succeed without.
-/

/-- A program of a transaction. -/
abbrev Tx (σ ε α : Type) := StateT σ (Except ε) α

namespace Tx

variable {σ ε α β : Type}

/-- A result, and the state that it leaves. -/
theorem pure_run (a : α) (s : σ) : StateT.pure a s = (.ok (a, s) : Except ε (α × σ)) := rfl

/-- The state that is set. -/
theorem set_run (s s' : σ) : StateT.set s' s = (.ok (⟨⟩, s') : Except ε (PUnit × σ)) := rfl

/-! ## Postconditions -/

/-- When the program succeeds from `s`, its result and the last state satisfy `Q`. -/
def Ensures (x : Tx σ ε α) (s : σ) (Q : α → σ → Prop) : Prop :=
  ∀ a s', x s = .ok (a, s') → Q a s'

/-- A postcondition may be weakened. -/
theorem Ensures.mono {x : Tx σ ε α} {s : σ} {Q Q' : α → σ → Prop} (h : Ensures x s Q)
    (hQ : ∀ a s', Q a s' → Q' a s') : Ensures x s Q' :=
  fun a s' hx => hQ a s' (h a s' hx)

/-- Two postconditions are one. -/
theorem Ensures.and {x : Tx σ ε α} {s : σ} {Q Q' : α → σ → Prop} (h : Ensures x s Q)
    (h' : Ensures x s Q') : Ensures x s fun a s' => Q a s' ∧ Q' a s' :=
  fun a s' hx => ⟨h a s' hx, h' a s' hx⟩

/-- A postcondition may name the run that it is about. -/
theorem ensures_run {x : Tx σ ε α} {s : σ} {Q : α → σ → Prop} (h : Ensures x s Q) :
    Ensures x s fun a s' => x s = .ok (a, s') ∧ Q a s' :=
  fun a s' hx => ⟨hx, h a s' hx⟩

/-- A result without a statement. -/
@[simp]
theorem ensures_pure {a : α} {s : σ} {Q : α → σ → Prop} :
    Ensures (pure a : Tx σ ε α) s Q ↔ Q a s := by
  constructor
  · intro h
    exact h a s rfl
  · intro h b s' heq
    obtain ⟨rfl, rfl⟩ := Prod.mk.inj (Except.ok.inj heq)
    exact h

/-- A program that fails. -/
@[simp]
theorem ensures_throw {e : ε} {s : σ} {Q : α → σ → Prop} : Ensures (throw e : Tx σ ε α) s Q := by
  intro a s' h
  cases h

/-- Two programs, one after the other. -/
theorem ensures_bind {x : Tx σ ε α} {f : α → Tx σ ε β} {s : σ} {Q : β → σ → Prop} :
    Ensures (x >>= f) s Q ↔ Ensures x s fun a s' => Ensures (f a) s' Q := by
  have hbind : (x >>= f) s = (x s >>= fun p => f p.1 p.2) := rfl
  constructor
  · intro h a s' hx b s'' hf
    refine h b s'' ?_
    rw [hbind, hx]
    exact hf
  · intro h b s'' hxf
    rw [hbind] at hxf
    obtain ⟨⟨a, s'⟩, hx, hf⟩ := Transactions.bind_eq_ok.mp hxf
    exact h a s' hx b s'' hf

/-- A program whose result is not looked at. -/
theorem ensures_discard {x : Tx σ ε α} {s : σ} {Q : PUnit → σ → Prop} :
    Ensures (discard x) s Q ↔ Ensures x s fun _ s' => Q ⟨⟩ s' := by
  show Ensures (x >>= fun _ => pure PUnit.unit) s Q ↔ _
  rw [ensures_bind]
  constructor
  · intro h
    exact h.mono fun _ _ hQ => ensures_pure.mp hQ
  · intro h
    exact h.mono fun _ _ hQ => ensures_pure.mpr hQ

/-- The state is read. -/
@[simp]
theorem ensures_get {s : σ} {Q : σ → σ → Prop} :
    Ensures (get : Tx σ ε σ) s Q ↔ Q s s :=
  ensures_pure (ε := ε)

/-- The state is changed. -/
@[simp]
theorem ensures_modify {f : σ → σ} {s : σ} {Q : PUnit → σ → Prop} :
    Ensures (modify f : Tx σ ε PUnit) s Q ↔ Q ⟨⟩ (f s) := by
  constructor
  · intro h
    exact h ⟨⟩ (f s) rfl
  · intro h a s' heq
    obtain ⟨rfl, rfl⟩ := Prod.mk.inj (Except.ok.inj heq)
    exact h

/-! ## Statements -/

/-- A fallible statement on one part of the state: `put` stores the part it returns. -/
def statement {τ : Type} (get : σ → τ) (put : τ → σ → σ) (f : τ → Except ε (τ × α)) : Tx σ ε α :=
  fun s =>
    match f (get s) with
    | .ok (t, a) => .ok (a, put t s)
    | .error e => .error e

/-- A statement succeeds when the part of it does. -/
theorem ensures_statement {τ : Type} {get : σ → τ} {put : τ → σ → σ} {f : τ → Except ε (τ × α)}
    {s : σ} {Q : α → σ → Prop} :
    Ensures (statement get put f) s Q ↔ ∀ t a, f (get s) = .ok (t, a) → Q a (put t s) := by
  constructor
  · intro h t a hf
    refine h a (put t s) ?_
    simp only [statement, hf]
  · intro h a s' heq
    unfold statement at heq
    split at heq
    · rename_i t b hf
      obtain ⟨rfl, rfl⟩ := Prod.mk.inj (Except.ok.inj heq)
      exact h t b hf
    · cases heq

/-- A fallible read of the state. -/
def read (f : σ → Except ε α) : Tx σ ε α := fun s => (f s).map fun a => (a, s)

/-- A read leaves the state. -/
@[simp]
theorem ensures_read {f : σ → Except ε α} {s : σ} {Q : α → σ → Prop} :
    Ensures (read f) s Q ↔ ∀ a, f s = .ok a → Q a s := by
  constructor
  · intro h a hf
    exact h a s (Transactions.map_eq_ok.mpr ⟨a, hf, rfl⟩)
  · intro h a s' heq
    obtain ⟨b, hb, hpair⟩ := Transactions.map_eq_ok.mp heq
    obtain ⟨rfl, rfl⟩ := Prod.mk.inj hpair
    exact h b hb

/-- A program that branches. -/
theorem ensures_ite {p : Prop} [Decidable p] {x y : Tx σ ε α} {s : σ} {Q : α → σ → Prop} :
    Ensures (if p then x else y) s Q ↔ (p → Ensures x s Q) ∧ (¬ p → Ensures y s Q) := by
  split_ifs with hp
  · simp [hp]
  · simp [hp]

/-! ## Frames -/

/-- Every success of the program relates the first state to the last. -/
def Keeps (R : σ → σ → Prop) (x : Tx σ ε α) : Prop := ∀ s, Ensures x s fun _ s' => R s s'

section Rules

variable {R : σ → σ → Prop} [Std.Refl R] [IsTrans σ R]

omit [IsTrans σ R] in
/-- A result changes nothing. -/
theorem keeps_pure (a : α) : Keeps R (pure a : Tx σ ε α) :=
  fun s => ensures_pure.mpr (Std.Refl.refl s)

omit [Std.Refl R] [IsTrans σ R] in
/-- A failure commits nothing. -/
theorem keeps_throw (e : ε) : Keeps R (throw e : Tx σ ε α) := fun _ => ensures_throw

omit [IsTrans σ R] in
/-- A read of the store. -/
theorem keeps_get : Keeps R (get : Tx σ ε σ) := fun s => ensures_get.mpr (Std.Refl.refl s)

omit [Std.Refl R] in
/-- A program keeps what its parts keep. -/
theorem Keeps.bind {x : Tx σ ε α} {f : α → Tx σ ε β} (hx : Keeps R x) (hf : ∀ a, Keeps R (f a)) :
    Keeps R (x >>= f) := by
  intro s
  rw [ensures_bind]
  exact (hx s).mono fun a s' hs => (hf a s').mono fun _ s'' hs' => trans_of R hs hs'

/-- A mapped result. -/
theorem Keeps.map {x : Tx σ ε α} (f : α → β) (hx : Keeps R x) : Keeps R (f <$> x) := by
  rw [map_eq_pure_bind]
  exact hx.bind fun a => keeps_pure (f a)

/-- A program whose result is not looked at. -/
theorem Keeps.discard {x : Tx σ ε α} (hx : Keeps R x) : Keeps R (discard x) :=
  hx.bind fun _ => keeps_pure PUnit.unit

omit [IsTrans σ R] in
/-- A read that may fail. -/
theorem keeps_read (f : σ → Except ε α) : Keeps R (read f) :=
  fun s => ensures_read.mpr fun _ _ => Std.Refl.refl s

omit [Std.Refl R] [IsTrans σ R] in
/-- A change of the state. -/
theorem keeps_modify {f : σ → σ} (h : ∀ s, R s (f s)) : Keeps R (modify f : Tx σ ε PUnit) :=
  fun s => ensures_modify.mpr (h s)

omit [Std.Refl R] [IsTrans σ R] in
/-- A fallible statement. -/
theorem keeps_statement {τ : Type} {get : σ → τ} {put : τ → σ → σ} {f : τ → Except ε (τ × α)}
    (h : ∀ s t a, f (get s) = .ok (t, a) → R s (put t s)) : Keeps R (statement get put f) :=
  fun s => ensures_statement.mpr (h s)

omit [Std.Refl R] [IsTrans σ R] in
/-- Both branches of a test. -/
theorem Keeps.ite {p : Prop} [Decidable p] {x y : Tx σ ε α} (hx : Keeps R x) (hy : Keeps R y) :
    Keeps R (if p then x else y) := by
  split_ifs
  · exact hx
  · exact hy

/-! ## Statements that a program cannot do without -/

/-- Every success of the program has a step of `O`, and the rest of it keeps `R`. -/
def Passes (R O : σ → σ → Prop) (x : Tx σ ε α) : Prop :=
  ∀ s, Ensures x s fun _ s' => ∃ s₀ s₁, R s s₀ ∧ O s₀ s₁ ∧ R s₁ s'

variable {O : σ → σ → Prop}

omit [IsTrans σ R] in
/-- The statement itself. -/
theorem passes_of_ensures {x : Tx σ ε α} (h : ∀ s, Ensures x s fun _ s' => O s s') : Passes R O x :=
  fun s => (h s).mono fun _ s' ho => ⟨s, s', Std.Refl.refl s, ho, Std.Refl.refl s'⟩

omit [Std.Refl R] in
/-- The statement is in the first part. -/
theorem Passes.bind {x : Tx σ ε α} {f : α → Tx σ ε β} (hx : Passes R O x)
    (hf : ∀ a, Keeps R (f a)) : Passes R O (x >>= f) := by
  intro s
  rw [ensures_bind]
  refine (hx s).mono fun a s' hs => (hf a s').mono fun _ s'' hs' => ?_
  obtain ⟨s₀, s₁, h₀, ho, h₁⟩ := hs
  exact ⟨s₀, s₁, h₀, ho, trans_of R h₁ hs'⟩

omit [Std.Refl R] in
/-- The statement is in the second part. -/
theorem Keeps.bind_passes {x : Tx σ ε α} {f : α → Tx σ ε β} (hx : Keeps R x)
    (hf : ∀ a, Passes R O (f a)) : Passes R O (x >>= f) := by
  intro s
  rw [ensures_bind]
  refine (hx s).mono fun a s' hs => (hf a s').mono fun _ s'' hs' => ?_
  obtain ⟨s₀, s₁, h₀, ho, h₁⟩ := hs'
  exact ⟨s₀, s₁, trans_of R hs h₀, ho, h₁⟩

omit [Std.Refl R] [IsTrans σ R] in
/-- A failure never succeeds. -/
theorem passes_throw (e : ε) : Passes R O (throw e : Tx σ ε α) := fun _ => ensures_throw

omit [Std.Refl R] [IsTrans σ R] in
/-- Both branches of a test have to pass. -/
theorem Passes.ite {p : Prop} [Decidable p] {x y : Tx σ ε α} (hx : Passes R O x)
    (hy : Passes R O y) : Passes R O (if p then x else y) := by
  split_ifs
  · exact hx
  · exact hy

omit [Std.Refl R] in
/-- A program with the statement keeps what the statement keeps. -/
theorem Passes.keeps {x : Tx σ ε α} (hx : Passes R O x) (ho : ∀ s s', O s s' → R s s') :
    Keeps R x :=
  fun s => (hx s).mono fun _ s' hs => by
    obtain ⟨s₀, s₁, h₀, hstep, h₁⟩ := hs
    exact trans_of R h₀ (trans_of R (ho s₀ s₁ hstep) h₁)

end Rules

end Tx
