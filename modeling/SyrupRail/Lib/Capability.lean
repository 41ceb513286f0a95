import SyrupRail.Lib.Run

/-!
# One-shot capabilities

A store says which resources are taken. Taking one yields a capability for a single request to an
outside party: its holder sends the request, and the party answers it, refuses it, or is silent for
good. Only the holder of a refused capability gives the resource back. Holders may stop at any
point, and the store changes between any two steps in every way that keeps what is taken.

`Desk` is the store with all the capabilities it has granted, in their order. Whatever the
interleaving, at most one capability of a resource is not given back, which is `Exclusive`, so a
second request for a resource comes only after the first was refused and the resource given back.
-/

namespace Transactions

namespace Capability

/-- How far a capability has come. -/
inductive Stage
  | held | sent | answered | refused | returned
  deriving DecidableEq, Repr

/-- Whether the request has been sent. -/
def Stage.isSent (p : Stage) : Bool := p ≠ .held

/-- What happens to a request outside of the store. -/
inductive Stage.Acts : Stage → Stage → Prop
  | send : Acts .held .sent
  | answer : Acts .sent .answered
  | refuse : Acts .sent .refused

/-- What happens to a request neither gives the resource back nor starts when it is back. -/
theorem Stage.Acts.ne_returned {p p' : Stage} (h : p.Acts p') : p ≠ .returned ∧ p' ≠ .returned := by
  cases h with
  | send => decide
  | answer => decide
  | refuse => decide

/-- A store with the capabilities that it has granted. -/
structure Desk (σ κ : Type*) where
  store : σ
  granted : List (κ × Stage)

section Steps

variable {σ κ ι : Type*} (resource : κ → ι) (Taken : ι → σ → Prop)

/-- A step of anybody. -/
inductive Step (d : Desk σ κ) : Desk σ κ → Prop
  | background {s : σ} (kept : ∀ x, Taken x d.store → Taken x s) : Step d ⟨s, d.granted⟩
  | grant {s : σ} {c : κ} (free : ¬ Taken (resource c) d.store) (taken : Taken (resource c) s)
      (kept : ∀ x, Taken x d.store → Taken x s) : Step d ⟨s, d.granted ++ [(c, .held)]⟩
  | act {i : ℕ} {c : κ} {p p' : Stage} (found : d.granted[i]? = some (c, p)) (acts : p.Acts p') :
      Step d ⟨d.store, d.granted.set i (c, p')⟩
  | give {i : ℕ} {c : κ} {s : σ} (found : d.granted[i]? = some (c, .refused))
      (kept : ∀ x, x ≠ resource c → Taken x d.store → Taken x s) :
        Step d ⟨s, d.granted.set i (c, .returned)⟩

/-- What is not given back is taken, and everything of the same resource before it is given back. -/
structure Exclusive (d : Desk σ κ) : Prop where
  taken : ∀ x ∈ d.granted, x.2 ≠ .returned → Taken (resource x.1) d.store
  ordered : d.granted.Pairwise fun x y => resource x.1 = resource y.1 → x.2 = .returned

variable {resource Taken} {d d' : Desk σ κ}

/-- A desk that has granted nothing. -/
theorem Exclusive.of_nil (h : d.granted = []) : Exclusive resource Taken d where
  taken := by simp [h]
  ordered := by simp [h]

/-- The order of a list in which one entry is replaced. -/
theorem pairwise_set {α : Type*} {R : α → α → Prop} {l : List α} {i : ℕ} {x x' : α}
    (h : l.Pairwise R) (hx : l[i]? = some x) (hleft : ∀ y, R x y → R x' y)
    (hright : ∀ y, R y x → R y x') : (l.set i x').Pairwise R := by
  obtain ⟨hi, hxi⟩ := List.getElem?_eq_some_iff.mp hx
  rw [List.pairwise_iff_getElem] at h ⊢
  intro j k hj hk hjk
  rw [List.length_set] at hj hk
  have hold := h j k hj hk hjk
  rw [List.getElem_set, List.getElem_set]
  by_cases hij : i = j
  · subst hij
    rw [if_pos rfl, if_neg (Nat.ne_of_lt hjk)]
    exact hleft _ (hxi ▸ hold)
  · rw [if_neg hij]
    split_ifs with hik
    · subst hik
      exact hright _ (hxi ▸ hold)
    · exact hold

/-- Two capabilities of one resource of which neither is given back are the same. -/
theorem Exclusive.eq_of_live (h : Exclusive resource Taken d) {i j : ℕ} {x y : κ × Stage}
    (hx : d.granted[i]? = some x) (hy : d.granted[j]? = some y) (hres : resource x.1 = resource y.1)
    (hlive : x.2 ≠ .returned) (hlive' : y.2 ≠ .returned) : i = j := by
  obtain ⟨hi, rfl⟩ := List.getElem?_eq_some_iff.mp hx
  obtain ⟨hj, rfl⟩ := List.getElem?_eq_some_iff.mp hy
  have hordered := List.pairwise_iff_getElem.mp h.ordered
  rcases Nat.lt_trichotomy i j with hlt | heq | hgt
  · exact absurd (hordered i j hi hj hlt hres) hlive
  · exact heq
  · exact absurd (hordered j i hj hi hgt hres.symm) hlive'

/-- An entry of a list in which one was replaced: another one, or the new one. -/
theorem getElem?_of_mem_set {α : Type*} {l : List α} {i : ℕ} {x' y : α} (h : y ∈ l.set i x') :
    y = x' ∨ ∃ j, j ≠ i ∧ l[j]? = some y := by
  obtain ⟨j, hj⟩ := List.mem_iff_getElem?.mp h
  rw [List.getElem?_set] at hj
  split_ifs at hj with hij hlt
  · exact .inl (Option.some.inj hj).symm
  · exact .inr ⟨j, fun h => hij h.symm, hj⟩

/-- Every step keeps the capabilities exclusive. -/
theorem Step.exclusive (h : Step resource Taken d d') (hd : Exclusive resource Taken d) :
    Exclusive resource Taken d' := by
  cases h with
  | background kept => exact ⟨fun x hx hlive => kept _ (hd.taken x hx hlive), hd.ordered⟩
  | @grant s c free taken kept =>
    constructor
    · intro x hx hlive
      rcases List.mem_append.mp hx with hx | hx
      · exact kept _ (hd.taken x hx hlive)
      · obtain rfl := List.mem_singleton.mp hx
        exact taken
    · refine List.pairwise_append.mpr
        ⟨hd.ordered, List.pairwise_singleton _ _, fun x hx y hy hres => ?_⟩
      obtain rfl := List.mem_singleton.mp hy
      -- A live one would have kept the resource taken.
      by_contra hlive
      exact free (hres ▸ hd.taken x hx hlive)
  | @act i c p p' found acts =>
    have hlive := acts.ne_returned
    constructor
    · intro x hx hxlive
      rcases getElem?_of_mem_set hx with rfl | ⟨j, -, hj⟩
      · exact hd.taken (c, p) (List.mem_of_getElem? found) hlive.1
      · exact hd.taken x (List.mem_of_getElem? hj) hxlive
    · exact pairwise_set hd.ordered found (fun y hold hres => absurd (hold hres) hlive.1)
        fun y hold => hold
  | @give i c s found kept =>
    constructor
    · intro x hx hlive
      rcases getElem?_of_mem_set hx with rfl | ⟨j, hji, hj⟩
      · exact absurd rfl hlive
      · -- Another live capability is one of another resource.
        refine kept _ (fun hres => hji ?_) (hd.taken x (List.mem_of_getElem? hj) hlive)
        exact hd.eq_of_live hj found hres hlive fun h => by cases h
    · exact pairwise_set hd.ordered found (fun _ _ _ => rfl) fun y hold => hold

/-- A second request for a resource follows a refusal of the first, after which it was given
back. -/
theorem Exclusive.requests (h : Exclusive resource Taken d) :
    (d.granted.filter (·.2.isSent)).Pairwise fun x y => resource x.1 = resource y.1 →
      x.2 = .returned :=
  h.ordered.sublist List.filter_sublist

end Steps

end Capability

end Transactions
