import Mathlib.Data.List.Basic

/-!
# Leftmost-first matching

Patterns whose repetitions are of single characters. `Matches` is their language. `runs` is a
backtracking matcher: what is left of a text after each way to match its start, the preferred way
first, where an option and a repetition prefer to take more and an alternative prefers its first
branch. What it lists is what the language allows (`mem_runs`). `search` tries the starts of a text
from left to right and takes the preferred match of the first one that has a match.
-/

namespace Regex

variable {α β : Type*}

/-- A pattern. -/
inductive Pattern (α : Type*)
  | eps
  | one (p : α → Bool)
  | many (p : α → Bool)
  | opt (r : Pattern α)
  | seq (r s : Pattern α)
  | alt (r s : Pattern α)

/-- The language of a pattern. -/
inductive Matches : Pattern α → List α → Prop
  | eps : Matches .eps []
  | one {p : α → Bool} {c : α} (h : p c = true) : Matches (.one p) [c]
  | many {p : α → Bool} {m : List α} (h : ∀ c ∈ m, p c = true) : Matches (.many p) m
  | skip {r : Pattern α} : Matches (.opt r) []
  | take {r : Pattern α} {m : List α} (h : Matches r m) : Matches (.opt r) m
  | seq {r s : Pattern α} {m m' : List α} (h : Matches r m) (h' : Matches s m') :
      Matches (.seq r s) (m ++ m')
  | left {r s : Pattern α} {m : List α} (h : Matches r m) : Matches (.alt r s) m
  | right {r s : Pattern α} {m : List α} (h : Matches s m) : Matches (.alt r s) m

/-- What is left after each greedy repetition, the longest one first. -/
def runsMany (p : α → Bool) : List α → List (List α)
  | [] => [[]]
  | c :: cs => if p c then runsMany p cs ++ [c :: cs] else [c :: cs]

/-- What is left of a text after each match of its start, the preferred one first. -/
def runs : Pattern α → List α → List (List α)
  | .eps, cs => [cs]
  | .one _, [] => []
  | .one p, c :: cs => if p c then [cs] else []
  | .many p, cs => runsMany p cs
  | .opt r, cs => runs r cs ++ [cs]
  | .seq r s, cs => (runs r cs).flatMap (runs s)
  | .alt r s, cs => runs r cs ++ runs s cs

/-- The leftmost start at which `first` finds something: what is skipped, and what it finds. -/
def search (first : List α → Option β) : List α → Option (List α × β)
  | [] => (first []).map fun b => ([], b)
  | c :: cs =>
    match first (c :: cs) with
    | some b => some ([], b)
    | none => (search first cs).map fun found => (c :: found.1, found.2)

/-- Every character that a pattern may match satisfies a condition. -/
def Pattern.Within (p : α → Prop) : Pattern α → Prop
  | .eps => True
  | .one q => ∀ c, q c = true → p c
  | .many q => ∀ c, q c = true → p c
  | .opt r => r.Within p
  | .seq r s => r.Within p ∧ s.Within p
  | .alt r s => r.Within p ∧ s.Within p

/-- The least length of a match. -/
def Pattern.minLength : Pattern α → ℕ
  | .eps => 0
  | .one _ => 1
  | .many _ => 0
  | .opt _ => 0
  | .seq r s => r.minLength + s.minLength
  | .alt r s => min r.minLength s.minLength

/-- One of several patterns, the first one preferred. -/
def oneOf : List (Pattern α) → Pattern α
  | [] => .one fun _ => false
  | r :: rs => .alt r (oneOf rs)

/-! ## The language -/

/-- The characters of a match. -/
theorem Matches.of_within {p : α → Prop} {r : Pattern α} {m : List α} (hm : Matches r m)
    (h : r.Within p) : ∀ c ∈ m, p c := by
  induction hm with
  | eps => exact fun c hc => absurd hc List.not_mem_nil
  | one hp => exact List.forall_mem_singleton.mpr (h _ hp)
  | many hp => exact fun c hc => h c (hp c hc)
  | skip => exact fun c hc => absurd hc List.not_mem_nil
  | take _ ih => exact ih h
  | seq _ _ ih ih' => exact List.forall_mem_append.mpr ⟨ih h.1, ih' h.2⟩
  | left _ ih => exact ih h.1
  | right _ ih => exact ih h.2

/-- The length of a match. -/
theorem Matches.minLength_le {r : Pattern α} {m : List α} (hm : Matches r m) :
    r.minLength ≤ m.length := by
  induction hm with
  | eps => exact Nat.le_refl 0
  | one => exact Nat.le_refl 1
  | many => exact Nat.zero_le _
  | skip => exact Nat.zero_le _
  | take => exact Nat.zero_le _
  | seq _ _ ih ih' =>
    rw [List.length_append]
    exact Nat.add_le_add ih ih'
  | left _ ih => exact Nat.le_trans (Nat.min_le_left _ _) ih
  | right _ ih => exact Nat.le_trans (Nat.min_le_right _ _) ih

/-- A match of one of several patterns. -/
theorem matches_oneOf {rs : List (Pattern α)} {m : List α} : Matches (oneOf rs) m ↔
    ∃ r ∈ rs, Matches r m := by
  induction rs with
  | nil =>
    constructor
    · intro h
      cases h with
      | one h => cases h
    · rintro ⟨r, hr, -⟩
      exact absurd hr List.not_mem_nil
  | cons r rs ih =>
    rw [List.exists_mem_cons_iff, ← ih]
    constructor
    · intro h
      cases h with
      | left h => exact .inl h
      | right h => exact .inr h
    · rintro (h | h)
      · exact .left h
      · exact .right h

/-! ## The matcher and the language -/

/-- A repetition leaves what stands behind some of its characters. -/
theorem mem_runsMany {p : α → Bool} {cs rest : List α} :
    rest ∈ runsMany p cs ↔ ∃ m, cs = m ++ rest ∧ ∀ c ∈ m, p c = true := by
  induction cs with
  | nil =>
    rw [runsMany, List.mem_singleton]
    constructor
    · rintro rfl
      exact ⟨[], rfl, fun c hc => absurd hc List.not_mem_nil⟩
    · rintro ⟨m, h, -⟩
      exact (List.append_eq_nil_iff.mp h.symm).2
  | cons c cs ih =>
    have hself : ∃ m, c :: cs = m ++ (c :: cs) ∧ ∀ d ∈ m, p d = true :=
      ⟨[], rfl, fun d hd => absurd hd List.not_mem_nil⟩
    unfold runsMany
    split_ifs with hp
    · rw [List.mem_append, List.mem_singleton, ih]
      constructor
      · rintro (⟨m, rfl, hm⟩ | rfl)
        · exact ⟨c :: m, rfl, List.forall_mem_cons.mpr ⟨hp, hm⟩⟩
        · exact hself
      · rintro ⟨m, h, hm⟩
        cases m with
        | nil => exact .inr h.symm
        | cons d m =>
          obtain ⟨-, h⟩ := List.cons.inj h
          exact .inl ⟨m, h, fun e he => hm e (List.mem_cons_of_mem d he)⟩
    · rw [List.mem_singleton]
      constructor
      · rintro rfl
        exact hself
      · rintro ⟨m, h, hm⟩
        cases m with
        | nil => exact h.symm
        | cons d m =>
          obtain ⟨rfl, -⟩ := List.cons.inj h
          exact absurd (hm c List.mem_cons_self) hp

/-- A greedy repetition prefers to take all that it can. -/
theorem head?_runsMany (p : α → Bool) (cs : List α) :
    (runsMany p cs).head? = some (cs.dropWhile p) := by
  induction cs with
  | nil => rfl
  | cons c cs ih =>
    unfold runsMany
    by_cases hp : p c = true
    · rw [if_pos hp, List.head?_append, ih, List.dropWhile_cons_of_pos hp]
      rfl
    · rw [if_neg hp, List.dropWhile_cons_of_neg hp]
      rfl

/-- The matcher leaves what stands behind a match. -/
theorem mem_runs {r : Pattern α} {cs rest : List α} :
    rest ∈ runs r cs ↔ ∃ m, cs = m ++ rest ∧ Matches r m := by
  induction r generalizing cs rest with
  | eps =>
    rw [runs, List.mem_singleton]
    constructor
    · rintro rfl
      exact ⟨[], rfl, .eps⟩
    · rintro ⟨m, rfl, ⟨⟩⟩
      rfl
  | one p =>
    cases cs with
    | nil =>
      constructor
      · intro h
        cases h
      · rintro ⟨m, h, hm⟩
        cases hm
        cases h
    | cons c cs =>
      rw [runs]
      constructor
      · intro h
        split_ifs at h with hp
        · rw [List.mem_singleton] at h
          exact ⟨[c], by rw [h]; rfl, .one hp⟩
        · cases h
      · rintro ⟨m, h, hm⟩
        cases hm with
        | one hp =>
          obtain ⟨rfl, rfl⟩ := List.cons.inj h
          rw [if_pos hp]
          exact List.mem_singleton_self _
  | many p =>
    rw [runs, mem_runsMany]
    refine exists_congr fun m => and_congr_right fun _ => ⟨.many, fun hm => ?_⟩
    cases hm with
    | many h => exact h
  | opt r ih =>
    rw [runs, List.mem_append, List.mem_singleton, ih]
    constructor
    · rintro (⟨m, h, hm⟩ | rfl)
      · exact ⟨m, h, .take hm⟩
      · exact ⟨[], rfl, .skip⟩
    · rintro ⟨m, h, hm⟩
      cases hm with
      | skip => exact .inr h.symm
      | take hm => exact .inl ⟨m, h, hm⟩
  | seq r s ihr ihs =>
    rw [runs, List.mem_flatMap]
    constructor
    · rintro ⟨middle, hmiddle, hrest⟩
      obtain ⟨m, rfl, hm⟩ := ihr.mp hmiddle
      obtain ⟨m', rfl, hm'⟩ := ihs.mp hrest
      exact ⟨m ++ m', (List.append_assoc ..).symm, .seq hm hm'⟩
    · rintro ⟨m, rfl, hm⟩
      cases hm with
      | @seq _ _ m m' hm hm' =>
        exact ⟨m' ++ rest, ihr.mpr ⟨m, List.append_assoc .., hm⟩, ihs.mpr ⟨m', rfl, hm'⟩⟩
  | alt r s ihr ihs =>
    rw [runs, List.mem_append, ihr, ihs]
    constructor
    · rintro (⟨m, h, hm⟩ | ⟨m, h, hm⟩)
      · exact ⟨m, h, .left hm⟩
      · exact ⟨m, h, .right hm⟩
    · rintro ⟨m, h, hm⟩
      cases hm with
      | left hm => exact .inl ⟨m, h, hm⟩
      | right hm => exact .inr ⟨m, h, hm⟩

/-- Where all ways lead to one state, what comes next decides. -/
theorem head?_flatMap_of_eq {l : List α} {a : α} {f : α → List β} (hne : l ≠ [])
    (h : ∀ b ∈ l, b = a) : (l.flatMap f).head? = (f a).head? := by
  induction l with
  | nil => exact absurd rfl hne
  | cons b l ih =>
    obtain ⟨rfl, hl⟩ := List.forall_mem_cons.mp h
    rw [List.flatMap_cons, List.head?_append]
    cases hf : (f b).head? with
    | some c => rfl
    | none =>
      rw [Option.none_or]
      by_cases hnil : l = []
      · rw [hnil]
        rfl
      · rw [ih hnil hl, hf]

/-! ## Search -/

variable {first : List α → Option β}

/-- A search finds nothing where nothing matches. -/
theorem search_eq_none {cs : List α} :
    search first cs = none ↔ ∀ before after, cs = before ++ after → first after = none := by
  induction cs with
  | nil =>
    rw [search, Option.map_eq_none_iff]
    constructor
    · intro h before after heq
      rw [(List.append_eq_nil_iff.mp heq.symm).2]
      exact h
    · intro h
      exact h [] [] rfl
  | cons c cs ih =>
    unfold search
    constructor
    · intro h before after heq
      cases hfirst : first (c :: cs) with
      | some b =>
        rw [hfirst] at h
        cases h
      | none =>
        rw [hfirst] at h
        cases before with
        | nil =>
          rw [List.nil_append] at heq
          rw [← heq]
          exact hfirst
        | cons d before =>
          obtain ⟨-, heq⟩ := List.cons.inj heq
          exact ih.mp (Option.map_eq_none_iff.mp h) before after heq
    · intro h
      rw [h [] (c :: cs) rfl]
      refine Option.map_eq_none_iff.mpr (ih.mpr fun before after heq => h (c :: before) after ?_)
      rw [heq, List.cons_append]

/-- A search finds the leftmost start. -/
theorem search_eq_some {cs skipped : List α} {b : β} :
    search first cs = some (skipped, b) ↔ ∃ rest, cs = skipped ++ rest ∧ first rest = some b ∧
      ∀ before after, before.length < skipped.length → cs = before ++ after →
        first after = none := by
  induction cs generalizing skipped with
  | nil =>
    rw [search, Option.map_eq_some_iff]
    constructor
    · rintro ⟨b', hb, heq⟩
      obtain ⟨rfl, rfl⟩ := Prod.mk.inj heq
      exact ⟨[], rfl, hb, fun before _ hlt => absurd hlt (Nat.not_lt_zero _)⟩
    · rintro ⟨rest, heq, hb, -⟩
      obtain ⟨rfl, rfl⟩ := List.append_eq_nil_iff.mp heq.symm
      exact ⟨b, hb, rfl⟩
  | cons c cs ih =>
    unfold search
    cases hfirst : first (c :: cs) with
    | some b' =>
      constructor
      · intro h
        obtain ⟨rfl, rfl⟩ := Prod.mk.inj (Option.some.inj h)
        exact ⟨c :: cs, rfl, hfirst, fun before _ hlt => absurd hlt (Nat.not_lt_zero _)⟩
      · rintro ⟨rest, heq, hb, hleft⟩
        cases skipped with
        | nil =>
          rw [List.nil_append] at heq
          rw [← heq, hfirst] at hb
          rw [Option.some.inj hb]
        | cons d skipped =>
          have hnone := hleft [] (c :: cs) (Nat.zero_lt_succ _) rfl
          rw [hfirst] at hnone
          cases hnone
    | none =>
      dsimp only
      rw [Option.map_eq_some_iff]
      constructor
      · rintro ⟨⟨skipped', b'⟩, hsearch, heq⟩
        obtain ⟨rfl, rfl⟩ := Prod.mk.inj heq
        obtain ⟨rest, rfl, hb, hleft⟩ := ih.mp hsearch
        refine ⟨rest, rfl, hb, fun before after hlt heq => ?_⟩
        cases before with
        | nil =>
          rw [List.nil_append] at heq
          rw [← heq]
          exact hfirst
        | cons d before =>
          obtain ⟨-, heq⟩ := List.cons.inj heq
          exact hleft before after (Nat.lt_of_succ_lt_succ hlt) heq
      · rintro ⟨rest, heq, hb, hleft⟩
        cases skipped with
        | nil =>
          rw [List.nil_append] at heq
          rw [← heq, hfirst] at hb
          cases hb
        | cons d skipped =>
          obtain ⟨hc, htail⟩ := List.cons.inj heq
          subst hc
          refine ⟨(skipped, b), ih.mpr ⟨rest, htail, hb, fun before after hlt heq' => ?_⟩, rfl⟩
          refine hleft (c :: before) after (Nat.succ_lt_succ hlt) ?_
          rw [heq', List.cons_append]

end Regex
