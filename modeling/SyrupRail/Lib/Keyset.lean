import Mathlib.Data.List.Sort

/-!
# Keyset pages

Rows with distinct keys are read in the order of the keys, one page after another. A page fetches
one row more than it returns, and the last key that it returns is the cursor of the next page.
`after_next` is the step of every argument: what is after the cursor of a page is what the page left
over, so that the pages of a scan are the keys cut into pieces (`scan_complete`). A walk over rows
with a budget, in which some rows cost nothing, is `spend`; it may be cut into pages as well
(`spend_append`).
-/

namespace Keyset

variable {κ : Type*} [LinearOrder κ] {limit : ℕ} {keys : List κ} {cursor : Option κ}

/-- The keys after a cursor; without a cursor, all of them. -/
def after (cursor : Option κ) (keys : List κ) : List κ :=
  keys.filter fun k => cursor.all (· < k)

/-- The keys of a page and the cursor of the next one. -/
structure Page (κ : Type*) where
  keys : List κ
  next : Option κ

/-- A page: one key more than the limit is fetched, and it is dropped when it is there. -/
def page (limit : ℕ) (keys : List κ) (cursor : Option κ) : Page κ :=
  let rows := (after cursor keys).take (limit + 1)
  if limit < rows.length then ⟨rows.dropLast, rows.dropLast.getLast?⟩ else ⟨rows, none⟩

/-- A page holds the next keys, up to the limit. -/
theorem page_keys (limit : ℕ) (keys : List κ) (cursor : Option κ) :
    (page limit keys cursor).keys = (after cursor keys).take limit := by
  have hlength := List.length_take (i := limit + 1) (l := after cursor keys)
  unfold page
  simp only []
  split
  case isTrue h =>
    show ((after cursor keys).take (limit + 1)).dropLast = _
    have hmin : min (limit + 1) (after cursor keys).length - 1 = limit := by omega
    rw [List.dropLast_eq_take, hlength, hmin, List.take_take]
    rw [min_eq_left (Nat.le_succ limit)]
  case isFalse h =>
    have hle : (after cursor keys).length ≤ limit := by omega
    show (after cursor keys).take (limit + 1) = _
    rw [List.take_of_length_le (by omega), List.take_of_length_le hle]

/-- The cursor of a page is the last key of a full page that left a key over. -/
theorem page_next (limit : ℕ) (keys : List κ) (cursor : Option κ) :
    (page limit keys cursor).next = if limit < (after cursor keys).length then
      ((after cursor keys).take limit).getLast? else none := by
  have hlength := List.length_take (i := limit + 1) (l := after cursor keys)
  have hkeys := page_keys limit keys cursor
  by_cases h : limit < (after cursor keys).length
  · have hrows : limit < ((after cursor keys).take (limit + 1)).length := by omega
    rw [if_pos h, ← hkeys]
    unfold page
    simp only []
    rw [if_pos hrows]
  · have hrows : ¬ limit < ((after cursor keys).take (limit + 1)).length := by omega
    rw [if_neg h]
    unfold page
    simp only []
    rw [if_neg hrows]

/-- There is a next page exactly when keys are left over. -/
theorem isSome_page_next (hlimit : 0 < limit) :
    (page limit keys cursor).next.isSome = true ↔ limit < (after cursor keys).length := by
  rw [page_next]
  constructor
  · intro h
    by_contra hle
    rw [if_neg hle] at h
    exact absurd h (by simp)
  · intro h
    rw [if_pos h, List.getLast?_isSome]
    refine List.length_pos_iff.mp ?_
    rw [List.length_take]
    omega

/-- There is a next page exactly when a key after the cursor is after every key of the page. -/
theorem isSome_page_next_iff (hkeys : keys.Pairwise (· < ·)) (hlimit : 0 < limit) :
    (page limit keys cursor).next.isSome = true ↔
      ∃ k ∈ after cursor keys, ∀ k' ∈ (page limit keys cursor).keys, k' < k := by
  rw [isSome_page_next hlimit, page_keys]
  constructor
  · intro hlt
    have hsorted : (after cursor keys).Pairwise (· < ·) := hkeys.filter _
    rw [← List.take_append_drop limit (after cursor keys)] at hsorted
    obtain ⟨-, -, hcut⟩ := List.pairwise_append.mp hsorted
    obtain ⟨k, hk⟩ := List.exists_mem_of_length_pos (l := (after cursor keys).drop limit) (by
      rw [List.length_drop]
      omega)
    exact ⟨k, List.mem_of_mem_drop hk, fun k' hk' => hcut k' hk' k hk⟩
  · rintro ⟨k, hk, hall⟩
    by_contra hle
    rw [List.take_of_length_le (not_lt.mp hle)] at hall
    exact lt_irrefl k (hall k hk)

/-- Rows in the order of their keys, cut at a place: the ones after the last of the first part are
the second part. -/
theorem filter_key_lt_of_pairwise {α : Type*} (key : α → κ) {front back : List α} {r : α}
    (h : (front ++ back).Pairwise fun a b => key a < key b) (hr : front.getLast? = some r) :
    (front ++ back).filter (fun a => key r < key a) = back := by
  obtain ⟨initial, rfl⟩ := List.getLast?_eq_some_iff.mp hr
  obtain ⟨hfront, -, hback⟩ := List.pairwise_append.mp h
  obtain ⟨-, -, hinitial⟩ := List.pairwise_append.mp hfront
  have hnone : (initial ++ [r]).filter (fun a => key r < key a) = [] := by
    refine List.filter_eq_nil_iff.mpr fun x hx => ?_
    rcases List.mem_append.mp hx with hx | hx
    · have hlt := hinitial x hx r (List.mem_singleton_self r)
      simpa using hlt.le
    · obtain rfl := List.mem_singleton.mp hx
      simp
  have hall : back.filter (fun a => key r < key a) = back := by
    refine List.filter_eq_self.mpr fun x hx => ?_
    exact decide_eq_true (hback r (List.mem_append_right _ (List.mem_singleton_self r)) x hx)
  rw [List.filter_append, hnone, hall, List.nil_append]

/-- What is after the cursor of a page is what the page left over. -/
theorem after_next (hkeys : keys.Pairwise (· < ·)) {k : κ}
    (h : (page limit keys cursor).next = some k) :
    after (some k) keys = (after cursor keys).drop limit := by
  rw [page_next] at h
  split at h
  case isFalse => cases h
  case isTrue hlt =>
    have hsorted : (after cursor keys).Pairwise (· < ·) := hkeys.filter _
    have hmem : k ∈ after cursor keys := List.mem_of_mem_take (List.mem_of_getLast? h)
    have hcut := filter_key_lt_of_pairwise id (by rwa [List.take_append_drop]) h
    rw [List.take_append_drop] at hcut
    rw [← hcut]
    -- A key after `k` is after the old cursor, because `k` is.
    unfold after at hmem ⊢
    rw [List.filter_filter]
    refine List.filter_congr fun x _ => ?_
    have hk := (List.mem_filter.mp hmem).2
    cases cursor with
    | none => simp
    | some c =>
      have hck : c < k := by simpa using hk
      by_cases hkx : k < x
      · simp [hkx, hck.trans hkx]
      · simp [hkx]

/-- Following the cursor, with a bound on the number of pages: the pages, and whether the last of
them ended the scan. -/
def scan (limit : ℕ) (keys : List κ) : ℕ → Option κ → List (Page κ) × Bool
  | 0, _ => ([], false)
  | loads + 1, cursor =>
    let p := page limit keys cursor
    match p.next with
    | none => ([p], true)
    | some k =>
      let rest := scan limit keys loads (some k)
      (p :: rest.1, rest.2)

/-- A page without a next one ends the scan. -/
theorem scan_of_next_eq_none {loads : ℕ} (h : (page limit keys cursor).next = none) :
    scan limit keys (loads + 1) cursor = ([page limit keys cursor], true) := by
  rw [scan]
  simp only [h]

/-- A page with a next one is followed by the scan from there. -/
theorem scan_of_next_eq_some {loads : ℕ} {k : κ} (h : (page limit keys cursor).next = some k) :
    scan limit keys (loads + 1) cursor =
      (page limit keys cursor :: (scan limit keys loads (some k)).1,
        (scan limit keys loads (some k)).2) := by
  rw [scan]
  simp only [h]

/-- The pages of a scan are within the limit. -/
theorem length_le_of_mem_scan (loads : ℕ) (cursor : Option κ) :
    ∀ p ∈ (scan limit keys loads cursor).1, p.keys.length ≤ limit := by
  have hpage : ∀ cursor, (page limit keys cursor).keys.length ≤ limit := by
    intro cursor
    rw [page_keys]
    exact List.length_take_le _ _
  induction loads generalizing cursor with
  | zero =>
    intro p hp
    cases hp
  | succ loads ih =>
    intro p hp
    cases hnext : (page limit keys cursor).next with
    | none =>
      rw [scan_of_next_eq_none hnext] at hp
      obtain rfl := List.mem_singleton.mp hp
      exact hpage cursor
    | some k =>
      rw [scan_of_next_eq_some hnext] at hp
      rcases List.mem_cons.mp hp with rfl | hp
      · exact hpage cursor
      · exact ih (some k) p hp

/-- A scan of enough pages ends, and its pages together are the keys after the cursor. -/
theorem scan_complete (hkeys : keys.Pairwise (· < ·)) (hlimit : 0 < limit) (loads : ℕ)
    (cursor : Option κ) (hlength : (after cursor keys).length ≤ limit * (loads + 1)) :
    (scan limit keys (loads + 1) cursor).2 = true ∧
      (scan limit keys (loads + 1) cursor).1.flatMap Page.keys = after cursor keys := by
  induction loads generalizing cursor with
  | zero =>
    have hnext : (page limit keys cursor).next = none := by
      rw [page_next, if_neg (by omega)]
    have hpage : (page limit keys cursor).keys = after cursor keys := by
      rw [page_keys, List.take_of_length_le (by omega)]
    rw [scan_of_next_eq_none hnext]
    simp [hpage]
  | succ loads ih =>
    cases hnext : (page limit keys cursor).next with
    | none =>
      have hle : (after cursor keys).length ≤ limit := by
        by_contra hlt
        have hsome := (isSome_page_next hlimit).mpr (not_le.mp hlt)
        rw [hnext] at hsome
        cases hsome
      have hpage : (page limit keys cursor).keys = after cursor keys := by
        rw [page_keys, List.take_of_length_le hle]
      rw [scan_of_next_eq_none hnext]
      simp [hpage]
    | some k =>
      have hafter := after_next hkeys hnext
      obtain ⟨hend, hrest⟩ := ih (some k) (by
        rw [hafter, List.length_drop]
        have hsplit : limit * (loads + 1 + 1) = limit * (loads + 1) + limit := Nat.mul_succ _ _
        omega)
      rw [scan_of_next_eq_some hnext]
      refine ⟨hend, ?_⟩
      calc (page limit keys cursor :: (scan limit keys (loads + 1) (some k)).1).flatMap Page.keys
          = (page limit keys cursor).keys ++ after (some k) keys := by
            rw [List.flatMap_cons, hrest]
        _ = (after cursor keys).take limit ++ (after cursor keys).drop limit := by
            rw [page_keys, hafter]
        _ = after cursor keys := List.take_append_drop _ _

/-! ## Budgets -/

section Budgets

variable {α : Type*} (free : α → Bool)

/-- The rows that a budget lasts for: each costs one of it, unless it is free. -/
def spend : ℕ → List α → List α
  | _, [] => []
  | 0, _ :: _ => []
  | budget + 1, a :: rows => a :: spend (if free a then budget + 1 else budget) rows

/-- Without a budget, no row is visited. -/
@[simp]
theorem spend_zero (rows : List α) : spend free 0 rows = [] := by
  cases rows <;> rfl

/-- The rows are visited in order, from the first on. -/
theorem spend_prefix (budget : ℕ) (rows : List α) :
    List.IsPrefix (spend free budget rows) rows := by
  induction rows generalizing budget with
  | nil => cases budget <;> exact List.prefix_refl []
  | cons a rows ih =>
    cases budget with
    | zero => exact List.nil_prefix
    | succ budget => exact List.cons_prefix_cons.mpr ⟨rfl, ih _⟩

/-- What is spent is the budget, or the cost of all rows when that is less. -/
theorem countP_spend (budget : ℕ) (rows : List α) :
    (spend free budget rows).countP (!free ·) = min budget (rows.countP (!free ·)) := by
  induction rows generalizing budget with
  | nil => cases budget <;> rfl
  | cons a rows ih =>
    cases budget with
    | zero => simp
    | succ budget =>
      rw [spend, List.countP_cons, List.countP_cons, ih]
      cases free a with
      | false =>
        simp only [Bool.false_eq_true, if_false, Bool.not_false, if_true]
        omega
      | true =>
        simp only [if_true, Bool.not_true, Bool.false_eq_true, if_false]
        omega

/-- A walk over two pages is a walk over the first, and one over the second with what is left. -/
theorem spend_append (budget : ℕ) (front back : List α) :
    spend free budget (front ++ back) =
      spend free budget front ++ spend free (budget - front.countP (!free ·)) back := by
  induction front generalizing budget with
  | nil =>
    have hnil : spend free budget [] = [] := by cases budget <;> rfl
    simp [hnil]
  | cons a front ih =>
    cases budget with
    | zero => simp
    | succ budget =>
      rw [List.cons_append, spend, spend, ih, List.countP_cons, List.cons_append]
      cases free a with
      | false =>
        have hleft : budget + 1 - (front.countP (!free ·) + 1) =
            budget - front.countP (!free ·) := by
          omega
        simp only [Bool.false_eq_true, if_false, Bool.not_false, if_true, hleft]
      | true => simp only [if_true, Bool.not_true, Bool.false_eq_true, if_false, Nat.add_zero]

end Budgets

end Keyset
