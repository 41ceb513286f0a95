import Mathlib.Data.List.Forall2
import Mathlib.Data.List.Nodup

/-!
# Tables of rows

A relational table is a list of rows. `updateWhere` is the statement `UPDATE ... WHERE`: every row
that meets the condition is rewritten, and the others stay. `findBy` looks a row up by its key. A
key is a function of the row that no two rows share, which `updateWhere` keeps when the rewriting
keeps the key. A partial unique index is a key that only some rows have, `uniqueOn`.
-/

namespace Table

variable {α κ : Type*} [DecidableEq κ]

/-- `UPDATE ... SET f WHERE p`. -/
def updateWhere (p : α → Bool) (f : α → α) (rows : List α) : List α :=
  rows.map fun r => if p r then f r else r

/-- The number of rows that an update affects. -/
def rowsAffected (p : α → Bool) (rows : List α) : ℕ := rows.countP p

/-- The row with the key `k`. -/
def findBy (key : α → κ) (k : κ) (rows : List α) : Option α := rows.find? fun r => key r = k

omit [DecidableEq κ] in
/-- The rows after an update. -/
theorem mem_updateWhere {p : α → Bool} {f : α → α} {rows : List α} {r : α} :
    r ∈ updateWhere p f rows ↔ ∃ r₀ ∈ rows, r = if p r₀ then f r₀ else r₀ := by
  rw [updateWhere, List.mem_map]
  constructor
  · rintro ⟨r₀, hr₀, h⟩
    exact ⟨r₀, hr₀, h.symm⟩
  · rintro ⟨r₀, hr₀, h⟩
    exact ⟨r₀, hr₀, h.symm⟩

/-- The rows after one row has been replaced. -/
theorem mem_replaceBy {key : α → κ} {rows : List α} {k : κ} {r r' : α}
    (h : r ∈ updateWhere (fun x => key x = k) (fun _ => r') rows) :
    (r ∈ rows ∧ key r ≠ k) ∨ r = r' := by
  obtain ⟨r₀, hr₀, rfl⟩ := mem_updateWhere.mp h
  by_cases hk : key r₀ = k
  · right
    simp [hk]
  · left
    simpa [hk] using hr₀

/-- The new row is there. -/
theorem mem_replaceBy_self {key : α → κ} {rows : List α} {r r' : α} (hr : r ∈ rows) :
    r' ∈ updateWhere (fun x => key x = key r) (fun _ => r') rows :=
  mem_updateWhere.mpr ⟨r, hr, by simp⟩

/-- The other rows stay. -/
theorem mem_replaceBy_of_ne {key : α → κ} {rows : List α} {k : κ} {r r' : α} (hr : r ∈ rows)
    (hne : key r ≠ k) : r ∈ updateWhere (fun x => key x = k) (fun _ => r') rows :=
  mem_updateWhere.mpr ⟨r, hr, by simp [hne]⟩

omit [DecidableEq κ] in
/-- A selection of rows does not see an update outside of it. -/
theorem filter_updateWhere_of_disjoint {p q : α → Bool} {f : α → α} {rows : List α}
    (h : ∀ r ∈ rows, q r = true → p r = false ∧ p (f r) = false) :
    (updateWhere q f rows).filter p = rows.filter p := by
  induction rows with
  | nil => rfl
  | cons r rows ih =>
    have ih := ih fun r' hr' => h r' (List.mem_cons_of_mem r hr')
    have hcons : updateWhere q f (r :: rows) = (if q r then f r else r) :: updateWhere q f rows :=
      rfl
    rw [hcons, List.filter_cons, List.filter_cons, ih]
    by_cases hq : q r = true
    · obtain ⟨hp, hpf⟩ := h r List.mem_cons_self hq
      simp [hq, hp, hpf]
    · simp [hq]

omit [DecidableEq κ] in
/-- An update that writes every row as it is changes nothing. -/
theorem updateWhere_eq_self {p : α → Bool} {f : α → α} {rows : List α}
    (h : ∀ r ∈ rows, p r = true → f r = r) : updateWhere p f rows = rows := by
  refine (List.map_congr_left fun r hr => ?_).trans (List.map_id rows)
  split_ifs with hp
  · exact h r hr hp
  · rfl

omit [DecidableEq κ] in
/-- An update that keeps the key keeps the list of keys. -/
theorem map_key_updateWhere {key : α → κ} {p : α → Bool} {f : α → α} {rows : List α}
    (hf : ∀ r ∈ rows, p r → key (f r) = key r) :
    (updateWhere p f rows).map key = rows.map key := by
  rw [updateWhere, List.map_map]
  apply List.map_congr_left
  intro r hr
  by_cases hp : p r
  · simp [hp, hf r hr hp]
  · simp [hp]

/-- A row that is found is in the table and has the key. -/
theorem findBy_some {key : α → κ} {k : κ} {rows : List α} {r : α}
    (h : findBy key k rows = some r) : r ∈ rows ∧ key r = k := by
  refine ⟨List.mem_of_find?_eq_some h, ?_⟩
  simpa using List.find?_some h

/-- Under unique keys, a row of the table is the one found under its key. -/
theorem findBy_eq_some {key : α → κ} {rows : List α} (hkey : (rows.map key).Nodup) {r : α}
    (hr : r ∈ rows) : findBy key (key r) rows = some r := by
  induction rows with
  | nil => simp at hr
  | cons a rows ih =>
    rw [List.map_cons, List.nodup_cons] at hkey
    rcases List.mem_cons.mp hr with rfl | hr
    · simp [findBy]
    · have hne : key a ≠ key r := fun h => hkey.1 (h ▸ List.mem_map_of_mem hr)
      simpa [findBy, hne] using ih hkey.2 hr

omit [DecidableEq κ] in
/-- The only row that meets a condition is the one found by it. -/
theorem find?_eq_some_of_unique {p : α → Bool} {rows : List α} {r : α} (hr : r ∈ rows)
    (hp : p r = true) (huniq : ∀ r' ∈ rows, p r' = true → r' = r) : rows.find? p = some r := by
  cases hfind : rows.find? p with
  | none => exact absurd hp (List.find?_eq_none.mp hfind r hr)
  | some r' => rw [huniq r' (List.mem_of_find?_eq_some hfind) (List.find?_some hfind)]

omit [DecidableEq κ] in
/-- Under unique keys, two rows with one key are the same. -/
theorem eq_of_key_eq {key : α → κ} {rows : List α} (hkey : (rows.map key).Nodup) {r r' : α}
    (hr : r ∈ rows) (hr' : r' ∈ rows) (h : key r = key r') : r = r' :=
  List.inj_on_of_nodup_map hkey hr hr' h

/-- Under unique keys, the row that an update by key has rewritten. -/
theorem eq_of_mem_updateWhere_key {key : α → κ} {f : α → α} {rows : List α}
    (hkey : ∀ r ∈ rows, ∀ r' ∈ rows, key r = key r' → r = r') (hf : ∀ r, key (f r) = key r)
    {r r' : α} (hr : r ∈ rows) (hr' : r' ∈ updateWhere (fun x => key x = key r) f rows)
    (h : key r' = key r) : r' = f r := by
  obtain ⟨r₀, hr₀, rfl⟩ := mem_updateWhere.mp hr'
  have hr₀k : key r₀ = key r := by
    split_ifs at h with hp
    · exact (hf r₀).symm.trans h
    · exact h
  obtain rfl := hkey r₀ hr₀ r hr hr₀k
  simp

/-! ## Tables row by row -/

omit [DecidableEq κ] in
/-- An update relates the tables row by row. -/
theorem forall₂_updateWhere {R : α → α → Prop} {p : α → Bool} {f : α → α} {rows : List α}
    (hf : ∀ r ∈ rows, p r → R r (f r)) (hrefl : ∀ r, R r r) :
    List.Forall₂ R rows (updateWhere p f rows) := by
  rw [updateWhere, List.forall₂_map_right_iff, List.forall₂_same]
  intro r hr
  split_ifs with hp
  · exact hf r hr hp
  · exact hrefl r

omit [DecidableEq κ] in
/-- Every row of the second table comes from one of the first. -/
theorem exists_of_mem_right {β : Type*} {R : α → β → Prop} {rows : List α} {rows' : List β}
    (h : List.Forall₂ R rows rows') {r' : β} (hr' : r' ∈ rows') : ∃ r ∈ rows, R r r' := by
  induction h with
  | nil => simp at hr'
  | cons hR _ ih =>
    rcases List.mem_cons.mp hr' with rfl | hr'
    · exact ⟨_, List.mem_cons_self, hR⟩
    · obtain ⟨r, hr, hRr⟩ := ih hr'
      exact ⟨r, List.mem_cons_of_mem _ hr, hRr⟩

omit [DecidableEq κ] in
/-- Every row of the first table becomes one of the second. -/
theorem exists_of_mem_left {β : Type*} {R : α → β → Prop} {rows : List α} {rows' : List β}
    (h : List.Forall₂ R rows rows') {r : α} (hr : r ∈ rows) : ∃ r' ∈ rows', R r r' :=
  exists_of_mem_right h.flip hr

omit [DecidableEq κ] in
/-- Under unique keys that a change keeps, it relates the rows with one key. -/
theorem rel_of_key_eq {R : α → α → Prop} {key : α → κ} {rows rows' : List α}
    (hkey : ∀ r ∈ rows, ∀ r' ∈ rows, key r = key r' → r = r')
    (hR : ∀ r r', R r r' → key r' = key r) (h : List.Forall₂ R rows rows') {r r' : α}
    (hr : r ∈ rows) (hr' : r' ∈ rows') (hk : key r' = key r) : R r r' := by
  obtain ⟨r₀, hr₀, hrel⟩ := exists_of_mem_right h hr'
  obtain rfl := hkey r₀ hr₀ r hr ((hR r₀ r' hrel).symm.trans hk)
  exact hrel

omit [DecidableEq κ] in
/-- Two changes row by row are one. -/
theorem forall₂_trans {R S T : α → α → Prop} (htrans : ∀ a b c, R a b → S b c → T a c)
    {rows rows' rows'' : List α} (h : List.Forall₂ R rows rows')
    (h' : List.Forall₂ S rows' rows'') : List.Forall₂ T rows rows'' := by
  induction h generalizing rows'' with
  | nil =>
    cases h'
    exact .nil
  | cons hR _ ih =>
    cases h' with
    | cons hS h' => exact .cons (htrans _ _ _ hR hS) (ih h')

omit [DecidableEq κ] in
/-- A selection of rows does not see a change that it does not see in any row. -/
theorem filterMap_eq_of_forall₂ {β : Type*} {f : α → Option β} {rows rows' : List α}
    (h : List.Forall₂ (fun r r' => f r' = f r) rows rows') :
    rows'.filterMap f = rows.filterMap f := by
  induction h with
  | nil => rfl
  | cons hf _ ih => simp only [List.filterMap_cons, hf, ih]

omit [DecidableEq κ] in
/-- A selection sees no change of rows outside of it. -/
theorem filter_eq_of_forall₂ {R : α → α → Prop} {p : α → Bool} {rows rows' : List α}
    (h : List.Forall₂ R rows rows')
    (hR : ∀ r ∈ rows, ∀ r', R r r' → r' = r ∨ (p r = false ∧ p r' = false)) :
    rows'.filter p = rows.filter p := by
  induction h with
  | nil => rfl
  | cons hrow _ ih =>
    have ih := ih fun b hb => hR b (List.mem_cons_of_mem _ hb)
    rw [List.filter_cons, List.filter_cons, ih]
    rcases hR _ List.mem_cons_self _ hrow with rfl | ⟨hp, hp'⟩
    · rfl
    · rw [hp, hp']
      rfl

/-- A row that an update brings into a selection. -/
theorem perm_filterMap_updateWhere {β : Type*} {f : α → Option β} {key : α → κ} {rows : List α}
    (hkey : (rows.map key).Nodup) {r r' : α} {b : β} (hr : r ∈ rows) (hf : f r = none)
    (hf' : f r' = some b) :
    ((updateWhere (fun x => key x = key r) (fun _ => r') rows).filterMap f).Perm
      (b :: rows.filterMap f) := by
  induction rows with
  | nil => simp at hr
  | cons a rows ih =>
    rw [List.map_cons, List.nodup_cons] at hkey
    have hcons : updateWhere (fun x => key x = key r) (fun _ => r') (a :: rows) =
        (if key a = key r then r' else a) ::
          updateWhere (fun x => key x = key r) (fun _ => r') rows := by
      simp [updateWhere]
    rw [hcons, List.filterMap_cons, List.filterMap_cons]
    rcases List.mem_cons.mp hr with rfl | hr
    · -- The row is the first, and no other has its key.
      have hrest : updateWhere (fun x => key x = key r) (fun _ => r') rows = rows := by
        refine updateWhere_eq_self fun x hx hp => ?_
        exact absurd (of_decide_eq_true hp) fun h => hkey.1 (h ▸ List.mem_map_of_mem hx)
      rw [if_pos rfl, hf, hf', hrest]
    · have hne : key a ≠ key r := fun h => hkey.1 (h ▸ List.mem_map_of_mem hr)
      rw [if_neg hne]
      cases hfa : f a with
      | none => exact ih hkey.2 hr
      | some c => exact ((ih hkey.2 hr).cons c).trans (.swap b c _)

/-! ## Partial unique indexes -/

/-- No two rows have the same index key; a row without a key is not indexed. -/
def uniqueOn (key : α → Option κ) (rows : List α) : Bool :=
  rows.Pairwise fun r r' => key r = none ∨ key r ≠ key r'

/-- An empty table. -/
@[simp]
theorem uniqueOn_nil (key : α → Option κ) : uniqueOn key [] = true := by
  simp [uniqueOn]

/-- A table with a new row. -/
theorem uniqueOn_cons {key : α → Option κ} {r : α} {rows : List α} :
    uniqueOn key (r :: rows) = true ↔
      (∀ r' ∈ rows, key r = none ∨ key r ≠ key r') ∧ uniqueOn key rows = true := by
  simp [uniqueOn]

/-- A total unique index is a key. -/
theorem nodup_map_of_uniqueOn {key : α → κ} {rows : List α}
    (h : uniqueOn (fun r => some (key r)) rows = true) : (rows.map key).Nodup := by
  rw [List.Nodup, List.pairwise_map]
  simpa [uniqueOn] using h

/-- Two rows that an index holds under one key are the same. -/
theorem eq_of_uniqueOn {key : α → Option κ} {k : κ} {rows : List α}
    (h : uniqueOn key rows = true) {r r' : α} (hr : r ∈ rows) (hr' : r' ∈ rows)
    (hk : key r = some k) (hk' : key r' = some k) : r = r' := by
  induction rows with
  | nil => simp at hr
  | cons a rows ih =>
    obtain ⟨hhead, htail⟩ := uniqueOn_cons.mp h
    -- A row under the key of the first row clashes with it.
    have hclash {b : α} (hb : b ∈ rows) (ha : key a = some k) (hkb : key b = some k) : False := by
      rcases hhead b hb with hn | hn
      · simp [ha] at hn
      · exact hn (ha.trans hkb.symm)
    rcases List.mem_cons.mp hr with heq | hrm <;> rcases List.mem_cons.mp hr' with heq' | hrm'
    · rw [heq, heq']
    · exact (hclash hrm' (heq ▸ hk) hk').elim
    · exact (hclash hrm (heq' ▸ hk') hk).elim
    · exact ih htail hrm hrm'

/-- What is selected from indexed rows, under the key that they are indexed by, is there once. -/
theorem nodup_map_filterMap_of_uniqueOn {β : Type*} {key : α → Option κ} {f : α → Option β}
    {g : β → κ} {rows : List α} (hf : ∀ r b, f r = some b → key r = some (g b))
    (h : uniqueOn key rows = true) : ((rows.filterMap f).map g).Nodup := by
  induction rows with
  | nil => exact List.nodup_nil
  | cons r rows ih =>
    obtain ⟨hhead, htail⟩ := uniqueOn_cons.mp h
    rw [List.filterMap_cons]
    cases hfr : f r with
    | none => exact ih htail
    | some b =>
      rw [List.map_cons, List.nodup_cons]
      refine ⟨fun hmem => ?_, ih htail⟩
      obtain ⟨c, hc, hgc⟩ := List.mem_map.mp hmem
      obtain ⟨r', hr', hfr'⟩ := List.mem_filterMap.mp hc
      -- The row that `c` is selected from has the key of the first row.
      have hkey : key r = key r' := by rw [hf r b hfr, hf r' c hfr', hgc]
      rcases hhead r' hr' with hnone | hne
      · rw [hf r b hfr] at hnone
        cases hnone
      · exact hne hkey

/-- An index reads its key only. -/
theorem uniqueOn_congr {key : α → Option κ} {rows rows' : List α}
    (h : rows.map key = rows'.map key) : uniqueOn key rows = uniqueOn key rows' := by
  have hkeys (rows : List α) : uniqueOn key rows =
      decide ((rows.map key).Pairwise fun k k' => k = none ∨ k ≠ k') := by
    simp only [uniqueOn, List.pairwise_map]
  rw [hkeys, hkeys, h]

/-- An update that keeps the index key of every row, or takes it away, keeps the index unique. -/
theorem uniqueOn_updateWhere {key : α → Option κ} {p : α → Bool} {f : α → α} {rows : List α}
    (hf : ∀ r ∈ rows, p r → key (f r) = key r ∨ key (f r) = none)
    (h : uniqueOn key rows = true) : uniqueOn key (updateWhere p f rows) = true := by
  induction rows with
  | nil => simp [updateWhere]
  | cons a rows ih =>
    obtain ⟨hhead, htail⟩ := uniqueOn_cons.mp h
    have hkeep {b : α} (hb : b ∈ a :: rows) :
        key (if p b then f b else b) = key b ∨ key (if p b then f b else b) = none := by
      split_ifs with hp
      · exact hf b hb hp
      · exact .inl rfl
    refine uniqueOn_cons.mpr
      ⟨fun r' hr' => ?_, ih (fun r hr => hf r (List.mem_cons_of_mem a hr)) htail⟩
    obtain ⟨b, hb, rfl⟩ := mem_updateWhere.mp hr'
    rcases hkeep List.mem_cons_self with ha | ha
    · rcases hkeep (List.mem_cons_of_mem a hb) with hb' | hb'
      · rw [ha, hb']
        exact hhead b hb
      · rw [ha, hb']
        exact or_iff_not_imp_left.mpr id
    · exact .inl ha

/-- An update that matches one indexed row, and only rows with its key, affects that row alone. -/
theorem rowsAffected_eq_one {key : α → κ} {p : α → Bool} {rows : List α}
    (h : uniqueOn (fun r => some (key r)) rows = true) {r : α} (hr : r ∈ rows) (hp : p r = true)
    (hkey : ∀ r' ∈ rows, p r' = true → key r' = key r) : rowsAffected p rows = 1 := by
  have hfilter : rows.filter p = [r] := by
    induction rows with
    | nil => simp at hr
    | cons a rows ih =>
      obtain ⟨hhead, htail⟩ := uniqueOn_cons.mp h
      have hne {b : α} (hb : b ∈ rows) : key a ≠ key b := by simpa using hhead b hb
      rcases List.mem_cons.mp hr with rfl | hr
      · have hrest : rows.filter p = [] := by
          refine List.filter_eq_nil_iff.mpr fun b hb hpb => ?_
          exact hne hb (hkey b (List.mem_cons_of_mem _ hb) hpb).symm
        rw [List.filter_cons_of_pos hp, hrest]
      · have ha : ¬ p a = true := fun hpa => hne hr (hkey a List.mem_cons_self hpa)
        rw [List.filter_cons_of_neg ha]
        exact ih htail hr fun b hb => hkey b (List.mem_cons_of_mem _ hb)
  rw [rowsAffected, List.countP_eq_length_filter, hfilter, List.length_singleton]

/-- An update of one row is the update of the row with its key. -/
theorem updateWhere_of_rowsAffected_eq_one {key : α → κ} {p : α → Bool} {f : α → α} {rows : List α}
    (hkey : (rows.map key).Nodup) (h : rowsAffected p rows = 1) :
    ∃ r ∈ rows, p r = true ∧
      updateWhere p f rows = updateWhere (fun r' => key r' = key r) (fun _ => f r) rows := by
  rw [rowsAffected, List.countP_eq_length_filter, List.length_eq_one_iff] at h
  obtain ⟨r, hr⟩ := h
  have hmem : r ∈ rows.filter p := by rw [hr]; exact List.mem_singleton_self r
  obtain ⟨hrow, hp⟩ := List.mem_filter.mp hmem
  refine ⟨r, hrow, hp, List.map_congr_left fun r' hr' => ?_⟩
  by_cases hp' : p r' = true
  · have heq : r' ∈ rows.filter p := List.mem_filter.mpr ⟨hr', hp'⟩
    rw [hr, List.mem_singleton] at heq
    simp [heq, hp]
  · have hne : key r' ≠ key r := by
      intro hk
      obtain rfl := eq_of_key_eq hkey hr' hrow hk
      exact hp' hp
    simp [hp', hne]

end Table
