import SyrupRail.Lib.RustText

/-!
# Texts of separated fields

A record is often written as its fields with a separator between them. Where no field contains the
separator the text determines the fields (`splitOn_intercalate` of the core library). Here one field
may be free text: with the same number of fields before it, and the same number behind it, the text
still determines all of them, since splitting the text splits the free field in its place
(`splitOn_around`).
-/

namespace Fields

section Lists

variable {α : Type*} {sep : α}

/-- What stands in a joined text is the separator or stands in a field. -/
theorem mem_intercalate {fields : List (List α)} {a : α} (h : a ∈ [sep].intercalate fields) :
    a = sep ∨ ∃ field ∈ fields, a ∈ field := by
  induction fields with
  | nil => simp at h
  | cons field fields ih =>
    by_cases hnil : fields = []
    · rw [hnil, List.intercalate_singleton] at h
      exact .inr ⟨field, List.mem_cons_self, h⟩
    · rw [List.intercalate_cons_of_ne_nil hnil, List.mem_append, List.mem_append,
        List.mem_singleton] at h
      rcases h with (h | h) | h
      · exact .inr ⟨field, List.mem_cons_self, h⟩
      · exact .inl h
      · obtain h | ⟨other, hother, hmem⟩ := ih h
        · exact .inl h
        · exact .inr ⟨other, List.mem_cons_of_mem field hother, hmem⟩

variable [BEq α] [LawfulBEq α]

/-- Splitting takes a field without a separator from the front. -/
theorem splitOn_intercalate_cons {field : List α} (hfield : sep ∉ field) {rest : List (List α)}
    (hrest : rest ≠ []) :
    ([sep].intercalate (field :: rest)).splitOn sep =
      field :: ([sep].intercalate rest).splitOn sep := by
  rw [List.intercalate_cons_of_ne_nil hrest, List.append_assoc, List.singleton_append,
    List.splitOn_append_cons_self_of_not_mem hfield]

/-- Splitting takes the fields without a separator from the front. -/
theorem splitOn_intercalate_append {front : List (List α)} (hfront : ∀ field ∈ front, sep ∉ field)
    {rest : List (List α)} (hrest : rest ≠ []) :
    ([sep].intercalate (front ++ rest)).splitOn sep =
      front ++ ([sep].intercalate rest).splitOn sep := by
  induction front with
  | nil => rfl
  | cons field front ih =>
    obtain ⟨hfield, hfront⟩ := List.forall_mem_cons.mp hfront
    rw [List.cons_append, splitOn_intercalate_cons hfield (by simp [hrest]), ih hfront,
      List.cons_append]

/-- Splitting a text with one free field splits that field, and leaves the others as they are. -/
theorem splitOn_around {front back : List (List α)} (hfront : ∀ field ∈ front, sep ∉ field)
    (hback : ∀ field ∈ back, sep ∉ field) (free : List α) :
    ([sep].intercalate (front ++ free :: back)).splitOn sep =
      front ++ (free.splitOn sep ++ back) := by
  rw [splitOn_intercalate_append hfront (by simp)]
  congr 1
  cases back with
  | nil => rw [List.intercalate_singleton, List.append_nil]
  | cons field back =>
    rw [List.intercalate_cons_of_ne_nil (by simp), List.append_assoc, List.singleton_append,
      List.splitOn_append_cons_self, List.splitOn_intercalate sep hback (by simp)]

/-- The parts determine the text that was split. -/
theorem splitOn_injective : Function.Injective (List.splitOn sep : List α → List (List α)) := by
  intro s t h
  have hs : [sep].intercalate (s.splitOn sep) = s := List.intercalate_splitOn sep
  have ht : [sep].intercalate (t.splitOn sep) = t := List.intercalate_splitOn sep
  rw [← hs, ← ht, h]

/-- Fields that are not empty and have no separator are determined by the text, also where there are
none. -/
theorem intercalate_inj {fields fields' : List (List α)}
    (h : ∀ field ∈ fields, field ≠ [] ∧ sep ∉ field)
    (h' : ∀ field ∈ fields', field ≠ [] ∧ sep ∉ field)
    (heq : [sep].intercalate fields = [sep].intercalate fields') : fields = fields' := by
  have hempty {fs : List (List α)} (hfs : ∀ field ∈ fs, field ≠ [] ∧ sep ∉ field)
      (hnil : [sep].intercalate fs = []) : fs = [] := by
    cases fs with
    | nil => rfl
    | cons field fs =>
      have hsplit := List.splitOn_intercalate sep (fun f hf => (hfs f hf).2) (by simp)
      rw [hnil, List.splitOn_nil] at hsplit
      have hfield : [] = field := (List.cons.inj hsplit).1
      exact absurd hfield.symm (hfs field List.mem_cons_self).1
  by_cases hnil : fields = []
  · rw [hnil, List.intercalate_nil] at heq
    rw [hnil, hempty h' heq.symm]
  by_cases hnil' : fields' = []
  · rw [hnil', List.intercalate_nil] at heq
    exact absurd (hempty h heq) hnil
  rw [← List.splitOn_intercalate sep (fun f hf => (h f hf).2) hnil, heq,
    List.splitOn_intercalate sep (fun f hf => (h' f hf).2) hnil']

end Lists

section Texts

/-- A text without colons. -/
def Colonless (s : String) : Prop := ':' ∉ s.toList

instance : DecidablePred Colonless := fun s => inferInstanceAs (Decidable (':' ∉ s.toList))

/-- The parts of a text between its colons. -/
def parts (s : String) : List (List Char) := s.toList.splitOn ':'

/-- The parts of fields without colons are those fields. -/
theorem parts_intercalate {fields : List String} (h : ∀ field ∈ fields, Colonless field)
    (hne : fields ≠ []) : parts (":".intercalate fields) = fields.map String.toList := by
  unfold parts
  rw [String.toList_intercalate]
  refine List.splitOn_intercalate ':' ?_ (by simpa using hne)
  intro field hfield
  obtain ⟨s, hs, rfl⟩ := List.mem_map.mp hfield
  exact h s hs

/-- The parts of fields of which one is free text. -/
theorem parts_around {front back : List String} (hfront : ∀ field ∈ front, Colonless field)
    (hback : ∀ field ∈ back, Colonless field) (free : String) :
    parts (":".intercalate (front ++ free :: back)) =
      front.map String.toList ++ (parts free ++ back.map String.toList) := by
  unfold parts
  rw [String.toList_intercalate, List.map_append, List.map_cons]
  refine splitOn_around ?_ ?_ _
  · intro field hfield
    obtain ⟨s, hs, rfl⟩ := List.mem_map.mp hfield
    exact hfront s hs
  · intro field hfield
    obtain ⟨s, hs, rfl⟩ := List.mem_map.mp hfield
    exact hback s hs

/-- The parts determine the text. -/
theorem parts_injective : Function.Injective parts := by
  intro s t h
  exact String.toList_injective (splitOn_injective h)

/-- The characters determine the texts of a list. -/
theorem map_toList_injective : Function.Injective (List.map String.toList) :=
  List.map_injective_iff.mpr fun _ _ h => String.toList_injective h

/-- Fields without colons are determined by their text. -/
theorem intercalate_colon_inj {fields fields' : List String} (h : ∀ field ∈ fields, Colonless field)
    (h' : ∀ field ∈ fields', Colonless field) (hne : fields ≠ []) (hne' : fields' ≠ [])
    (heq : ":".intercalate fields = ":".intercalate fields') : fields = fields' := by
  have hparts := congrArg parts heq
  rw [parts_intercalate h hne, parts_intercalate h' hne'] at hparts
  exact map_toList_injective hparts

/-- A free field, the fields before it, and those behind it, are determined by their text. -/
theorem around_inj {front front' back back' : List String} {free free' : String}
    (hfront : ∀ field ∈ front, Colonless field) (hback : ∀ field ∈ back, Colonless field)
    (hfront' : ∀ field ∈ front', Colonless field) (hback' : ∀ field ∈ back', Colonless field)
    (hfronts : front.length = front'.length) (hbacks : back.length = back'.length)
    (h : ":".intercalate (front ++ free :: back) = ":".intercalate (front' ++ free' :: back')) :
    front = front' ∧ free = free' ∧ back = back' := by
  have hparts := congrArg parts h
  rw [parts_around hfront hback, parts_around hfront' hback'] at hparts
  obtain ⟨hfront, hrest⟩ := List.append_inj hparts (by simp [hfronts])
  obtain ⟨hfree, hback⟩ := List.append_inj' hrest (by simp [hbacks])
  exact ⟨map_toList_injective hfront, parts_injective hfree, map_toList_injective hback⟩

/-- The characters of a decimal number are digits. -/
theorem isDigit_of_mem_toString {n : ℕ} {c : Char} (h : c ∈ (toString n).toList) :
    c.isDigit = true := by
  have htoList : (toString n).toList = Nat.toDigits 10 n := by
    simp [Nat.repr]
  rw [htoList] at h
  exact Nat.isDigit_of_mem_toDigits (by omega) (by omega) h

/-- A decimal number has a digit. -/
theorem toString_ne_nil (n : ℕ) : (toString n).toList ≠ [] := by
  simp [Nat.repr]

/-- A decimal number has no colon. -/
theorem colonless_toString (n : ℕ) : Colonless (toString n) := by
  intro h
  exact absurd (isDigit_of_mem_toString h) (by decide)

end Texts

end Fields
