import SyrupRail.Gateway.Value

/-!
# Truncated diagnostics

`truncate_gateway_detail_to_length` keeps the longest start of a text that leaves room for three
dots, and takes the beginning of a redaction mark off its end. One removal is enough: the mark opens
with a bracket and has no other one, so a text that is followed by a bracket does not end inside a
mark (`not_inside_of_head`), and a text from which nothing was removed ends with no beginning of a
mark.
-/

namespace SyrupRail

open RustText

/-- The octets of some characters. -/
def octets (cs : List Char) : ℕ := (cs.map Char.utf8Size).sum

/-- The octets of a text are those of its characters. -/
theorem utf8ByteSize_eq_octets (s : String) : s.utf8ByteSize = octets s.toList := by
  rw [octets, ← utf8ByteSize_ofList, String.ofList_toList]

/-- The octets of two texts add up. -/
theorem octets_append (cs cs' : List Char) : octets (cs ++ cs') = octets cs + octets cs' := by
  unfold octets
  rw [List.map_append, List.sum_append]

/-- The start that fits is a start. -/
theorem takeBytes_isPrefix (limit : ℕ) (cs : List Char) : takeBytes limit cs <+: cs := by
  induction cs generalizing limit with
  | nil => exact List.prefix_rfl
  | cons c cs ih =>
    unfold takeBytes
    split_ifs with hlarge
    · exact List.nil_prefix
    · exact (List.prefix_cons_inj c).mpr (ih (limit - c.utf8Size))

/-- The start that fits does fit. -/
theorem octets_takeBytes_le (limit : ℕ) (cs : List Char) : octets (takeBytes limit cs) ≤ limit := by
  induction cs generalizing limit with
  | nil => exact Nat.zero_le limit
  | cons c cs ih =>
    unfold takeBytes
    split_ifs with hlarge
    · exact Nat.zero_le limit
    · have htail := ih (limit - c.utf8Size)
      unfold octets at htail ⊢
      rw [List.map_cons, List.sum_cons]
      omega

/-- The start that fits of a text that does not is within three octets of the limit: the next
character has at most four. -/
theorem le_octets_takeBytes {limit : ℕ} {cs : List Char} (h : limit < octets cs) :
    limit ≤ octets (takeBytes limit cs) + 3 := by
  induction cs generalizing limit with
  | nil => exact absurd h (Nat.not_lt_zero limit)
  | cons c cs ih =>
    have hsize : c.utf8Size ≤ 4 := c.utf8Size_le_four
    unfold octets at h
    rw [List.map_cons, List.sum_cons] at h
    unfold takeBytes
    split_ifs with hlarge
    · omega
    · have htail := @ih (limit - c.utf8Size) (by unfold octets; omega)
      unfold octets at htail ⊢
      rw [List.map_cons, List.sum_cons]
      omega

/-- What is taken off the end is the beginning of a mark, and nothing is taken off only where the
text ends with none. -/
theorem trimPartialRedactionMarkerSuffix_spec (value : List Char) :
    ∃ n ≤ 9, value = trimPartialRedactionMarkerSuffix value ++ redactionMark.take n ∧
      (n = 0 → ∀ k, 1 ≤ k → k ≤ 9 → ¬ redactionMark.take k <:+ value) := by
  unfold trimPartialRedactionMarkerSuffix
  cases hfind : [9, 8, 7, 6, 5, 4, 3, 2, 1].find? fun n =>
    (redactionMark.take n).isSuffixOf value with
  | none =>
    refine ⟨0, Nat.zero_le 9, (List.append_nil value).symm, fun _ k hpos hle hsuffix => ?_⟩
    have hnone := List.find?_eq_none.mp hfind k (by simp; omega)
    exact hnone (List.isSuffixOf_iff_suffix.mpr hsuffix)
  | some n =>
    have hmem := List.mem_of_find?_eq_some hfind
    have hrange : 1 ≤ n ∧ n ≤ 9 := by
      simp only [List.mem_cons, List.not_mem_nil, or_false] at hmem
      omega
    have hfound : (redactionMark.take n).isSuffixOf value = true := by
      simpa using List.find?_some hfind
    obtain ⟨kept, hkept⟩ := List.isSuffixOf_iff_suffix.mp hfound
    have hlength : (redactionMark.take n).length = n := by
      rw [List.length_take]
      have : redactionMark.length = 10 := by decide
      omega
    refine ⟨n, hrange.2, ?_, fun hzero => by omega⟩
    show value = value.take (value.length - n) ++ redactionMark.take n
    have htake : value.take (value.length - n) = kept := by
      rw [← hkept, List.length_append, hlength, Nat.add_sub_cancel, List.take_left]
    rw [htake, hkept]

/-- Whether a cut behind some characters lies strictly inside a mark that opens behind some
characters. -/
def InsideMark (cut opening : ℕ) : Prop := opening < cut ∧ cut < opening + redactionMark.length

/-- A cut inside a mark has a beginning of the mark before it, and the rest of the mark behind
it. -/
theorem split_of_insideMark {kept dropped before after : List Char}
    (h : kept ++ dropped = before ++ redactionMark ++ after)
    (hinside : InsideMark kept.length before.length) :
    ∃ k, 1 ≤ k ∧ k ≤ 9 ∧ redactionMark.take k <:+ kept ∧
      dropped = redactionMark.drop k ++ after := by
  obtain ⟨hopen, hclose⟩ := hinside
  have hten : redactionMark.length = 10 := by decide
  rw [List.append_assoc] at h
  obtain ⟨inside, hinside, hrest⟩ | ⟨gap, hgap, -⟩ := List.append_eq_append_iff.mp h.symm
  · rw [hinside, List.length_append] at hopen hclose
    obtain ⟨rest, hmark, hafter⟩ | ⟨rest, hlong, -⟩ := List.append_eq_append_iff.mp hrest.symm
    · have htake : redactionMark.take inside.length = inside := by rw [hmark, List.take_left]
      have hdrop : redactionMark.drop inside.length = rest := by rw [hmark, List.drop_left]
      refine ⟨inside.length, by omega, by omega, ?_, ?_⟩
      · rw [htake, hinside]
        exact List.suffix_append before inside
      · rw [hdrop, hafter]
    · have hlength := congrArg List.length hlong
      rw [List.length_append] at hlength
      have hnil : rest = [] := List.length_eq_zero_iff.mp (by omega)
      omega
  · rw [hgap, List.length_append] at hopen
    omega

/-- What follows a cut inside a mark is no bracket: a mark has one only where it opens. -/
theorem not_inside_of_head {kept dropped before after : List Char}
    (h : kept ++ dropped = before ++ redactionMark ++ after) (hhead : dropped.head? = some '[') :
    ¬ InsideMark kept.length before.length := by
  intro hinside
  obtain ⟨k, hpos, hle, -, hdropped⟩ := split_of_insideMark h hinside
  have hmark : ∀ k < 10, 1 ≤ k → ((redactionMark.drop k).head?).isSome = true ∧
      (redactionMark.drop k).head? ≠ some '[' := by decide
  obtain ⟨hsome, hbracket⟩ := hmark k (by omega) hpos
  obtain ⟨c, hc⟩ := Option.isSome_iff_exists.mp hsome
  rw [hdropped, List.head?_append, hc, Option.some_or] at hhead
  exact hbracket (hc.trans hhead)

/-- The start that is kept does not end inside a mark of the message. -/
theorem kept_not_insideMark {message start : List Char} (hstart : start <+: message)
    {before after : List Char} (hmark : message = before ++ redactionMark ++ after) :
    ¬ InsideMark (trimPartialRedactionMarkerSuffix start).length before.length := by
  obtain ⟨n, hn, hsplit, hnone⟩ := trimPartialRedactionMarkerSuffix_spec start
  obtain ⟨rest, hrest⟩ := hstart
  generalize trimPartialRedactionMarkerSuffix start = kept at hsplit ⊢
  have hwhole : kept ++ (redactionMark.take n ++ rest) = before ++ redactionMark ++ after := by
    rw [← List.append_assoc, ← hsplit, hrest, hmark]
  cases n with
  | zero =>
    intro hinside
    obtain ⟨k, hpos, hle, hsuffix, -⟩ := split_of_insideMark hwhole hinside
    have hstart : start = kept := by rw [hsplit, List.take_zero, List.append_nil]
    exact hnone rfl k hpos hle (hstart ▸ hsuffix)
  | succ n =>
    have hhead : (redactionMark.take (n + 1) ++ rest).head? = some '[' := rfl
    exact not_inside_of_head hwhole hhead

/-- The octets of a text with three dots behind it. -/
theorem utf8ByteSize_dots (kept : List Char) :
    (String.ofList (kept ++ ['.', '.', '.'])).utf8ByteSize = octets kept + 3 := by
  have hdots : octets ['.', '.', '.'] = 3 := by decide
  rw [utf8ByteSize_eq_octets, String.toList_ofList, octets_append, hdots]

/-- A text that is too large is cut, for a limit above three: with what was removed of a mark the
start that is kept is within three octets of the room that the dots leave. -/
theorem exists_kept {message : String} {maxLength : ℕ} (hlong : 3 < maxLength)
    (hlarge : maxLength < message.utf8ByteSize) : ∃ kept : List Char, ∃ n ≤ 9,
      truncateGatewayDetailToLength message maxLength = String.ofList (kept ++ ['.', '.', '.']) ∧
      kept ++ redactionMark.take n <+: message.toList ∧
      (∀ before after, message.toList = before ++ redactionMark ++ after →
        ¬ InsideMark kept.length before.length) ∧
      octets kept + n + 3 ≤ maxLength ∧ maxLength ≤ octets kept + n + 6 := by
  have hvalue : truncateGatewayDetailToLength message maxLength =
      String.ofList (trimPartialRedactionMarkerSuffix (takeBytes (maxLength - 3) message.toList) ++
        ['.', '.', '.']) := by
    unfold truncateGatewayDetailToLength
    rw [if_neg (by omega), if_neg (by omega), if_neg (by omega)]
  have hstart := takeBytes_isPrefix (maxLength - 3) message.toList
  have hfits := octets_takeBytes_le (maxLength - 3) message.toList
  have hfull :=
    @le_octets_takeBytes (maxLength - 3) message.toList (by rw [← utf8ByteSize_eq_octets]; omega)
  generalize takeBytes (maxLength - 3) message.toList = start at hvalue hstart hfits hfull
  obtain ⟨n, hn, hsplit, -⟩ := trimPartialRedactionMarkerSuffix_spec start
  have hmark : ∀ n < 10, octets (redactionMark.take n) = n := by decide
  have hoctets : octets start = octets (trimPartialRedactionMarkerSuffix start) + n := by
    calc octets start =
           octets (trimPartialRedactionMarkerSuffix start ++ redactionMark.take n) := by
             rw [← hsplit]
      _ = octets (trimPartialRedactionMarkerSuffix start) + n := by
        rw [octets_append, hmark n (by omega)]
  refine ⟨_, n, hn, hvalue, ?_, fun before after => kept_not_insideMark hstart, by omega, by omega⟩
  rw [← hsplit]
  exact hstart

/-- No result is larger than the limit. -/
theorem utf8ByteSize_truncate_le (message : String) (maxLength : ℕ) :
    (truncateGatewayDetailToLength message maxLength).utf8ByteSize ≤ maxLength := by
  by_cases hcut : 3 < maxLength ∧ maxLength < message.utf8ByteSize
  · obtain ⟨kept, n, -, hvalue, -, -, hbound, -⟩ := exists_kept hcut.1 hcut.2
    rw [hvalue, utf8ByteSize_dots]
    omega
  · -- Up to three octets the result is that many dots.
    have hdots : ∀ n ≤ 3, octets (List.replicate n '.') = n := by decide
    unfold truncateGatewayDetailToLength
    split_ifs with hzero hfits hsmall
    · exact Nat.zero_le maxLength
    · exact hfits
    · rw [utf8ByteSize_eq_octets, String.toList_ofList, hdots maxLength hsmall]
    · omega

/-- A text is cut tightly. The result has at most the octets of the limit, and is the text exactly
if that fits. Otherwise, for a limit above three, it is a start of the text with three dots behind
it: the cut lies inside no mark of the text, and back with what was removed of a mark, at most nine
characters of ASCII, the result is within three octets of the limit. -/
theorem truncation_is_tight (message : String) (maxLength : ℕ) :
    (truncateGatewayDetailToLength message maxLength).utf8ByteSize ≤ maxLength ∧
      (truncateGatewayDetailToLength message maxLength = message ↔
        message.utf8ByteSize ≤ maxLength) ∧
      (3 < maxLength → maxLength < message.utf8ByteSize → ∃ kept : List Char, ∃ n ≤ 9,
        truncateGatewayDetailToLength message maxLength = String.ofList (kept ++ ['.', '.', '.']) ∧
        kept ++ redactionMark.take n <+: message.toList ∧
        (∀ before after, message.toList = before ++ redactionMark ++ after →
          ¬ InsideMark kept.length before.length) ∧
        maxLength ≤ (truncateGatewayDetailToLength message maxLength).utf8ByteSize + n + 3) := by
  have hle := utf8ByteSize_truncate_le message maxLength
  refine ⟨hle, ⟨fun hsame => hsame ▸ hle, fun hfits => ?_⟩, fun hlong hlarge => ?_⟩
  · unfold truncateGatewayDetailToLength
    split_ifs with hzero
    · have hempty : message.utf8ByteSize = 0 := by omega
      exact (String.utf8ByteSize_eq_zero_iff.mp hempty).symm
    · rfl
  · obtain ⟨kept, n, hn, hvalue, hprefix, hinside, -, hbound⟩ := exists_kept hlong hlarge
    have hsize : (truncateGatewayDetailToLength message maxLength).utf8ByteSize =
        octets kept + 3 := by
      rw [hvalue, utf8ByteSize_dots]
    exact ⟨kept, n, hn, hvalue, hprefix, hinside, by omega⟩

/-- A mark that the limit splits is left out. -/
example : truncateGatewayDetailToLength "abcdefgh[redacted] trailing" 15 = "abcdefgh..." := by
  decide +kernel

end SyrupRail
