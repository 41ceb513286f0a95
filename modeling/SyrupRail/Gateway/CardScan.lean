import SyrupRail.Gateway.CardData

/-!
# The card scanner is exact

What `raw_card_data_ranges` returns, said without the scan: the scalars are split at letters, and of
each piece with a digit the span of its digits is kept when some window of them passes and the span
is no timestamp (`cardRanges`). The scan is followed scalar by scalar; between two letters it
describes the piece that is open (`ScanOf`).
-/

namespace SyrupRail.CardData

open RustText

/-! ## Timestamps -/

/-- The number that ASCII digits write. -/
theorem parseAsciiDigits_eq {cs : List Char} (h : ∀ c ∈ cs, c.isDigit = true) :
    parseAsciiDigits (cs.map Char.toNat) = some (SyrupRail.parseAsciiDigits cs) := by
  have hfold (start : ℕ) : (cs.map Char.toNat).foldlM
      (fun value byte => if 48 ≤ byte then some (value * 10 + (byte - 48)) else none) start =
      some (Nat.ofDigitChars 10 cs start) := by
    induction cs generalizing start with
    | nil => rfl
    | cons c cs ih =>
      obtain ⟨hc, hcs⟩ := List.forall_mem_cons.mp h
      have hdigit : 48 ≤ c.toNat := by
        simp only [Char.isDigit, Bool.and_eq_true, decide_eq_true_eq, UInt32.le_iff_toNat_le] at hc
        have hnat : c.toNat = c.val.toNat := rfl
        have hzero : '0'.val.toNat = 48 := rfl
        omega
      rw [List.map_cons, List.foldlM_cons, if_pos hdigit, Nat.ofDigitChars_cons]
      have hstep : start * 10 + (c.toNat - 48) = 10 * start + (c.toNat - '0'.toNat) := by
        rw [Nat.mul_comm]
        rfl
      rw [← hstep]
      exact ih hcs _
  exact hfold 0

/-- An octet that is an ASCII digit is a character that is one. -/
theorem all_digit_bytes_iff {cs : List Char} :
    ((utf8Bytes cs).all fun byte => 48 ≤ byte && byte ≤ 57) = true ↔
      ∀ c ∈ cs, c.isDigit = true := by
  have hdigit {c : Char} : c.isDigit = true ↔ 48 ≤ c.toNat ∧ c.toNat ≤ 57 := by
    simp only [Char.isDigit, Bool.and_eq_true, decide_eq_true_eq, UInt32.le_iff_toNat_le]
    exact Iff.rfl
  have hchar (c : Char) : (∀ byte ∈ charBytes c, 48 ≤ byte ∧ byte ≤ 57) ↔ c.isDigit = true := by
    by_cases hascii : c.toNat < 128
    · rw [charBytes_ascii hascii, List.forall_mem_singleton, hdigit]
    · refine iff_of_false (fun h => ?_) (fun h => ?_)
      · obtain ⟨byte, rest, hbytes⟩ := List.exists_cons_of_length_pos (length_charBytes_pos c)
        have hmem : byte ∈ charBytes c := by
          rw [hbytes]
          exact List.mem_cons_self
        have hle := le_of_mem_charBytes hascii hmem
        have hsmall := h byte hmem
        omega
      · have hsmall := hdigit.mp h
        omega
  rw [List.all_eq_true]
  simp only [Bool.and_eq_true, decide_eq_true_eq, utf8Bytes, List.mem_flatMap]
  constructor
  · intro h c hc
    exact (hchar c).mp fun byte hbyte => h byte ⟨c, hc, hbyte⟩
  · rintro h byte ⟨c, hc, hbyte⟩
    exact (hchar c).mpr (h c hc) byte hbyte

/-- The check of a candidate does not panic. -/
theorem candidateIsCompactDateTime_eq (candidate : List Char) :
    candidateIsCompactDateTime (utf8Bytes candidate) =
      some (SyrupRail.candidateIsCompactDateTime candidate) := by
  unfold candidateIsCompactDateTime SyrupRail.candidateIsCompactDateTime
  by_cases hdigits : ∀ c ∈ candidate, c.isDigit = true
  · have hascii : ∀ c ∈ candidate, c.toNat < 128 :=
      fun c hc => (digit_spec (.inl (hdigits c hc))).2.2.2.2
    have hall : candidate.all Char.isDigit = true := List.all_eq_true.mpr hdigits
    have hallBytes := all_digit_bytes_iff.mpr hdigits
    rw [utf8Bytes_of_ascii hascii] at hallBytes ⊢
    by_cases hlength : candidate.length = 14
    · have hslice (start stop : ℕ) (hle : start ≤ stop) (hstop : stop ≤ 14) :
          bytesSlice (candidate.map Char.toNat) start stop =
            some (((candidate.drop start).take (stop - start)).map Char.toNat) := by
        unfold bytesSlice
        rw [if_pos ⟨hle, by rw [List.length_map]; omega⟩, ← List.map_take, ← List.map_drop,
          List.drop_take]
      have hparse (start n : ℕ) :
        parseAsciiDigits (((candidate.drop start).take n).map Char.toNat) =
          some (SyrupRail.parseAsciiDigits ((candidate.drop start).take n)) :=
        parseAsciiDigits_eq fun c hc => hdigits c (List.drop_subset _ _ (List.take_subset _ _ hc))
      have hshape : ¬ ((candidate.map Char.toNat).length ≠ 14 ∨
          ¬ ((candidate.map Char.toNat).all fun byte => 48 ≤ byte && byte ≤ 57) = true) := by
        rw [List.length_map]
        exact not_or.mpr ⟨not_not.mpr hlength, not_not.mpr hallBytes⟩
      rw [if_neg hshape, if_pos ⟨hlength, hall⟩, hslice 0 4 (by decide) (by decide),
        hslice 4 6 (by decide) (by decide), hslice 6 8 (by decide) (by decide),
        hslice 8 10 (by decide) (by decide), hslice 10 12 (by decide) (by decide),
        hslice 12 14 (by decide) (by decide)]
      simp only [Option.bind_eq_bind, Option.bind_some, hparse]
      rfl
    · rw [if_pos (.inl (by rwa [List.length_map])), if_neg fun h => hlength h.1]
  · have hall : ¬ candidate.all Char.isDigit = true := fun h => hdigits (List.all_eq_true.mp h)
    rw [if_pos (.inr fun h => hdigits (all_digit_bytes_iff.mp h)), if_neg fun h => hall h.2]

/-! ## The ranges -/

/-- A scalar of the scan, with the octets it takes. -/
structure ScanScalar where
  char : Char
  start : ℕ
  stop : ℕ
  deriving DecidableEq, Repr

/-- The scalars that `next_card_scan_scalar` reads from an index to the end. -/
inductive Scanned (value : List Char) : ℕ → List ScanScalar → Prop
  | done : Scanned value (byteLen value) []
  | read {index next : ℕ} {c : Char} {rest : List ScanScalar} :
    nextCardScanScalar value index = some (c, next) → Scanned value next rest →
    Scanned value index (⟨c, index, next⟩ :: rest)

section Spec

variable (data : UnicodeData) (value : List Char)

/-- The scalars of a piece that are digits. -/
def digitScalars (piece : List ScanScalar) : List ScanScalar :=
  piece.filter fun scalar => (decimalDigitValue data scalar.char).isSome

/-- The digits of a piece. -/
def digitsOf (piece : List ScanScalar) : List ℕ :=
  piece.filterMap fun scalar => decimalDigitValue data scalar.char

/-- Whether a span is a timestamp of the years 2000 to 2099, written with 14 ASCII digits. -/
def isTimestamp (start stop : ℕ) : Bool :=
  (slice value start stop).any SyrupRail.candidateIsCompactDateTime

/-- The span of a piece from its first to its last digit, when it is kept. -/
def pieceRange (piece : List ScanScalar) : Option (ℕ × ℕ) :=
  match (digitScalars data piece).head?, (digitScalars data piece).getLast? with
  | some first, some last =>
    if hasLuhnWindow (digitsOf data piece) && !isTimestamp value first.start last.stop then
      some (first.start, last.stop)
    else none
  | _, _ => none

/-- The ranges of the pieces between letters. -/
def cardRanges (scalars : List ScanScalar) : List (ℕ × ℕ) :=
  (scalars.splitOnP fun scalar => data.isAlphabetic scalar.char).filterMap (pieceRange data value)

end Spec

/-! ## Scalars end to end -/

/-- Scalars that lie end to end on boundaries of a text. -/
structure EndToEnd (value : List Char) (scalars : List ScanScalar) : Prop where
  ordered : scalars.Pairwise fun s t => s.stop ≤ t.start
  span : ∀ s ∈ scalars, s.start < s.stop
  boundary : ∀ s ∈ scalars, IsBoundary value s.start ∧ IsBoundary value s.stop

/-- From a boundary on the scan reads scalars that lie end to end; each takes a character. -/
theorem exists_scanned (before after : List Char) :
    ∃ scalars, Scanned (before ++ after) (byteLen before) scalars ∧
      EndToEnd (before ++ after) scalars ∧ (∀ s ∈ scalars, byteLen before ≤ s.start) ∧
        scalars.length ≤ byteLen after := by
  induction hlength : after.length using Nat.strong_induction_on generalizing before after with
  | _ n ih =>
    cases after with
    | nil =>
      refine ⟨[], ?_, ⟨by simp, by simp, by simp⟩, by simp, by simp⟩
      have hdone := @Scanned.done (before ++ [])
      rwa [List.append_nil] at hdone ⊢
    | cons c cs =>
      obtain ⟨hnext, hpos, hle⟩ := nextCardScanScalar_eq before c cs
      generalize SyrupRail.nextCardScanScalar c cs = scalar at hnext hpos hle
      obtain ⟨decoded, count⟩ := scalar
      dsimp only at hnext hpos hle
      have hsplit : before ++ c :: cs =
          (before ++ (c :: cs).take count) ++ (c :: cs).drop count := by
        rw [List.append_assoc, List.take_append_drop]
      have htaken : (c :: cs).take count ≠ [] := by
        intro hnil
        have hzero := congrArg List.length hnil
        rw [List.length_take, List.length_nil] at hzero
        omega
      have hstep : 0 < byteLen ((c :: cs).take count) :=
        Nat.pos_of_ne_zero fun h => htaken (byteLen_eq_zero.mp h)
      have hbytes : byteLen ((c :: cs).take count) + byteLen ((c :: cs).drop count) =
          byteLen (c :: cs) := by
        rw [← byteLen_append, List.take_append_drop]
      obtain ⟨rest, hscanned, hrest, hfrom, hcount⟩ := ih ((c :: cs).drop count).length
        (by rw [List.length_drop]; omega) (before ++ (c :: cs).take count)
          ((c :: cs).drop count) rfl
      rw [← hsplit] at hscanned hrest
      refine ⟨_, .read hnext hscanned, ⟨?_, ?_, ?_⟩, ?_, ?_⟩
      · exact List.pairwise_cons.mpr ⟨fun s hs => hfrom s hs, hrest.ordered⟩
      · refine List.forall_mem_cons.mpr ⟨?_, hrest.span⟩
        dsimp only
        rw [byteLen_append]
        omega
      · refine List.forall_mem_cons.mpr ⟨⟨?_, ?_⟩, hrest.boundary⟩
        · exact ⟨before, c :: cs, rfl, rfl⟩
        · exact ⟨before ++ (c :: cs).take count, (c :: cs).drop count, hsplit, rfl⟩
      · refine List.forall_mem_cons.mpr ⟨le_rfl, fun s hs => ?_⟩
        have hle' := hfrom s hs
        rw [byteLen_append] at hle'
        omega
      · rw [List.length_cons]
        omega

/-- A slice between boundaries does not panic. -/
theorem exists_slice {value : List Char} {start stop : ℕ} (hstart : IsBoundary value start)
    (hstop : IsBoundary value stop) (hle : start ≤ stop) :
    ∃ middle, slice value start stop = some middle := by
  obtain ⟨before, after, rfl, rfl⟩ := hstart
  obtain ⟨before', after', heq, rfl⟩ := hstop
  rcases List.append_eq_append_iff.mp heq with ⟨middle, rfl, rfl⟩ | ⟨middle, rfl, rfl⟩
  · exact ⟨middle, slice_append before middle after'⟩
  · rw [byteLen_append] at hle
    obtain rfl := byteLen_eq_zero.mp (show byteLen middle = 0 by omega)
    exact ⟨[], by simpa using slice_append before' [] after⟩

/-! ## The scan -/

section Scan

variable {data : UnicodeData} {value : List Char}

/-- A digit is at most nine. -/
theorem decimalDigitValue_le {c : Char} {digit : ℕ} (h : decimalDigitValue data c = some digit) :
    digit ≤ 9 := by
  unfold decimalDigitValue at h
  split_ifs at h
  cases h
  omega

/-- The digits of a piece are at most nine. -/
theorem digitsOf_le {piece : List ScanScalar} : ∀ digit ∈ digitsOf data piece, digit ≤ 9 := by
  intro digit hdigit
  obtain ⟨scalar, -, hvalue⟩ := List.mem_filterMap.mp hdigit
  exact decimalDigitValue_le hvalue

/-- The variables of the scan while a piece is open. Where it has no digit yet, the end is that of
an earlier candidate. -/
structure ScanOf (data : UnicodeData) (ranges : List (ℕ × ℕ)) (piece : List ScanScalar)
    (scan : Scan) : Prop where
  ranges_eq : scan.ranges = ranges
  window : WindowOf (digitsOf data piece) scan.digits
  start : scan.candidateStart = (digitScalars data piece).head?.map ScanScalar.start
  stop : ∀ last, (digitScalars data piece).getLast? = some last → scan.candidateEnd = last.stop

/-- A scalar that is no digit changes nothing but the index. -/
theorem ScanOf.other {ranges : List (ℕ × ℕ)} {piece : List ScanScalar} {scan : Scan}
    (h : ScanOf data ranges piece scan) {scalar : ScanScalar}
    (hdigit : decimalDigitValue data scalar.char = none) (next : ℕ) :
    ScanOf data ranges (piece ++ [scalar]) { scan with index := next } := by
  have hscalars : digitScalars data (piece ++ [scalar]) = digitScalars data piece := by
    unfold digitScalars
    rw [List.filter_append, List.filter_cons_of_neg (by simp [hdigit]), List.filter_nil,
      List.append_nil]
  have hdigits : digitsOf data (piece ++ [scalar]) = digitsOf data piece := by
    unfold digitsOf
    rw [List.filterMap_append]
    simp [hdigit]
  refine ⟨h.ranges_eq, ?_, ?_, ?_⟩
  · rw [hdigits]
    exact h.window
  · rw [hscalars]
    exact h.start
  · rw [hscalars]
    exact h.stop

/-- A digit is pushed, and opens a candidate when there is none. -/
theorem ScanOf.digit {ranges : List (ℕ × ℕ)} {piece : List ScanScalar} {scan : Scan}
    (h : ScanOf data ranges piece scan) {scalar : ScanScalar} {digit : ℕ}
    (hdigit : decimalDigitValue data scalar.char = some digit)
    (hindex : scan.index = scalar.start) :
    ∃ window, scan.digits.push digit = some window ∧
      ScanOf data ranges (piece ++ [scalar])
        { scan with
          digits := window, candidateStart := scan.candidateStart.or (some scan.index)
          candidateEnd := scalar.stop, index := scalar.stop } := by
  obtain ⟨window, hpush, hwindow⟩ := push_spec h.window digitsOf_le (decimalDigitValue_le hdigit)
  have hscalars : digitScalars data (piece ++ [scalar]) = digitScalars data piece ++ [scalar] := by
    unfold digitScalars
    rw [List.filter_append, List.filter_cons_of_pos (by simp [hdigit]), List.filter_nil]
  have hdigits : digitsOf data (piece ++ [scalar]) = digitsOf data piece ++ [digit] := by
    unfold digitsOf
    rw [List.filterMap_append]
    simp [hdigit]
  refine ⟨window, hpush, h.ranges_eq, ?_, ?_, fun last hlast => ?_⟩
  · rw [hdigits]
    exact hwindow
  · dsimp only
    rw [hscalars, h.start, hindex]
    cases digitScalars data piece <;> rfl
  · rw [hscalars, List.getLast?_concat] at hlast
    cases hlast
    rfl

/-- Where a piece ends its range is pushed, when it is kept. -/
theorem pushRawCardRange_spec {ranges : List (ℕ × ℕ)} {piece : List ScanScalar} {scan : Scan}
    (h : ScanOf data ranges piece scan) (hpiece : EndToEnd value piece) :
    pushRawCardRange value scan = some (ranges ++ (pieceRange data value piece).toList) := by
  unfold pushRawCardRange pieceRange
  rw [h.start, h.ranges_eq]
  cases hscalars : digitScalars data piece with
  | nil => simp
  | cons first rest =>
    obtain ⟨last, hlast⟩ : ∃ last, (digitScalars data piece).getLast? = some last := by
      rw [hscalars]
      exact ⟨_, List.getLast?_eq_some_getLast (by simp)⟩
    have hsub : (digitScalars data piece).Sublist piece := List.filter_sublist
    have hfirstMem : first ∈ piece := hsub.subset (by rw [hscalars]; exact List.mem_cons_self)
    have hlastMem : last ∈ piece := hsub.subset (List.mem_of_getLast? hlast)
    have hle : first.start ≤ last.stop := by
      have hspan := hpiece.span first hfirstMem
      have hspan' := hpiece.span last hlastMem
      have hordered := hpiece.ordered.sublist hsub
      rw [hscalars, List.pairwise_cons] at hordered
      have hmem : last ∈ digitScalars data piece := List.mem_of_getLast? hlast
      rw [hscalars, List.mem_cons] at hmem
      rcases hmem with rfl | hmem
      · exact hspan.le
      · have := hordered.1 last hmem
        omega
    obtain ⟨candidate, hslice⟩ := exists_slice (hpiece.boundary first hfirstMem).1
      (hpiece.boundary last hlastMem).2 hle
    rw [h.stop last hlast, h.window.flag, ← hscalars, hlast, hscalars]
    simp only [List.head?_cons, Option.map_some]
    cases hwindow : hasLuhnWindow (digitsOf data piece) with
    | false => simp
    | true =>
      unfold isTimestamp
      rw [hslice]
      simp only [Bool.not_true, Bool.false_eq_true, if_false, Option.bind_eq_bind, Option.bind_some,
        candidateIsCompactDateTime_eq, Option.any_some, Bool.true_and]
      cases SyrupRail.candidateIsCompactDateTime candidate <;> simp

/-- Parts of scalars that lie end to end do so. -/
theorem EndToEnd.sublist {scalars part : List ScanScalar} (h : EndToEnd value scalars)
    (hpart : part.Sublist scalars) : EndToEnd value part :=
  ⟨h.ordered.sublist hpart, fun s hs => h.span s (hpart.subset hs),
    fun s hs => h.boundary s (hpart.subset hs)⟩

/-- The scan from an open piece on: its end pushes the ranges of the piece and of the scalars
left. -/
theorem scanLoop_spec (hletter : ∀ c, decimalDigitValue data c ≠ none → data.isAlphabetic c = false)
    {ranges : List (ℕ × ℕ)} {piece scalars : List ScanScalar} {scan : Scan} {fuel : ℕ}
    (hscan : ScanOf data ranges piece scan) (hscanned : Scanned value scan.index scalars)
    (hends : EndToEnd value (piece ++ scalars))
    (hpiece : ∀ s ∈ piece, data.isAlphabetic s.char = false) (hfuel : scalars.length < fuel) :
    ∃ scan', scanLoop data value fuel scan = some scan' ∧
      pushRawCardRange value scan' = some (ranges ++ cardRanges data value (piece ++ scalars)) := by
  induction scalars generalizing ranges piece scan fuel with
  | nil =>
    obtain ⟨fuel, rfl⟩ := Nat.exists_eq_add_one_of_ne_zero (show fuel ≠ 0 by omega)
    rw [List.append_nil] at hends ⊢
    have hpieces : cardRanges data value piece = (pieceRange data value piece).toList := by
      unfold cardRanges
      rw [List.splitOnP_eq_singleton hpiece]
      cases hrange : pieceRange data value piece <;> simp [hrange]
    have hindex : scan.index = byteLen value := by
      generalize scan.index = index at hscanned
      cases hscanned
      rfl
    refine ⟨scan, ?_, ?_⟩
    · unfold scanLoop
      rw [if_neg (by omega)]
    · rw [hpieces]
      exact pushRawCardRange_spec hscan hends
  | cons scalar scalars ih =>
    obtain ⟨fuel, rfl⟩ := Nat.exists_eq_add_one_of_ne_zero (show fuel ≠ 0 by omega)
    rw [List.length_cons] at hfuel
    obtain ⟨hindex, hread, hrest⟩ : scan.index = scalar.start ∧
        nextCardScanScalar value scan.index = some (scalar.char, scalar.stop) ∧
        Scanned value scalar.stop scalars := by
      generalize scan.index = index at hscanned
      cases hscanned with
      | read hread hrest => exact ⟨rfl, hread, hrest⟩
    have hinside : scan.index < byteLen value := by
      unfold nextCardScanScalar at hread
      obtain ⟨byte, hbyte, -⟩ := Option.bind_eq_some_iff.mp hread
      exact (List.getElem?_eq_some_iff.mp hbyte).1
    have happend : piece ++ scalar :: scalars = (piece ++ [scalar]) ++ scalars := by simp
    have hstep {scan' : Scan} (h : scanScalar data value scan scalar.char scalar.stop =
      some scan') :
        scanLoop data value (fuel + 1) scan = scanLoop data value fuel scan' := by
      rw [scanLoop, if_pos hinside, hread]
      simp only [Option.bind_eq_bind, Option.bind_some, h]
    cases hdigit : decimalDigitValue data scalar.char with
    | some digit =>
      obtain ⟨window, hpush, hnext⟩ := hscan.digit hdigit hindex
      have hscalar : scanScalar data value scan scalar.char scalar.stop = some
          { scan with
            digits := window, candidateStart := scan.candidateStart.or (some scan.index)
            candidateEnd := scalar.stop, index := scalar.stop } := by
        unfold scanScalar
        rw [hdigit]
        simp only [hpush, Option.bind_eq_bind, Option.bind_some]
      rw [hstep hscalar, happend]
      refine ih hnext hrest (happend ▸ hends) ?_ (by omega)
      exact List.forall_mem_append.mpr ⟨hpiece, by simpa using hletter _ (by simp [hdigit])⟩
    | none =>
      cases halphabetic : data.isAlphabetic scalar.char with
      | false =>
        have hscalar : scanScalar data value scan scalar.char scalar.stop =
            some { scan with index := scalar.stop } := by
          unfold scanScalar
          rw [hdigit]
          simp only [halphabetic, Bool.false_eq_true, if_false]
        rw [hstep hscalar, happend]
        refine ih (hscan.other hdigit scalar.stop) hrest (happend ▸ hends) ?_ (by omega)
        exact List.forall_mem_append.mpr ⟨hpiece, by simpa using halphabetic⟩
      | true =>
        -- The letter closes the piece, and opens an empty one.
        have hpushed := pushRawCardRange_spec hscan
          (hends.sublist (List.sublist_append_left piece (scalar :: scalars)))
        have hscalar : scanScalar data value scan scalar.char scalar.stop = some
            { scan with
              ranges := ranges ++ (pieceRange data value piece).toList, candidateStart := none
              digits := .new, index := scalar.stop } := by
          unfold scanScalar
          rw [hdigit]
          simp only [halphabetic, if_true, hpushed, Option.bind_eq_bind, Option.bind_some]
        have hempty : ScanOf data (ranges ++ (pieceRange data value piece).toList) []
            { scan with
              ranges := ranges ++ (pieceRange data value piece).toList, candidateStart := none
              digits := .new, index := scalar.stop } :=
          ⟨rfl, windowOf_new, rfl, nofun⟩
        have hpieces : cardRanges data value (piece ++ scalar :: scalars) =
            (pieceRange data value piece).toList ++ cardRanges data value ([] ++ scalars) := by
          unfold cardRanges
          rw [List.splitOnP_append_cons_of_forall_mem hpiece scalar halphabetic, List.nil_append]
          cases hrange : pieceRange data value piece <;> simp [hrange]
        rw [hstep hscalar, hpieces, ← List.append_assoc]
        refine ih hempty hrest ?_ (by simp) (by omega)
        exact hends.sublist ((List.sublist_cons_self scalar scalars).trans
          (List.sublist_append_right piece (scalar :: scalars)))

/-- The span of a piece lies between scalars of the piece. -/
theorem mem_of_pieceRange {piece : List ScanScalar} {range : ℕ × ℕ}
    (h : pieceRange data value piece = some range) :
    ∃ first ∈ piece, ∃ last ∈ piece, range = (first.start, last.stop) ∧
      (first = last ∨ ∃ between, (first :: (between ++ [last])).Sublist piece) := by
  have hsub : (digitScalars data piece).Sublist piece := List.filter_sublist
  unfold pieceRange at h
  split at h
  · rename_i first last hfirst hlast
    split_ifs at h
    cases h
    refine ⟨first, hsub.subset (List.mem_of_head? hfirst), last,
      hsub.subset (List.mem_of_getLast? hlast), rfl, ?_⟩
    cases hscalars : digitScalars data piece with
    | nil =>
      rw [hscalars] at hfirst
      cases hfirst
    | cons scalar rest =>
      rw [hscalars] at hfirst hlast
      cases hfirst
      rcases List.eq_nil_or_concat rest with rfl | ⟨between, last', rfl⟩
      · cases hlast
        exact .inl rfl
      · rw [List.getLast?_cons_of_ne_nil (by simp), List.concat_eq_append,
          List.getLast?_concat] at hlast
        cases hlast
        rw [hscalars, List.concat_eq_append] at hsub
        exact .inr ⟨between, hsub⟩
  · cases h

/-- The ranges of scalars that lie end to end increase, are disjoint, and lie on boundaries. -/
theorem cardRanges_ordered {scalars : List ScanScalar} (h : EndToEnd value scalars) :
    (cardRanges data value scalars).Pairwise (fun r r' => r.2 ≤ r'.1) ∧
      ∀ r ∈ cardRanges data value scalars,
        r.1 < r.2 ∧ IsBoundary value r.1 ∧ IsBoundary value r.2 := by
  have hflat :
      EndToEnd value (scalars.splitOnP fun scalar => data.isAlphabetic scalar.char).flatten := by
    rw [flatten_splitOnP]
    exact h.sublist List.filter_sublist
  obtain ⟨-, hpieces⟩ := List.pairwise_flatten.mp hflat.ordered
  unfold cardRanges
  constructor
  · refine List.Pairwise.filterMap _
      (fun piece piece' hordered range hrange range' hrange' => ?_) hpieces
    obtain ⟨first, -, last, hlast, rfl, -⟩ := mem_of_pieceRange hrange
    obtain ⟨first', hfirst', last', -, rfl, -⟩ := mem_of_pieceRange hrange'
    exact hordered last hlast first' hfirst'
  · intro range hrange
    obtain ⟨piece, hpiece, hrange⟩ := List.mem_filterMap.mp hrange
    obtain ⟨first, hfirst, last, hlast, rfl, hsame⟩ := mem_of_pieceRange hrange
    have hfirstSpan := hflat.span first (List.mem_flatten.mpr ⟨piece, hpiece, hfirst⟩)
    have hlastSpan := hflat.span last (List.mem_flatten.mpr ⟨piece, hpiece, hlast⟩)
    refine ⟨?_, (hflat.boundary first (List.mem_flatten.mpr ⟨piece, hpiece, hfirst⟩)).1,
      (hflat.boundary last (List.mem_flatten.mpr ⟨piece, hpiece, hlast⟩)).2⟩
    rcases hsame with rfl | ⟨between, hsub⟩
    · exact hfirstSpan
    · have hordered := hflat.ordered.sublist (hsub.trans (List.sublist_flatten_of_mem hpiece))
      have hle := (List.pairwise_cons.mp hordered).1 last (by simp)
      dsimp only
      omega

/-- The scalars of a text are determined. -/
theorem Scanned.unique {index : ℕ} {scalars scalars' : List ScanScalar}
    (h : Scanned value index scalars) (h' : Scanned value index scalars') : scalars = scalars' := by
  have hend {next : ℕ} {c : Char} : nextCardScanScalar value (byteLen value) ≠ some (c, next) := by
    intro hread
    unfold nextCardScanScalar at hread
    obtain ⟨byte, hbyte, -⟩ := Option.bind_eq_some_iff.mp hread
    exact absurd (List.getElem?_eq_some_iff.mp hbyte).1 (lt_irrefl _)
  induction h generalizing scalars' with
  | done =>
    generalize hindex : byteLen value = index at h'
    cases h' with
    | done => rfl
    | read hread =>
      rw [← hindex] at hread
      exact absurd hread hend
  | read hread hrest ih =>
    cases h' with
    | done => exact absurd hread hend
    | read hread' hrest' =>
      rw [hread] at hread'
      cases hread'
      rw [ih hrest']

end Scan

/-- The card scanner is exact: it reads the text to its end without a panic, and returns the span of
each piece between letters whose digits have a window that passes and that is no timestamp; the
spans increase, are disjoint, and lie on boundaries of the text. A digit is no letter. -/
theorem card_scanner_exact (data : UnicodeData)
    (hletter : ∀ c : Char, data.isDecimalNumber c.toNat = true → data.isAlphabetic c = false)
    (value : List Char) :
    (∃ scalars, Scanned value 0 scalars) ∧
    ∀ scalars, Scanned value 0 scalars →
      rawCardDataRanges data value = some (cardRanges data value scalars) ∧
      (cardRanges data value scalars).Pairwise (fun r r' => r.2 ≤ r'.1) ∧
      ∀ r ∈ cardRanges data value scalars, r.1 < r.2 ∧ IsBoundary value r.1 ∧
        IsBoundary value r.2 := by
  obtain ⟨scalars, hscanned, hends, -, hcount⟩ := exists_scanned [] value
  rw [List.nil_append] at hscanned hends
  have hnoLetter : ∀ c, decimalDigitValue data c ≠ none → data.isAlphabetic c = false := by
    intro c hc
    unfold decimalDigitValue at hc
    split_ifs at hc with hdecimal
    · exact hletter c hdecimal
    · exact absurd rfl hc
  refine ⟨⟨scalars, hscanned⟩, fun scalars' hscanned' => ?_⟩
  obtain rfl := hscanned.unique hscanned'
  have hinit : ScanOf data [] [] ⟨[], .new, none, 0, 0⟩ := ⟨rfl, windowOf_new, rfl, nofun⟩
  obtain ⟨scan, hloop, hpush⟩ := scanLoop_spec hnoLetter hinit hscanned hends (by simp)
    (show scalars.length < byteLen value + 1 by omega)
  refine ⟨?_, cardRanges_ordered hends⟩
  unfold rawCardDataRanges
  rw [hloop]
  exact hpush

/-- The digits and letters of ASCII. -/
def asciiData : UnicodeData := ⟨fun code => 48 ≤ code && code ≤ 57, Char.isAlpha⟩

/-- A card number between percent-encoded marks is found, from its first to its last digit. -/
theorem card_scanner_exact_encoded : ∃ scalars,
    Scanned "no 4111%201111-1111 1111!".toList 0 scalars ∧
      cardRanges asciiData "no 4111%201111-1111 1111!".toList scalars = [(3, 24)] := by
  have hletter : ∀ c : Char, asciiData.isDecimalNumber c.toNat = true →
      asciiData.isAlphabetic c = false := by
    intro c hc
    unfold asciiData at hc ⊢
    simp only [Bool.and_eq_true, decide_eq_true_eq] at hc
    have hall : ∀ n < 128, 48 ≤ n ∧ n ≤ 57 → (Char.ofNat n).isAlpha = false := by decide
    have hnone := hall c.toNat (by omega) hc
    rwa [Char.ofNat_toNat] at hnone
  obtain ⟨⟨scalars, hscanned⟩, hexact⟩ :=
    card_scanner_exact asciiData hletter "no 4111%201111-1111 1111!".toList
  have hranges : rawCardDataRanges asciiData "no 4111%201111-1111 1111!".toList =
      some [(3, 24)] := by
    decide +kernel
  refine ⟨scalars, hscanned, ?_⟩
  rw [(hexact scalars hscanned).1] at hranges
  exact Option.some.inj hranges

end SyrupRail.CardData
