import SyrupRail.Gateway.CardScan

/-!
# Redacted card data

`redact_raw_card_data` replaces what the card scanner found, and the scanner looks ahead: the scalar
at a percent sign depends on what stands behind it. A text is taken apart into the tokens that the
scanner reads (`Reads`). A mark begins with a bracket, which no escape contains, so that a token in
front of a mark is read as it was in front of what the mark replaced (`Reads.replace`); behind a
mark the text begins with a token as before. The tokens of the redacted text are therefore those of
the text with the found ones replaced, and a piece between letters is either unchanged or has lost
all its digits.
-/

namespace SyrupRail.CardData

open RustText

/-! ## The code -/

/-- The loop of `redact_raw_card_data`. -/
def redactLoop (message : List Char) : ℕ → List Char → List (ℕ × ℕ) → Option (List Char)
  | cursor, redacted, [] => do some (redacted ++ (← sliceFrom message cursor))
  | cursor, redacted, (start, stop) :: ranges => do
    let kept ← slice message cursor start
    redactLoop message stop (redacted ++ kept ++ redactionMark) ranges

/-- `redact_raw_card_data`. -/
def redactRawCardData (data : UnicodeData) (message : List Char) : Option (List Char) := do
  let ranges ← rawCardDataRanges data message
  if ranges.isEmpty then some message else redactLoop message 0 [] ranges

/-! ## Replacement of ranges -/

/-- A text, whose first octet is that of the cursor, with each range replaced by the mark and all
else kept. -/
inductive Replaced : ℕ → List Char → List (ℕ × ℕ) → List Char → Prop
  | rest (cursor : ℕ) (tail : List Char) : Replaced cursor tail [] tail
  | range {cursor : ℕ} (kept card : List Char) {message redacted : List Char}
    {ranges : List (ℕ × ℕ)}
    (h : Replaced (cursor + byteLen kept + byteLen card) message ranges redacted) :
    Replaced cursor (kept ++ (card ++ message))
      ((cursor + byteLen kept, cursor + byteLen kept + byteLen card) :: ranges)
      (kept ++ (redactionMark ++ redacted))

/-- The loop replaces the ranges, and no slice panics. -/
theorem Replaced.redactLoop {cursor : ℕ} {message redacted : List Char} {ranges : List (ℕ × ℕ)}
    (h : Replaced cursor message ranges redacted) :
    ∀ before done, byteLen before = cursor →
      CardData.redactLoop (before ++ message) cursor done ranges = some (done ++ redacted) := by
  induction h with
  | rest cursor tail =>
    intro before done hbefore
    unfold CardData.redactLoop
    rw [← hbefore, sliceFrom_append]
    rfl
  | @range cursor kept card message redacted ranges h ih =>
    intro before done hbefore
    have hslice := slice_append before kept (card ++ message)
    rw [byteLen_append, hbefore] at hslice
    have hstop : byteLen (before ++ (kept ++ card)) = cursor + byteLen kept + byteLen card := by
      rw [byteLen_append, byteLen_append, hbefore, ← Nat.add_assoc]
    have hrest := ih (before ++ (kept ++ card)) (done ++ kept ++ redactionMark) hstop
    rw [List.append_assoc, List.append_assoc] at hrest
    unfold CardData.redactLoop
    rw [hslice, Option.bind_eq_bind, Option.bind_some, hrest]
    simp only [List.append_assoc]

/-- Text in front of the first range is kept. -/
theorem Replaced.append {cursor : ℕ} {message redacted : List Char} {ranges : List (ℕ × ℕ)}
    (kept : List Char) (h : Replaced (cursor + byteLen kept) message ranges redacted) :
    Replaced cursor (kept ++ message) ranges (kept ++ redacted) := by
  generalize hcursor : cursor + byteLen kept = start at h
  cases h with
  | rest => exact .rest _ _
  | range kept' card h =>
    have hlength : cursor + byteLen (kept ++ kept') = start + byteLen kept' := by
      rw [byteLen_append, ← Nat.add_assoc, hcursor]
    rw [← hlength] at h ⊢
    have hrange := Replaced.range (kept ++ kept') card h
    rw [List.append_assoc, List.append_assoc] at hrange
    exact hrange

/-! ## Tokens -/

/-- A scalar of the scan with its characters. -/
structure Token where
  char : Char
  text : List Char
  deriving DecidableEq, Repr

/-- The text of tokens. -/
def textOf (tokens : List Token) : List Char := tokens.flatMap (·.text)

/-- The scanner reads the tokens from their text. -/
def Reads : List Token → Prop
  | [] => True
  | token :: tokens =>
    (∃ c cs, token.text ++ textOf tokens = c :: cs ∧
      SyrupRail.nextCardScanScalar c cs = (token.char, token.text.length)) ∧ Reads tokens

/-- The scalars of tokens, from an index on. -/
def spans : ℕ → List Token → List ScanScalar
  | _, [] => []
  | index, token :: tokens =>
    ⟨token.char, index, index + byteLen token.text⟩ :: spans (index + byteLen token.text) tokens

/-- The text of tokens in two parts. -/
theorem textOf_append (tokens tokens' : List Token) :
    textOf (tokens ++ tokens') = textOf tokens ++ textOf tokens' :=
  List.flatMap_append

/-- The text of a token and those behind it. -/
theorem textOf_cons (token : Token) (tokens : List Token) :
    textOf (token :: tokens) = token.text ++ textOf tokens :=
  List.flatMap_cons

/-- The scalars of tokens in two parts. -/
theorem spans_append (index : ℕ) (tokens tokens' : List Token) :
    spans index (tokens ++ tokens') =
      spans index tokens ++ spans (index + byteLen (textOf tokens)) tokens' := by
  induction tokens generalizing index with
  | nil => rfl
  | cons token tokens ih =>
    rw [List.cons_append, spans, spans, ih, textOf_cons, byteLen_append, List.cons_append,
      Nat.add_assoc]

/-- The characters of the scalars are those of the tokens. -/
theorem map_char_spans (index : ℕ) (tokens : List Token) :
    (spans index tokens).map ScanScalar.char = tokens.map Token.char := by
  induction tokens generalizing index with
  | nil => rfl
  | cons token tokens ih => rw [spans, List.map_cons, List.map_cons, ih]

/-- Every text is that of the tokens that are read from it. -/
theorem exists_reads (message : List Char) : ∃ tokens, Reads tokens ∧ textOf tokens = message := by
  induction hlength : message.length using Nat.strong_induction_on generalizing message with
  | _ n ih =>
    cases message with
    | nil => exact ⟨[], trivial, rfl⟩
    | cons c cs =>
      obtain ⟨-, hpos, hle⟩ := nextCardScanScalar_eq [] c cs
      obtain ⟨tokens, hreads, htext⟩ :=
        ih ((c :: cs).drop (SyrupRail.nextCardScanScalar c cs).2).length
          (by rw [List.length_drop]; omega)
            ((c :: cs).drop (SyrupRail.nextCardScanScalar c cs).2) rfl
      refine ⟨⟨(SyrupRail.nextCardScanScalar c cs).1,
        (c :: cs).take (SyrupRail.nextCardScanScalar c cs).2⟩ :: tokens, ⟨⟨c, cs, ?_, ?_⟩,
          hreads⟩, ?_⟩
      · dsimp only
        rw [htext, List.take_append_drop]
      · dsimp only
        rw [List.length_take, Nat.min_eq_left hle]
      · rw [textOf_cons, htext, List.take_append_drop]

/-- The tokens of a text are its scalars. -/
theorem Reads.scanned {tokens : List Token} (h : Reads tokens) (before : List Char) :
    Scanned (before ++ textOf tokens) (byteLen before) (spans (byteLen before) tokens) := by
  induction tokens generalizing before with
  | nil =>
    show Scanned (before ++ []) (byteLen before) []
    rw [List.append_nil]
    exact .done
  | cons token tokens ih =>
    obtain ⟨⟨c, cs, htext, hnext⟩, htokens⟩ := h
    obtain ⟨hread, -, -⟩ := nextCardScanScalar_eq before c cs
    have htake : (c :: cs).take token.text.length = token.text := by
      rw [← htext, List.take_left]
    rw [hnext, ← htext] at hread
    dsimp only at hread
    rw [htext, htake, byteLen_append, ← htext] at hread
    have hrest := ih htokens (before ++ token.text)
    rw [byteLen_append, List.append_assoc, ← textOf_cons] at hrest
    exact .read hread hrest

/-! ## The look-ahead -/

/-- No escape of an octet contains a bracket. -/
theorem percentDecodedByte_bracket {cs : List Char} {byte j : ℕ}
    (h : SyrupRail.percentDecodedByte cs = some byte) (hj : j < 3) : cs[j]? ≠ some '[' := by
  have hnone : hexDigit '[' = none := by decide
  unfold SyrupRail.percentDecodedByte at h
  split at h
  · rename_i high low rest
    simp only [Option.bind_eq_bind, Option.bind_eq_some_iff] at h
    obtain ⟨h1, hhigh, h2, hlow, -⟩ := h
    intro hbracket
    obtain rfl | rfl | rfl : j = 0 ∨ j = 1 ∨ j = 2 := by omega
    · cases hbracket
    · cases hbracket
      rw [hnone] at hhigh
      cases hhigh
    · cases hbracket
      rw [hnone] at hlow
      cases hlow
  · cases h

/-- An escape of an octet is read from three characters. -/
theorem percentDecodedByte_append {cs : List Char} (h : 3 ≤ cs.length) (tail tail' : List Char) :
    SyrupRail.percentDecodedByte (cs ++ tail) = SyrupRail.percentDecodedByte (cs ++ tail') := by
  obtain ⟨a, b, c, cs, rfl⟩ : ∃ a b c cs', cs = a :: b :: c :: cs' := by
    obtain ⟨a, cs, rfl⟩ := List.exists_cons_of_length_pos (show 0 < cs.length by omega)
    rw [List.length_cons] at h
    obtain ⟨b, cs, rfl⟩ := List.exists_cons_of_length_pos (show 0 < cs.length by omega)
    rw [List.length_cons] at h
    obtain ⟨c, cs, rfl⟩ := List.exists_cons_of_length_pos (show 0 < cs.length by omega)
    exact ⟨a, b, c, cs, rfl⟩
  by_cases ha : a = '%'
  · subst ha
    rfl
  · have hnone (rest : List Char) : SyrupRail.percentDecodedByte (a :: b :: c :: rest) = none := by
      unfold SyrupRail.percentDecodedByte
      split
      · rename_i heq
        exact absurd (List.cons.inj heq).1 ha
      · rfl
    rw [List.cons_append, List.cons_append, List.cons_append, List.cons_append, List.cons_append,
      List.cons_append, hnone, hnone]

/-- A search in `Option` that succeeds does so everywhere. -/
theorem isSome_of_mapM_eq_some {α β : Type} {f : α → Option β} {l : List α} {bs : List β}
    (h : l.mapM f = some bs) : ∀ a ∈ l, (f a).isSome = true := by
  induction l generalizing bs with
  | nil => exact fun a ha => absurd ha List.not_mem_nil
  | cons a l ih =>
    rw [List.mapM_cons] at h
    obtain ⟨b, hb, h⟩ := Option.bind_eq_some_iff.mp h
    obtain ⟨bs', hbs, -⟩ := Option.bind_eq_some_iff.mp h
    intro a' ha'
    obtain rfl | ha' := List.mem_cons.mp ha'
    · rw [hb]
      rfl
    · exact ih hbs a' ha'

/-- A search in `Option` depends on its elements only. -/
theorem mapM_congr {α β : Type} {f g : α → Option β} {l : List α} (h : ∀ a ∈ l, f a = g a) :
    l.mapM f = l.mapM g := by
  induction l with
  | nil => rfl
  | cons a l ih =>
    obtain ⟨ha, hl⟩ := List.forall_mem_cons.mp h
    rw [List.mapM_cons, List.mapM_cons, ha, ih hl]

/-- What an escape of a scalar reads: its octets, three characters each. -/
theorem percentDecodedScalar_eq_some {cs : List Char} {c : Char} {n : ℕ}
    (h : SyrupRail.percentDecodedScalar cs = some (c, n)) :
    ∃ width, n = 3 * width ∧ 0 < width ∧
      (∀ o < width, (SyrupRail.percentDecodedByte (cs.drop (3 * o))).isSome = true) ∧
      ∀ cs', (∀ o < width, SyrupRail.percentDecodedByte (cs'.drop (3 * o)) =
        SyrupRail.percentDecodedByte (cs.drop (3 * o))) →
          SyrupRail.percentDecodedScalar cs' = some (c, n) := by
  have hread := h
  unfold SyrupRail.percentDecodedScalar at h
  obtain ⟨first, hfirst, h⟩ := Option.bind_eq_some_iff.mp h
  obtain ⟨width, hwidth, h⟩ := Option.bind_eq_some_iff.mp h
  obtain ⟨bytes, hbytes, h⟩ := Option.bind_eq_some_iff.mp h
  have hpos : 0 < width := by
    unfold scalarWidth at hwidth
    split_ifs at hwidth <;> cases hwidth <;> omega
  have hn : n = 3 * width := by
    split at h
    · cases h
      rfl
    · cases h
  refine ⟨width, hn, hpos, fun o ho => isSome_of_mapM_eq_some hbytes o (List.mem_range.mpr ho), ?_⟩
  intro cs' hsame
  have hzero := hsame 0 hpos
  rw [Nat.mul_zero, List.drop_zero, List.drop_zero] at hzero
  have hmap : ((List.range width).mapM fun o => SyrupRail.percentDecodedByte (cs'.drop (3 * o))) =
      some bytes := by
    rw [← hbytes]
    exact mapM_congr fun o ho => hsame o (List.mem_range.mp ho)
  rw [← hread]
  unfold SyrupRail.percentDecodedScalar
  rw [hzero, hfirst]
  simp only [Option.bind_eq_bind, Option.bind_some, hwidth, hmap, hbytes]

/-- A scalar that is read from the front part of a text is read in front of any other tail. -/
theorem percentDecodedScalar_append {cs tail : List Char} {c : Char} {n : ℕ}
    (h : SyrupRail.percentDecodedScalar (cs ++ tail) = some (c, n)) (hn : n ≤ cs.length)
    (tail' : List Char) :
    SyrupRail.percentDecodedScalar (cs ++ tail') = some (c, n) := by
  obtain ⟨width, rfl, hpos, -, hsame⟩ := percentDecodedScalar_eq_some h
  refine hsame _ fun o ho => ?_
  rw [List.drop_append_of_le_length (by omega), List.drop_append_of_le_length (by omega)]
  refine percentDecodedByte_append ?_ tail' tail
  rw [List.length_drop]
  omega

/-- An escape ends in front of a bracket. -/
theorem percentDecodedScalar_bracket {cs tail : List Char} {c : Char} {n : ℕ}
    (h : SyrupRail.percentDecodedScalar (cs ++ '[' :: tail) = some (c, n)) : n ≤ cs.length := by
  obtain ⟨width, rfl, -, hbytes, -⟩ := percentDecodedScalar_eq_some h
  by_contra hlt
  -- The octet whose characters would contain the bracket.
  obtain ⟨byte, hbyte⟩ := Option.isSome_iff_exists.mp (hbytes (cs.length / 3) (by omega))
  refine percentDecodedByte_bracket hbyte (j := cs.length % 3) (by omega) ?_
  rw [List.getElem?_drop, show 3 * (cs.length / 3) + cs.length % 3 = cs.length by omega,
    List.getElem?_append_right le_rfl, Nat.sub_self]
  rfl

/-- A scalar that is read from the front part of a text is read in front of a bracket. -/
theorem nextCardScanScalar_bracket {c d : Char} {cs tail tail' : List Char} {n : ℕ}
    (h : SyrupRail.nextCardScanScalar c (cs ++ tail) = (d, n)) (hn : n ≤ cs.length + 1) :
    SyrupRail.nextCardScanScalar c (cs ++ '[' :: tail') = (d, n) := by
  unfold SyrupRail.nextCardScanScalar at h ⊢
  by_cases hc : c = '%'
  · rw [if_pos hc, ← List.cons_append] at h ⊢
    cases hscalar : SyrupRail.percentDecodedScalar (c :: cs ++ tail) with
    | some scalar =>
      rw [hscalar, Option.getD_some] at h
      rw [h] at hscalar
      rw [percentDecodedScalar_append hscalar (by rw [List.length_cons]; omega), Option.getD_some]
    | none =>
      rw [hscalar, Option.getD_none] at h
      cases hbracket : SyrupRail.percentDecodedScalar (c :: cs ++ '[' :: tail') with
      | none => rw [Option.getD_none, h]
      | some scalar =>
        -- An escape in front of the bracket would have been read before.
        have hbefore :=
          percentDecodedScalar_append hbracket (percentDecodedScalar_bracket hbracket) tail
        rw [hscalar] at hbefore
        cases hbefore
  · rw [if_neg hc] at h ⊢
    exact h

/-- Tokens in front of a bracket are read as they were. -/
theorem Reads.replace {tokens tail tail' : List Token} (h : Reads (tokens ++ tail))
    (htail : Reads tail') {cs : List Char} (hbracket : textOf tail' = '[' :: cs) :
    Reads (tokens ++ tail') := by
  induction tokens with
  | nil => exact htail
  | cons token tokens ih =>
    rw [List.cons_append] at h ⊢
    obtain ⟨⟨c, rest, htext, hnext⟩, htokens⟩ := h
    refine ⟨?_, ih htokens⟩
    rw [textOf_append, ← List.append_assoc] at htext
    cases hfront : token.text ++ textOf tokens with
    | nil =>
      -- A token has a character.
      exfalso
      obtain ⟨-, hpos, -⟩ := nextCardScanScalar_eq [] c rest
      rw [hnext] at hpos
      rw [(List.append_eq_nil_iff.mp hfront).1] at hpos
      exact absurd hpos (lt_irrefl 0)
    | cons c' front =>
      rw [hfront, List.cons_append] at htext
      obtain ⟨rfl, rfl⟩ := List.cons.inj htext
      refine ⟨c', front ++ '[' :: cs, ?_, nextCardScanScalar_bracket hnext ?_⟩
      · rw [textOf_append, ← List.append_assoc, hfront, hbracket, List.cons_append]
      · have hlength := congrArg List.length hfront
        rw [List.length_append, List.length_cons] at hlength
        omega

/-- The tokens behind some are read. -/
theorem Reads.of_append {tokens tail : List Token} (h : Reads (tokens ++ tail)) : Reads tail := by
  induction tokens with
  | nil => exact h
  | cons token tokens ih => exact ih h.2

/-- The tokens of a mark. -/
def markTokens : List Token := redactionMark.map fun c => ⟨c, [c]⟩

/-- The text of a mark. -/
theorem textOf_markTokens : textOf markTokens = redactionMark := by decide

/-- A mark in front of a token is read character by character. -/
theorem reads_mark {tail : List Token} (h : Reads tail) : Reads (markTokens ++ tail) := by
  have hplain : ∀ cs : List Char, '%' ∉ cs → Reads (cs.map (fun c => ⟨c, [c]⟩) ++ tail) := by
    intro cs hcs
    induction cs with
    | nil => exact h
    | cons c cs ih =>
      rw [List.mem_cons, not_or] at hcs
      refine ⟨⟨c, _, rfl, ?_⟩, ih hcs.2⟩
      unfold SyrupRail.nextCardScanScalar
      rw [if_neg (Ne.symm hcs.1)]
      rfl
  exact hplain redactionMark (by decide)

/-- A mark in the place of tokens. -/
theorem Reads.mark {before card tail : List Token} (h : Reads (before ++ (card ++ tail))) :
    Reads (before ++ (markTokens ++ tail)) := by
  have htail : Reads tail := (h.of_append).of_append
  have hbracket : textOf (markTokens ++ tail) = '[' :: (redactionMark.tail ++ textOf tail) := by
    rw [textOf_append, textOf_markTokens]
    rfl
  exact h.replace (reads_mark htail) hbracket

/-! ## Pieces -/

section Pieces

variable (data : UnicodeData)

/-- Whether a token is a digit. -/
def Token.isDigit (token : Token) : Bool := (decimalDigitValue data token.char).isSome

/-- The tokens of a piece in front of its first digit. -/
def leading (piece : List Token) : List Token := piece.takeWhile (!·.isDigit data)

/-- The tokens of a piece from its first to its last digit. -/
def core (piece : List Token) : List Token :=
  (piece.dropWhile (!·.isDigit data)).rdropWhile (!·.isDigit data)

/-- The tokens of a piece behind its last digit. -/
def trailing (piece : List Token) : List Token :=
  (piece.dropWhile (!·.isDigit data)).rtakeWhile (!·.isDigit data)

/-- Whether a piece between letters is redacted. -/
def isCard (piece : List Token) : Bool :=
  hasLuhnWindow (piece.filterMap fun token => decimalDigitValue data token.char) &&
    !SyrupRail.candidateIsCompactDateTime (textOf (core data piece))

/-- A piece after the redaction. -/
def redactPiece (piece : List Token) : List Token :=
  if isCard data piece then leading data piece ++ (markTokens ++ trailing data piece) else piece

/-- Tokens after the redaction, behind the tokens of an open piece. -/
def redactTokens : List Token → List Token → List Token
  | piece, [] => redactPiece data piece
  | piece, token :: tokens =>
    if data.isAlphabetic token.char then redactPiece data piece ++ token :: redactTokens [] tokens
    else redactTokens (piece ++ [token]) tokens

end Pieces

section Spans

variable {data : UnicodeData}

variable (data) in
/-- The parts of a piece. -/
theorem leading_core_trailing (piece : List Token) :
    leading data piece ++ (core data piece ++ trailing data piece) = piece := by
  unfold leading core trailing
  rw [List.rdropWhile_append_rtakeWhile, List.takeWhile_append_dropWhile]

/-- In front of the first digit there is none. -/
theorem isDigit_of_mem_leading {piece : List Token} {token : Token}
    (h : token ∈ leading data piece) : token.isDigit data = false := by
  have hother : (!token.isDigit data) = true :=
      List.mem_takeWhile_imp (p := fun t : Token => !t.isDigit data) h
  exact (Bool.not_eq_true' _).mp hother

/-- Behind the last digit there is none. -/
theorem isDigit_of_mem_trailing {piece : List Token} {token : Token}
    (h : token ∈ trailing data piece) : token.isDigit data = false := by
  have hother : (!token.isDigit data) = true :=
      List.mem_rtakeWhile_imp (p := fun t : Token => !t.isDigit data) h
  exact (Bool.not_eq_true' _).mp hother

variable (data) in
/-- The core of a piece begins and ends with a digit, or is empty. -/
theorem core_cases (piece : List Token) :
    core data piece = [] ∨
      (∃ first rest, core data piece = first :: rest ∧ first.isDigit data = true) ∧
        ∃ init last, core data piece = init ++ [last] ∧ last.isDigit data = true := by
  by_cases hcore : core data piece = []
  · exact .inl hcore
  · right
    constructor
    · obtain ⟨first, rest, hfirst⟩ := List.exists_cons_of_ne_nil hcore
      refine ⟨first, rest, hfirst, ?_⟩
      obtain ⟨tail, htail⟩ :=
        List.rdropWhile_prefix (!·.isDigit data) (piece.dropWhile (!·.isDigit data))
      have hcoreTail : core data piece ++ tail = piece.dropWhile (!·.isDigit data) := htail
      have hhead := List.head?_dropWhile_not (!·.isDigit data) piece
      rw [← hcoreTail, hfirst] at hhead
      exact (Bool.not_eq_false' _).mp hhead
    · have hlast : ¬ (!((core data piece).getLast hcore).isDigit data) = true :=
        List.rdropWhile_last_not _ _ hcore
      refine ⟨(core data piece).dropLast, (core data piece).getLast hcore,
        (List.dropLast_append_getLast hcore).symm, ?_⟩
      rw [Bool.not_eq_true] at hlast
      exact (Bool.not_eq_false' _).mp hlast

/-- The digits of tokens. -/
theorem digitsOf_spans (index : ℕ) (tokens : List Token) :
    digitsOf data (spans index tokens) = tokens.filterMap fun token =>
      decimalDigitValue data token.char := by
  have hchars := congrArg (List.filterMap (decimalDigitValue data)) (map_char_spans index tokens)
  rw [List.filterMap_map, List.filterMap_map] at hchars
  exact hchars

/-- Tokens without a digit have no scalars that are digits. -/
theorem digitScalars_spans_eq_nil {index : ℕ} {tokens : List Token}
    (h : ∀ token ∈ tokens, token.isDigit data = false) :
    digitScalars data (spans index tokens) = [] := by
  refine List.filter_eq_nil_iff.mpr fun scalar hscalar => ?_
  have hmem := List.mem_map_of_mem (f := ScanScalar.char) hscalar
  rw [map_char_spans] at hmem
  obtain ⟨token, htoken, hchar⟩ := List.mem_map.mp hmem
  rw [← hchar]
  exact Bool.not_eq_true _ ▸ h token htoken

/-- A piece with an empty core has no digit. -/
theorem isDigit_of_core_eq_nil {piece : List Token} (h : core data piece = []) :
    ∀ token ∈ piece, token.isDigit data = false := by
  intro token htoken
  rw [← leading_core_trailing data piece, h, List.nil_append] at htoken
  obtain htoken | htoken := List.mem_append.mp htoken
  · exact isDigit_of_mem_leading htoken
  · exact isDigit_of_mem_trailing htoken

variable (data) in
/-- The digits of a piece are those of its core. -/
theorem digitScalars_spans (index : ℕ) (piece : List Token) :
    digitScalars data (spans index piece) =
      digitScalars data
        (spans (index + byteLen (textOf (leading data piece))) (core data piece)) := by
  have hsplit := leading_core_trailing data piece
  have hfilter (l l' : List ScanScalar) : digitScalars data (l ++ l') = digitScalars data l ++
      digitScalars data l' :=
    List.filter_append ..
  calc digitScalars data (spans index piece)
      = digitScalars data
          (spans index (leading data piece ++ (core data piece ++ trailing data piece))) := by
        rw [hsplit]
    _ = digitScalars data
        (spans (index + byteLen (textOf (leading data piece))) (core data piece)) := by
        rw [spans_append, spans_append, hfilter, hfilter,
          digitScalars_spans_eq_nil fun token => isDigit_of_mem_leading,
          digitScalars_spans_eq_nil fun token => isDigit_of_mem_trailing, List.nil_append,
            List.append_nil]

variable (data) in
/-- The range of a piece is the span of its core. -/
theorem pieceRange_spans (before after : List Char) (piece : List Token) :
    pieceRange data (before ++ (textOf piece ++ after)) (spans (byteLen before) piece) =
      if isCard data piece then
        some (byteLen before + byteLen (textOf (leading data piece)),
          byteLen before + byteLen (textOf (leading data piece)) +
            byteLen (textOf (core data piece)))
      else none := by
  have hscalars := digitScalars_spans data (byteLen before) piece
  obtain hcore | ⟨⟨first, rest, hfirst, hfirstDigit⟩, init, last, hlast, hlastDigit⟩ :=
    core_cases data piece
  · have hempty : isCard data piece = false := by
      have hdigits : piece.filterMap (fun token => decimalDigitValue data token.char) = [] := by
        refine List.filterMap_eq_nil_iff.mpr fun token htoken => ?_
        have hdigit := isDigit_of_core_eq_nil hcore token htoken
        exact Option.isSome_eq_false_iff.mp hdigit |> Option.isNone_iff_eq_none.mp
      unfold isCard
      rw [hdigits]
      rfl
    unfold pieceRange
    rw [hscalars, hcore, hempty]
    rfl
  -- The range is from the first digit to the last, which is the core of the piece; whether it is a
  -- timestamp is read off the same characters.
  · have hvalue : before ++ (textOf piece ++ after) = before ++ textOf (leading data piece) ++
        (textOf (core data piece) ++ (textOf (trailing data piece) ++ after)) := by
      have htext := congrArg textOf (leading_core_trailing data piece)
      rw [textOf_append, textOf_append] at htext
      rw [← htext]
      simp only [List.append_assoc]
    have hspan : isTimestamp (before ++ (textOf piece ++ after))
        (byteLen before + byteLen (textOf (leading data piece)))
        (byteLen before + byteLen (textOf (leading data piece)) +
          byteLen (textOf (core data piece))) =
        SyrupRail.candidateIsCompactDateTime (textOf (core data piece)) := by
      unfold isTimestamp
      rw [hvalue, ← byteLen_append, ← byteLen_append, slice_append]
      rfl
    generalize byteLen before + byteLen (textOf (leading data piece)) = start at hscalars hspan ⊢
    have hhead : (digitScalars data (spans start (core data piece))).head? =
        some ⟨first.char, start, start + byteLen first.text⟩ := by
      rw [hfirst, spans]
      unfold digitScalars
      rw [List.filter_cons]
      exact congrArg List.head? (if_pos hfirstDigit)
    have hstop : start + byteLen (textOf (core data piece)) =
        start + byteLen (textOf init) + byteLen last.text := by
      rw [hlast, textOf_append, byteLen_append, Nat.add_assoc]
      congr 2
      rw [textOf_cons, byteLen_append]
      rfl
    have hgetLast : (digitScalars data (spans start (core data piece))).getLast? =
        some ⟨last.char, start + byteLen (textOf init),
            start + byteLen (textOf (core data piece))⟩ := by
      rw [hstop, hlast, spans_append]
      unfold digitScalars
      have hspans : (spans (start + byteLen (textOf init)) [last]).filter
          (fun scalar => (decimalDigitValue data scalar.char).isSome) =
          [⟨last.char, start + byteLen (textOf init), start + byteLen (textOf init) +
              byteLen last.text⟩] := by
        rw [spans, List.filter_cons]
        exact if_pos hlastDigit
      rw [List.filter_append, hspans, List.getLast?_concat]
    unfold pieceRange
    rw [hscalars, hhead, hgetLast]
    dsimp only
    rw [hspan, digitsOf_spans]
    rfl

/-! ## The redacted text -/

/-- Scalars without a digit have no ranges. -/
theorem cardRanges_eq_nil {value : List Char} {scalars : List ScanScalar}
    (h : ∀ scalar ∈ scalars, decimalDigitValue data scalar.char = none) :
    cardRanges data value scalars = [] := by
  refine List.filterMap_eq_nil_iff.mpr fun piece hpiece => ?_
  have hdigits : digitScalars data piece = [] := by
    refine List.filter_eq_nil_iff.mpr fun scalar hscalar hdigit => ?_
    have hmem := List.mem_flatten.mpr ⟨piece, hpiece, hscalar⟩
    rw [flatten_splitOnP] at hmem
    rw [h scalar (List.mem_filter.mp hmem).1] at hdigit
    cases hdigit
  unfold pieceRange
  rw [hdigits]
  rfl

/-- A letter separates ranges. -/
theorem cardRanges_append_cons {value : List Char} (scalars scalars' : List ScanScalar)
    {letter : ScanScalar} (h : data.isAlphabetic letter.char = true) :
    cardRanges data value (scalars ++ letter :: scalars') =
      cardRanges data value scalars ++ cardRanges data value scalars' := by
  unfold cardRanges
  rw [List.splitOnP_append_cons (p := fun scalar : ScanScalar => data.isAlphabetic scalar.char) _ _
    h, List.filterMap_append]

/-- Scalars without a letter have the range of their piece. -/
theorem cardRanges_of_piece {value : List Char} {index : ℕ} {piece : List Token}
    (h : ∀ token ∈ piece, data.isAlphabetic token.char = false) :
    cardRanges data value (spans index piece) =
      (pieceRange data value (spans index piece)).toList := by
  have hscalars : ∀ scalar ∈ spans index piece, data.isAlphabetic scalar.char = false := by
    intro scalar hscalar
    have hmem := List.mem_map_of_mem (f := ScanScalar.char) hscalar
    rw [map_char_spans] at hmem
    obtain ⟨token, htoken, hchar⟩ := List.mem_map.mp hmem
    rw [← hchar]
    exact h token htoken
  unfold cardRanges
  rw [List.splitOnP_eq_singleton hscalars]
  cases hrange : pieceRange data value (spans index piece) <;> simp [hrange]

/-- A piece that is redacted leaves tokens that are read from their text. -/
theorem reads_redactPiece {before piece tail : List Token} (h : Reads (before ++ (piece ++ tail))) :
    Reads (before ++ (redactPiece data piece ++ tail)) := by
  unfold redactPiece
  split_ifs
  · rw [← leading_core_trailing data piece] at h
    simp only [List.append_assoc] at h ⊢
    rw [← List.append_assoc before] at h ⊢
    exact h.mark
  · exact h

/-- The tokens that remain are read from their text. -/
theorem reads_redactTokens (before piece tokens : List Token)
    (h : Reads (before ++ (piece ++ tokens))) :
    Reads (before ++ redactTokens data piece tokens) := by
  induction tokens generalizing before piece with
  | nil =>
    have hend : Reads (before ++ (redactPiece data piece ++ [])) := reads_redactPiece h
    rwa [List.append_nil] at hend
  | cons token tokens ih =>
    unfold redactTokens
    split_ifs with hletter
    · -- The tail first, behind the piece as it was, and then the piece.
      refine reads_redactPiece ?_
      have htail : Reads ((before ++ (piece ++ [token])) ++ ([] ++ tokens)) := by
        simpa only [List.append_assoc, List.nil_append, List.singleton_append] using h
      simpa only [List.append_assoc, List.singleton_append] using ih _ [] htail
    · refine ih before _ ?_
      simpa only [List.append_assoc, List.singleton_append] using h

variable (data) in
/-- A piece and what is replaced behind it. -/
theorem replaced_piece (before after : List Char) (piece : List Token)
    {message redacted : List Char} {ranges : List (ℕ × ℕ)}
    (h : Replaced (byteLen before + byteLen (textOf piece)) message ranges redacted) :
    Replaced (byteLen before) (textOf piece ++ message)
      ((pieceRange data (before ++ (textOf piece ++ after))
        (spans (byteLen before) piece)).toList ++ ranges)
      (textOf (redactPiece data piece) ++ redacted) := by
  rw [pieceRange_spans]
  unfold redactPiece
  split_ifs
  · have hparts := congrArg textOf (leading_core_trailing data piece)
    rw [textOf_append, textOf_append] at hparts
    rw [← hparts, byteLen_append, byteLen_append, ← Nat.add_assoc, ← Nat.add_assoc] at h
    rw [textOf_append, textOf_append, textOf_markTokens, ← hparts]
    simp only [List.append_assoc]
    exact .range _ _ (h.append _)
  · exact h.append _

/-- The redacted text is the text with its ranges replaced. -/
theorem replaced_redactTokens (before : List Char) (piece tokens : List Token)
    (h : ∀ token ∈ piece, data.isAlphabetic token.char = false) :
    Replaced (byteLen before) (textOf (piece ++ tokens))
      (cardRanges data (before ++ textOf (piece ++ tokens))
        (spans (byteLen before) (piece ++ tokens)))
      (textOf (redactTokens data piece tokens)) := by
  induction tokens generalizing before piece with
  | nil =>
    have hpiece := replaced_piece data before [] piece (.rest _ [])
    rw [List.append_nil, List.append_nil, List.append_nil] at hpiece
    rw [List.append_nil, cardRanges_of_piece h]
    exact hpiece
  | cons token tokens ih =>
    unfold redactTokens
    split_ifs with hletter
    · have htail : Replaced (byteLen (before ++ (textOf piece ++ token.text))) _ _ _ :=
        ih _ [] fun token htoken => absurd htoken List.not_mem_nil
      have hvalue : before ++ (textOf piece ++ (token.text ++ textOf tokens)) =
          before ++ (textOf piece ++ token.text) ++ textOf ([] ++ tokens) := by
        simp only [List.append_assoc, List.nil_append]
      rw [textOf_append, textOf_cons, spans_append, spans, cardRanges_append_cons _ _ hletter,
        cardRanges_of_piece h, textOf_append, textOf_cons]
      refine replaced_piece data before _ piece ?_
      rw [hvalue]
      rw [byteLen_append, byteLen_append, ← Nat.add_assoc] at htail
      exact htail.append token.text
    · have hpiece : ∀ t ∈ piece ++ [token], data.isAlphabetic t.char = false := by
        refine List.forall_mem_append.mpr ⟨h, ?_⟩
        exact List.forall_mem_singleton.mpr (Bool.not_eq_true _ ▸ hletter)
      have hrest := ih before _ hpiece
      rwa [List.append_assoc, List.singleton_append] at hrest

/-- A redacted piece has no range. -/
theorem cardRanges_redactPiece (hmark : ∀ c ∈ redactionMark, decimalDigitValue data c = none)
    (before after : List Char) {piece : List Token}
    (h : ∀ token ∈ piece, data.isAlphabetic token.char = false) :
    cardRanges data (before ++ (textOf (redactPiece data piece) ++ after))
      (spans (byteLen before) (redactPiece data piece)) = [] := by
  by_cases hcard : isCard data piece = true
  · refine cardRanges_eq_nil fun scalar hscalar => ?_
    have hmem := List.mem_map_of_mem (f := ScanScalar.char) hscalar
    rw [map_char_spans] at hmem
    obtain ⟨token, htoken, hchar⟩ := List.mem_map.mp hmem
    rw [← hchar]
    have hdigit : token.isDigit data = false := by
      unfold redactPiece at htoken
      rw [if_pos hcard] at htoken
      obtain htoken | htoken := List.mem_append.mp htoken
      · exact isDigit_of_mem_leading htoken
      · obtain htoken | htoken := List.mem_append.mp htoken
        · obtain ⟨c, hc, rfl⟩ := List.mem_map.mp htoken
          unfold Token.isDigit
          rw [hmark c hc]
          rfl
        · exact isDigit_of_mem_trailing htoken
    exact Option.isNone_iff_eq_none.mp (Option.isSome_eq_false_iff.mp hdigit)
  · unfold redactPiece
    rw [if_neg hcard, cardRanges_of_piece h, pieceRange_spans, if_neg hcard]
    rfl

/-- The redacted text has no ranges. -/
theorem cardRanges_redactTokens (hmark : ∀ c ∈ redactionMark, decimalDigitValue data c = none)
    (before : List Char) (piece tokens : List Token)
    (h : ∀ token ∈ piece, data.isAlphabetic token.char = false) :
    cardRanges data (before ++ textOf (redactTokens data piece tokens))
      (spans (byteLen before) (redactTokens data piece tokens)) = [] := by
  induction tokens generalizing before piece with
  | nil =>
    have hpiece := cardRanges_redactPiece hmark before [] h
    rwa [List.append_nil] at hpiece
  | cons token tokens ih =>
    unfold redactTokens
    split_ifs with hletter
    · have htail := ih (before ++ (textOf (redactPiece data piece) ++ token.text)) []
        fun token htoken => absurd htoken List.not_mem_nil
      rw [byteLen_append, byteLen_append, ← Nat.add_assoc, List.append_assoc,
        List.append_assoc] at htail
      rw [textOf_append, textOf_cons, spans_append, spans, cardRanges_append_cons _ _ hletter,
        cardRanges_redactPiece hmark before _ h, htail]
      rfl
    · refine ih before _ (List.forall_mem_append.mpr ⟨h, ?_⟩)
      exact List.forall_mem_singleton.mpr (Bool.not_eq_true _ ▸ hletter)

end Spans

/-- The redaction leaves no card data. It does not panic, it replaces what the scanner reports and
keeps all else, the scanner reports nothing for the redacted text, and a second redaction keeps it.
A digit is no letter, and the digits of ASCII are the ten. -/
theorem redaction_leaves_no_card_data (data : UnicodeData)
    (hletter : ∀ c : Char, data.isDecimalNumber c.toNat = true → data.isAlphabetic c = false)
    (hascii : ∀ c : Char, c.toNat < 128 → data.isDecimalNumber c.toNat = c.isDigit)
    (message : List Char) :
    ∃ ranges redacted, rawCardDataRanges data message = some ranges ∧
      redactRawCardData data message = some redacted ∧ Replaced 0 message ranges redacted ∧
      stringContainsRawCardData data (String.ofList redacted) = some false ∧
      redactRawCardData data redacted = some redacted := by
  -- The mark has no digit, so what is written adds nothing to scan.
  have hmark : ∀ c ∈ redactionMark, decimalDigitValue data c = none := by
    have hplain : (redactionMark.all fun c => c.toNat < 128 ∧ c.isDigit = false) = true := by decide
    intro c hc
    obtain ⟨hsmall, hdigit⟩ := of_decide_eq_true (List.all_eq_true.mp hplain c hc)
    unfold decimalDigitValue
    rw [hascii c hsmall, hdigit]
    rfl
  obtain ⟨tokens, hreads, rfl⟩ := exists_reads message
  have hranges {tokens : List Token} (h : Reads tokens) :
      rawCardDataRanges data (textOf tokens) =
          some (cardRanges data (textOf tokens) (spans 0 tokens)) :=
    ((card_scanner_exact data hletter (textOf tokens)).2 _ (h.scanned [])).1
  have hreplaced : Replaced 0 (textOf tokens) (cardRanges data (textOf tokens) (spans 0 tokens))
      (textOf (redactTokens data [] tokens)) :=
    replaced_redactTokens [] [] tokens fun token htoken => absurd htoken List.not_mem_nil
  -- The redacted text is read token by token as well, and none of its ranges is card data.
  have hclean : rawCardDataRanges data (textOf (redactTokens data [] tokens)) = some [] := by
    have hredacted : Reads (redactTokens data [] tokens) := reads_redactTokens [] [] tokens hreads
    rw [hranges hredacted]
    exact congrArg some (cardRanges_redactTokens hmark [] [] tokens
      fun token htoken => absurd htoken List.not_mem_nil)
  refine ⟨_, _, hranges hreads, ?_, hreplaced, ?_, ?_⟩
  · unfold redactRawCardData
    rw [hranges hreads, Option.bind_eq_bind, Option.bind_some]
    split_ifs with hempty
    · rw [List.isEmpty_iff.mp hempty] at hreplaced
      generalize textOf (redactTokens data [] tokens) = redacted at hreplaced ⊢
      generalize textOf tokens = message at hreplaced ⊢
      cases hreplaced
      rfl
    · exact hreplaced.redactLoop [] [] rfl
  · unfold stringContainsRawCardData
    rw [String.toList_ofList, hclean]
    rfl
  · unfold redactRawCardData
    rw [hclean]
    rfl

/-- A card number is redacted, and the percent sign in front of it is read as before. -/
theorem redaction_leaves_no_card_data_encoded :
    redactRawCardData asciiData "at %-4111%201111-1111 1111!".toList =
      some "at %-[redacted]!".toList ∧
        ∃ ranges, rawCardDataRanges asciiData "at %-4111%201111-1111 1111!".toList = some ranges ∧
          Replaced 0 "at %-4111%201111-1111 1111!".toList ranges "at %-[redacted]!".toList := by
  have hdigits : ∀ n < 128, (decide (48 ≤ n) && decide (n ≤ 57)) = (Char.ofNat n).isDigit ∧
      ((Char.ofNat n).isDigit = true → (Char.ofNat n).isAlpha = false) := by decide
  have hascii : ∀ c : Char, c.toNat < 128 → asciiData.isDecimalNumber c.toNat = c.isDigit := by
    intro c hc
    have hdigit := (hdigits c.toNat hc).1
    rwa [Char.ofNat_toNat] at hdigit
  have hletter : ∀ c : Char, asciiData.isDecimalNumber c.toNat = true →
      asciiData.isAlphabetic c = false := by
    intro c hc
    have hsmall : c.toNat < 128 := by
      unfold asciiData at hc
      simp only [Bool.and_eq_true, decide_eq_true_eq] at hc
      omega
    have halpha := (hdigits c.toNat hsmall).2
    rw [Char.ofNat_toNat] at halpha
    exact halpha ((hascii c hsmall).symm.trans hc)
  obtain ⟨ranges, redacted, hranges, hredacted, hreplaced, -, -⟩ :=
    redaction_leaves_no_card_data asciiData hletter hascii "at %-4111%201111-1111 1111!".toList
  have hresult : redactRawCardData asciiData "at %-4111%201111-1111 1111!".toList =
      some "at %-[redacted]!".toList := by
    decide +kernel
  rw [hresult] at hredacted
  obtain rfl := Option.some.inj hredacted
  exact ⟨hresult, ranges, hranges, hreplaced⟩

end SyrupRail.CardData
