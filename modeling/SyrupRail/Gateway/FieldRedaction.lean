import SyrupRail.Gateway.FieldPattern
import SyrupRail.Gateway.Value
import SyrupRail.Lib.Utf8

/-!
# Redacted fields

`redact_gateway_fields` and the three ways it finds the end of a value, with positions in octets, so
that a slice that does not end between two characters panics (`none`).

`Redacts` is what the loop does to a text, without positions (`redactLoop_eq`). Whether a value ends
in some text does not depend on what follows; where it does not end there, a character that means
nothing to any of the three ways leaves the state as it is (`value_split`). So a message with a
match in it is redacted in the same way whatever value stands behind the match, unless a value that
starts before the match ends inside it (`Redacts.of_value`).
-/

namespace SyrupRail.FieldPattern

open RustText Regex

/-! ## The loops -/

/-- `char_indices`. -/
def charIndices : ℕ → List Char → List (ℕ × Char)
  | _, [] => []
  | offset, c :: cs => (offset, c) :: charIndices (offset + c.utf8Size) cs

/-- The loop of `consume_quoted_gateway_value`. -/
def quotedLoop (messageLen start : ℕ) (quote : Char) : Bool → List (ℕ × Char) → ℕ
  | _, [] => messageLen
  | true, _ :: rest => quotedLoop messageLen start quote false rest
  | false, (offset, c) :: rest =>
    if c = '\x5c' then quotedLoop messageLen start quote true rest
    else if c = quote then start + offset + c.utf8Size
    else quotedLoop messageLen start quote false rest

/-- `consume_quoted_gateway_value`. -/
def consumeQuotedGatewayValue (message : List Char) (start : ℕ) (quote : Char) : Option ℕ :=
  (sliceFrom message start).map fun rest =>
    quotedLoop (byteLen message) start quote false ((charIndices 0 rest).drop 1)

/-- The loop of `consume_balanced_gateway_value`; the last bracket of the stack is its head. -/
def balancedLoop (messageLen start : ℕ) : List Char → Option Char → Bool → List (ℕ × Char) → ℕ
  | _, _, _, [] => messageLen
  | stack, some quote, true, _ :: rest =>
    balancedLoop messageLen start stack (some quote) false rest
  | stack, some quote, false, (_, c) :: rest =>
    if c = '\x5c' then balancedLoop messageLen start stack (some quote) true rest
    else if c = quote then balancedLoop messageLen start stack none false rest
    else balancedLoop messageLen start stack (some quote) false rest
  | stack, none, escaped, (offset, c) :: rest =>
    if c = '\x22' ∨ c = '\x27' then balancedLoop messageLen start stack (some c) escaped rest
    else if c = '\x7b' ∨ c = '[' then balancedLoop messageLen start (c :: stack) none escaped rest
    else if c = '\x7d' ∧ stack.head? = some '\x7b' then
      if stack.tail = [] then start + offset + c.utf8Size
      else balancedLoop messageLen start stack.tail none escaped rest
    else if c = ']' ∧ stack.head? = some '[' then
      if stack.tail = [] then start + offset + c.utf8Size
      else balancedLoop messageLen start stack.tail none escaped rest
    else if c = '\x7d' ∨ c = ']' then start + offset
    else balancedLoop messageLen start stack none escaped rest

/-- `consume_balanced_gateway_value`. -/
def consumeBalancedGatewayValue (message : List Char) (start : ℕ) (opener : Char) : Option ℕ :=
  (sliceFrom message start).map fun rest =>
    balancedLoop (byteLen message) start [opener] none false ((charIndices 0 rest).drop 1)

/-- Whether a bare value ends before a character. -/
def isBareDelimiter (c : Char) : Bool :=
  isWhitespace c || c ∈ ['\x22', '\x27', ',', '&', ';', '\x7b', '\x7d', '[', ']']

/-- The loop of `consume_bare_gateway_value`. -/
def bareLoop (messageLen start : ℕ) : List (ℕ × Char) → ℕ
  | [] => messageLen
  | (offset, c) :: rest =>
    if isBareDelimiter c then start + offset else bareLoop messageLen start rest

/-- `consume_bare_gateway_value`. -/
def consumeBareGatewayValue (message : List Char) (start : ℕ) : Option ℕ :=
  (sliceFrom message start).map fun rest => bareLoop (byteLen message) start (charIndices 0 rest)

/-- `consume_gateway_field_value`. -/
def consumeGatewayFieldValueAt (message : List Char) (start : ℕ) : Option ℕ :=
  (sliceFrom message start).bind fun rest =>
    match rest with
    | [] => some start
    | first :: _ =>
      if first = '\x22' ∨ first = '\x27' then consumeQuotedGatewayValue message start first
      else if first = '\x7b' ∨ first = '[' then consumeBalancedGatewayValue message start first
      else consumeBareGatewayValue message start

/-- The loop of `redact_gateway_fields`; it is `none` where a slice panics, and where `fuel` rounds
are not enough. -/
def redactLoop (message : List Char) : ℕ → ℕ → ℕ → List Char → Option (List Char)
  | 0, _, _, _ => none
  | fuel + 1, cursor, searchStart, redacted =>
    if searchStart < byteLen message then
      (sliceFrom message searchStart).bind fun haystack =>
        match captures haystack with
        | none => (sliceFrom message cursor).map fun last => redacted ++ last
        | some (skipped, label, rest) =>
          let matchStart := searchStart + byteLen skipped
          let valueStart := searchStart + (byteLen haystack - byteLen rest)
          (consumeGatewayFieldValueAt message valueStart).bind fun valueEnd =>
            (slice message cursor matchStart).bind fun before =>
              redactLoop message fuel valueEnd valueEnd
                (redacted ++ before ++ label ++ '=' :: redactionMark)
    else (sliceFrom message cursor).map fun last => redacted ++ last

/-- `redact_gateway_fields`. Every round but the last one takes an octet. -/
def redactGatewayFields (message : List Char) : Option (List Char) :=
  redactLoop message (byteLen message + 1) 0 0 []

/-- What the loop makes of a text from which it searches: it ends where nothing is found, and
otherwise goes on behind the value. -/
inductive Redacts : List Char → List Char → Prop
  | done {text : List Char} (h : captures text = none) : Redacts text text
  | field {text skipped label rest out : List Char}
      (h : captures text = some (skipped, label, rest))
      (hout : Redacts (rest.drop (consumeGatewayFieldValue rest)) out) :
      Redacts text (skipped ++ (label ++ '=' :: (redactionMark ++ out)))

/-! ## From octets to characters -/

/-- The octets of a text that begins with a character. -/
theorem byteLen_cons_utf8Size (c : Char) (cs : List Char) :
    byteLen (c :: cs) = c.utf8Size + byteLen cs := by
  rw [byteLen_cons, length_charBytes]

/-- A text has at least as many octets as characters. -/
theorem length_le_byteLen (cs : List Char) : cs.length ≤ byteLen cs := by
  induction cs with
  | nil => exact Nat.zero_le _
  | cons c cs ih =>
    have hpos := c.utf8Size_pos
    rw [byteLen_cons_utf8Size, List.length_cons]
    omega

/-- The loop of a quoted value stops behind as many characters as it takes. -/
theorem quotedLoop_eq (start offset : ℕ) (quote : Char) (escaped : Bool) (cs : List Char) :
    quotedLoop (start + offset + byteLen cs) start quote escaped (charIndices offset cs) =
      start + offset + byteLen (cs.take (consumeQuoted quote escaped cs)) := by
  induction cs generalizing offset escaped with
  | nil => rfl
  | cons c cs ih =>
    have hnext : ∀ escaped', quotedLoop (start + offset + byteLen (c :: cs)) start quote escaped'
        (charIndices (offset + c.utf8Size) cs) =
          start + offset + byteLen ((c :: cs).take (1 + consumeQuoted quote escaped' cs)) := by
      intro escaped'
      have htail := ih (offset + c.utf8Size) escaped'
      rw [Nat.add_comm 1, List.take_succ_cons, byteLen_cons_utf8Size, byteLen_cons_utf8Size]
      simpa only [Nat.add_assoc] using htail
    cases escaped with
    | true => exact hnext false
    | false =>
      unfold charIndices quotedLoop consumeQuoted
      split_ifs with hslash hquote
      · exact hnext true
      · rw [List.take_succ_cons, List.take_zero, byteLen_cons_utf8Size]
        rfl
      · exact hnext false

/-- The loop of a bracketed value stops behind as many characters as it takes. -/
theorem balancedLoop_eq (start offset : ℕ) (stack : List Char) (quoted : Option Char)
    (escaped : Bool) (cs : List Char) :
    balancedLoop (start + offset + byteLen cs) start stack quoted escaped (charIndices offset cs) =
      start + offset + byteLen (cs.take (consumeBalanced stack quoted escaped cs)) := by
  induction cs generalizing offset stack quoted escaped with
  | nil =>
    cases quoted <;> cases escaped <;> rfl
  | cons c cs ih =>
    have hnext : ∀ stack' quoted' escaped',
        balancedLoop (start + offset + byteLen (c :: cs)) start stack' quoted' escaped'
            (charIndices (offset + c.utf8Size) cs) =
          start + offset +
            byteLen ((c :: cs).take (1 + consumeBalanced stack' quoted' escaped' cs)) := by
      intro stack' quoted' escaped'
      have htail := ih (offset + c.utf8Size) stack' quoted' escaped'
      rw [Nat.add_comm 1, List.take_succ_cons, byteLen_cons_utf8Size, byteLen_cons_utf8Size]
      simpa only [Nat.add_assoc] using htail
    have hclose : start + offset + c.utf8Size = start + offset + byteLen ((c :: cs).take 1) := by
      rw [List.take_succ_cons, List.take_zero, byteLen_cons_utf8Size]
      rfl
    cases quoted with
    | some quote =>
      cases escaped with
      | true => exact hnext stack (some quote) false
      | false =>
        unfold charIndices balancedLoop consumeBalanced
        split_ifs with hslash hquote
        · exact hnext stack (some quote) true
        · exact hnext stack none false
        · exact hnext stack (some quote) false
    | none =>
      unfold charIndices balancedLoop consumeBalanced
      by_cases hquote : c = '\x22' ∨ c = '\x27'
      · rw [if_pos hquote, if_pos hquote]
        exact hnext stack (some c) escaped
      rw [if_neg hquote, if_neg hquote]
      by_cases hopen : c = '\x7b' ∨ c = '['
      · rw [if_pos hopen, if_pos hopen]
        exact hnext (c :: stack) none escaped
      rw [if_neg hopen, if_neg hopen]
      by_cases hbrace : c = '\x7d' ∧ stack.head? = some '\x7b'
      · have hmatching : (c = '\x7d' ∧ stack.head? = some '\x7b') ∨
            (c = ']' ∧ stack.head? = some '[') := .inl hbrace
        rw [if_pos hbrace, if_pos hmatching]
        split_ifs with hlast
        · exact hclose
        · exact hnext stack.tail none escaped
      rw [if_neg hbrace]
      by_cases hbracket : c = ']' ∧ stack.head? = some '['
      · have hmatching : (c = '\x7d' ∧ stack.head? = some '\x7b') ∨
            (c = ']' ∧ stack.head? = some '[') := .inr hbracket
        rw [if_pos hbracket, if_pos hmatching]
        split_ifs with hlast
        · exact hclose
        · exact hnext stack.tail none escaped
      rw [if_neg hbracket, if_neg (not_or_intro hbrace hbracket)]
      split_ifs with hclosing
      · rfl
      · exact hnext stack none escaped

/-- A bare value ends before a delimiter, and takes any other character. -/
theorem consumeBare_cons (c : Char) (cs : List Char) :
    consumeBare (c :: cs) = if isBareDelimiter c then 0 else 1 + consumeBare cs := by
  unfold consumeBare
  rw [List.takeWhile_cons]
  cases h : isBareDelimiter c with
  | true =>
    unfold isBareDelimiter at h
    rw [h]
    rfl
  | false =>
    unfold isBareDelimiter at h
    rw [h]
    exact Nat.add_comm _ 1

/-- The loop of a bare value stops behind as many characters as it takes. -/
theorem bareLoop_eq (start offset : ℕ) (cs : List Char) :
    bareLoop (start + offset + byteLen cs) start (charIndices offset cs) =
      start + offset + byteLen (cs.take (consumeBare cs)) := by
  induction cs generalizing offset with
  | nil => rfl
  | cons c cs ih =>
    unfold charIndices bareLoop
    rw [consumeBare_cons]
    split_ifs with h
    · rfl
    · have htail := ih (offset + c.utf8Size)
      rw [Nat.add_comm 1, List.take_succ_cons, byteLen_cons_utf8Size, byteLen_cons_utf8Size]
      simpa only [Nat.add_assoc] using htail

/-- `consume_gateway_field_value` on a text with something before the value. -/
theorem consumeGatewayFieldValueAt_eq (before rest : List Char) :
    consumeGatewayFieldValueAt (before ++ rest) (byteLen before) =
      some (byteLen (before ++ rest.take (consumeGatewayFieldValue rest))) := by
  unfold consumeGatewayFieldValueAt consumeQuotedGatewayValue consumeBalancedGatewayValue
    consumeBareGatewayValue
  simp only [sliceFrom_append, Option.bind_some, Option.map_some]
  cases rest with
  | nil =>
    show some (byteLen before) = some (byteLen (before ++ []))
    rw [List.append_nil]
  | cons first cs =>
    have hlength : byteLen (before ++ first :: cs) = byteLen before + first.utf8Size +
        byteLen cs := by
      rw [byteLen_append, byteLen_cons_utf8Size]
      omega
    have hinner : ∀ k, byteLen before + first.utf8Size + byteLen (cs.take k) =
        byteLen (before ++ (first :: cs).take (1 + k)) := by
      intro k
      rw [Nat.add_comm 1, List.take_succ_cons, byteLen_append, byteLen_cons_utf8Size]
      omega
    have hskip : (charIndices 0 (first :: cs)).drop 1 = charIndices first.utf8Size cs := by
      show charIndices (0 + first.utf8Size) cs = _
      rw [Nat.zero_add]
    unfold consumeGatewayFieldValue
    dsimp only
    rw [hskip]
    split_ifs with hquote hopen
    · have hloop := quotedLoop_eq (byteLen before) first.utf8Size first false cs
      rw [hlength]
      exact congrArg some (hloop.trans (hinner _))
    · have hloop := balancedLoop_eq (byteLen before) first.utf8Size [first] none false cs
      rw [hlength]
      exact congrArg some (hloop.trans (hinner _))
    · have hloop := bareLoop_eq (byteLen before) 0 (first :: cs)
      rw [byteLen_append, byteLen_append]
      exact congrArg some hloop

/-- The loop computes what it makes of the text behind its two positions. -/
theorem Redacts.redactLoop_eq {text out : List Char} (h : Redacts text out) (before : List Char)
    (fuel : ℕ) (redacted : List Char) (hfuel : text.length < fuel) :
    redactLoop (before ++ text) fuel (byteLen before) (byteLen before) redacted =
      some (redacted ++ out) := by
  induction h generalizing before fuel redacted with
  | @done text hnone =>
    obtain ⟨fuel, rfl⟩ :=
      Nat.exists_eq_add_one_of_ne_zero (Nat.ne_of_gt (Nat.lt_of_le_of_lt (Nat.zero_le _) hfuel))
    unfold redactLoop
    rw [sliceFrom_append, Option.bind_some, hnone]
    split_ifs <;> rfl
  | @field text skipped label rest out hsome hout ih =>
    obtain ⟨fuel, rfl⟩ :=
      Nat.exists_eq_add_one_of_ne_zero (Nat.ne_of_gt (Nat.lt_of_le_of_lt (Nat.zero_le _) hfuel))
    obtain ⟨matched, rfl, hshorter⟩ := captures_parts hsome
    have hpos : byteLen before < byteLen (before ++ (skipped ++ (matched ++ rest))) := by
      have hle := length_le_byteLen (skipped ++ (matched ++ rest))
      rw [byteLen_append]
      omega
    have hstart : byteLen before + (byteLen (skipped ++ (matched ++ rest)) - byteLen rest) =
        byteLen (before ++ (skipped ++ matched)) := by
      simp only [byteLen_append]
      omega
    have hmessage : before ++ (skipped ++ (matched ++ rest)) = before ++ (skipped ++ matched) ++
        rest := by
      simp only [List.append_assoc]
    have hrest : rest = rest.take (consumeGatewayFieldValue rest) ++
        rest.drop (consumeGatewayFieldValue rest) :=
      (List.take_append_drop _ rest).symm
    have hslice : slice (before ++ (skipped ++ (matched ++ rest))) (byteLen before)
        (byteLen before + byteLen skipped) = some skipped := by
      rw [← byteLen_append]
      exact slice_append before skipped (matched ++ rest)
    have hvalue := consumeGatewayFieldValueAt_eq (before ++ (skipped ++ matched)) rest
    rw [← hmessage] at hvalue
    have hagain :=
      ih (before ++ (skipped ++ matched) ++ rest.take (consumeGatewayFieldValue rest)) fuel
        (redacted ++ skipped ++ label ++ '=' :: redactionMark) (by
        rw [List.length_drop]
        omega)
    rw [List.append_assoc _ _ (List.drop _ rest), ← hrest, ← hmessage] at hagain
    unfold redactLoop
    rw [if_pos hpos, sliceFrom_append, Option.bind_some, hsome]
    dsimp only
    rw [hstart, hvalue, Option.bind_some, hslice, Option.bind_some, hagain]
    simp only [List.append_assoc, List.cons_append]

/-- The loop makes something of every text. -/
theorem exists_redacts (text : List Char) : ∃ out, Redacts text out := by
  induction hlength : text.length using Nat.strong_induction_on generalizing text with
  | _ n ih =>
    cases hcaptures : captures text with
    | none => exact ⟨text, .done hcaptures⟩
    | some found =>
      obtain ⟨skipped, label, rest⟩ := found
      obtain ⟨-, -, hshorter⟩ := captures_parts hcaptures
      have hlt : (rest.drop (consumeGatewayFieldValue rest)).length < n := by
        rw [List.length_drop]
        omega
      obtain ⟨out, hout⟩ := ih _ hlt _ rfl
      exact ⟨_, .field hcaptures hout⟩

/-- `redact_gateway_fields` returns what the loop makes of a message. -/
theorem Redacts.redactGatewayFields_eq {message out : List Char} (h : Redacts message out) :
    redactGatewayFields message = some out :=
  h.redactLoop_eq [] (byteLen message + 1) [] (Nat.lt_succ_of_le (length_le_byteLen message))

/-! ## The redacted text -/

/-- The start of a match has no bracket in it. -/
theorem Opens.bracket_not_mem {head label : List Char} (h : Opens head label) : ']' ∉ head := by
  obtain ⟨o, p, rfl, ho, hlabel, hp⟩ := h
  obtain ⟨q, blanks, c, rfl, hq, hblanks, hc⟩ := matches_separator.mp hp
  have hquote : ∀ m, Matches quote m → ']' ∉ m := by
    intro m hm hmem
    obtain rfl | ⟨d, rfl, hd⟩ := matches_quote.mp hm
    · exact List.not_mem_nil hmem
    · rw [← List.mem_singleton.mp hmem] at hd
      exact absurd hd (by decide)
  simp only [List.mem_append, List.mem_singleton, not_or]
  refine ⟨hquote o ho, fun hmem => ?_, hquote q hq, fun hmem => ?_, fun heq => ?_⟩
  · exact absurd ((matches_name hlabel).2 _ hmem) (by decide)
  · exact absurd (hblanks _ hmem) (by decide)
  · rw [← heq] at hc
    exact absurd hc (by decide)

/-- In a redacted text a mark follows every separator that ends the start of a match. A start of a
match has no bracket, so that it lies between two marks. There its separator is the one that the
loop has put before the next mark: none is in the name, and what the loop passed over contains no
start of a match. -/
theorem Redacts.marked {text out : List Char} (h : Redacts text out) :
    ∀ before head label tail, out = before ++ (head ++ tail) → Opens head label →
      redactionMark <+: tail := by
  induction h with
  | done hnone =>
    intro before head label tail heq hopens
    exact absurd hopens (captures_eq_none.mp hnone before head label tail heq)
  | @field text skipped name rest out hsome hout ih =>
    intro before head label tail heq hopens
    obtain ⟨own, after, rfl, hown, -, hleft⟩ := captures_eq_some.mp hsome
    obtain ⟨init, c, hinit, hc, -⟩ := hopens.last
    have hmark : redactionMark = "[redacted".toList ++ [']'] := by decide
    have hsplit : (skipped ++ (name ++ '=' :: "[redacted".toList)) ++ ']' :: out =
        before ++ (head ++ tail) := by
      rw [← heq, hmark]
      simp only [List.append_assoc, List.cons_append, List.nil_append]
    obtain ⟨gap, hgap, rfl⟩ | ⟨gap, -, htail⟩ | ⟨first, last, rfl, -, -⟩ := part_cases hsplit
    · have hsplit' : (skipped ++ name) ++ '=' :: "[redacted".toList = before ++ (head ++ gap) := by
        rw [← hgap]
        simp only [List.append_assoc]
      obtain ⟨gap', hgap', rfl⟩ | ⟨gap', -, hgap'⟩ | ⟨first, last, rfl, -, hlast⟩ :=
        part_cases hsplit'
      · have hpassed : (before ++ init) ++ c :: gap' = skipped ++ (name ++ []) := by
          rw [List.append_nil, hgap', hinit]
          simp only [List.append_assoc, List.singleton_append]
        obtain ⟨_, -, hnil⟩ | ⟨gap'', hskipped, -⟩ | ⟨first, last, hname, -, -⟩ :=
          part_cases hpassed
        · exact absurd hnil.symm (List.append_ne_nil_of_right_ne_nil _ (List.cons_ne_nil _ _))
        · refine absurd hopens (hleft before head label (gap'' ++ (own ++ after)) ?_ ?_)
          · rw [hskipped, List.length_append, List.length_append, List.length_cons]
            omega
          · rw [hskipped, hinit]
            simp only [List.append_assoc, List.cons_append, List.nil_append]
        · obtain ⟨-, -, -, -, hmatch, -⟩ := hown
          have hmem : c ∈ name := by
            rw [hname]
            exact List.mem_append_right first List.mem_cons_self
          have hfalse := (isNameCharacter_spec ((matches_name hmatch).2 c hmem)).2.2
          rw [hc] at hfalse
          cases hfalse
      · -- The letters of the mark have no separator.
        have hmem : c ∈ "[redacted".toList := by
          rw [hgap', hinit]
          simp only [List.mem_append, List.mem_singleton, true_or, or_true]
        have hnone : ("[redacted".toList.all fun d => !isSeparator d) = true := by decide
        have hfalse := List.all_eq_true.mp hnone c hmem
        rw [hc] at hfalse
        cases hfalse
      · obtain rfl := hopens.separator_last (by decide)
        rw [hmark]
        exact ⟨out, by rw [hlast, List.nil_append, List.append_assoc]; rfl⟩
    · exact ih gap head label tail htail hopens
    · exact absurd (List.mem_append_right first List.mem_cons_self) hopens.bracket_not_mem

/-! ## The end of a value -/

/-- A character that neither opens nor closes a value, and escapes nothing. -/
def isPlain (c : Char) : Bool := !(['\x22', '\x27', '\x5c', '\x7b', '\x7d', '[', ']'].contains c)

/-- A character at which no value ends. -/
def isValueCharacter (c : Char) : Bool := !isBareDelimiter c && c != '\x5c'

/-- A text that stands for itself as a value. -/
def IsValue (v : List Char) : Prop := v ≠ [] ∧ ∀ c ∈ v, isValueCharacter c = true

/-- A way to find the end of a value that takes every character of a value and stays as it is. -/
def Passes (taken : List Char → ℕ) : Prop :=
  ∀ c cs, isValueCharacter c = true → taken (c :: cs) = 1 + taken cs

/-- It takes values. -/
theorem Passes.append {taken : List Char → ℕ} (h : Passes taken) {v : List Char}
    (hv : ∀ c ∈ v, isValueCharacter c = true) (rest : List Char) :
    taken (v ++ rest) = v.length + taken rest := by
  induction v with
  | nil => rw [List.nil_append, List.length_nil, Nat.zero_add]
  | cons c v ih =>
    obtain ⟨hc, hv⟩ := List.forall_mem_cons.mp hv
    rw [List.cons_append, h c _ hc, ih hv, List.length_cons]
    omega

/-- What a plain character is not. -/
theorem isPlain_spec {c : Char} (h : isPlain c = true) :
    ¬ (c = '\x22' ∨ c = '\x27') ∧ c ≠ '\x5c' ∧ ¬ (c = '\x7b' ∨ c = '[') ∧
      ¬ (c = '\x7d' ∨ c = ']') := by
  unfold isPlain at h
  simp only [Bool.not_eq_true', List.contains_eq_mem, List.mem_cons, List.not_mem_nil, or_false,
    decide_eq_false_iff_not, not_or] at h
  tauto

/-- A character of a value is plain, and no bare value ends before it. -/
theorem isValueCharacter_spec {c : Char} (h : isValueCharacter c = true) :
    isPlain c = true ∧ isBareDelimiter c = false := by
  unfold isValueCharacter isBareDelimiter at h
  unfold isPlain isBareDelimiter
  simp only [Bool.and_eq_true, Bool.not_eq_true', Bool.or_eq_false_iff, decide_eq_false_iff_not,
    List.mem_cons, List.not_mem_nil, or_false, not_or, bne_iff_ne, ne_eq] at h
  simp only [Bool.not_eq_true', List.contains_eq_mem, Bool.or_eq_false_iff, decide_eq_false_iff_not,
    List.mem_cons, List.not_mem_nil, or_false, not_or]
  tauto

/-- A plain character in a quoted value. -/
theorem consumeQuoted_plain {quote c : Char} (hquote : quote = '\x22' ∨ quote = '\x27')
    (hc : isPlain c = true) (escaped : Bool) (cs : List Char) :
    consumeQuoted quote escaped (c :: cs) = 1 + consumeQuoted quote false cs := by
  obtain ⟨hno, hslash, -, -⟩ := isPlain_spec hc
  have hne : c ≠ quote := by
    rintro rfl
    exact hno hquote
  cases escaped with
  | true => rfl
  | false => rw [consumeQuoted, if_neg hslash, if_neg hne]

/-- A plain character in a bracketed value; behind it nothing is escaped. -/
theorem consumeBalanced_plain {quoted : Option Char} {c : Char}
    (hquoted : ∀ q ∈ quoted, q = '\x22' ∨ q = '\x27') (hc : isPlain c = true) (stack : List Char)
    (escaped : Bool) (cs : List Char) : consumeBalanced stack quoted escaped (c :: cs) =
      1 + consumeBalanced stack quoted (quoted.isNone && escaped) cs := by
  obtain ⟨hno, hslash, hopen, hclose⟩ := isPlain_spec hc
  cases quoted with
  | some quote =>
    have hne : c ≠ quote := by
      rintro rfl
      exact hno (hquoted c rfl)
    cases escaped with
    | true => rfl
    | false =>
      rw [consumeBalanced, if_neg hslash, if_neg hne]
      rfl
  | none =>
    have hpop : ¬ ((c = '\x7d' ∧ stack.head? = some '\x7b') ∨ (c = ']' ∧ stack.head? = some '[')) :=
      fun h => hclose (h.imp And.left And.left)
    rw [consumeBalanced, if_neg hno, if_neg hopen, if_neg hpop, if_neg hclose]
    rfl

/-- A value ends in some text, wherever it goes on, or goes on behind the text in a way that depends
on the text alone. -/
def Splits (taken : List Char → ℕ) (text : List Char) (Ways : (List Char → ℕ) → Prop) : Prop :=
  (∃ k ≤ text.length, ∀ rest, taken (text ++ rest) = k) ∨
    ∃ taken', Ways taken' ∧ ∀ rest, taken (text ++ rest) = text.length + taken' rest

/-- Nothing has been taken yet. -/
theorem Splits.nil {taken : List Char → ℕ} {Ways : (List Char → ℕ) → Prop} (h : Ways taken) :
    Splits taken [] Ways :=
  .inr ⟨taken, h, fun rest => by rw [List.nil_append, List.length_nil, Nat.zero_add]⟩

/-- The value ends here. -/
theorem Splits.stop {taken : List Char → ℕ} {Ways : (List Char → ℕ) → Prop} {c : Char}
    {text : List Char} {k : ℕ} (hk : k ≤ 1) (h : ∀ rest, taken (c :: rest) = k) :
    Splits taken (c :: text) Ways := by
  refine .inl ⟨k, ?_, fun rest => h (text ++ rest)⟩
  rw [List.length_cons]
  omega

/-- A character is taken. -/
theorem Splits.cons {taken taken' : List Char → ℕ} {Ways : (List Char → ℕ) → Prop} {c : Char}
    {text : List Char} (h : ∀ rest, taken (c :: rest) = 1 + taken' rest)
    (htext : Splits taken' text Ways) :
    Splits taken (c :: text) Ways := by
  obtain ⟨k, hk, heq⟩ | ⟨taken'', hways, heq⟩ := htext
  · refine .inl ⟨1 + k, ?_, fun rest => ?_⟩
    · rw [List.length_cons]
      omega
    · rw [List.cons_append, h, heq]
  · refine .inr ⟨taken'', hways, fun rest => ?_⟩
    rw [List.cons_append, h, heq, List.length_cons]
    omega

/-- A way to find the end of a value that, behind a plain character, takes every character of a
value, unless the value ends before the plain one. -/
def Settles (taken : List Char → ℕ) : Prop :=
  ∀ c, isPlain c = true → (∀ cs, taken (c :: cs) = 0) ∨
    ∃ taken', Passes taken' ∧ ∀ cs, taken (c :: cs) = 1 + taken' cs

/-- Inside quotes. -/
theorem settles_consumeQuoted {quote : Char} (hquote : quote = '\x22' ∨ quote = '\x27')
    (escaped : Bool) : Settles (consumeQuoted quote escaped) := by
  refine fun c hc =>
    .inr ⟨consumeQuoted quote false, fun d cs hd => ?_, consumeQuoted_plain hquote hc escaped⟩
  exact consumeQuoted_plain hquote (isValueCharacter_spec hd).1 false cs

/-- Inside brackets. -/
theorem settles_consumeBalanced {quoted : Option Char}
    (hquoted : ∀ q ∈ quoted, q = '\x22' ∨ q = '\x27') (stack : List Char) (escaped : Bool) :
    Settles (consumeBalanced stack quoted escaped) := by
  refine fun c hc =>
    .inr ⟨consumeBalanced stack quoted (quoted.isNone && escaped), fun d cs hd => ?_,
      consumeBalanced_plain hquoted hc stack escaped⟩
  have hagain : (quoted.isNone && (quoted.isNone && escaped)) = (quoted.isNone && escaped) := by
    rw [← Bool.and_assoc, Bool.and_self]
  rw [consumeBalanced_plain hquoted (isValueCharacter_spec hd).1, hagain]

/-- In a bare value. -/
theorem passes_consumeBare : Passes consumeBare := by
  intro c cs hc
  rw [consumeBare_cons, (isValueCharacter_spec hc).2]
  rfl

/-- In a bare value. -/
theorem settles_consumeBare : Settles consumeBare := by
  intro c _
  cases hdelimiter : isBareDelimiter c with
  | true => exact .inl fun cs => by rw [consumeBare_cons, hdelimiter]; rfl
  | false =>
    exact .inr
      ⟨consumeBare, passes_consumeBare, fun cs => by rw [consumeBare_cons, hdelimiter]; rfl⟩

/-- A quoted value. -/
theorem splits_consumeQuoted {quote : Char} (hquote : quote = '\x22' ∨ quote = '\x27')
    (escaped : Bool) (text : List Char) : Splits (consumeQuoted quote escaped) text Settles := by
  induction text generalizing escaped with
  | nil => exact .nil (settles_consumeQuoted hquote escaped)
  | cons c text ih =>
    cases escaped with
    | true => exact .cons (fun _ => rfl) (ih false)
    | false =>
      by_cases hslash : c = '\x5c'
      · exact .cons (fun rest => by rw [consumeQuoted, if_pos hslash]) (ih true)
      by_cases hclose : c = quote
      · exact .stop (Nat.le_refl 1) fun rest => by rw [consumeQuoted, if_neg hslash, if_pos hclose]
      · exact .cons (fun rest => by rw [consumeQuoted, if_neg hslash, if_neg hclose]) (ih false)

/-- A bracketed value. -/
theorem splits_consumeBalanced {quoted : Option Char}
    (hquoted : ∀ q ∈ quoted, q = '\x22' ∨ q = '\x27') (stack : List Char) (escaped : Bool)
    (text : List Char) :
    Splits (consumeBalanced stack quoted escaped) text Settles := by
  induction text generalizing quoted stack escaped with
  | nil => exact .nil (settles_consumeBalanced hquoted stack escaped)
  | cons c text ih =>
    have hnone : ∀ q ∈ (none : Option Char), q = '\x22' ∨ q = '\x27' := fun q hq => by cases hq
    cases quoted with
    | some quote =>
      cases escaped with
      | true => exact .cons (fun _ => rfl) (ih hquoted stack false)
      | false =>
        by_cases hslash : c = '\x5c'
        · exact .cons (fun rest => by rw [consumeBalanced, if_pos hslash]) (ih hquoted stack true)
        by_cases hclose : c = quote
        · exact .cons (fun rest => by rw [consumeBalanced, if_neg hslash, if_pos hclose])
            (ih hnone stack false)
        · exact .cons (fun rest => by rw [consumeBalanced, if_neg hslash, if_neg hclose])
            (ih hquoted stack false)
    | none =>
      by_cases hquote : c = '\x22' ∨ c = '\x27'
      · have hsome : ∀ q ∈ some c, q = '\x22' ∨ q = '\x27' := fun q hq => by
          rwa [← Option.some.inj hq]
        exact .cons (fun rest => by rw [consumeBalanced, if_pos hquote]) (ih hsome stack escaped)
      by_cases hopen : c = '\x7b' ∨ c = '['
      · exact .cons (fun rest => by rw [consumeBalanced, if_neg hquote, if_pos hopen])
          (ih hnone (c :: stack) escaped)
      by_cases hpop : (c = '\x7d' ∧ stack.head? = some '\x7b') ∨ (c = ']' ∧ stack.head? = some '[')
      · by_cases hlast : stack.tail = []
        · exact .stop (Nat.le_refl 1) fun rest => by
            rw [consumeBalanced, if_neg hquote, if_neg hopen, if_pos hpop, if_pos hlast]
        · exact .cons (fun rest => by
            rw [consumeBalanced, if_neg hquote, if_neg hopen, if_pos hpop, if_neg hlast])
            (ih hnone stack.tail escaped)
      by_cases hclose : c = '\x7d' ∨ c = ']'
      · exact .stop (Nat.zero_le 1) fun rest => by
          rw [consumeBalanced, if_neg hquote, if_neg hopen, if_neg hpop, if_pos hclose]
      · exact .cons (fun rest => by
          rw [consumeBalanced, if_neg hquote, if_neg hopen, if_neg hpop, if_neg hclose])
          (ih hnone stack escaped)

/-- A bare value. -/
theorem splits_consumeBare (text : List Char) : Splits consumeBare text Settles := by
  induction text with
  | nil => exact .nil settles_consumeBare
  | cons c text ih =>
    cases hdelimiter : isBareDelimiter c with
    | true => exact .stop (Nat.zero_le 1) fun rest => by rw [consumeBare_cons, hdelimiter]; rfl
    | false => exact .cons (fun rest => by rw [consumeBare_cons, hdelimiter]; rfl) ih

/-- A value that begins with a plain character is bare. -/
theorem consumeGatewayFieldValue_plain {c : Char} (hc : isPlain c = true) (cs : List Char) :
    consumeGatewayFieldValue (c :: cs) = consumeBare (c :: cs) := by
  obtain ⟨hquote, -, hopen, -⟩ := isPlain_spec hc
  rw [consumeGatewayFieldValue, if_neg hquote, if_neg hopen]

/-- The value of a field. -/
theorem splits_consumeGatewayFieldValue (text : List Char) :
    Splits consumeGatewayFieldValue text Settles := by
  cases text with
  | nil =>
    refine .nil fun c hc => ?_
    obtain h | ⟨taken, hpasses, h⟩ := settles_consumeBare c hc
    · exact .inl fun cs => (consumeGatewayFieldValue_plain hc cs).trans (h cs)
    · exact .inr ⟨taken, hpasses, fun cs => (consumeGatewayFieldValue_plain hc cs).trans (h cs)⟩
  | cons c text =>
    by_cases hquote : c = '\x22' ∨ c = '\x27'
    · exact .cons (fun rest => by rw [consumeGatewayFieldValue, if_pos hquote])
        (splits_consumeQuoted hquote false text)
    by_cases hopen : c = '\x7b' ∨ c = '['
    · exact .cons (fun rest => by rw [consumeGatewayFieldValue, if_neg hquote, if_pos hopen])
        (splits_consumeBalanced (fun q hq => by cases hq) [c] false text)
    · have hbare : ∀ rest, consumeGatewayFieldValue (c :: rest) = consumeBare (c :: rest) := by
        intro rest
        rw [consumeGatewayFieldValue, if_neg hquote, if_neg hopen]
      cases hdelimiter : isBareDelimiter c with
      | true =>
        exact .stop (Nat.zero_le 1) fun rest => by rw [hbare, consumeBare_cons, hdelimiter]; rfl
      | false =>
        exact .cons (fun rest => by rw [hbare, consumeBare_cons, hdelimiter]; rfl)
          (splits_consumeBare text)

/-! ## Values that do not show -/

/-- The loop on a text searches, at once or later, in some rest of the text. -/
inductive Resumes : List Char → List Char → Prop
  | here (text : List Char) : Resumes text text
  | behind {text skipped label rest last : List Char}
      (h : captures text = some (skipped, label, rest))
      (hlast : Resumes (rest.drop (consumeGatewayFieldValue rest)) last) : Resumes text last

/-- A value that starts before a match ends inside it, and not right behind the quote that opens
it. -/
def EndsInside (before m : List Char) : Prop :=
  ∃ first last, m = first ++ last ∧ first ≠ [] ∧ last ≠ [] ∧ (∀ q, isQuote q = true → first ≠ [q]) ∧
    Resumes (before ++ m) last

/-- The last character of a match is plain. -/
theorem exists_plain_last {m : List Char} (hm : Matches sensitiveField m) :
    ∃ init c, m = init ++ [c] ∧ isPlain c = true := by
  obtain ⟨head, label, blanks, rfl, hopens, hblanks⟩ := matches_sensitiveField.mp hm
  obtain ⟨init, c, rfl, hc, -⟩ := hopens.last
  have hplain : ∀ d, isSeparator d = true ∨ isWhitespace d = true → isPlain d = true := by
    intro d hd
    have hall : (['\x22', '\x27', '\x5c', '\x7b', '\x7d', '[', ']'].all fun e =>
      !isSeparator e && !isWhitespace e) = true := by decide
    cases hplain : isPlain d with
    | true => rfl
    | false =>
      have hmem : d ∈ ['\x22', '\x27', '\x5c', '\x7b', '\x7d', '[', ']'] := by
        unfold isPlain at hplain
        exact List.contains_iff_mem.mp (by simpa only [Bool.not_eq_false'] using hplain)
      have hneither := List.all_eq_true.mp hall d hmem
      rw [Bool.and_eq_true, Bool.not_eq_true', Bool.not_eq_true'] at hneither
      rcases hd with hd | hd
      · rw [hneither.1] at hd
        cases hd
      · rw [hneither.2] at hd
        cases hd
  obtain rfl | ⟨blanks', d, rfl⟩ := List.eq_nil_or_concat blanks
  · exact ⟨init, c, List.append_nil _, hplain c (.inl hc)⟩
  · refine ⟨init ++ [c] ++ blanks', d, ?_, hplain d (.inr (hblanks d ?_))⟩
    · rw [List.concat_eq_append, List.append_assoc (init ++ [c])]
    · rw [List.concat_eq_append]
      exact List.mem_append_right blanks' List.mem_cons_self

/-- A value that starts before a match ends inside the match or before it, or goes on behind it over
any value. -/
theorem value_split (gap : List Char) {m : List Char} (hm : Matches sensitiveField m) :
    (∃ k < gap.length + m.length, ∀ rest, consumeGatewayFieldValue (gap ++ (m ++ rest)) = k) ∨
      ∃ taken, Passes taken ∧
        ∀ rest, consumeGatewayFieldValue (gap ++ (m ++ rest)) =
          gap.length + (m.length + taken rest) := by
  obtain ⟨init, c, rfl, hc⟩ := exists_plain_last hm
  have hmessage : ∀ rest, gap ++ (init ++ [c] ++ rest) = (gap ++ init) ++ c :: rest := by
    intro rest
    simp only [List.append_assoc, List.singleton_append]
  have hlength : gap.length + (init ++ [c]).length = (gap ++ init).length + 1 := by
    simp only [List.length_append, List.length_singleton]
    omega
  obtain ⟨k, hk, h⟩ | ⟨taken, hsettles, h⟩ := splits_consumeGatewayFieldValue (gap ++ init)
  · refine .inl ⟨k, by omega, fun rest => ?_⟩
    rw [hmessage, h]
  · obtain hzero | ⟨taken', hpasses, htaken⟩ := hsettles c hc
    · refine .inl ⟨(gap ++ init).length, by omega, fun rest => ?_⟩
      rw [hmessage, h, hzero, Nat.add_zero]
    · refine .inr ⟨taken', hpasses, fun rest => ?_⟩
      rw [hmessage, h, htaken]
      omega

/-- Without the quote that opens it, a match is one as well. -/
theorem matches_behind_quote {q : Char} {rest : List Char} (hq : isQuote q = true)
    (h : Matches sensitiveField (q :: rest)) : Matches sensitiveField rest := by
  obtain ⟨head, label, blanks, heq, ⟨o, p, rfl, ho, hlabel, hp⟩, hblanks⟩ :=
    matches_sensitiveField.mp h
  obtain ⟨hne, hname⟩ := matches_name hlabel
  obtain rfl | ⟨d, rfl, -⟩ := matches_quote.mp ho
  · obtain ⟨d, ds, rfl⟩ := List.exists_cons_of_ne_nil hne
    obtain ⟨rfl, -⟩ := List.cons.inj heq
    rw [(isNameCharacter_spec (hname q List.mem_cons_self)).1] at hq
    cases hq
  · obtain ⟨-, rfl⟩ := List.cons.inj heq
    exact matches_sensitiveField.mpr
      ⟨label ++ p, label, blanks, rfl, ⟨[], p, rfl, .skip, hlabel, hp⟩, hblanks⟩

/-- The loop makes the same of two texts in which it finds the same match, and the same rest behind
the values. -/
theorem Redacts.of_captures {text text' skipped label rest rest' out : List Char}
    (h : Redacts text out) (hcaptures : captures text = some (skipped, label, rest))
    (hcaptures' : captures text' = some (skipped, label, rest'))
    (hrest : ∀ out, Redacts (rest.drop (consumeGatewayFieldValue rest)) out →
      Redacts (rest'.drop (consumeGatewayFieldValue rest')) out) : Redacts text' out := by
  cases h with
  | done hnone =>
    rw [hcaptures] at hnone
    cases hnone
  | field hsome hout =>
    rw [hcaptures] at hsome
    obtain ⟨rfl, heq⟩ := Prod.mk.inj (Option.some.inj hsome)
    obtain ⟨rfl, rfl⟩ := Prod.mk.inj heq
    exact .field hcaptures' (hrest _ hout)

/-- What is left behind a value that begins where one is expected. -/
theorem drop_value {v : List Char} (hv : IsValue v) (rest : List Char) :
    (v ++ rest).drop (consumeGatewayFieldValue (v ++ rest)) = rest.drop (consumeBare rest) := by
  obtain ⟨c, cs, rfl⟩ := List.exists_cons_of_ne_nil hv.1
  have hplain := (isValueCharacter_spec (hv.2 c List.mem_cons_self)).1
  rw [List.cons_append, consumeGatewayFieldValue_plain hplain, ← List.cons_append,
    passes_consumeBare.append hv.2, List.drop_append, List.drop_eq_nil_of_le (Nat.le_add_right _ _),
    Nat.add_sub_cancel_left, List.nil_append]

/-- A value begins with no blank. -/
theorem IsValue.head_not_blank {v : List Char} (hv : IsValue v) (rest : List Char) :
    ∀ c ∈ (v ++ rest).head?, isWhitespace c = false := by
  obtain ⟨c, cs, rfl⟩ := List.exists_cons_of_ne_nil hv.1
  intro d hd
  rw [← Option.some.inj hd]
  have hdelimiter := (isValueCharacter_spec (hv.2 c List.mem_cons_self)).2
  unfold isBareDelimiter at hdelimiter
  exact (Bool.or_eq_false_iff.mp hdelimiter).1

/-- The value behind a match does not show where the message begins with the match. -/
theorem Redacts.of_first_value {m v w : List Char} (hm : Matches sensitiveField m) (hv : IsValue v)
    (hw : IsValue w) {rest out : List Char} (h : Redacts (m ++ (v ++ rest)) out) :
    Redacts (m ++ (w ++ rest)) out := by
  obtain ⟨skipped, label, hcaptures⟩ | ⟨_, _, _, hlt, -, -⟩ := captures_split [] hm
  · refine h.of_captures (hcaptures _ (hv.head_not_blank rest))
      (hcaptures _ (hw.head_not_blank rest)) fun out hout => ?_
    rw [drop_value hv] at hout
    rwa [drop_value hw]
  · exact absurd hlt (Nat.not_lt_zero _)

/-- The value behind a match does not show, unless a value that starts before the match ends inside
it. By induction on what stands before the match: either the search finds a match that ends as this
one does, or it finds an earlier one, whose value ends before this match, right behind its first
quote, or behind its value. -/
theorem Redacts.of_value {before m v w : List Char} (hm : Matches sensitiveField m)
    (hends : ¬ EndsInside before m) (hv : IsValue v) (hw : IsValue w) {rest out : List Char}
    (h : Redacts (before ++ (m ++ (v ++ rest))) out) :
    Redacts (before ++ (m ++ (w ++ rest))) out := by
  -- By induction on what stands before the match: the loop finds the match itself, or one before it
  -- whose value ends before the match, inside it, or behind it.
  induction hlength : before.length using Nat.strong_induction_on generalizing before out with
  | _ n ih =>
    obtain ⟨skipped, label, hcaptures⟩ | ⟨skipped, label, gap, hgap, -, hcaptures⟩ :=
      captures_split before hm
    · refine h.of_captures (hcaptures _ (hv.head_not_blank rest))
        (hcaptures _ (hw.head_not_blank rest)) fun out hout => ?_
      rw [drop_value hv] at hout
      rwa [drop_value hw]
    · refine h.of_captures (hcaptures _) (hcaptures _) fun out hout => ?_
      have hresumes : ∀ last, Resumes ((gap ++ m).drop (consumeGatewayFieldValue (gap ++ m))) last →
          Resumes (before ++ m) last := by
        intro last hlast
        have hown := hcaptures []
        rw [List.append_nil] at hown
        exact .behind hown hlast
      obtain ⟨k, hk, hvalue⟩ | ⟨taken, hpasses, hvalue⟩ := value_split gap hm
      · have hown : consumeGatewayFieldValue (gap ++ m) = k := by
          have hnil := hvalue []
          rwa [List.append_nil] at hnil
        rw [hown] at hresumes
        rw [hvalue] at hout ⊢
        by_cases hbefore : k ≤ gap.length
        · rw [List.drop_append_of_le_length hbefore] at hout hresumes ⊢
          have hshorter : (gap.drop k).length < n := by
            rw [List.length_drop]
            omega
          refine ih _ hshorter (fun hagain => hends ?_) hout rfl
          obtain ⟨first, last, hm', hfirst, hlast, hquote, hres⟩ := hagain
          exact ⟨first, last, hm', hfirst, hlast, hquote, hresumes last hres⟩
        · -- The value ends inside the match, so that only its first quote is taken.
          obtain ⟨j, rfl⟩ := Nat.exists_eq_add_of_le (Nat.le_of_not_le hbefore)
          have hdrop : ∀ x, (gap ++ (m ++ x)).drop (gap.length + j) = m.drop j ++ x := by
            intro x
            rw [List.drop_length_add_append, List.drop_append_of_le_length (by omega)]
          have hquote : ∃ q, isQuote q = true ∧ m.take j = [q] := by
            by_contra hno
            refine hends ⟨m.take j, m.drop j, (List.take_append_drop j m).symm, ?_, ?_, ?_,
              hresumes _ ?_⟩
            · intro hnil
              have hlen := congrArg List.length hnil
              rw [List.length_take, List.length_nil] at hlen
              omega
            · intro hnil
              have hlen := congrArg List.length hnil
              rw [List.length_drop, List.length_nil] at hlen
              omega
            · exact fun q hq htake => hno ⟨q, hq, htake⟩
            · rw [List.drop_length_add_append]
              exact .here _
          obtain ⟨q, hq, htake⟩ := hquote
          have hbehind : Matches sensitiveField (m.drop j) := by
            have hsplit := List.take_append_drop j m
            rw [htake] at hsplit
            rw [← hsplit] at hm
            exact matches_behind_quote hq hm
          rw [hdrop] at hout ⊢
          exact hout.of_first_value hbehind hv hw
      -- The value goes on over the match and its value, to the same place behind either value.
      · have hdrop : ∀ {u : List Char}, IsValue u →
            (gap ++ (m ++ (u ++ rest))).drop
              (consumeGatewayFieldValue (gap ++ (m ++ (u ++ rest)))) = rest.drop (taken rest) := by
          intro u hu
          rw [hvalue, hpasses.append hu.2, List.drop_length_add_append, List.drop_length_add_append,
            List.drop_length_add_append]
        rw [hdrop hv] at hout
        rwa [hdrop hw]

/-- A value ends inside `password"=` where the value of a token ends with the quote in it. -/
theorem value_behind_quoted_value_shows :
    ¬ ∀ before m v w rest : List Char, Matches sensitiveField m → IsValue v → IsValue w →
      (∀ c ∈ rest.head?, isBareDelimiter c = true) →
      redactGatewayFields (before ++ (m ++ (v ++ rest))) =
        redactGatewayFields (before ++ (m ++ (w ++ rest))) := by
  intro h
  have hm : Matches sensitiveField "password\"=".toList := by
    have hmem : [] ∈ runs sensitiveField "password\"=".toList := by decide +kernel
    obtain ⟨m, heq, hm⟩ := mem_runs.mp hmem
    rwa [heq, List.append_nil]
  have hvalue : ∀ c : Char, isValueCharacter c = true → IsValue [c] :=
    fun c hc => ⟨List.cons_ne_nil c [], fun d hd => by rwa [List.mem_singleton.mp hd]⟩
  have heq := h "token=\"".toList "password\"=".toList ['1'] ['2'] [] hm (hvalue '1' (by decide))
    (hvalue '2' (by decide)) (fun c hc => by cases hc)
  revert heq
  decide +kernel

/-- `redact_gateway_fields`: the values of sensitive fields do not show, unless a value that starts
before the field ends inside its name. For every message the loop ends without a panic, and in what
it returns every match of the pattern is followed by a mark. -/
theorem redacted_fields_hide_values :
    (∀ before m v w rest : List Char, Matches sensitiveField m → ¬ EndsInside before m → IsValue v →
      IsValue w → redactGatewayFields (before ++ (m ++ (v ++ rest))) =
        redactGatewayFields (before ++ (m ++ (w ++ rest)))) ∧
    ∀ message, ∃ out, redactGatewayFields message = some out ∧
      ∀ before m after, out = before ++ (m ++ after) → Matches sensitiveField m →
        redactionMark <+: after := by
  constructor
  · intro before m v w rest hm hends hv hw
    obtain ⟨out, hout⟩ := exists_redacts (before ++ (m ++ (v ++ rest)))
    rw [hout.redactGatewayFields_eq, (hout.of_value hm hends hv hw).redactGatewayFields_eq]
  · intro message
    obtain ⟨out, hout⟩ := exists_redacts message
    refine ⟨out, hout.redactGatewayFields_eq, fun before m after heq hm => ?_⟩
    obtain ⟨head, label, blanks, rfl, hopens, hblanks⟩ := matches_sensitiveField.mp hm
    have hmarked :=
      hout.marked before head label (blanks ++ after) (by rw [heq, List.append_assoc head]) hopens
    cases blanks with
    | nil => exact hmarked
    | cons c blanks =>
      obtain ⟨last, hlast⟩ := hmarked
      obtain ⟨rfl, -⟩ :=
        List.cons.inj (hlast : '[' :: ("redacted]".toList ++ last) = c :: (blanks ++ after))
      exact absurd (hblanks '[' List.mem_cons_self) (by decide)

/-- The loop searches no text behind the end of a message. -/
theorem Resumes.eq_nil {last : List Char} (h : Resumes [] last) : last = [] := by
  cases h with
  | here => rfl
  | behind hsome hlast =>
    have hnone : captures [] = none := by decide +kernel
    rw [hnone] at hsome
    cases hsome

/-- A bare value before the match ends before it. -/
theorem redacted_fields_hide_values_pan :
    redactGatewayFields ("pin=1,".toList ++ ("pan=".toList ++ ("11".toList ++ "; otp=2".toList))) =
      redactGatewayFields
        ("pin=1,".toList ++ ("pan=".toList ++ ("2=3".toList ++ "; otp=2".toList))) := by
  have hm : Matches sensitiveField "pan=".toList := by
    have hmem : [] ∈ runs sensitiveField "pan=".toList := by decide +kernel
    obtain ⟨m, heq, hm⟩ := mem_runs.mp hmem
    rwa [heq, List.append_nil]
  refine redacted_fields_hide_values.1 _ _ _ _ _ hm ?_ ⟨by decide, List.all_eq_true.mp (by decide)⟩
    ⟨by decide, List.all_eq_true.mp (by decide)⟩
  rintro ⟨first, last, hsplit, hfirst, hlast, -, hresumes⟩
  -- The loop searches the message, `,pan=`, and what is left of it, which is nothing.
  have hlength : last.length < "pan=".toList.length := by
    rw [hsplit, List.length_append]
    have hpos := List.length_pos_of_ne_nil hfirst
    omega
  have hone : captures ("pin=1,".toList ++ "pan=".toList) =
      some ([], "pin".toList, "1,pan=".toList) := by
    decide +kernel
  have htwo : captures ",pan=".toList = some (",".toList, "pan".toList, []) := by decide +kernel
  cases hresumes with
  | here => exact absurd hlength (by decide)
  | behind hsome hresumes =>
    rw [hone] at hsome
    cases hsome
    cases hresumes with
    | here => exact absurd hlength (by decide)
    | behind hsome hresumes =>
      have hdrop : "1,pan=".toList.drop (consumeGatewayFieldValue "1,pan=".toList) =
          ",pan=".toList := by
        decide +kernel
      rw [hdrop, htwo] at hsome
      cases hsome
      exact hlast hresumes.eq_nil

end SyrupRail.FieldPattern
