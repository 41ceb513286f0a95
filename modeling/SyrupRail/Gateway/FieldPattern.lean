import SyrupRail.Lib.Regex
import SyrupRail.Lib.RustText

/-!
# The pattern of sensitive fields

`SENSITIVE_GATEWAY_FIELD_PREFIX_RE`, a name with a keyword in it, quotes around it, and `:` or `=`
between blanks, as a pattern of leftmost-first matching. Under `(?i)` a letter stands for its upper
case too, `s` for the long s, and `k` for the Kelvin sign.

A name ends where its characters end, and what stands between it and the separator has none of them.
So a text opens a match in one way at most (`Opens.unique`), and the matcher takes that way and all
blanks behind the separator (`field_eq_of_opens`). What the search finds follows without the
matcher's order of trials (`captures_eq_some`).
-/

namespace SyrupRail.FieldPattern

open RustText Regex

/-! ## The pattern -/

/-- A letter of the pattern. -/
def letter (l : Char) : Pattern Char :=
  .one fun c => c == l || c == l.toUpper || (l == 's' && c.toNat == 0x17F) ||
    (l == 'k' && c.toNat == 0x212A)

/-- A word of the pattern. -/
def word (w : String) : Pattern Char := w.toList.foldr (fun l r => .seq (letter l) r) .eps

/-- `[_-]?` -/
def dash : Pattern Char := .opt (.one fun c => c == '_' || c == '-')

/-- Words with `[_-]?` between them. -/
def joined : List String → Pattern Char
  | [] => .eps
  | [w] => word w
  | w :: ws => .seq (word w) (.seq dash (joined ws))

/-- `[a-z0-9_-]` -/
def isNameCharacter (c : Char) : Bool :=
  (0x61 ≤ c.toNat && c.toNat ≤ 0x7A) || (0x41 ≤ c.toNat && c.toNat ≤ 0x5A) ||
    (0x30 ≤ c.toNat && c.toNat ≤ 0x39) || c.toNat == 0x5F || c.toNat == 0x2D || c.toNat == 0x17F ||
      c.toNat == 0x212A

/-- `["']` -/
def isQuote (c : Char) : Bool := c.toNat == 0x22 || c.toNat == 0x27

/-- `[:=]` -/
def isSeparator (c : Char) : Bool := c.toNat == 0x3A || c.toNat == 0x3D

/-- One of some words with `[_-]?` behind it, if there is one. -/
def optionalWord (ws : List String) : Pattern Char :=
  .opt (oneOf (ws.map fun w => .seq (word w) dash))

/-- One of some words. -/
def someWord (ws : List String) : Pattern Char := oneOf (ws.map word)

/-- The keywords of a name. -/
def keywords : List (Pattern Char) :=
  [joined ["payment", "token"],
    word "token",
    joined ["card", "number"],
    joined ["cc", "number"],
    joined ["cc", "exp"],
    word "pan",
    .seq (word "expiration") (.opt (word "date")),
    joined ["card", "code"],
    joined ["card", "verification"],
    joined ["verification", "value"],
    word "cvv",
    word "cvv2",
    word "cvc",
    word "cvn",
    word "magstripe",
    .seq (word "track") (.seq dash (.opt (someWord ["1", "2"]))),
    word "emv",
    word "dukpt",
    word "ksn",
    word "cavv",
    .seq (joined ["three", "ds"]) (.many isNameCharacter),
    joined ["security", "key"],
    word "signature",
    word "sig",
    word "hmac",
    word "mac",
    .seq (word "session") (.seq dash (someWord ["key", "id"])),
    word "passwd",
    word "password",
    word "pin",
    word "otp",
    word "mfa",
    joined ["access", "key"],
    joined ["api", "key"],
    word "secret",
    joined ["webhook", "secret"],
    word "authorization",
    word "bearer",
    .seq (joined ["customer", "vault"]) (.opt (.seq dash (word "id"))),
    joined ["vault", "id"],
    .seq (optionalWord ["nmi", "merchant"]) (joined ["order", "id"]),
    .seq (optionalWord ["nmi", "processor"]) (joined ["transaction", "id"]),
    joined ["txn", "id"],
    joined ["check", "account"],
    joined ["check", "aba"],
    joined ["check", "name"],
    word "avs",
    joined ["routing", "number"],
    joined ["account", "number"],
    word "iban",
    word "swift",
    word "ssn",
    joined ["tax", "id"],
    word "dob",
    joined ["date", "of", "birth"],
    .seq (someWord ["billing", "customer"]) (.seq dash (word "email")),
    .seq (someWord ["billing", "customer", "cardholder"]) (.seq dash (joined ["first", "name"])),
    .seq (someWord ["billing", "customer", "cardholder"]) (.seq dash (joined ["last", "name"])),
    joined ["billing", "name"],
    joined ["cardholder", "name"],
    joined ["customer", "name"],
    .seq (someWord ["billing", "customer"])
      (.seq dash (.seq (word "phone") (.opt (.seq dash (word "number"))))),
    word "telephone",
    .seq (someWord ["billing", "customer"])
      (.seq dash (.seq (word "zip") (.opt (.seq dash (word "code"))))),
    .seq (someWord ["billing", "customer"]) (.seq dash (joined ["postal", "code"])),
    .seq (someWord ["billing", "shipping", "customer"])
      (.seq dash (.seq (word "address")
        (.opt (.seq dash (.seq (word "line") (.seq dash (someWord ["1", "2"]))))))),
    .seq (someWord ["billing", "shipping", "customer"])
      (.seq dash (.seq (word "street") (.opt (.seq dash (word "address"))))),
    .seq (someWord ["billing", "shipping", "customer"]) (.seq dash (word "city")),
    .seq (someWord ["billing", "shipping", "customer"]) (.seq dash (word "state")),
    .seq (someWord ["billing", "shipping", "customer"]) (.seq dash (word "country"))]

/-- `["']?` -/
def quote : Pattern Char := .opt (.one isQuote)

/-- The group `name`. -/
def name : Pattern Char :=
  .seq (.many isNameCharacter) (.seq (oneOf keywords) (.many isNameCharacter))

/-- `["']?\s*[:=]` -/
def separator : Pattern Char := .seq quote (.seq (.many isWhitespace) (.one isSeparator))

/-- `SENSITIVE_GATEWAY_FIELD_PREFIX_RE`. -/
def sensitiveField : Pattern Char := .seq quote (.seq name (.seq separator (.many isWhitespace)))

/-- The preferred match at the start of a text: the group `name`, and what is left behind the
match. -/
def field (cs : List Char) : Option (List Char × List Char) :=
  ((runs quote cs).flatMap fun fromName => (runs name fromName).flatMap fun fromSeparator =>
    (runs (.seq separator (.many isWhitespace)) fromSeparator).map fun rest =>
      (fromName.take (fromName.length - fromSeparator.length), rest)).head?

/-- `captures`: what is skipped, and the preferred match at the leftmost start. -/
def captures (cs : List Char) : Option (List Char × List Char × List Char) := search field cs

/-! ## Characters -/

/-- A character of a name is no quote, no blank, and no separator. -/
theorem isNameCharacter_spec {c : Char} (h : isNameCharacter c = true) :
    isQuote c = false ∧ isWhitespace c = false ∧ isSeparator c = false := by
  unfold isNameCharacter at h
  unfold isQuote isWhitespace isSeparator
  simp only [Bool.or_eq_true, Bool.and_eq_true, decide_eq_true_eq, beq_iff_eq] at h
  simp only [Bool.or_eq_false_iff, Bool.and_eq_false_iff, decide_eq_false_iff_not,
    beq_eq_false_iff_ne]
  omega

/-- A quote is no blank and no separator. -/
theorem isQuote_spec {c : Char} (h : isQuote c = true) :
    isWhitespace c = false ∧ isSeparator c = false := by
  unfold isQuote at h
  unfold isWhitespace isSeparator
  simp only [Bool.or_eq_true, beq_iff_eq] at h
  simp only [Bool.or_eq_false_iff, Bool.and_eq_false_iff, decide_eq_false_iff_not,
    beq_eq_false_iff_ne]
  omega

/-- A separator is no character of a name, no quote, and no blank. -/
theorem isSeparator_spec {c : Char} (h : isSeparator c = true) :
    isNameCharacter c = false ∧ isQuote c = false ∧ isWhitespace c = false := by
  unfold isSeparator at h
  unfold isNameCharacter isQuote isWhitespace
  simp only [Bool.or_eq_true, beq_iff_eq] at h
  simp only [Bool.or_eq_false_iff, Bool.and_eq_false_iff, decide_eq_false_iff_not,
    beq_eq_false_iff_ne]
  omega

/-! ## Names -/

/-- A pattern of characters of a name, that matches no empty text. -/
def Wordy (r : Pattern Char) : Prop := r.Within (isNameCharacter · = true) ∧ 0 < r.minLength

/-- A letter whose both cases may stand in a name. -/
def isLetter (l : Char) : Bool := isNameCharacter l && isNameCharacter l.toUpper

/-- A letter of the pattern is a character of a name. -/
theorem letter_within {l : Char} (h : isLetter l = true) :
    (letter l).Within (isNameCharacter · = true) := by
  obtain ⟨hlower, hupper⟩ := Bool.and_eq_true_iff.mp h
  intro c hc
  simp only [Bool.or_eq_true, Bool.and_eq_true, beq_iff_eq] at hc
  rcases hc with ((rfl | rfl) | ⟨-, hlong⟩) | ⟨-, hkelvin⟩
  · exact hlower
  · exact hupper
  · simp only [isNameCharacter, hlong]
    decide
  · simp only [isNameCharacter, hkelvin]
    decide

/-- So is each letter of a word. -/
theorem word_within {w : String} (h : w.toList.all isLetter = true) :
    (word w).Within (isNameCharacter · = true) := by
  unfold word
  generalize w.toList = ls at h ⊢
  induction ls with
  | nil => exact trivial
  | cons l ls ih =>
    rw [List.all_cons, Bool.and_eq_true] at h
    exact ⟨letter_within h.1, ih h.2⟩

/-- A word with a letter is no empty pattern. -/
theorem word_minLength_pos {w : String} (h : w.toList ≠ []) : 0 < (word w).minLength := by
  unfold word
  cases hw : w.toList with
  | nil => exact absurd hw h
  | cons l ls =>
    show 0 < 1 + _
    omega

/-- A dash is a character of a name. -/
theorem dash_within : dash.Within (isNameCharacter · = true) := by
  intro c hc
  simp only [Bool.or_eq_true, beq_iff_eq] at hc
  rcases hc with rfl | rfl <;> decide

/-- Every keyword consists of characters of a name, and is not empty. -/
theorem keywords_wordy : ∀ r ∈ keywords, Wordy r := by
  unfold keywords Wordy
  simp (disch := decide) only [List.forall_mem_cons, List.not_mem_nil, false_imp_iff, implies_true,
    and_true, joined, someWord, optionalWord, List.map_cons, List.map_nil, oneOf, Pattern.Within,
      Pattern.minLength, word_within,
    dash_within, word_minLength_pos, Nat.add_pos_iff_pos_or_pos, true_or, or_true, Nat.lt_min,
      Bool.false_eq_true,
    imp_self]

/-- A name is not empty, and has only characters of a name. -/
theorem matches_name {m : List Char} (h : Matches name m) :
    m ≠ [] ∧ ∀ c ∈ m, isNameCharacter c = true := by
  cases h with
  | @seq _ _ before m' hbefore hrest =>
    cases hrest with
    | @seq _ _ keyword after hkeyword hafter =>
      obtain ⟨r, hr, hmatch⟩ := matches_oneOf.mp hkeyword
      obtain ⟨hwithin, hlength⟩ := keywords_wordy r hr
      have hpos : 0 < keyword.length := Nat.lt_of_lt_of_le hlength hmatch.minLength_le
      constructor
      · intro hnil
        obtain ⟨rfl, -⟩ := List.append_eq_nil_iff.mp (List.append_eq_nil_iff.mp hnil).2
        exact absurd hpos (Nat.lt_irrefl 0)
      · refine List.forall_mem_append.mpr
          ⟨?_, List.forall_mem_append.mpr ⟨hmatch.of_within hwithin, ?_⟩⟩
        · cases hbefore with
          | many h => exact h
        · cases hafter with
          | many h => exact h

/-! ## Parts of a text -/

/-- Where a character of a text lies with respect to a part of the text. -/
theorem part_cases {α : Type*} {left right before part tail : List α} {d : α}
    (h : left ++ d :: right = before ++ (part ++ tail)) :
    (∃ gap, left = before ++ (part ++ gap) ∧ tail = gap ++ d :: right) ∨
      (∃ gap, before = left ++ d :: gap ∧ right = gap ++ (part ++ tail)) ∨
      ∃ init last, part = init ++ d :: last ∧ left = before ++ init ∧ right = last ++ tail := by
  obtain ⟨gap, hbefore, hrest⟩ | ⟨gap, rfl, hrest⟩ := List.append_eq_append_iff.mp h
  · cases gap with
    | nil =>
      cases part with
      | nil =>
        refine .inl ⟨[], ?_, ?_⟩
        · rw [hbefore, List.append_nil, List.append_nil, List.append_nil]
        · rw [List.nil_append]
          exact hrest.symm
      | cons a part =>
        obtain ⟨rfl, rfl⟩ := List.cons.inj hrest
        exact .inr (.inr ⟨[], part, rfl, by rw [hbefore, List.append_nil, List.append_nil], rfl⟩)
    | cons a gap =>
      obtain ⟨rfl, rfl⟩ := List.cons.inj hrest
      exact .inr (.inl ⟨gap, hbefore, rfl⟩)
  · obtain ⟨gap', rfl, htail⟩ | ⟨gap', rfl, hrest'⟩ := List.append_eq_append_iff.mp hrest
    · exact .inl ⟨gap', rfl, htail⟩
    · cases gap' with
      | nil => exact .inl ⟨[], by rw [List.append_nil, List.append_nil], hrest'.symm⟩
      | cons a gap' =>
        obtain ⟨rfl, rfl⟩ := List.cons.inj hrest'
        exact .inr (.inr ⟨gap, gap', rfl, rfl, rfl⟩)

/-! ## The start of a match -/

/-- A quote or nothing. -/
theorem matches_quote {m : List Char} : Matches quote m ↔
    m = [] ∨ ∃ c, m = [c] ∧ isQuote c = true := by
  constructor
  · intro h
    cases h with
    | skip => exact .inl rfl
    | take h =>
      cases h with
      | one h => exact .inr ⟨_, rfl, h⟩
  · rintro (rfl | ⟨c, rfl, h⟩)
    · exact .skip
    · exact .take (.one h)

/-- What stands between a name and the value. -/
theorem matches_separator {m : List Char} : Matches separator m ↔
    ∃ q blanks c, m = q ++ (blanks ++ [c]) ∧ Matches quote q ∧
      (∀ d ∈ blanks, isWhitespace d = true) ∧ isSeparator c = true := by
  constructor
  · intro h
    cases h with
    | seq hquote hrest =>
      cases hrest with
      | seq hblanks hlast =>
        cases hblanks with
        | many hblanks =>
          cases hlast with
          | one hlast => exact ⟨_, _, _, rfl, hquote, hblanks, hlast⟩
  · rintro ⟨q, blanks, c, rfl, hquote, hblanks, hc⟩
    exact .seq hquote (.seq (.many hblanks) (.one hc))

/-- A text is a quote or none, a name, and what stands between a name and the value up to the
separator. -/
def Opens (head label : List Char) : Prop :=
  ∃ o p, head = o ++ (label ++ p) ∧ Matches quote o ∧ Matches name label ∧ Matches separator p

/-- A match is such a text and blanks. -/
theorem matches_sensitiveField {m : List Char} : Matches sensitiveField m ↔ ∃ head label blanks,
    m = head ++ blanks ∧ Opens head label ∧ ∀ c ∈ blanks, isWhitespace c = true := by
  constructor
  · intro h
    cases h with
    | @seq _ _ o _ ho hrest =>
      cases hrest with
      | @seq _ _ label _ hlabel hrest =>
        cases hrest with
        | @seq _ _ p blanks hp hblanks =>
          refine ⟨o ++ (label ++ p), label, blanks, ?_, ⟨o, p, rfl, ho, hlabel, hp⟩, ?_⟩
          · rw [List.append_assoc, List.append_assoc]
          · cases hblanks with
            | many h => exact h
  · rintro ⟨_, label, blanks, rfl, ⟨o, p, rfl, ho, hlabel, hp⟩, hblanks⟩
    rw [List.append_assoc, List.append_assoc]
    exact .seq ho (.seq hlabel (.seq hp (.many hblanks)))

/-- The separator ends the start of a match, and is the first one in it. -/
theorem Opens.last {head label : List Char} (h : Opens head label) :
    ∃ init c, head = init ++ [c] ∧ isSeparator c = true ∧ ∀ d ∈ init, isSeparator d = false := by
  obtain ⟨o, p, rfl, ho, hlabel, hp⟩ := h
  obtain ⟨q, blanks, c, rfl, hq, hblanks, hc⟩ := matches_separator.mp hp
  have hquote : ∀ m, Matches quote m → ∀ d ∈ m, isSeparator d = false := by
    intro m hm d hd
    obtain rfl | ⟨e, rfl, he⟩ := matches_quote.mp hm
    · exact absurd hd List.not_mem_nil
    · rw [List.mem_singleton.mp hd]
      exact (isQuote_spec he).2
  refine ⟨o ++ (label ++ (q ++ blanks)), c, by simp only [List.append_assoc], hc, ?_⟩
  simp only [List.forall_mem_append]
  refine ⟨hquote o ho, fun d hd => (isNameCharacter_spec ((matches_name hlabel).2 d hd)).2.2,
    hquote q hq, fun d hd => ?_⟩
  cases hd' : isSeparator d with
  | false => rfl
  | true =>
    have hblank := (isSeparator_spec hd').2.2
    rw [hblanks d hd] at hblank
    cases hblank

/-- Nothing stands behind a separator in the start of a match. -/
theorem Opens.separator_last {first last label : List Char} {c : Char}
    (h : Opens (first ++ c :: last) label) (hc : isSeparator c = true) : last = [] := by
  obtain ⟨init, d, heq, -, hinit⟩ := h.last
  obtain rfl | ⟨last', e, rfl⟩ := List.eq_nil_or_concat last
  · rfl
  · rw [List.concat_eq_append, ← List.cons_append, ← List.append_assoc] at heq
    have hmem : c ∈ init := by
      rw [← (List.append_inj' heq rfl).1]
      exact List.mem_append_right first List.mem_cons_self
    rw [hinit c hmem] at hc
    cases hc

/-- The start of a match does not begin with a blank. -/
theorem Opens.head_not_blank {head label : List Char} (h : Opens head label) :
    ∃ c cs, head = c :: cs ∧ isWhitespace c = false := by
  obtain ⟨o, p, rfl, ho, hlabel, -⟩ := h
  obtain ⟨hne, hname⟩ := matches_name hlabel
  obtain rfl | ⟨c, rfl, hc⟩ := matches_quote.mp ho
  · obtain ⟨c, cs, rfl⟩ := List.exists_cons_of_ne_nil hne
    exact ⟨c, cs ++ p, rfl, (isNameCharacter_spec (hname c List.mem_cons_self)).2.1⟩
  · exact ⟨c, label ++ p, rfl, (isQuote_spec hc).1⟩

/-- What follows a name is no character of a name. -/
theorem separator_head {m : List Char} (h : Matches separator m) :
    ∃ c cs, m = c :: cs ∧ isNameCharacter c = false := by
  obtain ⟨q, blanks, c, rfl, hq, hblanks, hc⟩ := matches_separator.mp h
  obtain rfl | ⟨d, rfl, hd⟩ := matches_quote.mp hq
  · cases blanks with
    | nil => exact ⟨c, [], rfl, (isSeparator_spec hc).1⟩
    | cons d blanks =>
      refine ⟨d, blanks ++ [c], rfl, Bool.eq_false_iff.mpr fun hname => ?_⟩
      have hblank := (isNameCharacter_spec hname).2.1
      rw [hblanks d List.mem_cons_self] at hblank
      cases hblank
  · refine ⟨d, blanks ++ [c], rfl, Bool.eq_false_iff.mpr fun hname => ?_⟩
    have hquote := (isNameCharacter_spec hname).1
    rw [hd] at hquote
    cases hquote

/-- Taking stops where a condition first fails. -/
theorem takeWhile_append_cons {α : Type*} {p : α → Bool} {l : List α} {a : α}
    (h : ∀ b ∈ l, p b = true) (ha : p a = false) (rest : List α) :
    (l ++ a :: rest).takeWhile p = l := by
  rw [List.takeWhile_append_of_pos h,
    List.takeWhile_cons_of_neg (by rw [ha]; exact Bool.false_ne_true), List.append_nil]

/-- The start of a match determines the name. -/
theorem Opens.label_unique {head label label' : List Char} (h : Opens head label)
    (h' : Opens head label') : label = label' := by
  obtain ⟨o, p, rfl, ho, hlabel, hp⟩ := h
  obtain ⟨o', p', heq, ho', hlabel', hp'⟩ := h'
  -- A name does not begin with a quote, so that both readings skip the same one.
  have hfirst : ∀ {label p label' p' : List Char} {d : Char}, Matches name label →
    isQuote d = true →
      label ++ p ≠ [d] ++ (label' ++ p') := by
    intro label p label' p' d hlabel hd heq
    obtain ⟨hne, hname⟩ := matches_name hlabel
    cases label with
    | nil => exact hne rfl
    | cons c label =>
      obtain ⟨rfl, -⟩ := List.cons.inj heq
      have hquote := (isNameCharacter_spec (hname c List.mem_cons_self)).1
      rw [hd] at hquote
      cases hquote
  have hrest : label ++ p = label' ++ p' := by
    obtain rfl | ⟨d, rfl, hd⟩ := matches_quote.mp ho
    · obtain rfl | ⟨d', rfl, hd'⟩ := matches_quote.mp ho'
      · exact heq
      · exact (hfirst hlabel hd' heq).elim
    · obtain rfl | ⟨d', rfl, hd'⟩ := matches_quote.mp ho'
      · exact (hfirst hlabel' hd heq.symm).elim
      · exact (List.cons.inj heq).2
  obtain ⟨c, cs, rfl, hc⟩ := separator_head hp
  obtain ⟨c', cs', rfl, hc'⟩ := separator_head hp'
  rw [← takeWhile_append_cons (matches_name hlabel).2 hc cs, hrest,
    takeWhile_append_cons (matches_name hlabel').2 hc' cs']

/-- A text has one start of a match as its start at most. -/
theorem Opens.unique {head label tail head' label' tail' : List Char} (h : Opens head label)
    (h' : Opens head' label') (heq : head ++ tail = head' ++ tail') :
    head = head' ∧ label = label' ∧ tail = tail' := by
  obtain ⟨init, c, rfl, hc, hinit⟩ := h.last
  obtain ⟨init', c', rfl, hc', hinit'⟩ := h'.last
  have hsplit : init = init' := by
    rw [List.append_assoc, List.append_assoc] at heq
    have htake := congrArg (List.takeWhile fun d => !isSeparator d) heq
    rwa [List.singleton_append, List.singleton_append,
      takeWhile_append_cons (fun d hd => by rw [hinit d hd]; rfl) (by rw [hc]; rfl),
      takeWhile_append_cons (fun d hd => by rw [hinit' d hd]; rfl) (by rw [hc']; rfl)] at htake
  subst hsplit
  rw [List.append_assoc, List.append_assoc] at heq
  obtain ⟨rfl, rfl⟩ := List.cons.inj (List.append_cancel_left heq)
  exact ⟨rfl, h.label_unique h', rfl⟩

/-! ## The matcher -/

/-- The names and the rests behind the separator that the matcher finds, before it takes the last
blanks. -/
def starts (cs : List Char) : List (List Char × List Char) :=
  (runs quote cs).flatMap fun fromName => (runs name fromName).flatMap fun fromSeparator =>
    (runs separator fromSeparator).map fun tail =>
      (fromName.take (fromName.length - fromSeparator.length), tail)

/-- They are the ways to read the start of the text as the start of a match. -/
theorem mem_starts {cs label tail : List Char} :
    (label, tail) ∈ starts cs ↔ ∃ head, cs = head ++ tail ∧ Opens head label := by
  unfold starts
  simp only [List.mem_flatMap, List.mem_map, Prod.mk.injEq]
  have htake : ∀ label fromSeparator : List Char,
      (label ++ fromSeparator).take ((label ++ fromSeparator).length - fromSeparator.length) =
          label := by
    intro label fromSeparator
    rw [List.length_append, Nat.add_sub_cancel, List.take_left]
  constructor
  · rintro ⟨fromName, hfromName, fromSeparator, hfromSeparator, _, htail, hlabel, rfl⟩
    obtain ⟨o, rfl, ho⟩ := mem_runs.mp hfromName
    obtain ⟨label', rfl, hname⟩ := mem_runs.mp hfromSeparator
    obtain ⟨p, rfl, hp⟩ := mem_runs.mp htail
    rw [htake] at hlabel
    subst hlabel
    exact ⟨o ++ (label' ++ p), by simp only [List.append_assoc], o, p, rfl, ho, hname, hp⟩
  · rintro ⟨_, rfl, o, p, rfl, ho, hname, hp⟩
    refine ⟨label ++ (p ++ tail), mem_runs.mpr ⟨o, by simp only [List.append_assoc], ho⟩,
      p ++ tail, mem_runs.mpr ⟨label, rfl, hname⟩, tail, mem_runs.mpr ⟨p, rfl, hp⟩,
        htake label (p ++ tail), rfl⟩

/-- The matcher takes the last blanks behind such a start. -/
theorem field_eq (cs : List Char) : field cs =
    ((starts cs).flatMap fun start => (runsMany isWhitespace start.2).map fun rest =>
      (start.1, rest)).head? := by
  unfold field starts
  simp only [runs, List.map_flatMap, List.flatMap_assoc, List.flatMap_map]

/-- It finds a match where the text opens one, and takes all blanks behind the separator. -/
theorem field_eq_of_opens {head label tail : List Char} (h : Opens head label) :
    field (head ++ tail) = some (label, tail.dropWhile isWhitespace) := by
  have hmem : (label, tail) ∈ starts (head ++ tail) := mem_starts.mpr ⟨head, rfl, h⟩
  rw [field_eq, head?_flatMap_of_eq (List.ne_nil_of_mem hmem) (a := (label, tail)), List.head?_map,
    head?_runsMany]
  · rfl
  · intro start hstart
    obtain ⟨head', heq, h'⟩ := mem_starts.mp hstart
    obtain ⟨-, hlabel, htail⟩ := h'.unique h heq.symm
    exact Prod.ext hlabel htail

/-- It finds none elsewhere. -/
theorem field_eq_none {cs : List Char} : field cs = none ↔ ∀ head label tail, cs = head ++ tail →
    ¬ Opens head label := by
  constructor
  · rintro h head label tail rfl hopens
    rw [field_eq_of_opens hopens] at h
    cases h
  · intro h
    cases hstarts : starts cs with
    | nil =>
      rw [field_eq, hstarts]
      rfl
    | cons start _ =>
      have hmem : (start.1, start.2) ∈ starts cs := by
        rw [hstarts]
        exact List.mem_cons_self
      obtain ⟨head, heq, hopens⟩ := mem_starts.mp hmem
      exact absurd hopens (h head start.1 start.2 heq)

/-- A text contains no match from some place on. -/
def NoneBefore (count : ℕ) (cs : List Char) : Prop :=
  ∀ before head label tail, before.length < count → cs = before ++ (head ++ tail) →
    ¬ Opens head label

/-- The search finds the leftmost start of a match. -/
theorem captures_eq_some {cs skipped label rest : List Char} :
    captures cs = some (skipped, label, rest) ↔ ∃ head tail, cs = skipped ++ (head ++ tail) ∧
      Opens head label ∧ rest = tail.dropWhile isWhitespace ∧ NoneBefore skipped.length cs := by
  unfold captures
  rw [search_eq_some]
  constructor
  · rintro ⟨found, rfl, hfield, hleft⟩
    cases hstart : starts found with
    | nil =>
      rw [field_eq, hstart] at hfield
      cases hfield
    | cons start _ =>
      have hmem : (start.1, start.2) ∈ starts found := by
        rw [hstart]
        exact List.mem_cons_self
      obtain ⟨head, rfl, hopens⟩ := mem_starts.mp hmem
      rw [field_eq_of_opens hopens] at hfield
      obtain ⟨rfl, hrest⟩ := Prod.mk.inj (Option.some.inj hfield)
      refine ⟨head, start.2, rfl, hopens, hrest.symm,
        fun before head' label' tail' hlt heq hopens' => ?_⟩
      exact field_eq_none.mp (hleft before (head' ++ tail') hlt heq) head' label' tail' rfl hopens'
  · rintro ⟨head, tail, rfl, hopens, rfl, hleft⟩
    refine ⟨head ++ tail, rfl, field_eq_of_opens hopens, fun before after hlt heq => ?_⟩
    refine field_eq_none.mpr fun head' label' tail' heq' => ?_
    subst heq'
    exact hleft before head' label' tail' hlt heq

/-- The search finds nothing where the text contains no start of a match. -/
theorem captures_eq_none {cs : List Char} : captures cs = none ↔
    ∀ before head label tail, cs = before ++ (head ++ tail) → ¬ Opens head label := by
  unfold captures
  rw [search_eq_none]
  constructor
  · intro h before head label tail heq
    exact field_eq_none.mp (h before (head ++ tail) heq) head label tail rfl
  · intro h before after heq
    refine field_eq_none.mpr fun head label tail heq' => ?_
    subst heq'
    exact h before head label tail heq

/-- What is left behind a match is shorter than the text. -/
theorem captures_parts {cs skipped label rest : List Char}
    (h : captures cs = some (skipped, label, rest)) : ∃ matched, cs = skipped ++ (matched ++ rest) ∧
      rest.length < cs.length := by
  obtain ⟨head, tail, rfl, hopens, rfl, -⟩ := captures_eq_some.mp h
  obtain ⟨c, cs, rfl, -⟩ := hopens.head_not_blank
  refine ⟨c :: cs ++ tail.takeWhile isWhitespace, ?_, ?_⟩
  · rw [List.append_assoc (c :: cs), List.takeWhile_append_dropWhile]
  · have hle := (List.dropWhile_sublist isWhitespace (l := tail)).length_le
    rw [List.length_append, List.length_append, List.length_cons]
    omega

/-! ## Messages with a common part -/

/-- What the search passes over does not depend on what stands behind the start of the match. -/
theorem NoneBefore.of_head {skipped head label tail : List Char} (hopens : Opens head label)
    (h : NoneBefore skipped.length (skipped ++ (head ++ tail))) (tail' : List Char) :
    NoneBefore skipped.length (skipped ++ (head ++ tail')) := by
  intro before head' label' rest hlt heq hopens'
  obtain ⟨init, c, rfl, hc, hinit⟩ := hopens.last
  have hsplit : (skipped ++ init) ++ c :: tail' = before ++ (head' ++ rest) := by
    simpa only [List.append_assoc, List.singleton_append] using heq
  obtain ⟨gap, hgap, -⟩ | ⟨gap, hbefore, -⟩ | ⟨first, last, rfl, hbefore, -⟩ := part_cases hsplit
  · refine h before head' label' (gap ++ c :: tail) hlt ?_ hopens'
    have hall := congrArg (· ++ c :: tail) hgap
    simpa only [List.append_assoc, List.singleton_append] using hall
  · rw [hbefore, List.length_append, List.length_append] at hlt
    omega
  · obtain rfl := hopens'.separator_last hc
    refine h before (first ++ [c]) label' tail hlt ?_ hopens'
    have hall := congrArg (· ++ c :: tail) hbefore
    simpa only [List.append_assoc, List.singleton_append] using hall

/-- Blanks are dropped where none follows. -/
theorem dropWhile_blanks {blanks rest : List Char} (h : ∀ c ∈ blanks, isWhitespace c = true)
    (hrest : ∀ c ∈ rest.head?, isWhitespace c = false) :
    (blanks ++ rest).dropWhile isWhitespace = rest := by
  rw [List.dropWhile_append_of_pos h]
  cases rest with
  | nil => rfl
  | cons c rest => rw [List.dropWhile_cons_of_neg (by rw [hrest c rfl]; exact Bool.false_ne_true)]

/-- In a message with a match in it, the search finds a match that ends as this one does, or one
that ends before this one starts. It does not depend on what stands behind the match. -/
theorem captures_split (before : List Char) {m : List Char} (hm : Matches sensitiveField m) :
    (∃ skipped label, ∀ rest : List Char, (∀ c ∈ rest.head?, isWhitespace c = false) →
        captures (before ++ (m ++ rest)) = some (skipped, label, rest)) ∨
      ∃ skipped label gap, gap.length < before.length ∧ (∃ start, before = start ++ gap) ∧
        ∀ rest, captures (before ++ (m ++ rest)) = some (skipped, label, gap ++ (m ++ rest)) := by
  obtain ⟨own, ownLabel, blanks, rfl, hown, hblanks⟩ := matches_sensitiveField.mp hm
  obtain ⟨ownInit, c, hownInit, hc, hinit⟩ := hown.last
  cases hcaptures : captures (before ++ (own ++ blanks)) with
  | none => exact absurd hown (captures_eq_none.mp hcaptures before own ownLabel blanks rfl)
  | some found =>
    obtain ⟨skipped, label, rest⟩ := found
    obtain ⟨head, tail, heq, hopens, -, hleft⟩ := captures_eq_some.mp hcaptures
    rw [heq] at hleft
    have hsplit : (before ++ ownInit) ++ c :: blanks = skipped ++ (head ++ tail) := by
      rw [← heq, hownInit]
      simp only [List.append_assoc, List.singleton_append]
    obtain ⟨gap, hgap, htail⟩ | ⟨gap, hskipped, -⟩ | ⟨first, last, rfl, hskipped, htail⟩ :=
      part_cases hsplit
    · -- The match that is found ends before the separator of the given one, and so before its first
      -- character.
      right
      obtain ⟨init, d, rfl, hd, -⟩ := hopens.last
      have hsplit' : (skipped ++ init) ++ d :: gap = before ++ (ownInit ++ []) := by
        rw [List.append_nil, hgap]
        simp only [List.append_assoc, List.singleton_append]
      obtain ⟨_, -, hnil⟩ | ⟨gap', hbefore, -⟩ | ⟨first, last, rfl, -, -⟩ := part_cases hsplit'
      · exact absurd hnil.symm (List.append_ne_nil_of_right_ne_nil _ (List.cons_ne_nil _ _))
      · refine ⟨skipped, label, gap'.dropWhile isWhitespace, ?_, ⟨?_, ?_⟩,
          fun rest => captures_eq_some.mpr ?_⟩
        · have hle := (List.dropWhile_sublist isWhitespace (l := gap')).length_le
          rw [hbefore, List.length_append, List.length_cons]
          omega
        · exact skipped ++ init ++ d :: gap'.takeWhile isWhitespace
        · rw [hbefore, List.append_assoc (skipped ++ init), List.cons_append,
            List.takeWhile_append_dropWhile]
        · have hmessage : before ++ (own ++ blanks ++ rest) =
              skipped ++ (init ++ [d] ++ (gap' ++ (own ++ blanks ++ rest))) := by
            rw [hbefore]
            simp only [List.append_assoc, List.cons_append, List.nil_append]
          have hdrop : (own ++ blanks ++ rest).dropWhile isWhitespace = own ++ blanks ++ rest := by
            obtain ⟨e, es, rfl, he⟩ := hown.head_not_blank
            exact List.dropWhile_cons_of_neg (by rw [he]; exact Bool.false_ne_true)
          rw [hmessage]
          refine ⟨init ++ [d], gap' ++ (own ++ blanks ++ rest), rfl, hopens, ?_,
            hleft.of_head hopens _⟩
          rw [List.dropWhile_append, hdrop]
          split_ifs with hempty
          · rw [List.isEmpty_iff.mp hempty, List.nil_append]
          · rfl
      · have hfalse := hinit d (List.mem_append_right first List.mem_cons_self)
        rw [hd] at hfalse
        cases hfalse
    · refine absurd hown (hleft before own ownLabel blanks ?_ heq.symm)
      rw [hskipped, List.length_append, List.length_append, List.length_cons]
      omega
    · -- The match that is found has the separator of the given one.
      left
      obtain rfl := hopens.separator_last hc
      refine ⟨skipped, label, fun rest hrest => captures_eq_some.mpr ?_⟩
      have hmessage : before ++ (own ++ blanks ++ rest) =
          skipped ++ (first ++ [c] ++ (blanks ++ rest)) := by
        rw [hownInit]
        have hall := congrArg (· ++ c :: (blanks ++ rest)) hskipped
        simpa only [List.append_assoc, List.cons_append, List.nil_append] using hall
      rw [hmessage]
      exact ⟨first ++ [c], blanks ++ rest, rfl, hopens, (dropWhile_blanks hblanks hrest).symm,
        hleft.of_head hopens _⟩

end SyrupRail.FieldPattern
