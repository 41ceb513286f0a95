import SyrupRail.Discount.Charge
import SyrupRail.Lib.Run

/-!
# Discount codes and their labels

A discount code is created and updated with a label of the operator's choosing, which
`normalize_label` trims and then cuts at 120 characters. `code_from_row` reads the row back through
`SubscriptionDiscountCodeRecord::new`, which wants a label without blanks at its ends. A cut can
leave a blank at the end, so the label is read back exactly if the 120th character of the trimmed
text is none (`label_read_back_iff`).

Everything else of a row that is written is read back (`fieldsFromRow_insertedRow`,
`fieldsFromRow_updatedRow`), so that only the check of the label is left.
-/

namespace SyrupRail

open RustText Transactions

/-! ## Values -/

/-- `PlanKey`. -/
abbrev PlanKey := {key : String // isSlug key = true}

/-- `SubscriptionDiscountCode`. -/
abbrev SubscriptionDiscountCode := {code : String // isDiscountCode code = true}

/-- A duration with its `LimitedDiscountMonths`. -/
abbrev CheckedDiscountDuration :=
  {duration : SubscriptionDiscountDuration // duration.isDuration = true}

/-- `PlanKey::new`. -/
def planKeyNew (value : String) : Option PlanKey :=
  if h : isSlug value = true then some ⟨value, h⟩ else none

/-- `CurrencyCode::new`. -/
def currencyCodeNew (value : String) : Option CurrencyCode :=
  if h : isCurrencyCode value = true then some ⟨value, h⟩ else none

/-- `str::to_ascii_uppercase`; `Char.toUpper` maps the ASCII letters only. -/
def toAsciiUppercase (s : String) : String := String.ofList (s.toList.map Char.toUpper)

/-- `SubscriptionDiscountCode::new`. -/
def subscriptionDiscountCodeNew (value : String) : Option SubscriptionDiscountCode :=
  let normalized := toAsciiUppercase (trim value)
  if h : isDiscountCode normalized = true then some ⟨normalized, h⟩ else none

/-- The kind of a column's number, which is an `i32`: `PositiveDiscountCents::new` and
`PercentOffBasisPoints::new`. -/
def checkedKind (kind : ℕ → SubscriptionDiscountKind) (value : ℤ) : Option CheckedDiscountKind :=
  if h : (kind value.toNat).isKind = true then some ⟨kind value.toNat, h⟩ else none

/-- `LimitedDiscountMonths::new` of a column's number. -/
def limitedDiscountMonthsNew (value : ℤ) : Option CheckedDiscountDuration :=
  if h : (SubscriptionDiscountDuration.limitedMonths value.toNat).isDuration = true then
    some ⟨.limitedMonths value.toNat, h⟩
  else none

/-- `SubscriptionDiscountCodeStatus`. -/
inductive SubscriptionDiscountCodeStatus
  | active
  | disabled
  deriving DecidableEq, Repr

/-- `as_str` of a status. -/
def SubscriptionDiscountCodeStatus.asStr : SubscriptionDiscountCodeStatus → String
  | .active => "active"
  | .disabled => "disabled"

/-! ## Records -/

/-- The arguments of `SubscriptionDiscountCodeRecord::new`. -/
structure SubscriptionDiscountCodeFields where
  id : Id
  billingScopeId : Id
  planKey : PlanKey
  code : SubscriptionDiscountCode
  displayCode : String
  label : Option String
  status : SubscriptionDiscountCodeStatus
  kind : CheckedDiscountKind
  currency : CurrencyCode
  duration : CheckedDiscountDuration
  createdAt : Timestamp
  updatedAt : Timestamp
  deriving DecidableEq

/-- Whether a record takes a label. -/
def labelIsValid (label : String) : Bool :=
  trim label = label && label ≠ "" && label.toList.length ≤ 120

/-- What `SubscriptionDiscountCodeRecord::new` checks. -/
def SubscriptionDiscountCodeFields.check (fields : SubscriptionDiscountCodeFields) : Bool :=
  trim fields.displayCode ≠ "" && fields.createdAt ≤ fields.updatedAt &&
    fields.label.all labelIsValid

/-- `SubscriptionDiscountCodeRecord`. -/
structure SubscriptionDiscountCodeRecord extends SubscriptionDiscountCodeFields where
  valid : toSubscriptionDiscountCodeFields.check = true
  deriving DecidableEq

/-- `SubscriptionDiscountCodeRecord::new`. -/
def SubscriptionDiscountCodeRecord.new (fields : SubscriptionDiscountCodeFields) :
    Except SubscriptionDiscountError SubscriptionDiscountCodeRecord :=
  if h : fields.check = true then .ok ⟨fields, h⟩ else .error .invalidState

/-- `normalize_label`. -/
def normalizeLabel : Option String → Option String
  | none => none
  | some value =>
    let trimmed := trim value
    if trimmed = "" then none else some (String.ofList (trimmed.toList.take 120))

/-- `SubscriptionDiscountCodeCreation`. -/
structure SubscriptionDiscountCodeCreation where
  id : Id
  billingScopeId : Id
  planKey : PlanKey
  code : SubscriptionDiscountCode
  label : Option String
  kind : CheckedDiscountKind
  currency : CurrencyCode
  duration : CheckedDiscountDuration
  deriving DecidableEq

/-- `SubscriptionDiscountCodeCreation::new`. -/
def SubscriptionDiscountCodeCreation.new (id billingScopeId : Id) (planKey : PlanKey)
    (code : SubscriptionDiscountCode) (label : Option String) (kind : CheckedDiscountKind)
    (currency : CurrencyCode) (duration : CheckedDiscountDuration) :
    SubscriptionDiscountCodeCreation :=
  { id, billingScopeId, planKey, code, label := normalizeLabel label, kind, currency, duration }

/-- `SubscriptionDiscountCodeUpdate`. -/
structure SubscriptionDiscountCodeUpdate where
  id : Id
  billingScopeId : Id
  planKey : PlanKey
  label : Option String
  status : SubscriptionDiscountCodeStatus
  kind : CheckedDiscountKind
  currency : CurrencyCode
  duration : CheckedDiscountDuration
  deriving DecidableEq

/-- `SubscriptionDiscountCodeUpdate::new`. -/
def SubscriptionDiscountCodeUpdate.new (id billingScopeId : Id) (planKey : PlanKey)
    (label : Option String) (status : SubscriptionDiscountCodeStatus) (kind : CheckedDiscountKind)
    (currency : CurrencyCode) (duration : CheckedDiscountDuration) :
    SubscriptionDiscountCodeUpdate :=
  { id, billingScopeId, planKey, label := normalizeLabel label, status, kind, currency, duration }

/-! ## Rows -/

/-- A row of `billing_subscription_discount_codes`. -/
structure DiscountCodeRow where
  id : Id
  billingScopeId : Id
  planKey : String
  codeNormalized : String
  displayCode : String
  label : Option String
  status : String
  discountKind : String
  amountOffCents : Option ℤ
  percentOffBps : Option ℤ
  currency : String
  duration : String
  durationMonths : Option ℤ
  createdAt : Timestamp
  updatedAt : Timestamp
  deriving DecidableEq, Repr

/-- `discount_value`: the columns `amount_off_cents` and `percent_off_bps`. -/
def discountValue : SubscriptionDiscountKind → Option ℤ × Option ℤ
  | .amountOffCents cents => (some cents, none)
  | .percentOffBasisPoints bps => (none, some bps)

/-- `duration_months`. -/
def durationMonths : SubscriptionDiscountDuration → Option ℤ
  | .indefinite => none
  | .limitedMonths months => some months

/-- The row that `create_subscription_discount_code_in_transaction` inserts. -/
def SubscriptionDiscountCodeCreation.insertedRow (creation : SubscriptionDiscountCodeCreation)
    (now : Timestamp) : DiscountCodeRow where
  id := creation.id
  billingScopeId := creation.billingScopeId
  planKey := creation.planKey.val
  codeNormalized := creation.code.val
  displayCode := creation.code.val
  label := creation.label
  status := "active"
  discountKind := creation.kind.val.asStr
  amountOffCents := (discountValue creation.kind.val).1
  percentOffBps := (discountValue creation.kind.val).2
  currency := creation.currency.val
  duration := creation.duration.val.asStr
  durationMonths := durationMonths creation.duration.val
  createdAt := now
  updatedAt := now

/-- The row that `update_subscription_discount_code_in_transaction` leaves of one. -/
def SubscriptionDiscountCodeUpdate.updatedRow (update : SubscriptionDiscountCodeUpdate)
    (now : Timestamp) (row : DiscountCodeRow) : DiscountCodeRow :=
  { row with
    label := update.label
    status := update.status.asStr
    discountKind := update.kind.val.asStr
    amountOffCents := (discountValue update.kind.val).1
    percentOffBps := (discountValue update.kind.val).2
    currency := update.currency.val
    duration := update.duration.val.asStr
    durationMonths := durationMonths update.duration.val
    updatedAt := now }

/-- `SubscriptionDiscountOperationError`, as far as a row is read and quoted. -/
inductive SubscriptionDiscountOperationError
  | limitedDiscountCadence
  | invalidState (message : String)
  deriving DecidableEq, Repr

/-- `INVALID_DISCOUNT_STATE`. -/
def invalidDiscountState : SubscriptionDiscountOperationError :=
  .invalidState "canonical subscription discount state is invalid"

/-- `ok_or` and `map_err` of a value that a column does not hold. -/
def orInvalidDiscountState {α : Type} : Option α → Except SubscriptionDiscountOperationError α
  | some a => .ok a
  | none => .error invalidDiscountState

/-- `discount_kind_from_row`. -/
def discountKindFromRow (row : DiscountCodeRow) :
    Except SubscriptionDiscountOperationError CheckedDiscountKind :=
  if row.discountKind = "amount_off" then
    orInvalidDiscountState (row.amountOffCents.bind (checkedKind .amountOffCents))
  else if row.discountKind = "percent_off" then
    orInvalidDiscountState (row.percentOffBps.bind (checkedKind .percentOffBasisPoints))
  else .error invalidDiscountState

/-- `discount_duration_from_row`. -/
def discountDurationFromRow (row : DiscountCodeRow) :
    Except SubscriptionDiscountOperationError CheckedDiscountDuration :=
  if row.duration = "indefinite" ∧ row.durationMonths = none then .ok ⟨.indefinite, rfl⟩
  else if row.duration = "limited_months" then
    orInvalidDiscountState (row.durationMonths.bind limitedDiscountMonthsNew)
  else .error invalidDiscountState

/-- `parse_code_status`. -/
def parseCodeStatus (value : String) :
    Except SubscriptionDiscountOperationError SubscriptionDiscountCodeStatus :=
  if value = "active" then .ok .active
  else if value = "disabled" then .ok .disabled
  else .error invalidDiscountState

/-- The arguments that `code_from_row` reads. -/
def fieldsFromRow (row : DiscountCodeRow) :
    Except SubscriptionDiscountOperationError SubscriptionDiscountCodeFields := do
  let kind ← discountKindFromRow row
  let duration ← discountDurationFromRow row
  let planKey ← orInvalidDiscountState (planKeyNew row.planKey)
  let code ← orInvalidDiscountState (subscriptionDiscountCodeNew row.codeNormalized)
  let status ← parseCodeStatus row.status
  let currency ← orInvalidDiscountState (currencyCodeNew row.currency)
  .ok
    { id := row.id, billingScopeId := row.billingScopeId, planKey, code,
      displayCode := row.displayCode,
      label := row.label, status, kind, currency, duration, createdAt := row.createdAt,
      updatedAt := row.updatedAt }

/-- `code_from_row`. -/
def codeFromRow (row : DiscountCodeRow) :
    Except SubscriptionDiscountOperationError SubscriptionDiscountCodeRecord := do
  let fields ← fieldsFromRow row
  (SubscriptionDiscountCodeRecord.new fields).mapError fun _ => invalidDiscountState

/-! ## What is written is read back -/

/-- A code has no blanks and no small letters. -/
theorem subscriptionDiscountCodeNew_val (code : SubscriptionDiscountCode) :
    subscriptionDiscountCodeNew code.val = some code := by
  obtain ⟨code, hcode⟩ := code
  have hall : code.toList.all (fun c => c.isUpper || c.isDigit || c == '_' || c == '-') = true := by
    unfold isDiscountCode at hcode
    simp only [Bool.and_eq_true] at hcode
    exact hcode.2
  have hchar (c : Char) (hc : c ∈ code.toList) : isWhitespace c = false ∧ c.toUpper = c := by
    have hascii : c.toNat < 128 := by
      have hkept := List.all_eq_true.mp hall c hc
      simp only [isUpper_eq, Char.isDigit, Bool.or_eq_true, Bool.and_eq_true, decide_eq_true_eq,
        UInt32.le_iff_toNat_le, ge_iff_le, beq_iff_eq] at hkept
      have hnat : c.toNat = c.val.toNat := rfl
      have hZ : 'Z'.val.toNat = 90 := rfl
      have hnine : '9'.val.toNat = 57 := rfl
      rcases hkept with ((hkept | hkept) | rfl) | rfl
      · omega
      · omega
      · decide
      · decide
    have hcases : ∀ n < 128,
        ((Char.ofNat n).isUpper || (Char.ofNat n).isDigit || Char.ofNat n == '_' ||
          Char.ofNat n == '-') = true →
        isWhitespace (Char.ofNat n) = false ∧ (Char.ofNat n).toUpper = Char.ofNat n := by
      decide +kernel
    have hthis := hcases c.toNat hascii
    rw [Char.ofNat_toNat] at hthis
    exact hthis (List.all_eq_true.mp hall c hc)
  have htrim : trim code = code := trim_eq fun c hc => (hchar c hc).1
  have hupper : toAsciiUppercase code = code := by
    unfold toAsciiUppercase
    rw [List.map_congr_left fun c hc => (hchar c hc).2, List.map_id', String.ofList_toList]
  unfold subscriptionDiscountCodeNew
  rw [htrim, hupper]
  exact dif_pos hcode

/-- The columns of a kind give the kind. -/
theorem discountKindFromRow_eq {row : DiscountCodeRow} (kind : CheckedDiscountKind)
    (hkind : row.discountKind = kind.val.asStr)
    (hamount : row.amountOffCents = (discountValue kind.val).1)
    (hpercent : row.percentOffBps = (discountValue kind.val).2) :
    discountKindFromRow row = .ok kind := by
  obtain ⟨kind, hvalid⟩ := kind
  unfold discountKindFromRow
  rw [hkind, hamount, hpercent]
  cases kind with
  | amountOffCents cents =>
    have hchecked : checkedKind .amountOffCents (cents : ℤ) =
        some ⟨.amountOffCents cents, hvalid⟩ := by
      unfold checkedKind
      exact dif_pos hvalid
    show orInvalidDiscountState (checkedKind .amountOffCents (cents : ℤ)) = _
    rw [hchecked]
    rfl
  | percentOffBasisPoints bps =>
    have hchecked : checkedKind .percentOffBasisPoints (bps : ℤ) =
        some ⟨.percentOffBasisPoints bps, hvalid⟩ := by
      unfold checkedKind
      exact dif_pos hvalid
    show orInvalidDiscountState (checkedKind .percentOffBasisPoints (bps : ℤ)) = _
    rw [hchecked]
    rfl

/-- The columns of a duration give the duration. -/
theorem discountDurationFromRow_eq {row : DiscountCodeRow} (duration : CheckedDiscountDuration)
    (hduration : row.duration = duration.val.asStr)
    (hmonths : row.durationMonths = durationMonths duration.val) :
    discountDurationFromRow row = .ok duration := by
  obtain ⟨duration, hvalid⟩ := duration
  unfold discountDurationFromRow
  rw [hduration, hmonths]
  cases duration with
  | indefinite => rfl
  | limitedMonths months =>
    have hchecked : limitedDiscountMonthsNew (months : ℤ) =
        some ⟨.limitedMonths months, hvalid⟩ := by
      unfold limitedDiscountMonthsNew
      exact dif_pos hvalid
    show orInvalidDiscountState (limitedDiscountMonthsNew (months : ℤ)) = _
    rw [hchecked]
    rfl

/-- The text of a status gives the status. -/
theorem parseCodeStatus_asStr (status : SubscriptionDiscountCodeStatus) :
    parseCodeStatus status.asStr = .ok status := by
  cases status <;> rfl

/-- A plan key is read back. -/
theorem planKeyNew_val (key : PlanKey) : planKeyNew key.val = some key := dif_pos key.property

/-- A currency is read back. -/
theorem currencyCodeNew_val (code : CurrencyCode) : currencyCodeNew code.val = some code :=
  dif_pos code.property

/-- The fields of a new code. -/
def SubscriptionDiscountCodeCreation.fields (creation : SubscriptionDiscountCodeCreation)
    (now : Timestamp) : SubscriptionDiscountCodeFields :=
  { id := creation.id, billingScopeId := creation.billingScopeId, planKey := creation.planKey,
    code := creation.code, displayCode := creation.code.val, label := creation.label,
    status := .active, kind := creation.kind, currency := creation.currency,
    duration := creation.duration, createdAt := now, updatedAt := now }

/-- The fields of a code that was updated. -/
def SubscriptionDiscountCodeUpdate.fields (update : SubscriptionDiscountCodeUpdate)
    (now : Timestamp) (fields : SubscriptionDiscountCodeFields) : SubscriptionDiscountCodeFields :=
  { fields with
    label := update.label, status := update.status, kind := update.kind,
    currency := update.currency, duration := update.duration, updatedAt := now }

/-- The row of a new code is read up to its label. -/
theorem fieldsFromRow_insertedRow (creation : SubscriptionDiscountCodeCreation) (now : Timestamp) :
    fieldsFromRow (creation.insertedRow now) = .ok (creation.fields now) := by
  have hkind : discountKindFromRow (creation.insertedRow now) = .ok creation.kind :=
    discountKindFromRow_eq creation.kind rfl rfl rfl
  have hduration : discountDurationFromRow (creation.insertedRow now) = .ok creation.duration :=
    discountDurationFromRow_eq creation.duration rfl rfl
  have hplan : planKeyNew (creation.insertedRow now).planKey = some creation.planKey :=
    planKeyNew_val _
  have hcode : subscriptionDiscountCodeNew (creation.insertedRow now).codeNormalized =
      some creation.code :=
    subscriptionDiscountCodeNew_val _
  have hcurrency : currencyCodeNew (creation.insertedRow now).currency = some creation.currency :=
    currencyCodeNew_val _
  unfold fieldsFromRow
  rw [hkind, hduration, hplan, hcode, hcurrency]
  rfl

/-- The row of a code whose fields are read is read up to its label after an update. -/
theorem fieldsFromRow_updatedRow (update : SubscriptionDiscountCodeUpdate) (now : Timestamp)
    {row : DiscountCodeRow} {fields : SubscriptionDiscountCodeFields}
    (h : fieldsFromRow row = .ok fields) :
    fieldsFromRow (update.updatedRow now row) = .ok (update.fields now fields) := by
  have hkind : discountKindFromRow (update.updatedRow now row) = .ok update.kind :=
    discountKindFromRow_eq update.kind rfl rfl rfl
  have hduration : discountDurationFromRow (update.updatedRow now row) = .ok update.duration :=
    discountDurationFromRow_eq update.duration rfl rfl
  have hstatus : parseCodeStatus (update.updatedRow now row).status = .ok update.status :=
    parseCodeStatus_asStr update.status
  have hcurrency : currencyCodeNew (update.updatedRow now row).currency = some update.currency :=
    currencyCodeNew_val _
  unfold fieldsFromRow at h ⊢
  obtain ⟨kind, -, h⟩ := bind_eq_ok.mp h
  obtain ⟨duration, -, h⟩ := bind_eq_ok.mp h
  obtain ⟨planKey, hplan, h⟩ := bind_eq_ok.mp h
  obtain ⟨code, hcode, h⟩ := bind_eq_ok.mp h
  obtain ⟨status, -, h⟩ := bind_eq_ok.mp h
  obtain ⟨currency, -, h⟩ := bind_eq_ok.mp h
  cases h
  have hplan' : orInvalidDiscountState (planKeyNew (update.updatedRow now row).planKey) =
      .ok planKey := hplan
  have hcode' : orInvalidDiscountState
      (subscriptionDiscountCodeNew (update.updatedRow now row).codeNormalized) = .ok code := hcode
  rw [hkind, hduration, hstatus, hcurrency, hplan', hcode']
  rfl

/-! ## Labels -/

/-- A text is its own trim exactly if it has no blank at its ends. -/
theorem trim_eq_self_iff (cs : List Char) :
    trim (String.ofList cs) = String.ofList cs ↔
      (∀ c, cs.head? = some c → isWhitespace c = false) ∧ ∀ c, cs.getLast? = some c →
        isWhitespace c = false := by
  unfold trim
  rw [String.toList_ofList, String.ofList_inj]
  have hhead : cs.dropWhile isWhitespace = cs ↔ ∀ c, cs.head? = some c →
      isWhitespace c = false := by
    cases cs with
    | nil => simp
    | cons c cs => rw [List.dropWhile_eq_self_iff]; simp
  have hlast : cs.rdropWhile isWhitespace = cs ↔ ∀ c, cs.getLast? = some c →
      isWhitespace c = false := by
    rw [List.rdropWhile_eq_self_iff]
    constructor
    · intro h c hc
      have hne : cs ≠ [] := by
        rintro rfl
        cases hc
      rw [List.getLast?_eq_some_getLast hne] at hc
      obtain rfl := Option.some.inj hc
      simpa using h hne
    · intro h hne
      simpa using h _ (List.getLast?_eq_some_getLast hne)
  rw [← hhead, ← hlast]
  constructor
  · intro h
    -- Neither end can lose a character, since the whole has as many as before.
    have hle : ((cs.dropWhile isWhitespace).rdropWhile isWhitespace).length ≤
        (cs.dropWhile isWhitespace).length :=
      (List.rdropWhile_prefix _ _).length_le
    have hsuffix : cs.dropWhile isWhitespace <:+ cs := List.dropWhile_suffix _
    rw [h] at hle
    have hdrop : cs.dropWhile isWhitespace = cs := hsuffix.eq_of_length_le hle
    exact ⟨hdrop, by rwa [hdrop] at h⟩
  · rintro ⟨hdrop, hrdrop⟩
    rw [hdrop, hrdrop]

/-- What it takes for a label to be read back: the 120th character of the trimmed text is no
blank. -/
def LabelKept (label : Option String) : Prop :=
  ∀ value, label = some value → ∀ c, (trim value).toList[119]? = some c → isWhitespace c = false

/-- The cut of a trimmed text is trimmed exactly if its 120th character is no blank. -/
theorem cut_trimmed_iff {cs : List Char} (h : trim (String.ofList cs) = String.ofList cs) :
    trim (String.ofList (cs.take 120)) = String.ofList (cs.take 120) ↔
      ∀ c, cs[119]? = some c → isWhitespace c = false := by
  obtain ⟨hhead, hlast⟩ := (trim_eq_self_iff cs).mp h
  rw [trim_eq_self_iff, List.head?_take, if_neg (by decide)]
  by_cases hshort : cs.length ≤ 120
  · rw [List.take_of_length_le hshort]
    refine iff_of_true ⟨hhead, hlast⟩ fun c hc => hlast c ?_
    have hlength : 119 < cs.length := (List.getElem?_eq_some_iff.mp hc).1
    rw [List.getLast?_eq_getElem?, ← hc]
    congr 1
    omega
  · have hcut : (cs.take 120).getLast? = cs[119]? := by
      have hlength : (cs.take 120).length = 120 := by rw [List.length_take]; omega
      rw [List.getLast?_eq_getElem?, hlength, List.getElem?_take]
      simp
    rw [hcut]
    exact and_iff_right hhead

/-- The label that is stored is one that a record takes exactly if it is kept. -/
theorem normalizeLabel_valid_iff (label : Option String) :
    (normalizeLabel label).all labelIsValid = true ↔ LabelKept label := by
  unfold LabelKept normalizeLabel
  cases label with
  | none => simp
  | some value =>
    have htrimmed : trim (String.ofList (trim value).toList) =
        String.ofList (trim value).toList := by
      rw [String.ofList_toList, trim_trim]
    dsimp only
    split_ifs with hempty
    · simp [hempty]
    · have hcut := cut_trimmed_iff htrimmed
      have hne : (trim value).toList.take 120 ≠ [] := by
        rw [Ne, List.take_eq_nil_iff]
        simpa using hempty
      have hnonempty : String.ofList ((trim value).toList.take 120) ≠ "" := by simpa using hempty
      simp only [Option.all_some, labelIsValid, Bool.and_eq_true, decide_eq_true_eq,
        String.toList_ofList, Option.some.injEq, forall_eq']
      rw [hcut]
      simp [hnonempty]

/-- What is stored of a label. -/
theorem normalizeLabel_some (value : String) : normalizeLabel (some value) =
    if trim value = "" then none else some (String.ofList ((trim value).toList.take 120)) := rfl

/-- A label that is stored is not empty, and not too long. -/
theorem normalizeLabel_bounds {label : Option String} {stored : String}
    (h : normalizeLabel label = some stored) : stored ≠ "" ∧ stored.toList.length ≤ 120 := by
  cases label with
  | none => cases h
  | some value =>
    rw [normalizeLabel_some] at h
    by_cases hempty : trim value = ""
    · rw [if_pos hempty] at h
      cases h
    · rw [if_neg hempty] at h
      have hstored : String.ofList ((trim value).toList.take 120) = stored := Option.some.inj h
      rw [← hstored, String.toList_ofList, List.length_take]
      exact ⟨by simpa using hempty, Nat.min_le_left _ _⟩

/-- A label that is stored is stored again exactly if it is trimmed: a second pass that trims cannot
make up for what it takes off. -/
theorem normalizeLabel_stored_iff {stored : String} (hne : stored ≠ "")
    (hlength : stored.toList.length ≤ 120) : normalizeLabel (some stored) = some stored ↔
      trim stored = stored := by
  rw [normalizeLabel_some]
  by_cases hempty : trim stored = ""
  · rw [if_pos hempty, hempty]
    exact iff_of_false (by simp) (Ne.symm hne)
  · have hle := length_trim_le stored
    rw [if_neg hempty, List.take_of_length_le (by omega), String.ofList_toList]
    exact Option.some_inj

/-- Normalizing twice is normalizing once exactly if the label is kept. -/
theorem normalizeLabel_idempotent_iff (label : Option String) :
    normalizeLabel (normalizeLabel label) = normalizeLabel label ↔ LabelKept label := by
  rw [← normalizeLabel_valid_iff]
  cases hstored : normalizeLabel label with
  | none => exact iff_of_true rfl rfl
  | some stored =>
    obtain ⟨hne, hlength⟩ := normalizeLabel_bounds hstored
    rw [normalizeLabel_stored_iff hne hlength]
    simp [labelIsValid, hne, hlength]

/-- A row whose other fields are in order is read exactly if its label is one that a record
takes. -/
theorem codeFromRow_eq_ok {row : DiscountCodeRow} {fields : SubscriptionDiscountCodeFields}
    (hfields : fieldsFromRow row = .ok fields) (hdisplay : trim fields.displayCode ≠ "")
    (htimes : fields.createdAt ≤ fields.updatedAt) :
    (∃ record, codeFromRow row = .ok record ∧ record.label = fields.label) ↔
      fields.label.all labelIsValid = true := by
  have hcheck : fields.check = true ↔ fields.label.all labelIsValid = true := by
    simp [SubscriptionDiscountCodeFields.check, hdisplay, htimes]
  have hread : codeFromRow row =
      (SubscriptionDiscountCodeRecord.new fields).mapError fun _ => invalidDiscountState := by
    unfold codeFromRow
    rw [hfields]
    rfl
  rw [hread, ← hcheck]
  unfold SubscriptionDiscountCodeRecord.new
  by_cases h : fields.check = true
  · rw [dif_pos h]
    exact iff_of_true ⟨⟨fields, h⟩, rfl, rfl⟩ h
  · rw [dif_neg h]
    refine iff_of_false ?_ h
    rintro ⟨record, hrecord, -⟩
    cases hrecord

/-- A code has no blanks, and is not empty. -/
theorem trim_code_ne_empty (code : SubscriptionDiscountCode) : trim code.val ≠ "" := by
  have hnew := subscriptionDiscountCodeNew_val code
  unfold subscriptionDiscountCodeNew at hnew
  intro hempty
  rw [hempty, dif_neg (by decide)] at hnew
  cases hnew

/-- A label is read back exactly if it is kept: from the row of a new code, from the row of an
updated code whose other columns are in order, and by a second normalization. -/
theorem label_read_back_iff (label : Option String) :
    (∀ id billingScopeId planKey code kind currency duration now,
      (∃ record,
        codeFromRow ((SubscriptionDiscountCodeCreation.new id billingScopeId planKey code label kind
          currency duration).insertedRow now) = .ok record ∧ record.label = normalizeLabel label) ↔
        LabelKept label) ∧
    (∀ id billingScopeId planKey status kind currency duration now row fields,
      fieldsFromRow row = .ok fields → trim fields.displayCode ≠ "" → fields.createdAt ≤ now →
      ((∃ record,
        codeFromRow ((SubscriptionDiscountCodeUpdate.new id billingScopeId planKey label status kind
          currency duration).updatedRow now row) = .ok record ∧
            record.label = normalizeLabel label) ↔
        LabelKept label)) ∧
    (normalizeLabel (normalizeLabel label) = normalizeLabel label ↔ LabelKept label) := by
  refine ⟨?_, ?_, normalizeLabel_idempotent_iff label⟩
  · intro id billingScopeId planKey code kind currency duration now
    rw [← normalizeLabel_valid_iff]
    exact codeFromRow_eq_ok (fieldsFromRow_insertedRow _ now) (trim_code_ne_empty code) le_rfl
  · intro id billingScopeId planKey status kind currency duration now row fields hfields
      hdisplay htimes
    rw [← normalizeLabel_valid_iff]
    exact codeFromRow_eq_ok (fieldsFromRow_updatedRow _ now hfields) hdisplay htimes

/-- A label of 119 letters, a blank, and a letter: its cut ends with the blank. -/
def longLabel : String := String.ofList (List.replicate 119 'x' ++ [' ', 'x'])

/-- A code that is created with that label cannot be read. -/
theorem label_read_back_fails :
    codeFromRow ((SubscriptionDiscountCodeCreation.new 1 1 ⟨"monthly", by decide +kernel⟩
      ⟨"LAUNCH", by decide +kernel⟩ (some longLabel) ⟨.percentOffBasisPoints 1000, by decide⟩
      ⟨"USD", by decide +kernel⟩ ⟨.indefinite, rfl⟩).insertedRow 0) = .error invalidDiscountState ∧
    normalizeLabel (normalizeLabel (some longLabel)) ≠ normalizeLabel (some longLabel) := by
  decide +kernel

end SyrupRail
