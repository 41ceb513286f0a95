import SyrupRail.Lib.Run
import SyrupRail.Nmi.SaleRequest

/-!
# The size of a sale

A sale that passes its checks fits the outbound limit of 16384 octets, whether it is sent as a
Classic form or as a v5 body with its `Authorization` header. The sizes that the budget computes are
the lengths of the encoded texts. What the validator counts is `saleBytes`, the values as they are
sent (`Adds`, by the rules for a sequence of checks); what is sent above these values, names and
literals and structure, is less than the reserve, member by member for a form (`Fits`) and for a
body (`byteLen_insert_le`).

The check of the built form counts the names on top of the same reserve, so it refuses some forms
that fit the limit and passed the validator. Such a sale is a local error, and nothing is sent.
-/

namespace SyrupRail.Nmi

open RustText WireText Transactions

/-! ## The sizes of texts -/

/-- The size of a form component is the length of its encoding. -/
theorem encodedFormComponentBytes_eq (value : String) :
    encodedFormComponentBytes value = byteLen (formComponent value) :=
  (byteLen_formComponent value).symm

/-- A sum that is taken from the left. -/
theorem foldl_add_eq {α : Type*} (size : α → ℕ) (items : List α) (start : ℕ) :
    items.foldl (fun bytes item => bytes + size item) start = start + (items.map size).sum := by
  induction items generalizing start with
  | nil => rfl
  | cons item items ih => rw [List.foldl_cons, ih, List.map_cons, List.sum_cons, Nat.add_assoc]

/-- The size of a JSON string is the length of its encoding. -/
theorem encodedJsonStringBytes_eq (value : String) :
    encodedJsonStringBytes value = byteLen (jsonString value) := by
  rw [byteLen_jsonString]
  exact foldl_add_eq _ _ _

/-- The size of a value without its quotes. -/
def RequestEncoding.charBytes : RequestEncoding → Char → ℕ
  | .form, c => ((RustText.charBytes c).map fun byte => (formOctet byte).length).sum
  | .json, c => jsonCharBytes c

/-- The quotes of a value. -/
def RequestEncoding.quoteBytes : RequestEncoding → ℕ
  | .form => 0
  | .json => 2

/-- The size of a value, by characters. -/
theorem valueBytes_eq (encoding : RequestEncoding) (value : String) :
    encoding.valueBytes value =
      encoding.quoteBytes + (value.toList.map encoding.charBytes).sum := by
  cases encoding with
  | form =>
    show encodedFormComponentBytes value = 0 + _
    unfold encodedFormComponentBytes utf8Bytes
    rw [List.map_flatMap, Nat.zero_add]
    induction value.toList with
    | nil => rfl
    | cons c cs ih =>
      rw [List.flatMap_cons, List.sum_append, ih, List.map_cons, List.sum_cons]
      rfl
  | json => exact foldl_add_eq _ _ _

/-- Trimming a text takes characters away at its ends. -/
theorem exists_toList_eq_trim (value : String) :
    ∃ front back, value.toList = front ++ ((trim value).toList ++ back) := by
  obtain ⟨front, hfront⟩ := List.dropWhile_suffix isWhitespace (l := value.toList)
  obtain ⟨back, hback⟩ := List.rdropWhile_prefix isWhitespace (value.toList.dropWhile isWhitespace)
  refine ⟨front, back, ?_⟩
  unfold trim
  rw [String.toList_ofList, hback, hfront]

/-- A trimmed value is no larger. -/
theorem valueBytes_trim_le (encoding : RequestEncoding) (value : String) :
    encoding.valueBytes (trim value) ≤ encoding.valueBytes value := by
  obtain ⟨front, back, hvalue⟩ := exists_toList_eq_trim value
  have hsum := congrArg (fun cs => (cs.map encoding.charBytes).sum) hvalue
  simp only [List.map_append, List.sum_append] at hsum
  rw [valueBytes_eq, valueBytes_eq]
  omega

/-- A character of a name or a number, which both encodings write as it is. -/
def isNameCharacter (c : Char) : Bool := c.isAlphanum || c = '_' || c = '.'

/-- A name character is ASCII. -/
theorem lt_of_isNameCharacter {c : Char} (h : isNameCharacter c = true) : c.toNat < 128 := by
  have hnat : c.toNat = c.val.toNat := rfl
  simp only [isNameCharacter, Char.isAlphanum, isAlpha_eq, isUpper_eq, isLower_eq, Char.isDigit,
    Bool.or_eq_true, Bool.and_eq_true, decide_eq_true_eq, UInt32.le_iff_toNat_le, ge_iff_le] at h
  rcases h with (h | rfl) | rfl
  · have hZ : 'Z'.val.toNat = 90 := rfl
    have hz : 'z'.val.toNat = 122 := rfl
    have h9 : '9'.val.toNat = 57 := rfl
    omega
  · decide
  · decide

/-- A name character takes one octet. -/
theorem charBytes_of_isNameCharacter (encoding : RequestEncoding) {c : Char}
    (h : isNameCharacter c = true) : encoding.charBytes c = 1 := by
  have hall : ∀ n < 128, isNameCharacter (Char.ofNat n) = true →
      RequestEncoding.form.charBytes (Char.ofNat n) = 1 ∧
        RequestEncoding.json.charBytes (Char.ofNat n) = 1 := by
    decide +kernel
  obtain ⟨hform, hjson⟩ :=
    hall c.toNat (lt_of_isNameCharacter h) (by rw [Char.ofNat_toNat]; exact h)
  rw [Char.ofNat_toNat] at hform hjson
  cases encoding with
  | form => exact hform
  | json => exact hjson

/-- A name of so many characters. -/
def IsName (length : ℕ) (name : String) : Prop :=
  name.toList.all isNameCharacter = true ∧ name.toList.length = length

instance (length : ℕ) (name : String) : Decidable (IsName length name) :=
  inferInstanceAs (Decidable (_ ∧ _))

/-- The size of a name. -/
theorem valueBytes_of_isName (encoding : RequestEncoding) {length : ℕ} {name : String}
    (h : IsName length name) : encoding.valueBytes name = encoding.quoteBytes + length := by
  obtain ⟨hplain, hlength⟩ := h
  have hone : name.toList.map encoding.charBytes = List.replicate length 1 := by
    rw [← hlength, ← List.map_const']
    exact List.map_congr_left fun c hc =>
      charBytes_of_isNameCharacter encoding (List.all_eq_true.mp hplain c hc)
  rw [valueBytes_eq, hone, List.sum_replicate_nat, mul_one]

/-! ## What the validator counts -/

/-- The size of a value that is omitted when it is blank. -/
def RequestEncoding.optionalBytes (encoding : RequestEncoding) (value : Option String) : ℕ :=
  ((trimmedOptional value).map encoding.valueBytes).getD 0

/-- A value that is not blank. -/
theorem optionalBytes_some (encoding : RequestEncoding) (value : String) :
    encoding.optionalBytes (some value) =
      if trim value = "" then 0 else encoding.valueBytes (trim value) := by
  unfold RequestEncoding.optionalBytes trimmedOptional
  split_ifs with hblank
  · rw [Option.map_some, hblank]
    rfl
  · have hkept : (!(trim value).isEmpty) = true := by simpa using hblank
    rw [Option.map_some, Option.filter_some, if_pos hkept]
    rfl

/-- The values of an address. -/
def addressBytes (encoding : RequestEncoding) (address : BillingAddress) : ℕ :=
  encoding.optionalBytes (some address.address1) + encoding.optionalBytes address.address2 +
    encoding.optionalBytes address.city + encoding.optionalBytes address.state +
    encoding.optionalBytes address.zip + encoding.valueBytes address.country

/-- The values of a contact. -/
def contactBytes (encoding : RequestEncoding) (contact : BillingContact) : ℕ :=
  encoding.optionalBytes contact.firstName + encoding.optionalBytes contact.lastName +
    encoding.optionalBytes contact.email + (contact.address.map (addressBytes encoding)).getD 0

/-- The values of a descriptor. -/
def descriptorBytes (encoding : RequestEncoding) (descriptor : StatementDescriptor) : ℕ :=
  encoding.optionalBytes (some descriptor.name) + encoding.optionalBytes descriptor.phone +
    encoding.optionalBytes descriptor.url

/-- The value of a payment source. -/
def sourceBytes (encoding : RequestEncoding) : PaymentSource → ℕ
  | .paymentToken token => encoding.valueBytes token
  | .customerVault customerVaultId => encoding.valueBytes customerVaultId

/-- The value of a stored credential. -/
def storedCredentialBytes (encoding : RequestEncoding) : StoredCredential → ℕ
  | .initialCustomer => 0
  | .recurringMerchant initialTransactionId => encoding.valueBytes initialTransactionId

/-- The values of a sale. -/
def saleBytes (encoding : RequestEncoding) (request : OutgoingSaleRequest) : ℕ :=
  encoding.valueBytes request.currency + encoding.optionalBytes (some request.orderId) +
    sourceBytes encoding request.source +
    (request.storedCredential.map (storedCredentialBytes encoding)).getD 0 +
    (request.billingContact.map (contactBytes encoding)).getD 0 +
    (request.descriptor.map (descriptorBytes encoding)).getD 0

/-- A check that adds so many octets to the budget. -/
def Adds (check : OutboundRequestValidator → Except String OutboundRequestValidator)
    (bytes : RequestEncoding → ℕ) : Prop :=
  ∀ validator validator', check validator = .ok validator' →
    validator'.encoding = validator.encoding ∧
      validator'.budget.encodedBytes = validator.budget.encodedBytes + bytes validator.encoding

/-- A check that leaves the budget as it is. -/
theorem Adds.zero : Adds pure fun _ => 0 := by
  intro validator validator' h
  obtain rfl := Except.ok.inj h
  exact ⟨rfl, rfl⟩

/-- Two checks, one after the other. -/
theorem Adds.bind {check check' : OutboundRequestValidator → Except String OutboundRequestValidator}
    {bytes bytes' : RequestEncoding → ℕ} (h : Adds check bytes) (h' : Adds check' bytes') :
    Adds (fun validator => check validator >>= check') fun encoding =>
      bytes encoding + bytes' encoding := by
  intro validator validator'' hboth
  obtain ⟨validator', hfirst, hsecond⟩ := bind_eq_ok.mp hboth
  obtain ⟨hencoding, hbytes⟩ := h _ _ hfirst
  obtain ⟨hencoding', hbytes'⟩ := h' _ _ hsecond
  rw [hencoding] at hencoding' hbytes'
  rw [hbytes', hbytes, Nat.add_assoc]
  exact ⟨hencoding', rfl⟩

/-- A check behind a condition. -/
theorem Adds.ensure {check : OutboundRequestValidator → Except String OutboundRequestValidator}
    {bytes : RequestEncoding → ℕ} (h : Adds check bytes) (condition : Bool) (error : String) :
    Adds (fun validator => Nmi.ensure condition error >>= fun _ => check validator) bytes := by
  intro validator validator' hboth
  obtain ⟨-, -, hcheck⟩ := bind_eq_ok.mp hboth
  exact h _ _ hcheck

/-- The budget of a sum that fits. -/
theorem addBytes_eq_ok {budget budget' : OutboundRequestBudget} {bytes : ℕ} :
    budget.addBytes bytes = .ok budget' ↔ budget'.encodedBytes = budget.encodedBytes + bytes := by
  obtain ⟨total, htotal⟩ := budget'
  unfold OutboundRequestBudget.addBytes
  dsimp only
  split_ifs with h
  · rw [Except.ok.injEq, OutboundRequestBudget.mk.injEq]
    exact eq_comm
  · exact iff_of_false (by simp) fun heq => h (heq ▸ htotal)

/-- A value that is added. -/
theorem Adds.add (value : String) :
    Adds (fun validator => validator.add value) fun encoding => encoding.valueBytes value := by
  intro validator validator' h
  obtain ⟨budget, hbudget, rfl⟩ := map_eq_ok.mp h
  exact ⟨rfl, addBytes_eq_ok.mp hbudget⟩

/-- `field` adds its value. -/
theorem Adds.field (value : String) (maxBytes : ℕ) (error : String) :
    Adds (fun validator => validator.field value maxBytes error)
      fun encoding => encoding.valueBytes value :=
  (Adds.add value).ensure _ _

/-- `trimmed_field` adds its value without blanks around it, and nothing for a blank value. -/
theorem Adds.trimmedField (value : String) (maxBytes : ℕ) (error : String) :
    Adds (fun validator => validator.trimmedField value maxBytes error)
      fun encoding => encoding.optionalBytes (some value) := by
  refine Adds.ensure ?_ _ _
  by_cases hblank : trim value = ""
  · have hbytes (encoding : RequestEncoding) : encoding.optionalBytes (some value) = 0 := by
      rw [optionalBytes_some, if_pos hblank]
    simp only [hblank, if_true, hbytes]
    exact Adds.zero
  · have hbytes (encoding : RequestEncoding) :
        encoding.optionalBytes (some value) = encoding.valueBytes (trim value) := by
      rw [optionalBytes_some, if_neg hblank]
    simp only [hblank, if_false, hbytes]
    exact Adds.add _

/-- `trimmed_field` of a value that may be absent. -/
theorem Adds.optionalField (value : Option String) (maxBytes : ℕ) (error : String) :
    Adds (fun validator => validator.optionalField value maxBytes error)
      fun encoding => encoding.optionalBytes value := by
  cases value with
  | none => exact Adds.zero
  | some value => exact Adds.trimmedField value maxBytes error

/-- A part that may be absent. -/
theorem Adds.optional {α : Type} {bytes : RequestEncoding → α → ℕ}
    {check : Option α → OutboundRequestValidator → Except String OutboundRequestValidator}
    (hnone : check .none = pure)
    (hsome : ∀ part, Adds (check (some part)) fun encoding => bytes encoding part)
    (part : Option α) : Adds (check part) fun encoding => (part.map (bytes encoding)).getD 0 := by
  cases part with
  | none =>
    rw [hnone]
    exact Adds.zero
  | some part => exact hsome part

/-- A check that adds as much, counted in another way. -/
theorem Adds.congr {check : OutboundRequestValidator → Except String OutboundRequestValidator}
    {bytes bytes' : RequestEncoding → ℕ} (h : Adds check bytes) (heq : ∀ e, bytes' e = bytes e) :
    Adds check bytes' := by
  rw [funext heq]
  exact h

/-- The check of an address counts its values. -/
theorem adds_validateBillingAddress (address : BillingAddress) :
    Adds (validateBillingAddress address) fun encoding => addressBytes encoding address := by
  unfold validateBillingAddress
  refine Adds.congr (.bind (.trimmedField _ _ _) (.ensure (.bind (.optionalField _ _ _)
    (.bind (.optionalField _ _ _)
      (.bind (.optionalField _ _ _) (.ensure (.bind (.optionalField _ _ _)
    (.ensure (.bind (.field _ _ _) (.ensure .zero _ _)) _ _)) _ _)))) _ _)) fun encoding => ?_
  unfold addressBytes
  omega

/-- The check of a contact counts its values. -/
theorem adds_validateBillingContact (contact : BillingContact) :
    Adds (validateBillingContact contact) fun encoding => contactBytes encoding contact := by
  have haddress : Adds (validateOptionalAddress contact.address) fun encoding =>
      (contact.address.map (addressBytes encoding)).getD 0 :=
    Adds.optional rfl adds_validateBillingAddress contact.address
  unfold validateBillingContact
  refine Adds.congr (.bind (.optionalField _ _ _) (.bind (.optionalField _ _ _)
    (.bind (.optionalField _ _ _) haddress))) fun encoding => ?_
  unfold contactBytes
  omega

/-- A trimmed value is counted as the value. -/
theorem optionalBytes_trim (encoding : RequestEncoding) (value : Option String) :
    encoding.optionalBytes (value.map trim) = encoding.optionalBytes value := by
  cases value with
  | none => rfl
  | some value =>
    unfold RequestEncoding.optionalBytes trimmedOptional
    rw [Option.map_some, Option.map_some, trim_trim]

/-- The check of a descriptor counts its values. -/
theorem adds_validateStatementDescriptor (descriptor : StatementDescriptor) :
    Adds (validateStatementDescriptor descriptor) fun encoding =>
      descriptorBytes encoding descriptor := by
  unfold validateStatementDescriptor
  refine Adds.congr (.ensure (.bind (.trimmedField _ _ _) (.ensure (.bind (.optionalField _ _ _)
    (.ensure (.bind (.optionalField _ _ _) (.ensure (.ensure .zero _ _) _ _)) _ _)) _ _)) _ _)
    fun encoding => ?_
  have hname := optionalBytes_trim encoding (some descriptor.name)
  rw [Option.map_some] at hname
  unfold descriptorBytes
  rw [hname, optionalBytes_trim, optionalBytes_trim]
  omega

/-- The check of a source counts its value. -/
theorem adds_validateSource (source : PaymentSource) :
    Adds (validateSource source) fun encoding => sourceBytes encoding source := by
  cases source with
  | paymentToken token => exact Adds.field _ _ _
  | customerVault customerVaultId => exact Adds.field _ _ _

/-- The check of a stored credential counts its value. -/
theorem adds_validateStoredCredential (credential : Option StoredCredential) :
    Adds (validateStoredCredential credential) fun encoding =>
      (credential.map (storedCredentialBytes encoding)).getD 0 := by
  refine Adds.optional rfl (fun credential => ?_) credential
  cases credential with
  | initialCustomer => exact Adds.zero
  | recurringMerchant initialTransactionId => exact Adds.field _ _ _

/-- What the validator of a sale counts, which is within the limit. -/
theorem bytes_of_validateSaleRequestSize {request : OutgoingSaleRequest} {privateApiKey : String}
    {validator : OutboundRequestValidator}
    (h : validateSaleRequestSize request privateApiKey = .ok validator) :
    maxNmiFixedRequestBytes + (saleEncoding request.toSaleRequest).credentialBytes privateApiKey +
      saleBytes (saleEncoding request.toSaleRequest) request ≤ maxNmiOutboundRequestBytes := by
  obtain ⟨start, hstart, h⟩ := bind_eq_ok.mp h
  obtain ⟨reserve, hreserve, hstart⟩ := bind_eq_ok.mp hstart
  obtain ⟨budget, hbudget, hstart⟩ := bind_eq_ok.mp hstart
  obtain rfl := Except.ok.inj hstart
  have hreserve := addBytes_eq_ok.mp hreserve
  have hbudget := addBytes_eq_ok.mp hbudget
  have hcontact : Adds (validateOptionalContact request.billingContact) fun encoding =>
      (request.billingContact.map (contactBytes encoding)).getD 0 :=
    Adds.optional rfl adds_validateBillingContact _
  have hdescriptor : Adds (validateOptionalDescriptor request.descriptor) fun encoding =>
      (request.descriptor.map (descriptorBytes encoding)).getD 0 :=
    Adds.optional rfl adds_validateStatementDescriptor _
  have hrest := Adds.bind (Adds.field request.currency 3 "payment currency must be USD")
    (Adds.bind (Adds.trimmedField request.orderId 512 "payment order ID exceeds the supported size")
      (Adds.bind (adds_validateSource request.source)
        (Adds.bind (adds_validateStoredCredential request.storedCredential)
          (Adds.bind hcontact hdescriptor))))
  obtain ⟨-, htotal⟩ := hrest _ _ h
  have hbounded := validator.budget.bounded
  unfold saleBytes
  dsimp only at htotal hreserve
  omega

/-! ## The Classic form -/

/-- Parameters whose names and values take at most so many octets. -/
structure Fits (params : List (String × String)) (names values count : ℕ) : Prop where
  names_le : (params.map fun param => encodedFormComponentBytes param.1).sum ≤ names
  values_le : (params.map fun param => encodedFormComponentBytes param.2).sum ≤ values
  count_le : params.length ≤ count

/-- No parameters. -/
theorem Fits.nil : Fits [] 0 0 0 := ⟨le_rfl, le_rfl, le_rfl⟩

/-- A wider bound. -/
theorem Fits.mono {params : List (String × String)} {names values count names' values' count' : ℕ}
    (h : Fits params names values count) (hnames : names ≤ names') (hvalues : values ≤ values')
    (hcount : count ≤ count') : Fits params names' values' count' :=
  ⟨h.names_le.trans hnames, h.values_le.trans hvalues, h.count_le.trans hcount⟩

/-- Parameters behind parameters. -/
theorem Fits.append {params params' : List (String × String)}
    {names values count names' values' count' : ℕ} (h : Fits params names values count)
    (h' : Fits params' names' values' count') :
    Fits (params ++ params') (names + names') (values + values') (count + count') := by
  obtain ⟨hnames, hvalues, hcount⟩ := h
  obtain ⟨hnames', hvalues', hcount'⟩ := h'
  constructor
  · rw [List.map_append, List.sum_append]
    omega
  · rw [List.map_append, List.sum_append]
    omega
  · rw [List.length_append]
    omega

/-- One parameter. -/
theorem Fits.single {length : ℕ} {name : String} (hname : IsName length name) (value : String) :
    Fits [(name, value)] length (encodedFormComponentBytes value) 1 := by
  have hbytes : encodedFormComponentBytes name = 0 + length :=
    valueBytes_of_isName .form hname
  constructor
  · rw [List.map_singleton, List.sum_singleton]
    show encodedFormComponentBytes name ≤ length
    omega
  · rw [List.map_singleton, List.sum_singleton]
  · exact le_rfl

/-- One parameter with a fixed value. -/
theorem Fits.literal {length length' : ℕ} {name value : String} (hname : IsName length name)
    (hvalue : IsName length' value) : Fits [(name, value)] length length' 1 := by
  have hbytes : encodedFormComponentBytes value = 0 + length' :=
    valueBytes_of_isName .form hvalue
  exact (Fits.single hname value).mono le_rfl (by omega) le_rfl

/-- A trimmed value takes what is counted for it. -/
theorem encodedFormComponentBytes_trim (value : String) :
    encodedFormComponentBytes (trim value) = RequestEncoding.form.optionalBytes (some value) := by
  rw [optionalBytes_some]
  split_ifs with hblank
  · rw [hblank]
    rfl
  · rfl

/-- One parameter for a trimmed value. -/
theorem Fits.trimmed {length : ℕ} {name : String} (hname : IsName length name) (value : String) :
    Fits [(name, trim value)] length (RequestEncoding.form.optionalBytes (some value)) 1 := by
  rw [← encodedFormComponentBytes_trim]
  exact Fits.single hname _

/-- A parameter for a value that may be absent. -/
theorem Fits.optionalParam {length : ℕ} {name : String} (hname : IsName length name)
    (value : Option String) :
    Fits (optionalParam name value) length (RequestEncoding.form.optionalBytes value) 1 := by
  unfold Nmi.optionalParam RequestEncoding.optionalBytes
  cases trimmedOptional value with
  | none => exact Fits.nil.mono (Nat.zero_le _) le_rfl (Nat.zero_le _)
  | some value => exact Fits.single hname value

/-- The parameters of a part that may be absent. -/
theorem Fits.optional {α : Type} {params : α → List (String × String)} {names count : ℕ}
    {values : α → ℕ} {literals : ℕ}
    (h : ∀ part, Fits (params part) names (values part + literals) count)
    (part : Option α) :
    Fits ((part.map params).getD []) names ((part.map values).getD 0 + literals) count := by
  cases part with
  | none => exact Fits.nil.mono (Nat.zero_le _) (Nat.zero_le _) (Nat.zero_le _)
  | some part => exact h part

/-- The parameters of an address. -/
theorem fits_classicAddressParams (address : BillingAddress) :
    Fits (classicAddressParams address) 35 (addressBytes .form address) 6 := by
  have hcountry := (Fits.single (show IsName 7 "country" by decide) (trim address.country)).mono
    le_rfl (valueBytes_trim_le .form address.country) le_rfl
  exact (((((Fits.trimmed (show IsName 8 "address1" by decide) address.address1).append
    (.optionalParam (show IsName 8 "address2" by decide) address.address2)).append
    (.optionalParam (show IsName 4 "city" by decide) address.city)).append
    (.optionalParam (show IsName 5 "state" by decide) address.state)).append
    (.optionalParam (show IsName 3 "zip" by decide) address.zip)).append hcountry

/-- The parameters of a contact. -/
theorem fits_classicBillingContactParams (contact : BillingContact) :
    Fits (classicBillingContactParams contact) 59 (contactBytes .form contact) 9 := by
  have haddress : Fits ((contact.address.map classicAddressParams).getD []) 35
      ((contact.address.map (addressBytes .form)).getD 0 + 0) 6 :=
    Fits.optional fits_classicAddressParams contact.address
  exact (((Fits.optionalParam (show IsName 10 "first_name" by decide) contact.firstName).append
    (.optionalParam (show IsName 9 "last_name" by decide) contact.lastName)).append
    (.optionalParam (show IsName 5 "email" by decide) contact.email)).append haddress

/-- The parameters of a descriptor. -/
theorem fits_classicStatementDescriptorParams (descriptor : StatementDescriptor) :
    Fits (classicStatementDescriptorParams descriptor) 40 (descriptorBytes .form descriptor) 3 :=
  ((Fits.trimmed (show IsName 10 "descriptor" by decide) descriptor.name).append
    (.optionalParam (show IsName 16 "descriptor_phone" by decide) descriptor.phone)).append
    (.optionalParam (show IsName 14 "descriptor_url" by decide) descriptor.url)

/-- The parameter of a source. -/
theorem fits_classicSourceParams (source : PaymentSource) :
    Fits (classicSourceParams source) 17 (sourceBytes .form source) 1 := by
  cases source with
  | paymentToken token =>
    exact (Fits.single (show IsName 13 "payment_token" by decide) token).mono (by omega)
      le_rfl le_rfl
  | customerVault customerVaultId =>
    exact Fits.single (show IsName 17 "customer_vault_id" by decide) customerVaultId

/-- The parameters of a stored credential. -/
theorem fits_classicCredentialParams (credential : StoredCredential) :
    Fits (classicCredentialParams credential) 75
      (storedCredentialBytes .form credential + 23) 4 := by
  have hmethod : Fits [("billing_method", "recurring")] 14 9 1 :=
    Fits.literal (by decide) (by decide)
  cases credential with
  | initialCustomer =>
    have hindicator : Fits [("stored_credential_indicator", "stored")] 27 6 1 :=
      Fits.literal (by decide) (by decide)
    have hinitiator : Fits [("initiated_by", "customer")] 12 8 1 :=
      Fits.literal (by decide) (by decide)
    exact (hmethod.append (hindicator.append hinitiator)).mono (by omega) (by omega) (by omega)
  | recurringMerchant initialTransactionId =>
    have hindicator : Fits [("stored_credential_indicator", "used")] 27 4 1 :=
      Fits.literal (by decide) (by decide)
    have hinitiator : Fits [("initiated_by", "merchant")] 12 8 1 :=
      Fits.literal (by decide) (by decide)
    have hinitial := Fits.single (show IsName 22 "initial_transaction_id" by decide)
      initialTransactionId
    refine (hmethod.append (hindicator.append (hinitiator.append hinitial))).mono (by omega) ?_
      (by omega)
    show _ ≤ encodedFormComponentBytes initialTransactionId + 23
    omega

/-- A digit is a character of a name. -/
theorem isNameCharacter_of_isDigit {c : Char} (h : c.isDigit = true) :
    isNameCharacter c = true := by
  simp only [isNameCharacter, Char.isAlphanum, h, Bool.or_true, Bool.true_or]

/-- The digits of a number. -/
theorem isName_toDigits {n digits : ℕ} (hpos : 0 < digits) (h : n < 10 ^ digits) :
    (Nat.toDigits 10 n).all isNameCharacter = true ∧ (Nat.toDigits 10 n).length ≤ digits := by
  constructor
  · exact List.all_eq_true.mpr fun c hc =>
      isNameCharacter_of_isDigit (Nat.isDigit_of_mem_toDigits (by decide) (by decide) hc)
  · exact (Nat.length_toDigits_le_iff (by decide) hpos).mpr h

/-- The amount of a sale has at most eleven characters. -/
theorem isName_amount {cents : Int32} {amount : String}
    (h : amountString cents.toInt = .ok amount) : ∃ length ≤ 11, IsName length amount := by
  have hmax : cents.toInt < 2147483648 := cents.toInt_lt
  unfold amountString at h
  split_ifs at h with hpos
  obtain rfl := Except.ok.inj h
  obtain ⟨hwhole, hlength⟩ := isName_toDigits (show 0 < 8 by decide)
    (show cents.toInt.toNat / 100 < 10 ^ 8 by omega)
  obtain ⟨hcents, hlength', -⟩ :=
    twoDigits_spec (Nat.mod_lt cents.toInt.toNat (by decide : 0 < 100))
  have htext : (toString (cents.toInt.toNat / 100) ++ "." ++
      twoDigits (cents.toInt.toNat % 100)).toList =
        Nat.toDigits 10 (cents.toInt.toNat / 100) ++ '.' ::
          (twoDigits (cents.toInt.toNat % 100)).toList := by
    rw [String.toList_append, String.toList_append]
    show (Nat.repr (cents.toInt.toNat / 100)).toList ++ _ ++ _ = _
    rw [Nat.toList_repr]
    simp
  refine ⟨_, ?_, ?_, rfl⟩
  · rw [htext, List.length_append, List.length_cons]
    omega
  · rw [htext, List.all_append, List.all_cons, hwhole, Bool.true_and, Bool.and_eq_true]
    exact ⟨by decide, List.all_eq_true.mpr fun c hc => isNameCharacter_of_isDigit (hcents c hc)⟩

/-- The seconds of a duplicate check have at most seven digits. -/
theorem isName_seconds {duplicateCheck : DuplicateCheck} {seconds : ℕ}
    (h : duplicateCheck.wireSeconds = some seconds) :
    ∃ length ≤ 7, IsName length (toString seconds) := by
  cases duplicateCheck with
  | processorConfigured => cases h
  | window range =>
    obtain rfl := Option.some.inj h
    have hmax := range.maxSeconds
    obtain ⟨hplain, hlength⟩ := isName_toDigits (show 0 < 7 by decide)
      (show range.seconds < 10 ^ 7 by omega)
    refine ⟨_, hlength, ?_⟩
    show (Nat.repr range.seconds).toList.all isNameCharacter = true ∧
      (Nat.repr range.seconds).toList.length = _
    rw [Nat.toList_repr]
    exact ⟨hplain, rfl⟩

/-- The parameter of a duplicate check. -/
theorem fits_dupSeconds (duplicateCheck : DuplicateCheck) :
    Fits (duplicateCheck.wireSeconds.map fun seconds => ("dup_seconds", toString seconds)).toList
      11 7 1 := by
  cases hseconds : duplicateCheck.wireSeconds with
  | none => exact Fits.nil.mono (by omega) (by omega) (by omega)
  | some seconds =>
    obtain ⟨length, hlength, hname⟩ := isName_seconds hseconds
    exact (Fits.literal (show IsName 11 "dup_seconds" by decide) hname).mono le_rfl hlength le_rfl

/-- A parameter with a fixed value that may be absent. -/
theorem Fits.ite {condition : Prop} [Decidable condition] {params : List (String × String)}
    {names values count : ℕ} (h : Fits params names values count) :
    Fits (if condition then params else []) names values count := by
  split_ifs
  · exact h
  · exact Fits.nil.mono (Nat.zero_le _) (Nat.zero_le _) (Nat.zero_le _)

/-- The parameters of a sale: their names take at most 269 octets, and their values 62 more than
what the validator counts. -/
theorem fits_classicSaleForm (client : ClientSettings) (request : OutgoingSaleRequest)
    {amount : String} (hamount : amountString request.amountCents.toInt = .ok amount) :
    Fits (classicSaleForm client request amount) 269
      (encodedFormComponentBytes client.privateApiKey + saleBytes .form request + 62) 25 := by
  obtain ⟨length, hlength, hname⟩ := isName_amount hamount
  have hkey := Fits.single (show IsName 12 "security_key" by decide) client.privateApiKey
  have htype : Fits [("type", "sale")] 4 4 1 := Fits.literal (by decide) (by decide)
  have hprice := Fits.literal (show IsName 6 "amount" by decide) hname
  have hcurrency := Fits.single (show IsName 8 "currency" by decide) request.currency
  have horder := Fits.trimmed (show IsName 7 "orderid" by decide) request.orderId
  have hvault : Fits (if request.vaultAction = some .addCustomer then
      [("customer_vault", "add_customer")] else []) 14 12 1 :=
    Fits.ite (Fits.literal (by decide) (by decide))
  have hcredential := Fits.optional fits_classicCredentialParams request.storedCredential
  have hcontact : Fits ((request.billingContact.map classicBillingContactParams).getD []) 59
      ((request.billingContact.map (contactBytes .form)).getD 0 + 0) 9 :=
    Fits.optional fits_classicBillingContactParams request.billingContact
  have hdescriptor : Fits ((request.descriptor.map classicStatementDescriptorParams).getD []) 40
      ((request.descriptor.map (descriptorBytes .form)).getD 0 + 0) 3 :=
    Fits.optional fits_classicStatementDescriptorParams request.descriptor
  have hreceipt : Fits (if client.customerReceiptsDisabled = true then
      [("customer_receipt", "false")] else []) 16 5 1 :=
      Fits.ite (Fits.literal (by decide) (by decide))
  have hparams := ((((((((hkey.append (htype.append (hprice.append hcurrency))).append
    (fits_dupSeconds client.duplicateCheck)).append horder).append
    (fits_classicSourceParams request.source)).append hvault).append hcredential).append
    hcontact).append hdescriptor).append hreceipt
  refine hparams.mono (by omega) ?_ (by omega)
  unfold saleBytes
  show _ ≤ _ + (encodedFormComponentBytes request.currency + _ + _ + _ + _ + _) + 62
  omega

/-- The octets of a form, by its names and values. -/
theorem byteLen_formBody_le_of_fits {params : List (String × String)} {names values count : ℕ}
    (h : Fits params names values count) :
    byteLen (formBody params) ≤ names + values + 2 * count := by
  obtain ⟨hnames, hvalues, hcount⟩ := h
  have hbody := byteLen_formBody_le params
  have hsum : (params.map fun pair =>
      byteLen (formComponent pair.1) + byteLen (formComponent pair.2) + 2).sum =
        (params.map fun param => encodedFormComponentBytes param.1).sum +
          (params.map fun param => encodedFormComponentBytes param.2).sum + 2 * params.length := by
    simp only [encodedFormComponentBytes_eq]
    clear * -
    induction params with
    | nil => rfl
    | cons param params ih =>
      simp only [List.map_cons, List.sum_cons, List.length_cons]
      omega
  omega

/-- The octets that the check of a form counts. -/
def formRequestBytes (params : List (String × String)) : ℕ :=
  maxNmiFixedRequestBytes +
    (params.map fun param =>
      encodedFormComponentBytes param.1 + encodedFormComponentBytes param.2).sum

/-- The check of a form with a budget that is already used. -/
theorem foldlM_addFormPair_eq_ok (params : List (String × String))
    (budget : OutboundRequestBudget) :
    (∃ budget', params.foldlM OutboundRequestBudget.addFormPair budget = .ok budget') ↔
      budget.encodedBytes + (params.map fun param =>
        encodedFormComponentBytes param.1 + encodedFormComponentBytes param.2).sum ≤
          maxNmiOutboundRequestBytes := by
  induction params generalizing budget with
  | nil =>
    rw [List.map_nil, List.sum_nil]
    exact iff_of_true ⟨budget, rfl⟩ budget.bounded
  | cons param params ih =>
    rw [List.foldlM_cons, List.map_cons, List.sum_cons]
    constructor
    · rintro ⟨budget', h⟩
      obtain ⟨paired, hpair, hrest⟩ := bind_eq_ok.mp h
      obtain ⟨named, hname, hvalue⟩ := bind_eq_ok.mp hpair
      have hname : named.encodedBytes = budget.encodedBytes + encodedFormComponentBytes param.1 :=
        addBytes_eq_ok.mp hname
      have hvalue : paired.encodedBytes = named.encodedBytes + encodedFormComponentBytes param.2 :=
        addBytes_eq_ok.mp hvalue
      have hfits := (ih paired).mp ⟨budget', hrest⟩
      omega
    · intro hfits
      have hname : budget.addEncodedValue .form param.1 =
          .ok ⟨budget.encodedBytes + encodedFormComponentBytes param.1, by omega⟩ :=
        addBytes_eq_ok.mpr rfl
      have hvalue : OutboundRequestBudget.addEncodedValue
          ⟨budget.encodedBytes + encodedFormComponentBytes param.1, by omega⟩ .form param.2 =
          .ok ⟨budget.encodedBytes + encodedFormComponentBytes param.1 +
            encodedFormComponentBytes param.2, by omega⟩ :=
        addBytes_eq_ok.mpr rfl
      obtain ⟨budget', hrest⟩ := (ih ⟨budget.encodedBytes + encodedFormComponentBytes param.1 +
        encodedFormComponentBytes param.2, by omega⟩).mpr (by dsimp only; omega)
      exact ⟨budget', bind_eq_ok.mpr ⟨_, bind_eq_ok.mpr ⟨_, hname, hvalue⟩, hrest⟩⟩

/-- A budget has one error. -/
theorem addBytes_eq_error {budget : OutboundRequestBudget} {bytes : ℕ} {error : String}
    (h : budget.addBytes bytes = .error error) : error = outboundSizeError := by
  unfold OutboundRequestBudget.addBytes at h
  split_ifs at h
  exact (Except.error.inj h).symm

/-- The error of the check of a form. -/
theorem foldlM_addFormPair_eq_error {params : List (String × String)}
    {budget : OutboundRequestBudget} {error : String}
    (h : params.foldlM OutboundRequestBudget.addFormPair budget = .error error) :
    error = outboundSizeError := by
  induction params generalizing budget with
  | nil => cases h
  | cons param params ih =>
    rcases bind_eq_error h with hpair | ⟨paired, -, hrest⟩
    · rcases bind_eq_error hpair with hname | ⟨named, -, hvalue⟩
      · exact addBytes_eq_error hname
      · exact addBytes_eq_error hvalue
    · exact ih hrest

/-- The check of a form accepts the forms that fit above the reserve, and has one error for the
others. -/
theorem ensureFormRequestIsBounded_eq (params : List (String × String)) :
    ensureFormRequestIsBounded params =
      if formRequestBytes params ≤ maxNmiOutboundRequestBytes then .ok ()
      else .error (.localInvalidRequest outboundSizeError) := by
  have hnew : OutboundRequestBudget.new = .ok ⟨maxNmiFixedRequestBytes, by decide⟩ := rfl
  have hfold := foldlM_addFormPair_eq_ok params ⟨maxNmiFixedRequestBytes, by decide⟩
  unfold ensureFormRequestIsBounded formRequestBytes
  rw [hnew]
  show ((params.foldlM OutboundRequestBudget.addFormPair _).map fun _ => ()).mapError _ = _
  cases hresult : params.foldlM OutboundRequestBudget.addFormPair
      ⟨maxNmiFixedRequestBytes, by decide⟩ with
  | error e =>
    rw [if_neg fun hle => ?_, foldlM_addFormPair_eq_error hresult]
    · rfl
    · obtain ⟨budget', hok⟩ := hfold.mpr hle
      rw [hresult] at hok
      cases hok
  | ok budget =>
    rw [if_pos (hfold.mp ⟨budget, hresult⟩)]
    rfl

/-! ## The v5 body -/

/-- Members that are set and add at most so many octets. -/
def Grows (set : JsonMembers → JsonMembers) (bytes : ℕ) : Prop :=
  ∀ members, byteLen (set members).render ≤ byteLen members.render + bytes

/-- A member that is set. -/
theorem Grows.insert {length : ℕ} {name : String} (hname : IsName length name) {value : Json}
    {bytes : ℕ} (hvalue : byteLen value.render ≤ bytes) :
    Grows (fun members => members.insert name value) (length + 4 + bytes) := by
  have hbytes := valueBytes_of_isName .json hname
  have hlength : encodedJsonStringBytes name = 2 + length := hbytes
  rw [encodedJsonStringBytes_eq] at hlength
  intro members
  have hinsert := byteLen_insert_le name value members
  dsimp only
  omega

/-- Members that are set, and then others. -/
theorem Grows.comp {set set' : JsonMembers → JsonMembers} {bytes bytes' : ℕ} (h : Grows set bytes)
    (h' : Grows set' bytes') : Grows (fun members => set' (set members)) (bytes + bytes') := by
  intro members
  have hfirst := h members
  have hsecond := h' (set members)
  dsimp only
  omega

/-- Members that may be set. -/
theorem Grows.optional {α : Type} {set : Option α → JsonMembers → JsonMembers} {bytes : α → ℕ}
    {fixed : ℕ} (hnone : set none = id)
    (hsome : ∀ part, Grows (set (some part)) (bytes part + fixed)) (part : Option α) :
    Grows (set part) ((part.map bytes).getD 0 + fixed) := by
  intro members
  cases part with
  | none =>
    rw [hnone]
    exact Nat.le_add_right _ _
  | some part => exact hsome part members

/-- An object of members that are set. -/
theorem Grows.object {set : JsonMembers → JsonMembers} {bytes : ℕ} (h : Grows set bytes) :
    byteLen (Json.object (set .nil)).render ≤ bytes + 2 := by
  have hempty : byteLen JsonMembers.nil.render = 0 := rfl
  have hset := h .nil
  have hobject := byteLen_object_le (set .nil)
  omega

/-- A string value. -/
theorem byteLen_render_string (value : String) :
    byteLen (Json.string value).render = RequestEncoding.json.valueBytes value := by
  rw [Json.render]
  exact (encodedJsonStringBytes_eq value).symm

/-- A trimmed string value takes what is counted for it, or two quotes. -/
theorem byteLen_render_trim (value : String) :
    byteLen (Json.string (trim value)).render ≤
      RequestEncoding.json.optionalBytes (some value) + 2 := by
  rw [byteLen_render_string]
  by_cases hblank : trim value = ""
  · have hempty : RequestEncoding.json.valueBytes "" = 2 := rfl
    rw [hblank, hempty]
    exact Nat.le_add_left _ _
  · rw [optionalBytes_some, if_neg hblank]
    exact Nat.le_add_right _ _

/-- The member of a value that may be absent. -/
theorem Grows.setOptional {length : ℕ} {name : String} (hname : IsName length name)
    (value : Option String) :
    Grows (setOptional name value) (length + 4 + RequestEncoding.json.optionalBytes value) := by
  unfold Nmi.setOptional RequestEncoding.optionalBytes
  cases trimmedOptional value with
  | none => exact fun members => Nat.le_add_right _ _
  | some value => exact Grows.insert hname (byteLen_render_string value).le

/-- The members of an address. -/
theorem grows_setAddress (address : BillingAddress) :
    Grows (setAddress address) (addressBytes .json address + 61) := by
  have hcountry : byteLen (Json.string (trim address.country)).render ≤
      RequestEncoding.json.valueBytes address.country := by
    rw [byteLen_render_string]
    exact valueBytes_trim_le .json address.country
  have hset := (((((Grows.insert (show IsName 8 "address1" by decide)
    (byteLen_render_trim address.address1)).comp
    (.setOptional (show IsName 8 "address2" by decide) address.address2)).comp
    (.setOptional (show IsName 4 "city" by decide) address.city)).comp
    (.setOptional (show IsName 5 "state" by decide) address.state)).comp
    (.setOptional (show IsName 3 "zip" by decide) address.zip)).comp
    (.insert (show IsName 7 "country" by decide) hcountry)
  intro members
  have hmembers := hset members
  unfold addressBytes
  exact hmembers.trans (by omega)

/-- The address of a contact. -/
theorem byteLen_billingAddressJson (contact : BillingContact) :
    byteLen (billingAddressJson contact).render ≤ contactBytes .json contact + 99 := by
  have haddress : Grows (setOptionalAddress contact.address)
      ((contact.address.map (addressBytes .json)).getD 0 + 61) :=
    Grows.optional rfl grows_setAddress contact.address
  have hset := (((Grows.setOptional (show IsName 10 "first_name" by decide) contact.firstName).comp
    (.setOptional (show IsName 9 "last_name" by decide) contact.lastName)).comp
    (.setOptional (show IsName 5 "email" by decide) contact.email)).comp haddress
  have hobject := hset.object
  unfold contactBytes
  exact hobject.trans (by omega)

/-- The payment details of a body. -/
theorem byteLen_paymentDetailsJson (source : PaymentSource) :
    byteLen (paymentDetailsJson source).render ≤ sourceBytes .json source + 23 := by
  cases source with
  | paymentToken token =>
    have hobject := (Grows.insert (show IsName 13 "payment_token" by decide)
      (byteLen_render_string token).le).object
    exact hobject.trans (by dsimp only [sourceBytes]; omega)
  | customerVault customerVaultId =>
    have hobject := (Grows.insert (show IsName 17 "customer_vault_id" by decide)
      (byteLen_render_string customerVaultId).le).object
    exact hobject.trans (by dsimp only [sourceBytes]; omega)

/-- The order details of a body. -/
theorem byteLen_orderDetailsJson (orderId : String) :
    byteLen (orderDetailsJson orderId).render ≤
      RequestEncoding.json.optionalBytes (some orderId) + 10 := by
  have hobject := (Grows.insert (show IsName 2 "id" by decide) (byteLen_render_trim orderId)).object
  exact hobject.trans (by omega)

/-- A fixed string value. -/
theorem byteLen_render_name {length : ℕ} {name : String} (h : IsName length name) :
    byteLen (Json.string name).render ≤ length + 2 := by
  have hbytes := valueBytes_of_isName .json h
  rw [byteLen_render_string, hbytes]
  exact (Nat.add_comm _ _).le

/-- The stored credential of a body. -/
theorem byteLen_citMitJson (credential : StoredCredential) :
    byteLen (citMitJson credential).render ≤ storedCredentialBytes .json credential + 93 := by
  cases credential with
  | initialCustomer =>
    have hobject := ((Grows.insert (show IsName 27 "stored_credential_indicator" by decide)
      (byteLen_render_name (show IsName 6 "stored" by decide))).comp
      (.insert (show IsName 12 "initiated_by" by decide)
        (byteLen_render_name (show IsName 8 "customer" by decide)))).object
    exact hobject.trans (by omega)
  | recurringMerchant initialTransactionId =>
    have hobject := (((Grows.insert (show IsName 27 "stored_credential_indicator" by decide)
      (byteLen_render_name (show IsName 4 "used" by decide))).comp
      (.insert (show IsName 12 "initiated_by" by decide)
        (byteLen_render_name (show IsName 8 "merchant" by decide)))).comp
      (.insert (show IsName 22 "initial_transaction_id" by decide)
        (byteLen_render_string initialTransactionId).le)).object
    exact hobject.trans (by dsimp only [storedCredentialBytes]; omega)

/-- The members of a stored credential. -/
theorem grows_setCredential (credential : Option StoredCredential) :
    Grows (setCredential credential)
      ((credential.map (storedCredentialBytes .json)).getD 0 + 153) := by
  have hmethod : byteLen customerVaultJson.render ≤ 31 :=
    ((Grows.insert (show IsName 14 "billing_method" by decide)
      (byteLen_render_name (show IsName 9 "recurring" by decide))).object).trans (by omega)
  refine Grows.optional rfl (fun credential => ?_) credential
  have hset := (Grows.insert (show IsName 14 "customer_vault" by decide) hmethod).comp
    (.insert (show IsName 7 "cit_mit" by decide) (byteLen_citMitJson credential))
  exact fun members => (hset members).trans (by omega)

/-- The duplicate check of a body. -/
theorem grows_setDupSeconds (duplicateCheck : DuplicateCheck) :
    Grows (setDupSeconds duplicateCheck.wireSeconds) 22 := by
  cases hseconds : duplicateCheck.wireSeconds with
  | none => exact fun members => Nat.le_add_right _ _
  | some seconds =>
    obtain ⟨length, hlength, hplain, heq⟩ := isName_seconds hseconds
    have hvalue : byteLen (Json.number seconds).render ≤ 7 := by
      rw [Json.render, byteLen_of_ascii fun c hc => lt_of_isNameCharacter
        (List.all_eq_true.mp hplain c hc)]
      omega
    exact Grows.insert (show IsName 11 "dup_seconds" by decide) hvalue

/-- The contact of a body. -/
theorem grows_setContact (contact : Option BillingContact) :
    Grows (setContact contact) ((contact.map (contactBytes .json)).getD 0 + 118) := by
  refine Grows.optional rfl (fun contact => ?_) contact
  have hset := Grows.insert (show IsName 15 "billing_address" by decide)
    (byteLen_billingAddressJson contact)
  exact fun members => (hset members).trans (by omega)

/-- The body of a sale takes at most 462 octets more than what the validator counts. -/
theorem byteLen_v5SaleBody (client : ClientSettings) (request : OutgoingSaleRequest)
    {amount : String} (hamount : amountString request.amountCents.toInt = .ok amount) :
    byteLen (v5SaleBody client request amount).render ≤ saleBytes .json request + 462 := by
  obtain ⟨length, hlength, hname⟩ := isName_amount hamount
  have hbody :=
    ((((((Grows.insert (show IsName 6 "amount" by decide) (byteLen_render_name hname)).comp
      (.insert (show IsName 8 "currency" by decide)
        (byteLen_render_string request.currency).le)).comp
    (.insert (show IsName 15 "payment_details" by decide)
      (byteLen_paymentDetailsJson request.source))).comp
    (.insert (show IsName 13 "order_details" by decide)
      (byteLen_orderDetailsJson request.orderId))).comp
    (grows_setDupSeconds client.duplicateCheck)).comp
    (grows_setContact request.billingContact)).comp
    (grows_setCredential request.storedCredential)
  have hreceipt := Grows.insert (show IsName 16 "customer_receipt" by decide)
    (show byteLen (Json.bool false).render ≤ 5 by decide)
  unfold v5SaleBody saleBytes
  dsimp only
  split_ifs
  · exact ((hbody.comp hreceipt).object).trans (by omega)
  · exact hbody.object.trans (by omega)

/-! ## Accepted sales -/

/-- The budget of an accepted sale, and the amount that is sent. -/
theorem of_validateSaleRequest {request : OutgoingSaleRequest} {privateApiKey : String}
    (h : validateSaleRequest request privateApiKey = .ok ()) :
    request.currency = "USD" ∧ (∃ amount, amountString request.amountCents.toInt = .ok amount) ∧
      maxNmiFixedRequestBytes + (saleEncoding request.toSaleRequest).credentialBytes privateApiKey +
        saleBytes (saleEncoding request.toSaleRequest) request ≤ maxNmiOutboundRequestBytes := by
  have hensure {condition : Bool} {error : String} (h : ensure condition error = .ok ()) :
      condition = true := by
    unfold ensure at h
    split_ifs at h with hcondition
    exact hcondition
  unfold validateSaleRequest at h
  cases hchecks : saleRequestChecks request privateApiKey with
  | error e =>
    rw [hchecks] at h
    cases h
  | ok _ =>
    obtain ⟨validator, hsize, hchecks⟩ := bind_eq_ok.mp hchecks
    obtain ⟨_, hamount, hchecks⟩ := bind_eq_ok.mp hchecks
    obtain ⟨_, hcurrency, -⟩ := bind_eq_ok.mp hchecks
    have hpos : 0 < request.amountCents.toInt := of_decide_eq_true (hensure hamount)
    refine ⟨of_decide_eq_true (hensure hcurrency), ?_, bytes_of_validateSaleRequestSize hsize⟩
    unfold amountString
    rw [if_neg (by omega)]
    exact ⟨_, rfl⟩

/-- The octets that the check of a form counts, by its names and values. -/
theorem formRequestBytes_le_of_fits {params : List (String × String)} {names values count : ℕ}
    (h : Fits params names values count) :
    formRequestBytes params ≤ maxNmiFixedRequestBytes + names +
      (params.map fun param => encodedFormComponentBytes param.2).sum := by
  have hsum : (params.map fun param =>
      encodedFormComponentBytes param.1 + encodedFormComponentBytes param.2).sum =
        (params.map fun param => encodedFormComponentBytes param.1).sum +
          (params.map fun param => encodedFormComponentBytes param.2).sum := by
    clear * -
    induction params with
    | nil => rfl
    | cons param params ih =>
      simp only [List.map_cons, List.sum_cons]
      omega
  have hnames := h.names_le
  unfold formRequestBytes
  omega

/-- What is handed to the transport of a sale that passed its checks. -/
theorem prepareSale_of_accepted {client : ClientSettings} {request : OutgoingSaleRequest}
    {amount : String} (h : validateSaleRequest request client.privateApiKey = .ok ())
    (hamount : amountString request.amountCents.toInt = .ok amount) :
    prepareSale client request =
      if saleUsesClassicForm request.toSaleRequest then
        if formRequestBytes (classicSaleForm client request amount) ≤
          maxNmiOutboundRequestBytes then
          .ok (.classicForm (classicSaleForm client request amount))
        else .error (.invalidRequest outboundSizeError)
      else .ok (.v5Sale client.privateApiKey (v5SaleBody client request amount)) := by
  obtain ⟨hcurrency, -, -⟩ := of_validateSaleRequest h
  have hsupported : ensureSupportedSaleCurrency request.currency = .ok () := if_pos hcurrency
  unfold prepareSale prepareSaleWire
  rw [h, hsupported, hamount]
  show Except.mapError WireError.intoMutation (if saleUsesClassicForm request.toSaleRequest then
    ensureFormRequestIsBounded (classicSaleForm client request amount) >>= fun _ =>
      pure (OutboundRequest.classicForm (classicSaleForm client request amount)) else _) = _
  rw [ensureFormRequestIsBounded_eq]
  split_ifs <;> rfl

/-- A sale that passes its checks fits the outbound limit as it is sent, with its credential. A v5
sale is handed to the transport. A Classic form is handed to it exactly when its names and values
fit above the reserve once more, as they do when the values alone leave room for the names;
otherwise it is a local error and nothing is sent. The sizes that the budget computes are the
lengths of the encoded texts. -/
theorem accepted_sale_fits :
    (∀ (client : ClientSettings) (request : OutgoingSaleRequest),
      validateSaleRequest request client.privateApiKey = .ok () →
        ∃ amount, amountString request.amountCents.toInt = .ok amount ∧
          (saleUsesClassicForm request.toSaleRequest = false →
            ∃ sent, sent = .v5Sale client.privateApiKey (v5SaleBody client request amount) ∧
              sent.bytes ≤ maxNmiOutboundRequestBytes ∧ prepareSale client request = .ok sent) ∧
          (saleUsesClassicForm request.toSaleRequest = true →
            ∃ params, params = classicSaleForm client request amount ∧
              (OutboundRequest.classicForm params).bytes ≤ maxNmiOutboundRequestBytes ∧
              (formRequestBytes params ≤ maxNmiOutboundRequestBytes →
                ensureFormRequestIsBounded params = .ok () ∧
                  prepareSale client request = .ok (.classicForm params)) ∧
              (maxNmiOutboundRequestBytes < formRequestBytes params →
                prepareSale client request = .error (.invalidRequest outboundSizeError)) ∧
              (maxNmiFixedRequestBytes + 269 +
                (params.map fun param => encodedFormComponentBytes param.2).sum ≤
                  maxNmiOutboundRequestBytes →
                formRequestBytes params ≤ maxNmiOutboundRequestBytes))) ∧
      ∀ value : String, encodedFormComponentBytes value = byteLen (formComponent value) ∧
        encodedJsonStringBytes value = byteLen (jsonString value) := by
  constructor
  · intro client request h
    obtain ⟨-, ⟨amount, hamount⟩, hbytes⟩ := of_validateSaleRequest h
    have hprepare := prepareSale_of_accepted h hamount
    have hreserve : maxNmiFixedRequestBytes = 1024 := rfl
    refine ⟨amount, hamount, fun hv5 => ⟨_, rfl, ?_, ?_⟩, fun hclassic => ⟨_, rfl, ?_, ?_, ?_, ?_⟩⟩
    -- A v5 sale: the text is exactly the counted body, and the credential is a header.
    · have hencoding : saleEncoding request.toSaleRequest = .json := by
        unfold saleEncoding
        rw [if_neg (by rw [hv5]; exact Bool.false_ne_true)]
      have hbody := byteLen_v5SaleBody client request hamount
      have hname : byteLen "authorization: ".toList = 15 := by decide
      have hend : byteLen "\r\n".toList = 2 := by decide
      rw [hencoding] at hbytes
      unfold RequestEncoding.credentialBytes at hbytes
      unfold OutboundRequest.bytes
      dsimp only at hbytes ⊢
      rw [byteLen_append, byteLen_append, hname, hend]
      omega
    · rw [hprepare, if_neg (by rw [hv5]; exact Bool.false_ne_true)]
    -- A Classic sale: the form fits its fields and the fixed reserve.
    · have hencoding : saleEncoding request.toSaleRequest = .form := if_pos hclassic
      have hbody := byteLen_formBody_le_of_fits (fits_classicSaleForm client request hamount)
      rw [hencoding] at hbytes
      unfold RequestEncoding.credentialBytes at hbytes
      unfold OutboundRequest.bytes
      dsimp only at hbytes ⊢
      omega
    · intro hfits
      rw [hprepare, if_pos hclassic, if_pos hfits, ensureFormRequestIsBounded_eq, if_pos hfits]
      exact ⟨rfl, rfl⟩
    · intro hover
      rw [hprepare, if_pos hclassic, if_neg (by omega)]
    -- Beside the values, the second check counts the reserve and at most 269 octets of names.
    · intro hvalues
      have hcount := formRequestBytes_le_of_fits (fits_classicSaleForm client request hamount)
      omega
  · intro value
    exact ⟨encodedFormComponentBytes_eq value, encodedJsonStringBytes_eq value⟩

/-- A sale of one dollar that stores its payment token. -/
def tokenSale (token : String) : OutgoingSaleRequest where
  source := .paymentToken token
  vaultAction := some .addCustomer
  storedCredential := none
  amountCents := 100
  currency := "USD"
  orderId := "order"
  billingContact := none
  descriptor := none

/-- A client with a key and without further settings. -/
def plainClient (privateApiKey : String) : ClientSettings where
  privateApiKey := privateApiKey
  duplicateCheck := .processorConfigured
  customerReceiptsDisabled := false

/-- A small sale is accepted, and its form is handed to the transport. -/
theorem accepted_sale_fits_token :
    validateSaleRequest (tokenSale "token") "key" = .ok () ∧
      prepareSale (plainClient "key") (tokenSale "token") =
        .ok (.classicForm (classicSaleForm (plainClient "key") (tokenSale "token") "1.00")) := by
  have haccepted : validateSaleRequest (tokenSale "token") "key" = .ok () := rfl
  obtain ⟨amount, hamount, -, hclassic⟩ :=
    accepted_sale_fits.1 (plainClient "key") (tokenSale "token") haccepted
  obtain rfl : amount = "1.00" := (Except.ok.inj hamount).symm
  obtain ⟨params, rfl, -, hfits, -⟩ := hclassic rfl
  exact ⟨haccepted, (hfits (by decide +kernel)).2⟩

/-- The size of a text of one character. -/
theorem valueBytes_replicate (encoding : RequestEncoding) (n : ℕ) (c : Char) :
    encoding.valueBytes (String.ofList (List.replicate n c)) =
      encoding.quoteBytes + n * encoding.charBytes c := by
  rw [valueBytes_eq, String.toList_ofList, List.map_replicate, List.sum_replicate_nat]

/-- The length of a text of one ASCII character. -/
theorem byteLen_replicate {c : Char} (h : c.toNat < 128) (n : ℕ) :
    byteLen (String.ofList (List.replicate n c)).toList = n := by
  rw [String.toList_ofList,
    byteLen_of_ascii fun d hd => by
      rw [List.eq_of_mem_replicate hd]; exact h, List.length_replicate]

/-- A value that is within its bound and fits the budget. -/
theorem field_eq_ok {validator : OutboundRequestValidator} {value : String} {maxBytes : ℕ}
    (error : String) (hlength : byteLen value.toList ≤ maxBytes) {bytes : ℕ}
    (hbytes : validator.budget.encodedBytes + validator.encoding.valueBytes value = bytes)
    (hfits : bytes ≤ maxNmiOutboundRequestBytes) :
    validator.field value maxBytes error = .ok ⟨validator.encoding, ⟨bytes, hfits⟩⟩ := by
  subst hbytes
  unfold OutboundRequestValidator.field ensure OutboundRequestValidator.add
    OutboundRequestBudget.addEncodedValue OutboundRequestBudget.addBytes
  rw [if_pos (decide_eq_true hlength), dif_pos hfits]
  rfl

/-- A sale whose token has 3000 octets passes its checks with a key of 12288 encoded octets. -/
theorem validateSaleRequest_large {key token : String}
    (hkey : encodedFormComponentBytes key = 12288) (htoken : encodedFormComponentBytes token = 3000)
    (hlength : byteLen token.toList ≤ 4096) (htrim : trim token ≠ "") :
    validateSaleRequest (tokenSale token) key = .ok () := by
  have hbudget : OutboundRequestBudget.addBytes ⟨1024, by decide⟩ (encodedFormComponentBytes key) =
      .ok ⟨13312, by decide⟩ := addBytes_eq_ok.mpr (by dsimp only; omega)
  have hnew : OutboundRequestValidator.new .form key = .ok ⟨.form, ⟨13312, by decide⟩⟩ :=
    bind_eq_ok.mpr ⟨⟨1024, by decide⟩, rfl, bind_eq_ok.mpr ⟨_, hbudget, rfl⟩⟩
  have hcurrency : OutboundRequestValidator.field ⟨.form, ⟨13312, by decide⟩⟩ "USD" 3
      "payment currency must be USD" = .ok ⟨.form, ⟨13315, by decide⟩⟩ := rfl
  have horder : OutboundRequestValidator.trimmedField ⟨.form, ⟨13315, by decide⟩⟩ "order" 512
      "payment order ID exceeds the supported size" = .ok ⟨.form, ⟨13320, by decide⟩⟩ := rfl
  have hsource : validateSource (.paymentToken token) ⟨.form, ⟨13320, by decide⟩⟩ =
      .ok ⟨.form, ⟨16320, by decide⟩⟩ :=
    field_eq_ok _ hlength (by show 13320 + encodedFormComponentBytes token = 16320; omega) _
  have hsize : validateSaleRequestSize (tokenSale token) key = .ok ⟨.form, ⟨16320, by decide⟩⟩ :=
    bind_eq_ok.mpr ⟨_, hnew, bind_eq_ok.mpr ⟨_, hcurrency, bind_eq_ok.mpr ⟨_, horder,
      bind_eq_ok.mpr ⟨_, hsource, rfl⟩⟩⟩⟩
  have hid : ensure (trim "order" ≠ "") "payment order ID is required" = .ok () :=
    if_pos (by decide +kernel)
  have hrequired : ensure (trim token ≠ "") "payment token is required" = .ok () :=
    if_pos (decide_eq_true htrim)
  have hchecks : saleRequestChecks (tokenSale token) key = .ok () :=
    bind_eq_ok.mpr ⟨_, hsize, bind_eq_ok.mpr ⟨(), rfl, bind_eq_ok.mpr ⟨(), rfl,
      bind_eq_ok.mpr ⟨(), hid, bind_eq_ok.mpr ⟨(), hrequired, rfl⟩⟩⟩⟩⟩
  unfold validateSaleRequest
  rw [hchecks]
  rfl

/-- What the check of the form of such a sale counts. -/
theorem formRequestBytes_large (key token : String) :
    formRequestBytes (classicSaleForm (plainClient key) (tokenSale token) "1.00") =
      1116 + encodedFormComponentBytes key + encodedFormComponentBytes token := by
  have hname {length : ℕ} {name : String} (h : IsName length name) :
      encodedFormComponentBytes name = 0 + length := valueBytes_of_isName .form h
  have hid : trim "order" = "order" := by decide +kernel
  have hparams : classicSaleForm (plainClient key) (tokenSale token) "1.00" =
      [("security_key", key), ("type", "sale"), ("amount", "1.00"), ("currency", "USD"),
        ("orderid", trim "order"), ("payment_token", token), ("customer_vault", "add_customer")] :=
        rfl
  unfold formRequestBytes
  rw [hparams, hid]
  simp only [List.map_cons, List.map_nil, List.sum_cons, List.sum_nil, maxNmiFixedRequestBytes,
    hname (show IsName 12 "security_key" by decide), hname (show IsName 4 "type" by decide),
    hname (show IsName 4 "sale" by decide), hname (show IsName 6 "amount" by decide),
    hname (show IsName 4 "1.00" by decide), hname (show IsName 8 "currency" by decide),
    hname (show IsName 3 "USD" by decide), hname (show IsName 7 "orderid" by decide),
    hname (show IsName 5 "order" by decide), hname (show IsName 13 "payment_token" by decide),
    hname (show IsName 14 "customer_vault" by decide),
      hname (show IsName 12 "add_customer" by decide)]
  omega

/-- A key of the greatest length, where each character is escaped. -/
def percentKey : String := String.ofList (List.replicate 4096 '%')

/-- A token of 3000 letters. -/
def letterToken : String := String.ofList (List.replicate 3000 'a')

/-- A key of 4096 percent signs and a token of 3000 letters pass the checks, and the form is
refused. The values of the sale leave room below the limit, and the names take more than that. -/
theorem accepted_form_refused :
    validateSaleRequest (tokenSale letterToken) percentKey = .ok () ∧
      saleUsesClassicForm (tokenSale letterToken).toSaleRequest = true ∧
      amountString (tokenSale letterToken).amountCents.toInt = .ok "1.00" ∧
      ensureFormRequestIsBounded
          (classicSaleForm (plainClient percentKey) (tokenSale letterToken) "1.00") =
        .error (.localInvalidRequest outboundSizeError) := by
  have hkey : encodedFormComponentBytes percentKey = 12288 := valueBytes_replicate .form 4096 '%'
  have htoken : encodedFormComponentBytes letterToken = 3000 := valueBytes_replicate .form 3000 'a'
  have hlength : byteLen letterToken.toList ≤ 4096 := by
    unfold letterToken
    rw [byteLen_replicate (by decide)]
    omega
  have hblank : trim letterToken ≠ "" := by
    have htrim : trim letterToken = letterToken := by
      refine trim_eq fun c hc => ?_
      unfold letterToken at hc
      rw [String.toList_ofList] at hc
      rw [List.eq_of_mem_replicate hc]
      decide
    rw [htrim]
    intro hempty
    rw [hempty] at htoken
    exact absurd htoken (by decide)
  have hamount : amountString (100 : Int32).toInt = .ok "1.00" := by decide +kernel
  have hbytes := formRequestBytes_large percentKey letterToken
  rw [hkey, htoken] at hbytes
  refine ⟨validateSaleRequest_large hkey htoken hlength hblank, rfl, hamount, ?_⟩
  rw [ensureFormRequestIsBounded_eq, hbytes, if_neg (by decide)]

end SyrupRail.Nmi
