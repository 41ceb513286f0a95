import SyrupRail.Discount.Enrollment

/-!
# Matches with legacy fingerprints

`matches_subscription_initial_expected_terms_v1` tests whether a stored text ends with the text of
the expected terms, behind the keyword `expected`. The stored text has plan keys and discount codes
in it that users choose, but none of its fields has a colon, so a text ends with others exactly if
its fields do (`suffix_iff`). The last eleven fields are then those of a discount, or the last four
those of a full price, and a month count or a currency is never taken for a keyword.
-/

namespace SyrupRail

open Fields RustText Enrollment

namespace DisplayTexts

/-- A text of fields ends with a text of fields, behind a colon, exactly if the one list ends with
the other and has a field before it. -/
theorem suffix_iff {fields last : List String} (hfields : ∀ field ∈ fields, Colonless field)
    (hlast : ∀ field ∈ last, Colonless field) (hne : fields ≠ []) (hne' : last ≠ []) :
    (":" ++ ":".intercalate last).toList <:+ (":".intercalate fields).toList ↔
      ∃ front, front ≠ [] ∧ fields = front ++ last := by
  constructor
  · rintro ⟨before, hbefore⟩
    have hsplit : (":".intercalate fields).toList.splitOn ':' =
        before.splitOn ':' ++ (":".intercalate last).toList.splitOn ':' := by
      have hcolon : (":" : String).toList = [':'] := by decide
      rw [← hbefore, String.toList_append, hcolon, List.singleton_append,
        List.splitOn_append_cons_self]
    have hparts : fields.map String.toList = before.splitOn ':' ++ last.map String.toList := by
      rw [← parts_intercalate hfields hne, ← parts_intercalate hlast hne']
      exact hsplit
    obtain ⟨front, back, hsplit, hfront, hback⟩ := List.map_eq_append_iff.mp hparts
    refine ⟨front, ?_, by rw [hsplit, map_toList_injective hback]⟩
    rintro rfl
    exact List.splitOn_ne_nil ':' before hfront.symm
  · rintro ⟨front, hfront, rfl⟩
    refine ⟨(":".intercalate front).toList, ?_⟩
    rw [String.intercalate_append_of_ne_nil hfront hne', String.append_assoc,
      ← String.toList_append]

/-- `matches_subscription_initial_expected_terms_v1`. -/
def matchesSubscriptionInitialExpectedTermsV1 (stored : String) (planKey : PlanKey)
    (expected : SubscriptionEnrollmentExpectedTerms) : Bool :=
  if expected.offer.val.planKey ≠ planKey.val then false
  else
    let expectedFingerprint :=
      ":".intercalate (expectedFields expected.initialCharge expected.discountSnapshot)
    (":expected:" ++ expectedFingerprint).toList.isSuffixOf stored.toList

/-- The fields of two discounts are the same exactly if their charge terms are. -/
theorem expectedFields_some_iff {amount amount' : Money}
    {snapshot other : SubscriptionDiscountSnapshot} :
    expectedFields amount (some snapshot) = expectedFields amount' (some other) ↔
      hasSameChargeTerms snapshot other = true := by
  simp only [expectedFields, hasSameChargeTerms, List.cons.injEq, and_true, true_and,
    Bool.and_eq_true, decide_eq_true_eq]
  constructor
  · rintro ⟨hcode, hkind, hamount, hpercent, hduration, hmonths, hcurrency, hbase, hdiscounted⟩
    have hdiscountedCurrency : snapshot.discountedCharge.currency =
        other.discountedCharge.currency := by
      rw [← snapshot.currency_eq, ← other.currency_eq, hcurrency]
    exact ⟨⟨⟨⟨hcode, kind_of_words hamount hpercent hkind⟩, duration_of_words hduration hmonths⟩,
      money_of_words hbase hcurrency⟩, money_of_words hdiscounted hdiscountedCurrency⟩
  · rintro ⟨⟨⟨⟨hcode, hkind⟩, hduration⟩, hbase⟩, hdiscounted⟩
    rw [hcode, hkind, hduration, hbase, hdiscounted]
    exact ⟨rfl, rfl, rfl, rfl, rfl, rfl, rfl, rfl, rfl⟩

/-- The fields of two full prices are the same exactly if the prices are. -/
theorem expectedFields_none_iff {amount amount' : Money} :
    expectedFields amount none = expectedFields amount' none ↔ amount = amount' := by
  simp only [expectedFields, List.cons.injEq, and_true, true_and]
  constructor
  · rintro ⟨hcents, hcurrency⟩
    exact money_of_words hcents hcurrency
  · rintro rfl
    exact ⟨rfl, rfl⟩

/-- The charge of an enrollment is an amount. -/
theorem initialCharge_isMoney (expected : SubscriptionEnrollmentExpectedTerms) :
    expected.initialCharge.isMoney = true := by
  apply Money.isMoney_of_isChargeAmount
  unfold SubscriptionEnrollmentExpectedTerms.initialCharge
    SubscriptionEnrollmentExpectedTerms.activationProjection fromExpectedTerms
  cases hstart : expected.offer.val.start with
  | recurringImmediately =>
    cases hdiscount : expected.discountSnapshot with
    | none => exact (CheckedOffer.recurringCharge expected.offer).property
    | some snapshot => exact snapshot.discounted_valid
  | paidTrial charge period => exact (trial_currency hstart).1

/-- The fields of a stored text, with those of the expected terms at their end. -/
theorem initialV1Fields_eq (texts : DisplayTexts) (planKey : String) (amount : Money)
    (discount : Option SubscriptionEnrollmentDiscountSnapshot) :
    texts.initialV1Fields planKey amount discount =
      (["subscription_initial", planKey, toString amount.cents, amount.currency, "discount"] ++
        texts.optionalDiscountFields discount) ++
        "expected" :: expectedFields amount (discount.map (·.snapshot)) := by
  unfold initialV1Fields
  rw [List.append_assoc _ ["expected"], List.singleton_append]

/-- Where one side has a discount and the other has none, a stored text does not end with the
expected terms: there are too few fields, or a currency is no keyword. -/
theorem ends_with_iff (texts : DisplayTexts) (planKey : String) (amount amount' : Money)
    (discount : Option SubscriptionEnrollmentDiscountSnapshot)
    (snapshot : Option SubscriptionDiscountSnapshot) :
    (∃ front, front ≠ [] ∧ texts.initialV1Fields planKey amount discount =
        front ++ "expected" :: expectedFields amount' snapshot) ↔
      expectedFields amount (discount.map (·.snapshot)) = expectedFields amount' snapshot := by
  rw [initialV1Fields_eq]
  constructor
  · rintro ⟨front, -, heq⟩
    cases discount with
    | none =>
      cases snapshot with
      | none => exact (List.cons.inj (List.append_inj_right' heq rfl)).2
      | some snapshot =>
        have hlength := congrArg List.length heq
        simp only [List.length_append, List.length_cons, List.length_nil, optionalDiscountFields,
          expectedFields, Option.map_none] at hlength
        omega
    | some discount =>
      cases snapshot with
      | none =>
        -- The third field from the end is the currency of the discount, and would be the keyword.
        have hdrop := congrArg (fun fields : List String => fields.reverse[2]?) heq
        simp only [Option.map_some, expectedFields, List.reverse_append, List.reverse_cons,
          List.reverse_nil, List.nil_append, List.cons_append,
          List.getElem?_cons_succ, List.getElem?_cons_zero, Option.some.injEq] at hdrop
        have hcurrency := discount.snapshot.base_valid
        unfold Money.isChargeAmount Money.isMoney at hcurrency
        rw [hdrop] at hcurrency
        exact absurd hcurrency (by simp [isCurrencyCode])
      | some snapshot => exact (List.cons.inj (List.append_inj_right' heq rfl)).2
  · intro heq
    refine ⟨["subscription_initial", planKey, toString amount.cents, amount.currency, "discount"] ++
      texts.optionalDiscountFields discount, ?_, by rw [heq]⟩
    simp

end DisplayTexts

/-- A legacy fingerprint matches exactly the terms that were accepted: those of the plan that is
asked for, with the amount as their first charge where neither side has a discount, and with the
same charge terms where both have one. -/
theorem legacy_fingerprint_matches_iff (texts : DisplayTexts) (hlaw : texts.Lawful)
    (planKey : PlanKey) (amount : {amount : Money // amount.isMoney = true})
    (discount : Option SubscriptionEnrollmentDiscountSnapshot) (queried : PlanKey)
    (expected : SubscriptionEnrollmentExpectedTerms) :
    DisplayTexts.matchesSubscriptionInitialExpectedTermsV1
        (texts.forSubscriptionInitialV1 planKey.val amount.val discount) queried expected = true ↔
      expected.offer.val.planKey = queried.val ∧
        ((discount = none ∧ expected.discountSnapshot = none ∧
          expected.initialCharge = amount.val) ∨ ∃ stored snapshot, discount = some stored ∧
            expected.discountSnapshot = some snapshot ∧
              hasSameChargeTerms stored.snapshot snapshot = true) := by
  have hcolonless : ∀ field ∈ "expected" ::
      DisplayTexts.expectedFields expected.initialCharge expected.discountSnapshot,
          Colonless field := by
    rw [List.forall_mem_cons]
    exact ⟨by decide,
      DisplayTexts.colonless_expectedFields (DisplayTexts.initialCharge_isMoney expected) _⟩
  -- What is looked for at the end of the text is a list of fields, led by the word `expected`.
  have htext : ":expected:" ++ ":".intercalate
      (DisplayTexts.expectedFields expected.initialCharge expected.discountSnapshot) =
      ":" ++ ":".intercalate ("expected" ::
        DisplayTexts.expectedFields expected.initialCharge expected.discountSnapshot) := by
    have hne : DisplayTexts.expectedFields expected.initialCharge expected.discountSnapshot ≠
        [] := by
      cases expected.discountSnapshot <;> simp [DisplayTexts.expectedFields]
    rw [← List.singleton_append, String.intercalate_append_of_ne_nil (by simp) hne,
      String.intercalate_singleton, ← String.append_assoc, ← String.append_assoc]
    rfl
  -- The first field says whether there is a discount, so the two formats never meet.
  have hwords (amount amount' : Money) (snapshot : SubscriptionDiscountSnapshot) :
      DisplayTexts.expectedFields amount none ≠
          DisplayTexts.expectedFields amount' (some snapshot) :=
    fun h => absurd (List.cons.inj h).1 (by decide)
  have hterms : DisplayTexts.expectedFields amount.val (discount.map (·.snapshot)) =
        DisplayTexts.expectedFields expected.initialCharge expected.discountSnapshot ↔
      (discount = none ∧ expected.discountSnapshot = none ∧ expected.initialCharge = amount.val) ∨
        ∃ stored snapshot, discount = some stored ∧ expected.discountSnapshot = some snapshot ∧
          hasSameChargeTerms stored.snapshot snapshot = true := by
    cases discount with
    | none =>
      cases expected.discountSnapshot with
      | none =>
        rw [Option.map_none, DisplayTexts.expectedFields_none_iff]
        constructor
        · exact fun h => .inl ⟨rfl, rfl, h.symm⟩
        · rintro (⟨-, -, h⟩ | ⟨stored, snapshot, h, -⟩)
          · exact h.symm
          · cases h
      | some snapshot => exact iff_of_false (hwords _ _ snapshot) (by simp)
    | some stored =>
      cases expected.discountSnapshot with
      | none => exact iff_of_false (hwords _ _ stored.snapshot).symm (by simp)
      | some snapshot => simpa using DisplayTexts.expectedFields_some_iff
  unfold DisplayTexts.matchesSubscriptionInitialExpectedTermsV1
  by_cases hplan : expected.offer.val.planKey = queried.val
  -- No field has a colon, so a text ends with the fields exactly if its own last fields are these.
  · rw [if_neg (not_not.mpr hplan)]
    dsimp only
    rw [htext, List.isSuffixOf_iff_suffix]
    unfold DisplayTexts.forSubscriptionInitialV1
    rw [DisplayTexts.suffix_iff
      (DisplayTexts.colonless_initialV1Fields hlaw planKey.property amount.property _) hcolonless
        (by simp [DisplayTexts.initialV1Fields]) (by simp), DisplayTexts.ends_with_iff, hterms]
    exact (and_iff_right hplan).symm
  · rw [if_pos hplan]
    simp [hplan]

/-- An offer at full price. -/
def expectedOffer : CheckedOffer :=
  ⟨{ planKey := "expected", recurringCharge := ⟨2500, "USD"⟩, recurringPeriod := .calendarMonths 1,
     start := .recurringImmediately,
     renewalFailure :=
       { retryDelays := [], exhaustion := .remainPastDue, pastDueAccess := .suspendImmediately,
         length_le := by decide, delay_pos := by decide, delay_le := by decide } },
    by decide +kernel⟩

/-- A plan that is called after the keyword is told from another amount. -/
theorem legacy_fingerprint_matches_keyword :
    DisplayTexts.matchesSubscriptionInitialExpectedTermsV1
      (sampleTexts.forSubscriptionInitialV1 "expected" ⟨2500, "USD"⟩ none)
        ⟨"expected", by decide +kernel⟩
      (fullPrice expectedOffer) = true ∧
    DisplayTexts.matchesSubscriptionInitialExpectedTermsV1
      (sampleTexts.forSubscriptionInitialV1 "expected" ⟨500, "USD"⟩ none)
        ⟨"expected", by decide +kernel⟩
      (fullPrice expectedOffer) = false := by
  have hlaw : sampleTexts.Lawful :=
    ⟨sampleUuid_injective, colonless_sampleUuid, sampleTimestamp_injective⟩
  constructor
  · exact (legacy_fingerprint_matches_iff sampleTexts hlaw ⟨"expected", by decide +kernel⟩
      ⟨⟨2500, "USD"⟩, by decide +kernel⟩ none ⟨"expected", by decide +kernel⟩
        (fullPrice expectedOffer)).mpr ⟨rfl, .inl ⟨rfl, rfl, rfl⟩⟩
  · rw [← Bool.not_eq_true, legacy_fingerprint_matches_iff sampleTexts hlaw
      ⟨"expected", by decide +kernel⟩ ⟨⟨500, "USD"⟩, by decide +kernel⟩ none
        ⟨"expected", by decide +kernel⟩ (fullPrice expectedOffer)]
    simp [fullPrice, SubscriptionEnrollmentExpectedTerms.initialCharge,
      SubscriptionEnrollmentExpectedTerms.activationProjection, fromExpectedTerms, expectedOffer]

end SyrupRail
