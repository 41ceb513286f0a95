import SyrupRail.Store.Approval

/-!
# Parking an approval

An approval that cannot be applied is parked: the attempt waits for a review, and the reason is
written before the processor's text. The text is cut at 512 characters, while its column holds 512
octets. Here is exactly when a parking is stored, and with it every later one, which loads the
attempt again, with its texts sanitized once more, and puts its reason before the text of the one
before. `utf8ByteSize_take_le_iff` gives the condition on the texts; the rest of the row meets the
constraints because the row before did.
-/

namespace SyrupRail

open Table

/-! ## The messages -/

/-- The messages of the source that an approval is parked with. -/
def parkingMessages : List String :=
  [currentSubscriptionConflictText, currentGrantConflictText, terminalApprovalRaceText,
    periodExpiredApprovalText, ownedByOtherAttemptText, additionalChargeText,
    "Approved subscription enrollment is missing required processor identity.",
    "Approved subscription enrollment could not be applied; manual review is required.",
    "Approved subscription recovery is missing required processor identity.",
    "Approved subscription recovery could not be applied; manual review is required.",
    "Approved subscription recovery could not update billing state because the subscription changed.",
    "Approved subscription renewal is missing required processor identity.",
    "Approved subscription renewal could not be applied; manual review is required.",
    "Approved subscription renewal could not update billing state because the subscription changed.",
    "Approved payment method replacement is missing required processor identity.",
    "Approved payment method replacement could not be applied; manual review is required.",
    "Approved payment method replacement could not attach because the subscription changed.",
    "An additional approved stored-method result requires manual review.",
    "Approved host charge could not update its target because the target changed.",
    "Approved host charge could not be applied; manual review is required."]

/-- A message alone fits the column. -/
theorem diagnosticFits_of_parkingMessage {message : String} (h : message ∈ parkingMessages) :
    diagnosticFits (some message) = true := by
  revert message
  decide +kernel

/-! ## One parking -/

/-- The arguments of a parking, and its time. -/
structure Parking where
  now : Timestamp
  evidence : ProcessorEvidence
  code : Option PaymentResolutionCode
  message : String
  deriving DecidableEq, Repr

namespace Parking

/-- The evidence that a parking stores: a pending attempt without an identity adopts the observed
one, and every other attempt keeps its own, as it was loaded. -/
def adopted (p : Parking) (a : PaymentAttempt) : ProcessorEvidence :=
  if a.status = .pending ∧ a.evidence.hasGatewayReference = false then p.evidence else a.evidence

/-- The row after a parking. -/
def parked (p : Parking) (a : PaymentAttempt) : PaymentAttempt :=
  AttemptTransition.row p.now (p.adopted a) (.lateApprovalReview p.code p.message) a

/-- The columns of the parked row that its unique keys are read from. -/
def reopened (p : Parking) (a : PaymentAttempt) : PaymentAttempt :=
  { a with status := .reviewRequired, evidence := p.adopted a, resolutionCode := p.code }

/-- The message and the stored text fit the column together, or the characters before the cut are
all of one octet. -/
def TextFits (p : Parking) (a : PaymentAttempt) : Prop :=
  ∀ text, (p.adopted a).responseText = some text →
    p.message.utf8ByteSize + 1 + text.utf8ByteSize ≤ 512 ∨
      ∀ c ∈ (p.message ++ " " ++ text).toList.take 512, c.utf8Size = 1

/-- No other attempt has a unique key of the reopened one. -/
def KeysFree (p : Parking) (a : PaymentAttempt) (attempts : List PaymentAttempt) : Prop :=
  attemptIndexes (updateWhere (·.id = a.id) (fun _ => p.reopened a) attempts) = true

section

variable {p : Parking} {rules : TextRules} {a : PaymentAttempt}

/-- The condition on the texts is that of the column. -/
theorem textFits_iff (hmessage : p.message ∈ parkingMessages) :
    diagnosticFits (some (lateApprovalText p.message (p.adopted a).responseText)) = true ↔
      p.TextFits a := by
  unfold TextFits
  cases htext : (p.adopted a).responseText with
  | none => simpa [lateApprovalText] using diagnosticFits_of_parkingMessage hmessage
  | some text =>
    have hsize : (p.message ++ " " ++ text).utf8ByteSize =
        p.message.utf8ByteSize + 1 + text.utf8ByteSize := by
      rw [String.utf8ByteSize_append, String.utf8ByteSize_append]
      rfl
    simp only [diagnosticFits, lateApprovalText, Option.all_some, decide_eq_true_eq,
      maxGatewayTextBytes, Option.some.injEq, forall_eq', RustText.utf8ByteSize_take_le_iff, hsize]

/-- A parking keeps its keys whatever its text and its time. -/
theorem attemptIndexes_parked (attempts : List PaymentAttempt) :
    attemptIndexes (updateWhere (·.id = a.id) (fun _ => p.parked a) attempts) =
      attemptIndexes (updateWhere (·.id = a.id) (fun _ => p.reopened a) attempts) := by
  have huniq {κ : Type} [DecidableEq κ] (key : PaymentAttempt → Option κ)
      (hkey : key (p.parked a) = key (p.reopened a)) :
      uniqueOn key (updateWhere (·.id = a.id) (fun _ => p.parked a) attempts) =
        uniqueOn key (updateWhere (·.id = a.id) (fun _ => p.reopened a) attempts) := by
    apply uniqueOn_congr
    simp only [updateWhere, List.map_map]
    apply List.map_congr_left
    intro b _
    by_cases hb : b.id = a.id
    · simp [hb, hkey]
    · simp [hb]
  unfold attemptIndexes
  rw [huniq (fun a => some a.id) rfl,
    huniq (fun a => some (a.billingScopeId, a.subscriberId, a.idempotencyKey)) rfl,
    huniq (fun a => some (a.gatewayAccountId, a.gatewayOrderId)) rfl,
    huniq (fun a => a.evidence.transactionId.map (a.gatewayAccountId, ·)) rfl,
    huniq PaymentAttempt.initialInflightKey rfl, huniq PaymentAttempt.hostChargeOnceKey rfl,
    huniq PaymentAttempt.billingInflightKey rfl, huniq PaymentAttempt.periodOnceKey rfl,
    huniq PaymentAttempt.methodUpdateInflightKey rfl]

/-- The adopted evidence meets the text constraint. -/
theorem adopted_textCheck (ha : a.Constrained) (hevidence : p.evidence.textCheck = true) :
    (p.adopted a).textCheck = true := by
  have hchecks := ha.checks
  simp only [PaymentAttempt.checks, Bool.and_eq_true] at hchecks
  unfold adopted
  split_ifs
  · exact hevidence
  · exact hchecks.2

/-- The parked row has its time of review, so the trigger leaves it. -/
theorem setReviewRequiredAt_parked : (p.parked a).setReviewRequiredAt p.now = p.parked a := by
  have hreview : (p.parked a).reviewRequiredAt ≠ none := by
    show (a.reviewRequiredAt <|> some p.now) ≠ none
    cases a.reviewRequiredAt <;> simp
  simp [PaymentAttempt.setReviewRequiredAt, hreview]

/-- The parked row meets the constraints exactly when its text does. -/
theorem checks_parked_iff (ha : a.Constrained) (hnow : a.createdAt ≤ p.now)
    (hevidence : p.evidence.textCheck = true) (hmessage : p.message ∈ parkingMessages) :
    (p.parked a).checks = true ↔ p.TextFits a := by
  have htext := adopted_textCheck (p := p) ha hevidence
  have hchecks := ha.checks
  simp only [PaymentAttempt.checks, Bool.and_eq_true] at hchecks
  -- Of the links only those of an enrollment depend on its status.
  have hshape : (p.parked a).relationshipShapeCheck = true := by
    have hkind : (p.parked a).kind = a.kind := rfl
    have hbefore := hchecks.1.1.1.1
    unfold PaymentAttempt.relationshipShapeCheck at hbefore ⊢
    rw [hkind]
    cases hk : a.kind with
    | subscriptionInitial =>
      rw [hk] at hbefore
      have hbefore := of_decide_eq_true hbefore
      refine decide_eq_true ?_
      rcases hbefore with ⟨-, hmethod⟩ | ⟨-, hsub, hmethod⟩
      · exact .inl ⟨by simp [parked, AttemptTransition.row], hmethod⟩
      · exact .inr ⟨by simp [parked, AttemptTransition.row], hsub, hmethod⟩
    | hostCharge | subscriptionRenewal | subscriptionRecovery | subscriptionPaymentMethodUpdate =>
      rw [hk] at hbefore
      exact hbefore
  rw [← textFits_iff hmessage]
  constructor
  · intro h
    simp only [PaymentAttempt.checks, Bool.and_eq_true] at h
    exact (ProcessorEvidence.diagnosticFits_of_textCheck h.2).1
  · intro h
    rw [← setReviewRequiredAt_parked]
    exact PaymentAttempt.checks_setReviewRequiredAt hshape rfl hnow
      (ProcessorEvidence.textCheck_with htext h
        (ProcessorEvidence.diagnosticFits_of_textCheck htext).2)

/-- A row that was loaded meets the constraints. -/
theorem constrained_fromRow (ha : a.Constrained) (rules : TextRules) :
    (a.fromRow rules).Constrained := by
  refine ⟨?_, ha.amount, ha.lifecycle⟩
  have hchecks := ha.checks
  simp only [PaymentAttempt.checks, Bool.and_eq_true] at hchecks ⊢
  exact ⟨hchecks.1, textCheck_processorEvidenceFromRow rules a.evidence⟩

/-- The parked row meets the constraints. -/
theorem constrained_parked (ha : a.Constrained) (hnow : a.createdAt ≤ p.now)
    (hevidence : p.evidence.textCheck = true) (hmessage : p.message ∈ parkingMessages)
    (hfits : p.TextFits a) : (p.parked a).Constrained :=
  ⟨(checks_parked_iff ha hnow hevidence hmessage).mpr hfits, ha.amount, ha.lifecycle⟩

/-! ## The transaction -/

/-- `park_locked_attempt` with the arguments of a parking; PostgreSQL takes no text with U+0000. -/
def park (p : Parking) (a : PaymentAttempt) : Program PaymentAttempt :=
  if (p.adopted a).encodable then parkLockedAttempt p.now a p.evidence p.code p.message
  else throw .characterNotInRepertoire

/-- A row is loaded and parked; the result is the row that is stored. -/
def program (p : Parking) (rules : TextRules) (a : PaymentAttempt) : Program PaymentAttempt := do
  let attempt ← Tx.read fun _ => paymentAttemptFromRow rules a
  p.park attempt

/-- The attempts after a parking. -/
def store (p : Parking) (a : PaymentAttempt) (attempts : List PaymentAttempt) :
    List PaymentAttempt :=
  updateWhere (·.id = a.id) (fun _ => p.parked a) attempts

/-- The store after a parking. -/
def commit (p : Parking) (a : PaymentAttempt) (db : Db) : Db :=
  { db with attempts := p.store a db.attempts }

/-- The condition of a parking on the attempt, as it was loaded, and on the table. -/
structure Fits (p : Parking) (a : PaymentAttempt) (attempts : List PaymentAttempt) : Prop where
  encodable : (p.adopted a).encodable = true
  text : p.TextFits a
  keys : p.KeysFree a attempts

/-- What a parking takes for granted: a row of the table, which meets the constraints and is not
approved, a time not before its insertion, evidence of the domain, and a message of the source. -/
structure Admissible (p : Parking) (a : PaymentAttempt) (attempts : List PaymentAttempt) :
    Prop where
  indexes : attemptIndexes attempts = true
  mem : a ∈ attempts
  constrained : a.Constrained
  status : a.status ≠ .approved
  now : a.createdAt ≤ p.now
  evidence : p.evidence.textCheck = true
  message : p.message ∈ parkingMessages

section

variable {attempts : List PaymentAttempt}

/-- The parked row is in the table. -/
theorem parked_mem_store (ha : a ∈ attempts) :
    p.parked (a.fromRow rules) ∈ p.store (a.fromRow rules) attempts :=
  mem_updateWhere.mpr ⟨a, ha, by simp [PaymentAttempt.fromRow]⟩

/-- The row that a parking reads is loaded. -/
theorem Admissible.paymentAttemptFromRow_eq (h : p.Admissible a attempts) (rules : TextRules) :
    paymentAttemptFromRow rules a = .ok (a.fromRow rules) := by
  rw [paymentAttemptFromRow, if_pos ⟨h.constrained.targetFromRow,
    (PaymentAttempt.check_ok_iff _).mpr h.constrained.loadable⟩]

/-- The parked row meets the constraints when its text fits. -/
theorem Admissible.constrained_parked (h : p.Admissible a attempts)
    (htext : p.TextFits (a.fromRow rules)) : (p.parked (a.fromRow rules)).Constrained :=
  Parking.constrained_parked (constrained_fromRow h.constrained rules) h.now h.evidence
    h.message htext

/-- The writer of a parking stores the parked row exactly when its text fits. -/
theorem Admissible.write (h : p.Admissible a attempts) (rules : TextRules) :
    ((AttemptWriter.persist (p.adopted (a.fromRow rules))
      (.lateApprovalReview p.code p.message)).write
        p.now a = .ok (p.parked (a.fromRow rules)) ∧ p.TextFits (a.fromRow rules)) ∨
      ((AttemptWriter.persist (p.adopted (a.fromRow rules))
        (.lateApprovalReview p.code p.message)).write p.now a = .error .checkViolation ∧
          ¬ p.TextFits (a.fromRow rules)) := by
  have haccepts : (AttemptTransition.lateApprovalReview p.code p.message).accepts a.status =
      true := by
    simpa [AttemptTransition.accepts] using h.status
  have hchecks :=
    checks_parked_iff (constrained_fromRow h.constrained rules) h.now h.evidence h.message
  -- The parked row takes nothing from the old evidence, so that of the row is that of its load.
  have hwrite : (AttemptWriter.persist (p.adopted (a.fromRow rules))
      (.lateApprovalReview p.code p.message)).write p.now a =
        if (p.parked (a.fromRow rules)).checks then .ok (p.parked (a.fromRow rules))
        else .error .checkViolation := by
    show requireOneRow (PaymentAttempt.update p.now _ (p.parked (a.fromRow rules))) = _
    rw [PaymentAttempt.update, haccepts, if_pos rfl, setReviewRequiredAt_parked]
    split_ifs <;> rfl
  by_cases hfits : p.TextFits (a.fromRow rules)
  · left
    rw [hwrite, if_pos (hchecks.mpr hfits)]
    exact ⟨rfl, hfits⟩
  · right
    rw [hwrite, if_neg fun h => hfits (hchecks.mp h)]
    exact ⟨rfl, hfits⟩

end

variable {db : Db}

/-- The row that was parked is accepted again. -/
theorem Admissible.requireAttempt_parked (h : p.Admissible a db.attempts)
    (htext : p.TextFits (a.fromRow rules)) (hkeys : p.KeysFree (a.fromRow rules) db.attempts) :
    requireAttempt invalidApplicationState a.billingScopeId a.id (p.commit (a.fromRow rules) db) =
      .ok (p.parked (a.fromRow rules), p.commit (a.fromRow rules) db) := by
  have hconstrained := h.constrained_parked htext
  have hmem : p.parked (a.fromRow rules) ∈ p.store (a.fromRow rules) db.attempts :=
    parked_mem_store h.mem
  have hindex : attemptIndexes (p.store (a.fromRow rules) db.attempts) = true :=
    (attemptIndexes_parked _).trans hkeys
  have hfind : (p.store (a.fromRow rules) db.attempts).find? (fun b =>
      b.billingScopeId = a.billingScopeId ∧ b.id = a.id) = some (p.parked (a.fromRow rules)) := by
    apply find?_eq_some_of_unique hmem
    · exact decide_eq_true ⟨rfl, rfl⟩
    · intro b hb hmatch
      exact nodup_id_of_attemptIndexes hindex hb hmem (of_decide_eq_true hmatch).2
  have hload : storedAttempt (p.parked (a.fromRow rules)) = .ok (p.parked (a.fromRow rules)) := by
    rw [storedAttempt, if_pos ⟨hconstrained.targetFromRow,
      (PaymentAttempt.check_ok_iff _).mpr hconstrained.loadable⟩]
  have hfound :
    findPaymentAttemptById (p.commit (a.fromRow rules) db).attempts a.billingScopeId a.id =
      .ok (some (p.parked (a.fromRow rules))) := by
    simp only [findPaymentAttemptById, commit, hfind, hload, Except.map]
  simp only [requireAttempt, bind, StateT.bind, Tx.read, hfound, Except.map, Except.bind, pure,
    Tx.pure_run]

/-- A parking of texts that PostgreSQL takes is one statement, and the row is read again. -/
theorem Admissible.program_eq (h : p.Admissible a db.attempts) (rules : TextRules) :
    p.program rules a db =
      if (p.adopted (a.fromRow rules)).encodable then (do
        persist p.now a.id
          (.persist (p.adopted (a.fromRow rules)) (.lateApprovalReview p.code p.message))
        requireAttempt invalidApplicationState a.billingScopeId a.id : Program _) db
      else .error .characterNotInRepertoire := by
  have hload : p.program rules a db = p.park (a.fromRow rules) db := by
    simp only [program, bind, StateT.bind, Tx.read, h.paymentAttemptFromRow_eq, Except.map,
      Except.bind]
  rw [hload, park]
  split_ifs <;> rfl

/-- The statement of a parking. -/
theorem Admissible.persist_eq (h : p.Admissible a db.attempts) (rules : TextRules) :
    (p.TextFits (a.fromRow rules) →
      persist p.now a.id
          (.persist (p.adopted (a.fromRow rules)) (.lateApprovalReview p.code p.message)) db =
        if attemptIndexes
          (updateWhere (·.id = a.id) (fun _ => p.reopened (a.fromRow rules)) db.attempts)
        then .ok ((), p.commit (a.fromRow rules) db)
        else .error .uniqueViolation) ∧
      (¬ p.TextFits (a.fromRow rules) →
        persist p.now a.id
            (.persist (p.adopted (a.fromRow rules)) (.lateApprovalReview p.code p.message)) db =
          .error .checkViolation) := by
  have hfound := findBy_id_eq_some h.indexes h.mem
  rcases h.write rules with ⟨hwrite, htext⟩ | ⟨hwrite, htext⟩
  · refine ⟨fun _ => ?_, fun hnot => absurd htext hnot⟩
    have hindexes := attemptIndexes_parked (p := p) (a := a.fromRow rules) db.attempts
    rw [show (a.fromRow rules).id = a.id from rfl] at hindexes
    simp only [persist, onAttempts, Tx.statement, writeAttempt, hfound, hwrite, storeAttempts,
      hindexes]
    split_ifs <;> rfl
  · refine ⟨fun hfits => absurd hfits htext, fun _ => ?_⟩
    simp only [persist, onAttempts, Tx.statement, writeAttempt, hfound, hwrite]
    rfl

/-- A parking succeeds exactly when its texts fit and its keys are free, and stores the parked
row. -/
theorem Admissible.program_ok_iff (h : p.Admissible a db.attempts) (rules : TextRules) :
    (p.program rules a db = .ok (p.parked (a.fromRow rules), p.commit (a.fromRow rules) db) ∧
        p.Fits (a.fromRow rules) db.attempts) ∨
      ((∃ e, p.program rules a db = .error e) ∧ ¬ p.Fits (a.fromRow rules) db.attempts) := by
  have hprogram := h.program_eq rules
  by_cases hencodable : (p.adopted (a.fromRow rules)).encodable = true
  · rw [if_pos hencodable] at hprogram
    by_cases htext : p.TextFits (a.fromRow rules)
    · have hpersist := (h.persist_eq rules).1 htext
      by_cases hkeys : attemptIndexes
          (updateWhere (·.id = a.id) (fun _ => p.reopened (a.fromRow rules)) db.attempts) = true
      · left
        rw [if_pos hkeys] at hpersist
        refine ⟨?_, hencodable, htext, hkeys⟩
        rw [hprogram]
        simp only [bind, StateT.bind, hpersist, Except.bind]
        exact h.requireAttempt_parked htext hkeys
      · right
        rw [if_neg hkeys] at hpersist
        refine ⟨⟨.uniqueViolation, ?_⟩, fun hfits => hkeys hfits.keys⟩
        rw [hprogram]
        simp only [bind, StateT.bind, hpersist, Except.bind]
    · right
      refine ⟨⟨.checkViolation, ?_⟩, fun hfits => htext hfits.text⟩
      rw [hprogram]
      simp only [bind, StateT.bind, (h.persist_eq rules).2 htext, Except.bind]
  · right
    rw [if_neg hencodable] at hprogram
    exact ⟨⟨_, hprogram⟩, fun hfits => hencodable hfits.encodable⟩

end

end Parking

/-! ## Repeated parkings -/

/-- An attempt that is parked again and again, each time as it is loaded from its row. -/
def parkRepeatedly (rules : TextRules) (a : PaymentAttempt) : List Parking → Program PaymentAttempt
  | [] => pure a
  | p :: ps => do
    let parked ← p.program rules a
    parkRepeatedly rules parked ps

/-- The condition of each parking on the row and the table before it. -/
def ParkingsFit (rules : TextRules) (a : PaymentAttempt) (attempts : List PaymentAttempt) :
    List Parking → Prop
  | [] => True
  | p :: ps => p.Fits (a.fromRow rules) attempts ∧
      ParkingsFit rules (p.parked (a.fromRow rules)) (p.store (a.fromRow rules) attempts) ps

/-- Approvals that are parked on one attempt, however often. Every parking succeeds, and leaves the
attempt durably under review with a text of at most 512 octets, exactly when at each of them no text
that the attempt then stores contains U+0000, the message and its response text fit 512 octets
together or consist of one-octet characters up to the cut, and no other attempt has a unique key of
the reopened one. The attempt stores the evidence that it adopts, or its own as the sanitizer leaves
it on loading. -/
theorem parkings_succeed_iff (rules : TextRules) (db : Db) (a : PaymentAttempt) (ps : List Parking)
    (hindex : attemptIndexes db.attempts = true) (ha : a ∈ db.attempts)
    (hconstrained : a.Constrained) (hstatus : a.status ≠ .approved)
    (hps : ∀ p ∈ ps, a.createdAt ≤ p.now ∧ p.evidence.textCheck = true ∧
      p.message ∈ parkingMessages) :
    (∃ parked db', parkRepeatedly rules a ps db = .ok (parked, db') ∧ parked ∈ db'.attempts ∧
      parked.id = a.id ∧ (ps ≠ [] → parked.status = .reviewRequired) ∧
      parked.evidence.responseText.all (·.utf8ByteSize ≤ 512) = true) ↔
    ParkingsFit rules a db.attempts ps := by
  -- Each parking is of the row that the last one stored, so the row and the table are general.
  induction ps generalizing db a with
  | nil =>
    have hchecks := hconstrained.checks
    simp only [PaymentAttempt.checks, Bool.and_eq_true] at hchecks
    have htext := (ProcessorEvidence.diagnosticFits_of_textCheck hchecks.2).1
    exact ⟨fun _ => trivial, fun _ => ⟨a, db, rfl, ha, rfl, fun h => absurd rfl h, htext⟩⟩
  | cons p ps ih =>
    obtain ⟨hnow, hevidence, hmessage⟩ := hps p List.mem_cons_self
    have hadmissible : p.Admissible a db.attempts :=
      ⟨hindex, ha, hconstrained, hstatus, hnow, hevidence, hmessage⟩
    rcases hadmissible.program_ok_iff rules with ⟨hok, hfits⟩ | ⟨⟨e, herror⟩, hnot⟩
    · have hrest : parkRepeatedly rules a (p :: ps) db =
          parkRepeatedly rules (p.parked (a.fromRow rules)) ps (p.commit (a.fromRow rules) db) := by
        simp only [parkRepeatedly, bind, StateT.bind, hok, Except.bind]
      have hmem : p.parked (a.fromRow rules) ∈ (p.commit (a.fromRow rules) db).attempts :=
        Parking.parked_mem_store ha
      have hnext := ih (p.commit (a.fromRow rules) db) (p.parked (a.fromRow rules))
        ((Parking.attemptIndexes_parked _).trans hfits.keys) hmem
        (hadmissible.constrained_parked hfits.text)
        (by simp [Parking.parked, AttemptTransition.row])
        fun q hq => hps q (List.mem_cons_of_mem _ hq)
      -- The row is under review from the first parking on.
      have hreview : ∀ parked db',
          parkRepeatedly rules (p.parked (a.fromRow rules)) ps (p.commit (a.fromRow rules) db) =
            .ok (parked, db') →
          (ps ≠ [] → parked.status = .reviewRequired) → parked.status = .reviewRequired := by
        intro parked db' hrun hstatus'
        by_cases hps' : ps = []
        · subst hps'
          obtain ⟨rfl, -⟩ := Prod.mk.inj (Except.ok.inj hrun)
          rfl
        · exact hstatus' hps'
      rw [hrest]
      constructor
      · rintro ⟨parked, db', hrun, hmem', hid, hstatus', hoctets⟩
        exact ⟨hfits,
          hnext.mp ⟨parked, db', hrun, hmem', hid, fun _ => hstatus' (List.cons_ne_nil _ _),
            hoctets⟩⟩
      · rintro ⟨-, hfit⟩
        obtain ⟨parked, db', hrun, hmem', hid, hstatus', hoctets⟩ := hnext.mpr hfit
        exact ⟨parked, db', hrun, hmem', hid, fun _ => hreview parked db' hrun hstatus', hoctets⟩
    -- A parking that fails ends the run, and what it lacks is what the condition asks of it.
    · constructor
      · rintro ⟨parked, db', hrun, -⟩
        simp only [parkRepeatedly, bind, StateT.bind, herror, Except.bind] at hrun
        cases hrun
      · rintro ⟨hfits, -⟩
        exact absurd hfits hnot

/-- A submitted host charge without an outcome. -/
def submittedHostCharge : PaymentAttempt where
  id := 1
  billingScopeId := 2
  subscriberId := 3
  gatewayAccountId := 4
  gatewayConfigurationId := 5
  requiredGatewayAccountMode := .live
  target := .hostCharge 6
  idempotencyKey := "key"
  amount := ⟨2500, "USD"⟩
  gatewayOrderId := "order"
  subscriptionId := none
  paymentMethodId := none
  status := .pending
  resolutionCode := none
  evidence := {}
  lifecycle := .unknown
  createdAt := 0
  updatedAt := 10
  submittedAt := some 10
  resolvedAt := none
  reviewRequiredAt := none

/-- A store with one attempt. -/
def oneAttempt (a : PaymentAttempt) : Db where
  clock := 20
  gatewayAccounts := []
  providerRateLimits := []
  paymentMethods := []
  subscriptions := []
  attempts := [a]
  ledger := ⟨[], []⟩
  discounts := []
  discountClaims := []
  grants := []
  events := []

/-- A text of `n` letters of two octets each. -/
def accentedText (n : ℕ) : String := String.ofList (List.replicate n 'é')

/-- An accented letter takes two octets. -/
theorem utf8ByteSize_accentedText (n : ℕ) : (accentedText n).utf8ByteSize = 2 * n := by
  have hsum : ((List.replicate n 'é').map Char.utf8Size).sum = 2 * n := by
    induction n with
    | zero => rfl
    | succ n ih =>
      have hletter : 'é'.utf8Size = 2 := by decide
      rw [List.replicate_succ, List.map_cons, List.sum_cons, ih, hletter]
      omega
  rw [accentedText, RustText.utf8ByteSize_ofList, hsum]

/-- The characters of the text. -/
theorem toList_accentedText (n : ℕ) : (accentedText n).toList = List.replicate n 'é' := by
  simp [accentedText]

/-- The approval of the charge with such a text. -/
def accentedApproval (n : ℕ) : Parking where
  now := 20
  evidence := { transactionId := some "txn", responseText := some (accentedText n) }
  code := some .hostChargeApprovedStaleState
  message := "Approved host charge could not update its target because the target changed."

/-- The submitted charge meets the constraints. -/
theorem submittedHostCharge_constrained : submittedHostCharge.Constrained :=
  ⟨by decide +kernel, by decide, by decide⟩

/-- The text of a short approval is the same when it is loaded again. -/
theorem accentedApproval_settled :
    ((accentedApproval 20).parked (submittedHostCharge.fromRow .ascii)).fromRow .ascii =
      (accentedApproval 20).parked (submittedHostCharge.fromRow .ascii) := by
  have htext : TextRules.ascii.sanitizeGatewayDetail
      ((accentedApproval 20).message ++ " " ++ accentedText 20) =
        (accentedApproval 20).message ++ " " ++ accentedText 20 := by
    decide +kernel
  have hevidence : ((accentedApproval 20).parked (submittedHostCharge.fromRow .ascii)).evidence =
      { transactionId := some "txn"
        responseText := some ((accentedApproval 20).message ++ " " ++ accentedText 20) } := by
    decide +kernel
  have hloaded : processorEvidenceFromRow .ascii
      ((accentedApproval 20).parked (submittedHostCharge.fromRow .ascii)).evidence =
        ((accentedApproval 20).parked (submittedHostCharge.fromRow .ascii)).evidence := by
    rw [hevidence]
    simp only [processorEvidenceFromRow, TextRules.diagnostic, Option.map_some, Option.map_none,
      htext]
  generalize (accentedApproval 20).parked (submittedHostCharge.fromRow .ascii) = row at hloaded ⊢
  exact congrArg (fun evidence => { row with evidence }) hloaded

/-- An approval with a short text is parked, and parked again with the text that is loaded then. -/
theorem parkings_succeed_iff_accentedApproval :
    let ps := [accentedApproval 20, { accentedApproval 20 with now := 30 }]
    ∃ parked db', parkRepeatedly .ascii submittedHostCharge ps (oneAttempt submittedHostCharge) =
        .ok (parked, db') ∧ parked ∈ db'.attempts ∧ parked.id = submittedHostCharge.id ∧
      (ps ≠ [] → parked.status = .reviewRequired) ∧
      parked.evidence.responseText.all (·.utf8ByteSize ≤ 512) = true := by
  intro ps
  refine (parkings_succeed_iff .ascii (oneAttempt submittedHostCharge) submittedHostCharge ps
    (by decide +kernel) (List.mem_singleton.mpr rfl) submittedHostCharge_constrained nofun ?_).mpr
    ⟨⟨by decide +kernel, ?_, ?_⟩, ?_, trivial⟩
  · intro p hp
    rcases List.mem_pair.mp hp with rfl | rfl <;>
      exact ⟨by decide, by decide +kernel, by decide +kernel⟩
  · intro text htext
    obtain rfl := Option.some.inj htext
    exact .inl (by decide +kernel)
  · show attemptIndexes _ = true
    decide +kernel
  · rw [accentedApproval_settled]
    refine ⟨by decide +kernel, ?_, ?_⟩
    · intro text htext
      obtain rfl := Option.some.inj htext
      exact .inl (by decide +kernel)
    · show attemptIndexes _ = true
      decide +kernel

/-- The evidence is one of the domain. -/
theorem accentedApproval_textCheck : (accentedApproval 250).evidence.textCheck = true := by
  have hfits : diagnosticFits (some (accentedText 250)) = true := by
    simp only [diagnosticFits, Option.all_some, utf8ByteSize_accentedText]
    decide
  exact ProcessorEvidence.textCheck_with (e := { transactionId := some "txn" }) rfl hfits rfl

/-- A text of 250 letters has 500 octets, and is not cut. -/
theorem accentedApproval_not_textFits : ¬ (accentedApproval 250).TextFits submittedHostCharge := by
  intro h
  have hmessage : (accentedApproval 250).message.utf8ByteSize = 76 := by decide +kernel
  have hlength : (accentedApproval 250).message.toList.length = 76 := by decide +kernel
  rcases h (accentedText 250) rfl with hfits | hone
  · rw [hmessage, utf8ByteSize_accentedText] at hfits
    omega
  · have hlist : ((accentedApproval 250).message ++ " " ++ accentedText 250).toList =
        (accentedApproval 250).message.toList ++ [' '] ++ List.replicate 250 'é' := by
      rw [String.toList_append, String.toList_append, toList_accentedText]
      rfl
    have hmem : 'é' ∈ ((accentedApproval 250).message ++ " " ++ accentedText 250).toList.take
        512 := by
      rw [List.take_of_length_le]
      · rw [hlist]
        exact List.mem_append_right _ (List.mem_replicate.mpr ⟨by decide, rfl⟩)
      · rw [hlist, List.length_append, List.length_append, hlength, List.length_replicate]
        decide
    exact absurd (hone 'é' hmem) (by decide)

/-- A text of 500 octets in 250 characters is admitted, and its approval cannot be parked. -/
theorem accented_approval_is_not_parked :
    submittedHostCharge.checks = true ∧ submittedHostCharge.status = .pending ∧
      (accentedApproval 250).evidence.textCheck = true ∧
      (accentedApproval 250).message ∈ parkingMessages ∧
      512 < (lateApprovalText (accentedApproval 250).message
        (accentedApproval 250).evidence.responseText).utf8ByteSize ∧
      ∀ rules, ∃ e, (accentedApproval 250).program rules submittedHostCharge
        (oneAttempt submittedHostCharge) = .error e := by
  have hmessage : (accentedApproval 250).message ∈ parkingMessages := by decide +kernel
  have hnot := accentedApproval_not_textFits
  have hadmissible : (accentedApproval 250).Admissible submittedHostCharge
      (oneAttempt submittedHostCharge).attempts :=
    ⟨by decide +kernel, List.mem_singleton.mpr rfl, submittedHostCharge_constrained, nofun, by
      decide, accentedApproval_textCheck, hmessage⟩
  refine ⟨submittedHostCharge_constrained.checks, rfl, accentedApproval_textCheck, hmessage, ?_,
    fun rules => ?_⟩
  · by_contra hle
    refine hnot ((Parking.textFits_iff (a := submittedHostCharge) hmessage).mp ?_)
    have hadopted : (accentedApproval 250).adopted submittedHostCharge =
        (accentedApproval 250).evidence := rfl
    rw [hadopted, diagnosticFits, Option.all_some]
    exact decide_eq_true (not_lt.mp hle)
  · rcases hadmissible.program_ok_iff rules with ⟨-, hfits⟩ | ⟨herror, -⟩
    · exact absurd hfits.text hnot
    · exact herror

end SyrupRail
