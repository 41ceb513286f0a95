import SyrupRail.Store.Changes

/-!
# Charges and the attempts that they are of

Every charge of a store that the engine has written has the dimensions of one of its attempts, every
attestation is of a charge that was reversed, and an approved update of a method has a primary
charge with its transaction. No constraint of the tables says the last two. A quiet program keeps
the relation by what it does to single rows; an effect that approves an attempt has the charge that
it was applied on.
-/

namespace SyrupRail

open Transactions

section Effects

variable {now : Timestamp} {db db' : Db}

/-- The relation is one of the attempts and the ledger. -/
theorem Db.ChargesLinked.congr (h : db.ChargesLinked) (hattempts : db'.attempts = db.attempts)
    (hledger : db'.ledger = db.ledger) : db'.ChargesLinked := by
  obtain ⟨hdimensions, hattested, hupdates⟩ := h
  refine ⟨?_, ?_, ?_⟩
  · rw [hledger, Db.dimensions, hattempts]
    exact hdimensions
  · rw [hledger]
    exact hattested
  · rw [hledger, hattempts]
    exact hupdates

/-- A new attempt is not approved. -/
theorem Db.ChargesLinked.insert {n : NewAttempt} (h : db.ChargesLinked) :
    ({ db with attempts := n.row :: db.attempts } : Db).ChargesLinked := by
  refine h.of_attempts (List.subset_cons_of_subset _ (List.Subset.refl _))
    fun a ha _ hstatus => .inl ?_
  rcases List.mem_cons.mp ha with rfl | ha
  · cases hstatus
  · exact ⟨a, ha, rfl, rfl, hstatus, rfl⟩

/-- A row that is replaced has the dimensions of the one that it replaces. -/
theorem dimensions_subset_replace {w : AttemptWriter} {a a' : PaymentAttempt}
    (hindex : attemptIndexes db.attempts = true) (ha : a ∈ db.attempts)
    (hwrite : w.write now a = .ok a') :
    db.dimensions ⊆
      (Table.updateWhere (·.id = a.id) (fun _ => a') db.attempts).map (·.chargeDimensions) := by
  intro d hd
  obtain ⟨b, hb, rfl⟩ := List.mem_map.mp hd
  refine List.mem_map.mpr ⟨_, Table.mem_updateWhere.mpr ⟨b, hb, rfl⟩, ?_⟩
  by_cases hid : b.id = a.id
  · obtain rfl := nodup_id_of_attemptIndexes hindex hb ha hid
    simp only [decide_true, if_true]
    rcases AttemptWriter.write_stores hwrite with rfl | hs
    · rfl
    · exact hs.same.chargeDimensions
  · simp only [hid, decide_false, Bool.false_eq_true, if_false]

/-- The admission of an attempt approves nothing. -/
theorem Db.ChargesLinked.admitted {a a' : PaymentAttempt} (h : db.ChargesLinked)
    (hindex : attemptIndexes db.attempts = true) (ha : a ∈ db.attempts)
    (hprepared : a.isPrepared = true) (hwrite : AttemptWriter.admitPrepared.write now a = .ok a') :
    ({ db with attempts := Table.updateWhere (·.id = a.id) (fun _ => a') db.attempts } :
      Db).ChargesLinked := by
  refine h.of_attempts (dimensions_subset_replace hindex ha hwrite) fun b hb _ hstatus => .inl ?_
  rcases Table.mem_replaceBy hb with ⟨hb, -⟩ | rfl
  · exact ⟨b, hb, rfl, rfl, hstatus, rfl⟩
  · have hopen : a.status ≠ .approved := by
      intro happroved
      simp [PaymentAttempt.isPrepared, happroved] at hprepared
    rcases AttemptWriter.write_stores hwrite with rfl | hs
    · exact absurd hstatus hopen
    · rcases hs.approved hstatus with happroves | heq
      · cases happroves
      · exact absurd (heq ▸ hstatus) hopen

/-- The application of an approval has its primary charge. -/
theorem Db.ChargesLinked.applied {a : PaymentAttempt} {evidence : ProcessorEvidence}
    {subscriptionId methodId : Id} (h : db.ChargesLinked) (hvalid : db.Valid) (ha : a ∈ db.attempts)
    (happroved : AttemptApproved now a evidence subscriptionId methodId db db')
    (happlied : ChargeApplied a evidence db db') (hframe : SameFrame db db') :
    db'.ChargesLinked := by
  obtain ⟨a', hwrite, hattempts, -⟩ := happroved
  obtain ⟨htraced, hsome, -, c, hc, hattempt, hevidence, -, hrole⟩ := happlied
  have hledger : ({ db with ledger := db'.ledger } : Db).ChargesLinked :=
    h.of_ledger hvalid.charges ((htraced now).mono (List.nil_subset _))
      (h.attested.of_kept hvalid.charges (htraced now).toChargesKept hframe.attestations)
  refine Db.ChargesLinked.congr
    (hledger.of_attempts (dimensions_subset_replace hvalid.attempts ha hwrite) fun b hb _ hstatus =>
      ?_) hattempts rfl
  rcases Table.mem_replaceBy hb with ⟨hb, -⟩ | rfl
  · exact .inl ⟨b, hb, rfl, rfl, hstatus, rfl⟩
  · have hid : b.id = a.id := by
      rcases AttemptWriter.write_stores hwrite with rfl | hs
      · rfl
      · exact hs.same.id
    have htx : b.evidence.transactionId = evidence.transactionId := transactionId_of_approval hwrite
    exact .inr ⟨c, hc, hattempt.trans hid.symm, hrole, hevidence ▸ hsome, by rw [hevidence, htx]⟩

/-- An effect keeps the relation. -/
theorem Effect.linked (h : Effect now db db') (hvalid : db.Valid) (hlinked : db.ChargesLinked) :
    db'.ChargesLinked := by
  cases h with
  | reserve s kind gateway attemptId key period h => exact hlinked.insert
  | insert n => exact hlinked.insert
  | admitPrepared r a a' s mem prepared _ _ _ _ _ _ write =>
    exact hlinked.admitted hvalid.attempts mem prepared write
  | admitUpdate r a a' s mem prepared _ _ _ _ write =>
    exact hlinked.admitted hvalid.attempts mem prepared write
  | renew r a evidence renewed =>
    obtain ⟨s, -, methodId, renewed', discounted, -, -, -, happroved, -⟩ := renewed.subscription
    exact hlinked.applied hvalid renewed.mem happroved renewed.charge renewed.frame
  | enroll r a evidence enrolled =>
    obtain ⟨subscriptionId, methodId, -, -, -, -, -, -, -, -, happroved, -⟩ := enrolled.subscription
    exact hlinked.applied hvalid enrolled.mem happroved enrolled.charge enrolled.frame
  | retire s period accessEndsAt attempts subscriptions _ _ _ _ _ _ rejected =>
    have hquiet : Quiet now db { db with attempts } :=
      Quiet.of_writeAttempts rejected fun a _ _ => AttemptWriter.quietWriter_of_isPlain rfl a
    exact (hquiet.linked hvalid.charges hlinked).congr rfl rfl
  | _ => exact hlinked.congr rfl rfl

/-- An effect adds no charge. -/
theorem Effect.dated (h : Effect now db db') (hdated : ∀ c ∈ db.ledger.charges, c.createdAt ≤ now) :
    ∀ c ∈ db'.ledger.charges, c.createdAt ≤ now := by
  cases h with
  | renew r a evidence renewed => exact (renewed.charge.1 now).dated hdated
  | enroll r a evidence enrolled => exact (enrolled.charge.1 now).dated hdated
  | _ => exact hdated

end Effects

/-- No charge is from the future. -/
def Db.ChargesDated (db : Db) : Prop := ∀ c ∈ db.ledger.charges, c.createdAt ≤ db.clock

/-- The charges are linked to the attempts, and not from the future, along every run. -/
theorem Db.law_chargesLinked : Db.Law fun db => db.ChargesLinked ∧ db.ChargesDated where
  fresh db h := by
    refine ⟨⟨?_, ?_, ?_⟩, ?_⟩
    · rw [h.charges]
      exact List.forall_mem_nil _
    · intro t ht
      rw [h.charges] at ht
      cases ht
    · rw [h.attempts]
      exact List.forall_mem_nil _
    · rw [Db.ChargesDated, h.charges]
      exact List.forall_mem_nil _
  later db now _ hle h := ⟨h.1.congr rfl rfl, fun c hc => (h.2 c hc).trans hle⟩
  quiet db db' hvalid hquiet h := by
    refine ⟨hquiet.linked hvalid.charges h.1, ?_⟩
    rw [Db.ChargesDated, hquiet.clock]
    exact hquiet.dated h.2
  effect db db' hvalid heffect h := by
    refine ⟨heffect.linked hvalid h.1, ?_⟩
    rw [Db.ChargesDated, heffect.clock]
    exact heffect.dated h.2

end SyrupRail
