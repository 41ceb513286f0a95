import SyrupRail.Store.HostCharge

/-!
# Runs of host charges

The operations of a deployment that also charges for the host's targets, and their runs. Like the
engine's own, each is a sequence of statements, whatever the host answers, so that it keeps the
record of the store. The host's answers and what it was told are beside the tables of the engine:
`HostQuiet` is a transaction that leaves what the host was told, and `HostStored` any transaction,
by its statements alone.
-/

namespace SyrupRail

open Transactions Tx

/-! ## Runs -/

/-- Whether an operation of the engine writes host charges on its own, past the host. -/
def Op.writesHostCharges : Op → Bool
  | .writeOther .. | .expireHostCharges _ | .attestReversal .. => true
  | .manualFailure _ mode _ => !mode.isRetryRenewal
  | _ => false

/-- The transactions of host charges, of lifecycle reports, of operators, and of the deletion of
billing data, between the operations of the engine. -/
inductive HostOp
  | engine (op : Op) (other : op.writesHostCharges = false)
  | reserve (r : HostChargeReservation)
  | admitSubmission (r : HostChargeReservation)
  | applyApproved (newChargeId : Id) (liveRecipient : Bool) (r : HostChargeReservation)
      (evidence : ProcessorEvidence)
  | observeConflicting (newChargeId : Id) (r : HostChargeReservation) (evidence : ProcessorEvidence)
  | observeTerminal (newChargeId : Id) (r : HostChargeReservation) (closed : PaymentAttempt)
      (evidence : ProcessorEvidence)
  | park (newChargeId : Id) (r : HostChargeReservation) (evidence : ProcessorEvidence)
  | resolve (newChargeId : Id) (r : HostChargeReservation) (observed : ProcessorEvidence)
      (outcome : NonApproval)
  | restore (r : HostChargeReservation)
  | expire (candidate : StaleHostChargeCandidate)
  | report (account : GatewayLifecycleAccount) (evidence : StoredEvidence)
  | attest (rules : TextRules) (attestation : ReversalAttestation)
  | failReviewed (sanitize : String → String) (preloaded : Option PaymentAttempt)
  | scrub (billingScopeId subscriberId : Id)

section Runs

variable {η : Type} (host : HostStores η)

/-- The outcome of a host charge that is not an approval. -/
def resolveHostCharge (now : Timestamp) (newChargeId : Id) (r : HostChargeReservation)
    (observed : ProcessorEvidence) (outcome : NonApproval) : HostProgram η PaymentAttempt :=
  if outcome = .unknown then onEngine (resolveHostChargeUnknown now newChargeId r observed)
  else
    resolveHostChargeNonApproved host.toHostChargeTargetStore now newChargeId r observed
      outcome.command

/-- The transaction of an operation. -/
def HostOp.transaction (now : Timestamp) : HostOp → HostProgram η Unit
  | .engine op _ => onEngine (op.transaction now)
  | .reserve r => discard (reserveHostCharge host.toHostChargeTargetStore now r)
  | .admitSubmission r => discard (admitHostChargeSubmission host.toHostChargeTargetStore now r)
  | .applyApproved newChargeId liveRecipient r evidence =>
    discard
      (applyHostChargeApproved host.toHostChargeTargetStore now newChargeId liveRecipient r
        evidence)
  | .observeConflicting newChargeId r evidence =>
    onEngine (discard (observeConflictingHostCharge now newChargeId r evidence))
  | .observeTerminal newChargeId r closed evidence =>
    onEngine (discard (observeTerminalHostCharge now newChargeId r closed evidence))
  | .park newChargeId r evidence =>
    onEngine (discard (parkHostChargeApproved now newChargeId r evidence))
  | .resolve newChargeId r observed outcome =>
    discard (resolveHostCharge host now newChargeId r observed outcome)
  | .restore r => onEngine (discard (restoreAdmittedHostCharge now r))
  | .expire candidate => failStaleHostCharge host.toHostChargeTargetStore now candidate
  | .report account evidence =>
    discard (reportLifecycle host.toHostChargeTargetStore now account evidence)
  | .attest rules attestation => discard (attestHostReversal host now rules attestation)
  | .failReviewed sanitize preloaded =>
    discard (failReviewRequiredAttempt host now sanitize preloaded)
  | .scrub billingScopeId subscriberId =>
    onEngine (discard (scrubSubscriberBillingData now billingScopeId subscriberId))

/-- The tables at a later time. -/
def HostBilling.at (s : HostBilling η) (now : Timestamp) : HostBilling η :=
  { s with db := s.db.at now }

/-- The tables after an operation that starts `elapsed` microseconds after the previous one. A
failure leaves them as they were, those of the host too. -/
def execHost (s : HostBilling η) (step : ℕ × HostOp) : HostBilling η :=
  let now := s.db.clock + step.1
  match step.2.transaction host now (s.at now) with
  | .ok (_, s') => s'
  | .error _ => s.at now

/-- A deployment in which nothing has happened. -/
structure HostBilling.Fresh (s : HostBilling η) : Prop where
  db : s.db.Fresh
  paid : s.paid = []
  told : s.told = []

end Runs

/-! ## Statements -/

section Statements

variable {η : Type} {W : AttemptWriter → Prop} {now : Timestamp}

/-- A transaction that tells the host nothing. -/
structure HostQuiet (W : AttemptWriter → Prop) (now : Timestamp) (s s' : HostBilling η) : Prop where
  statements : Statements W now s.db s'.db
  paid : s'.paid = s.paid
  told : s'.told = s.told

instance : Std.Refl (HostQuiet (η := η) W now) := ⟨fun _ => ⟨.refl, rfl, rfl⟩⟩

instance : IsTrans (HostBilling η) (HostQuiet W now) :=
  ⟨fun _ _ _ h h' => ⟨h.statements.trans h'.statements, h'.paid.trans h.paid, h'.told.trans h.told⟩⟩

/-! ## Rules -/

/-- A program of the engine. -/
theorem ensures_onEngine {α : Type} {x : Program α} {s : HostBilling η}
    {Q : α → HostBilling η → Prop} (h : Ensures x s.db fun a db => Q a { s with db }) :
    Ensures (onEngine x) s Q := by
  intro a s' hx
  unfold onEngine at hx
  split at hx
  · rename_i b db hrun
    obtain ⟨rfl, rfl⟩ := Prod.mk.inj (Except.ok.inj hx)
    exact h _ _ hrun
  · cases hx

/-- A callback. -/
theorem ensures_askHost {α : Type} {callback : Db → η → Option (η × α)} {s : HostBilling η}
    {Q : α → HostBilling η → Prop} (h : ∀ host answer, Q answer { s with host }) :
    Ensures (askHost callback) s Q := by
  intro a s' hx
  unfold askHost at hx
  split at hx
  · obtain ⟨rfl, rfl⟩ := Prod.mk.inj (Except.ok.inj hx)
    exact h _ _
  · cases hx

/-- A transition that the host is told of. -/
theorem ensures_tellHost {targets : HostChargeTargetStore η}
    {transition : HostChargeTargetTransition} {s : HostBilling η}
    {Q : HostTargetOutcome → HostBilling η → Prop}
    (h : ∀ host outcome,
      Q outcome { s with host, told := s.told ++ [.transition transition outcome] }) :
    Ensures (tellHost targets transition) s Q := by
  rw [tellHost, ensures_bind]
  refine ensures_askHost fun host outcome => ?_
  rw [ensures_bind, ensures_modify, ensures_pure]
  exact h host outcome

/-- The host's part in a report that is applied. -/
theorem ensures_tellReversal {targets : HostChargeTargetStore η} {evidence : StoredEvidence}
    {a : LifecycleAttempt} {s : HostBilling η} {Q : Bool → HostBilling η → Prop} (hquiet : Q true s)
    (htold : ∀ kind targetId h outcome, a.hostChargeTargetId = some targetId →
      Q outcome.isApplied { s with
        host := h
        told := s.told ++
          [.transition (hostReversal now evidence a kind targetId).transition outcome] }) :
    Ensures (tellReversal targets now evidence a) s Q := by
  have quiet : Ensures (pure true : HostProgram η Bool) s Q := ensures_pure.mpr hquiet
  unfold tellReversal
  split
  · rename_i kind _ _
    cases htarget : a.hostChargeTargetId with
    | none => exact ensures_throw
    | some targetId =>
      dsimp only
      rw [ensures_bind]
      exact ensures_tellHost fun h outcome =>
        ensures_pure.mpr (htold kind targetId h outcome htarget)
  · exact quiet

/-- The host's part in a manual failure. -/
theorem ensures_tellFailed {host : HostStores η} {failed : Option (Id × ManualFailureHostCharge)}
    {s : HostBilling η} {Q : Unit → HostBilling η → Prop} (hnone : failed = none → Q () s)
    (hsome : ∀ attemptId charge h, failed = some (attemptId, charge) →
      Q () { s with host := h, told := s.told ++ [.failed attemptId charge] }) :
    Ensures (tellFailed host failed) s Q := by
  intro u s' hrun
  unfold tellFailed at hrun
  split at hrun
  · obtain ⟨rfl, rfl⟩ := Prod.mk.inj (Except.ok.inj hrun)
    exact hnone rfl
  · rename_i attemptId charge
    split at hrun
    · rename_i h _ _
      obtain ⟨rfl, rfl⟩ := Prod.mk.inj (Except.ok.inj hrun)
      exact hsome attemptId charge h rfl
    · cases hrun

/-- Statements that pay nothing, in a transaction of a host charge. -/
theorem onEngine_quiet {α : Type} {x : Program α} (h : Keeps (Statements W now) x) :
    Keeps (HostQuiet (η := η) W now) (onEngine x) :=
  fun s => ensures_onEngine ((h s.db).mono fun _ _ hstatements => ⟨hstatements, rfl, rfl⟩)

/-- A callback changes the host's tables only. -/
theorem askHost_quiet {α : Type} (callback : Db → η → Option (η × α)) :
    Keeps (HostQuiet W now) (askHost callback) :=
  fun _ => ensures_askHost fun _ _ => ⟨.refl, rfl, rfl⟩

/-! ## The programs -/

/-- Reading an attempt changes nothing. -/
theorem ensures_lockExpectedHostCharge {r : HostChargeReservation} {db : Db}
    {Q : PaymentAttempt → Db → Prop} (h : ∀ a ∈ db.attempts, r.matchesAttempt a = true → Q a db) :
    Ensures (lockExpectedHostCharge r) db Q := by
  rw [lockExpectedHostCharge, ensures_bind]
  refine ensures_requireAttempt fun a ha _ _ => ?_
  rw [ensures_ite]
  exact ⟨fun hmatches => ensures_pure.mpr (h a ha hmatches), fun _ => ensures_throw⟩

/-- The lock of a host charge reads its attempt. -/
theorem lockExpectedHostCharge_statements (r : HostChargeReservation) :
    Keeps (Statements W now) (lockExpectedHostCharge r) :=
  (requireAttempt_statements _ _ _).bind fun a => (keeps_pure a).ite (keeps_throw _)

/-- The charge of an approval is observed, and has to be the attempt's own. -/
theorem claimHostCharge_statements (newId : Id) (a : PaymentAttempt)
    (evidence : ProcessorEvidence) :
    Keeps (Statements W now) (claimHostCharge now newId a evidence) := by
  refine (observe_statements _ _ _ _).bind fun o => ?_
  cases o with
  | ownedByOtherAttempt => exact keeps_throw _
  | owned charge => exact (keeps_throw _).ite (keeps_pure charge)

/-- The approval of an open attempt writes it, and then moves its charge. -/
theorem ensures_payHostCharge (r : HostChargeReservation) (a : PaymentAttempt)
    (evidence : ProcessorEvidence) (chargeId : Id) (db : Db) :
    Ensures (payHostCharge now r a evidence chargeId) db fun _ db' => ∃ attempts,
      writeAttempt now invalidApplicationState a.id (.persist evidence (.approved .hostCharge))
        db.attempts = .ok attempts ∧ Statements W now { db with attempts } db' := by
  rw [payHostCharge, ensures_bind]
  refine ensures_onAttempts.mpr fun attempts hwritten => ?_
  have hrest : Keeps (Statements W now) (do
      moveCharge now chargeId .applied none
      requireAttempt invalidHostChargeState r.identity.billingScopeId r.identity.attemptId) :=
    (moveCharge_statements _ _ _).bind fun _ => requireAttempt_statements _ _ _
  exact (hrest _).mono fun _ db' hafter => ⟨attempts, hwritten, hafter⟩

/-- So it is a sequence of statements, where that writer is allowed. -/
theorem payHostCharge_statements (r : HostChargeReservation) (a : PaymentAttempt)
    {evidence : ProcessorEvidence} (hpay : W (.persist evidence (.approved .hostCharge)))
    (chargeId : Id) :
    Keeps (Statements W now) (payHostCharge now r a evidence chargeId) := by
  refine (writeAllowed_statements _ _ hpay).bind fun _ => ?_
  exact (moveCharge_statements _ _ _).bind fun _ => requireAttempt_statements _ _ _

/-- An approval of an attempt that is closed is observed, and promoted where it conflicts. -/
theorem observeConflictingHostCharge_statements (newId : Id) (r : HostChargeReservation)
    (evidence : ProcessorEvidence) :
    Keeps (Statements W now) (observeConflictingHostCharge now newId r evidence) := by
  refine (lockExpectedHostCharge_statements r).bind fun a => ?_
  refine (keeps_pure a).ite ((keeps_pure a).ite (Keeps.ite ?_ ?_))
  · exact (observe_statements _ _ _ _).bind fun _ => keeps_pure a
  · refine (observe_statements _ _ _ _).bind fun o => ?_
    exact ((promoteConflicting_statements o).bind fun _ => keeps_pure a).ite (keeps_pure a)

/-- An approval of a closed attempt is observed, and the attempt has to be as it was. -/
theorem observeTerminalHostCharge_statements (newId : Id) (r : HostChargeReservation)
    (closed : PaymentAttempt) (evidence : ProcessorEvidence) :
    Keeps (Statements W now) (observeTerminalHostCharge now newId r closed evidence) := by
  refine (observe_statements _ _ _ _).bind fun o => ?_
  cases o with
  | ownedByOtherAttempt => exact keeps_throw _
  | owned _ =>
    exact (lockExpectedHostCharge_statements r).bind fun a => (keeps_throw _).ite (keeps_pure a)

/-- A submission is given back for another try. -/
theorem restoreAdmittedHostCharge_statements (hrestore : W .restore) (r : HostChargeReservation) :
    Keeps (Statements W now) (restoreAdmittedHostCharge now r) :=
  (lockExpectedHostCharge_statements r).bind fun _ =>
    ((writeAllowed_statements _ _ hrestore).bind fun _ => requireAttempt_statements _ _ _).ite
      (requireAttempt_statements _ _ _)

/-- The key of an insertion decides whether it gives way, and the indexes whether it succeeds. -/
theorem insertUnlessKeyed_statements (n : NewAttempt) :
    Keeps (Statements W now) (insertUnlessKeyed n) := by
  refine keeps_statement fun db attempts inserted h => ?_
  split_ifs at h
  · obtain ⟨rfl, -⟩ := Prod.mk.inj (Except.ok.inj h)
    exact .refl
  · obtain ⟨rows, hrows, hpair⟩ := map_eq_ok.mp h
    obtain ⟨rfl, -⟩ := Prod.mk.inj hpair
    obtain ⟨rfl, hindex⟩ := storeAttempts_eq_ok hrows
    have hinserted : insertAttempt n db.attempts = (n.row :: db.attempts, true) := by
      rw [insertAttempt, if_pos hindex]
    have hone : Statements W now db { db with attempts := (insertAttempt n db.attempts).1 } :=
      (Statement.insertAttempt n).one
    rwa [hinserted] at hone

/-- An attempt is read by its key, or the program fails. -/
theorem requireAttemptByKey_statements (r : HostChargeReservation) :
    Keeps (Statements W now) (requireAttemptByKey r) := by
  refine (keeps_read _).bind fun found => ?_
  cases found with
  | none => exact keeps_throw _
  | some a => exact keeps_pure a

/-- The attempt of a host charge is inserted, or found by its key. -/
theorem insertReservedHostCharge_statements (r : HostChargeReservation) :
    Keeps (Statements W now) (insertReservedHostCharge now r) := by
  refine (insertUnlessKeyed_statements _).bind fun inserted => Keeps.bind ?_ fun attemptId => ?_
  · rw [keyedAttemptId]
    exact (keeps_pure _).ite ((requireAttemptByKey_statements r).map _)
  · refine (requireAttempt_statements _ _ _).bind fun a => ?_
    exact (keeps_pure _).ite ((keeps_pure _).ite ((keeps_pure _).ite (keeps_pure _)))

/-- A reservation asks the host and tells it nothing. -/
theorem reserveHostCharge_quiet (targets : HostChargeTargetStore η) (r : HostChargeReservation) :
    Keeps (HostQuiet W now) (reserveHostCharge targets now r) := by
  refine (askHost_quiet _).bind fun decision => ?_
  cases decision with
  | reserved snapshot =>
    exact (keeps_pure _).ite (onEngine_quiet (insertReservedHostCharge_statements r))
  | idempotentContender snapshot =>
    refine (onEngine_quiet (requireAttemptByKey_statements r)).bind fun existing => ?_
    exact (keeps_pure _).ite ((keeps_pure _).ite (keeps_pure _))
  | rejected reason => exact keeps_pure _

section CommonWriters

variable [CommonWriters W]

/-- The approval of a target that the host no longer sells is parked. -/
theorem parkStaleHostCharge_statements (a : PaymentAttempt) (evidence : ProcessorEvidence)
    (chargeId : Id) : Keeps (Statements W now) (parkStaleHostCharge now a evidence chargeId) :=
  (moveCharge_statements _ _ _).bind fun _ => parkLockedAttempt_statements _ _ _ _

/-- The compensation of a host charge observes its evidence, and parks its attempt unless it
conflicts. -/
theorem parkHostChargeApproved_statements (newId : Id) (r : HostChargeReservation)
    (evidence : ProcessorEvidence) :
    Keeps (Statements W now) (parkHostChargeApproved now newId r evidence) := by
  refine (lockExpectedHostCharge_statements r).bind fun a => Keeps.ite ?_ ?_
  -- Where the identities conflict only the charge is moved, and otherwise the attempt is parked.
  · refine (keeps_pure a).ite (Keeps.ite ?_ ?_)
    · refine (observe_statements _ _ _ _).bind fun o => ?_
      cases o with
      | ownedByOtherAttempt => exact keeps_pure a
      | owned charge => exact (moveCharge_statements _ _ _).bind fun _ => keeps_pure a
    · exact (observe_statements _ _ _ _).bind fun o =>
        (promoteConflicting_statements o).bind fun _ => keeps_pure a
  · refine (observe_statements _ _ _ _).bind fun o => ?_
    cases o with
    | ownedByOtherAttempt => exact parkLockedAttempt_statements _ _ _ _
    | owned charge =>
      exact (moveCharge_statements _ _ _).bind fun _ => parkLockedAttempt_statements _ _ _ _

/-- An outcome is written on the locked attempt. -/
theorem resolveLockedHostCharge_statements (newId : Id) (r : HostChargeReservation)
    (a : PaymentAttempt) (evidence : ProcessorEvidence) (c : OutcomeResolutionCommand) :
    Keeps (Statements W now) (resolveLockedHostCharge now newId r a evidence c) := by
  refine (persist_statements _ _ (c.isCommon_writer evidence)).bind fun _ => Keeps.ite ?_ ?_
  · exact (observe_statements _ _ _ _).bind fun _ => requireAttempt_statements _ _ _
  · exact requireAttempt_statements _ _ _

/-- An unknown outcome, which needs no answer of the host. -/
theorem resolveHostChargeUnknown_statements (newId : Id) (r : HostChargeReservation)
    (observed : ProcessorEvidence) :
    Keeps (Statements W now) (resolveHostChargeUnknown now newId r observed) :=
  (lockExpectedHostCharge_statements r).bind fun _ =>
    (requireAttempt_statements _ _ _).ite (resolveLockedHostCharge_statements _ _ _ _ _)

/-- The decision of the host is written on the locked attempt. -/
theorem admitLockedHostCharge_statements (r : HostChargeReservation)
    (decision : HostChargeSubmissionDecision) :
    Keeps (Statements W now) (admitLockedHostCharge now r decision) := by
  refine (requireAttempt_statements _ _ _).bind fun a => ?_
  refine (keeps_throw _).ite ((keeps_pure _).ite ((keeps_throw _).ite ?_))
  split
  · exact (writeAttempt_statements _ _ _ rfl).bind fun _ =>
      (requireAttempt_statements _ _ _).bind fun _ => keeps_pure _
  · exact (writeAdmission_statements _ _ rfl).map _

/-- An admission asks the host and tells it nothing. -/
theorem admitHostCharge_quiet (targets : HostChargeTargetStore η) (r : HostChargeReservation) :
    Keeps (HostQuiet W now) (admitHostChargeSubmission targets now r) := by
  refine (onEngine_quiet (requireAttempt_statements _ _ _)).bind fun observed => ?_
  refine (keeps_throw _).ite
    ((keeps_pure _).ite ((keeps_throw _).ite ((askHost_quiet _).bind fun d => ?_)))
  exact onEngine_quiet (admitLockedHostCharge_statements r d)

end CommonWriters

/-! ## Transactions -/

/-- A transaction, by its statements on the tables of the engine. -/
def HostStored (W : AttemptWriter → Prop) (now : Timestamp) (s s' : HostBilling η) : Prop :=
  Statements W now s.db s'.db

instance : Std.Refl (HostStored (η := η) W now) := ⟨fun _ => .refl⟩

instance : IsTrans (HostBilling η) (HostStored W now) :=
  ⟨fun _ _ _ h h' => Relation.ReflTransGen.trans h h'⟩

/-- A transaction that tells the host nothing is one of statements. -/
theorem HostQuiet.stored {s s' : HostBilling η} (h : HostQuiet W now s s') :
    HostStored W now s s' :=
  h.statements

/-- Statements of the engine. -/
theorem onEngine_stored {α : Type} {x : Program α} (h : Keeps (Statements W now) x) :
    Keeps (HostStored (η := η) W now) (onEngine x) :=
  fun s => (onEngine_quiet h s).mono fun _ _ hquiet => hquiet.stored

/-- What the host is told is no statement of the engine. -/
theorem tellHost_stored (targets : HostChargeTargetStore η)
    (transition : HostChargeTargetTransition) :
    Keeps (HostStored W now) (tellHost targets transition) :=
  fun _ => ensures_tellHost fun _ _ => .refl

/-- The update of a report is a statement. -/
theorem reportAttempt_statements (account : GatewayLifecycleAccount) (refunded : ℕ)
    (evidence : StoredEvidence) (attemptId : Id) :
    Keeps (Statements W now)
      (onAttempts (reportAttempt now account refunded evidence attemptId)) := by
  intro db
  refine ensures_onAttempts.mpr fun attempts h => ?_
  obtain ⟨hrows, hindex⟩ := reportAttempt_revised h
  exact (Statement.revise hrows hindex).one

/-- A report, whatever the host answers. -/
theorem reportLifecycle_stored (targets : HostChargeTargetStore η)
    (account : GatewayLifecycleAccount) (evidence : StoredEvidence) :
    Keeps (HostStored W now) (reportLifecycle targets now account evidence) := by
  refine keeps_get.bind fun _ => (keeps_throw _).ite ?_
  refine (onEngine_stored (keeps_read _)).bind fun candidates => ?_
  split
  · exact keeps_pure _
  refine (onEngine_stored (keeps_read _)).bind fun transition => ?_
  cases transition with
  | apply refunded =>
    refine (onEngine_stored (reportAttempt_statements _ _ _ _)).bind fun _ =>
      Keeps.bind ?_ fun applied => ?_
    · exact fun s => ensures_tellReversal .refl fun _ _ _ _ _ => .refl
    · exact (keeps_pure _).ite (keeps_throw _)
  | alreadySuperseded => exact keeps_pure _
  | invalidRefundEconomics => exact keeps_pure _
  | conflictingLifecycleEvidence => exact keeps_pure _

/-- The deletion of billing data. -/
theorem scrub_statements (billingScopeId subscriberId : Id) :
    Keeps (Statements W now) (scrubSubscriberBillingData now billingScopeId subscriberId) := by
  refine Keeps.bind ?_ fun _ => keeps_get.bind fun db => Keeps.bind ?_ fun _ => keeps_pure _
  · refine keeps_statement fun db attempts rows h => ?_
    obtain ⟨hrows, hindex⟩ := scrubAttempts_revised h
    exact (Statement.revise hrows hindex).one
  · exact keeps_modify fun db => (Statement.others _ _ _ _ _).one

/-- An attestation leaves the tables that the engine's own does. -/
theorem attestReversal_of_withHost {H : Type} {rules : TextRules}
    {reversals : ExternalReversalHostStore H} {t : ReversalAttestation} {db db' : Db} {h h' : H}
    {answer : ExternalReversalAttestationAnswer}
    (hrun : attestExternalReversalWithHost rules reversals now t (db, h) = .ok (answer, db', h')) :
    ∃ outcome, attestReversal rules now t db = .ok (outcome, db') := by
  obtain ⟨⟨outcome, db₁⟩, hattest, hrest⟩ := bind_eq_ok.mp hrun
  cases outcome with
  | notFound | ineligible | replayConflict =>
    obtain ⟨-, hdb⟩ := Prod.mk.inj (Except.ok.inj hrest)
    obtain ⟨rfl, -⟩ := Prod.mk.inj hdb
    exact ⟨_, hattest⟩
  | attested | replayed =>
    obtain ⟨_, -, hrest⟩ := bind_eq_ok.mp hrest
    obtain ⟨-, hdb⟩ := Prod.mk.inj (Except.ok.inj hrest)
    obtain ⟨rfl, -⟩ := Prod.mk.inj hdb
    exact ⟨_, hattest⟩

/-- The writer of an operation that is not a common one. -/
def HostOp.rareWriter : HostOp → Option AttemptWriter
  | .engine op _ => op.rareWriter
  | .applyApproved _ _ _ evidence => some (.persist evidence (.approved .hostCharge))
  | .restore _ => some .restore
  | _ => none

section CommonWriters

variable [CommonWriters W]

/-- An approval, with what the host answers to it. -/
theorem applyHostChargeApproved_stored (targets : HostChargeTargetStore η) (newId : Id)
    (liveRecipient : Bool) (r : HostChargeReservation) {evidence : ProcessorEvidence}
    (hpay : W (.persist evidence (.approved .hostCharge))) :
    Keeps (HostStored W now)
      (applyHostChargeApproved targets now newId liveRecipient r evidence) := by
  refine (keeps_throw _).ite ((tellHost_stored _ _).bind fun outcome => ?_)
  -- The host has answered before the attempt is locked; its answer decides the last branch only.
  refine (onEngine_stored (lockExpectedHostCharge_statements r)).bind fun a => ?_
  refine (keeps_throw _).ite (Keeps.ite ?_ ((keeps_throw _).ite ?_))
  · exact (onEngine_stored (observe_statements _ _ _ _)).bind fun _ => keeps_pure a
  refine (onEngine_stored (claimHostCharge_statements _ _ _)).bind fun charge => ?_
  have hpaid : Keeps (HostStored (η := η) W now) (do
      let applied ← onEngine (payHostCharge now r a evidence charge.id)
      appendPaid now r.paidEvent
      pure applied) := by
    refine (onEngine_stored (payHostCharge_statements r a hpay charge.id)).bind fun applied => ?_
    have hevent : Keeps (HostStored (η := η) W now) (appendPaid now r.paidEvent) :=
      keeps_modify fun _ => Relation.ReflTransGen.refl
    exact hevent.bind fun _ => keeps_pure applied
  cases outcome with
  | applied => exact hpaid
  | exactReplay => exact hpaid
  | staleTarget => exact onEngine_stored (parkStaleHostCharge_statements a evidence charge.id)
  | unchanged => exact keeps_throw _

/-- An outcome other than an approval, with the release or the failure that the host is told. -/
theorem resolveHostCharge_stored (host : HostStores η) (newId : Id)
    (r : HostChargeReservation) (observed : ProcessorEvidence) (outcome : NonApproval) :
    Keeps (HostStored W now) (resolveHostCharge host now newId r observed outcome) := by
  refine (onEngine_stored (resolveHostChargeUnknown_statements newId r observed)).ite ?_
  refine (tellHost_stored _ _).bind fun _ => (keeps_throw _).ite ?_
  refine (onEngine_stored (lockExpectedHostCharge_statements r)).bind fun a => ?_
  refine (keeps_throw _).ite ((keeps_throw _).ite ?_)
  exact onEngine_stored (resolveLockedHostCharge_statements newId r a _ _)

/-- The expiry of a stale charge, which the host has to agree to. -/
theorem failStaleHostCharge_stored (targets : HostChargeTargetStore η)
    (c : StaleHostChargeCandidate) :
    Keeps (HostStored W now) (failStaleHostCharge targets now c) := by
  refine (tellHost_stored _ _).bind fun _ => (keeps_throw _).ite (keeps_get.bind fun _ => ?_)
  exact (onEngine_stored (writeAttempts_statements _ _ rfl)).ite (keeps_throw _)

/-- An attestation, with the host. -/
theorem attestHostReversal_stored (host : HostStores η) (rules : TextRules)
    (t : ReversalAttestation) : Keeps (HostStored W now) (attestHostReversal host now rules t) := by
  intro s answer s' hrun
  unfold attestHostReversal at hrun
  split at hrun
  · rename_i answer' db h releases hattest
    obtain ⟨-, rfl⟩ := Prod.mk.inj (Except.ok.inj hrun)
    obtain ⟨outcome, hdb⟩ := attestReversal_of_withHost hattest
    exact attestReversal_statements rules t s.db outcome db hdb
  · cases hrun

/-- A manual failure, with the host. -/
theorem failReviewRequiredAttempt_stored (host : HostStores η) (sanitize : String → String)
    (preloaded : Option PaymentAttempt) :
    Keeps (HostStored W now) (failReviewRequiredAttempt host now sanitize preloaded) := by
  refine keeps_get.bind fun s => ?_
  refine (onEngine_stored (failReviewRequired_statements _ _ _)).bind fun outcome => ?_
  refine Keeps.bind ?_ fun _ => keeps_pure _
  exact fun s => ensures_tellFailed (fun _ => .refl) fun _ _ _ _ => .refl

/-- Every operation is a sequence of statements, whatever the host answers. -/
theorem HostOp.statements (host : HostStores η) (op : HostOp)
    (hrare : ∀ w, op.rareWriter = some w → W w) :
    Keeps (HostStored W now) (op.transaction host now) := by
  cases op with
  | engine op other => exact onEngine_stored (op.statements hrare)
  | reserve r => exact fun s => ((reserveHostCharge_quiet _ r).discard s).mono fun _ _ h => h.stored
  | admitSubmission r =>
    exact fun s => ((admitHostCharge_quiet _ r).discard s).mono fun _ _ h => h.stored
  | applyApproved newId liveRecipient r evidence =>
    exact (applyHostChargeApproved_stored _ newId liveRecipient r (hrare _ rfl)).discard
  | observeConflicting newId r evidence =>
    exact onEngine_stored (observeConflictingHostCharge_statements newId r evidence).discard
  | observeTerminal newId r closed evidence =>
    exact onEngine_stored (observeTerminalHostCharge_statements newId r closed evidence).discard
  | park newId r evidence =>
    exact onEngine_stored (parkHostChargeApproved_statements newId r evidence).discard
  | resolve newId r observed outcome =>
    exact (resolveHostCharge_stored host newId r observed outcome).discard
  | restore r =>
    exact onEngine_stored (restoreAdmittedHostCharge_statements (hrare _ rfl) r).discard
  | expire candidate => exact failStaleHostCharge_stored _ candidate
  | report account evidence => exact (reportLifecycle_stored _ account evidence).discard
  | attest rules t => exact (attestHostReversal_stored host rules t).discard
  | failReviewed sanitize preloaded =>
    exact (failReviewRequiredAttempt_stored host sanitize preloaded).discard
  | scrub billingScopeId subscriberId =>
    exact onEngine_stored (scrub_statements billingScopeId subscriberId).discard

end CommonWriters

end Statements

/-! ## The record -/

section Record

variable {η : Type} (host : HostStores η)

/-- A transaction that commits keeps the keys and the record. -/
theorem HostOp.recordKept (op : HostOp) {now : Timestamp} {s s' : HostBilling η}
    (hkeyed : s.db.Keyed) (hrun : op.transaction host now s = .ok ((), s')) :
    s'.db.Keyed ∧ RecordKept s.db s'.db :=
  Statements.recordKept (W := AnyWriter)
    (op.statements host (fun _ _ => trivial) s () s' hrun) hkeyed

/-- So does an operation, also when it fails. -/
theorem execHost_recordKept (step : ℕ × HostOp) {s : HostBilling η} (hkeyed : s.db.Keyed) :
    (execHost host s step).db.Keyed ∧ RecordKept s.db (execHost host s step).db := by
  have hkeyedAt : (s.at (s.db.clock + step.1)).db.Keyed :=
    ⟨hkeyed.attempts, hkeyed.charges, hkeyed.grants⟩
  have hkeptAt : RecordKept s.db (s.at (s.db.clock + step.1)).db :=
    { RecordKept.refl s.db with }
  unfold execHost
  dsimp only
  split
  · rename_i s' hrun
    obtain ⟨hkeyed', hkept⟩ := step.2.recordKept host hkeyedAt hrun
    exact ⟨hkeyed', hkeptAt.trans hkept⟩
  · exact ⟨hkeyedAt, hkeptAt⟩

/-- So does a run. -/
theorem runHost_recordKept (steps : List (ℕ × HostOp)) {s : HostBilling η} (hkeyed : s.db.Keyed) :
    (run (execHost host) s steps).db.Keyed ∧ RecordKept s.db (run (execHost host) s steps).db :=
  run_keeps (I := fun s : HostBilling η => s.db.Keyed)
    (R := fun s s' : HostBilling η => RecordKept s.db s'.db) (fun s => .refl s.db)
    (fun _ _ _ => .trans) (fun _ step hkeyed => execHost_recordKept host step hkeyed) steps hkeyed

/-- The record of a store is append-only. Whatever a run of a deployment has recorded, every later
store still has: each attempt with its request, and an approved one with its approval, of which
lifecycle reports may move the settlement and the deletion of billing data may clear the texts and
the card; each charge of the processor with its attempt, its role, and its evidence, in which at
most a missing transaction was filled in; each attestation; each subscription with its owner; each
grant with its terms and its revocation; and the events that the host was told, in their order. -/
theorem record_append_only {s₀ : HostBilling η} (hfresh : s₀.Fresh)
    (steps later : List (ℕ × HostOp)) :
    let s := run (execHost host) s₀ steps
    RecordKept s.db (run (execHost host) s later).db :=
  (runHost_recordKept host later (runHost_recordKept host steps hfresh.db.keyed).1).2

/-- A host that sells seats at one price, and has a table of the seats that are paid. -/
def seats : HostStores (List Id) where
  reserveTarget r _ paid :=
    some (paid, if r.targetId ∈ paid then .rejected .targetUnavailable
      else .reserved ⟨r.targetId, ⟨500, "USD"⟩⟩)
  ensureSubmissionAdmitted a _ paid :=
    some (paid, if a.targetId ∈ paid then .rejected .targetUnavailable
      else .admitted ⟨a.targetId, a.expectedCharge⟩)
  applyTransition t _ paid :=
    if t.kind.isReversal then
      some (paid.filter (· ≠ t.targetId), if t.targetId ∈ paid then .applied else .exactReplay)
    else if t.targetId ∈ paid then
      some (paid, if t.kind = .paid then .exactReplay else .staleTarget)
    else if t.kind = .paid then some (t.targetId :: paid, .applied)
    else some (paid, .applied)
  release _ paid := .ok (paid, .unchanged)
  lockPaymentFailureTarget _ _ := .ok ()
  markPaymentFailed _ paid := .ok (paid, .unchanged)

/-- The charge of a seat. -/
def seatCharge : HostChargeReservation where
  identity := ⟨1, 1, 1, 1, 1, .live⟩
  snapshot := ⟨7, ⟨500, "USD"⟩⟩
  idempotencyKey := "seat"
  gatewayOrderId := "o"
  positive := Nat.succ_ne_zero 499

/-- A seat is reserved, and its charge approved. -/
def paidSeat : List (ℕ × HostOp) :=
  [(0, .reserve seatCharge), (0, .admitSubmission seatCharge),
    (0, .applyApproved 1 true seatCharge (approvedEvidence "tx-1"))]

/-- The report of the full refund of a seat. -/
def seatRefund : StoredEvidence := ⟨some "tx-1", none, .refunded 500, none, none, some 9⟩

/-- The refund is applied, and the billing data of the subscriber is deleted. -/
def refundedSeat : List (ℕ × HostOp) :=
  [(10, .report ⟨1, 1, "nmi"⟩ seatRefund), (0, .scrub 1 1)]

/-- The approval of a seat is there after its refund and after the deletion of the subscriber's
billing data. -/
theorem record_append_only_seat :
    let s := run (execHost seats) ⟨accountStore, [], [], []⟩ paidSeat
    let s' := run (execHost seats) s refundedSeat
    (s.db.attempts.map fun a => (a.status, a.lifecycle, a.evidence.response)) =
        [(.approved, .unknown, some "1")] ∧
      (s'.db.attempts.map fun a => (a.status, a.lifecycle, a.evidence.response)) =
        [(.approved, .refunded 500, none)] ∧
      s'.db.ledger.charges.length = 1 ∧ RecordKept s.db s'.db :=
  ⟨by decide +kernel, by decide +kernel, by decide +kernel,
    record_append_only seats ⟨accountStore_fresh, rfl, rfl⟩ paidSeat refundedSeat⟩

end Record

end SyrupRail
