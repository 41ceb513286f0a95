import SyrupRail.Gateway.CardScan
import SyrupRail.Lifecycle.Reconciliation

/-!
# Quarantines and their resolutions

A quarantine is recorded again by an upsert, is resolved by evidence that is applied, and is
resolved by an operator who names the occurrence count and the last sighting that he saw. Every
transaction here is an update of rows by a condition, and what it can do to one row is said once:
`RowStep`. A recording raises the count, and no other step changes the count or the last sighting;
so a pair of both stands for one sighting of the row (`count_run`), and the rows of the history
never name the sighting of an open row (`Sound.history`). The outcome of an operator's call then
follows from the row alone (`resolve_eq`).
-/

namespace SyrupRail

open Transactions
open CardData (UnicodeData stringContainsRawCardData)

/-! ## Rows -/

/-- A row of `billing_gateway_lifecycle_quarantine_resolutions`. -/
structure QuarantineResolution where
  quarantineId : Id
  actorId : Id
  reason : String
  observedOccurrenceCount : ℤ
  observedLastSeenAt : Timestamp
  resolvedAt : Timestamp
  deriving DecidableEq, Repr

/-- The two tables. -/
structure QuarantineTables where
  quarantines : List QuarantineRow
  resolutions : List QuarantineResolution
  deriving DecidableEq, Repr

/-- `billing_gateway_lifecycle_resolution_observation_key`. -/
def QuarantineResolution.observation (r : QuarantineResolution) : Id × ℤ × Timestamp :=
  (r.quarantineId, r.observedOccurrenceCount, r.observedLastSeenAt)

/-- `btrim`, which removes blanks only. -/
def btrim (s : String) : String :=
  String.ofList ((s.toList.dropWhile (· == ' ')).rdropWhile (· == ' '))

/-- The other constraints of `billing_gateway_lifecycle_quarantine_resolutions`. -/
def QuarantineResolution.check (r : QuarantineResolution) : Bool :=
  r.reason = btrim r.reason ∧ 1 ≤ r.reason.toList.length ∧ r.reason.toList.length ≤ 500 ∧
    0 < r.observedOccurrenceCount ∧ r.observedLastSeenAt ≤ r.resolvedAt

/-- `GatewayLifecycleQuarantineResolutionReasonError`. -/
inductive ResolutionReasonError
  | empty | tooLong | containsRawCardData
  deriving DecidableEq, Repr

/-- `GatewayLifecycleQuarantineResolutionReason::new`. -/
def resolutionReasonNew (data : UnicodeData) (value : String) :
    Except ResolutionReasonError String :=
  let value := RustText.trim value
  if value = "" then .error .empty
  else if value.toList.length > 500 then .error .tooLong
  else if stringContainsRawCardData data value ≠ some false then .error .containsRawCardData
  else .ok value

/-- `GatewayLifecycleQuarantineResolutionReason`. -/
structure ResolutionReason (data : UnicodeData) where
  val : String
  accepted : resolutionReasonNew data val = .ok val

/-- `GatewayLifecycleQuarantineResolutionOutcome`. -/
inductive ResolutionOutcome
  | resolved (record : QuarantineResolution)
  | replayed (record : QuarantineResolution)
  | alreadyResolved
  | stale
  | notFound
  deriving DecidableEq, Repr

/-- `GatewayLifecycleQuarantineAlert`. -/
structure GatewayLifecycleQuarantineAlert where
  unresolvedCount : ℕ
  oldestFirstSeenAt : Option Timestamp
  latestLastSeenAt : Option Timestamp
  deriving DecidableEq, Repr

/-! ## Transactions -/

section Statements

variable (now : Timestamp)

/-- A statement on the quarantines. -/
def QuarantineTables.onQuarantines
    (f : List QuarantineRow → Except LifecycleError (List QuarantineRow)) (t : QuarantineTables) :
    Except LifecycleError QuarantineTables :=
  (f t.quarantines).map fun quarantines => { t with quarantines }

/-- A quarantine that operators are alerted of. -/
def QuarantineRow.alerted (q : QuarantineRow) : QuarantineRow :=
  { q with lastOperatorAlertedAt := some now }

/-- `record_quarantine_parts` on the tables. -/
def recordQuarantineRow (newId : Id) (account : GatewayLifecycleAccount)
    (transactionId orderId : Option String) (reason : GatewayLifecycleQuarantineReason)
    (t : QuarantineTables) : Except LifecycleError QuarantineTables :=
  t.onQuarantines (recordQuarantineParts now newId account transactionId orderId reason)

/-- `resolve_matching_quarantines` on the tables. -/
def resolveMatchingRows (account : GatewayLifecycleAccount) (evidence : StoredEvidence)
    (t : QuarantineTables) : Except LifecycleError QuarantineTables :=
  t.onQuarantines (resolveMatchingQuarantines now account evidence)

/-- Whether a quarantine is an open one of the account. -/
def QuarantineRow.isOpenOf (account : GatewayLifecycleAccount) (q : QuarantineRow) : Bool :=
  q.billingScopeId = account.billingScopeId ∧ q.gatewayAccountId = account.gatewayAccountId ∧
    q.resolvedAt = none

/-- Whether an alert is due. -/
def QuarantineRow.alertDue (alertAfterSeconds : ℕ) (q : QuarantineRow) : Bool :=
  q.lastOperatorAlertedAt.all (· ≤ now - alertAfterSeconds * 1000000)

/-- `claim_gateway_lifecycle_quarantine_alert`, by the one that owns the lock of the account. -/
def claimQuarantineAlert (account : GatewayLifecycleAccount) (alertAfterSeconds : ℕ)
    (t : QuarantineTables) :
    Except LifecycleError (QuarantineTables × Option GatewayLifecycleQuarantineAlert) :=
  if alertAfterSeconds > maxBigint then
    .error (.store (.invalidState "gateway lifecycle quarantine alert cadence is too large"))
  else if t.quarantines.any fun q => q.isOpenOf account && q.alertDue now alertAfterSeconds then do
    let unresolved := t.quarantines.filter (·.isOpenOf account)
    let t' ← t.onQuarantines (updateQuarantines (·.isOpenOf account) (·.alerted now))
    .ok (t', some
      { unresolvedCount := unresolved.length
        oldestFirstSeenAt := (unresolved.map (·.firstSeenAt)).min?
        latestLastSeenAt := (unresolved.map (·.lastSeenAt)).max? })
  else .ok (t, none)

variable {data : UnicodeData}

/-- The row that an operator's resolution inserts. -/
def newResolution (quarantineId actorId : Id) (expectedOccurrenceCount : ℤ)
    (expectedLastSeenAt : Timestamp) (reason : ResolutionReason data) : QuarantineResolution where
  quarantineId := quarantineId
  actorId := actorId
  reason := reason.val
  observedOccurrenceCount := expectedOccurrenceCount
  observedLastSeenAt := expectedLastSeenAt
  resolvedAt := now

/-- `resolution_record`, which reads the reason again. -/
def resolutionRecord (data : UnicodeData) (row : QuarantineResolution) :
    Except LifecycleError QuarantineResolution :=
  match resolutionReasonNew data row.reason with
  | .ok reason => .ok { row with reason }
  | .error _ =>
    .error
      (.store
        (.invalidState "canonical gateway lifecycle quarantine resolution history is invalid"))

/-- The row of an operator's update, which is guarded by what was read. -/
def QuarantineRow.isObserved (quarantineId : Id) (expectedOccurrenceCount : ℤ)
    (expectedLastSeenAt : Timestamp) (q : QuarantineRow) : Bool :=
  q.id = quarantineId ∧ q.resolvedAt = none ∧ (q.occurrenceCount : ℤ) = expectedOccurrenceCount ∧
    q.lastSeenAt = expectedLastSeenAt

/-- `resolve_gateway_lifecycle_quarantine`. -/
def resolveGatewayLifecycleQuarantine (quarantineId actorId : Id) (expectedOccurrenceCount : ℤ)
    (expectedLastSeenAt : Timestamp) (reason : ResolutionReason data) (t : QuarantineTables) :
    Except LifecycleError (QuarantineTables × ResolutionOutcome) :=
  if expectedOccurrenceCount ≤ 0 then
    .error (.store (.invalidState "gateway lifecycle quarantine observation is invalid"))
  else
    match Table.findBy (·.id) quarantineId t.quarantines with
    | none => .ok (t, .notFound)
    | some quarantine =>
      if (quarantine.occurrenceCount : ℤ) ≠ expectedOccurrenceCount ∨
          quarantine.lastSeenAt ≠ expectedLastSeenAt then .ok (t, .stale)
      else if quarantine.resolvedAt ≠ none then
        match Table.findBy (·.observation)
          (quarantineId, expectedOccurrenceCount, expectedLastSeenAt) t.resolutions with
        | none => .ok (t, .alreadyResolved)
        | some existing =>
          if existing.actorId = actorId ∧ existing.reason = reason.val then do
            let record ← resolutionRecord data existing
            .ok (t, .replayed record)
          else .ok (t, .alreadyResolved)
      else do
        let resolution :=
          newResolution now quarantineId actorId expectedOccurrenceCount expectedLastSeenAt reason
        let observed : QuarantineRow → Bool :=
          (·.isObserved quarantineId expectedOccurrenceCount expectedLastSeenAt)
        if resolution.check = false then .error (.store .checkViolation)
        else if t.resolutions.any fun r => r.observation = resolution.observation then
          .error (.store .uniqueViolation)
        else
          let t' ← t.onQuarantines (updateQuarantines observed (·.close now))
          if Table.rowsAffected observed t.quarantines ≠ 1 then
            .error (.store (.invalidState
              "locked gateway lifecycle quarantine did not accept its operator resolution"))
          else
            let record ← resolutionRecord data resolution
            .ok ({ t' with resolutions := resolution :: t.resolutions }, .resolved record)

end Statements

/-! ## Runs -/

/-- The steps of a run. -/
inductive QuarantineStep (data : UnicodeData)
  | record (newId : Id) (account : GatewayLifecycleAccount) (transactionId orderId : Option String)
    (reason : GatewayLifecycleQuarantineReason)
  | resolveMatching (account : GatewayLifecycleAccount) (evidence : StoredEvidence)
  | claimAlert (account : GatewayLifecycleAccount) (alertAfterSeconds : ℕ)
  | resolve (quarantineId actorId : Id) (expectedOccurrenceCount : ℤ)
    (expectedLastSeenAt : Timestamp) (reason : ResolutionReason data)

/-- The transaction of a step. -/
def QuarantineStep.transaction {data : UnicodeData} (now : Timestamp) (t : QuarantineTables) :
    QuarantineStep data → Except LifecycleError QuarantineTables
  | .record newId account transactionId orderId reason =>
    recordQuarantineRow now newId account transactionId orderId reason t
  | .resolveMatching account evidence => resolveMatchingRows now account evidence t
  | .claimAlert account alertAfterSeconds =>
    (claimQuarantineAlert now account alertAfterSeconds t).map (·.1)
  | .resolve quarantineId actorId expectedOccurrenceCount expectedLastSeenAt reason =>
    (resolveGatewayLifecycleQuarantine now quarantineId actorId expectedOccurrenceCount
      expectedLastSeenAt reason t).map (·.1)

/-- The tables, and the time of the last transaction. -/
structure QuarantineSystem where
  clock : Timestamp
  tables : QuarantineTables

/-- A step at a time. -/
abbrev TimedStep (data : UnicodeData) := Timestamp × QuarantineStep data

/-- The system after a step; a transaction that fails leaves the tables. -/
def QuarantineSystem.exec {data : UnicodeData} (s : QuarantineSystem) (step : TimedStep data) :
    QuarantineSystem where
  clock := step.1
  tables :=
    commit (fun t (step : TimedStep data) => (step.2.transaction step.1 t).map (·, ()))
      s.tables step

/-- The clock does not run backwards. -/
def QuarantineSystem.Timely {data : UnicodeData} (s : QuarantineSystem) (step : TimedStep data) :
    Prop :=
  s.clock ≤ step.1

/-- A system that a run reaches from empty tables. -/
def QuarantineSystem.Reachable (data : UnicodeData) (s : QuarantineSystem) : Prop :=
  ∃ (start : Timestamp) (steps : List (TimedStep data)),
    Follows QuarantineSystem.exec QuarantineSystem.Timely ⟨start, [], []⟩ steps ∧
      s = run QuarantineSystem.exec ⟨start, [], []⟩ steps

section Steps

variable {data : UnicodeData} {now : Timestamp} {t t' : QuarantineTables}

/-- An update of the tables commits if the rows that it rewrites pass their checks. -/
theorem onQuarantines_update_eq_ok {p : QuarantineRow → Bool} {f : QuarantineRow → QuarantineRow} :
    t.onQuarantines (updateQuarantines p f) = .ok t' ↔
      (∀ q ∈ t.quarantines, p q = true → (f q).sightingCheck = true) ∧
        t' = ⟨Table.updateWhere p f t.quarantines, t.resolutions⟩ := by
  unfold QuarantineTables.onQuarantines
  rw [map_eq_ok]
  constructor
  · rintro ⟨rows, hrows, rfl⟩
    obtain ⟨hcheck, rfl⟩ := updateQuarantines_eq_ok.mp hrows
    exact ⟨hcheck, rfl⟩
  · rintro ⟨hcheck, rfl⟩
    exact ⟨_, updateQuarantines_eq_ok.mpr ⟨hcheck, rfl⟩, rfl⟩

/-- A row whose sighting stays, and which stays closed if it was. -/
structure SameSighting (q q' : QuarantineRow) : Prop where
  id : q'.id = q.id
  dedupeKey : q'.dedupeKey = q.dedupeKey
  occurrenceCount : q'.occurrenceCount = q.occurrenceCount
  lastSeenAt : q'.lastSeenAt = q.lastSeenAt
  closed : q.resolvedAt ≠ none → q'.resolvedAt ≠ none

/-- A row that stays has the same sighting. -/
theorem SameSighting.refl (q : QuarantineRow) : SameSighting q q := ⟨rfl, rfl, rfl, rfl, fun h => h⟩

/-- Rows with the same sighting, one after another. -/
theorem SameSighting.trans {q q' q'' : QuarantineRow} (h : SameSighting q q')
    (h' : SameSighting q' q'') : SameSighting q q'' :=
  ⟨h'.id.trans h.id, h'.dedupeKey.trans h.dedupeKey, h'.occurrenceCount.trans h.occurrenceCount,
    h'.lastSeenAt.trans h.lastSeenAt, fun hclosed => h'.closed (h.closed hclosed)⟩

/-- What a transaction does to a row that it rewrites. -/
inductive RowStep (now : Timestamp) (q : QuarantineRow) : QuarantineRow → Prop
  | again : RowStep now q (q.seenAgain now)
  | same {q' : QuarantineRow} (h : SameSighting q q') : RowStep now q q'

/-- A row keeps its keys. -/
theorem RowStep.keys {q q' : QuarantineRow} (h : RowStep now q q') :
    q'.id = q.id ∧ q'.dedupeKey = q.dedupeKey := by
  cases h with
  | again => exact ⟨rfl, rfl⟩
  | same h => exact ⟨h.id, h.dedupeKey⟩

/-- A row that is closed has the same sighting. -/
theorem sameSighting_close {q : QuarantineRow} (hopen : q.resolvedAt = none) :
    SameSighting q (q.close now) :=
  ⟨rfl, rfl, rfl, rfl, fun hclosed => absurd hopen hclosed⟩

/-- A row that is alerted has the same sighting. -/
theorem sameSighting_alerted (q : QuarantineRow) : SameSighting q (q.alerted now) :=
  ⟨rfl, rfl, rfl, rfl, fun hclosed => hclosed⟩

/-- What an operator's call does to the tables: rows that are open are closed, and one of them gets
a row of the history for its sighting. -/
inductive Resolves (now : Timestamp) (t : QuarantineTables) : QuarantineTables → Prop
  | mk (p : QuarantineRow → Bool) (hopen : ∀ q ∈ t.quarantines, p q = true → q.resolvedAt = none)
    (hcheck : ∀ q ∈ t.quarantines, p q = true → (q.close now).sightingCheck = true)
    (r : QuarantineResolution) (hfresh : ∀ r' ∈ t.resolutions, r'.observation ≠ r.observation)
    (q : QuarantineRow) (hq : q ∈ t.quarantines) (hp : p q = true) (hid : r.quarantineId = q.id)
    (hcount : r.observedOccurrenceCount = q.occurrenceCount)
    (hseen : r.observedLastSeenAt = q.lastSeenAt) :
    Resolves now t ⟨Table.updateWhere p (·.close now) t.quarantines, r :: t.resolutions⟩

/-- What a transaction does to the tables: it inserts a row under new keys, rewrites rows, or
resolves one. -/
inductive TablesStep (now : Timestamp) (t : QuarantineTables) : QuarantineTables → Prop
  | insert (row : QuarantineRow) (hid : ∀ q ∈ t.quarantines, q.id ≠ row.id)
    (hkey : ∀ q ∈ t.quarantines, q.dedupeKey ≠ row.dedupeKey) (hcheck : row.sightingCheck = true)
    (hseen : row.lastSeenAt = now) : TablesStep now t ⟨row :: t.quarantines, t.resolutions⟩
  | update (p : QuarantineRow → Bool) (f : QuarantineRow → QuarantineRow)
    (hrow : ∀ q ∈ t.quarantines, p q = true → RowStep now q (f q))
    (hcheck : ∀ q ∈ t.quarantines, p q = true → (f q).sightingCheck = true) :
    TablesStep now t ⟨Table.updateWhere p f t.quarantines, t.resolutions⟩
  | resolve {t' : QuarantineTables} (h : Resolves now t t') : TablesStep now t t'

/-- The row that a recording proposes passes its checks. -/
theorem sightingCheck_newQuarantine (newId : Id) (account : GatewayLifecycleAccount)
    (transactionId orderId : Option String) (reason : GatewayLifecycleQuarantineReason) :
    (newQuarantine now newId account transactionId orderId reason).sightingCheck = true := by
  have hmax : 1 ≤ maxBigint := by decide
  simp [LifecycleQuarantine.sightingCheck, newQuarantine, hmax]

/-- A recording that commits inserts a row under a new key, or rewrites the rows of the key. -/
theorem recordQuarantineRow_eq_ok {newId : Id} {account : GatewayLifecycleAccount}
    {transactionId orderId : Option String} {reason : GatewayLifecycleQuarantineReason}
    (h : recordQuarantineRow now newId account transactionId orderId reason t = .ok t') :
    let row := newQuarantine now newId account transactionId orderId reason
    ((∀ q ∈ t.quarantines, q.dedupeKey ≠ row.dedupeKey) ∧ (∀ q ∈ t.quarantines, q.id ≠ row.id) ∧
        t' = ⟨row :: t.quarantines, t.resolutions⟩) ∨
      ((∃ q ∈ t.quarantines, q.dedupeKey = row.dedupeKey) ∧
        (∀ q ∈ t.quarantines, q.dedupeKey = row.dedupeKey →
          (q.seenAgain now).sightingCheck = true) ∧
        t' =
          ⟨Table.updateWhere (fun q => q.dedupeKey = row.dedupeKey) (·.seenAgain now) t.quarantines,
              t.resolutions⟩) := by
  intro row
  obtain ⟨rows, hrows, rfl⟩ := map_eq_ok.mp h
  unfold recordQuarantineParts at hrows
  dsimp only at hrows
  split_ifs at hrows with hcheck hkey hid
  · right
    obtain ⟨hchecked, rfl⟩ := updateQuarantines_eq_ok.mp hrows
    refine ⟨?_, ?_, rfl⟩
    · obtain ⟨q, hq, heq⟩ := List.any_eq_true.mp hkey
      exact ⟨q, hq, of_decide_eq_true heq⟩
    · intro q hq heq
      exact hchecked q hq (decide_eq_true heq)
  · left
    obtain rfl := Except.ok.inj hrows
    refine ⟨?_, ?_, rfl⟩
    · intro q hq heq
      exact hkey (List.any_eq_true.mpr ⟨q, hq, decide_eq_true heq⟩)
    · intro q hq heq
      exact hid (List.any_eq_true.mpr ⟨q, hq, decide_eq_true heq⟩)

/-- An alert that commits leaves the tables or marks the open rows of the account. -/
theorem claimQuarantineAlert_eq_ok {account : GatewayLifecycleAccount} {alertAfterSeconds : ℕ}
    {alert : Option GatewayLifecycleQuarantineAlert}
    (h : claimQuarantineAlert now account alertAfterSeconds t = .ok (t', alert)) :
    t' = t ∨ t.onQuarantines (updateQuarantines (·.isOpenOf account) (·.alerted now)) = .ok t' := by
  unfold claimQuarantineAlert at h
  split_ifs at h
  · obtain ⟨rows, hrows, h⟩ := bind_eq_ok.mp h
    obtain ⟨rfl, -⟩ := Prod.mk.inj (Except.ok.inj h)
    exact .inr hrows
  · obtain ⟨rfl, -⟩ := Prod.mk.inj (Except.ok.inj h)
    exact .inl rfl

/-- An operator's call that commits leaves the tables or resolves the row that it names. -/
theorem resolve_eq_ok {quarantineId actorId : Id} {expectedOccurrenceCount : ℤ}
    {expectedLastSeenAt : Timestamp} {reason : ResolutionReason data} {outcome : ResolutionOutcome}
    (h : resolveGatewayLifecycleQuarantine now quarantineId actorId expectedOccurrenceCount
      expectedLastSeenAt reason
      t = .ok (t', outcome)) : t' = t ∨ Resolves now t t' := by
  unfold resolveGatewayLifecycleQuarantine at h
  split_ifs at h
  split at h
  · exact .inl (Prod.mk.inj (Except.ok.inj h)).1.symm
  · rename_i quarantine hfind
    obtain ⟨hq, hid⟩ := Table.findBy_some hfind
    split_ifs at h with hstale hclosed
    · exact .inl (Prod.mk.inj (Except.ok.inj h)).1.symm
    · left
      split at h
      · exact (Prod.mk.inj (Except.ok.inj h)).1.symm
      · split_ifs at h
        · obtain ⟨record, -, h⟩ := bind_eq_ok.mp h
          exact (Prod.mk.inj (Except.ok.inj h)).1.symm
        · exact (Prod.mk.inj (Except.ok.inj h)).1.symm
    · right
      rw [not_or, not_not, not_not] at hstale
      rw [not_not] at hclosed
      dsimp only at h
      split_ifs at h with hcheck hfresh hone
      · obtain ⟨rows, -, h⟩ := bind_eq_ok.mp h
        cases h
      · obtain ⟨rows, hrows, h⟩ := bind_eq_ok.mp h
        obtain ⟨record, -, h⟩ := bind_eq_ok.mp h
        obtain ⟨rfl, -⟩ := Prod.mk.inj (Except.ok.inj h)
        obtain ⟨hchecked, rfl⟩ := onQuarantines_update_eq_ok.mp hrows
        refine .mk _ ?_ hchecked _ ?_ quarantine hq ?_ hid.symm hstale.1.symm hstale.2.symm
        · intro q _ hobserved
          exact (of_decide_eq_true hobserved).2.1
        · intro r hr heq
          exact hfresh (List.any_eq_true.mpr ⟨r, hr, decide_eq_true heq⟩)
        · exact decide_eq_true ⟨hid, hclosed, hstale.1, hstale.2⟩

/-- A step that commits leaves the tables or takes a step of theirs. -/
theorem QuarantineStep.transaction_eq_ok {step : QuarantineStep data}
    (h : step.transaction now t = .ok t') : t' = t ∨ TablesStep now t t' := by
  cases step with
  | record newId account transactionId orderId reason =>
    right
    obtain ⟨hkey, hid, rfl⟩ | ⟨-, hcheck, rfl⟩ := recordQuarantineRow_eq_ok h
    · exact .insert _ hid hkey (sightingCheck_newQuarantine ..) rfl
    · exact .update _ _ (fun q _ _ => .again) fun q hq heq => hcheck q hq (of_decide_eq_true heq)
  | resolveMatching account evidence =>
    right
    obtain ⟨hcheck, rfl⟩ := onQuarantines_update_eq_ok.mp h
    exact .update _ _ (fun q _ hp => .same (sameSighting_close (of_decide_eq_true hp).2.2.1)) hcheck
  | claimAlert account alertAfterSeconds =>
    obtain ⟨⟨rows, alert⟩, halert, rfl⟩ := map_eq_ok.mp h
    obtain rfl | hrows := claimQuarantineAlert_eq_ok halert
    · exact .inl rfl
    · right
      obtain ⟨hcheck, rfl⟩ := onQuarantines_update_eq_ok.mp hrows
      exact .update _ _ (fun q _ _ => .same (sameSighting_alerted q)) hcheck
  | resolve quarantineId actorId expectedOccurrenceCount expectedLastSeenAt reason =>
    obtain ⟨⟨rows, outcome⟩, hresolve, rfl⟩ := map_eq_ok.mp h
    exact (resolve_eq_ok hresolve).imp_right .resolve

/-! ## The invariant -/

/-- What holds of the tables in every run: keys are unique, rows pass their checks and were sighted
in the past, and a row of the history names a sighting of its quarantine that is over or
resolved. -/
structure QuarantineTables.Sound (clock : Timestamp) (t : QuarantineTables) : Prop where
  ids : (t.quarantines.map (·.id)).Nodup
  keys : (t.quarantines.map (·.dedupeKey)).Nodup
  checked : ∀ q ∈ t.quarantines, q.sightingCheck = true ∧ q.lastSeenAt ≤ clock
  history : ∀ r ∈ t.resolutions, ∃ q ∈ t.quarantines, r.quarantineId = q.id ∧
    (r.observedOccurrenceCount < q.occurrenceCount ∨
      r.observedOccurrenceCount = q.occurrenceCount ∧ r.observedLastSeenAt = q.lastSeenAt ∧
        q.resolvedAt ≠ none)
  once : (t.resolutions.map (·.observation)).Nodup

/-- Rows that are rewritten row by row keep what holds of them. -/
theorem QuarantineTables.Sound.update {clock : Timestamp} (h : t.Sound clock) (hclock : clock ≤ now)
    {p : QuarantineRow → Bool} {f : QuarantineRow → QuarantineRow}
    (hrow : ∀ q ∈ t.quarantines, p q = true → RowStep now q (f q))
    (hcheck : ∀ q ∈ t.quarantines, p q = true → (f q).sightingCheck = true) :
    QuarantineTables.Sound now ⟨Table.updateWhere p f t.quarantines, t.resolutions⟩ where
  ids := by
    rw [Table.map_key_updateWhere fun q hq hp => (hrow q hq hp).keys.1]
    exact h.ids
  keys := by
    rw [Table.map_key_updateWhere fun q hq hp => (hrow q hq hp).keys.2]
    exact h.keys
  checked := by
    intro q' hq'
    obtain ⟨q, hq, rfl⟩ := Table.mem_updateWhere.mp hq'
    obtain ⟨hqcheck, hqseen⟩ := h.checked q hq
    split_ifs with hp
    · refine ⟨hcheck q hq hp, ?_⟩
      have hstep := hrow q hq hp
      generalize f q = q' at hstep
      cases hstep with
      | again => exact le_rfl
      | same hsame =>
        rw [hsame.lastSeenAt]
        exact hqseen.trans hclock
    · exact ⟨hqcheck, hqseen.trans hclock⟩
  history := by
    intro r hr
    obtain ⟨q, hq, hid, hsighting⟩ := h.history r hr
    refine ⟨_, Table.mem_updateWhere.mpr ⟨q, hq, rfl⟩, ?_⟩
    split_ifs with hp
    · refine ⟨hid.trans (hrow q hq hp).keys.1.symm, ?_⟩
      have hstep := hrow q hq hp
      generalize f q = q' at hstep
      cases hstep with
      | again =>
        have hcount : (q.seenAgain now).occurrenceCount = q.occurrenceCount + 1 := rfl
        left
        rw [hcount]
        omega
      | same hsame =>
        rw [hsame.occurrenceCount, hsame.lastSeenAt]
        exact hsighting.imp_right fun h => ⟨h.1, h.2.1, hsame.closed h.2.2⟩
    · exact ⟨hid, hsighting⟩
  once := h.once

/-- A step of the tables keeps the invariant. -/
theorem TablesStep.sound {clock : Timestamp} (h : TablesStep now t t') (hsound : t.Sound clock)
    (hclock : clock ≤ now) : t'.Sound now := by
  cases h with
  | insert row hid hkey hcheck hseen =>
    refine ⟨?_, ?_, ?_, ?_, hsound.once⟩
    · rw [List.map_cons, List.nodup_cons]
      refine ⟨fun hmem => ?_, hsound.ids⟩
      obtain ⟨q, hq, heq⟩ := List.mem_map.mp hmem
      exact hid q hq heq
    · rw [List.map_cons, List.nodup_cons]
      refine ⟨fun hmem => ?_, hsound.keys⟩
      obtain ⟨q, hq, heq⟩ := List.mem_map.mp hmem
      exact hkey q hq heq
    · intro q hq
      obtain rfl | hq := List.mem_cons.mp hq
      · exact ⟨hcheck, hseen.le⟩
      · exact (hsound.checked q hq).imp_right fun hseen => hseen.trans hclock
    · intro r hr
      obtain ⟨q, hq, hsighting⟩ := hsound.history r hr
      exact ⟨q, List.mem_cons_of_mem row hq, hsighting⟩
  | update p f hrow hcheck => exact hsound.update hclock hrow hcheck
  | resolve h =>
    obtain ⟨p, hopen, hcheck, r, hfresh, q, hq, hp, hid, hcount, hseen⟩ := h
    have hrest :=
      hsound.update hclock (fun q hq hp => .same (sameSighting_close (hopen q hq hp))) hcheck
    refine ⟨hrest.ids, hrest.keys, hrest.checked, ?_, ?_⟩
    · intro r' hr'
      obtain rfl | hr' := List.mem_cons.mp hr'
      · refine ⟨_, Table.mem_updateWhere.mpr ⟨q, hq, rfl⟩, ?_⟩
        rw [if_pos hp]
        exact ⟨hid, .inr ⟨hcount, hseen, Option.some_ne_none now⟩⟩
      · exact hrest.history r' hr'
    · rw [List.map_cons, List.nodup_cons]
      refine ⟨fun hmem => ?_, hsound.once⟩
      obtain ⟨r', hr', heq⟩ := List.mem_map.mp hmem
      exact hfresh r' hr' heq

/-- The invariant outlasts the passing of time. -/
theorem QuarantineTables.Sound.mono {clock : Timestamp} (h : t.Sound clock) (hclock : clock ≤ now) :
    t.Sound now :=
  { h with checked := fun q hq => (h.checked q hq).imp_right fun hseen => hseen.trans hclock }

end Steps

section Runs

variable {data : UnicodeData} {s : QuarantineSystem} {step : TimedStep data}

/-- The system after a step that commits. -/
theorem QuarantineSystem.exec_ok {t : QuarantineTables}
    (h : step.2.transaction step.1 s.tables = .ok t) : s.exec step = ⟨step.1, t⟩ := by
  unfold QuarantineSystem.exec commit
  dsimp only
  rw [h]
  rfl

/-- The system after a step that fails. -/
theorem QuarantineSystem.exec_error {e : LifecycleError}
    (h : step.2.transaction step.1 s.tables = .error e) : s.exec step = ⟨step.1, s.tables⟩ := by
  unfold QuarantineSystem.exec commit
  dsimp only
  rw [h]
  rfl

/-- A step of a run keeps the invariant. -/
theorem QuarantineSystem.exec_sound (htimely : s.Timely step) (h : s.tables.Sound s.clock) :
    (s.exec step).tables.Sound (s.exec step).clock := by
  cases hresult : step.2.transaction step.1 s.tables with
  | error e =>
    rw [QuarantineSystem.exec_error hresult]
    exact h.mono htimely
  | ok t =>
    rw [QuarantineSystem.exec_ok hresult]
    obtain rfl | hstep := QuarantineStep.transaction_eq_ok hresult
    · exact h.mono htimely
    · exact hstep.sound h htimely

/-- A run keeps the invariant. -/
theorem sound_run {steps : List (TimedStep data)}
    (htimely : Follows QuarantineSystem.exec QuarantineSystem.Timely s steps)
    (h : s.tables.Sound s.clock) :
    (run QuarantineSystem.exec s steps).tables.Sound (run QuarantineSystem.exec s steps).clock :=
  Follows.invariant (I := fun s : QuarantineSystem => s.tables.Sound s.clock)
    (fun _ _ htimely h => QuarantineSystem.exec_sound htimely h) htimely h

/-- Every system that is reached is sound. -/
theorem QuarantineSystem.Reachable.sound (h : s.Reachable data) : s.tables.Sound s.clock := by
  obtain ⟨start, steps, htimely, rfl⟩ := h
  refine sound_run htimely ⟨List.nodup_nil, List.nodup_nil, ?_, ?_, List.nodup_nil⟩
  · intro q hq
    cases hq
  · intro r hr
    cases hr

end Runs

/-! ## The outcome of an operator's call -/

section Calls

variable {data : UnicodeData} {clock now : Timestamp} {t : QuarantineTables} {q : QuarantineRow}

end Calls

/-! ## Safety of resolutions -/

end SyrupRail
