import Mathlib.Algebra.BigOperators.Group.List.Basic
import SyrupRail.Nmi.Amount
import SyrupRail.Nmi.Query

/-!
# Pages of reports

A page of reports lists transactions, each with its actions. The actions of a page share one
capacity: the loop of `query_transaction_reports_from_xml` reserves it for a transaction before its
actions are read, and gives it back when one of them is malformed. A subtraction that underflows
would panic, and is `none` here.

`reportTransaction_spec` says what one turn of the loop does: a transaction that is malformed or
does not fit leaves the capacity as it was, and any other takes as much of it as it has actions.
Along the page the capacity that is left and the actions that are returned add up to the capacity at
the start.
-/

namespace SyrupRail.Nmi

open RustText

/-! ## The code -/

/-- `TransactionAction`. -/
structure TransactionAction where
  actionType : Option String
  date : Option String
  amount : Option String
  success : Option String
  responseCode : Option String
  responseText : Option String
  deriving DecidableEq, Repr

/-- `TransactionReportDiagnostic`. -/
inductive TransactionReportDiagnostic
  | malformedStructure
  deriving DecidableEq, Repr

/-- `TransactionReport`. -/
structure TransactionReport where
  transactionId : Option String
  orderId : Option String
  condition : Option String
  actions : List TransactionAction
  diagnostics : List TransactionReportDiagnostic
  deriving DecidableEq, Repr

/-- `MAX_NMI_REPORT_RESPONSE_BYTES`. -/
def maxNmiReportResponseBytes : ℕ := 4 * 1024 * 1024

/-- `MAX_NMI_TRANSACTION_REPORTS`. -/
def maxNmiTransactionReports : ℕ := 100

/-- `MAX_NMI_REPORT_ACTIONS`. -/
def maxNmiReportActions : ℕ := 29000

/-- `normalize_report_success`. -/
def normalizeReportSuccess (value : String) : String :=
  let value := toAsciiLowercase (trim value)
  if value = "1" ∨ value = "true" then "1"
  else if value = "0" ∨ value = "false" then "0"
  else value

/-- `report_field`: the value, and whether it makes the structure malformed. -/
def reportField : ResolvedScalar → Option String × Bool
  | .missing => (none, false)
  | .oneConsistent value => (some value, false)
  | .invalidOrConflicting => (none, true)

/-- A field of a report: `collect_xml_scalar` with the bounds of a protocol scalar. -/
def reportScalar (node : XmlNode) (name : String) (normalize : String → String) : ResolvedScalar :=
  (collect (xmlOccurrences node name)).finishNormalized normalize

/-- A text of an action: `collect_xml_scalar` with the bounds of a gateway field. -/
def actionText (node : XmlNode) (name : String) : Option String :=
  (resolveOptionalScalar (collectBounded (xmlOccurrences node name))).1

/-- The fields of an action, and whether one of them is malformed. -/
def readAction (action : XmlNode) : TransactionAction × Bool :=
  let (actionType, malformedType) :=
    reportField (reportScalar action "action_type" normalizeGatewayState)
  let (date, malformedDate) := reportField (reportScalar action "date" id)
  let (amount, malformedAmount) := reportField (reportScalar action "amount" normalizeReportAmount)
  let (success, malformedSuccess) :=
    reportField (reportScalar action "success" normalizeReportSuccess)
  ({ actionType, date, amount, success
     responseCode := actionText action "response_code"
     responseText := actionText action "response_text" },
    malformedType || malformedDate || malformedAmount || malformedSuccess)

/-- The loop over the actions: those that were read, and whether it stopped at a malformed one. -/
def readActions : List XmlNode → List TransactionAction → List TransactionAction × Bool
  | [], actions => (actions, false)
  | action :: rest, actions =>
    let (read, malformed) := readAction action
    if malformed then (actions, true) else readActions rest (actions ++ [read])

/-- `remaining_action_capacity -= action_count`; an underflow panics. -/
def checkedSub (remaining count : ℕ) : Option ℕ :=
  if count ≤ remaining then some (remaining - count) else none

/-- The reservation for a transaction: whether it is malformed, what is reserved, and what
remains. -/
def reserveActions (malformed : Bool) (remaining : ℕ) (transaction : XmlNode) :
    Option (Bool × ℕ × ℕ) :=
  if malformed then some (true, 0, remaining)
  else
    match directElementCountWithoutNestedMatches transaction "action"
      "transaction report response" with
    | .ok count =>
      if count ≤ remaining then (checkedSub remaining count).map fun remaining =>
        (false, count, remaining)
      else some (true, 0, remaining)
    | .error _ => some (true, 0, remaining)

/-- One turn of the loop over the transactions: the report, and the capacity that remains. -/
def reportTransaction (remaining : ℕ) (transaction : XmlNode) : Option (TransactionReport × ℕ) :=
  let (transactionId, malformedId) := reportField (reportScalar transaction "transaction_id" id)
  let (orderId, malformedOrder) := reportField (reportScalar transaction "order_id" id)
  let (condition, malformedCondition) :=
    reportField (reportScalar transaction "condition" normalizeGatewayState)
  (reserveActions (malformedId || malformedOrder || malformedCondition) remaining transaction).map
    fun (malformed, reserved, remaining) =>
      let (actions, malformed) :=
        if malformed then ([], true) else readActions (elementChildrenNamed transaction "action") []
      if malformed then
        ({ transactionId, orderId, condition := none, actions := [],
           diagnostics := [.malformedStructure] },
          if 0 < reserved then remaining + reserved else remaining)
      else ({ transactionId, orderId, condition, actions, diagnostics := [] }, remaining)

/-- The loop over the transactions. -/
def readReports : ℕ → List XmlNode → Option (List TransactionReport × ℕ)
  | remaining, [] => some ([], remaining)
  | remaining, transaction :: rest => do
    let (report, remaining) ← reportTransaction remaining transaction
    let (reports, remaining) ← readReports remaining rest
    some (report :: reports, remaining)

/-- The transactions of a page. -/
def reportTransactions (parseXml : String → Option XmlNode) (text : String) :
    Except WireError (List XmlNode) :=
  if maxNmiReportResponseBytes < text.utf8ByteSize then
    .error (.malformedResponse "NMI transaction report response exceeded 4194304 bytes.")
  else
    match parseXml text with
    | none => .error (malformedXml text)
    | some root => do
      let envelope ← successfulQueryResponseRoot root "transaction report response"
      let count ← directElementCountWithoutNestedMatches envelope "transaction"
        "transaction report response"
      if maxNmiTransactionReports < count then
        throw (.malformedResponse "NMI transaction report response exceeded 100 transactions.")
      else pure (elementChildrenNamed envelope "transaction")

/-- `query_transaction_reports_from_xml`. -/
def queryTransactionReportsFromXml (parseXml : String → Option XmlNode) (text : String) :
    Option (Except WireError (List TransactionReport)) :=
  match reportTransactions parseXml text with
  | .error error => some (.error error)
  | .ok transactions => (readReports maxNmiReportActions transactions).map fun (reports, _) =>
    .ok reports

/-! ## One transaction -/

/-- A field of a report that is conflicting or malformed. -/
def fieldMalformed (node : XmlNode) (name : String) (normalize : String → String) : Bool :=
  reportScalar node name normalize == .invalidOrConflicting

/-- An action with a field that is conflicting or malformed. -/
def actionMalformed (action : XmlNode) : Bool :=
  fieldMalformed action "action_type" normalizeGatewayState || fieldMalformed action "date" id ||
    fieldMalformed action "amount" normalizeReportAmount ||
    fieldMalformed action "success" normalizeReportSuccess

/-- An action that is not a direct child. -/
def hasNestedAction (transaction : XmlNode) : Bool :=
  (transaction.descendants.filter (XmlNode.hasTagName "action")).length !=
    (elementChildrenNamed transaction "action").length

/-- A transaction with a field that is conflicting or malformed, of its own or of an action, or with
a nested action. -/
def transactionMalformed (transaction : XmlNode) : Bool :=
  fieldMalformed transaction "transaction_id" id || fieldMalformed transaction "order_id" id ||
    fieldMalformed transaction "condition" normalizeGatewayState || hasNestedAction transaction ||
    (elementChildrenNamed transaction "action").any actionMalformed

/-- The actions of a transaction. -/
def actionCount (transaction : XmlNode) : ℕ := (elementChildrenNamed transaction "action").length

/-- The report of a transaction that is malformed: its identifiers only. -/
def malformedReport (transaction : XmlNode) : TransactionReport :=
  { transactionId := (reportField (reportScalar transaction "transaction_id" id)).1
    orderId := (reportField (reportScalar transaction "order_id" id)).1
    condition := none
    actions := []
    diagnostics := [.malformedStructure] }

/-- The report of a transaction that is well formed. -/
def wellFormedReport (transaction : XmlNode) : TransactionReport :=
  { transactionId := (reportField (reportScalar transaction "transaction_id" id)).1
    orderId := (reportField (reportScalar transaction "order_id" id)).1
    condition := (reportField (reportScalar transaction "condition" normalizeGatewayState)).1
    actions := (elementChildrenNamed transaction "action").map fun action => (readAction action).1
    diagnostics := [] }

/-- The report of a transaction on its own. -/
def ownReport (transaction : XmlNode) : TransactionReport :=
  if transactionMalformed transaction then malformedReport transaction else wellFormedReport
    transaction

/-- A field makes a structure malformed when it is invalid. -/
theorem reportField_snd (scalar : ResolvedScalar) :
    (reportField scalar).2 = (scalar == .invalidOrConflicting) := by
  cases scalar <;> rfl

/-- An action is malformed when one of its fields is. -/
theorem readAction_snd (action : XmlNode) : (readAction action).2 = actionMalformed action := by
  unfold readAction actionMalformed fieldMalformed
  simp only [reportField_snd]

/-- The loop over the actions reads all of them, or stops at a malformed one. -/
theorem readActions_eq (nodes : List XmlNode) (actions : List TransactionAction) :
    (nodes.any actionMalformed = true ∧ (readActions nodes actions).2 = true) ∨
      (nodes.any actionMalformed = false ∧
        readActions nodes actions =
          (actions ++ nodes.map fun action => (readAction action).1, false)) := by
  induction nodes generalizing actions with
  | nil => exact .inr ⟨rfl, by simp [readActions]⟩
  | cons node nodes ih =>
    have hmalformed := readAction_snd node
    unfold readActions
    cases hnode : actionMalformed node with
    | true =>
      rw [hnode] at hmalformed
      refine .inl ⟨by simp [hnode], ?_⟩
      simp [hmalformed]
    | false =>
      rw [hnode] at hmalformed
      simp only [List.any_cons, hnode, Bool.false_or, hmalformed, Bool.false_eq_true, if_false]
      rcases ih (actions ++ [(readAction node).1]) with ⟨hany, hread⟩ | ⟨hany, hread⟩
      · exact .inl ⟨hany, hread⟩
      · refine .inr ⟨hany, ?_⟩
        rw [hread, List.map_cons, List.append_assoc, List.singleton_append]

/-- The count of the actions fails exactly when one is nested. -/
theorem directElementCount_actions (transaction : XmlNode) :
    (hasNestedAction transaction = true ∧ ∃ error,
      directElementCountWithoutNestedMatches transaction "action" "transaction report response" =
        .error error) ∨
      (hasNestedAction transaction = false ∧
        directElementCountWithoutNestedMatches transaction "action" "transaction report response" =
          .ok (actionCount transaction)) := by
  unfold directElementCountWithoutNestedMatches hasNestedAction actionCount
  dsimp only
  split_ifs with h
  · exact .inl ⟨h, _, rfl⟩
  · exact .inr ⟨by simpa using h, rfl⟩

/-- One turn of the loop: a transaction that is malformed or does not fit leaves the capacity as it
was, and any other takes as much as it has actions. The capacity of a transaction that is found
malformed while its actions are read was reserved, and is given back. -/
theorem reportTransaction_spec (remaining : ℕ) (transaction : XmlNode) :
    reportTransaction remaining transaction =
      if transactionMalformed transaction = true ∨ remaining < actionCount transaction then
        some (malformedReport transaction, remaining)
      else some (wellFormedReport transaction, remaining - actionCount transaction) := by
  unfold reportTransaction reserveActions
  simp only [reportField_snd]
  cases hfields : (reportScalar transaction "transaction_id" id == .invalidOrConflicting) ||
      (reportScalar transaction "order_id" id == .invalidOrConflicting) ||
      (reportScalar transaction "condition" normalizeGatewayState == .invalidOrConflicting) with
  | true =>
    have hmalformed : transactionMalformed transaction = true := by
      unfold transactionMalformed fieldMalformed
      rw [hfields, Bool.true_or, Bool.true_or]
    rw [if_pos rfl, if_pos (.inl hmalformed)]
    rfl
  | false =>
    have hmalformed : transactionMalformed transaction =
        (hasNestedAction transaction ||
            (elementChildrenNamed transaction "action").any actionMalformed) := by
      unfold transactionMalformed fieldMalformed
      rw [hfields, Bool.false_or]
    rw [if_neg (by simp)]
    rcases directElementCount_actions transaction with ⟨hnested, error, hcount⟩ | ⟨hnested, hcount⟩
    · rw [hcount, if_pos (.inl (by rw [hmalformed, hnested, Bool.true_or]))]
      rfl
    · rw [hcount]
      dsimp only
      by_cases hfits : actionCount transaction ≤ remaining
      · have hsub : checkedSub remaining (actionCount transaction) =
            some (remaining - actionCount transaction) := if_pos hfits
        rw [if_pos hfits, hsub, Option.map_some, Option.map_some]
        simp only [Bool.false_eq_true, if_false]
        rcases readActions_eq (elementChildrenNamed transaction "action") [] with
          ⟨hany, hread⟩ | ⟨hany, hread⟩
        · have hback : (if 0 < actionCount transaction then
              remaining - actionCount transaction + actionCount transaction
              else remaining - actionCount transaction) = remaining := by
            split_ifs <;> omega
          rw [if_pos hread, hback, if_pos (.inl (by rw [hmalformed, hany, Bool.or_true]))]
          rfl
        · rw [hread, if_neg (by simp), if_neg (by rw [hmalformed, hnested, hany]; simp [hfits])]
          rfl
      · rw [if_neg hfits, if_pos (.inr (by omega))]
        rfl

/-! ## The page -/

/-- The actions of the well-formed transactions of a page. -/
def wellFormedActions (transactions : List XmlNode) : ℕ :=
  ((transactions.filter fun transaction => !transactionMalformed transaction).map actionCount).sum

/-- The actions of the reports of a page. -/
def returnedActions (reports : List TransactionReport) : ℕ :=
  (reports.map fun report => report.actions.length).sum

/-- A malformed report has no actions, and a well-formed one those of its transaction. -/
theorem length_actions (transaction : XmlNode) :
    (malformedReport transaction).actions.length = 0 ∧
      (wellFormedReport transaction).actions.length = actionCount transaction :=
  ⟨rfl, List.length_map _⟩

/-- How the loop over the transactions ends: every transaction has its report, read with the
capacity that the reports before it have left. -/
theorem readReports_spec (remaining : ℕ) (transactions : List XmlNode) :
    ∃ reports left, readReports remaining transactions = some (reports, left) ∧
      reports.length = transactions.length ∧ returnedActions reports + left = remaining ∧
      ∀ i report transaction, reports[i]? = some report → transactions[i]? = some transaction →
        ∃ before after, returnedActions (reports.take i) + before = remaining ∧
          reportTransaction before transaction = some (report, after) := by
  induction transactions generalizing remaining with
  | nil =>
    refine ⟨[], remaining, rfl, rfl, Nat.zero_add _, fun i report transaction h => ?_⟩
    simp at h
  | cons transaction rest ih =>
    obtain ⟨report, after, hreport, hsum⟩ : ∃ report after,
        reportTransaction remaining transaction = some (report, after) ∧
          report.actions.length + after = remaining := by
      obtain ⟨hnone, hcount⟩ := length_actions transaction
      rw [reportTransaction_spec]
      split_ifs with h
      · exact ⟨_, _, rfl, by omega⟩
      · rw [not_or] at h
        exact ⟨_, _, rfl, by omega⟩
    obtain ⟨reports, left, hreports, hlength, htotal, hturn⟩ := ih after
    refine ⟨report :: reports, left,
      ?_, by simp [hlength], ?_, fun i report' transaction' hi hi' => ?_⟩
    · unfold readReports
      rw [hreport]
      simp only [Option.bind_eq_bind, Option.bind_some, hreports]
    · unfold returnedActions at htotal ⊢
      rw [List.map_cons, List.sum_cons]
      omega
    · cases i with
      | zero =>
        rw [List.getElem?_cons_zero] at hi hi'
        cases hi
        cases hi'
        exact ⟨remaining, after, by simp [returnedActions], hreport⟩
      | succ i =>
        rw [List.getElem?_cons_succ] at hi hi'
        obtain ⟨before, after', hbefore, hreport'⟩ := hturn i report' transaction' hi hi'
        refine ⟨before, after', ?_, hreport'⟩
        unfold returnedActions at hbefore ⊢
        rw [List.take_succ_cons, List.map_cons, List.sum_cons]
        omega

/-- Where the well-formed transactions fit together, every report is that of its transaction on its
own. -/
theorem readReports_own {remaining : ℕ} {transactions : List XmlNode}
    (hfits : wellFormedActions transactions ≤ remaining) {reports : List TransactionReport}
    {left : ℕ} (h : readReports remaining transactions = some (reports, left)) :
    reports = transactions.map ownReport := by
  induction transactions generalizing remaining reports left with
  | nil =>
    cases h
    rfl
  | cons transaction rest ih =>
    unfold readReports at h
    obtain ⟨⟨report, after⟩, hreport, h⟩ := Option.bind_eq_some_iff.mp h
    obtain ⟨⟨reports', left'⟩, hreports, h⟩ := Option.bind_eq_some_iff.mp h
    cases h
    rw [reportTransaction_spec] at hreport
    unfold wellFormedActions at hfits
    unfold ownReport
    cases hmalformed : transactionMalformed transaction with
    | true =>
      rw [if_pos (.inl hmalformed)] at hreport
      cases hreport
      rw [List.filter_cons_of_neg (by simp [hmalformed])] at hfits
      rw [List.map_cons, hmalformed, if_pos rfl, ih hfits hreports]
      rfl
    | false =>
      rw [List.filter_cons_of_pos (by simp [hmalformed]), List.map_cons, List.sum_cons] at hfits
      rw [if_neg (by rw [hmalformed]; simp; omega)] at hreport
      cases hreport
      have hrest : wellFormedActions rest ≤ remaining - actionCount transaction := by
        unfold wellFormedActions
        omega
      rw [List.map_cons, hmalformed, if_neg (by simp), ih hrest hreports]
      rfl

/-- A report is flagged exactly when its transaction is malformed, and then has no condition and no
actions. -/
theorem ownReport_spec (transaction : XmlNode) :
    ((ownReport transaction).diagnostics = [.malformedStructure] ↔
        transactionMalformed transaction = true) ∧
      (transactionMalformed transaction = true →
        (ownReport transaction).condition = none ∧ (ownReport transaction).actions = []) := by
  unfold ownReport
  cases transactionMalformed transaction with
  | true => exact ⟨iff_of_true rfl rfl, fun _ => ⟨rfl, rfl⟩⟩
  | false => exact ⟨iff_of_false nofun nofun, nofun⟩

/-- A page of reports isolates its transactions. The loop never underflows. Every report is read
from its own transaction and the capacity that the reports before it left, those that are malformed
having returned theirs; the actions returned never exceed the capacity. Where the well-formed
transactions fit together, a report is flagged exactly when its own transaction is malformed, then
has no condition and no actions, and is the same on every such page that has its transaction in its
place. -/
theorem report_pages_isolate (parseXml : String → Option XmlNode) (text : String) :
    (∃ result, queryTransactionReportsFromXml parseXml text = some result) ∧
    ∀ transactions reports, reportTransactions parseXml text = .ok transactions →
      queryTransactionReportsFromXml parseXml text = some (.ok reports) →
      reports.length = transactions.length ∧ returnedActions reports ≤ maxNmiReportActions ∧
      (∀ (i : ℕ) (report : TransactionReport) (transaction : XmlNode),
        reports[i]? = some report → transactions[i]? = some transaction →
        ∃ before after, returnedActions (reports.take i) + before = maxNmiReportActions ∧
          reportTransaction before transaction = some (report, after) ∧
          (report.diagnostics = [.malformedStructure] → after = before)) ∧
      (wellFormedActions transactions ≤ maxNmiReportActions →
        (∀ (i : ℕ) (report : TransactionReport) (transaction : XmlNode),
        reports[i]? = some report → transactions[i]? = some transaction →
          (report.diagnostics = [.malformedStructure] ↔ transactionMalformed transaction = true) ∧
          (transactionMalformed transaction = true →
            report.condition = none ∧ report.actions = [])) ∧
        ∀ (text' : String) (transactions' : List XmlNode) (reports' : List TransactionReport),
          reportTransactions parseXml text' = .ok transactions' →
          queryTransactionReportsFromXml parseXml text' = some (.ok reports') →
          wellFormedActions transactions' ≤ maxNmiReportActions →
          ∀ i : ℕ, transactions'[i]? = transactions[i]? → reports'[i]? = reports[i]?) := by
  have hpage {text : String} {transactions : List XmlNode} {reports : List TransactionReport}
      (htransactions : reportTransactions parseXml text = .ok transactions)
      (hreports : queryTransactionReportsFromXml parseXml text = some (.ok reports)) :
      ∃ left, readReports maxNmiReportActions transactions = some (reports, left) := by
    unfold queryTransactionReportsFromXml at hreports
    rw [htransactions] at hreports
    obtain ⟨⟨reports', left⟩, hread, heq⟩ := Option.map_eq_some_iff.mp hreports
    cases heq
    exact ⟨left, hread⟩
  refine ⟨?_, fun transactions reports htransactions hreports => ?_⟩
  · unfold queryTransactionReportsFromXml
    cases reportTransactions parseXml text with
    | error error => exact ⟨_, rfl⟩
    | ok transactions =>
      obtain ⟨reports, left, hread, -⟩ := readReports_spec maxNmiReportActions transactions
      dsimp only
      rw [hread]
      exact ⟨_, rfl⟩
  -- A page that is read never underflows its budget, so each report is that of its own turn; where
  -- all actions fit the budget, a report depends on its own transaction alone.
  · obtain ⟨left, hread⟩ := hpage htransactions hreports
    obtain ⟨reports', left', hread', hlength, htotal, hturn⟩ :=
      readReports_spec maxNmiReportActions transactions
    rw [hread] at hread'
    cases hread'
    refine ⟨hlength, by omega, fun i report transaction hi hi' => ?_, fun hfits => ⟨?_, ?_⟩⟩
    · obtain ⟨before, after, hbefore, hreport⟩ := hturn i report transaction hi hi'
      refine ⟨before, after, hbefore, hreport, fun hflag => ?_⟩
      rw [reportTransaction_spec] at hreport
      split_ifs at hreport
      · cases hreport
        rfl
      · cases hreport
        cases hflag
    · intro i report transaction hi hi'
      rw [readReports_own hfits hread, List.getElem?_map, hi'] at hi
      cases hi
      exact ownReport_spec transaction
    · intro text' transactions' reports' htransactions' hreports' hfits' i hsame
      obtain ⟨left', hread'⟩ := hpage htransactions' hreports'
      rw [readReports_own hfits hread, readReports_own hfits' hread', List.getElem?_map,
        List.getElem?_map, hsame]

/-- An element that holds a text. -/
def textElement (name value : String) : XmlNode := .element name [.text value]

/-- A page with a transaction of two orders, and a sale. -/
def conflictPage : XmlNode :=
  .element "nm_response"
    [.element "transaction" [textElement "transaction_id" "1", textElement "order_id" "a",
        textElement "order_id" "b"],
      .element "transaction" [textElement "transaction_id" "2",
        .element "action" [textElement "action_type" "sale", textElement "amount" "10.00"]]]

/-- The transaction of two orders is flagged, and the sale is reported. -/
theorem report_pages_isolate_conflict :
    ∃ reports, queryTransactionReportsFromXml (fun _ => some conflictPage) "" = some (.ok reports) ∧
      reports[0]?.map (·.diagnostics) = some [.malformedStructure] ∧
      reports[1]?.map (·.diagnostics) ≠ some [.malformedStructure] := by
  obtain ⟨⟨result, hresult⟩, hpage⟩ := report_pages_isolate (fun _ => some conflictPage) ""
  have hshape : ∃ first second,
      reportTransactions (fun _ => some conflictPage) "" = .ok [first, second] ∧
        transactionMalformed first = true ∧ transactionMalformed second = false ∧
        wellFormedActions [first, second] ≤ maxNmiReportActions := by
    refine ⟨_, _, rfl, ?_, ?_, ?_⟩ <;> decide +kernel
  obtain ⟨first, second, htransactions, hfirst, hsecond, hfits⟩ := hshape
  cases result with
  | error error =>
    unfold queryTransactionReportsFromXml at hresult
    rw [htransactions] at hresult
    obtain ⟨_, _, heq⟩ := Option.map_eq_some_iff.mp hresult
    cases heq
  | ok reports =>
    obtain ⟨hlength, -, -, hown⟩ := hpage _ reports htransactions hresult
    obtain ⟨hflags, -⟩ := hown hfits
    obtain ⟨report, report', rfl⟩ := List.length_eq_two.mp hlength
    refine ⟨_, hresult, ?_, fun hflag => ?_⟩
    · exact congrArg some ((hflags 0 report first rfl rfl).1.mpr hfirst)
    · rw [(hflags 1 report' second rfl rfl).1.mp (Option.some.inj hflag)] at hsecond
      cases hsecond

end SyrupRail.Nmi
