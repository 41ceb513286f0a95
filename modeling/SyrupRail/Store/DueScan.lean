import Mathlib.Data.Prod.Lex
import SyrupRail.Lib.Keyset
import SyrupRail.Store.Ending

/-!
# Scans of the due renewals

`load_due_renewals_page` reads one page of the due subscriptions. Its query has four texts, with the
mode and the keyset predicate each present or absent, and the placeholders of the later predicates
shift with the earlier ones; `rows_keys` says that every text selects the same thing. Over the keys
of the candidates a page is a page of `Keyset`, and a scan is its scan: the stores of the loads may
differ, as long as the candidates of the scan have the same keys in all of them.
-/

namespace SyrupRail

open Transactions

/-! ## Pages -/

/-- `RENEWAL_DISPATCH_LIMIT`. -/
def renewalDispatchLimit : ℕ := 100

/-- `RenewalDispatchPageCursor`. -/
structure RenewalDispatchPageCursor where
  observedAt : Timestamp
  nextPaymentAttemptAt : Timestamp
  subscriptionId : Id
  requiredGatewayAccountMode : Option GatewayAccountMode
  deriving DecidableEq, Repr

/-- `RenewalDispatchPage`. -/
structure RenewalDispatchPage where
  dispatches : List RenewalDispatch
  nextCursor : Option RenewalDispatchPageCursor
  deriving DecidableEq, Repr

/-- `RenewalStoreError`, without the errors of the connection. -/
inductive RenewalStoreError
  | missingProviderCooldown
  | cursorModeMismatch
  deriving DecidableEq, Repr

/-- `DueRenewalCandidate`. -/
structure DueRenewalCandidate where
  dispatch : RenewalDispatch
  nextPaymentAttemptAt : Timestamp
  deriving DecidableEq, Repr

/-- What the candidates are ordered by. -/
def DueRenewalCandidate.key (c : DueRenewalCandidate) : Timestamp ×ₗ Id :=
  toLex (c.nextPaymentAttemptAt, c.dispatch.subscriptionId)

/-- The key of the row that a cursor stands at. -/
def RenewalDispatchPageCursor.key (c : RenewalDispatchPageCursor) : Timestamp ×ₗ Id :=
  toLex (c.nextPaymentAttemptAt, c.subscriptionId)

/-- The row of a subscription in the candidates of a time, before any predicate on mode or key. -/
def dueCandidate (observedAt : Timestamp) (db : Db) (s : Subscription) :
    Option DueRenewalCandidate :=
  match accountOf s db, s.nextPaymentAttemptAt with
  | some g, some t =>
    if isDueForRenewal observedAt g s db then
      some ⟨s.dispatch (pageAttemptState observedAt g s db).attemptSequenceCount, t⟩
    else none
  | _, _ => none

/-! ## The query -/

/-- `DueRenewalPageQuery`. -/
inductive DueRenewalPageQuery
  | first (observedAt : Timestamp)
  | continuation (cursor : RenewalDispatchPageCursor)
  deriving DecidableEq, Repr

/-- The part of a query text that is not in every one: the placeholders of its mode predicate, of
its keyset predicate, and of its limit. -/
structure DueRenewalsSql where
  mode : Option ℕ
  keyset : Option (ℕ × ℕ)
  limit : ℕ
  deriving DecidableEq, Repr

/-- A value bound to a placeholder. -/
inductive PageBind
  | mode (mode : GatewayAccountMode)
  | timestamp (t : Timestamp)
  | uuid (id : Id)
  | limit (n : ℕ)
  deriving DecidableEq, Repr

namespace DueRenewalPageQuery

/-- `DueRenewalPageQuery::load`. -/
def load (db : Db) : Option RenewalDispatchPageCursor → DueRenewalPageQuery
  | some cursor => .continuation cursor
  | none => .first db.clock

/-- `DueRenewalPageQuery::observed_at`. -/
def observedAt : DueRenewalPageQuery → Timestamp
  | first observedAt => observedAt
  | continuation cursor => cursor.observedAt

/-- `DueRenewalPageQuery::sql`. -/
def sql : DueRenewalPageQuery → Option GatewayAccountMode → DueRenewalsSql
  | first _, none => ⟨none, none, 13⟩
  | continuation _, none => ⟨none, some (13, 14), 15⟩
  | first _, some _ => ⟨some 13, none, 14⟩
  | continuation _, some _ => ⟨some 13, some (14, 15), 16⟩

/-- `DueRenewalPageQuery::bind`, from placeholder 13 on. The first twelve are the same in every
query; `isDueForRenewal` has them in place. -/
def bind : DueRenewalPageQuery → Option GatewayAccountMode → List PageBind
  | first _, none => [.limit (renewalDispatchLimit + 1)]
  | continuation cursor, none =>
    [.timestamp cursor.nextPaymentAttemptAt, .uuid cursor.subscriptionId,
      .limit (renewalDispatchLimit + 1)]
  | first _, some mode => [.mode mode, .limit (renewalDispatchLimit + 1)]
  | continuation cursor, some mode =>
    [.mode mode, .timestamp cursor.nextPaymentAttemptAt, .uuid cursor.subscriptionId,
      .limit (renewalDispatchLimit + 1)]

end DueRenewalPageQuery

/-- The value of a placeholder. -/
def placeholder (binds : List PageBind) (n : ℕ) : Option PageBind := binds[n - 13]?

namespace DueRenewalsSql

/-- The mode predicate of a query text. -/
def keepsMode (sql : DueRenewalsSql) (binds : List PageBind) (c : DueRenewalCandidate) : Bool :=
  sql.mode.all fun n => placeholder binds n = some (.mode c.dispatch.requiredGatewayAccountMode)

/-- The keyset predicate of a query text. -/
def keepsKey (sql : DueRenewalsSql) (binds : List PageBind) (c : DueRenewalCandidate) : Bool :=
  sql.keyset.all fun (m, n) =>
    match placeholder binds m, placeholder binds n with
    | some (.timestamp t), some (.uuid id) => toLex (t, id) < c.key
    | _, _ => false

/-- The limit of a query text. -/
def rowLimit (sql : DueRenewalsSql) (binds : List PageBind) : ℕ :=
  match placeholder binds sql.limit with
  | some (.limit n) => n
  | _ => 0

end DueRenewalsSql

/-- The rows of a page, in order. -/
def DueRenewalPageQuery.rows (query : DueRenewalPageQuery) (mode : Option GatewayAccountMode)
    (db : Db) : List DueRenewalCandidate :=
  let sql := query.sql mode
  let binds := query.bind mode
  (((db.subscriptions.filterMap (dueCandidate query.observedAt db)).filter fun c =>
    sql.keepsMode binds c && sql.keepsKey binds c).insertionSort
      fun c c' => c.key ≤ c'.key).take (sql.rowLimit binds)

/-- Whether an account has no cooldown row of its provider. -/
def missingProviderCooldown (db : Db) : Bool :=
  db.gatewayAccounts.any fun g => !db.providerRateLimits.any (·.providerKey = g.providerKey)

/-- `load_due_renewals_page`. -/
def loadDueRenewalsPage (db : Db) (cursor : Option RenewalDispatchPageCursor)
    (mode : Option GatewayAccountMode) : Except RenewalStoreError RenewalDispatchPage :=
  if cursor.any (·.requiredGatewayAccountMode ≠ mode) then .error .cursorModeMismatch
  else if missingProviderCooldown db then .error .missingProviderCooldown
  else
    let query := DueRenewalPageQuery.load db cursor
    let fetched := query.rows mode db
    let hasMore : Bool := renewalDispatchLimit < fetched.length
    let candidates := if hasMore then fetched.dropLast else fetched
    let nextCursor :=
      if hasMore then
        candidates.getLast?.map fun last =>
          { observedAt := query.observedAt
            nextPaymentAttemptAt := last.nextPaymentAttemptAt
            subscriptionId := last.dispatch.subscriptionId
            requiredGatewayAccountMode := mode }
      else none
    .ok ⟨candidates.map (·.dispatch), nextCursor⟩

/-- A scan: pages are loaded from `cursor` on, until one has no next cursor. The store may change
between two loads, and the list has the store of each. The result has the pages, and whether the
last of them ended the scan. -/
def scanDueRenewals (mode : Option GatewayAccountMode) :
    List Db → Option RenewalDispatchPageCursor →
      Except RenewalStoreError (List RenewalDispatchPage × Bool)
  | [], _ => .ok ([], false)
  | db :: dbs, cursor =>
    match loadDueRenewalsPage db cursor mode with
    | .error e => .error e
    | .ok page =>
      match page.nextCursor with
      | none => .ok ([page], true)
      | some next => (scanDueRenewals mode dbs (some next)).map fun rest => (page :: rest.1, rest.2)

/-! ## Candidates and their keys -/

/-- The due subscriptions of a scan: those of its mode, or all of them. -/
def dueCandidates (observedAt : Timestamp) (mode : Option GatewayAccountMode) (db : Db) :
    List DueRenewalCandidate :=
  (db.subscriptions.filterMap (dueCandidate observedAt db)).filter fun c =>
    mode.all (· = c.dispatch.requiredGatewayAccountMode)

/-- The keys of the candidates, in order. -/
def dueKeys (observedAt : Timestamp) (mode : Option GatewayAccountMode) (db : Db) :
    List (Timestamp ×ₗ Id) :=
  ((dueCandidates observedAt mode db).map (·.key)).insertionSort (· ≤ ·)

/-- What the schema gives a scan: the primary key of the subscriptions, and the foreign key of the
accounts to the cooldown of their provider. -/
structure Db.ScanKeys (db : Db) : Prop where
  ids : (db.subscriptions.map (·.id)).Nodup
  cooldowns : missingProviderCooldown db = false

/-- A candidate has the id of its subscription. -/
theorem dueCandidate_eq_some {observedAt : Timestamp} {db : Db} {s : Subscription}
    {c : DueRenewalCandidate} (h : dueCandidate observedAt db s = some c) :
    c.dispatch.subscriptionId = s.id := by
  unfold dueCandidate at h
  split at h
  · split at h
    · obtain rfl := Option.some.inj h
      rfl
    · cases h
  · cases h

section Keys

variable {observedAt : Timestamp} {mode : Option GatewayAccountMode} {db : Db}

/-- The ids of the candidates are ids of subscriptions, in the same order. -/
theorem sublist_candidateIds (subscriptions : List Subscription) :
    ((subscriptions.filterMap (dueCandidate observedAt db)).map
      (·.dispatch.subscriptionId)).Sublist (subscriptions.map (·.id)) := by
  induction subscriptions with
  | nil => exact List.Sublist.slnil
  | cons s rest ih =>
    rw [List.map_cons]
    cases h : dueCandidate observedAt db s with
    | none =>
      rw [List.filterMap_cons_none h]
      exact ih.cons _
    | some c =>
      rw [List.filterMap_cons_some h, List.map_cons, dueCandidate_eq_some h]
      exact ih.cons_cons _

/-- No two candidates have the same id. -/
theorem nodup_candidateIds (hids : (db.subscriptions.map (·.id)).Nodup) :
    ((dueCandidates observedAt mode db).map (·.dispatch.subscriptionId)).Nodup :=
  hids.sublist ((List.filter_sublist.map _).trans (sublist_candidateIds db.subscriptions))

/-- The keys of the candidates are distinct and in order. -/
theorem pairwise_dueKeys (hids : (db.subscriptions.map (·.id)).Nodup) :
    (dueKeys observedAt mode db).Pairwise (· < ·) := by
  have hnodup : ((dueCandidates observedAt mode db).map (·.key)).Nodup := by
    refine List.Nodup.of_map (fun k => (ofLex k).2) ?_
    rw [List.map_map]
    exact nodup_candidateIds hids
  have hsorted : (dueKeys observedAt mode db).Pairwise (· ≤ ·) := List.pairwise_insertionSort _ _
  have hdistinct : (dueKeys observedAt mode db).Nodup :=
    (List.perm_insertionSort _ _).nodup_iff.mpr hnodup
  exact hsorted.imp₂ (fun _ _ hle hne => lt_of_le_of_ne hle hne) hdistinct

/-- Every query text selects the candidates of its mode after its cursor, and one more than a page
holds. -/
theorem rows_keys (mode : Option GatewayAccountMode) (db : Db)
    (cursor : Option RenewalDispatchPageCursor) :
    ((DueRenewalPageQuery.load db cursor).rows mode db).map (·.key) =
      (Keyset.after (cursor.map (·.key))
        (dueKeys (DueRenewalPageQuery.load db cursor).observedAt mode db)).take
          (renewalDispatchLimit + 1) := by
  have hmode : ∀ c, ((DueRenewalPageQuery.load db cursor).sql mode).keepsMode
      ((DueRenewalPageQuery.load db cursor).bind mode) c =
        mode.all (· = c.dispatch.requiredGatewayAccountMode) := by
    intro c
    cases cursor <;> cases mode <;>
      simp [DueRenewalPageQuery.load, DueRenewalPageQuery.sql, DueRenewalPageQuery.bind,
        DueRenewalsSql.keepsMode, placeholder]
  have hkey : ∀ c, ((DueRenewalPageQuery.load db cursor).sql mode).keepsKey
      ((DueRenewalPageQuery.load db cursor).bind mode) c =
        (cursor.map (·.key)).all (· < c.key) := by
    intro c
    cases cursor <;> cases mode <;> rfl
  have hlimit : ((DueRenewalPageQuery.load db cursor).sql mode).rowLimit
      ((DueRenewalPageQuery.load db cursor).bind mode) = renewalDispatchLimit + 1 := by
    cases cursor <;> cases mode <;> rfl
  unfold DueRenewalPageQuery.rows
  simp only [hmode, hkey, hlimit]
  generalize (DueRenewalPageQuery.load db cursor).observedAt = observedAt
  rw [List.map_take]
  congr 1
  -- Both lists hold the same keys, and both are in order.
  have hselected : ((db.subscriptions.filterMap (dueCandidate observedAt db)).filter fun c =>
      mode.all (· = c.dispatch.requiredGatewayAccountMode) &&
        (cursor.map (·.key)).all (· < c.key)).map (·.key) =
      Keyset.after (cursor.map (·.key)) ((dueCandidates observedAt mode db).map (·.key)) := by
    unfold Keyset.after dueCandidates
    rw [List.filter_map, List.filter_filter]
    simp only [Function.comp_def, Bool.and_comm]
  refine List.Perm.eq_of_pairwise' (r := (· ≤ ·)) ?_ ?_ ?_
  · exact List.pairwise_map.mpr (List.pairwise_insertionSort
      (fun c c' : DueRenewalCandidate => c.key ≤ c'.key) _)
  · exact (List.pairwise_insertionSort (· ≤ ·) _).filter _
  · refine ((List.perm_insertionSort _ _).map _).trans ?_
    rw [hselected]
    exact ((List.perm_insertionSort (· ≤ ·) _).filter _).symm

end Keys

/-! ## Scans -/

/-- The cursor at a key. -/
def cursorAt (observedAt : Timestamp) (mode : Option GatewayAccountMode) (k : Timestamp ×ₗ Id) :
    RenewalDispatchPageCursor where
  observedAt := observedAt
  nextPaymentAttemptAt := (ofLex k).1
  subscriptionId := (ofLex k).2
  requiredGatewayAccountMode := mode

/-- A page shows a page of keys: the same subscriptions, and the cursor at the same key. -/
structure Shows (observedAt : Timestamp) (mode : Option GatewayAccountMode)
    (p : Keyset.Page (Timestamp ×ₗ Id)) (page : RenewalDispatchPage) : Prop where
  ids : page.dispatches.map (·.subscriptionId) = p.keys.map fun k => (ofLex k).2
  next : page.nextCursor = p.next.map (cursorAt observedAt mode)

section Scan

variable {observedAt : Timestamp} {mode : Option GatewayAccountMode} {db : Db}
  {cursor : Option RenewalDispatchPageCursor}

/-- A load with a cursor of its mode succeeds, and shows the keys after the cursor. -/
theorem loadDueRenewalsPage_shows (hdb : db.ScanKeys)
    (hmode : ∀ c ∈ cursor, c.requiredGatewayAccountMode = mode)
    (htime : (DueRenewalPageQuery.load db cursor).observedAt = observedAt) :
    ∃ page, loadDueRenewalsPage db cursor mode = .ok page ∧
      Shows observedAt mode (Keyset.page renewalDispatchLimit (dueKeys observedAt mode db)
        (cursor.map (·.key))) page := by
  have hrows := rows_keys mode db cursor
  rw [htime] at hrows
  have hany : ¬ cursor.any (·.requiredGatewayAccountMode ≠ mode) = true := by
    cases cursor with
    | none => exact Bool.false_ne_true
    | some c => exact fun h => of_decide_eq_true h (hmode c rfl)
  have hcooldowns : ¬ missingProviderCooldown db = true := by
    rw [hdb.cooldowns]
    exact Bool.false_ne_true
  unfold loadDueRenewalsPage
  rw [if_neg hany, if_neg hcooldowns]
  simp only [htime]
  generalize (DueRenewalPageQuery.load db cursor).rows mode db = fetched at hrows
  -- One row more than a page holds is fetched: whether it came tells if there is a next page.
  have hpage : Keyset.page renewalDispatchLimit (dueKeys observedAt mode db)
      (cursor.map (·.key)) = if renewalDispatchLimit < fetched.length then
        ⟨fetched.dropLast.map (·.key), (fetched.dropLast.map (·.key)).getLast?⟩
      else ⟨fetched.map (·.key), none⟩ := by
    unfold Keyset.page
    simp only [← hrows, List.length_map, List.map_dropLast]
  rw [hpage]
  by_cases hmore : renewalDispatchLimit < fetched.length
  · refine ⟨_, rfl, ?_, ?_⟩
    · simp [hmore, DueRenewalCandidate.key, Function.comp_def]
    · simp only [hmore, decide_true, if_true, List.getLast?_map, Option.map_map]
      rfl
  · refine ⟨_, rfl, ?_, ?_⟩
    · simp [hmore, DueRenewalCandidate.key, Function.comp_def]
    · simp [hmore]

/-- The cursor of a page of a scan has its mode and time, and stands at its key. -/
theorem scanDueRenewals_shows {keys : List (Timestamp ×ₗ Id)} (dbs : List Db)
    (cursor : Option RenewalDispatchPageCursor)
    (hdbs : ∀ db ∈ dbs, db.ScanKeys ∧ dueKeys observedAt mode db = keys)
    (hmode : ∀ c ∈ cursor, c.requiredGatewayAccountMode = mode)
    (htime : ∀ db ∈ dbs.head?, (DueRenewalPageQuery.load db cursor).observedAt = observedAt) :
    ∃ pages, scanDueRenewals mode dbs cursor = .ok (pages,
        (Keyset.scan renewalDispatchLimit keys dbs.length (cursor.map (·.key))).2) ∧
      List.Forall₂ (Shows observedAt mode)
        (Keyset.scan renewalDispatchLimit keys dbs.length (cursor.map (·.key))).1 pages := by
  induction dbs generalizing cursor with
  | nil => exact ⟨[], rfl, .nil⟩
  | cons db dbs ih =>
    obtain ⟨hdb, hkeys⟩ := hdbs db List.mem_cons_self
    obtain ⟨page, hload, hpage⟩ := loadDueRenewalsPage_shows hdb hmode (htime db rfl)
    rw [hkeys] at hpage
    unfold scanDueRenewals
    simp only [hload, List.length_cons]
    cases hnext : (Keyset.page renewalDispatchLimit keys (cursor.map (·.key))).next with
    | none =>
      have hlast : page.nextCursor = none := by rw [hpage.next, hnext, Option.map_none]
      simp only [hlast]
      rw [Keyset.scan_of_next_eq_none hnext]
      exact ⟨[page], rfl, .cons hpage .nil⟩
    | some k =>
      have hcursor : page.nextCursor = some (cursorAt observedAt mode k) := by
        rw [hpage.next, hnext, Option.map_some]
      simp only [hcursor]
      obtain ⟨pages, hscan, hpages⟩ := ih (some (cursorAt observedAt mode k))
        (fun db' h => hdbs db' (List.mem_cons_of_mem db h)) (by rintro c ⟨⟩; rfl) fun _ _ => rfl
      rw [Keyset.scan_of_next_eq_some hnext, hscan]
      exact ⟨page :: pages, rfl, .cons hpage hpages⟩

/-- The subscriptions of pages are those of the pages of keys that they show. -/
theorem map_subscriptionId_of_shows {ps : List (Keyset.Page (Timestamp ×ₗ Id))}
    {pages : List RenewalDispatchPage} (h : List.Forall₂ (Shows observedAt mode) ps pages) :
    (pages.flatMap (·.dispatches)).map (·.subscriptionId) =
      (ps.flatMap (·.keys)).map fun k => (ofLex k).2 := by
  induction h with
  | nil => rfl
  | cons hpage _ ih =>
    rw [List.flatMap_cons, List.map_append, ih, hpage.ids, List.flatMap_cons, List.map_append]

/-- The candidates in the order of their keys. -/
theorem dueKeys_eq_map :
    dueKeys observedAt mode db =
      ((dueCandidates observedAt mode db).insertionSort fun c c' => c.key ≤ c'.key).map (·.key) :=
  (List.map_insertionSort (fun c c' : DueRenewalCandidate => c.key ≤ c'.key) (· ≤ ·) _ _
    fun _ _ _ _ => Iff.rfl).symm

/-- Stores whose candidates have the same keys have them in the same order. -/
theorem dueKeys_eq_of_perm {db' : Db}
    (h : ((dueCandidates observedAt mode db').map (·.key)).Perm
      ((dueCandidates observedAt mode db).map (·.key))) :
    dueKeys observedAt mode db' = dueKeys observedAt mode db := by
  refine List.Perm.eq_of_pairwise' (r := (· ≤ ·)) (List.pairwise_insertionSort _ _)
    (List.pairwise_insertionSort _ _) ?_
  exact (List.perm_insertionSort _ _).trans (h.trans (List.perm_insertionSort _ _).symm)

/-- A key is the key of a candidate. -/
theorem mem_dueKeys {k : Timestamp ×ₗ Id} :
    k ∈ dueKeys observedAt mode db ↔ ∃ c ∈ dueCandidates observedAt mode db, c.key = k := by
  rw [dueKeys, List.mem_insertionSort, List.mem_map]

/-- A page has a next cursor exactly when a candidate after its cursor is after every row of it. -/
theorem isSome_nextCursor_iff (hdb : db.ScanKeys)
    (hmode : ∀ c ∈ cursor, c.requiredGatewayAccountMode = mode)
    (htime : (DueRenewalPageQuery.load db cursor).observedAt = observedAt)
    {page : RenewalDispatchPage} (hload : loadDueRenewalsPage db cursor mode = .ok page) :
    page.nextCursor.isSome = true ↔ ∃ c ∈ dueCandidates observedAt mode db,
      (∀ k ∈ cursor, k.key < c.key) ∧ ∀ c' ∈ dueCandidates observedAt mode db,
        c'.dispatch.subscriptionId ∈ page.dispatches.map (·.subscriptionId) → c'.key < c.key := by
  obtain ⟨page', hload', hpage⟩ := loadDueRenewalsPage_shows hdb hmode htime
  obtain rfl := Except.ok.inj (hload.symm.trans hload')
  have hsorted : (dueKeys observedAt mode db).Pairwise (· < ·) := pairwise_dueKeys hdb.ids
  rw [hpage.next, Option.isSome_map, Keyset.isSome_page_next_iff hsorted (by decide), hpage.ids]
  have hmem : ∀ k, k ∈ Keyset.after (cursor.map (·.key)) (dueKeys observedAt mode db) ↔
      k ∈ dueKeys observedAt mode db ∧ ∀ c ∈ cursor, c.key < k := by
    intro k
    unfold Keyset.after
    cases cursor <;> simp
  constructor
  · rintro ⟨k, hk, hall⟩
    obtain ⟨hkeys, hafter⟩ := (hmem k).mp hk
    obtain ⟨c, hc, rfl⟩ := mem_dueKeys.mp hkeys
    refine ⟨c, hc, hafter, fun c' hc' hid => ?_⟩
    -- The row of the page with the id of `c'` is `c'`.
    obtain ⟨k', hk', hid'⟩ := List.mem_map.mp hid
    have hshown : k' ∈ dueKeys observedAt mode db := by
      rw [Keyset.page_keys] at hk'
      exact List.mem_of_mem_filter (List.mem_of_mem_take hk')
    obtain ⟨c'', hc'', rfl⟩ := mem_dueKeys.mp hshown
    obtain rfl := List.inj_on_of_nodup_map (nodup_candidateIds hdb.ids) hc'' hc' hid'
    exact hall _ hk'
  · rintro ⟨c, hc, hafter, hall⟩
    refine ⟨c.key, (hmem _).mpr ⟨mem_dueKeys.mpr ⟨c, hc, rfl⟩, hafter⟩, fun k' hk' => ?_⟩
    have hshown : k' ∈ dueKeys observedAt mode db := by
      rw [Keyset.page_keys] at hk'
      exact List.mem_of_mem_filter (List.mem_of_mem_take hk')
    obtain ⟨c', hc', rfl⟩ := mem_dueKeys.mp hshown
    exact hall c' hc' (List.mem_map.mpr ⟨c'.key, hk', rfl⟩)

end Scan

/-- Scans are complete and without duplicates. A scan that starts without a cursor, over stores
whose candidates have the same keys at the time of the first, ends after enough loads; its pages are
within the limit, carry the time of the first load, and together list every candidate once, in the
order of payment time and id. A page of any store has a next cursor exactly when a candidate follows
its rows, and a cursor of one mode is refused by a scan of another. -/
theorem due_scan_complete (mode : Option GatewayAccountMode) (db : Db) (dbs : List Db)
    (hkeys : ∀ db' ∈ db :: dbs, db'.ScanKeys)
    (hsame : ∀ db' ∈ dbs, ((dueCandidates db.clock mode db').map (·.key)).Perm
      ((dueCandidates db.clock mode db).map (·.key)))
    (hloads : (dueCandidates db.clock mode db).length ≤ renewalDispatchLimit * (dbs.length + 1)) :
    (∃ pages, ∃ scanned : List DueRenewalCandidate,
      scanDueRenewals mode (db :: dbs) none = .ok (pages, true) ∧
      scanned.Perm (dueCandidates db.clock mode db) ∧
      scanned.Pairwise (fun c c' => c.key < c'.key) ∧
      (pages.flatMap (·.dispatches)).map (·.subscriptionId) =
        scanned.map (·.dispatch.subscriptionId) ∧
      (∀ page ∈ pages, page.dispatches.length ≤ renewalDispatchLimit) ∧
      ∀ page ∈ pages, ∀ c ∈ page.nextCursor, c.observedAt = db.clock) ∧
    (∀ db', db'.ScanKeys → ∀ cursor page, loadDueRenewalsPage db' cursor mode = .ok page →
      (page.nextCursor.isSome = true ↔
        ∃ c ∈ dueCandidates (DueRenewalPageQuery.load db' cursor).observedAt mode db',
          (∀ k ∈ cursor, k.key < c.key) ∧
          ∀ c' ∈ dueCandidates (DueRenewalPageQuery.load db' cursor).observedAt mode db',
            c'.dispatch.subscriptionId ∈ page.dispatches.map (·.subscriptionId) →
              c'.key < c.key)) ∧
    ∀ db' cursor, cursor.requiredGatewayAccountMode ≠ mode →
      loadDueRenewalsPage db' (some cursor) mode = .error .cursorModeMismatch := by
  have hmismatch : ∀ db' cursor, cursor.requiredGatewayAccountMode ≠ mode →
      loadDueRenewalsPage db' (some cursor) mode = .error .cursorModeMismatch := by
    intro db' cursor hne
    unfold loadDueRenewalsPage
    rw [if_pos (by simpa using hne)]
  refine ⟨?_, ?_, hmismatch⟩
  · have hdbs : ∀ db' ∈ db :: dbs, db'.ScanKeys ∧
        dueKeys db.clock mode db' = dueKeys db.clock mode db := by
      intro db' hdb'
      refine ⟨hkeys db' hdb', ?_⟩
      rcases List.mem_cons.mp hdb' with rfl | hdb'
      · rfl
      · exact dueKeys_eq_of_perm (hsame db' hdb')
    -- Each page shows a page of the keyset scan over the keys, which are the same in every store;
    -- that this scan ends with all of them is `Keyset.scan_complete`.
    obtain ⟨pages, hscan, hpages⟩ := scanDueRenewals_shows (db :: dbs) none hdbs (nofun) (by
      rintro db' ⟨⟩
      rfl)
    have hsorted : (dueKeys db.clock mode db).Pairwise (· < ·) :=
      pairwise_dueKeys (hkeys db List.mem_cons_self).ids
    have hall : Keyset.after none (dueKeys db.clock mode db) = dueKeys db.clock mode db :=
      List.filter_true _
    have hlimit : 0 < renewalDispatchLimit := by decide
    obtain ⟨hend, hshown⟩ := Keyset.scan_complete hsorted hlimit dbs.length none (by
      rw [hall, dueKeys, List.length_insertionSort, List.length_map]
      exact hloads)
    rw [hall] at hshown
    refine ⟨pages, (dueCandidates db.clock mode db).insertionSort fun c c' => c.key ≤ c'.key, ?_,
      List.perm_insertionSort _ _, ?_, ?_, ?_, ?_⟩
    · rw [hscan]
      exact congrArg (fun finished => Except.ok (pages, finished)) hend
    · rw [dueKeys_eq_map] at hsorted
      exact List.pairwise_map.mp hsorted
    · have hids := map_subscriptionId_of_shows hpages
      calc (pages.flatMap (·.dispatches)).map (·.subscriptionId)
          = (dueKeys db.clock mode db).map fun k => (ofLex k).2 := by
            rw [hids]
            exact congrArg (List.map fun k => (ofLex k).2) hshown
        _ = _ := by
            rw [dueKeys_eq_map, List.map_map]
            rfl
    · intro page hpage
      obtain ⟨p, hp, hshows⟩ := Table.exists_of_mem_right hpages hpage
      calc page.dispatches.length
          = (page.dispatches.map (·.subscriptionId)).length := (List.length_map _).symm
        _ = p.keys.length := by rw [hshows.ids, List.length_map]
        _ ≤ renewalDispatchLimit := Keyset.length_le_of_mem_scan _ _ p hp
    · intro page hpage c hc
      obtain ⟨p, -, hshows⟩ := Table.exists_of_mem_right hpages hpage
      rw [hshows.next] at hc
      obtain ⟨k, -, rfl⟩ := Option.map_eq_some_iff.mp hc
      rfl
  -- A page that loads had a cursor of its own mode, or none.
  · intro db' hdb' cursor page hload
    refine isSome_nextCursor_iff hdb' (fun c hc => ?_) rfl hload
    by_contra hne
    obtain rfl : cursor = some c := hc
    rw [hmismatch db' c hne] at hload
    cases hload

/-- The store of an enrollment, when its first renewal is due, with 150 copies of its subscription,
which all come up at one time. -/
def dueStore : Db :=
  let db := run execStore accountStore enrollment
  { db with
    clock := 30 * microsPerDay
    providerRateLimits := [⟨"nmi", 0⟩]
    subscriptions := db.subscriptions.flatMap fun s =>
      (List.range 150).map fun n => { s with id := n + 1 } }

/-- The scan of that store needs a second page, and lists each of its subscriptions once. -/
theorem due_scan_complete_enrollment :
    ∃ pages, scanDueRenewals (some .live) [dueStore, dueStore] none = .ok (pages, true) ∧
      (∀ page ∈ pages, page.dispatches.length ≤ renewalDispatchLimit) ∧
      ((pages.flatMap (·.dispatches)).map (·.subscriptionId)).Perm
        ((List.range 150).map (· + 1)) := by
  have hids : (dueStore.subscriptions.map (·.id)) = (List.range 150).map (· + 1) := by
    decide +kernel
  have hcooldowns : missingProviderCooldown dueStore = false := by decide +kernel
  have hnodup : ((List.range 150).map (· + 1)).Nodup := by decide +kernel
  have hkeys : dueStore.ScanKeys := ⟨by rw [hids]; exact hnodup, hcooldowns⟩
  have hdue : (dueCandidates dueStore.clock (some .live) dueStore).map
      (·.dispatch.subscriptionId) = (List.range 150).map (· + 1) := by
    decide +kernel
  have hcount : (dueCandidates dueStore.clock (some .live) dueStore).length = 150 := by
    rw [← List.length_map, hdue]
    rfl
  obtain ⟨⟨pages, scanned, hscan, hperm, -, hlisted, hsizes, -⟩, -, -⟩ :=
    due_scan_complete (some .live) dueStore [dueStore]
      (fun db' h => by
        obtain rfl : db' = dueStore := by simpa using h
        exact hkeys)
      (fun db' h => by
        obtain rfl := List.mem_singleton.mp h
        exact .refl _)
      (by
        rw [hcount]
        decide)
  refine ⟨pages, hscan, hsizes, ?_⟩
  rw [hlisted, ← hdue]
  exact hperm.map (·.dispatch.subscriptionId)

end SyrupRail
