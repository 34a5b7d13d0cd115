import VulnOpsHub.Api.Cases
import VulnOpsHub.Lib.Ties
import VulnOpsHub.Workers.Models
import Mathlib.Data.Prod.Lex

set_option autoImplicit false

/-! # Listing exposures and cases

`list_exposures` (`api/exposures.py`) and `CaseService.list_cases` cut a page out of the rows of an
ordered query. Cases that tie in the column they are sorted by are ordered by their ids. Exposures with
the same priority and time of creation are in no order, so a page that starts between two of them may
repeat one and leave out the other. -/

namespace VulnOpsHub

/-! ## Lists -/

/-- The rows of a page, and how many there are on all pages. -/
structure Listing (α : Type) where
  items : List α
  total : ℕ
  page : ℕ
  pageSize : ℕ

/-- `query.offset((page - 1) * page_size).limit(page_size)`, where `answer` is what the ordered query
    returns for `rows`. -/
def listing {α : Type} (rows answer : List α) (pageNumber pageSize : ℕ) : Listing α where
  items := page pageSize ((pageNumber - 1) * pageSize) answer
  total := rows.length
  page := pageNumber
  pageSize := pageSize

/-- The exposures that `list_exposures` selects. -/
def Hub.exposuresIn (h : Hub) (orgId state : String) : List Exposure :=
  h.exposures.rows.filter fun e => e.organizationId = orgId && e.state.value = state

/-- `ORDER BY priority ASC, created_at DESC`. -/
def exposureKey (byPriority : ColumnOrder (Option Priority)) (e : Exposure) :
    byPriority.Weight ×ₗ Instantᵒᵈ :=
  toLex (byPriority.weight e.priority, OrderDual.toDual e.createdAt)

/-- `list_exposures`. -/
def listExposures (h : Hub) (orgId state : String) (pageNumber pageSize : ℕ)
    (answer : List Exposure) : Listing Exposure :=
  listing (h.exposuresIn orgId state) answer pageNumber pageSize

/-- The cases that `list_cases` selects. -/
def Db.casesIn (db : Db) (orgId : String) (q : CaseQuery) : List RemediationCase :=
  db.cases.rows.filter (q.matches orgId)

/-- `ORDER BY column, id DESC`; the order of a descending column is the dual one. -/
def caseKey {κ : Type} (byId : ColumnOrder String) (column : RemediationCase → κ)
    (c : RemediationCase) : κ ×ₗ byId.Weightᵒᵈ :=
  toLex (column c, OrderDual.toDual (byId.weight c.id))

/-- `CaseService.list_cases`. -/
def listCases (db : Db) (orgId : String) (q : CaseQuery) (answer : List RemediationCase) :
    Listing RemediationCase :=
  listing (db.casesIn orgId q) answer q.page q.pageSize

/-- The route answers with what the service lists. -/
theorem listCasesRoute_eq [Python] [RowOrder] (r : RouteCall) (q : CaseQuery) :
    listCasesRoute r q = authorized (authorizeCapability r.principal "case:read") (do
      let shown ← Program.select fun db : Db =>
        listCases db r.orgId q (RowOrder.sorted q.sort q.descending (db.casesIn r.orgId q))
      pure (.cases shown.items shown.total shown.page shown.pageSize)) := rfl

/-! ## All pages of a list -/

/-- The pages of a list show each row exactly once, and each says how many rows there are. -/
structure Partitioned {α : Type} (rows : List α) (size : ℕ) (pageAt : ℕ → Listing α) : Prop where
  total : ∀ k, (pageAt (k + 1)).total = rows.length
  items : ∀ n, rows.length ≤ size * n →
    ((List.range n).flatMap fun k => (pageAt (k + 1)).items).Perm rows

variable {α K : Type} [LinearOrder K] {key : α → K} {rows : List α} {size : ℕ}

/-- The pages of an ordered query, each from an answer of its own. -/
theorem partitioned_iff (hnodup : rows.Nodup) (hsize : 0 < size) :
    (∀ answers : ℕ → List α, (∀ k, OrderedBy key rows (answers k)) →
        Partitioned rows size fun k => listing rows (answers k) k size) ↔
      ∀ k, ¬ Split key rows (size * k) := by
  have hpages : ∀ (answers : ℕ → List α) (n : ℕ),
      ((List.range n).flatMap fun k => (listing rows (answers (k + 1)) (k + 1) size).items)
        = pages size (fun k => answers (k + 1)) n := by
    intro answers n
    rw [pages_eq_flatMap]
    simp only [listing, Nat.add_sub_cancel, Nat.mul_comm size]
  rw [← pages_perm_iff hnodup hsize]
  constructor
  · intro h answers hanswers n hn
    have hitems := (h (fun k => answers (k - 1)) fun k => hanswers _).items n hn
    have heq := hpages (fun k => answers (k - 1)) n
    simp only [Nat.add_sub_cancel] at heq hitems
    rwa [heq] at hitems
  · intro h answers hanswers
    refine ⟨fun _ => rfl, fun n hn => ?_⟩
    rw [hpages]
    exact h _ (fun k => hanswers _) n hn

/-! ## Paging exposures and cases -/

/-- The pages of both lists are partitions, however each of the queries orders the rows that tie. -/
structure PagesPartition (byPriority : ColumnOrder (Option Priority)) (byId : ColumnOrder String)
    (h : Hub) (orgId state : String) (q : CaseQuery) (size : ℕ) : Prop where
  exposures : ∀ answers : ℕ → List Exposure,
    (∀ k, OrderedBy (exposureKey byPriority) (h.exposuresIn orgId state) (answers k)) →
    Partitioned (h.exposuresIn orgId state) size fun k =>
      listExposures h orgId state k size (answers k)
  cases : ∀ {κ : Type} [LinearOrder κ] (column : RemediationCase → κ)
    (answers : ℕ → List RemediationCase),
    (∀ k, OrderedBy (caseKey byId column) (h.view.casesIn orgId q) (answers k)) →
    Partitioned (h.view.casesIn orgId q) size fun k =>
      listCases h.view orgId { q with page := k, pageSize := size } (answers k)

variable {byPriority : ColumnOrder (Option Priority)} {byId : ColumnOrder String}

theorem caseKey_injective {κ : Type} {column : RemediationCase → κ} {db : Db} {orgId : String}
    {q : CaseQuery} : ∀ c ∈ db.casesIn orgId q, ∀ d ∈ db.casesIn orgId q,
    caseKey byId column c = caseKey byId column d → c = d := by
  intro c hc d hd heq
  have hid : c.id = d.id := byId.injective (congrArg (fun k => OrderDual.ofDual (ofLex k).2) heq)
  exact List.inj_on_of_nodup_map db.cases.nodup (List.mem_filter.1 hc).1 (List.mem_filter.1 hd).1 hid

/-- The pages of cases are partitions, whatever the column. -/
theorem cases_partitioned {κ : Type} [LinearOrder κ] (column : RemediationCase → κ) {h : Hub}
    {orgId : String} {q : CaseQuery} (hsize : 0 < size) {answers : ℕ → List RemediationCase}
    (hanswers : ∀ k, OrderedBy (caseKey byId column) (h.view.casesIn orgId q) (answers k)) :
    Partitioned (h.view.casesIn orgId q) size fun k =>
      listCases h.view orgId { q with page := k, pageSize := size } (answers k) := by
  have hnodup : (h.view.casesIn orgId q).Nodup := h.view.cases.nodup.of_map.filter _
  exact (partitioned_iff hnodup hsize).2
    (fun k => not_split_of_injective hnodup caseKey_injective _) answers hanswers

/-- **Pages of exposures and cases.** They show each row exactly once, for all ways to order ties,
    exactly when no page of exposures starts between two with the same priority and time of creation. -/
theorem pagesPartition_iff (h : Hub) (orgId state : String) (q : CaseQuery) (hsize : 0 < size) :
    PagesPartition byPriority byId h orgId state q size ↔
      ∀ k, ¬ Split (exposureKey byPriority) (h.exposuresIn orgId state) (size * k) := by
  have hnodup : (h.exposuresIn orgId state).Nodup := h.exposures.nodup.of_map.filter _
  rw [← partitioned_iff hnodup hsize]
  exact ⟨fun hpages => hpages.exposures,
    fun hexposures => ⟨hexposures, fun column _ => cases_partitioned column hsize⟩⟩

/-! ## Two exposures of one moment -/

/-- Priorities in the order of their texts, exposures without one last. -/
def nullsLast : ColumnOrder (Option Priority) where
  Weight := ℕ
  weight
    | some .p0 => 0
    | some .p1 => 1
    | some .p2 => 2
    | some .p3 => 3
    | some .p4 => 4
    | none => 5
  injective := by
    intro p q h
    rcases p with _ | _ | _ <;> rcases q with _ | _ | _ <;> first | rfl | cases h

/-- Texts by code points. -/
def byCodePoints : ColumnOrder String where
  Weight := String
  weight := id
  injective := Function.injective_id

/-- A candidate that one import has found, together with others. -/
def sampleListedRow (id : String) : Exposure :=
  ⟨id, "org", none, none, "CVE-2026-1", id, .candidate, 1 / 2, some .p2, none, .candidate, none, none,
    none, none, 0, 0, 0⟩

def sampleListedHub : Hub :=
  { Hub.empty with exposures := ⟨[sampleListedRow "exp_1", sampleListedRow "exp_2"], by decide⟩ }

/-- Every candidate, every case, on pages of twenty. -/
def sampleListQuery : CaseQuery := ⟨none, none, none, none, none, 1, 20, .createdAt, true⟩

/-- On pages of one exposure the first of two may be shown twice, and the second not at all. -/
theorem pages_repeat : ¬ ∀ (byPriority : ColumnOrder (Option Priority)) (byId : ColumnOrder String)
    (h : Hub) (orgId state : String) (q : CaseQuery) (size : ℕ), 0 < size →
    PagesPartition byPriority byId h orgId state q size := by
  intro h
  have hpages := h nullsLast byCodePoints sampleListedHub "org" "candidate" sampleListQuery 1 (by decide)
  have hnodup : (sampleListedHub.exposuresIn "org" "candidate").Nodup := by decide
  refine (partitioned_iff hnodup (by decide)).1 hpages.exposures 1 ⟨sampleListedRow "exp_1", ?_, ?_, ?_⟩
  · exact List.mem_filter.2 ⟨List.mem_cons_self, by decide⟩
  · decide
  · decide

/-- A third one, of another priority. -/
def sampleLaterRow : Exposure := { sampleListedRow "exp_3" with priority := some .p3 }

def sampleTiedHub : Hub :=
  { Hub.empty with
    exposures := ⟨[sampleLaterRow, sampleListedRow "exp_1", sampleListedRow "exp_2"], by decide⟩ }

/-- On pages of two the ones that tie are on the first page, and all are shown. -/
theorem pagesPartition_iff_tied : 0 < 2 ∧
    PagesPartition nullsLast byCodePoints sampleTiedHub "org" "candidate" sampleListQuery 2 := by
  refine ⟨by decide, (pagesPartition_iff _ _ _ _ (by decide)).2 fun k hsplit => ?_⟩
  obtain ⟨e, he, hfrom, hto⟩ := hsplit
  have hplaces : ∀ e ∈ sampleTiedHub.exposuresIn "org" "candidate",
      (position (exposureKey nullsLast) (exposureKey nullsLast e)
          (sampleTiedHub.exposuresIn "org" "candidate"),
        upTo (exposureKey nullsLast) (exposureKey nullsLast e)
          (sampleTiedHub.exposuresIn "org" "candidate")) ∈ [(0, 2), (2, 3)] := by decide
  have hplace := hplaces e he
  simp only [List.mem_cons, Prod.mk.injEq, List.not_mem_nil, or_false] at hplace
  omega

end VulnOpsHub
