import VulnOpsHub.Cases.Models
import VulnOpsHub.Lib.Numerals
import VulnOpsHub.Lib.Paging
import Mathlib.Logic.Function.Basic

set_option autoImplicit false

/-! # Polling

`DefectDojoClient.fetch` pages through the findings of an upstream and keeps those behind the cursor;
`PollingWorker._poll_source` queues a job for each and only then moves the cursor. -/

namespace VulnOpsHub

/-! ## The client of DefectDojo -/

/-- What one request asks for. -/
structure FindingsRequest where
  offset : ℕ
  idGt : Option ℤ
deriving DecidableEq, Repr

/-- The HTTP client: the `results` of the answer to a request. -/
abbrev FindingsClient := FindingsRequest → Except PyError (List Json)

/-- `page_size`. -/
def pageSize : ℕ := 100

/-- An id behind the cursor. -/
def newer (cursorId : Option ℤ) (id : ℤ) : Bool := cursorId.all (· < id)

section Client

variable [PythonInt]

/-- `int(record["id"])`. -/
def findingId (record : Json) : Except PyError ℤ := record.index "id" >>= Json.toInt

/-- `cursor_id is None or int(record["id"]) > cursor_id`. -/
def isFresh (cursorId : Option ℤ) (record : Json) : Except PyError Bool :=
  match cursorId with
  | none => .ok true
  | some _ => (findingId record).map (newer cursorId)

/-- The records of a page that are behind the cursor. -/
def freshRecords (cursorId : Option ℤ) : List Json → Except PyError (List Json)
  | [] => .ok []
  | record :: rest => do
      let fresh ← isFresh cursorId record
      let others ← freshRecords cursorId rest
      pure (if fresh then record :: others else others)

/-- The loop of `fetch`; it has not returned after `fuel` requests where it answers `none`. -/
def fetchPages (client : FindingsClient) (cursorId : Option ℤ) :
    ℕ → ℕ → List Json → Option (Except PyError (List Json))
  | 0, _, _ => none
  | fuel + 1, offset, records =>
      match client ⟨offset, cursorId⟩ with
      | .error e => some (.error e)
      | .ok page =>
          match freshRecords cursorId page with
          | .error e => some (.error e)
          | .ok fresh =>
              if page.length < pageSize then some (.ok (records ++ fresh))
              else fetchPages client cursorId fuel (offset + pageSize) (records ++ fresh)

/-- `int(cursor) if cursor else None`. -/
def cursorIdOf (cursor : Option String) : Except PyError (Option ℤ) :=
  match nonEmpty cursor with
  | none => .ok none
  | some text =>
      (PythonInt.int text).elim (.error (.valueError "invalid literal for int()")) fun n =>
        .ok (some n)

/-- `str(max(int(record["id"]) for record in records)) if records else cursor`. -/
def nextCursor (records : List Json) (cursor : Option String) : Except PyError (Option String) := do
  let ids ← records.mapM findingId
  pure (ids.max?.elim cursor fun n => some n.repr)

/-- `DefectDojoClient.fetch`, with at most `fuel` requests. -/
def fetch (client : FindingsClient) (fuel : ℕ) (cursor : Option String) :
    Option (Except PyError (List Json × Option String)) :=
  match cursorIdOf cursor with
  | .error e => some (.error e)
  | .ok cursorId => (fetchPages client cursorId fuel 0 []).map fun records => do
      let records ← records
      let next ← nextCursor records cursor
      pure (records, next)

/-! ## Upstreams -/

/-- A finding that an upstream lists, with its id. -/
structure UpstreamFinding where
  raw : Json
  id : ℤ
  id_eq : findingId raw = .ok id

/-- An upstream during a fetch: what it lists when the `k`-th page is requested, and whether it
    honours `id__gt`. -/
structure Upstream where
  listed : ℕ → List UpstreamFinding
  honours : Bool

/-- What it serves pages of. -/
def Upstream.served (u : Upstream) (cursorId : Option ℤ) (k : ℕ) : List UpstreamFinding :=
  if u.honours then (u.listed k).filter fun f => newer cursorId f.id else u.listed k

/-- The client gets the pages of the upstream, or an error. -/
def Upstream.Answers (u : Upstream) (client : FindingsClient) : Prop :=
  ∀ k cursorId results, client ⟨pageSize * k, cursorId⟩ = .ok results →
    results = (page pageSize (pageSize * k) (u.served cursorId k)).map UpstreamFinding.raw

/-- The `m`-th page is the first short one. -/
structure LastPage (lists : ℕ → List UpstreamFinding) (m : ℕ) : Prop where
  full : ∀ k < m, pageSize * (k + 1) ≤ (lists k).length
  short : (lists m).length < pageSize * (m + 1)

theorem LastPage.unique {lists : ℕ → List UpstreamFinding} {m m' : ℕ} (hm : LastPage lists m)
    (hm' : LastPage lists m') : m = m' := by
  rcases Nat.lt_trichotomy m m' with hlt | heq | hlt
  · exact absurd hm.short (not_lt.2 (hm'.full m hlt))
  · exact heq
  · exact absurd hm'.short (not_lt.2 (hm.full m' hlt))

/-- The records that `m` pages leave. -/
def collected (cursorId : Option ℤ) (lists : ℕ → List UpstreamFinding) (m : ℕ) :
    List UpstreamFinding :=
  (pages pageSize lists m).filter fun f => newer cursorId f.id

section Fetching

variable {client : FindingsClient} {u : Upstream} {cursorId : Option ℤ}

theorem freshRecords_raw (cursorId : Option ℤ) (fs : List UpstreamFinding) :
    freshRecords cursorId (fs.map UpstreamFinding.raw)
      = .ok ((fs.filter fun f => newer cursorId f.id).map UpstreamFinding.raw) := by
  induction fs with
  | nil => rfl
  | cons f fs ih =>
      have hfresh : isFresh cursorId f.raw = .ok (newer cursorId f.id) := by
        cases cursorId with
        | none => rfl
        | some c => rw [isFresh, f.id_eq]; rfl
      rw [List.map_cons, freshRecords, hfresh, ih]
      by_cases hnewer : newer cursorId f.id = true
      · simp [hnewer]
      · simp [hnewer]

omit [PythonInt] in
theorem page_short {n k : ℕ} (h : n < pageSize * (k + 1)) :
    min pageSize (n - pageSize * k) < pageSize := by
  have hsize : 0 < pageSize := by decide
  rw [Nat.mul_succ] at h
  omega

omit [PythonInt] in
theorem short_of_page {n k : ℕ} (h : min pageSize (n - pageSize * k) < pageSize) :
    n < pageSize * (k + 1) := by
  rw [Nat.mul_succ]
  omega

/-- What the loop returns, from the `k`-th page on. -/
theorem fetchPages_returned (hanswers : u.Answers client) {fuel k : ℕ} {records : List Json}
    (hfull : ∀ j < k, pageSize * (j + 1) ≤ (u.served cursorId j).length)
    (h : fetchPages client cursorId fuel (pageSize * k)
      ((collected cursorId (u.served cursorId) k).map UpstreamFinding.raw) = some (.ok records)) :
    ∃ m, LastPage (u.served cursorId) m ∧
      records = (collected cursorId (u.served cursorId) (m + 1)).map UpstreamFinding.raw := by
  induction fuel generalizing k with
  | zero => cases h
  | succ fuel ih =>
      rw [fetchPages] at h
      cases hpage : client ⟨pageSize * k, cursorId⟩ with
      | error e => rw [hpage] at h; cases h
      | ok results =>
          obtain rfl := hanswers k cursorId results hpage
          have hmore : (collected cursorId (u.served cursorId) k).map UpstreamFinding.raw
              ++ ((page pageSize (pageSize * k) (u.served cursorId k)).filter fun f =>
                newer cursorId f.id).map UpstreamFinding.raw
              = (collected cursorId (u.served cursorId) (k + 1)).map UpstreamFinding.raw := by
            rw [← List.map_append, collected, collected, ← List.filter_append, pages]
          simp only [hpage, freshRecords_raw, hmore, List.length_map, length_page] at h
          by_cases hshort : (u.served cursorId k).length < pageSize * (k + 1)
          · rw [if_pos (page_short hshort)] at h
            cases h
            exact ⟨k, ⟨hfull, hshort⟩, rfl⟩
          · rw [if_neg fun hpage => hshort (short_of_page hpage), ← Nat.mul_succ] at h
            refine ih (fun j hj => ?_) h
            rcases Nat.lt_succ_iff_lt_or_eq.1 hj with hj | rfl
            · exact hfull j hj
            · exact not_lt.1 hshort

/-- A loop that has not returned has read full pages only. -/
theorem fetchPages_running (hanswers : u.Answers client) {fuel k : ℕ} {records : List Json}
    (h : fetchPages client cursorId fuel (pageSize * k) records = none) :
    ∀ j < fuel, pageSize * (k + j + 1) ≤ (u.served cursorId (k + j)).length := by
  induction fuel generalizing k records with
  | zero => intro j hj; omega
  | succ fuel ih =>
      rw [fetchPages] at h
      cases hpage : client ⟨pageSize * k, cursorId⟩ with
      | error e => rw [hpage] at h; cases h
      | ok results =>
          obtain rfl := hanswers k cursorId results hpage
          simp only [hpage, freshRecords_raw, List.length_map, length_page] at h
          by_cases hshort : (u.served cursorId k).length < pageSize * (k + 1)
          · rw [if_pos (page_short hshort)] at h
            cases h
          · rw [if_neg fun hpage => hshort (short_of_page hpage), ← Nat.mul_succ] at h
            intro j hj
            cases j with
            | zero => exact not_lt.1 hshort
            | succ j =>
                have hrest := ih h j (by omega)
                rw [show k + (j + 1) = k.succ + j by omega]
                exact hrest

/-- The cursor after some findings. -/
def cursorAfter (fs : List UpstreamFinding) (cursor : Option String) : Option String :=
  (fs.map UpstreamFinding.id).max?.elim cursor fun n => some n.repr

theorem nextCursor_raw (fs : List UpstreamFinding) (cursor : Option String) :
    nextCursor (fs.map UpstreamFinding.raw) cursor = .ok (cursorAfter fs cursor) := by
  have hids : (fs.map UpstreamFinding.raw).mapM findingId = .ok (fs.map UpstreamFinding.id) := by
    induction fs with
    | nil => rfl
    | cons f fs ih =>
        rw [List.map_cons, List.mapM_cons, ih, f.id_eq]
        rfl
  rw [nextCursor, hids]
  rfl

/-- **What a fetch returns**: what the pages up to the first short one leave, and the largest id of
    it. -/
theorem fetch_returned (hanswers : u.Answers client) {fuel : ℕ} {cursor next : Option String}
    {records : List Json} (h : fetch client fuel cursor = some (.ok (records, next))) :
    ∃ cursorId m, cursorIdOf cursor = .ok cursorId ∧ LastPage (u.served cursorId) m ∧
      records = (collected cursorId (u.served cursorId) (m + 1)).map UpstreamFinding.raw ∧
      next = cursorAfter (collected cursorId (u.served cursorId) (m + 1)) cursor := by
  unfold fetch at h
  cases hcursor : cursorIdOf cursor with
  | error e => rw [hcursor] at h; cases h
  | ok cursorId =>
      simp only [hcursor] at h
      obtain ⟨answer, hpages, h⟩ := Option.map_eq_some_iff.1 h
      obtain ⟨records', rfl, h⟩ := except_bind_eq_ok.1 h
      obtain ⟨m, hlast, rfl⟩ := fetchPages_returned (k := 0) hanswers (fun j hj => absurd hj
        (Nat.not_lt_zero j)) hpages
      simp only [except_ok_bind, nextCursor_raw] at h
      cases h
      exact ⟨cursorId, m, rfl, hlast, rfl, rfl⟩

/-- A fetch is over when the lists have no more full pages. -/
theorem fetch_isSome (hanswers : u.Answers client) {fuel : ℕ} {cursor : Option String}
    (hshort : ∀ cursorId, ∃ k < fuel, (u.served cursorId k).length < pageSize * (k + 1)) :
    (fetch client fuel cursor).isSome = true := by
  unfold fetch
  cases hcursor : cursorIdOf cursor with
  | error e => rfl
  | ok cursorId =>
      cases hpages : fetchPages client cursorId fuel 0 [] with
      | some answer => simp [hpages]
      | none =>
          obtain ⟨k, hk, hlength⟩ := hshort cursorId
          have hfull := fetchPages_running (k := 0) hanswers hpages k hk
          rw [Nat.zero_add] at hfull
          exact absurd hlength (not_lt.2 hfull)

/-! ### A list that does not change -/

theorem served_const {fs : List UpstreamFinding} (hconst : ∀ k, u.listed k = fs)
    (cursorId : Option ℤ) : ∃ served, u.served cursorId = (fun _ => served) ∧
      served.filter (fun f => newer cursorId f.id) = fs.filter fun f => newer cursorId f.id := by
  by_cases hhonours : u.honours = true
  · refine ⟨fs.filter fun f => newer cursorId f.id, funext fun k => ?_, ?_⟩
    · rw [Upstream.served, if_pos hhonours, hconst]
    · rw [List.filter_filter]
      simp
  · refine ⟨fs, funext fun k => ?_, rfl⟩
    rw [Upstream.served, if_neg hhonours, hconst]

/-- All pages together are the whole list. -/
theorem collected_const {fs : List UpstreamFinding} (hconst : ∀ k, u.listed k = fs) {m : ℕ}
    (hlast : LastPage (u.served cursorId) m) :
    collected cursorId (u.served cursorId) (m + 1) = fs.filter fun f => newer cursorId f.id := by
  obtain ⟨served, hserved, hfilter⟩ := served_const hconst cursorId
  have hshort := hlast.short
  rw [hserved] at hshort ⊢
  rw [collected, pages_const, List.take_of_length_le hshort.le, hfilter]

/-! ### A list that changes between the requests -/

theorem served_drifts (hdrifts : Drifts UpstreamFinding.id u.listed) (cursorId : Option ℤ) :
    Drifts UpstreamFinding.id (u.served cursorId) := by
  by_cases hhonours : u.honours = true
  · have hserved : ∀ k, u.served cursorId k
        = (u.listed k).filter fun f => newer cursorId f.id := by
      intro k
      rw [Upstream.served, if_pos hhonours]
    refine ⟨fun k => ?_, fun k f hf => ?_⟩
    · rw [hserved]
      exact (hdrifts.sorted k).sublist List.filter_sublist
    · rw [hserved] at hf ⊢
      obtain ⟨hmem, hnewer⟩ := List.mem_filter.1 hf
      rcases hdrifts.kept k f hmem with ⟨g, hg, hid⟩ | hnew
      · exact Or.inl ⟨g, List.mem_filter.2 ⟨hg, by rw [hid]; exact hnewer⟩, hid⟩
      · exact Or.inr fun g hg => hnew g (List.mem_filter.1 hg).1
  · have hserved : u.served cursorId = u.listed := by
      funext k
      rw [Upstream.served, if_neg hhonours]
    rw [hserved]
    exact hdrifts

/-- A finding behind the cursor that is listed from the first request to the last. -/
structure Lasts (u : Upstream) (cursorId : Option ℤ) (m : ℕ) (id : ℤ) : Prop where
  newer : newer cursorId id = true
  listed : ∀ k ≤ m, ∃ f ∈ u.listed k, f.id = id

theorem Lasts.served {m : ℕ} {id : ℤ} (hlasts : Lasts u cursorId m id) :
    ∀ k ≤ m, ∃ f ∈ u.served cursorId k, f.id = id := by
  intro k hk
  obtain ⟨f, hf, rfl⟩ := hlasts.listed k hk
  unfold Upstream.served
  split_ifs
  · exact ⟨f, List.mem_filter.2 ⟨hf, hlasts.newer⟩, rfl⟩
  · exact ⟨f, hf, rfl⟩

/-- Every finding that lasts through the fetch is returned; in particular each one that is not behind
    the next cursor, which the next fetch will pass over. -/
structure FetchComplete (u : Upstream) (cursorId : Option ℤ) (m : ℕ) (records : List Json)
    (next : Option String) : Prop where
  returned : ∀ id, Lasts u cursorId m id → ∃ record ∈ records, findingId record = .ok id
  notSkipped : ∀ id nextId, Lasts u cursorId m id → cursorIdOf next = .ok nextId →
    newer nextId id = false → ∃ record ∈ records, findingId record = .ok id

/-- No finding that lasts moves over the offset of the page that is requested next. -/
def NoneCrosses (u : Upstream) (cursorId : Option ℤ) (m : ℕ) : Prop :=
  ∀ id, Lasts u cursorId m id →
    ∀ k < m, ¬ Crosses UpstreamFinding.id pageSize (u.served cursorId) id k

/-- **Paging under change.** A fetch over a list that loses findings, and gains newer ones, between
    the requests returns every finding that lasts through it exactly when none of them crosses the offset
    of a page about to be requested. -/
theorem fetch_complete_iff (hanswers : u.Answers client)
    (hdrifts : Drifts UpstreamFinding.id u.listed) {fuel m : ℕ} {cursor next : Option String}
    {records : List Json} (hcursor : cursorIdOf cursor = .ok cursorId)
    (hlast : LastPage (u.served cursorId) m)
    (hfetch : fetch client fuel cursor = some (.ok (records, next))) :
    FetchComplete u cursorId m records next ↔ NoneCrosses u cursorId m := by
  obtain ⟨cursorId', m', hcursor', hlast', rfl, -⟩ := fetch_returned hanswers hfetch
  obtain rfl := Except.ok.inj (hcursor.symm.trans hcursor')
  obtain rfl := hlast.unique hlast'
  have hcrosses := fun id (hlasts : Lasts u cursorId m id) =>
    mem_pages_iff_of_drifts (served_drifts hdrifts cursorId) hlasts.served hlast.short
  constructor
  · intro hcomplete id hlasts
    obtain ⟨record, hrecord, hid⟩ := hcomplete.returned id hlasts
    obtain ⟨f, hf, rfl⟩ := List.mem_map.1 hrecord
    rw [f.id_eq] at hid
    exact (hcrosses id hlasts).1 ⟨f, (List.mem_filter.1 hf).1, Except.ok.inj hid⟩
  · intro hnone
    have hreturned : ∀ id, Lasts u cursorId m id → ∃ record ∈ (collected cursorId
        (u.served cursorId) (m + 1)).map UpstreamFinding.raw, findingId record = .ok id := by
      intro id hlasts
      obtain ⟨f, hf, rfl⟩ := (hcrosses id hlasts).2 (hnone id hlasts)
      exact ⟨f.raw, List.mem_map_of_mem (List.mem_filter.2 ⟨hf, hlasts.newer⟩), f.id_eq⟩
    exact ⟨hreturned, fun id _ hlasts _ _ => hreturned id hlasts⟩

end Fetching

end Client

/-! ## A deletion between two pages -/

/-- A finding with an id only. -/
def sampleUpstreamFinding (id : ℤ) : @UpstreamFinding asciiDigits :=
  @UpstreamFinding.mk asciiDigits (.obj [("id", .int id)]) id rfl

/-- The findings with `n` ids from `first` on. -/
def sampleFindings (first n : ℕ) : List (@UpstreamFinding asciiDigits) :=
  (List.range' first n).map fun id : ℕ => sampleUpstreamFinding id

/-- 200 findings, of which the first is deleted after the first page. -/
def sampleShrinking : @Upstream asciiDigits :=
  @Upstream.mk asciiDigits (fun k => if k = 0 then sampleFindings 1 200 else sampleFindings 2 199) false

/-- The client of an upstream that never fails. -/
def sampleClient (u : @Upstream asciiDigits) : FindingsClient := fun request =>
  .ok ((page pageSize request.offset (@Upstream.served asciiDigits u request.idGt
    (request.offset / pageSize))).map (@UpstreamFinding.raw asciiDigits))

theorem sampleClient_answers (u : @Upstream asciiDigits) :
    @Upstream.Answers asciiDigits u (sampleClient u) := by
  intro k cursorId results h
  have hk : pageSize * k / pageSize = k := Nat.mul_div_cancel_left k (by decide)
  simp only [sampleClient, hk] at h
  exact (Except.ok.inj h).symm

theorem sampleFindings_sorted (first n : ℕ) : (sampleFindings first n).Pairwise
    fun f g => @UpstreamFinding.id asciiDigits f < @UpstreamFinding.id asciiDigits g := by
  refine List.Pairwise.map _ (fun a b hab => ?_) (List.pairwise_lt_range' (s := first) (n := n))
  exact Int.ofNat_lt.2 hab

theorem mem_sampleFindings {first n i : ℕ} (h : first ≤ i ∧ i < first + n) :
    ∃ f ∈ sampleFindings first n, @UpstreamFinding.id asciiDigits f = i :=
  ⟨_, List.mem_map_of_mem (List.mem_range'_1.2 h), rfl⟩

theorem sampleShrinking_drifts :
    Drifts (@UpstreamFinding.id asciiDigits) (@Upstream.listed asciiDigits sampleShrinking) := by
  refine ⟨fun k => ?_, fun k f hf => Or.inl ?_⟩
  · cases k with
    | zero => exact sampleFindings_sorted 1 200
    | succ k => exact sampleFindings_sorted 2 199
  · change f ∈ sampleFindings 2 199 at hf
    obtain ⟨id, hid, rfl⟩ := List.mem_map.1 hf
    rw [List.mem_range'_1] at hid
    cases k with
    | zero => exact mem_sampleFindings (by omega)
    | succ k => exact ⟨_, hf, rfl⟩

theorem sampleShrinking_lastPage :
    @LastPage asciiDigits (@Upstream.served asciiDigits sampleShrinking none) 1 :=
  @LastPage.mk asciiDigits _ _ (by decide +kernel) (by decide +kernel)

/-- What a fetch returns, if it returns. -/
def sampleFetched (u : @Upstream asciiDigits) (fuel : ℕ) : List Json × Option String :=
  (((@fetch asciiDigits (sampleClient u) fuel none).getD (.error .typeError)).toOption).getD ([], none)

theorem sampleFetched_eq {u : @Upstream asciiDigits} {fuel : ℕ}
    (h : (@fetch asciiDigits (sampleClient u) fuel none).any (fun a => a.toOption.isSome) = true) :
    @fetch asciiDigits (sampleClient u) fuel none
      = some (.ok ((sampleFetched u fuel).1, (sampleFetched u fuel).2)) := by
  unfold sampleFetched
  generalize @fetch asciiDigits (sampleClient u) fuel none = answer at h ⊢
  cases answer with
  | none => cases h
  | some answer =>
      cases answer with
      | error e => cases h
      | ok _ => rfl

/-- The finding with id 101 moves to the first page, is not returned, and the cursor passes it. -/
theorem fetch_incomplete : ¬ ∀ (_ : PythonInt) (u : Upstream) (client : FindingsClient) (fuel m : ℕ)
    (cursor next : Option String) (cursorId : Option ℤ) (records : List Json), u.Answers client →
    Drifts UpstreamFinding.id u.listed → cursorIdOf cursor = .ok cursorId →
    LastPage (u.served cursorId) m → fetch client fuel cursor = some (.ok (records, next)) →
    FetchComplete u cursorId m records next := by
  intro h
  have hfetch : @fetch asciiDigits (sampleClient sampleShrinking) 2 none
      = some (.ok ((sampleFetched sampleShrinking 2).1, (sampleFetched sampleShrinking 2).2)) :=
    sampleFetched_eq (by decide +kernel)
  have hcomplete := h asciiDigits sampleShrinking _ 2 1 none _ none _ (sampleClient_answers _)
    sampleShrinking_drifts rfl sampleShrinking_lastPage hfetch
  have hlasts : @Lasts asciiDigits sampleShrinking none 1 101 := by
    refine @Lasts.mk asciiDigits _ _ _ _ rfl fun k hk => ?_
    cases k with
    | zero => exact mem_sampleFindings (i := 101) (by omega)
    | succ k => exact mem_sampleFindings (i := 101) (by omega)
  have hpassed : @cursorIdOf asciiDigits (sampleFetched sampleShrinking 2).2 = .ok (some 200) := by
    decide +kernel
  obtain ⟨record, hrecord, hid⟩ := @FetchComplete.notSkipped asciiDigits _ _ _ _ _ hcomplete 101 _
    hlasts hpassed rfl
  have hmissing : ((sampleFetched sampleShrinking 2).1.all fun record =>
      decide (@findingId asciiDigits record ≠ .ok 101)) = true := by decide +kernel
  exact of_decide_eq_true (List.all_eq_true.1 hmissing record hrecord) hid

/-- Three findings are upstream. -/
def sampleThree : @Upstream asciiDigits := @Upstream.mk asciiDigits (fun _ => sampleFindings 1 3) true

/-- 150 findings, of which the last is deleted after the first page. -/
def sampleTrimmed : @Upstream asciiDigits :=
  @Upstream.mk asciiDigits (fun k => if k = 0 then sampleFindings 1 150 else sampleFindings 1 149) false

theorem sampleTrimmed_drifts :
    Drifts (@UpstreamFinding.id asciiDigits) (@Upstream.listed asciiDigits sampleTrimmed) := by
  refine ⟨fun k => ?_, fun k f hf => Or.inl ?_⟩
  · cases k with
    | zero => exact sampleFindings_sorted 1 150
    | succ k => exact sampleFindings_sorted 1 149
  · change f ∈ sampleFindings 1 149 at hf
    obtain ⟨id, hid, rfl⟩ := List.mem_map.1 hf
    rw [List.mem_range'_1] at hid
    cases k with
    | zero => exact mem_sampleFindings (by omega)
    | succ k => exact ⟨_, hf, rfl⟩

/-- The deleted finding is behind the offset of the second page, so the others keep their places. -/
theorem sampleTrimmed_noneCrosses : @NoneCrosses asciiDigits sampleTrimmed none 1 := by
  rintro id hlasts k hk ⟨hbelow, habove⟩
  obtain rfl : k = 0 := by omega
  obtain ⟨f, hf, rfl⟩ := @Lasts.listed asciiDigits _ _ _ _ hlasts 1 le_rfl
  obtain ⟨n, hn, rfl⟩ := List.mem_map.1 hf
  rw [List.mem_range'_1] at hn
  have hplaces : position (@UpstreamFinding.id asciiDigits) (n : ℤ) (sampleFindings 1 150)
      ≤ position (@UpstreamFinding.id asciiDigits) (n : ℤ) (sampleFindings 1 149) := by
    refine position_le (sampleFindings_sorted 1 150) fun g hg hlt => ?_
    obtain ⟨j, hj, rfl⟩ := List.mem_map.1 hg
    rw [List.mem_range'_1] at hj
    exact mem_sampleFindings ⟨hj.1, (Int.ofNat_lt.1 hlt).trans hn.2⟩
  exact absurd (habove.trans hplaces) (not_le.2 hbelow)

/-- Two pages: what is deleted behind the offset loses no other finding. -/
theorem fetch_complete_iff_trimmed : ∃ records next,
    @fetch asciiDigits (sampleClient sampleTrimmed) 2 none = some (.ok (records, next)) ∧
    records.length = 149 ∧ @FetchComplete asciiDigits sampleTrimmed none 1 records next := by
  have hfetch : @fetch asciiDigits (sampleClient sampleTrimmed) 2 none
      = some (.ok ((sampleFetched sampleTrimmed 2).1, (sampleFetched sampleTrimmed 2).2)) :=
    sampleFetched_eq (by decide +kernel)
  have hlast : @LastPage asciiDigits (@Upstream.served asciiDigits sampleTrimmed none) 1 :=
    @LastPage.mk asciiDigits _ _ (by decide +kernel) (by decide +kernel)
  exact ⟨_, _, hfetch, by decide +kernel, (@fetch_complete_iff asciiDigits _ _ _
    (sampleClient_answers _) sampleTrimmed_drifts _ _ _ _ _ rfl hlast hfetch).2
    sampleTrimmed_noneCrosses⟩

end VulnOpsHub
