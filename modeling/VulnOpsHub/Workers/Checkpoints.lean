import VulnOpsHub.Lib.Canonical
import VulnOpsHub.Workers.Polling

set_option autoImplicit false

/-! # Checkpoints of the poller

`PollingWorker` keeps one row of `source_statuses` for a source. A cycle reads its cursor, fetches,
queues the jobs and then writes the row; a failure before that leaves the cursor as it was. -/

namespace VulnOpsHub

/-! ## Jobs and statuses -/

/-- A job of the queue `vulnops:ingest`. -/
structure Job where
  source : String
  payload : Json
  organizationId : String
  idempotencyKey : String

/-- A row of `source_statuses`. -/
structure SourceStatus where
  id : String
  source : String
  scope : String
  lastSuccessAt : Option Instant
  lastCheckedAt : Option Instant
  lastError : Option String
  freshness : String
  cursor : Option String
deriving DecidableEq, Repr

/-- The rows of scope `global`, one for a source, and the queue, oldest job first. -/
structure PollState where
  statuses : String → Option SourceStatus
  queue : List Job

/-- What a cycle takes from outside. -/
structure PollEnv where
  uuidHex : String
  clock : ℕ → Instant
  organizationId : String
  /-- `str(exc)`. -/
  describe : PyError → String

/-- `text[:512]`. -/
def truncated (text : String) : String := String.ofList (text.toList.take 512)

namespace PollState

def cursorOf (s : PollState) (source : String) : Option String :=
  (s.statuses source).bind SourceStatus.cursor

/-- The row `_checkpoint` creates for a source that has none. -/
def newStatus (env : PollEnv) (source : String) : SourceStatus where
  id := "src_" ++ source ++ "_" ++ env.uuidHex
  source := source
  scope := "global"
  lastSuccessAt := none
  lastCheckedAt := none
  lastError := none
  freshness := "fresh"
  cursor := none

/-- `_checkpoint`. -/
def checkpoint (env : PollEnv) (source freshness : String) (cursor error : Option String)
    (s : PollState) : PollState :=
  let status := (s.statuses source).getD (newStatus env source)
  let checked :=
    { status with
      lastCheckedAt := some (env.clock 0)
      freshness := freshness
      lastError := error }
  let saved :=
    if freshness = "fresh" then
      { checked with lastSuccessAt := some (env.clock 1), cursor := cursor.or checked.cursor }
    else checked
  { s with statuses := Function.update s.statuses source (some saved) }

theorem cursorOf_checkpoint_stale (env : PollEnv) (source : String) (error : Option String)
    (s : PollState) (source' : String) :
    (s.checkpoint env source "stale" none error).cursorOf source' = s.cursorOf source' := by
  unfold checkpoint cursorOf
  by_cases h : source' = source
  · subst h
    cases s.statuses source' <;> simp [newStatus]
  · simp [h]

theorem cursorOf_checkpoint_fresh (env : PollEnv) (source : String) (cursor : Option String)
    (s : PollState) : (s.checkpoint env source "fresh" cursor none).cursorOf source
      = cursor.or (s.cursorOf source) := by
  unfold checkpoint cursorOf
  cases s.statuses source <;> simp [newStatus]

theorem cursorOf_checkpoint_of_ne (env : PollEnv) {source source' : String} (freshness : String)
    (cursor error : Option String) (s : PollState) (hne : source' ≠ source) :
    (s.checkpoint env source freshness cursor error).cursorOf source' = s.cursorOf source' := by
  simp [checkpoint, cursorOf, hne]

end PollState

section Worker

variable [Python]

/-- `_job`. -/
def jobOf (source : String) (payload : Json) (organizationId : String) : Except PyError Job := do
  let id ← payload.get "id"
  let natural ←
    (if source = "wazuh" then do
      let agent ← payload.getOr "agent" (.obj [])
      let package ← payload.getOr "package" (.obj [])
      let agentId ← agent.get "id"
      let name ← package.get "name"
      let version ← package.get "version"
      pure (.str (pyStr agentId ++ ":" ++ pyStr name ++ ":" ++ pyStr version))
    else pure id)
  pure ⟨source, payload, organizationId, source ++ ":" ++ pyStr natural⟩

/-- How a call of the enqueuer ends: the pipeline pushes all jobs or none, and an error may be raised
    either way. -/
inductive EnqueueOutcome where
  | returned
  | raised (pushed : Bool) (e : PyError)

def EnqueueOutcome.pushed : EnqueueOutcome → Bool
  | .returned => true
  | .raised pushed _ => pushed

/-- `_poll_source`, from the answer of the client on; it returns the number of jobs. -/
def pollSource (env : PollEnv) (source : String)
    (fetched : Except PyError (List Json × Option String)) (enqueued : EnqueueOutcome)
    (s : PollState) : Except PyError ℕ × PollState :=
  match fetched with
  | .error e => (.ok 0, s.checkpoint env source "stale" none (some (truncated (env.describe e))))
  | .ok (records, next) =>
      match records.mapM fun record => jobOf source record env.organizationId with
      | .error e => (.error e, s)
      | .ok jobs =>
          let s := if enqueued.pushed then { s with queue := s.queue ++ jobs } else s
          match enqueued with
          | .raised _ e =>
              (.ok 0, s.checkpoint env source "stale" none
                (some (truncated ("enqueue failed: " ++ env.describe e))))
          | .returned => (.ok jobs.length, s.checkpoint env source "fresh" next none)

/-! ## Runs -/

variable [PythonInt]

/-- A fetch whose cursor has been saved. -/
structure Checkpoint where
  upstream : Upstream
  cursor : Option String
  records : List Json
  next : Option String

/-- The ids from behind the old cursor up to the new one. -/
def Checkpoint.Covers (c : Checkpoint) (id : ℤ) : Prop :=
  ∃ cursorId n, cursorIdOf c.cursor = .ok cursorId ∧ cursorIdOf c.next = .ok (some n) ∧
    newer cursorId id = true ∧ id ≤ n

/-- A cycle of the poller for DefectDojo, over an upstream with `good`, or for another source. The
    process may die after the jobs have been pushed. -/
inductive PollStep (good : Upstream → Prop) (s : PollState) : Option Checkpoint → PollState → Prop
  | saved {u : Upstream} {client : FindingsClient} {fuel : ℕ} {records : List Json}
      {next : Option String} (env : PollEnv) (hgood : good u) (hanswers : u.Answers client)
      (hfetch : fetch client fuel (s.cursorOf "defectdojo") = some (.ok (records, next))) :
      PollStep good s (some ⟨u, s.cursorOf "defectdojo", records, next⟩)
        (pollSource env "defectdojo" (.ok (records, next)) .returned s).2
  | fetchFailed (env : PollEnv) (e : PyError) (enqueued : EnqueueOutcome) :
      PollStep good s none (pollSource env "defectdojo" (.error e) enqueued s).2
  | enqueueFailed {u : Upstream} {client : FindingsClient} {fuel : ℕ} {records : List Json}
      {next : Option String} (env : PollEnv) (hgood : good u) (hanswers : u.Answers client)
      (hfetch : fetch client fuel (s.cursorOf "defectdojo") = some (.ok (records, next)))
      (pushed : Bool) (e : PyError) :
      PollStep good s none (pollSource env "defectdojo" (.ok (records, next)) (.raised pushed e) s).2
  | died {u : Upstream} {client : FindingsClient} {fuel : ℕ} {records : List Json}
      {next : Option String} (env : PollEnv) (hgood : good u) (hanswers : u.Answers client)
      (hfetch : fetch client fuel (s.cursorOf "defectdojo") = some (.ok (records, next)))
      {jobs : List Job}
      (hjobs : records.mapM (fun record => jobOf "defectdojo" record env.organizationId) = .ok jobs) :
      PollStep good s none { s with queue := s.queue ++ jobs }
  | other (env : PollEnv) {source : String} (hother : source ≠ "defectdojo")
      (fetched : Except PyError (List Json × Option String)) (enqueued : EnqueueOutcome) :
      PollStep good s none (pollSource env source fetched enqueued s).2

/-- A run of the poller, with the fetches whose cursors have been saved. -/
inductive Polls (good : Upstream → Prop) : List Checkpoint → PollState → Prop
  | start : Polls good [] ⟨fun _ => none, []⟩
  | step {log : List Checkpoint} {s s' : PollState} {entry : Option Checkpoint}
      (run : Polls good log s) (next : PollStep good s entry s') : Polls good (log ++ entry.toList) s'

/-- A job for a record is in the queue. -/
def PollState.Queued (s : PollState) (record : Json) : Prop :=
  ∃ job ∈ s.queue, job.source = "defectdojo" ∧ job.payload = record

omit [Python] in
theorem cursorIdOf_repr (n : ℤ) : cursorIdOf (some n.repr) = .ok (some n) := by
  have htext : nonEmpty (some n.repr) = some n.repr :=
    nonEmpty_eq_some.2 ⟨rfl, repr_ne_empty n⟩
  rw [cursorIdOf, htext]
  simp [PythonInt.int_repr]

omit [Python] in
/-- The cursor after a fetch is the largest id of its records. -/
theorem cursorAfter_cases (fs : List UpstreamFinding) (cursor : Option String) :
    fs = [] ∧ cursorAfter fs cursor = cursor ∨
      ∃ f ∈ fs, cursorAfter fs cursor = some f.id.repr ∧ ∀ g ∈ fs, g.id ≤ f.id := by
  unfold cursorAfter
  cases hmax : (fs.map UpstreamFinding.id).max? with
  | none =>
      have hnil : fs = [] := by simpa using hmax
      exact Or.inl ⟨hnil, rfl⟩
  | some n =>
      obtain ⟨hmem, hle⟩ := List.max?_eq_some_iff.1 hmax
      obtain ⟨f, hf, rfl⟩ := List.mem_map.1 hmem
      exact Or.inr ⟨f, hf, rfl, fun g hg => hle _ (List.mem_map_of_mem hg)⟩

/-- A finding makes a job. -/
theorem jobOf_raw (f : UpstreamFinding) (organizationId : String) :
    ∃ job, jobOf "defectdojo" f.raw organizationId = .ok job ∧ job.source = "defectdojo" ∧
      job.payload = f.raw := by
  obtain ⟨id, hindex, -⟩ := except_bind_eq_ok.1 f.id_eq
  cases hraw : f.raw with
  | obj members => exact ⟨_, rfl, rfl, rfl⟩
  | _ => rw [hraw] at hindex; cases hindex

theorem jobs_raw (fs : List UpstreamFinding) (organizationId : String) :
    ∃ jobs, (fs.map UpstreamFinding.raw).mapM (fun record => jobOf "defectdojo" record organizationId)
      = .ok jobs ∧ ∀ f ∈ fs, ∃ job ∈ jobs, job.source = "defectdojo" ∧ job.payload = f.raw := by
  induction fs with
  | nil => exact ⟨[], rfl, fun f hf => absurd hf List.not_mem_nil⟩
  | cons f fs ih =>
      obtain ⟨job, hjob, hsource, hpayload⟩ := jobOf_raw f organizationId
      obtain ⟨jobs, hjobs, hall⟩ := ih
      refine ⟨job :: jobs, ?_, fun g hg => ?_⟩
      · rw [List.map_cons, List.mapM_cons, hjob, hjobs]
        rfl
      · rcases List.mem_cons.1 hg with rfl | hg
        · exact ⟨job, List.mem_cons_self, hsource, hpayload⟩
        · obtain ⟨job', hjob', hrest⟩ := hall g hg
          exact ⟨job', List.mem_cons_of_mem _ hjob', hrest⟩

section Cycles

variable {good : Upstream → Prop} {s s' : PollState} {entry : Option Checkpoint}
  {log : List Checkpoint}

omit [PythonInt] in
theorem pollSource_queue (env : PollEnv) (source : String)
    (fetched : Except PyError (List Json × Option String)) (enqueued : EnqueueOutcome)
    (s : PollState) : s.queue <+: (pollSource env source fetched enqueued s).2.queue := by
  unfold pollSource
  split
  · exact List.prefix_rfl
  · split
    · exact List.prefix_rfl
    · have hpushed : ∀ jobs : List Job, s.queue <+:
          (if enqueued.pushed then { s with queue := s.queue ++ jobs } else s).queue := by
        intro jobs
        split_ifs
        · exact List.prefix_append _ _
        · exact List.prefix_rfl
      cases enqueued <;> exact hpushed _

omit [PythonInt] in
/-- A cycle of another source does not touch the cursor. -/
theorem pollSource_cursorOf_of_ne (env : PollEnv) {source source' : String} (hne : source' ≠ source)
    (fetched : Except PyError (List Json × Option String)) (enqueued : EnqueueOutcome)
    (s : PollState) : (pollSource env source fetched enqueued s).2.cursorOf source'
      = s.cursorOf source' := by
  have hpushed : ∀ jobs : List Job,
      (if enqueued.pushed then { s with queue := s.queue ++ jobs } else s).cursorOf source'
        = s.cursorOf source' := by
    intro jobs
    split_ifs <;> rfl
  unfold pollSource
  split
  · exact PollState.cursorOf_checkpoint_of_ne _ _ _ _ _ hne
  · split
    · rfl
    · cases enqueued with
      | returned => exact (PollState.cursorOf_checkpoint_of_ne _ _ _ _ _ hne).trans (hpushed _)
      | raised pushed e =>
          exact (PollState.cursorOf_checkpoint_of_ne _ _ _ _ _ hne).trans (hpushed _)

omit [PythonInt] in
/-- Nor does a cycle that fails. -/
theorem pollSource_cursorOf_of_failed (env : PollEnv) (source source' : String)
    (fetched : Except PyError (List Json × Option String)) {enqueued : EnqueueOutcome}
    (hfailed : (∃ e, fetched = .error e) ∨ ∃ pushed e, enqueued = .raised pushed e)
    (s : PollState) : (pollSource env source fetched enqueued s).2.cursorOf source'
      = s.cursorOf source' := by
  rcases hfailed with ⟨e, rfl⟩ | ⟨pushed, e, rfl⟩
  · exact PollState.cursorOf_checkpoint_stale _ _ _ _ _
  · unfold pollSource
    split
    · exact PollState.cursorOf_checkpoint_stale _ _ _ _ _
    · split
      · rfl
      · refine (PollState.cursorOf_checkpoint_stale _ _ _ _ _).trans ?_
        cases pushed <;> rfl

/-- What a cycle leaves that saves its cursor. -/
theorem pollSource_saved (env : PollEnv) (fs : List UpstreamFinding) (s : PollState) :
    ((pollSource env "defectdojo"
        (.ok (fs.map UpstreamFinding.raw, cursorAfter fs (s.cursorOf "defectdojo")))
        .returned s).2.cursorOf "defectdojo" = cursorAfter fs (s.cursorOf "defectdojo")) ∧
      ∀ f ∈ fs, (pollSource env "defectdojo"
        (.ok (fs.map UpstreamFinding.raw, cursorAfter fs (s.cursorOf "defectdojo")))
        .returned s).2.Queued f.raw := by
  obtain ⟨jobs, hjobs, hall⟩ := jobs_raw fs env.organizationId
  simp only [pollSource, hjobs]
  constructor
  · refine (PollState.cursorOf_checkpoint_fresh _ _ _ _).trans ?_
    rcases cursorAfter_cases fs (s.cursorOf "defectdojo") with ⟨-, hcursor⟩ | ⟨f, -, hcursor, -⟩
    · rw [hcursor]
      exact Option.or_self
    · rw [hcursor]
      rfl
  · intro f hf
    obtain ⟨job, hjob, hrest⟩ := hall f hf
    exact ⟨job, List.mem_append_right _ hjob, hrest⟩

/-! ### What holds in every run -/

/-- What a checkpoint says about its fetch. -/
structure Checkpoint.Fetched (good : Upstream → Prop) (c : Checkpoint) (cursorId : Option ℤ)
    (m : ℕ) : Prop where
  good : good c.upstream
  cursorId_eq : cursorIdOf c.cursor = .ok cursorId
  lastPage : LastPage (c.upstream.served cursorId) m
  records_eq : c.records
    = (collected cursorId (c.upstream.served cursorId) (m + 1)).map UpstreamFinding.raw
  next_eq : c.next = cursorAfter (collected cursorId (c.upstream.served cursorId) (m + 1)) c.cursor

/-- The saved cursor is what `str` wrote, the fetches cover all ids up to it, and what they returned
    has been queued. -/
structure PollInv (good : Upstream → Prop) (log : List Checkpoint) (s : PollState) : Prop where
  readable : ∀ text, s.cursorOf "defectdojo" = some text → ∃ n : ℤ, text = n.repr
  covered : ∀ n id : ℤ, s.cursorOf "defectdojo" = some n.repr → id ≤ n →
    ∃ entry ∈ log, entry.Covers id
  fetched : ∀ entry ∈ log, ∃ cursorId m, entry.Fetched good cursorId m
  queued : ∀ entry ∈ log, ∀ record ∈ entry.records, s.Queued record

omit [Python] [PythonInt] in
theorem PollState.Queued.mono {record : Json} (h : s.Queued record) (hqueue : s.queue <+: s'.queue) :
    s'.Queued record := by
  obtain ⟨job, hjob, hrest⟩ := h
  exact ⟨job, hqueue.subset hjob, hrest⟩

/-- A step that saves no cursor leaves it alone. -/
theorem PollStep.cursorOf_of_none (hstep : PollStep good s none s') :
    s'.cursorOf "defectdojo" = s.cursorOf "defectdojo" := by
  cases hstep with
  | fetchFailed env e enqueued =>
      exact pollSource_cursorOf_of_failed env _ _ _ (Or.inl ⟨e, rfl⟩) s
  | enqueueFailed env hgood hanswers hfetch pushed e =>
      exact pollSource_cursorOf_of_failed env _ _ _ (Or.inr ⟨pushed, e, rfl⟩) s
  | died env hgood hanswers hfetch hjobs => rfl
  | other env hother fetched enqueued =>
      exact pollSource_cursorOf_of_ne env (Ne.symm hother) fetched enqueued s

theorem PollStep.queue (hstep : PollStep good s entry s') : s.queue <+: s'.queue := by
  cases hstep with
  | died env hgood hanswers hfetch hjobs => exact List.prefix_append _ _
  | _ => exact pollSource_queue _ _ _ _ s

/-- A step that saves a cursor: what it has fetched is in the queue, and the cursor has moved to the
    largest id of it. -/
theorem PollStep.saved_fetched {c : Checkpoint} (hstep : PollStep good s (some c) s') :
    c.cursor = s.cursorOf "defectdojo" ∧ s'.cursorOf "defectdojo" = c.next ∧
      (∃ cursorId m, c.Fetched good cursorId m) ∧ ∀ record ∈ c.records, s'.Queued record := by
  cases hstep with
  | saved env hgood hanswers hfetch =>
      obtain ⟨cursorId, m, hcursor, hlast, rfl, rfl⟩ := fetch_returned hanswers hfetch
      obtain ⟨hsaved, hqueued⟩ := pollSource_saved env _ s
      refine ⟨rfl, hsaved, ⟨cursorId, m, hgood, hcursor, hlast, rfl, rfl⟩, fun record hrecord => ?_⟩
      obtain ⟨f, hf, rfl⟩ := List.mem_map.1 hrecord
      exact hqueued f hf

omit [Python] in
/-- The new cursor is the old one, or an id behind it. -/
theorem Checkpoint.Fetched.next_cases {c : Checkpoint} {cursorId : Option ℤ} {m : ℕ}
    (hfetched : c.Fetched good cursorId m) :
    c.next = c.cursor ∨ ∃ n : ℤ, c.next = some n.repr ∧ newer cursorId n = true := by
  rcases cursorAfter_cases (collected cursorId (c.upstream.served cursorId) (m + 1)) c.cursor with
    ⟨-, hsame⟩ | ⟨f, hf, hnext, -⟩
  · exact Or.inl (hfetched.next_eq.trans hsame)
  · exact Or.inr ⟨f.id, hfetched.next_eq.trans hnext, (List.mem_filter.1 hf).2⟩

omit [Python] in
/-- The fetch covers what no fetch before it has covered. -/
theorem PollInv.covered_next (hinv : PollInv good log s) {c : Checkpoint} {cursorId : Option ℤ}
    {m : ℕ} (hcursor : c.cursor = s.cursorOf "defectdojo") (hfetched : c.Fetched good cursorId m)
    {n id : ℤ} (hn : c.next = some n.repr) (hid : id ≤ n) :
    ∃ entry ∈ log ++ [c], entry.Covers id := by
  have hkept : ∀ k : ℤ, s.cursorOf "defectdojo" = some k.repr → id ≤ k →
      ∃ entry ∈ log ++ [c], entry.Covers id := by
    intro k hk hle
    obtain ⟨entry, hentry, hcovers⟩ := hinv.covered k id hk hle
    exact ⟨entry, List.mem_append_left _ hentry, hcovers⟩
  by_cases hnewer : newer cursorId id = true
  · exact ⟨c, List.mem_append_right _ (List.mem_singleton.2 rfl), cursorId, n,
      hfetched.cursorId_eq, by rw [hn, cursorIdOf_repr], hnewer, hid⟩
  · -- not behind the old cursor, which covers it then
    have hread := hfetched.cursorId_eq
    cases hold : s.cursorOf "defectdojo" with
    | none =>
        rw [hcursor, hold] at hread
        obtain rfl := Except.ok.inj hread
        exact absurd rfl hnewer
    | some text =>
        obtain ⟨k, rfl⟩ := hinv.readable text hold
        rw [hcursor, hold, cursorIdOf_repr] at hread
        obtain rfl := Except.ok.inj hread
        simp only [newer, Option.all_some, decide_eq_true_eq, not_lt] at hnewer
        exact hkept k hold hnewer

theorem PollInv.step (hinv : PollInv good log s) (hstep : PollStep good s entry s') :
    PollInv good (log ++ entry.toList) s' := by
  cases entry with
  | none =>
      have hcursor := hstep.cursorOf_of_none
      rw [Option.toList_none, List.append_nil]
      exact ⟨hcursor ▸ hinv.readable, hcursor ▸ hinv.covered, hinv.fetched,
        fun entry hentry record hrecord => (hinv.queued entry hentry record hrecord).mono hstep.queue⟩
  | some c =>
      obtain ⟨hcursor, hnext, ⟨cursorId, m, hfetched⟩, hqueued⟩ := hstep.saved_fetched
      rw [Option.toList_some]
      refine ⟨fun text htext => ?_, fun n id hn hid => ?_, fun entry hentry => ?_,
        fun entry hentry record hrecord => ?_⟩
      · rw [hnext] at htext
        rcases hfetched.next_cases with hsame | ⟨n, hn, -⟩
        · rw [hsame, hcursor] at htext
          exact hinv.readable text htext
        · rw [hn] at htext
          exact ⟨n, (Option.some.inj htext).symm⟩
      · rw [hnext] at hn
        exact hinv.covered_next hcursor hfetched hn hid
      · rcases List.mem_append.1 hentry with hentry | hentry
        · exact hinv.fetched entry hentry
        · rw [List.mem_singleton.1 hentry]
          exact ⟨cursorId, m, hfetched⟩
      · rcases List.mem_append.1 hentry with hentry | hentry
        · exact (hinv.queued entry hentry record hrecord).mono hstep.queue
        · rw [List.mem_singleton.1 hentry] at hrecord
          exact hqueued record hrecord

theorem Polls.inv (hrun : Polls good log s) : PollInv good log s := by
  induction hrun with
  | start =>
      have hnone : ∀ text, PollState.cursorOf ⟨fun _ => none, []⟩ "defectdojo" ≠ some text := by
        intro text h
        cases h
      exact ⟨fun _ h => absurd h (hnone _), fun _ _ h => absurd h (hnone _),
        fun _ h => absurd h List.not_mem_nil, fun _ h => absurd h List.not_mem_nil⟩
  | step run next ih => exact ih.step next

omit [Python] in
/-- The saved cursor is the text of the number it reads as. -/
theorem PollInv.cursorOf_eq (hinv : PollInv good log s) {n : ℤ}
    (hn : cursorIdOf (s.cursorOf "defectdojo") = .ok (some n)) :
    s.cursorOf "defectdojo" = some n.repr := by
  cases hcursor : s.cursorOf "defectdojo" with
  | none => rw [hcursor] at hn; cases hn
  | some text =>
      obtain ⟨k, rfl⟩ := hinv.readable text hcursor
      rw [hcursor, cursorIdOf_repr] at hn
      cases hn
      rfl

/-- The saved cursor does not decrease. -/
theorem PollStep.cursor_le (hstep : PollStep good s entry s') {n : ℤ}
    (hn : cursorIdOf (s.cursorOf "defectdojo") = .ok (some n)) :
    ∃ n', cursorIdOf (s'.cursorOf "defectdojo") = .ok (some n') ∧ n ≤ n' := by
  cases entry with
  | none => exact ⟨n, by rw [hstep.cursorOf_of_none, hn], le_rfl⟩
  | some c =>
      obtain ⟨hcursor, hnext, ⟨cursorId, m, hfetched⟩, -⟩ := hstep.saved_fetched
      rcases hfetched.next_cases with hsame | ⟨n', hn', hnewer⟩
      · exact ⟨n, by rw [hnext, hsame, hcursor, hn], le_rfl⟩
      · have hread := hfetched.cursorId_eq
        rw [hcursor, hn] at hread
        obtain rfl := Except.ok.inj hread
        refine ⟨n', by rw [hnext, hn', cursorIdOf_repr], ?_⟩
        simp only [newer, Option.all_some, decide_eq_true_eq] at hnewer
        exact hnewer.le

/-! ### An upstream that is constant during each fetch -/

/-- The upstream lists the same findings, in order, for all requests of a fetch. -/
def Steady (u : Upstream) : Prop :=
  ∃ fs : List UpstreamFinding, (fs.Pairwise fun f g => f.id < g.id) ∧ ∀ k, u.listed k = fs

/-- What a fetch over such an upstream returns: each finding behind the cursor, once, and the
    largest id of them. -/
structure FetchExact (u : Upstream) (cursor : Option String) (records : List Json)
    (next : Option String) (cursorId : Option ℤ) (fs : List UpstreamFinding) : Prop where
  listed : ∀ k, u.listed k = fs
  cursorId_eq : cursorIdOf cursor = .ok cursorId
  records_eq : records = (fs.filter fun f => newer cursorId f.id).map UpstreamFinding.raw
  once : records.Nodup
  next_eq : next = cursorAfter (fs.filter fun f => newer cursorId f.id) cursor

omit [Python] in
theorem fetch_exact {u : Upstream} {client : FindingsClient} {fuel : ℕ} {cursor next : Option String}
    {records : List Json} (hsteady : Steady u) (hanswers : u.Answers client)
    (hfetch : fetch client fuel cursor = some (.ok (records, next))) :
    ∃ cursorId fs, FetchExact u cursor records next cursorId fs := by
  obtain ⟨fs, hsorted, hconst⟩ := hsteady
  obtain ⟨cursorId, m, hcursor, hlast, rfl, rfl⟩ := fetch_returned hanswers hfetch
  rw [collected_const hconst hlast]
  refine ⟨cursorId, fs, hconst, hcursor, rfl, ?_, rfl⟩
  refine List.Pairwise.map _ (fun f g hlt => ?_) (hsorted.sublist List.filter_sublist)
  intro heq
  have hid := f.id_eq
  rw [heq, g.id_eq] at hid
  exact absurd (Except.ok.inj hid) (ne_of_gt hlt)

omit [Python] in
/-- Such a fetch is over when it has made a request for every full page, and one more. -/
theorem fetch_isSome_of_steady {u : Upstream} {client : FindingsClient} {fuel : ℕ}
    {fs : List UpstreamFinding} (hconst : ∀ k, u.listed k = fs) (hanswers : u.Answers client)
    (hfuel : fs.length < pageSize * fuel) (cursor : Option String) :
    (fetch client fuel cursor).isSome = true := by
  have hpos : 0 < fuel := by
    by_contra hzero
    rw [Nat.eq_zero_of_not_pos hzero] at hfuel
    omega
  refine fetch_isSome hanswers fun cursorId => ⟨fuel - 1, by omega, ?_⟩
  rw [Nat.sub_add_cancel hpos]
  refine lt_of_le_of_lt ?_ hfuel
  unfold Upstream.served
  rw [hconst]
  split_ifs
  · exact List.length_filter_le _ _
  · exact le_rfl

/-- What a step of the poller must not do: move the cursor back, or move it when the cycle fails. -/
structure CursorSafe (s : PollState) (entry : Option Checkpoint) (s' : PollState) : Prop where
  le : ∀ n, cursorIdOf (s.cursorOf "defectdojo") = .ok (some n) →
    ∃ n', cursorIdOf (s'.cursorOf "defectdojo") = .ok (some n') ∧ n ≤ n'
  failed : entry = none → s'.cursorOf "defectdojo" = s.cursorOf "defectdojo"

/-- **The checkpoints of the poller.** A fetch that ends well returns exactly the findings behind its
    cursor, and does end; the saved cursor never decreases and a failing cycle leaves it alone; and
    every finding up to it that the fetch covering it was shown has been queued. -/
theorem checkpoints_safe (hrun : Polls Steady log s) :
    (∀ (u : Upstream) (client : FindingsClient) (fuel : ℕ) (cursor next : Option String)
      (records : List Json), Steady u → u.Answers client →
      fetch client fuel cursor = some (.ok (records, next)) →
      ∃ cursorId fs, FetchExact u cursor records next cursorId fs) ∧
    (∀ (u : Upstream) (client : FindingsClient) (fuel : ℕ) (cursor : Option String)
      (fs : List UpstreamFinding), (∀ k, u.listed k = fs) → u.Answers client →
      fs.length < pageSize * fuel → (fetch client fuel cursor).isSome = true) ∧
    (∀ entry s', PollStep Steady s entry s' → CursorSafe s entry s') ∧
    ∀ n id : ℤ, cursorIdOf (s.cursorOf "defectdojo") = .ok (some n) → id ≤ n →
      ∃ entry ∈ log, entry.Covers id ∧
        ∀ k, ∀ f ∈ entry.upstream.listed k, f.id = id → s.Queued f.raw := by
  refine ⟨fun u client fuel cursor next records hsteady hanswers hfetch =>
      fetch_exact hsteady hanswers hfetch,
    fun u client fuel cursor fs hconst hanswers hfuel =>
      fetch_isSome_of_steady hconst hanswers hfuel cursor,
    fun entry s' hstep => ⟨fun n hn => hstep.cursor_le hn, ?_⟩, fun n id hn hid => ?_⟩
  · rintro rfl
    exact hstep.cursorOf_of_none
  · have hinv := hrun.inv
    obtain ⟨entry, hentry, hcovers⟩ := hinv.covered n id (hinv.cursorOf_eq hn) hid
    refine ⟨entry, hentry, hcovers, ?_⟩
    rintro k f hf rfl
    obtain ⟨cursorId, m, hfetched⟩ := hinv.fetched entry hentry
    obtain ⟨fs, -, hconst⟩ := hfetched.good
    obtain ⟨cursorId', -, hread, -, hnewer, -⟩ := hcovers
    obtain rfl := Except.ok.inj (hfetched.cursorId_eq.symm.trans hread)
    refine hinv.queued entry hentry f.raw ?_
    rw [hfetched.records_eq, collected_const hconst hfetched.lastPage]
    rw [hconst] at hf
    exact List.mem_map_of_mem (List.mem_filter.2 ⟨hf, hnewer⟩)

end Cycles

end Worker

/-! ## A first cycle -/

def samplePollEnv : PollEnv := ⟨"0", fun _ => 0, "org-demo", fun _ => ""⟩

/-- The first cycle fetches them. -/
def samplePolled : PollState :=
  (@pollSource asciiPython samplePollEnv "defectdojo" (.ok (sampleFetched sampleThree 1)) .returned
    ⟨fun _ => none, []⟩).2

/-- They are queued when the cursor is saved. -/
theorem checkpoints_safe_three : samplePolled.cursorOf "defectdojo" = some "3" ∧
    ∃ log : List (@Checkpoint asciiDigits), ∀ id ≤ 3, ∃ entry ∈ log,
      @Checkpoint.Covers asciiDigits entry id ∧ ∀ k,
        ∀ f ∈ @Upstream.listed asciiDigits (@Checkpoint.upstream asciiDigits entry) k,
          @UpstreamFinding.id asciiDigits f = id →
            samplePolled.Queued (@UpstreamFinding.raw asciiDigits f) := by
  have hsteady : @Steady asciiDigits sampleThree :=
    ⟨sampleFindings 1 3, sampleFindings_sorted 1 3, fun _ => rfl⟩
  have hfetch : @fetch asciiDigits (sampleClient sampleThree) 1 none
      = some (.ok ((sampleFetched sampleThree 1).1, (sampleFetched sampleThree 1).2)) :=
    sampleFetched_eq (by decide +kernel)
  have hrun := @Polls.step asciiPython asciiDigits _ _ _ _ _
    (@Polls.start asciiPython asciiDigits (@Steady asciiDigits))
    (@PollStep.saved asciiPython asciiDigits _ _ _ _ 1 _ _ samplePollEnv hsteady
      (sampleClient_answers _) hfetch)
  have hsafe := @checkpoints_safe asciiPython asciiDigits _ _ hrun
  exact ⟨by decide +kernel, _, fun id => hsafe.2.2.2 3 id (by decide +kernel)⟩

end VulnOpsHub
