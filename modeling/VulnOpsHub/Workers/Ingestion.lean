import VulnOpsHub.Integrations.Isolation
import VulnOpsHub.Workers.Checkpoints

set_option autoImplicit false

/-! # The ingestion worker

`IngestionWorker` pops a job and hands its payload to the bridge of its source. The job has left the
queue by then: when the handling fails, or the process dies before the commit, nothing puts it
back. -/

namespace VulnOpsHub

/-! ## Handling a job -/

/-- The handlers that `main` registers. -/
def bridgeOf (source : String) : Option Bridge :=
  if source = "defectdojo" then some .defectdojo
  else if source = "wazuh" then some .wazuh
  else none

/-- What `process` returns. -/
inductive ProcessResult where
  | skipped (reason : String)
  | processed (result : SourceSnapshot)
  | failed (error : PyError)

/-- The handler returns, or its exception is caught. -/
def ProcessResult.ofHandler : Except PyError SourceSnapshot → ProcessResult
  | .ok result => .processed result
  | .error e => .failed e

def ProcessResult.isProcessed : ProcessResult → Bool
  | .processed _ => true
  | _ => false

section Worker

variable [Python] [PythonDigits] [Driver] [Sha256]

/-- `IngestionWorker.process`. -/
def processJob (env : CallEnv) (job : Job) (s : EvidenceStore) : ProcessResult × EvidenceStore :=
  match bridgeOf job.source with
  | none => (.skipped ("no handler for " ++ job.source), s)
  | some b =>
      let outcome := b.deliver env job.payload job.organizationId s
      (.ofHandler outcome.1, outcome.2)

/-- A source snapshot of a finding. -/
def EvidenceStore.HasSnapshot (s : EvidenceStore) (record : Json) : Prop :=
  ∃ row ∈ s.snapshots.rows, row.source = "defectdojo" ∧ row.contentSha256 = canonicalDigest record

/-- Handling a job removes no snapshot. -/
theorem processJob_snapshots (env : CallEnv) (job : Job) (s : EvidenceStore) :
    s.snapshots.rows <+: (processJob env job s).2.snapshots.rows := by
  have hwritten : ∀ {w t}, Written s w t → s.snapshots.rows <+: t.snapshots.rows := by
    intro w t hw
    rw [hw.snapshots]
    exact List.prefix_append _ _
  unfold processJob
  cases bridgeOf job.source with
  | none => exact List.prefix_rfl
  | some b =>
      rcases b.deliver_cases env job.payload job.organizationId s with
        ⟨e, -, hw⟩ | ⟨r, snapshot, -, -, ⟨-, hsame⟩ | ⟨-, rows, -, -, hw⟩⟩
      · exact hwritten hw
      · simp only [hsame]
        exact List.prefix_rfl
      · exact hwritten hw

/-- A finding that has been handled has a snapshot. -/
theorem processJob_hasSnapshot {env : CallEnv} {job : Job} {s : EvidenceStore}
    (hsource : job.source = "defectdojo") (hprocessed : (processJob env job s).1.isProcessed = true) :
    (processJob env job s).2.HasSnapshot job.payload := by
  have hhandler : bridgeOf job.source = some .defectdojo := by
    rw [hsource]
    rfl
  simp only [processJob, hhandler] at hprocessed ⊢
  rcases Bridge.deliver_cases .defectdojo env job.payload job.organizationId s with
    ⟨e, he, -⟩ | ⟨r, snapshot, hr, hok, hend⟩
  · rw [he] at hprocessed
    cases hprocessed
  · have hrow : ∀ row : SourceSnapshot, NaturalKey.natural row = r.key →
        row.source = "defectdojo" ∧ row.contentSha256 = canonicalDigest job.payload := by
      intro row hkey
      rcases Bridge.record_cases hr with ⟨-, -, rfl⟩ | ⟨hwazuh, -⟩
      · exact ⟨congrArg SnapshotKey.source hkey, congrArg SnapshotKey.contentSha256 hkey⟩
      · cases hwazuh
    rcases hend with ⟨hfound, hsame⟩ | ⟨-, rows, hrows, rfl, hw⟩
    · obtain ⟨hmem, hkey⟩ := UniqueTable.byNatural_eq_some.1 hfound
      rw [hsame]
      exact ⟨snapshot, hmem, hrow snapshot hkey⟩
    · refine ⟨rows.snapshot, ?_, hrow _ hrows.natural_eq⟩
      rw [hw.snapshots]
      simp

/-! ## Runs of the poller and the worker -/

variable [PythonInt]

structure IngestState where
  poll : PollState
  store : EvidenceStore

/-- A finding is in the queue or has a snapshot. -/
def IngestState.Keeps (s : IngestState) (record : Json) : Prop :=
  s.poll.Queued record ∨ s.store.HasSnapshot record

/-- The first job can be lost without losing its finding. -/
def IngestState.Spares (s : IngestState) (job : Job) : Prop :=
  job.source = "defectdojo" → s.store.HasSnapshot job.payload ∨
    ∃ other ∈ s.poll.queue.tail, other.source = "defectdojo" ∧ other.payload = job.payload

/-- A run of the poller and the worker, with the fetches whose cursors have been saved. After a pop the
    job is handled, or a failing database or storage or the death of the process ends that with the
    rows as they were. A job whose handling does not succeed satisfies `lost`. -/
inductive IngestRun (good : Upstream → Prop) (lost : IngestState → Job → Prop) :
    List Checkpoint → IngestState → Prop
  | start (store : EvidenceStore) : IngestRun good lost [] ⟨⟨fun _ => none, []⟩, store⟩
  | polled {log : List Checkpoint} {s : IngestState} {entry : Option Checkpoint} {poll : PollState}
      (run : IngestRun good lost log s) (next : PollStep good s.poll entry poll) :
      IngestRun good lost (log ++ entry.toList) { s with poll := poll }
  | handled {log : List Checkpoint} {s : IngestState} {job : Job} {rest : List Job}
      (run : IngestRun good lost log s) (env : CallEnv) (hqueue : s.poll.queue = job :: rest)
      (hlost : (processJob env job s.store).1.isProcessed = false → lost s job) :
      IngestRun good lost log ⟨{ s.poll with queue := rest }, (processJob env job s.store).2⟩
  | interrupted {log : List Checkpoint} {s : IngestState} {job : Job} {rest : List Job}
      (run : IngestRun good lost log s) (files : Files) (hqueue : s.poll.queue = job :: rest)
      (hlost : lost s job) :
      IngestRun good lost log ⟨{ s.poll with queue := rest }, { s.store with files := files }⟩

/-! ### The poller does not read the queue -/

/-- The state with some jobs that have been popped back in front. -/
def PollState.withPopped (popped : List Job) (s : PollState) : PollState :=
  { s with queue := popped ++ s.queue }

omit [PythonDigits] [Driver] [Sha256] [PythonInt] in
theorem pollSource_withPopped (popped : List Job) (env : PollEnv) (source : String)
    (fetched : Except PyError (List Json × Option String)) (enqueued : EnqueueOutcome)
    (s : PollState) : (pollSource env source fetched enqueued (s.withPopped popped)).2
      = (pollSource env source fetched enqueued s).2.withPopped popped := by
  have hcheckpoint : ∀ (t : PollState) (freshness : String) (cursor error : Option String),
      (t.withPopped popped).checkpoint env source freshness cursor error
        = (t.checkpoint env source freshness cursor error).withPopped popped :=
    fun _ _ _ _ => rfl
  have hpushed : ∀ jobs : List Job,
      (if enqueued.pushed then
          { s.withPopped popped with queue := (s.withPopped popped).queue ++ jobs }
        else s.withPopped popped)
      = (if enqueued.pushed then { s with queue := s.queue ++ jobs } else s).withPopped popped := by
    intro jobs
    split_ifs
    · simp [PollState.withPopped]
    · rfl
  unfold pollSource
  cases fetched with
  | error e => exact hcheckpoint s _ _ _
  | ok fetched =>
      obtain ⟨records, next⟩ := fetched
      cases hjobs : records.mapM fun record => jobOf source record env.organizationId with
      | error e => simp only [hjobs]
      | ok jobs =>
          simp only [hjobs, hpushed]
          cases enqueued with
          | returned => exact hcheckpoint _ _ _ _
          | raised pushed e => exact hcheckpoint _ _ _ _

omit [PythonDigits] [Driver] [Sha256] in
theorem PollStep.withPopped {good : Upstream → Prop} {s s' : PollState} {entry : Option Checkpoint}
    (h : PollStep good s entry s') (popped : List Job) :
    PollStep good (s.withPopped popped) entry (s'.withPopped popped) := by
  cases h with
  | saved env hgood hanswers hfetch =>
      rw [← pollSource_withPopped]
      exact .saved env hgood hanswers hfetch
  | fetchFailed env e enqueued =>
      rw [← pollSource_withPopped]
      exact .fetchFailed env e enqueued
  | enqueueFailed env hgood hanswers hfetch pushed e =>
      rw [← pollSource_withPopped]
      exact .enqueueFailed (s := s.withPopped popped) env hgood hanswers hfetch pushed e
  | @died u client fuel records next env hgood hanswers hfetch jobs hjobs =>
      have hqueue : (({ s with queue := s.queue ++ jobs } : PollState).withPopped popped)
          = { s.withPopped popped with queue := (s.withPopped popped).queue ++ jobs } := by
        simp [PollState.withPopped]
      rw [hqueue]
      exact .died (s := s.withPopped popped) env hgood hanswers hfetch hjobs
  | other env hother fetched enqueued =>
      rw [← pollSource_withPopped]
      exact .other env hother fetched enqueued

/-! ### What holds in every run -/

section Kept

variable {good : Upstream → Prop} {log : List Checkpoint} {s : IngestState}

omit [PythonInt] [PythonDigits] [Driver] in
/-- What a pop leaves of the findings that are kept. -/
theorem IngestState.Keeps.of_pop {job : Job} {rest : List Job} {record : Json}
    (h : s.Keeps record) (hqueue : s.poll.queue = job :: rest) {t : EvidenceStore}
    (hrows : s.store.snapshots.rows <+: t.snapshots.rows)
    (hjob : job.source = "defectdojo" →
      IngestState.Keeps ⟨{ s.poll with queue := rest }, t⟩ job.payload) :
    IngestState.Keeps ⟨{ s.poll with queue := rest }, t⟩ record := by
  rcases h with ⟨other, hother, hsource, rfl⟩ | ⟨row, hrow, hrest⟩
  · rw [hqueue] at hother
    rcases List.mem_cons.1 hother with rfl | hother
    · exact hjob hsource
    · exact Or.inl ⟨other, hother, hsource, rfl⟩
  · exact Or.inr ⟨row, hrows.subset hrow, hrest⟩

omit [PythonInt] [PythonDigits] [Driver] in
/-- A job that is lost leaves its finding if it is spared. -/
theorem IngestState.Spares.keeps {job : Job} {rest : List Job} (h : s.Spares job)
    (hqueue : s.poll.queue = job :: rest) {t : EvidenceStore}
    (hrows : s.store.snapshots.rows <+: t.snapshots.rows) (hsource : job.source = "defectdojo") :
    IngestState.Keeps ⟨{ s.poll with queue := rest }, t⟩ job.payload := by
  rcases h hsource with ⟨row, hrow, hrest⟩ | ⟨other, hother, hrest⟩
  · exact Or.inr ⟨row, hrows.subset hrow, hrest⟩
  · rw [hqueue] at hother
    exact Or.inl ⟨other, hother, hrest⟩

/-- The queue with all that has been popped is that of a run of the poller alone, and the popped
    findings are kept. -/
structure IngestInv (good : Upstream → Prop) (log : List Checkpoint) (s : IngestState)
    (popped : List Job) : Prop where
  polls : Polls good log (s.poll.withPopped popped)
  keeps : ∀ job ∈ popped, job.source = "defectdojo" → s.Keeps job.payload

omit [PythonDigits] [Driver] in
theorem IngestInv.pop {popped rest : List Job} {job : Job} (hinv : IngestInv good log s popped)
    (hqueue : s.poll.queue = job :: rest) {t : EvidenceStore}
    (hrows : s.store.snapshots.rows <+: t.snapshots.rows)
    (hjob : job.source = "defectdojo" →
      IngestState.Keeps ⟨{ s.poll with queue := rest }, t⟩ job.payload) :
    IngestInv good log ⟨{ s.poll with queue := rest }, t⟩ (popped ++ [job]) := by
  refine ⟨?_, fun other hother hsource => ?_⟩
  · have hsame : ({ s.poll with queue := rest } : PollState).withPopped (popped ++ [job])
        = s.poll.withPopped popped := by
      simp [PollState.withPopped, hqueue]
    rw [hsame]
    exact hinv.polls
  · rcases List.mem_append.1 hother with hother | hother
    · exact (hinv.keeps other hother hsource).of_pop hqueue hrows hjob
    · rw [List.mem_singleton.1 hother] at hsource ⊢
      exact hjob hsource

theorem IngestRun.inv (hrun : IngestRun good IngestState.Spares log s) :
    ∃ popped, IngestInv good log s popped := by
  induction hrun with
  | start store => exact ⟨[], Polls.start, by simp⟩
  | @polled log s entry poll run next ih =>
      obtain ⟨popped, hinv⟩ := ih
      refine ⟨popped, hinv.polls.step (next.withPopped popped), fun job hjob hsource => ?_⟩
      exact (hinv.keeps job hjob hsource).imp_left fun hqueued => hqueued.mono next.queue
  | @handled log s job rest run env hqueue hlost ih =>
      obtain ⟨popped, hinv⟩ := ih
      have hrows := processJob_snapshots env job s.store
      refine ⟨_, hinv.pop hqueue hrows fun hsource => ?_⟩
      cases hprocessed : (processJob env job s.store).1.isProcessed with
      | true => exact Or.inr (processJob_hasSnapshot hsource hprocessed)
      | false => exact (hlost hprocessed).keeps hqueue hrows hsource
  | @interrupted log s job rest run files hqueue hlost ih =>
      obtain ⟨popped, hinv⟩ := ih
      exact ⟨_, hinv.pop hqueue List.prefix_rfl fun hsource =>
        hlost.keeps hqueue List.prefix_rfl hsource⟩

omit [PythonDigits] [Driver] in
/-- What the poller has queued is kept. -/
theorem IngestInv.keeps_of_queued {popped : List Job} (hinv : IngestInv good log s popped)
    {record : Json} (h : (s.poll.withPopped popped).Queued record) : s.Keeps record := by
  obtain ⟨job, hjob, hsource, rfl⟩ := h
  rcases List.mem_append.1 hjob with hpopped | hqueue
  · exact hinv.keeps job hpopped hsource
  · exact Or.inl ⟨job, hqueue, hsource, rfl⟩

/-- A list that changes during a fetch without a finding moving over the offset of a page about to be
    requested. -/
def Reliable (u : Upstream) : Prop :=
  Drifts UpstreamFinding.id u.listed ∧ ∀ cursorId m, LastPage (u.served cursorId) m →
    NoneCrosses u cursorId m

/-- A finding that was listed throughout the fetch. -/
def Checkpoint.Listed (c : Checkpoint) (id : ℤ) : Prop :=
  ∃ cursorId m, cursorIdOf c.cursor = .ok cursorId ∧ LastPage (c.upstream.served cursorId) m ∧
    Lasts c.upstream cursorId m id

/-- **No finding is lost between the poller and the worker**, as long as a job whose handling does not
    succeed is spared and no finding changes pages during a fetch. -/
theorem findings_kept (hrun : IngestRun Reliable IngestState.Spares log s) {n id : ℤ}
    (hn : cursorIdOf (s.poll.cursorOf "defectdojo") = .ok (some n)) (hid : id ≤ n) :
    ∃ entry ∈ log, entry.Covers id ∧
      (entry.Listed id → ∃ record, findingId record = .ok id ∧ s.Keeps record) := by
  obtain ⟨popped, hinv⟩ := hrun.inv
  have hpolls := hinv.polls.inv
  obtain ⟨entry, hentry, hcovers⟩ := hpolls.covered n id (hpolls.cursorOf_eq hn) hid
  refine ⟨entry, hentry, hcovers, ?_⟩
  rintro ⟨cursorId, m, hcursor, hlast, hlasts⟩
  obtain ⟨cursorId', m', hfetched⟩ := hpolls.fetched entry hentry
  obtain rfl := Except.ok.inj (hcursor.symm.trans hfetched.cursorId_eq)
  obtain rfl := hlast.unique hfetched.lastPage
  obtain ⟨hdrifts, hnone⟩ := hfetched.good
  obtain ⟨f, hf, rfl⟩ := (mem_pages_iff_of_drifts (served_drifts hdrifts cursorId) hlasts.served
    hlast.short).2 (hnone cursorId m hlast id hlasts)
  refine ⟨f.raw, f.id_eq, hinv.keeps_of_queued (hpolls.queued entry hentry f.raw ?_)⟩
  rw [hfetched.records_eq]
  exact List.mem_map_of_mem (List.mem_filter.2 ⟨hf, hlasts.newer⟩)

end Kept

end Worker

/-! ## A job that is popped and not handled -/

/-- The digest of the first finding. -/
@[reducible]
def jobDigests : Sha256 :=
  knownDigests [("\x7b\"id\":1\x7d",
    "037c9214eef74cc3887f3a4f085b4e17d76280dafd273b0ee160c09c4ba1cfd4")]

/-- The queue and the cursor after a first cycle over three findings. -/
def sampleQueued : PollState :=
  (@pollSource plainPython samplePollEnv "defectdojo" (.ok (sampleFetched sampleThree 1)) .returned
    ⟨fun _ => none, []⟩).2

theorem sampleQueued_ne_nil : sampleQueued.queue ≠ [] :=
  List.isEmpty_eq_false_iff.1 (by decide +kernel)

/-- The oldest job. -/
def sampleJob : Job := sampleQueued.queue.head sampleQueued_ne_nil

theorem sampleQueued_queue : sampleQueued.queue = sampleJob :: sampleQueued.queue.tail :=
  (List.cons_head_tail sampleQueued_ne_nil).symm

theorem sampleThree_reliable : @Reliable asciiDigits sampleThree := by
  refine ⟨⟨fun _ => sampleFindings_sorted 1 3, fun _ f hf => Or.inl ⟨f, hf, rfl⟩⟩,
    fun cursorId m hlast id _ k hk => ?_⟩
  have hfull := @LastPage.full asciiDigits _ _ hlast k hk
  have hlength : (@Upstream.served asciiDigits sampleThree cursorId k).length ≤ 3 :=
    List.length_filter_le _ _
  simp only [pageSize] at hfull
  omega

/-- What the cycle has saved. -/
def sampleCheckpoint : @Checkpoint asciiDigits :=
  @Checkpoint.mk asciiDigits sampleThree none (sampleFetched sampleThree 1).1
    (sampleFetched sampleThree 1).2

/-- The runs of the sample start with the cycle. -/
theorem sampleQueued_run (lost : IngestState → Job → Prop) :
    @IngestRun plainPython asciiDigitTable sqliteDriver jobDigests asciiDigits (@Reliable asciiDigits)
      lost [sampleCheckpoint] ⟨sampleQueued, .empty⟩ := by
  have hfetch : @fetch asciiDigits (sampleClient sampleThree) 1 none
      = some (.ok ((sampleFetched sampleThree 1).1, (sampleFetched sampleThree 1).2)) :=
    sampleFetched_eq (by decide +kernel)
  exact @IngestRun.polled plainPython asciiDigitTable sqliteDriver jobDigests asciiDigits _ _ _ _ _ _
    (@IngestRun.start plainPython asciiDigitTable sqliteDriver jobDigests asciiDigits _ _ .empty)
    (@PollStep.saved plainPython asciiDigits _ _ _ _ 1 _ _ samplePollEnv sampleThree_reliable
      (sampleClient_answers _) hfetch)

/-- The worker dies after it has popped the first job. -/
def sampleDropped : IngestState :=
  ⟨{ sampleQueued with queue := sampleQueued.queue.tail }, .empty⟩

/-- The finding with id 1 is behind the cursor, not in the queue, and has no snapshot. -/
theorem findings_lost :
    @IngestRun plainPython asciiDigitTable sqliteDriver jobDigests asciiDigits (@Reliable asciiDigits)
      (fun _ _ => True) [sampleCheckpoint] sampleDropped ∧
    @cursorIdOf asciiDigits (sampleDropped.poll.cursorOf "defectdojo") = .ok (some 3) ∧
    @Checkpoint.Listed asciiDigits sampleCheckpoint 1 ∧
    ¬ ∃ record, @findingId asciiDigits record = .ok 1 ∧
      @IngestState.Keeps plainPython jobDigests sampleDropped record := by
  refine ⟨@IngestRun.interrupted plainPython asciiDigitTable sqliteDriver jobDigests asciiDigits
    _ _ _ _ _ _ (sampleQueued_run _) (fun _ => none) sampleQueued_queue trivial,
    by decide +kernel, ?_, ?_⟩
  · refine ⟨none, 0, rfl, @LastPage.mk asciiDigits _ _ (by omega) (by decide +kernel),
      @Lasts.mk asciiDigits _ _ _ _ rfl fun k _ => ?_⟩
    exact mem_sampleFindings (i := 1) (by omega)
  · rintro ⟨record, hid, ⟨job, hjob, -, rfl⟩ | ⟨row, hrow, -⟩⟩
    · have hgone : (sampleDropped.poll.queue.all fun job =>
          decide (@findingId asciiDigits job.payload ≠ .ok 1)) = true := by decide +kernel
      exact of_decide_eq_true (List.all_eq_true.1 hgone job hjob) hid
    · cases hrow

/-- The worker handles it. -/
def sampleWorkerDone : IngestState :=
  ⟨{ sampleQueued with queue := sampleQueued.queue.tail },
    (@processJob plainPython asciiDigitTable sqliteDriver jobDigests (sampleEnv 1) sampleJob .empty).2⟩

/-- Then the last finding of the page is kept. -/
theorem findings_kept_handled : ∃ entry ∈ [sampleCheckpoint],
    @Checkpoint.Covers asciiDigits entry 3 ∧ (@Checkpoint.Listed asciiDigits entry 3 →
      ∃ record, @findingId asciiDigits record = .ok 3 ∧
        @IngestState.Keeps plainPython jobDigests sampleWorkerDone record) := by
  have hprocessed : (@processJob plainPython asciiDigitTable sqliteDriver jobDigests (sampleEnv 1)
      sampleJob .empty).1.isProcessed = true := by
    decide +kernel
  have hrun := @IngestRun.handled plainPython asciiDigitTable sqliteDriver jobDigests asciiDigits
    _ _ _ _ _ _ (sampleQueued_run (@IngestState.Spares plainPython jobDigests)) (sampleEnv 1)
    sampleQueued_queue (fun hfailed => absurd (hprocessed.symm.trans hfailed) (by decide))
  exact @findings_kept plainPython asciiDigitTable sqliteDriver jobDigests asciiDigits
    _ _ hrun 3 3 (by decide +kernel) le_rfl

end VulnOpsHub
