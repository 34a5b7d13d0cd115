import VulnOpsHub.Intelligence.Batches
import VulnOpsHub.Workers.Orchestration

set_option autoImplicit false

/-! # Whose advisories

A component of a batch may be unqueryable, its request may fail, its answer may be empty: it keeps
its slot, so that the records with its index are those of its own answer. The handler of a processed
bill of materials counts on that when it looks up the records of its occurrences by their index. -/

namespace VulnOpsHub

open OSVAdapter

section Aligned

variable (reply : ℕ → OsvRequest → OsvReply)

/-- What the adapter makes of the replies. -/
def replied (i : ℕ) (request : OsvRequest) : Except PyError (Option OsvResult) :=
  (reply i request).outcome

/-- A request was sent for the component with that index. -/
def Sent (components : List OsvComponent) (i : ℕ) : Prop :=
  ∃ component request, components[i]? = some component ∧ componentQuery component = some request

/-- The request of the component with that index failed. -/
def RequestFailed (components : List OsvComponent) (i : ℕ) : Prop :=
  ∃ component request e, components[i]? = some component ∧ componentQuery component = some request ∧
    (reply i request).outcome = .error e

/-- The records of a component's own answer. -/
def ownRecords (now : Datetime) (component : OsvComponent × ℕ) : List (AdvisoryRecord OsvAdvisory) :=
  ((answered (replied reply) component.1 component.2).vulns.getD []).map
    (recordOf now "https://api.osv.dev/v1/query" component.2)

/-- The component that the handler asks about for an occurrence. -/
def occurrenceComponent (occurrence : ComponentOccurrence) : OsvComponent :=
  { purl := occurrence.purl, version := occurrence.rawVersion }

/-- What is right about the outcome of a batch: when it raises, which records it returns, what the
    health is afterwards, and what the handler evaluates an occurrence against. -/
structure BatchAligned (now : Datetime) (components : List OsvComponent)
    (out : Except PyError (List (AdvisoryRecord OsvAdvisory)) × SourceHealth) : Prop where
  raises : (∃ e, out.1 = .error e) ↔
    (∃ i, Sent components i) ∧ ∀ i, Sent components i → RequestFailed reply components i
  inOrder : ∀ rs, out.1 = .ok rs → rs = components.zipIdx.flatMap (ownRecords reply now)
  own : ∀ rs, out.1 = .ok rs → ∀ i,
    recordsAt rs i = (components[i]?.map fun component => ownRecords reply now (component, i)).getD []
  fresh : out.2.freshness = .fresh ↔ ∀ i, Sent components i → ¬ RequestFailed reply components i
  evaluated : ∀ rs, out.1 = .ok rs → ∀ ordered, components = ordered.map occurrenceComponent →
    sbomMatches ordered rs = ordered.zipIdx.flatMap fun x =>
      (ownRecords reply now (occurrenceComponent x.1, x.2)).map (x.1, ·)

/-! ## Requests by index -/

variable {reply} {components : List OsvComponent} {now : Datetime}

theorem sent_iff {i : ℕ} :
    Sent components i ↔ ∃ component, (component, i) ∈ components.zipIdx ∧ sends (component, i) := by
  simp only [Sent, sends, List.mk_mem_zipIdx_iff_getElem?, Option.isSome_iff_exists]
  constructor
  · rintro ⟨component, request, hcomponent, hrequest⟩
    exact ⟨component, hcomponent, request, hrequest⟩
  · rintro ⟨component, hcomponent, request, hrequest⟩
    exact ⟨component, request, hcomponent, hrequest⟩

theorem requestFailed_iff {i : ℕ} : RequestFailed reply components i ↔
    ∃ component, (component, i) ∈ components.zipIdx ∧
      (raised (replied reply) (component, i)).isSome := by
  simp only [RequestFailed, List.mk_mem_zipIdx_iff_getElem?]
  constructor
  · rintro ⟨component, request, e, hcomponent, hrequest, he⟩
    refine ⟨component, hcomponent, ?_⟩
    simp [raised, hrequest, replied, he]
  · rintro ⟨component, hcomponent, hfailed⟩
    cases hrequest : componentQuery component with
    | none => simp [raised, hrequest] at hfailed
    | some request =>
        cases he : (reply i request).outcome with
        | ok payload => simp [raised, hrequest, replied, he] at hfailed
        | error e => exact ⟨component, request, e, hcomponent, hrequest, he⟩

/-- Every request that was sent failed, and there was one. -/
theorem all_failed_iff : (∃ i, Sent components i) ∧
      (∀ i, Sent components i → RequestFailed reply components i) ↔
    components.zipIdx.filterMap (raised (replied reply)) ≠ [] ∧
      ∀ x ∈ components.zipIdx, sends x → (raised (replied reply) x).isSome := by
  have hall : (∀ i, Sent components i → RequestFailed reply components i) ↔
      ∀ x ∈ components.zipIdx, sends x → (raised (replied reply) x).isSome := by
    constructor
    · rintro h ⟨component, i⟩ hx hsends
      obtain ⟨component', hx', hfailed⟩ := requestFailed_iff.1 (h i (sent_iff.2 ⟨component, hx, hsends⟩))
      have heq := (List.mk_mem_zipIdx_iff_getElem?.1 hx).symm.trans
        (List.mk_mem_zipIdx_iff_getElem?.1 hx')
      rw [Option.some.inj heq]
      exact hfailed
    · intro h i hsent
      obtain ⟨component, hx, hsends⟩ := sent_iff.1 hsent
      exact requestFailed_iff.2 ⟨component, hx, h _ hx hsends⟩
  rw [hall, and_congr_left_iff]
  intro hfailed
  constructor
  · rintro ⟨i, hsent⟩ hnil
    obtain ⟨component, hx, hsends⟩ := sent_iff.1 hsent
    obtain ⟨e, he⟩ := Option.isSome_iff_exists.1 (hfailed _ hx hsends)
    have hmem := List.mem_filterMap.2 ⟨_, hx, he⟩
    rw [hnil] at hmem
    cases hmem
  · intro hne
    obtain ⟨e, hmem⟩ := List.exists_mem_of_ne_nil _ hne
    obtain ⟨⟨component, i⟩, hx, he⟩ := List.mem_filterMap.1 hmem
    exact ⟨i, sent_iff.2 ⟨component, hx, sends_of_raised (by rw [he]; rfl)⟩⟩

/-- No request failed. -/
theorem none_failed_iff : (∀ i, Sent components i → ¬ RequestFailed reply components i) ↔
    components.zipIdx.filterMap (raised (replied reply)) = [] := by
  constructor
  · intro h
    refine List.eq_nil_iff_forall_not_mem.2 fun e hmem => ?_
    obtain ⟨⟨component, i⟩, hx, he⟩ := List.mem_filterMap.1 hmem
    have hsome : (raised (replied reply) (component, i)).isSome := by rw [he]; rfl
    exact h i (sent_iff.2 ⟨component, hx, sends_of_raised hsome⟩)
      (requestFailed_iff.2 ⟨component, hx, hsome⟩)
  · intro hnil i _ hfailed
    obtain ⟨component, hx, hsome⟩ := requestFailed_iff.1 hfailed
    obtain ⟨e, he⟩ := Option.isSome_iff_exists.1 hsome
    have hmem := List.mem_filterMap.2 ⟨_, hx, he⟩
    rw [hnil] at hmem
    cases hmem

/-! ## Records by index -/

theorem ids_answered (component : OsvComponent) (i : ℕ) :
    ∀ vuln ∈ (answered (replied reply) component i).vulns.getD [], (nonEmpty vuln.id).isSome := by
  unfold answered
  cases componentQuery component with
  | none => simp
  | some request =>
      cases hreply : replied reply i request with
      | error e => simp [hreply]
      | ok payload =>
          have hids := OsvReply.ids hreply
          cases payload with
          | none => simp [hreply]
          | some result => simpa [hreply] using hids

/-- The slots hold the records of the components in their order. -/
theorem records_queryAll (uuid : ℕ → ℕ → String) :
    records now "https://api.osv.dev/v1/query" uuid
        ⟨some (queryAll (replied reply) components).results⟩
      = .ok (components.zipIdx.flatMap (ownRecords reply now)) := by
  have hmap : ∀ (cs : List OsvComponent) (n : ℕ),
      (((cs.zipIdx n).map fun x => answered (replied reply) x.1 x.2).zipIdx n).mapM
          (fun x => batch now "https://api.osv.dev/v1/query" uuid x.2 (some x.1))
        = .ok ((cs.zipIdx n).map (ownRecords reply now)) := by
    intro cs
    induction cs with
    | nil => intro n; rfl
    | cons c cs ih =>
        intro n
        have hown : batch now "https://api.osv.dev/v1/query" uuid n
            (some (answered (replied reply) c n)) = .ok (ownRecords reply now (c, n)) :=
          batch_eq_ok (ids_answered c n)
        rw [List.zipIdx_cons, List.map_cons, List.zipIdx_cons, List.mapM_cons, ih, hown]
        rfl
  rw [results_queryAll]
  show (_ >>= _ : Except PyError _) = _
  have hbatches := hmap components 0
  unfold batch at hbatches
  simp only [Option.bind_some] at hbatches
  rw [hbatches]
  simp only [except_ok_bind, List.flatMap]
  rfl

/-- The call raises because every request failed, or returns the records of all components. -/
theorem lookupBatch_cases (reply : ℕ → OsvRequest → OsvReply) (now : Datetime)
    (uuid : ℕ → ℕ → String) (components : List OsvComponent) :
    (∃ e, lookupBatch (replied reply) now uuid components = .error e ∧
      components.zipIdx.filterMap (raised (replied reply)) ≠ [] ∧
      ∀ x ∈ components.zipIdx, sends x → (raised (replied reply) x).isSome) ∨
    (lookupBatch (replied reply) now uuid components
        = .ok (components.zipIdx.flatMap (ownRecords reply now)) ∧
      ¬ (components.zipIdx.filterMap (raised (replied reply)) ≠ [] ∧
        ∀ x ∈ components.zipIdx, sends x → (raised (replied reply) x).isSome)) := by
  rw [lookupBatch_eq, records_queryAll]
  cases hlast : (components.zipIdx.filterMap (raised (replied reply))).getLast? with
  | none =>
      have hnil := List.getLast?_eq_none_iff.1 hlast
      exact Or.inr ⟨rfl, fun h => h.1 hnil⟩
  | some e =>
      have hne : components.zipIdx.filterMap (raised (replied reply)) ≠ [] := by
        intro hnil
        rw [hnil] at hlast
        cases hlast
      dsimp only
      split_ifs with hall
      · exact Or.inl ⟨e, rfl, hne, hall⟩
      · exact Or.inr ⟨rfl, fun h => hall h.2⟩

/-- The records with an index are those of the component with that index. -/
theorem recordsAt_flatMap (reply : ℕ → OsvRequest → OsvReply) (now : Datetime)
    (components : List OsvComponent) (i : ℕ) :
    recordsAt (components.zipIdx.flatMap (ownRecords reply now)) i =
      (components[i]?.map fun component => ownRecords reply now (component, i)).getD [] := by
  have hbatch := batch_of_records (records_queryAll (fun _ _ => "") : records now _ _
    ⟨some (queryAll (replied reply) components).results⟩ = _) i
  rw [results_queryAll, List.getElem?_map, List.getElem?_zipIdx, Nat.zero_add] at hbatch
  cases hcomponent : components[i]? with
  | none =>
      rw [hcomponent] at hbatch
      exact (Except.ok.inj hbatch).symm
  | some component =>
      rw [hcomponent] at hbatch
      exact Except.ok.inj (hbatch.symm.trans (batch_eq_ok (ids_answered component i)))

/-- The handler looks up the records of an occurrence by its index. -/
theorem sbomMatches_flatMap (ordered : List ComponentOccurrence) :
    sbomMatches ordered
        ((ordered.map occurrenceComponent).zipIdx.flatMap (ownRecords reply now)) =
      ordered.zipIdx.flatMap fun x =>
        (ownRecords reply now (occurrenceComponent x.1, x.2)).map (x.1, ·) := by
  unfold sbomMatches
  refine List.flatMap_congr fun x hx => ?_
  obtain ⟨occurrence, i⟩ := x
  have hoccurrence : ordered[i]? = some occurrence := List.mk_mem_zipIdx_iff_getElem?.1 hx
  have hown := recordsAt_flatMap reply now (ordered.map occurrenceComponent) i
  rw [List.getElem?_map, hoccurrence] at hown
  exact congrArg (List.map (occurrence, ·)) hown

/-- **Each component is answered in its own slot.** -/
theorem lookupBatch_aligned (reply : ℕ → OsvRequest → OsvReply) (now : Datetime)
    (uuid : ℕ → ℕ → String) (errorText : PyError → String) (components : List OsvComponent)
    (health : SourceHealth) :
    BatchAligned reply now components
      (lookupBatchHealth (replied reply) now uuid errorText components health) := by
  have hloop := freshness_loopHealth (replied reply) now errorText components health
  have hcounts := (queryAll_counts (replied reply) components).2.1
  unfold lookupBatchHealth
  rcases lookupBatch_cases reply now uuid components with
    ⟨e, he, hne, hall⟩ | ⟨hrs, hnot⟩
  · rw [he]
    refine ⟨iff_of_true ⟨e, rfl⟩ (all_failed_iff.2 ⟨hne, hall⟩), fun rs h => (by cases h),
      fun rs h => (by cases h), ?_, fun rs h => (by cases h)⟩
    dsimp only
    rw [hloop, if_neg hne, none_failed_iff]
    simp [hne]
  · rw [hrs]
    refine ⟨iff_of_false (fun ⟨e, h⟩ => by cases h) fun h => hnot (all_failed_iff.1 h),
      fun rs h => (Except.ok.inj h).symm, fun rs h i => ?_, ?_, fun rs h ordered hordered => ?_⟩
    · rw [← Except.ok.inj h]
      exact recordsAt_flatMap reply now components i
    · dsimp only
      rw [hcounts, none_failed_iff]
      by_cases hnil : components.zipIdx.filterMap (raised (replied reply)) = []
      · simp [hnil, freshHealth]
      · rw [if_neg (by simpa using hnil), hloop, if_neg hnil]
        simp [hnil]
    · rw [← Except.ok.inj h, hordered]
      exact sbomMatches_flatMap ordered

end Aligned

end VulnOpsHub
