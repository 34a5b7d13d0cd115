import VulnOpsHub.Intelligence.Persistence

set_option autoImplicit false

/-! # What an upsert adds

Each step of `upsert_advisory_records` changes rows it finds, under their keys, or adds a row. What
it adds depends on the keys that are stored when it runs, not on the rows added before it. So a whole
batch adds, table by table, the rows of all its records that are not stored. -/

namespace VulnOpsHub

namespace Intel

variable {Content : Type}

/-! ## Flushing -/

namespace IntelWrite

def vulnerability? : IntelWrite Content → Option Vulnerability
  | .insertVulnerability row => some row
  | _ => none

def alias? : IntelWrite Content → Option VulnerabilityAlias
  | .insertAlias row => some row
  | _ => none

def range? : IntelWrite Content → Option AffectedRange
  | .insertRange row => some row
  | _ => none

def assertion? : IntelWrite Content → Option (AdvisoryAssertion Content)
  | .insertAssertion row => some row
  | _ => none

def status? : IntelWrite Content → Option SourceStatus
  | .insertStatus row => some row
  | _ => none

end IntelWrite

/-- A flush inserts the pending rows table by table. -/
theorem foldlM_apply_iff {ws : List (IntelWrite Content)} {db db' : IntelDb Content} :
    ws.foldlM IntelWrite.apply db = some db' ↔
      db.vulnerabilities.insertAll (ws.filterMap IntelWrite.vulnerability?)
        = some db'.vulnerabilities ∧
      db.aliases.insertAll (ws.filterMap IntelWrite.alias?) = some db'.aliases ∧
      db.ranges.insertAll (ws.filterMap IntelWrite.range?) = some db'.ranges ∧
      db.assertions.insertAll (ws.filterMap IntelWrite.assertion?) = some db'.assertions ∧
      db.statuses.insertAll (ws.filterMap IntelWrite.status?) = some db'.statuses := by
  induction ws generalizing db with
  | nil =>
      obtain ⟨v, a, r, s, t⟩ := db
      obtain ⟨v', a', r', s', t'⟩ := db'
      simp [Table.insertAll, UniqueTable.insertAll]
  | cons w ws ih =>
      show (w.apply db).bind (fun u => ws.foldlM IntelWrite.apply u) = some db' ↔ _
      simp only [Option.bind_eq_some_iff, ih]
      cases w <;>
        simp [IntelWrite.apply, IntelWrite.vulnerability?, IntelWrite.alias?, IntelWrite.range?,
          IntelWrite.assertion?, IntelWrite.status?, Table.insertAll, UniqueTable.insertAll,
          Option.bind_eq_some_iff, List.foldlM_cons]
      all_goals
        constructor
        · rintro ⟨t, ht, h⟩
          tauto
        · intro h
          tauto

/-- The rows that the statements insert repeat no key. -/
structure Insertable (db : IntelDb Content) (ws : List (IntelWrite Content)) : Prop where
  vulnerabilities :
    ((db.vulnerabilities.rows ++ ws.filterMap IntelWrite.vulnerability?).map (·.id)).Nodup
  aliases : ((db.aliases.rows ++ ws.filterMap IntelWrite.alias?).map (·.id)).Nodup
  aliasColumns : ((db.aliases.rows ++ ws.filterMap IntelWrite.alias?).map
    fun row => (row.vulnerabilityId, row.aliasName)).Nodup
  ranges : ((db.ranges.rows ++ ws.filterMap IntelWrite.range?).map (·.id)).Nodup
  assertions : ((db.assertions.rows ++ ws.filterMap IntelWrite.assertion?).map (·.id)).Nodup
  statuses : ((db.statuses.rows ++ ws.filterMap IntelWrite.status?).map (·.id)).Nodup
  statusColumns : ((db.statuses.rows ++ ws.filterMap IntelWrite.status?).map
    fun row => (row.source, row.scope)).Nodup

/-- The rows after the statements. -/
structure Inserted (db : IntelDb Content) (ws : List (IntelWrite Content))
    (db' : IntelDb Content) : Prop where
  vulnerabilities :
    db'.vulnerabilities.rows = db.vulnerabilities.rows ++ ws.filterMap IntelWrite.vulnerability?
  aliases : db'.aliases.rows = db.aliases.rows ++ ws.filterMap IntelWrite.alias?
  ranges : db'.ranges.rows = db.ranges.rows ++ ws.filterMap IntelWrite.range?
  assertions : db'.assertions.rows = db.assertions.rows ++ ws.filterMap IntelWrite.assertion?
  statuses : db'.statuses.rows = db.statuses.rows ++ ws.filterMap IntelWrite.status?

/-- **What a flush accepts, and what it leaves.** -/
theorem foldlM_apply_eq_some {ws : List (IntelWrite Content)} {db db' : IntelDb Content} :
    ws.foldlM IntelWrite.apply db = some db' ↔ Insertable db ws ∧ Inserted db ws db' := by
  rw [foldlM_apply_iff, Table.insertAll_eq_some, UniqueTable.insertAll_eq_some,
    Table.insertAll_eq_some, Table.insertAll_eq_some, UniqueTable.insertAll_eq_some]
  constructor
  · rintro ⟨⟨hv, hv'⟩, ⟨ha, hac, ha'⟩, ⟨hr, hr'⟩, ⟨hs, hs'⟩, ht, htc, ht'⟩
    exact ⟨⟨hv, ha, hac, hr, hs, ht, htc⟩, hv', ha', hr', hs', ht'⟩
  · rintro ⟨⟨hv, ha, hac, hr, hs, ht, htc⟩, hv', ha', hr', hs', ht'⟩
    exact ⟨⟨hv, hv'⟩, ⟨ha, hac, ha'⟩, ⟨hr, hr'⟩, ⟨hs, hs'⟩, ht, htc, ht'⟩

theorem exists_inserted {ws : List (IntelWrite Content)} {db : IntelDb Content}
    (h : Insertable db ws) : ∃ db', Inserted db ws db' :=
  ⟨⟨⟨_, h.vulnerabilities⟩, ⟨⟨_, h.aliases⟩, h.aliasColumns⟩, ⟨_, h.ranges⟩, ⟨_, h.assertions⟩,
    ⟨⟨_, h.statuses⟩, h.statusColumns⟩⟩, rfl, rfl, rfl, rfl, rfl⟩

/-! ## Steps -/

/-- The columns that an assertion is found by. -/
def AdvisoryAssertion.columns (row : AdvisoryAssertion Content) : String × String × String :=
  (row.id, row.vulnerabilityId, row.source)

/-- The keys that the second loop looks rows up by. -/
structure SameChildren (db db' : IntelDb Content) : Prop where
  aliases : db'.aliases = db.aliases
  ranges : db'.ranges = db.ranges
  assertions : db'.assertions.rows.map (·.columns) = db.assertions.rows.map (·.columns)

/-- The same keys in all tables. -/
structure SameKeys (db db' : IntelDb Content) : Prop extends SameChildren db db' where
  vulnerabilities : db'.vulnerabilities.rows.map (·.id) = db.vulnerabilities.rows.map (·.id)
  statuses : db'.statuses = db.statuses

theorem SameKeys.refl (db : IntelDb Content) : SameKeys db db := ⟨⟨rfl, rfl, rfl⟩, rfl, rfl⟩

theorem SameKeys.trans {a b c : IntelDb Content} (h : SameKeys a b) (h' : SameKeys b c) :
    SameKeys a c :=
  ⟨⟨h'.aliases.trans h.aliases, h'.ranges.trans h.ranges, h'.assertions.trans h.assertions⟩,
    h'.vulnerabilities.trans h.vulnerabilities, h'.statuses.trans h.statuses⟩

/-- The session goes from `s` to `t`: it adds `ws` and changes rows under their keys. -/
structure Adds (s t : IntelSession Content) (ws : List (IntelWrite Content)) : Prop where
  committed : t.committed = s.committed
  keys : SameKeys s.flushed t.flushed
  pending : t.pending = s.pending ++ ws

theorem Adds.refl (s : IntelSession Content) : Adds s s [] :=
  ⟨rfl, .refl _, (List.append_nil _).symm⟩

theorem Adds.trans {s t u : IntelSession Content} {ws vs : List (IntelWrite Content)}
    (h : Adds s t ws) (h' : Adds t u vs) : Adds s u (ws ++ vs) :=
  ⟨h'.committed.trans h.committed, h.keys.trans h'.keys, by
    rw [h'.pending, h.pending, List.append_assoc]⟩

/-- **A loop adds what its rounds add**, each as if it were the first. -/
theorem adds_foldl {α : Type} {step : IntelSession Content → α → IntelSession Content}
    {new : IntelDb Content → α → List (IntelWrite Content)}
    (hstep : ∀ s a, Adds s (step s a) (new s.flushed a))
    (hnew : ∀ db db' a, SameKeys db db' → new db' a = new db a) (xs : List α)
    (s : IntelSession Content) : Adds s (xs.foldl step s) (xs.flatMap (new s.flushed)) := by
  induction xs generalizing s with
  | nil => exact .refl s
  | cons x xs ih =>
      have hrest := ih (step s x)
      have hsame : xs.flatMap (new (step s x).flushed) = xs.flatMap (new s.flushed) :=
        List.flatMap_congr fun a _ => hnew _ _ a (hstep s x).keys
      rw [hsame] at hrest
      exact (hstep s x).trans hrest

/-! ## What the steps add -/

def vulnerabilityStored (db : IntelDb Content) (id : String) : Bool :=
  (db.vulnerabilities.find? id).isSome

theorem vulnerabilityStored_iff {db : IntelDb Content} {id : String} :
    vulnerabilityStored db id = true ↔ id ∈ db.vulnerabilities.rows.map (·.id) := by
  exact Table.isSome_find?

/-- The vulnerability of a record, unless it is stored. -/
def vulnerabilityWrites (now : Datetime) (db : IntelDb Content) (rec : AdvisoryRecord Content) :
    List (IntelWrite Content) :=
  if vulnerabilityStored db rec.vulnerabilityId then []
  else [.insertVulnerability (newVulnerability now rec)]

theorem upsertVulnerability_adds (now : Datetime) (s : IntelSession Content)
    (rec : AdvisoryRecord Content) : Adds s (upsertVulnerability now s rec)
      (vulnerabilityWrites now s.flushed rec) := by
  unfold upsertVulnerability vulnerabilityWrites
  unfold vulnerabilityStored
  by_cases hstored : (s.flushed.vulnerabilities.find? rec.vulnerabilityId).isSome = true
  · rw [if_pos hstored, if_pos hstored]
    refine ⟨rfl, ⟨⟨rfl, rfl, rfl⟩, ?_, rfl⟩, (List.append_nil _).symm⟩
    exact Table.map_update _ _ _ _ fun _ => rfl
  · rw [if_neg hstored, if_neg hstored]
    exact ⟨rfl, .refl _, rfl⟩

/-- The aliases that the loop comes to: those that are not empty, and not seen. -/
theorem mem_distinctAliases {name : String} {names seen : List String} :
    name ∈ distinctAliases seen names ↔ name ∈ names ∧ name ≠ "" ∧ name ∉ seen := by
  induction names generalizing seen with
  | nil => simp [distinctAliases]
  | cons first rest ih =>
      rw [distinctAliases]
      by_cases hname : name = first
      · subst hname
        by_cases hkept : name ≠ "" ∧ name ∉ seen
        · simp [hkept]
        · rw [if_neg hkept, ih]
          tauto
      · split <;> simp [ih, hname]

theorem nodup_distinctAliases (seen names : List String) :
    (distinctAliases seen names).Nodup := by
  induction names generalizing seen with
  | nil => exact List.nodup_nil
  | cons first rest ih =>
      rw [distinctAliases]
      split
      · refine List.nodup_cons.2 ⟨fun hmem => ?_, ih _⟩
        exact (mem_distinctAliases.1 hmem).2.2 List.mem_cons_self
      · exact ih _

def aliasWrites (db : IntelDb Content) (row : VulnerabilityAlias) : List (IntelWrite Content) :=
  if aliasStored db row then [] else [.insertAlias row]

/-- The vulnerability and the alias that the rows are for. -/
def aliasColumns (db : IntelDb Content) : List (String × String) :=
  db.aliases.rows.map fun row => (row.vulnerabilityId, row.aliasName)

/-- An alias is found by its id or by its columns. -/
theorem aliasStored_iff {db : IntelDb Content} {row : VulnerabilityAlias} :
    aliasStored db row = true ↔ row.id ∈ db.aliases.rows.map (·.id) ∨
      (row.vulnerabilityId, row.aliasName) ∈ aliasColumns db := by
  unfold aliasStored
  rw [Bool.or_eq_true]
  exact or_congr Table.isSome_find? UniqueTable.isSome_byNatural

theorem rangeStored_iff {db : IntelDb Content} {row : AffectedRange} :
    rangeStored db row = true ↔ row.id ∈ db.ranges.rows.map (·.id) := by
  exact Table.isSome_find?

def rangeWrites (db : IntelDb Content) (row : AffectedRange) : List (IntelWrite Content) :=
  if rangeStored db row then [] else [.insertRange row]

theorem aliasWrites_congr {db db' : IntelDb Content} (h : db'.aliases = db.aliases)
    (row : VulnerabilityAlias) : aliasWrites db' row = aliasWrites db row := by
  unfold aliasWrites aliasStored
  rw [h]

theorem rangeWrites_congr {db db' : IntelDb Content} (h : db'.ranges = db.ranges)
    (row : AffectedRange) : rangeWrites db' row = rangeWrites db row := by
  unfold rangeWrites rangeStored
  rw [h]

theorem upsertAlias_adds (s : IntelSession Content) (row : VulnerabilityAlias) :
    Adds s (upsertAlias s row) (aliasWrites s.flushed row) := by
  unfold upsertAlias aliasWrites
  split
  · exact .refl s
  · exact ⟨rfl, .refl _, rfl⟩

theorem upsertAffectedRange_adds (s : IntelSession Content) (row : AffectedRange) :
    Adds s (upsertAffectedRange s row) (rangeWrites s.flushed row) := by
  unfold upsertAffectedRange rangeWrites
  split
  · exact .refl s
  · exact ⟨rfl, .refl _, rfl⟩

section Children

variable [Sha256]

def assertionStored (db : IntelDb Content) (rec : AdvisoryRecord Content) : Bool :=
  (assertionFound db rec).isSome

def assertionWrites (db : IntelDb Content) (rec : AdvisoryRecord Content) :
    List (IntelWrite Content) :=
  if assertionStored db rec then [] else [.insertAssertion (newAssertion rec)]

/-- An assertion is found by its id or by its columns. -/
theorem assertionStored_iff {db : IntelDb Content} {rec : AdvisoryRecord Content} :
    assertionStored db rec = true ↔
      ∃ key ∈ db.assertions.rows.map (·.columns),
        key.1 = (newAssertion rec).id ∨ key.2 = (rec.vulnerabilityId, rec.source) := by
  unfold assertionStored assertionFound
  rw [Option.isSome_or, Bool.or_eq_true]
  constructor
  · rintro (h | h)
    · obtain ⟨row, hrow⟩ := Option.isSome_iff_exists.1 h
      exact ⟨_, List.mem_map_of_mem (Table.mem_of_find? hrow), Or.inl (Table.key_of_find? hrow)⟩
    · obtain ⟨row, hrow⟩ := Option.isSome_iff_exists.1 h
      have hcolumns := List.find?_some hrow
      simp only [decide_eq_true_eq] at hcolumns
      exact ⟨_, List.mem_map_of_mem (List.mem_of_find?_eq_some hrow),
        Or.inr (Prod.ext hcolumns.1 hcolumns.2)⟩
  · rintro ⟨key, hkey, hfound⟩
    obtain ⟨row, hrow, rfl⟩ := List.mem_map.1 hkey
    rcases hfound with hid | hcolumns
    · refine Or.inl (Option.isSome_iff_exists.2 ⟨row, Table.find?_eq_some.2 ⟨hrow, hid⟩⟩)
    · refine Or.inr (List.find?_isSome.2 ⟨row, hrow, ?_⟩)
      simp only [decide_eq_true_eq]
      exact Prod.mk.inj hcolumns

theorem assertionStored_congr {db db' : IntelDb Content} (h : SameChildren db db')
    (rec : AdvisoryRecord Content) : assertionStored db' rec = assertionStored db rec := by
  rw [Bool.eq_iff_iff, assertionStored_iff, assertionStored_iff, h.assertions]

/-- What a round of the second loop adds. -/
def childWrites (db : IntelDb Content) (rec : AdvisoryRecord Content) : List (IntelWrite Content) :=
  ((distinctAliases [rec.vulnerabilityId] rec.aliases).map (aliasRow rec)).flatMap (aliasWrites db)
    ++ (rec.affectedRanges.map (rangeRow rec)).flatMap (rangeWrites db) ++ assertionWrites db rec

theorem assertionWrites_congr {db db' : IntelDb Content} (h : SameChildren db db')
    (rec : AdvisoryRecord Content) : assertionWrites db' rec = assertionWrites db rec := by
  unfold assertionWrites
  rw [assertionStored_congr h]

theorem upsertAdvisoryAssertion_adds (s : IntelSession Content) (rec : AdvisoryRecord Content) :
    Adds s (upsertAdvisoryAssertion s rec) (assertionWrites s.flushed rec) := by
  unfold upsertAdvisoryAssertion assertionWrites assertionStored
  cases assertionFound s.flushed rec with
  | none => exact ⟨rfl, .refl _, rfl⟩
  | some row =>
      refine ⟨rfl, ⟨⟨rfl, rfl, ?_⟩, rfl, rfl⟩, (List.append_nil _).symm⟩
      exact Table.map_update _ _ _ _ fun _ => rfl

/-- **A round of the second loop.** -/
theorem upsertChildren_adds (s : IntelSession Content) (rec : AdvisoryRecord Content) :
    Adds s (upsertChildren s rec) (childWrites s.flushed rec) := by
  have haliases := adds_foldl upsertAlias_adds
    (fun _ _ row h => aliasWrites_congr h.aliases row)
    ((distinctAliases [rec.vulnerabilityId] rec.aliases).map (aliasRow rec)) s
  have hranges := adds_foldl upsertAffectedRange_adds
    (fun _ _ row h => rangeWrites_congr h.ranges row) (rec.affectedRanges.map (rangeRow rec))
    (((distinctAliases [rec.vulnerabilityId] rec.aliases).map (aliasRow rec)).foldl upsertAlias s)
  rw [List.flatMap_congr fun row _ => rangeWrites_congr haliases.keys.ranges row] at hranges
  have hassertion := upsertAdvisoryAssertion_adds
    ((rec.affectedRanges.map (rangeRow rec)).foldl upsertAffectedRange
      (((distinctAliases [rec.vulnerabilityId] rec.aliases).map (aliasRow rec)).foldl upsertAlias s))
    rec
  rw [assertionWrites_congr (haliases.keys.trans hranges.keys).toSameChildren] at hassertion
  exact (haliases.trans hranges).trans hassertion

/-- What a round adds depends on the children that are stored only. -/
theorem childWrites_congr {db db' : IntelDb Content} (h : SameChildren db db')
    (rec : AdvisoryRecord Content) : childWrites db' rec = childWrites db rec := by
  unfold childWrites
  rw [assertionWrites_congr h, List.flatMap_congr fun row _ => aliasWrites_congr h.aliases row,
    List.flatMap_congr fun row _ => rangeWrites_congr h.ranges row]

omit [Sha256] in
theorem vulnerabilityWrites_congr {db db' : IntelDb Content} (now : Datetime)
    (h : SameKeys db db') (rec : AdvisoryRecord Content) :
    vulnerabilityWrites now db' rec = vulnerabilityWrites now db rec := by
  have hstored : vulnerabilityStored db' rec.vulnerabilityId
      = vulnerabilityStored db rec.vulnerabilityId := by
    rw [Bool.eq_iff_iff, vulnerabilityStored_iff, vulnerabilityStored_iff, h.vulnerabilities]
  unfold vulnerabilityWrites
  rw [hstored]

omit [Sha256] in
/-- The first loop. -/
theorem parents_adds (now : Datetime) (records : List (AdvisoryRecord Content))
    (s : IntelSession Content) : Adds s (records.foldl (upsertVulnerability now) s)
      (records.flatMap (vulnerabilityWrites now s.flushed)) :=
  adds_foldl (upsertVulnerability_adds now)
    (fun _ _ rec h => vulnerabilityWrites_congr now h rec) records s

/-- The second loop. -/
theorem children_adds (records : List (AdvisoryRecord Content)) (s : IntelSession Content) :
    Adds s (records.foldl upsertChildren s) (records.flatMap (childWrites s.flushed)) :=
  adds_foldl upsertChildren_adds (fun _ _ rec h => childWrites_congr h.toSameChildren rec) records s

/-! ## A whole batch -/

/-- The ids of the records whose vulnerability is not stored. -/
def newVulnerabilityIds (db : IntelDb Content) (records : List (AdvisoryRecord Content)) :
    List String :=
  ((validRecords records).map (·.vulnerabilityId)).filter fun id => !vulnerabilityStored db id

/-- The aliases of the records that are not stored. -/
def newAliases (db : IntelDb Content) (records : List (AdvisoryRecord Content)) :
    List VulnerabilityAlias :=
  (validRecords records).flatMap fun rec =>
    ((distinctAliases [rec.vulnerabilityId] rec.aliases).map (aliasRow rec)).filter fun row =>
      !aliasStored db row

/-- The ranges of the records that are not stored. -/
def newRanges (db : IntelDb Content) (records : List (AdvisoryRecord Content)) :
    List AffectedRange :=
  (validRecords records).flatMap fun rec =>
    (rec.affectedRanges.map (rangeRow rec)).filter fun row => !rangeStored db row

/-- The assertions of the records that are not stored. -/
def newAssertions (db : IntelDb Content) (records : List (AdvisoryRecord Content)) :
    List (AdvisoryAssertion Content) :=
  ((validRecords records).filter fun rec => !assertionStored db rec).map newAssertion

/-- The rows to add have different keys. -/
structure DistinctNew (db : IntelDb Content) (records : List (AdvisoryRecord Content)) : Prop where
  vulnerabilities : (newVulnerabilityIds db records).Nodup
  aliases : ((newAliases db records).map (·.id)).Nodup
  ranges : ((newRanges db records).map (·.id)).Nodup
  assertions : ((newAssertions db records).map (·.id)).Nodup

/-- What a batch leaves, by its keys. -/
structure Added (db : IntelDb Content) (records : List (AdvisoryRecord Content))
    (db' : IntelDb Content) : Prop where
  vulnerabilities : db'.vulnerabilities.rows.map (·.id)
    = db.vulnerabilities.rows.map (·.id) ++ newVulnerabilityIds db records
  aliases : db'.aliases.rows = db.aliases.rows ++ newAliases db records
  ranges : db'.ranges.rows = db.ranges.rows ++ newRanges db records
  assertions : db'.assertions.rows.map (·.columns)
    = db.assertions.rows.map (·.columns) ++ (newAssertions db records).map (·.columns)
  statuses : db'.statuses = db.statuses

section Writes

variable {db : IntelDb Content} {now : Datetime}

omit [Sha256] in
/-- A loop that adds a row or nothing in each round. -/
theorem filterMap_flatMap_ite {α β : Type} {p : α → Bool} {w : α → IntelWrite Content}
    {get : IntelWrite Content → Option β} (xs : List α) :
    (xs.flatMap fun a => if p a then [] else [w a]).filterMap get
      = (xs.filter fun a => !p a).filterMap fun a => get (w a) := by
  induction xs with
  | nil => rfl
  | cons a xs ih => cases hp : p a <;> simp [List.flatMap_cons, hp, ih, List.filterMap_cons]

omit [Sha256] in
theorem vulnerabilityWrites_filterMap {β : Type} {get : IntelWrite Content → Option β}
    (records : List (AdvisoryRecord Content)) :
    (records.flatMap (vulnerabilityWrites now db)).filterMap get
      = (records.filter fun rec => !vulnerabilityStored db rec.vulnerabilityId).filterMap fun rec =>
          get (.insertVulnerability (newVulnerability now rec)) :=
  filterMap_flatMap_ite records

theorem childWrites_filterMap {β : Type} {get : IntelWrite Content → Option β}
    (rec : AdvisoryRecord Content) :
    (childWrites db rec).filterMap get =
      (((distinctAliases [rec.vulnerabilityId] rec.aliases).map (aliasRow rec)).filter fun row =>
          !aliasStored db row).filterMap (fun row => get (.insertAlias row))
      ++ ((rec.affectedRanges.map (rangeRow rec)).filter fun row =>
          !rangeStored db row).filterMap (fun row => get (.insertRange row))
      ++ (if assertionStored db rec then []
          else [IntelWrite.insertAssertion (newAssertion rec)]).filterMap get := by
  unfold childWrites
  rw [List.filterMap_append, List.filterMap_append]
  exact congrArg₂ _ (congrArg₂ _ (filterMap_flatMap_ite _) (filterMap_flatMap_ite _)) rfl

omit [Sha256] in
/-- The parents to add, table by table. -/
theorem parentWrites_filterMap (records : List (AdvisoryRecord Content)) :
    let ws := records.flatMap (vulnerabilityWrites now db)
    ws.filterMap IntelWrite.vulnerability? =
        (records.filter fun rec => !vulnerabilityStored db rec.vulnerabilityId).map
          (newVulnerability now) ∧
      ws.filterMap IntelWrite.alias? = [] ∧ ws.filterMap IntelWrite.range? = [] ∧
      ws.filterMap IntelWrite.assertion? = [] ∧ ws.filterMap IntelWrite.status? = [] := by
  simp only [vulnerabilityWrites_filterMap]
  simp [IntelWrite.vulnerability?, IntelWrite.alias?, IntelWrite.range?, IntelWrite.assertion?,
    IntelWrite.status?, List.filterMap_eq_map']

/-- The children to add, table by table. -/
theorem batchWrites_filterMap (records : List (AdvisoryRecord Content)) :
    let ws := (validRecords records).flatMap (childWrites db)
    ws.filterMap IntelWrite.vulnerability? = [] ∧
      ws.filterMap IntelWrite.alias? = newAliases db records ∧
      ws.filterMap IntelWrite.range? = newRanges db records ∧
      ws.filterMap IntelWrite.assertion? = newAssertions db records ∧
      ws.filterMap IntelWrite.status? = [] := by
  refine ⟨?_, ?_, ?_, ?_, ?_⟩
  · rw [List.filterMap_flatMap, List.flatMap_eq_nil_iff]
    intro rec _
    rw [childWrites_filterMap]
    by_cases hstored : assertionStored db rec <;> simp [IntelWrite.vulnerability?, hstored]
  · rw [List.filterMap_flatMap]
    refine List.flatMap_congr fun rec _ => ?_
    rw [childWrites_filterMap]
    by_cases hstored : assertionStored db rec <;> simp [IntelWrite.alias?, hstored]
  · rw [List.filterMap_flatMap]
    refine List.flatMap_congr fun rec _ => ?_
    rw [childWrites_filterMap]
    by_cases hstored : assertionStored db rec <;> simp [IntelWrite.range?, hstored]
  · have hround : ∀ rec, (childWrites db rec).filterMap IntelWrite.assertion?
        = (if assertionStored db rec then []
            else [IntelWrite.insertAssertion (newAssertion rec)]).filterMap
              IntelWrite.assertion? := by
      intro rec
      rw [childWrites_filterMap]
      simp [IntelWrite.assertion?]
    rw [List.filterMap_flatMap, List.flatMap_congr fun rec _ => hround rec,
      ← List.filterMap_flatMap, filterMap_flatMap_ite]
    simp [IntelWrite.assertion?, newAssertions, List.filterMap_eq_map']
  · rw [List.filterMap_flatMap, List.flatMap_eq_nil_iff]
    intro rec _
    rw [childWrites_filterMap]
    by_cases hstored : assertionStored db rec <;> simp [IntelWrite.status?, hstored]

end Writes

section Accepted

variable {db db₁ : IntelDb Content} {now : Datetime} {records : List (AdvisoryRecord Content)}

theorem mem_newAliases {row : VulnerabilityAlias} (h : row ∈ newAliases db records) :
    aliasStored db row = false ∧
      row.id = stableId "valias" [row.vulnerabilityId, row.aliasName] := by
  obtain ⟨rec, -, hrow⟩ := List.mem_flatMap.1 h
  obtain ⟨hrow, hstored⟩ := List.mem_filter.1 hrow
  obtain ⟨name, -, rfl⟩ := List.mem_map.1 hrow
  exact ⟨by simpa using hstored, rfl⟩

theorem mem_newRanges {row : AffectedRange} (h : row ∈ newRanges db records) :
    rangeStored db row = false := by
  obtain ⟨rec, -, hrow⟩ := List.mem_flatMap.1 h
  simpa using (List.mem_filter.1 hrow).2

omit [Sha256] in
/-- The parents are accepted when no missing one occurs twice. -/
theorem insertable_parents (h : SameKeys db db₁) :
    Insertable db₁ ((validRecords records).flatMap (vulnerabilityWrites now db)) ↔
      (newVulnerabilityIds db records).Nodup := by
  obtain ⟨hv, ha, hr, hs, ht⟩ := @parentWrites_filterMap _ db now
    (validRecords records)
  have hids : (((validRecords records).filter fun rec =>
      !vulnerabilityStored db rec.vulnerabilityId).map (newVulnerability now)).map (·.id)
        = newVulnerabilityIds db records := by
    unfold newVulnerabilityIds
    rw [List.map_map, List.filter_map]
    rfl
  have hfresh : ∀ row ∈ ((validRecords records).filter fun rec =>
      !vulnerabilityStored db rec.vulnerabilityId).map (newVulnerability now),
        row.id ∉ db₁.vulnerabilities.rows.map (·.id) := by
    intro row hrow
    obtain ⟨rec, hrec, rfl⟩ := List.mem_map.1 hrow
    have hmissing := (List.mem_filter.1 hrec).2
    rw [h.vulnerabilities, ← vulnerabilityStored_iff]
    exact fun hstored => by simp [newVulnerability] at hstored; simp [hstored] at hmissing
  rw [← hids, ← nodup_map_append (f := fun row : Vulnerability => row.id)
    db₁.vulnerabilities.nodup hfresh]
  constructor
  · intro hinsert
    rw [← hv]
    exact hinsert.vulnerabilities
  · intro hnodup
    refine ⟨by rwa [hv], ?_, ?_, ?_, ?_, ?_, ?_⟩
    · rw [ha, List.append_nil]
      exact db₁.aliases.nodup
    · rw [ha, List.append_nil]
      exact db₁.aliases.natural_nodup
    · rw [hr, List.append_nil]
      exact db₁.ranges.nodup
    · rw [hs, List.append_nil]
      exact db₁.assertions.nodup
    · rw [ht, List.append_nil]
      exact db₁.statuses.nodup
    · rw [ht, List.append_nil]
      exact db₁.statuses.natural_nodup

/-- The children are accepted when no missing id occurs twice. -/
theorem insertable_children (h : SameChildren db db₁) :
    Insertable db₁ ((validRecords records).flatMap (childWrites db)) ↔
      ((newAliases db records).map (·.id)).Nodup ∧ ((newRanges db records).map (·.id)).Nodup ∧
        ((newAssertions db records).map (·.id)).Nodup := by
  obtain ⟨hv, ha, hr, hs, ht⟩ := @batchWrites_filterMap _ _ db records
  have haliases : ∀ row ∈ newAliases db records, row.id ∉ db₁.aliases.rows.map (·.id) ∧
      (row.vulnerabilityId, row.aliasName) ∉ db₁.aliases.rows.map
        fun row => (row.vulnerabilityId, row.aliasName) := by
    intro row hrow
    rw [h.aliases]
    refine not_or.1 fun hfound => ?_
    have hmissing := (mem_newAliases hrow).1
    rw [aliasStored_iff.2 hfound] at hmissing
    exact Bool.noConfusion hmissing
  have hranges : ∀ row ∈ newRanges db records, row.id ∉ db₁.ranges.rows.map (·.id) := by
    intro row hrow
    rw [h.ranges, ← rangeStored_iff, mem_newRanges hrow]
    simp
  have hassertions : ∀ row ∈ newAssertions db records,
      row.id ∉ db₁.assertions.rows.map (·.id) := by
    intro row hrow hmem
    obtain ⟨rec, hrec, rfl⟩ := List.mem_map.1 hrow
    have hmissing := (List.mem_filter.1 hrec).2
    have hids : db₁.assertions.rows.map (·.id) = (db.assertions.rows.map (·.columns)).map (·.1) := by
      rw [← h.assertions, List.map_map]
      rfl
    rw [hids] at hmem
    obtain ⟨key, hkey, heq⟩ := List.mem_map.1 hmem
    simp [assertionStored_iff.2 ⟨key, hkey, Or.inl heq⟩] at hmissing
  -- the columns of new aliases differ, as their ids are made of them
  have hcolumns : ((newAliases db records).map (·.id)).Nodup →
      ((newAliases db records).map fun row => (row.vulnerabilityId, row.aliasName)).Nodup := by
    intro hids
    have hof : (newAliases db records).map (·.id) = ((newAliases db records).map fun row =>
        (row.vulnerabilityId, row.aliasName)).map fun key => stableId "valias" [key.1, key.2] := by
      rw [List.map_map]
      exact List.map_congr_left fun row hrow => (mem_newAliases hrow).2
    rw [hof] at hids
    exact hids.of_map _
  rw [← nodup_map_append (f := fun row : VulnerabilityAlias => row.id) db₁.aliases.nodup
      fun row hrow => (haliases row hrow).1,
    ← nodup_map_append (f := fun row : AffectedRange => row.id) db₁.ranges.nodup hranges,
    ← nodup_map_append (f := fun row : AdvisoryAssertion Content => row.id) db₁.assertions.nodup
      hassertions]
  constructor
  · intro hinsert
    rw [← ha, ← hr, ← hs]
    exact ⟨hinsert.aliases, hinsert.ranges, hinsert.assertions⟩
  · rintro ⟨haliasIds, hrangeIds, hassertionIds⟩
    refine ⟨?_, by rwa [ha], ?_, by rwa [hr], by rwa [hs], ?_, ?_⟩
    · rw [hv, List.append_nil]
      exact db₁.vulnerabilities.nodup
    · rw [ha, nodup_map_append (f := fun row : VulnerabilityAlias =>
        (row.vulnerabilityId, row.aliasName)) db₁.aliases.natural_nodup
          fun row hrow => (haliases row hrow).2]
      rw [List.map_append] at haliasIds
      exact hcolumns haliasIds.of_append_right
    · rw [ht, List.append_nil]
      exact db₁.statuses.nodup
    · rw [ht, List.append_nil]
      exact db₁.statuses.natural_nodup

omit [Sha256] in
/-- What the flushed parents leave. -/
theorem inserted_parents {db₂ : IntelDb Content} (h : SameKeys db db₁)
    (hinsert : Inserted db₁ ((validRecords records).flatMap (vulnerabilityWrites now db)) db₂) :
    SameChildren db db₂ ∧ db₂.vulnerabilities.rows.map (·.id)
      = db.vulnerabilities.rows.map (·.id) ++ newVulnerabilityIds db records ∧
        db₂.statuses = db.statuses := by
  obtain ⟨hv, ha, hr, hs, ht⟩ := @parentWrites_filterMap _ db now
    (validRecords records)
  obtain ⟨hvrows, harows, hrrows, hsrows, htrows⟩ := hinsert
  rw [hv] at hvrows
  rw [ha, List.append_nil] at harows
  rw [hr, List.append_nil] at hrrows
  rw [hs, List.append_nil] at hsrows
  rw [ht, List.append_nil] at htrows
  refine ⟨⟨(UniqueTable.ext harows).trans h.aliases, (Table.ext hrrows).trans h.ranges, ?_⟩, ?_,
    (UniqueTable.ext htrows).trans h.statuses⟩
  · rw [hsrows, h.assertions]
  · rw [hvrows, List.map_append, h.vulnerabilities]
    unfold newVulnerabilityIds
    rw [List.map_map, List.filter_map]
    rfl

/-- The session after an upsert: parents flushed, children pending. -/
structure ParentsFlushed (db : IntelDb Content) (records : List (AdvisoryRecord Content))
    (s : IntelSession Content) : Prop where
  committed : s.committed = db
  children : SameChildren db s.flushed
  vulnerabilities : s.flushed.vulnerabilities.rows.map (·.id)
    = db.vulnerabilities.rows.map (·.id) ++ newVulnerabilityIds db records
  statuses : s.flushed.statuses = db.statuses
  pending : s.pending = (validRecords records).flatMap (childWrites db)

/-- Without valid records there is nothing to flush, so the flush may as well be made. -/
theorem upsertAdvisoryRecords_start (now : Datetime) (records : List (AdvisoryRecord Content))
    (db : IntelDb Content) : upsertAdvisoryRecords now records (.start db) =
      (((validRecords records).foldl (upsertVulnerability now) (.start db)).flush
        IntelWrite.apply).map fun s =>
          ((validRecords records).foldl upsertChildren s, (validRecords records).length) := by
  unfold upsertAdvisoryRecords
  by_cases hvalid : validRecords records = []
  · simp only [hvalid, List.foldl_nil]
    rw [Unflushed.flush_of_pending rfl]
    rfl
  · simp only [if_neg hvalid]

theorem upsertAdvisoryRecords_flushed {s : IntelSession Content} {n : ℕ}
    (h : upsertAdvisoryRecords now records (.start db) = some (s, n)) :
    (newVulnerabilityIds db records).Nodup ∧ ParentsFlushed db records s := by
  rw [upsertAdvisoryRecords_start, Option.map_eq_some_iff] at h
  obtain ⟨s₂, hflush, hs⟩ := h
  obtain ⟨rfl, -⟩ := Prod.mk.inj hs
  have hparents : Adds (.start db) _ ((validRecords records).flatMap (vulnerabilityWrites now db)) :=
    parents_adds now (validRecords records) (.start db)
  obtain ⟨db₂, hfold, rfl⟩ := Unflushed.flush_eq_some.1 hflush
  rw [hparents.pending] at hfold
  obtain ⟨hinsertable, hinserted⟩ := foldlM_apply_eq_some.1 hfold
  obtain ⟨hsame, hids, hstatuses⟩ := inserted_parents hparents.keys hinserted
  have hchildren := children_adds (validRecords records) ⟨Unflushed.committed
    ((validRecords records).foldl (upsertVulnerability now) (.start db)), db₂, []⟩
  refine ⟨(insertable_parents hparents.keys).1 hinsertable, ?_, ?_, ?_, ?_, ?_⟩
  · exact hchildren.committed.trans hparents.committed
  · have hkeys := hchildren.keys
    exact ⟨hkeys.aliases.trans hsame.aliases, hkeys.ranges.trans hsame.ranges,
      hkeys.assertions.trans hsame.assertions⟩
  · exact hchildren.keys.vulnerabilities.trans hids
  · exact hchildren.keys.statuses.trans hstatuses
  · rw [hchildren.pending]
    exact List.flatMap_congr fun rec _ => childWrites_congr hsame rec

theorem exists_upsertAdvisoryRecords (now : Datetime) (h : (newVulnerabilityIds db records).Nodup) :
    ∃ s, upsertAdvisoryRecords now records (.start db)
      = some (s, (validRecords records).length) := by
  have hparents : Adds (.start db) _ ((validRecords records).flatMap (vulnerabilityWrites now db)) :=
    parents_adds now (validRecords records) (.start db)
  have hinsertable := (@insertable_parents _ db _ now _ hparents.keys).2 h
  obtain ⟨db₂, hinserted⟩ := exists_inserted hinsertable
  have hflush := Unflushed.flush_eq_some.2 ⟨db₂, by
    rw [hparents.pending]
    exact foldlM_apply_eq_some.2 ⟨hinsertable, hinserted⟩, rfl⟩
  rw [upsertAdvisoryRecords_start, hflush]
  exact ⟨_, rfl⟩

/-- **What a committed upsert leaves.** -/
theorem upsertAndCommit_added {db' : IntelDb Content}
    (h : upsertAndCommit now records db = some db') :
    DistinctNew db records ∧ Added db records db' := by
  unfold upsertAndCommit at h
  simp only [Option.bind_eq_bind, Option.bind_eq_some_iff, Option.pure_def, Option.some_inj] at h
  obtain ⟨⟨s, n⟩, hupsert, s', hcommit, rfl⟩ := h
  obtain ⟨hnodup, hflushed⟩ := upsertAdvisoryRecords_flushed hupsert
  obtain ⟨db', hfold, rfl⟩ := Unflushed.commit_eq_some.1 hcommit
  rw [hflushed.pending] at hfold
  obtain ⟨hinsertable, hinserted⟩ := foldlM_apply_eq_some.1 hfold
  obtain ⟨haliases, hranges, hassertions⟩ := (insertable_children hflushed.children).1 hinsertable
  obtain ⟨hv, ha, hr, hs, ht⟩ := @batchWrites_filterMap _ _ db records
  refine ⟨⟨hnodup, haliases, hranges, hassertions⟩, ?_, ?_, ?_, ?_, ?_⟩
  · rw [hinserted.vulnerabilities, hv, List.append_nil, hflushed.vulnerabilities]
  · rw [hinserted.aliases, ha, hflushed.children.aliases]
  · rw [hinserted.ranges, hr, hflushed.children.ranges]
  · rw [hinserted.assertions, hs, List.map_append, hflushed.children.assertions]
  · refine (UniqueTable.ext ?_).trans hflushed.statuses
    rw [hinserted.statuses, ht, List.append_nil]

/-- **When an upsert is accepted**: no row that is missing occurs twice in the batch. -/
theorem exists_upsertAndCommit (now : Datetime) (h : DistinctNew db records) :
    ∃ db', upsertAndCommit now records db = some db' := by
  obtain ⟨s, hupsert⟩ := exists_upsertAdvisoryRecords now h.vulnerabilities
  obtain ⟨-, hflushed⟩ := upsertAdvisoryRecords_flushed hupsert
  have hinsertable := (insertable_children hflushed.children).2 ⟨h.aliases, h.ranges, h.assertions⟩
  obtain ⟨db', hinserted⟩ := exists_inserted hinsertable
  have hcommit := Unflushed.commit_eq_some.2 ⟨db', by
    rw [hflushed.pending]
    exact foldlM_apply_eq_some.2 ⟨hinsertable, hinserted⟩, rfl⟩
  refine ⟨db', ?_⟩
  unfold upsertAndCommit
  rw [hupsert]
  simp [hcommit]

end Accepted

end Children

end Intel

end VulnOpsHub
