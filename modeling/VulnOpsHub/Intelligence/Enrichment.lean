import VulnOpsHub.Lib.Floats
import VulnOpsHub.Lib.Python

set_option autoImplicit false

/-! # Enrichment sources

What the orchestrator asks of the KEV catalogue, of EPSS and of VEX statements (`intelligence/kev.py`,
`intelligence/epss.py`, `intelligence/vex.py`), from the documents these sources deliver on. -/

namespace VulnOpsHub

/-! ## KEV -/

/-- The adapter with the ids of the catalogue it has fetched, if it has. -/
structure KEVAdapter where
  catalog : Option (List String)
deriving DecidableEq, Repr

/-- `is_kev`: by the catalogue in memory, or else by the persisted assertions. -/
def KEVAdapter.isKev (adapter : KEVAdapter) (persisted : String → Bool) (cveId : String) : Bool :=
  match adapter.catalog with
  | some ids => cveId ∈ ids
  | none => persisted cveId

/-! ## EPSS -/

/-- An entry of an EPSS answer, with what `float` makes of the score and the percentile if it takes
    both; `"nan"` and `"inf"` are among what it takes. -/
structure EpssEntry where
  cve : Option String
  scores : Option (Number × Number)
deriving DecidableEq, Repr

/-- `get_scores(...).get(cve)`: entries without id are skipped, a later entry replaces an earlier
    one, and scores that are no floats count as zero. -/
def EPSSAdapter.score (entries : List EpssEntry) (cve : String) : Option (Number × Number) :=
  ((entries.filter fun entry => nonEmpty entry.cve = some cve).getLast?).map
    fun entry => entry.scores.getD (0, 0)

/-! ## VEX -/

structure VexStatement where
  status : Json

section Vex

variable [Python]

namespace VexClient

/-- `str(statement.get("status") or "").strip().lower()`. -/
def statusText (statement : VexStatement) : String :=
  Python.lower (strip (if statement.status.truthy then pyStr statement.status else ""))

/-- `_STATUS_PRIORITY`. -/
def statusPriority : List String := ["affected", "not_affected"]

/-- `get_status`: the first status of the priority list that some statement has. -/
def getStatus (statements : List VexStatement) : Option String :=
  statusPriority.find? fun status => statements.any fun statement => statusText statement = status

/-- A governing status is one of the two. -/
theorem getStatus_cases (statements : List VexStatement) :
    getStatus statements = none ∨ getStatus statements = some "affected" ∨
      getStatus statements = some "not_affected" := by
  cases h : getStatus statements with
  | none => exact Or.inl rfl
  | some status =>
      have hmem : status ∈ statusPriority := List.mem_of_find?_eq_some h
      simp only [statusPriority, List.mem_cons, List.not_mem_nil, or_false] at hmem
      rcases hmem with rfl | rfl
      · exact Or.inr (Or.inl rfl)
      · exact Or.inr (Or.inr rfl)

end VexClient

end Vex

end VulnOpsHub
