import VulnOpsHub.Lib.UniqueTable

set_option autoImplicit false

/-! # Sessions that flush on demand

The statements of a session without autoflush see what was flushed, together with the session's own
changes to the objects it has loaded, but not the rows that it has only added. A flush executes the
pending statements in their order; the database may refuse one of them. -/

namespace VulnOpsHub

/-- The committed rows, the rows that the statements of the session see, and its pending statements. -/
structure Unflushed (σ ω : Type) where
  committed : σ
  flushed : σ
  pending : List ω

namespace Unflushed

variable {σ ω : Type}

/-- A session that has done nothing yet. -/
def start (db : σ) : Unflushed σ ω := ⟨db, db, []⟩

/-- `session.add`. -/
def add (s : Unflushed σ ω) (w : ω) : Unflushed σ ω := { s with pending := s.pending ++ [w] }

/-- Set attributes of an object that was loaded. -/
def change (s : Unflushed σ ω) (f : σ → σ) : Unflushed σ ω := { s with flushed := f s.flushed }

variable (apply : σ → ω → Option σ)

/-- `session.flush`. -/
def flush (s : Unflushed σ ω) : Option (Unflushed σ ω) :=
  (s.pending.foldlM apply s.flushed).map fun t => { s with flushed := t, pending := [] }

/-- `session.commit`, which flushes first. -/
def commit (s : Unflushed σ ω) : Option (Unflushed σ ω) :=
  (s.flush apply).map fun t => { t with committed := t.flushed }

variable {apply} {s t : Unflushed σ ω} {w : ω}

theorem flush_eq_some : s.flush apply = some t ↔
    ∃ db, s.pending.foldlM apply s.flushed = some db ∧ t = ⟨s.committed, db, []⟩ := by
  unfold flush
  rw [Option.map_eq_some_iff]
  exact exists_congr fun db => and_congr_right fun _ => eq_comm

theorem commit_eq_some : s.commit apply = some t ↔
    ∃ db, s.pending.foldlM apply s.flushed = some db ∧ t = ⟨db, db, []⟩ := by
  unfold commit
  rw [Option.map_eq_some_iff]
  constructor
  · rintro ⟨u, hu, rfl⟩
    obtain ⟨db, hdb, rfl⟩ := flush_eq_some.1 hu
    exact ⟨db, hdb, rfl⟩
  · rintro ⟨db, hdb, rfl⟩
    exact ⟨⟨s.committed, db, []⟩, flush_eq_some.2 ⟨db, hdb, rfl⟩, rfl⟩

/-- A single row that is flushed at once. -/
theorem flush_add_eq_some (hpending : s.pending = []) : (s.add w).flush apply = some t ↔
    ∃ db, apply s.flushed w = some db ∧ t = ⟨s.committed, db, []⟩ := by
  rw [flush_eq_some]
  simp [add, hpending]

/-- With nothing pending a flush does nothing. -/
theorem flush_of_pending (hpending : s.pending = []) : s.flush apply = some s :=
  flush_eq_some.2 ⟨s.flushed, by rw [hpending]; rfl, by rw [← hpending]⟩

/-- With nothing pending a commit keeps what is seen. -/
theorem commit_of_pending (hpending : s.pending = []) :
    s.commit apply = some ⟨s.flushed, s.flushed, []⟩ :=
  commit_eq_some.2 ⟨s.flushed, by rw [hpending]; rfl, rfl⟩

end Unflushed

/-! ## Inserting rows one after the other -/

/-- Rows whose keys are new have to differ among themselves only. -/
theorem nodup_map_append {α β : Type} {f : α → β} {xs ys : List α} (hxs : (xs.map f).Nodup)
    (hfresh : ∀ y ∈ ys, f y ∉ xs.map f) : ((xs ++ ys).map f).Nodup ↔ (ys.map f).Nodup := by
  rw [List.map_append]
  refine ⟨List.Nodup.of_append_right, fun hys => hxs.append hys ?_⟩
  intro key hkey hnew
  obtain ⟨y, hy, rfl⟩ := List.mem_map.1 hnew
  exact hfresh y hy hkey

section InsertAll

variable {ρ κ υ : Type} [Keyed ρ κ] [DecidableEq κ]

theorem Table.insert_eq_some_iff {t u : Table ρ} {r : ρ} :
    t.insert r = some u ↔ Keyed.key r ∉ t.rows.map Keyed.key ∧ u.rows = t.rows ++ [r] := by
  constructor
  · intro h
    exact ⟨Table.find?_eq_none.1 (Table.find?_of_insert h), Table.rows_insert h⟩
  · rintro ⟨hfresh, hrows⟩
    obtain ⟨v, hv⟩ := Table.insert_eq_some (Table.find?_eq_none.2 hfresh)
    rw [hv, Option.some_inj]
    exact Table.ext ((Table.rows_insert hv).trans hrows.symm)

def Table.insertAll (t : Table ρ) (rows : List ρ) : Option (Table ρ) := rows.foldlM Table.insert t

/-- Rows are accepted when all keys, stored and new, are different. -/
theorem Table.insertAll_eq_some {t u : Table ρ} {rows : List ρ} : t.insertAll rows = some u ↔
    ((t.rows ++ rows).map Keyed.key).Nodup ∧ u.rows = t.rows ++ rows := by
  induction rows generalizing t with
  | nil =>
      rw [List.append_nil]
      constructor
      · intro h
        cases h
        exact ⟨u.nodup, rfl⟩
      · rintro ⟨-, hrows⟩
        exact congrArg some (Table.ext hrows.symm)
  | cons r rows ih =>
      show (t.insert r).bind (fun v => v.insertAll rows) = some u ↔ _
      rw [Option.bind_eq_some_iff]
      constructor
      · rintro ⟨v, hv, hu⟩
        obtain ⟨hnodup, hrows⟩ := ih.1 hu
        rw [(Table.insert_eq_some_iff.1 hv).2, List.append_assoc] at hnodup hrows
        exact ⟨hnodup, hrows⟩
      · rintro ⟨hnodup, hrows⟩
        have hfresh : Keyed.key r ∉ t.rows.map Keyed.key := by
          rw [List.map_append, List.map_cons] at hnodup
          intro hmem
          exact (List.disjoint_of_nodup_append hnodup) hmem List.mem_cons_self
        obtain ⟨v, hv⟩ := Table.insert_eq_some (Table.find?_eq_none.2 hfresh)
        refine ⟨v, hv, ih.2 ?_⟩
        rw [Table.rows_insert hv, List.append_assoc]
        exact ⟨hnodup, hrows⟩

variable [NaturalKey ρ υ] [DecidableEq υ]

def UniqueTable.insertAll (t : UniqueTable ρ) (rows : List ρ) : Option (UniqueTable ρ) :=
  rows.foldlM UniqueTable.insert t

theorem UniqueTable.insertAll_eq_some {t u : UniqueTable ρ} {rows : List ρ} :
    t.insertAll rows = some u ↔ ((t.rows ++ rows).map Keyed.key).Nodup ∧
      ((t.rows ++ rows).map NaturalKey.natural).Nodup ∧ u.rows = t.rows ++ rows := by
  induction rows generalizing t with
  | nil =>
      rw [List.append_nil]
      constructor
      · intro h
        cases h
        exact ⟨u.nodup, u.natural_nodup, rfl⟩
      · rintro ⟨-, -, hrows⟩
        exact congrArg some (UniqueTable.ext hrows.symm)
  | cons r rows ih =>
      show (t.insert r).bind (fun v => v.insertAll rows) = some u ↔ _
      rw [Option.bind_eq_some_iff]
      constructor
      · rintro ⟨v, hv, hu⟩
        obtain ⟨hnodup, hnatural, hrows⟩ := ih.1 hu
        rw [(UniqueTable.insert_eq_some.1 hv).2, List.append_assoc] at hnodup hnatural hrows
        exact ⟨hnodup, hnatural, hrows⟩
      · rintro ⟨hnodup, hnatural, hrows⟩
        have hfresh : t.Fresh r := by
          rw [List.map_append, List.map_cons] at hnodup hnatural
          exact ⟨fun hmem => (List.disjoint_of_nodup_append hnodup) hmem List.mem_cons_self,
            fun hmem => (List.disjoint_of_nodup_append hnatural) hmem List.mem_cons_self⟩
        cases hv : t.insert r with
        | none => exact absurd hfresh (UniqueTable.insert_eq_none.1 hv)
        | some v =>
            refine ⟨v, rfl, ih.2 ?_⟩
            rw [(UniqueTable.insert_eq_some.1 hv).2, List.append_assoc]
            exact ⟨hnodup, hnatural, hrows⟩

end InsertAll

end VulnOpsHub
