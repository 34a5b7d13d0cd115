import VulnOpsHub.Cases.Models

set_option autoImplicit false

/-! # When the database accepts a transaction

The schema refuses a statement only for a key that is taken: the primary keys, and the key shown for a
case. So a transaction goes through exactly when the keys it inserts are new, and no two of them the
same. -/

namespace VulnOpsHub

/-- The unique columns of the workflow tables. -/
inductive KeyColumn where
  | caseId
  | caseKey
  | clock
  | decision
  | verification
  | audit
  | outbox
deriving DecidableEq, Repr

/-- The keys that a statement inserts. -/
def Write.inserts : Write → List (KeyColumn × String)
  | .insertCase c => [(.caseId, c.id), (.caseKey, c.caseKey)]
  | .insertClock c => [(.clock, c.id)]
  | .insertDecision d => [(.decision, d.id)]
  | .insertVerification v => [(.verification, v.id)]
  | .insertAudit a => [(.audit, a.id)]
  | .insertOutbox o => [(.outbox, o.id)]
  | .updateCase _ _ => []
  | .updateDecision _ _ => []

/-- The keys in a column. -/
def Db.keysIn (db : Db) : KeyColumn → List String
  | .caseId => db.cases.rows.map RemediationCase.id
  | .caseKey => db.cases.rows.map RemediationCase.caseKey
  | .clock => db.clocks.rows.map SlaClock.id
  | .decision => db.decisions.rows.map RiskDecision.id
  | .verification => db.verifications.rows.map Verification.id
  | .audit => db.auditEvents.rows.map AuditEvent.id
  | .outbox => db.outboxEvents.rows.map OutboxEvent.id

/-- The key is taken. -/
def Db.Holds (db : Db) (k : KeyColumn × String) : Prop := k.2 ∈ db.keysIn k.1

instance (db : Db) (k : KeyColumn × String) : Decidable (db.Holds k) :=
  inferInstanceAs (Decidable (k.2 ∈ db.keysIn k.1))

theorem Write.inserts_nodup (w : Write) : w.inserts.Nodup := by
  cases w <;> simp [Write.inserts]

/-- An insertion is refused exactly when the key is taken. -/
theorem Table.insert_isSome {ρ : Type} [Keyed ρ String] (t : Table ρ) (r : ρ) :
    (t.insert r).isSome = true ↔ Keyed.key r ∉ t.rows.map Keyed.key := by
  unfold Table.insert
  split_ifs with h
  · simp [h]
  · simp [h]

theorem Write.apply_isSome_iff (w : Write) (db : Db) :
    (w.apply db).isSome = true ↔ ∀ k ∈ w.inserts, ¬ db.Holds k := by
  cases w with
  | insertCase c =>
      have hkey : (db.cases.rows.any fun x => decide (x.caseKey = c.caseKey)) = true ↔
          c.caseKey ∈ db.keysIn .caseKey := by simp [Db.keysIn]
      simp only [Write.apply, Write.inserts, List.mem_cons, List.not_mem_nil, or_false,
        forall_eq_or_imp, forall_eq, Db.Holds]
      split_ifs with h
      · simp [hkey.1 h]
      · rw [Option.isSome_map, Table.insert_isSome, ← hkey]
        exact ⟨fun hid => ⟨hid, h⟩, fun hboth => hboth.1⟩
  | insertClock c =>
      simp only [Write.apply, Write.inserts, Option.isSome_map, List.mem_singleton, forall_eq]
      exact Table.insert_isSome db.clocks c
  | insertDecision d =>
      simp only [Write.apply, Write.inserts, Option.isSome_map, List.mem_singleton, forall_eq]
      exact Table.insert_isSome db.decisions d
  | insertVerification v =>
      simp only [Write.apply, Write.inserts, Option.isSome_map, List.mem_singleton, forall_eq]
      exact Table.insert_isSome db.verifications v
  | insertAudit a =>
      simp only [Write.apply, Write.inserts, Option.isSome_map, List.mem_singleton, forall_eq]
      exact Table.insert_isSome db.auditEvents a
  | insertOutbox o =>
      simp only [Write.apply, Write.inserts, Option.isSome_map, List.mem_singleton, forall_eq]
      exact Table.insert_isSome db.outboxEvents o
  | updateCase id p => simp [Write.apply, Write.inserts]
  | updateDecision id p => simp [Write.apply, Write.inserts]

/-- A statement adds the keys it inserts, and no others. -/
theorem Write.holds_apply {w : Write} {db db' : Db} (h : w.apply db = some db')
    (k : KeyColumn × String) : db'.Holds k ↔ db.Holds k ∨ k ∈ w.inserts := by
  obtain ⟨column, key⟩ := k
  cases w with
  | insertCase c =>
      simp only [Write.apply] at h
      split_ifs at h
      obtain ⟨t, ht, rfl⟩ := Option.map_eq_some_iff.1 h
      cases column <;> simp [Db.Holds, Db.keysIn, Write.inserts, Table.rows_insert ht, or_comm,
        eq_comm]
  | insertClock c =>
      obtain ⟨t, ht, rfl⟩ := Option.map_eq_some_iff.1 h
      cases column <;> simp [Db.Holds, Db.keysIn, Write.inserts, Table.rows_insert ht, eq_comm]
  | insertDecision d =>
      obtain ⟨t, ht, rfl⟩ := Option.map_eq_some_iff.1 h
      cases column <;> simp [Db.Holds, Db.keysIn, Write.inserts, Table.rows_insert ht, eq_comm]
  | insertVerification v =>
      obtain ⟨t, ht, rfl⟩ := Option.map_eq_some_iff.1 h
      cases column <;> simp [Db.Holds, Db.keysIn, Write.inserts, Table.rows_insert ht, eq_comm]
  | insertAudit a =>
      obtain ⟨t, ht, rfl⟩ := Option.map_eq_some_iff.1 h
      cases column <;> simp [Db.Holds, Db.keysIn, Write.inserts, Table.rows_insert ht, eq_comm]
  | insertOutbox o =>
      obtain ⟨t, ht, rfl⟩ := Option.map_eq_some_iff.1 h
      cases column <;> simp [Db.Holds, Db.keysIn, Write.inserts, Table.rows_insert ht, eq_comm]
  | updateCase id p =>
      cases h
      have hid := db.cases.map_update id p.toRow RemediationCase.id fun _ => rfl
      have hkey := db.cases.map_update id p.toRow RemediationCase.caseKey fun _ => rfl
      cases column <;> simp only [Db.Holds, Db.keysIn, Write.inserts, hid, hkey, List.not_mem_nil,
        or_false]
  | updateDecision id p =>
      cases h
      have hid := db.decisions.map_update id p.toRow RiskDecision.id fun _ => rfl
      cases column <;> simp only [Db.Holds, Db.keysIn, Write.inserts, hid, List.not_mem_nil, or_false]

/-- A transaction adds the keys it inserts, and no others. -/
theorem holds_flush {ws : List Write} {db db' : Db} (h : Store.flush ws db = some db')
    (k : KeyColumn × String) : db'.Holds k ↔ db.Holds k ∨ k ∈ ws.flatMap Write.inserts := by
  induction ws generalizing db with
  | nil => cases h; simp
  | cons w ws ih =>
      obtain ⟨db₁, hw, hrest⟩ := Store.flush_cons h
      rw [ih hrest, Write.holds_apply hw, List.flatMap_cons, List.mem_append, or_assoc]

/-- **A transaction goes through** exactly when the keys it inserts are new and distinct. -/
theorem flush_isSome_iff (ws : List Write) (db : Db) : (Store.flush ws db).isSome = true ↔
    (ws.flatMap Write.inserts).Nodup ∧ ∀ k ∈ ws.flatMap Write.inserts, ¬ db.Holds k := by
  induction ws generalizing db with
  | nil => simp [Store.flush]
  | cons w ws ih =>
      rw [List.flatMap_cons, List.nodup_append]
      have hfirst := w.apply_isSome_iff db
      cases hw : w.apply db with
      | none =>
          have hnone : Store.flush (w :: ws) db = none := by
            show (w.apply db).bind _ = none
            rw [hw]
            rfl
          have hnot : ¬ ∀ k ∈ w.inserts, ¬ db.Holds k := by
            rw [← hfirst, hw]
            simp
          rw [hnone]
          refine iff_of_false (by simp) fun h => hnot fun k hk => ?_
          exact h.2 k (List.mem_append_left _ hk)
      | some db' =>
          have hsome : Store.flush (w :: ws) db = Store.flush ws db' := by
            show (w.apply db).bind _ = _
            rw [hw]
            rfl
          have hnew := hfirst.1 (by rw [hw]; rfl)
          have hholds := Write.holds_apply hw
          rw [hsome, ih]
          constructor
          · rintro ⟨hnodup, hrest⟩
            refine ⟨⟨w.inserts_nodup, hnodup, fun k hk k' hk' heq => ?_⟩, fun k hk => ?_⟩
            · exact hrest k' hk' ((hholds k').2 (Or.inr (heq ▸ hk)))
            · rcases List.mem_append.1 hk with hk | hk
              · exact hnew k hk
              · exact fun hold => hrest k hk ((hholds k).2 (Or.inl hold))
          · rintro ⟨⟨-, hnodup, hdisjoint⟩, hall⟩
            refine ⟨hnodup, fun k hk hold => ?_⟩
            rcases (hholds k).1 hold with hold | hin
            · exact hall k (List.mem_append_right _ hk) hold
            · exact hdisjoint k hin k hk rfl

end VulnOpsHub
