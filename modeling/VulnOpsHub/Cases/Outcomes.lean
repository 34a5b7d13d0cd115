import VulnOpsHub.Cases.Admission
import VulnOpsHub.Cases.Runs
import VulnOpsHub.Lib.Transactions

set_option autoImplicit false

/-! # How the calls of the case workflow end

A call of an authenticated actor that runs alone returns, raises a `ValueError` and leaves the rows as
they were, or is refused by the database. Other exceptions come from values of another type than the
call expects. A transaction is refused when an identifier that it draws has been taken. -/

namespace VulnOpsHub

open Program

/-! ## Exceptions -/

/-- The computation raises nothing but `ValueError`s. -/
def OnlyValueErrors {α : Type} (x : Except PyError α) : Prop :=
  ∀ e, x = .error e → ∃ message, e = .valueError message

namespace OnlyValueErrors

variable {α β : Type}

theorem ok (a : α) : OnlyValueErrors (.ok a) := by
  rintro e ⟨⟩

theorem error (message : String) :
    OnlyValueErrors (.error (.valueError message) : Except PyError α) := by
  rintro e ⟨⟩
  exact ⟨message, rfl⟩

theorem bind {x : Except PyError α} {f : α → Except PyError β} (hx : OnlyValueErrors x)
    (hf : ∀ a, x = .ok a → OnlyValueErrors (f a)) : OnlyValueErrors (x >>= f) := by
  intro e he
  cases hxe : x with
  | error e' =>
      rw [hxe] at he
      cases he
      exact hx _ hxe
  | ok a =>
      rw [hxe] at he
      exact hf a hxe e he

theorem raiseIf {c : Prop} [Decidable c] (message : String) :
    OnlyValueErrors (raiseIf c (.valueError message)) := by
  unfold VulnOpsHub.raiseIf
  split_ifs
  · exact error message
  · exact ok ()

end OnlyValueErrors

/-- The identifiers that a call can draw for its rows. -/
def CallEnv.drawn (env : CallEnv) : List (KeyColumn × String) :=
  [(.decision, env.rowId "rdec_" 12 3), (.verification, env.rowId "ver_" 12 3),
    (.audit, env.rowId "aud_" 12 1), (.outbox, env.rowId "evt_" 12 2)]

/-- None of them has been taken. -/
def Unused (db : Db) (env : CallEnv) : Prop := ∀ k ∈ env.drawn, ¬ db.Holds k

/-- A transaction with such rows is accepted. -/
theorem Unused.flush {db : Db} {env : CallEnv} (h : Unused db env) {ws : List Write}
    (hdrawn : (ws.flatMap Write.inserts).Sublist env.drawn) : Store.flush ws db ≠ none := by
  have hnodup : env.drawn.Nodup := by simp [CallEnv.drawn]
  have hsome := (flush_isSome_iff ws db).2
    ⟨hnodup.sublist hdrawn, fun k hk => h k (hdrawn.subset hk)⟩
  intro hnone
  rw [hnone] at hsome
  cases hsome

/-- Every case is still there. -/
def KeepsCases (db db' : Db) : Prop := ∀ id, (db.case? id).isSome = true → (db'.case? id).isSome = true

theorem holds_caseId {db : Db} {id : String} :
    db.Holds (.caseId, id) ↔ (db.case? id).isSome = true := by
  rw [← not_iff_not, Bool.not_eq_true, Option.isSome_eq_false_iff, Option.isNone_iff_eq_none]
  exact Table.find?_eq_none.symm

theorem keepsCases_flush {ws : List Write} {db db' : Db} (h : Store.flush ws db = some db') :
    KeepsCases db db' := by
  intro id hid
  rw [← holds_caseId] at hid ⊢
  exact (holds_flush h _).2 (Or.inl hid)

/-- The call returned, or raised a `ValueError` and changed nothing. -/
def Settled {α : Type} (db : Db) (o : Outcome PyError α) (s : Session Db) : Prop :=
  (o.isReturned = true ∧ ∃ db', s = Session.fresh db' ∧ KeepsCases db db') ∨
    ((∃ message, o = .raised (.valueError message)) ∧ s.db = db)

section Settled

variable {α : Type} {db : Db}

theorem settled_raised {message : String} {s : Session Db} (h : s.db = db) :
    Settled db (.raised (.valueError message) : Outcome PyError α) s := Or.inr ⟨⟨message, rfl⟩, h⟩

theorem OnlyValueErrors.settled {β : Type} {x : Except PyError β} {e : PyError} {s : Session Db}
    (hx : OnlyValueErrors x) (he : x = .error e) (h : s.db = db) :
    Settled db (.raised e : Outcome PyError α) s := by
  obtain ⟨message, rfl⟩ := hx e he
  exact settled_raised h

theorem settled_returned {a : α} {db' : Db} (h : KeepsCases db db') :
    Settled db (.returned a) (Session.fresh db') := Or.inl ⟨rfl, db', rfl, h⟩

end Settled

/-! ## `transition` -/

/-- The case can go on to the target. -/
def TransitionArgs.Allowed (a : TransitionArgs) (case : RemediationCase) : Prop :=
  ∃ target ∈ allowedTransitions case.status, target.value = a.target

theorem TransitionArgs.allowed_of_find? {a : TransitionArgs} {case : RemediationCase}
    {target : CaseStatus}
    (h : (allowedTransitions case.status).find? (·.value = a.target) = some target) :
    a.Allowed case :=
  ⟨target, List.mem_of_find?_eq_some h, by simpa using List.find?_some h⟩

theorem TransitionArgs.not_allowed_of_find? {a : TransitionArgs} {case : RemediationCase}
    (h : (allowedTransitions case.status).find? (·.value = a.target) = none) : ¬ a.Allowed case := by
  rintro ⟨target, hmem, htarget⟩
  exact List.find?_eq_none.1 h target hmem (by simpa using htarget)

/-- The message for a target that the case cannot go on to. -/
def transitionRefusal (status : CaseStatus) (target : String) : String :=
  "transition " ++ status.value ++ " -> " ++ target ++ " not allowed"

/-- The message for a version that the case does not have any more. -/
def staleVersion (expected current : ℤ) : String :=
  "conflict: expected version " ++ toString expected ++ " but current is " ++ toString current

/-- How a transition of `case` ends. -/
inductive TransitionEnd (a : TransitionArgs) (env : CallEnv) (db : Db) (case : RemediationCase) :
    Outcome PyError RemediationCase → Session Db → Prop where
  | refused (s : Session Db) (h : ¬ a.Allowed case) (kept : s.db = db) :
      TransitionEnd a env db case
        (.raised (.valueError (transitionRefusal case.status a.target))) s
  | stale (s : Session Db) (v : ℤ) (allowed : a.Allowed case) (expected : a.expectedVersion = some v)
      (h : v ≠ case.version) (kept : s.db = db) :
      TransitionEnd a env db case (.raised (.valueError (staleVersion v case.version))) s
  | done (next : RemediationCase) (db' : Db) (allowed : a.Allowed case)
      (current : ∀ v, a.expectedVersion = some v → v = case.version) (cases : KeepsCases db db') :
      TransitionEnd a env db case (.returned next) (Session.fresh db')
  | failed (s : Session Db) (allowed : a.Allowed case)
      (current : ∀ v, a.expectedVersion = some v → v = case.version) (h : ¬ Unused db env) :
      TransitionEnd a env db case .failed s

theorem TransitionEnd.settled {a : TransitionArgs} {env : CallEnv} {db : Db} {case : RemediationCase}
    {o : Outcome PyError RemediationCase} {s : Session Db} (h : TransitionEnd a env db case o s)
    (hunused : Unused db env) : Settled db o s := by
  cases h with
  | refused _ _ kept => exact settled_raised kept
  | stale _ _ _ _ _ kept => exact settled_raised kept
  | done _ _ _ _ cases => exact settled_returned cases
  | failed _ _ _ hused => exact absurd hunused hused

/-- What is left to do when the rows have been committed: the case is read once more. -/
theorem wp_committed {α : Type} {db : Db} {ws : List Write} {k : Prog α} {s : Session Db}
    {Q : Outcome PyError α → Session Db → Prop} (hs : s.db = db)
    (hws : transactionWrites s.executed s.staged = ws)
    (hfailed : Store.flush ws db = none → Q .failed (Session.fresh db))
    (hk : ∀ db', Store.flush ws db = some db' → k.Wp Eq (fun _ _ => True) Q (Session.fresh db')) :
    (commitAll >>= fun _ => k).Wp Eq (fun _ _ => True) Q s := by
  refine wp_commitAll_bind (fun t ht hflush => ?_) fun t t' ht hflush => ⟨trivial, ?_⟩
  · obtain rfl : s.db = t := ht
    rw [hws, hs] at hflush
    rw [hs]
    exact hfailed hflush
  · obtain rfl : s.db = t := ht
    rw [hws, hs] at hflush
    exact hk t' hflush

/-- A row that is there is read. -/
theorem wp_present {α : Type} {g : Db → Option α} {e : PyError} {db : Db}
    {Q : Outcome PyError α → Session Db → Prop} (h : (g db).isSome = true)
    (hQ : ∀ a, Q (.returned a) (Session.fresh db)) :
    (lookup g e).Wp Eq (fun _ _ => True) Q (Session.fresh db) := by
  refine wp_lookup (fun t ht hnone => ?_) fun t a ht _ => ?_
  · obtain rfl : db = t := ht
    rw [show g db = none from hnone] at h
    cases h
  · obtain rfl : db = t := ht
    exact hQ a

/-- The case that a call starts with. -/
theorem wp_getCase {α : Type} {id : String} {case : RemediationCase} {db : Db}
    {f : RemediationCase → Prog α} {Q : Outcome PyError α → Session Db → Prop}
    (hcase : db.case? id = some case)
    (h : (f case).Wp Eq (fun _ _ => True) Q (Session.fresh db)) :
    (getCase id >>= f).Wp Eq (fun _ _ => True) Q (Session.fresh db) := by
  refine wp_lookup_bind (fun t ht hnone => ?_) fun t found ht hsome => ?_
  · obtain rfl : db = t := ht
    rw [show db.case? id = none from hnone] at hcase
    cases hcase
  · obtain rfl : db = t := ht
    obtain rfl : case = found := Option.some.inj (hcase.symm.trans hsome)
    exact h

theorem transition_ends {a : TransitionArgs} {env : CallEnv} {db : Db} {case : RemediationCase}
    (hcase : db.case? a.caseId = some case) (hactor : ValidProvenance a.actor.provenance) :
    (transition a env).Wp Eq (fun _ _ => True) (TransitionEnd a env db case) (Session.fresh db) := by
  have hkept := fun (db' : Db) (ws : List Write) (h : Store.flush ws db = some db') =>
    keepsCases_flush h a.caseId (by rw [hcase]; rfl)
  refine wp_getCase hcase ?_
  split
  · next hnone =>
      exact wp_ret.2 (.refused _ (TransitionArgs.not_allowed_of_find? hnone) rfl)
  · next target hfind =>
      have hallowed := TransitionArgs.allowed_of_find? hfind
      refine wp_ofExcept_bind (fun e he => ?_) fun fields _ => ?_
      · unfold actorAuditFields at he
        rw [if_pos hactor] at he
        cases he
      split
      · next v hv =>
          refine wp_execute_bind (fun t ht hguard => ?_) fun t ht hguard => ?_
          · obtain rfl : db = t := ht
            have hversion : v = case.version := by
              have := hguard
              simp only [transitionUpdate, CondUpdate.onCase, hcase, Option.any_some,
                decide_eq_true_eq] at this
              exact this.symm
            have hcurrent : ∀ w, a.expectedVersion = some w → w = case.version := by
              intro w hw
              rw [hv] at hw
              rw [← Option.some.inj hw, hversion]
            refine wp_add_bind (wp_committed rfl rfl (fun hnone => ?_) fun db' hflush => ?_)
            · refine .failed _ hallowed hcurrent fun hunused => hunused.flush ?_ hnone
              exact ((List.Sublist.refl _).cons _).cons _
            · exact wp_present (hkept _ _ hflush) fun next =>
                .done _ _ hallowed hcurrent (keepsCases_flush hflush)
          · obtain rfl : db = t := ht
            have hversion : v ≠ case.version := by
              have := hguard
              simp only [transitionUpdate, CondUpdate.onCase, hcase, Option.any_some,
                decide_eq_false_iff_not] at this
              exact fun heq => this heq.symm
            refine wp_rollbackAll_bind (wp_getCase hcase ?_)
            exact wp_ret.2 (.stale _ v hallowed hv hversion rfl)
      · next hv =>
          have hcurrent : ∀ w, a.expectedVersion = some w → w = case.version := by
            intro w hw
            rw [hv] at hw
            cases hw
          refine wp_add_bind (wp_committed rfl rfl (fun hnone => ?_) fun db' hflush => ?_)
          · refine .failed _ hallowed hcurrent fun hunused => hunused.flush ?_ hnone
            exact ((List.Sublist.refl _).cons _).cons _
          · exact wp_present (hkept _ _ hflush) fun next =>
              .done _ _ hallowed hcurrent (keepsCases_flush hflush)

section Runtime

variable [Python]

/-! ## `verify` -/

end Runtime

end VulnOpsHub
