import VulnOpsHub.Api.Refusals

set_option autoImplicit false

/-! # What the workflow routes leave unhandled

A workflow route answers most of what can go wrong with a problem document, and leaves the rows as they
were. It does not catch what reading the body raises. And three kinds of values get past its checks and
end in an exception or a refused statement: a version that the driver does not bind, a risk decision
whose type is no string or whose `If-Match` is no version, and a verification whose method, result or
coverage has the wrong type. -/

namespace VulnOpsHub

open Program

/-! ## Answers -/

/-- The request has been answered with a 2xx status, or with a 4xx status and no change. -/
def Answered (db : Db) (o : Outcome PyError CaseReply) (db' : Db) : Prop :=
  ∃ reply, o = .returned reply ∧
    (reply.accepted = true ∨ ∃ p, reply = .problem p ∧ 400 ≤ p.status ∧ p.status < 500 ∧ db' = db)

/-- A body is refused with status 422. -/
def Refuses {α : Type} (x : Except BodyFault α) : Prop :=
  ∀ fault, x = .error fault → ∃ p, fault = .problem p ∧ p.status = 422

namespace Refuses

variable {α β : Type}

theorem bind {x : Except BodyFault α} {f : α → Except BodyFault β} (hx : Refuses x)
    (hf : ∀ a, x = .ok a → Refuses (f a)) : Refuses (x >>= f) := by
  intro fault h
  cases hxe : x with
  | error e =>
      rw [hxe] at h
      cases h
      exact hx _ hxe
  | ok a =>
      rw [hxe] at h
      exact hf a hxe fault h

theorem validated {code : String} {missing : String → String} {errors : List FieldError}
    {extra : List String} {payload : Except FieldError α}
    (h : errors = [] → ∃ a, payload = .ok a) :
    Refuses (validated (bodyProblem code missing errors extra) payload) := by
  intro fault hfault
  have hproblem : ∀ p, bodyProblem code missing errors extra = some p → p.status = 422 := by
    intro p hp
    unfold bodyProblem at hp
    split_ifs at hp
    · rw [← Option.some.inj hp]
      rfl
    · split at hp
      · cases hp
      · rw [← Option.some.inj hp]
        rfl
  have hnone : bodyProblem code missing errors extra = none → errors = [] := by
    intro hp
    unfold bodyProblem at hp
    split_ifs at hp
    split at hp
    · rfl
    · cases hp
  unfold VulnOpsHub.validated at hfault
  split at hfault
  · next _ p hp =>
      cases hfault
      exact ⟨p, rfl, hproblem p hp⟩
  · cases hfault
  · next e hp =>
      obtain ⟨a, ha⟩ := h (hnone hp)
      cases ha

end Refuses

theorem ok_of_fieldErrors {α : Type} {x : Except FieldError α} (h : fieldErrors x = []) :
    ∃ a, x = .ok a := by
  cases x with
  | ok a => exact ⟨a, rfl⟩
  | error e => cases h

/-- The value compares with a number, or is absent. -/
def Json.comparable : Json → Bool
  | .null => true
  | .bool _ => true
  | .int _ => true
  | .float _ => true
  | _ => false

section Coverage

variable [Python] {method : String} {coverage : Json}

end Coverage

/-! ## Requests -/

section Rules

variable {rely guar : Db → Db → Prop} {Q : Outcome PyError CaseReply → Session Db → Prop}
  {s : Session Db} {db : Db}

end Rules

/-! ## Routes -/

section Routes

variable [Python] [PythonInt] [IsoParser] [Driver] {r : RouteCall} {env : CallEnv} {db : Db}
  {caseId : String} {case : RemediationCase} {data : Json}

omit [PythonInt] [IsoParser] [Driver] in
theorem RouteCall.Reaches.isSome {capability : String} (h : r.Reaches db caseId capability case) :
    (db.case? caseId).isSome = true := by
  rw [h.found]
  rfl

section Body

variable {p : Prog CaseReply} {request : CaseRequest}

end Body

end Routes

/-! ## Samples -/

end VulnOpsHub
