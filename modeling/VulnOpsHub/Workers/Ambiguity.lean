import VulnOpsHub.Workers.Effects

set_option autoImplicit false

/-! # Events with an ambiguous asset

The mapping of an event's asset may be ambiguous. `_handle_defectdojo_ingested` skips such events;
the other two handlers do not look. -/

namespace VulnOpsHub

/-! ## What is asked for -/

/-- All exposures and all cases were there before. -/
structure CreatesNothing (h h' : Hub) : Prop where
  exposures : ∀ e ∈ h'.exposures.rows, (h.exposure? e.id).isSome
  cases : ∀ c ∈ h'.cases.rows, (h.case? c.id).isSome

theorem CreatesNothing.refl (h : Hub) : CreatesNothing h h where
  exposures := fun e he => by
    have hfind : h.exposure? e.id = some e := Table.find?_key_of_mem he
    rw [hfind, Option.isSome_some]
  cases := fun c hc => by
    have hfind : h.case? c.id = some c := Table.find?_key_of_mem hc
    rw [hfind, Option.isSome_some]

section Ambiguity

variable [Python] [Packaging]

variable {o : Handling} {event : OutboxEvent} {h : Hub} {fs : List Finding}

end Ambiguity

/-! ## Two events with an ambiguous mapping -/

end VulnOpsHub
