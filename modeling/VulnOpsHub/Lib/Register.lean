import VulnOpsHub.Lib.Python

set_option autoImplicit false

/-! # Registers

A register files requests under their keys. The first request under a key is made into an entry, or
refused; later ones find that entry. What is filed under one key does not depend on requests under
other keys, so a group of keys has a register of its own. -/

namespace VulnOpsHub

/-- How requests are filed. -/
structure Register (γ κ ρ ε : Type) where
  key : γ → κ
  make : γ → Except ε ρ

/-- The answer to a request that is not refused. -/
structure Filed (ρ : Type) where
  new : Bool
  entry : ρ
deriving DecidableEq, Repr

namespace Register

variable {γ κ ρ ε : Type} [BEq κ]

def submit (R : Register γ κ ρ ε) (c : γ) (w : List (κ × ρ)) :
    Except ε (Filed ρ) × List (κ × ρ) :=
  match w.lookup (R.key c) with
  | some entry => (.ok ⟨false, entry⟩, w)
  | none =>
      match R.make c with
      | .error e => (.error e, w)
      | .ok entry => (.ok ⟨true, entry⟩, w ++ [(R.key c, entry)])

/-- The answers to some requests, and what is filed in the end. -/
def run (R : Register γ κ ρ ε) : List γ → List (κ × ρ) →
    List (γ × Except ε (Filed ρ)) × List (κ × ρ)
  | [], w => ([], w)
  | c :: cs, w =>
      let filed := R.submit c w
      let rest := R.run cs filed.2
      ((c, filed.1) :: rest.1, rest.2)

/-- The keys of the requests that were not refused. -/
def keysOf (R : Register γ κ ρ ε) (log : List (γ × Except ε (Filed ρ))) : List κ :=
  (log.filter fun x => x.2.toBool).map fun x => R.key x.1

variable {R : Register γ κ ρ ε} {c : γ} {w : List (κ × ρ)} {k : κ} {entry : ρ}

/-! ## One request -/

theorem submit_of_some (h : w.lookup (R.key c) = some entry) :
    R.submit c w = (.ok ⟨false, entry⟩, w) := by
  simp only [submit, h]

theorem submit_of_error {e : ε} (h : w.lookup (R.key c) = none) (hmake : R.make c = .error e) :
    R.submit c w = (.error e, w) := by
  simp only [submit, h, hmake]

theorem submit_of_ok (h : w.lookup (R.key c) = none) (hmake : R.make c = .ok entry) :
    R.submit c w = (.ok ⟨true, entry⟩, w ++ [(R.key c, entry)]) := by
  simp only [submit, h, hmake]

/-- What is filed stays. -/
theorem lookup_submit (h : w.lookup k = some entry) : (R.submit c w).2.lookup k = some entry := by
  unfold submit
  split
  · exact h
  · split
    · exact h
    · simp [List.lookup_append, h]

theorem make_of_submit {filed : Filed ρ} (h : (R.submit c w).1 = .ok filed)
    (hnew : filed.new = true) : R.make c = .ok filed.entry := by
  unfold submit at h
  split at h
  · cases h
    cases hnew
  · split at h
    · cases h
    · next hmake =>
        cases h
        exact hmake

variable [LawfulBEq κ]

/-- The answer is what is filed from then on. -/
theorem lookup_of_submit {filed : Filed ρ} (h : (R.submit c w).1 = .ok filed) :
    (R.submit c w).2.lookup (R.key c) = some filed.entry := by
  unfold submit at h ⊢
  split at h
  · next hfound =>
      cases h
      simp only [hfound]
  · next hnone =>
      split at h
      · cases h
      · cases h
        simp [hnone, List.lookup_append]

theorem mem_of_lookup (h : w.lookup k = some entry) : (k, entry) ∈ w := by
  obtain ⟨w₁, w₂, rfl, -⟩ := List.lookup_eq_some_iff.1 h
  exact List.mem_append_right _ List.mem_cons_self

theorem mem_keys_submit : k ∈ (R.submit c w).2.map Prod.fst ↔
    k ∈ w.map Prod.fst ∨ (R.submit c w).1.toBool = true ∧ k = R.key c := by
  unfold submit
  split
  · next entry hfound =>
      constructor
      · exact Or.inl
      · rintro (h | ⟨-, rfl⟩)
        · exact h
        · exact List.mem_map_of_mem (mem_of_lookup hfound)
  · split
    · simp [Except.toBool]
    · simp [Except.toBool]

/-! ## Whole runs -/

omit [LawfulBEq κ] in
theorem lookup_run (cs : List γ) (h : w.lookup k = some entry) :
    (R.run cs w).2.lookup k = some entry := by
  induction cs generalizing w with
  | nil => exact h
  | cons c cs ih => exact ih (lookup_submit h)

theorem lookup_of_mem_run {cs : List γ} {filed : Filed ρ} (h : (c, .ok filed) ∈ (R.run cs w).1) :
    (R.run cs w).2.lookup (R.key c) = some filed.entry := by
  induction cs generalizing w with
  | nil => cases h
  | cons d cs ih =>
      rcases List.mem_cons.1 h with h | h
      · obtain ⟨rfl, hfiled⟩ := Prod.mk.inj h
        exact lookup_run (w := (R.submit c w).2) cs (lookup_of_submit hfiled.symm)
      · exact ih h

omit [LawfulBEq κ] in
/-- A new entry is what its request is made into. -/
theorem make_of_mem_run {cs : List γ} {filed : Filed ρ} (h : (c, .ok filed) ∈ (R.run cs w).1)
    (hnew : filed.new = true) : R.make c = .ok filed.entry := by
  induction cs generalizing w with
  | nil => cases h
  | cons d cs ih =>
      rcases List.mem_cons.1 h with h | h
      · obtain ⟨rfl, hfiled⟩ := Prod.mk.inj h
        exact make_of_submit hfiled.symm hnew
      · exact ih h

/-- **Each key that is not refused is filed.** -/
theorem mem_keys_run {cs : List γ} : k ∈ (R.run cs w).2.map Prod.fst ↔
    k ∈ w.map Prod.fst ∨ k ∈ R.keysOf (R.run cs w).1 := by
  induction cs generalizing w with
  | nil => simp [run, keysOf]
  | cons c cs ih =>
      simp only [run, ih, mem_keys_submit, keysOf]
      by_cases hok : (R.submit c w).1.toBool
      · simp [hok, or_assoc]
      · simp [hok]

/-! ## Groups of keys -/

variable (group : κ → Bool)

omit [BEq κ] [LawfulBEq κ] in
/-- The entries of a group. -/
def entriesOf (w : List (κ × ρ)) : List (κ × ρ) := w.filter fun p => group p.1

theorem lookup_entriesOf (h : group k = true) : (entriesOf group w).lookup k = w.lookup k := by
  induction w with
  | nil => rfl
  | cons p w ih =>
      obtain ⟨key, r⟩ := p
      unfold entriesOf at ih ⊢
      by_cases hp : group key
      · simp only [List.filter_cons, hp, if_true, List.lookup_cons, ih]
      · have hne : (k == key) = false := by
          simpa using fun h' : k = key => hp (h' ▸ h)
        simp [hp, List.lookup_cons, hne, ih]

/-- A request of the group sees the entries of the group alone. -/
theorem submit_entriesOf (h : group (R.key c) = true) :
    R.submit c (entriesOf group w) = ((R.submit c w).1, entriesOf group (R.submit c w).2) := by
  have hlookup := lookup_entriesOf (w := w) group h
  cases hfound : w.lookup (R.key c) with
  | some entry => rw [submit_of_some hfound, submit_of_some (hlookup.trans hfound)]
  | none =>
      cases hmake : R.make c with
      | error e => rw [submit_of_error hfound hmake, submit_of_error (hlookup.trans hfound) hmake]
      | ok entry =>
          rw [submit_of_ok hfound hmake, submit_of_ok (hlookup.trans hfound) hmake]
          simp [entriesOf, h]

omit [LawfulBEq κ] in
/-- Other requests leave them as they are. -/
theorem entriesOf_submit (h : group (R.key c) = false) :
    entriesOf group (R.submit c w).2 = entriesOf group w := by
  unfold submit
  split
  · rfl
  · split
    · rfl
    · simp [entriesOf, h]

/-- **A group is on its own**: its requests get the answers, and leave the entries, that they would
    without the others. -/
theorem run_entriesOf (cs : List γ) :
    R.run (cs.filter fun c => group (R.key c)) (entriesOf group w) =
      ((R.run cs w).1.filter fun x => group (R.key x.1), entriesOf group (R.run cs w).2) := by
  induction cs generalizing w with
  | nil => rfl
  | cons c cs ih =>
      by_cases h : group (R.key c)
      · simp [run, h, submit_entriesOf group h, ih]
      · have hframe := entriesOf_submit (R := R) (w := w) group (Bool.not_eq_true _ ▸ h)
        simp [run, h, ← ih, hframe]

end Register

end VulnOpsHub
