import Mathlib.Data.Set.Basic
import Mathlib.Order.Defs.LinearOrder

set_option autoImplicit false

/-! # Orders patched together from two

Some elements have a key in one linear order, and every element a text in another. Two keys compare
as keys, anything else as text. Such an order is total; it is transitive on a set exactly when no
element without a key stands, as text, between two keys against their order. -/

namespace VulnOpsHub

section Patched

variable {α κ τ : Type} [LinearOrder κ] [LinearOrder τ] (key : α → Option κ) (text : α → τ)

/-- At most, by the keys if there are two, and as text otherwise. -/
def Patched (a b : α) : Prop :=
  match key a, key b with
  | some ka, some kb => ka ≤ kb
  | _, _ => text a ≤ text b

/-- As text `x`, which has no key, stands between `q` and `p`, but `p` comes before `q` by their
    keys, or at the same place though their texts differ. -/
def Crossed (p x q : α) : Prop :=
  ∃ kp kq, key p = some kp ∧ key q = some kq ∧ key x = none ∧ kp ≤ kq ∧
    text q ≤ text x ∧ text x ≤ text p ∧ (kp < kq ∨ text p ≠ text q)

variable {key text} {a b c : α} {S : Set α}

theorem patched_of_keys {ka kb : κ} (ha : key a = some ka) (hb : key b = some kb) :
    Patched key text a b ↔ ka ≤ kb := by
  unfold Patched
  rw [ha, hb]

theorem patched_of_text (h : key a = none ∨ key b = none) :
    Patched key text a b ↔ text a ≤ text b := by
  unfold Patched
  rcases h with h | h
  · rw [h]
  · rw [h]
    cases key a <;> rfl

/-- A crossing breaks transitivity. -/
theorem Crossed.not_trans {p x q : α} (h : Crossed key text p x q) (hp : p ∈ S) (hx : x ∈ S)
    (hq : q ∈ S) : ¬ ∀ a ∈ S, ∀ b ∈ S, ∀ c ∈ S,
      Patched key text a b → Patched key text b c → Patched key text a c := by
  intro htrans
  obtain ⟨kp, kq, hkp, hkq, hkx, hle, hqx, hxp, hstrict⟩ := h
  have hpq : Patched key text p q := (patched_of_keys hkp hkq).2 hle
  have hqx' : Patched key text q x := (patched_of_text (Or.inr hkx)).2 hqx
  have hxp' : Patched key text x p := (patched_of_text (Or.inl hkx)).2 hxp
  -- Round the cycle all three stand at one place.
  have hkeys : kq ≤ kp := (patched_of_keys hkq hkp).1 (htrans q hq x hx p hp hqx' hxp')
  have hpx : text p ≤ text x :=
    (patched_of_text (Or.inr hkx)).1 (htrans p hp q hq x hx hpq hqx')
  have hxq : text x ≤ text q :=
    (patched_of_text (Or.inl hkx)).1 (htrans x hx p hp q hq hxp' hpq)
  rcases hstrict with hlt | hne
  · exact absurd hlt (not_lt.2 hkeys)
  · exact hne (le_antisymm (hpx.trans hxq) (hqx.trans hxp))

/-- Without a crossing the two orders fit together. -/
theorem patched_trans
    (hS : ∀ p ∈ S, ∀ x ∈ S, ∀ q ∈ S, ¬ Crossed key text p x q) (ha : a ∈ S) (hb : b ∈ S)
    (hc : c ∈ S) (hab : Patched key text a b) (hbc : Patched key text b c) :
    Patched key text a c := by
  -- By which of the three have keys; only with exactly two can the orders disagree.
  rcases hka : key a with _ | ka <;> rcases hkb : key b with _ | kb <;>
    rcases hkc : key c with _ | kc
  · rw [patched_of_text (Or.inl hka)] at hab ⊢
    rw [patched_of_text (Or.inl hkb)] at hbc
    exact hab.trans hbc
  · rw [patched_of_text (Or.inl hka)] at hab ⊢
    rw [patched_of_text (Or.inl hkb)] at hbc
    exact hab.trans hbc
  · rw [patched_of_text (Or.inl hka)] at hab ⊢
    rw [patched_of_text (Or.inr hkc)] at hbc
    exact hab.trans hbc
  · rw [patched_of_text (Or.inl hka)] at hab ⊢
    rw [patched_of_keys hkb hkc] at hbc
    by_contra hlt
    have hca : text c < text a := not_le.1 hlt
    exact hS b hb a ha c hc ⟨kb, kc, hkb, hkc, hka, hbc, hca.le, hab,
      Or.inr (hca.trans_le hab).ne'⟩
  · rw [patched_of_text (Or.inr hkb)] at hab
    rw [patched_of_text (Or.inl hkb)] at hbc
    rw [patched_of_text (Or.inr hkc)]
    exact hab.trans hbc
  · rw [patched_of_text (Or.inr hkb)] at hab
    rw [patched_of_text (Or.inl hkb)] at hbc
    rw [patched_of_keys hka hkc]
    by_contra hlt
    have hca : kc < ka := not_le.1 hlt
    exact hS c hc b hb a ha ⟨kc, ka, hkc, hka, hkb, hca.le, hab, hbc, Or.inl hca⟩
  · rw [patched_of_keys hka hkb] at hab
    rw [patched_of_text (Or.inr hkc)] at hbc ⊢
    by_contra hlt
    have hca : text c < text a := not_le.1 hlt
    exact hS a ha c hc b hb ⟨ka, kb, hka, hkb, hkc, hab, hbc, hca.le,
      Or.inr (hbc.trans_lt hca).ne'⟩
  · rw [patched_of_keys hka hkb] at hab
    rw [patched_of_keys hkb hkc] at hbc
    rw [patched_of_keys hka hkc]
    exact hab.trans hbc

/-- Transitive on a set exactly when nothing in it crosses. -/
theorem patched_trans_iff : (∀ a ∈ S, ∀ b ∈ S, ∀ c ∈ S,
      Patched key text a b → Patched key text b c → Patched key text a c) ↔
    ∀ p ∈ S, ∀ x ∈ S, ∀ q ∈ S, ¬ Crossed key text p x q :=
  ⟨fun htrans _ hp _ hx _ hq hcrossed => hcrossed.not_trans hp hx hq htrans,
    fun hS _ ha _ hb _ hc hab hbc => patched_trans hS ha hb hc hab hbc⟩

end Patched

end VulnOpsHub
