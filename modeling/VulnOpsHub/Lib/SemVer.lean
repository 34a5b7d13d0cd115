import Mathlib.Data.Char
import Mathlib.Data.List.Lex
import Mathlib.Data.Prod.Lex
import Mathlib.Data.Sum.Order
import Mathlib.Order.WithBot

set_option autoImplicit false

/-! # Semantic versions

Versions of SemVer 2.0: their parts, their text and their precedence. Build metadata is part of the
text, and does not count for the precedence. -/

namespace VulnOpsHub

namespace SemVer

/-- ASCII letters, digits and hyphens, at least one. -/
structure Label where
  chars : List Char
  nonempty : chars ≠ []
  legal : ∀ c ∈ chars, c.isAlphanum = true ∨ c = '-'

/-- One of the dot-separated identifiers of a prerelease: a number, written without leading zeros, or
    a label with a character that is no digit. -/
inductive Identifier where
  | number (n : ℕ)
  | word (l : Label) (h : ∃ c ∈ l.chars, c.isDigit = false)

namespace Identifier

def chars : Identifier → List Char
  | .number n => Nat.toDigits 10 n
  | .word l _ => l.chars

/-- Numbers compare as numbers and words as ASCII text; a number comes before a word. -/
def place : Identifier → ℕ ⊕ₗ List Char
  | .number n => Sum.inlₗ n
  | .word l _ => Sum.inrₗ l.chars

end Identifier

end SemVer

/-- `major.minor.patch-prerelease+build`. -/
structure SemVer where
  major : ℕ
  minor : ℕ
  patch : ℕ
  prerelease : List SemVer.Identifier
  build : List SemVer.Label

namespace SemVer

/-- A sign and the parts after it, if there are parts. -/
def marked (sign : Char) (parts : List (List Char)) : List Char :=
  if parts = [] then [] else sign :: ['.'].intercalate parts

/-- The dotted numbers. -/
def release (v : SemVer) : List Char :=
  ['.'].intercalate [Nat.toDigits 10 v.major, Nat.toDigits 10 v.minor, Nat.toDigits 10 v.patch]

/-- The version as a string. -/
def text (v : SemVer) : String :=
  String.ofList (v.release ++ marked '-' (v.prerelease.map Identifier.chars)
    ++ marked '+' (v.build.map Label.chars))

/-- A release version, without prerelease and build metadata. -/
def Plain (v : SemVer) : Prop := v.prerelease = [] ∧ v.build = []

/-- The numbers of a version, the major one first. -/
def core (v : SemVer) : ℕ ×ₗ ℕ ×ₗ ℕ := toLex (v.major, toLex (v.minor, v.patch))

/-- The identifiers of a prerelease; a version that is none comes after its prereleases. -/
def stage (v : SemVer) : WithTop (List (ℕ ⊕ₗ List Char)) :=
  if v.prerelease = [] then ⊤ else ((v.prerelease.map Identifier.place : List _) : WithTop _)

/-- Where a version stands. -/
def precedence (v : SemVer) : (ℕ ×ₗ ℕ ×ₗ ℕ) ×ₗ WithTop (List (ℕ ⊕ₗ List Char)) :=
  toLex (v.core, v.stage)

variable {v w : SemVer}

/-- The numbers decide where they differ. -/
theorem precedence_lt_of_core (h : v.core < w.core) : v.precedence < w.precedence :=
  Prod.Lex.toLex_lt_toLex.2 (Or.inl h)

theorem precedence_le_iff_of_core (h : v.core ≠ w.core) :
    v.precedence ≤ w.precedence ↔ v.core < w.core := by
  rcases lt_or_gt_of_ne h with hlt | hgt
  · exact iff_of_true (precedence_lt_of_core hlt).le hlt
  · exact iff_of_false (precedence_lt_of_core hgt).not_ge hgt.asymm

/-- Release versions with the same numbers have the same text. -/
theorem text_eq_of_core (hv : v.Plain) (hw : w.Plain) (h : v.core = w.core) : v.text = w.text := by
  obtain ⟨hmajor, hrest⟩ := Prod.mk.inj (toLex.injective h)
  obtain ⟨hminor, hpatch⟩ := Prod.mk.inj (toLex.injective hrest)
  unfold text release
  rw [hv.1, hv.2, hw.1, hw.2, hmajor, hminor, hpatch]

/-- Every version has a dot in its text. -/
theorem dot_mem_text (v : SemVer) : '.' ∈ v.text.toList := by
  simp [text, release, List.intercalate, List.intersperse]

theorem text_ne_empty (v : SemVer) : v.text ≠ "" := by
  intro h
  have hdot := v.dot_mem_text
  rw [h] at hdot
  simp at hdot

theorem text_ne_zero (v : SemVer) : v.text ≠ "0" := by
  intro h
  have hdot := v.dot_mem_text
  rw [h] at hdot
  simp at hdot

end SemVer

end VulnOpsHub
