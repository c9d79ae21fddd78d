import DataGrid.Proofs.Filter.Simulation
import DataGrid.Sql

/-!
# Conditions in normal form

A condition that a filter model comes to is always true itself or has no part that is, at any depth.
Then the text of no part is left out or put in by accident: a conjunction has two parts at least, and a
disjunction without parts is false.
-/

namespace DataGrid.Sql

namespace Expr

variable {κ : Type}

theorem eq_always_of_isAlways {e : Expr κ} (h : e.isAlways = true) : e = always := by
  cases e <;> simp_all [isAlways]

/-- No part is always true, and no conjunction has fewer than two parts. -/
inductive Normal : Expr κ → Prop
  | compare (column : κ) (comparison : Comparison) (value : Value) :
    Normal (.compare column comparison value)
  | like (column : κ) (pattern : String) (negated : Bool) : Normal (.like column pattern negated)
  | null (column : κ) (negated : Bool) : Normal (.null column negated)
  | all {parts : List (Expr κ)} (hlength : 2 ≤ parts.length) (h : ∀ part ∈ parts, Normal part) :
    Normal (.all parts)
  | any {parts : List (Expr κ)} (h : ∀ part ∈ parts, Normal part) : Normal (.any parts)

/-- A conjunction keeps no part that is always true, and is itself its only part. -/
theorem normal_conj {parts : List (Expr κ)} (h : ∀ part ∈ parts, part = always ∨ part.Normal) :
    conj parts = always ∨ (conj parts).Normal := by
  have hkept : ∀ part ∈ parts.filter fun part => !part.isAlways, part.Normal := by
    intro part hp
    obtain ⟨hp, ha⟩ := List.mem_filter.1 hp
    rcases h part hp with rfl | hn
    · cases ha
    · exact hn
  unfold conj
  generalize (parts.filter fun part => !part.isAlways) = kept at hkept
  match kept with
  | [] => exact .inl rfl
  | [part] => exact .inr (hkept part (List.mem_singleton_self part))
  | part :: part' :: rest => exact .inr (.all (Nat.le_add_left ..) hkept)

/-- A disjunction that is not always true has no part that is. -/
theorem normal_disj {parts : List (Expr κ)} (h : ∀ part ∈ parts, part = always ∨ part.Normal) :
    disj parts = always ∨ (disj parts).Normal := by
  unfold disj
  split
  · exact .inl rfl
  · next hany =>
    refine .inr (.any fun part hp => (h part hp).resolve_left ?_)
    rintro rfl
    exact hany (List.any_eq_true.2 ⟨_, hp, rfl⟩)

end Expr

/-- The conditions of a table come in normal form, unless they are always true. -/
def Table.normalForm (table : Table) : Backend.Invariant table.backend where
  column _ := True
  predicate condition := condition = .always ∨ condition.Normal
  compare comparison column value _ := .inr (.compare column comparison value)
  like negated column pattern _ := .inr (.like column pattern negated)
  null negated column _ := .inr (.null column negated)
  all := Expr.normal_conj
  any := Expr.normal_disj
  always := .inl rfl

theorem Table.normal_compile (table : Table) (m : Filter.Model)
    (h : (m.compile table.backend).value ≠ .always) : (m.compile table.backend).value.Normal :=
  (m.compile_invariant table.normalForm fun _ _ _ _ _ => trivial).resolve_left h

end DataGrid.Sql
