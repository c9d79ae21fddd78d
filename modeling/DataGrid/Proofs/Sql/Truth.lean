import DataGrid.Memory
import DataGrid.Proofs.Sql.NormalForm

/-!
# What conditions mean in SQL

A condition on a row of the database is true, false or unknown. Nothing can be told of a cell that is
null or that is not of the kind of the value it is compared with, nor of two values without an order.
Junctions are Kleene's: what is unknown stays so unless another part decides.
-/

namespace DataGrid.Sql

inductive Truth where
  | no
  | unknown
  | yes
deriving DecidableEq, Repr

namespace Truth

def and : Truth → Truth → Truth
  | no, _ => no
  | _, no => no
  | yes, yes => yes
  | _, _ => unknown

def or : Truth → Truth → Truth
  | yes, _ => yes
  | _, yes => yes
  | no, no => no
  | _, _ => unknown

def ofBool : Bool → Truth
  | false => no
  | true => yes

/-- What cannot be told is unknown. -/
def ofOption : Option Bool → Truth
  | none => unknown
  | some b => ofBool b

@[simp] theorem and_eq_yes {a b : Truth} : a.and b = yes ↔ a = yes ∧ b = yes := by
  cases a <;> cases b <;> decide

@[simp] theorem or_eq_yes {a b : Truth} : a.or b = yes ↔ a = yes ∨ b = yes := by
  cases a <;> cases b <;> decide

@[simp] theorem and_yes (a : Truth) : a.and yes = a := by cases a <;> rfl

@[simp] theorem or_no (a : Truth) : a.or no = a := by cases a <;> rfl

@[simp] theorem ofBool_eq_yes {b : Bool} : ofBool b = yes ↔ b = true := by cases b <;> decide

@[simp] theorem ofOption_eq_yes {b : Option Bool} : ofOption b = yes ↔ b = some true := by
  cases b with
  | none => exact iff_of_false nofun nofun
  | some b => simp [ofOption]

end Truth

/-- How a condition refers to a column: by its name in the database, as it is or by its text. -/
structure Reference where
  name : String
  asText : Bool
deriving DecidableEq, Repr

def Column.reference (column : Column) : Reference := ⟨column.name.name, column.asText⟩

namespace Reference

/-- What a value of this kind is compared with. -/
def read? (column : Reference) (kind : ColumnKind) (row : Memory.Row) : Option Value :=
  row.cell? column.name >>= Memory.Cell.value? (if column.asText then .coerced else kind)

def compare (column : Reference) (comparison : Comparison) (value : Value) (row : Memory.Row) : Truth :=
  .ofOption do
    let cell ← column.read? value.kind row
    let order ← cell.compare? value
    return comparison.accepts order

def like (column : Reference) (negated : Bool) (pattern : String) (row : Memory.Row) : Truth :=
  match column.read? .text row with
  | some (.text text) => .ofBool (Like.matchesText pattern text != negated)
  | _ => .unknown

def null (column : Reference) (negated : Bool) (row : Memory.Row) : Truth :=
  .ofBool ((row.cell? column.name).isNone != negated)

end Reference

namespace Expr

mutual

/-- The truth of a condition on a row of the database. -/
def eval (row : Memory.Row) : Condition → Truth
  | always => .yes
  | compare column comparison value => column.reference.compare comparison value row
  | like column pattern negated => column.reference.like negated pattern row
  | null column negated => column.reference.null negated row
  | all parts => evalAll row parts
  | any parts => evalAny row parts

def evalAll (row : Memory.Row) : List Condition → Truth
  | [] => .yes
  | part :: parts => (part.eval row).and (evalAll row parts)

def evalAny (row : Memory.Row) : List Condition → Truth
  | [] => .no
  | part :: parts => (part.eval row).or (evalAny row parts)

end

variable {row : Memory.Row}

@[simp] theorem eval_always : (always : Condition).eval row = .yes := by rw [eval]

theorem evalAll_eq_yes {parts : List Condition} :
    evalAll row parts = .yes ↔ ∀ part ∈ parts, part.eval row = .yes := by
  induction parts with
  | nil => simp [evalAll]
  | cons part parts ih => simp [evalAll, ih]

theorem evalAny_eq_yes {parts : List Condition} :
    evalAny row parts = .yes ↔ ∃ part ∈ parts, part.eval row = .yes := by
  induction parts with
  | nil => simp [evalAny]
  | cons part parts ih => simp [evalAny, ih]

/-- Leaving out parts that are always true does not change when a conjunction is true. -/
theorem eval_conj_eq_yes {parts : List Condition} :
    (conj parts).eval row = .yes ↔ ∀ part ∈ parts, part.eval row = .yes := by
  have hfilter : (∀ part ∈ parts, part.eval row = .yes) ↔
      ∀ part ∈ parts.filter fun part => !part.isAlways, part.eval row = .yes := by
    refine ⟨fun h part hp => h part (List.mem_filter.1 hp).1, fun h part hp => ?_⟩
    by_cases ha : part.isAlways = true
    · rw [eq_always_of_isAlways ha, eval_always]
    · exact h part (List.mem_filter.2 ⟨hp, by simpa using ha⟩)
  rw [hfilter]
  unfold conj
  split
  · next h => simp [h]
  · next part h => simp [h]
  · rw [eval, evalAll_eq_yes]

/-- A part that is always true decides a disjunction. -/
theorem eval_disj_eq_yes {parts : List Condition} :
    (disj parts).eval row = .yes ↔ ∃ part ∈ parts, part.eval row = .yes := by
  unfold disj
  split
  · next h =>
    obtain ⟨part, hp, ha⟩ := List.any_eq_true.1 h
    refine iff_of_true eval_always ⟨part, hp, ?_⟩
    rw [eq_always_of_isAlways ha, eval_always]
  · rw [eval, evalAny_eq_yes]

end Expr

end DataGrid.Sql
