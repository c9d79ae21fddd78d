import DataGrid.Memory
import DataGrid.Proofs.Json.Numbers
import Mathlib.Order.Defs.LinearOrder

/-!
# The orders of cells and rows

Cells of all types stand in one total preorder, and so do rows by any keys
(`isTotalPreorder_compareRows`). `compareRows` computes the order of rows; `Precedes` and `Tied` say what
it is: the first key that tells two rows apart puts one of them before the other.
-/

namespace DataGrid

theorem JsonNumber.exists_rank? (n : JsonNumber) : ∃ rank, n.toBinary64.rank? = some rank := by
  cases n with
  | real x => exact ⟨x.rank, rfl⟩
  | integer i =>
    rw [toBinary64]
    cases h : Binary64.Finite.ofRatio? (decide (i < 0)) i.natAbs 1 with
    | some x => exact ⟨x.rank, by rw [Binary64.ofRatio_eq_finite h, Binary64.rank?]⟩
    | none => exact ⟨_, by rw [Binary64.ofRatio_eq_infinite h, Binary64.rank?]⟩

namespace Memory

open Std (OrientedCmp TransCmp)

/-! ### Cells -/

namespace Cell

/-- The place of a number among the numbers, and of a truth value among the truth values. -/
def place : Json → Int
  | .number n => n.toBinary64.rank?.getD 0
  | .bool b => if b then 1 else 0
  | _ => 0

/-- The text that cells of one other type are ordered by. -/
def label : Json → String
  | .number _ | .bool _ => ""
  | cell => text cell

theorem compare_number (a b : JsonNumber) : Cell.compare (.number a) (.number b) =
    Ord.compare (place (.number a)) (place (.number b)) := by
  obtain ⟨i, hi⟩ := a.exists_rank?
  obtain ⟨j, hj⟩ := b.exists_rank?
  rw [Cell.compare, Binary64.compare?, place, place, hi, hj]
  rfl

theorem compare_of_typeRank_ne {a b : Json} (h : typeRank a ≠ typeRank b) :
    Cell.compare a b = Ord.compare (typeRank a) (typeRank b) := by
  cases a with
  | null => cases b with | null => exact absurd rfl h | _ => rfl
  | bool => cases b with | bool => exact absurd rfl h | _ => rfl
  | number => cases b with | number => exact absurd rfl h | _ => rfl
  | string => cases b with | string => exact absurd rfl h | _ => rfl
  | array => cases b with | array => exact absurd rfl h | _ => rfl
  | object => cases b with | object => exact absurd rfl h | _ => rfl

theorem compare_of_typeRank_eq {a b : Json} (h : typeRank a = typeRank b) :
    Cell.compare a b = (Ord.compare (place a) (place b)).then (Ord.compare (label a) (label b)) := by
  cases a with
  | null => cases b with | null => rfl | _ => cases h
  | bool a => cases b with | bool b => cases a <;> cases b <;> rfl | _ => cases h
  | number a =>
    cases b with
    | number b =>
      have hlabel : Ord.compare "" "" = .eq := by decide
      rw [compare_number, label, label, hlabel, Ordering.then_eq]
    | _ => cases h
  | string => cases b with | string => rfl | _ => cases h
  | array => cases b with | array => rfl | _ => cases h
  | object => cases b with | object => rfl | _ => cases h

/-- Cells are in the order of their types, places and labels, one after the other. -/
theorem compare_eq_compareLex : Cell.compare =
    compareLex (compareOn typeRank) (compareLex (compareOn place) (compareOn label)) := by
  funext a b
  rw [compareLex, compareLex, compareOn, compareOn, compareOn]
  by_cases h : typeRank a = typeRank b
  · rw [compare_of_typeRank_eq h, Nat.compare_eq_eq.2 h, Ordering.eq_then]
  · rw [compare_of_typeRank_ne h]
    cases hrank : Ord.compare (typeRank a) (typeRank b) with
    | eq => exact absurd (Nat.compare_eq_eq.1 hrank) h
    | lt | gt => rfl

instance : TransCmp Cell.compare := by
  rw [compare_eq_compareLex]
  infer_instance

end Cell

/-- The order of two cells that are not null, or its opposite. -/
def directed (descending : Bool) (x y : Json) : Ordering :=
  if descending then (Cell.compare x y).swap else Cell.compare x y

instance (descending : Bool) : TransCmp (directed descending) := by
  cases descending with
  | false => exact inferInstanceAs (TransCmp Cell.compare)
  | true =>
    have hswap : directed true = fun x y => Cell.compare y x := by
      funext x y
      exact OrientedCmp.eq_swap.symm
    rw [hswap]
    exact TransCmp.opposite

/-- The order of two cells where nulls have a place of their own, whatever the direction. -/
def compareCells? (descending nullsLast : Bool) : Option Json → Option Json → Ordering
  | none, none => .eq
  | none, some _ => if nullsLast then .gt else .lt
  | some _, none => if nullsLast then .lt else .gt
  | some x, some y => directed descending x y

instance (descending nullsLast : Bool) : TransCmp (compareCells? descending nullsLast) where
  eq_swap {a b} :=
    match a, b with
    | none, none => rfl
    | none, some _ | some _, none => by cases nullsLast <;> rfl
    | some _, some _ => (inferInstance : TransCmp (directed descending)).eq_swap
  isLE_trans {a b c} hab hbc :=
    match a, b, c with
    | none, none, _ => hbc
    | none, some _, none => rfl
    | none, some _, some _ => hab
    | some _, none, none => hab
    | some _, none, some _ => by cases nullsLast <;> contradiction
    | some _, some _, none => hbc
    | some _, some _, some _ => (inferInstance : TransCmp (directed descending)).isLE_trans hab hbc

theorem compareBy_eq (key : Sort.Key) (a b : Row) : compareBy key a b =
    compareCells? key.direction.isDescending true (a.cell? key.column) (b.cell? key.column) := by
  rw [compareBy]
  cases a.cell? key.column <;> cases b.cell? key.column <;> rfl

/-! ### Rows -/

instance (key : Sort.Key) : TransCmp (compareBy key) where
  eq_swap {a b} := by
    rw [compareBy_eq, compareBy_eq]
    exact OrientedCmp.eq_swap
  isLE_trans {a b c} := by
    rw [compareBy_eq, compareBy_eq, compareBy_eq]
    exact TransCmp.isLE_trans

theorem transCmp_compareRows : ∀ keys : List Sort.Key, TransCmp (compareRows keys)
  | [] => { eq_swap := rfl, isLE_trans := fun _ h => h }
  | key :: keys =>
    have := transCmp_compareRows keys
    inferInstanceAs (TransCmp (compareLex (compareBy key) (compareRows keys)))

instance (keys : List Sort.Key) : TransCmp (compareRows keys) := transCmp_compareRows keys

/-- This key puts the first row before the second: its cell is first in the direction of the key, or it
has one that is not null and the second row has none. -/
inductive Before (key : Sort.Key) (a b : Row) : Prop
  | ascending {x y : Json} (hx : a.cell? key.column = some x) (hy : b.cell? key.column = some y)
    (hkey : key.direction = .ascending) (h : Cell.compare x y = .lt)
  | descending {x y : Json} (hx : a.cell? key.column = some x) (hy : b.cell? key.column = some y)
    (hkey : key.direction = .descending) (h : Cell.compare x y = .gt)
  | null {x : Json} (hx : a.cell? key.column = some x) (hb : b.cell? key.column = none)

/-- This key does not tell the rows apart: their cells are equal, or both have none or a null. -/
inductive Ties (key : Sort.Key) (a b : Row) : Prop
  | cells {x y : Json} (hx : a.cell? key.column = some x) (hy : b.cell? key.column = some y)
    (h : Cell.compare x y = .eq)
  | nulls (ha : a.cell? key.column = none) (hb : b.cell? key.column = none)

/-- Of the keys, the first one that tells the rows apart puts the first row before the second. -/
inductive Precedes : List Sort.Key → Row → Row → Prop
  | here {key : Sort.Key} {keys : List Sort.Key} {a b : Row} (h : Before key a b) :
    Precedes (key :: keys) a b
  | later {key : Sort.Key} {keys : List Sort.Key} {a b : Row} (htie : Ties key a b)
    (h : Precedes keys a b) : Precedes (key :: keys) a b

/-- No key tells the rows apart. -/
def Tied (keys : List Sort.Key) (a b : Row) : Prop := ∀ key ∈ keys, Ties key a b

section
variable {key : Sort.Key} {keys : List Sort.Key} {a b : Row}

theorem directed_eq_eq_iff {descending : Bool} {x y : Json} :
    directed descending x y = .eq ↔ Cell.compare x y = .eq := by
  cases descending with
  | false => exact .rfl
  | true => exact Ordering.swap_eq_eq

theorem compareBy_eq_lt_iff : compareBy key a b = .lt ↔ Before key a b := by
  rw [compareBy_eq]
  constructor
  · intro h
    cases ha : a.cell? key.column with
    | none => cases hb : b.cell? key.column <;> rw [ha, hb] at h <;> cases h
    | some x =>
      cases hb : b.cell? key.column with
      | none => exact .null ha hb
      | some y =>
        rw [ha, hb] at h
        cases hkey : key.direction with
        | ascending =>
          rw [hkey] at h
          exact .ascending ha hb hkey h
        | descending =>
          rw [hkey] at h
          exact .descending ha hb hkey (Ordering.swap_eq_lt.1 h)
  · rintro (⟨hx, hy, hkey, h⟩ | ⟨hx, hy, hkey, h⟩ | ⟨hx, hb⟩)
    · rw [hx, hy, hkey]
      exact h
    · rw [hx, hy, hkey]
      exact Ordering.swap_eq_lt.2 h
    · rw [hx, hb]
      rfl

theorem compareBy_eq_eq_iff : compareBy key a b = .eq ↔ Ties key a b := by
  rw [compareBy_eq]
  constructor
  · intro h
    cases ha : a.cell? key.column with
    | none =>
      cases hb : b.cell? key.column with
      | none => exact .nulls ha hb
      | some y =>
        rw [ha, hb] at h
        cases h
    | some x =>
      cases hb : b.cell? key.column with
      | none =>
        rw [ha, hb] at h
        cases h
      | some y =>
        rw [ha, hb] at h
        exact .cells ha hb (directed_eq_eq_iff.1 h)
  · rintro (⟨hx, hy, h⟩ | ⟨ha, hb⟩)
    · rw [hx, hy]
      exact directed_eq_eq_iff.2 h
    · rw [ha, hb]
      rfl

theorem compareRows_eq_lt_iff : ∀ {keys : List Sort.Key}, compareRows keys a b = .lt ↔ Precedes keys a b
  | [] => ⟨nofun, nofun⟩
  | key :: keys => by
    rw [compareRows, Ordering.then_eq_lt, compareBy_eq_lt_iff, compareBy_eq_eq_iff, compareRows_eq_lt_iff]
    constructor
    · rintro (h | ⟨htie, h⟩)
      · exact .here h
      · exact .later htie h
    · intro h
      cases h with
      | here h => exact .inl h
      | later htie h => exact .inr ⟨htie, h⟩

theorem compareRows_eq_eq_iff : ∀ {keys : List Sort.Key}, compareRows keys a b = .eq ↔ Tied keys a b
  | [] => ⟨fun _ => nofun, fun _ => rfl⟩
  | key :: keys => by
    rw [compareRows, Ordering.then_eq_eq, compareBy_eq_eq_iff, compareRows_eq_eq_iff, Tied, Tied,
      List.forall_mem_cons]

end

instance (keys : List Sort.Key) (a b : Row) : Decidable (Tied keys a b) :=
  decidable_of_iff _ compareRows_eq_eq_iff

/-! ### A comparison to sort by -/

/-- What a sort relies on: each two elements stand in one order, which is the same from both sides, and
elements that are equal stand in the same order to all others. -/
structure IsTotalPreorder {α : Type} (cmp : α → α → Ordering) : Prop where
  self (a : α) : cmp a a = .eq
  swap (a b : α) : cmp a b = (cmp b a).swap
  trans {a b c : α} (hab : cmp a b ≠ .gt) (hbc : cmp b c ≠ .gt) : cmp a c ≠ .gt
  eq_trans {a b c : α} (hab : cmp a b = .eq) (hbc : cmp b c = .eq) : cmp a c = .eq
  congr_left {a b : α} (h : cmp a b = .eq) (c : α) : cmp a c = cmp b c
  congr_right {a b : α} (h : cmp a b = .eq) (c : α) : cmp c a = cmp c b

theorem isTotalPreorder_of_transCmp {α : Type} {cmp : α → α → Ordering} [TransCmp cmp] :
    IsTotalPreorder cmp where
  self _ := Std.ReflCmp.compare_self
  swap _ _ := OrientedCmp.eq_swap
  trans hab hbc := by
    rw [ne_eq, Ordering.ne_gt_iff_isLE] at hab hbc ⊢
    exact TransCmp.isLE_trans hab hbc
  eq_trans := TransCmp.eq_trans
  congr_left h _ := TransCmp.congr_left h
  congr_right h _ := TransCmp.congr_right h

/-- Rows are compared by a total preorder, whatever the keys and the known columns, and so are any two
cells, whatever their types. -/
theorem isTotalPreorder_compareRows (known : Known) (keys : List Sort.Key) :
    IsTotalPreorder (compareRows (knownKeys known keys).value) ∧ IsTotalPreorder Cell.compare :=
  ⟨isTotalPreorder_of_transCmp, isTotalPreorder_of_transCmp⟩

end Memory

end DataGrid
