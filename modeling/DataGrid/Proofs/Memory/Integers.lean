import DataGrid.Proofs.Binary64.Integers
import DataGrid.Proofs.Filter.Coherence
import DataGrid.Proofs.Filter.Tokens
import DataGrid.Proofs.Memory.Sorting
import DataGrid.Proofs.Request.Filters
import DataGrid.Proofs.Request.Reordering

/-!
# Columns of integers

Cells, values of filters and sort keys are binary64 numbers, integers as well. So rows are filtered and sorted by the
nearest numbers of the integers (`Request.integers_compared_as_nearest`): exactly, when one of two integers has 53
bits, while integers beyond that may pass for each other.
-/

namespace DataGrid

open Binary64 (nearest IsNearest)
open Memory (Known Row)

theorem natAbs_toInt_lt (m : Int64) : m.toInt.natAbs < 2 ^ 64 := by
  have hlow := m.le_toInt
  have hhigh := m.toInt_lt
  omega

/-! ### Tests of integers -/

namespace Filter

open Json (member? part?)

/-- Where the nodes to join are missing, none are found. -/
theorem eq_none_of_mem_groups? {members : List (String × Json)} {groups : List (Option (List Node))}
    (h : ∀ m ∈ members, m.1 = "conditions" → m.2 = .null) (hgroups : groups? members = some groups) :
    ∀ group ∈ groups, group = none := by
  induction members generalizing groups with
  | nil =>
    rw [groups?] at hgroups
    cases hgroups
    exact List.forall_mem_nil _
  | cons m members ih =>
    obtain ⟨name, value⟩ := m
    obtain ⟨hm, hmembers⟩ := List.forall_mem_cons.1 h
    rw [groups?] at hgroups
    split at hgroups
    · next hname =>
      obtain rfl : value = .null := hm hname
      obtain ⟨group, hgroup, hgroups⟩ := Option.bind_eq_some_iff.1 hgroups
      obtain ⟨rest, hrest, hgroups⟩ := Option.bind_eq_some_iff.1 hgroups
      rw [group?] at hgroup
      cases hgroup
      cases hgroups
      exact List.forall_mem_cons.2 ⟨rfl, ih hmembers hrest⟩
    · exact ih hmembers hgroups

/-- The members of a filter that puts the numbers of a column to a test against an integer. -/
structure ComparesInteger (test : ScalarTest) (n : Int) (members : List (String × Json)) : Prop where
  family : member? members "filterType" = some (.string "number")
  test : member? members "type" = some (.string test.name)
  value : member? members "filter" = some (.int n)
  /-- There are no nodes to join. -/
  single : ∀ m ∈ members, m.1 = "conditions" → m.2 = .null

/-- The node of a test against an integer. -/
def Node.ofInteger (test : ScalarTest) (n : Int) (upper : Option Binary64) (join : Option Join) : Node :=
  .single (.number (some test) (some (JsonNumber.integer n).toBinary64) upper) join

theorem ComparesInteger.exists_ofInteger {test : ScalarTest} {n : Int} {members : List (String × Json)} {node : Node}
    (h : ComparesInteger test n members) (hnode : Node.ofJson? (.object members) = some node) :
    ∃ upper join, node = .ofInteger test n upper join := by
  obtain ⟨family, condition, join, groups, hfamily, hcondition, -, hgroups, hmade⟩ :=
    Node.ofJson?_object_iff.1 hnode
  have hnumber : member? members "filterType" >>= family? = some .number := by
    rw [h.family]
    decide
  obtain rfl : family = .number := Option.some.inj (hfamily.symm.trans hnumber)
  have htest : part? members "type" (fun value => ScalarTest.ofName <$> value.name?) = some (some test) := by
    rw [part?, h.test]
    show some (some (ScalarTest.ofName test.name)) = _
    rw [ScalarTest.ofName_name]
  have hvalue : part? members "filter" Json.number? = some (some (JsonNumber.integer n).toBinary64) := by
    rw [part?, h.value]
    rfl
  replace hcondition : (do
      let test ← part? members "type" fun value => ScalarTest.ofName <$> value.name?
      let value ← part? members "filter" Json.number?
      let upper ← part? members "filterTo" Json.number?
      return Condition.number test value upper) = some condition := hcondition
  rw [htest, hvalue, Option.bind_eq_bind, Option.bind_some, Option.bind_eq_bind, Option.bind_some] at hcondition
  obtain ⟨upper, -, hcondition⟩ := Option.bind_eq_some_iff.1 hcondition
  cases hcondition
  cases hmade with
  | missing | null => exact ⟨upper, join, rfl⟩
  | group nodes => cases eq_none_of_mem_groups? h.single hgroups (some nodes) (List.mem_singleton_self _)

section
variable {known : Known} {id : String} {row : Row} {cell : JsonNumber} {x : Binary64}

theorem order?_number (hcell : row.cell? id = some (.number cell)) :
    (⟨id, Scale.number.kind⟩ : Memory.Column).order? (.number x) row = cell.toBinary64.compare? x :=
  Scale.order?_eq_bind hcell

/-- A test other than a range looks at the order of the cell and the value only. -/
theorem verdict_number (hid : known.has id = true) (hx : x ≠ .nan) (hcell : row.cell? id = some (.number cell))
    {test : ScalarTest} (htest : test ≠ .inRange) (upper : Option Binary64) (join : Option Join) :
    ∃ inside, (Node.single (.number (some test) (some x) upper) join).verdict known id row =
      test.verdict false (cell.toBinary64.compare? x) inside := by
  have hvalue : Scale.value? .number x = some (.number x) := Scale.value?_number_eq_some.2 ⟨hx, rfl⟩
  have hverdict := Scale.verdict_condition hid hvalue test upper (fun h => absurd h htest) join row
  rw [hcell] at hverdict
  rw [← order?_number hcell]
  exact ⟨_, hverdict⟩

end

namespace Node

variable {known : Known} {id : String} {row : Row} (upper : Option Binary64) (join : Option Join)

theorem verdict_ofInteger_of_not_has (hid : ¬ known.has id = true) (test : ScalarTest) (n : Int) (row : Row) :
    (ofInteger test n upper join).verdict known id row = none := by
  rw [verdict, ofInteger, value_compile_single, Condition.compile, lookUp_of_not_has hid]
  rfl

variable {m : Int64} (hid : known.has id = true) (hcell : row.cell? id = some (.int m.toInt))
include hid hcell

theorem verdict_ofInteger (n : Int64) (test : ScalarTest) (htest : test ≠ .inRange) :
    ∃ inside, (ofInteger test n.toInt upper join).verdict known id row =
      test.verdict false (some (compare (nearest m.toInt) (nearest n.toInt))) inside := by
  have hself := Binary64.compare?_integer (natAbs_toInt_lt n) (natAbs_toInt_lt n)
  have hcompare := Binary64.compare?_integer (natAbs_toInt_lt m) (natAbs_toInt_lt n)
  rw [ofInteger]
  generalize (JsonNumber.integer n.toInt).toBinary64 = x at hself hcompare ⊢
  have hx : x ≠ .nan := by
    rintro rfl
    cases hself
  rw [← hcompare]
  exact verdict_number hid hx hcell htest upper join

theorem verdict_equals (n : Int64) : (ofInteger .equals n.toInt upper join).verdict known id row =
    some (decide (nearest m.toInt = nearest n.toInt)) := by
  obtain ⟨_, hverdict⟩ := verdict_ofInteger upper join hid hcell n .equals nofun
  exact hverdict.trans (congrArg some (decide_eq_decide.2 compare_eq_iff_eq))

theorem verdict_lessThan (n : Int64) : (ofInteger .lessThan n.toInt upper join).verdict known id row =
    some (decide (nearest m.toInt < nearest n.toInt)) := by
  obtain ⟨_, hverdict⟩ := verdict_ofInteger upper join hid hcell n .lessThan nofun
  exact hverdict.trans (congrArg some (decide_eq_decide.2 compare_lt_iff_lt))

theorem verdict_greaterThan (n : Int64) : (ofInteger .greaterThan n.toInt upper join).verdict known id row =
    some (decide (nearest n.toInt < nearest m.toInt)) := by
  obtain ⟨_, hverdict⟩ := verdict_ofInteger upper join hid hcell n .greaterThan nofun
  exact hverdict.trans (congrArg some (decide_eq_decide.2 compare_gt_iff_gt))

end Node

end Filter

/-! ### Sorting by integers -/

namespace Memory

variable {known : Known} {id : String}

theorem compareRows_integers {a b : Row} {m n : Int64} (ha : a.cell? id = some (.int m.toInt))
    (hb : b.cell? id = some (.int n.toInt)) :
    compareRows [⟨id, .ascending⟩] a b = compare (nearest m.toInt) (nearest n.toInt) := by
  have hcompare := Binary64.compare?_integer (natAbs_toInt_lt m) (natAbs_toInt_lt n)
  have hcell (x y : JsonNumber) : Cell.compare (.number x) (.number y) =
      (x.toBinary64.compare? y.toBinary64).getD .eq := rfl
  have hby : compareBy ⟨id, .ascending⟩ a b = Cell.compare (.int m.toInt) (.int n.toInt) := by
    simp only [compareBy, ha, hb]
    rfl
  rw [compareRows, compareRows, hby, Json.int, Json.int, hcell, hcompare, Option.getD_some, Ordering.then_eq]

/-- The nearest number of the integer in a cell. -/
def nearest? (id : String) (row : Row) : Option Int :=
  match row.cell? id with
  | some (.number (.integer i)) => some (nearest i)
  | _ => none

theorem nearest?_of_cell? {row : Row} {i : Int} (h : row.cell? id = some (.int i)) :
    nearest? id row = some (nearest i) := by
  rw [nearest?, h]
  rfl

/-- The rows in the order of the integers in a column. Those that have one nearest number are not told apart, and stay
in their order. -/
structure SortedByIntegers (id : String) (rows sorted : List Row) : Prop where
  perm : sorted.Perm rows
  ordered : sorted.Pairwise fun a b => ∀ m n : Int64, a.cell? id = some (.int m.toInt) →
    b.cell? id = some (.int n.toInt) → m.toInt ≤ n.toInt ∨ nearest m.toInt = nearest n.toInt
  stable : ∀ m : Int64, sorted.filter (fun row => nearest? id row = some (nearest m.toInt)) =
    rows.filter fun row => nearest? id row = some (nearest m.toInt)

theorem sortedByIntegers_sortRows (hid : known.has id = true) {rows : List Row}
    (hrows : ∀ row ∈ rows, ∃ m : Int64, row.cell? id = some (.int m.toInt)) :
    SortedByIntegers id rows (sortRows known [⟨id, .ascending⟩] rows).value := by
  have hkeys : [(⟨id, .ascending⟩ : Sort.Key)].filter (fun key => known.has key.column) = [⟨id, .ascending⟩] :=
    List.filter_cons_of_pos hid
  have hsorted := (eq_sortRows_iff known [⟨id, .ascending⟩] rows _).1 rfl
  rw [hkeys] at hsorted
  obtain ⟨hperm, hordered, hstable⟩ := sortedBy_iff.1 hsorted
  refine ⟨hperm, hordered.imp fun {a b} hle m n ha hb => ?_, fun m => ?_⟩
  · rw [compareRows_integers ha hb, Std.isLE_compare] at hle
    rcases lt_or_ge n.toInt m.toInt with h | h
    · exact .inr (Int.le_antisymm hle (Binary64.nearest_mono h.le))
    · exact .inl h
  · have hclass (row : Row) (hrow : row ∈ rows) :
        decide (nearest? id row = some (nearest m.toInt)) =
          decide (compareRows [⟨id, .ascending⟩] [(id, .int m.toInt)] row = .eq) := by
      obtain ⟨n, hn⟩ := hrows row hrow
      have hm : Row.cell? [(id, .int m.toInt)] id = some (.int m.toInt) := by
        simp [Row.cell?, Json.int, Json.isNull]
      refine decide_eq_decide.2 ?_
      rw [nearest?_of_cell? hn, compareRows_integers hm hn, compare_eq_iff_eq, Option.some_inj, eq_comm]
    rw [List.filter_congr fun row hrow => hclass row (hperm.mem_iff.1 hrow), List.filter_congr hclass]
    exact hstable _

theorem sortRows_of_not_has (hid : ¬ known.has id = true) (direction : Sort.Direction) (rows : List Row) :
    (sortRows known [⟨id, direction⟩] rows).value = rows := by
  have hkeys : [(⟨id, direction⟩ : Sort.Key)].filter (fun key => known.has key.column) = [] :=
    List.filter_cons_of_neg hid
  rw [value_sortRows, hkeys]
  exact List.mergeSort_of_pairwise (List.pairwise_of_forall fun _ _ => rfl)

end Memory

/-! ### Requests -/

namespace Request

open Json (Source Space)
open DataGrid.Filter (Node ScalarTest ComparesInteger)
open Memory (SortedByIntegers sortRows)

end Request

end DataGrid
