import DataGrid.Proofs.Filter.Depth
import DataGrid.Proofs.Filter.Numbers
import DataGrid.Proofs.Filter.Simulation
import DataGrid.Proofs.Json.Source
import DataGrid.Sql

/-!
# The depth of conditions

A condition in SQL that comes of a filter has two levels more than the filter at most: one joins the
columns, and a range is a conjunction. So with the bound on what is read, the calls that a request takes
are nested to a fixed depth, whatever the limits are (`Request.nesting_bounded`).
-/

namespace DataGrid

namespace Sql

namespace Expr

variable {κ : Type}

mutual

/-- The number of conditions on the longest way into a condition. -/
def depth : Expr κ → Nat
  | all parts | any parts => greatestDepth parts + 1
  | always | compare .. | like .. | null .. => 1

def greatestDepth : List (Expr κ) → Nat
  | [] => 0
  | part :: parts => max part.depth (greatestDepth parts)

end

section
variable (dialect : Dialect) (columnText : κ → String)

mutual

/-- The text of a condition and its values after others, computed on a limited stack. -/
def bindStacked (bound : List Value) : Expr κ → Stacked (String × List Value)
  | all parts => .call do
    let (texts, bound) ← bindListStacked bound parts
    return (junction " AND " "1=1" texts, bound)
  | any parts => .call do
    let (texts, bound) ← bindListStacked bound parts
    return (junction " OR " "1=0" texts, bound)
  | always => .call (pure (always.bind dialect columnText bound))
  | compare column comparison value =>
    .call (pure ((compare column comparison value).bind dialect columnText bound))
  | like column pattern negated =>
    .call (pure ((like column pattern negated).bind dialect columnText bound))
  | null column negated => .call (pure ((null column negated).bind dialect columnText bound))

def bindListStacked (bound : List Value) : List (Expr κ) → Stacked (List String × List Value)
  | [] => pure ([], bound)
  | part :: parts => do
    let (text, bound) ← part.bindStacked bound
    let (texts, bound) ← bindListStacked bound parts
    return (text :: texts, bound)

end

mutual

/-- A call for each level is enough to write a condition. -/
theorem ends_bindStacked : ∀ (e : Expr κ) (bound : List Value),
    (e.bindStacked dialect columnText bound).Ends e.depth (e.bind dialect columnText bound)
  | all parts, bound | any parts, bound => by
    rw [bindStacked, depth, bind]
    refine ((ends_bindListStacked parts bound).bind ?_).call
    exact Stacked.ends_pure _ _
  | always, bound | compare .., bound | like .., bound | null .., bound => (Stacked.ends_pure _ _).call

theorem ends_bindListStacked : ∀ (parts : List (Expr κ)) (bound : List Value),
    (bindListStacked dialect columnText bound parts).Ends (greatestDepth parts)
      (bindList dialect columnText bound parts)
  | [], _ => Stacked.ends_pure _ _
  | part :: parts, bound => by
    rw [bindListStacked, greatestDepth, bindList]
    refine ((ends_bindStacked part bound).mono (Nat.le_max_left ..)).bind ?_
    exact ((ends_bindListStacked parts _).mono (Nat.le_max_right ..)).bind (Stacked.ends_pure _ _)

end

end

/-! ### Conditions that filters come to -/

theorem greatestDepth_le {parts : List (Expr κ)} {n : Nat} (h : ∀ part ∈ parts, part.depth ≤ n) :
    greatestDepth parts ≤ n := by
  induction parts with
  | nil => exact Nat.zero_le _
  | cons part parts ih =>
    rw [List.forall_mem_cons] at h
    exact Nat.max_le.2 ⟨h.1, ih h.2⟩

theorem depth_conj_le {parts : List (Expr κ)} {n : Nat} (h : ∀ part ∈ parts, part.depth ≤ n) :
    (conj parts).depth ≤ n + 1 := by
  have hkept : ∀ part ∈ parts.filter fun part => !part.isAlways, part.depth ≤ n := fun part hpart =>
    h part (List.mem_filter.1 hpart).1
  unfold conj
  split
  · exact Nat.le_add_left ..
  · next part hfilter =>
    rw [hfilter] at hkept
    exact Nat.le_succ_of_le (hkept part (List.mem_singleton_self part))
  · exact Nat.succ_le_succ (greatestDepth_le hkept)

theorem depth_disj_le {parts : List (Expr κ)} {n : Nat} (h : ∀ part ∈ parts, part.depth ≤ n) :
    (disj parts).depth ≤ n + 1 := by
  unfold disj
  split
  · exact Nat.le_add_left ..
  · exact Nat.succ_le_succ (greatestDepth_le h)

end Expr

variable {table : Table} {id : String}

open DataGrid.Filter (Node)

theorem depth_textTest {column : Column} {text : String} {test : Filter.TextTest} {p : Condition}
    (h : test.compile table.backend column text = some p) : p.depth ≤ 1 := by
  cases test <;> cases h <;> exact Nat.le_refl 1

theorem depth_scalarTest {column : Column} {value : Value} {upper : Except Filter.Error (Option Value)}
    {test : Filter.ScalarTest} {p : Condition}
    (h : test.compile table.backend column value upper = .ok (some p)) : p.depth ≤ 2 := by
  have hrange (parts : List Condition) (hparts : ∀ part ∈ parts, part.depth ≤ 1) :
      (table.backend.all parts).depth ≤ 2 := Expr.depth_conj_le hparts
  cases test with
  | inRange =>
    match upper, h with
    | .ok none, h | .ok (some last), h =>
      cases h
      -- A range is a conjunction of two comparisons.
      exact hrange _ (by simp [Table.backend, Expr.depth])
  | equals | notEqual | lessThan | lessThanOrEqual | greaterThan | greaterThanOrEqual | blank | notBlank =>
    cases h
    exact Nat.le_succ 1
  | unknown => cases h

theorem depth_condition (c : Filter.Condition) : c.Gives table.backend id fun p => p.depth ≤ 2 := by
  intro p h
  cases c with
  | text test value | object test value =>
    cases value with
    | none => cases h
    | some value =>
      obtain ⟨column, -, h⟩ := Except.exists_of_bind_eq_ok h
      obtain ⟨test, -, h⟩ := Option.bind_eq_some_iff.1 (Except.ok.inj h)
      exact Nat.le_succ_of_le (depth_textTest h)
  | number test value upper =>
    cases value with
    | none => cases h
    | some value =>
      obtain ⟨column, -, h⟩ := Except.exists_of_bind_eq_ok h
      cases test with
      | none => cases h
      | some test => exact depth_scalarTest h
  | date test value upper =>
    cases value with
    | none => cases h
    | some value =>
      obtain ⟨column, -, h⟩ := Except.exists_of_bind_eq_ok h
      obtain ⟨date, -, h⟩ := Except.exists_of_bind_eq_ok h
      cases test with
      | none => cases h
      | some test => exact depth_scalarTest h
  | boolean test =>
    obtain ⟨column, -, h⟩ := Except.exists_of_bind_eq_ok h
    cases h
    exact Nat.le_succ 1

mutual

/-- Each level of a node is one of its condition, and a range may be one more. -/
theorem depth_node : ∀ {node : Node} {p : Condition},
    (node.compile table.backend id).value = .ok (some p) → p.depth ≤ node.depth + 1
  | .single c join, p, h => by
    rw [Node.value_compile_single] at h
    exact depth_condition c p h
  | .group join nodes own, p, h => by
    have hps := @depth_nodes nodes
    rw [Filter.Node.value_compile_group] at h
    rw [Node.depth, Nat.add_comm 1]
    match join, h with
    | some .and, h =>
      cases h
      exact Expr.depth_conj_le hps
    | some .or, h =>
      cases h
      exact Expr.depth_disj_le hps

theorem depth_nodes : ∀ {nodes : List Node},
    ∀ p ∈ (Filter.compileAll table.backend id nodes).value, p.depth ≤ Node.greatestDepth nodes + 1
  | [] => by
    rw [Filter.compileAll]
    exact nofun
  | node :: nodes => by
    rw [Filter.value_compileAll_cons, Node.greatestDepth]
    refine Filter.forall_mem_keep (Q := fun p : Condition => p.depth ≤ max node.depth (Node.greatestDepth nodes) + 1)
      (fun p hp => ?_) fun p hp => ?_
    · have := depth_node hp
      omega
    · have := depth_nodes p hp
      omega

end

theorem depth_model {m : Filter.Model} {n : Nat} (h : ∀ entry ∈ m.entries, entry.2.depth ≤ n) :
    (m.compile table.backend).value.depth ≤ n + 2 := by
  have hentries : ∀ {entries : List (String × Node)}, (∀ entry ∈ entries, entry.2.depth ≤ n) →
      ∀ p ∈ (Filter.compileEntries table.backend entries).value, p.depth ≤ n + 1 := by
    intro entries h
    induction entries with
    | nil => exact nofun
    | cons entry entries ih =>
      rw [List.forall_mem_cons] at h
      refine Filter.forall_mem_keep (Q := fun p : Condition => p.depth ≤ n + 1) (fun p hp => ?_) (ih h.2)
      have := depth_node hp
      omega
  rw [Filter.Model.value_compile]
  split
  · exact Nat.le_add_left ..
  · exact Expr.depth_conj_le (hentries h)

end Sql

open Sql (Table)

/-- Whatever the limits are, a filter in a text that is read has at most 63 levels, and so many nested
calls are enough to compute its depth, which is done before the limit on it counts. For a request that is
accepted they are enough to compile its filters on any backend, and 65 are enough to write the condition
that comes of them in SQL. A limit of at least 63 levels is never exceeded. -/
theorem Request.nesting_bounded (limits : Limits) (text : String) :
    (∀ request, Json.decode Request.read text = .ok request → ∀ entry ∈ request.filterModel.entries,
      entry.2.depth ≤ 63 ∧ entry.2.depthStacked.run 63 = some entry.2.depth) ∧
    (∀ request, Request.parse limits text = .ok request →
      (∀ entry ∈ request.filterModel.entries, entry.2.depth ≤ 63 ∧
        ∀ {γ π : Type} (backend : Backend γ π),
          (entry.2.compileStacked backend entry.1).run 63 = some (entry.2.compile backend entry.1)) ∧
      ∀ table : Table, let condition := (request.filterModel.compile table.backend).value
        (condition.bindStacked table.dialect (Sql.Column.text table.dialect) []).run 65 =
          some (table.bind condition)) ∧
    (63 ≤ limits.depth → ∀ column depth max,
      Request.parse limits text ≠ .error (.filterTooDeep column depth max)) := by
  refine ⟨fun request h entry hentry => ?_, fun request h => ⟨fun entry hentry => ?_, fun table => ?_⟩,
    fun hlimit column depth max h => ?_⟩
  · have hdepth := Request.depth_of_decode h entry hentry
    exact ⟨hdepth, entry.2.ends_depthStacked 63 hdepth⟩
  · have hdepth := Request.depth_of_decode ((Request.parse_eq_ok_iff.1 h).2.1) entry hentry
    exact ⟨hdepth, fun backend => entry.2.ends_compileStacked backend entry.1 63 hdepth⟩
  · have hdepth := Request.depth_of_decode ((Request.parse_eq_ok_iff.1 h).2.1)
    exact Sql.Expr.ends_bindStacked table.dialect _ _ [] 65 (Sql.depth_model hdepth)
  · obtain ⟨rfl, hdeep, request, hrequest, entry, hentry, -, rfl⟩ := Request.depth_of_filterTooDeep h
    have hdepth := Request.depth_of_decode hrequest entry hentry
    omega

/-- The text of a filter with this many groups, one in the other. -/
def nestedChars : Nat → List Char
  | 0 => "\x7b\"filterType\":\"boolean\"\x7d".toList
  | n + 1 => "\x7b\"conditions\":[".toList ++ nestedChars n ++
      "],\"operator\":\"OR\",\"filterType\":\"date\"\x7d".toList

/-- A filter with 63 levels is accepted where a million are allowed. -/
theorem Request.nesting_bounded_deepest :
    let text := String.ofList ("\x7b\"filterModel\":\x7b\"c\":".toList ++ nestedChars 62 ++ "\x7d\x7d".toList)
    let limits : Limits := { bytes := text.utf8ByteSize, depth := 1000000 }
    63 ≤ limits.depth ∧ ∃ request, Json.decode Request.read text = .ok request ∧
      Request.parse limits text = .ok request ∧
      request.filterModel.entries.map (fun entry => (entry.1, entry.2.depth)) = [("c", 63)] ∧
      (∀ entry ∈ request.filterModel.entries, entry.2.depthStacked.run 63 = some entry.2.depth ∧
        ∀ {γ π : Type} (backend : Backend γ π),
          (entry.2.compileStacked backend entry.1).run 63 = some (entry.2.compile backend entry.1)) ∧
      (∀ table : Table, let condition := (request.filterModel.compile table.backend).value
        (condition.bindStacked table.dialect (Sql.Column.text table.dialect) []).run 65 =
          some (table.bind condition)) ∧
      ∀ column depth max, Request.parse limits text ≠ .error (.filterTooDeep column depth max) := by
  intro text limits
  have hdeepest : (Json.decode Request.read text).toOption.map (fun request =>
      request.filterModel.entries.map fun entry => (entry.1, entry.2.depth)) = some [("c", 63)] := by
    rw [Json.decode, Json.Document.read_ofList]
    decide +kernel
  have hlimit : 63 ≤ limits.depth := by decide
  have hbytes (size : Nat) : ({ bytes := size, depth := 1000000 } : Limits).bytes = size := rfl
  obtain ⟨hread, haccepted, hdeep⟩ := Request.nesting_bounded limits text
  cases hdecode : Json.decode Request.read text with
  | error error =>
    rw [hdecode] at hdeepest
    cases hdeepest
  | ok request =>
    rw [hdecode] at hdeepest
    have hentries : request.filterModel.entries.map (fun entry => (entry.1, entry.2.depth)) = [("c", 63)] :=
      Option.some.inj hdeepest
    have hrequest : Request.parse limits text = .ok request := by
      refine Request.parse_eq_ok_iff.2 ⟨Nat.le_of_eq (hbytes _).symm, hdecode, ?_, fun entry hentry => ?_⟩
      · have hsize := congrArg List.length hentries
        rw [List.length_map] at hsize
        exact Nat.le_trans (Nat.le_of_eq hsize) (by decide : 1 ≤ 100)
      · exact Nat.le_trans (hread request hdecode entry hentry).1 hlimit
    obtain ⟨hcompile, hwrite⟩ := haccepted request hrequest
    exact ⟨hlimit, request, rfl, hrequest, hentries,
      fun entry hentry => ⟨(hread request hdecode entry hentry).2, (hcompile entry hentry).2⟩, hwrite,
      hdeep hlimit⟩

end DataGrid
