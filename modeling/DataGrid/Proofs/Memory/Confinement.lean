import DataGrid.Proofs.Memory.Blocks
import Mathlib.Data.List.FinRange

/-!
# Columns that cannot be asked about

Where only some columns are known, no request finds out anything about the cells in the others: it picks
the same positions of two lists of rows that differ in these cells only (`exists_positions`).
-/

namespace DataGrid.Memory

/-- The rows have the same cells in these columns. -/
def AgreeOn (columns : List String) (a b : Row) : Prop :=
  ∀ column ∈ columns, a.cell? column = b.cell? column

section
variable {columns : List String} {a a' b b' : Row}

theorem AgreeOn.value?_eq (h : AgreeOn columns a b) {c : Column} (hc : c.name ∈ columns) :
    c.value? a = c.value? b := by
  rw [Column.value?, Column.value?, Column.cell?, Column.cell?, h c.name hc]

/-! ### Predicates -/

/-- Predicates that look at these columns only. -/
def confined (columns : List String) : Backend.Invariant (backend (some columns)) where
  column c := c.name ∈ columns
  predicate p := ∀ a b, AgreeOn columns a b → p a = p b
  compare comparison c v hc a b hab := by
    simp only [backend, hab.value?_eq hc]
  like negated c p hc a b hab := by
    simp only [backend, hab.value?_eq hc]
  null negated c hc a b hab := by
    simp only [backend, Column.cell?, hab c.name hc]
  all hps a b hab := by
    have hvalues := List.map_congr_left fun p hp => hps p hp a b hab
    have hall := congrArg (·.all id) hvalues
    simp only [List.all_map] at hall
    exact hall
  any hps a b hab := by
    have hvalues := List.map_congr_left fun p hp => hps p hp a b hab
    have hany := congrArg (·.any id) hvalues
    simp only [List.any_map] at hany
    exact hany
  always _ _ _ := rfl

/-- The filters of a request look at known columns only. -/
theorem compile_eq_of_agreeOn (m : Filter.Model) (h : AgreeOn columns a b) :
    (m.compile (backend (some columns))).value a = (m.compile (backend (some columns))).value b := by
  refine m.compile_invariant (confined columns) (fun id _ kind c hc => ?_) a b h
  simp only [backend] at hc
  split at hc
  · next hknown =>
    cases hc
    exact List.contains_iff_mem.1 hknown
  · cases hc

/-! ### Orders -/

theorem compareBy_eq_of_agreeOn {key : Sort.Key} (hkey : key.column ∈ columns)
    (ha : AgreeOn columns a a') (hb : AgreeOn columns b b') : compareBy key a b = compareBy key a' b' := by
  rw [compareBy, compareBy, ha _ hkey, hb _ hkey]

theorem compareRows_eq_of_agreeOn (ha : AgreeOn columns a a') (hb : AgreeOn columns b b') :
    ∀ {keys : List Sort.Key}, (∀ key ∈ keys, key.column ∈ columns) →
      compareRows keys a b = compareRows keys a' b'
  | [], _ => rfl
  | key :: keys, h => by
    rw [List.forall_mem_cons] at h
    rw [compareRows, compareRows, compareBy_eq_of_agreeOn h.1 ha hb, compareRows_eq_of_agreeOn ha hb h.2]

end

/-! ### Positions -/

/-- The part of a list that is on a page. -/
def slice {α : Type} (page : Option Page) (l : List α) : List α :=
  match page with
  | none => l
  | some page => (l.drop page.offset.toNat).take page.size.toNat

/-- The positions of the rows that answer a request, where a row is given for each position. -/
def positions (known : Known) (request : Request) {n : Nat} (row : Fin n → Row) : List (Fin n) :=
  let matching := (List.finRange n).filter fun i =>
    (request.filterModel.compile (backend known)).value (row i)
  let keys := (Sort.keys request.sortModel).filter fun key => known.has key.column
  slice (Page.ofRange request.startRow request.endRow (Sort.keys request.sortModel)).toOption
    (matching.mergeSort fun i j => (compareRows keys (row i) (row j)).isLE)

section
variable {known : Known} {request : Request} {n : Nat} {row row' : Fin n → Row}

theorem pageRows_map (page : Option Page) (l : List (Fin n)) :
    pageRows page (l.map row) = (slice page l).map row := by
  cases page with
  | none => rfl
  | some page => rw [pageRows, slice, List.map_take, List.map_drop]

theorem sublist_slice {α : Type} (page : Option Page) (l : List α) : (slice page l).Sublist l := by
  cases page with
  | none => exact .refl l
  | some page => exact (List.take_sublist _ _).trans (List.drop_sublist _ _)

theorem answer_map_finRange : answer known request ((List.finRange n).map row) =
    (positions known request row).map row := by
  let keys := (Sort.keys request.sortModel).filter fun key => known.has key.column
  have hsort (l : List (Fin n)) : (l.mergeSort fun i j => (compareRows keys (row i) (row j)).isLE).map row =
      (l.map row).mergeSort fun a b => (compareRows keys a b).isLE :=
    List.map_mergeSort fun _ _ _ _ => rfl
  rw [answer_eq_pageRows, arranged, value_sortRows, matching, List.filter_map, positions, ← pageRows_map,
    hsort]
  rfl

theorem nodup_positions : (positions known request row).Nodup :=
  (sublist_slice _ _).nodup ((List.mergeSort_perm _ _).nodup_iff.2 ((List.nodup_finRange n).filter _))

theorem positions_eq_of_agreeOn {columns : List String} (h : ∀ i, AgreeOn columns (row i) (row' i)) :
    positions (some columns) request row = positions (some columns) request row' := by
  have hfilter : ∀ i, (request.filterModel.compile (backend (some columns))).value (row i) =
      (request.filterModel.compile (backend (some columns))).value (row' i) :=
    fun i => compile_eq_of_agreeOn _ (h i)
  have horder (keys : List Sort.Key) (hkeys : ∀ key ∈ keys, key.column ∈ columns) : ∀ i j,
      compareRows keys (row i) (row j) = compareRows keys (row' i) (row' j) :=
    fun i j => compareRows_eq_of_agreeOn (h i) (h j) hkeys
  have hknown : ∀ key ∈ (Sort.keys request.sortModel).filter (fun key =>
      Known.has (some columns) key.column), key.column ∈ columns := by
    intro key hkey
    simpa [Known.has] using (List.mem_filter.1 hkey).2
  simp only [positions, hfilter, horder _ hknown]

end

/-- Of rows that agree on all known columns a request picks those at the same positions, each at most
once, in the same order. -/
theorem exists_positions (columns : List String) (request : Request) {rows rows' : List Row}
    (h : List.Forall₂ (AgreeOn columns) rows rows') :
    ∃ positions : List (Fin rows.length), positions.Nodup ∧
      answer (some columns) request rows = positions.map rows.get ∧
      answer (some columns) request rows' = positions.map fun i => rows'.get (i.cast h.length_eq) := by
  refine ⟨positions (some columns) request rows.get, nodup_positions, ?_, ?_⟩
  · rw [← answer_map_finRange, List.map_get_finRange]
  · have hagree : ∀ i : Fin rows.length, AgreeOn columns (rows.get i) (rows'.get (i.cast h.length_eq)) :=
      fun i => h.get i.2 (h.length_eq ▸ i.2)
    have hrows' : (List.finRange rows.length).map (fun i => rows'.get (i.cast h.length_eq)) = rows' := by
      rw [← List.ofFn_eq_map, ← List.ofFn_congr h.length_eq.symm, List.ofFn_get]
    rw [positions_eq_of_agreeOn hagree, ← answer_map_finRange, hrows']

/-- The request filters by the other column and asks for its order first. -/
theorem exists_positions_hidden :
    let request : Request := {
      startRow := some 0
      endRow := some 2
      sortModel := [⟨"s", some "asc"⟩, ⟨"n", some "asc"⟩]
      filterModel := ⟨[("n", .single (.number (some .lessThan) (some (.infinite false)) none) none),
        ("s", .single (.text (some .equals) (some "b")) none)], by decide⟩ }
    let rows : List Row := [[("n", .nat 2), ("s", .text "a")], [("s", .text "b")],
      [("n", .nat 1), ("s", .text "c")], [("n", .text "0"), ("s", .null)]]
    let rows' : List Row := [[("s", .text "c"), ("n", .nat 2)], [("n", .null)],
      [("n", .nat 1), ("s", .bool true)], [("n", .text "0"), ("s", .text "a")]]
    ∃ h : List.Forall₂ (AgreeOn ["n"]) rows rows',
      ∃ positions : List (Fin rows.length), positions.Nodup ∧
        answer (some ["n"]) request rows = positions.map rows.get ∧
        answer (some ["n"]) request rows' = positions.map fun i => rows'.get (i.cast h.length_eq) := by
  intro request rows rows'
  have hagree (a b : Row) (h : a.cell? "n" = b.cell? "n") : AgreeOn ["n"] a b := by
    intro column hcolumn
    rw [List.mem_singleton.1 hcolumn]
    exact h
  have h : List.Forall₂ (AgreeOn ["n"]) rows rows' :=
    .cons (hagree _ _ rfl) (.cons (hagree _ _ rfl) (.cons (hagree _ _ rfl) (.cons (hagree _ _ rfl) .nil)))
  exact ⟨h, exists_positions ["n"] request h⟩

end DataGrid.Memory
