import DataGrid.Proofs.Filter.Simulation
import DataGrid.Proofs.Sql.Truth

/-!
# Conditions in SQL and predicates in memory

Made from the same comparisons, a predicate on rows in memory holds exactly where the SQL condition is
true. In memory what is unknown is false at once; that loses nothing, since no operation turns the
unknown into the true. The rows in memory have their cells under the ids of columns, those of the
database under the names behind the ids.
-/

namespace DataGrid.Sql

open Backend (Simulation Term)
open Memory (Known Row)

/-- Under these ids the row of the database has the same cells as the one in memory. -/
def SameCells (table : Table) (ids : List String) (stored row : Row) : Prop :=
  ∀ id ∈ ids, ∀ name, table.columns.resolve .filter id = .ok name →
    stored.cell? name.name = row.cell? id

/-- Both backends have a column under this id. -/
def BothResolve (table : Table) (known : Known) (id : String) : Prop :=
  known.has id = true ∧ ∃ name, table.columns.resolve .filter id = .ok name

namespace Agreement

/-- The columns of both backends are looked at in the same way and have the same cell. -/
structure SameColumn (stored row : Row) (kind : ColumnKind) (c : Column) (c' : Memory.Column) :
    Prop where
  kind_eq : c'.kind = kind
  asText_eq : c.asText = decide (kind = .coerced)
  cell_eq : stored.cell? c.name.name = row.cell? c'.name

variable {stored row : Row} {kind : ColumnKind} {c : Column} {c' : Memory.Column}

/-- Where a value fits the column, both backends convert the cell alike. -/
theorem read?_eq {v : Value} (h : SameColumn stored row kind c c') (hv : v.Fits kind) :
    c.reference.read? v.kind stored = c'.value? row := by
  have hkind : (if c.asText then .coerced else v.kind) = kind := by
    rw [h.asText_eq]
    cases v with
    | text => rcases hv with rfl | rfl <;> rfl
    | number | bool | dateTime => cases hv; rfl
  rw [Reference.read?, Memory.Column.value?, Memory.Column.cell?, Column.reference, h.cell_eq, h.kind_eq]
  exact congrArg _ (congrArg _ hkind)

theorem compare_iff (comparison : Comparison) {v : Value} (h : SameColumn stored row kind c c')
    (hv : v.Fits kind) : c.reference.compare comparison v stored = .yes ↔
      (match c'.value? row with
        | none => false
        | some cell => (cell.compare? v).any comparison.accepts) = true := by
  rw [Reference.compare, read?_eq h hv, Truth.ofOption_eq_yes]
  cases c'.value? row with
  | none => simp
  | some cell => cases hcompare : cell.compare? v <;> simp [hcompare]

theorem like_iff (negated : Bool) {pattern : String} (h : SameColumn stored row kind c c')
    (hp : (Value.text pattern).Fits kind) : c.reference.like negated pattern stored = .yes ↔
      (match c'.value? row with
        | some (.text text) => Like.matchesText pattern text != negated
        | _ => false) = true := by
  have hread : c.reference.read? .text stored = c'.value? row := read?_eq h hp
  rw [Reference.like, hread]
  cases c'.value? row with
  | none => simp
  | some v => cases v <;> simp

theorem null_iff (negated : Bool) (h : SameColumn stored row kind c c') :
    c.reference.null negated stored = .yes ↔ ((c'.cell? row).isNone != negated) = true := by
  rw [Reference.null, Truth.ofBool_eq_yes, Memory.Column.cell?, Column.reference, h.cell_eq]

/-- A condition is true of the row in the database where the predicate holds of the row in memory. -/
def simulation (table : Table) (known : Known) (stored row : Row) :
    Simulation table.backend (Memory.backend known) where
  column := SameColumn stored row
  value := Eq
  pattern := Eq
  predicate condition p := condition.eval stored = .yes ↔ p row = true
  value_refl _ := rfl
  compare := by
    rintro comparison kind c c' v _ hc hv rfl
    exact compare_iff comparison hc hv
  like := by
    rintro negated kind c c' pattern _ hc hp rfl
    exact like_iff negated hc hp
  null := by
    intro negated kind c c' hc
    exact null_iff negated hc
  all := by
    intro conditions ps h
    refine Expr.eval_conj_eq_yes.trans (Iff.trans ?_ List.all_eq_true.symm)
    induction h with
    | nil => simp
    | cons h _ ih => simp only [List.forall_mem_cons, h, ih]
  any := by
    intro conditions ps h
    refine Expr.eval_disj_eq_yes.trans (Iff.trans ?_ List.any_eq_true.symm)
    induction h with
    | nil => simp
    | cons h _ ih => simp only [List.exists_mem_cons_iff, h, ih]
  always := iff_of_true Expr.eval_always rfl

variable {table : Table} {known : Known}

theorem column_eq {id : String} {name : Identifier} (hid : known.has id = true)
    (hname : table.columns.resolve .filter id = .ok name) (kind : ColumnKind) :
    table.backend.column id kind = .ok ⟨name, decide (kind = .coerced)⟩ ∧
      (Memory.backend known).column id kind = .ok ⟨id, kind⟩ := by
  constructor
  · simp only [Table.backend, hname]
    rfl
  · simp only [Memory.backend, hid, if_true]

theorem resolves {ids : List String} (hcells : SameCells table ids stored row)
    (hids : ∀ id ∈ ids, BothResolve table known id) :
    ∀ id ∈ ids, (simulation table known stored row).Resolves id := by
  intro id hid kind
  obtain ⟨hknown, name, hname⟩ := hids id hid
  obtain ⟨hc, hc'⟩ := column_eq hknown hname kind
  rw [hc, hc']
  exact .ok ⟨rfl, rfl, hcells id hid name hname⟩

end Agreement

/-- Both forms of a term, and both forms of a filter model on columns that keep their names, hold of
the same rows. -/
theorem memory_iff_sql (table : Table) (known : Known) :
    (∀ t : Term, t.WellKinded → (∀ id ∈ t.ids, BothResolve table known id) →
      ∃ condition predicate, Backend.build table.backend t = .ok condition ∧
        Backend.build (Memory.backend known) t = .ok predicate ∧
        ∀ stored row, SameCells table t.ids stored row →
          (predicate row = true ↔ condition.eval stored = .yes)) ∧
    (∀ m : Filter.Model,
      (∀ id ∈ m.ids, known.has id = true ∧
        ∃ name, table.columns.resolve .filter id = .ok name ∧ name.name = id) →
      ∀ row, (m.compile (Memory.backend known)).value row = true ↔
        (m.compile table.backend).value.eval row = .yes) := by
  constructor
  · intro t hkinds hids
    have hcolumn : ∀ id ∈ t.ids, ∀ kind, (∃ c, table.backend.column id kind = .ok c) ∧
        ∃ c, (Memory.backend known).column id kind = .ok c := fun id hid kind =>
      let ⟨hknown, name, hname⟩ := hids id hid
      let ⟨hc, hc'⟩ := Agreement.column_eq hknown hname kind
      ⟨⟨_, hc⟩, ⟨_, hc'⟩⟩
    obtain ⟨condition, hcondition⟩ := Backend.exists_build t fun id hid kind => (hcolumn id hid kind).1
    obtain ⟨predicate, hpredicate⟩ := Backend.exists_build t fun id hid kind => (hcolumn id hid kind).2
    refine ⟨condition, predicate, hcondition, hpredicate, fun stored row hcells => ?_⟩
    have h := Backend.build_alike (Agreement.simulation table known stored row) (fun _ => rfl) t hkinds
      (Agreement.resolves hcells hids)
    rw [hcondition, hpredicate] at h
    cases h with
    | ok h => exact h.symm
  · intro m hids row
    have hboth : ∀ id ∈ m.ids, BothResolve table known id := fun id hid =>
      let ⟨hknown, name, hname, _⟩ := hids id hid
      ⟨hknown, name, hname⟩
    -- the columns keep their names, so one row can stand on both sides
    have hcells : SameCells table m.ids row row := by
      intro id hid name hname
      obtain ⟨_, name', hname', rfl⟩ := hids id hid
      rw [hname] at hname'
      cases hname'
      rfl
    have hS : Filter.KeepsPatterns (Agreement.simulation table known row row) := by
      rintro s _ ⟨⟩
      exact ⟨rfl, rfl, rfl⟩
    exact (Filter.Model.compile_related hS (m.related_refl fun _ => rfl)
      (Agreement.resolves hcells hboth)).symm

/-- Of two columns one has another name in the database. -/
def Agreement.renamed : Table where
  dialect := .sqlite
  name := "items"
  columns := .restricted (Dictionary.ofList
    [("m", ⟨⟨"m", by decide⟩, true, true⟩), ("n", ⟨⟨"amount", by decide⟩, true, false⟩)])

theorem memory_iff_sql_renamed :
    let known : Known := some ["m", "n"]
    let t : Term := .any [.null false "n" .number,
      .all [.compare .greater "n" .number (.number .nan), .like true "m" .coerced "a%", .always]]
    let m : Filter.Model := ⟨[("m", .group (some .or)
      [.single (.object (some .contains) (some "%")) none, .single (.boolean none) none]
      (.text none none))], List.pairwise_singleton ..⟩
    (∃ condition predicate, Backend.build Agreement.renamed.backend t = .ok condition ∧
      Backend.build (Memory.backend known) t = .ok predicate ∧
      ∀ stored row, SameCells Agreement.renamed t.ids stored row →
        (predicate row = true ↔ condition.eval stored = .yes)) ∧
    (∀ row, (m.compile (Memory.backend known)).value row = true ↔
      (m.compile Agreement.renamed.backend).value.eval row = .yes) := by
  intro known t m
  obtain ⟨hterm, hmodel⟩ := memory_iff_sql Agreement.renamed known
  refine ⟨hterm t ?_ fun id hid => ?_, hmodel m fun id hid => ?_⟩
  · exact ⟨trivial, ⟨rfl, .inr rfl, trivial, trivial⟩, trivial⟩
  · have h : id = "n" ∨ id = "m" := by simpa [t, Term.ids, Term.listIds] using hid
    rcases h with rfl | rfl
    · exact ⟨rfl, ⟨"amount", by decide⟩, rfl⟩
    · exact ⟨rfl, ⟨"m", by decide⟩, rfl⟩
  · have h : id = "m" := by simpa [m, Dictionary.ids] using hid
    subst h
    exact ⟨rfl, ⟨"m", by decide⟩, rfl, rfl⟩

end DataGrid.Sql
