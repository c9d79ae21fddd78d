import DataGrid.Proofs.Filter.Leaves
import DataGrid.Proofs.Like.Escaping
import DataGrid.Proofs.Sql.Parameters

/-!
# Patterns in conditions

Each pattern in the condition that a filter model comes to is that of a search in the model: it carries
the value of the search between the wildcards of the search and has no other wildcards
(`patterns_of_compile`).
-/

namespace DataGrid

namespace Sql

namespace Expr

variable {κ : Type} {leaf : Expr κ} {parts : List (Expr κ)}

theorem mem_listLeaves : leaf ∈ listLeaves parts ↔ ∃ part ∈ parts, leaf ∈ part.leaves := by
  induction parts with
  | nil => simp [listLeaves]
  | cons part parts ih => simp [listLeaves, ih]

theorem forall_mem_listLeaves {P : Expr κ → Prop} (h : ∀ part ∈ parts, ∀ leaf ∈ part.leaves, P leaf) :
    ∀ leaf ∈ listLeaves parts, P leaf := by
  intro leaf hleaf
  obtain ⟨part, hpart, hleaf⟩ := mem_listLeaves.1 hleaf
  exact h part hpart leaf hleaf

end Expr

open DataGrid.Filter (Search Condition.Searches)

namespace Table

variable (table : Table) (m : Filter.Model)

/-- The leaf is no pattern, or that of a search in the filter model. -/
def IsSearched (leaf : Condition) : Prop :=
  ∀ column pattern negated, leaf = .like column pattern negated →
    ∃ entry ∈ m.entries, ∃ c ∈ entry.2.conditions, ∃ (search : Search) (value : String),
      c.Searches search value ∧ (∃ kind, table.backend.column entry.1 kind = .ok column) ∧
        negated = decide (search = .notContains) ∧ search.Carries value pattern

/-- So is each leaf of the condition. -/
def Searched (condition : Condition) : Prop := ∀ leaf ∈ condition.leaves, table.IsSearched m leaf

variable {table m}

theorem searched_of_ne_like {leaf : Condition} (hleaf : leaf.leaves = [leaf])
    (h : ∀ column pattern negated, leaf ≠ .like column pattern negated) : table.Searched m leaf := by
  rw [Searched, hleaf, List.forall_mem_singleton]
  intro column pattern negated hlike
  exact absurd hlike (h column pattern negated)

theorem searched_always : table.Searched m .always :=
  searched_of_ne_like (by rw [Expr.leaves]) nofun

theorem searched_all {parts : List Condition} (h : ∀ part ∈ parts, table.Searched m part) :
    table.Searched m (.all parts) := by
  rw [Searched, Expr.leaves]
  exact Expr.forall_mem_listLeaves h

theorem searched_any {parts : List Condition} (h : ∀ part ∈ parts, table.Searched m part) :
    table.Searched m (.any parts) := by
  rw [Searched, Expr.leaves]
  exact Expr.forall_mem_listLeaves h

theorem keptByJoins_searched : Filter.KeptByJoins table.backend (table.Searched m) where
  all _ := Expr.conj_of_forall searched_always fun _ => searched_all
  any _ := Expr.disj_of_forall searched_always fun _ => searched_any
  always := searched_always

/-- Only a search gives a pattern, and gives it for its value. -/
theorem holdsOfLeaves_searched {entry : String × Filter.Node} (hentry : entry ∈ m.entries)
    {c : Filter.Condition} (hc : c ∈ entry.2.conditions) :
    c.HoldsOfLeaves table.backend (table.Searched m) entry.1 where
  compare _ _ _ _ := searched_of_ne_like (by rw [Table.backend, Expr.leaves]) nofun
  search hcolumn search value hsearch p h := by
    obtain ⟨pattern, hcarries, hcompile⟩ := search.exists_compile table.backend _ value
    rw [hcompile] at h
    cases h
    refine List.forall_mem_singleton.2 ?_
    rintro column pattern negated ⟨⟩
    exact ⟨entry, hentry, c, hc, search, value, hsearch, ⟨_, hcolumn⟩, rfl, hcarries⟩
  null _ _ := searched_of_ne_like (by rw [Table.backend, Expr.leaves]) nofun

theorem searched_compile (table : Table) (m : Filter.Model) :
    table.Searched m (m.compile table.backend).value :=
  Filter.Model.compile_of_leaves keptByJoins_searched fun _ hentry _ hc => holdsOfLeaves_searched hentry hc

end Table

/-- The patterns that a filter model is compiled to carry the values of its searches. A pattern is read
piece by piece without a backslash that escapes nothing, its only wildcards are those that the search puts
around the value, and the other characters are those of the value, in their order. Under one test no two
values have the same pattern. -/
theorem patterns_of_compile :
    (∀ (table : Table) (m : Filter.Model) (column : Column) (pattern : String) (negated : Bool),
      Expr.like column pattern negated ∈ (m.compile table.backend).value.leaves →
        ∃ entry ∈ m.entries, ∃ c ∈ entry.2.conditions, ∃ (search : Search) (value : String),
          c.Searches search value ∧ (∃ kind, table.backend.column entry.1 kind = .ok column) ∧
            negated = decide (search = .notContains) ∧
            ∃ body, Like.scan? pattern.toList = some (search.front ++ body ++ search.back) ∧
              (∀ piece ∈ body, ¬ piece.IsWildcard) ∧ body.map Like.Piece.char = value.toList) ∧
    (∀ (table : Table) (column column' : Column) (test : Filter.TextTest) (value value' pattern : String)
        (negated : Bool),
      test.compile table.backend column value = some (.like column pattern negated) →
        test.compile table.backend column' value' = some (.like column' pattern negated) →
          value = value') := by
  constructor
  · intro table m column pattern negated hleaf
    exact table.searched_compile m _ hleaf column pattern negated rfl
  · intro table column column' test value value' pattern negated h h'
    have hunique (search : Search) (htest : test = search.test) : value = value' := by
      obtain ⟨p, hcarries, hp⟩ := search.exists_compile table.backend column value
      obtain ⟨p', hcarries', hp'⟩ := search.exists_compile table.backend column' value'
      subst htest
      rw [hp] at h
      rw [hp'] at h'
      cases h
      cases h'
      exact hcarries.unique hcarries'
    cases test with
    | contains => exact hunique .contains rfl
    | notContains => exact hunique .notContains rfl
    | startsWith => exact hunique .startsWith rfl
    | endsWith => exact hunique .endsWith rfl
    | equals | notEqual | blank | notBlank | unknown => cases h

/-- A value that ends in a backslash and would escape the wildcard behind it. -/
theorem patterns_of_compile_backslash :
    let table : Table := ⟨.duckdb, "items", .permissive⟩
    let m : Filter.Model := ⟨[("c", .group (some .or)
      [.single (.text (some .equals) (some "%")) none,
        .single (.object (some .notContains) (some "50%\\")) none]
      (.text none none))], List.pairwise_singleton ..⟩
    let column : Column := ⟨⟨"c", by decide⟩, true⟩
    (Expr.like column "%50\\%\\\\%" true ∈ (m.compile table.backend).value.leaves ∧
        ∃ entry ∈ m.entries, ∃ c ∈ entry.2.conditions, ∃ (search : Search) (value : String),
          c.Searches search value ∧ (∃ kind, table.backend.column entry.1 kind = .ok column) ∧
            true = decide (search = .notContains) ∧
            ∃ body, Like.scan? "%50\\%\\\\%".toList = some (search.front ++ body ++ search.back) ∧
              (∀ piece ∈ body, ¬ piece.IsWildcard) ∧ body.map Like.Piece.char = value.toList) ∧
      Filter.TextTest.notContains.compile table.backend column "50%\\" =
        some (.like column "%50\\%\\\\%" true) ∧
      "50%\\" = "50%\\" := by
  intro table m column
  have hleaf : Expr.like column "%50\\%\\\\%" true ∈ (m.compile table.backend).value.leaves :=
    .tail _ (.head _)
  have hcompile : Filter.TextTest.notContains.compile table.backend column "50%\\" =
      some (.like column "%50\\%\\\\%" true) := rfl
  exact ⟨⟨hleaf, patterns_of_compile.1 table m column _ true hleaf⟩, hcompile,
    patterns_of_compile.2 table column column _ _ _ _ true hcompile hcompile⟩

end Sql

end DataGrid
