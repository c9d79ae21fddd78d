import DataGrid.Proofs.Sql.NormalForm
import DataGrid.Proofs.Sql.Words

/-!
# Restrictions in statements

The text of a condition in normal form has no `1=1` in it, since each equals sign is that of a comparison, with a
blank behind it, or that of `1=0` (`Guarded`). As the condition of a filter model is in normal form or always
true, a statement has a `WHERE` exactly if its condition is not always true, and `1=1` at most as a part of the
name of its table (`select_restricted`).
-/

namespace DataGrid.Sql

/-! ### Equals signs -/

/-- Behind each equals sign there is a blank or a zero. -/
inductive Guarded : List Char → Prop
  | nil : Guarded []
  | other {c : Char} {cs : List Char} (hc : c ≠ '=') (h : Guarded cs) : Guarded (c :: cs)
  | equal {c : Char} {cs : List Char} (hc : c = ' ' ∨ c = '0') (h : Guarded (c :: cs)) : Guarded ('=' :: c :: cs)

namespace Guarded

variable {a b : List Char}

theorem of_not_mem : ∀ {cs : List Char}, '=' ∉ cs → Guarded cs
  | [], _ => .nil
  | c :: cs, h => by
    rw [List.mem_cons, not_or] at h
    exact .other (Ne.symm h.1) (of_not_mem h.2)

theorem append (ha : Guarded a) (hb : Guarded b) : Guarded (a ++ b) := by
  induction ha with
  | nil => exact hb
  | other hc _ ih => exact .other hc ih
  | equal hc _ ih => exact .equal hc ih

theorem not_infix (h : Guarded a) : ¬ ['=', '1'] <:+: a := by
  induction h with
  | nil => decide
  | other hc _ ih =>
    rw [List.infix_cons_iff, not_or]
    refine ⟨fun hprefix => hc ?_, ih⟩
    exact (List.cons_prefix_cons.1 hprefix).1.symm
  | equal hc _ ih =>
    rw [List.infix_cons_iff, not_or]
    refine ⟨fun hprefix => ?_, ih⟩
    have hone := (List.cons_prefix_cons.1 (List.cons_prefix_cons.1 hprefix).2).1
    rcases hc with rfl | rfl <;> exact absurd hone (by decide)

theorem not_infix_always (h : Guarded a) : ¬ "1=1".toList <:+: a := fun halways =>
  h.not_infix (.trans (by decide) halways)

end Guarded

theorem Wordy.guarded {text : String} (h : Wordy text) : Guarded text.toList := .of_not_mem (h.not_mem (by decide))

theorem guarded_append {a b : String} (ha : Guarded a.toList) (hb : Guarded b.toList) : Guarded (a ++ b).toList := by
  rw [String.toList_append]
  exact ha.append hb

/-! ### Conditions -/

namespace Expr

theorem guarded_placeholder (dialect : Dialect) (bound : Nat) (value : Value) :
    Guarded (placeholder dialect bound value).toList := by
  have hplaceholder : Guarded (dialect.placeholder (bound + 1)).toList := by
    cases dialect with
    | postgres => exact guarded_append (.of_not_mem (by decide)) (wordy_toString (bound + 1)).guarded
    | duckdb | sqlite => exact (.of_not_mem (by decide) : Guarded "?".toList)
  cases value with
  | dateTime d =>
    cases dialect with
    | postgres => exact guarded_append hplaceholder (.of_not_mem (by decide))
    | duckdb | sqlite =>
      exact guarded_append (guarded_append (.of_not_mem (by decide)) hplaceholder) (.of_not_mem (by decide))
  | text | number | bool => exact hplaceholder

theorem guarded_comparison (comparison : Comparison) : Guarded (comparison.symbol ++ " ").toList := by
  have hblank : Guarded ['=', ' '] := .equal (.inl rfl) (.of_not_mem (by decide))
  cases comparison with
  | equal =>
    have htext : (Comparison.equal.symbol ++ " ").toList = ['=', ' '] := by decide
    rw [htext]
    exact hblank
  | lessOrEqual =>
    have htext : (Comparison.lessOrEqual.symbol ++ " ").toList = ['<', '=', ' '] := by decide
    rw [htext]
    exact .other (by decide) hblank
  | greaterOrEqual =>
    have htext : (Comparison.greaterOrEqual.symbol ++ " ").toList = ['>', '=', ' '] := by decide
    rw [htext]
    exact .other (by decide) hblank
  | notEqual | less | greater => exact .of_not_mem (by decide)

theorem guarded_never : Guarded "1=0".toList := by
  have htext : "1=0".toList = ['1', '=', '0'] := by decide
  rw [htext]
  exact .other (by decide) (.equal (.inr rfl) (.of_not_mem (by decide)))

theorem guarded_junction {separator empty : String} {texts : List String} (hseparator : Guarded separator.toList)
    (hempty : texts = [] → Guarded empty.toList) (h : ∀ text ∈ texts, Guarded text.toList) :
    Guarded (junction separator empty texts).toList := by
  match texts with
  | [] => exact hempty rfl
  | [a] => exact h a (List.mem_singleton_self a)
  | a :: b :: texts =>
    have hparts : Guarded (separator.intercalate (a :: b :: texts)).toList :=
      intercalate_closed .nil guarded_append hseparator h
    exact guarded_append (guarded_append (.of_not_mem (by decide)) hparts) (.of_not_mem (by decide))

section
variable {κ : Type} {dialect : Dialect} {columnText : κ → String}

theorem exists_of_mem_renderList {text : String} : ∀ {bound : Nat} {parts : List (Expr κ)},
    text ∈ renderList dialect columnText bound parts →
      ∃ part ∈ parts, ∃ bound', text = part.render dialect columnText bound'
  | _, [], h => nomatch h
  | bound, part :: parts, h => by
    rw [renderList] at h
    rcases List.mem_cons.1 h with rfl | h
    · exact ⟨part, List.mem_cons_self, bound, rfl⟩
    · obtain ⟨part', hpart', htext⟩ := exists_of_mem_renderList h
      exact ⟨part', List.mem_cons_of_mem _ hpart', htext⟩

end

/-- Only what is always true is written as `1=1`, and a condition in normal form has no such part. -/
theorem Normal.guarded_render {e : Condition} (h : e.Normal) (dialect : Dialect) :
    ∀ bound, Guarded (e.render dialect (Column.text dialect) bound).toList := by
  induction h with
  | compare column comparison value =>
    intro bound
    have hcolumn : Guarded (column.text dialect ++ " ").toList :=
      guarded_append (column.wordy_text dialect).guarded (.of_not_mem (by decide))
    have htext : column.text dialect ++ " " ++ comparison.symbol ++ " " =
        column.text dialect ++ " " ++ (comparison.symbol ++ " ") := String.append_assoc
    rw [render, htext]
    exact guarded_append (guarded_append hcolumn (guarded_comparison comparison))
      (guarded_placeholder dialect bound value)
  | like column pattern negated =>
    intro bound
    rw [render]
    have hlike : Guarded (if negated then " NOT LIKE " else " LIKE ").toList := by
      cases negated <;> exact .of_not_mem (by decide)
    exact guarded_append (guarded_append (guarded_append (column.wordy_text dialect).guarded hlike)
      (guarded_placeholder dialect bound _)) (.of_not_mem (by decide))
  | null column negated =>
    intro bound
    rw [render]
    refine guarded_append (column.wordy_text dialect).guarded ?_
    cases negated <;> exact .of_not_mem (by decide)
  | @all parts hlength hnormal ih =>
    intro bound
    rw [render]
    refine guarded_junction (.of_not_mem (by decide)) (fun hnone => ?_) fun text htext => ?_
    · match parts with
      | [] => exact absurd hlength (by decide)
      | part :: rest => cases hnone
    · obtain ⟨part, hpart, bound', rfl⟩ := exists_of_mem_renderList htext
      exact ih part hpart bound'
  | @any parts hnormal ih =>
    intro bound
    rw [render]
    refine guarded_junction (.of_not_mem (by decide)) (fun _ => guarded_never) fun text htext => ?_
    obtain ⟨part, hpart, bound', rfl⟩ := exists_of_mem_renderList htext
    exact ih part hpart bound'

end Expr

/-! ### Statements -/

/-- What has not a certain character stands on one side of it. -/
theorem infix_of_infix_append_cons {α : Type} {l a b : List α} {c : α} (hc : c ∉ l) (h : l <:+: a ++ c :: b) :
    l <:+: a ∨ l <:+: b := by
  obtain ⟨s, t, heq⟩ := h
  rcases List.append_eq_append_iff.1 heq with ⟨x, ha, ht⟩ | ⟨x, hs, hb⟩
  · exact .inl ⟨s, x, ha.symm⟩
  cases x with
  | nil => exact .inl ⟨s, [], by rw [List.append_nil, hs, List.append_nil]⟩
  | cons d x =>
    obtain ⟨rfl, rfl⟩ := List.cons.inj hb
    -- what is found does not reach back to the character
    rcases List.append_eq_append_iff.1 hs with ⟨y, ha, hl⟩ | ⟨y, ha, hl⟩
    · exact absurd (hl ▸ List.mem_append_right y List.mem_cons_self) hc
    · cases y with
      | nil =>
        rw [List.nil_append] at hl
        exact absurd (hl ▸ List.mem_cons_self) hc
      | cons e y =>
        have hx : x = y ++ l := (List.cons.inj hl).2
        rw [hx]
        exact .inr ⟨y, t, rfl⟩

namespace Table

variable (table : Table)

/-- What stands behind the name of the table. -/
def clauses (query : Query Condition) (order : Option String) : String :=
  clause " WHERE " (table.restriction query.predicate).1 ++ clause " ORDER BY " order
    ++ clause " " (query.page.map fun page => limitOffset page.size.toNat page.offset.toNat)

theorem sql_statement (query : Query Condition) (order : Option String) :
    (table.statement query order).sql = "SELECT * FROM " ++ quote table.name ++ table.clauses query order := by
  rw [clauses, ← String.append_assoc, ← String.append_assoc]
  rfl

theorem restriction_always : (table.restriction .always).1 = none := rfl

theorem restriction_of_ne {condition : Condition} (h : condition ≠ .always) : (table.restriction condition).1 =
    some (condition.render table.dialect (Column.text table.dialect) 0) := by
  rw [restriction_eq, if_neg fun halways => h (Expr.eq_always_of_isAlways halways)]

theorem guarded_restriction {condition : Condition} (h : condition = .always ∨ condition.Normal) :
    ∀ text ∈ (table.restriction condition).1, Guarded text.toList := by
  rintro text htext
  by_cases halways : condition = .always
  · subst halways
    cases htext
  · rw [table.restriction_of_ne halways] at htext
    cases htext
    exact (h.resolve_left halways).guarded_render table.dialect 0

theorem guarded_clauses (query : Query Condition) (sort : List Sort.Key)
    (h : query.predicate = .always ∨ query.predicate.Normal) :
    Guarded (table.clauses query (table.orderBy sort).value).toList := by
  have hwhere : Guarded " WHERE ".toList := .of_not_mem (by decide)
  have horder : Guarded " ORDER BY ".toList := .of_not_mem (by decide)
  have hblank : Guarded " ".toList := .of_not_mem (by decide)
  have hpage : ∀ text ∈ query.page.map fun page => limitOffset page.size.toNat page.offset.toNat,
      Guarded text.toList := by
    intro text htext
    obtain ⟨page, -, rfl⟩ := Option.map_eq_some_iff.1 htext
    exact (wordy_limitOffset _ _).guarded
  have hclause {keyword : String} (hkeyword : Guarded keyword.toList) {body : Option String}
      (hbody : ∀ text ∈ body, Guarded text.toList) : Guarded (clause keyword body).toList :=
    clause_closed .nil guarded_append hkeyword hbody
  exact guarded_append (guarded_append (hclause hwhere (table.guarded_restriction h))
    (hclause horder fun text htext => (table.wordy_orderBy sort text htext).guarded)) (hclause hblank hpage)

theorem not_prefix_append {keyword other rest : String}
    (h : ¬ keyword.toList <+: other.toList ∧ ¬ other.toList <+: keyword.toList) :
    ¬ keyword.toList <+: (other ++ rest).toList := by
  intro hprefix
  rw [String.toList_append] at hprefix
  exact (List.prefix_or_prefix_of_prefix hprefix (List.prefix_append _ _)).elim h.1 h.2

theorem clause_limitOffset (limit offset : Nat) : clause " " (some (limitOffset limit offset)) =
    " LIMIT " ++ (toString limit ++ (" OFFSET " ++ toString offset)) := by
  have hlimit : " " ++ "LIMIT " = " LIMIT " := by decide
  rw [clause, limitOffset, String.append_assoc, String.append_assoc, ← String.append_assoc, hlimit]

/-- A `WHERE` stands behind the name of the table exactly if not all rows are asked for. -/
theorem where_prefix_clauses_iff (query : Query Condition) (order : Option String) :
    " WHERE ".toList <+: (table.clauses query order).toList ↔ query.predicate ≠ .always := by
  constructor
  · rintro hwhere halways
    obtain ⟨predicate, sort, page⟩ := query
    obtain rfl : predicate = .always := halways
    rw [clauses, restriction_always, clause, String.empty_append] at hwhere
    cases order with
    | some order =>
      rw [clause, String.append_assoc] at hwhere
      exact not_prefix_append (by decide) hwhere
    | none =>
      cases page with
      | some page =>
        rw [Option.map_some, clause_limitOffset, clause, String.empty_append] at hwhere
        exact not_prefix_append (by decide) hwhere
      | none =>
        have hempty : ¬ " WHERE ".toList <+: (clause " ORDER BY " none ++ clause " " none).toList := by decide
        exact hempty hwhere
  · intro hne
    rw [clauses, table.restriction_of_ne hne, clause, String.append_assoc, String.append_assoc, String.toList_append]
    exact List.prefix_append _ _

/-- A table's name may be any text, and only there `1=1` can be found. -/
theorem infix_sql_iff (name rest : String) (hrest : Guarded rest.toList) :
    "1=1".toList <:+: ("SELECT * FROM " ++ quote name ++ rest).toList ↔ "1=1".toList <:+: name.toList := by
  have hsql : ("SELECT * FROM " ++ quote name ++ rest).toList =
      "SELECT * FROM ".toList ++ '\"' :: (name.toList ++ '\"' :: rest.toList) := by
    have hquote : "\"".toList = ['\"'] := by decide
    simp only [quote, String.toList_append, hquote, List.append_assoc, List.cons_append, List.nil_append]
  rw [hsql]
  constructor
  · intro h
    rcases infix_of_infix_append_cons (by decide) h with hselect | h
    · exact absurd hselect (Guarded.not_infix_always (.of_not_mem (by decide)))
    rcases infix_of_infix_append_cons (by decide) h with hname | h
    · exact hname
    · exact absurd h hrest.not_infix_always
  · intro h
    have hbehind : name.toList <:+: '\"' :: (name.toList ++ '\"' :: rest.toList) :=
      ⟨['\"'], '\"' :: rest.toList, by simp⟩
    exact h.trans (hbehind.trans (List.suffix_append _ _).isInfix)

/-- The condition of a filter model is always true itself or has no part that is and no conjunction of fewer than
two parts. So a statement with it has a `WHERE` behind the name of the table exactly if it is not always true, and
`1=1` nowhere but in that name, and there not if it is plain. -/
theorem select_restricted (m : Filter.Model) (sort : List Sort.Key) (page : Option Page) :
    let condition := (m.compile table.backend).value
    let sql := (table.select ⟨condition, sort, page⟩).value.sql
    (condition = .always ∨ condition.Normal) ∧
    (∃ rest, sql = "SELECT * FROM " ++ quote table.name ++ rest ∧
      (" WHERE ".toList <+: rest.toList ↔ condition ≠ .always) ∧ ¬ "1=1".toList <:+: rest.toList) ∧
    ("1=1".toList <:+: sql.toList ↔ "1=1".toList <:+: table.name.toList) ∧
    (Identifier.isPlain table.name = true → ¬ "1=1".toList <:+: sql.toList) := by
  intro condition sql
  have hnormal : condition = .always ∨ condition.Normal := m.compile_invariant table.normalForm fun _ _ _ _ _ => trivial
  have hguarded := table.guarded_clauses ⟨condition, sort, page⟩ sort hnormal
  have hsql : sql = "SELECT * FROM " ++ quote table.name ++
      table.clauses ⟨condition, sort, page⟩ (table.orderBy sort).value := table.sql_statement _ _
  have hname : "1=1".toList <:+: sql.toList ↔ "1=1".toList <:+: table.name.toList :=
    hsql ▸ infix_sql_iff table.name _ hguarded
  refine ⟨hnormal, ⟨_, hsql, table.where_prefix_clauses_iff _ _, hguarded.not_infix_always⟩, hname, fun hplain => ?_⟩
  have hguarded' : Guarded table.name.toList :=
    .of_not_mem fun hequal => absurd (isRest_of_mem ⟨table.name, hplain⟩ _ hequal) (by decide)
  exact fun hone => hguarded'.not_infix_always (hname.1 hone)

/-- A group without tests is always true, and so is the disjunction that it is a part of. -/
theorem select_restricted_collapsed :
    let table : Table := ⟨.duckdb, "items", .permissive⟩
    let m : Filter.Model := ⟨[("name", .group (some .or)
      [.group (some .and) [.single (.text none none) none] (.text none none),
        .single (.text (some .contains) (some "1=1")) none] (.text none none))], List.pairwise_singleton ..⟩
    let condition := (m.compile table.backend).value
    let sql := (table.select ⟨condition, [], none⟩).value.sql
    condition = .always ∧ Identifier.isPlain table.name = true ∧ ¬ "1=1".toList <:+: sql.toList ∧
      ∃ rest, sql = "SELECT * FROM " ++ quote table.name ++ rest ∧ ¬ " WHERE ".toList <+: rest.toList := by
  intro table m condition sql
  have halways : condition = .always := Expr.eq_always_of_isAlways (by decide)
  have hplain : Identifier.isPlain table.name = true := by decide
  obtain ⟨-, ⟨rest, hsql, hwhere, -⟩, -, hone⟩ := select_restricted table m [] none
  exact ⟨halways, hplain, hone hplain, rest, hsql, fun h => hwhere.1 h halways⟩

end Table

end DataGrid.Sql
