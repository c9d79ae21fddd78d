import DataGrid.Proofs.Sql.Binding
import DataGrid.Proofs.Sql.Token

/-!
# The tokens of rendered conditions

The text of a condition is cut into the tokens of its column names, placeholders and fixed words
(`Expr.reads_render`). The placeholders after `bound` parameters carry the numbers from `bound + 1` on.
-/

namespace DataGrid.Sql

namespace Dialect

/-- The question marks among the first `n` placeholders. -/
def marks : Dialect → Nat → Nat
  | postgres, _ => 0
  | duckdb, n | sqlite, n => n

@[simp] theorem marks_zero (dialect : Dialect) : dialect.marks 0 = 0 := by cases dialect <;> rfl

/-- The tokens of the text of a column of any type. -/
def castTokens (column : List Token) : Dialect → List Token
  | duckdb => [.keyword .CAST, .opening] ++ column ++ [.keyword .AS, .keyword .VARCHAR, .closing]
  | postgres => column ++ [.conversion, .keyword .TEXT]
  | sqlite => [.keyword .CAST, .opening] ++ column ++ [.keyword .AS, .keyword .TEXT, .closing]

/-- The tokens of a placeholder for the text of a timestamp. -/
def timestampTokens (placeholder : List Token) : Dialect → List Token
  | duckdb => [.keyword .CAST, .opening] ++ placeholder ++ [.keyword .AS, .keyword .TIMESTAMP, .closing]
  | postgres => placeholder ++ [.conversion, .keyword .TIMESTAMP]
  | sqlite => [.keyword .DATETIME, .opening] ++ placeholder ++ [.closing]

variable {m m' : Nat} {text : String} {ts : List Token}

theorem reads_castText (dialect : Dialect) (h : ReadsApart m text ts m') :
    ReadsApart m (dialect.castText text) (dialect.castTokens ts) m' := by
  have hcast : ReadsOpen m "CAST(" [.keyword .CAST, .opening] m :=
    reads_complete [.keyword .CAST] .opening fun _ => rfl
  have hvarchar : ReadsOpen m' " AS VARCHAR)" [.keyword .AS, .keyword .VARCHAR, .closing] m' :=
    reads_complete [.keyword .AS, .keyword .VARCHAR] .closing fun _ => rfl
  have htext : ReadsOpen m' " AS TEXT)" [.keyword .AS, .keyword .TEXT, .closing] m' :=
    reads_complete [.keyword .AS, .keyword .TEXT] .closing fun _ => rfl
  have hconversion : ReadsApart m' "::TEXT" [.conversion, .keyword .TEXT] m' :=
    reads_phrase [.conversion] (fun _ => rfl) (extend_word "TEXT".toList)
  cases dialect with
  | duckdb => exact (hcast.then h).thenApart hvarchar.apart (beginsApart_cons rfl (by decide))
  | postgres => exact h.thenApart hconversion (beginsApart_cons rfl (by decide))
  | sqlite => exact (hcast.then h).thenApart htext.apart (beginsApart_cons rfl (by decide))

theorem reads_timestamp (dialect : Dialect) (h : ReadsApart m text ts m') :
    ReadsApart m (dialect.timestamp text) (dialect.timestampTokens ts) m' := by
  have hcast : ReadsOpen m "CAST(" [.keyword .CAST, .opening] m :=
    reads_complete [.keyword .CAST] .opening fun _ => rfl
  have htype : ReadsOpen m' " AS TIMESTAMP)" [.keyword .AS, .keyword .TIMESTAMP, .closing] m' :=
    reads_complete [.keyword .AS, .keyword .TIMESTAMP] .closing fun _ => rfl
  have hconversion : ReadsApart m' "::TIMESTAMP" [.conversion, .keyword .TIMESTAMP] m' :=
    reads_phrase [.conversion] (fun _ => rfl) (extend_word "TIMESTAMP".toList)
  have hcall : ReadsOpen m "datetime(" [.keyword .DATETIME, .opening] m :=
    reads_complete [.keyword .DATETIME] .opening fun _ => rfl
  have hclose : ReadsOpen m' ")" [.closing] m' := reads_complete [] .closing fun _ => rfl
  cases dialect with
  | duckdb => exact (hcast.then h).thenApart htype.apart (beginsApart_cons rfl (by decide))
  | postgres => exact h.thenApart hconversion (beginsApart_cons rfl (by decide))
  | sqlite => exact (hcall.then h).thenApart hclose.apart (beginsApart_cons rfl (by decide))

/-- The next placeholder is read with its number. -/
theorem reads_placeholder (dialect : Dialect) (n : Nat) :
    ReadsApart (dialect.marks n) (dialect.placeholder (n + 1)) [.placeholder (n + 1)]
      (dialect.marks (n + 1)) := by
  cases dialect with
  | postgres => exact reads_dollar (n + 1)
  | duckdb | sqlite =>
    have h : ReadsOpen n "?" [.placeholder (n + 1)] (n + 1) := reads_complete [] _ fun _ => rfl
    exact h.apart

end Dialect

theorem Identifier.quote_not_mem (name : Identifier) : '\"' ∉ name.name.toList :=
  Identifier.ne_quote_of_isPlainChars name.plain

/-! ### Columns and placeholders -/

def Column.tokens (dialect : Dialect) (column : Column) : List Token :=
  if column.asText then dialect.castTokens [.name column.name.name] else [.name column.name.name]

theorem Column.reads_text (dialect : Dialect) (column : Column) (m : Nat) :
    ReadsApart m (column.text dialect) (column.tokens dialect) m := by
  have hname : ReadsApart m (quote column.name.name) [.name column.name.name] m :=
    reads_quote (Identifier.quote_not_mem column.name)
  unfold Column.text Column.tokens
  split
  · exact dialect.reads_castText hname
  · exact hname

namespace Expr

/-- The tokens of the placeholder of a value after `bound` others. -/
def placeholderTokens (dialect : Dialect) (bound : Nat) : Value → List Token
  | .dateTime _ => dialect.timestampTokens [.placeholder (bound + 1)]
  | _ => [.placeholder (bound + 1)]

theorem reads_placeholder (dialect : Dialect) (bound : Nat) (value : Value) :
    ReadsApart (dialect.marks bound) (placeholder dialect bound value)
      (placeholderTokens dialect bound value) (dialect.marks (bound + 1)) := by
  have h := dialect.reads_placeholder bound
  cases value with
  | dateTime => exact dialect.reads_timestamp h
  | text | number | bool => exact h

/-! ### Junctions -/

/-- Lists of tokens with a separator between them, in parentheses when there are several. -/
def junctionTokens (separator : Token) (empty : List Token) : List (List Token) → List Token
  | [] => empty
  | [ts] => ts
  | tss => [.opening] ++ [separator].intercalate tss ++ [.closing]

end Expr

/-- Texts that are read one after the other. -/
inductive ReadsEach : Nat → List String → List (List Token) → Nat → Prop
  | nil {m : Nat} : ReadsEach m [] [] m
  | cons {m m' m'' : Nat} {a : String} {ts : List Token} {as : List String} {tss : List (List Token)}
    (h : ReadsApart m a ts m') (hs : ReadsEach m' as tss m'') : ReadsEach m (a :: as) (ts :: tss) m''

namespace ReadsEach

theorem map {α : Type} {f : α → String} {g : α → List Token} {m : Nat}
    (h : ∀ a, ReadsApart m (f a) (g a) m) : ∀ as : List α, ReadsEach m (as.map f) (as.map g) m
  | [] => .nil
  | a :: as => .cons (h a) (map h as)

/-- Texts with a separator between them are read with its token between theirs. -/
theorem intercalate {separator : String} {t : Token} {m' : Nat}
    (hsep : ∀ m, ReadsOpen m separator [t] m) (hfirst : BeginsApart separator) :
    ∀ {as : List String} {tss : List (List Token)} {m : Nat}, ReadsEach m as tss m' → as ≠ [] →
      ReadsApart m (separator.intercalate as) ([t].intercalate tss) m'
  | [], _, _, _, h => absurd rfl h
  | [a], _, _, .cons h .nil, _ => by
    rw [String.intercalate_singleton, List.intercalate_singleton]
    exact h
  | a :: b :: as, _, _, .cons h (.cons h' hs), _ => by
    rw [String.intercalate_cons_cons, List.intercalate_cons_cons]
    have hrest := intercalate hsep hfirst (.cons h' hs) nofun
    exact (h.thenApart (hsep _) hfirst).append hrest fun rest _ => trivial

/-- A junction is read if its separator and its text without parts are. -/
theorem junction {separator empty : String} {t : Token} {ts : List Token} {as : List String}
    {tss : List (List Token)} {m m' : Nat} (hsep : ∀ m, ReadsOpen m separator [t] m)
    (hfirst : BeginsApart separator) (hempty : ∀ m, ReadsApart m empty ts m)
    (h : ReadsEach m as tss m') :
    ReadsApart m (Expr.junction separator empty as) (Expr.junctionTokens t ts tss) m' := by
  match h with
  | .nil => exact hempty m
  | .cons h .nil => exact h
  | .cons h (.cons h' hs) =>
    have hopen : ReadsOpen m "(" [.opening] m := reads_complete [] _ fun _ => rfl
    have hclose : ReadsOpen m' ")" [.closing] m' := reads_complete [] _ fun _ => rfl
    have hparts := intercalate hsep hfirst (.cons h (.cons h' hs)) nofun
    exact (hopen.then hparts).thenApart hclose.apart (beginsApart_cons rfl (by decide))

end ReadsEach

/-! ### Conditions -/

namespace Expr

mutual

/-- The tokens of a condition after `bound` parameters. -/
def tokens (dialect : Dialect) (bound : Nat) : Condition → List Token
  | always => [.number 1, .comparison .equal, .number 1]
  | compare column comparison value =>
    column.tokens dialect ++ [.comparison comparison] ++ placeholderTokens dialect bound value
  | like column pattern negated =>
    column.tokens dialect ++ (if negated then [.keyword .NOT, .keyword .LIKE] else [.keyword .LIKE])
      ++ placeholderTokens dialect bound (.text pattern) ++ [.keyword .ESCAPE, .literal "\\"]
  | null column negated =>
    column.tokens dialect ++
      (if negated then [.keyword .IS, .keyword .NOT, .keyword .NULL] else [.keyword .IS, .keyword .NULL])
  | all parts =>
    junctionTokens (.keyword .AND) [.number 1, .comparison .equal, .number 1]
      (tokensList dialect bound parts)
  | any parts =>
    junctionTokens (.keyword .OR) [.number 1, .comparison .equal, .number 0]
      (tokensList dialect bound parts)

def tokensList (dialect : Dialect) (bound : Nat) : List Condition → List (List Token)
  | [] => []
  | part :: parts =>
    part.tokens dialect bound :: tokensList dialect (bound + part.parameters.length) parts

end

mutual

/-- The text of a condition is read as its tokens. -/
theorem reads_render (dialect : Dialect) :
    ∀ (bound : Nat) (e : Condition), ReadsApart (dialect.marks bound)
      (e.render dialect (Column.text dialect) bound) (e.tokens dialect bound)
      (dialect.marks (bound + e.parameters.length))
  | bound, always => by
    rw [render, tokens, parameters]
    exact reads_phrase [.number 1, .comparison .equal] (fun _ => rfl) (extend_number 1)
  | bound, compare column comparison value => by
    -- blanks have no token, so the tokens of the three parts follow each other
    have hspace : ∀ m, ReadsOpen m " " [] m := fun _ _ _ => rfl
    have hcolumn := (column.reads_text dialect _).thenApart (hspace (dialect.marks bound))
      (beginsApart_cons rfl (by decide))
    have hcomparison := (hcolumn.then (reads_comparison comparison)).thenApart (hspace _)
      (beginsApart_cons rfl (by decide))
    rw [List.append_nil, List.append_nil] at hcomparison
    rw [render, tokens, parameters]
    exact hcomparison.then (reads_placeholder dialect bound value)
  | bound, like column pattern negated => by
    have hlike : ReadsOpen (dialect.marks bound) (if negated then " NOT LIKE " else " LIKE ")
        (if negated then [.keyword .NOT, .keyword .LIKE] else [.keyword .LIKE])
        (dialect.marks bound) := by
      cases negated <;> exact fun _ _ => rfl
    have hescape : ReadsApart (dialect.marks (bound + 1)) " ESCAPE '\\'"
        [.keyword .ESCAPE, .literal "\\"] (dialect.marks (bound + 1)) :=
      reads_phrase [.keyword .ESCAPE] (fun _ => rfl) (extend_closed (.inr rfl) ['\\'])
    have hcolumn := (column.reads_text dialect _).thenApart hlike
      (by cases negated <;> exact beginsApart_cons rfl (by decide))
    rw [render, tokens, parameters]
    exact (hcolumn.then (reads_placeholder dialect bound (.text pattern))).thenApart hescape
      (beginsApart_cons rfl (by decide))
  | bound, null column negated => by
    have hnull : ReadsApart (dialect.marks bound) (if negated then " IS NOT NULL" else " IS NULL")
        (if negated then [.keyword .IS, .keyword .NOT, .keyword .NULL]
          else [.keyword .IS, .keyword .NULL]) (dialect.marks bound) := by
      cases negated with
      | false => exact reads_phrase [.keyword .IS] (fun _ => rfl) (extend_word "NULL".toList)
      | true =>
        exact reads_phrase [.keyword .IS, .keyword .NOT] (fun _ => rfl) (extend_word "NULL".toList)
    rw [render, tokens, parameters]
    exact (column.reads_text dialect _).thenApart hnull
      (by cases negated <;> exact beginsApart_cons rfl (by decide))
  | bound, all parts => by
    have hsep : ∀ m, ReadsOpen m " AND " [.keyword .AND] m := fun _ _ _ => rfl
    have hempty : ∀ m, ReadsApart m "1=1" [.number 1, .comparison .equal, .number 1] m := fun _ =>
      reads_phrase [.number 1, .comparison .equal] (fun _ => rfl) (extend_number 1)
    rw [render, tokens, parameters]
    exact (reads_renderList dialect bound parts).junction hsep (beginsApart_cons rfl (by decide)) hempty
  | bound, any parts => by
    have hsep : ∀ m, ReadsOpen m " OR " [.keyword .OR] m := fun _ _ _ => rfl
    have hempty : ∀ m, ReadsApart m "1=0" [.number 1, .comparison .equal, .number 0] m := fun _ =>
      reads_phrase [.number 1, .comparison .equal] (fun _ => rfl) (extend_number 0)
    rw [render, tokens, parameters]
    exact (reads_renderList dialect bound parts).junction hsep (beginsApart_cons rfl (by decide)) hempty

theorem reads_renderList (dialect : Dialect) :
    ∀ (bound : Nat) (parts : List Condition), ReadsEach (dialect.marks bound)
      (renderList dialect (Column.text dialect) bound parts) (tokensList dialect bound parts)
      (dialect.marks (bound + (listParameters parts).length))
  | bound, [] => .nil
  | bound, part :: parts => by
    have h := reads_renderList dialect (bound + part.parameters.length) parts
    rw [Nat.add_assoc, ← List.length_append] at h
    exact .cons (reads_render dialect bound part) h

end

end Expr

end DataGrid.Sql
