import DataGrid.Proofs.Sql.Grammar
import Mathlib.Data.List.Forall2

/-!
# Reading rendered conditions back

The text of a condition in normal form is read back as a condition that means the same, whatever is
nested in it. Each part is read back as a factor (`ReadsBack`): either it is an atom, or it stands in
parentheses.
-/

namespace DataGrid.Sql

/-! ### Columns and placeholders -/

namespace Dialect

theorem readColumn_tokens (dialect : Dialect) (column : Column) {rest : List Token}
    (hrest : rest.head? ≠ some .conversion) :
    dialect.readColumn (column.tokens dialect ++ rest) = some (column.reference, rest) := by
  obtain ⟨name, asText⟩ := column
  cases asText with
  | true => cases dialect <;> rfl
  | false =>
    cases dialect with
    | duckdb | sqlite => rfl
    | postgres =>
      show readColumn postgres (.name name.name :: rest) = some (⟨name.name, false⟩, rest)
      unfold readColumn
      split <;> simp_all

end Dialect

/-- The place of a value that is bound after `bound` others. -/
def Expr.slot (bound : Nat) (value : Value) : Slot := ⟨bound + 1, value.kind = .dateTime⟩

theorem Dialect.readSlot_tokens (dialect : Dialect) (bound : Nat) (value : Value) (rest : List Token)
    (hrest : rest.head? ≠ some .conversion) :
    dialect.readSlot (Expr.placeholderTokens dialect bound value ++ rest) =
      some (Expr.slot bound value, rest) := by
  cases value with
  | dateTime d => cases dialect <;> rfl
  | text | number | bool =>
    cases dialect with
    | duckdb | sqlite => rfl
    | postgres =>
      show readSlot postgres (.placeholder (bound + 1) :: rest) = some (⟨bound + 1, false⟩, rest)
      unfold readSlot
      split <;> simp_all

theorem Expr.value?_slot {parameters : List Value} {bound : Nat} {value : Value}
    (h : parameters[bound]? = some value) : (slot bound value).value? parameters = some value := by
  cases value <;> simp [slot, Slot.value?, Value.kind, h]

/-! ### Chains and groups -/

namespace Clause

variable {dialect : Dialect} {ts rest : List Token} {c : Clause}

theorem readAtom_of_readColumn {column : Reference} (h : dialect.readColumn ts = some (column, rest)) :
    readAtom dialect ts = readTest dialect column rest := by
  unfold readAtom
  rw [h]

/-- An atom is a factor: no atom begins with a parenthesis. -/
theorem readFactor_of_readAtom {n : Nat} (hn : 0 < n) (h : readAtom dialect ts = some (c, rest)) :
    readFactor dialect n ts = some (c, rest) := by
  obtain ⟨n, rfl⟩ := Nat.exists_eq_add_one.2 hn
  have hopening : ∀ us, ts = .opening :: us → False := by
    rintro us rfl
    have hcolumn : dialect.readColumn (.opening :: us) = none := by cases dialect <;> rfl
    unfold readAtom at h
    rw [hcolumn] at h
    cases h
  rw [readFactor, h]
  exact hopening

/-- Conditions joined from the right. -/
def chain (join : Clause → Clause → Clause) : Clause → List Clause → Clause
  | c, [] => c
  | c, c' :: cs => join c (chain join c' cs)

section
variable {separator : Token} {join : Clause → Clause → Clause} {read : Reader Clause}

theorem readChain_single {n : Nat} (hn : 0 < n) (h : read ts = some (c, rest))
    (hstop : rest.head? ≠ some separator) : readChain separator join read n ts = some (c, rest) := by
  obtain ⟨n, rfl⟩ := Nat.exists_eq_add_one.2 hn
  rw [readChain, h]
  exact if_neg hstop

/-- A chain is read if each of its parts is read before the separator and before what follows. -/
theorem readChain_intercalate {P : List Token → Prop} (hP : ∀ ts, P (separator :: ts)) (hrest : P rest)
    (hstop : rest.head? ≠ some separator) :
    ∀ {tss : List (List Token)} {c : Clause} {cs : List Clause} {n : Nat},
      List.Forall₂ (fun ts c => ∀ rest, P rest → read (ts ++ rest) = some (c, rest)) tss (c :: cs) →
      tss.length ≤ n →
      readChain separator join read n ([separator].intercalate tss ++ rest) =
        some (chain join c cs, rest)
  | [ts], c, [], n + 1, .cons h .nil, _ => by
    rw [List.intercalate_singleton]
    exact readChain_single (Nat.succ_pos n) (h rest hrest) hstop
  | ts :: ts' :: tss, c, c' :: cs, n + 1, .cons h hs, hn => by
    have htail : readChain separator join read n ([separator].intercalate (ts' :: tss) ++ rest) =
        some (chain join c' cs, rest) :=
      readChain_intercalate hP hrest hstop hs (Nat.le_of_succ_le_succ hn)
    rw [List.intercalate_cons_cons, List.append_assoc, List.append_assoc, List.singleton_append,
      readChain, h _ (hP _)]
    simp only [List.head?_cons, if_true, List.tail_cons, htail]
    rfl

end

/-- What may follow a factor: no conversion, which would belong to it. -/
def AfterFactor (rest : List Token) : Prop := rest.head? ≠ some .conversion

/-- What may follow a conjunction. -/
def AfterConjunction (rest : List Token) : Prop := AfterFactor rest ∧ rest.head? ≠ some (.keyword .AND)

/-- What may follow a condition. -/
def AfterJunctions (rest : List Token) : Prop :=
  AfterConjunction rest ∧ rest.head? ≠ some (.keyword .OR)

variable {factor : Reader Clause} {tss : List (List Token)} {cs : List Clause} {n : Nat}

theorem readJunctions_and (hrest : AfterJunctions rest) (hn : tss.length ≤ n)
    (h : List.Forall₂ (fun ts c => ∀ rest, AfterFactor rest → factor (ts ++ rest) = some (c, rest)) tss
      (c :: cs)) :
    readJunctions factor n ([.keyword .AND].intercalate tss ++ rest) =
      some (chain .and c cs, rest) := by
  have hpos : 0 < n := Nat.lt_of_lt_of_le (h.length_eq ▸ Nat.succ_pos cs.length) hn
  exact readChain_single hpos
    (readChain_intercalate (fun _ => by simp [AfterFactor]) hrest.1.1 hrest.1.2 h hn) hrest.2

theorem readJunctions_or (hrest : AfterJunctions rest) (hn : tss.length ≤ n)
    (h : List.Forall₂ (fun ts c => ∀ rest, AfterFactor rest → factor (ts ++ rest) = some (c, rest)) tss
      (c :: cs)) :
    readJunctions factor n ([.keyword .OR].intercalate tss ++ rest) =
      some (chain .or c cs, rest) := by
  have hpos : 0 < n := Nat.lt_of_lt_of_le (h.length_eq ▸ Nat.succ_pos cs.length) hn
  -- every part is a conjunction of one factor, since no `AND` follows it
  have hconjunctions : List.Forall₂ (fun ts c => ∀ rest, AfterConjunction rest →
      readChain (.keyword .AND) .and factor n (ts ++ rest) = some (c, rest)) tss (c :: cs) :=
    h.imp fun ts c hfactor rest hrest => readChain_single hpos (hfactor rest hrest.1) hrest.2
  exact readChain_intercalate (fun _ => by simp [AfterConjunction, AfterFactor]) hrest.1 hrest.2
    hconjunctions hn

/-- `AND` binds more tightly than `OR` on both sides of it. -/
example : ofText? .sqlite "\"a\" = ? OR \"b\" IS NULL AND (\"c\" < datetime(?) OR 1=0)" =
    some (.or (.compare ⟨"a", false⟩ .equal ⟨1, false⟩)
      (.and (.null ⟨"b", false⟩ false) (.or (.compare ⟨"c", false⟩ .less ⟨2, true⟩) .never))) := by
  decide

theorem readFactor_group (h : readJunctions (readFactor dialect n) n (ts ++ .closing :: rest) =
    some (c, .closing :: rest)) :
    readFactor dialect (n + 1) ([.opening] ++ ts ++ [.closing] ++ rest) = some (c, rest) := by
  rw [List.append_assoc, List.append_assoc, List.singleton_append, List.singleton_append, readFactor, h]

end Clause

/-! ### Atoms -/

/-- A condition is read back from its tokens as this clause, which means the same where its parameters
are those after `bound` others. -/
structure ReadsBack (dialect : Dialect) (bound : Nat) (e : Condition) (clause : Clause) : Prop where
  read : ∀ n rest, (e.tokens dialect bound).length ≤ n → Clause.AfterFactor rest →
    Clause.readFactor dialect n (e.tokens dialect bound ++ rest) = some (clause, rest)
  eval : ∀ parameters row, e.parameters <+: parameters.drop bound →
    clause.eval parameters row = e.eval row

theorem getElem?_of_prefix_drop {value : Value} {parameters : List Value} {bound : Nat}
    (h : [value] <+: parameters.drop bound) : parameters[bound]? = some value := by
  obtain ⟨rest, h⟩ := h
  rw [← List.head?_drop, ← h]
  rfl

namespace ReadsBack

variable {dialect : Dialect} {bound : Nat}

/-- What begins with the tokens of a column and is read as a test of it. -/
theorem of_test {e : Condition} {clause : Clause} {column : Column} {t : Token} {ts : List Token}
    (htokens : e.tokens dialect bound = column.tokens dialect ++ t :: ts) (ht : t ≠ .conversion)
    (htest : ∀ rest, Clause.AfterFactor rest →
      Clause.readTest dialect column.reference (t :: ts ++ rest) = some (clause, rest))
    (heval : ∀ parameters row, e.parameters <+: parameters.drop bound →
      clause.eval parameters row = e.eval row) : ReadsBack dialect bound e clause where
  read n rest hn hrest := by
    have hpos : 0 < n := by
      rw [htokens, List.length_append, List.length_cons] at hn
      omega
    have hafter : (t :: ts ++ rest).head? ≠ some .conversion := fun h => ht (Option.some.inj h)
    refine Clause.readFactor_of_readAtom hpos ?_
    rw [htokens, List.append_assoc,
      Clause.readAtom_of_readColumn (dialect.readColumn_tokens column hafter)]
    exact htest rest hrest
  eval := heval

theorem compare (column : Column) (comparison : Comparison) (value : Value) :
    ReadsBack dialect bound (.compare column comparison value)
      (.compare column.reference comparison (Expr.slot bound value)) := by
  refine of_test (by rw [Expr.tokens, List.append_assoc, List.singleton_append]) (by simp)
    (fun rest hrest => ?_) fun parameters row hp => ?_
  · rw [List.cons_append, Clause.readTest, dialect.readSlot_tokens bound value rest hrest]
    rfl
  · rw [Clause.eval, Expr.value?_slot (getElem?_of_prefix_drop hp), Expr.eval]

theorem like (column : Column) (pattern : String) (negated : Bool) :
    ReadsBack dialect bound (.like column pattern negated)
      (.like column.reference negated (Expr.slot bound (.text pattern))) := by
  have hpattern : ∀ rest, Clause.readPattern dialect column.reference negated
      (Expr.placeholderTokens dialect bound (.text pattern)
        ++ .keyword .ESCAPE :: .literal "\\" :: rest) =
        some (.like column.reference negated (Expr.slot bound (.text pattern)), rest) := by
    intro rest
    rw [Clause.readPattern, dialect.readSlot_tokens bound (.text pattern) (.keyword .ESCAPE :: _) nofun]
    exact if_pos rfl
  have heval : ∀ parameters row, [.text pattern] <+: parameters.drop bound →
      (Clause.like column.reference negated (Expr.slot bound (.text pattern))).eval parameters row =
        (Expr.like column pattern negated).eval row := by
    intro parameters row hp
    rw [Clause.eval, Expr.value?_slot (getElem?_of_prefix_drop hp), Expr.eval]
  cases negated with
  | false =>
    refine of_test (by rw [Expr.tokens, List.append_assoc, List.append_assoc]; rfl) (by decide)
      (fun rest _ => ?_) heval
    exact hpattern rest
  | true =>
    refine of_test (by rw [Expr.tokens, List.append_assoc, List.append_assoc]; rfl) (by decide)
      (fun rest _ => ?_) heval
    exact hpattern rest

theorem null (column : Column) (negated : Bool) :
    ReadsBack dialect bound (.null column negated) (.null column.reference negated) := by
  have heval : ∀ parameters row, [] <+: parameters.drop bound →
      (Clause.null column.reference negated).eval parameters row =
        (Expr.null column negated).eval row := by
    intro parameters row _
    rw [Clause.eval, Expr.eval]
  cases negated with
  | false => exact of_test (by rw [Expr.tokens]; rfl) (by decide) (fun _ _ => rfl) heval
  | true => exact of_test (by rw [Expr.tokens]; rfl) (by decide) (fun _ _ => rfl) heval

end ReadsBack

/-! ### Junctions -/

/-- Conditions that are read back one after the other. -/
inductive ReadsBackEach (dialect : Dialect) : Nat → List Condition → List Clause → Prop
  | nil {bound : Nat} : ReadsBackEach dialect bound [] []
  | cons {bound : Nat} {part : Condition} {clause : Clause} {parts : List Condition}
    {clauses : List Clause} (h : ReadsBack dialect bound part clause)
    (hs : ReadsBackEach dialect (bound + part.parameters.length) parts clauses) :
    ReadsBackEach dialect bound (part :: parts) (clause :: clauses)

theorem prefix_drop_append {a b l : List Value} {n : Nat} (h : a ++ b <+: l.drop n) :
    a <+: l.drop n ∧ b <+: l.drop (n + a.length) := by
  obtain ⟨rest, h⟩ := h
  refine ⟨⟨b ++ rest, by rw [← h, List.append_assoc]⟩, ⟨rest, ?_⟩⟩
  rw [← List.drop_drop, ← h, List.append_assoc, List.drop_left]

namespace ReadsBackEach

variable {dialect : Dialect} {bound : Nat} {parts : List Condition} {clauses : List Clause}

theorem exists_clauses : ∀ {parts : List Condition},
    (∀ part ∈ parts, ∀ bound, ∃ clause, ReadsBack dialect bound part clause) →
      ∀ bound, ∃ clauses, ReadsBackEach dialect bound parts clauses
  | [], _, _ => ⟨[], .nil⟩
  | part :: parts, h, bound => by
    rw [List.forall_mem_cons] at h
    obtain ⟨clause, hclause⟩ := h.1 bound
    obtain ⟨clauses, hclauses⟩ := exists_clauses h.2 (bound + part.parameters.length)
    exact ⟨clause :: clauses, .cons hclause hclauses⟩

/-- All parts are read as factors, nested less deep than `n` when they are no longer than that. -/
theorem read (h : ReadsBackEach dialect bound parts clauses) {n : Nat}
    (hn : ∀ ts ∈ Expr.tokensList dialect bound parts, ts.length ≤ n) :
    List.Forall₂ (fun ts c => ∀ rest, Clause.AfterFactor rest →
      Clause.readFactor dialect n (ts ++ rest) = some (c, rest))
      (Expr.tokensList dialect bound parts) clauses := by
  induction h with
  | nil => exact .nil
  | cons h _ ih =>
    rw [Expr.tokensList] at hn ⊢
    rw [List.forall_mem_cons] at hn
    exact .cons (fun rest hrest => h.read n rest hn.1 hrest) (ih hn.2)

theorem map_eval (h : ReadsBackEach dialect bound parts clauses) {parameters : List Value}
    (row : Memory.Row) (hp : Expr.listParameters parts <+: parameters.drop bound) :
    clauses.map (Clause.eval parameters row) = parts.map (Expr.eval row) := by
  induction h with
  | nil => rfl
  | cons h _ ih =>
    obtain ⟨hpart, hparts⟩ := prefix_drop_append hp
    rw [List.map_cons, List.map_cons, h.eval parameters row hpart, ih hparts]

end ReadsBackEach

theorem Expr.evalAll_eq_foldr (row : Memory.Row) : ∀ parts : List Condition,
    evalAll row parts = (parts.map (eval row)).foldr .and .yes
  | [] => rfl
  | part :: parts => by rw [evalAll, evalAll_eq_foldr row parts]; rfl

theorem Expr.evalAny_eq_foldr (row : Memory.Row) : ∀ parts : List Condition,
    evalAny row parts = (parts.map (eval row)).foldr .or .no
  | [] => rfl
  | part :: parts => by rw [evalAny, evalAny_eq_foldr row parts]; rfl

theorem Clause.eval_chain {parameters : List Value} {row : Memory.Row} {join : Clause → Clause → Clause}
    {op : Truth → Truth → Truth} {unit : Truth} (hunit : ∀ a, op a unit = a)
    (hjoin : ∀ l r,
      (join l r).eval parameters row = op (l.eval parameters row) (r.eval parameters row)) :
    ∀ (c : Clause) (cs : List Clause), (chain join c cs).eval parameters row =
      ((c :: cs).map (eval parameters row)).foldr op unit
  | c, [] => (hunit _).symm
  | c, c' :: cs => by rw [chain, hjoin, eval_chain hunit hjoin c' cs]; rfl

section
variable {t : Token}

theorem length_le_length_intercalate :
    ∀ {tss : List (List Token)}, ∀ ts ∈ tss, ts.length ≤ ([t].intercalate tss).length
  | [us], ts, hts => by
    have hsingle : ts = [t].intercalate [us] :=
      (List.mem_singleton.1 hts).trans List.intercalate_singleton.symm
    exact Nat.le_of_eq (congrArg List.length hsingle)
  | us :: us' :: tss, ts, hts => by
    rw [List.intercalate_cons_cons, List.length_append, List.length_append]
    rcases List.mem_cons.1 hts with rfl | hts
    · omega
    · have := length_le_length_intercalate ts hts
      omega

theorem length_le_length_intercalate_add_one :
    ∀ tss : List (List Token), tss.length ≤ ([t].intercalate tss).length + 1
  | [] => Nat.zero_le _
  | [ts] => Nat.le_add_left ..
  | ts :: ts' :: tss => by
    have := length_le_length_intercalate_add_one (ts' :: tss)
    rw [List.intercalate_cons_cons, List.length_append, List.length_append, List.length_cons,
      List.length_singleton]
    omega

end

namespace ReadsBack

variable {dialect : Dialect} {bound : Nat}

/-- What stands in parentheses is read back if it is read as junctions of parts. -/
theorem group {e : Condition} {clause : Clause} {t : Token} {tss : List (List Token)}
    (htokens : e.tokens dialect bound = [.opening] ++ [t].intercalate tss ++ [.closing])
    (hread : ∀ n rest, Clause.AfterJunctions rest → tss.length ≤ n → (∀ ts ∈ tss, ts.length ≤ n) →
      Clause.readJunctions (Clause.readFactor dialect n) n ([t].intercalate tss ++ rest) =
        some (clause, rest))
    (heval : ∀ parameters row, e.parameters <+: parameters.drop bound →
      clause.eval parameters row = e.eval row) : ReadsBack dialect bound e clause where
  read n rest hn _ := by
    rw [htokens, List.length_append, List.length_append, List.length_singleton,
      List.length_singleton] at hn
    -- the two parentheses are enough for one level of nesting and for the part without a separator
    obtain ⟨n, rfl⟩ := Nat.exists_eq_add_one.2 (Nat.lt_of_lt_of_le (Nat.succ_pos _) hn)
    have hlength := length_le_length_intercalate_add_one (t := t) tss
    rw [htokens]
    refine Clause.readFactor_group (hread n (.closing :: rest) ?_ (by omega) fun ts hts => ?_)
    · simp [Clause.AfterJunctions, Clause.AfterConjunction, Clause.AfterFactor]
    · have := length_le_length_intercalate (t := t) ts hts
      omega
  eval := heval

theorem all {part part' : Condition} {parts : List Condition} {clause : Clause} {clauses : List Clause}
    (h : ReadsBackEach dialect bound (part :: part' :: parts) (clause :: clauses)) :
    ReadsBack dialect bound (.all (part :: part' :: parts)) (.chain .and clause clauses) := by
  refine group (by rw [Expr.tokens]; rfl) (fun n rest hrest hlength hn => ?_) fun parameters row hp => ?_
  · exact Clause.readJunctions_and hrest hlength (h.read hn)
  · rw [Clause.eval_chain Truth.and_yes (fun _ _ => rfl), h.map_eval row hp, Expr.eval,
      Expr.evalAll_eq_foldr]

theorem any {part part' : Condition} {parts : List Condition} {clause : Clause} {clauses : List Clause}
    (h : ReadsBackEach dialect bound (part :: part' :: parts) (clause :: clauses)) :
    ReadsBack dialect bound (.any (part :: part' :: parts)) (.chain .or clause clauses) := by
  refine group (by rw [Expr.tokens]; rfl) (fun n rest hrest hlength hn => ?_) fun parameters row hp => ?_
  · exact Clause.readJunctions_or hrest hlength (h.read hn)
  · rw [Clause.eval_chain Truth.or_no (fun _ _ => rfl), h.map_eval row hp, Expr.eval,
      Expr.evalAny_eq_foldr]

theorem never : ReadsBack dialect bound (.any []) .never where
  read n rest hn _ := by
    rw [Expr.tokens, Expr.tokensList] at hn ⊢
    refine Clause.readFactor_of_readAtom (Nat.lt_of_lt_of_le (by decide) hn) ?_
    cases dialect <;> rfl
  eval parameters row _ := by rw [Clause.eval, Expr.eval, Expr.evalAny]

theorem any_single {part : Condition} {clause : Clause} (h : ReadsBack dialect bound part clause) :
    ReadsBack dialect bound (.any [part]) clause where
  read n rest hn hrest := by
    rw [Expr.tokens, Expr.tokensList, Expr.tokensList] at hn ⊢
    exact h.read n rest hn hrest
  eval parameters row hp := by
    rw [Expr.parameters, Expr.listParameters, Expr.listParameters, List.append_nil] at hp
    rw [Expr.eval, Expr.evalAny, Expr.evalAny, Truth.or_no]
    exact h.eval parameters row hp

theorem exists_clause {e : Condition} (h : e.Normal) :
    ∀ bound, ∃ clause, ReadsBack dialect bound e clause := by
  induction h with
  | compare column comparison value => exact fun bound => ⟨_, compare column comparison value⟩
  | like column pattern negated => exact fun bound => ⟨_, like column pattern negated⟩
  | null column negated => exact fun bound => ⟨_, null column negated⟩
  | @all parts hlength h ih =>
    intro bound
    obtain ⟨clauses, hs⟩ := ReadsBackEach.exists_clauses ih bound
    match parts, hlength, hs with
    | part :: part' :: parts, _, .cons h (.cons h' hs) => exact ⟨_, all (.cons h (.cons h' hs))⟩
  | @any parts h ih =>
    intro bound
    obtain ⟨clauses, hs⟩ := ReadsBackEach.exists_clauses ih bound
    match parts, hs with
    | [], _ => exact ⟨_, never⟩
    | [part], .cons h .nil => exact ⟨_, any_single h⟩
    | part :: part' :: parts, .cons h (.cons h' hs) => exact ⟨_, any (.cons h (.cons h' hs))⟩

end ReadsBack

/-- The whole text of a condition in normal form is one condition, which means the same with its
parameters. -/
theorem Expr.Normal.exists_ofText? {e : Condition} (h : e.Normal) (dialect : Dialect) :
    ∃ clause, Clause.ofText? dialect (e.render dialect (Column.text dialect) 0) = some clause ∧
      ∀ row, clause.eval e.parameters row = e.eval row := by
  obtain ⟨clause, hread, heval⟩ := ReadsBack.exists_clause h 0
  refine ⟨clause, ?_, fun row => heval e.parameters row (List.prefix_refl _)⟩
  have hscan := (reads_render dialect 0 e).scan_eq
  rw [dialect.marks_zero] at hscan
  have hfactor := hread (e.tokens dialect 0).length [] (Nat.le_refl _) nofun
  have hpos : 0 < (e.tokens dialect 0).length := by
    refine Nat.pos_of_ne_zero fun hzero => ?_
    rw [hzero, Clause.readFactor] at hfactor
    cases hfactor
  rw [List.append_nil] at hfactor
  have hjunctions : Clause.readJunctions (Clause.readFactor dialect (e.tokens dialect 0).length)
      (e.tokens dialect 0).length (e.tokens dialect 0) = some (clause, []) :=
    Clause.readChain_single hpos (Clause.readChain_single hpos hfactor nofun) nofun
  rw [Clause.ofText?, hscan, Clause.ofTokens?, hjunctions]

/-- The text that restricts the rows of a filter model means with its parameters what its condition
means. -/
theorem exists_clause_of_compile (table : Table) (m : Filter.Model)
    (h : (m.compile table.backend).value ≠ .always) :
    ∃ clause,
      Clause.ofText? table.dialect (table.bind (m.compile table.backend).value).1 = some clause ∧
      ∀ row, clause.eval (table.bind (m.compile table.backend).value).2 row =
        (m.compile table.backend).value.eval row := by
  rw [table.bind_eq]
  exact (table.normal_compile m h).exists_ofText? table.dialect

/-- Two conditions on a column that is named like a keyword. -/
theorem exists_clause_of_compile_keyword :
    let table : Table := ⟨.duckdb, "items", .permissive⟩
    let m : Filter.Model := ⟨[("OR", .group (some .or)
      [.single (.object (some .contains) (some "%")) none,
        .single (.date (some .inRange) (some "2024-01-01 00:00:00") (some "2024-02-01 00:00:00")) none]
      (.text none none))], List.pairwise_singleton ..⟩
    ∃ clause,
      Clause.ofText? table.dialect (table.bind (m.compile table.backend).value).1 = some clause ∧
      ∀ row, clause.eval (table.bind (m.compile table.backend).value).2 row =
        (m.compile table.backend).value.eval row := by
  intro table m
  refine exists_clause_of_compile table m fun h => ?_
  have halways : (m.compile table.backend).value.isAlways = false := by decide
  rw [h] at halways
  cases halways

end DataGrid.Sql
