import DataGrid.Proofs.Sql.Words

/-!
# The placeholders in a text

The placeholders of a text are found from left to right, with how each is written and whether it stands
in the dialect's conversion to a timestamp. The text of a condition has one for each of its parameters, in
their order (`Expr.shows_render`): column names, fixed words and numbers are `Silent`, they have neither
question marks nor dollar signs.
-/

namespace DataGrid.Sql

/-- A placeholder as it stands in a text. -/
structure Site where
  text : String
  timestamp : Bool
deriving DecidableEq, Repr

namespace Dialect

/-- What stands before and behind a placeholder for the text of a timestamp. -/
def timestampFrame : Dialect → String × String
  | duckdb => ("CAST(", " AS TIMESTAMP)")
  | postgres => ("", "::TIMESTAMP")
  | sqlite => ("datetime(", ")")

theorem timestamp_eq_frame (placeholder : String) (dialect : Dialect) :
    dialect.timestamp placeholder =
      dialect.timestampFrame.1 ++ placeholder ++ dialect.timestampFrame.2 := by
  cases dialect with
  | postgres => rw [timestamp, timestampFrame, String.empty_append]
  | duckdb | sqlite => rfl

/-- The texts around a placeholder make a timestamp of it; that before it is given backwards. -/
def frames (dialect : Dialect) (before rest : List Char) : Bool :=
  dialect.timestampFrame.1.toList.reverse.isPrefixOf before &&
    dialect.timestampFrame.2.toList.isPrefixOf rest

/-- The placeholders of a text behind the text `before`, which is given backwards. A question mark is one,
and a dollar sign with the digits that follow it. -/
def sites (dialect : Dialect) : (before : List Char) → List Char → List Site
  | _, [] => []
  | before, c :: cs =>
    if c = '?' then ⟨"?", dialect.frames before cs⟩ :: sites dialect (c :: before) cs
    else if c = '$' then
      -- digits are no placeholders, so what follows can be read from the first one on
      ⟨String.ofList (c :: cs.takeWhile Char.isDigit), dialect.frames before (cs.dropWhile Char.isDigit)⟩
        :: sites dialect (c :: before) cs
    else sites dialect (c :: before) cs

/-- The placeholders of values that are bound after `bound` others. -/
def sitesOf (dialect : Dialect) (bound : Nat) (values : List Value) : List Site :=
  (values.zipIdx bound).map fun (value, i) => ⟨dialect.placeholder (i + 1), value.kind = .dateTime⟩

theorem sitesOf_append (dialect : Dialect) (bound : Nat) (values values' : List Value) :
    dialect.sitesOf bound (values ++ values') =
      dialect.sitesOf bound values ++ dialect.sitesOf (bound + values.length) values' := by
  rw [sitesOf, List.zipIdx_append, List.map_append]
  rfl

end Dialect

/-- The name of a column may spell a conversion. -/
example : Dialect.sites .duckdb [] "\"CAST\" = ? AND \"d\" < CAST(? AS TIMESTAMP)".toList =
    [⟨"?", false⟩, ⟨"?", true⟩] := by
  decide

/-! ### Texts without placeholders -/

def Silent (text : String) : Prop := ∀ c ∈ text.toList, c ≠ '?' ∧ c ≠ '$'

instance (text : String) : Decidable (Silent text) :=
  List.decidableBAll (fun c => c ≠ '?' ∧ c ≠ '$') text.toList

theorem Silent.append {a b : String} (ha : Silent a) (hb : Silent b) : Silent (a ++ b) := by
  unfold Silent
  rw [String.toList_append, List.forall_mem_append]
  exact ⟨ha, hb⟩

theorem Wordy.silent {text : String} (h : Wordy text) : Silent text := by
  intro c hc
  constructor <;> rintro rfl <;> exact h.not_mem (by decide) hc

/-! ### Reading a text piece by piece -/

/-- What may follow a placeholder: no digit, and no conversion to a timestamp. -/
def Ends (rest : List Char) : Prop := ∀ c ∈ rest.head?, c = ' ' ∨ c = ')'

/-- The piece of text has these placeholders, whatever stands before it. -/
def Shows (dialect : Dialect) (text : String) (sites : List Site) : Prop :=
  ∀ before rest, Ends rest →
    dialect.sites before (text.toList ++ rest) =
      sites ++ dialect.sites (text.toList.reverse ++ before) rest

namespace Dialect

variable {dialect : Dialect} {before rest : List Char}

theorem sites_silent : ∀ {cs : List Char} {before : List Char}, (∀ c ∈ cs, c ≠ '?' ∧ c ≠ '$') →
    dialect.sites before (cs ++ rest) = dialect.sites (cs.reverse ++ before) rest
  | [], _, _ => rfl
  | c :: cs, before, h => by
    rw [List.forall_mem_cons] at h
    rw [List.cons_append, sites, if_neg h.1.1, if_neg h.1.2, sites_silent h.2, List.reverse_cons,
      List.append_assoc, List.singleton_append]

theorem sites_placeholder (n : Nat) (hrest : ∀ c ∈ rest.head?, c.isDigit = false) :
    dialect.sites before ((dialect.placeholder n).toList ++ rest) =
      ⟨dialect.placeholder n, dialect.frames before rest⟩
        :: dialect.sites ((dialect.placeholder n).toList.reverse ++ before) rest := by
  cases dialect with
  | duckdb | sqlite =>
    have hmark : "?".toList = ['?'] := rfl
    simp only [placeholder, hmark]
    exact if_pos rfl
  | postgres =>
    have htext : (placeholder postgres n).toList = '$' :: (toString n).toList := by
      rw [placeholder, String.toList_append]
      rfl
    have hdigits : ∀ c ∈ (toString n).toList, c.isDigit = true := fun c => isDigit_of_mem_toString
    have hnone : rest.takeWhile Char.isDigit = [] ∧ rest.dropWhile Char.isDigit = rest := by
      cases rest with
      | nil => exact ⟨rfl, rfl⟩
      | cons c cs => simp [hrest c rfl]
    rw [htext, List.cons_append, sites, if_neg (by decide), if_pos rfl,
      List.takeWhile_append_of_pos hdigits, List.dropWhile_append_of_pos hdigits, hnone.1, hnone.2,
      List.append_nil, sites_silent (wordy_toString n).silent, ← htext, String.ofList_toList, htext,
      List.reverse_cons, List.append_assoc, List.singleton_append]

/-- In the dialect's conversion a placeholder is that of a timestamp, whatever stands around it. -/
theorem sites_timestamp (n : Nat) :
    dialect.sites before ((dialect.timestamp (dialect.placeholder n)).toList ++ rest) =
      ⟨dialect.placeholder n, true⟩
        :: dialect.sites ((dialect.timestamp (dialect.placeholder n)).toList.reverse ++ before) rest := by
  have hfirst : Silent dialect.timestampFrame.1 := by cases dialect <;> decide
  have hlast : Silent dialect.timestampFrame.2 := by cases dialect <;> decide
  have hnext : ∀ c ∈ (dialect.timestampFrame.2.toList ++ rest).head?, c.isDigit = false := by
    cases dialect <;> rintro c ⟨⟩ <;> rfl
  have hframes : dialect.frames (dialect.timestampFrame.1.toList.reverse ++ before)
      (dialect.timestampFrame.2.toList ++ rest) = true := by
    simp [frames]
  simp only [timestamp_eq_frame, String.toList_append, List.reverse_append, List.append_assoc]
  rw [sites_silent hfirst, sites_placeholder n hnext, hframes, sites_silent hlast]

/-- No conversion ends in a blank, and on PostgreSQL none begins with what ends a placeholder. -/
theorem frames_eq_false (dialect : Dialect) (hrest : Ends rest) :
    dialect.frames (' ' :: before) rest = false := by
  cases dialect with
  | duckdb | sqlite => rfl
  | postgres =>
    cases rest with
    | nil => rfl
    | cons c cs => rcases hrest c rfl with rfl | rfl <;> rfl

theorem sites_value (bound : Nat) (value : Value) (hrest : Ends rest) :
    dialect.sites (' ' :: before) ((Expr.placeholder dialect bound value).toList ++ rest) =
      dialect.sitesOf bound [value] ++
        dialect.sites ((Expr.placeholder dialect bound value).toList.reverse ++ ' ' :: before) rest := by
  cases value with
  | dateTime d => exact sites_timestamp (bound + 1)
  | text | number | bool =>
    have hdigit : ∀ c ∈ rest.head?, c.isDigit = false := by
      intro c hc
      rcases hrest c hc with rfl | rfl <;> rfl
    exact (sites_placeholder (bound + 1) hdigit).trans (by rw [frames_eq_false dialect hrest]; rfl)

end Dialect

variable {dialect : Dialect}

namespace Shows

variable {a b : String} {out out' : List Site}

theorem of_silent (h : Silent a) : Shows dialect a [] := fun _ _ _ => Dialect.sites_silent h

theorem append (ha : Shows dialect a out) (hb : Shows dialect b out')
    (hends : ∀ rest, Ends rest → Ends (b.toList ++ rest)) : Shows dialect (a ++ b) (out ++ out') := by
  intro before rest hrest
  rw [String.toList_append, List.append_assoc, ha before _ (hends rest hrest), hb _ rest hrest,
    List.append_assoc, List.reverse_append, List.append_assoc]

theorem silent_append (ha : Silent a) (hb : Shows dialect b out) : Shows dialect (a ++ b) out := by
  intro before rest hrest
  rw [String.toList_append, List.append_assoc, Dialect.sites_silent ha, hb _ rest hrest,
    List.reverse_append, List.append_assoc]

theorem append_silent (ha : Shows dialect a out) (hb : Silent b)
    (hends : ∀ rest, Ends rest → Ends (b.toList ++ rest)) : Shows dialect (a ++ b) out :=
  List.append_nil out ▸ ha.append (of_silent hb) hends

theorem sites_eq (h : Shows dialect a out) : dialect.sites [] a.toList = out := by
  have hwhole := h [] [] nofun
  rwa [List.append_nil, Dialect.sites, List.append_nil] at hwhole

end Shows

theorem ends_append_cons {text : String} {c : Char} {cs : List Char} (h : text.toList = c :: cs)
    (hc : c = ' ' ∨ c = ')') (rest : List Char) : Ends (text.toList ++ rest) := by
  intro d hd
  rw [h] at hd
  cases hd
  exact hc

theorem shows_placeholder (dialect : Dialect) (bound : Nat) (value : Value) {a : String} {cs : List Char}
    (ha : a.toList = cs ++ [' ']) (hsilent : Silent a) :
    Shows dialect (a ++ Expr.placeholder dialect bound value) (dialect.sitesOf bound [value]) := by
  intro before rest hrest
  have hblank : a.toList.reverse ++ before = ' ' :: (cs.reverse ++ before) := by
    rw [ha, List.reverse_append]
    rfl
  rw [String.toList_append, List.append_assoc, Dialect.sites_silent hsilent, List.reverse_append,
    List.append_assoc, hblank, Dialect.sites_value bound value hrest]

/-! ### Conditions -/

/-- Texts that have these placeholders one after the other. -/
inductive ShowsEach (dialect : Dialect) : List String → List Site → Prop
  | nil : ShowsEach dialect [] []
  | cons {a : String} {out : List Site} {as : List String} {outs : List Site} (h : Shows dialect a out)
    (hs : ShowsEach dialect as outs) : ShowsEach dialect (a :: as) (out ++ outs)

namespace ShowsEach

variable {separator empty : String}

theorem intercalate (hseparator : Silent separator) (hends : ∀ rest, Ends (separator.toList ++ rest)) :
    ∀ {as : List String} {out : List Site}, ShowsEach dialect as out →
      Shows dialect (separator.intercalate as) out
  | [], _, .nil => by
    rw [String.intercalate_nil]
    exact .of_silent (by decide)
  | [a], _, .cons h .nil => by
    rw [String.intercalate_singleton, List.append_nil]
    exact h
  | a :: b :: as, _, .cons h (.cons h' hs) => by
    rw [String.intercalate_cons_cons, String.append_assoc]
    have hrest := Shows.silent_append hseparator (intercalate hseparator hends (.cons h' hs))
    refine h.append hrest fun rest _ => ?_
    rw [String.toList_append, List.append_assoc]
    exact hends _

/-- A junction has the placeholders of its parts, whether it stands in parentheses or not. -/
theorem junction {as : List String} {out : List Site} (hseparator : Silent separator)
    (hends : ∀ rest, Ends (separator.toList ++ rest)) (hempty : Silent empty)
    (h : ShowsEach dialect as out) : Shows dialect (Expr.junction separator empty as) out := by
  match as, h with
  | [], .nil => exact .of_silent hempty
  | [a], .cons h .nil => exact (List.append_nil _).symm ▸ h
  | a :: b :: as, h =>
    have hopen : Silent "(" := by decide
    have hparts := Shows.silent_append hopen (h.intercalate hseparator hends)
    exact hparts.append_silent (by decide) fun rest _ => ends_append_cons rfl (by decide) rest

end ShowsEach

namespace Expr

mutual

/-- The text of a condition has one placeholder for each of its values, in their order. -/
theorem shows_render (dialect : Dialect) : ∀ (bound : Nat) (e : Condition),
    Shows dialect (e.render dialect (Column.text dialect) bound) (dialect.sitesOf bound e.parameters)
  | bound, always => by
    rw [render, parameters]
    exact .of_silent (by decide)
  | bound, compare column comparison value => by
    have hcomparison : Silent comparison.symbol := by cases comparison <;> decide
    rw [render, parameters]
    refine shows_placeholder dialect bound value String.toList_append ?_
    exact ((((column.wordy_text dialect).silent.append (by decide)).append hcomparison).append (by decide))
  | bound, like column pattern negated => by
    have hlike : Silent (if negated then " NOT LIKE " else " LIKE ") := by cases negated <;> decide
    have hlast : (if negated then " NOT LIKE " else " LIKE ").toList =
        (if negated then " NOT LIKE" else " LIKE").toList ++ [' '] := by cases negated <;> decide
    rw [render, parameters]
    have hpattern := shows_placeholder dialect bound (.text pattern)
      (by rw [String.toList_append, hlast, ← List.append_assoc]) ((column.wordy_text dialect).silent.append hlike)
    exact hpattern.append_silent (by decide) fun rest _ => ends_append_cons rfl (by decide) rest
  | bound, null column negated => by
    rw [render, parameters]
    exact .of_silent ((column.wordy_text dialect).silent.append (by cases negated <;> decide))
  | bound, all parts => by
    rw [render, parameters]
    exact (shows_renderList dialect bound parts).junction (by decide)
      (ends_append_cons rfl (by decide)) (by decide)
  | bound, any parts => by
    rw [render, parameters]
    exact (shows_renderList dialect bound parts).junction (by decide)
      (ends_append_cons rfl (by decide)) (by decide)

theorem shows_renderList (dialect : Dialect) : ∀ (bound : Nat) (parts : List Condition),
    ShowsEach dialect (renderList dialect (Column.text dialect) bound parts)
      (dialect.sitesOf bound (listParameters parts))
  | bound, [] => .nil
  | bound, part :: parts => by
    rw [renderList, listParameters, Dialect.sitesOf_append]
    exact .cons (shows_render dialect bound part) (shows_renderList dialect _ parts)

end

end Expr

end DataGrid.Sql
