import DataGrid.Proofs.Json.Rewriting
import DataGrid.Proofs.Memory.Confinement
import DataGrid.Service

/-!
# Rows that pass through a query

A query answers with rows that it was given, filtered, sorted and cut. They are decoded and written again on the
way, and this is all that happens to them (`Settings.query_rereads`): integers and short numbers are the same, and
other numbers may move by two places.
-/

namespace DataGrid

open Json (Source Space Reader maxDepth merged mergedItems mapItemNumbers)
open JsonNumber (reread)

namespace Memory

theorem listItems_value (room : Nat) (items : Json.Items) :
    Reader.listItems (Reader.value room) items = mergedItems <$> items.raw room := by
  cases items with
  | closed => rfl
  | cut fault => rfl
  | item value rest =>
    rw [Reader.listItems, listItems_value room rest, Json.Items.raw, Reader.value]
    cases value.raw room with
    | error fault => rfl
    | ok value => cases rest.raw room <;> rfl

theorem rowsOfValues_map_object (rows : List Row) : ∀ index, rowsOfValues index (rows.map .object) = .ok rows := by
  induction rows with
  | nil => exact fun _ => rfl
  | cons row rows ih =>
    intro index
    rw [List.map_cons, rowsOfValues, ih]
    rfl

theorem eq_map_of_rowsOfValues : ∀ {values : List Json} {index : Nat} {rows : List Row},
    rowsOfValues index values = .ok rows → values = rows.map .object
  | [], _, _, h => by
    cases h
    rfl
  | .object row :: values, index, _, h => by
    obtain ⟨rows, hrows, h⟩ := Except.exists_of_bind_eq_ok h
    cases h
    rw [List.map_cons, ← eq_map_of_rowsOfValues hrows]
  | .null :: _, _, _, h | .bool _ :: _, _, _, h | .number _ :: _, _, _, h | .string _ :: _, _, _, h
  | .array _ :: _, _, _, h => by cases h

/-- A row as it is decoded: of a name that repeats it has the last value, and its numbers are what their texts are
decoded as. -/
def Row.decoded (row : Row) : Row := Json.mapMemberNumbers reread (Json.mergedMembers [] row)

theorem mergedItems_map_object (rows : List Row) :
    mergedItems (mapItemNumbers reread (rows.map .object)) = (rows.map Row.decoded).map .object := by
  induction rows with
  | nil => rfl
  | cons row rows ih =>
    rw [List.map_cons, mapItemNumbers, mergedItems, ih, Json.merged_mapNumbers]
    rfl

theorem exists_eq_map_object : ∀ {values : List Json} {rows : List Row},
    mergedItems (mapItemNumbers reread values) = rows.map .object → ∃ rows : List Row, values = rows.map .object
  | [], _, _ => ⟨[], rfl⟩
  | value :: values, [], h => by cases h
  | value :: values, row :: rows, h => by
    obtain ⟨hvalue, hvalues⟩ := List.cons.inj h
    obtain ⟨rows, rfl⟩ := exists_eq_map_object hvalues
    cases value with
    | object row => exact ⟨row :: rows, rfl⟩
    | null | bool _ | number _ | string _ | array _ => cases hvalue

section
variable {s : Source} {rows : List Row}

theorem parseRows_array (before inner : Space) (items : Source.Items) (after : Space) :
    parseRows ((Source.array inner items).text before after) =
      match mergedItems <$> items.tree.raw 126 with
      | .error fault => .error (.invalid fault)
      | .ok values => rowsOfValues 0 values := by
  rw [parseRows, Json.decode_source, ← listItems_value]
  rfl

theorem parseRows_of_isTextOf (hs : s.IsTextOf (.array (rows.map .object)))
    (hheight : (Json.array (rows.map .object)).height ≤ maxDepth) (before after : Space) :
    parseRows (s.text before after) = .ok (rows.map Row.decoded) := by
  cases hs with
  | array inner hitems =>
    rw [Json.height, maxDepth] at hheight
    rw [parseRows_array, Source.Items.raw_tree hitems (by omega)]
    show rowsOfValues 0 (mergedItems (mapItemNumbers reread (rows.map .object))) = _
    rw [mergedItems_map_object, rowsOfValues_map_object]

theorem exists_source_of_parseRows {rowsText : String} (h : parseRows rowsText = .ok rows) :
    ∃ (before : Space) (s : Source) (after : Space), rowsText = s.text before after := by
  rw [parseRows] at h
  split at h
  · cases h
  · next hdecode =>
    obtain ⟨before, s, after, htext, -⟩ := Json.exists_source_of_decode hdecode
    exact ⟨before, s, after, htext⟩

theorem exists_isTextOf_of_parseRows {before after : Space} (hs : s.Printed)
    (h : parseRows (s.text before after) = .ok rows) :
    ∃ rows : List Row, s.IsTextOf (.array (rows.map .object)) ∧ (Json.array (rows.map .object)).height ≤ maxDepth := by
  cases s with
  | array inner items =>
    rw [parseRows_array] at h
    cases hraw : items.tree.raw 126 with
    | error fault =>
      rw [hraw] at h
      cases h
    | ok values =>
      obtain ⟨values, hitems, hheight⟩ := Source.Items.exists_isTextOf hs hraw
      rw [Source.Items.raw_tree hitems hheight] at h
      obtain ⟨rows, rfl⟩ := exists_eq_map_object (eq_map_of_rowsOfValues h)
      exact ⟨rows, .array inner hitems, by rw [Json.height, maxDepth]; omega⟩
  | null | bool _ | number _ | string _ | object _ _ =>
    rw [parseRows, Json.decode_source] at h
    cases h

end

end Memory

namespace Settings

theorem value_query {settings : Settings} {text rowsText : String} {request : Request} {rows : List Memory.Row}
    (haccept : (settings.accept text).value = .ok request) (hrows : Memory.parseRows rowsText = .ok rows) :
    (settings.query text rowsText).value = .ok (.object
      [("page", .ofOption Page.toJson (Query.create (Memory.backend settings.columns.ids?) request).value.page),
        ("rowCount", .nat (Memory.answer settings.columns.ids? request rows).length),
        ("rows", Memory.rowsToJson (Memory.answer settings.columns.ids? request rows))]) := by
  rw [query, Logged.value_bind, haccept]
  dsimp only
  rw [hrows]
  rfl

theorem exists_parseRows {settings : Settings} {text rowsText : String} {request : Request} {answer : Json}
    (haccept : (settings.accept text).value = .ok request) (h : (settings.query text rowsText).value = .ok answer) :
    ∃ rows, Memory.parseRows rowsText = .ok rows := by
  rw [query, Logged.value_bind, haccept] at h
  dsimp only at h
  cases hrows : Memory.parseRows rowsText with
  | ok rows => exact ⟨rows, rfl⟩
  | error error =>
    rw [hrows] at h
    cases h

/-- The rows of the answer are rows that were given, at different positions and with nothing changed but the numbers in
them. -/
theorem exists_answer {settings : Settings} {text : String} {request : Request} {s : Source} {rows : List Memory.Row}
    (haccept : (settings.accept text).value = .ok request) (hs : s.IsTextOf (.array (rows.map .object)))
    (hheight : (Json.array (rows.map .object)).height ≤ maxDepth) (before after : Space) :
    ∃ (page : Json) (positions : List (Fin rows.length)), positions.Nodup ∧
      (settings.query text (s.text before after)).value = .ok (.object
        [("page", page), ("rowCount", .nat positions.length),
          ("rows", .array (positions.map fun i => (merged (.object (rows.get i))).mapNumbers reread))]) := by
  let known := settings.columns.ids?
  let decoded (i : Fin rows.length) : Memory.Row := (rows.get i).decoded
  have hdecoded : (List.finRange rows.length).map decoded = rows.map Memory.Row.decoded := by
    have hget := congrArg (List.map Memory.Row.decoded) (List.map_get_finRange rows)
    rwa [List.map_map] at hget
  have hanswer : Memory.answer known request (rows.map Memory.Row.decoded) =
      (Memory.positions known request decoded).map decoded := by
    rw [← hdecoded, Memory.answer_map_finRange]
  have hquery := value_query haccept (Memory.parseRows_of_isTextOf hs hheight before after)
  rw [hanswer, List.length_map, Memory.rowsToJson, List.map_map] at hquery
  exact ⟨_, _, Memory.nodup_positions, hquery⟩

/-- A query that is accepted answers every text of rows with numbers as they are written here, whatever blanks are in
it. Each row of the answer is one of the rows, taken once at most; of a name that repeats it has the last value, and
every number in it is what its text is decoded as: the same integer, or a binary64 number that has the same sign and is
two places away at most. -/
theorem query_rereads {settings : Settings} {text : String} {request : Request}
    (haccept : (settings.accept text).value = .ok request) :
    (∀ rowsText answer, (settings.query text rowsText).value = .ok answer →
      ∃ (before : Space) (s : Source) (after : Space), rowsText = s.text before after) ∧
    (∀ (before : Space) (s : Source) (after : Space), s.Printed →
      ((∃ answer, (settings.query text (s.text before after)).value = .ok answer) ↔
        ∃ rows : List Memory.Row, s.IsTextOf (.array (rows.map .object)) ∧
          (Json.array (rows.map .object)).height ≤ maxDepth) ∧
      ∀ rows : List Memory.Row, s.IsTextOf (.array (rows.map .object)) →
        (Json.array (rows.map .object)).height ≤ maxDepth →
          ∃ (page : Json) (positions : List (Fin rows.length)), positions.Nodup ∧
            (settings.query text (s.text before after)).value = .ok (.object
              [("page", page), ("rowCount", .nat positions.length),
                ("rows", .array (positions.map fun i => (merged (.object (rows.get i))).mapNumbers reread))])) ∧
    ∀ n : JsonNumber, n.Is64Bit → n.ComesBackAs n.reread := by
  refine ⟨fun rowsText answer h => ?_, fun before s after hprinted => ⟨⟨?_, ?_⟩, ?_⟩, fun n hn => ?_⟩
  · obtain ⟨rows, hrows⟩ := exists_parseRows haccept h
    exact Memory.exists_source_of_parseRows hrows
  · rintro ⟨answer, h⟩
    obtain ⟨rows, hrows⟩ := exists_parseRows haccept h
    exact Memory.exists_isTextOf_of_parseRows hprinted hrows
  · rintro ⟨rows, hs, hheight⟩
    obtain ⟨page, positions, -, hanswer⟩ := exists_answer haccept hs hheight before after
    exact ⟨_, hanswer⟩
  · exact fun rows hs hheight => exists_answer haccept hs hheight before after
  · exact JsonNumber.comesBackAs_reread hn

/-- One row with blanks in its text. Its number comes back one place higher. -/
theorem query_rereads_row :
    let settings : Settings := ⟨.duckdb, ⟨"rows", by decide⟩, .permissive, {}⟩
    let blank : Space := ⟨[' ', '\n'], by simp [Json.isSpace]⟩
    let numeral : Json.Numeral :=
      ⟨"7205759403792796.0".toList, ⟨false, "7205759403792796".toList, some ['0'], none⟩, by rfl⟩
    let s : Source := .array blank (.cons .none (.object .none
      (.cons (.ofString "c") blank (.number numeral) .none .nil)) blank .nil)
    let n : JsonNumber := .real ⟨false, 4844071759199705500, by decide⟩
    let rows : List Memory.Row := [[("c", .number n)]]
    ∃ request, (settings.accept "\x7b\x7d").value = .ok request ∧ s.Printed ∧
      s.IsTextOf (.array (rows.map .object)) ∧ (Json.array (rows.map .object)).height ≤ maxDepth ∧
      (∃ (page : Json) (positions : List (Fin rows.length)), positions.Nodup ∧
        (settings.query "\x7b\x7d" (s.text blank .none)).value = .ok (.object
          [("page", page), ("rowCount", .nat positions.length),
            ("rows", .array (positions.map fun i => (merged (.object (rows.get i))).mapNumbers reread))])) ∧
      n.ComesBackAs (.real ⟨false, 4844071759199705501, by decide⟩) := by
  intro settings blank numeral s n rows
  have haccepted : (settings.accept "\x7b\x7d").value.toOption.isSome = true := by decide +kernel
  have hread : n.ReadAs (.real ⟨false, 4844071759199705501, by decide⟩) := by decide +kernel
  have hchars : numeral.chars = n.chars := by decide +kernel
  have hs : s.IsTextOf (.array (rows.map .object)) :=
    .array blank (.cons _ _
      (.object _ (.cons _ _ (Json.Literal.value_ofString "c") (.number trivial hchars) .nil)) .nil)
  have hprinted : s.Printed := ⟨⟨⟨n, trivial, hchars⟩, trivial⟩, trivial⟩
  have hheight : (Json.array (rows.map .object)).height ≤ maxDepth := by decide
  cases haccept : (settings.accept "\x7b\x7d").value with
  | error failure =>
    rw [haccept] at haccepted
    cases haccepted
  | ok request =>
    obtain ⟨-, hrows, hnumbers⟩ := query_rereads haccept
    refine ⟨request, rfl, hprinted, hs, hheight, (hrows blank s .none hprinted).2 rows hs hheight, ?_⟩
    rw [← hread.reread_eq]
    exact hnumbers n trivial

/-- The text of a number that is written so is given, and the row of the answer has the text of the next number. -/
theorem not_passed_unchanged :
    let settings : Settings := ⟨.duckdb, ⟨"rows", by decide⟩, .permissive, {}⟩
    let n : JsonNumber := .real ⟨false, 4844071759199705500, by decide⟩
    let rowsText := "[\x7b\"c\":" ++ (Json.number n).compact ++ "\x7d]"
    rowsText = "[\x7b\"c\":7205759403792796.0\x7d]" ∧
      (settings.query "\x7b\x7d" rowsText).value.toOption.map (·.compact) =
        some "\x7b\"page\":null,\"rowCount\":1,\"rows\":[\x7b\"c\":7205759403792797.0\x7d]\x7d" := by
  decide +kernel

end Settings

end DataGrid
