import DataGrid.Proofs.Filter.RoundTrip
import DataGrid.Request

/-!
# Requests as they are written

A request is decoded from its own text (`Request.decode_compact_toJson`), where its numbers are. The text may
nest 127 arrays and objects, of which the request and its filter model take two; a level of a filter takes two
more, the innermost one as well when it is a group without nodes.
-/

namespace DataGrid

open Json (Reader toTree ofOption)

/-! ### Parts of records -/

namespace Json.Reader

variable {α : Type} {read : Reader α} {write : α → Json} {room : Nat}

theorem orNull_toTree {v : Json} (h : v.isNull = false) : orNull read room v.toTree = some <$> read room v.toTree := by
  cases v with
  | null => cases h
  | _ => rfl

theorem orNull_ofOption {value : Option α}
    (h : ∀ a, (write a).isNull = false ∧ read room (write a).toTree = .ok a) :
    orNull read room (ofOption write value).toTree = .ok value := by
  cases value with
  | none => rfl
  | some a =>
    show orNull read room (write a).toTree = _
    rw [orNull_toTree (h a).1, (h a).2]
    rfl

theorem orDefault_toTree {default a : α} {v : Json} (h : v.isNull = false) (hread : read room v.toTree = .ok a) :
    orDefault default read room v.toTree = .ok a := by
  rw [orDefault, orNull_toTree h, hread]
  rfl

theorem orDefault_list {values : List α} (h : ∀ a ∈ values, read room (write a).toTree = .ok a) :
    orDefault [] (list read) (room + 1) (Json.array (values.map write)).toTree = .ok values := by
  refine orDefault_toTree rfl ?_
  rw [toTree, list]
  induction values with
  | nil => rfl
  | cons a values ih =>
    rw [List.forall_mem_cons] at h
    rw [List.map_cons, itemsToTree, listItems, h.1, ih h.2]
    rfl

end Json.Reader

open Json.Reader (orNull_ofOption orDefault_list orDefault_toTree)

theorem Json.Reader.orNull_text (room : Nat) (value : Option String) :
    Json.Reader.orNull Json.Reader.text room (ofOption .text value).toTree = .ok value :=
  orNull_ofOption fun _ => ⟨rfl, rfl⟩

theorem Json.Reader.orNull_int64 (room : Nat) (value : Option Int64) :
    Json.Reader.orNull Json.Reader.int64 room (ofOption (fun i => .int i.toInt) value).toTree = .ok value := by
  refine orNull_ofOption fun i => ⟨rfl, ?_⟩
  have hlow := i.le_toInt
  have hhigh := i.toInt_lt
  show (if -9223372036854775808 ≤ i.toInt ∧ i.toInt < 9223372036854775808 then Except.ok (Int64.ofInt i.toInt)
    else .error Json.Fault.mismatch) = _
  rw [if_pos ⟨hlow, hhigh⟩, Int64.ofInt_toInt]

theorem Sort.Entry.read_toJson (room : Nat) (entry : Sort.Entry) :
    Sort.Entry.read (room + 1) entry.toJson.toTree = .ok entry := by
  have hdirection := Json.Reader.orNull_text room entry.direction
  simp [Sort.Entry.read, Sort.Entry.toJson, toTree, Json.membersToTree, Json.Reader.record,
    Json.Reader.recordMembers, Json.Reader.field, Json.Reader.text, Json.text, hdirection]
  rfl

theorem GroupColumn.read_toJson (room : Nat) (column : GroupColumn) :
    GroupColumn.read (room + 1) column.toJson.toTree = .ok column := by
  have hname := Json.Reader.orNull_text room column.displayName
  have hfield := Json.Reader.orNull_text room column.field
  simp [GroupColumn.read, GroupColumn.toJson, toTree, Json.membersToTree, Json.Reader.record,
    Json.Reader.recordMembers, Json.Reader.field, Json.Reader.text, Json.text, hname, hfield]
  rfl

namespace Request

theorem read_toJson {request : Request}
    (hnumbers : ∀ entry ∈ request.filterModel.entries, ∀ x ∈ entry.2.numbers, x.ReadsBack)
    (hdepth : ∀ entry ∈ request.filterModel.entries, entry.2.depth ≤ 62) :
    Request.read Json.maxDepth request.toJson.toTree = .ok request := by
  have hstart := Json.Reader.orNull_int64 126 request.startRow
  have hend := Json.Reader.orNull_int64 126 request.endRow
  have hsort := orDefault_list fun entry (_ : entry ∈ request.sortModel) => Sort.Entry.read_toJson 124 entry
  have hfilter : Json.Reader.orDefault .empty Filter.Model.read 126 request.filterModel.toJson.toTree =
      .ok request.filterModel :=
    orDefault_toTree rfl (Filter.Model.read_toJson hnumbers fun entry hentry => by
      have := hdepth entry hentry
      omega)
  have hcolumns (columns : List GroupColumn) :=
    orDefault_list fun column (_ : column ∈ columns) => GroupColumn.read_toJson 124 column
  have hpivot : Json.Reader.orDefault false Json.Reader.flag 126 (Json.bool request.pivotMode).toTree =
      .ok request.pivotMode := orDefault_toTree rfl rfl
  have hkeys : Json.Reader.orDefault [] (Json.Reader.list Json.Reader.text) 126
      (Json.array (request.groupKeys.map .text)).toTree = .ok request.groupKeys := orDefault_list fun _ _ => rfl
  rw [Request.read, Request.toJson, toTree]
  simp [Json.membersToTree, Json.maxDepth, Json.Reader.record, Json.Reader.recordMembers, Json.Reader.field,
    hstart, hend, hsort, hfilter, hcolumns, hpivot, hkeys]
  rfl

theorem readable_int64 (i : Int64) : (JsonNumber.integer i.toInt).Readable := by
  have hlow := i.le_toInt
  have hhigh := i.toInt_lt
  cases h : i.toInt with
  | ofNat n =>
    have hcapacity : n ≤ JsonNumber.capacity := by
      rw [h, Int.ofNat_eq_natCast] at hhigh
      unfold JsonNumber.capacity
      omega
    exact JsonNumber.readable_ofNat hcapacity
  | negSucc n =>
    rw [h] at hlow
    exact JsonNumber.readable_negSucc (by omega)

theorem every_toJson {request : Request}
    (hnumbers : ∀ entry ∈ request.filterModel.entries, ∀ x ∈ entry.2.numbers, x.ReadsBack) :
    request.toJson.Every JsonNumber.Readable := by
  have hint (value : Option Int64) : (ofOption (fun i => Json.int i.toInt) value).Every JsonNumber.Readable := by
    cases value with
    | none => trivial
    | some i => exact readable_int64 i
  have htext (value : Option String) : (ofOption .text value).Every JsonNumber.Readable := by
    cases value <;> trivial
  have hlist {α : Type} {write : α → Json} (h : ∀ a, (write a).Every JsonNumber.Readable) (values : List α) :
      (Json.array (values.map write)).Every JsonNumber.Readable := by
    refine Json.everyItem_of_forall fun v hv => ?_
    obtain ⟨a, -, rfl⟩ := List.mem_map.1 hv
    exact h a
  have hsort (entry : Sort.Entry) : entry.toJson.Every JsonNumber.Readable := ⟨trivial, htext _, trivial⟩
  have hcolumn (column : GroupColumn) : column.toJson.Every JsonNumber.Readable :=
    ⟨trivial, htext _, htext _, trivial⟩
  have hkey (key : String) : (Json.text key).Every JsonNumber.Readable := trivial
  exact ⟨hint _, hint _, hlist hsort _, Filter.Model.every_toJson hnumbers, hlist hcolumn _, hlist hcolumn _,
    hlist hcolumn _, trivial, hlist hkey _, trivial⟩

/-- A text, decoded and written again. -/
def rewrite (text : String) : Except Json.Fault String :=
  (fun request => Json.compact request.toJson) <$> Json.decode Request.read text

/-- A request is read back from the text that it is written as, when its filters have at most 62 levels and
its numbers are read back from their texts. So a text of such a request does not change any more once it has
been decoded and written. -/
theorem decode_compact_toJson (request : Request)
    (hdepth : ∀ entry ∈ request.filterModel.entries, entry.2.depth ≤ 62)
    (hnumbers : ∀ entry ∈ request.filterModel.entries, ∀ x ∈ entry.2.numbers, x.ReadsBack) :
    Json.decode Request.read (Json.compact request.toJson) = .ok request ∧
      ∀ text, Json.decode Request.read text = .ok request → rewrite text >>= rewrite = rewrite text := by
  have hread : Json.decode Request.read (Json.compact request.toJson) = .ok request := by
    rw [Json.decode_compact (every_toJson hnumbers), read_toJson hnumbers hdepth]
  refine ⟨hread, fun text htext => ?_⟩
  have hrewrite : rewrite text = .ok (Json.compact request.toJson) := by rw [rewrite, htext]; rfl
  rw [hrewrite]
  show rewrite _ = _
  rw [rewrite, hread]
  rfl

/-- Groups in groups, with numbers in the innermost node and in the own conditions of all groups. -/
def nestedNode (x y : Binary64) : Nat → Filter.Node
  | 0 => .group (some .unknown) [] (.number (some .unknown) (some x) none)
  | n + 1 => .group (some .or) [nestedNode x y n, .single (.boolean (some .unknown)) (some .and)]
      (.number none (some x) (some y))

theorem forall_numbers_nestedNode {P : Binary64 → Prop} {x y : Binary64} (hx : P x) (hy : P y) :
    ∀ n, ∀ z ∈ (nestedNode x y n).numbers, P z
  | 0 => by simp [nestedNode, Filter.Node.numbers, Filter.listNumbers, Filter.Condition.numbers, hx]
  | n + 1 => by
    have hnested := forall_numbers_nestedNode hx hy n
    simp only [nestedNode, Filter.Node.numbers, Filter.listNumbers, Filter.Condition.numbers,
      List.append_nil, List.forall_mem_append]
    exact ⟨hnested, by simp [hx, hy]⟩

/-- A filter of 62 levels, which ends in a group without nodes, on a column with a quote in its id; its
numbers are `0.1` and `-1e300`. -/
theorem decode_compact_toJson_nested :
    let x : Binary64 := .finite ⟨false, 4591870180066957722, by decide +kernel⟩
    let y : Binary64 := .finite ⟨true, 9094988921128908188, by decide +kernel⟩
    let node := nestedNode x y 61
    let request : Request :=
      { startRow := some (-1), filterModel := Dictionary.empty.insert "é\"\n" node,
        sortModel := [⟨"", none⟩], groupKeys := ["\x07"] }
    (∀ entry ∈ request.filterModel.entries, entry.2.depth ≤ 62) ∧
      (∀ entry ∈ request.filterModel.entries, ∀ x ∈ entry.2.numbers, x.ReadsBack) ∧
      Json.decode Request.read (Json.compact request.toJson) = .ok request ∧
      ∀ text, Json.decode Request.read text = .ok request → rewrite text >>= rewrite = rewrite text := by
  intro x y node request
  have hx : x.ReadsBack := by decide +kernel
  have hy : y.ReadsBack := by decide +kernel
  have hdepth : ∀ entry ∈ request.filterModel.entries, entry.2.depth ≤ 62 :=
    List.forall_mem_singleton.2 (by decide +kernel)
  have hnumbers : ∀ entry ∈ request.filterModel.entries, ∀ x ∈ entry.2.numbers, x.ReadsBack :=
    List.forall_mem_singleton.2 (forall_numbers_nestedNode hx hy 61)
  exact ⟨hdepth, hnumbers, decode_compact_toJson request hdepth hnumbers⟩

end Request

end DataGrid
