import DataGrid.Proofs.Filter.Depth
import DataGrid.Proofs.Filter.Reordering
import DataGrid.Proofs.Json.RoundTrip
import DataGrid.Service

/-!
# Requests and the order of members

A request is read from its text whatever the order of the members in the objects of the text, as long as no
object repeats a name (`Request.parse_of_reordered`). So the statement for a request and the rows that it asks
for do not depend on that order either.
-/

namespace DataGrid

open Json (Source Space Reader)
open Json.Reader (IgnoresOrder commutes_field)
open Json.Reader.IgnoresOrder (text flag int64 field)

/-! ### Readers of records -/

theorem Sort.Entry.ignoresOrder_read : IgnoresOrder Sort.Entry.read := by
  refine (IgnoresOrder.record ?_ ?_ true ({} : Sort.Entry.Draft)).bind _
  · simp only [List.forall_mem_cons]
    exact ⟨text.field, text.orNull.field, List.forall_mem_nil _⟩
  · simp only [List.pairwise_cons, List.forall_mem_cons]
    exact ⟨⟨commutes_field fun _ _ _ => rfl, List.forall_mem_nil _⟩, List.forall_mem_nil _, .nil⟩

theorem GroupColumn.ignoresOrder_read : IgnoresOrder GroupColumn.read := by
  refine (IgnoresOrder.record ?_ ?_ true ({} : GroupColumn.Draft)).bind _
  · simp only [List.forall_mem_cons]
    exact ⟨text.field, text.orNull.field, text.orNull.field, List.forall_mem_nil _⟩
  · simp only [List.pairwise_cons, List.forall_mem_cons]
    exact ⟨⟨commutes_field fun _ _ _ => rfl, commutes_field fun _ _ _ => rfl, List.forall_mem_nil _⟩,
      ⟨commutes_field fun _ _ _ => rfl, List.forall_mem_nil _⟩, List.forall_mem_nil _, .nil⟩

namespace Request

theorem ignoresOrder_read : IgnoresOrder Request.read := by
  have hcolumns := GroupColumn.ignoresOrder_read.list.orDefault []
  refine IgnoresOrder.record ?_ ?_ true ({} : Request)
  · simp only [List.forall_mem_cons]
    exact ⟨int64.orNull.field, int64.orNull.field, (Sort.Entry.ignoresOrder_read.list.orDefault []).field,
      (Filter.Model.ignoresOrder_read.orDefault _).field, hcolumns.field, hcolumns.field, hcolumns.field,
      (flag.orDefault _).field, (text.list.orDefault []).field, List.forall_mem_nil _⟩
  · -- Each field has its own place in a request.
    simp only [List.pairwise_cons, List.forall_mem_cons]
    repeat' constructor
    all_goals first | exact commutes_field fun _ _ _ => rfl | exact List.forall_mem_nil _

/-! ### Whole texts -/

theorem length_bytes (s : String) : (bytes s).length = s.utf8ByteSize := by
  rw [bytes]
  simp

/-- Characters in another order take as many bytes. -/
theorem utf8ByteSize_of_perm {cs cs' : List Char} (h : cs.Perm cs') :
    (String.ofList cs).utf8ByteSize = (String.ofList cs').utf8ByteSize := by
  rw [← length_bytes, ← length_bytes, bytes_eq, bytes_eq, String.toList_ofList, String.toList_ofList]
  exact (h.flatMap_right String.utf8EncodeChar).length_eq

theorem parse_of_reordered {limits : Limits} {before : Space} {s s' : Source} {after : Space} {request : Request}
    (hd : s.Distinct) (hs : s.Reordered s') (h : parse limits (s.text before after) = .ok request) :
    parse limits (s'.text before after) = .ok request := by
  rw [parse_eq_ok_iff, Json.decode_source] at h ⊢
  obtain ⟨hsize, hread, hlimits⟩ := h
  have hbytes : (s'.text before after).utf8ByteSize = (s.text before after).utf8ByteSize :=
    (utf8ByteSize_of_perm ((hs.perm.append_right _).append_left _)).symm
  exact ⟨hbytes ▸ hsize, ignoresOrder_read _ s s' request hs hd hread, hlimits⟩

/-- Every text that is accepted is cut into its parts in some way, and however it is: when no object repeats a
name, the members of all objects may come in any order. The same request is accepted, and it is answered by the
same statement and by the same rows. -/
theorem parse_reordered (limits : Limits) :
    (∀ text request, parse limits text = .ok request →
      ∃ (before : Space) (s : Source) (after : Space), text = s.text before after) ∧
    ∀ (before : Space) (s s' : Source) (after : Space) (request : Request), s.Distinct → s.Reordered s' →
      parse limits (s.text before after) = .ok request →
        parse limits (s'.text before after) = .ok request ∧
          ∀ settings : Settings, settings.limits = limits →
            settings.compile (s'.text before after) = settings.compile (s.text before after) ∧
              ∀ rowsText, settings.query (s'.text before after) rowsText =
                settings.query (s.text before after) rowsText := by
  refine ⟨fun text request h => ?_, fun before s s' after request hd hs h => ?_⟩
  · obtain ⟨before, s, after, htext, -⟩ := Json.exists_source_of_decode (parse_eq_ok_iff.1 h).2.1
    exact ⟨before, s, after, htext⟩
  · have h' := parse_of_reordered hd hs h
    refine ⟨h', fun settings hsettings => ?_⟩
    have haccept : settings.accept (s'.text before after) = settings.accept (s.text before after) := by
      rw [Settings.accept, Settings.accept, hsettings, accept, accept, h, h']
    exact ⟨by rw [Settings.compile, Settings.compile, haccept],
      fun rowsText => by rw [Settings.query, Settings.query, haccept]⟩

def compactMembers (members : List (String × Source)) : Source.Members :=
  .ofList (members.map fun member => (.ofString member.1, .none, member.2, .none))

def compactObject (members : List (String × Source)) : Source := .object .none (compactMembers members)

theorem distinct_compactObject_iff {members : List (String × Source)} :
    (compactObject members).Distinct ↔ (members.map Prod.fst).Nodup ∧ ∀ member ∈ members, member.2.Distinct := by
  have hlabel (name : String) : (Json.Label.ofString name).name = some name := Json.Literal.value_ofString name
  have hnames (members : List (String × Source)) : (compactMembers members).names = members.map Prod.fst := by
    induction members with
    | nil => rfl
    | cons member rest ih =>
      show (Json.Label.ofString member.1).name.toList ++ (compactMembers rest).names = _
      rw [ih, hlabel]
      rfl
  show (compactMembers members).Distinct ↔ _
  induction members with
  | nil => exact ⟨fun _ => ⟨.nil, List.forall_mem_nil _⟩, fun _ => trivial⟩
  | cons member rest ih =>
    show (∀ name ∈ (Json.Label.ofString member.1).name, name ∉ (compactMembers rest).names) ∧
      member.2.Distinct ∧ (compactMembers rest).Distinct ↔ _
    rw [ih, hnames, hlabel, List.map_cons, List.nodup_cons, List.forall_mem_cons]
    simp only [Option.mem_def, Option.some.injEq, forall_eq']
    exact ⟨fun ⟨hnew, hvalue, hnodup, hrest⟩ => ⟨⟨hnew, hnodup⟩, hvalue, hrest⟩,
      fun ⟨⟨hnew, hnodup⟩, hvalue, hrest⟩ => ⟨hnew, hvalue, hnodup, hrest⟩⟩

theorem reordered_reverse (members : List (String × Source)) :
    (compactMembers members).Reordered (compactMembers members.reverse) :=
  Source.Members.reordered_of_perm ((List.reverse_perm members).symm.map _)

/-- A group with a date filter in it, and a sort entry: all their members, and those of the request, are read from
behind. -/
theorem parse_reordered_reverse :
    let word (s : String) : Source := .string (.ofString s)
    let list (item : Source) : Source := .array .none (.cons .none item .none .nil)
    let leaf := [("filterType", word "date"), ("type", compactObject [("blank", .null)]), ("dateFrom", word "é")]
    let group (leaf : List (String × Source)) :=
      [("filterType", word "object"), ("conditions", list (compactObject leaf)), ("operator", word "OR")]
    let entry := [("colId", word "c"), ("sort", word "asc")]
    let request (group entry : List (String × Source)) :=
      [("filterModel", compactObject [("c", compactObject group)]), ("sortModel", list (compactObject entry))]
    let s := compactObject (request (group leaf) entry)
    let s' := compactObject (request (group leaf.reverse).reverse entry.reverse).reverse
    let text := s.text .none .none
    let text' := s'.text .none .none
    s'.chars = "\x7b\"sortModel\":[\x7b\"sort\":\"asc\",\"colId\":\"c\"\x7d],".toList ++
        "\"filterModel\":\x7b\"c\":\x7b\"operator\":\"OR\",\"conditions\":[\x7b\"dateFrom\":\"é\",".toList ++
        "\"type\":\x7b\"blank\":null\x7d,\"filterType\":\"date\"\x7d],\"filterType\":\"object\"\x7d\x7d\x7d".toList ∧
      s.Distinct ∧ s.Reordered s' ∧
      ∃ request, request.filterModel.entries.map (fun entry => (entry.1, entry.2.depth)) = [("c", 2)] ∧
        request.sortModel = [⟨"c", some "asc"⟩] ∧
        parse {} text = .ok request ∧ parse {} text' = .ok request ∧
          ∀ settings : Settings, settings.limits = {} → settings.compile text' = settings.compile text ∧
            ∀ rowsText, settings.query text' rowsText = settings.query text rowsText := by
  intro word list leaf group entry request s s' text text'
  have hdistinct : s.Distinct := by
    simp [s, request, group, leaf, entry, list, word, distinct_compactObject_iff, Source.Distinct,
      Source.Items.Distinct]
  have hleaf : (compactObject leaf).Reordered (compactObject leaf.reverse) := .object _ (reordered_reverse _)
  have hgroup : (compactObject (group leaf)).Reordered (compactObject (group leaf.reverse).reverse) :=
    .object _ (.trans (.cons _ _ _ (.refl _)
      (.cons _ _ _ (.array _ (.cons _ _ hleaf .nil)) (Source.Members.reordered_self _)))
        (reordered_reverse (group leaf.reverse)))
  have hentry : (compactObject entry).Reordered (compactObject entry.reverse) := .object _ (reordered_reverse _)
  have hreordered : s.Reordered s' :=
    .object _ (.trans (.cons _ _ _ (.object _ (.cons _ _ _ hgroup .nil))
      (.cons _ _ _ (.array _ (.cons _ _ hentry .nil)) .nil))
        (reordered_reverse (request (group leaf.reverse).reverse entry.reverse)))
  have haccepted : (parse {} text).toOption.map (fun request =>
      (request.filterModel.entries.map (fun entry => (entry.1, entry.2.depth)), request.sortModel)) =
        some ([("c", 2)], [⟨"c", some "asc"⟩]) := by
    decide +kernel
  cases h : parse {} text with
  | error error =>
    rw [h] at haccepted
    cases haccepted
  | ok read =>
    rw [h] at haccepted
    obtain ⟨hentries, hsort⟩ := Prod.mk.inj (Option.some.inj haccepted)
    exact ⟨by decide +kernel, hdistinct, hreordered, read, hentries, hsort, rfl,
      (parse_reordered {}).2 _ s s' _ read hdistinct hreordered h⟩

end Request

end DataGrid
