import DataGrid.Proofs.Filter.Depth
import DataGrid.Proofs.Request.Filters
import DataGrid.Proofs.Request.Reordering

/-!
# Requests at their limits

A text is refused for the first of four reasons: it is too long, it cannot be read, it has filters for too many columns,
or one of the filters is too deep; and accepted otherwise (`Request.Answer`). So every accepted request is within all
limits, and larger limits change nothing about it (`Request.parse_limited`).
-/

namespace DataGrid

open Json (Source)
open DataGrid.Filter (Node)

namespace Request

/-- A text that is not too long is the text of this source, and read as this request. -/
structure Decodes (limits : Limits) (text : String) (s : Source) (request : Request) : Prop where
  bytes_le : (bytes text).length ≤ limits.bytes
  text_eq : ∃ before after, text = s.text before after
  read_eq : read Json.maxDepth s.tree = .ok request

/-- How a text is answered within limits. The columns are counted in the text, each once; of filters that are too deep
the one with the smallest column, by its bytes, is the answer, with the length of its longest way down. -/
inductive Answer (limits : Limits) (text : String) : Except RequestError Request → Prop
  | tooLarge (h : limits.bytes < (bytes text).length) : Answer limits text (.error (.tooLarge limits.bytes))
  | invalidJson {fault : Json.Fault} (hbytes : (bytes text).length ≤ limits.bytes)
      (h : Json.decode read text = .error fault) : Answer limits text (.error (.invalidJson fault))
  | tooManyFilters {s : Source} {request : Request} (h : Decodes limits text s request)
      (hcolumns : limits.columns < (filterColumns s).dedup.length) :
      Answer limits text (.error (.tooManyFilters (filterColumns s).dedup.length limits.columns))
  | filterTooDeep {s : Source} {request : Request} {id : String} {node : Node} {depth : Nat}
      (h : Decodes limits text s request) (hcolumns : (filterColumns s).dedup.length ≤ limits.columns)
      (hnode : request.filterModel.find? id = some node) (hdepth : IsGreatest node.wayLengths depth)
      (hdeep : limits.depth < depth)
      (hfirst : ∀ other node', request.filterModel.find? other = some node' → bytes other < bytes id →
        ∀ n ∈ node'.wayLengths, n ≤ limits.depth) :
      Answer limits text (.error (.filterTooDeep id depth limits.depth))
  | accepted {s : Source} {request : Request} (h : Decodes limits text s request)
      (hcolumns : (filterColumns s).dedup.length ≤ limits.columns)
      (hdepth : ∀ id node, request.filterModel.find? id = some node → ∀ n ∈ node.wayLengths, n ≤ limits.depth) :
      Answer limits text (.ok request)

section
variable {limits : Limits} {m : Filter.Model}

theorem tooDeep?_eq_none_iff :
    tooDeep? limits m = none ↔ ∀ id node, m.find? id = some node → node.depth ≤ limits.depth := by
  simp only [tooDeep?, List.find?_eq_none, Prod.forall, Dictionary.find?_eq_some_iff, decide_eq_true_eq, Nat.not_lt]

/-- The entries stand in the order of the bytes of their columns. -/
theorem tooDeep?_eq_some_iff {id : String} {node : Node} :
    tooDeep? limits m = some (id, node) ↔ m.find? id = some node ∧ limits.depth < node.depth ∧
      ∀ other node', m.find? other = some node' → bytes other < bytes id → node'.depth ≤ limits.depth := by
  simp only [tooDeep?, List.find?_eq_some_iff_append, Dictionary.find?_eq_some_iff, decide_eq_true_eq]
  constructor
  · rintro ⟨hdeep, front, back, hentries, hfront⟩
    refine ⟨hentries ▸ List.mem_append_right _ List.mem_cons_self, hdeep, fun other node' hmem hlt => ?_⟩
    have hsorted := m.pairwise_bytes
    rw [hentries, List.pairwise_append, List.pairwise_cons] at hsorted
    rw [hentries] at hmem
    rcases List.mem_append.1 hmem with hmem | hmem
    · simpa using hfront _ hmem
    · rcases List.mem_cons.1 hmem with heq | hmem
      · cases heq
        exact absurd hlt (List.lt_irrefl _)
      · exact absurd hlt (List.lt_asymm (hsorted.2.1.1 _ hmem))
  · rintro ⟨hmem, hdeep, hfirst⟩
    obtain ⟨front, back, hentries⟩ := List.append_of_mem hmem
    refine ⟨hdeep, front, back, hentries, fun entry hentry => ?_⟩
    have hsorted := m.pairwise_bytes
    rw [hentries, List.pairwise_append] at hsorted
    have hle := hfirst entry.1 entry.2 (hentries ▸ List.mem_append_left _ hentry)
      (hsorted.2.2 entry hentry _ List.mem_cons_self)
    simpa using hle

end

section
variable {limits : Limits} {text : String} {s : Source} {request : Request}

theorem Decodes.decode_eq (h : Decodes limits text s request) : Json.decode read text = .ok request := by
  obtain ⟨before, after, rfl⟩ := h.text_eq
  exact (Json.decode_source before s after).trans h.read_eq

theorem answer_parse (limits : Limits) (text : String) : Answer limits text (parse limits text) := by
  unfold parse
  split
  · next hbytes => exact .tooLarge (length_bytes text ▸ hbytes)
  · next hbytes =>
    rw [Nat.not_lt, ← length_bytes] at hbytes
    split
    · next hdecode => exact .invalidJson hbytes hdecode
    · next request hdecode =>
      obtain ⟨before, s, after, htext, hread⟩ := Json.exists_source_of_decode hdecode
      have h : Decodes limits text s request := ⟨hbytes, ⟨before, after, htext⟩, hread⟩
      rw [size_eq hread]
      split
      · next hcolumns => exact .tooManyFilters h hcolumns
      · next hcolumns =>
        split
        · next id node hdeep =>
          obtain ⟨hnode, hdeep, hfirst⟩ := tooDeep?_eq_some_iff.1 hdeep
          exact .filterTooDeep h (Nat.le_of_not_lt hcolumns) hnode node.isGreatest_depth hdeep
            fun other node' hnode' hlt => Node.forall_wayLengths_le_iff.2 (hfirst other node' hnode' hlt)
        · next hnone =>
          exact .accepted h (Nat.le_of_not_lt hcolumns)
            fun id node hnode => Node.forall_wayLengths_le_iff.2 (tooDeep?_eq_none_iff.1 hnone id node hnode)

theorem Answer.parse_eq {answer : Except RequestError Request} (h : Answer limits text answer) :
    parse limits text = answer := by
  unfold parse
  cases h with
  | tooLarge hbytes => rw [if_pos (length_bytes text ▸ hbytes)]
  | invalidJson hbytes hdecode => rw [if_neg (Nat.not_lt.2 (length_bytes text ▸ hbytes)), hdecode]
  | tooManyFilters h hcolumns =>
    rw [if_neg (Nat.not_lt.2 (length_bytes text ▸ h.bytes_le)), h.decode_eq]
    simp only [size_eq h.read_eq, if_pos hcolumns]
  | filterTooDeep h hcolumns hnode hdepth hdeep hfirst =>
    obtain rfl := hdepth.unique (Node.isGreatest_depth _)
    have hsome := tooDeep?_eq_some_iff.2 ⟨hnode, hdeep,
      fun other node' hnode' hlt => Node.forall_wayLengths_le_iff.1 (hfirst other node' hnode' hlt)⟩
    rw [if_neg (Nat.not_lt.2 (length_bytes text ▸ h.bytes_le)), h.decode_eq]
    simp only [size_eq h.read_eq, if_neg (Nat.not_lt.2 hcolumns), hsome]
  | accepted h hcolumns hdepth =>
    have hnone := tooDeep?_eq_none_iff.2 fun id node hnode => Node.forall_wayLengths_le_iff.1 (hdepth id node hnode)
    rw [if_neg (Nat.not_lt.2 (length_bytes text ▸ h.bytes_le)), h.decode_eq]
    simp only [size_eq h.read_eq, if_neg (Nat.not_lt.2 hcolumns), hnone]

end

/-- A text has one answer, that of its first fault. What is accepted is within all limits, and is accepted as the same
request when limits are larger. -/
theorem parse_limited :
    (∀ limits text answer, parse limits text = answer ↔ Answer limits text answer) ∧
    (∀ (limits : Limits) text request, parse limits text = .ok request →
      (bytes text).length ≤ limits.bytes ∧ request.filterModel.ids.length ≤ limits.columns ∧
        ∀ id node, request.filterModel.find? id = some node → ∀ n ∈ node.wayLengths, n ≤ limits.depth) ∧
    ∀ (limits larger : Limits) text request, limits.bytes ≤ larger.bytes → limits.columns ≤ larger.columns →
      limits.depth ≤ larger.depth → parse limits text = .ok request → parse larger text = .ok request := by
  refine ⟨fun limits text answer => ⟨fun h => h ▸ answer_parse limits text, Answer.parse_eq⟩,
    fun limits text request h => ?_, fun limits larger text request hbytes hcolumns hdepth h => ?_⟩
  · have hanswer := answer_parse limits text
    rw [h] at hanswer
    cases hanswer with
    | accepted h hcolumns hdepth =>
      refine ⟨h.bytes_le, ?_, hdepth⟩
      rw [Dictionary.ids, List.length_map]
      exact (size_eq h.read_eq).trans_le hcolumns
  · rw [parse_eq_ok_iff] at h ⊢
    obtain ⟨hsize, hread, hcount, hdeep⟩ := h
    exact ⟨hsize.trans hbytes, hread, hcount.trans hcolumns, fun entry hentry => (hdeep entry hentry).trans hdepth⟩

def IsError (error : RequestError) : Except RequestError Request → Prop
  | .error other => other = error
  | .ok _ => False

instance (error : RequestError) : DecidablePred (IsError error)
  | .error other => inferInstanceAs (Decidable (other = error))
  | .ok _ => isFalse id

theorem isError_iff {error : RequestError} {answer : Except RequestError Request} :
    IsError error answer ↔ answer = .error error := by
  cases answer with
  | error other => exact Except.error.injEq other error ▸ Iff.rfl
  | ok request => exact ⟨False.elim, nofun⟩

/-- Of two deep filters that of "b" is reported, although "é" comes first. It is given twice, and only the last one
counts and is measured; a group without nodes is as deep as a single condition. -/
theorem parse_limited_repeated :
    let leaf := "\x7b\"filterType\":\"text\"\x7d"
    let group (nodes : String) := "\x7b\"filterType\":\"text\",\"conditions\":[" ++ nodes ++ "]\x7d"
    let text := "\x7b\"filterModel\":\x7b\"é\":" ++ group leaf ++ ",\"b\":" ++ leaf ++ ",\"a\":" ++ group "" ++
      ",\"b\":" ++ group (group leaf) ++ "\x7d\x7d"
    let limits (columns depth : Nat) : Limits := ⟨(bytes text).length, columns, depth⟩
    Answer ⟨20, 3, 1⟩ text (.error (.tooLarge 20)) ∧
    Answer (limits 2 1) text (.error (.tooManyFilters 3 2)) ∧
    Answer (limits 3 1) text (.error (.filterTooDeep "b" 3 1)) ∧
    ∃ request, parse (limits 3 3) text = .ok request ∧ request.filterModel.ids.length ≤ 3 ∧
      (∀ id node, request.filterModel.find? id = some node → ∀ n ∈ node.wayLengths, n ≤ 3) ∧
      parse {} text = .ok request := by
  intro leaf group text limits
  have haccepted : (parse (limits 3 3) text).isOk = true := by decide +kernel
  refine ⟨(parse_limited.1 _ text _).1 (isError_iff.1 (by decide +kernel)),
    (parse_limited.1 _ text _).1 (isError_iff.1 (by decide +kernel)),
    (parse_limited.1 _ text _).1 (isError_iff.1 (by decide +kernel)), ?_⟩
  cases h : parse (limits 3 3) text with
  | error error =>
    rw [h] at haccepted
    cases haccepted
  | ok request =>
    obtain ⟨-, hcolumns, hdepth⟩ := parse_limited.2.1 (limits 3 3) text request h
    exact ⟨request, rfl, hcolumns, hdepth,
      parse_limited.2.2 (limits 3 3) {} text request (by decide +kernel) (by decide) (by decide) h⟩

end Request

end DataGrid
