import DataGrid.Memory
import DataGrid.Proofs.Filter.Tokens
import DataGrid.Proofs.Request.Filters
import DataGrid.Proofs.Request.Reordering

/-!
# Requests with unknown names

No text in the place of a test or a join makes a request fail. In a text that is accepted any of them may be
replaced, in a filter node at any depth: the new text is accepted as well, with the choice that it names and
everything else as it was (`Request.parse_renamed`).
-/

namespace DataGrid

open Json (Source Space Reader)

namespace Request

/-- The source of a request with another text for a choice in its filters: they stand under their name, or in the
fourth place of an array. The node is one of the column `id`, with `rest` behind it. -/
inductive Renames (token : String) (choice : Filter.Choice) (path : List Nat) (id : String) (rest : Source.Members) :
    Source → Source → Prop
  | member {others : Source.Members} {s s' : Source} (h : Source.EditedMember
      (Source.EditedMember (Filter.Renames token choice path) id rest) "filterModel" others s s') :
      Renames token choice path id rest s s'
  | item {s s' : Source} (h : Source.EditedItem
      (Source.EditedMember (Filter.Renames token choice path) id rest) 3 s s') :
      Renames token choice path id rest s s'

section
variable {token : String} {choice : Filter.Choice} {path : List Nat} {id : String} {rest : Source.Members}

theorem exists_of_renames {s s' : Source} {request : Request} (h : Renames token choice path id rest s s')
    (hread : read Json.maxDepth s.tree = .ok request) :
    ∃ m', request.filterModel.RenamedAt token choice path id rest.names m' ∧
      read Json.maxDepth s'.tree = .ok { request with filterModel := m' } := by
  have hfilters {s s' : Source} {m : Filter.Model}
      (h : Source.EditedMember (Filter.Renames token choice path) id rest s s')
      (hread : Reader.orDefault .empty Filter.Model.read 126 s.tree = .ok m) :
      ∃ m', Reader.orDefault .empty Filter.Model.read 126 s'.tree = .ok m' ∧
        m.RenamedAt token choice path id rest.names m' := by
    have hobject := h
    obtain ⟨inner, -⟩ := hobject
    rw [Source.tree, orDefault_object] at hread ⊢
    exact Filter.Model.exists_of_renames h hread
  obtain ⟨front, back, hlength, hfields, hown⟩ := exists_read_eq
  rw [hfields] at hread ⊢
  cases h with
  | member h =>
    obtain ⟨inner, hmembers⟩ := h
    obtain ⟨m, m', hrenamed, hresult, hread'⟩ := hown.edited_members hfilters hmembers hread
    obtain rfl : m = request.filterModel := congrArg filterModel hresult
    exact ⟨m', hrenamed, hread'⟩
  | item h =>
    obtain ⟨inner, hitems⟩ := h
    rw [← hlength] at hitems
    obtain ⟨m, m', hrenamed, hresult, hread'⟩ :=
      (hown.of_subset (List.subset_append_right front back)).edited_items hfilters hitems hread
    obtain rfl : m = request.filterModel := congrArg filterModel hresult
    exact ⟨m', hrenamed, hread'⟩

end

/-- Every text that is accepted is cut into its parts in some way. However it is, when it has another text in the
place of a test or a join, as long as it is not too long, it is accepted as the same request but for that choice.
A test that is not known then gives nothing, but for the errors that come before it, and neither does a group with a
join that is not known, whose nodes are not looked at. -/
theorem parse_renamed :
    (∀ limits text request, parse limits text = .ok request →
      ∃ (before : Space) (s : Source) (after : Space), text = s.text before after) ∧
    (∀ (limits : Limits) (before : Space) (s s' : Source) (after : Space) (request : Request) (token : String)
      (choice : Filter.Choice) (path : List Nat) (id : String) (rest : Source.Members),
      Renames token choice path id rest s s' → parse limits (s.text before after) = .ok request →
        (s'.text before after).utf8ByteSize ≤ limits.bytes →
          ∃ m', request.filterModel.RenamedAt token choice path id rest.names m' ∧
            parse limits (s'.text before after) = .ok { request with filterModel := m' }) ∧
    (∀ {γ π : Type} (backend : Backend γ π) (id token : String) (node node' : Filter.Node),
      node.Renamed token .test node' → node.isGroup = false → token ∉ Filter.Choice.test.names node.family →
        node.LosesTest backend id node') ∧
    ∀ {γ π : Type} (backend : Backend γ π) (id token : String) (node node' : Filter.Node),
      node.Renamed token .join node' → node.isGroup = true → token ∉ Filter.Choice.join.names node.family →
        node'.compile backend id = ⟨.ok none, [.groupSkipped id]⟩ := by
  refine ⟨fun limits text request h => ?_,
    fun limits before s s' after request token choice path id rest hs h hsize => ?_,
    fun backend id token node node' h hgroup htoken => ?_, fun backend id token node node' h hgroup htoken => ?_⟩
  · obtain ⟨before, s, after, htext, -⟩ := Json.exists_source_of_decode (parse_eq_ok_iff.1 h).2.1
    exact ⟨before, s, after, htext⟩
  · rw [parse_eq_ok_iff, Json.decode_source] at h
    obtain ⟨-, hread, hcolumns, hdepth⟩ := h
    obtain ⟨m', hrenamed, hread'⟩ := exists_of_renames hs hread
    refine ⟨m', hrenamed, parse_eq_ok_iff.2 ⟨hsize, (Json.decode_source before s' after).trans hread', ?_, ?_⟩⟩
    · exact hrenamed.size_eq ▸ hcolumns
    · exact hrenamed.depth_le hdepth
  · cases h with
    | testSingle join h => exact Filter.Node.losesTest join h htoken
    | testGroup => cases hgroup
  · cases h with
    | joinSingle => cases hgroup
    | joinGroup old nodes own hname =>
      exact Filter.Node.compile_of_renamed_join (.joinGroup old nodes own hname) htoken

/-- In a group of a number and a date, the date has another test: once an unknown one, with quotes in it, and
once a known one. The group itself has another join. -/
theorem parse_renamed_nested :
    let word (s : String) : Source := .string (.ofString s)
    let number := compactObject [("filterType", word "number"), ("type", word "equals")]
    let date (test : String) :=
      compactObject [("filterType", word "date"), ("dateFrom", word "é"), ("type", word test)]
    let request (join test : String) := compactObject [("filterModel", compactObject [("c", compactObject
      [("operator", word join),
        ("conditions", .array .none (.cons .none number .none (.cons .none (date test) .none .nil))),
        ("filterType", word "text")])])]
    let text (join test : String) := (request join test).text .none .none
    let node (test : Filter.ScalarTest) : Filter.Node := .single (.date test "é" none) none
    let group (join : Filter.Join) (test : Filter.ScalarTest) : Filter.Node :=
      .group join [.single (.number (some .equals) none none) none, node test] (.text none none)
    let backend := Memory.backend (some ["c"])
    (∃ read, parse {} (text "OR" "blank") = .ok read ∧
      (∃ m', parse {} (text "OR" "\"") = .ok { read with filterModel := m' } ∧
        (read.filterModel.RenamedAt "\"" .test [1] "c" [] m')) ∧
      ∃ m', parse {} (text "XOR" "blank") = .ok { read with filterModel := m' } ∧
        (read.filterModel.RenamedAt "XOR" .join [] "c" [] m')) ∧
    (node .blank).LosesTest backend "c" (node .unknown) ∧
    (group .unknown .blank).compile backend "c" = ⟨.ok none, [.groupSkipped "c"]⟩ := by
  intro word number date request text node group backend
  have hname (name : String) : (Json.Label.ofString name).name = some name := Json.Literal.value_ofString name
  have htest : Renames "\"" .test [1] "c" .nil (request "OR" "blank") (request "OR" "\"") :=
    .member (.object _ (.here _ _ _ (hname _) (.object _ (.here _ _ _ (hname _)
      ⟨_, .object _ (.behind _ _ _ _ (.here _ _ _ (hname _) (.array _ (.behind _ _ _ (.here _ _ _
        ⟨_, .object _ (.behind _ _ _ _ (.behind _ _ _ _ (.here _ _ _ (hname _)
          (.string _ (Json.Literal.value_ofString _)))))⟩)))))⟩))))
  have hjoin : Renames "XOR" .join [] "c" .nil (request "OR" "blank") (request "XOR" "blank") :=
    .member (.object _ (.here _ _ _ (hname _) (.object _ (.here _ _ _ (hname _)
      ⟨_, .object _ (.here _ _ _ (hname _) (.string _ (Json.Literal.value_ofString _)))⟩))))
  have haccepted : (parse {} (text "OR" "blank")).isOk = true := by decide +kernel
  refine ⟨?_, ?_, ?_⟩
  · cases h : parse {} (text "OR" "blank") with
    | error error =>
      rw [h] at haccepted
      cases haccepted
    | ok read =>
      obtain ⟨m, hm, hread⟩ := parse_renamed.2.1 {} .none _ _ .none read _ _ _ _ _ htest h (by decide +kernel)
      obtain ⟨m', hm', hread'⟩ := parse_renamed.2.1 {} .none _ _ .none read _ _ _ _ _ hjoin h (by decide +kernel)
      exact ⟨read, rfl, ⟨m, hread, hm⟩, m', hread', hm'⟩
  · exact parse_renamed.2.2.1 backend "c" "\"" _ _
      (.testSingle none (.date _ _ _ (Filter.ScalarTest.names_ofName "\""))) rfl (by decide)
  · exact parse_renamed.2.2.2 backend "c" "XOR" _ _
      (.joinGroup (some .or) _ _ (Filter.Join.names_ofName "XOR")) rfl (by decide)

end Request

end DataGrid
