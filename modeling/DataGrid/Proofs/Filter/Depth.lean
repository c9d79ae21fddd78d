import DataGrid.Filter.Compile
import DataGrid.Proofs.Json.Nesting
import DataGrid.Proofs.Stack
import DataGrid.Request
import Mathlib.Order.Bounds.Basic

/-!
# The depth of filters

Each level of a filter takes two places of the room that a text has for arrays and objects, so a filter
that is read has at most 63 levels (`Request.depth_of_decode`). The depth of a node is the number of nodes on its
longest way down (`Node.isGreatest_depth`). Computing the depth of a node and compiling
it take one nested call for each level (`Node.ends_depthStacked`, `Node.ends_compileStacked`).
-/

namespace DataGrid

namespace Filter

/-! ### Ways down -/

/-- The nodes on a way from a node down to one that has none below it. -/
inductive Node.Way : Node → List Node → Prop
  | single (condition : Condition) (join : Option Join) :
      Node.Way (.single condition join) [.single condition join]
  | empty (join : Option Join) (own : Condition) : Node.Way (.group join [] own) [.group join [] own]
  | down (join : Option Join) (own : Condition) {nodes : List Node} {node : Node} {way : List Node}
      (hnode : node ∈ nodes) (h : Node.Way node way) :
      Node.Way (.group join nodes own) (.group join nodes own :: way)

def Node.wayLengths (node : Node) : Set Nat := {n | ∃ way, node.Way way ∧ way.length = n}

theorem depth_le_greatestDepth {node : Node} : ∀ {nodes : List Node}, node ∈ nodes →
    node.depth ≤ Node.greatestDepth nodes
  | _ :: _, .head _ => Nat.le_max_left ..
  | _ :: _, .tail _ h => Nat.le_trans (depth_le_greatestDepth h) (Nat.le_max_right ..)

theorem Node.Way.length_le_depth {node : Node} {way : List Node} (h : node.Way way) : way.length ≤ node.depth := by
  induction h with
  | single | empty => exact Nat.le_refl 1
  | down join own hnode _ ih =>
    rw [List.length_cons, Nat.add_comm, Node.depth]
    exact Nat.add_le_add_left (Nat.le_trans ih (depth_le_greatestDepth hnode)) 1

mutual

theorem Node.exists_way : ∀ node : Node, ∃ way, node.Way way ∧ way.length = node.depth
  | .single condition join => ⟨_, .single condition join, rfl⟩
  | .group join [] own => ⟨_, .empty join own, rfl⟩
  | .group join (first :: rest) own => by
    obtain ⟨node, hnode, way, hway, hlength⟩ := exists_way_greatestDepth (first :: rest) nofun
    refine ⟨_, .down join own hnode hway, ?_⟩
    rw [List.length_cons, hlength, Node.depth, Nat.add_comm]

/-- The deepest of some nodes has a way as long as all of them allow. -/
theorem exists_way_greatestDepth : ∀ nodes : List Node, nodes ≠ [] →
    ∃ node ∈ nodes, ∃ way, node.Way way ∧ way.length = Node.greatestDepth nodes
  | [first], _ => by
    obtain ⟨way, hway, hlength⟩ := first.exists_way
    exact ⟨first, List.mem_cons_self, way, hway, hlength.trans (Nat.max_zero _).symm⟩
  | first :: second :: rest, _ => by
    rw [Node.greatestDepth]
    rcases Nat.le_total (Node.greatestDepth (second :: rest)) first.depth with hle | hle
    · obtain ⟨way, hway, hlength⟩ := first.exists_way
      exact ⟨first, List.mem_cons_self, way, hway, hlength.trans (Nat.max_eq_left hle).symm⟩
    · obtain ⟨node, hnode, way, hway, hlength⟩ := exists_way_greatestDepth (second :: rest) nofun
      exact ⟨node, List.mem_cons_of_mem _ hnode, way, hway, hlength.trans (Nat.max_eq_right hle).symm⟩

end

theorem Node.isGreatest_depth (node : Node) : IsGreatest node.wayLengths node.depth := by
  refine ⟨node.exists_way, ?_⟩
  rintro n ⟨way, hway, rfl⟩
  exact hway.length_le_depth

theorem Node.forall_wayLengths_le_iff {node : Node} {limit : Nat} :
    (∀ n ∈ node.wayLengths, n ≤ limit) ↔ node.depth ≤ limit :=
  ⟨fun h => h _ node.isGreatest_depth.1, fun h _ hn => Nat.le_trans (node.isGreatest_depth.2 hn) h⟩

/-! ### Levels and room -/

section
open Json (height itemsHeight membersHeight)

mutual

theorem Node.depth_of_ofJson? : ∀ {json : Json} {node : Node}, Node.ofJson? json = some node →
    2 * node.depth ≤ json.height + 1
  | .object members, node, h => by
    rw [Node.ofJson?] at h
    obtain ⟨family, -, h⟩ := Option.bind_eq_some_iff.1 h
    obtain ⟨condition, -, h⟩ := Option.bind_eq_some_iff.1 h
    obtain ⟨join, -, h⟩ := Option.bind_eq_some_iff.1 h
    obtain ⟨groups, hgroups, h⟩ := Option.bind_eq_some_iff.1 h
    rw [height]
    match groups, h with
    | [], h | [none], h =>
      cases h
      rw [Node.depth]
      omega
    | [some nodes], h =>
      cases h
      have hnodes := depth_of_groups? hgroups nodes (List.mem_singleton_self _)
      rw [Node.depth]
      omega

theorem depth_of_groups? : ∀ {members : List (String × Json)} {groups : List (Option (List Node))},
    groups? members = some groups → ∀ nodes, some nodes ∈ groups →
      2 * Node.greatestDepth nodes ≤ membersHeight members
  | [], _, h => by
    cases h
    exact nofun
  | (name, value) :: rest, _, h => by
    rw [groups?] at h
    rw [membersHeight]
    split at h
    · obtain ⟨group, hgroup, h⟩ := Option.bind_eq_some_iff.1 h
      obtain ⟨groups, hgroups, h⟩ := Option.bind_eq_some_iff.1 h
      cases h
      intro nodes hnodes
      rcases List.mem_cons.1 hnodes with rfl | hnodes
      · have := depth_of_group? hgroup nodes rfl
        omega
      · have := depth_of_groups? hgroups nodes hnodes
        omega
    · intro nodes hnodes
      have := depth_of_groups? h nodes hnodes
      omega

theorem depth_of_group? : ∀ {json : Json} {group : Option (List Node)}, group? json = some group →
    ∀ nodes ∈ group, 2 * Node.greatestDepth nodes ≤ json.height
  | .null, _, h => by
    cases h
    exact nofun
  | .array items, _, h => by
    obtain ⟨nodes, hnodes, h⟩ := Option.map_eq_some_iff.1 h
    cases h
    rintro _ ⟨⟩
    have := depth_of_nodes? hnodes
    rw [height]
    omega

theorem depth_of_nodes? : ∀ {items : List Json} {nodes : List Node}, nodes? items = some nodes →
    2 * Node.greatestDepth nodes ≤ itemsHeight items + 1
  | [], _, h => by
    cases h
    exact Nat.zero_le _
  | item :: items, _, h => by
    obtain ⟨node, hnode, h⟩ := Option.bind_eq_some_iff.1 h
    obtain ⟨nodes, hnodes, h⟩ := Option.bind_eq_some_iff.1 h
    cases h
    have := Node.depth_of_ofJson? hnode
    have := depth_of_nodes? hnodes
    rw [Node.greatestDepth, itemsHeight]
    omega

end

open Json (Members Reader Tree)

theorem height_of_readMembers {room : Nat} : ∀ {hasFamily : Bool} {members : Members}
    {list : List (String × Json)}, readMembers room hasFamily members = .ok list →
      membersHeight list ≤ room
  | _, .closed, _, h => by
    cases h
    exact Nat.zero_le _
  | hasFamily, .member (some name) value rest, _, h => by
    rw [readMembers] at h
    split at h
    · split at h
      · cases h
      · obtain ⟨family, -, h⟩ := Except.exists_of_bind_eq_ok h
        split at h
        · cases h
        · obtain ⟨list, hlist, h⟩ := Except.exists_of_bind_eq_ok h
          cases h
          exact Nat.max_le.2 ⟨Nat.zero_le _, height_of_readMembers hlist⟩
    · obtain ⟨json, hjson, h⟩ := Except.exists_of_bind_eq_ok h
      obtain ⟨list, hlist, h⟩ := Except.exists_of_bind_eq_ok h
      cases h
      exact Nat.max_le.2 ⟨Tree.height_of_raw hjson, height_of_readMembers hlist⟩

theorem Node.depth_of_read {room : Nat} {tree : Tree} {node : Node} (h : Node.read room tree = .ok node) :
    2 * node.depth ≤ room + 1 := by
  unfold Node.read at h
  split at h
  · cases h
  · cases h
  · cases h
  · obtain ⟨members, hmembers, h⟩ := Except.exists_of_bind_eq_ok h
    split at h
    · next hnode =>
      cases h
      have hdepth := Node.depth_of_ofJson? hnode
      have hheight := height_of_readMembers hmembers
      rw [height] at hdepth
      omega
    · cases h
  · cases h

theorem Model.depth_of_read {room : Nat} {tree : Tree} {m : Model} (h : Model.read room tree = .ok m) :
    ∀ entry ∈ m.entries, 2 * entry.2.depth ≤ room := by
  obtain ⟨entries, hentries, h⟩ := Except.exists_of_bind_eq_ok h
  cases h
  refine Dictionary.forall_ofList (P := fun node : Node => 2 * node.depth ≤ room) ?_
  unfold Reader.entries at hentries
  split at hentries
  · cases hentries
  · next members room =>
    have hread : ∀ tree node, tree.Every (fun _ => True) → Node.read room tree = .ok node →
        2 * node.depth ≤ room + 1 := fun _ _ _ => Node.depth_of_read
    exact Reader.every_entryMembers hread members.every_true hentries
  · cases hentries

end

end Filter

open Json (Reader) in
/-- Two of the 127 places are taken by the request and by its filter model. -/
theorem Request.depth_of_decode {text : String} {request : Request}
    (h : Json.decode Request.read text = .ok request) :
    ∀ entry ∈ request.filterModel.entries, entry.2.depth ≤ 63 := by
  obtain ⟨value, hvalue, h⟩ := Except.exists_of_bind_eq_ok h
  split at h
  · cases h
    -- The other fields leave the filters alone.
    let Shallow (request : Request) : Prop := ∀ entry ∈ request.filterModel.entries, entry.2.depth ≤ 63
    have hfilter : (Reader.field "filterModel" (Reader.orDefault .empty Filter.Model.read)
        fun filterModel request => { request with filterModel }).KeepsAt (fun _ => True) 126 Shallow := by
      intro tree record record' _ _ hread
      obtain ⟨m, hm, rfl⟩ := Except.exists_of_map_eq_ok hread
      rcases Reader.eq_or_of_orDefault hm with rfl | hm
      · intro entry hentry
        cases hentry
      · intro entry hentry
        have := Filter.Model.depth_of_read hm entry hentry
        omega
    have hstart : Shallow {} := by
      intro entry hentry
      cases hentry
    refine Reader.every_record (R := Shallow) hstart ?_ (Json.Tree.every_true _) hvalue
    simp only [List.forall_mem_cons]
    exact ⟨Reader.keepsAt_field fun _ _ h => h, Reader.keepsAt_field fun _ _ h => h,
      Reader.keepsAt_field fun _ _ h => h, hfilter, Reader.keepsAt_field fun _ _ h => h,
      Reader.keepsAt_field fun _ _ h => h, Reader.keepsAt_field fun _ _ h => h,
      Reader.keepsAt_field fun _ _ h => h, Reader.keepsAt_field fun _ _ h => h, nofun⟩
  · cases h

/-- A request is accepted when its text is read and all limits are kept. -/
theorem Request.parse_eq_ok_iff {limits : Limits} {text : String} {request : Request} :
    Request.parse limits text = .ok request ↔ text.utf8ByteSize ≤ limits.bytes ∧
      Json.decode Request.read text = .ok request ∧ request.filterModel.size ≤ limits.columns ∧
      ∀ entry ∈ request.filterModel.entries, entry.2.depth ≤ limits.depth := by
  have hdeep (read : Request) : Request.tooDeep? limits read.filterModel = none ↔
      ∀ entry ∈ read.filterModel.entries, entry.2.depth ≤ limits.depth := by
    simp [Request.tooDeep?]
  constructor
  · intro h
    unfold Request.parse at h
    split at h
    · cases h
    · split at h
      · cases h
      · next hsize _ read hread =>
        split at h
        · cases h
        · next hcolumns =>
          split at h
          · cases h
          · next hnone =>
            cases h
            exact ⟨Nat.le_of_not_lt hsize, hread, Nat.le_of_not_lt hcolumns, (hdeep _).1 hnone⟩
  · rintro ⟨hsize, hread, hcolumns, hdepth⟩
    rw [← hdeep] at hdepth
    simp only [Request.parse, hread, hdepth, Nat.not_lt.2 hsize, Nat.not_lt.2 hcolumns, if_false]

/-- Only the filters of a text that is read are measured. -/
theorem Request.depth_of_filterTooDeep {limits : Limits} {text column : String} {depth max : Nat}
    (h : Request.parse limits text = .error (.filterTooDeep column depth max)) :
    max = limits.depth ∧ max < depth ∧ ∃ request, Json.decode Request.read text = .ok request ∧
      ∃ entry ∈ request.filterModel.entries, entry.1 = column ∧ entry.2.depth = depth := by
  unfold Request.parse at h
  split at h
  · cases h
  · split at h
    · cases h
    · next request hread =>
      split at h
      · cases h
      · split at h
        · next node hnode =>
          cases h
          have hdeep := List.find?_some hnode
          exact ⟨rfl, by simpa using hdeep, request, hread, _, List.mem_of_find?_eq_some hnode, rfl, rfl⟩
        · cases h

/-! ### Nested calls -/

namespace Filter

mutual

def Node.depthStacked : Node → Stacked Nat
  | .single .. => .call (pure 1)
  | .group _ nodes _ => .call do return 1 + (← greatestDepthStacked nodes)

def greatestDepthStacked : List Node → Stacked Nat
  | [] => pure 0
  | node :: nodes => do return max (← node.depthStacked) (← greatestDepthStacked nodes)

end

mutual

/-- A call for each level is enough to compute the depth. -/
theorem Node.ends_depthStacked : ∀ node : Node, node.depthStacked.Ends node.depth node.depth
  | .single .. => (Stacked.ends_pure 0 1).call
  | .group _ nodes _ => by
    rw [Node.depthStacked, Node.depth]
    refine (Stacked.Ends.call ?_).mono (Nat.le_of_eq (Nat.add_comm ..))
    exact (ends_greatestDepthStacked nodes).bind (Stacked.ends_pure _ _)

theorem ends_greatestDepthStacked : ∀ nodes : List Node,
    (greatestDepthStacked nodes).Ends (Node.greatestDepth nodes) (Node.greatestDepth nodes)
  | [] => Stacked.ends_pure _ _
  | node :: nodes => by
    rw [greatestDepthStacked, Node.greatestDepth]
    refine (node.ends_depthStacked.mono (Nat.le_max_left ..)).bind ?_
    exact ((ends_greatestDepthStacked nodes).mono (Nat.le_max_right ..)).bind (Stacked.ends_pure _ _)

end

section
variable {γ π : Type} (backend : Backend γ π) (id : String)

mutual

def Node.compileStacked : Node → Stacked (Logged (Except Error (Option π)))
  | .single condition _ => .call (pure (pure (condition.compile backend id)))
  | .group join nodes _ => .call (
    match Join.compile backend join with
    | none => pure do
      log (.groupSkipped id)
      return .ok none
    | some combine => do
      let compiled ← compileAllStacked nodes
      return do
        let predicates ← compiled
        return .ok (combine predicates))

def compileAllStacked : List Node → Stacked (Logged (List π))
  | [] => pure (pure [])
  | node :: nodes => do
    let first ← node.compileStacked
    let rest ← compileAllStacked nodes
    return do
      let predicate ← keep id node (← first)
      let predicates ← rest
      return predicate.toList ++ predicates

end

mutual

/-- A call for each level is enough to compile a node. -/
theorem Node.ends_compileStacked : ∀ node : Node,
    (node.compileStacked backend id).Ends node.depth (node.compile backend id)
  | .single condition join => (Stacked.ends_pure _ _).call
  | .group join nodes own => by
    rw [Node.compileStacked, Node.compile, Node.depth, Nat.add_comm]
    refine Stacked.Ends.call ?_
    cases Join.compile backend join with
    | none => exact Stacked.ends_pure _ _
    | some combine => exact (ends_compileAllStacked nodes).bind (Stacked.ends_pure _ _)

theorem ends_compileAllStacked : ∀ nodes : List Node,
    (compileAllStacked backend id nodes).Ends (Node.greatestDepth nodes) (compileAll backend id nodes)
  | [] => Stacked.ends_pure _ _
  | node :: nodes => by
    rw [compileAllStacked, compileAll, Node.greatestDepth]
    refine (node.ends_compileStacked.mono (Nat.le_max_left ..)).bind ?_
    exact ((ends_compileAllStacked nodes).mono (Nat.le_max_right ..)).bind (Stacked.ends_pure _ _)

end

end

end Filter

end DataGrid
