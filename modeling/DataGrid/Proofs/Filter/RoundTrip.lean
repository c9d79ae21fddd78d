import DataGrid.Filter.Decode
import DataGrid.Filter.Encode
import DataGrid.Proofs.Dictionary
import DataGrid.Proofs.Json.RoundTrip

/-!
# Filters as they are written

A filter node is read back from the JSON that it is written as, and so is a filter model (`Model.read_toJson`),
where its numbers are read back from their texts and there is room for its nodes.
-/

namespace DataGrid

/-- The text of the number in JSON is read as the number itself; there is none for the infinite ones and NaN. -/
def Binary64.ReadsBack (x : Binary64) : Prop := ∃ f, x = .finite f ∧ (JsonNumber.real f).ReadsBack

instance (x : Binary64) : Decidable x.ReadsBack :=
  match x with
  | .finite f => decidable_of_iff (JsonNumber.real f).ReadsBack
      ⟨fun h => ⟨f, rfl, h⟩, fun ⟨_, hf, h⟩ => Binary64.finite.inj hf ▸ h⟩
  | .infinite _ | .nan => isFalse nofun

theorem Binary64.ReadsBack.every {x : Binary64} (h : x.ReadsBack) : (Json.real x).Every JsonNumber.Readable := by
  obtain ⟨f, rfl, hf⟩ := h
  exact JsonNumber.readable_real hf

theorem Binary64.ReadsBack.exists_finite {x : Binary64} (h : x.ReadsBack) : ∃ f, x = .finite f := by
  obtain ⟨f, hx, -⟩ := h
  exact ⟨f, hx⟩

namespace Filter

open Json (member? part? ofOption)

/-! ### Names -/

theorem TextTest.ofName_name (test : TextTest) : TextTest.ofName test.name = test := by
  cases test <;> decide

theorem ScalarTest.ofName_name (test : ScalarTest) : ScalarTest.ofName test.name = test := by
  cases test <;> decide

theorem BooleanTest.ofName_name (test : BooleanTest) : BooleanTest.ofName test.name = test := by
  cases test <;> decide

theorem Join.ofName_name (join : Join) : Join.ofName join.name = join := by
  cases join <;> decide

theorem Family.ofName?_name (family : Family) : Family.ofName? family.name = some family := by
  cases family <;> decide

/-! ### Numbers -/

def Condition.numbers : Condition → List Binary64
  | .number _ value upper => value.toList ++ upper.toList
  | _ => []

mutual

/-- All numbers in a node, those in the own conditions of groups as well. -/
def Node.numbers : Node → List Binary64
  | .single condition _ => condition.numbers
  | .group _ nodes own => listNumbers nodes ++ own.numbers

def listNumbers : List Node → List Binary64
  | [] => []
  | node :: nodes => node.numbers ++ listNumbers nodes

end

/-! ### Members -/

section
variable {members members' : List (String × Json)} {name : String}

theorem member?_append_of_ne (h : ∀ m ∈ members, m.1 ≠ name) :
    member? (members ++ members') name = member? members' name := by
  have hnone : members.filter (·.1 = name) = [] :=
    List.filter_eq_nil_iff.2 fun m hm => by simpa using h m hm
  rw [member?, member?, List.filter_append, hnone, List.nil_append]

theorem member?_cons_self (value : Json) (h : ∀ m ∈ members, m.1 ≠ name) :
    member? ((name, value) :: members) name = some value := by
  have hnone : members.filter (·.1 = name) = [] :=
    List.filter_eq_nil_iff.2 fun m hm => by simpa using h m hm
  rw [member?, List.filter_cons_of_pos (by simp), hnone]

theorem member?_of_ne (h : ∀ m ∈ members, m.1 ≠ name) : member? members name = some .null := by
  rw [← List.append_nil members, member?_append_of_ne h]
  rfl

theorem groups?_append_of_ne (h : ∀ m ∈ members, m.1 ≠ "conditions") :
    groups? (members ++ members') = groups? members' := by
  induction members with
  | nil => rfl
  | cons m members ih =>
    rw [List.forall_mem_cons] at h
    rw [List.cons_append, groups?, if_neg h.1, ih h.2]

end

theorem Join.name_of_mem_members {join : Option Join} : ∀ m ∈ Join.members join, m.1 = "operator" := by
  intro m hm
  cases join with
  | none => cases hm
  | some join =>
    cases List.mem_singleton.1 hm
    rfl

def partNames : List String := ["type", "filter", "filterTo", "dateFrom", "dateTo"]

theorem Condition.name_of_mem_members (c : Condition) : ∀ m ∈ c.members, m.1 ∈ partNames := by
  cases c <;> simp [Condition.members, partNames]

theorem condition?_congr {members members' : List (String × Json)} (family : Family)
    (h : ∀ name ∈ partNames, member? members name = member? members' name) :
    condition? family members = condition? family members' := by
  simp only [partNames, List.forall_mem_cons] at h
  obtain ⟨htype, hfilter, hfilterTo, hdateFrom, hdateTo, -⟩ := h
  unfold condition?
  simp only [part?, htype, hfilter, hfilterTo, hdateFrom, hdateTo]

section
variable {α : Type}

theorem optional_ofOption {read : Json → Option α} {write : α → Json} {value : Option α}
    (h : ∀ a ∈ value, (write a).isNull = false ∧ read (write a) = some a) :
    Json.optional read (ofOption write value) = some value := by
  cases value with
  | none => rfl
  | some a =>
    obtain ⟨hnull, hread⟩ := h a rfl
    show Json.optional read (write a) = _
    unfold Json.optional
    split
    · next heq =>
      rw [heq] at hnull
      cases hnull
    · rw [hread]
      rfl

theorem optional_text (value : Option String) : Json.optional Json.text? (ofOption .text value) = some value :=
  optional_ofOption fun _ _ => ⟨rfl, rfl⟩

theorem optional_number {value : Option Binary64} (h : ∀ x ∈ value, ∃ f, x = .finite f) :
    Json.optional Json.number? (ofOption .real value) = some value := by
  refine optional_ofOption fun x hx => ?_
  obtain ⟨f, rfl⟩ := h x hx
  exact ⟨rfl, rfl⟩

theorem optional_name {ofName : String → α} {name : α → String} (h : ∀ a, ofName (name a) = a) (value : Option α) :
    Json.optional (fun v => v.name?.map ofName) (ofOption (fun a => .text (name a)) value) = some value :=
  optional_ofOption fun a _ => ⟨rfl, congrArg some (h a)⟩

end

theorem Condition.condition?_members (c : Condition) (hfinite : ∀ x ∈ c.numbers, ∃ f, x = .finite f) :
    condition? c.family c.members = some c := by
  cases c with
  | text test value | object test value =>
    have htest := optional_name TextTest.ofName_name test
    simp [condition?, Condition.family, Condition.members, part?, member?, htest, optional_text]
  | number test value upper =>
    have htest := optional_name ScalarTest.ofName_name test
    have hvalue := optional_number fun x hx => hfinite x (List.mem_append_left _ (Option.mem_toList.2 hx))
    have hupper := optional_number fun x hx => hfinite x (List.mem_append_right _ (Option.mem_toList.2 hx))
    simp [condition?, Condition.family, Condition.members, part?, member?, htest, hvalue, hupper]
  | boolean test =>
    have htest := optional_name BooleanTest.ofName_name test
    simp [condition?, Condition.family, Condition.members, part?, member?, htest]
  | date test value upper =>
    have htest := optional_name ScalarTest.ofName_name test
    simp [condition?, Condition.family, Condition.members, part?, member?, htest, optional_text]

/-! ### Nodes -/

section
variable {c : Condition} {join : Option Join} {inner : List (String × Json)}

/-- The members of a node; `inner` is the list of nodes to join, where it has one. -/
def nodeMembers (c : Condition) (join : Option Join) (inner : List (String × Json)) : List (String × Json) :=
  ("filterType", .text c.family.name) :: (Join.members join ++ (inner ++ c.members))

theorem Node.toJson_single (c : Condition) (join : Option Join) :
    (Node.single c join).toJson = .object (nodeMembers c join []) := by
  rw [Node.toJson]
  rfl

theorem Node.toJson_group (join : Option Join) (nodes : List Node) (own : Condition) :
    (Node.group join nodes own).toJson =
      .object (nodeMembers own join [("conditions", .array (Node.listToJson nodes))]) := by
  rw [Node.toJson]
  rfl

theorem Condition.name_ne_of_mem_members {name : String} (hname : name ∉ partNames) : ∀ m ∈ c.members, m.1 ≠ name :=
  fun m hm h => hname (h ▸ c.name_of_mem_members m hm)

theorem Join.name_ne_of_mem_members {name : String} (hname : name ≠ "operator") :
    ∀ m ∈ Join.members join, m.1 ≠ name :=
  fun m hm h => hname (h ▸ Join.name_of_mem_members m hm)

variable (hinner : ∀ m ∈ inner, m.1 = "conditions")
include hinner

theorem family_nodeMembers : member? (nodeMembers c join inner) "filterType" >>= family? = some c.family := by
  have hfamily : member? (nodeMembers c join inner) "filterType" = some (.text c.family.name) := by
    refine member?_cons_self _ ?_
    simp only [List.forall_mem_append]
    exact ⟨Join.name_ne_of_mem_members (by decide), fun m hm => by rw [hinner m hm]; decide,
      Condition.name_ne_of_mem_members (by decide)⟩
  rw [hfamily]
  exact Family.ofName?_name c.family

theorem condition?_nodeMembers (hfinite : ∀ x ∈ c.numbers, ∃ f, x = .finite f) :
    condition? c.family (nodeMembers c join inner) = some c := by
  have hnames : ∀ name ∈ partNames, "filterType" ≠ name ∧ name ≠ "operator" ∧ "conditions" ≠ name := by decide
  refine (condition?_congr c.family fun name hname => ?_).trans (c.condition?_members hfinite)
  obtain ⟨hfamily, hjoin, hconditions⟩ := hnames name hname
  rw [nodeMembers, ← List.append_assoc, ← List.cons_append]
  refine member?_append_of_ne ?_
  simp only [List.forall_mem_cons, List.forall_mem_append]
  exact ⟨hfamily, Join.name_ne_of_mem_members hjoin, fun m hm => by rw [hinner m hm]; exact hconditions⟩

theorem join_nodeMembers :
    part? (nodeMembers c join inner) "operator" (fun v => v.name?.map Join.ofName) = some join := by
  have hrest : ∀ m ∈ inner ++ c.members, m.1 ≠ "operator" := by
    simp only [List.forall_mem_append]
    exact ⟨fun m hm => by rw [hinner m hm]; decide, Condition.name_ne_of_mem_members (by decide)⟩
  have hjoin : member? (Join.members join ++ (inner ++ c.members)) "operator" =
      some (ofOption (fun join : Join => .text join.name) join) := by
    cases join with
    | none => exact member?_of_ne hrest
    | some join => exact member?_cons_self _ hrest
  have hfamily : ∀ m ∈ [("filterType", Json.text c.family.name)], m.1 ≠ "operator" := by simp
  rw [part?, nodeMembers, ← List.singleton_append, member?_append_of_ne hfamily, hjoin]
  exact optional_name Join.ofName_name join

omit hinner in
theorem groups?_nodeMembers : groups? (nodeMembers c join inner) = groups? (inner ++ c.members) := by
  rw [nodeMembers, ← List.cons_append]
  refine groups?_append_of_ne ?_
  rw [List.forall_mem_cons]
  exact ⟨by simp, Join.name_ne_of_mem_members (by decide)⟩

omit hinner in
theorem groups?_members : groups? c.members = some [] := by
  rw [← List.append_nil c.members, groups?_append_of_ne (Condition.name_ne_of_mem_members (by decide))]
  rfl

end

mutual

theorem Node.ofJson?_toJson : ∀ {node : Node}, (∀ x ∈ node.numbers, ∃ f, x = .finite f) →
    Node.ofJson? node.toJson = some node
  | .single c join, h => by
    have hinner : ∀ m ∈ ([] : List (String × Json)), m.1 = "conditions" := List.forall_mem_nil _
    rw [Node.toJson_single, Node.ofJson?, family_nodeMembers hinner]
    simp only [Option.bind_eq_bind, Option.bind_some, condition?_nodeMembers hinner h, groups?_nodeMembers,
      List.nil_append, groups?_members, Option.map_eq_map, join_nodeMembers hinner]
    rfl
  | .group join nodes own, h => by
    rw [Node.numbers, List.forall_mem_append] at h
    have hinner : ∀ m ∈ [("conditions", Json.array (Node.listToJson nodes))], m.1 = "conditions" := by simp
    rw [Node.toJson_group, Node.ofJson?, family_nodeMembers hinner]
    simp only [Option.bind_eq_bind, Option.bind_some, condition?_nodeMembers hinner h.2, groups?_nodeMembers,
      List.singleton_append, groups?, if_true, group?, nodes?_listToJson h.1, groups?_members, Option.map_eq_map,
      Option.map_some, join_nodeMembers hinner]
    rfl

theorem nodes?_listToJson : ∀ {nodes : List Node}, (∀ x ∈ listNumbers nodes, ∃ f, x = .finite f) →
    nodes? (Node.listToJson nodes) = some nodes
  | [], _ => rfl
  | node :: nodes, h => by
    rw [listNumbers, List.forall_mem_append] at h
    rw [Node.listToJson, nodes?, Node.ofJson?_toJson h.1, nodes?_listToJson h.2]
    rfl

end

/-! ### Texts of nodes -/

open Json (Every EveryMember EveryItem height membersHeight itemsHeight membersToTree)

/-- The values in a condition are texts and numbers, or missing. -/
theorem Condition.forall_mem_members {P : Json → Prop} (hnull : P .null) (htext : ∀ s, P (.string s)) {c : Condition}
    (hnumber : ∀ x ∈ c.numbers, P (.real x)) : ∀ m ∈ c.members, P m.2 := by
  have hvalue {α : Type} {write : α → Json} {value : Option α} (h : ∀ a ∈ value, P (write a)) :
      P (ofOption write value) := by
    cases value with
    | none => exact hnull
    | some a => exact h a rfl
  cases c with
  | text test value | object test value =>
    simp only [members, List.forall_mem_cons]
    exact ⟨hvalue fun _ _ => htext _, hvalue fun _ _ => htext _, List.forall_mem_nil _⟩
  | number test value upper =>
    simp only [members, List.forall_mem_cons]
    exact ⟨hvalue fun _ _ => htext _,
      hvalue fun x hx => hnumber x (List.mem_append_left _ (Option.mem_toList.2 hx)),
      hvalue fun x hx => hnumber x (List.mem_append_right _ (Option.mem_toList.2 hx)), List.forall_mem_nil _⟩
  | boolean test =>
    simp only [members, List.forall_mem_cons]
    exact ⟨hvalue fun _ _ => htext _, List.forall_mem_nil _⟩
  | date test value upper =>
    simp only [members, List.forall_mem_cons]
    exact ⟨hvalue fun _ _ => htext _, hvalue fun _ _ => htext _, hvalue fun _ _ => htext _, List.forall_mem_nil _⟩

theorem forall_mem_nodeMembers {P : Json → Prop} (hnull : P .null) (htext : ∀ s, P (.string s)) {c : Condition}
    (hnumber : ∀ x ∈ c.numbers, P (.real x)) {join : Option Join} {inner : List (String × Json)}
    (hinner : ∀ m ∈ inner, P m.2) : ∀ m ∈ nodeMembers c join inner, P m.2 := by
  simp only [nodeMembers, List.forall_mem_cons, List.forall_mem_append]
  refine ⟨htext _, ?_, hinner, Condition.forall_mem_members hnull htext hnumber⟩
  cases join with
  | none => exact List.forall_mem_nil _
  | some join => exact List.forall_mem_singleton.2 (htext _)

theorem height_nodeMembers {c : Condition} {join : Option Join} {inner : List (String × Json)} {n : Nat}
    (hinner : ∀ m ∈ inner, m.2.height ≤ n) : ∀ m ∈ nodeMembers c join inner, m.2.height ≤ n := by
  have hreal (x : Binary64) : (Json.real x).height = 0 := by cases x <;> rfl
  exact forall_mem_nodeMembers (P := fun v => v.height ≤ n) (Nat.zero_le n) (fun _ => Nat.zero_le n)
    (fun x _ => hreal x ▸ Nat.zero_le n) hinner

mutual

theorem Node.every_toJson : ∀ {node : Node}, (∀ x ∈ node.numbers, x.ReadsBack) →
    node.toJson.Every JsonNumber.Readable
  | .single c join, h => by
    rw [Node.toJson_single]
    exact Json.everyMember_of_forall (forall_mem_nodeMembers trivial (fun _ => trivial) (fun x hx => (h x hx).every)
      (List.forall_mem_nil _))
  | .group join nodes own, h => by
    rw [Node.numbers, List.forall_mem_append] at h
    have hnodes : EveryItem JsonNumber.Readable (Node.listToJson nodes) := everyItem_listToJson h.1
    rw [Node.toJson_group]
    exact Json.everyMember_of_forall (forall_mem_nodeMembers trivial (fun _ => trivial) (fun x hx => (h.2 x hx).every)
      (List.forall_mem_singleton.2 hnodes))

theorem everyItem_listToJson : ∀ {nodes : List Node}, (∀ x ∈ listNumbers nodes, x.ReadsBack) →
    EveryItem JsonNumber.Readable (Node.listToJson nodes)
  | [], _ => trivial
  | node :: nodes, h => by
    rw [listNumbers, List.forall_mem_append] at h
    exact ⟨Node.every_toJson h.1, everyItem_listToJson h.2⟩

end

mutual

/-- The list of nodes in a group takes a place as well, and may be empty. -/
theorem Node.height_toJson : ∀ node : Node, node.toJson.height ≤ 2 * node.depth
  | .single c join => by
    have hinner : ∀ m ∈ ([] : List (String × Json)), m.2.height ≤ 0 := List.forall_mem_nil _
    have hmembers : membersHeight (nodeMembers c join []) ≤ 0 := Json.membersHeight_le (height_nodeMembers hinner)
    rw [Node.toJson_single, height, Node.depth]
    omega
  | .group join nodes own => by
    have hnodes : (Json.array (Node.listToJson nodes)).height ≤ 2 * Node.greatestDepth nodes + 1 := by
      rw [height, Nat.add_comm]
      exact Nat.succ_le_succ (itemsHeight_listToJson nodes)
    have hinner : ∀ m ∈ [("conditions", Json.array (Node.listToJson nodes))],
        m.2.height ≤ 2 * Node.greatestDepth nodes + 1 := List.forall_mem_singleton.2 hnodes
    have hmembers : membersHeight (nodeMembers own join _) ≤ _ := Json.membersHeight_le (height_nodeMembers hinner)
    rw [Node.toJson_group, height, Node.depth]
    omega

theorem itemsHeight_listToJson : ∀ nodes : List Node,
    itemsHeight (Node.listToJson nodes) ≤ 2 * Node.greatestDepth nodes
  | [] => Nat.le_refl 0
  | node :: nodes => by
    have hnode := Node.height_toJson node
    have hnodes := itemsHeight_listToJson nodes
    rw [Node.listToJson, itemsHeight, Node.greatestDepth]
    omega

end

/-! ### Reading -/

open Json (Reader Tree Members)

theorem readMembers_toTree {room : Nat} {hasFamily : Bool} {members : List (String × Json)}
    (hname : ∀ m ∈ members, m.1 ≠ "filterType") (hheight : membersHeight members ≤ room) :
    readMembers room hasFamily (membersToTree members) = .ok members := by
  induction members with
  | nil => rfl
  | cons m members ih =>
    rw [List.forall_mem_cons] at hname
    obtain ⟨hvalue, hmembers⟩ := Nat.max_le.1 hheight
    rw [membersToTree, readMembers, if_neg hname.1, Json.raw_toTree hvalue, ih hname.2 hmembers]
    rfl

theorem readMembers_nodeMembers {room : Nat} {c : Condition} {join : Option Join} {inner : List (String × Json)}
    (hinner : ∀ m ∈ inner, m.1 = "conditions") (hheight : membersHeight (nodeMembers c join inner) ≤ room) :
    readMembers room false (membersToTree (nodeMembers c join inner)) = .ok (nodeMembers c join inner) := by
  have hrest : ∀ m ∈ Join.members join ++ (inner ++ c.members), m.1 ≠ "filterType" := by
    simp only [List.forall_mem_append]
    exact ⟨Join.name_ne_of_mem_members (by decide), fun m hm => by rw [hinner m hm]; decide,
      Condition.name_ne_of_mem_members (by decide)⟩
  rw [nodeMembers, membersToTree, readMembers, if_pos rfl, readMembers_toTree hrest (Nat.max_le.1 hheight).2]
  simp [Json.toTree, Reader.text, Json.text, bind, Except.bind, Family.ofName?_name]
  rfl

theorem Node.read_toJson {room : Nat} {node : Node} (hnumbers : ∀ x ∈ node.numbers, x.ReadsBack)
    (hroom : 2 * node.depth ≤ room) : Node.read room node.toJson.toTree = .ok node := by
  obtain ⟨members, hmembers, hread⟩ : ∃ members, node.toJson = .object members ∧
      ∀ room, membersHeight members ≤ room → readMembers room false (membersToTree members) = .ok members := by
    cases node with
    | single c join =>
      have hinner : ∀ m ∈ ([] : List (String × Json)), m.1 = "conditions" := List.forall_mem_nil _
      exact ⟨_, Node.toJson_single c join, fun _ => readMembers_nodeMembers hinner⟩
    | group join nodes own =>
      have hinner : ∀ m ∈ [("conditions", Json.array (Node.listToJson nodes))], m.1 = "conditions" := by simp
      exact ⟨_, Node.toJson_group join nodes own, fun _ => readMembers_nodeMembers hinner⟩
  have hnode := Node.ofJson?_toJson fun x hx => (hnumbers x hx).exists_finite
  have hheight := node.height_toJson
  rw [hmembers, height] at hheight
  obtain ⟨room, rfl⟩ : ∃ n, room = n + 1 := ⟨room - 1, by omega⟩
  rw [hmembers] at hnode ⊢
  rw [Json.toTree, Node.read, hread room (by omega)]
  dsimp only [bind, Except.bind]
  rw [hnode]

theorem Model.every_toJson {m : Model} (hnumbers : ∀ entry ∈ m.entries, ∀ x ∈ entry.2.numbers, x.ReadsBack) :
    m.toJson.Every JsonNumber.Readable := by
  refine Json.everyMember_of_forall fun member hmember => ?_
  obtain ⟨entry, hentry, rfl⟩ := List.mem_map.1 hmember
  exact Node.every_toJson (hnumbers entry hentry)

/-- A filter model is read back where there is room for two arrays or objects for each level of its nodes. -/
theorem Model.read_toJson {room : Nat} {m : Model}
    (hnumbers : ∀ entry ∈ m.entries, ∀ x ∈ entry.2.numbers, x.ReadsBack)
    (hroom : ∀ entry ∈ m.entries, 2 * entry.2.depth ≤ room) : Model.read (room + 1) m.toJson.toTree = .ok m := by
  have hentries : ∀ entries : List (String × Node),
      (∀ entry ∈ entries, Node.read room entry.2.toJson.toTree = .ok entry.2) →
        Reader.entryMembers (Node.read room) (membersToTree (entries.map fun entry => (entry.1, entry.2.toJson))) =
          .ok entries := by
    intro entries h
    induction entries with
    | nil => rfl
    | cons entry entries ih =>
      rw [List.forall_mem_cons] at h
      rw [List.map_cons, membersToTree, Reader.entryMembers, h.1, ih h.2]
      rfl
  have hread := hentries m.entries fun entry hentry => Node.read_toJson (hnumbers entry hentry) (hroom entry hentry)
  rw [Model.toJson, Json.toTree, Model.read, Reader.entries, hread]
  show Except.ok (Dictionary.ofList m.entries) = _
  rw [Dictionary.ofList_entries]

end Filter

end DataGrid
