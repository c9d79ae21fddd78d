import DataGrid.Proofs.Filter.Simulation
import DataGrid.Proofs.Json.Numbers

/-!
# The numbers of filters

A filter that is read from a text compares with numbers of the text only, so with finite ones
(`Request.finite_of_parse`). What each condition of a filter model comes to makes up the predicate of the
model: a property that joining keeps holds of it when it holds of them (`Model.compile_of_conditions`).
-/

namespace DataGrid

namespace Filter

mutual

/-- All conditions of a node have a property; the own condition of a group does not count. -/
def Node.Every (P : Condition → Prop) : Node → Prop
  | .single condition _ => P condition
  | .group _ nodes _ => EveryNode P nodes

def EveryNode (P : Condition → Prop) : List Node → Prop
  | [] => True
  | node :: nodes => node.Every P ∧ EveryNode P nodes

end

/-- All conditions of a filter model have a property. -/
def Model.Every (P : Condition → Prop) (m : Model) : Prop := ∀ entry ∈ m.entries, entry.2.Every P

mutual

theorem Node.Every.imp {P Q : Condition → Prop} (h : ∀ c, P c → Q c) :
    ∀ {node : Node}, node.Every P → node.Every Q
  | .single c _, hc => h c hc
  | .group _ _ _, hnodes => EveryNode.imp h hnodes

theorem EveryNode.imp {P Q : Condition → Prop} (h : ∀ c, P c → Q c) :
    ∀ {nodes : List Node}, EveryNode P nodes → EveryNode Q nodes
  | [], _ => trivial
  | _ :: _, hnodes => ⟨hnodes.1.imp h, EveryNode.imp h hnodes.2⟩

end

/-! ### Predicates of conditions -/

section
variable {γ π : Type} {backend : Backend γ π} {Q : π → Prop}

/-- What the condition comes to has a property, if it gives a predicate. -/
def Condition.Gives (backend : Backend γ π) (id : String) (Q : π → Prop) (c : Condition) : Prop :=
  ∀ p, c.compile backend id = .ok (some p) → Q p

theorem forall_mem_keep {id : String} {node : Node} {x : Except Error (Option π)} {ps : List π}
    (h : ∀ p, x = .ok (some p) → Q p) (hps : ∀ p ∈ ps, Q p) :
    ∀ p ∈ (keep id node x).value.toList ++ ps, Q p := by
  match x with
  | .error _ | .ok none => exact hps
  | .ok (some p) => exact List.forall_mem_cons.2 ⟨h p rfl, hps⟩

/-- Joining predicates with a property gives one with it. -/
structure KeptByJoins (backend : Backend γ π) (Q : π → Prop) : Prop where
  all : ∀ ps, (∀ p ∈ ps, Q p) → Q (backend.all ps)
  any : ∀ ps, (∀ p ∈ ps, Q p) → Q (backend.any ps)
  always : Q backend.always

mutual

theorem Node.compile_of_conditions (hQ : KeptByJoins backend Q) {id : String} : ∀ {node : Node},
    node.Every (Condition.Gives backend id Q) →
      ∀ p, (node.compile backend id).value = .ok (some p) → Q p
  | .single c _, hc, p, hp => by
    rw [Node.value_compile_single] at hp
    exact hc p hp
  | .group join nodes own, hnodes, p, hp => by
    have hps := compileAll_of_conditions hQ hnodes
    rw [Node.value_compile_group] at hp
    match join, hp with
    | some .and, hp =>
      cases hp
      exact hQ.all _ hps
    | some .or, hp =>
      cases hp
      exact hQ.any _ hps

theorem compileAll_of_conditions (hQ : KeptByJoins backend Q) {id : String} : ∀ {nodes : List Node},
    EveryNode (Condition.Gives backend id Q) nodes → ∀ p ∈ (compileAll backend id nodes).value, Q p
  | [], _ => by
    rw [compileAll]
    exact nofun
  | node :: nodes, hnodes => by
    rw [value_compileAll_cons]
    exact forall_mem_keep (Node.compile_of_conditions hQ hnodes.1) (compileAll_of_conditions hQ hnodes.2)

end

theorem compileEntries_of_conditions (hQ : KeptByJoins backend Q) {entries : List (String × Node)}
    (h : ∀ entry ∈ entries, entry.2.Every (Condition.Gives backend entry.1 Q)) :
    ∀ p ∈ (compileEntries backend entries).value, Q p := by
  induction entries with
  | nil => exact nofun
  | cons entry entries ih =>
    rw [List.forall_mem_cons] at h
    exact forall_mem_keep (Node.compile_of_conditions hQ h.1) (ih h.2)

/-- The predicate of a filter model is joined from those of its conditions. -/
theorem Model.compile_of_conditions (hQ : KeptByJoins backend Q) {m : Model}
    (h : ∀ entry ∈ m.entries, entry.2.Every (Condition.Gives backend entry.1 Q)) :
    Q (m.compile backend).value := by
  rw [Model.value_compile]
  split
  · exact hQ.always
  · exact hQ.all _ (compileEntries_of_conditions hQ h)

end

/-! ### Filters in texts -/

/-- The numbers that a condition compares with are finite. -/
def Condition.IsFinite : Condition → Prop
  | .number _ value upper => (∀ x ∈ value, ∃ f, x = .finite f) ∧ ∀ x ∈ upper, ∃ f, x = .finite f
  | _ => True

section
variable {members : List (String × Json)}

open Json (Every EveryMember EveryItem)

theorem every_of_mem {P : JsonNumber → Prop} : ∀ {members : List (String × Json)}, EveryMember P members →
    ∀ member ∈ members, member.2.Every P
  | (_, _) :: _, h, member, hmember => by
    rcases List.mem_cons.1 hmember with rfl | hmember
    · exact h.1
    · exact every_of_mem h.2 member hmember

theorem every_of_member? {P : JsonNumber → Prop} {name : String} {value : Json}
    (hmembers : EveryMember P members) (h : Json.member? members name = some value) : value.Every P := by
  unfold Json.member? at h
  split at h
  · cases h
    trivial
  · next other only hfilter =>
    have hmember : (other, only) ∈ members.filter (·.1 = name) := by
      rw [hfilter]
      exact List.mem_singleton_self _
    cases h
    exact every_of_mem hmembers _ (List.mem_filter.1 hmember).1
  · cases h

theorem finite_of_part? {name : String} {value : Option Binary64}
    (hmembers : EveryMember JsonNumber.IsFinite members)
    (h : Json.part? members name Json.number? = some value) : ∀ x ∈ value, ∃ f, x = .finite f := by
  rintro x rfl
  obtain ⟨json, hjson, h⟩ := Option.bind_eq_some_iff.1 h
  have hevery := every_of_member? hmembers hjson
  match json, h with
  | .number n, h =>
    cases h
    exact hevery

theorem Condition.isFinite_of_condition? {family : Family} {c : Condition}
    (hmembers : EveryMember JsonNumber.IsFinite members) (h : condition? family members = some c) :
    c.IsFinite := by
  cases family with
  | number =>
    obtain ⟨test, -, h⟩ := Option.bind_eq_some_iff.1 h
    obtain ⟨value, hvalue, h⟩ := Option.bind_eq_some_iff.1 h
    obtain ⟨upper, hupper, h⟩ := Option.bind_eq_some_iff.1 h
    cases h
    exact ⟨finite_of_part? hmembers hvalue, finite_of_part? hmembers hupper⟩
  | boolean =>
    obtain ⟨test, -, h⟩ := Option.bind_eq_some_iff.1 h
    cases h
    trivial
  | text | object =>
    obtain ⟨test, -, h⟩ := Option.bind_eq_some_iff.1 h
    obtain ⟨value, -, h⟩ := Option.bind_eq_some_iff.1 h
    cases h
    trivial
  | date =>
    obtain ⟨test, -, h⟩ := Option.bind_eq_some_iff.1 h
    obtain ⟨value, -, h⟩ := Option.bind_eq_some_iff.1 h
    obtain ⟨upper, -, h⟩ := Option.bind_eq_some_iff.1 h
    cases h
    trivial

mutual

theorem Node.finite_of_ofJson? : ∀ {json : Json} {node : Node}, json.Every JsonNumber.IsFinite →
    Node.ofJson? json = some node → node.Every Condition.IsFinite
  | .object members, node, hmembers, h => by
    rw [Node.ofJson?] at h
    obtain ⟨family, -, h⟩ := Option.bind_eq_some_iff.1 h
    obtain ⟨condition, hcondition, h⟩ := Option.bind_eq_some_iff.1 h
    obtain ⟨join, -, h⟩ := Option.bind_eq_some_iff.1 h
    obtain ⟨groups, hgroups, h⟩ := Option.bind_eq_some_iff.1 h
    have hown := Condition.isFinite_of_condition? hmembers hcondition
    match groups, h with
    | [], h | [none], h =>
      cases h
      exact hown
    | [some nodes], h =>
      cases h
      exact finite_of_groups? hmembers hgroups nodes (List.mem_singleton_self _)

theorem finite_of_groups? : ∀ {members : List (String × Json)} {groups : List (Option (List Node))},
    EveryMember JsonNumber.IsFinite members → groups? members = some groups →
      ∀ nodes, some nodes ∈ groups → EveryNode Condition.IsFinite nodes
  | [], _, _, h => by
    cases h
    exact nofun
  | (name, value) :: rest, _, hmembers, h => by
    rw [groups?] at h
    split at h
    · obtain ⟨group, hgroup, h⟩ := Option.bind_eq_some_iff.1 h
      obtain ⟨groups, hgroups, h⟩ := Option.bind_eq_some_iff.1 h
      cases h
      intro nodes hnodes
      rcases List.mem_cons.1 hnodes with rfl | hnodes
      · exact finite_of_group? hmembers.1 hgroup nodes rfl
      · exact finite_of_groups? hmembers.2 hgroups nodes hnodes
    · exact finite_of_groups? hmembers.2 h

theorem finite_of_group? : ∀ {json : Json} {group : Option (List Node)},
    json.Every JsonNumber.IsFinite → group? json = some group →
      ∀ nodes ∈ group, EveryNode Condition.IsFinite nodes
  | .null, _, _, h => by
    cases h
    exact nofun
  | .array items, _, hitems, h => by
    obtain ⟨nodes, hnodes, h⟩ := Option.map_eq_some_iff.1 h
    cases h
    rintro _ ⟨⟩
    exact finite_of_nodes? hitems hnodes

theorem finite_of_nodes? : ∀ {items : List Json} {nodes : List Node},
    EveryItem JsonNumber.IsFinite items → nodes? items = some nodes →
      EveryNode Condition.IsFinite nodes
  | [], _, _, h => by
    cases h
    trivial
  | item :: items, _, hitems, h => by
    obtain ⟨node, hnode, h⟩ := Option.bind_eq_some_iff.1 h
    obtain ⟨nodes, hnodes, h⟩ := Option.bind_eq_some_iff.1 h
    cases h
    exact ⟨Node.finite_of_ofJson? hitems.1 hnode, finite_of_nodes? hitems.2 hnodes⟩

end

/-! ### Reading texts -/

open Json (Reader Tree Members)

theorem every_readMembers {P : JsonNumber → Prop} {room : Nat} : ∀ {hasFamily : Bool} {members : Members}
    {list : List (String × Json)}, members.Every P → readMembers room hasFamily members = .ok list →
      EveryMember P list
  | _, .closed, _, _, h => by
    cases h
    trivial
  | hasFamily, .member (some name) value rest, _, hmembers, h => by
    rw [readMembers] at h
    split at h
    · split at h
      · cases h
      · obtain ⟨family, -, h⟩ := Except.exists_of_bind_eq_ok h
        split at h
        · cases h
        · obtain ⟨list, hlist, h⟩ := Except.exists_of_bind_eq_ok h
          cases h
          exact ⟨trivial, every_readMembers hmembers.2 hlist⟩
    · obtain ⟨json, hjson, h⟩ := Except.exists_of_bind_eq_ok h
      obtain ⟨list, hlist, h⟩ := Except.exists_of_bind_eq_ok h
      cases h
      exact ⟨Tree.every_raw hmembers.1 hjson, every_readMembers hmembers.2 hlist⟩

theorem Node.ensures_read :
    Reader.Ensures JsonNumber.IsFinite Node.read fun node => node.Every Condition.IsFinite := by
  intro room tree node htree h
  unfold Node.read at h
  split at h
  · cases h
  · cases h
  · cases h
  · obtain ⟨members, hmembers, h⟩ := Except.exists_of_bind_eq_ok h
    split at h
    · next hnode =>
      cases h
      have hevery : (Json.object members).Every JsonNumber.IsFinite := every_readMembers htree hmembers
      exact Node.finite_of_ofJson? hevery hnode
    · cases h
  · cases h

theorem Model.ensures_read :
    Reader.Ensures JsonNumber.IsFinite Model.read fun m => m.Every Condition.IsFinite := by
  intro room tree m htree h
  obtain ⟨entries, hentries, h⟩ := Except.exists_of_bind_eq_ok h
  cases h
  exact Dictionary.forall_ofList (Reader.ensures_entries Node.ensures_read room tree entries htree hentries)

end

end Filter

/-- The filters of a request that is read have finite numbers only. -/
theorem Request.ensures_read :
    Json.Reader.Ensures JsonNumber.IsFinite Request.read fun request =>
      request.filterModel.Every Filter.Condition.IsFinite := by
  refine Json.Reader.ensures_record nofun ?_
  have hfilter : ∀ entry ∈ Dictionary.empty.entries, Filter.Node.Every Filter.Condition.IsFinite entry.2 :=
    nofun
  simp only [List.forall_mem_cons]
  exact ⟨Json.Reader.keeps_field fun _ _ h => h, Json.Reader.keeps_field fun _ _ h => h,
    Json.Reader.keeps_field fun _ _ h => h,
    Json.Reader.keeps_field_of_ensures (Json.Reader.ensures_orDefault hfilter Filter.Model.ensures_read)
      fun _ _ h _ => h,
    Json.Reader.keeps_field fun _ _ h => h, Json.Reader.keeps_field fun _ _ h => h,
    Json.Reader.keeps_field fun _ _ h => h, Json.Reader.keeps_field fun _ _ h => h,
    Json.Reader.keeps_field fun _ _ h => h, nofun⟩

/-- The filters of a request that is accepted have finite numbers only. -/
theorem Request.finite_of_parse {limits : Limits} {text : String} {request : Request}
    (h : Request.parse limits text = .ok request) :
    request.filterModel.Every Filter.Condition.IsFinite := by
  unfold Request.parse at h
  split at h
  · cases h
  · split at h
    · cases h
    · next read hread =>
      have hfinite := Json.decode_ensures (fun _ _ => JsonNumber.Parts.isFinite_of_value?)
        Request.ensures_read hread
      split at h
      · cases h
      · split at h
        · cases h
        · cases h
          exact hfinite

end DataGrid
