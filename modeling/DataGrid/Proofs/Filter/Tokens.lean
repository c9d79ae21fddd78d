import DataGrid.Proofs.Filter.Failures
import DataGrid.Proofs.Filter.Reordering
import DataGrid.Proofs.Filter.RoundTrip
import DataGrid.Proofs.Json.Edits

/-!
# Texts in the place of names

The test and the join of a node are texts in its source. Any other text may stand in their place, in a node at any
depth (`Renames`): the filter model is still read, with the choice that the text names and the rest as it
was (`Model.exists_of_renames`). A text that is no name is read as the unknown test, which gives no predicate but does
not hide an error that comes before it (`Node.losesTest`), or as the unknown join, whose group is
left out without being looked at (`Node.compile_of_renamed_join`).
-/

namespace DataGrid.Filter

open Json (Source Literal Reader member? part? optional)

/-! ### Choices by name -/

/-- What a node chooses by a name. -/
inductive Choice where
  | test
  | join

def Choice.member : Choice → String
  | test => "type"
  | join => "operator"

def Family.testNames : Family → List String
  | text | object => TextTest.known.map TextTest.name
  | number | date => ScalarTest.known.map ScalarTest.name
  | boolean => [BooleanTest.isTrue, .isFalse].map BooleanTest.name

/-- The names that a node of this family may choose from. -/
def Choice.names (family : Family) : Choice → List String
  | test => family.testNames
  | join => [Join.and, .or].map Join.name

/-- The text names this choice: one of the known ones, or the unknown one when it is the name of none of them. -/
structure Names {α : Type} (known : List α) (nameOf : α → String) (unknown : α) (token : String) (choice : α) :
    Prop where
  of_mem : ∀ c ∈ known, nameOf c = token → choice = c
  of_notMem : token ∉ known.map nameOf → choice = unknown

theorem names_named? {α : Type} {known : List α} {nameOf : α → String} {unknown : α} (token : String)
    (hname : ∀ c ∈ known, (named? known nameOf (nameOf c)).getD unknown = c) :
    Names known nameOf unknown token ((named? known nameOf token).getD unknown) where
  of_mem c hc htoken := htoken ▸ hname c hc
  of_notMem h := by
    have hnone : named? known nameOf token = none :=
      List.find?_eq_none.2 fun c hc hname => h (List.mem_map.2 ⟨c, hc, of_decide_eq_true hname⟩)
    rw [hnone, Option.getD_none]

section
variable (token : String)

theorem TextTest.names_ofName : Names TextTest.known TextTest.name .unknown token (TextTest.ofName token) :=
  names_named? token fun test _ => TextTest.ofName_name test

theorem ScalarTest.names_ofName : Names ScalarTest.known ScalarTest.name .unknown token (ScalarTest.ofName token) :=
  names_named? token fun test _ => ScalarTest.ofName_name test

theorem BooleanTest.names_ofName :
    Names [BooleanTest.isTrue, .isFalse] BooleanTest.name .unknown token (BooleanTest.ofName token) :=
  names_named? token fun test _ => BooleanTest.ofName_name test

theorem Join.names_ofName : Names [Join.and, .or] Join.name .unknown token (Join.ofName token) :=
  names_named? token fun join _ => Join.ofName_name join

/-! ### Nodes with another choice -/

/-- The condition with the test that a text names. -/
inductive Condition.Renamed : Condition → Condition → Prop
  | text (old : Option TextTest) {new : TextTest} (value : Option String)
      (h : Names TextTest.known TextTest.name .unknown token new) :
      Condition.Renamed (.text old value) (.text (some new) value)
  | object (old : Option TextTest) {new : TextTest} (value : Option String)
      (h : Names TextTest.known TextTest.name .unknown token new) :
      Condition.Renamed (.object old value) (.object (some new) value)
  | number (old : Option ScalarTest) {new : ScalarTest} (value upper : Option Binary64)
      (h : Names ScalarTest.known ScalarTest.name .unknown token new) :
      Condition.Renamed (.number old value upper) (.number (some new) value upper)
  | date (old : Option ScalarTest) {new : ScalarTest} (value upper : Option String)
      (h : Names ScalarTest.known ScalarTest.name .unknown token new) :
      Condition.Renamed (.date old value upper) (.date (some new) value upper)
  | boolean (old : Option BooleanTest) {new : BooleanTest}
      (h : Names [BooleanTest.isTrue, .isFalse] BooleanTest.name .unknown token new) :
      Condition.Renamed (.boolean old) (.boolean (some new))

/-- The node with the test or the join that a text names. -/
inductive Node.Renamed : Choice → Node → Node → Prop
  | testSingle {condition condition' : Condition} (join : Option Join) (h : condition.Renamed token condition') :
      Node.Renamed .test (.single condition join) (.single condition' join)
  | testGroup {own own' : Condition} (join : Option Join) (nodes : List Node) (h : own.Renamed token own') :
      Node.Renamed .test (.group join nodes own) (.group join nodes own')
  | joinSingle (condition : Condition) (old : Option Join) {new : Join}
      (h : Names [Join.and, .or] Join.name .unknown token new) :
      Node.Renamed .join (.single condition old) (.single condition (some new))
  | joinGroup (old : Option Join) (nodes : List Node) (own : Condition) {new : Join}
      (h : Names [Join.and, .or] Join.name .unknown token new) :
      Node.Renamed .join (.group old nodes own) (.group (some new) nodes own)

variable (choice : Choice)

/-- The node with another choice in the one at the end of a way down. -/
inductive Node.RenamedAt : List Nat → Node → Node → Prop
  | here {node node' : Node} (h : node.Renamed token choice node') : Node.RenamedAt [] node node'
  | inside (join : Option Join) (own : Condition) {nodes : List Node} {i : Nat} {path : List Nat} {node node' : Node}
      (hnode : nodes[i]? = some node) (h : Node.RenamedAt path node node') :
      Node.RenamedAt (i :: path) (.group join nodes own) (.group join (nodes.set i node') own)

inductive ReplacesText : Source → Source → Prop
  | string (old : Literal) {new : Literal} (h : new.value = some token) : ReplacesText (.string old) (.string new)

/-- The source of a node with another text for the choice of the node at the end of a way down. -/
def Renames : List Nat → Source → Source → Prop
  | [] => fun s s' => ∃ rest, Source.EditedMember (ReplacesText token) choice.member rest s s'
  | i :: path => fun s s' => ∃ rest, Source.EditedMember (Source.EditedItem (Renames path) i) "conditions" rest s s'

end

section
variable {token : String} {choice : Choice} {path : List Nat}

theorem greatestDepth_set {nodes : List Node} {i : Nat} {node node' : Node} (hnode : nodes[i]? = some node)
    (h : node'.depth = node.depth) : Node.greatestDepth (nodes.set i node') = Node.greatestDepth nodes := by
  induction nodes generalizing i with
  | nil => rfl
  | cons first nodes ih =>
    cases i with
    | zero =>
      cases hnode
      rw [List.set_cons_zero, Node.greatestDepth, Node.greatestDepth, h]
    | succ i =>
      rw [List.getElem?_cons_succ] at hnode
      rw [List.set_cons_succ, Node.greatestDepth, Node.greatestDepth, ih hnode]

theorem Node.RenamedAt.depth_eq {node node' : Node} (h : node.RenamedAt token choice path node') :
    node'.depth = node.depth := by
  induction h with
  | here h => cases h <;> rfl
  | inside join own hnode _ ih => rw [Node.depth, Node.depth, greatestDepth_set hnode ih]

/-! ### One member in the place of another -/

section
variable {key name : String} {front back : List (String × Json)} {v w : Json}

theorem member?_of_ne_key (hne : key ≠ name) (v v' : Json) :
    member? (front ++ (key, v') :: back) name = member? (front ++ (key, v) :: back) name := by
  have hfilter (v : Json) : (front ++ (key, v) :: back).filter (·.1 = name) = (front ++ back).filter (·.1 = name) := by
    rw [List.filter_append, List.filter_cons_of_neg (by simpa using hne), List.filter_append]
  rw [member?, member?, hfilter, hfilter]

/-- No other member has the name of one that is looked up. -/
theorem member?_of_key (h : member? (front ++ (key, v) :: back) key = some w) (v' : Json) :
    member? (front ++ (key, v') :: back) key = some v' := by
  have hfilter (v : Json) : (front ++ (key, v) :: back).filter (·.1 = key) =
      front.filter (·.1 = key) ++ (key, v) :: back.filter (·.1 = key) := by
    rw [List.filter_append, List.filter_cons_of_pos (by simp)]
  rw [member?, hfilter] at h ⊢
  cases hfront : front.filter (·.1 = key) with
  | nil =>
    cases hback : back.filter (·.1 = key) with
    | nil => rfl
    | cons =>
      rw [hfront, hback] at h
      cases h
  | cons first others =>
    rw [hfront] at h
    cases others <;> cases h

section
variable {α : Type}

theorem part?_of_ne_key {read : Json → Option α} (hne : key ≠ name) (v v' : Json) :
    part? (front ++ (key, v') :: back) name read = part? (front ++ (key, v) :: back) name read := by
  rw [part?, part?, member?_of_ne_key hne v v']

theorem part?_of_key {ofName : String → α} {old : Option α}
    (h : part? (front ++ (key, v) :: back) key (fun value => ofName <$> value.name?) = some old) (token : String) :
    part? (front ++ (key, .string token) :: back) key (fun value => ofName <$> value.name?) =
      some (some (ofName token)) := by
  obtain ⟨w, hw, -⟩ := Option.bind_eq_some_iff.1 h
  rw [part?, member?_of_key hw]
  rfl

end

theorem condition?_of_ne_key (hkey : key ∉ partNames) (family : Family) (v v' : Json) :
    condition? family (front ++ (key, v') :: back) = condition? family (front ++ (key, v) :: back) :=
  condition?_congr family fun name hname => member?_of_ne_key (fun heq : key = name => hkey (heq ▸ hname)) v v'

theorem groups?_of_ne_key (hne : key ≠ "conditions") (v v' : Json) :
    groups? (front ++ (key, v') :: back) = groups? (front ++ (key, v) :: back) := by
  induction front with
  | nil => rw [List.nil_append, List.nil_append, groups?, groups?, if_neg hne, if_neg hne]
  | cons m front ih => rw [List.cons_append, List.cons_append, groups?, groups?, ih]

theorem exists_of_groups? {items : List Json} {groups : List (Option (List Node))}
    (h : groups? (front ++ ("conditions", .array items) :: back) = some groups) :
    ∃ before nodes after, groups = before ++ some nodes :: after ∧ nodes? items = some nodes ∧
      ∀ items' nodes', nodes? items' = some nodes' →
        groups? (front ++ ("conditions", .array items') :: back) = some (before ++ some nodes' :: after) := by
  induction front generalizing groups with
  | nil =>
    rw [List.nil_append, groups?, if_pos rfl] at h
    obtain ⟨group, hgroup, h⟩ := Option.bind_eq_some_iff.1 h
    obtain ⟨after, hafter, h⟩ := Option.bind_eq_some_iff.1 h
    cases h
    obtain ⟨nodes, hnodes, rfl⟩ := Option.map_eq_some_iff.1 hgroup
    refine ⟨[], nodes, after, rfl, hnodes, fun items' nodes' hnodes' => ?_⟩
    rw [List.nil_append, groups?, if_pos rfl, group?, hnodes', hafter]
    rfl
  | cons m front ih =>
    obtain ⟨other, value⟩ := m
    rw [List.cons_append, groups?] at h
    split at h
    · next hother =>
      obtain ⟨group, hgroup, h⟩ := Option.bind_eq_some_iff.1 h
      obtain ⟨groups, hgroups, h⟩ := Option.bind_eq_some_iff.1 h
      cases h
      obtain ⟨before, nodes, after, rfl, hnodes, hset⟩ := ih hgroups
      refine ⟨group :: before, nodes, after, rfl, hnodes, fun items' nodes' hnodes' => ?_⟩
      rw [List.cons_append, groups?, if_pos hother, hgroup, hset items' nodes' hnodes']
      rfl
    · next hother =>
      obtain ⟨before, nodes, after, rfl, hnodes, hset⟩ := ih h
      refine ⟨before, nodes, after, rfl, hnodes, fun items' nodes' hnodes' => ?_⟩
      rw [List.cons_append, groups?, if_neg hother, hset items' nodes' hnodes']

end

theorem exists_of_nodes? {before after : List Json} {v : Json} {nodes : List Node}
    (h : nodes? (before ++ v :: after) = some nodes) :
    ∃ node, nodes[before.length]? = some node ∧ Node.ofJson? v = some node ∧
      ∀ v' node', Node.ofJson? v' = some node' →
        nodes? (before ++ v' :: after) = some (nodes.set before.length node') := by
  induction before generalizing nodes with
  | nil =>
    obtain ⟨node, hnode, h⟩ := Option.bind_eq_some_iff.1 h
    obtain ⟨rest, hrest, h⟩ := Option.bind_eq_some_iff.1 h
    cases h
    refine ⟨node, rfl, hnode, fun v' node' hnode' => ?_⟩
    rw [List.nil_append, nodes?, hnode', hrest]
    rfl
  | cons item before ih =>
    obtain ⟨first, hfirst, h⟩ := Option.bind_eq_some_iff.1 h
    obtain ⟨rest, hrest, h⟩ := Option.bind_eq_some_iff.1 h
    cases h
    obtain ⟨node, hget, hnode, hset⟩ := ih hrest
    refine ⟨node, hget, hnode, fun v' node' hnode' => ?_⟩
    rw [List.cons_append, nodes?, hfirst, hset v' node' hnode']
    rfl

/-! ### Values of nodes -/

/-- What the parts of a node make. -/
inductive Node.Made (condition : Condition) (join : Option Join) : List (Option (List Node)) → Node → Prop
  | missing : Node.Made condition join [] (.single condition join)
  | null : Node.Made condition join [none] (.single condition join)
  | group (nodes : List Node) : Node.Made condition join [some nodes] (.group join nodes condition)

/-- Where some nodes are found, there is nothing else. -/
theorem Node.Made.of_append {condition : Condition} {join : Option Join} {left right : List (Option (List Node))}
    {nodes : List Node} {node : Node} (h : Node.Made condition join (left ++ some nodes :: right) node) :
    left = [] ∧ right = [] ∧ node = .group join nodes condition := by
  cases left with
  | nil =>
    cases h
    exact ⟨rfl, rfl, rfl⟩
  | cons group left => cases left <;> cases h

theorem Node.ofJson?_object_iff {members : List (String × Json)} {node : Node} :
    Node.ofJson? (.object members) = some node ↔ ∃ family condition join groups,
      member? members "filterType" >>= family? = some family ∧ condition? family members = some condition ∧
        part? members "operator" (fun value => Join.ofName <$> value.name?) = some join ∧
          groups? members = some groups ∧ Node.Made condition join groups node := by
  rw [Node.ofJson?]
  constructor
  · intro h
    obtain ⟨family, hfamily, h⟩ := Option.bind_eq_some_iff.1 h
    obtain ⟨condition, hcondition, h⟩ := Option.bind_eq_some_iff.1 h
    obtain ⟨join, hjoin, h⟩ := Option.bind_eq_some_iff.1 h
    obtain ⟨groups, hgroups, h⟩ := Option.bind_eq_some_iff.1 h
    refine ⟨family, condition, join, groups, hfamily, hcondition, hjoin, hgroups, ?_⟩
    split at h
    · cases h
      exact .missing
    · cases h
      exact .null
    · cases h
      exact .group _
    · cases h
  · rintro ⟨family, condition, join, groups, hfamily, hcondition, hjoin, hgroups, hmade⟩
    rw [hfamily, Option.bind_eq_bind, Option.bind_some, hcondition, Option.bind_eq_bind, Option.bind_some, hjoin,
      Option.bind_eq_bind, Option.bind_some, hgroups]
    cases hmade <;> rfl

section
variable {front back : List (String × Json)} {v v' : Json} {node : Node}

theorem exists_of_condition? {family : Family} {condition : Condition}
    (h : condition? family (front ++ ("type", v) :: back) = some condition) (token : String) :
    ∃ condition', condition? family (front ++ ("type", .string token) :: back) = some condition' ∧
      condition.Renamed token condition' := by
  have hpart {α : Type} {read : Json → Option α} (name : String) (hne : "type" ≠ name) :
      part? (front ++ ("type", .string token) :: back) name read = part? (front ++ ("type", v) :: back) name read :=
    part?_of_ne_key hne v _
  cases family with
  | text =>
    obtain ⟨test, htest, h⟩ := Option.bind_eq_some_iff.1 h
    obtain ⟨value, hvalue, h⟩ := Option.bind_eq_some_iff.1 h
    cases h
    refine ⟨_, ?_, .text test value (TextTest.names_ofName token)⟩
    simp only [condition?, part?_of_key htest, hpart "filter" (by decide), hvalue]
    rfl
  | object =>
    obtain ⟨test, htest, h⟩ := Option.bind_eq_some_iff.1 h
    obtain ⟨value, hvalue, h⟩ := Option.bind_eq_some_iff.1 h
    cases h
    refine ⟨_, ?_, .object test value (TextTest.names_ofName token)⟩
    simp only [condition?, part?_of_key htest, hpart "filter" (by decide), hvalue]
    rfl
  | number =>
    obtain ⟨test, htest, h⟩ := Option.bind_eq_some_iff.1 h
    obtain ⟨value, hvalue, h⟩ := Option.bind_eq_some_iff.1 h
    obtain ⟨upper, hupper, h⟩ := Option.bind_eq_some_iff.1 h
    cases h
    refine ⟨_, ?_, .number test value upper (ScalarTest.names_ofName token)⟩
    simp only [condition?, part?_of_key htest, hpart "filter" (by decide),
      hpart "filterTo" (by decide), hvalue, hupper]
    rfl
  | boolean =>
    obtain ⟨test, htest, h⟩ := Option.bind_eq_some_iff.1 h
    cases h
    refine ⟨_, ?_, .boolean test (BooleanTest.names_ofName token)⟩
    simp only [condition?, part?_of_key htest]
    rfl
  | date =>
    obtain ⟨test, htest, h⟩ := Option.bind_eq_some_iff.1 h
    obtain ⟨value, hvalue, h⟩ := Option.bind_eq_some_iff.1 h
    obtain ⟨upper, hupper, h⟩ := Option.bind_eq_some_iff.1 h
    cases h
    refine ⟨_, ?_, .date test value upper (ScalarTest.names_ofName token)⟩
    simp only [condition?, part?_of_key htest, hpart "dateFrom" (by decide),
      hpart "dateTo" (by decide), hvalue, hupper]
    rfl

theorem Choice.exists_renamed (choice : Choice)
    (h : Node.ofJson? (.object (front ++ (choice.member, v) :: back)) = some node) (token : String) :
    ∃ node', Node.ofJson? (.object (front ++ (choice.member, .string token) :: back)) = some node' ∧
      node.Renamed token choice node' := by
  obtain ⟨family, condition, join, groups, hfamily, hcondition, hjoin, hgroups, hmade⟩ := Node.ofJson?_object_iff.1 h
  cases choice with
  | test =>
    rw [← member?_of_ne_key (by decide) v (.string token)] at hfamily
    rw [← part?_of_ne_key (by decide) v (.string token)] at hjoin
    rw [← groups?_of_ne_key (by decide) v (.string token)] at hgroups
    obtain ⟨condition', hcondition', hrenamed⟩ := exists_of_condition? hcondition token
    have hread (node' : Node) (hmade' : Node.Made condition' join groups node') :=
      Node.ofJson?_object_iff.2 ⟨family, condition', join, groups, hfamily, hcondition', hjoin, hgroups, hmade'⟩
    cases hmade with
    | missing => exact ⟨_, hread _ .missing, .testSingle join hrenamed⟩
    | null => exact ⟨_, hread _ .null, .testSingle join hrenamed⟩
    | group nodes => exact ⟨_, hread _ (.group nodes), .testGroup join nodes hrenamed⟩
  | join =>
    rw [← member?_of_ne_key (by decide) v (.string token)] at hfamily
    rw [← groups?_of_ne_key (by decide) v (.string token)] at hgroups
    rw [← condition?_of_ne_key (by decide) family v (.string token)] at hcondition
    have hread (node' : Node) (hmade' : Node.Made condition (some (Join.ofName token)) groups node') :=
      Node.ofJson?_object_iff.2
        ⟨family, condition, _, groups, hfamily, hcondition, part?_of_key hjoin token, hgroups, hmade'⟩
    cases hmade with
    | missing => exact ⟨_, hread _ .missing, .joinSingle condition join (Join.names_ofName token)⟩
    | null => exact ⟨_, hread _ .null, .joinSingle condition join (Join.names_ofName token)⟩
    | group nodes => exact ⟨_, hread _ (.group nodes), .joinGroup join nodes condition (Join.names_ofName token)⟩

/-- What one value gives a meaning to, the other one gives the renamed meaning to. -/
def Renaming (token : String) (choice : Choice) (path : List Nat) (v v' : Json) : Prop :=
  ∀ node, Node.ofJson? v = some node →
    ∃ node', Node.ofJson? v' = some node' ∧ node.RenamedAt token choice path node'

theorem Renaming.inside (hv : Renaming token choice path v v') (before after : List Json) :
    Renaming token choice (before.length :: path)
      (.object (front ++ ("conditions", .array (before ++ v :: after)) :: back))
      (.object (front ++ ("conditions", .array (before ++ v' :: after)) :: back)) := by
  intro node h
  obtain ⟨family, condition, join, groups, hfamily, hcondition, hjoin, hgroups, hmade⟩ := Node.ofJson?_object_iff.1 h
  obtain ⟨left, nodes, right, rfl, hnodes, hset⟩ := exists_of_groups? hgroups
  obtain ⟨child, hget, hchild, hset'⟩ := exists_of_nodes? hnodes
  obtain ⟨child', hchild', hrenamed⟩ := hv child hchild
  rw [← member?_of_ne_key (by decide) _ (.array (before ++ v' :: after))] at hfamily
  rw [← part?_of_ne_key (by decide) _ (.array (before ++ v' :: after))] at hjoin
  rw [← condition?_of_ne_key (by decide) family _ (.array (before ++ v' :: after))] at hcondition
  obtain ⟨rfl, rfl, rfl⟩ := hmade.of_append
  exact ⟨_, Node.ofJson?_object_iff.2
    ⟨family, condition, join, _, hfamily, hcondition, hjoin, hset _ _ (hset' v' child' hchild'), .group _⟩,
    .inside join condition hget hrenamed⟩

end

/-! ### Reading renamed sources -/

/-- This reads the members of a node with all values in them, and looks at the family only. -/
structure ReadsMembers (room : Nat) (read : Json.Members → Except Json.Fault (List (String × Json))) : Prop where
  edited : ∀ {R : Source → Source → Prop} {Q : Json → Json → Prop},
    (∀ {value value' v}, R value value' → value.tree.raw room = .ok v → ∃ v', value'.tree.raw room = .ok v' ∧ Q v v') →
      ∀ {name rest members members' list}, name ≠ "filterType" → Source.Members.Edited R name rest members members' →
        read members.tree = .ok list → ∃ front v v' back, list = front ++ (name, v) :: back ∧ Q v v' ∧
          read members'.tree = .ok (front ++ (name, v') :: back)

theorem readsMembers_raw (room : Nat) : ReadsMembers room (Json.Members.raw room) := by
  refine ⟨fun {R Q} hR {name rest members members' list} _ h hread => ?_⟩
  rw [Source.raw_eq_entryMembers] at hread
  obtain ⟨front, v, v', back, hlist, -, hQ, hread'⟩ := h.entryMembers hR hread
  exact ⟨front, v, v', back, hlist, hQ, (Source.raw_eq_entryMembers ..).trans hread'⟩

theorem readsMembers_readMembers (room : Nat) (hasFamily : Bool) : ReadsMembers room (readMembers room hasFamily) := by
  refine ⟨fun {R Q} hR {name rest members members' list} hne h hread => ?_⟩
  induction h generalizing hasFamily list with
  | here label before after hname hvalue =>
    obtain ⟨_, v, tail, hname', hv, htail, rfl, -⟩ := readMembers_cons_iff.1 hread
    cases hname.symm.trans hname'
    obtain ⟨v', hv', hQ⟩ := hR hvalue hv
    exact ⟨[], v, v', tail, rfl, hQ,
      readMembers_cons_iff.2 ⟨name, v', tail, hname, hv', htail, rfl, fun heq => absurd heq hne⟩⟩
  | behind label before value after _ ih =>
    obtain ⟨other, w, tail, hother, hw, htail, rfl, hfamily⟩ := readMembers_cons_iff.1 hread
    obtain ⟨front, v, v', back, rfl, hQ, htail'⟩ := ih _ htail
    exact ⟨(other, w) :: front, v, v', back, rfl, hQ,
      readMembers_cons_iff.2 ⟨other, w, _, hother, hw, htail', rfl, hfamily⟩⟩

theorem Renames.exists_object {s s' : Source} (h : Renames token choice path s s') :
    ∃ inner members members', s = .object inner members ∧ s' = .object inner members' := by
  cases path with
  | nil =>
    obtain ⟨rest, ⟨inner, -⟩⟩ := h
    exact ⟨inner, _, _, rfl, rfl⟩
  | cons i path =>
    obtain ⟨rest, ⟨inner, -⟩⟩ := h
    exact ⟨inner, _, _, rfl, rfl⟩

-- The members of a node are read in one of two ways, those of the nodes in it as values.
mutual

theorem ReadsMembers.exists_renaming {room : Nat} {read : Json.Members → Except Json.Fault (List (String × Json))}
    (hM : ReadsMembers room read) : ∀ (path : List Nat) {inner : Json.Space} {members members' : Source.Members}
      {list : List (String × Json)}, Renames token choice path (.object inner members) (.object inner members') →
        read members.tree = .ok list →
          ∃ list', read members'.tree = .ok list' ∧ Renaming token choice path (.object list) (.object list')
  | [], _, _, _, _, ⟨_, .object _ hedit⟩, hread => by
    have htext {value value' : Source} {v : Json} (h : ReplacesText token value value')
        (_ : value.tree.raw room = .ok v) : ∃ v', value'.tree.raw room = .ok v' ∧ v' = .string token := by
      obtain ⟨old, hnew⟩ := h
      refine ⟨_, ?_, rfl⟩
      rw [Source.tree, hnew]
      rfl
    have hkey : choice.member ≠ "filterType" := by cases choice <;> decide
    obtain ⟨front, v, _, back, rfl, rfl, hread'⟩ := hM.edited htext hkey hedit hread
    refine ⟨_, hread', fun node hnode => ?_⟩
    obtain ⟨node', hnode', hrenamed⟩ := choice.exists_renamed hnode token
    exact ⟨node', hnode', .here hrenamed⟩
  | i :: path, _, _, _, _, ⟨_, .object _ hedit⟩, hread => by
    have hitem {value value' : Source} {v : Json} (h : Source.EditedItem (Renames token choice path) i value value')
        (hv : value.tree.raw room = .ok v) : ∃ v', value'.tree.raw room = .ok v' ∧
          ∃ before w w' after, v = .array (before ++ w :: after) ∧ v' = .array (before ++ w' :: after) ∧
            before.length = i ∧ Renaming token choice path w w' := by
      obtain ⟨inner, hitems⟩ := h
      cases room with
      | zero => cases hv
      | succ room =>
        obtain ⟨items, hraw, rfl⟩ := Except.exists_of_map_eq_ok hv
        obtain ⟨before, w, w', after, rfl, hlength, hrenaming, hraw'⟩ :=
          hitems.raw (fun hnode hw => exists_raw_renaming path hnode hw) hraw
        refine ⟨_, ?_, before, w, w', after, rfl, rfl, hlength, hrenaming⟩
        rw [Source.tree, Json.Tree.raw, hraw']
        rfl
    obtain ⟨front, _, _, back, rfl, ⟨before, w, w', after, rfl, rfl, rfl, hrenaming⟩, hread'⟩ :=
      hM.edited hitem (by decide) hedit hread
    exact ⟨_, hread', hrenaming.inside before after⟩
termination_by path => (path.length, 0)

theorem exists_raw_renaming : ∀ (path : List Nat) {room : Nat} {s s' : Source} {v : Json},
    Renames token choice path s s' → s.tree.raw room = .ok v →
      ∃ v', s'.tree.raw room = .ok v' ∧ Renaming token choice path v v'
  | path, room, s, s', v, h, hraw => by
    obtain ⟨inner, members, members', rfl, rfl⟩ := h.exists_object
    cases room with
    | zero => cases hraw
    | succ room =>
      obtain ⟨list, hlist, rfl⟩ := Except.exists_of_map_eq_ok hraw
      obtain ⟨list', hlist', hrenaming⟩ := (readsMembers_raw room).exists_renaming path h hlist
      refine ⟨.object list', ?_, hrenaming⟩
      rw [Source.tree, Json.Tree.raw, hlist']
      rfl
termination_by path => (path.length, 1)

end

theorem Node.exists_of_renames {room : Nat} {s s' : Source} {node : Node} (h : Renames token choice path s s')
    (hread : Node.read room s.tree = .ok node) :
    ∃ node', Node.read room s'.tree = .ok node' ∧ node.RenamedAt token choice path node' := by
  obtain ⟨inner, members, members', rfl, rfl⟩ := h.exists_object
  cases room with
  | zero => cases hread
  | succ room =>
    obtain ⟨list, hlist, hnode⟩ := Node.read_object_iff.1 hread
    obtain ⟨list', hlist', hrenaming⟩ := (readsMembers_readMembers room false).exists_renaming path h hlist
    obtain ⟨node', hnode', hrenamed⟩ := hrenaming node hnode
    exact ⟨node', Node.read_object_iff.2 ⟨list', hlist', hnode'⟩, hrenamed⟩

/-! ### Filter models -/

/-- The filter model with another choice in the node of a column. Of members that repeat a column the last one
counts, so nothing changes when `later` ones do. -/
structure Model.RenamedAt (token : String) (choice : Choice) (path : List Nat) (id : String) (later : List String)
    (m m' : Model) : Prop where
  of_mem : id ∈ later → m' = m
  of_notMem : id ∉ later → ∃ node node', m.find? id = some node ∧ node.RenamedAt token choice path node' ∧
    m' = m.insert id node'

section
variable {id : String} {later : List String} {m m' : Model}

theorem Model.RenamedAt.size_eq (h : m.RenamedAt token choice path id later m') : m'.size = m.size := by
  by_cases hlater : id ∈ later
  · rw [h.of_mem hlater]
  · obtain ⟨node, node', hnode, -, rfl⟩ := h.of_notMem hlater
    exact Dictionary.size_insert_of_find? hnode node'

theorem Model.RenamedAt.depth_le (h : m.RenamedAt token choice path id later m') {limit : Nat}
    (hm : ∀ entry ∈ m.entries, entry.2.depth ≤ limit) : ∀ entry ∈ m'.entries, entry.2.depth ≤ limit := by
  by_cases hlater : id ∈ later
  · rw [h.of_mem hlater]
    exact hm
  · obtain ⟨node, node', hnode, hrenamed, rfl⟩ := h.of_notMem hlater
    have hnode' : node'.depth ≤ limit := by
      rw [hrenamed.depth_eq]
      exact hm _ (Dictionary.mem_of_find? hnode)
    exact Dictionary.forall_insertEntry (P := fun node : Node => node.depth ≤ limit) hnode' hm

theorem Model.exists_of_renames {rest : Source.Members} {room : Nat} {s s' : Source}
    (h : Source.EditedMember (Renames token choice path) id rest s s') (hread : Model.read room s.tree = .ok m) :
    ∃ m', Model.read room s'.tree = .ok m' ∧ m.RenamedAt token choice path id rest.names m' := by
  obtain ⟨inner, hmembers⟩ := h
  cases room with
  | zero => cases hread
  | succ room =>
    obtain ⟨list, hlist, hread⟩ := Except.exists_of_bind_eq_ok hread
    cases hread
    obtain ⟨front, node, node', back, rfl, hback, hrenamed, hlist'⟩ :=
      hmembers.entryMembers (fun hnode hread => Node.exists_of_renames hnode hread) hlist
    refine ⟨.ofList (front ++ (id, node') :: back), ?_, fun hlater => ?_, fun hlater => ?_⟩
    · show Reader.entryMembers (Node.read room) _ >>= _ = _
      rw [hlist']
      rfl
    · rw [← hback] at hlater
      exact Dictionary.ofList_of_mem front hlater node node'
    · rw [← hback] at hlater
      have hinsert := Dictionary.ofList_of_notMem front hlater node node'
      exact ⟨node, node', hinsert.1, hrenamed, hinsert.2⟩

end

end

/-! ### Compiling unknown choices -/

section
variable {γ π : Type} (backend : Backend γ π) (id : String)

/-- The error of a condition that comes before its test is looked at: that of its column, then that of its first
date. -/
def Condition.inputError? : Condition → Option Error
  | text _ none | number _ none _ | date _ none _ | object _ none => none
  | text _ (some _) => columnError? backend id .text
  | number _ (some _) _ => columnError? backend id .number
  | boolean _ => columnError? backend id .boolean
  | date _ (some value) _ => (columnError? backend id .dateTime).or (dateError? value)
  | object _ (some _) => columnError? backend id .coerced

/-- A condition has lost its test: its errors stay, those that come before the test, and where there is none, it
gives nothing any more, or for truth values the test for false. -/
structure Node.LosesTest (node node' : Node) : Prop where
  error : ∀ error, node.condition.inputError? backend id = some error →
    node.compile backend id = pure (.error error) ∧ node'.compile backend id = pure (.error error)
  nothing : node.condition.inputError? backend id = none → node.family ≠ .boolean →
    node'.compile backend id = pure (.ok none)
  isFalse : node.condition.inputError? backend id = none → node.family = .boolean →
    ∃ column, backend.column id .boolean = .ok column ∧
      node'.compile backend id = pure (.ok (some (backend.compare .equal column (.bool false))))

variable {backend} {id} {token : String} {condition condition' : Condition}

theorem exists_of_columnError? {kind : ColumnKind} (h : columnError? backend id kind = none) :
    ∃ column, backend.column id kind = .ok column ∧ lookUp backend id kind = .ok column := by
  unfold columnError? at h
  unfold lookUp
  cases hcolumn : backend.column id kind with
  | error error =>
    rw [hcolumn] at h
    cases h
  | ok column => exact ⟨column, rfl, rfl⟩

theorem exists_of_dateError? {text : String} (h : dateError? text = none) : ∃ value, dateValue text = .ok value := by
  unfold dateError? at h
  unfold dateValue
  cases hdate : DateTime.ofGrid text with
  | error fault =>
    rw [hdate] at h
    cases h
  | ok date => exact ⟨_, rfl⟩

/-- The test comes after these errors. -/
theorem Condition.compile_of_inputError? {error : Error} (h : condition.inputError? backend id = some error) :
    condition.compile backend id = .error error := by
  rw [← errorOf_eq_some, Condition.errorOf_compile, ← h]
  cases condition with
  | text _ value | object _ value => cases value <;> rfl
  | number _ value => cases value <;> rfl
  | boolean => rfl
  | date test value upper =>
    cases value with
    | none => cases h
    | some value =>
      rw [Condition.inputError?] at h ⊢
      rw [Condition.error?, ← Option.or_assoc, h]
      rfl

theorem Condition.Renamed.inputError?_eq (h : condition.Renamed token condition') :
    condition'.inputError? backend id = condition.inputError? backend id := by
  cases h with
  | text _ value | object _ value => cases value <;> rfl
  | number _ value => cases value <;> rfl
  | boolean => rfl
  | date _ value => cases value <;> rfl

theorem Condition.Renamed.compile_eq_none (h : condition.Renamed token condition')
    (htoken : token ∉ condition.family.testNames) (herror : condition.inputError? backend id = none)
    (hfamily : condition.family ≠ .boolean) : condition'.compile backend id = .ok none := by
  cases h with
  | text _ value h | object _ value h =>
    obtain rfl := h.of_notMem htoken
    cases value with
    | none => rfl
    | some value =>
      obtain ⟨column, -, hcolumn⟩ := exists_of_columnError? herror
      rw [Condition.compile, hcolumn]
      rfl
  | number _ value upper h =>
    obtain rfl := h.of_notMem htoken
    cases value with
    | none => rfl
    | some value =>
      obtain ⟨column, -, hcolumn⟩ := exists_of_columnError? herror
      rw [Condition.compile, hcolumn]
      rfl
  | date _ value upper h =>
    obtain rfl := h.of_notMem htoken
    cases value with
    | none => rfl
    | some value =>
      rw [Condition.inputError?, Option.or_eq_none_iff] at herror
      obtain ⟨column, -, hcolumn⟩ := exists_of_columnError? herror.1
      obtain ⟨date, hdate⟩ := exists_of_dateError? herror.2
      rw [Condition.compile, hcolumn]
      show dateValue value >>= _ = _
      rw [hdate]
      rfl
  | boolean => exact absurd rfl hfamily

theorem Node.losesTest (join : Option Join) (h : condition.Renamed token condition')
    (htoken : token ∉ condition.family.testNames) :
    Node.LosesTest backend id (.single condition join) (.single condition' join) where
  error error herror := by
    replace herror : condition.inputError? backend id = some error := herror
    have herror' := h.inputError?_eq.trans herror
    rw [Node.compile, Node.compile, Condition.compile_of_inputError? herror, Condition.compile_of_inputError? herror']
    exact ⟨rfl, rfl⟩
  nothing herror hfamily := by
    rw [Node.compile, h.compile_eq_none htoken herror hfamily]
  isFalse herror hfamily := by
    cases h with
    | boolean _ h =>
      obtain rfl := h.of_notMem htoken
      obtain ⟨column, hcolumn, hlookUp⟩ := exists_of_columnError? herror
      refine ⟨column, hcolumn, ?_⟩
      rw [Node.compile, Condition.compile, hlookUp]
      rfl
    | _ => cases hfamily

/-- A group with an unknown join gives nothing, and the nodes in it are not looked at: there is a note that it has been
left out, and no error is reported. -/
theorem Node.compile_of_renamed_join {old join : Option Join} {nodes nodes' : List Node} {own own' : Condition}
    (h : Node.Renamed token .join (.group old nodes own) (.group join nodes' own'))
    (htoken : token ∉ [Join.and, .or].map Join.name) :
    (Node.group join nodes' own').compile backend id = ⟨.ok none, [.groupSkipped id]⟩ := by
  cases h with
  | joinGroup _ _ _ h =>
    obtain rfl := h.of_notMem htoken
    rw [Node.compile]
    rfl

end

end DataGrid.Filter
