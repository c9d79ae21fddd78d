import DataGrid.Proofs.Dictionary
import DataGrid.Proofs.Filter.Pruning

/-!
# Reports of conditions with errors

Whatever the backend, compiling a filter model reports each condition that counts and has an error
exactly once, and reports nothing else. The reports come column by column in the byte order of the ids,
and for each column in the order of the places in its node, from left to right
(`Model.exists_failures`). A condition counts when all groups around it have a known join; the own
condition of a group does not, and a group has no error of its own.
-/

namespace DataGrid.Filter

variable {γ π : Type} (backend : Backend γ π) (id : String)

/-! ### Errors of conditions -/

/-- Why a column cannot be used. -/
def columnError? (kind : ColumnKind) : Option Error :=
  match backend.column id kind with
  | .ok _ => none
  | .error error => some (.column error)

/-- Why a date cannot be read. -/
def dateError? (text : String) : Option Error :=
  match DateTime.ofGrid text with
  | .ok _ => none
  | .error fault => some (.invalidDate text fault)

/-- The error of a condition: that of its column comes before that of its date, and that of its last
date, which only a range has a use for, comes after both. -/
def Condition.error? : Condition → Option Error
  | text _ none | number _ none _ | date _ none _ | object _ none => none
  | text _ (some _) => columnError? backend id .text
  | number _ (some _) _ => columnError? backend id .number
  | boolean _ => columnError? backend id .boolean
  | date test (some value) upper =>
    (columnError? backend id .dateTime).or <| (dateError? value).or <|
      if test = some .inRange then upper.bind dateError? else none
  | object _ (some _) => columnError? backend id .coerced

def errorOf {α : Type} : Except Error α → Option Error
  | .ok _ => none
  | .error error => some error

theorem errorOf_eq_some {α : Type} {x : Except Error α} {error : Error} :
    errorOf x = some error ↔ x = .error error := by
  cases x <;> simp [errorOf]

theorem errorOf_bind {α β : Type} {x : Except Error α} {next : α → Except Error β} {error : Option Error}
    (h : ∀ a, errorOf (next a) = error) : errorOf (x >>= next) = (errorOf x).or error := by
  cases x with
  | ok a => exact (h a).trans Option.none_or.symm
  | error e => rfl

section
variable {backend : Backend γ π} {id : String}

theorem errorOf_lookUp (kind : ColumnKind) :
    errorOf (lookUp backend id kind) = columnError? backend id kind := by
  unfold lookUp columnError?
  cases backend.column id kind <;> rfl

theorem errorOf_dateValue (text : String) : errorOf (dateValue text) = dateError? text := by
  unfold dateValue dateError?
  cases DateTime.ofGrid text <;> rfl

/-- A test of dates fails only by the last date of a range. -/
theorem ScalarTest.errorOf_compile (column : γ) (value : Value) (upper : Option String)
    (test : ScalarTest) : errorOf (test.compile backend column value (upper.mapM dateValue)) =
      if test = .inRange then upper.bind dateError? else none := by
  cases test with
  | inRange =>
    rw [if_pos rfl]
    cases upper with
    | none => rfl
    | some last =>
      rw [Option.bind_some, ← errorOf_dateValue]
      show errorOf (ScalarTest.compile backend column value ((some last).mapM dateValue) .inRange) = _
      rw [Option.mapM_some]
      cases dateValue last <;> rfl
  | _ => rfl

theorem Condition.errorOf_compile (c : Condition) :
    errorOf (c.compile backend id) = c.error? backend id := by
  have hcolumn {kind : ColumnKind} {next : γ → Except Error (Option π)}
      (hnext : ∀ column, errorOf (next column) = none) :
      errorOf (lookUp backend id kind >>= next) = columnError? backend id kind := by
    rw [errorOf_bind hnext, Option.or_none, errorOf_lookUp]
  cases c with
  | text test value | object test value =>
    cases value with
    | none => rfl
    | some value => exact hcolumn fun column => rfl
  | number test value upper =>
    cases value with
    | none => rfl
    | some value =>
      refine hcolumn fun column => ?_
      cases test with
      | none => rfl
      | some test => cases test <;> cases upper <;> rfl
  | boolean test => exact hcolumn fun column => rfl
  | date test value upper =>
    cases value with
    | none => rfl
    | some value =>
      rw [error?, ← errorOf_lookUp, ← errorOf_dateValue]
      refine errorOf_bind fun column => errorOf_bind fun date => ?_
      cases test with
      | none => rfl
      | some test =>
        rw [ScalarTest.errorOf_compile]
        simp

end

/-! ### Places of nodes -/

/-- The node at the end of a way down, which is given by the places of the nodes in their groups. Only
groups with a known join have a way further down. -/
def Node.at? : Node → List Nat → Option Node
  | node, [] => some node
  | .single .., _ :: _ => none
  | .group join nodes _, i :: path =>
    if Join.isUsable join then nodes[i]?.bind (·.at? path) else none

/-- A condition that stands somewhere in a filter model and has an error. -/
structure Failure where
  id : String
  path : List Nat
  condition : Condition
  join : Option Join
  error : Error

namespace Failure

def node (f : Failure) : Node := .single f.condition f.join

def event (f : Failure) : Event := .columnFailed f.id f.node f.error

/-- The failure of the node at this place in its group, seen from the group. -/
def below (i : Nat) (f : Failure) : Failure := { f with path := i :: f.path }

/-- The order of columns by the bytes of their ids, and of places from left to right. -/
def Before (f f' : Failure) : Prop :=
  bytes f.id < bytes f'.id ∨ f.id = f'.id ∧ f.path < f'.path

end Failure

/-- The model has this condition at this place, and compiling it fails with this error. -/
def Model.Fails (m : Model) (f : Failure) : Prop :=
  ∃ node, m.find? f.id = some node ∧ node.at? f.path = some f.node ∧
    (f.node.compile backend f.id).value = .error f.error

mutual

def Node.failures : Node → List Failure
  | .single condition join =>
    ((condition.error? backend id).map fun error => ⟨id, [], condition, join, error⟩).toList
  | .group join nodes _ => if Join.isUsable join then failuresFrom 0 nodes else []

/-- The failures in nodes of a group, the first of which has place `i`. -/
def failuresFrom (i : Nat) : List Node → List Failure
  | [] => []
  | node :: nodes => node.failures.map (.below i) ++ failuresFrom (i + 1) nodes

end

/-! ### All failures and no others -/

section
variable {backend : Backend γ π} {id : String} {f : Failure}

/-- The condition stands in the node and has an error on the column. -/
def Failure.In (backend : Backend γ π) (id : String) (f : Failure) (node : Node) : Prop :=
  f.id = id ∧ node.at? f.path = some f.node ∧ f.condition.error? backend id = some f.error

theorem Failure.below_in_iff {i : Nat} {join : Option Join} {nodes : List Node} {own : Condition}
    (hjoin : Join.isUsable join = true) :
    (f.below i).In backend id (.group join nodes own) ↔ ∃ node, nodes[i]? = some node ∧ f.In backend id node := by
  simp only [In, below, Node.at?, hjoin, if_true, Option.bind_eq_some_iff, node]
  constructor
  · rintro ⟨hid, ⟨node, hnode, hat⟩, herror⟩
    exact ⟨node, hnode, hid, hat, herror⟩
  · rintro ⟨node, hnode, hid, hat, herror⟩
    exact ⟨hid, ⟨node, hnode, hat⟩, herror⟩

theorem Failure.exists_below {join : Option Join} {nodes : List Node} {own : Condition}
    (h : f.In backend id (.group join nodes own)) :
    Join.isUsable join = true ∧ ∃ i g, f = Failure.below i g := by
  obtain ⟨id', path, condition, join', error⟩ := f
  obtain ⟨-, hat, -⟩ := h
  cases path with
  | nil => cases hat
  | cons i path =>
    simp only [Node.at?] at hat
    split at hat
    · next hjoin => exact ⟨hjoin, i, ⟨id', path, condition, join', error⟩, rfl⟩
    · cases hat

mutual

theorem Node.mem_failures : ∀ {node : Node} {f : Failure},
    f ∈ node.failures backend id ↔ f.In backend id node
  | .single condition join, f => by
    rw [Node.failures, Option.mem_toList, Option.map_eq_some_iff]
    constructor
    · rintro ⟨error, herror, rfl⟩
      exact ⟨rfl, rfl, herror⟩
    · obtain ⟨id', path, condition', join', error⟩ := f
      rintro ⟨rfl, hat, herror⟩
      cases path with
      | nil =>
        cases hat
        exact ⟨error, herror, rfl⟩
      | cons i path => cases hat
  | .group join nodes own, f => by
    rw [Node.failures]
    constructor
    · intro hf
      split at hf
      · next hjoin =>
        obtain ⟨k, node, g, hnode, hg, rfl⟩ := mem_failuresFrom.1 hf
        rw [Nat.zero_add]
        exact (Failure.below_in_iff hjoin).2 ⟨node, hnode, hg⟩
      · cases hf
    · intro hf
      obtain ⟨hjoin, i, g, rfl⟩ := Failure.exists_below hf
      obtain ⟨node, hnode, hg⟩ := (Failure.below_in_iff hjoin).1 hf
      rw [if_pos hjoin]
      exact mem_failuresFrom.2 ⟨i, node, g, hnode, hg, by rw [Nat.zero_add]⟩

theorem mem_failuresFrom : ∀ {nodes : List Node} {i : Nat} {f : Failure},
    f ∈ failuresFrom backend id i nodes ↔
      ∃ k node g, nodes[k]? = some node ∧ g.In backend id node ∧ f = Failure.below (i + k) g
  | [], i, f => by simp [failuresFrom]
  | node :: nodes, i, f => by
    rw [failuresFrom, List.mem_append, List.mem_map, mem_failuresFrom]
    constructor
    · rintro (⟨g, hg, rfl⟩ | ⟨k, node', g, hnode, hg, rfl⟩)
      · exact ⟨0, node, g, rfl, Node.mem_failures.1 hg, rfl⟩
      -- What has place `k` among the nodes behind the first has place `k + 1` among all.
      · exact ⟨k + 1, node', g, hnode, hg, by rw [Nat.add_assoc, Nat.add_comm 1 k]⟩
    · rintro ⟨k, node', g, hnode, hg, rfl⟩
      cases k with
      | zero =>
        cases hnode
        exact .inl ⟨g, Node.mem_failures.2 hg, rfl⟩
      | succ k => exact .inr ⟨k, node', g, hnode, hg, by rw [Nat.add_assoc, Nat.add_comm 1 k]⟩

end

/-! ### From left to right -/

mutual

theorem Node.pairwise_failures : ∀ node : Node,
    (node.failures backend id).Pairwise fun f f' => f.path < f'.path
  | .single condition join => by
    rw [Node.failures]
    cases condition.error? backend id <;> simp
  | .group join nodes own => by
    rw [Node.failures]
    split
    · exact pairwise_failuresFrom nodes 0
    · exact .nil

theorem pairwise_failuresFrom : ∀ (nodes : List Node) (i : Nat),
    (failuresFrom backend id i nodes).Pairwise fun f f' => f.path < f'.path
  | [], i => by
    rw [failuresFrom]
    exact .nil
  | node :: nodes, i => by
    rw [failuresFrom, List.pairwise_append, List.pairwise_map]
    refine ⟨node.pairwise_failures.imp fun h => List.cons_lt_cons_iff.2 (.inr ⟨rfl, h⟩),
      pairwise_failuresFrom nodes (i + 1), ?_⟩
    -- Places in the first node start with `i`, those in the others with a larger number.
    intro f hf f' hf'
    obtain ⟨g, -, rfl⟩ := List.mem_map.1 hf
    obtain ⟨k, -, g', -, -, rfl⟩ := mem_failuresFrom.1 hf'
    exact List.cons_lt_cons_iff.2 (.inl (by omega))

end

/-! ### What is logged -/

theorem events_keep (node : Node) (x : Except Error (Option π)) :
    (keep id node x).events = ((errorOf x).map (.columnFailed id node)).toList := by
  cases x <;> rfl

mutual

theorem Node.reports_eq : ∀ node : Node,
    ((node.compile backend id).events ++
        (keep id node (node.compile backend id).value).events).filter (·.isColumnFailed) =
      (node.failures backend id).map (·.event)
  | .single condition join => by
    rw [Node.value_compile_single, events_keep, Condition.errorOf_compile, Node.failures, Node.compile]
    cases condition.error? backend id <;> rfl
  | .group join nodes own => by
    -- A group has no error, so its nodes make all of its reports.
    rw [Node.value_compile_group, events_keep, Node.events_compile_group, Node.failures, errorOf,
      Option.map_none, Option.toList_none, List.append_nil]
    split
    · exact compileAll_reports_eq nodes 0
    · rfl

theorem compileAll_reports_eq : ∀ (nodes : List Node) (i : Nat),
    (compileAll backend id nodes).events.filter (·.isColumnFailed) =
      (failuresFrom backend id i nodes).map (·.event)
  | [], i => by
    rw [compileAll, failuresFrom]
    rfl
  | node :: nodes, i => by
    have hbelow : ∀ fs : List Failure, (fs.map (Failure.below i)).map (·.event) = fs.map (·.event) :=
      fun fs => List.map_map
    rw [events_compileAll_cons, failuresFrom, List.append_nil, ← List.append_assoc, List.filter_append,
      node.reports_eq, compileAll_reports_eq nodes (i + 1), List.map_append, hbelow]

end

end

def entriesFailures (entries : List (String × Node)) : List Failure :=
  entries.flatMap fun entry => entry.2.failures backend entry.1

section
variable {backend : Backend γ π}

theorem compileEntries_reports_eq (entries : List (String × Node)) :
    (compileEntries backend entries).events.filter (·.isColumnFailed) =
      (entriesFailures backend entries).map (·.event) := by
  induction entries with
  | nil => rfl
  | cons entry entries ih =>
    rw [events_compileEntries_cons, List.append_nil, ← List.append_assoc, List.filter_append, ih,
      Node.reports_eq, entriesFailures, entriesFailures, List.flatMap_cons, List.map_append]

theorem Model.mem_failures {m : Model} {f : Failure} :
    f ∈ entriesFailures backend m.entries ↔ m.Fails backend f := by
  have hcompile {error : Error} : (f.node.compile backend f.id).value = .error error ↔
      f.condition.error? backend f.id = some error := by
    rw [Failure.node, Node.value_compile_single, ← errorOf_eq_some, Condition.errorOf_compile]
  simp only [entriesFailures, List.mem_flatMap, Fails, hcompile, Node.mem_failures, Failure.In]
  constructor
  · rintro ⟨⟨id, node⟩, hentry, hid, hat, herror⟩
    dsimp only at hid hat herror
    subst hid
    exact ⟨node, Dictionary.find?_of_mem hentry, hat, herror⟩
  · rintro ⟨node, hfind, hat, herror⟩
    exact ⟨(f.id, node), Dictionary.mem_of_find? hfind, rfl, hat, herror⟩

theorem Model.pairwise_failures (m : Model) : (entriesFailures backend m.entries).Pairwise Failure.Before := by
  rw [entriesFailures, List.pairwise_flatMap]
  constructor
  · intro entry _
    refine entry.2.pairwise_failures.imp_of_mem ?_
    intro f f' hf hf' hpath
    exact .inr ⟨(Node.mem_failures.1 hf).1.trans (Node.mem_failures.1 hf').1.symm, hpath⟩
  · refine m.pairwise_bytes.imp ?_
    intro entry entry' hbytes f hf f' hf'
    rw [← (Node.mem_failures.1 hf).1, ← (Node.mem_failures.1 hf').1] at hbytes
    exact .inl hbytes

end

/-- The reports of a filter model are those of its failures, each once and in their order. The error of
a condition is the first of those of its column, its date and its last date, and a group has none. -/
theorem Model.exists_failures {γ π : Type} (backend : Backend γ π) (m : Model) :
    (∃ failures : List Failure,
      (m.compile backend).events.filter (·.isColumnFailed) = failures.map (·.event) ∧
        failures.Pairwise Failure.Before ∧ ∀ f, f ∈ failures ↔ m.Fails backend f) ∧
    (∀ (id : String) (condition : Condition) (join : Option Join) (error : Error),
      ((Node.single condition join).compile backend id).value = .error error ↔
        condition.error? backend id = some error) ∧
    ∀ (id : String) (join : Option Join) (nodes : List Node) (own : Condition),
      ∃ p, ((Node.group join nodes own).compile backend id).value = .ok p := by
  refine ⟨⟨entriesFailures backend m.entries, ?_, m.pairwise_failures, fun f => mem_failures⟩, ?_, ?_⟩
  · have hlast : (if m.size ≠ 0 then
        [.predicateCreated m.size (compileEntries backend m.entries).value.length]
      else [] : List Event).filter (·.isColumnFailed) = [] := by
      split <;> rfl
    rw [events_compile, List.filter_append, hlast, List.append_nil, compileEntries_reports_eq]
  · intro id condition join error
    rw [Node.value_compile_single, ← errorOf_eq_some, Condition.errorOf_compile]
  · intro id join nodes own
    exact ⟨_, Node.value_compile_group backend id join nodes own⟩

end DataGrid.Filter
