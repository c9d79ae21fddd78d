import DataGrid.Proofs.Query
import DataGrid.Sql

/-!
# Leaving out what gives no predicate

A node that gives no predicate, because it has an error or because it adds nothing, could as well not
have been sent. `prune` takes such nodes out of a filter model, of its columns and of its groups at any
depth. Whatever the backend, the rest makes the same predicate, and no error is left to report.
-/

namespace DataGrid

/-- The event reports a condition that has an error. -/
def Event.isColumnFailed : Event → Bool
  | columnFailed .. => true
  | _ => false

namespace Filter

variable {γ π : Type} (backend : Backend γ π) (id : String)

/-- The nodes of a group with this join count. -/
def Join.isUsable : Option Join → Bool
  | some .and | some .or => true
  | some .unknown | none => false

/-- The node gives a predicate, neither an error nor nothing. -/
def Node.gives (node : Node) : Bool :=
  match (node.compile backend id).value with
  | .ok (some _) => true
  | .ok none | .error _ => false

mutual

/-- The node without the nodes below it that give no predicate. -/
def Node.prune : Node → Node
  | .single condition join => .single condition join
  | .group join nodes own => .group join (if Join.isUsable join then pruneAll nodes else nodes) own

/-- The nodes that give a predicate, each without those below it that do not. -/
def pruneAll : List Node → List Node
  | [] => []
  | node :: nodes =>
    if node.gives backend id then node.prune :: pruneAll nodes else pruneAll nodes

end

/-- The entry without the nodes that give no predicate, unless it gives none itself. -/
def pruneEntry (entry : String × Node) : Option (String × Node) :=
  if entry.2.gives backend entry.1 then some (entry.1, entry.2.prune backend entry.1) else none

theorem fst_of_pruneEntry {entry pruned : String × Node} (h : pruneEntry backend entry = some pruned) :
    pruned.1 = entry.1 := by
  unfold pruneEntry at h
  split at h
  · cases h
    rfl
  · cases h

/-- The filter model without the nodes that give no predicate. -/
def Model.prune (m : Model) : Model where
  entries := m.entries.filterMap (pruneEntry backend)
  sorted := m.sorted.filterMap _ fun a a' h b hb b' hb' => by
    rw [fst_of_pruneEntry backend hb, fst_of_pruneEntry backend hb']
    exact h

/-! ### The predicate stays the same -/

section
variable {backend : Backend γ π} {id : String} {node : Node}

theorem Node.exists_of_gives (h : node.gives backend id = true) :
    ∃ p, (node.compile backend id).value = .ok (some p) := by
  unfold Node.gives at h
  split at h
  · next p hp => exact ⟨p, hp⟩
  all_goals cases h

theorem value_keep_of_not_gives (h : ¬ node.gives backend id = true) :
    (keep id node (node.compile backend id).value).value = none := by
  unfold Node.gives at h
  split at h
  · exact absurd rfl h
  · next hnone => rw [hnone]; rfl
  · next error herror => rw [herror]; rfl

end

/-- What is kept of a result does not depend on the node that is reported with it. -/
theorem value_keep_eq (node node' : Node) (x : Except Error (Option π)) :
    (keep id node x).value = (keep id node' x).value := by
  cases x <;> rfl

mutual

theorem Node.value_compile_prune : ∀ node : Node,
    ((node.prune backend id).compile backend id).value = (node.compile backend id).value
  | .single _ _ => by rw [Node.prune]
  | .group join nodes own => by
    rw [Node.prune, Node.value_compile_group, Node.value_compile_group]
    split
    · rw [value_compileAll_pruneAll nodes]
    · rfl

theorem value_compileAll_pruneAll : ∀ nodes : List Node,
    (compileAll backend id (pruneAll backend id nodes)).value = (compileAll backend id nodes).value
  | [] => by rw [pruneAll]
  | node :: nodes => by
    rw [pruneAll, value_compileAll_cons]
    split
    · rw [value_compileAll_cons, node.value_compile_prune, value_compileAll_pruneAll nodes,
        value_keep_eq id _ node]
    · next h =>
      rw [value_keep_of_not_gives h, value_compileAll_pruneAll nodes]
      rfl

end

theorem value_compileEntries_cons (entry : String × Node) (entries : List (String × Node)) :
    (compileEntries backend (entry :: entries)).value =
      (keep entry.1 entry.2 (entry.2.compile backend entry.1).value).value.toList ++
        (compileEntries backend entries).value :=
  rfl

theorem value_compileEntries_prune (entries : List (String × Node)) :
    (compileEntries backend (entries.filterMap (pruneEntry backend))).value =
      (compileEntries backend entries).value := by
  induction entries with
  | nil => rfl
  | cons entry entries ih =>
    rw [List.filterMap_cons, value_compileEntries_cons, pruneEntry]
    split_ifs with h
    · dsimp only
      rw [value_compileEntries_cons, ih, Node.value_compile_prune, value_keep_eq entry.1 _ entry.2]
    · dsimp only
      rw [ih, value_keep_of_not_gives h]
      rfl

theorem Model.value_compile_prune (m : Model) :
    ((m.prune backend).compile backend).value = (m.compile backend).value := by
  rw [Model.value_compile, Model.value_compile, Model.prune, value_compileEntries_prune]

/-! ### No error is left -/

/-- No event reports a condition that has an error. -/
def Quiet (events : List Event) : Prop := ∀ event ∈ events, event.isColumnFailed = false

theorem Quiet.append {events events' : List Event} (h : Quiet events) (h' : Quiet events') :
    Quiet (events ++ events') :=
  List.forall_mem_append.2 ⟨h, h'⟩

/-- A node that gives a predicate has no error of its own to report, also when it is pruned. -/
theorem events_keep_prune {node : Node} (h : node.gives backend id = true) :
    (keep id (node.prune backend id) ((node.prune backend id).compile backend id).value).events = [] := by
  obtain ⟨p, hp⟩ := Node.exists_of_gives h
  rw [Node.value_compile_prune, hp]
  rfl

theorem Node.events_compile_group (join : Option Join) (nodes : List Node) (own : Condition) :
    ((Node.group join nodes own).compile backend id).events =
      if Join.isUsable join then (compileAll backend id nodes).events else [.groupSkipped id] := by
  rw [Node.compile]
  cases join with
  | none => rfl
  | some join =>
    cases join with
    | and | or => exact List.append_nil _
    | unknown => rfl

theorem events_compileAll_cons (node : Node) (nodes : List Node) :
    (compileAll backend id (node :: nodes)).events =
      (node.compile backend id).events ++
        ((keep id node (node.compile backend id).value).events ++
          ((compileAll backend id nodes).events ++ [])) := by
  rw [compileAll]
  rfl

mutual

theorem Node.quiet_compile_prune : ∀ node : Node,
    Quiet ((node.prune backend id).compile backend id).events
  | .single condition join => by
    rw [Node.prune, Node.compile]
    exact nofun
  | .group join nodes own => by
    rw [Node.prune, Node.events_compile_group]
    split
    · exact quiet_compileAll_pruneAll nodes
    · exact List.forall_mem_singleton.2 rfl

theorem quiet_compileAll_pruneAll : ∀ nodes : List Node,
    Quiet (compileAll backend id (pruneAll backend id nodes)).events
  | [] => by
    rw [pruneAll, compileAll]
    exact nofun
  | node :: nodes => by
    rw [pruneAll]
    split
    · next h =>
      rw [events_compileAll_cons, events_keep_prune backend id h, List.append_nil, List.nil_append]
      exact node.quiet_compile_prune.append (quiet_compileAll_pruneAll nodes)
    · exact quiet_compileAll_pruneAll nodes

end

theorem events_compileEntries_cons (entry : String × Node) (entries : List (String × Node)) :
    (compileEntries backend (entry :: entries)).events =
      (entry.2.compile backend entry.1).events ++
        ((keep entry.1 entry.2 (entry.2.compile backend entry.1).value).events ++
          ((compileEntries backend entries).events ++ [])) :=
  rfl

theorem quiet_compileEntries_prune (entries : List (String × Node)) :
    Quiet (compileEntries backend (entries.filterMap (pruneEntry backend))).events := by
  induction entries with
  | nil => exact nofun
  | cons entry entries ih =>
    rw [List.filterMap_cons, pruneEntry]
    split_ifs with h
    · dsimp only
      rw [events_compileEntries_cons, events_keep_prune backend entry.1 h, List.append_nil,
        List.nil_append]
      exact (entry.2.quiet_compile_prune backend entry.1).append ih
    · exact ih

/-- Besides the errors of its columns a model reports how many of them give a predicate. -/
theorem Model.events_compile (m : Model) :
    (m.compile backend).events = (compileEntries backend m.entries).events ++
      if m.size ≠ 0 then
        [.predicateCreated m.size (compileEntries backend m.entries).value.length]
      else [] := by
  unfold Model.compile
  rw [Logged.events_bind]
  refine congrArg _ ?_
  dsimp only
  split <;> split <;> rfl

theorem Model.quiet_compile_prune (m : Model) : Quiet ((m.prune backend).compile backend).events := by
  rw [Model.events_compile]
  refine Quiet.append (quiet_compileEntries_prune backend m.entries) ?_
  split
  · exact List.forall_mem_singleton.2 rfl
  · exact nofun

/-! ### Queries and statements -/

/-- What gives no predicate could as well not have been sent: without it a filter model makes the same
predicate over every backend, and reports no error; so in SQL it makes the same statement with the same
parameters. -/
theorem Model.compile_prune :
    (∀ {γ π : Type} (backend : Backend γ π) (m : Model),
      ((m.prune backend).compile backend).value = (m.compile backend).value ∧
        ∀ event ∈ ((m.prune backend).compile backend).events, event.isColumnFailed = false) ∧
    (∀ (table : Sql.Table) (request : Request),
      (Query.create table.backend
          { request with filterModel := request.filterModel.prune table.backend }
            >>= table.select).value =
        (Query.create table.backend request >>= table.select).value) := by
  refine ⟨fun backend m => ⟨m.value_compile_prune backend, m.quiet_compile_prune backend⟩,
    fun table request => ?_⟩
  have hquery : (Query.create table.backend
      { request with filterModel := request.filterModel.prune table.backend }).value =
        (Query.create table.backend request).value := by
    rw [Query.value_create, Query.value_create, Model.value_compile_prune]
  rw [Logged.value_bind, Logged.value_bind, hquery]

end Filter

end DataGrid
