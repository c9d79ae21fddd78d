import DataGrid.Filter.Compile
import DataGrid.Proofs.Backend.Simulation

/-!
# Filters under simulations

Filter models of one shape differ in their values only. Compiled over two backends that a simulation
ties together, with values related as the simulation says, they become related predicates
(`Model.compile_related`): conditions fail together, give nothing together, or give related predicates.
The diagonal case is a property of all predicates that one backend makes (`Model.compile_invariant`).
-/

namespace DataGrid.Filter

open Backend (Simulation)

/-- The same test with the same parts present, and values related by `r`; dates are related by what
they are read as. -/
inductive Condition.Related (r : Value → Value → Prop) : Condition → Condition → Prop
  | text (test : Option TextTest) {v v' : Option String}
      (hv : Option.Rel (fun s s' => r (.text s) (.text s')) v v') :
      Condition.Related r (.text test v) (.text test v')
  | number (test : Option ScalarTest) {v v' u u' : Option Binary64}
      (hv : Option.Rel (fun x x' => r (.number x) (.number x')) v v')
      (hu : Option.Rel (fun x x' => r (.number x) (.number x')) u u') :
      Condition.Related r (.number test v u) (.number test v' u')
  | boolean (test : Option BooleanTest) : Condition.Related r (.boolean test) (.boolean test)
  | date (test : Option ScalarTest) {v v' u u' : Option String}
      (hv : Option.Rel (fun s s' => Alike r (dateValue s) (dateValue s')) v v')
      (hu : Option.Rel (fun s s' => Alike r (dateValue s) (dateValue s')) u u') :
      Condition.Related r (.date test v u) (.date test v' u')
  | object (test : Option TextTest) {v v' : Option String}
      (hv : Option.Rel (fun s s' => r (.text s) (.text s')) v v') :
      Condition.Related r (.object test v) (.object test v')

mutual

/-- Trees of one form with the same joins and related conditions. The own condition of a group does
not count. -/
inductive Node.Related (r : Value → Value → Prop) : Node → Node → Prop
  | single (join : Option Join) {c c' : Condition} (h : c.Related r c') :
      Node.Related r (.single c join) (.single c' join)
  | group (join : Option Join) (own own' : Condition) {nodes nodes' : List Node}
      (h : NodesRelated r nodes nodes') :
      Node.Related r (.group join nodes own) (.group join nodes' own')

inductive NodesRelated (r : Value → Value → Prop) : List Node → List Node → Prop
  | nil : NodesRelated r [] []
  | cons {node node' : Node} {nodes nodes' : List Node} (h : Node.Related r node node')
      (hs : NodesRelated r nodes nodes') : NodesRelated r (node :: nodes) (node' :: nodes')

end

/-- The same columns with related nodes. -/
def Model.Related (r : Value → Value → Prop) (m m' : Model) : Prop :=
  List.Forall₂ (fun e e' => e.1 = e'.1 ∧ e.2.Related r e'.2) m.entries m'.entries

section
variable {r : Value → Value → Prop}

theorem optionRel_refl {α : Type} {s : α → α → Prop} (hs : ∀ a, s a a) (x : Option α) :
    Option.Rel s x x := by
  cases x with
  | none => exact .none
  | some a => exact .some (hs a)

theorem Condition.related_refl (hr : ∀ v, r v v) (c : Condition) : c.Related r c := by
  have hs : ∀ s : String, r (.text s) (.text s) := fun s => hr _
  have hx : ∀ x : Binary64, r (.number x) (.number x) := fun x => hr _
  have hd : ∀ s, Alike r (dateValue s) (dateValue s) := fun s => .refl hr _
  cases c with
  | text test v => exact .text test (optionRel_refl hs v)
  | number test v u => exact .number test (optionRel_refl hx v) (optionRel_refl hx u)
  | boolean test => exact .boolean test
  | date test v u => exact .date test (optionRel_refl hd v) (optionRel_refl hd u)
  | object test v => exact .object test (optionRel_refl hs v)

mutual

theorem Node.related_refl (hr : ∀ v, r v v) : ∀ node : Node, node.Related r node
  | .single c join => .single join (c.related_refl hr)
  | .group join nodes own => .group join own own (nodesRelated_refl hr nodes)

theorem nodesRelated_refl (hr : ∀ v, r v v) : ∀ nodes : List Node, NodesRelated r nodes nodes
  | [] => .nil
  | node :: nodes => .cons (node.related_refl hr) (nodesRelated_refl hr nodes)

end

theorem Model.related_refl (hr : ∀ v, r v v) (m : Model) : m.Related r m := by
  unfold Model.Related
  induction m.entries with
  | nil => exact .nil
  | cons e entries ih => exact .cons ⟨rfl, e.2.related_refl hr⟩ ih

end

/-! ### What compiling gives, without what it logs -/

section
variable {γ π : Type} (backend : Backend γ π) (id : String)

theorem Node.value_compile_single (c : Condition) (join : Option Join) :
    ((Node.single c join).compile backend id).value = c.compile backend id := by
  rw [Node.compile, Logged.value_pure]

theorem Node.value_compile_group (join : Option Join) (nodes : List Node) (own : Condition) :
    ((Node.group join nodes own).compile backend id).value =
      .ok ((Join.compile backend join).map fun combine =>
        combine (compileAll backend id nodes).value) := by
  rw [Node.compile]
  cases Join.compile backend join <;> rfl

theorem value_compileAll_cons (node : Node) (nodes : List Node) :
    (compileAll backend id (node :: nodes)).value =
      (keep id node (node.compile backend id).value).value.toList ++
        (compileAll backend id nodes).value := by
  rw [compileAll]
  rfl

/-- What is logged on the way does not change the predicate. -/
theorem Model.value_compile (m : Model) :
    (m.compile backend).value =
      if (compileEntries backend m.entries).value.isEmpty then backend.always
      else backend.all (compileEntries backend m.entries).value := by
  unfold Model.compile
  simp only [Logged.value_bind]
  split <;> split <;> simp_all

end

/-! ### Compiling related filters -/

section
variable {γ π γ' π' : Type} {left : Backend γ π} {right : Backend γ' π'}

/-- The pattern of a text is related to that of a related text, wherever `%` is added. -/
def KeepsPatterns (S : Simulation left right) : Prop :=
  ∀ s s', S.value (.text s) (.text s') →
    S.pattern ("%" ++ Like.escape s ++ "%") ("%" ++ Like.escape s' ++ "%") ∧
    S.pattern (Like.escape s ++ "%") (Like.escape s' ++ "%") ∧
    S.pattern ("%" ++ Like.escape s) ("%" ++ Like.escape s')

variable {S : Simulation left right} {id : String}

theorem lookUp_alike (h : S.Resolves id) (kind : ColumnKind) :
    Alike (S.column kind) (lookUp left id kind) (lookUp right id kind) :=
  (h kind).mapError

theorem TextTest.compile_related (hS : KeepsPatterns S) {kind : ColumnKind} {c : γ} {c' : γ'}
    (hc : S.column kind c c') (hk : kind = .text ∨ kind = .coerced) {s s' : String}
    (hs : S.value (.text s) (.text s')) (test : TextTest) :
    Option.Rel S.predicate (test.compile left c s) (test.compile right c' s') := by
  obtain ⟨hboth, hafter, hbefore⟩ := hS s s' hs
  cases test with
  | equals => exact .some (S.compare _ hc hk hs)
  | notEqual => exact .some (S.compare _ hc hk hs)
  | contains => exact .some (S.like _ hc hk hboth)
  | notContains => exact .some (S.like _ hc hk hboth)
  | startsWith => exact .some (S.like _ hc hk hafter)
  | endsWith => exact .some (S.like _ hc hk hbefore)
  | blank => exact .some (S.null _ hc)
  | notBlank => exact .some (S.null _ hc)
  | unknown => exact .none

theorem ScalarTest.compile_related {kind : ColumnKind} {c : γ} {c' : γ'} (hc : S.column kind c c')
    {v v' : Value} (hk : v.Fits kind) (hv : S.value v v') {u u' : Except Error (Option Value)}
    (hu : Alike (Option.Rel fun w w' => w.Fits kind ∧ S.value w w') u u') (test : ScalarTest) :
    Alike (Option.Rel S.predicate) (test.compile left c v u) (test.compile right c' v' u') := by
  cases test with
  | inRange =>
    have hlower := S.compare .greaterOrEqual hc hk hv
    refine hu.bind fun w w' hw => ?_
    cases hw with
    | none => exact .ok (.some (S.all (.cons hlower (.cons S.always .nil))))
    | some hw =>
      have hupper := S.compare .lessOrEqual hc hw.1 hw.2
      exact .ok (.some (S.all (.cons hlower (.cons hupper .nil))))
  | blank => exact .ok (.some (S.null _ hc))
  | notBlank => exact .ok (.some (S.null _ hc))
  | unknown => exact .ok .none
  | _ => exact .ok (Option.Rel.some (S.compare _ hc hk hv))

theorem dateValue_alike {s s' : String} (h : Alike S.value (dateValue s) (dateValue s')) :
    Alike (fun v v' => v.Fits .dateTime ∧ S.value v v') (dateValue s) (dateValue s') := by
  unfold dateValue at h ⊢
  revert h
  cases DateTime.ofGrid s <;> cases DateTime.ofGrid s' <;> intro h <;> cases h
  · exact .error _ _
  · exact .ok ⟨rfl, ‹_›⟩

/-- An optional date is read only where it is present. -/
theorem mapM_dateValue_alike {u u' : Option String}
    (hu : Option.Rel (fun s s' => Alike S.value (dateValue s) (dateValue s')) u u') :
    Alike (Option.Rel fun v v' => v.Fits .dateTime ∧ S.value v v')
      (u.mapM dateValue) (u'.mapM dateValue) := by
  cases hu with
  | none => exact .ok .none
  | some h => exact (dateValue_alike h).bind fun _ _ hv => .ok (.some hv)

theorem Condition.compile_related (hS : KeepsPatterns S) (hid : S.Resolves id) {c c' : Condition}
    (h : c.Related S.value c') :
    Alike (Option.Rel S.predicate) (c.compile left id) (c'.compile right id) := by
  cases h with
  | text test hv | object test hv =>
    cases hv with
    | none => exact .ok .none
    | some hv =>
      refine (lookUp_alike hid _).bind fun γ γ' hγ => .ok ?_
      cases test with
      | none => exact .none
      | some test => exact test.compile_related hS hγ (by simp) hv
  | number test hv hu =>
    have hk : ∀ x, (Value.number x).Fits .number := fun _ => rfl
    cases hv with
    | none => exact .ok .none
    | some hv =>
      refine (lookUp_alike hid _).bind fun γ γ' hγ => ?_
      cases test with
      | none => exact .ok .none
      | some test =>
        refine test.compile_related hγ (hk _) hv (.ok ?_)
        cases hu with
        | none => exact .none
        | some hu => exact .some ⟨rfl, hu⟩
  | boolean test =>
    exact (lookUp_alike hid _).bind fun γ γ' hγ => .ok (.some (S.compare _ hγ rfl (S.value_refl _)))
  | date test hv hu =>
    cases hv with
    | none => exact .ok .none
    | some hv =>
      refine (lookUp_alike hid _).bind fun γ γ' hγ => ?_
      refine (dateValue_alike hv).bind fun v v' hv => ?_
      cases test with
      | none => exact .ok .none
      | some test => exact test.compile_related hγ hv.1 hv.2 (mapM_dateValue_alike hu)

/-- The predicates that two nodes leave are related: errors leave none. -/
theorem keep_related {node node' : Node} {x x' : Except Error (Option _)}
    (h : Alike (Option.Rel S.predicate) x x') :
    Option.Rel S.predicate (keep id node x).value (keep id node' x').value := by
  cases h with
  | ok h => exact h
  | error e e' => exact .none

theorem forall₂_toList_append {α β : Type} {s : α → β → Prop} {x : Option α} {x' : Option β}
    {xs : List α} {xs' : List β} (hx : Option.Rel s x x') (hxs : List.Forall₂ s xs xs') :
    List.Forall₂ s (x.toList ++ xs) (x'.toList ++ xs') := by
  cases hx with
  | none => exact hxs
  | some h => exact .cons h hxs

mutual

theorem Node.compile_related (hS : KeepsPatterns S) (hid : S.Resolves id) {node node' : Node} :
    node.Related S.value node' →
      Alike (Option.Rel S.predicate) (node.compile left id).value (node'.compile right id).value
  | .single join h => by
    rw [Node.value_compile_single, Node.value_compile_single]
    exact Condition.compile_related hS hid h
  | .group join own own' h => by
    have hnodes := compileAll_related hS hid h
    rw [Node.value_compile_group, Node.value_compile_group]
    match join with
    | none | some .unknown => exact .ok .none
    | some .and => exact .ok (.some (S.all hnodes))
    | some .or => exact .ok (.some (S.any hnodes))

theorem compileAll_related (hS : KeepsPatterns S) (hid : S.Resolves id) {nodes nodes' : List Node} :
    NodesRelated S.value nodes nodes' →
      List.Forall₂ S.predicate (compileAll left id nodes).value (compileAll right id nodes').value
  | .nil => .nil
  | .cons h hs => by
    rw [value_compileAll_cons, value_compileAll_cons]
    exact forall₂_toList_append (keep_related (Node.compile_related hS hid h))
      (compileAll_related hS hid hs)

end

theorem compileEntries_related (hS : KeepsPatterns S) {entries entries' : List (String × Node)}
    (h : List.Forall₂ (fun e e' => e.1 = e'.1 ∧ e.2.Related S.value e'.2) entries entries')
    (hid : ∀ e ∈ entries, S.Resolves e.1) :
    List.Forall₂ S.predicate (compileEntries left entries).value
      (compileEntries right entries').value := by
  induction h with
  | nil => exact .nil
  | @cons e e' entries entries' he _ ih =>
    obtain ⟨id, node⟩ := e
    obtain ⟨id', node'⟩ := e'
    obtain ⟨rfl, he⟩ := he
    have hnode := Node.compile_related hS (hid _ (List.mem_cons_self ..)) he
    exact forall₂_toList_append (keep_related hnode) (ih fun e h => hid e (List.mem_cons_of_mem _ h))

/-- Related filter models compile to related predicates. -/
theorem Model.compile_related (hS : KeepsPatterns S) {m m' : Model} (h : m.Related S.value m')
    (hid : ∀ id ∈ m.ids, S.Resolves id) :
    S.predicate (m.compile left).value (m'.compile right).value := by
  have hps := compileEntries_related hS h fun e he => hid e.1 (List.mem_map_of_mem he)
  rw [Model.value_compile, Model.value_compile]
  revert hps
  generalize (compileEntries left m.entries).value = ps
  generalize (compileEntries right m'.entries).value = ps'
  intro hps
  cases hps with
  | nil => exact S.always
  | cons h hps => exact S.all (.cons h hps)

/-- An invariant of a backend holds of the predicate of a filter model, when the columns that the
backend has under the model's ids have the property that the invariant asks of columns. -/
theorem Model.compile_invariant {backend : Backend γ π} (I : Backend.Invariant backend) (m : Model)
    (hid : ∀ id ∈ m.ids, ∀ kind c, backend.column id kind = .ok c → I.column c) :
    I.predicate (m.compile backend).value := by
  have hS : KeepsPatterns I.simulation := by
    rintro s _ ⟨⟩
    exact ⟨rfl, rfl, rfl⟩
  have hres : ∀ id ∈ m.ids, I.simulation.Resolves id := by
    intro id hmem kind
    cases hc : backend.column id kind with
    | error e => exact .error e e
    | ok c => exact .ok ⟨rfl, hid id hmem kind c hc⟩
  exact (Model.compile_related hS (m.related_refl fun _ => rfl) hres).2

end

end DataGrid.Filter
