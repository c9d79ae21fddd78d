import DataGrid.Filter.Decode
import DataGrid.Proofs.Dictionary
import DataGrid.Proofs.Json.MemberOrder

/-!
# Filters and the order of members

The members of a node are looked up by their names, so its family may stand behind what it gives a meaning to.
Reordered values are the same node (`Reordered.ofJson?_eq`), and nodes and filter models are read from sources
in any order (`Filter.Node.ignoresOrder_read`, `Filter.Model.ignoresOrder_read`).
-/

namespace DataGrid

namespace Json

open DataGrid.Filter (Node Family TextTest ScalarTest BooleanTest Join condition? family? groups? group? nodes?)

/-! ### Parts of values -/

theorem MembersReordered.length_eq : ∀ {members members' : List (String × Json)}, MembersReordered members members' →
    members.length = members'.length
  | _, _, .nil => rfl
  | _, _, .cons _ _ hs => congrArg (· + 1) hs.length_eq
  | _, _, .swap .. => rfl
  | _, _, .trans h h' => h.length_eq.trans h'.length_eq

theorem MembersReordered.forall_mem {P : String → Json → Prop}
    (hP : ∀ {name : String} {v v' : Json}, Reordered v v' → P name v → P name v') :
    ∀ {members members' : List (String × Json)}, MembersReordered members members' →
      (∀ member ∈ members, P member.1 member.2) → ∀ member ∈ members', P member.1 member.2
  | _, _, .nil, h => h
  | _, _, .cons _ hvalue hs, h => by
    rw [List.forall_mem_cons] at h ⊢
    exact ⟨hP hvalue h.1, hs.forall_mem (P := P) hP h.2⟩
  | _, _, .swap .., h => by
    simp only [List.forall_mem_cons] at h ⊢
    exact ⟨h.2.1, h.1, h.2.2⟩
  | _, _, .trans hs hs', h => hs'.forall_mem (P := P) hP (hs.forall_mem (P := P) hP h)

theorem name?_cons_cons (member member' : String × Json) (rest : List (String × Json)) :
    name? (.object (member :: member' :: rest)) = none := by
  obtain ⟨name, value⟩ := member
  cases value with
  | object members => cases members <;> rfl
  | _ => rfl

/-- Only an object with one member has a name. -/
theorem MembersReordered.name?_eq : ∀ {members members' : List (String × Json)}, MembersReordered members members' →
    name? (.object members) = name? (.object members')
  | _, _, .nil => rfl
  | _, _, .swap .. => by rw [name?_cons_cons, name?_cons_cons]
  | _, _, @MembersReordered.cons name value value' rest rest' hvalue hs => by
    have hlength := hs.length_eq
    cases rest with
    | nil =>
      obtain rfl : rest' = [] := List.length_eq_zero_iff.1 hlength.symm
      cases hvalue with
      | null | bool | number | string | array => rfl
      | @object members members' h =>
        have hlength := h.length_eq
        cases members with
        | nil =>
          obtain rfl : members' = [] := List.length_eq_zero_iff.1 hlength.symm
          rfl
        | cons =>
          cases members' with
          | nil => cases hlength
          | cons => rfl
    | cons =>
      cases rest' with
      | nil => cases hlength
      | cons => rw [name?_cons_cons, name?_cons_cons]
  | _, _, .trans h h' => h.name?_eq.trans h'.name?_eq

section
variable {α : Type} {v v' : Json}

theorem Reordered.name?_eq (h : Reordered v v') : v.name? = v'.name? := by
  cases h with
  | null | bool | number | string | array => rfl
  | object h => exact h.name?_eq

theorem Reordered.text?_eq (h : Reordered v v') : v.text? = v'.text? := by cases h <;> rfl

theorem Reordered.number?_eq (h : Reordered v v') : v.number? = v'.number? := by cases h <;> rfl

theorem Reordered.optional_eq {read : Json → Option α} (hread : ∀ {v v' : Json}, Reordered v v' → read v = read v')
    (h : Reordered v v') : optional read v = optional read v' := by
  have hsome : some <$> read v = some <$> read v' := by rw [hread h]
  cases h with
  | null => rfl
  | bool | number | string => rfl
  | array => exact hsome
  | object => exact hsome

end

section
variable {α β : Type} {f : Json → β} {g : Json → Option α} {members members' : List (String × Json)}

/-- Members with one name keep their order, as there is at most one of them. -/
theorem MembersReordered.map_filter (hf : ∀ {v v' : Json}, Reordered v v' → f v = f v') (name : String) :
    ∀ {members members' : List (String × Json)}, MembersReordered members members' →
      (members.filter (·.1 = name)).map (f ·.2) = (members'.filter (·.1 = name)).map (f ·.2)
  | _, _, .nil => rfl
  | _, _, .cons other hvalue hs => by
    have ih := hs.map_filter hf name
    by_cases hname : other = name
    · simp [hname, hf hvalue, ih]
    · simp [hname, ih]
  -- At most one of the two is kept.
  | _, _, @MembersReordered.swap other other' hne value value' rest => by
    by_cases hname : other = name
    · have hname' : other' ≠ name := fun h => hne (hname.trans h.symm)
      simp [hname, hname']
    · simp [List.filter_cons, hname]
  | _, _, .trans h h' => (h.map_filter hf name).trans (h'.map_filter hf name)

theorem member?_bind (name : String) : member? members name >>= g =
    match (members.filter (·.1 = name)).map (g ·.2) with
    | [] => g .null
    | [a] => a
    | _ => none := by
  unfold member?
  cases members.filter (·.1 = name) with
  | nil => rfl
  | cons member rest => cases rest <;> rfl

theorem MembersReordered.member?_bind_eq (h : MembersReordered members members')
    (hg : ∀ {v v' : Json}, Reordered v v' → g v = g v') (name : String) :
    member? members name >>= g = member? members' name >>= g := by
  rw [member?_bind, member?_bind, h.map_filter hg]

theorem MembersReordered.part?_eq {read : Json → Option α} (h : MembersReordered members members')
    (hread : ∀ {v v' : Json}, Reordered v v' → read v = read v') (name : String) :
    part? members name read = part? members' name read :=
  h.member?_bind_eq (fun hv => hv.optional_eq hread) name

end

/-! ### Nodes -/

theorem Reordered.family?_eq {v v' : Json} (h : Reordered v v') : family? v = family? v' := by
  cases h <;> rfl

theorem MembersReordered.condition?_eq {members members' : List (String × Json)} (h : MembersReordered members members')
    (family : Family) : condition? family members = condition? family members' := by
  have htest {α : Type} (ofName : String → α) : part? members "type" (fun value => ofName <$> value.name?) =
      part? members' "type" (fun value => ofName <$> value.name?) :=
    h.part?_eq (fun hv => by rw [hv.name?_eq]) "type"
  have htext (name : String) := h.part?_eq Reordered.text?_eq name
  have hnumber (name : String) := h.part?_eq Reordered.number?_eq name
  cases family <;> simp only [condition?, htest, htext, hnumber]

mutual

/-- The meaning of a node is the same when its members, and those of the nodes in it, are reordered. -/
theorem Reordered.ofJson?_eq : ∀ {v v' : Json}, Reordered v v' → Node.ofJson? v = Node.ofJson? v'
  | _, _, .null | _, _, .bool _ | _, _, .number _ | _, _, .string _ => rfl
  | _, _, .array _ => by simp only [Node.ofJson?]
  | _, _, .object h => by
    have hfamily := h.member?_bind_eq Reordered.family?_eq "filterType"
    have hjoin := h.part?_eq (fun hv => congrArg (Join.ofName <$> ·) hv.name?_eq) "operator"
    simp only [Node.ofJson?, hfamily, h.condition?_eq, hjoin, h.groups?_eq]

theorem Reordered.group?_eq : ∀ {v v' : Json}, Reordered v v' → group? v = group? v'
  | _, _, .null | _, _, .bool _ | _, _, .number _ | _, _, .string _ => rfl
  | _, _, .array h => by rw [group?, group?, h.nodes?_eq]
  | _, _, .object _ => by simp only [group?]

theorem ItemsReordered.nodes?_eq : ∀ {items items' : List Json}, ItemsReordered items items' →
    nodes? items = nodes? items'
  | _, _, .nil => rfl
  | _, _, .cons h hs => by rw [nodes?, nodes?, h.ofJson?_eq, hs.nodes?_eq]

theorem MembersReordered.groups?_eq : ∀ {members members' : List (String × Json)}, MembersReordered members members' →
    groups? members = groups? members'
  | _, _, .nil => rfl
  | _, _, .cons _ h hs => by rw [groups?, groups?, h.group?_eq, hs.groups?_eq]
  | _, _, @MembersReordered.swap name name' hne value value' rest => by
    by_cases hname : name = "conditions"
    · have hname' : name' ≠ "conditions" := fun h => hne (hname.trans h.symm)
      simp only [groups?, if_pos hname, if_neg hname']
    · simp only [groups?, if_neg hname]
  | _, _, .trans h h' => h.groups?_eq.trans h'.groups?_eq

end

end Json

namespace Filter

open Json (Fault Source Reader MembersReordered)

/-! ### Reading nodes -/

def NamesFamily (value : Json) : Prop := ∃ name, value = .string name ∧ (Family.ofName? name).isNone = false

theorem NamesFamily.reordered {v v' : Json} (h : v.Reordered v') (hv : NamesFamily v) : NamesFamily v' := by
  obtain ⟨name, rfl, hname⟩ := hv
  cases h
  exact ⟨name, rfl, hname⟩

section
variable {room : Nat} {hasFamily : Bool} {list : List (String × Json)}

theorem text_eq_ok_iff {t : Json.Tree} {name : String} :
    Reader.text room t = .ok name ↔ t.raw room = .ok (.string name) := by
  cases t with
  | string s =>
    cases s with
    | none => exact ⟨nofun, nofun⟩
    | some s =>
      show Except.ok s = _ ↔ Except.ok (Json.string s) = _
      rw [Except.ok.injEq, Except.ok.injEq, Json.string.injEq]
  | number n => cases n <;> exact ⟨nofun, nofun⟩
  | array items =>
    refine ⟨nofun, fun h => ?_⟩
    cases room with
    | zero => cases h
    | succ room =>
      obtain ⟨_, -, ⟨⟩⟩ := Except.exists_of_map_eq_ok h
  | object members =>
    refine ⟨nofun, fun h => ?_⟩
    cases room with
    | zero => cases h
    | succ room =>
      obtain ⟨_, -, ⟨⟩⟩ := Except.exists_of_map_eq_ok h
  | null | bool | broken => exact ⟨nofun, nofun⟩

theorem readMembers_cons_iff {label : Json.Label} {before : Json.Space} {value : Source} {after : Json.Space}
    {rest : Source.Members} :
    readMembers room hasFamily (Source.Members.cons label before value after rest).tree = .ok list ↔
      ∃ name v tail, label.name = some name ∧ value.tree.raw room = .ok v ∧
        readMembers room (hasFamily || name = "filterType") rest.tree = .ok tail ∧ list = (name, v) :: tail ∧
        (name = "filterType" → hasFamily = false ∧ NamesFamily v) := by
  rw [Source.Members.tree]
  cases label.name with
  | none =>
    constructor
    · intro h
      cases h
    · rintro ⟨_, _, _, ⟨⟩, -⟩
  | some name =>
    rw [readMembers]
    by_cases hname : name = "filterType"
    · rw [if_pos hname]
      constructor
      · intro h
        split at h
        · cases h
        · next hnone =>
          obtain ⟨family, hfamily, h⟩ := Except.exists_of_bind_eq_ok h
          split at h
          · cases h
          · next hknown =>
            obtain ⟨tail, htail, h⟩ := Except.exists_of_bind_eq_ok h
            cases h
            refine ⟨name, _, tail, rfl, text_eq_ok_iff.1 hfamily, ?_, rfl,
              fun _ => ⟨by simpa using hnone, family, rfl, eq_false_of_ne_true hknown⟩⟩
            simpa [hname] using htail
      · rintro ⟨_, v, tail, ⟨⟩, hv, htail, rfl, hfamily⟩
        obtain ⟨rfl, family, rfl, hknown⟩ := hfamily hname
        rw [Bool.false_or, decide_eq_true hname] at htail
        rw [text_eq_ok_iff.2 hv]
        show (if (Family.ofName? family).isNone = true then Except.error Fault.mismatch
          else readMembers room true rest.tree >>= fun tail => .ok ((name, .string family) :: tail)) = _
        rw [hknown, htail]
        rfl
    · rw [if_neg hname]
      constructor
      · intro h
        obtain ⟨v, hv, h⟩ := Except.exists_of_bind_eq_ok h
        obtain ⟨tail, htail, h⟩ := Except.exists_of_bind_eq_ok h
        cases h
        exact ⟨name, v, tail, rfl, hv, by simpa [hname] using htail, rfl, fun h => absurd h hname⟩
      · rintro ⟨_, v, tail, ⟨⟩, hv, htail, rfl, -⟩
        simp only [hname, decide_false, Bool.or_false] at htail
        rw [hv]
        show readMembers room hasFamily rest.tree >>= _ = _
        rw [htail]
        rfl

/-- The members of a node are all decoded, when there is one family at most, which is a name. -/
theorem readMembers_iff_of_notMem : ∀ {members : Source.Members} {hasFamily : Bool} {list : List (String × Json)},
    members.Distinct → (hasFamily = true → "filterType" ∉ members.names) →
      (readMembers room hasFamily members.tree = .ok list ↔ members.tree.raw room = .ok list ∧
        ∀ member ∈ list, member.1 = "filterType" → NamesFamily member.2)
  | .nil, _, list, _, _ => by
    constructor
    · intro h
      cases h
      exact ⟨rfl, nofun⟩
    · exact And.left
  | .cons label _ value _ rest, hasFamily, list, hd, hfamily => by
    -- Once the family has been seen, it is the name of no further member.
    have hseen (name : String) (hname : label.name = some name)
        (h : (hasFamily || name = "filterType") = true) : "filterType" ∉ rest.names := by
      rw [Bool.or_eq_true] at h
      rcases h with h | h
      · exact fun hmem => hfamily h (List.mem_append_right _ hmem)
      · rw [← of_decide_eq_true h]
        exact hd.1 name hname
    rw [readMembers_cons_iff, Source.Members.raw_cons_iff]
    constructor
    · rintro ⟨name, v, tail, hname, hv, htail, rfl, hkind⟩
      obtain ⟨htail, hrest⟩ := (readMembers_iff_of_notMem hd.2.2 (hseen name hname)).1 htail
      exact ⟨⟨name, v, tail, hname, hv, htail, rfl⟩, List.forall_mem_cons.2 ⟨fun h => (hkind h).2, hrest⟩⟩
    · rintro ⟨⟨name, v, tail, hname, hv, htail, rfl⟩, hlist⟩
      rw [List.forall_mem_cons] at hlist
      refine ⟨name, v, tail, hname, hv, (readMembers_iff_of_notMem hd.2.2 (hseen name hname)).2 ⟨htail, hlist.2⟩, rfl,
        fun h => ⟨eq_false_of_ne_true fun htrue => hfamily htrue ?_, hlist.1 h⟩⟩
      rw [Source.Members.names, hname, h]
      exact List.mem_cons_self

theorem readMembers_iff {members : Source.Members} (hd : members.Distinct) :
    readMembers room false members.tree = .ok list ↔ members.tree.raw room = .ok list ∧
      ∀ member ∈ list, member.1 = "filterType" → NamesFamily member.2 :=
  readMembers_iff_of_notMem hd nofun

end

theorem Node.read_object_iff {room : Nat} {members : Json.Members} {node : Node} :
    Node.read (room + 1) (.object members) = .ok node ↔
      ∃ list, readMembers room false members = .ok list ∧ Node.ofJson? (.object list) = some node := by
  constructor
  · intro h
    obtain ⟨list, hlist, h⟩ := Except.exists_of_bind_eq_ok h
    refine ⟨list, hlist, ?_⟩
    split at h
    · next hnode => exact hnode.trans (congrArg some (Except.ok.inj h))
    · cases h
  · rintro ⟨list, hlist, hnode⟩
    simp only [Node.read, hlist, bind, Except.bind, hnode]

theorem Node.ignoresOrder_read : Reader.IgnoresOrder Node.read := by
  intro room s s' node hs hd hread
  cases hs with
  | null | bool | number | string => exact hread
  | array => cases room <;> cases hread
  | object _ hmembers =>
    cases room with
    | zero => cases hread
    | succ room =>
      obtain ⟨list, hlist, hnode⟩ := Node.read_object_iff.1 hread
      obtain ⟨hraw, hfamily⟩ := (readMembers_iff hd).1 hlist
      obtain ⟨list', hraw', hreordered⟩ := hmembers.raw hd hraw
      have hfamily' := hreordered.forall_mem
        (P := fun name v => name = "filterType" → NamesFamily v) (fun hv h hname => (h hname).reordered hv) hfamily
      have hlist' := (readMembers_iff (hmembers.distinct hd)).2 ⟨hraw', hfamily'⟩
      rw [(Json.Reordered.object hreordered).ofJson?_eq] at hnode
      exact Node.read_object_iff.2 ⟨list', hlist', hnode⟩

theorem Model.ignoresOrder_read : Reader.IgnoresOrder Model.read :=
  Node.ignoresOrder_read.entries Dictionary.ofList_perm

end Filter

end DataGrid
