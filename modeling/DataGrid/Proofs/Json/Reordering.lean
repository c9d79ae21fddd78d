import DataGrid.Proofs.Json.Source

/-!
# Members in another order

Two sources are reordered when they differ in the order of the members of their objects only, at any depth.
They have the same characters. Their trees have the same faults when they are skipped, and where no object
repeats a name, they are decoded as values that are reordered as well (`Source.Reordered.raw`).
-/

namespace DataGrid.Json

namespace Source

mutual

/-- The same text, up to the order of the members in each of its objects. -/
inductive Reordered : Source → Source → Prop
  | null : Reordered .null .null
  | bool (value : Bool) : Reordered (.bool value) (.bool value)
  | number (numeral : Numeral) : Reordered (.number numeral) (.number numeral)
  | string (literal : Literal) : Reordered (.string literal) (.string literal)
  | array (inner : Space) {items items' : Items} (h : Items.Reordered items items') :
      Reordered (.array inner items) (.array inner items')
  | object (inner : Space) {members members' : Members} (h : Members.Reordered members members') :
      Reordered (.object inner members) (.object inner members')

inductive Items.Reordered : Items → Items → Prop
  | nil : Items.Reordered .nil .nil
  | cons (before after : Space) {value value' : Source} {rest rest' : Items} (h : Reordered value value')
      (hs : Items.Reordered rest rest') :
      Items.Reordered (.cons before value after rest) (.cons before value' after rest')

/-- Neighbours may change places; of the blanks around them each goes along or stays. -/
inductive Members.Reordered : Members → Members → Prop
  | nil : Members.Reordered .nil .nil
  | cons (label : Label) (before after : Space) {value value' : Source} {rest rest' : Members}
      (h : Reordered value value') (hs : Members.Reordered rest rest') :
      Members.Reordered (.cons label before value after rest) (.cons label before value' after rest')
  | swap (label : Label) (before : Space) (value : Source) (after : Space)
      (label' : Label) (before' : Space) (value' : Source) (after' : Space) (rest : Members)
      {front back front' back' : Space}
      (h : [label.before, after, label'.before, after'].Perm [front, back, front', back']) :
      Members.Reordered (.cons label before value after (.cons label' before' value' after' rest))
        (.cons { label' with before := front } before' value' back
          (.cons { label with before := front' } before value back' rest))
  | trans {members members' members'' : Members} (h : Members.Reordered members members')
      (h' : Members.Reordered members' members'') : Members.Reordered members members''

end

mutual

theorem Reordered.refl : ∀ s : Source, s.Reordered s
  | .null => .null
  | .bool value => .bool value
  | .number numeral => .number numeral
  | .string literal => .string literal
  | .array inner items => .array inner items.reordered_self
  | .object inner members => .object inner members.reordered_self

theorem Items.reordered_self : ∀ items : Items, items.Reordered items
  | .nil => .nil
  | .cons before value after rest => .cons before after (.refl value) rest.reordered_self

theorem Members.reordered_self : ∀ members : Members, members.Reordered members
  | .nil => .nil
  | .cons label before value after rest => .cons label before after (.refl value) rest.reordered_self

end

def Members.ofList : List (Label × Space × Source × Space) → Members
  | [] => .nil
  | (label, before, value, after) :: rest => .cons label before value after (ofList rest)

/-- By changing places with neighbours, members come into any order. -/
theorem Members.reordered_of_perm {list list' : List (Label × Space × Source × Space)} (h : list.Perm list') :
    (ofList list).Reordered (ofList list') := by
  induction h with
  | nil => exact .nil
  | cons member _ ih => exact .cons _ _ _ (.refl _) ih
  | swap member member' rest =>
    exact .swap _ _ _ _ _ _ _ _ _ (@List.perm_append_comm _ [_, _] [_, _])
  | trans _ _ ih ih' => exact ih.trans ih'

/-! ### The characters -/

mutual

theorem Reordered.perm : ∀ {s s' : Source}, s.Reordered s' → s.chars.Perm s'.chars
  | _, _, .null | _, _, .bool _ | _, _, .number _ | _, _, .string _ => .refl _
  | _, _, .array inner h => by
    rw [chars, chars]
    exact (h.perm.1.append_left inner.chars).cons '['
  | _, _, .object inner h => by
    rw [chars, chars]
    exact (h.perm.1.append_left inner.chars).cons '{'

theorem Items.Reordered.perm : ∀ {items items' : Items}, items.Reordered items' →
    items.chars.Perm items'.chars ∧ items.comma = items'.comma
  | _, _, .nil => ⟨.refl _, rfl⟩
  | _, _, .cons before after h hs => by
    refine ⟨?_, rfl⟩
    rw [Items.chars, Items.chars, hs.perm.2]
    exact .append_left _ (h.perm.append (.append_left _ (.append_left _ hs.perm.1)))

theorem Members.Reordered.perm : ∀ {members members' : Members}, members.Reordered members' →
    members.chars.Perm members'.chars ∧ members.comma = members'.comma
  | _, _, .nil => ⟨.refl _, rfl⟩
  | _, _, .cons label before after h hs => by
    refine ⟨?_, rfl⟩
    rw [Members.chars, Members.chars, hs.perm.2]
    exact .append_left _ (.append_left _ (h.perm.append (.append_left _ (.append_left _ hs.perm.1))))
  | _, _, .swap label before value after label' before' value' after' rest h => by
    -- Both texts are made of the same pieces, so each character stands as often in one as in the other.
    refine ⟨List.perm_iff_count.2 fun c => ?_, rfl⟩
    have hblanks := (h.flatMap_right Space.chars).count_eq c
    simp only [List.flatMap_cons, List.flatMap_nil, List.count_append, List.count_nil] at hblanks
    simp only [Members.chars, Members.comma, Label.chars, List.count_append, List.count_cons, Label.tailChars]
    omega
  | _, _, .trans h h' => ⟨h.perm.1.trans h'.perm.1, h.perm.2.trans h'.perm.2⟩

end

/-! ### Names -/

/-- The names of members, as far as they have a meaning. -/
def Members.names : Members → List String
  | .nil => []
  | .cons label _ _ _ rest => label.name.toList ++ rest.names

mutual

/-- No object repeats a name. -/
def Distinct : Source → Prop
  | .array _ items => items.Distinct
  | .object _ members => members.Distinct
  | _ => True

def Items.Distinct : Items → Prop
  | .nil => True
  | .cons _ value _ rest => value.Distinct ∧ rest.Distinct

def Members.Distinct : Members → Prop
  | .nil => True
  | .cons label _ value _ rest => (∀ name ∈ label.name, name ∉ rest.names) ∧ value.Distinct ∧ rest.Distinct

end

theorem Members.nodup_names : ∀ {members : Members}, members.Distinct → members.names.Nodup
  | .nil, _ => .nil
  | .cons label _ _ _ rest, h => by
    have hrest := nodup_names h.2.2
    rw [names]
    cases hname : label.name with
    | none => exact hrest
    | some name => exact List.nodup_cons.2 ⟨h.1 name hname, hrest⟩

theorem Members.Reordered.names_perm : ∀ {members members' : Members}, members.Reordered members' →
    members.names.Perm members'.names
  | _, _, .nil => .refl _
  | _, _, .cons label _ _ _ hs => hs.names_perm.append_left _
  | _, _, .swap label _ _ _ label' _ _ _ rest _ => by
    simp only [names, ← List.append_assoc]
    exact List.perm_append_comm.append_right _
  | _, _, .trans h h' => h.names_perm.trans h'.names_perm

mutual

theorem Reordered.distinct : ∀ {s s' : Source}, s.Reordered s' → s.Distinct → s'.Distinct
  | _, _, .null, _ | _, _, .bool _, _ | _, _, .number _, _ | _, _, .string _, _ => trivial
  | _, _, .array _ h, hs => h.distinct hs
  | _, _, .object _ h, hs => h.distinct hs

theorem Items.Reordered.distinct : ∀ {items items' : Items}, items.Reordered items' → items.Distinct →
    items'.Distinct
  | _, _, .nil, _ => trivial
  | _, _, .cons _ _ h hs, hd => ⟨h.distinct hd.1, hs.distinct hd.2⟩

theorem Members.Reordered.distinct : ∀ {members members' : Members}, members.Reordered members' →
    members.Distinct → members'.Distinct
  | _, _, .nil, _ => trivial
  | _, _, .cons _ _ _ h hs, hd =>
    ⟨fun name hname hmem => hd.1 name hname (hs.names_perm.mem_iff.2 hmem), h.distinct hd.2.1, hs.distinct hd.2.2⟩
  | _, _, .swap label _ value _ label' _ value' _ rest _, hd => by
    obtain ⟨hlabel, hvalue, hlabel', hvalue', hrest⟩ := hd
    refine ⟨fun name hname hmem => ?_, hvalue', fun name hname hmem => ?_, hvalue, hrest⟩
    · rcases List.mem_append.1 hmem with hmem | hmem
      · exact hlabel name (Option.mem_toList.1 hmem) (List.mem_append_left _ (Option.mem_toList.2 hname))
      · exact hlabel' name hname hmem
    · exact hlabel name hname (List.mem_append_right _ hmem)
  | _, _, .trans h h', hd => h'.distinct (h.distinct hd)

end

end Source

/-! ### Values -/

mutual

/-- The same value, up to the order of members with different names in each of its objects. -/
inductive Reordered : Json → Json → Prop
  | null : Reordered .null .null
  | bool (value : Bool) : Reordered (.bool value) (.bool value)
  | number (n : JsonNumber) : Reordered (.number n) (.number n)
  | string (s : String) : Reordered (.string s) (.string s)
  | array {items items' : List Json} (h : ItemsReordered items items') : Reordered (.array items) (.array items')
  | object {members members' : List (String × Json)} (h : MembersReordered members members') :
      Reordered (.object members) (.object members')

inductive ItemsReordered : List Json → List Json → Prop
  | nil : ItemsReordered [] []
  | cons {value value' : Json} {rest rest' : List Json} (h : Reordered value value') (hs : ItemsReordered rest rest') :
      ItemsReordered (value :: rest) (value' :: rest')

inductive MembersReordered : List (String × Json) → List (String × Json) → Prop
  | nil : MembersReordered [] []
  | cons (name : String) {value value' : Json} {rest rest' : List (String × Json)} (h : Reordered value value')
      (hs : MembersReordered rest rest') : MembersReordered ((name, value) :: rest) ((name, value') :: rest')
  | swap {name name' : String} (hne : name ≠ name') (value value' : Json) (rest : List (String × Json)) :
      MembersReordered ((name, value) :: (name', value') :: rest) ((name', value') :: (name, value) :: rest)
  | trans {members members' members'' : List (String × Json)} (h : MembersReordered members members')
      (h' : MembersReordered members' members'') : MembersReordered members members''

end

/-! ### Skipping and decoding -/

namespace Source

theorem Members.ne_of_distinct {label : Label} {before : Space} {value : Source} {after : Space} {label' : Label}
    {before' : Space} {value' : Source} {after' : Space} {rest : Members}
    (h : (Members.cons label before value after (.cons label' before' value' after' rest)).Distinct)
    {name name' : String} (hname : label.name = some name) (hname' : label'.name = some name') : name ≠ name' := by
  rintro rfl
  refine h.1 name hname (List.mem_append_left _ ?_)
  rw [hname']
  exact List.mem_singleton_self name

mutual

/-- A whole text has no fault for a reader that skips it. -/
theorem skim_tree : ∀ s : Source, s.tree.skim = .ok ()
  | .null | .bool _ | .number _ | .string _ => rfl
  | .array _ items => items.skim_tree
  | .object _ members => members.skim_tree

theorem Items.skim_tree : ∀ items : Items, items.tree.skim = .ok ()
  | .nil => rfl
  | .cons _ value _ rest => by
    rw [Items.tree, Json.Items.skim, value.skim_tree, rest.skim_tree]
    rfl

theorem Members.skim_tree : ∀ members : Members, members.tree.skim = .ok ()
  | .nil => rfl
  | .cons _ _ value _ rest => by
    rw [Members.tree, Json.Members.skim, value.skim_tree, rest.skim_tree]
    rfl

end

theorem Members.entryMembers_cons_iff {α : Type} {read : Tree → Except Fault α} {label : Label} {before : Space}
    {value : Source} {after : Space} {rest : Members} {list : List (String × α)} :
    Reader.entryMembers read (Members.cons label before value after rest).tree = .ok list ↔
      ∃ name a tail, label.name = some name ∧ read value.tree = .ok a ∧
        Reader.entryMembers read rest.tree = .ok tail ∧ list = (name, a) :: tail := by
  rw [Members.tree]
  constructor
  · intro h
    cases hname : label.name with
    | none =>
      rw [hname] at h
      cases h
    | some name =>
      rw [hname] at h
      obtain ⟨a, ha, h⟩ := Except.exists_of_bind_eq_ok h
      obtain ⟨tail, htail, h⟩ := Except.exists_of_bind_eq_ok h
      cases h
      exact ⟨name, a, tail, rfl, ha, htail, rfl⟩
  · rintro ⟨name, a, tail, hname, ha, htail, rfl⟩
    rw [hname, Reader.entryMembers, ha, htail]
    rfl

theorem raw_eq_entryMembers (room : Nat) : ∀ members : Json.Members,
    members.raw room = Reader.entryMembers (Tree.raw room) members
  | .closed | .cut _ | .dangling _ | .member none _ _ => rfl
  | .member (some name) value rest => by rw [Json.Members.raw, Reader.entryMembers, raw_eq_entryMembers room rest]

theorem Members.raw_cons_iff {label : Label} {before : Space} {value : Source} {after : Space} {rest : Members}
    {room : Nat} {list : List (String × Json)} :
    (Members.cons label before value after rest).tree.raw room = .ok list ↔
      ∃ name v tail, label.name = some name ∧ value.tree.raw room = .ok v ∧ rest.tree.raw room = .ok tail ∧
        list = (name, v) :: tail := by
  rw [raw_eq_entryMembers, raw_eq_entryMembers]
  exact entryMembers_cons_iff

mutual

theorem Reordered.raw : ∀ {s s' : Source} {room : Nat} {v : Json}, s.Reordered s' → s.Distinct →
    s.tree.raw room = .ok v → ∃ v', s'.tree.raw room = .ok v' ∧ v.Reordered v'
  | _, _, _, _, .null, _, hraw => by
    cases hraw
    exact ⟨_, rfl, .null⟩
  | _, _, _, _, .bool value, _, hraw => by
    cases hraw
    exact ⟨_, rfl, .bool value⟩
  | _, _, _, _, .number numeral, _, hraw => by
    refine ⟨_, hraw, ?_⟩
    cases hvalue : numeral.parts.value? with
    | none =>
      rw [tree, hvalue] at hraw
      cases hraw
    | some n =>
      rw [tree, hvalue] at hraw
      cases hraw
      exact .number n
  | _, _, _, _, .string literal, _, hraw => by
    refine ⟨_, hraw, ?_⟩
    cases hvalue : literal.value with
    | none =>
      rw [tree, hvalue] at hraw
      cases hraw
    | some s =>
      rw [tree, hvalue] at hraw
      cases hraw
      exact .string s
  | _, _, room + 1, _, .array _ h, hd, hraw => by
    obtain ⟨values, hvalues, rfl⟩ := Except.exists_of_map_eq_ok hraw
    obtain ⟨values', hvalues', hreordered⟩ := h.raw hd hvalues
    exact ⟨.array values', by rw [tree, Tree.raw, hvalues']; rfl, .array hreordered⟩
  | _, _, room + 1, _, .object _ h, hd, hraw => by
    obtain ⟨values, hvalues, rfl⟩ := Except.exists_of_map_eq_ok hraw
    obtain ⟨values', hvalues', hreordered⟩ := h.raw hd hvalues
    exact ⟨.object values', by rw [tree, Tree.raw, hvalues']; rfl, .object hreordered⟩

theorem Items.Reordered.raw : ∀ {items items' : Items} {room : Nat} {list : List Json}, items.Reordered items' →
    items.Distinct → items.tree.raw room = .ok list →
      ∃ list', items'.tree.raw room = .ok list' ∧ ItemsReordered list list'
  | _, _, _, _, .nil, _, hraw => by
    cases hraw
    exact ⟨[], rfl, .nil⟩
  | _, _, _, _, .cons _ _ h hs, hd, hraw => by
    obtain ⟨v, hv, hraw⟩ := Except.exists_of_bind_eq_ok hraw
    obtain ⟨tail, htail, hraw⟩ := Except.exists_of_bind_eq_ok hraw
    cases hraw
    obtain ⟨v', hv', hvalue⟩ := h.raw hd.1 hv
    obtain ⟨tail', htail', hrest⟩ := hs.raw hd.2 htail
    exact ⟨v' :: tail', by rw [Items.tree, Json.Items.raw, hv', htail']; rfl, .cons hvalue hrest⟩

theorem Members.Reordered.raw : ∀ {members members' : Members} {room : Nat} {list : List (String × Json)},
    members.Reordered members' → members.Distinct → members.tree.raw room = .ok list →
      ∃ list', members'.tree.raw room = .ok list' ∧ MembersReordered list list'
  | _, _, _, _, .nil, _, hraw => by
    cases hraw
    exact ⟨[], rfl, .nil⟩
  | _, _, _, _, .cons _ _ _ h hs, hd, hraw => by
    obtain ⟨name, v, tail, hname, hv, htail, rfl⟩ := Members.raw_cons_iff.1 hraw
    obtain ⟨v', hv', hvalue⟩ := h.raw hd.2.1 hv
    obtain ⟨tail', htail', hrest⟩ := hs.raw hd.2.2 htail
    exact ⟨_, Members.raw_cons_iff.2 ⟨name, v', tail', hname, hv', htail', rfl⟩, .cons name hvalue hrest⟩
  | _, _, _, _, .swap _ _ _ _ _ _ _ _ rest _, hd, hraw => by
    obtain ⟨name, v, _, hname, hv, hrest, rfl⟩ := Members.raw_cons_iff.1 hraw
    obtain ⟨name', v', tail, hname', hv', htail, rfl⟩ := Members.raw_cons_iff.1 hrest
    exact ⟨_, Members.raw_cons_iff.2 ⟨name', v', _, hname', hv',
      Members.raw_cons_iff.2 ⟨name, v, tail, hname, hv, htail, rfl⟩, rfl⟩,
      .swap (Members.ne_of_distinct hd hname hname') v v' tail⟩
  | _, _, _, _, .trans h h', hd, hraw => by
    obtain ⟨list', hraw', hlist⟩ := h.raw hd hraw
    obtain ⟨list'', hraw'', hlist'⟩ := h'.raw (h.distinct hd) hraw'
    exact ⟨list'', hraw'', hlist.trans hlist'⟩

end

end Source

end DataGrid.Json
