import DataGrid.Proofs.Json.MemberOrder

/-!
# One value in the place of another

Two sources may differ in one value only, that of a member of an object (`Source.EditedMember`) or that of an
item of an array (`Source.EditedItem`), at any depth when these are nested. What is read from the one is then read
from the other, up to the place of that value. In a record this takes a field of its own, which no other field looks
at (`Reader.IsOwn`).
-/

namespace DataGrid.Json

namespace Source

section
variable (R : Source → Source → Prop)

/-- The same members, up to the value of one that has this name and `rest` behind it. -/
inductive Members.Edited (name : String) (rest : Members) : Members → Members → Prop
  | here (label : Label) (before after : Space) {value value' : Source} (hname : label.name = some name)
      (h : R value value') :
      Members.Edited name rest (.cons label before value after rest) (.cons label before value' after rest)
  | behind (label : Label) (before : Space) (value : Source) (after : Space) {members members' : Members}
      (h : Members.Edited name rest members members') :
      Members.Edited name rest (.cons label before value after members) (.cons label before value after members')

/-- The same items, up to the one at a place. -/
inductive Items.Edited : Nat → Items → Items → Prop
  | here (before after : Space) (rest : Items) {value value' : Source} (h : R value value') :
      Items.Edited 0 (.cons before value after rest) (.cons before value' after rest)
  | behind (before : Space) (value : Source) (after : Space) {i : Nat} {items items' : Items}
      (h : Items.Edited i items items') :
      Items.Edited (i + 1) (.cons before value after items) (.cons before value after items')

/-- The source of an object with another value for one member. -/
inductive EditedMember (name : String) (rest : Members) : Source → Source → Prop
  | object (inner : Space) {members members' : Members} (h : Members.Edited R name rest members members') :
      EditedMember name rest (.object inner members) (.object inner members')

inductive EditedItem (i : Nat) : Source → Source → Prop
  | array (inner : Space) {items items' : Items} (h : Items.Edited R i items items') :
      EditedItem i (.array inner items) (.array inner items')

end

/-- The value of the first member with this name. -/
def Members.value? (name : String) : Members → Option Source
  | .nil => none
  | .cons label _ value _ rest => if label.name = some name then some value else rest.value? name

def Items.value? : Items → Nat → Option Source
  | .nil, _ => none
  | .cons _ value _ _, 0 => some value
  | .cons _ _ _ rest, i + 1 => rest.value? i

theorem Members.exists_edited_self {name : String} {v : Source} : ∀ {members : Members},
    members.value? name = some v →
      ∃ rest, Members.Edited (fun s s' => s = v ∧ s' = v) name rest members members
  | .cons label before value after rest, h => by
    rw [value?] at h
    split at h
    · next hname =>
      cases h
      exact ⟨rest, .here label before after hname ⟨rfl, rfl⟩⟩
    · obtain ⟨behind, hrest⟩ := exists_edited_self h
      exact ⟨behind, .behind label before value after hrest⟩

theorem Members.notMem_names_of_value? {name : String} : ∀ {members : Members}, members.value? name = none →
    name ∉ members.names
  | .nil, _ => List.not_mem_nil
  | .cons label before value after rest, h => by
    rw [value?] at h
    split at h
    · cases h
    · next hname =>
      rw [names, List.mem_append, Option.mem_toList, not_or]
      exact ⟨hname, notMem_names_of_value? h⟩

theorem Items.edited_self {v : Source} : ∀ {items : Items} {i : Nat}, items.value? i = some v →
    items.Edited (fun s s' => s = v ∧ s' = v) i items
  | .cons before value after rest, 0, h => by
    cases h
    exact .here before after rest ⟨rfl, rfl⟩
  | .cons before value after rest, i + 1, h => .behind before value after (edited_self h)

/-! ### Members with any names, and items -/

section
variable {α : Type} {R : Source → Source → Prop}

theorem Members.Edited.entryMembers {read : Tree → Except Fault α} {Q : α → α → Prop}
    (hR : ∀ {value value' a}, R value value' → read value.tree = .ok a → ∃ a', read value'.tree = .ok a' ∧ Q a a')
    {name : String} {rest members members' : Members} (h : Members.Edited R name rest members members')
    {list : List (String × α)} (hread : Reader.entryMembers read members.tree = .ok list) :
    ∃ front a a' back, list = front ++ (name, a) :: back ∧ back.map Prod.fst = rest.names ∧ Q a a' ∧
      Reader.entryMembers read members'.tree = .ok (front ++ (name, a') :: back) := by
  induction h generalizing list with
  | here label before after hname hvalue =>
    obtain ⟨_, a, tail, hname', ha, htail, rfl⟩ := entryMembers_cons_iff.1 hread
    cases hname.symm.trans hname'
    obtain ⟨a', ha', hQ⟩ := hR hvalue ha
    exact ⟨[], a, a', tail, rfl, Reader.names_of_entryMembers htail, hQ,
      entryMembers_cons_iff.2 ⟨name, a', tail, hname, ha', htail, rfl⟩⟩
  | behind label before value after _ ih =>
    obtain ⟨other, b, tail, hother, hb, htail, rfl⟩ := entryMembers_cons_iff.1 hread
    obtain ⟨front, a, a', back, rfl, hback, hQ, htail'⟩ := ih htail
    exact ⟨(other, b) :: front, a, a', back, rfl, hback, hQ,
      entryMembers_cons_iff.2 ⟨other, b, _, hother, hb, htail', rfl⟩⟩

theorem Items.Edited.raw {room : Nat} {Q : Json → Json → Prop}
    (hR : ∀ {value value' v}, R value value' → value.tree.raw room = .ok v →
      ∃ v', value'.tree.raw room = .ok v' ∧ Q v v')
    {i : Nat} {items items' : Items} (h : Items.Edited R i items items') {list : List Json}
    (hraw : items.tree.raw room = .ok list) :
    ∃ front v v' back, list = front ++ v :: back ∧ front.length = i ∧ Q v v' ∧
      items'.tree.raw room = .ok (front ++ v' :: back) := by
  induction h generalizing list with
  | here before after rest hvalue =>
    obtain ⟨v, hv, hraw⟩ := Except.exists_of_bind_eq_ok hraw
    obtain ⟨tail, htail, hraw⟩ := Except.exists_of_bind_eq_ok hraw
    cases hraw
    obtain ⟨v', hv', hQ⟩ := hR hvalue hv
    refine ⟨[], v, v', tail, rfl, rfl, hQ, ?_⟩
    rw [Items.tree, Json.Items.raw, hv', htail]
    rfl
  | behind before value after _ ih =>
    obtain ⟨w, hw, hraw⟩ := Except.exists_of_bind_eq_ok hraw
    obtain ⟨tail, htail, hraw⟩ := Except.exists_of_bind_eq_ok hraw
    cases hraw
    obtain ⟨front, v, v', back, rfl, hlength, hQ, htail'⟩ := ih htail
    refine ⟨w :: front, v, v', back, rfl, congrArg (· + 1) hlength, hQ, ?_⟩
    rw [Items.tree, Json.Items.raw, hw, htail']
    rfl

end

end Source

/-! ### Records -/

namespace Reader

variable {α σ : Type} {name : String} {read : Reader α} {store : α → σ → σ} {front back : List (Field σ)}

/-- What is stored under this name is stored nowhere else: it takes the place of what was there, and the other
fields neither have the name nor look at it. -/
structure IsOwn (name : String) (store : α → σ → σ) (others : List (Field σ)) : Prop where
  overwrite : ∀ a b record, store b (store a record) = store b record
  name_ne : ∀ other ∈ others, other.name ≠ name
  frame : ∀ other ∈ others, ∀ room tree a record,
    other.read room tree (store a record) = store a <$> other.read room tree record

theorem frame_field {β : Type} {name' : String} {read' : Reader β} {store' : β → σ → σ}
    (h : ∀ a b record, store' b (store a record) = store a (store' b record)) (room : Nat) (tree : Tree) (a : α)
    (record : σ) : (field name' read' store').read room tree (store a record) =
      store a <$> (field name' read' store').read room tree record := by
  show (store' · (store a record)) <$> read' room tree = store a <$> (store' · record) <$> read' room tree
  cases read' room tree with
  | error _ => rfl
  | ok b => exact congrArg Except.ok (h a b record)

namespace IsOwn

theorem of_subset {others others' : List (Field σ)} (h : IsOwn name store others) (hsub : others' ⊆ others) :
    IsOwn name store others' :=
  ⟨h.overwrite, fun other hother => h.name_ne other (hsub hother), fun other hother => h.frame other (hsub hother)⟩

theorem find?_eq (h : IsOwn name store (front ++ back)) :
    (front ++ field name read store :: back).find? (·.name = name) = some (field name read store) := by
  have hfront : front.find? (·.name = name) = none :=
    List.find?_eq_none.2 fun other hother => by simpa using h.name_ne other (List.mem_append_left _ hother)
  rw [List.find?_append, hfront, Option.none_or]
  exact List.find?_cons_of_pos (decide_eq_true rfl)

/-- Members are read around the field, unless it is still to come. -/
theorem recordMembers_store (h : IsOwn name store (front ++ back)) {room : Nat} (a : α) :
    ∀ {seen : List String} {record : σ} (members : Source.Members), (name ∈ members.names → name ∈ seen) →
      recordMembers (front ++ field name read store :: back) skipped room seen (store a record) members.tree =
        store a <$> recordMembers (front ++ field name read store :: back) skipped room seen record members.tree
  | _, _, .nil, _ => rfl
  | seen, record, .cons label _ value _ rest, hname => by
    rw [Source.Members.tree]
    rw [Source.Members.names] at hname
    cases hlabel : label.name with
    | none => rfl
    | some other =>
      rw [hlabel, Option.toList_some, List.singleton_append] at hname
      have hrest (hmem : name ∈ rest.names) : name ∈ seen := hname (List.mem_cons_of_mem _ hmem)
      rw [recordMembers, recordMembers]
      cases hfind : (front ++ field name read store :: back).find? (·.name = other) with
      | none =>
        simp only [skipped, value.skim_tree]
        exact h.recordMembers_store a rest hrest
      | some f =>
        by_cases hseen : other ∈ seen
        · simp only [if_pos hseen]
          rfl
        · have hf : f.name = other := by simpa using List.find?_some hfind
          have hne : f.name ≠ name := fun heq => hseen (by rw [← hf, heq]; exact hname (by simp [← hf, heq]))
          have hothers : f ∈ front ++ back := by
            rcases List.mem_append.1 (List.mem_of_find?_eq_some hfind) with hmem | hmem
            · exact List.mem_append_left _ hmem
            · rcases List.mem_cons.1 hmem with rfl | hmem
              · exact absurd rfl hne
              · exact List.mem_append_right _ hmem
          simp only [if_neg hseen, h.frame f hothers]
          cases f.read room value.tree record with
          | error _ => rfl
          | ok next => exact h.recordMembers_store a rest fun hmem => List.mem_cons_of_mem _ (hrest hmem)

theorem recordItems_store (h : IsOwn name store back) {short : Bool} {room : Nat} (a : α) {record : σ}
    (items : Items) :
    recordItems short room (store a record) back items = store a <$> recordItems short room record back items := by
  induction back generalizing items record with
  | nil => cases items <;> rfl
  | cons f back ih =>
    cases items with
    | closed =>
      rw [recordItems, recordItems]
      cases short <;> rfl
    | cut fault => rfl
    | item value rest =>
      rw [recordItems, recordItems, h.frame f List.mem_cons_self]
      cases f.read room value record with
      | error _ => rfl
      | ok next => exact ih (h.of_subset (List.subset_cons_self f back)) rest

variable {R : Source → Source → Prop} {Q : α → α → Prop} {room : Nat} {record result : σ}

theorem edited_members (h : IsOwn name store (front ++ back))
    (hR : ∀ {value value' a}, R value value' → read room value.tree = .ok a →
      ∃ a', read room value'.tree = .ok a' ∧ Q a a')
    {rest members members' : Source.Members} (hmembers : Source.Members.Edited R name rest members members')
    {seen : List String}
    (hread : recordMembers (front ++ field name read store :: back) skipped room seen record members.tree =
      .ok result) :
    ∃ a a', Q a a' ∧ store a result = result ∧
      recordMembers (front ++ field name read store :: back) skipped room seen record members'.tree =
        .ok (store a' result) := by
  induction hmembers generalizing seen record with
  | here label before after hname hvalue =>
    obtain ⟨_, _, _, hname', hstep, hrest⟩ := recordMembers_cons_iff.1 hread
    cases hname.symm.trans hname'
    cases hstep with
    | stranger hfind => cases h.find?_eq.symm.trans hfind
    | field hfind hseen hnext =>
      cases h.find?_eq.symm.trans hfind
      obtain ⟨a, ha, rfl⟩ := Except.exists_of_map_eq_ok hnext
      obtain ⟨a', ha', hQ⟩ := hR hvalue ha
      have hstore (b : α) : recordMembers (front ++ field name read store :: back) skipped room (name :: seen)
          (store b record) rest.tree = .ok (store b result) := by
        rw [← h.overwrite a b record, h.recordMembers_store b rest fun _ => List.mem_cons_self, hrest]
        rfl
      refine ⟨a, a', hQ, Except.ok.inj ((hstore a).symm.trans hrest), ?_⟩
      refine recordMembers_cons_iff.2 ⟨name, _, store a' record, hname, .field hfind hseen ?_, hstore a'⟩
      show (store · record) <$> read room _ = _
      rw [ha']
      rfl
  | behind label before value after _ ih =>
    obtain ⟨other, seen', next, hother, hstep, hrest⟩ := recordMembers_cons_iff.1 hread
    obtain ⟨a, a', hQ, hresult, hrest'⟩ := ih hrest
    exact ⟨a, a', hQ, hresult, recordMembers_cons_iff.2 ⟨other, seen', next, hother, hstep, hrest'⟩⟩

theorem edited_items (h : IsOwn name store back)
    (hR : ∀ {value value' a}, R value value' → read room value.tree = .ok a →
      ∃ a', read room value'.tree = .ok a' ∧ Q a a')
    {short : Bool} {items items' : Source.Items} (hitems : Source.Items.Edited R front.length items items')
    (hread : recordItems short room record (front ++ field name read store :: back) items.tree = .ok result) :
    ∃ a a', Q a a' ∧ store a result = result ∧
      recordItems short room record (front ++ field name read store :: back) items'.tree = .ok (store a' result) := by
  induction front generalizing items items' record with
  | nil =>
    cases hitems with
    | here before after rest hvalue =>
      obtain ⟨next, hnext, hrest⟩ := Except.exists_of_bind_eq_ok hread
      obtain ⟨a, ha, rfl⟩ := Except.exists_of_map_eq_ok hnext
      obtain ⟨a', ha', hQ⟩ := hR hvalue ha
      have hstore (b : α) : recordItems short room (store b record) back rest.tree = .ok (store b result) := by
        rw [← h.overwrite a b record, h.recordItems_store b rest.tree, hrest]
        rfl
      refine ⟨a, a', hQ, Except.ok.inj ((hstore a).symm.trans hrest), ?_⟩
      show (store · record) <$> read room _ >>= _ = _
      rw [ha']
      exact hstore a'
  | cons f front ih =>
    cases hitems with
    | behind before value after hitems =>
      obtain ⟨next, hnext, hrest⟩ := Except.exists_of_bind_eq_ok hread
      obtain ⟨a, a', hQ, hresult, hrest'⟩ := ih hitems hrest
      refine ⟨a, a', hQ, hresult, ?_⟩
      show f.read room value.tree record >>= _ = _
      rw [hnext]
      exact hrest'

/-! The value that is stored is that of the field, when it is there. -/

theorem read_self {v value value' : Source} {a : α} (h : value = v ∧ value' = v)
    (ha : read room value.tree = .ok a) : ∃ a', read room value'.tree = .ok a' ∧ read room v.tree = .ok a := by
  obtain ⟨rfl, rfl⟩ := h
  exact ⟨a, ha, ha⟩

theorem exists_of_value? (h : IsOwn name store (front ++ back)) {seen : List String} {members : Source.Members}
    {v : Source} (hv : members.value? name = some v)
    (hread : recordMembers (front ++ field name read store :: back) skipped room seen record members.tree =
      .ok result) :
    ∃ a, read room v.tree = .ok a ∧ store a result = result := by
  obtain ⟨rest, hmembers⟩ := Source.Members.exists_edited_self hv
  obtain ⟨a, _, ha, hresult, -⟩ := h.edited_members (Q := fun a _ => read room v.tree = .ok a) read_self hmembers hread
  exact ⟨a, ha, hresult⟩

theorem store_of_value?_eq_none (h : IsOwn name store (front ++ back)) {seen : List String} {members : Source.Members}
    (hv : members.value? name = none) {a : α} (ha : store a record = record)
    (hread : recordMembers (front ++ field name read store :: back) skipped room seen record members.tree =
      .ok result) :
    store a result = result := by
  have hstore : recordMembers (front ++ field name read store :: back) skipped room seen (store a record) members.tree =
      store a <$> .ok result := by
    rw [← hread]
    exact h.recordMembers_store a members fun hmem => absurd hmem (Source.Members.notMem_names_of_value? hv)
  rw [ha, hread] at hstore
  exact (Except.ok.inj hstore).symm

theorem exists_of_item (h : IsOwn name store back) {short : Bool} {items : Source.Items} {v : Source}
    (hv : items.value? front.length = some v)
    (hread : recordItems short room record (front ++ field name read store :: back) items.tree = .ok result) :
    ∃ a, read room v.tree = .ok a ∧ store a result = result := by
  obtain ⟨a, _, ha, hresult, -⟩ :=
    h.edited_items (Q := fun a _ => read room v.tree = .ok a) read_self (Source.Items.edited_self hv) hread
  exact ⟨a, ha, hresult⟩

theorem store_of_no_item (h : IsOwn name store (front ++ back)) {short : Bool} {items : Source.Items}
    (hv : items.value? front.length = none) {a : α} (ha : store a record = record)
    (hread : recordItems short room record (front ++ field name read store :: back) items.tree = .ok result) :
    store a result = result := by
  induction front generalizing items record with
  | nil =>
    cases items with
    | nil =>
      rw [List.nil_append, Source.Items.tree, recordItems] at hread
      split at hread
      · cases hread
        exact ha
      · cases hread
    | cons => cases hv
  | cons f front ih =>
    cases items with
    | nil =>
      rw [List.cons_append, Source.Items.tree, recordItems] at hread
      split at hread
      · cases hread
        exact ha
      · cases hread
    | cons before value after rest =>
      obtain ⟨next, hnext, hread⟩ := Except.exists_of_bind_eq_ok hread
      have hframe := h.frame f List.mem_cons_self room value.tree a record
      rw [ha, hnext] at hframe
      exact ih (h.of_subset (List.subset_cons_self f _)) hv (Except.ok.inj hframe).symm hread

end IsOwn

end Reader

end DataGrid.Json
