import DataGrid.Proofs.Json.Reordering
import Mathlib.Data.List.Pairwise

/-!
# Readers and the order of members

A reader ignores the order of members when it reads from a reordered source what it reads from the source
itself, as long as no object repeats a name. Records do, when their fields do and can be read in any order
(`Reader.IgnoresOrder.record`); of an object with any names the entries come in another order
(`Source.Members.Reordered.entryMembers`).
-/

namespace DataGrid.Json

open Source (Distinct)

namespace Reader

variable {α σ : Type} {read : Reader α}

/-- What is read from a source is read from it in any order. -/
def IgnoresOrder (read : Reader α) : Prop :=
  ∀ (room : Nat) (s s' : Source) (a : α), s.Reordered s' → s.Distinct → read room s.tree = .ok a →
    read room s'.tree = .ok a

def Field.IgnoresOrder (field : Field σ) : Prop :=
  ∀ (room : Nat) (s s' : Source) (record record' : σ), s.Reordered s' → s.Distinct →
    field.read room s.tree record = .ok record' → field.read room s'.tree record = .ok record'

/-- Two fields may be read one after the other in any order. -/
def Field.Commutes (f g : Field σ) : Prop :=
  ∀ (room : Nat) (t t' : Tree) (record record' : σ),
    f.read room t record >>= g.read room t' = .ok record' ↔ g.read room t' record >>= f.read room t = .ok record'

instance : Std.Symm (@Field.Commutes σ) :=
  ⟨fun _ _ h room t t' record record' => (h room t' t record record').symm⟩

namespace IgnoresOrder

/-- Only arrays and objects can be reordered. -/
theorem scalar (harray : ∀ room items a, read room (.array items) ≠ .ok a)
    (hobject : ∀ room members a, read room (.object members) ≠ .ok a) : IgnoresOrder read := by
  intro room s s' a h _ hread
  cases h with
  | null | bool | number | string => exact hread
  | array => exact (harray _ _ _ hread).elim
  | object => exact (hobject _ _ _ hread).elim

theorem text : IgnoresOrder Reader.text := scalar nofun nofun

theorem flag : IgnoresOrder Reader.flag := scalar nofun nofun

theorem int64 : IgnoresOrder Reader.int64 := scalar nofun nofun

theorem orNull (h : IgnoresOrder read) : IgnoresOrder (Reader.orNull read) := by
  intro room s s' a hs hd hread
  -- Only scalars are `null`, and they are not reordered.
  have hvalue (ht : read.orNull room s.tree = some <$> read room s.tree)
      (ht' : read.orNull room s'.tree = some <$> read room s'.tree) : read.orNull room s'.tree = .ok a := by
    rw [ht] at hread
    obtain ⟨b, hb, rfl⟩ := Except.exists_of_map_eq_ok hread
    rw [ht', h room s s' b hs hd hb]
    rfl
  cases hs with
  | null | bool | number | string => exact hread
  | array => exact hvalue rfl rfl
  | object => exact hvalue rfl rfl

theorem orDefault (h : IgnoresOrder read) (default : α) : IgnoresOrder (Reader.orDefault default read) := by
  intro room s s' a hs hd hread
  obtain ⟨b, hb, rfl⟩ := Except.exists_of_map_eq_ok hread
  rw [Reader.orDefault, h.orNull room s s' b hs hd hb]
  rfl

/-- What is made of the result does not look at the text. -/
theorem bind {β : Type} (h : IgnoresOrder read) (next : α → Except Fault β) :
    IgnoresOrder fun room tree => read room tree >>= next := by
  intro room s s' b hs hd hread
  obtain ⟨a, ha, hnext⟩ := Except.exists_of_bind_eq_ok hread
  show read room s'.tree >>= next = _
  rw [h room s s' a hs hd ha]
  exact hnext

end IgnoresOrder

/-! ### Arrays -/

theorem listItems_of_reordered (h : IgnoresOrder read) {room : Nat} : ∀ {items items' : Source.Items} {list : List α},
    items.Reordered items' → items.Distinct → listItems (read room) items.tree = .ok list →
      listItems (read room) items'.tree = .ok list
  | _, _, _, .nil, _, hread => hread
  | _, _, _, .cons _ _ hvalue hrest, hd, hread => by
    obtain ⟨a, ha, hread⟩ := Except.exists_of_bind_eq_ok hread
    obtain ⟨list, hlist, hread⟩ := Except.exists_of_bind_eq_ok hread
    rw [Source.Items.tree, listItems, h room _ _ a hvalue hd.1 ha, listItems_of_reordered h hrest hd.2 hlist]
    exact hread

theorem IgnoresOrder.list (h : IgnoresOrder read) : IgnoresOrder (Reader.list read) := by
  intro room s s' list hs hd hread
  cases hs with
  | null | bool | number | string => exact hread
  | array _ hitems =>
    cases room with
    | zero => cases hread
    | succ room => exact listItems_of_reordered h hitems hd hread
  | object => cases room <;> cases hread

theorem recordItems_of_reordered {short : Bool} {room : Nat} : ∀ {fields : List (Field σ)}
    (_ : ∀ field ∈ fields, field.IgnoresOrder) {record record' : σ} {items items' : Source.Items},
      items.Reordered items' → items.Distinct → recordItems short room record fields items.tree = .ok record' →
        recordItems short room record fields items'.tree = .ok record'
  | _, _, _, _, _, _, .nil, _, hread => hread
  | [], _, _, _, _, _, .cons .., _, hread => by cases hread
  | field :: fields, hfields, record, _, _, _, .cons _ _ hvalue hrest, hd, hread => by
    rw [List.forall_mem_cons] at hfields
    obtain ⟨next, hnext, hread⟩ := Except.exists_of_bind_eq_ok hread
    rw [Source.Items.tree, recordItems, hfields.1 room _ _ record next hvalue hd.1 hnext]
    exact recordItems_of_reordered hfields.2 hrest hd.2 hread

/-! ### Objects with fields -/

/-- What a member does to the record and to the names seen before. -/
inductive Step (fields : List (Field σ)) (room : Nat) (name : String) (value : Tree) (seen : List String) (record : σ) :
    List String → σ → Prop
  | stranger (h : fields.find? (·.name = name) = none) : Step fields room name value seen record seen record
  | field {field : Field σ} {record' : σ} (h : fields.find? (·.name = name) = some field) (hseen : name ∉ seen)
      (hread : field.read room value record = .ok record') :
      Step fields room name value seen record (name :: seen) record'

section
variable {fields : List (Field σ)} {room : Nat} {seen seen' : List String} {record record' : σ}

theorem recordMembers_cons_iff {label : Label} {before : Space} {value : Source} {after : Space}
    {rest : Source.Members} :
    recordMembers fields skipped room seen record (Source.Members.cons label before value after rest).tree =
        .ok record' ↔
      ∃ name seen' next, label.name = some name ∧ Step fields room name value.tree seen record seen' next ∧
        recordMembers fields skipped room seen' next rest.tree = .ok record' := by
  rw [Source.Members.tree]
  cases hname : label.name with
  | none =>
    constructor
    · intro h
      cases h
    · rintro ⟨name, _, _, hname, -⟩
      cases hname
  | some name =>
    rw [recordMembers]
    constructor
    · intro h
      split at h
      · next hfind =>
        rw [skipped, value.skim_tree] at h
        exact ⟨name, seen, record, rfl, .stranger hfind, h⟩
      · next field hfind =>
        split at h
        · cases h
        · next hseen =>
          obtain ⟨next, hnext, h⟩ := Except.exists_of_bind_eq_ok h
          exact ⟨name, _, next, rfl, .field hfind hseen hnext, h⟩
    · rintro ⟨_, _, next, ⟨⟩, hstep, h⟩
      cases hstep with
      | stranger hfind =>
        rw [hfind]
        simp only [skipped, value.skim_tree]
        exact h
      | field hfind hseen hread =>
        rw [hfind]
        simp only [if_neg hseen, hread]
        exact h

/-- Of the names seen before only the membership counts. -/
theorem recordMembers_congr_seen {stranger : Stranger σ} :
    ∀ {seen seen' : List String} {record : σ} {members : Members}, (∀ name, name ∈ seen ↔ name ∈ seen') →
      recordMembers fields stranger room seen record members = recordMembers fields stranger room seen' record members
  | _, _, _, .closed, _ | _, _, _, .cut _, _ | _, _, _, .dangling _, _ | _, _, _, .member none _ _, _ => rfl
  | seen, seen', record, .member (some name) value rest, hseen => by
    have hcons (n : String) : n ∈ name :: seen ↔ n ∈ name :: seen' := by
      rw [List.mem_cons, List.mem_cons, hseen]
    rw [recordMembers, recordMembers]
    cases fields.find? (·.name = name) with
    | none => exact bind_congr fun record => recordMembers_congr_seen hseen
    | some field =>
      simp only [hseen]
      split
      · rfl
      · exact bind_congr fun record => recordMembers_congr_seen hcons

theorem Step.of_reordered (hfields : ∀ field ∈ fields, field.IgnoresOrder) {name : String} {value value' : Source}
    (hvalue : value.Reordered value') (hd : value.Distinct)
    (h : Step fields room name value.tree seen record seen' record') :
    Step fields room name value'.tree seen record seen' record' := by
  cases h with
  | stranger hfind => exact .stranger hfind
  | field hfind hseen hread =>
    exact .field hfind hseen (hfields _ (List.mem_of_find?_eq_some hfind) _ _ _ _ _ hvalue hd hread)

/-- Members with different names may be read in any order; then the names stand in another order, too. -/
theorem Step.swap (hpairs : fields.Pairwise Field.Commutes) {name name' : String} (hne : name ≠ name')
    {value value' : Tree} {seen₁ seen₂ : List String} {record₁ record₂ : σ}
    (h : Step fields room name value seen record seen₁ record₁)
    (h' : Step fields room name' value' seen₁ record₁ seen₂ record₂) :
    ∃ seen₁' record₁' seen₂', Step fields room name' value' seen record seen₁' record₁' ∧
      Step fields room name value seen₁' record₁' seen₂' record₂ ∧ ∀ n, n ∈ seen₂' ↔ n ∈ seen₂ := by
  cases h with
  | stranger hfind => exact ⟨_, _, _, h', .stranger hfind, fun _ => .rfl⟩
  | @field f _ hfind hseen hread =>
    cases h' with
    | stranger hfind' => exact ⟨_, _, _, .stranger hfind', .field hfind hseen hread, fun _ => .rfl⟩
    | @field g _ hfind' hseen' hread' =>
      -- Two fields with different names: both are new, and what they store can be exchanged.
      have hname : f.name = name := by simpa using List.find?_some hfind
      have hname' : g.name = name' := by simpa using List.find?_some hfind'
      have hfg : f ≠ g := by
        rintro rfl
        exact hne (hname.symm.trans hname')
      have hcommutes : f.Commutes g := hpairs.forall (List.mem_of_find?_eq_some hfind)
        (List.mem_of_find?_eq_some hfind') hfg
      have hboth := (hcommutes room value value' record record₂).1 (by rw [hread]; exact hread')
      obtain ⟨record₁', hread', hread⟩ := Except.exists_of_bind_eq_ok hboth
      rw [List.mem_cons, not_or] at hseen'
      refine ⟨_, _, _, .field hfind' hseen'.2 hread', .field hfind ?_ hread, fun n => ?_⟩
      · rw [List.mem_cons, not_or]
        exact ⟨hne, hseen⟩
      · simp only [List.mem_cons, or_left_comm]

theorem recordMembers_of_reordered (hfields : ∀ field ∈ fields, field.IgnoresOrder)
    (hpairs : fields.Pairwise Field.Commutes) : ∀ {seen : List String} {record record' : σ}
      {members members' : Source.Members}, members.Reordered members' → members.Distinct →
        recordMembers fields skipped room seen record members.tree = .ok record' →
          recordMembers fields skipped room seen record members'.tree = .ok record'
  | _, _, _, _, _, .nil, _, hread => hread
  | _, _, _, _, _, .cons _ _ _ hvalue hrest, hd, hread => by
    obtain ⟨name, seen', next, hname, hstep, hread⟩ := recordMembers_cons_iff.1 hread
    exact recordMembers_cons_iff.2 ⟨name, seen', next, hname, hstep.of_reordered hfields hvalue hd.2.1,
      recordMembers_of_reordered hfields hpairs hrest hd.2.2 hread⟩
  | _, _, _, _, _, .swap .., hd, hread => by
    obtain ⟨name, seen', next, hname, hstep, hread⟩ := recordMembers_cons_iff.1 hread
    obtain ⟨name', seen'', next', hname', hstep', hread⟩ := recordMembers_cons_iff.1 hread
    obtain ⟨_, _, _, hstep', hstep, hseen⟩ := hstep.swap hpairs (Source.Members.ne_of_distinct hd hname hname') hstep'
    -- The names have been seen in another order now.
    rw [← recordMembers_congr_seen hseen] at hread
    exact recordMembers_cons_iff.2 ⟨name', _, _, hname', hstep',
      recordMembers_cons_iff.2 ⟨name, _, _, hname, hstep, hread⟩⟩
  | _, _, _, _, _, .trans h h', hd, hread =>
    recordMembers_of_reordered hfields hpairs h' (h.distinct hd) (recordMembers_of_reordered hfields hpairs h hd hread)

end

/-- A record ignores the order of its members when its fields do and may be read in any order. -/
theorem IgnoresOrder.record {fields : List (Field σ)} (hfields : ∀ field ∈ fields, field.IgnoresOrder)
    (hpairs : fields.Pairwise Field.Commutes) (short : Bool) (start : σ) :
    IgnoresOrder (Reader.record short fields start) := by
  intro room s s' a hs hd hread
  cases hs with
  | null | bool | number | string => exact hread
  | array _ hitems =>
    cases room with
    | zero => cases hread
    | succ room => exact recordItems_of_reordered hfields hitems hd hread
  | object _ hmembers =>
    cases room with
    | zero => cases hread
    | succ room => exact recordMembers_of_reordered hfields hpairs hmembers hd hread

theorem IgnoresOrder.field {name : String} {store : α → σ → σ} (h : IgnoresOrder read) :
    (Reader.field name read store).IgnoresOrder := by
  intro room s s' record record' hs hd hread
  obtain ⟨a, ha, rfl⟩ := Except.exists_of_map_eq_ok hread
  show (store · record) <$> read room s'.tree = _
  rw [h room s s' a hs hd ha]
  rfl

/-- Fields that store into different places. -/
theorem commutes_field {β : Type} {name name' : String} {read' : Reader β} {store : α → σ → σ}
    {store' : β → σ → σ} (h : ∀ a b record, store' b (store a record) = store a (store' b record)) :
    (field name read store).Commutes (field name' read' store') := by
  intro room t t' record record'
  show (store · record) <$> read room t >>= (fun record => (store' · record) <$> read' room t') = _ ↔
    (store' · record) <$> read' room t' >>= (fun record => (store · record) <$> read room t) = _
  cases read room t with
  | error _ => cases read' room t' <;> exact ⟨nofun, nofun⟩
  | ok a =>
    cases read' room t' with
    | error _ => exact ⟨nofun, nofun⟩
    | ok b =>
      show Except.ok (store' b (store a record)) = _ ↔ Except.ok (store a (store' b record)) = _
      rw [h]

/-! ### Objects with any names -/

section
variable {room : Nat} {members members' : Source.Members} {list : List (String × α)}

theorem names_of_entryMembers {read : Tree → Except Fault α} (h : entryMembers read members.tree = .ok list) :
    list.map Prod.fst = members.names := by
  induction list generalizing members with
  | nil =>
    cases members with
    | nil => rfl
    | cons label before value after rest =>
      obtain ⟨_, _, _, -, -, -, ⟨⟩⟩ := Source.Members.entryMembers_cons_iff.1 h
  | cons entry list ih =>
    cases members with
    | nil => cases h
    | cons label before value after rest =>
      obtain ⟨name, a, tail, hname, -, htail, ⟨⟩⟩ := Source.Members.entryMembers_cons_iff.1 h
      rw [List.map_cons, ih htail, Source.Members.names, hname]
      rfl

end

theorem entryMembers_of_reordered (h : IgnoresOrder read) {room : Nat} :
    ∀ {members members' : Source.Members} {list : List (String × α)}, members.Reordered members' → members.Distinct →
      entryMembers (read room) members.tree = .ok list →
        ∃ list', entryMembers (read room) members'.tree = .ok list' ∧ list.Perm list'
  | _, _, list, .nil, _, hread => ⟨list, hread, .refl _⟩
  | _, _, _, .cons _ _ _ hvalue hrest, hd, hread => by
    obtain ⟨name, a, tail, hname, ha, htail, rfl⟩ := Source.Members.entryMembers_cons_iff.1 hread
    obtain ⟨tail', htail', hperm⟩ := entryMembers_of_reordered h hrest hd.2.2 htail
    exact ⟨_, Source.Members.entryMembers_cons_iff.2
      ⟨name, a, tail', hname, h room _ _ a hvalue hd.2.1 ha, htail', rfl⟩, hperm.cons _⟩
  | _, _, _, .swap .., _, hread => by
    obtain ⟨name, a, _, hname, ha, hrest, rfl⟩ := Source.Members.entryMembers_cons_iff.1 hread
    obtain ⟨name', a', tail, hname', ha', htail, rfl⟩ := Source.Members.entryMembers_cons_iff.1 hrest
    exact ⟨_, Source.Members.entryMembers_cons_iff.2 ⟨name', a', _, hname', ha',
      Source.Members.entryMembers_cons_iff.2 ⟨name, a, tail, hname, ha, htail, rfl⟩, rfl⟩, .swap ..⟩
  | _, _, _, .trans hs hs', hd, hread => by
    obtain ⟨list', hread', hperm⟩ := entryMembers_of_reordered h hs hd hread
    obtain ⟨list'', hread'', hperm'⟩ := entryMembers_of_reordered h hs' (hs.distinct hd) hread'
    exact ⟨list'', hread'', hperm.trans hperm'⟩

/-- What is made of the entries of an object must not depend on their order, when their names are distinct. -/
theorem IgnoresOrder.entries {β : Type} (h : IgnoresOrder read) {make : List (String × α) → β}
    (hmake : ∀ {list list' : List (String × α)}, list.Perm list' → (list.map Prod.fst).Nodup →
      make list = make list') :
    IgnoresOrder fun room tree => do return make (← Reader.entries read room tree) := by
  intro room s s' b hs hd hread
  cases hs with
  | null | bool | number | string => exact hread
  | array => cases room <;> cases hread
  | object _ hmembers =>
    cases room with
    | zero => cases hread
    | succ room =>
      obtain ⟨list, hlist, hread⟩ := Except.exists_of_bind_eq_ok hread
      cases hread
      obtain ⟨list', hlist', hperm⟩ := entryMembers_of_reordered h hmembers hd hlist
      have hnodup : (list.map Prod.fst).Nodup := by
        rw [names_of_entryMembers hlist]
        exact Source.Members.nodup_names hd
      rw [hmake hperm hnodup]
      show entryMembers (read room) _ >>= _ = _
      rw [hlist']
      rfl

end Reader

end DataGrid.Json
