import DataGrid.Proofs.Json.Rereading

/-!
# Values that are read and written again

A source whose numerals are the texts of numbers is the text of a value (`Source.IsTextOf`), and it is decoded as
this value with each number as it comes back (`Source.raw_tree`). Which member of an object is taken has nothing to
do with the numbers (`merged_mapNumbers`).
-/

namespace DataGrid.Json

open JsonNumber (reread)

mutual

/-- The value with all its numbers replaced. -/
def mapNumbers (f : JsonNumber → JsonNumber) : Json → Json
  | .number n => .number (f n)
  | .array items => .array (mapItemNumbers f items)
  | .object members => .object (mapMemberNumbers f members)
  | .null => .null
  | .bool b => .bool b
  | .string s => .string s

def mapItemNumbers (f : JsonNumber → JsonNumber) : List Json → List Json
  | [] => []
  | item :: items => item.mapNumbers f :: mapItemNumbers f items

def mapMemberNumbers (f : JsonNumber → JsonNumber) : List (String × Json) → List (String × Json)
  | [] => []
  | (name, value) :: members => (name, value.mapNumbers f) :: mapMemberNumbers f members

end

section
variable (f : JsonNumber → JsonNumber)

theorem put_mapMemberNumbers (members : List (String × Json)) (name : String) (value : Json) :
    put (mapMemberNumbers f members) name (value.mapNumbers f) = mapMemberNumbers f (put members name value) := by
  induction members with
  | nil => rfl
  | cons member members ih =>
    rw [mapMemberNumbers, put, put]
    split
    · rfl
    · rw [ih]
      rfl

mutual

theorem merged_mapNumbers : ∀ v : Json, merged (v.mapNumbers f) = (merged v).mapNumbers f
  | .null | .bool _ | .number _ | .string _ => rfl
  | .array items => congrArg Json.array (mergedItems_mapItemNumbers items)
  | .object members => congrArg Json.object (mergedMembers_mapMemberNumbers [] members)

theorem mergedItems_mapItemNumbers : ∀ items : List Json,
    mergedItems (mapItemNumbers f items) = mapItemNumbers f (mergedItems items)
  | [] => rfl
  | item :: items => by
    rw [mapItemNumbers, mergedItems, merged_mapNumbers item, mergedItems_mapItemNumbers items]
    rfl

theorem mergedMembers_mapMemberNumbers : ∀ before members : List (String × Json),
    mergedMembers (mapMemberNumbers f before) (mapMemberNumbers f members) =
      mapMemberNumbers f (mergedMembers before members)
  | _, [] => rfl
  | before, (name, value) :: members => by
    rw [mapMemberNumbers, mergedMembers, mergedMembers, merged_mapNumbers value, put_mapMemberNumbers,
      mergedMembers_mapMemberNumbers]

end

end

/-! ### Texts of values -/

namespace Source

mutual

/-- The source is a text of the value: its numerals are the texts of the value's numbers. -/
inductive IsTextOf : Source → Json → Prop
  | null : IsTextOf .null .null
  | bool (b : Bool) : IsTextOf (.bool b) (.bool b)
  | number {numeral : Numeral} {n : JsonNumber} (hn : n.Is64Bit) (hchars : numeral.chars = n.chars) :
      IsTextOf (.number numeral) (.number n)
  | string {literal : Literal} {s : String} (hvalue : literal.value = some s) : IsTextOf (.string literal) (.string s)
  | array (inner : Space) {items : Items} {values : List Json} (h : Items.IsTextOf items values) :
      IsTextOf (.array inner items) (.array values)
  | object (inner : Space) {members : Members} {values : List (String × Json)} (h : Members.IsTextOf members values) :
      IsTextOf (.object inner members) (.object values)

inductive Items.IsTextOf : Items → List Json → Prop
  | nil : Items.IsTextOf .nil []
  | cons (before after : Space) {s : Source} {rest : Items} {value : Json} {values : List Json} (h : IsTextOf s value)
      (hs : Items.IsTextOf rest values) : Items.IsTextOf (.cons before s after rest) (value :: values)

inductive Members.IsTextOf : Members → List (String × Json) → Prop
  | nil : Members.IsTextOf .nil []
  | cons {label : Label} (before after : Space) {s : Source} {rest : Members} {name : String} {value : Json}
      {values : List (String × Json)} (hname : label.name = some name) (h : IsTextOf s value)
      (hs : Members.IsTextOf rest values) : Members.IsTextOf (.cons label before s after rest) ((name, value) :: values)

end

mutual

/-- All numerals are texts of numbers. -/
def Printed : Source → Prop
  | .number numeral => ∃ n : JsonNumber, n.Is64Bit ∧ numeral.chars = n.chars
  | .array _ items => items.Printed
  | .object _ members => members.Printed
  | _ => True

def Items.Printed : Items → Prop
  | .nil => True
  | .cons _ value _ rest => value.Printed ∧ rest.Printed

def Members.Printed : Members → Prop
  | .nil => True
  | .cons _ _ value _ rest => value.Printed ∧ rest.Printed

end

end Source

theorem Numeral.value?_eq {numeral : Numeral} {n : JsonNumber} (hn : n.Is64Bit) (hchars : numeral.chars = n.chars) :
    numeral.parts.value? = some n.reread := by
  obtain ⟨p, hscan, hvalue⟩ := (JsonNumber.comesBackAs_reread hn).readAs
  rw [← hchars, numeral.scan_chars] at hscan
  cases hscan
  exact hvalue

namespace Source

-- Induction on the text; each array and object takes one of the room that the height of the value leaves.
mutual

/-- The text of a value is decoded as the value with its numbers as they come back. -/
theorem raw_tree : ∀ {s : Source} {v : Json} {room : Nat}, s.IsTextOf v → v.height ≤ room →
    s.tree.raw room = .ok (v.mapNumbers reread)
  | _, _, _, .null, _ | _, _, _, .bool _, _ => rfl
  | _, _, _, .number hn hchars, _ => by
    rw [Source.tree, Numeral.value?_eq hn hchars]
    rfl
  | _, _, _, .string hvalue, _ => by
    rw [Source.tree, hvalue]
    rfl
  | _, _, 0, .array .., h | _, _, 0, .object .., h => by
    rw [height] at h
    omega
  | _, _, room + 1, .array _ hitems, h => by
    rw [height] at h
    rw [Source.tree, Tree.raw, Items.raw_tree hitems (by omega)]
    rfl
  | _, _, room + 1, .object _ hmembers, h => by
    rw [height] at h
    rw [Source.tree, Tree.raw, Members.raw_tree hmembers (by omega)]
    rfl

theorem Items.raw_tree : ∀ {s : Items} {values : List Json} {room : Nat}, s.IsTextOf values →
    itemsHeight values ≤ room → s.tree.raw room = .ok (mapItemNumbers reread values)
  | _, _, _, .nil, _ => rfl
  | _, _, _, .cons _ _ hvalue hrest, h => by
    obtain ⟨hitem, hitems⟩ := Nat.max_le.1 h
    rw [Items.tree, Json.Items.raw, Source.raw_tree hvalue hitem, Items.raw_tree hrest hitems]
    rfl

theorem Members.raw_tree : ∀ {s : Members} {values : List (String × Json)} {room : Nat},
    s.IsTextOf values → membersHeight values ≤ room → s.tree.raw room = .ok (mapMemberNumbers reread values)
  | _, _, _, .nil, _ => rfl
  | _, _, _, .cons _ _ hname hvalue hrest, h => by
    obtain ⟨hmember, hmembers⟩ := Nat.max_le.1 h
    rw [Members.tree, hname, Json.Members.raw, Source.raw_tree hvalue hmember, Members.raw_tree hrest hmembers]
    rfl

end

mutual

/-- What is decoded where all numerals are texts of numbers is a text of a value. -/
theorem exists_isTextOf : ∀ {s : Source} {room : Nat} {w : Json}, s.Printed → s.tree.raw room = .ok w →
    ∃ v, s.IsTextOf v ∧ v.height ≤ room
  | .null, _, _, _, _ => ⟨.null, .null, Nat.zero_le _⟩
  | .bool b, _, _, _, _ => ⟨.bool b, .bool b, Nat.zero_le _⟩
  | .number _, _, _, ⟨n, hn, hchars⟩, _ => ⟨.number n, .number hn hchars, Nat.zero_le _⟩
  | .string literal, _, _, _, h => by
    cases hvalue : literal.value with
    | none =>
      rw [Source.tree, hvalue] at h
      cases h
    | some s => exact ⟨.string s, .string hvalue, Nat.zero_le _⟩
  | .array .., 0, _, _, h | .object .., 0, _, _, h => by cases h
  | .array inner items, room + 1, _, hprinted, h => by
    obtain ⟨ws, hws, -⟩ := Except.exists_of_map_eq_ok h
    obtain ⟨values, hitems, hheight⟩ := Items.exists_isTextOf hprinted hws
    exact ⟨.array values, .array inner hitems, by rw [height]; omega⟩
  | .object inner members, room + 1, _, hprinted, h => by
    obtain ⟨ws, hws, -⟩ := Except.exists_of_map_eq_ok h
    obtain ⟨values, hmembers, hheight⟩ := Members.exists_isTextOf hprinted hws
    exact ⟨.object values, .object inner hmembers, by rw [height]; omega⟩

theorem Items.exists_isTextOf : ∀ {s : Items} {room : Nat} {ws : List Json}, s.Printed →
    s.tree.raw room = .ok ws → ∃ values, s.IsTextOf values ∧ itemsHeight values ≤ room
  | .nil, _, _, _, _ => ⟨[], .nil, Nat.zero_le _⟩
  | .cons before _ after _, _, _, ⟨hprinted, hprinted'⟩, h => by
    obtain ⟨w, hw, h⟩ := Except.exists_of_bind_eq_ok h
    obtain ⟨ws, hws, -⟩ := Except.exists_of_bind_eq_ok h
    obtain ⟨v, hvalue, hheight⟩ := Source.exists_isTextOf hprinted hw
    obtain ⟨values, hrest, hheight'⟩ := Items.exists_isTextOf hprinted' hws
    exact ⟨v :: values, .cons before after hvalue hrest, Nat.max_le.2 ⟨hheight, hheight'⟩⟩

theorem Members.exists_isTextOf : ∀ {s : Members} {room : Nat} {ws : List (String × Json)}, s.Printed →
    s.tree.raw room = .ok ws → ∃ values, s.IsTextOf values ∧ membersHeight values ≤ room
  | .nil, _, _, _, _ => ⟨[], .nil, Nat.zero_le _⟩
  | .cons label before _ after _, _, _, ⟨hprinted, hprinted'⟩, h => by
    cases hname : label.name with
    | none =>
      rw [Members.tree, hname] at h
      cases h
    | some name =>
      rw [Members.tree, hname] at h
      obtain ⟨w, hw, h⟩ := Except.exists_of_bind_eq_ok h
      obtain ⟨ws, hws, -⟩ := Except.exists_of_bind_eq_ok h
      obtain ⟨v, hvalue, hheight⟩ := Source.exists_isTextOf hprinted hw
      obtain ⟨values, hrest, hheight'⟩ := Members.exists_isTextOf hprinted' hws
      exact ⟨(name, v) :: values, .cons before after hname hvalue hrest, Nat.max_le.2 ⟨hheight, hheight'⟩⟩

end

end Source

end DataGrid.Json
