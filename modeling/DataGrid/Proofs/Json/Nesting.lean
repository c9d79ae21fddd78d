import DataGrid.Proofs.Json.Numbers

/-!
# Nested values

A value that is decoded fits into the room that there was for arrays and objects (`Tree.height_of_raw`).
-/

namespace DataGrid.Json

mutual

/-- The number of arrays and objects on the longest way into a value. -/
def height : Json → Nat
  | .array items => 1 + itemsHeight items
  | .object members => 1 + membersHeight members
  | _ => 0

def itemsHeight : List Json → Nat
  | [] => 0
  | item :: items => max item.height (itemsHeight items)

def membersHeight : List (String × Json) → Nat
  | [] => 0
  | (_, value) :: members => max value.height (membersHeight members)

end

mutual

theorem Tree.height_of_raw : ∀ {room : Nat} {tree : Tree} {value : Json},
    tree.raw room = .ok value → value.height ≤ room
  | _, .null, _, h | _, .bool _, _, h | _, .number (some _), _, h | _, .string (some _), _, h => by
    cases h
    exact Nat.zero_le _
  | room + 1, .array items, _, h => by
    obtain ⟨values, hvalues, rfl⟩ := Except.exists_of_map_eq_ok h
    have := Items.height_of_raw hvalues
    rw [height]
    omega
  | room + 1, .object members, _, h => by
    obtain ⟨values, hvalues, rfl⟩ := Except.exists_of_map_eq_ok h
    have := Members.height_of_raw hvalues
    rw [height]
    omega

theorem Items.height_of_raw : ∀ {room : Nat} {items : Items} {values : List Json},
    items.raw room = .ok values → itemsHeight values ≤ room
  | _, .closed, _, h => by
    cases h
    exact Nat.zero_le _
  | _, .item value rest, _, h => by
    obtain ⟨value', hvalue, h⟩ := Except.exists_of_bind_eq_ok h
    obtain ⟨values, hvalues, h⟩ := Except.exists_of_bind_eq_ok h
    cases h
    exact Nat.max_le.2 ⟨Tree.height_of_raw hvalue, Items.height_of_raw hvalues⟩

theorem Members.height_of_raw : ∀ {room : Nat} {members : Members} {values : List (String × Json)},
    members.raw room = .ok values → membersHeight values ≤ room
  | _, .closed, _, h => by
    cases h
    exact Nat.zero_le _
  | _, .member (some name) value rest, _, h => by
    obtain ⟨value', hvalue, h⟩ := Except.exists_of_bind_eq_ok h
    obtain ⟨values, hvalues, h⟩ := Except.exists_of_bind_eq_ok h
    cases h
    exact Nat.max_le.2 ⟨Tree.height_of_raw hvalue, Members.height_of_raw hvalues⟩

end

end DataGrid.Json
