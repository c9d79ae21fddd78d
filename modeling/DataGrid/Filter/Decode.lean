import DataGrid.Filter.Names
import DataGrid.Json.Access
import DataGrid.Json.Reader

/-!
# Reading filters

The family of a node decides what its other members mean, and may stand behind them. So the text of
an outermost node is read to its end first, with all values in it, and gets its meaning then; only
its family is looked at on the way. From there on all faults are the same.
-/

namespace DataGrid.Filter

open Json (Fault Reader Tree Items Members member? part?)

/-- The condition of a family in the members of a node. -/
def condition? (family : Family) (members : List (String × Json)) : Option Condition :=
  let test {α : Type} (ofName : String → α) := part? members "type" fun value => ofName <$> value.name?
  match family with
  | .text => return .text (← test TextTest.ofName) (← part? members "filter" Json.text?)
  | .number =>
    return .number (← test ScalarTest.ofName) (← part? members "filter" Json.number?)
      (← part? members "filterTo" Json.number?)
  | .boolean => return .boolean (← test BooleanTest.ofName)
  | .date =>
    return .date (← test ScalarTest.ofName) (← part? members "dateFrom" Json.text?)
      (← part? members "dateTo" Json.text?)
  | .object => return .object (← test TextTest.ofName) (← part? members "filter" Json.text?)

/-- The family of a node: its name, or its number. -/
def family? : Json → Option Family
  | .string s => Family.ofName? s
  | .number (.integer (.ofNat n)) => Family.all[n]?
  | _ => none

mutual

/-- The node of a value. -/
def Node.ofJson? : Json → Option Node
  | .object members => do
    let family ← member? members "filterType" >>= family?
    let condition ← condition? family members
    let join ← part? members "operator" fun value => Join.ofName <$> value.name?
    match ← groups? members with
    | [] => return .single condition join
    | [none] => return .single condition join
    | [some nodes] => return .group join nodes condition
    | _ => none
  | _ => none

/-- The nodes to join, for each member that says so. -/
def groups? : List (String × Json) → Option (List (Option (List Node)))
  | [] => some []
  | (name, value) :: rest =>
    if name = "conditions" then do
      let group ← group? value
      return group :: (← groups? rest)
    else
      groups? rest

/-- The nodes to join, if they are not missing. -/
def group? : Json → Option (Option (List Node))
  | .null => some none
  | .array items => some <$> nodes? items
  | _ => none

def nodes? : List Json → Option (List Node)
  | [] => some []
  | item :: items => do
    let node ← Node.ofJson? item
    return node :: (← nodes? items)

end

/-- Reads the members of an outermost node. Its family has to be a name here. -/
def readMembers (room : Nat) (hasFamily : Bool) :
    Members → Except Fault (List (String × Json))
  | .closed => .ok []
  | .cut place => .error place.decoding
  | .dangling place => .error place.decoding
  | .member none _ _ => .error .malformed
  | .member (some name) value rest =>
    if name = "filterType" then
      if hasFamily then
        .error .mismatch
      else do
        let family ← Reader.text room value
        if (Family.ofName? family).isNone then
          .error .mismatch
        return (name, .string family) :: (← readMembers room true rest)
    else do
      let value ← value.raw room
      return (name, value) :: (← readMembers room hasFamily rest)

/-- Reads the items of an array that stands for an outermost node, which it cannot. Its first item
is looked at as a family. -/
def refuseItems (room : Nat) : Items → Fault
  | .closed => .mismatch
  | .cut fault => fault
  | .item value rest =>
    match Reader.text room value with
    | .error fault => fault
    | .ok family =>
      if (Family.ofName? family).isNone then .mismatch
      else match rest.raw room with
        | .error fault => fault
        | .ok _ => .mismatch

/-- Reads an outermost node. -/
def Node.read : Reader Node := fun room tree =>
  match tree, room with
  | .array _, 0 => .error .malformed
  | .object _, 0 => .error .malformed
  | .array items, room + 1 => .error (refuseItems room items)
  | .object members, room + 1 => do
    let members ← readMembers room false members
    match Node.ofJson? (.object members) with
    | some node => .ok node
    | none => .error .mismatch
  | tree, _ => .error tree.refuse

/-- Reads a filter model; of columns that repeat the last one counts. -/
def Model.read : Reader Model := fun room tree => do
  return Dictionary.ofList (← Reader.entries Node.read room tree)

end DataGrid.Filter
