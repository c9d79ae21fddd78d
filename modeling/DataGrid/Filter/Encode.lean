import DataGrid.Filter.Names
import DataGrid.Json

/-!
# Filters as JSON

A node is an object with its family, its join and its nodes, where it has them, and the parts of its
condition, where a missing part is `null`.
-/

namespace DataGrid.Filter

/-- The members of a condition. -/
def Condition.members : Condition → List (String × Json)
  | text test value | object test value =>
    [("type", .ofOption (.text ·.name) test), ("filter", .ofOption .text value)]
  | number test value upper =>
    [("type", .ofOption (.text ·.name) test), ("filter", .ofOption .real value),
      ("filterTo", .ofOption .real upper)]
  | boolean test => [("type", .ofOption (.text ·.name) test)]
  | date test value upper =>
    [("type", .ofOption (.text ·.name) test), ("dateFrom", .ofOption .text value),
      ("dateTo", .ofOption .text upper)]

def Join.members (join : Option Join) : List (String × Json) :=
  (join.map fun join => ("operator", .text join.name)).toList

namespace Node

mutual

def toJson : Node → Json
  | single condition join =>
    .object (("filterType", .text condition.family.name) :: Join.members join ++ condition.members)
  | group join nodes own =>
    .object (("filterType", .text own.family.name) :: Join.members join
      ++ ("conditions", .array (listToJson nodes)) :: own.members)

def listToJson : List Node → List Json
  | [] => []
  | node :: nodes => node.toJson :: listToJson nodes

end

end Node

def Model.toJson (model : Model) : Json :=
  .object (model.entries.map fun entry => (entry.1, entry.2.toJson))

end DataGrid.Filter
