/-
# Nodes as JSON

A node is an object with its seven fields in a fixed order; the kind is written by its name and the
parent, if there is none, as null. When read, the fields may come in any order or as a plain list in
the written one, and only the parent may be missing.

Key definitions: `Node.toJson`, `Node.ofJson?`.
-/
import MarkupSearch.Json.Reader
import MarkupSearch.Node

namespace MarkupSearch

/-- The fields of a node in written order. -/
def Node.fields : List String :=
  ["node_id", "node_type", "parent_id", "children_ids", "node_name", "node_value", "attributes"]

def NodeId.toJson (id : NodeId) : Json := .nat id.toNat

def NodeId.ofJson? (v : Json) : Option NodeId :=
  (v.natBelow? UInt32.size).map UInt32.ofNat

def Attribute.toJson (a : Attribute) : Json :=
  .object [Json.member "name" (.text a.name), Json.member "value" (.text a.value)]

def Attribute.ofJson? (v : Json) : Option Attribute :=
  match v.record? ["name", "value"] with
  | some [some name, some value] => do return ⟨← name.text?, ← value.text?⟩
  | _ => none

namespace Node

def parentToJson : Option NodeId → Json
  | some id => NodeId.toJson id
  | none => .null

def parentOfJson? : Option Json → Option (Option NodeId)
  | none => some none
  | some .null => some none
  | some v => (NodeId.ofJson? v).map some

def toJson (n : Node) : Json :=
  .object
    [Json.member "node_id" (NodeId.toJson n.id),
     Json.member "node_type" (.text n.kind.name),
     Json.member "parent_id" (parentToJson n.parent),
     Json.member "children_ids" (.array (n.children.map NodeId.toJson)),
     Json.member "node_name" (.text n.name),
     Json.member "node_value" (.text n.value),
     Json.member "attributes" (.array (n.attributes.map Attribute.toJson))]

def ofJson? (v : Json) : Option Node :=
  match v.record? fields with
  | some [some id, some kind, parent, some children, some name, some value, some attributes] => do
    return {
      id := ← NodeId.ofJson? id
      kind := ← kind.variant?.bind NodeKind.ofName?
      parent := ← parentOfJson? parent
      children := ← children.items?.bind fun vs => vs.mapM NodeId.ofJson?
      name := ← name.text?
      value := ← value.text?
      attributes := ← attributes.items?.bind fun vs => vs.mapM Attribute.ofJson? }
  | _ => none

/-- The JSON text of a node. -/
def toJsonText (n : Node) : String := n.toJson.write

/-- The node that a JSON text gives. -/
def ofJsonText? (s : String) : Option Node := (Json.read? s).bind ofJson?

end Node
end MarkupSearch
