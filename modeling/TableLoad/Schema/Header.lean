import TableLoad.Json.Render
import TableLoad.Schema.Basic

/-!
# Schemas as JSON

A schema travels as a list of fields, each a name and a type; a type is a kind
and its nullability.  Structures are read from objects, whose unknown members
are ignored, or from lists of their parts in order.
-/

set_option autoImplicit false

namespace TableLoad

/-! ## Writing -/

namespace Json

def ofText (text : String) : Json :=
  .string (some text)

def struct (parts : List (String × Json)) : Json :=
  .object (parts.map fun (name, part) => (some name, part))

end Json

def Atom.toJson : Atom → Json
  | .null => .ofText "null"
  | .boolean => .ofText "boolean"
  | .int => .ofText "int"
  | .bigInt => .ofText "big_int"
  | .float => .ofText "float"
  | .double => .ofText "double"
  | .decimal precision scale =>
    .struct [("decimal", .struct
      [("precision", .number (.ofNat precision.toNat)), ("scale", .number (.ofNat scale.toNat))])]
  | .string => .ofText "string"
  | .bytes => .ofText "bytes"
  | .date => .ofText "date"
  | .time => .ofText "time"
  | .timestamp => .ofText "timestamp"
  | .interval => .ofText "interval"

namespace DataType

def jsonOf (kind : Json) (nullable : Bool) : Json :=
  .struct [("kind", kind), ("nullable", .bool nullable)]

mutual

def toJson : DataType → Json
  | .atom kind nullable => jsonOf kind.toJson nullable
  | .array element nullable =>
    jsonOf (.struct [("array", .struct [("element", toJson element)])]) nullable
  | .map key value nullable =>
    jsonOf (.struct [("map", .struct [("key", toJson key), ("value", toJson value)])]) nullable
  | .row fields nullable =>
    jsonOf (.struct [("row", .struct [("fields", .array (fieldsToJson fields))])]) nullable

def fieldsToJson : List (String × DataType) → List Json
  | [] => []
  | (name, type) :: rest =>
    .struct [("name", .ofText name), ("data_type", toJson type)] :: fieldsToJson rest

end

end DataType

namespace Schema

def toJson (schema : Schema) : Json :=
  .array (DataType.fieldsToJson schema.fields)

def header (schema : Schema) : List UInt8 :=
  schema.toJson.render

end Schema

/-! ## Reading -/

namespace Json

/-- The part of one name in an object in which it occurs once. -/
def uniqueMember? (name : String) (members : List (Option String × Json)) : Option Json :=
  match members.filter fun member => member.1 = some name with
  | [(_, part)] => some part
  | _ => none

def parts? (names : List String) : Json → Option (List Json)
  | .object members =>
    if members.all fun member => member.1.isSome then
      names.mapM fun name => uniqueMember? name members
    else none
  | .array items => if items.length = names.length then some items else none
  | _ => none

def asBool? : Json → Option Bool
  | .bool b => some b
  | _ => none

def asText? : Json → Option String
  | .string text => text
  | _ => none

/-- A byte written without sign, point or exponent. -/
def asByte? : Json → Option UInt8
  | .number n =>
    if n.isIntegral && !n.negative && n.wholeValue < 256 then some (UInt8.ofNat n.wholeValue)
    else none
  | _ => none

end Json

namespace Atom

def ofName? (name : String) : Option Atom :=
  if name = "null" then some .null
  else if name = "boolean" then some .boolean
  else if name = "int" then some .int
  else if name = "big_int" then some .bigInt
  else if name = "float" then some .float
  else if name = "double" then some .double
  else if name = "string" then some .string
  else if name = "bytes" then some .bytes
  else if name = "date" then some .date
  else if name = "time" then some .time
  else if name = "timestamp" then some .timestamp
  else if name = "interval" then some .interval
  else none

end Atom

namespace DataType

/-- Levels of lists and objects that may be open at once. -/
def maxOpen : Nat := 127

mutual

def ofJson? : (room : Nat) → Json → Option DataType
  | 0, _ => none
  | room + 1, json =>
    match json.parts? ["kind", "nullable"] with
    | some [kind, nullable] => do
      let nullable ← nullable.asBool?
      kindOfJson? nullable room kind
    | _ => none

/-- The type of a kind: a bare name, or an object whose only member is named
after the kind. -/
def kindOfJson? (nullable : Bool) : (room : Nat) → Json → Option DataType
  | _, .string (some name) => (Atom.ofName? name).map (.atom · nullable)
  | room + 1, .object [(some name, body)] =>
    match Atom.ofName? name, body with
    | some kind, .null => some (.atom kind nullable)
    | some _, _ => none
    | none, body => bodyOfJson? nullable name room body
  | _, _ => none

def bodyOfJson? (nullable : Bool) (name : String) : (room : Nat) → Json → Option DataType
  | 0, _ => none
  | room + 1, json =>
    if name = "decimal" then
      match json.parts? ["precision", "scale"] with
      | some [precision, scale] => do
        return .atom (.decimal (← precision.asByte?) (← scale.asByte?)) nullable
      | _ => none
    else if name = "array" then
      match json.parts? ["element"] with
      | some [element] => do
        return .array (← ofJson? room element) nullable
      | _ => none
    else if name = "map" then
      match json.parts? ["key", "value"] with
      | some [key, value] => do
        return .map (← ofJson? room key) (← ofJson? room value) nullable
      | _ => none
    else if name = "row" then
      match json.parts? ["fields"] with
      | some [fields] => do
        return .row (← fieldsOfJson? room fields) nullable
      | _ => none
    else none

def fieldsOfJson? : (room : Nat) → Json → Option (List Field)
  | room + 1, .array items => items.mapM (fieldOfJson? room)
  | _, _ => none

def fieldOfJson? : (room : Nat) → Json → Option Field
  | 0, _ => none
  | room + 1, json =>
    match json.parts? ["name", "data_type"] with
    | some [name, type] => do
      return (← name.asText?, ← ofJson? room type)
    | _ => none

end

end DataType

inductive HeaderFault
  /-- The bytes are no document of the right form. -/
  | malformed
  /-- The fields are readable but make no schema. -/
  | schema (fault : SchemaFault)
deriving DecidableEq, Repr

def Schema.ofHeader (bytes : List UInt8) : Except HeaderFault Schema :=
  match Json.read bytes with
  | none => .error .malformed
  | some (json, rest) =>
    match DataType.fieldsOfJson? DataType.maxOpen json with
    | none => .error .malformed
    | some fields =>
      match Schema.ofFields fields with
      | .error fault => .error (.schema fault)
      | .ok schema => if Json.isSpent rest then .ok schema else .error .malformed

end TableLoad
