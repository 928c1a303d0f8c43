import HiveDdl.Value
import HiveDdl.Schema.Identifier
/-!
# Column types

The Hive type of a document value. A scalar takes a primitive type (a number is `double` when
its text has a point and `int` otherwise; null is typed as `string`), an array takes the type of
its first element, and an object becomes a struct of its fields in document order. Types are
inferred, never unified: later array elements are not looked at.

A field named `content` holds the text of an XML element that has attributes or children; in a
struct it takes the name of the field that holds the object (the hint), so the element's text is
named after the element.

Inference fails on an empty array or an empty object, with the location of the first one met
in document order: the hint, then `.key` for each field and `[0]` for each first element.

* `HiveType.infer v hint`: the type, or the failure.
* `HiveType.render`: the type expression, field names written as identifiers.
-/

namespace HiveDdl.Schema

/-- The primitive types. -/
inductive ScalarType where
  | string
  | int
  | double
  | boolean
deriving Repr, DecidableEq

def ScalarType.name : ScalarType → String
  | .string => "string"
  | .int => "int"
  | .double => "double"
  | .boolean => "boolean"

/-- A Hive column type; struct fields carry their names before escaping. -/
inductive HiveType where
  | scalar (t : ScalarType)
  | array (element : HiveType)
  | struct (fields : List (String × HiveType))
deriving Repr, Inhabited

/-- Why a value has no type. -/
inductive TypeError where
  | emptyArray (location : String)
  | emptyObject (location : String)
deriving Repr, DecidableEq

def TypeError.message : TypeError → String
  | .emptyArray loc => s!"Cannot infer element type of empty array at '{loc}'"
  | .emptyObject loc => s!"Cannot infer struct fields of empty object at '{loc}'"

def scalarTypeOf : Value → ScalarType
  | .bool _ => .boolean
  | .number text => if text.toList.contains '.' then .double else .int
  | _ => .string

def fieldName (hint key : String) : String :=
  if key = "content" then hint else key

mutual

def inferAt (hint location : String) : Value → Except TypeError HiveType
  | .object fields =>
    if fields.isEmpty then .error (.emptyObject location)
    else .struct <$> inferFields hint location fields
  | .array [] => .error (.emptyArray location)
  | .array (first :: _) => .array <$> inferAt hint (location ++ "[0]") first
  | v => .ok (.scalar (scalarTypeOf v))

def inferFields (hint location : String) :
    List (String × Value) → Except TypeError (List (String × HiveType))
  | [] => .ok []
  | (key, child) :: rest => do
    let t ← inferAt key (location ++ "." ++ key) child
    let ts ← inferFields hint location rest
    pure ((fieldName hint key, t) :: ts)

end

def HiveType.infer (v : Value) (hint : String) : Except TypeError HiveType :=
  inferAt hint hint v

mutual

/-- The type expression: `array<…>`, `struct<name:type, …>` with escaped names. -/
def HiveType.render : HiveType → String
  | .scalar t => t.name
  | .array element => "array<" ++ element.render ++ ">"
  | .struct fields => "struct<" ++ ", ".intercalate (renderFields fields) ++ ">"

def renderFields : List (String × HiveType) → List String
  | [] => []
  | (name, t) :: rest => (escapeIdentifier name false ++ ":" ++ t.render) :: renderFields rest

end

def renderType (v : Value) (hint : String) : Except TypeError String :=
  HiveType.render <$> HiveType.infer v hint

end HiveDdl.Schema
