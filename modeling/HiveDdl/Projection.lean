import HiveDdl.Path.Resolve
import HiveDdl.Schema.Table
/-!
# Projection

The document of a keyed response wraps its payload: a `KeyedResponse` object holds keyed data
(by default `TPSSourceRecord`, `ApplicationData` and `keyData`) and the `Response` object; with
the envelope skipped the document holds `Response` alone. Projection builds the top-level object
whose keys become the table's columns: first each keyed datum that is present, then one column
per type path, the whole response or the subtree the path selects. A column set twice keeps its
first position and its last value.

For the XML SerDe each column also gets an XPath property: the path of its element below the
document root, `text()` below a primitive, and a leading `/` (any depth) for an array.

* `Shape`, `xpathProperty`: the property of one column.
* `selectPath`: the subtree of a path and the XPath of its element.
* `project`: the projected columns and the properties, in insertion order.
-/

namespace HiveDdl

open Schema

/-- The shape of a projected value, which decides its XPath form. -/
inductive Shape where
  | primitive
  | struct
  | array
  | map
deriving Repr, DecidableEq

def Value.shape : Value → Shape
  | .object _ => .struct
  | .array _ => .array
  | _ => .primitive

def defaultKeyedData : List String := ["TPSSourceRecord", "ApplicationData", "keyData"]

/-- The XPath property of a column whose element lies at `path` below the document root; a
map has none. -/
def xpathProperty (path name : String) (shape : Shape) (skipEnvelope : Bool) :
    Option XPathProperty :=
  let xpath := (if skipEnvelope then "/" else "/KeyedResponse/") ++ path
  let expression : Option String :=
    match shape with
    | .primitive => some (xpath ++ "/text()")
    | .struct => some xpath
    | .array => some ("/" ++ xpath)
    | .map => none
  expression.map fun e => ⟨Text.lower name, e⟩

/-- Why projection fails. -/
inductive ProjectionError where
  /-- An envelope object is missing, named by its path. -/
  | missingEnvelope (path : String)
  | path (e : PathError)
  /-- No element of a filtered path's array matches the filter. -/
  | noMatch (expression : String) (filter : ElementFilter)
  /-- An array index has more digits than an integer is read from. -/
  | index (e : NumeralError)
deriving Repr, DecidableEq

def ProjectionError.message : ProjectionError → String
  | .missingEnvelope missing => "Document is missing the expected '" ++ missing ++ "' object"
  | .path e => e.message
  | .noMatch expression f =>
    "No element of '" ++ expression ++ "' has " ++ f.key ++ "='" ++ f.value ++ "'"
  | .index e => e.message

def ProjectionError.ofResolve : ResolveError → ProjectionError
  | .path e => .path e
  | .index e => .index e

/-- Whether an element matches a filter: an object whose field `key` holds a scalar reading
`value`. -/
def ElementFilter.matches (f : ElementFilter) : Value → Bool
  | .object fields =>
    match lookupField fields f.key with
    | some v => v.scalarText == some f.value
    | none => false
  | _ => false

/-- The subtree a path selects below the response, with the XPath of its element below the
document root's child. -/
def selectPath (response : Value) (p : TypePath) : Except ProjectionError (Value × String) := do
  let xpath := "Response/" ++ p.queryPath
  let v ← (resolve response p.segments p.expression).mapError .ofResolve
  match p.filter with
  | none => pure (v, xpath)
  | some f =>
    match v with
    | .array items =>
      match items.find? f.matches with
      | some element => pure (element, xpath ++ "[@" ++ f.key ++ "='" ++ f.value ++ "']")
      | none => throw (.noMatch p.expression f)
    | _ => throw (.path ⟨p.expression, .notAnArray⟩)

def requireObject (fields : List (String × Value)) (key path : String) :
    Except ProjectionError (List (String × Value)) :=
  match lookupField fields key with
  | some (.object inner) => .ok inner
  | _ => .error (.missingEnvelope path)

/-- What projection builds: the columns in insertion order and the XPath properties. -/
structure Projection where
  columns : List (String × Value)
  properties : List XPathProperty
deriving Repr

def Projection.add (acc : Projection) (xml skipEnvelope : Bool) (path name : String)
    (v : Value) (shape : Shape) : Projection :=
  let properties :=
    if xml then acc.properties ++ (xpathProperty path name shape skipEnvelope).toList
    else acc.properties
  ⟨setField acc.columns name v, properties⟩

/-- The columns of the keyed data present in the envelope, in the order of the names. -/
def keyedColumns (envelope : List (String × Value)) (xml skipEnvelope : Bool)
    (keyedData : List String) : Projection :=
  keyedData.foldl (fun acc name =>
    match lookupField envelope name with
    | some v => acc.add xml skipEnvelope name name v .struct
    | none => acc) ⟨[], []⟩

def openEnvelope (document : List (String × Value)) (skipEnvelope xml : Bool)
    (keyedData : List String) : Except ProjectionError (Value × Projection) := do
  if skipEnvelope then
    let response ← requireObject document "Response" "Response"
    pure (.object response, ⟨[], []⟩)
  else
    let envelope ← requireObject document "KeyedResponse" "KeyedResponse"
    let response ← requireObject envelope "Response" "KeyedResponse/Response"
    pure (.object response, keyedColumns envelope xml skipEnvelope keyedData)

def addPath (response : Value) (xml skipEnvelope : Bool) (acc : Projection) (p : TypePath) :
    Except ProjectionError Projection :=
  if p.isWholeResponse then
    pure (acc.add xml skipEnvelope "Response" "Response" response .struct)
  else do
    let (v, xpath) ← selectPath response p
    pure (acc.add xml skipEnvelope xpath p.columnName v v.shape)

/-- Projects a document: keyed data first, then one column per type path in order. XPath
properties are kept for the XML SerDe only. -/
def project (document : List (String × Value)) (paths : List TypePath) (xml skipEnvelope : Bool)
    (keyedData : List String) : Except ProjectionError Projection := do
  let (response, start) ← openEnvelope document skipEnvelope xml keyedData
  paths.foldlM (addPath response xml skipEnvelope) start

end HiveDdl
