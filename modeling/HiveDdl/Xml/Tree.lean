import HiveDdl.Xml.Markup
import HiveDdl.Xml.Scalar
import HiveDdl.Value
import HiveDdl.Text.Blank
/-!
# Building the document value of an XML text

As the reader meets start tags, character data and end tags, it keeps a stack of open
elements. Each element becomes a value when it closes:

* an element with neither attributes nor children is its text read as a scalar
  (`Scalar.ofText`), or the empty string when it has no text;
* any other element is an object: its attributes first (values read as scalars, names kept
  whole, namespace prefixes included), then its children in document order, and last its text
  under `content`;
* a key met again in one element (two children, or an attribute and a child) turns into an
  array at the place of its first occurrence.

An element's text is all its character data joined, with blanks trimmed at both ends; white
space only counts as no text.
-/

namespace HiveDdl.Xml

/-- Why a text has no document value: it is not well formed, a numeral in it has no text, or
it declares an entity. -/
inductive ReadError where
  | malformed (e : XmlError)
  | numeral (e : NumeralError)
  | entitiesDisabled
deriving Repr, DecidableEq

def stopAt {α : Type} (problem : Problem) (offset : Nat) : Except ReadError α :=
  .error (.malformed ⟨problem, offset⟩)

def stopScan {α : Type} (start : Nat) (s : ScanStop) : Except ReadError α :=
  .error (.malformed (s.toError start))

abbrev Item := Option (List (String × Value))

/-- Adds a value under a key: a new key goes last, a key met again becomes an array of its
values in order. -/
def pushValue (item : Item) (key : String) (v : Value) : List (String × Value) :=
  let fields := item.getD []
  match lookupField fields key with
  | some (.array xs) => setField fields key (.array (xs ++ [v]))
  | some old => setField fields key (.array [old, v])
  | none => fields ++ [(key, v)]

/-- An open element: its name, its fields so far and its character data (last first). -/
structure Frame where
  name : String
  item : Item
  text : List Char
deriving Repr

def scalarValue (s : String) : Except ReadError Value :=
  match Scalar.ofText s with
  | .ok sc => .ok sc.toValue
  | .error e => .error (.numeral e)

def openElement (name : String) (attrs : List (String × String)) : Except ReadError Frame := do
  let fields ← attrs.mapM fun (k, v) => do pure (k, ← scalarValue v)
  pure ⟨name, if fields.isEmpty then none else some fields, []⟩

def closeElement (f : Frame) (parent : Item) : Except ReadError (List (String × Value)) := do
  let trimmed := Text.trimList f.text.reverse
  let text : Option String := if trimmed.isEmpty then none else some (String.ofList trimmed)
  match f.item with
  | some fields =>
    let fields ← match text with
      | some t => do pure (pushValue (some fields) "content" (← scalarValue t))
      | none => pure fields
    pure (pushValue parent f.name (.object fields))
  | none =>
    let v ← match text with
      | some t => scalarValue t
      | none => pure (.string "")
    pure (pushValue parent f.name v)

def addText (stack : List Frame) (cs : List Char) : List Frame :=
  match stack with
  | f :: rest => { f with text := cs.reverse ++ f.text } :: rest
  | [] => []

/-- Closes the innermost element. Returns the open elements left, or the finished document
when the root closed. -/
def closeTop (stack : List Frame) : Except ReadError (List Frame ⊕ List (String × Value)) :=
  match stack with
  | [] => .ok (.inr [])
  | [root] => do pure (.inr (← closeElement root none))
  | f :: parent :: rest => do
    let fields ← closeElement f parent.item
    pure (.inl ({ parent with item := some fields } :: rest))

end HiveDdl.Xml
