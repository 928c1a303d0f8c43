import HiveDdl.Json.Reader
import HiveDdl.Xml.Reader
import HiveDdl.Text.Blank
import HiveDdl.Text.Case
import HiveDdl.CallDepth
/-!
# Documents

An example document is JSON or XML text whose root is an object; reading it gives the root's
fields. The format is named case-insensitively, blanks around the name ignored.

Reading is done in nested calls (`CallDepth`): the text is read into a value, and the value is
converted level by level, two calls a level, before its root is checked to be an object. The
depth of a call is the number of calls open while it runs, itself included; each reader below
is given its own depth.

* `InputFormat.ofName?`: the format of a name.
* `readJsonDocument`: the fields of a JSON document, or why it has none.
* `readXmlDocument`: the fields of an XML document: one, named for the root element.
* `readDocument`: the fields of a document of a format.
* `readJsonValue`: a JSON value of any root, read and converted by a caller.
-/

namespace HiveDdl

/-- The formats of example documents. -/
inductive InputFormat where
  | json
  | xml
deriving Repr, DecidableEq

def InputFormat.name : InputFormat → String
  | .json => "JSON"
  | .xml => "XML"

/-- The format of a name, compared in upper case after trimming blanks. -/
def InputFormat.ofName? (name : String) : Option InputFormat :=
  let key := Text.upper (Text.trim name)
  if key = "JSON" then some .json else if key = "XML" then some .xml else none

/-- Why a document has no fields. -/
inductive DocumentError where
  /-- The text is not a document of the format, with the reader's account of why. -/
  | invalid (format : InputFormat) (detail : String)
  /-- A numeral of the document has no text. -/
  | numeral (e : NumeralError)
  /-- The document declares an entity. -/
  | entitiesDisabled
  /-- Reading or converting the document nests past the call limit. -/
  | tooDeep (message : String)
deriving Repr, DecidableEq

def DocumentError.message : DocumentError → String
  | .invalid format detail => "Invalid " ++ format.name ++ " document: " ++ detail
  | .numeral e => e.message
  | .entitiesDisabled => "entities are disabled"
  | .tooDeep message => message

def rootNotObject : String := "document root must be an object"

def rootFields (format : InputFormat) : Value → Except DocumentError (List (String × Value))
  | .object fields => .ok fields
  | _ => .error (.invalid format rootNotObject)

/-- Checks that converting a read value fits the call limit, the conversion of the root
running at `depth`: the objects and arrays of the nth level are converted at `depth + 2 (n - 1)`,
and telling one of them what it is takes four calls more. -/
def checkConversion (depth : Nat) (v : Value) : Except DocumentError Value :=
  match v.nesting with
  | 0 => .ok v
  | n + 1 =>
    if exceedsLimit depth (2 * n + 4) then .error (.tooDeep (recursionMessage " in comparison"))
    else .ok v

def readJsonText (text : String) (depth : Nat) : Except DocumentError Value :=
  match Json.read text depth with
  | .ok v => .ok v
  | .error (.malformed e) => .error (.invalid .json (e.message text.toList))
  | .error (.numeral e) => .error (.numeral e)
  | .error (.tooDeep object) => .error (.tooDeep (Json.tooDeepMessage object))

/-- A JSON value of any root, read and converted by a call at `depth`: the reader runs three
calls deeper and its own call one more, the conversion one call deeper. -/
def readJsonValue (text : String) (depth : Nat) : Except DocumentError Value :=
  readJsonText text (depth + 4) >>= checkConversion (depth + 1)

/-- The fields of a JSON document read by a call at `depth`: the reader runs four calls
deeper, the conversion two, behind the check of the root. -/
def readJsonDocument (text : String) (depth : Nat) :
    Except DocumentError (List (String × Value)) :=
  readJsonText text (depth + 4) >>= checkConversion (depth + 2) >>= rootFields .json

/-- The fields of an XML document read by a call at `depth`; the conversion runs two calls
deeper, behind the check of the root. -/
def readXmlDocument (text : String) (depth : Nat) :
    Except DocumentError (List (String × Value)) :=
  match Xml.read text with
  | .ok fields => checkConversion (depth + 2) (.object fields) >>= rootFields .xml
  | .error (.malformed e) => .error (.invalid .xml (e.message text.toList))
  | .error (.numeral e) => .error (.numeral e)
  | .error .entitiesDisabled => .error .entitiesDisabled

/-- The fields of a document of a format, read by a call at `depth`. -/
def readDocument (format : InputFormat) (text : String) (depth : Nat) :
    Except DocumentError (List (String × Value)) :=
  match format with
  | .json => readJsonDocument text (depth + 1)
  | .xml => readXmlDocument text (depth + 1)

end HiveDdl
