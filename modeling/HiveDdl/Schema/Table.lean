import HiveDdl.Schema.Type
import HiveDdl.Text.Surrogate
/-!
# The external table statement

`CREATE EXTERNAL TABLE` for a top-level object: one column per key, named by the key as a
lowered identifier and typed by its value, the column lines sorted. The table is read with the
JSON SerDe, or with the XML SerDe and one XPath property per projected column, between the
start and end tags of the document's root element.

* `columnDefinitions`: the sorted `name type` lines; typing fails at the first key, in document
  order, whose value has no type.
* `tableStatement`: the whole statement.
-/

namespace HiveDdl.Schema

/-- A column of the XML SerDe mapped to the XPath of its element. -/
structure XPathProperty where
  name : String
  xpath : String
deriving Repr, DecidableEq

def XPathProperty.render (p : XPathProperty) : String :=
  "\"column.xpath." ++ p.name ++ "\"=\"" ++ p.xpath ++ "\""

/-- How the table's rows are read. -/
inductive RowFormat where
  | json
  /-- The XML SerDe, with its properties and the document's root element. -/
  | xml (properties : List XPathProperty) (root : String)
deriving Repr

def sortTexts (xs : List String) : List String :=
  xs.mergeSort Text.codeLE

def columnDefinition (key : String) (v : Value) : Except TypeError String := do
  let t ← renderType v key
  pure (escapeIdentifier key true ++ " " ++ t)

/-- The column lines of a top-level object, sorted. -/
def columnDefinitions (fields : List (String × Value)) : Except TypeError (List String) :=
  sortTexts <$> fields.mapM fun (k, v) => columnDefinition k v

def leadingCommas : List String → List String
  | [] => []
  | first :: rest => ("\t" ++ first) :: rest.map ("\t," ++ ·)

def xmlSerdeLines (properties : List XPathProperty) (root : String) : List String :=
  ["ROW FORMAT SERDE 'com.ibm.spss.hive.serde2.xml.XmlSerDe'", "WITH SERDEPROPERTIES ("] ++
  leadingCommas (properties.map XPathProperty.render) ++
  [")", "STORED AS", "INPUTFORMAT 'com.ibm.spss.hive.serde2.xml.XmlInputFormat'",
   "OUTPUTFORMAT 'org.apache.hadoop.hive.ql.io.IgnoreKeyTextOutputFormat'",
   "TBLPROPERTIES (",
   "\t\"xmlinput.start\"=\"<" ++ root ++ "\",",
   "\t\"xmlinput.end\"=\"</" ++ root ++ ">\"",
   ");"]

def RowFormat.lines : RowFormat → List String
  | .json => ["ROW FORMAT SERDE 'org.apache.hive.hcatalog.data.JsonSerDe';"]
  | .xml properties root => xmlSerdeLines properties root

/-- The `CREATE EXTERNAL TABLE` statement of a top-level object. -/
def tableStatement (fields : List (String × Value)) (table : String) (format : RowFormat) :
    Except TypeError String := do
  let columns ← columnDefinitions fields
  let lines := ["CREATE EXTERNAL TABLE " ++ table ++ " ("] ++ leadingCommas columns ++
    [")", "COMMENT 'Auto Generated Schema, Put Table description here'",
     "PARTITIONED BY (CYCLE_NUMBER INT)"] ++ format.lines
  pure ("\n".intercalate lines)

end HiveDdl.Schema
