import HiveDdl.Schema.Table
/-!
# The flattening view

`CREATE VIEW view_name AS SELECT … FROM table`: each top-level key names a column (lowered). An
object column is flattened one level, one line `column.field AS column_field` per field (both
lowered); any other column is selected whole, aliased with its points turned to underscores.
The lines are sorted.

* `selectLines`: the sorted lines; `viewQuery`: the statement, ending in a line break.
-/

namespace HiveDdl.Schema

def pointsToUnderscores (s : String) : String :=
  String.ofList (s.toList.map fun c => if c = '.' then '_' else c)

def keySelectLines (key : String) : Value → List String
  | .object fields =>
    let column := Text.lower key
    fields.map fun (nested, _) =>
      let field := Text.lower nested
      column ++ "." ++ field ++ " AS " ++ column ++ "_" ++ field
  | _ =>
    let column := Text.lower key
    [column ++ " AS " ++ pointsToUnderscores column]

/-- The sorted select lines of a top-level object. -/
def selectLines (fields : List (String × Value)) : List String :=
  sortTexts (fields.flatMap fun (k, v) => keySelectLines k v)

/-- The view statement over a table; it ends in a line break. -/
def viewQuery (fields : List (String × Value)) (table : String) : String :=
  "\n".intercalate (["CREATE VIEW view_name AS SELECT"] ++ leadingCommas (selectLines fields) ++
    ["FROM " ++ table]) ++ "\n"

end HiveDdl.Schema
