import HiveDdl.Text.Case
/-!
# Hive identifiers

A name from a document becomes a Hive identifier by three rules: a colon (the separator of an
XML namespace prefix) becomes an underscore, the name is lowered when asked, and a name whose
uppercase form is a reserved word of Hive is quoted in backticks. Whether a name is reserved is
decided on the name as given, before any of the other rules.

* `reservedWords`, `isReserved`: the reserved words and the test.
* `escapeIdentifier name lowercase`: the identifier.
* `escapeIdentifier_of_reserved`, `escapeIdentifier_of_not_reserved`: the two shapes of the
  result.
-/

namespace HiveDdl.Schema

/-- The reserved words of Hive, in upper case. -/
def reservedWords : List String := [
  "ALL", "ALTER", "AND", "ARRAY", "AS", "AUTHORIZATION", "BETWEEN", "BIGINT", "BINARY",
  "BOOLEAN", "BOTH", "BY", "CASE", "CAST", "CHAR", "COLUMN", "CONF", "CREATE", "CROSS", "CUBE",
  "CURRENT", "CURRENT_DATE", "CURRENT_TIMESTAMP", "CURSOR", "DATABASE", "DATE", "DECIMAL",
  "DELETE", "DESCRIBE", "DISTINCT", "DOUBLE", "DROP", "ELSE", "END", "EXCHANGE", "EXISTS",
  "EXTENDED", "EXTERNAL", "FALSE", "FETCH", "FLOAT", "FOLLOWING", "FOR", "FROM", "FULL",
  "FUNCTION", "GRANT", "GROUP", "GROUPING", "HAVING", "IF", "IMPORT", "IN", "INNER", "INSERT",
  "INT", "INTERSECT", "INTERVAL", "INTO", "IS", "JOIN", "LATERAL", "LEFT", "LESS", "LIKE",
  "LOCAL", "MACRO", "MAP", "MORE", "NONE", "NOT", "NULL", "OF", "ON", "OR", "ORDER", "OUT",
  "OUTER", "OVER", "PARTIALSCAN", "PARTITION", "PERCENT", "PRECEDING", "PRESERVE", "PROCEDURE",
  "RANGE", "READS", "REDUCE", "REGEXP", "REVOKE", "RIGHT", "RLIKE", "ROLLUP", "ROW", "ROWS",
  "SELECT", "SET", "SMALLINT", "TABLE", "TABLESAMPLE", "THEN", "TIMESTAMP", "TO", "TRANSFORM",
  "TRIGGER", "TRUE", "TRUNCATE", "UNBOUNDED", "UNION", "UNIQUEJOIN", "UPDATE", "USER", "USING",
  "VALUES", "VARCHAR", "WHEN", "WHERE", "WINDOW", "WITH"]

/-- A name is reserved when its full uppercase form is a reserved word. -/
def isReserved (name : String) : Bool :=
  reservedWords.contains (Text.upper name)

def colonsToUnderscores (name : String) : String :=
  String.ofList (name.toList.map fun c => if c = ':' then '_' else c)

/-- The Hive identifier of a name: colons to underscores, lowered when `lowercase` is set, and
quoted in backticks when the name is reserved. -/
def escapeIdentifier (name : String) (lowercase : Bool) : String :=
  let plain := colonsToUnderscores name
  let rendered := if lowercase then Text.lower plain else plain
  if isReserved name then "`" ++ rendered ++ "`" else rendered

def unquotedIdentifier (name : String) (lowercase : Bool) : String :=
  let plain := colonsToUnderscores name
  if lowercase then Text.lower plain else plain

theorem escapeIdentifier_of_reserved {name : String} (lowercase : Bool)
    (h : isReserved name = true) :
    escapeIdentifier name lowercase = "`" ++ unquotedIdentifier name lowercase ++ "`" := by
  simp [escapeIdentifier, unquotedIdentifier, h]

theorem escapeIdentifier_of_not_reserved {name : String} (lowercase : Bool)
    (h : isReserved name = false) :
    escapeIdentifier name lowercase = unquotedIdentifier name lowercase := by
  simp [escapeIdentifier, unquotedIdentifier, h]

end HiveDdl.Schema
