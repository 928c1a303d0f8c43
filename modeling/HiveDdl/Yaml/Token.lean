import HiveDdl.Yaml.Mark
/-!
# Tokens of YAML texts

The scanner cuts a YAML text into tokens: stream and document boundaries, directives, the
structure of block and flow collections (starts, ends, entries, keys and values), anchors,
aliases, tags and scalars. Block collections have no written start or end; the scanner infers
them from indentation.

* `TokenKind.name`: how messages name a kind of token.
-/

namespace HiveDdl.Yaml

/-- What a directive says: the YAML version, a tag handle and its prefix, or nothing the
reader uses. -/
inductive DirectiveValue where
  | version (major minor : Nat)
  | tagPrefix (handle pfx : String)
  | other
deriving Repr, DecidableEq

/-- The kinds of tokens. -/
inductive TokenKind where
  | streamStart
  | streamEnd
  | directive (name : String) (value : DirectiveValue)
  | documentStart
  | documentEnd
  | blockSequenceStart
  | blockMappingStart
  | blockEnd
  | flowSequenceStart
  | flowMappingStart
  | flowSequenceEnd
  | flowMappingEnd
  | key
  | value
  | blockEntry
  | flowEntry
  | alias (name : String)
  | anchor (name : String)
  /-- A tag: its handle (none for a verbatim tag or a lone `!`) and suffix. -/
  | tag (handle : Option String) (suffix : String)
  /-- A scalar: its value and whether it was written plain (unquoted, not a block scalar). -/
  | scalar (text : String) (plain : Bool)
deriving Repr, DecidableEq

/-- How messages name a kind of token. -/
def TokenKind.name : TokenKind → String
  | .streamStart => "<stream start>"
  | .streamEnd => "<stream end>"
  | .directive _ _ => "<directive>"
  | .documentStart => "<document start>"
  | .documentEnd => "<document end>"
  | .blockSequenceStart => "<block sequence start>"
  | .blockMappingStart => "<block mapping start>"
  | .blockEnd => "<block end>"
  | .flowSequenceStart => "["
  | .flowMappingStart => "\x7b"
  | .flowSequenceEnd => "]"
  | .flowMappingEnd => "\x7d"
  | .key => "?"
  | .value => ":"
  | .blockEntry => "-"
  | .flowEntry => ","
  | .alias _ => "<alias>"
  | .anchor _ => "<anchor>"
  | .tag _ _ => "<tag>"
  | .scalar _ _ => "<scalar>"

/-- A token with where it starts and ends. -/
structure Token where
  kind : TokenKind
  start : Mark
  stop : Mark
deriving Repr

end HiveDdl.Yaml
