import Playbook.Yaml.Source

/-!
# Tokens

The words of a document with the places where they start and end: indicators, names, tags and
scalars, and the starts and ends of blocks that indentation alone shows.

Main definitions: `Yaml.Token`, `Yaml.TokenKind`, `Yaml.TokenKind.name`.
-/

namespace Playbook.Yaml

/-- How a scalar is written. -/
inductive ScalarStyle where
  /-- Without quotes. -/
  | plain
  /-- Between single quotes. -/
  | single
  /-- Between double quotes. -/
  | double
  /-- As a block that keeps its lines. -/
  | literal
  /-- As a block whose lines are joined. -/
  | folded
deriving DecidableEq, Repr, Inhabited

/-- What a directive says. -/
inductive Directive where
  /-- The version of the language. -/
  | version (major minor : Nat)
  /-- A handle for tags, and what it stands for. -/
  | tagHandle (handle stem : String)
  /-- Anything else. -/
  | reserved
deriving DecidableEq, Repr

/-- The kinds of tokens. -/
inductive TokenKind where
  /-- The start of the source. -/
  | streamStart
  /-- The end of the source. -/
  | streamEnd
  /-- A directive. -/
  | directive (d : Directive)
  /-- The start of a document, `---`. -/
  | documentStart
  /-- The end of a document, `...`. -/
  | documentEnd
  /-- The start of a sequence shown by indentation. -/
  | blockSequenceStart
  /-- The start of a mapping shown by indentation. -/
  | blockMappingStart
  /-- The end of a block shown by indentation. -/
  | blockEnd
  /-- An opening bracket. -/
  | flowSequenceStart
  /-- A closing bracket. -/
  | flowSequenceEnd
  /-- An opening brace. -/
  | flowMappingStart
  /-- A closing brace. -/
  | flowMappingEnd
  /-- A key follows. -/
  | key
  /-- A value follows. -/
  | value
  /-- An item of a block follows. -/
  | blockEntry
  /-- A comma. -/
  | flowEntry
  /-- A reference to a named node. -/
  | alias (name : String)
  /-- The name of a node. -/
  | anchor (name : String)
  /-- The tag of a node, with the handle it is written with. -/
  | tag (handle : Option String) (suffix : String)
  /-- A scalar. -/
  | scalar (text : String) (style : ScalarStyle)
deriving DecidableEq, Repr

/-- A token and the places around it. -/
structure Token where
  /-- What it is. -/
  kind : TokenKind
  /-- Where it starts. -/
  start : Mark
  /-- Where it ends. -/
  stop : Mark
deriving DecidableEq, Repr

/-- The name of a kind of token in messages. -/
def TokenKind.name : TokenKind → String
  | .streamStart => "<stream start>"
  | .streamEnd => "<stream end>"
  | .directive _ => "<directive>"
  | .documentStart => "<document start>"
  | .documentEnd => "<document end>"
  | .blockSequenceStart => "<block sequence start>"
  | .blockMappingStart => "<block mapping start>"
  | .blockEnd => "<block end>"
  | .flowSequenceStart => "["
  | .flowSequenceEnd => "]"
  | .flowMappingStart => "\x7b"
  | .flowMappingEnd => "\x7d"
  | .key => "?"
  | .value => ":"
  | .blockEntry => "-"
  | .flowEntry => ","
  | .alias _ => "<alias>"
  | .anchor _ => "<anchor>"
  | .tag .. => "<tag>"
  | .scalar .. => "<scalar>"

end Playbook.Yaml
