import Playbook.Decimal.Binary64
import Playbook.Failure

/-!
# Tokens of templates

A template is a text with tags in it: a tag in double braces puts a value into the text, and one in
braces with percent signs holds a statement. The tokens are the text between tags, the ends of
tags, and the names, literals and signs inside them.

Main definitions: `Template.Sign`, `Template.Lexeme`, `Template.Token`, `Template.Tokens`.
-/

namespace Playbook.Template

/-- A sign inside a tag. -/
inductive Sign where
  /-- The sign `+`. -/
  | plus
  /-- The sign `-`. -/
  | minus
  /-- The sign `/`. -/
  | slash
  /-- The sign `//`. -/
  | doubleSlash
  /-- The sign `*`. -/
  | star
  /-- The sign `%`. -/
  | percent
  /-- The sign `**`. -/
  | doubleStar
  /-- The sign `~`. -/
  | tilde
  /-- An opening bracket. -/
  | openBracket
  /-- A closing bracket. -/
  | closeBracket
  /-- An opening parenthesis. -/
  | openParen
  /-- A closing parenthesis. -/
  | closeParen
  /-- An opening brace. -/
  | openBrace
  /-- A closing brace. -/
  | closeBrace
  /-- The sign `==`. -/
  | equal
  /-- The sign `!=`. -/
  | notEqual
  /-- The sign `>`. -/
  | greater
  /-- The sign `>=`. -/
  | greaterEqual
  /-- The sign `<`. -/
  | less
  /-- The sign `<=`. -/
  | lessEqual
  /-- The sign `=`. -/
  | assign
  /-- The sign `.`. -/
  | dot
  /-- The sign `:`. -/
  | colon
  /-- The sign `|`. -/
  | pipe
  /-- The sign `,`. -/
  | comma
  /-- The sign `;`. -/
  | semicolon
deriving DecidableEq, Repr

namespace Sign

/-- The characters of a sign. -/
def text : Sign → String
  | plus => "+"
  | minus => "-"
  | slash => "/"
  | doubleSlash => "//"
  | star => "*"
  | percent => "%"
  | doubleStar => "**"
  | tilde => "~"
  | openBracket => "["
  | closeBracket => "]"
  | openParen => "("
  | closeParen => ")"
  | openBrace => "\x7b"
  | closeBrace => "\x7d"
  | equal => "=="
  | notEqual => "!="
  | greater => ">"
  | greaterEqual => ">="
  | less => "<"
  | lessEqual => "<="
  | assign => "="
  | dot => "."
  | colon => ":"
  | pipe => "|"
  | comma => ","
  | semicolon => ";"

/-- The sign of two characters. -/
def ofPair? : Char → Char → Option Sign
  | '/', '/' => some doubleSlash
  | '*', '*' => some doubleStar
  | '=', '=' => some equal
  | '!', '=' => some notEqual
  | '>', '=' => some greaterEqual
  | '<', '=' => some lessEqual
  | _, _ => none

/-- The sign of one character. -/
def ofChar? : Char → Option Sign
  | '+' => some plus
  | '-' => some minus
  | '/' => some slash
  | '*' => some star
  | '%' => some percent
  | '~' => some tilde
  | '[' => some openBracket
  | ']' => some closeBracket
  | '(' => some openParen
  | ')' => some closeParen
  | '\x7b' => some openBrace
  | '\x7d' => some closeBrace
  | '>' => some greater
  | '<' => some less
  | '=' => some assign
  | '.' => some dot
  | ':' => some colon
  | '|' => some pipe
  | ',' => some comma
  | ';' => some semicolon
  | _ => none

/-- The closing sign that an opening one asks for. -/
def closing? : Sign → Option Sign
  | openBracket => some closeBracket
  | openParen => some closeParen
  | openBrace => some closeBrace
  | _ => none

/-- Whether a sign closes what another has opened. -/
def isClosing : Sign → Bool
  | closeBracket | closeParen | closeBrace => true
  | _ => false

end Sign

/-- What a token is. -/
inductive Lexeme where
  /-- Text outside tags. -/
  | data (s : List Char)
  /-- The start of a tag that puts out a value. -/
  | outputStart
  /-- Its end. -/
  | outputEnd
  /-- The start of a tag that holds a statement. -/
  | statementStart
  /-- Its end. -/
  | statementEnd
  /-- A name. -/
  | name (s : String)
  /-- A quoted text. -/
  | text (s : String)
  /-- An integer. -/
  | integer (n : Nat)
  /-- A number with a fraction or an exponent. -/
  | float (x : Binary64)
  /-- A sign. -/
  | sign (s : Sign)
  /-- The end of the template. -/
  | finish
deriving DecidableEq, Repr

namespace Lexeme

/-- What a token is called in messages. -/
def describe : Lexeme → String
  | data _ => "template data / text"
  | outputStart => "begin of print statement"
  | outputEnd => "end of print statement"
  | statementStart => "begin of statement block"
  | statementEnd => "end of statement block"
  | name s => s
  | text _ => "string"
  | integer _ => "integer"
  | float _ => "float"
  | sign s => s.text
  | finish => "end of template"

/-- The text of a name. -/
def name? : Lexeme → Option String
  | name s => some s
  | _ => none

end Lexeme

/-- A token with the number of its line. -/
structure Token where
  /-- The line, from one on. -/
  line : Nat
  /-- What it is. -/
  lexeme : Lexeme
deriving DecidableEq, Repr

/-- The tokens of a template in order. A template that breaks off has the tokens before the place
where it does, and the failure that follows the last of them. -/
structure Tokens where
  /-- The tokens. -/
  tokens : List Token
  /-- What follows them instead of the end. -/
  fault : Option Failure
deriving Repr

namespace Tokens

/-- No token. -/
def none : Tokens := ⟨[], .none⟩

/-- A failure instead of more tokens. -/
def broken (f : Failure) : Tokens := ⟨[], some f⟩

/-- A token before others. -/
def cons (t : Token) (ts : Tokens) : Tokens := { ts with tokens := t :: ts.tokens }

/-- Text outside tags before other tokens, unless it is empty. -/
def data (line : Nat) (s : List Char) (ts : Tokens) : Tokens :=
  if s.isEmpty then ts else cons ⟨line, .data s⟩ ts

@[simp] theorem tokens_cons (t : Token) (ts : Tokens) : (cons t ts).tokens = t :: ts.tokens := rfl
@[simp] theorem fault_cons (t : Token) (ts : Tokens) : (cons t ts).fault = ts.fault := rfl

end Tokens

/-- A template that cannot be read. -/
def malformed (message : String) : Failure := ⟨.template, message⟩

end Playbook.Template
