import Playbook.Template.Syntax
import Playbook.Template.Token.Scan

/-!
# Reading tokens of templates

A reader takes the tokens of a template one by one and fails with a sentence about the first token
that does not fit. A template whose tokens break off fails when the reader gets there.

Main definitions:

- `Template.Reader`: readers; `Template.TokenStream`, their state;
- `Template.Reader.advance`, `Template.Reader.expect`: taking tokens;
- `Template.Reader.failUnknownTag`, `Template.Reader.failAtEnd`: what is missing in a statement.
-/

namespace Playbook.Template

/-- The tokens still to be read, and the statements that enclose them. -/
structure TokenStream where
  /-- The token at hand. -/
  current : Token
  /-- The tokens after it. -/
  rest : List Token
  /-- What follows them instead of the end. -/
  fault : Option Failure
  /-- The words of the statements that are being read, the innermost first. -/
  open_ : List String
  /-- The words that end the blocks that are being read, the innermost first. -/
  sought : List (List String)
deriving Repr

/-- A computation that takes tokens. -/
abbrev Reader := StateT TokenStream (Except Failure)

namespace Reader

/-- Break the template off with a sentence. -/
def fail {α : Type} (message : String) : Reader α := throw (malformed message)

/-- A text between single quotes. -/
def quoted (s : String) : String := "'" ++ s ++ "'"

/-- The token at hand. -/
def current : Reader Lexeme := do return (← get).current.lexeme

/-- The line of the token at hand. -/
def line : Reader Nat := do return (← get).current.line

/-- Go to the next token. -/
def advance : Reader Unit := do
  let s ← get
  match s.rest, s.fault with
  | t :: rest, _ => set { s with current := t, rest := rest }
  | [], some f => if s.current.lexeme = .finish then pure () else throw f
  | [], none => set { s with current := ⟨s.current.line, .finish⟩ }

/-- The token after the one at hand. -/
def look : Reader Lexeme := do
  let s ← get
  match s.rest, s.fault with
  | t :: _, _ => pure t.lexeme
  | [], some f => throw f
  | [], none => pure .finish

/-- Whether the token at hand is this one. -/
def sees (l : Lexeme) : Reader Bool := do return (← current) == l

/-- Whether the token at hand is this sign. -/
def seesSign (s : Sign) : Reader Bool := sees (.sign s)

/-- Whether the token at hand is this word. -/
def seesWord (w : String) : Reader Bool := sees (.name w)

/-- Take this token if it is at hand. -/
def skipIf (l : Lexeme) : Reader Bool := do
  if ← sees l then
    advance
    return true
  else return false

/-- The failure of finding another token than an expected one. -/
def failExpected {α : Type} (expected : String) : Reader α := do
  match ← current with
  | .finish => fail ("unexpected end of template, expected " ++ quoted expected ++ ".")
  | l => fail ("expected token " ++ quoted expected ++ ", got " ++ quoted l.describe)

/-- Take this token. -/
def expect (l : Lexeme) : Reader Unit := do
  if ← sees l then advance else failExpected l.describe

/-- Take this sign. -/
def expectSign (s : Sign) : Reader Unit := expect (.sign s)

/-- Take a name. -/
def expectName : Reader String := do
  match ← current with
  | .name s =>
    advance
    return s
  | _ => failExpected "name"

/-- Repeat a step that makes a new value of an old one until it makes none. The number bounds the
repetitions. -/
def iterate {α : Type} (step : α → Reader (Option α)) : Nat → α → Reader α
  | 0, a => pure a
  | fuel + 1, a => do
    match ← step a with
    | some b => iterate step fuel b
    | none => pure a

/-- Repeat a step until it makes no new value; every repetition takes a token. -/
def repeatFrom {α : Type} (a : α) (step : α → Reader (Option α)) : Reader α := do
  iterate step ((← get).rest.length + 2) a

/-- What a bounded reader says when it runs out of bounds, which are wide enough for all tokens. -/
def exhausted {α : Type} : Reader α := throw ⟨.depth, "maximum recursion depth exceeded"⟩

/-! ### Words of statements -/

/-- Words between quotes, as alternatives. -/
def alternatives (words : List String) : String := String.intercalate " or " (words.map quoted)

/-- What is said when a word ends no block, or a template ends inside one. -/
def failMisplaced {α : Type} (word : Option String) (sought : List (List String)) : Reader α := do
  let opening := match word with
    | none => "Unexpected end of template."
    | some w => "Encountered unknown tag " ++ quoted w ++ "."
  let looking := match sought with
    | words :: _ =>
      if word.any fun w => sought.any (·.contains w) then
        [ "You probably made a nesting mistake. Jinja is expecting this tag, but currently " ++
          "looking for " ++ alternatives words ++ "." ]
      else ["Jinja was looking for the following tags: " ++ alternatives words ++ "."]
    | [] => []
  let innermost := match (← get).open_ with
    | w :: _ => ["The innermost block that needs to be closed is " ++ quoted w ++ "."]
    | [] => []
  fail (String.intercalate " " (opening :: looking ++ innermost))

/-- A statement with a word that starts none. -/
def failUnknownTag {α : Type} (word : String) : Reader α := do
  failMisplaced (some word) (← get).sought

/-- The end of the template inside a block that these words end. -/
def failAtEnd {α : Type} (words : List String) : Reader α := do
  failMisplaced none (words :: (← get).sought)

/-! ### Running readers -/

/-- The state before the first token. -/
def start (ts : Tokens) : TokenStream := ⟨⟨1, .outputEnd⟩, ts.tokens, ts.fault, [], []⟩

/-- What a reader makes of the tokens of a template, from the first one on. -/
def read {α : Type} (r : Reader α) (ts : Tokens) : Except Failure α :=
  (advance *> r).run' (start ts)

end Reader

end Playbook.Template
