import Playbook.Template.Reader.Expr

/-!
# Reading templates

A template is texts, values and statements. A statement with a block in it is read together with
the block, which ends at one of the words that the statement looks for.

Main definitions:

- `Template.Reader.block`: what stands up to such a word, or up to the end of the template;
- `Template.Reader.statementOf`: a statement, given the reader of the statements inside it;
- `Template.nodesOf`: the nodes of a template, or what is wrong with it.
-/

namespace Playbook.Template

namespace Reader

/-! ### Blocks -/

/-- Texts and values that stand next to each other, the last one first. -/
def outputOf : List Part → List Node
  | [] => []
  -- Without texts and values there is no node at all.
  | parts => [.output parts.reverse]

/-- What stands up to one of these words, or up to the end. `statement` reads a statement, `pending`
holds the texts and values just read, and the number bounds the number of parts. -/
def parts (statement : Reader Node) (ends : List String) : Nat → List Part → Reader (List Node)
  | 0, _ => exhausted
  | fuel + 1, pending => do
    match ← current with
    | .data s =>
      advance
      parts statement ends fuel (.data s :: pending)
    | .outputStart =>
      advance
      let e ← expressions
      expect .outputEnd
      parts statement ends fuel (.value e :: pending)
    | .statementStart =>
      advance
      -- A word that ends the block is left for the statement around it.
      if (← current).name?.any ends.contains then return outputOf pending
      let node ← statement
      expect .statementEnd
      return outputOf pending ++ node :: (← parts statement ends fuel [])
    | _ => return outputOf pending

/-- The nodes up to one of these words, or up to the end. -/
def nodesUntil (statement : Reader Node) (ends : List String) : Reader (List Node) := do
  parts statement ends ((← get).rest.length + 2) []

/-- The block of a statement, up to one of the words that end it. -/
def block (statement : Reader Node) (ends : List String) : Reader (List Node) := do
  discard <| skipIf (.sign .colon)
  expect .statementEnd
  let outer := (← get).sought
  -- While the block is read, the words that end it are those that are sought.
  modify fun s => { s with sought := ends :: outer }
  let body ← nodesUntil statement ends
  modify fun s => { s with sought := outer }
  if ← sees .finish then failAtEnd ends
  return body

/-- The block of a statement, up to the word that ends it, which is taken. -/
def closedBlock (statement : Reader Node) (last : String) : Reader (List Node) := do
  let body ← block statement [last]
  advance
  return body

/-- Take a word, and say whether it is this one. -/
def takeWord (w : String) : Reader Bool := do
  let found ← seesWord w
  advance
  return found

/-! ### Statements -/

/-- A loop. -/
def loop (statement : Reader Node) : Reader Node := do
  advance
  let target ← assignTarget false ["in"]
  expect (.name "in")
  let source ← tuple (expressionAt .either) ["recursive"] false
  -- After a test the loop may still be told to call itself.
  let test ← if ← skipIf (.name "if") then some <$> expression else pure none
  let recursive ← skipIf (.name "recursive")
  let body ← block statement ["endfor", "else"]
  let otherwise ←
    if ← takeWord "endfor" then pure [] else closedBlock statement "endfor"
  return .loop target source test recursive body otherwise

/-- The test and the block of a branch. -/
def branchArm (statement : Reader Node) : Reader (Expr × List Node) := do
  let test ← tuple (expressionAt .either) [] false
  return (test, ← block statement ["elif", "else", "endif"])

/-- A choice between blocks. -/
def branch (statement : Reader Node) : Reader Node := do
  advance
  let (test, body) ← branchArm statement
  -- The branches are collected with the last one first.
  let others ← repeatFrom [] fun arms => do
    if ← skipIf (.name "elif") then return some ((← branchArm statement) :: arms) else return none
  let otherwise ← if ← takeWord "else" then closedBlock statement "endif" else pure []
  return .branch test body others.reverse otherwise

/-- An assignment of a value or of a block. -/
def assignment (statement : Reader Node) : Reader Node := do
  advance
  let target ← assignTarget true []
  if ← skipIf (.sign .assign) then return .assign target (← expressions)
  else
    -- Without a value it is the block that is assigned, maybe filtered.
    let filter ← filters (bounded ((← get).rest.length + 2)) none
    return .capture target filter (← closedBlock statement "endset")

/-- A block with values of its own. -/
def binding (statement : Reader Node) : Reader Node := do
  advance
  let step (bs : List (Target × Expr)) : Reader (Option (List (Target × Expr))) := do
    if ← sees .statementEnd then return none
    if !bs.isEmpty then expectSign .comma
    let target ← assignTarget false []
    expectSign .assign
    return some ((target, ← expression) :: bs)
  let bs ← repeatFrom [] step
  return .bind bs.reverse (← closedBlock statement "endwith")

/-- A block that is escaped or not. -/
def escaping (statement : Reader Node) : Reader Node := do
  advance
  -- Only one expression is read here.
  let e ← expression
  return .escaped e (← closedBlock statement "endautoescape")

/-- Whether a block holds nothing but blanks. -/
def holdsBlanks (body : List Node) : Bool :=
  body.all fun
    | .output ps => ps.all fun
      | .data s => s.all Unicode.isBlank
      | .value _ => false
    | _ => false

/-- A named block. -/
def namedBlock (statement : Reader Node) : Reader Node := do
  advance
  let name ← expectName
  let seesLocals ← skipIf (.name "scoped")
  let mustFill ← skipIf (.name "required")
  -- A hyphen is read as a minus after the name.
  if ← seesSign .minus then
    fail ("Block names in Jinja have to be valid Python identifiers and may not contain " ++
      "hyphens, use an underscore instead.")
  let body ← closedBlock statement "endblock"
  if mustFill && !holdsBlanks body then
    fail "Required blocks can only contain comments or whitespace"
  -- The name of the block may come again at its end.
  discard <| skipIf (.name name)
  return .block name seesLocals mustFill body

/-- Values to put out. -/
def printing : Reader Node := do
  advance
  let step (items : List Expr) : Reader (Option (List Expr)) := do
    if ← sees .statementEnd then return none
    if !items.isEmpty then expectSign .comma
    return some ((← expression) :: items)
  let items ← repeatFrom [] step
  return .output (items.reverse.map .value)

/-- The definition of a block that can be called. -/
def definition (statement : Reader Node) : Reader Node := do
  advance
  let name ← nameTarget
  let parameters ← signature
  return .definition name parameters (← closedBlock statement "endmacro")

/-- A call that is given a block. -/
def callBlock (statement : Reader Node) : Reader Node := do
  advance
  let parameters ← if ← seesSign .openParen then signature else pure []
  -- Whatever is read here must be a call.
  match ← expression with
  | .call callee plain named more moreNamed =>
    return .callBlock parameters (.call callee plain named more moreNamed)
      (← closedBlock statement "endcall")
  | _ => fail "expected call"

/-- A filtered block. -/
def filterBlock (statement : Reader Node) : Reader Node := do
  advance
  -- The first filter follows the word itself, further ones a bar.
  let sub := bounded ((← get).rest.length + 2)
  let first ← filter sub none
  match ← filters sub (some first) with
  | some e => return .filterBlock e (← closedBlock statement "endfilter")
  | none => exhausted

/-! ### Other templates -/

/-- Whether these two words are at hand, which are then taken. -/
def skipWords (first : List String) (second : String) : Reader Bool := do
  match ← current with
  | .name w =>
    if first.contains w then
      -- The first word is taken only if the second one follows it.
      if (← look) = .name second then
        advance
        advance
        return true
    return false
  | _ => return false

/-- The words that say which names another template sees. -/
def skipContext : Reader Bool := skipWords ["with", "without"] "context"

/-- A template to fill in. -/
def extension : Reader Node := do
  advance
  return .extend (← expression)

/-- A template to put in. -/
def insertion : Reader Node := do
  advance
  let e ← expression
  let optional ← skipWords ["ignore"] "missing"
  discard skipContext
  return .insert e optional

/-- A template whose definitions get a name. -/
def loading : Reader Node := do
  advance
  let e ← expression
  expect (.name "as")
  let name ← nameTarget
  discard skipContext
  return .load e name

/-- A template of which some definitions get names. -/
def loadingNames : Reader Node := do
  advance
  let e ← expression
  expect (.name "import")
  let step (s : List String × Bool) : Reader (Option (List String × Bool)) := do
    let (names, done) := s
    if done then return none
    -- A name that is followed by no comma is the last one.
    if !names.isEmpty then expectSign .comma
    match ← current with
    | .name _ =>
      if ← skipContext then return some (names, true)
      let name ← nameTarget
      if name.startsWith "_" then fail "names starting with an underline can not be imported"
      let alias_ ← if ← skipIf (.name "as") then nameTarget else pure name
      if ← skipContext then return some (alias_ :: names, true)
      return some (alias_ :: names, !(← seesSign .comma))
    | _ => failExpected "name"
  let (names, _) ← repeatFrom ([], false) step
  return .loadNames e names.reverse

/-! ### Whole templates -/

/-- The reader of the statement that starts with a word, given that of the statements inside it. -/
def statementOf? (statement : Reader Node) : String → Option (Reader Node)
  | "for" => some (loop statement)
  | "if" => some (branch statement)
  | "block" => some (namedBlock statement)
  | "extends" => some extension
  | "print" => some printing
  | "macro" => some (definition statement)
  | "include" => some insertion
  | "from" => some loadingNames
  | "import" => some loading
  | "set" => some (assignment statement)
  | "with" => some (binding statement)
  | "autoescape" => some (escaping statement)
  | "call" => some (callBlock statement)
  | "filter" => some (filterBlock statement)
  | _ => none

/-- A statement, given the reader of the statements inside it. -/
def statementOf (statement : Reader Node) : Reader Node := do
  match ← current with
  | .name w =>
    match statementOf? statement w with
    | some r =>
      -- The word is noted as long as the statement is open, for what is said about a missing end.
      let outer := (← get).open_
      modify fun s => { s with open_ := w :: outer }
      let node ← r
      modify fun s => { s with open_ := outer }
      return node
    | none => failUnknownTag w
  | _ => fail "tag name expected"

/-- Statements that are nested no deeper than a number says. -/
def statementWithin : Nat → Reader Node
  | 0 => exhausted
  | depth + 1 => statementOf (statementWithin depth)

/-- All nodes. -/
def template : Reader (List Node) := do
  nodesUntil (statementWithin ((← get).rest.length + 2)) []

end Reader

/-- The nodes of a template. -/
def nodesOf (template : String) : Except Failure (List Node) :=
  Reader.template.read (scan template)

end Playbook.Template
