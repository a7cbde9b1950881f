import Playbook.Template.Token.Literal

/-!
# Tokens of a text

A template is cut into text and tags, and every tag into names, literals and signs. A minus sign at
the edge of a tag takes away the blanks next to it. Between the tags `raw` and `endraw` nothing is
a tag.

Main definitions:

- `Template.splitAtTag`: the text before the first tag, and how that tag begins;
- `Template.scan`: the tokens of a template.
-/

namespace Playbook.Template

/-! ### Line ends -/

/-- A text in which every line end is a line feed. -/
def normalizeLines : List Char → List Char
  | [] => []
  | '\r' :: '\n' :: rest => '\n' :: normalizeLines rest
  | '\r' :: rest => '\n' :: normalizeLines rest
  | c :: rest => c :: normalizeLines rest

/-! ### Edges of tags -/

/-- The sign at the inner edge of a tag. -/
inductive Edge where
  /-- Blanks next to the tag stay. -/
  | keep
  /-- Blanks next to the tag are taken away. -/
  | trim
deriving DecidableEq, Repr

/-- The sign at the start of a tag, and the characters after it. -/
def edge : List Char → Edge × List Char
  | '-' :: rest => (.trim, rest)
  | '+' :: rest => (.keep, rest)
  | rest => (.keep, rest)

/-- A text without the blanks at its end. -/
def trimEnd (s : List Char) : List Char := (s.reverse.dropWhile Unicode.isBlank).reverse

/-- A text before a tag. -/
def Edge.trimBefore (e : Edge) (s : List Char) : List Char :=
  match e with
  | .keep => s
  | .trim => trimEnd s

/-- A text without the blanks at its start. -/
def skipBlanks (s : List Char) : List Char := s.dropWhile Unicode.isBlank

/-- The characters after an expected text. -/
def after? : List Char → List Char → Option (List Char)
  | [], s => some s
  | _ :: _, [] => none
  | c :: expected, d :: rest => if c = d then after? expected rest else none

/-- The characters after the end of a tag with two given characters: a minus sign before them takes
away the blanks behind the tag, and a plus sign, where it may stand, does nothing. -/
def tagEnd? (a b : Char) (plus : Bool) (s : List Char) : Option (List Char) :=
  match s with
  -- Only a minus takes away the blanks behind the tag.
  | '-' :: rest => (after? [a, b] rest).map skipBlanks
  | '+' :: rest => if plus then after? [a, b] rest else none
  | s => after? [a, b] s

/-! ### Starts of tags -/

/-- What a tag is for. -/
inductive TagKind where
  /-- To put out a value. -/
  | output
  /-- To hold a statement. -/
  | statement
  /-- To hold a remark. -/
  | comment
  /-- To start a stretch without tags. -/
  | raw
deriving DecidableEq, Repr

/-- The characters after the rest of a tag that starts a stretch without tags. -/
def rawTag? (s : List Char) : Option (List Char) := do
  let s ← after? ['r', 'a', 'w'] (skipBlanks s)
  tagEnd? '%' '\x7d' false (skipBlanks s)

/-- The tag that starts at a place: its kind, the sign at its edge, and the characters after. -/
def tagStart? : List Char → Option (TagKind × Edge × List Char)
  | '\x7b' :: '\x7b' :: rest => let (e, after) := edge rest; some (.output, e, after)
  | '\x7b' :: '#' :: rest => let (e, after) := edge rest; some (.comment, e, after)
  | '\x7b' :: '%' :: rest =>
    let (e, after) := edge rest
    -- A statement whose only word is this one starts a stretch without tags.
    match rawTag? after with
    | some body => some (.raw, e, body)
    | none => some (.statement, e, after)
  | _ => none

/-- The characters before the first tag, and how that tag begins. -/
def splitAtTag : List Char → List Char × Option (TagKind × Edge × List Char)
  | [] => ([], none)
  | c :: rest =>
    -- The place is tried as the start of a tag before its character is taken for text.
    match tagStart? (c :: rest) with
    | some tag => ([], some tag)
    | none =>
      let (before, tag) := splitAtTag rest
      (c :: before, tag)

/-! ### Remarks and stretches without tags -/

/-- The characters after a remark. -/
def commentEnd? : List Char → Option (List Char)
  | [] => none
  -- The first place at which the remark can end is where it ends.
  | c :: rest => (tagEnd? '#' '\x7d' true (c :: rest)).or (commentEnd? rest)

/-- The tag that ends a stretch without tags: the sign at its edge and the characters after it. -/
def endRawTag? (s : List Char) : Option (Edge × List Char) := do
  let s ← after? ['\x7b', '%'] s
  let (e, s) := edge s
  let s ← after? ['e', 'n', 'd', 'r', 'a', 'w'] (skipBlanks s)
  let s ← tagEnd? '%' '\x7d' true (skipBlanks s)
  return (e, s)

/-- The characters of a stretch without tags, the sign at the edge of the tag that ends it, and the
characters after that tag. -/
def rawBody? : List Char → Option (List Char × Edge × List Char)
  | [] => none
  | c :: rest =>
    -- The sign at the edge belongs to the text before the tag.
    match endRawTag? (c :: rest) with
    | some (e, after) => some ([], e, after)
    | none => (rawBody? rest).map fun (body, e, after) => (c :: body, e, after)

/-- The text of a stretch without tags, and the characters after the tag that ends it. -/
def rawText? (s : List Char) : Option (List Char × List Char) :=
  (rawBody? s).map fun (body, e, after) => (e.trimBefore body, after)

/-! ### Inside tags -/

/-- Whether a character may stand in a name. -/
def isNameChar (c : Char) : Bool := Unicode.isWord c || Unicode.isIdentifierPart c

/-- What is found at a place inside a tag. -/
inductive Found where
  /-- Blanks. -/
  | blanks
  /-- A token. -/
  | lexeme (l : Lexeme)
  /-- Something that breaks the template off. -/
  | fault (f : Failure)

/-- What is found at a place that is not after a point and not the end, and the characters after
it. -/
def foundAt (afterDot : Bool) (cs : List Char) : Option (Found × List Char) :=
  match cs with
  | [] => none
  | c :: rest =>
    if Unicode.isBlank c then some (.blanks, skipBlanks rest)
    else
      -- A number is tried before a name, and a fraction before an integer. After a point there is
      -- no fraction, as in `a.0.1`.
      match (if afterDot then none else float? cs), integer? cs with
      | some (.ok x, after), _ => some (.lexeme (.float x), after)
      | some (.error f, after), _ => some (.fault f, after)
      | none, some (.ok n, after) => some (.lexeme (.integer n), after)
      | none, some (.error f, after) => some (.fault f, after)
      | none, none =>
        if isNameChar c then
          let name := cs.takeWhile isNameChar
          let after := cs.dropWhile isNameChar
          if Unicode.isIdentifier name then some (.lexeme (.name (String.ofList name)), after)
          else some (.fault (malformed "Invalid character in identifier"), after)
        else
          match quoted? cs with
          | some (body, after) =>
            match unescape body with
            | .ok s => some (.lexeme (.text (String.ofList s)), after)
            | .error f => some (.fault f, after)
          | none =>
            match rest with
            | d :: more =>
              -- Of two signs the longer one is taken.
              match Sign.ofPair? c d, Sign.ofChar? c with
              | some s, _ => some (.lexeme (.sign s), more)
              | none, some s => some (.lexeme (.sign s), rest)
              | none, none => none
            | [] => (Sign.ofChar? c).map fun s => (.lexeme (.sign s), rest)

/-- The signs that are still to be closed after a sign; a failure if it closes another one. -/
def balance (open_ : List Sign) (s : Sign) : Except Failure (List Sign) :=
  match s.closing? with
  | some closing => .ok (closing :: open_)
  | none =>
    -- A sign that closes must close the one that was opened last.
    if s.isClosing then
      match open_ with
      | [] => .error (malformed ("unexpected '" ++ s.text ++ "'"))
      | expected :: rest =>
        if expected = s then .ok rest
        else
          .error (malformed ("unexpected '" ++ s.text ++ "', expected '" ++ expected.text ++ "'"))
    else .ok open_

/-! ### Whole templates -/

/-- The kinds of tags with tokens in them. -/
inductive TagBody where
  /-- A tag that puts out a value. -/
  | output
  /-- A tag that holds a statement. -/
  | statement
deriving DecidableEq, Repr

namespace TagBody

/-- The token a tag starts with. -/
def first : TagBody → Lexeme
  | output => .outputStart
  | statement => .statementStart

/-- The token a tag ends with. -/
def last : TagBody → Lexeme
  | output => .outputEnd
  | statement => .statementEnd

/-- The characters after the end of a tag, if it ends at a place. -/
def end? : TagBody → List Char → Option (List Char)
  | output, s => tagEnd? '\x7d' '\x7d' false s
  | statement, s => tagEnd? '%' '\x7d' true s

end TagBody

/-- The line after some characters of a longer text whose rest follows. -/
def lineAfter (line : Nat) (longer rest : List Char) : Nat :=
  line + (longer.take (longer.length - rest.length)).count '\n'

mutual

/-- The tokens from a place outside tags on. `size` is the length of the whole template, and the
last number bounds the number of steps. -/
def scanText (size line : Nat) (cs : List Char) : Nat → Tokens
  | 0 => .none
  | fuel + 1 =>
    match splitAtTag cs with
    | (text, none) => Tokens.data line text .none
    | (text, some (kind, e, after)) =>
      -- A tag counts for the line it starts on, and what is in it for the line after its start.
      let start := lineAfter line cs (cs.drop text.length)
      let line' := lineAfter line cs after
      Tokens.data line (e.trimBefore text) <|
        match kind with
        | .output =>
          .cons ⟨start, .outputStart⟩ (scanTag size line' .output [] false after fuel)
        | .statement =>
          .cons ⟨start, .statementStart⟩ (scanTag size line' .statement [] false after fuel)
        | .comment =>
          match commentEnd? after with
          | some rest => scanText size (lineAfter line' after rest) rest fuel
          | none =>
            -- A template that ends right after the start of a tag has no error.
            if after.isEmpty then .none else .broken (malformed "Missing end of comment tag")
        | .raw =>
          match rawText? after with
          | some (body, rest) =>
            Tokens.data line' body (scanText size (lineAfter line' after rest) rest fuel)
          | none =>
            if after.isEmpty then .none else .broken (malformed "Missing end of raw directive")

/-- The tokens from a place inside a tag on. -/
def scanTag (size line : Nat) (kind : TagBody) (open_ : List Sign) (afterDot : Bool)
    (cs : List Char) : Nat → Tokens
  | 0 => .none
  | fuel + 1 =>
    -- Inside of parentheses and brackets no end is looked for.
    match (if open_.isEmpty then kind.end? cs else none) with
    | some rest => .cons ⟨line, kind.last⟩ (scanText size (lineAfter line cs rest) rest fuel)
    | none =>
      match foundAt afterDot cs with
      | none =>
        match cs with
        -- The end of the text is none of a tag, which is noticed when the tokens are read.
        | [] => .none
        | c :: _ =>
          .broken (malformed ("unexpected char " ++ Literal.text (String.singleton c) ++ " at " ++
            toString (size - cs.length)))
      | some (.fault f, _) => .broken f
      | some (.blanks, rest) =>
        scanTag size (lineAfter line cs rest) kind open_ false rest fuel
      | some (.lexeme (.sign s), rest) =>
        match balance open_ s with
        | .error f => .broken f
        | .ok open_ => .cons ⟨line, .sign s⟩ (scanTag size line kind open_ (s == .dot) rest fuel)
      | some (.lexeme l, rest) =>
        .cons ⟨line, l⟩ (scanTag size (lineAfter line cs rest) kind open_ false rest fuel)

end

/-- The tokens of a template. -/
def scan (template : String) : Tokens :=
  let cs := normalizeLines template.toList
  scanText cs.length 1 cs (cs.length + 1)

end Playbook.Template
