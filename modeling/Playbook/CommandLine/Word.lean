import Playbook.CommandLine.Command
import Playbook.Text.Literal
import Playbook.Unicode.Char

/-!
# Words of a command line

A word of a command line is a flag, perhaps with a value attached, or an argument. A long flag may
be shortened as long as one name starts that way, and short flags without values may be written in
one word. After the word `--` all words are arguments.

Main definitions:

- `Word`, `Command.words`: the words of a command line, unless one is ambiguous;
- `Reading`, `Command.read`: the flags of words with their values, up to the first argument if a
  command is looked for, and what is left over.
-/

namespace Playbook.CommandLine

variable {α : Type}

/-- A word of a command line. -/
inductive Word (α : Type) where
  /-- An argument. -/
  | plain (text : String)
  /-- The word after which all words are arguments. -/
  | separator
  /-- A flag by one of its names, with what is attached to it. -/
  | flag (source : String) (f : Flag α) (short : Bool) (attached : Option (List Char))
  /-- A word that starts like a flag. -/
  | unknown (text : String)

/-- A word as it was written. -/
def Word.source : Word α → String
  | plain s => s
  | separator => "--"
  | flag s _ _ _ => s
  | unknown s => s

/-! ### Telling words apart -/

/-- The names of flags with their flags. -/
def Command.names (c : Command α) : List (String × Flag α) :=
  c.flags.flatMap fun f => f.names.map fun n => (n, f)

/-- The flag of a name. -/
def Command.flag? (c : Command α) (name : String) : Option (Flag α) :=
  c.names.lookup name

/-- Whether a name is short: one dash and a letter. -/
def isShort (name : String) : Bool :=
  match name.toList with
  | ['-', c] => c != '-'
  | _ => false

/-- Whether characters are digits, at least one. -/
def areDigits (cs : List Char) : Bool := !cs.isEmpty && cs.all Unicode.isDecimal

/-- Whether a word is a negative number; a line feed may follow it. -/
def isNegativeNumber (cs : List Char) : Bool :=
  let cs := if cs.getLast? = some '\n' then cs.dropLast else cs
  match cs with
  | '-' :: ds =>
    areDigits ds || (match ds.dropWhile Unicode.isDecimal with
      | '.' :: rest => areDigits rest
      | _ => false)
  | _ => false

/-- The part of a word before its first `=` and the part after it. -/
def splitValue (cs : List Char) : List Char × Option (List Char) :=
  match cs.dropWhile (· ≠ '=') with
  | [] => (cs, none)
  | _ :: after => (cs.takeWhile (· ≠ '='), some after)

/-- The flags that a shortened word can stand for, by the name each is known by. -/
def Command.candidates (c : Command α) (cs : List Char) :
    List (String × Flag α × Option (List Char)) :=
  match cs with
  | '-' :: '-' :: _ =>
    let (stem, attached) := splitValue cs
    (c.names.filter fun (n, _) => stem.isPrefixOf n.toList).map fun (n, f) => (n, f, attached)
  | d :: x :: attached =>
    (c.names.filter fun (n, _) => n = String.ofList [d, x]).map fun (n, f) => (n, f, some attached)
  | _ => []

/-- What a word that starts with a dash is. -/
def Command.dashed (c : Command α) (s : String) : Except String (Word α) :=
  let cs := s.toList
  let (stem, attached) := splitValue cs
  let name := String.ofList stem
  match c.flag? s, attached.bind fun _ => c.flag? name with
  | some f, _ => .ok (.flag s f (isShort s) none)
  | none, some f => .ok (.flag s f (isShort name) attached)
  | none, none =>
    match c.candidates cs with
    | [(n, f, attached)] => .ok (.flag s f (isShort n) attached)
    | [] => .ok (if isNegativeNumber cs || cs.contains ' ' then .plain s else .unknown s)
    | several =>
      .error ("ambiguous option: " ++ s ++ " could match " ++
        String.intercalate ", " (several.map (·.1)))

/-- What a word is. -/
def Command.word (c : Command α) (s : String) : Except String (Word α) :=
  match s.toList with
  | ['-'] => .ok (.plain s)
  | '-' :: _ => c.dashed s
  | _ => .ok (.plain s)

/-- The words of a command line, unless one is ambiguous. -/
def Command.words (c : Command α) : List String → Except String (List (Word α))
  | [] => .ok []
  | s :: rest =>
    if s = "--" then .ok (.separator :: rest.map .plain)
    else do
      let w ← c.word s
      return w :: (← c.words rest)

/-! ### Reading flags -/

/-- What was wrong with a flag. -/
def Flag.complaint (f : Flag α) (problem : String) : String :=
  "argument " ++ String.intercalate "/" f.names ++ ": " ++ problem

/-- What is said when a flag without a value is given one. -/
def Flag.ignored (f : Flag α) (attached : List Char) : String :=
  f.complaint ("ignored explicit argument " ++ Literal.text (String.ofList attached))

/-- The flags of one word with their values. The last of them may have to look for its value in the
words to come. -/
def Command.cluster (c : Command α) (f : Flag α) (short : Bool) :
    List Char → Except String (List (α × String) × Option (Flag α))
  | [] => if f.value.isSome then .ok ([(f.meaning, "")], none) else .error (f.ignored [])
  | x :: rest =>
    if f.value.isSome then .ok ([(f.meaning, String.ofList (x :: rest))], none)
    else
      match if short then c.flag? (String.ofList ['-', x]) else none with
      | none => .error (f.ignored (x :: rest))
      | some g =>
        if rest.isEmpty then .ok ([(f.meaning, "")], some g)
        else do
          let (values, last) ← c.cluster g true rest
          return ((f.meaning, "") :: values, last)

/-- What has been read of a command line. -/
structure Reading (α : Type) where
  /-- What the flags stand for, in order, with their values. -/
  flags : List (α × String)
  /-- The words that nothing has used. -/
  extras : List String
  /-- The words from the first argument on, if it names a command. -/
  rest : List String
  /-- What was wrong with a flag; the flags before it have been read. -/
  problem : Option String
deriving Repr

namespace Reading

/-- Nothing has been read. -/
def empty : Reading α := ⟨[], [], [], none⟩

/-- Flags have been read before. -/
def withFlags (fs : List (α × String)) (r : Reading α) : Reading α :=
  { r with flags := fs ++ r.flags }

/-- A word has been left over before. -/
def withExtra (s : String) (r : Reading α) : Reading α := { r with extras := s :: r.extras }

/-- A flag is wrong. -/
def wrong (problem : String) : Reading α := ⟨[], [], [], some problem⟩

end Reading

/-- The flags of a word, as far as the word alone says it. -/
def Command.heads (c : Command α) (f : Flag α) (short : Bool) :
    Option (List Char) → Except String (List (α × String) × Option (Flag α))
  | none => .ok ([], some f)
  | some attached => c.cluster f short attached

/-- Read words. If there are commands below this one, reading stops at the first argument. -/
def Command.read (c : Command α) : List (Word α) → Reading α
  | [] => .empty
  | .plain s :: rest =>
    if c.choices.isEmpty then (c.read rest).withExtra s
    else { Reading.empty with rest := s :: rest.map Word.source }
  | .separator :: rest =>
    if c.choices.isEmpty || rest.isEmpty then (c.read rest).withExtra "--"
    else { Reading.empty with rest := "--" :: rest.map Word.source }
  | .unknown s :: rest => (c.read rest).withExtra s
  | .flag _ f short attached :: rest =>
    match c.heads f short attached with
    | .error problem => .wrong problem
    | .ok (values, none) => (c.read rest).withFlags values
    | .ok (values, some g) =>
      if g.value.isNone then (c.read rest).withFlags (values ++ [(g.meaning, "")])
      else
        match rest with
        | .plain s :: rest => (c.read rest).withFlags (values ++ [(g.meaning, s)])
        | _ => .wrong (g.complaint "expected one argument")

end Playbook.CommandLine
