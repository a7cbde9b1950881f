/-!
# Commands and their help

A command has flags, and it may have commands below it. A flag has several names of one meaning, and
may take a value. How a command is called, and what its flags do, is laid out in lines of a fixed
width.

Main definitions:

- `Flag`, `Command`: what a command line may hold;
- `Command.usage`: how a command is called;
- `Command.help`: what a command and its flags do.
-/

namespace Playbook.CommandLine

/-- A flag of a command. -/
structure Flag (α : Type) where
  /-- Its names, all of which start with a dash. -/
  names : List String
  /-- What its value is called, if it takes one. -/
  value : Option String
  /-- What it does, in words. -/
  help : String
  /-- What it stands for. -/
  meaning : α
deriving Repr

/-- A command. -/
structure Command (α : Type) where
  /-- Its name, after those of the commands above it. -/
  name : String
  /-- What it does, in words. -/
  description : String
  /-- Its flags. -/
  flags : List (Flag α)
  /-- The commands below it, with what they do. -/
  choices : List (String × String)
  /-- A text at the end of its help. -/
  epilog : String
deriving Repr

/-- The width of lines. -/
def lineWidth : Nat := 78

/-- The greatest column at which the help of a flag starts. -/
def helpColumn : Nat := 24

/-! ### Lines -/

/-- Words in lines of a width, as many words a line as fit. -/
def fillAfter (width : Nat) (line : String) : List String → List String
  | [] => [line]
  | w :: rest =>
    if line.length + 1 + w.length ≤ width then fillAfter width (line ++ " " ++ w) rest
    else line :: fillAfter width w rest

/-- Words in lines of a width, as many words a line as fit. -/
def fill (width : Nat) : List String → List String
  | [] => []
  | w :: rest => fillAfter width w rest

/-- Blanks. -/
def blanks (n : Nat) : String := String.ofList (List.replicate n ' ')

/-! ### Usage -/

/-- A name of a flag with the name of its value. -/
def Flag.invocation {α : Type} (f : Flag α) (name : String) : String :=
  name ++ (f.value.map (" " ++ ·)).getD ""

/-- The names of the commands below a command, as one word. -/
def Command.choiceWord {α : Type} (c : Command α) : String :=
  "\x7b" ++ String.intercalate "," (c.choices.map (·.1)) ++ "\x7d"

/-- How a command is called. -/
def Command.usage {α : Type} (c : Command α) : String :=
  let start := "usage: " ++ c.name
  let flags := c.flags.map fun f => "[" ++ f.invocation (f.names.headD "") ++ "]"
  let below := if c.choices.isEmpty then [] else [c.choiceWord, "..."]
  let indent := start.length + 1
  let lines := fill (lineWidth - indent) (flags ++ below)
  start ++ " " ++ String.intercalate ("\n" ++ blanks indent) lines

/-! ### Help -/

/-- Something that is called in some way, with its help. -/
structure HelpItem where
  /-- How far it is indented. -/
  indent : Nat
  /-- How it is called. -/
  label : String
  /-- What it does. -/
  help : String

/-- The lines of an item whose help starts at a column. -/
def HelpItem.lines (i : HelpItem) (column : Nat) : List String :=
  let help := fill (lineWidth - column) (i.help.splitOn " ")
  let label := blanks i.indent ++ i.label
  if label.length + 2 ≤ column then
    match help with
    | [] => [label]
    | first :: rest =>
      (label ++ blanks (column - label.length) ++ first) :: rest.map (blanks column ++ ·)
  else label :: help.map (blanks column ++ ·)

/-- The items of the commands below a command. -/
def Command.choiceItems {α : Type} (c : Command α) : List HelpItem :=
  if c.choices.isEmpty then []
  else ⟨2, c.choiceWord, "Commands"⟩ :: c.choices.map fun (name, help) => ⟨4, name, help⟩

/-- The items of the flags of a command. -/
def Command.flagItems {α : Type} (c : Command α) : List HelpItem :=
  c.flags.map fun f => ⟨2, String.intercalate ", " (f.names.map f.invocation), f.help⟩

/-- The column at which the help of a command's items starts. -/
def Command.column {α : Type} (c : Command α) : Nat :=
  let widths := (c.choiceItems ++ c.flagItems).map fun i => i.indent + i.label.length + 2
  min helpColumn (widths.foldl max 0)

/-- A section of a help, unless it is empty. -/
def section_ (title : String) (column : Nat) (items : List HelpItem) : List String :=
  if items.isEmpty then []
  else [String.intercalate "\n" ((title ++ ":") :: items.flatMap (·.lines column))]

/-- What a command and its flags do. -/
def Command.help {α : Type} (c : Command α) : String :=
  let parts := [c.usage, c.description] ++
    section_ "positional arguments" c.column c.choiceItems ++
    section_ "options" c.column c.flagItems ++
    (if c.epilog = "" then [] else [c.epilog])
  String.intercalate "\n\n" parts ++ "\n"

/-- What is said when a command is called in the wrong way. -/
def Command.refusal {α : Type} (c : Command α) (problem : String) : String :=
  c.usage ++ "\n" ++ c.name ++ ": error: " ++ problem ++ "\n"

end Playbook.CommandLine
