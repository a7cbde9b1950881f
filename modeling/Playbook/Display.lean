import Playbook.Value.Print
import Playbook.Trace

/-!
# Messages

Messages for the person who runs the program. A message has a level, and it is shown if the
listener's verbosity reaches that level. On a terminal that can show colours the most talkative
messages are dim, warnings yellow and errors red.

Main definitions:

- `Environment`: the variables that decide whether there is colour; `Stream.supportsColor`;
- `Display`, with `Display.tell`, `Display.trace`, `Display.warn` and `Display.complain`;
- `Display.log`: what a run lets a listener see.
-/

namespace Playbook

/-- Variables of the environment, of which later ones hide earlier ones of the same name. -/
abbrev Environment := List (String × String)

namespace Environment

/-- The value of a variable; empty if it is not set. -/
def get (env : Environment) (name : String) : String := (env.reverse.lookup name).getD ""

end Environment

/-- What messages are written to. -/
inductive Stream where
  /-- A terminal. -/
  | terminal
  /-- A pipe or a file. -/
  | pipe
  /-- Something that does not say what it is. -/
  | bare
deriving DecidableEq, Repr

namespace Stream

/-- Whether a stream is known to be a terminal. -/
def isTerminal (s : Stream) : Bool := s == .terminal

/-- Whether a stream shows colours. The environment can forbid it or insist on it, and knows whether
the terminal is too simple. -/
def supportsColor (s : Stream) (env : Environment) : Bool :=
  if env.get "NO_COLOR" ≠ "" then false
  else if env.get "FORCE_COLOR" ≠ "" then true
  else s.isTerminal && env.get "TERM" != "dumb"

end Stream

/-! ### Colours -/

/-- The codes that change how a terminal shows text. -/
inductive Colour where
  /-- Back to normal. -/
  | reset
  /-- Bold. -/
  | bold
  /-- Dim. -/
  | dim
  /-- Bright red. -/
  | red
  /-- Bright yellow. -/
  | yellow
deriving DecidableEq, Repr

/-- The text of a code. -/
def Colour.code : Colour → String
  | reset => "\x1b[0m"
  | bold => "\x1b[1m"
  | dim => "\x1b[2m"
  | red => "\x1b[91m"
  | yellow => "\x1b[93m"

/-! ### Display -/

/-- A listener: how much he wants to hear, and whether he sees colours. -/
structure Display where
  /-- The greatest level of messages that are shown. -/
  verbosity : Int
  /-- Whether colours are shown. -/
  color : Bool
deriving Repr

namespace Display

/-- A text in some colours. -/
def paint (d : Display) (codes : List Colour) (text : String) : String :=
  if d.color then String.join (codes.map Colour.code) ++ text ++ Colour.reset.code else text

/-- A line with a message of a level, if the listener wants to hear it. -/
def tell (d : Display) (level : Int) (message : String) : String :=
  if level ≤ d.verbosity then message ++ "\n" else ""

/-- A line with a message of the third level. -/
def trace (d : Display) (message : String) : String := d.tell 3 (d.paint [.dim] message)

/-- A line with a message of the third level that may be no text; only texts can be painted. -/
def traceValue (d : Display) (message : Value) : Except Failure String :=
  match message with
  | .str s => .ok (d.trace s)
  | v =>
    if d.color then
      .error (.type ("can only concatenate str (not \"" ++ v.typeName ++ "\") to str"))
    else (v.text?).map d.trace

/-- A line with a warning. -/
def warn (d : Display) (message : String) : String :=
  d.paint [.yellow] ("[WARNING]: " ++ message) ++ "\n"

/-- A line with an error. -/
def complain (d : Display) (message : String) : String :=
  d.paint [.red, .bold] ("ERROR: " ++ message) ++ "\n"

/-- What a step of a trace lets a listener see. -/
def line (d : Display) : Event → String
  | .opened _ => ""
  | .told level text => if level = 3 then d.trace text else d.tell level text

/-- What a run lets a listener see. -/
def log {α : Type} (d : Display) (x : Run α) : String := String.join (x.events.map d.line)

end Display

end Playbook
