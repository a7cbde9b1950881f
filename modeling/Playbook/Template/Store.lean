import Playbook.Template.Names
import Playbook.Template.Table

/-!
# The store of a running template

While a template runs, a container is a cell of a store: whoever holds its number sees what others
put into it. Frames, too, are kept in the store, since a definition goes on seeing the names around
it. A stream is a cell that says where its items come from and what is made of them; nothing of it
is done before somebody asks for an item.

Main definitions:

- `Template.Cell`, `Template.Store`: containers and other things that change;
- `Template.Flow`, `Template.Plan`, `Template.Stage`: streams before and while they are gone
  through;
- `Template.Scope`: the names around the template;
- `Template.Eval`: computations on a store, which keep the store when they fail.
-/

namespace Playbook.Template

/-! ### Positions -/

/-- A position in something that is gone through. -/
inductive Cursor where
  /-- Items that do not change. -/
  | fixed (rest : List Datum)
  /-- A list from a position on. -/
  | list (r : Ref) (position : Nat)
  /-- A list from the item before a position back to the first. -/
  | listBack (r : Ref) (position : Nat)
  /-- The slots of a mapping from a position on, with the size that the mapping had and the number
  of entries that are still expected. -/
  | slots (v : View) (r : Ref) (position size left : Nat)
  /-- The slots of a mapping from the one before a position back to the first, with the size that
  the mapping had. -/
  | slotsBack (v : View) (r : Ref) (position size : Nat)
  /-- The members of a set that are still to come, with the size that the set had. -/
  | members (r : Ref) (size : Nat) (left : List Datum)
  /-- What a stream still has to give. -/
  | stream (r : Ref)
  /-- Integers in equal steps. -/
  | steps (next step : Int) (left : Nat)
deriving Inhabited

/-! ### Streams -/

/-- What a loop does for each item. -/
structure LoopBody where
  /-- The target of the loop. -/
  target : Target
  /-- The test of its items. -/
  test : Option Expr
  /-- Its block. -/
  body : List Node
  /-- The block for no items. -/
  otherwise : List Node
  /-- The number of the frame around it. -/
  frame : Nat
  /-- The names that a named block sees besides those of the template. -/
  seen : List (String × Datum)
deriving Inhabited

/-- What a stream is to give, as it is asked for. -/
inductive Plan where
  /-- Every item as a filter or an attribute shows it. -/
  | map (i : Inputs)
  /-- The items that pass a test, or that do not, as they are or at an attribute. -/
  | choose (keep byAttribute : Bool) (i : Inputs)
  /-- The items whose keys have not been seen before. -/
  | distinct (exact : Bool) (part : Datum)
  /-- The pairs of a mapping. -/
  | pairs
  /-- The items in rows of a length, of which the last one may be filled up. -/
  | rows (length fill : Datum)
  /-- The items in a number of rows, which may be filled up. -/
  | slices (count fill : Datum)
  /-- The items that pass the test of a loop. -/
  | tested (b : LoopBody)
deriving Inhabited

/-- What a stream does with every item. -/
inductive Stage where
  /-- It gives the item. -/
  | plain
  /-- It gives an attribute of the item, or else another datum. -/
  | part (path : AttributePath) (otherwise : Option Datum)
  /-- It gives what a filter makes of the item. -/
  | filtered (name : Datum) (i : Inputs)
  /-- It gives the item if an attribute passes a test, or if it does not. -/
  | chosen (keep : Bool) (path : AttributePath) (test : Option (Datum × Inputs))
  /-- It gives the item if its key has not been seen before. -/
  | distinct (exact : Bool) (path : AttributePath) (seen : List Datum)
  /-- It gives a row when the row is full. -/
  | rows (length fill : Datum) (row : List Datum)
  /-- It gives the item if the test of a loop holds in a frame. -/
  | tested (b : LoopBody) (frame : Nat)
deriving Inhabited

/-- How far a stream has come. -/
inductive Flow where
  /-- Nothing of a source has been looked at. -/
  | waiting (plan : Plan) (source : Datum)
  /-- It is at a position of its source. -/
  | going (cursor : Cursor) (stage : Stage)
  /-- It is just being asked for an item. -/
  | busy
  /-- It has nothing more to give. -/
  | done
deriving Inhabited

/-! ### Cells -/

/-- The state of a loop as its block can look at it. -/
structure LoopState where
  /-- What the loop goes through. -/
  source : Datum
  /-- Where it is. -/
  cursor : Cursor
  /-- The number of the item at hand, from zero on. -/
  index : Nat
  /-- The item before it. -/
  before : Option Datum
  /-- The item at hand. -/
  current : Option Datum
  /-- The item after it, if it has been looked at. -/
  after : Option Datum
  /-- How many items there are, if they have been counted. -/
  length : Option Nat
  /-- How many calls of itself enclose it. -/
  depth : Nat
  /-- What it does, if it may call itself. -/
  recursion : Option LoopBody
  /-- The values that were last looked at for a change. -/
  changed : Option (List Datum)
deriving Inhabited

/-- A block that can be called. -/
structure Definition where
  /-- Its name. -/
  name : Option String
  /-- Its parameters. -/
  parameters : List Parameter
  /-- The block. -/
  body : List Node
  /-- The names of its frame. -/
  names : Frame
  /-- The number of the frame around it. -/
  frame : Nat
  /-- The names that a named block sees besides those of the template. -/
  seen : List (String × Datum)
  /-- Whether it looks at the block of its call. -/
  takesCaller : Bool
  /-- Whether it looks at further values by name. -/
  takesNamed : Bool
  /-- Whether it looks at further values by position. -/
  takesMore : Bool
deriving Inhabited

/-- The content of a cell. -/
inductive Cell where
  /-- A list. -/
  | list (items : List Datum)
  /-- A mapping. -/
  | map (t : Table)
  /-- A set. -/
  | set (items : List Datum)
  /-- Items that can be gone through once, by the name of the type of the stream. -/
  | stream (type : String) (flow : Flow)
  /-- A loop. -/
  | loop (state : LoopState)
  /-- Fields that can be assigned to. -/
  | fields (entries : List (Datum × Datum))
  /-- Values in turn. -/
  | cycler (items : List Datum) (position : Nat)
  /-- A text from the second time on. -/
  | joiner (separator : Datum) (used : Bool)
  /-- A block that can be called. -/
  | definition (d : Definition)
  /-- The place of a tuple, which has its items with it; `group` says whether these are the key and
  the items of a group. -/
  | place (group : Bool)
deriving Inhabited

/-- The values of the names of a frame; a name without a value is known nevertheless. -/
structure LiveFrame where
  /-- The number of the frame around it. -/
  outer : Option Nat
  /-- The values. -/
  values : List (String × Option Datum)
  /-- The names that are bound in its block. -/
  bound : List String
deriving Inhabited

/-! ### The store -/

/-- The names around a template. -/
structure Scope where
  /-- The value of a name. -/
  find : String → Option Value
  /-- Whether all names are texts. -/
  textual : Bool

/-- The state of a running template. -/
structure Store where
  /-- The cells. -/
  cells : Array Cell
  /-- The frames. -/
  frames : Array LiveFrame
  /-- The names that the template sets outside its blocks. -/
  exports : List (String × Datum)
  /-- The values around the template that have been looked at. -/
  named : List (String × Datum)
  /-- What has been taken over of what bears a mark, by the mark. -/
  marked : List (Nat × Datum)
  /-- What values with marks are now, where that differs from what they were. -/
  current : List (Nat × Value)
  /-- The least number that is no mark yet. -/
  next : Nat
  /-- The tuples of constants, by what they are written as. -/
  constants : List (String × Datum)
deriving Inhabited

/-- A store without cells in which marks start from a number. -/
def Store.empty (current : List (Nat × Value)) (next : Nat) : Store :=
  ⟨#[], #[], [], [], [], current, next, []⟩

/-- How a stream in a cell is asked for its next item. -/
abbrev Puller := Ref → ExceptT Failure (StateM Store) (Option Datum)

/-- A computation on a store that may ask streams for items. -/
abbrev Eval := ReaderT Puller (ExceptT Failure (StateM Store))

namespace Eval

/-- Fail. -/
def fail {α : Type} (f : Failure) : Eval α := throw f

/-- Fail for the type of an operand. -/
def typeFault {α : Type} (message : String) : Eval α := throw (.type message)

/-- Fail for the value of an operand. -/
def valueFault {α : Type} (message : String) : Eval α := throw (.value message)

/-- Fail because something that is not there is used. -/
def missingFault {α : Type} (why : String) : Eval α := throw ⟨.undefined, why⟩

/-- Fail while the template runs. -/
def runFault {α : Type} (message : String) : Eval α := throw ⟨.run, message⟩

/-- The result of a computation that may fail; what it did to the store stays. -/
def attempt {α : Type} (e : Eval α) : Eval (Except Failure α) :=
  fun pull s => let (r, s') := e pull s; (.ok r, s')

/-- The next item of the stream in a cell. -/
def pull (r : Ref) : Eval (Option Datum) := fun pull => pull r

/-- A computation in which streams are asked in a way. -/
def pulling {α : Type} (p : Puller) (e : Eval α) : Eval α := fun _ => e p

/-- A result that is already there. -/
def ofExcept {α : Type} : Except Failure α → Eval α
  | .ok a => pure a
  | .error f => throw f

/-- What is said when calls are nested too deeply. -/
def tooDeep : Failure := ⟨.depth, "maximum recursion depth exceeded"⟩

/-! #### Cells -/

/-- Make a new cell. -/
def alloc (c : Cell) : Eval Datum :=
  modifyGetThe Store fun s =>
    let r := s.cells.size
    (.cell r, { s with cells := s.cells.push c })

/-- The content of a cell. -/
def cell (r : Ref) : Eval Cell := do return ((← getThe Store).cells[r]?).getD default

/-- Change a cell. -/
def setCell (r : Ref) (c : Cell) : Eval Unit :=
  modifyThe Store fun s => { s with cells := s.cells.setIfInBounds r c }

/-- Make a new list. -/
def newList (items : List Datum) : Eval Datum := alloc (.list items)

/-- Make a new mapping. -/
def newMap (t : Table) : Eval Datum := alloc (.map t)

/-- Make a new tuple. All empty tuples are one and the same. -/
def newTuple (items : List Datum) : Eval Datum := do
  if items.isEmpty then return .tuple none []
  -- The cell has nothing in it: it only tells the tuple from others with the same items.
  match ← alloc (.place false) with
  | .cell r => return .tuple (some r) items
  | _ => return .row items

/-- Make a new tuple of the key and the items of a group. -/
def newGroup (key items : Datum) : Eval Datum := do
  match ← alloc (.place true) with
  | .cell r => return .tuple (some r) [key, items]
  | _ => return .row [key, items]

/-- Make a stream of the items of a datum. -/
def newStream (plan : Plan) (source : Datum) : Eval Datum :=
  alloc (.stream "generator" (.waiting plan source))

/-- Make a stream of a type that goes on from a position. -/
def newIterator (type : String) (c : Cursor) : Eval Datum := alloc (.stream type (.going c .plain))

/-- A new mark. -/
def newMark : Eval Nat := modifyGetThe Store fun s => (s.next, { s with next := s.next + 1 })

/-- A scalar with a mark of its own, if a mark matters. -/
def fresh (s : Scalar) : Eval Datum := do
  if s.mark?.isSome then return .scalar (s.withMark (← newMark)) else return .scalar s

/-- The table of the mapping in a cell. -/
def table (r : Ref) : Eval Table := do
  match ← cell r with
  | .map t => return t
  | _ => return .empty

/-- The entries of a mapping in a cell. -/
def entries (r : Ref) : Eval DataEntries := do
  match ← cell r with
  | .map t => return t.entries
  | .fields entries => return entries
  | _ => return []

/-! #### Frames -/

/-- Make a new frame. -/
def newFrame (f : LiveFrame) : Eval Nat :=
  modifyGetThe Store fun s =>
    let n := s.frames.size
    (n, { s with frames := s.frames.push f })

/-- A frame by number. -/
def frame (n : Nat) : Eval LiveFrame := do return ((← getThe Store).frames[n]?).getD default

/-- The number of the frame that knows a name, the given one or one around it; the first number
bounds the search. -/
def ownerOf (name : String) : Nat → Nat → Eval (Option Nat)
  | 0, _ => return none
  | fuel + 1, n => do
    let f ← frame n
    -- A name without a value hides those of the frames around it nevertheless.
    if f.values.any (·.1 == name) then return some n
    match f.outer with
    | some o => ownerOf name fuel o
    | none => return none

/-- The number of the frame that knows a name. -/
def owner? (n : Nat) (name : String) : Eval (Option Nat) := do
  ownerOf name ((← getThe Store).frames.size + 1) n

/-- Replace the value of a name in a list. -/
def put (name : String) (d : Option Datum) : List (String × Option Datum) →
    List (String × Option Datum)
  | [] => [(name, d)]
  | (n, v) :: rest => if n = name then (n, d) :: rest else (n, v) :: put name d rest

/-- Set a name in a frame. -/
def setIn (n : Nat) (name : String) (d : Option Datum) : Eval Unit := do
  let f ← frame n
  modifyThe Store fun s =>
    { s with frames := s.frames.setIfInBounds n { f with values := put name d f.values } }

/-- The value of a name in a frame or in one around it; the outer `none` says that no frame knows
the name. -/
def valueIn (n : Nat) (name : String) : Eval (Option (Option Datum)) := do
  match ← owner? n name with
  | some o => return (← frame o).values.lookup name
  | none => return none

/-- The names that a frame and those around it know; the first number bounds the search. -/
def knownFrom : Nat → Nat → Eval (List String)
  | 0, _ => return []
  | fuel + 1, n => do
    let f ← frame n
    let here := f.values.map (·.1)
    match f.outer with
    | some o => return here ++ (← knownFrom fuel o)
    | none => return here

/-- The names that a frame and those around it know. -/
def knownIn (n : Nat) : Eval (List String) := do
  knownFrom ((← getThe Store).frames.size + 1) n

end Eval

/-! ### Types -/

/-- The name of the type of a cell. -/
def Cell.typeName : Cell → String
  | .list _ => "list"
  | .map _ => "dict"
  | .set _ => "set"
  | .stream type _ => type
  | .loop _ => "LoopContext"
  | .fields _ => "Namespace"
  | .cycler _ _ => "Cycler"
  | .joiner _ _ => "Joiner"
  | .definition _ => "Macro"
  | .place group => if group then "_GroupTuple" else "tuple"

/-- The module in which the type of a cell is defined; empty if every program has the type. -/
def Cell.module : Cell → String
  | .loop _ | .definition _ => "jinja2.runtime."
  | .fields _ | .cycler _ _ | .joiner _ _ => "jinja2.utils."
  | .place true => "jinja2.filters."
  | _ => ""

namespace Datum

/-- The name of the type of a datum, with that of the module for days and times. -/
def typeName (d : Datum) : Eval String :=
  match d with
  | .scalar s => return s.qualifiedTypeName
  | .tuple none _ => return "tuple"
  | .tuple (some r) _ => return (← Eval.cell r).typeName
  | .cell r => return (← Eval.cell r).typeName
  | .missing _ => return "Undefined"
  | .range .. => return "range"
  | .known .lipsum => return "function"
  | .known _ => return "type"
  | .method .. => return "builtin_function_or_method"
  | .view v _ => return v.typeName
  | .span _ => return "datetime.timedelta"
  | .blocks _ => return "TemplateReference"
  | .block .. => return "BlockReference"
  | .thing type _ _ => return type

/-- The name of the type of a datum, with that of the module in which it is defined. -/
def className (d : Datum) : Eval String := do
  match d with
  | .missing _ | .blocks _ | .block .. => return "jinja2.runtime." ++ (← d.typeName)
  | .cell r | .tuple (some r) _ => return (← Eval.cell r).module ++ (← d.typeName)
  | _ => d.typeName

/-- What the parts of a datum are said to be missing from. -/
def description (d : Datum) : Eval String := do
  match d with
  | .null => return "None"
  | _ => return (← d.className) ++ " object"

/-- Whether a datum counts as true. -/
def isTrue (d : Datum) : Eval Bool := do
  match d with
  | .scalar s => return s.isTrue
  | .tuple _ items => return !items.isEmpty
  | .missing _ => return false
  | .range start stop step => return if 0 < step then start < stop else stop < start
  | .view _ r => return decide (0 < (← Eval.table r).size)
  | .span s => return s.micros != 0
  | .cell r =>
    match ← Eval.cell r with
    | .list items | .set items => return !items.isEmpty
    | .map t => return decide (0 < t.size)
    | _ => return true
  | _ => return true

end Datum

end Playbook.Template
