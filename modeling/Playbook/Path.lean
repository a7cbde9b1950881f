/-!
# Paths

Paths are texts whose components stand between slashes. Joining, cutting and normalising are done on
the text alone; only `Path.absolute` needs to know a working directory.

Main definitions:

- `Path.components`, `Path.ofComponents`: a path as a list of components and back;
- `Path.join`, `Path.parent`, `Path.name`: a path inside a folder, and the two parts of a path;
- `Path.normalize`: the shortest spelling without looking at files;
- `Path.absolute`: the normal form that names a file from anywhere;
- `Path.tidy`: the spelling without empty components and single dots.
-/

namespace Playbook

namespace Path

/-! ### Components -/

/-- Split at slashes. -/
def components : List Char → List (List Char)
  | [] => [[]]
  | c :: rest =>
    if c = '/' then [] :: components rest
    else
      match components rest with
      | [] => [[c]]
      | first :: more => (c :: first) :: more

/-- Components with slashes between them. -/
def ofComponents (parts : List (List Char)) : List Char := List.intercalate ['/'] parts

/-- The component for the folder itself. -/
def here : List Char := ['.']

/-- The component for the folder above. -/
def up : List Char := ['.', '.']

/-! ### Joining and cutting -/

/-- Whether a path starts at the root. -/
def isAbsolute (p : String) : Bool := p.toList.head? == some '/'

/-- A path inside a folder; an absolute path stays as it is. -/
def join (folder path : String) : String :=
  if isAbsolute path then path
  else if folder.toList.getLast?.all (· == '/') then folder ++ path
  else folder ++ "/" ++ path

/-- The part of a path up to its last slash, and the part after it. -/
def split (p : List Char) : List Char × List Char :=
  let tail := (p.reverse.takeWhile (· ≠ '/')).reverse
  (p.take (p.length - tail.length), tail)

/-- The text without slashes at its end, unless there is nothing else. -/
def trimSlashes (p : List Char) : List Char :=
  if p.all (· == '/') then p else (p.reverse.dropWhile (· == '/')).reverse

/-- The folder part of a path, without the slashes that end it. -/
def parent (p : String) : String := String.ofList (trimSlashes (split p.toList).1)

/-- The last component of a path. -/
def name (p : String) : String := String.ofList (split p.toList).2

/-! ### Normal forms -/

/-- Add a component to a normal list of components, last one first. A step up takes back the
component before it; at the root there is nothing above. -/
def push (rooted : Bool) (stack : List (List Char)) (part : List Char) : List (List Char) :=
  if part = [] ∨ part = here then stack
  else if part = up then
    match stack with
    | [] => if rooted then [] else [up]
    | top :: rest => if top = up then up :: top :: rest else rest
  else part :: stack

/-- The slashes at the start of a normal form: two stay two, and more than two count as one. -/
def rootSlashes : List Char → List Char
  | '/' :: '/' :: '/' :: _ => ['/']
  | '/' :: '/' :: _ => ['/', '/']
  | '/' :: _ => ['/']
  | _ => []

/-- The normal components of a path. -/
def normalComponents (p : List Char) : List (List Char) :=
  ((components p).foldl (push (rootSlashes p ≠ [])) []).reverse

/-- The shortest spelling of a path that is equal to it as a text: without empty components, single
dots and steps up that take back a component. -/
def normalize (p : String) : String :=
  let cs := p.toList
  let text := rootSlashes cs ++ ofComponents (normalComponents cs)
  if text = [] then "." else String.ofList text

/-- The normal form of a path seen from a working directory. -/
def absolute (directory p : String) : String :=
  normalize (if isAbsolute p then p else join directory p)

/-- A path without empty components and single dots; steps up stay. -/
def tidy (p : String) : String :=
  let cs := p.toList
  let parts := (components cs).filter fun part => part ≠ [] ∧ part ≠ here
  let text := rootSlashes cs ++ ofComponents parts
  if text = [] then "." else String.ofList text

@[simp] theorem components_nil : components [] = [[]] := rfl

theorem components_ne_nil (p : List Char) : components p ≠ [] := by
  cases p with
  | nil => simp
  | cons c rest =>
    simp only [components]
    split
    · simp
    · split <;> simp

theorem components_append_slash (a b : List Char) :
    components (a ++ '/' :: b) = components a ++ components b := by
  induction a with
  | nil => simp [components]
  | cons c rest ih =>
    simp only [List.cons_append, components, ih]
    split
    · rfl
    · split <;> split <;> simp_all [components_ne_nil]

@[simp] theorem push_nil (rooted : Bool) (stack : List (List Char)) :
    push rooted stack [] = stack := by
  simp [push]

end Path

end Playbook
