import Playbook.Path
import Playbook.Text.Literal
import Playbook.Text.Utf8

/-!
# File systems

What the program knows of files: opening a path gives the content of a file or a reason why not.
A file system is finite. All files that can be opened are listed by their normal names, so a chain
of files each of which names the next one must come back to one of them.

Main definitions:

- `SystemError`, `ReadFault`: why a file cannot be opened;
- `FileSystem`: a working directory, the answers to opening paths, and the list of all files;
- `FileSystem.ofAnswers`: the file system that gives known answers.
-/

namespace Playbook

/-- A refusal of the operating system. -/
structure SystemError where
  /-- The number of the refusal. -/
  number : Int
  /-- The sentence that belongs to the number. -/
  reason : String
  /-- The path it is about. -/
  path : Option String
deriving DecidableEq, Repr

/-- What the refusal is and about which path. -/
def SystemError.message (e : SystemError) : String :=
  "[Errno " ++ toString e.number ++ "] " ++ e.reason ++
    (e.path.map fun p => ": " ++ Literal.text p).getD ""

/-- Why a path cannot be opened. -/
inductive ReadFault where
  /-- The operating system refuses. -/
  | system (e : SystemError)
  /-- The path holds the character zero, which no path may hold. -/
  | nullCharacter
deriving DecidableEq, Repr

/-- The content of a file. -/
abbrev Bytes := List UInt8

/-- A finite file system. -/
structure FileSystem where
  /-- The working directory. -/
  directory : String
  /-- The answer to opening a path. -/
  read : String → Except ReadFault Bytes
  /-- Every file that can be opened, by its normal name, with its content. -/
  files : List (String × Bytes)
  /-- The list is complete. -/
  mem_files : ∀ {path content}, read path = .ok content →
    (Path.absolute directory path, content) ∈ files

namespace FileSystem

/-- The normal name of a path. -/
def nameOf (fs : FileSystem) (path : String) : String := Path.absolute fs.directory path

/-- The normal names of all files. -/
def names (fs : FileSystem) : List String := fs.files.map (·.1)

theorem nameOf_mem_names (fs : FileSystem) {path : String} {content : Bytes}
    (h : fs.read path = .ok content) : fs.nameOf path ∈ fs.names :=
  List.mem_map.2 ⟨_, fs.mem_files h, rfl⟩

/-- The refusal of a path that leads nowhere. -/
def notFound (path : String) : SystemError := ⟨2, "No such file or directory", some path⟩

/-- The file system that gives known answers, and knows of no other file. -/
def ofAnswers (directory : String) (answers : List (String × Except ReadFault Bytes)) :
    FileSystem where
  directory := directory
  read path := (answers.lookup path).getD (.error (.system (notFound path)))
  files := answers.filterMap fun (path, answer) =>
    match answer with
    | .ok content => some (Path.absolute directory path, content)
    | .error _ => none
  mem_files := by
    intro path content h
    match hl : answers.lookup path with
    | none => simp [hl] at h
    | some answer =>
      obtain rfl : answer = .ok content := by simpa [hl] using h
      obtain ⟨before, after, rfl, -⟩ := List.lookup_eq_some_iff.1 hl
      simp

@[simp] theorem ofAnswers_read (directory : String)
    (answers : List (String × Except ReadFault Bytes)) (path : String) :
    (ofAnswers directory answers).read path =
      (answers.lookup path).getD (.error (.system (notFound path))) := rfl

end FileSystem

end Playbook
