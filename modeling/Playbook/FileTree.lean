import Playbook.FileSystem

/-!
# Trees of files

A tree of folders and files without links is a file system. A path is followed component by
component from the root or from the working directory: every component needs a folder to start from,
also a single dot, a step up and the nothing after a slash at the end.

Main definitions:

- `FileTree`, `FileTree.read`: the tree and the answer to opening a path;
- `FileTree.fileSystem`: the file system of a tree.

Main statement: `FileTree.mem_files_of_read`, what a path opens is listed under its normal name.
-/

namespace Playbook

/-- A tree of folders and files. -/
inductive FileTree where
  /-- A file. -/
  | file (content : Bytes)
  /-- A folder. -/
  | folder (entries : List (String × FileTree))

namespace FileTree

/-- The entry of a name. -/
def find? (name : String) : List (String × FileTree) → Option FileTree
  | [] => none
  | (n, t) :: rest => if n = name then some t else find? name rest

/-- The tree at a list of names from the root. -/
def at? : FileTree → List String → Option FileTree
  | t, [] => some t
  | .file _, _ :: _ => none
  | .folder entries, name :: rest =>
    match find? name entries with
    | some t => at? t rest
    | none => none

/-- What can go wrong on the way to a file. -/
inductive Obstacle where
  /-- There is nothing of that name. -/
  | missing
  /-- A file stands where a folder should. -/
  | notFolder
  /-- A folder stands where the file should. -/
  | isFolder
  /-- A name is too long. -/
  | tooLong
deriving DecidableEq, Repr

/-- The number and the sentence of an obstacle. -/
def Obstacle.systemError (o : Obstacle) (path : String) : SystemError :=
  match o with
  | .missing => ⟨2, "No such file or directory", some path⟩
  | .notFolder => ⟨20, "Not a directory", some path⟩
  | .isFolder => ⟨21, "Is a directory", some path⟩
  | .tooLong => ⟨36, "File name too long", some path⟩

/-- The most bytes a name may have. -/
def nameLimit : Nat := 255

/-- The most bytes a path may have. -/
def pathLimit : Nat := 4095

/-- The number of bytes of a text. -/
def byteCount (cs : List Char) : Nat := (Utf8.encode cs).length

/-- Follow the components of a path. The way so far is kept as the names from the root, last one
first; each component needs a folder to start from. -/
def walk (root : FileTree) :
    List (List Char) → List (List Char) → Except Obstacle (List (List Char))
  | way, [] => .ok way
  | way, part :: rest =>
    match root.at? (way.reverse.map String.ofList) with
    | some (.folder entries) =>
      -- An empty component and a dot stay in the folder that they are looked up in.
      if part = [] ∨ part = Path.here then walk root way rest
      -- The root is above itself.
      else if part = Path.up then walk root way.tail rest
      else if nameLimit < byteCount part then .error .tooLong
      else
        match find? (String.ofList part) entries with
        | some _ => walk root (part :: way) rest
        | none => .error .missing
    | some (.file _) => .error .notFolder
    | none => .error .missing

/-- The components that lead to a path from the root. -/
def fullComponents (directory path : String) : List (List Char) :=
  if Path.isAbsolute path then Path.components path.toList
  else Path.components directory.toList ++ Path.components path.toList

/-- What opening a path finds. -/
def reach (root : FileTree) (directory path : String) : Except Obstacle FileTree :=
  if path = "" then .error .missing
  else if pathLimit < byteCount path.toList then .error .tooLong
  else
    match walk root [] (fullComponents directory path) with
    | .error o => .error o
    | .ok way =>
      match root.at? (way.reverse.map String.ofList) with
      | some t => .ok t
      | none => .error .missing

/-- The content of the file at a path. -/
def read (root : FileTree) (directory path : String) : Except ReadFault Bytes :=
  if path.toList.contains '\x00' then .error .nullCharacter
  else
    -- A null character is refused before anything is looked up.
    match reach root directory path with
    | .ok (.file content) => .ok content
    | .ok (.folder _) => .error (.system (Obstacle.isFolder.systemError path))
    | .error o => .error (.system (o.systemError path))

mutual

/-- All files below a folder, by the names that lead to them. -/
def filesBelow (way : List (List Char)) : FileTree → List (List (List Char) × Bytes)
  | .file content => [(way, content)]
  | .folder entries => filesOfEntries way entries

/-- All files below the entries of a folder. -/
def filesOfEntries (way : List (List Char)) :
    List (String × FileTree) → List (List (List Char) × Bytes)
  | [] => []
  | (name, t) :: rest => filesBelow (way ++ [name.toList]) t ++ filesOfEntries way rest

end

/-- All files by their normal names. A name can start with one slash or with two. -/
def files (root : FileTree) : List (String × Bytes) :=
  (filesBelow [] root).flatMap fun (way, content) =>
    -- Both spellings of the root lead to the same file.
    [(String.ofList ('/' :: Path.ofComponents way), content),
      (String.ofList ('/' :: '/' :: Path.ofComponents way), content)]

/-! ### Changing a tree -/

/-- Set the entry of a name: in its place if there is one, at the end otherwise. -/
def setEntry (name : String) (t : FileTree) : List (String × FileTree) → List (String × FileTree)
  | [] => [(name, t)]
  | (n, u) :: rest => if n = name then (n, t) :: rest else (n, u) :: setEntry name t rest

/-- Put a tree at a list of names from the root, with the folders that lead to it. -/
def insert (t : FileTree) : List String → FileTree → FileTree
  | [], _ => t
  | name :: rest, .folder entries =>
    -- A folder that is missing on the way is made.
    let below := (find? name entries).getD (.folder [])
    .folder (setEntry name (insert t rest below) entries)
  -- A file on the way gives way to a folder.
  | name :: rest, .file _ => .folder [(name, insert t rest (.folder []))]

/-- Make a folder at a list of names from the root, unless there is one. -/
def makeFolder (names : List String) (root : FileTree) : FileTree :=
  match root.at? names with
  | some (.folder _) => root
  | _ => insert (.folder []) names root

/-- Take away the tree at a list of names from the root. -/
def erase : List String → FileTree → FileTree
  | [], t => t
  | [name], .folder entries => .folder (entries.filter fun (n, _) => n ≠ name)
  | name :: rest, .folder entries =>
    match find? name entries with
    | some below => .folder (setEntry name (erase rest below) entries)
    | none => .folder entries
  | _, .file content => .file content

/-- Take away the file at a path. -/
def remove (root : FileTree) (directory path : String) : Except ReadFault FileTree :=
  (root.read directory path).map fun _ =>
    -- An absolute path has no dots left in it, so its names lead from the root to the file.
    root.erase (((Path.absolute directory path).splitOn "/").filter (· ≠ ""))

/-! ### The list is complete -/

theorem mem_of_find? {name : String} {entries : List (String × FileTree)} {t : FileTree}
    (h : find? name entries = some t) : (name, t) ∈ entries := by
  induction entries with
  | nil => simp [find?] at h
  | cons e rest ih =>
    obtain ⟨n, u⟩ := e
    simp only [find?] at h
    split at h
    · next hn => simp_all
    · exact List.mem_cons_of_mem _ (ih h)

theorem filesBelow_subset_of_mem {name : String} {t : FileTree}
    {entries : List (String × FileTree)} (way : List (List Char)) (h : (name, t) ∈ entries) :
    filesBelow (way ++ [name.toList]) t ⊆ filesOfEntries way entries := by
  induction entries with
  | nil => simp at h
  | cons e rest ih =>
    obtain ⟨n, u⟩ := e
    intro x hx
    simp only [filesOfEntries, List.mem_append]
    rcases List.mem_cons.1 h with heq | hmem
    · obtain ⟨rfl, rfl⟩ := Prod.mk.inj heq
      exact .inl hx
    · exact .inr (ih hmem hx)

theorem mem_filesBelow_of_at? {t : FileTree} {content : Bytes} (names : List (List Char)) :
    ∀ way, t.at? (names.map String.ofList) = some (.file content) →
      (way ++ names, content) ∈ filesBelow way t := by
  -- Along the names, for any way that leads to the tree.
  induction names generalizing t with
  | nil =>
    intro way h
    simp only [List.map_nil, at?, Option.some.injEq] at h
    simp [h, filesBelow]
  | cons part rest ih =>
    intro way h
    cases t with
    | file c => simp [at?] at h
    | folder entries =>
      simp only [List.map_cons, at?] at h
      split at h
      · next u hu =>
        have := ih (way ++ [part]) h
        have hsub := filesBelow_subset_of_mem way (mem_of_find? hu)
        simp only [String.toList_ofList] at hsub
        simpa [filesBelow] using hsub this
      · simp at h

/-- The way to a path is the normal form of its components. -/
theorem walk_eq_foldl {root : FileTree} (parts : List (List Char)) :
    ∀ {way way'}, Path.up ∉ way → walk root way parts = .ok way' →
      way' = parts.foldl (Path.push true) way := by
  -- Induction on the components: in each step that does not fail, the way changes as the normal
  -- form does.
  induction parts with
  | nil => intro way way' _ h; simpa [walk, eq_comm] using h
  | cons part rest ih =>
    intro way way' hup h
    simp only [walk] at h
    split at h
    · split at h
      · next hdot => simpa [Path.push, hdot] using ih hup h
      · next hdot =>
        split at h
        · next hpart =>
          -- What is above is left out on the way, so it never has to be undone itself.
          have htail : Path.up ∉ way.tail := fun hm => hup (List.mem_of_mem_tail hm)
          have := ih htail h
          cases way with
          | nil => simpa [Path.push, hdot, hpart] using this
          | cons top more =>
            have htop : top ≠ ['.', '.'] := fun he => hup (he ▸ List.mem_cons_self)
            simp only [Path.push, hpart, List.foldl_cons, List.tail_cons] at this ⊢
            simpa [htop, Path.up, Path.here] using this
        · next hpart =>
          split at h
          · simp at h
          · split at h
            · have hnew : Path.up ∉ part :: way := by
                simp only [List.mem_cons, not_or]
                exact ⟨fun he => hpart he.symm, hup⟩
              simpa [Path.push, hdot, hpart] using ih hnew h
            · simp at h
    · simp at h
    · simp at h

/-- A path from an absolute folder starts at the root, and so do its components. -/
theorem foldl_fullComponents {directory path : String} (h : Path.isAbsolute directory) :
    (fullComponents directory path).foldl (Path.push true) [] =
      (Path.components
        (if Path.isAbsolute path then path else Path.join directory path).toList).foldl
          (Path.push true) [] := by
  -- An absolute path makes nothing of the folder. Any other one is joined to it.
  by_cases hp : Path.isAbsolute path
  · simp [fullComponents, hp]
  · simp only [fullComponents, hp, Path.join, Bool.false_eq_true, if_false]
    by_cases hslash : directory.toList.getLast?.all (· == '/')
    · -- The folder ends in a slash, after which nothing is left of it.
      have hne : directory.toList ≠ [] := by
        intro hnil
        simp [Path.isAbsolute, hnil] at h
      have hlast : directory.toList.getLast hne = '/' := by
        simpa [List.getLast?_eq_some_getLast hne] using hslash
      have hsplit : directory.toList = directory.toList.dropLast ++ ['/'] := by
        rw [← hlast, List.dropLast_concat_getLast hne]
      simp only [hslash, if_true, String.toList_append]
      generalize hd : directory.toList.dropLast = d at hsplit
      rw [hsplit, Path.components_append_slash, List.append_assoc d, List.singleton_append,
        Path.components_append_slash]
      simp
    · simp only [hslash, Bool.false_eq_true, if_false, String.toList_append]
      have hone : ("/" : String).toList = ['/'] := rfl
      rw [hone, List.append_assoc, List.singleton_append, Path.components_append_slash]

/-- What a path opens is where the way to it ends. -/
theorem exists_way_of_read {root : FileTree} {directory path : String} {content : Bytes}
    (h : read root directory path = .ok content) :
    ∃ way, walk root [] (fullComponents directory path) = .ok way ∧
      root.at? (way.reverse.map String.ofList) = some (.file content) := by
  have hreach : reach root directory path = .ok (.file content) := by
    rw [read] at h
    split at h
    · cases h
    · split at h
      · next hreach =>
        cases h
        exact hreach
      · cases h
      · cases h
  rw [reach] at hreach
  split at hreach
  · cases hreach
  · split at hreach
    · cases hreach
    · split at hreach
      · cases hreach
      · next way hwalk =>
        split at hreach
        · next t hat =>
          cases hreach
          exact ⟨way, hwalk, hat⟩
        · cases hreach

/-- What is looked up from an absolute folder starts with a slash. -/
theorem exists_slash {directory : String} (h : Path.isAbsolute directory) (path : String) :
    ∃ rest, (if Path.isAbsolute path then path else Path.join directory path).toList =
      '/' :: rest := by
  rw [← List.head?_eq_some_iff]
  by_cases hp : Path.isAbsolute path
  · rw [if_pos hp]
    simpa [Path.isAbsolute] using hp
  · have hd : directory.toList.head? = some '/' := by simpa [Path.isAbsolute] using h
    simp only [hp, Bool.false_eq_true, if_false, Path.join]
    split <;> simp [List.head?_append, hd]

/-- **The list of files is complete.** What a path opens is listed under its normal name. -/
theorem mem_files_of_read {root : FileTree} {directory path : String} {content : Bytes}
    (h : Path.isAbsolute directory) (hr : read root directory path = .ok content) :
    (Path.absolute directory path, content) ∈ files root := by
  obtain ⟨way, hwalk, hat⟩ := exists_way_of_read hr
  obtain ⟨rest, hrest⟩ := exists_slash h path
  have hway := walk_eq_foldl _ List.not_mem_nil hwalk
  rw [foldl_fullComponents h, hrest] at hway
  have hmem : (way.reverse, content) ∈ filesBelow [] root :=
    mem_filesBelow_of_at? way.reverse [] hat
  -- The path starts at the root, which a normal name spells with one slash or with two.
  have hslashes : Path.rootSlashes ('/' :: rest) = ['/'] ∨
      Path.rootSlashes ('/' :: rest) = ['/', '/'] := by
    unfold Path.rootSlashes
    split <;> simp_all
  have hnormal : Path.normalComponents ('/' :: rest) = way.reverse := by
    rcases hslashes with hs | hs <;> simp [Path.normalComponents, hs, hway]
  rw [files, List.mem_flatMap]
  refine ⟨_, hmem, ?_⟩
  rw [Path.absolute, Path.normalize, hrest, hnormal]
  rcases hslashes with hs | hs <;> simp [hs]

/-- The file system of a tree, seen from an absolute working directory. -/
def fileSystem (root : FileTree) (directory : String) (h : Path.isAbsolute directory) :
    FileSystem where
  directory := directory
  read := root.read directory
  files := root.files
  mem_files := mem_files_of_read h

end FileTree

end Playbook
