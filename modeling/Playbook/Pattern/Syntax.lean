import Playbook.Pattern.Folding

/-!
# Patterns of texts

A pattern describes texts: characters and classes of characters, alternatives, repetitions,
numbered groups and references to them, and conditions on what lies around a place. This module
holds patterns as trees; reading and matching them are apart.

Main definitions:

- `Pattern`: a pattern with its settings, its groups and their names;
- `Pattern.Node`: the trees; `Pattern.Node.width`: how many characters they take.
-/

namespace Playbook

namespace Pattern

/-! ### Settings -/

/-- What the parts of a pattern mean. -/
structure Flags where
  /-- Case does not count. -/
  ignoreCase : Bool
  /-- Lines, and not only the text, have a start and an end. -/
  multiline : Bool
  /-- Any character may be a line end. -/
  dotAll : Bool
  /-- Blanks and comments in the pattern do not count. -/
  verbose : Bool
  /-- Classes hold ASCII characters only. -/
  ascii : Bool
  /-- Classes hold the characters of all scripts, and the pattern says so. -/
  unicode : Bool
  /-- Nothing may be repeated. -/
  rigid : Bool
deriving DecidableEq, Repr, Inhabited

namespace Flags

/-- No setting. -/
def empty : Flags := ⟨false, false, false, false, false, false, false⟩

/-- The settings of both. -/
def union (a b : Flags) : Flags :=
  ⟨a.ignoreCase || b.ignoreCase, a.multiline || b.multiline, a.dotAll || b.dotAll,
    a.verbose || b.verbose, a.ascii || b.ascii, a.unicode || b.unicode, a.rigid || b.rigid⟩

/-- The settings of the first that are not in the second. -/
def without (a b : Flags) : Flags :=
  ⟨a.ignoreCase && !b.ignoreCase, a.multiline && !b.multiline, a.dotAll && !b.dotAll,
    a.verbose && !b.verbose, a.ascii && !b.ascii, a.unicode && !b.unicode, a.rigid && !b.rigid⟩

/-- Whether two sets of settings have one in common. -/
def meets (a b : Flags) : Bool :=
  (a.ignoreCase && b.ignoreCase) || (a.multiline && b.multiline) || (a.dotAll && b.dotAll) ||
    (a.verbose && b.verbose) || (a.ascii && b.ascii) || (a.unicode && b.unicode) ||
    (a.rigid && b.rigid)

/-- Turn some settings on and others off. The scripts of classes are turned on in place of each
other. -/
def change (flags on off : Flags) : Flags :=
  let base := if on.ascii || on.unicode then { flags with ascii := false, unicode := false }
    else flags
  (base.union on).without off

/-- How case counts. -/
def folding (f : Flags) : Folding :=
  if !f.ignoreCase then .exact else if f.ascii then .ascii else .full

/-- The setting of a letter. -/
def ofLetter? (c : Char) : Option Flags :=
  match c with
  | 'i' => some { empty with ignoreCase := true }
  | 'm' => some { empty with multiline := true }
  | 's' => some { empty with dotAll := true }
  | 'x' => some { empty with verbose := true }
  | 'a' => some { empty with ascii := true }
  | 'u' => some { empty with unicode := true }
  | 't' => some { empty with rigid := true }
  | _ => none

end Flags

/-! ### Trees -/

/-- The classes of characters that have a name. -/
inductive Category where
  /-- Decimal digits. -/
  | digit
  /-- White space. -/
  | blank
  /-- Letters, numerals and the underscore. -/
  | word
deriving DecidableEq, Repr

/-- A part of a class of characters. -/
inductive Member where
  /-- One character, by number. -/
  | char (n : Nat)
  /-- The characters between two, both included. -/
  | range (first last : Nat)
  /-- The characters of a named class, or all others. -/
  | category (negated : Bool) (c : Category)
deriving DecidableEq, Repr

/-- Conditions on a place that take no character. -/
inductive Anchor where
  /-- The start of the text. -/
  | textStart
  /-- The end of the text. -/
  | textEnd
  /-- The start of a line, or of the text only. -/
  | start
  /-- The end of a line, or of the last line only. -/
  | stop
  /-- Between a word and what is no word. -/
  | edge
  /-- Anywhere else. -/
  | noEdge
deriving DecidableEq, Repr

/-- How a repetition chooses its count. -/
inductive Greed where
  /-- As many as possible. -/
  | most
  /-- As few as possible. -/
  | least
  /-- As many as possible, once and for all. -/
  | possessive
deriving DecidableEq, Repr

/-- How many characters something takes at least and at most. -/
structure Width where
  /-- At least. -/
  least : Nat
  /-- At most. -/
  most : Nat
deriving DecidableEq, Repr, Inhabited

/-- A part of a pattern. -/
inductive Node where
  /-- A character, by number. -/
  | char (n : Nat)
  /-- Any character. -/
  | any
  /-- A character of a class, or one outside it. -/
  | members (negated : Bool) (ms : List Member)
  /-- A condition on the place. -/
  | anchor (a : Anchor)
  /-- Parts in a row, remembered under a number if there is one. -/
  | group (number : Option Nat) (body : List Node)
  /-- Parts in a row with other settings. -/
  | scoped (on off : Flags) (body : List Node)
  /-- Parts in a row of which only the first way to match counts. -/
  | atomic (body : List Node)
  /-- A condition on what follows, or on what comes before within a width. -/
  | look (negated : Bool) (behind : Option Width) (body : List Node)
  /-- The text of a group once more. -/
  | reference (number : Nat)
  /-- A choice by whether a group has matched. -/
  | conditional (number : Nat) (yes no : List Node)
  /-- Alternatives in order. -/
  | branch (alternatives : List (List Node))
  /-- Parts in a row several times. -/
  | repeated (greed : Greed) (least : Nat) (most : Option Nat) (body : List Node)
deriving Repr, Inhabited

/-! ### Widths -/

/-- No width counts as larger than this. -/
def widthLimit : Nat := Nat.pow 2 64

namespace Width

/-- One after the other. -/
def add (a b : Width) : Width :=
  ⟨min widthLimit (a.least + b.least), min widthLimit (a.most + b.most)⟩

/-- One or the other. -/
def either (a b : Width) : Width := ⟨min a.least b.least, max a.most b.most⟩

/-- Several times. -/
def times (least : Nat) (most : Option Nat) (w : Width) : Width :=
  ⟨min widthLimit (w.least * least),
    match most with
    | none => if w.most = 0 then 0 else widthLimit
    | some n => min widthLimit (w.most * n)⟩

end Width

mutual

/-- How many characters a part takes, given the widths of the groups. -/
def Node.width (groups : List (Option Width)) : Node → Width
  | .char _ | .any | .members .. => ⟨1, 1⟩
  | .anchor _ | .look .. => ⟨0, 0⟩
  | .group _ body | .scoped _ _ body | .atomic body => rowWidth groups body
  | .reference number => ((groups[number]?).bind id).getD ⟨0, 0⟩
  | .conditional _ yes no => (rowWidth groups yes).either (rowWidth groups no)
  | .branch alternatives => branchWidth groups alternatives
  | .repeated _ least most body => (rowWidth groups body).times least most

/-- How many characters parts in a row take. -/
def rowWidth (groups : List (Option Width)) : List Node → Width
  | [] => ⟨0, 0⟩
  | n :: rest => (n.width groups).add (rowWidth groups rest)

/-- How many characters alternatives take. -/
def branchWidth (groups : List (Option Width)) : List (List Node) → Width
  | [] => ⟨widthLimit, 0⟩
  | row :: rest => (rowWidth groups row).either (branchWidth groups rest)

end

end Pattern

/-- A pattern. -/
structure Pattern where
  /-- Its settings. -/
  flags : Pattern.Flags
  /-- How many groups it has. -/
  groups : Nat
  /-- The names of groups. -/
  names : List (String × Nat)
  /-- Its parts in a row. -/
  body : List Pattern.Node
deriving Repr, Inhabited

end Playbook
