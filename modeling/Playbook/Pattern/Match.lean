import Playbook.Pattern.Syntax

/-!
# Matching patterns

Where a pattern matches in a text, and what its groups remember. Of several ways to match, the
first in the order of the pattern counts: earlier alternatives before later ones, more repetitions
before fewer unless the pattern says otherwise. Matching passes a continuation, so that a later
part that fails sends an earlier one to its next way.

Main definitions:

- `Pattern.Place`: a place in a text; `Pattern.Thread`: a place with what the groups remember;
- `Pattern.matchRow`: the first way for parts in a row that the continuation accepts;
- `Pattern.matchAt?`, `Pattern.search?`: a match at a place, and the first one from a place on.
-/

namespace Playbook.Pattern

/-! ### Places -/

/-- A place in a text. -/
structure Place where
  /-- The number of characters before it. -/
  position : Nat
  /-- The characters before it, nearest first. -/
  before : List Char
  /-- The characters after it. -/
  after : List Char
deriving Repr

namespace Place

/-- The start of a text. -/
def start (s : List Char) : Place := ⟨0, [], s⟩

/-- The next character and the place after it. -/
def next? (p : Place) : Option (Char × Place) :=
  match p.after with
  | [] => none
  | c :: rest => some (c, ⟨p.position + 1, c :: p.before, rest⟩)

/-- The place some characters before, if there are that many. -/
def back? : Nat → Place → Option Place
  | 0, p => some p
  | n + 1, p =>
    match p.before with
    | [] => none
    | c :: rest => back? n ⟨p.position - 1, rest, c :: p.after⟩

end Place

/-- A place with the texts that the groups remember. -/
structure Thread where
  /-- The place. -/
  place : Place
  /-- The texts of groups by number, the latest first. -/
  groups : List (Nat × List Char)
deriving Repr

/-! ### Characters and conditions -/

/-- Whether a character is in a named class. -/
def Category.contains (ascii : Bool) (c : Char) : Category → Bool
  | .digit => if ascii then c.isDigit else Unicode.isDecimal c
  | .blank =>
    if ascii then c == ' ' || (9 ≤ c.toNat && c.toNat ≤ 13) else Unicode.isBlank c
  | .word => if ascii then c == '_' || c.isAlphanum else Unicode.isWord c

/-- Whether a character, folded, is one of a member. -/
def Member.contains (flags : Flags) (c : Char) : Member → Bool
  | .char n =>
    -- A character is compared with all that are folded to the same one.
    (flags.folding.variants (flags.folding.fold n)).contains (flags.folding.fold c.toNat)
  | .range a b => flags.folding.inRange a b (flags.folding.fold c.toNat)
  -- Classes are asked for the character itself, not for what it is folded to.
  | .category negated k => k.contains flags.ascii c != negated

/-- Whether the next of two neighbours is the edge of a word. -/
def isEdge (flags : Flags) (p : Place) : Bool :=
  let isWord (cs : List Char) : Bool :=
    match cs with
    | [] => false
    | c :: _ => Category.word.contains flags.ascii c
  isWord p.before != isWord p.after

/-- Whether a place meets a condition. An empty text has neither edges nor other places. -/
def Anchor.holds (flags : Flags) (p : Place) : Anchor → Bool
  | .textStart => p.before.isEmpty
  | .textEnd => p.after.isEmpty
  | .start => p.before.isEmpty || (flags.multiline && p.before.head? == some '\n')
  | .stop =>
    -- One line end at the end of the text does not count.
    p.after.isEmpty || p.after == ['\n'] || (flags.multiline && p.after.head? == some '\n')
  | .edge => !(p.before.isEmpty && p.after.isEmpty) && isEdge flags p
  | .noEdge => !(p.before.isEmpty && p.after.isEmpty) && !isEdge flags p

/-- The place after a text, if that text follows. -/
def follow? (flags : Flags) : List Char → Place → Option Place
  | [], p => some p
  | c :: rest, p =>
    match p.next? with
    | some (d, q) =>
      if flags.folding.same c.toNat d.toNat then follow? flags rest q else none
    | none => none

/-! ### Repetitions -/

/-- What a part does with a thread and what comes after it. -/
abbrev Matcher := Thread → (Thread → Option Thread) → Option Thread

/-- Repeat a part as often as possible. Past the least count, a round that took no character is
the last one; `last` is where the round before started, and `count` counts the rounds. -/
def repeatMost (one : Matcher) (least : Nat) (most : Option Nat) :
    Nat → Nat → Option Nat → Matcher
  | 0, _, _, t, k => k t
  | fuel + 1, count, last, t, k =>
    if count < least then
      one t fun t' => repeatMost one least most fuel (count + 1) last t' k
    else
      let more :=
        -- A round from the place where the one before it started would take nothing again.
        if (most.all fun m => decide (count < m)) ∧ last ≠ some t.place.position then
          one t fun t' => repeatMost one least most fuel (count + 1) (some t.place.position) t' k
        else none
      -- Fewer rounds are tried only if more of them lead to no match.
      more.or (k t)

/-- Repeat a part as seldom as possible. -/
def repeatLeast (one : Matcher) (least : Nat) (most : Option Nat) :
    Nat → Nat → Option Nat → Matcher
  | 0, _, _, t, k => k t
  | fuel + 1, count, last, t, k =>
    if count < least then
      one t fun t' => repeatLeast one least most fuel (count + 1) last t' k
    else
      (k t).or <|
        if (most.all fun m => decide (count < m)) ∧ last ≠ some t.place.position then
          one t fun t' => repeatLeast one least most fuel (count + 1) (some t.place.position) t' k
        else none

/-- Repeat a part as often as possible, each round in the first way only. -/
def repeatAll (one : Matcher) (least : Nat) (most : Option Nat) :
    Nat → Nat → Thread → Option Thread
  | 0, _, t => some t
  | fuel + 1, count, t =>
    if count < least then
      match one t some with
      | some t' => repeatAll one least most fuel (count + 1) t'
      | none => none
    else if most.all fun m => decide (count < m) then
      match one t some with
      | some t' =>
        -- A round that takes nothing could go on forever.
        if t'.place.position = t.place.position then some t'
        else repeatAll one least most fuel (count + 1) t'
      | none => some t
    else some t

/-- More rounds than a repetition can have: those it must have, and one for each character. -/
def rounds (least : Nat) (t : Thread) : Nat := least + t.place.after.length + 2

/-! ### Parts -/

mutual

/-- Match a part. -/
def matchNode (flags : Flags) : Node → Matcher
  | .char n, t, k =>
    match t.place.next? with
    | some (c, p) =>
      if (Member.char n).contains flags c then k { t with place := p } else none
    | none => none
  | .any, t, k =>
    match t.place.next? with
    | some (c, p) => if flags.dotAll ∨ c ≠ '\n' then k { t with place := p } else none
    | none => none
  | .members negated ms, t, k =>
    match t.place.next? with
    | some (c, p) =>
      if ms.any (·.contains flags c) != negated then k { t with place := p } else none
    | none => none
  | .anchor a, t, k => if a.holds flags t.place then k t else none
  | .group none body, t, k => matchRow flags body t k
  | .group (some number) body, t, k =>
    matchRow flags body t fun t' =>
      -- What the group remembers is what has been taken since its start. Earlier texts stay below
      -- it.
      let taken := t.place.after.take (t'.place.position - t.place.position)
      k { t' with groups := (number, taken) :: t'.groups }
  | .scoped on off body, t, k => matchRow (flags.change on off) body t k
  | .atomic body, t, k =>
    -- The way in which the body is matched first is the only one that is tried.
    match matchRow flags body t some with
    | some t' => k t'
    | none => none
  | .look negated behind body, t, k =>
    let found :=
      -- To look behind is to match from as many places before as the body takes.
      match t.place.back? (behind.elim 0 Width.least) with
      | some p => matchRow flags body { t with place := p } some
      | none => none
    match found, negated with
    -- What has been remembered stays, but the place does not change.
    | some t', false => k { t' with place := t.place }
    | none, true => k t
    | _, _ => none
  | .reference number, t, k =>
    match t.groups.lookup number with
    | some text =>
      match follow? flags text t.place with
      | some p => k { t with place := p }
      | none => none
    -- What a group without a text refers to cannot follow.
    | none => none
  | .conditional number yes no, t, k =>
    if (t.groups.lookup number).isSome then matchRow flags yes t k else matchRow flags no t k
  | .branch alternatives, t, k => matchAny flags alternatives t k
  | .repeated .most least most body, t, k =>
    repeatMost (matchRow flags body) least most (rounds least t) 0 none t k
  | .repeated .least least most body, t, k =>
    repeatLeast (matchRow flags body) least most (rounds least t) 0 none t k
  | .repeated .possessive least most body, t, k =>
    match repeatAll (matchRow flags body) least most (rounds least t) 0 t with
    | some t' => k t'
    | none => none

/-- Match parts in a row. -/
def matchRow (flags : Flags) : List Node → Matcher
  | [], t, k => k t
  | n :: rest, t, k => matchNode flags n t fun t' => matchRow flags rest t' k

/-- Match the first of alternatives that leads to a match. -/
def matchAny (flags : Flags) : List (List Node) → Matcher
  | [], _, _ => none
  | row :: rest, t, k => (matchRow flags row t k).or (matchAny flags rest t k)

end

/-! ### Matches -/

/-- A match: where it starts and where it ends, and what the groups remember. -/
structure Match where
  /-- Where it starts. -/
  start : Place
  /-- Where it ends, with the texts of groups. -/
  stop : Thread
deriving Repr

/-- The characters of a match. -/
def Match.text (m : Match) : List Char :=
  m.start.after.take (m.stop.place.position - m.start.position)

/-- The characters of a group of a match; the whole match is group zero. -/
def Match.group (m : Match) (number : Nat) : List Char :=
  if number = 0 then m.text else (m.stop.groups.lookup number).getD []

/-- A match at a place, which must take a character if `advance` is set. -/
def matchAt? (p : Pattern) (advance : Bool) (place : Place) : Option Match :=
  (matchRow p.flags p.body ⟨place, []⟩ fun t =>
    if advance ∧ t.place.position = place.position then none else some t).map (⟨place, ·⟩)

/-- The first match among the places before each of some characters and at their end. -/
def searchFrom (p : Pattern) (advance : Bool) (position : Nat) (before : List Char) :
    List Char → Option Match
  | [] => matchAt? p advance ⟨position, before, []⟩
  -- A place is tried before the ones after it. Only the first of them may have to take a character.
  | c :: rest =>
    (matchAt? p advance ⟨position, before, c :: rest⟩).or
      (searchFrom p false (position + 1) (c :: before) rest)

/-- The first match from a place on; one at the place itself must take a character if `advance` is
set. -/
def search? (p : Pattern) (advance : Bool) (place : Place) : Option Match :=
  searchFrom p advance place.position place.before place.after

end Playbook.Pattern
