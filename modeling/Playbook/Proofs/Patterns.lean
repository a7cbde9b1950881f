import Playbook.Pattern.Replacement
import Playbook.Proofs.Reasons

/-!
# What is wrong with patterns

A text that is no pattern is refused with a failure that says where the pattern goes wrong. Two
things are refused in other ways: a count of a repetition that is too large, or that has too many
digits to be read, and settings that exclude each other. A replacement may name a group that the
pattern does not have.

Main definitions:

- `Pattern.faultKinds`, `Pattern.Replacement.faultKinds`: the kinds of these failures;
- `Pattern.Refuses`: a step of reading fails, if at all, in one of some ways.

Main statements: `Pattern.failsIn_ofText`, `Pattern.Replacement.failsIn_ofText`.

There is one lemma for each step of reading; most follow from the rules for sequences of steps
alone. Where a step goes on in the same way after several cases, what it goes on with is looked at
first, so that it is looked at once.
-/

namespace Playbook

variable {kinds : List FailureKind}

/-! ### Numbers -/

namespace Numeral

@[grind .]
theorem failsIn_intOf (h : FailureKind.value ∈ kinds) (base : Nat) (literal : String)
    (cs : List Char) : FailsIn kinds (intOf base literal cs) := by
  grind [intOf, noInteger, tooLongFailure]

@[grind .]
theorem failsIn_int (h : FailureKind.value ∈ kinds) (base : Nat) (s : String) :
    FailsIn kinds (int base s) :=
  failsIn_intOf h base _ _

@[grind .]
theorem failsIn_float (h : FailureKind.value ∈ kinds) (s : String) : FailsIn kinds (float s) := by
  grind [float, noFloat]

end Numeral

namespace Pattern

variable {α β : Type}

/-- What reading a pattern fails with. -/
def faultKinds : List FailureKind := [.pattern, .value, .overflow]

/-- What reading a replacement fails with. -/
def Replacement.faultKinds : List FailureKind := [.pattern, .index]

/-! ### Places in the text -/

namespace Cursor

@[simp, grind =] theorem kind_failureAt (source : List Char) (message : String) (position : Nat) :
    (failureAt source message position).kind = .pattern := rfl

@[simp, grind =] theorem kind_failure (c : Cursor) (message : String) (back : Nat) :
    (c.failure message back).kind = .pattern := rfl

variable (h : FailureKind.pattern ∈ kinds)
include h

@[grind .]
theorem failsIn_skip (c : Cursor) : FailsIn kinds c.skip := by
  unfold skip
  split <;> grind

theorem failsIn_start (source : List Char) : FailsIn kinds (start source) := failsIn_skip h _

@[grind .]
theorem failsIn_take? (c : Cursor) (expected : Char) : FailsIn kinds (c.take? expected) := by
  grind [take?]

@[grind .]
theorem failsIn_while (p : Char → Bool) (count : Nat) (c : Cursor) :
    FailsIn kinds (c.while p count) := by
  induction count generalizing c with
  | zero => grind [Cursor.while]
  | succ count ih => grind [Cursor.while]

theorem failsIn_untilFrom (closing : Char) (what : String) (fuel : Nat) (found : List Char)
    (c : Cursor) : FailsIn kinds (untilFrom closing what found fuel c) := by
  induction fuel generalizing c found with
  | zero => grind [untilFrom]
  | succ fuel ih => grind [untilFrom]

@[grind .]
theorem failsIn_until (closing : Char) (what : String) (c : Cursor) :
    FailsIn kinds (c.until closing what) := failsIn_untilFrom h closing what _ [] c

end Cursor

/-! ### Steps of reading -/

/-- A step of reading fails, if at all, in one of some ways. -/
def Refuses (kinds : List FailureKind) (x : Reader α) : Prop := ∀ r, FailsIn kinds (x.run r)

namespace Refuses

@[grind .]
theorem pure (a : α) : Refuses kinds (pure a) := fun r => .ok (a, r)

@[grind .]
theorem throw {f : Failure} (h : f.kind ∈ kinds) : Refuses kinds (throw f : Reader α) :=
  fun _ => .error h

@[grind .]
theorem get : Refuses kinds (get : Reader Reading) := fun r => .ok (r, r)

@[grind .]
theorem set (r : Reading) : Refuses kinds (set r : Reader PUnit) := fun _ => .ok (_, r)

@[grind .]
theorem modify (f : Reading → Reading) : Refuses kinds (modify f : Reader PUnit) :=
  fun r => .ok (_, f r)

/-- **One step after another.** -/
@[grind .]
theorem bind {x : Reader α} {f : α → Reader β} (hx : Refuses kinds x)
    (hf : ∀ a, Refuses kinds (f a)) : Refuses kinds (x >>= f) := by
  intro r
  rw [StateT.run_bind]
  exact (hx r).bind fun p => hf p.1 p.2

@[grind .]
theorem lift {x : Except Failure α} (hx : FailsIn kinds x) : Refuses kinds (liftM x : Reader α) :=
  fun r => hx.bind fun a => .ok (a, r)

@[grind .]
theorem forIn {γ : Type} {xs : List γ} {init : β} {f : γ → β → Reader (ForInStep β)}
    (h : ∀ a b, Refuses kinds (f a b)) : Refuses kinds (forIn xs init f) := by
  induction xs generalizing init with
  | nil => exact pure init
  | cons a rest ih =>
    rw [List.forIn_cons]
    refine (h a init).bind fun step => ?_
    -- The loop ends with this member, or goes on with what it has given.
    cases step with
    | done b => exact pure b
    | yield b => exact ih

end Refuses

namespace Reader

@[grind .]
theorem refuses_left : Refuses kinds left := by
  grind [left]

@[grind .]
theorem refuses_peek : Refuses kinds peek := by
  grind [peek]

@[grind .]
theorem refuses_position : Refuses kinds position := by
  grind [position]

@[grind .]
theorem refuses_move (c : Cursor) : Refuses kinds (move c) := by
  grind [move]

variable (h : FailureKind.pattern ∈ kinds)
include h

@[grind .]
theorem refuses_fail (message : String) (back : Nat) :
    Refuses kinds (fail message back : Reader α) := by
  grind [fail]

@[grind .]
theorem refuses_failFrom (message : String) (position : Nat) :
    Refuses kinds (failFrom message position : Reader α) := by
  grind [failFrom]

@[grind .]
theorem refuses_next : Refuses kinds next := by
  grind [next]

@[grind .]
theorem refuses_take (expected : Char) : Refuses kinds (take expected) := by
  grind [take]

@[grind .]
theorem refuses_takeWhile (p : Char → Bool) (count : Nat) : Refuses kinds (takeWhile p count) := by
  grind [takeWhile]

@[grind .]
theorem refuses_takeUntil (closing : Char) (what : String) :
    Refuses kinds (takeUntil closing what) := by
  grind [takeUntil]

end Reader

open Reader

/-! ### Escapes and classes -/

section Parts

variable (h : FailureKind.pattern ∈ kinds)
include h

@[grind .]
theorem refuses_badEscape (written : List Char) : Refuses kinds (badEscape written : Reader α) := by
  grind [badEscape]

@[grind .]
theorem refuses_hexEscape (letter : Char) (count : Nat) :
    Refuses kinds (hexEscape letter count) := by
  grind [hexEscape]

@[grind .]
theorem refuses_namedEscape : Refuses kinds namedEscape := by
  grind [namedEscape]

@[grind .]
theorem refuses_octalEscape (written : List Char) : Refuses kinds (octalEscape written) := by
  grind [octalEscape]

@[grind .]
theorem refuses_commonEscape (c : Char) : Refuses kinds (commonEscape c) := by
  unfold commonEscape
  split <;> grind

@[grind .]
theorem refuses_classEscape (c : Char) : Refuses kinds (classEscape c) := by
  grind [classEscape]

@[grind .]
theorem refuses_checkName (name : List Char) (back : Nat) :
    Refuses kinds (checkName name back) := by
  grind [checkName]

omit h in
@[grind .]
theorem refuses_isClosed (number : Nat) : Refuses kinds (isClosed number) := by
  grind [isClosed]

@[grind .]
theorem refuses_checkBehind (number : Nat) : Refuses kinds (checkBehind number) := by
  grind [checkBehind]

@[grind .]
theorem refuses_referTo (number back : Nat) : Refuses kinds (referTo number back) := by
  grind [referTo]

@[grind .]
theorem refuses_openGroup (name : Option (List Char)) : Refuses kinds (openGroup name) := by
  refine .bind .get fun r => .bind (.set _) fun _ => ?_
  -- A group is numbered before its name is looked at, so a name can fail but not the numbering.
  cases name with
  | none => grind
  | some name => split <;> grind

omit h in
@[grind .]
theorem refuses_closeGroup (number : Nat) (body : List Node) :
    Refuses kinds (closeGroup number body) := by
  grind [closeGroup]

@[grind .]
theorem refuses_digitEscape (c : Char) : Refuses kinds (digitEscape c) := by
  unfold digitEscape
  refine .bind (refuses_takeWhile h _ _) fun second => ?_
  -- One digit is read already; a second makes the number of a group, and a third an octal escape.
  split
  · grind
  · split
    · refine .bind (refuses_takeWhile h _ _) fun third => ?_
      dsimp only
      split <;> grind
    · grind

@[grind .]
theorem refuses_escape (c : Char) : Refuses kinds (escape c) := by
  grind [escape]

@[grind .]
theorem refuses_memberOf (t : Token) : Refuses kinds (memberOf t) := by
  cases t <;> grind [memberOf]

@[grind .]
theorem refuses_members (here : Nat) (found : List Member) (fuel : Nat) :
    Refuses kinds (members here found fuel) := by
  -- The fuel bounds the members to come. A member may be the first end of a range, and then a
  -- second one is read before the recursion goes on.
  induction fuel generalizing found with
  | zero => grind [members]
  | succ fuel ih =>
    unfold members
    refine .bind (refuses_next h) fun this => ?_
    cases this with
    | none => grind
    | some this =>
      dsimp only
      split
      · grind
      refine .bind (refuses_memberOf h _) fun first => .bind (refuses_take h _) fun isRange => ?_
      split
      · refine .bind (refuses_next h) fun that => ?_
        cases that with
        | none => grind
        | some that =>
          dsimp only
          split
          · grind
          refine .bind (refuses_memberOf h _) fun last => ?_
          split <;> grind
      · grind

@[grind .]
theorem refuses_characterClass : Refuses kinds characterClass := by
  grind [characterClass]

end Parts

/-! ### Repetitions -/

@[grind .]
theorem refuses_countOf (h : faultKinds ⊆ kinds) (ds : List Char) :
    Refuses kinds (countOf ds) := by
  unfold countOf
  -- No digits are no bound, so only digits can be too many or stand for too large a number.
  split
  · grind
  · refine .bind (.lift (Numeral.failsIn_int (h (by decide)) _ _)) fun n => ?_
    split <;> grind [faultKinds]

@[grind .]
theorem refuses_braces (h : faultKinds ⊆ kinds) (here : Nat) : Refuses kinds (braces here) := by
  have hp : FailureKind.pattern ∈ kinds := h (by decide)
  unfold braces
  refine .bind .get fun r => .bind refuses_peek fun t => ?_
  split
  · grind
  refine .bind refuses_left fun n => .bind (refuses_takeWhile hp _ _) fun least => ?_
  refine .bind (refuses_take hp _) fun comma => ?_
  extract_lets closing
  -- Both ways to write the bounds, with a comma and without, end with the same brace.
  have hclosing (most : List Char) : Refuses kinds (closing most) := by
    refine .bind (refuses_take hp _) fun closed => ?_
    split
    · refine .bind (refuses_countOf h _) fun least => .bind (refuses_countOf h _) fun most => ?_
      split <;> grind
    · grind
  clear_value closing
  grind

section Parts

variable (h : FailureKind.pattern ∈ kinds)
include h

@[grind .]
theorem refuses_repeatLast (row : List Node) (least : Nat) (most : Option Nat) (place : Nat) :
    Refuses kinds (repeatLast row least most place) := by
  unfold repeatLast
  split <;> grind

/-! ### Settings -/

@[grind .]
theorem refuses_turnOn (on : Flags) (c : Char) : Refuses kinds (turnOn on c) := by
  grind [turnOn]

@[grind .]
theorem refuses_flagsOn (on : Flags) (c : Char) (fuel : Nat) :
    Refuses kinds (flagsOn on c fuel) := by
  induction fuel generalizing on c with
  | zero => grind [flagsOn]
  | succ fuel ih => grind [flagsOn]

@[grind .]
theorem refuses_flagsOff (off : Flags) (c : Char) (fuel : Nat) :
    Refuses kinds (flagsOff off c fuel) := by
  induction fuel generalizing off c with
  | zero => grind [flagsOff]
  | succ fuel ih => grind [flagsOff]

@[grind .]
theorem refuses_settings (c : Char) : Refuses kinds (settings c) := by
  unfold settings
  extract_lets rest
  -- What stands behind the letters that are turned on is read once for all ways to get there.
  have hrest (x : Flags × Char) : Refuses kinds (rest x) := by
    obtain ⟨on, ending⟩ := x
    dsimp -zeta only [rest]
    split
    · grind
    extract_lets both turnedOff
    -- A letter on both sides excludes itself, whether any letters were turned off or not.
    have hboth (off : Flags) : Refuses kinds (both off) := by
      dsimp -zeta only [both]
      extract_lets met
      have hmet (u : PUnit) : Refuses kinds (met u) := by grind
      clear_value met
      grind
    clear_value both
    have hturnedOff (u : PUnit) : Refuses kinds (turnedOff u) := by
      dsimp -zeta only [turnedOff]
      split
      · refine .bind (refuses_next h) fun t => ?_
        grind
      · grind
    clear_value turnedOff
    grind
  clear_value rest
  grind

/-! ### What opens after a parenthesis -/

@[grind .]
theorem refuses_lineComment (fuel : Nat) : Refuses kinds (lineComment fuel) := by
  induction fuel with
  | zero => grind [lineComment]
  | succ fuel ih => grind [lineComment]

@[grind .]
theorem refuses_groupComment (start fuel : Nat) : Refuses kinds (groupComment start fuel) := by
  induction fuel with
  | zero => grind [groupComment]
  | succ fuel ih => grind [groupComment]

@[grind .]
theorem refuses_close (start : Nat) : Refuses kinds (close start) := by
  grind [close]

@[grind .]
theorem refuses_conditionGroup : Refuses kinds conditionGroup := by
  unfold conditionGroup
  refine .bind (refuses_takeUntil h _ _) fun name => ?_
  extract_lets text found bad numbered
  -- The number of a group and its name lead to the same check that the group is there.
  have hfound (number : Nat) : Refuses kinds (found number) := by grind
  clear_value found
  have hnumbered (number : Nat) : Refuses kinds (numbered number) := by
    dsimp -zeta only [numbered]
    extract_lets mentioned bounded
    have hmentioned (u : PUnit) : Refuses kinds (mentioned u) := by grind
    clear_value mentioned
    have hbounded (u : PUnit) : Refuses kinds (bounded u) := by grind
    clear_value bounded
    grind
  clear_value numbered
  split
  · refine .bind .get fun r => ?_
    grind
  · grind

@[grind .]
theorem refuses_named : Refuses kinds named := by
  unfold named
  refine .bind (refuses_take h _) fun isCapture => ?_
  split
  · grind
  refine .bind (refuses_take h _) fun isReference => ?_
  split
  · refine .bind (refuses_takeUntil h _ _) fun name => ?_
    grind
  · refine .bind (refuses_next h) fun t => ?_
    grind

@[grind .]
theorem refuses_opening (start : Nat) (atStart : Bool) :
    Refuses kinds (opening start atStart) := by
  unfold opening
  refine .bind (refuses_take h _) fun marked => ?_
  split
  · refine .bind (refuses_next h) fun t => ?_
    cases t with
    | none => grind
    | some t =>
      dsimp only
      split <;> grind
  · grind

end Parts

/-! ### Checks of the whole -/

mutual

theorem failsIn_check (h : FailureKind.pattern ∈ kinds) (rigid : Bool) :
    ∀ n : Node, FailsIn kinds (n.check rigid)
  | .char _ => by grind [Node.check]
  | .any => by grind [Node.check]
  | .members .. => by grind [Node.check]
  | .anchor _ => by grind [Node.check]
  | .reference _ => by grind [Node.check]
  | .group _ body => by grind [Node.check, failsIn_checkRow h rigid body]
  | .scoped _ _ body => by grind [Node.check, failsIn_checkRow h rigid body]
  | .atomic body => by grind [Node.check, failsIn_checkRow h rigid body]
  -- Looking behind is refused for its width, before its body is looked at.
  | .look _ behind body => by
    have := failsIn_checkRow h rigid body
    cases behind <;> grind [Node.check]
  | .conditional _ yes no => by
    grind [Node.check, failsIn_checkRow h rigid yes, failsIn_checkRow h rigid no]
  | .branch alternatives => by grind [Node.check, failsIn_checkRows h rigid alternatives]
  | .repeated greed _ _ body => by
    grind [Node.check, failsIn_checkRow h rigid body]

theorem failsIn_checkRow (h : FailureKind.pattern ∈ kinds) (rigid : Bool) :
    ∀ ns : List Node, FailsIn kinds (checkRow rigid ns)
  | [] => by grind [checkRow]
  | n :: rest => by grind [checkRow, failsIn_check h rigid n, failsIn_checkRow h rigid rest]

theorem failsIn_checkRows (h : FailureKind.pattern ∈ kinds) (rigid : Bool) :
    ∀ rs : List (List Node), FailsIn kinds (checkRows rigid rs)
  | [] => by grind [checkRows]
  | r :: rest => by grind [checkRows, failsIn_checkRow h rigid r, failsIn_checkRows h rigid rest]

end

/-! ### Rows and alternatives -/

section Whole

variable (h : faultKinds ⊆ kinds)
include h

/-- **Alternatives, rows and parentheses** hold each other, and each takes from the same bound. -/
theorem refuses_group (fuel : Nat) :
    (∀ verbose nested found, Refuses kinds (alternatives verbose nested found fuel)) ∧
    (∀ verbose first found, Refuses kinds (row verbose first found fuel)) ∧
    ∀ verbose start atStart, Refuses kinds (parenthesis verbose start atStart fuel) := by
  have hp : FailureKind.pattern ∈ kinds := h (by decide)
  -- Induction on the bound: each of the three hands the others a smaller one.
  induction fuel with
  | zero => exact ⟨by grind [alternatives], by grind [row], by grind [parenthesis]⟩
  | succ fuel ih =>
    obtain ⟨halternatives, hrow, hparenthesis⟩ := ih
    refine ⟨fun verbose nested found => ?_, fun verbose first found => ?_,
      fun verbose start atStart => ?_⟩
    · grind [alternatives]
    · unfold row
      -- What ends a row is left to whoever has opened it; comments and blanks are passed over.
      refine .bind refuses_peek fun t => ?_
      split
      · grind
      · grind
      · grind
      refine .bind (refuses_next hp) fun _ => ?_
      split
      · grind
      split
      · grind
      split
      · grind
      refine .bind refuses_position fun here => ?_
      split <;> grind
    · unfold parenthesis
      refine .bind (refuses_opening hp _ _) fun o => ?_
      cases o with
      | look negated back =>
        -- Looking behind notes which groups are out of reach, and then both go on with the body.
        refine .bind .get fun r => ?_
        extract_lets before body
        have hbody (u : PUnit) : Refuses kinds (body u) := by
          refine .bind (halternatives _ _ _) fun parts => ?_
          extract_lets closing
          have hclosing (u : PUnit) : Refuses kinds (closing u) := by grind
          clear_value closing
          grind
        clear_value body
        grind
      | conditional =>
        refine .bind (refuses_conditionGroup hp) fun number => .bind (hrow _ _ _) fun yes => ?_
        refine .bind (refuses_take hp _) fun more => ?_
        extract_lets closing
        have hclosing (no : List Node) : Refuses kinds (closing no) := by grind
        clear_value closing
        grind
      | _ => grind

theorem refuses_whole : Refuses kinds whole := by
  have hp : FailureKind.pattern ∈ kinds := h (by decide)
  unfold whole
  refine .bind refuses_left fun n => .bind ((refuses_group h _).1 _ _ _) fun body => ?_
  refine .bind .get fun r => ?_
  -- A parenthesis too many is found where alternatives have stopped before the end of the text.
  extract_lets balanced checked
  have hbalanced (u : PUnit) : Refuses kinds (balanced u) := by grind
  clear_value balanced
  have hchecked (u : PUnit) : Refuses kinds (checked u) := by grind
  clear_value checked
  grind [faultKinds]

/-- **Reading a pattern** fails in few ways. -/
theorem failsIn_ofText (text : String) : FailsIn kinds (ofText text) := by
  have hp : FailureKind.pattern ∈ kinds := h (by decide)
  refine .bind (Cursor.failsIn_start hp _) fun c => .bind (refuses_whole h _) fun r => ?_
  exact .bind (failsIn_checkRow hp _ _) fun _ => .pure _

end Whole

/-! ### Replacements -/

section Replacements

variable (h : Replacement.faultKinds ⊆ kinds)
include h

@[grind .]
theorem refuses_groupPiece (p : Pattern) (number back : Nat) :
    Refuses kinds (groupPiece p number back) := by
  have hp : FailureKind.pattern ∈ kinds := h (by decide)
  grind [groupPiece]

@[grind .]
theorem refuses_angledPiece (p : Pattern) : Refuses kinds (angledPiece p) := by
  have hp : FailureKind.pattern ∈ kinds := h (by decide)
  unfold angledPiece
  refine .bind (refuses_take hp _) fun opened => ?_
  -- A number in angles is a group as well as a name is, and is told apart by its digits.
  extract_lets named
  have hnamed (u : PUnit) : Refuses kinds (named u) := by
    refine .bind (refuses_takeUntil hp _ _) fun name => ?_
    grind [Replacement.faultKinds]
  clear_value named
  grind

@[grind .]
theorem refuses_digitPiece (p : Pattern) (c : Char) : Refuses kinds (digitPiece p c) := by
  have hp : FailureKind.pattern ∈ kinds := h (by decide)
  unfold digitPiece
  refine .bind (refuses_takeWhile hp _ _) fun second => ?_
  split
  · grind
  · split
    · refine .bind (refuses_takeWhile hp _ _) fun third => ?_
      dsimp only
      split <;> grind
    · grind

@[grind .]
theorem refuses_escapePiece (p : Pattern) (c : Char) : Refuses kinds (escapePiece p c) := by
  have hp : FailureKind.pattern ∈ kinds := h (by decide)
  grind [escapePiece]

theorem refuses_pieces (p : Pattern) (fuel : Nat) : Refuses kinds (pieces p fuel) := by
  have hp : FailureKind.pattern ∈ kinds := h (by decide)
  induction fuel with
  | zero => grind [pieces]
  | succ fuel ih => grind [pieces]

/-- **Reading a replacement** fails in fewer ways, but a name in it may be unknown. -/
theorem Replacement.failsIn_ofText (p : Pattern) (text : String) :
    FailsIn kinds (Replacement.ofText p text) := by
  unfold Replacement.ofText
  extract_lets source
  split
  -- Without a backslash there is nothing to read: the text is put in as it stands.
  · refine .bind (Cursor.failsIn_start (h (by decide)) _) fun c => ?_
    exact .bind (refuses_pieces h p _ _) fun r => .pure _
  · exact .pure _

end Replacements

end Pattern

end Playbook
