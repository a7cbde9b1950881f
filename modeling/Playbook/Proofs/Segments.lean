import Playbook.Proofs.Shortcut

/-!
# Templates of texts and variables

Most templates put variables into texts and do nothing else. Such a template is a row of segments:
texts in which no tag starts, and tags with a name in them. This module says what it is read as.

* `Template.IsVariable`, `Template.Segment` — variables, and segments with the conditions that make
  them what they are.
* `Template.Tokens.Spells` — the tokens that spell segments.
* `Template.spells_scanText` — **the characters of segments are cut into such tokens.** What stands
  next to a tag does not matter, since a text does not start a tag and a tag ends with its braces.
* `Template.Reader.read_of_spells` — **the tokens are read as the segments,** and
  `Template.settlePart_segment` says that checking leaves them as they are.

Scanning goes through the segments with the text that is still pending, since texts that stand next
to each other are one token. Reading a name goes through all levels of operators, and
`Template.Reader.TakesName` is what each of them makes of a name at the end of a tag.
-/

namespace Playbook

namespace Template

/-! ### Segments -/

/-- Words that are no names of variables: operators, constants, and what is known everywhere. -/
def reservedWords : List String :=
  literalWords ++ ["not", "self", "range", "dict", "lipsum", "cycler", "joiner", "namespace"]

/-- Whether a character is an ASCII letter, an ASCII digit or the underscore. -/
def IsNameAscii (c : Char) : Prop := c = '_' ∨ c.isAlphanum = true

/-- **The name of a plain variable:** an ASCII identifier that is no reserved word. -/
structure IsVariable (name : String) : Prop where
  /-- It is not empty, and no digit comes first. -/
  start : ∃ c rest, name.toList = c :: rest ∧ c.isDigit = false
  /-- It consists of ASCII letters, digits and underscores. -/
  letters : ∀ c ∈ name.toList, IsNameAscii c
  /-- It is no reserved word. -/
  free : name ∉ reservedWords

/-- A variable is no constant. -/
theorem IsVariable.wordValue? {name : String} (h : IsVariable name) :
    Reader.wordValue? name = none := by
  have hfree := h.free
  simp only [reservedWords, literalWords, List.cons_append, List.mem_cons, not_or] at hfree
  simp [Reader.wordValue?, hfree]

theorem IsVariable.ne_of_mem {name word : String} (h : IsVariable name)
    (hword : word ∈ reservedWords) : name ≠ word :=
  fun heq => h.free (heq ▸ hword)

/-- A variable is nothing that is known everywhere. -/
theorem IsVariable.ofName? {name : String} (h : IsVariable name) : Known.ofName? name = none := by
  rw [Known.ofName?.eq_def]
  -- Each name that is known everywhere is among the reserved words.
  split
  all_goals first
    | rfl
    | exact absurd (by decide) h.free

/-- A part of a template that puts texts and variables together. -/
inductive Segment where
  /-- A text in which no tag starts and no line ends in another way than by a line feed. -/
  | text (s : String) (braceless : '\x7b' ∉ s.toList) (feeds : '\r' ∉ s.toList)
  /-- A variable. -/
  | value (name : String) (h : IsVariable name)

namespace Segment

/-- How a segment is written in a template. -/
def written : Segment → String
  | text s _ _ => s
  | value name _ => "\x7b\x7b " ++ name ++ " \x7d\x7d"

/-- What a segment gives when the names have these texts. -/
def filled (scope : List (String × String)) : Segment → String
  | text s _ _ => s
  | value name _ => (scope.lookup name).getD ""

/-- The name of a variable. -/
def name? : Segment → Option String
  | text _ _ _ => none
  | value name _ => some name

end Segment

/-- The characters of a template. -/
def spelling (segments : List Segment) : List Char := segments.flatMap fun g => g.written.toList

/-- What a template gives when the names have these texts. -/
def shown (scope : List (String × String)) (segments : List Segment) : List Char :=
  segments.flatMap fun g => (g.filled scope).toList

theorem shown_cons (scope : List (String × String)) (g : Segment) (segments : List Segment) :
    shown scope (g :: segments) = (g.filled scope).toList ++ shown scope segments :=
  List.flatMap_cons

/-! ### Characters of names -/

namespace IsNameAscii

variable {c : Char}

instance : DecidablePred IsNameAscii :=
  fun c => inferInstanceAs (Decidable (c = '_' ∨ c.isAlphanum = true))

theorem toNat_cases (h : IsNameAscii c) :
    c.toNat = 95 ∨ (48 ≤ c.toNat ∧ c.toNat ≤ 57) ∨ (65 ≤ c.toNat ∧ c.toNat ≤ 90) ∨
      (97 ≤ c.toNat ∧ c.toNat ≤ 122) := by
  obtain rfl | h := h
  · exact .inl rfl
  · exact .inr (Unicode.isAlphanum_cases h)

theorem isAscii (h : IsNameAscii c) : Unicode.isAscii c = true := by
  -- In each of the four ranges the code is below 128.
  have hcases := h.toNat_cases
  rw [Unicode.isAscii, decide_eq_true_eq]
  omega

theorem isBlank (h : IsNameAscii c) : Unicode.isBlank c = false := by
  have hcases := h.toNat_cases
  simp only [Unicode.isBlank, Bool.or_eq_false_iff, Bool.and_eq_false_iff, decide_eq_false_iff_not,
    beq_eq_false_iff_ne]
  omega

theorem isIdentifierPart (h : IsNameAscii c) : Unicode.isIdentifierPart c = true := by
  rw [Unicode.isIdentifierPart, if_pos h.isAscii]
  obtain rfl | h := h
  · rfl
  · rw [h, Bool.or_true]

theorem isIdentifierStart (h : IsNameAscii c) (hdigit : c.isDigit = false) :
    Unicode.isIdentifierStart c = true := by
  rw [Unicode.isIdentifierStart, if_pos h.isAscii]
  obtain rfl | h := h
  · rfl
  -- Without digits only letters are left.
  · rw [Char.isAlphanum, hdigit, Bool.or_false] at h
    rw [h, Bool.or_true]

theorem isDecimal (h : IsNameAscii c) (hdigit : c.isDigit = false) :
    Unicode.isDecimal c = false := by
  rw [Unicode.isDecimal, if_pos h.isAscii, hdigit]

theorem isNameChar (h : IsNameAscii c) : isNameChar c = true := by
  rw [Template.isNameChar, h.isIdentifierPart, Bool.or_true]

theorem ne (h : IsNameAscii c) {d : Char} (hd : ¬ IsNameAscii d) : c ≠ d :=
  fun heq => hd (heq ▸ h)

end IsNameAscii

/-- No integer starts with another character than a digit. -/
theorem integer?_of_not_digit {c : Char} {rest : List Char} (h : c.isDigit = false) :
    integer? (c :: rest) = none := by
  -- Neither of the two ways to start an integer applies, a zero or another digit.
  have hzero : c ≠ '0' := fun heq => by
    rw [heq] at h
    cases h
  have hnone : ¬ ('1' ≤ c ∧ c ≤ '9') := by
    rintro ⟨hone, hnine⟩
    have hle : '0' ≤ c := Char.le_trans (by decide) hone
    have hdigit : c.isDigit = true := by
      simp only [Char.isDigit, Bool.and_eq_true, decide_eq_true_eq]
      exact ⟨hle, hnine⟩
    rw [h] at hdigit
    cases hdigit
  rw [integer?.eq_def]
  split
  · next heq => exact absurd (List.cons.inj heq).1 hzero
  · next heq => exact absurd (List.cons.inj heq).1 hzero
  · next heq =>
    rw [← (List.cons.inj heq).1, if_neg hnone]
  · next heq => cases heq

/-- **A name is found** where it starts, up to the blank after it. -/
theorem foundAt_name {c : Char} {rest : List Char} (hc : c.isDigit = false)
    (hcs : ∀ d ∈ c :: rest, IsNameAscii d) (more : List Char) :
    foundAt false (c :: rest ++ ' ' :: more) =
      some (.lexeme (.name (String.ofList (c :: rest))), ' ' :: more) := by
  have hfirst : IsNameAscii c := hcs c List.mem_cons_self
  have hall : ∀ d ∈ c :: rest, isNameChar d = true := fun d hd => (hcs d hd).isNameChar
  -- A number is looked for before a name, and there is none as its first character is no digit.
  have hfloat : float? (c :: rest ++ ' ' :: more) = none := by
    rw [List.cons_append, float?, someDigits?, if_neg (by simp [hfirst.isDecimal hc])]
    rfl
  have hinteger : integer? (c :: rest ++ ' ' :: more) = none := integer?_of_not_digit hc
  have hblank : isNameChar ' ' = false := by decide
  -- The blank is the first character that cannot be in a name.
  have htake : (c :: rest ++ ' ' :: more).takeWhile isNameChar = c :: rest := by
    rw [List.takeWhile_append_of_pos hall,
      List.takeWhile_cons_of_neg (Bool.not_eq_true _ ▸ hblank), List.append_nil]
  have hdrop : (c :: rest ++ ' ' :: more).dropWhile isNameChar = ' ' :: more := by
    rw [List.dropWhile_append_of_pos hall,
      List.dropWhile_cons_of_neg (Bool.not_eq_true _ ▸ hblank)]
  have hidentifier : Unicode.isIdentifier (c :: rest) = true := by
    rw [Unicode.isIdentifier, hfirst.isIdentifierStart hc, Bool.true_and, List.all_eq_true]
    exact fun d hd => (hcs d (List.mem_cons_of_mem _ hd)).isIdentifierPart
  rw [List.cons_append] at hfloat hinteger htake hdrop ⊢
  rw [foundAt.eq_def]
  simp only [hfirst.isBlank, hall c List.mem_cons_self, hfloat, hinteger, htake, hdrop,
    hidentifier, if_true, Bool.false_eq_true, if_false]

/-! ### Tokens -/

/-- No tag starts in a text without braces. -/
theorem splitAtTag_of_braceless {text : List Char} (h : '\x7b' ∉ text) (rest : List Char) :
    splitAtTag (text ++ rest) = (text ++ (splitAtTag rest).1, (splitAtTag rest).2) := by
  induction text with
  | nil => rfl
  | cons c more ih =>
    rw [List.mem_cons, not_or] at h
    -- A tag starts with a brace, and this is none.
    have hstart : tagStart? (c :: (more ++ rest)) = none := by
      rw [tagStart?.eq_def]
      split
      · next heq => exact absurd (List.cons.inj heq).1.symm h.1
      · next heq => exact absurd (List.cons.inj heq).1.symm h.1
      · next heq => exact absurd (List.cons.inj heq).1.symm h.1
      · rfl
    rw [List.cons_append, splitAtTag, hstart, ih h.2]
    rfl

theorem splitAtTag_of_none {text : List Char} (h : '\x7b' ∉ text) :
    splitAtTag text = (text, none) := by
  have hsplit := splitAtTag_of_braceless h []
  rwa [List.append_nil, splitAtTag, List.append_nil] at hsplit

theorem splitAtTag_output (rest : List Char) :
    splitAtTag ('\x7b' :: '\x7b' :: ' ' :: rest) = ([], some (.output, .keep, ' ' :: rest)) := rfl

/-- **Tokens that spell segments.** No text is empty. -/
inductive Tokens.Spells : Tokens → List Segment → Prop
  /-- There is nothing more. -/
  | done : Spells Tokens.none []
  /-- A text comes first. -/
  | text {ts : Tokens} {segments : List Segment} (line : Nat) {s : String}
      (braceless : '\x7b' ∉ s.toList) (feeds : '\r' ∉ s.toList) (h : Spells ts segments) :
      Spells (.cons ⟨line, .data s.toList⟩ ts) (.text s braceless feeds :: segments)
  /-- A variable comes first. -/
  | value {ts : Tokens} {segments : List Segment} (first line last : Nat) {name : String}
      (hname : IsVariable name) (h : Spells ts segments) :
      Spells (.cons ⟨first, .outputStart⟩ (.cons ⟨line, .name name⟩ (.cons ⟨last, .outputEnd⟩ ts)))
        (.value name hname :: segments)

/-- An empty text is no token. -/
theorem Tokens.Spells.data {ts : Tokens} {segments : List Segment} (h : ts.Spells segments)
    (line : Nat) {s : String} (hbraceless : '\x7b' ∉ s.toList) (hfeeds : '\r' ∉ s.toList) :
    ∃ found : List Segment, (Tokens.data line s.toList ts).Spells found ∧
      ∀ scope, shown scope found = s.toList ++ shown scope segments := by
  rw [Tokens.data]
  -- By whether the text is empty: only another one is a token.
  split
  · next hempty =>
    refine ⟨segments, h, fun scope => ?_⟩
    rw [List.isEmpty_iff.1 hempty, List.nil_append]
  · exact ⟨.text s hbraceless hfeeds :: segments, .text line hbraceless hfeeds h, fun _ => rfl⟩

theorem skipBlanks_of_not {c : Char} {rest : List Char} (h : Unicode.isBlank c = false) :
    skipBlanks (c :: rest) = c :: rest := by
  rw [skipBlanks, List.dropWhile_cons, h]
  rfl

section ScanTag

variable {size line fuel : Nat} {kind : TagBody} {afterDot : Bool} {cs rest : List Char}

theorem scanTag_of_end (h : kind.end? cs = some rest) :
    scanTag size line kind [] afterDot cs (fuel + 1) =
      .cons ⟨line, kind.last⟩ (scanText size (lineAfter line cs rest) rest fuel) := by
  rw [scanTag.eq_def]
  simp only [List.isEmpty_nil, if_true, h]

theorem scanTag_of_blanks (hend : kind.end? cs = none)
    (h : foundAt afterDot cs = some (.blanks, rest)) :
    scanTag size line kind [] afterDot cs (fuel + 1) =
      scanTag size (lineAfter line cs rest) kind [] false rest fuel := by
  rw [scanTag.eq_def]
  simp only [List.isEmpty_nil, if_true, hend, h]

theorem scanTag_of_name {name : String} (hend : kind.end? cs = none)
    (h : foundAt afterDot cs = some (.lexeme (.name name), rest)) :
    scanTag size line kind [] afterDot cs (fuel + 1) =
      .cons ⟨line, .name name⟩
        (scanTag size (lineAfter line cs rest) kind [] false rest fuel) := by
  rw [scanTag.eq_def]
  simp only [List.isEmpty_nil, if_true, hend, h]

end ScanTag

theorem end?_of_nameAscii {c : Char} (hc : IsNameAscii c) (rest : List Char) :
    TagBody.output.end? (c :: rest) = none := by
  show tagEnd? '\x7d' '\x7d' false (c :: rest) = none
  -- A tag of output ends with two braces, after a minus maybe, and a name has none of these.
  rw [tagEnd?.eq_def]
  split
  · next heq => exact absurd (List.cons.inj heq).1 (hc.ne (by decide))
  · next heq => exact absurd (List.cons.inj heq).1 (hc.ne (by decide))
  · rw [after?, if_neg (hc.ne (by decide)).symm]

/-- The tokens of a tag with a name in it: blanks, the name, blanks, and the end of the tag. -/
theorem scanTag_value {name : String} (h : IsVariable name) (size line : Nat) (rest : List Char)
    (fuel : Nat) : ∃ line' last line'' : Nat,
    scanTag size line .output [] false
        (' ' :: (name.toList ++ ' ' :: '\x7d' :: '\x7d' :: rest)) (fuel + 4) =
      .cons ⟨line', .name name⟩ (.cons ⟨last, .outputEnd⟩ (scanText size line'' rest fuel)) := by
  obtain ⟨c, more, hname, hdigit⟩ := h.start
  have hletters := h.letters
  rw [hname] at hletters
  have hc : IsNameAscii c := hletters c List.mem_cons_self
  have hopening : ∀ rest, TagBody.output.end? (' ' :: rest) = none := fun _ => rfl
  have hclosing : TagBody.output.end? ('\x7d' :: '\x7d' :: rest) = some rest := rfl
  have hblank : ∀ {d : Char} {rest : List Char}, Unicode.isBlank d = false →
      foundAt false (' ' :: d :: rest) = some (.blanks, d :: rest) := by
    intro d rest hd
    show some (Found.blanks, skipBlanks (d :: rest)) = _
    rw [skipBlanks_of_not hd]
  have hfound := foundAt_name hdigit hletters ('\x7d' :: '\x7d' :: rest)
  -- The name is given by its characters here, and as a text in the statement.
  rw [← hname, String.ofList_toList, hname, List.cons_append] at hfound
  rw [hname, List.cons_append, scanTag_of_blanks (hopening _) (hblank hc.isBlank),
    scanTag_of_name (end?_of_nameAscii hc _) hfound,
    scanTag_of_blanks (hopening _) (hblank (by decide)), scanTag_of_end hclosing]
  exact ⟨_, _, _, rfl⟩

/-- The tokens of a text, of a tag with a name in it, and of what follows. -/
theorem scanText_value {text : List Char} (hbraceless : '\x7b' ∉ text) {name : String}
    (h : IsVariable name) (size line : Nat) (rest : List Char) (fuel : Nat) :
    ∃ first line' last line'' : Nat,
      scanText size line
          (text ++ '\x7b' :: '\x7b' :: ' ' :: (name.toList ++ ' ' :: '\x7d' :: '\x7d' :: rest))
          (fuel + 5) =
        .data line text (.cons ⟨first, .outputStart⟩ (.cons ⟨line', .name name⟩
          (.cons ⟨last, .outputEnd⟩ (scanText size line'' rest fuel)))) := by
  -- What stands in front of the tag is a text as a whole, and then the tag begins.
  obtain ⟨line', last, line'', htag⟩ := scanTag_value h size
    (lineAfter line
      (text ++ '\x7b' :: '\x7b' :: ' ' :: (name.toList ++ ' ' :: '\x7d' :: '\x7d' :: rest))
      (' ' :: (name.toList ++ ' ' :: '\x7d' :: '\x7d' :: rest))) rest fuel
  rw [scanText, splitAtTag_of_braceless hbraceless, splitAtTag_output, List.append_nil]
  dsimp only
  rw [htag]
  exact ⟨_, _, _, _, rfl⟩

/-- **A template that puts texts and variables together is cut into segments that show the same
as those that it was written from.** Texts that stand next to each other have been put together. -/
theorem spells_scanText (segments : List Segment) (size line : Nat) (pending : String)
    (hbraceless : '\x7b' ∉ pending.toList) (hfeeds : '\r' ∉ pending.toList) {fuel : Nat}
    (hfuel : (pending.toList ++ spelling segments).length < fuel) :
    ∃ found : List Segment,
      (scanText size line (pending.toList ++ spelling segments) fuel).Spells found ∧
      ∀ scope, shown scope found = pending.toList ++ shown scope segments := by
  -- Induction on the segments for all that is pending: a text is put off until a tag or the end
  -- comes.
  induction segments generalizing line pending fuel with
  | nil =>
    -- what is pending is the last text
    obtain ⟨fuel, rfl⟩ : ∃ k, fuel = k + 1 := ⟨fuel - 1, by omega⟩
    rw [spelling, List.flatMap_nil, List.append_nil, scanText, splitAtTag_of_none hbraceless]
    exact Tokens.Spells.done.data line hbraceless hfeeds
  | cons g more ih =>
    cases g with
    | text s braceless feeds =>
      -- the text joins what is pending
      have happend : (pending ++ s).toList = pending.toList ++ s.toList := String.toList_append
      have hmore := ih line (pending ++ s)
        (by rw [happend, List.mem_append, not_or]; exact ⟨hbraceless, braceless⟩)
        (by rw [happend, List.mem_append, not_or]; exact ⟨hfeeds, feeds⟩)
        (by rwa [happend, List.append_assoc])
      simp only [happend, List.append_assoc] at hmore
      exact hmore
    | value name hname =>
      -- what is pending is a text of its own, and nothing is pending after the tag
      have hwritten : spelling (.value name hname :: more) =
          '\x7b' :: '\x7b' :: ' ' :: (name.toList ++ ' ' :: '\x7d' :: '\x7d' :: spelling more) := by
        simp [spelling, Segment.written]
      rw [hwritten] at hfuel ⊢
      simp only [List.length_append, List.length_cons] at hfuel
      -- A text and the four steps of a tag take a round each.
      obtain ⟨fuel, rfl⟩ : ∃ k, fuel = k + 5 := ⟨fuel - 5, by omega⟩
      obtain ⟨first, line', last, line'', hscan⟩ :=
        scanText_value hbraceless hname size line (spelling more) fuel
      have hmore : ("".toList ++ spelling more).length < fuel := by
        rw [String.toList_empty, List.nil_append]
        omega
      obtain ⟨found, hspells, hshown⟩ := ih line'' "" List.not_mem_nil List.not_mem_nil hmore
      obtain ⟨found', hspells', hshown'⟩ :=
        (hspells.value first line' last hname).data line hbraceless hfeeds
      rw [hscan]
      refine ⟨found', hspells', fun scope => ?_⟩
      rw [hshown' scope, shown_cons, shown_cons, hshown scope]
      rfl

/-! ### Reading names -/

namespace Segment

/-- What a segment is read as. -/
def part : Segment → Part
  | text s _ _ => .data s.toList
  | value name _ => .value (.name name)

end Segment

namespace Reader

/-- A reader that takes a name at the end of a tag, and nothing else. -/
def TakesName (name : String) (r : Reader Expr) : Prop :=
  ∀ (line last : Nat) (rest : List Token) (fault : Option Failure) (open_ : List String)
    (sought : List (List String)),
    r ⟨⟨line, .name name⟩, ⟨last, .outputEnd⟩ :: rest, fault, open_, sought⟩ =
      .ok (.name name, ⟨⟨last, .outputEnd⟩, rest, fault, open_, sought⟩)

section TakesName

variable {α : Type} {s : TokenStream} {name : String}

theorem bind_of_ok {β : Type} {x : Reader α} {a : α} {s' : TokenStream} (h : x s = .ok (a, s'))
    (f : α → Reader β) : (x >>= f) s = f a s' := by
  show (x s).bind _ = _
  rw [h]
  rfl

/-- A step that makes no new value is not repeated. -/
theorem repeatFrom_of_none {a : α} {step : α → Reader (Option α)} (h : step a s = .ok (none, s)) :
    repeatFrom a step s = .ok (a, s) := by
  -- The number of rounds depends on what is left, so it is brought into the form that can be taken
  -- apart first.
  show iterate step (s.rest.length + 1 + 1) a s = _
  rw [iterate]
  show (step a s).bind _ = _
  rw [h]
  rfl

/-- A step that makes one new value is repeated once. -/
theorem repeatFrom_of_some {a b : α} {s' : TokenStream} {step : α → Reader (Option α)}
    (h : step a s = .ok (some b, s')) (hlast : step b s' = .ok (none, s')) :
    repeatFrom a step s = .ok (b, s') := by
  show iterate step (s.rest.length + 1 + 1) a s = _
  rw [iterate, bind_of_ok h]
  dsimp only
  rw [iterate, bind_of_ok hlast]
  rfl

variable {sub : ExprReader}

theorem takesName_signed (h : wordValue? name = none) : TakesName name (signed sub) := by
  intro line last rest fault open_ sought
  -- What may follow a name is an attribute, an item or a call, and the end of a tag is none of
  -- these.
  show (postfixes sub (wordExpr name)) ⟨⟨last, .outputEnd⟩, rest, fault, open_, sought⟩ = _
  rw [wordExpr, h]
  exact repeatFrom_of_none rfl

theorem takesName_refined (h : wordValue? name = none) : TakesName name (refined sub) := by
  intro line last rest fault open_ sought
  rw [refined, bind_of_ok (takesName_signed h ..)]
  exact repeatFrom_of_none rfl

/-- Nothing follows an operand at the end of a tag. -/
theorem TakesName.chain {operand : Reader Expr} {operator? : Lexeme → Option (Expr → Expr → Expr)}
    (h : TakesName name operand) (hend : operator? .outputEnd = none) :
    TakesName name (chain operand operator?) := by
  intro line last rest fault open_ sought
  rw [Reader.chain, bind_of_ok (h ..)]
  -- The end of the tag is no operator of this level.
  refine repeatFrom_of_none ?_
  rw [bind_of_ok rfl, hend]
  rfl

theorem takesName_concats (h : wordValue? name = none) : TakesName name (concats sub) := by
  have hproducts : TakesName name (products sub) :=
    ((takesName_refined h).chain rfl).chain rfl
  intro line last rest fault open_ sought
  rw [concats, bind_of_ok (hproducts ..), bind_of_ok (repeatFrom_of_none rfl)]
  rfl

theorem takesName_comparisons (h : wordValue? name = none) : TakesName name (comparisons sub) := by
  have hsums : TakesName name (sums sub) := (takesName_concats h).chain rfl
  intro line last rest fault open_ sought
  rw [comparisons, bind_of_ok (hsums ..), bind_of_ok (repeatFrom_of_none rfl)]
  rfl

/-- Here it matters that the name is not the word of a negation. -/
theorem takesName_negations (h : wordValue? name = none) (hnot : name ≠ "not") :
    TakesName name (negations sub) := by
  intro line last rest fault open_ sought
  have hskip : ∀ s : TokenStream, s.current.lexeme = .name name →
      skipIf (.name "not") s = .ok (false, s) := by
    intro s hs
    have hsees : (s.current.lexeme == Lexeme.name "not") = false := by
      rw [hs, beq_eq_false_iff_ne]
      exact fun heq => hnot (Lexeme.name.inj heq)
    show (if s.current.lexeme == Lexeme.name "not" then _ else pure false : Reader Bool) s = _
    rw [hsees]
    rfl
  rw [negations, bind_of_ok (hskip _ rfl)]
  exact takesName_comparisons h ..

theorem takesName_choices (h : wordValue? name = none) (hnot : name ≠ "not") :
    TakesName name (choices sub) := by
  -- From here on the levels are put on one another: and, or, and a choice.
  have hdisjunctions : TakesName name (disjunctions sub) :=
    ((takesName_negations h hnot).chain rfl).chain rfl
  intro line last rest fault open_ sought
  rw [choices, bind_of_ok (x := Reader.line) rfl, bind_of_ok (hdisjunctions ..),
    bind_of_ok (repeatFrom_of_none rfl)]
  rfl

/-- **A name at the end of a tag** is the whole expression of the tag. -/
theorem takesName_expressions (h : wordValue? name = none) (hnot : name ≠ "not") :
    TakesName name expressions := by
  intro line last rest fault open_ sought
  have hitem : TakesName name expression := by
    intro line last rest fault open_ sought
    -- Another expression starts with all the rounds that the tokens left allow for.
    show bounded (rest.length + 1 + 1 + 1) .choice _ = _
    exact takesName_choices h hnot ..
  have hrow : row [] expression
      ⟨⟨line, .name name⟩, ⟨last, .outputEnd⟩ :: rest, fault, open_, sought⟩ =
        .ok (([.name name], false), ⟨⟨last, .outputEnd⟩, rest, fault, open_, sought⟩) := by
    -- the item is taken in one step, and without a comma after it there is no other
    rw [row, bind_of_ok (repeatFrom_of_some (b := ([.name name], false, true)) ?_ rfl)]
    · rfl
    · refine (bind_of_ok (x := atRowEnd []) (a := false) rfl _).trans ?_
      exact (bind_of_ok (hitem ..) _).trans rfl
  rw [expressions, tuple, bind_of_ok hrow]
  rfl

end TakesName

/-! ### Reading segments -/

/-- A tag with a name in it is one part. -/
theorem parts_of_value {s : TokenStream} {statement : Reader Node} {ends : List String} {fuel : Nat}
    {pending : List Part} {name : String} {first line last : Nat} {rest : List Token}
    (hname : wordValue? name = none) (hnot : name ≠ "not")
    (hcurrent : s.current = ⟨first, .outputStart⟩)
    (hrest : s.rest = ⟨line, .name name⟩ :: ⟨last, .outputEnd⟩ :: rest) :
    parts statement ends (fuel + 1) pending s =
      (advance *> parts statement ends fuel (.value (.name name) :: pending))
        { s with current := ⟨last, .outputEnd⟩, rest } := by
  -- With the stream in the open its fields can be replaced by what is known of them.
  obtain ⟨_, _, fault, open_, sought⟩ := s
  obtain rfl : _ = _ := hcurrent
  obtain rfl : _ = _ := hrest
  show (do
      let e ← expressions
      expect .outputEnd
      parts statement ends fuel (.value e :: pending))
    ⟨⟨line, .name name⟩, ⟨last, .outputEnd⟩ :: rest, fault, open_, sought⟩ = _
  rw [bind_of_ok (takesName_expressions hname hnot ..)]
  rfl

/-- **Tokens that spell segments are read as these segments.** -/
theorem parts_of_spells {ts : Tokens} {segments : List Segment} (h : ts.Spells segments)
    (statement : Reader Node) (ends : List String) {fuel : Nat} (hfuel : ts.tokens.length < fuel)
    (pending : List Part) {s : TokenStream} (hrest : s.rest = ts.tokens)
    (hfault : s.fault = ts.fault) :
    ∃ s' : TokenStream, (advance *> parts statement ends fuel pending) s =
      .ok (outputOf ((segments.map Segment.part).reverse ++ pending), s') := by
  -- Along the segments. The parts that have been read are pending in reverse.
  induction h generalizing fuel pending s with
  | done =>
    obtain ⟨fuel, rfl⟩ : ∃ k, fuel = k + 1 := ⟨fuel - 1, by omega⟩
    rw [seq_of_ok (advance_of_nil hrest hfault), parts_of_finish rfl]
    exact ⟨_, rfl⟩
  | @text ts segments line t braceless feeds h ih =>
    rw [Tokens.tokens_cons, List.length_cons] at hfuel
    obtain ⟨fuel, rfl⟩ : ∃ k, fuel = k + 1 := ⟨fuel - 1, by omega⟩
    rw [seq_of_ok (advance_of_cons hrest), parts_of_data rfl]
    rw [List.map_cons, List.reverse_cons, List.append_assoc]
    exact ih (Nat.lt_of_succ_lt_succ hfuel) (.data t.toList :: pending) rfl hfault
  | @value ts segments first line last name hname h ih =>
    simp only [Tokens.tokens_cons, List.length_cons] at hfuel
    obtain ⟨fuel, rfl⟩ : ∃ k, fuel = k + 1 := ⟨fuel - 1, by omega⟩
    have hnot : name ≠ "not" := hname.ne_of_mem (by decide)
    rw [seq_of_ok (advance_of_cons hrest), parts_of_value hname.wordValue? hnot rfl rfl]
    rw [List.map_cons, List.reverse_cons, List.append_assoc]
    exact ih (by omega) (.value (.name name) :: pending) rfl hfault

/-- A template that spells segments is read as one output of these segments, if there are any. -/
theorem read_of_spells {ts : Tokens} {segments : List Segment} (h : ts.Spells segments) :
    template.read ts = .ok (outputOf (segments.map Segment.part).reverse) := by
  have hparts : ∃ s', (advance *> template) (start ts) =
      .ok (outputOf ((segments.map Segment.part).reverse ++ []), s') := by
    -- The first step decides how many rounds are allowed for, and so it is looked at by itself.
    cases hadvance : advance (start ts) with
    | error f =>
      -- tokens that spell segments do not break off
      obtain ⟨s', hs'⟩ := parts_of_spells h exhausted [] (Nat.lt_succ_self _) []
        (s := start ts) rfl rfl
      rw [seq_of_error hadvance] at hs'
      cases hs'
    | ok result =>
      obtain ⟨⟨⟩, s'⟩ := result
      have hlength := length_advance hadvance
      have hread := parts_of_spells h (statementWithin (s'.rest.length + 2)) []
        (show ts.tokens.length < s'.rest.length + 2 from Nat.lt_succ_of_le hlength) []
        (s := start ts) rfl rfl
      rw [seq_of_ok hadvance] at hread ⊢
      exact hread
  obtain ⟨s', hs'⟩ := hparts
  show ((advance *> template) (start ts)).map (·.1) = _
  rw [hs', List.append_nil]
  rfl

end Reader

/-! ### Checking segments -/

/-- A name is nothing that can be worked out before the template is run. -/
theorem constantText?_name (name : String) : Expr.constantText? (.name name) = none := rfl

/-- **A segment is run as it is read.** -/
theorem settlePart_segment (p : CheckPlace) (g : Segment) :
    settlePart vocabulary p g.part = .ok g.part := by
  cases g with
  | text s _ _ => rfl
  | value name h =>
    -- A name has no text before the template is run, wherever it stands.
    have htext : (if p.folds then vocabulary.text? (.name name) else none) = none := by
      show (if p.folds then Expr.constantText? (.name name) else none) = none
      rw [constantText?_name, ite_self]
    rw [Segment.part, settlePart, htext]
    dsimp only
    have hfold : vocabulary.fold (.name name) = .ok (.name name) := by
      show Expr.fold (.name name) = _
      rw [Expr.fold]
    rw [settleExpr, hfold, ite_self]
    · rfl
    all_goals exact fun _ h => by cases h

end Template

end Playbook
