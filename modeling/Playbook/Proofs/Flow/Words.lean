import Playbook.Proofs.JsonReader
import Playbook.Yaml.Token.Scalar

/-!
# Words of JSON as words of documents

A JSON document is almost a document on one line whose collections stand between brackets. Here its
words are read as words of such a document: a quoted text stands for the same text, since all
escapes of JSON have the same meaning, and a number or a name stands for itself up to the character
that follows it.

* `Yaml.Printable` — the characters that a JSON document in ASCII consists of; a reading position
  moves over each of them by one column.
* `Yaml.OpensText` — what stands between quotes is read as a text. The escapes of characters are put
  in front one by one (`opensText_escapeChar`), although the reader takes whole runs of characters.
* `Yaml.readQuoted_quote`, `Yaml.readPlain_word` — **a quoted text and a plain word are read.**

A character outside the first plane is escaped as two halves, of which the reader of documents makes
two characters; texts with such characters are left out here.
-/

namespace Playbook.Yaml

/-! ### Positions -/

/-- Whether a character is printable ASCII. -/
def Printable (c : Char) : Prop := 0x20 ≤ c.toNat ∧ c.toNat < 0x7F

instance (c : Char) : Decidable (Printable c) := inferInstanceAs (Decidable (_ ∧ _))

/-- The place that many columns on. -/
def Mark.right (m : Mark) (n : Nat) : Mark := ⟨m.index + n, m.line, m.column + n⟩

theorem Mark.right_right (m : Mark) (n k : Nat) : (m.right n).right k = m.right (n + k) := by
  simp only [right, Nat.add_assoc]

theorem Printable.isBreak {c : Char} (h : Printable c) : isBreak c = false := by
  have hne : ∀ d : Char, d.toNat < 0x20 ∨ 0x7F ≤ d.toNat → c ≠ d := by
    rintro d hd rfl
    have hc := h
    rw [Printable] at hc
    omega
  rw [Printable] at h
  simp only [Yaml.isBreak, Bool.or_eq_false_iff, beq_eq_false_iff_ne]
  refine ⟨⟨⟨⟨hne _ (.inl (by decide)), hne _ (.inl (by decide))⟩, ?_⟩, ?_⟩, ?_⟩ <;> omega

/-- The space is the only blank that is printable. -/
theorem Printable.isBreakOrBlank {c : Char} (h : Printable c) (hspace : c ≠ ' ') :
    isBreakOrBlank c = false := by
  have htab : c ≠ '\t' := by
    rintro rfl
    exact absurd h (by decide)
  have hending : c ≠ ending := by
    rintro rfl
    exact absurd h (by decide)
  simp [Yaml.isBreakOrBlank, isBreakOrSpace, isBreakOrEnd, h.isBreak, htab, hending, hspace]

namespace Cursor

variable {c : Char} {cs rest : List Char} {m : Mark}

theorem next_printable (h : Printable c) : next ⟨c :: rest, m⟩ = ⟨rest, m.right 1⟩ := by
  have hreturn : c ≠ '\r' := by
    rintro rfl
    exact absurd h (by decide)
  have hmark : c.toNat ≠ 0xFEFF := by
    rw [Printable] at h
    omega
  -- Neither a line break nor a byte order mark, so the position moves on by one column.
  rw [next]
  dsimp only
  rw [if_neg fun hc => hreturn hc.1, h.isBreak, if_neg (by decide), if_neg hmark]
  rfl

/-- A position moves over printable characters by one column each. -/
theorem advance_printable (h : ∀ c ∈ cs, Printable c) :
    advance ⟨cs ++ rest, m⟩ cs.length = ⟨rest, m.right cs.length⟩ := by
  induction cs generalizing m with
  | nil => rfl
  | cons c more ih =>
    obtain ⟨hc, hmore⟩ := List.forall_mem_cons.1 h
    rw [List.length_cons, List.cons_append, advance, next_printable hc, ih hmore, Mark.right_right,
      Nat.add_comm]

theorem rest_next (c : Cursor) : c.next.rest = c.rest.tail := by
  obtain ⟨cs, m⟩ := c
  cases cs with
  | nil => rfl
  | cons c rest =>
    rw [next]
    dsimp only
    split
    · rfl
    · split
      · rfl
      · split <;> rfl

theorem rest_advance (c : Cursor) (n : Nat) : (c.advance n).rest = c.rest.drop n := by
  induction n generalizing c with
  | zero => rfl
  | succ n ih => rw [advance, ih, rest_next, List.drop_tail, Nat.add_comm]

/-- The characters that pass a test end where one fails it. -/
theorem upTo_append {p : Char → Bool} (h : ∀ c ∈ cs, p c = true)
    (hrest : ∀ c ∈ rest.head?, p c = false) : upTo ⟨cs ++ rest, m⟩ p = cs := by
  rw [upTo, List.takeWhile_append_of_pos h]
  cases rest with
  | nil => rw [List.takeWhile_nil, List.append_nil]
  | cons c more =>
    rw [List.takeWhile_cons_of_neg (by rw [hrest c rfl]; decide), List.append_nil]

end Cursor

/-! ### Quoted texts -/

/-- **What stands between quotes is read as a text,** whatever follows the closing quote. The reader
needs a step for each character at most. -/
structure OpensText (body text : List Char) : Prop where
  /-- It consists of printable characters. -/
  printable : ∀ c ∈ body, Printable c
  /-- It is read as the text. -/
  reads (began : Mark) (fuel : Nat) (m : Mark) (rest : List Char) (hfuel : body.length < fuel) :
    readQuotedFrom true began fuel ⟨body ++ '"' :: rest, m⟩ =
      .ok (text, ⟨'"' :: rest, m.right body.length⟩)

theorem opensText_nil : OpensText [] [] := by
  refine ⟨fun c hc => (nomatch hc), fun began fuel m rest hfuel => ?_⟩
  -- The closing quote ends the run, and one step finds it.
  obtain ⟨fuel, rfl⟩ : ∃ k, fuel = k + 1 := ⟨fuel - 1, by omega⟩
  rfl

variable {c : Char} {body text : List Char}

/-- Whether a step of the reader takes all characters that pass a test, as long as only printable
characters stand before the closing quote. -/
def TakesRun (p : Char → Bool) : Prop :=
  ∀ (began : Mark) (fuel : Nat) (m : Mark) (body rest : List Char), (∀ c ∈ body, Printable c) →
    Cursor.upTo ⟨body ++ '"' :: rest, m⟩ p ≠ [] →
    readQuotedFrom true began (fuel + 1) ⟨body ++ '"' :: rest, m⟩ =
      (readQuotedFrom true began fuel (Cursor.advance ⟨body ++ '"' :: rest, m⟩
        (Cursor.upTo ⟨body ++ '"' :: rest, m⟩ p).length)).map
          fun r => (Cursor.upTo ⟨body ++ '"' :: rest, m⟩ p ++ r.1, r.2)

/-- A character that stands for itself. What follows it is read in the same step if the run goes on,
and in the next step if it does not. -/
theorem TakesRun.opensText {p : Char → Bool} (hp : TakesRun p) (h : OpensText body text)
    (hc : Printable c) (hpc : p c = true) : OpensText (c :: body) (c :: text) := by
  have hprintable : ∀ d ∈ c :: body, Printable d := List.forall_mem_cons.2 ⟨hc, h.printable⟩
  refine ⟨hprintable, fun began fuel m rest hfuel => ?_⟩
  obtain ⟨fuel, rfl⟩ : ∃ k, fuel = k + 1 := ⟨fuel - 1, by omega⟩
  rw [List.length_cons] at hfuel ⊢
  have hrun : Cursor.upTo ⟨c :: (body ++ '"' :: rest), m⟩ p =
      c :: Cursor.upTo ⟨body ++ '"' :: rest, m.right 1⟩ p :=
    List.takeWhile_cons_of_pos hpc
  have hright : m.right (body.length + 1) = (m.right 1).right body.length := by
    rw [Mark.right_right, Nat.add_comm]
  rw [hp began fuel m (c :: body) rest hprintable
    (by rw [List.cons_append, hrun]; exact List.cons_ne_nil _ _), List.cons_append, hrun,
    List.length_cons, Cursor.advance, Cursor.next_printable hc, hright]
  -- The run goes on behind the character, or it ends there. In the first case the step that reads
  -- what is left would have taken the rest of the run.
  by_cases hne : Cursor.upTo ⟨body ++ '"' :: rest, m.right 1⟩ p = []
  · rw [hne, List.length_nil, Cursor.advance, h.reads began _ _ rest (by omega)]
    rfl
  · have hread := h.reads began (fuel + 1) (m.right 1) rest (by omega)
    rw [hp began fuel _ body rest h.printable hne] at hread
    cases hlater : readQuotedFrom true began fuel (Cursor.advance ⟨body ++ '"' :: rest, m.right 1⟩
        (Cursor.upTo ⟨body ++ '"' :: rest, m.right 1⟩ p).length) with
    | error e =>
      rw [hlater] at hread
      cases hread
    | ok r =>
      rw [hlater] at hread
      obtain ⟨hr, hcursor⟩ := Prod.mk.inj (Except.ok.inj hread)
      rw [← hr, ← hcursor]
      rfl

theorem takesRun_plain : TakesRun isQuotedPlain := by
  intro began fuel m body rest _ hne
  rw [readQuotedFrom]
  dsimp only
  rw [if_pos (by simp [hne])]
  rfl

/-- Whether a character is a blank inside quotes. -/
def isQuotedBlank (c : Char) : Bool := c == ' ' || c == '\t'

/-- Behind the blanks at the start of what is quoted stands a printable character, if only that of
the closing quote. -/
theorem exists_dropWhile_blank {body : List Char} (h : ∀ c ∈ body, Printable c)
    (rest : List Char) : ∃ d more,
      (body ++ '"' :: rest).dropWhile isQuotedBlank = d :: more ∧ Printable d := by
  induction body with
  | nil => exact ⟨'"', rest, rfl, by decide⟩
  | cons c cs ih =>
    obtain ⟨hc, hcs⟩ := List.forall_mem_cons.1 h
    rw [List.cons_append]
    by_cases hblank : isQuotedBlank c = true
    · rw [List.dropWhile_cons_of_pos hblank]
      exact ih hcs
    · rw [List.dropWhile_cons_of_neg hblank]
      exact ⟨c, _, rfl, hc⟩

/-- Blanks in what is quoted are taken as they are, since the line does not end after them. -/
theorem readQuotedSpaces_blank (began m : Mark) {body : List Char} (h : ∀ c ∈ body, Printable c)
    (rest : List Char) :
    readQuotedSpaces began ⟨body ++ '"' :: rest, m⟩ =
      .ok (Cursor.upTo ⟨body ++ '"' :: rest, m⟩ isQuotedBlank,
        Cursor.advance ⟨body ++ '"' :: rest, m⟩
          (Cursor.upTo ⟨body ++ '"' :: rest, m⟩ isQuotedBlank).length) := by
  obtain ⟨d, more, hmore, hd⟩ := exists_dropWhile_blank h rest
  have hdrop := @List.drop_left _ ((body ++ '"' :: rest).takeWhile isQuotedBlank)
    ((body ++ '"' :: rest).dropWhile isQuotedBlank)
  rw [List.takeWhile_append_dropWhile, hmore] at hdrop
  change List.drop (Cursor.upTo ⟨body ++ '"' :: rest, m⟩ isQuotedBlank).length _ = _ at hdrop
  have hpeek : (Cursor.advance ⟨body ++ '"' :: rest, m⟩
      (Cursor.upTo ⟨body ++ '"' :: rest, m⟩ isQuotedBlank).length).peek = d := by
    rw [Cursor.peek, Cursor.rest_advance, hdrop]
    rfl
  have hending : d ≠ ending := by
    rintro rfl
    exact absurd hd (by decide)
  rw [readQuotedSpaces]
  dsimp only
  rw [show (fun ch : Char => ch == ' ' || ch == '\t') = isQuotedBlank from rfl, hpeek,
    if_neg hending, hd.isBreak]
  exact if_neg (by decide)

/-- Blanks stand for themselves. -/
theorem takesRun_blank : TakesRun isQuotedBlank := by
  intro began fuel m body rest hprintable hne
  -- the first blank is a space, as a tab is not printable
  obtain ⟨cs, rfl⟩ : ∃ cs, body = ' ' :: cs := by
    cases body with
    | nil => exact absurd rfl hne
    | cons c cs =>
      by_cases hblank : isQuotedBlank c = true
      · have hc := (List.forall_mem_cons.1 hprintable).1
        rw [isQuotedBlank, Bool.or_eq_true, beq_iff_eq, beq_iff_eq] at hblank
        obtain rfl | rfl := hblank
        · exact ⟨cs, rfl⟩
        · exact absurd hc (by decide)
      · exact absurd (List.takeWhile_cons_of_neg hblank) hne
  have hspaces := readQuotedSpaces_blank began m hprintable rest
  generalize Cursor.upTo ⟨' ' :: cs ++ '"' :: rest, m⟩ isQuotedBlank = run at hspaces ⊢
  rw [readQuotedFrom]
  dsimp only
  rw [hspaces]
  rfl

/-- A backslash goes before an escape. -/
theorem readQuotedFrom_backslash (began : Mark) (fuel : Nat) (m : Mark) (cs : List Char) :
    readQuotedFrom true began (fuel + 1) ⟨'\\' :: cs, m⟩ =
      (readEscape began ⟨cs, m.right 1⟩).bind fun r =>
        (readQuotedFrom true began fuel r.2).map fun q => (r.1 ++ q.1, q.2) := rfl

/-- An escape stands for a character. -/
theorem opensText_escape (h : OpensText body text) (escape : List Char) {e : Char}
    (hprintable : ∀ c ∈ escape, Printable c)
    (hread : ∀ (began m : Mark) (rest : List Char), readEscape began ⟨escape ++ rest, m⟩ =
      .ok ([e], ⟨rest, m.right escape.length⟩)) :
    OpensText ('\\' :: (escape ++ body)) (e :: text) := by
  refine ⟨List.forall_mem_cons.2 ⟨by decide, ?_⟩, fun began fuel m rest hfuel => ?_⟩
  -- One step for the escape, and those that the rest needs.
  · exact List.forall_mem_append.2 ⟨hprintable, h.printable⟩
  obtain ⟨fuel, rfl⟩ : ∃ k, fuel = k + 1 := ⟨fuel - 1, by omega⟩
  rw [List.length_cons, List.length_append] at hfuel ⊢
  have hright : m.right (escape.length + body.length + 1) =
      ((m.right 1).right escape.length).right body.length := by
    rw [Mark.right_right, Mark.right_right, Nat.add_comm]
  rw [List.cons_append, List.append_assoc, readQuotedFrom_backslash, hread]
  show (readQuotedFrom true began fuel ⟨body ++ '"' :: rest, _⟩).map _ = _
  rw [h.reads began _ _ rest (by omega), hright]
  rfl

/-- The escape of a character by one letter. -/
theorem opensText_letter (h : OpensText body text) {x e : Char} (hx : Printable x)
    (hescape : simpleEscape? x = some e) : OpensText ('\\' :: x :: body) (e :: text) := by
  refine opensText_escape h [x] (fun c hc => ?_) fun began m rest => ?_
  · rwa [List.mem_singleton.1 hc]
  · have hpeek : Cursor.peek ⟨[x] ++ rest, m⟩ = x := rfl
    rw [readEscape]
    dsimp only
    rw [hpeek, hescape]
    dsimp only
    rw [List.singleton_append, Cursor.next_printable hx]
    rfl

theorem hexDigit_facts : ∀ n < 16, Printable (Literal.hexDigit n) ∧
    isHexDigit (Literal.hexDigit n) = true ∧ hexValue (Literal.hexDigit n) = n := by
  decide

theorem exists_of_mem_hex {c : Char} {width n : Nat} (h : c ∈ Literal.hex width n) :
    ∃ k < 16, c = Literal.hexDigit k := by
  induction width generalizing n with
  | zero => cases h
  | succ width ih =>
    obtain h | h := List.mem_append.1 h
    · exact ih h
    · exact ⟨n % 16, Nat.mod_lt _ (by decide), List.mem_singleton.1 h⟩

theorem printable_of_mem_hex {c : Char} {width n : Nat} (h : c ∈ Literal.hex width n) :
    Printable c := by
  obtain ⟨k, hk, rfl⟩ := exists_of_mem_hex h
  exact (hexDigit_facts k hk).1

/-- Four digits of a number are read as this number. -/
theorem readEscape_unit {n : Nat} (hn : n < 0x10000) (began m : Mark) (rest : List Char) :
    readEscape began ⟨'u' :: Literal.hex 4 n ++ rest, m⟩ =
      .ok ([CodePoint.toChar n], ⟨rest, m.right 5⟩) := by
  have hnext : Cursor.next ⟨'u' :: Literal.hex 4 n ++ rest, m⟩ =
      ⟨Literal.hex 4 n ++ rest, m.right 1⟩ := Cursor.next_printable (by decide)
  -- All four digits are hexadecimal, and their value is the number that they were written from.
  have hnone : firstNonHex? ⟨Literal.hex 4 n ++ rest, m.right 1⟩ 4 = none := by
    show (Literal.hex 4 n).find? _ = none
    rw [List.find?_eq_none]
    intro c hc
    obtain ⟨k, hk, rfl⟩ := exists_of_mem_hex hc
    rw [(hexDigit_facts k hk).2.1]
    decide
  have hvalue : (Literal.hex 4 n).foldl (fun n d => n * 16 + hexValue d) 0 = n := by
    have hdigit (k : Nat) := (hexDigit_facts (k % 16) (Nat.mod_lt _ (by decide))).2.2
    simp only [Literal.hex, List.nil_append, List.cons_append, List.foldl_cons, List.foldl_nil,
      hdigit]
    omega
  have hadvance : Cursor.advance ⟨Literal.hex 4 n ++ rest, m.right 1⟩ 4 =
      ⟨rest, (m.right 1).right 4⟩ :=
    Cursor.advance_printable fun c hc => printable_of_mem_hex hc
  have hsimple : simpleEscape? (Cursor.peek ⟨'u' :: Literal.hex 4 n ++ rest, m⟩) = none := rfl
  have hwidth : escapeWidth? (Cursor.peek ⟨'u' :: Literal.hex 4 n ++ rest, m⟩) = some 4 := rfl
  have htake : (Literal.hex 4 n ++ rest).take 4 = Literal.hex 4 n := rfl
  rw [readEscape]
  dsimp only
  rw [hnext]
  rw [hsimple, hwidth]
  dsimp only
  rw [hnone]
  dsimp only
  rw [htake, hvalue, hadvance, if_neg (by omega), Mark.right_right]

/-- The escape of a code unit stands for the character of this unit. -/
theorem opensText_unit (h : OpensText body text) {n : Nat} (hn : n < 0x10000) :
    OpensText ('\\' :: 'u' :: Literal.hex 4 n ++ body) (CodePoint.toChar n :: text) := by
  refine opensText_escape h ('u' :: Literal.hex 4 n) ?_ fun began m rest => ?_
  · exact List.forall_mem_cons.2 ⟨by decide, fun c hc => printable_of_mem_hex hc⟩
  · exact readEscape_unit hn began m rest

/-- An apostrophe stands for itself between double quotes. -/
theorem opensText_apostrophe (h : OpensText body text) :
    OpensText ('\'' :: body) ('\'' :: text) := by
  refine ⟨List.forall_mem_cons.2 ⟨by decide, h.printable⟩, fun began fuel m rest hfuel => ?_⟩
  obtain ⟨fuel, rfl⟩ : ∃ k, fuel = k + 1 := ⟨fuel - 1, by omega⟩
  rw [List.length_cons] at hfuel ⊢
  have hstep : readQuotedFrom true began (fuel + 1) ⟨'\'' :: (body ++ '"' :: rest), m⟩ =
      (readQuotedFrom true began fuel ⟨body ++ '"' :: rest, m.right 1⟩).map
        fun q => ('\'' :: q.1, q.2) := rfl
  rw [List.cons_append, hstep, h.reads began _ _ rest (by omega), Nat.add_comm, ← Mark.right_right]
  rfl

/-- The character that stands for the code point of a character is this character. -/
theorem toChar_ofChar (c : Char) : CodePoint.toChar (CodePoint.ofChar c) = c := by
  rw [CodePoint.ofChar]
  by_cases hhalf : CodePoint.isHalf c = true
  · rw [if_pos hhalf]
    -- A half stands outside of the characters, by the distance at which halves are kept.
    rw [CodePoint.isHalf, Bool.and_eq_true, decide_eq_true_eq, decide_eq_true_eq] at hhalf
    simp only [CodePoint.firstHalf, CodePoint.halves, CodePoint.distance] at hhalf
    rw [CodePoint.toChar, if_pos]
    · simp only [CodePoint.distance]
      rw [Nat.sub_add_cancel (by omega), Char.ofNat_toNat]
    · simp only [CodePoint.firstHalf, CodePoint.halves, CodePoint.distance]
      omega
  · rw [if_neg hhalf]
    exact Json.toChar_toNat c

theorem printable_of_ofChar {c : Char}
    (h : 0x20 ≤ CodePoint.ofChar c ∧ CodePoint.ofChar c < 0x7F) : Printable c := by
  by_cases hhalf : CodePoint.isHalf c = true
  · -- a half is no character of ASCII
    have hofChar : CodePoint.ofChar c = c.toNat - CodePoint.distance := if_pos hhalf
    rw [CodePoint.isHalf, Bool.and_eq_true, decide_eq_true_eq, decide_eq_true_eq] at hhalf
    simp only [hofChar, CodePoint.firstHalf, CodePoint.halves, CodePoint.distance] at hhalf h
    omega
  · rwa [Json.ofChar_of_not_isHalf (eq_false_of_ne_true hhalf)] at h

/-- **The escape of a character** of the first plane stands for this character. -/
theorem opensText_escapeChar (h : OpensText body text) (hc : CodePoint.ofChar c < 0x10000) :
    OpensText (Json.escapeChar c ++ body) (c :: text) := by
  have hletters : ∀ e ∈ Json.escapeLetters, Printable e.1 ∧ simpleEscape? e.1 = some e.2 := by
    decide
  have hescape := Json.escape_escapeChar c
  generalize Json.escapeChar c = escape at hescape ⊢
  cases hescape with
  | letter hx =>
    obtain ⟨hprintable, hletter⟩ := hletters _ hx
    exact opensText_letter h hprintable hletter
  | plain hquote hslash hplain =>
    have hprintable : Printable c := printable_of_ofChar hplain
    -- Blanks and apostrophes are read in steps of their own, and other characters in runs.
    by_cases hspace : c = ' '
    · subst hspace
      exact takesRun_blank.opensText h (by decide) rfl
    by_cases hapostrophe : c = '\''
    · subst hapostrophe
      exact opensText_apostrophe h
    have hitself : isQuotedPlain c = true := by
      rw [isQuotedPlain, hprintable.isBreakOrBlank hspace]
      simp [hapostrophe, hquote, hslash]
    exact takesRun_plain.opensText h hprintable hitself
  | unit =>
    have hunit := opensText_unit h hc
    rw [toChar_ofChar] at hunit
    exact hunit
  | pair hlarge => exact absurd hc hlarge

/-- **A text is read back from between its quotes.** -/
theorem opensText_flatMap {cs : List Char} (hcs : ∀ c ∈ cs, CodePoint.ofChar c < 0x10000) :
    OpensText (cs.flatMap Json.escapeChar) cs := by
  induction cs with
  | nil => exact opensText_nil
  | cons c more ih =>
    obtain ⟨hc, hmore⟩ := List.forall_mem_cons.1 hcs
    rw [List.flatMap_cons]
    exact opensText_escapeChar (ih hmore) hc

/-- **A quoted text is read.** -/
theorem readQuoted_quote {s : String} (hs : ∀ c ∈ s.toList, CodePoint.ofChar c < 0x10000) (m : Mark)
    (rest : List Char) :
    ∃ t, readQuoted ⟨(Json.quote s).toList ++ rest, m⟩ =
        .ok (t, ⟨rest, m.right (Json.quote s).toList.length⟩) ∧ t.kind = .scalar s .double := by
  have hopens := opensText_flatMap hs
  generalize hbody : s.toList.flatMap Json.escapeChar = body at hopens
  have hquote : (Json.quote s).toList = '"' :: body ++ ['"'] := by
    rw [Json.quote, String.toList_ofList, hbody]
  have hcursor : (Json.quote s).toList ++ rest = '"' :: (body ++ '"' :: rest) := by
    rw [hquote, List.cons_append, List.cons_append, List.append_assoc]
    rfl
  have hlength : (Json.quote s).toList.length = 1 + body.length + 1 := by
    rw [hquote, List.length_append, List.length_cons, List.length_singleton, Nat.add_comm 1]
  -- The bound is twice the length of the source, and the text is a part of it.
  have hfuel : body.length < 2 * ('"' :: (body ++ '"' :: rest)).length + 2 := by
    rw [List.length_cons, List.length_append]
    omega
  rw [hcursor, hlength, ← Mark.right_right, ← Mark.right_right, readQuoted]
  dsimp only
  rw [Cursor.next_printable (c := '"') (by decide), show
    (Cursor.peek ⟨'"' :: (body ++ '"' :: rest), m⟩ == '"') = true from rfl,
    hopens.reads m _ (m.right 1) rest hfuel]
  refine ⟨_, congrArg (fun c => Except.ok (_, c)) (Cursor.next_printable (by decide)), ?_⟩
  dsimp only
  rw [if_pos rfl, String.ofList_toList]

/-! ### Plain words -/

/-- The characters of numbers and names. -/
def isWordChar (c : Char) : Bool := c.isAlphanum || c == '-'

/-- What can follow a value between brackets. -/
def EndsValue (rest : List Char) : Prop :=
  ∃ c more, rest = c :: more ∧ (c = ',' ∨ c = ']' ∨ c = '\x7d')

theorem ne_of_isWordChar {c d : Char} (hc : isWordChar c = true) (hd : isWordChar d = false) :
    c ≠ d := by
  rintro rfl
  rw [hc] at hd
  cases hd

/-- None of some characters that no word has. -/
theorem contains_of_isWordChar {c : Char} (hc : isWordChar c = true) {cs : List Char}
    (hcs : cs.any isWordChar = false) : cs.contains c = false := by
  rw [List.contains_eq_any_beq, List.any_eq_false]
  intro d hd hsame
  rw [eq_of_beq hsame] at hc
  exact List.any_eq_false.1 hcs d hd hc

theorem printable_of_isWordChar {c : Char} (hc : isWordChar c = true) : Printable c := by
  rw [isWordChar, Bool.or_eq_true, beq_iff_eq] at hc
  obtain hc | rfl := hc
  · have hcases := Unicode.isAlphanum_cases hc
    rw [Printable]
    omega
  · decide

/-- A word goes on as long as its characters do. -/
theorem plainRun_append {word rest : List Char} (hword : ∀ c ∈ word, isWordChar c = true)
    (hrest : EndsValue rest) : plainRun true (word ++ rest) = word := by
  induction word with
  -- The run ends at the comma or the bracket that ends the value.
  | nil =>
    obtain ⟨c, more, rfl, hends⟩ := hrest
    rw [List.nil_append, plainRun]
    obtain rfl | rfl | rfl := hends <;> rfl
  | cons c more ih =>
    obtain ⟨hc, hmore⟩ := List.forall_mem_cons.1 hword
    have hblank : isBreakOrBlank c = false :=
      (printable_of_isWordChar hc).isBreakOrBlank (ne_of_isWordChar hc (by decide))
    have hcolon : (c == ':') = false := beq_false_of_ne (ne_of_isWordChar hc (by decide))
    have hindicator : ",?[]\x7b\x7d".toList.contains c = false :=
      contains_of_isWordChar hc (by decide)
    rw [List.cons_append, plainRun, ih hmore, hblank, hcolon, hindicator]
    rfl

/-- **A plain word is read** up to the end of its value. -/
theorem readPlain_word {word rest : List Char} (hword : ∀ c ∈ word, isWordChar c = true)
    (hne : word ≠ []) (hrest : EndsValue rest) (indent : Int) (m : Mark) :
    ∃ t, readPlain true indent ⟨word ++ rest, m⟩ = ((t, false), ⟨rest, m.right word.length⟩) ∧
      t.kind = .scalar (String.ofList word) .plain := by
  have hrun := plainRun_append hword hrest
  have hadvance : Cursor.advance ⟨word ++ rest, m⟩ word.length = ⟨rest, m.right word.length⟩ :=
    Cursor.advance_printable fun c hc => printable_of_isWordChar (hword c hc)
  -- No blank follows the word, so the scalar does not go on behind one.
  have hspaces : readPlainSpaces ⟨rest, m.right word.length⟩ =
      (([], false), ⟨rest, m.right word.length⟩) := by
    obtain ⟨c, more, rfl, hends⟩ := hrest
    obtain rfl | rfl | rfl := hends <;> rfl
  have hpeek : Cursor.peek ⟨word ++ rest, m⟩ ≠ '#' := by
    cases word with
    | nil => exact absurd rfl hne
    | cons c more => exact ne_of_isWordChar (hword c List.mem_cons_self) (by decide)
  have hread : readPlainFrom true (indent + 1) ((word ++ rest).length + 1) [] ⟨[], m, false⟩
      ⟨word ++ rest, m⟩ = (⟨word, m.right word.length, false⟩, ⟨rest, m.right word.length⟩) := by
    rw [readPlainFrom, if_neg hpeek]
    dsimp only
    rw [hrun, if_neg (by simpa using hne), hadvance, hspaces]
    exact if_pos (.inl rfl)
  refine ⟨⟨.scalar (String.ofList word) .plain, m, m.right word.length⟩, ?_, rfl⟩
  rw [readPlain]
  dsimp only
  rw [hread]

end Playbook.Yaml
