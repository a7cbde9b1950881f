import Playbook.Proofs.Flow.Words
import Playbook.Yaml.Token.Stream

/-!
# Tokens between brackets

A lexer releases tokens while it fetches further ones, and keeps back those in front of which a key
may still be put. Between brackets, on one line, this does not change what comes out: the tokens are
those of the parts of the text in order, with a key token in front of each name of a member.

Main definitions:

- `Yaml.Lexer.Is`: where a lexer is, by the tokens it has found and those it has released;
- `Yaml.Lexer.Finishes`: what a lexer gives in the end, within the steps it is given;
- `Yaml.LexesAt`, `Yaml.Lexes`, `Yaml.LexesPart`: a text gives tokens in front of a rest.

`Lexer.Is.finishes` fetches one token, whatever has been released meanwhile, and leaves what follows
to an assumption. So the texts of scalars, members and collections are put together by applying one
to what follows another (`lexesPart_member`, `lexesAt_intercalate`, `lexesAt_brackets`).

Main statement: `Yaml.tokens_eq`.
-/

namespace Playbook.Yaml

/-- Whether a place where a key may have begun is forgotten at a place. -/
def PossibleKey.isStale (m : Mark) (k : PossibleKey) : Bool :=
  k.mark.line != m.line || m.index - k.mark.index > 1024

/-- Whether a token starts here, or the source ends. -/
structure StartsToken (cs : List Char) : Prop where
  /-- It starts with a printable character. -/
  printable : cs.getD 0 ending = ending ∨ Printable (cs.getD 0 ending)
  /-- This is no space. -/
  noSpace : cs.getD 0 ending ≠ ' '
  /-- It begins no comment. -/
  noComment : cs.getD 0 ending ≠ '#'

theorem startsToken_cons {c : Char} {cs : List Char} (hc : Printable c) (hspace : c ≠ ' ')
    (hcomment : c ≠ '#') : StartsToken (c :: cs) := ⟨.inr hc, hspace, hcomment⟩

theorem startsToken_nil : StartsToken [] := ⟨.inl rfl, by decide, by decide⟩

/-- **A pair of brackets** and the tokens that they are. -/
inductive Brackets : Char → Char → TokenKind → TokenKind → Prop
  /-- The brackets of a list. -/
  | square : Brackets '[' ']' .flowSequenceStart .flowSequenceEnd
  /-- The braces of a mapping. -/
  | curly : Brackets '\x7b' '\x7d' .flowMappingStart .flowMappingEnd

namespace Brackets

variable {a b : Char} {first last : TokenKind}

theorem printable_left (h : Brackets a b first last) : Printable a := by
  cases h <;> decide

theorem printable_right (h : Brackets a b first last) : Printable b := by
  cases h <;> decide

theorem startsToken_left (h : Brackets a b first last) {cs : List Char} :
    StartsToken (a :: cs) := by
  cases h <;> exact startsToken_cons (by decide) (by decide) (by decide)

theorem startsToken_right (h : Brackets a b first last) {cs : List Char} :
    StartsToken (b :: cs) := by
  cases h <;> exact startsToken_cons (by decide) (by decide) (by decide)

/-- Values end in front of a closing bracket. -/
theorem endsValue (h : Brackets a b first last) {cs : List Char} : EndsValue (b :: cs) := by
  cases h with
  | square => exact ⟨_, cs, rfl, .inr (.inl rfl)⟩
  | curly => exact ⟨_, cs, rfl, .inr (.inr rfl)⟩

end Brackets

namespace Lexer

variable {l : Lexer} {cs rest : List Char} {m : Mark} {a b : Char} {first last : TokenKind}

theorem fetchHere_opening (hab : Brackets a b first last) (h : l.cursor = ⟨a :: cs, m⟩) :
    l.fetchHere = lift (l.fetchOpening first) := by
  cases hab <;> simp [fetchHere, h, Cursor.peek, Cursor.atSeparator, ending]

theorem fetchHere_closing (hab : Brackets a b first last) (h : l.cursor = ⟨b :: cs, m⟩) :
    l.fetchHere = lift (l.fetchClosing last) := by
  cases hab <;> simp [fetchHere, h, Cursor.peek, Cursor.atSeparator, ending]

theorem fetchHere_comma (h : l.cursor = ⟨',' :: cs, m⟩) : l.fetchHere = lift l.fetchComma := by
  simp [fetchHere, h, Cursor.peek, Cursor.atSeparator, ending]

theorem fetchHere_colon (h : l.cursor = ⟨':' :: cs, m⟩) (hflow : l.inBlock = false) :
    l.fetchHere = lift l.fetchValue := by
  simp [fetchHere, h, Cursor.peek, Cursor.atSeparator, ending, hflow]

theorem fetchHere_quote (h : l.cursor = ⟨'"' :: cs, m⟩) : l.fetchHere = l.fetchWord readQuoted := by
  simp [fetchHere, h, Cursor.peek, Cursor.atSeparator, ending]

theorem fetchHere_end (h : l.cursor = ⟨[], m⟩) : l.fetchHere = lift l.fetchEnd := by
  simp [fetchHere, h, Cursor.peek, ending]

theorem startsPlain_of_isWordChar {c : Char} (hc : isWordChar c = true) (hminus : c ≠ '-')
    (b : Bool) (next : Char) : startsPlain b c next = true := by
  have hblank : isBreakOrBlank c = false :=
    (printable_of_isWordChar hc).isBreakOrBlank (ne_of_isWordChar hc (by decide))
  have hindicator : "?:,[]\x7b\x7d#&*!|>'\"%@\x60".toList.contains c = false :=
    contains_of_isWordChar hc (by decide)
  have hsame : "-?:,[]\x7b\x7d#&*!|>'\"%@\x60".toList.contains c =
      (c == '-' || "?:,[]\x7b\x7d#&*!|>'\"%@\x60".toList.contains c) := rfl
  rw [startsPlain, hblank, hsame, hindicator, beq_false_of_ne hminus]
  rfl

/-- A word is plain, if what follows a minus is no blank and no other minus. -/
theorem fetchHere_word {c : Char} (hc : isWordChar c = true)
    (hminus : c = '-' → ∃ d more, cs = d :: more ∧ isWordChar d = true ∧ d ≠ '-')
    (h : l.cursor = ⟨c :: cs, m⟩) (hflow : l.inBlock = false) :
    l.fetchHere = lift l.fetchPlain := by
  -- A minus starts a word if what comes after it does; any other such character starts one by
  -- itself.
  by_cases hdash : c = '-'
  · obtain ⟨d, more, rfl, hd, hne⟩ := hminus hdash
    have hblank : isBreakOrBlank d = false :=
      (printable_of_isWordChar hd).isBreakOrBlank (ne_of_isWordChar hd (by decide))
    subst hdash
    simp [fetchHere, h, Cursor.peek, Cursor.atSeparator, ending, hflow, hblank, hne, startsPlain]
  · have hother {d : Char} (hd : isWordChar d = false) : c ≠ d := ne_of_isWordChar hc hd
    have hplain (next : Char) := startsPlain_of_isWordChar hc hdash false next
    rw [fetchHere, h, hflow]
    simp [Cursor.peek, Cursor.atSeparator, hplain, hdash,
      hother (d := ending) (by decide), hother (d := '%') (by decide),
      hother (d := '.') (by decide), hother (d := '[') (by decide),
      hother (d := ']') (by decide), hother (d := '\x7b') (by decide),
      hother (d := '\x7d') (by decide), hother (d := ',') (by decide),
      hother (d := '?') (by decide), hother (d := ':') (by decide),
      hother (d := '*') (by decide), hother (d := '&') (by decide),
      hother (d := '!') (by decide), hother (d := '\'') (by decide),
      hother (d := '"') (by decide)]

/-! ### Fetching -/

theorem dropStaleKeys_eq (hkeys : ∀ e ∈ l.keys, e.2.required = false) :
    l.dropStaleKeys = .ok { l with keys := l.keys.filter fun e => !e.2.isStale l.mark } := by
  rw [dropStaleKeys]
  dsimp only
  -- No key is required, so there is none that is missed.
  rw [List.find?_eq_none.2 fun e he => ?_]
  · rfl
  · rw [hkeys e he, Bool.and_false]
    decide

theorem dropKey_eq (hkeys : ∀ e ∈ l.keys, e.2.required = false) :
    ∃ keys, l.dropKey = .ok { l with keys } ∧ keys = l.keys.filter fun e => e.1 != l.flowLevel := by
  refine ⟨_, ?_, rfl⟩
  rw [dropKey]
  split
  · next level k hfind =>
    rw [hkeys _ (List.mem_of_find?_eq_some hfind), if_neg (by decide)]
  · next hfind =>
    have hall : l.keys.filter (fun e => e.1 != l.flowLevel) = l.keys := by
      rw [List.filter_eq_self]
      intro e he
      simpa using List.find?_eq_none.1 hfind e he
    rw [hall]

theorem unwind_eq (hindents : l.indents = []) (column : Int) : l.unwind column = l := by
  rw [unwind]
  split
  · rw [hindents, unwindFrom]
    dsimp only
    rw [List.append_nil, ← hindents]
  · rfl

/-- What begins with a space or a token begins with no byte order mark, which is not printable. -/
theorem notMark_of_startsToken {gap : List Char} (hgap : ∀ c ∈ gap, c = ' ')
    (hstart : StartsToken cs) : (Cursor.peek ⟨gap ++ cs, m⟩).toNat ≠ 0xFEFF := by
  intro hpeek
  cases gap with
  | nil =>
    have hfirst : (cs.getD 0 ending).toNat = 0xFEFF := hpeek
    obtain hc | hc := hstart.printable
    · rw [hc] at hfirst
      cases hfirst
    · have hlt := hc.2
      omega
  | cons c more =>
    obtain rfl : c = ' ' := hgap c List.mem_cons_self
    cases hpeek

/-- **Spaces are passed over,** and nothing else is if a token follows: no break and no comment. -/
theorem skipToToken_eq {gap : List Char} (h : l.cursor = ⟨gap ++ cs, m⟩)
    (hgap : ∀ c ∈ gap, c = ' ') (hstart : StartsToken cs) (fuel : Nat) :
    skipToToken (fuel + 1) l = { l with cursor := ⟨cs, m.right gap.length⟩ } := by
  have hrun : Cursor.upTo ⟨gap ++ cs, m⟩ (· == ' ') = gap := by
    refine Cursor.upTo_append (fun c hc => by rw [hgap c hc]; rfl) fun c hc => ?_
    obtain ⟨more, rfl⟩ := List.head?_eq_some_iff.1 hc
    exact beq_false_of_ne hstart.noSpace
  have hspaces : Cursor.skipSpaces ⟨gap ++ cs, m⟩ = ⟨cs, m.right gap.length⟩ := by
    rw [Cursor.skipSpaces, Cursor.skipWhile, hrun]
    exact Cursor.advance_printable fun c hc => by rw [hgap c hc]; decide
  have hcomment : Cursor.skipComment ⟨cs, m.right gap.length⟩ = ⟨cs, m.right gap.length⟩ :=
    if_neg hstart.noComment
  have hnoBreak : ¬isBreak (Cursor.peek ⟨cs, m.right gap.length⟩) = true := by
    show ¬isBreak (cs.getD 0 ending) = true
    obtain hc | hc := hstart.printable
    · rw [hc]
      decide
    · rw [hc.isBreak]
      decide
  rw [skipToToken, h, hspaces, hcomment]
  exact if_neg hnoBreak

/-- Reading on to the next token passes over spaces and forgets keys. -/
theorem fetch_eq {gap : List Char} (h : l.cursor = ⟨gap ++ cs, m⟩) (hgap : ∀ c ∈ gap, c = ' ')
    (hstart : StartsToken cs) (hindents : l.indents = [])
    (hkeys : ∀ e ∈ l.keys, e.2.required = false) :
    l.fetch = fetchHere { l with
      cursor := ⟨cs, m.right gap.length⟩
      keys := l.keys.filter fun e => !e.2.isStale (m.right gap.length) } := by
  have hmark : ¬(l.mark.index = 0 ∧ l.cursor.peek.toNat = 0xFEFF) := by
    rw [h]
    exact fun hmark => notMark_of_startsToken hgap hstart hmark.2
  delta fetch
  dsimp only
  rw [if_neg hmark, skipToToken_eq h hgap hstart,
    dropStaleKeys_eq (l := { l with cursor := ⟨cs, m.right gap.length⟩ }) hkeys]
  exact congrArg fetchHere (unwind_eq (by exact hindents) _)

end Lexer

/-! ### Runs -/

/-- **Where a lexer is:** the tokens that have been released, all tokens so far, how many brackets
are open, and the position. No key must begin anywhere, and keys may begin only in front of tokens
that are not released. -/
structure Lexer.Is (l : Lexer) (gone all : List TokenKind) (level : Nat) (m : Mark)
    (cs : List Char) : Prop where
  /-- The position. -/
  cursor : l.cursor = ⟨cs, m⟩
  /-- The open brackets. -/
  level : l.flowLevel = level
  /-- So many tokens have been released. -/
  released : l.released = gone.length
  /-- All tokens have been released or wait. -/
  tokens : gone ++ l.waiting.map (·.kind) = all
  /-- No block has been begun. -/
  indents : l.indents = []
  /-- The position lies outside of blocks. -/
  indent : l.indent = -1
  /-- The source goes on. -/
  done : l.done = false
  /-- No key must begin. -/
  free : ∀ e ∈ l.keys, e.2.required = false
  /-- What may be a key waits. -/
  held : ∀ e ∈ l.keys, gone.length ≤ e.2.token

/-- **A lexer gives tokens** after those that are released, if a number of steps is exceeded. -/
def Lexer.Gives (l : Lexer) (gone out : List TokenKind) (steps : Nat) : Prop :=
  ∀ fuel, steps < fuel → ∃ more, tokensFrom fuel l = ⟨more, none⟩ ∧ gone ++ more.map (·.kind) = out

namespace Lexer

variable {l : Lexer} {cs rest : List Char} {m : Mark} {gone all out : List TokenKind} {level : Nat}

/-- The end of the source. -/
theorem gives_of_done (hdone : l.done = true) (htokens : gone ++ l.waiting.map (·.kind) = out) :
    l.Gives gone out 0 := by
  intro fuel hfuel
  obtain ⟨fuel, rfl⟩ : ∃ k, fuel = k + 1 := ⟨fuel - 1, by omega⟩
  refine ⟨l.waiting, ?_, htokens⟩
  rw [tokensFrom, hdone, if_pos rfl]

/-- What is found first and passes a test is found first of what passes. -/
theorem find?_filter_of_pos {α : Type} {p q : α → Bool} {xs : List α} {x : α}
    (h : xs.find? p = some x) (hx : q x = true) : (xs.filter q).find? p = some x := by
  induction xs with
  | nil => cases h
  -- The test drops only what would not have been found, or what comes later.
  | cons y rest ih =>
    by_cases hp : p y = true
    · rw [List.find?_cons_of_pos hp] at h
      cases h
      rw [List.filter_cons_of_pos hx, List.find?_cons_of_pos hp]
    · rw [List.find?_cons_of_neg hp] at h
      by_cases hq : q y = true
      · rw [List.filter_cons_of_pos hq, List.find?_cons_of_neg hp]
        exact ih h
      · rw [List.filter_cons_of_neg hq]
        exact ih h

theorem isStale_right {k : PossibleKey} {n : Nat} (h : k.isStale (m.right n) = false) :
    k.isStale m = false := by
  rw [PossibleKey.isStale, Bool.or_eq_false_iff, decide_eq_false_iff_not] at h ⊢
  refine ⟨h.1, ?_⟩
  have hindex : (m.right n).index = m.index + n := rfl
  omega

/-- Some keys are forgotten. -/
theorem Is.forget (h : l.Is gone all level m cs) (q : Nat × PossibleKey → Bool) :
    ({ l with keys := l.keys.filter q } : Lexer).Is gone all level m cs where
  __ := h
  free e he := h.free e (List.mem_filter.1 he).1
  held e he := h.held e (List.mem_filter.1 he).1

/-- The lexer moves on. -/
theorem Is.pass {gap : List Char} (h : l.Is gone all level m (gap ++ cs)) :
    ({ l with cursor := ⟨cs, m.right gap.length⟩ } : Lexer).Is gone all level
      (m.right gap.length) cs where
  __ := h
  cursor := rfl

/-- A token is released that nothing can be put in front of. -/
theorem Is.release (h : l.Is gone all level m cs) {t : Token} {waiting : List Token}
    (hwaiting : l.waiting = t :: waiting) (hheld : l.isHeld = false) :
    ({ l with waiting, released := l.released + 1 } : Lexer).Is (gone ++ [t.kind]) all level m
      cs where
  __ := h
  released := by
    rw [List.length_append, ← h.released]
    rfl
  tokens := by
    rw [← h.tokens, hwaiting, List.append_assoc]
    rfl
  held e he := by
    -- A key at the first token that waits would be the nearest of all, and would hold it back.
    have hle := h.held e he
    have hmem : e.2.token ∈ l.keys.map fun d => d.2.token := List.mem_map_of_mem he
    have hne : e.2.token ≠ gone.length := by
      intro hsame
      rw [isHeld] at hheld
      cases hmin : (l.keys.map fun d => d.2.token).min? with
      | none =>
        rw [List.min?_eq_none_iff.1 hmin] at hmem
        cases hmem
      | some n =>
        obtain ⟨hn, hleast⟩ := List.min?_eq_some_iff.1 hmin
        obtain ⟨d, hd, hdn⟩ := List.mem_map.1 hn
        have hge : gone.length ≤ n := hdn ▸ h.held d hd
        have hsameMin : n = l.released := by
          rw [h.released]
          exact Nat.le_antisymm (hsame ▸ hleast _ hmem) hge
        rw [hmin, hsameMin] at hheld
        simp at hheld
    rw [List.length_append]
    exact Nat.lt_of_le_of_ne hle hne.symm

/-- What a lexer keeps that only forgets keys: whether a key may begin, and the key within so many
brackets, unless that is stale at a place. -/
structure Keeps (l : Lexer) (level : Nat) (m : Mark) (l' : Lexer) : Prop where
  /-- A key may begin where it might. -/
  keyAllowed : l'.keyAllowed = l.keyAllowed
  /-- The key is the same. -/
  key : ∀ e, l.keys.find? (fun d => d.1 == level) = some e → e.2.isStale m = false →
    l'.keys.find? (fun d => d.1 == level) = some e

theorem Keeps.trans {l' l'' : Lexer} (h : l.Keeps level m l') (h' : l'.Keeps level m l'') :
    l.Keeps level m l'' :=
  ⟨h'.keyAllowed.trans h.keyAllowed, fun e he hstale => h'.key e (h.key e he hstale) hstale⟩

/-- What is not stale further on is not stale here. -/
theorem keeps_filter (l : Lexer) (level n : Nat) (m : Mark) :
    l.Keeps level (m.right n) { l with keys := l.keys.filter fun e => !e.2.isStale m } := by
  refine ⟨rfl, fun e he hstale => find?_filter_of_pos he ?_⟩
  rw [isStale_right hstale]
  rfl

/-- The next token is fetched behind the spaces, with what waits then. -/
theorem Is.fetches (gap : List Char) (h : l.Is gone all level m (gap ++ cs))
    (hgap : ∀ c ∈ gap, c = ' ') (hstart : StartsToken cs) (steps : Nat)
    (hnext : ∀ (gone' : List TokenKind) (l' : Lexer),
      l'.Is gone' all level (m.right gap.length) cs → l.Keeps level (m.right gap.length) l' →
      ∃ l'', l'.fetchHere = .ok l'' ∧ l''.Gives gone' out (steps + l'.waiting.length)) :
    ∃ l'', l.fetch = .ok l'' ∧ l''.Gives gone out (steps + l.waiting.length) := by
  rw [fetch_eq h.cursor hgap hstart h.indents h.free]
  exact hnext gone _ (h.pass.forget _)
    ⟨rfl, fun e he hstale => find?_filter_of_pos he (by rw [hstale]; rfl)⟩

/-- **A lexer releases tokens until the next one is fetched.** Meanwhile it only forgets keys. -/
theorem Is.gives_fetch (gap : List Char) (h : l.Is gone all level m (gap ++ cs))
    (hgap : ∀ c ∈ gap, c = ' ') (hstart : StartsToken cs) (steps : Nat)
    (hnext : ∀ (gone' : List TokenKind) (l' : Lexer),
      l'.Is gone' all level (m.right gap.length) cs → l.Keeps level (m.right gap.length) l' →
      ∃ l'', l'.fetchHere = .ok l'' ∧ l''.Gives gone' out (steps + l'.waiting.length)) :
    l.Gives gone out (steps + l.waiting.length + 1) := by
  intro fuel hfuel
  obtain ⟨fuel, rfl⟩ : ∃ k, fuel = k + 1 := ⟨fuel - 1, by omega⟩
  -- Induction on the tokens that wait. Each one is released at the cost of one step, or else the
  -- next token is fetched at once.
  generalize hwaiting : l.waiting = waiting at hfuel
  induction waiting generalizing l gone fuel with
  | nil =>
    obtain ⟨l'', hl'', hgives⟩ := h.fetches gap hgap hstart steps hnext
    rw [tokensFrom, h.done, if_neg (by decide), hwaiting]
    dsimp only
    rw [hl'']
    exact hgives fuel (by rw [hwaiting]; exact Nat.lt_of_succ_lt_succ hfuel)
  | cons t waiting ih =>
    have hforget := h.forget fun e => !e.2.isStale l.mark
    have hkeeps : l.Keeps level (m.right gap.length)
        { l with keys := l.keys.filter fun e => !e.2.isStale l.mark } := by
      rw [show l.mark = m from congrArg Cursor.mark h.cursor]
      exact l.keeps_filter level gap.length m
    rw [tokensFrom, h.done, if_neg (by decide), hwaiting]
    dsimp only
    rw [dropStaleKeys_eq h.free]
    dsimp only
    -- A token is held back as long as a key may still be put in front of it.
    split
    · obtain ⟨l'', hl'', hgives⟩ := hforget.fetches gap hgap hstart steps
        fun gone' l' hl' hl'keeps => hnext gone' l' hl' (hkeeps.trans hl'keeps)
      rw [hl'']
      refine hgives fuel ?_
      show steps + l.waiting.length < fuel
      rw [hwaiting]
      exact Nat.lt_of_succ_lt_succ hfuel
    · next hheld =>
      have hrelease := hforget.release hwaiting (eq_false_of_ne_true hheld)
      rw [List.length_cons] at hfuel
      obtain ⟨fuel, rfl⟩ : ∃ k, fuel = k + 1 := ⟨fuel - 1, by omega⟩
      obtain ⟨more, hmore, hout⟩ := ih hrelease (fun gone' l' hl' hl'keeps =>
        hnext gone' l' hl' (hkeeps.trans ⟨hl'keeps.keyAllowed, hl'keeps.key⟩)) fuel rfl (by omega)
      refine ⟨t :: more, ?_, ?_⟩
      · rw [hmore]
      · rw [← hout, List.append_assoc]
        rfl

/-- A lexer gives tokens within the number of steps that it is given for the rest of a source: one
for each token that waits, and three for each character, of which no token has less than one. -/
def Finishes (l : Lexer) (gone out : List TokenKind) : Prop :=
  l.Gives gone out (3 * (l.cursor.rest.length + 1) + l.waiting.length)

/-- **One token is fetched,** after which the lexer finishes. -/
theorem Is.finishes (gap : List Char) (h : l.Is gone all level m (gap ++ cs))
    (hgap : ∀ c ∈ gap, c = ' ') (hstart : StartsToken cs)
    (hnext : ∀ (gone' : List TokenKind) (l' : Lexer),
      l'.Is gone' all level (m.right gap.length) cs → l.Keeps level (m.right gap.length) l' →
      ∃ l'', l'.fetchHere = .ok l'' ∧ l''.cursor.rest.length < cs.length ∧
        l''.waiting.length ≤ l'.waiting.length + 2 ∧ l''.Finishes gone' out) :
    l.Finishes gone out := by
  -- Three steps for a character are enough to fetch one token and to release two.
  have hgives : l.Gives gone out (3 * cs.length + 2 + l.waiting.length + 1) := by
    refine h.gives_fetch gap hgap hstart _ fun gone' l' hl' hkeeps => ?_
    obtain ⟨l'', hl'', hrest, hwaiting, hfinishes⟩ := hnext gone' l' hl' hkeeps
    exact ⟨l'', hl'', fun fuel hfuel => hfinishes fuel (by omega)⟩
  intro fuel hfuel
  apply hgives
  rw [h.cursor] at hfuel
  simp only [List.length_append] at hfuel
  omega

/-! ### Single tokens -/

/-- Whether a key may begin does not matter. -/
theorem Is.allow (h : l.Is gone all level m cs) (keyAllowed : Bool) :
    ({ l with keyAllowed } : Lexer).Is gone all level m cs where
  __ := h

/-- Brackets are opened or closed. -/
theorem Is.bracket (h : l.Is gone all level m cs) (flowLevel : Nat) :
    ({ l with flowLevel } : Lexer).Is gone all flowLevel m cs where
  __ := h
  level := rfl

/-- A token is read. -/
theorem Is.push (h : l.Is gone all level m cs) (t : Token) (m' : Mark) (cs' : List Char) :
    ({ l.push t with cursor := ⟨cs', m'⟩ } : Lexer).Is gone (all ++ [t.kind]) level m' cs' where
  __ := h
  cursor := rfl
  tokens := by
    show gone ++ (l.waiting ++ [t]).map (·.kind) = _
    rw [List.map_append, ← List.append_assoc, h.tokens]
    rfl

/-- A key may begin in front of the next token. -/
theorem Is.mayBegin (h : l.Is gone all level m cs) :
    ({ l with keys := l.keys ++ [(level, ⟨all.length, false, m⟩)] } : Lexer).Is gone all level m
      cs where
  __ := h
  free e he := by
    obtain he | he := List.mem_append.1 he
    · exact h.free e he
    · rw [List.mem_singleton.1 he]
  held e he := by
    obtain he | he := List.mem_append.1 he
    · exact h.held e he
    · rw [List.mem_singleton.1 he, ← h.tokens, List.length_append]
      exact Nat.le_add_right _ _

theorem length_all (h : l.Is gone all level m cs) : l.released + l.waiting.length = all.length := by
  rw [← h.tokens, List.length_append, List.length_map, h.released]

theorem indicator_eq {c : Char} (h : l.Is gone all level m (c :: cs)) (hc : Printable c)
    (kind : TokenKind) :
    l.indicator kind = { l.push ⟨kind, m, m.right 1⟩ with cursor := ⟨cs, m.right 1⟩ } := by
  have hadvance : l.cursor.advance 1 = ⟨cs, m.right 1⟩ := by
    rw [h.cursor]
    exact Cursor.next_printable hc
  have hmark : l.mark = m := congrArg Cursor.mark h.cursor
  rw [indicator, hadvance, hmark]

/-- The place of a key is forgotten. -/
theorem Is.dropKey (h : l.Is gone all level m cs) :
    ∃ l', l.dropKey = .ok l' ∧ l'.Is gone all level m cs ∧ l'.waiting = l.waiting ∧
      l'.keyAllowed = l.keyAllowed := by
  obtain ⟨keys, hdrop, rfl⟩ := dropKey_eq h.free
  exact ⟨_, hdrop, h.forget _, rfl, rfl⟩

/-- A key may begin here. -/
theorem Is.saveKey (h : l.Is gone all level m cs) :
    ∃ l', l.saveKey = .ok l' ∧ l'.Is gone all level m cs ∧ l'.waiting = l.waiting ∧
      (l.keyAllowed = true → l'.keys.find? (fun d => d.1 == level) =
        some (level, ⟨all.length, false, m⟩)) := by
  rw [Lexer.saveKey]
  by_cases hallowed : l.keyAllowed = true
  · obtain ⟨keys, hdrop, hkeys⟩ := dropKey_eq h.free
    -- Outside of blocks no key is required.
    have hrequired : (l.inBlock && decide (l.indent = l.cursor.column)) = false := by
      rw [h.indent, decide_eq_false, Bool.and_false]
      omega
    have hmark : l.mark = m := congrArg Cursor.mark h.cursor
    rw [if_pos hallowed]
    dsimp only
    rw [hrequired, hmark, length_all h, h.level, hdrop]
    have hnone : keys.find? (fun d => d.1 == level) = none := by
      rw [List.find?_eq_none]
      intro e he
      rw [hkeys, h.level] at he
      simpa using (List.mem_filter.1 he).2
    refine ⟨_, rfl, ?_, rfl, fun _ => ?_⟩
    · have hmayBegin := (h.forget fun e => e.1 != l.flowLevel).mayBegin
      rw [← hkeys] at hmayBegin
      exact hmayBegin
    · show (keys ++ [(level, _)]).find? _ = _
      rw [List.find?_append, hnone, List.find?_cons_of_pos (by simp)]
      rfl
  · rw [if_neg hallowed]
    exact ⟨l, rfl, h, rfl, fun hl => absurd hl hallowed⟩

variable {a b : Char} {first last : TokenKind}

/-- A comma, after which a key may begin. -/
theorem Is.comma (h : l.Is gone all level m (',' :: cs)) :
    ∃ l', l.fetchHere = .ok l' ∧ l'.Is gone (all ++ [.flowEntry]) level (m.right 1) cs ∧
      l'.keyAllowed = true ∧ l'.waiting.length ≤ l.waiting.length + 2 := by
  obtain ⟨l', hdrop, hl', hwaiting, -⟩ := h.dropKey
  refine ⟨{ l'.indicator .flowEntry with keyAllowed := true }, ?_, ?_, rfl, ?_⟩
  · rw [fetchHere_comma h.cursor, fetchComma, hdrop]
    rfl
  · rw [indicator_eq hl' (by decide)]
    exact (hl'.push _ _ _).allow true
  · rw [indicator_eq hl' (by decide)]
    show (l'.waiting ++ [_]).length ≤ _
    rw [hwaiting, List.length_append, List.length_singleton]
    omega

/-- An opening bracket or brace, after which a key may begin. -/
theorem Is.opening (hab : Brackets a b first last) (h : l.Is gone all level m (a :: cs)) :
    ∃ l', l.fetchHere = .ok l' ∧ l'.Is gone (all ++ [first]) (level + 1) (m.right 1) cs ∧
      l'.keyAllowed = true ∧ l'.waiting.length ≤ l.waiting.length + 2 := by
  -- A collection may itself be a key, so its place is kept before the bracket is read.
  obtain ⟨l', hsave, hl', hwaiting, -⟩ := h.saveKey
  refine ⟨{ l'.indicator first with flowLevel := l'.flowLevel + 1, keyAllowed := true }, ?_, ?_,
    rfl, ?_⟩
  · rw [fetchHere_opening hab h.cursor, fetchOpening, hsave]
    rfl
  · rw [indicator_eq hl' hab.printable_left, hl'.level]
    exact ((hl'.push _ _ _).allow true).bracket (level + 1)
  · rw [indicator_eq hl' hab.printable_left]
    show (l'.waiting ++ [_]).length ≤ _
    rw [hwaiting, List.length_append, List.length_singleton]
    omega

/-- A closing bracket or brace. -/
theorem Is.closing (hab : Brackets a b first last) (h : l.Is gone all (level + 1) m (b :: cs)) :
    ∃ l', l.fetchHere = .ok l' ∧ l'.Is gone (all ++ [last]) level (m.right 1) cs ∧
      l'.waiting.length ≤ l.waiting.length + 2 := by
  obtain ⟨l', hdrop, hl', hwaiting, -⟩ := h.dropKey
  refine ⟨{ l'.indicator last with flowLevel := l'.flowLevel - 1, keyAllowed := false }, ?_, ?_, ?_⟩
  · rw [fetchHere_closing hab h.cursor, fetchClosing, hdrop]
    rfl
  · rw [indicator_eq hl' hab.printable_right, hl'.level]
    exact ((hl'.push _ _ _).allow false).bracket level
  · rw [indicator_eq hl' hab.printable_right]
    show (l'.waiting ++ [_]).length ≤ _
    rw [hwaiting, List.length_append, List.length_singleton]
    omega

/-- A quoted text, in front of which a key may begin. -/
theorem Is.quote {s : String} (hs : ∀ c ∈ s.toList, CodePoint.ofChar c < 0x10000)
    (h : l.Is gone all level m ((Json.quote s).toList ++ cs)) :
    ∃ l', l.fetchHere = .ok l' ∧
      l'.Is gone (all ++ [.scalar s .double]) level (m.right (Json.quote s).toList.length) cs ∧
      l'.waiting.length ≤ l.waiting.length + 2 ∧
      (l.keyAllowed = true → l'.keys.find? (fun d => d.1 == level) =
        some (level, ⟨all.length, false, m⟩)) := by
  obtain ⟨l', hsave, hl', hwaiting, hkey⟩ := h.saveKey
  obtain ⟨t, hread, hkind⟩ := readQuoted_quote hs m cs
  have hquote : ∃ more, (Json.quote s).toList ++ cs = '"' :: more := by
    rw [Json.quote, String.toList_ofList]
    exact ⟨_, rfl⟩
  obtain ⟨more, hmore⟩ := hquote
  refine ⟨{ l'.push t with
    cursor := ⟨cs, m.right (Json.quote s).toList.length⟩, keyAllowed := false }, ?_, ?_, ?_, hkey⟩
  · rw [fetchHere_quote (h.cursor.trans (by rw [hmore])), fetchWord, hsave]
    dsimp only
    rw [hl'.cursor, hread]
    rfl
  · rw [← hkind]
    exact (hl'.push t _ _).allow false
  · show (l'.waiting ++ [_]).length ≤ _
    rw [hwaiting, List.length_append, List.length_singleton]
    omega

/-- What may stand as a plain word: a minus is followed by something else. -/
structure IsWord (word : List Char) : Prop where
  /-- It has letters, digits and minuses only. -/
  chars : ∀ c ∈ word, isWordChar c = true
  /-- It is not empty, and a minus in front is followed by something else. -/
  head : ∃ c more, word = c :: more ∧ (c = '-' → ∃ d rest, more = d :: rest ∧ d ≠ '-')

/-- A plain scalar, if a key may begin at it. -/
theorem fetchPlain_eq {l' : Lexer} (hsave : l.saveKey = .ok l') {t : Token} {c : Cursor}
    (hread : readPlain (!l'.inBlock) l'.indent l'.cursor = ((t, false), c)) :
    l.fetchPlain = .ok { l'.push t with cursor := c, keyAllowed := false } := by
  have hrun : l.fetchPlain = .ok
      { l'.push (readPlain (!l'.inBlock) l'.indent l'.cursor).1.1 with
        cursor := (readPlain (!l'.inBlock) l'.indent l'.cursor).2
        keyAllowed := (readPlain (!l'.inBlock) l'.indent l'.cursor).1.2 } := by
    rw [fetchPlain, hsave]
    rfl
  rw [hrun, hread]

/-- A plain word. -/
theorem Is.word {word : List Char} (hword : IsWord word) (hcs : EndsValue cs)
    (h : l.Is gone all (level + 1) m (word ++ cs)) :
    ∃ l', l.fetchHere = .ok l' ∧
      l'.Is gone (all ++ [.scalar (String.ofList word) .plain]) (level + 1)
        (m.right word.length) cs ∧
      l'.waiting.length ≤ l.waiting.length + 2 := by
  obtain ⟨c, more, rfl, hminus⟩ := hword.head
  obtain ⟨l', hsave, hl', hwaiting, -⟩ := h.saveKey
  obtain ⟨t, hread, hkind⟩ :=
    readPlain_word hword.chars (List.cons_ne_nil c more) hcs l'.indent m
  have hflow {l : Lexer} (h : l.Is gone all (level + 1) m (c :: more ++ cs)) :
      l.inBlock = false := by
    rw [inBlock, h.level]
    rfl
  have hfetch : l.fetchHere = lift l.fetchPlain := by
    refine fetchHere_word (hword.chars c List.mem_cons_self) (fun hc => ?_) h.cursor (hflow h)
    obtain ⟨d, rest, rfl, hd⟩ := hminus hc
    exact ⟨d, rest ++ cs, rfl,
      hword.chars d (List.mem_cons_of_mem c List.mem_cons_self), hd⟩
  have hplain : readPlain (!l'.inBlock) l'.indent l'.cursor =
      ((t, false), ⟨cs, m.right (c :: more).length⟩) := by
    rw [hflow hl', hl'.cursor]
    exact hread
  refine ⟨_, by rw [hfetch, fetchPlain_eq hsave hplain]; rfl, ?_, ?_⟩
  · rw [← hkind]
    exact (hl'.push t _ _).allow false
  · show (l'.waiting ++ [_]).length ≤ _
    rw [hwaiting, List.length_append, List.length_singleton]
    omega

theorem insertIdx_length_append {α : Type} (xs ys : List α) (a : α) :
    (xs ++ ys).insertIdx xs.length a = xs ++ a :: ys := by
  induction xs with
  | nil => rfl
  | cons x rest ih => exact congrArg (x :: ·) ih

/-- The last of all tokens waits, if not all tokens in front of it have been released. -/
theorem Is.waiting_eq {before : List TokenKind} {kind : TokenKind}
    (h : l.Is gone (before ++ [kind]) level m cs) (hgone : gone.length ≤ before.length) :
    ∃ front t, l.waiting = front ++ [t] ∧ gone ++ front.map (·.kind) = before ∧ t.kind = kind := by
  -- If nothing waited, all tokens would have been released, and the last one is not.
  have hne : l.waiting ≠ [] := by
    intro hnil
    have htokens := congrArg List.length h.tokens
    rw [hnil, List.length_append, List.length_append] at htokens
    simp only [List.map_nil, List.length_nil, List.length_singleton] at htokens
    omega
  obtain ⟨front, t, hwaiting⟩ : ∃ front t, l.waiting = front ++ [t] :=
    ⟨_, _, (List.dropLast_append_getLast hne).symm⟩
  have htokens := h.tokens
  rw [hwaiting, List.map_append, ← List.append_assoc] at htokens
  obtain ⟨hfront, hlast⟩ := List.append_inj' htokens rfl
  exact ⟨front, t, hwaiting, hfront, List.singleton_inj.1 hlast⟩

/-- **A key in front of a colon:** the key token goes in front of what is taken for the key. -/
theorem Is.colon {k : PossibleKey} {before : List TokenKind} {kind : TokenKind}
    (h : l.Is gone (before ++ [kind]) (level + 1) m (':' :: cs))
    (hkey : l.keys.find? (fun d => d.1 == level + 1) = some (level + 1, k))
    (htoken : k.token = before.length) :
    ∃ l', l.fetchHere = .ok l' ∧
      l'.Is gone (before ++ [.key, kind, .value]) (level + 1) (m.right 1) cs ∧
      l'.waiting.length ≤ l.waiting.length + 2 := by
  have hflow : l.inBlock = false := by
    rw [inBlock, h.level]
    rfl
  have hheld : gone.length ≤ before.length := htoken ▸ h.held _ (List.mem_of_find?_eq_some hkey)
  obtain ⟨front, t, hwaiting, hfront, hkind⟩ := h.waiting_eq hheld
  -- The place of the key is that of the last token, since nothing has been fetched after it.
  let key : Token := ⟨.key, k.mark, k.mark⟩
  -- the token of the key goes in front of the last token
  have hinsert : l.waiting.insertIdx (k.token - l.released) key = front ++ [key, t] := by
    have hlength : k.token - l.released = front.length := by
      have hcount := congrArg List.length hfront
      rw [List.length_append, List.length_map] at hcount
      rw [htoken, h.released]
      omega
    rw [hlength, hwaiting]
    exact insertIdx_length_append front [t] key
  let l' : Lexer :=
    { l with keys := l.keys.filter (fun e => e.1 != level + 1), waiting := front ++ [key, t] }
  have hl' : l'.Is gone (before ++ [.key, kind]) (level + 1) m (':' :: cs) := by
    refine { h.forget fun e => e.1 != level + 1 with tokens := ?_ }
    show gone ++ (front ++ [key, t]).map (·.kind) = _
    rw [List.map_append, ← List.append_assoc, hfront, ← hkind]
    rfl
  have hfetch : l.fetchHere = .ok { l'.indicator .value with keyAllowed := false } := by
    have hvalue : l.fetchValue = .ok
        { indicator { l with
            keys := l.keys.filter (fun e => e.1 != level + 1)
            waiting := l.waiting.insertIdx (k.token - l.released) key } .value with
          keyAllowed := false } := by
      rw [fetchValue, h.level, hkey]
      rfl
    rw [fetchHere_colon h.cursor hflow, hvalue, hinsert]
    rfl
  refine ⟨_, hfetch, ?_, ?_⟩
  · rw [indicator_eq hl' (by decide)]
    have hpush := (hl'.push ⟨.value, m, m.right 1⟩ (m.right 1) cs).allow false
    rw [List.append_assoc] at hpush
    exact hpush
  · rw [indicator_eq hl' (by decide)]
    show ((front ++ [key, t]) ++ [_]).length ≤ _
    rw [hwaiting]
    simp only [List.length_append, List.length_cons, List.length_nil]
    omega

/-- The end of the source, after which nothing waits to be fetched. -/
theorem Is.ended (h : l.Is gone all 0 m []) :
    ∃ l', l.fetchHere = .ok l' ∧ l'.done = true ∧
      gone ++ l'.waiting.map (·.kind) = all ++ [.streamEnd] := by
  obtain ⟨l', hdrop, hl', hwaiting, -⟩ := h.dropKey
  refine ⟨{ l'.push ⟨.streamEnd, l'.mark, l'.mark⟩ with
    keyAllowed := false, keys := [], done := true }, ?_, rfl, ?_⟩
  · rw [fetchHere_end h.cursor, fetchEnd, unwind_eq h.indents, hdrop]
    rfl
  · exact (hl'.push ⟨.streamEnd, l'.mark, l'.mark⟩ m []).tokens

end Lexer

/-! ### Texts of tokens -/

/-- **A text gives tokens** in front of a rest, within a number of brackets: a lexer that comes to
it finishes if one that has read these tokens finishes from the rest. It may be that the text counts
on a key at its start. -/
def LexesAt (key : Bool) (level : Nat) (cs : List Char) (ks : List TokenKind)
    (rest : List Char) : Prop :=
  ∀ (l : Lexer) (gap : List Char) (gone all : List TokenKind) (m : Mark) (out : List TokenKind),
    l.Is gone all level m (gap ++ (cs ++ rest)) → (∀ c ∈ gap, c = ' ') →
    (key = true → l.keyAllowed = true) →
    (∀ (gone' : List TokenKind) (l' : Lexer) (m' : Mark), l'.Is gone' (all ++ ks) level m' rest →
      l'.Finishes gone' out) →
    l.Finishes gone out

/-- A text gives tokens as a value within brackets. -/
def Lexes (cs : List Char) (ks : List TokenKind) : Prop :=
  ∀ level rest, EndsValue rest → LexesAt false (level + 1) cs ks rest

/-- A text gives tokens as an item or a member of a collection. -/
def LexesPart (cs : List Char) (ks : List TokenKind) : Prop :=
  ∀ level rest, EndsValue rest → LexesAt true (level + 1) cs ks rest

section Texts

variable {cs rest : List Char} {ks : List TokenKind} {level : Nat}

theorem Lexes.part (h : Lexes cs ks) : LexesPart cs ks :=
  fun level rest hrest l gap gone all m out hl hgap _ =>
    h level rest hrest l gap gone all m out hl hgap fun hkey => by cases hkey

/-- A text that is one token is fetched at once. -/
theorem lexesAt_token {kind : TokenKind} (hne : cs ≠ []) (hstart : StartsToken (cs ++ rest))
    (h : ∀ (l : Lexer) (gone all : List TokenKind) (m : Mark),
      l.Is gone all level m (cs ++ rest) → ∃ l' m', l.fetchHere = .ok l' ∧
        l'.Is gone (all ++ [kind]) level m' rest ∧ l'.waiting.length ≤ l.waiting.length + 2) :
    LexesAt false level cs [kind] rest := by
  intro l gap gone all m out hl hgap _ hnext
  refine hl.finishes gap hgap hstart fun gone' l' hl' _ => ?_
  obtain ⟨l'', m', hfetch, hl'', hwaiting⟩ := h l' gone' all _ hl'
  refine ⟨l'', hfetch, ?_, hwaiting, hnext gone' l'' m' hl''⟩
  have hlength : 0 < cs.length := List.length_pos_iff.2 hne
  rw [hl''.cursor, List.length_append]
  exact Nat.lt_add_of_pos_left hlength

theorem startsToken_quote (s : String) (rest : List Char) :
    StartsToken ((Json.quote s).toList ++ rest) := by
  rw [Json.quote, String.toList_ofList]
  exact startsToken_cons (by decide) (by decide) (by decide)

theorem quote_ne_nil (s : String) : (Json.quote s).toList ≠ [] := by
  rw [Json.quote, String.toList_ofList]
  exact List.cons_ne_nil _ _

/-- A quoted text is one token. -/
theorem lexesAt_quote {s : String} (hs : ∀ c ∈ s.toList, CodePoint.ofChar c < 0x10000) :
    LexesAt false level (Json.quote s).toList [.scalar s .double] rest := by
  refine lexesAt_token (quote_ne_nil s) (startsToken_quote s rest) fun l gone all m hl => ?_
  obtain ⟨l', hfetch, hl', hwaiting, -⟩ := hl.quote hs
  exact ⟨l', _, hfetch, hl', hwaiting⟩

/-- A plain word is one token. -/
theorem lexes_word {word : List Char} (hword : Lexer.IsWord word) :
    Lexes word [.scalar (String.ofList word) .plain] := by
  intro level rest hrest
  obtain ⟨c, more, rfl, -⟩ := hword.head
  have hc : isWordChar c = true := hword.chars c List.mem_cons_self
  have hstart : StartsToken (c :: more ++ rest) := startsToken_cons (printable_of_isWordChar hc)
    (ne_of_isWordChar hc (by decide)) (ne_of_isWordChar hc (by decide))
  refine lexesAt_token (List.cons_ne_nil c more) hstart fun l gone all m hl => ?_
  obtain ⟨l', hfetch, hl', hwaiting⟩ := hl.word hword hrest
  exact ⟨l', _, hfetch, hl', hwaiting⟩

/-- **A member of a mapping:** its name, which is a key if it is not too long, and its value. -/
theorem lexesPart_member {name : String} (hname : ∀ c ∈ name.toList, CodePoint.ofChar c < 0x10000)
    (hlength : (Json.quote name).toList.length ≤ 1024) (h : Lexes cs ks) :
    LexesPart ((Json.quote name).toList ++ ':' :: ' ' :: cs)
      (.key :: .scalar name .double :: .value :: ks) := by
  intro level rest hrest l gap gone all m out hl hgap hallowed hnext
  rw [List.append_assoc, List.cons_append, List.cons_append] at hl
  have hkeep : l.keyAllowed = true := hallowed rfl
  -- the name, where a key may begin
  refine hl.finishes gap hgap (startsToken_quote name _) fun gone₁ l₁ hl₁ hkeeps₁ => ?_
  obtain ⟨l₂, hfetch₂, hl₂, hwaiting₂, hkey₂⟩ := hl₁.quote hname
  have hshort₂ : l₂.cursor.rest.length <
      ((Json.quote name).toList ++ ':' :: ' ' :: (cs ++ rest)).length := by
    rw [hl₂.cursor, List.length_append]
    exact Nat.lt_add_of_pos_left (List.length_pos_iff.2 (quote_ne_nil name))
  refine ⟨l₂, hfetch₂, hshort₂, hwaiting₂, ?_⟩
  -- the colon, on the same line and not too far away
  refine Lexer.Is.finishes [] hl₂ (fun c hc => by cases hc)
    (startsToken_cons (by decide) (by decide) (by decide)) fun gone₃ l₃ hl₃ hkeeps₃ => ?_
  have hkey₃ := hkeeps₃.key _ (hkey₂ (hkeeps₁.keyAllowed.trans hkeep)) (by
    rw [PossibleKey.isStale, Bool.or_eq_false_iff, decide_eq_false_iff_not]
    refine ⟨by simp [Mark.right], ?_⟩
    simp only [Mark.right, List.length_nil]
    omega)
  obtain ⟨l₄, hfetch₄, hl₄, hwaiting₄⟩ := hl₃.colon hkey₃ rfl
  refine ⟨l₄, hfetch₄, by rw [hl₄.cursor]; exact Nat.lt_succ_self _, hwaiting₄, ?_⟩
  -- the value
  refine h level rest hrest l₄ [' '] gone₃ _ _ out hl₄ (by simp) (fun hkey => by cases hkey)
    fun gone₅ l₅ m₅ hl₅ => hnext gone₅ l₅ m₅ ?_
  rwa [List.append_assoc] at hl₅

/-- Parts with commas between them. -/
theorem lexesAt_intercalate {texts : List (List Char)} {kss : List (List TokenKind)}
    (h : List.Forall₂ LexesPart texts kss) (hne : texts ≠ [])
    (hends : EndsValue rest) :
    LexesAt true (level + 1) (List.intercalate [',', ' '] texts)
      (List.intercalate [.flowEntry] kss) rest := by
  -- Induction on the parts. Each but the last has a comma behind it, after which a key may begin.
  induction h with
  | nil => exact absurd rfl hne
  | @cons t ks texts kss ht hparts ih =>
    cases hparts with
    | nil =>
      rw [List.intercalate_singleton, List.intercalate_singleton]
      exact ht level _ hends
    | @cons t' ks' texts kss ht' hparts =>
      rw [List.intercalate_cons_cons, List.intercalate_cons_cons]
      intro l gap gone all m out hl hgap hallowed hnext
      rw [List.append_assoc, List.append_assoc] at hl
      refine ht level _ ⟨',', _, rfl, .inl rfl⟩ l gap gone all m out hl hgap hallowed
        fun gone₁ l₁ m₁ hl₁ => ?_
      refine Lexer.Is.finishes [] hl₁ (fun c hc => by cases hc)
        (startsToken_cons (by decide) (by decide) (by decide)) fun gone₂ l₂ hl₂ _ => ?_
      obtain ⟨l₃, hfetch₃, hl₃, hallowed₃, hwaiting₃⟩ := hl₂.comma
      refine ⟨l₃, hfetch₃, by rw [hl₃.cursor]; exact Nat.lt_succ_self _, hwaiting₃, ?_⟩
      refine ih (List.cons_ne_nil _ _) l₃ [' '] gone₂ _ _ out hl₃ (by simp) (fun _ => hallowed₃)
        fun gone₄ l₄ m₄ hl₄ => hnext gone₄ l₄ m₄ ?_
      rwa [List.append_assoc, List.append_assoc, ← List.append_assoc ks] at hl₄

/-- **A collection within its brackets.** -/
theorem lexesAt_brackets {texts : List (List Char)} {kss : List (List TokenKind)}
    (h : List.Forall₂ LexesPart texts kss) {a b : Char} {first last : TokenKind}
    (hab : Brackets a b first last) :
    LexesAt false level (a :: (List.intercalate [',', ' '] texts ++ [b]))
      (first :: (List.intercalate [.flowEntry] kss ++ [last])) rest := by
  intro l gap gone all m out hl hgap _ hnext
  rw [List.cons_append, List.append_assoc, List.singleton_append] at hl
  refine hl.finishes gap hgap hab.startsToken_left fun gone₁ l₁ hl₁ _ => ?_
  obtain ⟨l₂, hfetch₂, hl₂, hallowed₂, hwaiting₂⟩ := hl₁.opening hab
  refine ⟨l₂, hfetch₂, by rw [hl₂.cursor]; exact Nat.lt_succ_self _, hwaiting₂, ?_⟩
  -- the closing bracket, after all parts
  have hclose (l : Lexer) (gone : List TokenKind) (m : Mark)
      (hl : l.Is gone (all ++ [first] ++ List.intercalate [.flowEntry] kss) (level + 1) m
        (b :: rest)) : l.Finishes gone out := by
    refine Lexer.Is.finishes [] hl (fun c hc => by cases hc)
      hab.startsToken_right fun gone₃ l₃ hl₃ _ => ?_
    obtain ⟨l₄, hfetch₄, hl₄, hwaiting₄⟩ := hl₃.closing hab
    refine ⟨l₄, hfetch₄, by rw [hl₄.cursor]; exact Nat.lt_succ_self _, hwaiting₄, ?_⟩
    rw [List.append_assoc, List.append_assoc] at hl₄
    exact hnext gone₃ l₄ _ hl₄
  -- Between the brackets there is nothing, or a row of parts.
  cases h with
  | nil =>
    simp only [List.intercalate_nil, List.append_nil] at hclose
    exact hclose l₂ gone₁ _ hl₂
  | @cons t ks texts kss ht hparts =>
    exact lexesAt_intercalate (.cons ht hparts) (List.cons_ne_nil _ _) hab.endsValue l₂ []
      gone₁ _ _ out hl₂ (fun c hc => by cases hc) (fun _ => hallowed₂)
      fun gone₃ l₃ m₃ hl₃ => hclose l₃ gone₃ m₃ hl₃

end Texts

/-- **The tokens of a source** that gives tokens up to its end. -/
theorem tokens_eq {s : Source} {ks : List TokenKind} (h : LexesAt false 0 s.text ks []) :
    ∃ ts, tokens s = ⟨ts, none⟩ ∧
      ts.map (·.kind) = .streamStart :: (ks ++ [.streamEnd]) := by
  have hl : (Lexer.ofSource s).Is [] [.streamStart] 0 Mark.start ([] ++ (s.text ++ [])) := by
    rw [List.append_nil, List.nil_append]
    exact ⟨rfl, rfl, rfl, rfl, rfl, rfl, rfl, List.forall_mem_nil _, List.forall_mem_nil _⟩
  have hfinishes : (Lexer.ofSource s).Finishes [] (.streamStart :: (ks ++ [.streamEnd])) := by
    refine h _ [] [] _ _ _ hl (fun c hc => by cases hc) (fun hkey => by cases hkey)
      fun gone l m hl => ?_
    -- Nothing is left but the end, which needs no step beyond those for what waits.
    have hgives := Lexer.Is.gives_fetch [] hl (fun c hc => by cases hc) startsToken_nil 0
      fun gone₁ l₁ hl₁ _ => by
        obtain ⟨l₂, hfetch₂, hdone, htokens⟩ := hl₁.ended
        refine ⟨l₂, hfetch₂, fun fuel hfuel => ?_⟩
        exact Lexer.gives_of_done hdone htokens fuel (by omega)
    intro fuel hfuel
    refine hgives fuel ?_
    omega
  obtain ⟨ts, hts, hkinds⟩ := hfinishes (6 * s.text.length + 16) (by
    show 3 * (s.text.length + 1) + 1 < _
    omega)
  exact ⟨ts, hts, hkinds⟩

end Playbook.Yaml
