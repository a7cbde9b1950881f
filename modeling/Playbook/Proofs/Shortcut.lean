import Playbook.Proofs.Rendering

/-!
# Texts that are passed over

A text with neither the mark of an expression nor that of a statement is rendered as it is, without
the engine. The engine would not always agree: there are tags of a third kind, those of remarks, and
it reads every line end as a line feed. This module says what the engine makes of such a text.

* `Template.withoutRemarks` — what is left of a text when its remarks are taken out.
* `Template.run_of_plain` — **the engine puts this out,** with line feeds for line ends, or fails
  for a remark that does not end or for names around the template that are no texts.
* `Rendering.shortcut_of_isPlain` — passing a text over can be observed exactly if one of these
  things matters: `Template.withoutRemarks_normalizeLines_iff` says when the text stays as it is.
  That it can be observed at all is `Rendering.observable_remark`.

The tokens of such a text are described by `Template.Tokens.Shows`, which scanning establishes by
induction on its steps (`Template.shows_scanText`) and reading goes through
(`Template.Reader.putsOut_parts`). What is read are texts only, which are checked and run as they
are.
-/

namespace Playbook

namespace Template

/-! ### Characters that follow each other -/

section Follows

variable {a b c : Char} {cs front rest : List Char}

theorem follows_cons :
    follows a b (c :: cs) = (c == a && cs.head? == some b || follows a b cs) := by
  cases cs with
  | nil => simp [follows]
  | cons d more => rfl

theorem follows_cons_of_ne (h : c ≠ a) : follows a b (c :: cs) = follows a b cs := by
  rw [follows_cons, beq_false_of_ne h]
  rfl

/-- What does not follow in a text does not follow in its end. -/
theorem follows_of_append (h : follows a b (front ++ rest) = false) : follows a b rest = false := by
  induction front with
  | nil => exact h
  | cons c more ih =>
    rw [List.cons_append, follows_cons, Bool.or_eq_false_iff] at h
    exact ih h.2

theorem head?_normalizeLines (hr : b ≠ '\r') (hn : b ≠ '\n') :
    ((normalizeLines cs).head? == some b) = (cs.head? == some b) := by
  -- A line feed may come first where a return did, and the character sought is neither.
  have hfeed : ((some '\n' : Option Char) == some b) = (some '\r' == some b) := by
    rw [beq_false_of_ne fun h => hn (Option.some.inj h).symm,
      beq_false_of_ne fun h => hr (Option.some.inj h).symm]
  rw [normalizeLines.eq_def]
  split
  · rfl
  · exact hfeed
  · exact hfeed
  · rfl

/-- Line ends do not matter for what follows what. -/
theorem follows_normalizeLines (ha : a ≠ '\r' ∧ a ≠ '\n') (hb : b ≠ '\r' ∧ b ≠ '\n')
    (cs : List Char) : follows a b (normalizeLines cs) = follows a b cs := by
  induction cs using normalizeLines.induct with
  | case1 => rfl
  | case2 rest ih =>
    rw [normalizeLines, follows_cons_of_ne ha.2.symm, follows_cons_of_ne ha.1.symm,
      follows_cons_of_ne ha.2.symm, ih]
  | case3 rest hne ih =>
    rw [normalizeLines, follows_cons_of_ne ha.2.symm, follows_cons_of_ne ha.1.symm, ih]
    exact hne
  | case4 c rest _ hne ih =>
    -- only here can the first of the two stand, and then the second one stays where it is
    rw [normalizeLines, follows_cons, follows_cons, head?_normalizeLines hb.1 hb.2, ih]
    · assumption
    · assumption

end Follows

theorem notMem_normalizeLines (cs : List Char) : '\r' ∉ normalizeLines cs := by
  induction cs using normalizeLines.induct with
  | case1 => exact List.not_mem_nil
  | case2 rest ih =>
    rw [normalizeLines, List.mem_cons]
    exact not_or.2 ⟨by decide, ih⟩
  | case3 rest hne ih =>
    rw [normalizeLines, List.mem_cons]
    · exact not_or.2 ⟨by decide, ih⟩
    · exact hne
  | case4 c rest _ hne ih =>
    rw [normalizeLines, List.mem_cons]
    · exact not_or.2 ⟨fun h => hne h.symm, ih⟩
    · assumption
    · assumption

theorem length_normalizeLines (cs : List Char) : (normalizeLines cs).length ≤ cs.length := by
  induction cs using normalizeLines.induct with
  | case1 => exact Nat.le_refl _
  | case2 rest ih =>
    rw [normalizeLines, List.length_cons, List.length_cons, List.length_cons]
    omega
  | case3 rest hne ih =>
    rw [normalizeLines, List.length_cons, List.length_cons]
    · omega
    · exact hne
  | case4 c rest _ hne ih =>
    rw [normalizeLines, List.length_cons, List.length_cons]
    · omega
    · assumption
    · assumption

theorem normalizeLines_of_notMem {cs : List Char} (h : '\r' ∉ cs) : normalizeLines cs = cs := by
  induction cs with
  | nil => rfl
  | cons c rest ih =>
    rw [List.mem_cons, not_or] at h
    rw [normalizeLines, ih h.2]
    · exact fun _ hc _ => h.1 hc.symm
    · exact fun hc => h.1 hc.symm

/-! ### Ends of tags -/

section Ends

variable {a b : Char} {plus : Bool} {s rest expected : List Char}

theorem after?_eq_some (h : after? expected s = some rest) : s = expected ++ rest := by
  induction expected generalizing s with
  | nil => exact Option.some.inj h
  | cons c more ih =>
    cases s with
    | nil => cases h
    | cons d s =>
      rw [after?] at h
      split at h
      · next heq =>
        rw [heq, ih h]
        rfl
      · cases h

/-- A tag ends with two characters at least. -/
theorem tagEnd?_eq_some (h : tagEnd? a b plus s = some rest) :
    ∃ front, s = front ++ rest ∧ 2 ≤ front.length := by
  have hafter : ∀ {u rest : List Char}, after? [a, b] u = some rest → u = [a, b] ++ rest :=
    after?_eq_some
  rw [tagEnd?.eq_def] at h
  split at h
  · next u =>
    -- with a minus sign the blanks behind the tag belong to its end
    obtain ⟨more, hmore, rfl⟩ := Option.map_eq_some_iff.1 h
    refine ⟨'-' :: [a, b] ++ more.takeWhile Unicode.isBlank, ?_, by simp⟩
    rw [hafter hmore, List.append_assoc, skipBlanks, List.takeWhile_append_dropWhile]
    rfl
  · next u =>
    cases plus with
    | false => cases h
    | true =>
      refine ⟨'+' :: [a, b], ?_, by simp⟩
      rw [hafter h]
      rfl
  · exact ⟨[a, b], hafter h, Nat.le_refl _⟩

theorem commentEnd?_eq_some (h : commentEnd? s = some rest) :
    ∃ front, s = front ++ rest ∧ 2 ≤ front.length := by
  induction s with
  | nil => cases h
  | cons c more ih =>
    rw [commentEnd?] at h
    cases hend : tagEnd? '#' '\x7d' true (c :: more) with
    | some u =>
      rw [hend, Option.some_or, Option.some.injEq] at h
      exact h ▸ tagEnd?_eq_some hend
    | none =>
      rw [hend, Option.none_or] at h
      obtain ⟨front, rfl, hlength⟩ := ih h
      exact ⟨c :: front, rfl, Nat.le_succ_of_le hlength⟩

theorem exists_edge (s : List Char) : ∃ sign, s = sign ++ (edge s).2 := by
  rw [edge.eq_def]
  split
  · exact ⟨['-'], rfl⟩
  · exact ⟨['+'], rfl⟩
  · exact ⟨[], rfl⟩

end Ends

/-! ### Texts with remarks -/

/-- A text with neither the mark of an expression nor that of a statement. -/
def Plain (cs : List Char) : Prop :=
  follows '\x7b' '\x7b' cs = false ∧ follows '\x7b' '%' cs = false

theorem plain_iff {t : String} : isPlain t = true ↔ Plain t.toList := by
  rw [isPlain, Bool.and_eq_true, Bool.not_eq_true', Bool.not_eq_true']
  rfl

namespace Plain

variable {cs text more rest : List Char}

theorem of_append (front : List Char) (h : Plain (front ++ rest)) : Plain rest :=
  ⟨follows_of_append h.1, follows_of_append h.2⟩

theorem normalizeLines (h : Plain cs) : Plain (normalizeLines cs) :=
  ⟨(follows_normalizeLines (by decide) (by decide) cs).trans h.1,
    (follows_normalizeLines (by decide) (by decide) cs).trans h.2⟩

/-- A tag that starts in a plain text is that of a remark. -/
theorem tagStart?_cases (h : Plain cs) :
    (∃ rest, cs = '\x7b' :: '#' :: rest ∧
      tagStart? cs = some (.comment, (edge rest).1, (edge rest).2)) ∨
    (∀ rest, cs ≠ '\x7b' :: '#' :: rest) ∧ tagStart? cs = none := by
  rw [tagStart?.eq_def]
  split
  · exact absurd (show true = false from h.1) (by decide)
  · next rest => exact .inl ⟨rest, rfl, rfl⟩
  · exact absurd (show true = false from h.2) (by decide)
  · next hremark _ => exact .inr ⟨hremark, rfl⟩

/-- **A plain text has no tag, or its first tag is that of a remark.** -/
theorem splitAtTag_cases (h : Plain cs) :
    (follows '\x7b' '#' cs = false ∧ splitAtTag cs = (cs, none)) ∨
    ∃ text rest, cs = text ++ '\x7b' :: '#' :: rest ∧
      splitAtTag cs = (text, some (.comment, (edge rest).1, (edge rest).2)) := by
  induction cs with
  | nil => exact .inl ⟨rfl, rfl⟩
  | cons c more ih =>
    rw [splitAtTag]
    rcases h.tagStart?_cases with ⟨rest, hcs, htag⟩ | ⟨hremark, htag⟩
    · rw [htag]
      exact .inr ⟨[], rest, hcs, rfl⟩
    · rw [htag]
      dsimp only
      rcases ih (of_append [c] h) with ⟨hmore, hsplit⟩ | ⟨text, rest, rfl, hsplit⟩
      · rw [hsplit]
        -- a remark could only start with the first character, where no tag starts
        refine .inl ⟨?_, rfl⟩
        rw [follows_cons, hmore, Bool.or_false, ← Bool.not_eq_true, Bool.and_eq_true, beq_iff_eq,
          beq_iff_eq]
        rintro ⟨rfl, hhead⟩
        cases more with
        | nil => cases hhead
        | cons d rest =>
          obtain rfl : d = '#' := Option.some.inj hhead
          exact hremark rest rfl
      · rw [hsplit]
        exact .inr ⟨c :: text, rest, rfl, rfl⟩

/-- What follows a remark is plain as well. -/
theorem of_remark (h : Plain (text ++ '\x7b' :: '#' :: more))
    (hend : commentEnd? (edge more).2 = some rest) : Plain rest := by
  obtain ⟨sign, hsign⟩ := exists_edge more
  obtain ⟨front, hfront, -⟩ := commentEnd?_eq_some hend
  rw [hsign, hfront] at h
  exact of_append front (of_append sign (of_append ['\x7b', '#'] (of_append text h)))

end Plain

/-! ### What is left without remarks -/

theorem tagStart?_eq_comment {cs after : List Char} {e : Edge}
    (h : tagStart? cs = some (.comment, e, after)) :
    ∃ rest, cs = '\x7b' :: '#' :: rest ∧ edge rest = (e, after) := by
  rw [tagStart?.eq_def] at h
  split at h
  · cases h
  · next rest => exact ⟨rest, rfl, (Prod.mk.inj (Option.some.inj h)).2⟩
  · dsimp only at h
    split at h <;> cases h
  · cases h

/-- What follows the start of a remark is shorter than the text. -/
theorem length_splitAtTag {cs text after : List Char} {e : Edge}
    (h : splitAtTag cs = (text, some (.comment, e, after))) :
    text.length + after.length + 2 ≤ cs.length := by
  induction cs generalizing text with
  | nil => cases h
  | cons c more ih =>
    rw [splitAtTag] at h
    split at h
    · next tag htag =>
      rw [Prod.mk.injEq, Option.some.injEq] at h
      obtain ⟨rfl, rfl⟩ := h
      obtain ⟨rest, hcs, hedge⟩ := tagStart?_eq_comment htag
      obtain ⟨sign, hsign⟩ := exists_edge rest
      rw [hedge] at hsign
      rw [hcs, hsign]
      simp only [List.length_cons, List.length_append, List.length_nil]
      omega
    · rw [Prod.mk.injEq] at h
      obtain ⟨rfl, htag⟩ := h
      have hmore := ih (Prod.ext rfl htag)
      rw [List.length_cons, List.length_cons]
      calc (splitAtTag more).1.length + 1 + after.length + 2
          = ((splitAtTag more).1.length + after.length + 2) + 1 := by omega
        _ ≤ more.length + 1 := Nat.succ_le_succ hmore

/-- What is left of a text when its remarks are taken out, with the blanks that they take away with
them. There is nothing if the text has other tags, or a remark that does not end. -/
def withoutRemarks (cs : List Char) : Option (List Char) :=
  match _hsplit : splitAtTag cs with
  | (text, none) => some text
  | (text, some (.comment, e, after)) =>
    match _hend : commentEnd? after with
    | some rest => (withoutRemarks rest).map (e.trimBefore text ++ ·)
    | none => if after.isEmpty then some (e.trimBefore text) else none
  | (_, some _) => none
termination_by cs.length
decreasing_by
  -- the text goes on behind the end of a remark
  obtain ⟨front, rfl, hfront⟩ := commentEnd?_eq_some _hend
  have hlength := length_splitAtTag _hsplit
  rw [List.length_append] at hlength
  omega

section WithoutRemarks

variable {cs text after rest out : List Char} {e : Edge}

theorem withoutRemarks_of_none (h : splitAtTag cs = (text, none)) :
    withoutRemarks cs = some text := by
  rw [withoutRemarks]
  split
  · next hsplit =>
    rw [h] at hsplit
    cases hsplit
    rfl
  · next hsplit =>
    rw [h] at hsplit
    cases hsplit
  · next hsplit =>
    rw [h] at hsplit
    cases hsplit

/-- **A remark is taken out,** and what follows it is looked at again. -/
theorem withoutRemarks_of_remark (h : splitAtTag cs = (text, some (.comment, e, after))) :
    withoutRemarks cs =
      match commentEnd? after with
      | some rest => (withoutRemarks rest).map (e.trimBefore text ++ ·)
      | none => if after.isEmpty then some (e.trimBefore text) else none := by
  rw [withoutRemarks]
  split
  · next hsplit =>
    rw [h] at hsplit
    cases hsplit
  · next hsplit =>
    rw [h] at hsplit
    cases hsplit
    split
    · next hend => rw [hend]
    · next hend => rw [hend]
  · next hcomment hsplit =>
    rw [h] at hsplit
    cases hsplit
    exact absurd rfl (hcomment e after)

theorem length_trimBefore (e : Edge) (s : List Char) : (e.trimBefore s).length ≤ s.length := by
  cases e with
  | keep => exact Nat.le_refl _
  | trim =>
    show (s.reverse.dropWhile Unicode.isBlank).reverse.length ≤ s.length
    rw [List.length_reverse, ← s.length_reverse]
    exact (List.dropWhile_sublist _).length_le

/-- What is left is not longer, and shorter if a remark has been taken out. -/
theorem length_withoutRemarks (hplain : Plain cs) (h : withoutRemarks cs = some out) :
    out.length ≤ cs.length ∧ (follows '\x7b' '#' cs = true → out.length < cs.length) := by
  -- The rest behind a remark is no tail of the text that the cases know, only a shorter text.
  induction hn : cs.length using Nat.strongRecOn generalizing cs out with
  | ind n ih =>
    subst hn
    rcases hplain.splitAtTag_cases with ⟨hnone, hsplit⟩ | ⟨text, more, hcs, hsplit⟩
    · rw [withoutRemarks_of_none hsplit, Option.some.injEq] at h
      rw [← h, hnone]
      exact ⟨Nat.le_refl _, fun hfollows => by cases hfollows⟩
    · have htrim := length_trimBefore (edge more).1 text
      have hsize := length_splitAtTag hsplit
      have hshort : out.length < cs.length := by
        rw [withoutRemarks_of_remark hsplit] at h
        split at h
        · next rest hend =>
          obtain ⟨out', hout', rfl⟩ := Option.map_eq_some_iff.1 h
          obtain ⟨front, hfront, -⟩ := commentEnd?_eq_some hend
          rw [hfront, List.length_append] at hsize
          have hrest : Plain rest := (hcs ▸ hplain).of_remark hend
          have hmore := (ih rest.length (by omega) hrest hout' rfl).1
          rw [List.length_append]
          omega
        · split at h
          · cases h
            omega
          · cases h
      exact ⟨Nat.le_of_lt hshort, fun _ => hshort⟩

theorem withoutRemarks_of_not_follows (hplain : Plain cs) (h : follows '\x7b' '#' cs = false) :
    withoutRemarks cs = some cs := by
  rcases hplain.splitAtTag_cases with ⟨-, hsplit⟩ | ⟨text, more, rfl, -⟩
  · exact withoutRemarks_of_none hsplit
  · have hremark : follows '\x7b' '#' ('\x7b' :: '#' :: more) = false := follows_of_append h
    exact absurd (show true = false from hremark) (by decide)

/-- **A text is left as it is** exactly if it has no remark, and line feeds for line ends. -/
theorem withoutRemarks_normalizeLines_iff (hplain : Plain cs) :
    withoutRemarks (normalizeLines cs) = some cs ↔
      '\r' ∉ cs ∧ follows '\x7b' '#' cs = false := by
  have hfollows := follows_normalizeLines (a := '\x7b') (b := '#') (by decide) (by decide) cs
  constructor
  · intro h
    -- With a remark the result is shorter than the text, and line ends do not make up for it.
    have hremark : follows '\x7b' '#' cs = false := by
      rw [← Bool.not_eq_true]
      intro htrue
      have hshort := (length_withoutRemarks hplain.normalizeLines h).2 (hfollows.trans htrue)
      exact absurd (length_normalizeLines cs) (Nat.not_le.2 hshort)
    rw [withoutRemarks_of_not_follows hplain.normalizeLines (hfollows.trans hremark),
      Option.some.injEq] at h
    exact ⟨h ▸ notMem_normalizeLines cs, hremark⟩
  · rintro ⟨hreturn, hremark⟩
    rw [normalizeLines_of_notMem hreturn]
    exact withoutRemarks_of_not_follows hplain hremark

end WithoutRemarks

/-! ### Tokens of plain texts -/

/-- What is said of a remark that does not end. -/
def openRemark : Failure := malformed "Missing end of comment tag"

/-- **Tokens that show a text:** they are parts of the text, or break off for a remark that does not
end. -/
inductive Tokens.Shows : Tokens → Option (List Char) → Prop
  /-- The text is at its end. -/
  | done : Shows Tokens.none (some [])
  /-- A remark does not end. -/
  | opened : Shows (.broken openRemark) .none
  /-- A part of the text comes first. -/
  | part {ts : Tokens} {shown : Option (List Char)} (line : Nat) (s : List Char)
      (h : Shows ts shown) : Shows (.data line s ts) (shown.map (s ++ ·))

/-- **The tokens of a plain text show what is left of it without remarks.** -/
theorem shows_scanText {cs : List Char} (hplain : Plain cs) (size line : Nat) {fuel : Nat}
    (hfuel : cs.length < fuel) : (scanText size line cs fuel).Shows (withoutRemarks cs) := by
  -- One step goes to the first remark, and the text behind it is plain again.
  induction fuel generalizing cs line with
  | zero => cases hfuel
  | succ fuel ih =>
    rw [scanText]
    rcases hplain.splitAtTag_cases with ⟨-, hsplit⟩ | ⟨text, more, hcs, hsplit⟩
    · rw [withoutRemarks_of_none hsplit, hsplit]
      have hshows := Tokens.Shows.part line cs .done
      rw [Option.map_some, List.append_nil] at hshows
      exact hshows
    · rw [withoutRemarks_of_remark hsplit, hsplit]
      dsimp only
      cases hend : commentEnd? (edge more).2 with
      | some rest =>
        have hsize := length_splitAtTag hsplit
        obtain ⟨front, hfront, -⟩ := commentEnd?_eq_some hend
        rw [hfront, List.length_append] at hsize
        exact .part line _ (ih ((hcs ▸ hplain).of_remark hend) _ (by omega))
      | none =>
        dsimp only
        split
        · have hshows := Tokens.Shows.part line ((edge more).1.trimBefore text) .done
          rw [Option.map_some, List.append_nil] at hshows
          exact hshows
        · exact .part line _ .opened

/-! ### Reading plain texts -/

namespace Reader

/-- What a reader makes of tokens that show a text: parts with this text after those before, or the
failure of the remark that does not end. -/
def PutsOut (shown : Option (List Char)) (pending : List Part) :
    Except Failure (List Node × TokenStream) → Prop
  | .error f => shown = none ∧ f = openRemark
  | .ok (nodes, _) => ∃ texts : List (List Char),
      nodes = outputOf ((texts.map Part.data).reverse ++ pending) ∧ shown = some texts.flatten

variable {s : TokenStream} {α : Type}

theorem seq_of_ok {x : Reader Unit} {s' : TokenStream} (h : x s = .ok ((), s')) (y : Reader α) :
    (x *> y) s = y s' := by
  show (x s).bind _ = _
  rw [h]
  rfl

theorem seq_of_error {x : Reader Unit} {f : Failure} (h : x s = .error f) (y : Reader α) :
    (x *> y) s = .error f := by
  show (x s).bind _ = _
  rw [h]
  rfl

theorem advance_of_cons {t : Token} {rest : List Token} (h : s.rest = t :: rest) :
    advance s = .ok ((), { s with current := t, rest := rest }) := by
  obtain ⟨current, _, fault, open_, sought⟩ := s
  obtain rfl : _ = t :: rest := h
  rfl

theorem advance_of_nil (h : s.rest = []) (hfault : s.fault = none) :
    advance s = .ok ((), { s with current := ⟨s.current.line, .finish⟩ }) := by
  obtain ⟨current, _, _, open_, sought⟩ := s
  obtain rfl : _ = [] := h
  obtain rfl : _ = none := hfault
  rfl

theorem advance_of_fault {f : Failure} (h : s.rest = []) (hfault : s.fault = some f)
    (hcurrent : s.current.lexeme ≠ .finish) : advance s = .error f := by
  obtain ⟨current, _, _, open_, sought⟩ := s
  obtain rfl : _ = [] := h
  obtain rfl : _ = some f := hfault
  show (if current.lexeme = .finish then _ else _ : Reader Unit) _ = _
  rw [if_neg hcurrent]
  rfl

theorem parts_of_data {statement : Reader Node} {ends : List String} {fuel : Nat}
    {pending : List Part} {d : List Char} (h : s.current.lexeme = .data d) :
    parts statement ends (fuel + 1) pending s =
      (advance *> parts statement ends fuel (.data d :: pending)) s := by
  obtain ⟨⟨line, _⟩, rest, fault, open_, sought⟩ := s
  obtain rfl : _ = Lexeme.data d := h
  rfl

theorem parts_of_finish {statement : Reader Node} {ends : List String} {fuel : Nat}
    {pending : List Part} (h : s.current.lexeme = .finish) :
    parts statement ends (fuel + 1) pending s = .ok (outputOf pending, s) := by
  obtain ⟨⟨line, _⟩, rest, fault, open_, sought⟩ := s
  obtain rfl : _ = Lexeme.finish := h
  rfl

/-- A part that has been read before comes first in the text. -/
theorem PutsOut.cons {shown : Option (List Char)} {pending : List Part} {d : List Char}
    {x : Except Failure (List Node × TokenStream)} (h : PutsOut shown (.data d :: pending) x) :
    PutsOut (shown.map (d ++ ·)) pending x := by
  cases x with
  | error f => exact ⟨by rw [h.1, Option.map_none], h.2⟩
  | ok result =>
    obtain ⟨texts, hnodes, hshown⟩ := h
    refine ⟨d :: texts, ?_, by rw [hshown, Option.map_some, List.flatten_cons]⟩
    rw [hnodes, List.map_cons, List.reverse_cons, List.append_assoc, List.singleton_append]

/-- **Parts that show a text are read one by one.** -/
theorem putsOut_parts {ts : Tokens} {shown : Option (List Char)} (h : ts.Shows shown)
    (statement : Reader Node) (ends : List String) {fuel : Nat} (hfuel : ts.tokens.length < fuel)
    (pending : List Part) (hrest : s.rest = ts.tokens) (hfault : s.fault = ts.fault)
    (hcurrent : s.current.lexeme ≠ .finish) :
    PutsOut shown pending ((advance *> parts statement ends fuel pending) s) := by
  -- Reading a part takes one step on and leaves the reader before the parts that are left, so the
  -- statement is about a reader that has still to advance.
  induction h generalizing fuel pending s with
  | done =>
    obtain ⟨fuel, rfl⟩ : ∃ k, fuel = k + 1 := ⟨fuel - 1, by omega⟩
    rw [seq_of_ok (advance_of_nil hrest hfault), parts_of_finish rfl]
    exact ⟨[], rfl, rfl⟩
  | opened =>
    rw [seq_of_error (advance_of_fault hrest hfault hcurrent)]
    exact ⟨rfl, rfl⟩
  | @part ts shown line d h ih =>
    by_cases hd : d = []
    · -- an empty part is no token
      subst hd
      have hshown : shown.map (([] : List Char) ++ ·) = shown := Option.map_id'
      rw [hshown]
      exact ih hfuel pending hrest hfault hcurrent
    · have hdata : Tokens.data line d ts = .cons ⟨line, .data d⟩ ts :=
        if_neg (by rwa [List.isEmpty_iff])
      rw [hdata] at hfuel hrest hfault
      rw [Tokens.tokens_cons, List.length_cons] at hfuel
      obtain ⟨fuel, rfl⟩ : ∃ k, fuel = k + 1 := ⟨fuel - 1, by omega⟩
      rw [seq_of_ok (advance_of_cons hrest), parts_of_data rfl]
      refine PutsOut.cons (ih (Nat.lt_of_succ_lt_succ hfuel) (.data d :: pending) rfl hfault ?_)
      exact fun h => by cases h

theorem length_advance {s' : TokenStream} (h : advance s = .ok ((), s')) :
    s.rest.length ≤ s'.rest.length + 1 := by
  cases hrest : s.rest with
  | nil => exact Nat.zero_le _
  | cons t rest =>
    rw [advance_of_cons hrest, Except.ok.injEq, Prod.mk.injEq] at h
    rw [← h.2]
    exact Nat.le_refl _

/-- A template that shows a text is read as this text. -/
theorem read_template {ts : Tokens} {shown : Option (List Char)} (h : ts.Shows shown) :
    match template.read ts with
    | .error f => shown = none ∧ f = openRemark
    | .ok nodes => ∃ texts : List (List Char),
        nodes = outputOf (texts.map Part.data).reverse ∧ shown = some texts.flatten := by
  have hcurrent : (start ts).current.lexeme ≠ .finish := fun h => by cases h
  have hread : PutsOut shown [] ((advance *> template) (start ts)) := by
    -- How many steps the template takes is known only after the first one.
    cases hadvance : advance (start ts) with
    | error f =>
      have hputs := putsOut_parts h exhausted [] (Nat.lt_succ_self _) [] rfl rfl hcurrent
      rw [seq_of_error hadvance] at hputs ⊢
      exact hputs
    | ok result =>
      obtain ⟨⟨⟩, s'⟩ := result
      have hlength := length_advance hadvance
      have hputs := putsOut_parts h (statementWithin (s'.rest.length + 2)) []
        (show ts.tokens.length < s'.rest.length + 2 from Nat.lt_succ_of_le hlength) []
        rfl rfl hcurrent
      rw [seq_of_ok hadvance] at hputs ⊢
      exact hputs
  show match ((advance *> template) (start ts)).map (·.1) with | .error f => _ | .ok nodes => _
  cases hresult : (advance *> template) (start ts) with
  | error f =>
    rw [hresult] at hread
    exact hread
  | ok result =>
    rw [hresult] at hread
    obtain ⟨texts, hnodes, hshown⟩ := hread
    rw [List.append_nil] at hnodes
    exact ⟨texts, hnodes, hshown⟩

end Reader

/-! ### Checking outputs -/

section Settled

variable {v : Vocabulary} {p : CheckPlace} {parts : List Part}

theorem mapM_settlePart (h : ∀ part ∈ parts, settlePart v p part = .ok part) :
    parts.mapM (settlePart v p) = .ok parts := by
  induction parts with
  | nil => rfl
  | cons part more ih =>
    obtain ⟨hpart, hmore⟩ := List.forall_mem_cons.1 h
    rw [List.mapM_cons, hpart, ih hmore]
    rfl

theorem settleNode_output (h : ∀ part ∈ parts, settlePart v p part = .ok part) (s : CheckState) :
    settleNode v p (.output parts) s = .ok ((.output parts, false), s) := by
  rw [settleNode]
  show (if p.yields && s.certain then (pure _ : Check (Node × Bool)) else _) s = _
  -- An output behind an extension that is certain is left as it is without a look at its parts.
  cases p.yields && s.certain with
  | true => rfl
  | false =>
    rw [if_neg Bool.false_ne_true, mapM_settlePart h]
    rfl

/-- **An output whose parts stay as they are** is run as it is. -/
theorem settle_output (h : ∀ p, ∀ part ∈ parts, settlePart v p part = .ok part) :
    settle v [.output parts] = .ok ⟨[.output parts], []⟩ := by
  have hnodes : settleNodes v ⟨false, true, true, true, true⟩ [.output parts] ⟨0, false⟩ =
      .ok ([.output parts], ⟨0, false⟩) := by
    rw [settleNodes]
    show (settleNode v _ (.output parts) ⟨0, false⟩).bind _ = _
    rw [settleNode_output (h _)]
    rfl
  show Except.map _ (Except.bind (settleNodes v _ [.output parts] ⟨0, false⟩) _) = _
  rw [hnodes]
  rfl

end Settled

/-! ### Running outputs -/

theorem joinedTexts_chars (n : Nat) (texts : List (List Char)) :
    joinedTexts n (texts.map Datum.chars) = pure texts := by
  induction texts generalizing n with
  | nil => rfl
  | cons d more ih =>
    rw [List.map_cons, joinedTexts, ih, String.toList_ofList]
    rfl

/-- **What an output shows** are its pieces, one after the other. -/
theorem text_output {setting : Setting} {depth : Nat} {site : Site} {parts : List Part}
    {texts : List (List Char)} {s s' : Store}
    (h : ∀ p, runOutput (evaluate setting depth) site parts p s =
      (.ok (texts.map Datum.chars), s')) (p : Puller) :
    (evaluate setting (depth + 1)).text site [.output parts] p s =
      (.ok (String.ofList texts.flatten), s') := by
  -- The evaluator of the next depth answers with the one of this depth.
  have hanswer : ∀ p, answer (evaluate setting depth) setting (.nodes site [.output parts]) p s =
      (.ok (.row (texts.map Datum.chars)), s') := by
    intro p
    rw [answer, List.mapM_cons, List.mapM_nil, runNode]
    simp only [pure_bind, bind_assoc]
    rw [Eval.bind_of_ok (h p), List.flatten_cons, List.flatten_nil, List.append_nil]
    rfl
  have hself : evaluate setting (depth + 1) (.nodes site [.output parts]) p s =
      (.ok (.row (texts.map Datum.chars)), s') := hanswer _
  rw [Evaluator.text, Evaluator.pieces, bind_assoc, Eval.bind_of_ok hself]
  show (do return String.ofList (← joinedTexts 0 (texts.map Datum.chars)).flatten : Eval String) p
    s' = _
  rw [joinedTexts_chars]
  rfl

/-! ### Running plain texts -/

section Texts

variable (texts : List (List Char))

theorem settlePart_of_texts {v : Vocabulary} (p : CheckPlace) :
    ∀ part ∈ texts.map Part.data, settlePart v p part = .ok part := by
  intro part hpart
  obtain ⟨d, -, rfl⟩ := List.mem_map.1 hpart
  rfl

theorem mentionsOfParts_texts : mentionsOfParts (texts.map Part.data) = [] := by
  induction texts with
  | nil => rfl
  | cons d more ih => exact ih

theorem runOutput_texts (self : Evaluator) (site : Site) :
    runOutput self site (texts.map Part.data) = pure (texts.map Datum.chars) := by
  rw [runOutput, List.mapM_map]
  exact List.mapM_pure

/-- **Texts are put out as they are.** -/
theorem text_texts (setting : Setting) (depth : Nat) (site : Site) :
    (evaluate setting (depth + 1)).text site [.output (texts.map Part.data)] =
      pure (String.ofList texts.flatten) := by
  have houtput : ∀ p s, runOutput (evaluate setting depth) site (texts.map Part.data) p s =
      (.ok (texts.map Datum.chars), s) := fun p s => by
    rw [runOutput_texts]
    rfl
  funext p s
  exact text_output (fun p => houtput p s) p

end Texts

theorem Reader.outputOf_reverse {parts : List Part} (h : parts ≠ []) :
    outputOf parts.reverse = [.output parts] := by
  cases hparts : parts.reverse with
  | nil => exact absurd (List.reverse_eq_nil_iff.1 hparts) h
  | cons p more =>
    show [Node.output (p :: more).reverse] = _
    rw [← hparts, List.reverse_reverse]

/-- Nodes that mention no name are run in a frame without names. -/
theorem runNodes_of_unnamed {scope : Scope} {nodes : List Node} {text : String}
    (hspecial : undeclared nodes ["self"] = [])
    (hframe : Frame.ofNodes (fun _ => false) [] nodes = .empty)
    (htext : ∀ site, (evaluate ⟨scope, []⟩ nesting).text site nodes = pure text)
    (p : Puller) (s : Store) : (runNodes scope ⟨nodes, []⟩ p s).1 = .ok text := by
  rw [runNodes]
  dsimp only
  rw [hspecial, hframe]
  -- the evaluator is not to be unfolded for all its depth
  generalize evaluate ⟨scope, []⟩ nesting = self at htext ⊢
  show ((self.text _ nodes) p _).1 = _
  rw [htext]
  rfl

/-- **A template of texts puts these texts out,** if the names around it are texts. -/
theorem runChecked_texts (scope : Scope) (texts : List (List Char)) (p : Puller) (s : Store) :
    (runChecked scope (Reader.outputOf (texts.map Part.data).reverse) p s).1 =
      if scope.textual then .ok (String.ofList texts.flatten)
      else .error (.type "keywords must be strings") := by
  -- The names are looked at between the check and the run, whatever the nodes.
  have hchecked : ∀ nodes : List Node, settle vocabulary nodes = .ok ⟨nodes, []⟩ →
      (runNodes scope ⟨nodes, []⟩ p s).1 = .ok (String.ofList texts.flatten) →
      (runChecked scope nodes p s).1 = if scope.textual then .ok (String.ofList texts.flatten)
        else .error (.type "keywords must be strings") := by
    intro nodes hsettle hrun
    rw [runChecked, hsettle]
    show ((if scope.textual then runNodes scope ⟨nodes, []⟩ else _) p s).1 = _
    cases scope.textual with
    | true => exact hrun
    | false => rfl
  cases texts with
  | nil =>
    exact hchecked [] rfl (runNodes_of_unnamed rfl rfl (fun _ => rfl) p s)
  | cons d more =>
    have hmentions := mentionsOfParts_texts (d :: more)
    have hne : (d :: more).map Part.data ≠ [] := List.cons_ne_nil _ _
    rw [Reader.outputOf_reverse hne]
    refine hchecked _ (settle_output (settlePart_of_texts _)) (runNodes_of_unnamed ?_ ?_ ?_ p s)
    · show undeclaredIn (mentionsOfParts _ ++ []) _ = []
      rw [hmentions]
      rfl
    · show Frame.mentionAll _ .empty (mentionsOfParts _) = .empty
      rw [hmentions]
      rfl
    · exact fun site => text_texts (d :: more) ⟨scope, []⟩ (nesting - 1) site

/-! ### The engine and the shortcut -/

/-- **What the engine makes of a plain text:** what is left of it without remarks, with line feeds
for line ends, if every remark ends and the names around it are texts. -/
theorem run_of_plain {t : String} (h : isPlain t = true) (scope : Scope)
    (current : List (Nat × Value)) (next : Nat) :
    (run t scope current next).result =
      match withoutRemarks (normalizeLines t.toList) with
      | none => .error openRemark
      | some text =>
        if scope.textual then .ok (String.ofList text)
        else .error (.type "keywords must be strings") := by
  have hshows : (scan t).Shows (withoutRemarks (normalizeLines t.toList)) :=
    shows_scanText (plain_iff.1 h).normalizeLines _ 1 (Nat.lt_succ_self _)
  have hread := Reader.read_template hshows
  rw [run_result, ending, nodesOf]
  cases hnodes : Reader.template.read (scan t) with
  | error f =>
    rw [hnodes] at hread
    obtain ⟨hshown, rfl⟩ := hread
    rw [hshown]
    rfl
  | ok nodes =>
    rw [hnodes] at hread
    obtain ⟨texts, rfl, hshown⟩ := hread
    rw [hshown]
    exact runChecked_texts scope texts _ _

end Template

namespace Rendering

open Template

/-- **Passing a text over.** A text with neither the mark of an expression nor that of a statement
is rendered as it is. The engine would take out its remarks, make line feeds of its line ends, and
fail if a remark does not end or a name around it is no text; so nobody can tell the difference
exactly if there is neither a remark nor another line end, and all names are texts. -/
theorem shortcut_of_isPlain {t : String} (h : isPlain t = true) (s : Surroundings) :
    ((ofText t).runIn s).1 = .ok t ∧
      ((runOf t s).result =
        match withoutRemarks (normalizeLines t.toList) with
        | none => .error openRemark
        | some text =>
          if (Scope.ofEntries s.names).textual then .ok (String.ofList text)
          else .error (.type "keywords must be strings")) ∧
      ((runOf t s).result = .ok t ↔
        (Scope.ofEntries s.names).textual = true ∧ '\r' ∉ t.toList ∧
          follows '\x7b' '#' t.toList = false) := by
  have hrun := run_of_plain h (Scope.ofEntries s.names) s.changes s.next
  refine ⟨runIn_ofText_of_isPlain h s, hrun, ?_⟩
  rw [runOf, hrun, ← withoutRemarks_normalizeLines_iff (plain_iff.1 h)]
  -- The engine gives the text itself if nothing is missing without remarks and all names are texts.
  cases withoutRemarks (normalizeLines t.toList) with
  | none =>
    refine iff_of_false (fun h => ?_) fun h => ?_
    · cases h
    · cases h.2
  | some text =>
    cases (Scope.ofEntries s.names).textual with
    | false =>
      refine iff_of_false (fun h => ?_) fun h => ?_
      · cases h
      · cases h.1
    | true =>
      dsimp only
      rw [if_pos rfl, Except.ok.injEq, Option.some.injEq]
      constructor
      · rintro rfl
        exact ⟨rfl, String.toList_ofList.symm⟩
      · rintro ⟨-, rfl⟩
        exact String.ofList_toList

/-- A text with a remark and a line end of two characters. -/
theorem shortcut_of_isPlain_line :
    isPlain "a \x7b#- c #\x7d\r\n" = true ∧
      ((ofText "a \x7b#- c #\x7d\r\n").runIn (.ofEntries [])).1 = .ok "a \x7b#- c #\x7d\r\n" ∧
      (runOf "a \x7b#- c #\x7d\r\n" (.ofEntries [])).result ≠ .ok "a \x7b#- c #\x7d\r\n" := by
  have hplain : isPlain "a \x7b#- c #\x7d\r\n" = true := by decide
  obtain ⟨hpassed, -, hiff⟩ := shortcut_of_isPlain hplain (.ofEntries [])
  exact ⟨hplain, hpassed, fun hrun => absurd (hiff.1 hrun).2.2 (by decide)⟩

/-- **The shortcut can be observed:** the engine takes a remark out. -/
theorem observable_remark :
    isPlain "\x7b# c #\x7d" = true ∧
      ((ofText "\x7b# c #\x7d").runIn (.ofEntries [])).1 = .ok "\x7b# c #\x7d" ∧
      (runOf "\x7b# c #\x7d" (.ofEntries [])).result = .ok "" := by
  refine ⟨by decide, runIn_ofText_of_isPlain (by decide) _, ?_⟩
  have htest : (runOf "\x7b# c #\x7d" (.ofEntries [])).result.toOption = some "" := by
    decide +kernel
  cases hresult : (runOf "\x7b# c #\x7d" (.ofEntries [])).result with
  | error f =>
    rw [hresult] at htest
    cases htest
  | ok text =>
    rw [hresult] at htest
    exact congrArg Except.ok (Option.some.inj htest)

end Rendering

end Playbook
