import Mathlib.Data.List.Forall2
import Playbook.Decimal.Numeral
import Playbook.Proofs.Mappings
import Playbook.Text.Utf16
import Playbook.Value.Json

/-!
# Reading JSON documents

What is written as a JSON document can be read again, by whoever knows JSON and nothing of the
writer. This module has such a reader and shows that it gives back what was written.

* `Json.read?` — the value of a JSON document: blanks between its tokens do not count, an integer
  has no leading zero, a control character stands in no text, an escape of a first half and one of
  a second half that follows are one character, and of two members of one name the later one wins.
* `Value.IsData` — the values that JSON has a form for: nothing, truth values, integers that may be
  written, texts without lone halves of pairs, lists, and mappings whose keys are such texts.
* `Json.Escape` — how the writer writes a character between quotes, as far as readers care.
* `Json.Reads` — a text is read as a value wherever it stands, as long as what follows does not go
  on with a number. Texts are put together from smaller ones, so this is what the induction carries.
* `Value.IsData.reads` — **every such value is written, in every layout, as a text that is read as
  this value**, except that nothing is left of the marks of its containers.

A text is read in two steps, since a character outside the first plane is written as two escapes:
`Json.characters?` gives each of the two halves as a character of its own, and `Json.joinHalves`
puts them together.
-/

namespace Playbook

namespace Json

/-! ### Texts -/

/-- Whether a character may stand between tokens. -/
def isBlank (c : Char) : Bool := c == ' ' || c == '\t' || c == '\n' || c == '\r'

/-- The characters after the blanks at the start. -/
def skip (cs : List Char) : List Char := cs.dropWhile isBlank

/-- The character of an escape by one letter. -/
def letterEscape? : Char → Option Char
  | '"' => some '"'
  | '\\' => some '\\'
  | '/' => some '/'
  | 'b' => some '\x08'
  | 'f' => some '\x0c'
  | 'n' => some '\n'
  | 'r' => some '\r'
  | 't' => some '\t'
  | _ => none

/-- The character of an escape by four hexadecimal digits. -/
def numberEscape? (a b c d : Char) : Option Char := do
  let a ← Numeral.digitValue? 16 a
  let b ← Numeral.digitValue? 16 b
  let c ← Numeral.digitValue? 16 c
  let d ← Numeral.digitValue? 16 d
  return CodePoint.toChar (((a * 16 + b) * 16 + c) * 16 + d)

/-- The characters up to the closing quote, and those after it. -/
def characters? : List Char → Option (List Char × List Char)
  | [] => none
  -- An escape by number is tried first, as its letter is none of the others.
  | '\\' :: 'u' :: a :: b :: c :: d :: rest => do
    let x ← numberEscape? a b c d
    let (cs, after) ← characters? rest
    return (x :: cs, after)
  | '\\' :: x :: rest => do
    let x ← letterEscape? x
    let (cs, after) ← characters? rest
    return (x :: cs, after)
  | c :: rest =>
    if c = '"' then some ([], rest)
    else if c = '\\' ∨ c.toNat < 0x20 then none
    else do
      let (cs, after) ← characters? rest
      return (c :: cs, after)

/-- Two halves of a pair as one character, wherever they stand next to each other. -/
def joinHalves : List Char → List Char
  | c :: d :: rest =>
    let u := CodePoint.ofChar c
    let v := CodePoint.ofChar d
    if Utf16.isLead u && Utf16.isTrail v then
      Char.ofNat (0x10000 + (u - 0xD800) * 0x400 + (v - 0xDC00)) :: joinHalves rest
    else c :: joinHalves (d :: rest)
  | cs => cs

/-- The text that is open at a place, and the characters after it. -/
def text? (cs : List Char) : Option (String × List Char) :=
  (characters? cs).map fun (cs, after) => (String.ofList (joinHalves cs), after)

/-! ### Numbers -/

/-- The digits at a place, and the characters after them. -/
def digits (cs : List Char) : List Char × List Char :=
  (cs.takeWhile Char.isDigit, cs.dropWhile Char.isDigit)

/-- The digits of a fraction, and the characters after it. -/
def fraction? : List Char → Option (List Char × List Char)
  | '.' :: rest =>
    match digits rest with
    | ([], _) => none
    | (ds, after) => some (ds, after)
  | _ => none

/-- An exponent, and the characters after it. -/
def exponent? : List Char → Option (Int × List Char)
  | e :: rest =>
    if e = 'e' ∨ e = 'E' then
      let (negative, rest) := Numeral.sign rest
      match digits rest with
      | ([], _) => none
      | (ds, after) => some (Numeral.signed negative (Nat.ofDigitChars 10 ds 0), after)
    else none
  | [] => none

/-- A number without its sign, and the characters after it. -/
def unsigned? (negative : Bool) (cs : List Char) : Option (Value × List Char) :=
  match digits cs with
  | ([], _) => none
  -- A single zero is a number, but nothing starts with a zero and goes on.
  | ('0' :: _ :: _, _) => none
  | (whole, after) =>
    let part := fraction? after
    let left := (part.map (·.2)).getD after
    let power := exponent? left
    if part.isNone && power.isNone then
      some (.int (Numeral.signed negative (Nat.ofDigitChars 10 whole 0)), after)
    else
      let ds := (part.map (·.1)).getD []
      let scale := (power.map (·.1)).getD 0 - ds.length
      some (.float (.ofDecimal negative (Nat.ofDigitChars 10 (whole ++ ds) 0) scale),
        (power.map (·.2)).getD left)

/-- The number at a place, and the characters after it. -/
def number? : List Char → Option (Value × List Char)
  | '-' :: rest => unsigned? true rest
  | cs => unsigned? false cs

/-! ### Values -/

/-- The characters after a word. -/
def word? (word : List Char) (v : Value) (cs : List Char) : Option (Value × List Char) :=
  if word.isPrefixOf cs then some (v, cs.drop word.length) else none

variable {α : Type}

/-- Parts between commas, of which there is one at least, up to a closing character. The number
bounds the parts. -/
def separated? (part : List Char → Option (α × List Char)) (closing : Char) :
    Nat → List Char → Option (List α × List Char)
  | 0, _ => none
  | fuel + 1, cs => do
    let (x, rest) ← part cs
    match skip rest with
    | [] => none
    | c :: rest =>
      if c = closing then return ([x], rest)
      else if c = ',' then do
        let (xs, after) ← separated? part closing fuel rest
        return (x :: xs, after)
      else none

/-- Parts between commas, of which there may be none, up to a closing character. -/
def enclosed? (part : List Char → Option (α × List Char)) (closing : Char) (fuel : Nat)
    (cs : List Char) : Option (List α × List Char) :=
  match skip cs with
  | [] => none
  -- The parts are read from before the blanks that have been passed: a part passes them itself.
  | c :: rest => if c = closing then some ([], rest) else separated? part closing fuel cs

/-- The member at a place, a text and a value with a colon between them. -/
def member? (value? : List Char → Option (Value × List Char)) (cs : List Char) :
    Option ((Value × Value) × List Char) :=
  match skip cs with
  | '"' :: rest => do
    let (name, rest) ← text? rest
    match skip rest with
    | ':' :: rest => (value? rest).map fun (v, after) => ((.str name, v), after)
    | _ => none
  | _ => none

/-- The value at a place, and the characters after it. The number bounds the depth. -/
def value? : Nat → List Char → Option (Value × List Char)
  | 0, _ => none
  | fuel + 1, cs =>
    match skip cs with
    | [] => none
    | c :: rest =>
      if c = '"' then (text? rest).map fun (s, after) => (.str s, after)
      else if c = '[' then
        (enclosed? (value? fuel) ']' fuel rest).map fun (vs, after) => (.list none vs, after)
      else if c = '\x7b' then
        (enclosed? (member? (value? fuel)) '\x7d' fuel rest).map fun (es, after) =>
          -- Of two members of one name the later one takes the place of the earlier.
          (.map none (Entries.ofList es), after)
      else if c = 'n' then word? ['u', 'l', 'l'] .null rest
      else if c = 't' then word? ['r', 'u', 'e'] (.bool true) rest
      else if c = 'f' then word? ['a', 'l', 's', 'e'] (.bool false) rest
      else number? (c :: rest)

/-- The value of a document. -/
def read? (document : String) : Option Value := do
  let (v, rest) ← value? (document.length + 1) document.toList
  if (skip rest).isEmpty then return v else none

/-! ### Reading texts back -/

/-- Whether a text holds no half of a pair on its own. -/
def IsText (s : String) : Prop := ∀ c ∈ s.toList, CodePoint.isHalf c = false

-- By the list: there are only finitely many characters, but far too many to try them all.
instance (s : String) : Decidable (IsText s) :=
  List.decidableBAll (fun c => CodePoint.isHalf c = false) s.toList

/-- The characters that the escapes of a character stand for: itself, or two halves. -/
def halvesOf (c : Char) : List Char :=
  if c.toNat < 0x10000 then [c]
  else
    [CodePoint.toChar (0xD800 + (c.toNat - 0x10000) / 0x400),
      CodePoint.toChar (0xDC00 + (c.toNat - 0x10000) % 0x400)]

theorem ofChar_of_not_isHalf {c : Char} (h : CodePoint.isHalf c = false) :
    CodePoint.ofChar c = c.toNat := by
  rw [CodePoint.ofChar, h]
  rfl

/-- No character is a half in the plane of halves. -/
theorem not_half_toNat (c : Char) : ¬(0xD800 ≤ c.toNat ∧ c.toNat < 0xE000) := by
  rintro ⟨hlow, hhigh⟩
  have hvalid : c.toNat.isValidChar := c.valid
  rcases hvalid with h | ⟨h, -⟩ <;> omega

theorem toNat_lt (c : Char) : c.toNat < 0x110000 := by
  rcases c.valid with h | ⟨-, h⟩
  · exact Nat.lt_trans h (by decide)
  · exact h

theorem toChar_toNat (c : Char) : CodePoint.toChar c.toNat = c := by
  rw [CodePoint.toChar, if_neg, Char.ofNat_toNat]
  rintro ⟨hlow, hhigh⟩
  exact not_half_toNat c ⟨hlow, hhigh⟩

theorem digitValue?_hexDigit : ∀ n < 16, Numeral.digitValue? 16 (Literal.hexDigit n) = some n := by
  decide

/-- Four digits of a number are read back. -/
theorem numberEscape?_hex {n : Nat} (h : n < 0x10000) :
    ∃ a b c d, Literal.hex 4 n = [a, b, c, d] ∧
      numberEscape? a b c d = some (CodePoint.toChar n) := by
  refine ⟨_, _, _, _, rfl, ?_⟩
  -- Each digit is below the base, so the reader knows it; put together again they are the number.
  have hdigit (m : Nat) : Numeral.digitValue? 16 (Literal.hexDigit (m % 16)) = some (m % 16) :=
    digitValue?_hexDigit _ (Nat.mod_lt _ (by decide))
  have hn : ((n / 16 / 16 / 16 % 16 * 16 + n / 16 / 16 % 16) * 16 + n / 16 % 16) * 16 + n % 16 =
      n := by
    omega
  simp only [numberEscape?, hdigit, Option.bind_eq_bind, Option.bind_some, hn]
  rfl

/-- The escape of a code unit is read as the character that stands for it. -/
theorem characters?_unit {n : Nat} (h : n < 0x10000) (rest : List Char) :
    characters? ('\\' :: 'u' :: Literal.hex 4 n ++ rest) =
      (characters? rest).map fun (cs, after) => (CodePoint.toChar n :: cs, after) := by
  obtain ⟨a, b, c, d, hhex, hread⟩ := numberEscape?_hex h
  rw [hhex]
  show characters? ('\\' :: 'u' :: a :: b :: c :: d :: rest) = _
  rw [characters?, hread]
  cases characters? rest <;> rfl

/-- The escape of a character by one letter is read as this character. -/
theorem characters?_letter {x c : Char} (hu : x ≠ 'u') (h : letterEscape? x = some c)
    (rest : List Char) :
    characters? ('\\' :: x :: rest) =
      (characters? rest).map fun (cs, after) => (c :: cs, after) := by
  rw [characters?]
  · rw [h]
    cases characters? rest <;> rfl
  · intro a b c d more hx
    exact fun _ => hu hx

/-- A character that needs no escape is read as itself. -/
theorem characters?_plain {c : Char} (hquote : c ≠ '"') (hslash : c ≠ '\\') (hlow : 0x20 ≤ c.toNat)
    (rest : List Char) :
    characters? (c :: rest) = (characters? rest).map fun (cs, after) => (c :: cs, after) := by
  rw [characters?]
  · rw [if_neg hquote, if_neg (not_or.2 ⟨hslash, Nat.not_lt.2 hlow⟩)]
    cases characters? rest <;> rfl
  · exact fun _ _ _ _ _ h => absurd h hslash
  · exact fun _ _ h => absurd h hslash

/-- The letters that stand for characters behind a backslash, and these characters. -/
def escapeLetters : List (Char × Char) :=
  [('"', '"'), ('\\', '\\'), ('n', '\n'), ('r', '\r'), ('t', '\t'), ('b', '\x08'),
    ('f', '\x0c')]

/-- **How a character is written between quotes:** by a letter of its own, as itself, or by the
numbers of its code units. -/
inductive Escape (c : Char) : List Char → Prop
  /-- It has a letter. -/
  | letter {x : Char} (h : (x, c) ∈ escapeLetters) : Escape c ['\\', x]
  /-- It stands for itself. -/
  | plain (hquote : c ≠ '"') (hslash : c ≠ '\\')
    (h : 0x20 ≤ CodePoint.ofChar c ∧ CodePoint.ofChar c < 0x7F) : Escape c [c]
  /-- It is of the first plane. -/
  | unit (h : CodePoint.ofChar c < 0x10000) :
    Escape c ('\\' :: 'u' :: Literal.hex 4 (CodePoint.ofChar c))
  /-- It takes two units. -/
  | pair (h : ¬CodePoint.ofChar c < 0x10000) :
    Escape c (('\\' :: 'u' :: Literal.hex 4 (0xD800 + (CodePoint.ofChar c - 0x10000) / 0x400)) ++
      ('\\' :: 'u' :: Literal.hex 4 (0xDC00 + (CodePoint.ofChar c - 0x10000) % 0x400)))

theorem escape_escapeChar (c : Char) : Escape c (escapeChar c) := by
  by_cases hletter : ∃ x, (x, c) ∈ escapeLetters
  · obtain ⟨x, hx⟩ := hletter
    have hwritten : ∀ e ∈ escapeLetters, escapeChar e.2 = ['\\', e.1] := by decide
    rw [hwritten _ hx]
    exact .letter hx
  · -- The writer tries the letters one after the other.
    have hne : ∀ e ∈ escapeLetters, c ≠ e.2 := fun e he hc => hletter ⟨e.1, hc ▸ he⟩
    simp only [escapeLetters, List.forall_mem_cons] at hne
    obtain ⟨hquote, hslash, hn, hr, ht, hb, hf, -⟩ := hne
    rw [escapeChar, if_neg hquote, if_neg hslash, if_neg hn, if_neg hr, if_neg ht, if_neg hb,
      if_neg hf]
    dsimp only
    split
    · next hplain => exact .plain hquote hslash hplain
    · split
      · next hsmall => exact .unit hsmall
      · next hlarge => exact .pair hlarge

/-- **A character is read back from its escape,** as the halves that stand for it. -/
theorem characters?_escapeChar {c : Char} (hc : CodePoint.isHalf c = false) (rest : List Char) :
    characters? (escapeChar c ++ rest) =
      (characters? rest).map fun (cs, after) => (halvesOf c ++ cs, after) := by
  have hletters : ∀ e ∈ escapeLetters,
      e.1 ≠ 'u' ∧ letterEscape? e.1 = some e.2 ∧ halvesOf e.2 = [e.2] := by
    decide
  have hsame : CodePoint.ofChar c = c.toNat := ofChar_of_not_isHalf hc
  have hescape := escape_escapeChar c
  generalize escapeChar c = escape at hescape ⊢
  cases hescape with
  | letter hx =>
    obtain ⟨hu, hletter, hhalves⟩ := hletters _ hx
    rw [hhalves]
    exact characters?_letter hu hletter rest
  | plain hquote hslash hplain =>
    rw [hsame] at hplain
    rw [halvesOf, if_pos (by omega)]
    exact characters?_plain hquote hslash hplain.1 rest
  | unit hsmall =>
    rw [hsame] at hsmall ⊢
    have hread := characters?_unit hsmall rest
    rw [toChar_toNat] at hread
    rw [halvesOf, if_pos hsmall]
    exact hread
  | pair hlarge =>
    -- two escapes, of which the reader makes two characters
    rw [hsame] at hlarge ⊢
    rw [halvesOf, if_neg hlarge]
    have hbound := toNat_lt c
    have hfirst : 0xD800 + (c.toNat - 0x10000) / 0x400 < 0x10000 := by omega
    have hsecond : 0xDC00 + (c.toNat - 0x10000) % 0x400 < 0x10000 := by omega
    refine (congrArg characters? (List.append_assoc _ _ _)).trans ?_
    refine (characters?_unit hfirst _).trans ?_
    refine (congrArg _ (characters?_unit hsecond rest)).trans ?_
    rw [Option.map_map]
    rfl

/-- The characters of a text are read back, as halves. -/
theorem characters?_flatMap {cs : List Char} (hcs : ∀ c ∈ cs, CodePoint.isHalf c = false)
    (rest : List Char) :
    characters? (cs.flatMap escapeChar ++ '"' :: rest) = some (cs.flatMap halvesOf, rest) := by
  -- Induction on the text: each character is read in front of what is read of the rest.
  induction cs with
  | nil => rfl
  | cons c more ih =>
    obtain ⟨hc, hmore⟩ := List.forall_mem_cons.1 hcs
    rw [List.flatMap_cons, List.append_assoc, characters?_escapeChar hc, ih hmore]
    rfl

/-- A character that is no half is not put together with the next one. -/
theorem joinHalves_cons {c : Char} (hc : CodePoint.isHalf c = false) (more : List Char) :
    joinHalves (c :: more) = c :: joinHalves more := by
  have hlead : Utf16.isLead (CodePoint.ofChar c) = false := by
    rw [ofChar_of_not_isHalf hc, Utf16.isLead, Bool.and_eq_false_iff, decide_eq_false_iff_not,
      decide_eq_false_iff_not]
    by_contra h
    rw [not_or, not_not, not_not] at h
    exact not_half_toNat c ⟨h.1, Nat.lt_trans h.2 (by decide)⟩
  -- A half of the first kind would be needed to join, and this character is none.
  cases more with
  | nil => rfl
  | cons d rest =>
    rw [joinHalves, hlead, Bool.false_and]
    rfl

/-- **The halves of a character are put together.** -/
theorem joinHalves_halvesOf {c : Char} (hc : CodePoint.isHalf c = false) (more : List Char) :
    joinHalves (halvesOf c ++ more) = c :: joinHalves more := by
  rw [halvesOf]
  by_cases hsmall : c.toNat < 0x10000
  · rw [if_pos hsmall]
    exact joinHalves_cons hc more
  · rw [if_neg hsmall]
    -- Both halves lie in the plane of halves, where a code is read as it has been written.
    have hbound := toNat_lt c
    have hfirst : CodePoint.ofChar (CodePoint.toChar (0xD800 + (c.toNat - 0x10000) / 0x400)) =
        0xD800 + (c.toNat - 0x10000) / 0x400 := by
      apply CodePoint.ofChar_toChar_half <;> simp only [CodePoint.firstHalf, CodePoint.halves]
      · omega
      · omega
    have hsecond : CodePoint.ofChar (CodePoint.toChar (0xDC00 + (c.toNat - 0x10000) % 0x400)) =
        0xDC00 + (c.toNat - 0x10000) % 0x400 := by
      apply CodePoint.ofChar_toChar_half <;> simp only [CodePoint.firstHalf, CodePoint.halves]
      · omega
      · omega
    show joinHalves (CodePoint.toChar _ :: CodePoint.toChar _ :: more) = _
    rw [joinHalves, hfirst, hsecond, if_pos]
    -- The two offsets are the quotient and the remainder by which the character was split.
    · have hn : 0x10000 + (0xD800 + (c.toNat - 0x10000) / 0x400 - 0xD800) * 0x400 +
          (0xDC00 + (c.toNat - 0x10000) % 0x400 - 0xDC00) = c.toNat := by
        omega
      rw [hn, Char.ofNat_toNat]
    · simp only [Utf16.isLead, Utf16.isTrail, Bool.and_eq_true, decide_eq_true_eq]
      omega

theorem joinHalves_flatMap {cs : List Char} (hcs : ∀ c ∈ cs, CodePoint.isHalf c = false) :
    joinHalves (cs.flatMap halvesOf) = cs := by
  induction cs with
  | nil => rfl
  | cons c more ih =>
    obtain ⟨hc, hmore⟩ := List.forall_mem_cons.1 hcs
    rw [List.flatMap_cons, joinHalves_halvesOf hc, ih hmore]

/-- **A text is read back** from its quoted form. -/
theorem text?_quote {s : String} (hs : IsText s) (rest : List Char) :
    ∃ body, (quote s).toList = '"' :: body ∧ text? (body ++ rest) = some (s, rest) := by
  refine ⟨s.toList.flatMap escapeChar ++ ['"'], String.toList_ofList, ?_⟩
  rw [text?, List.append_assoc, List.singleton_append, characters?_flatMap hs, Option.map_some]
  dsimp only
  rw [joinHalves_flatMap hs, String.ofList_toList]

/-! ### Reading integers back -/

/-- Whether what follows does not go on with a number. -/
def Follows (rest : List Char) : Prop :=
  ∀ c ∈ rest.head?, c.isDigit = false ∧ c ≠ '.' ∧ c ≠ 'e' ∧ c ≠ 'E'

/-- A positive number is written without a leading zero. -/
theorem head?_toDigits {n : Nat} (h : 0 < n) : (Nat.toDigits 10 n).head? ≠ some '0' := by
  -- the first digit is that of the number without its last digit
  induction n using Nat.strongRecOn with
  | ind n ih =>
    by_cases hn : n < 10
    · rw [Nat.toDigits_of_lt_base hn]
      have hdigit : ∀ n < 10, 0 < n → [n.digitChar].head? ≠ some '0' := by decide
      exact hdigit n hn h
    · rw [Nat.toDigits_of_base_le (by decide) (Nat.le_of_not_lt hn),
        List.head?_append_of_ne_nil _ Nat.toDigits_ne_nil]
      exact ih (n / 10) (by omega) (by omega)

theorem digits_append {ds rest : List Char} (hds : ∀ c ∈ ds, c.isDigit = true)
    (hrest : Follows rest) : digits (ds ++ rest) = (ds, rest) := by
  rw [digits, List.takeWhile_append_of_pos hds, List.dropWhile_append_of_pos hds]
  cases rest with
  | nil => rw [List.takeWhile_nil, List.append_nil, List.dropWhile_nil]
  | cons c more =>
    have hc : ¬c.isDigit = true := by
      rw [(hrest c rfl).1]
      decide
    rw [List.takeWhile_cons_of_neg hc, List.append_nil, List.dropWhile_cons_of_neg hc]

theorem fraction?_of_follows {rest : List Char} (h : Follows rest) : fraction? rest = none := by
  rw [fraction?.eq_def]
  split
  · exact absurd rfl (h _ rfl).2.1
  · rfl

theorem exponent?_of_follows {rest : List Char} (h : Follows rest) : exponent? rest = none := by
  cases rest with
  | nil => rfl
  | cons c more =>
    obtain ⟨-, -, he, hE⟩ := h c rfl
    rw [exponent?, if_neg (not_or.2 ⟨he, hE⟩)]

/-- A natural is read back from its digits. -/
theorem unsigned?_toDigits (negative : Bool) (n : Nat) {rest : List Char} (h : Follows rest) :
    unsigned? negative (Nat.toDigits 10 n ++ rest) =
      some (.int (Numeral.signed negative n), rest) := by
  have hdigit : ∀ c ∈ Nat.toDigits 10 n, c.isDigit = true := fun c hc =>
    Nat.isDigit_of_mem_toDigits (by decide) (by decide) hc
  rw [unsigned?, digits_append hdigit h]
  -- No digits, a leading zero, or a number: only the last can be, as the digits are those of a
  -- number.
  split
  · next heq =>
    rw [Prod.mk.injEq] at heq
    exact absurd heq.1 Nat.toDigits_ne_nil
  · next c ds after heq =>
    rw [Prod.mk.injEq] at heq
    obtain ⟨hzero, -⟩ := heq
    -- Zero is one digit, and a positive number does not start with one.
    rcases Nat.eq_zero_or_pos n with rfl | hn
    · cases hzero
    · exact absurd (by rw [hzero]; rfl) (head?_toDigits hn)
  · next whole after _ _ heq =>
    rw [Prod.mk.injEq] at heq
    obtain ⟨rfl, rfl⟩ := heq
    dsimp only
    rw [fraction?_of_follows h, Option.map_none, Option.getD_none, exponent?_of_follows h,
      Nat.ofDigitChars_toDigits (by decide) (by decide)]
    rfl

theorem toList_toString_ofNat (n : Nat) :
    (toString (Int.ofNat n)).toList = Nat.toDigits 10 n := String.toList_ofList

theorem toList_toString_negSucc (n : Nat) :
    (toString (Int.negSucc n)).toList = '-' :: Nat.toDigits 10 (n + 1) := by
  show ("-" ++ Nat.repr (n + 1)).toList = _
  rw [String.toList_append]
  exact congrArg ('-' :: ·) String.toList_ofList

theorem exists_toDigits (n : Nat) : ∃ c cs, Nat.toDigits 10 n = c :: cs ∧ c.isDigit = true := by
  cases hds : Nat.toDigits 10 n with
  | nil => exact absurd hds Nat.toDigits_ne_nil
  | cons c cs =>
    refine ⟨c, cs, rfl, Nat.isDigit_of_mem_toDigits (b := 10) (n := n) (by decide) (by decide) ?_⟩
    rw [hds]
    exact List.mem_cons_self

/-- An integer starts with a minus or a digit. -/
theorem exists_toString (i : Int) :
    ∃ c cs, (toString i).toList = c :: cs ∧ (c = '-' ∨ c.isDigit = true) := by
  cases i with
  | ofNat n =>
    obtain ⟨c, cs, hds, hc⟩ := exists_toDigits n
    exact ⟨c, cs, (toList_toString_ofNat n).trans hds, .inr hc⟩
  | negSucc n => exact ⟨_, _, toList_toString_negSucc n, .inl rfl⟩

/-- **An integer is read back.** -/
theorem number?_toString (i : Int) {rest : List Char} (h : Follows rest) :
    number? ((toString i).toList ++ rest) = some (.int i, rest) := by
  cases i with
  | ofNat n =>
    rw [toList_toString_ofNat, number?.eq_def]
    split
    · next more hminus =>
      -- no digit is a minus
      obtain ⟨c, cs, hds, hc⟩ := exists_toDigits n
      rw [hds, List.cons_append, List.cons.injEq] at hminus
      rw [hminus.1] at hc
      cases hc
    · exact unsigned?_toDigits false n h
  | negSucc n =>
    rw [toList_toString_negSucc, List.cons_append, number?, unsigned?_toDigits true (n + 1) h]
    rfl

/-! ### Reading what is between brackets back -/

/-- Whether all characters may stand between tokens. -/
def Blank (gap : List Char) : Prop := ∀ c ∈ gap, isBlank c = true

theorem skip_blank {gap : List Char} (h : Blank gap) (cs : List Char) :
    skip (gap ++ cs) = skip cs := List.dropWhile_append_of_pos h

theorem skip_cons {c : Char} (h : isBlank c = false) (cs : List Char) :
    skip (c :: cs) = c :: cs := by
  apply List.dropWhile_cons_of_neg
  rw [h]
  decide

theorem follows_nil : Follows [] := fun c hc => by cases hc

/-- Neither a comma nor a closing bracket goes on with a number. -/
theorem follows_closing {c : Char} (h : c = ',' ∨ c = ']' ∨ c = '\x7d') (rest : List Char) :
    Follows (c :: rest) := by
  intro d hd
  obtain rfl : c = d := Option.some.inj hd
  rcases h with rfl | rfl | rfl <;> decide

/-- No blank goes on with a number. -/
theorem follows_blank {gap rest : List Char} (h : Blank gap) (hrest : Follows rest) :
    Follows (gap ++ rest) := by
  cases gap with
  | nil => exact hrest
  | cons b more =>
    intro d hd
    obtain rfl : b = d := Option.some.inj hd
    have hb := h b List.mem_cons_self
    simp only [isBlank, Bool.or_eq_true, beq_iff_eq] at hb
    rcases hb with ((rfl | rfl) | rfl) | rfl <;> decide

section Enclosed

variable {α : Type} {part : List Char → Option (α × List Char)} {closing : Char}

/-- The last part stands before the closing character. -/
theorem separated?_last {cs gap rest : List Char} {x : α} (hgap : Blank gap)
    (hclosing : isBlank closing = false) (h : part cs = some (x, gap ++ closing :: rest))
    (fuel : Nat) : separated? part closing (fuel + 1) cs = some ([x], rest) := by
  rw [separated?, h]
  show (match skip (gap ++ closing :: rest) with | [] => none | c :: rest => _) = _
  rw [skip_blank hgap, skip_cons hclosing]
  exact if_pos rfl

/-- Any other part stands before a comma. -/
theorem separated?_next {cs rest : List Char} {x : α} (hclosing : closing ≠ ',')
    (h : part cs = some (x, ',' :: rest)) (fuel : Nat) :
    separated? part closing (fuel + 1) cs =
      (separated? part closing fuel rest).map fun (xs, after) => (x :: xs, after) := by
  rw [separated?, h]
  show (match skip (',' :: rest) with | [] => none | c :: rest => _) = _
  rw [skip_cons (by decide)]
  refine (if_neg hclosing.symm).trans ((if_pos rfl).trans ?_)
  cases separated? part closing fuel rest <;> rfl

variable (hblank : ∀ gap cs, Blank gap → part (gap ++ cs) = part cs)

include hblank

theorem separated?_blank {gap : List Char} (h : Blank gap) (fuel : Nat) (cs : List Char) :
    separated? part closing fuel (gap ++ cs) = separated? part closing fuel cs := by
  cases fuel with
  | zero => rfl
  | succ fuel => rw [separated?, separated?, hblank gap cs h]

variable {sep gap : List Char} {texts : List (List Char)} {xs : List α}
  (hclosing : closing = ']' ∨ closing = '\x7d') (hsep : Blank sep) (hgap : Blank gap)
  (h : List.Forall₂ (fun t x => ∀ rest, Follows rest → part (t ++ rest) = some (x, rest)) texts xs)

include hclosing hsep hgap h

/-- **Parts between commas are read back,** if each of them is read back. -/
theorem separated?_intercalate (hne : texts ≠ []) (rest : List Char) {fuel : Nat}
    (hfuel : (List.intercalate (',' :: sep) texts).length < fuel) :
    separated? part closing fuel
      (List.intercalate (',' :: sep) texts ++ (gap ++ closing :: rest)) = some (xs, rest) := by
  have hnotBlank : isBlank closing = false := by rcases hclosing with rfl | rfl <;> decide
  have hnotComma : closing ≠ ',' := by rcases hclosing with rfl | rfl <;> decide
  -- Induction on the parts, with the bound free: each of them takes one from it.
  induction h generalizing fuel with
  | nil => exact absurd rfl hne
  | @cons t x more ys ht hmore ih =>
    obtain ⟨fuel, rfl⟩ : ∃ k, fuel = k + 1 := ⟨fuel - 1, by omega⟩
    cases hmore with
    -- The last part is followed by blanks and the closing bracket.
    | nil =>
      rw [List.intercalate_singleton]
      have hfollows := follows_blank hgap (follows_closing (.inr hclosing) rest)
      exact separated?_last hgap hnotBlank (ht _ hfollows) fuel
    | @cons u _ more =>
      -- Any other is followed by a comma, and the blanks behind it belong to the parts to come.
      rw [List.intercalate_cons_cons, List.length_append, List.length_append,
        List.length_cons] at hfuel
      have hlength : (List.intercalate (',' :: sep) (u :: more)).length < fuel := by omega
      have hlater := ih (List.cons_ne_nil _ _) hlength
      rw [← separated?_blank hblank hsep] at hlater
      rw [List.intercalate_cons_cons, List.append_assoc, List.append_assoc, List.cons_append,
        separated?_next hnotComma (ht _ (follows_closing (.inl rfl) _)),
        hlater]
      rfl

end Enclosed

theorem blank_nil : Blank [] := fun c hc => by cases hc

/-- A new line and the blanks that indent it may stand between tokens. -/
theorem blank_line (n : Nat) : Blank ("\n" ++ String.ofList (List.replicate n ' ')).toList := by
  simp only [String.toList_append, String.toList_ofList]
  intro c hc
  rcases List.mem_append.1 hc with hc | hc
  · obtain rfl : c = '\n' := List.mem_singleton.1 hc
    rfl
  · obtain rfl := List.eq_of_mem_replicate hc
    rfl

/-- **Every layout** puts commas between the texts, and beside them nothing but blanks. -/
theorem exists_layout (style : Style) (depth : Nat) (opening closing : String) {texts : List String}
    (hne : texts ≠ []) :
    ∃ before sep after, Blank before ∧ Blank sep ∧ Blank after ∧
      (layout style depth opening closing texts).toList = opening.toList ++
        (before ++ (List.intercalate (',' :: sep) (texts.map String.toList) ++
          (after ++ closing.toList))) := by
  rw [layout, if_neg (by rwa [List.isEmpty_iff])]
  -- On one line a blank follows each comma; otherwise each text is on a line of its own.
  cases style.indent with
  | none =>
    refine ⟨[], [' '], [], blank_nil, ?_, blank_nil, ?_⟩
    · intro c hc
      obtain rfl := List.mem_singleton.1 hc
      rfl
    · rw [String.toList_append, String.toList_append, String.toList_intercalate]
      exact List.append_assoc _ _ _
  | some n =>
    refine ⟨_, _, _, blank_line (n * (depth + 1)), blank_line (n * (depth + 1)),
      blank_line (n * depth), ?_⟩
    simp only [String.toList_append, String.toList_intercalate, List.append_assoc]
    rfl

theorem length_le_intercalate {sep t : List Char} {texts : List (List Char)} (h : t ∈ texts) :
    t.length ≤ (List.intercalate sep texts).length := by
  induction texts with
  | nil => cases h
  | cons u more ih =>
    cases more with
    | nil =>
      obtain rfl := List.mem_singleton.1 h
      exact Nat.le_of_eq (congrArg List.length List.intercalate_singleton.symm)
    | cons =>
      rw [List.intercalate_cons_cons, List.length_append, List.length_append]
      rcases List.mem_cons.1 h with rfl | h
      · omega
      · have := ih h
        omega

section Layout

variable {α : Type} {part : List Char → Option (α × List Char)} {closing : Char}
  (hstart : ∀ cs, (∀ c ∈ (skip cs).head?, c = closing) → part cs = none)

include hstart

/-- What is read as parts does not start with the closing character. -/
theorem enclosed?_of_separated? {fuel : Nat} {cs rest : List Char} {xs : List α}
    (h : separated? part closing fuel cs = some (xs, rest)) :
    enclosed? part closing fuel cs = some (xs, rest) := by
  -- Something is read as parts, so the first part is read as well.
  have hpart : part cs ≠ none := by
    intro hnone
    cases fuel with
    | zero => cases h
    | succ =>
      rw [separated?, hnone] at h
      cases h
  rw [enclosed?]
  cases hskip : skip cs with
  | nil =>
    -- At the end of the text, as before the closing bracket, no part could have been read.
    refine absurd (hstart cs fun c hc => ?_) hpart
    rw [hskip] at hc
    cases hc
  | cons c more =>
    refine (if_neg fun hc => hpart (hstart cs fun d hd => ?_)).trans h
    rw [hskip] at hd
    exact (Option.some.inj hd).symm.trans hc

variable (hblank : ∀ gap cs, Blank gap → part (gap ++ cs) = part cs)
  (hclosing : closing = ']' ∨ closing = '\x7d')

include hblank hclosing

/-- **What stands between brackets is read back,** if each of its parts is read back. -/
theorem enclosed?_layout {texts : List String} {xs : List α}
    (h : List.Forall₂ (fun t x => ∀ rest, Follows rest → part (t.toList ++ rest) = some (x, rest))
      texts xs)
    (style : Style) (depth : Nat) {opening : String} {body : List Char} {c : Char} {fuel : Nat}
    (hbody : (layout style depth opening (String.singleton closing) texts).toList = c :: body)
    (hopening : opening.toList = [c]) (hfuel : body.length ≤ fuel) (rest : List Char) :
    enclosed? part closing fuel (body ++ rest) = some (xs, rest) := by
  by_cases hne : texts = []
  -- Nothing at all stands between the brackets.
  · subst hne
    cases h
    have hempty : opening.toList ++ [closing] = c :: body := by
      rw [← hbody, layout, List.isEmpty_nil, if_pos rfl, String.toList_append,
        String.toList_singleton]
    rw [hopening, List.singleton_append, List.cons.injEq] at hempty
    have hnotBlank : isBlank closing = false := by rcases hclosing with rfl | rfl <;> decide
    rw [← hempty.2, List.singleton_append, enclosed?, skip_cons hnotBlank]
    exact if_pos rfl
  · obtain ⟨before, sep, after, hbefore, hsep, hafter, htext⟩ :=
      exists_layout style depth opening (String.singleton closing) hne
    rw [hbody, hopening, List.singleton_append, List.cons.injEq, String.toList_singleton] at htext
    obtain ⟨-, rfl⟩ := htext
    simp only [List.length_append, List.length_singleton] at hfuel
    -- The bound is the length of what follows the bracket, so there is enough of it for each part.
    have hlength : (List.intercalate (',' :: sep) (texts.map String.toList)).length < fuel := by
      omega
    have hread := separated?_intercalate hblank hclosing hsep hafter
      (List.forall₂_map_left_iff.2 h) (by rwa [ne_eq, List.map_eq_nil_iff]) rest hlength
    rw [← separated?_blank hblank hbefore] at hread
    rw [List.append_assoc, List.append_assoc, List.append_assoc, List.singleton_append]
    exact enclosed?_of_separated? hstart hread

end Layout

/-! ### Reading values back -/

/-- **A text is read as a value** wherever it stands, unless what follows goes on with a number. -/
def Reads (t : List Char) (v : Value) : Prop :=
  ∀ fuel, t.length ≤ fuel → ∀ rest, Follows rest → value? fuel (t ++ rest) = some (v, rest)

theorem reads_of_cons {t cs : List Char} {c : Char} {v : Value} (ht : t = c :: cs)
    (h : ∀ fuel, t.length ≤ fuel + 1 → ∀ rest, Follows rest →
      value? (fuel + 1) (t ++ rest) = some (v, rest)) : Reads t v := by
  intro fuel hfuel rest hrest
  cases fuel with
  | zero =>
    rw [ht] at hfuel
    exact absurd hfuel (Nat.not_succ_le_zero _)
  | succ fuel => exact h fuel hfuel rest hrest

theorem value?_blank (fuel : Nat) (gap cs : List Char) (h : Blank gap) :
    value? fuel (gap ++ cs) = value? fuel cs := by
  cases fuel with
  | zero => rfl
  | succ fuel => rw [value?, value?, skip_blank h]

theorem member?_blank (part : List Char → Option (Value × List Char)) (gap cs : List Char)
    (h : Blank gap) : member? part (gap ++ cs) = member? part cs := by
  rw [member?, member?, skip_blank h]

/-- No value starts with a closing bracket. -/
theorem value?_of_closing (fuel : Nat) (cs : List Char) (h : ∀ c ∈ (skip cs).head?, c = ']') :
    value? fuel cs = none := by
  cases fuel with
  | zero => rfl
  | succ fuel =>
    rw [value?]
    cases hskip : skip cs with
    | nil => rfl
    | cons c more =>
      rw [hskip] at h
      obtain rfl := h c rfl
      rfl

/-- No member starts with a closing brace. -/
theorem member?_of_closing (part : List Char → Option (Value × List Char)) (cs : List Char)
    (h : ∀ c ∈ (skip cs).head?, c = '\x7d') : member? part cs = none := by
  rw [member?]
  split
  · next hskip =>
    rw [hskip] at h
    exact absurd (h _ rfl) (by decide)
  · rfl

/-- What starts like a number is read as one. -/
theorem value?_number {c : Char} (hc : c = '-' ∨ c.isDigit = true) (fuel : Nat) (cs : List Char) :
    value? (fuel + 1) (c :: cs) = number? (c :: cs) := by
  -- None of the other openings is a minus or a digit.
  have hne : ∀ d : Char, d ≠ '-' → d.isDigit = false → c ≠ d := by
    rintro d hminus hdigit rfl
    rcases hc with h | h
    · exact hminus h
    · rw [hdigit] at h
      cases h
  have hblank : isBlank c = false := by
    simp only [isBlank, Bool.or_eq_false_iff, beq_eq_false_iff_ne]
    exact ⟨⟨⟨hne _ (by decide) (by decide), hne _ (by decide) (by decide)⟩,
      hne _ (by decide) (by decide)⟩, hne _ (by decide) (by decide)⟩
  rw [value?, skip_cons hblank]
  dsimp only
  rw [if_neg (hne _ (by decide) (by decide)), if_neg (hne _ (by decide) (by decide)),
    if_neg (hne _ (by decide) (by decide)), if_neg (hne _ (by decide) (by decide)),
    if_neg (hne _ (by decide) (by decide)), if_neg (hne _ (by decide) (by decide))]

theorem reads_toString (i : Int) : Reads (toString i).toList (.int i) := by
  obtain ⟨c, cs, htext, hc⟩ := exists_toString i
  refine reads_of_cons htext fun fuel _ rest hrest => ?_
  have hnumber := number?_toString i hrest
  rw [htext] at hnumber ⊢
  rw [List.cons_append, value?_number hc]
  exact hnumber

theorem reads_quote {s : String} (hs : IsText s) : Reads (quote s).toList (.str s) := by
  refine reads_of_cons String.toList_ofList fun fuel _ rest _ => ?_
  obtain ⟨body, htext, hread⟩ := text?_quote hs rest
  rw [htext]
  show (text? (body ++ rest)).map _ = _
  rw [hread]
  rfl

theorem reads_null : Reads "null".toList .null :=
  reads_of_cons (by rfl) fun _ _ _ _ => rfl

theorem reads_bool (b : Bool) : Reads (if b then "true" else "false").toList (.bool b) := by
  cases b with
  | true => exact reads_of_cons (by rfl) fun _ _ _ _ => rfl
  | false => exact reads_of_cons (by rfl) fun _ _ _ _ => rfl

section Brackets

variable {texts : List String} {opening closing : String} {c : Char}
  (hopening : opening.toList = [c]) (style : Style) (depth : Nat)

include hopening

theorem exists_body :
    ∃ body, (layout style depth opening closing texts).toList = c :: body := by
  by_cases hne : texts = []
  · subst hne
    refine ⟨closing.toList, ?_⟩
    rw [layout, List.isEmpty_nil, if_pos rfl, String.toList_append, hopening]
    rfl
  · obtain ⟨before, sep, after, -, -, -, htext⟩ := exists_layout style depth opening closing hne
    rw [hopening] at htext
    exact ⟨_, htext⟩

/-- The text of each part is not longer than what follows the opening bracket. -/
theorem length_le_body {t : String} (ht : t ∈ texts) {body : List Char}
    (hbody : (layout style depth opening closing texts).toList = c :: body) :
    t.toList.length ≤ body.length := by
  obtain ⟨before, sep, after, -, -, -, htext⟩ :=
    exists_layout style depth opening closing (List.ne_nil_of_mem ht)
  rw [hbody, hopening, List.singleton_append, List.cons.injEq] at htext
  have hle : t.toList.length ≤ (List.intercalate (',' :: sep) (texts.map String.toList)).length :=
    length_le_intercalate (List.mem_map_of_mem ht)
  rw [htext.2]
  simp only [List.length_append]
  omega

end Brackets

variable {texts : List String} (style : Style) (depth : Nat)

/-- **A list is read back** if its items are. -/
theorem reads_list {vs : List Value} (h : List.Forall₂ (fun t v => Reads t.toList v) texts vs) :
    Reads (layout style depth "[" "]" texts).toList (.list none vs) := by
  obtain ⟨body, hbody⟩ : ∃ body, (layout style depth "[" "]" texts).toList = '[' :: body :=
    exists_body rfl style depth
  refine reads_of_cons hbody fun fuel hfuel rest _ => ?_
  rw [hbody, List.length_cons] at hfuel
  -- An item is shorter than the list, so the bound that is left is enough for it.
  have hparts : List.Forall₂ (fun t v => ∀ rest, Follows rest →
      value? fuel (t.toList ++ rest) = some (v, rest)) texts vs := by
    have hlength : ∀ t ∈ texts, t.toList.length ≤ fuel := fun t ht =>
      Nat.le_trans (length_le_body rfl style depth ht hbody) (by omega)
    exact ((List.forall₂_and_left _ _).2 ⟨hlength, h⟩).imp fun _ _ ht => ht.2 fuel ht.1
  have hread := enclosed?_layout (value?_of_closing fuel) (value?_blank fuel) (.inl rfl) hparts
    style depth hbody rfl (Nat.le_of_succ_le_succ hfuel) rest
  rw [hbody]
  show (enclosed? (value? fuel) ']' fuel (body ++ rest)).map _ = _
  rw [hread]
  rfl

/-- A member is a text, a colon and a value. -/
theorem member?_append {part : List Char → Option (Value × List Char)} {name : String}
    (hname : IsText name) {t rest : List Char} {v : Value}
    (hblank : ∀ gap cs, Blank gap → part (gap ++ cs) = part cs)
    (h : part (t ++ rest) = some (v, rest)) :
    member? part (((quote name).toList ++ ':' :: ' ' :: t) ++ rest) =
      some ((.str name, v), rest) := by
  obtain ⟨body, htext, hread⟩ := text?_quote hname (':' :: ' ' :: (t ++ rest))
  -- A blank follows the colon, and the value is read from before the blank.
  have hcolon : skip (':' :: ' ' :: (t ++ rest)) = ':' :: ' ' :: (t ++ rest) :=
    skip_cons (by decide) _
  have hgap : part (' ' :: (t ++ rest)) = some (v, rest) := by
    refine (hblank [' '] (t ++ rest) fun c hc => ?_).trans h
    obtain rfl := List.mem_singleton.1 hc
    rfl
  rw [htext, List.append_assoc, List.cons_append, member?, skip_cons (by decide)]
  simp only [List.cons_append, hread, Option.bind_eq_bind, Option.bind_some, hcolon, hgap,
    Option.map_some]

/-- A text is a member: a text that is its name, and one that is read as its value. -/
def ReadsMember (t : String) (e : Value × Value) : Prop :=
  ∃ name one, t = quote name ++ ": " ++ one ∧ IsText name ∧ e.1 = .str name ∧ Reads one.toList e.2

/-- **A mapping is read back** if its members are, as no two of them have the same name. -/
theorem reads_map {es : Entries} (h : List.Forall₂ ReadsMember texts es)
    (hnodup : (es.map (·.1)).Nodup) :
    Reads (layout style depth "\x7b" "\x7d" texts).toList (.map none es) := by
  obtain ⟨body, hbody⟩ :
      ∃ body, (layout style depth "\x7b" "\x7d" texts).toList = '\x7b' :: body :=
    exists_body rfl style depth
  refine reads_of_cons hbody fun fuel hfuel rest _ => ?_
  rw [hbody, List.length_cons] at hfuel
  have hparts : List.Forall₂ (fun t e => ∀ rest, Follows rest →
      member? (value? fuel) (t.toList ++ rest) = some (e, rest)) texts es := by
    have hlength : ∀ t ∈ texts, t.toList.length ≤ fuel := fun t ht =>
      Nat.le_trans (length_le_body rfl style depth ht hbody) (by omega)
    -- A member is not longer than the body, and its value is shorter by the name and the colon.
    refine ((List.forall₂_and_left _ _).2 ⟨hlength, h⟩).imp ?_
    rintro _ ⟨k, v⟩ ⟨hle, name, one, rfl, hname, rfl, hreads⟩ rest hrest
    have htext : (quote name ++ ": " ++ one).toList =
        (quote name).toList ++ ':' :: ' ' :: one.toList := by
      rw [String.toList_append, String.toList_append]
      exact List.append_assoc _ _ _
    rw [htext] at hle ⊢
    rw [List.length_append, List.length_cons, List.length_cons] at hle
    exact member?_append hname (value?_blank fuel) (hreads fuel (by omega) rest hrest)
  have hread := enclosed?_layout (member?_of_closing (value? fuel)) (member?_blank _) (.inr rfl)
    hparts style depth hbody rfl (Nat.le_of_succ_le_succ hfuel) rest
  rw [hbody]
  show (enclosed? (member? (value? fuel)) '\x7d' fuel (body ++ rest)).map _ = _
  -- The names are different texts, so no member takes the place of another.
  have htext : ∀ e ∈ es, ∃ s, e.1 = .str s := by
    clear hparts hread hnodup hbody
    induction h with
    | nil => exact fun e he => by cases he
    | cons hone _ ih =>
      obtain ⟨name, -, -, -, hkey, -⟩ := hone
      exact List.forall_mem_cons.2 ⟨⟨name, hkey⟩, ih⟩
  rw [hread, Option.map_some]
  dsimp only
  rw [Entries.AreNames.ofList ⟨htext, hnodup⟩]

end Json

/-! ### Data -/

namespace Value

/-- **The values that JSON has a form for.** The names of a mapping are different texts. -/
inductive IsData : Value → Prop
  /-- Nothing. -/
  | null : IsData .null
  /-- A truth value. -/
  | bool (b : Bool) : IsData (.bool b)
  /-- An integer that does not have too many digits. -/
  | int {i : Int} (h : Scalar.isTooLong i = false) : IsData (.int i)
  /-- A text. -/
  | str {s : String} (h : Json.IsText s) : IsData (.str s)
  /-- A list of such values. -/
  | list (m : Option Nat) {items : List Value} (h : ∀ v ∈ items, IsData v) : IsData (.list m items)
  /-- A mapping from texts to such values. -/
  | map (m : Option Nat) {es : Entries} (hkeys : ∀ e ∈ es, ∃ s, e.1 = .str s ∧ Json.IsText s)
      (hnodup : (es.map (·.1)).Nodup) (h : ∀ e ∈ es, IsData e.2) : IsData (.map m es)

mutual

/-- A value whose lists and mappings bear no marks. -/
def unmarked : Value → Value
  | .list _ items => .list none (unmarkedItems items)
  | .map _ es => .map none (unmarkedEntries es)
  | v => v

/-- Values whose lists and mappings bear no marks. -/
def unmarkedItems : List Value → List Value
  | [] => []
  | v :: rest => unmarked v :: unmarkedItems rest

/-- Entries in whose values lists and mappings bear no marks. -/
def unmarkedEntries : List (Value × Value) → List (Value × Value)
  | [] => []
  | (k, v) :: rest => (k, unmarked v) :: unmarkedEntries rest

end

theorem unmarkedItems_eq (items : List Value) : unmarkedItems items = items.map unmarked := by
  induction items with
  | nil => rfl
  | cons v rest ih => rw [unmarkedItems, ih, List.map_cons]

theorem unmarkedEntries_eq (es : Entries) :
    unmarkedEntries es = es.map fun e => (e.1, e.2.unmarked) := by
  induction es with
  | nil => rfl
  | cons e rest ih => rw [unmarkedEntries, ih, List.map_cons]

/-- The names of a mapping stay. -/
theorem unmarkedEntries_keys (es : Entries) :
    (unmarkedEntries es).map (·.1) = es.map (·.1) := by
  rw [unmarkedEntries_eq, List.map_map]
  rfl

theorem exists_jsonItems {style : Json.Style} {depth : Nat} {items : List Value}
    (h : ∀ v ∈ items, ∃ t, v.jsonAt style depth = .ok t ∧ Json.Reads t.toList v.unmarked) :
    ∃ texts, jsonItems style depth items = .ok texts ∧
      List.Forall₂ (fun t v => Json.Reads t.toList v) texts (unmarkedItems items) := by
  induction items with
  | nil => exact ⟨[], rfl, .nil⟩
  | cons v rest ih =>
    obtain ⟨⟨t, ht, hreads⟩, hrest⟩ := List.forall_mem_cons.1 h
    obtain ⟨texts, htexts, hmore⟩ := ih hrest
    refine ⟨t :: texts, ?_, .cons hreads hmore⟩
    rw [jsonItems, ht, htexts]
    rfl

theorem exists_jsonEntries {style : Json.Style} {depth : Nat} {es : Entries}
    (hkeys : ∀ e ∈ es, ∃ s, e.1 = .str s ∧ Json.IsText s)
    (h : ∀ e ∈ es, ∃ t, e.2.jsonAt style depth = .ok t ∧ Json.Reads t.toList e.2.unmarked) :
    ∃ texts, jsonEntries style depth es = .ok texts ∧
      List.Forall₂ Json.ReadsMember texts (unmarkedEntries es) := by
  induction es with
  | nil => exact ⟨[], rfl, .nil⟩
  | cons e rest ih =>
    obtain ⟨k, v⟩ := e
    obtain ⟨⟨name, hname, hprint⟩, hkeys⟩ := List.forall_mem_cons.1 hkeys
    obtain ⟨⟨t, ht, hreads⟩, hrest⟩ := List.forall_mem_cons.1 h
    obtain ⟨texts, htexts, hmore⟩ := ih hkeys hrest
    dsimp only at hname ht hreads
    subst hname
    refine ⟨_ :: texts, ?_, .cons ⟨name, t, rfl, hprint, rfl, hreads⟩ hmore⟩
    rw [jsonEntries, ht, htexts]
    rfl

/-- **Data is written as a text that is read as this data,** in every layout. -/
theorem IsData.reads {v : Value} (h : v.IsData) (style : Json.Style) (depth : Nat) :
    ∃ t, v.jsonAt style depth = .ok t ∧ Json.Reads t.toList v.unmarked := by
  -- Induction on what data is, at any depth: the items of a list are written one deeper.
  induction h generalizing depth with
  | null => exact ⟨_, rfl, Json.reads_null⟩
  | bool b => exact ⟨_, rfl, Json.reads_bool b⟩
  | @int i hlong =>
    refine ⟨toString i, ?_, Json.reads_toString i⟩
    rw [jsonAt, Json.intText, hlong]
    rfl
  | str hs => exact ⟨_, rfl, Json.reads_quote hs⟩
  | list m _ ih =>
    obtain ⟨texts, htexts, hreads⟩ := exists_jsonItems fun v hv => ih v hv (depth + 1)
    refine ⟨_, ?_, Json.reads_list style depth hreads⟩
    rw [jsonAt, htexts]
    rfl
  | map m hkeys hnodup _ ih =>
    obtain ⟨texts, htexts, hreads⟩ := exists_jsonEntries hkeys fun e he => ih e he (depth + 1)
    refine ⟨_, ?_, Json.reads_map style depth hreads (by rwa [unmarkedEntries_keys])⟩
    rw [jsonAt, htexts]
    rfl

end Value

namespace Json

/-- **The document of data is read as this data,** also if blanks follow it. -/
theorem read?_json {v : Value} (h : v.IsData) (style : Style) {gap : String}
    (hgap : Blank gap.toList) :
    ∃ t, v.json style = .ok t ∧ read? (t ++ gap) = some v.unmarked := by
  obtain ⟨t, ht, hreads⟩ := h.reads style 0
  refine ⟨t, ht, ?_⟩
  -- The blanks at the end go on with no number, and nothing is left behind them.
  have hfollows : Follows gap.toList := by
    have hblank := follows_blank hgap follows_nil
    rwa [List.append_nil] at hblank
  have hend : skip gap.toList = [] := by
    have hskip := skip_blank hgap []
    rwa [List.append_nil] at hskip
  have hlength : t.toList.length ≤ (t ++ gap).length + 1 := by
    rw [String.length_append, String.length_toList]
    omega
  rw [read?, String.toList_append, hreads _ hlength _ hfollows]
  show (if (skip gap.toList).isEmpty then some v.unmarked else none) = _
  rw [hend]
  rfl

end Json

end Playbook
