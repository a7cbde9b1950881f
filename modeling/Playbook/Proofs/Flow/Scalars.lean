import Mathlib.Data.Nat.Digits.Defs
import Playbook.Proofs.Flow.Words
import Playbook.Yaml.ScalarValue

/-!
# Numbers and names of JSON as scalars of documents

A plain word of a document has no type of its own: it is given one by its form. The words that JSON
has without quotes are given the types that they have in JSON, and are then read as the same values.
An integer is written without leading zeros, so it is taken for no number of another base, and it
may have as many digits when it is read as when it is written.

* `Yaml.implicitTag_toString`, `Yaml.readInt_toString` — **an integer is read back.**
-/

namespace Playbook

/-! ### Digits -/

/-- What is so for the ten digits is so for all digits. -/
theorem forall_isDigit {p : Char → Prop} (h : ∀ k < 10, p (Nat.digitChar k)) {c : Char}
    (hc : c.isDigit = true) : p c := by
  rw [Char.isDigit, Bool.and_eq_true, decide_eq_true_eq, decide_eq_true_eq] at hc
  have hlow : 48 ≤ c.toNat := UInt32.le_iff_toNat_le.1 hc.1
  have hhigh : c.toNat ≤ 57 := UInt32.le_iff_toNat_le.1 hc.2
  -- A digit is the one that its code says, so it is one of the ten.
  have hchar : Nat.digitChar (c.toNat - 48) = c := by
    apply Char.toNat_inj.1
    rw [Nat.toNat_digitChar_of_lt_ten (by omega)]
    omega
  rw [← hchar]
  exact h _ (by omega)

theorem ne_of_isDigit {c d : Char} (hc : c.isDigit = true) (hd : d.isDigit = false) : c ≠ d := by
  rintro rfl
  rw [hc] at hd
  cases hd

namespace Numeral

variable {ds : List Char} (hds : ∀ c ∈ ds, c.isDigit = true)

include hds

theorem trim_digits : trim ds = ds := by
  -- No digit is blank, so nothing is cut off at either end.
  have hdrop {cs : List Char} (hcs : ∀ c ∈ cs, c.isDigit = true) : cs.dropWhile isBlank = cs := by
    cases cs with
    | nil => rfl
    | cons c rest =>
      have hc : isBlank c = false :=
        forall_isDigit (p := fun c => isBlank c = false) (by decide) (hcs c List.mem_cons_self)
      rw [List.dropWhile_cons_of_neg (by rw [hc]; decide)]
  rw [trim, hdrop hds, hdrop fun c hc => hds c (List.mem_reverse.1 hc), List.reverse_reverse]

theorem asciiDigits_digits : asciiDigits ds = ds := by
  induction ds with
  | nil => rfl
  | cons c cs ih =>
    obtain ⟨hc, hcs⟩ := List.forall_mem_cons.1 hds
    have hone : asciiDigits [c] = [c] :=
      forall_isDigit (p := fun c => asciiDigits [c] = [c]) (by decide) hc
    rw [← List.singleton_append, asciiDigits, List.map_append]
    exact congrArg₂ (· ++ ·) hone (ih hcs)

theorem digitRun_digits (hne : ds ≠ []) :
    digitRun 10 ds = some (ds.map fun c => c.toNat - 48) := by
  have hvalue {c : Char} (hc : c.isDigit = true) : digitValue? 10 c = some (c.toNat - 48) :=
    forall_isDigit (p := fun c => digitValue? 10 c = some (c.toNat - 48)) (by decide) hc
  induction ds with
  | nil => exact absurd rfl hne
  | cons c rest ih =>
    obtain ⟨hc, hrest⟩ := List.forall_mem_cons.1 hds
    cases rest with
    | nil => rw [digitRun, hvalue hc]; rfl
    | cons d more =>
      rw [digitRun, hvalue hc, ih hrest (List.cons_ne_nil _ _)]
      · rfl
      -- An underscore would be skipped, but it is no digit.
      · rintro _ _ rfl
        exact absurd (hrest '_' List.mem_cons_self) (by decide)

/-- Digits are read as the number that they are, if there are not too many of them. -/
theorem int_digits (hne : ds ≠ []) (hlength : ds.length ≤ digitLimit) :
    int 10 (String.ofList ds) = .ok (Nat.ofDigitChars 10 ds 0 : Int) := by
  -- No digit is a sign, and for decimal numbers nothing marks the base.
  have hsign : sign ds = (false, ds) := by
    rw [sign.eq_def]
    split
    · exact absurd (hds '-' List.mem_cons_self) (by decide)
    · exact absurd (hds '+' List.mem_cons_self) (by decide)
    · rfl
  have hbase : dropBaseMark 10 ds = ds := by
    rw [dropBaseMark.eq_def]
    split
    · next hmark => cases hmark
    · rfl
  -- The two sums differ only in the order of the factors.
  have hvalue : ofDigits 10 (ds.map fun c => c.toNat - 48) = Nat.ofDigitChars 10 ds 0 := by
    rw [ofDigits, List.foldl_map, Nat.ofDigitChars]
    refine congrArg (fun f => ds.foldl f 0) ?_
    funext n c
    rw [Nat.mul_comm]
    rfl
  rw [int, intOf, String.toList_ofList, trim_digits hds, asciiDigits_digits hds, hsign]
  dsimp only
  rw [hbase, digitRun_digits hds hne]
  dsimp only
  rw [if_neg, hvalue]
  · rfl
  · rw [List.length_map]
    exact fun h => Nat.not_lt_of_le hlength h.2

end Numeral

namespace Yaml

open Json (toList_toString_ofNat toList_toString_negSucc head?_toDigits)

/-! ### Integers -/

/-- The digits of a natural, of which there is one at least, the first one not zero unless it is
alone. -/
structure AreDigits (ds : List Char) : Prop where
  /-- They are digits. -/
  digits : ∀ c ∈ ds, c.isDigit = true
  /-- There is one. -/
  nonempty : ds ≠ []
  /-- A zero stands alone. -/
  zero : ds.head? = some '0' → ds = ['0']

theorem areDigits_toDigits (n : Nat) : AreDigits (Nat.toDigits 10 n) := by
  refine ⟨fun c hc => Nat.isDigit_of_mem_toDigits (by decide) (by decide) hc,
    Nat.toDigits_ne_nil, fun h => ?_⟩
  -- Zero is written as one digit, and other numbers do not start with a zero.
  rcases Nat.eq_zero_or_pos n with rfl | hn
  · rfl
  · exact absurd h (head?_toDigits hn)

theorem dropWhile_isSpaced {rest : List Char} (hrest : ∀ c ∈ rest, c.isDigit = true) :
    rest.dropWhile Schema.isSpaced = [] := by
  have hspaced : ∀ c ∈ rest, Schema.isSpaced c = true := by
    intro c hc
    rw [Schema.isSpaced, hrest c hc, Bool.true_or]
  have hdrop : (rest ++ []).dropWhile Schema.isSpaced = [] :=
    List.dropWhile_append_of_pos hspaced
  rwa [List.append_nil] at hdrop

/-- A word that starts with another character is none of some words. -/
theorem contains_of_head {words : List String} {c : Char} {cs : List Char}
    (h : ∀ w ∈ words, w.toList.head? ≠ some c) :
    words.contains (String.ofList (c :: cs)) = false := by
  rw [List.contains_eq_any_beq, List.any_eq_false]
  intro w hw hsame
  apply h w hw
  rw [← eq_of_beq hsame, String.toList_ofList]
  rfl

namespace AreDigits

variable {ds : List Char} (h : AreDigits ds)

include h

theorem exists_cons :
    ∃ c rest, ds = c :: rest ∧ c.isDigit = true ∧ ∀ d ∈ rest, d.isDigit = true := by
  cases ds with
  | nil => exact absurd rfl h.nonempty
  | cons c rest =>
    obtain ⟨hc, hrest⟩ := List.forall_mem_cons.1 h.digits
    exact ⟨c, rest, rfl, hc, hrest⟩

theorem dropSign {cs : List Char} (hcs : cs = ds ∨ cs = '-' :: ds) : Schema.dropSign cs = ds := by
  -- Without a minus the word starts with a digit, which is no sign. A minus is dropped.
  obtain rfl | rfl := hcs
  · rw [Schema.dropSign.eq_def]
    split
    · exact absurd (h.digits '+' List.mem_cons_self) (by decide)
    · exact absurd (h.digits '-' List.mem_cons_self) (by decide)
    · rfl
  · rfl

/-- Digits have the form of an integer, with a minus or without. -/
theorem isInt {cs : List Char} (hcs : cs = ds ∨ cs = '-' :: ds) : Schema.isInt cs = true := by
  have hsign := h.dropSign hcs
  obtain ⟨c, rest, rfl, hc, hrest⟩ := h.exists_cons
  rw [Schema.isInt, hsign]
  -- A zero in front would mark another base, but it stands alone.
  by_cases hzero : c = '0'
  · subst hzero
    obtain rfl : rest = [] := (List.cons.inj (h.zero rfl)).2
    rfl
  · have hbounds : c = '0' ∨ ('1' ≤ c && c ≤ '9') = true :=
      forall_isDigit (p := fun c => c = '0' ∨ ('1' ≤ c && c ≤ '9') = true) (by decide) hc
    split
    · next heq => exact absurd (List.cons.inj heq).1 hzero
    · next heq => exact absurd (List.cons.inj heq).1 hzero
    · next heq => exact absurd (List.cons.inj heq).1 hzero
    · next heq =>
      obtain ⟨rfl, rfl⟩ := List.cons.inj heq
      rw [hbounds.resolve_left hzero, dropWhile_isSpaced hrest]
      rfl
    · next heq => cases heq

/-- Digits do not have the form of a double. -/
theorem isFloat {cs : List Char} (hcs : cs = ds ∨ cs = '-' :: ds) : Schema.isFloat cs = false := by
  have hsign := h.dropSign hcs
  obtain ⟨c, rest, rfl, hc, hrest⟩ := h.exists_cons
  -- A double has a point, an exponent or a name, and digits have none of them.
  have hpoint : c ≠ '.' := ne_of_isDigit hc (by decide)
  have hinfinite : [".inf", ".Inf", ".INF"].contains (String.ofList (c :: rest)) = false :=
    contains_of_head (by simpa using hpoint.symm)
  have hnan : [".nan", ".NaN", ".NAN"].contains (String.ofList cs) = false := by
    obtain rfl | rfl := hcs
    · exact contains_of_head (by simpa using hpoint.symm)
    · exact contains_of_head (by decide)
  have hrestEmpty : (c :: rest).dropWhile Schema.isSpaced = [] :=
    dropWhile_isSpaced (List.forall_mem_cons.2 ⟨hc, hrest⟩)
  have hfraction : ∀ d tail, cs ≠ '.' :: d :: tail := by
    rintro d tail rfl
    obtain heq | heq := hcs
    · exact hpoint (List.cons.inj heq).1.symm
    · exact absurd (List.cons.inj heq).1 (by decide)
  rw [Schema.isFloat]
  · dsimp only
    rw [hsign, hrestEmpty, hinfinite, hnan]
    simp [Schema.dropSixties]
  · exact hfraction

end AreDigits

/-- An integer is written as digits, after a minus if it is negative. -/
theorem exists_areDigits (i : Int) : ∃ ds, AreDigits ds ∧ ds = Nat.toDigits 10 i.natAbs ∧
    ((toString i).toList = ds ∧ i = i.natAbs ∨
      (toString i).toList = '-' :: ds ∧ i = -i.natAbs ∧ i < 0) := by
  refine ⟨Nat.toDigits 10 i.natAbs, areDigits_toDigits _, rfl, ?_⟩
  cases i with
  | ofNat n => exact .inl ⟨toList_toString_ofNat n, rfl⟩
  | negSucc n => exact .inr ⟨toList_toString_negSucc n, rfl, Int.negSucc_lt_zero n⟩

/-- **An integer is taken for one.** -/
theorem implicitTag_toString (i : Int) : implicitTag (toString i) = coreTag "int" := by
  obtain ⟨ds, hds, -, htext⟩ := exists_areDigits i
  have hcs : (toString i).toList = ds ∨ (toString i).toList = '-' :: ds :=
    htext.imp And.left And.left
  rw [implicitTag]
  generalize (toString i).toList = cs at hcs
  -- The text ends in a digit, so no line end is dropped from it.
  have hend : Schema.dropLineEnd cs = cs := by
    have hnewline : '\n' ∉ cs := by
      intro hmem
      obtain rfl | rfl := hcs
      · exact absurd (hds.digits _ hmem) (by decide)
      · obtain heq | hmem := List.mem_cons.1 hmem
        · exact absurd heq (by decide)
        · exact absurd (hds.digits _ hmem) (by decide)
    rw [Schema.dropLineEnd]
    split
    · next hlast => exact absurd (List.mem_of_getLast? hlast) hnewline
    · rfl
  have hfloat := hds.isFloat hcs
  have hint := hds.isInt hcs
  -- By its first character the word may be a double or an integer, and a double is tried first.
  have hfirst : ∃ more, Schema.candidates cs.head? =
      ("float", Schema.isFloat) :: ("int", Schema.isInt) :: more := by
    obtain ⟨c, rest, rfl, hc, -⟩ := hds.exists_cons
    obtain rfl | rfl := hcs
    · exact ⟨[("timestamp", Schema.isTimestamp)], by
        rw [List.head?_cons, Schema.candidates]
        exact if_pos hc⟩
    · exact ⟨[], rfl⟩
  obtain ⟨more, hmore⟩ := hfirst
  dsimp only
  rw [hmore, List.find?_cons_of_neg, List.find?_cons_of_pos]
  · show (Schema.isInt cs || _) = true
    rw [hint, Bool.true_or]
  · show ¬(Schema.isFloat cs || Schema.isFloat (Schema.dropLineEnd cs)) = true
    rw [hend, hfloat]
    decide

theorem lt_of_log2_lt {n bits limit : Nat} (h : ¬bits < n.log2 + 1) (hlimit : 2 ^ bits ≤ limit) :
    n < limit :=
  Nat.lt_of_lt_of_le Nat.lt_log2_self
    (Nat.le_trans (Nat.pow_le_pow_right (by decide) (Nat.le_of_not_lt h)) hlimit)

/-- A number with no more digits than may be written has none too many to be read. -/
theorem length_toDigits_le {i : Int} (h : Scalar.isTooLong i = false) :
    (Nat.toDigits 10 i.natAbs).length ≤ Numeral.digitLimit := by
  apply Nat.toDigits_length _ _ _ (by decide)
  rw [Scalar.isTooLong, Bool.and_eq_false_iff, decide_eq_false_iff_not,
    decide_eq_false_iff_not] at h
  rw [← Nat.pow_eq, ← show Scalar.digitLimit = Numeral.digitLimit from rfl]
  -- A bound in powers of two is enough, so that the power of ten is compared only once.
  have hlimit : 2 ^ 14284 ≤ Nat.pow 10 Scalar.digitLimit := by decide +kernel
  generalize Nat.pow 10 Scalar.digitLimit = limit at h hlimit ⊢
  obtain h | h := h
  · exact lt_of_log2_lt h hlimit
  · exact Nat.lt_of_not_le h

/-- **Digits are read as their number,** with a minus or without. -/
theorem AreDigits.readInt {ds : List Char} (h : AreDigits ds) {text : String} (negative : Bool)
    (htext : text.toList = if negative then '-' :: ds else ds)
    (hlength : ds.length ≤ Numeral.digitLimit) :
    ScalarType.readInt text = .ok (.int
      (if negative then -(Nat.ofDigitChars 10 ds 0 : Int) else Nat.ofDigitChars 10 ds 0)) := by
  have hread := Numeral.int_digits h.digits h.nonempty hlength
  obtain ⟨c, rest, hcons, hc, -⟩ := h.exists_cons
  have hminus : c ≠ '-' := ne_of_isDigit hc (by decide)
  -- the sign is read, and the rest are digits
  have hhead : (text.toList.head? == some '-') = negative := by
    cases negative <;> simp [htext, hcons, hminus]
  have hdrop : Schema.dropSign text.toList = ds := by
    cases negative
    · exact h.dropSign (.inl htext)
    · exact h.dropSign (.inr htext)
  have hempty : text.toList.isEmpty = false := by
    cases negative <;> simp [htext, hcons]
  have hfilter : text.toList.filter (· != '_') = text.toList := by
    have hdigit : ∀ c ∈ ds, (c != '_') = true := fun c hc =>
      bne_iff_ne.2 (ne_of_isDigit (h.digits c hc) (by decide))
    rw [List.filter_eq_self, htext]
    cases negative
    · exact hdigit
    · exact List.forall_mem_cons.2 ⟨by decide, hdigit⟩
  rw [ScalarType.readInt]
  dsimp only
  rw [hfilter, hhead, hempty, hdrop, if_neg (by decide)]
  -- A zero alone is read without a base, any other number in base ten.
  by_cases hzero : c = '0'
  · obtain rfl : rest = [] := by
      have halone := h.zero (by rw [hcons, hzero]; rfl)
      rw [hcons] at halone
      exact (List.cons.inj halone).2
    rw [hcons, hzero]
    rfl
  -- Without a colon the number is none of base sixty.
  · have hcolon : ds.contains ':' = false := by
      rw [List.contains_eq_any_beq, List.any_eq_false]
      exact fun d hd hsame => absurd (h.digits d hd) (by rw [← eq_of_beq hsame]; decide)
    subst hcons
    split
    · next heq => cases heq
    · next heq => exact absurd (List.cons.inj heq).1 hzero
    · next heq => exact absurd (List.cons.inj heq).1 hzero
    · next heq => exact absurd (List.cons.inj heq).1 hzero
    · next heq => exact absurd (List.cons.inj heq).1 hzero
    · rw [hcolon, if_neg (by decide), hread]
      rfl

/-- **An integer is read back,** if it may be written. -/
theorem readInt_toString {i : Int} (h : Scalar.isTooLong i = false) :
    ScalarType.readInt (toString i) = .ok (.int i) := by
  obtain ⟨ds, hds, hdigits, htext⟩ := exists_areDigits i
  have hlength : ds.length ≤ Numeral.digitLimit := hdigits ▸ length_toDigits_le h
  have hvalue : Nat.ofDigitChars 10 ds 0 = i.natAbs :=
    hdigits ▸ Nat.ofDigitChars_toDigits (by decide) (by decide)
  obtain ⟨hcs, hi⟩ | ⟨hcs, hi, -⟩ := htext
  · rw [hds.readInt false hcs hlength, hvalue]
    exact congrArg (fun n => Except.ok (Scalar.int n)) hi.symm
  · rw [hds.readInt true hcs hlength, hvalue]
    exact congrArg (fun n => Except.ok (Scalar.int n)) hi.symm

/-! ### Words -/

/-- The plain words of JSON have their own types. -/
theorem implicitTag_names : implicitTag "null" = coreTag "null" ∧
    implicitTag "true" = coreTag "bool" ∧ implicitTag "false" = coreTag "bool" := by
  decide

theorem readBool_names : ScalarType.readBool "true" = .ok (.bool true) ∧
    ScalarType.readBool "false" = .ok (.bool false) := ⟨rfl, rfl⟩

end Yaml

end Playbook
