import Mathlib.Data.Rat.Defs
import Playbook.Value

/-!
# When two values are one key

A mapping takes two keys for one by what they denote, not by how they are written: one, one as a
double and truth are the same number, and times are the same moment. This is an equivalence of the
values that can be told from themselves, and all laws of mappings rest on it.

* `Scalar.Number.worth?`, `Scalar.identity?` — what a number, and a scalar, denotes as a key.
* `Scalar.sameKey_iff` — two scalars are the same key if and only if they denote the same.
* `Value.sameKey_iff` — so it is with values, whose tuples are compared item by item. What maps need
  follows: `Value.sameKey_comm` and `Value.sameKey_congr`.

A double that denotes no number is the same key as itself alone, which its mark tells; without a
mark it denotes nothing, and is not even the same key as itself.
-/

namespace Playbook

/-! ### Numbers -/

/-- What a number is worth. -/
inductive Worth where
  /-- A quotient of integers. -/
  | finite (q : ℚ)
  /-- An infinity with its sign. -/
  | infinite (negative : Bool)

namespace Binary64

variable {x y : Binary64}

/-- What a double is worth; nothing if it denotes no number. -/
def worth? (x : Binary64) : Option Worth :=
  match x.classify with
  | .nan => none
  | .infinite negative => some (.infinite negative)
  | .finite .. => x.toRatio?.map fun (n, d) => .finite (mkRat n d)

/-- A finite number is a quotient. -/
theorem exists_toRatio? {negative : Bool} {m : Nat} {e : Int}
    (h : x.classify = .finite negative m e) : ∃ n d, x.toRatio? = some (n, d) ∧ d ≠ 0 := by
  rw [toRatio?, h]
  -- With an exponent that is not negative the quotient is whole. Otherwise it is brought down.
  by_cases he : e ≥ 0
  · simp only [he, ↓reduceIte]
    exact ⟨_, 1, rfl, Nat.one_ne_zero⟩
  · by_cases hgcd : m.gcd (Nat.pow 2 (-e).toNat) = 0
    · simp only [he, hgcd, ↓reduceIte]
      exact ⟨_, 1, rfl, Nat.one_ne_zero⟩
    · simp only [he, hgcd, ↓reduceIte]
      -- what is divided by a common divisor does not vanish
      have hpos : 0 < Nat.pow 2 (-e).toNat := Nat.pow_pos (by decide)
      have hdvd := Nat.gcd_dvd_right m (Nat.pow 2 (-e).toNat)
      have hquotient := Nat.div_pos (Nat.le_of_dvd hpos hdvd) (Nat.pos_of_ne_zero hgcd)
      exact ⟨_, _, rfl, Nat.pos_iff_ne_zero.1 hquotient⟩

/-- The forms of doubles: what they are worth beside what they are compared by. -/
theorem worth?_cases (x : Binary64) :
    (x.classify = .nan ∧ x.worth? = none) ∨
      (∃ negative, x.classify = .infinite negative ∧ x.worth? = some (.infinite negative)) ∨
      ∃ negative m e n d, x.classify = .finite negative m e ∧ x.toRatio? = some (n, d) ∧ d ≠ 0 ∧
        x.worth? = some (.finite (mkRat n d)) := by
  cases h : x.classify with
  | nan => exact .inl ⟨rfl, by rw [worth?, h]⟩
  | infinite negative => exact .inr (.inl ⟨negative, rfl, by rw [worth?, h]⟩)
  | finite negative m e =>
    obtain ⟨n, d, hratio, hd⟩ := exists_toRatio? h
    exact .inr (.inr ⟨negative, m, e, n, d, rfl, hratio, hd, by rw [worth?, h, hratio]; rfl⟩)

theorem isNaN_iff : x.isNaN = true ↔ x.worth? = none := by
  -- What denotes no number has the largest exponent and a fraction.
  have hclass : x.isNaN = true ↔ x.classify = .nan := by
    rw [isNaN, classify]
    by_cases he : x.exponentField = 2047
    · by_cases hf : x.fractionField = 0 <;> simp [he, hf]
    · by_cases h0 : x.exponentField = 0 <;> simp [he, h0]
  rw [hclass]
  obtain ⟨h, hw⟩ | ⟨_, h, hw⟩ | ⟨_, _, _, _, _, h, _, _, hw⟩ := x.worth?_cases <;> simp [h, hw]

theorem compare_eq_iff :
    x.compare y = some .eq ↔ ∃ w, x.worth? = some w ∧ y.worth? = some w := by
  -- By the forms of both. Only two finite numbers take more than looking at the forms.
  obtain ⟨h, hw⟩ | ⟨s, h, hw⟩ | ⟨s, m, e, n, d, h, hr, hd, hw⟩ := x.worth?_cases
  · simp [compare, h, hw]
  · obtain ⟨h', hw'⟩ | ⟨s', h', hw'⟩ | ⟨s', m', e', n', d', h', hr', hd', hw'⟩ := y.worth?_cases
    · simp [compare, h, h', hw']
    · cases s <;> cases s' <;> simp [compare, h, h', hw, hw']
    · cases s <;> simp [compare, h, h', hw, hw']
  · obtain ⟨h', hw'⟩ | ⟨s', h', hw'⟩ | ⟨s', m', e', n', d', h', hr', hd', hw'⟩ := y.worth?_cases
    · simp [compare, h, h', hw']
    · cases s' <;> simp [compare, h, h', hw, hw']
    -- Two quotients are compared crosswise, which is how they are equal as rational numbers.
    · have hratio : Ord.compare (n * d') (n' * d) = .eq ↔ mkRat n d = mkRat n' d' := by
        rw [Int.compare_eq_eq, Rat.mkRat_eq_iff hd hd']
      simp [compare, h, h', hr, hr', hw, hw', hratio, eq_comm (a := mkRat n' d')]

theorem compareInt_eq_iff {i : Int} :
    x.compareInt i = some .eq ↔ x.worth? = some (.finite i) := by
  obtain ⟨h, hw⟩ | ⟨s, h, hw⟩ | ⟨s, m, e, n, d, h, hr, hd, hw⟩ := x.worth?_cases
  · simp [compareInt, h, hw]
  · cases s <;> simp [compareInt, h, hw]
  · have hratio : Ord.compare n (i * d) = .eq ↔ mkRat n d = i := by
      rw [Int.compare_eq_eq, ← Rat.mkRat_one, Rat.mkRat_eq_iff hd Nat.one_ne_zero]
      simp
    simp [compareInt, h, hr, hw, hratio]

end Binary64

namespace Scalar

/-- What a number is worth. -/
def Number.worth? : Number → Option Worth
  | .int i => some (.finite i)
  | .float x => x.worth?

/-- **Numbers are equal** if and only if they are worth the same. -/
theorem Number.order_eq_iff {m n : Number} :
    m.order n = some .eq ↔ ∃ w, m.worth? = some w ∧ n.worth? = some w := by
  cases m with
  | int i =>
    cases n with
    | int j =>
      have hsame : compare i j = .eq ↔ i = j := Int.compare_eq_eq
      simp [order, worth?, hsame, eq_comm (a := j)]
    | float y =>
      -- The order of an integer and a double is that of the two turned round.
      have hswap : (y.compareInt i).map Ordering.swap = some .eq ↔ y.compareInt i = some .eq := by
        cases y.compareInt i with
        | none => simp
        | some o => cases o <;> simp [Ordering.swap]
      simp [order, worth?, hswap, Binary64.compareInt_eq_iff]
  | float x =>
    cases n with
    | int j => simp [order, worth?, Binary64.compareInt_eq_iff]
    | float y => exact Binary64.compare_eq_iff

/-! ### Scalars -/

/-- What a scalar denotes as a key. -/
inductive Identity where
  /-- Nothing. -/
  | null
  /-- A number, whatever its type. -/
  | number (w : Worth)
  /-- A double that denotes no number. -/
  | unordered (mark : Nat)
  /-- A text. -/
  | text (s : String)
  /-- A byte string. -/
  | bytes (b : List UInt8)
  /-- A day. -/
  | day (d : Date)
  /-- A moment, whose distance to universal time is known or not. -/
  | moment (placed : Bool) (instant : Int)

/-- What a scalar denotes as a key; nothing if it is not even the same key as itself. -/
def identity? : Scalar → Option Identity
  | .null => some .null
  | .bool b => some (.number (.finite (if b then 1 else 0)))
  | .int i => some (.number (.finite i))
  | .float x =>
    match x.worth? with
    | some w => some (.number w)
    | none => if x.mark = 0 then none else some (.unordered x.mark)
  | .str s => some (.text s)
  | .bytes b => some (.bytes b)
  | .date _ d => some (.day d)
  | .datetime _ t => some (.moment t.offset.isSome t.instant)

/-- Whether it is a number, or a double that denotes none. -/
def Identity.isNumeric : Identity → Bool
  | .number _ | .unordered _ => true
  | _ => false

variable {a b : Scalar}

/-- The forms of doubles as keys. -/
theorem identity?_float (x : Binary64) :
    (∃ w, x.worth? = some w ∧ (float x).identity? = some (.number w)) ∨
      (x.worth? = none ∧ x.mark = 0 ∧ (float x).identity? = none) ∨
      (x.worth? = none ∧ x.mark ≠ 0 ∧ (float x).identity? = some (.unordered x.mark)) := by
  rw [identity?]
  cases hw : x.worth? with
  -- A double that denotes no number is told by its mark, if it bears one.
  | some w => exact .inl ⟨w, rfl, rfl⟩
  | none =>
    by_cases hmark : x.mark = 0
    · exact .inr (.inl ⟨rfl, hmark, if_pos hmark⟩)
    · exact .inr (.inr ⟨rfl, hmark, if_neg hmark⟩)

/-- An integer, or what counts as one, denotes a number. -/
theorem identity?_of_int {i : Int} (h : a.number? = some (.int i)) :
    a.identity? = some (.number (.finite i)) := by
  cases a with
  | bool b =>
    -- A truth value counts as zero or one.
    cases h
    cases b <;> rfl
  | int i =>
    cases h
    rfl
  | null | float | str | bytes | date | datetime => cases h

theorem eq_float {x : Binary64} (h : a.number? = some (.float x)) : a = .float x := by
  cases a with
  | float y =>
    cases h
    rfl
  | null | bool | int | str | bytes | date | datetime => cases h

/-- What counts as a number denotes what the number is worth. -/
theorem identity?_eq_number {n : Number} (h : a.number? = some n) {w : Worth} :
    a.identity? = some (.number w) ↔ n.worth? = some w := by
  cases n with
  | int i => simp [identity?_of_int h, Number.worth?]
  | float x =>
    obtain rfl := eq_float h
    rw [Number.worth?]
    obtain ⟨w', hw, hi⟩ | ⟨hw, -, hi⟩ | ⟨hw, -, hi⟩ := identity?_float x <;> simp [hw, hi]

theorem equal_of_numbers {m n : Number} (ha : a.number? = some m) (hb : b.number? = some n) :
    a.equal b = true ↔ ∃ w, m.worth? = some w ∧ n.worth? = some w := by
  simp only [equal, ha, hb, beq_iff_eq]
  exact Number.order_eq_iff

/-- Two doubles are the same key if they denote the same. -/
theorem sameKey_float {x y : Binary64} :
    (float x).sameKey (float y) = true ↔
      ∃ i, (float x).identity? = some i ∧ (float y).identity? = some i := by
  -- Numbers that are the same double are equal as numbers as well, so only what they are worth
  -- counts.
  have hnum : x.numEq y = true ↔ ∃ w, x.worth? = some w ∧ y.worth? = some w := by
    rw [Binary64.numEq, beq_iff_eq, Binary64.compare_eq_iff]
  have hx := @Binary64.isNaN_iff x
  have hy := @Binary64.isNaN_iff y
  simp only [sameKey, Bool.or_eq_true, Bool.and_eq_true, bne_iff_ne, beq_iff_eq, hnum, hx, hy]
  -- doubles that denote a number are told by it, and the others by their marks
  rcases identity?_float x with ⟨w, hw, hi⟩ | ⟨hw, hmark, hi⟩ | ⟨hw, hmark, hi⟩
  · rw [hi, hw]
    rcases identity?_float y with ⟨w', hw', hi'⟩ | ⟨hw', -, hi'⟩ | ⟨hw', -, hi'⟩ <;> simp [hw', hi']
  · simp [hi, hw, hmark]
  · rw [hi, hw]
    rcases identity?_float y with ⟨w', hw', hi'⟩ | ⟨hw', hmark', hi'⟩ | ⟨hw', hmark', hi'⟩
    · simp [hw', hi']
    · simp [hw', hi', hmark']
    · simp [hw', hi', hmark, eq_comm]

/-- What counts as a number is told by what is denoted. -/
theorem isNumeric_eq {i : Identity} (h : a.identity? = some i) :
    i.isNumeric = a.number?.isSome := by
  cases a with
  | float x =>
    rcases identity?_float x with ⟨w, -, hi⟩ | ⟨-, -, hi⟩ | ⟨-, -, hi⟩
    · cases hi.symm.trans h
      rfl
    · cases hi.symm.trans h
    · cases hi.symm.trans h
      rfl
  | null | bool | int | str | bytes | date | datetime =>
    cases h
    rfl

/-- Of two scalars that denote the same, both count as numbers or none does. -/
theorem isSome_number?_eq (h : ∃ i, a.identity? = some i ∧ b.identity? = some i) :
    a.number?.isSome = b.number?.isSome := by
  obtain ⟨i, ha, hb⟩ := h
  exact (isNumeric_eq ha).symm.trans (isNumeric_eq hb)

/-- Only two doubles are compared in a way of their own. -/
theorem sameKey_eq_equal (h : ¬∃ x y, a = .float x ∧ b = .float y) : a.sameKey b = a.equal b := by
  unfold sameKey
  split
  · exact absurd ⟨_, _, rfl, rfl⟩ h
  · rfl

/-- What does not count as a number always denotes something. -/
theorem exists_identity? (h : a.number? = none) : ∃ i, a.identity? = some i := by
  cases a with
  | bool | int | float => cases h
  | null | str | bytes | date | datetime => exact ⟨_, rfl⟩

/-- Scalars that do not count as numbers are equal if they denote the same. -/
theorem equal_of_no_numbers (ha : a.number? = none) (hb : b.number? = none) :
    a.equal b = true ↔ a.identity? = b.identity? := by
  cases a <;> cases b <;> simp_all [equal, number?, identity?, DateTime.sameMoment]

/-- **Two scalars are the same key** if and only if they denote the same. -/
theorem sameKey_iff : a.sameKey b = true ↔ ∃ i, a.identity? = some i ∧ b.identity? = some i := by
  -- Two doubles come first: all other scalars are the same key if they are equal.
  by_cases hfloat : ∃ x y, a = .float x ∧ b = .float y
  · obtain ⟨x, y, rfl, rfl⟩ := hfloat
    exact sameKey_float
  rw [sameKey_eq_equal hfloat]
  cases ha : a.number? with
  | some m =>
    cases hb : b.number? with
    | some n =>
      rw [equal_of_numbers ha hb]
      -- one of the two is an integer
      cases m with
      | int i => simp [identity?_of_int ha, identity?_eq_number hb, Number.worth?]
      | float x =>
        cases n with
        | int j => simp [identity?_of_int hb, identity?_eq_number ha, Number.worth?]
        | float y => exact absurd ⟨x, y, eq_float ha, eq_float hb⟩ hfloat
    | none =>
      -- A number and something else denote different things.
      refine iff_of_false (by simp [equal, ha, hb]) fun h => ?_
      simpa [ha, hb] using isSome_number?_eq h
  | none =>
    cases hb : b.number? with
    | some n =>
      refine iff_of_false (by simp [equal, ha, hb]) fun h => ?_
      simpa [ha, hb] using isSome_number?_eq h
    | none =>
      rw [equal_of_no_numbers ha hb]
      obtain ⟨i, hi⟩ := exists_identity? hb
      simp [hi]

end Scalar

/-! ### Values -/

namespace Value

/-- What a value denotes as a key. -/
inductive Identity where
  /-- What a scalar denotes. -/
  | scalar (i : Scalar.Identity)
  /-- What the items of a tuple denote. -/
  | tuple (items : List Identity)
  /-- A thing with no document form. -/
  | thing (type literal text : String)

mutual

/-- What a value denotes as a key; nothing if it is no key. -/
def identity? : Value → Option Identity
  | .scalar s => s.identity?.map .scalar
  | .tuple _ items => (identities? items).map .tuple
  | .opaqueThing type literal text => some (.thing type literal text)
  | _ => none

/-- What values denote one by one. -/
def identities? : List Value → Option (List Identity)
  | [] => some []
  | v :: rest =>
    match identity? v, identities? rest with
    | some i, some is => some (i :: is)
    | _, _ => none

end

theorem identities?_nil : identities? [] = some [] := by rw [identities?]

theorem identities?_cons {v : Value} {rest : List Value} {is : List Identity} :
    identities? (v :: rest) = some is ↔
      ∃ i more, v.identity? = some i ∧ identities? rest = some more ∧ i :: more = is := by
  rw [identities?]
  cases v.identity? <;> cases identities? rest <;> simp

theorem identities?_cons_ne_nil (v : Value) (rest : List Value) :
    identities? (v :: rest) ≠ some [] := by simp [identities?_cons]

mutual

/-- **Two values are the same key** if and only if they denote the same. -/
theorem sameKey_iff : ∀ a b : Value,
    a.sameKey b = true ↔ ∃ i, a.identity? = some i ∧ b.identity? = some i
  | .scalar s, b => by
    -- By the form of the other value: with another form nothing is the same key, and nothing is
    -- denoted alike.
    cases b with
    | scalar s' => simp [sameKey, identity?, Scalar.sameKey_iff]
    | _ => simp [sameKey, identity?]
  | .tuple _ as, b => by
    cases b with
    | tuple _ bs => simp [sameKey, identity?, sameKeys_iff as bs]
    | _ => simp [sameKey, identity?]
  | .opaqueThing t l x, b => by
    cases b with
    | opaqueThing t' l' x' =>
      simp [sameKey, identity?, and_assoc, eq_comm (a := t), eq_comm (a := l), eq_comm (a := x)]
    | _ => simp [sameKey, identity?]
  -- Containers that can change are no keys.
  | .list .., _ => by simp [sameKey, identity?]
  | .map .., _ => by simp [sameKey, identity?]
  | .set .., _ => by simp [sameKey, identity?]
  | .again .., _ => by simp [sameKey, identity?]

/-- Values are the same keys one by one if and only if they denote the same. -/
theorem sameKeys_iff : ∀ as bs : List Value,
    sameKeys as bs = true ↔ ∃ is, identities? as = some is ∧ identities? bs = some is
  | [], [] => by simp [sameKeys, identities?_nil]
  | [], b :: bs => by simp [sameKeys, identities?_nil, identities?_cons_ne_nil]
  | a :: as, [] => by simp [sameKeys, identities?_nil, identities?_cons_ne_nil]
  | a :: as, b :: bs => by
    -- Item by item, as what the items denote is taken one by one.
    rw [sameKeys, Bool.and_eq_true, sameKey_iff a b, sameKeys_iff as bs]
    simp only [identities?_cons]
    constructor
    · rintro ⟨⟨i, ha, hb⟩, is, has, hbs⟩
      exact ⟨i :: is, ⟨i, is, ha, has, rfl⟩, i, is, hb, hbs, rfl⟩
    · rintro ⟨_, ⟨i, is, ha, has, rfl⟩, i', is', hb, hbs, hsame⟩
      cases hsame
      exact ⟨⟨i, ha, hb⟩, is, has, hbs⟩

end

variable {a b c : Value}

/-- Being the same key does not depend on the order of the two. -/
theorem sameKey_comm (a b : Value) : a.sameKey b = b.sameKey a := by
  -- What is denoted in common does not depend on the order.
  rw [Bool.eq_iff_iff, sameKey_iff, sameKey_iff]
  simp only [and_comm]

/-- What is the same key as one of two that are the same is the same as the other. -/
theorem sameKey_congr (h : a.sameKey b = true) (c : Value) : a.sameKey c = b.sameKey c := by
  obtain ⟨i, ha, hb⟩ := (sameKey_iff a b).1 h
  rw [Bool.eq_iff_iff, sameKey_iff, sameKey_iff, ha, hb]

end Value

end Playbook
