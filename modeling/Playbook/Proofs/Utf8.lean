import Mathlib.Data.List.Basic
import Playbook.Text.CodePoint
import Playbook.Text.Utf8

/-!
# Texts as bytes and back

Bytes are read as a text exactly if they are the bytes of the text.

* `Utf8.encode_toList` — the bytes are those that the language itself gives to a text, so there are
  `String.utf8ByteSize` of them (`Utf8.length_encode`).
* `Utf8.Starts` — how a row of bytes starts with a character, one constructor for each number of
  bytes that a character can have. This is all that reading the first character looks at
  (`Utf8.first_eq_ok`).
* `Utf8.starts_encodeChar`, `Utf8.Starts.encodeChar_eq` — a row starts with a character exactly if
  it starts with the bytes of the character.
* `Utf8.decode_eq_ok` — so a row is read as a text exactly if it is the bytes of the text.

What is asked of the lead and of the byte behind it says where the code point lies: past those that
have fewer bytes, not among the halves of pairs, and not past the last one. Both directions are
linear arithmetic once these bounds are written out (`Utf8.isSecond_iff`).
-/

namespace Playbook

/-! ### Numbers of bytes -/

/-- The byte of a number below 256 has this number. -/
theorem toNat_byte {n : Nat} (h : n < 0x100) : (UInt8.ofNat n).toNat = n := by
  rw [UInt8.toNat_ofNat', Nat.mod_eq_of_lt h]

/-- The byte of the number of a byte is this byte. -/
theorem byte_eq {n : Nat} {b : UInt8} (h : n = b.toNat) : UInt8.ofNat n = b := by
  rw [h, UInt8.ofNat_toNat]

namespace Utf8

/-! ### Bytes of characters -/

/-- The bytes of a character by its code point. -/
theorem encodeChar_eq_bytes (c : Char) :
    encodeChar c =
      if c.toNat < 0x80 then [UInt8.ofNat c.toNat]
      else if c.toNat < 0x800 then
        [UInt8.ofNat (0xC0 + c.toNat / 0x40), UInt8.ofNat (0x80 + c.toNat % 0x40)]
      else if c.toNat < 0x10000 then
        [UInt8.ofNat (0xE0 + c.toNat / 0x1000), UInt8.ofNat (0x80 + c.toNat / 0x40 % 0x40),
          UInt8.ofNat (0x80 + c.toNat % 0x40)]
      else
        [UInt8.ofNat (0xF0 + c.toNat / 0x40000), UInt8.ofNat (0x80 + c.toNat / 0x1000 % 0x40),
          UInt8.ofNat (0x80 + c.toNat / 0x40 % 0x40), UInt8.ofNat (0x80 + c.toNat % 0x40)] := rfl

/-- A code point is none of the halves of pairs, and at most the last one. -/
theorem toNat_range (c : Char) : c.toNat < 0xD800 ∨ 0xDFFF < c.toNat ∧ c.toNat < 0x110000 :=
  c.valid

/-- **The bytes of a character are those of the language.** -/
theorem encodeChar_eq (c : Char) : encodeChar c = String.utf8EncodeChar c := by
  have hrange := toNat_range c
  have hbytes : String.utf8EncodeChar c =
      if c.toNat ≤ 127 then [UInt8.ofNat c.toNat]
      else if c.toNat ≤ 2047 then
        [UInt8.ofNat (c.toNat / 64 % 32 + 192), UInt8.ofNat (c.toNat % 64 + 128)]
      else if c.toNat ≤ 65535 then
        [UInt8.ofNat (c.toNat / 4096 % 16 + 224), UInt8.ofNat (c.toNat / 64 % 64 + 128),
          UInt8.ofNat (c.toNat % 64 + 128)]
      else
        [UInt8.ofNat (c.toNat / 262144 % 8 + 240), UInt8.ofNat (c.toNat / 4096 % 64 + 128),
          UInt8.ofNat (c.toNat / 64 % 64 + 128), UInt8.ofNat (c.toNat % 64 + 128)] := rfl
  rw [encodeChar_eq_bytes, hbytes]
  generalize c.toNat = n at hrange
  -- By the number of bytes. The two forms differ in the order of the summands, and in what they cut
  -- off from the lead.
  split
  · rw [if_pos (by omega)]
  · split
    · rw [if_neg (by omega), if_pos (by omega)]
      have hlead : 0xC0 + n / 0x40 = n / 64 % 32 + 192 := by omega
      rw [hlead, Nat.add_comm 0x80]
    · split
      · rw [if_neg (by omega), if_neg (by omega), if_pos (by omega)]
        have hlead : 0xE0 + n / 0x1000 = n / 4096 % 16 + 224 := by omega
        rw [hlead, Nat.add_comm 0x80, Nat.add_comm 0x80]
      · rw [if_neg (by omega), if_neg (by omega), if_neg (by omega)]
        have hlead : 0xF0 + n / 0x40000 = n / 262144 % 8 + 240 := by omega
        rw [hlead, Nat.add_comm 0x80, Nat.add_comm 0x80, Nat.add_comm 0x80]

/-- **The bytes of a text are those of the language.** -/
theorem encode_toList (s : String) : encode s.toList = s.toByteArray.data.toList := by
  have hencode : encodeChar = String.utf8EncodeChar := funext encodeChar_eq
  rw [encode, hencode, ← @String.ofList_toList s, String.toByteArray_ofList, List.utf8Encode]
  simp

theorem length_encode (s : String) : (encode s.toList).length = s.utf8ByteSize := by
  rw [encode_toList]
  rfl

/-! ### Single characters -/

theorem isTail_iff {n : Nat} : isTail n = true ↔ 0x80 ≤ n ∧ n < 0xC0 := by
  rw [isTail, Bool.and_eq_true, decide_eq_true_eq, decide_eq_true_eq]

/-- A second byte is refused only behind four leads: behind two of them it can be too small, and
behind two too large. -/
theorem isSecond_iff {lead n : Nat} :
    isSecond lead n = true ↔
      (0x80 ≤ n ∧ n < 0xC0) ∧ (lead = 0xE0 → 0xA0 ≤ n) ∧ (lead = 0xED → n < 0xA0) ∧
        (lead = 0xF0 → 0x90 ≤ n) ∧ (lead = 0xF4 → n < 0x90) := by
  rw [isSecond, Bool.and_eq_true, isTail_iff]
  -- By the lead: each of the four has a bound of its own for the second byte.
  refine and_congr_right fun _ => ?_
  split
  · simp only [decide_eq_true_eq]
    omega
  · split
    · simp only [decide_eq_true_eq]
      omega
    · split
      · simp only [decide_eq_true_eq]
        omega
      · split
        · simp only [decide_eq_true_eq]
          omega
        · simp only [true_iff]
          omega

/-- **How a lead and what is behind it start with a character,** and the number of its bytes. -/
inductive Starts (lead : Nat) : List UInt8 → Char → Nat → Prop
  /-- The lead is the character. -/
  | one {rest : List UInt8} (h : lead < 0x80) : Starts lead rest (Char.ofNat lead) 1
  /-- One byte is behind it. -/
  | two {b : UInt8} {rest : List UInt8} (hlow : 0xC2 ≤ lead) (hhigh : lead < 0xE0)
      (hb : isTail b.toNat = true) :
      Starts lead (b :: rest) (Char.ofNat (lead % 0x20 * 0x40 + b.toNat % 0x40)) 2
  /-- Two bytes are behind it. -/
  | three {b d : UInt8} {rest : List UInt8} (hlow : 0xE0 ≤ lead) (hhigh : lead < 0xF0)
      (hb : isSecond lead b.toNat = true) (hd : isTail d.toNat = true) :
      Starts lead (b :: d :: rest)
        (Char.ofNat ((lead % 0x10 * 0x40 + b.toNat % 0x40) * 0x40 + d.toNat % 0x40)) 3
  /-- Three bytes are behind it. -/
  | four {b d e : UInt8} {rest : List UInt8} (hlow : 0xF0 ≤ lead) (hhigh : lead < 0xF5)
      (hb : isSecond lead b.toNat = true) (hd : isTail d.toNat = true)
      (he : isTail e.toNat = true) :
      Starts lead (b :: d :: e :: rest)
        (Char.ofNat (((lead % 0x8 * 0x40 + b.toNat % 0x40) * 0x40 + d.toNat % 0x40) * 0x40 +
          e.toNat % 0x40)) 4

/-- A character that is read is what the row starts with. -/
theorem starts_of_first {lead : Nat} {rest : List UInt8} {c : Char} {count : Nat} :
    first lead rest = .ok (c, count) → Starts lead rest c count := by
  -- four branches give a character, one for each number of bytes, and the others refuse
  fun_cases first lead rest with
  | case1 _ hlead =>
    rintro ⟨⟩
    exact .one hlead
  | case4 _ hlow hhigh b _ hb =>
    rintro ⟨⟩
    exact .two (by omega) hhigh hb
  | case9 _ _ hlow hhigh b hb d _ hd =>
    rintro ⟨⟩
    exact .three (by omega) hhigh (Classical.not_not.1 hb) hd
  | case16 _ _ _ hlow hhigh b hb d hd e _ he =>
    rintro ⟨⟩
    exact .four (by omega) hhigh (Classical.not_not.1 hb) (Classical.not_not.1 hd) he
  | case2 | case3 | case5 | case6 | case7 | case8 | case10 | case11 | case12 | case13 | case14
  | case15 | case17 | case18 => nofun

/-- The first character is what the row starts with. -/
theorem first_eq_ok {lead : Nat} {rest : List UInt8} {c : Char} {count : Nat} :
    first lead rest = .ok (c, count) ↔ Starts lead rest c count := by
  refine ⟨starts_of_first, fun h => ?_⟩
  unfold first
  -- By the number of bytes, which the lead tells.
  cases h with
  | one hlead => rw [if_pos hlead]
  | two hlow hhigh hb =>
    rw [if_neg (by omega), if_neg (by omega), if_pos hhigh]
    dsimp only
    rw [if_pos hb]
    rfl
  | three hlow hhigh hb hd =>
    rw [if_neg (by omega), if_neg (by omega), if_neg (by omega), if_pos hhigh]
    dsimp only
    rw [if_neg (not_not_intro hb), if_pos hd]
    rfl
  | four hlow hhigh hb hd he =>
    rw [if_neg (by omega), if_neg (by omega), if_neg (by omega), if_neg (by omega),
      if_pos hhigh]
    dsimp only
    rw [if_neg (not_not_intro hb), if_neg (not_not_intro hd), if_pos he]
    rfl

/-- **The bytes of a character start with it,** whatever follows. -/
theorem starts_encodeChar (c : Char) (rest : List UInt8) :
    ∃ lead tail, encodeChar c = lead :: tail ∧
      Starts lead.toNat (tail ++ rest) c (tail.length + 1) := by
  have hrange := toNat_range c
  -- A byte behind the lead holds six bits above its own two.
  have hbyte : ∀ k, (UInt8.ofNat (0x80 + k % 0x40)).toNat = 0x80 + k % 0x40 :=
    fun k => toNat_byte (by omega)
  have htail : ∀ k, isTail (UInt8.ofNat (0x80 + k % 0x40)).toNat = true :=
    fun k => isTail_iff.2 (by rw [hbyte]; omega)
  have hchar : ∀ m, m = c.toNat → Char.ofNat m = c := fun m hm => hm ▸ Char.ofNat_toNat c
  rw [encodeChar_eq_bytes]
  generalize c.toNat = n at hrange hchar
  -- the bounds of the four cases put the lead where its number of bytes is read
  split
  · next hn =>
    refine ⟨_, _, rfl, ?_⟩
    rw [toNat_byte (by omega), ← hchar n rfl]
    exact .one hn
  · split
    · refine ⟨_, _, rfl, ?_⟩
      have hlead : (UInt8.ofNat (0xC0 + n / 0x40)).toNat = 0xC0 + n / 0x40 :=
        toNat_byte (by omega)
      have hstarts : Starts (0xC0 + n / 0x40) (_ :: rest) _ 2 :=
        .two (by omega) (by omega) (htail n)
      rw [hbyte, hchar _ (by omega)] at hstarts
      rw [hlead]
      exact hstarts
    · split
      · refine ⟨_, _, rfl, ?_⟩
        have hlead : (UInt8.ofNat (0xE0 + n / 0x1000)).toNat = 0xE0 + n / 0x1000 :=
          toNat_byte (by omega)
        have hsecond : isSecond (0xE0 + n / 0x1000)
            (UInt8.ofNat (0x80 + n / 0x40 % 0x40)).toNat = true :=
          isSecond_iff.2 (by rw [hbyte]; omega)
        have hstarts : Starts (0xE0 + n / 0x1000) (_ :: _ :: rest) _ 3 :=
          .three (by omega) (by omega) hsecond (htail n)
        rw [hbyte, hbyte, hchar _ (by omega)] at hstarts
        rw [hlead]
        exact hstarts
      · refine ⟨_, _, rfl, ?_⟩
        have hlead : (UInt8.ofNat (0xF0 + n / 0x40000)).toNat = 0xF0 + n / 0x40000 :=
          toNat_byte (by omega)
        have hsecond : isSecond (0xF0 + n / 0x40000)
            (UInt8.ofNat (0x80 + n / 0x1000 % 0x40)).toNat = true :=
          isSecond_iff.2 (by rw [hbyte]; omega)
        have hstarts : Starts (0xF0 + n / 0x40000) (_ :: _ :: _ :: rest) _ 4 :=
          .four (by omega) (by omega) hsecond (htail (n / 0x40)) (htail n)
        rw [hbyte, hbyte, hbyte, hchar _ (by omega)] at hstarts
        rw [hlead]
        exact hstarts

/-- **What starts with a character starts with its bytes.** -/
theorem Starts.encodeChar_eq {lead : UInt8} {rest : List UInt8} {c : Char} {count : Nat}
    (h : Starts lead.toNat rest c count) :
    ∃ tail more, rest = tail ++ more ∧ count = tail.length + 1 ∧ encodeChar c = lead :: tail := by
  generalize hnumber : lead.toNat = number at h
  -- the number that the bytes stand for is a code point, so the character has this number
  cases h with
  | one hlead =>
    refine ⟨[], rest, rfl, rfl, ?_⟩
    rw [encodeChar_eq_bytes, CodePoint.toNat_ofNat (.inl (by omega)), if_pos hlead,
      byte_eq hnumber.symm]
  | @two b rest hlow hhigh hb =>
    refine ⟨[b], rest, rfl, rfl, ?_⟩
    rw [isTail_iff] at hb
    rw [encodeChar_eq_bytes, CodePoint.toNat_ofNat (.inl (by omega)), if_neg (by omega),
      if_pos (by omega), byte_eq (b := lead) (by omega), byte_eq (b := b) (by omega)]
  | @three b d rest hlow hhigh hb hd =>
    refine ⟨[b, d], rest, rfl, rfl, ?_⟩
    rw [isSecond_iff] at hb
    rw [isTail_iff] at hd
    rw [encodeChar_eq_bytes, CodePoint.toNat_ofNat (by unfold Nat.isValidChar; omega),
      if_neg (by omega), if_neg (by omega), if_pos (by omega), byte_eq (b := lead) (by omega),
      byte_eq (b := b) (by omega), byte_eq (b := d) (by omega)]
  | @four b d e rest hlow hhigh hb hd he =>
    refine ⟨[b, d, e], rest, rfl, rfl, ?_⟩
    rw [isSecond_iff] at hb
    rw [isTail_iff] at hd he
    rw [encodeChar_eq_bytes, CodePoint.toNat_ofNat (.inr (by omega)), if_neg (by omega),
      if_neg (by omega), if_neg (by omega), byte_eq (b := lead) (by omega),
      byte_eq (b := b) (by omega), byte_eq (b := d) (by omega), byte_eq (b := e) (by omega)]

/-! ### Texts -/

/-- The bytes that have been read are passed over. -/
theorem decodeFrom_skip (position : Nat) (bytes rest : List UInt8) :
    decodeFrom position bytes.length (bytes ++ rest) =
      decodeFrom (position + bytes.length) 0 rest := by
  -- Each byte that is passed over moves the position on by one.
  induction bytes generalizing position with
  | nil => rfl
  | cons b more ih =>
    rw [List.length_cons, List.cons_append, decodeFrom, ih, Nat.add_right_comm]
    rfl

/-- Behind a character the row is read on. -/
theorem decodeFrom_of_starts {position : Nat} {lead : UInt8} {tail rest : List UInt8} {c : Char}
    (h : Starts lead.toNat (tail ++ rest) c (tail.length + 1)) :
    decodeFrom position 0 (lead :: (tail ++ rest)) =
      (c :: ·) <$> decodeFrom (position + 1 + tail.length) 0 rest := by
  rw [decodeFrom, first_eq_ok.2 h]
  dsimp only
  rw [Nat.add_sub_cancel, decodeFrom_skip]

/-- The bytes of a text are read as it, whatever position they are read from. -/
theorem decodeFrom_encode (position : Nat) (s : List Char) :
    decodeFrom position 0 (encode s) = .ok s := by
  induction s generalizing position with
  | nil => rfl
  | cons c rest ih =>
    -- The bytes of the first character are read as it, whatever stands behind them.
    obtain ⟨lead, tail, hbytes, hstarts⟩ := starts_encodeChar c (encode rest)
    have hencode : encode (c :: rest) = lead :: (tail ++ encode rest) := by
      rw [encode, List.flatMap_cons, hbytes]
      rfl
    rw [hencode, decodeFrom_of_starts hstarts, ih]
    rfl

/-- A row that is read as a text starts with the bytes of the first character, and behind them the
others are read. -/
theorem exists_of_decodeFrom_cons {position : Nat} {lead : UInt8} {rest : List UInt8}
    {s : List Char} (h : decodeFrom position 0 (lead :: rest) = .ok s) :
    ∃ c later tail more, s = c :: later ∧ rest = tail ++ more ∧ encodeChar c = lead :: tail ∧
      decodeFrom (position + 1 + tail.length) 0 more = .ok later := by
  cases hfirst : first lead.toNat rest with
  | error refusal =>
    rw [decodeFrom, hfirst] at h
    cases h
  | ok r =>
    obtain ⟨c, count⟩ := r
    have hstarts := first_eq_ok.1 hfirst
    obtain ⟨tail, more, rfl, rfl, hbytes⟩ := hstarts.encodeChar_eq
    rw [decodeFrom_of_starts hstarts] at h
    cases hmore : decodeFrom (position + 1 + tail.length) 0 more with
    | error f =>
      rw [hmore] at h
      cases h
    | ok later =>
      rw [hmore] at h
      cases h
      exact ⟨c, later, tail, more, rfl, rfl, hbytes, hmore⟩

/-- What is read as a text is the bytes of the text. -/
theorem eq_encode_of_decodeFrom {position : Nat} {bytes : List UInt8} {s : List Char}
    (h : decodeFrom position 0 bytes = .ok s) : bytes = encode s := by
  induction s generalizing position bytes with
  | nil =>
    cases bytes with
    | nil => rfl
    | cons lead rest =>
      obtain ⟨c, later, _, _, hs, _⟩ := exists_of_decodeFrom_cons h
      cases hs
  | cons c later ih =>
    cases bytes with
    | nil => cases h
    | cons lead rest =>
      obtain ⟨_, _, tail, more, hs, rfl, hbytes, hmore⟩ := exists_of_decodeFrom_cons h
      cases hs
      rw [ih hmore, encode, encode, List.flatMap_cons, hbytes]
      rfl

theorem decode_encode (s : List Char) : decode (encode s) = .ok s := decodeFrom_encode 0 s

/-- **A row of bytes is read as a text** exactly if it is the bytes of the text. -/
theorem decode_eq_ok {bytes : List UInt8} {s : List Char} :
    decode bytes = .ok s ↔ bytes = encode s :=
  ⟨eq_encode_of_decodeFrom, fun h => h ▸ decodeFrom_encode 0 s⟩

end Utf8

end Playbook
