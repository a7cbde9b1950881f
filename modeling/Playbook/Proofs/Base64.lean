import Playbook.Filter
import Playbook.Proofs.Utf8

/-!
# Base 64 there and back

Every text has a text in base 64 and is what that one is decoded to.

* `Base64.IsText` — what a text in base 64 looks like: its length, its characters, and what fills it
  up at the end.
* `Base64.decode_encode` — decoding gives the bytes back.
* `Filter.decode64_encode64` — so the filters give texts back, and the texts of bytes. Bytes have a
  text exactly if they are the bytes of it (`Utf8.decode_eq_ok`).

The decoder reads character by character and does not know of groups. Between two groups it is in
the state that it starts in, up to the bytes written so far, so the induction is on the groups of
the encoder, for all bytes that have been written (`Base64.decodeFrom_encode`).

A text can hold halves of surrogate pairs. They have no bytes, and such a text is not encoded
(`Filter.encode64_str_eq_ok`).
-/

namespace Playbook

namespace Base64

/-! ### The alphabet -/

/-- The characters of the alphabet, in the order of their values. -/
def alphabet : List Char :=
  "ABCDEFGHIJKLMNOPQRSTUVWXYZabcdefghijklmnopqrstuvwxyz0123456789+/".toList

theorem charOf_mem {n : Nat} (h : n < 64) : charOf n ∈ alphabet := by
  -- There are only so many values: each of them is looked up.
  revert n
  decide

theorem valueOf?_charOf {n : Nat} (h : n < 64) : valueOf? (charOf n) = some n := by
  revert n
  decide

theorem charOf_ne_pad {n : Nat} (h : n < 64) : charOf n ≠ '=' := by
  revert n
  decide

theorem isAscii_of_mem {c : Char} (h : c ∈ alphabet) : Unicode.isAscii c = true := by
  have hall : alphabet.all Unicode.isAscii = true := by decide
  exact List.all_eq_true.1 hall c h

/-! ### Encoding -/

/-- **A text is in base 64** and stands for so many bytes: it has four characters for every three
bytes, those of the alphabet and at the end at most two that fill up. -/
structure IsText (s : List Char) (bytes : Nat) : Prop where
  /-- Every three bytes, and what is left of them, are four characters. -/
  length : s.length = 4 * ((bytes + 2) / 3)
  /-- The characters of the alphabet come first. -/
  padded : ∃ body pads, s = body ++ pads ∧ (∀ c ∈ body, c ∈ alphabet) ∧
    pads ∈ [[], ['='], ['=', '=']]

theorem length_encode (bytes : List UInt8) :
    (encode bytes).length = 4 * ((bytes.length + 2) / 3) := by
  -- Three bytes at a time, as they are encoded.
  fun_induction encode bytes with
  | case1 => rfl
  | case2 | case3 => simp
  | case4 a b c rest n ih =>
    simp only [List.length_cons, ih]
    omega

theorem exists_pads_encode (bytes : List UInt8) :
    ∃ body pads, encode bytes = body ++ pads ∧ (∀ c ∈ body, c ∈ alphabet) ∧
      pads ∈ [[], ['='], ['=', '=']] := by
  fun_induction encode bytes with
  | case1 => exact ⟨[], [], rfl, List.forall_mem_nil _, by decide⟩
  | case2 a n =>
    -- A byte has eight bits, which is what bounds the values of the characters.
    have hn : n < 256 := a.toNat_lt
    refine ⟨[charOf (n / 4), charOf (n % 4 * 16)], ['=', '='], rfl, ?_, by decide⟩
    simp only [List.forall_mem_cons]
    exact ⟨charOf_mem (by omega), charOf_mem (by omega), List.forall_mem_nil _⟩
  | case3 a b n =>
    have ha := a.toNat_lt
    have hb := b.toNat_lt
    refine ⟨[charOf (n / 1024), charOf (n / 16 % 64), charOf (n % 16 * 4)], ['='], rfl, ?_,
      by decide⟩
    simp only [List.forall_mem_cons]
    exact ⟨charOf_mem (by omega), charOf_mem (by omega), charOf_mem (by omega),
      List.forall_mem_nil _⟩
  | case4 a b c rest n ih =>
    obtain ⟨body, pads, hencode, hbody, hpads⟩ := ih
    have ha := a.toNat_lt
    have hb := b.toNat_lt
    have hc := c.toNat_lt
    refine ⟨charOf (n / 262144) :: charOf (n / 4096 % 64) :: charOf (n / 64 % 64) ::
      charOf (n % 64) :: body, pads, by rw [hencode]; rfl, ?_, hpads⟩
    simp only [List.forall_mem_cons]
    exact ⟨charOf_mem (by omega), charOf_mem (by omega), charOf_mem (by omega),
      charOf_mem (by omega), hbody⟩

theorem isText_encode (bytes : List UInt8) : IsText (encode bytes) bytes.length :=
  ⟨length_encode bytes, exists_pads_encode bytes⟩

/-- A text in base 64 is ASCII. -/
theorem IsText.isAscii {s : List Char} {bytes : Nat} (h : IsText s bytes) :
    s.all Unicode.isAscii = true := by
  obtain ⟨body, pads, rfl, hbody, hpads⟩ := h.padded
  rw [List.all_append, Bool.and_eq_true]
  refine ⟨List.all_eq_true.2 fun c hc => isAscii_of_mem (hbody c hc), ?_⟩
  have hall : ∀ pads ∈ [[], ['='], ['=', '=']], pads.all Unicode.isAscii = true := by decide
  exact hall pads hpads

/-! ### Decoding -/

/-- A character of the alphabet is read as its value. -/
theorem decodeFrom_charOf (p : Progress) {n : Nat} (h : n < 64) (rest : List Char) :
    decodeFrom p (charOf n :: rest) = decodeFrom (p.feed n) rest := by
  -- A character of the alphabet does not fill up.
  rw [decodeFrom, if_neg (charOf_ne_pad h), valueOf?_charOf h]

section Groups

variable {u v x y : Nat} (hu : u < 64) (hv : v < 64) (hx : x < 64) (hy : y < 64)
  (written : List UInt8) (rest : List Char)

include hu hv

/-- Two characters of a group give a byte. -/
theorem decodeFrom_two :
    decodeFrom ⟨0, 0, 0, written⟩ (charOf u :: charOf v :: rest) =
      decodeFrom ⟨2, v % 16, 0, UInt8.ofNat (u * 4 + v / 16) :: written⟩ rest := by
  rw [decodeFrom_charOf _ hu, decodeFrom_charOf _ hv]
  rfl

include hx

/-- A third character gives another one. -/
theorem decodeFrom_three :
    decodeFrom ⟨0, 0, 0, written⟩ (charOf u :: charOf v :: charOf x :: rest) =
      decodeFrom ⟨3, x % 4, 0,
        UInt8.ofNat (v % 16 * 16 + x / 4) :: UInt8.ofNat (u * 4 + v / 16) :: written⟩ rest := by
  rw [decodeFrom_two hu hv, decodeFrom_charOf _ hx]
  rfl

include hy

/-- A fourth character gives the last one and ends the group. -/
theorem decodeFrom_four :
    decodeFrom ⟨0, 0, 0, written⟩ (charOf u :: charOf v :: charOf x :: charOf y :: rest) =
      decodeFrom ⟨0, 0, 0,
        UInt8.ofNat (x % 4 * 64 + y) :: UInt8.ofNat (v % 16 * 16 + x / 4) ::
          UInt8.ofNat (u * 4 + v / 16) :: written⟩ rest := by
  rw [decodeFrom_three hu hv hx, decodeFrom_charOf _ hy]
  rfl

end Groups

/-- **Decoding undoes encoding,** behind the bytes that have been written. -/
theorem decodeFrom_encode (bytes written : List UInt8) :
    decodeFrom ⟨0, 0, 0, written⟩ (encode bytes) = .ok (written.reverse ++ bytes) := by
  -- Three bytes at a time, behind all that has been written: at the end one or two are left, or
  -- none.
  fun_induction encode bytes generalizing written with
  | case1 =>
    rw [List.append_nil]
    rfl
  | case2 a n =>
    have ha := a.toNat_lt
    rw [decodeFrom_two (by omega) (by omega), byte_eq (b := a) (by omega)]
    -- two characters that fill up end the text
    show Except.ok (a :: written).reverse = _
    rw [List.reverse_cons]
  | case3 a b n =>
    have ha := a.toNat_lt
    have hb := b.toNat_lt
    rw [decodeFrom_three (by omega) (by omega) (by omega), byte_eq (b := b) (by omega),
      byte_eq (b := a) (by omega)]
    -- one character that fills up ends the text
    show Except.ok (b :: a :: written).reverse = _
    rw [List.reverse_cons, List.reverse_cons, List.append_assoc]
    rfl
  | case4 a b c rest n ih =>
    have ha := a.toNat_lt
    have hb := b.toNat_lt
    have hc := c.toNat_lt
    -- the three bytes are put together from what they were cut into
    rw [decodeFrom_four (by omega) (by omega) (by omega) (by omega), byte_eq (b := c) (by omega),
      byte_eq (b := b) (by omega), byte_eq (b := a) (by omega), ih]
    simp

theorem decode_encode (bytes : List UInt8) : decode (encode bytes) = .ok bytes :=
  decodeFrom_encode bytes []

end Base64

/-! ### Texts as bytes -/

namespace Encoding

/-- The characters that have bytes are those that are no half of a pair, and they have the bytes of
the character. -/
theorem bytes?_utf8 (c : Char) :
    (utf8 false).bytes? c = if CodePoint.isHalf c then none else some (Utf8.encodeChar c) := by
  have hrange := Utf8.toNat_range c
  have hbytes : (utf8 false).codeBytes c.toNat = Utf8.encodeChar c := by
    -- No code point is one of the halves that have bytes of their own here.
    rw [codeBytes, if_neg (by omega), Char.ofNat_toNat]
    · exact fun _ => Encoding.noConfusion
    · exact fun _ => Encoding.noConfusion
  rw [bytes?, hbytes]
  · exact fun _ => Encoding.noConfusion
  · exact fun _ => Encoding.noConfusion

theorem firstForeign_eq_none {e : Encoding} {i : Nat} {s : List Char} :
    e.firstForeign i s = none ↔ ∀ c ∈ s, (e.bytes? c).isSome = true := by
  induction s generalizing i with
  | nil => exact iff_of_true rfl (List.forall_mem_nil _)
  | cons c rest ih =>
    rw [firstForeign, List.forall_mem_cons]
    split
    · next hc => rw [ih, and_iff_right hc]
    · next hc => exact iff_of_false (Option.some_ne_none _) fun h => hc h.1

/-- **A text has bytes** exactly if no half of a pair is in it, and then it has those of its
characters. -/
theorem encode_utf8_eq_ok {s : List Char} {b : List UInt8} :
    (utf8 false).encode "strict" s = .ok b ↔
      (∀ c ∈ s, CodePoint.isHalf c = false) ∧ b = Utf8.encode s := by
  have hnative : (∀ c ∈ s, ((utf8 false).bytes? c).isSome = true) ↔
      ∀ c ∈ s, CodePoint.isHalf c = false := by
    refine forall₂_congr fun c _ => ?_
    rw [bytes?_utf8]
    cases CodePoint.isHalf c <;> simp
  rw [encode]
  -- The text is refused at the first character without bytes, if there is one.
  split
  · next hforeign =>
    have hwhole := hnative.1 (firstForeign_eq_none.1 hforeign)
    have hbytes : (s.flatMap fun c => ((utf8 false).bytes? c).getD []) = Utf8.encode s := by
      refine List.flatMap_congr fun c hc => ?_
      rw [bytes?_utf8, hwhole c hc]
      rfl
    rw [hbytes, and_iff_right hwhole]
    exact ⟨fun h => (Except.ok.inj h).symm, fun h => h ▸ rfl⟩
  · next i run hforeign =>
    refine iff_of_false (fun h => ?_) fun h => ?_
    · cases h
    · cases hforeign.symm.trans (firstForeign_eq_none.2 (hnative.2 h.1))

end Encoding

/-! ### The filters -/

namespace Filter

/-- **A text is encoded** exactly if no half of a pair is in it, and then by its bytes. -/
theorem encode64_str_eq_ok {s : String} {v : Value} :
    apply .encode64 (.str s) = .ok v ↔
      (∀ c ∈ s.toList, CodePoint.isHalf c = false) ∧
        v = .str (String.ofList (Base64.encode (Utf8.encode s.toList))) := by
  rw [apply, encoded]
  cases hbytes : (Encoding.utf8 false).encode "strict" s.toList with
  | error f =>
    -- Bytes are refused only because of a half of a pair.
    refine iff_of_false (fun h => by cases h) fun h => ?_
    cases hbytes.symm.trans (Encoding.encode_utf8_eq_ok.2 ⟨h.1, rfl⟩)
  | ok b =>
    obtain ⟨hwhole, rfl⟩ := Encoding.encode_utf8_eq_ok.1 hbytes
    rw [and_iff_right hwhole]
    exact ⟨fun h => (Except.ok.inj h).symm, fun h => h ▸ rfl⟩

/-- Bytes in base 64 stand for the text that the bytes do. -/
theorem decode64_encode {b : List UInt8} {t : List Char} (h : Utf8.decode b = .ok t) :
    apply .decode64 (.str (String.ofList (Base64.encode b))) = .ok (.str (String.ofList t)) := by
  have hascii := (Base64.isText_encode b).isAscii
  rw [apply, decoded]
  dsimp only
  rw [String.toList_ofList, if_pos hascii]
  dsimp only [pure, bind, Except.pure, Except.bind]
  rw [Base64.decode_encode]
  dsimp only [Except.mapError]
  rw [h]
  rfl

/-- **Base 64 gives texts back.** A text without halves of pairs has a text in base 64, which is
decoded to it; the same goes for bytes that stand for a text. Texts that are encoded alike are the
same. -/
theorem decode64_encode64 :
    (∀ s : String, (∀ c ∈ s.toList, CodePoint.isHalf c = false) →
      ∃ e : String, apply .encode64 (.str s) = .ok (.str e) ∧
        Base64.IsText e.toList s.utf8ByteSize ∧ apply .decode64 (.str e) = .ok (.str s)) ∧
    (∀ (b : List UInt8) (t : List Char), Utf8.decode b = .ok t →
      ∃ e : String, apply .encode64 (.bytes b) = .ok (.str e) ∧
        Base64.IsText e.toList b.length ∧
        apply .decode64 (.str e) = .ok (.str (String.ofList t))) ∧
    ∀ (s s' : String) (v : Value), apply .encode64 (.str s) = .ok v →
      apply .encode64 (.str s') = .ok v → s = s' := by
  refine ⟨fun s hwhole => ?_, fun b t ht => ?_, fun s s' v hs hs' => ?_⟩
  · refine ⟨_, encode64_str_eq_ok.2 ⟨hwhole, rfl⟩, ?_, ?_⟩
    · rw [String.toList_ofList, ← Utf8.length_encode]
      exact Base64.isText_encode _
    · rw [decode64_encode (Utf8.decode_encode s.toList), String.ofList_toList]
  · refine ⟨_, rfl, ?_, decode64_encode ht⟩
    rw [String.toList_ofList]
    exact Base64.isText_encode b
  · -- both are decoded to what the one text in base 64 is decoded to
    obtain ⟨-, rfl⟩ := encode64_str_eq_ok.1 hs
    obtain ⟨-, hv⟩ := encode64_str_eq_ok.1 hs'
    have hdecoded := decode64_encode (Utf8.decode_encode s.toList)
    rw [hv, decode64_encode (Utf8.decode_encode s'.toList)] at hdecoded
    simpa using hdecoded.symm

/-- Four bytes are two groups, of which one is filled up. -/
theorem decode64_encode64_euro :
    apply .encode64 (.str "a€") = .ok (.str "YeKCrA==") ∧
      apply .decode64 (.str "YeKCrA==") = .ok (.str "a€") ∧
      ∃ e : String, apply .encode64 (.bytes [0xE2, 0x82, 0xAC]) = .ok (.str e) ∧
        Base64.IsText e.toList 3 ∧ apply .decode64 (.str e) = .ok (.str "€") := by
  obtain ⟨htexts, hbytes, -⟩ := decode64_encode64
  have hwhole : ∀ c ∈ "a€".toList, CodePoint.isHalf c = false :=
    List.forall_mem_cons.2 ⟨by decide, List.forall_mem_singleton.2 (by decide)⟩
  obtain ⟨e, hencoded, -, hdecoded⟩ := htexts "a€" hwhole
  have htext : apply .encode64 (.str "a€") = .ok (.str "YeKCrA==") := rfl
  obtain rfl : e = "YeKCrA==" := by simpa using hencoded.symm.trans htext
  exact ⟨htext, hdecoded, hbytes [0xE2, 0x82, 0xAC] ['€'] rfl⟩

end Filter

end Playbook
