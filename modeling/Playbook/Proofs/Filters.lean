import Playbook.Filter
import Playbook.Proofs.Patterns

/-!
# What filters of values fail with

Each filter of values has its own ways to fail, and what a value is has a bearing on it only through
these. A filter that looks at the type or at the size of a value says so; the one that replaces by
pattern fails as patterns and replacements do besides; and the one that gives a text in base 64
takes for granted that the value can be turned into bytes.

Main definition: `Filter.faultKinds`, the kinds of failures of a filter.

Main statement: `Filter.failsIn_apply`, a filter fails, if at all, in one of its ways.
-/

namespace Playbook

variable {kinds : List FailureKind}

@[simp, grind =] theorem Scalar.kind_tooLongFailure : tooLongFailure.kind = .value := rfl

/-! ### Texts and documents of values -/

namespace Value

theorem failsIn_text? (h : FailureKind.value ∈ kinds) (v : Value) : FailsIn kinds v.text? := by
  grind [text?]

theorem failsIn_literal? (h : FailureKind.value ∈ kinds) (v : Value) :
    FailsIn kinds v.literal? := by
  grind [literal?]

/-- A value that cannot be a key fails for its type. -/
theorem kind_of_keyFailure? {v : Value} {f : Failure} (hf : v.keyFailure? = some f) :
    f.kind = .type := by
  unfold keyFailure? at hf
  obtain ⟨name, -, rfl⟩ := Option.map_eq_some_iff.mp hf
  rfl

/-- What the documents of values fail with. -/
def documentKinds : List FailureKind := [.type, .value]

variable (h : documentKinds ⊆ kinds)

section

include h

@[grind .]
theorem failsIn_intText (i : Int) : FailsIn kinds (Json.intText i) := by
  grind [Json.intText, documentKinds]

@[grind .]
theorem failsIn_keyText (style : Json.Style) (v : Value) :
    FailsIn kinds (Json.keyText style v) := by
  unfold Json.keyText
  split <;> grind [documentKinds]

@[grind .]
theorem failsIn_foreign (style : Json.Style) (v : Value) :
    FailsIn kinds (Json.foreign style v) := by
  unfold Json.foreign
  split
  -- Only a writer that falls back on texts writes what is no document.
  · exact .map (failsIn_text? (h (by decide)) v)
  · grind [documentKinds]

end

mutual

theorem failsIn_jsonAt (h : documentKinds ⊆ kinds) (style : Json.Style) (depth : Nat) :
    ∀ v : Value, FailsIn kinds (v.jsonAt style depth)
  | .scalar s => by cases s <;> grind [jsonAt]
  | .tuple _ items => by grind [jsonAt, failsIn_jsonItems h style (depth + 1) items]
  | .list _ items => by grind [jsonAt, failsIn_jsonItems h style (depth + 1) items]
  | .map _ entries => by grind [jsonAt, failsIn_jsonEntries h style (depth + 1) entries]
  | .set _ _ => by grind [jsonAt]
  | .again shape _ => by cases shape <;> grind [jsonAt, documentKinds]
  | .opaqueThing .. => by grind [jsonAt]

theorem failsIn_jsonItems (h : documentKinds ⊆ kinds) (style : Json.Style) (depth : Nat) :
    ∀ vs : List Value, FailsIn kinds (jsonItems style depth vs)
  | [] => by grind [jsonItems]
  | v :: rest => by
    grind [jsonItems, failsIn_jsonAt h style depth v, failsIn_jsonItems h style depth rest]

theorem failsIn_jsonEntries (h : documentKinds ⊆ kinds) (style : Json.Style) (depth : Nat) :
    ∀ es : List (Value × Value), FailsIn kinds (jsonEntries style depth es)
  | [] => by grind [jsonEntries]
  | (k, v) :: rest => by
    grind [jsonEntries, failsIn_jsonAt h style depth v, failsIn_jsonEntries h style depth rest]

end

include h in
theorem failsIn_json (style : Json.Style) (v : Value) : FailsIn kinds (v.json style) :=
  failsIn_jsonAt h style 0 v

end Value

namespace Yaml.Draft

open Value (documentKinds)

@[grind .]
theorem failsIn_ofScalar (h : documentKinds ⊆ kinds) (s : Scalar) :
    FailsIn kinds (ofScalar s) := by
  cases s <;> grind [ofScalar, documentKinds]

mutual

@[grind .]
theorem failsIn_ofKey (h : documentKinds ⊆ kinds) : ∀ v : Value, FailsIn kinds (ofKey v)
  | .scalar s => by grind [ofKey]
  | .tuple _ items => by grind [ofKey, failsIn_ofKeys h items]
  | .list .. | .map .. | .set .. | .again .. | .opaqueThing .. => by grind [ofKey, documentKinds]

theorem failsIn_ofKeys (h : documentKinds ⊆ kinds) :
    ∀ vs : List Value, FailsIn kinds (ofKey.ofKeys vs)
  | [] => by grind [ofKey.ofKeys]
  | v :: rest => by grind [ofKey.ofKeys, failsIn_ofKey h v, failsIn_ofKeys h rest]

end

@[grind .]
theorem failsIn_arrange (h : documentKinds ⊆ kinds) (es : Entries) (values : List Draft) :
    FailsIn kinds (arrange es values) := by
  refine .mapM fun (k, place) => .bind (failsIn_ofKey h k) fun key => ?_
  split <;> grind

mutual

theorem failsIn_ofValue (h : documentKinds ⊆ kinds) : ∀ v : Value, FailsIn kinds (ofValue v)
  | .scalar s => by grind [ofValue]
  | .tuple _ items => by grind [ofValue, failsIn_ofValues h items]
  | .list _ items => by grind [ofValue, failsIn_ofValues h items]
  | .map _ entries => by grind [ofValue, failsIn_ofEntries h entries]
  | .set _ _ => by grind [ofValue]
  | .again .. => by grind [ofValue]
  | .opaqueThing .. => by grind [ofValue, documentKinds]

theorem failsIn_ofValues (h : documentKinds ⊆ kinds) :
    ∀ vs : List Value, FailsIn kinds (ofValues vs)
  | [] => by grind [ofValues]
  | v :: rest => by grind [ofValues, failsIn_ofValue h v, failsIn_ofValues h rest]

theorem failsIn_ofEntries (h : documentKinds ⊆ kinds) :
    ∀ es : List (Value × Value), FailsIn kinds (ofEntries es)
  | [] => by grind [ofEntries]
  | (_, v) :: rest => by grind [ofEntries, failsIn_ofValue h v, failsIn_ofEntries h rest]

end

end Yaml.Draft

/-! ### Filters -/

namespace Filter

/-- What a filter fails with. -/
def faultKinds : Filter → List FailureKind
  | .truth => []
  | .json | .yaml => [.type, .value]
  | .baseName | .folderName => [.value]
  | .substitute .. => [.pattern, .index, .overflow, .type, .value]
  | .decode64 => [.type, .value, .base64, .decoding]
  | .encode64 => [.attribute, .decoding]

/-- A step that is taken if a value can be a key. -/
theorem failsIn_unlessKey {α : Type} (h : FailureKind.type ∈ kinds) (v : Value)
    {step : PUnit → Except Failure α} (hstep : ∀ u, FailsIn kinds (step u)) :
    FailsIn kinds (if let some f := v.keyFailure? then throw f >>= step else step ()) := by
  cases hf : v.keyFailure? with
  | some f =>
    have hkind : f.kind = .type := Value.kind_of_keyFailure? hf
    exact .bind (.throw (hkind ▸ h)) hstep
  | none => exact hstep ()

@[grind .]
theorem failsIn_patternOf (h : [.type, .value, .pattern, .overflow] ⊆ kinds) (v : Value) :
    FailsIn kinds (patternOf v) := by
  have hpattern (text : String) : FailsIn kinds (Pattern.ofText text) :=
    Pattern.failsIn_ofText (by grind [Pattern.faultKinds]) text
  unfold patternOf
  extract_lets read
  -- A value is looked up among patterns before it is read as one, so it has to be a key first.
  have hread (u : PUnit) : FailsIn kinds (read u) := by
    dsimp -zeta only [read]
    split <;> grind
  clear_value read
  exact failsIn_unlessKey (h (by decide)) v hread

theorem failsIn_replaceIn (h : [.pattern, .index, .overflow, .type, .value] ⊆ kinds)
    (subject : String) (pattern replacement : Value) :
    FailsIn kinds (replaceIn subject pattern replacement) := by
  have hpieces (p : Pattern) (text : String) : FailsIn kinds (Pattern.Replacement.ofText p text) :=
    Pattern.Replacement.failsIn_ofText (by grind [Pattern.Replacement.faultKinds]) p text
  unfold replaceIn
  refine .bind (failsIn_patternOf (by grind) pattern) fun p => ?_
  extract_lets checkSubject replaced
  -- The replacement is read before the subject is checked, in both of its forms.
  have hsubject : FailsIn kinds checkSubject := by
    dsimp only [checkSubject]
    split
    · exact .error (h (by decide))
    · exact .ok ()
  clear_value checkSubject
  have hreplaced (u : PUnit) : FailsIn kinds (replaced u) := by
    dsimp -zeta only [replaced]
    split
    · exact .bind (hpieces p _) fun r => .bind hsubject fun _ => .pure _
    · refine .bind (hpieces p _) fun r => .bind hsubject fun _ => ?_
      split
      · exact .pure _
      · exact .throw (h (by simp [mixedParts]))
    · exact .throw (h (by simp))
  clear_value replaced
  exact failsIn_unlessKey (h (by decide)) replacement hreplaced

/-- A text is turned into bytes unless it holds half a character. -/
theorem failsIn_encode (h : FailureKind.decoding ∈ kinds) (e : Encoding) (s : List Char) :
    FailsIn kinds (e.encode "strict" s) := by
  unfold Encoding.encode
  split
  · grind
  · rename_i i run _
    -- Half a character is refused by the encoding, whose complaint is one about decoding.
    have hcomplaint : (e.complaint i run).kind = .decoding := rfl
    simp
    grind

theorem failsIn_encoded (h : [.attribute, .decoding] ⊆ kinds) (v : Value) :
    FailsIn kinds (encoded v) := by
  have hencode (s : List Char) : FailsIn kinds ((Encoding.utf8 false).encode "strict" s) :=
    failsIn_encode (h (by decide)) _ s
  unfold encoded
  split <;> grind

theorem failsIn_decoded (h : [.type, .value, .base64, .decoding] ⊆ kinds) (v : Value) :
    FailsIn kinds (decoded v) := by
  unfold decoded
  extract_lets bytes
  have hbytes (source : List Char) : FailsIn kinds (bytes source) := by
    -- Bytes come out of base 64 and a text comes out of the bytes; both may be refused.
    refine .bind ?_ fun b => .bind ?_ fun s => .pure _
    · exact FailsBy.mapError (fun _ _ => trivial) fun f _ => h (by simp)
    · exact FailsBy.mapError (fun _ _ => trivial) fun f _ => h (by simp)
  clear_value bytes
  split <;> grind

/-- A filter of values gives a truth value or a text. -/
theorem exists_scalar_of_apply {f : Filter} {v w : Value} (h : f.apply v = .ok w) :
    ∃ s, w = .scalar s := by
  -- All filters but two give what they give by wrapping a text.
  have hmap {α : Type} {g : α → Scalar} {x : Except Failure α}
      (hx : (fun a => Value.scalar (g a)) <$> x = .ok w) : ∃ s, w = .scalar s := by
    cases x with
    | ok a =>
      cases hx
      exact ⟨_, rfl⟩
    | error f => cases hx
  cases f with
  | truth =>
    cases h
    exact ⟨_, rfl⟩
  | json | yaml | decode64 | encode64 | baseName | folderName => exact hmap h
  | substitute pattern replacement =>
    simp only [apply, bind, Except.bind] at h
    cases hsubject : v.text? with
    | error f =>
      rw [hsubject] at h
      cases h
    | ok subject =>
      rw [hsubject] at h
      exact hmap h

/-- **A filter of values** fails, if at all, in one of its ways. -/
theorem failsIn_apply (f : Filter) (h : f.faultKinds ⊆ kinds) (v : Value) :
    FailsIn kinds (f.apply v) := by
  cases f with
  | truth => exact .ok _
  | json => exact .map (Value.failsIn_json h _ v)
  | yaml => exact .map (.bind (Yaml.Draft.failsIn_ofValue h v) fun d => .pure _)
  | baseName => exact .map (Value.failsIn_text? (h (by decide)) v)
  | folderName => exact .map (Value.failsIn_text? (h (by decide)) v)
  | substitute pattern replacement =>
    refine .bind (Value.failsIn_text? (h (by simp [faultKinds])) v) fun subject => ?_
    exact .bind (failsIn_replaceIn h subject pattern replacement) fun s => .pure _
  | decode64 => exact .map (failsIn_decoded h v)
  | encode64 => exact .map (failsIn_encoded h v)

end Filter

end Playbook
