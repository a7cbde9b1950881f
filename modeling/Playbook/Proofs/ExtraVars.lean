import Playbook.ExtraVars
import Playbook.Proofs.Flow.Scalars
import Playbook.Proofs.Flow.Tokens
import Playbook.Proofs.Flow.Values

/-!
# JSON on the command line

An object that is written as JSON may be given for variables. It is read as a document of the other
language, in which JSON is almost a part: brackets, commas, quoted texts, numbers and names mean the
same there. So the object is taken as it was written, however deep it is nested, but for what stands
in texts: an item with `=` anywhere in it is no document but a single variable, a character outside
the first plane is escaped as two halves, which are not put together again, and the name of a member
may not be longer than what a reader of documents looks back for a key.

Main definitions:

- `Value.IsJson`: values that JSON has a form for, with conditions on texts and on names;
- `Yaml.StandsAlone`, `Yaml.StandsFor`: a text is read as a value, wherever it stands or between
  brackets.

A text stands for a value if it gives tokens (`Yaml.Lexes`) that are read as nodes which draw the
value (`Yaml.Parses`). Both are proved for the document of a value by induction on the value
(`Yaml.standsFor_json`), and whatever is drawn is what the document becomes (`Yaml.ofText_eq`).

Main statement: `ExtraVars.ofItems_json`.
-/

namespace Playbook

namespace Value

/-- **The values that JSON has a form for,** of which all texts and all names satisfy conditions.
The names of a mapping differ from each other. -/
inductive IsJson (text name : String → Prop) : Value → Prop
  /-- Nothing. -/
  | null : IsJson text name .null
  /-- A truth value. -/
  | bool (b : Bool) : IsJson text name (.bool b)
  /-- An integer. -/
  | int (i : Int) : IsJson text name (.int i)
  /-- A text. -/
  | str {s : String} (h : text s) : IsJson text name (.str s)
  /-- A list of such values. -/
  | list (m : Option Nat) {items : List Value} (h : ∀ v ∈ items, IsJson text name v) :
    IsJson text name (.list m items)
  /-- A mapping from names to such values. -/
  | map (m : Option Nat) {es : Entries} (hkeys : ∀ e ∈ es, ∃ s, e.1 = .str s ∧ name s)
    (hnodup : (es.map (·.1)).Nodup) (h : ∀ e ∈ es, IsJson text name e.2) :
    IsJson text name (.map m es)

end Value

namespace Yaml

/-! ### Texts of values -/

/-- A text without characters outside the first plane. -/
def IsBasic (s : String) : Prop := ∀ c ∈ s.toList, CodePoint.ofChar c < 0x10000

instance (s : String) : Decidable (IsBasic s) := List.decidableBAll _ s.toList

/-- A text of this kind that may be a key when it stands between quotes. -/
def IsBasicName (s : String) : Prop := IsBasic s ∧ (Json.quote s).toList.length ≤ 1024

instance (s : String) : Decidable (IsBasicName s) := inferInstanceAs (Decidable (_ ∧ _))

/-- **A text is read as a value wherever it stands.** -/
structure StandsAlone (t : List Char) (v : Value) : Prop where
  /-- It is printable. -/
  printable : ∀ c ∈ t, Printable c
  /-- Its tokens are those of the value. -/
  tokens : ∃ ks, (∀ level rest, LexesAt false level t ks rest) ∧ Parses ks v

/-- **A text is read as a value between brackets.** -/
structure StandsFor (t : List Char) (v : Value) : Prop where
  /-- It is printable. -/
  printable : ∀ c ∈ t, Printable c
  /-- Its tokens are those of the value. -/
  tokens : ∃ ks, Lexes t ks ∧ Parses ks v

theorem StandsAlone.standsFor {t : List Char} {v : Value} (h : StandsAlone t v) :
    StandsFor t v := by
  obtain ⟨ks, hlexes, hparses⟩ := h.tokens
  exact ⟨h.printable, ks, fun level rest _ => hlexes (level + 1) rest, hparses⟩

theorem printable_quote {s : String} (hs : IsBasic s) :
    ∀ c ∈ (Json.quote s).toList, Printable c := by
  rw [Json.quote, String.toList_ofList]
  exact List.forall_mem_append.2
    ⟨List.forall_mem_cons.2 ⟨by decide, (opensText_flatMap hs).printable⟩,
      List.forall_mem_singleton.2 (by decide)⟩

/-- A quoted text stands for the text. -/
theorem standsAlone_quote {s : String} (hs : IsBasic s) :
    StandsAlone (Json.quote s).toList (.str s) :=
  ⟨printable_quote hs, _, fun _ _ => lexesAt_quote hs, .scalar .str rfl rfl rfl⟩

/-- A plain word stands for the scalar that it is taken for. -/
theorem standsFor_word {word : String} (hword : Lexer.IsWord word.toList) (type : ScalarType)
    {s : Scalar} (htype : ScalarType.ofTag? (implicitTag word) = some type)
    (hread : type.read word = .ok s) (hmark : s.mark? = none) :
    StandsFor word.toList (.scalar s) := by
  have hlexes := lexes_word hword
  rw [String.ofList_toList] at hlexes
  exact ⟨fun c hc => printable_of_isWordChar (hword.chars c hc), _, hlexes,
    .scalar type htype hread hmark⟩

theorem isWord_of_notMem {word : List Char} (hchars : word.all isWordChar = true)
    (hne : word ≠ []) (hminus : '-' ∉ word) : Lexer.IsWord word := by
  obtain ⟨c, more, rfl⟩ := List.exists_cons_of_ne_nil hne
  refine ⟨List.all_eq_true.1 hchars, c, more, rfl, fun hc => ?_⟩
  subst hc
  exact absurd List.mem_cons_self hminus

theorem standsFor_null : StandsFor "null".toList .null :=
  standsFor_word (isWord_of_notMem (by decide) (by decide) (by decide)) .null
    (by rw [implicitTag_names.1]; rfl) rfl rfl

theorem standsFor_bool (b : Bool) : StandsFor (if b then "true" else "false").toList (.bool b) := by
  obtain ⟨-, htrue, hfalse⟩ := implicitTag_names
  cases b with
  | true =>
    -- The two names are spelled differently, so each is read on its own.
    refine standsFor_word (isWord_of_notMem (by decide) (by decide) (by decide)) .bool
      (htrue ▸ rfl) ?_ rfl
    show (ScalarType.readBool "true").mapError .failure = _
    rw [readBool_names.1]
    rfl
  | false =>
    refine standsFor_word (isWord_of_notMem (by decide) (by decide) (by decide)) .bool
      (hfalse ▸ rfl) ?_ rfl
    show (ScalarType.readBool "false").mapError .failure = _
    rw [readBool_names.2]
    rfl

/-- An integer is a plain word. -/
theorem isWord_toString (i : Int) : Lexer.IsWord (toString i).toList := by
  obtain ⟨ds, hds, -, htext⟩ := exists_areDigits i
  have hdigit (c : Char) (hc : c.isDigit = true) : isWordChar c = true := by
    rw [isWordChar, Char.isAlphanum, hc, Bool.or_true, Bool.true_or]
  have hdigits : ∀ c ∈ ds, isWordChar c = true := fun c hc => hdigit c (hds.digits c hc)
  obtain ⟨c, rest, rfl, hc, hrest⟩ := hds.exists_cons
  obtain ⟨htext, -⟩ | ⟨htext, -⟩ := htext
  · rw [htext]
    -- Without a minus in front the condition on what follows a minus is void.
    exact ⟨hdigits, c, rest, rfl, fun hminus => absurd hminus (ne_of_isDigit hc (by decide))⟩
  · rw [htext]
    exact ⟨List.forall_mem_cons.2 ⟨by decide, hdigits⟩, '-', c :: rest, rfl,
      fun _ => ⟨c, rest, rfl, ne_of_isDigit hc (by decide)⟩⟩

theorem standsFor_int {i : Int} (h : Scalar.isTooLong i = false) :
    StandsFor (toString i).toList (.int i) := by
  refine standsFor_word (isWord_toString i) .int (by rw [implicitTag_toString]; rfl) ?_ rfl
  rw [ScalarType.read, readInt_toString h]
  rfl

/-! ### Collections -/

/-- A text is a member: a quoted name and a value. -/
def StandsForMember (t : List Char) (e : Value × Value) : Prop :=
  ∃ name v one, t = (Json.quote name).toList ++ ':' :: ' ' :: one ∧ e = (.str name, v) ∧
    IsBasicName name ∧ StandsFor one v

/-- The document of a collection on one line. -/
theorem toList_layout (depth : Nat) (opening closing : String) (texts : List String) :
    (Json.layout Json.compact depth opening closing texts).toList =
      opening.toList ++
        (List.intercalate [',', ' '] (texts.map String.toList) ++ closing.toList) := by
  rw [Json.layout]
  -- No part at all is a case of its own: nothing stands between the brackets then.
  by_cases hnil : texts = []
  · subst hnil
    exact String.toList_append
  · rw [if_neg (by rwa [List.isEmpty_iff])]
    show (opening ++ String.intercalate ", " texts ++ closing).toList = _
    rw [String.toList_append, String.toList_append, String.toList_intercalate, List.append_assoc]
    rfl

theorem forall_mem_intercalate {p : Char → Prop} {sep : List Char} {texts : List (List Char)}
    (hsep : ∀ c ∈ sep, p c) (h : ∀ t ∈ texts, ∀ c ∈ t, p c) :
    ∀ c ∈ List.intercalate sep texts, p c := by
  induction texts with
  | nil => exact List.forall_mem_nil _
  | cons t rest ih =>
    obtain ⟨ht, hrest⟩ := List.forall_mem_cons.1 h
    cases rest with
    | nil =>
      rw [List.intercalate_singleton]
      exact ht
    | cons u more =>
      rw [List.intercalate_cons_cons]
      exact List.forall_mem_append.2 ⟨List.forall_mem_append.2 ⟨ht, hsep⟩, ih hrest⟩

/-- What stands between brackets, one part after another. -/
theorem exists_kinds {α : Type} {texts : List (List Char)} {xs : List α}
    {R : List Char → α → Prop} {S : List TokenKind → α → Prop} (h : List.Forall₂ R texts xs)
    (hparts : ∀ t x, R t x → (∀ c ∈ t, Printable c) ∧ ∃ ks, LexesPart t ks ∧ S ks x)
    {a b : Char} {first last : TokenKind} (hab : Brackets a b first last) :
    (∀ c ∈ a :: (List.intercalate [',', ' '] texts ++ [b]), Printable c) ∧
      ∃ kss, (∀ level rest, LexesAt false level (a :: (List.intercalate [',', ' '] texts ++ [b]))
          (first :: (List.intercalate [.flowEntry] kss ++ [last])) rest) ∧
        List.Forall₂ S kss xs := by
  -- First each part by itself, with the tokens that it has wherever it stands between brackets.
  obtain ⟨hprintable, kss, hlexes, hkss⟩ : (∀ t ∈ texts, ∀ c ∈ t, Printable c) ∧
      ∃ kss, List.Forall₂ LexesPart texts kss ∧ List.Forall₂ S kss xs := by
    induction h with
    | nil => exact ⟨List.forall_mem_nil _, [], .nil, .nil⟩
    | cons hone _ ih =>
      obtain ⟨hprintable, ks, hlexes, hks⟩ := hparts _ _ hone
      obtain ⟨hmore, kss, hlexesMore, hkss⟩ := ih
      exact ⟨List.forall_mem_cons.2 ⟨hprintable, hmore⟩, ks :: kss, .cons hlexes hlexesMore,
        .cons hks hkss⟩
  refine ⟨List.forall_mem_cons.2 ⟨hab.printable_left, List.forall_mem_append.2 ⟨?_, ?_⟩⟩,
    kss, fun level rest => lexesAt_brackets hlexes hab, hkss⟩
  -- A comma and a blank are printable, as are the brackets.
  · exact forall_mem_intercalate
      (List.forall_mem_cons.2 ⟨by decide, List.forall_mem_singleton.2 (by decide)⟩) hprintable
  · exact List.forall_mem_singleton.2 hab.printable_right

/-- **A list stands for its items.** -/
theorem standsAlone_list {texts : List (List Char)} {vs : List Value} (m : Option Nat)
    (h : List.Forall₂ StandsFor texts vs) :
    StandsAlone ('[' :: (List.intercalate [',', ' '] texts ++ [']'])) (.list m vs) := by
  have hparts (t : List Char) (v : Value) (ht : StandsFor t v) :
      (∀ c ∈ t, Printable c) ∧ ∃ ks, LexesPart t ks ∧ Parses ks v := by
    obtain ⟨ks, hlexes, hparses⟩ := ht.tokens
    exact ⟨ht.printable, ks, hlexes.part, hparses⟩
  obtain ⟨hprintable, kss, hlexes, hkss⟩ := exists_kinds h hparts .square
  exact ⟨hprintable, _, hlexes, .list hkss m⟩

/-- **A mapping stands for its members.** -/
theorem standsAlone_map {texts : List (List Char)} {es : Entries} (m : Option Nat)
    (h : List.Forall₂ StandsForMember texts es) (hnodup : (es.map (·.1)).Nodup) :
    StandsAlone ('\x7b' :: (List.intercalate [',', ' '] texts ++ ['\x7d'])) (.map m es) := by
  have hparts (t : List Char) (e : Value × Value) (ht : StandsForMember t e) :
      (∀ c ∈ t, Printable c) ∧ ∃ ks, LexesPart t ks ∧ ParsesMember ks e := by
    obtain ⟨name, v, one, rfl, rfl, ⟨hbasic, hlength⟩, hone⟩ := ht
    obtain ⟨ks, hlexes, hparses⟩ := hone.tokens
    -- The name is short enough to be a key, so its tokens can be given at once.
    refine ⟨List.forall_mem_append.2 ⟨printable_quote hbasic, ?_⟩,
      _, lexesPart_member hbasic hlength hlexes, name, v, ks, rfl, rfl, hparses⟩
    exact List.forall_mem_cons.2 ⟨by decide, List.forall_mem_cons.2 ⟨by decide, hone.printable⟩⟩
  obtain ⟨hprintable, kss, hlexes, hkss⟩ := exists_kinds h hparts .curly
  exact ⟨hprintable, _, hlexes, .map hkss hnodup m⟩

/-! ### Documents of values -/

/-- The parts of a document are those of its values. -/
theorem forall₂_of_jsonItems {items : List Value} {depth : Nat}
    (hitems : ∀ v ∈ items, ∀ t, v.jsonAt Json.compact depth = .ok t → StandsFor t.toList v)
    {texts : List String} (h : Value.jsonItems Json.compact depth items = .ok texts) :
    List.Forall₂ StandsFor (texts.map String.toList) items := by
  -- Induction on the items along their documents. That one of them has none cannot be, as the
  -- document of all is there.
  induction items generalizing texts with
  | nil =>
    cases h
    exact .nil
  | cons v rest ih =>
    obtain ⟨hv, hrest⟩ := List.forall_mem_cons.1 hitems
    rw [Value.jsonItems] at h
    cases hone : v.jsonAt Json.compact depth with
    | error f =>
      rw [hone] at h
      cases h
    | ok t =>
      cases hmore : Value.jsonItems Json.compact depth rest with
      | error f =>
        rw [hone, hmore] at h
        cases h
      | ok more =>
        rw [hone, hmore] at h
        cases h
        exact .cons (hv t hone) (ih hrest hmore)

/-- The members of a document are those of its entries. -/
theorem forall₂_of_jsonEntries {es : Entries} {depth : Nat}
    (hkeys : ∀ e ∈ es, ∃ s, e.1 = .str s ∧ IsBasicName s)
    (hvalues : ∀ e ∈ es, ∀ t, e.2.jsonAt Json.compact depth = .ok t → StandsFor t.toList e.2)
    {texts : List String} (h : Value.jsonEntries Json.compact depth es = .ok texts) :
    List.Forall₂ StandsForMember (texts.map String.toList) es := by
  induction es generalizing texts with
  | nil =>
    cases h
    exact .nil
  | cons e rest ih =>
    obtain ⟨k, v⟩ := e
    obtain ⟨⟨name, hname, hbasic⟩, hnames⟩ := List.forall_mem_cons.1 hkeys
    obtain ⟨hv, hrest⟩ := List.forall_mem_cons.1 hvalues
    dsimp only at hname hv
    subst hname
    rw [Value.jsonEntries] at h
    cases hone : v.jsonAt Json.compact depth with
    | error f =>
      rw [hone] at h
      cases h
    | ok t =>
      cases hmore : Value.jsonEntries Json.compact depth rest with
      | error f =>
        rw [hone, hmore] at h
        cases h
      | ok more =>
        rw [hone, hmore] at h
        cases h
        refine .cons ⟨name, v, t.toList, ?_, rfl, hbasic, hv t hone⟩ (ih hnames hrest hmore)
        -- A colon and a blank stand between the name and its value.
        rw [String.toList_append, String.toList_append]
        exact List.append_assoc _ _ _

/-- The document of a mapping stands for it, if those of its values do. -/
theorem standsAlone_of_jsonAt {m : Option Nat} {es : Entries} {depth : Nat}
    (hkeys : ∀ e ∈ es, ∃ s, e.1 = .str s ∧ IsBasicName s) (hnodup : (es.map (·.1)).Nodup)
    (hvalues : ∀ e ∈ es, ∀ t, e.2.jsonAt Json.compact (depth + 1) = .ok t → StandsFor t.toList e.2)
    {t : String} (h : (Value.map m es).jsonAt Json.compact depth = .ok t) :
    StandsAlone t.toList (.map m es) := by
  rw [Value.jsonAt] at h
  cases htexts : Value.jsonEntries Json.compact (depth + 1) es with
  | error f =>
    rw [htexts] at h
    cases h
  | ok texts =>
    rw [htexts] at h
    cases h
    rw [toList_layout]
    exact standsAlone_map m (forall₂_of_jsonEntries hkeys hvalues htexts) hnodup

/-- **The JSON document of a value stands for this value,** whatever is nested in it. -/
theorem standsFor_json {v : Value} (hv : v.IsJson IsBasic IsBasicName) {depth : Nat} {t : String}
    (h : v.jsonAt Json.compact depth = .ok t) : StandsFor t.toList v := by
  -- Induction on what makes the value one of JSON, for all depths: items are written one level
  -- deeper, but on one line the depth is not seen.
  induction hv generalizing depth t with
  | null =>
    cases h
    exact standsFor_null
  | bool b =>
    cases h
    exact standsFor_bool b
  | int i =>
    rw [Value.jsonAt, Json.intText] at h
    split at h
    · cases h
    · next hshort =>
      cases h
      exact standsFor_int (eq_false_of_ne_true hshort)
  | str hs =>
    cases h
    -- Texts and collections stand for their values anywhere, and so also between brackets.
    exact (standsAlone_quote hs).standsFor
  | @list m items _ ih =>
    rw [Value.jsonAt] at h
    cases htexts : Value.jsonItems Json.compact (depth + 1) items with
    | error f =>
      rw [htexts] at h
      cases h
    | ok texts =>
      rw [htexts] at h
      cases h
      rw [toList_layout]
      exact (standsAlone_list m
        (forall₂_of_jsonItems (fun v hv t ht => ih v hv ht) htexts)).standsFor
  | map m hkeys hnodup _ ih =>
    exact (standsAlone_of_jsonAt hkeys hnodup (fun e he t ht => ih e he ht) h).standsFor

/-! ### Sources -/

/-- A text of printable characters is a source. -/
theorem ofText_printable {t : String} (h : ∀ c ∈ t.toList, Printable c) :
    Source.ofText t = .ok ⟨"<unicode string>", t.toList⟩ := by
  have hnone (i : Nat) (cs : List Char) (hcs : ∀ c ∈ cs, Printable c) :
      Source.firstInadmissible i cs = none := by
    induction cs generalizing i with
    | nil => rfl
    | cons c rest ih =>
      obtain ⟨⟨hlo, hhi⟩, hrest⟩ := List.forall_mem_cons.1 hcs
      -- What is printable is admissible in a source, by its code.
      have hadmissible : isAdmissible c = true := by
        simp only [isAdmissible, Bool.or_eq_true, Bool.and_eq_true, decide_eq_true_eq]
        omega
      rw [Source.firstInadmissible, if_pos hadmissible]
      exact ih (i + 1) hrest
  rw [Source.ofText, Source.check, hnone 0 t.toList h]

/-- **A text that is read as a value is a document of this value,** in which no container bears a
mark. -/
theorem ofText_eq {t : String} {v : Value} (h : StandsAlone t.toList v) :
    Yaml.ofText t = .ok v.unmarked := by
  obtain ⟨ks, hlexes, hparses⟩ := h.tokens
  let source : Source := ⟨"<unicode string>", t.toList⟩
  obtain ⟨ts, hts, hkinds⟩ := tokens_eq (s := source) (hlexes 0 [])
  obtain ⟨nodes, hgraph, hdraws⟩ := Graph.ofTokens_eq hparses hkinds
  rw [Yaml.ofText, ofText_printable h.printable]
  show ofSource source = _
  rw [ofSource, hts, hgraph]
  dsimp only
  rw [Graph.value_eq hdraws]

end Yaml

/-! ### Items -/

namespace ExtraVars

/-- One item gives its own variables. -/
theorem ofItems_singleton {fs : FileSystem} {item : String} {es : Entries}
    (h : ofItem fs (Item.ofText item) = .ok es) :
    ofItems fs [item] = .ok (Entries.ofList es) := by
  rw [ofItems, List.foldlM_cons, h]
  rfl

/-- **A JSON object on the command line.** If `=` stands nowhere in its document it is taken as this
object, whatever is nested in it, if no text has a character outside the first plane and no name is
too long. If `=` stands anywhere in it, be it inside of a text, what comes before is taken as the
name of the only variable. -/
theorem ofItems_json (fs : FileSystem) {m : Option Nat} {es : Entries} {document : String}
    (hdocument : (Value.map m es).json Json.compact = .ok document) :
    ('=' ∈ document.toList → ofItems fs [document] =
      .ok [(.str (strip (document.toList.takeWhile (· ≠ '='))),
        .str (strip ((document.toList.dropWhile (· ≠ '=')).drop 1)))]) ∧
    ('=' ∉ document.toList → (Value.map m es).IsJson Yaml.IsBasic Yaml.IsBasicName →
      ofItems fs [document] = .ok (Value.unmarkedEntries es)) := by
  -- the document starts with a brace, so it names no file
  obtain ⟨rest, hbrace⟩ : ∃ rest, document.toList = '\x7b' :: rest := by
    rw [Value.json, Value.jsonAt] at hdocument
    cases htexts : Value.jsonEntries Json.compact 1 es with
    | error f =>
      rw [htexts] at hdocument
      cases hdocument
    | ok texts =>
      rw [htexts] at hdocument
      cases hdocument
      rw [Yaml.toList_layout]
      exact ⟨_, rfl⟩
  refine ⟨fun hsign => ?_, fun hsign hjson => ?_⟩
  · have hitem : Item.ofText document =
        .assignment (strip (document.toList.takeWhile (· ≠ '=')))
          (strip ((document.toList.dropWhile (· ≠ '=')).drop 1)) := by
      -- A text that starts with a brace is split at `=` if there is one, and is a document
      -- otherwise.
      rw [hbrace] at hsign
      rw [Item.ofText, hbrace]
      exact if_pos (List.contains_iff_mem.2 hsign)
    rw [ofItems_singleton (by rw [hitem]; rfl)]
    rfl
  · have hitem : Item.ofText document = .document document := by
      rw [hbrace] at hsign
      rw [Item.ofText, hbrace]
      exact if_neg fun hmem => hsign (List.contains_iff_mem.1 hmem)
    cases hjson with
    | map m hkeys hnodup hvalues =>
      have hstands := Yaml.standsAlone_of_jsonAt hkeys hnodup
        (fun e he t ht => Yaml.standsFor_json (hvalues e he) ht) hdocument
      -- The variables are the members, one by one: all names are texts, and no two are the same.
      have hnames : Entries.AreNames (Value.unmarkedEntries es) := by
        refine ⟨fun e he => ?_, ?_⟩
        · rw [Value.unmarkedEntries_eq] at he
          obtain ⟨d, hd, rfl⟩ := List.mem_map.1 he
          obtain ⟨s, hs, -⟩ := hkeys d hd
          exact ⟨s, hs⟩
        · rwa [Value.unmarkedEntries_keys]
      have hitems : ofItem fs (Item.ofText document) = .ok (Value.unmarkedEntries es) := by
        rw [hitem, ofItem, Yaml.ofText_eq hstands]
        rfl
      rw [ofItems_singleton hitems, hnames.ofList]

/-- Nested lists and mappings, a name with a blank, an empty one, and a text with quotes, a line end
and what would be a comment outside of quotes. -/
theorem ofItems_json_nested :
    let es : Entries := [
      (.str "a b", .list (some 2) [.int (-10), .bool true, .null, .list none []]),
      (.str "c", .map none [(.str "", .str "\"x\": y\n # z")])]
    let document :=
      "\x7b\"a b\": [-10, true, null, []], \"c\": \x7b\"\": \"\\\"x\\\": y\\n # z\"\x7d\x7d"
    (Value.map none es).json Json.compact = .ok document ∧
      ofItems (.ofAnswers "/" []) [document] = .ok (Value.unmarkedEntries es) := by
  intro es document
  have hdocument : (Value.map none es).json Json.compact = .ok document := by rfl
  have hlist : (Value.list (some 2) [.int (-10), .bool true, .null, .list none []]).IsJson
      Yaml.IsBasic Yaml.IsBasicName :=
    .list _ (List.forall_mem_cons.2 ⟨.int _, List.forall_mem_cons.2 ⟨.bool _,
      List.forall_mem_cons.2 ⟨.null, List.forall_mem_singleton.2
        (.list none (List.forall_mem_nil _))⟩⟩⟩)
  have hmap : (Value.map none [(.str "", .str "\"x\": y\n # z")]).IsJson
      Yaml.IsBasic Yaml.IsBasicName :=
    .map none (List.forall_mem_singleton.2 ⟨"", rfl, by decide⟩) (List.nodup_singleton _)
      (List.forall_mem_singleton.2 (.str (by decide)))
  have hbasic : (Value.map none es).IsJson Yaml.IsBasic Yaml.IsBasicName :=
    .map none (List.forall_mem_cons.2 ⟨⟨"a b", rfl, by decide⟩,
      List.forall_mem_singleton.2 ⟨"c", rfl, by decide⟩⟩) (by simp [es])
      (List.forall_mem_cons.2 ⟨hlist, List.forall_mem_singleton.2 hmap⟩)
  exact ⟨hdocument, (ofItems_json _ hdocument).2 (by decide) hbasic⟩

/-- A text that is an equation makes the whole document one. -/
theorem ofItems_equation :
    let es : Entries := [(.str "a", .str "b=c")]
    let document := "\x7b\"a\": \"b=c\"\x7d"
    (Value.map none es).json Json.compact = .ok document ∧
      (Value.map none es).IsJson Yaml.IsBasic Yaml.IsBasicName ∧
      ofItems (.ofAnswers "/" []) [document] = .ok [(.str "\x7b\"a\": \"b", .str "c\"\x7d")] ∧
      ofItems (.ofAnswers "/" []) [document] ≠ .ok (Value.unmarkedEntries es) := by
  intro es document
  have hbasic : (Value.map none es).IsJson Yaml.IsBasic Yaml.IsBasicName :=
    .map none (List.forall_mem_singleton.2 ⟨"a", rfl, by decide⟩) (List.nodup_singleton _)
      (List.forall_mem_singleton.2 (.str (by decide)))
  have hitem : Item.ofText document = .assignment "\x7b\"a\": \"b" "c\"\x7d" := by
    decide +kernel
  have hitems : ofItems (.ofAnswers "/" []) [document] =
      .ok [(.str "\x7b\"a\": \"b", .str "c\"\x7d")] := by
    rw [ofItems_singleton (by rw [hitem]; rfl)]
    rfl
  refine ⟨by rfl, hbasic, hitems, fun hsame => ?_⟩
  rw [hitems] at hsame
  have hkey : Value.str "\x7b\"a\": \"b" = .str "a" := by
    injection hsame with hsame
    exact congrArg Prod.fst (List.cons.inj hsame).1
  exact absurd (Scalar.str.inj (Value.scalar.inj hkey)) (by decide)

end ExtraVars

end Playbook
