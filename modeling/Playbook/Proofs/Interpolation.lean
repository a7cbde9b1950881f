import Playbook.Proofs.Mappings
import Playbook.Proofs.Segments

/-!
# Texts with variables in them

What a template of segments gives when all names around it are texts: its own texts as they are,
and for each variable the text of that name, or nothing if there is no such name. Nothing of the
text of a name is looked at, and nothing is put in its place.

* `Template.enter_around` — the frame of the template holds what each of its names has around it.
* `Template.runOutput_segments` — **one segment after the other is put out.**
* `Template.run_segments` — what the engine gives, and `Rendering.result_ofText_segments`, what
  rendering gives. The two differ in how they come to a template without variables, which rendering
  does not hand to the engine.

The names are looked up when the frame is entered, before anything is put out. So there are two
inductions: one on the names of the frame, in which what has been looked up before is found again
(`Template.Store.Untouched`), and one on the segments, in which the store stays as it is.
-/

namespace Playbook

/-- The entries of names with texts. -/
def Entries.ofTexts (scope : List (String × String)) : Entries :=
  scope.map fun (name, text) => (.str name, .str text)

namespace Template

/-! ### Looking up names -/

variable {scope : List (String × String)} {name : String} {p : Puller} {s s' : Store}

/-- A name with a text is found with this text. -/
theorem find?_ofTexts (scope : List (String × String)) (name : String) :
    (Entries.ofTexts scope).find? (.str name) = (scope.lookup name).map .str := by
  induction scope with
  | nil => rfl
  | cons e rest ih =>
    show (if (Value.str e.1).sameKey (.str name) then some (Value.str e.2) else
      (Entries.ofTexts rest).find? (.str name)) = _
    rw [List.lookup_cons]
    by_cases hname : e.1 = name
    · rw [if_pos (Entries.sameKey_str.2 (by rw [hname])), hname, BEq.rfl]
      rfl
    · rw [if_neg (fun h => hname (by simpa using Entries.sameKey_str.1 h)), ih,
        beq_false_of_ne (Ne.symm hname)]

theorem textual_ofTexts (scope : List (String × String)) :
    (Scope.ofEntries (.ofTexts scope)).textual = true := by
  show (Entries.ofTexts scope).all _ = true
  rw [Entries.ofTexts, List.all_map, List.all_eq_true]
  exact fun _ _ => rfl

/-- The datum that a name stands for. -/
def known? (scope : List (String × String)) (name : String) : Option Datum :=
  (scope.lookup name).map .str

/-- **Nothing has been set by the template,** and what has been looked up is what the names have. -/
structure Store.Untouched (scope : List (String × String)) (s : Store) : Prop where
  /-- Nothing has been set. -/
  exports : s.exports = []
  /-- What has been looked up is what the names have. -/
  named : ∀ name d, s.named.lookup name = some d → known? scope name = some d

/-- A name may be noted with what it has. -/
theorem Store.Untouched.noted (h : s.Untouched scope) {d : Datum}
    (hknown : known? scope name = some d) :
    ({ s with named := s.named ++ [(name, d)] } : Store).Untouched scope := by
  refine ⟨h.exports, fun name' d' hd => ?_⟩
  have happend : (s.named ++ [(name, d)]).lookup name' =
      (s.named.lookup name').or ([(name, d)].lookup name') := List.lookup_append
  rw [happend, List.lookup_cons, List.lookup_nil] at hd
  cases hold : s.named.lookup name' with
  | some old =>
    rw [hold] at hd
    exact (h.named name' old hold).trans hd
  | none =>
    rw [hold, Option.none_or] at hd
    by_cases heq : name' = name
    · rw [heq, BEq.rfl] at hd
      rw [heq, hknown]
      exact hd
    · rw [beq_false_of_ne heq] at hd
      cases hd

/-- A name around the template is looked up as what it has, and may be noted with it. -/
theorem scoped?_ofTexts (blocks : List NamedBlock) (h : s.Untouched scope) (name : String) :
    ∃ s', Setting.scoped? ⟨.ofEntries (.ofTexts scope), blocks⟩ name p s =
        (.ok (known? scope name), s') ∧ s'.Untouched scope ∧ s'.frames = s.frames := by
  have hfind : (Scope.ofEntries (.ofTexts scope)).find name = (scope.lookup name).map .str :=
    find?_ofTexts scope name
  rw [Setting.scoped?, Eval.bind_of_ok (x := getThe Store) rfl]
  cases hnamed : s.named.lookup name with
  | some d =>
    -- it has been looked up before
    refine ⟨s, ?_, h, rfl⟩
    rw [h.named name d hnamed]
    rfl
  | none =>
    dsimp only
    rw [hfind]
    cases htext : scope.lookup name with
    | none =>
      refine ⟨s, ?_, h, rfl⟩
      rw [known?, htext]
      rfl
    | some text =>
      have hknown : known? scope name = some (.str text) := by rw [known?, htext, Option.map_some]
      refine ⟨{ s with named := s.named ++ [(name, .str text)] }, ?_, h.noted hknown, rfl⟩
      rw [hknown]
      rfl

/-- A variable is looked up as what it has around the template, since neither the template nor the
engine has given its name a value. -/
theorem lookUp_of_variable (blocks : List NamedBlock) (h : s.Untouched scope)
    (hname : IsVariable name) :
    ∃ s', Setting.lookUp ⟨.ofEntries (.ofTexts scope), blocks⟩ [] name p s =
        (.ok (known? scope name), s') ∧ s'.Untouched scope ∧ s'.frames = s.frames := by
  obtain ⟨s', hrun, hs', hframes⟩ := scoped?_ofTexts (p := p) blocks h name
  refine ⟨s', ?_, hs', hframes⟩
  rw [Setting.lookUp, Eval.bind_of_ok (x := getThe Store) rfl, h.exports]
  dsimp only [List.lookup_nil, Option.or]
  rw [Eval.bind_of_ok hrun]
  cases hknown : known? scope name with
  | some d => rfl
  | none =>
    rw [hname.ofName?]
    rfl

/-- What a name is shown as: its text, or nothing if it has none. -/
theorem text_of_known? (scope : List (String × String)) (name : String) :
    ((known? scope name).getD (.undefinedName name)).text p s =
      (.ok ((scope.lookup name).getD ""), s) := by
  rw [known?]
  cases scope.lookup name with
  | none => rfl
  | some text => rfl

/-! ### Frames -/

/-- The frame of names that are looked up around the template. -/
def Frame.around (names : List String) : Frame := ⟨names.map fun name => (name, .around), []⟩

theorem Frame.knows_around {names : List String} :
    (around names).knows name = true ↔ name ∈ names := by
  simp [knows, around]

theorem Frame.setOrigin_of_new {o : Origin} {origins : List (String × Origin)}
    (h : ∀ e ∈ origins, e.1 ≠ name) : setOrigin name o origins = origins ++ [(name, o)] := by
  induction origins with
  | nil => rfl
  | cons e rest ih =>
    obtain ⟨he, hrest⟩ := List.forall_mem_cons.1 h
    rw [setOrigin, if_neg he, ih hrest]
    rfl

/-- **Names that are read** are looked up around the template, each of them once. -/
theorem Frame.mentionAll_reads (names known : List String) :
    ∃ all : List String,
      (around known).mentionAll (fun _ => false) (names.map .reads) = around all ∧
        ∀ name, name ∈ all ↔ name ∈ known ∨ name ∈ names := by
  -- Each name that is not yet known comes last, so what is known is generalized.
  induction names generalizing known with
  | nil => exact ⟨known, rfl, fun name => by simp⟩
  | cons first more ih =>
    show ∃ all, ((around known).read (fun _ => false) first).mentionAll _ _ = _ ∧ _
    rw [Frame.read, Bool.or_false]
    by_cases hfirst : first ∈ known
    · rw [if_pos (knows_around.2 hfirst)]
      obtain ⟨all, hall, hmem⟩ := ih known
      refine ⟨all, hall, fun name => ?_⟩
      rw [hmem, List.mem_cons]
      constructor
      · rintro (h | h)
        · exact .inl h
        · exact .inr (.inr h)
      · rintro (h | rfl | h)
        · exact .inl h
        · exact .inl hfirst
        · exact .inr h
    · rw [if_neg (fun h => hfirst (knows_around.1 h))]
      have hset : (around known).set first .around = around (known ++ [first]) := by
        rw [set, around, setOrigin_of_new]
        · simp [around]
        · intro e he
          obtain ⟨name, hname, rfl⟩ := List.mem_map.1 he
          exact fun heq => hfirst (heq ▸ hname)
      rw [hset]
      obtain ⟨all, hall, hmem⟩ := ih (known ++ [first])
      refine ⟨all, hall, fun name => ?_⟩
      rw [hmem, List.mem_append, List.mem_singleton, List.mem_cons, or_assoc]

/-- The first values of names that are looked up around the template. -/
theorem mapM_lookUp (blocks : List NamedBlock) (h : s.Untouched scope) {names : List String}
    (hnames : ∀ name ∈ names, IsVariable name) :
    ∃ s', (names.mapM fun name => do
        return (name, ← Setting.lookUp ⟨.ofEntries (.ofTexts scope), blocks⟩ [] name) :
          Eval (List (String × Option Datum))) p s =
        (.ok (names.map fun name => (name, known? scope name)), s') ∧ s'.frames = s.frames := by
  induction names generalizing s with
  | nil => exact ⟨s, rfl, rfl⟩
  | cons name more ih =>
    obtain ⟨hname, hmore⟩ := List.forall_mem_cons.1 hnames
    obtain ⟨s₁, hfirst, hs₁, hframes₁⟩ := lookUp_of_variable (p := p) blocks h hname
    obtain ⟨s₂, hrest, hframes₂⟩ := ih hs₁ hmore
    refine ⟨s₂, ?_, hframes₂.trans hframes₁⟩
    rw [List.mapM_cons, bind_assoc, Eval.bind_of_ok hfirst, pure_bind, Eval.bind_of_ok hrest]
    rfl

/-- **The values of a new frame** are those that its names have around the template. -/
theorem enter_around (blocks : List NamedBlock) (h : s.Untouched scope) {names : List String}
    (hnames : ∀ name ∈ names, IsVariable name) (given : List (String × Option Datum)) :
    ∃ s', Setting.enter ⟨.ofEntries (.ofTexts scope), blocks⟩ [] none (.around names) given p s =
        (.ok s.frames.size, s') ∧
      s'.frames = s.frames.push ⟨none, names.map fun name => (name, known? scope name), []⟩ := by
  obtain ⟨s₁, hvalues, hframes⟩ := mapM_lookUp (p := p) blocks h hnames
  rw [Setting.enter, Frame.around]
  dsimp only
  rw [List.mapM_map]
  dsimp only [Function.comp_def]
  rw [Eval.bind_of_ok hvalues, ← hframes]
  exact ⟨_, rfl, rfl⟩

theorem lookup_map_of_mem {names : List String} (hname : name ∈ names)
    (value : String → Option Datum) :
    (names.map fun name => (name, value name)).lookup name = some (value name) := by
  induction names with
  | nil => cases hname
  | cons first more ih =>
    rw [List.map_cons, List.lookup_cons]
    by_cases heq : name = first
    · rw [heq, BEq.rfl]
    · rw [beq_false_of_ne heq]
      exact ih ((List.mem_cons.1 hname).resolve_left heq)

/-- The value of a name in its frame. -/
theorem lookUp_of_frame (setting : Setting) {site : Site} {names : List String}
    {value : String → Option Datum}
    (hframe : s.frames[site.frame]? =
      some ⟨none, names.map fun name => (name, value name), []⟩) (hname : name ∈ names) :
    site.lookUp setting name p s = (.ok ((value name).getD (.undefinedName name)), s) := by
  have hfound : Eval.frame site.frame p s =
      (.ok ⟨none, names.map fun name => (name, value name), []⟩, s) := by
    show (Except.ok ((s.frames[site.frame]?).getD default), s) = _
    rw [hframe]
    rfl
  have howner : Eval.owner? site.frame name p s = (.ok (some site.frame), s) := by
    rw [Eval.owner?, Eval.bind_of_ok (x := getThe Store) rfl, Eval.ownerOf,
      Eval.bind_of_ok hfound, if_pos]
    · rfl
    · rw [List.any_eq_true]
      exact ⟨(name, value name), List.mem_map_of_mem hname, beq_self_eq_true name⟩
  have hvalue : Eval.valueIn site.frame name p s = (.ok (some (value name)), s) := by
    rw [Eval.valueIn, Eval.bind_of_ok howner]
    dsimp only
    rw [Eval.bind_of_ok hfound, lookup_map_of_mem hname]
    rfl
  rw [Site.lookUp, Eval.bind_of_ok hvalue]
  rfl

/-! ### Outputs -/

/-- The names of segments. -/
def variableNames (segments : List Segment) : List String := segments.filterMap Segment.name?

theorem mentionsOfParts_segments (segments : List Segment) :
    mentionsOfParts (segments.map Segment.part) = (variableNames segments).map .reads := by
  induction segments with
  | nil => rfl
  | cons g more ih =>
    cases g with
    | text s _ _ => exact ih
    | value name _ => exact congrArg (Mention.reads name :: ·) ih

theorem isVariable_of_mem {segments : List Segment} (h : name ∈ variableNames segments) :
    IsVariable name := by
  obtain ⟨g, -, hg⟩ := List.mem_filterMap.1 h
  cases g with
  | text s _ _ => cases hg
  | value name' hname =>
    cases hg
    exact hname

/-- **Segments are put out one by one:** texts as they are, and variables as what they have. -/
theorem runOutput_segments (setting : Setting) (depth : Nat) {site : Site}
    (hescapes : site.escapes = false) {names : List String}
    (hframe : s.frames[site.frame]? =
      some ⟨none, names.map fun name => (name, known? scope name), []⟩)
    {segments : List Segment} (hnames : ∀ name ∈ variableNames segments, name ∈ names) :
    runOutput (evaluate setting (depth + 1)) site (segments.map Segment.part) p s =
      (.ok (segments.map fun g => .chars (g.filled scope).toList), s) := by
  rw [runOutput]
  -- Putting out a segment leaves the store as it is, so the next one finds the same frame.
  induction segments with
  | nil => rfl
  | cons g more ih =>
    cases g with
    | text t _ _ =>
      rw [List.map_cons, List.mapM_cons]
      dsimp only [Segment.part]
      rw [pure_bind, Eval.bind_of_ok (ih hnames)]
      rfl
    | value name hname =>
      have hlookup : (evaluate setting (depth + 1)).expr site (.name name) p s =
          (.ok ((known? scope name).getD (.undefinedName name)), s) :=
        lookUp_of_frame setting hframe (hnames name List.mem_cons_self)
      have hshown : shownValue site ((known? scope name).getD (.undefinedName name)) p s =
          (.ok ((scope.lookup name).getD "").toList, s) := by
        rw [shownValue, Eval.bind_of_ok (text_of_known? scope name), hescapes]
        rfl
      rw [List.map_cons, List.mapM_cons]
      dsimp only [Segment.part]
      rw [bind_assoc, Eval.bind_of_ok hlookup, bind_assoc, Eval.bind_of_ok hshown, pure_bind,
        Eval.bind_of_ok (ih fun name h => hnames name (List.mem_cons_of_mem _ h))]
      rfl

/-- No segment mentions the word for the blocks of the template. -/
theorem undeclared_segments (segments : List Segment) :
    undeclared [.output (segments.map Segment.part)] ["self"] = [] := by
  show undeclaredIn (mentionsOfParts (segments.map Segment.part) ++ []) ["self"] = []
  rw [List.append_nil, mentionsOfParts_segments]
  have hnames : ∀ name ∈ variableNames segments, IsVariable name := fun _ => isVariable_of_mem
  generalize variableNames segments = names at hnames ⊢
  induction names with
  | nil => rfl
  | cons name more ih =>
    obtain ⟨hname, hmore⟩ := List.forall_mem_cons.1 hnames
    have hself : name ≠ "self" := hname.ne_of_mem (by decide)
    rw [List.map_cons, undeclaredIn, List.contains_cons, beq_false_of_ne hself]
    exact ih hmore

/-- **A template of segments shows them.** -/
theorem runChecked_segments (segments : List Segment) (h : s.Untouched scope)
    (hframes : s.frames = #[]) :
    (runChecked (.ofEntries (.ofTexts scope)) [.output (segments.map Segment.part)] p s).1 =
      .ok (String.ofList (shown scope segments)) := by
  -- The check leaves the segments as they are, and their names are those of the frame.
  have hsettle : settle vocabulary [.output (segments.map Segment.part)] =
      .ok ⟨[.output (segments.map Segment.part)], []⟩ := by
    refine settle_output fun place part hpart => ?_
    obtain ⟨g, -, rfl⟩ := List.mem_map.1 hpart
    exact settlePart_segment place g
  obtain ⟨all, hframe, hall⟩ := Frame.mentionAll_reads (variableNames segments) []
  have hofNodes : Frame.ofNodes (fun _ => false) [] [.output (segments.map Segment.part)] =
      .around all := by
    rw [← hframe, ← mentionsOfParts_segments]
    rfl
  have hvariables : ∀ name ∈ all, IsVariable name := by
    intro name hname
    obtain hname | hname := (hall name).1 hname
    · cases hname
    · exact isVariable_of_mem hname
  obtain ⟨s', henter, hs'⟩ := enter_around (p := p) [] h hvariables
    [("self", some (.blocks []))]
  rw [hframes] at henter hs'
  have houtput : ∀ p, runOutput (evaluate ⟨.ofEntries (.ofTexts scope), []⟩ (nesting - 2 + 1))
      ⟨0, [], true, "", false⟩ (segments.map Segment.part) p s' =
        (.ok ((segments.map fun g => (g.filled scope).toList).map Datum.chars), s') := by
    intro p
    rw [List.map_map]
    have hframe : s'.frames[0]? =
        some ⟨none, all.map fun name => (name, known? scope name), []⟩ := by
      rw [hs']
      rfl
    exact runOutput_segments _ _ rfl hframe fun name hname => (hall name).2 (.inr hname)
  rw [runChecked, hsettle]
  show ((if (Scope.ofEntries (.ofTexts scope)).textual then runNodes _ _ else _) p s).1 = _
  rw [if_pos (textual_ofTexts scope), runNodes]
  dsimp only
  rw [undeclared_segments, hofNodes, Eval.bind_of_ok henter]
  show ((evaluate _ (nesting - 2 + 1 + 1)).text ⟨0, [], true, "", false⟩ _ p s').1 = _
  rw [text_output houtput]
  rfl

/-! ### Templates of segments -/

theorem notMem_spelling (segments : List Segment) : '\r' ∉ spelling segments := by
  intro h
  obtain ⟨g, -, hg⟩ := List.mem_flatMap.1 h
  cases g with
  | text s braceless feeds => exact feeds hg
  | value name hname =>
    have hletter : '\r' ∈ name.toList := by simpa [Segment.written] using hg
    exact absurd (hname.letters '\r' hletter) (by decide)

/-- A template of segments without marks has no variables. -/
theorem shown_of_plain {segments : List Segment} (h : Plain (spelling segments)) :
    shown scope segments = spelling segments := by
  induction segments with
  | nil => rfl
  | cons g more ih =>
    rw [spelling, List.flatMap_cons] at h
    rw [shown_cons, ih (.of_append _ h)]
    cases g with
    | text s _ _ => rfl
    | value name _ =>
      rw [Segment.written, String.toList_append, String.toList_append] at h
      exact absurd (show true = false from h.1) (by decide)

theorem toList_join_map (f : Segment → String) (segments : List Segment) :
    (String.join (segments.map f)).toList = segments.flatMap fun g => (f g).toList := by
  simp [List.flatMap, Function.comp_def]

/-- **Running a template of segments** shows them. -/
theorem run_segments (segments : List Segment) (scope : List (String × String))
    (current : List (Nat × Value)) (next : Nat) :
    (run (String.join (segments.map Segment.written)) (.ofEntries (.ofTexts scope)) current
      next).result = .ok (String.join (segments.map (Segment.filled scope))) := by
  -- The scanner may find other segments, with texts taken together, but they show the same.
  have hscan : ∃ found : List Segment,
      (scan (String.join (segments.map Segment.written))).Spells found ∧
      ∀ scope, shown scope found = shown scope segments := by
    have hlines : normalizeLines (String.join (segments.map Segment.written)).toList =
        "".toList ++ spelling segments := by
      rw [toList_join_map]
      exact normalizeLines_of_notMem (notMem_spelling segments)
    rw [scan, hlines]
    exact spells_scanText segments _ 1 "" List.not_mem_nil List.not_mem_nil (Nat.lt_succ_self _)
  obtain ⟨found, hspells, hshown⟩ := hscan
  have hstore : (Store.empty current next).Untouched scope := ⟨rfl, fun _ _ h => by cases h⟩
  have htext : String.ofList (shown scope found) =
      String.join (segments.map (Segment.filled scope)) := by
    rw [hshown scope, ← String.toList_inj, String.toList_ofList, toList_join_map]
    rfl
  rw [run_result, ending, nodesOf, Reader.read_of_spells hspells, ← htext]
  cases found with
  | nil =>
    exact (runChecked_texts (.ofEntries (.ofTexts scope)) [] _ _).trans
      (if_pos (textual_ofTexts scope))
  | cons g more =>
    rw [Reader.outputOf_reverse (by simp)]
    exact runChecked_segments (g :: more) hstore rfl

end Template

namespace Rendering

open Template

/-- **Plain variables are put in as they are.** A template that puts texts and variables together
gives the texts, and for each variable the text that it has, or nothing if it has none. -/
theorem result_ofText_segments (segments : List Segment) (scope : List (String × String)) :
    (ofText (String.join (segments.map Segment.written))).result (.ofTexts scope) =
      .ok (String.join (segments.map (Segment.filled scope))) := by
  have hlist : (String.join (segments.map (Segment.filled scope))).toList = shown scope segments :=
    toList_join_map _ segments
  cases hplain : isPlain (String.join (segments.map Segment.written)) with
  | true =>
    -- the text is passed over, and there is nothing in it that would have to be put in
    have hspelling := plain_iff.1 hplain
    rw [toList_join_map] at hspelling
    rw [result, runIn_ofText_of_isPlain hplain]
    refine congrArg Except.ok (String.toList_inj.1 ?_)
    rw [hlist, toList_join_map, shown_of_plain hspelling]
    rfl
  | false =>
    rw [result, runIn_ofText_of_not_isPlain hplain, runOf]
    show Except.mapError _ (run _ (.ofEntries (.ofTexts scope)) _ _).result = _
    rw [run_segments]
    rfl

end Rendering

end Playbook
