import Playbook.Proofs.Mappings
import Playbook.Proofs.Rendering.Values

/-!
# Templates that leave everything as it is

A template can change the values that it finds around it, but only by what it calls, by setting
fields, or by streams, which call what they were made of. A template that does none of this leaves
the names as they are, and so does a rendering all of whose templates are such.

* `Template.isInert` — whether a template does none of this.
* `Template.traces_of_isInert` — what a run of an inert template leaves behind are the values that
  the names had before. What has been taken over is as it was (`Template.ends_ending`), and what
  holds a value is given back as this value (`Template.Holds.give`).
* `Rendering.Leaves` — a rendering leaves its surroundings as they are.
* `Rendering.leaves_ofEntries` — **rendering arguments all of whose templates are inert** leaves
  the surroundings as they are, if nothing in them bears a mark.

Values with marks are left out: what bears a mark is given back with it, and noted as what has
become of this mark even if nothing has.
-/

namespace Playbook

/-! ### Inert templates -/

namespace Template

open Eval

/-- Whether a template is inert: it sets no fields, and it calls nothing and makes no streams, since
of these it could not be said what they fail with. A text that is passed over does nothing, and
neither does a template that cannot be read. -/
def isInert (template : String) : Bool :=
  isPlain template ||
    match settledOf template with
    | .ok t => !FailureKind.all.all t.faultKinds.contains && t.fields.isEmpty
    | .error _ => true

-- Attributes, operators, loops and most filters are inert; calling and setting fields are not.
example :
    isInert "\x7b% for x in d.l %\x7d\x7b\x7b x | default(1) \x7d\x7d\x7b% endfor %\x7d" = true ∧
      isInert "\x7b\x7b d.l.append(1) \x7d\x7d" = false ∧
      isInert "\x7b% set d.x %\x7d1\x7b% endset %\x7d" = false := by
  decide +kernel

variable {template : String} {scope : Scope}

/-- An inert template that is not passed over leaves what it finds as it is. -/
theorem intact_of_isInert (h : isInert template = true) (hplain : isPlain template = false)
    (hscope : ∀ name v, scope.find name = some v → v.endMark = 0) (next : Nat) :
    (ending template scope [] next).2.Intact scope := by
  rw [isInert, hplain, Bool.false_or] at h
  -- The names have the values that the store takes over, and these bear no marks.
  have hsuits : scope.Suits (some scope) := by
    intro scope' hscope'
    cases hscope'
    exact ⟨rfl, hscope⟩
  -- A template that cannot be read fails before it takes anything over.
  cases hsettled : settledOf template with
  | error f =>
    rw [ending_of_error hsettled]
    have hadmits : (Store.empty [] next).Admits ⟨[], some scope⟩ :=
      Store.admits_empty (.inr rfl) next
    exact hadmits.intact scope rfl (by simp [FailureKind.all])
  | ok t =>
    rw [hsettled] at h
    obtain ⟨hkinds, hfields⟩ : ¬ FailureKind.all ⊆ t.faultKinds ∧ t.fields = [] := by
      simpa [List.subset_def] using h
    have hends := ends_ending hsettled hsuits (.inr hfields) (.inr rfl) next
    exact Store.Admits.intact hends.store scope rfl hkinds

/-- What a run leaves behind is read off the store that it leaves. -/
theorem run_traces (template : String) (scope : Scope) (current : List (Nat × Value))
    (next : Nat) :
    (run template scope current next).traces =
      match (tracesAfter (fun _ => throw tooDeep) (ending template scope current next).2).1 with
      | .ok traces => traces
      | .error _ => ⟨[], current⟩ := by
  unfold run ending
  dsimp only
  -- A run is its ending and the traces that are read off it.
  split
  rename_i result store hrun
  rw [hrun]
  split
  · rename_i traces htraces
    rw [htraces]
  · rename_i e htraces
    rw [htraces]

/-- **What has been taken over and is as it was** is given back as the names had it. -/
theorem Store.Intact.tracesAfter {s : Store} (h : s.Intact scope) (p : Puller) :
    Gives p s tracesAfter
      ⟨s.named.map fun e => (e.1, (scope.find e.1).getD .null), []⟩ := by
  obtain ⟨-, hheld, hmarked, hcurrent⟩ := h
  -- The values of the names stand in a row, and beside them stands what has become of marks, which
  -- is nothing.
  have hparts := Holds.row hheld (.row (.nil (Nat.le_refl _)) (.nil (Nat.le_refl _)))
  have hgive := (Holds.row hparts (.nil (Nat.le_refl _))).give (p := p) hmarked
  refine (Gives.of_ok (a := s) rfl).bind ?_
  rw [hmarked, hcurrent]
  refine hgive.bind ?_
  show Gives p s (pure (Traces.mk ((s.named.map (·.1)).zip (s.named.map fun e =>
    (scope.find e.1).getD .null)) [])) _
  rw [List.zip_map']
  exact .pure _

/-- **What an inert template leaves behind:** every name that it has looked up has the value that it
had, and nothing has become something else. -/
theorem traces_of_isInert (h : isInert template = true) (hplain : isPlain template = false)
    (hscope : ∀ name v, scope.find name = some v → v.endMark = 0) (next : Nat) :
    (run template scope [] next).traces.current = [] ∧
      ∀ e ∈ (run template scope [] next).traces.named, scope.find e.1 = some e.2 := by
  have hintact := intact_of_isInert h hplain hscope next
  rw [run_traces]
  -- Giving back may fail, as for a value that is nested too deeply. Then no traces are left.
  obtain htraces | ⟨e, htraces⟩ := hintact.tracesAfter fun _ => throw tooDeep
  · rw [htraces]
    refine ⟨rfl, fun e he => ?_⟩
    obtain ⟨d, hd, rfl⟩ := List.mem_map.1 he
    obtain ⟨v, hv⟩ := Option.isSome_iff_exists.1 (hintact.found d hd)
    rw [hv]
    rfl
  · rw [htraces]
    exact ⟨rfl, fun e he => nomatch he⟩

end Template

/-! ### Renderings that leave their surroundings as they are -/

namespace Surroundings

variable {s : Surroundings}

/-- Nothing is renamed by the values that the names have. -/
theorem renamed_of_found {es : Entries} {named : List (String × Value)}
    (h : ∀ e ∈ named, es.find? (.str e.1) = some e.2) : renamed es named = es := by
  induction named with
  | nil => rfl
  | cons e rest ih =>
    obtain ⟨he, hrest⟩ := List.forall_mem_cons.1 h
    -- To put the value that is there in its place changes nothing.
    have hsame : (if (es.find? (.str e.1)).isSome then es.insert (.str e.1) e.2 else es) = es := by
      rw [he, Option.isSome_some, if_pos rfl, Entries.insert_of_find? he]
    show renamed (if (es.find? (.str e.1)).isSome then es.insert (.str e.1) e.2 else es) rest = es
    rw [hsame]
    exact ih hrest

/-- A run that leaves behind what has been there leaves its surroundings as they are. -/
theorem after_of_found {traces : Template.Traces} (hchanges : s.changes = [])
    (hnames : s.names.endMark = 0) (hcurrent : traces.current = [])
    (hnamed : ∀ e ∈ traces.named, s.names.find? (.str e.1) = some e.2) : s.after traces = s := by
  obtain ⟨names, changes, next⟩ := s
  dsimp only at hchanges hnames hnamed
  rw [after, renamed_of_found hnamed, hcurrent, hchanges, hnames]
  exact congrArg (Surroundings.mk names []) (Nat.max_zero next)

end Surroundings

namespace Rendering

variable {α : Type} {s : Surroundings} {x : Rendering α}

/-- **A rendering leaves its surroundings as they are,** whether it fails or not. -/
def Leaves (s : Surroundings) (x : Rendering α) : Prop := (x.runIn s).2 = s

/-- To leave everything as it is is to keep it true that it is as it was. -/
theorem leaves_iff : Leaves s x ↔ Ensures (· = s) (fun _ => True) x := by
  constructor
  · rintro h _ rfl
    exact ⟨h, trivial⟩
  · exact fun h => (h s rfl).1

variable (hchanges : s.changes = []) (hnames : s.names.endMark = 0)
include hchanges hnames

/-- **An inert text** leaves its surroundings as they are. -/
theorem leaves_ofText {t : String} (h : Template.isInert t = true) : Leaves s (ofText t) := by
  unfold ofText
  split
  · rfl
  · rename_i hplain
    -- No value of a name bears a mark, as all of them together have none.
    have hscope : ∀ name v, (Template.Scope.ofEntries s.names).find name = some v →
        v.endMark = 0 := fun name v hv => Entries.endMark_of_find? hnames hv
    have htraces := Template.traces_of_isInert h (eq_false_of_ne_true hplain) hscope s.next
    rw [Leaves, runIn_ofTemplate]
    unfold runOf
    rw [hchanges]
    exact Surroundings.after_of_found hchanges hnames htraces.1 htraces.2

/-- **Arguments all of whose texts are inert** leave their surroundings as they are. -/
theorem leaves_ofEntries {es : Entries} (h : ∀ t ∈ es.texts, Template.isInert t = true) :
    Leaves s (ofEntries es) := by
  -- What the values become is of no concern.
  have hpost : Account fun _ _ _ => True := ⟨fun _ => trivial, fun _ => trivial, fun _ => trivial,
    fun _ => trivial, fun _ => trivial⟩
  have htexts : ∀ t ∈ es.texts, ∀ _ : Nat, Ensures (· = s) (fun _ => True) (ofText t) :=
    fun t ht _ => leaves_iff.1 (leaves_ofText hchanges hnames (h t ht))
  have hmarks : ∀ m ∈ Value.walkedMarksOfEntries es, ∀ s', s' = s → s'.changes.lookup m = none := by
    rintro m - _ rfl
    rw [hchanges]
    rfl
  exact leaves_iff.2 ((ensures_ofEntries hpost htexts hmarks).mono fun _ _ => trivial)

end Rendering

end Playbook
