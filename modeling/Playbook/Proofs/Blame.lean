import Playbook.Proofs.Reasons
import Playbook.Yaml.Document

/-!
# What documents are to blame for

Reading a document ends with a value, or with a problem that has a place in the document, or with a
failure: the conversion of a number or of a scalar that was taken to be possible and is not. Here
every failure is traced to what it is due to.

* `Yaml.ScalarType.ofKind_read` — how the conversion of a scalar can fail, type by type.
* `Yaml.Unconvertible` — in the words of a source, an escape by number for no character and a
  version that is no number. No other word fails (`Yaml.unconvertible_of_tokensFrom`).
* `Yaml.Build.ReadsGrammar` — the grammar adds no failure to the one that ended the tokens
  (`Yaml.Graph.fault_of_ofTokens`).
* `Yaml.Graph.Blames` — in the nodes of a graph, a scalar whose text is none of the type that its
  tag asks for, and a mapping in the place of a scalar. Nothing else in a graph fails
  (`Yaml.Graph.blames_of_value`).

Finding values changes the nodes while it merges mappings. What it leaves of each node
(`Yaml.Node.Becomes`) is the invariant by which a failure is traced back to the graph as it was
read.
-/

namespace Playbook

/-! ### Conversions -/

theorem Numeral.ofKind_int (base : Nat) (s : String) :
    FailsBy (Failure.OfKind [.value]) (Numeral.int base s) := by
  rw [Numeral.int, Numeral.intOf]
  split
  split
  · exact .kind _
  · exact .ite (.kind _) (.ok _)

theorem Numeral.ofKind_float (s : String) :
    FailsBy (Failure.OfKind [.value]) (Numeral.float s) := by
  rw [Numeral.float]
  split
  · exact .ok _
  · exact .kind _

theorem Date.ofKind_make (year month day : Nat) :
    FailsBy (Failure.OfKind [.value]) (Date.make year month day) :=
  .ite (.kind _) (.ite (.kind _) (.ite (.kind _) (.ok _)))

theorem DateTime.ofKind_make (year month day hour minute second micro : Nat) (offset : Option Int) :
    FailsBy (Failure.OfKind [.value])
      (DateTime.make year month day hour minute second micro offset) :=
  (Date.ofKind_make year month day).bind fun _ =>
    .ite (.kind _) (.ite (.kind _) (.ite (.kind _) (.ite (.kind _) (.ok _))))

theorem DateTime.ofKind_checkOffset (seconds : Int) :
    FailsBy (Failure.OfKind [.value]) (DateTime.checkOffset seconds) :=
  .ite (.ok _) (.kind _)

namespace Yaml.ScalarType

/-- How the conversion of a text to a type can fail. -/
def faultKinds : ScalarType → List FailureKind
  | .null | .binary | .str => []
  | .bool => [.key]
  | .int => [.index, .value]
  | .float => [.index, .value, .overflow]
  | .timestamp => [.attribute, .value]

theorem ofKind_readBool (text : String) : FailsBy (Failure.OfKind [.key]) (readBool text) :=
  .ite (.ok _) (.ite (.ok _) (.kind _))

theorem ofKind_readInt (text : String) :
    FailsBy (Failure.OfKind [.index, .value]) (readInt text) := by
  have hbase : ∀ b cs, FailsBy (Failure.OfKind [.index, .value])
      (Numeral.int b (String.ofList cs)) :=
    fun b cs => (Numeral.ofKind_int b _).weaken fun f hf => List.mem_cons_of_mem _ hf
  -- However the digits are read, the sign comes last and cannot fail.
  rw [readInt]
  extract_lets cs base signed
  clear_value cs
  have hsigned : ∀ n, FailsBy (Failure.OfKind [.index, .value]) (signed n) := fun n => .ok _
  refine .ite (.error List.mem_cons_self) ?_
  dsimp only
  split
  · exact .error List.mem_cons_self
  · exact hsigned 0
  · exact (hbase 2 _).bind hsigned
  · exact (hbase 16 _).bind hsigned
  · exact (hbase 8 _).bind hsigned
  · split
    · exact (FailsBy.mapM fun part _ => hbase 10 part).bind fun parts => hsigned _
    · exact (hbase 10 _).bind hsigned

theorem ofKind_sumSixties (weight : Nat) (sum : Binary64) (parts : List Binary64) :
    FailsBy (Failure.OfKind [.overflow]) (sumSixties weight sum parts) := by
  induction parts generalizing weight sum with
  | nil => exact .ok _
  | cons part rest ih =>
    rw [sumSixties]
    exact .ite (.kind _) (ih _ _)

theorem ofKind_readFloat (text : String) :
    FailsBy (Failure.OfKind [.index, .value, .overflow]) (readFloat text) := by
  have hfloat : ∀ s, FailsBy (Failure.OfKind [.index, .value, .overflow]) (Numeral.float s) :=
    fun s => (Numeral.ofKind_float s).weaken fun f hf => by
      rw [Failure.OfKind, List.mem_singleton.1 hf]
      decide
  have hsum : ∀ parts, FailsBy (Failure.OfKind [.index, .value, .overflow])
      (sumSixties 1 Binary64.zero parts) :=
    fun parts => (ofKind_sumSixties _ _ _).weaken fun f hf => by
      rw [Failure.OfKind, List.mem_singleton.1 hf]
      decide
  rw [readFloat]
  extract_lets cs signed
  clear_value cs
  refine .ite (.error List.mem_cons_self) ?_
  dsimp only
  split
  · exact .ok _
  · exact .ok _
  · split
    · refine (FailsBy.mapM fun part _ => hfloat _).bind fun parts => ?_
      exact (hsum _).bind fun x => .ok _
    · exact (hfloat _).bind fun x => .ok _

theorem ofKind_timeOn (year month day : List Char) (t : Schema.TimeParts) :
    FailsBy (Failure.OfKind [.value]) (timeOn year month day t) := by
  have htime : ∀ offset, FailsBy (Failure.OfKind [.value]) (do
      let time ← DateTime.make (natural year) (natural month) (natural day) (natural t.hour)
        (natural t.minute) (natural t.second) (microseconds t.fraction) offset
      return Scalar.datetime 0 time) :=
    fun offset => (DateTime.ofKind_make _ _ _ _ _ _ _ _).bind fun _ => .ok _
  rw [timeOn]
  split
  · exact htime none
  · exact (DateTime.ofKind_checkOffset _).map.bind htime

theorem ofKind_timestamp? {cs : List Char} {r : Except Failure Scalar}
    (h : timestamp? cs = some r) : FailsBy (Failure.OfKind [.value]) r := by
  rw [timestamp?, Option.bind_eq_bind, Option.bind_eq_some_iff] at h
  obtain ⟨⟨⟨year, month, day⟩, rest⟩, _, h⟩ := h
  dsimp only at h
  split at h
  · cases h
    exact (Date.ofKind_make _ _ _).map
  · rw [Option.bind_eq_bind, Option.bind_eq_some_iff] at h
    obtain ⟨t, _, h⟩ := h
    cases h
    exact ofKind_timeOn year month day t

theorem ofKind_readTimestamp (text : String) :
    FailsBy (Failure.OfKind [.attribute, .value]) (readTimestamp text) := by
  have hvalue : ∀ {cs r}, timestamp? cs = some r →
      FailsBy (Failure.OfKind [.attribute, .value]) r :=
    fun h => (ofKind_timestamp? h).weaken fun f hf => List.mem_cons_of_mem _ hf
  rw [readTimestamp]
  split
  · next r h => exact hvalue h
  · cases h : timestamp? (Schema.dropLineEnd text.toList) with
    | some r => exact hvalue h
    | none => exact .error List.mem_cons_self

/-- **How conversions fail.** A text that is none of a type fails in one of the ways of the type,
or it is base 64 that cannot be read. -/
theorem ofKind_read (type : ScalarType) (text : String) :
    FailsBy (fun | .failure f => f.OfKind type.faultKinds | .binary _ => type = .binary)
      (type.read text) := by
  cases type with
  | null => exact .ok _
  | str => exact .ok _
  | bool => exact (ofKind_readBool text).mapError fun f hf => hf
  | int => exact (ofKind_readInt text).mapError fun f hf => hf
  | float => exact (ofKind_readFloat text).mapError fun f hf => hf
  | timestamp => exact (ofKind_readTimestamp text).mapError fun f hf => hf
  | binary =>
    rw [read, readBinary]
    split
    · exact .error rfl
    · split
      · exact .ok _
      · exact .error rfl

end Yaml.ScalarType

namespace Yaml

/-! ### Words -/

/-- **What cannot be converted in the words of a source:** an escape by number for a character
beyond the last one, or a number in the version of the language. -/
inductive Unconvertible : Failure → Prop
  /-- There is no such character. -/
  | character {code : Nat} (h : 0x110000 ≤ code) : Unconvertible (noCharacter code)
  /-- There is no such number. -/
  | version {digits : String} {f : Failure} (h : Numeral.int 10 digits = .error f) :
      Unconvertible f

/-- Problems are admitted, and failures of what cannot be converted. -/
def ScalarFault.Admitted : ScalarFault → Prop
  | .trouble _ => True
  | .failure f => Unconvertible f

/-- A reader fails for a problem or for something that cannot be converted. -/
abbrev Scans {α : Type} (x : Except ScalarFault α) : Prop := FailsBy ScalarFault.Admitted x

theorem scans_lift {α : Type} (x : Except Trouble α) : Scans (lift x) := by
  cases x with
  | ok a => exact .ok a
  | error t => exact .error trivial

theorem scans_trouble {α : Type} (t : Trouble) :
    Scans (.error (.trouble t) : Except ScalarFault α) := .error trivial

/-! #### Escapes and versions -/

theorem scans_readEscape (began : Mark) (c : Cursor) : Scans (readEscape began c) := by
  rw [readEscape]
  dsimp only
  split
  · exact .ok _
  · split
    · exact scans_trouble _
    · split
      · next hcode =>
        exact .error (.character hcode)
      · exact .ok _
  · split
    · split
      · exact .ok _
      · exact scans_trouble _
    · exact scans_trouble _

theorem scans_readQuotedFrom (double : Bool) (began : Mark) (fuel : Nat) (c : Cursor) :
    Scans (readQuotedFrom double began fuel c) := by
  induction fuel generalizing c with
  | zero => exact .ok _
  | succ fuel ih =>
    -- A character is taken and the rest is read, but for an escape and for the ends of lines.
    rw [readQuotedFrom]
    -- which quote ends the scalar does not matter here
    generalize (if double = true then '"' else '\'') = quote
    split
    · exact (ih _).bind fun _ => .ok _
    · split
      · exact (ih _).bind fun _ => .ok _
      · split
        · exact .ok _
        · split
          · exact (ih _).bind fun _ => .ok _
          · split
            · exact (scans_readEscape _ _).bind fun _ => (ih _).bind fun _ => .ok _
            · split
              · exact scans_trouble _
              · exact (ih _).bind fun _ => .ok _

theorem scans_readQuoted (c : Cursor) : Scans (readQuoted c) :=
  (scans_readQuotedFrom _ _ _ _).bind fun _ => .ok _

theorem scans_readNumber (began : Mark) (c : Cursor) : Scans (readNumber began c) := by
  rw [readNumber]
  split
  · exact scans_lift _
  · split
    · exact .ok _
    · next f hint => exact .error (.version hint)

theorem scans_readVersion (began : Mark) (c : Cursor) : Scans (readVersion began c) := by
  rw [readVersion]
  refine (scans_readNumber _ _).bind ?_
  rintro ⟨major, c⟩
  dsimp only
  split
  · exact scans_lift _
  · refine (scans_readNumber _ _).bind ?_
    rintro ⟨minor, c⟩
    dsimp only
    split
    · exact scans_lift _
    · exact .ok _

theorem scans_readDirective (c : Cursor) : Scans (readDirective c) := by
  rw [readDirective]
  extract_lets rest
  have hrest : ∀ r, Scans (rest r) := fun r => (scans_lift _).bind fun _ => .ok _
  split
  · exact scans_lift _
  · split
    · exact (scans_readVersion _ _).bind hrest
    · split
      · exact (scans_lift _).bind hrest
      · exact (FailsBy.ok _ : Scans _).bind hrest

/-! #### The stream -/

namespace Lexer

theorem scans_fetchWord (l : Lexer) {read : Cursor → Except ScalarFault (Token × Cursor)}
    (h : ∀ c, Scans (read c)) : Scans (l.fetchWord read) := by
  rw [fetchWord]
  split
  · exact scans_trouble _
  · exact (h _).bind fun _ => .ok _

theorem scans_fetchDirective (l : Lexer) : Scans l.fetchDirective :=
  (scans_lift _).bind fun _ => (scans_readDirective _).bind fun _ => .ok _

theorem scans_fetchHere (l : Lexer) : Scans l.fetchHere := by
  rw [fetchHere]
  -- most words know no failure; those that do are directives and quoted scalars
  repeat' apply FailsBy.ite
  all_goals first
    | exact scans_lift _
    | exact scans_trouble _
    | exact scans_fetchDirective l
    | exact scans_fetchWord l fun _ => scans_lift _
    | exact scans_fetchWord l scans_readQuoted

theorem scans_fetch (l : Lexer) : Scans l.fetch := by
  delta fetch
  exact (scans_lift _).bind fun _ => scans_fetchHere _

end Lexer

/-- **The tokens of a source** end before their time for a problem or for something that cannot be
converted. -/
theorem unconvertible_of_tokensFrom {fuel : Nat} {l : Lexer} {f : Failure}
    (h : (tokensFrom fuel l).fault = some (.failure f)) : Unconvertible f := by
  have hfetch : ∀ {l : Lexer} {e : ScalarFault}, l.fetch = .error e →
      some e = some (.failure f) → Unconvertible f := by
    rintro l e he he'
    obtain rfl := Option.some.inj he'
    exact l.scans_fetch _ he
  induction fuel generalizing l with
  | zero => cases h
  | succ fuel ih =>
    rw [tokensFrom] at h
    split at h
    · cases h
    · split at h
      · split at h
        · exact ih h
        · next e he => exact hfetch he h
      · split at h
        · cases Option.some.inj h
        · split at h
          · split at h
            · exact ih h
            · next e he => exact hfetch he h
          · exact ih h

/-! ### The grammar -/

namespace Build

/-- The tokens of a builder ended as they do from the start. -/
def Ended (fault : Option ScalarFault) (b : Builder) : Prop := b.fault = fault

/-- Problems are admitted, and the failure that ended the tokens. -/
def Admits (fault : Option ScalarFault) : Fault → Prop
  | .trouble .. => True
  | .failure f => fault = some (.failure f)

variable {fault : Option ScalarFault} {α : Type} {post : α → Prop}

/-- A computation that builds nodes, and that fails with no failure but the one that ended the
tokens. -/
abbrev Reads (fault : Option ScalarFault) {α : Type} (x : Build α) : Prop :=
  Sound (Ended fault) (Admits fault) (fun _ => True) x

theorem reads_wrong (t : Trouble) : Reads fault (wrong t : Build α) := .throw trivial

theorem reads_peek : Reads fault peek := by
  rw [peek]
  refine Sound.get.bind fun b hb => ?_
  split
  · exact .pure trivial
  · next f _ hf =>
    refine .throw ?_
    have hfault : fault = some f := hb.symm.trans hf
    cases f with
    | trouble t => trivial
    | failure f => exact hfault
  · exact .pure trivial

theorem reads_take : Reads fault take := by
  rw [take]
  refine reads_peek.andThen fun t => ?_
  have hnext : Reads fault (modify fun b => { b with tokens := b.tokens.tail }) :=
    .modify fun _ hb => hb
  exact hnext.andThen fun _ => .pure trivial

theorem reads_add (n : Node) : Reads fault (add n) := by
  rw [add]
  refine Sound.get.bind fun b hb => ?_
  have hset : Reads fault (set { b with nodes := b.nodes.push n }) := .set hb
  exact hset.andThen fun _ => .pure trivial

theorem reads_fill (id : NodeId) (content : Content) : Reads fault (fill id content) :=
  .modify fun _ hb => hb

theorem reads_name (anchor : Option String) (id : NodeId) : Reads fault (name anchor id) := by
  cases anchor with
  | none => exact .pure trivial
  | some a => exact .modify fun _ hb => hb

theorem reads_addEmpty (m : Mark) : Reads fault (addEmpty m) := reads_add _

theorem reads_takeAnchor : Reads fault takeAnchor := by
  rw [takeAnchor]
  refine reads_peek.andThen fun t => ?_
  split
  · exact reads_take.andThen fun _ => .pure trivial
  · exact .pure trivial

theorem reads_takeTag : Reads fault takeTag := by
  rw [takeTag]
  refine reads_peek.andThen fun t => ?_
  split
  · exact reads_take.andThen fun _ => .pure trivial
  · exact .pure trivial

theorem reads_takeProperties : Reads fault takeProperties := by
  rw [takeProperties]
  -- An anchor may come before the tag or behind it.
  refine reads_takeAnchor.andThen fun anchor => reads_takeTag.andThen fun tag => ?_
  extract_lets rest
  have hrest : ∀ anchor, Reads fault (rest anchor) := by
    intro anchor
    dsimp only [rest]
    split
    · exact .pure trivial
    · exact .pure trivial
    · refine Sound.get.andThen fun b => ?_
      split
      · exact .pure trivial
      · exact (reads_wrong _).andThen fun _ => .pure trivial
  split
  · exact reads_takeAnchor.andThen fun a => hrest _
  · exact hrest _

theorem reads_checkAnchor (anchor : Option String) (start : Mark) :
    Reads fault (checkAnchor anchor start) := by
  cases anchor with
  | none => exact .pure trivial
  | some a =>
    refine Sound.get.andThen fun b => ?_
    split
    · exact .pure trivial
    · exact .throw trivial

theorem reads_addCollection (p : Properties) (type : String) (content : Content) (start : Mark) :
    Reads fault (addCollection p type content start) := by
  rw [addCollection]
  refine (reads_checkAnchor _ _).andThen fun _ => (reads_add _).andThen fun id => ?_
  exact (reads_name _ id).andThen fun _ => .pure trivial

/-- A leaf: a scalar that is added under its name. -/
theorem reads_leaf (p : Properties) (start : Mark) (n : Node) :
    Reads fault (do
      checkAnchor p.anchor start
      let id ← add n
      name p.anchor id
      return id) :=
  (reads_checkAnchor _ _).andThen fun _ => (reads_add _).andThen fun id =>
    (reads_name _ id).andThen fun _ => .pure trivial

/-- A collection: it is added, its first token is taken, and its parts are read and filled in. -/
theorem reads_collection {β : Type} {parts : Build β} (h : Reads fault parts) (p : Properties)
    (type : String) (content : Content) (start : Mark) (f : β → Content) :
    Reads fault (do
      let id ← addCollection p type content start
      let _ ← take
      let x ← parts
      fill id (f x)
      return id) :=
  (reads_addCollection _ _ _ _).andThen fun id => reads_take.andThen fun _ =>
    h.andThen fun x => (reads_fill id (f x)).andThen fun _ => .pure trivial

/-- **The grammar reads soundly** as far as a bound on its recursion goes. -/
structure ReadsGrammar (fault : Option ScalarFault) (fuel : Nat) : Prop where
  /-- Nodes. -/
  node : ∀ place, Reads fault (node fuel place)
  /-- Items of a block. -/
  blockItems : ∀ began, Reads fault (blockItems fuel began)
  /-- Items that are not indented. -/
  indentlessItems : Reads fault (indentlessItems fuel)
  /-- Pairs of a block. -/
  blockPairs : ∀ began, Reads fault (blockPairs fuel began)
  /-- Items between brackets. -/
  flowItems : ∀ began first, Reads fault (flowItems fuel began first)
  /-- Pairs between braces. -/
  flowPairs : ∀ began first, Reads fault (flowPairs fuel began first)

namespace ReadsGrammar

variable {fuel : Nat}

theorem node_succ (h : ReadsGrammar fault fuel) (place : Place) :
    Reads fault (Build.node (fuel + 1) place) := by
  rw [Build.node]
  refine reads_peek.andThen fun t => ?_
  split
  · refine reads_take.andThen fun _ => Sound.get.andThen fun b => ?_
    split
    · exact .pure trivial
    · exact .throw trivial
  · refine reads_takeProperties.andThen fun p => reads_peek.andThen fun t => ?_
    dsimp only
    split
    · refine (reads_addCollection _ _ _ _).andThen fun id => ?_
      exact h.indentlessItems.andThen fun items => (reads_fill _ _).andThen fun _ => .pure trivial
    · exact reads_take.andThen fun _ => reads_leaf _ _ _
    · exact reads_collection (h.flowItems _ _) _ _ _ _ _
    · exact reads_collection (h.flowPairs _ _) _ _ _ _ _
    · exact reads_collection (h.blockItems _) _ _ _ _ _
    · exact reads_collection (h.blockItems _) _ _ _ _ _
    · exact reads_collection (h.blockPairs _) _ _ _ _ _
    · exact reads_collection (h.blockPairs _) _ _ _ _ _
    · split
      · exact reads_leaf _ _ _
      · exact reads_wrong _

theorem blockItems_succ (h : ReadsGrammar fault fuel) (began : Mark) :
    Reads fault (Build.blockItems (fuel + 1) began) := by
  rw [Build.blockItems]
  refine reads_peek.andThen fun t => ?_
  split
  · refine reads_take.andThen fun _ => reads_peek.andThen fun next => ?_
    have hrest : ∀ item, Reads fault (do return item :: (← Build.blockItems fuel began)) :=
      fun item => (h.blockItems began).andThen fun _ => .pure trivial
    split
    · exact (reads_addEmpty _).andThen hrest
    · exact (reads_addEmpty _).andThen hrest
    · exact (h.node _).andThen hrest
  · exact reads_take.andThen fun _ => .pure trivial
  · exact reads_wrong _

theorem indentlessItems_succ (h : ReadsGrammar fault fuel) :
    Reads fault (Build.indentlessItems (fuel + 1)) := by
  rw [Build.indentlessItems]
  refine reads_peek.andThen fun t => ?_
  split
  · refine reads_take.andThen fun _ => reads_peek.andThen fun next => ?_
    have hrest : ∀ item, Reads fault (do return item :: (← Build.indentlessItems fuel)) :=
      fun item => h.indentlessItems.andThen fun _ => .pure trivial
    dsimp only
    split
    · exact (reads_addEmpty _).andThen hrest
    · exact (h.node _).andThen hrest
  · exact .pure trivial

theorem blockPairs_succ (h : ReadsGrammar fault fuel) (began : Mark) :
    Reads fault (Build.blockPairs (fuel + 1) began) := by
  rw [Build.blockPairs]
  refine reads_peek.andThen fun t => ?_
  split
  · refine reads_take.andThen fun _ => reads_peek.andThen fun next => ?_
    extract_lets rest
    have hrest : ∀ key, Reads fault (rest key) := by
      intro key
      dsimp only [rest]
      refine reads_peek.andThen fun v => ?_
      have hmore : ∀ value, Reads fault
          (do return (key, value) :: (← Build.blockPairs fuel began)) :=
        fun value => (h.blockPairs began).andThen fun _ => .pure trivial
      split
      · refine reads_take.andThen fun _ => reads_peek.andThen fun next => ?_
        split
        · exact (reads_addEmpty _).andThen hmore
        · exact (h.node _).andThen hmore
      · exact (reads_addEmpty _).andThen hmore
    split
    · exact (reads_addEmpty _).andThen hrest
    · exact (h.node _).andThen hrest
  · exact reads_take.andThen fun _ => .pure trivial
  · exact reads_wrong _

theorem flowItems_succ (h : ReadsGrammar fault fuel) (began : Mark) (first : Bool) :
    Reads fault (Build.flowItems (fuel + 1) began first) := by
  rw [Build.flowItems]
  refine reads_peek.andThen fun t => ?_
  split
  · exact reads_take.andThen fun _ => .pure trivial
  · extract_lets items
    -- what comes after the comma, if one is due
    have hitems : ∀ r, Reads fault (items r) := by
      intro r
      have hrest : ∀ item, Reads fault (do return item :: (← Build.flowItems fuel began false)) :=
        fun item => (h.flowItems began false).andThen fun _ => .pure trivial
      dsimp -zeta only [items]
      refine reads_peek.andThen fun t => ?_
      split
      · refine (reads_add _).andThen fun id => reads_take.andThen fun _ => ?_
        refine reads_peek.andThen fun next => ?_
        -- an item may be a pair on its own, and is then a mapping of this pair
        extract_lets pair
        have hpair : ∀ key, Reads fault (pair key) := by
          intro key
          have hfill : ∀ value, Reads fault (do
              fill id (.mapping [(key, value)])
              return id :: (← Build.flowItems fuel began false)) :=
            fun value => (reads_fill _ _).andThen fun _ => hrest id
          dsimp only [pair]
          refine reads_peek.andThen fun v => ?_
          split
          · refine reads_take.andThen fun _ => reads_peek.andThen fun next => ?_
            split
            · exact (reads_addEmpty _).andThen hfill
            · exact (reads_addEmpty _).andThen hfill
            · exact (h.node _).andThen hfill
          · exact (reads_addEmpty _).andThen hfill
        split
        · exact (reads_addEmpty _).andThen hpair
        · exact (h.node _).andThen hpair
      · exact reads_take.andThen fun _ => .pure trivial
      · exact (h.node _).andThen hrest
    split
    · split
      · exact reads_take.andThen fun _ => hitems ()
      · exact (reads_wrong _).andThen hitems
    · exact hitems ()

theorem flowPairs_succ (h : ReadsGrammar fault fuel) (began : Mark) (first : Bool) :
    Reads fault (Build.flowPairs (fuel + 1) began first) := by
  rw [Build.flowPairs]
  refine reads_peek.andThen fun t => ?_
  split
  · exact reads_take.andThen fun _ => .pure trivial
  · extract_lets pair pairs
    have hrest : ∀ key value, Reads fault
        (do return (key, value) :: (← Build.flowPairs fuel began false)) :=
      fun key value => (h.flowPairs began false).andThen fun _ => .pure trivial
    have hpair : ∀ key, Reads fault (pair key) := by
      intro key
      dsimp only [pair]
      refine reads_peek.andThen fun v => ?_
      split
      · refine reads_take.andThen fun _ => reads_peek.andThen fun next => ?_
        split
        · exact (reads_addEmpty _).andThen (hrest key)
        · exact (reads_addEmpty _).andThen (hrest key)
        · exact (h.node _).andThen (hrest key)
      · exact (reads_addEmpty _).andThen (hrest key)
    -- what comes after the comma, if one is due
    have hpairs : ∀ r, Reads fault (pairs r) := by
      intro r
      dsimp only [pairs]
      refine reads_peek.andThen fun t => ?_
      split
      · refine reads_take.andThen fun _ => reads_peek.andThen fun next => ?_
        split
        · exact (reads_addEmpty _).andThen hpair
        · exact (h.node _).andThen hpair
      · exact reads_take.andThen fun _ => .pure trivial
      · refine (h.node _).andThen fun key => reads_peek.andThen fun t => ?_
        exact (reads_addEmpty _).andThen (hrest key)
    split
    · split
      · exact reads_take.andThen fun _ => hpairs ()
      · exact (reads_wrong _).andThen hpairs
    · exact hpairs ()

end ReadsGrammar

/-- **Reading nodes** fails for a problem or for what ended the tokens. -/
theorem readsGrammar (fuel : Nat) : ReadsGrammar fault fuel := by
  induction fuel with
  | zero =>
    refine ⟨fun place => ?_, fun began => ?_, ?_, fun began => ?_, fun began first => ?_,
      fun began first => ?_⟩
    · rw [node]
      exact .pure trivial
    · rw [blockItems]
      exact .pure trivial
    · rw [indentlessItems]
      exact .pure trivial
    · rw [blockPairs]
      exact .pure trivial
    · rw [flowItems]
      exact .pure trivial
    · rw [flowPairs]
      exact .pure trivial
  | succ fuel ih =>
    exact ⟨ih.node_succ, ih.blockItems_succ, ih.indentlessItems_succ, ih.blockPairs_succ,
      ih.flowItems_succ, ih.flowPairs_succ⟩

/-! #### Documents -/

theorem reads_directives (fuel : Nat) (versioned : Bool) (handles : List (String × String)) :
    Reads fault (directives fuel versioned handles) := by
  induction fuel generalizing versioned handles with
  | zero => exact .pure trivial
  | succ fuel ih =>
    rw [directives]
    refine reads_peek.andThen fun t => ?_
    split
    · refine reads_take.andThen fun _ => ?_
      split
      · split
        · exact reads_wrong _
        · split
          · exact reads_wrong _
          · exact ih _ _
      · split
        · exact reads_wrong _
        · exact ih _ _
      · exact ih _ _
    · exact .pure trivial

theorem reads_skipDocumentEnds (fuel : Nat) : Reads fault (skipDocumentEnds fuel) := by
  induction fuel with
  | zero => exact .pure trivial
  | succ fuel ih =>
    rw [skipDocumentEnds]
    refine reads_peek.andThen fun t => ?_
    split
    · exact reads_take.andThen fun _ => ih
    · exact .pure trivial

theorem reads_documentStart (fuel : Nat) : Reads fault (documentStart fuel) := by
  rw [documentStart]
  refine (reads_skipDocumentEnds fuel).andThen fun _ => reads_peek.andThen fun t => ?_
  split
  · exact .pure trivial
  · refine (reads_directives _ _ _).andThen fun handles => ?_
    dsimp only
    have hset : ∀ hs, Reads fault (modify fun b => { b with handles := hs }) :=
      fun hs => .modify fun _ hb => hb
    refine (hset _).andThen fun _ => reads_peek.andThen fun s => ?_
    split
    · exact reads_take.andThen fun _ => .pure trivial
    · exact reads_wrong _

theorem reads_singleDocument (fuel : Nat) : Reads fault (singleDocument fuel) := by
  rw [singleDocument]
  -- After the root, if there is one, there must be no second document.
  refine reads_take.andThen fun _ => reads_peek.andThen fun t => ?_
  extract_lets whole root
  have hwhole : ∀ root, Reads fault (whole root) := by
    intro root
    dsimp only [whole]
    split
    · exact .pure trivial
    · refine (reads_documentStart fuel).andThen fun second => ?_
      split
      · exact .pure trivial
      · exact Sound.get.andThen fun b => .throw trivial
  have hsome : ∀ {x : Build NodeId}, Reads fault x → Reads fault (do whole (← some <$> x)) := by
    intro x hx
    have hmap : Reads fault (some <$> x) := hx.map fun _ _ => trivial
    exact hmap.andThen hwhole
  have hroot : ∀ bare, Reads fault (root bare) := by
    intro bare
    dsimp only [root]
    split
    · have hset : Reads fault (modify fun b => { b with handles := coreHandles }) :=
        .modify fun _ hb => hb
      exact hset.andThen fun _ => hsome ((readsGrammar fuel).node _)
    · refine (reads_documentStart fuel).andThen fun first => ?_
      split
      · exact hwhole none
      · refine reads_peek.andThen fun t => ?_
        split
        · exact hsome (reads_addEmpty _)
        · exact hsome (reads_addEmpty _)
        · exact hsome (reads_addEmpty _)
        · exact hsome (reads_addEmpty _)
        · exact hsome ((readsGrammar fuel).node _)
  split
  · exact hroot false
  · exact hroot false
  · exact hroot false
  · exact hroot true

end Build

/-- **The graph of tokens** fails for a problem or for what ended the tokens. -/
theorem Graph.fault_of_ofTokens {ts : Tokens} {f : Failure}
    (h : Graph.ofTokens ts = .error (.failure f)) : ts.fault = some (.failure f) := by
  rw [Graph.ofTokens] at h
  split at h
  · cases h
  · next f' hrun' =>
    cases h
    have hrun := @Build.reads_singleDocument ts.fault (2 * ts.list.length + 8)
      ⟨ts.list, ts.fault, Build.coreHandles, [], #[]⟩ rfl
    rw [hrun'] at hrun
    exact hrun

/-! ### Nodes -/

/-- A node by its number. -/
def Graph.nodeAt (g : Graph) (id : NodeId) : Node := g.nodes.getD id default

/-- A node is a mapping. -/
def Node.IsMapping (n : Node) : Prop := ∃ pairs, n.content = .mapping pairs

/-- A node stands for a scalar of the type that its tag asks for. The key `=`, once it is met in a
mapping, stands for a text. -/
def Node.StandsFor (n : Node) (type : ScalarType) : Prop :=
  ScalarType.ofTag? n.tag = some type ∨ n.tag = Assemble.valueTag ∧ type = .str

/-- **What cannot be converted in a graph.** -/
inductive Graph.Blames (g : Graph) : Failure → Prop
  /-- A scalar has a text that is none of its type. -/
  | scalar {id : NodeId} {type : ScalarType} {text : String} {f : Failure}
      (hcontent : (g.nodeAt id).content = .scalar text) (htype : (g.nodeAt id).StandsFor type)
      (h : type.read text = .error (.failure f)) : Blames g f
  /-- A mapping stands for a scalar, and the text it finds for itself is none of its type. -/
  | mapping {id other : NodeId} {type : ScalarType} {text : String} {f : Failure}
      (hmapping : (g.nodeAt id).IsMapping) (htype : (g.nodeAt id).StandsFor type)
      (hother : (g.nodeAt other).content = .scalar text)
      (h : type.read text = .error (.failure f)) : Blames g f
  /-- A mapping stands for a time. -/
  | timestamp {id : NodeId} (hmapping : (g.nodeAt id).IsMapping)
      (htype : (g.nodeAt id).StandsFor .timestamp) :
      Blames g (.type "expected string or bytes-like object, got 'list'")
  /-- A mapping stands for a scalar, and what it finds for itself is itself. -/
  | endless {id : NodeId} {type : ScalarType} (hmapping : (g.nodeAt id).IsMapping)
      (htype : (g.nodeAt id).StandsFor type) : Blames g Assemble.endlessText

/-- **What merging makes of a node:** the tag of the key `=` may become that of texts, and the pairs
of a mapping may become others. -/
structure Node.Becomes (n m : Node) : Prop where
  /-- The tag. -/
  tag : m.tag = n.tag ∨ n.tag = Assemble.valueTag ∧ m.tag = coreTag "str"
  /-- A scalar keeps its text. -/
  scalar : ∀ text, m.content = .scalar text → n.content = .scalar text
  /-- Only a mapping is one. -/
  mapping : m.IsMapping → n.IsMapping

namespace Node.Becomes

variable {n m : Node}

theorem refl (n : Node) : n.Becomes n := ⟨.inl rfl, fun _ h => h, fun h => h⟩

/-- A mapping may get other pairs. -/
theorem withPairs (h : n.Becomes m) (hmapping : n.IsMapping) (pairs : List (NodeId × NodeId)) :
    n.Becomes { m with content := .mapping pairs } :=
  ⟨h.tag, fun _ hcontent => Content.noConfusion hcontent, fun _ => hmapping⟩

/-- The key `=` may become a text. -/
theorem asText (h : n.Becomes m) (hvalue : n.tag = Assemble.valueTag) :
    n.Becomes { m with tag := coreTag "str" } := ⟨.inr ⟨hvalue, rfl⟩, h.scalar, h.mapping⟩

/-- Nothing becomes the key `=`. -/
theorem isValue (h : n.Becomes m) (hvalue : m.tag = Assemble.valueTag) :
    n.tag = Assemble.valueTag := by
  rcases h.tag with htag | ⟨htag, _⟩
  · rw [← htag, hvalue]
  · exact htag

/-- What a node stands for in the end, it stood for from the start. -/
theorem standsFor (h : n.Becomes m) {type : ScalarType}
    (htype : ScalarType.ofTag? m.tag = some type) : n.StandsFor type := by
  rcases h.tag with htag | ⟨hvalue, htag⟩
  · exact .inl (htag ▸ htype)
  · rw [htag] at htype
    exact .inr ⟨hvalue, (Option.some.inj htype).symm⟩

end Node.Becomes

namespace Assemble

/-- The nodes are those of a graph, as far as merging leaves them. -/
def Keeps (g : Graph) (a : Assembly) : Prop :=
  ∀ id, (g.nodeAt id).Becomes (a.nodes.getD id default)

/-- Problems of the document are admitted, and failures with a property. -/
def Admits (p : Failure → Prop) : AssemblyFault → Prop
  | .trouble _ => True
  | .failure f => p f

variable {g : Graph} {p : Failure → Prop}

theorem sound_wrong {α : Type} {post : α → Prop} (t : Trouble) :
    Sound (Keeps g) (Admits p) post (wrong t : Assemble α) := Sound.throw trivial

theorem sound_node (id : NodeId) :
    Sound (Keeps g) (Admits p) (g.nodeAt id).Becomes (node id) :=
  Sound.get.bind fun _ ha => .pure (ha id)

theorem sound_modifyNode {id : NodeId} {f : Node → Node}
    (h : ∀ m, (g.nodeAt id).Becomes m → (g.nodeAt id).Becomes (f m)) :
    Sound (Keeps g) (Admits p) (fun _ => True) (modifyNode id f) := by
  refine .modify fun a ha other => ?_
  have hother : (g.nodeAt other).Becomes (a.nodes[other]?.getD default) := by
    rw [← Array.getD_eq_getD_getElem?]
    exact ha other
  show (g.nodeAt other).Becomes ((a.nodes.modify id f).getD other default)
  rw [Array.getD_eq_getD_getElem?, Array.getElem?_modify]
  by_cases hid : id = other
  · subst hid
    rw [if_pos rfl]
    -- a node that is not there stays away
    cases hnode : a.nodes[id]? with
    | none =>
      rw [hnode] at hother
      exact hother
    | some m =>
      rw [hnode] at hother
      exact h m hother
  · rw [if_neg hid]
    exact hother

theorem sound_put (id : NodeId) (part : Part) :
    Sound (Keeps g) (Admits p) (fun _ => True) (put id part) := .modify fun _ ha => ha

/-! #### Scalars -/

/-- Where the text of a scalar comes from: it is that of the node, or the node is a mapping and it
is that of some other node. -/
def TextOf (g : Graph) (id : NodeId) (text : String) : Prop :=
  (g.nodeAt id).content = .scalar text ∨
    (g.nodeAt id).IsMapping ∧ ∃ other, (g.nodeAt other).content = .scalar text

/-- A scalar without an end is a mapping. -/
theorem sound_scalarText (fuel : Nat) (id : NodeId) :
    Sound (Keeps g) (Admits fun f => f = endlessText ∧ (fuel = 0 ∨ (g.nodeAt id).IsMapping))
      (TextOf g id) (scalarText fuel id) := by
  induction fuel generalizing id with
  | zero => exact .throw ⟨rfl, .inl rfl⟩
  | succ fuel ih =>
    -- Only a mapping leads on to another node.
    rw [scalarText]
    refine (sound_node id).bind fun n hn => ?_
    split
    · next text hcontent => exact .pure (.inl (hn.scalar _ hcontent))
    · exact sound_wrong _
    · next pairs hcontent =>
      have hmapping : (g.nodeAt id).IsMapping := hn.mapping ⟨pairs, hcontent⟩
      refine Sound.get.andThen fun a => ?_
      split
      · next v _ =>
        refine ((ih v).weaken ?_).mono ?_
        · rintro (_ | f) hf
          · trivial
          · exact ⟨hf.1, .inr hmapping⟩
        · rintro text (htext | ⟨_, hother⟩)
          · exact .inr ⟨hmapping, v, htext⟩
          · exact .inr ⟨hmapping, hother⟩
      · exact sound_wrong _

/-- **The value of a scalar** is found, or the node is to blame. -/
theorem sound_scalarValue {id : NodeId} {type : ScalarType} (htype : (g.nodeAt id).StandsFor type) :
    Sound (Keeps g) (Admits g.Blames) (fun _ => True) (scalarValue id type) := by
  rw [scalarValue]
  refine Sound.get.andThen fun a => ?_
  -- There is fuel at the start, so the search goes on without an end only from a mapping.
  have htext : Sound (Keeps g) (Admits g.Blames) (TextOf g id)
      (scalarText (a.nodes.size + 1) id) := by
    refine (sound_scalarText _ id).weaken ?_
    rintro (_ | f) hf
    · trivial
    · obtain ⟨rfl, h | hmapping⟩ := hf
      · cases h
      · exact .endless hmapping htype
  refine htext.bind fun text htext => (sound_node id).bind fun n hn => ?_
  split
  · next pairs hcontent => exact .throw (.timestamp (hn.mapping ⟨pairs, hcontent⟩) htype)
  · split
    · exact .pure trivial
    · next f hread =>
      rcases htext with hscalar | ⟨hmapping, other, hother⟩
      · exact .throw (.scalar hscalar htype hread)
      · exact .throw (.mapping hmapping htype hother hread)
    · exact sound_wrong _

/-- **Entering a node** takes in a scalar or makes a collection wait. -/
theorem sound_enter (id : NodeId) :
    Sound (Keeps g) (Admits g.Blames) (fun _ => True) (enter id) := by
  rw [enter]
  refine Sound.get.andThen fun a => ?_
  split
  · exact .pure trivial
  · refine (sound_node id).bind fun n hn => ?_
    split
    · next type htype =>
      exact (sound_scalarValue (hn.standsFor htype)).andThen fun s => sound_put _ _
    · exact (sound_put _ _).andThen fun _ => .modify fun _ ha => ha
    · exact sound_wrong _

/-! #### Merging -/

/-- **Merging is sound** as far as a bound on its recursion goes: it never fails but for a problem
of the document. -/
structure MergesSoundly (g : Graph) (p : Failure → Prop) (fuel : Nat) : Prop where
  /-- Merging a mapping. -/
  flatten : ∀ id, Sound (Keeps g) (Admits p) (fun _ => True) (flatten fuel id)
  /-- Merging the pairs of a mapping from one of them on. -/
  flattenFrom : ∀ id i merged,
    Sound (Keeps g) (Admits p) (fun _ => True) (flattenFrom fuel id i merged)
  /-- Merging the items of a sequence of mappings. -/
  mergeItems : ∀ began items,
    Sound (Keeps g) (Admits p) (fun _ => True) (mergeItems fuel began items)

namespace MergesSoundly

variable {fuel : Nat}

theorem flatten_succ (h : MergesSoundly g p fuel) (id : NodeId) :
    Sound (Keeps g) (Admits p) (fun _ => True) (Assemble.flatten (fuel + 1) id) := by
  rw [Assemble.flatten]
  refine (h.flattenFrom id 0 []).andThen fun merged => ?_
  split
  · refine sound_modifyNode fun m hm => ?_
    split
    · next pairs hcontent => exact hm.withPairs (hm.mapping ⟨pairs, hcontent⟩) _
    · exact hm
  · exact .pure trivial

theorem flattenFrom_succ (h : MergesSoundly g p fuel) (id : NodeId) (i : Nat)
    (merged : List (NodeId × NodeId)) :
    Sound (Keeps g) (Admits p) (fun _ => True) (Assemble.flattenFrom (fuel + 1) id i merged) := by
  rw [Assemble.flattenFrom]
  refine (sound_node id).bind fun n hn => ?_
  dsimp only
  split
  · exact .pure trivial
  · next k v hpair =>
    refine (sound_node k).bind fun key hkey => ?_
    split
    · -- a merging pair is taken out, so the node is a mapping
      have hmapping : (g.nodeAt id).IsMapping := by
        cases hcontent : n.content with
        | mapping pairs => exact hn.mapping ⟨pairs, hcontent⟩
        | scalar text => simp [hcontent] at hpair
        | sequence items => simp [hcontent] at hpair
      refine (sound_modifyNode fun m hm => hm.withPairs hmapping _).andThen fun _ => ?_
      refine (sound_node v).andThen fun value => ?_
      split
      · refine (h.flatten v).andThen fun _ => (sound_node v).andThen fun m => ?_
        exact h.flattenFrom id i _
      · exact (h.mergeItems _ _).andThen fun groups => h.flattenFrom id i _
      · exact sound_wrong _
    · split
      · next hvalue =>
        -- the key `=` is made a text, which is all that becomes of a tag
        have htext : Sound (Keeps g) (Admits p) (fun _ => True)
            (modifyNode k fun n => { n with tag := coreTag "str" }) :=
          sound_modifyNode fun m hm => hm.asText (hkey.isValue hvalue)
        exact htext.andThen fun _ => h.flattenFrom id (i + 1) merged
      · exact h.flattenFrom id (i + 1) merged

theorem mergeItems_succ (h : MergesSoundly g p fuel) (began : Mark) (items : List NodeId) :
    Sound (Keeps g) (Admits p) (fun _ => True) (Assemble.mergeItems (fuel + 1) began items) := by
  cases items with
  | nil =>
    simp only [Assemble.mergeItems]
    exact .pure trivial
  | cons item rest =>
    rw [Assemble.mergeItems]
    refine (sound_node item).andThen fun n => ?_
    split
    · refine (h.flatten item).andThen fun _ => (sound_node item).andThen fun m => ?_
      exact (h.mergeItems began rest).andThen fun more => .pure trivial
    · exact sound_wrong _

end MergesSoundly

/-- **Merging never fails** but for a problem of the document. -/
theorem mergesSoundly (fuel : Nat) : MergesSoundly g p fuel := by
  induction fuel with
  | zero =>
    refine ⟨fun id => ?_, fun id i merged => ?_, fun began items => ?_⟩
    · rw [flatten]
      exact .pure trivial
    · rw [flattenFrom]
      exact .pure trivial
    · rw [mergeItems]
      exact .pure trivial
  | succ fuel ih => exact ⟨ih.flatten_succ, ih.flattenFrom_succ, ih.mergeItems_succ⟩

/-! #### Collections -/

theorem sound_mergeNode (id : NodeId) :
    Sound (Keeps g) (Admits p) (fun _ => True) (merge id) := by
  rw [merge]
  refine (sound_node id).andThen fun n => ?_
  split
  · exact Sound.get.andThen fun a => (mergesSoundly _).flatten id
  · exact .pure trivial

theorem sound_entriesOf (id : NodeId) :
    Sound (Keeps g) (Admits g.Blames) (fun _ => True) (entriesOf id) := by
  rw [entriesOf, readEntries]
  refine (sound_mergeNode id).andThen fun _ => (sound_node id).andThen fun n => ?_
  split
  · refine .foldlM trivial fun (k, v) _ entries _ => ?_
    refine (sound_enter k).andThen fun _ => Sound.get.andThen fun a => ?_
    split
    · exact (sound_enter v).andThen fun _ => .pure trivial
    · exact (sound_node k).andThen fun n => sound_wrong _
  · exact sound_wrong _

theorem sound_pairsOf (context : String) (id : NodeId) :
    Sound (Keeps g) (Admits g.Blames) (fun _ => True) (pairsOf context id) := by
  rw [pairsOf]
  refine (sound_node id).andThen fun n => ?_
  split
  · next items _ =>
    refine .mapM fun item _ => ?_
    refine (sound_node item).andThen fun m => ?_
    split
    · next k v _ =>
      exact (sound_enter k).andThen fun _ => (sound_enter v).andThen fun _ => .pure trivial
    · exact sound_wrong _
    · exact sound_wrong _
  · exact sound_wrong _

/-- **Finding the parts of a collection.** -/
theorem sound_complete (id : NodeId) (type : CollectionType) :
    Sound (Keeps g) (Admits g.Blames) (fun _ => True) (complete id type) := by
  cases type with
  | seq =>
    rw [complete]
    refine (sound_node id).andThen fun n => ?_
    split
    · next items _ =>
      exact (Sound.forM fun item _ => sound_enter item).andThen fun _ => sound_put _ _
    · exact sound_wrong _
  | map =>
    rw [complete]
    exact (sound_entriesOf id).andThen fun _ => sound_put _ _
  | set =>
    rw [complete]
    exact (sound_entriesOf id).andThen fun _ => sound_put _ _
  | pairs context =>
    rw [complete]
    exact (sound_pairsOf context id).andThen fun _ => sound_put _ _

theorem sound_completeAll (fuel : Nat) :
    Sound (Keeps g) (Admits g.Blames) (fun _ => True) (completeAll fuel) := by
  induction fuel with
  | zero =>
    rw [completeAll]
    exact .pure trivial
  | succ fuel ih =>
    rw [completeAll]
    refine Sound.get.andThen fun a => ?_
    dsimp only
    split
    · exact .pure trivial
    · have hclear : Sound (Keeps g) (Admits g.Blames) (fun _ => True)
          (modify fun a => { a with waiting := [] }) := .modify fun _ ha => ha
      refine hclear.andThen fun _ => ?_
      exact (Sound.forM fun (id, type) _ => sound_complete id type).andThen fun _ => ih

end Assemble

/-- **The value of a graph** fails for a problem of the document or for what the graph is to blame
for. -/
theorem Graph.blames_of_value {g : Graph} {f : Failure} (h : g.value = .error (.failure f)) :
    g.Blames f := by
  rw [Graph.value] at h
  split at h
  · cases h
  · next root _ =>
    -- The work starts with the nodes as they were read, which is the invariant to begin with.
    have hwork : Sound (Assemble.Keeps g) (Assemble.Admits g.Blames) (fun _ => True)
        (do Assemble.enter root; Assemble.completeAll (g.nodes.size + 2)) :=
      (Assemble.sound_enter root).andThen fun _ => Assemble.sound_completeAll _
    have hrun := hwork ⟨g.nodes, Array.replicate g.nodes.size none, []⟩ fun id => .refl _
    dsimp only at h
    split at h
    · cases h
    · next f' hrun' =>
      cases h
      rw [hrun'] at hrun
      exact hrun

end Yaml

end Playbook
