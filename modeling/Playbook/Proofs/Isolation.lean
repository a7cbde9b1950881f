import Playbook.Proofs.Inert
import Playbook.Proofs.Output

/-!
# Tasks that leave each other alone

Rendering the arguments of a task may change the extra variables, the variables of the task and what
other tasks hold, and then later tasks are shown differently. A task whose rendering changes nothing
of this leaves the tasks after it alone: each of them is shown as if it were the only one.

* `Report.IsStill` — a task whose templates are inert, with variables of their own beside it.
* `Report.settle_of_isStill` — what is left by such a task is what there was.
* `Progress.each_append` — things reported one after the other are reported in two parts, the second
  from what the first leaves.
* `Report.lines_of_settle` — plays whose tasks leave everything as it is are reported as each of
  these tasks alone.
* `Report.OwnBlock` — the block of a task alone, with its variables as they were resolved.
* `Report.ofPlays_append` — **a report in lines is made of the reports of its parts,** if the tasks
  of the first part leave everything as it is.
-/

namespace Playbook.Report

variable {o : Options} {s : Shared} {t : Task} {p : Play}

/-! ### Tasks that are still -/

/-- **A task is still** beside what tasks share: its templates are inert, and what they find around
them bears no marks. -/
structure IsStill (s : Shared) (t : Task) : Prop where
  /-- The extra variables are names with values of their own. -/
  extra : s.extra.AreOwn
  /-- So are the variables of the task. -/
  vars : t.vars.AreOwn
  /-- The texts of the arguments are inert. -/
  inert : ∀ text ∈ t.args.texts, Template.isInert text = true

/-- Rendering the arguments of a still task leaves what is around them as it is. -/
theorem rendered_of_isStill (hs : s.changes = []) (h : IsStill s t) :
    (rendered s t).2 = surroundings s t :=
  Rendering.leaves_ofEntries hs (Entries.endMark_update h.extra.unmarked h.vars.unmarked) h.inert

/-- Names keep their values when they are put over others and then read again. -/
theorem refresh_update {vars : Entries} (h : vars.AreNames) (es : Entries) :
    refresh vars (es.update vars) = vars := by
  -- The name is found in what has been put over the others, where it comes once.
  have hsame : ∀ e ∈ vars, (e.1, ((es.update vars).find? e.1).getD e.2) = e := by
    intro e he
    obtain ⟨k, hk⟩ := h.texts e he
    rw [hk, Entries.find?_update h, ← hk, h.find?_of_mem he]
    rfl
  calc vars.map (fun e => (e.1, ((es.update vars).find? e.1).getD e.2))
      = vars.map id := List.map_congr_left hsame
    _ = vars := List.map_id vars

/-- Names that are not hidden keep their values as well. -/
theorem unhidden_update {vars es : Entries} (h : vars.AreNames) (hes : es.AreNames) :
    (es.map fun e => if (vars.find? e.1).isSome then e
      else (e.1, ((es.update vars).find? e.1).getD e.2)) = es := by
  -- A hidden name is passed over. For any other one what is found is its own value.
  have hsame : ∀ e ∈ es, (if (vars.find? e.1).isSome then e
      else (e.1, ((es.update vars).find? e.1).getD e.2)) = e := by
    intro e he
    split
    · rfl
    · rename_i hhidden
      obtain ⟨k, hk⟩ := hes.texts e he
      have hnone : vars.find? (.str k) = none := by
        rw [← hk]
        exact Option.not_isSome_iff_eq_none.1 hhidden
      rw [hk, Entries.find?_update h, hnone, ← hk, hes.find?_of_mem he]
      rfl
  calc es.map (fun e => if (vars.find? e.1).isSome then e
        else (e.1, ((es.update vars).find? e.1).getD e.2))
      = es.map id := List.map_congr_left hsame
    _ = es := List.map_id es

/-- **A still task leaves everything as it is:** its own variables and what tasks share. -/
theorem settle_of_isStill (hs : s.changes = []) (h : IsStill s t) : settle o s t = (t, s) := by
  rw [settle]
  -- Without rendering there is nothing to leave.
  split
  · rw [rendered_of_isStill hs h]
    show ({ t with vars := refresh t.vars (s.extra.update t.vars) }, Shared.mk
      (s.extra.map fun e => if (t.vars.find? e.1).isSome then e
        else (e.1, ((s.extra.update t.vars).find? e.1).getD e.2)) s.changes s.next) = (t, s)
    rw [refresh_update h.vars.toAreNames, unhidden_update h.vars.toAreNames h.extra.toAreNames]
  · rfl

/-! ### One after the other -/

namespace Progress

variable {α : Type} {f : Shared → α → Progress α} {xs : List α}

/-- **Things are reported in two parts,** of which the second begins with what the first leaves. -/
theorem each_append (h : (each f s xs).fault = none) (ys : List α) :
    each f s (xs ++ ys) =
      let first := each f s xs
      let more := each f first.shared ys
      ⟨first.text ++ more.text, more.fault, first.left ++ more.left, more.shared⟩ := by
  -- Induction on the first part: what the second one begins with is what the first one leaves of
  -- the shared things.
  induction xs generalizing s with
  | nil =>
    show each f s ys = ⟨"" ++ _, _, _, _⟩
    rw [String.empty_append]
    rfl
  | cons x rest ih =>
    rw [each] at h
    rw [List.cons_append, each, each]
    cases hx : (f s x).fault with
    | some e =>
      rw [hx] at h
      cases h
    | none =>
      rw [hx] at h
      dsimp only at h ⊢
      rw [ih h, String.append_assoc]
      rfl

end Progress

/-! ### Tasks and plays alone -/

/-- **The block of a task alone:** its arguments are those that it has beside what tasks share, and
its variables are shown as they were resolved. -/
inductive OwnBlock (o : Options) (s : Shared) (t : Task) : String → Prop
  /-- All its lines. -/
  | whole {module args vars : String} {es : Entries} (hmodule : t.module.text? = .ok module)
      (hes : argsIn o s t = .ok es) (hargs : entriesText es = .ok args)
      (hvars : entriesText t.vars = .ok vars) :
      OwnBlock o s t
        (opening t module ++ ("    Args: " ++ args ++ "\n" ++ ("    Vars: " ++ vars ++ "\n" ++
          lastLines o t)))

/-- What is left by the report of a task is what its arguments leave. -/
theorem ofTask_of_settle (h : settle o s t = (t, s)) :
    (ofTask o s t).left = t ∧ (ofTask o s t).shared = s := by
  rw [ofTask]
  cases line "    Module: " t.module.text? with
  | error f => exact ⟨rfl, rfl⟩
  | ok moduleLine =>
    dsimp only
    rw [h]
    exact ⟨rfl, rfl⟩

/-- A task that leaves everything as it is, and is reported without a fault, has its own block. -/
theorem ownBlock_of_settle (hs : s.changes = []) (h : settle o s t = (t, s))
    (hfault : (ofTask o s t).fault = none) : OwnBlock o s t (ofTask o s t).text := by
  -- It is shown as a whole, and nothing in its block has become something else since.
  have hblock : TaskBlock o s t (ofTask o s t).text (ofTask o s t).shared :=
    taskBlock_of_completes ⟨rfl, hfault, rfl⟩
  generalize (ofTask o s t).text = text at hblock ⊢
  generalize (ofTask o s t).shared = next at hblock
  obtain ⟨hmodule, hes, hargs, hvars⟩ := hblock
  rw [h, hs, Entries.renew_nil] at hargs hvars
  exact .whole hmodule hes hargs hvars

/-- A play whose tasks leave everything as it is leaves everything as it is. -/
theorem ofPlay_of_settle (h : ∀ t ∈ p.tasks, settle o s t = (t, s)) :
    (ofPlay o s p).left = p ∧ (ofPlay o s p).shared = s ∧
      ((ofPlay o s p).fault = p.tasks.findSome? fun t => (ofTask o s t).fault) ∧
      ((ofPlay o s p).fault = none → (ofPlay o s p).text =
        headline p ++ String.join (p.tasks.map fun t => (ofTask o s t).text)) := by
  obtain ⟨hleft, hshared, hfault, htext⟩ :=
    Progress.each_of_unchanged fun t ht => ofTask_of_settle (h t ht)
  rw [ofPlay]
  dsimp only
  rw [hleft]
  exact ⟨rfl, hshared, hfault, fun hnone => by rw [htext hnone]⟩

/-- **Plays whose tasks leave everything as it is** are reported as each task alone. -/
theorem lines_of_settle {ps : List Play} (h : ∀ p ∈ ps, ∀ t ∈ p.tasks, settle o s t = (t, s))
    (hfault : (lines o s ps).fault = none) :
    lines o s ps = ⟨String.join (ps.map fun p =>
        headline p ++ String.join (p.tasks.map fun t => (ofTask o s t).text)), none, ps, s⟩ ∧
      ∀ p ∈ ps, ∀ t ∈ p.tasks, (ofTask o s t).fault = none := by
  -- All plays are reported from the same start, as each of them leaves it as it is.
  have hplay (p : Play) (hp : p ∈ ps) := ofPlay_of_settle (h p hp)
  obtain ⟨hleft, hshared, hfirst, htext⟩ :=
    Progress.each_of_unchanged fun p hp => ⟨(hplay p hp).1, (hplay p hp).2.1⟩
  have hnone : ∀ p ∈ ps, (ofPlay o s p).fault = none :=
    List.findSome?_eq_none_iff.1 (hfirst.symm.trans hfault)
  refine ⟨?_, fun p hp => ?_⟩
  · have htexts : ∀ p ∈ ps, (ofPlay o s p).text =
        headline p ++ String.join (p.tasks.map fun t => (ofTask o s t).text) :=
      fun p hp => (hplay p hp).2.2.2 (hnone p hp)
    rw [← List.map_congr_left htexts, ← htext hfault]
    show lines o s ps = ⟨(lines o s ps).text, none, ps, s⟩
    rw [← hfault]
    exact congrArg₂ (Progress.mk _ _) hleft hshared
  · exact List.findSome?_eq_none_iff.1 ((hplay p hp).2.2.1.symm.trans (hnone p hp))

/-! ### Reports made of parts -/

/-- If nothing bears a mark of its own, there is one start for all tasks. -/
theorem Shared.start_of_unmarked {extra : Entries} {ts : List Task} (hextra : extra.endMark ≤ 2)
    (h : ∀ t ∈ ts, t.endMark ≤ 2) : Shared.start extra ts = ⟨extra, [], 2⟩ := by
  -- The mark to go on from is above those of all tasks, and none of them is above 2.
  have hnext : ts.foldl (fun n t => max n t.endMark) 2 = 2 := by
    induction ts with
    | nil => rfl
    | cons t rest ih =>
      obtain ⟨ht, hrest⟩ := List.forall_mem_cons.1 h
      rw [List.foldl_cons, Nat.max_eq_left ht]
      exact ih hrest
  rw [start, Nat.max_eq_left hextra, hnext]

/-- So it does not matter then which tasks are known when a report begins. -/
theorem ofPlays_of_unmarked (ho : o.asJson = false) {extra : Entries} {ps : List Play}
    {ts : List Task} (hextra : extra.endMark ≤ 2)
    (hps : ∀ t ∈ ps.flatMap Play.tasks, t.endMark ≤ 2) (hts : ∀ t ∈ ts, t.endMark ≤ 2) :
    (ofPlays o extra ps).fault = (lines o (.start extra ts) ps).fault ∧
      (ofPlays o extra ps).text = (lines o (.start extra ts) ps).text := by
  have hstart : Shared.start extra ts = .start extra (ps.flatMap Play.tasks) := by
    rw [Shared.start_of_unmarked hextra hts, Shared.start_of_unmarked hextra hps]
  rw [hstart]
  exact ofPlays_of_not_asJson ho extra ps

/-- **A report in lines is made of the reports of its parts.** Plays `P` are reported before plays
`Q`, and each task of `P` is still, or leaves everything as it is in another way, if arguments are
rendered at all. If both parts are reported without a fault, each from the start `s`, then so are
all the plays, and what is shown are the lines of `P` followed by those of `Q`. The tasks of `P` and
the extra variables are left as they were, and in the block of each task of `P` there are its
variables as they were resolved. If nothing bears a mark of its own, the reports from `s` are those
that begin with `P` or `Q` themselves. -/
theorem ofPlays_append {extra : Entries} {P Q : List Play} (ho : o.asJson = false)
    (hs : s = .start extra ((P ++ Q).flatMap Play.tasks))
    (hstill : o.rendered = true → ∀ p ∈ P, ∀ t ∈ p.tasks, IsStill s t ∨ settle o s t = (t, s)) :
    ((lines o s P).fault = none → (lines o s Q).fault = none →
      (ofPlays o extra (P ++ Q)).fault = none ∧
      (ofPlays o extra (P ++ Q)).text = (lines o s P).text ++ (lines o s Q).text ∧
      (lines o s P).left = P ∧ (lines o s P).shared = s ∧
      (lines o s P).text = String.join (P.map fun p =>
        headline p ++ String.join (p.tasks.map fun t => (ofTask o s t).text)) ∧
      ∀ p ∈ P, ∀ t ∈ p.tasks, OwnBlock o s t (ofTask o s t).text) ∧
    (extra.endMark ≤ 2 → (∀ t ∈ (P ++ Q).flatMap Play.tasks, t.endMark ≤ 2) →
      ∀ ps ∈ [P, Q], (ofPlays o extra ps).fault = (lines o s ps).fault ∧
        (ofPlays o extra ps).text = (lines o s ps).text) := by
  have hchanges : s.changes = [] := by rw [hs, Shared.start]
  -- If arguments are not rendered every task leaves everything as it is.
  have hsettle : ∀ p ∈ P, ∀ t ∈ p.tasks, settle o s t = (t, s) := by
    intro p hp t ht
    cases hrendered : o.rendered with
    | false => exact settle_of_not_rendered hrendered
    | true =>
      obtain h | h := hstill hrendered p hp t ht
      · exact settle_of_isStill hchanges h
      · exact h
  refine ⟨fun hP hQ => ?_, fun hextra hmarks ps hps => ?_⟩
  · obtain ⟨hlines, hall⟩ := lines_of_settle hsettle hP
    obtain ⟨hfault, htext⟩ := ofPlays_of_not_asJson ho extra (P ++ Q)
    have happend : lines o s (P ++ Q) =
        ⟨(lines o s P).text ++ (lines o s Q).text, (lines o s Q).fault,
          P ++ (lines o s Q).left, (lines o s Q).shared⟩ := by
      rw [lines, Progress.each_append hP, ← lines, hlines]
      rfl
    rw [hfault, htext, ← hs, happend]
    refine ⟨hQ, rfl, ?_, ?_, ?_, fun p hp t ht => ?_⟩
    · rw [hlines]
    · rw [hlines]
    · rw [hlines]
    · exact ownBlock_of_settle hchanges (hsettle p hp t ht) (hall p hp t ht)
  · rw [hs]
    refine ofPlays_of_unmarked ho hextra (fun t ht => hmarks t ?_) hmarks
    -- A task of one part is one of all.
    rw [List.flatMap_append, List.mem_append]
    obtain rfl | hps := List.mem_cons.1 hps
    · exact .inl ht
    · rw [List.mem_singleton.1 hps] at ht
      exact .inr ht

/-- Extra variables with a list. -/
def listed : Entries := [(.str "l", .list none [.int 1])]

/-- A play with one task, which has one argument. -/
def playOf (name template : String) (vars : Entries) : Play :=
  ⟨name, "h", [⟨"t", .str "m", [(.str "x", .str template)], vars, "", "s.yml"⟩]⟩

/-- A play whose task goes through a list that it shares with others, and one of its own. -/
def readingPlay : Play :=
  playOf "p" "\x7b% for i in l + d.k %\x7d\x7b\x7b i \x7d\x7d;\x7b% endfor %\x7d"
    [(.str "d", .map none [(.str "k", .list none [.int 0])])]

/-- A play whose task makes a list longer that it shares with others. -/
def growingPlay : Play := playOf "q" "\x7b\x7b l.append(2) \x7d\x7d" []

/-- The first of these plays is still, and changes nothing for the second. -/
theorem ofPlays_append_readingPlay :
    (ofPlays ⟨0, false, true⟩ listed [readingPlay, growingPlay]).fault = none ∧
      (ofPlays ⟨0, false, true⟩ listed [readingPlay, growingPlay]).text =
        (ofPlays ⟨0, false, true⟩ listed [readingPlay]).text ++
          (ofPlays ⟨0, false, true⟩ listed [growingPlay]).text := by
  have hlisted : listed.AreOwn := ⟨⟨by simp [listed], by simp [listed]⟩, by decide⟩
  have hstill : ∀ p ∈ [readingPlay], ∀ t ∈ p.tasks,
      IsStill (.start listed ([readingPlay, growingPlay].flatMap Play.tasks)) t := by
    intro p hp t ht
    obtain rfl := List.mem_singleton.1 hp
    obtain rfl := List.mem_singleton.1 ht
    exact ⟨hlisted, ⟨⟨by simp, by simp⟩, by decide⟩, by decide +kernel⟩
  obtain ⟨happend, hsame⟩ := ofPlays_append (o := ⟨0, false, true⟩) (Q := [growingPlay]) rfl rfl
    fun _ p hp t ht => .inl (hstill p hp t ht)
  obtain ⟨hfault, htext, -⟩ := happend (by decide +kernel) (by decide +kernel)
  have hboth := hsame (by decide) (by decide)
  refine ⟨hfault, htext.trans ?_⟩
  rw [(hboth [readingPlay] (by simp)).2, (hboth [growingPlay] (by simp)).2]

/-- **Tasks can change what others show:** a list that one task makes longer is gone through by the
next one as it is then, although both are reported without a fault. -/
theorem ofPlays_grownList :
    (ofPlays ⟨0, false, true⟩ listed [growingPlay]).fault = none ∧
      (ofPlays ⟨0, false, true⟩ listed [readingPlay]).fault = none ∧
      (ofPlays ⟨0, false, true⟩ listed [growingPlay, readingPlay]).fault = none ∧
      (ofPlays ⟨0, false, true⟩ listed [growingPlay, readingPlay]).text ≠
        (ofPlays ⟨0, false, true⟩ listed [growingPlay]).text ++
          (ofPlays ⟨0, false, true⟩ listed [readingPlay]).text := by
  decide +kernel

end Playbook.Report
