import Playbook.Proofs.Decoding
import Playbook.Proofs.Faults

/-!
# What a play reports

A play that cannot be resolved should end with a fault of resolution, and one that can with tasks
whose modules are texts. This module says how far that goes.

* `Fault.IsReported` — the faults that are reported: inside all wrappings of roles they are of a
  kind in particular.
* `Record.Unsayable` — when a sentence about the keys of a record cannot be made. With texts as
  keys it can (`Record.HasTextKeys.not_unsayable`), and records from files have texts as keys.
* `Resolution.Escapes` — the ways out: a file that fails in a way of its own, a record of the play
  about which nothing can be said, and the inclusion of a role without a name whose arguments cannot
  be shown. The records of a play are taken as they stand in the playbook, so one of their keys can
  be something else than a text.
* `Resolution.play_reports` — there are no other ways out, and no other tasks whose modules are no
  texts.

Both passes are followed to the places where they can fail, by `Inclusion.fault_of_expand` and
`Role.Fails`, so that what is left is to look at single records.
-/

namespace Playbook

/-! ### Sentences about keys -/

namespace Record

/-- **What keeps a sentence about the keys of a record from being made.** -/
inductive Unsayable (r : Record) : Failure → Prop
  /-- Of several modules, one is no text. -/
  | list {i : Nat} {k : Value} (hk : r.moduleKeys[i]? = some k) (htext : ∀ s, k ≠ .str s) :
      Unsayable r (.type ("sequence item " ++ toString i ++ ": expected str instance, " ++
        k.qualifiedTypeName ++ " found"))
  /-- The module that stands beside the inclusion of a file is too long to be written. -/
  | module {k : Value} (hk : k ∈ r.moduleKeys) (hlong : k.holdsLong = true) :
      Unsayable r Scalar.tooLongFailure

variable {r : Record} {source : String} {e : Failure}

/-- Keys cannot be listed because one of them is no text. -/
theorem fault_of_texts {keys : List Value} {i : Nat} (h : joinKeys.texts i keys = .error e) :
    ∃ (j : Nat) (k : Value), keys[j]? = some k ∧ (∀ s, k ≠ .str s) ∧
      e = .type ("sequence item " ++ toString (i + j) ++ ": expected str instance, " ++
        k.qualifiedTypeName ++ " found") := by
  induction keys generalizing i with
  -- Induction on the keys, with the number of the first one: it is part of the message.
  | nil => cases h
  | cons k rest ih =>
    by_cases htext : ∃ s, k = .str s
    · obtain ⟨s, rfl⟩ := htext
      rw [joinKeys.texts] at h
      cases hrest : joinKeys.texts (i + 1) rest with
      | ok ss =>
        rw [hrest] at h
        cases h
      | error e' =>
        rw [hrest] at h
        cases h
        obtain ⟨j, k, hk, hne, rfl⟩ := ih hrest
        exact ⟨j + 1, k, hk, hne, by rw [Nat.add_assoc, Nat.add_comm 1]⟩
    · have hne : ∀ s, k ≠ .str s := fun s hs => htext ⟨s, hs⟩
      refine ⟨0, k, rfl, hne, ?_⟩
      -- The equations of the definition overlap, so its branches are looked at one by one.
      unfold joinKeys.texts at h
      split at h
      · next heq => cases heq
      · next s _ heq => exact absurd (List.cons.inj heq).1 (hne s)
      · next heq =>
        cases heq
        cases h
        cases k <;> rfl

theorem fault_of_joinKeys {keys : List Value} (h : joinKeys keys = .error e) :
    ∃ (i : Nat) (k : Value), keys[i]? = some k ∧ (∀ s, k ≠ .str s) ∧
      e = .type ("sequence item " ++ toString i ++ ": expected str instance, " ++
        k.qualifiedTypeName ++ " found") := by
  rw [joinKeys] at h
  cases htexts : joinKeys.texts 0 keys with
  | ok ss =>
    rw [htexts] at h
    cases h
  | error e' =>
    rw [htexts] at h
    cases h
    obtain ⟨i, k, hk, hne, rfl⟩ := fault_of_texts htexts
    exact ⟨i, k, hk, hne, by rw [Nat.zero_add]⟩

/-- The keys that include files are texts, since only texts stand for directives. -/
theorem text_of_mem_inclusionKeys {k : Value} (h : k ∈ r.inclusionKeys) : ∃ s, k = .str s := by
  have hkey : Directive.ofKey? k = some .includeTasks := by
    simpa using (List.mem_filter.1 h).2
  -- All other keys stand for another directive or for none.
  unfold Directive.ofKey? at hkey
  split at hkey
  · exact ⟨_, rfl⟩
  · cases hkey

/-- An inclusion fails only where the module beside it cannot be shown: its own keys are texts. -/
theorem unsayable_of_inclusion? (h : r.inclusion? source = .error (.failure e)) :
    r.Unsayable e := by
  unfold inclusion? at h
  split at h
  · cases h
  · split at h
    -- By how many modules stand beside the inclusion, and by whether there is one inclusion or
    -- more.
    · split at h
      · cases h
      · next module rest hkeys =>
        rw [Value.literal?] at h
        cases hlong : module.holdsLong with
        | true =>
          rw [hlong] at h
          cases h
          exact .module (hkeys ▸ List.mem_cons_self) hlong
        | false =>
          rw [hlong] at h
          cases h
    · cases h
  · split at h
    · cases h
    · next e' hjoin =>
      obtain ⟨i, k, hk, hne, _⟩ := fault_of_joinKeys hjoin
      obtain ⟨s, hs⟩ := text_of_mem_inclusionKeys (List.mem_of_getElem? hk)
      exact absurd hs (hne s)

/-- A task is not built only where its modules cannot be listed. -/
theorem unsayable_of_build (h : r.build source = .error (.failure e)) : r.Unsayable e := by
  unfold build at h
  split at h
  · cases h
  · cases h
  -- Several modules are an error of resolution, unless they cannot be listed in its message.
  · split at h
    · cases h
    · next e' hjoin =>
      cases h
      obtain ⟨i, k, hk, hne, rfl⟩ := fault_of_joinKeys hjoin
      exact .list hk hne

/-- **A record fails** only where a sentence about its keys cannot be made. -/
theorem unsayable_of_request (h : r.request source = .error (.failure e)) : r.Unsayable e := by
  simp only [request, bind, Except.bind, pure, Except.pure] at h
  split at h
  · next hinclusion =>
    cases h
    exact unsayable_of_inclusion? hinclusion
  · split at h
    · cases h
    · split at h
      · next hbuild =>
        cases h
        exact unsayable_of_build hbuild
      · cases h

/-- With texts as keys, everything can be said. -/
theorem HasTextKeys.not_unsayable (h : r.HasTextKeys) : ¬r.Unsayable e := by
  have hmodule : ∀ k ∈ r.moduleKeys, ∃ s, k = .str s := fun k hk => h k (List.mem_filter.1 hk).1
  -- Both reasons need a key that is no text.
  rintro (⟨hk, hne⟩ | ⟨hk, hlong⟩)
  · obtain ⟨s, hs⟩ := hmodule _ (List.mem_of_getElem? hk)
    exact hne s hs
  · obtain ⟨s, rfl⟩ := hmodule _ hk
    cases hlong

/-- The module of a task is a key of its record, unless the record has no module. -/
theorem module_of_build {t : Task} (h : r.build source = .ok t) :
    t.module = .str "" ∨ r.moduleKeys = [t.module] := by
  unfold build at h
  split at h
  · cases h
    exact .inl rfl
  · next module hkeys =>
    cases h
    exact .inr hkeys
  · split at h <;> cases h

/-- With texts as keys, modules are texts. -/
theorem HasTextKeys.module_of_build (h : r.HasTextKeys) {t : Task}
    (hbuild : r.build source = .ok t) : ∃ s, t.module = .str s := by
  rcases Record.module_of_build hbuild with hmodule | hkeys
  · exact ⟨"", hmodule⟩
  · have hmem : t.module ∈ r.moduleKeys := hkeys ▸ List.mem_singleton_self _
    exact h _ (List.mem_filter.1 hmem).1

end Record

/-- Records of files have texts as keys. -/
theorem Inclusion.IsFileRecord.hasTextKeys {fs : FileSystem} {r : Record}
    (h : IsFileRecord fs r) : r.HasTextKeys := by
  obtain ⟨_, _, _, _, _, hrecords, hr⟩ := h
  exact Document.hasTextKeys_of_records hrecords r hr

/-! ### Faults that are reported -/

/-- **A fault is reported** if inside all wrappings of roles it is one of resolution, of a kind in
particular. -/
def Fault.IsReported (f : Fault) : Prop :=
  match f.root with
  | .resolution kind .. => kind ≠ .general
  | .includeCycle .. => True
  | _ => False

/-- What is reported is a fault of resolution. -/
theorem Fault.IsReported.isResolution {f : Fault} (h : f.IsReported) : f.isResolution = true := by
  -- A fault of another form is its own root, and as such it is not reported.
  cases f with
  | resolution | includeCycle | role => rfl
  | template | general | document | system | failure => cases h

/-- A role reports what is reported inside it. -/
theorem Fault.IsReported.wrap {f : Fault} (h : f.IsReported) (name : String) :
    (Role.wrap name f).IsReported := by
  rw [Role.wrap_of_isResolution h.isResolution, IsReported, root_role]
  exact h

/-- A file fails in a way of its own: its path is none, or a value in it cannot be read. -/
def FileSystem.Breaks (fs : FileSystem) (e : Failure) : Prop :=
  ∃ path readHeadline parseHeadline file,
    (fs.recordsAt path readHeadline parseHeadline file).outcome = .error (.failure e)

/-- A file that is at fault is reported, unless it fails in a way of its own. -/
theorem FileSystem.isReported_of_recordsAt {fs : FileSystem}
    {path readHeadline parseHeadline : String} {file : Option String} {f : Fault}
    (h : (fs.recordsAt path readHeadline parseHeadline file).outcome = .error f) :
    f.IsReported ∨ ∃ e, f = .failure e ∧ fs.Breaks e := by
  obtain ⟨e, rfl⟩ | ⟨e, rfl⟩ | ⟨e, rfl⟩ := fault_of_recordsAt h
  · exact .inl ResolutionKind.noConfusion
  · exact .inl ResolutionKind.noConfusion
  · exact .inr ⟨e, rfl, _, _, _, _, h⟩

/-- **What escapes from the first pass:** what escapes from a file, and what cannot be said about
one of the records at hand. -/
theorem Inclusion.isReported_of_expand {fs : FileSystem} {active : List String} {source : String}
    {records : List Record} {f : Fault} (h : (expand fs active source records).outcome = .error f) :
    f.IsReported ∨ ∃ e, f = .failure e ∧ (fs.Breaks e ∨ ∃ u ∈ records, u.Unsayable e) := by
  obtain ⟨u, place, hu, hrequest⟩ | ⟨path, hfile⟩ | ⟨chain, place, rfl⟩ := fault_of_expand h
  · obtain ⟨headline, rfl⟩ | ⟨e, rfl⟩ := Record.fault_of_request hrequest
    -- A record that cannot be read fails with a headline, or because of a sentence about its keys.
    · exact .inl ResolutionKind.noConfusion
    · have hunsayable := Record.unsayable_of_request hrequest
      -- A record of a file has texts as keys, so it must be one of the records at hand.
      rcases hu with ⟨hmem, _⟩ | hrecord
      · exact .inr ⟨e, rfl, .inr ⟨u, hmem, hunsayable⟩⟩
      · exact absurd hunsayable hrecord.hasTextKeys.not_unsayable
  · refine (FileSystem.isReported_of_recordsAt hfile).imp_right ?_
    rintro ⟨e, rfl, hbreaks⟩
    exact ⟨e, rfl, .inl hbreaks⟩
  · exact .inl trivial

namespace Role

variable {fs : FileSystem} {roles : String}

/-- **What escapes from a role** escapes from a file. -/
theorem isReported_of_resolve {name : String} {f : Fault}
    (h : (resolve fs roles name).outcome = .error f) :
    f.IsReported ∨ ∃ e, f = .failure e ∧ fs.Breaks e := by
  obtain h | ⟨records, ⟨content, _, hrecords⟩, h⟩ := fault_of_resolve h
  · exact FileSystem.isReported_of_recordsAt h
  · refine (Inclusion.isReported_of_expand h).imp_right ?_
    rintro ⟨e, rfl, hbreaks | ⟨u, hu, hunsayable⟩⟩
    · exact ⟨e, rfl, hbreaks⟩
    · exact absurd hunsayable (Document.hasTextKeys_of_records hrecords u hu).not_unsayable

/-- A task that includes a role without a name, with arguments that cannot be shown. -/
def Nameless (t : Task) : Prop :=
  t.roleName? = some "" ∧ (Value.map none t.args).holdsLong = true

/-- A task is described by one of some records or by a record of a file. -/
def Described (fs : FileSystem) (records : List Record) (t : Task) : Prop :=
  ∃ u : Record, (u ∈ records ∨ Inclusion.IsFileRecord fs u) ∧ u.build t.source = .ok t

/-- **What escapes from the second pass:** what escapes from a file, and a role without a name whose
arguments cannot be shown. -/
theorem Fails.isReported {active : List String} {tasks : List Task} {f : Fault}
    (h : Fails fs roles active tasks f) {records : List Record}
    (htasks : ∀ t ∈ tasks, Described fs records t) :
    f.IsReported ∨ ∃ e, f = .failure e ∧
      (fs.Breaks e ∨ e = Scalar.tooLongFailure ∧ ∃ t, Described fs records t ∧ Nameless t) := by
  -- Along the account of the fault: what is reported inside a role is so outside, and what escapes
  -- from inside is not wrapped.
  induction h with
  | here h =>
    obtain ⟨t, ht, ⟨hrole, rfl⟩ | ⟨back, _, _, rfl⟩⟩ := h
    · rw [nameless]
      split
      · next hlong => exact .inr ⟨_, rfl, .inr ⟨rfl, t, htasks t ht, hrole, hlong⟩⟩
      · exact .inl ResolutionKind.noConfusion
    · exact .inl trivial
  | @unresolved active tasks t name f ht hrole hname hnew h =>
    rcases isReported_of_resolve h with hreported | ⟨e, rfl, hbreaks⟩
    · exact .inl (hreported.wrap name)
    · exact .inr ⟨e, rfl, .inl hbreaks⟩
  | @inside active tasks inner t name f ht hrole hname hnew hinner h ih =>
    -- the tasks of a role come from files
    have hdescribed : ∀ u ∈ inner, Described fs records u := by
      intro u hu
      obtain ⟨inside, ⟨content, hread, hrecords⟩, hexpand⟩ := resolve_eq_ok.1 hinner
      obtain ⟨r, hbuild, hr⟩ := Inclusion.mem_expand hexpand hu
      refine ⟨r, .inr ?_, hbuild⟩
      rcases hr with hr | hr
      · exact ⟨_, fs.mem_files hread, _, _, inside, hrecords, hr⟩
      · exact hr
    rcases ih hdescribed with hreported | ⟨e, rfl, hescapes⟩
    · exact .inl (hreported.wrap name)
    · exact .inr ⟨e, rfl, hescapes⟩

end Role

/-! ### Plays -/

namespace Resolution

variable {fs : FileSystem} {path roles : String} {r : Record}

/-- **What escapes from a play.** -/
inductive Escapes (fs : FileSystem) (r : Record) : Failure → Prop
  /-- A file fails in a way of its own. -/
  | file {e : Failure} (h : fs.Breaks e) : Escapes fs r e
  /-- Nothing can be said about one of the task records of the play. -/
  | record {u : Record} {e : Failure} (hu : u ∈ taskRecords r) (h : u.Unsayable e) : Escapes fs r e
  /-- A role is included without a name, and the arguments of the inclusion cannot be shown. -/
  | nameless {t : Task} (ht : Role.Described fs (taskRecords r) t) (h : Role.Nameless t) :
      Escapes fs r Scalar.tooLongFailure

/-- The module of a task is a text, or the single module key of one of the records of the play. -/
theorem module_of_mem {p : Play} (h : (play fs path roles r).outcome = .ok p) {t : Task}
    (ht : t ∈ p.tasks) :
    (∃ s, t.module = .str s) ∨ ∃ u ∈ taskRecords r, u.moduleKeys = [t.module] := by
  obtain ⟨_, ⟨_, u, hu, hbuild⟩ | ⟨_, records, u, ⟨content, _, hrecords⟩, hu, hbuild⟩⟩ :=
    attributed_of_play h t ht
  -- A task of the play comes from a record written in it or from one of a file, whose keys are
  -- texts.
  · rcases Record.module_of_build hbuild with hmodule | hkeys
    · exact .inl ⟨"", hmodule⟩
    · exact .inr ⟨u, hu, hkeys⟩
  · exact .inl ((Document.hasTextKeys_of_records hrecords u hu).module_of_build hbuild)

/-- **What a play reports.** A play is resolved, and the module of each task is a text or a key of
one of the records written in the play. Or it ends with a fault that is reported. Or a failure
escapes, for one of the reasons that there are. -/
theorem play_reports (fs : FileSystem) (path roles : String) (r : Record) :
    (∃ p, (play fs path roles r).outcome = .ok p ∧ ∀ t ∈ p.tasks,
        (∃ s, t.module = .str s) ∨ ∃ u ∈ taskRecords r, u.moduleKeys = [t.module]) ∨
      (∃ f, (play fs path roles r).outcome = .error f ∧ f.IsReported) ∨
      ∃ e, (play fs path roles r).outcome = .error (.failure e) ∧ Escapes fs r e := by
  cases h : (play fs path roles r).outcome with
  | ok p => exact .inl ⟨p, rfl, fun t ht => module_of_mem h ht⟩
  | error f =>
    -- A failure of the first pass is one of a record at hand or of a file. The second pass adds
    -- those of roles.
    obtain hfirst | ⟨tasks, htasks, hsecond⟩ := play_outcome_eq_error.1 h
    · obtain hreported | ⟨e, rfl, hbreaks | ⟨u, hu, hunsayable⟩⟩ :=
        Inclusion.isReported_of_expand hfirst
      · exact .inr (.inl ⟨f, rfl, hreported⟩)
      · exact .inr (.inr ⟨e, rfl, .file hbreaks⟩)
      · exact .inr (.inr ⟨e, rfl, .record hu hunsayable⟩)
    · have hdescribed : ∀ t ∈ tasks, Role.Described fs (taskRecords r) t := by
        intro t ht
        obtain ⟨u, hbuild, hu⟩ := Inclusion.mem_expand htasks ht
        exact ⟨u, hu, hbuild⟩
      obtain hreported | ⟨e, rfl, hbreaks | ⟨rfl, t, ht, hnameless⟩⟩ :=
        (Role.fails_of_inline hsecond).isReported hdescribed
      · exact .inr (.inl ⟨f, rfl, hreported⟩)
      · exact .inr (.inr ⟨e, rfl, .file hbreaks⟩)
      · exact .inr (.inr ⟨_, rfl, .nameless ht hnameless⟩)

/-- A play with one task record, `{1: 2, a: 3}`, whose first key is a number. -/
def numberedPlay : Record :=
  [(.str "tasks", .list none [.map none [(.int 1, .int 2), (.str "a", .int 3)]])]

/-- **Failures escape:** that the record has two modules cannot be said. No file is read for it. -/
theorem escapes_numberedPlay :
    (play (.ofAnswers "/" []) "site.yml" "roles" numberedPlay).outcome =
      .error (.failure (.type "sequence item 0: expected str instance, int found")) := by
  refine play_outcome_eq_error.2 (.inl ?_)
  show (Inclusion.expand _ _ "site.yml" [[(.int 1, .int 2), (.str "a", .int 3)]]).outcome = _
  rw [Inclusion.expand_cons_fault rfl]
  rfl

end Resolution

end Playbook
