import Mathlib.Data.List.Basic
import Playbook.Path

/-!
# Paths that lead the same way

Paths are put together from parts, cut at their last slash and brought into a normal form, and one
text can come out of this in several spellings. What a path leads to is told from two things only,
the slashes it starts with and the components it is followed by.

* `Path.follow` — where a text leads from a place, which is a normal list of components.
* `Path.SameWay` — two paths lead the same way: they start with the same slashes, and lead to the
  same place from wherever they can be followed. Normal forms are equal then
  (`SameWay.normalize_eq`), and joining respects it (`SameWay.join_right`, `SameWay.join_left`).
* `Path.sameWay_normalize`, `Path.sameWay_parent_name`, `Path.sameWay_join_assoc` — a path leads the
  same way as its normal form, as its two parts put together again, and as its parts joined in
  another order.
* `Path.beside` — the normal path of something in the folder of a file. What is beside a file is in
  one folder with it, so both see paths alike (`Path.beside_beside`).

A path that starts at the root is followed from there only. That is why `SameWay` does not ask that
such a path leads to one place from everywhere: at the root a step up is lost, elsewhere it is not,
and the normal form has lost those at the root.
-/

namespace Playbook

namespace Path

/-! ### Components -/

/-- What a component can be in a normal form: neither nothing nor the folder itself. -/
structure IsPart (part : List Char) : Prop where
  /-- It is not empty. -/
  ne_nil : part ≠ []
  /-- It is not the folder itself. -/
  ne_here : part ≠ here
  /-- It has no slash in it. -/
  notMem : '/' ∉ part

/-- **A plain name:** a component that leads into the folder at hand. -/
structure IsName (part : List Char) : Prop extends IsPart part where
  /-- It is not the folder above. -/
  ne_up : part ≠ up

instance (part : List Char) : Decidable (IsName part) :=
  decidable_of_iff (part ≠ [] ∧ part ≠ here ∧ '/' ∉ part ∧ part ≠ up)
    ⟨fun ⟨hnil, hhere, hslash, hup⟩ => ⟨⟨hnil, hhere, hslash⟩, hup⟩,
      fun h => ⟨h.ne_nil, h.ne_here, h.notMem, h.ne_up⟩⟩

theorem notMem_of_mem_components {p part : List Char} (h : part ∈ components p) : '/' ∉ part := by
  induction p generalizing part with
  | nil =>
    obtain rfl : part = [] := by simpa using h
    exact List.not_mem_nil
  | cons c rest ih =>
    rw [components] at h
    split at h
    · rcases List.mem_cons.1 h with rfl | hmem
      · exact List.not_mem_nil
      · exact ih hmem
    · next hc =>
      split at h
      · obtain rfl : part = [c] := by simpa using h
        simpa using Ne.symm hc
      · next first more hrest =>
        -- the first component has grown by a character that is no slash
        rcases List.mem_cons.1 h with rfl | hmem
        · have hfirst : '/' ∉ first := ih (hrest ▸ List.mem_cons_self)
          simpa [hfirst] using Ne.symm hc
        · exact ih (hrest ▸ List.mem_cons_of_mem _ hmem)

/-- A text without slashes is one component. -/
theorem components_of_notMem {part : List Char} (h : '/' ∉ part) : components part = [part] := by
  induction part with
  | nil => rfl
  | cons c rest ih =>
    obtain ⟨hc, hrest⟩ : '/' ≠ c ∧ '/' ∉ rest := by simpa using h
    rw [components, if_neg hc.symm, ih hrest]

@[simp] theorem ofComponents_nil : ofComponents [] = [] := rfl

@[simp] theorem ofComponents_singleton (part : List Char) : ofComponents [part] = part :=
  List.intercalate_singleton

theorem ofComponents_cons_cons (part next : List Char) (rest : List (List Char)) :
    ofComponents (part :: next :: rest) = part ++ '/' :: ofComponents (next :: rest) := by
  rw [ofComponents, List.intercalate_cons_cons, List.append_assoc, List.singleton_append]
  rfl

theorem ofComponents_concat {parts : List (List Char)} (h : parts ≠ []) (part : List Char) :
    ofComponents (parts ++ [part]) = ofComponents parts ++ '/' :: part := by
  induction parts with
  | nil => exact absurd rfl h
  | cons first rest ih =>
    cases rest with
    | nil => rw [List.singleton_append, ofComponents_cons_cons, ofComponents_singleton,
        ofComponents_singleton]
    | cons next rest =>
      rw [List.cons_append, List.cons_append, ofComponents_cons_cons, ← List.cons_append,
        ih (by simp), ofComponents_cons_cons, List.append_assoc, List.cons_append]

/-- Components without slashes are those of the text they make up. -/
theorem components_ofComponents {parts : List (List Char)} (h : parts ≠ [])
    (hparts : ∀ part ∈ parts, '/' ∉ part) : components (ofComponents parts) = parts := by
  induction parts with
  | nil => exact absurd rfl h
  | cons first rest ih =>
    obtain ⟨hfirst, hrest⟩ := List.forall_mem_cons.1 hparts
    cases rest with
    | nil => rw [ofComponents_singleton, components_of_notMem hfirst]
    | cons next rest =>
      rw [ofComponents_cons_cons, components_append_slash, components_of_notMem hfirst,
        ih (by simp) hrest, List.singleton_append]

/-! ### Slashes at the start -/

theorem isAbsolute_iff {p : String} : isAbsolute p = true ↔ rootSlashes p.toList ≠ [] := by
  rw [isAbsolute]
  rcases p.toList with _ | ⟨c, rest⟩
  · simp [rootSlashes]
  · by_cases hc : c = '/'
    · subst hc
      unfold rootSlashes
      split <;> simp_all
    · simp [rootSlashes, hc]

/-- The slashes at the start are none, one or two. -/
theorem rootSlashes_cases (p : List Char) :
    rootSlashes p = [] ∨ rootSlashes p = ['/'] ∨ rootSlashes p = ['/', '/'] := by
  unfold rootSlashes
  split <;> simp

/-- The slashes at the start are told from the part of a text that is slashes only. -/
theorem rootSlashes_takeWhile (p : List Char) :
    rootSlashes (p.takeWhile (· == '/')) = rootSlashes p := by
  -- three slashes count as one, so nothing behind the third character matters
  rcases p with _ | ⟨a, _ | ⟨b, _ | ⟨c, rest⟩⟩⟩
  · rfl
  · by_cases ha : a = '/' <;> simp [rootSlashes, ha]
  · by_cases ha : a = '/' <;> by_cases hb : b = '/' <;> simp [rootSlashes, ha, hb]
  · by_cases ha : a = '/' <;> by_cases hb : b = '/' <;> by_cases hc : c = '/' <;>
      simp [rootSlashes, ha, hb, hc]

/-- What follows a text and starts with no slash changes nothing at its start. -/
theorem rootSlashes_append {y : List Char} (h : y.head? ≠ some '/') (x : List Char) :
    rootSlashes (x ++ y) = rootSlashes x := by
  have hy : y.takeWhile (· == '/') = [] := by
    cases y with
    | nil => rfl
    | cons d rest =>
      have hd : d ≠ '/' := by simpa using h
      simp [hd]
  rw [← rootSlashes_takeWhile, ← rootSlashes_takeWhile x, List.takeWhile_append, hy]
  split
  · next hall =>
    rw [List.append_nil, (List.takeWhile_prefix _).eq_of_length hall]
  · rfl

/-- What follows a text with something else than slashes changes nothing at its start. -/
theorem rootSlashes_append_of_mem {x : List Char} {c : Char} (hc : c ∈ x) (hne : c ≠ '/')
    (y : List Char) : rootSlashes (x ++ y) = rootSlashes x := by
  rw [← rootSlashes_takeWhile, ← rootSlashes_takeWhile x, List.takeWhile_append]
  split
  · next hall =>
    -- all of the text would be slashes
    rw [← (List.takeWhile_prefix _).eq_of_length hall] at hc
    exact absurd (by simpa using List.all_eq_true.1 List.all_takeWhile c hc) hne
  · rfl

/-! ### Slashes at the end -/

/-- A text is what is left without the slashes at its end, and slashes. -/
theorem exists_trimSlashes_append (p : List Char) :
    ∃ slashes : List Char, trimSlashes p ++ slashes = p ∧ ∀ c ∈ slashes, c = '/' := by
  rw [trimSlashes]
  split
  · exact ⟨[], by simp, by simp⟩
  · -- the slashes at the end are those at the start of the text read backwards
    refine ⟨(p.reverse.takeWhile (· == '/')).reverse, ?_, fun c hc => ?_⟩
    · rw [← List.reverse_append, List.takeWhile_append_dropWhile, List.reverse_reverse]
    · simpa using List.all_eq_true.1 List.all_takeWhile c (List.mem_reverse.1 hc)

/-- Slashes at the end of a text play no part at its start. -/
theorem rootSlashes_trimSlashes (p : List Char) : rootSlashes (trimSlashes p) = rootSlashes p := by
  by_cases hall : p.all (· == '/')
  · rw [trimSlashes, if_pos hall]
  · -- something else than slashes is left, and what is taken off comes after it
    obtain ⟨c, hc, hne⟩ : ∃ c ∈ p, c ≠ '/' := by simpa using hall
    obtain ⟨slashes, hp, hslashes⟩ := exists_trimSlashes_append p
    have hmem : c ∈ trimSlashes p := by
      rw [← hp] at hc
      exact (List.mem_append.1 hc).resolve_right fun h => hne (hslashes c h)
    rw [← rootSlashes_append_of_mem hmem hne slashes, hp]

/-- One slash at the end is taken off, after something else. -/
theorem trimSlashes_concat {x : List Char} {c : Char} (hc : c ≠ '/') :
    trimSlashes (x ++ [c] ++ ['/']) = x ++ [c] := by
  simp [trimSlashes, hc]

/-- A text that consists of slashes stays as it is. -/
theorem trimSlashes_of_all {p : List Char} (h : ∀ c ∈ p, c = '/') : trimSlashes p = p := by
  rw [trimSlashes, if_pos (by simpa using h)]

/-! ### Following a text -/

/-- Where the components of a text lead from a place, which is given by its normal components, the
last one first. -/
def follow (rooted : Bool) (place : List (List Char)) (p : List Char) : List (List Char) :=
  (components p).foldl (push rooted) place

section Follow

variable {rooted : Bool} {place : List (List Char)}

@[simp] theorem follow_nil : follow rooted place [] = place := by simp [follow]

theorem follow_append_slash (x y : List Char) :
    follow rooted place (x ++ '/' :: y) = follow rooted (follow rooted place x) y := by
  rw [follow, components_append_slash, List.foldl_append]
  rfl

theorem follow_of_notMem {part : List Char} (h : '/' ∉ part) :
    follow rooted place part = push rooted place part := by
  rw [follow, components_of_notMem h, List.foldl_cons, List.foldl_nil]

/-- Slashes before a text do not change where it leads. -/
theorem follow_slashes_append {slashes : List Char} (h : ∀ c ∈ slashes, c = '/') (x : List Char) :
    follow rooted place (slashes ++ x) = follow rooted place x := by
  induction slashes with
  | nil => rfl
  | cons c rest ih =>
    obtain ⟨rfl, hrest⟩ := List.forall_mem_cons.1 h
    have hcons : follow rooted place ([] ++ '/' :: (rest ++ x)) =
        follow rooted place (rest ++ x) := by
      rw [follow_append_slash, follow_nil]
    exact hcons.trans (ih hrest)

/-- Slashes lead nowhere else. -/
theorem follow_slashes {slashes : List Char} (h : ∀ c ∈ slashes, c = '/') :
    follow rooted place slashes = place := by
  rw [← List.append_nil slashes, follow_slashes_append h, follow_nil]

/-- Slashes after a text do not change where it leads. -/
theorem follow_append_slashes {slashes : List Char} (h : ∀ c ∈ slashes, c = '/') (x : List Char) :
    follow rooted place (x ++ slashes) = follow rooted place x := by
  cases slashes with
  | nil => rw [List.append_nil]
  | cons c rest =>
    obtain ⟨rfl, hrest⟩ := List.forall_mem_cons.1 h
    rw [follow_append_slash, follow_slashes hrest]

theorem follow_trimSlashes (p : List Char) :
    follow rooted place (trimSlashes p) = follow rooted place p := by
  obtain ⟨slashes, hp, hslashes⟩ := exists_trimSlashes_append p
  rw [← follow_append_slashes hslashes (trimSlashes p), hp]

theorem follow_ofComponents {parts : List (List Char)} (h : ∀ part ∈ parts, '/' ∉ part) :
    follow rooted place (ofComponents parts) = parts.foldl (push rooted) place := by
  cases parts with
  | nil => exact follow_nil
  | cons first rest => rw [follow, components_ofComponents (by simp) h]

end Follow

/-! ### Normal places -/

theorem IsName.push_eq {part : List Char} (h : IsName part) (rooted : Bool)
    (place : List (List Char)) : push rooted place part = part :: place := by
  simp [push, h.ne_nil, h.ne_here, h.ne_up]

/-- A step up is no empty component and not the folder itself. -/
theorem up_ne : ¬(up = [] ∨ up = here) := by decide

/-- A step up from a place with a name takes back the name. -/
theorem push_up {top : List Char} (h : top ≠ up) (rooted : Bool) (rest : List (List Char)) :
    push rooted (top :: rest) up = rest := by
  simp only [push, up_ne, h, ↓reduceIte]

/-- A step up from a place that lies above goes on above. -/
theorem push_up_up (rooted : Bool) (rest : List (List Char)) :
    push rooted (up :: rest) up = up :: up :: rest := by
  simp only [push, up_ne, ↓reduceIte]

/-- A step from a place with normal components leads to another one. -/
theorem isPart_of_mem_push {rooted : Bool} {place : List (List Char)} {part : List Char}
    (hplace : ∀ x ∈ place, IsPart x) (hpart : '/' ∉ part) :
    ∀ x ∈ push rooted place part, IsPart x := by
  have hup : IsPart up := ⟨by decide, by decide, by decide⟩
  intro x hx
  unfold push at hx
  split at hx
  · exact hplace x hx
  · next hreal =>
    obtain ⟨hnil, hhere⟩ := not_or.1 hreal
    split at hx
    · -- a step up takes one component back, or adds itself where there is nothing above
      split at hx
      · split at hx
        · cases hx
        · obtain rfl := List.mem_singleton.1 hx
          exact hup
      · next top rest =>
        split at hx
        · rcases List.mem_cons.1 hx with rfl | hmem
          · exact hup
          · exact hplace x hmem
        · exact hplace x (List.mem_cons_of_mem _ hx)
    · rcases List.mem_cons.1 hx with rfl | hmem
      · exact ⟨hnil, hhere, hpart⟩
      · exact hplace x hmem

/-- Steps over components without slashes keep a place normal. -/
theorem isPart_of_mem_foldl {rooted : Bool} {place parts : List (List Char)}
    (hplace : ∀ x ∈ place, IsPart x) (hparts : ∀ part ∈ parts, '/' ∉ part) :
    ∀ x ∈ parts.foldl (push rooted) place, IsPart x := by
  induction parts generalizing place with
  | nil => exact hplace
  | cons part rest ih =>
    obtain ⟨hpart, hrest⟩ := List.forall_mem_cons.1 hparts
    exact ih (isPart_of_mem_push hplace hpart) hrest

theorem isPart_of_mem_follow {rooted : Bool} {p x : List Char} (h : x ∈ follow rooted [] p) :
    IsPart x :=
  isPart_of_mem_foldl (by simp) (fun _ => notMem_of_mem_components) x h

/-- One step more in a normal place is one step more from where the place leads. A step up at the
root is lost, so there the place has to lead from the root. -/
theorem foldl_push_push {rooted rooted' : Bool} {place normal : List (List Char)}
    (h : rooted' = true → rooted = true ∧ place = []) (hnormal : ∀ x ∈ normal, IsPart x)
    (part : List Char) :
    (push rooted' normal part).reverse.foldl (push rooted) place =
      push rooted (normal.reverse.foldl (push rooted) place) part := by
  by_cases hnothing : part = [] ∨ part = here
  · simp [push, hnothing]
  by_cases hup : part = up
  · subst hup
    cases normal with
    | nil =>
      -- nothing to take back: the step up is lost at the root, and kept elsewhere
      cases rooted' with
      | false => rfl
      | true =>
        obtain ⟨rfl, rfl⟩ := h rfl
        rfl
    | cons top rest =>
      by_cases htop : top = up
      · rw [htop, push_up_up, List.reverse_cons, List.foldl_append]
        rfl
      · -- the step up takes back the last component, on both sides
        have hname : IsName top := ⟨hnormal top List.mem_cons_self, htop⟩
        rw [push_up htop, List.reverse_cons, List.foldl_append, List.foldl_cons, List.foldl_nil,
          hname.push_eq, push_up htop]
  · have hpush : push rooted' normal part = part :: normal := by
      simp [push, hnothing, hup]
    rw [hpush, List.reverse_cons, List.foldl_append]
    rfl

/-- **Normal components lead where the components do** that they come from. -/
theorem foldl_push_foldl {rooted rooted' : Bool} {place normal parts : List (List Char)}
    (h : rooted' = true → rooted = true ∧ place = []) (hnormal : ∀ x ∈ normal, IsPart x)
    (hparts : ∀ part ∈ parts, '/' ∉ part) :
    (parts.foldl (push rooted') normal).reverse.foldl (push rooted) place =
      parts.foldl (push rooted) (normal.reverse.foldl (push rooted) place) := by
  induction parts generalizing normal with
  | nil => rfl
  | cons part rest ih =>
    obtain ⟨hpart, hrest⟩ := List.forall_mem_cons.1 hparts
    rw [List.foldl_cons, ih (isPart_of_mem_push hnormal hpart) hrest, foldl_push_push h hnormal,
      List.foldl_cons]

theorem foldl_reverse_follow {rooted rooted' : Bool} {place : List (List Char)}
    (h : rooted' = true → rooted = true ∧ place = []) (p : List Char) :
    (follow rooted' [] p).reverse.foldl (push rooted) place = follow rooted place p :=
  foldl_push_foldl h (by simp) fun _ => notMem_of_mem_components

/-! ### Normal forms -/

/-- The text of a normal form, with nothing for the folder itself. -/
def spell (p : List Char) : List Char := rootSlashes p ++ ofComponents (normalComponents p)

theorem normalize_eq (p : String) :
    normalize p = if spell p.toList = [] then "." else String.ofList (spell p.toList) := rfl

theorem normalComponents_eq (p : List Char) :
    normalComponents p = (follow (rootSlashes p ≠ []) [] p).reverse := rfl

theorem isPart_of_mem_normalComponents {p part : List Char} (h : part ∈ normalComponents p) :
    IsPart part := by
  rw [normalComponents_eq, List.mem_reverse] at h
  exact isPart_of_mem_follow h

theorem eq_slash_of_mem_rootSlashes {p : List Char} : ∀ c ∈ rootSlashes p, c = '/' := by
  obtain h | h | h := rootSlashes_cases p <;> simp [h]

/-- Components do not start with a slash. -/
theorem head?_ofComponents {parts : List (List Char)} (h : ∀ part ∈ parts, IsPart part) :
    (ofComponents parts).head? ≠ some '/' := by
  cases parts with
  | nil => simp
  | cons first rest =>
    obtain ⟨c, more, hc⟩ := List.exists_cons_of_ne_nil (h first List.mem_cons_self).ne_nil
    have hne : c ≠ '/' := by
      rintro rfl
      exact (h first List.mem_cons_self).notMem (hc ▸ List.mem_cons_self)
    cases rest with
    | nil => simpa [hc] using hne
    | cons next rest => simpa [ofComponents_cons_cons, hc] using hne

/-- Slashes at the start are their own. -/
theorem rootSlashes_rootSlashes (p : List Char) : rootSlashes (rootSlashes p) = rootSlashes p := by
  obtain h | h | h := rootSlashes_cases p <;> rw [h] <;> rfl

theorem rootSlashes_spell (p : List Char) : rootSlashes (spell p) = rootSlashes p := by
  rw [spell, rootSlashes_append, rootSlashes_rootSlashes]
  exact head?_ofComponents fun _ => isPart_of_mem_normalComponents

/-- The text of a normal form leads where the path does, from the root if the path starts there. -/
theorem follow_spell {rooted : Bool} {place : List (List Char)} {p : List Char}
    (h : rootSlashes p ≠ [] → rooted = true ∧ place = []) :
    follow rooted place (spell p) = follow rooted place p := by
  rw [spell, follow_slashes_append eq_slash_of_mem_rootSlashes,
    follow_ofComponents fun _ hpart => (isPart_of_mem_normalComponents hpart).notMem,
    normalComponents_eq, foldl_reverse_follow (by simpa using h)]

/-! ### Leading the same way -/

/-- **Two paths lead the same way:** they start with the same slashes, and lead to the same place
from wherever they can be followed. -/
structure SameWay (a b : String) : Prop where
  /-- They start with the same slashes. -/
  root : rootSlashes a.toList = rootSlashes b.toList
  /-- They lead to the same place; from the root, if they start there. -/
  follow : ∀ rooted place, (rootSlashes a.toList ≠ [] → rooted = true ∧ place = []) →
    follow rooted place a.toList = follow rooted place b.toList

namespace SameWay

variable {a b c : String}

theorem refl (a : String) : SameWay a a := ⟨rfl, fun _ _ _ => rfl⟩

theorem symm (h : SameWay a b) : SameWay b a :=
  ⟨h.root.symm, fun rooted place hroot => (h.follow rooted place (h.root ▸ hroot)).symm⟩

theorem trans (h : SameWay a b) (h' : SameWay b c) : SameWay a c :=
  ⟨h.root.trans h'.root, fun rooted place hroot =>
    (h.follow rooted place hroot).trans (h'.follow rooted place (h.root ▸ hroot))⟩

theorem isAbsolute (h : SameWay a b) : isAbsolute a = isAbsolute b := by
  rw [Bool.eq_iff_iff, isAbsolute_iff, isAbsolute_iff, h.root]

/-- Paths that lead the same way have the same normal components. -/
theorem normalComponents_eq (h : SameWay a b) :
    normalComponents a.toList = normalComponents b.toList := by
  -- a normal form is followed from no place at all, and as from the root if it has slashes
  rw [Path.normalComponents_eq, Path.normalComponents_eq, ← h.root, h.follow]
  simp

/-- **Paths that lead the same way have one normal form.** -/
theorem normalize_eq (h : SameWay a b) : normalize a = normalize b := by
  rw [Path.normalize_eq, Path.normalize_eq, spell, spell, h.root, h.normalComponents_eq]

end SameWay

/-! ### Joining -/

theorem join_of_isAbsolute {v : String} (h : isAbsolute v = true) (a : String) : join a v = v := by
  rw [join, if_pos h]

/-- A joined path is one text after another, with one slash at least between them if there is
something before it. -/
theorem join_cases {v : String} (h : isAbsolute v = false) (a : String) :
    (a.toList = [] ∧ (join a v).toList = v.toList) ∨
      (∃ before, a.toList = before ++ ['/'] ∧ (join a v).toList = before ++ '/' :: v.toList) ∨
      (∃ c ∈ a.toList, c ≠ '/') ∧ (join a v).toList = a.toList ++ '/' :: v.toList := by
  rw [join, if_neg (by simp [h])]
  rcases List.eq_nil_or_concat' a.toList with hnil | ⟨before, c, hconcat⟩
  · left
    simp [hnil]
  · right
    by_cases hc : c = '/'
    · left
      exact ⟨before, by simp [hconcat, hc], by simp [hconcat, hc]⟩
    · right
      exact ⟨⟨c, by simp [hconcat], hc⟩, by simp [hconcat, hc]⟩

theorem head?_of_isAbsolute {v : String} (h : isAbsolute v = false) :
    v.toList.head? ≠ some '/' := by
  simpa [isAbsolute] using h

/-- A path inside a folder starts as the folder does. -/
theorem rootSlashes_join {v : String} (h : isAbsolute v = false) (a : String) :
    rootSlashes (join a v).toList = rootSlashes a.toList := by
  obtain ⟨ha, hjoin⟩ | ⟨before, ha, hjoin⟩ | ⟨⟨c, hc, hne⟩, hjoin⟩ := join_cases h a
  · rw [hjoin, ha]
    exact rootSlashes_append (head?_of_isAbsolute h) []
  · rw [hjoin, ha, List.append_cons, rootSlashes_append (head?_of_isAbsolute h)]
  · rw [hjoin, rootSlashes_append_of_mem hc hne]

/-- A path inside a folder leads on from where the folder leads. -/
theorem follow_join {v : String} (h : isAbsolute v = false) (a : String) (rooted : Bool)
    (place : List (List Char)) :
    follow rooted place (join a v).toList =
      follow rooted (follow rooted place a.toList) v.toList := by
  obtain ⟨ha, hjoin⟩ | ⟨before, ha, hjoin⟩ | ⟨-, hjoin⟩ := join_cases h a
  · rw [hjoin, ha, follow_nil]
  · rw [hjoin, ha, follow_append_slash, follow_append_slash, follow_nil]
  · rw [hjoin, follow_append_slash]

theorem isAbsolute_join {v : String} (h : isAbsolute v = false) (a : String) :
    isAbsolute (join a v) = isAbsolute a := by
  rw [Bool.eq_iff_iff, isAbsolute_iff, isAbsolute_iff, rootSlashes_join h]

namespace SameWay

variable {a b : String}

/-- Inside folders that paths lead to in the same way, a path leads the same way. -/
theorem join_right (h : SameWay a b) (v : String) : SameWay (join a v) (join b v) := by
  cases hv : Path.isAbsolute v with
  | true =>
    rw [join_of_isAbsolute hv, join_of_isAbsolute hv]
    exact refl v
  | false =>
    refine ⟨?_, fun rooted place hroot => ?_⟩
    · rw [rootSlashes_join hv, rootSlashes_join hv, h.root]
    · rw [rootSlashes_join hv] at hroot
      rw [follow_join hv, follow_join hv, h.follow rooted place hroot]

/-- Inside a folder, paths that lead the same way still do. -/
theorem join_left (h : SameWay a b) (folder : String) :
    SameWay (join folder a) (join folder b) := by
  cases ha : Path.isAbsolute a with
  | true =>
    rw [join_of_isAbsolute ha, join_of_isAbsolute (h.isAbsolute ▸ ha)]
    exact h
  | false =>
    have hb : Path.isAbsolute b = false := h.isAbsolute ▸ ha
    refine ⟨?_, fun rooted place _ => ?_⟩
    · rw [rootSlashes_join ha, rootSlashes_join hb]
    · rw [follow_join ha, follow_join hb, h.follow]
      -- neither path starts at the root, so they can be followed from anywhere
      intro hroot
      rw [← isAbsolute_iff, ha] at hroot
      cases hroot

end SameWay

/-- **Joining in another order** leads the same way. -/
theorem sameWay_join_assoc (a b v : String) :
    SameWay (join (join a b) v) (join a (join b v)) := by
  cases hv : isAbsolute v with
  | true =>
    rw [join_of_isAbsolute hv, join_of_isAbsolute hv, join_of_isAbsolute hv]
    exact .refl v
  | false =>
    cases hb : isAbsolute b with
    | true =>
      rw [join_of_isAbsolute hb, join_of_isAbsolute ((isAbsolute_join hv b).trans hb)]
      exact .refl _
    | false =>
      have hbv : isAbsolute (join b v) = false := (isAbsolute_join hv b).trans hb
      refine ⟨?_, fun rooted place _ => ?_⟩
      · rw [rootSlashes_join hv, rootSlashes_join hb, rootSlashes_join hbv]
      · rw [follow_join hv, follow_join hb, follow_join hbv, follow_join hv]

/-- **A path leads the same way as its normal form.** -/
theorem sameWay_normalize (p : String) : SameWay (normalize p) p := by
  rw [normalize_eq]
  split
  · next hempty =>
    have hroot : rootSlashes p.toList = [] := (List.append_eq_nil_iff.1 hempty).1
    refine ⟨hroot.symm, fun rooted place _ => ?_⟩
    -- what is spelt by nothing leads nowhere else, and neither does the single dot
    have hspell : Path.follow rooted place (spell p.toList) = Path.follow rooted place p.toList :=
      follow_spell fun h => absurd hroot h
    rw [hempty, follow_nil] at hspell
    rw [← hspell]
    rfl
  · refine ⟨?_, fun rooted place hroot => ?_⟩
    · rw [String.toList_ofList, rootSlashes_spell]
    · rw [String.toList_ofList, rootSlashes_spell] at hroot
      rw [String.toList_ofList, follow_spell hroot]

/-- Normal forms are normal. -/
@[simp] theorem normalize_normalize (p : String) : normalize (normalize p) = normalize p :=
  (sameWay_normalize p).normalize_eq

/-- Paths with one normal form lead the same way. -/
theorem sameWay_of_normalize_eq {a b : String} (h : normalize a = normalize b) : SameWay a b :=
  (sameWay_normalize a).symm.trans (h ▸ sameWay_normalize b)

/-! ### Cutting -/

/-- What stands before the name of a path: nothing, or something that ends in a slash. -/
def IsFolderText (folder : List Char) : Prop := folder = [] ∨ ∃ before, folder = before ++ ['/']

theorem split_eq (p : List Char) :
    split p =
      ((p.reverse.dropWhile (· ≠ '/')).reverse, (p.reverse.takeWhile (· ≠ '/')).reverse) := by
  have hp : (p.reverse.dropWhile (· ≠ '/')).reverse ++ (p.reverse.takeWhile (· ≠ '/')).reverse =
      p := by
    rw [← List.reverse_append, List.takeWhile_append_dropWhile, List.reverse_reverse]
  have htake : ∀ x y : List Char, (x ++ y).take ((x ++ y).length - y.length) = x := by simp
  have hfolder := htake (p.reverse.dropWhile (· ≠ '/')).reverse
    (p.reverse.takeWhile (· ≠ '/')).reverse
  rw [hp] at hfolder
  exact Prod.ext hfolder rfl

/-- A path is what stands before its name, and its name. -/
theorem split_append (p : List Char) : (split p).1 ++ (split p).2 = p := by
  rw [split_eq, ← List.reverse_append, List.takeWhile_append_dropWhile, List.reverse_reverse]

theorem notMem_split (p : List Char) : '/' ∉ (split p).2 := by
  intro hmem
  rw [split_eq, List.mem_reverse] at hmem
  simpa using List.all_eq_true.1 List.all_takeWhile '/' hmem

theorem isFolderText_split (p : List Char) : IsFolderText (split p).1 := by
  rw [split_eq]
  match h : p.reverse.dropWhile (· ≠ '/') with
  | [] => exact .inl rfl
  | c :: rest =>
    have hc := List.head?_dropWhile_not (· ≠ '/') p.reverse
    rw [h] at hc
    obtain rfl : c = '/' := by simpa using hc
    exact .inr ⟨rest.reverse, List.reverse_cons⟩

/-- The parts of a path are those it is put together from. -/
theorem split_of_append {folder file : List Char} (hfolder : IsFolderText folder)
    (hfile : '/' ∉ file) : split (folder ++ file) = (folder, file) := by
  have hall : ∀ c ∈ file.reverse, decide (c ≠ '/') = true := by
    intro c hc
    rw [decide_eq_true_iff]
    rintro rfl
    exact hfile (List.mem_reverse.1 hc)
  -- the search from the end goes through the name and stops at the slash before it
  rw [split_eq, List.reverse_append, List.takeWhile_append_of_pos hall,
    List.dropWhile_append_of_pos hall]
  rcases hfolder with rfl | ⟨before, rfl⟩ <;> simp

/-- The slash that ends what stands before the name plays no part in where it leads. -/
theorem follow_folder_append {folder file : List Char} (hfolder : IsFolderText folder)
    (rooted : Bool) (place : List (List Char)) :
    follow rooted place (folder ++ file) = follow rooted (follow rooted place folder) file := by
  rcases hfolder with rfl | ⟨before, rfl⟩
  · rw [List.nil_append, follow_nil]
  · rw [← List.append_cons, follow_append_slash, follow_append_slash, follow_nil]

/-- A text without slashes is no absolute path. -/
theorem isAbsolute_of_notMem {v : String} (h : '/' ∉ v.toList) : isAbsolute v = false := by
  rw [isAbsolute, beq_eq_false_iff_ne]
  exact fun hhead => h (List.mem_of_head? hhead)

/-- **A path leads the same way as its two parts put together again.** -/
theorem sameWay_parent_name (p : String) : SameWay (join (parent p) (name p)) p := by
  have hfolder := isFolderText_split p.toList
  have hname : '/' ∉ (name p).toList := by
    rw [name, String.toList_ofList]
    exact notMem_split p.toList
  have hrelative := isAbsolute_of_notMem hname
  have hp : (split p.toList).1 ++ (name p).toList = p.toList := by
    rw [name, String.toList_ofList, split_append]
  refine ⟨?_, fun rooted place _ => ?_⟩
  · rw [rootSlashes_join hrelative, parent, String.toList_ofList, rootSlashes_trimSlashes, ← hp,
      rootSlashes_append (head?_of_isAbsolute hrelative), hp]
  · rw [follow_join hrelative, parent, String.toList_ofList, follow_trimSlashes, ← hp,
      follow_folder_append hfolder, hp]

/-- A plain name in a folder is its last normal component. -/
theorem normalComponents_join {v : String} (h : IsName v.toList) (folder : String) :
    normalComponents (join folder v).toList = normalComponents folder.toList ++ [v.toList] := by
  have hrelative := isAbsolute_of_notMem h.notMem
  rw [normalComponents_eq, rootSlashes_join hrelative, follow_join hrelative,
    follow_of_notMem h.notMem, h.push_eq, List.reverse_cons, normalComponents_eq]

/-- Components that are not nothing do not end in a slash. -/
theorem exists_concat_ofComponents {parts : List (List Char)} (h : parts ≠ [])
    (hparts : ∀ part ∈ parts, IsPart part) :
    ∃ before c, ofComponents parts = before ++ [c] ∧ c ≠ '/' := by
  obtain hnil | ⟨rest, part, rfl⟩ := List.eq_nil_or_concat' parts
  · exact absurd hnil h
  have hpart := hparts part (by simp)
  obtain hnil | ⟨first, c, rfl⟩ := List.eq_nil_or_concat' part
  · exact absurd hnil hpart.ne_nil
  have hne : c ≠ '/' := by
    rintro rfl
    exact hpart.notMem (by simp)
  cases rest with
  | nil => exact ⟨first, c, by simp, hne⟩
  | cons next rest =>
    refine ⟨ofComponents (next :: rest) ++ '/' :: first, c, ?_, hne⟩
    rw [ofComponents_concat (by simp), List.append_assoc, List.cons_append]

theorem isFolderText_rootSlashes (p : List Char) : IsFolderText (rootSlashes p) := by
  obtain h | h | h := rootSlashes_cases p <;> rw [h]
  · exact .inl rfl
  · exact .inr ⟨[], rfl⟩
  · exact .inr ⟨['/'], rfl⟩

/-- **The text of a normal form** is the text of what stands before its last component, and this
component. -/
theorem exists_folder_spell {p part : List Char} {before : List (List Char)}
    (h : normalComponents p = before ++ [part]) :
    ∃ folder, IsFolderText folder ∧ trimSlashes folder = rootSlashes p ++ ofComponents before ∧
      spell p = folder ++ part := by
  have hparts : ∀ x ∈ before, IsPart x := fun x hx =>
    isPart_of_mem_normalComponents (h ▸ List.mem_append_left _ hx)
  rw [spell, h]
  by_cases hempty : before = []
  · -- only the slashes at the start stand before the name
    refine ⟨rootSlashes p, isFolderText_rootSlashes p, ?_, by simp [hempty]⟩
    rw [trimSlashes_of_all eq_slash_of_mem_rootSlashes, hempty, ofComponents_nil, List.append_nil]
  · -- one slash stands between the folder and the name, and is taken off
    refine ⟨rootSlashes p ++ ofComponents before ++ ['/'], .inr ⟨_, rfl⟩, ?_, ?_⟩
    · obtain ⟨first, c, hconcat, hne⟩ := exists_concat_ofComponents hempty hparts
      rw [hconcat, ← List.append_assoc, trimSlashes_concat hne]
    · rw [ofComponents_concat hempty, List.append_cons, List.append_assoc, List.append_assoc,
        List.append_assoc]

/-- **A plain name in a folder** is cut from the text of the normal form of the folder. -/
theorem parent_normalize_join {v : String} (h : IsName v.toList) (folder : String) :
    parent (normalize (join folder v)) = String.ofList (spell folder.toList) := by
  obtain ⟨before, hfolder, htrim, htext⟩ := exists_folder_spell (normalComponents_join h folder)
  rw [rootSlashes_join (isAbsolute_of_notMem h.notMem)] at htrim
  have hne : spell (join folder v).toList ≠ [] := by
    rw [htext]
    simp [h.ne_nil]
  rw [normalize_eq, if_neg hne, htext, parent, String.toList_ofList,
    split_of_append hfolder h.notMem, htrim, spell]

/-- **The folder of a plain name** in a folder is that folder. -/
theorem sameWay_parent_normalize_join {v : String} (h : IsName v.toList) (folder : String) :
    SameWay (parent (normalize (join folder v))) folder := by
  rw [parent_normalize_join h]
  refine ⟨?_, fun rooted place hroot => ?_⟩
  · rw [String.toList_ofList, rootSlashes_spell]
  · rw [String.toList_ofList, rootSlashes_spell] at hroot
    rw [String.toList_ofList, follow_spell hroot]

/-- Folders in which one name leads the same way lead the same way themselves. -/
theorem SameWay.of_join {a b v : String} (hv : IsName v.toList)
    (h : SameWay (join a v) (join b v)) : SameWay a b := by
  have hfolder := sameWay_parent_normalize_join hv a
  rw [h.normalize_eq] at hfolder
  exact hfolder.symm.trans (sameWay_parent_normalize_join hv b)

/-- Plain names that lead the same way in one folder are equal. -/
theorem eq_of_sameWay_join {folder v w : String} (hv : IsName v.toList) (hw : IsName w.toList)
    (h : SameWay (join folder v) (join folder w)) : v = w := by
  have hparts := h.normalComponents_eq
  rw [normalComponents_join hv, normalComponents_join hw] at hparts
  have hnames : v.toList = w.toList := by simpa using hparts
  exact String.toList_inj.1 hnames

/-! ### Beside a file -/

/-- The normal path of something in the folder of a file. -/
def beside (p v : String) : String := normalize (join (parent p) v)

/-- **What is beside a file shares its folder:** a path is seen from both alike. -/
theorem beside_beside {g : String} (h : IsName g.toList) (p v : String) :
    beside (beside p g) v = beside p v :=
  ((sameWay_parent_normalize_join h (parent p)).join_right v).normalize_eq

/-- A file is beside itself, by its own name. -/
theorem beside_name (p : String) : beside p (name p) = normalize p :=
  (sameWay_parent_name p).normalize_eq

/-- A path seen from a working directory is its normal form inside the directory. -/
theorem absolute_eq (directory p : String) :
    absolute directory p = normalize (join directory p) := by
  rw [absolute]
  split
  · next h => rw [join_of_isAbsolute h]
  · rfl

/-- What is beside a file, seen from a working directory, is in the folder of the file as it is seen
from there. -/
theorem absolute_beside (directory p v : String) :
    absolute directory (beside p v) = normalize (join (join directory (parent p)) v) := by
  rw [absolute_eq]
  exact (((sameWay_normalize (join (parent p) v)).join_left directory).trans
    (sameWay_join_assoc directory (parent p) v).symm).normalize_eq

/-- **Files of one name in one folder are one file:** where the same path is beside two of them, the
two have the same normal name. -/
theorem absolute_eq_of_beside {g p q directory : String} (h : IsName g.toList)
    (hname : name p = name q)
    (heq : absolute directory (beside p g) = absolute directory (beside q g)) :
    absolute directory p = absolute directory q := by
  -- a file is in the folder of what is beside it, under its name
  have hself : ∀ r, absolute directory r =
      normalize (join (parent (absolute directory (beside r g))) (name r)) := by
    intro r
    have hfolder := sameWay_parent_normalize_join h (join directory (parent r))
    rw [absolute_beside, (hfolder.join_right (name r)).normalize_eq, ← absolute_beside,
      beside_name, absolute_eq, absolute_eq]
    exact (((sameWay_normalize r).join_left directory).symm).normalize_eq
  rw [hself p, hself q, heq, hname]

end Path

end Playbook
