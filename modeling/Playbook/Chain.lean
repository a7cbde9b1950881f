/-!
# Chains without repetition

A chain of inclusions is refused when it comes back to a name. Where the names are taken from a
finite list, each step leaves fewer of them unvisited, so no chain goes on for ever.

Main definition: `Chain.unvisited`. Main statement: `Chain.unvisited_append_lt`.
-/

namespace Playbook

namespace Chain

/-- How many of some names are not on a chain. -/
def unvisited (names chain : List String) : Nat := (names.filter fun n => n ∉ chain).length

/-- **A new name leaves fewer unvisited.** -/
theorem unvisited_append_lt {names chain : List String} {name : String} (hname : name ∈ names)
    (hchain : name ∉ chain) : unvisited names (chain ++ [name]) < unvisited names chain := by
  simp only [unvisited]
  have hsub : ((names.filter fun n => n ∉ chain).filter fun n => n ≠ name) =
      names.filter fun n => n ∉ chain ++ [name] := by
    rw [List.filter_filter]
    congr 1
    funext n
    by_cases h1 : n ∈ chain <;> by_cases h2 : n = name <;> simp [h1, h2]
  rw [← hsub]
  refine List.length_filter_lt_length_iff_exists.2 ⟨name, ?_, by simp⟩
  simp [hname, hchain]

end Chain

end Playbook
