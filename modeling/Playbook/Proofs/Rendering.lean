import Playbook.Proofs.FaultKinds
import Playbook.Rendering

/-!
# What rendering fails with

A failed run of a template is reported as a fault of the template if the failure is of a kind that
templates and filters are taken to be at fault for. Other failures escape as they are, and then the
program ends without an exit code of its own.

Main definition: `Fault.reportedKinds`, the kinds of failures that are reported.

Main statement: `Rendering.ofText_cases`; that failures escape at all is
`Rendering.escapes_openGroup`.
-/

namespace Playbook

namespace Fault

/-- The kinds of failures that are taken to be the fault of a template. -/
def reportedKinds : List FailureKind :=
  [FailureKind.template, .undefined, .run, .type, .value, .decoding, .base64]

/-- What a failed run is reported as depends on the kind of the failure. -/
theorem ofRun_cases (t : String) (f : Failure) :
    f.kind ∈ reportedKinds ∧ (∃ problem, ofRun t f = .template problem (some t)) ∨
      f.kind ∉ reportedKinds ∧ ofRun t f = .failure f := by
  obtain ⟨kind, message⟩ := f
  cases kind <;>
    first
      | exact .inl ⟨by simp [reportedKinds], _, rfl⟩
      | exact .inr ⟨by simp [reportedKinds], rfl⟩

end Fault

/-- Of the filters of values, two have ways to fail that are not reported, besides the depth of
values: a pattern or a replacement may be malformed, and not everything can be turned into bytes. -/
theorem Filter.kind_of_not_reported {f : Filter} {k : FailureKind} (h : k ∈ f.callKinds)
    (hk : k ∉ Fault.reportedKinds) :
    k = .depth ∨
      (∃ pattern replacement, f = .substitute pattern replacement ∧
        k ∈ [FailureKind.pattern, .index, .overflow]) ∨
      f = .encode64 ∧ k = .attribute := by
  cases f <;> cases k <;> simp_all [callKinds, faultKinds, Fault.reportedKinds]

namespace Rendering

open Fault (reportedKinds)

/-- The run of a template in some surroundings. -/
def runOf (t : String) (s : Surroundings) : Template.Run :=
  Template.run t (.ofEntries s.names) s.changes s.next

theorem runIn_ofText_of_isPlain {t : String} (h : Template.isPlain t = true) (s : Surroundings) :
    ((ofText t).runIn s).1 = .ok t := by
  rw [ofText, if_pos h]
  rfl

/-- **What a template gives** is what its run gives, as it is reported, and what it leaves of its
surroundings is what its run leaves. -/
theorem runIn_ofTemplate (t : String) (s : Surroundings) :
    (ofTemplate t).runIn s =
      ((runOf t s).result.mapError (.ofRun t), s.after (runOf t s).traces) := by
  unfold ofTemplate runOf
  -- What a run gives does not matter here.
  generalize Template.run = run
  show ExceptT.run (_ : Rendering String)
    (s.after (run t (.ofEntries s.names) s.changes s.next).traces) = _
  split
  · rename_i text hresult
    rw [hresult]
    rfl
  · rename_i f hresult
    rw [hresult]
    rfl

/-- A text that is not plain is run as a template, and what it fails with is reported. -/
theorem runIn_ofText_of_not_isPlain {t : String} (h : Template.isPlain t = false)
    (s : Surroundings) :
    ((ofText t).runIn s).1 = (runOf t s).result.mapError (.ofRun t) := by
  rw [ofText, if_neg (by simp [h]), runIn_ofTemplate]

/-- **A rendered text** is a text, or rendering it fails as the run of the template does: with a
fault of the template, which exits with a code, if the failure is of a kind that is reported, and
with the failure itself if it is not. What escapes in this way is the failure of reading the
template, or one that the template may fail with by what it consists of. -/
theorem ofText_cases (t : String) (s : Surroundings) :
    (∃ text, ((ofText t).runIn s).1 = .ok text) ∨
      (∃ f problem, (runOf t s).result = .error f ∧ f.kind ∈ reportedKinds ∧
        ((ofText t).runIn s).1 = .error (.template problem (some t)) ∧
        (Fault.template problem (some t)).exitCode? = some 3) ∨
      ∃ f, (runOf t s).result = .error f ∧ f.kind ∉ reportedKinds ∧
        ((ofText t).runIn s).1 = .error (.failure f) ∧ (Fault.failure f).exitCode? = none ∧
        (Template.settledOf t = .error f ∨
          ∃ settled, Template.settledOf t = .ok settled ∧ f.kind ∈ settled.faultKinds) := by
  cases hplain : Template.isPlain t with
  | true => exact .inl ⟨t, runIn_ofText_of_isPlain hplain s⟩
  | false =>
    rw [runIn_ofText_of_not_isPlain hplain s]
    cases hresult : (runOf t s).result with
    | ok text => exact .inl ⟨text, rfl⟩
    | error f =>
      rcases Fault.ofRun_cases t f with ⟨hkind, problem, h⟩ | ⟨hkind, h⟩
      · exact .inr (.inl ⟨f, problem, rfl, hkind, congrArg Except.error h, rfl⟩)
      · have hway := Template.kind_mem_of_run hresult
        exact .inr (.inr ⟨f, rfl, hkind, congrArg Except.error h, rfl, hway⟩)

-- A template that can only escape for the depth of values.
example :
    (Template.settledOf "\x7b\x7b name | default('x') | b64decode | upper \x7d\x7d").toOption.map
      (fun t => t.faultKinds.filter fun k => !reportedKinds.contains k && k != .depth) =
    some [] := by
  decide +kernel

/-- **Failures escape:** a pattern may be malformed. -/
theorem escapes_openGroup :
    (ofText "\x7b\x7b 'a' | regex_replace('(', 'x') \x7d\x7d").result [] =
      .error (.failure ⟨.pattern, "missing ), unterminated subpattern at position 0"⟩) := by
  have htest : (match (ofText "\x7b\x7b 'a' | regex_replace('(', 'x') \x7d\x7d").result [] with
      | .error (.failure f) => f == ⟨.pattern, "missing ), unterminated subpattern at position 0"⟩
      | _ => false) = true := by decide +kernel
  split at htest
  · next f h =>
    rw [h, eq_of_beq htest]
  · cases htest

end Rendering

end Playbook
