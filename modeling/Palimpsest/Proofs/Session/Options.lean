import Palimpsest.Proofs.Session.Agreement
import Palimpsest.Proofs.Session.View

/-!
# Options do not change execution

Sessions on one text that differ in their update mode and in whether they keep a
trace go through the same run, whatever calls drive them. What does differ is
when readers of the view see it.
-/

namespace Palimpsest.Session

/-- Readers of a started session see the text of its program. -/
def ViewInStep (session : Session) : Prop :=
  ∀ program, session.program? = some program → session.view.text = program.text

theorem Shown.viewInStep {session : Session} (shown : session.Shown) : session.ViewInStep := by
  intro program started
  rcases Option.map_eq_some_iff.mp started with ⟨machine, machine_eq, rfl⟩
  rw [Shown, currentProgram, machine_eq] at shown
  rw [view, program?, machine_eq]
  exact Program.view_text_eq shown

/-- Whether a call brings the view up to date when it succeeds. -/
def Call.settlesView : Call → Bool
  | .run _ => true
  | .stop => true
  | _ => false

theorem Faithful.shown_of_settlesView {session next : Session} (faithful : session.Faithful)
    {call : Call} (settles : call.settlesView = true) {answer : Answer}
    (performed : perform call session = .ok answer next) : next.Shown := by
  cases call with
  | run limit =>
      rcases bind_eq_ok_iff.mp performed with ⟨status, left, ran, ⟨⟩⟩
      exact shown_of_run_eq_ok faithful ran
  | stop =>
      rcases bind_eq_ok_iff.mp performed with ⟨_, left, stopped, ⟨⟩⟩
      exact shown_of_stop_eq_ok faithful stopped
  | start => cases settles
  | step => cases settles
  | click location => cases settles

/-- Sessions on one text that differ in the update mode, in whether a trace is
kept and in their stamps give every call the same answer or the same failure,
and after every call they show the same run: the status, the error, the grid,
the entry point, the threads, the cursor and the number of steps are the same,
and the receipts differ at most in the stamp and in the trace. With immediate
updates the view of a started session spells its text after every call; in
either mode it does so after every run or stop that succeeds, and whenever the
session is frozen by a fault. All grids are taken to be moderate. -/
theorem options_do_not_change_execution (text : Text) (path : Option String)
    (observers : List Observer) (threshold maxSteps : Int)
    (immediate keepsTrace otherImmediate otherKeepsTrace : Bool) (stamp otherStamp : Stamp)
    (calls : List Call) (call : Call)
    (stays : (create text ⟨immediate, maxSteps, keepsTrace⟩ path stamp observers
      threshold).StaysModerate (calls ++ [call])) :
    let session := (create text ⟨immediate, maxSteps, keepsTrace⟩ path stamp observers
      threshold).afterAll calls
    let other := (create text ⟨otherImmediate, maxSteps, otherKeepsTrace⟩ path otherStamp
      observers threshold).afterAll calls
    SameOutcome Eq Alike (perform call session) (perform call other) ∧
      (session.after call).Alike (other.after call) ∧
      (session.after call).receipt =
        { (other.after call).receipt with
          stamp := (session.after call).stamp
          steps := (session.after call).recorder.trace } ∧
      (immediate = true → (session.after call).ViewInStep) ∧
      (call.settlesView = true → ∀ answer next, perform call session = .ok answer next →
        next.ViewInStep) ∧
      ((session.after call).status = some .error → (session.after call).ViewInStep) := by
  intro session other
  rcases stays.of_append with ⟨staysBefore, staysAfter⟩
  have alike : session.Alike other := by
    apply Alike.afterAll _ staysBefore
    exact ⟨rfl, rfl, rfl, .none, rfl, rfl, rfl, rfl⟩
  have same := sameOutcome_perform alike staysAfter.moderate staysAfter.2.1
  have afterAlike : (session.after call).Alike (other.after call) := by
    rw [after_eq_leftBy, after_eq_leftBy]
    exact same.leftBy
  have faithful : session.Faithful := (faithful_of_fresh rfl).afterAll calls
  have faithfulAfter := faithful.after call
  refine ⟨same, afterAlike, afterAlike.receipt, ?_, ?_, ?_⟩
  · intro updated
    have immediateAfter : (session.after call).options.immediate = true := by
      rw [options_after, options_afterAll]
      exact updated
    exact (faithfulAfter.shown_of_immediate immediateAfter).viewInStep
  · intro settles answer next performed
    exact (faithful.shown_of_settlesView settles performed).viewInStep
  · intro harmed
    exact (faithfulAfter.frozen harmed).viewInStep

theorem options_do_not_change_execution_paste :
    let session := (create "-- volute\nl#x l#y n h\n#x3:1 #yab".toList ⟨true, 5, true⟩ none
      ⟨"now", "one"⟩ [.reporter 10] 10).afterAll [.start]
    let other := (create "-- volute\nl#x l#y n h\n#x3:1 #yab".toList ⟨false, 5, false⟩ none
      ⟨"later", "two"⟩ [.reporter 10] 10).afterAll [.start]
    SameOutcome Eq Alike (perform (.run none) session) (perform (.run none) other) ∧
      (session.after (.run none)).status = some .halted ∧
      (session.after (.run none)).ViewInStep := by
  intro session other
  obtain ⟨same, _, _, inStep, _⟩ := options_do_not_change_execution
    "-- volute\nl#x l#y n h\n#x3:1 #yab".toList none [.reporter 10] 10 5 true true false false
    ⟨"now", "one"⟩ ⟨"later", "two"⟩ [.start] (.run none) (by decide +kernel)
  exact ⟨same, by decide +kernel, inStep rfl⟩

end Palimpsest.Session
