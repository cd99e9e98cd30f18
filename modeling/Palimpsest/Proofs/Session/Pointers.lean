import Palimpsest.Proofs.Machine.Rounds
import Palimpsest.Proofs.Session.Acts
import Palimpsest.Proofs.Thread.Pointer

/-!
# Pointers stay inside the program

Other threads may take the letters of a row away from under a pointer, but never the
row. So a thread stands in an existing row at all times, not before its first
column. After a step of its own it stands at a letter, and only a jump to an address
may take it to the beginning of a row that is empty.
-/

namespace Palimpsest

namespace Machine

/-- A step of any thread leaves all threads inside the program. -/
theorem lasting_stands : Lasting (fun _ => True) fun program thread => thread.Stands program where
  joined := by
    intro program location memory name key _ ink _
    exact ⟨location, rfl, Grid.hasPlace_of_isTarget (Frame.isTarget_of_hasInk ink)⟩
  stepped _ _ stepped := ⟨trivial, Scene.stands_of_step_eq_ok stepped⟩
  failed _ stands failed := ⟨trivial, Scene.stands_of_step_eq_error stands failed⟩
  watched := by
    intro scene thread stands
    obtain ⟨requests, left⟩ := Scene.exists_requests_step scene
    rw [left]
    exact stands.mono (scene.program.lineCount_le_afterAll requests)
  redrawn _ := ⟨trivial, fun _ stands => stands⟩

/-- No act takes rows away. -/
theorem Act.lineCount_le {machine next : Machine} (act : machine.Act next) :
    machine.program.lineCount ≤ next.program.lineCount := by
  cases act with
  | @join monitor name location memory ink addresses =>
      have kept := Session.program_leftBy_startThread name location memory (machine, monitor)
      exact Nat.le_of_eq (congrArg Program.lineCount kept).symm
  | step monitor =>
      obtain ⟨requests, left⟩ := exists_requests_step machine monitor
      rw [left]
      exact machine.program.lineCount_le_afterAll requests
  | redraw => exact Nat.le_refl _

theorem Acts.lineCount_le {machine next : Machine} (acts : machine.Acts next) :
    machine.program.lineCount ≤ next.program.lineCount := by
  induction acts with
  | refl => exact Nat.le_refl _
  | tail _ act inductionHypothesis => exact Nat.le_trans inductionHypothesis act.lineCount_le

/-- A step that succeeds has moved the thread under the cursor and nothing else but
the program, and the thread has arrived where it may. -/
theorem arrives_of_step_eq_ok {machine next : Machine} {monitor told : Monitor} {thread : Thread}
    (under : machine.threads[machine.cursor]? = some thread)
    (stepped : step (machine, monitor) = .ok () (next, told)) :
    ∃ moved, moved.key = thread.key ∧ next = machine.afterStep moved next.program ∧
      moved.Arrives next.program (thread.opcode? machine.program) := by
  rcases step_eq_ok stepped with ⟨idle, _⟩ | ⟨other, scene, same, scene_eq, rfl⟩
  · exact absurd (idle.symm.trans under) nofun
  · cases under.symm.trans same
    exact ⟨scene.thread, Scene.key_of_step_eq_ok scene_eq, rfl,
      Scene.arrives_of_step_eq_ok scene_eq⟩

end Machine

namespace Session

theorem lineCount_le_afterAll {session : Session} {calls : List Call} (others : .start ∉ calls) :
    session.currentProgram.lineCount ≤ (session.afterAll calls).currentProgram.lineCount :=
  Machine.Acts.lineCount_le (follows_afterAll others).acts

/-- Whatever is called, every live thread of the machine has a pointer in an existing
row and not before its first column. A step that a machine makes for the thread under
its cursor ends that thread or takes it to a letter, which is one of a word unless the
thread has jumped to an address; then it may also arrive at the beginning of a row. And
rows are not taken away until the session is started over. -/
theorem pointers_stay_inside (text : Text) (options : Options) (path : Option String)
    (stamp : Stamp) (observers : List Observer) (threshold : Int) (calls : List Call) :
    let session := (create text options path stamp observers threshold).afterAll calls
    (∀ thread ∈ session.currentMachine.threads, ∃ location, thread.pointer = some location ∧
      0 ≤ location.row ∧ location.row < session.currentProgram.lineCount ∧ 0 ≤ location.col) ∧
    (∀ machine monitor thread next told, machine.threads[machine.cursor]? = some thread →
      Machine.step (machine, monitor) = .ok () (next, told) →
      ∃ moved : Thread, moved.key = thread.key ∧ next = machine.afterStep moved next.program ∧
        moved.Arrives next.program (thread.opcode? machine.program)) ∧
    (∀ later, .start ∉ later →
      session.currentProgram.lineCount ≤ (session.afterAll later).currentProgram.lineCount) := by
  intro session
  refine ⟨?_, fun _ _ _ _ _ => Machine.arrives_of_step_eq_ok, fun _ => lineCount_le_afterAll⟩
  exact (sound_afterAll Machine.lasting_stands text options path stamp observers threshold
    trivial calls).2

/-- Two threads stand in the second row of three. -/
theorem pointers_stay_inside_waiting :
    let session := (create "-- volute\nMOUSE r\nx".toList ⟨false, 5, true⟩ none ⟨"now", "one"⟩
      [] 10).afterAll [.start, .click ⟨2, 0⟩, .step]
    session.currentMachine.threads.map Thread.pointer = [some ⟨1, 6⟩, some ⟨1, 0⟩] ∧
      ∀ thread ∈ session.currentMachine.threads, ∃ location, thread.pointer = some location ∧
        0 ≤ location.row ∧ location.row < session.currentProgram.lineCount ∧
          0 ≤ location.col := by
  intro session
  have inside := (pointers_stay_inside "-- volute\nMOUSE r\nx".toList ⟨false, 5, true⟩ none
    ⟨"now", "one"⟩ [] 10 [.start, .click ⟨2, 0⟩, .step]).1
  exact ⟨by decide +kernel, inside⟩

end Session

end Palimpsest
