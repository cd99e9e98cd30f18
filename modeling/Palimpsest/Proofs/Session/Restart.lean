import Palimpsest.Proofs.Grid.Lines
import Palimpsest.Proofs.Session.Moves
import Palimpsest.Proofs.Session.Twins

/-!
# Starting over

A start forgets everything that a session has been through. Edits, clicks, faults,
timeouts and stops leave no trace in it, and observers that have been told of them
take what comes as if they had not. So a session that is started again shows what a
new session on the same text shows when it is started, and goes on showing it through
whatever comes later.
-/

namespace Palimpsest.Session

/-- Two sessions that show the same in every respect but the stamp of their receipts. -/
structure ShowsAlike (session other : Session) : Prop where
  machine : session.machine = other.machine
  view : session.view = other.view
  status : session.status = other.status
  error : session.error = other.error
  recorder : session.recorder = other.recorder
  receipt : session.receipt = { other.receipt with stamp := session.stamp }

/-- Twins on equal programs, all of whose remarks count. -/
abbrev StrictTwin : Session → Session → Prop :=
  Twin Eq fun _ => true

variable {session other : Session}

theorem StrictTwin.remarks_eq (twin : session.StrictTwin other) :
    session.remarks = other.remarks := by
  have same := twin.remarks
  simpa using same

theorem StrictTwin.machine_eq (twin : session.StrictTwin other) :
    session.machine = other.machine := by
  rcases twin.machine_cases with
    ⟨unstarted, otherUnstarted⟩ | ⟨machine, otherMachine, started, otherStarted, machines⟩
  · rw [unstarted, otherUnstarted]
  · rw [started, otherStarted, machines.eq]

theorem StrictTwin.view_eq (twin : session.StrictTwin other) : session.view = other.view := by
  rw [view, view, program?, program?, twin.machine_eq, twin.source]

theorem StrictTwin.showsAlike (twin : session.StrictTwin other) (path : session.path = other.path) :
    session.ShowsAlike other where
  machine := twin.machine_eq
  view := twin.view_eq
  status := twin.status
  error := twin.error
  recorder := twin.recorder
  receipt := by
    rw [twin.receipt .ofEq, path, ← path_receipt, twin.remarks_eq, ← remarks_receipt]

/-- A call that leaves strict twins leaves sessions that show the same, for it keeps
the paths. -/
theorem sameOutcome_showsAlike {call : Call} (path : session.path = other.path)
    (same : SameOutcome Eq StrictTwin (perform call session) (perform call other)) :
    SameOutcome Eq ShowsAlike (perform call session) (perform call other) := by
  apply same.withLeft
  apply StrictTwin.showsAlike same.leftBy
  have kept := congrArg Setup.path (keepsSetup_perform call session)
  have otherKept := congrArg Setup.path (keepsSetup_perform call other)
  exact (kept.trans path).trans otherKept.symm

/-- A start goes back to the grid that the text has when it is first loaded. -/
theorem grid_after_start (text : Text) (source : session.source = (Buffer.load text).text) :
    (session.after .start).program?.map Program.grid = some (Buffer.load text).rows := by
  have left : session.after .start = leftBy (start session) := by
    rw [after_eq_leftBy]
    exact leftBy_bind_pure start (fun _ => Answer.done) session
  obtain ⟨machine, started⟩ := Option.isSome_iff_exists.mp (isSome_machine_leftBy_start session)
  have grid_eq := grid_leftBy_start session
  rw [grid, currentProgram, started] at grid_eq
  have fresh : session.freshMachine.program.grid = (Buffer.load session.source).rows := rfl
  rw [left, program?, started, Option.map_some, Option.map_some]
  rw [fresh, source, Buffer.load_text_load] at grid_eq
  exact congrArg some grid_eq

/-- Starting over reproduces the run. Whatever calls a session has been through, a
start has the outcome that it has on a new session on the same text and leaves a
session that shows the same, up to the stamp of the run; its grid is the one that the
text is first loaded as. All later calls have the same outcomes on both, too. -/
theorem restart_reproduces_run (text : Text) (options : Options) (path : Option String)
    (stamp otherStamp : Stamp) (observers : List Observer) (threshold : Int)
    (calls : List Call) :
    let used := (create text options path stamp observers threshold).afterAll calls
    let new := create text options path otherStamp observers threshold
    SameOutcome Eq ShowsAlike (perform .start used) (perform .start new) ∧
      (used.after .start).program?.map Program.grid = some (Buffer.load text).rows ∧
      ∀ later : List Call,
        ((used.after .start).afterAll later).ShowsAlike ((new.after .start).afterAll later) ∧
          ∀ call, SameOutcome Eq ShowsAlike (perform call ((used.after .start).afterAll later))
            (perform call ((new.after .start).afterAll later)) := by
  intro used new
  have setup_eq : used.setup = (create text options path stamp observers threshold).setup :=
    setup_afterAll _ calls
  have sameStart : SameOutcome Eq StrictTwin (start used) (start new) :=
    sameOutcome_start_of_kinds .ofEq (congrArg Setup.source setup_eq)
      (congrArg Setup.options setup_eq) (congrArg Setup.kinds setup_eq)
  have samePerform : SameOutcome Eq StrictTwin (perform .start used) (perform .start new) := by
    apply sameStart.bind
    rintro _ _ left otherLeft rfl leftTwin _
    exact .ok rfl leftTwin
  have startedTwin : (used.after .start).StrictTwin (new.after .start) := by
    rw [after_eq_leftBy, after_eq_leftBy]
    exact samePerform.leftBy
  have path_eq (later : List Call) :
      ((used.after .start).afterAll later).path = ((new.after .start).afterAll later).path := by
    have kept := (setup_afterAll (used.after .start) later).trans (setup_after used .start)
    have newKept := (setup_afterAll (new.after .start) later).trans (setup_after new .start)
    exact (congrArg Setup.path (kept.trans setup_eq)).trans (congrArg Setup.path newKept).symm
  refine ⟨?_, grid_after_start text (congrArg Setup.source setup_eq), ?_⟩
  · exact sameOutcome_showsAlike (congrArg Setup.path setup_eq) samePerform
  · intro later
    have laterTwin := startedTwin.afterAll .ofEq later
    refine ⟨StrictTwin.showsAlike laterTwin (path_eq later), ?_⟩
    intro call
    exact sameOutcome_showsAlike (path_eq later) (laterTwin.sameOutcome_perform .ofEq call)

end Palimpsest.Session
