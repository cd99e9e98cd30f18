import Palimpsest.CommandLine.Run
import Palimpsest.Proofs.Program.Entry
import Palimpsest.Proofs.Receipt.Form
import Palimpsest.Proofs.Session.Moves
import Palimpsest.Proofs.Thread.Failure

/-!
# The receipts of sessions

A receipt shows locations from all over a session: the entry point, the live
threads, the words that handle clicks, the clicks, the trace and the place of a
fault. Each of them was a place of a moderate grid when it got there, or a place
that has been written before, so all of them can be written at any later time.
Hence a session has a receipt whenever it is asked for one, and the receipt has
the form of receipts.
-/

namespace Palimpsest

/-- All locations of a receipt can be written. -/
structure Receipt.Writable (receipt : Receipt) : Prop where
  entryPoint : ∀ location, receipt.entryPoint = some location → location.fits = true
  threads : ∀ record ∈ receipt.threads, record.location.fits = true
  clickHandlers : ∀ location ∈ receipt.clickHandlers, location.fits = true
  clicks : ∀ record ∈ receipt.clicks, record.location.fits = true
  steps : ∀ event ∈ receipt.steps, event.fits = true
  error : ∀ record, receipt.error = some record →
    ∀ location, record.location = some location → location.fits = true

/-! ## Recorders -/

namespace Monitor

/-- The first observer is a recorder, and all events of its trace can be
written. -/
def Legible (monitor : Monitor) : Prop :=
  ∃ recorder others, monitor.observers = .recorder recorder :: others ∧
    ∀ event ∈ recorder.history, event.fits = true

/-- Only the observers matter. -/
theorem Legible.of_eq {monitor next : Monitor} (legible : monitor.Legible)
    (observers_eq : next.observers = monitor.observers) : next.Legible := by
  obtain ⟨recorder, others, listed, fits⟩ := legible
  exact ⟨recorder, others, observers_eq.trans listed, fits⟩

theorem Legible.write {monitor : Monitor} (legible : monitor.Legible) (entry : JournalEntry) :
    (monitor.write entry).Legible :=
  legible.of_eq rfl

/-- A recorder takes only events that can be written. -/
theorem fits_of_mem_history_note (notice : Notice) {recorder : Recorder}
    (fits : ∀ event ∈ recorder.history, event.fits = true) :
    ∀ event ∈ (leftBy (Recorder.note notice recorder)).history, event.fits = true := by
  unfold Recorder.note
  dsimp only
  split
  · split
    · rename_i writable
      intro event member
      rcases List.mem_cons.mp member with rfl | earlier
      · exact writable
      · exact fits event earlier
    · exact fits
  · exact fits

/-- A notice changes the recorder in front and leaves it there. -/
theorem Legible.tell {monitor : Monitor} (legible : monitor.Legible) (notice : Notice) :
    (leftBy (tell notice monitor)).Legible := by
  obtain ⟨recorder, others, listed, fits⟩ := legible
  have notedFits := fits_of_mem_history_note notice fits
  unfold Monitor.tell
  simp only [listed, tellAll, tellOne]
  cases noted : Recorder.note notice recorder with
  | error failure updated =>
      rw [noted] at notedFits
      exact ⟨updated, others, rfl, notedFits⟩
  | ok value updated =>
      rw [noted] at notedFits
      dsimp only
      cases tellAll notice monitor.journal others with
      | error failure told => exact ⟨updated, told.1, rfl, notedFits⟩
      | ok value told => exact ⟨updated, told.1, rfl, notedFits⟩

/-- The trace that a session shows is that of the recorder in front. -/
theorem Legible.fits_of_mem_trace {monitor : Monitor} (legible : monitor.Legible) :
    ∀ event ∈ monitor.recorder.trace, event.fits = true := by
  obtain ⟨recorder, others, listed, fits⟩ := legible
  have found : monitor.recorder = recorder := by
    simp [Monitor.recorder, listed]
  intro event member
  rw [found] at member
  exact fits event (List.mem_reverse.mp member)

end Monitor

theorem Scene.legible_leftBy_tell {scene : Scene} (legible : scene.monitor.Legible) :
    (leftBy (tell scene)).monitor.Legible := by
  have toldLegible := legible.tell (scene.thread.notice scene.program)
  unfold tell
  cases told : Monitor.tell (scene.thread.notice scene.program) scene.monitor with
  | ok value monitor =>
      rw [told] at toldLegible
      exact toldLegible
  | error failure monitor =>
      rw [told] at toldLegible
      exact toldLegible

theorem Scene.legible_leftBy_step {scene : Scene} (legible : scene.monitor.Legible) :
    (leftBy (step scene)).monitor.Legible := by
  unfold step
  split
  · exact legible
  · split
    · dsimp only
      split
      · exact legible.of_eq rfl
      · split
        · exact legible_leftBy_tell (legible.of_eq rfl)
        · exact legible_leftBy_tell (legible.of_eq rfl)
    · exact legible

/-! ## Machines -/

namespace Machine

/-- Everything that a machine shows can be written, as long as its grid is
moderate: its entry point is a letter of a word, and its threads have been sent
to places that can be written. -/
structure Legible (machine : Machine) : Prop where
  entry : machine.program.EntersInk
  pointers : ∀ thread ∈ machine.threads, ∀ location, thread.pointer = some location →
    location.fits = true

theorem legible_ofProgram {program : Program} (enters : program.EntersInk) :
    (ofProgram program).Legible :=
  ⟨enters, fun _ member => by cases member⟩

theorem monitor_legible_leftBy_step {monitor : Monitor} (legible : monitor.Legible)
    (machine : Machine) : (leftBy (step (machine, monitor))).2.Legible := by
  unfold step
  dsimp only
  split
  · exact legible
  · rename_i thread under
    have steppedLegible :
        (leftBy (Scene.step ⟨thread, machine.program, monitor⟩)).monitor.Legible :=
      Scene.legible_leftBy_step legible
    split
    · rename_i failed
      rw [failed] at steppedLegible
      exact steppedLegible
    · rename_i stepped
      rw [stepped] at steppedLegible
      split
      · exact steppedLegible
      · exact steppedLegible.write _

theorem monitor_legible_leftBy_startThread {monitor : Monitor} (legible : monitor.Legible)
    (machine : Machine) (name : String) (location : Location) (memory : List Text) :
    (leftBy (startThread name location memory (machine, monitor))).2.Legible := by
  have toldLegible : (leftBy (Scene.tell ⟨⟨name, .number machine.nextKey, some location, memory⟩,
      machine.program, monitor⟩)).monitor.Legible := Scene.legible_leftBy_tell legible
  unfold startThread
  dsimp only
  split
  · rename_i failed
    rw [failed] at toldLegible
    exact toldLegible
  · rename_i told
    rw [told] at toldLegible
    split
    · exact toldLegible.write _
    · exact toldLegible

namespace Legible

variable {machine next : Machine} {monitor told : Monitor}

/-- A thread joins at a place that can be written. -/
theorem of_startThread_eq_ok (legible : machine.Legible) {name : String} {location : Location}
    {memory : List Text} (fits : location.fits = true)
    (joined : startThread name location memory (machine, monitor) = .ok () (next, told)) :
    next.Legible := by
  obtain ⟨_, grown⟩ := startThread_of_fits fits machine monitor name memory
  rw [joined] at grown
  cases grown
  refine ⟨legible.entry, ?_⟩
  intro thread member place pointed
  rcases List.mem_append.mp member with earlier | last
  · exact legible.pointers thread earlier place pointed
  · rw [List.mem_singleton.mp last] at pointed
    cases pointed
    exact fits

/-- Whether a step succeeds or fails, it changes the program by requests only. -/
theorem entersInk_leftBy_step (legible : machine.Legible) (monitor : Monitor) :
    (leftBy (step (machine, monitor))).1.program.EntersInk := by
  obtain ⟨requests, left⟩ := exists_requests_step machine monitor
  rw [left]
  exact legible.entry.afterAll requests

end Legible

end Machine

/-- A step that succeeds sends its thread to a place of the grid. -/
theorem Scene.fits_of_step_eq_ok {scene next : Scene} (moderate : next.program.grid.Moderate)
    (stepped : step scene = .ok () next) {location : Location}
    (pointed : next.thread.pointer = some location) : location.fits = true := by
  cases running : scene.thread.pointer with
  | none =>
      rw [step_of_ended running] at stepped
      cases stepped
      rw [running] at pointed
      cases pointed
  | some place =>
      obtain ⟨target, frame, performed, thread_eq, program_eq⟩ := step_eq_ok running stepped
      rw [thread_eq] at pointed
      rw [program_eq] at moderate
      cases pointed
      exact Frame.fits_of_isTarget moderate (Frame.isTarget_of_perform_eq_ok performed)

namespace Machine.Legible

variable {machine next : Machine} {monitor told : Monitor}

theorem of_step_eq_ok (legible : machine.Legible) (moderate : next.program.grid.Moderate)
    (stepped : step (machine, monitor) = .ok () (next, told)) : next.Legible := by
  have enters := legible.entersInk_leftBy_step monitor
  rw [stepped] at enters
  refine ⟨enters, ?_⟩
  cases under : machine.threads[machine.cursor]? with
  | none =>
      rw [step_of_idle under] at stepped
      cases stepped
      exact legible.pointers
  | some thread =>
      cases sceneStepped : Scene.step ⟨thread, machine.program, monitor⟩ with
      | error failure scene =>
          rw [step_of_scene_error under sceneStepped] at stepped
          cases stepped
      | ok value scene =>
          obtain ⟨_, step_eq⟩ := step_of_scene_ok under sceneStepped
          rw [stepped] at step_eq
          cases step_eq
          intro other member place pointed
          unfold afterStep at member
          dsimp only at member
          split at member
          · rcases List.mem_or_eq_of_mem_set member with kept | rfl
            · exact legible.pointers other kept place pointed
            · exact Scene.fits_of_step_eq_ok moderate sceneStepped pointed
          · exact legible.pointers other (List.mem_of_mem_eraseIdx member) place pointed

/-- A step that fails leaves every thread where it is, and a fault names the
place of one of them. -/
theorem of_step_eq_error (legible : machine.Legible) {failure : Failure}
    (moderate : machine.program.grid.Moderate) (moderateAfter : next.program.grid.Moderate)
    (failed : step (machine, monitor) = .error failure (next, told)) :
    next.Legible ∧ ∀ fault, failure = .fault fault →
      ∀ location, fault.location = some location → location.fits = true := by
  have enters := legible.entersInk_leftBy_step monitor
  rw [failed] at enters
  obtain ⟨thread, scene, under, sceneFailed, rfl, rfl⟩ := step_eq_error failed
  have abandoned := Scene.abandoned_of_step_eq_error moderate moderateAfter sceneFailed
  have pointerFits := legible.pointers thread (List.mem_of_getElem? under)
  refine ⟨⟨enters, ?_⟩, ?_⟩
  · intro other member place pointed
    rcases List.mem_or_eq_of_mem_set member with kept | rfl
    · exact legible.pointers other kept place pointed
    · obtain ⟨taken, _, thread_eq⟩ := abandoned.thread
      rw [thread_eq] at pointed
      exact pointerFits place pointed
  · intro fault fault_eq location named
    rw [(abandoned.fault fault fault_eq).2] at named
    exact pointerFits location named

end Machine.Legible

/-! ## Sessions -/

namespace Session

/-- Everything that a session shows can be written, as long as its grid is
moderate. -/
structure Legible (session : Session) : Prop where
  machine : ∀ machine, session.machine = some machine → machine.Legible
  monitor : session.monitor.Legible
  clicks : ∀ record ∈ session.clicks, record.location.fits = true
  error : ∀ fault, session.error = some fault →
    ∀ location, fault.location = some location → location.fits = true

theorem legible_create (text : Text) (options : Options) (path : Option String) (stamp : Stamp)
    (observers : List Observer) (threshold : Int) :
    (create text options path stamp observers threshold).Legible where
  machine := by rintro _ ⟨⟩
  monitor := ⟨.empty options.keepsTrace, observers, rfl, by rintro _ ⟨⟩⟩
  clicks := by rintro _ ⟨⟩
  error := by rintro _ ⟨⟩

theorem legible_restarted (session : Session) : session.restarted.Legible := by
  obtain ⟨entry, remarks, opened⟩ := session.opened_eq
  unfold restarted
  rw [opened]
  refine ⟨?_, ?_, ?_, ?_⟩
  · rintro _ ⟨⟩
    exact Machine.legible_ofProgram (Program.entersInk_ofBuffer _ _)
  · exact ⟨.empty session.options.keepsTrace, session.monitor.observers.drop 1, rfl,
      by rintro _ ⟨⟩⟩
  · rintro _ ⟨⟩
  · rintro _ ⟨⟩

theorem Legible.sync {session : Session} (legible : session.Legible) :
    (leftBy (syncView session)).Legible := by
  unfold syncView
  split
  · exact legible
  · rename_i machine started
    split
    · exact legible
    · -- Redrawing the view changes neither the grid nor the entry point.
      refine ⟨?_, legible.monitor.of_eq rfl, legible.clicks, legible.error⟩
      rintro _ ⟨⟩
      have shown := legible.machine machine started
      exact ⟨shown.entry, shown.pointers⟩

/-- Every move keeps a session legible. -/
theorem Move.legible {session next : Session} (move : Move session next)
    (legible : session.Legible) : next.Legible := by
  cases move with
  | restart => exact legible_restarted session
  | @join machine grown told name location memory started calm ink fits joined =>
      have toldLegible := Machine.monitor_legible_leftBy_startThread legible.monitor machine name
        location memory
      rw [joined] at toldLegible
      refine ⟨?_, toldLegible, legible.clicks, legible.error⟩
      rintro _ ⟨⟩
      exact (legible.machine machine started).of_startThread_eq_ok fits joined
  | @step machine steppedMachine told started calm live moderate moderateAfter stepped =>
      have toldLegible := Machine.monitor_legible_leftBy_step legible.monitor machine
      rw [stepped] at toldLegible
      refine ⟨?_, toldLegible, legible.clicks, legible.error⟩
      rintro _ ⟨⟩
      exact (legible.machine machine started).of_step_eq_ok moderateAfter stepped
  | @stumble machine left told failure started calm live moderate moderateAfter failed faultless =>
      have toldLegible := Machine.monitor_legible_leftBy_step legible.monitor machine
      rw [failed] at toldLegible
      refine ⟨?_, toldLegible, legible.clicks, legible.error⟩
      rintro _ ⟨⟩
      exact ((legible.machine machine started).of_step_eq_error moderate moderateAfter failed).1
  | @freeze machine left told fault started calm live moderate moderateAfter failed =>
      have toldLegible := Machine.monitor_legible_leftBy_step legible.monitor machine
      rw [failed] at toldLegible
      obtain ⟨leftLegible, namedFits⟩ :=
        (legible.machine machine started).of_step_eq_error moderate moderateAfter failed
      refine ⟨?_, toldLegible.of_eq rfl, legible.clicks, ?_⟩
      · rintro _ ⟨⟩
        exact leftLegible
      · rintro _ ⟨⟩
        exact namedFits fault rfl
  | settle => exact ⟨legible.machine, legible.monitor, legible.clicks, legible.error⟩
  | resume => exact ⟨legible.machine, legible.monitor, legible.clicks, legible.error⟩
  | timeout =>
      exact ⟨legible.machine, legible.monitor.of_eq rfl, legible.clicks, legible.error⟩
  | stop => exact ⟨legible.machine, legible.monitor.of_eq rfl, legible.clicks, legible.error⟩
  | @noteClick calm location fits threads message =>
      refine ⟨legible.machine, legible.monitor.of_eq rfl, ?_, legible.error⟩
      intro record member
      rcases List.mem_append.mp member with earlier | last
      · exact legible.clicks record earlier
      · rw [List.mem_singleton.mp last]
        exact fits
  | sync => exact legible.sync

/-- A legible session on a moderate grid has a receipt that can be written. -/
theorem Legible.writable {session : Session} (legible : session.Legible)
    (moderate : session.grid.Moderate) : session.receipt.Writable := by
  have steps := legible.monitor.fits_of_mem_trace
  have error : ∀ record, session.error.map Fault.record = some record →
      ∀ location, record.location = some location → location.fits = true := by
    intro record noted
    obtain ⟨fault, fault_eq, rfl⟩ := Option.map_eq_some_iff.mp noted
    exact legible.error fault fault_eq
  unfold receipt
  cases started : session.machine with
  | none => exact ⟨by rintro _ ⟨⟩, by rintro _ ⟨⟩, by rintro _ ⟨⟩, legible.clicks, steps, error⟩
  | some machine =>
      have shown := legible.machine machine started
      rw [grid, currentProgram, started] at moderate
      refine ⟨?_, ?_, ?_, legible.clicks, steps, error⟩
      · intro entry entered
        exact moderate.fits_of_isValid (shown.entry entry entered).isValid
      · intro record member
        obtain ⟨thread, threadMem, recorded⟩ := List.mem_filterMap.mp member
        obtain ⟨location, pointed, rfl⟩ := Option.map_eq_some_iff.mp recorded
        exact shown.pointers thread threadMem location pointed
      · intro handler member
        exact moderate.fits_of_isValid (Grid.hasInk_of_mem_clickHandlersFrom member).isValid

theorem hash_receipt (session : Session) :
    session.receipt.hash = Digest.ofText session.source := by
  unfold receipt
  split <;> rfl

end Session

/-- The receipt of a program that could not be run shows no locations. -/
theorem Receipt.writable_ofFailure (source : Text) (path : Option String) (stamp : Stamp)
    (kind message : String) : (ofFailure source path stamp kind message).Writable where
  entryPoint := by rintro _ ⟨⟩
  threads := by rintro _ ⟨⟩
  clickHandlers := by rintro _ ⟨⟩
  clicks := by rintro _ ⟨⟩
  steps := by rintro _ ⟨⟩
  error := by rintro _ ⟨⟩ _ ⟨⟩

/-! ## The command line -/

namespace CommandLine

/-- A receipt is written as it is. -/
theorem content_of_writtenReceipt_eq_ok {settings : Settings} {workspace : Workspace}
    {receipt : Receipt} {files : List WrittenFile}
    (written : writtenReceipt settings workspace receipt = .ok files) :
    ∀ file ∈ files, file.content = line receipt.toJson.pretty := by
  unfold writtenReceipt at written
  split at written
  · cases written
    rintro _ ⟨⟩
  · split at written
    · cases written
      intro file member
      rw [List.mem_singleton.mp member]
    · cases written

/-- What a mishap comes to when the source can be encoded. -/
theorem giveUp_ofText (settings : Settings) (workspace : Workspace) (stamp : Stamp) (text : Text)
    (stdout stderr : String) (mishap : Mishap) :
    let receipt := Receipt.ofFailure text settings.path stamp mishap.kind mishap.message
    let printed := stdout ++ printedReceipt settings receipt
    let logged := stderr ++ logLine settings (.gaveUp mishap.message)
    giveUp settings workspace stamp (.ofText text) stdout stderr mishap =
      match writtenReceipt settings workspace receipt with
      | .ok files => ⟨.ok 1, printed, logged, files⟩
      | .error failed => ⟨.error failed, printed, logged, []⟩ := by
  have hashed : Receipt.ofRaw (.ofText text) settings.path stamp =
      .ok (Receipt.base text settings.path stamp) := by
    rw [Receipt.ofRaw, RawText.toText_ofText]
  simp only [giveUp, hashed]
  rfl

/-- Where the source cannot be encoded, the mishap that this is takes the place of the other. -/
theorem giveUp_of_toText_eq_error {source : RawText} {error : EncodingError}
    (refused : source.toText = .error error) (settings : Settings) (workspace : Workspace)
    (stamp : Stamp) (stdout stderr : String) (mishap : Mishap) :
    giveUp settings workspace stamp source stdout stderr mishap =
      ⟨.error (.ofEncodingError error), stdout,
        stderr ++ logLine settings (.gaveUp mishap.message), []⟩ := by
  simp only [giveUp, Receipt.ofRaw, refused]

/-- What the command line prints and writes of a receipt when something has gone
wrong is the receipt of the failure. -/
theorem giveUp_shows_ofFailure (settings : Settings) (workspace : Workspace) (stamp : Stamp)
    (text : Text) (stdout stderr : String) (mishap : Mishap) :
    let receipt := Receipt.ofFailure text settings.path stamp mishap.kind mishap.message
    let outcome := giveUp settings workspace stamp (.ofText text) stdout stderr mishap
    outcome.stdout = stdout ++ printedReceipt settings receipt ∧
      ∀ file ∈ outcome.written, file.content = line receipt.toJson.pretty := by
  intro receipt outcome
  have outcome_eq : outcome = giveUp settings workspace stamp (.ofText text) stdout stderr mishap :=
    rfl
  rw [giveUp_ofText] at outcome_eq
  cases written : writtenReceipt settings workspace receipt with
  | ok files =>
      rw [outcome_eq, written]
      exact ⟨rfl, content_of_writtenReceipt_eq_ok written⟩
  | error failed =>
      rw [outcome_eq, written]
      exact ⟨rfl, by rintro _ ⟨⟩⟩

end CommandLine

/-- Every receipt can be written and has the form of receipts: that of a session
on any text with any options and any path, whatever has been called, as long as
all grids are moderate; and the one that takes its place when something goes
wrong on the command line, which is all of a receipt that is printed or written
then. For a source that cannot be encoded there is none, and nothing of one is
printed or written. -/
theorem every_receipt_is_well_formed :
    (∀ text options path stamp observers threshold calls,
      (Session.create text options path stamp observers threshold).StaysModerate calls →
        let receipt :=
          ((Session.create text options path stamp observers threshold).afterAll calls).receipt
        receipt.Writable ∧ Receipt.isWellFormed receipt.toJson = true) ∧
    (∀ settings workspace stamp text stdout stderr (mishap : CommandLine.Mishap),
      let receipt := Receipt.ofFailure text settings.path stamp mishap.kind mishap.message
      let outcome := CommandLine.giveUp settings workspace stamp (.ofText text) stdout stderr mishap
      receipt.Writable ∧ Receipt.isWellFormed receipt.toJson = true ∧
        outcome.stdout = stdout ++ CommandLine.printedReceipt settings receipt ∧
        ∀ file ∈ outcome.written, file.content = CommandLine.line receipt.toJson.pretty) ∧
    (∀ settings workspace stamp source stdout stderr (mishap : CommandLine.Mishap),
      (∀ text, source ≠ .ofText text) →
        let outcome := CommandLine.giveUp settings workspace stamp source stdout stderr mishap
        outcome.stdout = stdout ∧ outcome.written = []) := by
  refine ⟨?_, ?_, ?_⟩
  · intro text options path stamp observers threshold calls stays
    have moderate : ((Session.create text options path stamp observers threshold).afterAll
        calls).grid.Moderate := by
      rw [← List.append_nil calls] at stays
      exact stays.of_append.2
    have legible := Session.Moves.keep Session.Move.legible (Session.moves_afterAll stays)
      (Session.legible_create text options path stamp observers threshold)
    refine ⟨legible.writable moderate, Receipt.isWellFormed_toJson ?_⟩
    rw [Session.hash_receipt]
    exact Check.showsDigest_ofText _
  · intro settings workspace stamp text stdout stderr mishap
    exact ⟨Receipt.writable_ofFailure _ _ _ _ _,
      Receipt.isWellFormed_toJson (Check.showsDigest_ofText text),
      CommandLine.giveUp_shows_ofFailure settings workspace stamp text stdout stderr mishap⟩
  · intro settings workspace stamp source stdout stderr mishap unencodable
    obtain ⟨error, refused⟩ : ∃ error, source.toText = .error error := by
      cases encoded : source.toText with
      | ok text => exact absurd (RawText.toText_eq_ok_iff.mp encoded) (unencodable text)
      | error error => exact ⟨error, rfl⟩
    rw [CommandLine.giveUp_of_toText_eq_error refused]
    exact ⟨rfl, rfl⟩

theorem every_receipt_is_well_formed_fault :
    let session := (Session.create "-- volute\nh\nMOUSE n".toList ⟨false, 5, true⟩ (some "post")
      ⟨"now", "one"⟩ [.reporter 10] 10).afterAll
        [.stop, .run (some 1), .click ⟨-3, 4⟩, .run none]
    session.receipt.status = some .error ∧ session.receipt.Writable ∧
      Receipt.isWellFormed session.receipt.toJson = true := by
  intro session
  have harmed : session.receipt.status = some .error := by decide +kernel
  exact ⟨harmed, every_receipt_is_well_formed.1 "-- volute\nh\nMOUSE n".toList ⟨false, 5, true⟩
    (some "post") ⟨"now", "one"⟩ [.reporter 10] 10
    [.stop, .run (some 1), .click ⟨-3, 4⟩, .run none] (by decide +kernel)⟩

end Palimpsest
