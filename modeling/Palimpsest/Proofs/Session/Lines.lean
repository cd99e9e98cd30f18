import Palimpsest.Proofs.Session.Acts
import Palimpsest.Proofs.Thread.Lines

/-!
# Rows and lines of a session

Whatever a source text has for line ends, however it is cut into letters and whatever
is called, no letter of the grid and no value in the memory of a thread has a line end.
So the rows of the program are the lines of its text at all times, and a receipt of a
started session says as much. The receipt of a session that has not been started counts
no lines at all.
-/

namespace Palimpsest

/-- No act brings in a line end: a thread joins with locations in its memory. -/
theorem Machine.lasting_tidy [Cluster.Splitter] :
    Lasting Program.Tidy fun _ thread => thread.Tidy where
  joined := by
    intro program location memory name key _ _ addresses value member
    obtain ⟨place, rfl⟩ := addresses value member
    exact place.oneLine_text
  stepped := by
    intro scene next program thread stepped
    have left := Scene.tidy_leftBy_step program thread
    rw [stepped] at left
    exact ⟨left.1, fun _ => left.2⟩
  failed := by
    intro scene next failure program thread failed
    have left := Scene.tidy_leftBy_step program thread
    rwa [failed] at left
  watched _ _ thread := thread
  redrawn program := ⟨program, fun _ thread => thread⟩

namespace Session

/-- After any calls on a session on any text, no letter of the grid and no value in
memory has a line end, there is one row more than there are line feeds in the text of
the program, and cutting this text at its line feeds gives the rows. The text of the
receipt can be cut in the same way, and the receipt gives the number of lines as soon
as the session has been started. -/
theorem rows_are_lines [Cluster.Splitter] (text : Text) (options : Options) (path : Option String)
    (stamp : Stamp) (observers : List Observer) (threshold : Int) (calls : List Call) :
    let session := (create text options path stamp observers threshold).afterAll calls
    (∀ row ∈ session.grid, ∀ letter ∈ row, Text.OneLine letter) ∧
    (∀ thread ∈ session.currentMachine.threads, ∀ value ∈ thread.memory, Text.OneLine value) ∧
    session.currentProgram.lineCount =
      session.currentProgram.text.count Text.lineFeed + 1 ∧
    session.currentProgram.text.splitOn Text.lineFeed = session.grid.map Grid.rowText ∧
    session.receipt.text.splitOn Text.lineFeed = session.grid.map Grid.rowText ∧
    (session.isStarted = true →
      session.receipt.lines = session.receipt.text.count Text.lineFeed + 1) := by
  intro session
  obtain ⟨tidy, threads⟩ := sound_afterAll Machine.lasting_tidy text options path stamp observers
    threshold (Program.tidy_load _ _) calls
  have count : session.currentProgram.lineCount = _ := Grid.length_eq_count_text tidy.2 tidy.1
  have split : session.currentProgram.text.splitOn _ = _ := Grid.splitOn_text tidy.2 tidy.1
  have source_eq : session.source = (Buffer.load text).text := source_afterAll _ calls
  have text_eq : session.receipt.text = session.currentProgram.text := by
    cases started : session.machine with
    | some machine => simp only [receipt, currentProgram, started, Option.getD_some]
    | none =>
        -- The receipt has the source, which is what it would be loaded as.
        have program_eq : session.currentProgram =
            .load session.source session.options.immediate := by
          rw [currentProgram, started]
          rfl
        rw [program_eq, Program.text_load, source_eq, Buffer.text_load_text, ← source_eq]
        simp only [receipt, started, Receipt.base]
  refine ⟨tidy.2, threads, count, split, text_eq ▸ split, ?_⟩
  intro started
  obtain ⟨machine, machine_eq⟩ := Option.isSome_iff_exists.mp started
  have lines_eq : session.receipt.lines = session.currentProgram.lineCount := by
    simp only [receipt, currentProgram, machine_eq, Option.getD_some]
  rw [text_eq, lines_eq]
  exact count

/-- A session that is stopped before it was started counts no lines, though its text
has one. -/
theorem unstarted_receipt_counts_no_lines :
    let session := (create "x".toList .default none ⟨"now", "one"⟩ [] 10).afterAll [.stop]
    session.receipt.lines ≠ session.receipt.text.count Text.lineFeed + 1 := by
  decide +kernel

/-- Three kinds of line ends make four rows, and a line is added below the first. -/
theorem rows_are_lines_mixed :
    let session := (create "-- volute\r\nl# o h\r#1:1\n".toList .default none ⟨"now", "one"⟩ []
      10).afterAll [.run none]
    session.receipt.lines = 5 ∧
      session.receipt.lines = session.receipt.text.count Text.lineFeed + 1 := by
  intro session
  have lines := (rows_are_lines "-- volute\r\nl# o h\r#1:1\n".toList .default none
    ⟨"now", "one"⟩ [] 10 [.run none]).2.2.2.2.2
  exact ⟨by decide +kernel, lines (by decide +kernel)⟩

end Session

end Palimpsest
