import Palimpsest.CommandLine.Run
import Palimpsest.Proofs.Session.Budget
import Palimpsest.Proofs.Session.Options
import Palimpsest.Proofs.Session.Receipt
import Palimpsest.Proofs.Session.Restart

/-!
# The command line runs what the library runs

The library runs a text and gives its final text, taken from the grid, with the
receipt. The command line runs the same session under its own path, stamp and log,
and prints what its view shows. Both come to the same: the two sessions are twins,
every run ends with a view that shows the grid, and the exit code tells the status
that the receipt shows. Only a text with surrogates sets them apart from what is
promised: the library refuses to hash it, and the command line, which hashes it once
more for the receipt of that failure, leaves the mishap to its caller.
-/

namespace Palimpsest

namespace Session

variable {session last : Session} {status : Status} {clicks more : List Location}

/-! ## Playing a text -/

/-- How a session stands when it has been played: it has a machine, the status that was
returned, which no driver has set, and a view that shows the grid. -/
structure Played (session : Session) (status : Status) : Prop where
  started : session.machine.isSome = true
  status_eq : session.status = some status
  unstopped : status ≠ .stopped
  shown : session.Shown

theorem played_of_run_eq_ok {limit : Option Int} (faithful : session.Faithful)
    (ran : run limit session = .ok status last) : last.Played status := by
  obtain ⟨started, status_eq, unstopped⟩ := status_of_run_eq_ok ran
  exact ⟨started, status_eq, unstopped, shown_of_run_eq_ok faithful ran⟩

theorem Played.replay {before : Status} (played : session.Played before)
    (faithful : session.Faithful)
    (replayed : replayFrom before clicks session = .ok status last) : last.Played status := by
  induction clicks generalizing before session with
  | nil =>
      cases replayed
      exact played
  | cons location rest inductionHypothesis =>
      rw [replayFrom] at replayed
      split at replayed
      · rcases bind_eq_ok_iff.mp replayed with ⟨_, clicked, click_eq, replayed⟩
        rcases bind_eq_ok_iff.mp replayed with ⟨rested, next, ran, replayed⟩
        have clickedFaithful := (KeepsFaithful.click location).of_ok faithful click_eq
        exact inductionHypothesis (played_of_run_eq_ok clickedFaithful ran)
          ((KeepsFaithful.run none).of_ok clickedFaithful ran) replayed
      · cases replayed
        exact played

theorem played_of_play_eq_ok (ran : play clicks session = .ok status last) :
    last.Played status := by
  rcases bind_eq_ok_iff.mp ran with ⟨_, started, start_eq, ran⟩
  rcases bind_eq_ok_iff.mp ran with ⟨rested, next, run_eq, replayed⟩
  have startedFaithful : started.Faithful := by
    have left := faithful_leftBy_start session
    rwa [start_eq] at left
  exact (played_of_run_eq_ok startedFaithful run_eq).replay
    ((KeepsFaithful.run none).of_ok startedFaithful run_eq) replayed

/-- What readers see of a session that has been played is the text of its program. -/
theorem Played.view_text (played : last.Played status) :
    last.view.text = (last.program?.map Program.text).getD last.source := by
  obtain ⟨machine, started⟩ := Option.isSome_iff_exists.mp played.started
  have program_eq : last.program? = some machine.program := by
    rw [program?, started]
    rfl
  rw [played.shown.viewInStep _ program_eq, program_eq]
  rfl

theorem keepsSetup_replayFrom (status : Status) (clicks : List Location) :
    Keeps setup (replayFrom status clicks) := by
  induction clicks generalizing status with
  | nil => exact .pure _
  | cons location rest inductionHypothesis =>
      rw [replayFrom]
      split
      · exact .bind (keepsSetup_click location) fun _ =>
          .bind (keepsSetup_run none) fun status => inductionHypothesis status
      · exact .pure _

theorem keepsSetup_play (clicks : List Location) : Keeps setup (play clicks) :=
  .bind keepsSetup_start fun _ => .bind (keepsSetup_run none) fun status =>
    keepsSetup_replayFrom status clicks

/-! ## Clicks that come too late -/

theorem replayFrom_of_unclickable (unclickable : isClickable status = false) :
    replayFrom status more = pure status := by
  cases more with
  | nil => rfl
  | cons location rest =>
      rw [replayFrom, unclickable]
      rfl

/-- Clicks are not replayed once a run has met a fault or used up its budget. -/
theorem replayFrom_append {before : Status}
    (replayed : replayFrom before clicks session = .ok status last)
    (unclickable : isClickable status = false) :
    replayFrom before (clicks ++ more) session = .ok status last := by
  induction clicks generalizing before session with
  | nil =>
      cases replayed
      rw [List.nil_append, replayFrom_of_unclickable unclickable]
      rfl
  | cons location rest inductionHypothesis =>
      rw [replayFrom] at replayed
      rw [List.cons_append, replayFrom]
      split at replayed
      · rename_i clickable
        rcases bind_eq_ok_iff.mp replayed with ⟨_, clicked, click_eq, replayed⟩
        rcases bind_eq_ok_iff.mp replayed with ⟨rested, next, ran, replayed⟩
        rw [if_pos clickable, bind_of_ok click_eq, bind_of_ok ran]
        exact inductionHypothesis replayed
      · rename_i late
        rw [if_neg late]
        exact replayed

theorem play_append (played : play clicks session = .ok status last)
    (unclickable : isClickable status = false) :
    play (clicks ++ more) session = .ok status last := by
  rcases bind_eq_ok_iff.mp played with ⟨_, started, start_eq, played⟩
  rcases bind_eq_ok_iff.mp played with ⟨rested, next, ran, replayed⟩
  rw [play, bind_of_ok start_eq, bind_of_ok ran]
  exact replayFrom_append replayed unclickable

/-! ## Playing a raw text -/

section

variable {source : RawText} {options : Options} {path : Option String} {stamp : Stamp}

/-- Running a raw text gives what running the text that it is gives. -/
theorem runRaw_eq_ok_iff {result : Text × Receipt} :
    runRaw source clicks options path stamp = .ok result ↔
      ∃ text, source.foldLineEnds = .ofText text ∧
        runText text clicks options path stamp = .ok result := by
  simp only [← RawText.toText_eq_ok_iff]
  unfold runRaw
  split
  · simp_all
  · split <;> simp_all

theorem runRaw_eq_failed_iff {failure : Failure} :
    runRaw source clicks options path stamp = .error (.failed failure) ↔
      ∃ text, source.foldLineEnds = .ofText text ∧
        runText text clicks options path stamp = .error failure := by
  simp only [← RawText.toText_eq_ok_iff]
  unfold runRaw
  split
  · simp_all
  · split <;> simp_all

theorem runRaw_eq_unencodable_iff {error : EncodingError} :
    runRaw source clicks options path stamp = .error (.unencodable error) ↔
      source.foldLineEnds.toText = .error error := by
  unfold runRaw
  split
  · simp_all
  · split <;> simp_all

end

end Session

namespace CommandLine

variable {settings : Settings} {workspace : Workspace} {stdin source : RawText} {text : Text}
  {session : Session} {status : Status} {clicks : List Location}

/-! ## What a call shows -/

/-- The settings have the command line run the source, which comes from standard input or
is what a file holds. -/
def Settings.Reads (settings : Settings) (workspace : Workspace) (stdin source : RawText) : Prop :=
  match settings.path with
  | none => stdin = source
  | some path => ∃ bytes text,
      workspace.read path = .ok bytes ∧ Utf8.decode bytes = .ok text ∧ source = .ofText text

/-- The settings with further clicks. -/
def Settings.withClicks (settings : Settings) (more : List Location) : Settings :=
  { settings with clicks := settings.clicks ++ more.map some }

/-- A receipt that is to be written can be. -/
def Settings.CanWrite (settings : Settings) (workspace : Workspace) : Prop :=
  ∀ path, settings.receiptPath = some path → ∃ created, workspace.write path = .ok created

/-- A call has printed a text and then the receipt, if it is to be printed, and has written
the receipt, if it is to be written; it has printed and written nothing else. Whoever reads
the receipt finds it again, as long as its counts are short enough. -/
structure Outcome.Shows (outcome : Outcome) (settings : Settings) (printed : String)
    (receipt : Receipt) : Prop where
  stdout : outcome.stdout =
    printed ++ if settings.printReceipt then line receipt.toJson.pretty else ""
  written : (outcome.written.map fun file => (file.path, file.content)) =
    settings.receiptPath.toList.map fun path => (path, line receipt.toJson.pretty)
  readable : receipt.CountsFit →
    Json.read (line receipt.toJson.pretty).toList = .ok receipt.toJson.sorted

/-- The exit code that tells how a run has ended. -/
inductive ExitTells : Option Status → Nat → Prop
  | halted : ExitTells (some .halted) 0
  | waiting : ExitTells (some .waiting) 0
  | error : ExitTells (some .error) 1
  | timeout : ExitTells (some .timeout) 2

theorem exitTells_exitCode (unstopped : status ≠ .stopped) :
    ExitTells (some status) (exitCode status) := by
  cases status with
  | halted => exact .halted
  | waiting => exact .waiting
  | stopped => exact absurd rfl unstopped
  | error => exact .error
  | timeout => exact .timeout

theorem Settings.CanWrite.exists_written (canWrite : settings.CanWrite workspace)
    (receipt : Receipt) :
    ∃ files, writtenReceipt settings workspace receipt = .ok files ∧
      (files.map fun file => (file.path, file.content)) =
        settings.receiptPath.toList.map fun path => (path, line receipt.toJson.pretty) := by
  unfold writtenReceipt
  cases asked : settings.receiptPath with
  | none => exact ⟨[], rfl, rfl⟩
  | some path =>
      obtain ⟨created, written⟩ := canWrite path asked
      dsimp only
      rw [written]
      exact ⟨_, rfl, rfl⟩

/-- A receipt on a line of its own is read back. -/
theorem read_line_pretty {receipt : Receipt} (short : receipt.CountsFit) :
    Json.read (line receipt.toJson.pretty).toList = .ok receipt.toJson.sorted := by
  have blank : ∀ c ∈ [Text.lineFeed], Json.isGap c = true := List.forall_mem_singleton.mpr rfl
  rw [line, String.toList_append]
  exact short.read_pretty blank

/-- A run that has ended shows what its view spells and its receipt. -/
theorem shows_conclude (resultOnly : settings.resultOnly = true)
    (canWrite : settings.CanWrite workspace) (stamp : Stamp) (source : RawText) (status : Status)
    (session : Session) :
    let outcome := conclude settings workspace stamp source status session
    outcome.exit = .ok (exitCode status) ∧
      outcome.Shows settings (line (String.ofList session.view.text)) session.receipt := by
  obtain ⟨files, written, files_eq⟩ := canWrite.exists_written session.receipt
  have wellFormed : Receipt.isWellFormed session.receipt.toJson = true := by
    apply Receipt.isWellFormed_toJson
    rw [Session.hash_receipt]
    exact Check.showsDigest_ofText _
  have printed : printedText settings session = line (String.ofList session.view.text) := by
    rw [printedText, resultOnly]
    rfl
  unfold conclude
  simp only [wellFormed, written, printed, if_true]
  exact ⟨trivial, rfl, files_eq, read_line_pretty⟩

/-- What goes wrong with a text shows in an error receipt. -/
theorem shows_giveUp (canWrite : settings.CanWrite workspace) (stamp : Stamp) (text : Text)
    (stdout stderr : String) (mishap : Mishap) :
    let outcome := giveUp settings workspace stamp (.ofText text) stdout stderr mishap
    outcome.exit = .ok 1 ∧ outcome.Shows settings stdout
      (Receipt.ofFailure text settings.path stamp mishap.kind mishap.message) := by
  obtain ⟨files, written, files_eq⟩ := canWrite.exists_written
    (Receipt.ofFailure text settings.path stamp mishap.kind mishap.message)
  dsimp only
  rw [giveUp_ofText, written]
  exact ⟨rfl, rfl, files_eq, read_line_pretty⟩

/-! ## Both sessions -/

/-- The session that the command line plays on a text. -/
def sessionOn (settings : Settings) (stamp : Stamp) (text : Text) : Session :=
  Session.create text settings.options settings.path stamp [] settings.threshold

/-- Line ends are folded as the source is read, so nothing is left of them to be folded. -/
theorem sessionFor_foldLineEnds (untraced : settings.trace = false)
    (encoded : source.foldLineEnds = .ofText text) (stamp : Stamp) :
    sessionFor settings stamp source.foldLineEnds = .ok (sessionOn settings stamp text) := by
  rw [sessionFor, untraced, Session.createRaw, RawText.foldLineEnds_foldLineEnds, encoded,
    RawText.toText_ofText]
  rfl

/-- The session that the command line plays cannot be told from the one of the library. -/
theorem strictTwin_sessionOn (settings : Settings) (text : Text) (path : Option String)
    (stamp otherStamp : Stamp) (threshold : Int) :
    (sessionOn settings stamp text).StrictTwin
      (Session.create text settings.options path otherStamp [] threshold) where
  source := rfl
  options := rfl
  machine := .none
  observers := .intro _ rfl
  status := rfl
  error := rfl
  clicks := rfl
  remarks := rfl

theorem play_of_located {budget : Int} (clicked : settings.clicks = clicks.map some)
    (budgeted : settings.maxSteps = some budget) : play settings = Session.play clicks := by
  have located (clicks : List Location) : (clicks.map some).mapM id = some clicks := by
    induction clicks with
    | nil => rfl
    | cons location rest inductionHypothesis =>
        rw [List.map_cons, List.mapM_cons, inductionHypothesis]
        rfl
  have located_eq : settings.locatedClicks? = some clicks := by
    rw [Settings.locatedClicks?, budgeted, clicked]
    exact located clicks
  rw [play, located_eq]

theorem runProgram_of_reads (reads : settings.Reads workspace stdin source) (stamp : Stamp) :
    runProgram settings workspace stamp stdin =
      runSource settings workspace stamp source.foldLineEnds := by
  unfold Settings.Reads at reads
  unfold runProgram
  cases path_eq : settings.path with
  | none =>
      rw [path_eq] at reads
      cases reads
      rfl
  | some path =>
      rw [path_eq] at reads
      obtain ⟨bytes, text, read, decoded, rfl⟩ := reads
      simp only [read, decoded, RawText.foldLineEnds_ofText]

/-- What a call comes to when its arguments ask for a run of a source. -/
theorem call_eq_runSource {words : List String} {level : Int}
    (asked : parse words = .ok (.run settings)) (logged : settings.findThreshold = .ok level)
    (reads : settings.Reads workspace stdin source) (stamp : Stamp) :
    call words workspace stamp stdin =
      runSource settings workspace stamp source.foldLineEnds := by
  simp only [call, asked, runSettings, logged]
  exact runProgram_of_reads reads stamp

/-- A source that can be encoded is played as the text that it is. -/
theorem runSource_of_encoded (untraced : settings.trace = false)
    (encoded : source.foldLineEnds = .ofText text) (stamp : Stamp) :
    runSource settings workspace stamp source.foldLineEnds =
      match play settings (sessionOn settings stamp text) with
      | .ok status session => conclude settings workspace stamp (.ofText text) status session
      | .error failure session =>
        giveUp settings workspace stamp (.ofText text) "" (journalLines session.monitor.journal)
          (.ofFailure failure) := by
  rewrite [runSource, sessionFor_foldLineEnds untraced encoded stamp, encoded]
  rfl

/-- A source that cannot be encoded is given up twice: once instead of being played, and
once more where the failure is to be reported. -/
theorem runSource_of_unencodable {error : EncodingError}
    (refused : source.foldLineEnds.toText = .error error) (stamp : Stamp) :
    runSource settings workspace stamp source.foldLineEnds =
      ⟨.error (.ofEncodingError error), "",
        "" ++ logLine settings (.gaveUp error.message), []⟩ := by
  have uncreated : sessionFor settings stamp source.foldLineEnds = .error error := by
    simp only [sessionFor, Session.createRaw, RawText.foldLineEnds_foldLineEnds, refused]
  simp only [runSource, uncreated, giveUp_of_toText_eq_error refused, Mishap.ofEncodingError]

/-- Where the library returns, both sessions have been played to the same end. -/
theorem exists_twins_of_runText_eq_ok {final : Text} {receipt : Receipt} {path : Option String}
    {otherStamp : Stamp}
    (ran : Session.runText text clicks settings.options path otherStamp = .ok (final, receipt))
    (stamp : Stamp) :
    ∃ status mine last,
      Session.play clicks (sessionOn settings stamp text) = .ok status mine ∧
        Session.play clicks (Session.create text settings.options path otherStamp []
          Severity.warning.level) = .ok status last ∧
        mine.StrictTwin last ∧ last.Played status ∧ final = last.view.text ∧
        receipt = last.receipt := by
  have same := (strictTwin_sessionOn settings text path stamp otherStamp
    Severity.warning.level).sameOutcome_play .ofEq clicks
  unfold Session.runText at ran
  generalize playedMine : Session.play clicks (sessionOn settings stamp text) = result at same ⊢
  generalize played : Session.play clicks (Session.create text settings.options path otherStamp []
    Severity.warning.level) = otherResult at ran same ⊢
  cases same with
  | error failure twin => cases ran
  | @ok status _ mine last agreed twin =>
      cases agreed
      cases ran
      have ended := Session.played_of_play_eq_ok played
      exact ⟨status, mine, last, rfl, rfl, twin, ended, ended.view_text.symm, rfl⟩

/-- Where the library fails, the session of the command line fails in the same way. -/
theorem exists_failed_of_runText_eq_error {failure : Failure} {path : Option String}
    {otherStamp : Stamp}
    (ran : Session.runText text clicks settings.options path otherStamp = .error failure)
    (stamp : Stamp) :
    ∃ mine, Session.play clicks (sessionOn settings stamp text) = .error failure mine := by
  have same := (strictTwin_sessionOn settings text path stamp otherStamp
    Severity.warning.level).sameOutcome_play .ofEq clicks
  unfold Session.runText at ran
  generalize Session.play clicks (sessionOn settings stamp text) = result at same ⊢
  generalize Session.play clicks (Session.create text settings.options path otherStamp []
    Severity.warning.level) = otherResult at ran same
  cases same with
  | ok agreed twin => cases ran
  | @error _ mine _ twin =>
      cases ran
      exact ⟨mine, rfl⟩

/-- The command line stamps and names its receipt itself. -/
theorem receipt_of_play_eq_ok {mine last : Session} {stamp : Stamp}
    (played : Session.play clicks (sessionOn settings stamp text) = .ok status mine)
    (twin : mine.StrictTwin last) :
    mine.receipt =
      { last.receipt with
        path := settings.path.filter fun name => !name.isEmpty
        stamp := stamp } := by
  have setup_eq := Session.keepsSetup_play clicks (sessionOn settings stamp text)
  rw [played] at setup_eq
  have path_eq : mine.path = settings.path := congrArg Session.Setup.path setup_eq
  have stamp_eq : mine.stamp = stamp := congrArg Session.Setup.stamp setup_eq
  rw [twin.receipt .ofEq, path_eq, stamp_eq, twin.remarks_eq, ← Session.remarks_receipt]

/-- Further clicks make no difference to the command line once its run has met a fault or
used up its budget. -/
theorem runSource_withClicks {budget : Int} {mine : Session} {stamp : Stamp}
    (untraced : settings.trace = false) (encoded : source.foldLineEnds = .ofText text)
    (clicked : settings.clicks = clicks.map some) (budgeted : settings.maxSteps = some budget)
    (played : Session.play clicks (sessionOn settings stamp text) = .ok status mine)
    (unclickable : Session.isClickable status = false) (more : List Location) :
    runSource (settings.withClicks more) workspace stamp source.foldLineEnds =
      runSource settings workspace stamp source.foldLineEnds := by
  have moreClicked : (settings.withClicks more).clicks = (clicks ++ more).map some := by
    rw [Settings.withClicks, clicked, List.map_append]
  have morePlayed : play (settings.withClicks more)
      (sessionOn (settings.withClicks more) stamp text) = .ok status mine := by
    rw [play_of_located moreClicked budgeted]
    exact Session.play_append played unclickable
  have moreUntraced : (settings.withClicks more).trace = false := untraced
  rw [runSource_of_encoded moreUntraced encoded, runSource_of_encoded untraced encoded, morePlayed,
    play_of_located clicked budgeted, played]
  rfl

/-! ## Both agree -/

section

variable {final : Text} {receipt : Receipt} {budget : Int} {path : Option String}
  {stamp otherStamp : Stamp} (untraced : settings.trace = false)
  (encoded : source.foldLineEnds = .ofText text) (clicked : settings.clicks = clicks.map some)
  (budgeted : settings.maxSteps = some budget)
include untraced encoded clicked budgeted

/-- Where the library returns, the command line shows the same. -/
theorem shows_of_runText_eq_ok (resultOnly : settings.resultOnly = true)
    (canWrite : settings.CanWrite workspace)
    (ran : Session.runText text clicks settings.options path otherStamp = .ok (final, receipt)) :
    let outcome := runSource settings workspace stamp source.foldLineEnds
    (∃ code, outcome.exit = .ok code ∧ ExitTells receipt.status code) ∧
      outcome.Shows settings (line (String.ofList final))
        { receipt with
          path := settings.path.filter fun name => !name.isEmpty
          stamp := stamp } := by
  intro outcome
  obtain ⟨status, mine, last, playedMine, _, twin, ended, rfl, rfl⟩ :=
    exists_twins_of_runText_eq_ok ran stamp
  have concluded : outcome =
      conclude settings workspace stamp (.ofText text) status mine := by
    change runSource _ _ _ _ = _
    rw [runSource_of_encoded untraced encoded, play_of_located clicked budgeted, playedMine]
  obtain ⟨exit_eq, shows⟩ := shows_conclude resultOnly canWrite stamp (.ofText text) status mine
  rw [← concluded] at exit_eq shows
  rw [receipt_of_play_eq_ok playedMine twin, twin.view_eq] at shows
  refine ⟨⟨exitCode status, exit_eq, ?_⟩, shows⟩
  rw [Session.status_receipt, ended.status_eq]
  exact exitTells_exitCode ended.unstopped

/-- Where the library fails, the command line shows the receipt of that failure. -/
theorem shows_of_runText_eq_error (canWrite : settings.CanWrite workspace) {failure : Failure}
    (ran : Session.runText text clicks settings.options path otherStamp = .error failure) :
    let outcome := runSource settings workspace stamp source.foldLineEnds
    outcome.exit = .ok 1 ∧ outcome.Shows settings ""
      (Receipt.ofFailure text settings.path stamp failure.kindName failure.message) := by
  intro outcome
  obtain ⟨mine, failedMine⟩ := exists_failed_of_runText_eq_error ran stamp
  have gaveUp : outcome = giveUp settings workspace stamp (.ofText text) ""
      (journalLines mine.monitor.journal) (.ofFailure failure) := by
    change runSource _ _ _ _ = _
    rw [runSource_of_encoded untraced encoded, play_of_located clicked budgeted, failedMine]
  rw [gaveUp]
  exact shows_giveUp canWrite stamp text "" (journalLines mine.monitor.journal) (.ofFailure failure)

/-- Neither looks at further clicks once a run has met a fault or used up its budget. -/
theorem run_withClicks_of_late
    (ran : Session.runText text clicks settings.options path otherStamp = .ok (final, receipt))
    (late : receipt.status = some .error ∨ receipt.status = some .timeout)
    (workspace : Workspace) (stamp : Stamp) (more : List Location) :
    Session.runText text (clicks ++ more) settings.options path otherStamp =
        .ok (final, receipt) ∧
      runSource (settings.withClicks more) workspace stamp source.foldLineEnds =
        runSource settings workspace stamp source.foldLineEnds := by
  obtain ⟨status, mine, last, playedMine, playedLast, _, ended, rfl, rfl⟩ :=
    exists_twins_of_runText_eq_ok ran stamp
  rw [Session.status_receipt, ended.status_eq] at late
  have unclickable : Session.isClickable status = false := by
    rcases late with harmed | timed
    · cases harmed
      rfl
    · cases timed
      rfl
  constructor
  · rw [← ran, Session.runText, Session.runText, playedLast,
      Session.play_append playedLast unclickable]
  · exact runSource_withClicks untraced encoded clicked budgeted playedMine unclickable more

end

/-- What the command line and the library agree on. Whatever source, clicks, budget and flags
the arguments ask for, a call that is to print the result only prints the final text that the
library gives, and prints or writes, where it is asked to, the receipt that the library
gives, up to the path and the stamp; its exit code tells the status. Where the session of
the library fails, the call ends with the receipt of that failure. Neither replays clicks
after a fault or a timeout. The library refuses just the sources that have surrogates; the
call then shows no receipt and has no exit code, but leaves the mishap to its caller. -/
theorem command_line_agrees_with_library (words : List String) (settings : Settings)
    (workspace : Workspace) (stdin source : RawText) (clicks : List Location)
    (budget level : Int) (path : Option String) (stamp otherStamp : Stamp)
    (asked : parse words = .ok (.run settings)) (clicked : settings.clicks = clicks.map some)
    (budgeted : settings.maxSteps = some budget) (resultOnly : settings.resultOnly = true)
    (untraced : settings.trace = false) (logged : settings.findThreshold = .ok level)
    (reads : settings.Reads workspace stdin source) (canWrite : settings.CanWrite workspace) :
    let options : Options := ⟨settings.immediate, budget, !settings.noSteps⟩
    let outcome := call words workspace stamp stdin
    (∀ final receipt,
      Session.runRaw source clicks options path otherStamp = .ok (final, receipt) →
        (∃ code, outcome.exit = .ok code ∧ ExitTells receipt.status code) ∧
          outcome.Shows settings (line (String.ofList final))
            { receipt with
              path := settings.path.filter fun name => !name.isEmpty
              stamp := stamp }) ∧
    (∀ failure, Session.runRaw source clicks options path otherStamp = .error (.failed failure) →
      ∃ text, source.foldLineEnds = .ofText text ∧
        let receipt :=
          Receipt.ofFailure text settings.path stamp failure.kindName failure.message
        receipt.status = some .error ∧ outcome.exit = .ok 1 ∧ outcome.Shows settings "" receipt) ∧
    (∀ final receipt, ∀ more : List Location,
      Session.runRaw source clicks options path otherStamp = .ok (final, receipt) →
        receipt.status = some .error ∨ receipt.status = some .timeout →
          Session.runRaw source (clicks ++ more) options path otherStamp = .ok (final, receipt) ∧
            ∀ moreWords,
              parse moreWords = .ok (.run (settings.withClicks more)) →
                call moreWords workspace stamp stdin = outcome) ∧
    (∀ error,
      Session.runRaw source clicks options path otherStamp = .error (.unencodable error) →
        outcome.exit = .error (.ofEncodingError error) ∧ outcome.stdout = "" ∧
          outcome.written = []) ∧
    ((∃ error,
      Session.runRaw source clicks options path otherStamp = .error (.unencodable error)) ↔
        ∀ text, source ≠ .ofText text) := by
  intro options outcome
  have options_eq : settings.options = options := by
    rw [Settings.options, budgeted]
    rfl
  have played : outcome = runSource settings workspace stamp source.foldLineEnds :=
    call_eq_runSource asked logged reads stamp
  rw [← options_eq, played]
  refine ⟨?_, ?_, ?_, ?_, ?_⟩
  · intro final receipt ran
    obtain ⟨text, encoded, ran⟩ := Session.runRaw_eq_ok_iff.mp ran
    exact shows_of_runText_eq_ok untraced encoded clicked budgeted resultOnly canWrite ran
  · intro failure ran
    obtain ⟨text, encoded, ran⟩ := Session.runRaw_eq_failed_iff.mp ran
    exact ⟨text, encoded, rfl,
      shows_of_runText_eq_error untraced encoded clicked budgeted canWrite ran⟩
  · intro final receipt more ran late
    obtain ⟨text, encoded, ran⟩ := Session.runRaw_eq_ok_iff.mp ran
    obtain ⟨moreRan, same⟩ := run_withClicks_of_late untraced encoded clicked budgeted ran late
      workspace stamp more
    refine ⟨Session.runRaw_eq_ok_iff.mpr ⟨text, encoded, moreRan⟩, ?_⟩
    intro moreWords moreAsked
    rw [call_eq_runSource moreAsked logged reads stamp]
    exact same
  · intro error ran
    rw [runSource_of_unencodable (Session.runRaw_eq_unencodable_iff.mp ran)]
    exact ⟨rfl, rfl, rfl⟩
  · simp only [Session.runRaw_eq_unencodable_iff]
    constructor
    · rintro ⟨error, refused⟩ text rfl
      rw [RawText.foldLineEnds_ofText, RawText.toText_ofText] at refused
      cases refused
    · intro surrogates
      cases hashed : source.foldLineEnds.toText with
      | error error => exact ⟨error, rfl⟩
      | ok text =>
          obtain ⟨original, source_eq⟩ :=
            RawText.exists_eq_ofText_of_foldLineEnds (RawText.toText_eq_ok_iff.mp hashed)
          exact absurd source_eq (surrogates original)

/-- A file whose text answers a click, with a receipt that is written and can be read. -/
theorem command_line_agrees_with_library_click :
    let text := "-- volute\nh\nMOUSE y s#a h\n#a".toList
    let workspace := Workspace.ofFiles [("post", text.map fun letter => letter.toNat.toUInt8)]
    let outcome := call ["post", "--result-only", "--click", "2:1", "--max-steps=9",
      "--receipt-out", "receipt"] workspace ⟨"now", "one"⟩ []
    ∃ final receipt,
      Session.runRaw (.ofText text) [⟨1, 0⟩] ⟨false, 9, true⟩ none ⟨"later", "two"⟩ =
          .ok (final, receipt) ∧
        final = "-- volute\nh\nMOUSE y s#a h\n#ah".toList ∧ outcome.exit = .ok 0 ∧
        outcome.stdout = line (String.ofList final) ∧
        (outcome.written.map fun file => file.path) = ["receipt"] ∧
        ∀ file ∈ outcome.written, Json.read file.content.toList =
          .ok { receipt with path := some "post", stamp := ⟨"now", "one"⟩ }.toJson.sorted := by
  intro text workspace outcome
  let settings : Settings :=
    { Settings.default with
      program := some "post"
      clicks := [some ⟨1, 0⟩]
      maxSteps := some 9
      receiptOut := some "receipt"
      resultOnly := true }
  let session := Session.create text ⟨false, 9, true⟩ none ⟨"later", "two"⟩ []
    Severity.warning.level
  let last := leftBy (Session.play [⟨1, 0⟩] session)
  have played : Session.play [⟨1, 0⟩] session = .ok .waiting last := by decide +kernel
  have folded : (RawText.ofText text).foldLineEnds = .ofText text := by decide +kernel
  have ran : Session.runRaw (.ofText text) [⟨1, 0⟩] ⟨false, 9, true⟩ none ⟨"later", "two"⟩ =
      .ok ((last.program?.map Program.text).getD last.source, last.receipt) := by
    refine Session.runRaw_eq_ok_iff.mpr ⟨text, folded, ?_⟩
    rw [Session.runText, played]
  obtain ⟨agrees, _⟩ := command_line_agrees_with_library ["post", "--result-only", "--click", "2:1",
    "--max-steps=9", "--receipt-out", "receipt"] settings workspace [] (.ofText text) [⟨1, 0⟩] 9 30
    none ⟨"now", "one"⟩ ⟨"later", "two"⟩ (by decide +kernel) rfl rfl rfl rfl rfl
    ⟨text.map fun letter => letter.toNat.toUInt8, text, by decide +kernel, by decide +kernel, rfl⟩
    (by rintro path ⟨⟩; exact ⟨some "receipt", by decide +kernel⟩)
  obtain ⟨⟨code, exit_eq, tells⟩, shows⟩ := agrees _ _ ran
  have waiting : last.receipt.status = some .waiting := by
    rw [Session.status_receipt]
    decide +kernel
  have silent : ¬ settings.printReceipt = true := by decide
  have printed := shows.stdout
  rw [if_neg silent, String.append_empty] at printed
  have paths := congrArg (List.map Prod.fst) shows.written
  rw [List.map_map] at paths
  have short : last.receipt.CountsFit := ⟨by decide +kernel, by decide +kernel⟩
  refine ⟨_, _, ran, by decide +kernel, ?_, printed, paths, ?_⟩
  · rw [waiting] at tells
    cases tells
    exact exit_eq
  · intro file member
    have shown := shows.written ▸ List.mem_map_of_mem member
    have content_eq : file.content = _ := congrArg Prod.snd (List.mem_singleton.mp shown)
    rw [content_eq]
    exact shows.readable (short.restamped _ _)

/-- Standard input that is not well formed: the library refuses the surrogate that stands for
the stray byte, and the command line shows no receipt of that and has no exit code. -/
theorem stray_byte_leaves_no_receipt :
    let stdin := Utf8.decodeEscaping
      ("-- volute\nh ".toList.map (fun letter => letter.toNat.toUInt8) ++ [0x80, 0x0a])
    let outcome := call ["-", "--result-only", "--print-receipt"] (.ofFiles []) ⟨"now", "one"⟩ stdin
    Session.runRaw stdin [] ⟨false, Options.defaultMaxSteps, true⟩ none ⟨"later", "two"⟩ =
        .error (.unencodable ⟨0x480, 12, 1⟩) ∧
      outcome.exit = .error ⟨"UnicodeEncodeError", "'utf-8' codec can't encode character " ++
        "'\\udc80' in position 12: surrogates not allowed"⟩ ∧
      outcome.stdout = "" ∧ outcome.written = [] := by
  refine ⟨by rfl, by rfl, by rfl, by rfl⟩

end CommandLine

end Palimpsest
