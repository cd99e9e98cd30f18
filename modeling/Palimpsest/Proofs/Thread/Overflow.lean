import Palimpsest.Proofs.Location.Code
import Palimpsest.Proofs.Thread.Pointer

/-!
# Where the limit on digits can be met

Integers are unbounded, but only numbers with few digits can be read and written. A
location in memory has been read from few digits, so it can be written again, and so
can every place of a moderate grid. Numbers of other kinds come up in three
operations: arithmetic reads and computes numbers of any size, a move takes a location
one step further, and a new row is asked for one row further down. All other
operations fail with faults only.
-/

namespace Palimpsest

/-- In a moderate grid the place behind the word at a location can be written when the
location can: there is no word, or the place is within reach of its row. -/
theorem Grid.Moderate.fits_behind_word {grid : Grid} (moderate : grid.Moderate)
    {location : Location} (fits : location.fits = true) :
    (location.right (grid.readWord location).length).fits = true := by
  by_cases empty : (grid.readWord location).length = 0
  · have same : location.right (grid.readWord location).length = location := by
      simp [empty, Location.right, Location.shift]
    rw [same]
    exact fits
  · have ink := hasInk_of_readWord_length_pos (Nat.pos_of_ne_zero empty)
    obtain ⟨letter, found, _⟩ := ink
    rcases letter?_eq_some_iff.mp found with ⟨line, lineAt, col_nonneg, letterAt⟩
    rcases List.getElem?_eq_some_iff.mp letterAt with ⟨col_lt, _⟩
    have short := grid.length_readWord_le location
    rw [lettersAt_of_row?_eq_some lineAt col_nonneg, List.length_drop] at short
    have lineThere : grid.row? (location.right (grid.readWord location).length).row =
        some line := by
      simpa [Location.right] using lineAt
    apply moderate.location_fits lineThere
    · simp only [Location.right, Location.shift_col]
      omega
    · simp only [Location.right, Location.shift_col]
      omega

/-! ## Failures -/

/-- Whether a failure is that the limit on digits has been met. -/
def Failure.exceedsDigits : Failure → Bool
  | .overlong => true
  | .overlongNumeral _ => true
  | _ => false

theorem Failure.exceedsDigits_arisingIn (failure : Failure) (thread : String)
    (location : Location) :
    (failure.arisingIn thread location).exceedsDigits = failure.exceedsDigits := by
  cases failure with
  | fault raised => rfl
  | _ => rfl

/-- Whether an operation comes up with numbers that may be too long. -/
def Opcode.mayOverflow : Opcode → Bool
  | .math => true
  | .addLine => true
  | .move => true
  | _ => false

/-- A cause that can be worded is a fault. -/
theorem Failure.ofCause_of_fits (cause : Cause) (fits : cause.fits = true) :
    ofCause cause = .fault ⟨cause, none, none⟩ :=
  if_pos fits

namespace Frame

/-- The action can only fail on the frame because the program is at fault. -/
def PlainAt (frame : Frame) {α : Type} (action : Action α) : Prop :=
  ∀ failure left, action frame = .error failure left →
    ∃ cause, failure = .fault ⟨cause, none, none⟩

namespace PlainAt

variable {frame : Frame} {α β : Type}

theorem of_sure {action : Action α} (sure : Sure action) : PlainAt frame action := by
  intro failure left failed
  exact absurd failed (sure.ne_error frame failure left)

theorem throw {cause : Cause} (fits : cause.fits = true) :
    PlainAt frame (throw (.ofCause cause) : Action α) := by
  intro failure left failed
  injection failed with failure_eq _
  exact ⟨cause, failure_eq.symm.trans (Failure.ofCause_of_fits cause fits)⟩

/-- What follows may use what the first part has come to. -/
theorem bind {first : Action α} {next : α → Action β} (plain : PlainAt frame first)
    (plainNext : ∀ value middle, first frame = .ok value middle → PlainAt middle (next value)) :
    PlainAt frame (first >>= next) := by
  intro failure left failed
  rcases bind_eq_error_iff.mp failed with failed | ⟨value, middle, succeeded, failed⟩
  · exact plain failure left failed
  · exact plainNext value middle succeeded failure left failed

theorem require {result : Except Failure α}
    (plain : ∀ failure, result = .error failure → ∃ cause, failure = .fault ⟨cause, none, none⟩) :
    PlainAt frame (require result) := by
  intro failure left failed
  cases result with
  | ok value => cases failed
  | error raised =>
      rw [require_error] at failed
      cases failed
      exact plain failure rfl

theorem pop : PlainAt frame pop := by
  intro failure left failed
  cases memory : frame.memory with
  | nil =>
      rw [pop_of_nil memory] at failed
      cases failed
      exact ⟨.emptyMemory, rfl⟩
  | cons value rest =>
      rw [pop_of_cons memory] at failed
      cases failed

/-- Take a value off memory, and go on in the same program. -/
theorem popping {next : Text → Action β}
    (plainNext : ∀ value middle, middle.program = frame.program → PlainAt middle (next value)) :
    PlainAt frame (Frame.pop >>= next) := by
  apply bind pop
  intro value middle popped
  obtain ⟨rest, _, rfl⟩ := pop_eq_ok popped
  exact plainNext value _ rfl

/-- Take a location off memory: it has been read, so it can be written. -/
theorem poppingLocation {next : Location → Action β}
    (plainNext : ∀ location middle, middle.program = frame.program → location.fits = true →
      PlainAt middle (next location)) : PlainAt frame (popLocation >>= next) := by
  have plain : PlainAt frame popLocation := by
    apply bind pop
    intro value middle _
    apply require
    intro failure failed
    unfold Location.decode at failed
    split at failed
    · cases failed
    · exact ⟨.notALocation value, (Except.error.inj failed).symm⟩
  apply bind plain
  intro location middle popped
  obtain ⟨address, rest, _, known, rfl⟩ := popLocation_eq_ok popped
  exact plainNext location _ rfl (Location.fits_of_read?_eq_some known)

theorem looking {next : Grid → Action β}
    (plainNext : PlainAt frame (next frame.program.grid)) :
    PlainAt frame (currentGrid >>= next) := by
  apply bind (of_sure fun frame => ⟨_, frame, rfl⟩)
  rintro _ _ ⟨⟩
  exact plainNext

theorem letterAt {grid : Grid} {location : Location} (fits : location.fits = true) :
    PlainAt frame (Frame.require (grid.letterAt location)) := by
  apply require
  intro failure failed
  unfold Grid.letterAt at failed
  split at failed
  · cases failed
  · rw [← Except.error.inj failed, Failure.ofCause_of_fits (.noLetter location) fits]
    exact ⟨.noLetter location, rfl⟩

/-- An edit at a place that can be written is made or refused with a fault. -/
theorem replace {location : Location} {length : Int} {text : Text} {next : Nat → Action β}
    (fits : location.fits = true)
    (plainNext : ∀ revision middle, frame.program.replace location length text = .ok revision →
      PlainAt middle (next revision.inserted)) :
    PlainAt frame
      (edit (fun program => program.replace location length text) >>= next) := by
  have plain : PlainAt frame (edit fun program => program.replace location length text) := by
    intro failure left failed
    cases revised : frame.program.replace location length text with
    | ok revision =>
        rw [edit_of_ok revised] at failed
        cases failed
    | error raised =>
        rw [edit_of_error revised] at failed
        cases failed
        have rowFits : Numeral.fits (location.row + 1) = true := by
          unfold Location.fits at fits
          rw [Bool.and_eq_true] at fits
          exact fits.1
        unfold Program.replace at revised
        split at revised
        · rw [← Except.error.inj revised, Failure.ofCause_of_fits (.noRow location.row) rowFits]
          exact ⟨.noRow location.row, rfl⟩
        · split at revised
          · cases revised
          · rw [← Except.error.inj revised, Failure.ofCause_of_fits (.outsideRow location) fits]
            exact ⟨.outsideRow location, rfl⟩
  apply bind plain
  intro inserted middle edited
  obtain ⟨revision, revised, rfl, _⟩ := edit_eq_ok edited
  exact plainNext revision middle revised

theorem jump (label : Text) : PlainAt frame (jump label) :=
  looking (of_sure (.pure _))

/-- A word and a letter are deleted alike: their place is pushed back. -/
theorem deleting {location : Location} (fits : location.fits = true) (length : Int) :
    PlainAt frame (do
      let _ ← edit fun program => program.replace location length []
      rebase location (-length) false
      pushLocation location
      return Flow.advance) :=
  replace fits fun _ _ _ => of_sure (.bind (.modify _) fun _ => .advancing (.pushLocation fits))

theorem appendWord (moderate : frame.program.grid.Moderate) : PlainAt frame appendWord := by
  apply popping
  intro word middle middle_eq
  apply poppingLocation
  intro location last last_eq fits
  apply looking
  rw [last_eq, middle_eq]
  apply replace (moderate.fits_behind_word fits)
  intro revision after accepted
  rw [last_eq, middle_eq] at accepted
  have fits := (Program.fits_of_replace_eq_ok moderate accepted).2
  exact of_sure (.bind (.modify _) fun _ => .advancing (.pushLocation fits))

/-- On a moderate grid an instruction that comes up with no long numbers fails with
faults only. -/
theorem execute (moderate : frame.program.grid.Moderate) {instruction : Instruction}
    (bounded : instruction.opcode.mayOverflow = false) : PlainAt frame (execute instruction) := by
  rcases instruction with ⟨opcode, operand⟩
  have foundFits : ∀ {location : Location},
      frame.program.grid.findLead operand = some location → location.fits = true :=
    fun found => moderate.fits_of_isValid (Grid.hasInk_of_findLead_eq_some found).isValid
  cases opcode with
  | load =>
      apply looking
      cases frame.program.grid.findLead operand with
      | none => exact of_sure (.pure _)
      | some location => exact of_sure (.advancing (.push _))
  | save =>
      apply popping
      intro value middle middle_eq
      apply looking
      rw [middle_eq]
      cases found : frame.program.grid.findLead operand with
      | none => exact of_sure (.pure _)
      | some location =>
          exact replace (foundFits found) fun _ _ _ => of_sure (.advancing (.modify _))
  | math => cases bounded
  | branch =>
      apply popping
      intro value middle _
      split
      · exact jump operand
      · exact of_sure (.pure _)
  | jump => exact jump operand
  | halt => exact of_sure (.pure _)
  | find =>
      apply looking
      cases found : frame.program.grid.findLead operand with
      | none => exact of_sure (.pure _)
      | some location => exact of_sure (.advancing (.pushLocation (foundFits found)))
  | appendWord => exact appendWord moderate
  | addLine => cases bounded
  | deleteWord =>
      exact poppingLocation fun location middle _ fits => looking (deleting fits _)
  | deleteLetter =>
      exact poppingLocation fun location middle _ fits =>
        looking (bind (letterAt fits) fun _ _ _ => deleting fits 1)
  | paste =>
      exact popping fun text _ _ => poppingLocation fun location _ _ fits =>
        replace fits fun _ _ _ => of_sure (.advancing (.modify _))
  | move => cases bounded
  | drop => exact popping fun _ _ _ => of_sure (.pure _)
  | swap =>
      exact popping fun first _ _ => popping fun second _ _ =>
        of_sure (.bind (.push first) fun _ => .advancing (.push second))
  | duplicate =>
      exact popping fun value _ _ => of_sure (.bind (.push value) fun _ => .advancing (.push value))
  | readLetter =>
      exact poppingLocation fun location _ _ fits =>
        looking (bind (letterAt fits) fun letter _ _ => of_sure (.advancing (.push letter)))
  | jumpIndirect =>
      apply poppingLocation
      intro location middle _ fits
      apply looking
      split
      · exact of_sure (.pure _)
      · exact throw fits

end PlainAt

/-- On a moderate grid a word fails because the program is at fault, or because the
limit on digits is met by one of the three operations that may meet it. -/
theorem failure_of_perform_eq_error {word : Word} {frame left : Frame} {failure : Failure}
    (moderate : frame.program.grid.Moderate) (failed : perform word frame = .error failure left) :
    (∃ cause, failure = .fault ⟨cause, none, none⟩) ∨
      failure.exceedsDigits = true ∧
        ∃ opcode, (Instruction.decode? word.text).map Instruction.opcode = some opcode ∧
          opcode.mayOverflow = true := by
  have executed := perform_eq_error failed
  have own := (Built.executeWord word).ofInstruction executed
  cases decoded : Instruction.decode? word.text with
  | none =>
      simp only [executeWord, decoded] at executed
      cases executed
  | some instruction =>
      simp only [executeWord, decoded] at executed
      cases overflows : instruction.opcode.mayOverflow with
      | false => exact .inl (PlainAt.execute moderate overflows failure left executed)
      | true =>
          cases own with
          | fault cause => exact .inl ⟨cause, rfl⟩
          | overlong => exact .inr ⟨rfl, instruction.opcode, rfl, overflows⟩
          | overlongNumeral digits => exact .inr ⟨rfl, instruction.opcode, rfl, overflows⟩

end Frame

/-! ## Steps -/

/-- What a failing step of a thread fails with: a fault in the place of its
instruction, or the limit on digits. -/
theorem Scene.failure_of_step_eq_error {scene next : Scene} {failure : Failure}
    (moderate : scene.program.grid.Moderate) (moderateAfter : next.program.grid.Moderate)
    (fits : ∀ location, scene.thread.pointer = some location → location.fits = true)
    (failed : step scene = .error failure next) :
    (∃ fault, failure = .fault fault) ∨
      failure.exceedsDigits = true ∧
        ∃ opcode, scene.thread.opcode? scene.program = some opcode ∧
          opcode.mayOverflow = true := by
  obtain ⟨location, running, _⟩ := step_eq_error moderateAfter failed
  cases performed : Frame.perform (scene.program.grid.readWord location)
      (scene.frame location) with
  | error raised frame =>
      rw [step_of_perform_error running (fits location running) performed] at failed
      injection failed with failure_eq _
      rw [← failure_eq, Thread.opcode?_of_running running]
      rcases Frame.failure_of_perform_eq_error moderate performed with
        ⟨cause, rfl⟩ | ⟨exceeds, overflows⟩
      · exact .inl ⟨_, rfl⟩
      · exact .inr ⟨raised.exceedsDigits_arisingIn _ _ ▸ exceeds, overflows⟩
  | ok target frame =>
      have left := (leftBy_step_of_perform_ok running (fits location running) performed).2
      rw [failed] at left
      have moderateThen : frame.program.grid.Moderate := left ▸ moderateAfter
      obtain ⟨monitor, stepped⟩ :=
        step_of_perform_ok_of_moderate running (fits location running) performed moderateThen
      rw [failed] at stepped
      cases stepped

end Palimpsest
