import Palimpsest.Proofs.Grid.Lines
import Palimpsest.Proofs.Thread.Failure

/-!
# Where pointers stand

Rebasing may take a pointer before the first column while an instruction is at
work, but no step ends there: an instruction that succeeds ends in a search or in
a checked jump, and one that fails leaves the pointer where it was. The latter
holds on every grid, for the only failure behind a rebasing is that a place cannot
be written, and then the place lies behind the pointer, which has been written
itself. As rows are never taken away, a pointer stays in an existing row.
-/

namespace Palimpsest

namespace Grid

/-- A location in an existing row, not before its first column. There may be no
letter. -/
def HasPlace (grid : Grid) (location : Location) : Prop :=
  0 ≤ location.row ∧ location.row < grid.length ∧ 0 ≤ location.col

theorem HasPlace.mono {grid later : Grid} {location : Location} (place : grid.HasPlace location)
    (grown : grid.length ≤ later.length) : later.HasPlace location := by
  rcases place with ⟨row_nonneg, row_lt, col_nonneg⟩
  exact ⟨row_nonneg, by omega, col_nonneg⟩

theorem hasPlace_of_row?_eq_some {grid : Grid} {location : Location} {line : Row}
    (found : grid.row? location.row = some line) (col_nonneg : 0 ≤ location.col) :
    grid.HasPlace location :=
  ⟨(row?_eq_some_iff.mp found).1, lt_length_of_row?_eq_some found, col_nonneg⟩

/-- A place where a thread may be sent is a letter or the beginning of a row. -/
theorem isTarget_iff {grid : Grid} {location : Location} :
    Frame.isTarget grid location = true ↔
      grid.isValid location = true ∨ location.col = 0 ∧ grid.HasPlace location := by
  unfold Frame.isTarget
  simp only [Bool.or_eq_true, Bool.and_eq_true, beq_iff_eq]
  constructor
  · rintro (⟨start, isThere⟩ | valid)
    · obtain ⟨line, found⟩ := Option.isSome_iff_exists.mp isThere
      exact .inr ⟨start, hasPlace_of_row?_eq_some found (by omega)⟩
    · exact .inl valid
  · rintro (valid | ⟨start, row_nonneg, row_lt, _⟩)
    · exact .inr valid
    · refine .inl ⟨start, ?_⟩
      have lineAt : grid[location.row.toNat]? = some grid[location.row.toNat] :=
        List.getElem?_eq_getElem (by omega)
      rw [row?_eq_some_iff.mpr ⟨row_nonneg, lineAt⟩]
      rfl

theorem hasPlace_of_isTarget {grid : Grid} {location : Location}
    (targeted : Frame.isTarget grid location = true) : grid.HasPlace location := by
  rcases isTarget_iff.mp targeted with valid | ⟨_, place⟩
  · obtain ⟨letter, found⟩ := Option.isSome_iff_exists.mp valid
    rcases letter?_eq_some_iff.mp found with ⟨line, lineAt, col_nonneg, _⟩
    exact hasPlace_of_row?_eq_some lineAt col_nonneg
  · exact place

end Grid

/-! ## Places behind a pointer that can be written -/

theorem Numeral.fits_of_le {number most : Int} (fits : Numeral.fits most = true)
    (nonneg : 0 ≤ number) (le : number ≤ most) : Numeral.fits number = true := by
  unfold Numeral.fits at fits ⊢
  rw [decide_eq_true_eq] at fits ⊢
  exact Nat.lt_of_le_of_lt (by omega) fits

namespace Location

variable {pointer place : Location}

/-- A place before the pointer in its row can be written when the pointer can. -/
theorem fits_of_before (fits : pointer.fits = true) (row_nonneg : 0 ≤ place.row)
    (row_eq : place.row = pointer.row) (col_nonneg : 0 ≤ place.col)
    (col_le : place.col ≤ pointer.col) : place.fits = true := by
  unfold Location.fits at fits ⊢
  rw [Bool.and_eq_true] at fits ⊢
  exact ⟨Numeral.fits_of_le fits.1 (by omega) (by omega),
    Numeral.fits_of_le fits.2 (by omega) (by omega)⟩

/-- So can the start of a row that is not below the pointer. -/
theorem fits_start_of_above (fits : pointer.fits = true) {row : Int} (row_nonneg : 0 ≤ row)
    (row_le : row ≤ pointer.row) : (⟨row, 0⟩ : Location).fits = true := by
  unfold Location.fits at fits ⊢
  rw [Bool.and_eq_true] at fits ⊢
  dsimp only
  exact ⟨Numeral.fits_of_le fits.1 (by omega) (by omega),
    Numeral.fits_of_le fits.1 (by omega) (by omega)⟩

end Location

/-! ## Instructions that fail -/

namespace Frame

theorem Sure.ne_error {α : Type} {action : Action α} (sure : Sure action) (frame : Frame)
    (failure : Failure) (left : Frame) : action frame ≠ .error failure left := by
  obtain ⟨value, after, succeeded⟩ := sure frame
  rw [succeeded]
  exact nofun

/-- When the action fails, the pointer is where it was, provided that it can be
written. -/
def FailsInPlace {α : Type} (action : Action α) : Prop :=
  ∀ frame failure left, action frame = .error failure left → frame.pointer.fits = true →
    left.pointer = frame.pointer

namespace FailsInPlace

variable {α β : Type}

theorem of_sure {action : Action α} (sure : Sure action) : FailsInPlace action := by
  intro frame failure left failed
  exact absurd failed (sure.ne_error frame failure left)

theorem throw (raised : Failure) : FailsInPlace (throw raised : Action α) := by
  intro frame failure left failed
  injection failed with _ left_eq
  exact fun _ => congrArg Frame.pointer left_eq.symm

/-- What only takes values off memory leaves the pointer alone. -/
theorem taking {count : Nat} {first : Action α} {next : α → Action β} (takes : Takes count first)
    (inPlace : ∀ value, FailsInPlace (next value)) : FailsInPlace (first >>= next) := by
  intro frame failure left failed
  obtain ⟨taken, _, left_eq⟩ := takes frame
  rcases bind_eq_error_iff.mp failed with failed | ⟨value, middle, succeeded, failed⟩
  · rw [failed] at left_eq
    exact fun _ => (congrArg Frame.pointer left_eq :)
  · rw [succeeded] at left_eq
    have pointer_eq : middle.pointer = frame.pointer := (congrArg Frame.pointer left_eq :)
    rw [← pointer_eq]
    exact inPlace value middle failure left failed

/-- What cannot fail may come last. -/
theorem bind_sure {first : Action α} {next : α → Action β} (inPlace : FailsInPlace first)
    (sure : ∀ value, Sure (next value)) : FailsInPlace (first >>= next) := by
  intro frame failure left failed
  rcases bind_eq_error_iff.mp failed with failed | ⟨value, middle, _, failed⟩
  · exact inPlace frame failure left failed
  · exact absurd failed ((sure value).ne_error middle failure left)

theorem pushLocation (location : Location) : FailsInPlace (pushLocation location) :=
  taking (.require _) fun shown => of_sure (.push shown)

theorem pushNumber (number : Int) : FailsInPlace (pushNumber number) :=
  taking (.require _) fun shown => of_sure (.push shown)

theorem advancing {action : Action Unit} (inPlace : FailsInPlace action) :
    FailsInPlace (do action; return Flow.advance) :=
  bind_sure inPlace fun _ => .pure Flow.advance

/-- An edit leaves the pointer alone, be it accepted or refused. -/
theorem edit (request : Request) {next : Nat → Action α}
    (inPlace : ∀ program revision, request.revise program = .ok revision →
      FailsInPlace (next revision.inserted)) :
    FailsInPlace (Frame.edit request.revise >>= next) := by
  intro frame failure left failed
  rcases bind_eq_error_iff.mp failed with failed | ⟨inserted, middle, succeeded, failed⟩
  · cases revised : request.revise frame.program with
    | ok revision =>
        rw [edit_of_ok revised] at failed
        cases failed
    | error raised =>
        rw [edit_of_error revised] at failed
        injection failed with _ left_eq
        exact fun _ => congrArg Frame.pointer left_eq.symm
  · obtain ⟨revision, revised, rfl, middle_eq⟩ := edit_eq_ok succeeded
    have pointer_eq : middle.pointer = frame.pointer := (congrArg Frame.pointer middle_eq :)
    rw [← pointer_eq]
    exact inPlace frame.program revision revised middle failure left failed

/-- Move the pointer and write down a place: a place that cannot be written is one
that does not move the pointer. -/
theorem moving {change : Frame → Frame} {place : Location}
    (moved : ∀ frame, frame.pointer.fits = true → place.fits = true ∨ change frame = frame) :
    FailsInPlace (do modify change; Frame.pushLocation place; return Flow.advance) := by
  intro frame failure left failed fits
  have changed : (modify change : Action Unit) frame = .ok () (change frame) := rfl
  rw [bind_of_ok changed] at failed
  rcases moved frame fits with writable | unmoved
  · exact absurd failed ((Sure.pushLocation writable).advancing.ne_error _ _ _)
  · rw [unmoved] at failed
    exact advancing (pushLocation place) frame failure left failed fits

/-- A rebasing only moves the pointer for a place before it. -/
theorem rebasing {place shown : Location} {delta : Int}
    (writable : ∀ pointer : Location, pointer.fits = true → place.row = pointer.row →
      place.col < pointer.col → shown.fits = true) :
    FailsInPlace (do rebase place delta false; Frame.pushLocation shown; return Flow.advance) := by
  apply moving
  intro frame fits
  by_cases before : place.row = frame.pointer.row ∧ place.col < frame.pointer.col
  · exact .inl (writable frame.pointer fits before.1 before.2)
  · right
    have unmoved : rebasedPointer frame.pointer place delta false = frame.pointer := by
      simp [rebasedPointer, before]
    rw [unmoved]

/-! ## Operations -/

theorem applyOperator (operator : Operator) (argument : Text) :
    FailsInPlace (applyOperator operator argument) := by
  cases operator with
  | equal =>
      exact taking (.lastOperand argument) fun second => taking .pop fun first =>
        of_sure (.push _)
  | isZero =>
      exact taking (.lastOperand argument) fun value => taking (.require _) fun number =>
        pushNumber _
  | binary operator =>
      exact taking (.lastOperand argument) fun value => taking (.require _) fun second =>
        taking .pop fun other => taking (.require _) fun first => pushNumber _

theorem math (operand : Text) : FailsInPlace (math operand) := by
  unfold Frame.math
  split
  · exact of_sure (.pure _)
  · split
    · exact of_sure (.pure _)
    · exact advancing (applyOperator _ _)

theorem jump (label : Text) : FailsInPlace (jump label) :=
  taking .look fun _ => of_sure (.pure _)

theorem appendWord : FailsInPlace appendWord := by
  apply taking .pop
  intro word
  apply taking .popLocation
  intro location
  apply taking .look
  intro grid
  apply edit (.replace (location.right (grid.readWord location).length) 0 (' ' :: word))
  intro program revision accepted
  obtain ⟨line, _, found, col_nonneg, _⟩ := Program.replace_eq_ok accepted
  have row_nonneg := (Grid.row?_eq_some_iff.mp found).1
  apply rebasing
  intro pointer fits row_eq col_lt
  apply Location.fits_of_before fits
  · simpa [Location.right] using row_nonneg
  · simpa [Location.right] using row_eq
  · simp only [Location.right, Location.shift_col] at col_nonneg ⊢
    omega
  · simp only [Location.right, Location.shift_col] at col_lt ⊢
    omega

theorem addLine : FailsInPlace addLine := by
  apply taking .popLocation
  intro location
  apply edit (.addLine (location.row + 1))
  intro program revision accepted
  obtain ⟨row_nonneg, _⟩ := Program.addLine_eq_ok accepted
  apply moving
  intro frame fits
  by_cases above : location.row + 1 ≤ frame.pointer.row
  · exact .inl (Location.fits_start_of_above fits row_nonneg above)
  · exact .inr (if_neg above)

/-- A word and a letter are deleted alike: their place is pushed back. -/
theorem deleting (location : Location) (length : Int) :
    FailsInPlace (do
      let _ ← Frame.edit fun program => program.replace location length []
      rebase location (-length) false
      Frame.pushLocation location
      return Flow.advance) := by
  apply edit (.replace location length [])
  intro program revision accepted
  obtain ⟨line, _, found, col_nonneg, _⟩ := Program.replace_eq_ok accepted
  apply rebasing
  intro pointer fits row_eq col_lt
  exact Location.fits_of_before fits (Grid.row?_eq_some_iff.mp found).1 row_eq col_nonneg
    (by omega)

/-- An instruction that fails leaves the pointer where it was. -/
theorem execute (instruction : Instruction) : FailsInPlace (execute instruction) := by
  rcases instruction with ⟨opcode, operand⟩
  cases opcode with
  | load =>
      apply taking .look
      intro grid
      cases grid.findLead operand with
      | none => exact of_sure (.pure _)
      | some location => exact of_sure (.advancing (.push _))
  | save =>
      apply taking .pop
      intro value
      apply taking .look
      intro grid
      cases grid.findLead operand with
      | none => exact of_sure (.pure _)
      | some location =>
          exact edit (.replace location _ _) fun _ _ _ =>
            of_sure (.advancing (.modify _))
  | math => exact math operand
  | branch =>
      apply taking .pop
      intro value
      split
      · exact jump operand
      · exact of_sure (.pure _)
  | jump => exact jump operand
  | halt => exact of_sure (.pure _)
  | find =>
      apply taking .look
      intro grid
      cases grid.findLead operand with
      | none => exact of_sure (.pure _)
      | some location => exact advancing (pushLocation location)
  | appendWord => exact appendWord
  | addLine => exact addLine
  | deleteWord =>
      exact taking .popLocation fun location => taking .look fun grid => deleting location _
  | deleteLetter =>
      exact taking .popLocation fun location => taking .look fun grid =>
        taking (.require _) fun letter => deleting location 1
  | paste =>
      exact taking .pop fun text => taking .popLocation fun location =>
        edit (.replace location 0 text) fun _ _ _ => of_sure (.advancing (.modify _))
  | move =>
      apply taking .popLocation
      intro location
      cases Direction.ofText? operand with
      | none => exact of_sure (.pure _)
      | some direction => exact advancing (pushLocation _)
  | drop => exact taking .pop fun _ => of_sure (.pure _)
  | swap =>
      exact taking .pop fun first => taking .pop fun second =>
        of_sure (.bind (.push first) fun _ => .advancing (.push second))
  | duplicate =>
      exact taking .pop fun value =>
        of_sure (.bind (.push value) fun _ => .advancing (.push value))
  | readLetter =>
      exact taking .popLocation fun location => taking .look fun grid =>
        taking (.require _) fun letter => of_sure (.advancing (.push letter))
  | jumpIndirect =>
      apply taking .popLocation
      intro location
      apply taking .look
      intro grid
      split
      · exact of_sure (.pure _)
      · exact throw _

/-- So does a word. -/
theorem executeWord (word : Word) : FailsInPlace (executeWord word) := by
  unfold Frame.executeWord
  split
  · exact of_sure (.pure _)
  · exact execute _

end FailsInPlace

end Frame

/-! ## Where steps leave the pointer -/

namespace Thread

/-- The operation that a thread is about to carry out, if its word names one. -/
def opcode? (thread : Thread) (program : Program) : Option Opcode :=
  (thread.instruction? program).bind fun word =>
    (Instruction.decode? word.text).map Instruction.opcode

theorem opcode?_of_running {thread : Thread} {location : Location}
    (running : thread.pointer = some location) (program : Program) :
    thread.opcode? program =
      (Instruction.decode? (program.grid.readWord location).text).map Instruction.opcode := by
  simp [opcode?, instruction?, running]

/-- The thread is live and its pointer lies in the program. -/
def Stands (thread : Thread) (program : Program) : Prop :=
  ∃ location, thread.pointer = some location ∧ program.grid.HasPlace location

theorem Stands.mono {thread : Thread} {program later : Program} (stands : thread.Stands program)
    (grown : program.lineCount ≤ later.lineCount) : thread.Stands later := by
  rcases stands with ⟨location, running, place⟩
  exact ⟨location, running, place.mono grown⟩

/-- Where a successful step of its own takes a thread with the given operation: to
its end or to a letter. The letter is one of a word, unless the thread has jumped to
an address; then it may also be sent to the beginning of a row. -/
def Arrives (thread : Thread) (program : Program) (opcode : Option Opcode) : Prop :=
  ∀ location, thread.pointer = some location →
    (program.grid.isValid location = true ∨
      opcode = some .jumpIndirect ∧ location.col = 0 ∧ program.grid.HasPlace location) ∧
    (opcode ≠ some .jumpIndirect → program.grid.HasInk location)

end Thread

/-- A word that does not jump to an address sends its thread to letters of words. -/
theorem Frame.hasInk_of_perform_eq_ok {word : Word} {frame after : Frame} {target : Location}
    (direct : (Instruction.decode? word.text).map Instruction.opcode ≠ some .jumpIndirect)
    (performed : perform word frame = .ok (some target) after) :
    after.program.grid.HasInk target := by
  rcases bind_eq_ok_iff.mp performed with ⟨flow, middle, executed, continued⟩
  cases flow with
  | advance =>
      rcases bind_eq_ok_iff.mp continued with ⟨_, _, ⟨⟩, continued⟩
      injection continued with next_eq after_eq
      rw [← after_eq]
      exact Grid.hasInk_of_nextWord_eq_some next_eq
  | transfer sent =>
      cases continued
      cases decoded : Instruction.decode? word.text with
      | none =>
          simp only [executeWord, decoded] at executed
          cases executed
      | some instruction =>
          simp only [executeWord, decoded] at executed
          rw [decoded] at direct
          have direct : instruction.opcode ≠ .jumpIndirect :=
            fun same => direct (congrArg some same)
          exact Lands.execute direct frame after target executed

namespace Scene

theorem arrives_of_step_eq_ok {scene next : Scene} (stepped : step scene = .ok () next) :
    next.thread.Arrives next.program (scene.thread.opcode? scene.program) := by
  cases running : scene.thread.pointer with
  | none =>
      rw [step_of_ended running] at stepped
      cases stepped
      intro location pointed
      exact absurd (running.symm.trans pointed) nofun
  | some place =>
      obtain ⟨target, frame, performed, thread_eq, program_eq⟩ := step_eq_ok running stepped
      intro location pointed
      rw [thread_eq] at pointed
      have pointed : target = some location := pointed
      subst pointed
      rw [Thread.opcode?_of_running running, program_eq]
      by_cases indirect : (Instruction.decode? (scene.program.grid.readWord place).text).map
          Instruction.opcode = some .jumpIndirect
      · refine ⟨?_, fun direct => absurd indirect direct⟩
        rcases Grid.isTarget_iff.mp (Frame.isTarget_of_perform_eq_ok performed) with
          valid | start
        · exact .inl valid
        · exact .inr ⟨indirect, start⟩
      · have ink := Frame.hasInk_of_perform_eq_ok indirect performed
        exact ⟨.inl ink.isValid, fun _ => ink⟩

/-- A step that succeeds ends the thread or leaves it inside the program. -/
theorem stands_of_step_eq_ok {scene next : Scene} (stepped : step scene = .ok () next)
    (live : next.thread.isRunning = true) : next.thread.Stands next.program := by
  obtain ⟨location, pointed⟩ := Option.isSome_iff_exists.mp live
  refine ⟨location, pointed, ?_⟩
  rcases (arrives_of_step_eq_ok stepped location pointed).1 with valid | ⟨_, start⟩
  · exact Grid.hasPlace_of_isTarget (Grid.isTarget_iff.mpr (.inl valid))
  · exact start.2

/-- A step that fails leaves the thread inside the program. Either its pointer has
not moved and the program has not lost a row, or its instruction has succeeded and
only telling has failed. -/
theorem stands_of_step_eq_error {scene next : Scene} {failure : Failure}
    (stands : scene.thread.Stands scene.program) (failed : step scene = .error failure next) :
    next.thread.Stands next.program := by
  rcases stands with ⟨place, running, inside⟩
  obtain ⟨requests, left⟩ := exists_requests_step scene
  rw [failed] at left
  have grown : scene.program.lineCount ≤ next.program.lineCount := by
    rw [show next.program = _ from left]
    exact scene.program.lineCount_le_afterAll requests
  by_cases fits : place.fits = true
  · cases performed : Frame.perform (scene.program.grid.readWord place) (scene.frame place) with
    | error raised frame =>
        have unmoved : frame.pointer = place :=
          Frame.FailsInPlace.executeWord _ (scene.frame place) raised frame
            (Frame.perform_eq_error performed) fits
        rw [step_of_perform_error running fits performed] at failed
        injection failed with _ next_eq
        refine ⟨place, ?_, inside.mono grown⟩
        rw [← next_eq, ← unmoved]
        rfl
    | ok target frame =>
        obtain ⟨monitor, step_eq, _⟩ := step_of_perform_ok running fits performed
        obtain ⟨thread_eq, program_eq⟩ := leftBy_step_of_perform_ok running fits performed
        rw [failed] at thread_eq program_eq
        cases target with
        | none =>
            obtain ⟨told, tell_eq⟩ := tell_of_fits
              ⟨{ scene.thread with pointer := none, memory := frame.memory }, frame.program,
                monitor⟩ nofun
            rw [failed, tell_eq] at step_eq
            cases step_eq
        | some target =>
            refine ⟨target, (congrArg Thread.pointer thread_eq :), ?_⟩
            rw [show next.program = _ from program_eq]
            exact Grid.hasPlace_of_isTarget (Frame.isTarget_of_perform_eq_ok performed)
  · rw [step_of_not_fits running (by simpa using fits)] at failed
    injection failed with _ next_eq
    rw [← next_eq]
    exact ⟨place, running, inside⟩

end Scene

end Palimpsest
