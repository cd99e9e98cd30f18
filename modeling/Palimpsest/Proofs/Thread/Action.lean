import Palimpsest.Proofs.Program.Request
import Palimpsest.Thread.Perform

/-!
# How instructions are built

Every instruction is put together from a handful of basic actions: it takes
values off memory and puts values on it, looks at the grid, asks the program
for an edit, moves the pointer, or gives up. `Built` says so once, for all
operations. What basic actions have in common and sequencing keeps is then
true of every instruction, by induction on how it is built.
-/

namespace Palimpsest

/-! ## Sequencing -/

instance decidableEqResult {ε σ α : Type} [DecidableEq ε] [DecidableEq σ] [DecidableEq α] :
    DecidableEq (EStateM.Result ε σ α)
  | .ok value left, .ok otherValue otherLeft =>
    decidable_of_iff (value = otherValue ∧ left = otherLeft) (by simp)
  | .error failure left, .error otherFailure otherLeft =>
    decidable_of_iff (failure = otherFailure ∧ left = otherLeft) (by simp)
  | .ok _ _, .error _ _ => isFalse nofun
  | .error _ _, .ok _ _ => isFalse nofun

section Sequencing

variable {ε σ α β : Type} {first : EStateM ε σ α} {next : α → EStateM ε σ β}
  {start finish : σ}

theorem bind_eq_ok_iff {result : β} :
    (first >>= next) start = .ok result finish ↔
      ∃ value middle, first start = .ok value middle ∧
        next value middle = .ok result finish := by
  change EStateM.bind first next start = _ ↔ _
  unfold EStateM.bind
  constructor
  · intro succeeded
    split at succeeded
    · rename_i value middle firstStep
      exact ⟨value, middle, firstStep, succeeded⟩
    · contradiction
  · rintro ⟨value, middle, firstStep, nextStep⟩
    rw [firstStep]
    exact nextStep

theorem bind_eq_error_iff {failure : ε} :
    (first >>= next) start = .error failure finish ↔
      first start = .error failure finish ∨
        ∃ value middle, first start = .ok value middle ∧
          next value middle = .error failure finish := by
  change EStateM.bind first next start = _ ↔ _
  unfold EStateM.bind
  cases firstStep : first start with
  | ok value middle => simp
  | error raised left => simp

theorem bind_of_ok {value : α} {middle : σ} (firstStep : first start = .ok value middle) :
    (first >>= next) start = next value middle := by
  change EStateM.bind first next start = _
  rw [EStateM.bind, firstStep]

theorem bind_of_error {failure : ε} (firstStep : first start = .error failure finish) :
    (first >>= next) start = .error failure finish := by
  change EStateM.bind first next start = _
  rw [EStateM.bind, firstStep]

/-- What follows a look at the state goes on with it. -/
theorem get_bind_apply (next : σ → EStateM ε σ β) (start : σ) :
    (get >>= next : EStateM ε σ β) start = next start start :=
  rfl

/-- The state that a result leaves behind, be it a success or a failure. -/
def leftBy : EStateM.Result ε σ α → σ
  | .ok _ state => state
  | .error _ state => state

theorem leftBy_bind_of_ok {value : α} {middle : σ} (firstStep : first start = .ok value middle) :
    leftBy ((first >>= next) start) = leftBy (next value middle) := by
  rw [bind_of_ok firstStep]

theorem leftBy_bind_of_error {failure : ε} (firstStep : first start = .error failure finish) :
    leftBy ((first >>= next) start) = finish := by
  rw [bind_of_error firstStep]
  rfl

/-- What holds of whatever the first part leaves, and is kept by what follows when it
has succeeded, holds at the end. -/
theorem holds_leftBy_bind {good : σ → Prop} (left : good (leftBy (first start)))
    (keepsNext : ∀ value middle, first start = .ok value middle → good middle →
      good (leftBy (next value middle))) :
    good (leftBy ((first >>= next) start)) := by
  cases firstStep : first start with
  | ok value middle =>
      rw [firstStep] at left
      rw [leftBy_bind_of_ok firstStep]
      exact keepsNext value middle firstStep left
  | error failure middle =>
      rw [firstStep] at left
      rw [leftBy_bind_of_error firstStep]
      exact left

end Sequencing

/-! ## Failures of instructions -/

/-- The failures that instructions have on their own: a fault without a place,
or a number that is too long to be written or read. -/
inductive Failure.OfInstruction : Failure → Prop
  | fault (cause : Cause) : OfInstruction (.fault ⟨cause, none, none⟩)
  | overlong : OfInstruction .overlong
  | overlongNumeral (digits : Nat) : OfInstruction (.overlongNumeral digits)

theorem Failure.ofInstruction_ofCause (cause : Cause) :
    (Failure.ofCause cause).OfInstruction := by
  unfold Failure.ofCause
  split
  · exact .fault cause
  · exact .overlong

/-- A computation without effects that can only fail as instructions do. -/
def Proper {α : Type} (result : Except Failure α) : Prop :=
  ∀ failure, result = .error failure → failure.OfInstruction

theorem Numeral.proper_encode (number : Int) : Proper (Numeral.encode number) := by
  intro failure failed
  unfold Numeral.encode at failed
  split at failed
  · cases failed
  · rw [← Except.error.inj failed]
    exact .overlong

theorem Numeral.proper_decode (value : Text) : Proper (Numeral.decode value) := by
  intro failure failed
  unfold Numeral.decode at failed
  split at failed
  · rw [← Except.error.inj failed]
    exact Failure.ofInstruction_ofCause _
  · split at failed
    · cases failed
    · rw [← Except.error.inj failed]
      exact .overlongNumeral _

theorem Location.proper_encode (location : Location) : Proper location.encode := by
  intro failure failed
  unfold Location.encode at failed
  split at failed
  · cases failed
  · rw [← Except.error.inj failed]
    exact .overlong

theorem Location.proper_decode (value : Text) : Proper (Location.decode value) := by
  intro failure failed
  unfold Location.decode at failed
  split at failed
  · cases failed
  · rw [← Except.error.inj failed]
    exact Failure.ofInstruction_ofCause _

theorem Grid.proper_letterAt (grid : Grid) (location : Location) :
    Proper (grid.letterAt location) := by
  intro failure failed
  unfold Grid.letterAt at failed
  split at failed
  · cases failed
  · rw [← Except.error.inj failed]
    exact Failure.ofInstruction_ofCause _

theorem Request.proper_revise [Cluster.Splitter] (request : Request) (program : Program) :
    Proper (request.revise program) := by
  intro failure failed
  cases request with
  | replace location length text =>
      simp only [Request.revise, Program.replace] at failed
      split at failed
      · rw [← Except.error.inj failed]
        exact Failure.ofInstruction_ofCause _
      · split at failed
        · cases failed
        · rw [← Except.error.inj failed]
          exact Failure.ofInstruction_ofCause _
  | addLine before =>
      simp only [Request.revise, Program.addLine] at failed
      split at failed
      · cases failed
      · rw [← Except.error.inj failed]
        exact Failure.ofInstruction_ofCause _

namespace Frame

/-! ## Basic actions -/

/-- An accepted edit changes the program. -/
theorem edit_of_ok {revise : Program → Except Failure Revision} {frame : Frame}
    {revision : Revision} (accepted : revise frame.program = .ok revision) :
    edit revise frame = .ok revision.inserted
      { frame with
        program := revision.program
        splices := frame.splices ++ revision.splice.toList } := by
  change EStateM.bind (require (revise frame.program)) _ frame = _
  rw [accepted]
  rfl

/-- A refused edit leaves the frame alone. -/
theorem edit_of_error {revise : Program → Except Failure Revision} {frame : Frame}
    {failure : Failure} (refused : revise frame.program = .error failure) :
    edit revise frame = .error failure frame := by
  change EStateM.bind (require (revise frame.program)) _ frame = _
  rw [refused]
  rfl

/-- Going on behind a word cannot fail. -/
theorem perform_eq_error [Cluster.Splitter] {word : Word} {frame left : Frame} {failure : Failure}
    (failed : perform word frame = .error failure left) :
    executeWord word frame = .error failure left := by
  rcases bind_eq_error_iff.mp failed with failed | ⟨flow, middle, _, failed⟩
  · exact failed
  · cases flow with
    | transfer target => cases failed
    | advance => cases failed

/-- Put together from basic actions. -/
inductive Built [Cluster.Splitter] : {α : Type} → Action α → Prop
  | pure {α : Type} (value : α) : Built (pure value : Action α)
  | push (value : Text) : Built (push value)
  | pop : Built pop
  | look : Built currentGrid
  | require {α : Type} {result : Except Failure α} (proper : Proper result) :
      Built (require result)
  | edit (request : Request) : Built (edit request.revise)
  | point (target : Location → Location) :
      Built (modify fun frame => { frame with pointer := target frame.pointer } : Action Unit)
  | bind {α β : Type} {first : Action α} {next : α → Action β} :
      Built first → (∀ value, Built (next value)) → Built (first >>= next)

namespace Built

variable [Cluster.Splitter]

theorem pushLocation (location : Location) : Built (pushLocation location) :=
  .bind (.require location.proper_encode) fun shown => .push shown

theorem pushNumber (number : Int) : Built (pushNumber number) :=
  .bind (.require (Numeral.proper_encode number)) fun shown => .push shown

theorem popLocation : Built popLocation :=
  .bind .pop fun value => .require (Location.proper_decode value)

theorem rebase (place : Location) (delta : Int) (inclusive : Bool) :
    Built (rebase place delta inclusive) :=
  .point fun pointer => rebasedPointer pointer place delta inclusive

theorem replace (location : Location) (length : Int) (text : Text) :
    Built (Frame.edit fun program => program.replace location length text) :=
  .edit (.replace location length text)

/-- Do something and advance. -/
theorem advancing {action : Action Unit} (built : Built action) :
    Built (do action; return Flow.advance) :=
  .bind built fun _ => .pure Flow.advance

theorem giveUp {α : Type} (cause : Cause) :
    Built (throw (.ofCause cause) : Action α) := by
  have proper : Proper (.error (.ofCause cause) : Except Failure α) := by
    intro failure failed
    rw [← Except.error.inj failed]
    exact Failure.ofInstruction_ofCause cause
  exact .require proper

/-! ## Operations -/

theorem load (lead : Text) : Built (load lead) := by
  apply Built.bind .look
  intro grid
  cases grid.findLead lead with
  | none => exact .pure _
  | some location => exact .advancing (.push _)

theorem save (lead : Text) : Built (save lead) := by
  apply Built.bind .pop
  intro value
  apply Built.bind .look
  intro grid
  cases grid.findLead lead with
  | none => exact .pure _
  | some location =>
      exact .bind (.replace _ _ _) fun inserted => .advancing (.rebase _ _ _)

theorem lastOperand (argument : Text) : Built (lastOperand argument) := by
  unfold Frame.lastOperand
  split
  · exact .pop
  · exact .pure argument

theorem applyOperator (operator : Operator) (argument : Text) :
    Built (applyOperator operator argument) := by
  cases operator with
  | equal => exact .bind (lastOperand argument) fun second => .bind .pop fun first => .push _
  | isZero =>
      exact .bind (lastOperand argument) fun value =>
        .bind (.require (Numeral.proper_decode value)) fun number => pushNumber _
  | binary operator =>
      exact .bind (lastOperand argument) fun value =>
        .bind (.require (Numeral.proper_decode value)) fun second =>
          .bind .pop fun other =>
            .bind (.require (Numeral.proper_decode other)) fun first => pushNumber _

theorem math (operand : Text) : Built (math operand) := by
  unfold Frame.math
  split
  · exact .pure _
  · split
    · exact .pure _
    · exact .advancing (applyOperator _ _)

theorem jump (label : Text) : Built (jump label) :=
  .bind .look fun grid => .pure (Flow.transfer (grid.findWord label))

theorem branch (label : Text) : Built (branch label) := by
  apply Built.bind .pop
  intro value
  split
  · exact jump label
  · exact .pure _

theorem find (lead : Text) : Built (find lead) := by
  apply Built.bind .look
  intro grid
  cases grid.findLead lead with
  | none => exact .pure _
  | some location => exact .advancing (pushLocation location)

theorem appendWord : Built appendWord :=
  .bind .pop fun _ => .bind popLocation fun _ => .bind .look fun _ =>
    .bind (.replace _ _ _) fun _ => .bind (.rebase _ _ _) fun _ =>
      .advancing (pushLocation _)

theorem addLine : Built addLine := by
  apply Built.bind popLocation
  intro location
  apply Built.bind (.edit (.addLine (location.row + 1)))
  intro _
  refine .bind ?_ fun _ => .advancing (pushLocation ⟨location.row + 1, 0⟩)
  -- The pointer moves down or stays, and so does the frame around it.
  have pointed := Built.point fun pointer =>
    if location.row + 1 ≤ pointer.row then pointer.shift 1 0 else pointer
  convert pointed using 3
  split <;> rfl

theorem deleteWord : Built deleteWord :=
  .bind popLocation fun location => .bind .look fun _ => .bind (.replace _ _ _) fun _ =>
    .bind (.rebase _ _ _) fun _ => .advancing (pushLocation location)

theorem deleteLetter : Built deleteLetter :=
  .bind popLocation fun location => .bind .look fun grid =>
    .bind (.require (grid.proper_letterAt location)) fun _ => .bind (.replace _ _ _) fun _ =>
      .bind (.rebase _ _ _) fun _ => .advancing (pushLocation location)

theorem paste : Built paste :=
  .bind .pop fun _ => .bind popLocation fun _ => .bind (.replace _ _ _) fun _ =>
    .advancing (.rebase _ _ _)

theorem move (operand : Text) : Built (move operand) := by
  apply Built.bind popLocation
  intro location
  cases Direction.ofText? operand with
  | none => exact .pure _
  | some direction => exact .advancing (pushLocation _)

theorem drop : Built drop :=
  .bind .pop fun _ => .pure Flow.advance

theorem swap : Built swap :=
  .bind .pop fun first => .bind .pop fun second => .bind (.push first) fun _ =>
    .advancing (.push second)

theorem duplicate : Built duplicate :=
  .bind .pop fun value => .bind (.push value) fun _ => .advancing (.push value)

theorem readLetter : Built readLetter :=
  .bind popLocation fun location => .bind .look fun grid =>
    .bind (.require (grid.proper_letterAt location)) fun letter => .advancing (.push letter)

theorem jumpIndirect : Built jumpIndirect := by
  apply Built.bind popLocation
  intro location
  apply Built.bind .look
  intro grid
  split
  · exact .pure _
  · exact .giveUp _

/-- Every instruction is built from basic actions. -/
theorem execute (instruction : Instruction) : Built (execute instruction) := by
  rcases instruction with ⟨opcode, operand⟩
  cases opcode with
  | load => exact load operand
  | save => exact save operand
  | math => exact math operand
  | branch => exact branch operand
  | jump => exact jump operand
  | halt => exact .pure _
  | find => exact find operand
  | appendWord => exact appendWord
  | addLine => exact addLine
  | deleteWord => exact deleteWord
  | deleteLetter => exact deleteLetter
  | paste => exact paste
  | move => exact move operand
  | drop => exact drop
  | swap => exact swap
  | duplicate => exact duplicate
  | readLetter => exact readLetter
  | jumpIndirect => exact jumpIndirect

/-- So is what a word says. -/
theorem executeWord (word : Word) : Built (executeWord word) := by
  unfold Frame.executeWord
  split
  · exact .pure _
  · exact execute _

/-! ## What all instructions have in common -/

section Common

variable {α : Type} {action : Action α}

/-- Instructions only fail in ways of their own. -/
theorem ofInstruction (built : Built action) {frame left : Frame} {failure : Failure}
    (failed : action frame = .error failure left) : failure.OfInstruction := by
  induction built generalizing frame left with
  | pure value => cases failed
  | push value => cases failed
  | look => cases failed
  | point target => cases failed
  | pop =>
      cases memory : frame.memory with
      | nil =>
          rw [pop_of_nil memory] at failed
          injection failed with failure_eq
          rw [← failure_eq]
          exact Failure.ofInstruction_ofCause _
      | cons value rest =>
          rw [pop_of_cons memory] at failed
          cases failed
  | @require _ result proper =>
      cases result with
      | ok value => cases failed
      | error raised =>
          rw [require_error] at failed
          injection failed with failure_eq
          exact proper failure (congrArg Except.error failure_eq)
  | edit request =>
      cases revised : request.revise frame.program with
      | ok revision =>
          rw [edit_of_ok revised] at failed
          cases failed
      | error raised =>
          rw [edit_of_error revised] at failed
          injection failed with failure_eq
          exact failure_eq ▸ request.proper_revise frame.program raised revised
  | bind _ _ firstHypothesis nextHypothesis =>
      rcases bind_eq_error_iff.mp failed with failed | ⟨value, middle, _, failed⟩
      · exact firstHypothesis failed
      · exact nextHypothesis value failed

/-- Instructions change the program by requests only. -/
theorem exists_requests (built : Built action) (frame : Frame) :
    ∃ requests, (leftBy (action frame)).program = frame.program.afterAll requests := by
  induction built generalizing frame with
  | pure value => exact ⟨[], rfl⟩
  | push value => exact ⟨[], rfl⟩
  | look => exact ⟨[], rfl⟩
  | point target => exact ⟨[], rfl⟩
  | pop =>
      cases memory : frame.memory with
      | nil => exact ⟨[], by rw [pop_of_nil memory]; rfl⟩
      | cons value rest => exact ⟨[], by rw [pop_of_cons memory]; rfl⟩
  | @require _ result _ =>
      cases result with
      | ok value => exact ⟨[], rfl⟩
      | error raised => exact ⟨[], rfl⟩
  | edit request =>
      refine ⟨[request], ?_⟩
      change _ = frame.program.after request
      unfold Program.after
      cases revised : request.revise frame.program with
      | ok revision =>
          rw [edit_of_ok revised]
          rfl
      | error raised =>
          rw [edit_of_error revised]
          rfl
  | @bind _ _ first next _ _ firstHypothesis nextHypothesis =>
      obtain ⟨firstRequests, firstProgram⟩ := firstHypothesis frame
      cases firstStep : first frame with
      | ok value middle =>
          obtain ⟨nextRequests, nextProgram⟩ := nextHypothesis value middle
          have middleProgram : middle.program = frame.program.afterAll firstRequests := by
            simpa [firstStep, leftBy] using firstProgram
          refine ⟨firstRequests ++ nextRequests, ?_⟩
          rw [leftBy_bind_of_ok firstStep, nextProgram, middleProgram, Program.afterAll_append]
      | error raised left =>
          refine ⟨firstRequests, ?_⟩
          rw [leftBy_bind_of_error firstStep, ← firstProgram, firstStep]
          rfl

end Common

end Built

/-- Carrying out a word changes the program by requests only. -/
theorem exists_requests_perform [Cluster.Splitter] (word : Word) (frame : Frame) :
    ∃ requests, (leftBy (perform word frame)).program = frame.program.afterAll requests := by
  obtain ⟨requests, left⟩ := (Built.executeWord word).exists_requests frame
  refine ⟨requests, ?_⟩
  unfold perform
  cases executed : executeWord word frame with
  | ok flow middle =>
      rw [executed] at left
      rw [leftBy_bind_of_ok executed]
      cases flow with
      | transfer target => exact left
      | advance => exact left
  | error failure middle =>
      rw [executed] at left
      rw [leftBy_bind_of_error executed]
      exact left

end Frame

end Palimpsest
