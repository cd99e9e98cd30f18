import Palimpsest.Cluster.Unicode
import Palimpsest.Proofs.Grid.Exchange
import Palimpsest.Proofs.Program.Splice
import Palimpsest.Proofs.Thread.Editing

/-!
# Saving and loading

Words are the variables of a program: the first word that begins with a lead
holds what follows the lead as its value. The main result says that a saved
value is loaded again as it was, however leads and values are cut with respect
to the clusters that letters are made of, and that no other word is changed by
saving it.
-/

namespace Palimpsest

/-! ## Texts without blanks -/

theorem Text.hasBlank_append (first second : Text) :
    Text.hasBlank (first ++ second) = (Text.hasBlank first || Text.hasBlank second) :=
  List.any_append

/-- What a word spells has no blanks. -/
theorem Grid.hasBlank_readWord (grid : Grid) (location : Location) :
    Text.hasBlank (grid.readWord location).text = false := by
  apply Text.hasBlank_eq_false_iff.mpr
  intro c inside
  rcases List.mem_flatten.mp inside with ⟨letter, member, inLetter⟩
  have inked : Grid.isInk letter = true := List.mem_takeWhile_imp member
  unfold Grid.isInk at inked
  rw [Bool.not_eq_true'] at inked
  exact Text.hasBlank_eq_false_iff.mp inked c inLetter

/-! ## The first word with a lead -/

namespace Grid

variable {grid : Grid} {lead : Text} {place : Location}

/-- The first word with a lead divides the words into those before it, none of
which has the lead, and those behind it. -/
theorem words_of_findLead_eq_some (found : grid.findLead lead = some place) :
    ∃ before behind,
      grid.words = before ++ (place, grid.readWord place) :: behind ∧
        lead <+: (grid.readWord place).text ∧
        ∀ other ∈ before, lead.isPrefixOf other.2.text = false := by
  rcases Option.map_eq_some_iff.mp found with ⟨⟨here, word⟩, first, here_eq⟩
  obtain rfl : here = place := here_eq
  obtain rfl : word = grid.readWord here := snd_of_mem_walk (List.mem_of_find?_eq_some first)
  obtain ⟨leads, before, behind, words_eq, passed⟩ := List.find?_eq_some_iff_append.mp first
  refine ⟨before, behind, words_eq, List.isPrefixOf_iff_prefix.mp leads, ?_⟩
  intro other member
  simpa using passed other member

theorem findLead_of_words_eq {before behind : List (Location × Word)} {word : Word}
    (words_eq : grid.words = before ++ (place, word) :: behind)
    (passed : ∀ other ∈ before, lead.isPrefixOf other.2.text = false)
    (leads : lead <+: word.text) : grid.findLead lead = some place := by
  have first : grid.words.find? (fun other => lead.isPrefixOf other.2.text) =
      some (place, word) := by
    apply List.find?_eq_some_iff_append.mpr
    refine ⟨List.isPrefixOf_iff_prefix.mpr leads, before, behind, words_eq, ?_⟩
    intro other member
    simp [passed other member]
  rw [findLead, first, Option.map_some]

/-- The words of a grid after one of them has been exchanged for letters without
a blank. -/
theorem words_exchange {letters : List Letter} {before behind : List (Location × Word)}
    {word : Word} (words_eq : grid.words = before ++ (place, word) :: behind)
    (unbroken : ∀ letter ∈ letters, isInk letter = true) (letters_ne_nil : letters ≠ []) :
    Grid.words ((Edit.exchange place (grid.readWord place).length letters).apply grid) =
      before ++ (place, ⟨letters⟩) ::
        behind.map (Edit.exchange place (grid.readWord place).length letters).carry := by
  have startInk : ∀ location, grid.nextWord ⟨0, 0⟩ = some location → grid.HasInk location :=
    fun _ next => hasInk_of_nextWord_eq_some next
  have visits : grid.Visits (grid.nextWord ⟨0, 0⟩) (before ++ (place, word) :: behind) :=
    words_eq ▸ visits_wordsFrom startInk
  have standing : (place, word) ∈ before ++ (place, word) :: behind := by simp
  have ink : grid.HasInk place := hasInk_of_mem_words (words_eq ▸ standing)
  obtain ⟨first, next, leads⟩ := visits.exists_leads_of_mem standing
  have inked := ink.hasInk_exchange unbroken letters_ne_nil
  have sameStart := nextWord_exchanged (ink.applies_exchange letters) inked next leads
  apply words_eq_of_visits
  rw [sameStart, ← next]
  exact visits.exchange startInk ink unbroken letters_ne_nil

end Grid

/-! ## Saving and loading -/

namespace Frame

variable {frame : Frame} {lead value : Text} {rest : List Text} {place : Location}

/-- Where a word has the lead, saving succeeds: it takes the value off memory and
exchanges the word for the lead and the value. -/
theorem save_of_findLead_eq_some [Cluster.Splitter]
    (found : frame.program.grid.findLead lead = some place)
    (memory : frame.memory = value :: rest) :
    ∃ after, save lead frame = .ok .advance after ∧ after.memory = rest ∧
      after.program.grid =
        (Edit.exchange place (frame.program.grid.readWord place).length
          (Cluster.split (lead ++ value))).apply frame.program.grid := by
  obtain ⟨line, lineAt, col_nonneg, col_le⟩ :=
    (Grid.hasInk_of_findLead_eq_some found).applies_exchange []
  obtain ⟨revision, revised⟩ := Program.exists_replace_eq_ok lineAt col_nonneg
    (by omega : place.col ≤ line.length) (frame.program.grid.readWord place).length (lead ++ value)
  have edited : edit (fun program => program.replace place
        (frame.program.grid.readWord place).length (lead ++ value))
      { frame with memory := rest } = .ok revision.inserted _ :=
    edit_of_ok revised
  obtain ⟨_, _, grid_eq, _⟩ := edit_replace_eq_ok edited rfl (Grid.length_readWord_le _ _)
  have saved : save lead frame = .ok .advance {
      program := revision.program
      pointer := rebasedPointer frame.pointer place
        (revision.inserted - (frame.program.grid.readWord place).length) false
      memory := rest
      splices := frame.splices ++ revision.splice.toList } := by
    apply bind_eq_ok_iff.mpr
    refine ⟨value, _, pop_of_cons memory, ?_⟩
    apply bind_eq_ok_iff.mpr
    refine ⟨frame.program.grid, _, rfl, ?_⟩
    simp only [found]
    exact bind_eq_ok_iff.mpr ⟨_, _, edited, rfl⟩
  exact ⟨_, saved, rfl, grid_eq⟩

/-- Where a word has the lead, loading pushes what follows it there. -/
theorem load_of_findLead_eq_some (found : frame.program.grid.findLead lead = some place) :
    load lead frame = .ok .advance
      { frame with
        memory := (frame.program.grid.readWord place).text.drop lead.length :: frame.memory } := by
  apply bind_eq_ok_iff.mpr
  refine ⟨frame.program.grid, frame, rfl, ?_⟩
  simp only [found]
  rfl

/-- A saved value is loaded again. Saving takes it off memory and leaves the word
that holds it the first one with its lead; whoever loads it from then on gets
exactly the value. All other words read as before and stand in the same order. -/
theorem load_eq_of_save [Cluster.Splitter] {frame : Frame} {lead value : Text} {rest : List Text}
    {place : Location} (found : frame.program.grid.findLead lead = some place)
    (memory : frame.memory = value :: rest) (plain : Text.hasBlank value = false)
    (something : lead ++ value ≠ []) :
    ∃ after, execute ⟨.save, lead⟩ frame = .ok .advance after ∧ after.memory = rest ∧
      after.program.grid.findLead lead = some place ∧
      (∀ reader : Frame, reader.program.grid = after.program.grid →
        execute ⟨.load, lead⟩ reader =
          .ok .advance { reader with memory := value :: reader.memory }) ∧
      ∃ before behind held,
        frame.program.grid.words =
            before ++ (place, frame.program.grid.readWord place) :: behind ∧
          held.text = lead ++ value ∧
          after.program.grid.words = before ++ (place, held) ::
            behind.map (Edit.exchange place (frame.program.grid.readWord place).length
              held.letters).carry := by
  obtain ⟨before, behind, words_eq, leads, passed⟩ := Grid.words_of_findLead_eq_some found
  obtain ⟨after, saved, memory_eq, grid_eq⟩ := save_of_findLead_eq_some found memory
  -- A lead of a word has no blanks, so the lead and the value together make one word.
  have unbroken : ∀ letter ∈ Cluster.split (lead ++ value), Grid.isInk letter = true := by
    have leadPlain := Grid.hasBlank_readWord frame.program.grid place
    rcases leads with ⟨old, text_eq⟩
    rw [← text_eq, Text.hasBlank_append, Bool.or_eq_false_iff] at leadPlain
    intro letter member
    apply Grid.isInk_of_mem_split _ member
    rw [Text.hasBlank_append, leadPlain.1, plain]
    rfl
  have letters_ne_nil : Cluster.split (lead ++ value) ≠ [] := by
    intro empty
    apply something
    rw [← Cluster.flatten_split (lead ++ value), empty]
    rfl
  have newWords := Grid.words_exchange words_eq unbroken letters_ne_nil
  rw [← grid_eq] at newWords
  have heldText : Word.text ⟨Cluster.split (lead ++ value)⟩ = lead ++ value :=
    Cluster.flatten_split _
  have foundAgain : after.program.grid.findLead lead = some place :=
    Grid.findLead_of_words_eq newWords passed (by
      rw [heldText]
      exact List.prefix_append lead value)
  refine ⟨after, saved, memory_eq, foundAgain, ?_, before, behind,
    ⟨Cluster.split (lead ++ value)⟩, words_eq, heldText, newWords⟩
  intro reader sameGrid
  have read : reader.program.grid.readWord place = ⟨Cluster.split (lead ++ value)⟩ := by
    rw [sameGrid, grid_eq]
    exact (Grid.hasInk_of_findLead_eq_some found).readWord_exchange unbroken
  have loaded := load_of_findLead_eq_some (sameGrid ▸ foundAgain)
  rw [read, heldText, List.drop_left] at loaded
  exact loaded

/-- The seam of a lead and a value may fall inside a cluster: here an accent is
saved behind the letter that it belongs to. -/
theorem load_eq_of_save_accent :
    let frame : Frame := ⟨.load "x e=1 z".toList false, ⟨0, 0⟩, ["\u0301!".toList], []⟩
    ∃ after, execute ⟨.save, ['e']⟩ frame = .ok .advance after ∧
      after.program.grid.text = "x e\u0301! z".toList ∧
      after.program.grid.readWord ⟨0, 2⟩ = ⟨["e\u0301".toList, ['!']]⟩ ∧
      after.program.grid.findLead ['e'] = some ⟨0, 2⟩ ∧
      execute ⟨.load, ['e']⟩ after =
        .ok .advance { after with memory := ["\u0301!".toList] } := by
  intro frame
  have found : frame.program.grid.findLead ['e'] = some ⟨0, 2⟩ := by decide +kernel
  have memory : frame.memory = ["\u0301!".toList] := rfl
  have plain : Text.hasBlank "\u0301!".toList = false := by decide +kernel
  obtain ⟨after, saved, memory_eq, foundAgain, loaded, _⟩ :=
    load_eq_of_save found memory plain (by decide)
  have left : after = leftBy (execute ⟨.save, ['e']⟩ frame) := by rw [saved, leftBy]
  refine ⟨after, saved, ?_, ?_, foundAgain, ?_⟩
  · rw [left]
    decide +kernel
  · rw [left]
    decide +kernel
  · rw [loaded after rfl, memory_eq]

end Frame

end Palimpsest
