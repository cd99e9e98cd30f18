import Palimpsest.Proofs.Grid.Words

/-!
# Exchanging a word

When the letters of one word are exchanged for other letters without a blank, a
walk over the words of the grid visits as many words as before and in the same
order. The words before the exchanged one are found where they stood, the words
behind it where the edit has displaced them to, and all of them read as they did.
-/

namespace Palimpsest

namespace Location

variable {first second : Location}

/-- Of two different locations the one that leads stands before the other. -/
theorem Leads.before (leads : first.Leads second) (apart : first ≠ second) :
    first.Before second := by
  by_contra notBefore
  apply apart
  apply leads.antisymm
  simp only [Before, Leads] at notBefore leads ⊢
  omega

theorem leads_of_not_before (notBefore : ¬ first.Before second) : second.Leads first := by
  simp only [Before, Leads] at notBefore ⊢
  omega

theorem Before.leads (before : first.Before second) : first.Leads second := by
  simp only [Before, Leads] at before ⊢
  omega

end Location

/-- A word with its location, as an edit before it leaves them. -/
def Edit.carry (edit : Edit) (visited : Location × Word) : Location × Word :=
  (edit.displace visited.1, visited.2)

namespace Grid

variable {grid : Grid} {start : Option Location} {location found place : Location}
  {visited : List (Location × Word)}

namespace Visits

/-- There is only one walk from a location on. -/
theorem unique {others : List (Location × Word)} (visits : grid.Visits start visited)
    (again : grid.Visits start others) : visited = others := by
  induction visits generalizing others with
  | stop =>
      cases again
      rfl
  | visit onward inductionHypothesis =>
      cases again with
      | visit onwardAgain => rw [inductionHypothesis onwardAgain]

/-- A walk never goes back: what it visits stands where it starts or further on. -/
theorem exists_leads_of_mem (visits : grid.Visits start visited) {pair : Location × Word}
    (member : pair ∈ visited) : ∃ first, start = some first ∧ first.Leads pair.1 := by
  induction visits with
  | stop => cases member
  | @visit here rest onward inductionHypothesis =>
      refine ⟨here, rfl, ?_⟩
      rcases List.mem_cons.mp member with rfl | later
      · exact .refl here
      · obtain ⟨found, next, leads⟩ := inductionHypothesis later
        exact ((here.leads_right _).trans (leads_nextWord next)).trans leads

/-- Behind an edit a walk visits the words that it has visited before, where they
are now. -/
theorem displaced {edit : Edit} (applies : edit.Applies grid) (visits : grid.Visits start visited)
    (precedes : ∀ location, start = some location → edit.Precedes location) :
    Visits (edit.apply grid) (start.map edit.displace) (visited.map edit.carry) := by
  induction visits with
  | stop => exact .stop
  | @visit here rest onward inductionHypothesis =>
      have behind := precedes here rfl
      have read := Edit.readWord_displace applies behind
      have next : Grid.nextWord (edit.apply grid) ((edit.displace here).right
          (Grid.readWord (edit.apply grid) (edit.displace here)).length) =
            (grid.nextWord (here.right (grid.readWord here).length)).map edit.displace := by
        rw [read, ← Edit.displace_right behind,
          Edit.nextWord_displace applies (behind.of_leads (here.leads_right _))]
      have further := inductionHypothesis fun found next_eq =>
        behind.of_leads ((here.leads_right _).trans (leads_nextWord next_eq))
      have walked := Visits.visit (next ▸ further)
      rw [read] at walked
      exact walked

end Visits

/-- The walk over all words of a grid is the one from its first word on. -/
theorem words_eq_of_visits (visits : grid.Visits (grid.nextWord ⟨0, 0⟩) visited) :
    grid.words = visited :=
  (visits_wordsFrom fun _ next => hasInk_of_nextWord_eq_some next).unique visits

/-! ## Before the exchanged letters -/

section Before

variable {deleted : Nat} {letters : List Letter}
  (applies : (Edit.exchange place deleted letters).Applies grid)
include applies

/-- A run of letters before an edit is left alone. -/
theorem take_lettersAt_exchanged {length : Nat} (positive : 0 < length)
    (ends : (location.right (length : Nat)).Leads place) (col_nonneg : 0 ≤ location.col) :
    (Grid.lettersAt ((Edit.exchange place deleted letters).apply grid) location).take length =
      (grid.lettersAt location).take length := by
  have ahead : place.row = location.row → location.col + length ≤ place.col := by
    simp only [Location.Leads, Location.right_row, Location.right_col] at ends
    omega
  have stays : (Edit.exchange place deleted letters).displace location = location := by
    apply if_neg
    rintro ⟨same, behind⟩
    have := ahead same
    omega
  have kept := Edit.take_lettersAt_displace positive col_nonneg applies
    ((Edit.spares_exchange_iff positive).mpr fun same => .inr (ahead same))
  rwa [stays] at kept

/-- Before an edit the letters of words are those that were there. -/
theorem hasInk_exchanged_iff (before : location.Before place) :
    Grid.HasInk ((Edit.exchange place deleted letters).apply grid) location ↔
      grid.HasInk location := by
  by_cases col_nonneg : 0 ≤ location.col
  · have ends : (location.right (1 : Nat)).Leads place := by
      simp only [Location.Before] at before
      simp only [Location.Leads, Location.right_row, Location.right_col]
      omega
    have first := congrArg List.head?
      (take_lettersAt_exchanged applies Nat.one_pos ends col_nonneg)
    simp only [List.head?_take, Nat.one_ne_zero, if_false] at first
    rw [HasInk, HasInk, letter?, letter?, first]
  · constructor <;> exact fun ink => absurd ink.nonneg.2 col_nonneg

/-- A word that ends before an edit reads as it did. -/
theorem readWord_exchanged (ink : grid.HasInk location)
    (ends : (location.right (grid.readWord location).length).Before place) :
    Grid.readWord ((Edit.exchange place deleted letters).apply grid) location =
      grid.readWord location := by
  obtain ⟨stands, unbroken, closes⟩ := readWord_eq_iff.mp (Eq.refl (grid.readWord location))
  have kept := take_lettersAt_exchanged applies ink.readWord_length_pos
    ends.leads ink.nonneg.2
  refine readWord_eq_iff.mpr ⟨?_, unbroken, ?_⟩
  · rw [List.prefix_iff_eq_take.mp stands]
    change List.take (grid.readWord location).length _ <+: _
    rw [← kept]
    exact List.take_prefix _ _
  · rwa [hasInk_exchanged_iff applies ends]

/-- The next word is the one that it was, as long as it does not stand behind
the place of an edit that puts a letter of a word there. -/
theorem nextWord_exchanged
    (inked : Grid.HasInk ((Edit.exchange place deleted letters).apply grid) place)
    (next : grid.nextWord location = some found) (leads : found.Leads place) :
    Grid.nextWord ((Edit.exchange place deleted letters).apply grid) location = some found := by
  have ⟨foundInk, reached, least⟩ := nextWord_eq_some_iff.mp next
  refine nextWord_eq_some_iff.mpr ⟨?_, reached, ?_⟩
  · by_cases before : found.Before place
    · exact (hasInk_exchanged_iff applies before).mpr foundInk
    · rwa [leads.antisymm (Location.leads_of_not_before before)]
  · intro other otherInk behind
    by_cases before : other.Before place
    · exact least other ((hasInk_exchanged_iff applies before).mp otherInk) behind
    · exact leads.trans (Location.leads_of_not_before before)

end Before

/-! ## The walk over an exchanged word -/

section Exchange

variable {letters : List Letter}

/-- The letters of a word can be exchanged. -/
theorem HasInk.applies_exchange (ink : grid.HasInk place) (letters : List Letter) :
    (Edit.exchange place (grid.readWord place).length letters).Applies grid := by
  rcases hasInk_iff.mp ink with ⟨line, found, col_nonneg, letter, letterAt, _⟩
  rcases List.getElem?_eq_some_iff.mp letterAt with ⟨col_lt, _⟩
  have short := grid.length_readWord_le place
  rw [lettersAt_of_row?_eq_some found col_nonneg, List.length_drop] at short
  exact ⟨line, found, col_nonneg, by omega⟩

theorem precedes_exchange_end :
    (Edit.exchange place (grid.readWord place).length letters).Precedes
      (place.right (grid.readWord place).length) :=
  .inr ⟨(place.right_row _).symm, Int.le_of_eq (place.right_col _).symm⟩

/-- What stands behind a word stands behind the letters that it is exchanged for. -/
theorem displace_exchange_end :
    (Edit.exchange place (grid.readWord place).length letters).displace
        (place.right (grid.readWord place).length) = place.right letters.length := by
  rw [Edit.displace, if_pos ⟨(place.right_row _).symm, Int.le_of_eq (place.right_col _).symm⟩]
  simp only [Location.right, Location.shift, Location.mk.injEq]
  omega

/-- Letters without a blank that a word is exchanged for are read as one word. -/
theorem HasInk.readWord_exchange (ink : grid.HasInk place)
    (unbroken : ∀ letter ∈ letters, isInk letter = true) :
    Grid.readWord ((Edit.exchange place (grid.readWord place).length letters).apply grid) place =
      ⟨letters⟩ := by
  have applies := ink.applies_exchange letters
  have ⟨line, found, col_nonneg, col_le⟩ := applies
  refine readWord_eq_iff.mpr ⟨?_, unbroken, ?_⟩
  · rw [lettersAt_of_row?_eq_some (Edit.row?_apply_exchange_self _ letters found) col_nonneg,
      exchange, List.append_assoc, List.drop_append_of_le_length (by simp; omega)]
    simp
  · have ends := Edit.hasInk_displace_iff applies precedes_exchange_end
    rw [displace_exchange_end] at ends
    exact fun inked => grid.not_hasInk_readWord_end place (ends.mp inked)

theorem HasInk.hasInk_exchange (ink : grid.HasInk place)
    (unbroken : ∀ letter ∈ letters, isInk letter = true) (letters_ne_nil : letters ≠ []) :
    Grid.HasInk ((Edit.exchange place (grid.readWord place).length letters).apply grid) place := by
  apply hasInk_of_readWord_length_pos
  rw [ink.readWord_exchange unbroken]
  exact List.length_pos_iff.mpr letters_ne_nil

/-- The walk from an exchanged word on: all that stands behind it is displaced. -/
theorem HasInk.visits_exchange (ink : grid.HasInk place)
    (unbroken : ∀ letter ∈ letters, isInk letter = true) {behind : List (Location × Word)}
    (onward : grid.Visits (grid.nextWord (place.right (grid.readWord place).length)) behind) :
    Visits ((Edit.exchange place (grid.readWord place).length letters).apply grid) (some place)
      ((place, ⟨letters⟩) ::
        behind.map (Edit.exchange place (grid.readWord place).length letters).carry) := by
  have applies := ink.applies_exchange letters
  have read := ink.readWord_exchange unbroken
  have further := onward.displaced applies fun found next =>
    precedes_exchange_end.of_leads (leads_nextWord next)
  rw [← Edit.nextWord_displace applies precedes_exchange_end, displace_exchange_end] at further
  rw [← read]
  apply Visits.visit
  rw [read]
  exact further

/-- The walk over the words of a grid in which one word has been exchanged: the
words before it stay, those behind it are displaced. -/
theorem Visits.exchange {before behind : List (Location × Word)} {word : Word}
    (visits : grid.Visits start (before ++ (place, word) :: behind))
    (startInk : ∀ location, start = some location → grid.HasInk location)
    (ink : grid.HasInk place) (unbroken : ∀ letter ∈ letters, isInk letter = true)
    (letters_ne_nil : letters ≠ []) :
    Visits ((Edit.exchange place (grid.readWord place).length letters).apply grid) start
      (before ++ (place, ⟨letters⟩) ::
        behind.map (Edit.exchange place (grid.readWord place).length letters).carry) := by
  have applies := ink.applies_exchange letters
  have inked := ink.hasInk_exchange unbroken letters_ne_nil
  induction before generalizing start with
  | nil =>
      cases visits with
      | visit onward => exact ink.visits_exchange unbroken onward
  | cons first more inductionHypothesis =>
      cases visits with
      | @visit here _ onward =>
          have standing : (place, word) ∈ more ++ (place, word) :: behind := by simp
          obtain ⟨found, next, leads⟩ := onward.exists_leads_of_mem standing
          -- A word ends where no word has a letter, so not where the next one begins.
          have ends : (here.right (grid.readWord here).length).Before place := by
            apply ((leads_nextWord next).trans leads).before
            intro same
            exact grid.not_hasInk_readWord_end here (same ▸ ink)
          have read := readWord_exchanged applies (startInk here rfl) ends
          have walked := inductionHypothesis onward fun _ next => hasInk_of_nextWord_eq_some next
          rw [next, ← nextWord_exchanged applies inked next leads] at walked
          rw [List.cons_append, ← read]
          apply Visits.visit
          rw [read]
          exact walked

end Exchange

end Grid

end Palimpsest
