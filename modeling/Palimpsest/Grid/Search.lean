import Palimpsest.Grid.Basic

/-!
# Searching a grid

Searches walk over the words of a grid in reading order: read the word at a
location, go on behind it to the next one. Every step of the walk moves
forward by at least one letter, so the number of letters bounds the walk.
-/

namespace Palimpsest.Grid

/-- The number of letters of a grid. -/
def letterCount : Grid → Nat
  | [] => 0
  | row :: rest => row.length + letterCount rest

/-- The walk over the words from a location on, with a bound on its steps. -/
def walk (grid : Grid) : (bound : Nat) → Option Location → List (Location × Word)
  | 0, _ => []
  | _, none => []
  | bound + 1, some location =>
    let word := grid.readWord location
    (location, word) :: walk grid bound (grid.nextWord (location.right word.length))

/-- The words from a location on, with their locations, in reading order. -/
def wordsFrom (grid : Grid) (start : Option Location) : List (Location × Word) :=
  grid.walk (grid.letterCount + 1) start

/-- All words of a grid with their locations, in reading order. -/
def words (grid : Grid) : List (Location × Word) :=
  grid.wordsFrom (grid.nextWord ⟨0, 0⟩)

/-- Where the first word stands whose text begins with `lead`. -/
def findLead (grid : Grid) (lead : Text) : Option Location :=
  (grid.words.find? fun found => lead.isPrefixOf found.2.text).map Prod.fst

/-- Where the first word stands whose text is `label`. -/
def findWord (grid : Grid) (label : Text) : Option Location :=
  (grid.words.find? fun found => found.2.text == label).map Prod.fst

end Palimpsest.Grid
