import Palimpsest.Cluster.Split
import Palimpsest.Cluster.Splitter

/-!
# Extended grapheme clusters

Programs are cut into the extended grapheme clusters of their texts. Splitting keeps to
the laws of a splitter: it loses nothing and leaves no cluster empty by the way it goes
through a text, and a line feed stands alone because it attaches to nothing but a
carriage return, and nothing attaches to it.
-/

namespace Palimpsest.Cluster

/-- A choice between two categories that are no line ends is none. -/
theorem ite_ne {condition : Prop} [Decidable condition] {first second lineEnd : Category}
    (first_ne : first ≠ lineEnd) (second_ne : second ≠ lineEnd) :
    (if condition then first else second) ≠ lineEnd := by
  split
  · exact first_ne
  · exact second_ne

/-- Carriage returns are ASCII. -/
theorem wideCategory_ne_carriageReturn (c : Char) : wideCategory c ≠ .carriageReturn := by
  unfold wideCategory
  repeat' apply ite_ne
  all_goals decide

theorem carriageReturn_of_category_eq {c : Char} (lineEnd : category c = .carriageReturn) :
    c = Text.carriageReturn := by
  by_cases thirteen : c.toNat = 13
  · rw [← Char.ofNat_toNat c, thirteen]
    rfl
  · have other : category c ≠ .carriageReturn := by
      simp only [category, if_neg thirteen]
      exact ite_ne (by decide) (ite_ne (by decide) (ite_ne (by decide)
        (wideCategory_ne_carriageReturn c)))
    exact absurd lineEnd other

/-- A line feed attaches to nothing but a carriage return. -/
theorem Tail.joins_lineFeed (tail : Tail) :
    tail.joins .lineFeed = true ↔ tail.last = .carriageReturn := by
  rcases tail with ⟨last, fusion, pairOpen⟩
  cases last <;> simp [joins]

/-- Nothing attaches to a line feed. -/
theorem Tail.joins_of_last_lineFeed {tail : Tail} (last : tail.last = .lineFeed)
    (next : Category) : tail.joins next = false := by
  unfold joins
  rw [last]

theorem alone_singleton (c : Char) : [c] = [Text.lineFeed] ∨ Text.lineFeed ∉ [c] := by
  by_cases lineEnd : c = Text.lineFeed
  · exact .inl (lineEnd ▸ rfl)
  · exact .inr fun inside => lineEnd (List.mem_singleton.mp inside).symm

/-- Without carriage returns a line feed is a cluster by itself. The induction keeps
in view the code point that was taken up last, and that a line feed among those of
the open cluster is the only one of them. -/
theorem alone_of_mem_splitFrom {tail : Tail} {c : Char} {opened text cluster : Text}
    (last : tail.last = category c) (plain : Text.carriageReturn ∉ c :: text)
    (alone : c :: opened = [Text.lineFeed] ∨ Text.lineFeed ∉ c :: opened)
    (member : cluster ∈ splitFrom tail (c :: opened) text) :
    cluster = [Text.lineFeed] ∨ Text.lineFeed ∉ cluster := by
  have closed : (c :: opened).reverse = [Text.lineFeed] ∨
      Text.lineFeed ∉ (c :: opened).reverse := by
    rcases alone with alone | free
    · rw [alone]
      exact .inl rfl
    · exact .inr fun inside => free (List.mem_reverse.mp inside)
  induction text generalizing tail c opened with
  | nil =>
      rw [splitFrom, List.mem_singleton] at member
      exact member ▸ closed
  | cons next rest inductionHypothesis =>
      have plainRest : Text.carriageReturn ∉ next :: rest :=
        fun inside => plain (List.mem_cons_of_mem c inside)
      rw [splitFrom] at member
      split at member
      · rename_i joins
        -- What is open is no line feed, for nothing attaches to one.
        have free : Text.lineFeed ∉ c :: opened := by
          rcases alone with alone | free
          · cases alone
            exact absurd (joins.symm.trans (tail.joins_of_last_lineFeed last _)) (by simp)
          · exact free
        -- Nor is what follows, for it would need a carriage return before it.
        have other : next ≠ Text.lineFeed := by
          rintro rfl
          have ended := tail.joins_lineFeed.mp joins
          exact plain (carriageReturn_of_category_eq (last.symm.trans ended) ▸ List.mem_cons_self)
        have freeThen : Text.lineFeed ∉ next :: c :: opened := by
          simp only [List.mem_cons, not_or] at free ⊢
          exact ⟨other.symm, free⟩
        exact inductionHypothesis rfl plainRest (.inr freeThen) member
          (.inr fun inside => freeThen (List.mem_reverse.mp inside))
      · rcases List.mem_cons.mp member with rfl | later
        · exact closed
        · exact inductionHypothesis rfl plainRest (alone_singleton next) later
            (alone_singleton next)

theorem alone_of_mem_splitExtended {text cluster : Text} (plain : Text.carriageReturn ∉ text)
    (member : cluster ∈ splitExtended text) :
    cluster = [Text.lineFeed] ∨ Text.lineFeed ∉ cluster := by
  cases text with
  | nil => cases member
  | cons first rest => exact alone_of_mem_splitFrom rfl plain (alone_singleton first) member

/-- Texts are cut into extended grapheme clusters. -/
instance extendedClusters : Splitter where
  split := splitExtended
  flatten_split := flatten_splitExtended
  ne_nil_of_mem_split := ne_nil_of_mem_splitExtended
  alone_of_mem_split := alone_of_mem_splitExtended

theorem split_eq_splitFrom (c : Char) (text : Text) :
    split (c :: text) = splitFrom (.start (category c)) [c] text :=
  rfl

end Palimpsest.Cluster
