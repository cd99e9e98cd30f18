/-!
# Texts

A text is a list of code points. Letters of a program, values in memory and
whole programs are texts in this sense, so every count and every cut below is a
count or a cut of code points. Nothing is ever normalised.
-/

namespace Palimpsest

/-- A text, as the list of its code points. -/
abbrev Text := List Char

namespace Text

/-- Whether the code point of `c` lies in one of the closed `ranges`. -/
def inRanges (ranges : List (Nat × Nat)) (c : Char) : Bool :=
  ranges.any fun range => decide (range.1 ≤ c.toNat) && decide (c.toNat ≤ range.2)

/-- The line feed, which separates rows. -/
def lineFeed : Char := Char.ofNat 10

/-- The carriage return, alone or before a line feed another line end. -/
def carriageReturn : Char := Char.ofNat 13

/-- Every line end as a single line feed: the pair of carriage return and line
feed counts as one line end, and a carriage return left over is one too. -/
def foldLineEnds : Text → Text
  | [] => []
  | [c] => if c = carriageReturn then [lineFeed] else [c]
  | c :: d :: rest =>
    if c = carriageReturn then
      if d = lineFeed then lineFeed :: foldLineEnds rest
      else lineFeed :: foldLineEnds (d :: rest)
    else c :: foldLineEnds (d :: rest)

end Text

end Palimpsest
