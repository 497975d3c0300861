namespace ScoreLexer.Text

-- Inclusive ranges of code points, in increasing order.
abbrev CodeRanges := List (Nat × Nat)

def CodeRanges.contains (ranges : CodeRanges) (n : Nat) : Bool :=
  ranges.any fun (first, last) => first ≤ n && n ≤ last

end ScoreLexer.Text
