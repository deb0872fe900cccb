/-!
# Text: tables of code points

A character property is stored as the closed ranges of code points that have it.
-/

namespace AxisMixer.Text

/-- Whether `n` lies in one of the closed ranges. -/
def inRanges (table : Array (Nat × Nat)) (n : Nat) : Bool :=
  table.any fun range => range.1 ≤ n && n ≤ range.2

end AxisMixer.Text
