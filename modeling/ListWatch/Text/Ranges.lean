/-!
# Ranges of characters

A class of characters is a table of ranges of code points, each given by its first and its last.
-/
namespace ListWatch.Text

def within (ranges : List (Nat × Nat)) (c : Char) : Bool :=
  ranges.any fun range => range.1 ≤ c.toNat && c.toNat ≤ range.2

end ListWatch.Text
