/-!
# Blanks

The white space of running text: the controls from tab to carriage return, the next-line control,
and the separators of every width. `trim` removes it from both ends.
-/
namespace ListWatch.Text

def isBlank (c : Char) : Bool :=
  let code := c.toNat
  (0x09 ≤ code && code ≤ 0x0D) || code = 0x20 || code = 0x85 || code = 0xA0 || code = 0x1680
    || (0x2000 ≤ code && code ≤ 0x200A) || code = 0x2028 || code = 0x2029 || code = 0x202F
    || code = 0x205F || code = 0x3000

/-- Removes what satisfies the test from both ends. -/
def trimEnds {α : Type} (drop : α → Bool) (items : List α) : List α :=
  ((items.dropWhile drop).reverse.dropWhile drop).reverse

def trim (text : String) : String := String.ofList (trimEnds isBlank text.toList)

end ListWatch.Text
