/-!
# Parts of a text

A text is split at every occurrence of a separator, so it has one part more than
it has separators.
-/
namespace ListWatch.Text

def splitAt (separator : Char) : List Char → List (List Char)
  | [] => [[]]
  | c :: rest =>
    if c = separator then [] :: splitAt separator rest
    else match splitAt separator rest with
      | [] => [[c]]
      | first :: others => (c :: first) :: others

end ListWatch.Text
