/-!
# Splitting a text

## Main definitions

* `Text.split`: the parts of a text between separators
-/

namespace SensorClient.Text

/-- The parts of a text between separators; one more than there are separators. -/
def split (separator : Char) : List Char → List (List Char)
  | [] => [[]]
  | c :: rest =>
    if c = separator then [] :: split separator rest
    else
      match split separator rest with
      | [] => [[c]]
      | part :: others => (c :: part) :: others

end SensorClient.Text
