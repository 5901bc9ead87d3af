/-!
# Parts of a text

A text with a separator is cut into the parts between the separators, of which there is one at
least.
-/

namespace ContentClient.Text

/-- The parts of a text between the occurrences of a character. -/
def splitOnChar (sep : Char) : List Char → List (List Char)
  | [] => [[]]
  | c :: rest =>
    if c = sep then [] :: splitOnChar sep rest
    else
      match splitOnChar sep rest with
      | [] => [[c]]
      | part :: parts => (c :: part) :: parts

end ContentClient.Text
