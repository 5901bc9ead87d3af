/-!
# Letter case

The letters of ASCII have a small and a capital form. Full case folding also takes a few other
characters to letters of ASCII: the long and the sharp s, the Kelvin sign, and the ligatures of f
and of s.
-/

namespace ContentClient.Text

/-- Characters with ASCII letters small. -/
def lower (cs : List Char) : List Char := cs.map Char.toLower

@[simp] theorem length_lower (cs : List Char) : (lower cs).length = cs.length := by
  simp [lower]

/-- The letters of ASCII to which a character folds; the character itself if there are none. -/
def foldChar (c : Char) : List Char :=
  match c.toNat with
  | 0xDF | 0x1E9E => ['s', 's']
  | 0x17F => ['s']
  | 0x212A => ['k']
  | 0xFB00 => ['f', 'f']
  | 0xFB01 => ['f', 'i']
  | 0xFB02 => ['f', 'l']
  | 0xFB03 => ['f', 'f', 'i']
  | 0xFB04 => ['f', 'f', 'l']
  | 0xFB05 | 0xFB06 => ['s', 't']
  | _ => [c.toLower]

/-- Characters folded for a comparison with ASCII text that does not see the case of letters. -/
def fold (cs : List Char) : List Char := cs.flatMap foldChar

end ContentClient.Text
