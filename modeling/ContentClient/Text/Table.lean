import ContentClient.Text.Digits
import ContentClient.Text.Split

/-!
# Tables of characters

A table holds runs of characters beyond ASCII in increasing order, each with a value of some codes.
It is written as lines of entries between blanks, in hexadecimal: the code of a character, or the
first and the last code of a run with `-` between them, or with `/` if the run has every other code
only. The codes of the value follow behind `=` and commas. Behind `+` the first code of the value is
that for the first character of the run, and goes up by one with every code.
-/

namespace ContentClient.Text

/-- A run of characters with a value. -/
structure Run where
  first : Nat
  last : Nat
  /-- The distance between the codes of the run. -/
  step : Nat
  /-- Whether the first code of the value goes up along the run. -/
  rises : Bool
  value : List Nat

namespace Run

/-- The value of a code, if the run holds it. -/
def find? (r : Run) (n : Nat) : Option (List Nat) :=
  if r.first ≤ n && n ≤ r.last && (n - r.first) % r.step == 0 then
    match r.rises, r.value with
    | true, code :: rest => some ((code + (n - r.first)) :: rest)
    | _, value => some value
  else none

/-- A number in hexadecimal digits; zero if there are other characters. -/
def hex (digits : List Char) : Nat := (digitsValue? 16 0 digits).getD 0

/-- The run that an entry writes. -/
def ofEntry (entry : List Char) : Run :=
  let codes := entry.takeWhile fun c => c != '=' && c != '+'
  let value := entry.drop codes.length
  let first := codes.takeWhile fun c => c != '-' && c != '/'
  let last := codes.drop (first.length + 1)
  { first := hex first
    last := if last.isEmpty then hex first else hex last
    step := if codes.contains '/' then 2 else 1
    rises := value.head? == some '+'
    value := if value.isEmpty then [] else ((splitOnChar ',' (value.drop 1)).filter
      fun part => !part.isEmpty).map hex }

end Run

/-- Runs in increasing order. -/
structure Table where
  runs : Array Run

namespace Table

/-- The table that lines write. -/
def ofLines (lines : List String) : Table :=
  let entries := (lines.flatMap fun line => splitOnChar ' ' line.toList).filter fun e => !e.isEmpty
  ⟨(entries.map Run.ofEntry).toArray⟩

/-- How many runs start at most at a code, if those below `low` do and those from `high` on do not.
The search halves the part in between, at most `rounds` times. -/
def countFrom (t : Table) (n : Nat) : (rounds low high : Nat) → Nat
  | 0, low, _ => low
  | rounds + 1, low, high =>
    if low < high then
      let middle := (low + high) / 2
      match t.runs[middle]? with
      | none => low
      | some run =>
        if run.first ≤ n then t.countFrom n rounds (middle + 1) high
        else t.countFrom n rounds low middle
    else low

/-- The value of a character, if the table holds it. -/
def find? (t : Table) (c : Char) : Option (List Nat) :=
  if c.toNat < 0x80 then none
  else
    let count := t.countFrom c.toNat t.runs.size 0 t.runs.size
    if count = 0 then none else (t.runs[count - 1]?).bind (·.find? c.toNat)

/-- Whether the table holds a character. -/
def contains (t : Table) (c : Char) : Bool := (t.find? c).isSome

end Table

end ContentClient.Text
