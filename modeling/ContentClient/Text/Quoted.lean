import ContentClient.Text.Unprintable

/-!
# Quoted text and the notation of diagnostics

Diagnostics describe a value in one line: text in double quotes, an absent value as `None`, a record
as `Name { field: value, … }`. The quoted form shows every printable character as it is; a quote, a
backslash and four control characters have a two-character escape, every other character that cannot
be shown is written by its code in hexadecimal.
-/

namespace ContentClient.Text

/-- The lower-case hexadecimal digits of `n`, without leading zeros. -/
def hexDigits (n : Nat) : String := String.ofList (Nat.toDigits 16 n)

/-- A character as quoted text writes it. -/
def quoteChar (c : Char) : String :=
  if c = '"' then "\\\""
  else if c = '\\' then "\\\\"
  else if c = '\n' then "\\n"
  else if c = '\r' then "\\r"
  else if c = '\t' then "\\t"
  else if c = '\x00' then "\\0"
  else if isUnprintable c then "\\u\x7b" ++ hexDigits c.toNat ++ "\x7d"
  else c.toString

/-- A text in double quotes, with escapes. -/
def quoted (s : String) : String :=
  "\"" ++ String.join (s.toList.map quoteChar) ++ "\""

namespace Notation

/-- Items between brackets, separated by commas. -/
def list (items : List String) : String := "[" ++ ", ".intercalate items ++ "]"

/-- A named value with one component. -/
def tagged (name component : String) : String := name ++ "(" ++ component ++ ")"

/-- A value that may be absent. -/
def optional (item : Option String) : String :=
  match item with
  | none => "None"
  | some item => tagged "Some" item

/-- Two values in parentheses. -/
def pair (first second : String) : String := "(" ++ first ++ ", " ++ second ++ ")"

/-- A record with its fields in order. -/
def record (name : String) (fields : List (String × String)) : String :=
  name ++ " \x7b " ++ ", ".intercalate (fields.map fun f => f.1 ++ ": " ++ f.2) ++ " \x7d"

end Notation

end ContentClient.Text
