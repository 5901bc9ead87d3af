import ContentClient.Text.Digits
import ContentClient.Text.Quoted
import ContentClient.Text.Split

/-!
# Numeric addresses

Hosts that are written as numbers: IPv4 addresses of one to four numbers in three radixes, and IPv6
addresses of eight groups, of which one run of zeros may be left out.
-/

namespace ContentClient

namespace Ipv4

/-- A number of an address: hexadecimal behind `0x`, octal behind `0`, else decimal. -/
def number? : List Char → Option Nat
  | [] => none
  | '0' :: 'x' :: digits | '0' :: 'X' :: digits => Text.digitsValue? 16 0 digits
  | '0' :: d :: digits => Text.digitsValue? 8 0 (d :: digits)
  | digits => Text.digitsValue? 10 0 digits

/-- The numbers of an address, without an empty one behind a final dot. -/
def parts (host : List Char) : List (List Char) :=
  let parts := Text.splitOnChar '.' host
  if parts.getLast? = some [] then parts.dropLast else parts

/-- Whether the last label of a host is a number, so that the host has to be an address. -/
def isNumeric (host : List Char) : Bool :=
  match (parts host).getLast? with
  | none => false
  | some last => (!last.isEmpty && last.all Char.isDigit) || (number? last).isSome

/-- The address that numbers stand for: each but the last is an octet, and the last one fills the
octets that are left. -/
def ofNumbers? (numbers : List Nat) : Option Nat :=
  match numbers.reverse with
  | [] => none
  | last :: earlier =>
    let octets := earlier.reverse
    if 3 < octets.length || octets.any (255 < ·) || Nat.pow 256 (4 - octets.length) ≤ last then none
    else some (octets.foldr (fun octet rest => octet * 0x1000000 + rest / 256) 0 + last)

/-- The address that a host writes. -/
def parse? (host : List Char) : Option Nat := ((parts host).mapM number?).bind ofNumbers?

/-- An address as four decimal octets. -/
def text (address : Nat) : String :=
  ".".intercalate ([3, 2, 1, 0].map fun i => toString (address / Nat.pow 256 i % 256))

end Ipv4

namespace Ipv6

/-- The groups read so far, and how many of them stand before the run of zeros left out. -/
abbrev Groups := List Nat × Option Nat

/-- A decimal octet without leading zeros. -/
def octet? (part : List Char) : Option Nat :=
  match part with
  | ['0'] => some 0
  | [] | '0' :: _ => none
  | _ => (Text.digitsValue? 10 0 part).filter (· ≤ 255)

/-- The two groups at the end that a dotted address stands for. -/
def dotted? (s : List Char) : Option (List Nat) :=
  match (Text.splitOnChar '.' s).mapM octet? with
  | some [a, b, c, d] => some [a * 256 + b, c * 256 + d]
  | _ => none

/-- Reads groups, at most `rounds` of them or colons between them. -/
def groups? : (rounds : Nat) → List Char → Groups → Option Groups
  | _, [], g => some g
  | 0, _ :: _, _ => none
  | rounds + 1, c :: rest, (groups, gap) =>
    if groups.length = 8 then none
    else if c = ':' then
      if gap.isSome then none else groups? rounds rest (groups ++ [0], some (groups.length + 1))
    else
      let digits := ((c :: rest).take 4).takeWhile fun c => (Text.digitValue? 16 c).isSome
      let value := (Text.digitsValue? 16 0 digits).getD 0
      match (c :: rest).drop digits.length with
      | [] => some (groups ++ [value], gap)
      | ':' :: next => if next.isEmpty then none else groups? rounds next (groups ++ [value], gap)
      | '.' :: _ =>
        if digits.isEmpty || 6 < groups.length then none
        else (dotted? (c :: rest)).map fun last => (groups ++ last, gap)
      | _ => none

/-- All eight groups, with the zeros left out put back. -/
def fill? : Groups → Option (List Nat)
  | (groups, none) => if groups.length = 8 then some groups else none
  | (groups, some before) =>
    some (groups.take before ++ List.replicate (8 - groups.length) 0 ++ groups.drop before)

/-- The address between the brackets of a host. A colon at its start has to be a double one. -/
def parse? (s : List Char) : Option (List Nat) :=
  match s with
  | [] | [_] => none
  | ':' :: ':' :: rest => (groups? rest.length rest ([0], some 1)).bind fill?
  | ':' :: _ => none
  | _ => (groups? s.length s ([], none)).bind fill?

/-- Where the first of the longest runs of at least two zeros starts, and its length; a length of
one if there is no such run. -/
def longestZeros (groups : List Nat) : Nat × Nat :=
  (List.range groups.length).foldl
    (fun best i =>
      let run := ((groups.drop i).takeWhile (· = 0)).length
      if best.2 < run then (i, run) else best)
    (0, 1)

/-- An address as hexadecimal groups, with the first of the longest runs of zeros left out. -/
def text (groups : List Nat) : String :=
  let join (groups : List Nat) := ":".intercalate (groups.map Text.hexDigits)
  let (start, length) := longestZeros groups
  if length < 2 then join groups
  else join (groups.take start) ++ "::" ++ join (groups.drop (start + length))

end Ipv6

end ContentClient
