import Listing.Json.Basic
import Listing.Decimal.Shortest

/-!
# JSON texts

A value on one line, or spread over lines with an indentation of two blanks per level.
-/

namespace Listing.Json

/-- Doubles always show a point or an exponent, and are positional from 0.00001 to 16 places. -/
def doubleLayout : Decimal.Layout where
  least := -5
  most := 15
  pointZero := true
  plusSign := true

def Number.text : Number → String
  | natural n => toString n.toNat
  | negative n => toString n.toInt
  | double (.finite sign units) => String.ofList (doubleLayout.text sign units)
  | double _ => "null"

def hexDigit (n : Nat) : Char := (n % 16).digitChar

/-- Quotes, backslashes and control characters are escaped, and nothing else. -/
def escape (c : Char) : List Char :=
  if c = '"' then ['\\', '"']
  else if c = '\\' then ['\\', '\\']
  else if c = '\n' then ['\\', 'n']
  else if c = '\r' then ['\\', 'r']
  else if c = '\t' then ['\\', 't']
  else if c = '\x08' then ['\\', 'b']
  else if c = '\x0c' then ['\\', 'f']
  else if c.toNat < 0x20 then ['\\', 'u', '0', '0', hexDigit (c.toNat / 16), hexDigit c.toNat]
  else [c]

def quote (s : String) : String :=
  "\"" ++ String.ofList (s.toList.flatMap escape) ++ "\""

mutual
def compact : Json → String
  | null => "null"
  | bool b => if b then "true" else "false"
  | number n => n.text
  | text s => quote s
  | array items => "[" ++ ",".intercalate (compactItems items) ++ "]"
  | object fields => "\x7b" ++ ",".intercalate (compactFields fields) ++ "\x7d"

def compactItems : List Json → List String
  | [] => []
  | item :: rest => compact item :: compactItems rest

def compactFields : List (String × Json) → List String
  | [] => []
  | (name, value) :: rest => (quote name ++ ":" ++ compact value) :: compactFields rest
end

def indent (level : Nat) : String := "".pushn ' ' (2 * level)

/-- Lines between two brackets, or the bare brackets. -/
def block (level : Nat) (opening closing : String) (lines : List String) : String :=
  if lines.isEmpty then opening ++ closing
  else
    let pad := "\n" ++ indent (level + 1)
    opening ++ pad ++ ("," ++ pad).intercalate lines ++ "\n" ++ indent level ++ closing

mutual
/-- A value over several lines, whose first line stands at `level`. -/
def prettyAt (level : Nat) : Json → String
  | array items => block level "[" "]" (prettyItems (level + 1) items)
  | object fields => block level "\x7b" "\x7d" (prettyFields (level + 1) fields)
  | null => "null"
  | bool b => if b then "true" else "false"
  | number n => n.text
  | text s => quote s

def prettyItems (level : Nat) : List Json → List String
  | [] => []
  | item :: rest => prettyAt level item :: prettyItems level rest

def prettyFields (level : Nat) : List (String × Json) → List String
  | [] => []
  | (name, value) :: rest =>
    (quote name ++ ": " ++ prettyAt level value) :: prettyFields level rest
end

def pretty (value : Json) : String := prettyAt 0 value

end Listing.Json
