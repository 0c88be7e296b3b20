import Listing.Json.Basic
import Listing.Decimal.Scaled
import Listing.Text.Digits

/-!
# Reading JSON

The plain grammar of JSON without extensions: no raw control characters in strings, surrogates only in
pairs, and nothing but blanks after the value. Containers nest less than 128 levels deep.
-/

namespace Listing.Json
open Text

namespace Reader

def isBlankChar (c : Char) : Bool := c = ' ' || c = '\n' || c = '\t' || c = '\r'

def skipBlanks (cs : List Char) : List Char := cs.dropWhile isBlankChar

def hexValue? (c : Char) : Option Nat :=
  if c.isDigit then some (c.toNat - 48)
  else if 'a' ≤ c ∧ c ≤ 'f' then some (c.toNat - 87)
  else if 'A' ≤ c ∧ c ≤ 'F' then some (c.toNat - 55)
  else none

def unit? : List Char → Option (Nat × List Char)
  | a :: b :: c :: d :: cs => do
    let high := (← hexValue? a) * 16 + (← hexValue? b)
    return (high * 256 + (← hexValue? c) * 16 + (← hexValue? d), cs)
  | _ => none

def simpleEscape? (c : Char) : Option Char :=
  match c with
  | '"' => some '"'
  | '\\' => some '\\'
  | '/' => some '/'
  | 'b' => some '\x08'
  | 'f' => some '\x0c'
  | 'n' => some '\n'
  | 'r' => some '\r'
  | 't' => some '\t'
  | _ => none

/-- The character that an escape stands for, its backslash already read. -/
def escaped? : List Char → Option (Char × List Char)
  | 'u' :: cs => do
    let (unit, rest) ← unit? cs
    if unit < 0xD800 ∨ 0xE000 ≤ unit then return (Char.ofNat unit, rest)
    match rest with
    | '\\' :: 'u' :: cs =>
      let (low, rest) ← unit? cs
      if unit < 0xDC00 ∧ 0xDC00 ≤ low ∧ low < 0xE000 then
        return (Char.ofNat (0x10000 + (unit - 0xD800) * 0x400 + (low - 0xDC00)), rest)
      else none
    | _ => none
  | c :: cs => (simpleEscape? c).map (·, cs)
  | [] => none

def string? : Nat → List Char → Option (List Char × List Char)
  | 0, _ => none
  | _ + 1, '"' :: cs => some ([], cs)
  | fuel + 1, '\\' :: cs => do
    let (c, cs) ← escaped? cs
    let (tail, rest) ← string? fuel cs
    return (c :: tail, rest)
  | fuel + 1, c :: cs =>
    if c.toNat < 0x20 then none
    else (string? fuel cs).map fun (tail, rest) => (c :: tail, rest)
  | _, [] => none

/-- The first digits of a number that fit into 64 bits, and the digits after them. -/
def fitting (significand : Nat) : List Char → Nat × List Char
  | [] => (significand, [])
  | c :: cs =>
    let next := significand * 10 + (c.toNat - 48)
    if next < UInt64.size then fitting next cs else (significand, c :: cs)

/-- A double from its significand, the exponent that its digits imply and the text of an exponent.
An exponent beyond 32 bits makes zero or is refused. -/
def double? (negative : Bool) (significand : Nat) (implied : Int) : List Char → Option (Number × List Char)
  | c :: cs =>
    if c = 'e' ∨ c = 'E' then
      let (down, cs) := match cs with
        | '-' :: cs => (true, cs)
        | '+' :: cs => (false, cs)
        | cs => (false, cs)
      let digits := cs.takeWhile Char.isDigit
      let rest := cs.dropWhile Char.isDigit
      match natural? digits with
      | none => none
      | some size =>
        if size < 2147483648 then
          let exponent := if down then implied - size else implied + size
          (Decimal.Double.scaled? negative significand exponent).map (.double ·, rest)
        else if significand ≠ 0 ∧ !down then none
        else some (.double (.finite negative 0), rest)
    else (Decimal.Double.scaled? negative significand implied).map (.double ·, c :: cs)
  | [] => (Decimal.Double.scaled? negative significand implied).map (.double ·, [])

/-- A fraction after the digits before the point. Digits past 64 bits are passed over. -/
def fraction? (negative : Bool) (significand : Nat) (implied : Int) (cs : List Char) : Option (Number × List Char) :=
  let digits := cs.takeWhile Char.isDigit
  if digits.isEmpty then none
  else
    let (total, spare) := fitting significand digits
    double? negative total (implied - (digits.length - spare.length)) (cs.dropWhile Char.isDigit)

def whole (negative : Bool) (n : Nat) : Number :=
  if !negative then .natural (UInt64.ofNat n)
  else if 0 < n ∧ n ≤ 9223372036854775808 then .negative (Int64.ofInt (-n))
  else .double (Decimal.Double.ofInt n |> fun
    | .finite _ units => .finite true units
    | d => d)

def unsignedNumber? (negative : Bool) (cs : List Char) : Option (Number × List Char) :=
  let digits := cs.takeWhile Char.isDigit
  let rest := cs.dropWhile Char.isDigit
  if digits.isEmpty ∨ (digits.head? = some '0' ∧ 1 < digits.length) then none
  else
    let (significand, spare) := fitting 0 digits
    match rest with
    | '.' :: after => fraction? negative significand spare.length after
    | 'e' :: _ | 'E' :: _ => double? negative significand spare.length rest
    | _ =>
      if spare.isEmpty then some (whole negative significand, rest)
      else double? negative significand spare.length rest

def expect (name : List Char) (value : Json) (cs : List Char) : Option (Json × List Char) :=
  if name.isPrefixOf cs then some (value, cs.drop name.length) else none

mutual
/-- One value. `fuel` bounds the steps and `depth` the containers around it. -/
def value? : Nat → Nat → List Char → Option (Json × List Char)
  | 0, _, _ => none
  | fuel + 1, depth, cs =>
    match skipBlanks cs with
    | '"' :: rest => (string? fuel rest).map fun (s, rest) => (.text (String.ofList s), rest)
    | '[' :: rest =>
      if depth ≤ 1 then none
      else match skipBlanks rest with
        | ']' :: rest => some (.array [], rest)
        | rest => (items? fuel (depth - 1) rest).map fun (items, rest) => (.array items, rest)
    | '{' :: rest =>
      if depth ≤ 1 then none
      else match skipBlanks rest with
        | '}' :: rest => some (.object [], rest)
        | rest => (fields? fuel (depth - 1) rest).map fun (fields, rest) => (.ofFields fields, rest)
    | '-' :: rest => (unsignedNumber? true rest).map fun (n, rest) => (.number n, rest)
    | c :: rest =>
      if c.isDigit then (unsignedNumber? false (c :: rest)).map fun (n, rest) => (.number n, rest)
      else (expect ['n', 'u', 'l', 'l'] .null (c :: rest)).orElse fun _ =>
        (expect ['t', 'r', 'u', 'e'] (.bool true) (c :: rest)).orElse fun _ =>
          expect ['f', 'a', 'l', 's', 'e'] (.bool false) (c :: rest)
    | [] => none

def items? : Nat → Nat → List Char → Option (List Json × List Char)
  | 0, _, _ => none
  | fuel + 1, depth, cs => do
    let (item, rest) ← value? fuel depth cs
    match skipBlanks rest with
    | ',' :: rest =>
      let (items, rest) ← items? fuel depth rest
      return (item :: items, rest)
    | ']' :: rest => return ([item], rest)
    | _ => none

def fields? : Nat → Nat → List Char → Option (List (String × Json) × List Char)
  | 0, _, _ => none
  | fuel + 1, depth, cs =>
    match skipBlanks cs with
    | '"' :: rest => do
      let (name, rest) ← string? fuel rest
      match skipBlanks rest with
      | ':' :: rest =>
        let (value, rest) ← value? fuel depth rest
        let field := (String.ofList name, value)
        match skipBlanks rest with
        | ',' :: rest =>
          let (fields, rest) ← fields? fuel depth rest
          return (field :: fields, rest)
        | '}' :: rest => return ([field], rest)
        | _ => none
      | _ => none
    | _ => none
end

end Reader

/-- The value that a whole text holds. Each step of the reader passes over a character or is followed
by one that does. -/
def parse? (s : String) : Option Json :=
  let cs := s.toList
  match Reader.value? (2 * cs.length + 2) 128 cs with
  | some (value, rest) => if (Reader.skipBlanks rest).isEmpty then some value else none
  | none => none

end Listing.Json
