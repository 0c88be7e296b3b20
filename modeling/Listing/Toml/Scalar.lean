import Listing.Decimal.Reader
import Listing.Json.Reader
import Listing.Toml.DateTime

/-!
# TOML scalars

Numbers, dates and truth values: the unquoted values of TOML 1.1. A number too large to be held becomes
null, and a date or a time becomes an object with one field, as JSON has none.
-/

namespace Listing.Toml
open Text

/-- Digits of a base, single underscores between them. -/
def grouped? (isDigit : Char → Bool) : List Char → Option (List Char)
  | [] => none
  | [c] => if isDigit c then some [c] else none
  | c :: '_' :: cs => if isDigit c then (grouped? isDigit cs).map (c :: ·) else none
  | c :: cs => if isDigit c then (grouped? isDigit cs).map (c :: ·) else none

def inBase (base : Nat) (cs : List Char) : Nat :=
  cs.foldl (fun n c => n * base + (Json.Reader.hexValue? c).getD 0) 0

/-- An integer. Beyond 64 bits its size alone is kept, and beyond 128 bits nothing. -/
def ofInteger (n : Int) : Json :=
  if 0 ≤ n ∧ n < Nat.pow 2 64 then .ofNat n.toNat
  else if -(Nat.pow 2 63 : Int) ≤ n ∧ n < 0 then .number (.negative (Int64.ofInt n))
  else if -(Nat.pow 2 127 : Int) ≤ n ∧ n < Nat.pow 2 128 then .number (.double (.ofInt n))
  else .null

/-- A float. One that only rounding makes infinite is too large. -/
def ofFloat (named : Bool) : Decimal.Double → Json
  | .infinite negative => if named then .number (.double (.infinite negative)) else .null
  | d => .number (.double d)

/-- Digits without a needless zero in front. -/
def wholeDigits? (cs : List Char) : Option (List Char) :=
  match grouped? Char.isDigit cs with
  | some ('0' :: _ :: _) => none
  | other => other

def decimalInteger? : List Char → Option Json
  | '-' :: cs => (wholeDigits? cs).map fun ds => ofInteger (-(Nat.ofDigitChars 10 ds 0 : Int))
  | '+' :: cs => (wholeDigits? cs).map fun ds => ofInteger (Nat.ofDigitChars 10 ds 0)
  | cs => (wholeDigits? cs).map fun ds => ofInteger (Nat.ofDigitChars 10 ds 0)

def integer? : List Char → Option Json
  | '0' :: 'x' :: cs =>
    (grouped? (fun c => (Json.Reader.hexValue? c).isSome) cs).map fun ds => ofInteger (inBase 16 ds)
  | '0' :: 'o' :: cs =>
    (grouped? (fun c => '0' ≤ c && c ≤ '7') cs).map fun ds => ofInteger (inBase 8 ds)
  | '0' :: 'b' :: cs =>
    (grouped? (fun c => c = '0' || c = '1') cs).map fun ds => ofInteger (inBase 2 ds)
  | cs => decimalInteger? cs

def unsignedFloat? (cs : List Char) : Option (List Char) :=
  let (mantissa, exponent) := cs.span fun c => c ≠ 'e' && c ≠ 'E'
  let (whole, fraction) := mantissa.span (· ≠ '.')
  let whole? := wholeDigits? whole
  let fraction? := match fraction with
    | '.' :: ds => (grouped? Char.isDigit ds).map ('.' :: ·)
    | _ => some []
  let exponent? := match exponent with
    | e :: '-' :: ds => (grouped? Char.isDigit ds).map fun ds => e :: '-' :: ds
    | e :: '+' :: ds => (grouped? Char.isDigit ds).map fun ds => e :: '+' :: ds
    | e :: ds => (grouped? Char.isDigit ds).map (e :: ·)
    | [] => some []
  match whole?, fraction?, exponent? with
  | some whole, some fraction, some exponent => some (whole ++ fraction ++ exponent)
  | _, _, _ => none

/-- A float with a fraction or an exponent, or the name of an infinity or of no number. -/
def float? (cs : List Char) : Option Json :=
  let (sign, size) := match cs with
    | '-' :: rest => (['-'], rest)
    | '+' :: rest => (['+'], rest)
    | rest => ([], rest)
  let named := size = "inf".toList ∨ size = "nan".toList
  let plain := if named then some size else unsignedFloat? size
  plain.bind fun text => (Decimal.number? (sign ++ text)).map (ofFloat named)

def dateTimeField : String := "$__toml_private_datetime"

def dateTime? (cs : List Char) : Option Json :=
  (DateTime.normal? cs).map fun text => .object [(dateTimeField, .text (String.ofList text))]

def truth? (cs : List Char) : Option Json :=
  if cs = "true".toList then some (.bool true)
  else if cs = "false".toList then some (.bool false)
  else none

def bareValue? (cs : List Char) : Option Json :=
  (truth? cs).orElse fun _ => (integer? cs).orElse fun _ => (float? cs).orElse fun _ => dateTime? cs

end Listing.Toml
