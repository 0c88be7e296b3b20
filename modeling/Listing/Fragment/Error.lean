import Listing.Fragment.Key

/-!
# Fragment errors

Why the value of a key could not be read, and the sentence that says so.
-/

namespace Listing

inductive Flaw where
  | fieldShape
  | noOperator
  | noField
  | boundsShape
  | emptyList
  | termsShape
  | sortShape
  | rangeShape
  | emptyRange
  | pageShape
  | zeroPage
  | addressShape
  | idsShape
  deriving DecidableEq

def Flaw.reason : Flaw → String
  | fieldShape => "expected name--value--OP"
  | noOperator => "missing operator segment"
  | noField => "missing field name"
  | boundsShape => "BETWEEN expects lo-hi"
  | emptyList => "empty value list"
  | termsShape => "expected field--id-id"
  | sortShape => "expected field-DIRECTION"
  | rangeShape => "expected start-length"
  | emptyRange => "length must be greater than zero"
  | pageShape => "expected page-perPage"
  | zeroPage => "page and per-page must be at least 1"
  | addressShape => "expected field--column--value"
  | idsShape => "expected id-id-id"

inductive FragmentError where
  | malformed (key : Key) (fragment : String) (flaw : Flaw)
  | unknownOperator (fragment operator : String)
  | invalidNumber (key : Key) (value : String)
  | invalidDirection (fragment : String)
  | invalidPagerMode (mode : String)
  | invalidDate (key : Key) (value : String)
  | invalidDateFormat (format : String)
  | emptyInput (key : Key)
  deriving DecidableEq

namespace FragmentError

def message : FragmentError → String
  | malformed key fragment flaw =>
    "Malformed '" ++ key.name ++ "' fragment '" ++ fragment ++ "': " ++ flaw.reason
  | unknownOperator fragment operator =>
    "Unknown operator '" ++ operator ++ "' in '" ++ fragment ++ "'"
  | invalidNumber key value =>
    "Invalid number '" ++ value ++ "' in '" ++ key.name ++ "' fragment"
  | invalidDirection fragment =>
    "Invalid sort direction in '" ++ fragment ++ "', expected ASC or DESC"
  | invalidPagerMode mode =>
    "Invalid pager mode '" ++ mode ++ "', expected default, simple or restricted-N with N odd"
  | invalidDate key value => "Invalid date in '" ++ key.name ++ "' fragment '" ++ value ++ "'"
  | invalidDateFormat format => "Invalid date format '" ++ format ++ "'"
  | emptyInput key => "Empty value for '" ++ key.name ++ "'"

end FragmentError
end Listing
