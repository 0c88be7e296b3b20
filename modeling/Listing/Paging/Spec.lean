import Listing.Text.Digits

/-!
# Windows and page specifications

A window is a stretch of a listing. A page specification names one page of a listing and how the
pager around it is drawn; its text is what a link to that page carries.
-/

namespace Listing

/-- `length` records from the offset `start`. -/
structure Window where
  start : Count
  length : Count
  deriving DecidableEq

inductive PagerMode where
  /-- Every page number. -/
  | full
  /-- The position in words. -/
  | simple
  /-- This many page numbers around the current one. -/
  | restricted (size : UInt32)
  deriving DecidableEq

def PagerMode.text : PagerMode → List Char
  | full => "default".toList
  | simple => "simple".toList
  | restricted size => "restricted-".toList ++ Text.decimal size.toNat

/-- Pages count from one. -/
structure PageSpec where
  page : Count
  perPage : Count
  mode : PagerMode
  deriving DecidableEq

namespace PageSpec

def window (s : PageSpec) : Window where
  start := Count.mulClamped (Count.monus s.page 1) s.perPage
  length := s.perPage

/-- `page-perPage`, and `--mode` unless the mode is the full one. -/
def text (s : PageSpec) : List Char :=
  let numbers := Text.decimal s.page.toNat ++ '-' :: Text.decimal s.perPage.toNat
  match s.mode with
  | .full => numbers
  | mode => numbers ++ '-' :: '-' :: mode.text

def toString (s : PageSpec) : String := String.ofList s.text

end PageSpec
end Listing
