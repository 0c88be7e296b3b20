import Listing.Paging.Spec
import Listing.Params

/-!
# Pagers

The links around a page of results. Each carries the specification of the page that it leads to, so that
a client follows it by putting that one parameter in place of its own.
-/

namespace Listing

structure PagerState where
  /-- From one. -/
  current : Count
  perPage : Count
  totalItems : Count
  totalPages : Count
  mode : PagerMode
  deriving DecidableEq

inductive LinkKind where
  | prev
  | next
  | page
  /-- A jump to the first or the last page. -/
  | ellipsis
  /-- The position in words. -/
  | text
  deriving DecidableEq

structure PagerLink where
  kind : LinkKind
  label : String
  target : Count
  /-- The specification of the target, as text. -/
  spec : String
  active : Bool
  deriving DecidableEq

structure Pager where
  state : PagerState
  links : List PagerLink
  deriving DecidableEq

namespace PagerState

/-- Pages hold one record at least. The last page may be partly filled. -/
def make (spec : PageSpec) (totalItems : Count) : PagerState :=
  let perPage := max spec.perPage 1
  ⟨spec.page, perPage, totalItems, Count.groups totalItems perPage, spec.mode⟩

/-- The specification of another page of the same listing. -/
def specFor (s : PagerState) (page : Count) : PageSpec := ⟨page, s.perPage, s.mode⟩

def link (s : PagerState) (kind : LinkKind) (label : String) (target : Count) : PagerLink where
  kind := kind
  label := label
  target := target
  spec := (s.specFor target).toString
  active := kind == .page && target == s.current

def pageLink (s : PagerState) (page : Count) : PagerLink :=
  s.link .page (toString page.toNat) page

/-- How many pages a restricted pager shows on either side of the current one. -/
def reach (size : Count) : Count := Count.monus size 1 / 2

/-- Whether a restricted pager shows a page. Near either end of the listing it shows the first or the
last `size` pages; elsewhere those within reach. -/
def shows (s : PagerState) (size page : Count) : Bool :=
  let before := (Count.add? page size).any (· ≤ s.totalPages) &&
    (Count.add? page (reach size)).any (· < s.current)
  let after := size < page && Count.addClamped s.current (reach size) < page
  !before && !after

/-- A stretch of pages outside which a restricted pager shows none. -/
def stretch (s : PagerState) (size : Count) : List Count :=
  let first := max 1 (min (Count.monus s.current (reach size))
    (Count.addClamped (Count.monus s.totalPages size) 1))
  let last := min s.totalPages (max size (Count.addClamped s.current (reach size)))
  Count.interval first last

def ellipsisLabel : String := "…"

/-- The links between the one to the previous page and the one to the next. -/
def inner (s : PagerState) : List PagerLink :=
  match s.mode with
  | .full => (Count.interval 1 s.totalPages).map s.pageLink
  | .simple =>
    [s.link .text ("Page " ++ toString s.current.toNat ++ " of " ++ toString s.totalPages.toNat)
      s.current]
  | .restricted size =>
    let size := size.toUInt64
    let jump (shown : Bool) (target : Count) :=
      if shown then [s.link .ellipsis ellipsisLabel target] else []
    jump (Count.addClamped (reach size) 1 < s.current) 1 ++
      ((s.stretch size).filter (s.shows size)).map s.pageLink ++
      jump (Count.addClamped s.current (reach size) < s.totalPages) s.totalPages

/-- The links in their order; none where one page holds everything. -/
def links (s : PagerState) : List PagerLink :=
  if s.totalPages ≤ 1 then []
  else
    (if 1 < s.current then [s.link .prev "Previous" (s.current - 1)] else []) ++ s.inner ++
    (if s.current < s.totalPages then [s.link .next "Next" (s.current + 1)] else [])

end PagerState

/-- The pager of a page, unless one page holds everything. -/
def Pager.make? (spec : PageSpec) (totalItems : Count) : Option Pager :=
  let state := PagerState.make spec totalItems
  if state.totalPages ≤ 1 then none else some ⟨state, state.links⟩

def PagerLink.follow (l : PagerLink) (p : Params) : Params := p.insert "paged" l.spec

end Listing
