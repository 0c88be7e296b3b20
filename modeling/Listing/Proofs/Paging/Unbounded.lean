import Mathlib.Data.Rat.Floor
import Mathlib.Algebra.Order.Field.Basic
import Listing.Proofs.Paging.Window

/-!
Pagers in whole numbers of any size. Every page of the listing is looked at, and nothing is held back or refused.
The links of a pager of counts are the same, however close to the largest count its numbers are.
-/

namespace Listing

/-- A link that may lead to any whole number. -/
structure WideLink where
  kind : LinkKind
  label : String
  target : Int
  spec : String
  active : Bool

def PagerLink.wide (l : PagerLink) : WideLink := ⟨l.kind, l.label, l.target.toNat, l.spec, l.active⟩

structure WidePager where
  current : Int
  perPage : Int
  totalItems : Int
  mode : PagerMode

namespace WidePager

def make (spec : PageSpec) (totalItems : Count) : WidePager :=
  ⟨spec.page.toNat, max spec.perPage.toNat 1, totalItems.toNat, spec.mode⟩

def totalPages (p : WidePager) : Int := ⌈(p.totalItems : ℚ) / p.perPage⌉

def pages (p : WidePager) : List Int := (List.range p.totalPages.toNat).map fun n : Nat => (n : Int) + 1

def specText (p : WidePager) (page : Int) : String :=
  toString page ++ "-" ++ toString p.perPage ++ match p.mode with
    | .full => ""
    | mode => "--" ++ String.ofList mode.text

def link (p : WidePager) (kind : LinkKind) (label : String) (target : Int) : WideLink where
  kind := kind
  label := label
  target := target
  spec := p.specText target
  active := kind == .page && target == p.current

def pageLink (p : WidePager) (page : Int) : WideLink := p.link .page (toString page) page

def reach (size : Int) : Int := max (size - 1) 0 / 2

def shows (p : WidePager) (size page : Int) : Bool :=
  !(page ≤ p.totalPages - size && page < p.current - reach size) &&
    !(size < page && p.current + reach size < page)

def inner (p : WidePager) : List WideLink :=
  match p.mode with
  | .full => p.pages.map p.pageLink
  | .simple => [p.link .text ("Page " ++ toString p.current ++ " of " ++ toString p.totalPages) p.current]
  | .restricted size =>
    (if reach size.toNat + 1 < p.current then [p.link .ellipsis "…" 1] else []) ++
      (p.pages.filter (p.shows size.toNat)).map p.pageLink ++
      (if p.current < p.totalPages - reach size.toNat then [p.link .ellipsis "…" p.totalPages] else [])

def links (p : WidePager) : List WideLink :=
  if p.totalPages ≤ 1 then []
  else
    (if 1 < p.current then [p.link .prev "Previous" (p.current - 1)] else []) ++ p.inner ++
    (if p.current < p.totalPages then [p.link .next "Next" (p.current + 1)] else [])

end WidePager

namespace PagerState

variable {spec : PageSpec} {total : Count}

/-! ### Numbers of pages -/

theorem ceil_div_eq (items : Nat) {perPage : Nat} (room : 0 < perPage) :
    ⌈((items : Int) : ℚ) / ((perPage : Int) : ℚ)⌉ = ((items + perPage - 1) / perPage : Nat) := by
  obtain ⟨above, below⟩ := PageSpec.last_bounds items room
  generalize (items + perPage - 1) / perPage = last at above below ⊢
  have short : last * perPage < items + perPage := by omega
  have positive : (0 : ℚ) < ((perPage : Int) : ℚ) := by exact_mod_cast room
  rw [Int.ceil_eq_iff, lt_div_iff₀ positive, div_le_iff₀ positive, sub_mul, one_mul, sub_lt_iff_lt_add]
  exact ⟨by exact_mod_cast short, by exact_mod_cast above⟩

/-- A pager of counts and one of whole numbers that are drawn from the same numbers. -/
structure Depicts (s : PagerState) (p : WidePager) : Prop where
  current : p.current = s.current.toNat
  perPage : p.perPage = s.perPage.toNat
  totalPages : p.totalPages = s.totalPages.toNat
  mode : p.mode = s.mode

theorem toNat_perPage_make (spec : PageSpec) (total : Count) :
    (make spec total).perPage.toNat = max spec.perPage.toNat 1 :=
  Count.toNat_max spec.perPage 1

theorem depicts_make (spec : PageSpec) (total : Count) : (make spec total).Depicts (WidePager.make spec total) := by
  have width := toNat_perPage_make spec total
  have room : 0 < (make spec total).perPage.toNat := by omega
  have perPage : (WidePager.make spec total).perPage = (make spec total).perPage.toNat := by
    rw [width]
    exact (Nat.cast_max _ _).symm
  refine ⟨rfl, perPage, ?_, rfl⟩
  rw [WidePager.totalPages, perPage]
  change ⌈((total.toNat : Int) : ℚ) / _⌉ = ((Count.groups total (make spec total).perPage).toNat : Int)
  rw [ceil_div_eq total.toNat room, Count.toNat_groups _ _ room]

/-! ### Links -/

section
variable {s : PagerState} {p : WidePager}

theorem toString_specFor (same : s.Depicts p) (page : Count) :
    (s.specFor page).toString = p.specText page.toNat := by
  have decimal : ∀ n : Nat, toString (n : Int) = String.ofList (Text.decimal n) := fun _ => rfl
  rw [WidePager.specText, same.perPage, same.mode, decimal, decimal, specFor, PageSpec.toString, PageSpec.text]
  cases s.mode <;> simp [← String.toList_inj]

theorem wide_link (same : s.Depicts p) (kind : LinkKind) (label : String) (target : Count) :
    (s.link kind label target).wide = p.link kind label target.toNat := by
  have active : (target == s.current) = ((target.toNat : Int) == p.current) := by
    rw [Bool.eq_iff_iff, beq_iff_eq, beq_iff_eq, same.current, Int.ofNat_inj, UInt64.toNat_inj]
  simp only [PagerLink.wide, link, WidePager.link, toString_specFor same, active]

theorem pages_eq (same : s.Depicts p) :
    p.pages = (Count.interval 1 s.totalPages).map fun page : Count => (page.toNat : Int) := by
  have numbers : (Count.interval 1 s.totalPages).map UInt64.toNat = List.range' 1 s.totalPages.toNat :=
    Count.map_toNat_interval 1 s.totalPages
  have cast : (Count.interval 1 s.totalPages).map (fun page : Count => (page.toNat : Int)) =
      (List.range' 1 s.totalPages.toNat).map (fun n : Nat => (n : Int)) := by
    rw [← numbers, List.map_map]
    rfl
  rw [cast, WidePager.pages, same.totalPages, Int.toNat_natCast, List.range'_eq_map_range, List.map_map]
  refine List.map_congr_left fun n _ => ?_
  change (n : Int) + 1 = ((1 + n : Nat) : Int)
  omega

theorem shows_eq (same : s.Depicts p) (size : UInt32) (page : Count) :
    p.shows size.toNat page.toNat = s.shows size.toUInt64 page := by
  have half := toNat_reach size.toUInt64
  rw [UInt32.toNat_toUInt64] at half
  rw [Bool.eq_iff_iff, shows_iff, UInt32.toNat_toUInt64, half]
  simp only [WidePager.shows, WidePager.reach, same.current, same.totalPages, Bool.and_eq_true, Bool.not_eq_true',
    Bool.and_eq_false_iff, decide_eq_false_iff_not]
  omega

theorem filter_pages (same : s.Depicts p) (size : UInt32) :
    p.pages.filter (p.shows size.toNat) = (s.stretch size.toUInt64).map fun page : Count => (page.toNat : Int) := by
  have shows : (p.shows size.toNat ∘ fun page : Count => (page.toNat : Int)) = s.shows size.toUInt64 :=
    funext fun page => shows_eq same size page
  rw [pages_eq same, List.filter_map, shows, filter_shows_interval]

theorem map_wide_pageLink (same : s.Depicts p) (pages : List Count) :
    (pages.map s.pageLink).map PagerLink.wide = (pages.map fun page : Count => (page.toNat : Int)).map p.pageLink := by
  rw [List.map_map, List.map_map]
  exact List.map_congr_left fun page _ => wide_link same .page (toString page.toNat) page

/-- A link that is there under a condition, where the condition and the target are the same for both pagers. -/
theorem map_wide_optional (same : s.Depicts p) (kind : LinkKind) (label : String) {target : Count} {wide : Int}
    {shown shown' : Prop} [Decidable shown] [Decidable shown'] (agree : shown ↔ shown')
    (lands : shown → (target.toNat : Int) = wide) :
    (if shown then [s.link kind label target] else []).map PagerLink.wide =
      if shown' then [p.link kind label wide] else [] := by
  by_cases there : shown
  · rw [if_pos there, if_pos (agree.mp there), List.map_singleton, wide_link same, lands there]
  · rw [if_neg there, if_neg (mt agree.mpr there)]
    rfl

theorem map_wide_inner (same : s.Depicts p) : s.inner.map PagerLink.wide = p.inner := by
  rw [WidePager.inner, same.mode]
  cases mode : s.mode with
  | full =>
    rw [inner, mode]
    simp only [map_wide_pageLink same, pages_eq same]
  | simple =>
    rw [inner, mode]
    simp only [List.map_singleton, wide_link same, same.current, same.totalPages]
    rfl
  | restricted size =>
    have half : WidePager.reach size.toNat = ((size.toNat - 1) / 2 : Nat) := by
      rw [WidePager.reach]
      omega
    have front : (size.toNat - 1) / 2 + 1 < s.current.toNat ↔ WidePager.reach size.toNat + 1 < p.current := by
      rw [half, same.current]
      omega
    have back : s.current.toNat + (size.toNat - 1) / 2 < s.totalPages.toNat ↔
        p.current < p.totalPages - WidePager.reach size.toNat := by
      rw [half, same.current, same.totalPages]
      omega
    rw [inner_of_restricted mode, List.map_append, List.map_append, map_wide_pageLink same,
      map_wide_optional same _ _ front fun _ => rfl,
      map_wide_optional same _ _ back fun _ => same.totalPages.symm]
    simp only [filter_pages same]
    rfl

/-- No plain sum, difference or quotient that a pager is made from leaves the counts. -/
structure Exact (s : PagerState) : Prop where
  divisor : s.perPage.toNat ≠ 0
  groups : s.totalItems % s.perPage ≠ 0 →
    (s.totalItems / s.perPage + 1).toNat = s.totalItems.toNat / s.perPage.toNat + 1
  before : 1 < s.current → (s.current - 1).toNat + 1 = s.current.toNat
  behind : s.current < s.totalPages → (s.current + 1).toNat = s.current.toNat + 1

theorem exact_of_divisor (divisor : s.perPage.toNat ≠ 0) : s.Exact := by
  refine ⟨divisor, Count.toNat_div_add_one (Nat.pos_of_ne_zero divisor), fun later => ?_, Count.toNat_succ⟩
  have several : 1 < s.current.toNat := UInt64.lt_iff_toNat_lt.mp later
  rw [Count.toNat_pred later]
  omega

theorem map_wide_links (same : s.Depicts p) (exact : s.Exact) : s.links.map PagerLink.wide = p.links := by
  have one : (1 : Count).toNat = 1 := rfl
  have single : s.totalPages ≤ 1 ↔ p.totalPages ≤ 1 := by
    rw [UInt64.le_iff_toNat_le, one, same.totalPages]
    omega
  have later : 1 < s.current ↔ 1 < p.current := by
    rw [UInt64.lt_iff_toNat_lt, one, same.current]
    omega
  have earlier : s.current < s.totalPages ↔ p.current < p.totalPages := by
    rw [UInt64.lt_iff_toNat_lt, same.current, same.totalPages]
    omega
  have before : 1 < s.current → ((s.current - 1).toNat : Int) = p.current - 1 := by
    intro there
    have step := exact.before there
    rw [same.current]
    omega
  have behind : s.current < s.totalPages → ((s.current + 1).toNat : Int) = p.current + 1 := by
    intro there
    have step := exact.behind there
    rw [same.current]
    omega
  unfold links WidePager.links
  by_cases alone : s.totalPages ≤ 1
  · rw [if_pos alone, if_pos (single.mp alone)]
    rfl
  · rw [if_neg alone, if_neg (mt single.mpr alone), List.map_append, List.map_append, map_wide_inner same,
      map_wide_optional same _ _ later before, map_wide_optional same _ _ earlier behind]

end

/-- The links of a pager are those that a look at every page gives, in whole numbers that never end. Its number of
pages is the exact one, nothing on the way there wraps, and the stretch of pages that a restricted pager looks at
leaves out none that it would show. -/
theorem links_agree_with_scan (spec : PageSpec) (total : Count) :
    (make spec total).links.map PagerLink.wide = (WidePager.make spec total).links ∧
    ((make spec total).totalPages.toNat : Int) = ⌈(total.toNat : ℚ) / (max spec.perPage.toNat 1 : Nat)⌉ ∧
    (make spec total).Exact ∧
    ∀ (size : UInt32) (page : Count), 1 ≤ page → page ≤ (make spec total).totalPages →
      (make spec total).shows size.toUInt64 page = true → page ∈ (make spec total).stretch size.toUInt64 := by
  have same := depicts_make spec total
  have width : (make spec total).perPage.toNat = max spec.perPage.toNat 1 := toNat_perPage_make spec total
  have exact : (make spec total).Exact := exact_of_divisor (by omega)
  refine ⟨map_wide_links same exact, ?_, exact, fun size page first last shown => ?_⟩
  · rw [← same.totalPages, WidePager.totalPages, same.perPage, width]
    rfl
  · exact mem_stretch_of_shows (UInt64.le_iff_toNat_le.mp first) (UInt64.le_iff_toNat_le.mp last) shown

end PagerState
end Listing
