import Mathlib.Algebra.Group.Nat.Defs
import Listing.Proofs.Paging.Grammar
import Listing.Proofs.Paging.Stretch

/-!
The links of a pager. Each leads to a page of the listing, and carries the specification of that page. A
pager that shows page numbers marks exactly one of them, which is the current page.
-/

namespace Listing

/-! ### Counting pages -/

namespace PageSpec

/-- The last page ends where the listing does, or less than a page behind. -/
theorem last_bounds (total : Nat) {perPage : Nat} (room : 0 < perPage) :
    total ≤ (total + perPage - 1) / perPage * perPage ∧
      (total + perPage - 1) / perPage * perPage ≤ total + perPage - 1 := by
  have parts := Nat.div_add_mod (total + perPage - 1) perPage
  have rest := Nat.mod_lt (total + perPage - 1) room
  rw [Nat.mul_comm] at parts
  omega

theorem le_last_iff {page perPage total : Nat} (room : 0 < perPage) (first : 1 ≤ page) :
    page ≤ (total + perPage - 1) / perPage ↔ (page - 1) * perPage < total := by
  obtain ⟨before, rfl⟩ := Nat.exists_eq_add_of_le' first
  rw [Nat.le_div_iff_mul_le room, Nat.succ_mul, Nat.add_sub_cancel]
  omega

theorem fits_of_le_last {page perPage total : Nat} (room : 0 < perPage) (short : total < 2 ^ 63)
    (bound : perPage < 2 ^ 64) (within : page ≤ (total + perPage - 1) / perPage) :
    page * perPage < 2 ^ 64 := by
  have before := Nat.mul_le_mul_right perPage within
  by_cases one : total ≤ perPage
  · have single : (total + perPage - 1) / perPage < 2 := Nat.div_lt_of_lt_mul (by omega)
    have whole := Nat.mul_le_mul_right perPage (Nat.le_of_lt_succ single)
    omega
  · have tight := (last_bounds total room).2
    omega

/-- The offset of a page that ends at a count is not held back. -/
theorem toNat_window_start {spec : PageSpec}
    (fits : spec.page.toNat * spec.perPage.toNat < 2 ^ 64) :
    spec.window.start.toNat = (spec.page.toNat - 1) * spec.perPage.toNat := by
  have below : (spec.page.toNat - 1) * spec.perPage.toNat ≤ spec.page.toNat * spec.perPage.toNat :=
    Nat.mul_le_mul_right _ (Nat.sub_le _ _)
  unfold PageSpec.window
  rw [Count.toNat_mulClamped, Count.toNat_monus]
  change min ((spec.page.toNat - 1) * spec.perPage.toNat) _ = _
  omega

end PageSpec

namespace PagerState

/-- The current page is one of the pages, of which there are two or more. -/
structure Placed (s : PagerState) : Prop where
  several : 2 ≤ s.totalPages.toNat
  first : 1 ≤ s.current.toNat
  last : s.current.toNat ≤ s.totalPages.toNat

/-- A link to a page that lies in the listing, or behind it but not behind the current page. -/
structure Reaches (s : PagerState) (l : PagerLink) : Prop where
  first : 1 ≤ l.target.toNat
  last : l.target.toNat ≤ max s.current.toNat s.totalPages.toNat
  spec : l.spec = (s.specFor l.target).toString

structure Leads (s : PagerState) (l : PagerLink) : Prop where
  first : 1 ≤ l.target.toNat
  last : l.target.toNat ≤ s.totalPages.toNat
  spec : l.spec = (s.specFor l.target).toString

variable {s : PagerState} {kind : LinkKind} {label : String} {target page size : Count} {l : PagerLink}

/-! ### Targets -/

theorem reaches_link (first : 1 ≤ target.toNat) (last : target.toNat ≤ max s.current.toNat s.totalPages.toNat) :
    s.Reaches (s.link kind label target) :=
  ⟨first, last, rfl⟩

theorem reaches_of_mem_inner (several : 2 ≤ s.totalPages.toNat) (first : 1 ≤ s.current.toNat)
    (member : l ∈ s.inner) : s.Reaches l := by
  have one : (1 : Count).toNat = 1 := rfl
  unfold inner at member
  cases mode : s.mode with
  | full =>
    rw [mode] at member
    obtain ⟨page, within, rfl⟩ := List.mem_map.mp member
    obtain ⟨above, below⟩ := Count.mem_interval.mp within
    exact reaches_link above (by omega)
  | simple =>
    rw [mode] at member
    obtain rfl := List.mem_singleton.mp member
    exact reaches_link first (by omega)
  | restricted size =>
    rw [mode] at member
    simp only [List.mem_append] at member
    rcases member with (jump | shown) | jump
    · split at jump
      · obtain rfl := List.mem_singleton.mp jump
        exact reaches_link (Nat.le_refl 1) (by omega)
      · cases jump
    · obtain ⟨page, within, rfl⟩ := List.mem_map.mp shown
      obtain ⟨above, below⟩ := stretch_within (List.mem_filter.mp within).1
      exact reaches_link above (by omega)
    · split at jump
      · obtain rfl := List.mem_singleton.mp jump
        exact reaches_link (by omega) (by omega)
      · cases jump

theorem links_of_several (several : 2 ≤ s.totalPages.toNat) :
    s.links = (if 1 < s.current then [s.link .prev "Previous" (s.current - 1)] else []) ++ s.inner ++
      (if s.current < s.totalPages then [s.link .next "Next" (s.current + 1)] else []) := by
  have many : ¬s.totalPages ≤ 1 := by
    rw [UInt64.le_iff_toNat_le]
    exact Nat.not_le_of_lt several
  rw [links, if_neg many]

/-- No link leads behind the listing and the current page. -/
theorem reaches_of_mem_links (first : 1 ≤ s.current.toNat) (member : l ∈ s.links) : s.Reaches l := by
  by_cases single : s.totalPages ≤ 1
  · rw [links, if_pos single] at member
    cases member
  · have several : 2 ≤ s.totalPages.toNat := by
      rw [UInt64.le_iff_toNat_le] at single
      exact Nat.lt_of_not_le single
    rw [links_of_several several] at member
    simp only [List.mem_append] at member
    rcases member with (prev | inner) | next
    · split at prev
      · rename_i later
        obtain rfl := List.mem_singleton.mp prev
        have before := Count.toNat_pred later
        have later : 1 < s.current.toNat := UInt64.lt_iff_toNat_lt.mp later
        exact reaches_link (by omega) (by omega)
      · cases prev
    · exact reaches_of_mem_inner several first inner
    · split at next
      · rename_i earlier
        obtain rfl := List.mem_singleton.mp next
        have behind := Count.toNat_succ earlier
        have earlier : s.current.toNat < s.totalPages.toNat := UInt64.lt_iff_toNat_lt.mp earlier
        exact reaches_link (by omega) (by omega)
      · cases next

theorem leads_of_mem_links (placed : s.Placed) (member : l ∈ s.links) : s.Leads l := by
  have reaches := reaches_of_mem_links placed.first member
  have within : max s.current.toNat s.totalPages.toNat = s.totalPages.toNat := Nat.max_eq_right placed.last
  exact ⟨reaches.first, within ▸ reaches.last, reaches.spec⟩

/-! ### The active link -/

theorem filter_active_pageLinks {pages : List Count} (nodup : pages.Nodup) (member : s.current ∈ pages) :
    (pages.map s.pageLink).filter (·.active) = [s.pageLink s.current] := by
  have active : ((·.active) ∘ s.pageLink) = (· == s.current) := by
    funext page
    simp [pageLink, link]
  rw [List.filter_map, active, List.filter_beq, nodup.count, if_pos member]
  rfl

theorem current_mem_stretch (placed : s.Placed) (size : Count) : s.current ∈ s.stretch size := by
  obtain ⟨-, first, last⟩ := placed
  rw [mem_stretch, firstShown, lastShown]
  omega

theorem filter_active_inner (placed : s.Placed) (numbered : s.mode ≠ .simple) :
    s.inner.filter (·.active) = [s.pageLink s.current] := by
  unfold inner
  cases mode : s.mode with
  | full =>
    have one : (1 : Count).toNat = 1 := rfl
    exact filter_active_pageLinks (Count.interval_nodup _ _)
      (Count.mem_interval.mpr ⟨one ▸ placed.first, placed.last⟩)
  | simple => exact absurd mode numbered
  | restricted size =>
    have once : (s.stretch size.toUInt64).Nodup := Count.interval_nodup _ _
    have pages := filter_active_pageLinks once (current_mem_stretch placed size.toUInt64)
    simp only [filter_shows_stretch, List.filter_append, pages]
    split <;> split <;> rfl

theorem filter_active_links (placed : s.Placed) (numbered : s.mode ≠ .simple) :
    s.links.filter (·.active) = [s.pageLink s.current] := by
  rw [links_of_several placed.several, List.filter_append, List.filter_append, filter_active_inner placed numbered]
  split <;> split <;> rfl

/-! ### The state of a pager -/

variable {spec : PageSpec} {total : Count}

theorem perPage_make (total : Count) (room : 0 < spec.perPage.toNat) : (make spec total).perPage = spec.perPage := by
  rw [← UInt64.toNat_inj]
  change (max spec.perPage 1).toNat = _
  rw [Count.toNat_max]
  exact Nat.max_eq_left room

theorem totalPages_make (room : 0 < spec.perPage.toNat) :
    (make spec total).totalPages.toNat = (total.toNat + spec.perPage.toNat - 1) / spec.perPage.toNat := by
  change (Count.groups total (make spec total).perPage).toNat = _
  rw [perPage_make total room, Count.toNat_groups _ _ room]

theorem make_specFor (spec : PageSpec) (total target : Count) :
    make ((make spec total).specFor target) total = { make spec total with current := target } := by
  have width : max (max spec.perPage 1) 1 = max spec.perPage 1 := by
    rw [← UInt64.toNat_inj]
    simp only [Count.toNat_max]
    omega
  simp only [make, specFor, width]

/-! ### Links read back -/

/-- The last page of a listing ends behind the largest count. -/
def Overlong (s : PagerState) : Prop := 2 ^ 64 ≤ s.totalPages.toNat * s.perPage.toNat

theorem fits_of_lt_last (room : 0 < spec.perPage.toNat) {page : Nat}
    (within : page < (make spec total).totalPages.toNat) : page * spec.perPage.toNat < 2 ^ 64 := by
  rw [totalPages_make room, Nat.lt_iff_add_one_le, PageSpec.le_last_iff room (Nat.le_add_left 1 page),
    Nat.add_sub_cancel] at within
  exact Nat.lt_trans within (Count.toNat_lt total)

theorem fits_of_reaches (valid : spec.Valid) (reaches : (make spec total).Reaches l)
    (short : ¬(l.target = (make spec total).totalPages ∧ (make spec total).Overlong)) :
    l.target.toNat * spec.perPage.toNat < 2 ^ 64 := by
  rcases Nat.lt_trichotomy l.target.toNat (make spec total).totalPages.toNat with before | last | behind
  · exact fits_of_lt_last valid.room before
  · have ends := not_and.mp short (UInt64.toNat_inj.mp last)
    rw [Overlong, perPage_make total valid.room, Nat.not_le] at ends
    rwa [last]
  · -- Behind the listing there is only what lies before the current page, which is itself a page of the grammar.
    have current : l.target.toNat ≤ spec.page.toNat := by
      have last : l.target.toNat ≤ max spec.page.toNat (make spec total).totalPages.toNat := reaches.last
      omega
    exact Nat.lt_of_le_of_lt (Nat.mul_le_mul_right _ current) valid.fits

/-- A link around a page that a request can ask for is read back as the page that it leads to. There is one
exception: where the last page ends behind the largest count, the link to it is refused. -/
theorem link_read_back {raw : String} (read : Fragment.pageSpec raw = .ok spec)
    (member : l ∈ (make spec total).links) :
    (¬(l.target = (make spec total).totalPages ∧ (make spec total).Overlong) →
      Fragment.pageSpec l.spec = .ok ⟨l.target, spec.perPage, spec.mode⟩) ∧
    (l.target = (make spec total).totalPages ∧ (make spec total).Overlong →
      ∃ error, Fragment.pageSpec l.spec = .error error) := by
  obtain ⟨-, valid⟩ := Fragment.pageSpec_eq_ok.mp read
  have reaches := reaches_of_mem_links valid.first member
  have text : l.spec = (PageSpec.mk l.target spec.perPage spec.mode).toString := by
    rw [reaches.spec, specFor, perPage_make total valid.room]
    rfl
  rw [text]
  constructor
  · intro short
    have fits := fits_of_reaches valid reaches short
    exact Fragment.pageSpec_toString valid.regular reaches.first valid.room fits
  · rintro ⟨last, overlong⟩
    rw [Overlong, perPage_make total valid.room, ← last] at overlong
    exact Fragment.pageSpec_toString_of_invalid fun target => Nat.not_lt_of_le overlong target.fits

theorem prev_link_behind_the_listing :
    let spec : PageSpec := ⟨12, 10, .restricted 3⟩
    ∃ l ∈ (make spec 95).links, l.target = 11 ∧ Fragment.pageSpec l.spec = .ok ⟨11, 10, .restricted 3⟩ := by
  intro spec
  have read : Fragment.pageSpec "12-10--restricted-3" = .ok spec := rfl
  have member : (make spec 95).link .prev "Previous" 11 ∈ (make spec 95).links := by decide +kernel
  refine ⟨_, member, rfl, (link_read_back read member).1 ?_⟩
  rintro ⟨last, -⟩
  exact absurd last (by decide)

/-- The last of 2 ^ 63 pages of two records would end behind the largest count. Its link is refused. -/
theorem last_link_refused :
    let spec : PageSpec := ⟨1, 2, .restricted 1⟩
    Fragment.pageSpec "1-2--restricted-1" = .ok spec ∧
      ∃ l ∈ (make spec Count.top).links, Fragment.pageSpec l.spec ≠ .ok ⟨l.target, spec.perPage, spec.mode⟩ := by
  intro spec
  have last : (make spec Count.top).link .ellipsis ellipsisLabel 9223372036854775808 ∈
      (make spec Count.top).links := by decide +kernel
  refine ⟨rfl, _, last, fun read => ?_⟩
  have fits := (Fragment.pageSpec_sound read).2.2.1
  exact absurd fits (by decide)

end PagerState
end Listing
