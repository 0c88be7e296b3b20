import Mathlib.Data.List.Basic
import Listing.Paging.Pager

/-!
The stretch of pages that a restricted pager looks at. Its ends are held at the largest count and at the ends of the
listing, which leaves it the pages that are not hidden: no more of them, and no fewer.
-/

namespace Listing

theorem Count.any_add? (p : Count → Bool) (limit : Nat) (a b : Count)
    (below : ∀ c, p c = decide (c.toNat < limit)) (bound : limit ≤ 18446744073709551616) :
    (Count.add? a b).any p = decide (a.toNat + b.toNat < limit) := by
  cases sum : Count.add? a b with
  | none =>
    have beyond : 18446744073709551616 ≤ a.toNat + b.toNat := Count.ofNat?_eq_none.mp sum
    exact (decide_eq_false (by omega)).symm
  | some c => rw [Option.any_some, below, Count.add?_eq_some.mp sum]

namespace PagerState

def firstShown (s : PagerState) (size : Count) : Nat :=
  max 1 (min (s.current.toNat - (reach size).toNat) (s.totalPages.toNat - size.toNat + 1))

def lastShown (s : PagerState) (size : Count) : Nat :=
  min s.totalPages.toNat (max size.toNat (s.current.toNat + (reach size).toNat))

variable {s : PagerState} {page size : Count}

theorem toNat_reach (size : Count) : (reach size).toNat = (size.toNat - 1) / 2 := by
  rw [reach, UInt64.toNat_div, Count.toNat_monus]
  rfl

/-! ### Pages of the stretch -/

/-- Holding the ends of a stretch at the largest count does not move them. -/
theorem held_ends (current reach total size : Nat) {top : Nat} (below : current ≤ top) (fits : total ≤ top) :
    max 1 (min (current - reach) (min (total - size + 1) top)) = max 1 (min (current - reach) (total - size + 1)) ∧
      min total (max size (min (current + reach) top)) = min total (max size (current + reach)) := by
  omega

theorem map_toNat_stretch (s : PagerState) (size : Count) :
    (s.stretch size).map UInt64.toNat =
      List.range' (s.firstShown size) (s.lastShown size + 1 - s.firstShown size) := by
  obtain ⟨first, last⟩ := held_ends s.current.toNat (reach size).toNat s.totalPages.toNat size.toNat
    (Nat.le_of_lt_succ (Count.toNat_lt s.current)) (Nat.le_of_lt_succ (Count.toNat_lt s.totalPages))
  have one : (1 : Count).toNat = 1 := rfl
  unfold stretch firstShown lastShown
  simp only [Count.map_toNat_interval, Count.toNat_max, Count.toNat_min, Count.toNat_monus, Count.toNat_addClamped,
    one, first, last]

theorem mem_stretch : page ∈ s.stretch size ↔ s.firstShown size ≤ page.toNat ∧ page.toNat ≤ s.lastShown size := by
  have numbers : page ∈ s.stretch size ↔ page.toNat ∈ (s.stretch size).map UInt64.toNat :=
    (List.mem_map_of_injective fun _ _ => UInt64.toNat_inj.mp).symm
  rw [numbers, map_toNat_stretch, List.mem_range'_1]
  omega

theorem stretch_within (member : page ∈ s.stretch size) :
    1 ≤ page.toNat ∧ page.toNat ≤ s.totalPages.toNat := by
  obtain ⟨above, below⟩ := mem_stretch.mp member
  exact ⟨Nat.le_trans (Nat.le_max_left _ _) above, Nat.le_trans below (Nat.min_le_left _ _)⟩

/-! ### Pages that are shown -/

/-- The two ways for a page to be hidden, in numbers that are not held back. -/
theorem shows_iff (s : PagerState) (size page : Count) :
    s.shows size page = true ↔
      ¬(page.toNat + size.toNat ≤ s.totalPages.toNat ∧ page.toNat + (reach size).toNat < s.current.toNat) ∧
      ¬(size.toNat < page.toNat ∧ s.current.toNat + (reach size).toNat < page.toNat) := by
  -- On the left a sum that is no count is refused, on the right it is held. Both hide nothing by it.
  have early := Count.any_add? (· ≤ s.totalPages) (s.totalPages.toNat + 1) page size
    (fun c => decide_eq_decide.mpr (UInt64.le_iff_toNat_le.trans Nat.lt_succ_iff.symm)) (Count.toNat_lt s.totalPages)
  have left := Count.any_add? (· < s.current) s.current.toNat page (reach size)
    (fun c => decide_eq_decide.mpr UInt64.lt_iff_toNat_lt) (Nat.le_of_lt (Count.toNat_lt s.current))
  have late : size < page ↔ size.toNat < page.toNat := UInt64.lt_iff_toNat_lt
  have right : Count.addClamped s.current (reach size) < page ↔
      s.current.toNat + (reach size).toNat < page.toNat := by
    have bound := Count.toNat_lt page
    rw [UInt64.lt_iff_toNat_lt, Count.toNat_addClamped]
    omega
  simp only [shows, early, left, late, right, Bool.and_eq_true, Bool.not_eq_true', Bool.and_eq_false_iff,
    decide_eq_false_iff_not]
  omega

theorem shows_of_mem_stretch (member : page ∈ s.stretch size) : s.shows size page = true := by
  have limits := mem_stretch.mp member
  rw [firstShown, lastShown] at limits
  rw [shows_iff]
  omega

theorem mem_stretch_of_shows (first : 1 ≤ page.toNat) (last : page.toNat ≤ s.totalPages.toNat)
    (shown : s.shows size page = true) : page ∈ s.stretch size := by
  have visible := (s.shows_iff size page).mp shown
  rw [mem_stretch, firstShown, lastShown]
  omega

theorem filter_shows_stretch (s : PagerState) (size : Count) :
    (s.stretch size).filter (s.shows size) = s.stretch size :=
  List.filter_eq_self.mpr fun _ => shows_of_mem_stretch

/-- The pages that are shown are the same whether all pages are looked at or those of the stretch alone. -/
theorem filter_shows_interval (s : PagerState) (size : Count) :
    (Count.interval 1 s.totalPages).filter (s.shows size) = s.stretch size := by
  have one : (1 : Count).toNat = 1 := rfl
  have members : ∀ page, page ∈ (Count.interval 1 s.totalPages).filter (s.shows size) ↔ page ∈ s.stretch size := by
    intro page
    rw [List.mem_filter, Count.mem_interval, one]
    constructor
    · rintro ⟨⟨first, last⟩, shown⟩
      exact mem_stretch_of_shows first last shown
    · intro member
      exact ⟨stretch_within member, shows_of_mem_stretch member⟩
  -- Both lists ascend, so that having the same members makes them the same.
  have ascending := (Count.interval_ascending 1 s.totalPages).filter (s.shows size)
  refine List.Perm.eq_of_pairwise (fun a b _ _ less more => absurd less (Nat.lt_asymm more)) ascending
    (Count.interval_ascending _ _) ?_
  exact (List.perm_ext_iff_of_nodup ((Count.interval_nodup _ _).filter _) (Count.interval_nodup _ _)).mpr members

end PagerState
end Listing
