import Listing.Proofs.Paging.Links

/-!
The numbered pages of a restricted pager. They are one stretch of pages around the current one, which is as long
as the pager is wide wherever the listing has room for it.
-/

namespace Listing.PagerState

def numbered (s : PagerState) : List Nat := (s.links.filter (·.kind == .page)).map (·.target.toNat)

def JumpsTo (s : PagerState) (page : Count) : Prop := ∃ l ∈ s.links, l.kind = .ellipsis ∧ l.target = page

variable {s : PagerState} {size : UInt32} {page : Count}

/-! ### The numbered links -/

theorem jumps_iff (s : PagerState) (size : UInt32) :
    (Count.addClamped (reach size.toUInt64) 1 < s.current ↔ (size.toNat - 1) / 2 + 1 < s.current.toNat) ∧
      (Count.addClamped s.current (reach size.toUInt64) < s.totalPages ↔
        s.current.toNat + (size.toNat - 1) / 2 < s.totalPages.toNat) := by
  have current := Nat.le_of_lt_succ (Count.toNat_lt s.current)
  have total := Nat.le_of_lt_succ (Count.toNat_lt s.totalPages)
  have one : (1 : Count).toNat = 1 := rfl
  rw [UInt64.lt_iff_toNat_lt, UInt64.lt_iff_toNat_lt, Count.toNat_addClamped, Count.toNat_addClamped, toNat_reach,
    UInt32.toNat_toUInt64, one]
  generalize 18446744073709551615 = top at *
  omega

theorem inner_of_restricted (mode : s.mode = .restricted size) :
    s.inner =
      (if (size.toNat - 1) / 2 + 1 < s.current.toNat then [s.link .ellipsis ellipsisLabel 1] else []) ++
        (s.stretch size.toUInt64).map s.pageLink ++
        (if s.current.toNat + (size.toNat - 1) / 2 < s.totalPages.toNat then
          [s.link .ellipsis ellipsisLabel s.totalPages] else []) := by
  obtain ⟨front, back⟩ := jumps_iff s size
  rw [inner, mode]
  simp only [filter_shows_stretch, front, back, decide_eq_true_eq]

theorem numbered_of_restricted (mode : s.mode = .restricted size) (several : 2 ≤ s.totalPages.toNat) :
    s.numbered = List.range' (s.firstShown size.toUInt64)
      (s.lastShown size.toUInt64 + 1 - s.firstShown size.toUInt64) := by
  have unnumbered : ∀ (kind : LinkKind) (label : String) (target : Count) (shown : Prop) [Decidable shown],
      kind ≠ .page → (if shown then [s.link kind label target] else []).filter (·.kind == .page) = [] := by
    intro kind label target shown _ other
    split
    · exact List.filter_cons_of_neg (by simpa [link] using other)
    · rfl
  have pages : ((s.stretch size.toUInt64).map s.pageLink).filter (·.kind == .page) =
      (s.stretch size.toUInt64).map s.pageLink := by
    refine List.filter_eq_self.mpr fun l member => ?_
    obtain ⟨page, -, rfl⟩ := List.mem_map.mp member
    rfl
  rw [numbered, links_of_several several, inner_of_restricted mode]
  simp only [List.filter_append, pages, unnumbered .prev _ _ _ (by decide), unnumbered .next _ _ _ (by decide),
    unnumbered .ellipsis _ _ _ (by decide), List.nil_append, List.append_nil, List.map_map]
  exact map_toNat_stretch s size.toUInt64

theorem jumpsTo_iff (mode : s.mode = .restricted size) (several : 2 ≤ s.totalPages.toNat) :
    s.JumpsTo page ↔ (page = 1 ∧ (size.toNat - 1) / 2 + 1 < s.current.toNat) ∨
      (page = s.totalPages ∧ s.current.toNat + (size.toNat - 1) / 2 < s.totalPages.toNat) := by
  rw [JumpsTo, links_of_several several, inner_of_restricted mode]
  constructor
  · rintro ⟨l, member, kind, rfl⟩
    simp only [List.mem_append, List.mem_ite_nil_right, List.mem_singleton, List.mem_map] at member
    rcases member with (⟨-, rfl⟩ | (⟨far, rfl⟩ | ⟨page, -, rfl⟩) | ⟨far, rfl⟩) | ⟨-, rfl⟩
    · cases kind
    · exact .inl ⟨rfl, far⟩
    · cases kind
    · exact .inr ⟨rfl, far⟩
    · cases kind
  · rintro (⟨rfl, far⟩ | ⟨rfl, far⟩)
    · exact ⟨s.link .ellipsis ellipsisLabel 1, by simp [far], rfl, rfl⟩
    · exact ⟨s.link .ellipsis ellipsisLabel s.totalPages, by simp [far], rfl, rfl⟩

/-! ### A full window -/

/-- The pages from `first` to `last`: as many as a pager of `size` numbers shows, all of them where there are fewer,
around the current page. -/
structure FullWindow (s : PagerState) (size first last : Nat) : Prop where
  start : 1 ≤ first
  stop : last ≤ s.totalPages.toNat
  width : last + 1 = first + min size s.totalPages.toNat
  before : first ≤ s.current.toNat
  behind : s.current.toNat ≤ last

variable {h : Nat}

/-- The two clamped ends always lie as far apart as the pager is wide. -/
theorem window_of_placed (placed : s.Placed) (odd : size.toNat = 2 * h + 1) :
    s.FullWindow size.toNat (s.firstShown size.toUInt64) (s.lastShown size.toUInt64) := by
  obtain ⟨-, first, last⟩ := placed
  have reach := toNat_reach size.toUInt64
  rw [UInt32.toNat_toUInt64] at reach
  unfold firstShown lastShown
  rw [reach, UInt32.toNat_toUInt64]
  -- An end that is clamped at the listing has pushed the other one out, as `size` has two arms of `h` pages.
  constructor <;> omega

theorem firstShown_of_centred (odd : size.toNat = 2 * h + 1) (left : h < s.current.toNat)
    (right : s.current.toNat + h ≤ s.totalPages.toNat) : s.firstShown size.toUInt64 = s.current.toNat - h := by
  rw [firstShown, toNat_reach, UInt32.toNat_toUInt64]
  omega

theorem numbered_of_placed (mode : s.mode = .restricted size) (odd : size.toNat = 2 * h + 1) (placed : s.Placed) :
    s.numbered = List.range' (s.firstShown size.toUInt64) (min size.toNat s.totalPages.toNat) := by
  have width := (window_of_placed placed odd).width
  rw [numbered_of_restricted mode placed.several]
  congr 1
  omega

/-- A restricted pager shows as many pages as it is wide, or all of them where there are fewer. They follow each
other without a gap, the current page is among them, and it stands in their middle wherever it can. -/
theorem restricted_window_full (mode : s.mode = .restricted size) (odd : size.toNat = 2 * h + 1) (placed : s.Placed) :
    (∃ first, 1 ≤ first ∧ first + min size.toNat s.totalPages.toNat ≤ s.totalPages.toNat + 1 ∧
      s.numbered = List.range' first (min size.toNat s.totalPages.toNat)) ∧
    s.numbered.Pairwise (· < ·) ∧
    s.current.toNat ∈ s.numbered ∧
    s.links.filter (·.active) = [s.pageLink s.current] ∧
    (h < s.current.toNat → s.current.toNat + h ≤ s.totalPages.toNat →
      s.numbered = List.range' (s.current.toNat - h) (2 * h + 1)) := by
  have numbers := numbered_of_placed mode odd placed
  obtain ⟨start, stop, width, before, behind⟩ := window_of_placed placed odd
  have numeric : s.mode ≠ .simple := by
    rw [mode]
    exact PagerMode.noConfusion
  refine ⟨⟨_, start, by omega, numbers⟩, ?_, ?_, filter_active_links placed numeric, fun left right => ?_⟩
  · rw [numbers]
    exact List.pairwise_lt_range'
  · rw [numbers, List.mem_range'_1]
    omega
  · have room : min size.toNat s.totalPages.toNat = 2 * h + 1 := by omega
    rw [numbers, firstShown_of_centred odd left right, room]

theorem window_of_five_pages :
    let s := make ⟨7, 10, .restricted 5⟩ 95
    (s.mode = .restricted 5 ∧ (5 : UInt32).toNat = 2 * 2 + 1 ∧ s.Placed) ∧ s.numbered = [5, 6, 7, 8, 9] ∧
      7 ∈ s.numbered := by
  intro s
  have mode : s.mode = .restricted 5 := rfl
  have odd : (5 : UInt32).toNat = 2 * 2 + 1 := by decide
  have placed : s.Placed := ⟨by decide, by decide, by decide⟩
  obtain ⟨-, -, current, -, centred⟩ := restricted_window_full mode odd placed
  exact ⟨⟨mode, odd, placed⟩, centred (by decide) (by decide), current⟩

/-! ### Jumps -/

/-- Where a restricted pager leaves pages out, a jump leads to the first or to the last page exactly if that page has
no numbered link. Where it shows all pages there are jumps as well, by the distance of the current page alone. -/
theorem jumps_to_hidden_ends (mode : s.mode = .restricted size) (odd : size.toNat = 2 * h + 1) (placed : s.Placed) :
    (size.toNat < s.totalPages.toNat →
      (s.JumpsTo 1 ↔ 1 ∉ s.numbered) ∧ (s.JumpsTo s.totalPages ↔ s.totalPages.toNat ∉ s.numbered)) ∧
    (s.totalPages.toNat ≤ size.toNat →
      s.numbered = List.range' 1 s.totalPages.toNat ∧
      (s.JumpsTo 1 ↔ h + 1 < s.current.toNat) ∧
      (s.JumpsTo s.totalPages ↔ s.current.toNat + h < s.totalPages.toNat)) := by
  have numbers := numbered_of_placed mode odd placed
  obtain ⟨several, first, last⟩ := placed
  have half : (size.toNat - 1) / 2 = h := by omega
  have apart : s.totalPages ≠ 1 := by
    rintro same
    rw [same] at several
    exact absurd several (by decide)
  have front : s.JumpsTo 1 ↔ h + 1 < s.current.toNat := by
    rw [jumpsTo_iff mode several, half]
    simp [apart.symm]
  have back : s.JumpsTo s.totalPages ↔ s.current.toNat + h < s.totalPages.toNat := by
    rw [jumpsTo_iff mode several, half]
    simp [apart]
  have reach : (reach size.toUInt64).toNat = h := by rw [toNat_reach, UInt32.toNat_toUInt64, half]
  rw [front, back, numbers, List.mem_range'_1, List.mem_range'_1, firstShown, reach, UInt32.toNat_toUInt64]
  refine ⟨fun fewer => ?_, fun all => ⟨?_, Iff.rfl, Iff.rfl⟩⟩
  · omega
  · congr 1 <;> omega

theorem jump_to_hidden_end :
    let s := make ⟨2, 10, .restricted 5⟩ 95
    (s.mode = .restricted 5 ∧ (5 : UInt32).toNat = 2 * 2 + 1 ∧ s.Placed) ∧ ¬s.JumpsTo 1 ∧ s.JumpsTo 10 := by
  intro s
  have mode : s.mode = .restricted 5 := rfl
  have odd : (5 : UInt32).toNat = 2 * 2 + 1 := by decide
  have placed : s.Placed := ⟨by decide, by decide, by decide⟩
  obtain ⟨front, back⟩ := (jumps_to_hidden_ends mode odd placed).1 (by decide)
  exact ⟨⟨mode, odd, placed⟩, fun jump => front.mp jump (by decide), back.mpr (by decide)⟩

/-- All four pages have a numbered link, and still a jump leads to the last one. -/
theorem jump_beside_every_page :
    let s := make ⟨1, 1, .restricted 5⟩ 4
    s.mode = .restricted 5 ∧ s.Placed ∧ s.numbered = [1, 2, 3, 4] ∧
      ¬(s.JumpsTo s.totalPages ↔ s.totalPages.toNat ∉ s.numbered) := by
  intro s
  have numbers : s.numbered = [1, 2, 3, 4] := by decide
  refine ⟨rfl, ⟨by decide, by decide, by decide⟩, numbers, fun hidden => ?_⟩
  have jump : s.JumpsTo s.totalPages := ⟨s.link .ellipsis ellipsisLabel 4, by decide, rfl, by decide⟩
  rw [numbers] at hidden
  exact hidden.mp jump (by decide)

end Listing.PagerState
