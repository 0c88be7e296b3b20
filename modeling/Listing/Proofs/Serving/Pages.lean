import Listing.Proofs.Paging.Grammar
import Listing.Proofs.Paging.Links
import Listing.Proofs.Query.Paged
import Listing.Proofs.Serving.Answers

/-!
The pages of a listing. A page of a request is a stretch of what the request selects in its own order,
whatever its window and its random order. Consecutive pages lie side by side, so they partition the
listing, and a page past the last one is empty.
-/

namespace Listing

def Params.onPage (p : Params) (page : Nat) (perPage : Count) (mode? : Option (List Char)) : Params :=
  p.insert "paged" (String.ofList (Fragment.pageText page perPage.toNat mode?))

def pageOf (all : List Count) (page perPage : Nat) : List Count := (all.drop ((page - 1) * perPage)).take perPage

namespace Store
variable {s : Store} {b : Builder} {p : Params} {request r : ParsedRequest} {spec : PageSpec} {all : List Count}

/-! ### One page -/

def page (s : Store) (d : Descriptor) (page perPage : Nat) : Except DispatchError (List Count) :=
  match s.listing d with
  | some all => .ok (pageOf all page perPage)
  | none => .error (.execution .disorder)

theorem page_of_listing {d : Descriptor} (listed : s.listing d = some all) (page perPage : Nat) :
    s.page d page perPage = .ok (pageOf all page perPage) := by
  rw [Store.page, listed]

theorem page_of_disorder {d : Descriptor} (unsorted : s.listing d = none) (page perPage : Nat) :
    s.page d page perPage = .error (.execution .disorder) := by
  rw [Store.page, unsorted]

theorem execute_of_isPage (page : r.IsPage request spec) (shuffle : Shuffle)
    (fits : spec.page.toNat * spec.perPage.toNat < 2 ^ 64) :
    s.execute shuffle r.descriptor =
      (s.listing request.descriptor).map (pageOf · spec.page.toNat spec.perPage.toNat) := by
  rw [execute_of_settled s shuffle page.settled, listing_congr s page.alike, page.window,
    PageSpec.toNat_window_start fits]
  rfl

theorem found_of_isPage (page : r.IsPage request spec) (shuffle : Shuffle)
    (fits : spec.page.toNat * spec.perPage.toNat < 2 ^ 64) :
    s.found shuffle r.descriptor = s.page request.descriptor spec.page.toNat spec.perPage.toNat := by
  rw [found, execute_of_isPage page shuffle fits, Store.page]
  cases s.listing request.descriptor <;> rfl

def pageResponse (s : Store) (request : ParsedRequest) (spec : PageSpec) (ids : List Count) : Response :=
  if ids.isEmpty then .noResults
  else .rendered ⟨request.descriptor.entityKind, request.viewMode, ids.filterMap s.get?⟩
    (Pager.make? spec (s.count request.descriptor))

theorem response_of_isPage (page : r.IsPage request spec) (ids : List Count) :
    s.response ids r = s.pageResponse request spec ids := by
  unfold response pageResponse
  rw [page.alike.entityKind, page.viewMode, page.pager, count_congr s page.alike]
  rfl

variable {m : Type → Type} [Monad m] [LawfulMonad m] {mode? : Option (List Char)} {mode : PagerMode}

theorem serve_page (built : b.build p = .ok request) (known : Fragment.modeOf? mode? = some mode)
    {page : Nat} {perPage : Count} (first : 1 ≤ page) (room : 0 < perPage.toNat)
    (fits : page * perPage.toNat < 2 ^ 64) (shuffle : Shuffle) (clock : m Instant) (ttl : Nat) :
    let client := s.dispatcher shuffle b clock ttl
    let asked := p.onPage page perPage mode?
    client.ids asked = pure (s.page request.descriptor page perPage.toNat) ∧
      client.dispatch none asked = pure ((s.page request.descriptor page perPage.toNat).map
        (s.pageResponse request ⟨UInt64.ofNat page, perPage, mode⟩), none) := by
  intro client asked
  have small : page < 2 ^ 64 := Nat.lt_of_le_of_lt (Nat.le_mul_of_pos_right page room) fits
  have same : (UInt64.ofNat page).toNat = page := UInt64.toNat_ofNat_of_lt' small
  have read : Fragment.pageSpec (String.ofList (Fragment.pageText page perPage.toNat mode?)) =
      .ok ⟨UInt64.ofNat page, perPage, mode⟩ := by
    have written := Fragment.pageSpec_pageText (UInt64.ofNat page) perPage mode? known (by omega) room
      (by rwa [same])
    rwa [same] at written
  obtain ⟨r, asks, isPage⟩ := b.build_page built read
  have found : s.found shuffle r.descriptor = s.page request.descriptor page perPage.toNat := by
    have cut := found_of_isPage (s := s) isPage shuffle (by rwa [same])
    rwa [same] at cut
  have built' : b.build asked = .ok r := asks
  refine ⟨?_, ?_⟩
  · rw [dispatcher_ids, built', ← found]
  · rw [dispatcher_dispatch, outcome_of_build built', found, funext (response_of_isPage isPage)]

/-! ### All pages -/

theorem toNat_count_of_small (small : s.size < 2 ^ 63) (d : Descriptor) : (s.count d).toNat = (s.hits d).length :=
  toNat_count_of_size (Nat.le_trans (Nat.le_of_lt small) (by decide)) d

theorem flatMap_pages (all : List Count) (perPage pages : Nat) :
    (List.range' 1 pages).flatMap (pageOf all · perPage) = all.take (pages * perPage) := by
  induction pages with
  | zero => simp
  | succ pages ih =>
    rw [List.range'_1_concat, List.flatMap_append, ih, Nat.succ_mul, List.take_add]
    simp [pageOf]

theorem pageOf_eq_nil {page perPage : Nat} (beyond : all.length ≤ (page - 1) * perPage) :
    pageOf all page perPage = [] := by
  rw [pageOf, List.drop_eq_nil_of_le beyond, List.take_nil]

theorem page_congr (s : Store) {d d' : Descriptor} (alike : d.Alike d') (page perPage : Nat) :
    s.page d page perPage = s.page d' page perPage := by
  unfold Store.page
  rw [listing_congr s alike]

theorem pageResponse_congr (s : Store) {bare : ParsedRequest}
    (alike : bare.descriptor.Alike request.descriptor) (viewMode : bare.viewMode = request.viewMode)
    (spec : PageSpec) : s.pageResponse bare spec = s.pageResponse request spec := by
  unfold pageResponse
  rw [alike.entityKind, viewMode, count_congr s alike]

/-- The pages of a listing, one after the other, hold each record that a request selects exactly once and
in its own order. Pages past the last one are empty. A window or a random order in the request makes no
difference. There is a listing where the sort keys hold the records in one order; where they cannot be sorted no page
is answered. -/
theorem pages_partition_listing {perPage : Count} (small : s.size < 2 ^ 63)
    (built : b.build p = .ok request) (room : 0 < perPage.toNat) (known : Fragment.modeOf? mode? = some mode)
    (shuffle : Shuffle) (clock : m Instant) (ttl : Nat) :
    let d := request.descriptor
    let total := (s.count d).toNat
    let last := (total + perPage.toNat - 1) / perPage.toNat
    let client := s.dispatcher shuffle b clock ttl
    let onPage := fun (p : Params) page => p.onPage page perPage mode?
    (TransOn (compareEntries d.sort) (s.hits d) → ∃ all, s.listing d = some all) ∧
    (s.listing d = none → ∀ page, 1 ≤ page → page * perPage.toNat < 2 ^ 64 →
      client.ids (onPage p page) = pure (.error (.execution .disorder)) ∧
      client.dispatch none (onPage p page) = pure (.error (.execution .disorder), none)) ∧
    (∀ all, s.listing d = some all →
      (∀ page, 1 ≤ page → page * perPage.toNat < 2 ^ 64 →
        client.ids (onPage p page) = pure (.ok (pageOf all page perPage.toNat))) ∧
      (∀ page, page ≤ last → page * perPage.toNat < 2 ^ 64) ∧
      (List.range' 1 last).flatMap (pageOf all · perPage.toNat) = all ∧
      all.Nodup ∧
      (∀ id, id ∈ all ↔ ∃ record, s.get? id = some record ∧ d.Asks record) ∧
      (∀ page, last < page → page * perPage.toNat < 2 ^ 64 →
        client.ids (onPage p page) = pure (.ok []) ∧
        client.dispatch none (onPage p page) = pure (.ok .noResults, none))) ∧
    ∃ bare, b.build p.bare = .ok bare ∧ s.count bare.descriptor = s.count d ∧
      s.listing bare.descriptor = s.listing d ∧
      ∀ page, 1 ≤ page → page * perPage.toNat < 2 ^ 64 →
        client.ids (onPage p.bare page) = client.ids (onPage p page) ∧
        client.dispatch none (onPage p.bare page) = client.dispatch none (onPage p page) := by
  intro d total last client onPage
  refine ⟨exists_listing, ?_, ?_, ?_⟩
  · intro unsorted page first fits
    obtain ⟨ids, dispatch⟩ := serve_page (s := s) built known first room fits shuffle clock ttl
    rw [page_of_disorder unsorted] at ids dispatch
    exact ⟨ids, dispatch⟩
  · intro all listed
    have size : all.length = total := (listing_length listed).trans (toNat_count_of_small small d).symm
    have short : total < 2 ^ 63 := by
      rw [← size, listing_length listed]
      exact Nat.lt_of_le_of_lt (s.length_hits_le d) small
    refine ⟨?_, ?_, ?_, listing_nodup listed, fun id => mem_listing listed, ?_⟩
    · intro page first fits
      rw [← page_of_listing listed]
      exact (serve_page built known first room fits shuffle clock ttl).1
    · intro page within
      exact PageSpec.fits_of_le_last room short (Count.toNat_lt perPage) within
    · rw [flatMap_pages]
      exact List.take_of_length_le (size ▸ (PageSpec.last_bounds total room).1)
    · intro page beyond fits
      have first : 1 ≤ page := Nat.lt_of_le_of_lt (Nat.zero_le last) beyond
      have none := mt (PageSpec.le_last_iff room first).mpr (Nat.not_le_of_lt beyond)
      have empty : pageOf all page perPage.toNat = [] := pageOf_eq_nil (size ▸ Nat.le_of_not_lt none)
      obtain ⟨ids, dispatch⟩ := serve_page (s := s) built known first room fits shuffle clock ttl
      rw [page_of_listing listed, empty] at ids dispatch
      exact ⟨ids, dispatch⟩
  · obtain ⟨bare, builtBare, alike, viewMode⟩ := b.build_bare built
    refine ⟨bare, builtBare, s.count_congr alike, s.listing_congr alike, ?_⟩
    intro page first fits
    obtain ⟨ids, dispatch⟩ := serve_page (s := s) built known first room fits shuffle clock ttl
    obtain ⟨idsBare, dispatchBare⟩ := serve_page (s := s) builtBare known first room fits shuffle clock ttl
    rw [page_congr s alike] at idsBare dispatchBare
    rw [pageResponse_congr s alike viewMode] at dispatchBare
    exact ⟨idsBare.trans ids.symm, dispatchBare.trans dispatch.symm⟩

theorem pages_of_three_records :
    let s := published [3, 5, 4] (by decide)
    let p : Params := .ofList [("sort", "nid-DESC"), ("range", "1-1"), ("random", "1")]
    let client := s.dispatcher .still .standard (pure 0 : Id Instant) 60
    let onPage := fun page => p.onPage page 2 (some "simple".toList)
    client.ids (onPage 1) = .ok [5, 4] ∧ client.ids (onPage 2) = .ok [3] ∧
      client.dispatch none (onPage 3) = (.ok .noResults, none) := by
  intro s p client onPage
  have small : s.size < 2 ^ 63 := by decide
  have room : 0 < (2 : Count).toNat := by decide
  have known : Fragment.modeOf? (some "simple".toList) = some .simple := by decide
  have built : Builder.standard.build p = .ok (Builder.standard.finish (Builder.standard.draft p.entries)) := rfl
  obtain ⟨-, -, sorted, -⟩ :=
    pages_partition_listing small built room known .still (pure 0 : Id Instant) 60
  obtain ⟨served, _, _, _, _, beyond⟩ := sorted [5, 4, 3] (by decide +kernel)
  refine ⟨(served 1 (by decide) (by decide)).trans ?_, (served 2 (by decide) (by decide)).trans ?_, ?_⟩
  · exact congrArg Except.ok (by decide +kernel)
  · exact congrArg Except.ok (by decide +kernel)
  · exact (beyond 3 (by decide +kernel) (by decide)).2

/-- Of records that stand in a circle no page is answered, not even one behind the last. -/
theorem pages_of_tangle_lost :
    let p : Params := .ofList [("sort", "v-ASC")]
    let client := tangle.dispatcher .still .standard (pure 0 : Id Instant) 60
    (∃ request, Builder.standard.build p = .ok request) ∧
      client.ids (p.onPage 2 21 none) = .error (.execution .disorder) ∧
      client.dispatch none (p.onPage 2 21 none) = (.error (.execution .disorder), none) := by
  intro p client
  have built : Builder.standard.build p = .ok (Builder.standard.finish (Builder.standard.draft p.entries)) := rfl
  have known : Fragment.modeOf? none = some .full := by decide
  have unsorted : tangle.listing (Builder.standard.finish (Builder.standard.draft p.entries)).descriptor = none := by
    decide +kernel
  have first : 1 ≤ 2 := by decide
  have room : 0 < (21 : Count).toNat := by decide
  obtain ⟨ids, dispatch⟩ :=
    serve_page (s := tangle) built known first room (by decide) .still (pure 0 : Id Instant) 60
  rw [page_of_disorder unsorted] at ids dispatch
  exact ⟨⟨_, built⟩, ids, dispatch⟩

end Store
end Listing
