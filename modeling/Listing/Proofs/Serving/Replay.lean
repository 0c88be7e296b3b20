import Listing.Proofs.Serving.Pages

/-!
Following the links of an answer. A pager stands around a page that holds something, so the page lies within
the listing. Each link carries a page that is read back, and the request with that page in it is answered
with the same pager around the page of the link.
-/

namespace Listing

theorem Pager.make?_eq_some {spec : PageSpec} {total : Count} {pager : Pager} :
    Pager.make? spec total = some pager ↔
      2 ≤ (PagerState.make spec total).totalPages.toNat ∧
        pager = ⟨.make spec total, (PagerState.make spec total).links⟩ := by
  have one : (1 : Count).toNat = 1 := rfl
  unfold Pager.make?
  simp only [UInt64.le_iff_toNat_le, one]
  split
  · rename_i single
    simp only [false_iff, reduceCtorEq, not_and]
    omega
  · rename_i several
    rw [Option.some.injEq, eq_comm]
    exact ⟨fun same => ⟨by omega, same⟩, And.right⟩

namespace Store
variable {s : Store} {b : Builder} {p : Params} {request : ParsedRequest} {spec : PageSpec}
variable {shuffle : Shuffle} {output : Rendered} {pager : Pager} {all ids : List Count}

theorem pageOf_ne_nil {page perPage : Nat} (room : 0 < perPage) (held : (page - 1) * perPage < all.length) :
    pageOf all page perPage ≠ [] := by
  have length : (pageOf all page perPage).length ≠ 0 := by
    unfold pageOf
    rw [List.length_take, List.length_drop]
    omega
  exact fun empty => length (List.length_eq_zero_iff.mpr empty)

/-- A response with a pager comes from a paged request whose page holds something. -/
theorem paged_of_rendered (answered : s.outcome shuffle b p = .ok (.rendered output (some pager))) :
    ∃ request spec ids, b.build p = .ok request ∧ request.pager = some spec ∧
      s.execute shuffle request.descriptor = some ids ∧ ids ≠ [] ∧
      Pager.make? spec (s.count request.descriptor) = some pager := by
  unfold outcome found at answered
  split at answered
  · rename_i request built
    split at answered
    · rename_i ids executed
      unfold response at answered
      simp only [Except.map] at answered
      split at answered
      · cases answered
      · rename_i held
        injection Except.ok.inj answered with _ around
        obtain ⟨spec, paged, made⟩ := Option.bind_eq_some_iff.mp around
        exact ⟨request, spec, ids, built, paged, executed, fun empty => held (by rw [empty]; rfl), made⟩
    · cases answered
  · cases answered
  · cases answered
  · cases answered

theorem outcome_of_isPage {r : ParsedRequest} (asks : b.build p = .ok r) (page : r.IsPage request spec)
    (fits : spec.page.toNat * spec.perPage.toNat < 2 ^ 64) (listed : s.listing request.descriptor = some all)
    (held : pageOf all spec.page.toNat spec.perPage.toNat ≠ [])
    (made : Pager.make? spec (s.count request.descriptor) = some pager) (shuffle : Shuffle) :
    ∃ output, s.outcome shuffle b p = .ok (.rendered output (some pager)) := by
  have nonempty : (pageOf all spec.page.toNat spec.perPage.toNat).isEmpty = false := by
    simpa using held
  rw [outcome_of_build asks, found_of_isPage page shuffle fits, page_of_listing listed,
    funext (response_of_isPage page)]
  simp only [Except.map, pageResponse, nonempty, made]
  exact ⟨_, rfl⟩

/-- A page that holds something belongs to a listing and is one of the pages around it. -/
theorem placed_of_executed (small : s.size < 2 ^ 63) (page : request.IsPage request spec) {text : String}
    (read : Fragment.pageSpec text = .ok spec) (executed : s.execute shuffle request.descriptor = some ids)
    (held : ids ≠ []) (made : Pager.make? spec (s.count request.descriptor) = some pager) :
    (∃ all, s.listing request.descriptor = some all) ∧ pager.state.Placed := by
  obtain ⟨first, room, fits, _⟩ := Fragment.pageSpec_sound read
  obtain ⟨several, rfl⟩ := Pager.make?_eq_some.mp made
  rw [execute_of_isPage page shuffle fits] at executed
  obtain ⟨all, listed, rfl⟩ := Option.map_eq_some_iff.mp executed
  refine ⟨⟨all, listed⟩, several, first, ?_⟩
  have inside : (spec.page.toNat - 1) * spec.perPage.toNat < (s.count request.descriptor).toNat := by
    rw [toNat_count_of_small small, ← listing_length listed]
    exact Nat.lt_of_not_le (mt pageOf_eq_nil held)
  change spec.page.toNat ≤ _
  rw [PagerState.totalPages_make room]
  exact (PageSpec.le_last_iff room first).mpr inside

/-- The request for another page of the same listing is answered with the pager around that page. -/
theorem outcome_specFor (small : s.size < 2 ^ 63) (built : b.build p = .ok request) {text : String}
    (read : Fragment.pageSpec text = .ok spec) (listed : s.listing request.descriptor = some all)
    {target : Count} (first : 1 ≤ target.toNat)
    (several : 2 ≤ (PagerState.make spec (s.count request.descriptor)).totalPages.toNat)
    (last : target.toNat ≤ (PagerState.make spec (s.count request.descriptor)).totalPages.toNat)
    (shuffle : Shuffle) :
    let state := PagerState.make spec (s.count request.descriptor)
    ∃ output links, s.outcome shuffle b (p.insert "paged" (state.specFor target).toString) =
      .ok (.rendered output (some ⟨{ state with current := target }, links⟩)) := by
  intro state
  obtain ⟨_, room, _, regular⟩ := Fragment.pageSpec_sound read
  have width : (state.specFor target).perPage = spec.perPage :=
    PagerState.perPage_make (s.count request.descriptor) room
  have within : target.toNat ≤
      ((s.count request.descriptor).toNat + spec.perPage.toNat - 1) / spec.perPage.toNat := by
    rwa [← PagerState.totalPages_make room]
  have length : all.length = (s.count request.descriptor).toNat :=
    (listing_length listed).trans (toNat_count_of_small small request.descriptor).symm
  have short : (s.count request.descriptor).toNat < 2 ^ 63 := by
    rw [toNat_count_of_small small]
    exact Nat.lt_of_le_of_lt (s.length_hits_le request.descriptor) small
  have fits : target.toNat * (state.specFor target).perPage.toNat < 2 ^ 64 := by
    rw [width]
    exact PageSpec.fits_of_le_last room short (Count.toNat_lt _) within
  have written : Fragment.pageSpec (state.specFor target).toString = .ok (state.specFor target) :=
    Fragment.pageSpec_toString regular first (width ▸ room) fits
  obtain ⟨r, asks, page⟩ := b.build_page built written
  have held : pageOf all target.toNat (state.specFor target).perPage.toNat ≠ [] := by
    rw [width]
    exact pageOf_ne_nil room (length ▸ (PageSpec.le_last_iff room first).mp within)
  have made : Pager.make? (state.specFor target) (s.count request.descriptor) =
      some ⟨{ state with current := target }, ({ state with current := target } : PagerState).links⟩ := by
    rw [Pager.make?_eq_some, PagerState.make_specFor]
    exact ⟨several, rfl⟩
  obtain ⟨output, answered⟩ := outcome_of_isPage asks page fits listed held made shuffle
  exact ⟨output, _, answered⟩

/-- A pager is closed under its links. It counts what the request selects; the current page and the pages
that its links lead to lie within it, one of them is active if they are numbered, and following any of them
is answered with the same pager around the page of the link. -/
theorem pager_closed_under_links {clock : Id Instant} {ttl : Nat} (small : s.size < 2 ^ 63)
    (answered : ((s.dispatcher shuffle b clock ttl).dispatch none p).1 = .ok (.rendered output (some pager))) :
    (∃ request, b.build p = .ok request ∧
      pager.state.totalItems.toNat = (s.hits request.descriptor).length) ∧
    2 ≤ pager.state.totalPages.toNat ∧
    1 ≤ pager.state.current.toNat ∧ pager.state.current.toNat ≤ pager.state.totalPages.toNat ∧
    (∀ link ∈ pager.links, 1 ≤ link.target.toNat ∧ link.target.toNat ≤ pager.state.totalPages.toNat) ∧
    (pager.state.mode ≠ .simple →
      ∃ link, pager.links.filter (·.active) = [link] ∧ link.target = pager.state.current) ∧
    ∀ link ∈ pager.links, ∀ (shuffle : Shuffle) (clock : Id Instant) (ttl : Nat), ∃ output links,
      ((s.dispatcher shuffle b clock ttl).dispatch none (link.follow p)).1 =
        .ok (.rendered output (some ⟨{ pager.state with current := link.target }, links⟩)) := by
  rw [dispatch_fst] at answered
  obtain ⟨request, spec, ids, built, paged, executed, held, made⟩ := paged_of_rendered answered
  obtain ⟨page, text, read⟩ := b.isPage_self built paged
  obtain ⟨⟨all, listed⟩, placed⟩ := placed_of_executed small page read executed held made
  obtain ⟨several, rfl⟩ := Pager.make?_eq_some.mp made
  have counted := toNat_count_of_small small request.descriptor
  refine ⟨⟨request, built, counted⟩, several, placed.first, placed.last, ?_, ?_, ?_⟩
  · intro link member
    have leads := PagerState.leads_of_mem_links placed member
    exact ⟨leads.first, leads.last⟩
  · intro numbered
    exact ⟨_, PagerState.filter_active_links placed numbered, rfl⟩
  · intro link member shuffle clock ttl
    have leads := PagerState.leads_of_mem_links placed member
    obtain ⟨output, links, followed⟩ := outcome_specFor small built read listed leads.first several leads.last shuffle
    refine ⟨output, links, ?_⟩
    rw [dispatch_fst, PagerLink.follow, leads.spec]
    exact followed

theorem pager_of_three_records :
    let s := published [3, 5, 4] (by decide)
    let p : Params := .ofList [("paged", "2-1--restricted-3")]
    let client := s.dispatcher .still .standard (pure 0 : Id Instant) 60
    ∃ output pager, (client.dispatch none p).1 = .ok (.rendered output (some pager)) ∧
      pager.links.map (·.target) = [1, 1, 2, 3, 3] ∧
      ∀ link ∈ pager.links, ∃ output links, (client.dispatch none (link.follow p)).1 =
        .ok (.rendered output (some ⟨{ pager.state with current := link.target }, links⟩)) := by
  intro s p client
  let spec : PageSpec := ⟨2, 1, .restricted 3⟩
  let request := Builder.standard.finish (Builder.standard.draft p.entries)
  have built : Builder.standard.build p = .ok request := rfl
  have page : request.IsPage request spec := (Builder.isPage_self built (by decide +kernel)).1
  have listed : s.listing request.descriptor = some [3, 5, 4] := by decide +kernel
  have held : pageOf [3, 5, 4] spec.page.toNat spec.perPage.toNat ≠ [] := by decide +kernel
  have made : Pager.make? spec (s.count request.descriptor) =
      some ⟨.make spec 3, (PagerState.make spec 3).links⟩ := by decide +kernel
  obtain ⟨output, answered⟩ := outcome_of_isPage built page (by decide) listed held made .still
  have dispatched := (s.dispatch_fst .still .standard (pure 0) 60 p).trans answered
  obtain ⟨_, _, _, _, _, _, closed⟩ := pager_closed_under_links (by decide) dispatched
  exact ⟨_, _, dispatched, by decide +kernel, fun link member => closed link member .still (pure 0) 60⟩

end Store
end Listing
