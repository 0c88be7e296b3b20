import Listing.Proofs.Query.Requests

/-!
Requests with a page. A page put into a request leaves all that the request selects, and settles the window
and the order. Neither a window nor a random order of the request itself matters to what it selects.
-/

namespace Listing

/-- A request for one page of what another request selects. -/
structure ParsedRequest.IsPage (r request : ParsedRequest) (spec : PageSpec) : Prop where
  alike : r.descriptor.Alike request.descriptor
  viewMode : r.viewMode = request.viewMode
  pager : r.pager = some spec
  window : r.descriptor.window = spec.window
  settled : r.descriptor.random = false

namespace Builder
variable {b : Builder}

theorem changeOf_paged {text : String} {spec : PageSpec} (read : Fragment.pageSpec text = .ok spec) :
    b.changeOf ("paged", text) = .ok (.page spec) := by
  have change : b.change text .paged = .ok (.page spec) := by
    rw [Builder.change, read]
    rfl
  exact changeOf_of_change (Fragment.solid_of_required read) change

theorem pageSpec_of_effect {entry : String × String} {spec : PageSpec} (page : b.effect entry = .page spec) :
    Fragment.pageSpec entry.2 = .ok spec := by
  have set : Part.page ∈ (b.effect entry).parts := by simp [page, Change.parts]
  obtain ⟨key, writes, name⟩ := effect_writers set
  obtain rfl := List.mem_singleton.mp writes
  have named : Key.ofName? entry.1 = some .paged := name ▸ Key.ofName?_name .paged
  unfold effect changeOf at page
  rw [named] at page
  by_cases blank : Text.isBlank entry.2.toList = true
  · simp only [blank, if_true] at page
    cases page
  · simp only [blank, change] at page
    cases read : Fragment.pageSpec entry.2 with
    | error =>
      rw [read] at page
      cases page
    | ok own =>
      rw [read] at page
      cases page
      rfl

theorem pager_of_foldl {entries : List (String × String)} {d : Draft} {spec : PageSpec}
    (paged : ((entries.map b.effect).foldl Draft.apply d).pager = some spec) :
    d.pager = some spec ∨ ∃ entry ∈ entries, b.effect entry = .page spec := by
  induction entries generalizing d with
  | nil => exact .inl paged
  | cons entry rest ih =>
    rcases ih (d := d.apply (b.effect entry)) paged with now | ⟨other, member, page⟩
    · cases c : b.effect entry with
      | page own =>
        rw [c] at now
        obtain rfl := Option.some.inj now
        exact .inr ⟨entry, List.mem_cons_self, c⟩
      | _ =>
        have unset : Part.page ∉ (b.effect entry).parts := by simp [c, Change.parts]
        have same : (d.apply (b.effect entry)).pager = d.pager := Draft.apply_frame d unset
        exact .inl (same.symm.trans now)
    · exact .inr ⟨other, List.mem_cons_of_mem _ member, page⟩

/-- A page that a draft holds has been read from one of the parameters. -/
theorem exists_pageSpec {entries : List (String × String)} {spec : PageSpec}
    (paged : (b.draft entries).pager = some spec) :
    ∃ entry ∈ entries, Fragment.pageSpec entry.2 = .ok spec := by
  rcases pager_of_foldl paged with blank | ⟨entry, member, page⟩
  · cases blank
  · exact ⟨entry, member, pageSpec_of_effect page⟩

theorem isPage_self {p : Params} {request : ParsedRequest} {spec : PageSpec} (built : b.build p = .ok request)
    (paged : request.pager = some spec) :
    request.IsPage request spec ∧ ∃ text, Fragment.pageSpec text = .ok spec := by
  obtain ⟨_, rfl⟩ := build_eq_ok.mp built
  obtain ⟨window, settled, pager⟩ := b.finish_paged paged
  obtain ⟨entry, _, read⟩ := exists_pageSpec paged
  exact ⟨⟨⟨rfl, rfl, rfl, fun _ => rfl, rfl, rfl, rfl⟩, rfl, pager, window, settled⟩, entry.2, read⟩

theorem build_page {p : Params} {request : ParsedRequest} {text : String} {spec : PageSpec}
    (built : b.build p = .ok request) (read : Fragment.pageSpec text = .ok spec) :
    ∃ r, b.build (p.insert "paged" text) = .ok r ∧ r.IsPage request spec := by
  obtain ⟨accepted, rfl⟩ := build_eq_ok.mp built
  have change := changeOf_paged (b := b) read
  have all := accepts_insert (fun entry member _ => accepted entry member) ⟨_, change⟩
  have alone : ∀ writer ∈ Part.page.writers, writer.name ≠ "paged" → writer.name ∉ p.keys := by
    intro writer writes other
    obtain rfl := List.mem_singleton.mp writes
    exact absurd rfl other
  have last : (b.draft (p.insert "paged" text).entries).Agree (b.blank.apply (.page spec)) .page :=
    draft_insert_set alone change (List.mem_singleton_self _)
  have others : ∀ part, part ≠ .page → part ≠ .window → part ≠ .random →
      (b.draft (p.insert "paged" text).entries).Agree (b.draft p.entries) part := by
    intro part notPage _ _
    have other : Key.paged ∉ part.writers := fun writes => notPage (Part.paged_mem_writers.mp writes)
    exact draft_insert_agree (Part.name_ne .paged other)
  obtain ⟨alike, viewMode⟩ := b.finish_alike others
  obtain ⟨window, settled, pager⟩ := b.finish_paged last
  exact ⟨_, build_eq_ok.mpr ⟨all, rfl⟩, ⟨alike, viewMode, pager, window, settled⟩⟩

end Builder

/-! ### Windows and random orders -/

def Params.bare (p : Params) : Params where
  entries := p.entries.filter fun entry => entry.1 ≠ "range" ∧ entry.1 ≠ "random"
  nodup := p.nodup.sublist (List.filter_sublist.map Prod.fst)

/-- Neither a window nor a random order makes a difference to what a request selects. -/
theorem Builder.build_bare {b : Builder} {p : Params} {request : ParsedRequest}
    (built : b.build p = .ok request) :
    ∃ bare, b.build p.bare = .ok bare ∧ bare.descriptor.Alike request.descriptor ∧
      bare.viewMode = request.viewMode := by
  obtain ⟨accepted, rfl⟩ := build_eq_ok.mp built
  refine ⟨_, build_eq_ok.mpr ⟨?_, rfl⟩, ?_⟩
  · intro entry member
    exact accepted entry (List.mem_filter.mp member).1
  · apply b.finish_alike
    intro part _ notWindow notRandom
    apply draft_agree
    apply history_filter
    intro entry _ dropped
    by_cases ranged : entry.1 = "range"
    · have other : Key.range ∉ part.writers := fun writes => notWindow (Part.range_mem_writers.mp writes)
      exact effect_unset (ranged ▸ Part.name_ne .range other)
    · have shuffled : entry.1 = "random" := by simpa [ranged] using dropped
      have other : Key.random ∉ part.writers := fun writes => notRandom (Part.random_mem_writers.mp writes)
      exact effect_unset (shuffled ▸ Part.name_ne .random other)

end Listing
