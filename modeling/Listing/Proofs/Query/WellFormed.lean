import Listing.Proofs.Fragment.DateReaders
import Listing.Proofs.Paging.Grammar
import Listing.Proofs.Paging.Links
import Listing.Proofs.Query.Requests

/-!
What every built request looks like. Each parameter is read into a change that is in shape, a change in shape
leaves a draft in shape, and so a draft is in shape after any parameters in any order. Finishing it settles the
window, the order and the bundle field.
-/

namespace Listing

theorem Bundle.two_le_of_ofList {names many : List String} (made : Bundle.ofList names = .many many) :
    2 ≤ many.length := by
  match names with
  | [] | [_] => cases made
  | _ :: _ :: _ =>
    cases made
    exact Nat.le_add_left _ _

theorem PageSpec.Valid.window_bounded {spec : PageSpec} (valid : spec.Valid) : spec.window.Bounded := by
  refine ⟨valid.room, ?_⟩
  rw [toNat_window_start valid.fits]
  change (spec.page.toNat - 1) * spec.perPage.toNat + spec.perPage.toNat < 2 ^ 64
  rw [← Nat.succ_mul, Nat.succ_eq_add_one, Nat.sub_add_cancel valid.first]
  exact valid.fits

structure ParsedRequest.WellFormed (settings : QuerySettings) (r : ParsedRequest) : Prop where
  window : r.descriptor.window.Bounded
  conditions : ∀ entry ∈ r.descriptor.conditions.entries, entry.2.Shaped
  group : ∀ g, r.descriptor.group = some g → g.WellFormed
  dates : ∀ g, r.descriptor.dates = some g → g.WellFormed
  bundle : ∀ names, r.descriptor.bundle = .many names → 2 ≤ names.length
  bundleField : r.descriptor.bundleField = settings.bundleField r.descriptor.entityKind
  /-- A page leaves no say to a random order or to another window. -/
  page : ∀ spec, r.pager = some spec →
    r.descriptor.random = false ∧ r.descriptor.window = spec.window ∧
      spec.window.start.toNat = (spec.page.toNat - 1) * spec.perPage.toNat ∧
      1 ≤ spec.page.toNat ∧ 1 ≤ spec.perPage.toNat ∧
      ∀ size, spec.mode = .restricted size → size.toNat % 2 = 1

/-! ### Changes -/

def Change.WellFormed : Change → Prop
  | bundle made => ∀ names, made = .many names → 2 ≤ names.length
  | require leaves => ∀ leaf ∈ leaves, leaf.test.Shaped
  | window w => w.Bounded
  | page spec => spec.Valid
  | category g | ignore g | dates g => g.WellFormed
  | nothing | entityKind _ | viewMode _ | sort _ | random _ => True

namespace Builder
variable {b : Builder} {raw : String}

/-- Dates that are taken are an overlap, of the days that are read or of those from today on. -/
theorem dates_wellFormed {key : Key} {read : DateFormats → String → Except FragmentError Group}
    (reader : Fragment.DateReader key read) {g : Group} (made : b.dates read raw = .ok g) : g.WellFormed := by
  have overlap : ∃ field start finish, g = Fragment.overlapOf field start finish := by
    unfold dates at made
    split at made
    · rename_i found
      obtain ⟨_, _, _, _, made⟩ := reader.made (found.trans made)
      exact ⟨_, Fragment.overlap_made made⟩
    · unfold recover at made
      split at made
      · simp only at made
        split at made
        · cases made
        · exact ⟨_, Fragment.fallback_made made⟩
      · cases made
  obtain ⟨field, start, finish, rfl⟩ := overlap
  exact Fragment.overlapOf_wellFormed field start finish

/-- Each key reads its value by a grammar of its own, and none of them reads anything out of shape. -/
theorem change_wellFormed {key : Key} {c : Change} (read : b.change raw key = .ok c) : c.WellFormed := by
  cases key with
  | entityType | viewMode | random =>
    cases read
    trivial
  | contentType =>
    cases read
    exact fun _ => Bundle.two_le_of_ofList
  | sticky | nid =>
    obtain ⟨_, _, rfl⟩ := map_eq_ok read
    exact List.forall_mem_singleton.mpr trivial
  | nids =>
    obtain ⟨_, ids, rfl⟩ := map_eq_ok read
    exact List.forall_mem_singleton.mpr (Fragment.idList_ne_nil ids)
  | sort =>
    obtain ⟨_, _, rfl⟩ := map_eq_ok read
    trivial
  | range =>
    obtain ⟨_, window, rfl⟩ := map_eq_ok read
    exact Fragment.window_bounded window
  | paged =>
    obtain ⟨_, page, rfl⟩ := map_eq_ok read
    exact (Fragment.pageSpec_eq_ok.mp page).2
  | field =>
    obtain ⟨_, tests, rfl⟩ := map_eq_ok read
    exact Fragment.fieldTests_shaped tests
  | address =>
    obtain ⟨_, search, rfl⟩ := map_eq_ok read
    exact List.forall_mem_singleton.mpr (Fragment.address_shaped search)
  | category =>
    obtain ⟨group?, group, rfl⟩ := map_eq_ok read
    cases group? with
    | none => trivial
    | some => exact Fragment.category_wellFormed group
  | categories =>
    obtain ⟨group?, group, rfl⟩ := map_eq_ok read
    cases group? with
    | none => trivial
    | some => exact Fragment.categories_wellFormed group
  | categoryIgnore =>
    obtain ⟨_, group, rfl⟩ := map_eq_ok read
    exact Fragment.categoryIgnore_wellFormed group
  | date =>
    obtain ⟨_, group, rfl⟩ := map_eq_ok read
    exact dates_wellFormed .window group
  | byMonth =>
    obtain ⟨_, group, rfl⟩ := map_eq_ok read
    exact dates_wellFormed .month group

theorem effect_wellFormed (b : Builder) (entry : String × String) : (b.effect entry).WellFormed := by
  unfold effect changeOf
  cases Key.ofName? entry.1 with
  | none => trivial
  | some key =>
    cases Text.isBlank entry.2.toList with
    | true => trivial
    | false =>
      simp only [Bool.false_eq_true, if_false]
      cases read : b.change entry.2 key with
      | error => trivial
      | ok c => exact change_wellFormed read

end Builder

/-! ### Drafts -/

structure Draft.WellFormed (d : Draft) : Prop where
  conditions : ∀ entry ∈ d.descriptor.conditions.entries, entry.2.Shaped
  group : ∀ g, d.descriptor.group = some g → g.WellFormed
  ignored : ∀ g, d.ignored = some g → g.WellFormed
  dates : ∀ g, d.descriptor.dates = some g → g.WellFormed
  bundle : ∀ names, d.descriptor.bundle = .many names → 2 ≤ names.length
  usual : d.descriptor.window.Bounded
  window : ∀ w, d.window = some w → w.Bounded
  page : ∀ spec, d.pager = some spec → spec.Valid

namespace Draft
variable {d : Draft}

theorem WellFormed.requireAll (sound : d.WellFormed) {leaves : List Leaf}
    (shaped : ∀ leaf ∈ leaves, leaf.test.Shaped) : (d.requireAll leaves).WellFormed := by
  unfold Draft.requireAll
  induction leaves generalizing d with
  | nil => exact sound
  | cons leaf rest ih =>
    obtain ⟨own, later⟩ := List.forall_mem_cons.mp shaped
    have bound := OrderedMap.forall_insert (P := fun _ => Test.Shaped) sound.conditions leaf.field own
    exact ih { sound with conditions := bound } later

theorem WellFormed.apply (sound : d.WellFormed) {c : Change} (new : c.WellFormed) : (d.apply c).WellFormed := by
  cases c with
  | nothing => exact sound
  | entityKind | viewMode | sort | random => exact { sound with }
  | bundle => exact { sound with bundle := new }
  | require => exact sound.requireAll new
  | window => exact { sound with window := fun _ own => Option.some.inj own ▸ new }
  | page => exact { sound with page := fun _ own => Option.some.inj own ▸ new }
  | category => exact { sound with group := fun _ own => Option.some.inj own ▸ new }
  | ignore => exact { sound with ignored := fun _ own => Option.some.inj own ▸ new }
  | dates => exact { sound with dates := fun _ own => Option.some.inj own ▸ new }

theorem WellFormed.foldl_apply (sound : d.WellFormed) {cs : List Change} (new : ∀ c ∈ cs, c.WellFormed) :
    (cs.foldl Draft.apply d).WellFormed := by
  induction cs generalizing d with
  | nil => exact sound
  | cons c rest ih =>
    obtain ⟨own, later⟩ := List.forall_mem_cons.mp new
    exact ih (sound.apply own) later

end Draft

/-! ### Requests -/

namespace Builder
variable {b : Builder}

theorem blank_wellFormed (usual : b.settings.window.Bounded) : b.blank.WellFormed where
  conditions := by
    unfold blank
    cases b.settings.status with
    | none => exact List.forall_mem_nil _
    | some status => exact OrderedMap.forall_insert (P := fun _ => Test.Shaped) (List.forall_mem_nil _) _ trivial
  group := nofun
  ignored := nofun
  dates := nofun
  bundle := by
    unfold blank
    cases b.settings.bundle <;> exact nofun
  usual := usual
  window := nofun
  page := nofun

theorem draft_wellFormed (usual : b.settings.window.Bounded) (entries : List (String × String)) :
    (b.draft entries).WellFormed := by
  apply (blank_wellFormed usual).foldl_apply
  intro c member
  obtain ⟨entry, _, rfl⟩ := List.mem_map.mp member
  exact b.effect_wellFormed entry

/-- A page goes before a window, and a window before the usual one. -/
theorem finish_window_bounded {d : Draft} (sound : d.WellFormed) : (b.finish d).descriptor.window.Bounded := by
  simp only [finish]
  cases page : d.pager with
  | some spec => exact (sound.page spec page).window_bounded
  | none =>
    cases window : d.window with
    | some w => exact sound.window w window
    | none => exact sound.usual

theorem finish_wellFormed {d : Draft} (sound : d.WellFormed) : (b.finish d).WellFormed b.settings where
  window := finish_window_bounded sound
  conditions := sound.conditions
  group := by
    intro g found
    simp only [finish] at found
    cases category : d.descriptor.group with
    | some own =>
      rw [category] at found
      exact sound.group g (category.trans found)
    | none =>
      rw [category] at found
      exact sound.ignored g found
  dates := sound.dates
  bundle := sound.bundle
  bundleField := rfl
  page := by
    intro spec paged
    obtain ⟨window, settled, _⟩ := b.finish_paged paged
    obtain ⟨first, room, fits, regular⟩ := sound.page spec paged
    refine ⟨settled, window, PageSpec.toNat_window_start fits, first, room, ?_⟩
    intro size mode
    rwa [mode] at regular

/-- Whatever the parameters and their order, a request that is built is well formed, if the window of the
settings is. -/
theorem build_wellFormed {p : Params} {r : ParsedRequest} (usual : b.settings.window.Bounded)
    (built : b.build p = .ok r) : r.WellFormed b.settings := by
  obtain ⟨_, rfl⟩ := build_eq_ok.mp built
  exact finish_wellFormed (draft_wellFormed usual p.entries)

theorem wellFormed_page_of_events :
    let p : Params := .ofList [("content_type", "event,page"), ("random", "1"), ("range", "5-5"),
      ("paged", "3-10--restricted-5"), ("date", "field_date--2024-01-01,2024-01-31"),
      ("category_ignore", "field_tags--1-2"), ("field", "price--3-7--BETWEEN,nid--1-2--NOT IN"),
      ("entity_type", "media")]
    Builder.standard.settings.window.Bounded ∧ ∃ r, Builder.standard.build p = .ok r ∧
      r.WellFormed Builder.standard.settings ∧ r.pager = some ⟨3, 10, .restricted 5⟩ ∧
      r.descriptor.window = ⟨20, 10⟩ ∧ r.descriptor.bundle = .many ["event", "page"] ∧
      r.descriptor.group.isSome ∧ r.descriptor.dates.isSome ∧ r.descriptor.bundleField = "bundle" := by
  intro p
  have usual : Builder.standard.settings.window.Bounded := ⟨by decide, by decide⟩
  have built : Builder.standard.build p = .ok (Builder.standard.finish (Builder.standard.draft p.entries)) := rfl
  exact ⟨usual, _, built, build_wellFormed usual built, rfl, rfl, rfl, rfl, rfl, rfl⟩

end Builder
end Listing
