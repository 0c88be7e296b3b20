import Listing.Proofs.Fragment.Terms
import Listing.Proofs.Store.Hits

/-!
What a category and its ignore list select. They put opposite tests on one field beside all else that a request asks
for, so that together they list what the request lists, and no record twice.
-/

namespace Listing

/-! ### Descriptors with one more group -/

namespace Descriptor
variable {d : Descriptor} {field : String} {terms : List Scalar} {record : Json}

def within (d : Descriptor) (field : String) (test : Test) : Descriptor :=
  { d with group := some (.single field test) }

theorem asks_within (bare : d.group = none) (test : Test) :
    (d.within field test).Asks record ↔
      d.Asks record ∧ Store.passesTest (Store.resolve record field) test = true := by
  have satisfied : (Group.single field test).toCondition.Satisfied record ↔
      Store.passesTest (Store.resolve record field) test = true := by
    rw [← Store.meets_iff]
    simp [Group.single, Group.toCondition, Condition.test, Store.meets, Store.meetsAll]
  constructor
  · rintro ⟨bundle, conditions, group, dates⟩
    refine ⟨⟨bundle, conditions, fun g held => ?_, dates⟩, satisfied.mp (group _ rfl)⟩
    rw [bare] at held
    cases held
  · rintro ⟨⟨bundle, conditions, -, dates⟩, passed⟩
    refine ⟨bundle, conditions, ?_, dates⟩
    rintro _ ⟨⟩
    exact satisfied.mpr passed

/-- Of the records that are asked for, the terms of a list are under some and not under the others. -/
theorem asks_split (bare : d.group = none) (field : String) (terms : List Scalar) (record : Json) :
    (d.Asks record ↔ (d.within field (.isIn terms)).Asks record ∨ (d.within field (.notIn terms)).Asks record) ∧
      ¬((d.within field (.isIn terms)).Asks record ∧ (d.within field (.notIn terms)).Asks record) := by
  rw [asks_within bare, asks_within bare]
  have opposite : Store.passesTest (Store.resolve record field) (.notIn terms) =
      !Store.passesTest (Store.resolve record field) (.isIn terms) := rfl
  rw [opposite]
  cases Store.passesTest (Store.resolve record field) (.isIn terms) <;> simp

end Descriptor

namespace Store
variable {d d' d'' : Descriptor} {s : Store} {all : List Count}

/-! ### Listings in two parts -/

/-- Two descriptors that divide between them what a third asks for divide its hits. -/
theorem hits_split (s : Store) (split : ∀ record, (d.Asks record ↔ d'.Asks record ∨ d''.Asks record) ∧
    ¬(d'.Asks record ∧ d''.Asks record)) :
    (s.hits d' ++ s.hits d'').Perm (s.hits d) := by
  have first : s.hits d' = (s.hits d).filter fun entry => d'.Asks entry.2 := by
    unfold hits
    rw [List.filter_filter]
    refine List.filter_congr fun entry _ => ?_
    have own := (split entry.2).1
    by_cases asked : d'.Asks entry.2 <;> simp [asked, own]
  have second : s.hits d'' = (s.hits d).filter fun entry => !decide (d'.Asks entry.2) := by
    unfold hits
    rw [List.filter_filter]
    refine List.filter_congr fun entry _ => ?_
    obtain ⟨own, apart⟩ := split entry.2
    by_cases asked : d'.Asks entry.2 <;> by_cases other : d''.Asks entry.2 <;> simp_all
  rw [first, second]
  exact List.filter_append_perm _ _

theorem listing_split {front back : List Count} (parts : (s.hits d' ++ s.hits d'').Perm (s.hits d))
    (listed : s.listing d' = some front) (listed' : s.listing d'' = some back) (whole : s.listing d = some all) :
    (front ++ back).Perm all :=
  calc front ++ back
    _ |>.Perm ((s.hits d').map Prod.fst ++ (s.hits d'').map Prod.fst) :=
      (listing_perm listed).append (listing_perm listed')
    _ |>.Perm ((s.hits d).map Prod.fst) := List.map_append ▸ parts.map Prod.fst
    _ |>.Perm all := (listing_perm whole).symm

end Store

/-! ### Requests with a category -/

/-- What an ignore list excludes a category admits, under the same field, unless it mentions `all`. -/
theorem Fragment.category_of_categoryIgnore {text : String} {g : Group} (read : categoryIgnore text = .ok g)
    (bounded : ¬"all".toList <:+: text.toList) :
    ∃ field terms, g = .single field (.notIn terms) ∧ category text = .ok (some (.single field (.isIn terms))) := by
  have solid := solid_of_required read
  have value (key : Key) : required key text = .ok (Text.trim text.toList) := required_eq_ok.mpr ⟨solid, rfl⟩
  have silent : ¬Text.occurs everything (Text.trim text.toList) = true := by
    intro mentioned
    obtain ⟨lead, trail, whole, -⟩ := Text.exists_of_trim text.toList
    exact bounded ((Text.occurs_iff_infix.mp mentioned).trans ⟨lead, trail, whole.symm⟩)
  rw [categoryIgnore_eq (value .categoryIgnore)] at read
  obtain ⟨field, terms, restricts, rfl⟩ := map_fieldTerms_eq_ok.mp read
  refine ⟨_, _, rfl, ?_⟩
  rw [category_eq (value .category), if_neg silent]
  exact map_fieldTerms_eq_ok.mpr ⟨field, terms, restricts, rfl⟩

def Params.Uncategorized (p : Params) : Prop :=
  "category" ∉ p.keys ∧ "categories" ∉ p.keys ∧ "category_ignore" ∉ p.keys

instance (p : Params) : Decidable p.Uncategorized := inferInstanceAs (Decidable (_ ∧ _ ∧ _))

namespace Builder
variable {b : Builder} {p : Params} {text : String} {r : ParsedRequest} {field : String} {terms : List Scalar}

theorem groups_of_uncategorized (free : p.Uncategorized) :
    (b.draft p.entries).descriptor.group = none ∧ (b.draft p.entries).ignored = none := by
  obtain ⟨one, several, ignored⟩ := free
  have category : (b.draft p.entries).Agree b.blank .category :=
    draft_unset (List.forall_mem_cons.mpr ⟨one, List.forall_mem_singleton.mpr several⟩)
  have ignore : (b.draft p.entries).Agree b.blank .ignored := draft_unset (List.forall_mem_singleton.mpr ignored)
  exact ⟨category, ignore⟩

theorem build_insert_of_fresh {key : String} {c : Change} (built : b.build p = .ok r) (fresh : key ∉ p.keys)
    (change : b.changeOf (key, text) = .ok c) :
    b.build (p.insert key text) = .ok (b.finish ((b.draft p.entries).apply c)) := by
  unfold build
  rw [foldlM_take_insert fresh change, foldlM_take_eq_ok.mpr ⟨(build_eq_ok.mp built).1, rfl⟩]
  rfl

theorem build_category (built : b.build p = .ok r) (free : p.Uncategorized)
    (admitted : Fragment.category text = .ok (some (.single field (.isIn terms))))
    (ignored : Fragment.categoryIgnore text = .ok (.single field (.notIn terms))) :
    r.descriptor.group = none ∧
      b.build (p.insert "category" text) = .ok { r with descriptor := r.descriptor.within field (.isIn terms) } ∧
      b.build (p.insert "category_ignore" text) =
        .ok { r with descriptor := r.descriptor.within field (.notIn terms) } := by
  have solid := Fragment.solid_of_required ignored
  have category : b.changeOf ("category", text) = .ok (.category (.single field (.isIn terms))) := by
    have read : b.change text .category = .ok (.category (.single field (.isIn terms))) := by
      rw [change, admitted]
      rfl
    exact changeOf_of_change solid read
  have ignore : b.changeOf ("category_ignore", text) = .ok (.ignore (.single field (.notIn terms))) := by
    have read : b.change text .categoryIgnore = .ok (.ignore (.single field (.notIn terms))) := by
      rw [change, ignored]
      rfl
    exact changeOf_of_change solid read
  obtain ⟨ungrouped, unignored⟩ := groups_of_uncategorized (b := b) free
  rw [build_insert_of_fresh built free.1 category, build_insert_of_fresh built free.2.2 ignore]
  obtain ⟨-, rfl⟩ := build_eq_ok.mp built
  refine ⟨?_, rfl, ?_⟩
  · simp only [finish, ungrouped, unignored]
  · simp only [finish, Draft.apply, ungrouped, Descriptor.within]

end Builder

namespace Store
variable {b : Builder} {p : Params} {r : ParsedRequest} {text : String} {g : Group}

/-- A category and the same text as an ignore list divide between them what a request without either asks for. Each
record is matched, and listed, by just one of the two, and the counts add up. If the records of the request are in one
order then all three are listed. -/
theorem category_splits_listing (s : Store) (built : b.build p = .ok r) (free : p.Uncategorized)
    (read : Fragment.categoryIgnore text = .ok g) (bounded : ¬"all".toList <:+: text.toList) :
    ∃ admitted ignored,
      b.build (p.insert "category" text) = .ok admitted ∧ b.build (p.insert "category_ignore" text) = .ok ignored ∧
      (∀ record, (r.descriptor.Asks record ↔ admitted.descriptor.Asks record ∨ ignored.descriptor.Asks record) ∧
        ¬(admitted.descriptor.Asks record ∧ ignored.descriptor.Asks record)) ∧
      ((s.hits admitted.descriptor).map Prod.fst).Disjoint ((s.hits ignored.descriptor).map Prod.fst) ∧
      (s.hits admitted.descriptor ++ s.hits ignored.descriptor).Perm (s.hits r.descriptor) ∧
      (∀ front back, s.listing admitted.descriptor = some front → s.listing ignored.descriptor = some back →
        front.Disjoint back ∧ ∀ all, s.listing r.descriptor = some all → (front ++ back).Perm all) ∧
      (TransOn (compareEntries r.descriptor.sort) (s.hits r.descriptor) → ∃ front back all,
        s.listing admitted.descriptor = some front ∧ s.listing ignored.descriptor = some back ∧
        s.listing r.descriptor = some all) ∧
      -- A count says less than the size only of a store that no memory holds.
      (s.size ≤ Count.top.toNat →
        (s.count admitted.descriptor).toNat + (s.count ignored.descriptor).toNat =
          (s.count r.descriptor).toNat) := by
  obtain ⟨field, terms, rfl, restricted⟩ := Fragment.category_of_categoryIgnore read bounded
  obtain ⟨bare, category, ignore⟩ := Builder.build_category built free restricted read
  have split := r.descriptor.asks_split bare field terms
  have parts := s.hits_split split
  have apart : ((s.hits (r.descriptor.within field (.isIn terms))).map Prod.fst).Disjoint
      ((s.hits (r.descriptor.within field (.notIn terms))).map Prod.fst) := by
    refine List.disjoint_of_nodup_append ?_
    rw [← List.map_append]
    exact (parts.map Prod.fst).nodup_iff.mpr (s.hits_nodup r.descriptor)
  refine ⟨_, _, category, ignore, split, apart, parts, ?_, ?_, fun small => ?_⟩
  · intro front back listed listed'
    refine ⟨fun id inFront inBack => ?_, fun all => listing_split parts listed listed'⟩
    exact apart ((listing_perm listed).mem_iff.mp inFront) ((listing_perm listed').mem_iff.mp inBack)
  · intro trans
    have transFront := trans.mono fun _ hit => parts.subset (List.mem_append_left _ hit)
    have transBack := trans.mono fun _ hit => parts.subset (List.mem_append_right _ hit)
    obtain ⟨front, listed⟩ := exists_listing transFront
    obtain ⟨back, listed'⟩ := exists_listing transBack
    obtain ⟨all, whole⟩ := exists_listing trans
    exact ⟨front, back, all, listed, listed', whole⟩
  · rw [toNat_count_of_size small, toNat_count_of_size small, toNat_count_of_size small, ← List.length_append,
      parts.length_eq]

/-- Values that are no scalars, and no values, are on no list. -/
theorem mixed_terms_split :
    let tagged (id : Count) (tags : Json) : Count × Json :=
      (id, .object [("nid", .ofCount id), ("status", .ofNat 1), ("tags", tags), ("type", .text "page")])
    let s : Store :=
      ⟨"nid", .ofList [tagged 1 (.array [.text "x", .text "y"]), tagged 2 (.array [.object [], .text "7"]),
        tagged 3 .null, tagged 4 (.text "z"), tagged 5 (.ofNat 7)]⟩
    let p : Params := .ofList [("sort", "nid-DESC")]
    let text := " tags--x-007"
    p.Uncategorized ∧ ¬"all".toList <:+: text.toList ∧ ∃ r g admitted ignored,
      Builder.standard.build p = .ok r ∧ Fragment.categoryIgnore text = .ok g ∧
      Builder.standard.build (p.insert "category" text) = .ok admitted ∧
      Builder.standard.build (p.insert "category_ignore" text) = .ok ignored ∧
      s.listing admitted.descriptor = some [5, 2, 1] ∧ s.listing ignored.descriptor = some [4, 3] ∧
      ∃ all, s.listing r.descriptor = some all ∧ [5, 2, 1, 4, 3].Perm all := by
  intro tagged s p text
  have free : p.Uncategorized := by decide
  have bounded : ¬"all".toList <:+: text.toList := mt Text.occurs_iff_infix.mpr (by decide)
  obtain ⟨r, built⟩ : ∃ r, Builder.standard.build p = .ok r := ⟨_, rfl⟩
  have restricts : Fragment.IsRestriction "tags--x-007".toList "tags".toList ["x".toList, "007".toList] :=
    ⟨Fragment.parts_iff.mpr ⟨"x-007".toList, by decide, by decide⟩, by decide⟩
  have value : Fragment.required .categoryIgnore text = .ok "tags--x-007".toList :=
    Fragment.required_eq_ok.mpr ⟨by decide, by decide⟩
  have read := (Fragment.categoryIgnore_eq value).trans (Fragment.map_fieldTerms_eq_ok.mpr ⟨_, _, restricts, rfl⟩)
  obtain ⟨admitted, ignored, category, ignore, -, -, -, parts, total, -⟩ :=
    s.category_splits_listing built free read bounded
  have listings :
      (Builder.standard.build (p.insert "category" text)).map (s.listing ·.descriptor) = .ok (some [5, 2, 1]) ∧
      (Builder.standard.build (p.insert "category_ignore" text)).map (s.listing ·.descriptor) =
        .ok (some [4, 3]) := by
    decide +kernel
  rw [category, ignore] at listings
  have listed := Except.ok.inj listings.1
  have listed' := Except.ok.inj listings.2
  have trans : TransOn (compareEntries r.descriptor.sort) (s.hits r.descriptor) := by
    obtain ⟨-, rfl⟩ := Builder.build_eq_ok.mp built
    decide +kernel
  obtain ⟨_, _, all, _, _, whole⟩ := total trans
  exact ⟨free, bounded, r, _, admitted, ignored, built, read, category, ignore, listed, listed', all, whole,
    (parts _ _ listed listed').2 all whole⟩

end Store
end Listing
