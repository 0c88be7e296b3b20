import Listing.Proofs.Fragment.Field
import Listing.Proofs.Query.Requests
import Listing.Serving.Route

/-!
What the category of a route reaches. A category only adds tests to the request. One term is the operand of one
test, on the category field, so two such categories make requests that are equal but for that test. A comma in
the category starts a test on any field.
-/

namespace Listing

/-! ### Requests with more tests -/

namespace ParsedRequest

def requireAll (r : ParsedRequest) (leaves : List Leaf) : ParsedRequest :=
  { r with
    descriptor.conditions :=
      leaves.foldl (fun conditions leaf => conditions.insert leaf.field leaf.test) r.descriptor.conditions }

def untested (r : ParsedRequest) : ParsedRequest := { r with descriptor.conditions := ∅ }

/-- Two requests that are equal but for the test on one field: whether there is one, and which. -/
structure SameBut (field : String) (r r' : ParsedRequest) : Prop where
  untested : r.untested = r'.untested
  others : r.descriptor.conditions.entries.filter (·.1 ≠ field) =
    r'.descriptor.conditions.entries.filter (·.1 ≠ field)

namespace SameBut
variable {field : String} {r r' r'' : ParsedRequest}

theorem refl (field : String) (r : ParsedRequest) : r.SameBut field r := ⟨rfl, rfl⟩

theorem symm (same : r.SameBut field r') : r'.SameBut field r := ⟨same.untested.symm, same.others.symm⟩

theorem trans (first : r.SameBut field r') (second : r'.SameBut field r'') : r.SameBut field r'' :=
  ⟨first.untested.trans second.untested, first.others.trans second.others⟩

theorem require (r : ParsedRequest) (leaf : Leaf) : (r.requireAll [leaf]).SameBut leaf.field r := by
  refine ⟨rfl, ?_⟩
  obtain ⟨before, after, whole, others⟩ := r.descriptor.conditions.entries_insert leaf.field leaf.test
  unfold requireAll
  rw [List.foldl_cons, List.foldl_nil, whole, List.filter_append, List.filter_cons_of_neg (by simp),
    ← List.filter_append, others, List.filter_filter]
  simp only [Bool.and_self]

end SameBut
end ParsedRequest

namespace Builder
variable {b : Builder} {p : Params} {text : String} {leaves : List Leaf}

theorem fieldTests_of_changeOf {c : Change} (solid : Text.isBlank text.toList = false)
    (read : b.changeOf ("field", text) = .ok c) : ∃ leaves, Fragment.fieldTests text = .ok leaves := by
  have named : Key.ofName? "field" = some .field := by decide
  simp only [changeOf, named, solid, change] at read
  cases tests : Fragment.fieldTests text with
  | ok leaves => exact ⟨leaves, rfl⟩
  | error =>
    rw [tests] at read
    cases read

theorem entries_insert_field (fresh : "field" ∉ p.keys) :
    (p.insert "field" text).entries = p.entries ++ [("field", text)] :=
  OrderedMap.put_of_notMem text fresh

theorem build_insert_field (fresh : "field" ∉ p.keys) (read : Fragment.fieldTests text = .ok leaves) :
    b.build (p.insert "field" text) = (b.build p).map (·.requireAll leaves) := by
  unfold build
  rw [foldlM_take_insert fresh (changeOf_field read)]
  cases p.entries.foldlM b.take b.blank with
  | error => rfl
  | ok d =>
    change Except.ok (b.finish (d.requireAll leaves)) = _
    rw [Draft.requireAll_eq]
    rfl

theorem requireAll_of_build {r : ParsedRequest} (fresh : "field" ∉ p.keys)
    (solid : Text.isBlank text.toList = false) (built : b.build (p.insert "field" text) = .ok r) :
    ∃ bare leaves, b.build p = .ok bare ∧ r = bare.requireAll leaves := by
  obtain ⟨accepted, _⟩ := build_eq_ok.mp built
  have member : ("field", text) ∈ (p.insert "field" text).entries := by
    rw [entries_insert_field fresh]
    exact List.mem_append_right _ List.mem_cons_self
  obtain ⟨c, change⟩ := accepted _ member
  obtain ⟨leaves, read⟩ := fieldTests_of_changeOf solid change
  rw [build_insert_field fresh read] at built
  obtain ⟨bare, base, rfl⟩ := map_eq_ok built
  exact ⟨bare, leaves, base, rfl⟩

end Builder

namespace Route
variable {b : Builder} {contentType viewMode : String} {page perPage : Count} {category category' : Option String}

def OneTerm (category : Option String) : Prop := ∀ term, activeCategory? category = some term → ',' ∉ term.toList

def categoryText (term : String) : List Char := Fragment.fieldText categoryField.toList term.toList ['=']

/-- Neither end of the text is a blank, so that trimming leaves it whole. -/
theorem categoryText_eq (term : String) :
    categoryText term =
      'f' :: ("ield_category.entity.tid--".toList ++ (term.toList ++ ['-', '-'])) ++ ['='] := by
  have front : categoryField.toList ++ Fragment.dashes = 'f' :: "ield_category.entity.tid--".toList := by decide
  rw [categoryText, Fragment.fieldText, front]
  simp only [Fragment.dashes, List.cons_append, List.append_assoc, List.nil_append]

theorem toList_category (term : String) :
    (categoryField ++ "--" ++ term ++ "--=").toList = categoryText term := by
  simp [categoryText, Fragment.fieldText, Fragment.dashes]

theorem solid_category (term : String) : Text.isBlank (categoryText term) = false :=
  Text.isBlank_of_mem (c := 'f') (by simp [categoryText_eq]) (by decide)

theorem fieldTests_category {term : String} (single : ',' ∉ term.toList) :
    Fragment.fieldTests (categoryField ++ "--" ++ term ++ "--=") =
      .ok [⟨categoryField, .equals (Scalar.ofString term)⟩] := by
  have whole := categoryText_eq term
  have written : categoryField ++ "--" ++ term ++ "--=" = String.ofList (categoryText term) := by
    rw [← toList_category, String.ofList_toList]
  have single' : ',' ∉ categoryText term := by simp [whole, single]
  have trimmed : Text.trim (categoryText term) = categoryText term := by
    rw [whole]
    exact Text.trim_of_ends _ (by decide) (by decide)
  have equals : Operator.ofChars? ['='] = some .eq := by decide
  have read : Fragment.fieldTest (categoryText term) =
      .ok ⟨categoryField, .equals (Scalar.ofString term)⟩ := by
    rw [categoryText, Fragment.fieldTest_fieldText _ (by decide) (by decide) (by decide) equals,
      String.ofList_toList]
    rfl
  rw [written]
  exact Fragment.fieldTests_of_single single' trimmed (solid_category term) read

theorem paged_eq (contentType viewMode : String) (page perPage : Count) (category : Option String) :
    paged contentType viewMode page perPage category =
      match activeCategory? category with
      | some term =>
        (paged contentType viewMode page perPage none).insert "field" (categoryField ++ "--" ++ term ++ "--=")
      | none => paged contentType viewMode page perPage none := rfl

theorem field_notMem_paged : "field" ∉ (paged contentType viewMode page perPage none).keys := by
  change "field" ∉ ["content_type", "view_mode", "paged", "sort"]
  decide

/-- A category of one term adds one test to the request, and is no cause of failure. -/
theorem build_paged (single : OneTerm category) :
    b.build (paged contentType viewMode page perPage category) =
      (b.build (paged contentType viewMode page perPage none)).map fun r =>
        match activeCategory? category with
        | some term => r.requireAll [⟨categoryField, .equals (Scalar.ofString term)⟩]
        | none => r := by
  rw [paged_eq]
  cases active : activeCategory? category with
  | none => cases b.build (paged contentType viewMode page perPage none) <;> rfl
  | some term => exact b.build_insert_field field_notMem_paged (fieldTests_category (single term active))

/-- Any category, be it one term or more, does nothing to a request but add tests to it. -/
theorem requireAll_of_build {r : ParsedRequest}
    (built : b.build (paged contentType viewMode page perPage category) = .ok r) :
    ∃ bare leaves, b.build (paged contentType viewMode page perPage none) = .ok bare ∧
      r = bare.requireAll leaves := by
  rw [paged_eq] at built
  cases active : activeCategory? category with
  | none =>
    rw [active] at built
    exact ⟨r, [], built, rfl⟩
  | some term =>
    rw [active] at built
    have solid : Text.isBlank (categoryField ++ "--" ++ term ++ "--=").toList = false :=
      toList_category term ▸ solid_category term
    exact b.requireAll_of_build field_notMem_paged solid built

theorem sameBut_of_build {r : ParsedRequest} (single : OneTerm category)
    (built : b.build (paged contentType viewMode page perPage category) = .ok r) :
    ∃ bare, b.build (paged contentType viewMode page perPage none) = .ok bare ∧
      r.SameBut categoryField bare := by
  rw [build_paged single] at built
  obtain ⟨bare, base, rfl⟩ := map_eq_ok built
  refine ⟨bare, base, ?_⟩
  cases activeCategory? category with
  | none => exact .refl _ _
  | some term => exact .require bare ⟨categoryField, _⟩

/-- Two categories make requests that are equal but for their tests on fields, and equal but for the test on
the category field if the categories are one term each. -/
theorem category_changes_one_test {r r' : ParsedRequest}
    (built : b.build (paged contentType viewMode page perPage category) = .ok r)
    (built' : b.build (paged contentType viewMode page perPage category') = .ok r') :
    r.untested = r'.untested ∧
      (OneTerm category → OneTerm category' → r.SameBut categoryField r') := by
  constructor
  · obtain ⟨bare, leaves, base, rfl⟩ := requireAll_of_build built
    obtain ⟨bare', leaves', base', rfl⟩ := requireAll_of_build built'
    obtain rfl : bare = bare' := Except.ok.inj (base.symm.trans base')
    rfl
  · intro single single'
    obtain ⟨bare, base, same⟩ := sameBut_of_build single built
    obtain ⟨bare', base', same'⟩ := sameBut_of_build single' built'
    obtain rfl : bare = bare' := Except.ok.inj (base.symm.trans base')
    exact same.trans same'.symm

theorem category_of_dashes :
    ∃ r r', Builder.standard.build (paged "article" "teaser" 1 10 (some " 7--!=,--all")) = .ok r ∧
      Builder.standard.build (paged "article" "teaser" 1 10 (some "-7--!=--")) = .ok r' ∧
      r'.descriptor.conditions.get? categoryField = some (.equals (.text "-7--!=--")) ∧
      r.untested = r'.untested ∧ r.SameBut categoryField r' := by
  have off : activeCategory? (some " 7--!=,--all") = none := by decide
  have on : activeCategory? (some "-7--!=--") = some "-7--!=--" := by decide
  have single : OneTerm (some " 7--!=,--all") := by
    intro term active
    rw [off] at active
    cases active
  have single' : OneTerm (some "-7--!=--") := by
    intro term active
    rw [on] at active
    obtain rfl := Option.some.inj active
    decide
  have built : Builder.standard.build (paged "article" "teaser" 1 10 (some " 7--!=,--all")) = .ok _ := rfl
  have built' : Builder.standard.build (paged "article" "teaser" 1 10 (some "-7--!=--")) = .ok _ := rfl
  obtain ⟨untested, same⟩ := category_changes_one_test built built'
  exact ⟨_, _, built, built', by decide +kernel, untested, same single single'⟩

/-- A category with a comma replaces the test on the publication status. -/
theorem category_replaces_status :
    ∃ r r', Builder.standard.build (paged "article" "teaser" 1 10 (some "7")) = .ok r ∧
      Builder.standard.build (paged "article" "teaser" 1 10 (some "7--=,status--0")) = .ok r' ∧
      r.descriptor.conditions.get? "status" = some (.equals (.int 1)) ∧
      r'.descriptor.conditions.get? "status" = some (.equals (.int 0)) ∧
      ¬r.SameBut categoryField r' := by
  refine ⟨_, _, rfl, rfl, by decide +kernel, by decide +kernel, ?_⟩
  rintro ⟨_, others⟩
  revert others
  decide +kernel

end Route
end Listing
