import Listing.Proofs.Query.OwnText
import Listing.Proofs.Text.Lower

/-!
Searches for a text in a column. A search finds a stretch of a text where the capital sigmas of the stretch have the
form that they have alone, and it selects what the same test of the `field` key selects unless that test takes the
text for an integer which prints in another way.
-/

namespace Listing

structure WrittenSearch where
  field : List Char
  column : List Char
  sought : List Char

namespace WrittenSearch

def text (s : WrittenSearch) : List Char := s.field ++ Fragment.dashes ++ (s.column ++ Fragment.dashes ++ s.sought)

/-- The test of the `field` key that says the same. -/
def asTest (s : WrittenSearch) : WrittenTest := ⟨s.field ++ '.' :: s.column, s.sought, "CONTAINS".toList⟩

def path (s : WrittenSearch) : String := String.ofList s.asTest.name

theorem ofChars?_spelling (s : WrittenSearch) : Operator.ofChars? s.asTest.spelling = some .contains := by
  change Operator.ofChars? "CONTAINS".toList = some .contains
  decide

/-- Names that the grammar leaves whole, and a text without blanks at its end. -/
@[mk_iff]
structure Proper (s : WrittenSearch) : Prop where
  fieldNamed : s.field ≠ []
  columnNamed : s.column ≠ []
  solid : s.field.head?.any Text.isSpace = false
  fieldUndashed : Text.occurs Fragment.dashes s.field = false
  columnUndashed : Text.occurs Fragment.dashes s.column = false
  fieldLast : s.field.getLast? ≠ some '-'
  columnLast : s.column.getLast? ≠ some '-'
  closed : Text.trimEnd s.sought = s.sought

instance (s : WrittenSearch) : Decidable s.Proper := decidable_of_iff' _ (proper_iff s)

end WrittenSearch

/-! ### Records along a path -/

/-- The record that holds a value at the end of a path, and nothing else. -/
def Json.nested (segments : List (List Char)) (value : Json) : Json :=
  segments.foldr (fun segment inner => .object [(String.ofList segment, inner)]) value

namespace Store
open Text

theorem walk_nested (segments : List (List Char)) (value : Json) :
    walk segments [Json.nested segments value] = [value] := by
  induction segments with
  | nil => rfl
  | cons segment rest ih =>
    have held : (Json.nested (segment :: rest) value).field? (String.ofList segment) = some (Json.nested rest value) :=
      List.lookup_cons_self
    have next := step_field held
    rw [String.toList_ofList] at next
    rw [walk_cons, List.flatMap_singleton, next, ih]

theorem resolve_nested {value : Json} (path : String) (single : spread value = [value]) (solid : value.isNull = false) :
    resolve (Json.nested (path.toList.splitOn '.') value) path = [value] := by
  rw [resolve, walk_nested]
  simp [single, solid]

theorem resolve_column {record inner value : Json} {field column : List Char} (outer : '.' ∉ field)
    (last : '.' ∉ column) (found : record.field? (String.ofList field) = some inner)
    (held : inner.field? (String.ofList column) = some value) (single : spread value = [value])
    (solid : value.isNull = false) : resolve record (String.ofList (field ++ '.' :: column)) = [value] := by
  have first := step_field found
  have second := step_field held
  rw [String.toList_ofList] at first second
  rw [resolve, String.toList_ofList, List.splitOn_append_cons_self_of_not_mem outer, List.splitOn_eq_singleton last,
    walk_cons, List.flatMap_singleton, first, walk_cons, List.flatMap_singleton, second]
  simp [walk, single, solid]

/-! ### Operands of a search -/

theorem meets_contains {record : Json} {path text : String} (values : resolve record path = [.text text])
    (operand : Scalar) :
    meets record (.test path (.compare operand .contains)) = true ↔
      lower operand.toString.toList <:+: lower text.toList := by
  rw [meets_test, values, ← occurs_iff_infix]
  simp [passesTest, passes, text?, containsText]

theorem meets_contains_congr {a b : Scalar} (same : a.toString = b.toString) (record : Json) (path : String) :
    meets record (.test path (.compare a .contains)) = meets record (.test path (.compare b .contains)) := by
  simp only [meets_test, passesTest, passes, same]

theorem toString_ofChars {cs : List Char} (canonical : Canonical cs) :
    (Scalar.ofChars cs).toString = String.ofList cs := by
  unfold Scalar.ofChars
  split
  · rename_i k read
    rw [canonical k (int64?_eq_some.mp read), Scalar.toString, String.ofList_toList]
  · rfl

theorem canonical_of_held {cs : List Char}
    (held : ∀ k : Int64, Signed cs k.toInt → lower cs <:+: lower (toString k.toInt).toList) : Canonical cs := by
  intro k signed
  refine signed.eq_toString_or_lt.resolve_right fun longer => ?_
  have dotless : 'İ' ∉ (toString k.toInt).toList := (signed_toString _).notMem (by decide) (by decide)
  have short := (held k signed).length_le
  rw [length_lower, length_lower, List.count_eq_zero_of_not_mem dotless] at short
  omega

end Store

theorem Builder.changeOf_address {b : Builder} {text : String} {leaf : Leaf}
    (read : Fragment.address text = .ok leaf) : b.changeOf ("address", text) = .ok (.require [leaf]) := by
  have change : b.change text .address = .ok (.require [leaf]) := by
    rw [Builder.change, read]
    rfl
  exact changeOf_of_change (Fragment.solid_of_required read) change

namespace Fragment
open Text

variable {s : WrittenSearch}

theorem trim_search (proper : s.Proper) : trim s.text = s.text := by
  have front : trimStart s.text = s.text := by
    rw [WrittenSearch.text, List.append_assoc]
    exact trimStart_append _ proper.fieldNamed proper.solid
  have ends := trimEnd_append (s.field ++ dashes ++ (s.column ++ ['-'])) s.sought (show isSpace '-' = false by decide)
  rw [proper.closed] at ends
  rw [trim, front]
  simpa [WrittenSearch.text, dashes] using ends

/-- The field ends at the first pair of dashes and the column at the next one. -/
theorem address_text (proper : s.Proper) :
    address (String.ofList s.text) = .ok ⟨s.path, .compare (.text (String.ofList s.sought)) .contains⟩ := by
  have full : isBlank s.text = false := isBlank_of_mem (c := '-') (by simp [WrittenSearch.text, dashes]) (by decide)
  have value : required .address (String.ofList s.text) = .ok s.text := by
    rw [required_eq_ok, String.toList_ofList]
    exact ⟨full, trim_search proper⟩
  have field : cut? dashes s.text = some (s.field, s.column ++ dashes ++ s.sought) :=
    cut?_of_first _ (by decide) (occurs_pair_concat proper.fieldUndashed proper.fieldLast '-')
  have column : cut? dashes (s.column ++ dashes ++ s.sought) = some (s.column, s.sought) :=
    cut?_of_first _ (by decide) (occurs_pair_concat proper.columnUndashed proper.columnLast '-')
  have named : (s.field.isEmpty || s.column.isEmpty) = false := by
    simp [proper.fieldNamed, proper.columnNamed]
  simp only [address, value, bind, Except.bind, field, column, named]
  rfl

theorem asTest_proper (proper : s.Proper) (single : ',' ∉ s.text) : s.asTest.Proper := by
  have commas : ',' ∉ s.field ∧ ',' ∉ s.column ∧ ',' ∉ s.sought := by
    simpa [WrittenSearch.text, dashes] using single
  exact {
    named := by simp [WrittenSearch.asTest]
    solid := by
      rw [WrittenSearch.asTest, List.head?_append_of_ne_nil _ proper.fieldNamed]
      exact proper.solid
    joint := by simp [WrittenSearch.asTest, commas]
    undashed :=
      (occurs_pair_append_cons _ proper.fieldUndashed proper.fieldLast (by decide)).trans proper.columnUndashed
    last := by
      rw [WrittenSearch.asTest, List.append_cons, List.getLast?_append_of_ne_nil _ proper.columnNamed]
      exact proper.columnLast
    single := commas.2.2
    known := Option.isSome_iff_exists.mpr ⟨_, s.ofChars?_spelling⟩ }

/-- The condition of a search holds of a record that holds the text of the search in the column, wherever it stands
with capital sigmas that end a word there just where they do in the search. -/
theorem contains_finds_substring {record inner : Json} {text : List Char} (proper : s.Proper)
    (outer : '.' ∉ s.field) (last : '.' ∉ s.column) (found : record.field? (String.ofList s.field) = some inner)
    (held : inner.field? (String.ofList s.column) = some (.text (String.ofList text))) :
    ∃ test, address (String.ofList s.text) = .ok ⟨s.path, test⟩ ∧
      (∀ b : Builder, ∃ r, b.build (.ofList [("address", String.ofList s.text)]) = .ok r ∧
        r.descriptor.conditions = b.blank.descriptor.conditions.insert s.path test) ∧
      (Store.meets record (.test s.path test) = true ↔ lower s.sought <:+: lower text) ∧
      (∀ front back, text = front ++ s.sought ++ back → KeepsSigmas front s.sought back →
        Store.meets record (.test s.path test) = true) ∧
      ('Σ' ∉ s.sought → s.sought <:+: text → Store.meets record (.test s.path test) = true) := by
  have read := address_text proper
  have values : Store.resolve record s.path = [.text (String.ofList text)] :=
    Store.resolve_column outer last found held rfl rfl
  have meets : Store.meets record (.test s.path (.compare (.text (String.ofList s.sought)) .contains)) = true ↔
      lower s.sought <:+: lower text := by
    rw [Store.meets_contains values, Scalar.toString, String.toList_ofList, String.toList_ofList]
  refine ⟨_, read, fun b => ⟨_, Builder.build_single (Builder.changeOf_address read), rfl⟩, meets, ?_, ?_⟩
  · rintro front back rfl keeps
    exact meets.mpr (lower_infix_of_keepsSigmas keeps)
  · rintro plain ⟨front, back, rfl⟩
    exact meets.mpr (lower_infix_of_keepsSigmas (keepsSigmas_of_notMem plain front back))

/-- A street is found by its name in capital letters, a blank before and behind it. -/
theorem street_contains_name :
    let s : WrittenSearch := ⟨"field_address".toList, "street".toList, "ΟΔΟΣ".toList⟩
    let inner : Json := .object [("street", .text "Η ΟΔΟΣ ΕΡΜΟΥ")]
    let record : Json := .object [("field_address", inner)]
    s.Proper ∧ '.' ∉ s.field ∧ '.' ∉ s.column ∧ record.field? "field_address" = some inner ∧
      inner.field? "street" = some (.text "Η ΟΔΟΣ ΕΡΜΟΥ") ∧ KeepsSigmas "Η ".toList s.sought " ΕΡΜΟΥ".toList ∧
      ∃ test, address "field_address--street--ΟΔΟΣ" = .ok ⟨"field_address.street", test⟩ ∧
        Store.meets record (.test "field_address.street" test) = true := by
  intro s inner record
  have proper : s.Proper := by decide
  have found : record.field? "field_address" = some inner := rfl
  have held : inner.field? "street" = some (.text "Η ΟΔΟΣ ΕΡΜΟΥ") := rfl
  have keeps : KeepsSigmas "Η ".toList s.sought " ΕΡΜΟΥ".toList := by decide +kernel
  have held' : inner.field? "street" = some (.text (String.ofList "Η ΟΔΟΣ ΕΡΜΟΥ".toList)) := held
  obtain ⟨test, read, -, -, stands, -⟩ := contains_finds_substring proper (by decide) (by decide) found held'
  exact ⟨proper, by decide, by decide, found, held, keeps, test, read, stands _ _ rfl keeps⟩

/-- A sigma that ends the search but no word of the text is another character in lower case. -/
theorem odysseus_lacks_prefix :
    address "f--c--ΟΔΥΣ" = .ok ⟨"f.c", .compare (.text "ΟΔΥΣ") .contains⟩ ∧
      "ΟΔΥΣΣΕΥΣ".toList = [] ++ "ΟΔΥΣ".toList ++ "ΣΕΥΣ".toList ∧
      Store.meets (.object [("f", .object [("c", .text "ΟΔΥΣΣΕΥΣ")])])
        (.test "f.c" (.compare (.text "ΟΔΥΣ") .contains)) = false := by
  decide +kernel

/-- The two spellings of a search are read as conditions on one path. They hold of the same records unless the text is
an integer that prints in another way. -/
theorem contains_spellings_agree (proper : s.Proper) (single : ',' ∉ s.text) :
    ∃ first second, address (String.ofList s.text) = .ok ⟨s.path, first⟩ ∧
      fieldTests (String.ofList s.asTest.text) = .ok [⟨s.path, second⟩] ∧
      (∀ b : Builder, ∃ r r', b.build (.ofList [("address", String.ofList s.text)]) = .ok r ∧
        b.build (.ofList [("field", String.ofList s.asTest.text)]) = .ok r' ∧
        r.descriptor.conditions = b.blank.descriptor.conditions.insert s.path first ∧
        r'.descriptor.conditions = b.blank.descriptor.conditions.insert s.path second) ∧
      ((∀ record, Store.meets record (.test s.path first) = Store.meets record (.test s.path second)) ↔
        Canonical s.sought) := by
  have means : s.asTest.Means ⟨s.path, .compare (Scalar.ofChars s.sought) .contains⟩ :=
    ⟨rfl, .contains, s.ofChars?_spelling, .compare (by decide)⟩
  have first := address_text proper
  have second := (fieldTests_text (asTest_proper proper single)).mpr means
  refine ⟨_, _, first, second, fun b => ⟨_, _, Builder.build_single (Builder.changeOf_address first),
    Builder.build_single (Builder.changeOf_field second), rfl, rfl⟩, ?_⟩
  constructor
  · intro agree
    refine Store.canonical_of_held fun k signed => ?_
    -- The record holds the integer as the test of the field key searches for it.
    have values : Store.resolve _ s.path = [.text (toString k.toInt)] := Store.resolve_nested s.path rfl rfl
    have operand : Scalar.ofChars s.sought = .int k := by rw [Scalar.ofChars, int64?_eq_some.mpr signed]
    have own := (Store.meets_contains values (.int k)).mpr (List.infix_refl _)
    rw [← operand, ← agree, Store.meets_contains values] at own
    rwa [Scalar.toString, String.toList_ofList] at own
  · intro canonical record
    have same : (Scalar.text (String.ofList s.sought)).toString = (Scalar.ofChars s.sought).toString :=
      (Store.toString_ofChars canonical).symm
    exact Store.meets_contains_congr same record s.path

/-- A postal code that prints as it is written, and dashes in the text that is sought. -/
theorem postal_code_spellings :
    let s : WrittenSearch := ⟨"field_address".toList, "postal_code".toList, "-1067".toList⟩
    s.Proper ∧ ',' ∉ s.text ∧ Canonical s.sought ∧
      ∃ first second, address "field_address--postal_code---1067" = .ok ⟨"field_address.postal_code", first⟩ ∧
        fieldTests "field_address.postal_code---1067--CONTAINS" = .ok [⟨"field_address.postal_code", second⟩] ∧
        ∀ record, Store.meets record (.test "field_address.postal_code" first) =
          Store.meets record (.test "field_address.postal_code" second) := by
  intro s
  have proper : s.Proper := by decide
  have single : ',' ∉ s.text := by decide
  have canonical : Canonical s.sought := by decide
  obtain ⟨first, second, read, read', -, agree⟩ := contains_spellings_agree proper single
  exact ⟨proper, single, canonical, first, second, read, read', agree.mpr canonical⟩

/-- The test of the `field` key searches for the integer, which has no leading zeros. -/
theorem padded_spellings_differ :
    address "f--c--007" = .ok ⟨"f.c", .compare (.text "007") .contains⟩ ∧
      fieldTests "f.c--007--CONTAINS" = .ok [⟨"f.c", .compare (.int 7) .contains⟩] ∧
      Store.meets (.object [("f", .object [("c", .text "7")])]) (.test "f.c" (.compare (.text "007") .contains)) = false ∧
      Store.meets (.object [("f", .object [("c", .text "7")])]) (.test "f.c" (.compare (.int 7) .contains)) = true := by
  decide

end Fragment
end Listing
