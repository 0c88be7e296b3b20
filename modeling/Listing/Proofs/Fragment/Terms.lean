import Mathlib.Data.List.Induction
import Mathlib.Data.List.Infix
import Mathlib.Data.List.Nodup
import Listing.Proofs.Fragment.Field
import Listing.Proofs.Fragment.Shape

/-!
Lists of terms. They are read just where one dash stands between any two terms, none of them empty, behind a field
whose pair of dashes is the first one. Fields that come again in `categories` keep their first place and take their
last list.
-/

namespace Listing

/-! ### Pairs under one key -/

namespace OrderedMap
variable {κ ν : Type} [DecidableEq κ] {pairs merged merged' : List (κ × ν)} {m : OrderedMap κ ν}

/-- One entry for each key, in the order in which the keys first come, with the value that comes last. -/
structure Merges (pairs merged : List (κ × ν)) : Prop where
  keys : ∀ key, key ∈ merged.map Prod.fst ↔ key ∈ pairs.map Prod.fst
  order : (merged.map Prod.fst).Pairwise fun a b => (pairs.map Prod.fst).idxOf a < (pairs.map Prod.fst).idxOf b
  last : ∀ entry ∈ merged, (pairs.filter fun pair => pair.1 = entry.1).getLast? = some entry

theorem Merges.nodup (merges : Merges pairs merged) : (merged.map Prod.fst).Nodup := by
  refine merges.order.imp fun {a b} less => ?_
  rintro rfl
  exact Nat.lt_irrefl _ less

theorem Merges.subset (merges : Merges pairs merged) (merges' : Merges pairs merged') : merged ⊆ merged' := by
  intro entry member
  have key : entry.1 ∈ merged'.map Prod.fst :=
    (merges'.keys _).mpr ((merges.keys _).mp (List.mem_map_of_mem member))
  obtain ⟨other, member', same⟩ := List.mem_map.mp key
  have last := merges'.last other member'
  rw [same, merges.last entry member] at last
  exact Option.some.inj last ▸ member'

theorem Merges.eq_nil_iff (merges : Merges pairs merged) : merged = [] ↔ pairs = [] := by
  constructor
  · rintro rfl
    refine List.eq_nil_iff_forall_not_mem.mpr fun pair member => ?_
    exact List.not_mem_nil ((merges.keys pair.1).mpr (List.mem_map_of_mem member))
  · rintro rfl
    refine List.eq_nil_iff_forall_not_mem.mpr fun entry member => ?_
    exact List.not_mem_nil ((merges.keys entry.1).mp (List.mem_map_of_mem member))

theorem Merges.unique (merges : Merges pairs merged) (merges' : Merges pairs merged') : merged = merged' := by
  have perm : merged.Perm merged' :=
    (List.perm_ext_iff_of_nodup (List.Nodup.of_map _ merges.nodup) (List.Nodup.of_map _ merges'.nodup)).mpr fun _ =>
      ⟨fun member => merges.subset merges' member, fun member => merges'.subset merges member⟩
  have ascending : ∀ {merged : List (κ × ν)}, Merges pairs merged →
      merged.Pairwise fun a b => (pairs.map Prod.fst).idxOf a.1 < (pairs.map Prod.fst).idxOf b.1 :=
    fun merges => merges.order.of_map Prod.fst fun _ _ less => less
  refine perm.eq_of_pairwise ?_ (ascending merges) (ascending merges')
  exact fun _ _ _ _ less more => absurd less (Nat.lt_asymm more)

theorem mem_entries_insert {key : κ} {value : ν} {entry : κ × ν} (member : entry ∈ (m.insert key value).entries) :
    entry = (key, value) ∨ entry ∈ m.entries ∧ entry.1 ≠ key := by
  obtain ⟨before, after, whole, others⟩ := m.entries_insert key value
  rw [whole, List.mem_append, List.mem_cons, or_left_comm, ← List.mem_append, others, List.mem_filter] at member
  simpa using member

theorem Merges.insert (merges : Merges pairs m.entries) (key : κ) (value : ν) :
    Merges (pairs ++ [(key, value)]) (m.insert key value).entries := by
  have known : ∀ a, a ∈ m.keys ↔ a ∈ pairs.map Prod.fst := merges.keys
  have place : ∀ a ∈ m.keys,
      ((pairs ++ [(key, value)]).map Prod.fst).idxOf a = (pairs.map Prod.fst).idxOf a := by
    intro a member
    rw [List.map_append, List.idxOf_append, if_pos ((known a).mp member)]
  have ascending : m.keys.Pairwise fun a b => ((pairs ++ [(key, value)]).map Prod.fst).idxOf a <
      ((pairs ++ [(key, value)]).map Prod.fst).idxOf b := by
    refine merges.order.imp_of_mem fun {a b} first second less => ?_
    rwa [place a first, place b second]
  constructor
  case keys =>
    intro a
    change a ∈ (m.insert key value).keys ↔ _
    rw [keys_insert, List.map_append, List.mem_append, ← known]
    split
    · rename_i old
      have own : a ∈ [(key, value)].map Prod.fst → a ∈ m.keys := by
        simp only [List.map_cons, List.map_nil, List.mem_singleton]
        rintro rfl
        exact old
      exact ⟨.inl, fun either => either.elim id own⟩
    · exact List.mem_append
  case order =>
    change (m.insert key value).keys.Pairwise _
    rw [keys_insert]
    split
    · exact ascending
    · rename_i fresh
      rw [known] at fresh
      refine List.pairwise_append.mpr ⟨ascending, List.pairwise_singleton _ _, fun a member b single => ?_⟩
      obtain rfl := List.mem_singleton.mp single
      rw [place a member, List.map_append, List.idxOf_append, if_neg fresh]
      exact Nat.lt_of_lt_of_le (List.idxOf_lt_length_of_mem ((known a).mp member)) (Nat.le_add_left _ _)
  case last =>
    intro entry member
    rw [List.filter_append]
    rcases mem_entries_insert member with rfl | ⟨old, other⟩
    · simp
    · simpa [other.symm] using merges.last entry old

theorem merges_ofList (pairs : List (κ × ν)) : Merges pairs (ofList pairs).entries := by
  induction pairs using List.reverseRecOn with
  | nil => exact ⟨fun _ => Iff.rfl, .nil, List.forall_mem_nil _⟩
  | append_singleton pairs pair ih =>
    rw [ofList, List.foldl_append]
    exact ih.insert pair.1 pair.2

end OrderedMap

/-! ### Terms -/

namespace Fragment
open Text

structure Listable (terms : List (List Char)) : Prop where
  held : terms ≠ []
  solid : ∀ term ∈ terms, term ≠ [] ∧ '-' ∉ term

def dashed (terms : List (List Char)) : List Char := ['-'].intercalate terms

structure Parts (cs field : List Char) (terms : List (List Char)) : Prop where
  whole : cs = field ++ dashes ++ dashed terms
  first : ∀ front back, cs = front ++ dashes ++ back → field.length ≤ front.length
  listable : Listable terms

structure IsRestriction (cs field : List Char) (terms : List (List Char)) : Prop extends Parts cs field terms where
  named : field ≠ []

/-- Why a fragment names no field with terms: the field is missing, or it falls into no such parts. -/
inductive NoRestriction : List Char → Flaw → Prop
  | nameless {cs : List Char} {terms : List (List Char)} (parts : Parts cs [] terms) : NoRestriction cs .noField
  | shapeless {cs : List Char} (apart : ∀ field terms, ¬Parts cs field terms) : NoRestriction cs .termsShape

def Reads (cs : List Char) (pair : String × List Scalar) : Prop :=
  ∃ field terms, IsRestriction cs field terms ∧ pair = (String.ofList field, terms.map Scalar.ofChars)

variable {cs field : List Char} {terms : List (List Char)} {key : Key}

theorem terms?_eq_some : terms? cs = some terms ↔ cs = dashed terms ∧ Listable terms := by
  simp only [terms?]
  constructor
  · intro read
    split at read
    · rename_i solid
      cases read
      refine ⟨(List.intercalate_splitOn '-').symm, List.splitOn_ne_nil _ _, fun term member => ⟨?_, ?_⟩⟩
      · simpa using List.all_eq_true.mp solid term member
      · exact notMem_of_mem_splitOn member
    · cases read
  · rintro ⟨rfl, held, solid⟩
    have parts : (dashed terms).splitOn '-' = terms :=
      List.splitOn_intercalate '-' (fun term member => (solid term member).2) held
    have full : terms.all (!·.isEmpty) = true := by
      refine List.all_eq_true.mpr fun term member => ?_
      simpa using (solid term member).1
    rw [parts, if_pos full]

theorem terms?_eq_none : terms? cs = none ↔ ∀ terms, cs = dashed terms → ¬Listable terms := by
  simp only [Option.eq_none_iff_forall_ne_some, ne_eq, terms?_eq_some, not_and]

theorem parts_iff : Parts cs field terms ↔ ∃ tail, cut? dashes cs = some (field, tail) ∧ terms? tail = some terms := by
  constructor
  · rintro ⟨whole, first, listable⟩
    exact ⟨dashed terms, (cut?_eq_some (by decide)).mpr ⟨whole, first⟩, terms?_eq_some.mpr ⟨rfl, listable⟩⟩
  · rintro ⟨tail, cut, read⟩
    obtain ⟨whole, first⟩ := (cut?_eq_some (by decide)).mp cut
    obtain ⟨rfl, listable⟩ := terms?_eq_some.mp read
    exact ⟨whole, first, listable⟩

theorem fieldTerms_of_parts (parts : Parts cs field terms) :
    fieldTerms key cs = if field.isEmpty then .error (malformed key cs .noField)
      else .ok (String.ofList field, terms.map Scalar.ofChars) := by
  obtain ⟨tail, cut, read⟩ := parts_iff.mp parts
  simp only [fieldTerms, cut, read]

theorem fieldTerms_of_shapeless (apart : ∀ field terms, ¬Parts cs field terms) :
    fieldTerms key cs = .error (malformed key cs .termsShape) := by
  cases cut : cut? dashes cs with
  | none => simp only [fieldTerms, cut]
  | some pair =>
    obtain ⟨field, tail⟩ := pair
    cases read : terms? tail with
    | none => simp only [fieldTerms, cut, read]
    | some terms => exact absurd (parts_iff.mpr ⟨tail, cut, read⟩) (apart field terms)

theorem fieldTerms_eq_ok {pair : String × List Scalar} : fieldTerms key cs = .ok pair ↔ Reads cs pair := by
  constructor
  · intro read
    by_cases shaped : ∃ field terms, Parts cs field terms
    · obtain ⟨field, terms, parts⟩ := shaped
      rw [fieldTerms_of_parts parts] at read
      split at read
      · cases read
      · rename_i named
        cases read
        exact ⟨field, terms, ⟨parts, fun empty => named (List.isEmpty_iff.mpr empty)⟩, rfl⟩
    · rw [fieldTerms_of_shapeless fun field terms parts => shaped ⟨field, terms, parts⟩] at read
      cases read
  · rintro ⟨field, terms, ⟨parts, named⟩, rfl⟩
    rw [fieldTerms_of_parts parts, if_neg fun empty => named (List.isEmpty_iff.mp empty)]

theorem fieldTerms_eq_error {error : FragmentError} :
    fieldTerms key cs = .error error ↔ ∃ flaw, NoRestriction cs flaw ∧ error = malformed key cs flaw := by
  constructor
  · intro failed
    by_cases shaped : ∃ field terms, Parts cs field terms
    · obtain ⟨field, terms, parts⟩ := shaped
      rw [fieldTerms_of_parts parts] at failed
      split at failed
      · rename_i nameless
        cases failed
        obtain rfl := List.isEmpty_iff.mp nameless
        exact ⟨.noField, .nameless parts, rfl⟩
      · cases failed
    · have apart : ∀ field terms, ¬Parts cs field terms := fun field terms parts => shaped ⟨field, terms, parts⟩
      rw [fieldTerms_of_shapeless apart] at failed
      cases failed
      exact ⟨.termsShape, .shapeless apart, rfl⟩
  · rintro ⟨flaw, parts | apart, rfl⟩
    · exact fieldTerms_of_parts parts
    · exact fieldTerms_of_shapeless apart

theorem exists_noRestriction_iff : (∃ flaw, NoRestriction cs flaw) ↔ ∀ pair, ¬Reads cs pair := by
  constructor
  · rintro ⟨flaw, flawed⟩ pair reads
    have failed : fieldTerms .category cs = .error _ := fieldTerms_eq_error.mpr ⟨flaw, flawed, rfl⟩
    rw [fieldTerms_eq_ok.mpr reads] at failed
    cases failed
  · intro unread
    cases read : fieldTerms .category cs with
    | ok pair => exact absurd (fieldTerms_eq_ok.mp read) (unread pair)
    | error error =>
      obtain ⟨flaw, flawed, -⟩ := fieldTerms_eq_error.mp read
      exact ⟨flaw, flawed⟩

/-! ### Values with one list -/

theorem map_fieldTerms_eq_ok {α : Type} {f : String × List Scalar → α} {a : α} :
    (fieldTerms key cs).map f = .ok a ↔
      ∃ field terms, IsRestriction cs field terms ∧ a = f (String.ofList field, terms.map Scalar.ofChars) := by
  constructor
  · intro made
    cases read : fieldTerms key cs with
    | error error =>
      rw [read] at made
      cases made
    | ok pair =>
      rw [read] at made
      cases made
      obtain ⟨field, terms, restricts, rfl⟩ := fieldTerms_eq_ok.mp read
      exact ⟨field, terms, restricts, rfl⟩
  · rintro ⟨field, terms, restricts, rfl⟩
    rw [fieldTerms_eq_ok.mpr ⟨field, terms, restricts, rfl⟩]
    rfl

theorem map_fieldTerms_eq_error {α : Type} {f : String × List Scalar → α} {error : FragmentError} :
    (fieldTerms key cs).map f = .error error ↔ ∃ flaw, NoRestriction cs flaw ∧ error = malformed key cs flaw := by
  rw [← fieldTerms_eq_error]
  cases fieldTerms key cs <;> simp [Except.map]

theorem idList_eq {raw : String} (value : required .nids raw = .ok cs) :
    idList raw = match terms? cs with
      | some terms => .ok (terms.map Scalar.ofChars)
      | none => .error (malformed .nids cs .idsShape) := by
  rw [idList, value]
  rfl

theorem idList_eq_ok {raw : String} {ids : List Scalar} (value : required .nids raw = .ok cs) :
    idList raw = .ok ids ↔ ∃ terms, cs = dashed terms ∧ Listable terms ∧ ids = terms.map Scalar.ofChars := by
  rw [idList_eq value]
  constructor
  · intro made
    split at made
    · rename_i terms found
      cases made
      obtain ⟨whole, listable⟩ := terms?_eq_some.mp found
      exact ⟨terms, whole, listable, rfl⟩
    · cases made
  · rintro ⟨terms, whole, listable, rfl⟩
    rw [terms?_eq_some.mpr ⟨whole, listable⟩]

theorem idList_eq_error {raw : String} {error : FragmentError} (value : required .nids raw = .ok cs) :
    idList raw = .error error ↔
      (∀ terms, cs = dashed terms → ¬Listable terms) ∧ error = malformed .nids cs .idsShape := by
  rw [idList_eq value, ← terms?_eq_none]
  cases terms? cs with
  | some terms => exact ⟨nofun, fun ⟨absent, _⟩ => nomatch absent⟩
  | none => exact ⟨fun failed => ⟨rfl, (Except.error.inj failed).symm⟩, fun ⟨_, same⟩ => congrArg _ same.symm⟩

theorem categoryIgnore_eq {raw : String} (value : required .categoryIgnore raw = .ok cs) :
    categoryIgnore raw =
      (fieldTerms .categoryIgnore cs).map fun (field, terms) => .single field (.notIn terms) := by
  rw [categoryIgnore, value]
  rfl

theorem category_eq {raw : String} (value : required .category raw = .ok cs) :
    category raw = if occurs everything cs then .ok none
      else (fieldTerms .category cs).map fun (field, terms) => some (.single field (.isIn terms)) := by
  rw [category, value]
  rfl

/-- A list of ids is one or more terms with dashes between them. A restriction is a field and such a list behind the
first pair of dashes. All else is malformed, save that a category which mentions `all` restricts nothing. -/
theorem term_grammars_exact {raw : String} (solid : isBlank raw.toList = false) (trimmed : trim raw.toList = cs) :
    (∀ ids, idList raw = .ok ids ↔ ∃ terms, cs = dashed terms ∧ Listable terms ∧ ids = terms.map Scalar.ofChars) ∧
    (∀ error, idList raw = .error error ↔
      (∀ terms, cs = dashed terms → ¬Listable terms) ∧ error = malformed .nids cs .idsShape) ∧
    (∀ g, categoryIgnore raw = .ok g ↔ ∃ field terms, IsRestriction cs field terms ∧
      g = ⟨.and, [.test (String.ofList field) (.notIn (terms.map Scalar.ofChars))]⟩) ∧
    (∀ error, categoryIgnore raw = .error error ↔
      ∃ flaw, NoRestriction cs flaw ∧ error = malformed .categoryIgnore cs flaw) ∧
    (category raw = .ok none ↔ "all".toList <:+: cs) ∧
    (∀ g, category raw = .ok (some g) ↔ ¬"all".toList <:+: cs ∧ ∃ field terms, IsRestriction cs field terms ∧
      g = ⟨.and, [.test (String.ofList field) (.isIn (terms.map Scalar.ofChars))]⟩) ∧
    (∀ error, category raw = .error error ↔
      ¬"all".toList <:+: cs ∧ ∃ flaw, NoRestriction cs flaw ∧ error = malformed .category cs flaw) := by
  have value : ∀ key, required key raw = .ok cs := fun _ => required_eq_ok.mpr ⟨solid, trimmed⟩
  have ignored := categoryIgnore_eq (value .categoryIgnore)
  have restricted := category_eq (value .category)
  refine ⟨fun _ => idList_eq_ok (value _), fun _ => idList_eq_error (value _), fun g => ?_, fun error => ?_, ?_⟩
  · rw [ignored]
    exact map_fieldTerms_eq_ok
  · rw [ignored]
    exact map_fieldTerms_eq_error
  have mentions : occurs everything cs = true ↔ "all".toList <:+: cs := occurs_iff_infix
  rw [restricted, ← mentions]
  by_cases free : occurs everything cs = true
  · simp [free]
  · rw [if_neg free]
    refine ⟨?_, fun g => ?_, fun error => ?_⟩
    · rw [map_fieldTerms_eq_ok]
      simp [free]
    · rw [map_fieldTerms_eq_ok, and_iff_right free]
      simp only [Option.some.injEq]
      rfl
    · rw [map_fieldTerms_eq_error, and_iff_right free]

/-- Blanks inside a list belong to its terms. As ids the same value has an empty term. -/
theorem blank_terms_read :
    let raw := " tags--x-007- b "
    let terms : List Scalar := [.text "x", .int 7, .text " b"]
    (isBlank raw.toList = false ∧ trim raw.toList = "tags--x-007- b".toList) ∧
      categoryIgnore raw = .ok ⟨.and, [.test "tags" (.notIn terms)]⟩ ∧
      category raw = .ok (some ⟨.and, [.test "tags" (.isIn terms)]⟩) ∧
      idList raw = .error (.malformed .nids "tags--x-007- b" .idsShape) := by
  intro raw terms
  have solid : isBlank raw.toList = false := by decide
  have trimmed : trim raw.toList = "tags--x-007- b".toList := by decide
  have restricts : IsRestriction "tags--x-007- b".toList "tags".toList ["x".toList, "007".toList, " b".toList] :=
    ⟨parts_iff.mpr ⟨"x-007- b".toList, by decide, by decide⟩, by decide⟩
  have free : ¬"all".toList <:+: "tags--x-007- b".toList := mt occurs_iff_infix.mpr (by decide)
  obtain ⟨-, unlisted, ignored, -, -, restricted, -⟩ := term_grammars_exact solid trimmed
  exact ⟨⟨solid, trimmed⟩, (ignored _).mpr ⟨_, _, restricts, rfl⟩, (restricted _).mpr ⟨free, _, _, restricts, rfl⟩,
    (unlisted _).mpr ⟨terms?_eq_none.mp (by decide), rfl⟩⟩

/-! ### Values with several restrictions -/

def restrictions (raw : String) : List (List Char) :=
  ((raw.toList.splitOn ',').map trim).filter fun entry => entry ≠ [] ∧ ¬"all".toList <:+: entry

theorem filter_entries (raw : String) :
    (entries (trim raw.toList)).filter (!occurs everything ·) = restrictions raw := by
  rw [entries_trim, entries, List.filter_filter]
  refine List.filter_congr fun entry _ => ?_
  have mentions : occurs everything entry = true ↔ "all".toList <:+: entry := occurs_iff_infix
  rw [Bool.eq_iff_iff, decide_eq_true_eq, ← mentions]
  simp [and_comm]

theorem categories_eq {raw : String} (solid : isBlank raw.toList = false) :
    categories raw = (restrictions raw).mapM (fieldTerms .categories) >>= fun pairs =>
      if (OrderedMap.ofList pairs).entries.isEmpty then .ok none
      else .ok (some ⟨.and, (OrderedMap.ofList pairs).entries.map fun (field, terms) => .test field (.isIn terms)⟩) := by
  rw [categories, required_eq_ok.mpr ⟨solid, rfl⟩, ← filter_entries]
  rfl

theorem mapM_fieldTerms_eq_ok {fragments : List (List Char)} {pairs : List (String × List Scalar)} :
    fragments.mapM (fieldTerms key) = .ok pairs ↔ List.Forall₂ Reads fragments pairs := by
  simp only [mapM_eq_ok_iff, fieldTerms_eq_ok]

theorem mapM_fieldTerms_eq_error {fragments : List (List Char)} {error : FragmentError} :
    fragments.mapM (fieldTerms key) = .error error ↔ ∃ before fragment after flaw,
      fragments = before ++ fragment :: after ∧ (∀ other ∈ before, ∃ pair, Reads other pair) ∧
        NoRestriction fragment flaw ∧ error = malformed key fragment flaw := by
  constructor
  · intro failed
    obtain ⟨before, fragment, after, whole, earlier, here⟩ := exists_of_mapM_eq_error failed
    obtain ⟨flaw, flawed, named⟩ := fieldTerms_eq_error.mp here
    simp only [fieldTerms_eq_ok] at earlier
    exact ⟨before, fragment, after, flaw, whole, earlier, flawed, named⟩
  · rintro ⟨before, fragment, after, flaw, rfl, earlier, flawed, rfl⟩
    refine mapM_eq_error ?_ (fieldTerms_eq_error.mpr ⟨flaw, flawed, rfl⟩)
    simpa only [fieldTerms_eq_ok] using earlier

theorem categories_eq_error {raw : String} (solid : isBlank raw.toList = false) {error : FragmentError} :
    categories raw = .error error ↔ (restrictions raw).mapM (fieldTerms .categories) = .error error := by
  rw [categories_eq solid]
  cases (restrictions raw).mapM (fieldTerms .categories) with
  | error =>
    simp only [bind, Except.bind, Except.error.injEq]
  | ok pairs =>
    simp only [bind, Except.bind]
    split <;> simp

theorem categories_eq_ok {raw : String} (solid : isBlank raw.toList = false) {g? : Option Group} :
    categories raw = .ok g? ↔ ∃ pairs merged, List.Forall₂ Reads (restrictions raw) pairs ∧
      OrderedMap.Merges pairs merged ∧ g? = if merged = [] then none
        else some ⟨.and, merged.map fun (field, terms) => .test field (.isIn terms)⟩ := by
  rw [categories_eq solid]
  constructor
  · intro made
    obtain ⟨pairs, read, made⟩ := bind_eq_ok made
    refine ⟨pairs, _, mapM_fieldTerms_eq_ok.mp read, OrderedMap.merges_ofList pairs, ?_⟩
    split at made
    · rename_i empty
      cases made
      exact (if_pos (List.isEmpty_iff.mp empty)).symm
    · rename_i held
      cases made
      exact (if_neg fun empty => held (List.isEmpty_iff.mpr empty)).symm
  · rintro ⟨pairs, merged, reads, merges, rfl⟩
    obtain rfl := merges.unique (OrderedMap.merges_ofList pairs)
    rw [mapM_fieldTerms_eq_ok.mpr reads]
    simp only [bind, Except.bind, List.isEmpty_iff]
    split <;> rfl

theorem categories_fails_iff {raw : String} (solid : isBlank raw.toList = false) :
    (∃ error, categories raw = .error error) ↔ ∃ entry ∈ restrictions raw, ∀ pair, ¬Reads entry pair := by
  simp only [categories_eq_error solid]
  constructor
  · rintro ⟨error, failed⟩
    obtain ⟨before, entry, after, flaw, whole, -, flawed, -⟩ := mapM_fieldTerms_eq_error.mp failed
    refine ⟨entry, ?_, exists_noRestriction_iff.mp ⟨flaw, flawed⟩⟩
    rw [whole]
    exact List.mem_append_right _ List.mem_cons_self
  · rintro ⟨entry, member, unread⟩
    cases read : (restrictions raw).mapM (fieldTerms .categories) with
    | error error => exact ⟨error, rfl⟩
    | ok pairs =>
      obtain ⟨pair, own⟩ := exists_result_of_mapM_eq_ok read entry member
      exact absurd (fieldTerms_eq_ok.mp own) (unread pair)

/-- Each restriction is read by itself, and the first one that cannot be read is the error of them all. Fields that
come again keep their first place and take their last terms. -/
theorem categories_merge_by_field {raw : String} (solid : isBlank raw.toList = false) :
    ((∃ error, categories raw = .error error) ↔ ∃ entry ∈ restrictions raw, ∀ pair, ¬Reads entry pair) ∧
    (∀ error, categories raw = .error error ↔ ∃ before entry after flaw,
      restrictions raw = before ++ entry :: after ∧ (∀ other ∈ before, ∃ pair, Reads other pair) ∧
        NoRestriction entry flaw ∧ error = malformed .categories entry flaw) ∧
    (categories raw = .ok none ↔ restrictions raw = []) ∧
    (∀ g, categories raw = .ok (some g) ↔ restrictions raw ≠ [] ∧ ∃ pairs merged,
      List.Forall₂ Reads (restrictions raw) pairs ∧ OrderedMap.Merges pairs merged ∧
        (merged.map Prod.fst).Nodup ∧ g = ⟨.and, merged.map fun (field, terms) => .test field (.isIn terms)⟩) := by
  have nothing : ∀ {pairs merged : List (String × List Scalar)}, List.Forall₂ Reads (restrictions raw) pairs →
      OrderedMap.Merges pairs merged → (merged = [] ↔ restrictions raw = []) := by
    intro pairs merged reads merges
    rw [merges.eq_nil_iff, ← List.length_eq_zero_iff, ← List.length_eq_zero_iff, reads.length_eq]
  refine ⟨categories_fails_iff solid, fun error => ?_, ?_, fun g => ?_⟩
  · rw [categories_eq_error solid, mapM_fieldTerms_eq_error]
  · rw [categories_eq_ok solid]
    constructor
    · rintro ⟨pairs, merged, reads, merges, same⟩
      by_contra held
      rw [if_neg fun empty => held ((nothing reads merges).mp empty)] at same
      cases same
    · intro empty
      rw [empty]
      exact ⟨[], [], .nil, OrderedMap.merges_ofList [], rfl⟩
  · rw [categories_eq_ok solid]
    constructor
    · rintro ⟨pairs, merged, reads, merges, same⟩
      split at same
      · cases same
      · rename_i held
        exact ⟨fun empty => held ((nothing reads merges).mpr empty), pairs, merged, reads, merges, merges.nodup,
          Option.some.inj same⟩
    · rintro ⟨held, pairs, merged, reads, merges, -, rfl⟩
      exact ⟨pairs, merged, reads, merges, (if_neg fun empty => held ((nothing reads merges).mp empty)).symm⟩

/-- A field that comes again takes later terms in the place of the first ones. Empty entries and those with `all` in
them restrict nothing. -/
theorem later_terms_taken :
    let raw := "tags--1-2, kind--3 ,,small--9,tags--4"
    let broken := "tags--1,kind--,odd"
    (isBlank raw.toList = false ∧ isBlank broken.toList = false) ∧
      categories raw = .ok (some ⟨.and, [.test "tags" (.isIn [.int 4]), .test "kind" (.isIn [.int 3])]⟩) ∧
      categories broken = .error (.malformed .categories "kind--" .termsShape) := by
  intro raw broken
  have solid : isBlank raw.toList = false := by decide
  have solid' : isBlank broken.toList = false := by decide
  have chosen : restrictions raw = ["tags--1-2".toList, "kind--3".toList, "tags--4".toList] :=
    (filter_entries raw).symm.trans (by decide)
  have chosen' : restrictions broken = ["tags--1".toList, "kind--".toList, "odd".toList] :=
    (filter_entries broken).symm.trans (by decide)
  have read : (restrictions raw).mapM (fieldTerms .categories) =
      .ok [("tags", [.int 1, .int 2]), ("kind", [.int 3]), ("tags", [.int 4])] := by
    rw [chosen]
    decide
  have read' : fieldTerms .categories "tags--1".toList = .ok ("tags", [.int 1]) := by decide
  have unread : fieldTerms .categories "kind--".toList = .error (.malformed .categories "kind--" .termsShape) := by
    decide
  have earlier : ∀ other ∈ ["tags--1".toList], ∃ pair, Reads other pair :=
    List.forall_mem_singleton.mpr ⟨_, fieldTerms_eq_ok.mp read'⟩
  obtain ⟨flaw, flawed, named⟩ := fieldTerms_eq_error.mp unread
  have made := ((categories_merge_by_field solid).2.2.2 _).mpr ⟨by rw [chosen]; decide, _, _,
    mapM_fieldTerms_eq_ok.mp read, OrderedMap.merges_ofList _, OrderedMap.nodup _, rfl⟩
  have failed := ((categories_merge_by_field solid').2.1 _).mpr
    ⟨["tags--1".toList], "kind--".toList, ["odd".toList], flaw, chosen', earlier, flawed, named⟩
  exact ⟨⟨solid, solid'⟩, made, failed⟩

end Fragment
end Listing
