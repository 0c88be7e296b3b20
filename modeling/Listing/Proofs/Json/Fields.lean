import Listing.Json.Reader

/-!
The objects that are read from a text have their fields sorted, each name once. So a request of a batch is told
by what its entries are: their order goes without saying.
-/

namespace Listing

def Ascending {ν : Type} (entries : List (String × ν)) : Prop :=
  entries.Pairwise fun first second => compare first.1 second.1 = .lt

namespace Ascending
variable {ν ν' : Type} {entries others : List (String × ν)}

theorem lt_irrefl (key : String) : compare key key ≠ .lt := by
  have self : compare key key = .eq := Std.ReflCmp.compare_self
  rw [self]
  nofun

theorem nodup (ascending : Ascending entries) : (entries.map Prod.fst).Nodup := by
  refine List.pairwise_map.mpr (ascending.imp ?_)
  intro first second below same
  rw [same] at below
  exact lt_irrefl _ below

theorem eq_of_perm (ascending : Ascending entries) (ascending' : Ascending others) (perm : entries.Perm others) :
    entries = others := by
  refine perm.eq_of_pairwise ?_ ascending ascending'
  intro first second _ _ below above
  exact absurd (Std.TransCmp.lt_trans below above) (lt_irrefl _)

theorem of_map_fst {others : List (String × ν')} (same : others.map Prod.fst = entries.map Prod.fst)
    (ascending : Ascending entries) : Ascending others := by
  unfold Ascending at *
  rw [← List.pairwise_map (f := Prod.fst) (R := fun a b : String => compare a b = .lt)] at *
  rwa [same]

end Ascending

namespace Json

/-- A value in which the fields of every object ascend. -/
inductive Tidy : Json → Prop where
  | null : Tidy null
  | bool (b : Bool) : Tidy (bool b)
  | number (n : Number) : Tidy (number n)
  | text (s : String) : Tidy (text s)
  | array {items : List Json} (all : ∀ item ∈ items, Tidy item) : Tidy (array items)
  | object {fields : List (String × Json)} (ascending : Ascending fields) (all : ∀ field ∈ fields, Tidy field.2) :
      Tidy (object fields)

theorem mem_putField {name : String} {value : Json} {fields : List (String × Json)} {field : String × Json}
    (member : field ∈ putField name value fields) : field = (name, value) ∨ field ∈ fields := by
  induction fields with
  | nil => exact .inl (List.mem_singleton.mp member)
  | cons first rest ih =>
    unfold putField at member
    split at member
    · exact List.mem_cons.mp member
    · exact (List.mem_cons.mp member).imp_right (List.mem_cons_of_mem _)
    · rcases List.mem_cons.mp member with rfl | later
      · exact .inr List.mem_cons_self
      · exact (ih later).imp_right (List.mem_cons_of_mem _)

theorem ascending_putField {fields : List (String × Json)} (ascending : Ascending fields) (name : String)
    (value : Json) : Ascending (putField name value fields) := by
  induction fields with
  | nil => exact List.pairwise_singleton _ _
  | cons first rest ih =>
    obtain ⟨above, later⟩ := List.pairwise_cons.mp ascending
    unfold putField
    split
    · rename_i below
      refine List.pairwise_cons.mpr ⟨List.forall_mem_cons.mpr ⟨below, ?_⟩, ascending⟩
      exact fun field member => Std.TransCmp.lt_trans below (above field member)
    · rename_i same
      rw [← Std.LawfulEqOrd.eq_of_compare same] at above
      exact List.pairwise_cons.mpr ⟨above, later⟩
    · rename_i behind
      refine List.pairwise_cons.mpr ⟨fun field member => ?_, ih later⟩
      rcases mem_putField member with rfl | old
      · exact Std.OrientedCmp.lt_of_gt behind
      · exact above field old

theorem putField_perm {fields : List (String × Json)} {name : String} (fresh : name ∉ fields.map Prod.fst)
    (value : Json) : (putField name value fields).Perm ((name, value) :: fields) := by
  induction fields with
  | nil => exact .refl _
  | cons first rest ih =>
    simp only [List.map_cons, List.mem_cons, not_or] at fresh
    unfold putField
    split
    · exact .refl _
    · rename_i same
      exact absurd (Std.LawfulEqOrd.eq_of_compare same) fresh.1
    · exact ((ih fresh.2).cons first).trans (.swap _ _ _)

section
variable {done : List (String × Json)} (fields : List (String × Json))

theorem ascending_foldl_putField (ascending : Ascending done) :
    Ascending (fields.foldl (fun done field => putField field.1 field.2 done) done) := by
  induction fields generalizing done with
  | nil => exact ascending
  | cons field rest ih => exact ih (ascending_putField ascending field.1 field.2)

theorem mem_foldl_putField {field : String × Json}
    (member : field ∈ fields.foldl (fun done field => putField field.1 field.2 done) done) :
    field ∈ done ∨ field ∈ fields := by
  induction fields generalizing done with
  | nil => exact .inl member
  | cons first rest ih =>
    rcases ih member with put | later
    · exact (mem_putField put).elim (fun own => .inr (own ▸ List.mem_cons_self)) .inl
    · exact .inr (List.mem_cons_of_mem _ later)

theorem foldl_putField_perm (nodup : ((done ++ fields).map Prod.fst).Nodup) :
    (fields.foldl (fun done field => putField field.1 field.2 done) done).Perm (done ++ fields) := by
  induction fields generalizing done with
  | nil => exact .of_eq (List.append_nil done).symm
  | cons field rest ih =>
    have moved : (field :: done ++ rest).Perm (done ++ field :: rest) := List.perm_middle.symm
    have distinct : (field.1 :: (done ++ rest).map Prod.fst).Nodup := (moved.map Prod.fst).nodup_iff.mpr nodup
    have fresh : field.1 ∉ done.map Prod.fst := fun old =>
      (List.nodup_cons.mp distinct).1 (List.map_append ▸ List.mem_append_left _ old)
    have put := (putField_perm fresh field.2).append_right rest
    exact (ih ((put.map Prod.fst).nodup_iff.mpr distinct)).trans (put.trans moved)

end

theorem tidy_ofFields {fields : List (String × Json)} (all : ∀ field ∈ fields, field.2.Tidy) :
    (ofFields fields).Tidy := by
  refine .object (ascending_foldl_putField fields .nil) fun field member => ?_
  exact all field ((mem_foldl_putField fields member).resolve_left List.not_mem_nil)

theorem exists_ascending {fields : List (String × Json)} (nodup : (fields.map Prod.fst).Nodup) :
    ∃ sorted, ofFields fields = object sorted ∧ Ascending sorted ∧ sorted.Perm fields :=
  ⟨_, rfl, ascending_foldl_putField fields .nil, foldl_putField_perm fields nodup⟩

/-! ### Values as they are read -/

namespace Reader

structure Tidies (fuel : Nat) : Prop where
  value : ∀ {depth cs value rest}, value? fuel depth cs = some (value, rest) → value.Tidy
  items : ∀ {depth cs items rest}, items? fuel depth cs = some (items, rest) → ∀ item ∈ items, item.Tidy
  fields : ∀ {depth cs fields rest}, fields? fuel depth cs = some (fields, rest) → ∀ field ∈ fields, field.2.Tidy

theorem tidy_of_expect {name cs rest : List Char} {value found : Json} (tidy : value.Tidy)
    (read : expect name value cs = some (found, rest)) : found.Tidy := by
  unfold expect at read
  split at read
  · cases read
    exact tidy
  · cases read

theorem Tidies.value_succ {fuel depth : Nat} (tidies : Tidies fuel) {cs rest : List Char} {value : Json}
    (read : value? (fuel + 1) depth cs = some (value, rest)) : value.Tidy := by
  unfold value? at read
  split at read
  · obtain ⟨_, _, made⟩ := Option.map_eq_some_iff.mp read
    cases made
    exact .text _
  · split at read
    · cases read
    · split at read
      · cases read
        exact .array (List.forall_mem_nil _)
      · obtain ⟨_, inner, made⟩ := Option.map_eq_some_iff.mp read
        cases made
        exact .array (tidies.items inner)
  · split at read
    · cases read
    · split at read
      · cases read
        exact .object .nil (List.forall_mem_nil _)
      · obtain ⟨_, inner, made⟩ := Option.map_eq_some_iff.mp read
        cases made
        exact tidy_ofFields (tidies.fields inner)
  · obtain ⟨_, _, made⟩ := Option.map_eq_some_iff.mp read
    cases made
    exact .number _
  · split at read
    · obtain ⟨_, _, made⟩ := Option.map_eq_some_iff.mp read
      cases made
      exact .number _
    · rw [Option.orElse_eq_or, Option.or_eq_some_iff, Option.orElse_eq_or, Option.or_eq_some_iff] at read
      rcases read with nothing | ⟨_, truth | ⟨_, falsity⟩⟩
      · exact tidy_of_expect .null nothing
      · exact tidy_of_expect (.bool true) truth
      · exact tidy_of_expect (.bool false) falsity
  · cases read

theorem Tidies.items_succ {fuel depth : Nat} (tidies : Tidies fuel) {cs rest : List Char} {items : List Json}
    (read : items? (fuel + 1) depth cs = some (items, rest)) : ∀ item ∈ items, item.Tidy := by
  unfold items? at read
  obtain ⟨⟨item, behind⟩, first, read⟩ := Option.bind_eq_some_iff.mp read
  simp only at read
  split at read
  · obtain ⟨⟨later, _⟩, others, read⟩ := Option.bind_eq_some_iff.mp read
    cases read
    exact List.forall_mem_cons.mpr ⟨tidies.value first, tidies.items others⟩
  · cases read
    exact List.forall_mem_singleton.mpr (tidies.value first)
  · cases read

theorem Tidies.fields_succ {fuel depth : Nat} (tidies : Tidies fuel) {cs rest : List Char}
    {fields : List (String × Json)} (read : fields? (fuel + 1) depth cs = some (fields, rest)) :
    ∀ field ∈ fields, field.2.Tidy := by
  unfold fields? at read
  split at read
  · obtain ⟨⟨name, behind⟩, _, read⟩ := Option.bind_eq_some_iff.mp read
    simp only at read
    split at read
    · obtain ⟨⟨value, behind⟩, first, read⟩ := Option.bind_eq_some_iff.mp read
      simp only at read
      split at read
      · obtain ⟨⟨later, _⟩, others, read⟩ := Option.bind_eq_some_iff.mp read
        cases read
        exact List.forall_mem_cons.mpr ⟨tidies.value first, tidies.fields others⟩
      · cases read
        exact List.forall_mem_singleton.mpr (tidies.value first)
      · cases read
    · cases read
  · cases read

theorem tidies (fuel : Nat) : Tidies fuel := by
  -- Values, items and fields call each other with one step less, so that one induction carries all three.
  induction fuel with
  | zero => exact ⟨by simp [value?], by simp [items?], by simp [fields?]⟩
  | succ fuel ih => exact ⟨ih.value_succ, ih.items_succ, ih.fields_succ⟩

end Reader

/-- Whatever a text holds, no object in it has a field twice, and the fields of each stand in order. -/
theorem tidy_of_parse? {text : String} {value : Json} (read : parse? text = some value) : value.Tidy := by
  unfold parse? at read
  simp only at read
  split at read
  · rename_i inner
    split at read
    · cases read
      exact (Reader.tidies _).value inner
    · cases read
  · cases read

end Json
end Listing
