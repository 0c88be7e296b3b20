/-!
# Ordered maps

Finite maps that keep the order in which their keys first came. A key that is written again keeps its
place and takes the new value; `keys_insert` and `get?_insert` say so.
-/

namespace Listing

/-- A list of entries in which no key stands twice. -/
structure OrderedMap (κ ν : Type) where
  entries : List (κ × ν)
  nodup : (entries.map Prod.fst).Nodup
  deriving DecidableEq

namespace OrderedMap
variable {κ ν : Type}

def empty : OrderedMap κ ν := ⟨[], List.nodup_nil⟩

instance : EmptyCollection (OrderedMap κ ν) := ⟨empty⟩
instance : Inhabited (OrderedMap κ ν) := ⟨empty⟩

def keys (m : OrderedMap κ ν) : List κ := m.entries.map Prod.fst

def size (m : OrderedMap κ ν) : Nat := m.entries.length

variable [DecidableEq κ]

/-- The entries with `key` bound to `value`: in its place if it has one, else at the end. -/
def put (key : κ) (value : ν) : List (κ × ν) → List (κ × ν)
  | [] => [(key, value)]
  | entry :: rest =>
    if entry.1 = key then (key, value) :: rest else entry :: put key value rest

theorem map_fst_put (key : κ) (value : ν) (entries : List (κ × ν)) :
    (put key value entries).map Prod.fst =
      if key ∈ entries.map Prod.fst then entries.map Prod.fst
      else entries.map Prod.fst ++ [key] := by
  induction entries with
  | nil => simp [put]
  | cons entry rest ih =>
    by_cases same : entry.1 = key
    · simp [put, same]
    · by_cases later : key ∈ rest.map Prod.fst <;> simp_all [put, Ne.symm same]

def insert (m : OrderedMap κ ν) (key : κ) (value : ν) : OrderedMap κ ν where
  entries := put key value m.entries
  nodup := by
    rw [map_fst_put]
    split
    · exact m.nodup
    · rename_i fresh
      exact List.nodup_append.mpr ⟨m.nodup, by simp, by
        intro a mem b same
        cases List.mem_singleton.mp same
        exact fun eq => fresh (eq ▸ mem)⟩

def get? (m : OrderedMap κ ν) (key : κ) : Option ν := m.entries.lookup key

/-- Later pairs win, first places stay. -/
def ofList (pairs : List (κ × ν)) : OrderedMap κ ν :=
  pairs.foldl (fun m (key, value) => m.insert key value) ∅

theorem keys_insert (m : OrderedMap κ ν) (key : κ) (value : ν) :
    (m.insert key value).keys = if key ∈ m.keys then m.keys else m.keys ++ [key] :=
  map_fst_put key value m.entries

theorem lookup_cons_eq_ite (entry : κ × ν) (rest : List (κ × ν)) (key : κ) :
    (entry :: rest).lookup key = if key = entry.1 then some entry.2 else rest.lookup key := by
  obtain ⟨own, value⟩ := entry
  by_cases same : key = own
  · simp [same]
  · simp [List.lookup_cons, same, beq_eq_false_iff_ne.mpr same]

theorem lookup_map {ν' : Type} (change : κ → ν → ν') (entries : List (κ × ν)) (key : κ) :
    (entries.map fun e => (e.1, change e.1 e.2)).lookup key = (entries.lookup key).map (change key) := by
  induction entries with
  | nil => rfl
  | cons e rest ih =>
    rw [List.map_cons, lookup_cons_eq_ite, lookup_cons_eq_ite, ih]
    split
    · rename_i own
      rw [own, Option.map_some]
    · rfl

theorem lookup_put (key other : κ) (value : ν) (entries : List (κ × ν)) :
    (put key value entries).lookup other =
      if other = key then some value else entries.lookup other := by
  induction entries with
  | nil => simp [put, lookup_cons_eq_ite]
  | cons entry rest ih =>
    by_cases same : entry.1 = key
    · simp only [put, same, if_true, lookup_cons_eq_ite]
      split <;> simp_all
    · simp only [put, same, if_false, lookup_cons_eq_ite, ih]
      by_cases own : other = entry.1
      · simp [own, same]
      · simp [own]

theorem get?_insert (m : OrderedMap κ ν) (key other : κ) (value : ν) :
    (m.insert key value).get? other = if other = key then some value else m.get? other :=
  lookup_put key other value m.entries

theorem mem_of_lookup {entries : List (κ × ν)} {key : κ} {value : ν}
    (found : entries.lookup key = some value) : (key, value) ∈ entries := by
  induction entries with
  | nil => cases found
  | cons entry rest ih =>
    rw [lookup_cons_eq_ite] at found
    split at found
    · rename_i same
      rw [same, ← Option.some.inj found]
      exact List.mem_cons_self
    · exact List.mem_cons_of_mem _ (ih found)

theorem lookup_of_mem {entries : List (κ × ν)} {key : κ} {value : ν}
    (nodup : (entries.map Prod.fst).Nodup) (member : (key, value) ∈ entries) :
    entries.lookup key = some value := by
  induction entries with
  | nil => cases member
  | cons entry rest ih =>
    simp only [List.map_cons, List.nodup_cons] at nodup
    rw [lookup_cons_eq_ite]
    rcases List.mem_cons.mp member with same | later
    · rw [← same, if_pos rfl]
    · have apart : key ≠ entry.1 := by
        rintro rfl
        exact nodup.1 (List.mem_map.mpr ⟨(entry.1, value), later, rfl⟩)
      rw [if_neg apart, ih nodup.2 later]

theorem get?_eq_some_iff (m : OrderedMap κ ν) {key : κ} {value : ν} :
    m.get? key = some value ↔ (key, value) ∈ m.entries :=
  ⟨mem_of_lookup, lookup_of_mem m.nodup⟩

theorem put_of_notMem {entries : List (κ × ν)} {key : κ} (value : ν)
    (fresh : key ∉ entries.map Prod.fst) : put key value entries = entries ++ [(key, value)] := by
  induction entries with
  | nil => rfl
  | cons entry rest ih =>
    simp only [List.map_cons, List.mem_cons, not_or] at fresh
    rw [put, if_neg (Ne.symm fresh.1), ih fresh.2, List.cons_append]

theorem entries_foldl_insert {pairs : List (κ × ν)} {m : OrderedMap κ ν}
    (fresh : ((m.entries ++ pairs).map Prod.fst).Nodup) :
    (pairs.foldl (fun m pair => m.insert pair.1 pair.2) m).entries = m.entries ++ pairs := by
  induction pairs generalizing m with
  | nil => exact (List.append_nil _).symm
  | cons pair rest ih =>
    rw [List.append_cons] at fresh
    have new : pair.1 ∉ m.entries.map Prod.fst := by
      rw [List.map_append, List.map_append, List.append_assoc] at fresh
      intro old
      exact (List.nodup_append.mp fresh).2.2 _ old _ List.mem_cons_self rfl
    have step : (m.insert pair.1 pair.2).entries = m.entries ++ [pair] := put_of_notMem pair.2 new
    rw [List.foldl_cons, ih (step.symm ▸ fresh), step, ← List.append_cons]

/-- Pairs whose keys are distinct are the entries of their map. -/
theorem entries_ofList {pairs : List (κ × ν)} (nodup : (pairs.map Prod.fst).Nodup) :
    (ofList pairs).entries = pairs :=
  entries_foldl_insert nodup

theorem put_split {entries : List (κ × ν)} (key : κ) (value : ν)
    (nodup : (entries.map Prod.fst).Nodup) :
    ∃ before after, put key value entries = before ++ (key, value) :: after ∧
      before ++ after = entries.filter (·.1 ≠ key) := by
  induction entries with
  | nil => exact ⟨[], [], rfl, rfl⟩
  | cons entry rest ih =>
    simp only [List.map_cons, List.nodup_cons] at nodup
    by_cases same : entry.1 = key
    · have others : rest.filter (·.1 ≠ key) = rest := by
        apply List.filter_eq_self.mpr
        intro other member
        simp only [ne_eq, decide_not, Bool.not_eq_true', decide_eq_false_iff_not]
        rintro rfl
        exact nodup.1 (same ▸ List.mem_map_of_mem member)
      refine ⟨[], rest, by simp [put, same], ?_⟩
      rw [List.filter_cons_of_neg (by simp [same]), others, List.nil_append]
    · obtain ⟨before, after, whole, rests⟩ := ih nodup.2
      refine ⟨entry :: before, after, by simp [put, same, whole], ?_⟩
      rw [List.filter_cons_of_pos (by simp [same]), ← rests, List.cons_append]

/-- The entry of a key that has just been bound stands among the entries of the other keys. -/
theorem entries_insert (m : OrderedMap κ ν) (key : κ) (value : ν) :
    ∃ before after, (m.insert key value).entries = before ++ (key, value) :: after ∧
      before ++ after = m.entries.filter (·.1 ≠ key) :=
  put_split key value m.nodup

/-- What holds of the entries of a map still holds once a binding of which it holds has been added. -/
theorem forall_insert {P : κ → ν → Prop} {m : OrderedMap κ ν} (all : ∀ entry ∈ m.entries, P entry.1 entry.2)
    (key : κ) {value : ν} (new : P key value) : ∀ entry ∈ (m.insert key value).entries, P entry.1 entry.2 := by
  obtain ⟨before, after, whole, others⟩ := m.entries_insert key value
  intro entry member
  rw [whole, List.mem_append, List.mem_cons, or_left_comm, ← List.mem_append, others] at member
  rcases member with rfl | old
  · exact new
  · exact all entry (List.mem_filter.mp old).1

theorem forall_ofList {P : ν → Prop} {pairs : List (κ × ν)} (all : ∀ pair ∈ pairs, P pair.2) :
    ∀ entry ∈ (ofList pairs).entries, P entry.2 := by
  have folded : ∀ m : OrderedMap κ ν, (∀ entry ∈ m.entries, P entry.2) →
      ∀ entry ∈ (pairs.foldl (fun m pair => m.insert pair.1 pair.2) m).entries, P entry.2 := by
    induction pairs with
    | nil => exact fun _ before => before
    | cons pair rest ih =>
      obtain ⟨own, later⟩ := List.forall_mem_cons.mp all
      exact fun _ before => ih later _ (forall_insert (P := fun _ => P) before pair.1 own)
  exact folded ∅ (List.forall_mem_nil _)

end OrderedMap
end Listing
