import Listing.Proofs.Query.Changes

/-!
What a built request owes to its parameters. A part of it comes from the parameters under a few keys, so
parameters under other keys may be added, dropped, replaced or moved. Parameters that set no part in common
may stand in any order.
-/

namespace Listing

theorem map_eq_ok {ε α β : Type} {f : α → β} {x : Except ε α} {y : β} (h : x.map f = .ok y) :
    ∃ a, x = .ok a ∧ f a = y := by
  cases x with
  | error => cases h
  | ok a => exact ⟨a, rfl, Except.ok.inj h⟩

/-! ### Writers -/

theorem Key.eq_of_name {key key' : Key} (same : key.name = key'.name) : key = key' := by
  have found := Key.ofName?_name key
  rw [same, Key.ofName?_name] at found
  exact (Option.some.inj found).symm

namespace Part
variable {part : Part}

theorem name_ne (key : Key) (other : key ∉ part.writers) : ∀ writer ∈ part.writers, writer.name ≠ key.name := by
  intro writer writes same
  exact other (Key.eq_of_name same ▸ writes)

theorem range_mem_writers : Key.range ∈ part.writers ↔ part = .window := by
  cases part <;> simp [writers]

theorem paged_mem_writers : Key.paged ∈ part.writers ↔ part = .page := by
  cases part <;> simp [writers]

theorem random_mem_writers : Key.random ∈ part.writers ↔ part = .random := by
  cases part <;> simp [writers]

end Part

namespace Builder
variable {b : Builder} {part : Part}

theorem change_writers {raw : String} {key : Key} {c : Change} (read : b.change raw key = .ok c)
    (set : part ∈ c.parts) : key ∈ part.writers := by
  cases key with
  | entityType | contentType | viewMode | random =>
    cases read
    obtain rfl := List.mem_singleton.mp set
    decide
  | sticky | nid | nids | sort | range | paged | categoryIgnore | date | byMonth =>
    obtain ⟨_, _, rfl⟩ := map_eq_ok read
    obtain rfl := List.mem_singleton.mp set
    simp [Part.writers]
  | address =>
    obtain ⟨_, _, rfl⟩ := map_eq_ok read
    obtain rfl := List.mem_singleton.mp set
    simp [Part.writers]
  | field =>
    obtain ⟨_, _, rfl⟩ := map_eq_ok read
    obtain ⟨_, _, rfl⟩ := List.mem_map.mp set
    simp [Part.writers]
  | category | categories =>
    obtain ⟨group?, _, rfl⟩ := map_eq_ok read
    cases group? with
    | none => cases set
    | some =>
      obtain rfl := List.mem_singleton.mp set
      decide

theorem effect_writers {entry : String × String} (set : part ∈ (b.effect entry).parts) :
    ∃ key ∈ part.writers, key.name = entry.1 := by
  unfold effect changeOf at set
  cases named : Key.ofName? entry.1 with
  | none =>
    rw [named] at set
    cases set
  | some key =>
    rw [named] at set
    by_cases blank : Text.isBlank entry.2.toList = true
    · simp only [blank, if_true] at set
      cases set
    · simp only [blank] at set
      cases read : b.change entry.2 key with
      | error =>
        rw [read] at set
        cases set
      | ok c =>
        rw [read] at set
        exact ⟨key, change_writers read set, Key.name_of_ofName? named⟩

theorem effect_unset {entry : String × String} (other : ∀ key ∈ part.writers, key.name ≠ entry.1) :
    part ∉ (b.effect entry).parts := by
  intro set
  obtain ⟨key, writes, name⟩ := effect_writers set
  exact other key writes name

/-! ### Histories of a part -/

/-- The changes of a list of parameters that set a part. -/
def history (b : Builder) (part : Part) (entries : List (String × String)) : List Change :=
  (entries.map b.effect).filter (part ∈ ·.parts)

theorem history_append (first second : List (String × String)) :
    b.history part (first ++ second) = b.history part first ++ b.history part second := by
  unfold history
  rw [List.map_append, List.filter_append]

theorem history_cons_of_set {entry : String × String} (rest : List (String × String))
    (set : part ∈ (b.effect entry).parts) :
    b.history part (entry :: rest) = b.effect entry :: b.history part rest := by
  unfold history
  rw [List.map_cons, List.filter_cons_of_pos (by simpa using set)]

theorem history_cons_of_unset {entry : String × String} (rest : List (String × String))
    (unset : part ∉ (b.effect entry).parts) :
    b.history part (entry :: rest) = b.history part rest := by
  unfold history
  rw [List.map_cons, List.filter_cons_of_neg (by simpa using unset)]

theorem history_filter {keep : String × String → Bool} {entries : List (String × String)}
    (dropped : ∀ entry ∈ entries, keep entry = false → part ∉ (b.effect entry).parts) :
    b.history part (entries.filter keep) = b.history part entries := by
  induction entries with
  | nil => rfl
  | cons entry rest ih =>
    have tail := ih fun other member => dropped other (List.mem_cons_of_mem _ member)
    by_cases kept : keep entry = true
    · rw [List.filter_cons_of_pos kept]
      by_cases set : part ∈ (b.effect entry).parts
      · rw [history_cons_of_set _ set, history_cons_of_set _ set, tail]
      · rw [history_cons_of_unset _ set, history_cons_of_unset _ set, tail]
    · have unset := dropped entry List.mem_cons_self (by simpa using kept)
      rw [List.filter_cons_of_neg kept, history_cons_of_unset _ unset, tail]

/-- What a part is like in a draft depends on its history alone. -/
theorem draft_agree {entries entries' : List (String × String)}
    (same : b.history part entries = b.history part entries') :
    (b.draft entries).Agree (b.draft entries') part :=
  Draft.foldl_apply_of_filter_eq b.blank same

/-! ### Order -/

def Orderless (b : Builder) (entries : List (String × String)) : Prop :=
  entries.Pairwise fun first second => ∀ part ∈ (b.effect first).parts, part ∉ (b.effect second).parts

theorem history_length_le {entries : List (String × String)} (orderless : b.Orderless entries) :
    (b.history part entries).length ≤ 1 := by
  induction entries with
  | nil => exact Nat.zero_le 1
  | cons entry rest ih =>
    obtain ⟨apart, later⟩ := List.pairwise_cons.mp orderless
    by_cases set : part ∈ (b.effect entry).parts
    · have none : b.history part rest = [] := by
        unfold history
        simp only [List.filter_eq_nil_iff, List.forall_mem_map, decide_eq_true_eq]
        exact fun other member => apart other member part set
      rw [history_cons_of_set _ set, none]
      exact Nat.le_refl 1
    · rw [history_cons_of_unset _ set]
      exact ih later

theorem history_perm {entries entries' : List (String × String)} (orderless : b.Orderless entries)
    (perm : entries.Perm entries') : b.history part entries = b.history part entries' := by
  have same : (b.history part entries).Perm (b.history part entries') := (perm.map b.effect).filter _
  have short : (b.history part entries).length ≤ 1 := history_length_le orderless
  match first : b.history part entries, short with
  | [], _ =>
    rw [first] at same
    exact (List.nil_perm.mp same).symm
  | [c], _ =>
    rw [first] at same
    exact List.singleton_perm.mp same

theorem draft_unset {p : Params} (unset : ∀ writer ∈ part.writers, writer.name ∉ p.keys) :
    (b.draft p.entries).Agree b.blank part := by
  have empty : b.history part p.entries = b.history part [] := by
    unfold history
    simp only [List.map_nil, List.filter_nil, List.filter_eq_nil_iff, List.forall_mem_map, decide_eq_true_eq]
    intro entry member
    refine effect_unset fun writer writes name => unset writer writes ?_
    exact name ▸ List.mem_map_of_mem member
  exact draft_agree empty

/-! ### Bound keys -/

theorem foldlM_take_insert {p : Params} {key value : String} {c : Change} (fresh : key ∉ p.keys)
    (change : b.changeOf (key, value) = .ok c) :
    (p.insert key value).entries.foldlM b.take b.blank = (p.entries.foldlM b.take b.blank).map (·.apply c) := by
  have last (d : Draft) : [(key, value)].foldlM b.take d = .ok (d.apply c) := by
    rw [List.foldlM_cons, take_eq, change]
    rfl
  have whole : (p.insert key value).entries = p.entries ++ [(key, value)] := OrderedMap.put_of_notMem value fresh
  rw [whole, List.foldlM_append]
  cases p.entries.foldlM b.take b.blank with
  | error => rfl
  | ok d => exact last d

theorem draft_insert_agree {p : Params} {key value : String}
    (other : ∀ writer ∈ part.writers, writer.name ≠ key) :
    (b.draft (p.insert key value).entries).Agree (b.draft p.entries) part := by
  obtain ⟨before, after, whole, others⟩ := p.entries_insert key value
  apply draft_agree
  have unset : part ∉ (b.effect (key, value)).parts := effect_unset other
  have dropped : b.history part (p.entries.filter (·.1 ≠ key)) = b.history part p.entries := by
    apply history_filter
    intro entry _ bound
    have same : entry.1 = key := by simpa using bound
    exact effect_unset fun writer writes => same ▸ other writer writes
  rw [whole, history_append, history_cons_of_unset _ unset, ← history_append, others, dropped]

/-- A key that has just been bound is alone in the history of a part that no other key sets. -/
theorem history_insert {p : Params} {key value : String}
    (alone : ∀ writer ∈ part.writers, writer.name ≠ key → writer.name ∉ p.keys)
    (set : part ∈ (b.effect (key, value)).parts) :
    b.history part (p.insert key value).entries = [b.effect (key, value)] := by
  obtain ⟨before, after, whole, others⟩ := p.entries_insert key value
  have empty : b.history part (before ++ after) = [] := by
    rw [others]
    unfold history
    simp only [List.filter_eq_nil_iff, List.forall_mem_map, decide_eq_true_eq, List.mem_filter, ne_eq,
      decide_not, Bool.not_eq_true', decide_eq_false_iff_not, and_imp]
    intro entry member different
    refine effect_unset fun writer writes name => alone writer writes ?_ ?_
    · exact fun own => different (name.symm.trans own)
    · exact name ▸ List.mem_map_of_mem member
  rw [history_append] at empty
  obtain ⟨first, second⟩ := List.append_eq_nil_iff.mp empty
  rw [whole, history_append, history_cons_of_set _ set, first, second, List.nil_append]

/-- What a key has just set, where no other key does, is as if nothing else had been asked for. -/
theorem draft_insert_set {p : Params} {key value : String} {c : Change}
    (alone : ∀ writer ∈ part.writers, writer.name ≠ key → writer.name ∉ p.keys)
    (change : b.changeOf (key, value) = .ok c) (set : part ∈ c.parts) :
    (b.draft (p.insert key value).entries).Agree (b.blank.apply c) part := by
  have effect : b.effect (key, value) = c := by simp only [Builder.effect, change]
  have history : b.history part (p.insert key value).entries = [c] := by
    rw [history_insert alone (effect ▸ set), effect]
  have own : [c].filter (part ∈ ·.parts) = [c] := List.filter_cons_of_pos (by simpa using set)
  exact Draft.foldl_apply_of_filter_eq b.blank (history.trans own.symm)

theorem accepts_insert {p : Params} {key value : String}
    (accepted : ∀ entry ∈ p.entries, entry.1 ≠ key → b.Accepts entry)
    (new : b.Accepts (key, value)) : ∀ entry ∈ (p.insert key value).entries, b.Accepts entry := by
  obtain ⟨before, after, whole, others⟩ := p.entries_insert key value
  intro entry member
  rw [whole, List.mem_append, List.mem_cons, or_left_comm, ← List.mem_append, others] at member
  rcases member with rfl | old
  · exact new
  · obtain ⟨old, different⟩ := List.mem_filter.mp old
    exact accepted entry old (by simpa using different)

end Builder

/-! ### Finished requests -/

/-- Two descriptors select the same records in the same order: they differ in the window, in whether the
order is random, and in how their conditions are listed, if at all. -/
structure Descriptor.Alike (d d' : Descriptor) : Prop where
  entityKind : d.entityKind = d'.entityKind
  bundleField : d.bundleField = d'.bundleField
  bundle : d.bundle = d'.bundle
  conditions : ∀ field, d.conditions.get? field = d'.conditions.get? field
  group : d.group = d'.group
  dates : d.dates = d'.dates
  sort : d.sort = d'.sort

structure ParsedRequest.Same (r r' : ParsedRequest) : Prop where
  alike : r.descriptor.Alike r'.descriptor
  random : r.descriptor.random = r'.descriptor.random
  window : r.descriptor.window = r'.descriptor.window
  viewMode : r.viewMode = r'.viewMode
  pager : r.pager = r'.pager

namespace Builder
variable {d d' : Draft}

theorem finish_alike (b : Builder)
    (agree : ∀ part, part ≠ .page → part ≠ .window → part ≠ .random → d.Agree d' part) :
    (b.finish d).descriptor.Alike (b.finish d').descriptor ∧
      (b.finish d).viewMode = (b.finish d').viewMode := by
  have kind : d.descriptor.entityKind = d'.descriptor.entityKind :=
    agree .entityKind (by decide) (by decide) (by decide)
  have category : d.descriptor.group = d'.descriptor.group :=
    agree .category (by decide) (by decide) (by decide)
  have ignored : d.ignored = d'.ignored := agree .ignored (by decide) (by decide) (by decide)
  refine ⟨⟨kind, ?_, agree .bundle (by decide) (by decide) (by decide), ?_, ?_,
    agree .dates (by decide) (by decide) (by decide), agree .sort (by decide) (by decide) (by decide)⟩,
    agree .viewMode (by decide) (by decide) (by decide)⟩
  · exact congrArg b.settings.bundleField kind
  · intro field
    exact agree (.condition field) (by simp) (by simp) (by simp)
  · simp only [finish, category, ignored]

theorem finish_same (b : Builder) (agree : ∀ part, d.Agree d' part) : (b.finish d).Same (b.finish d') := by
  obtain ⟨alike, viewMode⟩ := b.finish_alike fun part _ _ _ => agree part
  have pager : d.pager = d'.pager := agree .page
  have window : d.window = d'.window := agree .window
  have usual : d.descriptor.window = d'.descriptor.window := agree .defaults
  have random : d.descriptor.random = d'.descriptor.random := agree .random
  refine ⟨alike, ?_, ?_, viewMode, pager⟩
  · simp only [finish, pager, random]
  · simp only [finish, pager, window, usual]

theorem finish_paged (b : Builder) {spec : PageSpec} (paged : d.pager = some spec) :
    (b.finish d).descriptor.window = spec.window ∧ (b.finish d).descriptor.random = false ∧
      (b.finish d).pager = some spec := by
  simp only [finish, paged, Option.isNone_some, Bool.and_false, and_self]

def standard : Builder :=
  (Builder.make .standard ⟨2024, 1, 1, by decide⟩).toOption.get (by decide)

end Builder
end Listing
