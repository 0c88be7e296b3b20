import Listing.Query.Build

/-!
How a request becomes a draft. What a parameter does can be told without the draft that it is done to:
it is a change, read off the parameter alone, that sets some parts of any draft and leaves the others. So
each part of the finished draft comes from the parameters that set it, and from no others.
-/

namespace Listing

inductive Change where
  | nothing
  | entityKind (kind : String)
  | bundle (bundle : Bundle)
  | viewMode (mode : String)
  | require (leaves : List Leaf)
  | sort (keys : List SortKey)
  | window (w : Window)
  | page (spec : PageSpec)
  | category (group : Group)
  | ignore (group : Group)
  | dates (group : Group)
  | random (flag : Bool)

def Draft.requireAll (d : Draft) (leaves : List Leaf) : Draft :=
  leaves.foldl (fun d leaf => d.require leaf.field leaf.test) d

def Draft.apply (d : Draft) : Change → Draft
  | .nothing => d
  | .entityKind kind => { d with descriptor.entityKind := kind }
  | .bundle bundle => { d with descriptor.bundle := bundle }
  | .viewMode mode => { d with viewMode := mode }
  | .require leaves => d.requireAll leaves
  | .sort keys => { d with descriptor.sort := keys }
  | .window w => { d with window := some w }
  | .page spec => { d with pager := some spec }
  | .category group => { d with descriptor.group := some group }
  | .ignore group => { d with ignored := some group }
  | .dates group => { d with descriptor.dates := some group }
  | .random flag => { d with descriptor.random := flag }

/-! ### Reading changes -/

theorem Fragment.solid_of_required {α : Type} {key : Key} {raw : String} {a : α}
    {read : List Char → Except FragmentError α} (success : (required key raw).bind read = .ok a) :
    Text.isBlank raw.toList = false := by
  unfold required at success
  cases blank : Text.isBlank raw.toList with
  | false => rfl
  | true =>
    rw [blank] at success
    cases success

namespace Builder

def change (b : Builder) (raw : String) : Key → Except FragmentError Change
  | .entityType => .ok (.entityKind (Text.trimmed raw))
  | .contentType => .ok (.bundle (.ofList (Fragment.bundles raw)))
  | .viewMode => .ok (.viewMode (Text.trimmed raw))
  | .sticky => (Fragment.scalar .sticky raw).map fun value => .require [⟨"sticky", .equals value⟩]
  | .nid => (Fragment.scalar .nid raw).map fun value => .require [⟨b.settings.idField, .equals value⟩]
  | .nids => (Fragment.idList raw).map fun ids => .require [⟨b.settings.idField, .isIn ids⟩]
  | .sort => (Fragment.sortKeys raw).map .sort
  | .range => (Fragment.window raw).map .window
  | .paged => (Fragment.pageSpec raw).map .page
  | .field => (Fragment.fieldTests raw).map .require
  | .address => (Fragment.address raw).map fun leaf => .require [leaf]
  | .category => (Fragment.category raw).map fun group? => group?.elim .nothing .category
  | .categories => (Fragment.categories raw).map fun group? => group?.elim .nothing .category
  | .categoryIgnore => (Fragment.categoryIgnore raw).map .ignore
  | .date => (b.dates Fragment.date raw).map .dates
  | .byMonth => (b.dates Fragment.month raw).map .dates
  | .random => .ok (.random (Fragment.flag raw))

/-- The change that a parameter stands for. Keys outside the language and blank values change nothing. -/
def changeOf (b : Builder) (entry : String × String) : Except BuildError Change :=
  match Key.ofName? entry.1 with
  | none => .ok .nothing
  | some key =>
    if Text.isBlank entry.2.toList then .ok .nothing
    else (b.change entry.2 key).mapError .ofFragment

theorem changeOf_of_change {b : Builder} {raw : String} {key : Key} {c : Change}
    (solid : Text.isBlank raw.toList = false) (read : b.change raw key = .ok c) :
    b.changeOf (key.name, raw) = .ok c := by
  simp only [changeOf, Key.ofName?_name, solid, read]
  rfl

theorem changeOf_field {b : Builder} {text : String} {leaves : List Leaf}
    (read : Fragment.fieldTests text = .ok leaves) : b.changeOf ("field", text) = .ok (.require leaves) := by
  have change : b.change text .field = .ok (.require leaves) := by
    rw [Builder.change, read]
    rfl
  exact changeOf_of_change (Fragment.solid_of_required read) change

theorem apply_eq (b : Builder) (d : Draft) (raw : String) (key : Key) :
    b.apply d raw key = (b.change raw key).map d.apply := by
  cases key with
  | entityType | contentType | viewMode | random => rfl
  | sticky | nid =>
    simp only [apply, change]
    cases Fragment.scalar _ raw <;> rfl
  | nids =>
    simp only [apply, change]
    cases Fragment.idList raw <;> rfl
  | sort =>
    simp only [apply, change]
    cases Fragment.sortKeys raw <;> rfl
  | range =>
    simp only [apply, change]
    cases Fragment.window raw <;> rfl
  | paged =>
    simp only [apply, change]
    cases Fragment.pageSpec raw <;> rfl
  | field =>
    simp only [apply, change]
    cases Fragment.fieldTests raw <;> rfl
  | address =>
    simp only [apply, change]
    cases Fragment.address raw <;> rfl
  | category =>
    simp only [apply, change]
    rcases Fragment.category raw with error | _ | group <;> rfl
  | categories =>
    simp only [apply, change]
    rcases Fragment.categories raw with error | _ | group <;> rfl
  | categoryIgnore =>
    simp only [apply, change]
    cases Fragment.categoryIgnore raw <;> rfl
  | date =>
    simp only [apply, change]
    cases b.dates Fragment.date raw <;> rfl
  | byMonth =>
    simp only [apply, change]
    cases b.dates Fragment.month raw <;> rfl

theorem take_eq (b : Builder) (d : Draft) (entry : String × String) :
    b.take d entry = (b.changeOf entry).map d.apply := by
  unfold take changeOf
  cases Key.ofName? entry.1 with
  | none => rfl
  | some key =>
    simp only [apply_eq]
    split
    · rfl
    · cases b.change entry.2 key <;> rfl

def Accepts (b : Builder) (entry : String × String) : Prop := ∃ c, b.changeOf entry = .ok c

def effect (b : Builder) (entry : String × String) : Change :=
  match b.changeOf entry with
  | .ok c => c
  | .error _ => .nothing

def draft (b : Builder) (entries : List (String × String)) : Draft :=
  (entries.map b.effect).foldl Draft.apply b.blank

theorem foldlM_take_eq_ok {b : Builder} {entries : List (String × String)} {d d' : Draft} :
    entries.foldlM b.take d = .ok d' ↔
      (∀ entry ∈ entries, b.Accepts entry) ∧ d' = (entries.map b.effect).foldl Draft.apply d := by
  induction entries generalizing d with
  | nil =>
    simp only [List.foldlM_nil, List.not_mem_nil, false_imp_iff, implies_true, true_and, List.map_nil,
      List.foldl_nil]
    exact ⟨fun h => (Except.ok.inj h).symm, fun h => congrArg Except.ok h.symm⟩
  | cons entry rest ih =>
    rw [List.foldlM_cons, take_eq, List.forall_mem_cons, List.map_cons, List.foldl_cons]
    cases read : b.changeOf entry with
    | error error =>
      constructor
      · rintro ⟨⟩
      · rintro ⟨⟨⟨c, accepted⟩, _⟩, _⟩
        rw [read] at accepted
        cases accepted
    | ok c =>
      have accepted : b.Accepts entry := ⟨c, read⟩
      have effect : b.effect entry = c := by simp only [Builder.effect, read]
      change rest.foldlM b.take (d.apply c) = .ok d' ↔ _
      rw [ih, effect]
      simp only [accepted, true_and]

theorem build_eq_ok {b : Builder} {p : Params} {request : ParsedRequest} :
    b.build p = .ok request ↔
      (∀ entry ∈ p.entries, b.Accepts entry) ∧ request = b.finish (b.draft p.entries) := by
  unfold build draft
  cases taken : p.entries.foldlM b.take b.blank with
  | error error =>
    constructor
    · rintro ⟨⟩
    · rintro ⟨accepted, _⟩
      have folded := (foldlM_take_eq_ok (d := b.blank)).mpr ⟨accepted, rfl⟩
      rw [taken] at folded
      cases folded
  | ok d =>
    obtain ⟨accepted, rfl⟩ := foldlM_take_eq_ok.mp taken
    constructor
    · intro built
      exact ⟨accepted, (Except.ok.inj built).symm⟩
    · rintro ⟨_, rfl⟩
      rfl

/-- A request with one parameter, which can be read, is what that parameter leaves of the defaults. -/
theorem build_single {b : Builder} {key value : String} {c : Change} (change : b.changeOf (key, value) = .ok c) :
    b.build (.ofList [(key, value)]) = .ok (b.finish (b.blank.apply c)) := by
  have effect : b.effect (key, value) = c := by simp only [Builder.effect, change]
  refine build_eq_ok.mpr ⟨fun entry member => ?_, ?_⟩
  · obtain rfl := List.mem_singleton.mp member
    exact ⟨c, change⟩
  · change _ = b.finish (b.blank.apply (b.effect (key, value)))
    rw [effect]

theorem refused_of_foldlM_take {b : Builder} {entries : List (String × String)} {d : Draft}
    {error : BuildError} (failed : entries.foldlM b.take d = .error error) :
    ∃ entry ∈ entries, b.changeOf entry = .error error := by
  induction entries generalizing d with
  | nil => cases failed
  | cons entry rest ih =>
    rw [List.foldlM_cons, take_eq] at failed
    cases read : b.changeOf entry with
    | error own =>
      rw [read] at failed
      cases failed
      exact ⟨entry, List.mem_cons_self, read⟩
    | ok c =>
      rw [read] at failed
      obtain ⟨other, member, refused⟩ := ih failed
      exact ⟨other, List.mem_cons_of_mem _ member, refused⟩

theorem refused_of_build {b : Builder} {p : Params} {error : BuildError} (failed : b.build p = .error error) :
    ∃ entry ∈ p.entries, b.changeOf entry = .error error := by
  unfold build at failed
  cases taken : p.entries.foldlM b.take b.blank with
  | error own =>
    rw [taken] at failed
    cases failed
    exact refused_of_foldlM_take taken
  | ok d =>
    rw [taken] at failed
    cases failed

theorem changeOf_eq_error {b : Builder} {entry : String × String} {error : BuildError}
    (refused : b.changeOf entry = .error error) : ∃ cause, error = .ofFragment cause := by
  unfold changeOf at refused
  cases named : Key.ofName? entry.1 with
  | none =>
    rw [named] at refused
    cases refused
  | some key =>
    simp only [named] at refused
    split at refused
    · cases refused
    · cases read : b.change entry.2 key with
      | error cause =>
        rw [read] at refused
        cases refused
        exact ⟨cause, rfl⟩
      | ok c =>
        rw [read] at refused
        cases refused

/-- The settings of a builder are no cause of failure. -/
theorem build_cases (b : Builder) (p : Params) :
    (∃ request, b.build p = .ok request) ∨
      (∃ key value, b.build p = .error (.invalidDate key value)) ∨
      ∃ cause, b.build p = .error (.fragment cause) := by
  cases built : b.build p with
  | ok request => exact .inl ⟨request, rfl⟩
  | error error =>
    obtain ⟨_, _, refused⟩ := refused_of_build built
    obtain ⟨cause, rfl⟩ := changeOf_eq_error refused
    cases cause with
    | invalidDate key value => exact .inr (.inl ⟨key, value, rfl⟩)
    | _ => exact .inr (.inr ⟨_, rfl⟩)

end Builder

/-! ### Parts of a draft -/

/-- The parts of a draft that are set one by one. Each condition field is a part of its own; no parameter
sets the default window. -/
inductive Part where
  | entityKind
  | bundle
  | viewMode
  | condition (field : String)
  | sort
  | window
  | page
  | category
  | ignored
  | dates
  | random
  | defaults
  deriving DecidableEq

def Change.parts : Change → List Part
  | nothing => []
  | entityKind _ => [.entityKind]
  | bundle _ => [.bundle]
  | viewMode _ => [.viewMode]
  | require leaves => leaves.map fun leaf => .condition leaf.field
  | sort _ => [.sort]
  | window _ => [.window]
  | page _ => [.page]
  | category _ => [.category]
  | ignore _ => [.ignored]
  | dates _ => [.dates]
  | random _ => [.random]

def Part.writers : Part → List Key
  | entityKind => [.entityType]
  | bundle => [.contentType]
  | viewMode => [.viewMode]
  | condition _ => [.sticky, .nid, .nids, .field, .address]
  | sort => [.sort]
  | window => [.range]
  | page => [.paged]
  | category => [.category, .categories]
  | ignored => [.categoryIgnore]
  | dates => [.date, .byMonth]
  | random => [.random]
  | defaults => []

def Draft.Agree (d d' : Draft) : Part → Prop
  | .entityKind => d.descriptor.entityKind = d'.descriptor.entityKind
  | .bundle => d.descriptor.bundle = d'.descriptor.bundle
  | .viewMode => d.viewMode = d'.viewMode
  | .condition field => d.descriptor.conditions.get? field = d'.descriptor.conditions.get? field
  | .sort => d.descriptor.sort = d'.descriptor.sort
  | .window => d.window = d'.window
  | .page => d.pager = d'.pager
  | .category => d.descriptor.group = d'.descriptor.group
  | .ignored => d.ignored = d'.ignored
  | .dates => d.descriptor.dates = d'.descriptor.dates
  | .random => d.descriptor.random = d'.descriptor.random
  | .defaults => d.descriptor.window = d'.descriptor.window

namespace Draft
variable {d d' d'' : Draft} {part : Part} {c : Change} {cs cs' : List Change}

theorem Agree.refl (d : Draft) (part : Part) : d.Agree d part := by
  cases part <;> exact rfl

theorem Agree.symm (h : d.Agree d' part) : d'.Agree d part := by
  cases part <;> exact Eq.symm h

theorem Agree.trans (first : d.Agree d' part) (second : d'.Agree d'' part) : d.Agree d'' part := by
  cases part <;> exact Eq.trans first second

theorem requireAll_eq (d : Draft) (leaves : List Leaf) :
    d.requireAll leaves =
      { d with
        descriptor.conditions :=
          leaves.foldl (fun m leaf => m.insert leaf.field leaf.test) d.descriptor.conditions } := by
  unfold requireAll
  induction leaves generalizing d with
  | nil => rfl
  | cons leaf rest ih =>
    rw [List.foldl_cons, ih]
    rfl

theorem get?_insertAll_of_notMem {leaves : List Leaf} {field : String} (m : OrderedMap String Test)
    (fresh : field ∉ leaves.map Leaf.field) :
    (leaves.foldl (fun m leaf => m.insert leaf.field leaf.test) m).get? field = m.get? field := by
  induction leaves generalizing m with
  | nil => rfl
  | cons leaf rest ih =>
    simp only [List.map_cons, List.mem_cons, not_or] at fresh
    rw [List.foldl_cons, ih _ fresh.2, OrderedMap.get?_insert, if_neg fresh.1]

theorem get?_insertAll_congr {leaves : List Leaf} {field : String} {m n : OrderedMap String Test}
    (h : field ∈ leaves.map Leaf.field ∨ m.get? field = n.get? field) :
    (leaves.foldl (fun m leaf => m.insert leaf.field leaf.test) m).get? field =
      (leaves.foldl (fun m leaf => m.insert leaf.field leaf.test) n).get? field := by
  induction leaves generalizing m n with
  | nil => simpa using h
  | cons leaf rest ih =>
    rw [List.foldl_cons, List.foldl_cons]
    apply ih
    simp only [OrderedMap.get?_insert]
    by_cases own : field = leaf.field
    · exact .inr (by rw [if_pos own, if_pos own])
    · rw [if_neg own, if_neg own]
      simpa [own] using h

theorem apply_frame (d : Draft) (unset : part ∉ c.parts) : (d.apply c).Agree d part := by
  cases c with
  | require leaves =>
    simp only [Draft.apply, requireAll_eq]
    cases part with
    | condition field =>
      apply get?_insertAll_of_notMem
      intro written
      obtain ⟨leaf, member, rfl⟩ := List.mem_map.mp written
      exact unset (List.mem_map_of_mem member)
    | _ => exact rfl
  | _ => cases part <;> first | exact rfl | exact absurd (List.mem_singleton.mpr rfl) unset

/-- What a change sets does not depend on the draft. -/
theorem apply_congr (h : part ∈ c.parts ∨ d.Agree d' part) : (d.apply c).Agree (d'.apply c) part := by
  by_cases set : part ∈ c.parts
  · cases c with
    | require leaves =>
      obtain ⟨leaf, member, rfl⟩ := List.mem_map.mp set
      simp only [Draft.apply, requireAll_eq]
      exact get?_insertAll_congr (.inl (List.mem_map_of_mem member))
    | nothing => cases set
    | _ =>
      obtain rfl := List.mem_singleton.mp set
      exact rfl
  · have same := h.resolve_left set
    exact ((apply_frame d set).trans same).trans (apply_frame d' set).symm

theorem foldl_apply_congr (cs : List Change) (same : d.Agree d' part) :
    (cs.foldl Draft.apply d).Agree (cs.foldl Draft.apply d') part := by
  induction cs generalizing d d' with
  | nil => exact same
  | cons c rest ih => exact ih (apply_congr (.inr same))

/-- Changes that do not set a part may be left out of its history. -/
theorem foldl_apply_filter (part : Part) (cs : List Change) (d : Draft) :
    (cs.foldl Draft.apply d).Agree ((cs.filter (part ∈ ·.parts)).foldl Draft.apply d) part := by
  induction cs generalizing d with
  | nil => exact Agree.refl d part
  | cons c rest ih =>
    by_cases set : part ∈ c.parts
    · rw [List.filter_cons_of_pos (by simpa using set)]
      exact ih (d.apply c)
    · rw [List.filter_cons_of_neg (by simpa using set)]
      exact (ih (d.apply c)).trans (foldl_apply_congr _ (apply_frame d set))

theorem foldl_apply_of_filter_eq (d : Draft)
    (same : cs.filter (part ∈ ·.parts) = cs'.filter (part ∈ ·.parts)) :
    (cs.foldl Draft.apply d).Agree (cs'.foldl Draft.apply d) part := by
  have first := foldl_apply_filter part cs d
  rw [same] at first
  exact first.trans (foldl_apply_filter part cs' d).symm

end Draft

end Listing
