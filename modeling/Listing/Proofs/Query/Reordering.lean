import Listing.Proofs.Query.Requests

/-!
What a build passes over, and when the order of parameters is no matter. Keys outside the language and blank
values might as well not be there. Parameters that do not write the same part of the request may be given in any
order.
-/

namespace Listing

/-- A parameter says something if its key is one of the language and its value is not blank. -/
def Params.audible (entry : String × String) : Bool :=
  (Key.ofName? entry.1).isSome && !Text.isBlank entry.2.toList

def Params.heard (p : Params) : List (String × String) := p.entries.filter audible

def Change.fields : Change → List String
  | require leaves => leaves.map Leaf.field
  | _ => []

theorem Change.condition_mem_parts {c : Change} {field : String} :
    Part.condition field ∈ c.parts ↔ field ∈ c.fields := by
  cases c with
  | require leaves => simp [parts, fields]
  | _ => simp [parts, fields]

namespace Builder
variable {b : Builder} {p q : Params}

/-- The parameters of a request write no part of it twice: there is one category, one date, and no field on
which two of them set a condition. -/
structure Unconflicted (b : Builder) (p : Params) : Prop where
  category : "category" ∉ p.heard.map Prod.fst ∨ "categories" ∉ p.heard.map Prod.fst
  dates : "date" ∉ p.heard.map Prod.fst ∨ "byMonth" ∉ p.heard.map Prod.fst
  conditions : ∀ entry ∈ p.heard, ∀ other ∈ p.heard, entry.1 ≠ other.1 →
    ∀ field ∈ (b.effect entry).fields, field ∉ (b.effect other).fields

/-! ### Noise -/

theorem changeOf_of_silent {entry : String × String} (silent : Params.audible entry = false) :
    b.changeOf entry = .ok .nothing := by
  unfold Params.audible at silent
  unfold changeOf
  cases named : Key.ofName? entry.1 with
  | none => rfl
  | some key =>
    have blank : Text.isBlank entry.2.toList = true := by simpa [named] using silent
    simp only [blank, if_true]

theorem foldlM_take_audible (entries : List (String × String)) (d : Draft) :
    (entries.filter Params.audible).foldlM b.take d = entries.foldlM b.take d := by
  induction entries generalizing d with
  | nil => rfl
  | cons entry rest ih =>
    cases heard : Params.audible entry with
    | false =>
      rw [List.filter_cons_of_neg (by simp [heard]), List.foldlM_cons, take_eq, changeOf_of_silent heard]
      exact ih d
    | true =>
      rw [List.filter_cons_of_pos heard, List.foldlM_cons, List.foldlM_cons]
      exact congrArg (b.take d entry >>= ·) (funext ih)

/-- A build hears nothing but the parameters that say something. -/
theorem build_eq_heard (b : Builder) (p : Params) : b.build p = (p.heard.foldlM b.take b.blank).map b.finish := by
  unfold build Params.heard
  rw [foldlM_take_audible]
  cases p.entries.foldlM b.take b.blank <;> rfl

theorem build_eq_ok_of_heard {request : ParsedRequest} :
    b.build p = .ok request ↔
      (∀ entry ∈ p.heard, b.Accepts entry) ∧ request = b.finish (b.draft p.heard) := by
  rw [build_eq_heard]
  constructor
  · intro built
    obtain ⟨d, taken, rfl⟩ := map_eq_ok built
    obtain ⟨accepted, rfl⟩ := foldlM_take_eq_ok.mp taken
    exact ⟨accepted, rfl⟩
  · rintro ⟨accepted, rfl⟩
    rw [foldlM_take_eq_ok.mpr ⟨accepted, rfl⟩]
    rfl

/-! ### Order -/

theorem heard_keys_differ (p : Params) : p.heard.Pairwise fun entry other => entry.1 ≠ other.1 :=
  (List.pairwise_map.mp p.nodup).sublist List.filter_sublist

theorem both_mem_of_pair {names : List String} {first second key key' : Key} (differ : key ≠ key')
    (one : key ∈ [first, second]) (other : key' ∈ [first, second]) (here : key.name ∈ names)
    (there : key'.name ∈ names) : first.name ∈ names ∧ second.name ∈ names := by
  simp only [List.mem_cons, List.not_mem_nil, or_false] at one other
  rcases one with rfl | rfl <;> rcases other with rfl | rfl
  · exact absurd rfl differ
  · exact ⟨here, there⟩
  · exact ⟨there, here⟩
  · exact absurd rfl differ

theorem Unconflicted.orderless (apart : b.Unconflicted p) : b.Orderless p.heard := by
  apply (heard_keys_differ p).imp_of_mem
  intro entry other member member' differ part set set'
  obtain ⟨key, writes, name⟩ := effect_writers set
  obtain ⟨key', writes', name'⟩ := effect_writers set'
  have keys : key ≠ key' := by
    rintro rfl
    exact differ (name.symm.trans name')
  have here : key.name ∈ p.heard.map Prod.fst := name ▸ List.mem_map_of_mem member
  have there : key'.name ∈ p.heard.map Prod.fst := name' ▸ List.mem_map_of_mem member'
  -- Only the category, the dates and the conditions are written by more than one key.
  cases part with
  | condition field =>
    exact apart.conditions entry member other member' differ field (Change.condition_mem_parts.mp set)
      (Change.condition_mem_parts.mp set')
  | category =>
    obtain ⟨one, more⟩ := both_mem_of_pair keys writes writes' here there
    exact apart.category.elim (· one) (· more)
  | dates =>
    obtain ⟨window, month⟩ := both_mem_of_pair keys writes writes' here there
    exact apart.dates.elim (· window) (· month)
  | entityKind | bundle | viewMode | sort | window | page | ignored | random =>
    exact keys ((List.mem_singleton.mp writes).trans (List.mem_singleton.mp writes').symm)
  | defaults => cases writes

/-- Requests that say the same in the same order are built alike, down to the error. So are requests that say
the same in another order, if their parameters are not in conflict; only which error there is may differ. -/
theorem build_ignores_noise_and_order :
    (p.heard = q.heard → b.build p = b.build q) ∧
      (p.heard.Perm q.heard → b.Unconflicted p →
        (∃ error error', b.build p = .error error ∧ b.build q = .error error') ∨
          ∃ r r', b.build p = .ok r ∧ b.build q = .ok r' ∧ r.Same r') := by
  constructor
  · intro same
    rw [build_eq_heard, build_eq_heard, same]
  · intro perm apart
    -- Whether all parameters are accepted is no matter of order; which one is refused first is.
    by_cases accepted : ∀ entry ∈ p.heard, b.Accepts entry
    · have accepted' : ∀ entry ∈ q.heard, b.Accepts entry :=
        fun entry member => accepted entry (perm.mem_iff.mpr member)
      have agree : ∀ part, (b.draft p.heard).Agree (b.draft q.heard) part :=
        fun part => (draft_agree (history_perm apart.orderless perm))
      exact .inr ⟨_, _, build_eq_ok_of_heard.mpr ⟨accepted, rfl⟩, build_eq_ok_of_heard.mpr ⟨accepted', rfl⟩,
        b.finish_same agree⟩
    · have refused : ∀ {r : Params}, r.heard.Perm p.heard → ∃ error, b.build r = .error error := by
        intro r perm
        cases built : b.build r with
        | error error => exact ⟨error, rfl⟩
        | ok request =>
          have all := (build_eq_ok_of_heard.mp built).1
          exact absurd (fun entry member => all entry (perm.mem_iff.mpr member)) accepted
      obtain ⟨error, failed⟩ := refused (.refl p.heard)
      obtain ⟨error', failed'⟩ := refused perm.symm
      exact .inl ⟨error, error', failed, failed'⟩

theorem reversed_request_builds_same :
    let p : Params := .ofList [("nid", "7"), ("colour", "red"), ("sort", " "), ("range", "0-3"), ("paged", "2-5"),
      ("category_ignore", "field_tags--1"), ("category", "field_tags--2"), ("field", "price--3--<")]
    let q : Params := .ofList [("field", "price--3--<"), ("category", "field_tags--2"),
      ("category_ignore", "field_tags--1"), ("paged", "2-5"), ("range", "0-3"), ("byMonth", ""), ("nid", "7")]
    p.heard.Perm q.heard ∧ Builder.standard.Unconflicted p ∧
      ∃ r r', Builder.standard.build p = .ok r ∧ Builder.standard.build q = .ok r' ∧ r.Same r' ∧
        r.descriptor.conditions.keys = ["status", "nid", "price"] ∧
        r'.descriptor.conditions.keys = ["status", "price", "nid"] := by
  intro p q
  have perm : p.heard.Perm q.heard := (List.reverse_perm p.heard).symm.trans (.of_eq (by decide))
  have apart : Builder.standard.Unconflicted p := ⟨by decide, by decide, by decide⟩
  refine ⟨perm, apart, ?_⟩
  rcases build_ignores_noise_and_order.2 perm apart with ⟨_, _, failed, _⟩ | ⟨r, r', built, built', same⟩
  · cases failed
  · refine ⟨r, r', built, built', same, ?_, ?_⟩
    · cases built
      decide
    · cases built'
      decide

end Builder
end Listing
