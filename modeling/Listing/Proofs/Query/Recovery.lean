import Listing.Proofs.Query.Formats
import Listing.Proofs.Query.Reordering

/-!
What becomes of dates that cannot be read. A request is told apart from its dates: what the other parameters ask
for does not depend on them. So dates that are read, or that a window from today stands in for, are all that they
add to it, and dates that are refused are all that it fails for.
-/

namespace Listing
open Calendar Fragment

/-! ### Requests without their dates -/

namespace Params

def isDated (entry : String × String) : Bool := entry.1 = "date" ∨ entry.1 = "byMonth"

def dated (p : Params) : List (String × String) := p.heard.filter isDated

def undated (p : Params) : Params where
  entries := p.entries.filter fun entry => !isDated entry
  nodup := p.nodup.sublist (List.filter_sublist.map Prod.fst)

theorem heard_undated (p : Params) : p.undated.heard = p.heard.filter fun entry => !isDated entry := by
  unfold heard undated
  rw [List.filter_filter, List.filter_filter]
  exact List.filter_congr fun _ _ => Bool.and_comm _ _

theorem mem_heard {p : Params} {entry : String × String} (member : entry ∈ p.heard) :
    entry ∈ p.dated ∨ entry ∈ p.undated.heard := by
  rw [heard_undated, dated, List.mem_filter, List.mem_filter]
  cases isDated entry <;> simp [member]

end Params

/-- The dates of a draft may as well be set after any changes that leave them. -/
theorem Draft.foldl_apply_dates {cs : List Change} (unset : ∀ c ∈ cs, Part.dates ∉ c.parts) (d : Draft) (g : Group) :
    cs.foldl Draft.apply (d.apply (.dates g)) = (cs.foldl Draft.apply d).apply (.dates g) := by
  induction cs generalizing d with
  | nil => rfl
  | cons c rest ih =>
    obtain ⟨own, later⟩ := List.forall_mem_cons.mp unset
    have swap : (d.apply (.dates g)).apply c = (d.apply c).apply (.dates g) := by
      cases c with
      | dates => exact absurd (List.mem_singleton_self _) own
      | require leaves => simp only [Draft.apply, requireAll_eq]
      | _ => rfl
    rw [List.foldl_cons, List.foldl_cons, swap]
    exact ih later (d.apply c)

namespace Builder
variable {b : Builder} {p : Params} {entry : String × String} {request : ParsedRequest} {g : Group}

theorem unset_of_undated (undated : Params.isDated entry = false) : Part.dates ∉ (b.effect entry).parts := by
  apply effect_unset
  intro key writes name
  simp only [Part.writers, List.mem_cons, List.not_mem_nil, or_false] at writes
  rcases writes with rfl | rfl <;> simp [Params.isDated, ← name, Key.name] at undated

theorem draft_of_dated {entries : List (String × String)} (one : entries.filter Params.isDated = [entry])
    (dates : b.effect entry = .dates g) :
    b.draft entries = (b.draft (entries.filter fun entry => !Params.isDated entry)).apply (.dates g) := by
  obtain ⟨before, after, rfl, undated, own, others⟩ := List.filter_eq_cons_iff.mp one
  have first : before.filter (fun entry => !Params.isDated entry) = before :=
    List.filter_eq_self.mpr fun entry member => by simpa using undated entry member
  have second : after.filter (fun entry => !Params.isDated entry) = after :=
    List.filter_eq_self.mpr fun entry member => by simpa using List.filter_eq_nil_iff.mp others entry member
  -- What comes after the dates leaves them, so they may as well come last.
  have later : ∀ c ∈ after.map b.effect, Part.dates ∉ c.parts :=
    List.forall_mem_map.mpr fun entry member =>
      unset_of_undated (by simpa using List.filter_eq_nil_iff.mp others entry member)
  rw [List.filter_append, List.filter_cons_of_neg (by simp [own]), first, second]
  unfold draft
  rw [List.map_append, List.map_cons, List.map_append, List.foldl_append, List.foldl_append, List.foldl_cons, dates]
  exact Draft.foldl_apply_dates later _ g

theorem build_dated (one : p.dated = [entry]) (others : b.build p.undated = .ok request)
    (taken : b.changeOf entry = .ok (.dates g)) :
    b.build p = .ok { request with descriptor.dates := some g } := by
  obtain ⟨accepted, rfl⟩ := build_eq_ok_of_heard.mp others
  have effect : b.effect entry = .dates g := by simp only [Builder.effect, taken]
  refine build_eq_ok_of_heard.mpr ⟨fun other member => ?_, ?_⟩
  · rcases Params.mem_heard member with dated | undated
    · obtain rfl := List.mem_singleton.mp (one ▸ dated)
      exact ⟨_, taken⟩
    · exact accepted other undated
  · rw [draft_of_dated one effect, ← Params.heard_undated]
    rfl

theorem build_of_refused {e : BuildError} (one : p.dated = [entry]) (others : b.build p.undated = .ok request)
    (refused : b.changeOf entry = .error e) : b.build p = .error e := by
  have accepted := (build_eq_ok_of_heard.mp others).1
  have heard : entry ∈ p.heard := (List.mem_filter.mp (one ▸ List.mem_cons_self : entry ∈ p.dated)).1
  cases built : b.build p with
  | ok =>
    obtain ⟨c, taken⟩ := (build_eq_ok_of_heard.mp built).1 entry heard
    rw [taken] at refused
    cases refused
  | error own =>
    obtain ⟨other, member, failed⟩ := refused_of_build built
    have audible : Params.audible other = true := by
      rw [← Bool.not_eq_false]
      intro silent
      rw [changeOf_of_silent silent] at failed
      cases failed
    -- The parameter that is refused is heard, and it is none of the others, which are accepted.
    rcases Params.mem_heard (List.mem_filter.mpr ⟨member, audible⟩) with dated | undated
    · obtain rfl := List.mem_singleton.mp (one ▸ dated)
      rw [refused] at failed
      cases failed
      rfl
    · obtain ⟨c, taken⟩ := accepted other undated
      rw [taken] at failed
      cases failed

/-! ### Policies -/

variable {key : Key} {read : DateFormats → String → Except FragmentError Group} {raw : String}

theorem changeOf_date (b : Builder) (reader : DateReader key read) (solid : Text.isBlank raw.toList = false) :
    b.changeOf (key.name, raw) = ((b.dates read raw).map Change.dates).mapError .ofFragment := by
  simp only [changeOf, Key.ofName?_name, solid]
  cases reader <;> rfl

theorem dates_of_read (ok : read b.formats raw = .ok g) : b.dates read raw = .ok g := by
  rw [dates, ok]

theorem dates_of_reject {e : FragmentError} (policy : b.settings.invalidDates = .reject)
    (refused : read b.formats raw = .error e) : b.dates read raw = .error e := by
  simp only [dates, refused, recover, policy]

/-- Where there is a window for dates that cannot be read, it is put on the field that they name, if any. -/
theorem dates_of_fallback {value : String} {last : Date} (policy : b.settings.invalidDates = .fallback)
    (window : b.today.addMonths? b.settings.fallbackMonths.toNat = some last)
    (refused : read b.formats raw = .error (.invalidDate key value)) :
    b.dates read raw =
      if (dateField raw).isEmpty then .error (.invalidDate key value)
      else overlap b.formats (dateField raw) b.today last := by
  simp only [dates, refused, recover, policy, fallback, window]

/-- Dates that are read are taken. Dates that are not read fail the request where they are rejected, and nothing
else does. Where a window stands in for them, they fail the request only if they name no field. -/
theorem dates_recovered_or_refused (reader : DateReader key read) (one : p.dated = [(key.name, raw)])
    (others : b.build p.undated = .ok request) (writable : b.formats.Writable) :
    (∀ g, read b.formats raw = .ok g → b.build p = .ok { request with descriptor.dates := some g }) ∧
    (b.settings.invalidDates = .fallback → ∀ last,
      b.today.addMonths? b.settings.fallbackMonths.toNat = some last → ∀ e, read b.formats raw = .error e →
        (dateField raw ≠ "" → ∃ g, overlap b.formats (dateField raw) b.today last = .ok g ∧
          b.build p = .ok { request with descriptor.dates := some g }) ∧
        (dateField raw = "" → b.build p = .error (.invalidDate key (Text.trimmed raw)))) ∧
    (b.settings.invalidDates = .reject → ∀ error, b.build p = .error error ↔
      error = .invalidDate key (Text.trimmed raw) ∧ ∃ e, read b.formats raw = .error e) := by
  have solid : Text.isBlank raw.toList = false := by
    have heard := (List.mem_filter.mp (one ▸ List.mem_cons_self : (key.name, raw) ∈ p.dated)).1
    simpa [Params.audible, Key.ofName?_name] using (List.mem_filter.mp heard).2
  have change := b.changeOf_date reader solid
  have taken : ∀ {g}, b.dates read raw = .ok g → b.build p = .ok { request with descriptor.dates := some g } := by
    intro g made
    exact build_dated one others (by rw [change, made]; rfl)
  have failed : b.dates read raw = .error (.invalidDate key (Text.trimmed raw)) →
      b.build p = .error (.invalidDate key (Text.trimmed raw)) := by
    intro refused
    exact build_of_refused one others (by rw [change, refused]; rfl)
  refine ⟨fun g ok => taken (dates_of_read ok), ?_, ?_⟩
  · intro policy last window e refused
    obtain rfl := reader.refused writable refused
    have made := dates_of_fallback policy window refused
    constructor
    · intro named
      obtain ⟨start, finish, written⟩ := overlap_of_writable writable (dateField raw) b.today last
      rw [if_neg (by simpa using named), written] at made
      exact ⟨_, written, taken made⟩
    · intro nameless
      rw [if_pos (by simpa using nameless)] at made
      exact failed made
  · intro policy error
    constructor
    · intro built
      cases own : read b.formats raw with
      | ok g =>
        rw [taken (dates_of_read own)] at built
        cases built
      | error e =>
        obtain rfl := reader.refused writable own
        rw [failed (dates_of_reject policy own)] at built
        cases built
        exact ⟨rfl, _, rfl⟩
    · rintro ⟨rfl, e, refused⟩
      obtain rfl := reader.refused writable refused
      exact failed (dates_of_reject policy refused)

def lenient : Builder := { standard with settings.invalidDates := .fallback }

theorem soon_recovered_or_refused :
    ∃ p : Params, p.dated = [("date", " when--soon ")] ∧
      (∃ g r, overlap .usual "when" ⟨2024, 1, 1, by decide⟩ ⟨2024, 3, 1, by decide⟩ = .ok g ∧
        lenient.build p = .ok r ∧ r.descriptor.dates = some g) ∧
      standard.build p = .error (.invalidDate .date "when--soon") := by
  have one : Params.dated (.ofList [("nid", "7"), ("date", " when--soon "), ("byMonth", " ")]) =
      [("date", " when--soon ")] := rfl
  have unread : date .usual " when--soon " = .error (.invalidDate .date "when--soon") := rfl
  have usual : DateFormats.usual.Writable := DateFormats.writable_of_zoneless DateFormats.make_usual rfl
  refine ⟨_, one, ?_, ?_⟩
  · have outcome := (dates_recovered_or_refused (b := lenient) .window one rfl usual).2.1 rfl _ rfl _ unread
    obtain ⟨g, written, built⟩ := outcome.1 (by decide)
    exact ⟨g, _, written, built, rfl⟩
  · exact ((dates_recovered_or_refused (b := standard) .window one rfl usual).2.2 rfl _).mpr ⟨rfl, _, unread⟩

end Builder
end Listing
