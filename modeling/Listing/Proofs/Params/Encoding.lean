import Listing.Params

/-!
What a digest knows about a request. The encoding of a request can be cut back into its entries as long as
no key holds the unit separator and no value the record separator, so that requests with one digest have the
same entries, perhaps in another order. SHA-256 is taken to tell the encodings apart.
-/

namespace Listing

/-! ### Octets of a text -/

theorem toList_loop_eq (bytes : ByteArray) (left i : Nat) (done : List UInt8) (rest : bytes.size - i = left) :
    ByteArray.toList.loop bytes i done = done.reverse ++ bytes.data.toList.drop i := by
  have length : bytes.data.toList.length = bytes.size := by simp
  induction left generalizing i done with
  | zero =>
    rw [ByteArray.toList.loop, if_neg (by omega), List.drop_eq_nil_of_le (by omega), List.append_nil]
  | succ left ih =>
    have within : i < bytes.size := by omega
    have next : bytes.get! i = bytes.data.toList[i] := by simp [ByteArray.get!, within]
    have ahead : bytes.data.toList.drop i = bytes.get! i :: bytes.data.toList.drop (i + 1) :=
      next ▸ List.drop_eq_getElem_cons (length ▸ within)
    rw [ByteArray.toList.loop, if_pos within, ih (i + 1) _ (by omega), ahead, List.reverse_cons,
      List.append_assoc]
    rfl

theorem toList_eq_data (bytes : ByteArray) : bytes.toList = bytes.data.toList :=
  toList_loop_eq bytes _ 0 [] rfl

theorem toUTF8_toList (text : String) :
    text.toUTF8.toList = text.toList.flatMap String.utf8EncodeChar := by
  rw [String.toUTF8_eq_toByteArray, ← String.utf8Encode_toList, toList_eq_data]
  exact List.toList_data_toByteArray

theorem toUTF8_injective {text other : String} (same : text.toUTF8.toList = other.toUTF8.toList) :
    text = other := by
  rw [toList_eq_data, toList_eq_data, Array.toList_inj] at same
  exact String.toByteArray_inj.mp (ByteArray.ext same)

theorem toNat_of_mem_utf8EncodeChar {c : Char} {octet : UInt8} (member : octet ∈ String.utf8EncodeChar c)
    (low : octet.toNat < 128) : c.toNat = octet.toNat := by
  have high : ∀ n : Nat, 128 ≤ n → n < 256 → octet ≠ UInt8.ofNat n := by
    rintro n above below rfl
    rw [UInt8.toNat_ofNat_of_lt' below] at low
    omega
  unfold String.utf8EncodeChar at member
  simp only at member
  split at member
  · rename_i ascii
    obtain rfl := List.mem_singleton.mp member
    exact (UInt8.toNat_ofNat_of_lt' (Nat.lt_of_le_of_lt ascii (by decide))).symm
  · split at member
    · simp only [List.mem_cons, List.not_mem_nil, or_false] at member
      rcases member with first | second
      · exact absurd first (high _ (by omega) (by omega))
      · exact absurd second (high _ (by omega) (by omega))
    · split at member
      · simp only [List.mem_cons, List.not_mem_nil, or_false] at member
        rcases member with first | second | third
        · exact absurd first (high _ (by omega) (by omega))
        · exact absurd second (high _ (by omega) (by omega))
        · exact absurd third (high _ (by omega) (by omega))
      · simp only [List.mem_cons, List.not_mem_nil, or_false] at member
        rcases member with first | second | third | fourth
        · exact absurd first (high _ (by omega) (by omega))
        · exact absurd second (high _ (by omega) (by omega))
        · exact absurd third (high _ (by omega) (by omega))
        · exact absurd fourth (high _ (by omega) (by omega))

theorem octet_notMem_toUTF8 {text : String} {c : Char} (low : c.toNat < 128) (absent : c ∉ text.toList) :
    UInt8.ofNat c.toNat ∉ text.toUTF8.toList := by
  have same : (UInt8.ofNat c.toNat).toNat = c.toNat := UInt8.toNat_ofNat_of_lt' (Nat.lt_trans low (by decide))
  rw [toUTF8_toList, List.mem_flatMap]
  rintro ⟨d, member, octet⟩
  have code := toNat_of_mem_utf8EncodeChar octet (by rwa [same])
  rw [same] at code
  exact absent (Char.toNat_inj.mp code ▸ member)

namespace Params

/-- An entry that its encoding does not run together: no unit separator in the key and no record separator
in the value. -/
def Separable (entry : String × String) : Prop := '\x1F' ∉ entry.1.toList ∧ '\x1E' ∉ entry.2.toList

theorem encodeEntry_eq (entry : String × String) :
    encodeEntry entry = entry.1.toList.flatMap String.utf8EncodeChar ++
      0x1F :: entry.2.toList.flatMap String.utf8EncodeChar ++ [0x1E] := by
  rw [encodeEntry, toUTF8_toList, toUTF8_toList]

theorem append_separator_inj {sep : UInt8} {xs ys rest rest' : List UInt8} (left : sep ∉ xs)
    (right : sep ∉ ys) (same : xs ++ sep :: rest = ys ++ sep :: rest') : xs = ys ∧ rest = rest' := by
  induction xs generalizing ys with
  | nil =>
    cases ys with
    | nil => exact ⟨rfl, (List.cons.inj same).2⟩
    | cons y ys => exact absurd ((List.cons.inj same).1 ▸ List.mem_cons_self) right
  | cons x xs ih =>
    cases ys with
    | nil => exact absurd ((List.cons.inj same).1 ▸ List.mem_cons_self) left
    | cons y ys =>
      obtain ⟨head, tail⟩ := List.cons.inj same
      simp only [List.mem_cons, not_or] at left right
      obtain ⟨equal, rests⟩ := ih left.2 right.2 tail
      exact ⟨by rw [head, equal], rests⟩

/-- A separable entry is cut off the front of an encoding in one way. -/
theorem encodeEntry_append_inj {entry other : String × String} {rest rest' : List UInt8}
    (separable : Separable entry) (separable' : Separable other)
    (same : encodeEntry entry ++ rest = encodeEntry other ++ rest') : entry = other ∧ rest = rest' := by
  simp only [encodeEntry, List.append_assoc, List.cons_append, List.nil_append] at same
  obtain ⟨keys, behind⟩ := append_separator_inj (octet_notMem_toUTF8 (by decide) separable.1)
    (octet_notMem_toUTF8 (by decide) separable'.1) same
  obtain ⟨values, rests⟩ := append_separator_inj (octet_notMem_toUTF8 (by decide) separable.2)
    (octet_notMem_toUTF8 (by decide) separable'.2) behind
  exact ⟨Prod.ext (toUTF8_injective keys) (toUTF8_injective values), rests⟩

theorem flatMap_encodeEntry_inj {entries others : List (String × String)}
    (separable : ∀ entry ∈ entries, Separable entry) (separable' : ∀ entry ∈ others, Separable entry)
    (same : entries.flatMap encodeEntry = others.flatMap encodeEntry) : entries = others := by
  induction entries generalizing others with
  | nil =>
    cases others with
    | nil => rfl
    | cons other rest => simp [encodeEntry] at same
  | cons entry rest ih =>
    cases others with
    | nil => simp [encodeEntry] at same
    | cons other rest' =>
      rw [List.flatMap_cons, List.flatMap_cons] at same
      obtain ⟨first, later⟩ := List.forall_mem_cons.mp separable
      obtain ⟨first', later'⟩ := List.forall_mem_cons.mp separable'
      obtain ⟨head, tail⟩ := encodeEntry_append_inj first first' same
      rw [head, ih later later' tail]

/-! ### The order of entries -/

abbrev compareEntries : String × String → String × String → Ordering :=
  compareLex (compareOn Prod.fst) (compareOn Prod.snd)

theorem entryLe_eq (p q : String × String) : entryLe p q = (compareEntries p q).isLE := by
  unfold entryLe compareEntries compareLex compareOn
  cases compare p.1 q.1 <;> rfl

theorem entryLe_trans (p q r : String × String) (first : entryLe p q) (second : entryLe q r) : entryLe p r := by
  rw [entryLe_eq] at *
  exact Std.TransCmp.isLE_trans first second

theorem entryLe_total (p q : String × String) : entryLe p q || entryLe q p := by
  have swapped : compareEntries q p = (compareEntries p q).swap := Std.OrientedCmp.eq_swap
  rw [entryLe_eq, entryLe_eq, swapped]
  cases compareEntries p q <;> rfl

theorem entryLe_antisymm {p q : String × String} (first : entryLe p q) (second : entryLe q p) : p = q := by
  rw [entryLe_eq] at first second
  have tie : compareEntries p q = .eq := Std.OrientedCmp.isLE_antisymm first second
  obtain ⟨keys, values⟩ := compareLex_eq_eq.mp tie
  exact Prod.ext (Std.LawfulEqOrd.eq_of_compare keys) (Std.LawfulEqOrd.eq_of_compare values)

/-- The encoding does not see the order in which the entries came. -/
theorem encoding_of_perm {p q : Params} (perm : p.entries.Perm q.entries) : p.encoding = q.encoding := by
  have sorted : p.sortedEntries = q.sortedEntries := by
    refine List.Perm.eq_of_pairwise (fun _ _ _ _ => entryLe_antisymm) ?_ ?_ ?_
    · exact List.pairwise_mergeSort entryLe_trans entryLe_total p.entries
    · exact List.pairwise_mergeSort entryLe_trans entryLe_total q.entries
    · have before := List.mergeSort_perm p.entries entryLe
      exact (before.trans perm).trans (List.mergeSort_perm q.entries entryLe).symm
  unfold encoding
  rw [sorted]

theorem encoding_of_sorted {p : Params} (sorted : p.entries.Pairwise fun first second => entryLe first second) :
    p.encoding = p.entries.flatMap encodeEntry := by
  rw [encoding, sortedEntries, List.mergeSort_of_pairwise sorted]

theorem perm_of_encoding {p q : Params} (separable : ∀ entry ∈ p.entries, Separable entry)
    (separable' : ∀ entry ∈ q.entries, Separable entry) (same : p.encoding = q.encoding) :
    p.entries.Perm q.entries := by
  have sorted : p.sortedEntries = q.sortedEntries := by
    refine flatMap_encodeEntry_inj ?_ ?_ same
    · exact fun entry member => separable entry (List.mem_mergeSort.mp member)
    · exact fun entry member => separable' entry (List.mem_mergeSort.mp member)
  have before := List.mergeSort_perm p.entries entryLe
  have after := List.mergeSort_perm q.entries entryLe
  exact before.symm.trans ((sorted ▸ List.Perm.refl _ : p.sortedEntries.Perm q.sortedEntries).trans after)

end Params

/-! ### Digests -/

namespace Digest.Sha256

def TellsApart (messages : List (List UInt8)) : Prop :=
  ∀ first ∈ messages, ∀ second ∈ messages, digest first = digest second → first = second

theorem digitChar_inj : ∀ m < 16, ∀ n < 16, m.digitChar = n.digitChar → m = n := by decide

theorem hexDigits_inj {octet other : UInt8} (same : hexDigits octet = hexDigits other) : octet = other := by
  have bound := octet.toNat_lt
  have bound' := other.toNat_lt
  obtain ⟨high, rest⟩ := List.cons.inj same
  have highs := digitChar_inj _ (by omega) _ (by omega) high
  have lows := digitChar_inj _ (by omega) _ (by omega) (List.cons.inj rest).1
  exact UInt8.toNat_inj.mp (by omega)

theorem flatMap_hexDigits_inj {octets others : List UInt8}
    (same : octets.flatMap hexDigits = others.flatMap hexDigits) : octets = others := by
  induction octets generalizing others with
  | nil =>
    cases others with
    | nil => rfl
    | cons => simp [hexDigits] at same
  | cons octet rest ih =>
    cases others with
    | nil => simp [hexDigits] at same
    | cons other rest' =>
      rw [List.flatMap_cons, List.flatMap_cons] at same
      obtain ⟨head, tail⟩ := List.append_inj same rfl
      rw [hexDigits_inj head, ih tail]

theorem digest_of_hex {first second : List UInt8} (same : hex first = hex second) :
    digest first = digest second :=
  flatMap_hexDigits_inj (String.ofList_injective same)

end Digest.Sha256

/-- Where SHA-256 tells the encodings apart, requests with one digest have the same entries. -/
theorem Params.perm_of_digest {requests : List Params} {p q : Params}
    (apart : Digest.Sha256.TellsApart (requests.map Params.encoding))
    (separable : ∀ r ∈ requests, ∀ entry ∈ r.entries, Params.Separable entry)
    (member : p ∈ requests) (member' : q ∈ requests) (same : p.digest = q.digest) :
    p.entries.Perm q.entries := by
  refine perm_of_encoding (separable p member) (separable q member') ?_
  exact apart _ (List.mem_map_of_mem member) _ (List.mem_map_of_mem member') (Digest.Sha256.digest_of_hex same)

namespace Params
variable {p q : Params}

theorem entries_nodup (p : Params) : p.entries.Nodup :=
  (List.pairwise_map.mp p.nodup).imp fun apart same => apart (congrArg Prod.fst same)

theorem entries_perm_iff : p.entries.Perm q.entries ↔ ∀ entry, entry ∈ p.entries ↔ entry ∈ q.entries :=
  List.perm_ext_iff_of_nodup p.entries_nodup q.entries_nodup

/-- The digest never sees the order of the entries. Where SHA-256 tells the encodings apart, it sees all the
rest of a request whose entries are separable. -/
theorem digest_identifies_entries :
    ((∀ entry, entry ∈ p.entries ↔ entry ∈ q.entries) → p.digest = q.digest) ∧
    (Digest.Sha256.TellsApart [p.encoding, q.encoding] → (∀ entry ∈ p.entries, Separable entry) →
      (∀ entry ∈ q.entries, Separable entry) → p.digest = q.digest →
        ∀ entry, entry ∈ p.entries ↔ entry ∈ q.entries) := by
  constructor
  · intro same
    exact congrArg Digest.Sha256.hex (encoding_of_perm (entries_perm_iff.mpr same))
  · intro apart separable separable' same
    have told : Digest.Sha256.TellsApart ([p, q].map encoding) := apart
    have all : ∀ r ∈ [p, q], ∀ entry ∈ r.entries, Separable entry := by
      simpa only [List.forall_mem_cons, List.not_mem_nil, false_imp_iff, implies_true, and_true] using
        And.intro separable separable'
    exact entries_perm_iff.mp (perm_of_digest told all (by simp) (by simp) same)

theorem digest_keeps_boundaries :
    let p : Params := .ofList [("ab", "c\x1F")]
    let q : Params := .ofList [("a", "bc\x1F")]
    p.digest ≠ q.digest := by
  intro p q same
  have first : p.encoding = [0x61, 0x62, 0x1F, 0x63, 0x1F, 0x1E] := by
    rw [encoding_of_sorted (by decide), show encodeEntry = _ from funext encodeEntry_eq]
    decide
  have second : q.encoding = [0x61, 0x1F, 0x62, 0x63, 0x1F, 0x1E] := by
    rw [encoding_of_sorted (by decide), show encodeEntry = _ from funext encodeEntry_eq]
    decide
  have apart : Digest.Sha256.TellsApart [p.encoding, q.encoding] := by
    rw [first, second]
    unfold Digest.Sha256.TellsApart
    decide +kernel
  have separable : ∀ entry ∈ p.entries, Separable entry := by
    unfold Separable
    decide
  have separable' : ∀ entry ∈ q.entries, Separable entry := by
    unfold Separable
    decide
  have shared := (digest_identifies_entries.2 apart separable separable' same ("ab", "c\x1F")).mp (by decide)
  exact absurd shared (by decide)

/-- Requests with other entries share a digest, too, where a value runs over into the entries behind it. -/
theorem digest_merges_entries :
    let p : Params := .ofList [("content_type", "page\x1Eview_mode\x1Ffull")]
    let q : Params := .ofList [("content_type", "page"), ("view_mode", "full")]
    Digest.Sha256.TellsApart [p.encoding, q.encoding] ∧ p.digest = q.digest ∧
      ¬∀ entry, entry ∈ p.entries ↔ entry ∈ q.entries := by
  intro p q
  have same : p.encoding = q.encoding := by
    rw [encoding_of_sorted (by decide), encoding_of_sorted (by decide),
      show encodeEntry = _ from funext encodeEntry_eq]
    decide
  refine ⟨?_, congrArg Digest.Sha256.hex same, fun entries => ?_⟩
  · rw [same]
    simp only [Digest.Sha256.TellsApart, List.forall_mem_cons]
    simp
  · have missing := (entries ("view_mode", "full")).mpr (by decide)
    exact absurd missing (by decide)

end Params

end Listing
