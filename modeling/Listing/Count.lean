/-!
# Counts

Page numbers, offsets, totals and record ids are 64-bit words. Nothing here wraps: a result outside
the range is refused or held at the largest count, and each operation is pinned by its value in `Nat`.
-/

namespace Listing

/-- A page number, an offset, a number of records or a record id. -/
abbrev Count := UInt64

namespace Count

def top : Count := 18446744073709551615

def ofNat? (n : Nat) : Option Count :=
  if n < UInt64.size then some (UInt64.ofNat n) else none

/-- The count `n`, held at the largest one. -/
def clamp (n : Nat) : Count :=
  if n < UInt64.size then UInt64.ofNat n else top

def add? (a b : Count) : Option Count := ofNat? (a.toNat + b.toNat)

def mul? (a b : Count) : Option Count := ofNat? (a.toNat * b.toNat)

def addClamped (a b : Count) : Count := clamp (a.toNat + b.toNat)

def mulClamped (a b : Count) : Count := clamp (a.toNat * b.toNat)

/-- The difference, or zero where it would be negative. -/
def monus (a b : Count) : Count := clamp (a.toNat - b.toNat)

/-- The number of groups of `size` that `total` items fill, the last one perhaps partly. -/
def groups (total size : Count) : Count :=
  if total % size = 0 then total / size else total / size + 1

def interval (first last : Count) : List Count :=
  (List.range' first.toNat (last.toNat + 1 - first.toNat)).map UInt64.ofNat

theorem toNat_lt (a : Count) : a.toNat < 18446744073709551616 := UInt64.toNat_lt a

@[simp] theorem toNat_top : top.toNat = 18446744073709551615 := rfl

@[simp] theorem toNat_clamp (n : Nat) : (clamp n).toNat = min n 18446744073709551615 := by
  unfold clamp
  have size : UInt64.size = 18446744073709551616 := rfl
  split
  · rw [UInt64.toNat_ofNat_of_lt' (by omega)]; omega
  · simp; omega

theorem ofNat?_eq_some {n : Nat} {a : Count} : ofNat? n = some a ↔ n = a.toNat := by
  unfold ofNat?
  have bound := toNat_lt a
  have size : UInt64.size = 18446744073709551616 := rfl
  constructor
  · intro h
    split at h
    · rename_i small
      rw [← Option.some.inj h, UInt64.toNat_ofNat_of_lt' small]
    · cases h
  · rintro rfl
    rw [if_pos (by omega), UInt64.ofNat_toNat]

theorem ofNat?_eq_none {n : Nat} : ofNat? n = none ↔ 18446744073709551616 ≤ n := by
  unfold ofNat?
  have size : UInt64.size = 18446744073709551616 := rfl
  split <;> simp <;> omega

theorem add?_eq_some {a b c : Count} : add? a b = some c ↔ a.toNat + b.toNat = c.toNat :=
  ofNat?_eq_some

@[simp] theorem toNat_addClamped (a b : Count) :
    (addClamped a b).toNat = min (a.toNat + b.toNat) 18446744073709551615 := toNat_clamp _

@[simp] theorem toNat_mulClamped (a b : Count) :
    (mulClamped a b).toNat = min (a.toNat * b.toNat) 18446744073709551615 := toNat_clamp _

@[simp] theorem toNat_monus (a b : Count) : (monus a b).toNat = a.toNat - b.toNat := by
  have := toNat_lt a
  simp [monus]; omega

@[simp] theorem toNat_max (a b : Count) : (max a b).toNat = max a.toNat b.toNat := by
  change (if a ≤ b then b else a).toNat = _
  simp only [UInt64.le_iff_toNat_le]
  split <;> omega

@[simp] theorem toNat_min (a b : Count) : (min a b).toNat = min a.toNat b.toNat := by
  change (if a ≤ b then a else b).toNat = _
  simp only [UInt64.le_iff_toNat_le]
  split <;> omega

theorem toNat_pred {c : Count} (later : 1 < c) : (c - 1).toNat = c.toNat - 1 :=
  UInt64.toNat_sub_of_le c 1 (UInt64.le_of_lt later)

theorem toNat_succ {c last : Count} (earlier : c < last) : (c + 1).toNat = c.toNat + 1 := by
  have earlier : c.toNat < last.toNat := UInt64.lt_iff_toNat_lt.mp earlier
  have bound := toNat_lt last
  have one : (1 : Count).toNat = 1 := rfl
  rw [UInt64.toNat_add, one, Nat.mod_eq_of_lt (by omega)]

theorem mod_eq_zero_iff {total size : Count} : total % size = 0 ↔ total.toNat % size.toNat = 0 := by
  rw [← UInt64.toNat_inj, UInt64.toNat_mod]
  rfl

/-- A group that is partly filled leaves room to count it. -/
theorem toNat_div_add_one {total size : Count} (solid : 0 < size.toNat) (broken : total % size ≠ 0) :
    (total / size + 1).toNat = total.toNat / size.toNat + 1 := by
  have parts := Nat.div_add_mod total.toNat size.toNat
  have rest := Nat.mod_lt total.toNat solid
  have bound := toNat_lt total
  have some : total.toNat % size.toNat ≠ 0 := fun none => broken (mod_eq_zero_iff.mpr none)
  have fewer : total.toNat / size.toNat * 2 ≤ total.toNat / size.toNat * size.toNat :=
    Nat.mul_le_mul_left _ (by omega)
  rw [Nat.mul_comm _ size.toNat] at fewer
  rw [UInt64.toNat_add, UInt64.toNat_div, Nat.mod_eq_of_lt (by change _ + 1 < _; omega)]
  rfl

theorem toNat_groups (total size : Count) (solid : 0 < size.toNat) :
    (groups total size).toNat = (total.toNat + size.toNat - 1) / size.toNat := by
  have parts := Nat.div_add_mod total.toNat size.toNat
  have rest := Nat.mod_lt total.toNat solid
  unfold groups
  symm
  split
  · rename_i whole
    rw [UInt64.toNat_div]
    have none := mod_eq_zero_iff.mp whole
    apply Nat.div_eq_of_lt_le
    · rw [Nat.mul_comm]; omega
    · rw [Nat.succ_mul, Nat.mul_comm]; omega
  · rename_i broken
    have some : total.toNat % size.toNat ≠ 0 := fun none => broken (mod_eq_zero_iff.mpr none)
    rw [toNat_div_add_one solid broken]
    apply Nat.div_eq_of_lt_le
    · rw [Nat.succ_mul, Nat.mul_comm]; omega
    · rw [Nat.succ_mul, Nat.succ_mul, Nat.mul_comm]; omega

theorem toNat_of_mem_range {first last : Count} {n : Nat}
    (member : n ∈ List.range' first.toNat (last.toNat + 1 - first.toNat)) :
    (UInt64.ofNat n).toNat = n ∧ first.toNat ≤ n ∧ n ≤ last.toNat := by
  have bound := toNat_lt last
  have size : UInt64.size = 18446744073709551616 := rfl
  have limits := List.mem_range'_1.mp member
  exact ⟨UInt64.toNat_ofNat_of_lt' (by omega), by omega⟩

theorem mem_interval {first last c : Count} :
    c ∈ interval first last ↔ first.toNat ≤ c.toNat ∧ c.toNat ≤ last.toNat := by
  unfold interval
  rw [List.mem_map]
  constructor
  · rintro ⟨n, member, rfl⟩
    obtain ⟨same, within⟩ := toNat_of_mem_range member
    rw [same]
    exact within
  · intro within
    exact ⟨c.toNat, List.mem_range'_1.mpr (by omega), UInt64.ofNat_toNat⟩

theorem map_toNat_interval (first last : Count) :
    (interval first last).map UInt64.toNat = List.range' first.toNat (last.toNat + 1 - first.toNat) := by
  unfold interval
  rw [List.map_map]
  refine (List.map_congr_left fun n member => ?_).trans (List.map_id _)
  exact (toNat_of_mem_range member).1

theorem interval_ascending (first last : Count) :
    (interval first last).Pairwise (fun a b => a.toNat < b.toNat) := by
  refine List.pairwise_map.mp ?_
  rw [map_toNat_interval]
  exact List.pairwise_lt_range'

theorem interval_nodup (first last : Count) : (interval first last).Nodup := by
  refine (interval_ascending first last).imp fun {a b} less same => ?_
  rw [same] at less
  exact Nat.lt_irrefl _ less

end Count
end Listing
