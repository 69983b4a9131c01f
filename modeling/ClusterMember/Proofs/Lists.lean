import Mathlib.Data.List.Nodup

/-! # Words, numbers and values by their keys

What the readers of the different formats share.

* `takeWhile_append_stop`: a word is scanned up to the first character that is not part of it.
* `toDigits_opening`: a number is written without a zero in front.
* `exists_first_digit`: the first digit of a number.
* `lookup_eq_none_iff_notMem`, `lookup_eq_some_iff_mem`: what a list of keys and values holds.
* `lookup_of_perm`: where no key stands twice, the order does not matter.
-/

namespace ClusterMember
set_option autoImplicit false

/-! ## Words -/

theorem takeWhile_append_stop {p : Char → Bool} {word rest : List Char}
    (all : ∀ c ∈ word, p c = true) (stop : ∀ c ∈ rest.head?, p c = false) :
    (word ++ rest).takeWhile p = word ∧ (word ++ rest).dropWhile p = rest := by
  rw [List.takeWhile_append_of_pos all, List.dropWhile_append_of_pos all]
  cases rest with
  | nil => simp
  | cons c rest =>
    have stops : p c = false := stop c rfl
    simp [stops]

theorem ne_of_stop {p : Char → Bool} {c d : Char} (inside : p c = true) (stop : p d = false) :
    c ≠ d := by
  rintro rfl
  exact absurd (inside.symm.trans stop) (by decide)

/-! ## Numbers in decimal -/

theorem digitChar_eq_zero : ∀ n < 10, Nat.digitChar n = '0' → n = 0 := by
  decide

theorem toDigits_opening {n : Nat} (h : 0 < n) (rest : List Char) :
    Nat.toDigits 10 n ≠ '0' :: rest := by
  induction n using Nat.strongRecOn generalizing rest with
  | ind n ih =>
    intro opening
    by_cases small : n < 10
    · rw [Nat.toDigits_of_lt_base small] at opening
      have zero := digitChar_eq_zero n small (List.cons.inj opening).1
      omega
    · -- The last digit stands behind those of a smaller number, which are not none.
      rw [Nat.toDigits_of_base_le (by decide) (by omega)] at opening
      cases front : Nat.toDigits 10 (n / 10) with
      | nil => exact Nat.toDigits_ne_nil front
      | cons c digits =>
        rw [front] at opening
        obtain rfl : c = '0' := (List.cons.inj opening).1
        exact ih (n / 10) (by omega) (by omega) digits front

theorem isDigit_toDigits (n : Nat) : ∀ c ∈ Nat.toDigits 10 n, c.isDigit = true := fun _ hc =>
  Nat.isDigit_of_mem_toDigits (by decide) (by decide) hc

/-- The first digit of a number, which is a zero only if the number is. -/
theorem exists_first_digit (n : Nat) :
    ∃ c digits, Nat.toDigits 10 n = c :: digits ∧ c.isDigit = true ∧ (c = '0' → n = 0) := by
  cases opening : Nat.toDigits 10 n with
  | nil => exact absurd opening Nat.toDigits_ne_nil
  | cons c digits =>
    refine ⟨c, digits, rfl, isDigit_toDigits n c (opening ▸ List.mem_cons_self), ?_⟩
    · rintro rfl
      rcases Nat.eq_zero_or_pos n with zero | pos
      · exact zero
      · exact absurd opening (toDigits_opening pos digits)

/-! ## Values by their keys -/

section
variable {α β : Type} [BEq α] [LawfulBEq α] {entries : List (α × β)} {key : α} {value : β}

theorem lookup_eq_none_iff_notMem : entries.lookup key = none ↔ key ∉ entries.map Prod.fst := by
  simp only [List.lookup_eq_none_iff, bne_iff_ne, List.mem_map, not_exists, not_and]
  exact ⟨fun h entry mem same => h entry mem same.symm,
    fun h entry mem same => h entry mem same.symm⟩

/-- Where no key stands twice, none stands before its entry. -/
theorem bne_fst_of_nodup {before after : List (α × β)}
    (distinct : ((before ++ (key, value) :: after).map Prod.fst).Nodup) :
    ∀ entry ∈ before, (key != entry.1) = true := by
  intro entry he
  rw [List.map_append] at distinct
  have other := (List.nodup_append.1 distinct).2.2 _ (List.mem_map_of_mem he) _ List.mem_cons_self
  exact bne_iff_ne.2 (Ne.symm other)

theorem lookup_eq_some_iff_mem (distinct : (entries.map Prod.fst).Nodup) :
    entries.lookup key = some value ↔ (key, value) ∈ entries := by
  rw [List.lookup_eq_some_iff]
  constructor
  · rintro ⟨before, after, rfl, _⟩
    exact List.mem_append_right _ List.mem_cons_self
  · intro h
    obtain ⟨before, after, rfl⟩ := List.append_of_mem h
    exact ⟨before, after, rfl, bne_fst_of_nodup distinct⟩

theorem lookup_of_perm {entries' : List (α × β)} (same : entries.Perm entries')
    (distinct : (entries.map Prod.fst).Nodup) (key : α) :
    entries.lookup key = entries'.lookup key := by
  have distinct' : (entries'.map Prod.fst).Nodup := (same.map Prod.fst).nodup_iff.1 distinct
  refine Option.ext fun value => ?_
  rw [lookup_eq_some_iff_mem distinct, lookup_eq_some_iff_mem distinct', same.mem_iff]

end

end ClusterMember
