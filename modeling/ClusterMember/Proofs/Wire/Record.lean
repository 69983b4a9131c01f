import ClusterMember.Wire.Record
import Mathlib.Algebra.Group.Nat.Defs

/-! # Records are read back

What stands behind a number, a key or a record is left over when it is read, so that a sequence of
records is read back record by record.

* `Varint.decode?_encode`, `Varint.lt_of_decode?`: the numbers that are read are those of 64 bits.
* `Key.decode?_encode`: keys.
* `Record.write`, `Record.Writable`, `Record.decode?_write`: one record.
* `records?_flatMap_write`, `flatMap_write_inj`: a whole message.
* `Payload.Sized`, `sized_of_records?`: no record holds more than 64 bits can count.
-/

namespace ClusterMember.Wire
set_option autoImplicit false

/-! ## Numbers -/

namespace Varint

theorem decodeIn?_last {room n : Nat} (small : n < 128) (fits : room = 0 → n < 2)
    (rest : List UInt8) : decodeIn? (room + 1) (encode n ++ rest) = some (n, rest) := by
  have hbyte : (UInt8.ofNat n).toNat = n := by
    rw [UInt8.toNat_ofNat']
    omega
  have hlt : UInt8.ofNat n < 128 := by
    rw [UInt8.lt_iff_toNat_lt, hbyte]
    exact small
  have hfits : ¬ (room = 0 ∧ 2 ≤ UInt8.ofNat n) := by
    rintro ⟨h0, h2⟩
    rw [UInt8.le_iff_toNat_le, hbyte] at h2
    exact Nat.not_lt_of_le h2 (fits h0)
  rw [encode, if_pos small, List.singleton_append, decodeIn?, if_pos hlt, if_neg hfits, hbyte]

/-- What so many bytes can hold: seven bits each, but for the last, which holds one. -/
theorem decodeIn?_encode {room n : Nat} (h : n < 2 * 128 ^ room) (rest : List UInt8) :
    decodeIn? (room + 1) (encode n ++ rest) = some (n, rest) := by
  induction room generalizing n with
  | zero => exact decodeIn?_last (by omega) (fun _ => h) rest
  | succ room ih =>
    by_cases small : n < 128
    · exact decodeIn?_last small (fun h0 => by cases h0) rest
    · have hbyte : (UInt8.ofNat (n % 128 + 128)).toNat = n % 128 + 128 := by
        rw [UInt8.toNat_ofNat']
        omega
      have hge : ¬ UInt8.ofNat (n % 128 + 128) < 128 := by
        rw [UInt8.lt_iff_toNat_lt, hbyte]
        exact Nat.not_lt_of_le (Nat.le_add_left _ _)
      have hhigh : n / 128 < 2 * 128 ^ room := by
        rw [Nat.pow_succ] at h
        omega
      rw [encode, if_neg small, List.cons_append, decodeIn?, if_neg hge, ih hhigh, hbyte]
      simp only [Option.some.injEq, Prod.mk.injEq, and_true]
      omega

theorem lt_of_decodeIn? {room n : Nat} {bytes rest : List UInt8}
    (h : decodeIn? (room + 1) bytes = some (n, rest)) : n < 2 * 128 ^ room := by
  induction room generalizing bytes n rest with
  | zero =>
    cases bytes with
    | nil => cases h
    | cons byte tail =>
      rw [decodeIn?] at h
      split at h
      · split at h
        · cases h
        · next small =>
          have hlt : byte.toNat < 2 := by
            have hbyte : byte < 2 := UInt8.not_le.1 fun hle => small ⟨rfl, hle⟩
            exact UInt8.lt_iff_toNat_lt.1 hbyte
          cases h
          exact hlt
      · cases h
  | succ room ih =>
    have hpos : 0 < 128 ^ room := Nat.pow_pos (by decide)
    rw [Nat.pow_succ]
    cases bytes with
    | nil => cases h
    | cons byte tail =>
      have hbyte := byte.toNat_lt
      rw [decodeIn?] at h
      split at h
      · next small =>
        have hlt := UInt8.lt_iff_toNat_lt.1 small
        rw [if_neg (by simp)] at h
        cases h
        change byte.toNat < 128 at hlt
        omega
      · split at h
        · cases h
        · next high left hrest =>
          have hhigh := ih hrest
          cases h
          omega

/-- A number of 64 bits is read back, whatever follows it. -/
theorem decode?_encode {n : Nat} (h : n < 2 ^ 64) (rest : List UInt8) :
    decode? (encode n ++ rest) = some (n, rest) := by
  have hten : n < 2 * 128 ^ 9 := h
  exact decodeIn?_encode hten rest

/-- No writing of a number is the beginning of another's, however large they are. -/
theorem encode_append_inj {n n' : Nat} {rest rest' : List UInt8}
    (h : encode n ++ rest = encode n' ++ rest') : n = n' ∧ rest = rest' := by
  have room (k : Nat) (hk : k ≤ n + n') : k < 2 * 128 ^ (n + n') := by
    have hpow : n + n' < 128 ^ (n + n') := Nat.lt_pow_self (by decide)
    omega
  have hread := decodeIn?_encode (room n (Nat.le_add_right _ _)) rest
  rw [h, decodeIn?_encode (room n' (Nat.le_add_left _ _)) rest'] at hread
  cases hread
  exact ⟨rfl, rfl⟩

theorem encode_ne_nil (n : Nat) : encode n ≠ [] := by
  rw [encode]
  split <;> exact List.cons_ne_nil _ _

theorem lt_of_decode? {n : Nat} {bytes rest : List UInt8} (h : decode? bytes = some (n, rest)) :
    n < 2 ^ 64 := by
  have hten : decodeIn? (9 + 1) bytes = some (n, rest) := h
  exact lt_of_decodeIn? hten

end Varint

/-! ## Keys -/

theorem Kind.ofCode?_code (kind : Kind) : Kind.ofCode? kind.code = some kind := by
  cases kind <;> rfl

theorem Kind.code_lt (kind : Kind) : kind.code < 8 := by
  cases kind <;> decide

theorem Key.decode?_encode (key : Key) (first : 1 ≤ key.number) (last : key.number < 2 ^ 29)
    (rest : List UInt8) : Key.decode? (key.encode ++ rest) = some (key, rest) := by
  have hcode := key.kind.code_lt
  have hnumber : (key.number * 8 + key.kind.code) / 8 = key.number := by omega
  have hkind : (key.number * 8 + key.kind.code) % 8 = key.kind.code := by omega
  have hlt : key.number * 8 + key.kind.code < UInt32.size := by
    unfold UInt32.size
    omega
  have hread : Varint.decode? (key.encode ++ rest) =
      some (key.number * 8 + key.kind.code, rest) := by
    apply Varint.decode?_encode
    unfold UInt32.size at hlt
    omega
  simp only [Key.decode?, hread, hnumber, hkind, Kind.ofCode?_code]
  rw [if_pos ⟨hlt, first⟩]

theorem Key.encode_append_inj {key key' : Key} {rest rest' : List UInt8}
    (h : key.encode ++ rest = key'.encode ++ rest') : key = key' ∧ rest = rest' := by
  obtain ⟨hkey, hrest⟩ := Varint.encode_append_inj h
  have hcode := key.kind.code_lt
  have hcode' := key'.kind.code_lt
  have hnumber : key.number = key'.number := by omega
  have hkind : key.kind.code = key'.kind.code := by omega
  have hread := Kind.ofCode?_code key.kind
  rw [hkind, Kind.ofCode?_code] at hread
  obtain ⟨number, kind⟩ := key
  obtain ⟨number', kind'⟩ := key'
  cases hnumber
  cases hread
  exact ⟨rfl, hrest⟩

/-! ## Records -/

theorem takeCounted?_append {part : List UInt8} (h : part.length < 2 ^ 64) (rest : List UInt8) :
    takeCounted? (Varint.encode part.length ++ (part ++ rest)) = some (part, rest) := by
  simp only [takeCounted?, Varint.decode?_encode h, take?]
  rw [if_pos (by simp), List.take_left, List.drop_left]

/-- Whether 64 bits can count what a payload holds. -/
def Payload.Sized : Payload → Prop
  | varint value => value < 2 ^ 64
  | bytes value => value.length < 2 ^ 64
  | skipped => True

namespace Record

/-- A record as it is written. What was read past is not written again. -/
def write (record : Record) : List UInt8 :=
  match record.payload with
  | .varint value => Key.encode ⟨record.number, .varint⟩ ++ Varint.encode value
  | .bytes value =>
    Key.encode ⟨record.number, .bytes⟩ ++ (Varint.encode value.length ++ value)
  | .skipped => []

/-- A record that can be written: it has the number of a field and a payload of its own. -/
structure Writable (record : Record) : Prop where
  first : 1 ≤ record.number
  last : record.number < 2 ^ 29
  kept : record.payload ≠ .skipped
  sized : record.payload.Sized

theorem decode?_write {record : Record} (h : record.Writable) (rest : List UInt8) :
    decode? (record.write ++ rest) = some (record, rest) := by
  obtain ⟨number, payload⟩ := record
  obtain ⟨first, last, kept, sized⟩ := h
  cases payload with
  | varint value =>
    have hkey := Key.decode?_encode ⟨number, .varint⟩ first last
      (Varint.encode value ++ rest)
    simp only [write, decode?, List.append_assoc, hkey, Varint.decode?_encode sized]
    rfl
  | bytes value =>
    have hkey := Key.decode?_encode ⟨number, .bytes⟩ first last
      (Varint.encode value.length ++ (value ++ rest))
    simp only [write, decode?, List.append_assoc, hkey, takeCounted?_append sized]
    rfl
  | skipped => exact absurd rfl kept

theorem write_append_ne_nil {record : Record} (h : record.payload ≠ .skipped) (rest : List UInt8) :
    record.write ++ rest ≠ [] := by
  obtain ⟨number, payload⟩ := record
  cases payload with
  | varint => simp [write, Key.encode, Varint.encode_ne_nil]
  | bytes => simp [write, Key.encode, Varint.encode_ne_nil]
  | skipped => exact absurd rfl h

theorem write_append_inj {record record' : Record} (h : record.payload ≠ .skipped)
    (h' : record'.payload ≠ .skipped) {rest rest' : List UInt8}
    (same : record.write ++ rest = record'.write ++ rest') : record = record' ∧ rest = rest' := by
  obtain ⟨number, payload⟩ := record
  obtain ⟨number', payload'⟩ := record'
  cases payload with
  | skipped => exact absurd rfl h
  | varint value =>
    cases payload' with
    | skipped => exact absurd rfl h'
    | bytes value' =>
      simp only [write, List.append_assoc] at same
      cases (Key.encode_append_inj same).1
    | varint value' =>
      simp only [write, List.append_assoc] at same
      obtain ⟨hkey, hrest⟩ := Key.encode_append_inj same
      obtain ⟨hvalue, hrest⟩ := Varint.encode_append_inj hrest
      cases hkey
      exact ⟨by rw [hvalue], hrest⟩
  | bytes value =>
    cases payload' with
    | skipped => exact absurd rfl h'
    | varint value' =>
      simp only [write, List.append_assoc] at same
      cases (Key.encode_append_inj same).1
    | bytes value' =>
      simp only [write, List.append_assoc] at same
      obtain ⟨hkey, hrest⟩ := Key.encode_append_inj same
      obtain ⟨hlength, hrest⟩ := Varint.encode_append_inj hrest
      obtain ⟨hvalue, hrest⟩ := List.append_inj hrest hlength
      cases hkey
      exact ⟨by rw [hvalue], hrest⟩

end Record

/-! ## Messages -/

theorem records?_nil : records? [] = some [] := by
  rw [records?]
  rfl

theorem records?_of_decode? {bytes rest : List UInt8} {record : Record}
    (h : Record.decode? bytes = some (record, rest)) :
    records? bytes = (records? rest).map (record :: ·) := by
  have hne : bytes.isEmpty = false := by
    cases bytes with
    | nil => cases h
    | cons => rfl
  rw [records?, if_neg (by simp [hne])]
  split
  · next hnone =>
    rw [h] at hnone
    cases hnone
  · next hsome =>
    rw [h] at hsome
    cases hsome
    rfl

/-- Records that are written one after another are read back one after another. -/
theorem records?_flatMap_write {records : List Record} (h : ∀ record ∈ records, record.Writable) :
    records? (records.flatMap Record.write) = some records := by
  induction records with
  | nil => exact records?_nil
  | cons record records ih =>
    obtain ⟨hfirst, hrest⟩ := List.forall_mem_cons.1 h
    rw [List.flatMap_cons, records?_of_decode? (Record.decode?_write hfirst _), ih hrest]
    rfl

/-- Different records are written differently, also where they are too long to be read back. -/
theorem flatMap_write_inj {records records' : List Record}
    (h : ∀ record ∈ records, record.payload ≠ .skipped)
    (h' : ∀ record ∈ records', record.payload ≠ .skipped)
    (same : records.flatMap Record.write = records'.flatMap Record.write) : records = records' := by
  induction records generalizing records' with
  | nil =>
    cases records' with
    | nil => rfl
    | cons record' records' =>
      exact absurd same.symm (Record.write_append_ne_nil (h' _ List.mem_cons_self) _)
  | cons record records ih =>
    cases records' with
    | nil => exact absurd same (Record.write_append_ne_nil (h _ List.mem_cons_self) _)
    | cons record' records' =>
      obtain ⟨hfirst, hrest⟩ := List.forall_mem_cons.1 h
      obtain ⟨hfirst', hrest'⟩ := List.forall_mem_cons.1 h'
      rw [List.flatMap_cons, List.flatMap_cons] at same
      obtain ⟨rfl, hrecords⟩ := Record.write_append_inj hfirst hfirst' same
      rw [ih hrest hrest' hrecords]

theorem length_lt_of_takeCounted? {bytes part rest : List UInt8}
    (h : takeCounted? bytes = some (part, rest)) : part.length < 2 ^ 64 := by
  unfold takeCounted? at h
  split at h
  · cases h
  · next n left hread =>
    have hn := Varint.lt_of_decode? hread
    unfold take? at h
    split at h
    · cases h
      rw [List.length_take]
      omega
    · cases h

theorem sized_of_decode? {bytes rest : List UInt8} {record : Record}
    (h : Record.decode? bytes = some (record, rest)) : record.payload.Sized := by
  unfold Record.decode? at h
  split at h
  · cases h
  · obtain ⟨⟨n, left⟩, hread, heq⟩ := Option.map_eq_some_iff.1 h
    cases heq
    exact Varint.lt_of_decode? hread
  · obtain ⟨⟨part, left⟩, hread, heq⟩ := Option.map_eq_some_iff.1 h
    cases heq
    exact length_lt_of_takeCounted? hread
  · obtain ⟨left, _, heq⟩ := Option.map_eq_some_iff.1 h
    cases heq
    trivial
  · obtain ⟨left, _, heq⟩ := Option.map_eq_some_iff.1 h
    cases heq
    trivial

theorem sized_of_records? {bytes : List UInt8} {records : List Record}
    (h : records? bytes = some records) : ∀ record ∈ records, record.payload.Sized := by
  fun_induction records? bytes generalizing records with
  | case1 =>
    cases h
    simp
  | case2 => cases h
  | case3 bytes _ first rest read ih =>
    obtain ⟨others, hothers, rfl⟩ := Option.map_eq_some_iff.1 h
    exact List.forall_mem_cons.2 ⟨sized_of_decode? read, ih hothers⟩

end ClusterMember.Wire
