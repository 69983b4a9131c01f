import ClusterMember.Proofs.Wire.Record

/-! # What the bytes of a message spell

A number, a key or a record can be spelled in more than one way, since a number may be written with
more bytes than it needs. Here it is said which bytes spell what, without regard to how they are
read, and shown that reading takes exactly such bytes off the front.

* `Varint.Groups`, `Varint.Spells`, `Key.Spells`: numbers and keys.
* `Kind.Spells`, `Closes`: values and groups that are read past.
* `Record.Spells`, `Record.decode?_eq_some_iff`: one record.
* `Piece`, `joined`, `records?_eq_some_iff`: a whole message.
-/

namespace ClusterMember.Wire
set_option autoImplicit false

/-! ## Numbers -/

namespace Varint

/-- A number in groups of seven bits, the lowest first, of which the last may be zeros. -/
inductive Groups : Nat → List UInt8 → Prop
  | last {byte : UInt8} (ends : byte < 128) : Groups byte.toNat [byte]
  | more {byte : UInt8} {high : Nat} {bytes : List UInt8} (continues : ¬ byte < 128)
      (rest : Groups high bytes) : Groups (byte.toNat - 128 + 128 * high) (byte :: bytes)

/-- The bytes of a number of 64 bits. -/
structure Spells (n : Nat) (bytes : List UInt8) : Prop where
  groups : Groups n bytes
  short : bytes.length ≤ maxBytes
  small : n < 2 ^ 64

theorem Groups.length_pos {n : Nat} {bytes : List UInt8} (h : Groups n bytes) :
    0 < bytes.length := by
  cases h <;> exact Nat.succ_pos _

theorem groups_of_decodeIn? {room n : Nat} {bytes rest : List UInt8}
    (h : decodeIn? room bytes = some (n, rest)) :
    ∃ front, bytes = front ++ rest ∧ Groups n front ∧ front.length ≤ room := by
  fun_induction decodeIn? room bytes generalizing n rest with
  | case1 => cases h
  | case2 => cases h
  | case3 => cases h
  | case4 room byte tail ends =>
    cases h
    exact ⟨[byte], rfl, .last ends, Nat.succ_pos _⟩
  | case5 => cases h
  | case6 room byte tail continues high left hread ih =>
    cases h
    obtain ⟨front, rfl, groups, short⟩ := ih hread
    exact ⟨byte :: front, rfl, .more continues groups, Nat.succ_le_succ short⟩

/-- Groups that fit into the room there is are read, whatever follows them. -/
theorem Groups.decodeIn? {n room : Nat} {front : List UInt8} (h : Groups n front)
    (short : front.length ≤ room + 1) (small : n < 2 * 128 ^ room) (rest : List UInt8) :
    Varint.decodeIn? (room + 1) (front ++ rest) = some (n, rest) := by
  induction h generalizing room with
  | @last byte ends =>
    have hfits : ¬ (room = 0 ∧ 2 ≤ byte) := by
      rintro ⟨rfl, large⟩
      exact Nat.not_lt_of_le (UInt8.le_iff_toNat_le.1 large) small
    rw [List.singleton_append, Varint.decodeIn?, if_pos ends, if_neg hfits]
  | @more byte high bytes continues groups ih =>
    have hpos := groups.length_pos
    cases room with
    | zero => exact absurd short (by simp [List.length_cons, Nat.ne_of_gt hpos])
    | succ room =>
      have hhigh : high < 2 * 128 ^ room := by
        rw [Nat.pow_succ] at small
        omega
      rw [List.cons_append, Varint.decodeIn?, if_neg continues,
        ih (Nat.le_of_succ_le_succ short) hhigh]

theorem Spells.decode? {n : Nat} {front : List UInt8} (h : Spells n front) (rest : List UInt8) :
    Varint.decode? (front ++ rest) = some (n, rest) := by
  have hten : n < 2 * 128 ^ 9 := h.small
  exact h.groups.decodeIn? h.short hten rest

theorem decode?_eq_some_iff {n : Nat} {bytes rest : List UInt8} :
    decode? bytes = some (n, rest) ↔ ∃ front, bytes = front ++ rest ∧ Spells n front := by
  constructor
  · intro h
    obtain ⟨front, split, groups, short⟩ := groups_of_decodeIn? h
    exact ⟨front, split, groups, short, lt_of_decode? h⟩
  · rintro ⟨front, rfl, spells⟩
    exact spells.decode? rest

end Varint

/-! ## Keys -/

/-- The bytes of a key. -/
structure Key.Spells (key : Key) (bytes : List UInt8) : Prop where
  number : Varint.Spells (key.number * 8 + key.kind.code) bytes
  first : 1 ≤ key.number
  last : key.number < 2 ^ 29

theorem Kind.ofCode?_eq_some_iff {code : Nat} {kind : Kind} :
    Kind.ofCode? code = some kind ↔ kind.code = code := by
  constructor
  · intro h
    unfold Kind.ofCode? at h
    split at h <;> cases h <;> rfl
  · rintro rfl
    exact Kind.ofCode?_code kind

theorem Key.Spells.decode? {key : Key} {front : List UInt8} (h : key.Spells front)
    (rest : List UInt8) : Key.decode? (front ++ rest) = some (key, rest) := by
  have hread := h.number.decode? rest
  have hcode := key.kind.code_lt
  have hlast := h.last
  have hnumber : (key.number * 8 + key.kind.code) / 8 = key.number := by omega
  have hkind : (key.number * 8 + key.kind.code) % 8 = key.kind.code := by omega
  have hlt : key.number * 8 + key.kind.code < UInt32.size := by
    unfold UInt32.size
    omega
  simp only [Key.decode?, hread, hnumber, hkind, Kind.ofCode?_code]
  rw [if_pos ⟨hlt, h.first⟩]

theorem Key.decode?_eq_some_iff {key : Key} {bytes rest : List UInt8} :
    Key.decode? bytes = some (key, rest) ↔ ∃ front, bytes = front ++ rest ∧ key.Spells front := by
  constructor
  · intro h
    unfold Key.decode? at h
    split at h
    · cases h
    · next n left hread =>
      obtain ⟨front, split, spells⟩ := Varint.decode?_eq_some_iff.1 hread
      split at h
      · next bounds =>
        split at h
        · cases h
        · next kind hkind =>
          cases h
          have hcode := Kind.ofCode?_eq_some_iff.1 hkind
          have hn : n / 8 * 8 + kind.code = n := by omega
          have hlast : n / 8 < 2 ^ 29 := by
            unfold UInt32.size at bounds
            omega
          exact ⟨front, split, hn.symm ▸ spells, bounds.2, hlast⟩
      · cases h
  · rintro ⟨front, rfl, spells⟩
    exact spells.decode? rest

/-! ## Values -/

theorem take?_eq_some_iff {n : Nat} {bytes part rest : List UInt8} :
    take? n bytes = some (part, rest) ↔ bytes = part ++ rest ∧ part.length = n := by
  unfold take?
  constructor
  · intro h
    split at h
    · next enough =>
      cases h
      exact ⟨(List.take_append_drop n bytes).symm, List.length_take_of_le enough⟩
    · cases h
  · rintro ⟨rfl, rfl⟩
    rw [if_pos (by simp), List.take_left, List.drop_left]

theorem takeCounted?_eq_some_iff {bytes part rest : List UInt8} :
    takeCounted? bytes = some (part, rest) ↔
      ∃ count, bytes = (count ++ part) ++ rest ∧ Varint.Spells part.length count := by
  unfold takeCounted?
  constructor
  · intro h
    split at h
    · cases h
    · next n left hread =>
      obtain ⟨rfl, rfl⟩ := take?_eq_some_iff.1 h
      obtain ⟨count, rfl, spells⟩ := Varint.decode?_eq_some_iff.1 hread
      exact ⟨count, (List.append_assoc ..).symm, spells⟩
  · rintro ⟨count, rfl, spells⟩
    rw [List.append_assoc, spells.decode?]
    exact take?_eq_some_iff.2 ⟨rfl, rfl⟩

/-- The bytes of a value of some kind, whatever it is. -/
inductive Kind.Spells : Kind → List UInt8 → Prop
  | varint {n : Nat} {bytes : List UInt8} (value : Varint.Spells n bytes) : Spells .varint bytes
  | fixed64 {bytes : List UInt8} (size : bytes.length = 8) : Spells .fixed64 bytes
  | bytes {count part : List UInt8} (size : Varint.Spells part.length count) :
      Spells .bytes (count ++ part)
  | fixed32 {bytes : List UInt8} (size : bytes.length = 4) : Spells .fixed32 bytes

theorem Kind.Spells.skipValue? {kind : Kind} {front : List UInt8} (h : kind.Spells front)
    (rest : List UInt8) : Wire.skipValue? kind (front ++ rest) = some rest := by
  cases h with
  | varint value =>
    rw [Wire.skipValue?, value.decode?]
    rfl
  | fixed64 size =>
    rw [Wire.skipValue?, take?_eq_some_iff.2 ⟨rfl, size⟩]
    rfl
  | bytes size =>
    rw [Wire.skipValue?, takeCounted?_eq_some_iff.2 ⟨_, rfl, size⟩]
    rfl
  | fixed32 size =>
    rw [Wire.skipValue?, take?_eq_some_iff.2 ⟨rfl, size⟩]
    rfl

theorem skipValue?_eq_some_iff {kind : Kind} {bytes rest : List UInt8} :
    skipValue? kind bytes = some rest ↔ ∃ front, bytes = front ++ rest ∧ kind.Spells front := by
  constructor
  · intro h
    unfold skipValue? at h
    split at h
    · obtain ⟨⟨n, left⟩, hread, rfl⟩ := Option.map_eq_some_iff.1 h
      obtain ⟨front, split, spells⟩ := Varint.decode?_eq_some_iff.1 hread
      exact ⟨front, split, .varint spells⟩
    · obtain ⟨⟨part, left⟩, hread, rfl⟩ := Option.map_eq_some_iff.1 h
      obtain ⟨split, size⟩ := take?_eq_some_iff.1 hread
      exact ⟨part, split, .fixed64 size⟩
    · obtain ⟨⟨part, left⟩, hread, rfl⟩ := Option.map_eq_some_iff.1 h
      obtain ⟨count, split, size⟩ := takeCounted?_eq_some_iff.1 hread
      exact ⟨count ++ part, split, .bytes size⟩
    · obtain ⟨⟨part, left⟩, hread, rfl⟩ := Option.map_eq_some_iff.1 h
      obtain ⟨split, size⟩ := take?_eq_some_iff.1 hread
      exact ⟨part, split, .fixed32 size⟩
    · cases h
    · cases h
  · rintro ⟨front, rfl, spells⟩
    exact spells.skipValue? rest

/-! ## Groups -/

/-- The bytes that close groups with some numbers, the innermost first. On the way other groups may
be opened and closed, and values of any kind may stand, as deep as groups may be nested. -/
inductive Closes : List Nat → List UInt8 → Prop
  | done : Closes [] []
  | ends {number : Nat} {outer : List Nat} {key bytes : List UInt8}
      (spelled : (⟨number, .groupEnd⟩ : Key).Spells key) (rest : Closes outer bytes) :
      Closes (number :: outer) (key ++ bytes)
  | starts {number innermost : Nat} {outer : List Nat} {key bytes : List UInt8}
      (depth : outer.length + 1 < maxDepth) (spelled : (⟨number, .groupStart⟩ : Key).Spells key)
      (rest : Closes (number :: innermost :: outer) bytes) :
      Closes (innermost :: outer) (key ++ bytes)
  | value {number innermost : Nat} {kind : Kind} {outer : List Nat} {key part bytes : List UInt8}
      (depth : outer.length + 1 < maxDepth) (spelled : (⟨number, kind⟩ : Key).Spells key)
      (value : kind.Spells part) (rest : Closes (innermost :: outer) bytes) :
      Closes (innermost :: outer) (key ++ (part ++ bytes))

theorem closes_of_skipGroups? {opened : List Nat} {bytes rest : List UInt8}
    (h : skipGroups? opened bytes = some rest) :
    ∃ front, bytes = front ++ rest ∧ Closes opened front := by
  fun_induction skipGroups? opened bytes with
  | case1 =>
    cases h
    exact ⟨[], rfl, .done⟩
  | case2 => cases h
  | case3 bytes innermost outer left read ih =>
    obtain ⟨key, rfl, spelled⟩ := Key.decode?_eq_some_iff.1 read
    obtain ⟨front, rfl, closes⟩ := ih h
    exact ⟨key ++ front, (List.append_assoc ..).symm, .ends spelled closes⟩
  | case4 => cases h
  | case5 bytes innermost outer number left read depth ih =>
    obtain ⟨key, rfl, spelled⟩ := Key.decode?_eq_some_iff.1 read
    obtain ⟨front, rfl, closes⟩ := ih h
    exact ⟨key ++ front, (List.append_assoc ..).symm, .starts depth spelled closes⟩
  | case6 => cases h
  | case7 => cases h
  | case8 bytes innermost outer number kind left _ _ read depth right skipped ih =>
    obtain ⟨key, rfl, spelled⟩ := Key.decode?_eq_some_iff.1 read
    obtain ⟨part, rfl, value⟩ := skipValue?_eq_some_iff.1 skipped
    obtain ⟨front, rfl, closes⟩ := ih h
    exact ⟨key ++ (part ++ front), by simp, .value depth spelled value closes⟩
  | case9 => cases h

/-- What is done with a key on the way out of groups. -/
theorem skipGroups?_of_decode? {innermost : Nat} {outer : List Nat} {bytes left : List UInt8}
    {key : Key} (h : Key.decode? bytes = some (key, left)) :
    skipGroups? (innermost :: outer) bytes =
      if key.kind = .groupEnd then
        if key.number = innermost then skipGroups? outer left else none
      else if outer.length + 1 < maxDepth then
        if key.kind = .groupStart then skipGroups? (key.number :: innermost :: outer) left
        else (skipValue? key.kind left).bind (skipGroups? (innermost :: outer))
      else none := by
  rw [skipGroups?]
  split
  · next read => cases read.symm.trans h
  · next read =>
    cases read.symm.trans h
    rfl
  · next read =>
    cases read.symm.trans h
    rfl
  · next kind left' notEnd notStart read =>
    cases read.symm.trans h
    rw [if_neg notEnd, if_neg notStart]
    cases skipValue? kind left <;> rfl

theorem Closes.skipGroups? {opened : List Nat} {front : List UInt8} (h : Closes opened front)
    (rest : List UInt8) : Wire.skipGroups? opened (front ++ rest) = some rest := by
  induction h with
  | done => rw [Wire.skipGroups?, List.nil_append]
  | ends spelled _ ih =>
    rw [List.append_assoc, skipGroups?_of_decode? (spelled.decode? _), if_pos rfl, if_pos rfl, ih]
  | starts depth spelled _ ih =>
    have goesOn : Kind.groupStart ≠ .groupEnd := by decide
    rw [List.append_assoc, skipGroups?_of_decode? (spelled.decode? _), if_neg goesOn, if_pos depth,
      if_pos rfl, ih]
  | @value number innermost kind outer key part bytes depth spelled value _ ih =>
    have hend : kind ≠ .groupEnd := by rintro rfl; cases value
    have hstart : kind ≠ .groupStart := by rintro rfl; cases value
    rw [List.append_assoc, List.append_assoc, skipGroups?_of_decode? (spelled.decode? _),
      if_neg hend, if_pos depth, if_neg hstart, value.skipValue?, Option.bind_some, ih]

theorem skipGroups?_eq_some_iff {opened : List Nat} {bytes rest : List UInt8} :
    skipGroups? opened bytes = some rest ↔ ∃ front, bytes = front ++ rest ∧ Closes opened front :=
  ⟨closes_of_skipGroups?, by rintro ⟨front, rfl, closes⟩; exact closes.skipGroups? rest⟩

/-! ## Records -/

namespace Record

/-- The bytes of a record: its key, and a value of the kind that the key tells. -/
inductive Spells : Record → List UInt8 → Prop
  | varint {number n : Nat} {key value : List UInt8}
      (spelled : (⟨number, .varint⟩ : Key).Spells key) (digits : Varint.Spells n value) :
      Spells ⟨number, .varint n⟩ (key ++ value)
  | fixed64 {number : Nat} {key value : List UInt8}
      (spelled : (⟨number, .fixed64⟩ : Key).Spells key) (size : value.length = 8) :
      Spells ⟨number, .skipped⟩ (key ++ value)
  | bytes {number : Nat} {key count part : List UInt8}
      (spelled : (⟨number, .bytes⟩ : Key).Spells key) (size : Varint.Spells part.length count) :
      Spells ⟨number, .bytes part⟩ (key ++ (count ++ part))
  | group {number : Nat} {key body : List UInt8}
      (spelled : (⟨number, .groupStart⟩ : Key).Spells key) (closes : Closes [number] body) :
      Spells ⟨number, .skipped⟩ (key ++ body)
  | fixed32 {number : Nat} {key value : List UInt8}
      (spelled : (⟨number, .fixed32⟩ : Key).Spells key) (size : value.length = 4) :
      Spells ⟨number, .skipped⟩ (key ++ value)

theorem spells_of_decode? {bytes rest : List UInt8} {record : Record}
    (h : decode? bytes = some (record, rest)) :
    ∃ front, bytes = front ++ rest ∧ record.Spells front := by
  unfold decode? at h
  split at h
  · cases h
  · next number left read =>
    obtain ⟨⟨n, right⟩, hvalue, heq⟩ := Option.map_eq_some_iff.1 h
    cases heq
    obtain ⟨key, rfl, spelled⟩ := Key.decode?_eq_some_iff.1 read
    obtain ⟨value, rfl, digits⟩ := Varint.decode?_eq_some_iff.1 hvalue
    exact ⟨key ++ value, (List.append_assoc ..).symm, .varint spelled digits⟩
  · next number left read =>
    obtain ⟨⟨part, right⟩, hvalue, heq⟩ := Option.map_eq_some_iff.1 h
    cases heq
    obtain ⟨key, rfl, spelled⟩ := Key.decode?_eq_some_iff.1 read
    obtain ⟨count, rfl, size⟩ := takeCounted?_eq_some_iff.1 hvalue
    exact ⟨key ++ (count ++ part), (List.append_assoc ..).symm, .bytes spelled size⟩
  · next number left read =>
    obtain ⟨right, hvalue, heq⟩ := Option.map_eq_some_iff.1 h
    cases heq
    obtain ⟨key, rfl, spelled⟩ := Key.decode?_eq_some_iff.1 read
    obtain ⟨body, rfl, closes⟩ := skipGroups?_eq_some_iff.1 hvalue
    exact ⟨key ++ body, (List.append_assoc ..).symm, .group spelled closes⟩
  · next number kind left notVarint notBytes _ read =>
    obtain ⟨right, hvalue, heq⟩ := Option.map_eq_some_iff.1 h
    cases heq
    obtain ⟨key, rfl, spelled⟩ := Key.decode?_eq_some_iff.1 read
    obtain ⟨value, rfl, spells⟩ := skipValue?_eq_some_iff.1 hvalue
    refine ⟨key ++ value, (List.append_assoc ..).symm, ?_⟩
    cases spells with
    | varint => exact absurd rfl notVarint
    | bytes => exact absurd rfl notBytes
    | fixed64 size => exact .fixed64 spelled size
    | fixed32 size => exact .fixed32 spelled size

theorem Spells.decode? {record : Record} {front : List UInt8} (h : record.Spells front)
    (rest : List UInt8) : Record.decode? (front ++ rest) = some (record, rest) := by
  cases h with
  | varint spelled digits =>
    simp only [Record.decode?, List.append_assoc, spelled.decode?, digits.decode?]
    rfl
  | fixed64 spelled size =>
    simp only [Record.decode?, List.append_assoc, spelled.decode?,
      (Kind.Spells.fixed64 size).skipValue?]
    rfl
  | bytes spelled size =>
    simp only [Record.decode?, List.append_assoc, spelled.decode?]
    rw [← List.append_assoc, takeCounted?_eq_some_iff.2 ⟨_, rfl, size⟩]
    rfl
  | group spelled closes =>
    simp only [Record.decode?, List.append_assoc, spelled.decode?, closes.skipGroups?]
    rfl
  | fixed32 spelled size =>
    simp only [Record.decode?, List.append_assoc, spelled.decode?,
      (Kind.Spells.fixed32 size).skipValue?]
    rfl

theorem decode?_eq_some_iff {bytes rest : List UInt8} {record : Record} :
    decode? bytes = some (record, rest) ↔ ∃ front, bytes = front ++ rest ∧ record.Spells front :=
  ⟨spells_of_decode?, by rintro ⟨front, rfl, spells⟩; exact spells.decode? rest⟩

end Record

/-! ## Messages -/

/-- A record as it stands in a message. -/
structure Piece where
  record : Record
  bytes : List UInt8
  spells : record.Spells bytes

/-- The bytes of records that stand one behind the other. -/
def joined (pieces : List Piece) : List UInt8 := pieces.flatMap Piece.bytes

theorem joined_append (front back : List Piece) :
    joined (front ++ back) = joined front ++ joined back := List.flatMap_append

theorem records?_joined (pieces : List Piece) :
    records? (joined pieces) = some (pieces.map Piece.record) := by
  induction pieces with
  | nil => exact records?_nil
  | cons piece pieces ih =>
    show records? (piece.bytes ++ joined pieces) = _
    rw [records?_of_decode? (piece.spells.decode? _), ih]
    rfl

theorem exists_joined_of_records? {bytes : List UInt8} {records : List Record}
    (h : records? bytes = some records) :
    ∃ pieces, bytes = joined pieces ∧ records = pieces.map Piece.record := by
  fun_induction records? bytes generalizing records with
  | case1 bytes empty =>
    cases h
    exact ⟨[], List.isEmpty_iff.1 empty, rfl⟩
  | case2 => cases h
  | case3 bytes _ first rest read ih =>
    obtain ⟨others, hothers, rfl⟩ := Option.map_eq_some_iff.1 h
    obtain ⟨front, rfl, spells⟩ := Record.decode?_eq_some_iff.1 read
    obtain ⟨pieces, rfl, rfl⟩ := ih hothers
    exact ⟨⟨first, front, spells⟩ :: pieces, rfl, rfl⟩

/-- A message is read as some records exactly if it is made of their bytes, one behind the other. -/
theorem records?_eq_some_iff {bytes : List UInt8} {records : List Record} :
    records? bytes = some records ↔
      ∃ pieces, bytes = joined pieces ∧ records = pieces.map Piece.record :=
  ⟨exists_joined_of_records?, by rintro ⟨pieces, rfl, rfl⟩; exact records?_joined pieces⟩

end ClusterMember.Wire
