/-! # Numbers and records

A number below `2 ^ 64` is written in groups of seven bits, the lowest first; the top bit of a byte
says that more bytes follow.

* `Varint.encode`: the shortest writing of a number.
* `Varint.decode?`: reads a number off the front; longer writings than needed are accepted.
* `Varint.length_of_decode?`: reading uses up at least one byte.

A message is written as a sequence of records. Each begins with a key, which holds the number of a
field and the kind of writing that follows.

* `Key`, `Key.decode?`: the keys; field numbers are from 1 to `2 ^ 29 - 1`.
* `Record`, `Record.decode?`: one record off the front.
* `records?`: a whole message as its records.
-/

namespace ClusterMember.Wire.Varint
set_option autoImplicit false

/-! ## Numbers of variable length -/

/-- The most bytes that a number can take. -/
def maxBytes : Nat := 10

def encode (n : Nat) : List UInt8 :=
  if n < 128 then [UInt8.ofNat n] else UInt8.ofNat (n % 128 + 128) :: encode (n / 128)

/-- Read a number that takes at most `room` bytes. The last byte there is room for may only hold
what is left of 64 bits, which is one bit when ten bytes are allowed. -/
def decodeIn? : (room : Nat) → List UInt8 → Option (Nat × List UInt8)
  | 0, _ => none
  | _ + 1, [] => none
  | room + 1, byte :: rest =>
    if byte < 128 then
      if room = 0 ∧ 2 ≤ byte then none else some (byte.toNat, rest)
    else
      match decodeIn? room rest with
      | none => none
      | some (high, rest) => some (byte.toNat - 128 + 128 * high, rest)

def decode? (bytes : List UInt8) : Option (Nat × List UInt8) := decodeIn? maxBytes bytes

theorem length_of_decodeIn? {room : Nat} {bytes rest : List UInt8} {n : Nat}
    (h : decodeIn? room bytes = some (n, rest)) : rest.length < bytes.length := by
  fun_induction decodeIn? room bytes generalizing n rest with
  | case1 => simp at h
  | case2 => simp at h
  | case3 => simp at h
  | case4 =>
    simp only [Option.some.injEq, Prod.mk.injEq] at h
    simp [← h.2]
  | case5 => simp at h
  | case6 room byte tail _ high rest' heq ih =>
    simp only [Option.some.injEq, Prod.mk.injEq] at h
    have := ih heq
    rw [← h.2, List.length_cons]
    omega

theorem length_of_decode? {bytes rest : List UInt8} {n : Nat}
    (h : decode? bytes = some (n, rest)) : rest.length < bytes.length := length_of_decodeIn? h

end ClusterMember.Wire.Varint

namespace ClusterMember.Wire
set_option autoImplicit false

/-! ## Keys -/

/-- How the value of a record is written. -/
inductive Kind
  | varint
  | fixed64
  | bytes
  | groupStart
  | groupEnd
  | fixed32
deriving DecidableEq

namespace Kind

def code : Kind → Nat
  | varint => 0
  | fixed64 => 1
  | bytes => 2
  | groupStart => 3
  | groupEnd => 4
  | fixed32 => 5

def ofCode? : Nat → Option Kind
  | 0 => some varint
  | 1 => some fixed64
  | 2 => some bytes
  | 3 => some groupStart
  | 4 => some groupEnd
  | 5 => some fixed32
  | _ => none

end Kind

/-- A field number and the kind of the value after it. -/
structure Key where
  number : Nat
  kind : Kind
deriving DecidableEq

namespace Key

def encode (key : Key) : List UInt8 := Varint.encode (key.number * 8 + key.kind.code)

def decode? (bytes : List UInt8) : Option (Key × List UInt8) :=
  match Varint.decode? bytes with
  | none => none
  | some (n, rest) =>
    if n < UInt32.size ∧ 1 ≤ n / 8 then
      match Kind.ofCode? (n % 8) with
      | none => none
      | some kind => some (⟨n / 8, kind⟩, rest)
    else none

theorem length_of_decode? {bytes rest : List UInt8} {key : Key}
    (h : decode? bytes = some (key, rest)) : rest.length < bytes.length := by
  unfold decode? at h
  split at h
  · simp at h
  · next n r heq =>
    split at h
    · split at h
      · simp at h
      · simp only [Option.some.injEq, Prod.mk.injEq] at h
        exact h.2 ▸ Varint.length_of_decode? heq
    · simp at h

end Key

/-! ## Values -/

/-- Split off `n` bytes, if there are as many. -/
def take? (n : Nat) (bytes : List UInt8) : Option (List UInt8 × List UInt8) :=
  if n ≤ bytes.length then some (bytes.take n, bytes.drop n) else none

theorem length_of_take? {n : Nat} {bytes part rest : List UInt8}
    (h : take? n bytes = some (part, rest)) : rest.length ≤ bytes.length := by
  unfold take? at h
  split at h
  · simp only [Option.some.injEq, Prod.mk.injEq] at h
    simp [← h.2]
  · simp at h

/-- Split off bytes that are preceded by their number. -/
def takeCounted? (bytes : List UInt8) : Option (List UInt8 × List UInt8) :=
  match Varint.decode? bytes with
  | none => none
  | some (n, rest) => take? n rest

theorem length_of_takeCounted? {bytes part rest : List UInt8}
    (h : takeCounted? bytes = some (part, rest)) : rest.length ≤ bytes.length := by
  unfold takeCounted? at h
  split at h
  · simp at h
  · next n r heq =>
    have := length_of_take? h
    have := Varint.length_of_decode? heq
    omega

def skipValue? (kind : Kind) (bytes : List UInt8) : Option (List UInt8) :=
  match kind with
  | .varint => (Varint.decode? bytes).map Prod.snd
  | .fixed64 => (take? 8 bytes).map Prod.snd
  | .bytes => (takeCounted? bytes).map Prod.snd
  | .fixed32 => (take? 4 bytes).map Prod.snd
  | .groupStart | .groupEnd => none

theorem length_of_skipValue? {kind : Kind} {bytes rest : List UInt8}
    (h : skipValue? kind bytes = some rest) : rest.length ≤ bytes.length := by
  unfold skipValue? at h
  split at h
  · obtain ⟨⟨n, r⟩, heq, rfl⟩ := Option.map_eq_some_iff.1 h
    exact Nat.le_of_lt (Varint.length_of_decode? heq)
  · obtain ⟨⟨p, r⟩, heq, rfl⟩ := Option.map_eq_some_iff.1 h
    exact length_of_take? heq
  · obtain ⟨⟨p, r⟩, heq, rfl⟩ := Option.map_eq_some_iff.1 h
    exact length_of_takeCounted? heq
  · obtain ⟨⟨p, r⟩, heq, rfl⟩ := Option.map_eq_some_iff.1 h
    exact length_of_take? heq
  · simp at h
  · simp at h

/-! ## Groups -/

/-- How deep groups may be nested. -/
def maxDepth : Nat := 100

/-- What follows the groups whose numbers are `opened`, the innermost first. Each group ends with
its own number, and a group that is `maxDepth` deep holds nothing. -/
def skipGroups? (opened : List Nat) (bytes : List UInt8) : Option (List UInt8) :=
  match opened with
  | [] => some bytes
  | innermost :: outer =>
    match _read : Key.decode? bytes with
    | none => none
    | some (⟨number, .groupEnd⟩, rest) =>
      if number = innermost then skipGroups? outer rest else none
    | some (⟨number, .groupStart⟩, rest) =>
      if outer.length + 1 < maxDepth then skipGroups? (number :: innermost :: outer) rest else none
    | some (⟨_, kind⟩, rest) =>
      if outer.length + 1 < maxDepth then
        match _skipped : skipValue? kind rest with
        | none => none
        | some rest => skipGroups? (innermost :: outer) rest
      else none
termination_by bytes.length
decreasing_by
  all_goals have := Key.length_of_decode? _read
  · exact this
  · exact this
  · have := length_of_skipValue? _skipped
    omega

theorem length_of_skipGroups? {opened : List Nat} {bytes rest : List UInt8}
    (h : skipGroups? opened bytes = some rest) : rest.length ≤ bytes.length := by
  fun_induction skipGroups? opened bytes with
  | case1 => simp_all
  | case2 => simp at h
  | case3 _ _ _ _ read ih => have := ih h; have := Key.length_of_decode? read; omega
  | case4 => simp at h
  | case5 _ _ _ _ _ read _ ih => have := ih h; have := Key.length_of_decode? read; omega
  | case6 => simp at h
  | case7 => simp at h
  | case8 _ _ _ _ _ _ _ _ read _ _ skipped ih =>
    have := ih h
    have := Key.length_of_decode? read
    have := length_of_skipValue? skipped
    omega
  | case9 => simp at h

/-! ## Records -/

/-- The value of a record. Fixed-width numbers and groups are read past, since no message of this
service has a field of such a kind. -/
inductive Payload
  | varint (value : Nat)
  | bytes (value : List UInt8)
  | skipped
deriving DecidableEq

/-- One record of a message. -/
structure Record where
  number : Nat
  payload : Payload
deriving DecidableEq

namespace Record

def decode? (bytes : List UInt8) : Option (Record × List UInt8) :=
  match Key.decode? bytes with
  | none => none
  | some (⟨number, .varint⟩, rest) =>
    (Varint.decode? rest).map fun (n, rest) => (⟨number, .varint n⟩, rest)
  | some (⟨number, .bytes⟩, rest) =>
    (takeCounted? rest).map fun (part, rest) => (⟨number, .bytes part⟩, rest)
  | some (⟨number, .groupStart⟩, rest) =>
    (skipGroups? [number] rest).map fun rest => (⟨number, .skipped⟩, rest)
  | some (⟨number, kind⟩, rest) =>
    (skipValue? kind rest).map fun rest => (⟨number, .skipped⟩, rest)

theorem length_of_decode? {bytes rest : List UInt8} {record : Record}
    (h : decode? bytes = some (record, rest)) : rest.length < bytes.length := by
  unfold decode? at h
  split at h
  · simp at h
  · next heq =>
    obtain ⟨⟨n, r⟩, hr, hp⟩ := Option.map_eq_some_iff.1 h
    simp only [Prod.mk.injEq] at hp
    have := Key.length_of_decode? heq
    have := Varint.length_of_decode? hr
    rw [← hp.2]; omega
  · next heq =>
    obtain ⟨⟨n, r⟩, hr, hp⟩ := Option.map_eq_some_iff.1 h
    simp only [Prod.mk.injEq] at hp
    have := Key.length_of_decode? heq
    have := length_of_takeCounted? hr
    rw [← hp.2]; omega
  · next heq =>
    obtain ⟨r, hr, hp⟩ := Option.map_eq_some_iff.1 h
    simp only [Prod.mk.injEq] at hp
    have := Key.length_of_decode? heq
    have := length_of_skipGroups? hr
    rw [← hp.2]; omega
  · next heq =>
    obtain ⟨r, hr, hp⟩ := Option.map_eq_some_iff.1 h
    simp only [Prod.mk.injEq] at hp
    have := Key.length_of_decode? heq
    have := length_of_skipValue? hr
    rw [← hp.2]; omega

end Record

/-- The records of a message, in the order in which they are written. -/
def records? (bytes : List UInt8) : Option (List Record) :=
  if bytes.isEmpty then some []
  else
    match _read : Record.decode? bytes with
    | none => none
    | some (record, rest) => (records? rest).map (record :: ·)
termination_by bytes.length
decreasing_by exact Record.length_of_decode? _read

end ClusterMember.Wire
