import ClusterMember.Proofs.Lists
import ClusterMember.Proofs.Wire.Grammar
import ClusterMember.Proofs.Wire.RoundTrip

/-! # Newer and repeated fields

What a message is read as depends, for each of its fields, on the last record with the number of the
field, and on nothing else. So records of fields that are not known may stand anywhere, and records
of different fields in any order.

* `Schema`, `Schema.last?`: the fields of a message, and what some records say of one of them.
* `Follows`, `Follows.decode?_joined_eq_some_iff`: a message holds what the last records say.
* `Compatible`, `newer_and_repeated_fields`: the four messages of the service.
-/

namespace ClusterMember.Wire
set_option autoImplicit false

/-! ## What records say -/

/-- What a field can hold. -/
inductive ValueType
  | text
  | flag

/-- The value in a record, if it is of the type. -/
def ValueType.read? : ValueType → Record → Option Value
  | text, record => record.text?.map .text
  | flag, record => record.flag?.map .flag

/-- The types of the fields of a message, by their numbers. -/
abbrev Schema := List (Nat × ValueType)

namespace Schema

/-- Whether a record is of a known field, but not of its type. -/
def Refuses (schema : Schema) (record : Record) : Prop :=
  ∃ type, schema.lookup record.number = some type ∧ type.read? record = none

/-- What a record says of the field with its number. -/
def said? (schema : Schema) (record : Record) : Option Value :=
  (schema.lookup record.number).bind (·.read? record)

/-- What the last of some records with a number says of the field. -/
def last? (schema : Schema) (number : Nat) (records : List Record) : Option Value :=
  ((records.filter (·.number = number)).filterMap schema.said?).getLast?

theorem last?_append (schema : Schema) (number : Nat) (front back : List Record) :
    schema.last? number (front ++ back) =
      (schema.last? number back).or (schema.last? number front) := by
  rw [last?, List.filter_append, List.filterMap_append, List.getLast?_append]
  rfl

theorem last?_eq_none {schema : Schema} {number : Nat} {records : List Record}
    (silent : ∀ record ∈ records, record.number = number → schema.said? record = none) :
    schema.last? number records = none := by
  rw [last?, List.getLast?_eq_none_iff, List.filterMap_eq_nil_iff]
  intro record hrecord
  obtain ⟨mem, same⟩ := List.mem_filter.1 hrecord
  exact silent record mem (of_decide_eq_true same)

theorem said?_of_unknown {schema : Schema} {record : Record}
    (unknown : schema.lookup record.number = none) : schema.said? record = none := by
  rw [said?, unknown, Option.bind_none]

/-- A record that was not refused decides over the field with its number, if there is one. -/
theorem isSome_last? {schema : Schema} {records : List Record} {record : Record} {type : ValueType}
    (mem : record ∈ records) (known : schema.lookup record.number = some type)
    (accepted : ¬ schema.Refuses record) : (schema.last? record.number records).isSome = true := by
  obtain ⟨value, said⟩ : ∃ value, schema.said? record = some value := by
    rw [said?, known]
    exact Option.ne_none_iff_exists'.1 fun none => accepted ⟨type, known, none⟩
  rw [last?, List.getLast?_isSome]
  refine List.ne_nil_of_mem (List.mem_filterMap.2 ⟨record, ?_, said⟩)
  exact List.mem_filter.2 ⟨mem, by simp⟩

/-- Fields after one more record; `none` if it is refused. -/
def takeUp? (schema : Schema) (record : Record) (fields : List (Nat × Value)) :
    Option (List (Nat × Value)) :=
  match schema.lookup record.number with
  | none => some fields
  | some type => (type.read? record).map fun value =>
    fields.map fun field => (field.1, if field.1 = record.number then value else field.2)

theorem takeUp?_known {schema : Schema} {record : Record} {type : ValueType}
    (known : schema.lookup record.number = some type) (fields : List (Nat × Value)) :
    schema.takeUp? record fields = (type.read? record).map fun value =>
      fields.map fun field => (field.1, if field.1 = record.number then value else field.2) := by
  rw [takeUp?, known]

theorem takeUp?_unknown {schema : Schema} {record : Record}
    (unknown : record.number ∉ schema.map Prod.fst) (fields : List (Nat × Value)) :
    schema.takeUp? record fields = some fields := by
  rw [takeUp?, lookup_eq_none_iff_notMem.2 unknown]

end Schema

theorem lookup_replaced (fields : List (Nat × Value)) (place number : Nat) (value : Value) :
    (fields.map fun field => (field.1, if field.1 = place then value else field.2)).lookup number =
      if number = place then (fields.lookup number).map fun _ => value
      else fields.lookup number := by
  induction fields with
  | nil => simp
  | cons field rest ih =>
    rw [List.map_cons, List.lookup_cons, List.lookup_cons, ih]
    by_cases hnumber : number = field.1
    · by_cases hplace : field.1 = place <;> simp [hnumber, hplace]
    · simp [beq_false_of_ne hnumber]

/-! ## Messages that hold what was said last -/

/-- A message with some fields whose types a schema tells: the fields make up the message, and
records are taken up as the schema says. -/
structure Follows {α : Type} [Message α] (fields : α → List (Nat × Value)) (schema : Schema) :
    Prop where
  numbers : ∀ m, (fields m).map Prod.fst = schema.map Prod.fst
  ext : ∀ {m m' : α}, (∀ number, (fields m).lookup number = (fields m').lookup number) → m = m'
  merged : ∀ m record, (Message.merge m record).map fields = schema.takeUp? record (fields m)

namespace Follows
variable {α : Type} [Message α] {fields : α → List (Nat × Value)} {schema : Schema}

theorem lookup_eq_none_iff (h : Follows fields schema) (m : α) {number : Nat} :
    schema.lookup number = none ↔ (fields m).lookup number = none := by
  rw [lookup_eq_none_iff_notMem, lookup_eq_none_iff_notMem, h.numbers m]

theorem merge_eq_none_iff (h : Follows fields schema) (m : α) (record : Record) :
    Message.merge m record = none ↔ schema.Refuses record := by
  rw [← Option.map_eq_none_iff (f := fields), h.merged, Schema.takeUp?, Schema.Refuses]
  cases schema.lookup record.number <;> simp

theorem lookup_of_merge (h : Follows fields schema) {m m' : α} {record : Record}
    (read : Message.merge m record = some m') (number : Nat) :
    (fields m').lookup number = (schema.last? number [record]).or ((fields m).lookup number) := by
  have taken : schema.takeUp? record (fields m) = some (fields m') := by
    rw [← h.merged, read, Option.map_some]
  unfold Schema.takeUp? at taken
  split at taken
  · next unknown =>
    have silent : schema.last? number [record] = none :=
      Schema.last?_eq_none fun r mem _ => by
        rw [List.mem_singleton.1 mem, Schema.said?_of_unknown unknown]
    rw [silent, Option.none_or, Option.some.inj taken]
  · next type known =>
    obtain ⟨value, hvalue, hfields⟩ := Option.map_eq_some_iff.1 taken
    have hsaid : schema.said? record = some value := by
      rw [Schema.said?, known, Option.bind_some, hvalue]
    rw [← hfields, lookup_replaced]
    by_cases same : number = record.number
    · subst same
      have hlast : schema.last? record.number [record] = some value := by
        simp [Schema.last?, hsaid]
      obtain ⟨old, hold⟩ : ∃ old, (fields m).lookup record.number = some old := by
        refine Option.ne_none_iff_exists'.1 fun none => ?_
        cases known.symm.trans ((h.lookup_eq_none_iff m).2 none)
      rw [if_pos rfl, hold, hlast]
      rfl
    · have silent : schema.last? number [record] = none :=
        Schema.last?_eq_none fun r mem hr => absurd (List.mem_singleton.1 mem ▸ hr.symm) same
      rw [if_neg same, silent, Option.none_or]

theorem lookup_of_foldlM (h : Follows fields schema) {records : List Record} {m m' : α}
    (read : records.foldlM Message.merge m = some m') (number : Nat) :
    (fields m').lookup number = (schema.last? number records).or ((fields m).lookup number) := by
  induction records generalizing m with
  | nil =>
    cases read
    rfl
  | cons record records ih =>
    rw [List.foldlM_cons] at read
    obtain ⟨next, hnext, hrest⟩ := Option.bind_eq_some_iff.1 read
    rw [ih hrest, h.lookup_of_merge hnext, ← Option.or_assoc, ← Schema.last?_append,
      List.singleton_append]

theorem exists_foldlM_iff (h : Follows fields schema) {records : List Record} {m : α} :
    (∃ m', records.foldlM Message.merge m = some m') ↔
      ∀ record ∈ records, ¬ schema.Refuses record := by
  induction records generalizing m with
  | nil => exact iff_of_true ⟨m, rfl⟩ (by simp)
  | cons record records ih =>
    rw [List.forall_mem_cons, ← h.merge_eq_none_iff m, List.foldlM_cons]
    cases Message.merge m record with
    | none => simp
    | some next => simpa using ih

/-- A message that consists of records is read, unless one of them is refused, and holds in each
field what the last record with its number says, or the default. -/
theorem decode?_joined_eq_some_iff (h : Follows fields schema) {pieces : List Piece} {m : α} :
    decode? α (joined pieces) = some m ↔
      (∀ piece ∈ pieces, ¬ schema.Refuses piece.record) ∧
      ∀ number, (fields m).lookup number =
        (schema.last? number (pieces.map Piece.record)).or
          ((fields Message.blank).lookup number) := by
  have accepted :
      (∃ m' : α, (pieces.map Piece.record).foldlM Message.merge Message.blank = some m') ↔
        ∀ piece ∈ pieces, ¬ schema.Refuses piece.record := by
    rw [h.exists_foldlM_iff, List.forall_mem_map]
  rw [decode?, records?_joined]
  constructor
  · intro read
    exact ⟨accepted.1 ⟨m, read⟩, h.lookup_of_foldlM read⟩
  · rintro ⟨all, said⟩
    obtain ⟨m', read⟩ := accepted.2 all
    have same : m = m' :=
      h.ext fun number => (said number).trans (h.lookup_of_foldlM read number).symm
    rw [same]
    exact read

theorem decode?_joined_congr (h : Follows fields schema) {pieces pieces' : List Piece}
    (accepted : (∀ piece ∈ pieces, ¬ schema.Refuses piece.record) ↔
      ∀ piece ∈ pieces', ¬ schema.Refuses piece.record)
    (last : ∀ number, schema.last? number (pieces.map Piece.record) =
      schema.last? number (pieces'.map Piece.record)) :
    decode? α (joined pieces) = decode? α (joined pieces') := by
  refine Option.ext fun m => ?_
  rw [h.decode?_joined_eq_some_iff, h.decode?_joined_eq_some_iff, accepted]
  simp only [last]

end Follows

/-! ## Newer and repeated fields -/

/-- Whether a message holds a record with a number. -/
def Occurs (number : Nat) (bytes : List UInt8) : Prop :=
  ∃ pieces, bytes = joined pieces ∧ ∃ piece ∈ pieces, piece.record.number = number

/-- What is read at all consists of records. Two messages that are read can be put one behind the
other: a field holds what it holds in the second if a record of it occurs there, also one that says
the default, and else what it holds in the first. A record of no known field changes nothing
wherever it is put in. And records may be put in another order, if those with the same number keep
theirs. -/
structure Compatible {α : Type} [Message α] (fields : α → List (Nat × Value)) : Prop where
  divided : ∀ bytes (m : α), decode? α bytes = some m → ∃ pieces, bytes = joined pieces
  concatenated : ∀ front back (m m' : α), decode? α front = some m → decode? α back = some m' →
    ∃ both, decode? α (front ++ back) = some both ∧ ∀ number,
      (Occurs number back → (fields both).lookup number = (fields m').lookup number) ∧
      (¬ Occurs number back → (fields both).lookup number = (fields m).lookup number)
  inserted : ∀ (front back : List Piece) (unknown : Piece),
    unknown.record.number ∉ (fields Message.blank).map Prod.fst →
    decode? α (joined (front ++ unknown :: back)) = decode? α (joined (front ++ back))
  permuted : ∀ pieces pieces' : List Piece,
    (∀ number,
      pieces.filter (·.record.number = number) = pieces'.filter (·.record.number = number)) →
    decode? α (joined pieces) = decode? α (joined pieces')

section
variable {α : Type} [Message α] {fields : α → List (Nat × Value)} {schema : Schema}

theorem exists_joined_of_decode? {bytes : List UInt8} {m : α} (h : decode? α bytes = some m) :
    ∃ pieces, bytes = joined pieces := by
  unfold decode? at h
  split at h
  · cases h
  · next records hrecords =>
    obtain ⟨pieces, split, _⟩ := records?_eq_some_iff.1 hrecords
    exact ⟨pieces, split⟩

theorem occurs_joined_iff {number : Nat} {pieces : List Piece} :
    Occurs number (joined pieces) ↔ ∃ piece ∈ pieces, piece.record.number = number := by
  constructor
  · rintro ⟨others, same, piece, hpiece, rfl⟩
    -- The bytes are read as one list of records only.
    have hrecords : pieces.map Piece.record = others.map Piece.record := by
      have hread := records?_joined pieces
      rw [same, records?_joined] at hread
      exact (Option.some.inj hread).symm
    have hmem : piece.record ∈ pieces.map Piece.record := hrecords ▸ List.mem_map_of_mem hpiece
    obtain ⟨other, hother, heq⟩ := List.mem_map.1 hmem
    exact ⟨other, hother, congrArg Record.number heq⟩
  · exact fun occurs => ⟨pieces, rfl, occurs⟩

namespace Follows

theorem concatenated (h : Follows fields schema) {front back : List Piece} {m m' : α}
    (hm : decode? α (joined front) = some m) (hm' : decode? α (joined back) = some m') :
    ∃ both, decode? α (joined (front ++ back)) = some both ∧ ∀ number,
      (Occurs number (joined back) → (fields both).lookup number = (fields m').lookup number) ∧
      (¬ Occurs number (joined back) → (fields both).lookup number = (fields m).lookup number) := by
  obtain ⟨accepted, said⟩ := h.decode?_joined_eq_some_iff.1 hm
  obtain ⟨accepted', said'⟩ := h.decode?_joined_eq_some_iff.1 hm'
  have all : ∀ record ∈ (front ++ back).map Piece.record, ¬ schema.Refuses record := by
    rw [List.forall_mem_map]
    exact fun piece hp => (List.mem_append.1 hp).elim (accepted piece) (accepted' piece)
  obtain ⟨both, read⟩ := (h.exists_foldlM_iff (m := Message.blank)).2 all
  have hboth : decode? α (joined (front ++ back)) = some both := by
    rw [decode?, records?_joined]
    exact read
  have saidBoth (number : Nat) : (fields both).lookup number =
      (schema.last? number (back.map Piece.record)).or ((fields m).lookup number) := by
    rw [h.lookup_of_foldlM read, List.map_append, Schema.last?_append, Option.or_assoc, said]
  refine ⟨both, hboth, fun number => ⟨fun occurs => ?_, fun absent => ?_⟩⟩
  · obtain ⟨piece, hpiece, rfl⟩ := occurs_joined_iff.1 occurs
    rw [saidBoth, said', said]
    cases known : schema.lookup piece.record.number with
    | some type =>
      have decides :=
        Schema.isSome_last? (List.mem_map_of_mem hpiece) known (accepted' piece hpiece)
      obtain ⟨value, hvalue⟩ := Option.isSome_iff_exists.1 decides
      rw [hvalue, Option.some_or, Option.some_or]
    | none =>
      have silent (records : List Record) :
          schema.last? piece.record.number records = Option.none :=
        Schema.last?_eq_none fun record _ same => Schema.said?_of_unknown (same ▸ known)
      rw [silent, silent, Option.none_or]
  · have silent : schema.last? number (back.map Piece.record) = none := by
      refine Schema.last?_eq_none fun record hrecord same => ?_
      obtain ⟨piece, hpiece, rfl⟩ := List.mem_map.1 hrecord
      exact absurd (occurs_joined_iff.2 ⟨piece, hpiece, same⟩) absent
    rw [saidBoth, silent, Option.none_or]

theorem inserted (h : Follows fields schema) (front back : List Piece) {unknown : Piece}
    (new : unknown.record.number ∉ (fields Message.blank).map Prod.fst) :
    decode? α (joined (front ++ unknown :: back)) = decode? α (joined (front ++ back)) := by
  have none := (h.lookup_eq_none_iff Message.blank).2 (lookup_eq_none_iff_notMem.2 new)
  have silent : ¬ schema.Refuses unknown.record := by
    rintro ⟨type, known, _⟩
    cases none.symm.trans known
  have mute (number : Nat) : schema.last? number [unknown.record] = Option.none :=
    Schema.last?_eq_none fun record mem _ => by
      rw [List.mem_singleton.1 mem, Schema.said?_of_unknown none]
  refine h.decode?_joined_congr ?_ fun number => ?_
  · simp only [List.forall_mem_append, List.forall_mem_cons, silent, not_false_eq_true, true_and]
  · rw [List.map_append, List.map_append, List.map_cons, ← List.singleton_append,
      Schema.last?_append, Schema.last?_append, Schema.last?_append, mute, Option.or_none]

theorem permuted (h : Follows fields schema) {pieces pieces' : List Piece}
    (same : ∀ number,
      pieces.filter (·.record.number = number) = pieces'.filter (·.record.number = number)) :
    decode? α (joined pieces) = decode? α (joined pieces') := by
  have mem (piece : Piece) : piece ∈ pieces ↔ piece ∈ pieces' := by
    have hfilter : piece ∈ pieces.filter (·.record.number = piece.record.number) ↔
        piece ∈ pieces'.filter (·.record.number = piece.record.number) := by
      rw [same]
    simpa using hfilter
  have records (number : Nat) : (pieces.map Piece.record).filter (·.number = number) =
      (pieces'.map Piece.record).filter (·.number = number) := by
    rw [List.filter_map, List.filter_map]
    exact congrArg _ (same number)
  refine h.decode?_joined_congr (by simp only [mem]) fun number => ?_
  rw [Schema.last?, Schema.last?, records]

theorem compatible (h : Follows fields schema) : Compatible fields where
  divided _ _ := exists_joined_of_decode?
  concatenated front back m m' hm hm' := by
    obtain ⟨pieces, rfl⟩ := exists_joined_of_decode? hm
    obtain ⟨pieces', rfl⟩ := exists_joined_of_decode? hm'
    rw [← joined_append]
    exact h.concatenated hm hm'
  inserted front back _ new := h.inserted front back new
  permuted _ _ same := h.permuted same

end Follows
end

/-! ## The four messages -/

def RegisterRequest.schema : Schema := [(1, .text), (2, .text), (3, .text)]

def HeartbeatRequest.schema : Schema := [(1, .text)]

def RegisterResponse.schema : Schema := [(1, .flag), (2, .text), (3, .text)]

theorem RegisterRequest.follows : Follows RegisterRequest.fields RegisterRequest.schema where
  numbers _ := rfl
  ext {m m'} same := by
    have hid : some (Value.text m.workerId) = some (.text m'.workerId) := same 1
    have haddress : some (Value.text m.address) = some (.text m'.address) := same 2
    have htag : some (Value.text m.cloudTag) = some (.text m'.cloudTag) := same 3
    obtain ⟨workerId, address, cloudTag⟩ := m
    cases hid
    cases haddress
    cases htag
    rfl
  merged m record := by
    obtain ⟨number, payload⟩ := record
    simp only [Message.merge]
    split
    · rw [Schema.takeUp?_known rfl, ValueType.read?, Option.map_map, Option.map_map]
      rfl
    · rw [Schema.takeUp?_known rfl, ValueType.read?, Option.map_map, Option.map_map]
      rfl
    · rw [Schema.takeUp?_known rfl, ValueType.read?, Option.map_map, Option.map_map]
      rfl
    · next h1 h2 h3 =>
      have unknown : number ∉ RegisterRequest.schema.map Prod.fst := by
        simpa [RegisterRequest.schema] using And.intro h1 (And.intro h2 h3)
      rw [Schema.takeUp?_unknown unknown]
      rfl

theorem HeartbeatRequest.follows : Follows HeartbeatRequest.fields HeartbeatRequest.schema where
  numbers _ := rfl
  ext {m m'} same := by
    have hid : some (Value.text m.workerId) = some (.text m'.workerId) := same 1
    obtain ⟨workerId⟩ := m
    cases hid
    rfl
  merged m record := by
    obtain ⟨number, payload⟩ := record
    simp only [Message.merge]
    split
    · rw [Schema.takeUp?_known rfl, ValueType.read?, Option.map_map, Option.map_map]
      rfl
    · next h1 =>
      have unknown : number ∉ HeartbeatRequest.schema.map Prod.fst := by
        simpa [HeartbeatRequest.schema] using h1
      rw [Schema.takeUp?_unknown unknown]
      rfl

theorem RegisterResponse.follows : Follows RegisterResponse.fields RegisterResponse.schema where
  numbers _ := rfl
  ext {m m'} same := by
    have hok : some (Value.flag m.ok) = some (.flag m'.ok) := same 1
    have hleader : some (Value.text m.leaderAddr) = some (.text m'.leaderAddr) := same 2
    have herror : some (Value.text m.error) = some (.text m'.error) := same 3
    obtain ⟨ok, leaderAddr, error⟩ := m
    cases hok
    cases hleader
    cases herror
    rfl
  merged m record := by
    obtain ⟨number, payload⟩ := record
    simp only [Message.merge]
    split
    · rw [Schema.takeUp?_known rfl, ValueType.read?, Option.map_map, Option.map_map]
      rfl
    · rw [Schema.takeUp?_known rfl, ValueType.read?, Option.map_map, Option.map_map]
      rfl
    · rw [Schema.takeUp?_known rfl, ValueType.read?, Option.map_map, Option.map_map]
      rfl
    · next h1 h2 h3 =>
      have unknown : number ∉ RegisterResponse.schema.map Prod.fst := by
        simpa [RegisterResponse.schema] using And.intro h1 (And.intro h2 h3)
      rw [Schema.takeUp?_unknown unknown]
      rfl

/-- The answer to a heartbeat has the fields of the answer to a registration. -/
theorem HeartbeatResponse.follows : Follows HeartbeatResponse.fields RegisterResponse.schema where
  numbers _ := rfl
  ext {m m'} same := by
    have registration : (⟨m.ok, m.leaderAddr, m.error⟩ : RegisterResponse) =
        ⟨m'.ok, m'.leaderAddr, m'.error⟩ := RegisterResponse.follows.ext same
    exact congrArg RegisterResponse.beat registration
  merged m record := by
    have hbeat := merge_beat ⟨m.ok, m.leaderAddr, m.error⟩ record
    have hmerged := RegisterResponse.follows.merged ⟨m.ok, m.leaderAddr, m.error⟩ record
    rw [show Message.merge m record = _ from hbeat, Option.map_map]
    exact hmerged

/-- All four messages of the service can be read by who does not know all of their fields, and hold
what was written last. -/
theorem newer_and_repeated_fields :
    Compatible RegisterRequest.fields ∧ Compatible HeartbeatRequest.fields ∧
      Compatible RegisterResponse.fields ∧ Compatible HeartbeatResponse.fields :=
  ⟨RegisterRequest.follows.compatible, HeartbeatRequest.follows.compatible,
    RegisterResponse.follows.compatible, HeartbeatResponse.follows.compatible⟩

/-- A name that is given twice, with a number of 32 bits between that no one asked for. The length
of the second is written with a byte more than it needs. -/
example :
    decode? HeartbeatRequest ([10, 1, 97] ++ [21, 1, 2, 3, 4] ++ [10, 0x81, 0, 98]) =
      some ⟨"b"⟩ := by
  decide +kernel

end ClusterMember.Wire
