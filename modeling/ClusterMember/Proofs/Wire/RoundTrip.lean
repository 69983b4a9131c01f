import ClusterMember.Proofs.Wire.Record
import ClusterMember.Wire.Message

/-! # Messages are read back

Reading undoes writing for every message, and what was read once is read alike when it is written
again.

* `Value`, `written`, `layout`: what a field holds, and the records that are written of fields.
* `Layout`: what is to be known of a message, `Layout.decode?_encode_iff`: that it is read back.
* `RegisterResponse.beat`, `decode?_beat`: the two responses share their layout.
* `RoundTrips`, `messages_round_trip`: the four messages of the service.
-/

namespace ClusterMember.Wire
set_option autoImplicit false

/-! ## Fields -/

/-- What a field holds. -/
inductive Value
  | text (text : String)
  | flag (flag : Bool)

namespace Value

def isDefault : Value → Bool
  | text t => t == ""
  | flag b => !b

def payload : Value → Payload
  | text t => .bytes t.toByteArray.data.toList
  | flag b => .varint b.toNat

/-- Whether 64 bits can count the bytes of a value, as they can for any text that a memory holds. -/
def Sized : Value → Prop
  | text t => t.utf8ByteSize < 2 ^ 64
  | flag _ => True

theorem sized_payload_iff (value : Value) : value.payload.Sized ↔ value.Sized := by
  cases value with
  | text t =>
    show t.toByteArray.data.toList.length < 2 ^ 64 ↔ t.toByteArray.size < 2 ^ 64
    rw [Array.length_toList]
    rfl
  | flag b =>
    have hone : b.toNat < 2 ^ 64 := by
      cases b <;> decide
    exact iff_of_true hone trivial

end Value

/-- The records that are written of a field. -/
def written (field : Nat × Value) : List Record :=
  if field.2.isDefault then [] else [⟨field.1, field.2.payload⟩]

/-- The records that are written of some fields, in their order. -/
def layout (fields : List (Nat × Value)) : List Record := fields.flatMap written

theorem layout_eq (fields : List (Nat × Value)) :
    layout fields = (fields.filter fun field => !field.2.isDefault).map fun field =>
      ⟨field.1, field.2.payload⟩ := by
  induction fields with
  | nil => rfl
  | cons field fields ih =>
    rw [layout, List.flatMap_cons, ← layout, ih, written, List.filter_cons]
    cases field.2.isDefault <;> rfl

theorem exists_of_mem_layout {fields : List (Nat × Value)} {record : Record}
    (h : record ∈ layout fields) : ∃ field ∈ fields, record = ⟨field.1, field.2.payload⟩ := by
  rw [layout_eq] at h
  obtain ⟨field, hf, rfl⟩ := List.mem_map.1 h
  exact ⟨field, (List.mem_filter.1 hf).1, rfl⟩

theorem Value.payload_ne_skipped (value : Value) : value.payload ≠ .skipped := by
  cases value <;> exact Payload.noConfusion

theorem textField_eq (number : Nat) (t : String) :
    textField number t = (written (number, .text t)).flatMap Record.write := by
  unfold textField written
  by_cases h : t = ""
  · simp [h, Value.isDefault]
  · simp [h, Value.isDefault, Value.payload, Record.write]

theorem flagField_eq (number : Nat) (b : Bool) :
    flagField number b = (written (number, .flag b)).flatMap Record.write := by
  have hone : Varint.encode 1 = [1] := by
    rw [Varint.encode]
    rfl
  cases b with
  | false => rfl
  | true => simp [flagField, written, Value.isDefault, Value.payload, Record.write, hone]

@[simp] theorem text?_payload (number : Nat) (t : String) :
    (⟨number, (Value.text t).payload⟩ : Record).text? = some t := by
  have hvalid : (⟨t.toByteArray.data.toList.toArray⟩ : ByteArray) = t.toByteArray := by
    rw [Array.toArray_toList]
  show String.fromUTF8? ⟨t.toByteArray.data.toList.toArray⟩ = some t
  rw [hvalid, String.fromUTF8?, dif_pos t.isValidUTF8]
  rfl

@[simp] theorem flag?_payload (number : Nat) (b : Bool) :
    (⟨number, (Value.flag b).payload⟩ : Record).flag? = some b := by
  cases b <;> rfl

theorem sized_of_text? {record : Record} {t : String} (h : record.text? = some t)
    (sized : record.payload.Sized) : (Value.text t).Sized := by
  unfold Record.text? at h
  split at h
  · next bytes hp =>
    rw [hp] at sized
    unfold String.fromUTF8? at h
    split at h
    · cases h
      exact sized
    · cases h
  · cases h
  · cases h

/-! ## Messages by their fields -/

/-- What is to be known of a message: its fields, in the order of their numbers, are what is written of
it, and taking up their records one by one makes it; no record makes a field larger than it is
itself. -/
structure Layout {α : Type} [Message α] (fields : α → List (Nat × Value)) : Prop where
  ascending : ∀ m, ((fields m).map Prod.fst).Pairwise (· < ·)
  numbered : ∀ m, ∀ field ∈ fields m, 1 ≤ field.1 ∧ field.1 < 2 ^ 29
  encoded : ∀ m, encode m = (layout (fields m)).flatMap Record.write
  merged : ∀ m, (layout (fields m)).foldlM Message.merge Message.blank = some m
  blank : ∀ field ∈ fields Message.blank, field.2.Sized
  kept : ∀ {m m' record}, Message.merge m record = some m' → record.payload.Sized →
    (∀ field ∈ fields m, field.2.Sized) → ∀ field ∈ fields m', field.2.Sized

section
variable {α : Type} [Message α]

/-- A field is taken up from what is written of it, also where that is nothing. -/
theorem foldlM_written {m : α} (m' : α) {field : Nat × Value}
    (taken : Message.merge m ⟨field.1, field.2.payload⟩ = some m')
    (same : field.2.isDefault = true → m' = m) (rest : List Record) :
    (written field ++ rest).foldlM Message.merge m = rest.foldlM Message.merge m' := by
  unfold written
  by_cases h : field.2.isDefault = true
  · rw [if_pos h, same h, List.nil_append]
  · rw [if_neg h, List.singleton_append, List.foldlM_cons, taken]
    rfl

namespace Layout
variable {fields : α → List (Nat × Value)}

theorem writable (h : Layout fields) {m : α} (sized : ∀ field ∈ fields m, field.2.Sized) :
    ∀ record ∈ layout (fields m), record.Writable := by
  intro record hr
  obtain ⟨field, hf, rfl⟩ := exists_of_mem_layout hr
  obtain ⟨first, last⟩ := h.numbered m field hf
  exact ⟨first, last, field.2.payload_ne_skipped, field.2.sized_payload_iff.2 (sized field hf)⟩

theorem encode_injective (h : Layout fields) {m m' : α} (same : encode m = encode m') : m = m' := by
  have kept (m : α) : ∀ record ∈ layout (fields m), record.payload ≠ .skipped := by
    intro record hr
    obtain ⟨field, _, rfl⟩ := exists_of_mem_layout hr
    exact field.2.payload_ne_skipped
  rw [h.encoded, h.encoded] at same
  have hm := h.merged m
  rw [flatMap_write_inj (kept m) (kept m') same, h.merged m'] at hm
  exact (Option.some.inj hm).symm

theorem records?_encode (h : Layout fields) {m : α} (sized : ∀ field ∈ fields m, field.2.Sized) :
    records? (encode m) = some (layout (fields m)) := by
  rw [h.encoded]
  exact records?_flatMap_write (h.writable sized)

theorem decode?_encode (h : Layout fields) {m : α} (sized : ∀ field ∈ fields m, field.2.Sized) :
    decode? α (encode m) = some m := by
  rw [decode?, h.records?_encode sized]
  exact h.merged m

theorem sized_of_foldlM (h : Layout fields) {records : List Record} {m m' : α}
    (taken : records.foldlM Message.merge m = some m')
    (small : ∀ record ∈ records, record.payload.Sized)
    (sized : ∀ field ∈ fields m, field.2.Sized) : ∀ field ∈ fields m', field.2.Sized := by
  induction records generalizing m with
  | nil =>
    cases taken
    exact sized
  | cons record records ih =>
    rw [List.foldlM_cons] at taken
    obtain ⟨next, hnext, hrest⟩ := Option.bind_eq_some_iff.1 taken
    obtain ⟨hfirst, hsmall⟩ := List.forall_mem_cons.1 small
    exact ih hrest hsmall (h.kept hnext hfirst sized)

theorem sized_of_decode? (h : Layout fields) {bytes : List UInt8} {m : α}
    (hm : decode? α bytes = some m) : ∀ field ∈ fields m, field.2.Sized := by
  unfold decode? at hm
  split at hm
  · cases hm
  · next records hrecords =>
    exact h.sized_of_foldlM hm (sized_of_records? hrecords) h.blank

/-- A message is read back unless it holds a text whose length takes more than 64 bits. -/
theorem decode?_encode_iff (h : Layout fields) (m : α) :
    decode? α (encode m) = some m ↔ ∀ field ∈ fields m, field.2.Sized :=
  ⟨h.sized_of_decode?, h.decode?_encode⟩

end Layout
end

/-! ## The four messages -/

def RegisterRequest.fields (m : RegisterRequest) : List (Nat × Value) :=
  [(1, .text m.workerId), (2, .text m.address), (3, .text m.cloudTag)]

def HeartbeatRequest.fields (m : HeartbeatRequest) : List (Nat × Value) := [(1, .text m.workerId)]

def RegisterResponse.fields (m : RegisterResponse) : List (Nat × Value) :=
  [(1, .flag m.ok), (2, .text m.leaderAddr), (3, .text m.error)]

def HeartbeatResponse.fields (m : HeartbeatResponse) : List (Nat × Value) :=
  [(1, .flag m.ok), (2, .text m.leaderAddr), (3, .text m.error)]

theorem layout_registerRequest : Layout RegisterRequest.fields where
  ascending _ := by simp [RegisterRequest.fields]
  numbered _ := by simp [RegisterRequest.fields]
  encoded m := by simp [RegisterRequest.fields, layout, encode, textField_eq]
  merged m := by
    obtain ⟨workerId, address, cloudTag⟩ := m
    show (written _ ++ (written _ ++ (written _ ++ []))).foldlM Message.merge Message.blank = _
    rw [foldlM_written { workerId }, foldlM_written { workerId, address },
      foldlM_written { workerId, address, cloudTag }]
    · rfl
    all_goals simp +contextual [Message.merge, Message.blank, Value.isDefault]
  blank := by simp [RegisterRequest.fields, Message.blank, Value.Sized]
  kept := by
    intro m m' record taken small sized
    simp only [RegisterRequest.fields, List.forall_mem_cons] at sized ⊢
    obtain ⟨hid, haddress, htag, hnil⟩ := sized
    simp only [Message.merge] at taken
    split at taken
    · obtain ⟨t, ht, rfl⟩ := Option.map_eq_some_iff.1 taken
      exact ⟨sized_of_text? ht small, haddress, htag, hnil⟩
    · obtain ⟨t, ht, rfl⟩ := Option.map_eq_some_iff.1 taken
      exact ⟨hid, sized_of_text? ht small, htag, hnil⟩
    · obtain ⟨t, ht, rfl⟩ := Option.map_eq_some_iff.1 taken
      exact ⟨hid, haddress, sized_of_text? ht small, hnil⟩
    · cases taken
      exact ⟨hid, haddress, htag, hnil⟩

theorem layout_heartbeatRequest : Layout HeartbeatRequest.fields where
  ascending _ := by simp [HeartbeatRequest.fields]
  numbered _ := by simp [HeartbeatRequest.fields]
  encoded m := by simp [HeartbeatRequest.fields, layout, encode, textField_eq]
  merged m := by
    show (written _ ++ []).foldlM Message.merge Message.blank = _
    rw [foldlM_written m]
    · rfl
    · simp [Message.merge]
    · obtain ⟨workerId⟩ := m
      simp +contextual [Message.blank, Value.isDefault]
  blank := by simp [HeartbeatRequest.fields, Message.blank, Value.Sized]
  kept := by
    intro m m' record taken small sized
    simp only [HeartbeatRequest.fields, List.forall_mem_cons] at sized ⊢
    simp only [Message.merge] at taken
    split at taken
    · obtain ⟨t, ht, rfl⟩ := Option.map_eq_some_iff.1 taken
      exact ⟨sized_of_text? ht small, sized.2⟩
    · cases taken
      exact sized

theorem layout_registerResponse : Layout RegisterResponse.fields where
  ascending _ := by simp [RegisterResponse.fields]
  numbered _ := by simp [RegisterResponse.fields]
  encoded m := by simp [RegisterResponse.fields, layout, encode, textField_eq, flagField_eq]
  merged m := by
    obtain ⟨ok, leaderAddr, error⟩ := m
    show (written _ ++ (written _ ++ (written _ ++ []))).foldlM Message.merge Message.blank = _
    rw [foldlM_written { ok }, foldlM_written { ok, leaderAddr },
      foldlM_written { ok, leaderAddr, error }]
    · rfl
    all_goals simp +contextual [Message.merge, Message.blank, Value.isDefault]
  blank := by simp [RegisterResponse.fields, Message.blank, Value.Sized]
  kept := by
    intro m m' record taken small sized
    simp only [RegisterResponse.fields, List.forall_mem_cons] at sized ⊢
    obtain ⟨hok, hleader, herror, hnil⟩ := sized
    simp only [Message.merge] at taken
    split at taken
    · obtain ⟨b, _, rfl⟩ := Option.map_eq_some_iff.1 taken
      exact ⟨hok, hleader, herror, hnil⟩
    · obtain ⟨t, ht, rfl⟩ := Option.map_eq_some_iff.1 taken
      exact ⟨hok, sized_of_text? ht small, herror, hnil⟩
    · obtain ⟨t, ht, rfl⟩ := Option.map_eq_some_iff.1 taken
      exact ⟨hok, hleader, sized_of_text? ht small, hnil⟩
    · cases taken
      exact ⟨hok, hleader, herror, hnil⟩

/-! ## Two responses in one layout -/

/-- The answer to a heartbeat that says what an answer to a registration says. -/
def RegisterResponse.beat (m : RegisterResponse) : HeartbeatResponse := ⟨m.ok, m.leaderAddr, m.error⟩

theorem merge_beat (m : RegisterResponse) (record : Record) :
    Message.merge m.beat record = (Message.merge m record).map RegisterResponse.beat := by
  simp only [Message.merge]
  split
  · cases record.flag? <;> rfl
  · cases record.text? <;> rfl
  · cases record.text? <;> rfl
  · rfl

theorem foldlM_beat (records : List Record) (m : RegisterResponse) :
    records.foldlM Message.merge m.beat =
      (records.foldlM Message.merge m).map RegisterResponse.beat := by
  induction records generalizing m with
  | nil => rfl
  | cons record records ih =>
    rw [List.foldlM_cons, List.foldlM_cons, merge_beat]
    cases Message.merge m record with
    | none => rfl
    | some next => exact ih next

/-- Whatever the bytes, both responses are read alike. -/
theorem decode?_beat (bytes : List UInt8) :
    decode? HeartbeatResponse bytes = (decode? RegisterResponse bytes).map RegisterResponse.beat := by
  unfold decode?
  cases records? bytes with
  | none => rfl
  | some records => exact foldlM_beat records Message.blank

theorem layout_heartbeatResponse : Layout HeartbeatResponse.fields where
  ascending m := layout_registerResponse.ascending ⟨m.ok, m.leaderAddr, m.error⟩
  numbered m := layout_registerResponse.numbered ⟨m.ok, m.leaderAddr, m.error⟩
  encoded m := layout_registerResponse.encoded ⟨m.ok, m.leaderAddr, m.error⟩
  merged m := by
    have h := layout_registerResponse.merged ⟨m.ok, m.leaderAddr, m.error⟩
    have hbeat := foldlM_beat (layout m.fields) Message.blank
    rw [show List.foldlM Message.merge Message.blank (layout m.fields) = _ from h] at hbeat
    exact hbeat
  blank := layout_registerResponse.blank
  kept := by
    intro m m' record taken small sized
    have hmerge := merge_beat ⟨m.ok, m.leaderAddr, m.error⟩ record
    obtain ⟨r, hr, rfl⟩ := Option.map_eq_some_iff.1 (hmerge.symm.trans taken)
    exact layout_registerResponse.kept hr small sized

/-! ## The service -/

/-- A message with given fields is read back, exactly if 64 bits can count the bytes of each of its
texts, and no two messages are written alike. On the wire are its fields in the order of their numbers,
less those that hold their default. What was read at all is read alike once it is written again. -/
structure RoundTrips {α : Type} [Message α] (fields : α → List (Nat × Value)) : Prop where
  readBack : ∀ m, decode? α (encode m) = some m ↔ ∀ field ∈ fields m, field.2.Sized
  injective : ∀ m m' : α, encode m = encode m' → m = m'
  ascending : ∀ m, ((fields m).map Prod.fst).Pairwise (· < ·)
  written : ∀ m, ∃ records,
    records = (((fields m).filter fun field => !field.2.isDefault).map fun field =>
      (⟨field.1, field.2.payload⟩ : Record)) ∧
    encode m = records.flatMap Record.write ∧
    ((∀ field ∈ fields m, field.2.Sized) → records? (encode m) = some records)
  stable : ∀ bytes m, decode? α bytes = some m → decode? α (encode m) = some m

theorem Layout.roundTrips {α : Type} [Message α] {fields : α → List (Nat × Value)}
    (h : Layout fields) : RoundTrips fields where
  readBack := h.decode?_encode_iff
  injective _ _ := h.encode_injective
  ascending := h.ascending
  written m := ⟨layout (fields m), layout_eq (fields m), h.encoded m, h.records?_encode⟩
  stable _ _ hm := h.decode?_encode (h.sized_of_decode? hm)

theorem verdict_eq (reply : Reply) : reply.verdict =
    if reply.ok then .accepted
    else if reply.leaderAddr = "" then .rejected reply.error
    else .redirected reply.leaderAddr := by
  unfold Reply.verdict
  by_cases h : reply.leaderAddr = "" <;> simp [h]

/-- All four messages of the service are read back. Either response is also read as the other, with
the same reply, which is an agreement, a refusal for the reason that it gives or, where it names a
leader, a redirect to that. -/
theorem messages_round_trip :
    (RoundTrips RegisterRequest.fields ∧ RoundTrips HeartbeatRequest.fields ∧
      RoundTrips RegisterResponse.fields ∧ RoundTrips HeartbeatResponse.fields) ∧
    (∀ m : RegisterResponse, (∀ field ∈ m.fields, field.2.Sized) →
      ∃ beat, decode? HeartbeatResponse (encode m) = some beat ∧ beat.reply = m.reply ∧
        beat.reply.verdict =
          if m.ok then .accepted
          else if m.leaderAddr = "" then .rejected m.error else .redirected m.leaderAddr) ∧
    ∀ m : HeartbeatResponse, (∀ field ∈ m.fields, field.2.Sized) →
      ∃ registration, decode? RegisterResponse (encode m) = some registration ∧
        registration.reply = m.reply ∧
        registration.reply.verdict =
          if m.ok then .accepted
          else if m.leaderAddr = "" then .rejected m.error else .redirected m.leaderAddr := by
  refine ⟨⟨layout_registerRequest.roundTrips, layout_heartbeatRequest.roundTrips,
    layout_registerResponse.roundTrips, layout_heartbeatResponse.roundTrips⟩, ?_, ?_⟩
  · intro m sized
    refine ⟨m.beat, ?_, rfl, verdict_eq m.reply⟩
    rw [decode?_beat, layout_registerResponse.decode?_encode sized]
    rfl
  · intro m sized
    let registration : RegisterResponse := ⟨m.ok, m.leaderAddr, m.error⟩
    have hm : decode? RegisterResponse (encode registration) = some registration :=
      layout_registerResponse.decode?_encode sized
    exact ⟨registration, hm, rfl, verdict_eq m.reply⟩

/-- The field in the middle holds its default and is not written. -/
example :
    let m : RegisterResponse := ⟨true, "", "é"⟩
    encode m = [8, 1, 26, 2, 0xc3, 0xa9] ∧
      decode? HeartbeatResponse (encode m) = some ⟨true, "", "é"⟩ := by
  decide +kernel

end ClusterMember.Wire
