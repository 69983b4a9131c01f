import ClusterMember.Proofs.Duration
import ClusterMember.Proofs.Toml.Lines
import ClusterMember.TimingFile

/-! # What a timing file does

A timing file is a text in a format with many forms. One that gives some of the settings on lines of
their own is followed here from its characters to the waits and time limits of an agent; of all
others it is shown what they cannot ask for.

* `Setting.duration`, `Setting.default`: a setting as a length of time, and its default.
* `TimingFile.asked`, `TimingFile.parse_source`: what the lines of a file ask for, and that they get it.
* `TimingFile.check_of_zero`: the zero that a file is refused for.
* `TimingFile.ofRoot?_lt`, `TimingFile.exists_shutdownBound`: no file asks for so much that its agent
  could take longer to end than any duration.
* `TimingFile.files_are_read_as_written`: all of this, for whole files.
-/

namespace ClusterMember
set_option autoImplicit false

namespace Setting

def duration (timings : Timings) : Setting → Duration
  | heartbeatInterval => timings.heartbeatInterval
  | retryDelay => timings.retryDelay
  | registerTimeout => timings.registerTimeout
  | heartbeatTimeout => timings.heartbeatTimeout

def default : Setting → Nat
  | heartbeatInterval | retryDelay | registerTimeout => 5
  | heartbeatTimeout => 3

theorem bare_key (setting : Setting) : Toml.Bare setting.key := by
  cases setting <;> decide

theorem key_injective {s t : Setting} (h : s.key = t.key) : s = t := by
  cases s <;> cases t <;> first | rfl | exact absurd h (by decide)

theorem mem_all (setting : Setting) : setting ∈ all := by
  cases setting <;> decide

end Setting

namespace TimingFile

/-! ## Lines -/

/-- How many seconds the lines of a file ask for: the number on a line of its own, or the default. -/
def asked (lines : List (Setting × Nat)) (setting : Setting) : Nat :=
  (lines.lookup setting).getD setting.default

def named (lines : List (Setting × Nat)) : List (String × Nat) :=
  lines.map fun (setting, value) => (setting.key, value)

theorem linesOf_named (lines : List (Setting × Nat)) :
    Toml.linesOf (named lines) = lines.flatMap fun (setting, value) =>
      setting.key.toList ++ " = ".toList ++ Nat.toDigits 10 value ++ ['\n'] := by
  rw [Toml.linesOf, named, List.flatMap_map]
  rfl

theorem source_eq (lines : List (Setting × Nat)) :
    source lines =
      String.ofList ('[' :: ("membership".toList ++ ']' :: '\n' :: Toml.linesOf (named lines))) := by
  have header : "[membership]\n".toList = '[' :: ("membership".toList ++ [']', '\n']) := by
    decide
  unfold source
  simp only [header, linesOf_named, List.cons_append, List.append_assoc, List.nil_append]

theorem lookup_named (setting : Setting) (lines : List (Setting × Nat)) :
    (named lines).lookup setting.key = lines.lookup setting := by
  induction lines with
  | nil => rfl
  | cons line lines ih =>
    show List.lookup setting.key ((line.1.key, line.2) :: named lines) = _
    rw [List.lookup_cons, List.lookup_cons, ih]
    by_cases h : setting = line.1
    · rw [beq_of_eq h, beq_of_eq (congrArg Setting.key h)]
    · rw [beq_false_of_ne h, beq_false_of_ne fun same => h (Setting.key_injective same)]

theorem parse?_source {lines : List (Setting × Nat)} (distinct : (lines.map Prod.fst).Nodup) :
    Toml.parse? (source lines) =
      if ∀ line ∈ lines, line.2 < 2 ^ 63 then
        some [("membership", .table .header (Toml.numbers (named lines)))]
      else none := by
  have keys : ((named lines).map Prod.fst).Nodup := by
    have hmap : (named lines).map Prod.fst = (lines.map Prod.fst).map Setting.key := by
      simp [named]
    rw [hmap]
    exact distinct.map fun _ _ => Setting.key_injective
  have bare : ∀ line ∈ named lines, Toml.Bare line.1 := by
    intro line h
    obtain ⟨⟨setting, value⟩, _, rfl⟩ := List.mem_map.1 h
    exact setting.bare_key
  have table : Toml.Bare "membership" := by decide
  rw [source_eq, Toml.parse?_table table bare keys]
  simp only [named, List.forall_mem_map]

/-! ## Values -/

theorem seconds?_ofInt {n : Nat} (h : n < 2 ^ 63) :
    seconds? (.integer (Int64.ofInt n)) = some (UInt64.ofNat n) := by
  rw [Int64.ofInt_eq_ofNat, seconds?, if_pos (Int64.zero_le_ofNat_of_lt h), Int64.toUInt64_ofNat']

theorem get_default (setting : Setting) :
    ({} : TimingFile).get setting = UInt64.ofNat setting.default := by
  cases setting <;> rfl

theorem lt_of_lookup {lines : List (Setting × Nat)} (small : ∀ line ∈ lines, line.2 < 2 ^ 63)
    {setting : Setting} {n : Nat} (h : lines.lookup setting = some n) : n < 2 ^ 63 := by
  obtain ⟨before, after, rfl, _⟩ := List.lookup_eq_some_iff.1 h
  exact small (setting, n) (List.mem_append_right _ List.mem_cons_self)

theorem value?_numbers {lines : List (Setting × Nat)} (small : ∀ line ∈ lines, line.2 < 2 ^ 63)
    (setting : Setting) :
    value? (fun s => Toml.lookup s.key (Toml.numbers (named lines))) setting =
      some (UInt64.ofNat (asked lines setting)) := by
  rw [value?, Toml.lookup_numbers, lookup_named, asked]
  cases h : lines.lookup setting with
  | none => exact congrArg some (get_default setting)
  | some n => exact seconds?_ofInt (lt_of_lookup small h)

/-- The file that some lines ask for. -/
def ofAsked (lines : List (Setting × Nat)) : TimingFile where
  heartbeatInterval := UInt64.ofNat (asked lines .heartbeatInterval)
  retryDelay := UInt64.ofNat (asked lines .retryDelay)
  registerTimeout := UInt64.ofNat (asked lines .registerTimeout)
  heartbeatTimeout := UInt64.ofNat (asked lines .heartbeatTimeout)

theorem ofRoot?_numbers {lines : List (Setting × Nat)}
    (small : ∀ line ∈ lines, line.2 < 2 ^ 63) :
    ofRoot? [("membership", .table .header (Toml.numbers (named lines)))] =
      some (ofAsked lines) := by
  show ofFound? (fun s => Toml.lookup s.key (Toml.numbers (named lines))) = _
  simp only [ofFound?, value?_numbers small]
  rfl

theorem parse_source {lines : List (Setting × Nat)} (distinct : (lines.map Prod.fst).Nodup) :
    parse (source lines) =
      if ∀ line ∈ lines, line.2 < 2 ^ 63 then (ofAsked lines).check else .error .malformed := by
  rw [parse, parse?_source distinct]
  by_cases small : ∀ line ∈ lines, line.2 < 2 ^ 63
  · rw [if_pos small, if_pos small, Option.bind_some, ofRoot?_numbers small]
  · rw [if_neg small, if_neg small, Option.bind_none]

/-! ## Zeros -/

theorem asked_eq_zero_iff {lines : List (Setting × Nat)} (distinct : (lines.map Prod.fst).Nodup)
    (setting : Setting) : asked lines setting = 0 ↔ (setting, 0) ∈ lines := by
  rw [← lookup_eq_some_iff_mem distinct, asked]
  cases lines.lookup setting with
  | none => cases setting <;> decide
  | some n => simp

theorem asked_lt {lines : List (Setting × Nat)} (small : ∀ line ∈ lines, line.2 < 2 ^ 63)
    (setting : Setting) : asked lines setting < 2 ^ 63 := by
  rw [asked]
  cases h : lines.lookup setting with
  | none => cases setting <;> decide
  | some n => exact lt_of_lookup small h

theorem toNat_get_ofAsked {lines : List (Setting × Nat)}
    (small : ∀ line ∈ lines, line.2 < 2 ^ 63) (setting : Setting) :
    ((ofAsked lines).get setting).toNat = asked lines setting := by
  have hget : (ofAsked lines).get setting = UInt64.ofNat (asked lines setting) := by
    cases setting <;> rfl
  have hlt := asked_lt small setting
  rw [hget, UInt64.toNat_ofNat_of_lt' (by unfold UInt64.size; omega)]

theorem get_ofAsked_eq_zero_iff {lines : List (Setting × Nat)}
    (distinct : (lines.map Prod.fst).Nodup) (small : ∀ line ∈ lines, line.2 < 2 ^ 63)
    (setting : Setting) : (ofAsked lines).get setting = 0 ↔ (setting, 0) ∈ lines := by
  rw [← UInt64.toNat_inj, toNat_get_ofAsked small]
  exact asked_eq_zero_iff distinct setting

/-- Of several zeros it is the one declared first that a file is refused for. -/
theorem check_of_zero {file : TimingFile} {setting : Setting} (zero : file.get setting = 0) :
    ∃ before first after, Setting.all = before ++ first :: after ∧ file.get first = 0 ∧
      (∀ s ∈ before, file.get s ≠ 0) ∧ file.check = .error (.zero first) := by
  rw [check]
  cases h : Setting.all.find? (file.get · = 0) with
  | none => exact absurd zero (by simpa using List.find?_eq_none.1 h setting setting.mem_all)
  | some first =>
    obtain ⟨hfirst, before, after, split, earlier⟩ := List.find?_eq_some_iff_append.1 h
    exact ⟨before, first, after, split, by simpa using hfirst, by simpa using earlier, rfl⟩

theorem check_eq_ok_iff {file checked : TimingFile} :
    file.check = .ok checked ↔ checked = file ∧ ∀ setting, file.get setting ≠ 0 := by
  have hnone : Setting.all.find? (file.get · = 0) = none ↔ ∀ setting, file.get setting ≠ 0 := by
    simp [List.find?_eq_none, Setting.mem_all]
  rw [← hnone, check]
  cases Setting.all.find? (file.get · = 0) with
  | none => simp [eq_comm]
  | some first => simp

/-! ## Every text -/

theorem seconds?_lt {node : Toml.Node} {n : UInt64} (h : seconds? node = some n) :
    n.toNat < 2 ^ 63 := by
  unfold seconds? at h
  split at h
  · next value =>
    split at h
    · next nonneg =>
      cases h
      rw [Int64.toNat_toUInt64_of_le nonneg]
      exact value.toNatClampNeg_lt
    · cases h
  · cases h

theorem value?_lt {found : Setting → Option Toml.Node} {setting : Setting} {n : UInt64}
    (h : value? found setting = some n) : n.toNat < 2 ^ 63 := by
  unfold value? at h
  split at h
  · cases h
    cases setting <;> decide
  · exact seconds?_lt h

theorem ofFound?_lt {found : Setting → Option Toml.Node} {file : TimingFile}
    (h : ofFound? found = some file) (setting : Setting) : (file.get setting).toNat < 2 ^ 63 := by
  simp only [ofFound?, Option.bind_eq_bind, Option.bind_eq_some_iff] at h
  obtain ⟨interval, hi, retry, hr, register, hg, heartbeat, hb, h⟩ := h
  cases h
  cases setting with
  | heartbeatInterval => exact value?_lt hi
  | retryDelay => exact value?_lt hr
  | registerTimeout => exact value?_lt hg
  | heartbeatTimeout => exact value?_lt hb

/-- Whatever tree a file holds, no setting is a number that does not fit into 63 bits. -/
theorem ofRoot?_lt {root : Toml.Entries} {file : TimingFile} (h : ofRoot? root = some file)
    (setting : Setting) : (file.get setting).toNat < 2 ^ 63 := by
  have defaults : (({} : TimingFile).get setting).toNat < 2 ^ 63 := by
    cases setting <;> decide
  unfold ofRoot? at h
  split at h
  · cases h
    exact defaults
  · next node =>
    unfold ofNode? at h
    split at h
    · exact ofFound?_lt h setting
    · exact ofFound?_lt h setting
    · exact ofFound?_lt h setting
    · cases h
      exact defaults
    all_goals cases h

theorem duration_timings (file : TimingFile) (setting : Setting) :
    (setting.duration file.timings).toNanos = (file.get setting).toNat * 1000000000 := by
  cases setting <;> exact Duration.toNanos_ofSecs _

theorem exists_shutdownBound {file : TimingFile}
    (small : ∀ setting, (file.get setting).toNat < 2 ^ 63) :
    ∃ bound, file.timings.shutdownBound = some bound := by
  have le (setting : Setting) :
      (setting.duration file.timings).toNanos ≤ (2 ^ 63 - 1) * 1000000000 := by
    rw [duration_timings]
    exact Nat.mul_le_mul_right _ (Nat.le_sub_one_of_lt (small setting))
  cases h : file.timings.shutdownBound with
  | some bound => exact ⟨bound, rfl⟩
  | none =>
    -- Twice the largest integer of the format is two seconds short of what a duration cannot hold.
    have long := file.timings.shutdownBound_eq_none_iff.1 h
    have wait : file.timings.longestWait ≤ (2 ^ 63 - 1) * 1000000000 :=
      Nat.max_le.2 ⟨le .heartbeatInterval, le .retryDelay⟩
    have call : file.timings.longestCall ≤ (2 ^ 63 - 1) * 1000000000 :=
      Nat.max_le.2 ⟨le .registerTimeout, le .heartbeatTimeout⟩
    omega

/-! ## Files -/

/-- A timing file is read as it is written, with any of the settings on lines of their own and in any
order. A number that does not fit into 63 bits makes it no settings file. Otherwise a zero has it
refused, for the setting with a zero that is declared first. And otherwise each setting is the number
on its line, or its default if it has none, and so many seconds long. Whatever else a file holds, one
that is accepted has no setting below one second, and its agent has a bound on how long it can take to
end. -/
theorem files_are_read_as_written :
    (∀ lines : List (Setting × Nat), (lines.map Prod.fst).Nodup →
      let parsed := parse (source lines)
      ((∃ line ∈ lines, 2 ^ 63 ≤ line.2) → parsed = .error .malformed) ∧
      ((∀ line ∈ lines, line.2 < 2 ^ 63) → (∃ line ∈ lines, line.2 = 0) →
        ∃ before first after, Setting.all = before ++ first :: after ∧ (first, 0) ∈ lines ∧
          (∀ setting ∈ before, (setting, 0) ∉ lines) ∧ parsed = .error (.zero first)) ∧
      ((∀ line ∈ lines, line.2 < 2 ^ 63) → (∀ line ∈ lines, line.2 ≠ 0) →
        ∃ file, parsed = .ok file ∧ ∀ setting : Setting,
          (file.get setting).toNat = asked lines setting ∧
          (setting.duration file.timings).toNanos = asked lines setting * 1000000000)) ∧
    ∀ text file, parse text = .ok file →
      (∀ setting : Setting, 1000000000 ≤ (setting.duration file.timings).toNanos) ∧
      ∃ bound, file.timings.shutdownBound = some bound := by
  refine ⟨fun lines distinct => ⟨?_, ?_, ?_⟩, ?_⟩
  · rintro ⟨line, hl, large⟩
    rw [parse_source distinct, if_neg fun small => Nat.not_lt_of_le large (small line hl)]
  · rintro small ⟨⟨setting, n⟩, hl, rfl⟩
    have hzero := get_ofAsked_eq_zero_iff distinct small
    obtain ⟨before, first, after, split, zero, earlier, refused⟩ :=
      check_of_zero ((hzero setting).2 hl)
    refine ⟨before, first, after, split, (hzero first).1 zero, ?_, ?_⟩
    · exact fun s hs h => earlier s hs ((hzero s).2 h)
    · rw [parse_source distinct, if_pos small, refused]
  · intro small nonzero
    have accepted : (ofAsked lines).check = .ok (ofAsked lines) := by
      refine check_eq_ok_iff.2 ⟨rfl, fun setting zero => ?_⟩
      exact nonzero _ ((get_ofAsked_eq_zero_iff distinct small setting).1 zero) rfl
    refine ⟨ofAsked lines, ?_, fun setting => ⟨toNat_get_ofAsked small setting, ?_⟩⟩
    · rw [parse_source distinct, if_pos small, accepted]
    · rw [duration_timings, toNat_get_ofAsked small]
  · intro text file accepted
    rw [parse] at accepted
    split at accepted
    · cases accepted
    · next found read =>
      obtain ⟨rfl, nonzero⟩ := check_eq_ok_iff.1 accepted
      obtain ⟨root, _, hroot⟩ := Option.bind_eq_some_iff.1 read
      refine ⟨fun setting => ?_, exists_shutdownBound (ofRoot?_lt hroot)⟩
      have pos : (file.get setting).toNat ≠ 0 := fun zero =>
        nonzero setting (UInt64.toNat_inj.1 zero)
      rw [duration_timings]
      omega

/-- Three of the four settings, the last of them first. The one left out keeps its default. -/
theorem file_out_of_order :
    let lines : List (Setting × Nat) :=
      [(.heartbeatTimeout, 2), (.registerTimeout, 30), (.heartbeatInterval, 10)]
    ∃ file, parse (source lines) = .ok file ∧
      (file.get .heartbeatInterval).toNat = 10 ∧ (file.get .retryDelay).toNat = 5 ∧
      (file.get .registerTimeout).toNat = 30 ∧ (file.get .heartbeatTimeout).toNat = 2 ∧
      file.timings.heartbeatTimeout.toNanos = 2000000000 ∧
      ∃ bound, file.timings.shutdownBound = some bound := by
  intro lines
  obtain ⟨written, any⟩ := files_are_read_as_written
  obtain ⟨_, _, accepts⟩ := written lines (by decide)
  obtain ⟨file, accepted, values⟩ := accepts (by decide) (by decide)
  obtain ⟨_, bounded⟩ := any _ file accepted
  have long : file.timings.heartbeatTimeout.toNanos = 2000000000 :=
    (values .heartbeatTimeout).2.trans (by decide)
  exact ⟨file, accepted, (values .heartbeatInterval).1, (values .retryDelay).1,
    (values .registerTimeout).1, (values .heartbeatTimeout).1, long, bounded⟩

/-- Of two zeros, the one further down in the text is declared first. -/
example : parse (source [(.heartbeatTimeout, 0), (.retryDelay, 0)]) = .error (.zero .retryDelay) := by
  decide +kernel

end TimingFile
end ClusterMember
