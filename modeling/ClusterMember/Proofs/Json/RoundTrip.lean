import ClusterMember.Json
import ClusterMember.Proofs.Lists

/-! # What is written is read back

Reading undoes writing, for every value with any texts in it.

* `Json.readText?_escape`: one escaped character, whatever follows it.
* `Json.read?_render`: a whole document.
-/

namespace ClusterMember.Json
set_option autoImplicit false

/-! ## Texts -/

theorem hexDigit?_digitChar : ∀ n < 16, hexDigit? (Nat.digitChar n) = some n := by
  decide

theorem charOf?_toNat (c : Char) : charOf? c.toNat = some c := by
  have valid : c.toNat.isValidChar := c.valid
  rw [charOf?, if_pos valid, Char.ofNat_toNat]

theorem hex?_control {c : Char} (h : c.toNat < 0x20) :
    hex? '0' '0' (Nat.digitChar (c.toNat / 16)) (Nat.digitChar (c.toNat % 16)) =
      some c.toNat := by
  have high := hexDigit?_digitChar (c.toNat / 16) (by omega)
  have low := hexDigit?_digitChar (c.toNat % 16) (by omega)
  have zero : hexDigit? '0' = some 0 := by decide
  simp only [hex?, zero, high, low, Option.bind_eq_bind, Option.bind_some]
  congr 1
  omega

theorem readText?_escape (c : Char) (rest : List Char) :
    readText? (escape c ++ rest) = (readText? rest).map fun (chars, rest) => (c :: chars, rest) := by
  unfold escape
  split
  · next quote => subst quote; simp [readText?, escaped?]
  split
  · next backslash => subst backslash; simp [readText?, escaped?]
  split
  · next h =>
    obtain rfl : c = '\x08' := Char.ext h
    simp [readText?, escaped?]
  split
  · next h =>
    obtain rfl : c = '\x0c' := Char.ext h
    simp [readText?, escaped?]
  split
  · next h => subst h; simp [readText?, escaped?]
  split
  · next h => subst h; simp [readText?, escaped?]
  split
  · next h => subst h; simp [readText?, escaped?]
  split
  · next control =>
    -- The reader takes four digits; the first two of a control character are zeros.
    simp [readText?, hex?_control control, charOf?_toNat]
  · next backslash _ _ _ _ _ plain =>
    simp [readText?, backslash, plain]

theorem readText?_flatMap (s rest : List Char) :
    readText? (s.flatMap escape ++ '"' :: rest) = some (s, rest) := by
  induction s with
  | nil => simp [readText?]
  | cons c s ih =>
    rw [List.flatMap_cons, List.append_assoc, readText?_escape, ih]
    rfl

theorem renderText_append (s : String) (rest : List Char) :
    renderText s ++ rest = '"' :: (s.toList.flatMap escape ++ '"' :: rest) := by
  simp [renderText]

/-! ## Numbers -/

/-- What may follow a number: anything but another digit. -/
def EndsNumber (rest : List Char) : Prop := ∀ c ∈ rest.head?, c.isDigit = false

theorem takeWhile_toDigits (n : Nat) {rest : List Char} (h : EndsNumber rest) :
    (Nat.toDigits 10 n ++ rest).takeWhile Char.isDigit = Nat.toDigits 10 n ∧
      (Nat.toDigits 10 n ++ rest).dropWhile Char.isDigit = rest :=
  takeWhile_append_stop (isDigit_toDigits n) h

theorem readNumber?_toDigits (n : Nat) {rest : List Char} (h : EndsNumber rest) :
    readNumber? (Nat.toDigits 10 n ++ rest) = some (number n, rest) := by
  obtain ⟨taken, left⟩ := takeWhile_toDigits n h
  rw [readNumber?, taken, left]
  split
  · next none => exact absurd none Nat.toDigits_ne_nil
  · next c rest opening =>
    rcases Nat.eq_zero_or_pos n with rfl | pos
    · simp at opening
    · exact absurd opening (toDigits_opening pos _)
  · rw [Nat.ofDigitChars_ten_toDigits]

/-! ## Values -/

theorem readValue?_digit {c : Char} (h : c.isDigit = true) (room : Nat) (rest : List Char) :
    readValue? (room + 1) (c :: rest) = readNumber? (c :: rest) := by
  have other (d : Char) (hd : d.isDigit = false) : c ≠ d := ne_of_stop h hd
  have solid : skipBlanks (c :: rest) = c :: rest := by
    simp [skipBlanks, other]
  rw [readValue?, solid]
  split
  · next opening => exact absurd (List.cons.inj opening).1 (other '"' (by decide))
  · next opening => exact absurd (List.cons.inj opening).1 (other '{' (by decide))
  · next opening => exact absurd (List.cons.inj opening).1 (other 't' (by decide))
  · next opening => exact absurd (List.cons.inj opening).1 (other 'f' (by decide))
  · rfl

theorem readValue?_flag (value : Bool) (room : Nat) (rest : List Char) :
    readValue? (room + 1) ((flag value).render ++ rest) = some (flag value, rest) := by
  cases value <;> simp [render, readValue?, skipBlanks, dropWord?]

theorem readValue?_number (n room : Nat) {rest : List Char} (h : EndsNumber rest) :
    readValue? (room + 1) ((number n).render ++ rest) = some (number n, rest) := by
  have read := readNumber?_toDigits n h
  obtain ⟨c, digits, opening, digit, _⟩ := exists_first_digit n
  rw [opening, List.cons_append] at read
  rw [render, opening, List.cons_append, readValue?_digit digit, read]

theorem readValue?_text (s : String) (room : Nat) (rest : List Char) :
    readValue? (room + 1) ((text s).render ++ rest) = some (text s, rest) := by
  rw [render, renderText_append]
  simp [readValue?, skipBlanks, readText?_flatMap]

/-- A value is read back wherever it stands, with `room` for as many steps as it has characters. -/
def ReadsBack (json : Json) : Prop :=
  ∀ room rest, json.render.length < room → EndsNumber rest →
    readValue? room (json.render ++ rest) = some (json, rest)

/-- The same for the members of an object, of which there is one at least. -/
def MembersReadBack (members : List (String × Json)) : Prop :=
  members ≠ [] → ∀ room rest, (renderMembers members).length < room →
    readMembers? room (renderMembers members ++ '}' :: rest) = some (members, rest)

theorem renderMembers_opening (member : String × Json) (members : List (String × Json))
    (rest : List Char) :
    ∃ tail, renderMembers (member :: members) ++ rest = '"' :: tail := by
  cases members <;>
    simp only [renderMembers, List.append_assoc, renderText_append] <;>
    exact ⟨_, rfl⟩

theorem readsBack_object {members : List (String × Json)} (ih : MembersReadBack members) :
    (object members).ReadsBack := by
  intro room rest size _
  cases room with
  | zero => simp at size
  | succ room =>
    simp only [render, List.cons_append, List.length_cons, List.length_append,
      List.length_nil] at size
    cases members with
    | nil => simp [render, renderMembers, readValue?, skipBlanks]
    | cons member members =>
      -- An object with members opens with a quote, so it is not taken for the empty one.
      have read := ih (by simp) room rest (by omega)
      obtain ⟨tail, opening⟩ := renderMembers_opening member members ('}' :: rest)
      rw [opening] at read
      simp only [render, List.cons_append, List.append_assoc, List.nil_append, opening, readValue?]
      simp [skipBlanks, read]

theorem membersReadBack_single {name : String} {value : Json} (ih : value.ReadsBack) :
    MembersReadBack [(name, value)] := by
  intro _ room rest size
  cases room with
  | zero => simp at size
  | succ room =>
    simp only [renderMembers, renderText, List.cons_append, List.length_cons, List.length_append,
      List.length_nil] at size
    have read := ih room ('}' :: rest) (by omega) (by simp [EndsNumber])
    simp only [renderMembers, List.append_assoc, renderText_append, List.cons_append, readMembers?]
    simp [skipBlanks, readText?_flatMap, read]

theorem membersReadBack_cons {name : String} {value : Json} {member : String × Json}
    {members : List (String × Json)} (ih : value.ReadsBack)
    (ihs : MembersReadBack (member :: members)) :
    MembersReadBack ((name, value) :: member :: members) := by
  intro _ room rest size
  cases room with
  | zero => simp at size
  | succ room =>
    simp only [renderMembers, renderText, List.cons_append, List.length_cons, List.length_append,
      List.length_nil] at size
    have read := ih room (',' :: (renderMembers (member :: members) ++ '}' :: rest)) (by omega)
      (by simp [EndsNumber])
    have reads := ihs (by simp) room rest (by omega)
    simp only [renderMembers, List.append_assoc, renderText_append, List.cons_append, readMembers?]
    simp [skipBlanks, readText?_flatMap, read, reads]

theorem readsBack (json : Json) : json.ReadsBack := by
  -- The cases are those of `render`. A step into a member or a value leaves a quote or a bracket
  -- behind, so that what is left of `room` is enough for it.
  have step {json : Json} (read : ∀ room rest, EndsNumber rest →
      readValue? (room + 1) (json.render ++ rest) = some (json, rest)) : json.ReadsBack := by
    intro room rest size ends
    cases room with
    | zero => simp at size
    | succ room => exact read room rest ends
  refine render.induct ReadsBack MembersReadBack ?_ ?_ ?_ ?_ ?_ ?_ ?_ ?_ json
  · exact step fun room rest _ => readValue?_flag true room rest
  · exact step fun room rest _ => readValue?_flag false room rest
  · exact fun n => step fun room _ ends => readValue?_number n room ends
  · exact fun s => step fun room rest _ => readValue?_text s room rest
  · exact fun members => readsBack_object
  · exact fun none => absurd rfl none
  · exact fun name value => membersReadBack_single
  · exact fun name value member members => membersReadBack_cons

/-- Reading undoes writing. -/
theorem read?_render (json : Json) : read? json.render = some json := by
  have read := readsBack json (json.render.length + 1) [] (Nat.lt_succ_self _) (by simp [EndsNumber])
  rw [List.append_nil] at read
  rw [read?, read]
  rfl

/-- A comma before the end, a zero in front, a bare line feed and half a pair of surrogates are not
well formed. -/
example : ["\x7b\"a\":1,\x7d", "01", "\"a\nb\"", "\"\\ud800\""].all
    fun source => (read? source.toList).isNone := by cbv

end ClusterMember.Json
