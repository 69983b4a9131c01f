import ClusterMember.Proofs.Lists
import ClusterMember.Toml.Document
import Mathlib.Algebra.Group.Nat.Defs

/-! # Lines with numbers

A table of a settings file that holds nothing but numbers, each on a line of its own.

* `Toml.number?_toDigits`, `Toml.value?_toDigits`: a number in decimal is read back if 64 bits hold it.
* `Toml.keyPath?_bare`: a name that needs no quotes.
* `Toml.line`, `Toml.statement?_line`: a line with a name and a number.
* `Toml.read?_lines`: any number of such lines, with different names, in whatever order.
-/

namespace ClusterMember.Toml
set_option autoImplicit false

/-! ## Numbers -/

theorem integer?_natCast (n : Nat) :
    integer? n = if n < 2 ^ 63 then some (.integer (Int64.ofInt n)) else none := by
  rw [integer?, Int64.toInt_minValue, Int64.toInt_maxValue]
  have hiff : -2 ^ 63 ≤ (n : Int) ∧ (n : Int) ≤ 2 ^ 63 - 1 ↔ n < 2 ^ 63 := by omega
  simp only [hiff]

theorem hexDigit?_of_isDigit {c : Char} (h : c.isDigit = true) :
    (hexDigit? c).getD 0 = c.toNat - 48 := by
  have decimal : '0' ≤ c ∧ c ≤ '9' := by simpa [Char.isDigit, Char.le_def] using h
  rw [hexDigit?, if_pos decimal]
  rfl

theorem valueOf_of_digits {digits : List Char} (h : ∀ c ∈ digits, c.isDigit = true) (front : Nat) :
    digits.foldl (fun n c => n * 10 + (hexDigit? c).getD 0) front =
      Nat.ofDigitChars 10 digits front := by
  induction digits generalizing front with
  | nil => rfl
  | cons c digits ih =>
    obtain ⟨first, others⟩ := List.forall_mem_cons.1 h
    rw [List.foldl_cons, ih others, hexDigit?_of_isDigit first, Nat.mul_comm]
    rfl

theorem valueOf_toDigits (n : Nat) : valueOf 10 (Nat.toDigits 10 n) = n := by
  rw [valueOf, valueOf_of_digits (isDigit_toDigits n), Nat.ofDigitChars_ten_toDigits]

/-- Digits are read up to the end of their line. -/
theorem moreDigits_of_digits {digits : List Char} (h : ∀ c ∈ digits, c.isDigit = true)
    (rest : List Char) :
    moreDigits Char.isDigit (digits ++ '\n' :: rest) = some (digits, '\n' :: rest) := by
  induction digits with
  | nil => simp [moreDigits]
  | cons c digits ih =>
    obtain ⟨first, others⟩ := List.forall_mem_cons.1 h
    have solid : c ≠ '_' := ne_of_stop first (by decide)
    rw [List.cons_append, moreDigits]
    · rw [if_pos first, ih others]
      rfl
    · exact fun _ _ score => absurd score solid

theorem wholeDigits_toDigits (n : Nat) (rest : List Char) :
    wholeDigits (Nat.toDigits 10 n ++ '\n' :: rest) = some (Nat.toDigits 10 n, '\n' :: rest) := by
  rcases Nat.eq_zero_or_pos n with rfl | pos
  · rfl
  · obtain ⟨c, found, opening, digit, zero⟩ := exists_first_digit n
    have others : ∀ d ∈ found, d.isDigit = true :=
      (List.forall_mem_cons.1 (opening ▸ isDigit_toDigits n)).2
    rw [opening, List.cons_append, wholeDigits]
    · rw [digits, if_pos digit, moreDigits_of_digits others]
      rfl
    · exact fun _ first => absurd (zero (List.cons.inj first).1) (Nat.ne_of_gt pos)

theorem sign_of_isDigit {c : Char} (h : c.isDigit = true) (rest : List Char) :
    sign (c :: rest) = (none, c :: rest) := by
  have plus : c ≠ '+' := ne_of_stop h (by decide)
  have minus : c ≠ '-' := ne_of_stop h (by decide)
  simp [sign, plus, minus]

theorem number?_toDigits (n : Nat) (rest : List Char) :
    number? (Nat.toDigits 10 n ++ '\n' :: rest) = (integer? n).map (·, '\n' :: rest) := by
  rcases Nat.eq_zero_or_pos n with rfl | pos
  · rfl
  · have whole := wholeDigits_toDigits n rest
    have value := valueOf_toDigits n
    obtain ⟨c, found, opening, digit, zero⟩ := exists_first_digit n
    have other (d : Char) (hd : d.isDigit = false) : c ≠ d := ne_of_stop digit hd
    -- A number in another base starts with a zero, which no number in decimal but zero does.
    have start : c ≠ '0' := fun first => Nat.ne_of_gt pos (zero first)
    rw [opening] at whole value ⊢
    rw [List.cons_append] at whole ⊢
    rw [number?, sign_of_isDigit digit]
    dsimp only
    split
    · next first => exact absurd (List.cons.inj first).1 (other 'i' (by decide))
    · next first => exact absurd (List.cons.inj first).1 (other 'n' (by decide))
    · next first => exact absurd (List.cons.inj first).1 start
    · next first => exact absurd (List.cons.inj first).1 start
    · next first => exact absurd (List.cons.inj first).1 start
    · rw [whole]
      show (integer? (valueOf 10 (c :: found))).bind _ = _
      rw [value]
      cases integer? n <;> rfl

/-- A date or a time has a colon or a dash after its first digits. -/
theorem mark_of_looksLikeMoment {text : List Char} (h : looksLikeMoment text = true) :
    ∃ c rest, text.dropWhile Char.isDigit = c :: rest ∧ (c = ':' ∨ c = '-') := by
  unfold looksLikeMoment at h
  split at h
  · next a b rest =>
    obtain ⟨ha, hb⟩ : a.isDigit = true ∧ b.isDigit = true := by simpa using h
    exact ⟨':', rest, by simp [ha, hb], .inl rfl⟩
  · next a b c d rest _ =>
    obtain ⟨⟨⟨ha, hb⟩, hc⟩, hd⟩ :
        ((a.isDigit = true ∧ b.isDigit = true) ∧ c.isDigit = true) ∧ d.isDigit = true := by
      simpa using h
    exact ⟨'-', rest, by simp [ha, hb, hc, hd], .inr rfl⟩
  · cases h

theorem looksLikeMoment_toDigits (n : Nat) (rest : List Char) :
    looksLikeMoment (Nat.toDigits 10 n ++ '\n' :: rest) = false := by
  have stop : ∀ c ∈ ('\n' :: rest).head?, c.isDigit = false := by simp
  obtain ⟨_, left⟩ := takeWhile_append_stop (isDigit_toDigits n) stop
  cases h : looksLikeMoment (Nat.toDigits 10 n ++ '\n' :: rest) with
  | false => rfl
  | true =>
    obtain ⟨c, after, found, mark⟩ := mark_of_looksLikeMoment h
    rw [left] at found
    rw [← (List.cons.inj found).1] at mark
    simp at mark

theorem value?_toDigits (n : Nat) (rest : List Char) :
    value? (Nat.toDigits 10 n ++ '\n' :: rest) = (integer? n).map (·, '\n' :: rest) := by
  have number := number?_toDigits n rest
  have moment := looksLikeMoment_toDigits n rest
  obtain ⟨c, found, opening, digit, _⟩ := exists_first_digit n
  have other (d : Char) (hd : d.isDigit = false) : c ≠ d := ne_of_stop digit hd
  rw [opening, List.cons_append] at number moment ⊢
  have scalar : scalar? (c :: (found ++ '\n' :: rest)) =
      number? (c :: (found ++ '\n' :: rest)) := by
    unfold scalar?
    split
    · next first => exact absurd (List.cons.inj first).1 (other '"' (by decide))
    · next first => exact absurd (List.cons.inj first).1 (other '\'' (by decide))
    · next first => exact absurd (List.cons.inj first).1 (other 't' (by decide))
    · next first => exact absurd (List.cons.inj first).1 (other 'f' (by decide))
    · rw [moment]
      rfl
  rw [value?, maxDepth, valueIn?]
  · rw [scalar, number]
  · exact fun _ first => absurd (List.cons.inj first).1 (other '[' (by decide))
  · exact fun _ first => absurd (List.cons.inj first).1 (other '\x7b' (by decide))

/-! ## Names -/

/-- Whether a name needs no quotes. -/
def Bare (name : String) : Prop := name.toList ≠ [] ∧ name.toList.all isBareChar = true

instance (name : String) : Decidable (Bare name) := inferInstanceAs (Decidable (_ ∧ _))

theorem Bare.first {name : String} (h : Bare name) :
    ∃ c chars, name.toList = c :: chars ∧ isBareChar c = true := by
  obtain ⟨solid, bare⟩ := h
  cases hn : name.toList with
  | nil => exact absurd hn solid
  | cons c chars => exact ⟨c, chars, rfl, List.all_eq_true.1 bare c (hn ▸ List.mem_cons_self)⟩

theorem skipBlanks_bare {name : String} (h : Bare name) (rest : List Char) :
    skipBlanks (name.toList ++ rest) = name.toList ++ rest := by
  obtain ⟨c, chars, hn, bare⟩ := h.first
  have space : c ≠ ' ' := ne_of_stop bare (by decide)
  have tab : c ≠ '\t' := ne_of_stop bare (by decide)
  simp [hn, skipBlanks, isBlank, space, tab]

theorem name?_bare {name : String} (h : Bare name) {rest : List Char}
    (stop : ∀ c ∈ rest.head?, isBareChar c = false) :
    name? (name.toList ++ rest) = some (name.toList, rest) := by
  obtain ⟨taken, left⟩ := takeWhile_append_stop (List.all_eq_true.1 h.2) stop
  obtain ⟨c, chars, hn, bare⟩ := h.first
  have other (d : Char) (hd : isBareChar d = false) : c ≠ d := ne_of_stop bare hd
  unfold name?
  split
  · next first => rw [hn] at first; exact absurd (List.cons.inj first).1 (other '"' (by decide))
  · next first => rw [hn] at first; exact absurd (List.cons.inj first).1 (other '\'' (by decide))
  · rw [taken, left, if_neg (by simp [hn])]

theorem keyPath?_bare {name : String} (h : Bare name) {rest : List Char}
    (stop : ∀ c ∈ rest.head?, isBareChar c = false) (single : (skipBlanks rest).head? ≠ some '.') :
    keyPath? (name.toList ++ rest) = some ([name], skipBlanks rest) := by
  rw [keyPath?, maxDepth, names?, skipBlanks_bare h, name?_bare h stop]
  simp only [Option.bind_eq_bind, Option.bind_some, String.ofList_toList]
  split
  · next dot => rw [dot] at single; exact absurd rfl single
  · rfl

/-! ## Lines -/

/-- The line that gives a number to a name. -/
def line (name : String) (n : Nat) : List Char :=
  name.toList ++ " = ".toList ++ Nat.toDigits 10 n ++ ['\n']

def linesOf (lines : List (String × Nat)) : List Char := lines.flatMap fun (name, n) => line name n

theorem statement?_bare {name : String} (h : Bare name) (rest : List Char) :
    statement? (name.toList ++ rest) = assignment? (name.toList ++ rest) := by
  obtain ⟨c, chars, hn, bare⟩ := h.first
  have other (d : Char) (hd : isBareChar d = false) : c ≠ d := ne_of_stop bare hd
  rw [hn, List.cons_append]
  unfold statement?
  split
  · next none => cases none
  · next first => exact absurd (List.cons.inj first).1 (other '#' (by decide))
  · next first => exact absurd (List.cons.inj first).1 (other '\n' (by decide))
  · next first => exact absurd (List.cons.inj first).1 (other '\r' (by decide))
  · next first => exact absurd (List.cons.inj first).1 (other '[' (by decide))
  · next first => exact absurd (List.cons.inj first).1 (other '[' (by decide))
  · rfl

theorem statement?_line {name : String} (h : Bare name) (n : Nat) (rest : List Char) :
    statement? (line name n ++ rest) =
      (integer? n).map fun node => (.assign [name] node, '\n' :: rest) := by
  let tail := Nat.toDigits 10 n ++ '\n' :: rest
  have split : line name n ++ rest = name.toList ++ (' ' :: '=' :: ' ' :: tail) := by
    simp [line, tail]
  have key : keyPath? (name.toList ++ (' ' :: '=' :: ' ' :: tail)) =
      some ([name], '=' :: ' ' :: tail) :=
    keyPath?_bare h (by simp; decide) (by simp [skipBlanks, isBlank])
  have solid : skipBlanks (' ' :: tail) = tail := by
    obtain ⟨c, found, opening, digit, _⟩ := exists_first_digit n
    have space : c ≠ ' ' := ne_of_stop digit (by decide)
    have tab : c ≠ '\t' := ne_of_stop digit (by decide)
    simp [tail, opening, skipBlanks, isBlank, space, tab]
  rw [split, statement?_bare h, assignment?, key]
  show (value? (skipBlanks (' ' :: tail))).bind _ = _
  rw [solid, value?_toDigits]
  cases integer? n <;> rfl

/-! ## Documents -/

/-- The entries of a table that holds nothing but numbers. -/
def numbers (lines : List (String × Nat)) : Entries :=
  lines.map fun (name, n) => (name, .integer (Int64.ofInt n))

theorem lookup_numbers (name : String) (lines : List (String × Nat)) :
    lookup name (numbers lines) = (lines.lookup name).map fun n => .integer (Int64.ofInt n) := by
  induction lines with
  | nil => rfl
  | cons line lines ih =>
    show (if line.1 = name then _ else lookup name (numbers lines)) = _
    by_cases h : line.1 = name
    · rw [if_pos h, List.lookup_cons, beq_of_eq h.symm]
      rfl
    · rw [if_neg h, List.lookup_cons, beq_false_of_ne (Ne.symm h), ih]

/-- A document that consists of one table, which is being filled. -/
def Document.ofTable (table : String) (entries : Entries) : Document :=
  ⟨[(table, .table .header entries)], [table]⟩

theorem extend_ofTable {table name : String} {entries : Entries} (node : Node)
    (free : lookup name entries = none) :
    (Document.ofTable table entries).extend (.assign [name] node) =
      some (Document.ofTable table (entries ++ [(name, node)])) := by
  have added : add? name node entries = some (entries ++ [(name, node)]) := by
    rw [add?, free]
  have found : lookup table [(table, Node.table .header entries)] =
      some (.table .header entries) := if_pos rfl
  simp [Document.extend, Document.ofTable, within, assign, found, added, replace]

theorem read?_line {name : String} (h : Bare name) (n room : Nat) (rest : List Char)
    (document : Document) :
    Document.read? (room + 1) (line name n ++ rest) document =
      (integer? n).bind fun node =>
        (document.extend (.assign [name] node)).bind fun document =>
          Document.read? room rest document := by
  have solid : skipBlanks (line name n ++ rest) = line name n ++ rest := by
    simp only [line, List.append_assoc]
    exact skipBlanks_bare h _
  obtain ⟨c, chars, hn, _⟩ := h.first
  rw [Document.read?, solid]
  split
  · next none => simp [line, hn] at none
  · rw [statement?_line h]
    cases integer? n <;> rfl

/-- Lines with numbers fill a table, if 64 bits hold every number. -/
theorem read?_lines (table : String) {lines : List (String × Nat)} (before : List (String × Nat))
    (bare : ∀ line ∈ lines, Bare line.1) (distinct : ((before ++ lines).map Prod.fst).Nodup)
    {room : Nat} (enough : (linesOf lines).length < room) :
    Document.read? room (linesOf lines) (Document.ofTable table (numbers before)) =
      if ∀ line ∈ lines, line.2 < 2 ^ 63 then
        some (Document.ofTable table (numbers (before ++ lines)))
      else none := by
  induction lines generalizing before room with
  | nil =>
    cases room with
    | zero => exact absurd enough (Nat.not_lt_zero _)
    | succ room => simp [Document.read?, skipBlanks, linesOf]
  | cons first lines ih =>
    obtain ⟨name, n⟩ := first
    obtain ⟨bareName, bareNames⟩ := List.forall_mem_cons.1 bare
    have opening : linesOf ((name, n) :: lines) = line name n ++ linesOf lines := rfl
    rw [opening, List.length_append] at enough
    cases room with
    | zero => exact absurd enough (Nat.not_lt_zero _)
    | succ room =>
      -- The name of the line is not among those before it, and the line is not empty.
      have free : lookup name (numbers before) = none := by
        rw [lookup_numbers, List.lookup_eq_none_iff.2 (bne_fst_of_nodup distinct)]
        rfl
      have later : (((before ++ [(name, n)]) ++ lines).map Prod.fst).Nodup := by
        rwa [List.append_assoc]
      have left : (linesOf lines).length < room := by
        have pos : 0 < (line name n).length := by
          rw [line, List.length_append]
          exact Nat.succ_pos _
        omega
      rw [opening, read?_line bareName, integer?_natCast]
      by_cases small : n < 2 ^ 63
      · have grown : numbers before ++ [(name, Node.integer (Int64.ofInt n))] =
            numbers (before ++ [(name, n)]) := by simp [numbers]
        rw [if_pos small, Option.bind_some, extend_ofTable _ free, Option.bind_some, grown,
          ih _ bareNames later left, List.append_assoc]
        simp only [List.forall_mem_cons, small, true_and, List.singleton_append]
      · rw [if_neg small, Option.bind_none, if_neg fun all => small (all _ List.mem_cons_self)]

theorem statement?_header {table : String} (bare : Bare table) (rest : List Char) :
    statement? ('[' :: (table.toList ++ ']' :: rest)) = some (.table [table], rest) := by
  have key : keyPath? (table.toList ++ ']' :: rest) = some ([table], ']' :: rest) :=
    keyPath?_bare bare (by simp; decide) (by simp [skipBlanks, isBlank])
  obtain ⟨c, chars, ht, solid⟩ := bare.first
  have single : c ≠ '[' := ne_of_stop solid (by decide)
  rw [ht, List.cons_append] at key ⊢
  rw [statement?, tableHeader?, key]
  · rfl
  · exact fun _ opening => absurd (List.cons.inj opening).1 single

/-- A file that consists of one table of numbers. -/
theorem parse?_table {table : String} (bare : Bare table) {lines : List (String × Nat)}
    (bares : ∀ line ∈ lines, Bare line.1) (distinct : (lines.map Prod.fst).Nodup) :
    parse? (String.ofList ('[' :: (table.toList ++ ']' :: '\n' :: linesOf lines))) =
      if ∀ line ∈ lines, line.2 < 2 ^ 63 then some [(table, .table .header (numbers lines))]
      else none := by
  let chars := '[' :: (table.toList ++ ']' :: '\n' :: linesOf lines)
  have enough : (linesOf lines).length < chars.length := by
    simp only [chars, List.length_cons, List.length_append]
    omega
  have opened : Document.read? (chars.length + 1) chars {} =
      Document.read? chars.length (linesOf lines) (Document.ofTable table (numbers [])) := by
    show (statement? chars).bind _ = _
    rw [statement?_header bare]
    rfl
  have unmarked : parse? (String.ofList chars) =
      (Document.read? (chars.length + 1) chars {}).map Document.root := by
    rw [parse?, String.toList_ofList]
    rfl
  have filled : Document.read? chars.length (linesOf lines) (Document.ofTable table (numbers [])) =
      if ∀ line ∈ lines, line.2 < 2 ^ 63 then some (Document.ofTable table (numbers lines))
      else none :=
    read?_lines table [] bares distinct enough
  rw [unmarked, opened, filled]
  split
  · rfl
  · rfl

end ClusterMember.Toml
