import ClusterMember.Exposition
import ClusterMember.Proofs.Lists
import Mathlib.Data.List.Forall2

/-! # A metrics page cannot be broken

Whatever the worker id, the page keeps its lines, and every label and every value on it can be read
back.

* `readLabel?_escapeLabel`: a label ends at its closing quote and nowhere before it.
* `endLines_injective`: lines can be told apart by their ends.
* `Metric.Tells`: what the lines of one metric say.
* `exposition_loses_nothing`: the whole page.
-/

namespace ClusterMember
set_option autoImplicit false

/-! ## Labels -/

/-- A label is read back up to its closing quote, whatever follows that. -/
theorem readLabel?_escapeLabel (label rest : List Char) :
    readLabel? (escapeLabel label ++ '"' :: rest) = some (label, rest) := by
  induction label with
  | nil => simp [escapeLabel, readLabel?]
  | cons c label ih =>
    unfold escapeLabel
    split
    · next backslash => subst backslash; simp [readLabel?, ih]
    split
    · next quote => subst quote; simp [readLabel?, ih]
    split
    · next lineFeed => subst lineFeed; simp [readLabel?, ih]
    · next backslash quote _ => simp [readLabel?, backslash, ih]

/-- A backslash before the letter `n` is not taken for a line feed. -/
example : readLabel? (escapeLabel "a\\n\n".toList ++ "\" 7".toList) =
    some ("a\\n\n".toList, " 7".toList) := by decide

theorem lineFeed_notMem_escapeLabel (label : List Char) : '\n' ∉ escapeLabel label := by
  induction label with
  | nil => simp [escapeLabel]
  | cons c label ih =>
    unfold escapeLabel
    split
    · simpa using ih
    split
    · simpa using ih
    split
    · simpa using ih
    · next other => simpa [Ne.symm other] using ih

/-! ## Lines -/

/-- Lines, each of them with its end. -/
def endLines (lines : List (List Char)) : List Char := lines.flatMap (· ++ ['\n'])

theorem endLines_append (lines lines' : List (List Char)) :
    endLines (lines ++ lines') = endLines lines ++ endLines lines' :=
  List.flatMap_append

theorem takeWhile_line {line : List Char} (h : '\n' ∉ line) (rest : List Char) :
    (line ++ '\n' :: rest).takeWhile (· ≠ '\n') = line := by
  have inside : ∀ c ∈ line, decide (c ≠ '\n') = true := by
    intro c hc
    exact decide_eq_true fun same => h (same ▸ hc)
  exact (takeWhile_append_stop inside (by simp)).1

theorem endLines_injective {lines lines' : List (List Char)} (h : ∀ line ∈ lines, '\n' ∉ line)
    (h' : ∀ line ∈ lines', '\n' ∉ line) (same : endLines lines = endLines lines') :
    lines = lines' := by
  induction lines generalizing lines' with
  | nil =>
    cases lines' with
    | nil => rfl
    | cons line' lines' => simp [endLines] at same
  | cons line lines ih =>
    cases lines' with
    | nil => simp [endLines] at same
    | cons line' lines' =>
      rw [List.forall_mem_cons] at h h'
      simp only [endLines, List.flatMap_cons, List.append_assoc, List.singleton_append] at same
      have first := congrArg (List.takeWhile (· ≠ '\n')) same
      rw [takeWhile_line h.1, takeWhile_line h'.1] at first
      subst first
      have rest := (List.cons.inj (List.append_cancel_left same)).2
      rw [ih h.2 h'.2 rest]

/-! ## One metric -/

namespace Metric

/-- A line about a metric: a word, the name and a text. -/
def wordLine (word name text : String) : List Char := word.toList ++ name.toList ++ ' ' :: text.toList

/-- The label of a sample from its opening quote on, and the value behind it. -/
def tail (m : Metric) (workerId : String) (c : Counters) : List Char :=
  escapeLabel workerId.toList ++ '"' :: '\x7d' :: ' ' :: Nat.toDigits 10 (m.value c)

def sampleLine (m : Metric) (workerId : String) (c : Counters) : List Char :=
  m.name.toList ++ "\x7bworker=\"".toList ++ m.tail workerId c

def group (m : Metric) (workerId : String) (c : Counters) : List (List Char) :=
  [wordLine "# HELP " m.name m.help, wordLine "# TYPE " m.name m.kind.label,
    m.sampleLine workerId c]

theorem lines_eq (m : Metric) (workerId : String) (c : Counters) :
    m.lines workerId c = endLines (m.group workerId c) := by
  have written : m.lines workerId c =
      "# HELP ".toList ++ m.name.toList ++ [' '] ++ m.help.toList ++ ['\n'] ++
        "# TYPE ".toList ++ m.name.toList ++ [' '] ++ m.kind.label.toList ++ ['\n'] ++
        m.sample workerId c := rfl
  have behind : "\"\x7d ".toList = ['"', '\x7d', ' '] := by decide
  rw [written]
  simp only [sample, endLines, group, wordLine, sampleLine, tail, behind, List.flatMap_cons,
    List.flatMap_nil, List.append_assoc, List.cons_append, List.nil_append, List.append_nil]

theorem readLabel?_tail (m : Metric) (workerId : String) (c : Counters) :
    readLabel? (m.tail workerId c) =
      some (workerId.toList, '\x7d' :: ' ' :: Nat.toDigits 10 (m.value c)) := by
  rw [tail, readLabel?_escapeLabel]

/-- What a sample line says is not said by any other. -/
theorem sampleLine_injective {m : Metric} {workerId workerId' : String} {c c' : Counters}
    (h : m.sampleLine workerId c = m.sampleLine workerId' c') :
    workerId = workerId' ∧ m.value c = m.value c' := by
  rw [sampleLine, sampleLine] at h
  have tails : m.tail workerId c = m.tail workerId' c' := List.append_cancel_left h
  have read := m.readLabel?_tail workerId c
  rw [tails, m.readLabel?_tail workerId' c'] at read
  simp only [Option.some.injEq, Prod.mk.injEq, List.cons.injEq, true_and] at read
  obtain ⟨label, digits⟩ := read
  refine ⟨String.toList_injective label.symm, ?_⟩
  calc
    m.value c = Nat.ofDigitChars 10 (Nat.toDigits 10 (m.value c)) 0 :=
      Nat.ofDigitChars_ten_toDigits.symm
    _ = Nat.ofDigitChars 10 (Nat.toDigits 10 (m.value c')) 0 := by rw [digits]
    _ = m.value c' := Nat.ofDigitChars_ten_toDigits

/-- The lines of a metric: help, kind and one sample, in which the label ends at its closing quote, is
read back as the worker id and has nothing but the value behind it. -/
def Tells (workerId name kind : String) (value : Nat) (lines : List (List Char)) : Prop :=
  ∃ help tail,
    lines = [
      wordLine "# HELP " name help, wordLine "# TYPE " name kind,
      name.toList ++ "\x7bworker=\"".toList ++ tail] ∧
    readLabel? tail = some (workerId.toList, "\x7d ".toList ++ Nat.toDigits 10 value)

theorem tells_group (m : Metric) (workerId : String) (c : Counters) :
    Tells workerId m.name m.kind.label (m.value c) (m.group workerId c) :=
  ⟨m.help, m.tail workerId c, rfl, m.readLabel?_tail workerId c⟩

/-- No text of the page itself breaks a line. -/
theorem lineFeed_notMem_texts : ∀ m ∈ metrics,
    '\n' ∉ m.name.toList ∧ '\n' ∉ m.help.toList ∧ '\n' ∉ m.kind.label.toList := by
  decide +kernel

theorem lineFeed_notMem_wordLine {word name text : String} (hword : '\n' ∉ word.toList)
    (hname : '\n' ∉ name.toList) (htext : '\n' ∉ text.toList) : '\n' ∉ wordLine word name text := by
  simp [wordLine, hword, hname, htext]

theorem lineFeed_notMem_toDigits (n : Nat) : '\n' ∉ Nat.toDigits 10 n := by
  intro hmem
  exact absurd (isDigit_toDigits n _ hmem) (by decide)

theorem lineFeed_notMem_group (m : Metric) (hm : m ∈ metrics) (workerId : String) (c : Counters) :
    ∀ line ∈ m.group workerId c, '\n' ∉ line := by
  obtain ⟨name, help, kind⟩ := lineFeed_notMem_texts m hm
  have label := lineFeed_notMem_escapeLabel workerId.toList
  have digits := lineFeed_notMem_toDigits (m.value c)
  intro line hline
  simp only [group, List.mem_cons, List.not_mem_nil, or_false] at hline
  obtain rfl | rfl | rfl := hline
  · exact lineFeed_notMem_wordLine (by decide) name help
  · exact lineFeed_notMem_wordLine (by decide) name kind
  · rw [sampleLine, List.mem_append, List.mem_append, not_or, not_or]
    refine ⟨⟨name, by decide⟩, ?_⟩
    simp [tail, label, digits]

end Metric

/-! ## The page -/

/-- The lines of a page, those of each metric together. -/
def pageGroups (workerId : String) (c : Counters) : List (List (List Char)) :=
  metrics.map fun m => m.group workerId c

theorem toList_exposition (workerId : String) (c : Counters) :
    (exposition workerId c).toList = endLines (pageGroups workerId c).flatten := by
  rw [exposition, String.toList_ofList]
  have each (ms : List Metric) : (ms.flatMap fun m => m.lines workerId c) =
      endLines (ms.map fun m => m.group workerId c).flatten := by
    induction ms with
    | nil => rfl
    | cons m ms ih =>
      rw [List.flatMap_cons, ih, m.lines_eq, List.map_cons, List.flatten_cons, endLines_append]
  exact each metrics

theorem lineFeed_notMem_page (workerId : String) (c : Counters) :
    ∀ line ∈ (pageGroups workerId c).flatten, '\n' ∉ line := by
  intro line hline
  obtain ⟨group, hgroup, hline⟩ := List.mem_flatten.1 hline
  obtain ⟨m, hm, rfl⟩ := List.mem_map.1 hgroup
  exact m.lineFeed_notMem_group hm workerId c line hline

/-- Pages with the same lines have the same samples, for each metric takes three lines. -/
theorem sampleLine_of_pages {workerId workerId' : String} {c c' : Counters}
    (h : (pageGroups workerId c).flatten = (pageGroups workerId' c').flatten) :
    ∀ m ∈ metrics, m.sampleLine workerId c = m.sampleLine workerId' c' := by
  have each (ms : List Metric) (h : (ms.map fun m => m.group workerId c).flatten =
      (ms.map fun m => m.group workerId' c').flatten) :
      ∀ m ∈ ms, m.sampleLine workerId c = m.sampleLine workerId' c' := by
    induction ms with
    | nil => simp
    | cons m ms ih =>
      simp only [List.map_cons, List.flatten_cons, Metric.group, List.cons_append, List.nil_append,
        List.cons.injEq, true_and] at h
      obtain ⟨first, rest⟩ := h
      exact List.forall_mem_cons.2 ⟨first, ih rest⟩
  exact each metrics h

theorem counters_eq_of_values {c c' : Counters} (h : ∀ m ∈ metrics, m.value c = m.value c') :
    c = c' := by
  obtain ⟨⟩ := c
  obtain ⟨⟩ := c'
  simpa [metrics] using h

/-- A page has 21 lines, three for each metric, with the worker id and the right counter on them; so it
belongs to no other worker id and no other counters. -/
theorem exposition_loses_nothing (workerId : String) (c : Counters) :
    (∃ groups : List (List (List Char)),
      (exposition workerId c).toList = groups.flatten.flatMap (· ++ ['\n']) ∧
      groups.flatten.length = 21 ∧ (∀ line ∈ groups.flatten, '\n' ∉ line) ∧
      List.Forall₂ (fun shown lines => Metric.Tells workerId shown.1 shown.2.1 shown.2.2 lines) [
        ("worker_registration_attempts_total", "counter", c.registrationAttempts),
        ("worker_registrations_total", "counter", c.registrations),
        ("worker_leader_redirects_total", "counter", c.redirects),
        ("worker_heartbeats_ok_total", "counter", c.heartbeatsOk),
        ("worker_heartbeats_rejected_total", "counter", c.heartbeatsRejected),
        ("worker_heartbeats_failed_total", "counter", c.heartbeatsFailed),
        ("worker_last_heartbeat_epoch_seconds", "gauge", c.lastHeartbeatEpoch)] groups) ∧
    ∀ workerId' c', exposition workerId c = exposition workerId' c' →
      workerId = workerId' ∧ c = c' := by
  constructor
  · refine ⟨pageGroups workerId c, toList_exposition workerId c, rfl, lineFeed_notMem_page workerId c,
      ?_⟩
    let shown (m : Metric) := (m.name, m.kind.label, m.value c)
    change List.Forall₂ _ (metrics.map shown) _
    rw [List.forall₂_map_left_iff, pageGroups, List.forall₂_map_right_iff, List.forall₂_same]
    exact fun m _ => m.tells_group workerId c
  · intro workerId' c' same
    have lines : (pageGroups workerId c).flatten = (pageGroups workerId' c').flatten := by
      apply endLines_injective (lineFeed_notMem_page workerId c) (lineFeed_notMem_page workerId' c')
      rw [← toList_exposition, ← toList_exposition, same]
    have samples := sampleLine_of_pages lines
    refine ⟨?_, counters_eq_of_values fun m hm => (Metric.sampleLine_injective (samples m hm)).2⟩
    exact (Metric.sampleLine_injective (samples _ List.mem_cons_self)).1

end ClusterMember
