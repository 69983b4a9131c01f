import ClusterMember.Uri
import ClusterMember.Proofs.Lists
import Mathlib.Data.List.TakeWhile

/-! # The address that is dialled for an endpoint

Plain HTTP is put in front of an endpoint unless a scheme mark stands in it, wherever that is. Where
the mark belongs to a scheme in front of all else, or is nowhere, the address begins with a scheme.
An endpoint whose path or query holds a mark is dialled as it stands, without a scheme.

* `hasSchemeMark_iff`, `beginsWithScheme_iff`: what the two tests look for.
* `scheme_is_added_unless_marked`: which address is dialled, and whether it begins with a scheme.
* `mark_in_query_hides_missing_scheme`: an endpoint that cannot be dialled for lack of a scheme.
-/

namespace ClusterMember.Endpoint
set_option autoImplicit false

/-! ## The two tests -/

theorem hasSchemeMark_iff {text : List Char} :
    hasSchemeMark text = true ↔ "://".toList <:+: text := by
  induction text with
  | nil => simp [hasSchemeMark]
  | cons c rest ih =>
    rw [hasSchemeMark, Bool.or_eq_true, ih, List.isPrefixOf_iff_prefix, List.infix_cons_iff]

/-- A character that may follow the first letter of a scheme. -/
def isSchemeLetter (c : Char) : Bool := c.isAlphanum || "+-.".toList.contains c

theorem beginsWithScheme_iff {text : List Char} :
    beginsWithScheme text = true ↔ ∃ first name rest,
      text = first :: (name ++ ("://".toList ++ rest)) ∧ first.isAlpha = true ∧
        ∀ c ∈ name, isSchemeLetter c = true := by
  cases text with
  | nil => simp [beginsWithScheme]
  | cons c tail =>
    rw [beginsWithScheme, Bool.and_eq_true, List.isPrefixOf_iff_prefix]
    constructor
    · rintro ⟨letter, rest, mark⟩
      refine ⟨c, tail.takeWhile isSchemeLetter, rest, ?_, letter, ?_⟩
      · rw [mark]
        exact congrArg _ List.takeWhile_append_dropWhile.symm
      · exact fun d hd => List.mem_takeWhile_imp hd
    · rintro ⟨first, name, rest, split, letter, name_letters⟩
      obtain ⟨rfl, rfl⟩ := List.cons.inj split
      refine ⟨letter, rest, ?_⟩
      have colon : ∀ c ∈ ("://".toList ++ rest).head?, isSchemeLetter c = false := by
        simp [isSchemeLetter]
      exact (takeWhile_append_stop name_letters colon).2.symm

theorem hasSchemeMark_of_beginsWithScheme {text : List Char} (h : beginsWithScheme text = true) :
    hasSchemeMark text = true := by
  obtain ⟨first, name, rest, rfl, _, _⟩ := beginsWithScheme_iff.1 h
  exact hasSchemeMark_iff.2 ⟨first :: name, rest, by simp⟩

theorem beginsWithScheme_http (text : List Char) :
    beginsWithScheme ("http://".toList ++ text) = true :=
  beginsWithScheme_iff.2 ⟨'h', "ttp".toList, text, rfl, by decide, by simp [isSchemeLetter]⟩

/-! ## The address -/

theorem uri_of_mark {endpoint : String} (h : hasSchemeMark endpoint.toList = true) :
    uri endpoint = endpoint := if_pos h

theorem uri_of_no_mark {endpoint : String} (h : ¬ hasSchemeMark endpoint.toList = true) :
    uri endpoint = "http://" ++ endpoint := if_neg h

theorem hasSchemeMark_uri (endpoint : String) : hasSchemeMark (uri endpoint).toList = true := by
  by_cases h : hasSchemeMark endpoint.toList = true
  · rw [uri_of_mark h]
    exact h
  · rw [uri_of_no_mark h, String.toList_append]
    exact hasSchemeMark_of_beginsWithScheme (beginsWithScheme_http _)

theorem http_append_ne (endpoint : String) : "http://" ++ endpoint ≠ endpoint := by
  intro same
  have h := congrArg String.length same
  rw [String.length_append] at h
  have seven : "http://".length = 7 := rfl
  omega

/-- An endpoint is dialled as it stands exactly if a scheme mark stands anywhere in it, and else
over plain HTTP. Its address begins with a scheme unless the endpoint holds a mark and has no scheme
in front. An address is its own address. -/
theorem scheme_is_added_unless_marked (endpoint : String) :
    (uri endpoint = endpoint ↔ "://".toList <:+: endpoint.toList) ∧
    (¬ "://".toList <:+: endpoint.toList → uri endpoint = "http://" ++ endpoint) ∧
    (beginsWithScheme endpoint.toList = true → uri endpoint = endpoint) ∧
    (beginsWithScheme (uri endpoint).toList = true ↔
      beginsWithScheme endpoint.toList = true ∨ ¬ "://".toList <:+: endpoint.toList) ∧
    uri (uri endpoint) = uri endpoint := by
  rw [← hasSchemeMark_iff]
  refine ⟨⟨fun same => ?_, uri_of_mark⟩, uri_of_no_mark,
    fun h => uri_of_mark (hasSchemeMark_of_beginsWithScheme h), ⟨fun h => ?_, ?_⟩,
    uri_of_mark (hasSchemeMark_uri endpoint)⟩
  · refine Decidable.by_contra fun none => ?_
    exact http_append_ne endpoint ((uri_of_no_mark none).symm.trans same)
  · by_cases mark : hasSchemeMark endpoint.toList = true
    · rw [uri_of_mark mark] at h
      exact .inl h
    · exact .inr mark
  · rintro (h | none)
    · rw [uri_of_mark (hasSchemeMark_of_beginsWithScheme h)]
      exact h
    · rw [uri_of_no_mark none, String.toList_append]
      exact beginsWithScheme_http _

/-- The mark in the query hides that there is no scheme. The endpoint is no address as it stands,
and would be one over plain HTTP. -/
theorem mark_in_query_hides_missing_scheme :
    let endpoint := "cp-1:50051/?next=http://cp-2"
    beginsWithScheme endpoint.toList = false ∧ uri endpoint = endpoint ∧
      beginsWithScheme (uri endpoint).toList = false ∧ Uri.parse? (uri endpoint) = none ∧
      (Uri.parse? ("http://" ++ endpoint)).isSome = true := by
  decide +kernel

end ClusterMember.Endpoint
