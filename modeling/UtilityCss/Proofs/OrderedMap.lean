import UtilityCss.OrderedMap

/-!
# Looking up keys in ordered maps

What is found under a key after insertions and updates.  The last value that was
inserted counts, and an update goes before what it updates.  Keys need not be
equal to be the same: it is enough that sameness of keys is symmetric and
transitive.
-/

namespace UtilityCss.OrderedMap

variable {κ : Type u} {ν : Type v} [BEq κ] [PartialEquivBEq κ]

omit [PartialEquivBEq κ] in
theorem find?_cons (entry : κ × ν) (others : List (κ × ν)) (key : κ) :
    (⟨entry :: others⟩ : OrderedMap κ ν).find? key =
      if entry.1 == key then some entry.2
      else (⟨others⟩ : OrderedMap κ ν).find? key := by
  rw [find?, List.find?_cons]
  cases entry.1 == key with
  | true => rfl
  | false => rfl

theorem find?_insert (map : OrderedMap κ ν) (key : κ) (value : ν)
    (wanted : κ) :
    (map.insert key value).find? wanted =
      if key == wanted then some value else map.find? wanted := by
  obtain ⟨entries⟩ := map
  rw [OrderedMap.insert]
  induction entries with
  | nil => rw [insertEntry, find?_cons]
  | cons head others inductionHypothesis =>
      rw [insertEntry]
      by_cases same : head.1 == key
      · rw [if_pos same, find?_cons, find?_cons, BEq.congr_left same]
        split
        · rfl
        · rfl
      · rw [if_neg same, find?_cons, find?_cons, inductionHypothesis]
        by_cases found : head.1 == wanted
        · have different : ¬ (key == wanted) = true := fun equal =>
            same (PartialEquivBEq.trans found (PartialEquivBEq.symm equal))
          rw [if_pos found, if_pos found, if_neg different]
        · rw [if_neg found, if_neg found]

omit [PartialEquivBEq κ] in
/-- Nothing is found under a key that differs from all keys of a map. -/
theorem find?_eq_none_of_forall_ne {map : OrderedMap κ ν} {key : κ}
    (absent : ∀ other ∈ map.keys, ¬ (other == key) = true) :
    map.find? key = none := by
  rw [find?, Option.map_eq_none_iff, List.find?_eq_none]
  intro entry member
  exact absent entry.1 (List.mem_map_of_mem member)

/-- The key of the first entry of a map is not found behind it. -/
theorem Distinct.find?_eq_none_of_first {entry : κ × ν}
    {others : List (κ × ν)} {key : κ}
    (distinct : (⟨entry :: others⟩ : OrderedMap κ ν).Distinct)
    (same : (entry.1 == key) = true) :
    (⟨others⟩ : OrderedMap κ ν).find? key = none := by
  obtain ⟨apart, _⟩ := List.pairwise_cons.mp distinct
  refine find?_eq_none_of_forall_ne fun other member equal => ?_
  have equal' := PartialEquivBEq.trans same (PartialEquivBEq.symm equal)
  exact Bool.false_ne_true ((apart other member).symm.trans equal')

omit [PartialEquivBEq κ] in
theorem Distinct.of_cons [LawfulBEq κ] {entry : κ × ν}
    {others : List (κ × ν)}
    (distinct : (⟨entry :: others⟩ : OrderedMap κ ν).Distinct) :
    entry.1 ∉ (⟨others⟩ : OrderedMap κ ν).keys ∧
      (⟨others⟩ : OrderedMap κ ν).Distinct := by
  obtain ⟨apart, rest⟩ := List.pairwise_cons.mp distinct
  refine ⟨fun member => ?_, rest⟩
  have different := apart _ member
  rw [beq_self_eq_true] at different
  cases different

/-- An update goes before what it updates. -/
theorem find?_update (left right : OrderedMap κ ν) (distinct : right.Distinct)
    (key : κ) :
    (left.update right).find? key = (right.find? key).or (left.find? key) := by
  obtain ⟨entries⟩ := right
  rw [update, insertAll]
  induction entries generalizing left with
  | nil => rfl
  | cons entry others inductionHypothesis =>
      have rest := (List.pairwise_cons.mp distinct).2
      rw [List.foldl_cons, inductionHypothesis _ rest, find?_insert,
        find?_cons]
      by_cases same : entry.1 == key
      · have absent := distinct.find?_eq_none_of_first same
        rw [if_pos same, if_pos same, absent]
        rfl
      · rw [if_neg same, if_neg same]

omit [PartialEquivBEq κ] in
theorem find?_empty (key : κ) : (empty : OrderedMap κ ν).find? key = none :=
  rfl

theorem find?_ofList {entries : List (κ × ν)}
    (distinct : (⟨entries⟩ : OrderedMap κ ν).Distinct) (key : κ) :
    (ofList entries).find? key = (⟨entries⟩ : OrderedMap κ ν).find? key := by
  have update : ofList entries = (empty : OrderedMap κ ν).update ⟨entries⟩ := rfl
  rw [update, find?_update _ _ distinct, find?_empty, Option.or_none]

omit [PartialEquivBEq κ] in
theorem Distinct.filter {entries : List (κ × ν)}
    (distinct : (⟨entries⟩ : OrderedMap κ ν).Distinct)
    (test : κ × ν → Bool) :
    (⟨entries.filter test⟩ : OrderedMap κ ν).Distinct :=
  List.Pairwise.sublist (List.filter_sublist.map Prod.fst) distinct

/-- A map without the entries whose values fail a test. -/
theorem find?_filter {entries : List (κ × ν)}
    (distinct : (⟨entries⟩ : OrderedMap κ ν).Distinct) (test : ν → Bool)
    (key : κ) :
    (⟨entries.filter fun entry => test entry.2⟩ : OrderedMap κ ν).find? key =
      ((⟨entries⟩ : OrderedMap κ ν).find? key).filter test := by
  induction entries with
  | nil => rfl
  | cons entry others inductionHypothesis =>
      have rest := (List.pairwise_cons.mp distinct).2
      have later := inductionHypothesis rest
      rw [List.filter_cons, find?_cons]
      by_cases same : entry.1 == key
      · have absent := distinct.find?_eq_none_of_first same
        by_cases passes : test entry.2
        · simp [passes, find?_cons, same, Option.filter]
        · simp [passes, same, later, absent, Option.filter]
      · by_cases passes : test entry.2
        · simp [passes, find?_cons, same, later]
        · simp [passes, same, later]

end UtilityCss.OrderedMap
