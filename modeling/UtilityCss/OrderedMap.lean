/-!
# Maps in order of insertion

An ordered map lists its entries in the order in which their keys were first
inserted.  Inserting a key again keeps its place and replaces its value.
-/

namespace UtilityCss

structure OrderedMap (κ : Type u) (ν : Type v) where
  entries : List (κ × ν)
deriving DecidableEq, Repr, Inhabited

namespace OrderedMap

variable {κ : Type u} {ν : Type v} [BEq κ]

def empty : OrderedMap κ ν := ⟨[]⟩

/-- Replaces the value of the first entry with the key, or adds an entry at
the end. -/
def insertEntry (key : κ) (value : ν) : List (κ × ν) → List (κ × ν)
  | [] => [(key, value)]
  | (otherKey, otherValue) :: others =>
      if otherKey == key then
        (otherKey, value) :: others
      else
        (otherKey, otherValue) :: insertEntry key value others

def insert (map : OrderedMap κ ν) (key : κ) (value : ν) : OrderedMap κ ν :=
  ⟨insertEntry key value map.entries⟩

def find? (map : OrderedMap κ ν) (key : κ) : Option ν :=
  (map.entries.find? fun entry => entry.1 == key).map Prod.snd

def contains (map : OrderedMap κ ν) (key : κ) : Bool :=
  map.entries.any fun entry => entry.1 == key

/-- Inserts the entries of a list from left to right. -/
def insertAll (map : OrderedMap κ ν) (entries : List (κ × ν)) : OrderedMap κ ν :=
  entries.foldl (fun current entry => current.insert entry.1 entry.2) map

def ofList (entries : List (κ × ν)) : OrderedMap κ ν :=
  empty.insertAll entries

/-- The left map updated with all entries of the right one. -/
def update (left right : OrderedMap κ ν) : OrderedMap κ ν :=
  left.insertAll right.entries

omit [BEq κ] in
def keys (map : OrderedMap κ ν) : List κ :=
  map.entries.map Prod.fst

omit [BEq κ] in
def size (map : OrderedMap κ ν) : Nat :=
  map.entries.length

/-! ## Keys stay distinct -/

/-- No key stands in two entries. -/
def Distinct (map : OrderedMap κ ν) : Prop :=
  map.keys.Pairwise fun earlier later => (earlier == later) = false

instance (map : OrderedMap κ ν) : Decidable map.Distinct :=
  inferInstanceAs (Decidable (List.Pairwise _ _))

/-- An entry after an insertion has the new value, or was there before. -/
theorem mem_insertEntry {key : κ} {value : ν} {entries : List (κ × ν)}
    {entry : κ × ν} (member : entry ∈ insertEntry key value entries) :
    entry.2 = value ∨ entry ∈ entries := by
  induction entries with
  | nil =>
      rw [insertEntry, List.mem_singleton] at member
      exact Or.inl (congrArg Prod.snd member)
  | cons head others inductionHypothesis =>
      rw [insertEntry] at member
      split at member
      · rcases List.mem_cons.mp member with rfl | later
        · exact Or.inl rfl
        · exact Or.inr (List.mem_cons_of_mem head later)
      · rcases List.mem_cons.mp member with rfl | later
        · exact Or.inr List.mem_cons_self
        · rcases inductionHypothesis later with new | old
          · exact Or.inl new
          · exact Or.inr (List.mem_cons_of_mem head old)

/-- A key after an insertion is the new one, or was there before. -/
theorem mem_keys_insertEntry {key : κ} {value : ν} {entries : List (κ × ν)}
    {other : κ} (member : other ∈ (insertEntry key value entries).map Prod.fst) :
    other = key ∨ other ∈ entries.map Prod.fst := by
  induction entries with
  | nil => exact Or.inl (List.mem_singleton.mp member)
  | cons head others inductionHypothesis =>
      rw [insertEntry] at member
      split at member
      · exact Or.inr member
      · rcases List.mem_cons.mp member with rfl | later
        · exact Or.inr List.mem_cons_self
        · rcases inductionHypothesis later with new | old
          · exact Or.inl new
          · exact Or.inr (List.mem_cons_of_mem head.1 old)

theorem Distinct.insert {map : OrderedMap κ ν} (distinct : map.Distinct)
    (key : κ) (value : ν) : (map.insert key value).Distinct := by
  obtain ⟨entries⟩ := map
  rw [Distinct, keys, OrderedMap.insert]
  rw [Distinct, keys] at distinct
  induction entries with
  | nil => exact List.pairwise_singleton _ _
  | cons head others inductionHypothesis =>
      obtain ⟨apart, distinctOthers⟩ := List.pairwise_cons.mp distinct
      rw [insertEntry]
      split
      · exact distinct
      · rename_i different
        refine List.pairwise_cons.mpr
          ⟨fun other member => ?_, inductionHypothesis distinctOthers⟩
        rcases mem_keys_insertEntry member with rfl | old
        · simpa using different
        · exact apart other old

theorem Distinct.insertAll {map : OrderedMap κ ν} (distinct : map.Distinct)
    (entries : List (κ × ν)) : (map.insertAll entries).Distinct := by
  induction entries generalizing map with
  | nil => exact distinct
  | cons entry others inductionHypothesis =>
      exact inductionHypothesis (distinct.insert entry.1 entry.2)

theorem distinct_ofList (entries : List (κ × ν)) :
    (ofList entries).Distinct := by
  have nothing : (empty : OrderedMap κ ν).Distinct := List.Pairwise.nil
  exact nothing.insertAll entries

theorem exists_of_mem_insertAll {map : OrderedMap κ ν}
    {entries : List (κ × ν)} {entry : κ × ν}
    (member : entry ∈ (map.insertAll entries).entries) :
    entry ∈ map.entries ∨ ∃ source ∈ entries, source.2 = entry.2 := by
  induction entries generalizing map with
  | nil => exact Or.inl member
  | cons first others inductionHypothesis =>
      rw [insertAll, List.foldl_cons] at member
      rcases inductionHypothesis member with
        inserted | ⟨source, listed, same⟩
      · rcases mem_insertEntry inserted with new | old
        · exact Or.inr ⟨first, List.mem_cons_self, new.symm⟩
        · exact Or.inl old
      · exact Or.inr ⟨source, List.mem_cons_of_mem first listed, same⟩

/-- Every value of a map made from a list stands in the list. -/
theorem exists_of_mem_ofList {entries : List (κ × ν)} {entry : κ × ν}
    (member : entry ∈ (ofList entries).entries) :
    ∃ source ∈ entries, source.2 = entry.2 := by
  rcases exists_of_mem_insertAll member with nowhere | listed
  · cases nowhere
  · exact listed

end OrderedMap

end UtilityCss
