import UtilityCss.OrderedMap
import UtilityCss.Yaml

/-!
# Mappings hold each key once

A text may give a key of a mapping several times, and merging brings in more of
them.  The value that is loaded has the key once, whatever else the text does:
a draft only ever fills its maps by insertion, and all that follows keeps the
keys.  So loading is what the program relies on in a reader.
-/

namespace UtilityCss

/-- The keys of a collection in a knot are distinct if it is a map. -/
def Part.Distinct : Part → Prop
  | Part.map entries => (⟨entries⟩ : OrderedMap Atom Link).Distinct
  | _ => True

namespace Yaml

/-- Every map among the parts of a draft has distinct keys. -/
def Draft.Distinct (draft : Draft) : Prop :=
  ∀ part ∈ draft.parts, part.Distinct

/-- A step of making values keeps the keys of maps distinct and has a result of
the given kind, if it has any. -/
def Yields (step : Making α) (kind : α → Prop) : Prop :=
  ∀ draft result later, draft.Distinct →
    step draft = Except.ok (result, later) → later.Distinct ∧ kind result

/-- A step of making values keeps the keys of maps distinct. -/
abbrev Keeps (step : Making α) : Prop :=
  Yields step fun _ => True

/-! ## Steps put together -/

section Steps

variable {step : Making α} {next : α → Making β} {kind : α → Prop}
  {kind' : β → Prop}

theorem Yields.keeps (yields : Yields step kind) : Keeps step :=
  fun draft result later distinct made =>
    ⟨(yields draft result later distinct made).1, trivial⟩

theorem yields_pure {result : α} (fits : kind result) :
    Yields (pure result) kind := by
  intro draft result' later distinct made
  obtain ⟨rfl, rfl⟩ := Prod.mk.inj (Except.ok.inj made)
  exact ⟨distinct, fits⟩

theorem keeps_pure (result : α) : Keeps (pure result : Making α) :=
  yields_pure trivial

theorem yields_throw (problem : Problem) : Yields (throw problem) kind := by
  intro draft result later distinct made
  cases made

theorem keeps_reject (reason : String) : Keeps (reject reason : Making α) :=
  yields_throw _

theorem Yields.bind (yields : Yields step kind)
    (continues : ∀ result, kind result → Yields (next result) kind') :
    Yields (step >>= next) kind' := by
  intro draft result later distinct made
  have unfolded : (step >>= next) draft =
      (step draft >>= fun made => next made.1 made.2) := rfl
  rw [unfolded] at made
  cases first : step draft with
  | error problem =>
      rw [first] at made
      cases made
  | ok middle =>
      rw [first] at made
      obtain ⟨kept, fits⟩ := yields draft middle.1 middle.2 distinct first
      exact continues middle.1 fits middle.2 result later kept made

theorem yields_get : Yields (get : Making Draft) Draft.Distinct := by
  intro draft result later distinct made
  obtain ⟨rfl, rfl⟩ := Prod.mk.inj (Except.ok.inj made)
  exact ⟨distinct, distinct⟩

theorem keeps_get : Keeps (get : Making Draft) :=
  yields_get.keeps

theorem keeps_modify {change : Draft → Draft}
    (kept : ∀ draft : Draft, draft.Distinct → (change draft).Distinct) :
    Keeps (modify change : Making Unit) := by
  intro draft result later distinct made
  obtain ⟨rfl, rfl⟩ := Prod.mk.inj (Except.ok.inj made)
  exact ⟨kept draft distinct, trivial⟩

theorem keeps_mapM {items : List γ} {each : γ → Making α}
    (keeps : ∀ item, Keeps (each item)) : Keeps (items.mapM each) := by
  induction items with
  | nil => exact keeps_pure _
  | cons item items inductionHypothesis =>
      rw [List.mapM_cons]
      refine (keeps item).bind fun result _ => ?_
      exact inductionHypothesis.bind fun results _ => keeps_pure _

/-- A loop keeps what each of its rounds keeps. -/
theorem yields_forIn {items : List γ} {start : α}
    {round : γ → α → Making (ForInStep α)} (begins : kind start)
    (continues : ∀ item current, kind current →
      Yields (round item current) fun outcome =>
        ∃ result, outcome = ForInStep.yield result ∧ kind result) :
    Yields (forIn items start round) kind := by
  induction items generalizing start with
  | nil => exact yields_pure begins
  | cons item items inductionHypothesis =>
      rw [List.forIn_cons]
      refine (continues item start begins).bind ?_
      rintro _ ⟨result, rfl, fits⟩
      exact inductionHypothesis fits

theorem keeps_forIn {items : List γ} {start : α}
    {round : γ → α → Making (ForInStep α)}
    (continues : ∀ item current, Yields (round item current) fun outcome =>
      ∃ result, outcome = ForInStep.yield result) :
    Keeps (forIn items start round) := by
  refine yields_forIn trivial fun item current _ => ?_
  simpa using continues item current

theorem keeps_findM? {items : List γ} {test : γ → Making Bool}
    (keeps : ∀ item, Keeps (test item)) : Keeps (items.findM? test) := by
  induction items with
  | nil => exact keeps_pure _
  | cons item items inductionHypothesis =>
      refine (keeps item).bind fun found _ => ?_
      cases found with
      | true => exact keeps_pure _
      | false => exact inductionHypothesis

theorem keeps_lift (outcome : Except Problem α) :
    Keeps (liftM outcome : Making α) := by
  cases outcome with
  | error problem =>
      intro draft result later distinct made
      cases made
  | ok result => exact keeps_pure _

theorem Yields.map {change : α → β} (yields : Yields step kind)
    (fits : ∀ result, kind result → kind' (change result)) :
    Yields (change <$> step) kind' := by
  rw [map_eq_pure_bind]
  exact yields.bind fun result given => yields_pure (fits result given)

end Steps

/-! ## Steps on nodes -/

theorem keeps_nodeAt (place : Nat) : Keeps (nodeAt place) :=
  keeps_get.bind fun _ _ => keeps_pure _

theorem keeps_putNode (place : Nat) (node : Node) : Keeps (putNode place node) :=
  keeps_modify fun _ distinct => distinct

theorem keeps_hasTag (tag : Tag) (place : Nat) : Keeps (hasTag tag place) :=
  (keeps_nodeAt place).bind fun _ _ => keeps_pure _

theorem keeps_entriesAt (place : Nat) : Keeps (entriesAt place) := by
  refine (keeps_nodeAt place).bind fun node _ => ?_
  cases node <;> exact keeps_pure _

theorem keeps_putEntries (place : Nat) (entries : List (Nat × Nat)) :
    Keeps (putEntries place entries) := by
  refine (keeps_nodeAt place).bind fun node _ => ?_
  cases node with
  | mapping tag _ => exact keeps_putNode place _
  | _ => exact keeps_pure _

theorem keeps_splitAtMerge (entries : List (Nat × Nat)) :
    Keeps (splitAtMerge entries) := by
  induction entries with
  | nil => exact keeps_pure _
  | cons entry entries inductionHypothesis =>
      refine (keeps_hasTag _ _).bind fun found _ => ?_
      cases found with
      | true => exact keeps_pure _
      | false =>
          refine inductionHypothesis.bind fun split _ => ?_
          cases split <;> exact keeps_pure _

theorem keeps_settleKeys (entries : List (Nat × Nat)) :
    Keeps (settleKeys entries) := by
  rw [settleKeys]
  refine Yields.bind (keeps_forIn fun entry current => ?_) fun _ _ => keeps_pure _
  refine (keeps_hasTag _ _).bind fun found _ => ?_
  cases found with
  | true =>
      refine (keeps_nodeAt entry.1).bind fun node _ => ?_
      refine (keeps_putNode entry.1 _).bind fun _ _ => ?_
      exact yields_pure ⟨_, rfl⟩
  | false => exact yields_pure ⟨_, rfl⟩

theorem keeps_mergeInto (merged : List (Nat × Nat)) (place fuel : Nat) :
    Keeps (mergeInto merged place fuel) := by
  induction fuel generalizing merged place with
  | zero => exact yields_throw _
  | succ fuel inductionHypothesis =>
      refine (keeps_entriesAt place).bind fun entries _ => ?_
      refine (keeps_splitAtMerge entries).bind fun split _ => ?_
      cases split with
      | none =>
          refine (keeps_settleKeys entries).bind fun _ _ => ?_
          cases merged.isEmpty with
          | true => exact keeps_pure _
          | false => exact keeps_putEntries place _
      | some split =>
          obtain ⟨before, value, behind⟩ := split
          refine (keeps_putEntries place _).bind fun _ _ => ?_
          refine (keeps_nodeAt value).bind fun node _ => ?_
          have rest : ∀ others : List (Nat × Nat),
              Keeps (mergeInto (merged ++ others) place fuel) :=
            fun others => inductionHypothesis _ _
          have collected : ∀ other, Keeps (do
              mergeInto [] other fuel
              entriesAt other) :=
            fun other =>
              (inductionHypothesis [] other).bind fun _ _ =>
                keeps_entriesAt other
          cases node with
          | scalar _ _ => exact (keeps_reject _).bind fun others _ => rest others
          | mapping _ _ =>
              exact (inductionHypothesis [] value).bind fun _ _ =>
                (keeps_entriesAt value).bind fun others _ => rest others
          | sequence _ items =>
              refine Yields.bind (keeps_mapM fun item => ?_) fun lists _ =>
                (keeps_pure _).bind fun others _ => rest others
              refine (keeps_nodeAt item).bind fun node _ => ?_
              cases node with
              | mapping _ _ => exact collected item
              | _ => exact yields_throw _

theorem keeps_flatEntries (place : Nat) : Keeps (flatEntries place) := by
  refine keeps_get.bind fun draft _ => ?_
  refine (keeps_mergeInto [] place _).bind fun _ _ => ?_
  exact keeps_entriesAt place

/-! ## Beginning and filling -/

theorem keeps_contentAt (place fuel : Nat) : Keeps (contentAt place fuel) := by
  induction fuel generalizing place with
  | zero => exact yields_throw _
  | succ fuel inductionHypothesis =>
      refine (keeps_nodeAt place).bind fun node _ => ?_
      cases node with
      | scalar _ content => exact keeps_pure _
      | sequence _ _ => exact yields_throw _
      | mapping _ entries =>
          refine (keeps_findM? fun entry => keeps_hasTag _ _).bind ?_
          intro found _
          cases found with
          | some entry => exact inductionHypothesis entry.2
          | none => exact yields_throw _

theorem keeps_atomAt (place : Nat) : Keeps (atomAt place) := by
  refine (keeps_nodeAt place).bind fun node _ => ?_
  split
  · exact yields_throw _
  · exact yields_throw _
  · exact yields_throw _
  · refine keeps_get.bind fun draft _ => ?_
    refine (keeps_contentAt place _).bind fun content _ => ?_
    split
    · exact yields_throw _
    · exact keeps_lift _

theorem distinct_of_emptyPart? {tag : Tag} {part : Part}
    (empty : emptyPart? tag = some part) : part.Distinct := by
  cases tag <;> cases empty
  all_goals first | exact trivial | exact List.Pairwise.nil

theorem keeps_linkAt (place : Nat) : Keeps (linkAt place) := by
  refine keeps_get.bind fun draft _ => ?_
  split
  · exact keeps_pure _
  · refine (keeps_nodeAt place).bind fun node _ => ?_
    have finish : ∀ link : Link, Keeps (do
        modify fun draft : Draft =>
          { draft with
            links := draft.links.setIfInBounds place (some link) }
        return link) := by
      intro link
      refine Yields.bind (keeps_modify fun _ distinct => distinct) ?_
      exact fun _ _ => keeps_pure _
    split
    · rename_i part empty
      refine keeps_get.bind fun draft _ => ?_
      refine Yields.bind (keeps_modify fun draft distinct => ?_) ?_
      · intro other member
        rcases Array.mem_push.mp member with old | rfl
        · exact distinct other old
        · exact distinct_of_emptyPart? empty
      · exact fun _ _ => (keeps_pure _).bind fun link _ => finish link
    · refine (keeps_atomAt place).bind fun content _ => ?_
      exact (keeps_pure _).bind fun link _ => finish link

/-- The entries of a map come from insertions alone. -/
theorem yields_mapEntries (place : Nat) :
    Yields (mapEntries place) OrderedMap.Distinct := by
  refine (keeps_nodeAt place).bind fun node _ => ?_
  split
  · refine (keeps_flatEntries place).bind fun entries _ => ?_
    refine Yields.bind (yields_forIn List.Pairwise.nil ?_)
      fun map distinct => yields_pure distinct
    intro entry map distinct
    refine (keeps_linkAt entry.1).bind fun key _ => ?_
    cases key with
    | atom key =>
        refine (keeps_linkAt entry.2).bind fun value _ => ?_
        exact yields_pure ⟨_, rfl, distinct.insert key value⟩
    | part _ =>
        exact (keeps_reject _).bind fun _ _ => yields_pure ⟨_, rfl, distinct⟩
  · exact yields_throw _

theorem keeps_itemsAt (place : Nat) : Keeps (itemsAt place) := by
  refine (keeps_nodeAt place).bind fun node _ => ?_
  split
  · exact keeps_pure _
  · exact yields_throw _

theorem keeps_pairAt (place : Nat) : Keeps (pairAt place) := by
  refine (keeps_nodeAt place).bind fun node _ => ?_
  split
  · refine (keeps_linkAt _).bind fun key _ => ?_
    exact (keeps_linkAt _).bind fun value _ => keeps_pure _
  · exact yields_throw _

theorem yields_filledPart (place : Nat) :
    Yields (filledPart place) Part.Distinct := by
  refine (keeps_nodeAt place).bind fun node _ => ?_
  split
  · refine (keeps_itemsAt place).bind fun items _ => ?_
    exact (keeps_mapM keeps_linkAt).map fun _ _ => trivial
  · exact (yields_mapEntries place).bind fun map distinct =>
      yields_pure distinct
  · exact (yields_mapEntries place).bind fun _ _ => yields_pure trivial
  · refine (keeps_itemsAt place).bind fun items _ => ?_
    exact (keeps_mapM keeps_pairAt).map fun _ _ => trivial

theorem keeps_fillFrom (index fuel : Nat) : Keeps (fillFrom index fuel) := by
  induction fuel generalizing index with
  | zero => exact keeps_pure _
  | succ fuel inductionHypothesis =>
      refine keeps_get.bind fun draft _ => ?_
      split
      · exact keeps_pure _
      · rename_i place partPlace _
        refine (yields_filledPart place).bind fun part new => ?_
        refine Yields.bind (keeps_modify fun draft distinct => ?_)
          fun _ _ => inductionHypothesis (index + 1)
        intro other member
        rcases Array.mem_or_eq_of_mem_setIfInBounds member with old | rfl
        · exact distinct other old
        · exact new

end Yaml

/-! ## Untying knots -/

namespace OrderedMap

/-- Only the keys of a map decide whether they are distinct. -/
theorem Distinct.of_keys_eq {κ : Type u} {ν ν' : Type v} [BEq κ]
    {map : OrderedMap κ ν} {map' : OrderedMap κ ν'} (distinct : map.Distinct)
    (same : map'.keys = map.keys) : map'.Distinct := by
  rw [Distinct, same]
  exact distinct

end OrderedMap

theorem keys_eq_of_mapM {read : Link → Option Value}
    {entries : List (Atom × Link)} {results : List (Atom × Value)}
    (whole : (entries.mapM fun (entry : Atom × Link) => do
      return (entry.1, ← read entry.2)) = some results) :
    results.map Prod.fst = entries.map Prod.fst := by
  induction entries generalizing results with
  | nil =>
      obtain rfl := Option.some.inj whole
      rfl
  | cons head tail inductionHypothesis =>
      rw [List.mapM_cons] at whole
      obtain ⟨first, made, whole⟩ := Option.bind_eq_some_iff.mp whole
      obtain ⟨others, madeOthers, whole⟩ := Option.bind_eq_some_iff.mp whole
      obtain ⟨value, _, made⟩ := Option.bind_eq_some_iff.mp made
      obtain rfl := Option.some.inj whole
      obtain rfl := Option.some.inj made
      rw [List.map_cons, List.map_cons, inductionHypothesis madeOthers]

namespace Value

theorem distinct_of_entries?_eq_none {value : Value}
    (noMap : value.entries? = none) : value.Distinct := by
  intro entries found
  rw [noMap] at found
  cases found

theorem distinct_map {entries : List (Atom × Value)}
    (distinct : (⟨entries⟩ : OrderedMap Atom Value).Distinct) :
    (map entries).Distinct := by
  intro found same
  obtain rfl := Option.some.inj same
  exact distinct

section Knots

variable {parts : Array Part}

theorem distinct_knot (sound : ∀ part ∈ parts, part.Distinct) (place : Nat) :
    (knot parts place).Distinct := by
  intro entries found
  rw [entries?] at found
  split at found
  · rename_i links here
    obtain rfl := Option.some.inj found
    have distinct : (Part.map links).Distinct :=
      sound _ (Array.mem_of_getElem? here)
    refine distinct.of_keys_eq ?_
    simp [OrderedMap.keys]
  · cases found

theorem distinct_partValue? {values : Array (Option Value)} {part : Part}
    {value : Value} (distinct : part.Distinct)
    (made : partValue? values part = some value) : value.Distinct := by
  cases part with
  | map entries =>
      obtain ⟨results, whole, rfl⟩ := Option.map_eq_some_iff.mp made
      exact distinct_map (distinct.of_keys_eq (keys_eq_of_mapM whole))
  | list items =>
      obtain ⟨results, _, rfl⟩ := Option.map_eq_some_iff.mp made
      exact distinct_of_entries?_eq_none rfl
  | pairs entries =>
      obtain ⟨results, _, rfl⟩ := Option.map_eq_some_iff.mp made
      exact distinct_of_entries?_eq_none rfl
  | set members =>
      obtain rfl := Option.some.inj made
      exact distinct_of_entries?_eq_none rfl

theorem distinct_untie (sound : ∀ part ∈ parts, part.Distinct) (fuel : Nat)
    {values : Array (Option Value)}
    (known : ∀ value, some value ∈ values → value.Distinct) :
    (untie parts fuel values).Distinct := by
  induction fuel generalizing values with
  | zero => exact distinct_knot sound 0
  | succ fuel inductionHypothesis =>
      rw [untie]
      split
      · rename_i value first
        have here : values[0]? = some (some value) :=
          Option.join_eq_some_iff.mp first
        exact known value (Array.mem_of_getElem? here)
      · refine inductionHypothesis fun value member => ?_
        obtain ⟨part, listed, made⟩ := Array.mem_map.mp member
        exact distinct_partValue? (sound part listed) made

theorem distinct_ofParts (sound : ∀ part ∈ parts, part.Distinct) :
    (ofParts parts).Distinct := by
  refine distinct_untie sound _ fun value member => ?_
  obtain ⟨part, _, made⟩ := Array.mem_map.mp member
  cases made

end Knots

end Value

namespace Yaml

theorem yields_rootValue (root : Nat) :
    Yields (rootValue root) Value.Distinct := by
  refine (keeps_linkAt root).bind fun link _ => ?_
  cases link with
  | atom content =>
      exact yields_pure (Value.distinct_of_entries?_eq_none rfl)
  | part _ =>
      refine keeps_get.bind fun draft _ => ?_
      refine (keeps_fillFrom 0 _).bind fun _ _ => ?_
      exact yields_get.bind fun filled distinct =>
        yields_pure (Value.distinct_ofParts distinct)

theorem distinct_value {document : Document} {value : Value}
    (made : document.value = Except.ok value) : value.Distinct := by
  have fresh : (Draft.ofDocument document).Distinct := by
    intro part member
    simp [Draft.ofDocument] at member
  rw [Document.value, StateT.run] at made
  cases run : rootValue document.root (Draft.ofDocument document) with
  | error problem =>
      rw [run] at made
      cases made
  | ok outcome =>
      rw [run] at made
      obtain rfl := Except.ok.inj made
      exact (yields_rootValue document.root _ _ _ fresh run).2

/-- A mapping that is loaded from a text has each of its keys once. -/
theorem distinct_of_load {text : String} {value : Value}
    (loads : load text = Except.ok value) : value.Distinct := by
  rw [load] at loads
  cases read : document (Text.unifyBreaks text.toList) with
  | error problem =>
      rw [read] at loads
      cases loads
  | ok found =>
      rw [read] at loads
      cases found with
      | none =>
          obtain rfl := Except.ok.inj loads
          exact Value.distinct_of_entries?_eq_none rfl
      | some document => exact distinct_value loads

/-- The reader of this library. -/
def reader : Reader where
  load := load
  distinct := distinct_of_load

end Yaml

end UtilityCss
