import UtilityCss.Proofs.Block
import UtilityCss.Proofs.OrderedMap

/-!
# Reading a block back

The lines of a block are sorted by their characters, which forgets the order of
the declarations, and a value may hold any characters.  Still a block can be read
back when no value breaks its line: the name of a property ends at the first
colon, every property has one line at most, and the order of the properties is
known.  So two blocks under one selector are the same text only if they declare
the same.
-/

namespace UtilityCss

/-! ## Items in any order -/

namespace OrderedMap

variable {κ : Type u} {ν : Type v} [BEq κ] [LawfulBEq κ]

theorem Distinct.find?_eq_some_iff {map : OrderedMap κ ν}
    (distinct : map.Distinct) {key : κ} {value : ν} :
    map.find? key = some value ↔ (key, value) ∈ map.entries := by
  obtain ⟨entries⟩ := map
  induction entries with
  | nil => simp [find?]
  | cons head others inductionHypothesis =>
      obtain ⟨absent, rest⟩ := distinct.of_cons
      have later := inductionHypothesis rest
      rw [find?_cons]
      by_cases same : head.1 == key
      · have missing : (key, value) ∉ others := by
          intro member
          apply absent
          rw [eq_of_beq same]
          exact List.mem_map_of_mem member
        rw [if_pos same, Option.some_inj]
        constructor
        · rintro rfl
          rw [← eq_of_beq same]
          exact List.mem_cons_self
        · intro member
          rcases List.mem_cons.mp member with here | there
          · rw [← here]
          · exact absurd there missing
      · have different : (key, value) ≠ head := by
          rintro rfl
          exact same (beq_self_eq_true key)
        rw [if_neg same, later]
        simp [different]

/-- What is found under a key does not depend on the order of the entries. -/
theorem Distinct.find?_eq_of_perm {left right : OrderedMap κ ν}
    (distinct : left.Distinct) (same : left.entries.Perm right.entries)
    (key : κ) : left.find? key = right.find? key := by
  have apart : right.Distinct := by
    have keys : left.keys.Perm right.keys := same.map Prod.fst
    have symmetric : ∀ {earlier later : κ}, (earlier == later) = false →
        (later == earlier) = false := by
      intro earlier later different
      rw [BEq.comm]
      exact different
    exact (keys.pairwise_iff symmetric).mp distinct
  apply Option.ext
  intro value
  rw [distinct.find?_eq_some_iff, apart.find?_eq_some_iff]
  exact same.mem_iff

end OrderedMap

namespace Block

/-! ## What a block is made from -/

/-- A block is made from a computed style, which is asked for its properties, or
from a plain mapping, in which they are looked up. -/
inductive Source where
  | computed (values : StyleValues)
  | plain (mapping : StyleValues)

namespace Source

def values : Source → StyleValues
  | computed values => values
  | plain mapping => mapping

def valueOf : Source → String → String
  | computed values, property => values.valueOf property
  | plain mapping, property =>
      match mapping.find? property with
      | some value => value
      | none => ""

/-- The declarations worth writing, in the order of the properties. -/
def declarations (source : Source) : List (String × String) :=
  (declared source.valueOf).map fun property =>
    (property, source.valueOf property)

def render (source : Source) (selector : String) : String :=
  let lines := source.declarations.map line
  if lines = [] then sentinel
  else
    selector ++ " \x7b\n" ++ "\n".intercalate (sortLines lines) ++ "\n\x7d"

/-- No value breaks its line. -/
def Unbroken (source : Source) : Prop :=
  ∀ item ∈ source.values.entries, '\n' ∉ item.2.toList

end Source

/-! ## Decoding -/

/-- The declaration that a line was written for. -/
def readLine (line : List Char) : String × String :=
  let text := line.drop 2
  (String.ofList (text.takeWhile (· != ':')),
    String.ofList ((text.dropWhile (· != ':')).drop 2).dropLast)

/-- The lines of a block under a selector. -/
def linesOf (selector block : String) : List (List Char) :=
  (block.toList.drop (selector.toList.length + 3)).dropLast.dropLast.splitOn
    '\n'

/-- The declarations that a block was written for, in the order of the
properties. -/
def decode (selector block : String) : List (String × String) :=
  if block = sentinel then []
  else
    let found := (linesOf selector block).map readLine
    Property.relevant.filterMap fun property =>
      found.find? fun declaration => declaration.1 == property

/-- What can be told from the text of a block. -/
structure Legible (source : Source) (selector : String) : Prop where
  decoded : source.Unbroken →
    decode selector (source.render selector) = source.declarations
  faithful : ∀ other : Source, source.Unbroken → other.Unbroken →
    (source.render selector = other.render selector ↔
      source.declarations = other.declarations)
  nothing : source.render selector = sentinel ↔ source.declarations = []
  /-- The lines are those of the declarations and ascend, also when a value
  breaks its line. -/
  lines : source.declarations ≠ [] → ∃ lines : List String,
    source.render selector =
        selector ++ " \x7b\n" ++ "\n".intercalate lines ++ "\n\x7d" ∧
      lines.Perm (source.declarations.map fun declaration =>
        "  " ++ declaration.1 ++ ": " ++ declaration.2 ++ ";") ∧
      lines.Pairwise (· < ·)
  once : (source.declarations.map Prod.fst).Nodup ∧
    ∀ declaration ∈ source.declarations, declaration.1 ∈ Property.relevant
  /-- Neither the kind of the source nor the order of its items counts. -/
  sameItems : ∀ other : Source, source.values.Distinct →
    source.values.entries.Perm other.values.entries →
      source.render selector = other.render selector
  /-- The source is written like the values that a resolver finds. -/
  rendered : source.render selector = Block.render source.values selector ∧
    source.declarations = Block.declarations source.values

/-! ## Sources and values -/

section Sources

variable (source : Source)

theorem valueOf_eq : source.valueOf = source.values.valueOf := by
  cases source with
  | computed values => rfl
  | plain mapping =>
      funext property
      rw [Source.valueOf, Source.values, StyleValues.valueOf]
      cases mapping.find? property with
      | some value => rfl
      | none => rfl

theorem declarations_source :
    source.declarations = declarations source.values := by
  rw [Source.declarations, declarations_eq, valueOf_eq]

theorem render_source (selector : String) :
    source.render selector = render source.values selector := by
  rw [Source.render, declarations_source]
  by_cases nothing : declarations source.values = []
  · rw [render_of_nil selector nothing, nothing]
    rfl
  · rw [render_of_ne_nil selector nothing]
    apply if_neg
    simpa using nothing

end Sources

/-! ## Lines -/

theorem break_not_mem_of_relevant :
    ∀ property ∈ Property.relevant, '\n' ∉ property.toList := by
  decide +kernel

theorem readLine_line {declaration : String × String}
    (listed : declaration.1 ∈ Property.relevant) :
    readLine (line declaration).toList = declaration := by
  have name := takeWhile_line listed
  have rest : ((line declaration).toList.drop 2).dropWhile (· != ':') =
      ':' :: ' ' :: (declaration.2.toList ++ [';']) := by
    have whole := @List.takeWhile_append_dropWhile _ (· != ':')
      ((line declaration).toList.drop 2)
    have shape : (line declaration).toList.drop 2 =
        declaration.1.toList ++
          ':' :: ' ' :: (declaration.2.toList ++ [';']) := by
      rw [toList_line]
      rfl
    rw [name] at whole
    exact List.append_cancel_left (whole.trans shape)
  rw [readLine, name, rest]
  simp

theorem break_not_mem_line {declaration : String × String}
    (listed : declaration.1 ∈ Property.relevant)
    (unbroken : '\n' ∉ declaration.2.toList) :
    '\n' ∉ (line declaration).toList := by
  have name := break_not_mem_of_relevant declaration.1 listed
  rw [toList_line]
  simp [name, unbroken]

section Values

variable {styles : StyleValues}

theorem mem_declarations_iff {declaration : String × String} :
    declaration ∈ declarations styles ↔
      declaration.1 ∈ Property.relevant ∧
        declaration.2 = styles.valueOf declaration.1 ∧
          Property.isMeaningful declaration.1 declaration.2 = true := by
  rw [declarations_eq, List.mem_map]
  constructor
  · rintro ⟨property, member, rfl⟩
    obtain ⟨listed, meaningful⟩ := List.mem_filter.mp member
    exact ⟨listed, rfl, meaningful⟩
  · rintro ⟨listed, value, meaningful⟩
    rw [value] at meaningful
    exact ⟨declaration.1, List.mem_filter.mpr ⟨listed, meaningful⟩,
      Prod.ext rfl value.symm⟩

/-- A value that says something stands in the map. -/
theorem exists_item_of_mem_declarations {declaration : String × String}
    (member : declaration ∈ declarations styles) :
    ∃ item ∈ styles.entries, item.2 = declaration.2 := by
  obtain ⟨_, value, meaningful⟩ := mem_declarations_iff.mp member
  have filled : declaration.2 ≠ "" := by
    intro empty
    rw [empty] at meaningful
    simp [Property.isMeaningful] at meaningful
  rw [StyleValues.valueOf, OrderedMap.find?] at value
  cases found : styles.entries.find? fun entry =>
      entry.1 == declaration.1 with
  | none =>
      rw [found] at value
      exact absurd value filled
  | some item =>
      rw [found] at value
      exact ⟨item, List.mem_of_find?_eq_some found, value.symm⟩

variable (unbroken : ∀ item ∈ styles.entries, '\n' ∉ item.2.toList)

include unbroken

theorem break_not_mem_of_mem_sortLines {text : String}
    (member : text ∈ sortLines ((declarations styles).map line)) :
    '\n' ∉ text.toList := by
  rw [(sortLines_perm _).mem_iff, List.mem_map] at member
  obtain ⟨declaration, worth, rfl⟩ := member
  obtain ⟨item, listed, same⟩ := exists_item_of_mem_declarations worth
  apply break_not_mem_line (mem_declarations_iff.mp worth).1
  rw [← same]
  exact unbroken item listed

theorem linesOf_render (selector : String)
    (something : declarations styles ≠ []) :
    linesOf selector (render styles selector) =
      (sortLines ((declarations styles).map line)).map String.toList := by
  have filled :
      (sortLines ((declarations styles).map line)).map String.toList ≠ [] := by
    intro empty
    have perm := sortLines_perm ((declarations styles).map line)
    rw [List.map_eq_nil_iff.mp empty] at perm
    exact something (List.map_eq_nil_iff.mp (List.nil_perm.mp perm))
  have separate : ∀ chars ∈
      (sortLines ((declarations styles).map line)).map String.toList,
        '\n' ∉ chars := by
    intro chars member
    obtain ⟨text, listed, rfl⟩ := List.mem_map.mp member
    exact break_not_mem_of_mem_sortLines unbroken listed
  have shape : (render styles selector).toList =
      (selector.toList ++ [' ', '\x7b', '\n']) ++
        (['\n'].intercalate
          ((sortLines ((declarations styles).map line)).map
            String.toList) ++ ['\n', '\x7d']) := by
    rw [render_of_ne_nil selector something]
    simp [String.toList_append, String.toList_intercalate]
  have front : (selector.toList ++ [' ', '\x7b', '\n']).length =
      selector.toList.length + 3 := by
    rw [List.length_append]
    rfl
  rw [linesOf, shape, ← front, List.drop_left]
  have back : ∀ body : List Char,
      (body ++ ['\n', '\x7d']).dropLast.dropLast = body := by
    intro body
    have split : body ++ ['\n', '\x7d'] = (body ++ ['\n']) ++ ['\x7d'] := by
      simp
    rw [split, List.dropLast_concat, List.dropLast_concat]
  rw [back]
  exact List.splitOn_intercalate '\n' separate filled

/-- The lines say what was declared, in some order. -/
theorem readLine_linesOf_perm (selector : String)
    (something : declarations styles ≠ []) :
    ((linesOf selector (render styles selector)).map readLine).Perm
      (declarations styles) := by
  have back : (((declarations styles).map line).map String.toList).map
      readLine = declarations styles := by
    rw [List.map_map, List.map_map]
    refine (List.map_congr_left fun declaration member => ?_).trans
      (List.map_id _)
    exact readLine_line (mem_declarations_iff.mp member).1
  rw [linesOf_render unbroken selector something]
  have perm := ((sortLines_perm ((declarations styles).map line)).map
    String.toList).map readLine
  rw [back] at perm
  exact perm

omit unbroken in
/-- What is found for a property among the declarations, whatever their order. -/
theorem find?_of_perm_declarations {found : List (String × String)}
    (perm : found.Perm (declarations styles)) {property : String}
    (listed : property ∈ Property.relevant) :
    (found.find? fun declaration => declaration.1 == property) =
      Option.guard
        (fun declaration =>
          Property.isMeaningful declaration.1 declaration.2)
        (property, styles.valueOf property) := by
  rw [Option.guard]
  split
  · rename_i meaningful
    have member : (property, styles.valueOf property) ∈ found :=
      perm.mem_iff.mpr (mem_declarations_iff.mpr ⟨listed, rfl, meaningful⟩)
    cases search : found.find? fun declaration =>
        declaration.1 == property with
    | none =>
        have missing := List.find?_eq_none.mp search _ member
        exact absurd (beq_self_eq_true property) missing
    | some declaration =>
        have named : declaration.1 = property := by
          simpa using List.find?_some search
        have there := perm.mem_iff.mp (List.mem_of_find?_eq_some search)
        have value := (mem_declarations_iff.mp there).2.1
        rw [named] at value
        exact congrArg some (Prod.ext named value)
  · rename_i idle
    refine List.find?_eq_none.mpr fun declaration member same => idle ?_
    have named : declaration.1 = property := by simpa using same
    obtain ⟨_, value, meaningful⟩ :=
      mem_declarations_iff.mp (perm.mem_iff.mp member)
    rw [named] at value
    rw [value, named] at meaningful
    exact meaningful

theorem decode_render (selector : String) :
    decode selector (render styles selector) = declarations styles := by
  by_cases nothing : declarations styles = []
  · rw [decode, if_pos ((render_eq_sentinel_iff styles selector).mpr nothing),
      nothing]
  · have block : render styles selector ≠ sentinel := fun same =>
      nothing ((render_eq_sentinel_iff styles selector).mp same)
    have perm := readLine_linesOf_perm unbroken selector nothing
    rw [decode, if_neg block]
    have each : ∀ property ∈ Property.relevant, _ = _ :=
      fun property listed => find?_of_perm_declarations perm listed
    rw [List.filterMap_congr each, declarations, ← List.filterMap_eq_filter,
      List.filterMap_map]
    rfl

end Values

theorem render_eq_of_declarations_eq {styles other : StyleValues}
    (same : declarations styles = declarations other) (selector : String) :
    render styles selector = render other selector := by
  rw [render, render, same]

/-- A block says what was declared and nothing else, and it can be read back
unless a value breaks its line. -/
theorem legible (source : Source) (selector : String) :
    Legible source selector where
  decoded unbroken := by
    rw [render_source, declarations_source]
    exact decode_render unbroken selector
  faithful other unbroken unbroken' := by
    rw [render_source, render_source, declarations_source,
      declarations_source]
    constructor
    · intro same
      rw [← decode_render unbroken selector, same,
        decode_render unbroken' selector]
    · intro same
      exact render_eq_of_declarations_eq same selector
  nothing := by
    rw [render_source, declarations_source]
    exact render_eq_sentinel_iff source.values selector
  lines something := by
    rw [declarations_source] at something ⊢
    refine ⟨sortLines ((declarations source.values).map line), ?_,
      sortLines_perm _, ascending_sortLines (nodup_lines source.values)⟩
    rw [render_source]
    exact render_of_ne_nil selector something
  once := by
    constructor
    · rw [Source.declarations, List.map_map]
      have names : ∀ property ∈ declared source.valueOf,
          (Prod.fst ∘ fun property => (property, source.valueOf property))
            property = property := fun _ _ => rfl
      rw [List.map_congr_left names, List.map_id']
      exact nodup_relevant.filter _
    · intro declaration member
      rw [declarations_source] at member
      exact (mem_declarations_iff.mp member).1
  sameItems other distinct same := by
    have values : source.values.valueOf = other.values.valueOf := by
      funext property
      rw [StyleValues.valueOf, StyleValues.valueOf,
        distinct.find?_eq_of_perm same property]
    have lines : declarations source.values = declarations other.values := by
      rw [declarations_eq, declarations_eq, values]
    rw [render_source, render_source]
    exact render_eq_of_declarations_eq lines selector
  rendered := ⟨render_source source selector, declarations_source source⟩

/-- A value that looks like the end of a line, and lines in another order than
the properties. -/
example :
    decode ".a" ".a \x7b\n  color: red;\n  padding: 1px;: \x7d;\n\x7d" =
      [("padding", "1px;: \x7d"), ("color", "red")] := by
  decide +kernel

end Block

end UtilityCss
