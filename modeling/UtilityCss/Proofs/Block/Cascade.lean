import UtilityCss.Proofs.Block

/-!
# Blocks read from top to bottom

A shorthand sets several properties at once, so whoever reads a block from top
to bottom loses what was said about them above.  The lines of a block ascend by
their characters, and a hyphen comes before a colon: the line of a longhand
stands above the line of its shorthand, and the shorthand has the last word on
all the properties it sets.
-/

namespace UtilityCss

namespace Property

/-- The shorthands that a block may declare, each with the properties that it
sets. -/
def shorthands : List (String × List String) :=
  [
    ("margin", ["margin-top", "margin-right", "margin-bottom", "margin-left"]),
    ("padding", ["padding-top", "padding-right", "padding-bottom", "padding-left"]),
    ("border", ["border-width", "border-style", "border-color"]),
    ("overflow", ["overflow-x", "overflow-y"]),
    ("flex", ["flex-grow", "flex-shrink", "flex-basis"])
  ]

/-- The properties that a property sets besides itself. -/
def longhandsOf (property : String) : List String :=
  ((shorthands.find? fun entry => entry.1 == property).map Prod.snd).getD []

theorem mem_shorthands_of_mem_longhandsOf {shorthand longhand : String}
    (sets : longhand ∈ longhandsOf shorthand) :
    ∃ longhands, (shorthand, longhands) ∈ shorthands ∧
      longhand ∈ longhands := by
  rw [longhandsOf] at sets
  cases found : shorthands.find? fun entry => entry.1 == shorthand with
  | none =>
      rw [found] at sets
      cases sets
  | some entry =>
      rw [found] at sets
      have named : entry.1 = shorthand := by
        simpa using List.find?_some found
      exact ⟨entry.2, named ▸ List.mem_of_find?_eq_some found, sets⟩

/-- A longhand is named after its shorthand, a hyphen between. -/
theorem exists_suffix_of_mem_longhandsOf {shorthand longhand : String}
    (sets : longhand ∈ longhandsOf shorthand) :
    ∃ suffix, longhand.toList = shorthand.toList ++ '-' :: suffix := by
  have named : ∀ entry ∈ shorthands, ∀ member ∈ entry.2,
      (entry.1.toList ++ ['-']).isPrefixOf member.toList = true := by
    decide
  obtain ⟨longhands, listed, member⟩ := mem_shorthands_of_mem_longhandsOf sets
  obtain ⟨suffix, shape⟩ :=
    List.isPrefixOf_iff_prefix.mp (named _ listed _ member)
  exact ⟨suffix, by rw [← shape, List.append_assoc]; rfl⟩

end Property

namespace Block

/-! ## Declarations in the order of their lines -/

/-- The declarations of a block from its first line to its last. -/
def written (styles : StyleValues) : List (String × String) :=
  (declarations styles).mergeSort fun left right =>
    decide (line left ≤ line right)

theorem written_perm (styles : StyleValues) :
    (written styles).Perm (declarations styles) :=
  List.mergeSort_perm _ _

theorem map_line_written (styles : StyleValues) :
    (written styles).map line = sortLines ((declarations styles).map line) :=
  List.map_mergeSort fun _ _ _ _ => rfl

theorem ascending_written (styles : StyleValues) :
    (written styles).Pairwise fun above below => line above < line below := by
  have ascending := ascending_sortLines (nodup_lines styles)
  rw [← map_line_written] at ascending
  exact List.pairwise_map.mp ascending

theorem mem_written_iff (styles : StyleValues) (declaration : String × String) :
    declaration ∈ written styles ↔
      declaration.1 ∈ declared styles.valueOf ∧
        declaration.2 = styles.valueOf declaration.1 := by
  rw [(written_perm styles).mem_iff, declarations_eq, List.mem_map]
  constructor
  · rintro ⟨property, listed, rfl⟩
    exact ⟨listed, rfl⟩
  · rintro ⟨listed, value⟩
    exact ⟨declaration.1, listed, Prod.ext rfl value.symm⟩

/-- Whatever the values are, the line of a longhand is below the line of its
shorthand in the order of texts. -/
theorem line_longhand_lt {shorthand longhand : String}
    (sets : longhand ∈ Property.longhandsOf shorthand) (value other : String) :
    line (longhand, value) < line (shorthand, other) := by
  obtain ⟨suffix, shape⟩ := Property.exists_suffix_of_mem_longhandsOf sets
  rw [String.lt_iff_toList_lt, toList_line, toList_line, shape]
  have hyphen : ('-' : Char) < ':' := by decide
  have names :
      shorthand.toList ++
          '-' :: (suffix ++ ':' :: ' ' :: (value.toList ++ [';'])) <
        shorthand.toList ++ ':' :: ' ' :: (other.toList ++ [';']) :=
    List.append_left_lt (List.cons_lt_cons_iff.mpr (Or.inl hyphen))
  have indented := @List.append_left_lt Char _ [' ', ' '] _ _ names
  simpa using indented

/-- One item of a list stands before another. -/
def Precedes {α : Type} (first second : α) (items : List α) : Prop :=
  ∃ before between after,
    items = before ++ first :: (between ++ second :: after)

/-- In an ascending list the place of an item follows from the order. -/
theorem mem_after_of_lt {styles : StyleValues}
    {before after : List (String × String)} {upper lower : String × String}
    (partition : written styles = before ++ upper :: after)
    (member : lower ∈ written styles) (lt : line upper < line lower) :
    lower ∈ after := by
  have ascending := ascending_written styles
  rw [partition] at ascending member
  rcases List.mem_append.mp member with above | same | below
  · have wrong :=
      (List.pairwise_append.mp ascending).2.2 lower above upper
        List.mem_cons_self
    exact absurd lt (lt_asymm wrong)
  · exact absurd lt (lt_irrefl _)
  · assumption

theorem precedes_written {styles : StyleValues}
    {upper lower : String × String} (upperMember : upper ∈ written styles)
    (lowerMember : lower ∈ written styles) (lt : line upper < line lower) :
    Precedes upper lower (written styles) := by
  obtain ⟨before, after, partition⟩ := List.append_of_mem upperMember
  have later := mem_after_of_lt partition lowerMember lt
  obtain ⟨between, rest, rfl⟩ := List.append_of_mem later
  exact ⟨before, between, rest, partition⟩

theorem Precedes.line_lt {styles : StyleValues}
    {upper lower : String × String}
    (precedes : Precedes upper lower (written styles)) :
    line upper < line lower := by
  obtain ⟨before, between, after, partition⟩ := precedes
  have ascending := ascending_written styles
  rw [partition] at ascending
  exact List.rel_of_pairwise_cons (List.pairwise_append.mp ascending).2.1
    (List.mem_append_right between List.mem_cons_self)

/-! ## Reading -/

/-- What is known of the properties after one more declaration: the properties
that it sets along with its own are not as they were declared. -/
def readDeclaration (known : String → Option String)
    (declaration : String × String) (property : String) : Option String :=
  if property = declaration.1 then some declaration.2
  else if property ∈ Property.longhandsOf declaration.1 then none
  else known property

/-- The values that stand as they were declared when all declarations have been
read. -/
def read (items : List (String × String)) : String → Option String :=
  items.foldl readDeclaration fun _ => none

/-- A property that is not declared any more keeps its value unless one of its
shorthands comes. -/
theorem foldl_readDeclaration {items : List (String × String)}
    {property : String} (absent : ∀ item ∈ items, item.1 ≠ property)
    (known : String → Option String) :
    items.foldl readDeclaration known property =
      if ∃ item ∈ items, property ∈ Property.longhandsOf item.1 then none
      else known property := by
  induction items generalizing known with
  | nil => simp
  | cons head tail inductionHypothesis =>
      have later := inductionHypothesis
        (fun item member => absent item (List.mem_cons_of_mem head member))
        (readDeclaration known head)
      have different : property ≠ head.1 :=
        (absent head List.mem_cons_self).symm
      rw [List.foldl_cons, later, readDeclaration, if_neg different]
      by_cases now : property ∈ Property.longhandsOf head.1
      · simp [now]
      · rw [if_neg now]
        exact if_congr (by simp [now]) rfl rfl

/-- A declared property is read as it was declared exactly when none of its
shorthands is declared. -/
theorem read_written {styles : StyleValues} {property : String}
    (listed : property ∈ declared styles.valueOf) :
    read (written styles) property =
      if ∃ shorthand ∈ declared styles.valueOf,
          property ∈ Property.longhandsOf shorthand then none
      else some (styles.valueOf property) := by
  let own := (property, styles.valueOf property)
  have member : own ∈ written styles :=
    (mem_written_iff styles own).mpr ⟨listed, rfl⟩
  obtain ⟨before, after, partition⟩ := List.append_of_mem member
  have absent : ∀ item ∈ after, item.1 ≠ property := by
    intro item below same
    have ascending := ascending_written styles
    have kept := ((mem_written_iff styles item).mp (by
      rw [partition]
      exact List.mem_append_right _ (List.mem_cons_of_mem _ below))).2
    rw [partition] at ascending
    have lt := List.rel_of_pairwise_cons
      (List.pairwise_append.mp ascending).2.1 below
    have equal : item = own :=
      Prod.ext same (kept.trans (congrArg styles.valueOf same))
    rw [equal] at lt
    exact lt_irrefl _ lt
  have shorthands :
      (∃ item ∈ after, property ∈ Property.longhandsOf item.1) ↔
        ∃ shorthand ∈ declared styles.valueOf,
          property ∈ Property.longhandsOf shorthand := by
    constructor
    · rintro ⟨item, below, sets⟩
      have kept : item ∈ written styles := by
        rw [partition]
        exact List.mem_append_right _ (List.mem_cons_of_mem _ below)
      exact ⟨item.1, ((mem_written_iff styles item).mp kept).1, sets⟩
    · rintro ⟨shorthand, declaredToo, sets⟩
      have there : (shorthand, styles.valueOf shorthand) ∈ written styles :=
        (mem_written_iff styles _).mpr ⟨declaredToo, rfl⟩
      exact ⟨_, mem_after_of_lt partition there (line_longhand_lt sets _ _),
        sets⟩
  rw [read, partition, List.foldl_append, List.foldl_cons,
    foldl_readDeclaration absent, readDeclaration, if_pos rfl]
  exact if_congr shorthands rfl rfl

/-! ## Shorthands and longhands in one block -/

/-- The block says for every longhand what was selected for it: its line comes
after the line of its shorthand, and a reader ends with its value. -/
structure KeepsLonghands (styles : StyleValues) : Prop where
  order : ∀ shorthand longhand, longhand ∈ Property.longhandsOf shorthand →
    shorthand ∈ declared styles.valueOf → longhand ∈ declared styles.valueOf →
      Precedes (shorthand, styles.valueOf shorthand)
        (longhand, styles.valueOf longhand) (written styles)
  reading : ∀ shorthand longhand, longhand ∈ Property.longhandsOf shorthand →
    longhand ∈ declared styles.valueOf →
      read (written styles) longhand = some (styles.valueOf longhand)

/-- In a block the line of a longhand stands above the line of its shorthand.
So a reader from top to bottom ends with the selected value of a property
exactly when no shorthand of it is selected. -/
theorem longhand_line_precedes_shorthand_line (styles : StyleValues)
    (selector : String) :
    (declarations styles ≠ [] →
        render styles selector =
          selector ++ " \x7b\n" ++
            "\n".intercalate ((written styles).map line) ++ "\n\x7d") ∧
      (written styles).Perm (declarations styles) ∧
      (∀ shorthand longhand, longhand ∈ Property.longhandsOf shorthand →
        shorthand ∈ declared styles.valueOf →
          longhand ∈ declared styles.valueOf →
            Precedes (longhand, styles.valueOf longhand)
              (shorthand, styles.valueOf shorthand) (written styles)) ∧
      ∀ property ∈ declared styles.valueOf,
        (read (written styles) property = some (styles.valueOf property) ↔
          ∀ shorthand ∈ declared styles.valueOf,
            property ∉ Property.longhandsOf shorthand) := by
  refine ⟨fun something => ?_, written_perm styles, ?_, ?_⟩
  · rw [render_of_ne_nil selector something, map_line_written]
  · intro shorthand longhand sets shorthandListed longhandListed
    exact precedes_written
      ((mem_written_iff styles _).mpr ⟨longhandListed, rfl⟩)
      ((mem_written_iff styles _).mpr ⟨shorthandListed, rfl⟩)
      (line_longhand_lt sets _ _)
  · intro property listed
    rw [read_written listed]
    split
    · rename_i overruled
      simpa using overruled
    · rename_i free
      simpa using free

/-- Padding on every side, and less of it on the left. -/
def indented : StyleValues :=
  ⟨[("padding", "16px"), ("padding-left", "8px")]⟩

/-- The padding on the left is written above the padding on every side, which
takes it back. -/
theorem not_keepsLonghands_indented :
    render indented defaultSelector =
        ".element \x7b\n  padding-left: 8px;\n  padding: 16px;\n\x7d" ∧
      ¬ Precedes ("padding", "16px") ("padding-left", "8px")
          (written indented) ∧
      read (written indented) "padding-left" = none ∧
      ¬ KeepsLonghands indented := by
  have selected :
      declarations indented =
        [("padding", "16px"), ("padding-left", "8px")] := by
    decide +kernel
  have lines :
      written indented = [("padding-left", "8px"), ("padding", "16px")] := by
    have swapped := (written_perm indented).trans
      (selected ▸ List.Perm.swap ("padding-left", "8px") ("padding", "16px") [])
    refine swapped.eq_of_pairwise ?_ (ascending_written indented) ?_
    · intro above below _ _ lt gt
      exact absurd lt (lt_asymm gt)
    · exact List.pairwise_pair.mpr (line_longhand_lt (by decide) _ _)
  have lost : read (written indented) "padding-left" = none := by
    rw [lines]
    decide
  refine ⟨?_, fun precedes => ?_, lost, fun keeps => ?_⟩
  · have something : declarations indented ≠ [] := by
      rw [selected]
      exact List.cons_ne_nil _ _
    rw [render_of_ne_nil defaultSelector something, ← map_line_written, lines]
    rfl
  · exact absurd precedes.line_lt
      (lt_asymm (line_longhand_lt (by decide) "8px" "16px"))
  · have listed : "padding-left" ∈ declared indented.valueOf := by
      decide +kernel
    have kept := keeps.reading "padding" "padding-left" (by decide) listed
    rw [lost] at kept
    cases kept

end Block

end UtilityCss
