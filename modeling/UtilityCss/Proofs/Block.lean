import Mathlib.Data.List.Sort
import Mathlib.Data.String.Basic
import UtilityCss.Block

/-!
# What a block contains

A block is determined by the value of each property that it may declare.  It has
one line for every value that says something, no other, and the lines ascend;
when no value says anything the block is replaced as a whole.
-/

namespace UtilityCss.Block

/-- The properties that have a value worth writing. -/
def declared (value : String → String) : List String :=
  Property.relevant.filter fun property =>
    Property.isMeaningful property (value property)

/-- A text that declares these values under the usual selector. -/
structure Declares (value : String → String) (block : String) : Prop where
  nothing : block = "/* No styles generated - try adding some Tailwind classes */" ↔
    ∀ property ∈ Property.relevant,
      Property.isMeaningful property (value property) = false
  something : ∀ property ∈ Property.relevant,
    Property.isMeaningful property (value property) = true →
      ∃ lines : List String,
        block = ".element \x7b\n" ++ "\n".intercalate lines ++ "\n\x7d" ∧
          lines.Perm ((declared value).map fun property =>
            "  " ++ property ++ ": " ++ value property ++ ";") ∧
          lines.Pairwise (· < ·)

/-! ## The lines of a block -/

theorem declarations_eq (styles : StyleValues) :
    declarations styles =
      (declared styles.valueOf).map fun property =>
        (property, styles.valueOf property) := by
  rw [declarations, declared, List.filter_map]
  rfl

theorem nodup_relevant : Property.relevant.Nodup := by
  decide +kernel

theorem colon_not_mem_of_relevant :
    ∀ property ∈ Property.relevant, ':' ∉ property.toList := by
  decide +kernel

theorem toList_line (declaration : String × String) :
    (line declaration).toList =
      ' ' :: ' ' :: (declaration.1.toList ++
        ':' :: ' ' :: (declaration.2.toList ++ [';'])) := by
  simp [line]

/-- The name of a property ends at the colon of its line. -/
theorem takeWhile_line {declaration : String × String}
    (listed : declaration.1 ∈ Property.relevant) :
    ((line declaration).toList.drop 2).takeWhile (· != ':') =
      declaration.1.toList := by
  have free : ∀ char ∈ declaration.1.toList, (char != ':') = true := by
    intro char member
    rw [bne_iff_ne]
    rintro rfl
    exact colon_not_mem_of_relevant declaration.1 listed member
  rw [toList_line, List.drop_succ_cons, List.drop_succ_cons, List.drop_zero,
    List.takeWhile_append_of_pos free, List.takeWhile_cons]
  exact List.append_nil _

theorem nodup_lines (styles : StyleValues) :
    ((declarations styles).map line).Nodup := by
  rw [declarations_eq, List.map_map]
  refine List.Nodup.map_on ?_ (nodup_relevant.filter _)
  intro first memberFirst second memberSecond same
  have listedFirst := (List.mem_filter.mp memberFirst).1
  have listedSecond := (List.mem_filter.mp memberSecond).1
  have names := congrArg
    (fun text => (String.toList text |>.drop 2).takeWhile (· != ':')) same
  simp only [Function.comp_apply] at names
  rw [takeWhile_line listedFirst, takeWhile_line listedSecond] at names
  exact String.toList_inj.mp names

theorem sortLines_perm (lines : List String) :
    (sortLines lines).Perm lines :=
  List.mergeSort_perm lines _

theorem ascending_sortLines {lines : List String} (distinct : lines.Nodup) :
    (sortLines lines).Pairwise (· < ·) := by
  have sorted : (sortLines lines).Pairwise (· ≤ ·) :=
    List.pairwise_mergeSort' (· ≤ ·) lines
  have apart : (sortLines lines).Nodup :=
    (sortLines_perm lines).nodup_iff.mpr distinct
  exact (sorted.and apart).imp fun both => lt_of_le_of_ne both.1 both.2

/-! ## Blocks -/

theorem render_of_nil {styles : StyleValues} (selector : String)
    (nothing : declarations styles = []) :
    render styles selector = sentinel := by
  have empty : sortLines [] = [] :=
    List.perm_nil.mp (sortLines_perm [])
  rw [render, nothing, List.map_nil, empty]

theorem render_of_ne_nil {styles : StyleValues} (selector : String)
    (something : declarations styles ≠ []) :
    render styles selector =
      selector ++ " \x7b\n" ++
        "\n".intercalate (sortLines ((declarations styles).map line)) ++
        "\n\x7d" := by
  rw [render]
  split
  · rename_i empty
    have perm := sortLines_perm ((declarations styles).map line)
    rw [empty] at perm
    exact absurd (List.map_eq_nil_iff.mp (List.nil_perm.mp perm)) something
  · rfl

/-- Only a block has a brace. -/
theorem render_eq_sentinel_iff (styles : StyleValues) (selector : String) :
    render styles selector = sentinel ↔ declarations styles = [] := by
  refine ⟨fun same => ?_, render_of_nil selector⟩
  by_contra something
  have brace : '\x7b' ∈ (render styles selector).toList := by
    rw [render_of_ne_nil selector something]
    simp
  have noBrace : '\x7b' ∉ sentinel.toList := by decide
  exact noBrace (same ▸ brace)

/-- A block under the usual selector declares the values of the properties that
it may declare. -/
theorem declares_render (styles : StyleValues) :
    Declares styles.valueOf (render styles defaultSelector) := by
  have declaredNil :
      declarations styles = [] ↔
        ∀ property ∈ Property.relevant,
          Property.isMeaningful property (styles.valueOf property) = false := by
    rw [declarations_eq, List.map_eq_nil_iff, declared, List.filter_eq_nil_iff]
    simp only [Bool.not_eq_true]
  refine ⟨(render_eq_sentinel_iff styles defaultSelector).trans declaredNil,
    fun property listed meaningful => ?_⟩
  have something : declarations styles ≠ [] := by
    intro nothing
    rw [declaredNil.mp nothing property listed] at meaningful
    cases meaningful
  refine ⟨sortLines ((declarations styles).map line),
    render_of_ne_nil defaultSelector something, ?_,
    ascending_sortLines (nodup_lines styles)⟩
  refine (sortLines_perm _).trans ?_
  rw [declarations_eq, List.map_map]
  exact List.Perm.refl _

end UtilityCss.Block
