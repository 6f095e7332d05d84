import UtilityCss.CommandLine
import UtilityCss.Proofs.CommandLine.Tally

/-!
# Dialogues with the command line

Serving lines one after another repeats the command that converts one text: for
every line that is converted the same is printed as if the program had been
called with that line alone, whatever came before it.  The other lines tell of
the lookups since the last reset.  A capacity with too many digits cannot be
told, and asking for it ends the dialogue.
-/

namespace UtilityCss

/-! ## Lines of an input -/

namespace Text

theorem return_not_mem_unifyBreaks (chars : List Char) :
    '\r' ∉ unifyBreaks chars := by
  fun_induction unifyBreaks chars with
  | case1 => exact List.not_mem_nil
  | case2 rest inductionHypothesis =>
      rintro (_ | ⟨_, later⟩)
      exact inductionHypothesis later
  | case3 rest _ inductionHypothesis =>
      rintro (_ | ⟨_, later⟩)
      exact inductionHypothesis later
  | case4 c rest _ other inductionHypothesis =>
      intro member
      rcases List.mem_cons.mp member with same | later
      · exact other same.symm
      · exact inductionHypothesis later

theorem unifyBreaks_of_not_mem {chars : List Char} (absent : '\r' ∉ chars) :
    unifyBreaks chars = chars := by
  fun_induction unifyBreaks chars with
  | case1 => rfl
  | case2 rest inductionHypothesis => exact absurd List.mem_cons_self absent
  | case3 rest _ inductionHypothesis => exact absurd List.mem_cons_self absent
  | case4 c rest _ other inductionHypothesis =>
      have later : '\r' ∉ rest := fun member =>
        absent (List.mem_cons_of_mem c member)
      rw [inductionHypothesis later]

theorem mem_of_mem_lines {chars line : List Char} {c : Char}
    (isLine : line ∈ lines chars) (member : c ∈ line) : c ∈ chars := by
  induction chars generalizing line with
  | nil => cases isLine
  | cons head tail inductionHypothesis =>
      rw [lines] at isLine
      by_cases breaks : head = '\n'
      · rw [if_pos breaks] at isLine
        rcases List.mem_cons.mp isLine with same | later
        · rw [same] at member
          cases member
        · exact List.mem_cons_of_mem head (inductionHypothesis later member)
      · rw [if_neg breaks] at isLine
        cases rest : lines tail with
        | nil =>
            rw [rest] at isLine
            obtain rfl := List.mem_singleton.mp isLine
            obtain rfl := List.mem_singleton.mp member
            exact List.mem_cons_self
        | cons first others =>
            rw [rest] at isLine inductionHypothesis
            rcases List.mem_cons.mp isLine with same | later
            · rw [same] at member
              rcases List.mem_cons.mp member with isHead | inFirst
              · rw [isHead]
                exact List.mem_cons_self
              · exact List.mem_cons_of_mem head
                  (inductionHypothesis List.mem_cons_self inFirst)
            · exact List.mem_cons_of_mem head (inductionHypothesis
                (List.mem_cons_of_mem first later) member)

end Text

namespace CommandLine

/-- A line of an input is a text as it stands. -/
theorem textToConvert_of_mem_inputLines {input line : String}
    (isLine : line ∈ inputLines input) : textToConvert [] line = line := by
  obtain ⟨chars, among, rfl⟩ := List.mem_map.mp isLine
  have absent : '\r' ∉ chars := fun member =>
    Text.return_not_mem_unifyBreaks input.toList
      (Text.mem_of_mem_lines among member)
  rw [textToConvert, String.toList_ofList, Text.unifyBreaks_of_not_mem absent]

/-! ## Serving one line -/

namespace BenchResolver

theorem extract_table (inner : TableResolver) (classes : String) :
    interface.extract (table inner) classes =
      Prod.map id table (TableResolver.interface.extract inner classes) :=
  rfl

end BenchResolver

namespace Bench

/-- The keys looked up since the last reset, after one more line. -/
def lookupsAfter (limit : Int) (keys : List String) (line : String) :
    List String :=
  match LineCommand.ofLine line with
  | LineCommand.reset => []
  | LineCommand.convert text => keys ++ (lookedUp limit text).toList
  | _ => keys

/-- The keys that lines look up after the last one that resets. -/
def lookupsOf (limit : Int) (lines : List String) : List String :=
  lines.foldl (lookupsAfter limit) []

theorem lookupsOf_concat (limit : Int) (lines : List String) (line : String) :
    lookupsOf limit (lines ++ [line]) =
      lookupsAfter limit (lookupsOf limit lines) line :=
  List.foldl_concat _ _ _ _

/-- What is printed for a line: for a text what `once` gives, and otherwise what
the line asks for. -/
def answerTo (once : String → Printed) (status : CacheStatus) (line : String) :
    Printed :=
  match LineCommand.ofLine line with
  | LineCommand.quit => Printed.nothing
  | LineCommand.reset => Printed.toOutput ["Cache cleared."]
  | LineCommand.status => Printed.toOutput (statusText? status).toList
  | LineCommand.convert text => once text

/-- What is printed for lines that come after others. -/
def transcript (once : String → Printed) (status : List String → CacheStatus) :
    (earlier : List String) → List String → Printed
  | _, [] => Printed.nothing
  | earlier, line :: lines =>
      answerTo once (status earlier) line ++
        transcript once status (earlier ++ [line]) lines

/-- The lines before the first one that quits. -/
def handled (lines : List String) : List String :=
  lines.takeWhile fun line => LineCommand.ofLine line ≠ LineCommand.quit

/-- The handled lines before the first one that asks for a status which cannot
be told. -/
def served (capacity : Nat) (lines : List String) : List String :=
  (handled lines).takeWhile fun line =>
    LineCommand.ofLine line ≠ LineCommand.status ∨
      Text.isWritable capacity = true

/-- The bench has a table, and its processor has looked up some keys. -/
structure Tells (settings : Settings) (table : StyleTable)
    (keys : List String) (bench : Bench) : Prop where
  processor : bench.processor.Tells settings table.stylesOf keys
  resolver : ∃ inner, bench.resolver = BenchResolver.table inner ∧
    inner.table = table

theorem tells_create (settings : Settings) (table : StyleTable) :
    (create settings (ResolverChoice.table table)).Tells settings table [] where
  processor := Processor.tells_create settings table.stylesOf
  resolver := ⟨TableResolver.create table, rfl, rfl⟩

section Serving

variable {settings : Settings} {table : StyleTable} {keys : List String}
  {bench : Bench}

/-- What the conversion of a text prints by itself. -/
def alone (settings : Settings) (table : StyleTable) (text : String) :
    Printed :=
  Printed.ofConversion settings.highlighting
    (Conversion.alone settings.maxInputLength table.stylesOf text)

theorem convert_eq (processor : Processor) (resolver : BenchResolver)
    (text : String) :
    Bench.convert ⟨processor, resolver⟩ text =
      ((processor.convert BenchResolver.interface resolver text).1,
        ⟨(processor.convert BenchResolver.interface resolver text).2.1,
          (processor.convert BenchResolver.interface resolver text).2.2⟩) :=
  rfl

theorem Tells.convert (tells : bench.Tells settings table keys)
    (text : String) :
    (bench.convert text).1 =
        Conversion.alone settings.maxInputLength table.stylesOf text ∧
      (bench.convert text).2.Tells settings table
        (keys ++ (lookedUp settings.maxInputLength text).toList) := by
  obtain ⟨processor, resolver⟩ := bench
  obtain ⟨inner, known, same⟩ := tells.resolver
  obtain rfl : resolver = BenchResolver.table inner := known
  have resolved : (BenchResolver.interface.extract (BenchResolver.table inner)
      (classesOf text)).1 = Except.ok (table.stylesOf (classesOf text)) := by
    rw [BenchResolver.extract_table, ← same]
    exact TableResolver.extract_eq inner (classesOf text)
  have result := tells.processor.remembers.convert resolved
  rw [tells.processor.fixed] at result
  rw [convert_eq]
  refine ⟨result, tells.processor.convert resolved, ?_⟩
  simp only [Processor.convert]
  rcases processor.opening text with ⟨settled | job, phases, next⟩
  · exact ⟨inner, rfl, same⟩
  · simp only [BenchResolver.extract_table]
    exact ⟨_, rfl, same⟩

theorem Tells.highlighting (tells : bench.Tells settings table keys) :
    bench.highlighting = settings.highlighting := by
  rw [Bench.highlighting, tells.processor.fixed]

theorem Tells.serve (tells : bench.Tells settings table keys) (line : String) :
    (bench.serve line).2.Tells settings table
      (lookupsAfter settings.maxInputLength keys line) := by
  rw [Bench.serve, lookupsAfter]
  cases LineCommand.ofLine line with
  | quit => exact tells
  | reset => exact ⟨tells.processor.reset, tells.resolver⟩
  | status =>
      simp only
      cases statusText? bench.processor.status <;> exact tells
  | convert text => exact (tells.convert text).2

theorem Tells.serve_fst (tells : bench.Tells settings table keys)
    {line : String}
    (writable : LineCommand.ofLine line = LineCommand.status →
      Text.isWritable settings.cacheCapacity = true) :
    (bench.serve line).1 = Except.ok (answerTo (alone settings table)
      (CacheStatus.ofLookups settings.cacheCapacity keys) line) := by
  rw [Bench.serve, answerTo]
  cases asked : LineCommand.ofLine line with
  | quit => rfl
  | reset => rfl
  | status =>
      have shown : ∀ status : CacheStatus,
          status.capacity = settings.cacheCapacity →
            ∃ text, statusText? status = some text := by
        intro status capacity
        rw [statusText?, capacity, if_pos (writable asked)]
        exact ⟨_, rfl⟩
      obtain ⟨text, told⟩ := shown
        (CacheStatus.ofLookups settings.cacheCapacity keys) rfl
      simp only [tells.processor.status, told]
      rfl
  | convert text =>
      simp only [alone, (tells.convert text).1, tells.highlighting]

theorem Tells.serve_of_unwritable (tells : bench.Tells settings table keys)
    {line : String} (asked : LineCommand.ofLine line = LineCommand.status)
    (unwritable : ¬ Text.isWritable settings.cacheCapacity = true) :
    bench.serve line =
      (Except.error (Obstacle.unfit Value.unwritable), bench) := by
  have untold : ∀ status : CacheStatus,
      status.capacity = settings.cacheCapacity → statusText? status = none := by
    intro status capacity
    rw [statusText?, capacity, if_neg unwritable]
  rw [Bench.serve, asked]
  simp only [tells.processor.status]
  rw [untold _ rfl]

end Serving

/-! ## Serving many lines -/

section Lines

variable {settings : Settings} {table : StyleTable} {bench : Bench}
  {line : String} (lines : List String)

theorem handled_of_quit
    (quits : LineCommand.ofLine line = LineCommand.quit) :
    handled (line :: lines) = [] :=
  List.takeWhile_cons_of_neg (by simp [quits])

theorem handled_of_stays
    (stays : LineCommand.ofLine line ≠ LineCommand.quit) :
    handled (line :: lines) = line :: handled lines :=
  List.takeWhile_cons_of_pos (by simp [stays])

theorem served_of_quit (capacity : Nat)
    (quits : LineCommand.ofLine line = LineCommand.quit) :
    served capacity (line :: lines) = [] := by
  rw [served, handled_of_quit lines quits, List.takeWhile_nil]

theorem served_of_told {capacity : Nat}
    (stays : LineCommand.ofLine line ≠ LineCommand.quit)
    (told : LineCommand.ofLine line ≠ LineCommand.status ∨
      Text.isWritable capacity = true) :
    served capacity (line :: lines) = line :: served capacity lines := by
  rw [served, handled_of_stays lines stays]
  exact List.takeWhile_cons_of_pos (by simpa using told)

theorem served_of_untold {capacity : Nat}
    (stays : LineCommand.ofLine line ≠ LineCommand.quit)
    (untold : ¬ (LineCommand.ofLine line ≠ LineCommand.status ∨
      Text.isWritable capacity = true)) :
    served capacity (line :: lines) = [] := by
  rw [served, handled_of_stays lines stays]
  exact List.takeWhile_cons_of_neg (by simpa using untold)

theorem served_of_writable {capacity : Nat}
    (writable : Text.isWritable capacity = true) :
    served capacity lines = handled lines := by
  rw [served, List.takeWhile_eq_self_iff]
  intro line _
  simp [writable]

theorem served_of_unwritable {capacity : Nat}
    (unwritable : ¬ Text.isWritable capacity = true) :
    served capacity lines = (handled lines).takeWhile fun line =>
      LineCommand.ofLine line ≠ LineCommand.status := by
  simp only [served, unwritable, Bool.false_eq_true, or_false]

theorem Tells.serveLines {earlier : List String}
    (tells : bench.Tells settings table
      (lookupsOf settings.maxInputLength earlier)) :
    bench.serveLines lines =
      (transcript (alone settings table)
        (fun earlier => CacheStatus.ofLookups settings.cacheCapacity
          (lookupsOf settings.maxInputLength earlier))
        earlier (served settings.cacheCapacity lines),
        if served settings.cacheCapacity lines = handled lines then none
        else some (Obstacle.unfit Value.unwritable)) := by
  induction lines generalizing bench earlier with
  | nil => rfl
  | cons line lines inductionHypothesis =>
      rw [Bench.serveLines]
      by_cases quits : LineCommand.ofLine line = LineCommand.quit
      · rw [if_pos quits, handled_of_quit lines quits,
          served_of_quit lines _ quits]
        rfl
      · rw [if_neg quits, handled_of_stays lines quits]
        by_cases told : LineCommand.ofLine line ≠ LineCommand.status ∨
            Text.isWritable settings.cacheCapacity = true
        · have answer := tells.serve_fst
            (fun asked => told.resolve_left fun other => other asked)
          have later : (bench.serve line).2.Tells settings table
              (lookupsOf settings.maxInputLength (earlier ++ [line])) := by
            rw [lookupsOf_concat]
            exact tells.serve line
          have split := Prod.ext (y := (_, (bench.serve line).2)) answer rfl
          rw [split, served_of_told lines quits told]
          simp only [inductionHypothesis later, transcript, List.cons_inj_right]
        · have asked : LineCommand.ofLine line = LineCommand.status :=
            Decidable.byContradiction fun other => told (Or.inl other)
          rw [tells.serve_of_unwritable asked fun writable =>
            told (Or.inr writable), served_of_untold lines quits told]
          rfl

/-- The lines before the first one that asks for a status. -/
def unasked (lines : List String) : List String :=
  lines.takeWhile fun line => LineCommand.ofLine line ≠ LineCommand.status

/-- The answers to lines by a bench with a table that has served no others. -/
def answers (settings : Settings) (table : StyleTable) (lines : List String) :
    Printed :=
  transcript (alone settings table)
    (fun earlier => CacheStatus.ofLookups settings.cacheCapacity
      (lookupsOf settings.maxInputLength earlier)) [] lines

/-- A capacity that can be written, or that nobody asks for, lets a fresh bench
serve every line that is handled. -/
theorem serveLines_of_told {settings : Settings} (table : StyleTable)
    {lines : List String}
    (told : Text.isWritable settings.cacheCapacity = true ∨
      unasked (handled lines) = handled lines) :
    (create settings (ResolverChoice.table table)).serveLines lines =
      (answers settings table (handled lines), none) := by
  have all : served settings.cacheCapacity lines = handled lines := by
    by_cases writable : Text.isWritable settings.cacheCapacity = true
    · exact served_of_writable lines writable
    · rw [served_of_unwritable lines writable]
      exact told.resolve_left writable
  have fresh : (create settings (ResolverChoice.table table)).Tells settings
      table (lookupsOf settings.maxInputLength []) :=
    tells_create settings table
  rw [fresh.serveLines, all, if_pos rfl]
  rfl

/-- Any other capacity ends it where a line asks for it first. -/
theorem serveLines_of_untold {settings : Settings} (table : StyleTable)
    {lines : List String}
    (untold : ¬ (Text.isWritable settings.cacheCapacity = true ∨
      unasked (handled lines) = handled lines)) :
    (create settings (ResolverChoice.table table)).serveLines lines =
      (answers settings table (unasked (handled lines)),
        some (Obstacle.unfit Value.unwritable)) := by
  have short : served settings.cacheCapacity lines =
      unasked (handled lines) :=
    served_of_unwritable lines fun writable => untold (Or.inl writable)
  have fresh : (create settings (ResolverChoice.table table)).Tells settings
      table (lookupsOf settings.maxInputLength []) :=
    tells_create settings table
  rw [fresh.serveLines, short, if_neg fun same => untold (Or.inr same)]
  rfl

/-- To ask for a status first is to end the dialogue, if the capacity cannot be
written. -/
theorem serveLines_of_status {settings : Settings} (table : StyleTable)
    (unwritable : ¬ Text.isWritable settings.cacheCapacity = true)
    {line : String} (asked : LineCommand.ofLine line = LineCommand.status) :
    (create settings (ResolverChoice.table table)).serveLines
        (line :: lines) =
      (Printed.nothing, some (Obstacle.unfit Value.unwritable)) := by
  have stays : LineCommand.ofLine line ≠ LineCommand.quit := by simp [asked]
  have first : unasked (line :: handled lines) = [] :=
    List.takeWhile_cons_of_neg (by simp [asked])
  have untold : ¬ (Text.isWritable settings.cacheCapacity = true ∨
      unasked (handled (line :: lines)) = handled (line :: lines)) := by
    rw [handled_of_stays lines stays, first]
    rintro (writable | same)
    · exact unwritable writable
    · cases same
  rw [serveLines_of_untold table untold, handled_of_stays lines stays, first]
  rfl

/-- A capacity with one digit more than can be written. -/
def vast : Settings :=
  { Settings.usual with
    cacheCapacity := (10 ^ 215) ^ 20
    cacheCapacity_pos := by decide }

theorem not_isWritable_of_digits (many few : Nat)
    (digits : Text.mostDigits = many * few) :
    ¬ Text.isWritable ((10 ^ many) ^ few : Nat) = true := by
  rw [Text.isWritable, Int.natAbs_natCast, decide_eq_true_iff, Nat.pow_eq,
    digits, Nat.pow_mul]
  exact Nat.lt_irrefl _

theorem not_isWritable_vast :
    ¬ Text.isWritable vast.cacheCapacity = true := by
  have capacity : vast.cacheCapacity = (10 ^ 215) ^ 20 := rfl
  rw [capacity]
  exact not_isWritable_of_digits 215 20 rfl

/-- Nobody answers the second line, though no line quits. -/
theorem serveLines_vast :
    handled [":status", "p-4"] = [":status", "p-4"] ∧
      (create vast (ResolverChoice.table StyleTable.core)).serveLines
          [":status", "p-4"] =
        (Printed.nothing, some (Obstacle.unfit Value.unwritable)) :=
  ⟨by decide, serveLines_of_status ["p-4"] StyleTable.core not_isWritable_vast
    (by decide)⟩

end Lines

end Bench

end CommandLine

end UtilityCss
