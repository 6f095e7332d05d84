import Mathlib.Data.List.Basic
import UtilityCss.Guard
import UtilityCss.Proofs.Pattern.Reading

/-!
# The verdict of the guard

What the guard looks for can be said without patterns: a word or the beginning of
an event handler stands somewhere in the text, and so many brackets stand
anywhere.  The first cause in a fixed order is the verdict.  None of the causes
goes away when something is written around the text, so a text that is rejected
is rejected in any surroundings, and not for a later cause.
-/

namespace UtilityCss

namespace Guard

open Text Pattern

/-! ## Causes -/

/-- What is looked for, in the order in which it is looked for. -/
def dangerNames : List String :=
  ["<script", "javascript:", "on\\w+\\s*=", "<iframe", "<object", "<embed"]

/-- Something dangerous stands in the text: one of five words, or the name of an
event with blanks and an equals sign behind it. -/
inductive Holds (chars : List Char) : String → Prop
  | word {before letters after : List Char} {word : String}
      (listed : word ∈
        ["<script", "javascript:", "<iframe", "<object", "<embed"])
      (place : chars = before ++ (letters ++ after))
      (spelled : Spells letters word) : Holds chars word
  | handler {before letters event blanks after : List Char}
      (place : chars =
        before ++ (letters ++ (event ++ (blanks ++ '=' :: after))))
      (spelled : Spells letters "on") (filled : event ≠ [])
      (worded : ∀ c ∈ event, isWord c = true)
      (blank : ∀ c ∈ blanks, isBlank c = true) : Holds chars "on\\w+\\s*="

def brackets : List Char :=
  ['<', '>', '\x7b', '\x7d', '(', ')', '[', ']']

def bracketCount (chars : List Char) : Nat :=
  (chars.filter fun c => c ∈ brackets).length

/-- The outcome that is due for a text. -/
inductive Verdict (limit : Int) (chars : List Char) :
    Except Rejection Unit → Prop
  | tooLong (long : limit < chars.length) :
      Verdict limit chars (Except.error (Rejection.tooLong limit))
  | dangerous {before others : List String} {name : String}
      (short : chars.length ≤ limit)
      (order : dangerNames = before ++ name :: others)
      (absent : ∀ earlier ∈ before, ¬ Holds chars earlier)
      (present : Holds chars name) :
      Verdict limit chars (Except.error (Rejection.dangerous name))
  | crowded (short : chars.length ≤ limit)
      (harmless : ∀ name ∈ dangerNames, ¬ Holds chars name)
      (many : 10 < bracketCount chars) :
      Verdict limit chars
        (Except.error (Rejection.crowded (bracketCount chars) 10))
  | accepted (short : chars.length ≤ limit)
      (harmless : ∀ name ∈ dangerNames, ¬ Holds chars name)
      (few : bracketCount chars ≤ 10) : Verdict limit chars (Except.ok ())

/-- The place of a cause in the order of the checks. -/
def place : Rejection → Nat
  | Rejection.tooLong _ => 0
  | Rejection.dangerous name => dangerNames.idxOf name + 1
  | Rejection.crowded _ _ => dangerNames.length + 1

/-- How the guard decides about a text. -/
structure Decides (limit : Int) (chars : List Char) : Prop where
  verdict : ∀ outcome,
    check limit chars = outcome ↔ Verdict limit chars outcome
  /-- Nothing that is written around the text hides a cause. -/
  surrounded : ∀ before after cause,
    check limit chars = Except.error cause →
      ∃ other, check limit (before ++ chars ++ after) = Except.error other ∧
        place other ≤ place cause

/-! ## Dangers -/

section Dangers

variable {chars : List Char}

theorem occursIn_literal_iff {word : String} :
    (literal word).occursIn chars = true ↔
      ∃ before letters after, chars = before ++ (letters ++ after) ∧
        Spells letters word := by
  simp only [occursIn_iff, reads_literal]

theorem occursIn_handlerAttribute_iff :
    handlerAttribute.occursIn chars = true ↔
      ∃ before letters event blanks after,
        chars = before ++ (letters ++ (event ++ (blanks ++ '=' :: after))) ∧
          Spells letters "on" ∧ event ≠ [] ∧
            (∀ c ∈ event, isWord c = true) ∧ ∀ c ∈ blanks, isBlank c = true := by
  have equals : ∀ {sign : List Char}, Spells sign "=" ↔ sign = ['='] :=
    spells_sign rfl (by decide) (by decide)
  rw [occursIn_iff]
  constructor
  · rintro ⟨before, _, after, rfl, letters, _, rfl, readsOn, event, _, rfl,
      readsEvent, blanks, sign, rfl, blank, readsSign⟩
    obtain ⟨filled, worded⟩ := reads_atLeastOne.mp readsEvent
    rw [equals.mp (reads_literal.mp readsSign)]
    refine ⟨before, letters, event, blanks, after, ?_,
      reads_literal.mp readsOn, filled, worded, blank⟩
    simp only [List.append_assoc, List.cons_append, List.nil_append]
  · rintro ⟨before, letters, event, blanks, after, rfl, spelled, filled,
      worded, blank⟩
    refine ⟨before, letters ++ (event ++ (blanks ++ ['='])), after, ?_,
      letters, event ++ (blanks ++ ['=']), rfl, reads_literal.mpr spelled,
      event, blanks ++ ['='], rfl, reads_atLeastOne.mpr ⟨filled, worded⟩,
      blanks, ['='], rfl, blank, reads_literal.mpr (equals.mpr rfl)⟩
    simp only [List.append_assoc, List.cons_append, List.nil_append]

theorem holds_word_iff {word : String}
    (listed : word ∈
      ["<script", "javascript:", "<iframe", "<object", "<embed"]) :
    Holds chars word ↔
      ∃ before letters after, chars = before ++ (letters ++ after) ∧
        Spells letters word := by
  constructor
  · intro holds
    cases holds with
    | word _ place spelled => exact ⟨_, _, _, place, spelled⟩
    | handler _ _ _ _ _ => exact absurd listed (by decide)
  · rintro ⟨before, letters, after, place, spelled⟩
    exact Holds.word listed place spelled

theorem holds_handler_iff :
    Holds chars "on\\w+\\s*=" ↔
      ∃ before letters event blanks after,
        chars = before ++ (letters ++ (event ++ (blanks ++ '=' :: after))) ∧
          Spells letters "on" ∧ event ≠ [] ∧
            (∀ c ∈ event, isWord c = true) ∧ ∀ c ∈ blanks, isBlank c = true := by
  constructor
  · intro holds
    cases holds with
    | word listed _ _ => exact absurd listed (by decide)
    | handler place spelled filled worded blank =>
        exact ⟨_, _, _, _, _, place, spelled, filled, worded, blank⟩
  · rintro ⟨before, letters, event, blanks, after, place, spelled, filled,
      worded, blank⟩
    exact Holds.handler place spelled filled worded blank

/-- Each of the patterns looks for what it is named after. -/
theorem occursIn_iff_holds {entry : String × Pattern}
    (listed : entry ∈ dangerousPatterns) :
    entry.2.occursIn chars = true ↔ Holds chars entry.1 := by
  simp only [dangerousPatterns, List.mem_cons, List.not_mem_nil,
    or_false] at listed
  rcases listed with rfl | rfl | rfl | rfl | rfl | rfl
  · rw [occursIn_literal_iff, holds_word_iff (by decide)]
  · rw [occursIn_literal_iff, holds_word_iff (by decide)]
  · rw [occursIn_handlerAttribute_iff, holds_handler_iff]
  · rw [occursIn_literal_iff, holds_word_iff (by decide)]
  · rw [occursIn_literal_iff, holds_word_iff (by decide)]
  · rw [occursIn_literal_iff, holds_word_iff (by decide)]

theorem map_fst_dangerousPatterns :
    dangerousPatterns.map Prod.fst = dangerNames :=
  rfl

theorem dangerIn?_eq_none_iff :
    dangerIn? chars = none ↔ ∀ name ∈ dangerNames, ¬ Holds chars name := by
  rw [dangerIn?, Option.map_eq_none_iff, List.find?_eq_none,
    ← map_fst_dangerousPatterns, List.forall_mem_map]
  exact forall₂_congr fun entry listed =>
    not_congr (occursIn_iff_holds listed)

theorem dangerIn?_eq_some_iff {name : String} :
    dangerIn? chars = some name ↔
      ∃ before others, dangerNames = before ++ name :: others ∧
        (∀ earlier ∈ before, ¬ Holds chars earlier) ∧ Holds chars name := by
  rw [dangerIn?, Option.map_eq_some_iff]
  constructor
  · rintro ⟨entry, found, rfl⟩
    obtain ⟨occurs, before, others, order, absent⟩ :=
      List.find?_eq_some_iff_append.mp found
    have listed : ∀ item ∈ before, item ∈ dangerousPatterns := by
      intro item member
      rw [order]
      exact List.mem_append_left _ member
    refine ⟨before.map Prod.fst, others.map Prod.fst, ?_, ?_,
      (occursIn_iff_holds (List.mem_of_find?_eq_some found)).mp occurs⟩
    · rw [← map_fst_dangerousPatterns, order, List.map_append, List.map_cons]
    · rw [List.forall_mem_map]
      intro item member
      rw [← occursIn_iff_holds (listed item member)]
      simpa using absent item member
  · rintro ⟨before, others, order, absent, present⟩
    obtain ⟨earlier, later, partition, rfl, rest⟩ :=
      List.map_eq_append_iff.mp (map_fst_dangerousPatterns.trans order)
    obtain ⟨entry, behind, rfl, rfl, _⟩ := List.map_eq_cons_iff.mp rest
    have listed : ∀ item ∈ earlier ++ entry :: behind,
        item ∈ dangerousPatterns := by
      intro item member
      rw [partition]
      exact member
    refine ⟨entry, List.find?_eq_some_iff_append.mpr
      ⟨?_, earlier, behind, partition, fun item member => ?_⟩, rfl⟩
    · exact (occursIn_iff_holds (listed entry (by simp))).mpr present
    · have missing := absent item.1 (List.mem_map_of_mem member)
      rw [← occursIn_iff_holds (listed item (by simp [member]))] at missing
      simpa using missing

theorem Holds.surrounded {name : String} (holds : Holds chars name)
    (before after : List Char) : Holds (before ++ chars ++ after) name := by
  cases holds with
  | @word front letters back _ listed place spelled =>
      have around :
          before ++ chars ++ after =
            (before ++ front) ++ (letters ++ (back ++ after)) := by
        simp only [place, List.append_assoc]
      exact Holds.word listed around spelled
  | @handler front letters event blanks back place spelled filled worded
      blank =>
      have around :
          before ++ chars ++ after =
            (before ++ front) ++
              (letters ++ (event ++ (blanks ++ '=' :: (back ++ after)))) := by
        simp only [place, List.append_assoc, List.cons_append]
      exact Holds.handler around spelled filled worded blank

end Dangers

/-! ## Outcomes -/

theorem specialCount_eq_bracketCount (chars : List Char) :
    specialCount chars = bracketCount chars := by
  have same : ∀ c, isSpecial c = decide (c ∈ brackets) := by
    intro c
    simp only [isSpecial, brackets, List.mem_cons, List.not_mem_nil, or_false,
      Bool.decide_or, beq_eq_decide, Bool.or_assoc]
  rw [specialCount, bracketCount, List.countP_eq_length_filter]
  exact congrArg List.length (List.filter_congr fun c _ => same c)

theorem bracketCount_le_surrounded (before chars after : List Char) :
    bracketCount chars ≤ bracketCount (before ++ chars ++ after) := by
  simp only [bracketCount, List.filter_append, List.length_append]
  omega

section Outcomes

variable {limit : Int} {chars : List Char}

theorem verdict_check (limit : Int) (chars : List Char) :
    Verdict limit chars (check limit chars) := by
  rw [check]
  split
  · rename_i long
    exact Verdict.tooLong long
  · rename_i notLong
    have short : (chars.length : Int) ≤ limit := Int.not_lt.mp notLong
    split
    · rename_i name found
      obtain ⟨before, others, order, absent, present⟩ :=
        dangerIn?_eq_some_iff.mp found
      exact Verdict.dangerous short order absent present
    · rename_i missing
      have harmless := dangerIn?_eq_none_iff.mp missing
      rw [specialCount_eq_bracketCount]
      split
      · rename_i many
        exact Verdict.crowded short harmless many
      · rename_i notMany
        exact Verdict.accepted short harmless (Nat.le_of_not_lt notMany)

theorem Verdict.eq_check {outcome : Except Rejection Unit}
    (verdict : Verdict limit chars outcome) :
    check limit chars = outcome := by
  rw [check]
  cases verdict with
  | tooLong long => rw [if_pos long]
  | dangerous short order absent present =>
      have found := dangerIn?_eq_some_iff.mpr
        ⟨_, _, order, absent, present⟩
      rw [if_neg (Int.not_lt.mpr short), found]
  | crowded short harmless many =>
      have missing := dangerIn?_eq_none_iff.mpr harmless
      rw [if_neg (Int.not_lt.mpr short), missing,
        specialCount_eq_bracketCount]
      exact if_pos many
  | accepted short harmless few =>
      have missing := dangerIn?_eq_none_iff.mpr harmless
      rw [if_neg (Int.not_lt.mpr short), missing,
        specialCount_eq_bracketCount]
      exact if_neg (Nat.not_lt.mpr few)

/-- The earlier of two dangers is found first. -/
theorem idxOf_le_of_first {before others : List String} {first name : String}
    (order : dangerNames = before ++ first :: others)
    (absent : name ∉ before) :
    dangerNames.idxOf first ≤ dangerNames.idxOf name := by
  have firstPlace : dangerNames.idxOf first ≤ before.length := by
    rw [order, List.idxOf_append]
    split
    · rename_i member
      exact Nat.le_of_lt (List.idxOf_lt_length_iff.mpr member)
    · rw [List.idxOf_cons_self]
      exact Nat.le_of_eq (Nat.zero_add _)
  have otherPlace : before.length ≤ dangerNames.idxOf name := by
    rw [order, List.idxOf_append_of_notMem absent]
    exact Nat.le_add_right _ _
  exact Nat.le_trans firstPlace otherPlace

theorem mem_of_order {before others : List String} {name : String}
    (order : dangerNames = before ++ name :: others) :
    name ∈ dangerNames := by
  rw [order]
  exact List.mem_append_right before List.mem_cons_self

/-- Whatever is written around a rejected text, the whole has a verdict that is
no later. -/
theorem Verdict.surrounded {cause : Rejection}
    (verdict : Verdict limit chars (Except.error cause))
    (before after : List Char) :
    ∃ other, Verdict limit (before ++ chars ++ after) (Except.error other) ∧
      place other ≤ place cause := by
  have longer : chars.length ≤ (before ++ chars ++ after).length := by
    simp only [List.length_append]
    omega
  have whole := verdict_check limit (before ++ chars ++ after)
  generalize check limit (before ++ chars ++ after) = outcome at whole
  cases whole with
  | tooLong long =>
      exact ⟨_, Verdict.tooLong long, Nat.zero_le _⟩
  | @dangerous earlier others name short order absent present =>
      refine ⟨_, Verdict.dangerous short order absent present, ?_⟩
      cases verdict with
      | tooLong long => omega
      | @dangerous _ _ inner _ _ _ innerPresent =>
          have missing : inner ∉ earlier := fun member =>
            absent inner member (innerPresent.surrounded before after)
          exact Nat.succ_le_succ (idxOf_le_of_first order missing)
      | crowded _ _ _ =>
          have inside :=
            List.idxOf_lt_length_iff.mpr (mem_of_order order)
          exact Nat.succ_le_succ (Nat.le_of_lt inside)
  | crowded short harmless many =>
      refine ⟨_, Verdict.crowded short harmless many, ?_⟩
      cases verdict with
      | tooLong long => omega
      | dangerous _ order _ present =>
          exact absurd (present.surrounded before after)
            (harmless _ (mem_of_order order))
      | crowded _ _ _ => exact Nat.le_refl _
  | accepted short harmless few =>
      cases verdict with
      | tooLong long => omega
      | dangerous _ order _ present =>
          exact absurd (present.surrounded before after)
            (harmless _ (mem_of_order order))
      | crowded _ _ many =>
          have more := bracketCount_le_surrounded before chars after
          omega

end Outcomes

/-- The guard gives the verdict that is due, and what surrounds a text cannot save
it. -/
theorem decides_check (limit : Int) (chars : List Char) :
    Decides limit chars where
  verdict outcome := by
    constructor
    · rintro rfl
      exact verdict_check limit chars
    · intro verdict
      exact verdict.eq_check
  surrounded before after cause rejected := by
    have verdict := verdict_check limit chars
    rw [rejected] at verdict
    obtain ⟨other, whole, earlier⟩ := verdict.surrounded before after
    exact ⟨other, whole.eq_check, earlier⟩

/-- False starts in front of an event handler, and a frame around it. -/
example :
    check 100 "oonon<onon\u0131 =<iframe".toList =
      Except.error (Rejection.dangerous "on\\w+\\s*=") := by
  decide +kernel

end Guard

end UtilityCss
