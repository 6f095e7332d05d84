import Mathlib.Data.List.Induction
import UtilityCss.Proofs.Desk.Run

/-!
# The latest submission wins

A call with a token gives nothing exactly when the dispatcher of the token has
moved on between the moment it handed the token out and the moment the call
ended.  Whether the token is current is asked at the end of every call, and
dispatchers only move forward; so a token that is not current any more has been
superseded, and the last submission of a dispatcher is the one that can win.
-/

namespace UtilityCss

/-- The action moves the dispatcher on by one generation. -/
def Action.advances (dispatcher : Nat) : Action → Bool
  | Action.issue other => other == dispatcher
  | Action.cancel other => other == dispatcher
  | Action.submit other _ _ => other == dispatcher
  | Action.convert _ _ => false
  | Action.wake _ => false
  | Action.reply _ _ => false
  | Action.reset => false

namespace Desk

/-! ## Generations -/

theorem generations_advance (desk : Desk) (other dispatcher : Nat) :
    (desk.advance other).generations dispatcher =
      desk.generations dispatcher +
        if (other == dispatcher) = true then 1 else 0 := by
  by_cases same : dispatcher = other
  · simp [advance, same]
  · simp [advance, same, Ne.symm same]

theorem generations_step (desk : Desk) (action : Action) (dispatcher : Nat) :
    (desk.step action).1.generations dispatcher =
      desk.generations dispatcher +
        if action.advances dispatcher = true then 1 else 0 := by
  rw [(turn_step desk action).generations]
  cases action with
  | issue other => exact generations_advance desk other dispatcher
  | cancel other => exact generations_advance desk other dispatcher
  | submit other text delayed =>
      exact generations_advance desk other dispatcher
  | _ => rfl

/-- The generation of a dispatcher counts how often it has moved on. -/
theorem generations_run (desk : Desk) (actions : List Action)
    (dispatcher : Nat) :
    (desk.run actions).1.generations dispatcher =
      desk.generations dispatcher +
        actions.countP (Action.advances dispatcher) := by
  induction actions generalizing desk with
  | nil => rfl
  | cons action actions inductionHypothesis =>
      have later := inductionHypothesis (desk.step action).1
      rw [generations_step] at later
      rw [List.countP_cons, run_cons]
      omega

/-! ## Tokens -/

/-- The token that an action hands out at a desk. -/
def issued? (desk : Desk) : Action → Option Token
  | Action.issue dispatcher =>
      some ((desk.advance dispatcher).latest dispatcher)
  | Action.submit dispatcher _ _ =>
      some ((desk.advance dispatcher).latest dispatcher)
  | _ => none

/-- The token has been handed out during the actions. -/
def Issued (settings : Settings) (actions : List Action) (token : Token) :
    Prop :=
  ∃ before action rest,
    actions = before ++ action :: rest ∧
      (after settings before).issued? action = some token

/-- The token has been handed out, and its dispatcher has issued, submitted or
cancelled once more since then. -/
def Superseded (settings : Settings) (actions : List Action) (token : Token) :
    Prop :=
  ∃ before action between later rest,
    actions = before ++ action :: (between ++ later :: rest) ∧
      (after settings before).issued? action = some token ∧
      later.advances token.dispatcher = true

/-- Every token that a conversion is called with has been handed out before. -/
def Genuine (settings : Settings) (actions : List Action) : Prop :=
  ∀ before text token rest,
    actions = before ++ Action.convert text (some token) :: rest →
      Issued settings before token

theorem generation_of_issued {desk : Desk} {action : Action} {token : Token}
    (issued : desk.issued? action = some token) :
    action.advances token.dispatcher = true ∧
      token.generation = desk.generations token.dispatcher + 1 := by
  cases action with
  | issue dispatcher =>
      obtain rfl := Option.some.inj issued
      exact ⟨beq_self_eq_true dispatcher, by simp [latest, advance]⟩
  | submit dispatcher text delayed =>
      obtain rfl := Option.some.inj issued
      exact ⟨beq_self_eq_true dispatcher, by simp [latest, advance]⟩
  | _ => cases issued

/-- The generation of a dispatcher is that of a token it has handed out, and one
more for every time it has moved on since. -/
theorem generations_of_issued {settings : Settings}
    {before rest : List Action} {action : Action} {token : Token}
    (issued : (after settings before).issued? action = some token) :
    (after settings (before ++ action :: rest)).generations
        token.dispatcher =
      token.generation +
        rest.countP (Action.advances token.dispatcher) := by
  obtain ⟨advances, generation⟩ := generation_of_issued issued
  rw [after_append, generations_run, List.countP_cons, if_pos advances,
    generation]
  omega

theorem Issued.append {settings : Settings} {actions : List Action}
    {token : Token} (issued : Issued settings actions token)
    (more : List Action) : Issued settings (actions ++ more) token := by
  obtain ⟨before, action, rest, rfl, handed⟩ := issued
  exact ⟨before, action, rest ++ more, by simp, handed⟩

theorem Genuine.of_append {settings : Settings} {actions more : List Action}
    (genuine : Genuine settings (actions ++ more)) :
    Genuine settings actions := by
  intro before text token rest partition
  exact genuine before text token (rest ++ more) (by simp [partition])

/-- A token that was handed out is superseded exactly when it is not current
any more. -/
theorem superseded_iff {settings : Settings} {actions : List Action}
    {token : Token} (issued : Issued settings actions token) :
    Superseded settings actions token ↔
      (after settings actions).wants (some token) = false := by
  rw [wants, isCurrent, beq_eq_false_iff_ne]
  constructor
  · rintro ⟨before, action, between, later, rest, rfl, handed, advances⟩
    rw [generations_of_issued handed, List.countP_append, List.countP_cons,
      if_pos advances]
    omega
  · intro stale
    obtain ⟨before, action, rest, rfl, handed⟩ := issued
    rw [generations_of_issued handed] at stale
    have moved : 0 < rest.countP (Action.advances token.dispatcher) := by
      omega
    obtain ⟨later, member, advances⟩ := List.countP_pos_iff.mp moved
    obtain ⟨between, others, rfl⟩ := List.append_of_mem member
    exact ⟨before, action, between, later, others, rfl, handed, advances⟩

theorem issued_of_arrival? {settings : Settings} {actions : List Action}
    {action : Action} (genuine : Genuine settings (actions ++ [action]))
    {entry : Call} {token : Token}
    (arrives : (after settings actions).arrival? action = some entry)
    (named : entry.token = some token) :
    Issued settings (actions ++ [action]) token := by
  cases action with
  | convert text given =>
      obtain rfl := Option.some.inj arrives
      obtain rfl : given = some token := named
      exact (genuine actions text token [] rfl).append _
  | submit dispatcher text delayed =>
      obtain rfl := Option.some.inj arrives
      exact ⟨actions, _, [], rfl, named⟩
  | _ => cases arrives

theorem issued_of_call {settings : Settings} {actions : List Action}
    (genuine : Genuine settings actions) {call : Nat} {entry : Call}
    {token : Token}
    (here : (after settings actions).calls[call]? = some entry)
    (named : entry.token = some token) : Issued settings actions token := by
  induction actions using List.reverseRecOn generalizing entry with
  | nil => simp [after, create, run] at here
  | append_singleton actions action inductionHypothesis =>
      rw [after_concat] at here
      obtain ⟨progress, present⟩ := (turn_step _ action).origin here
      rcases received_call_cases present with old | ⟨_, arrives⟩
      · exact (inductionHypothesis genuine.of_append old named).append _
      · exact issued_of_arrival? genuine arrives named

/-! ## The end of a call -/

/-- The call ends with this answer at the last of the actions. -/
def Finishes (settings : Settings) (actions : List Action) (call : Nat)
    (answer : Option Conversion) : Prop :=
  ∃ before last,
    actions = before ++ [last] ∧
      (after settings before).answer? call = none ∧
      (after settings actions).answer? call = some answer

theorem commit_eq_none_iff (wanted : Bool) (result : Conversion) :
    Processor.commit wanted result = none ↔ wanted = false := by
  cases wanted with
  | true => simp [Processor.commit]
  | false => simp [Processor.commit]

theorem Changed.answer_iff {desk : Desk} {action : Action} {call : Nat}
    {entry : Call} (changed : Changed desk action call entry)
    {answer : Option Conversion}
    (ended : entry.progress = Progress.ended answer) :
    answer = none ↔ desk.wants entry.token = false := by
  cases changed with
  | @opening text token asleep =>
      rw [opened] at ended
      split at ended
      · cases ended
        exact commit_eq_none_iff _ _
      · cases ended
  | dropping asleep unwanted =>
      cases ended
      exact ⟨fun _ => unwanted, fun _ => rfl⟩
  | @continuing text token job extraction later reply answered waiting taken =>
      cases later with
      | ended outcome =>
          cases ended
          exact commit_eq_none_iff _ _
      | _ => cases ended

/-- Every exit of a call asks whether its token is current at that moment. -/
theorem Finishes.answer_iff {settings : Settings} {actions : List Action}
    {call : Nat} {answer : Option Conversion}
    (finishes : Finishes settings actions call answer) {entry : Call}
    (here : (after settings actions).calls[call]? = some entry) :
    answer = none ↔ (after settings actions).wants entry.token = false := by
  obtain ⟨before, last, rfl, unfinished, finished⟩ := finishes
  obtain ⟨entry', here', ended⟩ := (answer?_eq_some_iff _ _ _).mp finished
  obtain rfl := Option.some.inj (here.symm.trans here')
  have turn := turn_step (after settings before) last
  rw [← after_concat] at turn
  rw [turn.wants]
  rcases turn.call_cases here with old | changed
  · -- a call that stands as before has ended before
    rcases received_call_cases old with present | ⟨_, arrives⟩
    · have already := (answer?_eq_some_iff _ _ _).mpr ⟨entry, present, ended⟩
      rw [unfinished] at already
      cases already
    · rw [asleep_of_arrival? arrives] at ended
      cases ended
  · exact changed.answer_iff ended

theorem exists_finishes {settings : Settings} {actions : List Action}
    {call : Nat} {answer : Option Conversion}
    (given : (after settings actions).answer? call = some answer) :
    ∃ upTo rest,
      actions = upTo ++ rest ∧ Finishes settings upTo call answer := by
  induction actions using List.reverseRecOn with
  | nil => simp [after, create, run, answer?] at given
  | append_singleton actions action inductionHypothesis =>
      -- either the last action ends the call, or an answer from before stays
      cases earlier : (after settings actions).answer? call with
      | none =>
          exact ⟨actions ++ [action], [], by simp, actions, action, rfl,
            earlier, given⟩
      | some old =>
          have same : old = answer := by
            have still := answer?_append earlier [action]
            exact Option.some.inj (still.symm.trans given)
          subst old
          obtain ⟨upTo, rest, rfl, finishes⟩ := inductionHypothesis earlier
          exact ⟨upTo, rest ++ [action], by simp, finishes⟩

theorem Finishes.superseded_iff {settings : Settings}
    {actions : List Action} (genuine : Genuine settings actions) {call : Nat}
    {answer : Option Conversion}
    (finishes : Finishes settings actions call answer) {entry : Call}
    {token : Token}
    (here : (after settings actions).calls[call]? = some entry)
    (named : entry.token = some token) :
    answer = none ↔ Superseded settings actions token := by
  rw [finishes.answer_iff here, named,
    Desk.superseded_iff (issued_of_call genuine here named)]

theorem Finishes.unfinished {settings : Settings}
    {first second : List Action} {call : Nat} {answer : Option Conversion}
    (finishes : Finishes settings (first ++ second) call answer)
    (later : second ≠ []) : (after settings first).answer? call = none := by
  obtain ⟨before, last, partition, unfinished, _⟩ := finishes
  have longer : before = first ++ second.dropLast := by
    rw [← List.dropLast_append_of_ne_nil later, partition,
      List.dropLast_concat]
  cases earlier : (after settings first).answer? call with
  | none => rfl
  | some old =>
      have still := answer?_append earlier second.dropLast
      rw [← longer, unfinished] at still
      cases still

/-! ## Submissions -/

/-- The call is a submission among the actions, and this is its token. -/
def Submission (settings : Settings) (actions : List Action) (call : Nat)
    (token : Token) : Prop :=
  ∃ before dispatcher text delayed rest,
    actions = before ++ Action.submit dispatcher text delayed :: rest ∧
      call = (after settings before).calls.length ∧
      (after settings before).issued?
          (Action.submit dispatcher text delayed) =
        some token

theorem Submission.append {settings : Settings} {actions : List Action}
    {call : Nat} {token : Token}
    (submitted : Submission settings actions call token)
    (more : List Action) :
    Submission settings (actions ++ more) call token := by
  obtain ⟨before, dispatcher, text, delayed, rest, rfl, place, handed⟩ :=
    submitted
  exact ⟨before, dispatcher, text, delayed, rest ++ more, by simp, place,
    handed⟩

theorem Submission.issued {settings : Settings} {actions : List Action}
    {call : Nat} {token : Token}
    (submitted : Submission settings actions call token) :
    Issued settings actions token := by
  obtain ⟨before, dispatcher, text, delayed, rest, partition, _, handed⟩ :=
    submitted
  exact ⟨before, _, rest, partition, handed⟩

theorem Submission.call {settings : Settings} {actions : List Action}
    {call : Nat} {token : Token}
    (submitted : Submission settings actions call token) :
    ∃ entry, (after settings actions).calls[call]? = some entry ∧
      entry.token = some token := by
  obtain ⟨before, dispatcher, text, delayed, rest, rfl, rfl, handed⟩ :=
    submitted
  have arrives :
      (after settings before).arrival?
          (Action.submit dispatcher text delayed) =
        some ⟨text, some token, Progress.asleep⟩ := by
    rw [← handed]
    rfl
  obtain ⟨progress, present, _⟩ :=
    (turn_step _ _).carries (received_of_arrival? arrives)
  obtain ⟨last, latest, _⟩ := run_carries present rest
  rw [after_append, run_cons]
  exact ⟨_, latest, rfl⟩

theorem Issued.generation_le {settings : Settings} {actions : List Action}
    {token : Token} (issued : Issued settings actions token) :
    token.generation ≤
      (after settings actions).generations token.dispatcher := by
  obtain ⟨before, action, rest, rfl, handed⟩ := issued
  rw [generations_of_issued handed]
  exact Nat.le_add_right _ _

/-- No token is handed out twice. -/
theorem issued_once {settings : Settings}
    {before before' rest rest' : List Action} {action action' : Action}
    {token : Token}
    (same : before ++ action :: rest = before' ++ action' :: rest')
    (handed : (after settings before).issued? action = some token)
    (handed' : (after settings before').issued? action' = some token) :
    before = before' := by
  -- whichever comes first moves its dispatcher past the token
  have never : ∀ {early late mid : List Action} {first second : Action},
      (after settings early).issued? first = some token →
        (after settings late).issued? second = some token →
          late ≠ early ++ first :: mid := by
    intro early late mid first second earlier later partition
    have expected := (generation_of_issued later).2
    rw [partition, generations_of_issued earlier] at expected
    omega
  rcases List.append_eq_append_iff.mp same with
    ⟨middle, longer, tail⟩ | ⟨middle, longer, tail⟩
  · cases middle with
    | nil => simpa using longer.symm
    | cons first mid =>
        obtain ⟨rfl, _⟩ := List.cons.inj tail
        exact absurd longer (never handed handed')
  · cases middle with
    | nil => simpa using longer
    | cons first mid =>
        obtain ⟨rfl, _⟩ := List.cons.inj tail
        exact absurd longer (never handed' handed)

theorem Submission.unique {settings : Settings} {actions : List Action}
    {call other : Nat} {token : Token}
    (submitted : Submission settings actions call token)
    (again : Submission settings actions other token) : call = other := by
  obtain ⟨before, _, _, _, rest, partition, rfl, handed⟩ := submitted
  obtain ⟨before', _, _, _, rest', partition', rfl, handed'⟩ := again
  rw [issued_once (partition.symm.trans partition') handed handed']

/-- When a submission ends with a result, all other submissions of its
dispatcher so far have earlier generations. -/
theorem generation_lt_of_finishes {settings : Settings}
    {actions : List Action} {call other : Nat} {token token' : Token}
    {result : Conversion}
    (finishes : Finishes settings actions other (some result))
    (submitted : Submission settings actions call token)
    (submitted' : Submission settings actions other token')
    (different : call ≠ other)
    (same : token.dispatcher = token'.dispatcher) :
    token.generation < token'.generation := by
  obtain ⟨entry, here, named⟩ := submitted'.call
  have wanted :
      ¬ (after settings actions).wants (some token') = false := by
    intro stale
    rw [← named, ← finishes.answer_iff here] at stale
    cases stale
  have current :
      (after settings actions).generations token'.dispatcher =
        token'.generation := by
    simpa [wants, isCurrent] using wanted
  have bound := submitted.issued.generation_le
  rw [same, current] at bound
  rcases Nat.lt_or_eq_of_le bound with earlier | equal
  · exact earlier
  · have tokens : token = token' := by
      cases token
      cases token'
      simp_all
    subst token'
    exact absurd (submitted.unique submitted') different

theorem Finishes.reaches {settings : Settings}
    {before rest upTo others : List Action} {action : Action}
    {answer : Option Conversion}
    (finishes :
      Finishes settings upTo (after settings before).calls.length answer)
    (partition : before ++ action :: rest = upTo ++ others) :
    ∃ mid, upTo = before ++ action :: mid ∧ rest = mid ++ others := by
  have absent :
      (after settings before).answer? (after settings before).calls.length =
        none := by
    simp [answer?]
  obtain ⟨_, _, _, _, finished⟩ := finishes
  rcases List.append_eq_append_iff.mp partition with
    ⟨middle, longer, tail⟩ | ⟨middle, shorter, _⟩
  · cases middle with
    | nil =>
        rw [longer, List.append_nil, absent] at finished
        cases finished
    | cons first mid =>
        obtain ⟨rfl, tailEq⟩ := List.cons.inj tail
        exact ⟨mid, longer, tailEq⟩
  · have already := answer?_append finished middle
    rw [← shorter, absent] at already
    cases already

/-- A submission that ends with nothing was overtaken while it was open. -/
theorem exists_moving_of_finishes {settings : Settings}
    {before mid : List Action} {dispatcher : Nat} {text : String}
    {delayed : Bool}
    (finishes :
      Finishes settings
        (before ++ Action.submit dispatcher text delayed :: mid)
        (after settings before).calls.length none) :
    ∃ between moving others,
      mid = between ++ moving :: others ∧
        moving.advances dispatcher = true ∧
        (after settings
            (before ++ Action.submit dispatcher text delayed :: between)).answer?
            (after settings before).calls.length =
          none := by
  let token := ((after settings before).advance dispatcher).latest dispatcher
  have handed :
      (after settings before).issued?
          (Action.submit dispatcher text delayed) =
        some token := rfl
  have submitted :
      Submission settings
        (before ++ Action.submit dispatcher text delayed :: mid)
        (after settings before).calls.length token :=
    ⟨before, dispatcher, text, delayed, mid, rfl, rfl, handed⟩
  obtain ⟨entry, here, named⟩ := submitted.call
  have stale := (finishes.answer_iff here).mp rfl
  rw [named, wants, isCurrent, beq_eq_false_iff_ne,
    generations_of_issued handed] at stale
  have moved : 0 < mid.countP (Action.advances dispatcher) := by
    have same : token.dispatcher = dispatcher := rfl
    rw [same] at stale
    omega
  obtain ⟨moving, member, advances⟩ := List.countP_pos_iff.mp moved
  obtain ⟨between, others, rfl⟩ := List.append_of_mem member
  refine ⟨between, moving, others, rfl, advances, ?_⟩
  rw [← List.cons_append, ← List.append_assoc] at finishes
  exact finishes.unfinished (List.cons_ne_nil _ _)

/-- The last submission of a dispatcher ends with a result unless the dispatcher
issues or cancels while it is open. -/
theorem last_submission_cases {settings : Settings}
    {before rest : List Action} {dispatcher : Nat} {text : String}
    {delayed : Bool} {answer : Option Conversion}
    (given :
      (after settings
          (before ++ Action.submit dispatcher text delayed :: rest)).answer?
          (after settings before).calls.length =
        some answer)
    (last : ∀ text' delayed',
      Action.submit dispatcher text' delayed' ∉ rest) :
    (∃ result, answer = some result) ∨
      ∃ between moving others,
        rest = between ++ moving :: others ∧
          (moving = Action.issue dispatcher ∨
            moving = Action.cancel dispatcher) ∧
          (after settings
              (before ++
                Action.submit dispatcher text delayed :: between)).answer?
              (after settings before).calls.length =
            none := by
  cases answer with
  | some result => exact Or.inl ⟨result, rfl⟩
  | none =>
      right
      obtain ⟨upTo, unseen, partition, finishes⟩ := exists_finishes given
      obtain ⟨mid, rfl, rfl⟩ := finishes.reaches partition
      obtain ⟨between, moving, others, rfl, advances, unfinished⟩ :=
        exists_moving_of_finishes finishes
      refine ⟨between, moving, others ++ unseen, by simp, ?_, unfinished⟩
      cases moving with
      | issue other => exact Or.inl (by rw [eq_of_beq advances])
      | cancel other => exact Or.inr (by rw [eq_of_beq advances])
      | submit other text' delayed' =>
          obtain rfl := eq_of_beq advances
          exact absurd (by simp) (last text' delayed')
      | _ => cases advances

/-- Whatever happens at a desk, a call with a token gives nothing exactly when
the dispatcher of the token issued, submitted or cancelled between handing it
out and the end of the call.  So the submissions of one dispatcher that end with
a result do so in the order of their generations, and when all calls have ended
the last of them has a result unless an issue or a cancellation came while it
was open. -/
theorem answer_none_iff_superseded (settings : Settings)
    (actions : List Action) (genuine : Genuine settings actions) :
    (∀ call entry token answer,
      (after settings actions).calls[call]? = some entry →
        entry.token = some token →
          entry.progress = Progress.ended answer →
            ∃ upTo rest,
              actions = upTo ++ rest ∧
                Finishes settings upTo call answer ∧
                (answer = none ↔ Superseded settings upTo token)) ∧
      (∀ first second call other token token' result result',
        first <+: second → second <+: actions →
          Finishes settings first call (some result) →
            Finishes settings second other (some result') →
              Submission settings first call token →
                Submission settings second other token' →
                  call ≠ other → token.dispatcher = token'.dispatcher →
                    token.generation < token'.generation) ∧
      ((∀ entry ∈ (after settings actions).calls,
          ∃ answer, entry.progress = Progress.ended answer) →
        ∀ before dispatcher text delayed rest,
          actions =
              before ++ Action.submit dispatcher text delayed :: rest →
            (∀ text' delayed',
                Action.submit dispatcher text' delayed' ∉ rest) →
              (∃ result,
                (after settings actions).answer?
                    (after settings before).calls.length =
                  some (some result)) ∨
                ∃ between moving others,
                  rest = between ++ moving :: others ∧
                    (moving = Action.issue dispatcher ∨
                      moving = Action.cancel dispatcher) ∧
                    (after settings
                        (before ++
                          Action.submit dispatcher text delayed ::
                            between)).answer?
                        (after settings before).calls.length =
                      none) := by
  refine ⟨?_, ?_, ?_⟩
  · intro call entry token answer here named ended
    have given :=
      (answer?_eq_some_iff (after settings actions) call answer).mpr
        ⟨entry, here, ended⟩
    obtain ⟨upTo, rest, rfl, finishes⟩ := exists_finishes given
    obtain ⟨_, _, _, _, finished⟩ := id finishes
    obtain ⟨entry', present, _⟩ := (answer?_eq_some_iff _ _ _).mp finished
    obtain ⟨progress, later, _⟩ := run_carries present rest
    rw [← after_append, here] at later
    have sameToken : entry'.token = some token := by
      rw [← named, Option.some.inj later]
    exact ⟨upTo, rest, rfl, finishes,
      finishes.superseded_iff genuine.of_append present sameToken⟩
  · rintro first _ call other token token' result result' ⟨unseen, rfl⟩ _ _
      finishes submitted submitted' different same
    exact generation_lt_of_finishes finishes (submitted.append unseen)
      submitted' different same
  · rintro allEnded before dispatcher text delayed rest rfl last
    have submitted :
        Submission settings
          (before ++ Action.submit dispatcher text delayed :: rest)
          (after settings before).calls.length
          (((after settings before).advance dispatcher).latest dispatcher) :=
      ⟨before, dispatcher, text, delayed, rest, rfl, rfl, rfl⟩
    obtain ⟨entry, here, _⟩ := submitted.call
    obtain ⟨answer, ended⟩ := allEnded entry (List.mem_of_getElem? here)
    have given := (answer?_eq_some_iff _ _ _).mpr ⟨entry, here, ended⟩
    rcases last_submission_cases given last with ⟨result, rfl⟩ | overtaken
    · exact Or.inl ⟨result, given⟩
    · exact Or.inr overtaken

/-- A submission that sleeps, and a token that is issued and used meanwhile. -/
def overtaking : List Action :=
  [Action.submit 0 "p-4" true, Action.issue 0,
    Action.convert "" (some ⟨0, 2⟩), Action.wake 0]

theorem genuine_overtaking (settings : Settings) :
    Genuine settings overtaking := by
  intro before text token rest partition
  have given : before = [Action.submit 0 "p-4" true, Action.issue 0] ∧
      token = ⟨0, 2⟩ := by
    rcases before with
      _ | ⟨first, _ | ⟨second, _ | ⟨third, _ | ⟨fourth, others⟩⟩⟩⟩
    all_goals simp_all [overtaking]
  obtain ⟨rfl, rfl⟩ := given
  exact ⟨[Action.submit 0 "p-4" true], Action.issue 0, [], rfl, rfl⟩

/-- The submission gives nothing: its dispatcher has issued a token while it was
asleep. -/
theorem answer_none_iff_superseded_asleep :
    Genuine Settings.usual overtaking ∧
      (after Settings.usual overtaking).calls[0]? =
        some ⟨"p-4", some ⟨0, 1⟩, Progress.ended none⟩ ∧
      ∃ upTo rest,
        overtaking = upTo ++ rest ∧
          Finishes Settings.usual upTo 0 none ∧
          Superseded Settings.usual upTo ⟨0, 1⟩ := by
  have genuine := genuine_overtaking Settings.usual
  have here :
      (after Settings.usual overtaking).calls[0]? =
        some ⟨"p-4", some ⟨0, 1⟩, Progress.ended none⟩ := rfl
  obtain ⟨ofCall, _, _⟩ :=
    answer_none_iff_superseded Settings.usual overtaking genuine
  obtain ⟨upTo, rest, partition, finishes, superseded⟩ :=
    ofCall 0 _ ⟨0, 1⟩ none here rfl rfl
  exact ⟨genuine, here, upTo, rest, partition, finishes, superseded.mp rfl⟩

end Desk

end UtilityCss
