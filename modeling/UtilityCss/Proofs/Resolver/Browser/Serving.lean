import UtilityCss.Conversion
import UtilityCss.Proofs.Resolver.Browser.Custody
import UtilityCss.Proofs.Resolver.Browser.Rollback

/-!
# Conversions that the engine fails

A conversion asks the browser resolver for a context, its styles and its end,
and each of them is an errand of its own.  Whatever state it finds the resolver
in when it has its turn, and however the engine answers, the conversion comes to
its end.  An error of the engine that it does not survive is reported by what was
being called, and a startup that fails in this way leaves the resolver as if it
had never been started.
-/

namespace UtilityCss.Browser

open BrowserResolver Watched

/-- A conversion that a browser resolver serves, with what it has exchanged with
the engine. -/
structure Serving where
  watched : Watched
  extraction : Extraction
  errand : Nat
  exchanges : List Exchange

namespace Serving

/-- Begins the errand that the extraction asks for. -/
def ask (serving : Serving) : Serving :=
  match serving.extraction.request? with
  | none => serving
  | some request =>
      { serving with
        watched := serving.watched.step (eventOf request)
        errand := serving.watched.resolver.errands.length }

def begin (watched : Watched) (classes : String) : Serving :=
  ask ⟨watched, Extraction.creating classes, 0, []⟩

/-- A conversion that has waited in line for its turn. -/
def resume (watched : Watched) (classes : String) (errand : Nat) : Serving :=
  ⟨watched.step Event.advance, Extraction.creating classes, errand, []⟩

def call? (serving : Serving) : Option Call :=
  serving.watched.resolver.call? serving.errand

/-- Hands the reply of the errand to the extraction, if there is one. -/
def handOver (serving : Serving) : Serving :=
  match (serving.watched.resolver.reply? serving.errand).bind
      serving.extraction.take? with
  | none => serving
  | some later => { serving with extraction := later }.ask

/-- The engine answers the call that the conversion waits for. -/
def answer (serving : Serving) (response : Response) : Serving :=
  match serving.call? with
  | none => serving
  | some call =>
      let told : Serving :=
        { serving with
          watched :=
            serving.watched.step (Event.answer serving.errand response)
          exchanges := serving.exchanges ++ [⟨call, response⟩] }
      told.handOver

def run (serving : Serving) (responses : List Response) : Serving :=
  responses.foldl answer serving

/-- The result of the conversion when it has come to its end. -/
def result? (serving : Serving) (job : Job) : Option Conversion :=
  serving.extraction.outcome?.map fun outcome =>
    (Processor.closingResult job outcome).1

/-! ## What becomes of a failed conversion -/

/-- The resolver is as if it had never been started, though others may still
stand in line, and what has been brought up in between is gone. -/
structure RolledBack (before after : Watched) : Prop where
  fresh : after.resolver =
    { BrowserResolver.create before.resolver.options with
      errands := after.resolver.errands
      line := before.resolver.line.tail
      serial := after.resolver.serial }
  stopped : after.resolver.isStarted = false
  drivers : after.running.drivers.Sublist before.running.drivers
  browsers : after.running.browsers.Sublist before.running.browsers
  /-- What could still run is what ran before without a page to use. -/
  spotless : ¬ Stranded before.resolver.holdings before.running →
    after.running = Running.nothing
  /-- The next conversion starts the engine. -/
  afresh : ∀ classes, after.resolver.line = [] →
    (begin after classes).call? = some Call.start
  /-- If others stand in line, the first of them is the next. -/
  resumed : ∀ classes errand others, after.resolver.line = errand :: others →
    after.resolver.errands[errand]? = some (Errand.queued classes) →
      (resume after classes errand).call? = some Call.start

/-- What a conversion makes of the answers of the engine. -/
structure Withstands (before : Watched) (opened : Serving) (job : Job)
    (responses : List Response) : Prop where
  /-- After so many answers the conversion waits for no more. -/
  ends : 14 ≤ responses.length → (opened.run responses).call? = none
  retried : Retried (opened.run responses).exchanges
  /-- An error that the conversion does not survive is reported by its call and
  its text. -/
  classified : ∀ call text, Harm (opened.run responses).exchanges call text →
    Docile (opened.run responses).exchanges →
      (opened.run responses).call? = none →
        (opened.run responses).result? job =
          some ⟨"", some (Failure.ofKind (kindDue call text)), none⟩
  rolledBack : ∀ call text,
    Harm (opened.run responses).exchanges call text →
      call.isStartup = true →
        Docile (opened.run responses).exchanges →
          (opened.run responses).call? = none →
            RolledBack before (opened.run responses).watched

/-- A conversion withstands whatever the engine answers, be it that it has just
come in or that it has waited in line. -/
structure Resilient (watched : Watched) (job : Job)
    (responses : List Response) : Prop where
  arriving : Withstands watched (begin watched job.classes) job responses
  waiting : ∀ errand others, watched.resolver.line = errand :: others →
    watched.resolver.errands[errand]? = some (Errand.queued job.classes) →
      Withstands watched (resume watched job.classes errand) job responses

/-! ## One answer -/

/-- How far the extraction and its errand have come. -/
structure Stands (serving : Serving) (extraction : Extraction) (errand : Errand)
    (exchanges : List Exchange) : Prop where
  asks : serving.extraction = extraction
  here : serving.watched.resolver.errands[serving.errand]? = some errand
  told : serving.exchanges = exchanges

section Answering

variable {serving : Serving} {extraction later : Extraction}
  {errand next : Errand} {exchanges : List Exchange} {call : Call}
  {response : Response}

/-- The conversion with an answer that it has not looked at yet. -/
def heard (serving : Serving) (errand : Errand) (call : Call)
    (response : Response) : Serving :=
  { serving with
    watched := serving.watched.answered serving.errand errand call response
    exchanges := serving.exchanges ++ [⟨call, response⟩] }

theorem Stands.call?_eq (stands : serving.Stands extraction errand exchanges) :
    serving.call? = errand.call? serving.watched.resolver.options :=
  call?_of_here stands.here

theorem Stands.reply?_eq
    (stands : serving.Stands extraction errand exchanges) :
    (serving.watched.resolver.reply? serving.errand).bind
        serving.extraction.take? =
      errand.reply?.bind extraction.take? := by
  rw [BrowserResolver.reply?, stands.here, Option.bind_some, stands.asks]

theorem Stands.heard (stands : serving.Stands extraction errand exchanges)
    (call : Call) (response : Response) :
    (serving.heard errand call response).Stands extraction
      (errand.take serving.watched.resolver.holdings
        serving.watched.resolver.serial response).1
      (exchanges ++ [⟨call, response⟩]) where
  asks := stands.asks
  here := List.getElem?_set_self (List.getElem?_eq_some_iff.mp stands.here).1
  told := by rw [Serving.heard, stands.told]

theorem Stands.answer_eq (stands : serving.Stands extraction errand exchanges)
    (waits : errand.call? serving.watched.resolver.options = some call)
    (response : Response) :
    serving.answer response =
      (serving.heard errand call response).handOver := by
  have waiting := stands.call?_eq.trans waits
  rw [answer, waiting]
  simp only [step_answer_of_here stands.here waits]
  rfl

section Taking

variable (stands : serving.Stands extraction errand exchanges)
  (waits : errand.call? serving.watched.resolver.options = some call)
  (taken : (errand.take serving.watched.resolver.holdings
    serving.watched.resolver.serial response).1 = next)

include stands waits taken

/-- An answer after which the errand has no reply yet. -/
theorem Stands.answer_of_silent (silent : next.reply? = none) :
    serving.answer response = serving.heard errand call response := by
  have heard := stands.heard call response
  rw [stands.answer_eq waits, handOver, heard.reply?_eq, taken, silent]
  rfl

/-- An answer after which the extraction has a reply. -/
theorem Stands.answer_of_reply
    (replies : next.reply?.bind extraction.take? = some later) :
    serving.answer response =
      { serving.heard errand call response with extraction := later }.ask := by
  have heard := stands.heard call response
  rw [stands.answer_eq waits, handOver, heard.reply?_eq, taken, replies]

theorem Stands.answer_silent (silent : next.reply? = none) :
    (serving.answer response).Stands extraction next
      (exchanges ++ [⟨call, response⟩]) := by
  rw [stands.answer_of_silent waits taken silent, ← taken]
  exact stands.heard call response

theorem Stands.answer_ended {outcome : Except Fault StyleValues}
    (replies : next.reply?.bind extraction.take? =
      some (Extraction.ended outcome)) :
    (serving.answer response).Stands (Extraction.ended outcome) next
      (exchanges ++ [⟨call, response⟩]) := by
  have heard := stands.heard call response
  rw [stands.answer_of_reply waits taken replies, ← taken]
  exact ⟨rfl, heard.here, heard.told⟩

/-- An answer after which the extraction asks for an errand that begins without
more ado. -/
theorem Stands.answer_asks {request : Request} {begun : Errand}
    (replies : next.reply?.bind extraction.take? = some later)
    (asks : later.request? = some request)
    (begins : ∀ resolver : BrowserResolver,
      resolver.step (eventOf request) = resolver.begin begun) :
    (serving.answer response).Stands later begun
      (exchanges ++ [⟨call, response⟩]) := by
  have heard := stands.heard call response
  rw [stands.answer_of_reply waits taken replies, ask]
  simp only [asks]
  refine ⟨rfl, ?_, heard.told⟩
  rw [Watched.step, begins]
  exact List.getElem?_concat_length

end Taking

end Answering

/-! ## Where a conversion stands -/

/-- The outcome accounts for whatever harm was done, and the startup has met
none. -/
def Reports (exchanges : List Exchange)
    (outcome : Except Fault StyleValues) : Prop :=
  ∀ call text, Harm exchanges call text →
    call.isStartup = false ∧
      ∃ fault, outcome = Except.error fault ∧
        fault.classify = Failure.ofKind (kindDue call text)

/-- The conversion has left the line if it stood there, and has found no
page. -/
structure Sole (before watched : Watched) (starter : Option Nat) : Prop where
  options : watched.resolver.options = before.resolver.options
  starter : watched.resolver.starter = starter
  line : watched.resolver.line = before.resolver.line.tail
  pageless : before.resolver.holdings.page = none

/-- What a conversion that waits for no answer has come to. -/
inductive Over (before : Watched) (serving : Serving) : Prop
  | untold (untold : serving.exchanges = [])
  | ended {outcome : Except Fault StyleValues}
      (asks : serving.extraction = Extraction.ended outcome)
      (reports : Reports serving.exchanges outcome)
  | failed {fault : Fault}
      (asks : serving.extraction =
        Extraction.ended (Except.error fault.leavingSeries))
      (sole : Sole before serving.watched none)
      (undone : ∀ call text, Harm serving.exchanges call text →
        Docile serving.exchanges →
          Startup.Undone before.running call text fault
            serving.watched.resolver.holdings serving.watched.running)

/-- Where an extraction and its errand are once the page is there. -/
inductive Paged (exchanges : List Exchange) : Extraction → Errand → Prop
  | attaching {classes : String} {page : Nat}
      (harmless : Harmless exchanges) (soon : exchanges.length ≤ 10) :
      Paged exchanges (Extraction.creating classes)
        (Errand.attaching classes page)
  | discarding {classes : String} {handle : Nat}
      (harmless : Harmless exchanges) (soon : exchanges.length ≤ 11) :
      Paged exchanges (Extraction.creating classes) (Errand.discarding handle)
  | computing {context : StylingContext} {element : Nat}
      (owned : context.handle = Handle.element)
      (harmless : Harmless exchanges) (soon : exchanges.length ≤ 11) :
      Paged exchanges (Extraction.computing context) (Errand.computing element)
  | removing {context : StylingContext} {outcome : Except Fault StyleValues}
      (reports : Reports exchanges outcome) (soon : exchanges.length ≤ 12) :
      Paged exchanges (Extraction.destroying context outcome)
        (Errand.removing context)
  | releasing {context : StylingContext} {removal : Except Fault Unit}
      {outcome : Except Fault StyleValues}
      (reports : Reports exchanges outcome) (soon : exchanges.length ≤ 13) :
      Paged exchanges (Extraction.destroying context outcome)
        (Errand.releasing context removal)

/-- Where a conversion is that has begun in a given state. -/
inductive Stage (before : Watched) (serving : Serving) : Prop
  | still (silent : serving.call? = none) (rest : Over before serving)
      (retried : Retried serving.exchanges)
  | starting {classes : String} {startup : Startup}
      {exchanges : List Exchange}
      (stands : serving.Stands (Extraction.creating classes)
        (Errand.starting classes startup) exchanges)
      (sole : Sole before serving.watched (some serving.errand))
      (going : ∀ outcome, startup ≠ Startup.finished outcome)
      (climbs : Startup.Climbs before.running
        (startup, serving.watched.resolver.holdings) serving.watched.running
        exchanges)
      (soon : exchanges.length + startup.remaining ≤ 10)
  | paged {extraction : Extraction} {errand : Errand}
      {exchanges : List Exchange}
      (stands : serving.Stands extraction errand exchanges)
      (paged : Paged exchanges extraction errand)
      (retried : Retried exchanges)

section Stages

variable {before : Watched} {serving : Serving} {exchanges : List Exchange}
  {call : Call} {response : Response} {outcome : Except Fault StyleValues}

theorem retried_nil : Retried [] :=
  ⟨List.Pairwise.nil, Nat.zero_le 3⟩

theorem reports_of_harmless (harmless : Harmless exchanges) :
    Reports exchanges outcome :=
  fun call text harm => absurd harm (harmless call text)

theorem Reports.concat (reports : Reports exchanges outcome)
    (mild : ∀ timedOut, ¬ Fatal exchanges timedOut call) :
    Reports (exchanges ++ [⟨call, response⟩]) outcome := by
  intro harmed text harm
  rcases harm.of_concat with old | ⟨_, timedOut, _, fatal⟩
  · exact reports harmed text old
  · exact absurd fatal (mild timedOut)

/-- The first harm is reported as trouble with what the call was made for. -/
theorem reports_of_failed (harmless : Harmless exchanges)
    {fault passed : Fault} {usual : Trouble} {activity : String}
    (later : call.isStartup = false)
    (kind : ∀ text, kindDue call text =
      if "SecurityError".toList <:+: text.toList then
        ErrorKind.contextSecurity
      else usual.kind)
    (named : usual ≠ Trouble.unspecified)
    (passes : ∀ timedOut text, fault = Fault.engine timedOut text →
      passed = report usual activity (Fault.engine timedOut text)) :
    Reports (exchanges ++ [⟨call, Response.failed fault⟩])
      (Except.error passed) := by
  intro harmed text harm
  rcases harm.of_concat with old | ⟨rfl, timedOut, failed, _⟩
  · exact absurd old (harmless harmed text)
  · refine ⟨later, passed, rfl, ?_⟩
    rw [passes timedOut text (Response.failed.inj failed), kind,
      classify_report usual activity named]

theorem step_destroy_of_element {context : StylingContext}
    (owned : context.handle = Handle.element) (resolver : BrowserResolver) :
    resolver.step (Event.destroy context) =
      resolver.begin (Errand.removing context) := by
  rw [BrowserResolver.step, Errand.destroy, owned]

theorem afterStartup_of_going {startup : Startup}
    (going : ∀ outcome, startup ≠ Startup.finished outcome) (classes : String) :
    Errand.afterStartup classes startup = Errand.starting classes startup := by
  cases startup with
  | finished outcome => exact absurd rfl (going outcome)
  | _ => rfl

theorem length_concat_le {limit : Nat} (soon : exchanges.length ≤ limit)
    (last : Exchange) : (exchanges ++ [last]).length ≤ limit + 1 := by
  rw [List.length_append, List.length_singleton]
  exact Nat.succ_le_succ soon

theorem answer_of_silent (silent : serving.call? = none)
    (response : Response) : serving.answer response = serving := by
  rw [Serving.answer, silent]

theorem stage_of_ended {errand : Errand}
    (stands : serving.Stands (Extraction.ended outcome) errand exchanges)
    (still : errand.call? serving.watched.resolver.options = none)
    (reports : Reports exchanges outcome) (retried : Retried exchanges) :
    Stage before serving := by
  obtain ⟨asks, here, rfl⟩ := stands
  exact Stage.still ((call?_of_here here).trans still)
    (Over.ended asks reports) retried

/-- A startup begins beside whatever runs. -/
theorem stage_of_starting {classes : String}
    (stands : serving.Stands (Extraction.creating classes)
      (Errand.starting classes Startup.starting) [])
    (sole : Sole before serving.watched (some serving.errand))
    (same : serving.watched.running = before.running) :
    Stage before serving := by
  have going : ∀ outcome, Startup.starting ≠ Startup.finished outcome := by
    intro outcome different
    cases different
  refine Stage.starting stands sole going (Startup.Climbs.starting ?_)
    (Nat.le_refl 10)
  rw [same]
  exact Running.Adds.refl _

/-- An answer to a startup, which goes on, comes up with a page or fails. -/
theorem Stage.answer_starting {classes : String} {startup : Startup}
    (stands : serving.Stands (Extraction.creating classes)
      (Errand.starting classes startup) exchanges)
    (sole : Sole before serving.watched (some serving.errand))
    (climbs : Startup.Climbs before.running
      (startup, serving.watched.resolver.holdings) serving.watched.running
      exchanges)
    (soon : exchanges.length + startup.remaining ≤ 10)
    (waits : startup.call? serving.watched.resolver.options = some call)
    (response : Response) :
    Stage before (serving.answer response) := by
  have climbed := Startup.climbs_take climbs waits
    serving.watched.resolver.serial response
  have nearer := Startup.remaining_take_lt (climbs.patient waits)
    serving.watched.resolver.holdings serving.watched.resolver.serial response
  rcases taken : startup.take serving.watched.resolver.holdings
    serving.watched.resolver.serial response with ⟨next, left⟩
  rw [taken] at climbed nearer
  have longer : (exchanges ++ [(⟨call, response⟩ : Exchange)]).length +
      next.remaining ≤ 10 := by
    rw [List.length_append, List.length_singleton]
    have closer : next.remaining < startup.remaining := nearer
    omega
  have errandTaken : (Errand.starting classes startup).take
      serving.watched.resolver.holdings serving.watched.resolver.serial
        response = (Errand.afterStartup classes next, left) := by
    rw [Errand.take, taken]
  have first := congrArg Prod.fst errandTaken
  by_cases going : ∀ outcome, next ≠ Startup.finished outcome
  · rw [afterStartup_of_going going] at errandTaken first
    have heard := stands.answer_of_silent waits first rfl
    apply Stage.starting (stands.answer_silent waits first rfl) _ going _ longer
    · rw [heard, Serving.heard, answered, errandTaken]
      exact ⟨sole.options, sole.starter, sole.line, sole.pageless⟩
    · rw [heard, Serving.heard, answered, errandTaken]
      exact climbed
  · push Not at going
    obtain ⟨outcome, rfl⟩ := going
    cases outcome with
    | ok page =>
        cases climbed with
        | ready harmless retried =>
            exact Stage.paged (stands.answer_silent waits first rfl)
              (Paged.attaching harmless longer) retried
    | error fault =>
        cases climbed with
        | failed undone retried =>
            have heard := stands.answer_of_reply waits first rfl
            have ended := stands.answer_ended waits first rfl
            apply Stage.still ended.call?_eq
            · apply Over.failed ended.asks
              · rw [heard, Serving.heard, answered, errandTaken]
                exact ⟨sole.options, rfl, sole.line, sole.pageless⟩
              · rw [ended.told, heard, Serving.heard, answered, errandTaken]
                exact undone
            · rw [ended.told]
              exact retried

/-- An answer after the startup: harm that is done now is reported, and ending
the context does none. -/
theorem Stage.answer_paged {extraction : Extraction} {errand : Errand}
    (stands : serving.Stands extraction errand exchanges)
    (paged : Paged exchanges extraction errand) (retried : Retried exchanges)
    (response : Response) : Stage before (serving.answer response) := by
  cases paged with
  | attaching harmless soon =>
      have longer := length_concat_le soon
      cases response with
      | failed fault =>
          refine stage_of_ended (stands.answer_ended rfl rfl rfl) rfl ?_
            (retried.concat rfl)
          apply reports_of_failed harmless rfl (fun _ => rfl)
            (by decide : Trouble.construction ≠ Trouble.unspecified)
          rintro timedOut text rfl
          rfl
      | noElement =>
          exact Stage.paged (stands.answer_silent rfl rfl rfl)
            (Paged.discarding (harmless.concat_of_done rfl) (longer _))
            (retried.concat rfl)
      | _ =>
          exact Stage.paged (stands.answer_asks rfl rfl rfl rfl fun _ => rfl)
            (Paged.computing rfl (harmless.concat_of_done rfl) (longer _))
            (retried.concat rfl)
  | @discarding classes handle harmless soon =>
      have later : Harmless (exchanges ++ [⟨Call.dispose handle, response⟩]) :=
        harmless.concat fun _ _ _ => id
      cases response <;>
        exact stage_of_ended (stands.answer_ended rfl rfl rfl) rfl
          (reports_of_harmless later) (retried.concat rfl)
  | computing owned harmless soon =>
      have begins := step_destroy_of_element owned
      have longer := length_concat_le soon
      cases response with
      | failed fault =>
          refine Stage.paged (stands.answer_asks rfl rfl rfl rfl begins)
            (Paged.removing ?_ (longer _)) (retried.concat rfl)
          apply reports_of_failed harmless rfl (fun _ => rfl)
            (by decide : Trouble.computation ≠ Trouble.unspecified)
          rintro timedOut text rfl
          rfl
      | _ =>
          exact Stage.paged (stands.answer_asks rfl rfl rfl rfl begins)
            (Paged.removing (reports_of_harmless (harmless.concat_of_done rfl))
              (longer _))
            (retried.concat rfl)
  | removing reports soon =>
      cases response <;>
        exact Stage.paged (stands.answer_silent rfl rfl rfl)
          (Paged.releasing (reports.concat fun _ => id)
            (length_concat_le soon _))
          (retried.concat rfl)
  | releasing reports soon =>
      cases response <;>
        exact stage_of_ended (stands.answer_ended rfl rfl rfl) rfl
          (reports.concat fun _ => id) (retried.concat rfl)

theorem Stage.answer (stage : Stage before serving) (response : Response) :
    Stage before (serving.answer response) := by
  cases stage with
  | still silent rest retried =>
      rw [answer_of_silent silent]
      exact Stage.still silent rest retried
  | starting stands sole going climbs soon =>
      obtain ⟨call, waits⟩ :=
        climbs.exists_call going serving.watched.resolver.options
      exact Stage.answer_starting stands sole climbs soon waits response
  | paged stands paged retried =>
      exact Stage.answer_paged stands paged retried response

theorem begin_of_step {watched : Watched} {classes : String}
    {base : BrowserResolver} {errand : Errand}
    (stepped : watched.resolver.step (Event.create classes) =
      base.begin errand)
    (same : base.errands = watched.resolver.errands) :
    begin watched classes =
      ⟨⟨base.begin errand, watched.running.told (errand.call? base.options)⟩,
        Extraction.creating classes, base.errands.length, []⟩ := by
  rw [begin, ask]
  simp only [Extraction.request?, eventOf]
  rw [step_of_begin rfl stepped same, same]

theorem begin_of_free {watched : Watched}
    (pageless : watched.resolver.holdings.page = none)
    (free : watched.resolver.starter = none)
    (empty : watched.resolver.line = []) (classes : String) :
    begin watched classes =
      ⟨⟨({ watched.resolver with
          starter := some watched.resolver.errands.length } :
            BrowserResolver).begin
          (Errand.starting classes Startup.starting), watched.running⟩,
        Extraction.creating classes, watched.resolver.errands.length, []⟩ := by
  have stepped : watched.resolver.step (Event.create classes) =
      ({ watched.resolver with
        starter := some watched.resolver.errands.length } :
          BrowserResolver).begin
        (Errand.starting classes Startup.starting) := by
    simp only [BrowserResolver.step, beginCreate, pageless]
    rw [if_pos ⟨free, empty⟩]
  exact begin_of_step stepped rfl

/-- A conversion begins with the page that is there, by starting the engine, or
in line. -/
theorem stage_begin (watched : Watched) (classes : String) :
    Stage watched (begin watched classes) := by
  cases held : watched.resolver.holdings.page with
  | some page =>
      have stepped : watched.resolver.step (Event.create classes) =
          watched.resolver.begin (Errand.attaching classes page) := by
        rw [BrowserResolver.step, beginCreate, held]
      rw [begin_of_step stepped rfl]
      exact Stage.paged ⟨rfl, List.getElem?_concat_length, rfl⟩
        (Paged.attaching harmless_nil (Nat.zero_le 10)) retried_nil
  | none =>
      by_cases free : watched.resolver.starter = none ∧
          watched.resolver.line = []
      · have line : watched.resolver.line = watched.resolver.line.tail := by
          rw [free.2]
          rfl
        rw [begin_of_free held free.1 free.2]
        exact stage_of_starting ⟨rfl, List.getElem?_concat_length, rfl⟩
          ⟨rfl, rfl, line, held⟩ rfl
      · have stepped : watched.resolver.step (Event.create classes) =
            ({ watched.resolver with
              line :=
                watched.resolver.line ++ [watched.resolver.errands.length] } :
                BrowserResolver).begin (Errand.queued classes) := by
          simp only [BrowserResolver.step, beginCreate, held]
          rw [if_neg free]
        rw [begin_of_step stepped rfl]
        refine Stage.still ?_ (Over.untold rfl) retried_nil
        rw [Serving.call?, call?_of_here List.getElem?_concat_length]
        rfl

/-! ## Turns in line -/

section Lines

variable {watched : Watched} {classes : String} {errand : Nat}
  {others : List Nat} (line : watched.resolver.line = errand :: others)
  (here : watched.resolver.errands[errand]? = some (Errand.queued classes))

include line

theorem step_advance {base : BrowserResolver} {next : Errand}
    (stepped : watched.resolver.step Event.advance = base.put errand next)
    (inside : errand < base.errands.length) :
    watched.step Event.advance =
      ⟨base.put errand next,
        watched.running.told (next.call? base.options)⟩ := by
  have made : (base.put errand next).call? errand =
      next.call? base.options :=
    call?_of_here (List.getElem?_set_self inside)
  rw [Watched.step, stepped, turn?, line, List.head?_cons, Option.bind_some,
    made]
  rfl

include here

theorem resume_of_busy {starter : Nat}
    (busy : watched.resolver.starter = some starter) :
    resume watched classes errand =
      ⟨watched, Extraction.creating classes, errand, []⟩ := by
  have stepped : watched.resolver.step Event.advance = watched.resolver := by
    rw [BrowserResolver.step, advance, busy]
  have silent : watched.resolver.call? errand = none :=
    call?_of_here here
  rw [resume, Watched.step, stepped, turn?, line, List.head?_cons,
    Option.bind_some, silent]
  rfl

theorem resume_of_page (free : watched.resolver.starter = none) {page : Nat}
    (held : watched.resolver.holdings.page = some page) :
    resume watched classes errand =
      ⟨⟨({ watched.resolver with line := others } : BrowserResolver).put
          errand (Errand.attaching classes page), watched.running⟩,
        Extraction.creating classes, errand, []⟩ := by
  have stepped : watched.resolver.step Event.advance =
      ({ watched.resolver with line := others } : BrowserResolver).put
        errand (Errand.attaching classes page) := by
    rw [BrowserResolver.step, advance, free, line]
    simp only [here, held]
    rw [free]
  rw [resume, step_advance line stepped
    (List.getElem?_eq_some_iff.mp here).1]
  rfl

theorem resume_of_pageless (free : watched.resolver.starter = none)
    (pageless : watched.resolver.holdings.page = none) :
    resume watched classes errand =
      ⟨⟨({ watched.resolver with
            starter := some errand
            line := others } : BrowserResolver).put
          errand (Errand.starting classes Startup.starting), watched.running⟩,
        Extraction.creating classes, errand, []⟩ := by
  have stepped : watched.resolver.step Event.advance =
      ({ watched.resolver with
          starter := some errand
          line := others } : BrowserResolver).put
        errand (Errand.starting classes Startup.starting) := by
    rw [BrowserResolver.step, advance, free, line]
    simp only [here, pageless]
  rw [resume, step_advance line stepped
    (List.getElem?_eq_some_iff.mp here).1]
  rfl

/-- The first in line still waits for a startup, or goes on as a conversion that
has just come in. -/
theorem stage_resume : Stage watched (resume watched classes errand) := by
  have inside := (List.getElem?_eq_some_iff.mp here).1
  cases free : watched.resolver.starter with
  | some starter =>
      rw [resume_of_busy line here free]
      exact Stage.still (call?_of_here here) (Over.untold rfl) retried_nil
  | none =>
      cases held : watched.resolver.holdings.page with
      | some page =>
          rw [resume_of_page line here free held]
          exact Stage.paged ⟨rfl, List.getElem?_set_self inside, rfl⟩
            (Paged.attaching harmless_nil (Nat.zero_le 10)) retried_nil
      | none =>
          rw [resume_of_pageless line here free held]
          exact stage_of_starting ⟨rfl, List.getElem?_set_self inside, rfl⟩
            ⟨rfl, rfl, by rw [line]; rfl, held⟩ rfl

end Lines

theorem Stage.run (stage : Stage before serving) (responses : List Response) :
    Stage before (serving.run responses) := by
  induction responses generalizing serving with
  | nil => exact stage
  | cons response responses inductionHypothesis =>
      exact inductionHypothesis (stage.answer response)

/-! ## Results -/

theorem exchanges_ask (serving : Serving) :
    serving.ask.exchanges = serving.exchanges := by
  rw [ask]
  split <;> rfl

theorem exchanges_handOver (serving : Serving) :
    serving.handOver.exchanges = serving.exchanges := by
  rw [handOver]
  split
  · rfl
  · rw [exchanges_ask]

theorem length_exchanges_answer (waits : serving.call? = some call)
    (response : Response) :
    (serving.answer response).exchanges.length =
      serving.exchanges.length + 1 := by
  rw [Serving.answer, waits, exchanges_handOver]
  exact List.length_append

/-- A conversion that still waits has taken down every answer. -/
theorem length_exchanges_run {responses : List Response}
    (waits : (serving.run responses).call? ≠ none) :
    (serving.run responses).exchanges.length =
      serving.exchanges.length + responses.length := by
  induction responses generalizing serving with
  | nil => rfl
  | cons response responses inductionHypothesis =>
      have later := inductionHypothesis waits
      cases known : serving.call? with
      | none =>
          have silent : ∀ others, serving.run others = serving := by
            intro others
            induction others with
            | nil => rfl
            | cons other others inductionHypothesis =>
                rw [run, List.foldl_cons, answer_of_silent known]
                exact inductionHypothesis
          rw [silent] at waits
          exact absurd known waits
      | some call =>
          rw [length_exchanges_answer known] at later
          rw [List.length_cons]
          show ((serving.answer response).run responses).exchanges.length = _
          omega

theorem Paged.length_lt {extraction : Extraction} {errand : Errand}
    (paged : Paged exchanges extraction errand) : exchanges.length < 14 := by
  cases paged <;> omega

theorem Paged.exists_call {extraction : Extraction} {errand : Errand}
    (paged : Paged exchanges extraction errand) (options : Options) :
    ∃ call, errand.call? options = some call := by
  cases paged <;> exact ⟨_, rfl⟩

theorem Stage.length_lt_of_call? (stage : Stage before serving)
    (waits : serving.call? ≠ none) : serving.exchanges.length < 14 := by
  cases stage with
  | still silent rest retried => exact absurd silent waits
  | starting stands sole going climbs soon =>
      rw [stands.told]
      omega
  | paged stands paged retried =>
      rw [stands.told]
      exact paged.length_lt

theorem Stage.over_of_silent (stage : Stage before serving)
    (silent : serving.call? = none) : Over before serving := by
  cases stage with
  | still _ rest retried => exact rest
  | starting stands sole going climbs soon =>
      obtain ⟨call, waits⟩ :=
        climbs.exists_call going serving.watched.resolver.options
      cases silent.symm.trans (stands.call?_eq.trans waits)
  | paged stands paged retried =>
      obtain ⟨call, waits⟩ :=
        paged.exists_call serving.watched.resolver.options
      cases silent.symm.trans (stands.call?_eq.trans waits)

theorem Stage.retried (stage : Stage before serving) :
    Retried serving.exchanges := by
  cases stage with
  | still silent rest retried => exact retried
  | starting stands sole going climbs soon =>
      rw [stands.told]
      exact climbs.retried
  | paged stands paged retried =>
      rw [stands.told]
      exact retried

theorem eq_create {resolver : BrowserResolver}
    (empty : resolver.holdings = Holdings.nothing)
    (free : resolver.starter = none) :
    resolver =
      { BrowserResolver.create resolver.options with
        errands := resolver.errands
        line := resolver.line
        serial := resolver.serial } := by
  cases resolver
  cases empty
  cases free
  rfl

theorem Over.result?_of_harm (rest : Over before serving) (job : Job)
    {text : String} (harm : Harm serving.exchanges call text)
    (docile : Docile serving.exchanges) :
    serving.result? job =
      some ⟨"", some (Failure.ofKind (kindDue call text)), none⟩ := by
  have failed : ∀ {fault : Fault},
      serving.extraction = Extraction.ended (Except.error fault) →
        serving.result? job = some ⟨"", some fault.classify, none⟩ := by
    intro fault asks
    rw [result?, asks]
    rfl
  cases rest with
  | untold untold =>
      rw [untold] at harm
      exact absurd harm (harmless_nil call text)
  | ended asks reports =>
      obtain ⟨_, fault, rfl, kind⟩ := reports call text harm
      rw [failed asks, kind]
  | failed asks sole undone =>
      have undone := undone call text harm docile
      obtain ⟨timedOut, rfl⟩ := undone.cause
      rw [failed asks, classify_failure undone.startup]

theorem Over.rolledBack (rest : Over before serving)
    {text : String} (harm : Harm serving.exchanges call text)
    (startup : call.isStartup = true)
    (docile : Docile serving.exchanges) :
    RolledBack before serving.watched := by
  cases rest with
  | untold untold =>
      rw [untold] at harm
      exact absurd harm (harmless_nil call text)
  | ended asks reports =>
      have later := (reports call text harm).1
      rw [startup] at later
      cases later
  | failed asks sole undone =>
      have undone := undone call text harm docile
      have fresh := eq_create undone.empty sole.starter
      rw [sole.options, sole.line] at fresh
      have pageless : serving.watched.resolver.holdings.page = none := by
        rw [undone.empty]
        rfl
      refine
        { fresh := fresh
          stopped := ?_
          drivers := undone.left.drivers
          browsers := undone.left.browsers
          spotless := fun unstranded => ?_
          afresh := fun classes alone => ?_
          resumed := fun classes errand others line here => ?_ }
      · rw [isStarted, pageless]
        rfl
      · have nothing : before.running = Running.nothing :=
          Decidable.byContradiction fun runs =>
            unstranded ⟨sole.pageless, runs⟩
        have left := undone.left
        rw [nothing] at left
        exact Running.eq_nothing (List.sublist_nil.mp left.drivers)
          (List.sublist_nil.mp left.browsers)
      · rw [begin_of_free pageless sole.starter alone, Serving.call?,
          call?_of_here List.getElem?_concat_length]
        rfl
      · have inside := (List.getElem?_eq_some_iff.mp here).1
        rw [resume_of_pageless line here sole.starter pageless, Serving.call?,
          call?_of_here (List.getElem?_set_self inside)]
        rfl

theorem Stage.withstands (stage : Stage before serving)
    (untold : serving.exchanges = []) (job : Job)
    (responses : List Response) :
    Withstands before serving job responses where
  ends many := by
    by_contra waits
    have few := (stage.run responses).length_lt_of_call? waits
    have taken := length_exchanges_run waits
    rw [untold, List.length_nil, Nat.zero_add] at taken
    omega
  retried := (stage.run responses).retried
  classified _ _ harm docile silent :=
    ((stage.run responses).over_of_silent silent).result?_of_harm job harm
      docile
  rolledBack _ _ harm startup docile silent :=
    ((stage.run responses).over_of_silent silent).rolledBack harm startup
      docile

end Stages

/-- However the engine answers, a conversion comes to its end once it has its
turn; an error that it does not survive is reported, and a startup that met it is
rolled back. -/
theorem resilient (watched : Watched) (job : Job) (responses : List Response) :
    Resilient watched job responses where
  arriving :=
    (stage_begin watched job.classes).withstands (exchanges_ask _) job responses
  waiting _ _ line here := (stage_resume line here).withstands rfl job responses

/-- A launch that takes too long three times in a row. -/
example :
    ((begin (create Options.usual) "p-4").run
      [Response.done,
        Response.failed (Fault.engine true "slow"), Response.done,
        Response.failed (Fault.engine true "slow"), Response.done,
        Response.failed (Fault.engine true "slow getComputedStyle"),
        Response.done]).result? ⟨"p-4", "p-4"⟩ =
      some ⟨"", some (Failure.ofKind ErrorKind.contextConstruction), none⟩ := by
  decide

end Serving

end UtilityCss.Browser
