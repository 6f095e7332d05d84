import UtilityCss.Proofs.Block
import UtilityCss.Proofs.Desk.Caching
import UtilityCss.Proofs.Desk.Service
import UtilityCss.Proofs.StyleTable
import UtilityCss.Resolver.Static

/-!
# Conversions with a style table

A table resolver serves a desk.  Every context that a call waits for is attached,
carries the class names of the call, and belongs to no other call, so all replies
follow the styles of the table.  Hence a conversion gives the block of the values
that the table gives to the classes of its text, whatever has happened at the
desk before.
-/

namespace UtilityCss

/-- The context that a call uses. -/
def Progress.context? : Progress → Option StylingContext
  | extracting _ (Extraction.computing context) => some context
  | extracting _ (Extraction.destroying context _) => some context
  | _ => none

/-- The styles that a table gives to a class text. -/
def StyleTable.stylesOf (table : StyleTable) (classes : String) : StyleValues :=
  table.cascade (ClassText.tokens classes).contains

namespace TableResolver

/-- The resolver can serve what a call asks next. -/
def Attends (resolver : TableResolver) : Progress → Prop
  | Progress.extracting job (Extraction.creating asked) => asked = job.classes
  | Progress.extracting job (Extraction.computing context) =>
      context.serial ∈ resolver.live ∧ context.serial < resolver.next ∧
        context.handle = Handle.tokens (ClassText.tokens job.classes)
  | Progress.extracting _ (Extraction.destroying context _) =>
      context.serial < resolver.next
  | _ => True

/-- The calls of a desk have contexts of their own that the resolver attends
to. -/
structure Serves (resolver : TableResolver) (desk : Desk) : Prop where
  attends : ∀ (call : Nat) (entry : Call), desk.calls[call]? = some entry →
    resolver.Attends entry.progress
  separate : ∀ (call other : Nat) (entry entry' : Call)
      (context context' : StylingContext),
    desk.calls[call]? = some entry → desk.calls[other]? = some entry' →
      entry.progress.context? = some context →
        entry'.progress.context? = some context' →
          context.serial = context'.serial → call = other

theorem Attends.serial_lt {resolver : TableResolver} {progress : Progress}
    {context : StylingContext} (attends : resolver.Attends progress)
    (uses : progress.context? = some context) :
    context.serial < resolver.next := by
  cases progress with
  | extracting job extraction =>
      cases extraction with
      | computing _ =>
          cases uses
          exact attends.2.1
      | destroying _ _ =>
          cases uses
          exact attends
      | _ => cases uses
  | _ => cases uses

theorem Attends.attach {resolver : TableResolver} {progress : Progress}
    (attends : resolver.Attends progress) (classes : String) :
    (resolver.attach classes).2.Attends progress := by
  cases progress with
  | extracting job extraction =>
      cases extraction with
      | creating asked => exact attends
      | computing context =>
          obtain ⟨live, numbered, handle⟩ := attends
          exact ⟨List.mem_cons_of_mem _ live, Nat.lt_succ_of_lt numbered,
            handle⟩
      | destroying context outcome => exact Nat.lt_succ_of_lt attends
      | ended outcome => trivial
  | _ => trivial

/-- Detaching a context concerns only the call that uses it. -/
theorem Attends.detach {resolver : TableResolver} {progress : Progress}
    (attends : resolver.Attends progress) (context : StylingContext)
    (apart : ∀ used, progress.context? = some used →
      used.serial ≠ context.serial) :
    (resolver.detach context).2.Attends progress := by
  cases progress with
  | extracting job extraction =>
      cases extraction with
      | computing used =>
          obtain ⟨live, numbered, handle⟩ := attends
          have kept : (used.serial != context.serial) = true :=
            bne_iff_ne.mpr (apart used rfl)
          exact ⟨List.mem_filter.mpr ⟨live, kept⟩, numbered, handle⟩
      | _ => exact attends
  | _ => trivial

/-- What the resolver replies to a call it attends to. -/
theorem Attends.follows {resolver : TableResolver} {job : Job}
    {extraction : Extraction} {request : Request}
    (attends : resolver.Attends (Progress.extracting job extraction))
    (asks : extraction.request? = some request) :
    (interface.reply resolver request).1.Follows resolver.table.stylesOf
        job.classes ∧
      (interface.reply resolver request).1.fault? = none := by
  cases extraction with
  | creating asked =>
      cases asks
      exact ⟨⟨fun values found => (by cases found),
        fun fault faulty => by cases faulty⟩, rfl⟩
  | computing context =>
      cases asks
      obtain ⟨live, _, handle⟩ := attends
      have computed :
          resolver.compute context =
            Except.ok (resolver.table.stylesOf job.classes) := by
        have attached : resolver.live.contains context.serial = true :=
          List.contains_iff_mem.mpr live
        rw [compute, attached, handle]
        rfl
      have replied :
          (interface.reply resolver (Request.compute context)).1 =
            Reply.computed
              (Except.ok (resolver.table.stylesOf job.classes)) :=
        congrArg Reply.computed computed
      rw [replied]
      refine ⟨⟨fun values found => ?_, fun fault faulty => by cases faulty⟩,
        rfl⟩
      exact (Except.ok.inj (Reply.computed.inj found)).symm
  | destroying context outcome =>
      cases asks
      exact ⟨⟨fun values found => (by cases found),
        fun fault faulty => by cases faulty⟩, rfl⟩
  | ended outcome => cases asks

/-! ## Contexts stay apart -/

theorem serves_create (resolver : TableResolver) (settings : Settings) :
    resolver.Serves (Desk.create settings) where
  attends := fun call entry here => by simp [Desk.create] at here
  separate := fun call other entry entry' context context' here => by
    simp [Desk.create] at here

/-- An action from outside lets no call use a context. -/
theorem attends_of_step (resolver : TableResolver) {desk : Desk}
    {action : Action}
    (outside : ∀ call reply, action ≠ Action.reply call reply) {call : Nat}
    {entry : Call} (here : (desk.step action).1.calls[call]? = some entry) :
    desk.calls[call]? = some entry ∨
      (entry.progress.context? = none ∧ resolver.Attends entry.progress) := by
  rcases (Desk.turn_step desk action).call_cases here with old | changed
  · rcases Desk.received_call_cases old with before | ⟨_, arrives⟩
    · exact Or.inl before
    · right
      rw [Desk.asleep_of_arrival? arrives]
      exact ⟨rfl, trivial⟩
  · right
    cases changed with
    | opening asleep =>
        simp only [Desk.opened]
        split
        · exact ⟨rfl, trivial⟩
        · exact ⟨rfl, rfl⟩
    | dropping asleep unwanted => exact ⟨rfl, trivial⟩
    | continuing answered waiting taken =>
        exact absurd answered (outside _ _)

theorem Serves.step {resolver : TableResolver} {desk : Desk}
    (serves : resolver.Serves desk) {action : Action}
    (outside : ∀ call reply, action ≠ Action.reply call reply) :
    resolver.Serves (desk.step action).1 := by
  refine ⟨fun call entry here => ?_,
    fun call other entry entry' context context' here there uses uses' => ?_⟩
  · rcases attends_of_step resolver outside here with old | ⟨_, attends⟩
    · exact serves.attends call entry old
    · exact attends
  · rcases attends_of_step resolver outside here with old | ⟨unused, _⟩
    · rcases attends_of_step resolver outside there with old' | ⟨unused, _⟩
      · exact serves.separate call other entry entry' context context' old
          old' uses uses'
      · rw [unused] at uses'
        cases uses'
    · rw [unused] at uses
      cases uses

theorem Serves.setProgress {resolver next : TableResolver} {desk : Desk}
    (serves : resolver.Serves desk) (processor : Processor) {call : Nat}
    {text : String} {token : Option Token} {before progress : Progress}
    (here : desk.calls[call]? = some ⟨text, token, before⟩)
    (mine : next.Attends progress)
    (others : ∀ other entry, other ≠ call →
      desk.calls[other]? = some entry → next.Attends entry.progress)
    (apart : ∀ context, progress.context? = some context →
      ∀ other entry context', other ≠ call →
        desk.calls[other]? = some entry →
          entry.progress.context? = some context' →
            context.serial ≠ context'.serial) :
    next.Serves
      ({ desk with processor := processor }.setProgress call progress) := by
  refine ⟨fun other entry there => ?_,
    fun first second entry entry' context context' there there' uses uses'
      same => ?_⟩
  · rcases Desk.setProgress_call_cases here there with
      ⟨rfl, rfl⟩ | ⟨different, old⟩
    · exact mine
    · exact others other entry different old
  · rcases Desk.setProgress_call_cases here there with
      ⟨rfl, rfl⟩ | ⟨different, old⟩
    · rcases Desk.setProgress_call_cases here there' with
        ⟨rfl, rfl⟩ | ⟨different', old'⟩
      · rfl
      · exact absurd same
          (apart context uses second entry' context' different' old' uses')
    · rcases Desk.setProgress_call_cases here there' with
        ⟨rfl, rfl⟩ | ⟨different', old'⟩
      · exact absurd same.symm
          (apart context' uses' first entry context different old uses)
      · exact serves.separate first second entry entry' context context' old
          old' uses uses' same

theorem Serves.serve {service : Service TableResolver}
    (serves : service.state.Serves service.desk) (call : Nat) :
    (service.serve interface call).state.Serves
      (service.serve interface call).desk := by
  cases pending : service.desk.pending? call with
  | none =>
      rw [Service.serve, pending]
      exact serves
  | some request =>
      obtain ⟨text, token, job, extraction, waiting, asks⟩ :=
        Desk.extracting_of_pending? pending
      have attends := serves.attends call _ waiting
      rw [Service.serve_of_request interface waiting asks]
      cases extraction with
      | creating asked =>
          refine serves.setProgress _ waiting ?_ ?_ ?_
          · have same : asked = job.classes := attends
            subst asked
            exact ⟨List.mem_cons_self, Nat.lt_succ_self _, rfl⟩
          · exact fun other entry _ there =>
              (serves.attends other entry there).attach asked
          · intro context uses other entry context' _ there uses'
            cases uses
            -- the number of a new context is above all in use
            have older := (serves.attends other entry there).serial_lt uses'
            exact Nat.ne_of_gt older
      | computing context =>
          refine serves.setProgress _ waiting ?_ ?_ ?_
          · exact attends.2.1
          · exact fun other entry _ there => serves.attends other entry there
          · intro used uses other entry context' different there uses' same
            cases uses
            exact different
              (serves.separate call other _ entry context context' waiting
                there rfl uses' same).symm
      | destroying context outcome =>
          refine serves.setProgress _ waiting ?_ ?_ ?_
          · trivial
          · intro other entry different there
            -- no other call uses the context that is detached
            refine (serves.attends other entry there).detach context ?_
            intro used uses same
            exact different
              (serves.separate other call entry _ used context there waiting
                uses rfl same)
          · intro context' uses
            cases uses
      | ended outcome => cases asks

/-! ## What a desk with a style table keeps -/

theorem table_reply (resolver : TableResolver) (request : Request) :
    (interface.reply resolver request).2.table = resolver.table := by
  cases request with
  | create classes => rfl
  | compute context => rfl
  | destroy context => rfl

theorem extract_eq (resolver : TableResolver) (classes : String) :
    (interface.extract resolver classes).1 =
      Except.ok (resolver.table.stylesOf classes) := by
  simp [Resolver.extract, interface, attach, compute, StyleTable.stylesOf]

/-- The resolver keeps its table and serves every call of the desk, which
remembers nothing but what the table gives. -/
structure Keeps (settings : Settings) (table : StyleTable)
    (service : Service TableResolver) : Prop where
  same : service.state.table = table
  serves : service.state.Serves service.desk
  transparent :
    Desk.Transparent settings table.stylesOf (fun _ _ => False) service.desk

theorem keeps_create (settings : Settings) (resolver : TableResolver) :
    Keeps settings resolver.table (Service.create settings resolver) where
  same := rfl
  serves := serves_create resolver settings
  transparent := Desk.transparent_create settings _ _

section Keeping

variable {settings : Settings} {table : StyleTable}
variable {service : Service TableResolver}

theorem Keeps.step_of_outside (keeps : Keeps settings table service)
    {action : Action}
    (outside : ∀ call reply, action ≠ Action.reply call reply) :
    Keeps settings table
      { service with desk := (service.desk.step action).1 } where
  same := keeps.same
  serves := keeps.serves.step outside
  transparent := by
    refine keeps.transparent.step ?_ ?_
    · intro call reply text token job extraction later answered
      exact absurd answered (outside call reply)
    · intro call reply fault answered
      exact absurd answered (outside call reply)

theorem Keeps.act (keeps : Keeps settings table service) (action : Action) :
    Keeps settings table (service.act action) := by
  cases action with
  | reply call reply => exact keeps
  | _ => exact keeps.step_of_outside (fun _ _ same => by cases same)

theorem Keeps.serve (keeps : Keeps settings table service) (call : Nat) :
    Keeps settings table (service.serve interface call) := by
  have serves := keeps.serves.serve call
  cases pending : service.desk.pending? call with
  | none =>
      rw [Service.serve, pending]
      exact keeps
  | some request =>
      obtain ⟨text, token, job, extraction, waiting, asks⟩ :=
        Desk.extracting_of_pending? pending
      obtain ⟨follows, faultless⟩ :=
        (keeps.serves.attends call _ waiting).follows asks
      rw [keeps.same] at follows
      rw [Service.serve_of_pending? interface pending] at serves ⊢
      refine ⟨(table_reply _ request).trans keeps.same, serves,
        keeps.transparent.step ?_ ?_⟩
      · intro other reply text' token' job' extraction' later answered waiting'
        obtain ⟨rfl, rfl⟩ := Action.reply.inj answered
        obtain rfl : job = job' := by
          have entries := Option.some.inj (waiting.symm.trans waiting')
          cases entries
          rfl
        exact fun _ => follows
      · intro other reply fault answered _ faulty
        obtain ⟨rfl, rfl⟩ := Action.reply.inj answered
        rw [faultless] at faulty
        cases faulty

theorem Keeps.run (keeps : Keeps settings table service)
    (steps : List ServiceStep) :
    Keeps settings table (service.run interface steps) := by
  induction steps generalizing service with
  | nil => exact keeps
  | cons step steps inductionHypothesis =>
      rw [Service.run_cons]
      cases step with
      | act action => exact inductionHypothesis (keeps.act action)
      | serve call => exact inductionHypothesis (keeps.serve call)

theorem Keeps.result?_eq (keeps : Keeps settings table service)
    (text : String) :
    service.result? interface text =
      some
        (Conversion.alone settings.maxInputLength table.stylesOf text) := by
  have resolved :
      (interface.extract service.state (classesOf text)).1 =
        Except.ok (table.stylesOf (classesOf text)) := by
    rw [extract_eq, keeps.same]
  rw [Service.result?_eq, keeps.transparent.remembers.convert resolved,
    keeps.transparent.fixed]

/-- The css of an accepted text is the block of the styles that the table gives
to its class names. -/
theorem Keeps.exists_result (keeps : Keeps settings table service)
    {text : String} (accepted : Accepted settings.maxInputLength text) :
    ∃ result,
      service.result? interface text = some result ∧
        result.failure = none ∧
        result.css =
          Block.render (table.cascade (ClassText.namesIn text).contains)
            Block.defaultSelector := by
  refine ⟨_, keeps.result?_eq text, ?_⟩
  rw [Conversion.alone_of_accepted _ accepted, StyleTable.stylesOf, classesOf,
    ClassText.tokens_sanitize]
  exact ⟨rfl, rfl⟩

end Keeping

/-- Whatever has happened at a desk that is served from a table, converting an
accepted text gives a block of the values that the table gives to its class
names.  So the order, the repetition and the layout of classes make no
difference, and neither do classes that the table does not have. -/
theorem css_declares_table_values (settings : Settings)
    (resolver : TableResolver) (steps : List ServiceStep) {text : String}
    (accepted : Accepted settings.maxInputLength text) :
    ∃ result,
      ((Service.create settings resolver).run interface steps).result?
            interface text =
          some result ∧
        result.failure = none ∧
        Block.Declares
          (resolver.table.valueFor (ClassText.namesIn text).contains)
          result.css ∧
        ∀ (settings' : Settings) (resolver' : TableResolver)
            (steps' : List ServiceStep) (text' : String),
          resolver'.table = resolver.table →
            Accepted settings'.maxInputLength text' →
              (∀ name ∈ resolver.table.styles.keys,
                  name ∈ ClassText.namesIn text' ↔
                    name ∈ ClassText.namesIn text) →
                ∃ result',
                  ((Service.create settings' resolver').run interface
                          steps').result? interface text' =
                      some result' ∧
                    result'.css = result.css := by
  have keeps := (keeps_create settings resolver).run steps
  obtain ⟨result, given, success, css⟩ := keeps.exists_result accepted
  refine ⟨result, given, success, ?_, ?_⟩
  · have values :
        (resolver.table.cascade (ClassText.namesIn text).contains).valueOf =
          resolver.table.valueFor (ClassText.namesIn text).contains := by
      funext property
      exact resolver.table.valueOf_cascade _ property
    rw [css, ← values]
    exact Block.declares_render _
  · intro settings' resolver' steps' text' sameTable accepted' sameNames
    have keeps' := (keeps_create settings' resolver').run steps'
    obtain ⟨result', given', _, css'⟩ := keeps'.exists_result accepted'
    have agree : ∀ name ∈ resolver.table.styles.keys,
        (ClassText.namesIn text').contains name =
          (ClassText.namesIn text).contains name := by
      intro name listed
      rw [Bool.eq_iff_iff, List.contains_iff_mem, List.contains_iff_mem]
      exact sameNames name listed
    refine ⟨result', given', ?_⟩
    rw [css', css, sameTable, resolver.table.cascade_congr agree]

/-- A table in which a later class takes back what another declares. -/
def spacing : StyleTable where
  base := ⟨[("display", "block")]⟩
  styles :=
    ⟨[("m-2", ⟨[("margin", "8px")]⟩), ("p-4", ⟨[("padding", "16px")]⟩),
      ("p-0", ⟨[("padding", "0px")]⟩)]⟩
  distinct := by decide

/-- The padding is taken back although it is named last. -/
theorem css_declares_table_values_spacing :
    Accepted Settings.usual.maxInputLength "p-0 [m-2] p-4" ∧
      ∃ result,
        ((Service.create Settings.usual (create spacing)).run interface
                (Service.conversion "p-4" 0)).result? interface
              "p-0 [m-2] p-4" =
            some result ∧
          result.css = ".element \x7b\n  margin: 8px;\n\x7d" := by
  have accepted :
      Accepted Settings.usual.maxInputLength "p-0 [m-2] p-4" :=
    ⟨rfl, rfl⟩
  obtain ⟨result, given, _, declares, _⟩ :=
    css_declares_table_values Settings.usual (create spacing)
      (Service.conversion "p-4" 0) accepted
  obtain ⟨lines, css, perm, _⟩ :=
    declares.something "margin" (by decide) (by decide)
  have only :
      Block.declared
          ((create spacing).table.valueFor
            (ClassText.namesIn "p-0 [m-2] p-4").contains) =
        ["margin"] := by
    decide +kernel
  rw [only] at perm
  obtain rfl := List.perm_singleton.mp perm
  exact ⟨accepted, result, given, css⟩

end TableResolver

end UtilityCss
