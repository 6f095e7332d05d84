import Mathlib.Data.List.Infix
import Mathlib.Data.Set.Card
import UtilityCss.Resolver.Static

/-!
# The life of a context

A table resolver makes contexts, others make contexts as well, and all of them
can be overwritten, computed and destroyed in any order.  What a context is worth
depends on its own history alone: whether the resolver made it, whether it was
destroyed, and whether somebody put something else into it.
-/

namespace UtilityCss

namespace ContextAction

/-- Whether an action makes a context. -/
def makes : ContextAction → Bool
  | attach _ => true
  | foreign _ _ => true
  | _ => false

/-- The context that is needed for an action. -/
def subject? : ContextAction → Option Nat
  | overwrite serial _ => some serial
  | compute serial => some serial
  | detach serial => some serial
  | _ => none

end ContextAction

namespace ContextStore

/-! ## Histories -/

/-- The actions that made contexts, each at the serial number of its context. -/
def makings (actions : List ContextAction) : List ContextAction :=
  actions.filter ContextAction.makes

/-- An action was done when there was a context with the serial number. -/
def Done (actions : List ContextAction) (serial : Nat)
    (action : ContextAction) : Prop :=
  ∃ before, before ++ [action] <+: actions ∧
    serial < (makings before).length

/-- The resolver made the context for a class text. -/
def MadeFor (actions : List ContextAction) (serial : Nat) (classes : String) :
    Prop :=
  (makings actions)[serial]? = some (ContextAction.attach classes)

/-- Somebody else made the context. -/
def Foreign (actions : List ContextAction) (serial : Nat) : Prop :=
  ∃ classes handle,
    (makings actions)[serial]? = some (ContextAction.foreign classes handle)

def Destroyed (actions : List ContextAction) (serial : Nat) : Prop :=
  Done actions serial (ContextAction.detach serial)

def Overwritten (actions : List ContextAction) (serial : Nat) : Prop :=
  ∃ value, Done actions serial (ContextAction.overwrite serial value)

/-- The resolver made the context, and nobody has destroyed it. -/
def Alive (actions : List ContextAction) (serial : Nat) : Prop :=
  (∃ classes, MadeFor actions serial classes) ∧ ¬ Destroyed actions serial

section Histories

variable {actions : List ContextAction} {action last : ContextAction}
  {serial : Nat} {classes : String}

theorem makings_concat (actions : List ContextAction) (last : ContextAction) :
    makings (actions ++ [last]) =
      makings actions ++ if last.makes then [last] else [] := by
  simp [makings, List.filter_append, List.filter_cons]

theorem makings_concat_of_not (quiet : last.makes = false) :
    makings (actions ++ [last]) = makings actions := by
  simp [makings_concat, quiet]

theorem makings_concat_of_makes (new : last.makes = true) :
    makings (actions ++ [last]) = makings actions ++ [last] := by
  simp [makings_concat, new]

theorem done_concat_iff :
    Done (actions ++ [last]) serial action ↔
      Done actions serial action ∨
        (last = action ∧ serial < (makings actions).length) := by
  constructor
  · rintro ⟨before, begins, existed⟩
    rcases List.prefix_concat_iff.mp begins with whole | earlier
    · obtain ⟨rfl, same⟩ := List.append_inj' whole rfl
      have same : action = last := by simpa using same
      exact Or.inr ⟨same.symm, existed⟩
    · exact Or.inl ⟨before, earlier, existed⟩
  · rintro (⟨before, begins, existed⟩ | ⟨rfl, existed⟩)
    · have longer : actions <+: actions ++ [last] := List.prefix_append _ _
      exact ⟨before, begins.trans longer, existed⟩
    · exact ⟨actions, List.prefix_rfl, existed⟩

theorem done_concat_of_ne (other : last ≠ action) :
    Done (actions ++ [last]) serial action ↔ Done actions serial action := by
  simp [done_concat_iff, other]

theorem Done.serial_lt (done : Done actions serial action) :
    serial < (makings actions).length := by
  obtain ⟨before, ⟨behind, rfl⟩, existed⟩ := done
  simp only [makings, List.filter_append, List.length_append] at existed ⊢
  omega

theorem Done.mem (done : Done actions serial action) : action ∈ actions := by
  obtain ⟨before, begins, _⟩ := done
  exact begins.subset (by simp)

theorem MadeFor.serial_lt (made : MadeFor actions serial classes) :
    serial < (makings actions).length :=
  (List.getElem?_eq_some_iff.mp made).1

theorem madeFor_concat_of_not (quiet : last.makes = false) :
    MadeFor (actions ++ [last]) serial classes ↔
      MadeFor actions serial classes := by
  rw [MadeFor, makings_concat_of_not quiet, MadeFor]

theorem madeFor_concat_of_makes (new : last.makes = true) :
    MadeFor (actions ++ [last]) serial classes ↔
      MadeFor actions serial classes ∨
        (serial = (makings actions).length ∧
          last = ContextAction.attach classes) := by
  rw [MadeFor, makings_concat_of_makes new, MadeFor]
  rcases Nat.lt_trichotomy serial (makings actions).length with
    old | rfl | beyond
  · rw [List.getElem?_append_left old]
    simp [Nat.ne_of_lt old]
  · simp
  · rw [List.getElem?_eq_none (by simp; omega),
      List.getElem?_eq_none (Nat.le_of_lt beyond)]
    simp [Nat.ne_of_gt beyond]

/-- A context that the resolver did not make was made by somebody else. -/
theorem foreign_iff (existing : serial < (makings actions).length) :
    Foreign actions serial ↔ ¬ ∃ classes, MadeFor actions serial classes := by
  have found : (makings actions)[serial]? = some (makings actions)[serial] :=
    List.getElem?_eq_getElem existing
  have makes : (makings actions)[serial].makes = true :=
    (List.mem_filter.mp (List.getElem_mem existing)).2
  simp only [Foreign, MadeFor, found]
  cases made : (makings actions)[serial] with
  | attach classes => simp
  | foreign classes handle => simp
  | _ =>
      rw [made] at makes
      cases makes

/-! ### Who is alive after one more action -/

theorem alive_concat_attach :
    Alive (actions ++ [ContextAction.attach classes]) serial ↔
      Alive actions serial ∨ serial = (makings actions).length := by
  have born : ∀ text,
      MadeFor (actions ++ [ContextAction.attach classes]) serial text ↔ _ :=
    fun text => madeFor_concat_of_makes rfl
  have kept : Destroyed (actions ++ [ContextAction.attach classes]) serial ↔
      Destroyed actions serial :=
    done_concat_of_ne (by simp)
  rw [Alive, kept]
  simp only [born, exists_or]
  constructor
  · rintro ⟨old | ⟨_, new, _⟩, spared⟩
    · exact Or.inl ⟨old, spared⟩
    · exact Or.inr new
  · rintro (⟨old, spared⟩ | rfl)
    · exact ⟨Or.inl old, spared⟩
    · refine ⟨Or.inr ⟨classes, rfl, rfl⟩, fun destroyed => ?_⟩
      exact Nat.lt_irrefl _ destroyed.serial_lt

theorem alive_concat_detach {gone : Nat} :
    Alive (actions ++ [ContextAction.detach gone]) serial ↔
      Alive actions serial ∧ serial ≠ gone := by
  have born : ∀ classes,
      MadeFor (actions ++ [ContextAction.detach gone]) serial classes ↔
        MadeFor actions serial classes :=
    fun classes => madeFor_concat_of_not rfl
  rw [Alive, Alive, Destroyed, done_concat_iff]
  simp only [born]
  constructor
  · rintro ⟨⟨classes, made⟩, spared⟩
    refine ⟨⟨⟨classes, made⟩, fun earlier => spared (Or.inl earlier)⟩, ?_⟩
    rintro rfl
    exact spared (Or.inr ⟨rfl, made.serial_lt⟩)
  · rintro ⟨⟨made, spared⟩, other⟩
    refine ⟨made, ?_⟩
    rintro (earlier | ⟨same, _⟩)
    · exact spared earlier
    · exact other (ContextAction.detach.inj same).symm

theorem alive_concat_of_ne
    (unmade : ∀ classes, last ≠ ContextAction.attach classes)
    (spared : ∀ gone, last ≠ ContextAction.detach gone) :
    Alive (actions ++ [last]) serial ↔ Alive actions serial := by
  have kept : Destroyed (actions ++ [last]) serial ↔ Destroyed actions serial :=
    done_concat_of_ne (spared serial)
  have born : ∀ classes, MadeFor (actions ++ [last]) serial classes ↔
      MadeFor actions serial classes := by
    intro classes
    cases makes : last.makes with
    | false => exact madeFor_concat_of_not makes
    | true => simp [madeFor_concat_of_makes makes, unmade]
  rw [Alive, Alive, kept]
  simp only [born]

end Histories

/-! ## Stores that follow a history -/

/-- What a context that is alive carries: the names of the text it was made for,
or else what somebody put there, which is no set. -/
def Carries (actions : List ContextAction) (serial : Nat) (handle : Handle) :
    Prop :=
  (¬ Overwritten actions serial →
    ∀ classes, MadeFor actions serial classes →
      handle = Handle.tokens (ClassText.tokens classes)) ∧
  (Overwritten actions serial →
    ∃ value, handle = Handle.overwritten value ∧ value.members? = none)

/-- The store is what the history makes of an empty one. -/
structure Follows (table : StyleTable) (actions : List ContextAction)
    (store : ContextStore) : Prop where
  table : store.resolver.table = table
  next : store.resolver.next = (makings actions).length
  size : store.contexts.length = (makings actions).length
  serial : ∀ serial context,
    store.find? serial = some context → context.serial = serial
  nodup : store.resolver.live.Nodup
  live : ∀ serial, serial ∈ store.resolver.live ↔ Alive actions serial
  carries : ∀ serial context, store.find? serial = some context →
    Alive actions serial → Carries actions serial context.handle

section Store

variable {table : StyleTable} {actions : List ContextAction}
  {store : ContextStore} {serial : Nat} {context : StylingContext}

theorem find?_put (store : ContextStore) (context : StylingContext)
    (serial : Nat) :
    (store.put context).find? serial =
      if context.serial = serial ∧ serial < store.contexts.length then
        some context
      else store.find? serial := by
  rw [find?, put, List.getElem?_set, find?]
  by_cases same : context.serial = serial
  · subst same
    by_cases inside : context.serial < store.contexts.length
    · simp [inside]
    · simp [inside]
  · simp [same]

/-- The store after a context was added at its end. -/
def add (store : ContextStore) (resolver : TableResolver)
    (context : StylingContext) : ContextStore :=
  ⟨resolver, store.contexts ++ [context]⟩

theorem find?_add (resolver : TableResolver) {found : StylingContext}
    (here : (store.add resolver context).find? serial = some found) :
    store.find? serial = some found ∨
      (serial = store.contexts.length ∧ found = context) := by
  rw [find?, add] at here
  rcases Nat.lt_trichotomy serial store.contexts.length with
    old | rfl | beyond
  · rw [List.getElem?_append_left old] at here
    exact Or.inl here
  · simp at here
    exact Or.inr ⟨rfl, here.symm⟩
  · rw [List.getElem?_eq_none (by simp; omega)] at here
    cases here

theorem follows_create (table : StyleTable) :
    Follows table [] (create table) where
  table := rfl
  next := rfl
  size := rfl
  serial := by
    intro serial context here
    simp [find?, create] at here
  nodup := List.nodup_nil
  live := by
    intro serial
    simp [create, TableResolver.create, Alive, MadeFor, makings]
  carries := by
    intro serial context here
    simp [find?, create] at here

theorem overwritten_concat_of_ne {last : ContextAction}
    (other : ∀ value, last ≠ ContextAction.overwrite serial value) :
    Overwritten (actions ++ [last]) serial ↔ Overwritten actions serial := by
  have kept : ∀ value,
      Done (actions ++ [last]) serial (ContextAction.overwrite serial value) ↔
        Done actions serial (ContextAction.overwrite serial value) :=
    fun value => done_concat_of_ne (other value)
  simp only [Overwritten, kept]

theorem Carries.concat {last : ContextAction} {handle : Handle}
    (carries : Carries actions serial handle)
    (existing : serial < (makings actions).length)
    (other : ∀ value, last ≠ ContextAction.overwrite serial value) :
    Carries (actions ++ [last]) serial handle := by
  have born : ∀ classes, MadeFor (actions ++ [last]) serial classes ↔
      MadeFor actions serial classes := by
    intro classes
    cases makes : last.makes with
    | false => exact madeFor_concat_of_not makes
    | true => simp [madeFor_concat_of_makes makes, Nat.ne_of_lt existing]
  rw [Carries, overwritten_concat_of_ne other]
  simp only [born]
  exact carries

theorem Follows.serial_lt (follows : Follows table actions store)
    (here : store.find? serial = some context) :
    serial < (makings actions).length :=
  follows.size ▸ (List.getElem?_eq_some_iff.mp here).1

/-- A new context gets the next serial number and leaves the others alone. -/
theorem Follows.add (follows : Follows table actions store)
    {last : ContextAction} (new : last.makes = true)
    (resolver : TableResolver) (context : StylingContext) (sameTable : resolver.table = table)
    (next : resolver.next = store.resolver.next + 1)
    (numbered : context.serial = store.resolver.next)
    (nodup : resolver.live.Nodup)
    (live : ∀ serial, serial ∈ resolver.live ↔ Alive (actions ++ [last]) serial)
    (carries : Alive (actions ++ [last]) context.serial →
      Carries (actions ++ [last]) context.serial context.handle)
    (older : ∀ serial, serial < (makings actions).length →
      Alive (actions ++ [last]) serial → Alive actions serial) :
    Follows table (actions ++ [last]) (store.add resolver context) where
  table := sameTable
  next := by
    have before := follows.next
    simp only [ContextStore.add, next, makings_concat_of_makes new,
      List.length_append, List.length_singleton]
    omega
  size := by
    simp [ContextStore.add, makings_concat_of_makes new, follows.size]
  serial := by
    intro serial found here
    rcases find?_add resolver here with old | ⟨rfl, rfl⟩
    · exact follows.serial serial found old
    · rw [numbered, follows.next, follows.size]
  nodup := nodup
  live := live
  carries := by
    intro serial found here alive
    rcases find?_add resolver here with old | ⟨rfl, rfl⟩
    · have existing := follows.serial_lt old
      have carried :=
        follows.carries serial found old (older serial existing alive)
      refine carried.concat existing ?_
      rintro value rfl
      cases new
    · have number : found.serial = store.contexts.length := by
        rw [numbered, follows.next, follows.size]
      rw [← number] at alive ⊢
      exact carries alive

theorem Follows.attach (follows : Follows table actions store)
    (classes : String) :
    Follows table (actions ++ [ContextAction.attach classes])
      (store.step (ContextAction.attach classes)) := by
  have fresh : store.resolver.next ∉ store.resolver.live := by
    intro member
    obtain ⟨⟨text, made⟩, _⟩ := (follows.live _).mp member
    have old := made.serial_lt
    rw [follows.next] at old
    exact Nat.lt_irrefl _ old
  refine follows.add rfl (store.resolver.attach classes).2
    (store.resolver.attach classes).1 follows.table rfl rfl
    (List.nodup_cons.mpr ⟨fresh, follows.nodup⟩) ?_ ?_ ?_
  · intro serial
    have member : serial ∈ (store.resolver.attach classes).2.live ↔
        serial = store.resolver.next ∨ serial ∈ store.resolver.live :=
      List.mem_cons
    rw [member, follows.live, follows.next, alive_concat_attach, or_comm]
  · intro _
    have untouched :
        ¬ Overwritten (actions ++ [ContextAction.attach classes])
          store.resolver.next := by
      rw [overwritten_concat_of_ne (by simp), follows.next]
      rintro ⟨value, done⟩
      exact Nat.lt_irrefl _ done.serial_lt
    refine ⟨fun _ text made => ?_, fun touched => absurd touched untouched⟩
    rcases (madeFor_concat_of_makes rfl).mp made with old | ⟨_, same⟩
    · have before := old.serial_lt
      rw [← follows.next] at before
      exact absurd before (Nat.lt_irrefl _)
    · obtain rfl := ContextAction.attach.inj same
      rfl
  · intro serial existing alive
    rcases alive_concat_attach.mp alive with old | rfl
    · exact old
    · exact absurd existing (Nat.lt_irrefl _)

theorem Follows.foreign (follows : Follows table actions store)
    (classes : String) (handle : Handle) :
    Follows table (actions ++ [ContextAction.foreign classes handle])
      (store.step (ContextAction.foreign classes handle)) := by
  have kept : ∀ serial,
      Alive (actions ++ [ContextAction.foreign classes handle]) serial ↔
        Alive actions serial :=
    fun serial => alive_concat_of_ne (by simp) (by simp)
  refine follows.add rfl (store.resolver.foreign classes handle).2
    (store.resolver.foreign classes handle).1 follows.table rfl rfl
    follows.nodup ?_ ?_ ?_
  · intro serial
    rw [kept]
    exact follows.live serial
  · intro alive
    obtain ⟨⟨text, made⟩, _⟩ := (kept _).mp alive
    have old : store.resolver.next < (makings actions).length := made.serial_lt
    rw [follows.next] at old
    exact absurd old (Nat.lt_irrefl _)
  · intro serial _ alive
    exact (kept serial).mp alive

/-- Nothing changes when an action concerns no context that is there. -/
theorem Follows.idle (follows : Follows table actions store)
    {last : ContextAction} (quiet : last.makes = false)
    (alive : ∀ serial, Alive (actions ++ [last]) serial ↔ Alive actions serial)
    (untouched : ∀ serial value, serial < (makings actions).length →
      last ≠ ContextAction.overwrite serial value) :
    Follows table (actions ++ [last]) store where
  table := follows.table
  next := by rw [makings_concat_of_not quiet, follows.next]
  size := by rw [makings_concat_of_not quiet, follows.size]
  serial := follows.serial
  nodup := follows.nodup
  live := fun serial => (follows.live serial).trans (alive serial).symm
  carries := by
    intro serial context here lives
    have existing := follows.serial_lt here
    have carried :=
      follows.carries serial context here ((alive serial).mp lives)
    exact carried.concat existing fun value => untouched serial value existing

/-- A context that is there gets another handle, and the others are left alone. -/
theorem Follows.change (follows : Follows table actions store)
    {last : ContextAction} (quiet : last.makes = false)
    (here : store.find? serial = some context)
    (resolver : TableResolver) (sameTable : resolver.table = table)
    (next : resolver.next = store.resolver.next)
    (nodup : resolver.live.Nodup)
    (live : ∀ other, other ∈ resolver.live ↔ Alive (actions ++ [last]) other)
    (older : ∀ other, Alive (actions ++ [last]) other → Alive actions other)
    (untouched : ∀ other value, other ≠ serial →
      last ≠ ContextAction.overwrite other value)
    (handle : Handle)
    (carries : Alive (actions ++ [last]) serial →
      Carries (actions ++ [last]) serial handle) :
    Follows table (actions ++ [last])
      (put { store with resolver := resolver }
        { context with handle := handle }) where
  table := sameTable
  next := by
    rw [makings_concat_of_not quiet, ← follows.next]
    exact next
  size := by
    rw [makings_concat_of_not quiet, ← follows.size]
    exact List.length_set
  serial := by
    intro other found there
    rw [find?_put] at there
    split at there
    · rename_i same
      obtain rfl := Option.some.inj there
      exact same.1
    · exact follows.serial other found there
  nodup := nodup
  live := live
  carries := by
    intro other found there alive
    have number : context.serial = serial := follows.serial serial context here
    rw [find?_put] at there
    split at there
    · rename_i same
      obtain rfl := Option.some.inj there
      have own : serial = other := number.symm.trans same.1
      subst own
      exact carries alive
    · rename_i different
      have old : store.find? other = some found := there
      have existing := follows.serial_lt old
      have apart : other ≠ serial := by
        rintro rfl
        exact different ⟨number, follows.size.symm ▸ existing⟩
      have carried := follows.carries other found old (older other alive)
      exact carried.concat existing fun value => untouched other value apart

theorem Follows.not_lt_of_find?_eq_none (follows : Follows table actions store)
    (absent : store.find? serial = none) :
    ¬ serial < (makings actions).length := by
  rw [find?, List.getElem?_eq_none_iff, follows.size] at absent
  exact Nat.not_lt_of_le absent

theorem Follows.overwrite (follows : Follows table actions store) (serial : Nat)
    {value : Value} (plain : value.members? = none) :
    Follows table (actions ++ [ContextAction.overwrite serial value])
      (store.step (ContextAction.overwrite serial value)) := by
  have alive : ∀ other,
      Alive (actions ++ [ContextAction.overwrite serial value]) other ↔
        Alive actions other :=
    fun other => alive_concat_of_ne (by simp) (by simp)
  cases found : store.find? serial with
  | none =>
      have absent := follows.not_lt_of_find?_eq_none found
      simp only [step, found]
      refine follows.idle rfl alive fun other value' existing same => ?_
      obtain ⟨rfl, _⟩ := ContextAction.overwrite.inj same
      exact absent existing
  | some context =>
      simp only [step, found]
      refine follows.change rfl found _ follows.table rfl follows.nodup ?_ ?_ ?_
        (Handle.overwritten value) fun _ => ⟨fun untouched => ?_, fun _ => ?_⟩
      · exact fun other => (follows.live other).trans (alive other).symm
      · exact fun other => (alive other).mp
      · intro other value' different same
        exact different (ContextAction.overwrite.inj same).1.symm
      · refine absurd ⟨value, ?_⟩ untouched
        exact done_concat_iff.mpr (Or.inr ⟨rfl, follows.serial_lt found⟩)
      · exact ⟨value, rfl, plain⟩

theorem Follows.detach (follows : Follows table actions store) (serial : Nat) :
    Follows table (actions ++ [ContextAction.detach serial])
      (store.step (ContextAction.detach serial)) := by
  cases found : store.find? serial with
  | none =>
      have absent := follows.not_lt_of_find?_eq_none found
      have alive : ∀ other,
          Alive (actions ++ [ContextAction.detach serial]) other ↔
            Alive actions other := by
        intro other
        rw [alive_concat_detach, and_iff_left_iff_imp]
        rintro ⟨⟨classes, made⟩, _⟩ rfl
        exact absent made.serial_lt
      simp only [step, found]
      exact follows.idle rfl alive (by simp)
  | some context =>
      have number : context.serial = serial := follows.serial serial context found
      simp only [step, found]
      refine follows.change rfl found (store.resolver.detach context).2
        follows.table rfl
        (follows.nodup.filter _) ?_ ?_ (by simp) Handle.missing ?_
      · intro other
        have member : other ∈ (store.resolver.detach context).2.live ↔
            other ∈ store.resolver.live ∧ (other != context.serial) = true :=
          List.mem_filter
        rw [member, number, bne_iff_ne, follows.live, alive_concat_detach]
      · exact fun other lives => (alive_concat_detach.mp lives).1
      · intro lives
        exact absurd rfl (alive_concat_detach.mp lives).2

theorem Follows.step (follows : Follows table actions store)
    {action : ContextAction}
    (plain : ∀ serial value, action = ContextAction.overwrite serial value →
      value.members? = none) :
    Follows table (actions ++ [action]) (store.step action) := by
  cases action with
  | attach classes => exact follows.attach classes
  | foreign classes handle => exact follows.foreign classes handle
  | overwrite serial value => exact follows.overwrite serial (plain _ _ rfl)
  | compute serial =>
      exact follows.idle rfl
        (fun other => alive_concat_of_ne (by simp) (by simp)) (by simp)
  | detach serial => exact follows.detach serial

theorem run_concat (store : ContextStore) (actions : List ContextAction)
    (last : ContextAction) :
    store.run (actions ++ [last]) = (store.run actions).step last := by
  rw [run, List.foldl_append]
  rfl

/-- Nobody puts a set into a context. -/
def Plain (actions : List ContextAction) : Prop :=
  ∀ serial value, ContextAction.overwrite serial value ∈ actions →
    value.members? = none

theorem follows_run (table : StyleTable) {actions : List ContextAction}
    (plain : Plain actions) :
    Follows table actions ((create table).run actions) := by
  induction actions using List.reverseRecOn with
  | nil => exact follows_create table
  | append_singleton earlier last inductionHypothesis =>
      have before : Plain earlier := fun serial value member =>
        plain serial value (List.mem_append_left _ member)
      rw [run_concat]
      refine (inductionHypothesis before).step fun serial value same => ?_
      exact plain serial value (by simp [same])

theorem Follows.exists_here (follows : Follows table actions store)
    (existing : serial < (makings actions).length) :
    ∃ context, store.find? serial = some context ∧ context.serial = serial := by
  rw [← follows.size] at existing
  have here : store.find? serial = some store.contexts[serial] :=
    List.getElem?_eq_getElem existing
  exact ⟨_, here, follows.serial serial _ here⟩

end Store

/-! ## What computing a context gives -/

/-- Computing the styles of the context ends in a report of the given kind. -/
def Fails (store : ContextStore) (serial : Nat) (trouble : Trouble) : Prop :=
  ∃ message,
    store.compute? serial =
      some (Except.error (Fault.ofTrouble trouble message none))

section Computing

variable {table : StyleTable} {actions : List ContextAction}
  {store : ContextStore} {serial : Nat}

/-- Only whether a context is attached decides how it is served. -/
theorem compute_congr {resolver resolver' : TableResolver}
    {context : StylingContext} (sameTable : resolver'.table = resolver.table)
    (live : context.serial ∈ resolver'.live ↔ context.serial ∈ resolver.live) :
    resolver'.compute context = resolver.compute context := by
  have same : resolver'.live.contains context.serial =
      resolver.live.contains context.serial := by
    rw [Bool.eq_iff_iff, List.contains_iff_mem, List.contains_iff_mem, live]
  rw [TableResolver.compute, TableResolver.compute, same, sameTable]

theorem compute?_congr {store' : ContextStore}
    (here : store'.find? serial = store.find? serial)
    (sameTable : store'.resolver.table = store.resolver.table)
    (live : ∀ context, store.find? serial = some context →
      (context.serial ∈ store'.resolver.live ↔
        context.serial ∈ store.resolver.live)) :
    store'.compute? serial = store.compute? serial := by
  rw [compute?, compute?, here]
  cases found : store.find? serial with
  | none => rfl
  | some context =>
      exact congrArg some (compute_congr sameTable (live context found))

theorem Follows.compute?_of_not_alive (follows : Follows table actions store)
    (existing : serial < (makings actions).length)
    (dead : ¬ Alive actions serial) :
    store.compute? serial = some (Except.error TableResolver.notAttached) := by
  obtain ⟨context, here, number⟩ := follows.exists_here existing
  have detached : context.serial ∉ store.resolver.live := by
    rw [number, follows.live]
    exact dead
  simp [compute?, here, TableResolver.compute, detached]

theorem Follows.compute?_of_overwritten (follows : Follows table actions store)
    (alive : Alive actions serial) (overwritten : Overwritten actions serial) :
    store.compute? serial = some (Except.error TableResolver.noClassSet) := by
  obtain ⟨⟨classes, made⟩, _⟩ := id alive
  obtain ⟨context, here, number⟩ := follows.exists_here made.serial_lt
  have live : context.serial ∈ store.resolver.live := by
    rw [number, follows.live]
    exact alive
  obtain ⟨value, handle, plain⟩ :=
    (follows.carries serial context here alive).2 overwritten
  simp [compute?, here, TableResolver.compute, live, handle, plain]

theorem Follows.compute?_of_untouched (follows : Follows table actions store)
    {classes : String} (made : MadeFor actions serial classes)
    (spared : ¬ Destroyed actions serial)
    (untouched : ¬ Overwritten actions serial) :
    store.compute? serial =
      some (Except.ok
        (table.cascade (ClassText.tokens classes).contains)) := by
  obtain ⟨context, here, number⟩ := follows.exists_here made.serial_lt
  have alive : Alive actions serial := ⟨⟨classes, made⟩, spared⟩
  have live : context.serial ∈ store.resolver.live := by
    rw [number, follows.live]
    exact alive
  have handle :=
    (follows.carries serial context here alive).1 untouched classes made
  simp [compute?, here, TableResolver.compute, live, handle, follows.table]

/-- Computing a context fails for one reason at most. -/
theorem Fails.eq_of_compute? {trouble trouble' : Trouble} {message : String}
    (fails : Fails store serial trouble)
    (computed : store.compute? serial =
      some (Except.error (Fault.ofTrouble trouble' message none))) :
    trouble = trouble' := by
  obtain ⟨message', failed⟩ := fails
  rw [computed] at failed
  have same := Except.error.inj (Option.some.inj failed)
  exact (Fault.resolver.inj same).2.1.symm

theorem not_alive_iff (existing : serial < (makings actions).length) :
    ¬ Alive actions serial ↔
      Foreign actions serial ∨ Destroyed actions serial := by
  rw [foreign_iff existing, Alive, not_and_or, not_not]

theorem Follows.fails_construction_iff (follows : Follows table actions store)
    (existing : serial < (makings actions).length) :
    Fails store serial Trouble.construction ↔
      Foreign actions serial ∨ Destroyed actions serial := by
  rw [← not_alive_iff existing]
  constructor
  · intro fails alive
    obtain ⟨⟨classes, made⟩, spared⟩ := id alive
    by_cases overwritten : Overwritten actions serial
    · have other := fails.eq_of_compute?
        (follows.compute?_of_overwritten alive overwritten)
      cases other
    · obtain ⟨message, failed⟩ := fails
      rw [follows.compute?_of_untouched made spared overwritten] at failed
      cases failed
  · intro dead
    exact ⟨_, follows.compute?_of_not_alive existing dead⟩

theorem Follows.fails_computation_iff (follows : Follows table actions store)
    (existing : serial < (makings actions).length) :
    Fails store serial Trouble.computation ↔
      Alive actions serial ∧ Overwritten actions serial := by
  constructor
  · intro fails
    by_cases alive : Alive actions serial
    · obtain ⟨⟨classes, made⟩, spared⟩ := id alive
      by_cases overwritten : Overwritten actions serial
      · exact ⟨alive, overwritten⟩
      · obtain ⟨message, failed⟩ := fails
        rw [follows.compute?_of_untouched made spared overwritten] at failed
        cases failed
    · have other := fails.eq_of_compute?
        (follows.compute?_of_not_alive existing alive)
      cases other
  · rintro ⟨alive, overwritten⟩
    exact ⟨_, follows.compute?_of_overwritten alive overwritten⟩

theorem Follows.liveCount_eq (follows : Follows table actions store) :
    store.resolver.liveCount = {serial | Alive actions serial}.ncard := by
  have members : {serial | Alive actions serial} =
      (store.resolver.live.toFinset : Set Nat) := by
    ext serial
    simp [follows.live]
  rw [members, Set.ncard_coe_finset,
    List.toFinset_card_of_nodup follows.nodup, TableResolver.liveCount]

/-- Nothing that is done to other contexts, or makes new ones, shows in the
styles of a context. -/
theorem Follows.compute?_step (follows : Follows table actions store)
    (existing : serial < (makings actions).length) {action : ContextAction}
    (elsewhere : action.subject? ≠ some serial) :
    (store.step action).compute? serial = store.compute? serial := by
  have inside : serial < store.contexts.length := follows.size ▸ existing
  have apart : ∀ other changed, other ≠ serial →
      store.find? other = some changed → changed.serial ≠ serial := by
    intro other changed different found
    rwa [follows.serial other changed found]
  cases action with
  | attach classes =>
      refine compute?_congr (List.getElem?_append_left inside) rfl ?_
      intro context here
      have older : context.serial ≠ store.resolver.next := by
        rw [follows.serial serial context here, follows.next]
        exact Nat.ne_of_lt existing
      simp [ContextStore.step, TableResolver.attach, older]
  | foreign classes handle =>
      exact compute?_congr (List.getElem?_append_left inside) rfl
        fun _ _ => Iff.rfl
  | overwrite other value =>
      have different : other ≠ serial :=
        fun same => elsewhere (congrArg some same)
      cases found : store.find? other with
      | none => simp only [ContextStore.step, found]
      | some changed =>
          simp only [ContextStore.step, found]
          refine compute?_congr ?_ rfl fun _ _ => Iff.rfl
          simp [find?_put, apart other changed different found]
  | compute other => rfl
  | detach other =>
      have different : other ≠ serial :=
        fun same => elsewhere (congrArg some same)
      cases found : store.find? other with
      | none => simp only [ContextStore.step, found]
      | some changed =>
          have unlike := apart other changed different found
          simp only [ContextStore.step, found]
          refine compute?_congr ?_ rfl fun context here => ?_
          · rw [find?_put, if_neg fun same => unlike same.1]
            rfl
          · have number := follows.serial serial context here
            simp [put, TableResolver.detach, number, unlike.symm]

/-! ## Destroying twice -/

theorem detach_detach (resolver : TableResolver) (context : StylingContext) :
    (resolver.detach context).2.detach (resolver.detach context).1 =
      resolver.detach context := by
  simp [TableResolver.detach, List.filter_filter]

theorem step_detach_of_find? {context : StylingContext}
    (here : store.find? serial = some context) :
    store.step (ContextAction.detach serial) =
      put { store with resolver := (store.resolver.detach context).2 }
        (store.resolver.detach context).1 := by
  simp only [ContextStore.step, here]

theorem Follows.step_detach_twice (follows : Follows table actions store)
    (serial : Nat) :
    (store.step (ContextAction.detach serial)).step
        (ContextAction.detach serial) =
      store.step (ContextAction.detach serial) := by
  cases found : store.find? serial with
  | none => simp only [ContextStore.step, found]
  | some context =>
      have number := follows.serial serial context found
      have inside : serial < store.contexts.length :=
        (List.getElem?_eq_some_iff.mp found).1
      have once := step_detach_of_find? found
      have emptied :
          (store.step (ContextAction.detach serial)).find? serial =
            some (store.resolver.detach context).1 := by
        rw [once, find?_put]
        exact if_pos ⟨number, inside⟩
      rw [step_detach_of_find? emptied, once]
      simp only [put, detach_detach, List.set_set]

/-- A context that is destroyed already can be destroyed again, and nobody
notices. -/
theorem Follows.destroyed_step_detach (follows : Follows table actions store)
    (existing : serial < (makings actions).length)
    (destroyed : Destroyed actions serial) :
    (store.step (ContextAction.detach serial)).resolver = store.resolver := by
  obtain ⟨context, here, number⟩ := follows.exists_here existing
  have detached : ∀ other ∈ store.resolver.live, other ≠ serial := by
    rintro other member rfl
    exact ((follows.live other).mp member).2 destroyed
  have kept : (store.resolver.live.filter fun other => other != serial) =
      store.resolver.live :=
    List.filter_eq_self.mpr fun other member =>
      bne_iff_ne.mpr (detached other member)
  simp only [ContextStore.step, here, put, TableResolver.detach, number, kept]

end Computing

/-! ## Histories decide -/

/-- What the history of a table resolver and its contexts says about them. -/
structure Decides (table : StyleTable) (actions : List ContextAction)
    (store : ContextStore) : Prop where
  /-- As many contexts are attached as the resolver made and nobody destroyed. -/
  liveCount : store.resolver.liveCount = {serial | Alive actions serial}.ncard
  construction : ∀ serial < (makings actions).length,
    (Fails store serial Trouble.construction ↔
      Foreign actions serial ∨ Destroyed actions serial)
  computation : ∀ serial < (makings actions).length,
    (Fails store serial Trouble.computation ↔
      Alive actions serial ∧ Overwritten actions serial)
  styles : ∀ serial classes, MadeFor actions serial classes →
    ¬ Destroyed actions serial → ¬ Overwritten actions serial →
      store.compute? serial =
        some (Except.ok
          (table.cascade (ClassText.tokens classes).contains))
  /-- Nothing that is done to other contexts shows. -/
  apart : ∀ serial < (makings actions).length, ∀ action : ContextAction,
    action.subject? ≠ some serial →
      (store.step action).compute? serial = store.compute? serial
  /-- Destroying at once again changes nothing at all. -/
  twice : ∀ serial,
    (store.step (ContextAction.detach serial)).step
        (ContextAction.detach serial) =
      store.step (ContextAction.detach serial)
  /-- Destroying again later changes nothing that anybody can see. -/
  later : ∀ serial, Destroyed actions serial →
    (store.step (ContextAction.detach serial)).resolver = store.resolver ∧
      ∀ other < (makings actions).length,
        (store.step (ContextAction.detach serial)).compute? other =
          store.compute? other

/-- Whatever is done to the contexts of a table resolver, in any order, each of
them is served as its own history says. -/
theorem decides_run (table : StyleTable) {actions : List ContextAction}
    (plain : Plain actions) :
    Decides table actions ((create table).run actions) := by
  have follows := follows_run table plain
  refine ⟨follows.liveCount_eq, ?_, ?_, ?_, ?_, follows.step_detach_twice, ?_⟩
  · intro serial existing
    exact follows.fails_construction_iff existing
  · intro serial existing
    exact follows.fails_computation_iff existing
  · intro serial classes made spared untouched
    exact follows.compute?_of_untouched made spared untouched
  · intro serial existing action elsewhere
    exact follows.compute?_step existing elsewhere
  · intro serial destroyed
    have existing := destroyed.serial_lt
    refine ⟨follows.destroyed_step_detach existing destroyed, ?_⟩
    intro other there
    by_cases same : other = serial
    · subst same
      have gone : ¬ Alive (actions ++ [ContextAction.detach other]) other :=
        fun alive => (alive_concat_detach.mp alive).2 rfl
      rw [follows.compute?_of_not_alive there fun alive => alive.2 destroyed]
      refine (follows.detach other).compute?_of_not_alive ?_ gone
      rwa [makings_concat_of_not rfl]
    · refine follows.compute?_step there ?_
      exact fun found => same (Option.some.inj found).symm

/-- A table with a single class. -/
def padded : StyleTable where
  base := ⟨[("display", "block")]⟩
  styles := ⟨[("p-4", ⟨[("padding", "16px")]⟩)]⟩
  distinct := by decide

/-- A context is overwritten, one is foreign, one is overwritten and destroyed
twice, and the last is left alone. -/
def troubled : List ContextAction :=
  [ContextAction.attach "p-4",
    ContextAction.foreign "p-4" (Handle.tokens ["p-4"]),
    ContextAction.attach "p-4 flex",
    ContextAction.overwrite 0 (Value.text "p-4"),
    ContextAction.overwrite 2 Value.null,
    ContextAction.detach 2,
    ContextAction.detach 2,
    ContextAction.attach " p-4 p-4 "]

theorem decides_run_troubled :
    Plain troubled ∧
      Fails ((create padded).run troubled) 0 Trouble.computation ∧
        Fails ((create padded).run troubled) 1 Trouble.construction ∧
          Fails ((create padded).run troubled) 2 Trouble.construction ∧
            ((create padded).run troubled).compute? 3 =
              some (Except.ok
                ⟨[("display", "block"), ("padding", "16px")]⟩) := by
  have plain : Plain troubled := by
    intro serial value member
    simp [troubled] at member
    rcases member with ⟨_, rfl⟩ | ⟨_, rfl⟩
    · rfl
    · rfl
  have decides := decides_run padded plain
  refine ⟨plain, (decides.computation 0 (by decide)).mpr ⟨⟨?_, ?_⟩, ?_⟩,
    (decides.construction 1 (by decide)).mpr (Or.inl ⟨_, _, rfl⟩),
    (decides.construction 2 (by decide)).mpr (Or.inr ?_), ?_⟩
  · exact ⟨"p-4", rfl⟩
  · intro destroyed
    simpa [troubled] using destroyed.mem
  · exact ⟨_, troubled.take 3, ⟨_, rfl⟩, by decide⟩
  · exact ⟨troubled.take 5, ⟨_, rfl⟩, by decide⟩
  · have made : MadeFor troubled 3 " p-4 p-4 " := rfl
    have spared : ¬ Destroyed troubled 3 := by
      intro destroyed
      simpa [troubled] using destroyed.mem
    have untouched : ¬ Overwritten troubled 3 := by
      rintro ⟨value, done⟩
      simpa [troubled] using done.mem
    rw [decides.styles 3 _ made spared untouched]
    decide +kernel

end ContextStore

end UtilityCss
