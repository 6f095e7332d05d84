import UtilityCss.Resolver.Browser

/-!
# The way up, call by call

`Running.afterCall` lets a browser go as soon as it is told to close.  Here a
driver and a browser run until the engine has ended them, so that nothing can
come up beside something that is only about to end.  While the engine fails
with its own errors and ends what it is told to end, a startup holds exactly
what runs, and it comes to its end after ten answers at most.
-/

namespace UtilityCss.Browser

/-- The call ends a browser or a driver. -/
def Call.ends : Call → Bool
  | Call.closeBrowser _ => true
  | Call.stopDriver _ => true
  | _ => false

/-- The engine may fail a call with an error of its own, but it ends whatever
it is told to end. -/
def Response.Admitted (call? : Option Call) : Response → Prop
  | Response.failed fault =>
      isEngineFault fault = true ∧ call?.any Call.ends = false
  | _ => True

instance (call? : Option Call) : ∀ response : Response,
    Decidable (response.Admitted call?)
  | Response.failed _ => inferInstanceAs (Decidable (_ ∧ _))
  | Response.done => isTrue trivial
  | Response.noElement => isTrue trivial
  | Response.values _ => isTrue trivial

/-- What runs when a call has been answered: only a call that has not failed
brings something up or down. -/
def Running.afterAnswer (running : Running) (serial : Nat) :
    Call → Response → Running
  | _, Response.failed _ => running
  | Call.start, _ => { running with drivers := serial :: running.drivers }
  | Call.launch _ _ _ _, _ =>
      { running with browsers := serial :: running.browsers }
  | Call.closeBrowser browser, _ =>
      { running with browsers := running.browsers.erase browser }
  | Call.stopDriver driver, _ =>
      { running with drivers := running.drivers.erase driver }
  | _, _ => running

/-! ## What a startup holds -/

namespace Startup

/-- Where a startup is, what is held then and what runs. -/
inductive Stands : Startup → Holdings → Running → Prop
  | starting : Stands starting Holdings.nothing Running.nothing
  | launching {driver attempt : Nat} (tried : 0 < attempt)
      (few : attempt ≤ mostAttempts) :
      Stands (launching driver attempt) ⟨some driver, none, none⟩
        ⟨[driver], []⟩
  | resting {driver attempt : Nat} (tried : 0 < attempt)
      (few : attempt < mostAttempts) :
      Stands (resting driver attempt) ⟨some driver, none, none⟩
        ⟨[driver], []⟩
  | opening {driver browser : Nat} :
      Stands (opening browser) ⟨some driver, some browser, none⟩
        ⟨[driver], [browser]⟩
  | filling {driver browser page : Nat} :
      Stands (filling page) ⟨some driver, some browser, none⟩
        ⟨[driver], [browser]⟩
  | closing {driver browser : Nat} {cause : Fault} :
      Stands (undoing (Closing.browser browser) cause)
        ⟨some driver, some browser, none⟩ ⟨[driver], [browser]⟩
  | stopping {driver : Nat} {browser : Option Nat} {cause : Fault} :
      Stands (undoing (Closing.driver driver) cause)
        ⟨some driver, browser, none⟩ ⟨[driver], []⟩
  | ready {driver browser page : Nat} :
      Stands (finished (Except.ok page))
        ⟨some driver, some browser, some page⟩ ⟨[driver], [browser]⟩
  | failed {fault : Fault} :
      Stands (finished (Except.error fault)) Holdings.nothing Running.nothing

/-- The number of answers that bring a startup to its end at the latest. -/
def remaining : Startup → Nat
  | starting => 10
  | launching _ attempt => 5 + 2 * (mostAttempts - attempt)
  | resting _ attempt => 4 + 2 * (mostAttempts - attempt)
  | opening _ => 4
  | filling _ => 3
  | undoing (Closing.browser _) _ => 2
  | undoing (Closing.driver _) _ => 1
  | undoing (Closing.finished _) _ => 0
  | finished _ => 0

variable {options : Options} {startup : Startup} {holdings : Holdings}
  {running : Running}

theorem Stands.page_eq_none (stands : startup.Stands holdings running)
    (going : 0 < startup.remaining) : holdings.page = none := by
  cases stands with
  | ready => exact absurd going (Nat.lt_irrefl 0)
  | _ => rfl

theorem Stands.length_drivers_le (stands : startup.Stands holdings running) :
    running.drivers.length ≤ 1 := by
  cases stands <;> simp [Running.nothing]

theorem Stands.length_browsers_le (stands : startup.Stands holdings running) :
    running.browsers.length ≤ 1 := by
  cases stands <;> simp [Running.nothing]

theorem Stands.remaining_le (stands : startup.Stands holdings running) :
    startup.remaining ≤ 10 := by
  cases stands with
  | launching tried few =>
      simp only [remaining, mostAttempts]
      omega
  | resting tried few =>
      simp only [remaining, mostAttempts]
      omega
  | _ => simp [remaining]

/-- A startup that is not over has answers to wait for. -/
theorem Stands.remaining_pos (stands : startup.Stands holdings running)
    (going : ∀ outcome, startup ≠ finished outcome) :
    0 < startup.remaining := by
  cases stands with
  | launching tried few =>
      simp only [remaining]
      omega
  | resting tried few =>
      simp only [remaining]
      omega
  | ready => exact absurd rfl (going _)
  | failed => exact absurd rfl (going _)
  | _ => simp [remaining]

theorem Stands.exists_call (stands : startup.Stands holdings running)
    (going : 0 < startup.remaining) (options : Options) :
    ∃ call, startup.call? options = some call := by
  cases stands with
  | ready => exact absurd going (Nat.lt_irrefl 0)
  | failed => exact absurd going (Nat.lt_irrefl 0)
  | _ => exact ⟨_, rfl⟩

/-! ## The length of the way -/

/-- The startup waits for an answer, and after a rest it may try again. -/
def Patient : Startup → Prop
  | resting _ attempt => attempt < mostAttempts
  | undoing closing _ => closing.call? ≠ none
  | finished _ => False
  | _ => True

theorem Stands.patient {call : Call}
    (stands : startup.Stands holdings running)
    (waits : startup.call? options = some call) : startup.Patient := by
  cases stands with
  | resting tried few => exact few
  | closing => exact Option.some_ne_none _
  | stopping => exact Option.some_ne_none _
  | ready => cases waits
  | failed => cases waits
  | _ => trivial

theorem remaining_undo_le (cause : Fault) (way : Closing × Holdings) :
    (undo cause way).1.remaining ≤ (undoing way.1 cause).remaining := by
  obtain ⟨closing, left⟩ := way
  cases closing with
  | finished outcome => cases outcome <;> exact Nat.le_refl 0
  | _ => exact Nat.le_refl _

theorem remaining_fromDriver_le (cause : Fault) (holdings : Holdings) :
    (undoing (Closing.fromDriver holdings).1 cause).remaining ≤ 1 := by
  rw [Closing.fromDriver]
  split <;> simp [remaining]

theorem remaining_fail_le (holdings : Holdings) (fault : Fault) :
    (fail holdings fault).1.remaining ≤ 2 := by
  rw [fail]
  split
  · refine Nat.le_trans (remaining_undo_le fault _) ?_
    rw [Closing.start]
    split
    · exact Nat.le_refl 2
    · exact Nat.le_succ_of_le (remaining_fromDriver_le fault holdings)
  · simp [remaining]

theorem remaining_undo_take_lt (cause : Fault) (holdings : Holdings)
    {closing : Closing} (going : closing.call? ≠ none) (response : Response) :
    (undo cause (closing.take holdings response)).1.remaining <
      (undoing closing cause).remaining := by
  refine Nat.lt_of_le_of_lt (remaining_undo_le cause _) ?_
  cases closing with
  | browser held =>
      have next := Nat.lt_succ_of_le (remaining_fromDriver_le cause holdings)
      cases response with
      | failed fault =>
          rw [Closing.take]
          split
          · exact next
          · simp [remaining]
      | _ => exact next
  | driver held => cases response <;> simp [Closing.take, remaining]
  | finished outcome => exact absurd rfl going

/-- Each answer brings a startup nearer to its end. -/
theorem remaining_take_lt (patient : startup.Patient) (holdings : Holdings)
    (serial : Nat) (response : Response) :
    (startup.take holdings serial response).1.remaining <
      startup.remaining := by
  have failing : 2 < startup.remaining → ∀ fault,
      (fail holdings fault).1.remaining < startup.remaining :=
    fun above fault => Nat.lt_of_le_of_lt (remaining_fail_le _ _) above
  cases startup with
  | starting =>
      cases response with
      | failed fault => exact failing (by simp [remaining]) fault
      | _ => simp [take, remaining, mostAttempts]
  | launching driver attempt =>
      cases response with
      | failed fault =>
          rw [take]
          split
          · simp only [remaining]
            omega
          · apply failing
            simp only [remaining]
            omega
      | _ =>
          simp only [take, remaining]
          omega
  | resting driver attempt =>
      have few : attempt < mostAttempts := patient
      have launched : (launching driver (attempt + 1)).remaining <
          (resting driver attempt).remaining := by
        simp only [remaining]
        omega
      cases response <;> exact launched
  | opening browser =>
      cases response with
      | failed fault => exact failing (by simp [remaining]) fault
      | _ => simp [take, remaining]
  | filling page =>
      cases response with
      | failed fault => exact failing (by simp [remaining]) fault
      | _ => simp [take, remaining]
  | undoing closing cause =>
      have sunk := remaining_undo_take_lt cause holdings patient response
      cases response <;> exact sunk
  | finished outcome => exact patient.elim

/-! ## Answers -/

/-- Where a startup is after an answer: it stands, and has come nearer to its
end than before. -/
structure Rises (before : Startup) (next : Startup × Holdings)
    (running : Running) : Prop where
  stands : next.1.Stands next.2 running
  nearer : next.1.remaining < before.remaining

/-- A failed startup brings down what it has brought up, and is over if that is
nothing. -/
theorem stands_fail {fault : Fault} (stands : startup.Stands holdings running)
    (engine : isEngineFault fault = true)
    (ascending : 2 < startup.remaining) :
    (fail holdings fault).1.Stands (fail holdings fault).2 running := by
  rw [fail, if_pos engine]
  cases stands with
  | starting => exact Stands.failed
  | launching tried few => exact Stands.stopping
  | resting tried few => exact Stands.stopping
  | opening => exact Stands.closing
  | filling => exact Stands.closing
  | _ => simp [remaining] at ascending

theorem stands_take {call : Call} {response : Response}
    (stands : startup.Stands holdings running)
    (waits : startup.call? options = some call) (serial : Nat)
    (admitted : response.Admitted (some call)) :
    (startup.take holdings serial response).1.Stands
      (startup.take holdings serial response).2
      (running.afterAnswer serial call response) := by
  cases stands with
  | starting =>
      obtain rfl := Option.some.inj waits
      cases response with
      | failed fault =>
          exact stands_fail Stands.starting admitted.1 (by simp [remaining])
      | _ => exact Stands.launching Nat.one_pos (by simp [mostAttempts])
  | @launching driver attempt tried few =>
      obtain rfl := Option.some.inj waits
      cases response with
      | failed fault =>
          have stands : Stands (launching driver attempt)
              ⟨some driver, none, none⟩ ⟨[driver], []⟩ :=
            Stands.launching tried few
          by_cases again : isTimeout fault ∧ attempt < mostAttempts
          · rw [take, if_pos again]
            exact Stands.resting tried again.2
          · rw [take, if_neg again]
            apply stands_fail stands admitted.1
            simp only [remaining]
            omega
      | _ => exact Stands.opening
  | @resting driver attempt tried few =>
      obtain rfl := Option.some.inj waits
      have launched : Stands (launching driver (attempt + 1))
          ⟨some driver, none, none⟩ ⟨[driver], []⟩ :=
        Stands.launching (Nat.succ_pos attempt) few
      cases response <;> exact launched
  | opening =>
      obtain rfl := Option.some.inj waits
      cases response with
      | failed fault =>
          exact stands_fail Stands.opening admitted.1 (by simp [remaining])
      | _ => exact Stands.filling
  | @filling driver browser page =>
      obtain rfl := Option.some.inj waits
      cases response with
      | failed fault =>
          have stands : Stands (filling page)
              ⟨some driver, some browser, none⟩ ⟨[driver], [browser]⟩ :=
            Stands.filling
          exact stands_fail stands admitted.1 (by simp [remaining])
      | _ => exact Stands.ready
  | @closing driver browser cause =>
      obtain rfl := Option.some.inj waits
      have stopping : Stands (undoing (Closing.driver driver) cause)
          ⟨some driver, some browser, none⟩
          ⟨[driver], [browser].erase browser⟩ := by
        rw [List.erase_cons_head]
        exact Stands.stopping
      cases response with
      | failed fault => cases admitted.2
      | _ => exact stopping
  | @stopping driver browser cause =>
      obtain rfl := Option.some.inj waits
      have failed : Stands (finished (Except.error (failure cause)))
          Holdings.nothing ⟨[driver].erase driver, []⟩ := by
        rw [List.erase_cons_head]
        exact Stands.failed
      cases response with
      | failed fault => cases admitted.2
      | _ => exact failed
  | ready => cases waits
  | failed => cases waits

/-- Each call of a way up brings up one thing, which is held from then on, or
leads to the way down. -/
theorem rises_take {call : Call} {response : Response}
    (stands : startup.Stands holdings running)
    (waits : startup.call? options = some call) (serial : Nat)
    (admitted : response.Admitted (some call)) :
    Rises startup (startup.take holdings serial response)
      (running.afterAnswer serial call response) where
  stands := stands_take stands waits serial admitted
  nearer := remaining_take_lt (stands.patient waits) holdings serial response

end Startup

end UtilityCss.Browser
