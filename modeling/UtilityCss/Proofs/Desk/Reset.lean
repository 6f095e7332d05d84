import Mathlib.Data.List.Perm.Subperm
import UtilityCss.Proofs.Desk.Memory

/-!
# What a reset leaves behind

A reset forgets everything that is remembered, but it does not reach the
conversions that wait for their resolver: these store what they find, as ever.
So whatever is remembered has been stored since the last reset, by a conversion
that has looked its key up since or was waiting when the reset came.
-/

namespace UtilityCss.Desk

/-! ## Conversions that wait -/

def awaited? (desk : Desk) (call : Nat) : Option (Nat × String) :=
  match desk.calls[call]? with
  | some ⟨text, _, Progress.extracting _ _⟩ => some (call, text)
  | _ => none

/-- The conversions that wait for their resolver. -/
def awaiting (desk : Desk) : List (Nat × String) :=
  (List.range desk.calls.length).filterMap desk.awaited?

theorem mem_awaiting {desk : Desk} {call : Nat} {text : String} :
    (call, text) ∈ desk.awaiting ↔
      ∃ token job extraction,
        desk.calls[call]? =
          some ⟨text, token, Progress.extracting job extraction⟩ := by
  rw [awaiting, List.mem_filterMap]
  constructor
  · rintro ⟨other, _, picked⟩
    rw [awaited?] at picked
    split at picked
    · rename_i found token job extraction waiting
      obtain ⟨rfl, rfl⟩ := Prod.mk.inj (Option.some.inj picked)
      exact ⟨token, job, extraction, waiting⟩
    · cases picked
  · rintro ⟨token, job, extraction, waiting⟩
    obtain ⟨inside, _⟩ := List.getElem?_eq_some_iff.mp waiting
    exact ⟨call, List.mem_range.mpr inside, by rw [awaited?, waiting]⟩

theorem Idle.awaiting_eq_nil {desk : Desk} (idle : desk.Idle) :
    desk.awaiting = [] := by
  rw [List.eq_nil_iff_forall_not_mem]
  rintro ⟨call, text⟩ member
  obtain ⟨token, job, extraction, waiting⟩ := mem_awaiting.mp member
  exact idle call text token job extraction waiting

theorem awaiting_of_received {desk : Desk} {action : Action} {call : Nat}
    {text : String} (member : (call, text) ∈ (desk.received action).awaiting) :
    (call, text) ∈ desk.awaiting := by
  obtain ⟨token, job, extraction, waiting⟩ := mem_awaiting.mp member
  rcases received_call_cases waiting with kept | ⟨_, arrives⟩
  · exact mem_awaiting.mpr ⟨token, job, extraction, kept⟩
  · cases asleep_of_arrival? arrives

/-- Whether another conversion waits is not changed by the turn of a call. -/
theorem awaiting_of_turned {desk : Desk} {processor : Processor}
    {turned other : Nat} {text found : String} {token : Option Token}
    {before progress : Progress}
    (here : desk.calls[turned]? = some ⟨found, token, before⟩)
    (member : (other, text) ∈ (desk.turned processor turned progress).awaiting) :
    (other, text) ∈ desk.awaiting ∨
      (other = turned ∧ text = found ∧
        ∃ job extraction, progress = Progress.extracting job extraction) := by
  obtain ⟨mark, job, extraction, waiting⟩ := mem_awaiting.mp member
  have here' :
      ({ desk with processor := processor } : Desk).calls[turned]? =
        some ⟨found, token, before⟩ := here
  rcases setProgress_call_cases here' waiting with ⟨same, entry⟩ | ⟨_, kept⟩
  · obtain ⟨rfl, _, rfl⟩ := Call.mk.inj entry
    exact Or.inr ⟨same, rfl, job, extraction, rfl⟩
  · exact Or.inl (mem_awaiting.mpr ⟨mark, job, extraction, kept⟩)

/-- A conversion that waits after an action has waited before it, or has just
missed its key. -/
theorem awaiting_step {desk : Desk} {action : Action} {call : Nat}
    {text : String} (member : (call, text) ∈ (desk.step action).1.awaiting) :
    (call, text) ∈ desk.awaiting ∨ (call, text) ∈ desk.missedBy action := by
  have shows := shows_step desk action
  rw [missedBy, lookups]
  generalize (desk.step action).1 = next at shows member ⊢
  generalize (desk.step action).2 = notes at shows ⊢
  cases shows with
  | rest silent => exact Or.inl (awaiting_of_received member)
  | settling silent asleep opening =>
      rcases awaiting_of_turned asleep member with kept |
        ⟨_, _, job, extraction, equality⟩
      · exact Or.inl (awaiting_of_received kept)
      · cases equality
  | @asking turned found token job phases processor silent asleep opening =>
      rcases awaiting_of_turned asleep member with kept | ⟨rfl, rfl, _⟩
      · exact Or.inl (awaiting_of_received kept)
      · right
        rw [startsIn_opening (calls_turned_self asleep _ _) opening rfl]
        have opens := desk.processor.opens text
        rw [opening] at opens
        cases opens with
        | miss accepted miss =>
            have absent :
                desk.processor.cache.contains (keyOf text) = false := by
              rw [RecencyCache.contains_eq_isSome_peek?, miss]
              rfl
            simp [reaches_of_accepted accepted, absent]
  | dropping woken asleep unwanted =>
      rcases awaiting_of_turned asleep member with kept |
        ⟨_, _, job, extraction, equality⟩
      · exact Or.inl kept
      · cases equality
  | goingOn answered waiting taken asks =>
      rcases awaiting_of_turned waiting member with kept | ⟨rfl, rfl, _⟩
      · exact Or.inl kept
      · exact Or.inl (mem_awaiting.mpr ⟨_, _, _, waiting⟩)
  | closing answered waiting taken =>
      rcases awaiting_of_turned waiting member with kept |
        ⟨_, _, job, extraction, equality⟩
      · exact Or.inl kept
      · cases equality

/-- A conversion that waits has waited for some actions, or has missed its key
with one of them. -/
theorem awaiting_append (settings : Settings) {earlier recent : List Action}
    {call : Nat} {text : String}
    (member : (call, text) ∈ (after settings (earlier ++ recent)).awaiting) :
    (call, text) ∈ gather missedBy (after settings earlier) recent ∨
      (call, text) ∈ (after settings earlier).awaiting := by
  induction recent using List.reverseRecOn with
  | nil =>
      rw [List.append_nil] at member
      exact Or.inr member
  | append_singleton recent action inductionHypothesis =>
      rw [← List.append_assoc, after_concat] at member
      rw [gather_after_concat]
      rcases awaiting_step member with waited | missed
      · rcases inductionHypothesis waited with missed | waited
        · exact Or.inl (List.mem_append_left _ missed)
        · exact Or.inr waited
      · exact Or.inl (List.mem_append_right _ missed)

theorem of_mem_succeeding {desk : Desk} {call other : Nat}
    {text found : String} {token : Option Token} {extraction : Extraction}
    (member : (call, text) ∈ desk.succeeding other found token extraction) :
    call = other ∧ text = found := by
  unfold succeeding at member
  split at member
  · split at member
    · exact Prod.mk.inj (List.mem_singleton.mp member)
    · cases member
  · cases member

/-- Only a conversion that waits stores what it has found. -/
theorem awaiting_of_storedBy {desk : Desk} {action : Action} {call : Nat}
    {text : String} (stored : (call, text) ∈ desk.storedBy action) :
    (call, text) ∈ desk.awaiting := by
  cases action with
  | reply other reply =>
      rw [storedBy] at stored
      split at stored
      · rename_i found token job extraction waiting
        cases taken : extraction.take? reply with
        | none =>
            rw [taken] at stored
            cases stored
        | some later =>
            rw [taken, Option.map_some, Option.getD_some] at stored
            obtain ⟨rfl, rfl⟩ := of_mem_succeeding stored
            exact mem_awaiting.mpr ⟨token, job, extraction, waiting⟩
      · cases stored
  | _ => cases stored

/-! ## Where an entry comes from -/

/-- A conversion has stored an entry during the recent actions; it has missed
its key during them, or was waiting before them. -/
structure Source (settings : Settings) (earlier recent : List Action)
    (entry : String × Conversion) (call : Nat) (text : String) : Prop where
  stored : (call, text) ∈ gather storedBy (after settings earlier) recent
  key : keyOf text = entry.1
  result : (after settings (earlier ++ recent)).answer? call =
    some (some entry.2)
  missed : (call, text) ∈ gather missedBy (after settings earlier) recent ∨
    (call, text) ∈ (after settings earlier).awaiting

theorem Source.concat {settings : Settings} {earlier recent : List Action}
    {entry : String × Conversion} {call : Nat} {text : String}
    (source : Source settings earlier recent entry call text)
    (action : Action) :
    Source settings earlier (recent ++ [action]) entry call text where
  stored := by
    rw [gather_after_concat]
    exact List.mem_append_left _ source.stored
  key := source.key
  result := by
    rw [← List.append_assoc]
    exact answer?_append source.result [action]
  missed := by
    rw [gather_after_concat]
    exact source.missed.imp_left (List.mem_append_left _)

theorem SinceReset.source {actions earlier recent : List Action}
    (since : SinceReset actions earlier recent) {settings : Settings}
    {entry : String × Conversion}
    (held : entry ∈ (after settings actions).processor.cache.entries) :
    ∃ call text, Source settings earlier recent entry call text := by
  obtain ⟨rfl, fresh, kept⟩ := since
  induction recent using List.reverseRecOn with
  | nil =>
      rw [List.append_nil, entries_of_fresh settings fresh] at held
      cases held
  | append_singleton recent action inductionHypothesis =>
      rw [List.mem_append, List.mem_singleton, not_or] at kept
      have older :
          entry ∈ (after settings (earlier ++ recent)).processor.cache.entries →
            ∃ call text,
              Source settings earlier (recent ++ [action]) entry call text := by
        intro before
        obtain ⟨call, text, source⟩ := inductionHypothesis kept.1 before
        exact ⟨call, text, source.concat action⟩
      rw [← List.append_assoc, after_concat] at held
      have recalls := recalls_step settings (earlier ++ recent)
        (Ne.symm kept.2)
      generalize (after settings (earlier ++ recent)).foundBy action = found
        at recalls
      generalize stores :
        (after settings (earlier ++ recent)).storedBy action = stored at recalls
      cases recalls with
      | nothing same => exact older (same ▸ held)
      | finding found wanted accepted hit moved ended =>
          rw [moved] at held
          exact older (RecencyCache.mem_entries_of_get? held)
      | @storing call text token result accepted success added ended =>
          rw [added] at held
          -- only the entry just stored is new, and its conversion was waiting
          rcases RecencyCache.mem_entries_of_set held with rfl | ⟨before, _⟩
          · have here : (call, text) ∈
                (after settings (earlier ++ recent)).storedBy action :=
              stores ▸ List.mem_singleton.mpr rfl
            refine ⟨call, text, ?_, rfl, ?_, ?_⟩
            · rw [gather_after_concat]
              exact List.mem_append_right _ here
            · rw [← List.append_assoc, after_concat]
              exact (answer?_eq_some_iff _ _ _).mpr ⟨_, ended, rfl⟩
            · rw [gather_after_concat]
              exact (awaiting_append settings
                (awaiting_of_storedBy here)).imp_left (List.mem_append_left _)
          · exact older before

/-! ## How much is remembered -/

theorem SinceReset.nodup_keys {actions earlier recent : List Action}
    (since : SinceReset actions earlier recent) (settings : Settings) :
    (after settings actions).processor.cache.keys.Nodup := by
  obtain ⟨value?, reflects⟩ := since.reflects settings
  obtain ⟨dropped, partition, _⟩ := reflects.recent
  have nodup := List.nodup_dedup (gather touchedBy (after settings earlier) recent)
  rw [partition] at nodup
  exact nodup.of_append_right

/-- There are no more entries than conversions they may come from. -/
theorem SinceReset.size_le {actions earlier recent : List Action}
    (since : SinceReset actions earlier recent) (settings : Settings) :
    (after settings actions).processor.cache.size ≤
      (after settings actions).processor.misses +
        (after settings earlier).awaiting.length := by
  have sources : (after settings actions).processor.cache.keys ⊆
      (gather missedBy (after settings earlier) recent ++
        (after settings earlier).awaiting).map fun conversion =>
          keyOf conversion.2 := by
    intro key present
    obtain ⟨entry, held, rfl⟩ := List.mem_map.mp present
    obtain ⟨call, text, source⟩ := since.source held
    exact List.mem_map.mpr
      ⟨(call, text), List.mem_append.mpr source.missed, source.key⟩
  have count :=
    (List.subperm_of_subset (since.nodup_keys settings) sources).length_le
  rw [RecencyCache.length_keys, List.length_map, List.length_append] at count
  rw [(since.counters settings).2]
  exact count

/-! ## Lookups since a reset -/

theorem mem_gather {α : Type} {pick : Desk → Action → List α}
    {settings : Settings} {earlier recent : List Action} {item : α}
    (member : item ∈ gather pick (after settings earlier) recent) :
    ∃ before action rest, recent = before ++ action :: rest ∧
      item ∈ pick (after settings (earlier ++ before)) action := by
  induction recent using List.reverseRecOn with
  | nil => cases member
  | append_singleton recent action inductionHypothesis =>
      rw [gather_after_concat] at member
      rcases List.mem_append.mp member with older | last
      · obtain ⟨before, other, rest, rfl, picked⟩ := inductionHypothesis older
        exact ⟨before, other, rest ++ [action], by simp, picked⟩
      · exact ⟨recent, action, [], rfl, last⟩

/-- A conversion that has missed its key since then had shown nothing of itself
before. -/
theorem trail_of_missedBy {settings : Settings} {earlier recent : List Action}
    {call : Nat} {text : String}
    (missed : (call, text) ∈ gather missedBy (after settings earlier) recent) :
    trail settings earlier call = Trail.empty := by
  obtain ⟨before, action, rest, rfl, picked⟩ := mem_gather missed
  have unseen := trail_of_lookup (List.mem_filter.mp picked).1
  obtain ⟨more, grown⟩ := exists_trail_append settings earlier before call
  rw [grown] at unseen
  obtain ⟨phases, requests, replies⟩ := Trail.mk.inj unseen
  rw [Trail.empty, ← (List.append_eq_nil_iff.mp phases).1,
    ← (List.append_eq_nil_iff.mp requests).1,
    ← (List.append_eq_nil_iff.mp replies).1]

theorem mem_lookups_of_missedBy {desk : Desk} {actions : List Action}
    {item : Nat × String} (missed : item ∈ gather missedBy desk actions) :
    item ∈ gather lookups desk actions := by
  induction actions generalizing desk with
  | nil => cases missed
  | cons action actions inductionHypothesis =>
      rw [gather, List.mem_append] at missed ⊢
      exact missed.imp (fun here => (List.mem_filter.mp here).1)
        inductionHypothesis

/-- What a key that is found gives is what it is remembered with. -/
theorem held_of_foundBy {settings : Settings} {before rest : List Action}
    {action : Action} {call : Nat} {text : String} {result : Conversion}
    (kept : action ≠ Action.reset)
    (found : (call, text) ∈ (after settings before).foundBy action)
    (given : (after settings (before ++ action :: rest)).answer? call =
      some (some result)) :
    (keyOf text, result) ∈ (after settings before).processor.cache.entries := by
  have recalls := recalls_step settings before kept
  generalize (after settings before).foundBy action = hits at recalls found
  generalize (after settings before).storedBy action = stored at recalls
  cases recalls with
  | nothing same => cases found
  | @finding turned other token answer wanted accepted hit moved ended =>
      obtain ⟨rfl, rfl⟩ := Prod.mk.inj (List.mem_singleton.mp found)
      have answered : (after settings (before ++ [action])).answer? call =
          some (Processor.commit wanted answer) := by
        rw [after_concat]
        exact (answer?_eq_some_iff _ _ _).mpr ⟨_, ended, rfl⟩
      have later := answer?_append answered rest
      rw [List.append_assoc, List.singleton_append, given] at later
      rw [← commit_eq_some (Option.some.inj later).symm]
      exact RecencyCache.mem_entries_of_peek? hit
  | storing result accepted success added ended => cases found

/-! ## All entries together -/

/-- Nothing from before a reset is remembered after it: every entry was stored
by a conversion that has looked its key up since, there are no more entries than
misses, and every key that is found gives the result of such a conversion. -/
structure Final (settings : Settings) (earlier recent : List Action) : Prop
    where
  renewed : ∀ entry ∈ (after settings (earlier ++ recent)).processor.cache.entries,
    ∃ call text, Source settings earlier recent entry call text ∧
      (call, text) ∈ gather lookups (after settings earlier) recent
  counted : (after settings (earlier ++ recent)).processor.cache.size ≤
    (after settings (earlier ++ recent)).processor.misses
  served : ∀ before action rest, recent = before ++ action :: rest →
    ∀ call text,
      (call, text) ∈ (after settings (earlier ++ before)).foundBy action →
        ∀ result,
          (after settings (earlier ++ recent)).answer? call =
              some (some result) →
            ∃ source other,
              Source settings earlier before (keyOf text, result) source other ∧
                (source, other) ∈
                  gather lookups (after settings earlier) before

/-- Where everything comes from that is remembered or served after a reset. -/
structure Renewing (settings : Settings) (actions : List Action) : Prop where
  split : ∃ earlier recent, SinceReset actions earlier recent
  /-- Every entry has been stored since the last reset, by a conversion that has
  missed its key since or was waiting then. -/
  renewed : ∀ earlier recent, SinceReset actions earlier recent →
    ∀ entry ∈ (after settings actions).processor.cache.entries,
      ∃ call text, Source settings earlier recent entry call text
  /-- A conversion that has missed its key since the last reset had shown
  nothing of itself by then. -/
  unbegun : ∀ earlier recent, SinceReset actions earlier recent →
    ∀ call text,
      (call, text) ∈ gather missedBy (after settings earlier) recent →
        trail settings earlier call = Trail.empty
  counted : ∀ earlier recent, SinceReset actions earlier recent →
    (after settings actions).processor.cache.size ≤
      (after settings actions).processor.misses +
        (after settings earlier).awaiting.length
  /-- A key that is found gives a result that has been stored since the last
  reset. -/
  served : ∀ earlier recent, SinceReset actions earlier recent →
    ∀ before action rest, recent = before ++ action :: rest →
      ∀ call text,
        (call, text) ∈ (after settings (earlier ++ before)).foundBy action →
          ∀ result,
            (after settings actions).answer? call = some (some result) →
              ∃ source other,
                Source settings earlier before (keyOf text, result) source other
  /-- A reset is final when no conversion waits for its resolver. -/
  final : ∀ earlier recent, SinceReset actions earlier recent →
    (after settings earlier).Idle → Final settings earlier recent

theorem SinceReset.served {actions earlier recent : List Action}
    (since : SinceReset actions earlier recent) {settings : Settings}
    {before rest : List Action} {action : Action}
    (partition : recent = before ++ action :: rest) {call : Nat} {text : String}
    (found :
      (call, text) ∈ (after settings (earlier ++ before)).foundBy action)
    {result : Conversion}
    (given :
      (after settings actions).answer? call = some (some result)) :
    ∃ source other,
      Source settings earlier before (keyOf text, result) source other := by
  obtain ⟨rfl, fresh, unreset⟩ := since
  subst partition
  have kept : action ≠ Action.reset := by
    rintro rfl
    exact unreset (List.mem_append_right _ List.mem_cons_self)
  have since : SinceReset (earlier ++ before) earlier before :=
    ⟨rfl, fresh, fun reset => unreset (List.mem_append_left _ reset)⟩
  rw [← List.append_assoc] at given
  exact since.source (held_of_foundBy kept found given)

theorem Source.lookup_of_idle {settings : Settings}
    {earlier recent : List Action} {entry : String × Conversion} {call : Nat}
    {text : String} (source : Source settings earlier recent entry call text)
    (idle : (after settings earlier).Idle) :
    (call, text) ∈ gather lookups (after settings earlier) recent := by
  rcases source.missed with missed | waited
  · exact mem_lookups_of_missedBy missed
  · rw [idle.awaiting_eq_nil] at waited
    cases waited

theorem SinceReset.final {actions earlier recent : List Action}
    (since : SinceReset actions earlier recent) {settings : Settings}
    (idle : (after settings earlier).Idle) : Final settings earlier recent := by
  have partition := since.partition
  refine ⟨fun entry held => ?_, ?_, ?_⟩
  · obtain ⟨call, text, source⟩ := since.source (partition ▸ held)
    exact ⟨call, text, source, source.lookup_of_idle idle⟩
  · have count := since.size_le settings
    rw [idle.awaiting_eq_nil, partition] at count
    exact count
  · intro before action rest split call text found result given
    obtain ⟨source, other, origin⟩ :=
      since.served split found (partition ▸ given)
    exact ⟨source, other, origin, origin.lookup_of_idle idle⟩

theorem renewing_after (settings : Settings) (actions : List Action) :
    Renewing settings actions where
  split := exists_sinceReset actions
  renewed _ _ since _ held := since.source held
  unbegun _ _ _ _ _ missed := trail_of_missedBy missed
  counted _ _ since := since.size_le settings
  served _ _ since _ _ _ partition _ _ found _ given :=
    since.served partition found given
  final _ _ since idle := since.final idle

/-- A conversion whose styles are found before a reset and which ends after
it. -/
def suspending : List Action :=
  [Action.convert "p-4" none,
    Action.reply 0 (Reply.created (Except.ok ⟨0, "p-4", Handle.missing⟩)),
    Action.reply 0 (Reply.computed (Except.ok padded)),
    Action.reset]

/-- The end of the conversion, and another one of the same text. -/
def resuming : List Action :=
  [Action.reply 0 (Reply.destroyed (Except.ok ())),
    Action.convert "p-4" none]

/-- What waits for its resolver outlives a reset, and serves the next conversion
of the text. -/
theorem not_final_suspending :
    SinceReset (suspending ++ resuming) suspending resuming ∧
      (after Settings.usual (suspending ++ resuming)).processor.cache.size =
          1 ∧
        (after Settings.usual (suspending ++ resuming)).processor.misses = 0 ∧
          (after Settings.usual (suspending ++ resuming)).answer? 1 =
              some (some (Conversion.ofStyles "p-4" padded)) ∧
            (trail Settings.usual (suspending ++ resuming) 1).requests = [] ∧
              ¬ Final Settings.usual suspending resuming := by
  have since : SinceReset (suspending ++ resuming) suspending resuming :=
    ⟨rfl, Or.inr ⟨suspending.take 3, rfl⟩, by simp [resuming]⟩
  have size :
      (after Settings.usual (suspending ++ resuming)).processor.cache.size =
        1 := rfl
  have misses :
      (after Settings.usual (suspending ++ resuming)).processor.misses = 0 :=
    rfl
  refine ⟨since, size, misses, rfl, rfl, fun final => ?_⟩
  have count := final.counted
  rw [size, misses] at count
  exact absurd count (by decide)

end UtilityCss.Desk
