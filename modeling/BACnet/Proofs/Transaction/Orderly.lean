import BACnet.Proofs.Transaction.Endpoint

/-!
# Transactions and their timers

Every transaction that is not over has exactly one timer, and every timer of a transaction has its
transaction. A transaction may only react while the timers of all others are in order and while its
own timer is the one that it has, or has just run out (`Ready`); every reaction but one that keeps a
timer that has run out then leaves all timers in order.
-/

namespace BACnet

namespace Endpoint

/-- The invariant of an endpoint. -/
structure Invariant (config : Config) (endpoint : Endpoint) : Prop where
  sound : endpoint.transactions.Sound config
  wellFormed : endpoint.timers.WellFormed
  timed : ∀ key, endpoint.timers.handlesOf (.transaction key) =
    (endpoint.transactions.timer? key).toList

/-- The timer of a transaction is the only one for it, -/
theorem Invariant.handlesOf_live {config : Config} {endpoint : Endpoint}
    (invariant : endpoint.Invariant config) {key : TransactionKey} {live : LiveTransaction}
    (found : endpoint.transactions.live.find? key = some live) :
    endpoint.timers.handlesOf (.transaction key) = [live.timer] := by
  rw [invariant.timed, Transactions.timer?_of_live found, Option.toList_some]

/-- and is for nothing else. -/
theorem Invariant.event?_live {config : Config} {endpoint : Endpoint}
    (invariant : endpoint.Invariant config) {key : TransactionKey} {live : LiveTransaction}
    (found : endpoint.transactions.live.find? key = some live) :
    endpoint.timers.event? live.timer = some (.transaction key) := by
  apply invariant.wellFormed.event?_of_mem
  rw [← TimerQueue.mem_handlesOf, invariant.handlesOf_live found]
  exact List.mem_singleton_self _

/-- A timer of a transaction is that of a live one. -/
theorem Invariant.exists_live {config : Config} {endpoint : Endpoint}
    (invariant : endpoint.Invariant config) {handle : TimerHandle} {key : TransactionKey}
    (entered : (handle, TimerEvent.transaction key) ∈ endpoint.timers.entries) :
    ∃ live, endpoint.transactions.live.find? key = some live ∧ live.timer = handle := by
  have member := TimerQueue.mem_handlesOf.mpr entered
  rw [invariant.timed, Option.mem_toList, Transactions.timer?] at member
  exact Option.map_eq_some_iff.mp member

theorem invariant_new (config : Config) : (new config).Invariant config :=
  ⟨Transactions.sound_new config, TimerQueue.wellFormed_empty, fun _ => rfl⟩

/-! ## Reactions -/

/-- A transaction may react: all timers are in order but its own, and its own are cancelled when it
ends or goes on. -/
structure Ready (transactions : Transactions) (timers : TimerQueue TimerEvent)
    (key : TransactionKey) : Prop where
  wellFormed : timers.WellFormed
  others : ∀ other, key ≠ other →
    (timers.cancel? (transactions.timer? key)).handlesOf (.transaction other) =
      (transactions.timer? other).toList
  own : (timers.cancel? (transactions.timer? key)).handlesOf (.transaction key) = []

/-- The invoke IDs do not matter. -/
theorem Ready.of_live {before after : Transactions} {timers : TimerQueue TimerEvent}
    {key : TransactionKey} (ready : Ready before timers key) (live : after.live = before.live) :
    Ready after timers key := by
  obtain ⟨wellFormed, others, own⟩ := ready
  unfold Transactions.timer? at others own
  rw [← live] at others own
  exact ⟨wellFormed, others, own⟩

theorem timer?_proceed_of_ne (transactions : Transactions) (timers : TimerQueue TimerEvent)
    (now : Nat) {key other : TransactionKey} (progress : Progress Transaction) (ne : key ≠ other) :
    (transactions.proceed timers now key progress).1.timer? other = transactions.timer? other := by
  rw [Transactions.timer?, Transactions.liveFind?_proceed_of_ne _ _ _ _ _ ne, Transactions.timer?]

/-- A reaction that does not keep the timer leaves all timers in order. -/
theorem Ready.proceed {transactions : Transactions} {timers : TimerQueue TimerEvent}
    {key : TransactionKey} (ready : Ready transactions timers key) (now : Nat)
    {progress : Progress Transaction} (moves : progress ≠ .keep) :
    (transactions.proceed timers now key progress).2.WellFormed ∧
      ∀ other, (transactions.proceed timers now key progress).2.handlesOf (.transaction other) =
        ((transactions.proceed timers now key progress).1.timer? other).toList := by
  have wellFormed := ready.wellFormed.cancel? (transactions.timer? key)
  cases progress with
  | keep => exact absurd rfl moves
  | finish =>
    refine ⟨wellFormed, ?_⟩
    intro other
    by_cases same : key = other
    · subst same
      have gone : (transactions.live.erase key).find? key = none := by
        rw [Table.find?_erase, if_pos rfl]
      show _ = (((transactions.live.erase key).find? key).map _).toList
      rw [gone]
      exact ready.own
    · rw [timer?_proceed_of_ne _ _ _ _ same]
      exact ready.others other same
  | restart transaction span =>
    refine ⟨wellFormed.schedule _ _, ?_⟩
    intro other
    by_cases same : key = other
    · subst same
      show _ = (((transactions.live.insert key _).find? key).map _).toList
      rw [Table.find?_insert, if_pos rfl]
      exact TimerQueue.handlesOf_schedule_of_none _ ready.own
    · have apart : TimerEvent.transaction key ≠ .transaction other := by
        intro equal
        exact same (TimerEvent.transaction.inj equal)
      rw [timer?_proceed_of_ne _ _ _ _ same, ← ready.others other same]
      exact TimerQueue.handlesOf_schedule_of_ne _ _ apart

/-- As long as all timers are in order every transaction may react. -/
theorem Invariant.ready {config : Config} {endpoint : Endpoint}
    (invariant : endpoint.Invariant config) (key : TransactionKey) :
    Ready endpoint.transactions endpoint.timers key := by
  have wellFormed := invariant.wellFormed
  have own := invariant.timed key
  cases timer : endpoint.transactions.timer? key with
  | none =>
    rw [timer] at own
    refine ⟨wellFormed, ?_, ?_⟩
    · intro other _
      rw [timer]
      exact invariant.timed other
    · rw [timer]
      exact own
  | some handle =>
    rw [timer, Option.toList_some] at own
    refine ⟨wellFormed, ?_, ?_⟩
    · intro other ne
      rw [timer, ← invariant.timed other]
      apply TimerQueue.handlesOf_cancel_of_not_mem
      -- A handle belongs to one event only, so that of this timer to no other transaction.
      intro shared
      have mine : handle ∈ endpoint.timers.handlesOf (.transaction key) :=
        own ▸ List.mem_singleton_self handle
      have same := wellFormed.event_unique (TimerQueue.mem_handlesOf.mp mine)
        (TimerQueue.mem_handlesOf.mp shared)
      exact ne (TimerEvent.transaction.inj same)
    · rw [timer]
      show (endpoint.timers.cancel handle).handlesOf _ = []
      rw [TimerQueue.handlesOf_cancel, own]
      simp

/-- The transaction whose timer has been taken out of the queue may react. -/
theorem Invariant.ready_of_pop {config : Config} {endpoint : Endpoint}
    (invariant : endpoint.Invariant config) {now : Nat} {handle : TimerHandle}
    {key : TransactionKey} {timers : TimerQueue TimerEvent}
    (popped : endpoint.timers.pop? now = some (handle, .transaction key, timers))
    (own : endpoint.transactions.timer? key = some handle) :
    Ready endpoint.transactions timers key := by
  have ready := invariant.ready key
  have cancelled : timers.cancel handle = endpoint.timers.cancel handle := by
    rw [← invariant.wellFormed.cancel_of_pop? popped, TimerQueue.cancel_cancel]
  have others := ready.others
  have mine := ready.own
  rw [own] at others mine
  refine ⟨invariant.wellFormed.pop? popped, ?_, ?_⟩
  · intro other ne
    rw [own]
    show (timers.cancel handle).handlesOf _ = _
    rw [cancelled]
    exact others other ne
  · rw [own]
    show (timers.cancel handle).handlesOf _ = []
    rw [cancelled]
    exact mine

/-! ## Events -/

theorem invariant_of_effect {config : Config} {before : Endpoint} {now : Nat} {after : EndpointStep}
    (effect : Effect before now after) (invariant : before.Invariant config) :
    after.endpoint.Invariant config := by
  have sound := sound_of_effect effect invariant.sound
  cases effect with
  | @idle transactions timers live config_eq same =>
    obtain ⟨wellFormed, handles⟩ := same invariant.wellFormed
    refine ⟨sound, wellFormed, ?_⟩
    intro key
    show timers.handlesOf _ = (transactions.timer? key).toList
    rw [handles, invariant.timed, Transactions.timer?, Transactions.timer?, live]
  | @stale handle key timers popped other =>
    -- A timer that can run out is in the queue, so it belongs to its transaction.
    have entered : handle ∈ before.timers.handlesOf (.transaction key) := by
      rw [TimerQueue.handlesOf_of_pop? popped, if_pos rfl]
      exact List.mem_cons_self
    rw [invariant.timed, Option.mem_toList] at entered
    exact absurd entered other
  | @reacts transactions timers key asks reaction live config_eq reacts waits =>
    have unmoved : reaction.progress = .keep → timers = before.timers := by
      intro keeps
      rcases waits with same | ⟨_, _, _, moves⟩
      · exact same
      · exact absurd keeps moves
    have ready : Ready before.transactions timers key := by
      rcases waits with rfl | ⟨handle, popped, own, _⟩
      · exact invariant.ready key
      · exact invariant.ready_of_pop popped own
    by_cases keeps : reaction.progress = .keep
    · -- Then its timer has not run out, and nothing has changed.
      have stays : transactions.proceed timers now key reaction.progress =
          (transactions, before.timers) := by
        rw [keeps, unmoved keeps]
        rfl
      refine ⟨sound, ?_, ?_⟩
      · show (transactions.proceed timers now key reaction.progress).2.WellFormed
        rw [stays]
        exact invariant.wellFormed
      · intro other
        show (transactions.proceed timers now key reaction.progress).2.handlesOf _ =
          ((transactions.proceed timers now key reaction.progress).1.timer? other).toList
        rw [stays, invariant.timed, Transactions.timer?, Transactions.timer?, live]
    · obtain ⟨wellFormed, timed⟩ := (ready.of_live live).proceed now keeps
      exact ⟨sound, wellFormed, timed⟩

theorem invariant_run {config : Config} {before : Endpoint} (invariant : before.Invariant config)
    (events : List (Nat × EndpointEvent)) : (before.run events).Invariant config := by
  induction events generalizing before with
  | nil => exact invariant
  | cons first rest ih =>
    obtain ⟨now, event⟩ := first
    exact ih (invariant_of_effect (effect_step before now event) invariant)

end Endpoint

end BACnet
