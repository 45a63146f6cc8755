import BACnet.Proofs.Routing.Waiting
import BACnet.Proofs.Transaction.Isolation
import Mathlib.Logic.Relation

/-!
# Steps of the transactions

Transactions change by a few kinds of steps (`Transactions.Step`): one for each thing that the
application, the other devices and the timers can want of them. With each of them the invoke IDs
stay counted: a device of which something is requested has had an ID (`Transactions.Counted`).

This matters for a request for which there is no invoke ID. All of them have been tried, and the one
to be tried next is the first again. As the device has had IDs before, this is the one that was to
be tried next already, and so a request that is refused changes nothing
(`Transactions.request_eq_of_error`).
-/

namespace BACnet

/-! ## Invoke IDs -/

/-- A device that asks for an ID has had one from then on. -/
theorem InvokeIds.contains_allocate (ids : InvokeIds) (peer other : Address)
    (inUse : UInt8 → Bool) :
    (ids.allocate peer inUse).2.next.contains other =
      (decide (peer = other) || ids.next.contains other) := by
  show ((ids.next.insert peer _).find? other).isSome = _
  rw [Table.find?_insert]
  split
  · next same => simp [same]
  · next other => simp [other, Table.contains]

namespace Transactions

variable {before transactions after : Transactions}

/-- What can happen to the transactions of a device. -/
inductive Step (before : Transactions) : Transactions → Prop where
  | request (timers : TimerQueue TimerEvent) (now : Nat) (peer : Address) (service : UInt8)
    (parameters : Octets) (known : Option Peer) :
    Step before (before.request timers now peer service parameters known).2.transactions
  | receive (timers : TimerQueue TimerEvent) (now : Nat) (peer : Address) (apdu : Apdu) :
    Step before (before.receive timers now peer apdu).transactions
  | respond {timers : TimerQueue TimerEvent} {now : Nat} {peer : Address} {invokeId : UInt8}
    {outcome : Outcome} {step : TransactionStep}
    (responds : before.respond timers now peer invokeId outcome = .ok step) :
    Step before step.transactions
  | abort (timers : TimerQueue TimerEvent) (now : Nat) (key : TransactionKey)
    (reason : AbortReason) :
    Step before (before.abort timers now key reason).transactions
  | timeout (timers : TimerQueue TimerEvent) (now : Nat) (handle : TimerHandle)
    (key : TransactionKey) :
    Step before (before.timeout timers now handle key).transactions

/-- Transactions become others by some steps. -/
abbrev Steps : Transactions → Transactions → Prop := Relation.ReflTransGen Step

/-- Every device of which something is requested has had an invoke ID. -/
def Counted (transactions : Transactions) : Prop :=
  ∀ peer id, transactions.contains (.client peer id) = true →
    transactions.invokeIds.next.contains peer = true

theorem counted_new (config : Config) : (new config).Counted := nofun

/-- A transaction that reacts is one that is there already, or one for which an ID has been given
out, or this device does not ask in it. -/
theorem Counted.react (counted : transactions.Counted) (timers : TimerQueue TimerEvent) (now : Nat)
    {key : TransactionKey}
    (named : ∀ peer id, key = .client peer id → transactions.invokeIds.next.contains peer = true)
    (reaction : Reaction Transaction) :
    (transactions.react timers now key reaction).transactions.Counted := by
  intro peer id present
  change (transactions.proceed timers now key reaction.progress).1.contains _ = true at present
  show (transactions.proceed timers now key reaction.progress).1.invokeIds.next.contains peer = true
  rw [Endpoint.invokeIds_proceed]
  by_cases own : key = .client peer id
  · exact named peer id own
  · refine counted peer id ?_
    rw [contains, Table.contains] at present ⊢
    rwa [liveFind?_proceed_of_ne _ _ _ _ _ own] at present

/-- A transaction that is there already has had its ID. -/
theorem Counted.react_of_contains (counted : transactions.Counted) (timers : TimerQueue TimerEvent)
    (now : Nat) {key : TransactionKey} (present : transactions.contains key = true)
    (reaction : Reaction Transaction) :
    (transactions.react timers now key reaction).transactions.Counted := by
  refine counted.react timers now ?_ reaction
  rintro peer id rfl
  exact counted peer id present

theorem contains_of_find? {key : TransactionKey} {transaction : Transaction}
    (found : transactions.find? key = some transaction) : transactions.contains key = true := by
  rw [contains_eq_isSome, found]
  rfl

/-- A device that asks for an ID is one that has had one. -/
theorem Counted.allocate (counted : transactions.Counted) (peer : Address)
    (inUse : UInt8 → Bool) :
    Counted { transactions with
      invokeIds := (transactions.invokeIds.allocate peer inUse).2 } := by
  intro other id present
  show (transactions.invokeIds.allocate peer inUse).2.next.contains other = true
  rw [InvokeIds.contains_allocate, counted other id present, Bool.or_true]

theorem Counted.request (counted : transactions.Counted) (timers : TimerQueue TimerEvent)
    (now : Nat) (peer : Address) (service : UInt8) (parameters : Octets) (known : Option Peer) :
    (transactions.request timers now peer service parameters known).2.transactions.Counted := by
  unfold Transactions.request
  split
  · exact counted
  · have begun := counted.allocate peer fun id => transactions.contains (.client peer id)
    dsimp only
    split
    · exact begun
    · refine begun.react timers now ?_ _
      rintro other id same
      cases same
      rw [InvokeIds.contains_allocate, decide_eq_true rfl, Bool.true_or]

theorem counted_step (counted : before.Counted) (step : Step before after) : after.Counted := by
  cases step with
  | request timers now peer service parameters known =>
    exact counted.request timers now peer service parameters known
  | receive timers now peer apdu =>
    unfold Transactions.receive
    split
    · exact counted
    · next key named =>
      split
      · next found => exact counted.react_of_contains timers now (contains_of_find? found) _
      · -- Only a request of the other device begins something.
        cases apdu with
        | confirmedRequest request =>
          cases named
          exact counted.react timers now (fun _ _ same => by cases same) _
        | _ => exact counted
  | respond responds =>
    unfold Transactions.respond at responds
    dsimp only at responds
    split at responds
    · split at responds
      · cases responds
        exact counted.react _ _ (fun _ _ same => by cases same) _
      · cases responds
    · cases responds
  | abort timers now key reason =>
    unfold Transactions.abort
    split
    · next found => exact counted.react_of_contains timers now (contains_of_find? found) _
    · exact counted
  | timeout timers now handle key =>
    unfold Transactions.timeout
    split
    · next found =>
      have present : before.contains key = true := by
        rw [contains, Table.contains, found]
        rfl
      split
      · exact counted.react_of_contains timers now present _
      · exact counted
    · exact counted

/-- Whatever happens to the transactions of a device, every device of which something is requested
has had an invoke ID. -/
theorem counted_steps (counted : before.Counted) (steps : Steps before after) :
    after.Counted := by
  induction steps with
  | refl => exact counted
  | tail _ step ih => exact counted_step ih step

end Transactions

/-! ## Requests that are refused -/

namespace RequestPlan

/-- What a request is refused for that cannot be cut into segments. -/
inductive Uncut : TransactionError → Prop where
  | segmentationNotSupported (device : Unsegmented) : Uncut (.segmentationNotSupported device)
  | apduTooLong (segments accepted : Nat) : Uncut (.apduTooLong segments accepted)

theorem uncut_of_checkPeer {segments : Nat} {known : Option Peer} {error : TransactionError}
    (refused : checkPeer segments known = .error error) : Uncut error := by
  unfold checkPeer at refused
  split at refused
  · cases refused
  · split at refused
    · cases refused
      exact .segmentationNotSupported _
    · split at refused
      · cases refused
      · split at refused
        · cases refused
          exact .apduTooLong _ _
        · cases refused

theorem uncut_of_new {config : Config} {length : Nat} {known : Option Peer}
    {error : TransactionError} (unplanned : new config length known = .error error) :
    Uncut error := by
  unfold new at unplanned
  dsimp only at unplanned
  split at unplanned
  · cases unplanned
  · split at unplanned
    · cases unplanned
      exact .segmentationNotSupported _
    · cases checked : checkPeer (segmented (longestApdu config known) length).segments known with
      | error reason =>
        rw [checked] at unplanned
        cases unplanned
        exact uncut_of_checkPeer checked
      | ok accepted =>
        rw [checked] at unplanned
        cases unplanned

end RequestPlan

namespace Transactions

variable {transactions : Transactions} {timers : TimerQueue TimerEvent} {now : Nat}
  {peer : Address}

/-- If no ID is free for a device that has had one, then nothing changes. -/
theorem Counted.allocate_of_eq_none (counted : transactions.Counted)
    (missing : (transactions.invokeIds.allocate peer fun id =>
      transactions.contains (.client peer id)).1 = none) :
    (transactions.invokeIds.allocate peer fun id => transactions.contains (.client peer id)).2 =
      transactions.invokeIds := by
  have known := counted peer 0 (InvokeIds.inUse_of_allocate_eq_none missing 0)
  obtain ⟨next, found⟩ := Option.isSome_iff_exists.mp known
  rw [InvokeIds.allocate_of_eq_none missing, InvokeIds.candidate, found, Option.getD_some,
    Table.insert_of_find? found]

/-- A request that is refused changes nothing, and it is refused because it cannot be cut into
segments or because all invoke IDs are in use. -/
theorem request_eq_of_error (counted : transactions.Counted) {service : UInt8}
    {parameters : Octets} {known : Option Peer} {error : TransactionError}
    (refused : (transactions.request timers now peer service parameters known).1 = .error error) :
    (transactions.request timers now peer service parameters known).2 =
        transactions.unchanged timers ∧
      (RequestPlan.Uncut error ∨
        error = .noInvokeId peer ∧ ∀ id, transactions.contains (.client peer id) = true) := by
  unfold Transactions.request at refused ⊢
  split at refused
  · next planned =>
    cases refused
    exact ⟨rfl, .inl (RequestPlan.uncut_of_new planned)⟩
  · next plan _ =>
    dsimp only at refused ⊢
    split at refused
    · next missing =>
      cases refused
      rw [counted.allocate_of_eq_none missing]
      exact ⟨rfl, .inr ⟨rfl, InvokeIds.inUse_of_allocate_eq_none missing⟩⟩
    · cases refused

end Transactions

end BACnet
