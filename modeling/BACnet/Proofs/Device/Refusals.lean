import BACnet.Proofs.Device.Steps
import BACnet.Text.Chart

/-!
# Requests of the application that are refused

A message of the application is refused only if it would have to wait and there is no room for it,
and then nothing has been done for it (`Routing.send_of_error`). With what the transactions refuse
(`Transactions.request_eq_of_error`) this says that a request that is refused leaves the device as
it was (`Device.unchanged_of_refused`).
-/

namespace BACnet

/-! ## Messages that find no room -/

namespace Routing

variable {state : Routing} {now : Nat} {network : UInt16}

/-- All that is put out is sent on links. -/
def OnlySends (outputs : List RouterOutput) : Prop :=
  ∀ output ∈ outputs, ∃ sent, output = .transmit sent

theorem onlySends_broadcasts (router : Router) (ports : List PortId) (npdu : Npdu) :
    OnlySends (router.broadcasts ports npdu) := by
  intro output member
  obtain ⟨port, -, rfl⟩ := List.mem_map.mp member
  exact ⟨_, rfl⟩

theorem onlySends_transmission (router : Router) (port : PortId) (destination : LinkDestination)
    (npdu : Npdu) : OnlySends [router.transmission port destination npdu] :=
  List.forall_mem_singleton.mpr ⟨_, rfl⟩

theorem OnlySends.append {first second : List RouterOutput} (sends : OnlySends first)
    (more : OnlySends second) : OnlySends (first ++ second) :=
  List.forall_mem_append.mpr ⟨sends, more⟩

theorem OnlySends.emit (idle : state.outputs = []) {outputs : List RouterOutput}
    (sends : OnlySends outputs) : OnlySends (state.emit outputs).outputs := by
  rwa [Routing.emit, idle, List.nil_append]

/-- What is only sent is no failure. -/
theorem OnlySends.exists_transmissions {outputs : List RouterOutput} (sends : OnlySends outputs) :
    ∃ sent, transmissions outputs = .ok sent := by
  induction outputs with
  | nil => exact ⟨[], rfl⟩
  | cons first rest ih =>
    obtain ⟨⟨sent, rfl⟩, others⟩ := List.forall_mem_cons.mp sends
    obtain ⟨more, result⟩ := ih others
    exact ⟨sent :: more, by rw [transmissions, result]; rfl⟩

/-- A message that is to wait does so, unless there is no room for it; then nothing is done. -/
theorem enqueue_cases (idle : state.outputs = []) (now : Nat) (network : UInt16)
    (message : PendingNpdu) (ask : Bool) :
    OnlySends (state.enqueue now network message ask).2.outputs ∨
      (state.enqueue now network message ask).2 =
        state.emit [.failure (.pendingQueueFull network)] := by
  unfold enqueue
  split
  · exact .inr rfl
  · split
    · refine .inl ?_
      show OnlySends state.outputs
      rw [idle]
      exact List.forall_mem_nil _
    · refine .inl (OnlySends.emit idle ?_)
      split
      · exact onlySends_broadcasts _ _ _
      · exact List.forall_mem_nil _

theorem forward_cases (idle : state.outputs = []) (now : Nat) (network : UInt16)
    (message : PendingNpdu) :
    OnlySends (state.forward now network message).2.outputs ∨
      (state.forward now network message).2 =
        state.emit [.failure (.pendingQueueFull network)] := by
  have via (route : Route) : OnlySends (state.sendVia route message.npdu).outputs :=
    .emit idle (onlySends_transmission _ _ _ _)
  unfold forward
  split
  · exact .inl (.emit idle (onlySends_transmission _ _ _ _))
  · split
    · exact enqueue_cases idle now network message _
    · next route _ =>
      split
      · exact .inl (via route)
      · exact .inl ((via route).append (onlySends_broadcasts _ _ _))
      · exact enqueue_cases idle now network message _

theorem dispatch_cases (idle : state.outputs = []) (now : Nat) (destination : Address)
    (message : Outgoing) :
    OnlySends (state.dispatch now destination message).outputs ∨
      state.dispatch now destination message =
        state.emit [.failure (.pendingQueueFull destination.network)] := by
  unfold dispatch
  dsimp only
  split
  · exact .inl (.emit idle (onlySends_transmission _ _ _ _))
  · split
    · exact .inl (.emit idle (onlySends_broadcasts _ _ _))
    · exact forward_cases idle now destination.network _

/-- A message of the application is refused only if it would have to wait for a route and there is
no room for it. Then the router and the timers are as they were. -/
theorem send_of_error {router : Router} {timers : TimerQueue TimerEvent} {destination : Address}
    {message : Outgoing} {error : NetworkError}
    (refused : (send router timers now destination message).1 = .error error) :
    error = .pendingQueueFull destination.network ∧
      (send router timers now destination message).2 = (router, timers) := by
  obtain sends | full := @dispatch_cases (start router timers) rfl now destination message
  · obtain ⟨sent, result⟩ := sends.exists_transmissions
    rw [send] at refused
    cases result.symm.trans refused
  · rw [send, full] at refused ⊢
    cases refused
    exact ⟨rfl, rfl⟩

end Routing

/-- A message that is refused has changed nothing. -/
theorem Activity.sendApdu_of_error {activity : Activity} {environment : Environment} {now : Nat}
    {peer : Address} {apdu : Apdu} {error : NetworkError}
    (refused : (activity.sendApdu environment now peer apdu).1 = .error error) :
    error = .pendingQueueFull peer.network ∧
      (activity.sendApdu environment now peer apdu).2 = activity := by
  unfold sendApdu at refused ⊢
  dsimp only at refused ⊢
  split at refused
  · next failed =>
    cases refused
    obtain ⟨rfl, same⟩ := Routing.send_of_error failed
    exact ⟨rfl, congrArg (fun sent => activity.withRouter sent.1 sent.2) same⟩
  · cases refused

/-! ## Refusals -/

namespace Device

variable {device : Device}

/-- Why a request of the application is refused. -/
inductive Refusal (destination : Address) : DeviceError → Prop where
  | communicationDisabled : Refusal destination .communicationDisabled
  | uncut {error : TransactionError} (uncut : RequestPlan.Uncut error) :
    Refusal destination (.transaction error)
  | noInvokeId : Refusal destination (.transaction (.noInvokeId destination))
  | pendingQueueFull : Refusal destination (.network (.pendingQueueFull destination.network))

theorem sendUnconfirmed_of_error {environment : Environment} {now : Nat} {destination : Address}
    {service : UnconfirmedService} {parameters : Octets} {error : DeviceError}
    (refused : (device.sendUnconfirmed environment now destination service parameters).1 =
      .error error) :
    Refusal destination error ∧
      (device.sendUnconfirmed environment now destination service parameters).2 =
        .start device := by
  unfold sendUnconfirmed at refused ⊢
  split at refused
  · next silent =>
    cases refused
    rw [if_pos silent]
    exact ⟨.communicationDisabled, rfl⟩
  · next speaking =>
    rw [if_neg speaking]
    split at refused
    · next reason failed result =>
      cases refused
      obtain ⟨rfl, same⟩ := Activity.sendApdu_of_error (congrArg Prod.fst result)
      rw [result] at same
      exact ⟨.pendingQueueFull, same⟩
    · cases refused

section

variable [TextCodec]

theorem sendConfirmed_of_error (counted : device.transactions.Counted) {environment : Environment}
    {now : Nat} {destination : Address} {service : ConfirmedService} {parameters : Octets}
    {error : DeviceError}
    (refused : (device.sendConfirmed environment now destination service parameters).1 =
      .error error) :
    Refusal destination error ∧
      (device.sendConfirmed environment now destination service parameters).2 =
        .start device := by
  unfold sendConfirmed at refused ⊢
  split at refused
  · next silent =>
    cases refused
    rw [if_pos silent]
    exact ⟨.communicationDisabled, rfl⟩
  · next speaking =>
    rw [if_neg speaking]
    dsimp only at refused ⊢
    split at refused
    · next reason failed =>
      cases refused
      obtain ⟨same, why⟩ := Transactions.request_eq_of_error counted failed
      rw [same]
      obtain uncut | ⟨rfl, -⟩ := why
      · exact ⟨.uncut uncut, rfl⟩
      · exact ⟨.noInvokeId, rfl⟩
    · cases refused

/-- A request that a device refuses, in whatever state it has come to be, leaves it as it was: it is
the same device, with the same invoke IDs to be given out next, and nothing has happened. -/
theorem unchanged_of_refused (config : Config) (turns : List (Environment × Nat × DeviceTurn))
    (environment : Environment) (now : Nat) (destination : Address) (request : OutgoingRequest)
    (error : DeviceError)
    (refused : (((start config).run turns).send environment now destination request).1 =
      .error error) :
    Refusal destination error ∧
      (((start config).run turns).send environment now destination request).2 =
        .start ((start config).run turns) := by
  cases request with
  | confirmed service parameters => exact sendConfirmed_of_error (counted_run config turns) refused
  | unconfirmed service parameters => exact sendUnconfirmed_of_error refused

end

open scoped Chart

/-- A device that lets one message wait for a route to network 7 refuses a second one. -/
theorem unchanged_of_refused_noRoom :
    let environment : Environment := ⟨fun _ => none, fun _ _ => none⟩
    let config : Config := { Config.standard with router := ⟨1, 5000, 300000, 255, true⟩ }
    let device := (start config).run
      [(environment, 0, .command (.send ⟨7, [1]⟩ (.unconfirmed .whoIs [])))]
    let refused := device.send environment 5 ⟨7, [2]⟩ (.unconfirmed .whoIs [])
    refused.1 = .error (.network (.pendingQueueFull 7)) ∧
      Refusal ⟨7, [2]⟩ (.network (.pendingQueueFull 7)) ∧ refused.2 = .start device :=
  ⟨rfl, unchanged_of_refused _ _ _ 5 ⟨7, [2]⟩ _ _ rfl⟩

end Device

end BACnet
