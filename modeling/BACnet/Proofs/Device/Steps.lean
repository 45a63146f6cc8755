import BACnet.Proofs.Device.Control
import BACnet.Proofs.Transaction.Steps

/-!
# The transactions in a device

Whatever happens at a device happens to its transactions as steps of their own
(`Device.steps_run`). So what each step of the transactions preserves holds of the transactions in a
device, such as that its invoke IDs are counted (`Device.counted_run`).
-/

namespace BACnet

open Transactions (Step Steps)

namespace Activity

variable {activity : Activity}

theorem transactions_sendApdu (activity : Activity) (environment : Environment) (now : Nat)
    (peer : Address) (apdu : Apdu) :
    (activity.sendApdu environment now peer apdu).2.device.transactions =
      activity.device.transactions := by
  rw [device_sendApdu]

theorem transactions_setCommunication (activity : Activity) (now : Nat) (state : Communication)
    (minutes : Option UInt16) :
    (activity.setCommunication now state minutes).device.transactions =
      activity.device.transactions := by
  rw [device_setCommunication]

theorem transactions_sendForTransaction (activity : Activity) (environment : Environment)
    (now : Nat) (peer : Address) (apdu : Apdu) :
    (activity.sendForTransaction environment now peer apdu).device.transactions =
      activity.device.transactions := by
  have sent := transactions_sendApdu activity environment now peer apdu
  unfold sendForTransaction
  split
  · split
    · next result =>
      rw [result] at sent
      exact sent
    · next result =>
      rw [result] at sent
      exact sent
  · rfl

variable [TextCodec]

theorem transactions_controlCommunication (activity : Activity) (now : Nat)
    (parameters : Octets) :
    (activity.controlCommunication now parameters).2.device.transactions =
      activity.device.transactions := by
  unfold controlCommunication
  split
  · rfl
  · split
    · exact transactions_setCommunication ..
    · rfl

theorem transactions_outcomeOf (activity : Activity) (environment : Environment) (now : Nat)
    (peer : Address) (invokeId service : UInt8) (parameters : Octets) :
    (activity.outcomeOf environment now peer invokeId service parameters).2.device.transactions =
      activity.device.transactions := by
  unfold outcomeOf
  split
  · rfl
  · exact transactions_controlCommunication activity now parameters
  · rfl

/-- An answer that is given at once is a step of the transactions. -/
theorem steps_serve (activity : Activity) (environment : Environment) (now : Nat)
    (peer : Address) (invokeId service : UInt8) (parameters : Octets) :
    Steps activity.device.transactions
      (activity.serve environment now peer invokeId service parameters).2.device.transactions := by
  have asked := transactions_outcomeOf activity environment now peer invokeId service parameters
  unfold serve
  split
  · next result =>
    rw [result] at asked
    rw [← asked]
  · next result =>
    rw [result] at asked
    rw [← asked]
    split
    · exact .refl
    · next responds => exact .single (.respond responds)

theorem steps_perform (activity : Activity) (environment : Environment) (now : Nat)
    (action : TransactionAction) :
    Steps activity.device.transactions
      (activity.perform environment now action).2.device.transactions := by
  unfold perform
  split
  · rw [transactions_sendForTransaction]
  · exact steps_serve ..
  · exact .refl

theorem steps_performAll (activity : Activity) (environment : Environment) (now : Nat)
    (actions : List TransactionAction) :
    Steps activity.device.transactions
      (activity.performAll environment now actions).2.device.transactions := by
  induction actions generalizing activity with
  | nil => exact .refl
  | cons first rest ih => exact (steps_perform activity environment now first).trans (ih _)

theorem steps_carryOut (activity : Activity) (environment : Environment) (now : Nat)
    {step : TransactionStep} (taken : Step activity.device.transactions step.transactions) :
    Steps activity.device.transactions
      (activity.carryOut environment now step).device.transactions := by
  have first := steps_performAll (activity.withTransactions step) environment now step.actions
  exact .head taken (first.trans (steps_performAll _ environment now _))

/-! ### Messages and timers -/

theorem steps_deliver (activity : Activity) (environment : Environment) (now : Nat)
    (arrival : Arrival) (source : Address) (data : Octets) :
    Steps activity.device.transactions
      (activity.deliver environment now arrival source data).device.transactions := by
  unfold deliver
  split
  · exact .refl
  · split
    · split
      · next service parameters _ _ =>
        obtain ⟨peers, result⟩ :=
          device_receiveUnconfirmed activity arrival source service parameters
        rw [result]
      · obtain ⟨peers, result⟩ :=
          exists_receiveForTransaction activity environment now source _
        rw [result]
        exact steps_carryOut { activity with device := { activity.device with peers } } environment
          now (.receive _ now source _)
    · exact .refl

theorem steps_foldl_arrivalOutput (activity : Activity) (environment : Environment) (now : Nat)
    (arrival : Arrival) (outputs : List RouterOutput) :
    Steps activity.device.transactions
      (outputs.foldl (·.arrivalOutput environment now arrival ·) activity).device.transactions := by
  induction outputs generalizing activity with
  | nil => exact .refl
  | cons first rest ih =>
    refine .trans ?_ (ih _)
    cases first with
    | deliver source data expectingReply priority => exact steps_deliver ..
    | transmit sent => exact device_transmit activity environment sent ▸ .refl
    | failure error => exact .refl

theorem steps_expire (activity : Activity) (environment : Environment) (now : Nat)
    (timer : TimerHandle) (event : TimerEvent) :
    Steps activity.device.transactions
      (activity.expire environment now timer event).device.transactions := by
  cases event with
  | transaction key => exact steps_carryOut activity environment now (.timeout _ now timer key)
  | routeResolution network =>
    unfold expire
    dsimp only
    rw [device_foldl_routerOutput]
    exact .refl
  | communicationControl =>
    unfold expire
    dsimp only
    split
    · rw [transactions_setCommunication]
    · exact .refl

theorem steps_expireDue (environment : Environment) (now limit : Nat) (activity : Activity) :
    Steps activity.device.transactions
      (expireDue environment now limit activity).2.device.transactions := by
  induction limit generalizing activity with
  | zero => exact .refl
  | succ limit ih =>
    unfold expireDue
    split
    · exact .refl
    · next timers popped =>
      exact (steps_expire { activity with device := { activity.device with timers } } environment
        now _ _).trans (ih _)

end Activity

namespace Device

variable {device : Device}

variable [TextCodec]

theorem steps_send (device : Device) (environment : Environment) (now : Nat)
    (destination : Address) (request : OutgoingRequest) :
    Steps device.transactions
      (device.send environment now destination request).2.device.transactions := by
  cases request with
  | confirmed service parameters =>
    have taken := @Step.request device.transactions device.timers now destination service.code
      parameters (device.peers.find? destination)
    unfold send sendConfirmed
    dsimp only
    split
    · exact .refl
    · split
      · exact .single taken
      · exact Activity.steps_carryOut (.start device) environment now taken
  | unconfirmed service parameters =>
    have sent := Activity.transactions_sendApdu (.start device) environment now destination
      (.unconfirmedRequest service.code parameters)
    unfold send sendUnconfirmed
    dsimp only
    split
    · exact .refl
    · split
      · next result =>
        rw [result] at sent
        exact sent ▸ .refl
      · next result =>
        rw [result] at sent
        exact sent ▸ .refl

theorem steps_perform (device : Device) (environment : Environment) (now : Nat)
    (command : DeviceCommand) :
    Steps device.transactions
      (device.perform environment now command).2.device.transactions := by
  cases command with
  | receive arrival frame =>
    unfold perform receive
    dsimp only
    split
    · exact .refl
    · next npdu _ =>
      exact Activity.steps_foldl_arrivalOutput (.start (device.routed now arrival npdu)) environment
        now arrival _
  | send destination request => exact steps_send ..
  | respond peer invokeId outcome =>
    unfold perform respond
    dsimp only
    split
    · exact .refl
    · next responds =>
      exact Activity.steps_carryOut (.start device) environment now (.respond responds)
  | abort peer invokeId reason =>
    exact Activity.steps_carryOut (.start device) environment now (.abort _ now _ reason)

theorem steps_turn (device : Device) (environment : Environment) (now : Nat) (turn : DeviceTurn) :
    Steps device.transactions (device.turn environment now turn).transactions := by
  cases turn with
  | command command => exact steps_perform device environment now command
  | poll => exact Activity.steps_expireDue environment now device.timers.size (.start device)

/-- The transactions of a device come to what they are by steps of their own. -/
theorem steps_run (device : Device) (turns : List (Environment × Nat × DeviceTurn)) :
    Steps device.transactions (device.run turns).transactions := by
  induction turns generalizing device with
  | nil => exact .refl
  | cons entry rest ih =>
    exact (steps_turn device entry.1 entry.2.1 entry.2.2).trans (ih _)

theorem counted_run (config : Config) (turns : List (Environment × Nat × DeviceTurn)) :
    ((start config).run turns).transactions.Counted :=
  Transactions.counted_steps (Transactions.counted_new config) (steps_run (start config) turns)

end Device

end BACnet
