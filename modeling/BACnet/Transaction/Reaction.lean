import BACnet.Apdu.Basic
import BACnet.Network.Address
import BACnet.Service.Outcome

/-!
# Reactions

A transaction does nothing by itself. Whatever happens to it, it answers with a `Reaction`: what it
wants done, and how it goes on. A transaction that goes on waits for one thing at a time, so going
on either leaves its timer alone or starts it anew.
-/

namespace BACnet

/-- What a transaction wants done. -/
inductive TransactionEffect where
  /-- A message is sent to the other device. -/
  | send (apdu : Apdu)
  /-- A complete request is given to the application. -/
  | indicate (service : UInt8) (parameters : Octets)
  /-- The outcome of a request is given to the application that made it. -/
  | confirm (outcome : Outcome)
  deriving DecidableEq, Repr

/-- What a transaction wants done, with the names of the other device and of the exchange. -/
structure TransactionAction where
  peer : Address
  invokeId : UInt8
  effect : TransactionEffect
  deriving DecidableEq, Repr

/-- How a transaction goes on. -/
inductive Progress (σ : Type) where
  /-- It is over. -/
  | finish
  /-- It goes on as before, and its timer runs on. -/
  | keep
  /-- It goes on in this state, and its timer runs for this span from now on. -/
  | restart (state : σ) (span : Nat)
  deriving DecidableEq, Repr

/-- The answer of a transaction to what happens to it. -/
structure Reaction (σ : Type) where
  effects : List TransactionEffect
  progress : Progress σ
  deriving DecidableEq, Repr

namespace Progress

variable {σ τ : Type}

/-- The same progress of a machine with more kinds of states. -/
def map (embed : σ → τ) : Progress σ → Progress τ
  | finish => .finish
  | keep => .keep
  | restart state span => .restart (embed state) span

end Progress

namespace Reaction

variable {σ τ : Type}

/-- Nothing happens. -/
def ignore : Reaction σ := ⟨[], .keep⟩

/-- The reaction with more to do before it. -/
def after (effects : List TransactionEffect) (reaction : Reaction σ) : Reaction σ :=
  { reaction with effects := effects ++ reaction.effects }

/-- The same reaction of a machine with more kinds of states. -/
def map (embed : σ → τ) (reaction : Reaction σ) : Reaction τ :=
  ⟨reaction.effects, reaction.progress.map embed⟩

end Reaction

end BACnet
