import BACnet.Network.Address

/-!
# Names of transactions

Every exchange with another device that is not over yet is a transaction. Its name is the address of
the other device, the invoke ID, and the side on which this device stands.
-/

namespace BACnet

/-- The two sides of an exchange. -/
inductive Side where
  /-- The side that asks. -/
  | client
  /-- The side that answers. -/
  | server
  deriving DecidableEq, Repr

namespace Side

def text : Side → String
  | client => "client"
  | server => "server"

/-- Whether the side is the one that answers. -/
def isServer : Side → Bool
  | client => false
  | server => true

end Side

/-- The name of a transaction. -/
structure TransactionKey where
  peer : Address
  invokeId : UInt8
  /-- The side of this device. -/
  side : Side
  deriving DecidableEq, Repr

namespace TransactionKey

/-- An exchange in which this device asks. -/
def client (peer : Address) (invokeId : UInt8) : TransactionKey := ⟨peer, invokeId, .client⟩

/-- An exchange in which this device answers. -/
def server (peer : Address) (invokeId : UInt8) : TransactionKey := ⟨peer, invokeId, .server⟩

/-- The name in error texts. -/
def text (key : TransactionKey) : String :=
  let invokeId := key.invokeId
  key.side.text ++ " " ++ key.peer.text ++ s!"/{invokeId}"

end TransactionKey

end BACnet
