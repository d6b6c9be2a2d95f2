import Farsounder.Config

namespace Farsounder.Subscriber

open Config

/-! The sockets of `run_loop`. -/

def pubsubAddress (cfg : ClientConfig) (message : EnumValue PubSubMessage) :
    Except Failure String := do
  let port ← resolvePubsubPort cfg message
  return "tcp://" ++ cfg.host ++ ":" ++ toString port.toInt

/-- A `SUB` socket, as the address it is connected to. -/
structure SocketEntry where
  type : EnumValue PubSubMessage
  address : String
  deriving DecidableEq

/-- The body of the loop over `config.subscribe`. -/
def openSocket (cfg : ClientConfig) (message : EnumValue PubSubMessage) :
    Except Failure SocketEntry := do
  let address ← pubsubAddress cfg message
  return { type := message, address }

def openSockets (cfg : ClientConfig) : Except Failure (List SocketEntry) :=
  cfg.subscribe.mapM (openSocket cfg)

end Farsounder.Subscriber
