import FlowMeter.Event.Code

/-!
# Roles

Which side of a connection the observed process is on, and how it follows from a packet. Where a
packet does not tell whether it asks or answers, its ports decide: a packet to a service port, or from
a larger port to a smaller one, is taken to ask.
-/

namespace FlowMeter

/-- The side of a connection. -/
inductive Role where
  | unknown
  | client
  | server
deriving DecidableEq, Repr, Inhabited

namespace Role

/-- The number of a role. -/
def code : Role → UInt8
  | .unknown => 0
  | .client => 1
  | .server => 2

/-- The role of a number. -/
def ofCode (code : UInt8) : Role :=
  if code = 1 then .client else if code = 2 then .server else .unknown

/-- The name of a role. -/
def name : Role → String
  | .unknown => "Unknown"
  | .client => "Client"
  | .server => "Server"

/-- The label of a role. -/
def label : Role → String
  | .unknown => "unknown"
  | .client => "client"
  | .server => "server"

end Role

/-- The kind of a socket. -/
inductive SocketKind where
  | unknown
  | inet
  | unix
deriving DecidableEq, Repr, Inhabited

namespace SocketKind

/-- The number of a kind of socket. -/
def code : SocketKind → UInt8
  | .unknown => 0
  | .inet => 1
  | .unix => 2

/-- The kind of socket of a number. -/
def ofCode (code : UInt8) : SocketKind :=
  if code = 1 then .inet else if code = 2 then .unix else .unknown

/-- The name of a kind of socket. -/
def name : SocketKind → String
  | .unknown => "Unknown"
  | .inet => "Inet"
  | .unix => "Unix"

/-- The label of a kind of socket. -/
def label : SocketKind → String
  | .unknown => "unknown"
  | .inet => "inet"
  | .unix => "unix"

end SocketKind

/-- Ports below this one are service ports. -/
def servicePortLimit : UInt16 := 30000

/-- Whether the remote port looks like that of a service. -/
def towardsService (sourcePort destinationPort : UInt16) : Bool :=
  destinationPort < sourcePort || destinationPort < servicePortLimit

/-- Whether a packet asks or answers, by its direction and ports. -/
def inferMessage (direction : Direction) (sourcePort destinationPort : UInt16) : MessageKind :=
  match direction, towardsService sourcePort destinationPort with
  | .inbound, true => .response
  | .inbound, false => .request
  | .outbound, true => .request
  | .outbound, false => .response
  | .none, _ => .none

/-- The role of the observed process in a message: who asks is the client. -/
def inferRole : Direction → MessageKind → Role
  | .none, _ => .unknown
  | _, .none => .unknown
  | .inbound, .request => .server
  | .inbound, .response => .client
  | .outbound, .request => .client
  | .outbound, .response => .server

/-- The role that the ports lead to does not depend on the direction. -/
theorem inferRole_inferMessage (direction : Direction) (sourcePort destinationPort : UInt16)
    (h : direction ≠ .none) :
    inferRole direction (inferMessage direction sourcePort destinationPort) =
      if towardsService sourcePort destinationPort then .client else .server := by
  cases direction <;> cases hs : towardsService sourcePort destinationPort <;>
    simp_all [inferMessage, inferRole]

end FlowMeter
