/-!
# Codes of the capture program

The kinds of events, directions, messages and protocols that the capture program tells by number. A
number that means nothing stands for the kind that says nothing. Each kind has a label for readers
and a name for machines.
-/

namespace FlowMeter

/-- What an event reports about a socket. -/
inductive EventKind where
  | none
  | data
  | connected
  | accepted
  | closed
deriving DecidableEq, Repr, Inhabited

namespace EventKind

/-- The number of a kind. -/
def code : EventKind → UInt32
  | .none => 0
  | .data => 1
  | .connected => 2
  | .accepted => 3
  | .closed => 4

/-- The kind of a number. -/
def ofCode (code : UInt32) : EventKind :=
  if code = 1 then .data
  else if code = 2 then .connected
  else if code = 3 then .accepted
  else if code = 4 then .closed
  else .none

/-- The kind of a code that is written is read back. -/
theorem ofCode_code (kind : EventKind) : ofCode kind.code = kind := by
  cases kind <;> rfl

/-- The name of a kind. -/
def name : EventKind → String
  | .none => "None"
  | .data => "Data"
  | .connected => "Connected"
  | .accepted => "Accepted"
  | .closed => "Closed"

/-- The label of a kind. -/
def label (kind : EventKind) : String := kind.name

end EventKind

/-- Where a packet goes, seen from the observed process. -/
inductive Direction where
  | none
  | inbound
  | outbound
deriving DecidableEq, Repr, Inhabited

namespace Direction

/-- The number of a direction. -/
def code : Direction → UInt8
  | .none => 0
  | .inbound => 1
  | .outbound => 2

/-- The direction of a number. -/
def ofCode (code : UInt8) : Direction :=
  if code = 1 then .inbound else if code = 2 then .outbound else .none

/-- A direction is read back from its code. -/
theorem ofCode_code (direction : Direction) : ofCode direction.code = direction := by
  cases direction <;> rfl

/-- The name of a direction. -/
def name : Direction → String
  | .none => "None"
  | .inbound => "In"
  | .outbound => "Out"

/-- The label of a direction. -/
def label (direction : Direction) : String := direction.name

end Direction

/-- Whether a packet asks or answers. -/
inductive MessageKind where
  | none
  | request
  | response
deriving DecidableEq, Repr, Inhabited

namespace MessageKind

/-- The number of a kind of message. -/
def code : MessageKind → UInt8
  | .none => 0
  | .request => 1
  | .response => 2

/-- The kind of message of a number. -/
def ofCode (code : UInt8) : MessageKind :=
  if code = 1 then .request else if code = 2 then .response else .none

/-- Whether a packet asks or answers is read back from its code. -/
theorem ofCode_code (message : MessageKind) : ofCode message.code = message := by
  cases message <;> rfl

/-- The name of a kind of message. -/
def name : MessageKind → String
  | .none => "None"
  | .request => "Request"
  | .response => "Response"

/-- The label of a kind of message. -/
def label (message : MessageKind) : String := message.name

end MessageKind

/-- The protocol that was recognised in a packet. -/
inductive Protocol where
  | none
  | http
  | mysql
  | dns
  | redis
  | kafka
  | pgsql
  | mongo
  | dubbo
  | hsf
deriving DecidableEq, Repr, Inhabited

namespace Protocol

/-- The number of a protocol. -/
def code : Protocol → UInt8
  | .none => 0
  | .http => 1
  | .mysql => 2
  | .dns => 3
  | .redis => 4
  | .kafka => 5
  | .pgsql => 6
  | .mongo => 7
  | .dubbo => 8
  | .hsf => 9

/-- The protocols in the order of their numbers. -/
def all : List Protocol :=
  [.none, .http, .mysql, .dns, .redis, .kafka, .pgsql, .mongo, .dubbo, .hsf]

/-- The protocol of a number. -/
def ofCode (code : UInt8) : Protocol :=
  all.getD code.toNat .none

/-- A protocol is read back from its code. -/
theorem ofCode_code (protocol : Protocol) : ofCode protocol.code = protocol := by
  cases protocol <;> rfl

/-- The name of a protocol. -/
def name : Protocol → String
  | .none => "None"
  | .http => "Http"
  | .mysql => "MySql"
  | .dns => "Dns"
  | .redis => "Redis"
  | .kafka => "Kafka"
  | .pgsql => "PgSql"
  | .mongo => "Mongo"
  | .dubbo => "Dubbo"
  | .hsf => "Hsf"

/-- The label of a protocol. -/
def label : Protocol → String
  | .http => "HTTP"
  | .mysql => "MySQL"
  | .dns => "DNS"
  | .pgsql => "PgSQL"
  | .hsf => "HSF"
  | protocol => protocol.name

end Protocol

end FlowMeter
