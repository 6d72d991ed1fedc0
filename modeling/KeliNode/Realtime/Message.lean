import KeliNode.Panel.Types

/-!
# Messages of the realtime connection (`realtime.rs`)

| here | there |
|---|---|
| `RealtimeMessage` | `realtime.rs:15` |
| `RealtimeOptions` | `realtime.rs:47` |
| `realtimeRuntimeTask` | `realtime.rs:186` |
| `buildRealtimeReceipt` | `realtime.rs:226` |
| `truncateRealtimeReceiptMessage` | `realtime.rs:252` |

How a message is written as JSON is serde's, and left out.
-/

namespace KeliNode

open Lib

/-- `RealtimeMessage` (`realtime.rs:15`). -/
structure RealtimeMessage where
  messageType : Text := []
  message : Text := []
  eventId : Text := []
  topic : Text := []
  reason : Text := []
  status : Text := []
  revision : Int64 := 0
  ts : Int64 := 0
  serverId : UInt32 := 0
  token : Text := []
  nodeId : Text := []
  machineId : UInt32 := 0
  nodeType : Text := []
  health : Option Value := none

/-- The fields of `RealtimeOptions` (`realtime.rs:47`) that are sent. -/
structure RealtimeOptions where
  token : Text := []
  nodeId : UInt32 := 0
  machineId : UInt32 := 0
  nodeType : Text := "v2node"

/-! ## What a message asks for -/

def REASON_SUBSCRIPTION_PROXY_CERT_STATE_CHANGED : Text := "subscription_proxy.cert_state_changed"
def REASON_SERVER_MACHINE_BOUND : Text := "admin.server_machine.bound"

inductive RealtimeInboundAction where
  | ignore
  | pong
  | configCheck
  | forceReload
  | userSync
  | error (message : Text)
  | helloAck
  deriving DecidableEq

inductive RealtimeRuntimeTask where
  | ignore
  | pong (message : RealtimeMessage)
  | configCheck
  | forceReload
  | userSync
  | error (message : Text)
  | helloAck

/-- `should_force_realtime_config_reload` (`realtime.rs:219`). -/
def shouldForceRealtimeConfigReload (message : RealtimeMessage) : Bool :=
  message.reason = REASON_SUBSCRIPTION_PROXY_CERT_STATE_CHANGED || message.reason = REASON_SERVER_MACHINE_BOUND

/-- `realtime_invalidate_action` (`realtime.rs:208`). -/
def realtimeInvalidateAction (message : RealtimeMessage) : RealtimeInboundAction :=
  if message.topic = "config" then
    if shouldForceRealtimeConfigReload message then .forceReload else .configCheck
  else if message.topic = "users" then .userSync
  else .ignore

/-- `realtime_inbound_action` (`realtime.rs:198`). -/
def realtimeInboundAction (message : RealtimeMessage) : RealtimeInboundAction :=
  if message.messageType = "hello_ack" then .helloAck
  else if message.messageType = "ping" then .pong
  else if message.messageType = "error" then .error message.message
  else if message.messageType = "invalidate" then realtimeInvalidateAction message
  else .ignore

/-- `RealtimeMessage::ping` (`realtime.rs:164`). -/
def RealtimeMessage.ping (options : RealtimeOptions) (ts : Int64) (health : Option Value) : RealtimeMessage where
  messageType := "ping"
  ts
  token := options.token
  nodeId := decimal options.nodeId.toNat
  machineId := options.machineId
  nodeType := options.nodeType
  health

/-- `RealtimeMessage::pong` (`realtime.rs:177`). -/
def RealtimeMessage.pong (ts : Int64) : RealtimeMessage := { messageType := "pong", ts }

/-- `realtime_runtime_task` (`realtime.rs:186`). -/
def realtimeRuntimeTask (message : RealtimeMessage) (nowTs : Int64) : RealtimeRuntimeTask :=
  match realtimeInboundAction message with
  | .ignore => .ignore
  | .pong => .pong (.pong nowTs)
  | .configCheck => .configCheck
  | .forceReload => .forceReload
  | .userSync => .userSync
  | .error message => .error message
  | .helloAck => .helloAck

/-- `truncate_realtime_receipt_message` (`realtime.rs:252`). -/
def truncateRealtimeReceiptMessage (message : Text) : Text :=
  if (trim message).length ≤ 240 then trim message else (trim message).take 237 ++ "..."

/-- `build_realtime_receipt` (`realtime.rs:226`). -/
def buildRealtimeReceipt (topic : Text) (source : RealtimeMessage) (status message : Text) (ts : Int64) :
    RealtimeMessage where
  messageType := "receipt"
  topic
  eventId := source.eventId
  reason := source.reason
  status
  message := truncateRealtimeReceiptMessage message
  ts

end KeliNode
