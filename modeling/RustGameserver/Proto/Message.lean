/-!
Contract: the message types of `message.proto`, as the generated Rust types
carry them.

Owns: the wrapper, its payload alternatives and their fields.

Does not own: the byte encoding of a message body, which is `prost`'s.
-/

namespace RustGameserver.Proto

/-- A protobuf `float`.  The servers store and copy floats and never compute
with them, so a float is its bit pattern. -/
structure Float32Bits where
  bits : UInt32
deriving DecidableEq, Repr

/-- `0.0f32`. -/
def Float32Bits.zero : Float32Bits := ⟨0⟩

structure ConnectedResponse where
  index : Int32
deriving DecidableEq, Repr

structure EnterWorldRequest where
  worldId : UInt64
deriving DecidableEq, Repr

structure EnterWorldResponse where
  success : Bool
deriving DecidableEq, Repr

structure LoginRequest where
  userId : String
  passwordHash : List UInt8
deriving DecidableEq, Repr

structure LoginResponse where
  success : Bool
  errorCode : Int32
  authToken : String
deriving DecidableEq, Repr

structure ErrorResponse where
  errorCode : Int32
deriving DecidableEq, Repr

structure GameOverReport where
  score : Int32
  killCount : Int32
  surviveSeconds : Int32
deriving DecidableEq, Repr

structure GameOverResponse where
  success : Bool
deriving DecidableEq, Repr

structure MoveRequest where
  x : Float32Bits
  y : Float32Bits
deriving DecidableEq, Repr

structure MoveResponse where
  success : Bool
  x : Float32Bits
  y : Float32Bits
deriving DecidableEq, Repr

structure GameConnectRequest where
  authToken : String
deriving DecidableEq, Repr

structure GameConnectResponse where
  success : Bool
  errorCode : Int32
deriving DecidableEq, Repr

/-- The `payload` oneof.  `KeepAliveNoti` and `KeepAliveRequest` have no fields. -/
inductive Payload where
  | connectedResponse (body : ConnectedResponse)
  | keepAliveNoti
  | keepAliveRequest
  | enterWorldRequest (body : EnterWorldRequest)
  | enterWorldResponse (body : EnterWorldResponse)
  | loginRequest (body : LoginRequest)
  | loginResponse (body : LoginResponse)
  | errorResponse (body : ErrorResponse)
  | gameOverReport (body : GameOverReport)
  | gameOverResponse (body : GameOverResponse)
  | moveRequest (body : MoveRequest)
  | moveResponse (body : MoveResponse)
  | gameConnectRequest (body : GameConnectRequest)
  | gameConnectResponse (body : GameConnectResponse)
deriving DecidableEq, Repr

structure MessageWrapper where
  messageSize : Int32
  payload : Option Payload
deriving DecidableEq, Repr

end RustGameserver.Proto
