/-!
Contract: the constants of `net::consts`, and the units of time.

An `Instant` and a `Duration` are both a number of nanoseconds, the resolution
of `std::time::Duration`; an instant is counted from an arbitrary origin of the
monotonic clock.
-/

namespace RustGameserver.Net

/-- `Duration::from_secs`. -/
def fromSecs (seconds : Nat) : Nat := seconds * 1000000000

/-- `Duration::from_millis`. -/
def fromMillis (milliseconds : Nat) : Nat := milliseconds * 1000000

/-- `Instant::duration_since`, which is zero for a later argument. -/
def durationSince (now earlier : Nat) : Nat := now - earlier

/-- Receive buffer size. -/
def maxBufferSize : Nat := 8192

/-- Largest message body, the length header excluded. -/
def maxMessageBodySize : Nat := maxBufferSize - 2

/-- Capacity of a session's send queue. -/
def maxSendQueueSize : Nat := 200

/-- Capacity of a session's internal message channel. -/
def maxMessageChannelCapacity : Nat := 1000

/-- Flood detection window. -/
def floodWindow : Nat := fromSecs 10

/-- Connections admitted per address and window. -/
def maxConnectionsPerWindow : Nat := 30

/-- How long a flooding address stays banned. -/
def banDuration : Nat := fromSecs (10 * 60)

/-- How often a client sends a KeepAlive. -/
def keepAliveInterval : Nat := fromSecs 3

/-- Server side KeepAlive timeout of an authenticated session. -/
def keepAliveTimeout : Nat := fromSecs 10

end RustGameserver.Net
