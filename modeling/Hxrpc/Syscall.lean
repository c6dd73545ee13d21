import Hxrpc.Lib.BigEndian

/-!
# Results of system calls

What `recv` and `send` may return on a socket.  Both sides of the program run their loops against
scripts of these results.
-/

namespace Hxrpc

/-- A file descriptor. -/
abbrev Fd := Int

/-- Result of one `recv`: the empty chunk is the return value `0`, the end of the stream. -/
inductive RecvResult where
  | bytes (chunk : Bytes)
  | eintr
  | eagain
  | error (errno : Nat)
  deriving DecidableEq

/-- The end of the stream or a fatal error. -/
def RecvResult.ends : RecvResult → Bool
  | .bytes [] => true
  | .error _ => true
  | _ => false

/-- The bytes of one `recv`. -/
def RecvResult.chunk : RecvResult → Bytes
  | .bytes chunk => chunk
  | _ => []

/-- Result of one `send`; a count beyond the requested size stands for the requested size. -/
inductive SendResult where
  | written (count : Nat)
  | eintr
  | eagain
  | error (errno : Nat)
  deriving DecidableEq

end Hxrpc
