/-
The loop of `send_parts_once` that reads a body, buffer by buffer.

`readBody` of the sending half adds lengths exactly.  Here the lengths are added as
the source adds them, saturating, and the buffers the loop goes through are kept.
-/
import SdcMcp.Model.Client
import SdcMcp.Model.Paging

namespace SdcMcp

def usizeMax : Nat := 2 ^ 64 - 1

/-- One chunk put behind the buffer, unless the two are more than the limit together. -/
def bodyStep (limit : Nat) (buffer chunk : List UInt8) : Except SdcError (List UInt8) :=
  if limit < saturatingAdd buffer.length chunk.length then .error (.responseTooLarge limit)
  else .ok (buffer ++ chunk)

def streamChunks (limit : Nat) (buffer : List UInt8) :
    List (List UInt8) → BodyEnd → Except Interrupt (Except SdcError (List UInt8))
  | [], .complete => .ok (.ok buffer)
  | [], .failed error => .ok (.error (classifyReqwest error))
  | [], .interrupted why => .error why
  | chunk :: rest, ending =>
      match bodyStep limit buffer chunk with
      | .ok buffer => streamChunks limit buffer rest ending
      | .error error => .ok (.error error)

def streamBody (limit : Nat) (answer : Answer) : Except Interrupt (Except SdcError (List UInt8)) :=
  if answer.contentLength.any (limit < ·) then .ok (.error (.responseTooLarge limit))
  else streamChunks limit [] answer.chunks answer.ending

/-- The buffers from one on, as long as chunks are put behind them. -/
def buffersFrom (limit : Nat) (buffer : List UInt8) : List (List UInt8) → List (List UInt8)
  | [] => [buffer]
  | chunk :: rest =>
      match bodyStep limit buffer chunk with
      | .ok next => buffer :: buffersFrom limit next rest
      | .error _ => [buffer]

/-- Every buffer the reading of an answer goes through. -/
def buffers (limit : Nat) (answer : Answer) : List (List UInt8) :=
  if answer.contentLength.any (limit < ·) then [] else buffersFrom limit [] answer.chunks

end SdcMcp
