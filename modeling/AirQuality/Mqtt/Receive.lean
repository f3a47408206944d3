import Mathlib.Logic.Function.Basic
import AirQuality.Foundation.Text

/-!
# Received packets

The packets `mqtt_input` can deliver, and what the `MQTT_EVT_PUBLISH` branch of
`mqtt_event_handler` does with one: it drains the payload through a 33-byte stack buffer and calls
the first subscription whose topic compares equal.
-/

namespace AirQuality.Mqtt
open Foundation

/-- A result of `mqtt_read_publish_payload`, with the bytes it stored. -/
inductive ReadResult where
  | again
  | error (errno : Errno)
  | chunk (bytes : List UInt8)
  deriving DecidableEq

def dataSize : Nat := 33

/-- The loop's variables: what is left to read, the memory at `data`, and every index of `data`
written so far. A cell is `none` until it is first written. -/
structure Drain where
  len : Int
  data : Int → Option UInt8
  written : List Int

def Drain.start (payloadLen : Nat) : Drain := { len := payloadLen, data := fun _ => none, written := [] }

def Drain.put (d : Drain) (index : Int) (byte : UInt8) : Drain :=
  { d with data := Function.update d.data index (some byte), written := d.written ++ [index] }

def Drain.store (d : Drain) : Int → List UInt8 → Drain
  | _, [] => d
  | index, byte :: rest => (d.put index byte).store (index + 1) rest

/-- `len >= sizeof(data) - 1 ? sizeof(data) - 1 : len`, where `len` is compared as a `size_t`. -/
def requestedLength (len : Int) : Nat := if geSize len (dataSize - 1) then dataSize - 1 else len.toNat

def Drain.terminate (d : Drain) (bytesRead : Int) : Drain :=
  let d := d.put bytesRead 0
  { d with len := d.len - bytesRead }

/-- The loop at its condition: about to read, or over, with the error that ended it. -/
inductive Loop where
  | going (d : Drain)
  | ended (d : Drain) (failure : Option Errno)

def Loop.drain : Loop → Drain
  | .going d | .ended d _ => d

def Loop.finished : Loop → Bool
  | .going _ => false
  | .ended _ _ => true

def Loop.failure : Loop → Option Errno
  | .going _ => none
  | .ended _ failure => failure

def Drain.enter (d : Drain) : Loop := if d.len = 0 then .ended d none else .going d

/-- The loop's body for one read. The library stores at most the requested length. -/
def Drain.pass (d : Drain) : ReadResult → Loop
  | .error errno => .ended d (some errno)
  | .again => (d.terminate Errno.eagain.code).enter
  | .chunk bytes =>
    let bytes := bytes.take (requestedLength d.len)
    ((d.store 0 bytes).terminate bytes.length).enter

def Loop.next (loop : Loop) (read : ReadResult) : Loop :=
  match loop with
  | .going d => d.pass read
  | .ended d failure => .ended d failure

def drain (payloadLen : Nat) (reads : List ReadResult) : Loop := reads.foldl Loop.next (Drain.start payloadLen).enter

def dataString (data : Int → Option UInt8) : List (Option UInt8) :=
  ((List.range dataSize).map fun index : Nat => data index).takeWhile (· ≠ some 0)

/-- A received PUBLISH with the answers to the reads of its handler, up to the end of the loop. Where the loop
has none, `mqtt_input` does not return, and its thread takes no further step. -/
structure Publish where
  topic : Text
  payloadLen : Nat
  reads : List ReadResult
  finished : (drain payloadLen reads).finished = true
  deriving DecidableEq

inductive Packet where
  | suback (messageId : UInt16)
  | unsuback (messageId : UInt16)
  | connack (result : Int)
  | puback (result : Int) (messageId : UInt16)
  | publish (message : Publish)
  | pingresp
  | other (type : Nat)
  deriving DecidableEq

structure Subscription where
  topic : Text
  callback : Nat -- its address
  deriving DecidableEq, Repr

/-- `strncmp(a, b, n) == 0`. -/
def strncmpZero : Nat → Text → Text → Bool
  | 0, _, _ => true
  | n + 1, a, b =>
    let x := a.headD (Char.ofNat 0)
    let y := b.headD (Char.ofNat 0)
    if x ≠ y then false else if x = Char.ofNat 0 then true else strncmpZero n a.tail b.tail

def matching (subscriptions : List Subscription) (topic : Text) : Option Subscription :=
  subscriptions.find? fun subscription => strncmpZero topic.length subscription.topic topic

end AirQuality.Mqtt
