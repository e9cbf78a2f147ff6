import Payload.Source.Device
import Payload.Source.Irregular
import Payload.Source.Recorded
import Payload.Source.Restricted
import Payload.Source.Tape

/-!
# The sources of a session

A session can open every source that this library knows, whole or in part.  Its devices are numbered
and watched: the calls made to one since it was last looked at can be collected.
-/

namespace Payload

/-- A source of a session, as it is in itself. -/
inductive Stock where
  | device (number : Nat) (device : Recorded Device)
  | tape (tape : Tape)
  | void (void : Void)
  | pipe (pipe : Pipe)

namespace Stock

variable {α : Type}

/-- Make a call, whatever kind of source it goes to. -/
def call (stock : Stock) (step : {σ : Type} → [Source σ] → σ → α × σ) : α × Stock :=
  match stock with
  | device number inner => let (answer, next) := step inner; (answer, .device number next)
  | tape inner => let (answer, next) := step inner; (answer, .tape next)
  | void inner => let (answer, next) := step inner; (answer, .void next)
  | pipe inner => let (answer, next) := step inner; (answer, .pipe next)

/-- Ask a question, whatever kind of source it goes to. -/
def ask (stock : Stock) (question : {σ : Type} → [Source σ] → σ → α) : α :=
  match stock with
  | device _ inner => question inner
  | tape inner => question inner
  | void inner => question inner
  | pipe inner => question inner

instance : Source Stock where
  size stock := stock.call Source.size
  seekable stock := stock.ask Source.seekable
  addressable stock := stock.ask Source.addressable
  read want stock := stock.call (Source.read want)
  readAt want position stock := stock.call (Source.readAt want position)
  seek origin stock := stock.call (Source.seek origin)
  close stock := stock.call Source.close
  patience stock := stock.ask Source.patience

end Stock

/-- A source of a session, as it is handed over. -/
abbrev Feed := Restricted Stock

namespace Feed

/-- A call made to a numbered device, and what came of it. -/
structure Event where
  device : Nat
  entry : Entry
  deriving DecidableEq, Repr

def Event.text (event : Event) : String :=
  toString event.device ++ ":" ++ event.entry.text

/-- The calls made to a device, in order. -/
def events (feed : Feed) : List Event :=
  match feed.inner with
  | .device number device => device.calls.map fun entry => ⟨number, entry⟩
  | _ => []

/-- The same source, with no call on record. -/
def forget (feed : Feed) : Feed :=
  match feed.inner with
  | .device number device => { feed with inner := .device number device.forget }
  | _ => feed

/-- Change the settings of a device, if this is the one with that number. -/
def adjust (number : Nat) (change : Device.Change) (feed : Feed) : Feed :=
  match feed.inner with
  | .device own device =>
    if own = number then
      { feed with
        inner := .device own { device with source := device.source.apply change } }
    else
      feed
  | _ => feed

end Feed

end Payload
