import Payload.Source

/-!
# Scripted devices

A device is a source whose behaviour is written down beforehand: what it says about itself, where it
starts to fail, and, call by call, which reads and seeks come out otherwise than its content would
have it.
-/

namespace Payload

namespace Device

/-- What a device says when asked for its size. -/
inductive Size where
  | unknown
  | ofContent
  | fixed (size : Nat)
  | faulty (fault : Fault)
  deriving DecidableEq, Repr

/-- What the script says about one read. -/
inductive ReadCue where
  | plain
  | atMost (count : Nat)
  | fault (fault : Fault)
  | breakOff
  /-- Claim this many bytes more than were asked for, and give none. -/
  | overstate (count : Nat)
  deriving DecidableEq, Repr

/-- What the script says about one seek. -/
inductive SeekCue where
  | plain
  | fault (fault : Fault)
  | breakOff
  /-- Answer this position and stay. -/
  | answer (position : Nat)
  deriving DecidableEq, Repr

/-- What comes of closing a device. -/
inductive Closing where
  | works
  | fault (fault : Fault)
  | breakOff
  deriving DecidableEq, Repr

end Device

structure Device where
  content : ByteArray := .empty
  position : Nat := 0
  size : Device.Size := .unknown
  seekable : Bool := false
  addressable : Bool := false
  /-- The most bytes that one read gives. -/
  chunk : Option Nat := none
  /-- The position from which on reads fail. -/
  failAt : Option Nat := none
  /-- What reads fail with from there on. -/
  fault : Fault := .saying .other "injected failure"
  reads : List Device.ReadCue := []
  seeks : List Device.SeekCue := []
  closing : Device.Closing := .works

namespace Device

def sizeAnswer (device : Device) : Answer (Option Nat) :=
  match device.size with
  | .unknown => .done none
  | .ofContent => .done (some device.content.size)
  | .fixed size => .done (some size)
  | .faulty fault => .failed fault

/-- `count`, unless the limit is lower. -/
def limited (count : Nat) : Option Nat → Nat
  | none => count
  | some limit => min count limit

/-- A read of at most `limit` of the `want` bytes at `position`, once the script has had its say. -/
def supplyAt (device : Device) (want position : Nat) (limit : Option Nat) : Reading want :=
  let within (room : Nat) : Reading want :=
    let count := min room (limited (limited want limit) device.chunk)
    Source.yields want (stretch device.content position (min want count))
  match device.failAt with
  | none => within want
  | some failAt =>
    if failAt ≤ position then .failed device.fault else within (failAt - position)

/-- How a read at `position` comes out under the next cue. -/
def readCued (device : Device) (want position : Nat) : Option ReadCue → Reading want
  | none => device.supplyAt want position none
  | some .plain => device.supplyAt want position none
  | some (.atMost count) => device.supplyAt want position (some count)
  | some (.fault fault) => .failed fault
  | some .breakOff => .broke
  | some (.overstate more) => .done (.claim (want + more))

def readAt (want position : Nat) (device : Device) : Reading want × Device :=
  (device.readCued want position device.reads.head?, { device with reads := device.reads.tail })

/-- How far a read moves the device: past the bytes given, but not past bytes only claimed. -/
def travelled {want : Nat} : Reading want → Nat
  | .done (.bytes content _) => content.size
  | _ => 0

def read (want : Nat) (device : Device) : Reading want × Device :=
  let reading := device.readCued want device.position device.reads.head?
  (reading,
    { device with
      position := device.position + travelled reading
      reads := device.reads.tail })

def seek (origin : Origin) (device : Device) : Answer Nat × Device :=
  let next := { device with seeks := device.seeks.tail }
  match device.seeks.head? with
  | some (.fault fault) => (.failed fault, next)
  | some .breakOff => (.broke, next)
  | some (.answer position) => (.done position, next)
  | _ =>
    match origin.aim? device.position device.content.size with
    | some position => (.done position, { next with position })
    | none => (.failed ⟨.invalidInput, .plain⟩, next)

def closeAnswer (device : Device) : Answer Unit :=
  match device.closing with
  | .works => .done ()
  | .fault fault => .failed fault
  | .breakOff => .broke

/-! ## Changing a device from outside -/

/-- New values for some of a device's settings. -/
structure Change where
  content : Option ByteArray := none
  position : Option Nat := none
  size : Option Size := none
  seekable : Option Bool := none
  addressable : Option Bool := none
  chunk : Option (Option Nat) := none
  failAt : Option (Option Nat) := none
  fault : Option Fault := none
  reads : Option (List ReadCue) := none
  seeks : Option (List SeekCue) := none
  closing : Option Closing := none

/-- The device with new settings.  A new script takes the place of what was left of the old one. -/
def apply (change : Change) (device : Device) : Device where
  content := change.content.getD device.content
  position := change.position.getD device.position
  size := change.size.getD device.size
  seekable := change.seekable.getD device.seekable
  addressable := change.addressable.getD device.addressable
  chunk := change.chunk.getD device.chunk
  failAt := change.failAt.getD device.failAt
  fault := change.fault.getD device.fault
  reads := change.reads.getD device.reads
  seeks := change.seeks.getD device.seeks
  closing := change.closing.getD device.closing

instance : Source Device where
  size device := (device.sizeAnswer, device)
  seekable := seekable
  addressable := addressable
  read := read
  readAt := readAt
  seek := seek
  close device := (device.closeAnswer, device)
  patience device := device.reads.length + device.seeks.length

end Device

end Payload
