import Payload.Describe
import Payload.Opening
import Payload.Reader
import Payload.Session.Command

/-!
# Sessions

A session keeps copies of bodies in numbered slots and carries out one command after the other.  The
report on a command has the response, the calls that it caused on devices, the notes, and a view of
every slot.  When the session ends, the copies still there are let go in the order of the slots.
-/

namespace Payload

/-- Where the copy in a slot is found: its body, and its number among the copies. -/
structure Place where
  body : Nat
  copy : Nat
  deriving DecidableEq, Repr

structure Session where
  bodies : Array (Body Feed) := #[]
  slots : Array (Option Place) := #[]

/-- What a command leads to, before the calls on devices are collected. -/
structure Progress where
  response : Response
  session : Session
  notes : List Note := []
  /-- Calls on devices that no body holds. -/
  events : List Feed.Event := []

structure Report where
  response : Response
  events : List Feed.Event
  notes : List Note
  views : List (Option View)

namespace Session

/-! ## Slots -/

/-- Take the next slot and leave it empty. -/
def skip (session : Session) : Session :=
  { session with slots := session.slots.push none }

/-- Take the next slot for the first copy of a new body. -/
def place (session : Session) (body : Body Feed) : Session where
  bodies := session.bodies.push body
  slots := session.slots.push (some ⟨session.bodies.size, 0⟩)

/-- The body and the number of the copy in a slot. -/
def find? (session : Session) (slot : Nat) : Option (Place × Body Feed) := do
  let place ← session.slots[slot]?.join
  let body ← session.bodies[place.body]?
  pure (place, body)

def view? (session : Session) (place? : Option Place) : Option View := do
  let place ← place?
  let body ← session.bodies[place.body]?
  pure (body.view place.copy)

def views (session : Session) : List (Option View) :=
  session.slots.toList.map session.view?

/-! ## Actions on a copy -/

variable (session : Session) (place : Place)

/-- The session after its body at this place changed. -/
def updated (body : Body Feed) : Session :=
  { session with bodies := session.bodies.setIfInBounds place.body body }

/-- The progress made by an operation on a body. -/
def after {α : Type} (effect : Effect (Body Feed) α) (fine : α → Response) : Progress where
  response := .ofReply fine effect.reply
  session := session.updated place effect.state
  notes := effect.notes

/-- The progress made by a call on a byte stream. -/
def afterStream {α : Type} (step : Outcome Failure α × Body.Noted Feed) (fine : α → Response) :
    Progress where
  response := .ofStream fine step.1
  session := session.updated place step.2.body
  notes := step.2.notes

/-- Copy into the next slot, which stays empty if that fails. -/
def copyInto (body : Body Feed) : Progress :=
  let effect := body.copy place.copy
  let next := session.updated place effect.state
  { response := .ofReply (fun _ => .fine) effect.reply
    session :=
      match effect.reply with
      | .done () =>
        { next with slots := next.slots.push (some { place with copy := body.copies }) }
      | _ => next.skip
    notes := effect.notes }

/-- Let a copy go and empty its slot. -/
def dropFrom (slot : Nat) (body : Body Feed) : Progress :=
  let progress := session.after place (body.drop place.copy) fun _ => .fine
  { progress with
    session :=
      { progress.session with slots := progress.session.slots.setIfInBounds slot none } }

/-- Reads of a copy into one and the same buffer, until an error or until so many rounds are
over. -/
def readRounds (index : Nat) :
    (rounds : Nat) → Buffer → List Nat → ByteArray → Body.Noted Feed → Response × Body.Noted Feed
  | 0, _, counts, content, noted => (.several counts.reverse content none, noted)
  | rounds + 1, buffer, counts, content, noted =>
    let effect := noted.body.read index buffer
    let next := noted.after effect
    match effect.reply with
    | .done bytes =>
      readRounds index rounds (buffer.write bytes) (bytes.size :: counts) (content ++ bytes) next
    | .failed error => (.several counts.reverse content (some error), next)
    | .broke => (.broke, next)

def writeInto (body : Body Feed) (sink : Gauge) : Progress :=
  let step := body.writeTo place.copy sink
  let response :=
    match step.1.reply with
    | .done total => .written (.ok total) step.2
    | .failed error => .written (.error error) step.2
    | .broke => .broke
  { response, session := session.updated place step.1.state, notes := step.1.notes }

/-- The response to what a visit of the source found. -/
def ofVisit : Option (Except Fault Finding) → Response
  | none => .nothingLent
  | some (.ok finding) => .found finding
  | some (.error fault) => .failure (.plain fault)

/-- The fault of a stream whose bytes are no text. -/
def notText : Fault :=
  .saying .invalidData "stream did not contain valid UTF-8"

/-- Read a copy to its end, and answer with the outcome and the bytes. -/
def collect (body : Body Feed) (answer : Outcome Failure Unit → ByteArray → Response) :
    Progress :=
  let (outcome, content, noted) := body.readToEnd place.copy
  { response := answer outcome content
    session := session.updated place noted.body
    notes := noted.notes }

/-- The bytes read to the end, also before a failure. -/
def asCollected (outcome : Outcome Failure Unit) (content : ByteArray) : Response :=
  match outcome with
  | .done () => .collected (.ok content.size) content
  | .failed failure => .collected (.error failure) content
  | .broke => .broke

/-- The bytes read to the end as text; a failure to read them comes first. -/
def asText (outcome : Outcome Failure Unit) (content : ByteArray) : Response :=
  match outcome with
  | .done () =>
    match String.fromUTF8? content with
    | some text => .text content.size text
    | none => .failure (.plain notText)
  | .failed failure => .failure failure
  | .broke => .broke

/-- Carry out an action on the copy in a slot. -/
def perform (slot : Nat) (body : Body Feed) : Action → Progress
  | .copy => session.copyInto place body
  | .drop => session.dropFrom place slot body
  | .close => session.after place (body.close place.copy) fun _ => .fine
  | .look => { response := .fine, session }
  | .read want => session.after place (body.read place.copy (.fresh want)) .bytes
  | .readAt want offset =>
    session.after place (body.readAt place.copy (.fresh want) offset) .bytes
  | .readAll want rounds =>
    let (response, noted) := readRounds place.copy rounds (.fresh want) [] .empty ⟨body, []⟩
    { response, session := session.updated place noted.body, notes := noted.notes }
  | .seek offset whence => session.after place (body.seek place.copy offset whence) .position
  | .writeTo sink => session.writeInto place body sink
  | .visit request => session.after place (body.visit place.copy request.callback) ofVisit
  | .streamRead want =>
    session.afterStream place (Body.streamRead place.copy want ⟨body, []⟩) .bytes
  | .readExactly want => session.afterStream place (body.readExactly place.copy want) .bytes
  | .readToEnd => session.collect place body asCollected
  | .readToText => session.collect place body asText
  | .streamSeek origin =>
    session.afterStream place (body.seekStream place.copy origin) .position
  | .rewind =>
    session.afterStream place (body.seekStream place.copy (.start 0)) fun _ => .fine
  | .describe => { response := .description (body.describe place.copy), session }

/-! ## Commands -/

/-- Open a source into the next slot, which stays empty if that fails. -/
def openInto (source : Feed) (options : Options) : Progress :=
  let opening := Body.open source options
  { response := .ofReply (fun _ => .fine) opening.reply
    session :=
      match opening.reply with
      | .done body => session.place (body.mapSource Feed.forget)
      | _ => session.skip
    notes := opening.notes
    events := opening.source.events }

def carryOut : Command → Progress
  | .store content => { response := .fine, session := session.place (.ofBytes content) }
  | .storeClosed => { response := .fine, session := session.place .closed }
  | .open source options => session.openInto source options
  | .sequence source =>
    let body := Body.overSequence (source.limit .reading) none defaultBlock
    { response := .fine, session := session.place body }
  | .adjust number change =>
    let bodies := session.bodies.map (Body.mapSource (Feed.adjust number change))
    { response := .fine, session := { session with bodies } }
  | .act slot action =>
    match session.find? slot with
    | some (place, body) => session.perform place slot body action
    | none =>
      { response := .noBody
        session :=
          match action with
          | .copy => session.skip
          | _ => session }

/-- The calls on the devices of all bodies since they were last collected. -/
def events : List Feed.Event :=
  session.bodies.toList.flatMap fun body => ((body.source?.map Feed.events).getD [])

/-- The session with no call on record. -/
def forget : Session :=
  { session with bodies := session.bodies.map (Body.mapSource Feed.forget) }

/-- Carry out a command and report on it. -/
def step (command : Command) : Report × Session :=
  let progress := session.carryOut command
  ({ response := progress.response
     events := progress.events ++ progress.session.events
     notes := progress.notes
     views := progress.session.views }, progress.session.forget)

/-- Carry out commands in their order. -/
def run : List Command → Session → List Report × Session
  | [], session => ([], session)
  | command :: rest, session =>
    let (report, next) := session.step command
    let (reports, last) := run rest next
    (report :: reports, last)

/-- Let go of the copies in these slots, one after the other, and collect the calls on devices and
the notes. -/
def finish : List Nat → Session → List Feed.Event × List Note
  | [], _ => ([], [])
  | slot :: rest, session =>
    let (report, next) := session.step (.act slot .drop)
    let (events, notes) := finish rest next
    (report.events ++ events, report.notes ++ notes)

/-- The end of a session, all slots in their order. -/
def stop : List Feed.Event × List Note :=
  finish (List.range session.slots.size) session

end Session

end Payload
