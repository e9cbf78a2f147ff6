import Payload.Body

/-!
# The text of a body in diagnostic output

One copy is shown with its own place and what it shares; bytes in memory are written out, and what
lies behind a shared record is left at two dots.
-/

namespace Payload

namespace Describe

/-- A structure's name and its fields between braces. -/
def fields (name : String) (parts : List String) : String :=
  name ++ " \x7b " ++ String.intercalate ", " parts ++ " \x7d"

def flag (value : Bool) : String :=
  if value then "true" else "false"

def access : Access → String
  | .addressed => "Positional"
  | .seeking => "Seeking"

def terminal : Option Terminal → String
  | none => "None"
  | some terminal => "Some(" ++ terminal.inspect ++ ")"

/-- A body in memory.  One without bytes shows no more than whether its end was met. -/
def memory (data : ByteArray) (cursor : Cursor) : String :=
  if data.isEmpty then
    "Empty(" ++ fields "EmptyBody" ["eos: " ++ flag cursor.ended] ++ ")"
  else
    "Memory(" ++ fields "MemoryBody"
      ["data: " ++ Text.quotedBytes data, s!"offset: {cursor.offset}",
        "eos: " ++ flag cursor.ended] ++ ")"

def direct {σ : Type} (record : Direct σ) (cursor : Cursor) : String :=
  let common := fields "Common"
    ["access: " ++ access record.access, s!"base: {record.base}", s!"len: {record.length}",
      s!"refs: {record.sharers}", ".."]
  "Random(" ++ fields "RandomBody"
    ["common: " ++ common, s!"offset: {cursor.offset}", "eos: " ++ flag cursor.ended] ++ ")"

def buffered {σ : Type} (record : Buffered σ) (cursor : Buffered.Cursor) : String :=
  let common := fields "Common"
    ["length: " ++ Note.optional record.length, s!"block_size: {record.blockSize}", ".."]
  "Buffered(" ++ fields "BufferedBody"
    ["common: " ++ common, s!"offset: {cursor.offset}",
      "terminal: " ++ terminal cursor.terminal] ++ ")"

/-- An open copy in one form, a closed one in another. -/
def copy {κ : Type} (cursor? : Option κ) (describe : κ → String) : String :=
  fields "Body" ["inner: " ++ (cursor?.map describe).getD "Closed"]

end Describe

/-- The text of one copy. -/
def Body.describe {σ : Type} [Source σ] (body : Body σ) (index : Nat) : String :=
  match body with
  | .memory pool => Describe.copy (pool.cursor? index) (Describe.memory pool.record)
  | .direct pool => Describe.copy (pool.cursor? index) (Describe.direct pool.record)
  | .buffered pool => Describe.copy (pool.cursor? index) (Describe.buffered pool.record)

end Payload
