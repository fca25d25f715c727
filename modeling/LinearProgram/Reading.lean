/-
  Reading — a document that was read, for better or worse.

  Reading never fails. A reading has the model, or it has the fault that kept the document from
  having one; the fault is in the log, too. Without a model a reading shows the empty one.
-/

import LinearProgram.Document.Session
import LinearProgram.Payload

namespace LinearProgram

/-- What came of reading a document. -/
structure Reading where
  /-- Where the document came from, for reports. -/
  origin : Text
  outcome : Except Fault Model
  log : List Log.Record

namespace Reading

/-- The records of a fault. -/
def faultRecords (channel : String) (origin : Text) (fault : Fault) : List Log.Record :=
  let place := (fault.within.getD .start).label
  [ ⟨channel, .error, s!"Problem reading section {place} in input file {Cause.verbatim origin}"⟩,
    ⟨channel, .error, fault.text⟩ ]

/-- Reads a source; the log goes to `channel`. -/
def ofSource (channel : String) (origin : Text) (source : Source) : Reading :=
  let parsed := Session.parse source {}
  let told := parsed.events.map (Event.record channel)
  match parsed.result with
  | .ok model => ⟨origin, .ok model, told⟩
  | .error fault => ⟨origin, .error fault, told ++ faultRecords channel origin fault⟩

/-- The reading of a document that could not be opened. -/
def unopened (channel : String) (origin reason : Text) : Reading :=
  let fault : Fault := { cause := .unopenable origin reason, within := some .start }
  ⟨origin, .error fault, faultRecords channel origin fault⟩

/-- Reads a text held in memory. -/
def ofText (channel : String) (origin t : Text) : Reading := ofSource channel origin (.ofText t)

/-- The fault, if there is no model. -/
def fault? (r : Reading) : Option Fault :=
  match r.outcome with
  | .ok _ => none
  | .error fault => some fault

/-- Does the document have a model? -/
def isOk (r : Reading) : Bool := r.fault?.isNone

/-- The document's model; the empty one if the document has none. -/
def model (r : Reading) : Model :=
  match r.outcome with
  | .ok model => model
  | .error _ => .empty

/-- The reading as a structured value. -/
def payload (r : Reading) : Json :=
  .object <| match r.outcome with
    | .ok model =>
      [Payload.member "valid" (.bool true), Payload.member "source" (.text r.origin)]
        ++ model.payload
    | .error fault =>
      [ Payload.member "valid" (.bool false),
        Payload.member "source" (.text r.origin),
        Payload.member "error" fault.payload ]

end Reading

end LinearProgram
