import Escalation.Form.Outcome

/-!
# Requests and responses

What a router is asked and what it answers. A request is known by the id that it gives, or else by
the one in its metadata, or else by one made up of the time and a number.
-/

namespace Escalation

open Form

/-- A request for routing: the event to evaluate, and how the answer is to be given. A request
that has an id is answered under it. -/
structure Request where
  context : Context
  decision : Decision := {}
  metadata : Attributes := .empty
  /-- The actions of the matched rule are told and not applied. -/
  dryRun : Bool := false
  requestId : Option String := none
deriving Inhabited

/-- The answer to a request: the outcome, and what became of the decision and its metadata. -/
structure Response where
  requestId : String
  outcome : Outcome
  handoff : Handoff
  /-- Whether the actions were applied, even if there were none. -/
  applied : Bool
  skipped : List SkippedAction
  /-- How long the answer took, where it was measured. -/
  millis : Nat
deriving Inhabited

namespace Request

def event (r : Request) : Event :=
  ⟨r.context, r.decision, r.metadata⟩

def handoff (r : Request) : Handoff :=
  ⟨r.decision, r.metadata⟩

def idName : String := "request_id"

/-- The id of a request, which is a fresh one if nothing gives it. -/
def idOr (r : Request) (fresh : String) : String :=
  match r.requestId with
  | some id => id
  | none => ((r.metadata.find? idName).bind Value.text?).getD fresh

/-- An id made up of a time and a number, of which 24 bits are used. -/
def freshId (now : Time.Timestamp) (n : Nat) : String :=
  let marks := (now.renderWith "").toList.takeWhile (· != '.')
  let hex := Nat.toDigits 16 (n % Nat.pow 2 24)
  "req_" ++ String.ofList (marks.filter Char.isDigit) ++ "_" ++
    String.ofList (List.replicate (6 - hex.length) '0' ++ hex)

def ofJson? (arrival : Time.Timestamp) (json : Json) : Option Request := do
  let ms ← members? .json json
  let context ← required? ["context"] (Context.ofJson? arrival) ms
  let decision ← orDefault? ["decision"] {} Decision.ofJson? ms
  let metadata ← orDefault? ["metadata"] .empty Attributes.ofJson? ms
  let dryRun ← orDefault? ["dry_run"] false bool? ms
  let requestId ← optional? ["request_id"] text? ms
  some ⟨context, decision, metadata, dryRun, requestId⟩

end Request

def Response.toJson (r : Response) : Json :=
  .object
    ([("request_id", .text r.requestId), ("result", r.outcome.toJson),
        ("decision", r.handoff.decision.toJson), ("metadata", r.handoff.metadata.toJson),
        ("applied", .bool r.applied)] ++
      nonemptyList "skipped" SkippedAction.toJson r.skipped ++
      [("processing_time_ms", .ofNat r.millis)])

end Escalation
