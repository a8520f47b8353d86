import Escalation.Event
import Escalation.Sha256

/-!
# Fingerprints

The key under which an outcome is kept is a digest of all that the evaluation read. `preimage`
writes it as bytes in one way only: texts and lists begin with their lengths, values with a mark of
their kind, maps follow the order of their names. It holds the version of the rules, the messages
(with their timestamps if a rule reads them), the maps, what rules read of the decision, and the
minute of the day if a rule reads the clock.
-/

namespace Escalation.Fingerprint

abbrev Bytes := List UInt8

def word (n : UInt64) : Bytes :=
  Sha256.bytes64 n

def length (n : Nat) : Bytes :=
  word n.toUInt64

def flag (b : Bool) : Bytes :=
  [if b then 1 else 0]

def raw (s : String) : Bytes :=
  s.toUTF8.toList

def text (s : String) : Bytes :=
  length s.utf8ByteSize ++ raw s

def text? : Option String → Bytes
  | none => [0]
  | some s => 1 :: text s

mutual
/-- A value after the mark of its kind. -/
def value : Value → Bytes
  | .null => [0]
  | .bool b => 1 :: flag b
  | .number x => 2 :: word x.toBits
  | .text s => 3 :: text s
  | .list items => 4 :: (length items.length ++ values items)
  | .object members => 5 :: (length members.length ++ entries members)
termination_by structural v => v
def values : List Value → Bytes
  | [] => []
  | v :: vs => value v ++ values vs
termination_by structural vs => vs
def entries : List (String × Value) → Bytes
  | [] => []
  | (name, v) :: es => text name ++ value v ++ entries es
termination_by structural es => es
end

def attributes (a : Attributes) : Bytes :=
  length a.entries.length ++ entries a.entries

def message (timestamps : Bool) (m : Message) : Bytes :=
  text m.speaker ++ text m.content ++ if timestamps then text m.timestamp.renderOffset else []

def messages (timestamps : Bool) : List Message → Bytes
  | [] => []
  | m :: ms => message timestamps m ++ messages timestamps ms

/-- What rules read of a decision. -/
def decision (d : Decision) : Bytes :=
  flag d.shouldHandoff ++ word d.confidence.toBits ++ text? (d.priority.map Priority.name) ++
    text? d.reason ++ text? d.triggerType ++ attributes d.triggerResults

/-- The minute of the day, if it is read. -/
def bucket : Option TimeOfDay → Bytes
  | some t => raw "t" ++ [(t.minutes / 256).toUInt8, t.minutes.toUInt8]
  | none => raw "-"

/-- All that an evaluation reads, as bytes: the version of the rules, the minute of the day if rules
ask for it, and the event. The timestamps of messages are left out unless rules ask for them. -/
def preimage (scope : Scope) (version : UInt64) (minute : Option TimeOfDay) (timestamps : Bool) :
    Bytes :=
  let context := scope.context
  raw "v" ++ word version ++
    raw "messages" ++ flag timestamps ++ length context.messages.length ++
    messages timestamps context.messages ++
    raw "user" ++ attributes context.userAttributes ++
    raw "context" ++ attributes context.metadata ++
    raw "entities" ++ attributes context.entities ++
    raw "metadata" ++ attributes scope.metadata ++
    raw "decision" ++ decision scope.decision ++
    bucket minute

/-- The fingerprint of an evaluation, by which its outcome is kept. Two evaluations that read the
same have the same, and two that do not have different ones as far as the digest tells different
bytes apart. -/
def fingerprint (scope : Scope) (version : UInt64) (minute : Option TimeOfDay)
    (timestamps : Bool) : String :=
  Sha256.hexDigest (preimage scope version minute timestamps)

end Escalation.Fingerprint
