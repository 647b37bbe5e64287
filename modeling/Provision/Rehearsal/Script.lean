import Provision.Json.Record
import Provision.Session.AdminFailure

/-!
# Scripts

What the services are told to do differently at their next calls: to stall, to be slow, to change
the world, to fail, or to give a reply of the script's choice.
-/

set_option autoImplicit false

namespace Provision.Rehearsal

/-- What one call is told. -/
structure Cue where
  stalls : Bool
  delayMs : Nat
  effect : Option Properties
  failure : Option (String × String)
  reply : Option Json
  /-- Whether the cue also holds for the calls after it. -/
  repeats : Bool

namespace Cue

/-- A call that is told nothing. -/
def nothing : Cue :=
  { stalls := false, delayMs := 0, effect := none, failure := none, reply := none
    repeats := false }

/-- The members of an object; nothing for any other value. -/
def membersOf : Json → Properties
  | .object members => members
  | _ => []

/-- The text of a member. -/
def textOf (members : Properties) (key : String) : Option String :=
  match members.get? key with
  | some (.text value) => some value
  | _ => none

/-- Reads a cue; whatever is not understood is not told. -/
def ofJson (value : Json) : Cue :=
  let members := membersOf value
  let holds := fun (key : String) =>
    match members.get? key with
    | some (.bool flag) => flag
    | _ => false
  { stalls := holds "stall"
    delayMs :=
      match members.get? "delay_ms" with
      | some (.whole (.ofNat millis)) => millis
      | _ => 0
    effect :=
      match members.get? "effect" with
      | some (.object changes) => some changes
      | _ => none
    failure := (textOf members "kind").map fun kind =>
      (kind, (textOf members "message").getD "")
    reply := members.get? "reply"
    repeats := holds "repeat" }

end Cue

/-- The cues that wait for the calls of each method. -/
abbrev Script := List (String × List Cue)

namespace Script

/-- The cue for the next call of a method, and the script after it. -/
def take (method : String) : Script → Cue × Script
  | [] => (Cue.nothing, [])
  | (name, cues) :: rest =>
      if name == method then
        match cues with
        | [] => (Cue.nothing, (name, []) :: rest)
        | cue :: later => (cue, (name, if cue.repeats then cue :: later else later) :: rest)
      else
        let (cue, others) := take method rest
        (cue, (name, cues) :: others)

/-- Adds cues behind those of a method. -/
def add (method : String) (cues : List Cue) : Script → Script
  | [] => [(method, cues)]
  | (name, waiting) :: rest =>
      if name == method then (name, waiting ++ cues) :: rest
      else (name, waiting) :: add method cues rest

end Script

/-- The failure with the name of its kind; a JSON failure is what reading the message as JSON
says. -/
def failureNamed (kind message : String) : Option Failure :=
  (FailureKind.ofName? kind).map fun found =>
    match found, Json.read message with
    | .json, .error fault => ⟨.json, fault.message⟩
    | _, _ => ⟨found, message⟩

/-- The refusal with the name of its kind. -/
def refusalNamed (kind message : String) : Option Session.AdminFailure :=
  (Session.AdminFailureKind.ofName? kind).map fun found => ⟨found, message⟩

end Provision.Rehearsal
