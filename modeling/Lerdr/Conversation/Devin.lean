/-
# Lerdr.Conversation.Devin — the steps of a Devin transcript
(`lerdr-coord/src/conversation/devin.rs`).

Devin writes one JSON document per session and rewrites it as it goes. A step becomes an entry under
its own `step_id`: the id says nothing about what the step holds.
-/
import Lerdr.Conversation.Records

namespace Lerdr.Conversation

open Lerdr.Rust

def atifStepId (step : Value) : Text :=
  match step.get "step_id" with
  | some (.string id) => id
  | some (.number n) => n.text
  | _ => []

/-- `string_value(step.get(key)…)`. -/
def stepText (step : Value) (key : String) : Text := ((step.get key).getD .null).stringValue

/-- What the results of a step say of a call: the last one that names it. -/
def stepResult (step : Value) (call : Text) : Option (Text × Bool) :=
  let results := (((step.get "observation").bind (·.get "results")).bind Value.asArray).getD []
  (results.filterMap fun result =>
    result.asObject.bind fun record =>
      let key := Record.text record "source_call_id"
      if key.isEmpty ∨ key ≠ call then none
      else some (sanitizeText (textValue (Record.getOr record "content")),
        Record.isTrue record "is_error" || Record.isTrue record "error")).getLast?

/-- A call with what the results say of it. -/
def withResult (step : Value) (tool : ToolActivity) : ToolActivity :=
  match stepResult step (if tool.associationId.isEmpty then tool.id else tool.associationId) with
  | none => tool
  | some (output, failed) =>
    let clamped := clampText output maxEntryBytes
    { tool with
      output := clamped.1
      error := failed
      truncated := tool.truncated || clamped.2 }

def atifAgentTools (step : Value) : List ToolActivity :=
  let calls := ((step.get "tool_calls").bind Value.asArray).getD []
  (calls.filterMap fun call => call.asObject.map fun record =>
    newToolActivity (Record.text record "tool_call_id") (Record.text record "function_name")
      (Record.get record "arguments")).map (withResult step)

def stepEntry (step : Value) : Option Entry :=
  let source := stepText step "source"
  if source ≠ "user".toList ∧ source ≠ "agent".toList then none
  else
    let isAgent : Bool := source = "agent".toList
    let tools := if isAgent then atifAgentTools step else []
    let body := sanitizeText (stepText step "message")
    if body.isEmpty ∧ tools.isEmpty then none
    else
      some (normalizeEntryTools
        { id := atifStepId step
          timestamp := stepText step "timestamp"
          role := if isAgent then "assistant".toList else "user".toList
          text := (clampText body maxEntryBytes).1
          tools := tools
          truncated := (clampText body maxEntryBytes).2 }).1

def devinEntries (document : Value) : List Entry :=
  (((document.get "steps").bind Value.asArray).getD []).filterMap stepEntry

end Lerdr.Conversation
