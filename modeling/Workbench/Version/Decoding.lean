import Workbench.Version.Complaint
import Workbench.Version.Target

set_option autoImplicit false

/-!
# Targets in documents

A document names its targets under the key `targets`, each as a table or, in short form, as an array
of its parts in order. Other keys are looked at and passed over.

## Main definitions

* `Workbench.Target.ofValue` — the target that a value stands for.
* `Workbench.targetsOfFields` — the targets of a document.

## Design

The keys of a table are looked at in order, and the first value that is wrong is the one that is
complained about. Only then is it found out which keys are missing.
-/

namespace Workbench

open Toml (Value Fields)

/-- The text that a value is. -/
def textOfValue (value : Value) : Except Complaint String :=
  match value with
  | .text s => .ok s
  | _ => .error (wrongType value .text)

/-! ### Styles -/

/-- The style of a name. -/
def Style.ofName (name : String) : Except Complaint Style :=
  if name = "quoted" then .ok .quoted
  else if name = "bare" then .ok .bare
  else .error (.unknownStyle name)

/-- Whether a value holds nothing. -/
def isEmptyValue : Value → Bool
  | .array elements => elements.isEmpty
  | .table _ fields => fields.isEmpty
  | .tables rows => rows.isEmpty
  | _ => false

/-- The style of a table, which is named by its only key. -/
def Style.ofFields : Fields → Except Complaint Style
  | [] => .error .styleEmpty
  | [(name, value)] => do
    let style ← Style.ofName name
    if isEmptyValue value then .ok style else .error .unreadable
  | _ => .error .styleCrowded

/-- The style that a value stands for. -/
def Style.ofValue : Value → Except Complaint Style
  | .text name => Style.ofName name
  | .table _ fields => Style.ofFields fields
  | _ => .error .styleType

/-! ### Targets -/

/-- The fields of a target that were found so far. -/
structure TargetDraft where
  path : Option String := none
  lead : Option String := none
  style : Option Style := none
  tail : Option String := none

namespace TargetDraft

/-- Takes the value of a key. -/
def add (draft : TargetDraft) (key : String) (value : Value) : Except Complaint TargetDraft :=
  match key with
  | "path" => (textOfValue value).map fun s => { draft with path := some s }
  | "prefix" => (textOfValue value).map fun s => { draft with lead := some s }
  | "style" => (Style.ofValue value).map fun s => { draft with style := some s }
  | "terminator" => (textOfValue value).map fun s => { draft with tail := some s }
  | _ => if value.isRepresentable then .ok draft else .error .unreadable

/-- Takes the values of all keys. -/
def addAll : Fields → TargetDraft → Except Complaint TargetDraft
  | [], draft => .ok draft
  | (key, value) :: fields, draft => do addAll fields (← draft.add key value)

/-- The value of a field that must be there. -/
def demand {α : Type} (name : String) : Option α → Except Complaint α
  | some value => .ok value
  | none => .error (.missingField name)

/-- The target of a draft. -/
def complete (draft : TargetDraft) : Except Complaint Target := do
  let path ← demand "path" draft.path
  let lead ← demand "prefix" draft.lead
  let style ← demand "style" draft.style
  pure { path, lead, style, tail := draft.tail }

end TargetDraft

namespace Target

/-- The target of a table. -/
def ofFields (fields : Fields) : Except Complaint Target := do
  (← TargetDraft.addAll fields {}).complete

/-- The part at a place of a target in short form. -/
def part {α : Type} (elements : List Value) (place : Nat)
    (read : Value → Except Complaint α) : Except Complaint α :=
  match elements[place]? with
  | some value => read value
  | none => .error (.tooShort place)

/-- The target of its parts: path, lead, style and perhaps the tail. -/
def ofElements (elements : List Value) : Except Complaint Target := do
  let path ← part elements 0 textOfValue
  let lead ← part elements 1 textOfValue
  let style ← part elements 2 Style.ofValue
  let tail ← elements[3]?.mapM textOfValue
  pure { path, lead, style, tail }

/-- The target that a value stands for. -/
def ofValue (value : Value) : Except Complaint Target :=
  match value with
  | .table _ fields => ofFields fields
  | .array elements => ofElements elements
  | .tables rows => ofElements (rows.map (.table .written))
  | .moment => ofFields []
  | _ => .error (wrongType value .target)

end Target

/-! ### Documents -/

/-- The targets of a list. -/
def targetsOfValue (value : Value) : Except Complaint (List Target) :=
  match value with
  | .array elements => elements.mapM Target.ofValue
  | .tables rows => rows.mapM Target.ofFields
  | _ => .error (wrongType value .sequence)

/-- The targets of a document, after `found` was found under the keys before. -/
def targetsOfFieldsFrom (found : Option (List Target)) : Fields → Except Complaint (List Target)
  | [] => TargetDraft.demand "targets" found
  | (key, value) :: fields =>
    if key = "targets" then do
      targetsOfFieldsFrom (some (← targetsOfValue value)) fields
    else if value.isRepresentable then targetsOfFieldsFrom found fields
    else .error .unreadable

/-- The targets of a document. -/
def targetsOfFields (fields : Fields) : Except Complaint (List Target) :=
  targetsOfFieldsFrom none fields

end Workbench
