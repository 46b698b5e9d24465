import Workbench.Fault

set_option autoImplicit false

/-!
# Stores of texts

A store answers the text at a path and takes a new one. Two stores are built on the same interface: a
disk folder, and the store in memory of this module, which can be told to fail and keeps a journal of
its calls.

## Main definitions

* `Workbench.TextStore` — the interface: reading and writing in a state.
* `Workbench.Texts` — texts by path.
* `Workbench.MemoryStore` — texts with the calls that fail and the journal.
* `Workbench.MemoryStore.store` — the store in memory.

## Main results

* `Workbench.Texts.get?_put`, `Workbench.Texts.get?_put_ne` — what a text map answers after a
  change.
-/

namespace Workbench

/-- Reading and writing texts at paths, in a state that every call may change. -/
structure TextStore (σ : Type) where
  read : String → σ → Except Fault String × σ
  write : String → String → σ → Except Fault Unit × σ

/-! ### Texts by path -/

/-- Texts by path. The first entry of a path is the one that counts. -/
abbrev Texts := List (String × String)

namespace Texts

/-- The text at a path. -/
def get? (texts : Texts) (path : String) : Option String := texts.lookup path

/-- Puts a text at a path: in its place if there is one, else at the end. -/
def put (path text : String) : Texts → Texts
  | [] => [(path, text)]
  | (p, t) :: rest => if p = path then (path, text) :: rest else (p, t) :: put path text rest

/-- Removes the text at a path. -/
def delete (path : String) (texts : Texts) : Texts := texts.filter fun entry => entry.1 != path

/-- A text that was put is there. -/
theorem get?_put (path text : String) (texts : Texts) :
    (put path text texts).get? path = some text := by
  induction texts with
  | nil => simp [put, get?]
  | cons entry rest ih =>
    obtain ⟨p, t⟩ := entry
    by_cases h : p = path
    · simp [put, get?, h]
    · have h' : (path == p) = false := by simpa using fun e => h e.symm
      simpa [put, get?, h, h', List.lookup_cons] using ih

/-- Putting a text changes nothing at other paths. -/
theorem get?_put_ne {path other : String} (h : other ≠ path) (text : String) (texts : Texts) :
    (put path text texts).get? other = texts.get? other := by
  have h' : (other == path) = false := by simpa using h
  induction texts with
  | nil => simp [put, get?, List.lookup_cons, h']
  | cons entry rest ih =>
    obtain ⟨p, t⟩ := entry
    by_cases hp : p = path
    · subst hp
      simp [put, get?, List.lookup_cons, h']
    · simp only [get?] at ih
      simp [put, get?, hp, List.lookup_cons, ih]

end Texts

/-! ### The store in memory -/

/-- A call on a store. -/
inductive Call where
  | read (path : String)
  | write (path : String)
  deriving DecidableEq, Repr

/-- Texts in memory, the calls that fail, and all calls so far. -/
structure MemoryStore where
  texts : Texts
  readFaults : List (String × Fault) := []
  writeFaults : List (String × Fault) := []
  /-- The calls, oldest first. -/
  calls : List Call := []

namespace MemoryStore

/-- Reads a text. A path without one fails as a missing file does. -/
def read (path : String) (memory : MemoryStore) : Except Fault String × MemoryStore :=
  let after := { memory with calls := memory.calls ++ [.read path] }
  match memory.readFaults.lookup path with
  | some fault => (.error fault, after)
  | none =>
    match memory.texts.get? path with
    | some text => (.ok text, after)
    | none => (.error (.file .noEntry), after)

/-- Writes a text. -/
def write (path text : String) (memory : MemoryStore) : Except Fault Unit × MemoryStore :=
  let after := { memory with calls := memory.calls ++ [.write path] }
  match memory.writeFaults.lookup path with
  | some fault => (.error fault, after)
  | none => (.ok (), { after with texts := memory.texts.put path text })

/-- The store in memory. -/
def store : TextStore MemoryStore := { read, write }

end MemoryStore

end Workbench
