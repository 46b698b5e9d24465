import Workbench.Proofs.Checks
import Workbench.Proofs.Disk.Locations
import Workbench.Proofs.Font.Conversion
import Workbench.Tool

set_option relaxedAutoImplicit false
set_option autoImplicit false

/-!
# The font tool delivers all or nothing

A listing that is cut short would still be taken for source text. So a run either delivers the whole
listing, in print or as the one file that it writes, or it leaves all files alone and prints nothing but
what the printer has taken before it refuses the rest. Which of the two happens is up to settings, font,
file and printer; glyphs that cannot be drawn have no part in it.

## Main definitions

* `Workbench.FontTool.Drawing`, `Workbench.FontTool.Rasterizer` — what draws pictures and opens fonts.
* `Workbench.FontTool.runOver` — a run with any rasterizer.
* `Workbench.FontTool.Settings.Lists` — the listing of a run.
* `Workbench.FontTool.Settings.Ready` — what a run needs.
* `Workbench.FontTool.Settings.Delivers` — a listing that has reached where it should go.
* `Workbench.FontTool.AllOrNothing` — what a run leaves, told by its status.

## Main results

* `Workbench.FontTool.Drawing.convertChecked_raster` — no picture overflows when it is packed.
* `Workbench.FontTool.Settings.check_eq_ok_iff` — the settings that are accepted.
* `Workbench.FontTool.run_eq_runOver` — the tool is a run with the rasterizer of drawn fonts.
* `Workbench.FontTool.deliver_of_takes`, `Workbench.FontTool.deliver_of_not_takes` — the two ends.
* `Workbench.FontTool.Settings.ready_willing_iff` — what a run needs if everything is taken that it prints.
* `Workbench.FontTool.run_allOrNothing` — every run delivers all or nothing.

## Design

How a font is opened and drawn is up to a library, of which the tool takes any error and any picture. A
rasterizer is therefore any function from a disk, a path and a pixel size, with a drawing that may keep
state and fail on any code. A printer is any function too. That it takes nothing of what it refuses is
asked of it only where it says so.
-/

namespace Workbench

/-! ### One file that is written -/

/-- One file was written: it holds the text, what is at other locations stays, and so do the directories
and the refusals. -/
structure Disk.HasWritten (before after : Disk) (location : Location) (text : String) : Prop where
  holds : after.entry? location = some (.file (octetsOf text))
  others : ∀ other ≠ location, after.entry? other = before.entry? other
  shape : after.HasShapeOf before

/-- Writing a text writes one file. -/
lemma Disk.hasWritten_put {disk : Disk} {path : String} {location : Location}
    (h : disk.writable path = .ok location) (text : String) :
    disk.HasWritten (disk.put location (octetsOf text)) location text := by
  obtain ⟨-, hfree, -⟩ := writable_eq_ok_iff.1 h
  refine ⟨?_, fun other hne => ?_, hasShapeOf_put hfree⟩
  · rw [entry_put hfree, if_pos rfl]
  · rw [entry_put hfree, if_neg hne]

/-- A printer takes nothing of what it refuses. -/
def Printer.RefusesWhole (printer : Printer) : Prop :=
  ∀ octets refusal, printer octets = some refusal → refusal.taken = 0

namespace FontTool

/-! ### Rasterizers -/

/-- Draws pictures for codes, with a state that each call may change. -/
abbrev Drawing (σ : Type) := Nat → σ → Except FontError Slot × σ

variable {σ : Type}

/-- The raster of a drawing, in which pictures are bitmaps. -/
def Drawing.raster (draw : Drawing σ) : Raster σ := fun code state =>
  match draw code state with
  | (.error cause, next) => (.error (.font cause), next)
  | (.ok slot, next) => (slot.bitmap code, next)

/-- The drawing of a loader, which keeps no state. -/
def Drawing.ofLoader (load : Loader) : Drawing Unit := fun code state => (load code, state)

/-- The raster of a loader is that of its drawing. -/
lemma Drawing.raster_ofLoader (load : Loader) : (ofLoader load).raster = load.raster := by
  funext code state
  rw [Drawing.raster, ofLoader, Loader.raster, Loader.rasterize]
  cases load code <;> rfl

/-- What is drawn has places that are words. -/
lemma Drawing.placesFit_of_raster {draw : Drawing σ} {code : Nat} {state : σ} {bitmap : Bitmap}
    (h : (draw.raster code state).1 = .ok bitmap) : bitmap.PlacesFit := by
  unfold Drawing.raster at h
  split at h
  · simp at h
  · exact Slot.placesFit_bitmap h

/-- **No picture overflows** when it is packed, however it is drawn. -/
theorem Drawing.convertChecked_raster (draw : Drawing σ) (state : σ) :
    GlyphTable.convertChecked draw.raster state = .ok (GlyphTable.convert draw.raster state) := by
  refine GlyphTable.convertChecked_eq_ok_iff.2 fun bitmap hanswer => ?_
  obtain ⟨code, reached, hdrawn⟩ := GlyphTable.exists_of_mem_answers hanswer
  exact Drawing.placesFit_of_raster hdrawn

/-- Opens the font at a path of a disk for a pixel size: a drawing with the state that it starts from, or
why there is none. -/
abbrev Rasterizer (σ : Type) := Disk → String → Nat → Except FontError (Drawing σ × σ)

/-- The rasterizer of drawn fonts. -/
def strikes : Rasterizer Unit := fun disk path pixelSize =>
  (disk.openFont path pixelSize).map fun font => (.ofLoader font.loader, ())

/-- It opens the drawn fonts of the disk. -/
lemma exists_strikes_eq_ok_iff {disk : Disk} {path : String} {pixelSize : Nat} :
    (∃ opened, strikes disk path pixelSize = .ok opened) ↔
      ∃ font, disk.openFont path pixelSize = .ok font := by
  unfold strikes
  cases disk.openFont path pixelSize <;> simp [Except.map]

/-- A whole run with a rasterizer, and the disk as it leaves it. -/
def runOver (rasterizer : Rasterizer σ) (settings : Settings) (printer : Printer) (disk : Disk) :
    Finish × Disk :=
  let start := [announcing .fontTool settings.describe]
  match settings.check with
  | .error fault =>
    ({ status := 1
       notes := start ++ [fault.rejecting .fontTool, fault.tell, fault.advise]
       isVerbose := settings.verbose },
      disk)
  | .ok () =>
    match rasterizer disk settings.font settings.pixelSize with
    | .error cause => (failure settings start (.load settings.font cause), disk)
    | .ok (draw, state) =>
      let (table, events, _) := GlyphTable.convert draw.raster state
      let notes :=
        start ++ (Strike.loaded settings.font settings.pixelSize :: events).map .event
      match settings.listingFormat with
      | .error fault => (failure settings notes (.render fault), disk)
      | .ok format =>
        deliver settings printer disk notes (Listing.render format settings.names table.glyphs)

/-- **The tool is a run with the rasterizer of drawn fonts.** -/
theorem run_eq_runOver (settings : Settings) (printer : Printer) (disk : Disk) :
    run settings printer disk = runOver strikes settings printer disk := by
  unfold run runOver strikes
  cases settings.check with
  | error fault => rfl
  | ok value =>
    cases disk.openFont settings.font settings.pixelSize with
    | error cause => rfl
    | ok font =>
      simp only [Except.map, listing, Drawing.raster_ofLoader, Strike.raster]
      cases settings.listingFormat <;> rfl

/-! ### What a run needs -/

namespace Settings

/-- **The settings that are accepted.** -/
theorem check_eq_ok_iff {settings : Settings} : settings.check = .ok () ↔
    Check.path "font" settings.font = .ok () ∧
      Check.inRange "pixel_size" settings.pixelSize 1 256 = .ok () ∧
      (∃ format, settings.listingFormat = .ok format) ∧
      Check.notBlank "name" settings.name = .ok () ∧
      Check.notBlank "element_type" settings.elementType = .ok () ∧
      ∀ path, settings.output = some path → Check.path "output" path = .ok () := by
  unfold check
  simp only [bind_eq_ok_iff]
  constructor
  · rintro ⟨⟨⟩, hfont, ⟨⟩, hsize, format, hformat, ⟨⟩, hname, ⟨⟩, htype, houtput⟩
    refine ⟨hfont, hsize, ⟨format, hformat⟩, hname, htype, fun path hp => ?_⟩
    rwa [hp] at houtput
  · rintro ⟨hfont, hsize, ⟨format, hformat⟩, hname, htype, houtput⟩
    refine ⟨(), hfont, (), hsize, format, hformat, (), hname, (), htype, ?_⟩
    cases hp : settings.output with
    | none => rfl
    | some path => exact houtput path hp

/-- The listing of a run: of the table that is drawn, in the form and with the names of the settings. The
table is made without any overflow and has a glyph for each code, the packed picture that was drawn for
it, or a blank if none was. -/
def Lists (settings : Settings) (rasterizer : Rasterizer σ) (disk : Disk) (text : String) : Prop :=
  ∃ draw state format, rasterizer disk settings.font settings.pixelSize = .ok (draw, state) ∧
    settings.listingFormat = .ok format ∧
    GlyphTable.convertChecked draw.raster state = .ok (GlyphTable.convert draw.raster state) ∧
    (GlyphTable.convert draw.raster state).1.glyphs.length = 256 ∧
    (GlyphTable.convert draw.raster state).1.glyphs =
      (GlyphTable.answers draw.raster (List.range 256) state).map GlyphTable.entry ∧
    text = Listing.render format settings.names (GlyphTable.convert draw.raster state).1.glyphs

/-- A text can be put where it should go: the file can be written, or the printer takes all of it. -/
def Takes (settings : Settings) (printer : Printer) (disk : Disk) (text : String) : Prop :=
  match settings.output with
  | none => printer text.toUTF8.toList = none
  | some path => ∃ location, disk.writable path = .ok location

/-- What a run needs: settings that are accepted, a font that opens at the pixel size, and a place for
the listing. -/
structure Ready (settings : Settings) (rasterizer : Rasterizer σ) (printer : Printer) (disk : Disk) :
    Prop where
  accepted : settings.check = .ok ()
  opens : ∃ opened, rasterizer disk settings.font settings.pixelSize = .ok opened
  takes : ∀ text, settings.Lists rasterizer disk text → settings.Takes printer disk text

/-- A text has reached where it should go: it is printed, or it is all that the file of the settings
holds and the only thing that has changed. -/
def Delivers (settings : Settings) (disk : Disk) (text : String) (finish : Finish) (after : Disk) :
    Prop :=
  match settings.output with
  | none => finish.printed = text.toUTF8.toList ∧ after = disk
  | some path => finish.printed = [] ∧
      ∃ location, disk.locate? path = some location ∧ disk.HasWritten after location text

/-- The listing of a run is the only one. -/
lemma Lists.unique {settings : Settings} {rasterizer : Rasterizer σ} {disk : Disk}
    {text text' : String} (h : settings.Lists rasterizer disk text)
    (h' : settings.Lists rasterizer disk text') : text' = text := by
  obtain ⟨draw, state, format, ho, hf, -, -, -, rfl⟩ := h
  obtain ⟨draw', state', format', ho', hf', -, -, -, rfl⟩ := h'
  obtain ⟨rfl, rfl⟩ := Prod.mk.inj (Except.ok.inj (ho.symm.trans ho'))
  obtain rfl := Except.ok.inj (hf.symm.trans hf')
  rfl

end Settings

/-! ### Deliveries -/

section Deliveries

variable {settings : Settings} {printer : Printer} {disk : Disk} {text : String}

/-- **A listing that can be put where it should go** is delivered. -/
theorem deliver_of_takes (h : settings.Takes printer disk text) (notes : List Note) :
    (deliver settings printer disk notes text).1.status = 0 ∧
      settings.Delivers disk text (deliver settings printer disk notes text).1
        (deliver settings printer disk notes text).2 := by
  unfold Settings.Takes at h
  unfold Settings.Delivers
  cases hp : settings.output with
  | none =>
    rw [hp] at h
    have hprinted : deliver settings printer disk notes text =
        ({ status := 0, output := text, notes, isVerbose := settings.verbose }, disk) := by
      simp only [deliver, hp, h]
    rw [hprinted]
    exact ⟨rfl, rfl, rfl⟩
  | some path =>
    rw [hp] at h
    obtain ⟨location, hlocation⟩ := h
    obtain ⟨hlocate, -, -⟩ := Disk.writable_eq_ok_iff.1 hlocation
    have hwritten : deliver settings printer disk notes text =
        ({ status := 0, notes := notes ++ [written path], isVerbose := settings.verbose },
          disk.put location (Disk.octetsOf text)) := by
      have hput : disk.writeText path text = .ok (disk.put location (Disk.octetsOf text)) := by
        rw [Disk.writeText, hlocation]
        rfl
      simp only [deliver, hp, hput]
    rw [hwritten]
    exact ⟨rfl, Finish.printed_of_output_eq rfl, location, hlocate,
      Disk.hasWritten_put hlocation text⟩

/-- **A listing that cannot be put where it should go** ends the run. No file is changed, and of the
listing only that has got out which the printer has taken before it refuses the rest. -/
theorem deliver_of_not_takes (h : ¬ settings.Takes printer disk text) (notes : List Note) :
    (deliver settings printer disk notes text).1.status = 1 ∧
      (deliver settings printer disk notes text).2 = disk ∧
      ((deliver settings printer disk notes text).1.printed = [] ∨
        ∃ refusal, settings.output = none ∧ printer text.toUTF8.toList = some refusal ∧
          (deliver settings printer disk notes text).1.printed =
            text.toUTF8.toList.take refusal.taken) := by
  unfold Settings.Takes at h
  cases hp : settings.output with
  | none =>
    rw [hp] at h
    obtain ⟨refusal, hrefusal⟩ := Option.ne_none_iff_exists'.1 h
    have hrefused : deliver settings printer disk notes text =
        ({ failure settings notes (.print refusal.cause) with output := text, cut := refusal.taken },
          disk) := by
      simp only [deliver, hp, hrefusal]
    rw [hrefused]
    exact ⟨rfl, rfl, .inr ⟨refusal, rfl, hrefusal, rfl⟩⟩
  | some path =>
    rw [hp] at h
    cases hw : disk.writable path with
    | ok location => exact absurd ⟨location, hw⟩ h
    | error cause =>
      have hrefused : deliver settings printer disk notes text =
          (failure settings notes (.write path cause), disk) := by
        have hfails : disk.writeText path text = .error cause := by
          rw [Disk.writeText, hw]
          rfl
        simp only [deliver, hp, hfails]
      rw [hrefused]
      exact ⟨rfl, rfl, .inl (Finish.printed_of_output_eq rfl)⟩

end Deliveries

/-! ### The two ends of a run -/

section Ends

variable {rasterizer : Rasterizer σ} {settings : Settings} (printer : Printer) {disk : Disk}

/-- With settings that are accepted and a font that opens, a run comes to the delivery of its listing. The
form is read once more after the check, and is there since the check has read it already. -/
lemma runOver_of_opened (hc : settings.check = .ok ())
    (ho : ∃ opened, rasterizer disk settings.font settings.pixelSize = .ok opened) :
    ∃ notes text, settings.Lists rasterizer disk text ∧
      runOver rasterizer settings printer disk = deliver settings printer disk notes text := by
  obtain ⟨⟨draw, state⟩, ho⟩ := ho
  obtain ⟨-, -, ⟨format, hf⟩, -⟩ := Settings.check_eq_ok_iff.1 hc
  have hrun : ∃ notes, runOver rasterizer settings printer disk = deliver settings printer disk notes
      (Listing.render format settings.names (GlyphTable.convert draw.raster state).1.glyphs) := by
    rw [runOver, hc]
    simp only [ho, hf]
    exact ⟨_, rfl⟩
  obtain ⟨notes, hrun⟩ := hrun
  exact ⟨notes, _, ⟨draw, state, format, ho, hf, draw.convertChecked_raster state,
    GlyphTable.length_glyphs_convert draw.raster state, GlyphTable.glyphs_convert draw.raster state,
    rfl⟩, hrun⟩

/-- A run with settings that are not accepted, or with a font that does not open, prints nothing and
leaves all files alone. -/
lemma runOver_of_not_opened (h : settings.check = .ok () →
      ¬ ∃ opened, rasterizer disk settings.font settings.pixelSize = .ok opened) :
    (runOver rasterizer settings printer disk).1.status = 1 ∧
      (runOver rasterizer settings printer disk).1.printed = [] ∧
      (runOver rasterizer settings printer disk).2 = disk := by
  cases hc : settings.check with
  | error fault => simp [runOver, hc, Finish.printed_of_output_eq]
  | ok value =>
    cases ho : rasterizer disk settings.font settings.pixelSize with
    | ok opened => exact absurd ⟨opened, ho⟩ (h hc)
    | error cause => simp [runOver, hc, ho, failure, Finish.printed_of_output_eq]

/-- **What a run needs if everything is taken that it prints**: of the places for the listing only a file
can be missing then. -/
theorem Settings.ready_willing_iff :
    settings.Ready rasterizer .willing disk ↔ settings.check = .ok () ∧
      (∃ opened, rasterizer disk settings.font settings.pixelSize = .ok opened) ∧
      ∀ path, settings.output = some path → ∃ location, disk.writable path = .ok location := by
  constructor
  · rintro ⟨hc, ho, htakes⟩
    refine ⟨hc, ho, fun path hp => ?_⟩
    obtain ⟨-, text, hlists, -⟩ := runOver_of_opened .willing hc ho
    have hplace := htakes text hlists
    rwa [Takes, hp] at hplace
  · rintro ⟨hc, ho, hplace⟩
    refine ⟨hc, ho, fun text _ => ?_⟩
    unfold Takes
    cases hp : settings.output with
    | none => rfl
    | some path => exact hplace path hp

end Ends

/-! ### What the status tells -/

/-- What a run leaves, told by its status: everything with status 0, nothing with status 1. -/
structure AllOrNothing (rasterizer : Rasterizer σ) (settings : Settings) (printer : Printer)
    (disk : Disk) (finish : Finish) (after : Disk) : Prop where
  /-- Status 0 comes exactly if the run has what it needs, and there is no status but 0 and 1. -/
  zero_iff : finish.status = 0 ↔ settings.Ready rasterizer printer disk
  one_of_ne_zero : finish.status ≠ 0 → finish.status = 1
  /-- Status 0: the listing is delivered. -/
  all : finish.status = 0 →
    ∃ text, settings.Lists rasterizer disk text ∧ settings.Delivers disk text finish after
  /-- Status 1: the disk is as it was. -/
  unchanged : finish.status = 1 → after = disk
  /-- And nothing is printed, unless a printer has taken a part of the listing that it refuses. -/
  nothing : finish.status = 1 → finish.printed = [] ∨
    ∃ text refusal, settings.Lists rasterizer disk text ∧ settings.output = none ∧
      printer text.toUTF8.toList = some refusal ∧
      finish.printed = text.toUTF8.toList.take refusal.taken

/-- With status 1 nothing is printed if the printer takes nothing of what it refuses. -/
lemma AllOrNothing.printed_eq {rasterizer : Rasterizer σ} {settings : Settings} {printer : Printer}
    {disk after : Disk} {finish : Finish}
    (h : AllOrNothing rasterizer settings printer disk finish after) (hwhole : printer.RefusesWhole)
    (hone : finish.status = 1) : finish.printed = [] := by
  rcases h.nothing hone with hnothing | ⟨text, refusal, -, -, hrefusal, hprinted⟩
  · exact hnothing
  · rw [hprinted, hwhole _ _ hrefusal, List.take_zero]

/-- A run with any rasterizer delivers all or nothing. -/
lemma allOrNothing_runOver (rasterizer : Rasterizer σ) (settings : Settings) (printer : Printer)
    (disk : Disk) :
    AllOrNothing rasterizer settings printer disk (runOver rasterizer settings printer disk).1
      (runOver rasterizer settings printer disk).2 := by
  by_cases hopens : settings.check = .ok () ∧
      ∃ opened, rasterizer disk settings.font settings.pixelSize = .ok opened
  · obtain ⟨notes, text, hlists, hrun⟩ := runOver_of_opened printer hopens.1 hopens.2
    rw [hrun]
    by_cases htakes : settings.Takes printer disk text
    · obtain ⟨hzero, hdelivers⟩ := deliver_of_takes htakes notes
      exact {
        zero_iff := iff_of_true hzero
          ⟨hopens.1, hopens.2, fun text' hlists' => hlists.unique hlists' ▸ htakes⟩
        one_of_ne_zero := fun hne => absurd hzero hne
        all := fun _ => ⟨text, hlists, hdelivers⟩
        unchanged := fun hone => by omega
        nothing := fun hone => by omega }
    · obtain ⟨hone, hdisk, hprinted⟩ := deliver_of_not_takes htakes notes
      have hne : (deliver settings printer disk notes text).1.status ≠ 0 := by omega
      exact {
        zero_iff := iff_of_false hne fun hready => htakes (hready.takes text hlists)
        one_of_ne_zero := fun _ => hone
        all := fun hzero => absurd hzero hne
        unchanged := fun _ => hdisk
        nothing := fun _ => hprinted.imp_right fun hrefused => by
          obtain ⟨refusal, hp, hrefusal, hprinted⟩ := hrefused
          exact ⟨text, refusal, hlists, hp, hrefusal, hprinted⟩ }
  · obtain ⟨hone, hprinted, hdisk⟩ := runOver_of_not_opened printer (not_and.1 hopens)
    have hne : (runOver rasterizer settings printer disk).1.status ≠ 0 := by omega
    exact {
      zero_iff := iff_of_false hne fun hready => hopens ⟨hready.accepted, hready.opens⟩
      one_of_ne_zero := fun _ => hone
      all := fun hzero => absurd hzero hne
      unchanged := fun _ => hdisk
      nothing := fun _ => .inl hprinted }

/-- **The font tool delivers all or nothing.** For all arguments that are accepted, on every disk and with
every printer, a run touches nothing but the disk. If it has a filter for its log, it ends with status 0
or 1. It ends with status 0 exactly if the settings pass their check, the font opens at the pixel size,
and the listing can be put where it should go: the file, if one is given, can be written, or else the
printer takes it; a printer that takes everything leaves only the file in question. Then the listing of
all 256 glyphs is printed, or it is all that the file holds, with nothing printed and nothing else
changed. With status 1 no file is changed, and nothing is printed, but for what a printer has taken of a
listing that it refuses. Without a filter for its log a run breaks off, with nothing printed and no file
changed. The same holds whatever opens and draws the fonts, so that no glyph that cannot be drawn makes a
run fail.

**Proof sketch.** A run whose settings are accepted and whose font opens comes to a delivery
(`runOver_of_opened`), which succeeds or leaves the files (`deliver_of_takes`, `deliver_of_not_takes`).
Any other one stops before it has changed anything (`runOver_of_not_opened`). The tool is such a run
(`run_eq_runOver`). -/
theorem run_allOrNothing {arguments : List String} {settings : Settings}
    (h : Settings.read arguments = .ok settings) (surroundings : Surroundings) :
    (∃ finish after,
      Tool.font.run arguments surroundings = .ok (finish, { surroundings with disk := after }) ∧
      (surroundings.reader.Answers surroundings.environment →
        AllOrNothing strikes settings surroundings.printer surroundings.disk finish after ∧
        (surroundings.printer.RefusesWhole → finish.status = 1 → finish.printed = []) ∧
        (surroundings.printer = .willing → (finish.status = 0 ↔ settings.check = .ok () ∧
          (∃ font, surroundings.disk.openFont settings.font settings.pixelSize = .ok font) ∧
          ∀ path, settings.output = some path →
            ∃ location, surroundings.disk.writable path = .ok location))) ∧
      (¬ surroundings.reader.Answers surroundings.environment →
        finish.status = 101 ∧ finish.printed = [] ∧ after = surroundings.disk)) ∧
    ∀ (σ : Type) (rasterizer : Rasterizer σ),
      AllOrNothing rasterizer settings surroundings.printer surroundings.disk
        (runOver rasterizer settings surroundings.printer surroundings.disk).1
        (runOver rasterizer settings surroundings.printer surroundings.disk).2 := by
  refine ⟨?_, fun σ rasterizer =>
    allOrNothing_runOver rasterizer settings surroundings.printer surroundings.disk⟩
  have hrun : Tool.font.run arguments surroundings =
      .ok (surroundings.log settings.verbose
        ((run settings surroundings.printer surroundings.disk).1,
          { surroundings with disk := (run settings surroundings.printer surroundings.disk).2 })) := by
    rw [Tool.run, h]
    rfl
  by_cases hanswers : surroundings.reader.Answers surroundings.environment
  · rw [Surroundings.log_of_answers hanswers] at hrun
    have hends : AllOrNothing strikes settings surroundings.printer surroundings.disk
        (run settings surroundings.printer surroundings.disk).1
        (run settings surroundings.printer surroundings.disk).2 := by
      rw [run_eq_runOver]
      exact allOrNothing_runOver strikes settings surroundings.printer surroundings.disk
    refine ⟨_, _, hrun, fun _ => ⟨hends, hends.printed_eq, fun hwilling => ?_⟩,
      fun hnot => absurd hanswers hnot⟩
    rw [hends.zero_iff, hwilling, Settings.ready_willing_iff, exists_strikes_eq_ok_iff]
  · rw [Surroundings.log_of_not_answers hanswers] at hrun
    exact ⟨_, surroundings.disk, hrun, fun hyes => absurd hyes hanswers,
      fun _ => ⟨rfl, Finish.printed_of_output_eq rfl, rfl⟩⟩

/-- A font of which no glyph can be drawn, with a printer that takes nothing. Listed into a file that is
there already, the file holds a listing of 256 blanks, and the font is as it was. Listed in print, the run
fails with nothing printed. -/
theorem run_allOrNothing_undrawable :
    let font : Strike := { pixelSize := 2, bitsPerPixel := 4, glyphs := [⟨65, 2, [[0xFF], [0xFF]]⟩] }
    let disk : Disk :=
      { entries :=
          [ (["f"], .directory),
            (["f", "dim.otb"], .file (.font font)),
            (["f", "dim.json"], .file (Disk.octetsOf "[]")) ]
        start := ["f"] }
    let surroundings : Surroundings :=
      { environment := Environment.ofPairs []
        disk
        network := { interfaces := [] }
        printer := fun _ => some { taken := 0, cause := .number 28 } }
    let arguments := ["-f", "dim.otb", "--pixel-size", "2", "--format", "JSON"]
    let settings : Settings :=
      { font := "dim.otb", pixelSize := 2, format := "JSON", name := "font", elementType := "U8",
        output := none, verbose := false }
    (Settings.read arguments = .ok settings ∧
      Settings.read (arguments ++ ["-o", "./dim.json"]) =
        .ok { settings with output := some "./dim.json" } ∧
      surroundings.printer.RefusesWhole) ∧
    (∃ finish after,
      Tool.font.run (arguments ++ ["-o", "./dim.json"]) surroundings =
        .ok (finish, { surroundings with disk := after }) ∧
      finish.status = 0 ∧ finish.printed = [] ∧
      disk.HasWritten after ["f", "dim.json"]
        (Listing.render .json settings.names (List.replicate 256 Glyph.blank))) ∧
    ∃ finish, Tool.font.run arguments surroundings = .ok (finish, surroundings) ∧
      finish.status = 1 ∧ finish.printed = [] := by
  intro font disk surroundings arguments settings
  have hprint : Settings.read arguments = .ok settings := by decide +kernel
  have hfile : Settings.read (arguments ++ ["-o", "./dim.json"]) =
      .ok { settings with output := some "./dim.json" } := by decide +kernel
  have hwhole : surroundings.printer.RefusesWhole := by
    rintro octets refusal hrefusal
    obtain rfl := Option.some.inj hrefusal
    rfl
  have hanswers : surroundings.reader.Answers surroundings.environment := fun _ htext => by
    simp [surroundings, Environment.ofPairs, Environment.get?] at htext
  have hopen : strikes disk settings.font settings.pixelSize = .ok (.ofLoader font.loader, ()) := by
    have hfont : disk.openFont settings.font settings.pixelSize = .ok font := by decide +kernel
    rw [strikes, hfont]
    rfl
  have hblank : (GlyphTable.convert font.raster ()).1.glyphs = List.replicate 256 Glyph.blank := by
    decide +kernel
  refine ⟨⟨hprint, hfile, hwhole⟩, ?_, ?_⟩
  · have hplace : disk.writable "./dim.json" = .ok ["f", "dim.json"] := by decide +kernel
    obtain ⟨⟨finish, after, hrun, hends, -⟩, -⟩ := run_allOrNothing hfile surroundings
    obtain ⟨hends, -⟩ := hends hanswers
    have hzero : finish.status = 0 := hends.zero_iff.2
      { accepted := by decide +kernel
        opens := ⟨_, hopen⟩
        takes := fun _ _ => ⟨_, hplace⟩ }
    obtain ⟨text, ⟨draw, state, format, hopened, hformat, -, -, -, rfl⟩, hprinted, location, hlocate,
      hwritten⟩ := hends.all hzero
    obtain ⟨rfl, rfl⟩ := Prod.mk.inj (Except.ok.inj (hopen.symm.trans hopened))
    obtain rfl : Listing.Format.json = format :=
      Except.ok.inj ((by decide +kernel : settings.listingFormat = .ok .json).symm.trans hformat)
    obtain rfl : ["f", "dim.json"] = location :=
      Option.some.inj ((Disk.writable_eq_ok_iff.1 hplace).1.symm.trans hlocate)
    rw [Drawing.raster_ofLoader, ← Strike.raster, hblank] at hwritten
    exact ⟨finish, after, hrun, hzero, hprinted, hwritten⟩
  · obtain ⟨⟨finish, after, hrun, hends, -⟩, -⟩ := run_allOrNothing hprint surroundings
    obtain ⟨hends, hnothing, -⟩ := hends hanswers
    have hrefused : ∀ text, ¬ settings.Takes surroundings.printer disk text := fun text => by
      simp [Settings.Takes, settings, surroundings]
    have hone : finish.status = 1 := hends.one_of_ne_zero fun hzero => by
      obtain ⟨text, hlists, -⟩ := hends.all hzero
      exact hrefused text ((hends.zero_iff.1 hzero).takes text hlists)
    obtain rfl : after = disk := hends.unchanged hone
    exact ⟨finish, hrun, hone, hnothing hwhole hone⟩

end FontTool

end Workbench
