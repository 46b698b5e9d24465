import Mathlib.Tactic.Lemma
import Workbench.Net.Sender

set_option relaxedAutoImplicit false
set_option autoImplicit false

/-!
# Runs of a sender

A sender goes through operations that change what it puts on frames, build frames, or send them over a
link that stops taking frames at some call. Here is what every run leaves on the link, and what every
operation does after any run, in terms of the operations before it.

## Main definitions

* `Workbench.Sender.after`, `Workbench.Sender.history` — a run: the sender after it, and what each
  operation answered.
* `Workbench.Sender.lastSource`, `Workbench.Sender.lastEthertype` — what operations set last.
* `Workbench.Sender.ActsAfter` — what an operation does after others.

## Main results

* `Workbench.Sender.sent_after`, `Workbench.Sender.calls_after` — the link after a run.
* `Workbench.Sender.source_after`, `Workbench.Sender.ethertype_after` — the sender after a run.
* `Workbench.Sender.run_actsAfter` — both together, for runs from a link.

## Design

The link keeps the history of its calls, so that nothing has to be assumed about it: the statements hold
for a link that was used before as well as for a fresh one, where what is there before is empty.
-/

namespace Workbench

/-! ### One call of the link -/

namespace Link

variable {link : Link} {bs : List UInt8}

/-- A link that is down counts the call and lets nothing through. -/
lemma transmit_of_isDown (h : link.isDown = true) : link.transmit bs =
    (.error (.transmission link.name link.complaint), { link with calls := link.calls + 1 }) := by
  rw [transmit, if_pos h]

/-- A link that is up counts the call and keeps the octets. -/
lemma transmit_of_not_isDown (h : link.isDown = false) : link.transmit bs =
    (.ok (), { link with calls := link.calls + 1, sent := link.sent ++ [bs] }) := by
  rw [transmit, if_neg (by simp [h])]

/-- Every call is counted. -/
lemma calls_transmit : (link.transmit bs).2.calls = link.calls + 1 := by
  unfold transmit
  split <;> rfl

/-- A call changes neither the name, nor the address, nor when the link fails. -/
lemma transmit_keeps : (link.transmit bs).2.name = link.name ∧
    (link.transmit bs).2.address = link.address ∧
    (link.transmit bs).2.failsFrom = link.failsFrom ∧
    (link.transmit bs).2.complaint = link.complaint := by
  unfold transmit
  split <;> exact ⟨rfl, rfl, rfl, rfl⟩

/-- A link is down from the call of its number on. -/
lemma isDown_iff : link.isDown = true ↔ ∃ n, link.failsFrom = some n ∧ n ≤ link.calls := by
  unfold isDown
  split
  · next n hn => simp [hn]
  · next hn => simp [hn]

end Link

namespace Sender

variable {sender : Sender}

/-! ### One operation -/

/-- A frame that is built has what was asked for, the sender's type and its source address. -/
lemma build_eq_ok_iff {destination : MacAddress} {payload : List UInt8} {frame : Frame} :
    sender.build destination payload = .ok frame ↔
      frame.destination = destination ∧ sender.sourceAddress = .ok frame.source ∧
        frame.ethertype = sender.ethertype ∧ frame.payload = payload := by
  obtain ⟨destination', source', ethertype', payload'⟩ := frame
  unfold build
  cases sender.sourceAddress with
  | error fault => simp [Except.map]
  | ok source =>
    simp only [Except.map, Except.ok.injEq, Frame.mk.injEq]
    grind

/-- A frame cannot be built exactly if the source address cannot be had. -/
lemma build_eq_error_iff {destination : MacAddress} {payload : List UInt8} {fault : Fault} :
    sender.build destination payload = .error fault ↔ sender.sourceAddress = .error fault := by
  unfold build
  cases sender.sourceAddress <;> simp [Except.map]

/-- A frame that was built is handed to the link once, and the answer is that of the link. -/
lemma send_of_build_ok {destination : MacAddress} {payload : List UInt8} {frame : Frame}
    (h : sender.build destination payload = .ok frame) :
    (sender.send destination payload).1 = (sender.link.transmit frame.toOctets).1.map (fun _ => frame) ∧
      (sender.send destination payload).2.2 =
        { sender with link := (sender.link.transmit frame.toOctets).2 } := by
  unfold send
  rw [h]
  cases hdown : sender.link.isDown with
  | true => simp [Link.transmit_of_isDown hdown, Except.map]
  | false => simp [Link.transmit_of_not_isDown hdown, Except.map]

/-- A frame that cannot be built is not handed to the link. -/
lemma send_of_build_error {destination : MacAddress} {payload : List UInt8} {fault : Fault}
    (h : sender.build destination payload = .error fault) :
    sender.send destination payload = (.error fault, [], sender) := by
  unfold send
  rw [h]

/-- Sending fails if the source address cannot be had, or else if the link is down. -/
lemma send_eq_error_iff {destination : MacAddress} {payload : List UInt8} {fault : Fault} :
    (sender.send destination payload).1 = .error fault ↔
      sender.sourceAddress = .error fault ∨
        (∃ address, sender.sourceAddress = .ok address) ∧ sender.link.isDown = true ∧
          fault = .transmission sender.link.name sender.link.complaint := by
  cases hb : sender.build destination payload with
  | error other =>
    rw [send_of_build_error hb, build_eq_error_iff.1 hb]
    simp
  | ok frame =>
    obtain ⟨-, hs, -⟩ := build_eq_ok_iff.1 hb
    rw [(send_of_build_ok hb).1, hs]
    cases hdown : sender.link.isDown with
    | true => simp [Link.transmit_of_isDown hdown, Except.map, eq_comm]
    | false => simp [Link.transmit_of_not_isDown hdown, Except.map]

namespace Step

/-- The source address that an operation sets, if it sets any: an address, or that of the link. -/
def source? : Step → Option (Option MacAddress)
  | .withSource none => some none
  | .withSource (some text) => (MacAddress.read text).toOption.map some
  | _ => none

/-- The type that an operation sets, if it sets any. -/
def ethertype? : Step → Option UInt16
  | .withEthertype ethertype => some ethertype
  | _ => none

end Step

/-- A sending operation whose destination can be read, while the source address can be had. -/
def callsLink (sender : Sender) : Step → Bool
  | .send destination _ => (MacAddress.read destination).isOk && sender.sourceAddress.isOk
  | _ => false

/-- The frame of a sending operation that succeeded. -/
def sentFrame? : Step → Except Fault Answer → Option Frame
  | .send _ _, .ok (.frame frame) => some frame
  | _, _ => none

/-- What an operation can do: set something, ask for the source address, be refused, build a frame, or
hand one to the link. -/
inductive Act (sender : Sender) : Step → Except Fault Answer → Sender → Prop where
  /-- The source address is set. -/
  | source {step : Step} {source : Option MacAddress} (hs : step.source? = some source)
    (he : step.ethertype? = none) (hc : sender.callsLink step = false) :
    Act sender step (.ok .done) (sender.withSource source)
  /-- The type is set. -/
  | ethertype (ethertype : UInt16) :
    Act sender (.withEthertype ethertype) (.ok .done) (sender.withEthertype ethertype)
  /-- The source address is asked for. -/
  | asked : Act sender .sourceAddress (sender.sourceAddress.map .address) sender
  /-- An address cannot be read, or the source address of a frame cannot be had. -/
  | refused {step : Step} {fault : Fault} (hs : step.source? = none) (he : step.ethertype? = none)
    (hc : sender.callsLink step = false) : Act sender step (.error fault) sender
  /-- A frame is built. -/
  | built {destination : String} {payload : List UInt8} {address : MacAddress} {frame : Frame}
    (hr : MacAddress.read destination = .ok address) (hb : sender.build address payload = .ok frame) :
    Act sender (.build destination payload) (.ok (.frame frame)) sender
  /-- A frame is handed to the link. -/
  | handed {destination : String} {payload : List UInt8} {address : MacAddress} {frame : Frame}
    (hr : MacAddress.read destination = .ok address) (hb : sender.build address payload = .ok frame) :
    Act sender (.send destination payload)
      ((sender.link.transmit frame.toOctets).1.map fun _ => .frame frame)
      { sender with link := (sender.link.transmit frame.toOctets).2 }

/-- **Every operation does one of these things.** -/
theorem act_perform (sender : Sender) (step : Step) :
    Act sender step (sender.perform step).1 (sender.perform step).2.2 := by
  cases step with
  | withSource source =>
    cases source with
    | none => exact .source rfl rfl rfl
    | some text =>
      cases hr : MacAddress.read text with
      | ok address =>
        rw [perform, hr]
        exact .source (by simp [Step.source?, hr, Except.toOption]) rfl rfl
      | error fault =>
        rw [perform, hr]
        exact .refused (by simp [Step.source?, hr, Except.toOption]) rfl rfl
  | withEthertype ethertype => exact .ethertype ethertype
  | sourceAddress => exact .asked
  | build destination payload =>
    cases hr : MacAddress.read destination with
    | error fault =>
      rw [perform, hr]
      exact .refused rfl rfl rfl
    | ok address =>
      rw [perform, hr]
      cases hb : sender.build address payload with
      | error fault =>
        simp only [hb, Except.map]
        exact .refused rfl rfl rfl
      | ok frame =>
        simp only [hb, Except.map]
        exact .built hr hb
  | send destination payload =>
    cases hr : MacAddress.read destination with
    | error fault =>
      rw [perform, hr]
      exact .refused rfl rfl (by simp [callsLink, hr, Except.isOk, Except.toBool])
    | ok address =>
      rw [perform, hr]
      cases hb : sender.build address payload with
      | error fault =>
        have hs := build_eq_error_iff.1 hb
        simp only [send_of_build_error hb, Except.map]
        exact .refused rfl rfl (by simp [callsLink, hs, Except.isOk, Except.toBool])
      | ok frame =>
        obtain ⟨hanswer, hnext⟩ := send_of_build_ok hb
        simp only [hanswer, hnext]
        have hmap : ((sender.link.transmit frame.toOctets).1.map fun _ => frame).map Answer.frame =
            (sender.link.transmit frame.toOctets).1.map fun _ => .frame frame := by
          cases (sender.link.transmit frame.toOctets).1 <;> rfl
        rw [hmap]
        exact .handed hr hb

/-! ### What an operation leaves -/

section Act

variable {step : Step} {answer : Except Fault Answer} {next : Sender} (h : Act sender step answer next)

include h

/-- The source address is the one that the operation sets, or else the one of before. -/
lemma Act.source_eq : next.source = step.source?.getD sender.source := by
  cases h with
  | source hs he hc => simp [hs, withSource]
  | refused hs he hc => simp [hs]
  | _ => rfl

/-- The type is the one that the operation sets, or else the one of before. -/
lemma Act.ethertype_eq : next.ethertype = step.ethertype?.getD sender.ethertype := by
  cases h with
  | source hs he hc => simp [he, withSource]
  | refused hs he hc => simp [he]
  | _ => rfl

/-- The link is called by the sending operations that hand it a frame. -/
lemma Act.calls_eq :
    next.link.calls = sender.link.calls + if sender.callsLink step then 1 else 0 := by
  cases h with
  | source hs he hc => simp [hc, withSource]
  | refused hs he hc => simp [hc]
  | handed hr hb =>
    obtain ⟨-, hs, -⟩ := build_eq_ok_iff.1 hb
    simp [callsLink, hr, hs, Except.isOk, Except.toBool, Link.calls_transmit]
  | _ => rfl

/-- The link lets the frame of a successful sending operation through, and nothing else. -/
lemma Act.sent_eq :
    next.link.sent = sender.link.sent ++ (sentFrame? step answer).toList.map Frame.toOctets := by
  cases h with
  | handed hr hb =>
    rename_i frame
    cases hdown : sender.link.isDown with
    | true => simp [Link.transmit_of_isDown hdown, Except.map, sentFrame?]
    | false => simp [Link.transmit_of_not_isDown hdown, Except.map, sentFrame?]
  | source hs he hc => simp [sentFrame?, withSource]
  | _ => simp [sentFrame?, withEthertype]

/-- What the link is does not change. -/
lemma Act.link_keeps : next.link.name = sender.link.name ∧ next.link.address = sender.link.address ∧
    next.link.failsFrom = sender.link.failsFrom ∧ next.link.complaint = sender.link.complaint := by
  cases h with
  | handed hr hb => exact Link.transmit_keeps
  | _ => exact ⟨rfl, rfl, rfl, rfl⟩

/-- An operation that fails leaves the source address, the type and the frames that went through. -/
lemma Act.keeps_of_error {fault : Fault} (hf : answer = .error fault) :
    next.source = sender.source ∧ next.ethertype = sender.ethertype ∧
      next.link.sent = sender.link.sent := by
  cases h with
  | asked => exact ⟨rfl, rfl, rfl⟩
  | refused hs he hc => exact ⟨rfl, rfl, rfl⟩
  | handed hr hb =>
    rename_i frame
    refine ⟨rfl, rfl, ?_⟩
    cases hdown : sender.link.isDown with
    | true => rw [Link.transmit_of_isDown hdown]
    | false => simp [Link.transmit_of_not_isDown hdown, Except.map] at hf
  | _ => simp at hf

/-- A frame that building or sending answers has what was asked for, and the sender's own. -/
lemma Act.frame_eq {destination : String} {payload : List UInt8} {frame : Frame}
    (hstep : step = .build destination payload ∨ step = .send destination payload)
    (ha : answer = .ok (.frame frame)) :
    MacAddress.read destination = .ok frame.destination ∧
      sender.sourceAddress = .ok frame.source ∧
      frame.ethertype = sender.ethertype ∧ frame.payload = payload := by
  cases h with
  | asked => simp at hstep
  | built hr hb =>
    obtain rfl := Answer.frame.inj (Except.ok.inj ha)
    obtain ⟨rfl, rfl⟩ : _ = destination ∧ _ = payload := by simpa using hstep
    obtain ⟨rfl, hs, he, hp⟩ := build_eq_ok_iff.1 hb
    exact ⟨hr, hs, he, hp⟩
  | @handed _ _ _ handed hr hb =>
    obtain ⟨rfl, rfl⟩ : _ = destination ∧ _ = payload := by simpa using hstep
    obtain rfl : handed = frame := by
      cases hdown : sender.link.isDown with
      | true => simp [Link.transmit_of_isDown hdown, Except.map] at ha
      | false => simpa [Link.transmit_of_not_isDown hdown, Except.map] using ha
    obtain ⟨rfl, hs, he, hp⟩ := build_eq_ok_iff.1 hb
    exact ⟨hr, hs, he, hp⟩
  | _ => simp at ha

end Act

/-! ### Runs -/

/-- An operation of a run: the sender that it found, and what it answered. -/
structure Performed where
  found : Sender
  step : Step
  answer : Except Fault Answer

/-- The sender after some operations. -/
def after (sender : Sender) : List Step → Sender
  | [] => sender
  | step :: steps => (sender.perform step).2.2.after steps

/-- The operations of a run, in order. -/
def history (sender : Sender) : List Step → List Performed
  | [] => []
  | step :: steps =>
    ⟨sender, step, (sender.perform step).1⟩ :: (sender.perform step).2.2.history steps

/-- The frames of the sending operations of a run that succeeded, in order. -/
def sentFrames (sender : Sender) (steps : List Step) : List Frame :=
  (sender.history steps).filterMap fun done => sentFrame? done.step done.answer

/-- How many operations of a run call the link. -/
def linkCalls (sender : Sender) (steps : List Step) : Nat :=
  (sender.history steps).countP fun done => done.found.callsLink done.step

/-- **What went through the link in a run**: the octets of the frames that sending answered. -/
theorem sent_after (sender : Sender) (steps : List Step) :
    (sender.after steps).link.sent =
      sender.link.sent ++ (sender.sentFrames steps).map Frame.toOctets := by
  induction steps generalizing sender with
  | nil => simp [after, sentFrames, history]
  | cons step steps ih =>
    have hstep := (act_perform sender step).sent_eq
    rw [after, ih, hstep, sentFrames, sentFrames, history, List.filterMap_cons]
    cases sentFrame? step (sender.perform step).1 <;> simp

/-- **How often the link is called in a run**. -/
theorem calls_after (sender : Sender) (steps : List Step) :
    (sender.after steps).link.calls = sender.link.calls + sender.linkCalls steps := by
  induction steps generalizing sender with
  | nil => simp [after, linkCalls, history]
  | cons step steps ih =>
    have hstep := (act_perform sender step).calls_eq
    rw [after, ih, hstep, linkCalls, linkCalls, history, List.countP_cons]
    dsimp only
    omega

/-- A run does not change what the link is. -/
lemma link_after_keeps (sender : Sender) (steps : List Step) :
    (sender.after steps).link.name = sender.link.name ∧
      (sender.after steps).link.address = sender.link.address ∧
      (sender.after steps).link.failsFrom = sender.link.failsFrom ∧
      (sender.after steps).link.complaint = sender.link.complaint := by
  induction steps generalizing sender with
  | nil => exact ⟨rfl, rfl, rfl, rfl⟩
  | cons step steps ih =>
    obtain ⟨hname, haddress, hfails, hcomplaint⟩ := (act_perform sender step).link_keeps
    rw [after, ← hname, ← haddress, ← hfails, ← hcomplaint]
    exact ih _

/-- What only some operations set is, after a run, what was set last, or else what was there before. -/
lemma field_after {α : Type} {field : Sender → α} {sets? : Step → Option α}
    (hstep : ∀ sender step, field (sender.perform step).2.2 = (sets? step).getD (field sender))
    (sender : Sender) (steps : List Step) :
    field (sender.after steps) = ((steps.filterMap sets?).getLast?).getD (field sender) := by
  induction steps generalizing sender with
  | nil => rfl
  | cons step steps ih =>
    rw [after, ih, hstep, List.filterMap_cons]
    cases sets? step <;> simp [List.getLast?_cons]

/-- **The source address of a sender after a run**: the one set last, or else the one of before. -/
theorem source_after (sender : Sender) (steps : List Step) :
    (sender.after steps).source = ((steps.filterMap Step.source?).getLast?).getD sender.source :=
  field_after (fun sender step => (act_perform sender step).source_eq) sender steps

/-- **The type of a sender after a run**: the one set last, or else the one of before. -/
theorem ethertype_after (sender : Sender) (steps : List Step) :
    (sender.after steps).ethertype =
      ((steps.filterMap Step.ethertype?).getLast?).getD sender.ethertype :=
  field_after (fun sender step => (act_perform sender step).ethertype_eq) sender steps

/-! ### Runs from a link -/

/-- The source address that operations set last; none if there is no such operation, or if the last one
chose the address of the link. -/
def lastSource (steps : List Step) : Option MacAddress :=
  ((steps.filterMap Step.source?).getLast?).getD none

/-- The type that operations set last, or the one that a sender starts with. -/
def lastEthertype (steps : List Step) : UInt16 :=
  ((steps.filterMap Step.ethertype?).getLast?).getD Ethertype.loopback

/-- The source address of frames after some operations: the one set last, or else that of the link. -/
def sourceOn (link : Link) (earlier : List Step) : Except Fault MacAddress :=
  match lastSource earlier with
  | some address => .ok address
  | none => link.address

/-- What an operation does to a sender that earlier operations on a link have left. -/
structure ActsAfter (link : Link) (earlier : List Step) (sender : Sender) (step : Step) : Prop where
  /-- The source address that frames get. -/
  sourceAddress_eq : sender.sourceAddress = sourceOn link earlier
  /-- The link fails from the call of its number on. -/
  isDown_iff : sender.link.isDown = true ↔ ∃ n, link.failsFrom = some n ∧ n ≤ sender.link.calls
  /-- A sending operation calls the link once, if its destination can be read while the source address
  can be had. Nothing else calls the link. -/
  calls_eq : (sender.perform step).2.2.link.calls =
    sender.link.calls + if sender.callsLink step then 1 else 0
  /-- A frame that building or sending answers has what was asked for, and what was set last. -/
  frame_eq : ∀ destination payload frame,
    step = .build destination payload ∨ step = .send destination payload →
    (sender.perform step).1 = .ok (.frame frame) →
    MacAddress.read destination = .ok frame.destination ∧
      sourceOn link earlier = .ok frame.source ∧
      frame.ethertype = lastEthertype earlier ∧
      frame.payload = payload
  /-- Sending answers what building would answer, unless it calls the link while that is down. -/
  send_eq : ∀ destination payload, step = .send destination payload →
    (sender.perform step).1 =
      if sender.callsLink step = true ∧ sender.link.isDown = true then
        .error (.transmission link.name link.complaint)
      else (sender.perform (.build destination payload)).1
  /-- A failing operation changes nothing but the count of calls. -/
  keeps_of_error : ∀ fault, (sender.perform step).1 = .error fault →
    (sender.perform step).2.2.source = sender.source ∧
      (sender.perform step).2.2.ethertype = sender.ethertype ∧
      (sender.perform step).2.2.link.sent = sender.link.sent

/-- Building answers what the sender has built, or the fault of an address. -/
lemma perform_build_eq (sender : Sender) {destination : String} {address : MacAddress}
    (hr : MacAddress.read destination = .ok address) (payload : List UInt8) :
    (sender.perform (.build destination payload)).1 = (sender.build address payload).map .frame := by
  rw [perform, hr]

/-- Sending answers what building would answer, unless it calls the link while that is down. -/
lemma perform_send_eq (sender : Sender) (destination : String) (payload : List UInt8) :
    (sender.perform (.send destination payload)).1 =
      if sender.callsLink (.send destination payload) = true ∧ sender.link.isDown = true then
        .error (.transmission sender.link.name sender.link.complaint)
      else (sender.perform (.build destination payload)).1 := by
  cases hr : MacAddress.read destination with
  | error fault => simp [perform, callsLink, hr, Except.isOk, Except.toBool]
  | ok address =>
    rw [sender.perform_build_eq hr]
    cases hb : sender.build address payload with
    | error fault =>
      have hs := build_eq_error_iff.1 hb
      simp [perform, callsLink, hr, hs, send_of_build_error hb, Except.isOk, Except.toBool, Except.map]
    | ok frame =>
      obtain ⟨-, hs, -⟩ := build_eq_ok_iff.1 hb
      cases hdown : sender.link.isDown with
      | true => simp [perform, callsLink, hr, hs, (send_of_build_ok hb).1,
          Link.transmit_of_isDown hdown, Except.isOk, Except.toBool, Except.map]
      | false => simp [perform, hr, (send_of_build_ok hb).1,
          Link.transmit_of_not_isDown hdown, Except.map]

/-- **Runs of a sender on a link.** After every run, what went through the link is, in order, the octets
of the frames that the sending operations answered; and the link was called as often as a sending
operation had a destination that can be read and a source address. Whatever operation comes next does
what `ActsAfter` says.

**Proof sketch.** Both counts grow with each operation as it acts (`sent_after`, `calls_after`). The
source address and the type of the sender are those set last (`source_after`, `ethertype_after`), and
the frames that it builds have them (`build_eq_ok_iff`). -/
theorem run_actsAfter (link : Link) (steps : List Step) :
    let sender : Sender := { link }
    (sender.after steps).link.sent = link.sent ++ (sender.sentFrames steps).map Frame.toOctets ∧
    (sender.after steps).link.calls = link.calls + sender.linkCalls steps ∧
    ∀ step, ActsAfter link steps (sender.after steps) step := by
  intro sender
  obtain ⟨hname, haddress, hfails, hcomplaint⟩ := sender.link_after_keeps steps
  refine ⟨sender.sent_after steps, sender.calls_after steps, fun step => ?_⟩
  have hsource : (sender.after steps).sourceAddress = sourceOn link steps := by
    have hlast : (sender.after steps).source = lastSource steps := sender.source_after steps
    rw [sourceAddress, hlast, haddress]
    rfl
  exact
    { sourceAddress_eq := hsource
      isDown_iff := by rw [Link.isDown_iff, hfails]
      calls_eq := (act_perform _ step).calls_eq
      frame_eq := by
        intro destination payload frame hstep hanswer
        obtain ⟨hr, hs, he, hp⟩ := (act_perform _ step).frame_eq hstep hanswer
        exact ⟨hr, hsource ▸ hs, he.trans (sender.ethertype_after steps), hp⟩
      send_eq := by
        rintro destination payload rfl
        rw [perform_send_eq, hname, hcomplaint]
      keeps_of_error := fun fault => (act_perform _ step).keeps_of_error }

/-- A link that is down from its second call on counts both frames and lets the first one through. -/
example :
    let link : Link := { name := "tap0", address := .ok ⟨#v[2, 0, 0, 0, 0, 1]⟩, failsFrom := some 1 }
    let sender := ({ link } : Sender).after
      [.send "52:54:00:12:34:56" [1], .withSource none, .send "52:54:00:12:34:56" [2]]
    sender.link.calls = 2 ∧
      sender.link.sent = [[0x52, 0x54, 0, 0x12, 0x34, 0x56, 2, 0, 0, 0, 0, 1, 0x90, 0, 1]] := by
  decide +kernel

end Sender

end Workbench
