import Workbench.FrameTool.Run
import Workbench.Proofs.Checks
import Workbench.Proofs.Net.FrameOctets
import Workbench.Proofs.Net.HexDumps
import Workbench.Proofs.Net.SenderRuns

set_option relaxedAutoImplicit false
set_option autoImplicit false

/-!
# What the frame tool shows is what it would send

A frame that is only shown is put together by the tool itself, one that is sent by a sender on a link.
Here both are the same frame, for all settings that name a source address and every link. Settings that
pass their check can be read, so that nothing but the interface can still go wrong.

## Main definitions

* `Workbench.FrameTool.Settings.Reads` — what the addresses and the type of settings are read as.
* `Workbench.FrameTool.LinkFault` — what can go wrong with the interface.
* `Workbench.FrameTool.attempt` — what comes of the frame of settings that are accepted.
* `Workbench.FrameTool.senderOf` — a sender with what is on a frame.
* `Workbench.FrameTool.Shows` — a run that shows a frame, and what would be sent instead.

## Main results

* `Workbench.FrameTool.Settings.check_eq_ok_iff` — the settings that are accepted.
* `Workbench.FrameTool.result_eq_error_iff` — what can go wrong with them.
* `Workbench.FrameTool.dryRun_shows` — what is shown is what would be sent.
-/

namespace Workbench

/-! ### Texts that cannot be read -/

/-- A text that is no address is a wrong setting. -/
lemma MacAddress.severity_of_read {s : String} {fault : Fault} (h : read s = .error fault) :
    fault.severity = .high := by
  unfold read at h
  split at h
  · simp at h
  · obtain rfl := Except.error.inj h
    rfl

/-- A text that is no type is a wrong setting. -/
lemma Ethertype.severity_of_read {s : String} {fault : Fault} (h : read s = .error fault) :
    fault.severity = .high := by
  unfold read at h
  split at h
  · simp at h
  · obtain rfl := Except.error.inj h
    rfl

/-! ### Interfaces of a network -/

namespace Network

variable {network : Network} {name : String}

/-- An interface that is not found is not there. -/
lemma interface_eq_error_iff {fault : Fault} :
    network.interface name = .error fault ↔
      fault = .noInterface name ∧ ∀ i ∈ network.interfaces, i.link.name ≠ name := by
  unfold Network.interface
  split
  · next i hfound =>
    have hmem := List.mem_of_find?_eq_some hfound
    have hname : i.link.name = name := by simpa using List.find?_some hfound
    simp only [reduceCtorEq, false_iff, not_and, not_forall]
    exact fun _ => ⟨i, hmem, not_not.2 hname⟩
  · next hnone =>
    have habsent : ∀ i ∈ network.interfaces, i.link.name ≠ name := by simpa using hnone
    rw [Except.error.injEq, and_iff_left habsent, eq_comm]

/-- An interface is not opened if it is not found, or if something is in the way. -/
lemma connect_eq_error_iff {fault : Fault} :
    (network.connect name).1 = .error fault ↔ network.interface name = .error fault ∨
      ∃ i complaint, network.interface name = .ok i ∧ i.obstacle = some complaint ∧
        fault = .interfaceTrouble name complaint := by
  unfold Network.connect
  cases network.interface name with
  | error other => simp
  | ok i => cases hshut : i.obstacle <;> simp [hshut, eq_comm]

/-- An interface is opened if it is found and nothing is in the way. -/
lemma connect_eq_ok_iff {link : Link} :
    (network.connect name).1 = .ok link ↔
      ∃ i, network.interface name = .ok i ∧ i.obstacle = none ∧ i.link = link := by
  unfold Network.connect
  cases network.interface name with
  | error other => simp
  | ok i => cases hshut : i.obstacle <;> simp [hshut]

end Network

namespace FrameTool

variable {settings : Settings} {network : Network}

/-! ### Settings that are accepted -/

namespace Settings

/-- What the addresses and the type of settings are read as. -/
structure Reads (settings : Settings) (destination : MacAddress) (source : Option MacAddress)
    (ethertype : UInt16) : Prop where
  destination_eq : settings.destinationAddress = .ok destination
  source_eq : settings.sourceAddress = .ok source
  ethertype_eq : settings.frameType = .ok ethertype

/-- **The settings that are accepted**: they name an interface, and everything else can be read. -/
theorem check_eq_ok_iff : settings.check = .ok () ↔
    Check.notBlank "interface" settings.interface = .ok () ∧
      ∃ destination source ethertype, settings.Reads destination source ethertype := by
  unfold check
  simp only [bind_eq_ok_iff]
  constructor
  · rintro ⟨⟨⟩, hi, destination, hd, source, hs, ethertype, he, -⟩
    exact ⟨hi, destination, source, ethertype, hd, hs, he⟩
  · rintro ⟨hi, destination, source, ethertype, hd, hs, he⟩
    exact ⟨(), hi, destination, hd, source, hs, ethertype, he, rfl⟩

/-- A source address that cannot be read is a wrong setting. -/
lemma severity_of_sourceAddress {fault : Fault} (h : settings.sourceAddress = .error fault) :
    fault.severity = .high := by
  unfold sourceAddress at h
  split at h
  · next text _ =>
    cases hr : MacAddress.read text with
    | ok address => simp [hr, Except.map] at h
    | error other =>
      obtain rfl : other = fault := by simpa [hr, Except.map] using h
      exact MacAddress.severity_of_read hr
  · simp at h

/-- Settings that are refused are wrong settings. -/
lemma severity_of_check {fault : Fault} (h : settings.check = .error fault) :
    fault.severity = .high := by
  unfold check at h
  simp only [bind_eq_error_iff] at h
  rcases h with hi | ⟨-, -, hd | ⟨-, -, hs | ⟨-, -, he | ⟨-, -, h⟩⟩⟩⟩
  · exact Check.severity_of_notBlank hi
  · exact MacAddress.severity_of_read hd
  · exact severity_of_sourceAddress hs
  · exact Ethertype.severity_of_read he
  · simp [pure, Except.pure] at h

/-- A source address is read exactly if one is given. -/
lemma Reads.source_isNone_iff {destination : MacAddress} {source : Option MacAddress}
    {ethertype : UInt16} (h : settings.Reads destination source ethertype) :
    source = none ↔ settings.source = none := by
  have hsource := h.source_eq
  unfold sourceAddress at hsource
  split at hsource
  · next text htext =>
    cases hr : MacAddress.read text with
    | error fault => simp [hr, Except.map] at hsource
    | ok address =>
      obtain rfl : some address = source := by simpa [hr, Except.map] using hsource
      simp [htext]
  · next hnone => simp [hnone, ← Except.ok.inj hsource]

end Settings

/-! ### What can go wrong with the interface -/

/-- What can go wrong with the interface of a run. An interface is needed to send a frame on it, or for
its address; it is opened to be sent on only. -/
inductive LinkFault (settings : Settings) (network : Network) : Fault → Prop where
  /-- There is no interface of the name. -/
  | lookup (needed : settings.dryRun = false ∨ settings.source = none)
    (absent : ∀ i ∈ network.interfaces, i.link.name ≠ settings.interface) :
    LinkFault settings network (.noInterface settings.interface)
  /-- The interface cannot be opened. -/
  | opening {i : HostInterface} {complaint : String} (needed : settings.dryRun = false)
    (found : network.interface settings.interface = .ok i) (shut : i.obstacle = some complaint) :
    LinkFault settings network (.interfaceTrouble settings.interface complaint)
  /-- The interface has no address to send from. -/
  | address {i : HostInterface} {fault : Fault} (needed : settings.source = none)
    (found : network.interface settings.interface = .ok i)
    (opens : settings.dryRun = false → i.obstacle = none) (unknown : i.link.address = .error fault) :
    LinkFault settings network fault
  /-- The interface does not take the frame. -/
  | transmission {i : HostInterface} (needed : settings.dryRun = false)
    (found : network.interface settings.interface = .ok i) (opens : i.obstacle = none)
    (known : settings.source = none → ∃ address, i.link.address = .ok address)
    (down : i.link.isDown = true) :
    LinkFault settings network (.transmission i.link.name i.link.complaint)

/-! ### The frame of settings -/

/-- What comes of the frame of settings that are accepted. -/
def attempt (settings : Settings) (network : Network) : Attempt :=
  if settings.dryRun then showOnly settings network else transmit settings network

/-- A run ends with the fault of its frame. -/
lemma run_of_error {fault : Fault} (hc : settings.check = .ok ())
    (hr : (attempt settings network).result = .error fault) :
    ∃ notes, (run settings network).1 = failure settings notes fault := by
  refine ⟨[announcing .frameTool settings.describe] ++ (attempt settings network).notes, ?_⟩
  unfold attempt at hr ⊢
  simp only [run, hc, hr]

/-- A run succeeds with its frame. -/
lemma run_of_ok {frame : Frame} (hc : settings.check = .ok ())
    (hr : (attempt settings network).result = .ok frame) :
    (run settings network).1.status = 0 ∧
      (run settings network).1.output = (attempt settings network).output := by
  unfold attempt at hr ⊢
  simp [run, hc, hr]

/-- A run leaves the network as its frame leaves it. -/
lemma run_snd (hc : settings.check = .ok ()) :
    (run settings network).2 = (attempt settings network).network := by
  unfold attempt
  simp only [run, hc]
  split <;> rfl

section Reads

variable {destination : MacAddress} {source : Option MacAddress} {ethertype : UInt16}
  (h : settings.Reads destination source ethertype)

include h

/-- The sender of settings puts on frames what was read. -/
lemma senderOn_eq (link : Link) : senderOn settings link =
    .ok ((({ link } : Sender).withSource source).withEthertype ethertype) := by
  rw [senderOn, h.source_eq, h.ethertype_eq]
  rfl

/-- The frame that is shown has the source address that was read, or else that of the interface. -/
lemma shownFrame_eq : shownFrame settings network =
    (source.elim (network.address settings.interface) .ok).map fun address =>
      { destination, source := address, ethertype, payload := settings.payloadOctets } := by
  rw [shownFrame, h.destination_eq, h.source_eq, h.ethertype_eq]
  cases source with
  | some address => rfl
  | none => cases network.address settings.interface <;> rfl

/-- A link that was opened is sent what was read. -/
lemma transmit_of_connect_ok {link : Link} (hl : (network.connect settings.interface).1 = .ok link) :
    let sent := ((({ link } : Sender).withSource source).withEthertype ethertype).send destination
      settings.payloadOctets
    (transmit settings network).result = sent.1 ∧
      (transmit settings network).network = network.release sent.2.2.link := by
  unfold transmit
  split
  · next fault events hconnect => simp [hconnect] at hl
  · next other events hconnect =>
    obtain rfl : other = link := by simpa [hconnect] using hl
    rw [transmitOn, h.destination_eq, senderOn_eq h]
    exact ⟨rfl, rfl⟩

omit h in
/-- Nothing is sent if there is no link. -/
lemma transmit_of_connect_error {fault : Fault}
    (hl : (network.connect settings.interface).1 = .error fault) :
    (transmit settings network).result = .error fault := by
  unfold transmit
  split
  · next other events hconnect => simpa [hconnect] using hl
  · next link events hconnect => simp [hconnect] at hl

/-- What can go wrong when a frame is only shown: its source address cannot be had. -/
lemma shown_eq_error_iff {fault : Fault} (hdry : settings.dryRun = true) :
    (attempt settings network).result = .error fault ↔ LinkFault settings network fault := by
  have hmap : (attempt settings network).result = .error fault ↔
      source.elim (network.address settings.interface) .ok = .error fault := by
    rw [attempt, if_pos hdry, showOnly, shownFrame_eq h]
    cases source.elim (network.address settings.interface) .ok <;> simp [Except.map]
  rw [hmap]
  constructor
  · intro hr
    cases source with
    | some address => simp at hr
    | none =>
      have hnone := h.source_isNone_iff.1 rfl
      rcases bind_eq_error_iff.1 hr with hfind | ⟨i, hfind, hunknown⟩
      · obtain ⟨rfl, habsent⟩ := Network.interface_eq_error_iff.1 hfind
        exact .lookup (.inr hnone) habsent
      · exact .address hnone hfind (by simp [hdry]) hunknown
  · intro hf
    cases hf with
    | lookup needed absent =>
      obtain rfl := h.source_isNone_iff.2 (needed.resolve_left (by simp [hdry]))
      exact bind_eq_error_iff.2 (.inl (Network.interface_eq_error_iff.2 ⟨rfl, absent⟩))
    | address needed found opens unknown =>
      obtain rfl := h.source_isNone_iff.2 needed
      exact bind_eq_error_iff.2 (.inr ⟨_, found, unknown⟩)
    | opening needed => simp [hdry] at needed
    | transmission needed => simp [hdry] at needed

/-- What can go wrong when a frame is sent: there is no link, or its source address cannot be had, or the
link does not take it. -/
lemma transmitted_eq_error_iff {fault : Fault} (hdry : settings.dryRun = false) :
    (attempt settings network).result = .error fault ↔ LinkFault settings network fault := by
  rw [attempt, if_neg (by simp [hdry])]
  constructor
  · intro hr
    -- the interface is looked up and opened before its address is asked for
    cases hl : (network.connect settings.interface).1 with
    | error other =>
      obtain rfl : other = fault := by simpa [transmit_of_connect_error hl] using hr
      rcases Network.connect_eq_error_iff.1 hl with hfind | ⟨i, complaint, hfind, hshut, rfl⟩
      · obtain ⟨rfl, habsent⟩ := Network.interface_eq_error_iff.1 hfind
        exact .lookup (.inl hdry) habsent
      · exact .opening hdry hfind hshut
    | ok link =>
      obtain ⟨i, hfind, hopen, rfl⟩ := Network.connect_eq_ok_iff.1 hl
      rw [(transmit_of_connect_ok h hl).1, Sender.send_eq_error_iff] at hr
      rcases hr with hsource | ⟨⟨address, hsource⟩, hdown, rfl⟩
      · cases source with
        | some address => simp [Sender.sourceAddress, Sender.withSource, Sender.withEthertype] at hsource
        | none => exact .address (h.source_isNone_iff.1 rfl) hfind (fun _ => hopen) hsource
      · refine .transmission hdry hfind hopen (fun hnone => ⟨address, ?_⟩) hdown
        obtain rfl := h.source_isNone_iff.2 hnone
        exact hsource
  · intro hf
    cases hf with
    | lookup needed absent =>
      exact transmit_of_connect_error
        (Network.connect_eq_error_iff.2 (.inl (Network.interface_eq_error_iff.2 ⟨rfl, absent⟩)))
    | opening needed found shut =>
      exact transmit_of_connect_error (Network.connect_eq_error_iff.2 (.inr ⟨_, _, found, shut, rfl⟩))
    | address needed found opens unknown =>
      obtain rfl := h.source_isNone_iff.2 needed
      rw [(transmit_of_connect_ok h (Network.connect_eq_ok_iff.2 ⟨_, found, opens hdry, rfl⟩)).1,
        Sender.send_eq_error_iff]
      exact .inl unknown
    | transmission needed found opens known down =>
      rw [(transmit_of_connect_ok h (Network.connect_eq_ok_iff.2 ⟨_, found, opens, rfl⟩)).1,
        Sender.send_eq_error_iff]
      refine .inr ⟨?_, down, rfl⟩
      cases source with
      | some address => exact ⟨address, rfl⟩
      | none => exact known (h.source_isNone_iff.1 rfl)

/-- **What can go wrong with settings that are accepted** is what can go wrong with the interface. -/
theorem result_eq_error_iff {fault : Fault} :
    (attempt settings network).result = .error fault ↔ LinkFault settings network fault := by
  cases hdry : settings.dryRun with
  | true => exact shown_eq_error_iff h hdry
  | false => exact transmitted_eq_error_iff h hdry

end Reads

/-! ### Showing and sending -/

/-- A sender on a link, with the source address and the type of a frame. -/
def senderOf (frame : Frame) (link : Link) : Sender :=
  (({ link } : Sender).withSource (some frame.source)).withEthertype frame.ethertype

/-- A run that shows a frame, and what is sent instead if the frame is to be sent. -/
structure Shows (settings : Settings) (network : Network) (frame : Frame) : Prop where
  status_eq : (run settings network).1.status = 0
  output_eq : (run settings network).1.output = HexDump.dump frame.toOctets
  network_eq : (run settings network).2 = network
  /-- The frame is the one that the settings are written for. -/
  reads : settings.Reads frame.destination (some frame.source) frame.ethertype
  payload_eq : frame.payload = settings.payloadOctets
  /-- What is shown can be read as octets, and these as the frame. -/
  read_back : (HexDump.octets? (run settings network).1.output).map Frame.ofOctets = some (.ok frame)
  /-- A sender hands the octets that are shown to its link, once, whatever the link is. -/
  hands : ∀ link,
    ((senderOf frame link).send frame.destination frame.payload).1 =
        (link.transmit frame.toOctets).1.map (fun _ => frame) ∧
      ((senderOf frame link).send frame.destination frame.payload).2.2.link =
        (link.transmit frame.toOctets).2
  /-- A link that is up has let these octets through, and nothing else. -/
  sent_eq : ∀ link, link.isDown = false →
    ((senderOf frame link).send frame.destination frame.payload).2.2.link.sent =
      link.sent ++ [frame.toOctets]
  /-- A run that is to send the frame hands the same octets to the interface. -/
  transmits : ∀ (other : Network) i, other.interface settings.interface = .ok i →
    i.obstacle = none →
    (run { settings with dryRun := false } other).2 =
      other.release (i.link.transmit frame.toOctets).2

/-- A sender with what is on a frame hands the octets of that frame to its link. -/
lemma send_senderOf (frame : Frame) (link : Link) :
    ((senderOf frame link).send frame.destination frame.payload).1 =
        (link.transmit frame.toOctets).1.map (fun _ => frame) ∧
      ((senderOf frame link).send frame.destination frame.payload).2.2.link =
        (link.transmit frame.toOctets).2 := by
  have hbuild : (senderOf frame link).build frame.destination frame.payload = .ok frame :=
    Sender.build_eq_ok_iff.2 ⟨rfl, rfl, rfl, rfl⟩
  obtain ⟨hanswer, hnext⟩ := Sender.send_of_build_ok hbuild
  exact ⟨hanswer, congrArg Sender.link hnext⟩

/-- A run that sends a frame on an interface hands its octets to that interface. -/
lemma run_snd_of_real {frame : Frame} {i : HostInterface} (hc : settings.check = .ok ())
    (h : settings.Reads frame.destination (some frame.source) frame.ethertype)
    (hp : frame.payload = settings.payloadOctets) (hreal : settings.dryRun = false)
    (hfind : network.interface settings.interface = .ok i) (hopen : i.obstacle = none) :
    (run settings network).2 = network.release (i.link.transmit frame.toOctets).2 := by
  have hconnect := Network.connect_eq_ok_iff.2 ⟨i, hfind, hopen, rfl⟩
  rw [run_snd hc, attempt, if_neg (by simp [hreal]), (transmit_of_connect_ok h hconnect).2, ← hp]
  exact congrArg network.release (send_senderOf frame i.link).2

/-- A frame that is shown is the one that would be sent. -/
lemma exists_shows (hc : settings.check = .ok ()) (hdry : settings.dryRun = true)
    (hs : settings.source ≠ none) : ∃ frame, Shows settings network frame := by
  obtain ⟨-, destination, source, ethertype, h⟩ := Settings.check_eq_ok_iff.1 hc
  obtain ⟨address, rfl⟩ := Option.ne_none_iff_exists'.1 (mt h.source_isNone_iff.1 hs)
  let frame : Frame := ⟨destination, address, ethertype, settings.payloadOctets⟩
  have hattempt : attempt settings network =
      { result := .ok frame
        output := HexDump.dump frame.toOctets
        notes := [dryRunning]
        network } := by
    rw [attempt, if_pos hdry, showOnly, shownFrame_eq h]
    rfl
  obtain ⟨hstatus, houtput⟩ := run_of_ok hc (by rw [hattempt])
  have hdump : (run settings network).1.output = HexDump.dump frame.toOctets := by
    rw [houtput, hattempt]
  -- whether the frame is sent has no part in how settings are read
  have hreads : Settings.Reads { settings with dryRun := false } destination (some address) ethertype :=
    ⟨h.destination_eq, h.source_eq, h.ethertype_eq⟩
  exact ⟨frame,
    { status_eq := hstatus
      output_eq := hdump
      network_eq := by rw [run_snd hc, hattempt]
      reads := h
      payload_eq := rfl
      read_back := by rw [hdump, HexDump.octets?_dump, Option.map_some, Frame.ofOctets_toOctets]
      hands := send_senderOf frame
      sent_eq := fun link hup => by
        rw [(send_senderOf frame link).2, Link.transmit_of_not_isDown hup]
      transmits := fun other i hfind hopen => run_snd_of_real hc hreads rfl rfl hfind hopen }⟩

/-- Settings that are refused end a run with status 1 and without output. -/
lemma run_of_check_error {fault : Fault} (hc : settings.check = .error fault) :
    (run settings network).1.status = 1 ∧ (run settings network).1.output = "" := by
  have hstatus := failureStatus_of_high (Settings.severity_of_check hc)
  simp [run, hc, failure, hstatus]

/-- A run with settings that are accepted fails exactly if something goes wrong with the interface. -/
lemma status_ne_zero_iff (hc : settings.check = .ok ()) :
    (run settings network).1.status ≠ 0 ↔ ∃ fault, LinkFault settings network fault := by
  obtain ⟨-, destination, source, ethertype, h⟩ := Settings.check_eq_ok_iff.1 hc
  cases hr : (attempt settings network).result with
  | ok frame =>
    have hnone : ∀ fault, ¬ LinkFault settings network fault := by
      intro fault hf
      rw [← result_eq_error_iff h, hr] at hf
      simp at hf
    simp [(run_of_ok hc hr).1, hnone]
  | error fault =>
    obtain ⟨notes, hrun⟩ := run_of_error hc hr
    have hpos : 1 ≤ fault.failureStatus := Nat.le_max_right _ _
    simp only [hrun, failure]
    exact ⟨fun _ => ⟨fault, (result_eq_error_iff h).1 hr⟩, fun _ => Nat.one_le_iff_ne_zero.1 hpos⟩

/-- **What is shown is what would be sent.** Settings that are accepted and name a source address give a
run that shows a frame: it succeeds, and its output is the dump of exactly those octets that a sender
hands to any link, and that can be read back as the frame that the settings are written for. Settings
that are refused end the run with status 1 and nothing in its output. With settings that are accepted,
shown or sent, every text of them can be read, and a run fails exactly if something goes wrong with the
interface; then it ends with that fault.

**Proof sketch.** The tool and a sender build the same frame (`exists_shows`), which the dump and the
octets give back. All faults of the check are of one severity (`run_of_check_error`). The remaining
faults of a run are those of the interface (`result_eq_error_iff`). -/
theorem dryRun_shows (settings : Settings) (network : Network) :
    (settings.check = .ok () → settings.dryRun = true → settings.source ≠ none →
      ∃ frame, Shows settings network frame) ∧
    (∀ fault, settings.check = .error fault →
      (run settings network).1.status = 1 ∧ (run settings network).1.output = "") ∧
    (settings.check = .ok () →
      (∃ destination source ethertype, settings.Reads destination source ethertype) ∧
      ((run settings network).1.status ≠ 0 ↔ ∃ fault, LinkFault settings network fault) ∧
      ∀ fault, LinkFault settings network fault →
        ∃ notes, (run settings network).1 = failure settings notes fault) := by
  refine ⟨exists_shows, fun fault => run_of_check_error, fun hc => ?_⟩
  obtain ⟨-, destination, source, ethertype, h⟩ := Settings.check_eq_ok_iff.1 hc
  exact ⟨⟨destination, source, ethertype, h⟩, status_ne_zero_iff hc,
    fun fault hf => run_of_error hc ((result_eq_error_iff h).2 hf)⟩

/-- Settings with both forms of addresses and a payload outside of ASCII are shown; without an interface
that is named they are refused; without an interface that is there they cannot be sent. -/
theorem dryRun_shows_mixed_forms :
    let settings : Settings :=
      { interface := "tap0", destination := " 52-54-00:12:34:5A ", source := some "02:00:00:aa:bb:cc",
        payload := "é", ethertype := "0X88b5", dryRun := true, verbose := false }
    let unnamed := { settings with interface := " " }
    let real := { settings with dryRun := false }
    (∃ frame, Shows settings ⟨[]⟩ frame) ∧
      ((run unnamed ⟨[]⟩).1.status = 1 ∧ (run unnamed ⟨[]⟩).1.output = "") ∧
      ∃ notes, (run real ⟨[]⟩).1 = failure real notes (.noInterface "tap0") := by
  intro settings unnamed real
  have hreal : real.check = .ok () := by decide +kernel
  refine ⟨(dryRun_shows settings ⟨[]⟩).1 (by decide +kernel) rfl (by decide), ?_, ?_⟩
  · have hblank : unnamed.check =
        .error (.badValue "interface" " " "Value cannot be empty or whitespace-only") := by
      decide +kernel
    exact (dryRun_shows unnamed ⟨[]⟩).2.1 _ hblank
  · exact ((dryRun_shows real ⟨[]⟩).2.2 hreal).2.2 _ (.lookup (.inl rfl) (by simp))

end FrameTool

end Workbench
