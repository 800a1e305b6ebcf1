import X6losim.Sim.Session

/-!
# The bounds of a frame

`FrameInBounds` says that a frame that is dispatched is handled without leaving it, wherever it
is received and for as long as a packet copied from it is kept.  That is so exactly when the
frame is as long as its handler takes it to be.
-/

open Bytes

namespace X6losim

variable {host : ByteOrder} {kind : Kind} {nodeId : UInt64} {handler : Handler}
  {frame : List UInt8} {m : Medium} {p : NodePtr} {n : DeviceNode}

/-- In whatever state a frame is received, its handler keeps to the bytes of the frame, and so
does the relay of a packet copied from it. -/
structure FrameInBounds (host : ByteOrder) (kind : Kind) (nodeId : UInt64) (handler : Handler)
    (frame : List UInt8) : Prop where
  handled : ∀ {m env ph ev evs p n rest m'},
    (medium host kind).Reachable ⟨.poll ph (ev :: evs), m⟩ → ev.data = .node p →
    m.nodes p = .live n → n.getNodeId = nodeId → ¬ ev.rdhup → ev.input →
    readMsgFrame host nodeId ev.delivery ev.unread = .ok (.call handler (blankCksum frame)) rest →
    ¬ (medium host kind).Halts ⟨.poll ph (ev :: evs), m⟩ (.run env) (.outOfBounds, m')
  relayed : ∀ {m env i p n pkt m'}, (medium host kind).Reachable ⟨.processTxList i, m⟩ →
    m.txList[i]? = some p → m.nodes p = .live n → n.txPkt = some pkt →
    handler = .handleDataIndication → pkt.pktBuffer = blankCksum frame →
    ¬ (medium host kind).Halts ⟨.processTxList i, m⟩ (.run env) (.outOfBounds, m')

/-- A frame is as long as its handler takes it to be: a registration confirm has both its fields,
or a zero byte that ends the last one, and a data indication has the frame its `psdu_len` says. -/
def FrameFits : Handler → List UInt8 → Prop
  | .handleRegistrationConfirm, frame =>
      0 ∈ frame.drop RegCon.osVersion.offset ∨
        RegCon.osVersion.offset + RegCon.osVersion.size ≤ frame.length
  | .handleDeregistrationRequest, _ => True
  | .handleCcaRequest, _ => True
  | .handleDataIndication, frame => PsduFits frame

/-! ### Registration confirms -/

/-- The bytes of a frame after the header are kept by blanking its checksum. -/
theorem drop_blankCksum {k : Nat} (hsize : Hdr.size ≤ frame.length) (hk : Hdr.size ≤ k) :
  (blankCksum frame).drop k = frame.drop k
  := by
  have hlength := length_blankCksum hsize
  have hkept := take_drop_of_write (k := frame.length) (write_blankCksum hsize) (Or.inr hk)
  rw [List.take_of_length_le, List.take_of_length_le] at hkept
  · apply hkept
  · rw [List.length_drop]
    apply Nat.sub_le
  · rw [List.length_drop, hlength]
    apply Nat.sub_le

/-- Both strings are copied from in the message exactly when it is as long as they are, or the
last one ends in it. -/
theorem strncpy_regCon_iff {msg : List UInt8} :
  ((∃ os, strncpy msg RegCon.os = .ok os) ∧
      ∃ osVersion, strncpy msg RegCon.osVersion = .ok osVersion) ↔
    FrameFits .handleRegistrationConfirm msg
  := by
  rw [strncpy_ok_iff (by decide), strncpy_ok_iff (by decide), FrameFits]
  constructor
  · rintro ⟨-, hzero | hfits⟩
    · left
      apply List.mem_of_mem_take hzero
    · right
      apply hfits
  · intro h
    by_cases hfits : RegCon.osVersion.offset + RegCon.osVersion.size ≤ msg.length
    · refine ⟨Or.inr ?_, Or.inr hfits⟩
      apply le_trans _ hfits
      decide
    · have hzero := h.resolve_right hfits
      have hshort : (msg.drop RegCon.osVersion.offset).length ≤ RegCon.osVersion.size := by
        rw [List.length_drop]
        omega
      constructor
      · right
        have hpos := List.length_pos_of_mem hzero
        rw [List.length_drop] at hpos
        simp only [RegCon.os, RegCon.osVersion] at hpos ⊢
        omega
      · left
        rw [Field.bytes, List.take_of_length_le hshort]
        apply hzero

/-- The handler of a registration confirm leaves the message when one of the strings does. -/
theorem handleRegistrationConfirm_outOfBounds {msg : List UInt8} (hlive : m.nodes p = .live n)
    (hfail : ¬ FrameFits .handleRegistrationConfirm msg) :
  ∃ m', handleRegistrationConfirm p msg m = .error .outOfBounds m'
  := by
  rw [← strncpy_regCon_iff] at hfail
  cases hos : strncpy msg RegCon.os with
  | error e =>
      rw [strncpy_error hos] at hos
      simp [handleRegistrationConfirm, deref_live hlive, hos]
  | ok os =>
      cases hversion : strncpy msg RegCon.osVersion with
      | error e =>
          rw [strncpy_error hversion] at hversion
          simp [handleRegistrationConfirm, deref_live hlive, hos, hversion]
      | ok osVersion => apply absurd ⟨⟨os, hos⟩, osVersion, hversion⟩ hfail

/-! ### Frames that fit -/

/-- Blanking the checksum does not matter to whether a frame fits. -/
theorem frameFits_blankCksum (hsize : Hdr.size ≤ frame.length) :
  FrameFits handler (blankCksum frame) ↔ FrameFits handler frame
  := by
  cases handler with
  | handleRegistrationConfirm =>
      rw [FrameFits, FrameFits, drop_blankCksum hsize (by decide), length_blankCksum hsize]
  | handleDeregistrationRequest => rfl
  | handleCcaRequest => rfl
  | handleDataIndication =>
      rw [FrameFits, FrameFits, PsduFits, PsduFits, value_blankCksum hsize (by right; decide),
        length_blankCksum hsize]

/-- A handler keeps to a message that fits. -/
theorem callHandler_inBounds {env : Env} {m' : Medium}
    (hframe : Dispatched host nodeId handler frame) (hfits : FrameFits handler frame)
    (hlive : m.nodes p = .live n) :
  callHandler host env p (blankCksum frame) handler m ≠ .error .outOfBounds m'
  := by
  intro herror
  have hsize : Hdr.size ≤ (blankCksum frame).length := by
    rw [length_blankCksum hframe.size]
    apply hframe.size
  cases handler with
  | handleRegistrationConfirm =>
      rw [← frameFits_blankCksum hframe.size, ← strncpy_regCon_iff] at hfits
      obtain ⟨⟨os, hos⟩, osVersion, hversion⟩ := hfits
      rw [callHandler, handleRegistrationConfirm_eq hlive hos hversion] at herror
      cases hstate : n.curState with
      | registering =>
          rw [hstate] at herror
          simp only at herror
          split at herror <;> cases herror
      | active =>
          rw [hstate] at herror
          cases herror
      | tx =>
          rw [hstate] at herror
          cases herror
  | handleDeregistrationRequest =>
      by_cases hmem : (m.regListMap n.socket).isSome ∨ (m.nodeHashMap n.socket).isSome
      · rw [callHandler, handleDeregistrationRequest_ok hlive hmem] at herror
        cases herror
      · obtain ⟨hreg, hhash⟩ := not_or.mp hmem
        obtain ⟨m₁, hstop⟩ := handleDeregistrationRequest_error hlive (by simpa using hreg)
          (by simpa using hhash)
        rw [callHandler, hstop] at herror
        cases herror
  | handleCcaRequest =>
      rw [callHandler, handleCcaRequest_eq hlive] at herror
      cases hstate : n.curState <;> rw [hstate] at herror <;> cases herror
  | handleDataIndication =>
      obtain ⟨pkt, hnew, -, hack⟩ := hframe.received.packet m.nextPkt p
      rw [callHandler, handleDataIndication_eq hlive hnew hack] at herror
      cases hstate : n.curState with
      | registering =>
          rw [hstate] at herror
          cases herror
      | active =>
          rw [hstate] at herror
          simp only at herror
          split at herror
          · cases herror
          · split at herror
            · cases herror
            · split at herror <;> cases herror
      | tx =>
          rw [hstate] at herror
          cases herror

/-- The relay of a packet keeps to a packet that fits. -/
theorem processTxEntry_inBounds {env : Env} {i : Nat} {pkt : NetSimPacket} {m' : Medium}
    (hlive : m.nodes p = .live n) (hpkt : n.txPkt = some pkt) (hfits : PsduFits pkt.pktBuffer) :
  processTxEntry host env i p m ≠ .error .outOfBounds m'
  := by
  intro herror
  by_cases htx : ∃ pkt, n.txTimer.started ∧ n.curState = .tx ∧ n.txPkt = some pkt
  · obtain ⟨-, hstarted, hstate, -⟩ := htx
    have hresult := processTxEntry_result hlive hstarted hstate hpkt host env i
    rw [herror] at hresult
    cases hresult with
    | outOfBounds _ _ hfail =>
        have hfits' : PsduFits
            ({ pkt with txDoneResult := txDoneOk } : NetSimPacket).pktBuffer := hfits
        obtain ⟨pkt₁, pkt₂, bytes, hrssi, hcksum, hbytes⟩ :=
          (NetSimPacket.relay_iff host).mpr hfits'
        apply hfail pkt₁ pkt₂ bytes hrssi hcksum hbytes
  · have hresult : n.txTimer.started ∧ processTxEntry host env i p m = .ok (i + 1) m ∨ _ :=
      processTxEntry_other hlive htx
    rcases hresult with ⟨-, hstop⟩ | ⟨text, m₁, hstop⟩ | ⟨m₁, hstop⟩ | ⟨m₁, hstop⟩
    all_goals
      rw [hstop] at herror
      cases herror

/-- A frame that fits is handled in its bounds. -/
theorem frameInBounds (hframe : Dispatched host nodeId handler frame)
    (hfits : FrameFits handler frame) (kind : Kind) :
  FrameInBounds host kind nodeId handler frame
  where
  handled {m env ph ev evs p n rest m'} _ hdata hlive hid hrdhup hinput hread := by
    rintro ⟨-, hstep⟩
    have hcall : callHandler host env p (blankCksum frame) handler m ≠ .error .outOfBounds m' :=
      callHandler_inBounds hframe hfits hlive
    subst hid
    simp only [medium, Sys.step, stepProg, runStep, Exec.bind_apply,
      processPollerEvent_input hdata hrdhup hinput, readMsg_eq hlive, hread] at hstep
    cases hresult : callHandler host env p (blankCksum frame) handler m with
    | ok u m₁ => simp [hresult] at hstep
    | error e m₁ =>
        simp [hresult] at hstep
        obtain ⟨rfl, rfl⟩ := hstep
        apply hcall hresult
  relayed {m env i p n pkt m'} _ hentry hlive hpkt hhandler hbuffer := by
    rintro ⟨-, hstep⟩
    subst hhandler
    have hfits' : PsduFits pkt.pktBuffer := by
      rw [hbuffer]
      apply (frameFits_blankCksum hframe.size).mpr hfits
    cases hresult : processTxEntry host env i p m with
    | ok j m₁ => simp [medium, Sys.step, stepProg, runStep, hentry, hresult] at hstep
    | error e m₁ =>
        simp [medium, Sys.step, stepProg, runStep, hentry, hresult] at hstep
        obtain ⟨rfl, rfl⟩ := hstep
        apply processTxEntry_inBounds hlive hpkt hfits' hresult

/-! ### Frames that do not fit -/

/-- A registration confirm that does not fit, from a node that has just been added. -/
theorem not_frameInBounds_regCon
    (hframe : Dispatched host nodeId .handleRegistrationConfirm frame)
    (hfail : ¬ FrameFits .handleRegistrationConfirm frame) (kind : Kind) :
  ¬ FrameInBounds host kind nodeId .handleRegistrationConfirm frame
  := by
  intro h
  have hreportable : (Medium.added 1 nodeId).Reportable [frameEvent 1 frame] :=
    reportable_node rfl (List.mem_singleton_self 1)
  have hreport := (running_added host kind 1 nodeId).report hreportable (by simp)
  have hlive : ((Medium.added 1 nodeId).tick .idle).nodes 1
      = .live (DeviceNode.registering nodeId) := added_live 1 nodeId
  have hwhole : Delivery.Whole (frameEvent 1 frame).delivery frame.length :=
    ⟨⟨2, rfl, le_refl 2⟩, frame.length, rfl, Nat.sub_le _ _⟩
  have hread := hframe.whole _ [] hwhole
  rw [List.append_nil] at hread
  rw [← frameFits_blankCksum hframe.size] at hfail
  obtain ⟨m', hstop⟩ := handleRegistrationConfirm_outOfBounds hlive hfail
  have hhalts : (medium host kind).Halts ⟨.poll .idle [frameEvent 1 frame],
      (Medium.added 1 nodeId).tick .idle⟩ (.run .calm) (.outOfBounds, m') := by
    refine ⟨trivial, ?_⟩
    simp [medium, Sys.step, stepProg, runStep, processPollerEvent_frame hframe hlive rfl,
      callHandler, hstop]
  apply h.handled hreport.reachable rfl hlive rfl (by simp [frameEvent]) rfl hread hhalts

/-- A data indication that does not fit, from a node that transmits it alone. -/
theorem not_frameInBounds_dataInd
    (hframe : Dispatched host nodeId .handleDataIndication frame)
    (hfail : ¬ FrameFits .handleDataIndication frame) (kind : Kind) :
  ¬ FrameInBounds host kind nodeId .handleDataIndication frame
  := by
  intro h
  obtain ⟨m, n, pkt, hrunning, htx, -, hbuffer⟩ := running_transmitting host kind 1 hframe
  have htx' := htx.tick .tx
  have hprocess := hrunning.quiet.process htx'.ccaList (by simp [htx'.txList])
  have hentry : (m.tick .tx).txList[0]? = some 1 := by simp [htx'.txList]
  rw [← frameFits_blankCksum hframe.size, FrameFits, ← hbuffer] at hfail
  have hrelay : ∀ pkt₁ pkt₂ bytes,
      ({ pkt with txDoneResult := txDoneOk } : NetSimPacket).setRSSI 127 = .ok pkt₁ →
      pkt₁.generateChecksum host = .ok pkt₂ → pkt₂.pktbuf host ≠ .ok bytes := by
    intro pkt₁ pkt₂ bytes hrssi hcksum hbytes
    apply hfail
    have hfits := (NetSimPacket.relay_iff host).mp ⟨pkt₁, pkt₂, bytes, hrssi, hcksum, hbytes⟩
    apply hfits
  obtain ⟨m', hstop⟩ : ∃ m', processTxEntry host .timeUp 0 1 (m.tick .tx)
      = .error .outOfBounds m' := by
    have hexpired : Env.timeUp.Expired 1 := rfl
    apply processTxEntry_outOfBounds htx'.live htx'.txTimer hexpired htx'.curState htx'.txPkt
      htx'.collision hrelay
  have hhalts : (medium host kind).Halts ⟨.processTxList 0, m.tick .tx⟩ (.run .timeUp)
      (.outOfBounds, m') := by
    refine ⟨trivial, ?_⟩
    simp [medium, Sys.step, stepProg, runStep, htx'.txList, hstop]
  apply h.relayed hprocess.reachable hentry htx'.live htx'.txPkt rfl hbuffer hhalts

/-- For frames `readMsg` dispatches: all that is read and written while one is handled lies in it,
in whatever state it is received, exactly when it fits. -/
theorem frame_inBounds_iff (hframe : Dispatched host nodeId handler frame) :
  FrameInBounds host kind nodeId handler frame ↔ FrameFits handler frame
  := by
  constructor
  · intro h
    by_contra hfail
    cases handler with
    | handleRegistrationConfirm => apply not_frameInBounds_regCon hframe hfail kind h
    | handleDeregistrationRequest => apply hfail trivial
    | handleCcaRequest => apply hfail trivial
    | handleDataIndication => apply not_frameInBounds_dataInd hframe hfail kind h
  · intro hfits
    apply frameInBounds hframe hfits

/-- A data indication of 34 bytes for an empty frame is handled in its bounds. -/
theorem frame_inBounds_dataFrame :
  FrameInBounds .little .powerline 7 .handleDataIndication (dataFrame .little 7)
  := by
  have hframe := dispatched_dataFrame .little 7
  have hfits : FrameFits .handleDataIndication (blankCksum (dataFrame .little 7)) :=
    psduFits_dataFrame .little 7
  apply (frame_inBounds_iff hframe).mpr ((frameFits_blankCksum hframe.size).mp hfits)

/-- A data indication of nothing but a header is dispatched, and is not. -/
theorem dataInd_header_outOfBounds :
  let frame := sealMsg .little .handleDataIndication 7 []
  frame.length = 18 ∧ Dispatched .little 7 .handleDataIndication frame ∧
    ¬ FrameInBounds .little .powerline 7 .handleDataIndication frame
  := by
  intro frame
  have hlength : frame.length = 18 := length_sealMsg
  have hframe : Dispatched .little 7 .handleDataIndication frame :=
    dispatched_sealMsg (by decide) (by decide)
  refine ⟨hlength, hframe, ?_⟩
  apply not_frameInBounds_dataInd hframe
  rw [FrameFits, PsduFits, hlength, DataInd.pktData]
  omega

end X6losim
