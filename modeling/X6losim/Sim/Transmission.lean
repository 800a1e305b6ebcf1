import X6losim.Sim.Effect

/-!
# What becomes of transmissions

What `processTxList` does with an entry of its list, and what `txCollisionCheck` and
`processCcaList` do.
-/

open Bytes

namespace X6losim

variable {m : Medium} {p : NodePtr} {n : DeviceNode}

/-- A packet written into keeps everything but its buffer. -/
theorem NetSimPacket.write_id {pkt pkt' : NetSimPacket} {offset : Nat} {bs : List UInt8}
    (h : pkt.write offset bs = .ok pkt') :
  pkt'.id = pkt.id ∧ pkt'.txDoneResult = pkt.txDoneResult
  := by
  rw [NetSimPacket.write] at h
  split at h
  · cases h
    exact ⟨rfl, rfl⟩
  · cases h

/-- When the transmit timer of a node has not expired, the list is left as it is. -/
theorem processTxEntry_waiting {host : ByteOrder} {env : Env} {i : Nat} {left : Timespec}
    (h : m.nodes p = .live n) (hstarted : n.txTimer.started)
    (hleft : env.nodeTimerGettime p = some left) (hwait : left ≠ ⟨0, 0⟩) :
  processTxEntry host env i p m = .ok (i + 1) m
  := by
  simp [processTxEntry, timerExpired_eq h, DeviceNode.timer, hstarted, hleft, hwait]

/-- When the transmit timer of a transmitting node has expired and its packet has collided, the
node is told so. -/
theorem processTxEntry_collided {host : ByteOrder} {env : Env} {i : Nat} {pkt : NetSimPacket}
    (h : m.nodes p = .live n) (hstarted : n.txTimer.started) (hexpired : env.Expired p)
    (hstate : n.curState = .tx) (hpkt : n.txPkt = some pkt) (hcollided : pkt.collision)
    (buf : List UInt8) :
  processTxEntry host env i p m = .ok i ((Effect.conclude i p n pkt buf).apply m)
  := by
  rw [Env.Expired] at hexpired
  simp [processTxEntry, timerExpired_eq h, DeviceNode.timer, hstarted, hexpired, deref_apply, h,
    hpkt, handleTxTimerExpired, hstate, stopTimer, DeviceNode.setTimer, hcollided, setCurState,
    derefTxPkt, send, txDoneCollided, txDoneOk, setTxPacket, Medium.putNode, Medium.record,
    Effect.apply, concludeEvents, NetSimPacket.result, TxStats.conclude]

/-- When the transmit timer of a transmitting node has expired and its packet has not collided,
the packet is multicast and the node is told so. -/
theorem processTxEntry_done {host : ByteOrder} {env : Env} {i : Nat}
    {pkt pkt₁ pkt₂ : NetSimPacket} {bytes : List UInt8}
    (h : m.nodes p = .live n) (hstarted : n.txTimer.started) (hexpired : env.Expired p)
    (hstate : n.curState = .tx) (hpkt : n.txPkt = some pkt) (hcollided : pkt.collision = false)
    (hrssi : ({ pkt with txDoneResult := txDoneOk } : NetSimPacket).setRSSI 127 = .ok pkt₁)
    (hcksum : pkt₁.generateChecksum host = .ok pkt₂) (hbytes : pkt₂.pktbuf host = .ok bytes) :
  processTxEntry host env i p m = .ok i ((Effect.conclude i p n pkt pkt₂.pktBuffer).apply m)
  := by
  rw [Env.Expired] at hexpired
  have hid₁ := NetSimPacket.write_id hrssi
  have hid₂ := NetSimPacket.write_id hcksum
  simp only [hid₁] at hid₂
  simp only [txDoneOk, hcollided] at hrssi
  simp [processTxEntry, timerExpired_eq h, DeviceNode.timer, hstarted, hexpired, deref_apply, h,
    hpkt, handleTxTimerExpired, hstate, stopTimer, DeviceNode.setTimer, hcollided, setCurState,
    derefTxPkt, send, txDoneOk, txPacket, hrssi, hcksum, hbytes, hid₂, setTxPacket,
    Medium.putNode, Medium.record, Effect.apply, concludeEvents, NetSimPacket.result,
    TxStats.conclude]

/-- A write into a packet fails only out of its bounds. -/
theorem NetSimPacket.write_error {pkt : NetSimPacket} {offset : Nat} {bs : List UInt8} {e : Stop}
    (h : pkt.write offset bs = .error e) :
  e = .outOfBounds ∧ pkt.pktBuffer.length < offset + bs.length
  := by
  rw [NetSimPacket.write] at h
  split at h
  · cases h
  · next hwrite =>
      cases h
      rw [Bytes.write] at hwrite
      split at hwrite
      · cases hwrite
      · next hlt =>
          cases hwrite
          exact ⟨rfl, lt_of_not_ge hlt⟩

/-- Reading the frame of a packet fails only out of its bounds. -/
theorem NetSimPacket.pktbuf_error {host : ByteOrder} {pkt : NetSimPacket} {e : Stop}
    (h : pkt.pktbuf host = .error e) :
  e = .outOfBounds
  := by
  rw [NetSimPacket.pktbuf, NetSimPacket.pktbufSize] at h
  by_cases hlen : DataInd.psduLen.offset + DataInd.psduLen.size ≤ pkt.pktBuffer.length
  · rw [Field.readNet_ok host hlen] at h
    simp only [bind, Except.bind, Bytes.read] at h
    split at h
    · cases h
    · cases h
      rfl
  · rw [Field.readNet_outside host (lt_of_not_ge hlen)] at h
    cases h
    rfl

/-- When the relay of a packet fails, the thread stops out of the bounds of its buffer. -/
theorem processTxEntry_outOfBounds {host : ByteOrder} {env : Env} {i : Nat} {pkt : NetSimPacket}
    (h : m.nodes p = .live n) (hstarted : n.txTimer.started) (hexpired : env.Expired p)
    (hstate : n.curState = .tx) (hpkt : n.txPkt = some pkt) (hcollided : pkt.collision = false)
    (hfail : ∀ pkt₁ pkt₂ bytes,
      ({ pkt with txDoneResult := txDoneOk } : NetSimPacket).setRSSI 127 = .ok pkt₁ →
      pkt₁.generateChecksum host = .ok pkt₂ → pkt₂.pktbuf host ≠ .ok bytes) :
  ∃ m', processTxEntry host env i p m = .error .outOfBounds m'
  := by
  rw [Env.Expired] at hexpired
  simp only [txDoneOk, hcollided] at hfail
  have hrun : ∀ x, processTxEntry host env i p m = x → ∃ m', x = .error .outOfBounds m' := by
    intro x hx
    simp [processTxEntry, timerExpired_eq h, DeviceNode.timer, hstarted, hexpired, deref_apply, h,
      hpkt, handleTxTimerExpired, hstate, stopTimer, DeviceNode.setTimer, hcollided, setCurState,
      derefTxPkt, send, txDoneOk, txPacket, Medium.putNode, Medium.record] at hx
    cases hrssi : ({ pkt with
        collision := false, txDoneResult := 0 } : NetSimPacket).setRSSI 127 with
    | error e =>
        simp [hrssi] at hx
        rw [(NetSimPacket.write_error hrssi).1] at hx
        exact ⟨_, hx.symm⟩
    | ok pkt₁ =>
        cases hcksum : pkt₁.generateChecksum host with
        | error e =>
            simp [hrssi, hcksum] at hx
            rw [(NetSimPacket.write_error hcksum).1] at hx
            exact ⟨_, hx.symm⟩
        | ok pkt₂ =>
            cases hbytes : pkt₂.pktbuf host with
            | error e =>
                simp [hrssi, hcksum, hbytes] at hx
                rw [NetSimPacket.pktbuf_error hbytes] at hx
                exact ⟨_, hx.symm⟩
            | ok bytes => apply absurd hbytes (hfail pkt₁ pkt₂ bytes hrssi hcksum)
  apply hrun _ rfl

/-- What becomes of an entry of the transmit list whose node is transmitting a packet. -/
inductive TxResult (host : ByteOrder) (env : Env) (m : Medium) (i : Nat) (p : NodePtr)
    (n : DeviceNode) (pkt : NetSimPacket) : EStateM.Result Stop Medium Nat → Prop where
  | failed : env.nodeTimerGettime p = none →
      TxResult host env m i p n pkt (.error (.exception "DeviceNodeTimer: failed to get time") m)
  | waits {left : Timespec} : env.nodeTimerGettime p = some left → left ≠ ⟨0, 0⟩ →
      TxResult host env m i p n pkt (.ok (i + 1) m)
  | collided : env.Expired p → pkt.collision →
      TxResult host env m i p n pkt (.ok i ((Effect.conclude i p n pkt []).apply m))
  | done {pkt₁ pkt₂ : NetSimPacket} {bytes : List UInt8} : env.Expired p → pkt.collision = false →
      ({ pkt with txDoneResult := txDoneOk } : NetSimPacket).setRSSI 127 = .ok pkt₁ →
      pkt₁.generateChecksum host = .ok pkt₂ → pkt₂.pktbuf host = .ok bytes →
      TxResult host env m i p n pkt (.ok i ((Effect.conclude i p n pkt pkt₂.pktBuffer).apply m))
  | outOfBounds {m' : Medium} : env.Expired p → pkt.collision = false →
      (∀ pkt₁ pkt₂ bytes,
        ({ pkt with txDoneResult := txDoneOk } : NetSimPacket).setRSSI 127 = .ok pkt₁ →
        pkt₁.generateChecksum host = .ok pkt₂ → pkt₂.pktbuf host ≠ .ok bytes) →
      TxResult host env m i p n pkt (.error .outOfBounds m')

theorem processTxEntry_result {pkt : NetSimPacket} (h : m.nodes p = .live n)
    (hstarted : n.txTimer.started) (hstate : n.curState = .tx) (hpkt : n.txPkt = some pkt)
    (host : ByteOrder) (env : Env) (i : Nat) :
  TxResult host env m i p n pkt (processTxEntry host env i p m)
  := by
  cases hleft : env.nodeTimerGettime p with
  | none =>
      have hfailed : processTxEntry host env i p m
          = .error (.exception "DeviceNodeTimer: failed to get time") m := by
        simp [processTxEntry, timerExpired_eq h, DeviceNode.timer, hstarted, hleft]
      rw [hfailed]
      apply TxResult.failed hleft
  | some left =>
      by_cases hexpired : left = ⟨0, 0⟩
      · subst hexpired
        by_cases hcollided : pkt.collision
        · rw [processTxEntry_collided h hstarted hleft hstate hpkt hcollided []]
          apply TxResult.collided hleft hcollided
        · have hclear : pkt.collision = false := by simpa using hcollided
          by_cases hfail : ∃ pkt₁ pkt₂ bytes,
              ({ pkt with txDoneResult := txDoneOk } : NetSimPacket).setRSSI 127 = .ok pkt₁ ∧
              pkt₁.generateChecksum host = .ok pkt₂ ∧ pkt₂.pktbuf host = .ok bytes
          · obtain ⟨pkt₁, pkt₂, bytes, hrssi, hcksum, hbytes⟩ := hfail
            rw [processTxEntry_done h hstarted hleft hstate hpkt hclear hrssi hcksum hbytes]
            apply TxResult.done hleft hclear hrssi hcksum hbytes
          · have hnone : ∀ pkt₁ pkt₂ bytes,
                ({ pkt with txDoneResult := txDoneOk } : NetSimPacket).setRSSI 127 = .ok pkt₁ →
                pkt₁.generateChecksum host = .ok pkt₂ → pkt₂.pktbuf host ≠ .ok bytes := by
              intro pkt₁ pkt₂ bytes hrssi hcksum hbytes
              apply hfail
              use pkt₁, pkt₂, bytes
            obtain ⟨m', herror⟩ := @processTxEntry_outOfBounds m p n host env i pkt h hstarted hleft
              hstate hpkt hclear hnone
            rw [herror]
            apply TxResult.outOfBounds hleft hclear hnone
      · rw [processTxEntry_waiting h hstarted hleft hexpired]
        apply TxResult.waits hleft hexpired

/-- What becomes of an entry of the transmit list whose node is not transmitting a packet: it
stays on the list, or the thread stops. -/
theorem processTxEntry_other {host : ByteOrder} {env : Env} {i : Nat}
    (h : m.nodes p = .live n) (hother : ¬ ∃ pkt, n.txTimer.started ∧ n.curState = .tx ∧
      n.txPkt = some pkt) :
  n.txTimer.started ∧ processTxEntry host env i p m = .ok (i + 1) m ∨
    (∃ text m', processTxEntry host env i p m = .error (.exception text) m') ∨
    (∃ m', processTxEntry host env i p m = .error (.assertion (.timerExpired .txTimer)) m') ∨
    ∃ m', processTxEntry host env i p m = .error (.assertion .processTxList) m'
  := by
  by_cases hstarted : n.txTimer.started
  · cases hleft : env.nodeTimerGettime p with
    | none =>
        right; left
        simp [processTxEntry, timerExpired_eq h, DeviceNode.timer, hstarted, hleft]
    | some left =>
        by_cases hexpired : left = ⟨0, 0⟩
        · subst hexpired
          cases hpkt : n.txPkt with
          | none =>
              right; right; right
              simp [processTxEntry, timerExpired_eq h, DeviceNode.timer, hstarted, hleft,
                deref_apply, h, hpkt]
          | some pkt =>
              right; left
              cases hstate : n.curState with
              | tx => apply absurd ⟨pkt, hstarted, hstate, hpkt⟩ hother
              | registering =>
                  simp [processTxEntry, timerExpired_eq h, DeviceNode.timer, hstarted, hleft,
                    deref_apply, h, hpkt, handleTxTimerExpired, hstate]
              | active =>
                  simp [processTxEntry, timerExpired_eq h, DeviceNode.timer, hstarted, hleft,
                    deref_apply, h, hpkt, handleTxTimerExpired, hstate]
        · left
          use hstarted
          apply processTxEntry_waiting h hstarted hleft hexpired
  · right; right; left
    simp [processTxEntry, timerExpired_eq h, DeviceNode.timer, hstarted]

/-- A node that is not there stops the thread when its entry is processed. -/
theorem processTxEntry_noObject {host : ByteOrder} {env : Env} {i : Nat}
    (h : ∀ n, m.nodes p ≠ .live n) :
  processTxEntry host env i p m = .error (.noObject p) m
  := by
  simp [processTxEntry, timerExpired, deref_gone h]

/-- What becomes of an entry of the transmit list. -/
inductive EntryResult (m : Medium) (i : Nat) (p : NodePtr) :
    EStateM.Result Stop Medium Nat → Prop where
  | waits {n : DeviceNode} : m.nodes p = .live n → EntryResult m i p (.ok (i + 1) m)
  | concluded {n : DeviceNode} {pkt : NetSimPacket} (buf : List UInt8) : m.nodes p = .live n →
      n.curState = .tx → n.txPkt = some pkt → n.txTimer.started →
      EntryResult m i p (.ok i ((Effect.conclude i p n pkt buf).apply m))
  | exception {text : String} {m' : Medium} : EntryResult m i p (.error (.exception text) m')
  | outOfBounds {m' : Medium} : EntryResult m i p (.error .outOfBounds m')
  | timer {m' : Medium} : EntryResult m i p (.error (.assertion (.timerExpired .txTimer)) m')
  | noPacket {m' : Medium} : EntryResult m i p (.error (.assertion .processTxList) m')
  | noObject {m' : Medium} : EntryResult m i p (.error (.noObject p) m')

theorem processTxEntry_entry (host : ByteOrder) (env : Env) (i : Nat) (m : Medium) (p : NodePtr) :
  EntryResult m i p (processTxEntry host env i p m)
  := by
  by_cases hlive : ∃ n, m.nodes p = .live n
  · obtain ⟨n, h⟩ := hlive
    by_cases htx : ∃ pkt, n.txTimer.started ∧ n.curState = .tx ∧ n.txPkt = some pkt
    · obtain ⟨pkt, hstarted, hstate, hpkt⟩ := htx
      have hresult := processTxEntry_result h hstarted hstate hpkt host env i
      generalize processTxEntry host env i p m = r at hresult ⊢
      cases hresult with
      | failed => apply EntryResult.exception
      | waits => apply EntryResult.waits h
      | collided => apply EntryResult.concluded [] h hstate hpkt hstarted
      | done => apply EntryResult.concluded _ h hstate hpkt hstarted
      | outOfBounds => apply EntryResult.outOfBounds
    · rcases @processTxEntry_other m p n host env i h htx with
        ⟨-, hrun⟩ | ⟨text, m', hrun⟩ | ⟨m', hrun⟩ | ⟨m', hrun⟩
      all_goals rw [hrun]
      · apply EntryResult.waits h
      · apply EntryResult.exception
      · apply EntryResult.timer
      · apply EntryResult.noPacket
  · have hno : ∀ n, m.nodes p ≠ .live n := by simpa using hlive
    rw [processTxEntry_noObject hno]
    apply EntryResult.noObject

/-- Processing an entry of the transmit list leaves everything as it is, or ends the
transmission of its node. -/
theorem processTxEntry_ok {host : ByteOrder} {env : Env} {i j : Nat} {m' : Medium}
    (hmem : m.txList[i]? = some p) (hok : processTxEntry host env i p m = .ok j m') :
  j = i + 1 ∧ m' = m ∧ (∃ n, m.nodes p = .live n) ∨
    j = i ∧ ∃ n pkt buf, (Effect.conclude i p n pkt buf).Guard m ∧
      m' = (Effect.conclude i p n pkt buf).apply m
  := by
  have hentry := processTxEntry_entry host env i m p
  rw [hok] at hentry
  cases hentry with
  | @waits n hlive =>
      left
      exact ⟨rfl, rfl, n, hlive⟩
  | @concluded n pkt buf hlive hstate hpkt hstarted =>
      right
      exact ⟨rfl, n, pkt, buf, ⟨hmem, hlive, hstate, hpkt, hstarted⟩, rfl⟩

/-- The assertions that fail when an entry of the transmit list is processed. -/
theorem processTxEntry_assertion {host : ByteOrder} {env : Env} {i : Nat} {site : Assertion}
    {m' : Medium} (herror : processTxEntry host env i p m = .error (.assertion site) m') :
  site = .timerExpired .txTimer ∨ site = .processTxList
  := by
  have hentry := processTxEntry_entry host env i m p
  rw [herror] at hentry
  cases hentry with
  | timer =>
      left
      rfl
  | noPacket =>
      right
      rfl

/-! ### Collisions -/

/-- A node with a packet. -/
def Medium.HasPacket (m : Medium) (p : NodePtr) : Prop :=
  ∃ n pkt, m.nodes p = .live n ∧ n.txPkt = some pkt

/-- The nodes with the packets of some of them marked as collided. -/
def Medium.collide (m : Medium) (ps : List NodePtr) : Medium :=
  { m with nodes := fun q => if q ∈ ps then (m.nodes q).collide else m.nodes q }

/-- Marking the packet of one node, and then those of others. -/
theorem putNode_collide {pkt : NetSimPacket} {ps : List NodePtr} (h : m.nodes p = .live n)
    (hpkt : n.txPkt = some pkt) :
  (m.putNode p { n with txPkt := some { pkt with collision := true } }).collide ps
    = m.collide (p :: ps)
  := by
  have hcollide : ({ n with txPkt := some { pkt with collision := true } } : DeviceNode)
      = n.collide := by rw [DeviceNode.collide, hpkt, Option.map_some]
  have hidem : n.collide.collide = n.collide := by
    rw [DeviceNode.collide, DeviceNode.collide, hpkt]
    rfl
  rw [hcollide, Medium.collide, Medium.collide, Medium.putNode]
  congr 1
  funext q
  by_cases hq : q = p
  · subst hq
    by_cases hmem : q ∈ ps
    · simp [hmem, h, NodeCell.collide, hidem]
    · simp [hmem, h, NodeCell.collide]
  · simp [hq]

/-- The loop of `txCollisionCheck` marks the packet of every node on its list, and stops at one
that is not there or has no packet. -/
theorem setCollided_ok {ps : List NodePtr} (h : ∀ p ∈ ps, m.HasPacket p) :
  setCollided ps m = .ok () (m.collide ps)
  := by
  induction ps generalizing m with
  | nil => simp [setCollided, Medium.collide]
  | cons p ps ih =>
      obtain ⟨n, pkt, hlive, hpkt⟩ := h p (List.mem_cons_self ..)
      have hrest : ∀ q ∈ ps, (m.putNode p
          { n with txPkt := some { pkt with collision := true } }).HasPacket q := by
        intro q hq
        by_cases hqp : q = p
        · subst hqp
          exact ⟨_, _, putNode_nodes_self _ _ _, rfl⟩
        · obtain ⟨n', pkt', hlive', hpkt'⟩ := h q (List.mem_cons_of_mem p hq)
          use n', pkt', by simp [Medium.putNode, hqp, hlive']
      have hput := ih hrest
      rw [putNode_collide hlive hpkt] at hput
      simp [setCollided, deref_live hlive, derefTxPkt, hpkt, hput]

theorem setCollided_error {ps : List NodePtr} (h : ¬ ∀ p ∈ ps, m.HasPacket p) :
  ∃ m', (∃ p ∈ ps, (∀ n, m.nodes p ≠ .live n) ∧ setCollided ps m = .error (.noObject p) m') ∨
    setCollided ps m = .error .nullPointer m'
  := by
  induction ps generalizing m with
  | nil => simp at h
  | cons p ps ih =>
      by_cases hlive : ∃ n, m.nodes p = .live n
      · obtain ⟨n, hlive⟩ := hlive
        cases hpkt : n.txPkt with
        | none =>
            use m
            right
            simp [setCollided, deref_live hlive, derefTxPkt, hpkt]
        | some pkt =>
            have hrest : ¬ ∀ q ∈ ps, (m.putNode p
                { n with txPkt := some { pkt with collision := true } }).HasPacket q := by
              intro hall
              apply h
              intro q hq
              by_cases hqp : q = p
              · subst hqp
                exact ⟨n, pkt, hlive, hpkt⟩
              · obtain ⟨n', pkt', hlive', hpkt'⟩ := hall q ((List.mem_cons.mp hq).resolve_left hqp)
                use n', pkt'
                simpa [Medium.putNode, hqp] using And.intro hlive' hpkt'
            obtain ⟨m', ⟨q, hq, hgone, herror⟩ | herror⟩ := ih hrest
            · use m'
              left
              have hqp : q ≠ p := by
                intro heq
                subst heq
                apply hgone _ (putNode_nodes_self _ _ _)
              use q, List.mem_cons_of_mem p hq
              constructor
              · intro n' hn'
                apply hgone n'
                simpa [Medium.putNode, hqp] using hn'
              · simp [setCollided, deref_live hlive, derefTxPkt, hpkt, herror]
            · use m'
              right
              simp [setCollided, deref_live hlive, derefTxPkt, hpkt, herror]
      · have hgone : ∀ n, m.nodes p ≠ .live n := by simpa using hlive
        use m
        left
        use p, List.mem_cons_self .., hgone
        simp [setCollided, deref_gone hgone]

/-- What `txCollisionCheck` does when it does not stop. -/
theorem txCollisionCheck_ok {kind : Kind} {m' : Medium}
    (hok : txCollisionCheck kind m = .ok () m') :
  (m' = m ∧ (kind = .wireless ∨ m.txList.length ≤ 1)) ∨
    kind = .powerline ∧ Effect.collide.Guard m ∧ m' = Effect.collide.apply m
  := by
  cases kind with
  | wireless =>
      cases hok
      left
      exact ⟨rfl, Or.inl rfl⟩
  | powerline =>
      by_cases hmany : 1 < m.txList.length
      · by_cases hall : ∀ p ∈ m.txList, m.HasPacket p
        · simp [txCollisionCheck, hmany, setCollided_ok hall] at hok
          right
          exact ⟨rfl, ⟨hmany, hall⟩, hok.symm⟩
        · obtain ⟨m₁, ⟨p, hp, hgone, herror⟩ | herror⟩ := setCollided_error hall
          · simp [txCollisionCheck, hmany, herror] at hok
          · simp [txCollisionCheck, hmany, herror] at hok
      · simp [txCollisionCheck, hmany] at hok
        left
        exact ⟨hok.symm, Or.inr (le_of_not_gt hmany)⟩

/-- When `txCollisionCheck` stops, it is at a node that is not there or has no packet. -/
theorem txCollisionCheck_error {kind : Kind} {m' : Medium} {e : Stop}
    (herror : txCollisionCheck kind m = .error e m') :
  (∃ p ∈ m.txList, (∀ n, m.nodes p ≠ .live n) ∧ e = .noObject p) ∨ e = .nullPointer
  := by
  cases kind with
  | wireless => cases herror
  | powerline =>
      by_cases hmany : 1 < m.txList.length
      · by_cases hall : ∀ p ∈ m.txList, m.HasPacket p
        · simp [txCollisionCheck, hmany, setCollided_ok hall] at herror
        · obtain ⟨m₁, ⟨p, hp, hgone, hstop⟩ | hstop⟩ := setCollided_error hall
          · simp [txCollisionCheck, hmany, hstop] at herror
            left
            exact ⟨p, hp, hgone, herror.1.symm⟩
          · simp [txCollisionCheck, hmany, hstop] at herror
            right
            apply herror.1.symm
      · simp [txCollisionCheck, hmany] at herror

/-! ### Clear channel assessments -/

/-- The first node on the clear channel assessment list is answered, if it is there. -/
theorem processCcaEntry_cons {rest : List NodePtr} (hlist : m.ccaList = p :: rest) :
  (∃ n, m.nodes p = .live n) ∧ processCcaEntry m = .ok () ((Effect.answer p rest).apply m) ∨
    (∀ n, m.nodes p ≠ .live n) ∧ processCcaEntry m = .error (.noObject p) m
  := by
  by_cases hlive : ∃ n, m.nodes p = .live n
  · left
    use hlive
    obtain ⟨n, hlive⟩ := hlive
    simp [processCcaEntry, hlist, deref_apply, hlive, send, Medium.record, Effect.apply]
  · right
    have hgone : ∀ n, m.nodes p ≠ .live n := by simpa using hlive
    use hgone
    simp [processCcaEntry, hlist, deref_gone hgone]

end X6losim
