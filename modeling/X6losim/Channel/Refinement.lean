import X6losim.Channel.View
import X6losim.Invariant.StateVariable

/-!
# A medium refines a channel

What is seen of a medium in a run in which it is not being stopped, and no node is cut off, is what
a channel may do.  So the general facts about channels hold of a medium: what it multicasts for a
node has been sent by the node, in that order.
-/

open Bytes

namespace X6losim

variable {host : ByteOrder} {kind : Kind} {env : Env} {m m' : Medium} {p : NodePtr}
  {n : DeviceNode} {pkt : NetSimPacket} {s s' : Sys} {i : Input} {pc pc' : Pc}
  {carries : List UInt8 → List UInt8 → Prop}

/-- Packets are on the transmit list of a powerline medium together, and will be marked as collided
before any transmission ends. -/
def Sys.Unmarked (kind : Kind) (s : Sys) : Prop :=
  kind = .powerline ∧ 1 < s.med.txList.length ∧ ∀ i, s.pc ≠ .processTxList i

/-- The channel that a medium is. -/
def Sys.channel (kind : Kind) (s : Sys) : Channel NodePtr (List UInt8) :=
  s.med.channel (s.Unmarked kind)

/-- What is seen of a step of a medium. -/
def Sys.look (s s' : Sys) : List (Channel.Act NodePtr (List UInt8)) := s.med.look s'.med

/-- What holds of the states of a run in which no node has been cut off, and the medium has not been
asked to stop. -/
structure Tidy (kind : Kind) (s : Sys) : Prop where
  noneCutOff : NoneCutOff s
  state : s.med.state ≠ .stopping → s.pc.StateOk s.med
  /-- While transmissions end, those that are on the list together are marked. -/
  marked : ∀ i, s.pc = .processTxList i → kind = .powerline → 1 < s.med.txList.length →
    ∀ p pkt, (s.med.nodes p).txPkt = some pkt → pkt.collision

/-! ### What a step leaves unmarked -/

theorem unmarked_congr (htxList : s'.med.txList = s.med.txList)
    (hpc : ∀ i, s.pc ≠ .processTxList i) (hpc' : ∀ i, s'.pc ≠ .processTxList i) :
  s'.Unmarked kind ↔ s.Unmarked kind
  := by
  simp [Sys.Unmarked, htxList, hpc, hpc']

theorem not_unmarked {j : Nat} :
  ¬ Sys.Unmarked kind ⟨.processTxList j, m⟩
  := by
  rintro ⟨-, -, hpc⟩
  apply hpc j rfl

/-- The move of a thread does not change which packets are marked, or will be. -/
theorem Move.spoilt (h : Tidy kind ⟨pc, m⟩) (hmove : Move kind env m pc pc') (q : NodePtr) :
  (m.nodes q).Spoilt (Sys.Unmarked kind ⟨pc', m⟩) ↔ (m.nodes q).Spoilt (Sys.Unmarked kind ⟨pc, m⟩)
  := by
  cases hmove with
  | noCollision hkind =>
      have hnot : ¬ Sys.Unmarked kind ⟨.txCollisionCheck, m⟩ := by
        rintro ⟨rfl, hlen, -⟩
        rcases hkind with hkind | hkind
        · cases hkind
        · apply absurd hlen (not_lt_of_ge hkind)
      simp [NodeCell.Spoilt, hnot, not_unmarked]
  | waiting => simp [NodeCell.Spoilt, not_unmarked]
  | txProcessed =>
      have hmarked : ∀ pkt, (m.nodes q).txPkt = some pkt → Sys.Unmarked kind ⟨.inner, m⟩ →
          pkt.collision := by
        rintro pkt hpkt ⟨hkind, hlen, -⟩
        apply h.marked _ rfl hkind hlen q pkt hpkt
      simp only [NodeCell.Spoilt, not_unmarked, or_false]
      constructor
      · rintro ⟨pkt, hpkt, hcollided | hunmarked⟩
        · exact ⟨pkt, hpkt, hcollided⟩
        · exact ⟨pkt, hpkt, hmarked pkt hpkt hunmarked⟩
      · rintro ⟨pkt, hpkt, hcollided⟩
        exact ⟨pkt, hpkt, Or.inl hcollided⟩
  | _ => simp [Sys.Unmarked]

/-! ### Steps -/

namespace Tidy

theorem initial (kind : Kind) :
  Tidy kind ⟨.start, Medium.new⟩
  where
  noneCutOff := .initial
  state _ := rfl
  marked i hpc := by cases hpc

/-- The places at which transmissions end are reached with those on the list marked. -/
theorem marked_next (h : Tidy kind s) (hthere : s'.pc ≠ .deleted → s'.med.TxThere)
    (hnext : Next host kind s i s') :
  ∀ i, s'.pc = .processTxList i → kind = .powerline → 1 < s'.med.txList.length →
    ∀ p pkt, (s'.med.nodes p).txPkt = some pkt → pkt.collision
  := by
  intro j hpc hkind hlen q pkt hpkt
  cases hnext with
  | move hmove =>
      cases hmove with
      | noCollision hor =>
          rcases hor with hor | hor
          · rw [hkind] at hor
            cases hor
          · apply absurd hlen (not_lt_of_ge hor)
      | waiting => apply h.marked _ rfl hkind hlen q pkt hpkt
      | _ => cases hpc
  | @collide m env _ hguard =>
      by_cases hmem : q ∈ m.txList
      · obtain ⟨n, pkt', hlive, hpkt'⟩ := hguard.2 q hmem
        simp [Effect.apply, hmem, hlive, NodeCell.collide, NodeCell.txPkt, DeviceNode.collide,
          hpkt'] at hpkt
        rw [← hpkt]
      · have hsame : (Effect.collide.apply m).nodes q = m.nodes q := by simp [Effect.apply, hmem]
        have hthere' : m.TxThere := h.noneCutOff.there (by simp)
        have hne : (m.nodes q).txPkt ≠ none := by
          rw [← hsame, hpkt]
          simp
        apply absurd ((h.noneCutOff.consistent.txPkt_iff hthere').mp hne) hmem
  | @conclude m env i p n pkt' buf hguard =>
      have hbefore : 1 < m.txList.length := by
        apply lt_of_lt_of_le hlen (List.length_eraseIdx_le ..)
      by_cases hq : q = p
      · subst hq
        simp [Effect.apply, NodeCell.txPkt] at hpkt
      · simp only [Effect.apply, Function.update_of_ne hq] at hpkt
        apply h.marked i rfl hkind hbefore q pkt hpkt
  | @add m env pc p socket hfresh =>
      by_cases hq : q = p
      · subst hq
        simp [Effect.apply, NodeCell.txPkt, DeviceNode.registering, DeviceNode.new] at hpkt
      · simp only [Effect.apply, Function.update_of_ne hq] at hpkt
        apply h.marked j hpc hkind hlen q pkt hpkt
  | stop => apply h.marked j hpc hkind hlen q pkt hpkt
  | _ => cases hpc

theorem next (h : Tidy kind s) (hcut : ¬ CutsOff host s i) (hrunning : s.med.state ≠ .stopping)
    (hnext : Next host kind s i s') :
  Tidy kind s'
  where
  noneCutOff := h.noneCutOff.next hcut hnext
  state hrunning' := (h.state hrunning).next hrunning hrunning' hnext
  marked := h.marked_next (h.noneCutOff.next hcut hnext).there hnext

/-- A step that leaves the nodes and what is asked as they are, and is not seen. -/
theorem quiet {es : List Event} (hnodes : s'.med.nodes = s.med.nodes)
    (hcca : s'.med.ccaList = s.med.ccaList) (hlog : s'.med.log = s.med.log ++ es)
    (hes : acts s'.med es = [])
    (hspoilt : ∀ q, (s.med.nodes q).Spoilt (s'.Unmarked kind) ↔
      (s.med.nodes q).Spoilt (s.Unmarked kind)) :
  (Channel.spec (kind = .powerline) carries).Does (s.channel kind) (s.look s') (s'.channel kind)
  := by
  have hsame : s'.channel kind = s.channel kind := by
    apply Medium.channel_eq _ hcca.symm
    intro q
    have hq := s.med.channel_shows (s.Unmarked kind) q
    rw [hnodes]
    exact ⟨hq.invited, hq.joined, hq.sending, hq.spoilt.trans (hspoilt q).symm⟩
  rw [Sys.look, Medium.look_eq hlog, hes, hsame]
  apply Specification.Does.nil

/-- A step that has an effect. -/
theorem effect {eff : Effect}
    (hseen : eff.Seen (kind = .powerline) carries m (Sys.Unmarked kind ⟨pc, m⟩)
      (Sys.Unmarked kind ⟨pc', eff.apply m⟩)) :
  (Channel.spec (kind = .powerline) carries).Does (Sys.channel kind ⟨pc, m⟩)
    (Sys.look ⟨pc, m⟩ ⟨pc', eff.apply m⟩) (Sys.channel kind ⟨pc', eff.apply m⟩)
  := hseen.look

/-- A step that has an effect, and changes nothing about what will be marked. -/
theorem effect_same {eff : Effect}
    (hseen : eff.Seen (kind = .powerline) carries m (Sys.Unmarked kind ⟨pc, m⟩)
      (Sys.Unmarked kind ⟨pc, m⟩))
    (hunmarked : Sys.Unmarked kind ⟨pc', eff.apply m⟩ ↔ Sys.Unmarked kind ⟨pc, m⟩) :
  (Channel.spec (kind = .powerline) carries).Does (Sys.channel kind ⟨pc, m⟩)
    (Sys.look ⟨pc, m⟩ ⟨pc', eff.apply m⟩) (Sys.channel kind ⟨pc', eff.apply m⟩)
  := by
  apply Tidy.effect
  rw [propext hunmarked]
  apply hseen

/-- An event of a node that is not cut off is seen. -/
theorem poll {ph : Phase} {ev : PollEvent} {evs : List PollEvent} {eff : Effect}
    (h : Tidy kind ⟨.poll ph (ev :: evs), m⟩)
    (hcut : ¬ CutsOff host ⟨.poll ph (ev :: evs), m⟩ (.run env)) (hdata : ev.data = .node p)
    (hlive : m.nodes p = .live n) (heff : PollEffect host ev p n eff) (hguard : eff.Guard m) :
  (Channel.spec (kind = .powerline) carries).Does (Sys.channel kind ⟨.poll ph (ev :: evs), m⟩)
    (Sys.look ⟨.poll ph (ev :: evs), m⟩ ⟨.poll ph evs, eff.apply m⟩)
    (Sys.channel kind ⟨.poll ph evs, eff.apply m⟩)
  := by
  have hcons : TxConsistent m := h.noneCutOff.consistent
  have hthere : m.TxThere := h.noneCutOff.there (by simp)
  have hcca : p ∉ m.ccaList := by
    intro hp
    apply h.noneCutOff.waiting.apart rfl p hp
    rw [← hdata]
    apply List.mem_map_of_mem (List.mem_cons_self ..)
  have hsame : (eff.apply m).txList = m.txList →
      (Sys.Unmarked kind ⟨.poll ph evs, eff.apply m⟩ ↔
        Sys.Unmarked kind ⟨.poll ph (ev :: evs), m⟩) := by
    intro htxList
    apply unmarked_congr htxList <;> simp
  have hdisconnect : ∀ asked, ev.Disconnects host n →
      (Effect.disconnect p n asked).Guard m →
      (Effect.disconnect p n asked).Seen (kind = .powerline) carries m
        (Sys.Unmarked kind ⟨.poll ph (ev :: evs), m⟩)
        (Sys.Unmarked kind ⟨.poll ph (ev :: evs), m⟩) := by
    intro asked hdisconnects hguard
    have hidle : p ∉ m.txList := by
      intro hp
      apply hcut
      exact .event hdata hlive hp hdisconnects
    apply seen_disconnect hguard (hcons.idle hidle hlive).txPkt hcca
  cases heff with
  | closed hrdhup =>
      apply Tidy.effect_same
      · apply hdisconnect false (Or.inl hrdhup) hguard
      · apply hsame rfl
  | failedRead =>
      apply Tidy.effect_same
      · apply seen_failedRead hlive
      · apply hsame rfl
  | handled _ _ _ _ _ hinput hread heff =>
      cases heff with
      | confirm =>
          apply Tidy.effect_same
          · apply seen_confirm hguard
          · apply hsame rfl
      | disconnect =>
          apply Tidy.effect_same
          · apply hdisconnect true (Or.inr ⟨hinput, _, _, hread⟩) hguard
          · apply hsame rfl
      | request =>
          apply Tidy.effect_same
          · apply seen_request hguard
          · apply hsame rfl
      | transmit pkt itValue =>
          have hidle : p ∉ m.txList := by
            apply hcons.not_mem hlive
            rw [hguard.2.1]
            simp
          apply Tidy.effect
          apply seen_transmit hguard (hcons.idle hidle hlive).txPkt
          · rintro ⟨hkind, hlen, -⟩
            have hmore : m.txList.length ≤ (m.txList ++ [p]).length := by simp
            exact ⟨hkind, lt_of_lt_of_le hlen hmore, by simp⟩
          · rw [hcons.clear_iff hthere, ← ne_eq, ← List.length_pos_iff]
            simp [Sys.Unmarked, Effect.apply]

/-- A node is told that the channel is clear when no node transmits. -/
theorem answer {ph : Phase} {rest : List NodePtr} (h : Tidy kind ⟨.processCcaList ph, m⟩)
    (hrunning : m.state ≠ .stopping) (hguard : (Effect.answer p rest).Guard m) :
  (Channel.spec (kind = .powerline) carries).Does (Sys.channel kind ⟨.processCcaList ph, m⟩)
    (Sys.look ⟨.processCcaList ph, m⟩ ⟨.processCcaList ph, (Effect.answer p rest).apply m⟩)
    (Sys.channel kind ⟨.processCcaList ph, (Effect.answer p rest).apply m⟩)
  := by
  have hthere : m.TxThere := h.noneCutOff.there (by simp)
  apply Tidy.effect_same
  · apply seen_answer hguard
    rw [h.noneCutOff.consistent.clear_iff hthere]
    apply (Pc.StateOk.processCcaList (h.state hrunning)).1
  · apply unmarked_congr rfl <;> simp

/-- Nodes that have not confirmed their registrations in time leave. -/
theorem sweep {effs : List Effect} (h : Tidy kind ⟨.checkNodeRegistrationTimeout, m⟩)
    (hrunning : m.state ≠ .stopping) (heffs : Effects m effs m')
    (hexpiry : ∀ eff ∈ effs, eff.IsExpiry env) :
  (Channel.spec (kind = .powerline) carries).Does
    (Sys.channel kind ⟨.checkNodeRegistrationTimeout, m⟩)
    (Sys.look ⟨.checkNodeRegistrationTimeout, m⟩ ⟨.again, m'⟩) (Sys.channel kind ⟨.again, m'⟩)
  := by
  have hcons : TxConsistent m := h.noneCutOff.consistent
  have hcca : m.ccaList = [] := h.noneCutOff.waiting.empty trivial
  have hstill : ¬ Sys.Unmarked kind ⟨.checkNodeRegistrationTimeout, m⟩ := by
    rintro ⟨-, hlen, -⟩
    have htxList : m.txList = [] := (h.state hrunning).txList
    simp [htxList] at hlen
  have hdone : (∀ q n, m'.nodes q = .live n → m.nodes q = .live n) ∧ m'.ccaList = [] ∧
      m'.txList = m.txList ∧ ∃ es, m'.log = m.log ++ es ∧ ∀ m₂,
        (Channel.spec (kind = .powerline) carries).Does (m.channel False) (acts m₂ es)
          (m'.channel False) := by
    apply heffs.invariant (P := fun m₁ => (∀ q n, m₁.nodes q = .live n → m.nodes q = .live n) ∧
      m₁.ccaList = [] ∧ m₁.txList = m.txList ∧ ∃ es, m₁.log = m.log ++ es ∧ ∀ m₂,
        (Channel.spec (kind = .powerline) carries).Does (m.channel False) (acts m₂ es)
          (m₁.channel False)) _ hexpiry
    · rintro m₁ eff ⟨hlive₁, hcca₁, htx₁, es, hlog, hdone⟩ ⟨key, p, n, rfl, -⟩ hguard
      have hlive := hlive₁ p n hguard.2.1
      have hidle : p ∉ m.txList := by
        apply hcons.not_mem hlive
        rw [hguard.2.2.2.1]
        simp
      have hseen : (Effect.expire key p n).Seen (kind = .powerline) carries m₁ False False :=
        seen_expire hguard (hcons.idle hidle hlive).txPkt (by simp [hcca₁])
      refine ⟨?_, hcca₁, htx₁, es ++ deleteEvents p n, ?_, ?_⟩
      · intro q n' hq
        rcases live_of_update hq with ⟨-, hq⟩ | ⟨-, hq⟩
        · cases hq
        · apply hlive₁ q n' hq
      · rw [Effect.log_apply, hlog, List.append_assoc]
        rfl
      · intro m₂
        rw [acts, List.filterMap_append, ← acts, ← acts, acts_deleteEvents]
        apply (hdone m₂).append
        rw [← acts_deleteEvents ((Effect.expire key p n).apply m₁) p n]
        apply hseen
    · exact ⟨fun q n hq => hq, hcca, rfl, [], (List.append_nil _).symm, fun m₂ => .nil _⟩
  obtain ⟨-, -, htx, es, hlog, hdone⟩ := hdone
  have hstill' : ¬ Sys.Unmarked kind ⟨.again, m'⟩ := by
    rintro ⟨-, hlen, -⟩
    have htxList : m.txList = [] := (h.state hrunning).txList
    rw [htx, htxList] at hlen
    simp at hlen
  rw [Sys.look, Medium.look_eq hlog, Sys.channel, Sys.channel, propext (iff_false_intro hstill),
    propext (iff_false_intro hstill')]
  apply hdone

/-- A step that ends a transmission multicasts what is relayed from its packet, if it has not
collided. -/
theorem conclude_relays {j : Nat} {buf : List UInt8}
    (hpkt : PktNext host ⟨.processTxList j, m⟩ i
      ⟨.processTxList j, (Effect.conclude j p n pkt buf).apply m⟩)
    (hguard : (Effect.conclude j p n pkt buf).Guard m) (hclean : pkt.collision = false) :
  Relays host pkt.pktBuffer buf
  := by
  have hshorter : ((Effect.conclude j p n pkt buf).apply m).txList.length < m.txList.length := by
    obtain ⟨hj, -⟩ := List.getElem?_eq_some_iff.mp hguard.1
    have hlength : (m.txList.eraseIdx j).length = m.txList.length - 1 :=
      List.length_eraseIdx_of_lt hj
    rw [Effect.apply, hlength]
    omega
  cases hpkt with
  | neutral hkept =>
      apply absurd (congrArg List.length hkept.txList) (ne_of_lt hshorter)
  | @transmit q msg n' pkt' itValue _ _ _ hmed =>
      have htxList := congrArg (fun m : Medium => m.txList.length) hmed
      have hlength : (m.txList ++ [q]).length = m.txList.length + 1 := by simp
      simp only [Effect.apply] at htxList hshorter
      omega
  | collide _ hmed =>
      apply absurd (congrArg (fun m : Medium => m.txList.length) hmed) (ne_of_lt hshorter)
  | @conclude j' q n' pkt' buf' hguard' hrelays hmed =>
      have hlog : concludeEvents p pkt buf = concludeEvents q pkt' buf' := by
        have hlogs := congrArg Medium.log hmed
        rw [Effect.log_apply, Effect.log_apply] at hlogs
        apply List.append_cancel_left hlogs
      have hp : p = q := by
        simp only [concludeEvents, List.cons_append] at hlog
        cases (List.cons.inj hlog).1
        rfl
      subst hp
      have hn : n = n' := by
        have hlive : NodeCell.live n = .live n' := hguard.2.1.symm.trans hguard'.2.1
        cases hlive
        rfl
      subst hn
      have hsame : pkt = pkt' :=
        Option.some.inj (hguard.2.2.2.1.symm.trans hguard'.2.2.2.1)
      subst hsame
      simp only [concludeEvents, hclean] at hlog
      simp at hlog
      rw [hlog]
      apply hrelays hclean

/-- A step of a medium is seen as something that the channel may do. -/
theorem refines (h : Tidy kind s) (hcut : ¬ CutsOff host s i)
    (hrunning : s.med.state ≠ .stopping) (henabled : s.Enabled i)
    (hstep : s.step host kind i = .ok s') :
  (Channel.spec (kind = .powerline) (Relays host)).Does (s.channel kind) (s.look s')
    (s'.channel kind)
  := by
  cases hnext : next_of_step henabled hstep with
  | @move m env pc pc' hmove =>
      refine Tidy.quiet rfl rfl (List.append_nil _).symm rfl ?_
      intro q
      apply hmove.spoilt h
  | start m env curTime =>
      refine Tidy.quiet rfl rfl (List.append_nil _).symm rfl ?_
      intro q
      simp [Sys.Unmarked]
  | interval m env ph =>
      refine Tidy.quiet rfl rfl rfl rfl ?_
      intro q
      simp [Sys.Unmarked, Medium.record]
  | poll hdata hlive heff hguard => apply h.poll hcut hdata hlive heff hguard
  | unblocked =>
      refine Tidy.quiet rfl rfl (List.append_nil _).symm rfl ?_
      intro q
      simp [Sys.Unmarked]
  | mark =>
      refine Tidy.quiet rfl rfl (List.append_nil _).symm rfl ?_
      intro q
      simp [Sys.Unmarked]
  | answer hguard => apply h.answer hrunning hguard
  | @collide m env hkind hguard =>
      apply Tidy.effect
      apply seen_collide h.noneCutOff.consistent (h.noneCutOff.there (by simp))
      exact ⟨hkind, hguard.1, by simp⟩
  | @conclude m env j p n pkt buf hguard =>
      apply Tidy.effect_same
      · apply seen_conclude hguard _ not_unmarked
        intro hclean
        apply conclude_relays (pktNext_of_step henabled hstep) hguard hclean
      · simp [not_unmarked]
  | resetIdle m env =>
      refine Tidy.quiet rfl rfl (List.append_nil _).symm rfl ?_
      intro q
      simp [Sys.Unmarked]
  | sweep heffs hexpiry => apply h.sweep hrunning heffs hexpiry
  | exiting m env => apply False.elim (h.state hrunning)
  | @add m env pc p socket hfresh =>
      apply Tidy.effect_same
      · apply seen_add hfresh.1
      · simp [Sys.Unmarked, Effect.apply]
  | stop m pc =>
      refine Tidy.quiet rfl rfl (List.append_nil _).symm rfl ?_
      intro q
      simp [Sys.Unmarked]
  | delete => apply False.elim (h.state hrunning)

end Tidy

/-! ### Runs -/

/-- What is seen of a run of a medium. -/
def seen (visits : List (Sys × Input)) (s : Sys) : List (Channel.Act NodePtr (List UInt8)) :=
  Machine.seen Sys.look visits s

/-- A step of a run that neither cuts a node off nor is taken while the medium is being stopped. -/
structure Steady (host : ByteOrder) (s : Sys) (i : Input) : Prop where
  not_cutsOff : ¬ CutsOff host s i
  running : s.med.state ≠ .stopping

theorem channel_new (kind : Kind) :
  Sys.channel kind ⟨.start, Medium.new⟩ = Channel.empty
  := by
  apply Medium.channel_eq _ rfl
  intro q
  constructor
  · simp [Channel.empty, Medium.new, NodeCell.Invited]
  · simp [Channel.empty, Medium.new, NodeCell.Joined]
  · rfl
  · simp [Channel.empty, Medium.new, NodeCell.Spoilt, NodeCell.txPkt]

/-- A steady run keeps a medium tidy, and what is seen of it is what a channel may do. -/
theorem Tidy.run {visits : List (Sys × Input)}
    (run : (medium host kind).Run ⟨.start, Medium.new⟩ visits s)
    (hsteady : ∀ v ∈ visits, Steady host v.1 v.2) :
  Tidy kind s ∧
    (Channel.spec (kind = .powerline) (Relays host)).Does .empty (seen visits s) (s.channel kind)
  := by
  rw [← channel_new kind]
  apply run.refines (P := Tidy kind) (Sys.channel kind) Sys.look (.initial kind) hsteady
  intro x y i hx henabled hgood hstep
  have hnext := next_of_step henabled hstep
  exact ⟨hx.next hgood.not_cutsOff hgood.running hnext,
    hx.refines hgood.not_cutsOff hgood.running henabled hstep⟩

/-- A medium refines a channel: what is seen of a run of it, while it is not being stopped and no
node is cut off, is what a channel may do, and the channel is in the end as the medium shows it.  On
a powerline medium frames collide. -/
theorem medium_refines_channel {visits : List (Sys × Input)}
    (run : (medium host kind).Run ⟨.start, Medium.new⟩ visits s)
    (hsteady : ∀ v ∈ visits, Steady host v.1 v.2) :
  (Channel.spec (kind = .powerline) (Relays host)).Does .empty (seen visits s) (s.channel kind)
  := (Tidy.run run hsteady).2

/-- A run that has not been asked to stop, and at the end of which the nodes on the transmit list
are there, has been steady. -/
theorem Running.steady (h : Running host kind s) (hthere : s.med.TxThere) :
  ∃ visits, (medium host kind).Run ⟨.start, Medium.new⟩ visits s ∧
    ∀ v ∈ visits, Steady host v.1 v.2
  := by
  obtain ⟨⟨s₀, visits, rfl, run, hrunning⟩, -⟩ := h
  use visits, run
  intro v hv
  exact ⟨none_cutOff_of_txThere run hthere v hv, hrunning v hv⟩

/-- The frames of two nodes collide.  The first node has been told so, and the second is still
sending a frame that is spoilt. -/
theorem medium_refines_channel_collided :
  ∃ visits s, (medium .little .powerline).Run ⟨.start, Medium.new⟩ visits s ∧
    (Channel.spec (Kind.powerline = .powerline) (Relays .little)).Does .empty (seen visits s)
      (s.channel .powerline) ∧
    .sent 0 (.txDoneInd txDoneCollided) ∈ s.med.log ∧
    (s.channel .powerline).sending 0 = none ∧
    (∃ frame, (s.channel .powerline).sending 1 = some frame) ∧ 1 ∈ (s.channel .powerline).spoilt
  := by
  obtain ⟨m, n, n', pkt, pkt', hrunning, hboth, hcollided, hcollided'⟩ := running_collided .little
  have hlive' : ((Effect.conclude 0 0 n pkt []).apply m).nodes 1 = .live n' := by
    simp [Effect.apply, hboth.live']
  have hthere : ((Effect.conclude 0 0 n pkt []).apply m).TxThere := by
    intro q hq
    simp only [Effect.apply, hboth.txList] at hq
    obtain rfl : q = 1 := by simpa using hq
    exact ⟨n', hlive'⟩
  obtain ⟨visits, run, hsteady⟩ := hrunning.steady hthere
  refine ⟨visits, _, run, medium_refines_channel run hsteady, ?_, ?_, ⟨pkt'.pktBuffer, ?_⟩, ?_⟩
  · simp [Effect.apply, concludeEvents, NetSimPacket.result, hcollided]
  · simp [Sys.channel, Medium.channel, Effect.apply, NodeCell.txPkt]
  · simp [Sys.channel, Medium.channel, hlive', NodeCell.txPkt, hboth.txPkt']
  · refine ⟨pkt', ?_, Or.inl hcollided'⟩
    simp [hlive', NodeCell.txPkt, hboth.txPkt']

/-! ### Frames sent and multicast -/

/-- The packet that an event multicasts for a node. -/
def Event.multicastOf (p : NodePtr) : Event → Option (List UInt8)
  | .multicast q _ buf => if q = p then some buf else none
  | _ => none

/-- The packets that a log shows to have been multicast for a node, in order. -/
def multicastsOf (p : NodePtr) (log : List Event) : List (List UInt8) :=
  log.filterMap (Event.multicastOf p)

/-- What is multicast for a node is what is delivered from it. -/
theorem deliveredFrom_acts (p : NodePtr) (m : Medium) (es : List Event) :
  Channel.deliveredFrom p (acts m es) = multicastsOf p es
  := by
  rw [Channel.deliveredFrom, acts, List.filterMap_filterMap, multicastsOf]
  apply List.filterMap_congr
  intro e _
  cases e with
  | sent q msg => cases msg <;> rfl
  | dataIndication q k =>
      simp only [Event.act, Event.multicastOf]
      cases (m.nodes q).txPkt <;> rfl
  | _ => rfl

/-- Events are only added to the log. -/
theorem Next.log (hnext : Next host kind s i s') :
  s.med.log <+: s'.med.log
  := by
  have heffects : ∀ {m m' : Medium} {effs : List Effect}, Effects m effs m' → m.log <+: m'.log := by
    intro m m' effs heffs
    have hgood : ∀ eff ∈ effs, True := fun _ _ => trivial
    apply heffs.invariant (P := fun m₁ => m.log <+: m₁.log) List.prefix_rfl hgood
    · intro m₁ eff hm₁ _ _
      rw [eff.log_apply]
      apply hm₁.trans (List.prefix_append ..)
  have hone : ∀ (m : Medium) (eff : Effect), m.log <+: (eff.apply m).log := by
    intro m eff
    rw [eff.log_apply]
    apply List.prefix_append
  cases hnext with
  | interval => apply List.prefix_append
  | poll => apply hone
  | answer => apply hone
  | collide => apply hone
  | conclude => apply hone
  | add => apply hone
  | sweep heffs => apply heffects heffs
  | delete heffs _ heffs' => apply (heffects heffs).trans (heffects heffs')
  | _ => apply List.prefix_rfl

/-- What a run shows delivered from a node is what its log shows multicast for it. -/
theorem deliveredFrom_seen {visits : List (Sys × Input)} {s₀ : Sys}
    (run : (medium host kind).Run s₀ visits s) (hlog : s₀.med.log = []) (p : NodePtr) :
  Channel.deliveredFrom p (seen visits s) = multicastsOf p s.med.log
  := by
  induction run with
  | nil =>
      rw [hlog]
      rfl
  | @snoc x y i visits run henabled hstep ih =>
      obtain ⟨es, hes⟩ := (next_of_step henabled hstep).log
      rw [seen, Machine.seen_snoc, Channel.deliveredFrom, List.filterMap_append,
        ← Channel.deliveredFrom, ← Channel.deliveredFrom, ← seen, ih, Sys.look,
        Medium.look_eq hes.symm, deliveredFrom_acts, ← hes, multicastsOf, multicastsOf,
        multicastsOf, List.filterMap_append]

/-- What a medium has multicast for a node is relayed from frames that the node has sent, each at
most once and in their order.  A wireless medium has multicast all of them but the one that the node
is sending. -/
theorem frames_arrive {visits : List (Sys × Input)}
    (run : (medium host kind).Run ⟨.start, Medium.new⟩ visits s)
    (hsteady : ∀ v ∈ visits, Steady host v.1 v.2) (p : NodePtr) :
  ∃ arrived, List.Forall₂ (Relays host) arrived (multicastsOf p s.med.log) ∧
    (arrived ++ ((s.channel kind).sending p).toList).Sublist
      (Channel.sentBy p (seen visits s)) ∧
    (kind = .wireless →
      arrived ++ ((s.channel kind).sending p).toList = Channel.sentBy p (seen visits s))
  := by
  obtain ⟨arrived, hcarried, hsub, hall⟩ :=
    Channel.arrive_of_does (Tidy.run run hsteady).2 p
  rw [deliveredFrom_seen run rfl] at hcarried
  refine ⟨arrived, hcarried, hsub, ?_⟩
  rintro rfl
  apply hall
  simp

/-- The only frame of a node on a wireless medium is multicast. -/
theorem frames_arrive_frame :
  ∃ visits s arrived, (medium .little .wireless).Run ⟨.start, Medium.new⟩ visits s ∧
    arrived ≠ [] ∧ List.Forall₂ (Relays .little) arrived (multicastsOf 1 s.med.log) ∧
    arrived ++ ((s.channel .wireless).sending 1).toList = Channel.sentBy 1 (seen visits s)
  := by
  obtain ⟨m, n, pkt, buf, htx, hrunning⟩ := running_concluded .little .wireless 1
    (dispatched_dataFrame .little 7) (psduFits_dataFrame .little 7)
  have hthere : ((Effect.conclude 0 1 n pkt buf).apply m).TxThere := by
    intro q hq
    simp [Effect.apply, htx.txList] at hq
  obtain ⟨visits, run, hsteady⟩ := hrunning.steady hthere
  obtain ⟨arrived, hcarried, -, hall⟩ := frames_arrive run hsteady 1
  refine ⟨visits, _, arrived, run, ?_, hcarried, hall rfl⟩
  rintro rfl
  have hnone := List.forall₂_nil_left_iff.mp hcarried
  have hlog : .multicast 1 pkt.id buf ∈ ((Effect.conclude 0 1 n pkt buf).apply m).log := by
    simp [Effect.apply, concludeEvents, htx.collision]
  have hgone := List.filterMap_eq_nil_iff.mp hnone _ hlog
  simp [Event.multicastOf] at hgone

end X6losim
