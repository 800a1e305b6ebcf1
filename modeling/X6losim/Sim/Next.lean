import X6losim.Sim.Handling
import X6losim.Sim.Run
import X6losim.Sim.Transmission
import X6losim.Sim.Upkeep

/-!
# The steps of a medium

`Next` lists what a step of a medium can do: a move of its thread from place to place, an
assignment of the state variable, or an effect.  `next_of_step` says that these are all.
-/

open Bytes

namespace X6losim

/-- The moves of the thread of a medium that leave the medium as it is. -/
inductive Move (kind : Kind) (env : Env) (m : Medium) : Pc → Pc → Prop where
  | outerIdle : m.state = .idle → Move kind env m .outer (.interval .idle)
  | outerBusy : m.state ≠ .idle → Move kind env m .outer .inner
  | waited (ph : Phase) (waitms rv : Int) : rv ≤ 0 →
      Move kind env m (.epollWait ph waitms) (.timeLeft ph rv)
  | ready (ph : Phase) (waitms : Int) (evs : List PollEvent) : m.Reportable evs →
      Move kind env m (.epollWait ph waitms) (.poll ph evs)
  | timeUp (ph : Phase) (rv : Int) : Move kind env m (.timeLeft ph rv) (.polled ph)
  | waitAgain (ph : Phase) (rv waitms : Int) : 0 < rv →
      Move kind env m (.timeLeft ph rv) (.epollWait ph waitms)
  | ignored (ph : Phase) (ev : PollEvent) (evs : List PollEvent) :
      Move kind env m (.poll ph (ev :: evs)) (.poll ph evs)
  | processed (ph : Phase) : Move kind env m (.poll ph []) (.polled ph)
  | idleStopping : m.state = .stopping → Move kind env m (.polled .idle) .exiting
  | idlePolled : m.state ≠ .stopping → Move kind env m (.polled .idle) .mark
  | txStopping : m.state = .stopping → Move kind env m (.polled .tx) .left
  | txPolled : m.state ≠ .stopping → Move kind env m (.polled .tx) (.processCcaList .tx)
  | noMark : m.txList = [] → Move kind env m .mark (.processCcaList .idle)
  | idleAnswered : m.ccaList = [] → Move kind env m (.processCcaList .idle) .inner
  | txAnswered : m.ccaList = [] → Move kind env m (.processCcaList .tx) .txCollisionCheck
  | innerDone : m.txList = [] → Move kind env m .inner .left
  | innerAgain : m.txList ≠ [] → Move kind env m .inner (.interval .tx)
  | noCollision : kind = .wireless ∨ m.txList.length ≤ 1 →
      Move kind env m .txCollisionCheck (.processTxList 0)
  | waiting (i : Nat) (p : NodePtr) (n : DeviceNode) : m.txList[i]? = some p →
      m.nodes p = .live n → Move kind env m (.processTxList i) (.processTxList (i + 1))
  | txProcessed (i : Nat) : m.txList[i]? = none → Move kind env m (.processTxList i) .inner
  | leftStopping : m.state = .stopping → Move kind env m .left .again
  | leftRunning : m.state ≠ .stopping → Move kind env m .left .resetIdle
  | againStopping : m.state = .stopping → Move kind env m .again .exiting
  | againRunning : m.state ≠ .stopping → Move kind env m .again .outer

/-- What a step of a medium can do. -/
inductive Next (host : ByteOrder) (kind : Kind) : Sys → Input → Sys → Prop where
  | move {m : Medium} {env : Env} {pc pc' : Pc} : Move kind env m pc pc' →
      Next host kind ⟨pc, m⟩ (.run env) ⟨pc', m⟩
  | start (m : Medium) (env : Env) (curTime : Timespec) :
      Next host kind ⟨.start, m⟩ (.run env) ⟨.outer, { m with state := .idle, curTime }⟩
  | interval (m : Medium) (env : Env) (ph : Phase) :
      Next host kind ⟨.interval ph, m⟩ (.run env)
        ⟨.epollWait ph ph.waitms, Medium.record
          { m with curTime := timespecAddMs m.curTime ph.waitms } [.interval ph.waitms]⟩
  | poll {m : Medium} {env : Env} {ph : Phase} {ev : PollEvent} {evs : List PollEvent}
      {p : NodePtr} {n : DeviceNode} {eff : Effect} :
      ev.data = .node p → m.nodes p = .live n → PollEffect host ev p n eff → eff.Guard m →
      Next host kind ⟨.poll ph (ev :: evs), m⟩ (.run env) ⟨.poll ph evs, eff.apply m⟩
  | unblocked {m : Medium} {env : Env} {ph : Phase} {ev : PollEvent} {evs : List PollEvent} :
      Next host kind ⟨.poll ph (ev :: evs), m⟩ (.run env)
        ⟨.polled ph, { m with state := .stopping }⟩
  | mark {m : Medium} {env : Env} : m.txList ≠ [] →
      Next host kind ⟨.mark, m⟩ (.run env)
        ⟨.processCcaList .idle, { m with state := .tx802514Frame }⟩
  | answer {m : Medium} {env : Env} {ph : Phase} {p : NodePtr} {rest : List NodePtr} :
      (Effect.answer p rest).Guard m →
      Next host kind ⟨.processCcaList ph, m⟩ (.run env)
        ⟨.processCcaList ph, (Effect.answer p rest).apply m⟩
  | collide {m : Medium} {env : Env} : kind = .powerline → Effect.collide.Guard m →
      Next host kind ⟨.txCollisionCheck, m⟩ (.run env)
        ⟨.processTxList 0, Effect.collide.apply m⟩
  | conclude {m : Medium} {env : Env} {i : Nat} {p : NodePtr} {n : DeviceNode}
      {pkt : NetSimPacket} {buf : List UInt8} : (Effect.conclude i p n pkt buf).Guard m →
      Next host kind ⟨.processTxList i, m⟩ (.run env)
        ⟨.processTxList i, (Effect.conclude i p n pkt buf).apply m⟩
  | resetIdle (m : Medium) (env : Env) :
      Next host kind ⟨.resetIdle, m⟩ (.run env)
        ⟨.checkNodeRegistrationTimeout, { m with state := .idle }⟩
  | sweep {m m' : Medium} {env : Env} {effs : List Effect} : Effects m effs m' →
      (∀ eff ∈ effs, eff.IsExpiry env) →
      Next host kind ⟨.checkNodeRegistrationTimeout, m⟩ (.run env) ⟨.again, m'⟩
  | exiting (m : Medium) (env : Env) :
      Next host kind ⟨.exiting, m⟩ (.run env) ⟨.exited, { m with state := .stopped }⟩
  | add {m : Medium} {env : Env} {pc : Pc} {p : NodePtr} {socket : UInt64} :
      m.Fresh p socket →
      Next host kind ⟨pc, m⟩ (.addNode env p socket) ⟨pc, (Effect.add p socket).apply m⟩
  | stop (m : Medium) (pc : Pc) :
      Next host kind ⟨pc, m⟩ .stop ⟨pc, { m with state := .stopping }⟩
  | delete {m m₁ m' : Medium} {env : Env} {effs effs' : List Effect} : Effects m effs m₁ →
      (∀ eff ∈ effs, eff.IsDisposal .regListMap) → Effects m₁ effs' m' →
      (∀ eff ∈ effs', eff.IsDisposal .nodeHashMap) →
      Next host kind ⟨.exited, m⟩ (.deleteMedium env) ⟨.deleted, m'⟩

variable {host : ByteOrder} {kind : Kind} {env : Env} {m m' : Medium}

/-- What an event does when it does not stop the thread. -/
theorem processPollerEvent_ok {ev : PollEvent} {goOn : Bool}
    (hok : processPollerEvent host env ev m = .ok goOn m') :
  goOn = true ∧ m' = m ∨ goOn = false ∧ m' = { m with state := .stopping } ∨
    goOn = true ∧ ∃ p n eff, ev.data = .node p ∧ m.nodes p = .live n ∧
      PollEffect host ev p n eff ∧ eff.Guard m ∧ m' = eff.apply m
  := by
  cases hdata : ev.data with
  | unblocker =>
      rcases processPollerEvent_unblocker hdata host env with h | h
      · rw [h] at hok
        cases hok
        left
        exact ⟨rfl, rfl⟩
      · rw [h] at hok
        cases hok
        right; left
        exact ⟨rfl, rfl⟩
  | null =>
      rw [processPollerEvent, hdata] at hok
      split at hok
      · cases hok
      · split at hok
        · cases hok
        · cases hok
          left
          exact ⟨rfl, rfl⟩
  | node p =>
      by_cases hlive : ∃ n, m.nodes p = .live n
      · obtain ⟨n, hlive⟩ := hlive
        have hresult := processPollerEvent_node hlive hdata host env
        rw [hok] at hresult
        obtain ⟨hgo, rfl | ⟨eff, heff, hguard, happly⟩⟩ := hresult
        · left
          exact ⟨hgo, rfl⟩
        · right; right
          exact ⟨hgo, p, n, eff, rfl, hlive, heff, hguard, happly⟩
      · have hgone : ∀ n, m.nodes p ≠ .live n := by simpa using hlive
        by_cases hrdhup : ev.rdhup
        · simp [processPollerEvent_closed hdata hrdhup, deregisterNode, deref_gone hgone] at hok
        · by_cases hinput : ev.input
          · simp [processPollerEvent_input hdata hrdhup hinput, readMsg, deref_gone hgone] at hok
          · rw [processPollerEvent, if_neg hrdhup, if_neg hinput] at hok
            cases hok
            left
            exact ⟨rfl, rfl⟩

/-- A step of the thread of a medium. -/
theorem next_of_run {pc pc' : Pc} (henabled : Sys.Enabled ⟨pc, m⟩ (.run env))
    (hok : runStep host kind env pc m = .ok pc' m') :
  Next host kind ⟨pc, m⟩ (.run env) ⟨pc', m'⟩
  := by
  cases pc with
  | start =>
      cases htime : env.clockGettime with
      | none => simp [runStep, setState, htime] at hok
      | some curTime =>
          simp [runStep, setState, htime] at hok
          obtain ⟨rfl, rfl⟩ := hok
          apply Next.start
  | outer =>
      by_cases hidle : m.state = .idle
      · simp [runStep, hidle] at hok
        obtain ⟨rfl, rfl⟩ := hok
        apply Next.move (Move.outerIdle hidle)
      · simp [runStep, hidle] at hok
        obtain ⟨rfl, rfl⟩ := hok
        apply Next.move (Move.outerBusy hidle)
  | interval ph =>
      cases hsettime : env.timerSettime with
      | false => simp [runStep, armInterval, hsettime] at hok
      | true =>
          simp [runStep, armInterval, hsettime] at hok
          obtain ⟨rfl, rfl⟩ := hok
          apply Next.interval
  | epollWait ph waitms =>
      cases hwait : env.epollWait with
      | failed => simp [runStep, hwait] at hok
      | interrupted =>
          simp [runStep, hwait] at hok
          obtain ⟨rfl, rfl⟩ := hok
          apply Next.move (Move.waited ph waitms (-1) (by decide))
      | ready evs =>
          cases evs with
          | nil =>
              simp [runStep, hwait] at hok
              obtain ⟨rfl, rfl⟩ := hok
              apply Next.move (Move.waited ph waitms 0 (le_refl 0))
          | cons ev evs =>
              have hreport := henabled _ hwait
              have hmax : ¬ epollMaxEvents < (ev :: evs).length := not_lt_of_ge hreport.length_le
              simp only [runStep, hwait, if_neg hmax, Exec.pure_apply] at hok
              cases hok
              apply Next.move (Move.ready ph waitms _ hreport)
  | poll ph evs =>
      cases evs with
      | nil =>
          cases hok
          apply Next.move (Move.processed ph)
      | cons ev evs =>
          cases hev : processPollerEvent host env ev m with
          | error e m₁ => simp [runStep, hev] at hok
          | ok goOn m₁ =>
              simp [runStep, hev] at hok
              rcases processPollerEvent_ok hev with
                ⟨rfl, rfl⟩ | ⟨rfl, rfl⟩ | ⟨rfl, p, n, eff, hdata, hlive, heff, hguard, rfl⟩
              · simp at hok
                obtain ⟨rfl, rfl⟩ := hok
                apply Next.move (Move.ignored ph ev evs)
              · simp at hok
                obtain ⟨rfl, rfl⟩ := hok
                apply Next.unblocked
              · simp at hok
                obtain ⟨rfl, rfl⟩ := hok
                apply Next.poll hdata hlive heff hguard
  | timeLeft ph rv =>
      cases hleft : env.timerGettime with
      | none => simp [runStep, hleft] at hok
      | some left =>
          by_cases hagain : 0 < rv ∧ 0 < msLeft left
          · simp only [runStep, hleft, if_pos hagain, Exec.pure_apply] at hok
            cases hok
            apply Next.move (Move.waitAgain ph rv _ hagain.1)
          · simp only [runStep, hleft, if_neg hagain, Exec.pure_apply] at hok
            cases hok
            apply Next.move (Move.timeUp ph rv)
  | polled ph =>
      by_cases hstop : m.state = .stopping
      · cases ph with
        | idle =>
            simp [runStep, hstop] at hok
            obtain ⟨rfl, rfl⟩ := hok
            apply Next.move (Move.idleStopping hstop)
        | tx =>
            simp [runStep, hstop] at hok
            obtain ⟨rfl, rfl⟩ := hok
            apply Next.move (Move.txStopping hstop)
      · cases ph with
        | idle =>
            simp [runStep, hstop] at hok
            obtain ⟨rfl, rfl⟩ := hok
            apply Next.move (Move.idlePolled hstop)
        | tx =>
            simp [runStep, hstop] at hok
            obtain ⟨rfl, rfl⟩ := hok
            apply Next.move (Move.txPolled hstop)
  | mark =>
      by_cases hempty : m.txList = []
      · simp [runStep, hempty] at hok
        obtain ⟨rfl, rfl⟩ := hok
        apply Next.move (Move.noMark hempty)
      · simp [runStep, hempty, setState] at hok
        obtain ⟨rfl, rfl⟩ := hok
        apply Next.mark hempty
  | processCcaList ph =>
      cases hlist : m.ccaList with
      | nil =>
          cases ph with
          | idle =>
              simp [runStep, hlist] at hok
              obtain ⟨rfl, rfl⟩ := hok
              apply Next.move (Move.idleAnswered hlist)
          | tx =>
              simp [runStep, hlist] at hok
              obtain ⟨rfl, rfl⟩ := hok
              apply Next.move (Move.txAnswered hlist)
      | cons p rest =>
          rcases processCcaEntry_cons hlist with ⟨hlive, h⟩ | ⟨-, h⟩
          · simp [runStep, hlist, h] at hok
            obtain ⟨rfl, rfl⟩ := hok
            apply Next.answer ⟨hlist, hlive⟩
          · simp [runStep, hlist, h] at hok
  | inner =>
      by_cases hempty : m.txList = []
      · simp [runStep, hempty] at hok
        obtain ⟨rfl, rfl⟩ := hok
        apply Next.move (Move.innerDone hempty)
      · simp [runStep, hempty] at hok
        obtain ⟨rfl, rfl⟩ := hok
        apply Next.move (Move.innerAgain hempty)
  | txCollisionCheck =>
      cases hcheck : txCollisionCheck kind m with
      | error e m₁ => simp [runStep, hcheck] at hok
      | ok u m₁ =>
          simp [runStep, hcheck] at hok
          obtain ⟨rfl, rfl⟩ := hok
          rcases txCollisionCheck_ok hcheck with ⟨rfl, hnone⟩ | ⟨hkind, hguard, rfl⟩
          · apply Next.move (Move.noCollision hnone)
          · apply Next.collide hkind hguard
  | processTxList i =>
      cases hentry : m.txList[i]? with
      | none =>
          simp [runStep, hentry] at hok
          obtain ⟨rfl, rfl⟩ := hok
          apply Next.move (Move.txProcessed i hentry)
      | some p =>
          cases htx : processTxEntry host env i p m with
          | error e m₁ => simp [runStep, hentry, htx] at hok
          | ok j m₁ =>
              simp [runStep, hentry, htx] at hok
              obtain ⟨rfl, rfl⟩ := hok
              rcases processTxEntry_ok hentry htx with
                ⟨rfl, rfl, n, hlive⟩ | ⟨rfl, n, pkt, buf, hguard, rfl⟩
              · apply Next.move (Move.waiting i p n hentry hlive)
              · apply Next.conclude hguard
  | left =>
      by_cases hstop : m.state = .stopping
      · simp [runStep, hstop] at hok
        obtain ⟨rfl, rfl⟩ := hok
        apply Next.move (Move.leftStopping hstop)
      · simp [runStep, hstop] at hok
        obtain ⟨rfl, rfl⟩ := hok
        apply Next.move (Move.leftRunning hstop)
  | resetIdle =>
      cases hok
      apply Next.resetIdle
  | checkNodeRegistrationTimeout =>
      cases hsweep : checkRegTimers env env.regListWalk m with
      | error e m₁ => simp [runStep, checkNodeRegistrationTimeout, hsweep] at hok
      | ok u m₁ =>
          simp [runStep, checkNodeRegistrationTimeout, hsweep] at hok
          obtain ⟨rfl, rfl⟩ := hok
          obtain ⟨effs, heffs, hexpiry, -⟩ := checkRegTimers_ok hsweep
          apply Next.sweep heffs hexpiry
  | again =>
      by_cases hstop : m.state = .stopping
      · simp [runStep, hstop] at hok
        obtain ⟨rfl, rfl⟩ := hok
        apply Next.move (Move.againStopping hstop)
      · simp [runStep, hstop] at hok
        obtain ⟨rfl, rfl⟩ := hok
        apply Next.move (Move.againRunning hstop)
  | exiting =>
      cases hok
      apply Next.exiting
  | exited => cases henabled
  | deleted => cases henabled

/-- What a step of a medium does. -/
theorem next_of_step {s s' : Sys} {i : Input} (henabled : s.Enabled i)
    (hstep : s.step host kind i = .ok s') :
  Next host kind s i s'
  := by
  obtain ⟨pc, m⟩ := s
  cases i with
  | run env =>
      cases hok : runStep host kind env pc m with
      | error e m₁ => simp [Sys.step, stepProg, hok] at hstep
      | ok pc' m₁ =>
          simp [Sys.step, stepProg, hok] at hstep
          rw [← hstep]
          apply next_of_run henabled hok
  | addNode env p socket =>
      rcases addNode_result env p socket m with hadd | ⟨text, m₁, herror⟩ | ⟨m₁, herror⟩
      · simp [Sys.step, stepProg, hadd] at hstep
        rw [← hstep]
        apply Next.add henabled.2
      · simp [Sys.step, stepProg, herror] at hstep
      · simp [Sys.step, stepProg, herror] at hstep
  | stop =>
      cases hstep
      apply Next.stop
  | deleteMedium env =>
      obtain ⟨rfl, -⟩ := henabled
      obtain ⟨effs, m₁, heffs, hdisposal, ⟨hreg, -⟩ | ⟨e, m', -, herror⟩⟩ :=
        deleteEntries_result .regListMap .destructorRegListMap env.regListWalk m
      · obtain ⟨effs', m₂, heffs', hdisposal', ⟨hhash, -⟩ | ⟨e, m', -, herror⟩⟩ :=
          deleteEntries_result .nodeHashMap .destructorNodeHashMap env.nodeHashWalk m₁
        · simp [Sys.step, stepProg, deleteMedium, hreg, hhash] at hstep
          rw [← hstep]
          apply Next.delete heffs hdisposal heffs' hdisposal'
        · simp [Sys.step, stepProg, deleteMedium, hreg, herror] at hstep
      · simp [Sys.step, stepProg, deleteMedium, herror] at hstep

end X6losim
