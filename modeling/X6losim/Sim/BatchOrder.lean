import X6losim.Lib.Reorder
import X6losim.Sim.Batch
import X6losim.Sim.Interval

/-!
# Batches in any order

Events of different nodes can be exchanged, so the events of a batch can be processed in any order.
-/

open Bytes Reorder

namespace X6losim

variable {host : ByteOrder} {env : Env} {m m' m₁ : Medium} {p q : NodePtr} {n n' : DeviceNode}
  {ev ev' : PollEvent} {evs evs' : List PollEvent}

theorem Medium.LooksSame.refl (hlive : m.nodes p = .live n) :
  m.LooksSame m p n
  := ⟨hlive, hlive, rfl, rfl⟩

theorem Medium.LooksSame.symm (h : m.LooksSame m' p n) :
  m'.LooksSame m p n
  := ⟨h.live', h.live, h.regListMap.symm, h.nodeHashMap.symm⟩

/-- The change of one node looks the same to another. -/
theorem Medium.LooksSame.change {key : UInt64} (hlive : m.nodes q = .live n) (hne : q ≠ p)
    (hkey : n.socket ≠ key) (c : Change) :
  (m.change p key c).LooksSame m q n
  where
  live := by
    simp only [Medium.change, Function.update_of_ne hne]
    apply hlive
  live' := hlive
  regListMap := Function.update_of_ne hkey ..
  nodeHashMap := Function.update_of_ne hkey ..

/-- An event is processed, whatever else the system answers. -/
def Processes (host : ByteOrder) (m : Medium) (ev : PollEvent) (m' : Medium) : Prop :=
  ∀ env, env.ArmsTimers → processPollerEvent host env ev m = .ok true m'

theorem Env.calm_armsTimers :
  Env.calm.ArmsTimers
  := ⟨rfl, rfl⟩

/-- An event that does not stop the thread is processed. -/
theorem processes_of_ok {goOn : Bool} (hdata : ev.data = .node p) (hlive : m.nodes p = .live n)
    (hok : processPollerEvent host env ev m = .ok goOn m₁) :
  goOn = true ∧ Processes host m ev m₁
  := by
  refine ⟨(processPollerEvent_elsewhere (.refl hlive) Env.calm_armsTimers hdata hok).1, ?_⟩
  intro env' harms
  obtain ⟨-, c, c', -, -, rfl, hok', hsame⟩ :=
    processPollerEvent_elsewhere (.refl hlive) harms hdata hok
  rw [hok', hsame rfl]

/-- What an event does elsewhere. -/
theorem Processes.elsewhere (h : Processes host m ev m₁) (hdata : ev.data = .node p)
    (hsame : m.LooksSame m' p n) :
  ∃ c c', c.Of p n ∧ c.Alike c' ∧ m₁ = m.change p n.socket c ∧
    Processes host m' ev (m'.change p n.socket c')
  := by
  have hok := h .calm Env.calm_armsTimers
  obtain ⟨-, c, c', hc, halike, hm₁, hok', -⟩ :=
    processPollerEvent_elsewhere hsame Env.calm_armsTimers hdata hok
  exact ⟨c, c', hc, halike, hm₁, (processes_of_ok hdata hsame.live' hok').2⟩

/-- The nodes of a batch of events are there, and different, with sockets of their own. -/
structure Medium.Pending (m : Medium) (evs : List PollEvent) : Prop where
  live : ∀ ev ∈ evs, ∃ p n, ev.data = .node p ∧ m.nodes p = .live n
  distinct : (evs.map PollEvent.data).Nodup
  sockets : ∀ p q n n', m.nodes p = .live n → m.nodes q = .live n' → n.socket = n'.socket → p = q

theorem Medium.Pending.perm (h : m.Pending evs) (hperm : evs.Perm evs') :
  m.Pending evs'
  where
  live ev hev := h.live ev (hperm.mem_iff.mpr hev)
  distinct := (hperm.map _).nodup_iff.mp h.distinct
  sockets := h.sockets

/-- The other nodes of a batch are others. -/
theorem Medium.Pending.ne (h : m.Pending (ev :: evs)) (hdata : ev.data = .node p)
    (hev : ev' ∈ evs) (hdata' : ev'.data = .node q) :
  q ≠ p
  := by
  rintro rfl
  apply (List.nodup_cons.mp h.distinct).1
  rw [hdata, ← hdata']
  apply List.mem_map_of_mem hev

/-- A change of the first node of a batch leaves the others there. -/
theorem Medium.Pending.change {c : Change} (h : m.Pending (ev :: evs)) (hdata : ev.data = .node p)
    (hlive : m.nodes p = .live n) (hc : c.Of p n) :
  (m.change p n.socket c).Pending evs
  where
  live ev' hev' := by
    obtain ⟨q, n', hdata', hlive'⟩ := h.live ev' (List.mem_cons_of_mem ev hev')
    refine ⟨q, n', hdata', ?_⟩
    simp only [Medium.change, Function.update_of_ne (h.ne hdata hev' hdata')]
    apply hlive'
  distinct := (List.nodup_cons.mp h.distinct).2
  sockets := by
    -- A node that is there now has been there before, with the same socket.
    have hbefore : ∀ q n', (m.change p n.socket c).nodes q = .live n' →
        ∃ n₀, m.nodes q = .live n₀ ∧ n₀.socket = n'.socket := by
      intro q n' hq
      by_cases hqp : q = p
      · subst hqp
        simp only [Medium.change, Function.update_self] at hq
        exact ⟨n, hlive, (hc.socket n' hq).symm⟩
      · simp only [Medium.change, Function.update_of_ne hqp] at hq
        exact ⟨n', hq, rfl⟩
    intro q r n' n'' hq hr hsocket
    obtain ⟨n₁, hq', hsocket₁⟩ := hbefore q n' hq
    obtain ⟨n₂, hr', hsocket₂⟩ := hbefore r n'' hr
    apply h.sockets q r n₁ n₂ hq' hr'
    rw [hsocket₁, hsocket₂, hsocket]

/-- Two media are the same up to the order of work, and exactly so for the nodes of a batch. -/
structure Medium.SameFor (evs : List PollEvent) (m m' : Medium) : Prop
    extends m.SameUpToOrder m' where
  exact : ∀ ev ∈ evs, ∀ p, ev.data = .node p → m.nodes p = m'.nodes p

/-- The events of a batch can be exchanged. -/
theorem processes_commutes (host : ByteOrder) :
  Commutes (Processes host) (fun evs m => m.Pending evs) Medium.SameFor
  where
  refl evs m := ⟨.refl m, fun _ _ _ _ => rfl⟩
  trans h h' := ⟨h.toSameUpToOrder.trans h'.toSameUpToOrder,
    fun ev hev p hdata => (h.exact ev hev p hdata).trans (h'.exact ev hev p hdata)⟩
  ok_perm hperm h := h.perm hperm
  same_perm hperm h := ⟨h.toSameUpToOrder,
    fun ev hev p hdata => h.exact ev (hperm.mem_iff.mpr hev) p hdata⟩
  ok_step {ev evs m m₁} h hstep := by
    obtain ⟨p, n, hdata, hlive⟩ := h.live ev (List.mem_cons_self ..)
    obtain ⟨c, c', hc, -, rfl, -⟩ := hstep.elsewhere hdata (.refl hlive)
    apply h.change hdata hlive hc
  same_step {ev evs m m' m₁} h hsame hstep := by
    obtain ⟨p, n, hdata, hlive⟩ := h.live ev (List.mem_cons_self ..)
    have hlive' : m'.nodes p = .live n := by
      rw [← hsame.exact ev (List.mem_cons_self ..) p hdata, hlive]
    obtain ⟨c, c', hc, halike, rfl, hstep'⟩ := hstep.elsewhere hdata
      ⟨hlive, hlive', congrFun hsame.regListMap _, congrFun hsame.nodeHashMap _⟩
    refine ⟨_, hstep', hsame.toSameUpToOrder.change p n.socket halike, ?_⟩
    intro ev' hev' q hdata'
    have hne := h.ne hdata hev' hdata'
    simp only [Medium.change, Function.update_of_ne hne]
    apply hsame.exact ev' (List.mem_cons_of_mem ev hev') q hdata'
  swap {ev ev' evs m m₁ m₂} h hstep hstep' := by
    obtain ⟨p, n, hdata, hlive⟩ := h.live ev (List.mem_cons_self ..)
    obtain ⟨q, n', hdata', hlive'⟩ :=
      h.live ev' (List.mem_cons_of_mem ev (List.mem_cons_self ..))
    have hne : q ≠ p := h.ne hdata (List.mem_cons_self ..) hdata'
    have hsocket : n'.socket ≠ n.socket := by
      intro heq
      apply hne
      apply h.sockets q p n' n hlive' hlive heq
    obtain ⟨c₀, c₁, -, -, rfl, -⟩ := hstep.elsewhere hdata (.refl hlive)
    obtain ⟨d, d', hd, hdalike, rfl, hfirst⟩ :=
      hstep'.elsewhere hdata' (Medium.LooksSame.change hlive' hne hsocket c₀)
    have hlook := Medium.LooksSame.change hlive hne.symm hsocket.symm d'
    obtain ⟨c, c', hc, hcalike, hchange, hsecond⟩ := hstep.elsewhere hdata hlook.symm
    refine ⟨_, _, hfirst, hsecond, ?_, ?_⟩
    · rw [hchange]
      apply (change_swap m hne.symm hsocket.symm hc hd).trans
      exact ((Medium.SameUpToOrder.refl m).change q n'.socket hdalike).change p n.socket hcalike
    · intro ev'' hev'' r hdata''
      have hrp := h.ne hdata (List.mem_cons_of_mem ev' hev'') hdata''
      have hrq : r ≠ q := by
        rintro rfl
        apply (List.nodup_cons.mp (List.nodup_cons.mp h.distinct).2).1
        rw [hdata', ← hdata'']
        apply List.mem_map_of_mem hev''
      simp only [Medium.change, Function.update_of_ne hrp, Function.update_of_ne hrq]

/-! ### Batches -/

/-- A batch that does not stop the thread is processed event by event. -/
theorem run_of_processEvents {process : Nat → Env} {k : Nat} (h : m.Pending evs)
    (hok : processEvents host process k evs m = .ok () m₁) :
  Run (Processes host) m evs m₁
  := by
  induction evs generalizing m k with
  | nil =>
      cases hok
      apply Run.nil
  | cons ev evs ih =>
      obtain ⟨p, n, hdata, hlive⟩ := h.live ev (List.mem_cons_self ..)
      cases hev : processPollerEvent host (process k) ev m with
      | error e m₂ => simp [processEvents, hev] at hok
      | ok goOn m₂ =>
          obtain ⟨rfl, hstep⟩ := processes_of_ok hdata hlive hev
          simp [processEvents, hev] at hok
          apply Run.cons hstep
          apply ih ((processes_commutes host).ok_step h hstep) hok

theorem processEvents_of_run {process : Nat → Env} (harms : ∀ k, (process k).ArmsTimers)
    (hrun : Run (Processes host) m evs m₁) (k : Nat) :
  processEvents host process k evs m = .ok () m₁
  := by
  induction hrun generalizing k with
  | nil => rfl
  | cons hstep _ ih =>
      rw [processEvents, Exec.bind_apply, hstep _ (harms k)]
      apply ih

theorem run_of_processPollerEvents {process : Nat → Env} (h : m.Pending evs)
    (hok : processPollerEvents host process evs m = .ok () m₁) :
  Run (Processes host) m evs m₁
  := by
  by_cases hmax : epollMaxEvents < evs.length
  · simp [processPollerEvents, hmax] at hok
  · simp only [processPollerEvents, if_neg hmax] at hok
    apply run_of_processEvents h hok

/-- A batch of events of different nodes leads to the same in any order. -/
theorem processPollerEvents_perm {process process' : Nat → Env} (h : m.Pending evs)
    (hperm : evs.Perm evs') (hok : processPollerEvents host process evs m = .ok () m₁)
    (harms : ∀ k, (process' k).ArmsTimers) :
  ∃ m₂, processPollerEvents host process' evs' m = .ok () m₂ ∧ m₁.SameUpToOrder m₂
  := by
  by_cases hmax : epollMaxEvents < evs.length
  · simp [processPollerEvents, hmax] at hok
  · have hmax' : ¬ epollMaxEvents < evs'.length := by
      rw [← hperm.length_eq]
      apply hmax
    simp only [processPollerEvents, if_neg hmax']
    obtain ⟨m₂, hrun, hsame⟩ := (processes_commutes host).run_perm hperm h
      ((processes_commutes host).refl evs m) (run_of_processPollerEvents h hok)
    exact ⟨m₂, processEvents_of_run harms hrun 0, hsame.toSameUpToOrder⟩

end X6losim
