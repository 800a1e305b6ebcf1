import X6losim.Sim.Interval
import X6losim.Sim.Transmission

/-!
# The passes over the lists of a medium

After the events of an `interval` a medium goes through its two lists.
-/

open Bytes

namespace X6losim

/-- The loop of `PhysicalMedium::processCcaList`.  A turn takes one entry off the list, so there are
as many turns as entries. -/
def answerEntries : Nat → Prog Unit
  | 0 => return
  | k + 1 => do
      processCcaEntry
      answerEntries k

/-- `PhysicalMedium::processCcaList`. -/
def processCcaList : Prog Unit := do
  let m ← get
  answerEntries m.ccaList.length

/-- The loop of `PhysicalMedium::processTxList` from a place of the list on.  A turn takes an entry
off the list or goes on to the next, so there are as many turns as entries from there on. -/
def processTxEntries (host : ByteOrder) (env : Env) : Nat → Nat → Prog Unit
  | 0, _ => return
  | k + 1, i => do
      let m ← get
      match m.txList[i]? with
      | none => return
      | some p =>
          let i ← processTxEntry host env i p
          processTxEntries host env k i

/-- `PhysicalMedium::processTxList`. -/
def processTxList (host : ByteOrder) (env : Env) : Prog Unit := do
  let m ← get
  processTxEntries host env m.txList.length 0

/-- The passes of `PhysicalMedium::run` after an `interval` of the given phase: an idle medium with
transmitting nodes becomes busy, and the other passes follow in its next `interval`. -/
def listPasses (host : ByteOrder) (kind : Kind) (env : Env) : Phase → Prog Unit
  | .idle => do
      let m ← get
      if m.txList ≠ [] then
        setState .tx802514Frame
      processCcaList
  | .tx => do
      processCcaList
      txCollisionCheck kind
      processTxList host env

/-- All passes that follow the events of an `interval`, when no more events come. -/
def passesFrom (host : ByteOrder) (kind : Kind) (env : Env) : Phase → Prog Unit
  | .idle => do
      listPasses host kind env .idle
      let m ← get
      if m.txList ≠ [] then
        armInterval env Phase.tx.waitms
        listPasses host kind env .tx
  | .tx => listPasses host kind env .tx

variable {host : ByteOrder} {kind : Kind} {env : Env} {m m₁ : Medium}

/-- A medium that processes its clear channel assessment list gets to its end. -/
theorem reachable_processCcaList {ph : Phase}
    (h : (medium host kind).Reachable ⟨.processCcaList ph, m⟩)
    (hok : processCcaList m = .ok () m₁) :
  (medium host kind).Reachable ⟨.processCcaList ph, m₁⟩ ∧ m₁.ccaList = [] ∧ m₁.state = m.state
  := by
  have hentries : answerEntries m.ccaList.length m = .ok () m₁ := hok
  generalize hlist : m.ccaList = l at hentries
  induction l generalizing m with
  | nil =>
      cases hentries
      exact ⟨h, hlist, rfl⟩
  | cons p rest ih =>
      rw [List.length_cons, answerEntries, Exec.bind_eq_ok] at hentries
      obtain ⟨⟨⟩, m₂, hentry, hrest⟩ := hentries
      rcases processCcaEntry_cons hlist with ⟨-, hanswer⟩ | ⟨-, hstop⟩
      · rw [hanswer] at hentry
        cases hentry
        have hnext : (medium host kind).Reachable
            ⟨.processCcaList ph, (Effect.answer p rest).apply m⟩ := by
          refine h.step (i := .run .calm) trivial ?_
          simp [medium, Sys.step, stepProg, runStep, hlist, hanswer]
        apply ih hnext hrest rfl hrest
      · rw [hstop] at hentry
        cases hentry

/-- A medium that processes its transmit list gets to its end. -/
theorem reachable_processTxEntries {k i : Nat}
    (h : (medium host kind).Reachable ⟨.processTxList i, m⟩) (hk : i + k = m.txList.length)
    (hok : processTxEntries host env k i m = .ok () m₁) :
  (medium host kind).Reachable ⟨.inner, m₁⟩
  := by
  induction k generalizing m i with
  | zero =>
      cases hok
      refine h.step (i := .run .calm) trivial ?_
      have hnone : m₁.txList[i]? = none := List.getElem?_eq_none (by omega)
      simp [medium, Sys.step, stepProg, runStep, hnone]
  | succ k ih =>
      have hlt : i < m.txList.length := by omega
      have hi : m.txList[i]? = some m.txList[i] := List.getElem?_eq_getElem hlt
      rw [processTxEntries, Exec.bind_apply, Exec.get_apply] at hok
      simp only [hi] at hok
      obtain ⟨j, m₂, hentry, hrest⟩ := Exec.bind_eq_ok.mp hok
      have hnext : (medium host kind).Reachable ⟨.processTxList j, m₂⟩ := by
        refine h.step (i := .run env) trivial ?_
        simp only [medium, Sys.step, stepProg, runStep, Exec.bind_apply, Exec.get_apply, hi, hentry]
        rfl
      apply ih hnext _ hrest
      rcases processTxEntry_ok hi hentry with ⟨rfl, rfl, -⟩ | ⟨rfl, n, pkt, buf, -, rfl⟩
      · omega
      · simp only [Effect.apply]
        rw [List.length_eraseIdx_of_lt hlt]
        omega

/-- A busy medium gets through its passes. -/
theorem reachable_listPasses_tx (h : (medium host kind).Reachable ⟨.polled .tx, m⟩)
    (hrunning : m.state ≠ .stopping) (hok : listPasses host kind env .tx m = .ok () m₁) :
  (medium host kind).Reachable ⟨.inner, m₁⟩
  := by
  have hcca : (medium host kind).Reachable ⟨.processCcaList .tx, m⟩ := by
    refine h.step (i := .run .calm) trivial ?_
    simp [medium, Sys.step, stepProg, runStep, hrunning]
  rw [listPasses, Exec.bind_eq_ok] at hok
  obtain ⟨⟨⟩, m₂, hanswers, hok⟩ := hok
  obtain ⟨⟨⟩, m₃, hcheck, hentries⟩ := Exec.bind_eq_ok.mp hok
  obtain ⟨hanswered, hnil, -⟩ := reachable_processCcaList hcca hanswers
  have hchecks : (medium host kind).Reachable ⟨.txCollisionCheck, m₂⟩ := by
    refine hanswered.step (i := .run .calm) trivial ?_
    simp [medium, Sys.step, stepProg, runStep, hnil]
  have hchecked : (medium host kind).Reachable ⟨.processTxList 0, m₃⟩ := by
    refine hchecks.step (i := .run .calm) trivial ?_
    simp [medium, Sys.step, stepProg, runStep, hcheck]
  apply reachable_processTxEntries hchecked (Nat.zero_add _) hentries

/-- An idle medium gets through its passes. -/
theorem reachable_listPasses_idle (h : (medium host kind).Reachable ⟨.polled .idle, m⟩)
    (hrunning : m.state ≠ .stopping) (hok : listPasses host kind env .idle m = .ok () m₁) :
  (medium host kind).Reachable ⟨.inner, m₁⟩ ∧ m₁.state ≠ .stopping
  := by
  have hmark : (medium host kind).Reachable ⟨.mark, m⟩ := by
    refine h.step (i := .run .calm) trivial ?_
    simp [medium, Sys.step, stepProg, runStep, hrunning]
  have hrest : ∀ {m₂ : Medium}, (medium host kind).Reachable ⟨.processCcaList .idle, m₂⟩ →
      m₂.state ≠ .stopping → processCcaList m₂ = .ok () m₁ →
      (medium host kind).Reachable ⟨.inner, m₁⟩ ∧ m₁.state ≠ .stopping := by
    intro m₂ hcca hrunning₂ hanswers
    obtain ⟨hanswered, hnil, hstate⟩ := reachable_processCcaList hcca hanswers
    rw [hstate]
    refine ⟨?_, hrunning₂⟩
    refine hanswered.step (i := .run .calm) trivial ?_
    simp [medium, Sys.step, stepProg, runStep, hnil]
  by_cases hnil : m.txList = []
  · simp [listPasses, hnil] at hok
    apply hrest _ hrunning hok
    refine hmark.step (i := .run .calm) trivial ?_
    simp [medium, Sys.step, stepProg, runStep, hnil]
  · simp [listPasses, hnil, setState] at hok
    apply hrest _ _ hok
    · refine hmark.step (i := .run .calm) trivial ?_
      simp [medium, Sys.step, stepProg, runStep, hnil, setState]
    · simp

/-- A medium to which no events come gets through its interval. -/
theorem reachable_quiet {ph : Phase} (h : (medium host kind).Reachable ⟨.interval ph, m⟩)
    (hset : env.timerSettime) :
  (medium host kind).Reachable ⟨.polled ph, m.arm ph.waitms⟩
  := by
  have harmed : (medium host kind).Reachable ⟨.epollWait ph ph.waitms, m.arm ph.waitms⟩ := by
    refine h.step (i := .run env) trivial ?_
    simp [medium, Sys.step, stepProg, runStep, armInterval_apply, hset]
  have hnone : Sys.Enabled ⟨.epollWait ph ph.waitms, m.arm ph.waitms⟩ (.run .calm) := by
    intro evs hready
    cases hready
    exact ⟨Nat.zero_le _, List.nodup_nil, by simp⟩
  have hwaited : (medium host kind).Reachable ⟨.timeLeft ph 0, m.arm ph.waitms⟩ :=
    harmed.step (i := .run .calm) hnone rfl
  exact hwaited.step (i := .run .calm) trivial rfl

/-- A medium to which no more events come gets through the passes that follow an interval. -/
theorem reachable_passesFrom {ph : Phase} (h : (medium host kind).Reachable ⟨.polled ph, m⟩)
    (hrunning : m.state ≠ .stopping) (hok : passesFrom host kind env ph m = .ok () m₁) :
  (medium host kind).Reachable ⟨.inner, m₁⟩
  := by
  cases ph with
  | tx => apply reachable_listPasses_tx h hrunning hok
  | idle =>
      rw [passesFrom, Exec.bind_eq_ok] at hok
      obtain ⟨⟨⟩, m₂, hidle, hok⟩ := hok
      obtain ⟨hinner, hrunning₂⟩ := reachable_listPasses_idle h hrunning hidle
      by_cases hnil : m₂.txList = []
      · simp [hnil] at hok
        rw [← hok]
        apply hinner
      · have hinterval : (medium host kind).Reachable ⟨.interval .tx, m₂⟩ := by
          refine hinner.step (i := .run .calm) trivial ?_
          simp [medium, Sys.step, stepProg, runStep, hnil]
        cases hset : env.timerSettime with
        | false => simp [hnil, armInterval_apply, hset] at hok
        | true =>
            simp [hnil, armInterval_apply, hset] at hok
            apply reachable_listPasses_tx (reachable_quiet hinterval hset) hrunning₂ hok

end X6losim
