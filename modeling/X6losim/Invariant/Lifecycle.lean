import X6losim.Sim.Next
import Mathlib.Data.List.Count

/-!
# The lifecycle of a node

Every node of a medium is on one of its two maps, under the address of its socket: a registering
one, with its registration timer started, on the registration list map, and an active or
transmitting one, with the timer stopped, on the node hash map.  Every effect keeps this.
-/

open Bytes

namespace X6losim

/-- Two nodes have the same socket, are both registering or both not, and have their
registration timers both started or both not. -/
structure DeviceNode.Alike (n n' : DeviceNode) : Prop where
  socket : n'.socket = n.socket
  curState : n'.curState = .registering ↔ n.curState = .registering
  started : n'.regTimer.started = n.regTimer.started

/-- Two pointers lead to nodes that are alike, or to none. -/
inductive NodeCell.Alike : NodeCell → NodeCell → Prop where
  | unborn : Alike .unborn .unborn
  | live {n n' : DeviceNode} : n.Alike n' → Alike (.live n) (.live n')
  | destroyed : Alike .destroyed .destroyed

namespace NodeCell.Alike

variable {c c' : NodeCell} {n : DeviceNode}

theorem refl :
  c.Alike c
  := by
  cases c with
  | unborn => apply NodeCell.Alike.unborn
  | live n => apply NodeCell.Alike.live ⟨rfl, Iff.rfl, rfl⟩
  | destroyed => apply NodeCell.Alike.destroyed

theorem live_right (h : c.Alike c') (hlive : c' = .live n) :
  ∃ n', c = .live n' ∧ n'.Alike n
  := by
  cases h with
  | live halike =>
      cases hlive
      exact ⟨_, rfl, halike⟩
  | unborn => cases hlive
  | destroyed => cases hlive

theorem live_left (h : c.Alike c') (hlive : c = .live n) :
  ∃ n', c' = .live n' ∧ n.Alike n'
  := by
  cases h with
  | live halike =>
      cases hlive
      exact ⟨_, rfl, halike⟩
  | unborn => cases hlive
  | destroyed => cases hlive

theorem destroyed_iff (h : c.Alike c') :
  c' = .destroyed ↔ c = .destroyed
  := by
  cases h <;> simp

end NodeCell.Alike

/-- A node is on the map its state says. -/
structure Medium.Placed (m : Medium) (p : NodePtr) (n : DeviceNode) : Prop where
  registering : n.curState = .registering → m.regListMap n.socket = some p
  registered : n.curState ≠ .registering → m.nodeHashMap n.socket = some p

theorem Medium.Placed.onMap {m : Medium} {p : NodePtr} {n : DeviceNode} (h : m.Placed p n) :
  m.regListMap n.socket = some p ∨ m.nodeHashMap n.socket = some p
  := by
  by_cases hstate : n.curState = .registering
  · left
    apply h.registering hstate
  · right
    apply h.registered hstate

theorem Medium.Placed.isSome {m : Medium} {p : NodePtr} {n : DeviceNode} (h : m.Placed p n) :
  (m.regListMap n.socket).isSome ∨ (m.nodeHashMap n.socket).isSome
  := by
  rcases h.onMap with hmap | hmap
  · left
    rw [hmap]
    rfl
  · right
    rw [hmap]
    rfl

/-- `deregisterNode` does not miss a node that is on its map. -/
theorem Medium.Placed.not_missed {m : Medium} {p : NodePtr} {n : DeviceNode} (h : m.Placed p n) :
  ¬ (m.regListMap n.socket = none ∧ m.nodeHashMap n.socket = none)
  := by
  rintro ⟨hreg, hhash⟩
  have hmap := h.onMap
  simp [hreg, hhash] at hmap

/-- The nodes of a medium are where their states say, and have been deleted at most once. -/
structure Lifecycle (m : Medium) : Prop where
  registering : ∀ {p n}, m.nodes p = .live n → n.curState = .registering →
    m.regListMap n.socket = some p ∧ m.nodeHashMap n.socket = none ∧ n.regTimer.started
  registered : ∀ {p n}, m.nodes p = .live n → n.curState ≠ .registering →
    m.nodeHashMap n.socket = some p ∧ m.regListMap n.socket = none ∧
      n.regTimer.started = false
  regListMap : ∀ {key p}, m.regListMap key = some p → ∃ n, m.nodes p = .live n ∧ n.socket = key
  nodeHashMap : ∀ {key p}, m.nodeHashMap key = some p →
    ∃ n, m.nodes p = .live n ∧ n.socket = key
  interest : ∀ {p}, p ∈ m.interest → ∃ n, m.nodes p = .live n
  nodup : m.interest.Nodup
  deleted : ∀ p, m.log.count (.deleteNode p) = if m.nodes p = .destroyed then 1 else 0

namespace Lifecycle

variable {m m' : Medium} {p : NodePtr} {n : DeviceNode}

theorem initial :
  Lifecycle Medium.new
  where
  registering h := by cases h
  registered h := by cases h
  regListMap h := by cases h
  nodeHashMap h := by cases h
  interest h := by cases h
  nodup := List.nodup_nil
  deleted p := rfl

/-- A live node is on the map its state says. -/
theorem placed (h : Lifecycle m) (hlive : m.nodes p = .live n) :
  m.Placed p n
  where
  registering hstate := (h.registering hlive hstate).1
  registered hstate := (h.registered hlive hstate).1

/-- A socket belongs to one node. -/
theorem socket_unique {q : NodePtr} {n' : DeviceNode} (h : Lifecycle m)
    (hp : m.nodes p = .live n) (hq : m.nodes q = .live n') (hsocket : n.socket = n'.socket) :
  p = q
  := by
  by_cases hn : n.curState = .registering
  · obtain ⟨hreg, hhash, -⟩ := h.registering hp hn
    rw [hsocket] at hreg hhash
    by_cases hn' : n'.curState = .registering
    · obtain ⟨hreg', -, -⟩ := h.registering hq hn'
      rw [hreg] at hreg'
      apply Option.some.inj hreg'
    · obtain ⟨hhash', -, -⟩ := h.registered hq hn'
      rw [hhash] at hhash'
      cases hhash'
  · obtain ⟨hhash, hreg, -⟩ := h.registered hp hn
    rw [hsocket] at hreg hhash
    by_cases hn' : n'.curState = .registering
    · obtain ⟨hreg', -, -⟩ := h.registering hq hn'
      rw [hreg] at hreg'
      cases hreg'
    · obtain ⟨hhash', -, -⟩ := h.registered hq hn'
      rw [hhash] at hhash'
      apply Option.some.inj hhash'

/-- A node that is there has not been deleted. -/
theorem count_live (h : Lifecycle m) (hlive : m.nodes p = .live n) :
  m.log.count (.deleteNode p) = 0
  := by
  rw [h.deleted p, hlive, if_neg]
  intro hcell
  cases hcell

/-! ### Effects that leave the maps as they are -/

/-- The nodes of two media are alike, and so are their maps and what they have deleted. -/
structure Alike (m m' : Medium) : Prop where
  regListMap : m'.regListMap = m.regListMap
  nodeHashMap : m'.nodeHashMap = m.nodeHashMap
  interest : m'.interest = m.interest
  deleted : ∀ p, m'.log.count (.deleteNode p) = m.log.count (.deleteNode p)
  nodes : ∀ p, (m.nodes p).Alike (m'.nodes p)

/-- Nothing the lifecycle depends on is changed. -/
theorem alike (h : Lifecycle m) (same : Alike m m') :
  Lifecycle m'
  where
  registering {p n'} hlive hstate := by
    obtain ⟨n, hn, halike⟩ := (same.nodes p).live_right hlive
    have hplace := h.registering hn (halike.curState.mp hstate)
    rw [same.regListMap, same.nodeHashMap, halike.socket, halike.started]
    apply hplace
  registered {p n'} hlive hstate := by
    obtain ⟨n, hn, halike⟩ := (same.nodes p).live_right hlive
    have hplace := h.registered hn (fun hreg => hstate (halike.curState.mpr hreg))
    rw [same.regListMap, same.nodeHashMap, halike.socket, halike.started]
    apply hplace
  regListMap {key p} hentry := by
    rw [same.regListMap] at hentry
    obtain ⟨n, hn, hkey⟩ := h.regListMap hentry
    obtain ⟨n', hn', halike⟩ := (same.nodes p).live_left hn
    use n', hn'
    rw [halike.socket, hkey]
  nodeHashMap {key p} hentry := by
    rw [same.nodeHashMap] at hentry
    obtain ⟨n, hn, hkey⟩ := h.nodeHashMap hentry
    obtain ⟨n', hn', halike⟩ := (same.nodes p).live_left hn
    use n', hn'
    rw [halike.socket, hkey]
  interest {p} hp := by
    rw [same.interest] at hp
    obtain ⟨n, hn⟩ := h.interest hp
    obtain ⟨n', hn', -⟩ := (same.nodes p).live_left hn
    use n'
  nodup := by
    rw [same.interest]
    apply h.nodup
  deleted p := by
    rw [same.deleted p, h.deleted p]
    simp only [(same.nodes p).destroyed_iff]

/-- Changing a node into one that is alike, and logging no deletion. -/
theorem alike_update {n' : DeviceNode} (es : List Event) (hlive : m.nodes p = .live n)
    (hnodes : m'.nodes = Function.update m.nodes p (.live n'))
    (halike : n.Alike n') (hlog : ∀ q, Event.deleteNode q ∉ es)
    (hreg : m'.regListMap = m.regListMap) (hhash : m'.nodeHashMap = m.nodeHashMap)
    (hinterest : m'.interest = m.interest) (hes : m'.log = m.log ++ es) :
  Alike m m'
  where
  regListMap := hreg
  nodeHashMap := hhash
  interest := hinterest
  deleted q := by rw [hes, List.count_append, List.count_eq_zero_of_not_mem (hlog q), add_zero]
  nodes q := by
    rw [hnodes]
    by_cases hq : q = p
    · subst hq
      rw [Function.update_self, hlive]
      apply NodeCell.Alike.live halike
    · rw [Function.update_of_ne hq]
      apply NodeCell.Alike.refl

/-- Changing no node, and logging no deletion. -/
theorem alike_same (es : List Event) (hlog : ∀ q, Event.deleteNode q ∉ es)
    (hnodes : m'.nodes = m.nodes) (hreg : m'.regListMap = m.regListMap)
    (hhash : m'.nodeHashMap = m.nodeHashMap) (hinterest : m'.interest = m.interest)
    (hes : m'.log = m.log ++ es) :
  Alike m m'
  where
  regListMap := hreg
  nodeHashMap := hhash
  interest := hinterest
  deleted q := by rw [hes, List.count_append, List.count_eq_zero_of_not_mem (hlog q), add_zero]
  nodes q := by
    rw [hnodes]
    apply NodeCell.Alike.refl

/-- Nodes with other sockets are other nodes. -/
theorem ne_of_socket {q : NodePtr} {n' : DeviceNode} (hlive : m.nodes p = .live n)
    (hlive' : m.nodes q = .live n') (hne : n'.socket ≠ n.socket) :
  q ≠ p
  := by
  rintro rfl
  rw [hlive] at hlive'
  cases hlive'
  apply hne rfl

/-- Other nodes have other sockets. -/
theorem socket_ne {q : NodePtr} {n' : DeviceNode} (h : Lifecycle m) (hlive : m.nodes p = .live n)
    (hlive' : m.nodes q = .live n') (hne : q ≠ p) :
  n'.socket ≠ n.socket
  := by
  intro hsocket
  apply hne (h.socket_unique hlive' hlive hsocket)

/-! ### Effects that move, delete and add nodes -/

/-- A registering node that confirms its registration. -/
theorem confirm (h : Lifecycle m) (os osVersion : List UInt8) (hlive : m.nodes p = .live n)
    (hstate : n.curState = .registering) :
  Lifecycle ((Effect.confirm p n os osVersion).apply m)
  := by
  obtain ⟨hreg, hhash, hstarted⟩ := h.registering hlive hstate
  have hinsert : m.nodeHashMap.insert n.socket p
      = Function.update m.nodeHashMap n.socket (some p) := PMap.insert_new p hhash
  constructor
  · intro q n' hn' hstate'
    rcases live_of_update hn' with ⟨rfl, ⟨⟩⟩ | ⟨hq, hn'⟩
    · cases hstate'
    · obtain ⟨hreg', hhash', hstarted'⟩ := h.registering hn' hstate'
      have hne := h.socket_ne hlive hn' hq
      refine ⟨?_, ?_, hstarted'⟩
      · apply PMap.erase_eq_some.mpr ⟨hne, hreg'⟩
      · simp only [Effect.apply, hinsert, Function.update_of_ne hne]
        apply hhash'
  · intro q n' hn' hstate'
    rcases live_of_update hn' with ⟨rfl, ⟨⟩⟩ | ⟨hq, hn'⟩
    · simp [Effect.apply, hinsert]
    · obtain ⟨hhash', hreg', hstarted'⟩ := h.registered hn' hstate'
      have hne := h.socket_ne hlive hn' hq
      refine ⟨?_, ?_, hstarted'⟩
      · simp only [Effect.apply, hinsert, Function.update_of_ne hne]
        apply hhash'
      · simp only [Effect.apply, PMap.erase_ne _ hne]
        apply hreg'
  · intro key q hentry
    obtain ⟨hne, hentry⟩ := PMap.erase_eq_some.mp hentry
    obtain ⟨n', hn', hkey⟩ := h.regListMap hentry
    have hq : q ≠ p := ne_of_socket hlive hn' (ne_of_eq_of_ne hkey hne)
    use n', by simp [Effect.apply, hq, hn']
  · intro key q hentry
    rcases (PMap.insert_eq_some hhash).mp hentry with ⟨rfl, rfl⟩ | ⟨hne, hentry⟩
    · simp [Effect.apply]
    · obtain ⟨n', hn', hkey⟩ := h.nodeHashMap hentry
      have hq : q ≠ p := ne_of_socket hlive hn' (ne_of_eq_of_ne hkey hne)
      use n', by simp [Effect.apply, hq, hn']
  · intro q hq
    by_cases hqp : q = p
    · subst hqp
      simp [Effect.apply]
    · obtain ⟨n', hn'⟩ := h.interest hq
      use n'
      simp [Effect.apply, hqp, hn']
  · apply h.nodup
  · intro q
    have hcount := h.deleted q
    by_cases hq : q = p
    · subst hq
      rw [h.count_live hlive] at hcount
      simp [Effect.apply, hstarted, h.count_live hlive]
    · simp [Effect.apply, hstarted, hq, hcount]

/-- The deletion of a node whose entry has been taken out of its map. -/
theorem delete (es : List Event) (h : Lifecycle m) (hlive : m.nodes p = .live n)
    (hlog : ∀ q, Event.deleteNode q ∉ es) :
  Lifecycle (Medium.delete { m with
    regListMap := m.regListMap.erase n.socket
    nodeHashMap := m.nodeHashMap.erase n.socket
    log := m.log ++ es } p n)
  := by
  have hleft : ∀ {q n'}, Function.update m.nodes p .destroyed q = .live n' →
      q ≠ p ∧ m.nodes q = .live n' := by
    intro q n' hn'
    by_cases hq : q = p
    · subst hq
      simp at hn'
    · rw [Function.update_of_ne hq] at hn'
      exact ⟨hq, hn'⟩
  constructor
  · intro q n' hn' hstate'
    obtain ⟨hq, hn'⟩ := hleft hn'
    obtain ⟨hreg', hhash', hstarted'⟩ := h.registering hn' hstate'
    have hne := h.socket_ne hlive hn' hq
    refine ⟨PMap.erase_eq_some.mpr ⟨hne, hreg'⟩, ?_, hstarted'⟩
    simp only [Medium.delete, PMap.erase_ne _ hne]
    apply hhash'
  · intro q n' hn' hstate'
    obtain ⟨hq, hn'⟩ := hleft hn'
    obtain ⟨hhash', hreg', hstarted'⟩ := h.registered hn' hstate'
    have hne := h.socket_ne hlive hn' hq
    refine ⟨PMap.erase_eq_some.mpr ⟨hne, hhash'⟩, ?_, hstarted'⟩
    simp only [Medium.delete, PMap.erase_ne _ hne]
    apply hreg'
  · intro key q hentry
    obtain ⟨hne, hentry⟩ := PMap.erase_eq_some.mp hentry
    obtain ⟨n', hn', hkey⟩ := h.regListMap hentry
    have hq : q ≠ p := ne_of_socket hlive hn' (ne_of_eq_of_ne hkey hne)
    use n', by simp [Medium.delete, hq, hn']
  · intro key q hentry
    obtain ⟨hne, hentry⟩ := PMap.erase_eq_some.mp hentry
    obtain ⟨n', hn', hkey⟩ := h.nodeHashMap hentry
    have hq : q ≠ p := ne_of_socket hlive hn' (ne_of_eq_of_ne hkey hne)
    use n', by simp [Medium.delete, hq, hn']
  · intro q hq
    obtain ⟨hqp, hq⟩ := (h.nodup.mem_erase_iff).mp hq
    obtain ⟨n', hn'⟩ := h.interest hq
    use n'
    simp [Medium.delete, hqp, hn']
  · apply h.nodup.erase
  · intro q
    have hcount := h.deleted q
    have hevents : (deleteEvents p n).count (.deleteNode q) = if q = p then 1 else 0 := by
      by_cases hq : q = p
      · subst hq
        cases hstarted : n.regTimer.started <;> simp [deleteEvents, hstarted]
      · have hpq : p ≠ q := fun h => hq h.symm
        cases hstarted : n.regTimer.started <;> simp [deleteEvents, hstarted, hq, hpq]
    simp only [Medium.delete, List.count_append, hevents,
      List.count_eq_zero_of_not_mem (hlog q), add_zero]
    by_cases hq : q = p
    · subst hq
      simp [h.count_live hlive]
    · simp [hq, hcount]

/-- The addition of a new node. -/
theorem add {socket : UInt64} (h : Lifecycle m) (hfresh : m.Fresh p socket) :
  Lifecycle ((Effect.add p socket).apply m)
  := by
  obtain ⟨hunborn, hsocket⟩ := hfresh
  have hreg : m.regListMap socket = none := by
    cases hentry : m.regListMap socket with
    | none => rfl
    | some q =>
        obtain ⟨n, hn, hkey⟩ := h.regListMap hentry
        apply absurd hkey (hsocket q n hn)
  have hhash : m.nodeHashMap socket = none := by
    cases hentry : m.nodeHashMap socket with
    | none => rfl
    | some q =>
        obtain ⟨n, hn, hkey⟩ := h.nodeHashMap hentry
        apply absurd hkey (hsocket q n hn)
  have hnew : ∀ {q n}, m.nodes q = .live n → q ≠ p := by
    rintro q n hn rfl
    rw [hunborn] at hn
    cases hn
  constructor
  · intro q n hn hstate
    rcases live_of_update hn with ⟨rfl, ⟨⟩⟩ | ⟨hq, hn⟩
    · refine ⟨?_, hhash, rfl⟩
      apply (PMap.insert_eq_some hreg).mpr
      left
      exact ⟨rfl, rfl⟩
    · obtain ⟨hreg', hhash', hstarted'⟩ := h.registering hn hstate
      refine ⟨?_, hhash', hstarted'⟩
      apply (PMap.insert_eq_some hreg).mpr
      right
      exact ⟨hsocket q n hn, hreg'⟩
  · intro q n hn hstate
    rcases live_of_update hn with ⟨rfl, ⟨⟩⟩ | ⟨hq, hn⟩
    · apply absurd rfl hstate
    · obtain ⟨hhash', hreg', hstarted'⟩ := h.registered hn hstate
      refine ⟨hhash', ?_, hstarted'⟩
      simp only [Effect.apply, PMap.insert_new p hreg,
        Function.update_of_ne (hsocket q n hn)]
      apply hreg'
  · intro key q hentry
    rcases (PMap.insert_eq_some hreg).mp hentry with ⟨rfl, rfl⟩ | ⟨hne, hentry⟩
    · simp [Effect.apply, DeviceNode.registering, DeviceNode.new]
    · obtain ⟨n, hn, hkey⟩ := h.regListMap hentry
      use n, by simp [Effect.apply, hnew hn, hn]
  · intro key q hentry
    obtain ⟨n, hn, hkey⟩ := h.nodeHashMap hentry
    use n, by simp [Effect.apply, hnew hn, hn]
  · intro q hq
    rcases List.mem_append.mp hq with hq | hq
    · obtain ⟨n, hn⟩ := h.interest hq
      use n
      simp [Effect.apply, hnew hn, hn]
    · obtain rfl := List.mem_singleton.mp hq
      simp [Effect.apply]
  · apply List.nodup_append.mpr
    refine ⟨h.nodup, by simp, ?_⟩
    rintro q hq q' hq' rfl
    obtain rfl := List.mem_singleton.mp hq'
    obtain ⟨n, hn⟩ := h.interest hq
    apply hnew hn rfl
  · intro q
    have hcount := h.deleted q
    by_cases hq : q = p
    · subst hq
      rw [hunborn] at hcount
      simpa [Effect.apply] using hcount
    · simpa [Effect.apply, hq] using hcount

/-! ### Steps -/

/-- Every effect keeps the lifecycle, if nodes are only added when they are new. -/
theorem effect {eff : Effect} (h : Lifecycle m) (hguard : eff.Guard m)
    (hfresh : ∀ p socket, eff = .add p socket → m.Fresh p socket) :
  Lifecycle (eff.apply m)
  := by
  cases eff with
  | failedRead p n =>
      apply h.alike
      exact alike_update [] hguard rfl ⟨rfl, Iff.rfl, rfl⟩ (by simp) rfl rfl rfl
        (List.append_nil _).symm
  | confirm p n os osVersion => apply h.confirm os osVersion hguard.1 hguard.2.1
  | disconnect p n asked =>
      obtain ⟨hlive, -⟩ := hguard
      have hmaps : (if (m.regListMap n.socket).isSome then m.nodeHashMap
          else m.nodeHashMap.erase n.socket) = m.nodeHashMap.erase n.socket := by
        split
        · next hsome =>
            symm
            apply PMap.erase_none
            by_cases hstate : n.curState = .registering
            · apply (h.registering hlive hstate).2.1
            · rw [(h.registered hlive hstate).2.1] at hsome
              cases hsome
        · rfl
      rw [Effect.apply, hmaps]
      apply h.delete _ hlive
      intro q
      cases asked <;> simp
  | request p n =>
      apply h.alike
      exact alike_same [.ccaRequest p] (by simp) rfl rfl rfl rfl rfl
  | transmit p n pkt itValue =>
      obtain ⟨hlive, hstate, -⟩ := hguard
      apply h.alike
      exact alike_update [_, _, _, _] hlive rfl ⟨rfl, by simp [hstate], rfl⟩ (by simp) rfl rfl
        rfl rfl
  | answer p rest =>
      apply h.alike
      exact alike_same [_] (by simp) rfl rfl rfl rfl rfl
  | collide =>
      apply h.alike
      refine ⟨rfl, rfl, rfl, fun _ => rfl, ?_⟩
      intro p
      by_cases hp : p ∈ m.txList
      · simp only [Effect.apply, if_pos hp]
        cases m.nodes p with
        | unborn => apply NodeCell.Alike.unborn
        | live n =>
            have halike : n.Alike n.collide := ⟨rfl, Iff.rfl, rfl⟩
            exact NodeCell.Alike.live halike
        | destroyed => apply NodeCell.Alike.destroyed
      · simp only [Effect.apply, if_neg hp]
        apply NodeCell.Alike.refl
  | conclude i p n pkt buf =>
      obtain ⟨-, hlive, hstate, -⟩ := hguard
      apply h.alike
      have hlog : ∀ q, Event.deleteNode q ∉ concludeEvents p pkt buf := by
        intro q
        cases hcollided : pkt.collision <;> simp [concludeEvents, hcollided]
      exact alike_update _ hlive rfl ⟨rfl, by simp [hstate], rfl⟩ hlog rfl rfl rfl rfl
  | expire key p n =>
      obtain ⟨-, hlive, rfl, hstate, -⟩ := hguard
      have hhash := (h.registering hlive hstate).2.1
      have hdelete := h.delete [] hlive (by simp)
      rw [PMap.erase_none hhash, List.append_nil] at hdelete
      apply hdelete
  | dispose map key p n =>
      obtain ⟨hentry, hlive, rfl⟩ := hguard
      have hdelete := h.delete [] hlive (by simp)
      rw [List.append_nil] at hdelete
      cases map with
      | regListMap =>
          have hhash : m.nodeHashMap n.socket = none := by
            by_cases hstate : n.curState = .registering
            · apply (h.registering hlive hstate).2.1
            · have hreg := (h.registered hlive hstate).2.1
              rw [Medium.map, hreg] at hentry
              cases hentry
          rw [PMap.erase_none hhash] at hdelete
          apply hdelete
      | nodeHashMap =>
          have hreg : m.regListMap n.socket = none := by
            by_cases hstate : n.curState = .registering
            · have hhash := (h.registering hlive hstate).2.1
              rw [Medium.map, hhash] at hentry
              cases hentry
            · apply (h.registered hlive hstate).2.1
          rw [PMap.erase_none hreg] at hdelete
          apply hdelete
  | add p socket => apply h.add (hfresh p socket rfl)

/-- Effects that add no node keep the lifecycle. -/
theorem effects {effs : List Effect} (h : Lifecycle m) (heffs : Effects m effs m')
    (hnone : ∀ eff ∈ effs, ∀ p socket, eff ≠ .add p socket) :
  Lifecycle m'
  := by
  apply heffs.invariant h hnone
  intro m eff hm hne hguard
  apply hm.effect hguard
  intro p socket heq
  apply absurd heq (hne p socket)

/-- The state variable and the time have nothing to do with the lifecycle. -/
theorem assign (h : Lifecycle m) (state : PhysicalMediumState) (curTime : Timespec) :
  Lifecycle { m with state, curTime }
  := by
  apply h.alike
  exact alike_same [] (by simp) rfl rfl rfl rfl (List.append_nil _).symm

/-- Every step of a medium keeps the lifecycle. -/
theorem next {host : ByteOrder} {kind : Kind} {s s' : Sys} {i : Input} (h : Lifecycle s.med)
    (hnext : Next host kind s i s') :
  Lifecycle s'.med
  := by
  cases hnext with
  | move => apply h
  | start m env curTime => apply h.assign
  | interval m env ph =>
      apply h.alike
      exact alike_same [_] (by simp) rfl rfl rfl rfl rfl
  | poll hdata hlive heff hguard =>
      apply h.effect hguard
      intro p socket heq
      apply absurd heq (heff.not_add p socket)
  | unblocked => apply h.assign
  | mark => apply h.assign
  | answer hguard => exact h.effect hguard (by simp)
  | collide hkind hguard => exact h.effect hguard (by simp)
  | conclude hguard => exact h.effect hguard (by simp)
  | resetIdle => apply h.assign
  | sweep heffs hexpiry =>
      apply h.effects heffs
      intro eff heff
      apply (hexpiry eff heff).not_add
  | exiting => apply h.assign
  | add hfresh =>
      apply h.add hfresh
  | stop => apply h.assign
  | delete heffs hdisposal heffs' hdisposal' =>
      have hmiddle := h.effects heffs (fun eff heff => (hdisposal eff heff).not_add)
      apply hmiddle.effects heffs'
      intro eff heff
      apply (hdisposal' eff heff).not_add

end Lifecycle

end X6losim
