import X6losim.Sim.Medium

/-!
# Removing a node from the transmit list

The loop of `removeNodeFromTxList` goes on to the next entry only by erasing one.  At an entry for
another node it stays for good.
-/

namespace X6losim

/-- The loop of `removeNodeFromTxList`, for as many turns as there is fuel for: what the list and
`found` are when the iterator is at its end, if it gets there. -/
def removeLoop (nodeIn : NodePtr) : Nat → List NodePtr → Nat → Bool →
    Option (List NodePtr × Bool)
  | 0, _, _, _ => none
  | fuel + 1, txList, iter, found =>
      match txList[iter]? with
      | none => some (txList, found)
      | some node =>
          if node = nodeIn then removeLoop nodeIn fuel (txList.eraseIdx iter) iter true
          else removeLoop nodeIn fuel txList iter found

/-- `PhysicalMedium::removeNodeFromTxList`, if its loop ends with the fuel there is. -/
def removeNodeFromTxList (nodeIn : NodePtr) (fuel : Nat) (m : Medium) :
    Option (EStateM.Result Stop Medium Unit) :=
  match removeLoop nodeIn fuel m.txList 0 false with
  | none => none
  | some (txList, found) =>
      let m := { m with txList }
      if m.state ≠ .tx802514Frame then
        some (.error (.assertion .removeNodeFromTxListState) m)
      else if found = false then some (.error (.assertion .removeNodeFromTxListFound) m)
      else some (.ok () m)

variable {m : Medium} {nodeIn node : NodePtr} {txList : List NodePtr} {found : Bool}

/-- At an entry for another node the loop stays. -/
theorem removeLoop_stuck (hnode : node ≠ nodeIn) (fuel : Nat) :
  removeLoop nodeIn fuel (node :: txList) 0 found = none
  := by
  induction fuel with
  | zero => rfl
  | succ fuel ih => simp [removeLoop, hnode, ih]

/-- At an entry for the node the loop goes on with the entries after it. -/
theorem removeLoop_erase (fuel : Nat) :
  removeLoop nodeIn (fuel + 1) (nodeIn :: txList) 0 found = removeLoop nodeIn fuel txList 0 true
  := by
  simp [removeLoop]

/-- When the loop ends, all entries have been for the node, and none is left. -/
theorem removeLoop_some {fuel : Nat} {r : List NodePtr × Bool}
    (h : removeLoop nodeIn fuel txList 0 found = some r) :
  ∀ q ∈ txList, q = nodeIn
  := by
  induction txList generalizing fuel found with
  | nil => simp
  | cons node txList ih =>
      by_cases hnode : node = nodeIn
      · subst hnode
        cases fuel with
        | zero => cases h
        | succ fuel =>
            rw [removeLoop_erase] at h
            intro q hq
            rcases List.mem_cons.mp hq with rfl | hq
            · rfl
            · apply ih h q hq
      · rw [removeLoop_stuck hnode] at h
        cases h

/-- When all entries are for the node, the loop ends after as many turns as there are entries. -/
theorem removeLoop_all (h : ∀ q ∈ txList, q = nodeIn) (hne : txList ≠ [] ∨ found) :
  removeLoop nodeIn (txList.length + 1) txList 0 found = some ([], true)
  := by
  induction txList generalizing found with
  | nil =>
      obtain rfl : found = true := by simpa using hne
      rfl
  | cons node txList ih =>
      obtain rfl := h node (List.mem_cons_self ..)
      rw [List.length_cons, removeLoop_erase]
      apply ih (fun q hq => h q (List.mem_cons_of_mem _ hq))
      right
      rfl

/-- The node is removed, and nothing else, exactly when there is nothing else on the list. -/
theorem removeNodeFromTxList_iff (hmem : nodeIn ∈ m.txList) (hstate : m.state = .tx802514Frame) :
  (∃ fuel, removeNodeFromTxList nodeIn fuel m
    = some (.ok () { m with txList := m.txList.filter (· ≠ nodeIn) })) ↔
  ∀ q ∈ m.txList, q = nodeIn
  := by
  constructor
  · rintro ⟨fuel, h⟩
    cases hloop : removeLoop nodeIn fuel m.txList 0 false with
    | none =>
        rw [removeNodeFromTxList, hloop] at h
        cases h
    | some r => apply removeLoop_some hloop
  · intro hall
    use m.txList.length + 1
    have hempty : m.txList.filter (· ≠ nodeIn) = [] := by
      apply List.filter_eq_nil_iff.mpr
      intro q hq
      simp [hall q hq]
    rw [removeNodeFromTxList, removeLoop_all hall (Or.inl (List.ne_nil_of_mem hmem)), hempty]
    simp [hstate]

theorem removeNodeFromTxList_single :
  (∃ fuel, removeNodeFromTxList 1 fuel { Medium.new with state := .tx802514Frame, txList := [1] }
    = some (.ok () { Medium.new with
        state := .tx802514Frame, txList := [1].filter (· ≠ 1) })) ↔ ∀ q ∈ [1], q = 1
  := removeNodeFromTxList_iff (List.mem_singleton_self 1) rfl

/-- With another node on the list the loop does not end: it erases the one node and stays at the
other. -/
theorem removeNodeFromTxList_stuck :
  ¬ ∃ fuel r, removeNodeFromTxList 1 fuel
    { Medium.new with state := .tx802514Frame, txList := [1, 2] } = some r
  := by
  rintro ⟨fuel, r, h⟩
  have hloop : removeLoop 1 fuel [1, 2] 0 false = none := by
    cases fuel with
    | zero => rfl
    | succ fuel =>
        rw [removeLoop_erase]
        apply removeLoop_stuck (by decide)
  simp only [removeNodeFromTxList, hloop] at h
  cases h

end X6losim
