import X6losim.Wire.Seal

/-!
# Frames across calls of `readMsg`

A node writes a sequence of frames, and the simulator reads them with one call of `readMsg`
after another, each of which gets as many bytes as happen to be there.  `FramesInOrder` says
that the handlers called are those of the frames, in their order, and that every call leaves
the stream at the start of a frame.  That is so exactly when every call gets all of its frame.
-/

open Bytes

namespace X6losim

/-- Calls of `readMsg` one after another, and the calls of handlers they make. -/
def readCalls (host : ByteOrder) (nodeId : UInt64) :
    List Delivery → Reader (List (Handler × List UInt8))
  | [] => return []
  | d :: ds => do
      let result ← readMsgFrame host nodeId d
      let calls ← readCalls host nodeId ds
      match result with
      | .call handler msg => return (handler, msg) :: calls
      | _ => return calls

/-- The bytes a node has written, for the frames it has sent with the handlers they are for. -/
def stream (frames : List (Handler × List UInt8)) : List UInt8 :=
  (frames.map Prod.snd).flatten

/-- What the handlers are called with, for the frames sent. -/
def handled (frames : List (Handler × List UInt8)) : List (Handler × List UInt8) :=
  frames.map (fun frame => (frame.1, blankCksum frame.2))

/-- After every call of `readMsg` the handlers called are those of the first frames sent, each
once and in order, and the bytes not read yet are those of the other frames. -/
def FramesInOrder (host : ByteOrder) (nodeId : UInt64) (frames : List (Handler × List UInt8))
    (ds : List Delivery) : Prop :=
  ∀ done, done <+: ds → ∃ k,
    readCalls host nodeId done (stream frames)
      = .ok (handled (frames.take k)) (stream (frames.drop k))

/-- Every call of `readMsg` has a frame to read, and gets all of it. -/
def AllWhole : List (Handler × List UInt8) → List Delivery → Prop
  | _, [] => True
  | [], _ :: _ => False
  | frame :: frames, d :: ds => d.Whole frame.2.length ∧ AllWhole frames ds

/-- `readMsg` stops when nothing is there. -/
theorem readMsgFrame_nil {host : ByteOrder} {nodeId : UInt64} {d : Delivery} :
  readMsgFrame host nodeId d [] = .error (.assertion .readMsgPrefix) []
  := by
  have hagain : ¬ ((-1 : Int) = eagain) := by decide
  have hzero : ¬ ((0 : Int) = eagain) := by decide
  cases hfirst : d.first with
  | none => simp [readMsgFrame, recv, hfirst, hagain]
  | some n => simp [readMsgFrame, recv, hfirst, hzero]

/-- `readMsg` gets past the length word only when both bytes of it are there. -/
theorem readMsgFrame_first {host : ByteOrder} {nodeId : UInt64} {d : Delivery}
    {unread unread' : List UInt8} {r : ReadResult} (hlength : 2 ≤ unread.length)
    (h : readMsgFrame host nodeId d unread = .ok r unread') :
  ∃ n, d.first = some n ∧ 2 ≤ n
  := by
  cases hfirst : d.first with
  | none =>
      have hagain : ¬ ((-1 : Int) = eagain) := by decide
      simp [readMsgFrame, recv, hfirst, hagain] at h
  | some n =>
      use n, rfl
      by_contra hn
      have hmin : min n 2 = n := by omega
      have hlen : (unread.take n).length = n := by
        rw [List.length_take]
        omega
      have hagain : ¬ ((n : Int) = eagain) := by
        simp only [eagain]
        omega
      have htwo : ¬ ((n : Int) = 2) := by omega
      simp [readMsgFrame, recv, hfirst, hmin, hlen, hagain, htwo] at h

/-- The bytes not read yet after the rest of a message has been asked for. -/
theorem readMsgBody_unread {host : ByteOrder} {nodeId : UInt64} {d : Delivery} {len : Nat}
    {unread unread' : List UInt8} {r : ReadResult} (hsize : Hdr.size ≤ len)
    (hmax : len < 2 ^ 16) (h : readMsgBody host nodeId d len unread = .ok r unread') :
  unread' = unread.drop (min (d.body.getD 0) (len - 2))
  := by
  have hsize' : 18 ≤ len := hsize
  have hcount : bodyCount len = len - 2 := by
    apply bodyCount_eq
    · omega
    · omega
  have hle : ¬ (malloc d.memory len).length < 2 + (len - 2) := by
    rw [length_malloc]
    omega
  rw [readMsgBody, hcount] at h
  obtain ⟨⟨rv, msgData⟩, unread₁, hinto, h⟩ := Exec.bind_eq_ok.mp h
  have hunread : unread₁ = unread' := by
    change (if rv = eagain then pure ReadResult.failedRead
      else Exec.ofExcept (checkMsg host nodeId len msgData)) unread₁ = _ at h
    rw [Exec.ite_apply] at h
    split at h
    · cases h
      rfl
    · cases hcheck : checkMsg host nodeId len msgData with
      | ok r' =>
          rw [hcheck] at h
          cases h
          rfl
      | error e =>
          rw [hcheck] at h
          cases h
  subst hunread
  rw [recvInto, if_neg hle] at hinto
  cases hbody : d.body with
  | none =>
      rw [hbody] at hinto
      cases hinto
      simp
  | some n =>
      rw [hbody] at hinto
      cases hinto
      rfl

/-- When `readMsg` does not get all of a frame and does not stop, it leaves the stream inside
of the frame. -/
theorem Dispatched.inside {host : ByteOrder} {nodeId : UInt64} {handler : Handler}
    {frame rest unread : List UInt8} {d : Delivery} {r : ReadResult}
    (dispatched : Dispatched host nodeId handler frame) (hwhole : ¬ d.Whole frame.length)
    (h : readMsgFrame host nodeId d (frame ++ rest) = .ok r unread) :
  rest.length < unread.length ∧ unread.length < (frame ++ rest).length
  := by
  obtain ⟨hsize, hmax, hword, -⟩ := dispatched
  have hsize' : 18 ≤ frame.length := hsize
  have hsplit : frame ++ rest = toBE 2 frame.length ++ (frame.drop 2 ++ rest) := by
    rw [← hword, ← List.append_assoc, List.take_append_drop]
  have hlength : 2 ≤ (frame ++ rest).length := by
    rw [List.length_append]
    omega
  have hlen : ofBE (toBE 2 frame.length) = frame.length := by
    rw [ofBE_toBE]
    apply Nat.mod_eq_of_lt hmax
  obtain ⟨n, hfirst, hn⟩ := readMsgFrame_first hlength h
  rw [hsplit, readMsgFrame_word hfirst hn (length_toBE _ _), hlen] at h
  split at h
  · cases h
  · obtain rfl := readMsgBody_unread hsize hmax h
    have hbody : d.body.getD 0 < frame.length - 2 := by
      by_contra hbody
      apply hwhole
      refine ⟨⟨n, hfirst, hn⟩, ?_⟩
      cases hd : d.body with
      | none =>
          rw [hd, Option.getD_none] at hbody
          omega
      | some k =>
          rw [hd, Option.getD_some] at hbody
          use k, rfl
          omega
    simp only [List.length_drop, List.length_append]
    omega

/-- A call of `readMsg` that gets all of a frame, and the calls after it. -/
theorem readCalls_whole {host : ByteOrder} {nodeId : UInt64} {d : Delivery}
    {ds : List Delivery} {frame : Handler × List UInt8} {frames calls : List (Handler × List UInt8)}
    {unread : List UInt8} (dispatched : Dispatched host nodeId frame.1 frame.2)
    (hwhole : d.Whole frame.2.length) :
  readCalls host nodeId (d :: ds) (stream (frame :: frames)) = .ok calls unread ↔
    ∃ calls', readCalls host nodeId ds (stream frames) = .ok calls' unread ∧
      calls = (frame.1, blankCksum frame.2) :: calls'
  := by
  have hstream : stream (frame :: frames) = frame.2 ++ stream frames := rfl
  rw [readCalls, Exec.bind_apply, hstream, dispatched.whole d (stream frames) hwhole]
  simp only
  rw [Exec.bind_eq_ok]
  constructor
  · intro ⟨calls', u, hcalls, h⟩
    cases h
    use calls', hcalls
  · intro ⟨calls', hcalls, h⟩
    subst h
    exact ⟨calls', unread, hcalls, rfl⟩

/-- The stream of the frames left is not longer than that of all frames but the first. -/
theorem length_stream_drop_le (frame : Handler × List UInt8)
    (frames : List (Handler × List UInt8)) (k : Nat) :
  (stream ((frame :: frames).drop (k + 1))).length ≤ (stream frames).length
  := by
  have hsplit : stream frames = stream (frames.take k) ++ stream (frames.drop k) := by
    rw [stream, stream, stream, ← List.flatten_append, ← List.map_append, List.take_append_drop]
  rw [List.drop_succ_cons, hsplit, List.length_append]
  omega

/-- When every call of `readMsg` gets all of its frame, each calls the handler of its frame. -/
theorem AllWhole.readCalls {host : ByteOrder} {nodeId : UInt64}
    {frames : List (Handler × List UInt8)} {ds done : List Delivery}
    (dispatched : ∀ frame ∈ frames, Dispatched host nodeId frame.1 frame.2)
    (whole : AllWhole frames ds) (hdone : done <+: ds) :
  X6losim.readCalls host nodeId done (stream frames)
    = .ok (handled (frames.take done.length)) (stream (frames.drop done.length))
  := by
  induction done generalizing frames ds with
  | nil => rfl
  | cons d done ih =>
      obtain ⟨ds', rfl, hrest⟩ := List.cons_prefix_iff.mp hdone
      cases frames with
      | nil => cases whole
      | cons frame frames =>
          obtain ⟨hwhole, whole⟩ := whole
          have hframe := dispatched frame (List.mem_cons_self ..)
          have hframes := fun f hf => dispatched f (List.mem_cons_of_mem frame hf)
          apply (readCalls_whole hframe hwhole).mpr
          exact ⟨_, ih hframes whole hrest, rfl⟩

/-- When the handlers are called in the order of the frames, every call of `readMsg` got all
of its frame. -/
theorem FramesInOrder.allWhole {host : ByteOrder} {nodeId : UInt64}
    {frames : List (Handler × List UInt8)} {ds : List Delivery}
    (dispatched : ∀ frame ∈ frames, Dispatched host nodeId frame.1 frame.2)
    (inOrder : FramesInOrder host nodeId frames ds) :
  AllWhole frames ds
  := by
  induction ds generalizing frames with
  | nil => cases frames <;> trivial
  | cons d ds ih =>
      have hfirst : [d] <+: d :: ds := by simp
      obtain ⟨k, hk⟩ := inOrder [d] hfirst
      obtain ⟨r, unread, hread, hcalls⟩ := Exec.bind_eq_ok.mp hk
      have hunread : unread = stream (frames.drop k) := by
        obtain ⟨calls, u, ⟨⟩, hcalls⟩ := Exec.bind_eq_ok.mp hcalls
        cases r <;> apply (EStateM.Result.ok.inj hcalls).2
      cases frames with
      | nil =>
          have hnil : readMsgFrame host nodeId d (stream []) = _ := readMsgFrame_nil
          rw [hnil] at hread
          cases hread
      | cons frame frames =>
          have hframe := dispatched frame (List.mem_cons_self ..)
          have hframes := fun f hf => dispatched f (List.mem_cons_of_mem frame hf)
          have hwhole : d.Whole frame.2.length := by
            by_contra hwhole
            have hinside := hframe.inside hwhole hread
            rw [hunread] at hinside
            cases k with
            | zero => exact absurd hinside.2 (lt_irrefl _)
            | succ k =>
                have hle := length_stream_drop_le frame frames k
                apply absurd hinside.1 (not_lt_of_ge hle)
          use hwhole
          apply ih hframes
          intro done hdone
          have hmore : d :: done <+: d :: ds := by simpa using hdone
          obtain ⟨j, hj⟩ := inOrder (d :: done) hmore
          obtain ⟨calls, hrest, hcalls⟩ := (readCalls_whole hframe hwhole).mp hj
          cases j with
          | zero => cases hcalls
          | succ j =>
              obtain rfl := (List.cons.inj hcalls).2
              use j
              exact hrest

/-- A clear channel assessment request of the node with the id 1. -/
def ccaReqFrame : List UInt8 := [0, 18, 0, 4, 0, 0, 0, 1, 0, 0, 0, 0, 0, 0, 0, 1, 231, 255]

theorem dispatched_ccaReqFrame :
  Dispatched .little 1 .handleCcaRequest ccaReqFrame
  := by
  refine ⟨by decide, by decide, by decide, ?_⟩
  intro d rest whole
  have hverdict : verdict .little 1 ccaReqFrame
      = .ok (.call .handleCcaRequest (blankCksum ccaReqFrame)) := by
    decide +kernel
  rw [readMsgFrame_whole (by decide) (by decide) (by decide) whole, if_neg (by decide), hverdict]
  rfl

/-- For frames `readMsg` would dispatch: the handlers are called in the order of the frames,
each once, for exactly those ways of delivering the bytes in which every call of `readMsg`
gets all of its frame. -/
theorem framesInOrder_iff {host : ByteOrder} {nodeId : UInt64}
    {frames : List (Handler × List UInt8)} {ds : List Delivery}
    (dispatched : ∀ frame ∈ frames, Dispatched host nodeId frame.1 frame.2) :
  FramesInOrder host nodeId frames ds ↔ AllWhole frames ds
  := by
  constructor
  · intro inOrder
    apply inOrder.allWhole dispatched
  · intro whole done hdone
    use done.length
    apply whole.readCalls dispatched hdone

/-- A clear channel assessment request and a deregistration request are handled one after the other
when the sixteen bytes after each length word arrive together. -/
theorem framesInOrder_ccaReqFrame :
  FramesInOrder .little 1
    [(.handleCcaRequest, ccaReqFrame),
      (.handleDeregistrationRequest, sealMsg .little .handleDeregistrationRequest 1 [])]
    [⟨some 34, some 32, fun _ => 0⟩, ⟨some 18, some 16, fun _ => 0⟩]
  := by
  have dispatched : ∀ frame ∈ [(Handler.handleCcaRequest, ccaReqFrame),
      (.handleDeregistrationRequest, sealMsg .little .handleDeregistrationRequest 1 [])],
      Dispatched .little 1 frame.1 frame.2 := by
    intro frame hframe
    simp only [List.mem_cons, List.not_mem_nil, or_false] at hframe
    rcases hframe with rfl | rfl
    · apply dispatched_ccaReqFrame
    · apply dispatched_sealMsg (by decide) (by decide)
  apply (framesInOrder_iff dispatched).mpr
  refine ⟨⟨⟨34, rfl, by decide⟩, 32, rfl, by decide⟩, ⟨⟨18, rfl, by decide⟩, 16, rfl, ?_⟩, trivial⟩
  rw [length_sealMsg]
  decide

/-- When only five bytes have arrived after its length word, the request is lost. -/
theorem ccaReqFrame_split :
  Dispatched .little 1 .handleCcaRequest ccaReqFrame ∧
    ¬ FramesInOrder .little 1 [(.handleCcaRequest, ccaReqFrame)] [⟨some 2, some 5, fun _ => 0⟩]
  := by
  use dispatched_ccaReqFrame
  intro inOrder
  have dispatched : ∀ frame ∈ [(Handler.handleCcaRequest, ccaReqFrame)],
      Dispatched .little 1 frame.1 frame.2 := by
    intro frame hframe
    obtain rfl := List.mem_singleton.mp hframe
    apply dispatched_ccaReqFrame
  obtain ⟨⟨-, n, hn, hle⟩, -⟩ := inOrder.allWhole dispatched
  cases hn
  apply absurd hle
  decide

end X6losim
