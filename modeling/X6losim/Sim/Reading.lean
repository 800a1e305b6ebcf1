import X6losim.Sim.Handling
import X6losim.Wire.Seal

/-!
# The grammar of the messages `readMsg` takes

`readMsg` on a message that is delivered whole, as a step on the medium: it calls the handler the
message is accepted for, and drops a message that is accepted for none, except where one of its
assertions fails.
-/

open Bytes

namespace X6losim

/-- `readMsg` takes a message, delivered whole, by the grammar. -/
structure ReadsGrammar (host : ByteOrder) (env : Env) (m : Medium) (p : NodePtr) (n : DeviceNode)
    (d : Delivery) (msg rest : List UInt8) : Prop where
  /-- A handler is called for a message exactly when it is accepted for this handler. -/
  call : ∀ handler msg',
    readMsgFrame host n.getNodeId d (msg ++ rest) = .ok (.call handler msg') rest ↔
      Accepted host n.getNodeId handler msg ∧ msg' = blankCksum msg
  /-- The call of the handler is all that happens. -/
  handled : ∀ handler, Accepted host n.getNodeId handler msg →
    readMsg host env p d (msg ++ rest) m =
      match callHandler host env p (blankCksum msg) handler m with
      | .ok () m' => .ok rest m'
      | .error e m' => .error e m'
  /-- Any other message is consumed, and nothing else happens. -/
  dropped : (∀ handler, ¬ Accepted host n.getNodeId handler msg) →
    readMsg host env p d (msg ++ rest) m = .ok rest m
  /-- No assertion of `readMsg` fails. -/
  asserted : ∀ site rest',
    readMsgFrame host n.getNodeId d (msg ++ rest) ≠ .error (.assertion site) rest'

/-- The lengths that the assertion on the length refuses, on a little-endian host. -/
theorem load_little_word {len : Nat} (hmax : len < 2 ^ 16) :
  ByteOrder.little.load (toBE 2 len) < sizeofPointer ↔ len % 256 = 0 ∧ len < 2048
  := by
  have hload : ByteOrder.little.load (toBE 2 len) = len / 256 % 256 + 256 * (len % 256) := by
    simp [ByteOrder.load, toBE, toLE, ofLE]
  have hhigh : len / 256 % 256 = len / 256 := by omega
  rw [hload, hhigh, sizeofPointer]
  omega

variable {host : ByteOrder} {m : Medium} {p : NodePtr} {n : DeviceNode} {d : Delivery}
  {msg : List UInt8}

/-- When the length passes and the message does not name another node, the message is taken by
the grammar. -/
theorem readsGrammar (env : Env) (rest : List UInt8) (hlive : m.nodes p = .live n)
    (hframe : readMsgFrame host n.getNodeId d (msg ++ rest)
      = Exec.ofExcept (verdict host n.getNodeId msg) rest)
    (hid : CksumVerifies host msg → Hdr.nodeId.value msg = n.getNodeId.toNat) :
  ReadsGrammar host env m p n d msg rest
  where
  call handler msg' := by
    rw [hframe, ← verdict_call_iff]
    cases verdict host n.getNodeId msg with
    | error e => simp
    | ok r => simp
  handled handler haccepted := by
    rw [readMsg_eq hlive, hframe, verdict_call_iff.mpr ⟨haccepted, rfl⟩]
    rfl
  dropped hnone := by
    rw [readMsg_eq hlive, hframe, verdict_dropped hid hnone]
    rfl
  asserted site rest' h := by
    rw [hframe] at h
    cases hverdict : verdict host n.getNodeId msg with
    | ok r =>
        rw [hverdict] at h
        cases h
    | error e =>
        obtain ⟨hcksum, hother, -⟩ := verdict_error_iff.mp hverdict
        apply hother (hid hcksum)

/-- On a little-endian host, `readMsg` takes a message of at least the size of a header by the
grammar, whenever it is delivered whole, if and only if its length is no multiple of 256 below
2048 and it does not name another node under a good checksum. -/
theorem readsGrammar_iff (hlive : m.nodes p = .live n) (hsize : 18 ≤ msg.length)
    (hmax : msg.length ≤ 65535) (hword : msg.take 2 = toBE 2 msg.length) :
  (∀ env d rest, d.Whole msg.length → ReadsGrammar .little env m p n d msg rest) ↔
    ¬ (msg.length % 256 = 0 ∧ msg.length < 2048) ∧
      (CksumVerifies .little msg → Hdr.nodeId.value msg = n.getNodeId.toNat)
  := by
  have hlt : msg.length < 2 ^ 16 := by omega
  have hread : ∀ (d : Delivery) (rest : List UInt8), d.Whole msg.length →
      readMsgFrame .little n.getNodeId d (msg ++ rest) =
        if ByteOrder.little.load (toBE 2 msg.length) < sizeofPointer then
          .error (.assertion .readMsgLength) (msg.drop 2 ++ rest)
        else Exec.ofExcept (verdict .little n.getNodeId msg) rest := by
    intro d rest whole
    apply readMsgFrame_whole hsize hlt hword whole
  constructor
  · intro h
    have hwhole : Delivery.Whole ⟨some 2, some msg.length, fun _ => 0⟩ msg.length :=
      ⟨⟨2, rfl, le_refl 2⟩, msg.length, rfl, Nat.sub_le _ _⟩
    have hassert := (h Env.calm _ [] hwhole).asserted
    rw [hread _ [] hwhole] at hassert
    have hpass : ¬ ByteOrder.little.load (toBE 2 msg.length) < sizeofPointer := by
      intro hfail
      rw [if_pos hfail] at hassert
      apply hassert _ _ rfl
    rw [if_neg hpass] at hassert
    constructor
    · rw [← load_little_word hlt]
      apply hpass
    · intro hcksum
      by_contra hother
      rw [verdict_error_iff.mpr ⟨hcksum, hother, rfl⟩] at hassert
      apply hassert _ _ rfl
  · intro ⟨hlen, hid⟩ env d rest whole
    have hpass : ¬ ByteOrder.little.load (toBE 2 msg.length) < sizeofPointer := by
      rw [load_little_word hlt]
      apply hlen
    apply readsGrammar env rest hlive _ hid
    rw [hread d rest whole, if_neg hpass]

/-- A clear channel assessment request of 18 bytes is taken by the grammar. -/
theorem readsGrammar_ccaReq :
  let msg := sealMsg .little .handleCcaRequest 7 []
  ∀ env d rest, d.Whole msg.length →
    ReadsGrammar .little env (Medium.new.putNode 1 (DeviceNode.registering 7)) 1
      (DeviceNode.registering 7) d msg rest
  := by
  have hlength : (sealMsg .little .handleCcaRequest 7 []).length = 18 := length_sealMsg
  apply (readsGrammar_iff (putNode_nodes_self _ _ _) (by omega) (by omega) take_sealMsg).mpr
  rw [hlength]
  constructor
  · decide
  · intro _
    apply accepted_sealMsg.nodeId

/-- One of 256 bytes is accepted for its handler, and refused by the assertion on the length. -/
theorem length_256_refused :
  let msg := sealMsg .little .handleCcaRequest 7 (List.replicate 238 0)
  msg.length = 256 ∧ Accepted .little 7 .handleCcaRequest msg ∧
    readMsgFrame .little 7 ⟨some 2, some 254, fun _ => 0⟩ msg
      = .error (.assertion .readMsgLength) (msg.drop 2)
  := by
  intro msg
  have hlength : msg.length = 256 := by
    rw [length_sealMsg, List.length_replicate, Hdr.size]
  have hwhole : Delivery.Whole ⟨some 2, some 254, fun _ => 0⟩ msg.length := by
    rw [hlength]
    exact ⟨⟨2, rfl, le_refl 2⟩, 254, rfl, le_refl 254⟩
  have hsize : Hdr.size ≤ msg.length := by
    rw [hlength]
    decide
  have hmax : msg.length < 2 ^ 16 := by
    rw [hlength]
    decide
  have hframe : readMsgFrame .little 7 ⟨some 2, some 254, fun _ => 0⟩ (msg ++ []) = _ :=
    readMsgFrame_whole hsize hmax take_sealMsg hwhole
  have hrefused : ByteOrder.little.load (toBE 2 msg.length) < sizeofPointer := by
    rw [load_little_word hmax, hlength]
    decide
  rw [if_pos hrefused, List.append_nil, List.append_nil] at hframe
  exact ⟨hlength, accepted_sealMsg, hframe⟩

end X6losim
