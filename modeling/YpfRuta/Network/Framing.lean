/-
  Frames on a peer's stream (`common/src/network/handler/sender.rs`, `receiver.rs`):
  a length in two bytes, then that many bytes. A payload of one byte 0xFE or 0xFF is
  a heartbeat.
-/
import YpfRuta.Network.Lengths

namespace YpfRuta.Network

open Lib

/-- What one frame carries. -/
inductive Frame where
  | message (payload : List UInt8)
  | heartbeatRequest
  | heartbeatReply
  deriving DecidableEq, Repr

namespace Frame

def payload : Frame → List UInt8
  | message bytes => bytes
  | heartbeatRequest => [HEARTBEAT_REQUEST]
  | heartbeatReply => [HEARBEAT_REPLY]

/-- The bytes `StreamSender` writes: the length as a `u16`, then the payload. -/
def bytes (f : Frame) : List UInt8 :=
  u16Bytes (UInt16.ofNat f.payload.length) ++ f.payload

/-- How `StreamReceiver` tells heartbeats from messages. -/
def classify (payload : List UInt8) : Frame :=
  if payload = [HEARTBEAT_REQUEST] then heartbeatRequest
  else if payload = [HEARBEAT_REPLY] then heartbeatReply
  else message payload

end Frame

/-- The bytes of some frames, one after the other. -/
def written (frames : List Frame) : List UInt8 := frames.flatMap Frame.bytes

/-- `StreamReceiver::recv` on the bytes of a stream: the next frame and what follows it,
    once it is there in full. -/
def recv (stream : List UInt8) : Option (Frame × List UInt8) := do
  let (lenBytes, rest) ← readExact 2 stream
  let (payload, rest) ← readExact (fromBeBytes lenBytes) rest
  return (.classify payload, rest)

theorem recv_eq_some {stream rest : List UInt8} {f : Frame} (h : recv stream = some (f, rest)) :
    ∃ lenBytes payload, stream = lenBytes ++ payload ++ rest ∧ lenBytes.length = 2 ∧
      payload.length = fromBeBytes lenBytes ∧ f = .classify payload := by
  obtain ⟨⟨lenBytes, tail⟩, hlen, h⟩ := Option.bind_eq_some_iff.mp h
  obtain ⟨⟨payload, rest'⟩, hpayload, h⟩ := Option.bind_eq_some_iff.mp h
  cases h
  obtain ⟨rfl, hlen2⟩ := readExact_eq_some hlen
  obtain ⟨rfl, hplen⟩ := readExact_eq_some hpayload
  exact ⟨lenBytes, payload, (List.append_assoc ..).symm, hlen2, hplen, rfl⟩

theorem recv_length {stream rest : List UInt8} {f : Frame} (h : recv stream = some (f, rest)) :
    rest.length < stream.length := by
  obtain ⟨lenBytes, payload, rfl, hlen, -, -⟩ := recv_eq_some h
  rw [List.length_append, List.length_append]
  omega

/-- The frames of a stream, and the bytes left over. -/
def parse (stream : List UInt8) : List Frame × List UInt8 :=
  match _h : recv stream with
  | some (f, rest) => (f :: (parse rest).1, (parse rest).2)
  | none => ([], stream)
termination_by stream.length
decreasing_by all_goals exact recv_length _h

theorem parse_some {stream rest : List UInt8} {f : Frame} (h : recv stream = some (f, rest)) :
    parse stream = (f :: (parse rest).1, (parse rest).2) := by
  rw [parse]
  split
  · rename_i g rest' hr
    rw [h] at hr
    cases hr
    rfl
  · rename_i hr
    rw [h] at hr
    cases hr

theorem parse_none {stream : List UInt8} (h : recv stream = none) : parse stream = ([], stream) := by
  rw [parse]
  split
  · rename_i g rest' hr
    rw [h] at hr
    cases hr
  · rfl

/-! ## One frame -/

/-- A frame whose length fits and which is what its payload says. -/
structure Frame.Fits (f : Frame) : Prop where
  length : f.payload.length ≤ 65535
  classified : Frame.classify f.payload = f

theorem u16Bytes_ofNat (n : Nat) : fromBeBytes (u16Bytes (UInt16.ofNat n)) = n % 65536 := by
  unfold u16Bytes
  rw [fromBeBytes_toBeBytes]
  simp

theorem recv_bytes {f : Frame} (h : f.Fits) (rest : List UInt8) :
    recv (f.bytes ++ rest) = some (f, rest) := by
  have hlen : fromBeBytes (u16Bytes (UInt16.ofNat f.payload.length)) = f.payload.length := by
    rw [u16Bytes_ofNat]
    have := h.length
    omega
  unfold recv Frame.bytes
  rw [List.append_assoc, readExact_append (u16Bytes_length _)]
  show (readExact _ (f.payload ++ rest)).bind _ = _
  rw [hlen, readExact_append rfl]
  show some (Frame.classify f.payload, rest) = _
  rw [h.classified]

theorem classify_message {payload bytes : List UInt8}
    (h : Frame.classify payload = .message bytes) : payload = bytes := by
  unfold Frame.classify at h
  split at h
  · cases h
  · split at h
    · cases h
    · exact Frame.message.inj h

/-- A payload too long for its length field is cut. -/
theorem recv_oversized {payload : List UInt8} (h : 65536 ≤ payload.length) (rest : List UInt8) :
    ∃ g rest', recv ((Frame.message payload).bytes ++ rest) = some (g, rest') ∧
      g ≠ .message payload := by
  have hcut : payload.length % 65536 ≤ (payload ++ rest).length := by
    rw [List.length_append]
    have := Nat.mod_le payload.length 65536
    omega
  refine ⟨Frame.classify ((payload ++ rest).take (payload.length % 65536)),
    (payload ++ rest).drop (payload.length % 65536), ?_, ?_⟩
  · unfold recv Frame.bytes
    rw [List.append_assoc, readExact_append (u16Bytes_length _)]
    show (readExact (fromBeBytes (u16Bytes (UInt16.ofNat payload.length)))
      (payload ++ rest)).bind _ = _
    rw [u16Bytes_ofNat, readExact, if_pos hcut]
    rfl
  · intro hg
    have hlen := congrArg List.length (classify_message hg)
    rw [List.length_take_of_le hcut] at hlen
    omega

/-! ## Streams -/

/-- What a node puts on a stream: a message of its queue, or a heartbeat. -/
inductive Outgoing where
  | message (msg : Message F32)
  | heartbeatRequest
  | heartbeatReply

def Outgoing.frame : Outgoing → Except String Frame
  | message msg => (serializeMessage msg).map Frame.message
  | heartbeatRequest => .ok .heartbeatRequest
  | heartbeatReply => .ok .heartbeatReply

/-- The frames a sequence of sends writes, if no serializer panics. -/
def framesOf : List Outgoing → Except String (List Frame)
  | [] => .ok []
  | out :: outs => do return (← out.frame) :: (← framesOf outs)

theorem framesOf_cons {out : Outgoing} {outs : List Outgoing} {frames : List Frame}
    (h : framesOf (out :: outs) = .ok frames) :
    ∃ f fs, out.frame = .ok f ∧ framesOf outs = .ok fs ∧ frames = f :: fs := by
  unfold framesOf at h
  cases hf : out.frame with
  | error e =>
    rw [hf] at h
    cases h
  | ok f =>
    cases hfs : framesOf outs with
    | error e =>
      rw [hf, hfs] at h
      cases h
    | ok fs =>
      rw [hf, hfs] at h
      cases h
      exact ⟨f, fs, rfl, rfl, rfl⟩

/-- The message, if any, fits a frame. -/
def Outgoing.Fits : Outgoing → Prop
  | message msg => messageLen msg ≤ 65535
  | _ => True

instance (out : Outgoing) : Decidable out.Fits :=
  match out with
  | .message msg => inferInstanceAs (Decidable (messageLen msg ≤ 65535))
  | .heartbeatRequest | .heartbeatReply => isTrue trivial

theorem Outgoing.frame_fits {out : Outgoing} {f : Frame} (h : out.frame = .ok f)
    (hfits : out.Fits) : f.Fits := by
  cases out with
  | message msg =>
    cases hm : serializeMessage msg with
    | error e =>
      rw [frame, hm] at h
      cases h
    | ok payload =>
      rw [frame, hm] at h
      cases h
      obtain ⟨t, rest, rfl, hreq, hrep⟩ := message_type hm
      refine ⟨(message_length hm).trans_le hfits, ?_⟩
      show Frame.classify (t :: rest) = _
      unfold Frame.classify
      rw [if_neg fun he => hreq (List.cons.inj he).1, if_neg fun he => hrep (List.cons.inj he).1]
  | heartbeatRequest =>
    cases h
    exact ⟨by decide, by decide⟩
  | heartbeatReply =>
    cases h
    exact ⟨by decide, by decide⟩

theorem Outgoing.frame_oversized {out : Outgoing} {f : Frame} (h : out.frame = .ok f)
    (hfits : ¬ out.Fits) : ∃ payload, f = .message payload ∧ 65536 ≤ payload.length := by
  cases out with
  | message msg =>
    cases hm : serializeMessage msg with
    | error e =>
      rw [frame, hm] at h
      cases h
    | ok payload =>
      rw [frame, hm] at h
      cases h
      refine ⟨payload, rfl, ?_⟩
      rw [message_length hm]
      unfold Fits at hfits
      omega
  | heartbeatRequest => exact absurd trivial hfits
  | heartbeatReply => exact absurd trivial hfits

/-- **Framing.** The bytes of any sequence of messages and heartbeats parse back into
    the same frames with nothing left over exactly when every message takes at most
    65535 bytes. -/
theorem framing_lossless {outs : List Outgoing} {frames : List Frame}
    (h : framesOf outs = .ok frames) :
    parse (written frames) = (frames, []) ↔ ∀ out ∈ outs, out.Fits := by
  induction outs generalizing frames with
  | nil =>
    cases h
    refine iff_of_true (parse_none rfl) fun out hout => ?_
    cases hout
  | cons out outs ih =>
    obtain ⟨f, fs, hf, hfs, rfl⟩ := framesOf_cons h
    have hwritten : written (f :: fs) = f.bytes ++ written fs := rfl
    rw [hwritten, List.forall_mem_cons]
    by_cases hfits : out.Fits
    · rw [parse_some (recv_bytes (Outgoing.frame_fits hf hfits) _), and_iff_right hfits, ← ih hfs]
      constructor
      · intro heq
        obtain ⟨hframes, hrest⟩ := Prod.mk.inj heq
        exact Prod.ext (List.cons.inj hframes).2 hrest
      · intro heq
        rw [heq]
    · obtain ⟨payload, rfl, hlong⟩ := Outgoing.frame_oversized hf hfits
      obtain ⟨g, rest', hr, hg⟩ := recv_oversized hlong (written fs)
      rw [parse_some hr]
      refine iff_of_false (fun heq => ?_) fun hall => hfits hall.1
      exact hg (List.cons.inj (Prod.mk.inj heq).1).1

/-! ## Two streams -/

theorem framing_lossless_example :
    parse (written [.message [2, 0, 0, 0, 1], .heartbeatRequest]) =
      ([.message [2, 0, 0, 0, 1], .heartbeatRequest], []) := by
  have hframes : framesOf [.message (.ack 1), .heartbeatRequest] =
      .ok [.message [2, 0, 0, 0, 1], .heartbeatRequest] := by decide +kernel
  exact (framing_lossless hframes).mpr (by decide)

/-- The view of a one-node cluster whose database has an account with 2730 cards. -/
def largeView : Message F32 :=
  .clusterView [(74651, .v4 0x7F000001 5000)] (.v4 0x7F000001 5000)
    ⟨.v4 0x7F000001 5001, [⟨1, none, 0⟩], (List.range 2730).map fun k => ⟨1, UInt64.ofNat k, none, 0⟩⟩

theorem largeView_len : messageLen largeView = 65587 := by
  simp [messageLen, largeView, databaseLen]

/-- That view takes 65587 bytes, its length field says 51. -/
theorem framing_loses_view :
    ∃ frames, framesOf [.message largeView] = .ok frames ∧
      parse (written frames) ≠ (frames, []) := by
  obtain ⟨payload, hpayload⟩ : ∃ payload, serializeMessage largeView = .ok payload := ⟨_, rfl⟩
  have hframes : framesOf [.message largeView] = .ok [.message payload] := by
    show ((serializeMessage largeView).map Frame.message >>= fun f =>
      framesOf [] >>= fun fs => pure (f :: fs)) = _
    rw [hpayload]
    rfl
  have hlong : 65536 ≤ payload.length := by
    rw [message_length hpayload, largeView_len]
    decide
  refine ⟨_, hframes, fun heq => ?_⟩
  obtain ⟨g, rest, hr, hg⟩ := recv_oversized hlong []
  have hparse : parse (written [.message payload]) = _ := parse_some hr
  rw [hparse] at heq
  exact hg (List.cons.inj (Prod.mk.inj heq).1).1

end YpfRuta.Network
