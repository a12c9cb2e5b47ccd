/-
  Two handlers at the ends of one stream (`common/src/network/serials/handler_first_messages.rs`,
  `handler/handler.rs`). The side that dials writes its own address first; the other one reads
  nine bytes before it starts a handler. From then on the tasks of both run side by side, and
  what one has written arrives at the other in pieces.
-/
import YpfRuta.Network.Eviction
import YpfRuta.Network.RoundTrip

namespace YpfRuta.Network

open Lib
open Eviction (Peer decode)

/-! ## The first message -/

/-- What `send_handler_first_message` writes. -/
def handlerFirstMessage (address : SocketAddr) : Srl := do
  let addressSrl ← serializeSocketAddress address
  let srl := [MSG_TYPE_HANDLER_FIRST] ++ addressSrl
  return u16Bytes (UInt16.ofNat srl.length) ++ srl

/-- `read_handler_first_message`, once nine bytes are there: it looks at neither the length
    nor the type. -/
def readHandlerFirstMessage (stream : List UInt8) : Option (Dsr SocketAddr × List UInt8) := do
  let (buf, rest) ← readExact 9 stream
  return (deserializeSocketAddressSrl ((buf.drop 3).take 6), rest)

section FirstMessage

variable {address : SocketAddr} {greeting : List UInt8}

theorem handlerFirstMessage_ok (h : handlerFirstMessage address = .ok greeting) :
    greeting.length = 9 ∧ deserializeSocketAddressSrl ((greeting.drop 3).take 6) = .ok address := by
  cases address with
  | v6 ip port flowinfo scopeId => cases h
  | v4 ip port =>
    obtain ⟨bytes, hwrite, hlen, hread⟩ :=
      socketAddress_reads (show (SocketAddr.v4 ip port).isIpv4 from rfl)
    unfold handlerFirstMessage at h
    rw [hwrite] at h
    cases h
    have hfront : (u16Bytes (UInt16.ofNat ([MSG_TYPE_HANDLER_FIRST] ++ bytes).length) ++
        [MSG_TYPE_HANDLER_FIRST]).length = 3 := by
      rw [List.length_append, u16Bytes_length]
      rfl
    rw [← List.append_assoc]
    refine ⟨by rw [List.length_append, hfront, hlen], ?_⟩
    rw [List.drop_left' hfront, List.take_of_length_le (Nat.le_of_eq hlen)]
    exact hread.self

/-- **The first message names its sender**, and what follows it is left alone. -/
theorem readHandlerFirstMessage_append (h : handlerFirstMessage address = .ok greeting)
    (rest : List UInt8) : readHandlerFirstMessage (greeting ++ rest) = some (.ok address, rest) := by
  obtain ⟨hlen, hread⟩ := handlerFirstMessage_ok h
  unfold readHandlerFirstMessage
  rw [readExact_append hlen]
  show some (deserializeSocketAddressSrl ((greeting.drop 3).take 6), rest) = _
  rw [hread]

end FirstMessage

/-! ## The two ends -/

namespace Loop

variable {μ : Type}

/-- The peer has written more bytes. -/
def receive (s : Loop μ) (bytes : List UInt8) : Loop μ := { s with coming := s.coming ++ bytes }

/-- What the task still has to write. -/
def pending (s : Loop μ) : List UInt8 := s.writing.getD [] ++ s.beat

end Loop

/-- What a step queues. -/
def LoopStep.queued : LoopStep → List (Message F32)
  | .enqueue msg => [msg]
  | _ => []

/-- A step of a handler's task, and `Handler::send`, which queues what it accepts. -/
def Eviction.Peer.act (p : Peer) (l : LoopStep) : Option Peer :=
  (p.loop.step decode l).map fun loop => { accepted := p.accepted ++ l.queued, loop := loop }

/-- What a peer wrote between `p` and `p'`. -/
def Eviction.Peer.wrote (p p' : Peer) : List UInt8 := p'.loop.out.drop p.loop.out.length

/-- What a peer passed upstream between `p` and `p'`. -/
def Eviction.Peer.passed (p p' : Peer) : List (Message F32) :=
  p'.loop.forwarded.drop p.loop.forwarded.length

def Eviction.Peer.receive (p : Peer) (bytes : List UInt8) : Peer :=
  { p with loop := p.loop.receive bytes }

/-- The task ends with its node. -/
def Eviction.Peer.halt (p : Peer) : Peer := { p with loop := { p.loop with running := false } }

/-- One stream. `acceptor` is the other side's handler under the address it was told, once
    `Handler::start_from` has it; before, `wire` holds what the dialer has written. -/
structure Session where
  dialer : Peer
  acceptor : Option (SocketAddr × Peer)
  wire : List UInt8

namespace Session

inductive Label where
  /-- The dialer's task goes on, or its owner sends. -/
  | dialer (l : LoopStep)
  /-- `Handler::start_from`. -/
  | welcome
  /-- The acceptor's task goes on, or its owner sends. -/
  | acceptor (l : LoopStep)
  deriving DecidableEq

/-- `Handler::start` of a node whose own address is `address`. -/
def start (address : SocketAddr) : Except String Session := do
  return { dialer := .start [], acceptor := none, wire := ← handlerFirstMessage address }

/-- The dialer has written `bytes`. -/
def carry (s : Session) (bytes : List UInt8) : Session :=
  match s.acceptor with
  | some (address, p) => { s with acceptor := some (address, p.receive bytes) }
  | none => { s with wire := s.wire ++ bytes }

def step (s : Session) : Label → Option Session
  | .dialer l => (s.dialer.act l).map fun p => { s with dialer := p }.carry (s.dialer.wrote p)
  | .welcome =>
    match s.acceptor, readHandlerFirstMessage s.wire with
    | none, some (.ok address, rest) =>
      some { s with acceptor := some (address, .start rest), wire := [] }
    -- it waits for more bytes, or the stream is dropped
    | _, _ => none
  | .acceptor l =>
    match s.acceptor with
    | some (address, p) => (p.act l).map fun p' =>
      { s with dialer := s.dialer.receive (p.wrote p'), acceptor := some (address, p') }
    | none => none

/-- No branch of either `select!` completes while another one of it is under way. -/
def Untorn (s : Session) : Label → Prop
  | .dialer l => s.dialer.loop.Untorn decode l
  | .welcome => True
  | .acceptor l => ∀ p ∈ s.acceptor, p.2.loop.Untorn decode l

instance (s : Session) (l : Label) : Decidable (s.Untorn l) :=
  match l with
  | .dialer l => inferInstanceAs (Decidable (s.dialer.loop.Untorn decode l))
  | .welcome => isTrue True.intro
  | .acceptor l => inferInstanceAs (Decidable (∀ p ∈ s.acceptor, p.2.loop.Untorn decode l))

end Session

/-- A message that survives its codec and fits a frame. -/
structure Portable (msg : Message F32) : Prop where
  restores : Restores serializeMessage deserializeMessage msg
  fits : messageLen msg ≤ 65535

/-- What the owners of the two handlers send. -/
def Session.Label.queued : Session.Label → List (Message F32)
  | .dialer l => l.queued
  | .welcome => []
  | .acceptor l => l.queued

/-! ## More bytes to come -/

namespace Loop

variable {μ : Type} {decode : List UInt8 → Option μ} {s s' : Loop μ} {l : LoopStep}
  {frames : List Frame}

theorem receive_nil (s : Loop μ) : s.receive [] = s := by
  unfold receive
  rw [List.append_nil]

theorem receive_receive (s : Loop μ) (bytes more : List UInt8) :
    (s.receive bytes).receive more = s.receive (bytes ++ more) := by
  unfold receive
  rw [List.append_assoc]

theorem progress_receive (s : Loop μ) (p : Progress μ) (bytes : List UInt8) :
    (s.receive bytes).progress p = (s.progress p).receive bytes := by
  cases p <;> rfl

/-- A step does not see what is still to come. -/
theorem step_receive (hs : s.step decode l = some s') (bytes : List UInt8) :
    (s.receive bytes).step decode l = some (s'.receive bytes) := by
  unfold step at hs ⊢
  split at hs
  · cases hs
  rename_i hrun
  rw [if_neg (show ¬ (s.receive bytes).running = false from hrun)]
  cases l with
  | arrive n =>
    dsimp only at hs ⊢
    split at hs
    · rename_i hle
      cases hs
      have hle' : n ≤ (s.coming ++ bytes).length := by
        rw [List.length_append]
        omega
      rw [if_pos (show n ≤ (s.receive bytes).coming.length from hle')]
      simp only [receive, List.take_append_of_le_length hle, List.drop_append_of_le_length hle]
    · cases hs
  | enqueue msg =>
    cases hs
    rfl
  | pop =>
    dsimp only [receive] at hs ⊢
    split at hs
    · split at hs
      · cases hs
        rfl
      · cases hs
        rfl
    · cases hs
  | write n =>
    dsimp only [receive] at hs ⊢
    split at hs
    · cases hs
      rfl
    · cases hs
      split <;> rfl
    · cases hs
  | read n =>
    dsimp only [receive] at hs ⊢
    split at hs
    · split at hs
      · rename_i hbeat hle
        obtain ⟨p, hp, rfl⟩ := Option.map_eq_some_iff.mp hs
        refine (if_pos hle).trans ?_
        rw [hp]
        exact congrArg some (progress_receive { s with arrived := s.arrived.drop n } p bytes)
      · cases hs
    · cases hs
  | forward =>
    dsimp only [receive] at hs ⊢
    split at hs
    · cases hs
      rfl
    · cases hs
  | tick =>
    dsimp only [receive] at hs ⊢
    split at hs
    · cases hs
      rfl
    · cases hs
  | stop =>
    cases hs
    rfl

theorem untorn_receive (s : Loop μ) (l : LoopStep) (bytes : List UInt8) :
    (s.receive bytes).Untorn decode l ↔ s.Untorn decode l := by
  cases l <;> exact Iff.rfl

end Loop

/-! ## One direction -/

/-- Frames whose messages the other side can read. -/
def Readable (frames : List Frame) : Prop :=
  ∀ payload, Frame.message payload ∈ frames → decode payload ≠ none

/-- What `p` accepted goes to `s`: framed or still queued, and a frame is on its way to `s`
    from the moment it is begun. -/
structure Flow (p : Peer) (s : Loop (Message F32)) : Prop where
  portable : ∀ msg ∈ p.accepted, Portable msg
  carried : ∃ frames, p.loop.framed = written frames ∧ (∀ f ∈ frames, f.Fits) ∧
    Readable frames ∧ messagesIn decode frames ++ p.loop.queue = p.accepted ∧
    LoopInv decode frames (s.receive p.loop.pending)

/-- What a step that tears nothing does to the stream: it writes, or begins a frame. -/
inductive Sends (p p' : Peer) : List UInt8 → Prop where
  | writes (bytes : List UInt8) (hpending : p.loop.pending = bytes ++ p'.loop.pending)
      (hframed : p'.loop.framed = p.loop.framed) (hqueue : p'.loop.queue = p.loop.queue)
      (haccepted : p'.accepted = p.accepted) : Sends p p' bytes
  | queues (msg : Message F32) (hpending : p'.loop.pending = p.loop.pending)
      (hframed : p'.loop.framed = p.loop.framed) (hqueue : p'.loop.queue = p.loop.queue ++ [msg])
      (haccepted : p'.accepted = p.accepted ++ [msg]) : Sends p p' []
  | beats (beat : Frame) (hbeat : beat = .heartbeatRequest ∨ beat = .heartbeatReply)
      (hempty : p.loop.pending = []) (hpending : p'.loop.pending = beat.bytes)
      (hframed : p'.loop.framed = p.loop.framed ++ beat.bytes)
      (hqueue : p'.loop.queue = p.loop.queue) (haccepted : p'.accepted = p.accepted) :
      Sends p p' []
  | pops (msg : Message F32) (payload : List UInt8) (hmsg : serializeMessage msg = .ok payload)
      (hempty : p.loop.pending = []) (hpending : p'.loop.pending = (Frame.message payload).bytes)
      (hframed : p'.loop.framed = p.loop.framed ++ (Frame.message payload).bytes)
      (hqueue : p.loop.queue = msg :: p'.loop.queue) (haccepted : p'.accepted = p.accepted) :
      Sends p p' []
  | panics (msg : Message F32) (e : String) (hmsg : serializeMessage msg = .error e)
      (hqueue : msg ∈ p.loop.queue) : Sends p p' []

section Direction

variable {p p' : Peer} {s s' : Loop (Message F32)} {l : LoopStep} {bytes : List UInt8}
  {frames : List Frame} {msg : Message F32}

/-- Another frame is on its way. -/
theorem LoopInv.extend (h : LoopInv decode frames s) (f : Frame) :
    LoopInv decode (frames ++ [f]) (s.receive f.bytes) := by
  obtain ⟨done, left, rfl, hforwarded, hat⟩ := h.passed
  refine ⟨⟨done, left ++ [f], List.append_assoc .., hforwarded, fun hrun => ?_⟩, h.sent, h.apart⟩
  have hat := hat hrun
  have hwritten : written (left ++ [f]) = written left ++ f.bytes :=
    Eviction.Peer.written_concat left f
  show s.reading.At decode (left ++ [f]) (s.arrived ++ (s.coming ++ f.bytes))
  rw [← List.append_assoc]
  cases hreading : s.reading with
  | length got =>
    rw [hreading] at hat
    show got ++ (s.arrived ++ s.coming ++ f.bytes) = _
    rw [hwritten, ← List.append_assoc]
    exact congrArg (· ++ f.bytes) hat
  | payload len got =>
    rw [hreading] at hat
    obtain ⟨lenBytes, hlen, hval, hgot, hall⟩ := hat
    refine ⟨lenBytes, hlen, hval, hgot, ?_⟩
    rw [hwritten, ← hall, List.append_assoc (lenBytes ++ got)]
  | forwarding msg =>
    rw [hreading] at hat
    obtain ⟨payload, fs, rfl, hdecode, hstream⟩ := hat
    refine ⟨payload, fs ++ [f], rfl, hdecode, ?_⟩
    rw [hstream]
    exact (Eviction.Peer.written_concat fs f).symm

/-- A portable message is a frame of its own, which reads as the message. -/
theorem Portable.frame (h : Portable msg) {payload : List UInt8}
    (hmsg : serializeMessage msg = .ok payload) :
    (Frame.message payload).Fits ∧ decode payload = some msg := by
  constructor
  · have hframe : (Outgoing.message msg).frame = .ok (.message payload) := by
      show (serializeMessage msg).map Frame.message = _
      rw [hmsg]
      rfl
    exact Outgoing.frame_fits hframe h.fits
  · obtain ⟨bytes, hwrite, hread⟩ := h.restores
    obtain rfl : payload = bytes := Except.ok.inj (hmsg.symm.trans hwrite)
    unfold Eviction.decode
    rw [hread]
    rfl

/-- **The sending side.** -/
theorem Flow.sends (h : Flow p s) (hs : Sends p p' bytes) (hp : ∀ msg ∈ p'.accepted, Portable msg) :
    Flow p' (s.receive bytes) := by
  obtain ⟨frames, hframed, hfits, hread, hall, hinv⟩ := h.carried
  refine ⟨hp, ?_⟩
  cases hs with
  | writes bytes hpending hframed' hqueue haccepted =>
    refine ⟨frames, hframed'.trans hframed, hfits, hread, ?_, ?_⟩
    · rw [hqueue, haccepted, hall]
    · rw [Loop.receive_receive, ← hpending]
      exact hinv
  | queues msg hpending hframed' hqueue haccepted =>
    refine ⟨frames, hframed'.trans hframed, hfits, hread, ?_, ?_⟩
    · rw [hqueue, haccepted, ← hall, List.append_assoc]
    · rw [Loop.receive_nil, hpending]
      exact hinv
  | beats beat hbeat hempty hpending hframed' hqueue haccepted =>
    rw [hempty, Loop.receive_nil] at hinv
    refine ⟨frames ++ [beat], ?_, fun f hf => ?_, fun payload hm => ?_, ?_, ?_⟩
    · rw [hframed', hframed]
      exact (Eviction.Peer.written_concat frames beat).symm
    · rcases List.mem_append.mp hf with hf | hf
      · exact hfits f hf
      · obtain rfl := List.mem_singleton.mp hf
        rcases hbeat with rfl | rfl
        · exact ⟨by decide, by decide⟩
        · exact ⟨by decide, by decide⟩
    · rcases List.mem_append.mp hm with hm | hm
      · exact hread payload hm
      · obtain rfl := List.mem_singleton.mp hm
        rcases hbeat with hbeat | hbeat <;> cases hbeat
    · have hnone : messagesIn decode [beat] = [] := by
        rcases hbeat with rfl | rfl
        · rfl
        · rfl
      rw [messagesIn_append, hnone, List.append_nil, hqueue, haccepted, hall]
    · rw [Loop.receive_nil, hpending]
      exact hinv.extend beat
  | pops msg payload hmsg hempty hpending hframed' hqueue haccepted =>
    have hmem : msg ∈ p.accepted := by
      rw [← hall, hqueue]
      exact List.mem_append_right _ List.mem_cons_self
    obtain ⟨hfit, hdecode⟩ := (h.portable msg hmem).frame hmsg
    have hone : messagesIn decode [.message payload] = [msg] := by
      simp [messagesIn, hdecode]
    rw [hempty, Loop.receive_nil] at hinv
    refine ⟨frames ++ [.message payload], ?_, fun f hf => ?_, fun payload' hm => ?_, ?_, ?_⟩
    · rw [hframed', hframed]
      exact (Eviction.Peer.written_concat frames _).symm
    · rcases List.mem_append.mp hf with hf | hf
      · exact hfits f hf
      · rw [List.mem_singleton.mp hf]
        exact hfit
    · rcases List.mem_append.mp hm with hm | hm
      · exact hread payload' hm
      · cases List.mem_singleton.mp hm
        rw [hdecode]
        exact Option.some_ne_none msg
    · rw [messagesIn_append, hone, haccepted, ← hall, hqueue, List.append_assoc]
      rfl
    · rw [Loop.receive_nil, hpending]
      exact hinv.extend _
  | panics msg e hmsg hqueue =>
    have hmem : msg ∈ p.accepted := by
      rw [← hall]
      exact List.mem_append_right _ hqueue
    obtain ⟨bytes, hwrite, -⟩ := (h.portable msg hmem).restores
    cases hwrite.symm.trans hmsg

/-- **The receiving side.** -/
theorem Flow.receives (h : Flow p s) (hu : s.Untorn decode l) (hs : s.step decode l = some s') :
    Flow p s' := by
  obtain ⟨frames, hframed, hfits, hread, hall, hinv⟩ := h.carried
  refine ⟨h.portable, frames, hframed, hfits, hread, hall, ?_⟩
  exact hinv.step hfits ((s.untorn_receive l _).mpr hu) (Loop.step_receive hs _)

/-- **One step of a task**, as its peer sees it. -/
theorem sends_of_act (hapart : p.loop.beat ≠ [] → p.loop.writing = none)
    (hu : p.loop.Untorn decode l) (hs : p.act l = some p') :
    ∃ bytes, p'.loop.out = p.loop.out ++ bytes ∧ Sends p p' bytes := by
  obtain ⟨loop, hstep, rfl⟩ := Option.map_eq_some_iff.mp hs
  have hnone : p.loop.out = p.loop.out ++ [] := (List.append_nil _).symm
  have hsame : p.accepted ++ [] = p.accepted := List.append_nil _
  have hempty : p.loop.beat = [] → p.loop.writing = none → p.loop.pending = [] := by
    intro hbeat hwriting
    unfold Loop.pending
    rw [hbeat, hwriting]
    rfl
  unfold Loop.step at hstep
  split at hstep
  · cases hstep
  cases l with
  | arrive n =>
    dsimp only at hstep
    split at hstep
    · cases hstep
      exact ⟨[], hnone, .writes [] rfl rfl rfl hsame⟩
    · cases hstep
  | enqueue msg =>
    cases hstep
    exact ⟨[], hnone, .queues msg rfl rfl rfl rfl⟩
  | pop =>
    dsimp only at hstep
    split at hstep
    · rename_i msg rest hbeat hwriting hqueue
      split at hstep
      · rename_i payload hmsg
        cases hstep
        refine ⟨[], hnone, .pops msg payload hmsg (hempty hbeat hwriting) ?_ rfl hqueue hsame⟩
        show (Frame.message payload).bytes ++ p.loop.beat = _
        rw [hbeat, List.append_nil]
      · rename_i e hmsg
        cases hstep
        exact ⟨[], hnone, .panics msg e hmsg (hqueue ▸ List.mem_cons_self)⟩
    · cases hstep
  | write n =>
    dsimp only at hstep
    split at hstep
    · rename_i b beat hbeat
      cases hstep
      have hwriting := hapart (by rw [hbeat]; exact List.cons_ne_nil _ _)
      refine ⟨(b :: beat).take n, rfl, .writes _ ?_ rfl rfl hsame⟩
      show p.loop.writing.getD [] ++ p.loop.beat =
        (b :: beat).take n ++ (p.loop.writing.getD [] ++ (b :: beat).drop n)
      rw [hwriting, hbeat, Option.getD_none, List.nil_append, List.nil_append,
        List.take_append_drop]
    · rename_i rest hbeat hwriting
      have hpending : p.loop.pending = rest := by
        unfold Loop.pending
        rw [hwriting, hbeat, Option.getD_some, List.append_nil]
      cases hstep
      split
      · rename_i hle
        refine ⟨rest.take n, rfl, .writes _ ?_ rfl rfl hsame⟩
        show p.loop.pending = rest.take n ++ ([] ++ p.loop.beat)
        rw [hpending, hbeat, List.take_of_length_le hle, List.append_nil, List.append_nil]
      · refine ⟨rest.take n, rfl, .writes _ ?_ rfl rfl hsame⟩
        show p.loop.pending = rest.take n ++ (rest.drop n ++ p.loop.beat)
        rw [hpending, hbeat, List.append_nil, List.take_append_drop]
    · cases hstep
  | read n =>
    dsimp only at hstep
    split at hstep
    · rename_i hbeat
      split at hstep
      · obtain ⟨progress, hp, rfl⟩ := Option.map_eq_some_iff.mp hstep
        cases progress with
        | pending r => exact ⟨[], hnone, .writes [] rfl rfl rfl hsame⟩
        | heartbeatRequest =>
          have hwriting : p.loop.writing = none := by simpa only [Loop.Untorn, hp] using hu
          exact ⟨[], hnone,
            .beats .heartbeatReply (.inr rfl) (hempty hbeat hwriting) rfl rfl rfl hsame⟩
        | heartbeatReply =>
          have hwriting : p.loop.writing = none := by simpa only [Loop.Untorn, hp] using hu
          refine ⟨[], hnone, .writes [] ?_ rfl rfl hsame⟩
          show p.loop.pending = [] ++ ([] ++ p.loop.beat)
          rw [hempty hbeat hwriting, hbeat]
          rfl
        | undecodable => exact ⟨[], hnone, .writes [] rfl rfl rfl hsame⟩
      · cases hstep
    · cases hstep
  | forward =>
    dsimp only at hstep
    split at hstep
    · rename_i msg hbeat hreading
      cases hstep
      refine ⟨[], hnone, .writes [] ?_ rfl rfl hsame⟩
      show p.loop.pending = [] ++ ([] ++ p.loop.beat)
      rw [hempty hbeat hu, hbeat]
      rfl
    · cases hstep
  | tick =>
    dsimp only at hstep
    split at hstep
    · rename_i hbeat
      cases hstep
      exact ⟨[], hnone,
        .beats .heartbeatRequest (.inl rfl) (hempty hbeat hu.2) rfl rfl rfl hsame⟩
    · cases hstep
  | stop =>
    cases hstep
    exact ⟨[], hnone, .writes [] rfl rfl rfl hsame⟩

theorem wrote_of_out (h : p'.loop.out = p.loop.out ++ bytes) : p.wrote p' = bytes := by
  unfold Eviction.Peer.wrote
  rw [h, List.drop_left]

/-- **Both directions.** A step of `p` between what it sends to `q` and what it has from it. -/
theorem Flow.act {q : Peer} (hout : Flow p q.loop) (hback : Flow q p.loop)
    (hl : ∀ msg ∈ l.queued, Portable msg) (hu : p.loop.Untorn decode l) (hs : p.act l = some p') :
    Flow p' (q.receive (p.wrote p')).loop ∧ Flow (q.receive (p.wrote p')) p'.loop := by
  obtain ⟨frames, -, -, -, -, hinv⟩ := hback.carried
  obtain ⟨bytes, hbytes, hsends⟩ := sends_of_act hinv.apart hu hs
  rw [wrote_of_out hbytes]
  obtain ⟨loop, hstep, rfl⟩ := Option.map_eq_some_iff.mp hs
  have hportable : ∀ msg ∈ p.accepted ++ l.queued, Portable msg := fun msg hmsg =>
    (List.mem_append.mp hmsg).elim (hout.portable msg) (hl msg)
  obtain ⟨hq, hcarried⟩ := hback.receives hu hstep
  exact ⟨hout.sends hsends hportable, ⟨hq, hcarried⟩⟩

/-- The owner of the sending side hands it a message. -/
theorem Flow.push (h : Flow p s) (hmsg : Portable msg) : Flow (p.push msg) s := by
  have hsends : Sends p (p.push msg) [] := .queues msg rfl rfl rfl rfl
  have hpushed := h.sends hsends fun m hm => (List.mem_append.mp hm).elim (h.portable m) fun hm => by
    rw [List.mem_singleton.mp hm]
    exact hmsg
  rwa [Loop.receive_nil] at hpushed

/-- The owner of the receiving side hands it one. -/
theorem Flow.queued {q : Peer} (h : Flow q p.loop) (msg : Message F32) :
    Flow q (p.push msg).loop := by
  obtain ⟨frames, hframed, hfits, hread, hall, hinv⟩ := h.carried
  exact ⟨h.portable, frames, hframed, hfits, hread, hall, hinv.passed, hinv.sent, hinv.apart⟩

theorem Flow.halt (h : Flow p s) : Flow p.halt s := ⟨h.portable, h.carried⟩

theorem Flow.halted {q : Peer} (h : Flow q p.loop) : Flow q p.halt.loop := by
  obtain ⟨frames, hframed, hfits, hread, hall, hinv⟩ := h.carried
  obtain ⟨done, left, hframes, hforwarded, -⟩ := hinv.passed
  exact ⟨h.portable, frames, hframed, hfits, hread, hall,
    ⟨done, left, hframes, hforwarded, fun hrun => by cases hrun⟩, hinv.sent, hinv.apart⟩

/-- **No task ends of itself**: what it pops can be written, and what it reads was. -/
theorem Flow.runs {q : Peer} (hout : Flow p s) (hback : Flow q p.loop) (hl : l ≠ .stop)
    (hs : p.act l = some p') : p'.loop.running = true := by
  obtain ⟨loop, hstep, rfl⟩ := Option.map_eq_some_iff.mp hs
  unfold Loop.step at hstep
  split at hstep
  · cases hstep
  rename_i hrun
  have hrun : p.loop.running = true := by simpa using hrun
  cases l with
  | arrive n =>
    dsimp only at hstep
    split at hstep
    · cases hstep
      exact hrun
    · cases hstep
  | enqueue msg =>
    cases hstep
    exact hrun
  | pop =>
    dsimp only at hstep
    split at hstep
    · rename_i msg rest hbeat hwriting hqueue
      split at hstep
      · cases hstep
        exact hrun
      · rename_i e hmsg
        obtain ⟨frames, -, -, -, hall, -⟩ := hout.carried
        have hmem : msg ∈ p.accepted := by
          rw [← hall, hqueue]
          exact List.mem_append_right _ List.mem_cons_self
        obtain ⟨payload, hwrite, -⟩ := (hout.portable msg hmem).restores
        cases hwrite.symm.trans hmsg
    · cases hstep
  | write n =>
    dsimp only at hstep
    split at hstep
    · cases hstep
      exact hrun
    · cases hstep
      split
      · exact hrun
      · exact hrun
    · cases hstep
  | read n =>
    dsimp only at hstep
    split at hstep
    · split at hstep
      · obtain ⟨progress, hp, rfl⟩ := Option.map_eq_some_iff.mp hstep
        cases progress with
        | undecodable =>
          obtain ⟨frames, -, hfits, hread, -, hinv⟩ := hback.carried
          obtain ⟨done, left, rfl, -, hat⟩ := hinv.passed
          have hto : ReadTo decode left (p.loop.arrived.drop n ++ (p.loop.coming ++ q.loop.pending))
              .undecodable := by
            refine readTo_read (fun f hf => hfits f (List.mem_append_right _ hf)) ?_ hp
            rw [← List.append_assoc, List.take_append_drop]
            exact hat hrun
          cases hto with
          | undecodable payload fs hframes hdecode =>
            refine absurd hdecode (hread payload (List.mem_append_right _ ?_))
            rw [hframes]
            exact List.mem_cons_self
        | _ => exact hrun
      · cases hstep
    · cases hstep
  | forward =>
    dsimp only at hstep
    split at hstep
    · cases hstep
      exact hrun
    · cases hstep
  | tick =>
    dsimp only at hstep
    split at hstep
    · cases hstep
      exact hrun
    · cases hstep
  | stop => exact absurd rfl hl

/-- A step passes messages upstream, and takes none back. -/
theorem passed_of_act (hs : p.act l = some p') :
    p'.loop.forwarded = p.loop.forwarded ++ p.passed p' := by
  have hmore : ∃ msgs, p'.loop.forwarded = p.loop.forwarded ++ msgs := by
    obtain ⟨loop, hstep, rfl⟩ := Option.map_eq_some_iff.mp hs
    have hnone : ∃ msgs, p.loop.forwarded = p.loop.forwarded ++ msgs :=
      ⟨[], (List.append_nil _).symm⟩
    unfold Loop.step at hstep
    split at hstep
    · cases hstep
    cases l with
    | forward =>
      dsimp only at hstep
      split at hstep
      · cases hstep
        exact ⟨_, rfl⟩
      · cases hstep
    | read n =>
      dsimp only at hstep
      split at hstep
      · split at hstep
        · obtain ⟨progress, -, rfl⟩ := Option.map_eq_some_iff.mp hstep
          cases progress <;> exact hnone
        · cases hstep
      · cases hstep
    | enqueue msg | stop =>
      cases hstep
      exact hnone
    | _ =>
      dsimp only at hstep
      repeat' split at hstep
      all_goals first
        | cases hstep
          exact hnone
        | cases hstep
  obtain ⟨msgs, hmsgs⟩ := hmore
  unfold Eviction.Peer.passed
  rw [hmsgs, List.drop_left]

theorem Flow.start : Flow (.start []) (.start []) where
  portable msg hmsg := by cases hmsg
  carried := ⟨[], rfl, List.forall_mem_nil _, fun _ hm => absurd hm List.not_mem_nil, rfl, .init []⟩

/-- All that `p` accepted has been written and read: its task has nothing left to write and
    the other one, which still runs, nothing left to read. -/
structure Drained (p q : Peer) : Prop where
  queue : p.loop.queue = []
  written : p.loop.pending = []
  running : q.loop.running = true
  coming : q.loop.coming = []
  arrived : q.loop.arrived = []
  reading : q.loop.reading = .start

/-- `q` has passed on the first messages that `p` accepted, in order, and all of them once
    nothing of theirs is under way. -/
structure InOrder (p q : Peer) : Prop where
  first : q.loop.forwarded <+: p.accepted
  all : Drained p q → q.loop.forwarded = p.accepted

theorem written_eq_nil (h : [] = written frames) : frames = [] := by
  cases frames with
  | nil => rfl
  | cons f fs =>
    have hlen := congrArg List.length h
    simp only [written, List.flatMap_cons, List.length_append, Frame.bytes,
      u16Bytes_length, List.length_nil] at hlen
    omega

theorem Flow.inOrder {q : Peer} (h : Flow p q.loop) : InOrder p q := by
  obtain ⟨frames, -, -, -, hall, hinv⟩ := h.carried
  obtain ⟨done, left, rfl, hforwarded, hat⟩ := hinv.passed
  have hforwarded : q.loop.forwarded = messagesIn decode done := hforwarded
  rw [messagesIn_append, List.append_assoc] at hall
  refine ⟨⟨_, by rw [hforwarded]; exact hall⟩, fun hd => ?_⟩
  have hat : q.loop.reading.At decode left (q.loop.arrived ++ (q.loop.coming ++ p.loop.pending)) :=
    hat hd.running
  rw [hd.reading, hd.arrived, hd.coming, hd.written] at hat
  rw [written_eq_nil hat, hd.queue] at hall
  rw [hforwarded, ← hall]
  exact (List.append_nil _).symm

end Direction

/-! ## Runs -/

namespace Session

variable {own address : SocketAddr} {s s' : Session} {l : Label} {p : Peer}

/-- The acceptor's handler: before it starts, what it will start from. -/
def peer (s : Session) : Peer :=
  match s.acceptor with
  | some (_, p) => p
  | none => .start (s.wire.drop 9)

/-- What every run of a node that dials from `own` keeps. -/
structure Inv (own : SocketAddr) (s : Session) : Prop where
  out : Flow s.dialer s.peer.loop
  back : Flow s.peer s.dialer.loop
  greeted : s.acceptor = none → ∃ greeting, handlerFirstMessage own = .ok greeting ∧
    s.wire = greeting ++ s.wire.drop 9
  known : ∀ address p, s.acceptor = some (address, p) → address = own

theorem inv_of_start (h : Session.start own = .ok s) : Inv own s := by
  unfold Session.start at h
  cases hg : handlerFirstMessage own with
  | error e =>
    rw [hg] at h
    cases h
  | ok greeting =>
    rw [hg] at h
    cases h
    have hrest : greeting.drop 9 = [] :=
      List.drop_eq_nil_of_le (Nat.le_of_eq (handlerFirstMessage_ok hg).1)
    have hpeer : peer { dialer := .start [], acceptor := none, wire := greeting } = .start [] :=
      congrArg Peer.start hrest
    refine ⟨?_, ?_, fun _ => ⟨greeting, hg, ?_⟩, fun address p hp => by cases hp⟩
    · rw [hpeer]
      exact Flow.start
    · rw [hpeer]
      exact Flow.start
    · show greeting = greeting ++ greeting.drop 9
      rw [hrest, List.append_nil]

theorem Inv.step (h : Inv own s) (hl : ∀ msg ∈ l.queued, Portable msg) (hu : s.Untorn l)
    (hs : s.step l = some s') : Inv own s' := by
  cases l with
  | dialer l =>
    obtain ⟨p, hp, rfl⟩ := Option.map_eq_some_iff.mp hs
    obtain ⟨hout, hback⟩ := h.out.act h.back hl hu hp
    cases ha : s.acceptor with
    | some e =>
      obtain ⟨address, q⟩ := e
      have hpeer : s.peer = q := by
        unfold peer
        rw [ha]
      rw [hpeer] at hout hback
      refine ⟨hout, hback, fun hn => ?_, fun _ _ hq => ?_⟩
      · cases hn
      · cases hq
        exact h.known _ _ ha
    | none =>
      obtain ⟨greeting, hg, hw⟩ := h.greeted ha
      have hlen : 9 ≤ s.wire.length := by
        rw [hw, List.length_append, (handlerFirstMessage_ok hg).1]
        exact Nat.le_add_right _ _
      have hdrop : (s.wire ++ s.dialer.wrote p).drop 9 = s.wire.drop 9 ++ s.dialer.wrote p :=
        List.drop_append_of_le_length hlen
      have hpeer : Peer.start ((s.wire ++ s.dialer.wrote p).drop 9) =
          s.peer.receive (s.dialer.wrote p) := by
        unfold peer
        rw [ha]
        exact congrArg Peer.start hdrop
      rw [← hpeer] at hout hback
      refine ⟨hout, hback, fun _ => ⟨greeting, hg, ?_⟩, fun _ _ hq => ?_⟩
      · show s.wire ++ s.dialer.wrote p = greeting ++ (s.wire ++ s.dialer.wrote p).drop 9
        rw [hdrop, ← List.append_assoc, ← hw]
      · cases hq
  | welcome =>
    dsimp only [Session.step] at hs
    split at hs
    · rename_i address rest ha hread
      cases hs
      obtain ⟨greeting, hg, hw⟩ := h.greeted ha
      rw [hw, readHandlerFirstMessage_append hg] at hread
      cases hread
      have hpeer : s.peer = .start (s.wire.drop 9) := by
        unfold peer
        rw [ha]
      refine ⟨?_, ?_, fun hn => ?_, fun _ _ hq => ?_⟩
      · exact hpeer ▸ h.out
      · exact hpeer ▸ h.back
      · cases hn
      · cases hq
        rfl
    · cases hs
  | acceptor l =>
    dsimp only [Session.step] at hs
    split at hs
    · rename_i address q ha
      obtain ⟨p, hp, rfl⟩ := Option.map_eq_some_iff.mp hs
      have hpeer : s.peer = q := by
        unfold peer
        rw [ha]
      have hback := h.back
      have hout := h.out
      rw [hpeer] at hback hout
      obtain ⟨hback', hout'⟩ := hback.act hout hl (hu _ ha) hp
      refine ⟨hout', hback', fun hn => ?_, fun _ _ hq => ?_⟩
      · cases hn
      · cases hq
        exact h.known _ _ ha
    · cases hs

/-- **One stream.** A node dials from its own address. In every run in which no branch of
    either `select!` completes while another one of it is under way and all that is sent
    survives its codec and fits a frame, the first message is read as that address, and
    each side passes on the first messages that the other one's `Handler::send` accepted, in
    order and none twice, heartbeats left out, and all of them once the stream is drained. -/
theorem stream_in_order {s₀ : Session} (h₀ : Session.start own = .ok s₀) {ls : List Label}
    (hls : ∀ l ∈ ls, ∀ msg ∈ l.queued, Portable msg) (hu : Meets step Untorn s₀ ls)
    (hr : run step s₀ ls = some s) :
    (s.acceptor = none → ∃ rest, readHandlerFirstMessage s.wire = some (.ok own, rest)) ∧
    ∀ address p, s.acceptor = some (address, p) →
      address = own ∧ InOrder s.dialer p ∧ InOrder p s.dialer := by
  have h : Inv own s := run_induct_meets (P := Inv own)
    (fun _ _ _ h hl hs => h.step hl.2 hl.1 hs) hr (hu.and_forall hls) (inv_of_start h₀)
  refine ⟨fun ha => ?_, fun address p ha => ?_⟩
  · obtain ⟨greeting, hg, hw⟩ := h.greeted ha
    exact ⟨_, hw ▸ readHandlerFirstMessage_append hg _⟩
  · have hpeer : s.peer = p := by
      unfold peer
      rw [ha]
    refine ⟨h.known address p ha, ?_, ?_⟩
    · exact (hpeer ▸ h.out).inOrder
    · exact (hpeer ▸ h.back).inOrder

end Session

/-! ## An ack each way -/

/-- The dialer's ack sets out before the acceptor has started, and a heartbeat comes between
    the two answers. -/
def ackEach : List Session.Label :=
  [.dialer (.enqueue (.ack 1)), .dialer .pop, .dialer (.write 4), .welcome, .dialer (.write 3),
    .acceptor (.arrive 7), .acceptor (.read 2), .acceptor (.read 5), .acceptor .forward,
    .acceptor .tick, .acceptor (.write 3), .acceptor (.enqueue (.ack 2)), .acceptor .pop,
    .acceptor (.write 7), .dialer (.arrive 10), .dialer (.read 2), .dialer (.read 1),
    .dialer (.write 3), .dialer (.read 2), .dialer (.read 5), .dialer .forward]

theorem ack_portable (opId : OpId) : Portable (.ack opId) where
  restores := ack_restores opId
  fits := by
    show 5 ≤ 65535
    decide

/-- A node at 127.0.0.1:12351 has just dialed. -/
def dialed : Session where
  dialer := .start []
  acceptor := none
  wire := [0, 7, 0x69, 127, 0, 0, 1, 0x30, 0x3F]

theorem stream_in_order_example :
    ∃ s p, Session.start (.v4 0x7F000001 12351) = .ok dialed ∧
      run Session.step dialed ackEach = some s ∧ s.acceptor = some (.v4 0x7F000001 12351, p) ∧
      p.loop.forwarded = [.ack 1] ∧ s.dialer.loop.forwarded = [.ack 2] ∧ InOrder s.dialer p := by
  have hrun : (run Session.step dialed ackEach).any (fun s => s.acceptor.any fun e =>
      decide (e.2.loop.forwarded = [.ack 1] ∧ s.dialer.loop.forwarded = [.ack 2])) = true := by
    decide +kernel
  obtain ⟨s, hs, hacceptor⟩ := (Option.any_eq_true _ _).mp hrun
  obtain ⟨⟨address, p⟩, ha, hvals⟩ := (Option.any_eq_true _ _).mp hacceptor
  obtain ⟨hfirst, hback⟩ := of_decide_eq_true hvals
  have hstart : Session.start (.v4 0x7F000001 12351) = .ok dialed := rfl
  have hacks : ∀ l ∈ ackEach, ∀ msg ∈ l.queued, msg = .ack 1 ∨ msg = .ack 2 := by decide
  have hportable : ∀ l ∈ ackEach, ∀ msg ∈ l.queued, Portable msg := fun l hl msg hmsg => by
    rcases hacks l hl msg hmsg with rfl | rfl
    · exact ack_portable 1
    · exact ack_portable 2
  obtain ⟨-, hboth⟩ := Session.stream_in_order hstart hportable (by decide +kernel) hs
  obtain ⟨rfl, horder, -⟩ := hboth address p ha
  exact ⟨s, p, hstart, hs, ha, hfirst, hback, horder⟩

end YpfRuta.Network
