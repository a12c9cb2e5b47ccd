/-
  The task of a peer's handler (`common/src/network/handler/handler.rs`). Its
  `select!` runs three futures side by side: send a queued message, receive a frame,
  sleep. When one completes the other two are dropped and start afresh, and what they
  had read off the stream, popped off the queue or begun to write is gone.
-/
import YpfRuta.Lib.Transition
import YpfRuta.Network.Framing

namespace YpfRuta.Network

open Lib

variable {μ : Type}

/-- How far `StreamReceiver::recv` is: into the length, into a payload of `len` bytes,
    or waiting to pass a message upstream. -/
inductive Reading (μ : Type) where
  | length (got : List UInt8)
  | payload (len : Nat) (got : List UInt8)
  | forwarding (msg : μ)
  deriving DecidableEq

/-- What a read leads to. -/
inductive Progress (μ : Type) where
  | pending (r : Reading μ)
  | heartbeatRequest
  | heartbeatReply
  | undecodable

namespace Reading

/-- A future that has just started. -/
def start : Reading μ := .length []

section Read

variable (decode : List UInt8 → Option μ)

/-- A payload is there in full. -/
def complete (bytes : List UInt8) : Progress μ :=
  match Frame.classify bytes with
  | .heartbeatRequest => .heartbeatRequest
  | .heartbeatReply => .heartbeatReply
  | .message msgBytes =>
    match decode msgBytes with
    | some msg => .pending (.forwarding msg)
    | none => .undecodable

/-- `got` of the `len` bytes of a payload are there. -/
def fill (len : Nat) (got : List UInt8) : Progress μ :=
  if got.length < len then .pending (.payload len got) else complete decode got

/-- The future reads some bytes, never more than it waits for. -/
def read (bytes : List UInt8) : Reading μ → Option (Progress μ)
  | .length got =>
    let got := got ++ bytes
    if got.length < 2 then some (.pending (.length got))
    else if got.length = 2 then some (fill decode (fromBeBytes got) [])
    else none
  | .payload len got =>
    let got := got ++ bytes
    if got.length ≤ len then some (fill decode len got) else none
  | .forwarding _ => none

end Read

end Reading

/-- A handler's task. `coming` are the bytes of the peer that have not arrived, and
    `arrived` the ones not read yet. `writing` is what the popped message still has to
    write and `beat` what a heartbeat has. `framed` holds the frames the task began, in
    order, `out` the bytes it wrote and `forwarded` what it passed upstream. -/
structure Loop (μ : Type) where
  running : Bool
  coming : List UInt8
  arrived : List UInt8
  reading : Reading μ
  queue : List (Message F32)
  writing : Option (List UInt8)
  beat : List UInt8
  framed : List UInt8
  out : List UInt8
  forwarded : List μ

inductive LoopStep where
  /-- `n` more bytes of the peer arrive. -/
  | arrive (n : Nat)
  /-- The owner queues a message. -/
  | enqueue (msg : Message F32)
  /-- `send` pops a message off the queue. -/
  | pop
  /-- `write_all` gets `n` bytes out. -/
  | write (n : Nat)
  /-- `read_exact` gets `n` bytes in. -/
  | read (n : Nat)
  /-- The message received goes upstream. -/
  | forward
  /-- The sleep ends. -/
  | tick
  /-- The task ends: a lost connection, a timeout, a closed channel, an abort. -/
  | stop
  deriving DecidableEq

namespace Loop

/-- The loop takes its next turn: all futures start afresh. -/
def restart (s : Loop μ) : Loop μ := { s with reading := .start, writing := none }

/-- A branch's handler starts to write a heartbeat. -/
def startBeat (s : Loop μ) (beat : Frame) : Loop μ :=
  { s.restart with beat := beat.bytes, framed := s.framed ++ beat.bytes }

/-- Where a read of `bytes` leaves the task. -/
def progress (s : Loop μ) : Progress μ → Loop μ
  | .pending r => { s with reading := r }
  | .heartbeatRequest => s.startBeat .heartbeatReply
  | .heartbeatReply => s.restart
  | .undecodable => { s with running := false }

def step (decode : List UInt8 → Option μ) (s : Loop μ) (l : LoopStep) : Option (Loop μ) :=
  if s.running = false then none
  else
    match l with
    | .arrive n =>
      if n ≤ s.coming.length then
        some { s with arrived := s.arrived ++ s.coming.take n, coming := s.coming.drop n }
      else none
    | .enqueue msg => some { s with queue := s.queue ++ [msg] }
    | .pop =>
      match s.beat, s.writing, s.queue with
      | [], none, msg :: rest =>
        match serializeMessage msg with
        | .ok payload =>
          some { s with
            queue := rest, writing := some (Frame.message payload).bytes,
            framed := s.framed ++ (Frame.message payload).bytes }
        -- the serializer panics
        | .error _ => some { s with queue := rest, running := false }
      | _, _, _ => none
    | .write n =>
      match s.beat, s.writing with
      | b :: beat, _ =>
        some { s with out := s.out ++ (b :: beat).take n, beat := (b :: beat).drop n }
      | [], some rest =>
        let s' := { s with out := s.out ++ rest.take n, writing := some (rest.drop n) }
        some (if rest.length ≤ n then s'.restart else s')
      | [], none => none
    | .read n =>
      match s.beat with
      | [] =>
        if n ≤ s.arrived.length then
          (s.reading.read decode (s.arrived.take n)).map
            { s with arrived := s.arrived.drop n }.progress
        else none
      | _ => none
    | .forward =>
      match s.beat, s.reading with
      | [], .forwarding msg => some { s.restart with forwarded := s.forwarded ++ [msg] }
      | _, _ => none
    | .tick =>
      match s.beat with
      | [] => some (s.startBeat .heartbeatRequest)
      | _ => none
    | .stop => some { s with running := false }

/-- The task of a connection whose peer sends `bytes`. -/
def start (bytes : List UInt8) : Loop μ where
  running := true
  coming := bytes
  arrived := []
  reading := .start
  queue := []
  writing := none
  beat := []
  framed := []
  out := []
  forwarded := []

/-- No branch of the `select!` completes while another one is under way. -/
def Untorn (decode : List UInt8 → Option μ) (s : Loop μ) : LoopStep → Prop
  | .write n =>
    match s.beat, s.writing with
    | [], some rest => rest.length ≤ n → s.reading = .start
    | _, _ => True
  | .read n =>
    match s.reading.read decode (s.arrived.take n) with
    | some .heartbeatRequest | some .heartbeatReply => s.writing = none
    | _ => True
  | .forward => s.writing = none
  | .tick => s.reading = .start ∧ s.writing = none
  | _ => True

instance [DecidableEq μ] (decode : List UInt8 → Option μ) (s : Loop μ) (l : LoopStep) :
    Decidable (s.Untorn decode l) := by
  cases l <;> unfold Untorn <;> dsimp only <;> (try split) <;> infer_instance

end Loop

/-- The messages among some frames, as the upstream side sees them. -/
def messagesIn (decode : List UInt8 → Option μ) (frames : List Frame) : List μ :=
  frames.filterMap fun f =>
    match f with
    | .message payload => decode payload
    | _ => none

/-! ## The reading side -/

section Reads

variable {decode : List UInt8 → Option μ}

theorem recv_of_parts {lenBytes payload : List UInt8} (hlen : lenBytes.length = 2)
    (hpayload : payload.length = fromBeBytes lenBytes) (rest : List UInt8) :
    recv (lenBytes ++ payload ++ rest) = some (.classify payload, rest) := by
  unfold recv
  rw [List.append_assoc, readExact_append hlen]
  show (readExact (fromBeBytes lenBytes) (payload ++ rest)).bind _ = _
  rw [readExact_append hpayload]
  rfl

/-- What a stream of fitting frames starts with, once a whole payload is there. -/
theorem next_frame {lenBytes payload rest : List UInt8} {frames : List Frame}
    (hfits : ∀ f ∈ frames, f.Fits) (hlen : lenBytes.length = 2)
    (hpayload : payload.length = fromBeBytes lenBytes)
    (h : lenBytes ++ payload ++ rest = written frames) :
    ∃ fs, frames = Frame.classify payload :: fs ∧ rest = written fs := by
  have hr := recv_of_parts hlen hpayload rest
  rw [h] at hr
  cases frames with
  | nil => cases hr
  | cons f fs =>
    have hf : recv (f.bytes ++ written fs) = some (f, written fs) :=
      recv_bytes (hfits f List.mem_cons_self) _
    have hboth : some (f, written fs) = some (Frame.classify payload, rest) := hf.symm.trans hr
    cases hboth
    exact ⟨fs, rfl, rfl⟩

/-- Where a reading future stands in the frames still to be read: `stream` is what it
    has not read. -/
def Reading.At (decode : List UInt8 → Option μ) (frames : List Frame) (stream : List UInt8) :
    Reading μ → Prop
  | .length got => got ++ stream = written frames
  | .payload len got => ∃ lenBytes, lenBytes.length = 2 ∧ fromBeBytes lenBytes = len ∧
      got.length ≤ len ∧ lenBytes ++ got ++ stream = written frames
  | .forwarding msg => ∃ payload fs, frames = .message payload :: fs ∧
      decode payload = some msg ∧ stream = written fs

/-- A read keeps its place, or ends a heartbeat or an undecodable message. -/
inductive ReadTo (decode : List UInt8 → Option μ) (frames : List Frame) (stream : List UInt8) :
    Progress μ → Prop where
  | pending (r : Reading μ) (h : r.At decode frames stream) : ReadTo decode frames stream (.pending r)
  | heartbeatRequest (fs : List Frame) (hframes : frames = .heartbeatRequest :: fs)
      (hstream : stream = written fs) : ReadTo decode frames stream .heartbeatRequest
  | heartbeatReply (fs : List Frame) (hframes : frames = .heartbeatReply :: fs)
      (hstream : stream = written fs) : ReadTo decode frames stream .heartbeatReply
  | undecodable (payload : List UInt8) (fs : List Frame) (hframes : frames = .message payload :: fs)
      (hdecode : decode payload = none) : ReadTo decode frames stream .undecodable

theorem readTo_fill {frames : List Frame} (hfits : ∀ f ∈ frames, f.Fits)
    {lenBytes got stream : List UInt8} (hlen : lenBytes.length = 2)
    (hgot : got.length ≤ fromBeBytes lenBytes) (h : lenBytes ++ got ++ stream = written frames) :
    ReadTo decode frames stream (Reading.fill decode (fromBeBytes lenBytes) got) := by
  unfold Reading.fill
  split
  · exact .pending _ ⟨lenBytes, hlen, rfl, hgot, h⟩
  · rename_i hfull
    obtain ⟨fs, hframes, hstream⟩ := next_frame hfits hlen (by omega) h
    unfold Reading.complete
    cases hc : Frame.classify got with
    | heartbeatRequest => exact .heartbeatRequest fs (hframes.trans (by rw [hc])) hstream
    | heartbeatReply => exact .heartbeatReply fs (hframes.trans (by rw [hc])) hstream
    | message payload =>
      dsimp only
      cases hd : decode payload with
      | none => exact .undecodable payload fs (hframes.trans (by rw [hc])) hd
      | some msg =>
        exact .pending _ ⟨payload, fs, hframes.trans (by rw [hc]), hd, hstream⟩

theorem readTo_read {frames : List Frame} (hfits : ∀ f ∈ frames, f.Fits) {r : Reading μ}
    {bytes stream : List UInt8} {p : Progress μ} (h : r.At decode frames (bytes ++ stream))
    (hr : r.read decode bytes = some p) : ReadTo decode frames stream p := by
  cases r with
  | length got =>
    have hall : got ++ bytes ++ stream = written frames := (List.append_assoc ..).trans h
    simp only [Reading.read] at hr
    split at hr
    · cases hr
      exact .pending _ hall
    · split at hr
      · rename_i hlen
        cases hr
        exact readTo_fill hfits hlen (Nat.zero_le _) (by rw [List.append_nil]; exact hall)
      · cases hr
  | payload len got =>
    obtain ⟨lenBytes, hlen, rfl, -, hall⟩ := h
    simp only [Reading.read] at hr
    split at hr
    · rename_i hle
      cases hr
      refine readTo_fill hfits hlen hle ?_
      rw [← hall]
      simp only [List.append_assoc]
    · cases hr
  | forwarding msg => cases hr

end Reads

/-! ## The task -/

/-- What a task keeps as long as it tears nothing: the frames it passed upstream are the
    first ones of the peer and its future stands at the next one, and what it wrote is
    what it framed, but for what it still has to write. -/
structure LoopInv (decode : List UInt8 → Option μ) (frames : List Frame) (s : Loop μ) :
    Prop where
  passed : ∃ done left, frames = done ++ left ∧ s.forwarded = messagesIn decode done ∧
    (s.running = true → s.reading.At decode left (s.arrived ++ s.coming))
  sent : s.framed = s.out ++ (s.writing.getD [] ++ s.beat)
  apart : s.beat ≠ [] → s.writing = none

section Runs

variable {decode : List UInt8 → Option μ} {frames : List Frame} {s s' : Loop μ} {l : LoopStep}

theorem messagesIn_append (done fs : List Frame) :
    messagesIn decode (done ++ fs) = messagesIn decode done ++ messagesIn decode fs :=
  List.filterMap_append ..

theorem LoopInv.init (frames : List Frame) :
    LoopInv decode frames (.start (written frames)) where
  passed := ⟨[], frames, rfl, rfl, fun _ => rfl⟩
  sent := rfl
  apart h := absurd rfl h

/-- The task begins a heartbeat at a place where nothing is under way. -/
theorem LoopInv.startBeat {done left : List Frame}
    (hsent : s.framed = s.out ++ (s.writing.getD [] ++ s.beat)) (hframes : frames = done ++ left) (hforwarded : s.forwarded = messagesIn decode done)
    (hstream : s.arrived ++ s.coming = written left) (hbeat : s.beat = [])
    (hwriting : s.writing = none) (beat : Frame) :
    LoopInv decode frames (s.startBeat beat) where
  passed := ⟨done, left, hframes, hforwarded, fun _ => hstream⟩
  sent := by
    rw [hwriting, hbeat, Option.getD_none, List.append_nil, List.append_nil] at hsent
    show s.framed ++ beat.bytes = s.out ++ ([] ++ beat.bytes)
    rw [hsent, List.nil_append]
  apart _ := rfl

/-- A read that completes nothing, or completes a heartbeat while nothing is written. -/
theorem LoopInv.progress {done left : List Frame} {p : Progress μ}
    (hsent : s.framed = s.out ++ (s.writing.getD [] ++ s.beat)) (hframes : frames = done ++ left) (hforwarded : s.forwarded = messagesIn decode done)
    (hbeat : s.beat = []) (hp : ReadTo decode left (s.arrived ++ s.coming) p)
    (hwriting : p = .heartbeatRequest ∨ p = .heartbeatReply → s.writing = none) :
    LoopInv decode frames (s.progress p) := by
  cases hp with
  | pending r hr =>
    exact ⟨⟨done, left, hframes, hforwarded, fun _ => hr⟩, hsent, fun hb => absurd hbeat hb⟩
  | heartbeatRequest fs hleft hstream =>
    have hdone : messagesIn decode (done ++ [.heartbeatRequest]) = messagesIn decode done := by
      rw [messagesIn_append]
      exact List.append_nil _
    refine LoopInv.startBeat hsent ?_ (hforwarded.trans hdone.symm) hstream hbeat
      (hwriting (Or.inl rfl)) _
    rw [hframes, hleft, List.append_assoc]
    rfl
  | heartbeatReply fs hleft hstream =>
    refine ⟨⟨done ++ [.heartbeatReply], fs, ?_, ?_, fun _ => hstream⟩, ?_, fun _ => rfl⟩
    · rw [hframes, hleft, List.append_assoc]
      rfl
    · show s.forwarded = _
      rw [hforwarded, messagesIn_append]
      exact (List.append_nil _).symm
    · rw [hwriting (Or.inr rfl)] at hsent
      exact hsent
  | undecodable =>
    exact ⟨⟨done, left, hframes, hforwarded, fun hrun => by cases hrun⟩, hsent,
      fun hb => absurd hbeat hb⟩

/-- One step that tears nothing. -/
theorem LoopInv.step (hfits : ∀ f ∈ frames, f.Fits) (h : LoopInv decode frames s)
    (hu : s.Untorn decode l) (hs : s.step decode l = some s') : LoopInv decode frames s' := by
  obtain ⟨done, left, hframes, hforwarded, hat⟩ := h.passed
  have hleft : ∀ f ∈ left, f.Fits := fun f hf =>
    hfits f (hframes ▸ List.mem_append_right _ hf)
  unfold Loop.step at hs
  split at hs
  · cases hs
  rename_i hrun
  have hat := hat (by simpa using hrun)
  cases l with
  | arrive n =>
    dsimp only at hs
    split at hs
    · cases hs
      refine ⟨⟨done, left, hframes, hforwarded, fun _ => ?_⟩, h.sent, h.apart⟩
      show s.reading.At decode left (s.arrived ++ s.coming.take n ++ s.coming.drop n)
      rw [List.append_assoc, List.take_append_drop]
      exact hat
    · cases hs
  | enqueue msg =>
    cases hs
    exact ⟨⟨done, left, hframes, hforwarded, fun _ => hat⟩, h.sent, h.apart⟩
  | pop =>
    dsimp only at hs
    split at hs
    · rename_i hbeat hwriting hqueue
      split at hs
      · cases hs
        refine ⟨⟨done, left, hframes, hforwarded, fun _ => hat⟩, ?_, fun hb => absurd hbeat hb⟩
        have hsent := h.sent
        rw [hbeat, hwriting, Option.getD_none, List.append_nil, List.append_nil] at hsent
        show s.framed ++ _ = s.out ++ (_ ++ s.beat)
        rw [hsent, hbeat, Option.getD_some, List.append_nil]
      · cases hs
        exact ⟨⟨done, left, hframes, hforwarded, fun hr => by cases hr⟩, h.sent, h.apart⟩
    · cases hs
  | write n =>
    dsimp only at hs
    split at hs
    · rename_i b beat hbeat
      cases hs
      have hwriting := h.apart (by rw [hbeat]; exact List.cons_ne_nil _ _)
      refine ⟨⟨done, left, hframes, hforwarded, fun _ => hat⟩, ?_, fun _ => hwriting⟩
      show s.framed = s.out ++ _ ++ (s.writing.getD [] ++ (b :: beat).drop n)
      rw [h.sent, hwriting, hbeat, Option.getD_none, List.nil_append, List.nil_append,
        List.append_assoc, List.take_append_drop]
    · rename_i rest hbeat hwriting
      have hsent := h.sent
      rw [hbeat, hwriting, Option.getD_some, List.append_nil] at hsent
      cases hs
      split
      · rename_i hle
        have hreading : s.reading = .start := by
          simp only [Loop.Untorn, hbeat, hwriting] at hu
          exact hu hle
        rw [hreading] at hat
        refine ⟨⟨done, left, hframes, hforwarded, fun _ => hat⟩, ?_, fun hb => absurd hbeat hb⟩
        show s.framed = s.out ++ rest.take n ++ ([] ++ s.beat)
        rw [hsent, hbeat, List.take_of_length_le hle, List.append_nil, List.append_nil]
      · refine ⟨⟨done, left, hframes, hforwarded, fun _ => hat⟩, ?_, fun hb => absurd hbeat hb⟩
        show s.framed = s.out ++ rest.take n ++ (rest.drop n ++ s.beat)
        rw [hsent, hbeat, List.append_nil, List.append_assoc, List.take_append_drop]
    · cases hs
  | read n =>
    dsimp only at hs
    split at hs
    · rename_i hbeat
      split at hs
      · obtain ⟨p, hp, rfl⟩ := Option.map_eq_some_iff.mp hs
        have hto : ReadTo decode left (s.arrived.drop n ++ s.coming) p := by
          refine readTo_read hleft ?_ hp
          rw [← List.append_assoc, List.take_append_drop]
          exact hat
        refine LoopInv.progress h.sent hframes hforwarded hbeat hto fun hbeats => ?_
        rcases hbeats with rfl | rfl <;> simpa only [Loop.Untorn, hp] using hu
      · cases hs
    · cases hs
  | forward =>
    dsimp only at hs
    split at hs
    · rename_i msg hbeat hreading
      cases hs
      rw [hreading] at hat
      obtain ⟨payload, fs, rfl, hdecode, hstream⟩ := hat
      have hsent := h.sent
      rw [hu] at hsent
      refine ⟨⟨done ++ [.message payload], fs, ?_, ?_, fun _ => hstream⟩, hsent, fun _ => rfl⟩
      · rw [hframes, List.append_assoc]
        rfl
      · have hone : messagesIn decode [.message payload] = [msg] := by
          simp [messagesIn, hdecode]
        show s.forwarded ++ [msg] = _
        rw [hforwarded, messagesIn_append, hone]
    · cases hs
  | tick =>
    dsimp only at hs
    split at hs
    · rename_i hbeat
      cases hs
      obtain ⟨hreading, hwriting⟩ := hu
      rw [hreading] at hat
      exact LoopInv.startBeat h.sent hframes hforwarded hat hbeat hwriting _
    · cases hs
  | stop =>
    cases hs
    exact ⟨⟨done, left, hframes, hforwarded, fun hr => by cases hr⟩, h.sent, h.apart⟩

/-- **Whole frames.** As long as no branch of the `select!` completes while another one
    is under way, what a handler's task passed upstream are the first messages of its
    peer, in order, and what it wrote is the beginning of the messages and heartbeats it
    framed. -/
theorem handler_loop_prefix (hfits : ∀ f ∈ frames, f.Fits) {ls : List LoopStep}
    (hr : run (Loop.step decode) (.start (written frames)) ls = some s)
    (hu : Meets (Loop.step decode) (Loop.Untorn decode) (.start (written frames)) ls) :
    s.forwarded <+: messagesIn decode frames ∧ s.out <+: s.framed := by
  have h : LoopInv decode frames s :=
    run_induct_meets (fun _ _ _ hi hl hs => hi.step hfits hl hs) hr hu (.init frames)
  obtain ⟨done, left, hframes, hforwarded, -⟩ := h.passed
  refine ⟨?_, _, h.sent.symm⟩
  rw [hforwarded, hframes, messagesIn_append]
  exact List.prefix_append _ _

end Runs

/-! ## Two tasks -/

/-- A frame of the peer arrives and is passed on; an ack is sent; a heartbeat follows. -/
def calm : List LoopStep :=
  [.arrive 7, .read 2, .read 5, .forward, .enqueue (.ack 1), .pop, .write 7, .tick, .write 3]

theorem handler_loop_prefix_example :
    ∃ s, run (Loop.step some) (.start (written [.message [2, 0, 0, 0, 7]])) calm = some s ∧
      s.forwarded = [[2, 0, 0, 0, 7]] ∧ s.out = [0, 5, 2, 0, 0, 0, 1, 0, 1, 0xFE] ∧
      s.forwarded <+: messagesIn some [.message [2, 0, 0, 0, 7]] ∧ s.out <+: s.framed := by
  have hrun : (run (Loop.step some) (.start (written [.message [2, 0, 0, 0, 7]])) calm).any
      (fun s => decide (s.forwarded = [[2, 0, 0, 0, 7]] ∧
        s.out = [0, 5, 2, 0, 0, 0, 1, 0, 1, 0xFE])) = true := by decide +kernel
  obtain ⟨s, hs, hvals⟩ := (Option.any_eq_true _ _).mp hrun
  obtain ⟨hforwarded, hout⟩ := of_decide_eq_true hvals
  have hfits : ∀ f ∈ [Frame.message [2, 0, 0, 0, 7]], f.Fits := by
    intro f hf
    obtain rfl := List.mem_singleton.mp hf
    exact ⟨by decide, by decide⟩
  exact ⟨s, hs, hforwarded, hout, handler_loop_prefix hfits hs (by decide +kernel)⟩

/-- The stream takes three bytes of an ack's frame before the sleep ends: the future that
    was sending it is dropped and a heartbeat follows in the middle of the frame. -/
def torn : List LoopStep := [.enqueue (.ack 1), .pop, .write 3, .tick, .write 3]

theorem handler_loop_tears :
    ∃ s, run (Loop.step (some : List UInt8 → Option (List UInt8))) (.start (written [])) torn =
        some s ∧
      s.framed = [0, 5, 2, 0, 0, 0, 1, 0, 1, 0xFE] ∧ s.out = [0, 5, 2, 0, 1, 0xFE] ∧
      ¬ s.out <+: s.framed := by
  have hrun : (run (Loop.step (some : List UInt8 → Option (List UInt8))) (.start (written []))
      torn).any (fun s => decide (s.framed = [0, 5, 2, 0, 0, 0, 1, 0, 1, 0xFE] ∧
        s.out = [0, 5, 2, 0, 1, 0xFE])) = true := by decide +kernel
  obtain ⟨s, hs, hvals⟩ := (Option.any_eq_true _ _).mp hrun
  obtain ⟨hframed, hout⟩ := of_decide_eq_true hvals
  refine ⟨s, hs, hframed, hout, ?_⟩
  rw [hframed, hout]
  decide

end YpfRuta.Network
