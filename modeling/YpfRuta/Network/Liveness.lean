/-
  How the task of a handler ends (`Handler::run` in `common/src/network/handler/handler.rs`),
  and what the connection layer hears of it.

  One label is one turn of the loop: the branch of the `select!` that completed, whether the
  stream takes writes and the connection layer still receives, and the clock. What is
  written and how reads are cut up is left to `Loop`.
-/
import YpfRuta.Lib.Transition
import YpfRuta.Network.Framing
import YpfRuta.Network.Protocol

namespace YpfRuta.Network.Liveness

open Lib

/-- 10 s, in milliseconds. -/
def HEARTBEAT_TIMEOUT : Nat := 10000

inductive MessageKind where
  | heartbeatRequest
  | heartbeatReply
  | nodeMessage

/-- Where the task left its loop. -/
inductive Ending where
  /-- `break` on `ChannelClosed`. -/
  | closed
  /-- `break` after `write_connection_lost`. -/
  | lost
  /-- An error returned, by `?` or by the last arm of the `match`. -/
  | returned (e : AppError)
  | panicked
  | aborted
  deriving DecidableEq

/-- A handler's task. `upstream` is what it put in `messages_tx`. -/
structure HandlerTask where
  address : SocketAddr
  lastSeen : Nat
  upstream : List (Except AppError (Message F32))
  ended : Option Ending

/-- The world around one turn: the stream takes writes, the connection layer has its end of
    `messages_tx`, and the time when the branch is handled and when the timeout is checked. -/
structure World where
  writes : Bool
  listens : Bool
  handled : Nat
  checked : Nat

/-- The branch that completed, with what it took off the queue or the stream. -/
inductive Branch where
  /-- `sender.send()`; no message when the owner dropped its end of the queue. -/
  | send (popped : Option (Message F32))
  /-- `receiver.recv()`; no payload when a read failed. -/
  | recv (payload : Option (List UInt8))
  | sleep

inductive Label where
  | turn (world : World) (branch : Branch)
  /-- The owner stops or drops the handler. -/
  | abort

namespace HandlerTask

def new (address : SocketAddr) (now : Nat) : HandlerTask where
  address := address
  lastSeen := now
  upstream := []
  ended := none

def connectionLost {β : Type} (self : HandlerTask) : Dsr β :=
  .error (.error (.connectionLostWith self.address))

/-- `StreamSender::write_all_bytes`. -/
def writeAllBytes (self : HandlerTask) (w : World) : Dsr Unit :=
  if w.writes then .ok () else self.connectionLost

def sendHeartbeatRequest (self : HandlerTask) (w : World) : Dsr Unit := self.writeAllBytes w

def sendHeartbeatReply (self : HandlerTask) (w : World) : Dsr Unit := self.writeAllBytes w

/-- `StreamSender::send`. -/
def send (self : HandlerTask) (w : World) : Option (Message F32) → Dsr Unit
  | some msg =>
    match serializeMessage msg with
    | .ok _ => self.writeAllBytes w
    | .error _ => .error .panic
  | none => .error (.error .channelClosed)

/-- `messages_tx.send`. -/
def forward (self : HandlerTask) (w : World) (item : Except AppError (Message F32)) :
    Dsr Unit × HandlerTask :=
  if w.listens then (.ok (), { self with upstream := self.upstream ++ [item] })
  else (.error (.error .channelClosed), self)

/-- `StreamReceiver::write_connection_lost`. -/
def writeConnectionLost (self : HandlerTask) (w : World) : Dsr Unit × HandlerTask :=
  self.forward w (.error (.connectionLostWith self.address))

/-- `StreamReceiver::recv`. -/
def recv (self : HandlerTask) (w : World) : Option (List UInt8) → Dsr MessageKind × HandlerTask
  | none => (self.connectionLost, self)
  | some bytes =>
    match Frame.classify bytes with
    | .heartbeatRequest => (.ok .heartbeatRequest, self)
    | .heartbeatReply => (.ok .heartbeatReply, self)
    | .message bytes =>
      match deserializeMessage bytes with
      | .error e => (.error e, self)
      | .ok msg =>
        let (sent, self) := self.forward w (.ok msg)
        (sent.map fun _ => .nodeMessage, self)

def handleRecvResult (self : HandlerTask) (w : World) : Dsr MessageKind → Dsr Unit × HandlerTask
  | .ok .heartbeatRequest => (self.sendHeartbeatReply w, self)
  | .ok .heartbeatReply => (.ok (), { self with lastSeen := w.handled })
  | .ok .nodeMessage => (.ok (), self)
  | .error e => (.error e, self)

def finish (self : HandlerTask) (ending : Ending) : HandlerTask := { self with ended := some ending }

/-- `receiver.write_connection_lost().await?; break`. -/
def reportLost (self : HandlerTask) (w : World) : HandlerTask :=
  let (sent, self) := self.writeConnectionLost w
  match sent with
  | .ok () => self.finish .lost
  | .error (.error e) => self.finish (.returned e)
  | .error .panic => self.finish .panicked

/-- The `match` on the result of a branch and the timeout check after it. -/
def settle (self : HandlerTask) (w : World) : Dsr Unit → HandlerTask
  | .ok () =>
    if w.checked - self.lastSeen > HEARTBEAT_TIMEOUT then self.reportLost w else self
  | .error (.error .channelClosed) => self.finish .closed
  | .error (.error (.connectionLostWith _)) => self.reportLost w
  | .error (.error e) => self.finish (.returned e)
  | .error .panic => self.finish .panicked

/-- One turn of `Handler::run`. A heartbeat request that cannot be written leaves by `?`. -/
def turn (self : HandlerTask) (w : World) : Branch → HandlerTask
  | .send popped => self.settle w (self.send w popped)
  | .recv payload =>
    let (received, self) := self.recv w payload
    let (result, self) := self.handleRecvResult w received
    self.settle w result
  | .sleep =>
    match self.sendHeartbeatRequest w with
    | .ok () => self.settle w (.ok ())
    | .error (.error e) => self.finish (.returned e)
    | .error .panic => self.finish .panicked

def step (self : HandlerTask) (l : Label) : Option HandlerTask :=
  match self.ended with
  | some _ => none
  | none =>
    match l with
    | .turn w branch => some (self.turn w branch)
    | .abort => some (self.finish .aborted)

/-- The errors the connection layer was sent. -/
def notices (self : HandlerTask) : List (Except AppError (Message F32)) :=
  self.upstream.filter fun item => !item.isOk

end HandlerTask

/-- The task ended because a channel of its own was closed, or its owner ended it. -/
def Ending.ByOwner : Ending → Prop
  | .closed => True
  | .returned .channelClosed => True
  | .aborted => True
  | _ => False

/-- **A dead peer is reported**: exactly one loss once the task has ended on its own, none
    while it runs. -/
structure HandlerTask.Reports (task : HandlerTask) : Prop where
  running : task.ended = none → task.notices = []
  ended : ∀ e, task.ended = some e → ¬ e.ByOwner →
    task.notices = [.error (.connectionLostWith task.address)]

/-- A branch that ends the task, if at all, through the notification: what is popped can be
    serialized, what is received can be decoded, and no heartbeat request fails. -/
def Sound : Label → Prop
  | .turn _ (.send (some msg)) => ∃ bytes, serializeMessage msg = .ok bytes
  | .turn _ (.recv (some bytes)) =>
    bytes = [HEARTBEAT_REQUEST] ∨ bytes = [HEARBEAT_REPLY] ∨
      ∃ msg, deserializeMessage bytes = .ok msg
  | .turn w .sleep => w.writes = true
  | _ => True

/-! ## One turn -/

namespace HandlerTask

variable {self self' : HandlerTask} {w : World}

/-- Nothing has been reported and the task runs. -/
structure Quiet (task : HandlerTask) : Prop where
  ended : task.ended = none
  notices : task.notices = []

theorem Quiet.reports (h : self.Quiet) : self.Reports where
  running _ := h.notices
  ended e he := by
    rw [h.ended] at he
    cases he

theorem finish_reports {e : Ending} (he : e.ByOwner) : (self.finish e).Reports where
  running hrun := by cases hrun
  ended e' he' hnot := by
    cases he'
    exact absurd he hnot

/-- **A loss that is reported is reported once**, or the connection layer is gone. -/
theorem Quiet.reportLost (h : self.Quiet) : (self.reportLost w).Reports := by
  unfold HandlerTask.reportLost writeConnectionLost forward
  by_cases hl : w.listens = true
  · simp only [hl, if_true]
    refine { running := ?_, ended := fun e _ _ => ?_ }
    · intro hrun
      cases hrun
    show (self.upstream ++ [Except.error (AppError.connectionLostWith self.address)]).filter _ = _
    rw [List.filter_append, show self.upstream.filter _ = [] from h.notices]
    rfl
  · simp only [hl]
    exact finish_reports True.intro

/-- What follows a branch, for every result but an error of its own. -/
theorem Quiet.settle (h : self.Quiet) {result : Dsr Unit}
    (hresult : result = .ok () ∨ result = .error (.error .channelClosed) ∨
      ∃ addr, result = .error (.error (.connectionLostWith addr))) :
    (self.settle w result).Reports := by
  obtain rfl | rfl | ⟨addr, rfl⟩ := hresult
  · unfold HandlerTask.settle
    by_cases htimeout : w.checked - self.lastSeen > HEARTBEAT_TIMEOUT
    · rw [if_pos htimeout]
      exact h.reportLost
    · rw [if_neg htimeout]
      exact h.reports
  · exact finish_reports True.intro
  · exact h.reportLost

theorem writeAllBytes_cases (self : HandlerTask) (w : World) :
    self.writeAllBytes w = .ok () ∨
      ∃ addr, self.writeAllBytes w = .error (.error (.connectionLostWith addr)) := by
  unfold writeAllBytes
  by_cases hw : w.writes = true
  · exact .inl (if_pos hw)
  · exact .inr ⟨_, if_neg hw⟩

/-- Where a turn leads: a sound one to a task that reports, another one to a task that ended
    without a word although nobody asked it to. -/
inductive Outcome (self : HandlerTask) (l : Label) (self' : HandlerTask) : Prop where
  | reports (hl : Sound l) (h : self'.Reports)
  | silent (hl : ¬ Sound l) (e : Ending) (he : ¬ e.ByOwner) (h : self' = self.finish e)

theorem turn_send (h : self.Quiet) (popped : Option (Message F32)) :
    Outcome self (.turn w (.send popped)) (self.turn w (.send popped)) := by
  cases popped with
  | none =>
    have hturn : self.turn w (.send none) = self.settle w (.error (.error .channelClosed)) := rfl
    rw [hturn]
    exact .reports True.intro (h.settle (.inr (.inl rfl)))
  | some msg =>
    cases hmsg : serializeMessage msg with
    | ok bytes =>
      have hturn : self.turn w (.send (some msg)) = self.settle w (self.writeAllBytes w) := by
        simp only [turn, send, hmsg]
      rw [hturn]
      exact .reports ⟨bytes, hmsg⟩ (h.settle ((self.writeAllBytes_cases w).imp_right .inr))
    | error e =>
      have hturn : self.turn w (.send (some msg)) = self.finish .panicked := by
        simp only [turn, send, hmsg, settle]
      have hunsound : ¬ Sound (.turn w (.send (some msg))) :=
        fun ⟨bytes, hbytes⟩ => by cases hmsg.symm.trans hbytes
      exact .silent hunsound .panicked (fun h => h) hturn

theorem turn_sleep (h : self.Quiet) : Outcome self (.turn w .sleep) (self.turn w .sleep) := by
  by_cases hw : w.writes = true
  · have hturn : self.turn w .sleep = self.settle w (.ok ()) := by
      simp only [turn, sendHeartbeatRequest, writeAllBytes, if_pos hw]
    rw [hturn]
    exact .reports hw (h.settle (.inl rfl))
  · have hturn : self.turn w .sleep =
        self.finish (.returned (.connectionLostWith self.address)) := by
      simp only [turn, sendHeartbeatRequest, writeAllBytes, if_neg hw, connectionLost]
    exact .silent hw (.returned (.connectionLostWith self.address)) (fun h => h) hturn

theorem turn_recv (h : self.Quiet) (payload : Option (List UInt8)) :
    Outcome self (.turn w (.recv payload)) (self.turn w (.recv payload)) := by
  cases payload with
  | none =>
    have hturn : self.turn w (.recv none) = self.settle w self.connectionLost := rfl
    rw [hturn]
    exact .reports True.intro (h.settle (.inr (.inr ⟨_, rfl⟩)))
  | some bytes =>
    by_cases hreq : bytes = [HEARTBEAT_REQUEST]
    · have hturn : self.turn w (.recv (some bytes)) = self.settle w (self.writeAllBytes w) := by
        simp only [turn, recv, Frame.classify, if_pos hreq, handleRecvResult, sendHeartbeatReply]
      rw [hturn]
      exact .reports (.inl hreq) (h.settle ((self.writeAllBytes_cases w).imp_right .inr))
    by_cases hreply : bytes = [HEARBEAT_REPLY]
    · have hturn : self.turn w (.recv (some bytes)) =
          { self with lastSeen := w.handled }.settle w (.ok ()) := by
        simp only [turn, recv, Frame.classify, if_neg hreq, if_pos hreply, handleRecvResult]
      have hquiet : { self with lastSeen := w.handled }.Quiet := ⟨h.ended, h.notices⟩
      rw [hturn]
      exact .reports (.inr (.inl hreply)) (hquiet.settle (.inl rfl))
    cases hmsg : deserializeMessage bytes with
    | ok msg =>
      have hsound : Sound (.turn w (.recv (some bytes))) := .inr (.inr ⟨msg, hmsg⟩)
      by_cases hl : w.listens = true
      · have hturn : self.turn w (.recv (some bytes)) =
            { self with upstream := self.upstream ++ [Except.ok msg] }.settle w (.ok ()) := by
          simp only [turn, recv, Frame.classify, if_neg hreq, if_neg hreply, hmsg, forward,
            if_pos hl, Except.map, handleRecvResult]
        have hquiet : { self with upstream := self.upstream ++ [Except.ok msg] }.Quiet := by
          refine ⟨h.ended, ?_⟩
          show (self.upstream ++ [Except.ok msg]).filter _ = _
          rw [List.filter_append, show self.upstream.filter _ = [] from h.notices]
          rfl
        rw [hturn]
        exact .reports hsound (hquiet.settle (.inl rfl))
      · have hturn : self.turn w (.recv (some bytes)) =
            self.settle w (.error (.error .channelClosed)) := by
          simp only [turn, recv, Frame.classify, if_neg hreq, if_neg hreply, hmsg, forward,
            if_neg hl, Except.map, handleRecvResult]
        rw [hturn]
        exact .reports hsound (h.settle (.inr (.inl rfl)))
    | error e =>
      have hturn : self.turn w (.recv (some bytes)) = self.settle w (.error e) := by
        simp only [turn, recv, Frame.classify, if_neg hreq, if_neg hreply, hmsg, handleRecvResult]
      have hunsound : ¬ Sound (.turn w (.recv (some bytes))) := by
        rintro (hb | hb | ⟨msg, hok⟩)
        · exact hreq hb
        · exact hreply hb
        · cases hmsg.symm.trans hok
      cases e with
      | panic => exact .silent hunsound .panicked (fun h => h) hturn
      | error e =>
        have hof := (blames_deserializeMessage bytes).ofProtocol e hmsg
        cases e with
        | invalidData details =>
          exact .silent hunsound (.returned (.invalidData details)) (fun h => h) hturn
        | invalidProtocol details =>
          exact .silent hunsound (.returned (.invalidProtocol details)) (fun h => h) hturn
        | _ => exact hof.elim

/-- **What a step does** to a task that has not reported anything. -/
theorem step_outcome {l : Label} (h : self.ended = none → self.notices = [])
    (hs : self.step l = some self') : self.Quiet ∧ Outcome self l self' := by
  unfold step at hs
  split at hs
  · cases hs
  · rename_i hended
    have hquiet : self.Quiet := ⟨hended, h hended⟩
    refine ⟨hquiet, ?_⟩
    cases l with
    | abort =>
      obtain rfl := Option.some.inj hs
      exact .reports True.intro (finish_reports True.intro)
    | turn w branch =>
      obtain rfl := Option.some.inj hs
      cases branch with
      | send popped => exact turn_send hquiet popped
      | recv payload => exact turn_recv hquiet payload
      | sleep => exact turn_sleep hquiet

theorem step_quiet {l : Label} (h : self.ended = none → self.notices = [])
    (hs : self.step l = some self') : self'.ended = none → self'.notices = [] := by
  obtain ⟨-, hout⟩ := step_outcome h hs
  cases hout with
  | reports _ hrep => exact hrep.running
  | silent _ e _ he =>
    intro hrun
    rw [he] at hrun
    cases hrun

/-- **A step loses the report** exactly when its branch is not sound. -/
theorem step_reports {l : Label} (h : self.ended = none → self.notices = [])
    (hs : self.step l = some self') : self'.Reports ↔ self.Reports ∧ Sound l := by
  obtain ⟨hquiet, hout⟩ := step_outcome h hs
  rw [and_iff_right hquiet.reports]
  cases hout with
  | reports hl hrep => exact iff_of_true hrep hl
  | silent hl e he hfinish =>
    refine iff_of_false (fun hrep => ?_) hl
    rw [hfinish] at hrep
    have hnotice := hrep.ended e rfl he
    have hnone : (self.finish e).notices = [] := hquiet.notices
    rw [hnone] at hnotice
    cases hnotice

end HandlerTask

/-- Over every run of a handler's task, **the loss of the peer is reported** exactly when
    every turn is sound. -/
theorem reports_iff {address : SocketAddr} {now : Nat} {ls : List Label} {task : HandlerTask}
    (hr : run HandlerTask.step (.new address now) ls = some task) :
    task.Reports ↔ ∀ l ∈ ls, Sound l := by
  have hiff := holds_iff (I := fun t : HandlerTask => t.ended = none → t.notices = [])
    (P := HandlerTask.Reports) (C := fun _ l => Sound l)
    (fun _ _ _ => HandlerTask.step_quiet) (fun _ _ _ => HandlerTask.step_reports) hr fun _ => rfl
  have hnew : (HandlerTask.new address now).Reports := HandlerTask.Quiet.reports ⟨rfl, rfl⟩
  rw [hiff, and_iff_right hnew]
  exact meets_labels hr

/-- A reply, a heartbeat that gets out, and the peer hangs up. -/
def hangUp : List Label :=
  [.turn ⟨true, true, 400, 400⟩ (.recv (some [HEARBEAT_REPLY])),
    .turn ⟨true, true, 900, 900⟩ .sleep, .turn ⟨true, true, 1000, 1000⟩ (.recv none)]

theorem reports_iff_example :
    ∃ task, run HandlerTask.step (.new (.v4 0 5001) 0) hangUp = some task ∧ task.Reports ∧
      task.ended = some .lost := by
  have hsound : ∀ l ∈ hangUp, Sound l := by
    simp [hangUp, Sound]
  exact ⟨_, rfl, (reports_iff (show run _ _ hangUp = some _ from rfl)).mpr hsound, rfl⟩

/-- **A dead peer need not be reported**: the heartbeat request finds the stream broken. -/
theorem sleep_unreported :
    ¬ ∀ (address : SocketAddr) (now : Nat) (ls : List Label) (task : HandlerTask),
      run HandlerTask.step (.new address now) ls = some task → task.Reports := by
  intro hall
  have hrep := hall (.v4 0 5001) 0 [.turn ⟨false, true, 500, 500⟩ .sleep] _ rfl
  have hnotice := hrep.ended _ rfl fun h => h
  cases hnotice

end YpfRuta.Network.Liveness
