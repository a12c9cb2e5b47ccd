/-
  The cluster over byte streams (`common/src/network/connection.rs`, `handler/handler.rs`):
  what a node sends is queued at its handler of the peer, the two tasks of the stream write
  and read it in pieces, heartbeats in between, and what a task passes on waits in the
  `Connection` until the node reads it.

  In `Cluster.State` a link carries messages. The streams carry those messages as long as
  they stay up, all that comes in from outside can be written, and no branch of a task's
  `select!` completes while another one of it is under way.
-/
import YpfRuta.Network.Session
import YpfRuta.Cluster.Payloads

namespace YpfRuta.Cluster

open Server Lib Network

/-! ## What every step keeps -/

/-- What a step takes from outside can be written. -/
def Permits (node : SocketAddr → Option (NodeState F32)) : Label F32 → Prop
  | .request _ _ op addr => addr.isIpv4 ∧ OpTravels op
  | .station _ (.chargeRequest ..) => True
  | .station .. => False
  | .result dst k r => ∀ n, node dst = some n → ∀ e, n.outstanding[k]? = some e →
      ResultTravels n.runtime.cluster.len e.2 r
  | .deliver .. | .lost .. | .check .. | .crash _ | .promote _ => True

/-- All that is under way, and all that the nodes will send, can be written. -/
structure Writable (c : State F32) : Prop where
  node : ∀ a n, c.node a = some n → Writes n.runtime ∧ n.connected = true
  link : ∀ a b, ∀ m ∈ c.link a b, Travels m

section Writable

variable {c c' : State F32} {l : Label F32} {a : SocketAddr} {n : NodeState F32}

theorem Writes.changeRole {node : NodeRuntime F32} (h : Writes node) :
    Writes (node.changeRole .promoteToLeader) := by
  cases node <;> exact ⟨h.address, h.members, h.online, h.queue⟩

theorem Writable.setNode (h : Writable c) (hn : Writes n.runtime ∧ n.connected = true) :
    Writable (c.setNode a n) := by
  refine ⟨fun b m hm => ?_, h.link⟩
  unfold State.setNode at hm
  dsimp only at hm
  by_cases hb : b = a
  · subst hb
    rw [Function.update_self] at hm
    rwa [← Option.some.inj hm]
  · rw [Function.update_of_ne hb] at hm
    exact h.node b m hm

theorem wake_travels {w : Waking F32} (h : Writable c) (hl : Permits c.node l)
    (hw : c.wake l = some w) (ht : w.Takes c n) :
    EventTravels n.runtime.cluster.len w.event := by
  cases l with
  | request dst reqId op addr =>
    obtain ⟨n, hup, rfl⟩ := Option.map_eq_some_iff.mp hw
    exact hl
  | station dst msg =>
    obtain ⟨n, hup, rfl⟩ := Option.map_eq_some_iff.mp hw
    cases msg with
    | chargeRequest accountId cardId amount requestId => exact True.intro
    | disconnectNode => exact hl.elim
    | connectNode => exact hl.elim
  | deliver src dst =>
    dsimp only [State.wake] at hw
    split at hw
    · rename_i r m rest hup hlink
      obtain rfl := (Option.some.inj hw).symm
      exact h.link src dst m (by rw [hlink]; exact List.mem_cons_self)
    · cases hw
  | result dst k r =>
    dsimp only [State.wake] at hw
    split at hw
    · rename_i q hup
      split at hw
      · rename_i e hk
        obtain rfl := (Option.some.inj hw).symm
        obtain rfl : q = n := Option.some.inj (hup.symm.trans ht.up)
        exact hl q (up_eq_some.mp hup).1 e hk
      · cases hw
    · cases hw
  | lost dst addr =>
    obtain ⟨n, hup, rfl⟩ := Option.map_eq_some_iff.mp hw
    exact True.intro
  | check dst now =>
    obtain ⟨n, hup, rfl⟩ := Option.map_eq_some_iff.mp hw
    exact True.intro
  | crash dst => cases hw
  | promote dst => cases hw

variable [AddrHash]

/-- **Every step keeps what is under way writable.** -/
theorem Writable.step (h : Writable c) (hl : Permits c.node l) (hs : c.step l = some c') :
    Writable c' := by
  by_cases hturn : l.isTurn = true
  · obtain ⟨w, hw, rfl⟩ := step_wake hturn hs
    obtain ⟨n, ht⟩ := wake_takes hw
    obtain ⟨hnode, hdown⟩ := up_eq_some.mp ht.up
    obtain ⟨hwrites, hconn⟩ := h.node _ n hnode
    have hev := wake_travels h hl hw ht
    obtain ⟨fault, t, out, commands, ho, hconn', -, -, hact⟩ :=
      wake_outcome ht hconn hwrites.online hev.online
    obtain ⟨hwrites', hsent⟩ := outcome_travels hwrites hev ho
    rw [hact]
    refine ⟨fun b m hm => ?_, fun x y m hm => ?_⟩
    · dsimp only at hm
      by_cases hb : b = w.a
      · subst hb
        rw [Function.update_self] at hm
        rw [← Option.some.inj hm]
        exact ⟨hwrites', hconn'⟩
      · rw [Function.update_of_ne hb] at hm
        exact h.node b m hm
    · have hold : ∀ m ∈ w.link x y, Travels m := by
        intro m hm
        obtain hsame | ⟨-, first, hcons, -⟩ := ht.link x y
        · exact h.link x y m (hsame ▸ hm)
        · exact h.link x y m (hcons ▸ List.mem_cons_of_mem _ hm)
      dsimp only at hm
      split at hm
      · obtain hm | hm := List.mem_append.mp hm
        · exact hold m hm
        · exact hsent _ (mem_sentTo.mp hm)
      · exact hold m hm
  · cases l with
    | crash dst =>
      obtain ⟨n, hup, rfl⟩ := Option.map_eq_some_iff.mp hs
      exact h.setNode (h.node dst n (up_eq_some.mp hup).1)
    | promote dst =>
      obtain ⟨n, hup, rfl⟩ := Option.map_eq_some_iff.mp hs
      obtain ⟨hwrites, hconn⟩ := h.node dst n (up_eq_some.mp hup).1
      exact h.setNode ⟨hwrites.changeRole, hconn⟩
    | _ => exact absurd rfl hturn

end Writable

/-- A node that has crashed or faulted. -/
def State.down {α : Type} (c : State α) (a : SocketAddr) : Bool := (c.node a).any (·.down)

namespace Wire

open Eviction (decode)

/-! ## The cluster over streams -/

/-- The messages a `Connection` holds that its node has not read. -/
def MSG_BUFF_SIZE : Nat := 1600

/-- Between any two nodes a stream is up. `peer a b` is the handler at `a` of its stream
    with `b`, and `inbox a` holds what the handlers of `a` have passed on and the node has
    not read, each message with the peer it is from. -/
structure State where
  node : SocketAddr → Option (NodeState F32)
  peer : SocketAddr → SocketAddr → Eviction.Peer
  inbox : SocketAddr → List (SocketAddr × Message F32)

inductive Label where
  /-- A step of a node; a delivery reads the next message of its `Connection`. -/
  | cluster (l : Cluster.Label F32)
  /-- The task at `a` of the handler of `b` goes on. -/
  | task (a b : SocketAddr) (l : LoopStep)
  deriving DecidableEq

def Label.cluster? : Label → Option (Cluster.Label F32)
  | .cluster l => some l
  | .task .. => none

/-- `Handler::send` of one message after the other: a task that has ended takes none. -/
def sendAll (p : Eviction.Peer) (msgs : List (Message F32)) : Eviction.Peer :=
  if p.loop.running then msgs.foldl Eviction.Peer.push p else p

namespace State

/-- The nodes, with nothing under way. -/
def idle (s : State) : Cluster.State F32 where
  node := s.node
  link _ _ := []

/-- What waits at `dst` of the messages of `src`. -/
def waiting (s : State) (src dst : SocketAddr) : List (Message F32) := sentTo src (s.inbox dst)

def setInbox (s : State) (a : SocketAddr) (msgs : List (SocketAddr × Message F32)) : State where
  node := s.node
  peer := s.peer
  inbox b := if b = a then msgs else s.inbox b

/-- The nodes have moved on to `d`: their handlers have what they sent, and the tasks of one
    that is down end with it. -/
def write (s : State) (d : Cluster.State F32) : State where
  node := d.node
  peer a b :=
    if d.down a then (sendAll (s.peer a b) (d.link a b)).halt
    else sendAll (s.peer a b) (d.link a b)
  inbox := s.inbox

/-- The task at `a` of the handler of `b` has moved on to `p`: what it wrote is on its way to
    the other end, and what it passed on waits for the node. -/
def setPeer (s : State) (a b : SocketAddr) (p : Eviction.Peer) : State where
  node := s.node
  peer x y :=
    if x = a ∧ y = b then p
    else if x = b ∧ y = a then (s.peer b a).receive ((s.peer a b).wrote p)
    else s.peer x y
  inbox x :=
    if x = a then s.inbox a ++ ((s.peer a b).passed p).map fun m => (b, m) else s.inbox x

/-- A node has no stream with itself, messages are queued by `write` alone, and one that is
    passed on waits for room. -/
def task (s : State) (a b : SocketAddr) : LoopStep → Option State
  | .enqueue _ => none
  | l =>
    if a = b ∨ l = .forward ∧ MSG_BUFF_SIZE ≤ (s.inbox a).length then none
    else ((s.peer a b).act l).map (s.setPeer a b)

def step [AddrHash] (s : State) : Label → Option State
  | .cluster (.deliver src dst) =>
    match s.idle.up dst, s.inbox dst with
    | some n, (peer, m) :: rest =>
      if peer = src then
        some ((s.setInbox dst rest).write
          (s.idle.act dst (n.receive src m) (.nodeMsg (.ok m)) 0))
      else none
    | _, _ => none
  | .cluster l => (s.idle.step l).map s.write
  | .task a b l => s.task a b l

end State

/-- What a step takes from outside can be written, the streams stay up, and no branch of a
    `select!` completes while another one of it is under way. -/
def Label.Permitted (s : State) : Label → Prop
  | .cluster l => Permits s.node l
  | .task a b l => l ≠ .stop ∧ (s.peer a b).loop.Untorn decode l

/-- Nodes read from other nodes, and while these run: what a crashed node has not written
    is gone. -/
def Attended (c : Cluster.State F32) : Cluster.Label F32 → Prop
  | .deliver src dst => src ≠ dst ∧ c.down src = false
  | _ => True

/-- The streams carry what is under way on the links: what the handlers of `a` have accepted
    for `b` is what `b` has read from `a` and then the link, what they have passed on at `b` is
    what it has read and then what waits there, and the one comes before the other. -/
structure Carries (s : State) (c : Cluster.State F32) : Prop where
  node : s.node = c.node
  links : ∀ a b, ∃ done, (s.peer a b).accepted = done ++ c.link a b ∧
    (s.peer b a).loop.forwarded = done ++ s.waiting a b
  order : ∀ a b, InOrder (s.peer a b) (s.peer b a)

/-! ## Handlers -/

section Handlers

variable {p q : Eviction.Peer} {s : Loop (Message F32)} {msgs : List (Message F32)}

theorem Travels.portable {m : Message F32} (h : Travels m) : Portable m := ⟨h.restores, h.fits⟩

theorem push_all (msgs : List (Message F32)) (p : Eviction.Peer) :
    msgs.foldl Eviction.Peer.push p =
      { accepted := p.accepted ++ msgs
        loop := { p.loop with queue := p.loop.queue ++ msgs } } := by
  induction msgs generalizing p with
  | nil =>
    rw [List.append_nil, List.append_nil]
    rfl
  | cons m msgs ih =>
    rw [List.foldl_cons, ih]
    simp only [Eviction.Peer.push, List.append_assoc, List.singleton_append]

theorem sendAll_running (h : p.loop.running = true) (msgs : List (Message F32)) :
    sendAll p msgs =
      { accepted := p.accepted ++ msgs
        loop := { p.loop with queue := p.loop.queue ++ msgs } } := by
  unfold sendAll
  rw [if_pos h, push_all]

theorem sendAll_nil (p : Eviction.Peer) : sendAll p [] = p := by
  unfold sendAll
  split <;> rfl

theorem sendAll_forwarded (p : Eviction.Peer) (msgs : List (Message F32)) :
    (sendAll p msgs).loop.forwarded = p.loop.forwarded := by
  unfold sendAll
  split
  · rw [push_all]
  · rfl

theorem flow_sendAll (h : Flow p s) (hmsgs : ∀ m ∈ msgs, Portable m) : Flow (sendAll p msgs) s := by
  unfold sendAll
  split
  · induction msgs generalizing p with
    | nil => exact h
    | cons m msgs ih =>
      exact ih (h.push (hmsgs m List.mem_cons_self))
        (fun m' hm => hmsgs m' (List.mem_cons_of_mem _ hm)) ‹_›
  · exact h

theorem flow_sentAll (h : Flow q p.loop) (msgs : List (Message F32)) :
    Flow q (sendAll p msgs).loop := by
  unfold sendAll
  split
  · induction msgs generalizing p with
    | nil => exact h
    | cons m msgs ih => exact ih (h.queued m) ‹_›
  · exact h

end Handlers

/-! ## Steps of a node -/

section Steps

variable [AddrHash] {c d : Cluster.State F32}

/-- What has been under way stays, and what a step sent comes after it. -/
def behind (link : SocketAddr → SocketAddr → List (Message F32)) (d : Cluster.State F32) :
    Cluster.State F32 where
  node := d.node
  link src dst := link src dst ++ d.link src dst

theorem act_behind (node : SocketAddr → Option (NodeState F32))
    (link : SocketAddr → SocketAddr → List (Message F32)) (a : SocketAddr) (n : NodeState F32)
    (event : Event F32) (now : Nat) :
    Cluster.State.act ⟨node, link⟩ a n event now =
      behind link (Cluster.State.act ⟨node, fun _ _ => []⟩ a n event now) := by
  refine congrArg (Cluster.State.mk _) (funext fun src => funext fun dst => ?_)
  show (if src = a then link src dst ++ _ else link src dst) =
    link src dst ++ if src = a then [] ++ _ else []
  split
  · rfl
  · exact (List.append_nil _).symm

omit [AddrHash] in
theorem setNode_behind (node : SocketAddr → Option (NodeState F32))
    (link : SocketAddr → SocketAddr → List (Message F32)) (a : SocketAddr) (n : NodeState F32) :
    Cluster.State.setNode ⟨node, link⟩ a n =
      behind link (Cluster.State.setNode ⟨node, fun _ _ => []⟩ a n) := by
  refine congrArg (Cluster.State.mk _) (funext fun src => funext fun dst => ?_)
  exact (List.append_nil _).symm

/-- One node, which was up, has moved on to `d`, and nobody else has sent anything. -/
structure Moves (node : SocketAddr → Option (NodeState F32)) (d : Cluster.State F32)
    (a : SocketAddr) : Prop where
  up : Cluster.State.down ⟨node, fun _ _ => []⟩ a = false
  others : ∀ b, b ≠ a → d.node b = node b
  silent : ∀ x y, x ≠ a → d.link x y = []

omit [AddrHash] in
theorem down_of_up {node : SocketAddr → Option (NodeState F32)}
    {link : SocketAddr → SocketAddr → List (Message F32)} {a : SocketAddr} {n : NodeState F32}
    (h : Cluster.State.up ⟨node, link⟩ a = some n) :
    Cluster.State.down ⟨node, fun _ _ => []⟩ a = false := by
  obtain ⟨hnode, hdown⟩ := up_eq_some.mp h
  show (node a).any (·.down) = false
  rw [show node a = some n from hnode]
  exact hdown

theorem moves_act {node : SocketAddr → Option (NodeState F32)} {a : SocketAddr}
    (hup : Cluster.State.down ⟨node, fun _ _ => []⟩ a = false) (n : NodeState F32)
    (event : Event F32) (now : Nat) :
    Moves node (Cluster.State.act ⟨node, fun _ _ => []⟩ a n event now) a where
  up := hup
  others _ hb := Function.update_of_ne hb _ _
  silent _ _ hx := if_neg hx

omit [AddrHash] in
theorem moves_setNode {node : SocketAddr → Option (NodeState F32)} {a : SocketAddr}
    (hup : Cluster.State.down ⟨node, fun _ _ => []⟩ a = false) (n : NodeState F32) :
    Moves node (Cluster.State.setNode ⟨node, fun _ _ => []⟩ a n) a where
  up := hup
  others _ hb := Function.update_of_ne hb _ _
  silent _ _ _ := rfl

/-- A step that delivers nothing does not depend on what is under way. -/
theorem step_behind (node : SocketAddr → Option (NodeState F32))
    (link : SocketAddr → SocketAddr → List (Message F32)) {l : Cluster.Label F32}
    (hl : ∀ src dst, l ≠ .deliver src dst) :
    Cluster.State.step ⟨node, link⟩ l =
        (Cluster.State.step ⟨node, fun _ _ => []⟩ l).map (behind link) ∧
      ∀ d, Cluster.State.step ⟨node, fun _ _ => []⟩ l = some d → ∃ a, Moves node d a := by
  have hmap : ∀ {dst : SocketAddr} {f g : NodeState F32 → Cluster.State F32},
      (∀ n, f n = behind link (g n)) →
      (Cluster.State.down ⟨node, fun _ _ => []⟩ dst = false → ∀ n, Moves node (g n) dst) →
      (Cluster.State.up ⟨node, link⟩ dst).map f =
          ((Cluster.State.up ⟨node, fun _ _ => []⟩ dst).map g).map (behind link) ∧
        ∀ d, (Cluster.State.up ⟨node, fun _ _ => []⟩ dst).map g = some d → ∃ a, Moves node d a := by
    intro dst f g h hmoves
    refine ⟨?_, fun d hd => ?_⟩
    · rw [Option.map_map]
      exact congrFun (congrArg Option.map (funext h)) _
    · obtain ⟨n, hn, rfl⟩ := Option.map_eq_some_iff.mp hd
      exact ⟨dst, hmoves (down_of_up hn) n⟩
  cases l with
  | request dst reqId op addr =>
    exact hmap (fun n => act_behind node link dst n _ 0) fun hup n => moves_act hup n _ 0
  | station dst msg =>
    exact hmap (fun n => act_behind node link dst n _ 0) fun hup n => moves_act hup n _ 0
  | deliver src dst => exact absurd rfl (hl src dst)
  | result dst k r =>
    have hsame : Cluster.State.up ⟨node, fun _ _ => []⟩ dst = Cluster.State.up ⟨node, link⟩ dst :=
      rfl
    dsimp only [Cluster.State.step]
    rw [hsame]
    cases hup : Cluster.State.up ⟨node, link⟩ dst with
    | none => exact ⟨rfl, fun d hd => by cases hd⟩
    | some n =>
      dsimp only
      cases n.outstanding[k]? with
      | none => exact ⟨rfl, fun d hd => by cases hd⟩
      | some e =>
        refine ⟨congrArg some (act_behind node link dst _ _ 0), fun d hd => ?_⟩
        obtain rfl := Option.some.inj hd
        exact ⟨dst, moves_act (down_of_up hup) _ _ 0⟩
  | lost dst addr =>
    exact hmap (fun n => act_behind node link dst n _ 0) fun hup n => moves_act hup n _ 0
  | check dst now =>
    exact hmap (fun n => act_behind node link dst n _ now) fun hup n => moves_act hup n _ now
  | crash dst =>
    exact hmap (fun n => setNode_behind node link dst _) fun hup n => moves_setNode hup _
  | promote dst =>
    exact hmap (fun n => setNode_behind node link dst _) fun hup n => moves_setNode hup _

/-- A delivery takes the oldest message of the link. -/
theorem deliver_behind {src dst : SocketAddr} {n : NodeState F32} {m : Message F32}
    {later : List (Message F32)} (hup : c.up dst = some n) (hlink : c.link src dst = m :: later) :
    c.step (.deliver src dst) = some (behind (c.setLink src dst later).link
      (Cluster.State.act ⟨c.node, fun _ _ => []⟩ dst (n.receive src m) (.nodeMsg (.ok m)) 0)) := by
  dsimp only [Cluster.State.step]
  rw [hup, hlink]
  exact congrArg some (act_behind c.node (c.setLink src dst later).link dst _ _ 0)

end Steps

/-! ## What the streams keep -/

/-- What a run of the cluster over streams keeps. -/
structure Inv (s : State) (c : Cluster.State F32) : Prop where
  node : s.node = c.node
  flow : ∀ a b, Flow (s.peer a b) (s.peer b a).loop
  links : ∀ a b, ∃ done, (s.peer a b).accepted = done ++ c.link a b ∧
    (s.peer b a).loop.forwarded = done ++ s.waiting a b
  running : ∀ a, c.down a = false → ∀ b, (s.peer a b).loop.running = true
  writable : Writable c

section Keeps

variable {s s' t : State} {c c' d e : Cluster.State F32} {a b x y src dst : SocketAddr}
  {p : Eviction.Peer}

theorem Inv.carries (h : Inv s c) : Carries s c where
  node := h.node
  links := h.links
  order a b := (h.flow a b).inOrder

theorem setPeer_self : (s.setPeer a b p).peer a b = p := if_pos ⟨rfl, rfl⟩

theorem setPeer_back (hne : a ≠ b) :
    (s.setPeer a b p).peer b a = (s.peer b a).receive ((s.peer a b).wrote p) :=
  (if_neg fun h => hne h.1.symm).trans (if_pos ⟨rfl, rfl⟩)

theorem setPeer_other (hxy : ¬ (x = a ∧ y = b)) (hyx : ¬ (x = b ∧ y = a)) :
    (s.setPeer a b p).peer x y = s.peer x y :=
  (if_neg hxy).trans (if_neg hyx)

theorem waiting_setPeer_self : (s.setPeer a b p).waiting b a =
    s.waiting b a ++ (s.peer a b).passed p := by
  have hown : ∀ msgs : List (Message F32), sentTo b (msgs.map fun m => (b, m)) = msgs := by
    intro msgs
    unfold sentTo
    rw [List.filter_eq_self.mpr (fun x hx => ?_), List.map_map]
    · exact List.map_id _
    · obtain ⟨m, -, rfl⟩ := List.mem_map.mp hx
      exact decide_eq_true rfl
  unfold State.waiting
  rw [show (s.setPeer a b p).inbox a = _ from if_pos rfl, sentTo_append, hown]

theorem waiting_setPeer_other (h : ¬ (x = b ∧ y = a)) :
    (s.setPeer a b p).waiting x y = s.waiting x y := by
  unfold State.waiting
  by_cases hy : y = a
  · subst hy
    have hx : b ≠ x := fun hb => h ⟨hb.symm, rfl⟩
    have hnone : ∀ msgs : List (Message F32), sentTo x (msgs.map fun m => (b, m)) = [] := by
      intro msgs
      unfold sentTo
      rw [List.filter_eq_nil_iff.mpr (fun z hz => ?_), List.map_nil]
      obtain ⟨m, -, rfl⟩ := List.mem_map.mp hz
      simpa using hx
    rw [show (s.setPeer y b p).inbox y = _ from if_pos rfl, sentTo_append, hnone, List.append_nil]
  · rw [show (s.setPeer a b p).inbox y = s.inbox y from if_neg hy]

theorem task_eq_some {l : LoopStep} (hs : s.task a b l = some s') :
    a ≠ b ∧ l.queued = [] ∧ ∃ p, (s.peer a b).act l = some p ∧ s' = s.setPeer a b p := by
  have hguard : ∀ {l : LoopStep},
      (if a = b ∨ l = .forward ∧ MSG_BUFF_SIZE ≤ (s.inbox a).length then none
        else ((s.peer a b).act l).map (s.setPeer a b)) = some s' →
      a ≠ b ∧ ∃ p, (s.peer a b).act l = some p ∧ s' = s.setPeer a b p := by
    intro l hs
    split at hs
    · cases hs
    · rename_i hopen
      obtain ⟨p, hp, rfl⟩ := Option.map_eq_some_iff.mp hs
      exact ⟨fun hab => hopen (.inl hab), p, hp, rfl⟩
  cases l with
  | enqueue msg => cases hs
  | _ =>
    obtain ⟨hne, hact⟩ := hguard hs
    exact ⟨hne, rfl, hact⟩

/-- **A step of a task** carries the same messages on. -/
theorem Inv.task (h : Inv s c) {l : LoopStep} (hl : l ≠ .stop)
    (hu : (s.peer a b).loop.Untorn decode l) (hs : s.task a b l = some s') : Inv s' c := by
  obtain ⟨hne, hqueued, p, hp, rfl⟩ := task_eq_some hs
  obtain ⟨hout, hback⟩ := (h.flow a b).act (h.flow b a)
    (fun msg hm => by rw [hqueued] at hm; cases hm) hu hp
  have haccepted : p.accepted = (s.peer a b).accepted := by
    obtain ⟨loop, -, rfl⟩ := Option.map_eq_some_iff.mp hp
    show (s.peer a b).accepted ++ l.queued = _
    rw [hqueued, List.append_nil]
  refine ⟨h.node, fun x y => ?_, fun x y => ?_, fun x hx y => ?_, h.writable⟩
  · by_cases hxy : x = a ∧ y = b
    · obtain ⟨rfl, rfl⟩ := hxy
      rw [setPeer_self, setPeer_back hne]
      exact hout
    · by_cases hyx : x = b ∧ y = a
      · obtain ⟨rfl, rfl⟩ := hyx
        rw [setPeer_self, setPeer_back hne]
        exact hback
      · rw [setPeer_other hxy hyx, setPeer_other (fun h => hyx h.symm) (fun h => hxy h.symm)]
        exact h.flow x y
  · obtain ⟨done, hacc, hfwd⟩ := h.links x y
    refine ⟨done, ?_, ?_⟩
    · rw [← hacc]
      by_cases hxy : x = a ∧ y = b
      · obtain ⟨rfl, rfl⟩ := hxy
        rw [setPeer_self, haccepted]
      · by_cases hyx : x = b ∧ y = a
        · obtain ⟨rfl, rfl⟩ := hyx
          rw [setPeer_back hne]
          rfl
        · rw [setPeer_other hxy hyx]
    · by_cases hyx : x = b ∧ y = a
      · obtain ⟨rfl, rfl⟩ := hyx
        rw [setPeer_self, waiting_setPeer_self, passed_of_act hp, hfwd, List.append_assoc]
      · rw [waiting_setPeer_other hyx, ← hfwd]
        by_cases hxy : x = a ∧ y = b
        · obtain ⟨rfl, rfl⟩ := hxy
          rw [setPeer_back hne]
          rfl
        · rw [setPeer_other (fun h => hyx h.symm) (fun h => hxy h.symm)]
  · by_cases hxy : x = a ∧ y = b
    · obtain ⟨rfl, rfl⟩ := hxy
      rw [setPeer_self]
      exact (h.flow x y).runs (h.flow y x) hl hp
    · by_cases hyx : x = b ∧ y = a
      · obtain ⟨rfl, rfl⟩ := hyx
        rw [setPeer_back hne]
        exact h.running x hx y
      · rw [setPeer_other hxy hyx]
        exact h.running x hx y

/-- The next message a node reads is the oldest of its link. -/
theorem Inv.read (h : Inv s c) {m : Message F32} {rest : List (SocketAddr × Message F32)}
    (hinbox : s.inbox dst = (src, m) :: rest) :
    ∃ later, c.link src dst = m :: later ∧ Inv (s.setInbox dst rest) (c.setLink src dst later) := by
  have hwaiting : s.waiting src dst = m :: sentTo src rest := by
    unfold State.waiting sentTo
    rw [hinbox, List.filter_cons_of_pos (by simp), List.map_cons]
  obtain ⟨done, hacc, hfwd⟩ := h.links src dst
  have hfirst := (h.flow src dst).inOrder.first
  rw [hacc, hfwd, hwaiting] at hfirst
  obtain ⟨more, hmore⟩ := (List.prefix_append_right_inj done).mp hfirst
  refine ⟨sentTo src rest ++ more, hmore.symm, h.node, h.flow, fun a b => ?_, h.running, ?_⟩
  · by_cases hab : a = src ∧ b = dst
    · obtain ⟨rfl, rfl⟩ := hab
      refine ⟨done ++ [m], ?_, ?_⟩
      · show (s.peer a b).accepted = done ++ [m] ++ if a = a ∧ b = b then _ else _
        rw [if_pos ⟨rfl, rfl⟩, hacc, ← hmore, List.append_assoc]
        rfl
      · show (s.peer b a).loop.forwarded = done ++ [m] ++ sentTo a (if b = b then rest else _)
        rw [if_pos rfl, hfwd, hwaiting, List.append_assoc]
        rfl
    · obtain ⟨done', hacc', hfwd'⟩ := h.links a b
      refine ⟨done', ?_, ?_⟩
      · show (s.peer a b).accepted = done' ++ if a = src ∧ b = dst then _ else _
        rw [if_neg hab, hacc']
      · show (s.peer b a).loop.forwarded = done' ++ sentTo a (if b = dst then rest else s.inbox b)
        rw [hfwd']
        by_cases hb : b = dst
        · subst hb
          have ha : src ≠ a := fun ha => hab ⟨ha.symm, rfl⟩
          unfold State.waiting
          rw [if_pos rfl, hinbox]
          unfold sentTo
          rw [List.filter_cons_of_neg (by simpa using ha)]
        · rw [if_neg hb]
          rfl
  · refine ⟨h.writable.node, fun a b m' hm => ?_⟩
    change m' ∈ (if a = src ∧ b = dst then _ else c.link a b) at hm
    split at hm
    · rename_i hab
      obtain ⟨rfl, rfl⟩ := hab
      refine h.writable.link a b m' ?_
      rw [← hmore]
      exact List.mem_cons_of_mem _ hm
    · exact h.writable.link a b m' hm

theorem peer_write (s : State) (d : Cluster.State F32) (a b : SocketAddr) :
    (s.write d).peer a b = sendAll (s.peer a b) (d.link a b) ∨
      d.down a = true ∧ (s.write d).peer a b = (sendAll (s.peer a b) (d.link a b)).halt := by
  show (if d.down a = true then _ else _) = _ ∨ _ ∧ (if d.down a = true then _ else _) = _
  by_cases hd : d.down a = true
  · exact .inr ⟨hd, if_pos hd⟩
  · exact .inl (if_neg hd)

/-- What a step sent comes after what the streams carry already. -/
theorem Inv.write (h : Inv t e) (hd : Moves e.node d a) (hw : Writable (behind e.link d)) :
    Inv (t.write d) (behind e.link d) := by
  have hportable : ∀ x y, ∀ m ∈ d.link x y, Portable m := fun x y m hm =>
    Travels.portable (hw.link x y m (List.mem_append_right _ hm))
  have hrunning : ∀ x y, d.link x y ≠ [] → (t.peer x y).loop.running = true := by
    intro x y hsent
    obtain rfl : x = a := by
      by_contra hx
      exact hsent (hd.silent x y hx)
    exact h.running x hd.up y
  have haccepted : ∀ x y, (sendAll (t.peer x y) (d.link x y)).accepted =
      (t.peer x y).accepted ++ d.link x y := by
    intro x y
    by_cases hsent : d.link x y = []
    · rw [hsent, sendAll_nil, List.append_nil]
    · rw [sendAll_running (hrunning x y hsent)]
  refine ⟨rfl, fun x y => ?_, fun x y => ?_, fun x hx y => ?_, hw⟩
  · have hboth := flow_sentAll (flow_sendAll (h.flow x y) (hportable x y)) (d.link y x)
    obtain hp | ⟨-, hp⟩ := peer_write t d x y <;> obtain hq | ⟨-, hq⟩ := peer_write t d y x <;>
      rw [hp, hq]
    · exact hboth
    · exact hboth.halted
    · exact hboth.halt
    · exact hboth.halt.halted
  · obtain ⟨done, hacc, hfwd⟩ := h.links x y
    refine ⟨done, ?_, ?_⟩
    · have hall : (sendAll (t.peer x y) (d.link x y)).accepted =
          done ++ (behind e.link d).link x y := by
        rw [haccepted, hacc]
        exact List.append_assoc ..
      obtain hp | ⟨-, hp⟩ := peer_write t d x y <;> rw [hp] <;> exact hall
    · have hsame := (sendAll_forwarded (t.peer y x) (d.link y x)).trans hfwd
      obtain hq | ⟨-, hq⟩ := peer_write t d y x <;> rw [hq] <;> exact hsame
  · have hup : d.down x = false := hx
    obtain hp | ⟨hdown, -⟩ := peer_write t d x y
    · rw [hp]
      have hold : e.down x = false := by
        by_cases hxa : x = a
        · subst hxa
          exact hd.up
        · rw [← hup]
          unfold Cluster.State.down
          rw [hd.others x hxa]
      have hrun := h.running x hold y
      rw [sendAll_running hrun]
      exact hrun
    · cases hup.symm.trans hdown

variable [AddrHash]

/-- **A step over streams is one over links**, or none of the nodes. -/
theorem Inv.step {l : Label} (h : Inv s c) (hl : l.Permitted s) (hs : s.step l = some s') :
    ∃ c', Cluster.run c (l.cluster?.toList) = some c' ∧ Inv s' c' := by
  cases l with
  | task a b l => exact ⟨c, rfl, h.task hl.1 hl.2 hs⟩
  | cluster l =>
    have hl : Permits c.node l := h.node ▸ hl
    by_cases hplain : ∀ src dst, l ≠ .deliver src dst
    · have hstep : s.step (.cluster l) = (s.idle.step l).map s.write := by
        cases l with
        | deliver src dst => exact absurd rfl (hplain src dst)
        | _ => rfl
      rw [hstep] at hs
      obtain ⟨d, hd, rfl⟩ := Option.map_eq_some_iff.mp hs
      have hd : Cluster.State.step ⟨c.node, fun _ _ => []⟩ l = some d := by
        rw [← h.node]
        exact hd
      obtain ⟨hbehind, hmoves⟩ := step_behind c.node c.link hplain
      obtain ⟨a, ha⟩ := hmoves d hd
      have hc : c.step l = some (behind c.link d) := hbehind.trans (by rw [hd]; rfl)
      exact ⟨_, run_cons.mpr ⟨_, hc, rfl⟩, h.write ha (h.writable.step hl hc)⟩
    · simp only [ne_eq, not_forall, not_not] at hplain
      obtain ⟨src, dst, rfl⟩ := hplain
      dsimp only [State.step] at hs
      split at hs
      · rename_i n peer m rest hup hinbox
        split at hs
        · rename_i hpeer
          subst hpeer
          cases hs
          have hup : c.up dst = some n := by
            rw [← hup]
            unfold Cluster.State.up
            rw [← h.node]
            rfl
          obtain ⟨later, hlink, hinv⟩ := h.read hinbox
          have hc := deliver_behind hup hlink
          refine ⟨_, run_cons.mpr ⟨_, hc, rfl⟩, ?_⟩
          rw [show s.idle = ⟨c.node, fun _ _ => []⟩ from congrArg (Cluster.State.mk · _) h.node]
          exact hinv.write (moves_act (down_of_up hup) _ _ 0) (h.writable.step hl hc)
        · cases hs
      · cases hs

/-- **A run over streams is one over links**, of the steps the nodes take in it. -/
theorem Inv.run {ls : List Label} (h : Inv s c) (hr : Lib.run State.step s ls = some s')
    (hm : Meets State.step Label.Permitted s ls) :
    ∃ c', Cluster.run c (ls.filterMap Label.cluster?) = some c' ∧ Inv s' c' := by
  induction ls generalizing s c with
  | nil =>
    obtain rfl : s = s' := Option.some.inj hr
    exact ⟨c, rfl, h⟩
  | cons l ls ih =>
    obtain ⟨t, ht, hrest⟩ := run_cons.mp hr
    obtain ⟨hl, hlater⟩ := (meets_cons ht).mp hm
    obtain ⟨d, hd, hinv⟩ := h.step hl ht
    obtain ⟨c', hc', hinv'⟩ := ih hinv hrest hlater
    have hsplit : (l :: ls).filterMap Label.cluster? =
        l.cluster?.toList ++ ls.filterMap Label.cluster? := by
      cases l <;> rfl
    exact ⟨c', hsplit ▸ run_append.mpr ⟨d, hd, hc'⟩, hinv'⟩

end Keeps

end Wire

end YpfRuta.Cluster
