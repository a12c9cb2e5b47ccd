/-
  A step of the cluster as the turn of one node: who takes it, what for, and what
  it does to that node and to the links.
-/
import YpfRuta.Server.Outcome
import YpfRuta.Cluster.LeaderStep

namespace YpfRuta.Cluster

open Server Lib

variable {α : Type}

/-- The turn a step is made of: the node `a`, its record and the links once the event
    is taken from them. -/
structure Waking (α : Type) where
  a : SocketAddr
  node : NodeState α
  event : Event α
  now : Nat
  link : SocketAddr → SocketAddr → List (Message α)

namespace State

/-- The turn a label stands for, if it is enabled. -/
def wake (s : State α) : Label α → Option (Waking α)
  | .request dst reqId op addr =>
    (s.up dst).map fun n => ⟨dst, n, .nodeMsg (.ok (.request reqId op addr)), 0, s.link⟩
  | .station dst msg => (s.up dst).map fun n => ⟨dst, n, .stationMsg msg, 0, s.link⟩
  | .deliver src dst =>
    match s.up dst, s.link src dst with
    | some n, m :: rest =>
      some ⟨dst, n.receive src m, .nodeMsg (.ok m), 0, (s.setLink src dst rest).link⟩
    | _, _ => none
  | .result dst k r =>
    match s.up dst with
    | some n =>
      match n.outstanding[k]? with
      | some e => some ⟨dst, n.answer k, resultOf e r, 0, s.link⟩
      | none => none
    | none => none
  | .lost dst addr =>
    (s.up dst).map fun n => ⟨dst, n, .nodeMsg (.error (.connectionLostWith addr)), 0, s.link⟩
  | .check dst now => (s.up dst).map fun n => ⟨dst, n, .electionCheck, now, s.link⟩
  | .crash _ => none
  | .promote _ => none

end State

/-- A node stops, or is promoted, without a turn. -/
def Label.isTurn : Label α → Bool
  | .crash _ => false
  | .promote _ => false
  | _ => true

section Wakes

variable [AddrHash] {s s' : State α} {l : Label α}

theorem step_wake (hl : l.isTurn = true) (hs : s.step l = some s') :
    ∃ w, s.wake l = some w ∧
      s' = State.act { node := s.node, link := w.link } w.a w.node w.event w.now := by
  cases l with
  | request dst reqId op addr =>
    obtain ⟨n, hup, rfl⟩ := Option.map_eq_some_iff.mp hs
    exact ⟨_, Option.map_eq_some_iff.mpr ⟨n, hup, rfl⟩, rfl⟩
  | station dst msg =>
    obtain ⟨n, hup, rfl⟩ := Option.map_eq_some_iff.mp hs
    exact ⟨_, Option.map_eq_some_iff.mpr ⟨n, hup, rfl⟩, rfl⟩
  | deliver src dst =>
    dsimp only [State.step] at hs
    dsimp only [State.wake]
    cases hup : s.up dst with
    | none =>
      rw [hup] at hs
      cases hs
    | some n =>
      cases hlink : s.link src dst with
      | nil =>
        rw [hup, hlink] at hs
        cases hs
      | cons m rest =>
        rw [hup, hlink] at hs
        exact ⟨_, rfl, (Option.some.inj hs).symm⟩
  | result dst k r =>
    dsimp only [State.step] at hs
    dsimp only [State.wake]
    cases hup : s.up dst with
    | none =>
      rw [hup] at hs
      cases hs
    | some n =>
      rw [hup] at hs
      dsimp only at hs ⊢
      cases hk : n.outstanding[k]? with
      | none =>
        rw [hk] at hs
        cases hs
      | some e =>
        rw [hk] at hs
        exact ⟨_, rfl, (Option.some.inj hs).symm⟩
  | lost dst addr =>
    obtain ⟨n, hup, rfl⟩ := Option.map_eq_some_iff.mp hs
    exact ⟨_, Option.map_eq_some_iff.mpr ⟨n, hup, rfl⟩, rfl⟩
  | check dst now =>
    obtain ⟨n, hup, rfl⟩ := Option.map_eq_some_iff.mp hs
    exact ⟨_, Option.map_eq_some_iff.mpr ⟨n, hup, rfl⟩, rfl⟩
  | crash dst => cases hl
  | promote dst => cases hl

/-- What waking up takes: at most one message from a link to the node, which it then
    handles, or one outstanding command. -/
structure Waking.Takes (w : Waking α) (s : State α) (n : NodeState α) : Prop where
  up : s.up w.a = some n
  runtime : w.node.runtime = n.runtime
  connected : w.node.connected = n.connected
  outstanding : ∀ e ∈ w.node.outstanding, e ∈ n.outstanding
  executed : w.node.executed = n.executed
  assigned : w.node.assigned = n.assigned
  link : ∀ src dst, w.link src dst = s.link src dst ∨
    dst = w.a ∧ ∃ m, s.link src dst = m :: w.link src dst ∧ w.event = .nodeMsg (.ok m) ∧
      w.node.received = n.received ++ [(src, m)]
  result : ∀ opId op r, w.event = .actorEvent (.operationResult opId op r) →
    (opId, op) ∈ n.outstanding
  received : w.node.received = n.received ∨ ∃ src m, w.node.received = n.received ++ [(src, m)] ∧
    w.event = .nodeMsg (.ok m) ∧ ∃ rest, s.link src w.a = m :: rest

omit [AddrHash] in
theorem takes_plain {a : SocketAddr} {n : NodeState α} {event : Event α} {now : Nat}
    (hup : s.up a = some n)
    (hev : ∀ opId op r, event ≠ .actorEvent (.operationResult opId op r)) :
    Waking.Takes ⟨a, n, event, now, s.link⟩ s n where
  up := hup
  runtime := rfl
  connected := rfl
  outstanding _ he := he
  executed := rfl
  assigned := rfl
  link _ _ := .inl rfl
  result opId op r h := absurd h (hev opId op r)
  received := .inl rfl

omit [AddrHash] in
theorem wake_takes {w : Waking α} (hw : s.wake l = some w) : ∃ n, w.Takes s n := by
  cases l with
  | request dst reqId op addr =>
    obtain ⟨n, hup, rfl⟩ := Option.map_eq_some_iff.mp hw
    exact ⟨n, takes_plain hup fun _ _ _ hev => by cases hev⟩
  | station dst msg =>
    obtain ⟨n, hup, rfl⟩ := Option.map_eq_some_iff.mp hw
    exact ⟨n, takes_plain hup fun _ _ _ hev => by cases hev⟩
  | deliver src dst =>
    dsimp only [State.wake] at hw
    cases hup : s.up dst with
    | none =>
      rw [hup] at hw
      cases hw
    | some n =>
      cases hlink : s.link src dst with
      | nil =>
        rw [hup, hlink] at hw
        cases hw
      | cons m rest =>
        rw [hup, hlink] at hw
        obtain rfl := (Option.some.inj hw).symm
        refine ⟨n, hup, rfl, rfl, fun e he => he, rfl, rfl, fun x y => ?_,
          (fun _ _ _ hev => by cases hev), .inr ⟨src, m, rfl, rfl, rest, hlink⟩⟩
        by_cases hxy : x = src ∧ y = dst
        · obtain ⟨rfl, rfl⟩ := hxy
          refine .inr ⟨rfl, m, ?_, rfl, rfl⟩
          rw [hlink]
          exact congrArg (m :: ·) (if_pos ⟨rfl, rfl⟩).symm
        · exact .inl (if_neg hxy)
  | result dst k r =>
    dsimp only [State.wake] at hw
    cases hup : s.up dst with
    | none =>
      rw [hup] at hw
      cases hw
    | some n =>
      rw [hup] at hw
      dsimp only at hw
      cases hk : n.outstanding[k]? with
      | none =>
        rw [hk] at hw
        cases hw
      | some e =>
        rw [hk] at hw
        obtain rfl := (Option.some.inj hw).symm
        refine ⟨n, hup, rfl, rfl, fun e he => List.mem_of_mem_eraseIdx he, rfl, rfl,
          fun _ _ => .inl rfl, fun opId op r' hev => ?_, .inl rfl⟩
        injection hev with hev
        injection hev with hid hop
        rw [← hid, ← hop]
        exact List.mem_of_getElem? hk
  | lost dst addr =>
    obtain ⟨n, hup, rfl⟩ := Option.map_eq_some_iff.mp hw
    exact ⟨n, takes_plain hup fun _ _ _ hev => by cases hev⟩
  | check dst now =>
    obtain ⟨n, hup, rfl⟩ := Option.map_eq_some_iff.mp hw
    exact ⟨n, takes_plain hup fun _ _ _ hev => by cases hev⟩
  | crash dst => cases hw
  | promote dst => cases hw

/-- The turn of a connected, online node that was woken: its outcome, and the state
    it leaves. -/
theorem wake_outcome {w : Waking α} {n : NodeState α} (ht : w.Takes s n)
    (hconn : n.connected = true) (hon : n.runtime.isOffline = false) (hev : w.event.Online) :
    ∃ fault t out commands,
      Outcome w.now w.event fault n.runtime t.self out commands ∧
      t.connected = true ∧ t.commands = commands ∧ t.sent = out ∧
      State.act { node := s.node, link := w.link } w.a w.node w.event w.now =
        { node := Function.update s.node w.a (some (w.node.after w.event fault t))
          link := fun src dst =>
            if src = w.a then w.link src dst ++ sentTo dst out else w.link src dst } := by
  have hrel : (w.node.task w.now).Reliable := task_reliable (ht.connected.trans hconn)
  have honline : (w.node.task w.now).self.isOffline = false := by
    show w.node.runtime.isOffline = false
    rw [ht.runtime, hon]
  obtain ⟨fault, t, out, commands, hturn, hturned⟩ := turn_outcome hrel honline hev
  have hended : ended (NodeRuntime.turn w.event (w.node.task w.now)) = (fault, t) := by
    rw [hturn]
    cases fault <;> rfl
  have hsent : t.sent = out := hturned.sent
  refine ⟨fault, t, out, commands, ?_, ?_, hturned.gave, hsent, ?_⟩
  · have hout := hturned.outcome
    change Outcome w.now w.event fault w.node.runtime t.self out commands at hout
    rwa [ht.runtime] at hout
  · exact hturned.connected.trans (ht.connected.trans hconn)
  · rw [act_eq hended, hsent]

end Wakes

theorem mem_sentTo {dst : SocketAddr} {out : List (SocketAddr × Message α)} {m : Message α} :
    m ∈ sentTo dst out ↔ (dst, m) ∈ out := by
  unfold sentTo
  simp only [List.mem_map, List.mem_filter, decide_eq_true_eq]
  constructor
  · rintro ⟨p, ⟨hp, rfl⟩, rfl⟩
    exact hp
  · intro hp
    exact ⟨_, ⟨hp, rfl⟩, rfl⟩

end YpfRuta.Cluster
