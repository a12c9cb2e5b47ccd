/-
  What the sends of `handle_connect_node` meet after `handle_disconnect_node`. The handlers
  that were stopped are still in the active map: the first send to a peer that has one fails
  and removes it, and the retry dials anew.
-/
import YpfRuta.Network.Active
import YpfRuta.Server.Frame
import YpfRuta.Server.Replica

namespace YpfRuta.Network

/-- The task of a handler. Once it is stopped nobody receives what its owner sends. -/
inductive HandlerTaskState where
  | running
  | stopped
  deriving DecidableEq

/-- `Handler::stop`. -/
def Handler.stop (self : Handler HandlerTaskState) : Handler HandlerTaskState :=
  { self with task := .stopped }

namespace Connection

/-- `Connection::disconnect`. The stopped handlers stay in the map. -/
def disconnect (self : Connection HandlerTaskState) : Connection HandlerTaskState where
  active := ⟨self.active.entries.map (.map id fun _ => Handler.stop),
    List.NodupKeys.map₂ _ _ self.active.nodupKeys⟩
  maxConns := self.maxConns
  connected := false

/-- `Connection::reconnect`, as far as sends see it. -/
def reconnect (self : Connection HandlerTaskState) : Connection HandlerTaskState :=
  { self with connected := true }

/-- The order of the map and the clock during a send. -/
structure Moment where
  iter : Iteration HandlerTaskState
  created : Nat
  used : Nat

/-- A send to a peer that is alive: it can be dialed, and a handler takes the message unless
    it was stopped. -/
def sendAlive (self : Connection HandlerTaskState) (address : SocketAddr) (m : Moment) :
    Dsr Unit × Connection HandlerTaskState :=
  self.send address {
    iter := m.iter
    dialed := .ok .running
    created := m.created
    used := m.used
    takes := (self.active.lookup address).all fun handler => handler.task = .running }

/-- There is a handler for `address`, and it was stopped. -/
def Stale (self : Connection HandlerTaskState) (address : SocketAddr) : Prop :=
  ∃ handler, self.active.lookup address = some handler ∧ handler.task = .stopped

variable {c c' : Connection HandlerTaskState} {address : SocketAddr} {m : Moment}

theorem disconnect_lookup (c : Connection HandlerTaskState) (address : SocketAddr) :
    c.disconnect.active.lookup address = (c.active.lookup address).map Handler.stop :=
  List.dlookup_map₂ (f := fun _ => Handler.stop) address

/-- After a disconnection every handler is stale. -/
theorem stale_disconnect : c.disconnect.reconnect.Stale address ↔ address ∈ c.active := by
  unfold Stale
  rw [show c.disconnect.reconnect.active = c.disconnect.active from rfl, disconnect_lookup]
  constructor
  · rintro ⟨handler, hlook, -⟩
    obtain ⟨h, hsome, -⟩ := Option.map_eq_some_iff.mp hlook
    exact AList.lookup_isSome.mp (by rw [hsome]; rfl)
  · intro hmem
    obtain ⟨h, hsome⟩ := Option.isSome_iff_exists.mp (AList.lookup_isSome.mpr hmem)
    exact ⟨h.stop, by rw [hsome]; rfl, rfl⟩

/-- A send through a stale handler fails, and the handler leaves the map. -/
theorem sendAlive_stale (hc : c.connected = true) (h : c.Stale address) (m : Moment) :
    ∃ e, c.sendAlive address m =
      (.error (.error e), { c with active := c.active.erase address }) := by
  obtain ⟨handler, hlook, hstopped⟩ := h
  have hmem : address ∈ c.active := AList.lookup_isSome.mp (by rw [hlook]; rfl)
  refine ⟨.connectionLostWith handler.address, ?_⟩
  unfold sendAlive send reach
  simp only [hc, Bool.true_eq_false, if_false, if_pos hmem, hlook, Option.all_some, hstopped]
  rfl

/-- Any other send to a peer that is alive goes through. -/
theorem sendAlive_ok (hc : c.connected = true) (h : ¬ c.Stale address) (m : Moment) :
    ∃ c', c.sendAlive address m = (.ok (), c') ∧ c'.connected = true := by
  unfold sendAlive send reach
  simp only [hc, Bool.true_eq_false, if_false]
  by_cases hmem : address ∈ c.active
  · obtain ⟨handler, hlook⟩ := Option.isSome_iff_exists.mp (AList.lookup_isSome.mpr hmem)
    have hrunning : handler.task = .running := by
      cases htask : handler.task with
      | running => rfl
      | stopped => exact absurd ⟨handler, hlook, htask⟩ h
    simp only [if_pos hmem, hlook, Option.all_some, hrunning, decide_true, if_true]
    exact ⟨_, rfl, rfl⟩
  · have hnone : c.active.lookup address = none := AList.lookup_eq_none.mpr hmem
    simp only [if_neg hmem, hnone, Option.all_none, Except.map, addHandlerFrom_eq,
      Lib.Lru.lookup_put, if_true]
    exact ⟨_, rfl, rfl⟩

theorem not_stale_erase (c : Connection HandlerTaskState) (address : SocketAddr) :
    ¬ { c with active := c.active.erase address }.Stale address := by
  rintro ⟨handler, hlook, -⟩
  rw [show ({ c with active := c.active.erase address } : Connection HandlerTaskState).active =
    c.active.erase address from rfl, AList.lookup_erase] at hlook
  cases hlook

/-- How the sends of the loop over `members` in `handle_connect_node` may end, for a node at
    `address` whose peers are all alive. -/
inductive JoinSends (address : SocketAddr) :
    Connection HandlerTaskState → List SocketAddr → List (Option AppError) → Prop where
  | done (c : Connection HandlerTaskState) : JoinSends address c [] []
  | itself {c : Connection HandlerTaskState} {members : List SocketAddr}
      {outcomes : List (Option AppError)} (hrest : JoinSends address c members outcomes) :
      JoinSends address c (address :: members) outcomes
  /-- The first attempt succeeds, which ends the loop. -/
  | sent {c c' : Connection HandlerTaskState} {peer : SocketAddr} {members : List SocketAddr}
      (m : Moment) (hpeer : peer ≠ address) (h : c.sendAlive peer m = (.ok (), c')) :
      JoinSends address c (peer :: members) [none]
  /-- The retry succeeds, and the loop goes on. -/
  | retried {c c₁ c₂ : Connection HandlerTaskState} {peer : SocketAddr}
      {members : List SocketAddr} {outcomes : List (Option AppError)} {e : AppError}
      (m₁ m₂ : Moment) (hpeer : peer ≠ address)
      (h₁ : c.sendAlive peer m₁ = (.error (.error e), c₁))
      (h₂ : c₁.sendAlive peer m₂ = (.ok (), c₂)) (hrest : JoinSends address c₂ members outcomes) :
      JoinSends address c (peer :: members) (some e :: none :: outcomes)
  /-- The retry fails as well. -/
  | refused {c c₁ c₂ : Connection HandlerTaskState} {peer : SocketAddr}
      {members : List SocketAddr} {outcomes : List (Option AppError)} {e e' : AppError}
      (m₁ m₂ : Moment) (hpeer : peer ≠ address)
      (h₁ : c.sendAlive peer m₁ = (.error (.error e), c₁))
      (h₂ : c₁.sendAlive peer m₂ = (.error (.error e'), c₂))
      (hrest : JoinSends address c₂ members outcomes) :
      JoinSends address c (peer :: members) (some e :: some e' :: outcomes)

/-- The members a node at `address` sends to. -/
def others (address : SocketAddr) (members : List SocketAddr) : List SocketAddr :=
  members.filter fun peer => peer ≠ address

variable {peer : SocketAddr} {members : List SocketAddr} {outcomes : List (Option AppError)}

theorem others_self : others address (address :: members) = others address members :=
  List.filter_cons_of_neg (by simp)

theorem others_cons (hpeer : peer ≠ address) :
    others address (peer :: members) = peer :: others address members :=
  List.filter_cons_of_pos (by simpa using hpeer)

/-- One member: a stale peer gets its `Join` with the retry, and the loop goes on; any other
    peer gets it at once, and the loop ends. -/
theorem JoinSends.peer_cases (hc : c.connected = true) (hpeer : peer ≠ address)
    (h : JoinSends address c (peer :: members) outcomes) :
    (¬ c.Stale peer ∧ outcomes = [none]) ∨
      (c.Stale peer ∧ ∃ e rest c', outcomes = some e :: none :: rest ∧ c'.connected = true ∧
        JoinSends address c' members rest) := by
  by_cases hstale : c.Stale peer
  · cases h with
    | itself => exact absurd rfl hpeer
    | sent m _ hsend =>
      obtain ⟨e, hlost⟩ := sendAlive_stale hc hstale m
      cases hlost.symm.trans hsend
    | @retried _ _ c₂ _ _ rest e m₁ m₂ _ h₁ h₂ hrest =>
      obtain ⟨e', hlost⟩ := sendAlive_stale hc hstale m₁
      obtain ⟨-, rfl⟩ := Prod.mk.inj (hlost.symm.trans h₁)
      obtain ⟨c', hok, hconn⟩ := sendAlive_ok (by exact hc) (not_stale_erase c peer) m₂
      obtain ⟨-, rfl⟩ := Prod.mk.inj (hok.symm.trans h₂)
      exact .inr ⟨hstale, e, rest, _, rfl, hconn, hrest⟩
    | refused m₁ m₂ _ h₁ h₂ hrest =>
      obtain ⟨e', hlost⟩ := sendAlive_stale hc hstale m₁
      obtain ⟨-, rfl⟩ := Prod.mk.inj (hlost.symm.trans h₁)
      obtain ⟨c', hok, -⟩ := sendAlive_ok (by exact hc) (not_stale_erase c peer) m₂
      cases hok.symm.trans h₂
  · refine .inl ⟨hstale, ?_⟩
    cases h with
    | itself => exact absurd rfl hpeer
    | sent => rfl
    | retried m₁ m₂ _ h₁ =>
      obtain ⟨c', hok, -⟩ := sendAlive_ok hc hstale m₁
      cases hok.symm.trans h₁
    | refused m₁ m₂ _ h₁ =>
      obtain ⟨c', hok, -⟩ := sendAlive_ok hc hstale m₁
      cases hok.symm.trans h₁

/-- The loop can always be run. -/
theorem exists_joinSends (address : SocketAddr) (m : Moment) (members : List SocketAddr)
    (hc : c.connected = true) : ∃ outcomes, JoinSends address c members outcomes := by
  induction members generalizing c with
  | nil => exact ⟨[], .done c⟩
  | cons peer members ih =>
    by_cases hpeer : peer = address
    · subst hpeer
      obtain ⟨outcomes, h⟩ := ih hc
      exact ⟨outcomes, .itself h⟩
    · by_cases hstale : c.Stale peer
      · obtain ⟨e, hlost⟩ := sendAlive_stale hc hstale m
        obtain ⟨c', hok, hconn⟩ := sendAlive_ok (by exact hc) (not_stale_erase c peer) m
        obtain ⟨outcomes, h⟩ := ih hconn
        exact ⟨_, .retried m m hpeer hlost hok h⟩
      · obtain ⟨c', hok, -⟩ := sendAlive_ok hc hstale m
        exact ⟨_, .sent m hpeer hok⟩

theorem JoinSends.skip (h : JoinSends address c (address :: members) outcomes) :
    JoinSends address c members outcomes := by
  cases h with
  | itself h => exact h
  | sent _ hpeer => exact absurd rfl hpeer
  | retried _ _ hpeer => exact absurd rfl hpeer
  | refused _ _ hpeer => exact absurd rfl hpeer

/-- Some send of the loop ends well exactly when there is a peer. -/
theorem JoinSends.pos_iff (hc : c.connected = true) (h : JoinSends address c members outcomes) :
    0 < outcomes.countP Option.isNone ↔ others address members ≠ [] := by
  induction members generalizing c outcomes with
  | nil =>
    cases h
    exact iff_of_false (lt_irrefl 0) fun hne => hne rfl
  | cons peer members ih =>
    by_cases hpeer : peer = address
    · subst hpeer
      rw [ih hc h.skip, others_self]
    · rw [others_cons hpeer]
      refine iff_of_true ?_ (List.cons_ne_nil _ _)
      obtain ⟨-, rfl⟩ | ⟨-, e, rest, c', rfl, -, -⟩ := h.peer_cases hc hpeer
      · exact Nat.one_pos
      · rw [List.countP_cons_of_neg (by simp), List.countP_cons_of_pos rfl]
        exact Nat.succ_pos _

/-- One `Join` is enough: there is at most one peer, or the first one is not stale. -/
def OneJoin (c : Connection HandlerTaskState) : List SocketAddr → Prop
  | peer :: _ :: _ => ¬ c.Stale peer
  | _ => True

/-- **When one send of the loop ends well**, or none without a peer. -/
theorem JoinSends.once_iff (hc : c.connected = true) (h : JoinSends address c members outcomes) :
    outcomes.countP Option.isNone = min 1 (others address members).length ↔
      c.OneJoin (others address members) := by
  induction members generalizing outcomes with
  | nil =>
    cases h
    exact iff_of_true rfl True.intro
  | cons peer members ih =>
    by_cases hpeer : peer = address
    · subst hpeer
      rw [others_self]
      exact ih h.skip
    · rw [others_cons hpeer, List.length_cons, Nat.min_eq_left (Nat.succ_pos _)]
      obtain ⟨hfresh, rfl⟩ | ⟨hstale, e, rest, c', rfl, hc', hrest⟩ := h.peer_cases hc hpeer
      · refine iff_of_true rfl ?_
        cases others address members with
        | nil => exact True.intro
        | cons => exact hfresh
      · have hpos := hrest.pos_iff hc'
        rw [List.countP_cons_of_neg (by simp), List.countP_cons_of_pos rfl]
        cases hothers : others address members with
        | nil =>
          refine iff_of_true ?_ True.intro
          have hzero : ¬ 0 < rest.countP Option.isNone := fun hlt => hpos.mp hlt hothers
          omega
        | cons next others =>
          refine iff_of_false ?_ fun hfresh => hfresh hstale
          have hlt : 0 < rest.countP Option.isNone :=
            hpos.mpr (by rw [hothers]; exact List.cons_ne_nil _ _)
          omega

end Connection

end YpfRuta.Network

namespace YpfRuta.Server

open Network Connection

def Message.isJoin {α : Type} : Message α → Bool
  | .join _ => true
  | _ => false

section Loop

variable {α σ : Type} {t : Task α σ}

/-- The `Join`s that `Connection::send` has accepted. -/
def Task.joins (t : Task α σ) : Nat := t.sent.countP fun m => Message.isJoin m.2

/-- What both roles' loops over the members have in common. -/
structure JoinLoop (address : SocketAddr) (loop : List SocketAddr → Handler α σ Unit) : Prop where
  done : ∀ t, loop [] t = .ok () t
  itself : ∀ members t, loop (address :: members) t = loop members t
  sent : ∀ peer members t t', peer ≠ address → send (.join address) peer t = .ok () t' →
    loop (peer :: members) t = .ok () t'
  retried : ∀ peer members t t₁ t₂ e, peer ≠ address →
    send (.join address) peer t = .error (.err e) t₁ →
    send (.join address) peer t₁ = .ok () t₂ → loop (peer :: members) t = loop members t₂

theorem send_none {msg : Message α} {addr : SocketAddr} {rest : List (Option AppError)}
    (hc : t.connected = true) (ho : t.outcomes = none :: rest) :
    send msg addr t = .ok () { t with outcomes := rest, sent := t.sent ++ [(addr, msg)] } := by
  obtain ⟨self, connected, outcomes, now, sent, told, commands⟩ := t
  obtain rfl : connected = true := hc
  obtain rfl : outcomes = none :: rest := ho
  rfl

theorem send_some {e : AppError} {rest : List (Option AppError)} (hc : t.connected = true)
    (ho : t.outcomes = some e :: rest) (msg : Message α) (addr : SocketAddr) :
    send msg addr t = .error (.err e) { t with outcomes := rest } := by
  obtain ⟨self, connected, outcomes, now, sent, told, commands⟩ := t
  obtain rfl : connected = true := hc
  obtain rfl : outcomes = some e :: rest := ho
  rfl

theorem joins_sent (t : Task α σ) (rest : List (Option AppError)) (peer address : SocketAddr) :
    ({ t with outcomes := rest, sent := t.sent ++ [(peer, .join address)] } : Task α σ).joins =
      t.joins + 1 :=
  List.countP_append

/-- The loop hands over one `Join` for every send that ends well. -/
theorem JoinLoop.joins {address : SocketAddr} {loop : List SocketAddr → Handler α σ Unit}
    (hloop : JoinLoop address loop) {c : Connection HandlerTaskState} (hc : c.connected = true)
    {members : List SocketAddr} (ht : t.connected = true)
    (h : JoinSends address c members t.outcomes) :
    (left (loop members t)).joins = t.joins + t.outcomes.countP Option.isNone := by
  induction members generalizing c t with
  | nil =>
    have hnil : t.outcomes = [] := by
      generalize t.outcomes = outcomes at h
      cases h
      rfl
    rw [hloop.done, hnil]
    rfl
  | cons peer members ih =>
    by_cases hpeer : peer = address
    · subst hpeer
      rw [hloop.itself]
      exact ih hc ht h.skip
    · obtain ⟨-, ho⟩ | ⟨-, e, rest, c', ho, hc', hrest⟩ := h.peer_cases hc hpeer
      · rw [hloop.sent _ _ _ _ hpeer (send_none ht ho), ho]
        exact joins_sent t [] peer address
      · have hlost := send_some ht ho (.join address) peer
        have hsent : send (.join address) peer { t with outcomes := none :: rest } = _ :=
          send_none ht rfl
        have hcount : (some e :: none :: rest).countP Option.isNone =
            rest.countP Option.isNone + 1 := by
          rw [List.countP_cons_of_neg (by simp), List.countP_cons_of_pos rfl]
        rw [hloop.retried _ _ _ _ _ _ hpeer hlost hsent, ih hc' (by exact ht) hrest, ho, hcount]
        rw [show ∀ n, t.joins + (n + 1) = t.joins + 1 + n by omega]
        exact congrArg (· + _) (joins_sent t rest peer address)

theorem errorOf_ok {x : Handler α σ Unit} {t' : Task α σ} (h : x t = .ok () t') :
    errorOf x t = .ok none t' := by
  unfold errorOf
  rw [h]

theorem errorOf_err {x : Handler α σ Unit} {e : AppError} {t' : Task α σ}
    (h : x t = .error (.err e) t') : errorOf x t = .ok (some e) t' := by
  unfold errorOf
  rw [h]

end Loop

variable {α : Type}

/-! ## The loops -/

theorem Leader.joinLoop (address : SocketAddr) :
    JoinLoop (α := α) address (Leader.joinAny address) where
  done _ := rfl
  itself members t := by rw [Leader.joinAny, if_pos rfl]
  sent peer members t t' hpeer h := by
    rw [Leader.joinAny, if_neg hpeer]
    exact bind_ok (errorOf_ok h)
  retried peer members t t₁ t₂ e hpeer h₁ h₂ := by
    rw [Leader.joinAny, if_neg hpeer]
    refine (bind_ok (errorOf_err h₁)).trans ?_
    exact bind_ok (errorOf_ok h₂)

theorem Replica.joinLoop (address : SocketAddr) :
    JoinLoop (α := α) address (Replica.joinAny address) where
  done _ := rfl
  itself members t := by rw [Replica.joinAny, if_pos rfl]
  sent peer members t t' hpeer h := by
    rw [Replica.joinAny, if_neg hpeer]
    exact bind_ok (errorOf_ok h)
  retried peer members t t₁ t₂ e hpeer h₁ h₂ := by
    rw [Replica.joinAny, if_neg hpeer]
    refine (bind_ok (errorOf_err h₁)).trans ?_
    exact bind_ok h₂

/-! ## `ConnectNode` -/

/-- A node at `address` that was sent away with the connection `c` is about to connect: its
    listener starts or not, and the sends of the loop over `members` end as they may. -/
structure Returns {σ : Type} (c : Connection HandlerTaskState) (listens : Option AppError)
    (address : SocketAddr) (members : List SocketAddr) (t : Task α σ) : Prop where
  outcomes : ∃ outcomes, t.outcomes = listens :: outcomes ∧
    JoinSends address c.disconnect.reconnect members outcomes
  joins : t.joins = 0

/-- The listener starts if there is a peer, and of several peers the first one visited has no
    handler in the active map. -/
def JoinsOnce (c : Connection HandlerTaskState) (listens : Option AppError) :
    List SocketAddr → Prop
  | [] => True
  | [_] => listens = none
  | peer :: _ :: _ => listens = none ∧ peer ∉ c.active

variable {c : Connection HandlerTaskState} {listens : Option AppError} {address : SocketAddr}
  {members : List SocketAddr}

theorem oneJoin_disconnect (peers : List SocketAddr) :
    c.disconnect.reconnect.OneJoin peers ↔ JoinsOnce c none peers := by
  cases peers with
  | nil => exact Iff.rfl
  | cons peer peers =>
    cases peers with
    | nil => exact iff_of_true True.intro rfl
    | cons => exact (not_congr stale_disconnect).trans (and_iff_right rfl).symm

/-- Without a listener nobody may be sent a `Join`. -/
theorem joinsOnce_error (e : AppError) (peers : List SocketAddr) :
    0 = min 1 peers.length ↔ JoinsOnce c (some e) peers := by
  cases peers with
  | nil => exact iff_of_true rfl True.intro
  | cons peer peers =>
    rw [List.length_cons, Nat.min_eq_left (Nat.succ_pos _)]
    refine iff_of_false Nat.zero_ne_one fun h => ?_
    cases peers with
    | nil => cases h
    | cons => cases h.1

/-- Telling either role to connect, once its loop is known. -/
theorem Returns.once_iff {σ : Type} {t : Task α σ} (h : Returns c listens address members t)
    {loop : List SocketAddr → Handler α σ Unit} (hloop : JoinLoop address loop)
    {r : EStateM.Result Fault (Task α σ) Unit} (self : σ)
    (hstarts : ∀ outcomes, t.outcomes = none :: outcomes → r = loop members { t with
      self := self
      connected := true
      outcomes := outcomes })
    (hfails : ∀ e outcomes, t.outcomes = some e :: outcomes → (left r).joins = t.joins) :
    (left r).joins = min 1 (others address members).length ↔
      JoinsOnce c listens (others address members) := by
  obtain ⟨⟨outcomes, ho, hsends⟩, hzero⟩ := h
  cases listens with
  | none =>
    rw [hstarts outcomes ho, hloop.joins rfl rfl hsends, ← oneJoin_disconnect,
      ← hsends.once_iff rfl]
    show t.joins + _ = _ ↔ _
    rw [hzero, Nat.zero_add]
  | some e =>
    rw [hfails e outcomes ho, hzero]
    exact joinsOnce_error e _

theorem Leader.connect_iff {t : Task α (Leader α)}
    (h : Returns c listens t.self.address t.self.cluster.values t) :
    (left (Leader.handleConnectNode t)).joins =
        min 1 (others t.self.address t.self.cluster.values).length ↔
      JoinsOnce c listens (others t.self.address t.self.cluster.values) := by
  refine h.once_iff (Leader.joinLoop t.self.address) { t.self with isOffline := false }
    (fun outcomes ho => ?_) fun e outcomes ho => ?_
  · obtain ⟨self, connected, os, now, sent, told, commands⟩ := t
    obtain rfl : os = none :: outcomes := ho
    rfl
  · obtain ⟨self, connected, os, now, sent, told, commands⟩ := t
    obtain rfl : os = some e :: outcomes := ho
    rfl

theorem Replica.connect_iff {t : Task α (Replica α)}
    (h : Returns c listens t.self.address t.self.cluster.values t) :
    (left (Replica.handleConnectNode t)).joins =
        min 1 (others t.self.address t.self.cluster.values).length ↔
      JoinsOnce c listens (others t.self.address t.self.cluster.values) := by
  refine h.once_iff (Replica.joinLoop t.self.address) { t.self with isOffline := false }
    (fun outcomes ho => ?_) fun e outcomes ho => ?_
  · obtain ⟨self, connected, os, now, sent, told, commands⟩ := t
    obtain rfl : os = none :: outcomes := ho
    rfl
  · obtain ⟨self, connected, os, now, sent, told, commands⟩ := t
    obtain rfl : os = some e :: outcomes := ho
    rfl

/-- **Reconnecting sends one `Join`**, or none without a peer, in either role exactly when
    the listener starts and the loop over the members has one peer only or visits first a
    peer that had no handler when the node was sent away. -/
theorem one_join (c : Connection HandlerTaskState) (listens : Option AppError) :
    (∀ t : Task α (Leader α), Returns c listens t.self.address t.self.cluster.values t →
      ((left (Leader.handleConnectNode t)).joins =
          min 1 (others t.self.address t.self.cluster.values).length ↔
        JoinsOnce c listens (others t.self.address t.self.cluster.values))) ∧
    ∀ t : Task α (Replica α), Returns c listens t.self.address t.self.cluster.values t →
      ((left (Replica.handleConnectNode t)).joins =
          min 1 (others t.self.address t.self.cluster.values).length ↔
        JoinsOnce c listens (others t.self.address t.self.cluster.values)) :=
  ⟨fun _ h => Leader.connect_iff h, fun _ h => Replica.connect_iff h⟩

/-! ## A leader with handlers for its peers -/

/-- A leader, told to connect, with members at `members`. -/
def toldToConnect (members : List (NodeId × SocketAddr)) (outcomes : List (Option AppError)) :
    Task Nat (Leader Nat) where
  self := {
    id := 0
    currentOpId := 1
    address := localAddr 5000
    cluster := members.foldl (fun cluster m => cluster.insert m.1 m.2) ∅
    operations := ∅
    isOffline := true
    offlineQueue := []
    electionInProgress := false
    electionStart := none }
  connected := false
  outcomes := none :: outcomes
  now := 0
  sent := []
  told := []
  commands := []

/-- A connection with one handler for each of `peers`. -/
def handlersFor (peers : List SocketAddr) : Connection HandlerTaskState where
  active := peers.foldl (fun active peer => active.insert peer ⟨.running, peer, 0⟩) ∅
  maxConns := 10
  connected := true

theorem exists_returns (members : List (NodeId × SocketAddr)) (peers : List SocketAddr) :
    ∃ t, (∃ outcomes, t = toldToConnect members outcomes) ∧
      Returns (handlersFor peers) none t.self.address t.self.cluster.values t := by
  obtain ⟨outcomes, h⟩ := exists_joinSends (localAddr 5000) ⟨[], 0, 0⟩
    (toldToConnect members []).self.cluster.values (c := (handlersFor peers).disconnect.reconnect) rfl
  exact ⟨toldToConnect members outcomes, ⟨outcomes, rfl⟩, ⟨outcomes, rfl, h⟩, rfl⟩

/-- Of three peers the first one visited had no handler. -/
theorem one_join_example :
    ∃ t : Task Nat (Leader Nat),
      Returns (handlersFor [localAddr 5001, localAddr 5002]) none t.self.address
        t.self.cluster.values t ∧
      others t.self.address t.self.cluster.values =
        [localAddr 5003, localAddr 5002, localAddr 5001] ∧
      (left (Leader.handleConnectNode t)).joins = 1 := by
  obtain ⟨t, ⟨outcomes, rfl⟩, h⟩ := exists_returns
    [(0, localAddr 5000), (1, localAddr 5001), (2, localAddr 5002), (3, localAddr 5003)]
    [localAddr 5001, localAddr 5002]
  have hfresh : localAddr 5003 ∉ (handlersFor [localAddr 5001, localAddr 5002]).active := by decide
  exact ⟨_, h, rfl, ((one_join _ none).1 _ h).mpr ⟨rfl, hfresh⟩⟩

/-- **Two `Join`s**: a leader with two peers that both had handlers. -/
theorem joins_twice :
    ¬ ∀ (c : Connection HandlerTaskState) (t : Task Nat (Leader Nat)),
      Returns c none t.self.address t.self.cluster.values t →
      (left (Leader.handleConnectNode t)).joins =
        min 1 (others t.self.address t.self.cluster.values).length := by
  intro hall
  obtain ⟨t, ⟨outcomes, rfl⟩, h⟩ :=
    exists_returns [(0, localAddr 5000), (1, localAddr 5001), (2, localAddr 5002)]
      [localAddr 5001, localAddr 5002]
  obtain ⟨-, hnot⟩ := (Leader.connect_iff h).mp (hall _ _ h)
  exact hnot (by decide)

end YpfRuta.Server
