/-
  The channel from the router to the node (`ActorRouter::emit`, `Database::start` and
  `Database::recv`): 128 events are buffered, and one more is dropped.

  `ActorDb.events` is what the router emits. Which of it the node gets depends on when it
  receives.
-/
import YpfRuta.Lib.Channel
import YpfRuta.Actors.AccountFlow
import YpfRuta.Actors.CardFlow
import YpfRuta.Actors.Sequential

namespace YpfRuta.Actors

open Lib

section

variable {Amount : Type} [Currency Amount]

/-- The event is an `OperationResult`. -/
def ActorEvent.isResult : ActorEvent → Bool
  | .operationResult .. => true
  | .debug _ => false

namespace ActorRouter

/-- With so many more fragments the snapshot of `opId` is complete. -/
def finishesSnapshot (self : ActorRouter) (opId : OpId) (accounts cards : Nat) : Bool :=
  (self.operations opId).isSome && (self.pendingDbSnapshots opId).any fun p =>
    decide (p.accounts.length + accounts = p.expectedAccounts ∧
      p.cards.length + cards = p.expectedCards)

/-- Handling the message finishes an operation. -/
def finishes (self : ActorRouter) : RouterMsg → Bool
  | .execute _ (.getDatabase _) =>
    decide (self.accounts.toList.length = 0 ∧ self.cards.toList.length = 0)
  | .execute _ (.replaceDatabase _) => true
  | .execute .. => false
  | .operationCompleted opId success error =>
    (self.operations opId).any fun o => (completedResult o success error).isSome
  | .accountQueryCompleted opId .. => (self.operations opId).isSome
  | .accountSnapshotCollected opId _ => self.finishesSnapshot opId 1 0
  | .cardSnapshotCollected opId _ => self.finishesSnapshot opId 0 1
  | .getLog => false
  | .debug _ => false

/-- The events of one message: none or one, and a result when an operation is finished. -/
inductive Emits : List ActorEvent → Bool → Prop where
  | none : Emits [] false
  | debug (text : String) : Emits [.debug text] false
  | result (n : OpId) (o : Operation Amount) (res : OperationResult Amount) (b : Bool)
      (e : Option VerifyError) : Emits [.operationResult n o res b e] true

variable {r : ActorRouter}

/-- Sends that are no events. -/
theorem Emits.silent {xs : List Send} (h : ∀ x ∈ xs, x.toNode? = .none) :
    Emits (xs.filterMap Send.toNode?) false := by
  rw [List.filterMap_eq_nil_iff.mpr h]
  exact .none

theorem execute_emits (n : OpId) (o : Operation Amount) :
    Emits ((r.execute n o).2.filterMap Send.toNode?) (r.finishes (.execute n o)) := by
  have hquery : ∀ (r' : ActorRouter) (a : AccountId) (start : AccountMsg) (reset : Bool),
      ∀ x ∈ r'.queryCards n a start reset, x.toNode? = .none := by
    intro r' a start reset x hx
    rcases List.mem_cons.mp hx with rfl | hx
    · rfl
    · obtain ⟨c, -, rfl⟩ := List.mem_map.mp hx
      rfl
  cases o with
  | charge a c amount off => exact .none
  | limitAccount a lim => exact .none
  | limitCard a c lim => exact .none
  | accountQuery a => exact .silent (hquery _ a _ false)
  | bill a period => exact .silent (hquery _ a _ true)
  | getDatabase addr =>
    by_cases he : r.accounts.toList.length = 0 ∧ r.cards.toList.length = 0
    · simp only [execute, executeGetDatabase, finishes, if_pos he, decide_eq_true he]
      exact .result ..
    · simp only [execute, executeGetDatabase, finishes, if_neg he, decide_eq_false he]
      refine .silent fun x hx => ?_
      rcases List.mem_append.mp hx with hx | hx <;>
        · obtain ⟨y, -, rfl⟩ := List.mem_map.mp hx
          rfl
  | replaceDatabase snapshot =>
    simp only [execute, executeReplaceDatabase, finishes, List.filterMap_append]
    have haccounts : (snapshot.accounts.map fun s => Send.account s.accountId
        (.replaceState s.limit s.consumed)).filterMap Send.toNode? = [] := by
      simp [List.filterMap_map, Function.comp_def, Send.toNode?]
    have hcards : (snapshot.cards.map fun s => Send.card (s.accountId, s.cardId)
        (.replaceState s.limit s.consumed)).filterMap Send.toNode? = [] := by
      simp [List.filterMap_map, Function.comp_def, Send.toNode?]
    rw [haccounts, hcards]
    exact .result ..

theorem tryCompleteDbSnapshot_emits {n : OpId} :
    Emits ((r.tryCompleteDbSnapshot n).2.filterMap Send.toNode?) (r.finishesSnapshot n 0 0) := by
  unfold tryCompleteDbSnapshot finishesSnapshot
  cases hp : r.pendingDbSnapshots n with
  | none =>
    rw [Option.any_none, Bool.and_false]
    exact .none
  | some p =>
    by_cases hall : p.accounts.length = p.expectedAccounts ∧ p.cards.length = p.expectedCards
    · cases ho : r.operations n with
      | none =>
        simp only [if_pos hall, ho]
        exact .debug _
      | some o =>
        simp only [if_pos hall, ho, Option.isSome_some, Option.any_some, Nat.add_zero,
          decide_eq_true hall, Bool.and_self]
        exact .result ..
    · simp only [if_neg hall, Option.any_some, Nat.add_zero, decide_eq_false hall, Bool.and_false]
      exact .none

/-- **The router tells the node of a message** with one result when it finishes an
    operation, and else with a debug event or not at all. -/
theorem handle_emits (r : ActorRouter) (m : RouterMsg) :
    Emits ((r.handle m).2.filterMap Send.toNode?) (r.finishes m) := by
  cases m with
  | execute n o => exact execute_emits n o
  | getLog => exact .debug _
  | debug text => exact .debug text
  | operationCompleted n b e =>
    simp only [handle, operationCompleted, finishes]
    cases ho : r.operations n with
    | none => exact .debug _
    | some o =>
      cases hres : completedResult o b e with
      | none => simpa [hres] using Emits.none
      | some res => simpa [hres, Send.toNode?] using Emits.result n o res b e
  | accountQueryCompleted n a total perCard =>
    simp only [handle, accountQueryCompleted, finishes]
    cases ho : r.operations n with
    | none => exact .debug _
    | some o => exact .result ..
  | accountSnapshotCollected n x =>
    simp only [handle, accountSnapshotCollected, finishes, finishesSnapshot]
    cases hp : r.pendingDbSnapshots n with
    | none =>
      simp only [Option.any_none, Bool.and_false]
      exact .debug _
    | some p =>
      have h := tryCompleteDbSnapshot_emits (r := { r with
        pendingDbSnapshots := Function.update r.pendingDbSnapshots n
          (some { p with accounts := p.accounts ++ [x] }) }) (n := n)
      simpa [finishesSnapshot] using h
  | cardSnapshotCollected n x =>
    simp only [handle, cardSnapshotCollected, finishes, finishesSnapshot]
    cases hp : r.pendingDbSnapshots n with
    | none =>
      simp only [Option.any_none, Bool.and_false]
      exact .debug _
    | some p =>
      have h := tryCompleteDbSnapshot_emits (r := { r with
        pendingDbSnapshots := Function.update r.pendingDbSnapshots n
          (some { p with cards := p.cards ++ [x] }) }) (n := n)
      simpa [finishesSnapshot] using h

end ActorRouter

namespace ActorDb

/-- The step finishes an operation. -/
def finishes (s : ActorDb) : Label → Bool
  | .router => s.routerBox.head?.any s.router.finishes
  | _ => false

/-- A step emits nothing or one event, a result exactly when it finishes an operation. -/
theorem step_emits {s s' : ActorDb} {l : Label} (h : s.step l = some s') :
    (s'.events = s.events ∧ s.finishes l = false) ∨
      ∃ ev, s'.events = s.events ++ [ev] ∧ ev.isResult = s.finishes l := by
  obtain ⟨n, o, rfl, rfl⟩ | ⟨m, rest, rfl, hbox, -, rfl⟩ | ⟨a, m, rest, rfl, -, rfl⟩ |
    ⟨k, m, rest, rfl, -, rfl⟩ := step_cases h
  · exact .inl ⟨rfl, rfl⟩
  · have hevents : (s.routerStep m rest).events =
        s.events ++ (s.router.handle m).2.filterMap Send.toNode? := rfl
    have hfin : s.finishes .router = s.router.finishes m := by
      unfold finishes
      rw [hbox, List.head?_cons, Option.any_some]
    have hemits := s.router.handle_emits m
    rw [hevents, hfin]
    generalize (s.router.handle m).2.filterMap Send.toNode? = es at hemits ⊢
    generalize s.router.finishes m = b at hemits ⊢
    cases hemits with
    | none => exact .inl ⟨List.append_nil _, rfl⟩
    | debug text => exact .inr ⟨_, rfl, rfl⟩
    | result n o res b e => exact .inr ⟨_, rfl, rfl⟩
  · refine .inl ⟨?_, rfl⟩
    show s.events ++ ((s.account a).handle m).2.filterMap Send.toNode? = s.events
    rw [AccountActor.handle_toNode, List.append_nil]
  · refine .inl ⟨?_, rfl⟩
    show s.events ++ ((s.card k).handle m).2.filterMap Send.toNode? = s.events
    rw [CardActor.handle_toNode, List.append_nil]

end ActorDb

/-! ## The node receives -/

namespace Events

/-- `mpsc::channel::<ActorEvent>(128)`. -/
def capacity : Nat := 128

/-- The database and what of its events is on the way to the node or received. -/
structure State where
  db : ActorDb
  channel : Channel ActorEvent

inductive Label where
  /-- The node sends `Execute`, or an actor handles a message. -/
  | db (l : Actors.Label)
  /-- The node receives an event. -/
  | recv

namespace State

def init : State where
  db := .init
  channel := .empty

/-- `ActorRouter::emit`, for the events of one step. -/
def emit (s : State) (db : ActorDb) : State where
  db := db
  channel := (db.events.drop s.db.events.length).foldl (Channel.trySend capacity) s.channel

def step (s : State) : Label → Option State
  | .db l => (s.db.step l).map s.emit
  | .recv => s.channel.recv.map fun channel => { s with channel := channel }

/-- The node has received every result the router produced, in order. -/
def Received (s : State) : Prop :=
  s.channel.received.filter ActorEvent.isResult = s.db.events.filter ActorEvent.isResult

end State

/-- An operation is finished only while an event fits in the buffer. -/
def Fits (s : State) : Label → Prop
  | .db l => s.db.finishes l = true → s.channel.buffer.length < capacity
  | .recv => True

instance (s : State) (l : Label) : Decidable (Fits s l) :=
  match l with
  | .db _ => inferInstanceAs (Decidable (_ → _))
  | .recv => isTrue True.intro

variable {s s' : State} {l : Label}

theorem emit_none {db : ActorDb} (h : db.events = s.db.events) :
    (s.emit db).channel = s.channel := by
  unfold State.emit
  rw [h, List.drop_length]
  rfl

theorem emit_one {db : ActorDb} {ev : ActorEvent} (h : db.events = s.db.events ++ [ev]) :
    (s.emit db).channel = s.channel.trySend capacity ev := by
  unfold State.emit
  rw [h, List.drop_left]
  rfl

/-- The channel accepts no event the router does not emit. -/
theorem step_sublist (hi : s.channel.accepted.Sublist s.db.events) (hs : s.step l = some s') :
    s'.channel.accepted.Sublist s'.db.events := by
  cases l with
  | recv =>
    obtain ⟨channel, hrecv, rfl⟩ := Option.map_eq_some_iff.mp hs
    show channel.accepted.Sublist s.db.events
    rw [Channel.accepted_recv hrecv]
    exact hi
  | db l =>
    obtain ⟨db, hdb, rfl⟩ := Option.map_eq_some_iff.mp hs
    show (s.emit db).channel.accepted.Sublist db.events
    rcases ActorDb.step_emits hdb with ⟨hev, -⟩ | ⟨ev, hev, -⟩
    · rw [emit_none hev, hev]
      exact hi
    · rw [emit_one hev, hev]
      exact Channel.trySend_sublist hi

/-- **A step loses a result** exactly when it finishes an operation with a full buffer. -/
theorem step_carries (hi : s.channel.accepted.Sublist s.db.events) (hs : s.step l = some s') :
    s'.channel.Carries ActorEvent.isResult s'.db.events ↔
      s.channel.Carries ActorEvent.isResult s.db.events ∧ Fits s l := by
  cases l with
  | recv =>
    obtain ⟨channel, hrecv, rfl⟩ := Option.map_eq_some_iff.mp hs
    have hfits : Fits s .recv := True.intro
    rw [and_iff_left hfits]
    unfold Channel.Carries
    show channel.accepted.filter _ = s.db.events.filter _ ↔ _
    rw [Channel.accepted_recv hrecv]
  | db l =>
    obtain ⟨db, hdb, rfl⟩ := Option.map_eq_some_iff.mp hs
    show (s.emit db).channel.Carries _ db.events ↔ _
    rcases ActorDb.step_emits hdb with ⟨hev, hfin⟩ | ⟨ev, hev, hfin⟩
    · have hfits : Fits s (.db l) := fun h => absurd (hfin.symm.trans h) Bool.false_ne_true
      rw [emit_none hev, hev, and_iff_left hfits]
    · rw [emit_one hev, hev, Channel.carries_trySend hi, hfin]
      rfl

/-- Whatever the actors and the node do in whatever order, **a drained node has received every
    result in order** exactly when no operation was finished with a full buffer. -/
theorem results_received {ls : List Label} (hr : run State.step .init ls = some s)
    (hd : s.channel.buffer = []) : s.Received ↔ Meets State.step Fits .init ls := by
  have hiff := holds_iff (C := Fits)
    (I := fun t : State => t.channel.accepted.Sublist t.db.events)
    (P := fun t : State => t.channel.Carries ActorEvent.isResult t.db.events)
    (fun _ _ _ => step_sublist) (fun _ _ _ => step_carries) hr (List.Sublist.refl [])
  have hinit : State.init.channel.Carries ActorEvent.isResult State.init.db.events := rfl
  rw [and_iff_right hinit] at hiff
  exact (Channel.carries_drained hd).symm.trans hiff

theorem reaches_db {ls : List Label} (hr : run State.step .init ls = some s) :
    Reaches ActorDb.step .init s.db := by
  refine run_induct (P := fun t : State => Reaches ActorDb.step .init t.db) ?_ hr ⟨[], rfl⟩
  rintro t l t' ⟨ks, hks⟩ hs
  cases l with
  | recv =>
    obtain ⟨channel, -, rfl⟩ := Option.map_eq_some_iff.mp hs
    exact ⟨ks, hks⟩
  | db l =>
    obtain ⟨db, hdb, rfl⟩ := Option.map_eq_some_iff.mp hs
    exact ⟨ks ++ [l], run_concat.mpr ⟨t.db, hks, hdb⟩⟩

/-! ## Bursts of operations -/

/-- A run of the database, with nothing received. -/
theorem run_db {ls : List Actors.Label} {db : ActorDb}
    (hr : run ActorDb.step s.db ls = some db) :
    ∃ s', run State.step s (ls.map .db) = some s' ∧ s'.db = db ∧
      ∃ new, db.events = s.db.events ++ new ∧
        s'.channel = new.foldl (Channel.trySend capacity) s.channel := by
  induction ls generalizing s with
  | nil =>
    obtain rfl : s.db = db := by simpa [run] using hr
    exact ⟨s, rfl, rfl, [], (List.append_nil _).symm, rfl⟩
  | cons l ls ih =>
    obtain ⟨t, ht, hr⟩ := run_cons.mp hr
    have hfirst : s.step (.db l) = some (s.emit t) := by
      show (s.db.step l).map s.emit = _
      rw [ht]
      rfl
    obtain ⟨s', hs', hdb, new, hnew, hchannel⟩ := ih (s := s.emit t) hr
    have hnew : db.events = t.events ++ new := hnew
    refine ⟨s', run_cons.mpr ⟨_, hfirst, hs'⟩, hdb, ?_⟩
    rcases ActorDb.step_emits ht with ⟨hev, -⟩ | ⟨ev, hev, -⟩
    · exact ⟨new, by rw [hnew, hev], by rw [hchannel, emit_none hev]⟩
    · refine ⟨ev :: new, by rw [hnew, hev, List.append_assoc]; rfl, ?_⟩
      rw [hchannel, emit_one hev]
      rfl

/-- Nothing is under way, nothing has been received, and of `n` results as many as fit are
    buffered. -/
structure Unread (n : Nat) (s : State) : Prop where
  formed : Formed s.db
  atRest : s.db.AtRest
  received : s.channel.received = []
  buffered : s.channel.buffer.length = min n capacity
  results : (s.db.events.filter ActorEvent.isResult).length = n

/-- One more operation is worked off. -/
theorem Unread.next {n : Nat} (h : Unread n s) (opId : OpId) (a : AccountId) (lim : Option Amount) :
    ∃ ls s', run State.step s ls = some s' ∧ Unread (n + 1) s' := by
  obtain ⟨r, c', res, err, hchain, hidle, -⟩ :=
    ActorStates.limitAccount_served h.formed.named h.atRest.idle opId a lim
  have hf : Formed (s.db.execute opId (.limitAccount a lim)) :=
    h.formed.step (l := .execute opId (.limitAccount a lim)) rfl
  obtain ⟨ls, db, -, hr, -, hdone⟩ :=
    (hchain.ends hf rfl (ActorDb.InFlight.execute h.atRest.quiescent opId _)).exists_run
  obtain ⟨s', hs', rfl, new, hnew, hchannel⟩ :=
    run_db (s := s) (run_cons.mpr ⟨_, (rfl : s.db.step (.execute opId (.limitAccount a lim)) = _), hr⟩)
  obtain rfl : new = [_] := List.append_cancel_left (hnew.symm.trans hdone.events)
  refine ⟨_, s', hs', hdone.formed, ⟨hdone.quiescent, hdone.states ▸ hidle⟩, ?_, ?_, ?_⟩
  · rw [hchannel]
    show (Channel.trySend capacity s.channel _).received = []
    unfold Channel.trySend
    split <;> exact h.received
  · rw [hchannel]
    show (Channel.trySend capacity s.channel _).buffer.length = _
    have hlen := h.buffered
    unfold Channel.trySend
    split
    · rw [List.length_append, List.length_singleton]
      omega
    · omega
  · rw [hnew, List.filter_append, List.length_append, h.results]
    rfl

/-- **A burst** of any length. -/
theorem exists_burst (n : Nat) : ∃ ls s, run State.step .init ls = some s ∧ Unread n s := by
  induction n with
  | zero =>
    have hquiet : ActorDb.init.Quiescent := ⟨rfl, fun _ => rfl, fun _ => rfl⟩
    exact ⟨[], .init, rfl, .init, ⟨hquiet, ⟨fun _ => rfl, fun _ => rfl, fun _ => rfl⟩⟩, rfl, rfl, rfl⟩
  | succ n ih =>
    obtain ⟨ls, s, hr, h⟩ := ih
    obtain ⟨ls', s', hr', h'⟩ := h.next (.ofNat (n + 1)) 1 none
    exact ⟨ls ++ ls', s', run_append.mpr ⟨s, hr, hr'⟩, h'⟩

/-- The node receives all that is buffered. -/
theorem exists_drain (s : State) : ∃ s', run State.step s
    (List.replicate s.channel.buffer.length .recv) = some s' ∧ s'.db = s.db ∧
      s'.channel.buffer = [] ∧ s'.channel.received = s.channel.received ++ s.channel.buffer := by
  obtain ⟨db, buffer, received⟩ := s
  induction buffer generalizing received with
  | nil => exact ⟨_, rfl, rfl, rfl, (List.append_nil _).symm⟩
  | cons x rest ih =>
    obtain ⟨s', hs', hdb, hbuffer, hreceived⟩ := ih (received ++ [x])
    refine ⟨s', run_cons.mpr ⟨⟨db, rest, received ++ [x]⟩, rfl, hs'⟩, hdb, hbuffer, ?_⟩
    rw [hreceived]
    exact List.append_assoc ..

/-- The labels of `n` limit changes of account 1, each worked off before the next. -/
def burst (n : Nat) : List Label :=
  (List.range n).flatMap fun i =>
    [.db (.execute (.ofNat (i + 1)) (.limitAccount 1 none)), .db .router, .db (.account 1),
      .db .router]

end Events

end

namespace Events

theorem results_received_example :
    ∃ s, run State.step .init (burst 2 ++ [.recv, .recv]) = some s ∧ s.db.Quiescent ∧
      s.channel.buffer = [] ∧ s.Received := by
  have hrun : (run State.step .init (burst 2 ++ [.recv, .recv])).any (fun s =>
      decide (s.db.Drained ∧ s.channel.buffer = [])) = true := by
    decide +kernel
  obtain ⟨s, hs, hp⟩ := (Option.any_eq_true _ _).mp hrun
  obtain ⟨hd, hbuf⟩ := of_decide_eq_true hp
  exact ⟨s, hs, quiescent_of_known (known_reaches (reaches_db hs)) hd, hbuf,
    (results_received hs hbuf).mpr (by decide +kernel)⟩

/-- **A burst of 129 operations loses a result**: the node receives nothing until the actors
    are at rest, and then 128 events. -/
theorem results_lost :
    ¬ ∀ ls s, run State.step .init ls = some s → s.db.Quiescent → s.channel.buffer = [] →
      s.Received := by
  intro hall
  obtain ⟨ls, s, hr, h⟩ : ∃ ls s, run State.step .init ls = some s ∧ Unread 129 s := exists_burst 129
  obtain ⟨s', hr', hdb, hbuffer, hreceived⟩ := exists_drain s
  have hres := hall _ s' (run_append.mpr ⟨s, hr, hr'⟩) (hdb ▸ h.atRest.quiescent) hbuffer
  have hle := List.length_filter_le ActorEvent.isResult s'.channel.received
  have hbuffered : s.channel.buffer.length = 128 := h.buffered
  have hresults := h.results
  rw [State.Received, hdb] at hres
  rw [← hres] at hresults
  rw [hreceived, h.received, List.nil_append, hbuffered] at hle
  rw [hreceived, h.received, List.nil_append] at hresults
  omega

end Events

end YpfRuta.Actors
