/-
  The messages in flight as one list. Only the order inside a mailbox matters, so
  a step takes any message that is the first one for its addressee, and puts what
  the addressee sends behind the rest. Everything one command sets off is then a
  short list of messages, followed from step to step.
-/
import YpfRuta.Actors.Known

namespace YpfRuta.Actors

open Lib

variable {Amount : Type} [Currency Amount]

/-! ## What every reachable state meets -/

/-- A message that makes the router hit an `expect`, whatever the operation. -/
def ActorRouter.Breaks : RouterMsg → Prop
  | .operationCompleted _ success error => success = false ∧ error = none
  | _ => False

theorem ActorRouter.completedResult_eq_none {o : Operation Amount} {b : Bool}
    {e : Option VerifyError} (h : completedResult o b e = none) : b = false ∧ e = none := by
  cases o <;> cases b <;> cases e <;>
    simp [completedResult, chargeResult, limitResult] at h ⊢

theorem ActorRouter.getOrCreateCard_panicked (r : ActorRouter) (a : AccountId) (c : CardId) :
    (r.getOrCreateCard a c).panicked = r.panicked := by
  unfold getOrCreateCard
  split <;> rfl

theorem ActorRouter.foldl_panicked {β : Type} {f : ActorRouter → β → ActorRouter}
    (hf : ∀ r x, (f r x).panicked = r.panicked) (xs : List β) (r : ActorRouter) :
    (xs.foldl f r).panicked = r.panicked := by
  induction xs generalizing r with
  | nil => rfl
  | cons x xs ih => rw [List.foldl_cons, ih, hf]

theorem ActorRouter.execute_panicked (r : ActorRouter) (n : OpId) (o : Operation Amount) :
    (r.execute n o).1.panicked = r.panicked := by
  cases o with
  | charge a c amount off => exact getOrCreateCard_panicked _ a c
  | limitCard a c lim => exact getOrCreateCard_panicked _ a c
  | limitAccount a lim => rfl
  | accountQuery a => rfl
  | bill a period => rfl
  | getDatabase addr =>
    simp only [execute, executeGetDatabase]
    split <;> rfl
  | replaceDatabase snapshot =>
    have hcards := foldl_panicked (f := fun r (x : CardSnapshot Amount) =>
      r.getOrCreateCard x.accountId x.cardId) (fun r x => getOrCreateCard_panicked r _ _)
    have haccounts := foldl_panicked (f := fun r (x : AccountSnapshot Amount) =>
      r.getOrCreateAccount x.accountId) (fun _ _ => rfl)
    exact (hcards _ _).trans (haccounts _ _)

theorem ActorRouter.tryCompleteDbSnapshot_panicked (r : ActorRouter) (n : OpId) :
    (r.tryCompleteDbSnapshot n).1.panicked = r.panicked := by
  unfold tryCompleteDbSnapshot
  split
  · rfl
  · dsimp only
    split
    · split <;> rfl
    · rfl

/-- Only a failure without an error makes the router panic. -/
theorem ActorRouter.handle_panicked {r : ActorRouter} {m : RouterMsg} (hr : r.panicked = false)
    (hm : ¬ Breaks m) : (r.handle m).1.panicked = false := by
  cases m with
  | execute n o => rw [handle, execute_panicked, hr]
  | operationCompleted n b e =>
    simp only [handle, operationCompleted]
    split
    · exact hr
    · split
      · exact hr
      · rename_i hres
        exact absurd (completedResult_eq_none hres) hm
  | accountQueryCompleted n a t l =>
    simp only [handle, accountQueryCompleted]
    split <;> exact hr
  | accountSnapshotCollected n x =>
    simp only [handle, accountSnapshotCollected]
    split
    · rw [tryCompleteDbSnapshot_panicked]
      exact hr
    · exact hr
  | cardSnapshotCollected n x =>
    simp only [handle, cardSnapshotCollected]
    split
    · rw [tryCompleteDbSnapshot_panicked]
      exact hr
    · exact hr
  | _ => exact hr

/-- The actors carry their own names, the router knows every actor that ever ran,
    and it has not panicked. -/
structure Formed (s : ActorDb) : Prop where
  origin : (originInv fun _ _ => True).Holds s
  known : Known s
  alive : s.router.panicked = false

namespace Formed

variable {s s' : ActorDb} {l : Label}

theorem init : Formed ActorDb.init := ⟨origin_init, Known.init, rfl⟩

/-- Whatever is on its way to the router comes with an error when it failed. -/
theorem not_breaks {K : OpId → Operation Amount → Prop} {m : RouterMsg}
    (h : routerMsgOrigin K m) : ¬ ActorRouter.Breaks m := by
  intro hb
  cases m with
  | operationCompleted n b e =>
    obtain ⟨o, -, -, hout⟩ := h
    exact (hout hb.1).1 hb.2
  | _ => exact hb

theorem step (hf : Formed s) (h : s.step l = some s') : Formed s' where
  origin := origin_preserved.step (LocalInv.trivial_holds s) hf.origin
    (fun _ _ _ => True.intro) h
  known := hf.known.step hf.origin h
  alive := by
    obtain ⟨n, o, rfl, rfl⟩ | ⟨m, rest, rfl, hbox, -, rfl⟩ | ⟨a, m, rest, rfl, -, rfl⟩ |
      ⟨k, m, rest, rfl, -, rfl⟩ := ActorDb.step_cases h
    · exact hf.alive
    · have hm := hf.origin.routerBox m (by rw [hbox]; exact List.mem_cons_self)
      exact ActorRouter.handle_panicked hf.alive (not_breaks hm)
    · exact hf.alive
    · exact hf.alive

/-- Every reachable state is well formed. -/
theorem reaches (hr : Reaches ActorDb.step ActorDb.init s) : Formed s :=
  hr.induct (fun _ _ _ hf h => hf.step h) init

end Formed

/-! ## Mailboxes by addressee -/

/-- Where a send goes. -/
inductive Dest where
  | router
  | account (a : AccountId)
  | card (k : CardKey)
  | node
  deriving DecidableEq, Repr

def Send.dest : Send → Dest
  | .router _ => .router
  | .account a _ => .account a
  | .card k _ => .card k
  | .event _ => .node

/-- The messages of `xs` for `d`, in order. -/
def mailFor (d : Dest) (xs : List Send) : List Send := xs.filter fun x => x.dest = d

@[simp] theorem mailFor_nil (d : Dest) : mailFor d [] = [] := rfl

@[simp] theorem mailFor_append (d : Dest) (xs ys : List Send) :
    mailFor d (xs ++ ys) = mailFor d xs ++ mailFor d ys := List.filter_append ..

theorem mailFor_cons_self (x : Send) (xs : List Send) :
    mailFor x.dest (x :: xs) = x :: mailFor x.dest xs := by
  simp [mailFor]

theorem mailFor_cons_of_ne {d : Dest} {x : Send} (h : x.dest ≠ d) (xs : List Send) :
    mailFor d (x :: xs) = mailFor d xs := by
  simp [mailFor, h]

theorem mailFor_eq_nil {d : Dest} {xs : List Send} (h : ∀ x ∈ xs, x.dest ≠ d) :
    mailFor d xs = [] := by
  simpa [mailFor, List.filter_eq_nil_iff] using h

/-- An event is in no mailbox. -/
theorem mailFor_event {d : Dest} (hd : d ≠ .node) (e : ActorEvent) :
    mailFor d [.event e] = [] := by
  rw [mailFor_cons_of_ne (Ne.symm hd)]
  rfl

/-- A label of an actor. The node's commands are not among them. -/
def Label.Internal : Label → Prop
  | .execute .. => False
  | _ => True

/-- The actor a label lets handle a message. -/
def Label.dest : Label → Dest
  | .execute .. => .node
  | .router => .router
  | .account a => .account a
  | .card k => .card k

theorem Label.Internal.of_dest {l : Label} (h : l.dest ≠ .node) : l.Internal := by
  cases l with
  | execute n o => exact h rfl
  | _ => exact True.intro

/-- The states of the actors, without their mailboxes. -/
structure ActorStates where
  router : ActorRouter
  account : AccountId → AccountActor
  card : CardKey → CardActor

/-- The addressee of a send handles it. -/
def ActorStates.handle (c : ActorStates) : Send → ActorStates × List Send
  | .router m => ({ c with router := (c.router.handle m).1 }, (c.router.handle m).2)
  | .account a m =>
    ({ c with account := Function.update c.account a ((c.account a).handle m).1 },
      ((c.account a).handle m).2)
  | .card k m =>
    ({ c with card := Function.update c.card k ((c.card k).handle m).1 },
      ((c.card k).handle m).2)
  | .event _ => (c, [])

namespace ActorDb

def states (s : ActorDb) : ActorStates := ⟨s.router, s.account, s.card⟩

def mailbox (s : ActorDb) : Dest → List Send
  | .router => s.routerBox.map .router
  | .account a => (s.accountBox a).map (.account a)
  | .card k => (s.cardBox k).map (.card k)
  | .node => []

/-- The message the actor of a label handles next. -/
def next (s : ActorDb) (l : Label) : Option Send := (s.mailbox l.dest).head?

theorem map_toRouter (xs : List Send) :
    (xs.filterMap Send.toRouter?).map Send.router = mailFor .router xs := by
  induction xs with
  | nil => rfl
  | cons x xs ih =>
    by_cases hx : x.dest = .router
    · obtain ⟨m, rfl⟩ : ∃ m, x = .router m := by
        cases x <;> simp [Send.dest] at hx
        exact ⟨_, rfl⟩
      have hcons := mailFor_cons_self (.router m) xs
      rw [hx] at hcons
      rw [hcons, ← ih]
      rfl
    · rw [mailFor_cons_of_ne hx, ← ih, List.filterMap_cons_none]
      cases x <;> first | rfl | exact absurd rfl hx

theorem map_toAccount (a : AccountId) (xs : List Send) :
    (xs.filterMap (Send.toAccount? a)).map (Send.account a) = mailFor (.account a) xs := by
  induction xs with
  | nil => rfl
  | cons x xs ih =>
    by_cases hx : x.dest = .account a
    · obtain ⟨m, rfl⟩ : ∃ m, x = .account a m := by
        cases x <;> simp [Send.dest] at hx
        exact ⟨_, by rw [hx]⟩
      have hcons := mailFor_cons_self (.account a m) xs
      rw [hx] at hcons
      rw [hcons, ← ih]
      simp [Send.toAccount?]
    · rw [mailFor_cons_of_ne hx, ← ih, List.filterMap_cons_none]
      cases x with
      | account b m => exact if_neg fun he => hx (by rw [Send.dest, he])
      | _ => rfl

theorem map_toCard (k : CardKey) (xs : List Send) :
    (xs.filterMap (Send.toCard? k)).map (Send.card k) = mailFor (.card k) xs := by
  induction xs with
  | nil => rfl
  | cons x xs ih =>
    by_cases hx : x.dest = .card k
    · obtain ⟨m, rfl⟩ : ∃ m, x = .card k m := by
        cases x <;> simp [Send.dest] at hx
        exact ⟨_, by rw [hx]⟩
      have hcons := mailFor_cons_self (.card k m) xs
      rw [hx] at hcons
      rw [hcons, ← ih]
      simp [Send.toCard?]
    · rw [mailFor_cons_of_ne hx, ← ih, List.filterMap_cons_none]
      cases x with
      | card j m => exact if_neg fun he => hx (by rw [Send.dest, he])
      | _ => rfl

theorem mailbox_deliver (s : ActorDb) (sends : List Send) {d : Dest} (hd : d ≠ .node) :
    (s.deliver sends).mailbox d = s.mailbox d ++ mailFor d sends := by
  cases d with
  | router => rw [← map_toRouter]; exact List.map_append
  | account a => rw [← map_toAccount]; exact List.map_append
  | card k => rw [← map_toCard]; exact List.map_append
  | node => exact absurd rfl hd

/-- A turn of an actor is no command. -/
theorem step_commands_internal {s s' : ActorDb} {l : Label} (hl : l.Internal)
    (h : s.step l = some s') : s'.commands = s.commands := by
  obtain ⟨n, o, rfl, -⟩ | ⟨m, rest, rfl, -, -, rfl⟩ | ⟨a, m, rest, rfl, -, rfl⟩ |
    ⟨k, m, rest, rfl, -, rfl⟩ := step_cases h
  · exact hl.elim
  · rfl
  · rfl
  · rfl

/-- **One step of an actor**: the head of one mailbox is handled, and what it sets
    off goes to the ends of the others. -/
theorem step_mailbox {s s' : ActorDb} {l : Label} (hl : l.Internal) (h : s.step l = some s') :
    ∃ x rest, x.dest ≠ .node ∧ x.dest = l.dest ∧ s.mailbox x.dest = x :: rest ∧
      s'.states = (s.states.handle x).1 ∧
      s'.events = s.events ++ (s.states.handle x).2.filterMap Send.toNode? ∧
      ∀ d, d ≠ .node →
        s'.mailbox d = (if d = x.dest then rest else s.mailbox d) ++
          mailFor d (s.states.handle x).2 := by
  obtain ⟨n, o, rfl, rfl⟩ | ⟨m, rest, rfl, hbox, -, rfl⟩ | ⟨a, m, rest, rfl, hbox, rfl⟩ |
    ⟨k, m, rest, rfl, hbox, rfl⟩ := step_cases h
  · exact hl.elim
  · refine ⟨.router m, rest.map .router, by simp [Send.dest], rfl,
      by simp [mailbox, Send.dest, hbox], rfl, rfl, ?_⟩
    intro d hd
    rw [routerStep, mailbox_deliver _ _ hd]
    cases d <;> simp [mailbox, Send.dest, states, ActorStates.handle]
  · refine ⟨.account a m, rest.map (.account a), by simp [Send.dest], rfl,
      by simp [mailbox, Send.dest, hbox], rfl, rfl, ?_⟩
    intro d hd
    rw [accountStep, mailbox_deliver _ _ hd]
    cases d with
    | account b =>
      by_cases hb : b = a
      · subst hb
        simp [mailbox, Send.dest, states, ActorStates.handle]
      · simp [mailbox, Send.dest, states, ActorStates.handle, hb]
    | _ => simp [mailbox, Send.dest, states, ActorStates.handle]
  · refine ⟨.card k m, rest.map (.card k), by simp [Send.dest], rfl,
      by simp [mailbox, Send.dest, hbox], rfl, rfl, ?_⟩
    intro d hd
    rw [cardStep, mailbox_deliver _ _ hd]
    cases d with
    | card j =>
      by_cases hj : j = k
      · subst hj
        simp [mailbox, Send.dest, states, ActorStates.handle]
      · simp [mailbox, Send.dest, states, ActorStates.handle, hj]
    | _ => simp [mailbox, Send.dest, states, ActorStates.handle]

/-- A message in a mailbox lets its addressee take a step. -/
theorem step_enabled {s : ActorDb} (hs : s.router.panicked = false) {d : Dest}
    (hd : s.mailbox d ≠ []) : ∃ l : Label, l.Internal ∧ (s.step l).isSome := by
  cases d with
  | router =>
    cases hbox : s.routerBox with
    | nil => simp [mailbox, hbox] at hd
    | cons m rest => exact ⟨.router, True.intro, by simp [step, hbox, hs]⟩
  | account a =>
    cases hbox : s.accountBox a with
    | nil => simp [mailbox, hbox] at hd
    | cons m rest => exact ⟨.account a, True.intro, by simp [step, hbox]⟩
  | card k =>
    cases hbox : s.cardBox k with
    | nil => simp [mailbox, hbox] at hd
    | cons m rest => exact ⟨.card k, True.intro, by simp [step, hbox]⟩
  | node => exact absurd rfl hd

/-! ## The messages in flight -/

/-- The mailboxes hold exactly the messages of `flight`. -/
def InFlight (s : ActorDb) (flight : List Send) : Prop :=
  ∀ d, d ≠ .node → s.mailbox d = mailFor d flight

theorem quiescent_iff {s : ActorDb} : s.Quiescent ↔ s.InFlight [] := by
  constructor
  · intro h d hd
    cases d with
    | router => simp [mailbox, h.router]
    | account a => simp [mailbox, h.account]
    | card k => simp [mailbox, h.card]
    | node => exact absurd rfl hd
  · intro h
    refine ⟨?_, fun a => ?_, fun k => ?_⟩
    · simpa [mailbox] using h .router (by simp)
    · simpa [mailbox] using h (.account a) (by simp)
    · simpa [mailbox] using h (.card k) (by simp)

theorem Quiescent.stuck {s : ActorDb} (h : s.Quiescent) : Stuck step Label.Internal s := by
  intro l hl
  cases l with
  | execute n o => exact hl.elim
  | router => simp [step, h.router]
  | account a => simp [step, h.account]
  | card k => simp [step, h.card]

/-- The order of messages to different addressees does not matter. -/
theorem InFlight.reorder {s : ActorDb} {xs ys : List Send} (h : s.InFlight xs)
    (hxy : ∀ d, d ≠ .node → mailFor d xs = mailFor d ys) : s.InFlight ys :=
  fun d hd => (h d hd).trans (hxy d hd)

/-- A command joins the messages in flight. -/
theorem InFlight.command {s : ActorDb} {flight : List Send} (h : s.InFlight flight) (n : OpId)
    (o : Operation Amount) : (s.execute n o).InFlight (flight ++ [.router (.execute n o)]) := by
  intro d hd
  rw [mailFor_append, ← h d hd]
  cases d with
  | router => simp [mailbox, ActorDb.execute, mailFor, Send.dest]
  | account a => simp [mailbox, ActorDb.execute, mailFor, Send.dest]
  | card k => simp [mailbox, ActorDb.execute, mailFor, Send.dest]
  | node => exact absurd rfl hd

theorem InFlight.execute {s : ActorDb} (h : s.Quiescent) (n : OpId) (o : Operation Amount) :
    (s.execute n o).InFlight [.router (.execute n o)] :=
  (quiescent_iff.mp h).command n o

theorem InFlight.mem_card {s : ActorDb} {flight : List Send} (h : s.InFlight flight) {k : CardKey}
    {m : CardMsg} (hm : m ∈ s.cardBox k) : .card k m ∈ flight := by
  have hbox : Send.card k m ∈ s.mailbox (.card k) := List.mem_map_of_mem hm
  rw [h (.card k) (by simp)] at hbox
  exact (List.mem_filter.mp hbox).1

theorem InFlight.mem_router {s : ActorDb} {flight : List Send} (h : s.InFlight flight)
    {m : RouterMsg} (hm : m ∈ s.routerBox) : .router m ∈ flight := by
  have hbox : Send.router m ∈ s.mailbox .router := List.mem_map_of_mem hm
  rw [h .router (by simp)] at hbox
  exact (List.mem_filter.mp hbox).1

/-- **A step takes a message that is the first one for its addressee.** -/
theorem InFlight.step {s s' : ActorDb} {l : Label} {flight : List Send} (hfl : s.InFlight flight)
    (hl : l.Internal) (h : s.step l = some s') :
    ∃ pre x post, flight = pre ++ x :: post ∧ x.dest ≠ .node ∧ s.next l = some x ∧
      (∀ y ∈ pre, y.dest ≠ x.dest) ∧
      s'.states = (s.states.handle x).1 ∧
      s'.events = s.events ++ (s.states.handle x).2.filterMap Send.toNode? ∧
      s'.InFlight (pre ++ post ++ (s.states.handle x).2) := by
  obtain ⟨x, rest, hx, hdest, hbox, hst, hev, hmail⟩ := step_mailbox hl h
  have hnext : s.next l = some x := by
    unfold next
    rw [← hdest, hbox]
    rfl
  have hfirst : mailFor x.dest flight = x :: rest := (hfl _ hx).symm.trans hbox
  obtain ⟨pre, post, rfl, hpre, -, rfl⟩ := List.filter_eq_cons_iff.mp hfirst
  have hne : ∀ y ∈ pre, y.dest ≠ x.dest := by simpa using hpre
  refine ⟨pre, x, post, rfl, hx, hnext, hne, hst, hev, ?_⟩
  intro d hd
  rw [hmail d hd]
  by_cases hdx : d = x.dest
  · subst hdx
    rw [if_pos rfl, mailFor_append, mailFor_append, mailFor_eq_nil hne]
    rfl
  · rw [if_neg hdx, hfl d hd, mailFor_append, mailFor_append, mailFor_append,
      mailFor_cons_of_ne (Ne.symm hdx)]

theorem InFlight.enabled {s : ActorDb} (hs : s.router.panicked = false) {flight : List Send}
    (hfl : s.InFlight flight) {x : Send} (hx : x ∈ flight) (hd : x.dest ≠ .node) :
    ∃ l : Label, l.Internal ∧ (s.step l).isSome := by
  refine step_enabled hs (d := x.dest) ?_
  rw [hfl _ hd]
  exact List.ne_nil_of_mem (List.mem_filter.mpr ⟨hx, by simp⟩)

/-- Whatever the actors do from `s` on, they come to rest, and then `Q` holds. -/
def Settles (s : ActorDb) (Q : ActorDb → Prop) : Prop :=
  ∃ bound, ∀ ls s', (∀ l ∈ ls, Label.Internal l) → run ActorDb.step s ls = some s' →
    ls.length ≤ bound ∧ (s'.Quiescent ∨ ∃ l : Label, l.Internal ∧ (s'.step l).isSome) ∧
    (s'.Quiescent → Q s')

/-- Nothing but an empty set of mailboxes stops the actors. -/
theorem quiescent_of_stuck {s : ActorDb} (hs : s.router.panicked = false)
    (h : Stuck step Label.Internal s) : s.Quiescent := by
  rw [quiescent_iff]
  intro d hd
  by_contra hne
  obtain ⟨l, hl, hsome⟩ := step_enabled hs (d := d) hne
  rw [h l hl] at hsome
  cases hsome

theorem settles_of_ends {s : ActorDb} {Q : ActorDb → Prop} {r : Nat} (hf : Formed s)
    (h : Ends ActorDb.step Label.Internal Q r s) : s.Settles Q := by
  refine ⟨r, fun ls s' hls hr => ?_⟩
  obtain ⟨r', hle, h'⟩ := h.run hls hr
  have hf' : Formed s' := run_induct (P := Formed) (fun _ _ _ hf hstep => hf.step hstep) hr hf
  refine ⟨by omega, ?_, fun hq => h'.stuck hq.stuck⟩
  rcases h'.enabled with hs | hl
  · exact .inl (quiescent_of_stuck hf'.alive hs)
  · exact .inr hl

/-- **A single message in flight** is the one that is handled next. -/
theorem InFlight.single {s : ActorDb} {x : Send} {Q : ActorDb → Prop} {r : Nat}
    (hfl : s.InFlight [x]) (hf : Formed s) (hx : x.dest ≠ .node)
    (h : ∀ s', Formed s' → s'.states = (s.states.handle x).1 →
      s'.events = s.events ++ (s.states.handle x).2.filterMap Send.toNode? →
      s'.InFlight (s.states.handle x).2 → Ends ActorDb.step Label.Internal Q r s') :
    Ends ActorDb.step Label.Internal Q (r + 1) s := by
  refine .next (hfl.enabled hf.alive List.mem_cons_self hx) fun l s' hl hstep => ?_
  obtain ⟨pre, y, post, heq, -, -, -, hst, hev, hfl'⟩ := hfl.step hl hstep
  obtain ⟨rfl, rfl, rfl⟩ : pre = [] ∧ y = x ∧ post = [] := by
    cases pre with
    | nil => simpa [eq_comm] using heq
    | cons z pre => simp at heq
  exact h s' (hf.step hstep) hst hev (by simpa using hfl')

end ActorDb

end YpfRuta.Actors
