/-
  A snapshot of a database at rest, with more commands behind it. The router asks everybody
  it knows before it takes up the next command, and what that one sets off reaches an actor
  behind the question: every actor hands out what it held when the router asked.
-/
import YpfRuta.Actors.Snapshots

namespace YpfRuta.Actors

open Lib

variable {Amount : Type} [Currency Amount]

/-- The mailbox in which a source is asked for its part. -/
def placeOf : Source → Dest
  | .inl a => .account a
  | .inr k => .card k

/-- The accounts and cards listed are the parts they have in `c`. -/
def OfParts (c : ActorStates) (accounts : List (AccountSnapshot Amount))
    (cards : List (CardSnapshot Amount)) : Prop :=
  (∀ y ∈ accounts, y = accountPart c y.accountId) ∧ ∀ y ∈ cards, y = cardPart c (CardSnapshot.key y)

/-- A snapshot under `n` is collected of the actors as they are in `c`: who has yet to answer
    does so next, and has the part it has there. -/
structure Shown (n : OpId) (c : ActorStates) (s : ActorDb) : Prop where
  asked : ∀ x, requestTo n x ∈ s.mailbox (placeOf x) →
    (∃ rest, s.mailbox (placeOf x) = requestTo n x :: rest ∧ requestTo n x ∉ rest) ∧
      partMsg s.states n x = partMsg c n x
  part : ∀ m x, .router m ∈ s.mailbox .router → (Send.router m).source? n = some x →
    m = partMsg c n x
  gathered : ∀ p, s.router.pendingDbSnapshots n = some p → OfParts c p.accounts p.cards

section Handled

variable {n : OpId} {c c₀ : ActorStates} {x : Source} {y : Send}

theorem requestTo_dest (n : OpId) (x : Source) : (requestTo n x).dest = placeOf x := by
  cases x <;> rfl

theorem requestTo_source (n : OpId) (x : Source) : (requestTo n x).source? n = some x := by
  cases x <;> exact if_pos rfl

theorem placeOf_injective : Function.Injective placeOf := by
  intro x z h
  cases x <;> cases z <;> cases h <;> rfl

/-- Only a command for a snapshot makes the router ask anybody. -/
theorem handle_asks_nobody (c : ActorStates)
    (hget : ∀ n' addr, y ≠ .router (.execute n' (.getDatabase addr))) (x : Source) :
    requestTo n x ∉ (c.handle y).2 := by
  intro hmem
  cases y with
  | router m =>
    have hsilent : Silent n (c.router.handle m).2 :=
      ActorRouter.handle_silent_of_ne c.router fun n' addr he => hget n' addr (he ▸ rfl)
    have hnone := List.filterMap_eq_nil_iff.mp hsilent _ hmem
    rw [requestTo_source] at hnone
    cases hnone
  | account a m =>
    have hemits := AccountActor.handle_emits (c.account a) m _ hmem
    cases x <;> cases hemits
  | card k m =>
    have hemits := CardActor.handle_emits (c.card k) m _ hmem
    generalize hz : requestTo n x = z at hemits
    cases hemits <;> cases x <;> cases hz
  | event e => cases hmem

/-- What reaches the router for a snapshot is the part of whoever was asked. -/
theorem handle_parts (hn : c.Named) {m : RouterMsg}
    (hget : ∀ n' addr, y ≠ .router (.execute n' (.getDatabase addr)))
    (hmem : .router m ∈ (c.handle y).2) (hx : (Send.router m).source? n = some x) :
    y = requestTo n x ∧ m = partMsg c n x := by
  have hsome : ∀ {z : Source}, (c.handle y).2.filterMap (Send.source? n) = (some z).toList →
      z = x := by
    intro z hz
    have hin : x ∈ (c.handle y).2.filterMap (Send.source? n) :=
      List.mem_filterMap.mpr ⟨_, hmem, hx⟩
    rw [hz] at hin
    exact (List.mem_singleton.mp hin).symm
  have hnone : (c.handle y).2.filterMap (Send.source? n) ≠ [] := by
    intro he
    rw [List.filterMap_eq_nil_iff.mp he _ hmem] at hx
    cases hx
  cases y with
  | router m' =>
    exact absurd (ActorRouter.handle_silent_of_ne c.router fun n' addr he => hget n' addr (he ▸ rfl))
      hnone
  | account a m' =>
    have hsource : (c.handle (.account a m')).2.filterMap (Send.source? n) = _ :=
      AccountActor.handle_source (n := n) (hn.accountId a) m'
    cases m' with
    | getSnapshot n' =>
      by_cases hid : n' = n
      · subst hid
        rw [show (Send.account a (.getSnapshot n')).source? n' = some (.inl a) from if_pos rfl]
          at hsource
        obtain rfl := hsome hsource
        refine ⟨rfl, ?_⟩
        have hm := Send.router.inj (List.mem_singleton.mp hmem)
        simp only [hm, partMsg, accountPart, hn.accountId a]
      · rw [show (Send.account a (.getSnapshot n')).source? n = none from if_neg hid] at hsource
        exact absurd hsource hnone
    | _ => exact absurd hsource hnone
  | card k m' =>
    have hsource : (c.handle (.card k m')).2.filterMap (Send.source? n) = _ :=
      CardActor.handle_source (n := n) (hn.cardId k).1 (hn.cardId k).2 m'
    cases m' with
    | getSnapshot n' =>
      by_cases hid : n' = n
      · subst hid
        rw [show (Send.card k (.getSnapshot n')).source? n' = some (.inr k) from if_pos rfl]
          at hsource
        obtain rfl := hsome hsource
        refine ⟨rfl, ?_⟩
        have hm := Send.router.inj (List.mem_singleton.mp hmem)
        simp only [hm, partMsg, cardPart, (hn.cardId k).1, (hn.cardId k).2]
      · rw [show (Send.card k (.getSnapshot n')).source? n = none from if_neg hid] at hsource
        exact absurd hsource hnone
    | _ => exact absurd hsource hnone
  | event e => cases hmem

/-- An actor's part changes only when it handles a message itself. -/
theorem partMsg_handle (h : placeOf x ≠ y.dest) : partMsg (c.handle y).1 n x = partMsg c n x := by
  cases y with
  | router m => cases x <;> rfl
  | account a m =>
    cases x with
    | inl b =>
      have hb : b ≠ a := fun he => h (he ▸ rfl)
      simp only [partMsg, accountPart, ActorStates.handle, Function.update_of_ne hb]
    | inr k => rfl
  | card k m =>
    cases x with
    | inl b => rfl
    | inr j =>
      have hj : j ≠ k := fun he => h (he ▸ rfl)
      simp only [partMsg, cardPart, ActorStates.handle, Function.update_of_ne hj]
  | event e => rfl

end Handled

section Steps

variable {n : OpId} {c : ActorStates} {s s' : ActorDb} {l : Label}

/-- The router handles a message while a snapshot is collected. -/
theorem Shown.collects (h : Shown n c s)
    (hothers : ∀ n', n' ≠ n → s.router.pendingDbSnapshots n' = none) {m : RouterMsg}
    {rest : List Send} (hget : ∀ n' addr, Send.router m ≠ .router (.execute n' (.getDatabase addr)))
    (hbox : s.mailbox (Send.router m).dest = .router m :: rest) :
    ActorRouter.Collects (fun y => y = accountPart c y.accountId)
      (fun y => y = cardPart c (CardSnapshot.key y)) n (s.router.handle m) := by
  have hmem : .router m ∈ s.mailbox .router := by
    rw [show Dest.router = (Send.router m).dest from rfl, hbox]
    exact List.mem_cons_self
  refine ActorRouter.handle_collects h.gathered hothers (fun n' addr he => hget n' addr (he ▸ rfl))
    (fun y he => ?_) fun y he => ?_
  · subst he
    exact (RouterMsg.accountSnapshotCollected.inj (h.part _ (.inl y.accountId) hmem (if_pos rfl))).2
  · subst he
    exact (RouterMsg.cardSnapshotCollected.inj
      (h.part _ (.inr (CardSnapshot.key y)) hmem (if_pos rfl))).2

/-- **A step of an actor** while a snapshot is collected. What is reported is made of the
    parts, too. -/
theorem Shown.step (h : Shown n c s) (hf : Formed s)
    (hothers : ∀ n', n' ≠ n → s.router.pendingDbSnapshots n' = none) (hl : l.Internal)
    (hget : ∀ n' addr, s.next l ≠ some (.router (.execute n' (.getDatabase addr))))
    (hs : s.step l = some s') :
    Shown n c s' ∧ ∃ new, s'.events = s.events ++ new ∧
      ∀ v ∈ new.filterMap ActorEvent.view?, OfParts c v.2.accounts v.2.cards := by
  obtain ⟨y, rest, hdest, hlabel, hbox, hst, hev, hmail⟩ := ActorDb.step_mailbox hl hs
  have hnext : s.next l = some y := by
    unfold ActorDb.next
    rw [← hlabel, hbox]
    rfl
  have hget : ∀ n' addr, y ≠ .router (.execute n' (.getDatabase addr)) := by
    rintro n' addr rfl
    exact hget n' addr hnext
  have hplace : ∀ x, placeOf x ≠ .node := by
    intro x
    cases x <;> nofun
  have hold : ∀ x, requestTo n x ∈ s'.mailbox (placeOf x) →
      placeOf x ≠ y.dest ∧ requestTo n x ∈ s.mailbox (placeOf x) := by
    intro x hx
    rw [hmail _ (hplace x)] at hx
    have hin := (List.mem_append.mp hx).resolve_right fun hnew =>
      handle_asks_nobody s.states hget x (List.mem_filter.mp hnew).1
    by_cases hd : placeOf x = y.dest
    · -- the question is the next message of its actor, and there is no other
      rw [if_pos hd] at hin
      rw [← hd] at hbox
      obtain ⟨⟨rest', hfirst, hnot⟩, -⟩ := h.asked x (hbox ▸ List.mem_cons_of_mem y hin)
      rw [hbox] at hfirst
      rw [← (List.cons.inj hfirst).2] at hnot
      exact absurd hin hnot
    · rw [if_neg hd] at hin
      exact ⟨hd, hin⟩
  have hrouter : s'.router = (s.states.handle y).1.router := congrArg ActorStates.router hst
  refine ⟨⟨fun x hx => ?_, fun m x hm hx => ?_, fun p hp => ?_⟩, _, hev, ?_⟩
  · obtain ⟨hd, hin⟩ := hold x hx
    obtain ⟨⟨rest', hfirst, hnot⟩, hpart⟩ := h.asked x hin
    refine ⟨⟨rest' ++ mailFor (placeOf x) (s.states.handle y).2, ?_, ?_⟩, ?_⟩
    · rw [hmail _ (hplace x), if_neg hd, hfirst]
      rfl
    · rw [List.mem_append, not_or]
      exact ⟨hnot, fun hnew => handle_asks_nobody s.states hget x (List.mem_filter.mp hnew).1⟩
    · rw [hst, partMsg_handle hd, hpart]
  · rw [hmail _ (by nofun)] at hm
    rcases List.mem_append.mp hm with hm | hm
    · refine h.part m x ?_ hx
      by_cases hd : Dest.router = y.dest
      · rw [if_pos hd] at hm
        rw [hd, hbox]
        exact List.mem_cons_of_mem y hm
      · rw [if_neg hd] at hm
        exact hm
    · obtain ⟨rfl, rfl⟩ := handle_parts hf.named hget (List.mem_filter.mp hm).1 hx
      rw [requestTo_dest] at hbox
      exact (h.asked x (hbox ▸ List.mem_cons_self)).2
  · rw [hrouter] at hp
    cases y with
    | router m => exact (h.collects hothers hget hbox).pending p hp
    | _ => exact h.gathered p hp
  · intro v hv
    cases y with
    | router m => exact (h.collects hothers hget hbox).views v hv
    | account a m =>
      rw [show (s.states.handle (.account a m)).2.filterMap Send.toNode? = [] from
        AccountActor.handle_toNode _ m] at hv
      cases hv
    | card k m =>
      rw [show (s.states.handle (.card k m)).2.filterMap Send.toNode? = [] from
        CardActor.handle_toNode _ m] at hv
      cases hv
    | event e => exact absurd rfl hdest

/-! ## From the command to the snapshot -/

/-- The command for the snapshot is the router's next one, every actor is as in `c`, and
    nothing else is under way but what comes behind the command. -/
structure Waiting (n : OpId) (addr : SocketAddr) (c : ActorStates) (s : ActorDb) : Prop where
  router : ∃ rest, s.routerBox = .execute n (.getDatabase addr) :: rest ∧
    ∀ n', .execute n' (.getDatabase addr) ∉ rest
  account : ∀ a, s.accountBox a = []
  card : ∀ k, s.cardBox k = []
  states : s.states = c

/-- The router has handled the command, and collects the snapshot or has reported it. -/
structure Asked (n : OpId) (addr : SocketAddr) (c : ActorStates) (asked : List Ask) (s : ActorDb) :
    Prop where
  router : ∀ n', .execute n' (.getDatabase addr) ∉ s.routerBox
  shown : ∀ x, asked.getLast? = some x → x.addr = addr →
    (s.router.pendingDbSnapshots n).isSome = true → x = askOf c addr ∧ Shown n c s

/-- The snapshot for `addr` is going to be taken, under `n`, of actors as they are in `c`. What
    has been reported for `addr` since `old` shows their ledger. -/
structure Taking (n : OpId) (addr : SocketAddr) (c : ActorStates) (old : List ActorEvent)
    (s : ActorDb) : Prop where
  formed : Formed s
  stage : ∃ views flight asked, SnapshotBook n views s flight asked ∧
    (Waiting n addr c s ∨ Asked n addr c asked s)
  events : ∃ new, s.events = old ++ new ∧
    ∀ v ∈ new.filterMap ActorEvent.view?, v.1 = addr → c.ledger.Shows v.2

variable {addr : SocketAddr} {old : List ActorEvent} {views : List View} {flight : List Send}
  {asked : List Ask}

/-- A view that is made of all parts shows the ledger. -/
theorem OfParts.shows {v : View} (h : OfParts c v.2.accounts v.2.cards)
    (hv : (askOf c addr).Complete v) : c.ledger.Shows v.2 :=
  shows_of_parts hv.accounts hv.cards h.1 h.2

/-- A list without repetition of copies of one thing. -/
theorem eq_singleton_of_nodup {β : Type} {b : β} {xs : List β} (hn : xs.Nodup) (hb : b ∈ xs)
    (hall : ∀ x ∈ xs, x = b) : xs = [b] := by
  have hrep := List.eq_replicate_of_mem hall
  have hpos := List.length_pos_of_mem hb
  rw [hrep, List.nodup_replicate] at hn
  rw [hrep, show xs.length = 1 by omega]
  rfl

theorem askOf_nodup (c : ActorStates) (addr : SocketAddr) : (askOf c addr).sources.Nodup := by
  refine List.Nodup.append (c.router.accounts.nodup.map Sum.inl_injective)
    (c.router.cards.nodup.map Sum.inr_injective) fun x ha hc => ?_
  obtain ⟨a, -, rfl⟩ := List.mem_map.mp ha
  obtain ⟨k, -, hk⟩ := List.mem_map.mp hc
  cases hk

/-- The router handles the command next. -/
theorem Waiting.takes (h : Waiting n addr c s) {rest : List RouterMsg}
    (hbox : s.routerBox = .execute n (.getDatabase addr) :: rest) (hl : l.Internal)
    (hs : s.step l = some s') :
    s.next l = some (.router (.execute n (.getDatabase addr))) ∧
      s'.states = (s.states.handle (.router (.execute n (.getDatabase addr)))).1 ∧
      s'.events = s.events ++
        (s.states.handle (.router (.execute n (.getDatabase addr)))).2.filterMap Send.toNode? ∧
      ∀ d, d ≠ .node → s'.mailbox d =
        (if d = .router then rest.map .router else s.mailbox d) ++
          mailFor d (s.states.handle (.router (.execute n (.getDatabase addr)))).2 := by
  obtain ⟨y, rest', hdest, hlabel, hmem, hst, hev, hmail⟩ := ActorDb.step_mailbox hl hs
  have hnext : s.next l = some y := by
    unfold ActorDb.next
    rw [← hlabel, hmem]
    rfl
  obtain ⟨rfl, rfl⟩ : y = .router (.execute n (.getDatabase addr)) ∧
      rest' = rest.map .router := by
    cases y with
    | router m =>
      have hfirst : s.routerBox.map Send.router = .router m :: rest' := hmem
      rw [hbox] at hfirst
      obtain ⟨hm, hr⟩ := List.cons.inj hfirst
      exact ⟨hm.symm, hr.symm⟩
    | account a m =>
      have hfirst : (s.accountBox a).map (Send.account a) = .account a m :: rest' := hmem
      rw [h.account a] at hfirst
      cases hfirst
    | card k m =>
      have hfirst : (s.cardBox k).map (Send.card k) = .card k m :: rest' := hmem
      rw [h.card k] at hfirst
      cases hfirst
    | event e => exact absurd rfl hdest
  exact ⟨hnext, hst, hev, hmail⟩

/-- **The router asks** everybody it knows, or reports at once that there is nobody. -/
theorem Waiting.asks (h : Waiting n addr c s) (hbook : SnapshotBook n views s flight asked)
    (hfree : s.router.pendingDbSnapshots n = none)
    (hl : l.Internal) (hs : s.step l = some s') :
    (s.next l).bind (Send.ask? n s.router) = some (askOf c addr) ∧
      (∀ n', .execute n' (.getDatabase addr) ∉ s'.routerBox) ∧ Shown n c s' ∧
      ∃ new, s'.events = s.events ++ new ∧
        ∀ v ∈ new.filterMap ActorEvent.view?, OfParts c v.2.accounts v.2.cards := by
  obtain ⟨rest, hbox, hrest⟩ := h.router
  obtain ⟨hnext, hst, hev, hmail⟩ := h.takes hbox hl hs
  have hsent : mailFor .router (s.states.handle (.router (.execute n (.getDatabase addr)))).2 =
      [] := by
    rw [← ActorDb.map_toRouter]
    exact congrArg (List.map Send.router) (ActorRouter.handle_toRouter _ _)
  have hrouter := hmail .router (by nofun)
  rw [hsent, List.append_nil] at hrouter
  have hrouter : s'.mailbox .router = rest.map .router := hrouter
  -- nothing about `n` is on its way yet
  obtain ⟨reported, -, ha⟩ := hbook.assembly
  have hnone : ∀ z ∈ flight, z.source? n = none :=
    List.filterMap_eq_nil_iff.mp (ha.underway_eq hfree)
  have hplace : ∀ x, s'.mailbox (placeOf x) = mailFor (placeOf x)
      (s.states.handle (.router (.execute n (.getDatabase addr)))).2 := by
    intro x
    cases x with
    | inl a =>
      rw [hmail _ (by nofun), if_neg (by nofun)]
      show (s.accountBox a).map _ ++ _ = _
      rw [h.account a]
      rfl
    | inr k =>
      rw [hmail _ (by nofun), if_neg (by nofun)]
      show (s.cardBox k).map _ ++ _ = _
      rw [h.card k]
      rfl
  have hpart : ∀ x, partMsg s'.states n x = partMsg c n x := by
    intro x
    rw [hst, ← h.states]
    exact partMsg_handle (by cases x <;> nofun)
  refine ⟨?_, fun n' hmem' => ?_, ⟨fun x hx => ⟨?_, hpart x⟩, fun m x hm hx => ?_, fun p hp => ?_⟩,
    _, hev, ?_⟩
  · rw [hnext, ← h.states]
    exact if_pos rfl
  · have hin : Send.router (.execute n' (.getDatabase addr)) ∈ rest.map Send.router :=
      hrouter ▸ List.mem_map_of_mem hmem'
    obtain ⟨m, hm, he⟩ := List.mem_map.mp hin
    exact hrest n' (Send.router.inj he ▸ hm)
  · rw [hplace] at hx ⊢
    obtain ⟨-, he⟩ | ⟨-, he⟩ := s.router.getDatabase_cases n addr
    · rw [show (s.states.handle (.router (.execute n (.getDatabase addr)))).2 = _ from he,
        mailFor_event (by cases x <;> nofun)] at hx
      cases hx
    · have hall : (s.states.handle (.router (.execute n (.getDatabase addr)))).2 =
          (askOf s.states addr).sources.map (requestTo n) := by
        rw [show (s.states.handle (.router (.execute n (.getDatabase addr)))).2 = _ from he]
        unfold Ask.sources
        rw [List.map_append, List.map_map, List.map_map]
        rfl
      rw [hall] at hx ⊢
      refine ⟨[], eq_singleton_of_nodup (((askOf_nodup s.states addr).map
        requestTo_injective).sublist List.filter_sublist) hx fun z hz => ?_, List.not_mem_nil⟩
      obtain ⟨hz, hd⟩ := List.mem_filter.mp hz
      obtain ⟨w, -, rfl⟩ := List.mem_map.mp hz
      rw [placeOf_injective ((requestTo_dest n w).symm.trans (of_decide_eq_true hd))]
  · rw [hrouter] at hm
    have hin : .router m ∈ s.mailbox .router := by
      show _ ∈ s.routerBox.map _
      rw [hbox]
      exact List.mem_cons_of_mem _ hm
    rw [hbook.inFlight .router (by nofun)] at hin
    rw [hnone _ (List.mem_filter.mp hin).1] at hx
    cases hx
  · have hr : s'.router = (s.router.handle (.execute n (.getDatabase addr))).1 :=
      congrArg ActorStates.router hst
    rw [hr] at hp
    obtain ⟨hpend, -⟩ | ⟨hpend, -⟩ := s.router.getDatabase_cases n addr
    · rw [hpend, hfree] at hp
      cases hp
    · rw [hpend, Function.update_self] at hp
      rw [← Option.some.inj hp]
      exact ⟨List.forall_mem_nil _, List.forall_mem_nil _⟩
  · intro v hv
    obtain ⟨-, he⟩ | ⟨-, he⟩ := s.router.getDatabase_cases n addr
    · rw [show (s.states.handle (.router (.execute n (.getDatabase addr)))).2 = _ from he] at hv
      rw [List.mem_singleton.mp hv]
      exact ⟨List.forall_mem_nil _, List.forall_mem_nil _⟩
    · rw [show (s.states.handle (.router (.execute n (.getDatabase addr)))).2 = _ from he] at hv
      obtain ⟨ev, hev', -⟩ := List.mem_filterMap.mp hv
      obtain ⟨z, hz, hze⟩ := List.mem_filterMap.mp hev'
      obtain hz | hz := List.mem_append.mp hz <;> obtain ⟨w, -, rfl⟩ := List.mem_map.mp hz <;>
        cases hze

/-- A database at rest is given the command. -/
theorem Taking.begin (hf : Formed s) (hrest : s.AtRest)
    (hfree : ∀ n', s.router.pendingDbSnapshots n' = none) (n : OpId) {new : List ActorEvent}
    (hev : s.events = old ++ new)
    (hnew : ∀ v ∈ new.filterMap ActorEvent.view?, v.1 ≠ addr) :
    Taking n addr s.states old (s.execute n (.getDatabase addr)) where
  formed := hf.step (l := .execute n (.getDatabase addr)) rfl
  stage := by
    have hbook : SnapshotBook n s.views s [] [] :=
      .fresh (ActorDb.quiescent_iff.mp hrest.quiescent) hfree (List.forall_mem_nil _)
        fun _ _ => List.not_mem_nil
    have hcommand : SnapshotBook n s.views (s.execute n (.getDatabase addr)) _ [] :=
      hbook.command fun _ _ => rfl
    refine ⟨_, _, _, hcommand, .inl ?_⟩
    refine ⟨⟨[], ?_, fun _ => List.not_mem_nil⟩, hrest.quiescent.account, hrest.quiescent.card, rfl⟩
    show s.routerBox ++ _ = _
    rw [hrest.quiescent.router]
    rfl
  events := ⟨new, hev, fun v hv he => absurd he (hnew v hv)⟩

/-- The node sends one more command. -/
theorem Taking.command (h : Taking n addr c old s) {n' : OpId} {o : Operation Amount}
    (ho : ∀ addr', o = .getDatabase addr' → n' = n ∧ addr' ≠ addr) :
    Taking n addr c old (s.execute n' o) where
  formed := h.formed.step (l := .execute n' o) rfl
  stage := by
    have hnot : ∀ m, RouterMsg.execute m (.getDatabase addr) ∉ [.execute n' o] := by
      intro m hm
      exact (ho addr (RouterMsg.execute.inj (List.mem_singleton.mp hm)).2.symm).2 rfl
    obtain ⟨views, flight, asked, hbook, hstage⟩ := h.stage
    refine ⟨_, _, _, hbook.command fun addr' he => (ho addr' he).1, hstage.imp ?_ ?_⟩
    · rintro ⟨⟨rest, hbox, hrest⟩, haccount, hcard, hstates⟩
      refine ⟨⟨rest ++ [RouterMsg.execute n' o], ?_, fun m => ?_⟩, haccount, hcard, hstates⟩
      · show s.routerBox ++ _ = _
        rw [hbox]
        rfl
      · rw [List.mem_append, not_or]
        exact ⟨hrest m, hnot m⟩
    · rintro ⟨hbox, hshown⟩
      refine ⟨fun m => ?_, fun x hx hxa hp => ?_⟩
      · show _ ∉ s.routerBox ++ _
        rw [List.mem_append, not_or]
        exact ⟨hbox m, hnot m⟩
      · obtain ⟨he, hs⟩ := hshown x hx hxa hp
        refine ⟨he, ⟨fun z hz => ?_, fun m z hm hz => ?_, hs.gathered⟩⟩
        · cases z <;> exact hs.asked _ hz
        · have hm : Send.router m ∈ (s.routerBox ++ [RouterMsg.execute n' o]).map Send.router := hm
          rw [List.map_append] at hm
          rcases List.mem_append.mp hm with hm | hm
          · exact hs.part m z hm hz
          · obtain rfl := Send.router.inj (List.mem_singleton.mp hm)
            cases hz
  events := h.events

/-- Only the node sends the router commands. -/
theorem command_of_step (hl : l.Internal) (hs : s.step l = some s') {n' : OpId}
    {o : Operation Amount} (h : .execute n' o ∈ s'.routerBox) : .execute n' o ∈ s.routerBox := by
  obtain ⟨y, rest, -, -, hbox, -, -, hmail⟩ := ActorDb.step_mailbox hl hs
  have hin : Send.router (.execute n' o) ∈ s'.mailbox .router := List.mem_map_of_mem h
  rw [hmail .router (by nofun)] at hin
  rcases List.mem_append.mp hin with hin | hin
  · have hold : Send.router (.execute n' o) ∈ s.mailbox .router := by
      split at hin
      · rename_i hd
        rw [hd, hbox]
        exact List.mem_cons_of_mem y hin
      · exact hin
    obtain ⟨m, hm, he⟩ := List.mem_map.mp hold
    exact Send.router.inj he ▸ hm
  · exact absurd (List.mem_filter.mp hin).1 (ActorStates.handle_commands _ y n' o)

/-- The node asks for a snapshot. -/
def Label.asks : Label → Bool
  | .execute _ (.getDatabase _) => true
  | _ => false

/-- No snapshot is collected, and none is going to be asked for. -/
structure Unasked (s : ActorDb) : Prop where
  free : ∀ n', s.router.pendingDbSnapshots n' = none
  commands : ∀ n' addr', .execute n' (.getDatabase addr') ∉ s.routerBox

theorem Unasked.step (h : Unasked s) (hl : l.asks = false) (hs : s.step l = some s') :
    Unasked s' := by
  by_cases hinternal : l.Internal
  · refine ⟨?_, fun n' addr' hmem => h.commands n' addr' (command_of_step hinternal hs hmem)⟩
    obtain ⟨n', o, rfl, -⟩ | ⟨m, rest, rfl, hbox, -, rfl⟩ | ⟨a, m, rest, rfl, -, rfl⟩ |
      ⟨k, m, rest, rfl, -, rfl⟩ := ActorDb.step_cases hs
    · exact hinternal.elim
    · have hother : ∀ n' addr', m ≠ .execute n' (.getDatabase addr') := by
        rintro n' addr' rfl
        exact h.commands n' addr' (hbox ▸ List.mem_cons_self)
      show ∀ n', (s.router.handle m).1.pendingDbSnapshots n' = none
      cases m with
      | execute n' o =>
        rw [(s.router.execute_other n' fun addr' he => hother n' addr' (he ▸ rfl)).1]
        exact h.free
      | accountSnapshotCollected n' x =>
        simp [ActorRouter.handle, ActorRouter.accountSnapshotCollected, h.free]
      | cardSnapshotCollected n' x =>
        simp [ActorRouter.handle, ActorRouter.cardSnapshotCollected, h.free]
      | _ =>
        rw [(s.router.handle_other (by simp) (by simp [ActorRouter.IsSnapshot])).1]
        exact h.free
    · exact h.free
    · exact h.free
  · cases l with
    | execute n' o =>
      obtain rfl := Option.some.inj hs
      refine ⟨h.free, fun n'' addr' hmem => ?_⟩
      rcases List.mem_append.mp hmem with hmem | hmem
      · exact h.commands n'' addr' hmem
      · obtain ⟨rfl, rfl⟩ := RouterMsg.execute.inj (List.mem_singleton.mp hmem)
        cases hl
    | _ => exact absurd True.intro hinternal

theorem unasked_of_run {ls : List Label} (hr : run ActorDb.step ActorDb.init ls = some s)
    (hls : ∀ l ∈ ls, l.asks = false) : Unasked s :=
  run_induct_meets (fun _ _ _ h hl hs => h.step hl hs) hr (meets_of_forall hls _)
    ⟨fun _ => rfl, fun _ _ => List.not_mem_nil⟩

theorem mem_routerBox_of_next {m : RouterMsg} (h : s.next l = some (.router m)) :
    m ∈ s.routerBox := by
  have hmem : Send.router m ∈ s.mailbox l.dest := List.mem_of_mem_head? h
  cases l with
  | router =>
    obtain ⟨m', hm, he⟩ := List.mem_map.mp hmem
    exact Send.router.inj he ▸ hm
  | _ => simp [ActorDb.mailbox, Label.dest] at hmem

/-- **A step of an actor**, unless it is the router taking up another command under `n` while
    it collects. -/
theorem Taking.step (h : Taking n addr c old s) (hl : l.Internal) (hc : s.Overlaps n l = false)
    (hs : s.step l = some s') : Taking n addr c old s' := by
  obtain ⟨views, flight, asked, hbook, hstage⟩ := h.stage
  obtain ⟨new, hev, hnew⟩ := h.events
  obtain ⟨flight', hbook'⟩ := hbook.step h.formed hl hc hs
  obtain ⟨reported, hviews, ha⟩ := hbook.assembly
  obtain ⟨reported', hviews', ha'⟩ := hbook'.assembly
  -- what is reported in this step
  have hsplit : ∀ more, s'.events = s.events ++ more →
      reported' = reported ++ more.filterMap ActorEvent.view? := by
    intro more hmore
    have hall : s'.views = s.views ++ more.filterMap ActorEvent.view? := by
      unfold ActorDb.views
      rw [hmore, List.filterMap_append]
    rw [hviews, hviews', List.append_assoc] at hall
    exact List.append_cancel_left hall
  have hreports : ∀ more, s'.events = s.events ++ more →
      (∀ v ∈ more.filterMap ActorEvent.view?, v.1 = addr → c.ledger.Shows v.2) →
      ∃ new, s'.events = old ++ new ∧
        ∀ v ∈ new.filterMap ActorEvent.view?, v.1 = addr → c.ledger.Shows v.2 := by
    intro more hmore hshow
    refine ⟨new ++ more, by rw [hmore, hev, List.append_assoc], fun v hv => ?_⟩
    rw [List.filterMap_append] at hv
    exact (List.mem_append.mp hv).elim (hnew v) (hshow v)
  rcases hstage with hwait | hasked
  · -- the router asks
    obtain ⟨rest, hbox, -⟩ := hwait.router
    have hnext := (hwait.takes hbox hl hs).1
    have hfree : s.router.pendingDbSnapshots n = none := by
      simpa [ActorDb.Overlaps, hnext, Send.commands] using hc
    obtain ⟨hask, hnot, hshown, more, hmore, hparts⟩ := hwait.asks hbook hfree hl hs
    rw [hask] at hbook' ha'
    have hlast : (asked ++ (some (askOf c addr)).toList).getLast? = some (askOf c addr) :=
      List.getLast?_concat
    refine ⟨h.formed.step hs, ⟨views, flight', _, hbook', .inr ⟨hnot, fun x hx _ _ => ?_⟩⟩,
      hreports more hmore fun v hv _ => ?_⟩
    · exact ⟨(Option.some.inj (hlast.symm.trans hx)).symm, hshown⟩
    · have hlen := ha.length
      rw [hfree] at hlen
      rw [hsplit more hmore] at ha'
      obtain ⟨-, x, hx, hcomplete⟩ := ha'.last (by simp [hlen]) hv
      obtain rfl := Option.some.inj (hlast.symm.trans hx)
      exact (hparts v hv).shows hcomplete
  · obtain ⟨-, y, -, -, -, hnext, -⟩ := hbook.inFlight.step hl hs
    have hnot : ∀ n', RouterMsg.execute n' (.getDatabase addr) ∉ s'.routerBox :=
      fun n' hmem => hasked.router n' (command_of_step hl hs hmem)
    obtain ⟨z, rest, -, -, -, -, hmore, -⟩ := ActorDb.step_mailbox hl hs
    have hlen := ha.length
    rw [hsplit _ hmore] at ha'
    cases hask : (s.next l).bind (Send.ask? n s.router) with
    | some x =>
      -- another snapshot is asked for
      rw [hask] at hbook' ha'
      obtain ⟨z, hz, hzx⟩ := Option.bind_eq_some_iff.mp hask
      obtain ⟨addr', rfl, rfl⟩ := ask_eq_some hzx
      have hne : addr' ≠ addr := by
        rintro rfl
        exact hasked.router n (mem_routerBox_of_next hz)
      have hfree : s.router.pendingDbSnapshots n = none := by
        simpa [ActorDb.Overlaps, hz, Send.commands] using hc
      have hlast : (asked ++ (some (⟨addr', s.router.accounts, s.router.cards⟩ : Ask)).toList).getLast?
          = some ⟨addr', s.router.accounts, s.router.cards⟩ := List.getLast?_concat
      refine ⟨h.formed.step hs, ⟨views, flight', _, hbook', .inr ⟨hnot, fun x hx hxa _ => ?_⟩⟩,
        hreports _ hmore fun v hv hva => ?_⟩
      · obtain rfl := Option.some.inj (hlast.symm.trans hx)
        exact absurd hxa hne
      · rw [hfree] at hlen
        obtain ⟨-, x, hx, hcomplete⟩ := ha'.last (by simp [hlen]) hv
        obtain rfl := Option.some.inj (hlast.symm.trans hx)
        exact absurd (hcomplete.addr.symm.trans hva) hne
    | none =>
      rw [hask, Option.toList_none, List.append_nil] at hbook' ha'
      have hget : ∀ n' addr', s.next l ≠ some (.router (.execute n' (.getDatabase addr'))) := by
        intro n' addr' he
        obtain rfl := hbook.commands n' addr'
          (hbook.inFlight.mem_router (mem_routerBox_of_next he))
        rw [he, Option.bind_some] at hask
        cases (if_pos rfl : Send.ask? n' s.router (.router (.execute n' (.getDatabase addr'))) =
          some ⟨addr', s.router.accounts, s.router.cards⟩).symm.trans hask
      have hstep := fun hs' : Shown n c s => hs'.step h.formed hbook.others hl hget hs
      have hlen' := ha'.length
      rw [List.length_append] at hlen'
      refine ⟨h.formed.step hs, ⟨views, flight', asked, hbook', .inr ⟨hnot, fun x hx hxa hp => ?_⟩⟩,
        hreports _ hmore fun v hv hva => ?_⟩
      · have hp₀ : (s.router.pendingDbSnapshots n).isSome = true := by
          by_contra hfree
          rw [if_neg hfree] at hlen
          rw [if_pos hp] at hlen'
          omega
        obtain ⟨he, hs₀⟩ := hasked.shown x hx hxa hp₀
        exact ⟨he, (hstep hs₀).1⟩
      · obtain ⟨hmiss, x, hx, hcomplete⟩ := ha'.last (by rw [hlen]; split <;> omega) hv
        have hp₀ : (s.router.pendingDbSnapshots n).isSome = true := by
          by_contra hfree
          rw [if_neg hfree] at hlen
          omega
        obtain ⟨rfl, hs₀⟩ := hasked.shown x hx (hcomplete.addr.symm.trans hva) hp₀
        obtain ⟨-, new', hnew', hparts⟩ := hstep hs₀
        obtain rfl := List.append_cancel_left (hmore.symm.trans hnew')
        exact (hparts v hv).shows hcomplete

end Steps

end YpfRuta.Actors
