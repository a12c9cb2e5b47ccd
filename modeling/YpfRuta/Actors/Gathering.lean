/-
  Questions to many actors from a database at rest. A query or a bill asks every card of
  its account, a request for a snapshot asks every actor. The questions are answered in
  any order, and the one who gathers the answers reports when he has them all.
-/
import YpfRuta.Actors.Sequential

namespace YpfRuta.Actors

open Lib

variable {Amount : Type} [Currency Amount]

/-- A step that takes `x` out of the flight. -/
structure ActorDb.Takes (s : ActorDb) (flight : List Send) (x : Send) (s' : ActorDb) : Prop where
  formed : Formed s'
  states : s'.states = (s.states.handle x).1
  events : s'.events = s.events ++ (s.states.handle x).2.filterMap Send.toNode?
  inFlight : s'.InFlight (flight.erase x ++ (s.states.handle x).2)

/-- Every step takes a message that is the first one for its addressee. -/
theorem ActorDb.InFlight.taken {s s' : ActorDb} {l : Label} {flight : List Send}
    (hfl : s.InFlight flight) (hf : Formed s) (hl : l.Internal) (h : s.step l = some s') :
    ∃ x ∈ flight, (mailFor x.dest flight).head? = some x ∧ s.Takes flight x s' := by
  obtain ⟨pre, x, post, rfl, -, -, hne, hst, hev, hfl'⟩ := hfl.step hl h
  have hnot : x ∉ pre := fun hx => hne x hx rfl
  refine ⟨x, by simp, ?_, hf.step h, hst, hev, ?_⟩
  · rw [mailFor_append, mailFor_eq_nil hne, mailFor_cons_self]
    rfl
  · rw [List.erase_append_right _ hnot, List.erase_cons_head]
    exact hfl'

section Takes

variable {s s' : ActorDb} {flight out : List Send}

theorem ActorDb.Takes.result {x : Send} (h : s.Takes flight x s') {c : ActorStates}
    (hx : s.states.handle x = (c, out)) :
    s'.states = c ∧ s'.events = s.events ++ out.filterMap Send.toNode? ∧
      s'.InFlight (flight.erase x ++ out) := by
  have hst := h.states
  have hev := h.events
  have hfl := h.inFlight
  rw [hx] at hst hev hfl
  exact ⟨hst, hev, hfl⟩

theorem ActorDb.Takes.onRouter {m : RouterMsg} (h : s.Takes flight (.router m) s')
    {r : ActorRouter} (hx : s.router.handle m = (r, out)) :
    s'.router = r ∧ s'.account = s.account ∧ s'.card = s.card ∧
      s'.events = s.events ++ out.filterMap Send.toNode? ∧
      s'.InFlight (flight.erase (.router m) ++ out) := by
  obtain ⟨hst, hev, hfl⟩ := h.result (ActorStates.handle_router (c := s.states) hx)
  exact ⟨congrArg ActorStates.router hst, congrArg ActorStates.account hst,
    congrArg ActorStates.card hst, hev, hfl⟩

theorem ActorDb.Takes.onAccount {a : AccountId} {m : AccountMsg}
    (h : s.Takes flight (.account a m) s') {x : AccountActor}
    (hx : (s.account a).handle m = (x, out)) :
    s'.router = s.router ∧ s'.account = Function.update s.account a x ∧ s'.card = s.card ∧
      s'.events = s.events ++ out.filterMap Send.toNode? ∧
      s'.InFlight (flight.erase (.account a m) ++ out) := by
  obtain ⟨hst, hev, hfl⟩ := h.result (ActorStates.handle_account (c := s.states) hx)
  exact ⟨congrArg ActorStates.router hst, congrArg ActorStates.account hst,
    congrArg ActorStates.card hst, hev, hfl⟩

theorem ActorDb.Takes.onCard {k : CardKey} {m : CardMsg} (h : s.Takes flight (.card k m) s')
    {y : CardActor} (hy : (s.card k).handle m = (y, out)) :
    s'.router = s.router ∧ s'.account = s.account ∧ s'.card = Function.update s.card k y ∧
      s'.events = s.events ++ out.filterMap Send.toNode? ∧
      s'.InFlight (flight.erase (.card k m) ++ out) := by
  obtain ⟨hst, hev, hfl⟩ := h.result (ActorStates.handle_card (c := s.states) hy)
  exact ⟨congrArg ActorStates.router hst, congrArg ActorStates.account hst,
    congrArg ActorStates.card hst, hev, hfl⟩

end Takes

/-! ## Queries and bills -/

/-- A member of one list, moved to the end of the next. -/
theorem perm_move {β : Type} [BEq β] [LawfulBEq β] {x : β} {l : List β} (hx : x ∈ l)
    (m : List β) :
    (l.erase x ++ (m ++ [x])).Perm (l ++ m) := by
  rw [← List.append_assoc]
  refine List.perm_append_comm.trans ?_
  rw [List.singleton_append, ← List.cons_append]
  exact (List.perm_cons_erase hx).symm.append_right m

section Query

variable (c : ActorStates) (n : OpId) (a : AccountId) (billing : Bool)

/-- The account learns how many cards to wait for. -/
def startOf (num : Nat) : Send :=
  .account a (if billing then .startAccountBill n num else .startAccountQuery n num)

def questionOf (cd : CardId) : Send := .card (a, cd) (.queryCardState n a billing)

/-- What card `cd` has consumed in the state `c`. -/
def spentOn (cd : CardId) : CardId × Amount := (cd, (c.card (a, cd)).consumed)

def answerOf (cd : CardId) : Send := .account a (.cardQueryReply n cd (c.card (a, cd)).consumed)

/-- What the account reports when it has gathered the answers of `got`. -/
def completionOf (got : List CardId) : Send :=
  .router (.accountQueryCompleted n a (AccountActor.totalSpent (got.map (spentOn c a)))
    (got.map (spentOn c a)))

/-- What the router makes of it. -/
def resultOf (o : Operation Amount) (got : List CardId) : ActorEvent :=
  .operationResult n o (.accountQuery ⟨a, AccountActor.totalSpent (got.map (spentOn c a)),
    got.map (spentOn c a)⟩) true none

/-- The messages of a query under way: its start, unless the account `begun` it, the
    questions to `asks` and the answers of `back`. -/
def roundOf (num : Nat) (begun : Bool) (asks back : List CardId) : List Send :=
  (if begun then [] else [startOf n a billing num]) ++ asks.map (questionOf n a billing) ++
    back.map (answerOf c n a)

/-- The card after it was asked: a bill resets it. -/
def askedCard (P : Prop) [Decidable P] (k : CardKey) : CardActor :=
  { c.card k with consumed := if billing = true ∧ P then 0 else (c.card k).consumed }

/-- The actors after a query or a bill of account `a`. -/
def ActorStates.gathered (r : ActorRouter) : ActorStates where
  router := r
  account := Function.update c.account a
    { c.account a with
      accountConsumed := if billing then 0 else (c.account a).accountConsumed
      pendingQuery := none }
  card k := askedCard c billing (k.1 = a) k

/-- The cards in `asks` have yet to answer, the answers of those in `back` are on their
    way to the account, and those in `got` are gathered. Until it has `begun` the account
    has not read how many there are. -/
structure Collecting (r : ActorRouter) (cards : List CardId) (events : List ActorEvent)
    (begun : Bool) (asks back got : List CardId) (s : ActorDb) : Prop where
  formed : Formed s
  flight : s.InFlight (roundOf c n a billing cards.length begun asks back)
  places : (asks ++ back ++ got).Perm cards
  waiting : 0 < asks.length + back.length
  router : s.router = r
  others : ∀ b, b ≠ a → s.account b = c.account b
  account : s.account a =
    if begun then
      { c.account a with
        pendingQuery := some ⟨n, asks.length + back.length, got.map (spentOn c a), billing⟩ }
    else c.account a
  fresh : begun = false → got = []
  card : ∀ k, s.card k = askedCard c billing (k.1 = a ∧ k.2 ∉ asks) k
  events : s.events = events

end Query

section

variable {c : ActorStates} {n : OpId} {a : AccountId} {billing : Bool} {r : ActorRouter}
  {cards : List CardId} {events : List ActorEvent} {begun : Bool} {asks back got : List CardId}
  {s s' : ActorDb}

theorem questionOf_injective : Function.Injective (questionOf n a billing) := by
  intro x y h
  exact (Prod.mk.inj (Send.card.inj h).1).2

theorem answerOf_injective : Function.Injective (answerOf c n a) := by
  intro x y h
  exact (AccountMsg.cardQueryReply.inj (Send.account.inj h).2).2.1

/-- What can be handled first: the start, a question, or an answer once it has begun. -/
theorem first_of_round {num : Nat} {x : Send} (hx : x ∈ roundOf c n a billing num begun asks back)
    (hfirst : (mailFor x.dest (roundOf c n a billing num begun asks back)).head? = some x) :
    (begun = false ∧ x = startOf n a billing num) ∨
    (∃ cd ∈ asks, x = questionOf n a billing cd) ∨
    (begun = true ∧ ∃ cd ∈ back, x = answerOf c n a cd) := by
  unfold roundOf at hx hfirst
  cases begun with
  | true =>
    rw [if_pos rfl, List.nil_append, List.mem_append, List.mem_map, List.mem_map] at hx
    rcases hx with ⟨cd, hcd, rfl⟩ | ⟨cd, hcd, rfl⟩
    · exact Or.inr (Or.inl ⟨cd, hcd, rfl⟩)
    · exact Or.inr (Or.inr ⟨rfl, cd, hcd, rfl⟩)
  | false =>
    rw [if_neg Bool.false_ne_true, List.append_assoc, List.mem_append, List.mem_singleton,
      List.mem_append, List.mem_map, List.mem_map] at hx
    rcases hx with rfl | ⟨cd, hcd, rfl⟩ | ⟨cd, hcd, rfl⟩
    · exact Or.inl ⟨rfl, rfl⟩
    · exact Or.inr (Or.inl ⟨cd, hcd, rfl⟩)
    · -- the start is ahead of every answer
      have hdest : (answerOf c n a cd).dest = (startOf n a billing num).dest := rfl
      rw [if_neg Bool.false_ne_true, hdest, List.append_assoc, List.singleton_append,
        mailFor_cons_self] at hfirst
      exact Or.inl ⟨rfl, (Option.some.inj hfirst).symm⟩

theorem round_erase_question {num : Nat} {cd : CardId} (hcd : cd ∈ asks) :
    (roundOf c n a billing num begun asks back).erase (questionOf n a billing cd) ++
      [answerOf c n a cd] = roundOf c n a billing num begun (asks.erase cd) (back ++ [cd]) := by
  have hnot : questionOf n a billing cd ∉ if begun then [] else [startOf n a billing num] := by
    cases begun with
    | true => exact List.not_mem_nil
    | false =>
      intro h
      cases List.mem_singleton.mp h
  have hmem : questionOf n a billing cd ∈ asks.map (questionOf n a billing) :=
    List.mem_map_of_mem hcd
  unfold roundOf
  rw [List.erase_append_left _ (List.mem_append_right _ hmem), List.erase_append_right _ hnot,
    ← List.map_erase questionOf_injective, List.append_assoc, List.map_append]
  rfl

theorem round_erase_answer (num : Nat) (cd : CardId) :
    (roundOf c n a billing num true asks back).erase (answerOf c n a cd) =
      roundOf c n a billing num true asks (back.erase cd) := by
  have hnot : answerOf c n a cd ∉ asks.map (questionOf n a billing) := by
    intro h
    obtain ⟨d, -, hd⟩ := List.mem_map.mp h
    cases hd
  unfold roundOf
  rw [if_pos rfl, List.nil_append, List.erase_append_right _ hnot,
    ← List.map_erase answerOf_injective]

/-! ### One message of a query -/

/-- **The account begins**: it waits for all cards. -/
theorem Collecting.begin (h : Collecting c n a billing r cards events false asks back got s)
    (ht : s.Takes (roundOf c n a billing cards.length false asks back)
      (startOf n a billing cards.length) s') :
    Collecting c n a billing r cards events true asks back got s' := by
  obtain rfl := h.fresh rfl
  have hlen : asks.length + back.length = cards.length := by
    have hperm := h.places.length_eq
    simp only [List.append_nil, List.length_append] at hperm
    exact hperm
  have hne : cards.length ≠ 0 := by
    have hpos := h.waiting
    omega
  let x : AccountActor :=
    { c.account a with pendingQuery := some ⟨n, cards.length, [], billing⟩ }
  have hx : (s.account a).handle
      (if billing then .startAccountBill n cards.length
        else .startAccountQuery n cards.length) = (x, []) := by
    have hacc : s.account a = c.account a := h.account
    rw [hacc]
    cases billing with
    | true => exact if_neg hne
    | false => exact if_neg hne
  obtain ⟨hr, hacc, hcard, hev, hfl⟩ := ht.onAccount hx
  have hround : (roundOf c n a billing cards.length false asks back).erase
      (startOf n a billing cards.length) = roundOf c n a billing cards.length true asks back :=
    List.erase_cons_head ..
  have hfl' : s'.InFlight (roundOf c n a billing cards.length true asks back) := by
    rw [List.append_nil] at hfl
    rw [← hround]
    exact hfl
  refine ⟨ht.formed, hfl', h.places, h.waiting, hr.trans h.router, fun b hb => ?_, ?_, nofun,
    fun k => ?_, ?_⟩
  · rw [hacc, Function.update_of_ne hb]
    exact h.others b hb
  · rw [hacc, Function.update_self, if_pos rfl, hlen]
    rfl
  · rw [hcard]
    exact h.card k
  · rw [hev, List.filterMap_nil, List.append_nil]
    exact h.events

/-- **A card answers.** -/
theorem Collecting.ask (h : Collecting c n a billing r cards events begun asks back got s)
    (hn : c.Named) (hnodup : cards.Nodup) {cd : CardId} (hcd : cd ∈ asks)
    (ht : s.Takes (roundOf c n a billing cards.length begun asks back)
      (questionOf n a billing cd) s') :
    Collecting c n a billing r cards events begun (asks.erase cd) (back ++ [cd]) got s' := by
  have hasks : asks.Nodup := by
    have hall := h.places.nodup_iff.mpr hnodup
    exact (List.nodup_append.mp (List.nodup_append.mp hall).1).1
  have hlen : (asks.erase cd).length + 1 = asks.length := by
    have hpos := List.length_pos_of_mem hcd
    rw [List.length_erase_of_mem hcd]
    omega
  obtain ⟨hacc, hid⟩ := hn.cardId (a, cd)
  have hstill : s.card (a, cd) = c.card (a, cd) := by
    have hk := h.card (a, cd)
    unfold askedCard at hk
    rw [if_neg (fun hp => hp.2.2 hcd)] at hk
    exact hk
  have hanswer : Send.account (c.card (a, cd)).accountId
      (.cardQueryReply n (c.card (a, cd)).cardId (c.card (a, cd)).consumed) =
        answerOf c n a cd := by
    rw [hacc, hid]
    rfl
  have hx : (s.card (a, cd)).handle (.queryCardState n a billing) =
      ({ c.card (a, cd) with consumed := if billing then 0 else (c.card (a, cd)).consumed },
        [answerOf c n a cd]) := by
    rw [hstill]
    show (c.card (a, cd)).queryCardState n a billing = _
    obtain ⟨-, heq⟩ | ⟨hne, -⟩ := (c.card (a, cd)).queryCardState_cases n a billing
    · rw [heq, hanswer]
    · exact absurd hacc.symm hne
  obtain ⟨hr, hacc', hcard, hev, hfl⟩ := ht.onCard hx
  have hfl' : s'.InFlight
      (roundOf c n a billing cards.length begun (asks.erase cd) (back ++ [cd])) := by
    rw [← round_erase_question hcd]
    exact hfl
  refine ⟨ht.formed, hfl', ?_, ?_, hr.trans h.router, fun b hb => ?_, ?_, h.fresh,
    fun k => ?_, ?_⟩
  · exact ((perm_move hcd back).append_right got).trans h.places
  · rw [List.length_append, List.length_singleton]
    omega
  · rw [hacc']
    exact h.others b hb
  · rw [hacc', List.length_append, List.length_singleton]
    have hsum : (asks.erase cd).length + (back.length + 1) = asks.length + back.length := by omega
    rw [hsum]
    exact h.account
  · rw [hcard]
    by_cases hk : k = (a, cd)
    · subst hk
      have hgone : cd ∉ asks.erase cd := hasks.not_mem_erase
      rw [Function.update_self]
      unfold askedCard
      cases billing with
      | true => rw [if_pos rfl, if_pos ⟨rfl, rfl, hgone⟩]
      | false => rfl
    · rw [Function.update_of_ne hk]
      have hiff : (k.1 = a ∧ k.2 ∉ asks) ↔ (k.1 = a ∧ k.2 ∉ asks.erase cd) := by
        refine and_congr_right fun hka => not_congr ?_
        have hne : k.2 ≠ cd := fun he => hk (Prod.ext hka he)
        exact (List.mem_erase_of_ne hne).symm
      have hold := h.card k
      unfold askedCard at hold ⊢
      simp only [← hiff]
      exact hold
  · rw [hev]
    show s.events ++ [] = events
    rw [List.append_nil, h.events]

/-- All answers are gathered: the account reports them to the router. -/
structure Gathered (c : ActorStates) (n : OpId) (a : AccountId) (billing : Bool)
    (r : ActorRouter) (cards : List CardId) (events : List ActorEvent) (got : List CardId)
    (s : ActorDb) : Prop where
  formed : Formed s
  states : s.states = c.gathered a billing r
  places : got.Perm cards
  events : s.events = events
  flight : s.InFlight [completionOf c n a got]

/-- **The account gathers an answer**, and reports after the last one. -/
theorem Collecting.gather (h : Collecting c n a billing r cards events true asks back got s)
    (hn : c.Named) {cd : CardId} (hcd : cd ∈ back)
    (ht : s.Takes (roundOf c n a billing cards.length true asks back) (answerOf c n a cd) s') :
    Collecting c n a billing r cards events true asks (back.erase cd) (got ++ [cd]) s' ∨
    Gathered c n a billing r cards events (got ++ [cd]) s' := by
  have hplaces : (asks ++ back.erase cd ++ (got ++ [cd])).Perm cards := by
    rw [List.append_assoc]
    refine ((perm_move hcd got).append_left asks).trans ?_
    rw [← List.append_assoc]
    exact h.places
  have hlen : (back.erase cd).length + 1 = back.length := by
    have hpos := List.length_pos_of_mem hcd
    rw [List.length_erase_of_mem hcd]
    omega
  have hspent : got.map (spentOn c a) ++ [(cd, (c.card (a, cd)).consumed)] =
      (got ++ [cd]).map (spentOn c a) := by
    rw [List.map_append]
    rfl
  let p : AccountPendingQuery :=
    ⟨n, asks.length + back.length, got.map (spentOn c a), billing⟩
  have hacc : s.account a = { c.account a with pendingQuery := some p } := h.account
  have hid : (s.account a).accountId = a := by
    rw [hacc]
    exact hn.accountId a
  have hreply : (s.account a).handle (.cardQueryReply n cd (c.card (a, cd)).consumed) =
      (s.account a).collectReply p cd (c.card (a, cd)).consumed := by
    show (s.account a).cardQueryReply n cd _ = _
    unfold AccountActor.cardQueryReply
    rw [hacc]
    exact if_pos rfl
  obtain ⟨hlast, hcoll⟩ | ⟨hmore, hcoll⟩ :=
    (s.account a).collectReply_cases p cd (c.card (a, cd)).consumed
  · obtain ⟨hasks, hback⟩ : asks = [] ∧ back.erase cd = [] := by
      have hrem : asks.length + back.length - 1 = 0 := hlast
      exact ⟨List.length_eq_zero_iff.mp (by omega), List.length_eq_zero_iff.mp (by omega)⟩
    obtain ⟨hr, hacc', hcard, hev, hfl⟩ := ht.onAccount (hreply.trans hcoll)
    refine Or.inr ⟨ht.formed, ?_, ?_, ?_, ?_⟩
    · have haccount : s'.account = (c.gathered a billing r).account := by
        rw [hacc', hacc]
        funext b
        by_cases hb : b = a
        · subst hb
          simp only [Function.update_self, ActorStates.gathered]
          rfl
        · simp only [Function.update_of_ne hb, ActorStates.gathered]
          exact h.others b hb
      have hcards : s'.card = (c.gathered a billing r).card := by
        rw [hcard]
        funext k
        rw [h.card k]
        unfold askedCard ActorStates.gathered askedCard
        simp [hasks]
      show (⟨s'.router, s'.account, s'.card⟩ : ActorStates) = _
      rw [hr, h.router, haccount, hcards]
      rfl
    · rw [hasks, hback] at hplaces
      exact hplaces
    · rw [hev, h.events]
      exact List.append_nil _
    · have hround : (roundOf c n a billing cards.length true asks back).erase
          (answerOf c n a cd) = [] := by
        rw [round_erase_answer, hasks, hback]
        rfl
      have hfl' : s'.InFlight ((roundOf c n a billing cards.length true asks back).erase
          (answerOf c n a cd) ++ [.router (.accountQueryCompleted n a
            (AccountActor.totalSpent
              (got.map (spentOn c a) ++ [(cd, (c.card (a, cd)).consumed)]))
            (got.map (spentOn c a) ++ [(cd, (c.card (a, cd)).consumed)]))]) := by
        rw [hid] at hfl
        exact hfl
      rw [hround, hspent] at hfl'
      exact hfl'
  · obtain ⟨hr, hacc', hcard, hev, hfl⟩ := ht.onAccount (hreply.trans hcoll)
    have hrem : asks.length + back.length - 1 ≠ 0 := hmore
    have hfl' : s'.InFlight (roundOf c n a billing cards.length true asks (back.erase cd)) := by
      rw [List.append_nil] at hfl
      rw [← round_erase_answer]
      exact hfl
    refine Or.inl ⟨ht.formed, hfl', hplaces, by omega, hr.trans h.router, fun b hb => ?_, ?_,
      nofun, fun k => ?_, ?_⟩
    · rw [hacc', Function.update_of_ne hb]
      exact h.others b hb
    · have hsum : asks.length + back.length - 1 = asks.length + (back.erase cd).length := by omega
      rw [hacc', Function.update_self, if_pos rfl, hacc, ← hspent, ← hsum]
    · rw [hcard]
      exact h.card k
    · rw [hev, h.events]
      exact List.append_nil _

/-- The router reports what the account gathered. -/
theorem Gathered.ends {o : Operation Amount} (h : Gathered c n a billing r cards events got s)
    (hop : r.operations n = some o) :
    Ends ActorDb.step Label.Internal
      (ActorDb.Done (c.gathered a billing r) (events ++ [resultOf c n a o got])) 1 s := by
  have hhandle : (c.gathered a billing r).handle (completionOf c n a got) =
      (c.gathered a billing r, [.event (resultOf c n a o got)]) := by
    refine ActorStates.handle_router (c := c.gathered a billing r) ?_
    show r.accountQueryCompleted n a _ _ = _
    simp only [ActorRouter.accountQueryCompleted, hop]
    rfl
  have hchain : Chain 1 (c.gathered a billing r) (completionOf c n a got)
      (c.gathered a billing r) (resultOf c n a o got) := .last (fun h => by cases h) hhandle
  have hend := hchain.ends h.formed h.states h.flight
  rwa [h.events] at hend

/-- **Every interleaving of a query** reports every card of the account once. -/
theorem Collecting.ends {o : Operation Amount} {m : Nat}
    (h : Collecting c n a billing r cards events begun asks back got s) (hn : c.Named)
    (hop : r.operations n = some o) (hnodup : cards.Nodup)
    (hm : 2 * asks.length + back.length + (if begun then 0 else 1) = m) :
    Ends ActorDb.step Label.Internal (fun s' => ∃ got : List CardId, got.Perm cards ∧
      ActorDb.Done (c.gathered a billing r) (events ++ [resultOf c n a o got]) s') (m + 1) s := by
  induction m using Nat.strongRecOn generalizing s begun asks back got with
  | ind m ih =>
    have hpos := h.waiting
    -- something is under way: a question, or an answer
    obtain ⟨x, hx, hd⟩ : ∃ x ∈ roundOf c n a billing cards.length begun asks back,
        x.dest ≠ .node := by
      by_cases hasks : asks = []
      · obtain ⟨cd, hcd⟩ : ∃ cd, cd ∈ back := List.exists_mem_of_length_pos (by simp_all)
        exact ⟨answerOf c n a cd, List.mem_append_right _ (List.mem_map_of_mem hcd), nofun⟩
      · obtain ⟨cd, hcd⟩ := List.exists_mem_of_ne_nil asks hasks
        exact ⟨questionOf n a billing cd, List.mem_append_left _
          (List.mem_append_right _ (List.mem_map_of_mem hcd)), nofun⟩
    refine .next (h.flight.enabled h.formed.alive hx hd) fun l s' hl hstep => ?_
    obtain ⟨y, hy, hfirst, ht⟩ := h.flight.taken h.formed hl hstep
    rcases first_of_round hy hfirst with ⟨rfl, rfl⟩ | ⟨cd, hcd, rfl⟩ | ⟨rfl, cd, hcd, rfl⟩
    · have hlt : 2 * asks.length + back.length < m := by
        rw [if_neg Bool.false_ne_true] at hm
        omega
      exact (ih _ hlt (h.begin ht) (by simp)).mono (by omega)
    · have hlen := List.length_erase_of_mem hcd
      have hpos' := List.length_pos_of_mem hcd
      have hnext := h.ask hn hnodup hcd ht
      refine (ih _ ?_ hnext rfl).mono ?_ <;> rw [List.length_append, List.length_singleton] <;> omega
    · have hlen := List.length_erase_of_mem hcd
      have hpos' := List.length_pos_of_mem hcd
      rw [if_pos rfl] at hm
      rcases h.gather hn hcd ht with hnext | hdone
      · refine (ih _ ?_ hnext rfl).mono ?_ <;> rw [if_pos rfl] <;> omega
      · exact ((hdone.ends hop).mono (by omega)).imp fun s' hs' => ⟨_, hdone.places, hs'⟩

/-! ### A query from a database at rest -/

/-- What the router sends for a query or a bill. -/
theorem ActorRouter.execute_query {o : Operation Amount} (hq : Queries a billing o)
    (r : ActorRouter) (n : OpId) :
    (r.execute n o).2 = startOf n a billing (r.cardIds a).length ::
      (r.cardIds a).map (questionOf n a billing) ∧
    (∀ b, b ∈ (r.execute n o).1.accounts ↔ b ∈ r.accounts ∨ b = a) ∧
    (r.execute n o).1.cards = r.cards := by
  cases billing with
  | true =>
    obtain ⟨period, rfl⟩ := hq
    exact ⟨rfl, fun b => Keys.mem_insert, rfl⟩
  | false =>
    obtain rfl : o = .accountQuery a := hq
    exact ⟨rfl, fun b => Keys.mem_insert, rfl⟩

theorem askedCard_of_fresh {P : Prop} [Decidable P] {k : CardKey}
    (hk : (c.card k).consumed = 0 ∨ ¬ P) : askedCard c billing P k = c.card k := by
  unfold askedCard
  split
  · rename_i hp
    have hzero := hk.resolve_right (fun h => h hp.2)
    rw [← hzero]
  · rfl

/-- The list of the cards of an account and what they consumed. -/
theorem lists_spent (hgot : got.Perm (c.router.cardIds a)) :
    Lists Prod.fst (c.ledger.cardSpent a) (got.map (spentOn c a)) := by
  refine .of_keys (cardIds_nodup c.router a) (fun _ => rfl) (fun cd => ?_) (hgot.map (spentOn c a))
  rw [mem_cardIds]
  unfold Ledger.cardSpent ActorStates.ledger
  dsimp only
  constructor
  · intro hmem
    rw [if_pos hmem]
    rfl
  · intro hmem
    rw [if_neg hmem]
    rfl

theorem gathered_ledger (hn : c.Named)
    (hacc : ∀ b, b ∈ r.accounts ↔ b ∈ c.router.accounts ∨ b = a) (hcards : r.cards = c.router.cards) :
    (c.gathered a billing r).ledger =
      if billing then c.ledger.settle a else c.ledger.openAccount a := by
  have haccount : (c.gathered a billing r).ledger.account =
      Function.update c.ledger.account a
        (some (if billing then (c.account a).entry.settle else (c.account a).entry)) := by
    refine (ActorStates.ledger_account_eq (c := c) hacc fun b hb => ?_).trans ?_
    · exact Function.update_of_ne hb _ _
    · have hself : (c.gathered a billing r).account a =
          { c.account a with
            accountConsumed := if billing then 0 else (c.account a).accountConsumed
            pendingQuery := none } := Function.update_self ..
      rw [hself]
      cases billing <;> rfl
  have hcard : ∀ k, (c.gathered a billing r).ledger.card k =
      if billing = true ∧ k.1 = a then (c.ledger.card k).map Entry.settle
      else c.ledger.card k := by
    intro k
    unfold ActorStates.ledger ActorStates.gathered askedCard
    dsimp only
    rw [hcards]
    by_cases hk : k ∈ c.router.cards
    · rw [if_pos hk, if_pos hk]
      split <;> rfl
    · rw [if_neg hk, if_neg hk]
      split <;> rfl
  cases billing with
  | true =>
    refine Ledger.ext ?_ (funext fun k => ?_)
    · rw [haccount, if_pos rfl, if_pos rfl, ← hn.accountEntry]
      rfl
    · rw [hcard k, if_pos rfl]
      unfold Ledger.settle
      simp
  | false =>
    refine Ledger.ext ?_ (funext fun k => ?_)
    · rw [haccount, if_neg Bool.false_ne_true, if_neg Bool.false_ne_true, ← hn.accountEntry]
      rfl
    · rw [hcard k, if_neg Bool.false_ne_true]
      simp [Ledger.openAccount, Ledger.setAccount]

/-- Whatever the order of the answers, they are those of the specification. -/
theorem gathered_serves (hn : c.Named) {o : Operation Amount} (hq : Queries a billing o)
    (hacc : ∀ b, b ∈ r.accounts ↔ b ∈ c.router.accounts ∨ b = a) (hcards : r.cards = c.router.cards)
    (hgot : got.Perm (c.router.cardIds a)) :
    c.ledger.Serves o (.accountQuery ⟨a, c.ledger.total a (got.map (spentOn c a)),
      got.map (spentOn c a)⟩) none (c.gathered a billing r).ledger := by
  rw [gathered_ledger hn hacc hcards]
  cases billing with
  | true =>
    obtain ⟨period, rfl⟩ := hq
    exact .billed a period _ (lists_spent hgot)
  | false =>
    obtain rfl : o = .accountQuery a := hq
    exact .queried a _ (lists_spent hgot)

theorem gathered_idle (hi : c.Idle) (a : AccountId) (billing : Bool) (r : ActorRouter) :
    (c.gathered a billing r).Idle := by
  refine ⟨fun b => ?_, hi.card, hi.queue⟩
  by_cases hb : b = a
  · subst hb
    simp [ActorStates.gathered]
  · simpa [ActorStates.gathered, hb] using hi.account b

/-- An account without cards answers at once. -/
theorem query_nobody (hn : c.Named) (hi : c.Idle) {o : Operation Amount}
    (hq : Queries a billing o) (n : OpId) (hnil : c.router.cardIds a = []) :
    Chain 3 c (.router (.execute n o)) (c.gathered a billing (c.router.execute n o).1)
      (.operationResult n o (.accountQuery ⟨a, (c.account a).accountConsumed, []⟩) true none) := by
  obtain ⟨hsends, -, -⟩ := ActorRouter.execute_query hq c.router n
  rw [hnil] at hsends
  let r := (c.router.execute n o).1
  have hop : r.operations n = some o := ActorRouter.execute_registers _ n o
  have hbegin : c.handle (.router (.execute n o)) =
      (⟨r, c.account, c.card⟩, [startOf n a billing 0]) :=
    ActorStates.handle_router (Prod.ext rfl hsends)
  let x : AccountActor :=
    { c.account a with
      accountConsumed := if billing then 0 else (c.account a).accountConsumed
      pendingQuery := none }
  have hx : (c.account a).handle
      (if billing then .startAccountBill n 0 else .startAccountQuery n 0) =
        (x, [.router (.accountQueryCompleted n a (c.account a).accountConsumed [])]) := by
    have hid := hn.accountId a
    have hnone := hi.account a
    cases hacc : c.account a
    rw [hacc] at hid hnone
    dsimp only at hid hnone
    subst hid hnone
    simp only [x, hacc]
    cases billing <;> rfl
  have hstart := ActorStates.handle_account (c := ⟨r, c.account, c.card⟩) hx
  have hsame : (⟨r, Function.update c.account a x, c.card⟩ : ActorStates) =
      c.gathered a billing r := by
    have hcard : c.card = fun k => askedCard c billing (k.1 = a) k := by
      funext k
      refine (askedCard_of_fresh ?_).symm
      by_cases hk : k.1 = a
      · refine Or.inl ?_
        have hne : ¬ k ∈ c.router.cards := by
          intro hmem
          have hcd : k.2 ∈ c.router.cardIds a := (mem_cardIds _ _ _).mpr (hk ▸ hmem)
          rw [hnil] at hcd
          cases hcd
        rw [hn.card k hne]
        rfl
      · exact Or.inr hk
    unfold ActorStates.gathered
    rw [← hcard]
  have hreport : r.handle (.accountQueryCompleted n a (c.account a).accountConsumed []) =
      (r, [.event (.operationResult n o
        (.accountQuery ⟨a, (c.account a).accountConsumed, []⟩) true none)]) := by
    simp only [ActorRouter.handle, ActorRouter.accountQueryCompleted, hop]
  rw [← hsame]
  refine .next ?_ hbegin (.next ?_ hstart (.last ?_ (ActorStates.handle_router hreport)))
  · intro h
    cases h
  · intro h
    cases billing <;> cases h
  · intro h
    cases h

/-- **A query or a bill** from a database at rest, in any interleaving. -/
theorem query_ends (hf : Formed s) (hrest : s.AtRest) {o : Operation Amount}
    (hq : Queries a billing o) (n : OpId) :
    ∃ m, Ends ActorDb.step Label.Internal (s.Serves n o) m (s.execute n o) := by
  have hn := hf.named
  have hi := hrest.idle
  have hfe : Formed (s.execute n o) := hf.step (l := .execute n o) rfl
  have hfl := ActorDb.InFlight.execute hrest.quiescent n o
  obtain ⟨hsends, hacc, hcards⟩ := ActorRouter.execute_query hq s.router n
  have hserves : ∀ got : List CardId, got.Perm (s.router.cardIds a) →
      s.ledger.Serves o (.accountQuery ⟨a, s.ledger.total a (got.map (spentOn s.states a)),
        got.map (spentOn s.states a)⟩) none
          (s.states.gathered a billing (s.router.execute n o).1).ledger :=
    fun got hgot => gathered_serves hn hq hacc hcards hgot
  have hidle := gathered_idle hi a billing (s.router.execute n o).1
  by_cases hnil : s.router.cardIds a = []
  · -- no card has to be asked
    refine ⟨3, ((query_nobody hn hi hq n hnil).ends hfe rfl hfl).imp fun s' hdone => ?_⟩
    refine ⟨⟨hdone.quiescent, by rw [hdone.states]; exact hidle⟩, _, none,
      ?_, hdone.events⟩
    have hserve := hserves [] (by rw [hnil])
    have htotal : s.ledger.total a [] = (s.account a).accountConsumed := by
      unfold Ledger.total
      rw [if_pos rfl]
      exact congrArg Entry.consumed (hn.accountEntry a)
    rw [List.map_nil, htotal] at hserve
    show s.ledger.Serves o _ none s'.states.ledger
    rw [hdone.states]
    exact hserve
  · have hpos := List.length_pos_of_ne_nil hnil
    refine ⟨2 * (s.router.cardIds a).length + 1 + 1 + 1,
      hfl.single hfe nofun fun s₁ hf₁ hst hev hfl₁ => ?_⟩
    have hcoll : Collecting s.states n a billing (s.router.execute n o).1 (s.router.cardIds a)
        s.events false (s.router.cardIds a) [] [] s₁ := by
      have hfl₂ : s₁.InFlight (s.router.execute n o).2 := hfl₁
      have hev₂ : s₁.events = s.events ++ (s.router.execute n o).2.filterMap Send.toNode? := hev
      have hcard : s₁.card = s.card := congrArg ActorStates.card hst
      refine ⟨hf₁, ?_, by simp, by simpa using hpos, congrArg ActorStates.router hst,
        fun b _ => congrFun (congrArg ActorStates.account hst) b,
        congrFun (congrArg ActorStates.account hst) a, fun _ => rfl, fun k => ?_, ?_⟩
      · rw [hsends] at hfl₂
        unfold roundOf
        rw [List.map_nil, List.append_nil]
        exact hfl₂
      · rw [hcard]
        refine (askedCard_of_fresh (c := s.states) ?_).symm
        by_cases hk : k.1 = a ∧ k.2 ∉ s.router.cardIds a
        · refine Or.inl ?_
          have hne : ¬ k ∈ s.router.cards :=
            fun hmem => hk.2 ((mem_cardIds _ _ _).mpr (hk.1 ▸ hmem))
          rw [hn.card k hne]
          rfl
        · exact Or.inr hk
      · have hnone : (s.router.execute n o).2.filterMap Send.toNode? = [] := by
          rw [hsends, List.filterMap_eq_nil_iff]
          intro x hx
          rcases List.mem_cons.mp hx with rfl | hx
          · rfl
          · obtain ⟨cd, -, rfl⟩ := List.mem_map.mp hx
            rfl
        rw [hev₂, hnone, List.append_nil]
    have hop := ActorRouter.execute_registers s.router n o
    refine (hcoll.ends hn hop (cardIds_nodup _ a) rfl).imp fun s' hs' => ?_
    obtain ⟨got, hgot, hdone⟩ := hs'
    refine ⟨⟨hdone.quiescent, by rw [hdone.states]; exact hidle⟩, _, none, ?_, hdone.events⟩
    have hserve := hserves got hgot
    have hne : got.map (spentOn s.states a) ≠ [] := by
      intro h
      rw [List.map_eq_nil_iff.mp h] at hgot
      exact hnil hgot.symm.eq_nil
    unfold Ledger.total at hserve
    rw [if_neg hne] at hserve
    show s.ledger.Serves o _ none s'.states.ledger
    rw [hdone.states]
    exact hserve

end

end YpfRuta.Actors
