/-
  Local invariants: a predicate on each actor's own state and one on each
  message. When every handler keeps them, they hold of every reachable state,
  whatever the interleaving.
-/
import YpfRuta.Actors.Database

namespace YpfRuta.Actors

open Lib

variable {Amount : Type} [Currency Amount]

/-- One predicate for every actor and one for every message, by addressee. -/
structure LocalInv where
  router : ActorRouter → Prop
  account : AccountId → AccountActor → Prop
  card : CardKey → CardActor → Prop
  routerMsg : RouterMsg → Prop
  accountMsg : AccountId → AccountMsg → Prop
  cardMsg : CardKey → CardMsg → Prop
  event : ActorEvent → Prop

namespace LocalInv

/-- No requirement at all. -/
def trivial : LocalInv where
  router _ := True
  account _ _ := True
  card _ _ := True
  routerMsg _ := True
  accountMsg _ _ := True
  cardMsg _ _ := True
  event _ := True

/-- The message predicate of a send. -/
def Sent (I : LocalInv) : Send → Prop
  | .router m => I.routerMsg m
  | .account a m => I.accountMsg a m
  | .card k m => I.cardMsg k m
  | .event e => I.event e

/-- Every actor and every message of `s` meets its predicate. -/
structure Holds (I : LocalInv) (s : ActorDb) : Prop where
  router : I.router s.router
  account : ∀ a, I.account a (s.account a)
  card : ∀ k, I.card k (s.card k)
  routerBox : ∀ m ∈ s.routerBox, I.routerMsg m
  accountBox : ∀ a, ∀ m ∈ s.accountBox a, I.accountMsg a m
  cardBox : ∀ k, ∀ m ∈ s.cardBox k, I.cardMsg k m
  events : ∀ e ∈ s.events, I.event e
  reported : ∀ m ∈ s.reported, I.routerMsg m

/-- Every handler keeps `I`, given that `J` holds as well. -/
structure Preserved (J I : LocalInv) : Prop where
  router : ∀ r m, J.router r → J.routerMsg m → I.router r → I.routerMsg m →
    I.router (r.handle m).1 ∧ ∀ x ∈ (r.handle m).2, I.Sent x
  account : ∀ a x m, J.account a x → J.accountMsg a m → I.account a x → I.accountMsg a m →
    I.account a (x.handle m).1 ∧ ∀ y ∈ (x.handle m).2, I.Sent y
  card : ∀ k c m, J.card k c → J.cardMsg k m → I.card k c → I.cardMsg k m →
    I.card k (c.handle m).1 ∧ ∀ y ∈ (c.handle m).2, I.Sent y

theorem trivial_holds (s : ActorDb) : trivial.Holds s := by
  constructor <;> intros <;> exact True.intro

variable {I J : LocalInv}

/-- Delivering sends that meet their predicates keeps the invariant. -/
theorem Holds.deliver {s : ActorDb} {sends : List Send} (h : I.Holds s)
    (hs : ∀ x ∈ sends, I.Sent x) : I.Holds (s.deliver sends) := by
  have hr : ∀ m ∈ sends.filterMap Send.toRouter?, I.routerMsg m := by
    intro m hm
    obtain ⟨x, hx, hxm⟩ := List.mem_filterMap.mp hm
    cases x <;> simp only [Send.toRouter?, Option.some.injEq, reduceCtorEq] at hxm
    subst hxm
    exact hs _ hx
  refine ⟨h.router, h.account, h.card, ?_, ?_, ?_, ?_, ?_⟩
  · intro m hm
    exact (List.mem_append.mp hm).elim (h.routerBox m) (hr m)
  · intro a m hm
    refine (List.mem_append.mp hm).elim (h.accountBox a m) fun hm => ?_
    obtain ⟨x, hx, hxm⟩ := List.mem_filterMap.mp hm
    cases x <;> simp only [Send.toAccount?, Option.ite_none_right_eq_some, Option.some.injEq,
      reduceCtorEq] at hxm
    obtain ⟨rfl, rfl⟩ := hxm
    exact hs _ hx
  · intro k m hm
    refine (List.mem_append.mp hm).elim (h.cardBox k m) fun hm => ?_
    obtain ⟨x, hx, hxm⟩ := List.mem_filterMap.mp hm
    cases x <;> simp only [Send.toCard?, Option.ite_none_right_eq_some, Option.some.injEq,
      reduceCtorEq] at hxm
    obtain ⟨rfl, rfl⟩ := hxm
    exact hs _ hx
  · intro e he
    refine (List.mem_append.mp he).elim (h.events e) fun he => ?_
    obtain ⟨x, hx, hxe⟩ := List.mem_filterMap.mp he
    cases x <;> simp only [Send.toNode?, Option.some.injEq, reduceCtorEq] at hxe
    subst hxe
    exact hs _ hx
  · intro m hm
    exact (List.mem_append.mp hm).elim (h.reported m) (hr m)

/-! One actor handles one message. -/

theorem Holds.routerStep {s : ActorDb} {m : RouterMsg} {rest : List RouterMsg} (h : I.Holds s)
    (hbox : s.routerBox = m :: rest) (hr : I.router (s.router.handle m).1)
    (hs : ∀ x ∈ (s.router.handle m).2, I.Sent x) : I.Holds (s.routerStep m rest) := by
  refine Holds.deliver { h with router := hr, routerBox := ?_ } hs
  intro m' hm'
  exact h.routerBox m' (by rw [hbox]; exact List.mem_cons_of_mem _ hm')

theorem Holds.accountStep {s : ActorDb} {a : AccountId} {m : AccountMsg} {rest : List AccountMsg}
    (h : I.Holds s) (hbox : s.accountBox a = m :: rest)
    (ha : I.account a ((s.account a).handle m).1)
    (hs : ∀ x ∈ ((s.account a).handle m).2, I.Sent x) : I.Holds (s.accountStep a m rest) := by
  refine Holds.deliver { h with account := ?_, accountBox := ?_ } hs
  · intro b
    by_cases hb : b = a
    · subst hb; simpa using ha
    · simpa [hb] using h.account b
  · intro b m' hm'
    by_cases hb : b = a
    · subst hb
      simp only [Function.update_self] at hm'
      exact h.accountBox b m' (by rw [hbox]; exact List.mem_cons_of_mem _ hm')
    · simp only [Function.update_of_ne hb] at hm'
      exact h.accountBox b m' hm'

theorem Holds.cardStep {s : ActorDb} {k : CardKey} {m : CardMsg} {rest : List CardMsg}
    (h : I.Holds s) (hbox : s.cardBox k = m :: rest) (hc : I.card k ((s.card k).handle m).1)
    (hs : ∀ x ∈ ((s.card k).handle m).2, I.Sent x) : I.Holds (s.cardStep k m rest) := by
  refine Holds.deliver { h with card := ?_, cardBox := ?_ } hs
  · intro b
    by_cases hb : b = k
    · subst hb; simpa using hc
    · simpa [hb] using h.card b
  · intro b m' hm'
    by_cases hb : b = k
    · subst hb
      simp only [Function.update_self] at hm'
      exact h.cardBox b m' (by rw [hbox]; exact List.mem_cons_of_mem _ hm')
    · simp only [Function.update_of_ne hb] at hm'
      exact h.cardBox b m' hm'

/-- **The local rule.** A step keeps a local invariant every handler keeps. -/
theorem Preserved.step (hp : Preserved J I) {s s' : ActorDb} {l : Label}
    (hj : J.Holds s) (hi : I.Holds s)
    (hexec : ∀ n o, l = .execute n o → I.routerMsg (.execute n o))
    (h : s.step l = some s') : I.Holds s' := by
  obtain ⟨n, o, rfl, rfl⟩ | ⟨m, rest, rfl, hbox, -, rfl⟩ | ⟨a, m, rest, rfl, hbox, rfl⟩ |
    ⟨k, m, rest, rfl, hbox, rfl⟩ := ActorDb.step_cases h
  · refine { hi with routerBox := ?_ }
    intro m hm
    simp only [ActorDb.execute, List.mem_append, List.mem_singleton] at hm
    exact hm.elim (hi.routerBox m) fun e => e ▸ hexec n o rfl
  · have hm : m ∈ s.routerBox := by rw [hbox]; exact List.mem_cons_self
    have hk := hp.router _ m hj.router (hj.routerBox m hm) hi.router (hi.routerBox m hm)
    exact hi.routerStep hbox hk.1 hk.2
  · have hm : m ∈ s.accountBox a := by rw [hbox]; exact List.mem_cons_self
    have hk := hp.account a _ m (hj.account a) (hj.accountBox a m hm) (hi.account a)
      (hi.accountBox a m hm)
    exact hi.accountStep hbox hk.1 hk.2
  · have hm : m ∈ s.cardBox k := by rw [hbox]; exact List.mem_cons_self
    have hk := hp.card k _ m (hj.card k) (hj.cardBox k m hm) (hi.card k) (hi.cardBox k m hm)
    exact hi.cardStep hbox hk.1 hk.2

/-- What holds of the initial actors holds of the empty database. -/
theorem holds_init (hr : I.router .new) (ha : ∀ a, I.account a (.new a))
    (hc : ∀ k : CardKey, I.card k (.new k.2 k.1)) : I.Holds ActorDb.init := by
  refine ⟨hr, ha, hc, ?_, ?_, ?_, ?_, ?_⟩ <;> simp [ActorDb.init]

end LocalInv

end YpfRuta.Actors
