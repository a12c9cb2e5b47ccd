/-
  Frames: what a handler keeps of its role state, and which messages it may send,
  however its sends end and whether or not it returns. One rule for each primitive
  and each way handlers are put together.
-/
import YpfRuta.Server.Runtime

namespace YpfRuta.Server

variable {α σ β γ : Type}

/-- The handles a handler leaves, however it ends. -/
def left : EStateM.Result Fault (Task α σ) β → Task α σ
  | .ok _ t => t
  | .error _ t => t

/-- An invariant of the role state, a condition on the messages sent, and whether the
    connection may be cut. -/
structure Frame (α σ : Type) where
  inv : σ → Prop
  sent : SocketAddr × Message α → Prop
  cuts : Prop

/-- `t'` comes from `t` under the frame. -/
structure Framed (F : Frame α σ) (t t' : Task α σ) : Prop where
  inv : F.inv t'.self
  sent : ∃ out, t'.sent = t.sent ++ out ∧ ∀ m ∈ out, F.sent m
  connected : ¬ F.cuts → t.connected = true → t'.connected = true

/-- The handler stays within the frame. -/
def Within (F : Frame α σ) (x : Handler α σ β) : Prop :=
  ∀ t, F.inv t.self → Framed F t (left (x t))

section Rules

variable {F : Frame α σ}

theorem Framed.refl {t : Task α σ} (h : F.inv t.self) : Framed F t t :=
  ⟨h, ⟨[], (List.append_nil _).symm, fun _ hm => by cases hm⟩, fun _ hc => hc⟩

theorem Framed.trans {t t' t'' : Task α σ} (h : Framed F t t') (h' : Framed F t' t'') :
    Framed F t t'' := by
  obtain ⟨out, hout, hmem⟩ := h.sent
  obtain ⟨out', hout', hmem'⟩ := h'.sent
  refine ⟨h'.inv, ⟨out ++ out', ?_, ?_⟩, fun hF hc => h'.connected hF (h.connected hF hc)⟩
  · rw [hout', hout, List.append_assoc]
  · intro m hm
    exact (List.mem_append.mp hm).elim (hmem m) (hmem' m)

/-- A turn that changes neither the role state nor what was sent. -/
theorem Framed.same {t t' : Task α σ} (h : F.inv t.self) (hself : t'.self = t.self)
    (hsent : t'.sent = t.sent)
    (hconn : ¬ F.cuts → t.connected = true → t'.connected = true) : Framed F t t' :=
  ⟨hself ▸ h, ⟨[], by rw [hsent, List.append_nil], fun _ hm => by cases hm⟩, hconn⟩

theorem Framed.send {t t' : Task α σ} (h : F.inv t.self) (hself : t'.self = t.self)
    {m : SocketAddr × Message α} (hm : F.sent m) (hsent : t'.sent = t.sent ++ [m])
    (hconn : t'.connected = t.connected) : Framed F t t' := by
  refine ⟨hself ▸ h, ⟨[m], hsent, fun x hx => ?_⟩, fun _ hc => hconn.trans hc⟩
  rw [List.mem_singleton.mp hx]
  exact hm

/-- A frame on the same states that lets more messages out. -/
theorem Framed.mono {F' : Frame α σ} {t t' : Task α σ} (h : Framed F t t')
    (hinv : ∀ s, F.inv s → F'.inv s) (hsent : ∀ m, F.sent m → F'.sent m)
    (hcuts : F.cuts → F'.cuts) : Framed F' t t' := by
  obtain ⟨out, hout, hmem⟩ := h.sent
  exact ⟨hinv _ h.inv, ⟨out, hout, fun m hm => hsent m (hmem m hm)⟩,
    fun hF => h.connected (mt hcuts hF)⟩

theorem within_pure (b : β) : Within F (pure b : Handler α σ β) := fun _ h => Framed.refl h

theorem within_throw (e : Fault) : Within F (throw e : Handler α σ β) := fun _ h => Framed.refl h

theorem within_panics (message : String) : Within F (panics message : Handler α σ β) :=
  within_throw _

theorem within_bind {x : Handler α σ β} {f : β → Handler α σ γ} (hx : Within F x)
    (hf : ∀ b, Within F (f b)) : Within F (x >>= f) := by
  intro t h
  have hx' := hx t h
  cases hr : x t with
  | ok b t' =>
    rw [hr] at hx'
    rw [bind_ok hr]
    exact hx'.trans (hf b t' hx'.inv)
  | error e t' =>
    rw [hr] at hx'
    rw [bind_error hr]
    exact hx'

/-- The rest of a handler may rely on what it reads of its state. -/
theorem within_getSelf {f : σ → Handler α σ γ} (hf : ∀ s, F.inv s → Within F (f s)) :
    Within F (getSelf >>= f) := fun t h => hf t.self h t h

theorem within_modifySelf {g : σ → σ} (hg : ∀ s, F.inv s → F.inv (g s)) :
    Within F (modifySelf g : Handler α σ Unit) :=
  fun t h => ⟨hg t.self h, ⟨[], (List.append_nil _).symm, fun _ hm => by cases hm⟩,
    fun _ hc => hc⟩

theorem within_instantNow : Within F (instantNow : Handler α σ Nat) := fun _ h => Framed.refl h

theorem within_addOne (n : UInt32) : Within F (addOne n : Handler α σ UInt32) := by
  unfold addOne
  split
  · exact within_pure _
  · exact within_panics _

theorem within_subOne (n : Nat) : Within F (subOne n : Handler α σ Nat) := by
  unfold subOne
  split
  · exact within_panics _
  · exact within_pure _

theorem within_send {msg : Message α} {addr : SocketAddr} (hm : F.sent (addr, msg)) :
    Within F (send msg addr) := by
  intro t h
  obtain ⟨self, connected, outcomes, now, sent, told, commands⟩ := t
  cases connected with
  | false => exact Framed.refl h
  | true =>
    cases outcomes with
    | nil => exact Framed.send h rfl hm rfl rfl
    | cons o rest =>
      cases o with
      | none => exact Framed.send h rfl hm rfl rfl
      | some e => exact Framed.same h rfl rfl fun _ hc => hc

theorem within_tell (msg : NodeToStationMsg) : Within F (tell msg : Handler α σ Unit) :=
  fun _ h => Framed.same h rfl rfl fun _ hc => hc

theorem within_execute (opId : OpId) (op : Operation α) :
    Within F (execute opId op : Handler α σ Unit) :=
  fun _ h => Framed.same h rfl rfl fun _ hc => hc

theorem within_disconnect (hF : F.cuts) : Within F (disconnect : Handler α σ Unit) :=
  fun _ h => Framed.same h rfl rfl fun hn => absurd hF hn

theorem within_reconnect : Within F (reconnect : Handler α σ Unit) := by
  intro t h
  obtain ⟨self, connected, outcomes, now, sent, told, commands⟩ := t
  cases outcomes with
  | nil => exact Framed.same h rfl rfl fun _ _ => rfl
  | cons o rest => cases o <;> exact Framed.same h rfl rfl fun _ _ => rfl

theorem within_errorOf {x : Handler α σ Unit} (hx : Within F x) : Within F (errorOf x) := by
  intro t h
  have hx' := hx t h
  unfold errorOf
  split <;> rename_i hr <;> rw [hr] at hx' <;> exact hx'

theorem within_forEach {body : γ → Handler α σ Unit} (hbody : ∀ x, Within F (body x)) :
    ∀ xs : List γ, Within F (forEach body xs)
  | [] => within_pure _
  | x :: xs => within_bind (hbody x) fun _ => within_forEach hbody xs

end Rules

end YpfRuta.Server
