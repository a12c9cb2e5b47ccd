/-
  The cluster over streams takes the steps of the cluster over links, and can take every one of
  them: a message whose turn it is to be read is popped, written, read and passed on first.
-/
import YpfRuta.Cluster.Launch
import YpfRuta.Cluster.Streams

namespace YpfRuta.Cluster

open Server Lib Network

namespace Wire

open Eviction (decode)

/-! ## A message on its way -/

/-- A running task with nothing under way but its queue. -/
structure Idle (s : Loop (Message F32)) (queue : List (Message F32)) : Prop where
  running : s.running = true
  coming : s.coming = []
  arrived : s.arrived = []
  reading : s.reading = .start
  queue : s.queue = queue
  writing : s.writing = none
  beat : s.beat = []

section Transport

variable {p q : Eviction.Peer} {m : Message F32} {later queue : List (Message F32)}
  {payload : List UInt8}

/-- An idle task pops a message and writes it in one go. -/
theorem Idle.writes (h : Idle p.loop (m :: later)) (hmsg : serializeMessage m = .ok payload) :
    ∃ p₁ p₂, p.act .pop = some p₁ ∧ p.wrote p₁ = [] ∧ p.passed p₁ = [] ∧
      p₁.act (.write (Frame.message payload).bytes.length) = some p₂ ∧
      p₁.loop.Untorn decode (.write (Frame.message payload).bytes.length) ∧
      p₁.wrote p₂ = (Frame.message payload).bytes ∧ p₁.passed p₂ = [] ∧ Idle p₂.loop later := by
  obtain ⟨accepted, running, coming, arrived, reading, _, writing, beat, framed, out,
    forwarded⟩ := p
  obtain ⟨rfl, rfl, rfl, rfl, rfl, rfl, rfl⟩ := h
  refine ⟨⟨accepted ++ [], true, [], [], .start, later, some (Frame.message payload).bytes, [],
      framed ++ (Frame.message payload).bytes, out, forwarded⟩,
    ⟨accepted ++ [] ++ [], true, [], [], .start, later, none, [],
      framed ++ (Frame.message payload).bytes, out ++ (Frame.message payload).bytes, forwarded⟩,
    ?_, ?_, ?_, ?_, fun _ => rfl, ?_, ?_, ⟨rfl, rfl, rfl, rfl, rfl, rfl, rfl⟩⟩
  · simp [Eviction.Peer.act, Loop.step, hmsg, LoopStep.queued]
  · simp [Eviction.Peer.wrote]
  · simp [Eviction.Peer.passed]
  · simp [Eviction.Peer.act, Loop.step, Loop.restart, LoopStep.queued]
  · simp [Eviction.Peer.wrote]
  · simp [Eviction.Peer.passed]

theorem untorn_read {s : Loop (Message F32)} (h : s.writing = none) (n : Nat) :
    s.Untorn decode (.read n) := by
  unfold Loop.Untorn
  dsimp only
  split
  · exact h
  · exact h
  · exact True.intro

/-- An idle task reads a whole frame, its length first, and passes the message on. -/
theorem Idle.reads (h : Idle q.loop queue) (hfits : (Frame.message payload).Fits)
    (hempty : payload ≠ []) (hread : decode payload = some m) :
    ∃ q₁ q₂ q₃ q₄,
      (q.receive (Frame.message payload).bytes).act (.arrive (Frame.message payload).bytes.length) =
        some q₁ ∧
      q₁.act (.read 2) = some q₂ ∧ q₂.act (.read payload.length) = some q₃ ∧
      q₃.act .forward = some q₄ ∧
      q₁.loop.writing = none ∧ q₂.loop.writing = none ∧ q₃.loop.writing = none ∧
      (q.loop.out = q₁.loop.out ∧ q₁.loop.out = q₂.loop.out ∧ q₂.loop.out = q₃.loop.out ∧
        q₃.loop.out = q₄.loop.out) ∧
      (q.loop.forwarded = q₁.loop.forwarded ∧ q₁.loop.forwarded = q₂.loop.forwarded ∧
        q₂.loop.forwarded = q₃.loop.forwarded ∧ q₄.loop.forwarded = q₃.loop.forwarded ++ [m]) ∧
      Idle q₄.loop queue := by
  have hlen : fromBeBytes (u16Bytes (UInt16.ofNat payload.length)) = payload.length := by
    rw [u16Bytes_ofNat]
    have := hfits.length
    simp only [Frame.payload] at this
    omega
  have hpos : 0 < payload.length := List.length_pos_of_ne_nil hempty
  have htwo : (u16Bytes (UInt16.ofNat payload.length)).length = 2 := u16Bytes_length _
  have hclass : Frame.classify payload = .message payload := hfits.classified
  obtain ⟨accepted, running, coming, arrived, reading, waiting, writing, beat, framed, out,
    forwarded⟩ := q
  obtain ⟨rfl, rfl, rfl, rfl, rfl, rfl, rfl⟩ := h
  refine ⟨⟨accepted ++ [], true, [], u16Bytes (UInt16.ofNat payload.length) ++ payload, .start,
      waiting, none, [], framed, out, forwarded⟩,
    ⟨accepted ++ [] ++ [], true, [], payload, .payload payload.length [], waiting, none, [],
      framed, out, forwarded⟩,
    ⟨accepted ++ [] ++ [] ++ [], true, [], [], .forwarding m, waiting, none, [], framed, out,
      forwarded⟩,
    ⟨accepted ++ [] ++ [] ++ [] ++ [], true, [], [], .start, waiting, none, [], framed, out,
      forwarded ++ [m]⟩,
    ?_, ?_, ?_, ?_, rfl, rfl, rfl, ⟨rfl, rfl, rfl, rfl⟩, ⟨rfl, rfl, rfl, rfl⟩,
    ⟨rfl, rfl, rfl, rfl, rfl, rfl, rfl⟩⟩
  · simp [Eviction.Peer.act, Eviction.Peer.receive, Loop.receive, Loop.step, LoopStep.queued,
      Frame.bytes, Frame.payload]
  · have htake : (u16Bytes (UInt16.ofNat payload.length) ++ payload).take 2 =
        u16Bytes (UInt16.ofNat payload.length) := List.take_left' htwo
    have hdrop : (u16Bytes (UInt16.ofNat payload.length) ++ payload).drop 2 = payload :=
      List.drop_left' htwo
    simp [Eviction.Peer.act, Loop.step, LoopStep.queued, htake, hdrop, Reading.start, Reading.read,
      htwo, hlen, Reading.fill, hpos, Loop.progress]
  · simp [Eviction.Peer.act, Loop.step, LoopStep.queued, Reading.read, Reading.fill,
      Reading.complete, hclass, hread, Loop.progress]
  · simp [Eviction.Peer.act, Loop.step, LoopStep.queued, Loop.restart, Reading.start]

end Transport

section Leads

variable [AddrHash] {s s' t : State} {src dst a b : SocketAddr} {p p' q q' : Eviction.Peer}
  {msgs : List (Message F32)} {m : Message F32} {l : LoopStep}

/-- `t` differs from `s` in the stream of `src` and `dst` and in what waits at `dst`, and steps
    of these two tasks lead there. -/
structure Between (s t : State) (src dst : SocketAddr) (p q : Eviction.Peer)
    (msgs : List (Message F32)) : Prop where
  node : t.node = s.node
  inbox : ∀ a, t.inbox a = s.inbox a ++ if a = dst then msgs.map fun m => (src, m) else []
  sender : t.peer src dst = p
  receiver : t.peer dst src = q
  others : ∀ a b, ¬ (a = src ∧ b = dst) → ¬ (a = dst ∧ b = src) → t.peer a b = s.peer a b
  leads : ∃ ls, ls.filterMap Label.cluster? = [] ∧ Lib.run State.step s ls = some t ∧
    Meets State.step Label.Permitted s ls

theorem Between.start (s : State) (src dst : SocketAddr) :
    Between s s src dst (s.peer src dst) (s.peer dst src) [] where
  node := rfl
  inbox a := by
    rw [List.map_nil, ite_self, List.append_nil]
  sender := rfl
  receiver := rfl
  others _ _ _ _ := rfl
  leads := ⟨[], rfl, rfl, True.intro⟩

/-- One more step of a task. -/
theorem leads_task (h : ∃ ls, ls.filterMap Label.cluster? = [] ∧ Lib.run State.step s ls = some t ∧
      Meets State.step Label.Permitted s ls)
    (hs : t.task a b l = some s') (hl : l ≠ .stop) (hu : (t.peer a b).loop.Untorn decode l) :
    ∃ ls, ls.filterMap Label.cluster? = [] ∧ Lib.run State.step s ls = some s' ∧
      Meets State.step Label.Permitted s ls := by
  obtain ⟨ls, hnone, hrun, hm⟩ := h
  refine ⟨ls ++ [Label.task a b l], ?_, run_concat.mpr ⟨t, hrun, hs⟩,
    (meets_concat hrun).mpr ⟨hm, hl, hu⟩⟩
  rw [List.filterMap_append, hnone]
  rfl

omit [AddrHash] in
theorem act_task (hne : a ≠ b) (hl : l.queued = [])
    (hroom : l = .forward → (s.inbox a).length < MSG_BUFF_SIZE)
    (hp : (s.peer a b).act l = some p) : s.task a b l = some (s.setPeer a b p) := by
  have hopen : ¬ (a = b ∨ l = .forward ∧ MSG_BUFF_SIZE ≤ (s.inbox a).length) := by
    rintro (hab | ⟨hf, hfull⟩)
    · exact hne hab
    · exact absurd (hroom hf) (Nat.not_lt.mpr hfull)
  have hmap : ((s.peer a b).act l).map (s.setPeer a b) = some (s.setPeer a b p) := by
    rw [hp]
    rfl
  cases l with
  | enqueue msg => cases hl
  | _ => exact (if_neg hopen).trans hmap

/-- A step of the sender, which passes nothing on. -/
theorem Between.send (h : Between s t src dst p q msgs) (hne : src ≠ dst) (hp : p.act l = some p')
    (hl : l.queued = [] ∧ l ≠ .stop ∧ l ≠ .forward) (hu : p.loop.Untorn decode l)
    (hpassed : p.passed p' = []) :
    ∃ t', Between s t' src dst p' (q.receive (p.wrote p')) msgs := by
  have hp' : (t.peer src dst).act l = some p' := h.sender ▸ hp
  have hs := act_task hne hl.1 (fun hf => absurd hf hl.2.2) hp'
  refine ⟨t.setPeer src dst p', h.node, fun a => ?_, setPeer_self, ?_, fun a b hab hba => ?_,
    leads_task h.leads hs hl.2.1 (h.sender ▸ hu)⟩
  · rw [← h.inbox a]
    show (if a = src then t.inbox src ++ ((t.peer src dst).passed p').map _ else t.inbox a) = _
    rw [h.sender, hpassed, List.map_nil, List.append_nil]
    split
    · rename_i ha
      rw [ha]
    · rfl
  · rw [setPeer_back hne, h.sender, h.receiver]
  · rw [setPeer_other hab hba]
    exact h.others a b hab hba

omit [AddrHash] in
theorem receive_nil (p : Eviction.Peer) : p.receive [] = p := by
  unfold Eviction.Peer.receive
  rw [Loop.receive_nil]

/-- A step of the receiver, which writes nothing. -/
theorem Between.receive (h : Between s t src dst p q msgs) (hne : src ≠ dst)
    (hq : q.act l = some q') (hl : l.queued = [] ∧ l ≠ .stop)
    (hroom : l = .forward → (t.inbox dst).length < MSG_BUFF_SIZE) (hu : q.loop.Untorn decode l)
    (hwrote : q.wrote q' = []) :
    ∃ t', Between s t' src dst p q' (msgs ++ q.passed q') := by
  have hq' : (t.peer dst src).act l = some q' := h.receiver ▸ hq
  have hs := act_task hne.symm hl.1 hroom hq'
  refine ⟨t.setPeer dst src q', h.node, fun a => ?_, ?_, setPeer_self, fun a b hab hba => ?_,
    leads_task h.leads hs hl.2 (h.receiver ▸ hu)⟩
  · show (if a = dst then t.inbox dst ++ ((t.peer dst src).passed q').map _ else t.inbox a) = _
    rw [h.receiver]
    split
    · rename_i ha
      rw [ha, h.inbox, if_pos rfl, List.map_append, List.append_assoc]
    · rename_i ha
      rw [h.inbox, if_neg ha]
  · rw [setPeer_back hne.symm, h.receiver, hwrote, h.sender, receive_nil]
  · rw [setPeer_other hba hab]
    exact h.others a b hab hba

omit [AddrHash] in
theorem wrote_nil (h : p.loop.out = p'.loop.out) : p.wrote p' = [] := by
  unfold Eviction.Peer.wrote
  rw [h, List.drop_length]

omit [AddrHash] in
theorem passed_nil (h : p.loop.forwarded = p'.loop.forwarded) : p.passed p' = [] := by
  unfold Eviction.Peer.passed
  rw [h, List.drop_length]

/-- **A message gets through**: the first one of an idle sender comes to wait at the receiver. -/
theorem transport (hne : src ≠ dst) {later queue : List (Message F32)}
    (hp : Idle (s.peer src dst).loop (m :: later)) (hq : Idle (s.peer dst src).loop queue)
    (hroom : (s.inbox dst).length < MSG_BUFF_SIZE) (hm : Portable m) :
    ∃ t p q, Between s t src dst p q [m] ∧ Idle p.loop later ∧ Idle q.loop queue := by
  obtain ⟨payload, hmsg, hread⟩ := hm.restores
  obtain ⟨hfits, hdecode⟩ := hm.frame hmsg
  have hempty : payload ≠ [] := by
    obtain ⟨t, rest, rfl, -⟩ := message_type hmsg
    exact List.cons_ne_nil t rest
  obtain ⟨p₁, p₂, hpop, hw₁, hf₁, hwrite, hu₁, hw₂, hf₂, hidle⟩ := hp.writes hmsg
  obtain ⟨q₁, q₂, q₃, q₄, harrive, hlen, hbody, hforward, hn₁, hn₂, hn₃, ⟨ho₁, ho₂, ho₃, ho₄⟩,
    ⟨hg₁, hg₂, hg₃, hg₄⟩, hidle'⟩ := hq.reads hfits hempty hdecode
  obtain ⟨t₁, h₁⟩ := (Between.start s src dst).send hne hpop ⟨rfl, by decide, by decide⟩
    True.intro hf₁
  rw [hw₁, receive_nil] at h₁
  obtain ⟨t₂, h₂⟩ := h₁.send hne hwrite ⟨rfl, (fun h => by cases h), (fun h => by cases h)⟩ hu₁ hf₂
  rw [hw₂] at h₂
  obtain ⟨t₃, h₃⟩ := h₂.receive hne harrive ⟨rfl, fun h => by cases h⟩ (fun h => by cases h)
    True.intro (wrote_nil ho₁)
  obtain ⟨t₄, h₄⟩ := h₃.receive hne hlen ⟨rfl, fun h => by cases h⟩ (fun h => by cases h)
    (untorn_read hn₁ 2) (wrote_nil ho₂)
  obtain ⟨t₅, h₅⟩ := h₄.receive hne hbody ⟨rfl, fun h => by cases h⟩ (fun h => by cases h)
    (untorn_read hn₂ _) (wrote_nil ho₃)
  rw [passed_nil (p := (s.peer dst src).receive _) hg₁, passed_nil hg₂, passed_nil hg₃] at h₅
  change Between s t₅ src dst p₂ q₃ [] at h₅
  have hsame : t₅.inbox dst = s.inbox dst := by
    rw [h₅.inbox dst, List.map_nil, ite_self, List.append_nil]
  obtain ⟨t₆, h₆⟩ := h₅.receive hne hforward ⟨rfl, fun h => by cases h⟩
    (fun _ => hsame ▸ hroom) hn₃ (wrote_nil ho₄)
  have hone : q₃.passed q₄ = [m] := by
    unfold Eviction.Peer.passed
    rw [hg₄, List.drop_left]
  rw [hone] at h₆
  exact ⟨t₆, p₂, q₄, h₆, hidle, hidle'⟩

end Leads

/-! ## Runs -/

/-- Between two steps of the nodes nothing is under way but the queues, which are the links. -/
structure Quiet (s : State) (c : Cluster.State F32) : Prop where
  node : s.node = c.node
  inbox : ∀ a, s.inbox a = []
  idle : ∀ a, c.down a = false → ∀ b, Idle (s.peer a b).loop (c.link a b)

section Runs

variable {s s' t : State} {c c' d e : Cluster.State F32} {a b : SocketAddr}

theorem Quiet.write (h : Quiet t e) (hd : Moves e.node d a) :
    Quiet (t.write d) (behind e.link d) where
  node := rfl
  inbox := h.inbox
  idle x hx y := by
    have hup : d.down x = false := hx
    have hold : e.down x = false := by
      by_cases hxa : x = a
      · subst hxa
        exact hd.up
      · rw [← hup]
        unfold Cluster.State.down
        rw [hd.others x hxa]
    have hidle := h.idle x hold y
    obtain hp | ⟨hdown, -⟩ := peer_write t d x y
    · rw [hp, sendAll_running hidle.running]
      exact ⟨hidle.running, hidle.coming, hidle.arrived, hidle.reading,
        congrArg (· ++ d.link x y) hidle.queue, hidle.writing, hidle.beat⟩
    · cases hup.symm.trans hdown

variable [AddrHash]

/-- **A step over links is one over streams**: a message is carried over when it is read. -/
theorem Quiet.step {l : Cluster.Label F32} (h : Quiet s c) (hw : Writable c)
    (hl : Permits c.node l) (ha : Attended c l) (hs : c.step l = some c') :
    ∃ ls s', ls.filterMap Label.cluster? = [l] ∧ Lib.run State.step s ls = some s' ∧
      Meets State.step Label.Permitted s ls ∧ Quiet s' c' := by
  have hidle : ∀ {t : State}, t.node = c.node → t.idle = ⟨c.node, fun _ _ => []⟩ := fun ht =>
    congrArg (Cluster.State.mk · _) ht
  by_cases hplain : ∀ src dst, l ≠ .deliver src dst
  · have hstep : s.step (.cluster l) = (s.idle.step l).map s.write := by
      cases l with
      | deliver src dst => exact absurd rfl (hplain src dst)
      | _ => rfl
    obtain ⟨hbehind, hmoves⟩ := step_behind c.node c.link hplain
    obtain ⟨d, hd, rfl⟩ := Option.map_eq_some_iff.mp (hbehind.symm.trans hs)
    obtain ⟨a, hmoved⟩ := hmoves d hd
    have hs' : s.step (.cluster l) = some (s.write d) := by
      rw [hstep, hidle h.node, hd]
      rfl
    exact ⟨[.cluster l], _, rfl, run_cons.mpr ⟨_, hs', rfl⟩,
      (meets_cons hs').mpr ⟨(h.node ▸ hl : Permits s.node l), True.intro⟩, h.write hmoved⟩
  · simp only [ne_eq, not_forall, not_not] at hplain
    obtain ⟨src, dst, rfl⟩ := hplain
    obtain ⟨hne, hsrc⟩ := ha
    dsimp only [Cluster.State.step] at hs
    split at hs
    · rename_i n m later hup hlink
      cases hs
      obtain ⟨t, p, q, ht, hp, hq⟩ := transport hne (hlink ▸ h.idle src hsrc dst)
        (h.idle dst (down_of_up hup) src) (by rw [h.inbox]; decide)
        (Travels.portable (hw.link src dst m (by rw [hlink]; exact List.mem_cons_self)))
      obtain ⟨ls, hnone, hrun, hm⟩ := ht.leads
      have hnode : t.node = c.node := ht.node.trans h.node
      have hinbox : t.inbox dst = [(src, m)] := by
        rw [ht.inbox, h.inbox, if_pos rfl]
        rfl
      have hs' : t.step (.cluster (.deliver src dst)) = some ((t.setInbox dst []).write
          (Cluster.State.act ⟨c.node, fun _ _ => []⟩ dst (n.receive src m) (.nodeMsg (.ok m))
            0)) := by
        have htup : t.idle.up dst = some n := by
          rw [hidle hnode]
          exact hup
        dsimp only [State.step]
        rw [htup, hinbox]
        dsimp only
        rw [if_pos rfl, hidle hnode]
      have hquiet : Quiet (t.setInbox dst []) (c.setLink src dst later) := by
        refine ⟨hnode, fun a => ?_, fun a hup' b => ?_⟩
        · show (if a = dst then [] else t.inbox a) = []
          split
          · rfl
          · rename_i ha
            rw [ht.inbox, h.inbox, if_neg ha]
            rfl
        · show Idle (t.peer a b).loop (if a = src ∧ b = dst then later else c.link a b)
          by_cases hab : a = src ∧ b = dst
          · obtain ⟨rfl, rfl⟩ := hab
            rw [if_pos ⟨rfl, rfl⟩, ht.sender]
            exact hp
          · rw [if_neg hab]
            by_cases hba : a = dst ∧ b = src
            · obtain ⟨rfl, rfl⟩ := hba
              rw [ht.receiver]
              exact hq
            · rw [ht.others a b hab hba]
              exact h.idle a hup' b
      have hpermitted : Label.Permitted t (.cluster (.deliver src dst)) := True.intro
      refine ⟨ls ++ [.cluster (.deliver src dst)], _, ?_, run_concat.mpr ⟨t, hrun, hs'⟩,
        (meets_concat hrun).mpr ⟨hm, hpermitted⟩, ?_⟩
      · rw [List.filterMap_append, hnone]
        rfl
      · have hact := act_behind c.node (c.setLink src dst later).link dst (n.receive src m)
          (.nodeMsg (.ok m)) 0
        change Quiet _ (Cluster.State.act ⟨c.node, (c.setLink src dst later).link⟩ dst
          (n.receive src m) (.nodeMsg (.ok m)) 0)
        rw [hact]
        exact hquiet.write (moves_act (down_of_up hup) _ _ 0)
    · cases hs

/-- **A run over links is one over streams.** -/
theorem Quiet.run {ks : List (Cluster.Label F32)} (h : Quiet s c) (hw : Writable c)
    (hr : Cluster.run c ks = some c')
    (hm : Meets Cluster.State.step (fun c l => Permits c.node l ∧ Attended c l) c ks) :
    ∃ ls s', ls.filterMap Label.cluster? = ks ∧ Lib.run State.step s ls = some s' ∧
      Meets State.step Label.Permitted s ls := by
  induction ks generalizing s c with
  | nil => exact ⟨[], s, rfl, rfl, True.intro⟩
  | cons k ks ih =>
    obtain ⟨d, hd, hrest⟩ := run_cons.mp hr
    obtain ⟨⟨hl, ha⟩, hlater⟩ := (meets_cons hd).mp hm
    obtain ⟨ls, t, hls, hrun, hmeets, hquiet⟩ := h.step hw hl ha hd
    obtain ⟨ls', s', hls', hrun', hmeets'⟩ := ih hquiet (hw.step hl hd) hrest hlater
    refine ⟨ls ++ ls', s', ?_, run_append.mpr ⟨t, hrun, hrun'⟩,
      (meets_append hrun).mpr ⟨hmeets, hmeets'⟩⟩
    rw [List.filterMap_append, hls, hls']
    rfl

/-- **The wire is invisible.** From a cluster of connected nodes with addresses that can be
    written, streams between any two of them, and nothing on these, every run over streams is a
    run over links of messages: however the bytes are cut up and heartbeats come between them,
    elections, joins, promotions and crashes included, as long as the streams of running nodes
    stay up, no branch of a `select!` completes while another one of it is under way, and the
    requests and results that come in from outside survive their codecs and fit a frame. The
    streams carry exactly the messages under way. And every run over links, of such requests
    and results, in which nodes read from running nodes is a run over such streams. -/
theorem wire_refined {s₀ : State}
    (hnodes : ∀ a n, s₀.node a = some n → Writes n.runtime ∧ n.connected = true)
    (hfresh : ∀ a b, s₀.peer a b = .start []) (hempty : ∀ a, s₀.inbox a = []) :
    (∀ ls s, Lib.run State.step s₀ ls = some s → Meets State.step Label.Permitted s₀ ls →
      ∃ c, Cluster.run s₀.idle (ls.filterMap Label.cluster?) = some c ∧ Carries s c) ∧
    ∀ ks c, Cluster.run s₀.idle ks = some c →
      Meets Cluster.State.step (fun c l => Permits c.node l ∧ Attended c l) s₀.idle ks →
      ∃ ls s, ls.filterMap Label.cluster? = ks ∧ Lib.run State.step s₀ ls = some s ∧
        Meets State.step Label.Permitted s₀ ls ∧ Carries s c := by
  have hwritable : Writable s₀.idle := ⟨hnodes, fun a b m hm => by cases hm⟩
  have hinv : Inv s₀ s₀.idle := by
    refine ⟨rfl, fun a b => ?_, fun a b => ⟨[], ?_, ?_⟩, fun a _ b => ?_, hwritable⟩
    · rw [hfresh, hfresh]
      exact Flow.start
    · rw [hfresh]
      rfl
    · rw [hfresh]
      unfold State.waiting
      rw [hempty]
      rfl
    · rw [hfresh]
      rfl
  refine ⟨fun ls s hr hm => ?_, fun ks c hr hm => ?_⟩
  · obtain ⟨c, hc, hi⟩ := hinv.run hr hm
    exact ⟨c, hc, hi.carries⟩
  · have hquiet : Quiet s₀ s₀.idle := by
      refine ⟨rfl, hempty, fun a _ b => ?_⟩
      rw [hfresh]
      exact ⟨rfl, rfl, rfl, rfl, rfl, rfl, rfl⟩
    obtain ⟨ls, s, hls, hrun, hmeets⟩ := hquiet.run hwritable hr hm
    obtain ⟨c', hc', hi⟩ := hinv.run hrun hmeets
    rw [hls, hr] at hc'
    cases hc'
    exact ⟨ls, s, hls, hrun, hmeets, hi.carries⟩

end Runs

/-! ## A query in pieces -/

section Example

local instance wireHash : AddrHash := localHash

/-- A leader and a replica, and nothing on their streams. -/
def twoNodes : State where
  node := (launch (localAddr 5000) [localAddr 5001]).node
  peer _ _ := .start []
  inbox _ := []

/-- The leader's task of their stream goes on, or the replica's. -/
def ofLeader (l : LoopStep) : Label := .task (localAddr 5000) (localAddr 5001) l

def ofReplica (l : LoopStep) : Label := .task (localAddr 5001) (localAddr 5000) l

/-- A query. A heartbeat goes out before its log entry, which arrives in two pieces; the replica
    answers the heartbeat and acks the entry, and the result is written to the client. -/
def queryRun : List Label :=
  [.cluster (.request (localAddr 5000) 1 (.accountQuery 7) (localAddr 9000)), ofLeader .tick,
    ofLeader (.write 3), ofLeader .pop, ofLeader (.write 10), ofReplica (.arrive 13),
    ofReplica (.read 2), ofReplica (.read 1), ofReplica (.write 3), ofReplica (.read 2),
    ofReplica (.read 8), ofLeader (.write 6), ofReplica (.arrive 6), ofReplica (.read 6),
    ofReplica .forward, .cluster (.deliver (localAddr 5000) (localAddr 5001)), ofReplica .pop,
    ofReplica (.write 7), ofLeader (.arrive 10), ofLeader (.read 2), ofLeader (.read 1),
    ofLeader (.read 2), ofLeader (.read 5), ofLeader .forward,
    .cluster (.deliver (localAddr 5001) (localAddr 5000)),
    .cluster (.result (localAddr 5000) 0 (.accountQuery ⟨7, 0, []⟩)),
    .task (localAddr 5000) (localAddr 9000) .pop,
    .task (localAddr 5000) (localAddr 9000) (.write 28)]

theorem twoNodes_writes (a : SocketAddr) (n : NodeState F32) (hn : twoNodes.node a = some n) :
    Writes n.runtime ∧ n.connected = true := by
  have hview : Addressable (fullView [localAddr 5000, localAddr 5001]) := by
    unfold Addressable
    decide +kernel
  change (if a = localAddr 5000 then _ else if a ∈ [localAddr 5001] then _ else none) = some n at hn
  split at hn
  · rename_i ha
    subst ha
    obtain rfl := Option.some.inj hn
    exact ⟨⟨rfl, hview, rfl, rfl⟩, rfl⟩
  · split at hn
    · rename_i ha
      obtain rfl := List.mem_singleton.mp ha
      obtain rfl := Option.some.inj hn
      exact ⟨⟨rfl, hview, rfl, rfl⟩, rfl⟩
    · cases hn

/-- What is asked of the tasks alone. -/
def Smooth (s : State) : Label → Prop
  | .cluster _ => True
  | .task a b l => l ≠ .stop ∧ (s.peer a b).loop.Untorn decode l

instance (s : State) : DecidablePred (Smooth s)
  | .cluster _ => isTrue True.intro
  | .task a b l => inferInstanceAs (Decidable (l ≠ .stop ∧ (s.peer a b).loop.Untorn decode l))

instance (c : Cluster.State F32) : DecidablePred (Attended c)
  | .deliver src dst => inferInstanceAs (Decidable (src ≠ dst ∧ c.down src = false))
  | .request .. | .station .. | .result .. | .lost .. | .check .. | .crash _ | .promote _ =>
    isTrue True.intro

theorem queryRun_runs :
    Meets State.step Smooth twoNodes queryRun ∧
    Meets Cluster.State.step Attended twoNodes.idle (queryRun.filterMap Label.cluster?) ∧
    (Lib.run State.step twoNodes queryRun).any (fun s =>
      decide ((s.peer (localAddr 5000) (localAddr 9000)).loop.out =
        [0, 26, 6, 0, 0, 0, 1, 4, 0, 0, 0, 0, 0, 0, 0, 7, 0, 0, 0, 0, 0, 0, 0, 0, 0, 0, 0, 0])) =
      true := by
  decide +kernel

theorem queryRun_permits {l : Cluster.Label F32} (hl : l ∈ queryRun.filterMap Label.cluster?)
    (node : SocketAddr → Option (NodeState F32)) : Permits node l := by
  have hquery : Restores serializeOperationResult deserializeOperationResult
      (.accountQuery ⟨7, 0, []⟩) ∧ 5 + operationResultLen (.accountQuery ⟨7, 0, []⟩) ≤ 65535 :=
    ⟨accountQueryResult_restores _ (by decide), by decide⟩
  simp only [queryRun, ofLeader, ofReplica, List.filterMap_cons, Label.cluster?,
    List.filterMap_nil, List.mem_cons, List.not_mem_nil, or_false] at hl
  obtain rfl | rfl | rfl | rfl := hl
  · exact ⟨rfl, ⟨_, rfl, accountQuery_restores 7⟩, by decide⟩
  · exact True.intro
  · exact True.intro
  · intro n hn e he
    obtain ⟨opId, op⟩ := e
    cases op <;> first | exact hquery | exact True.intro

theorem queryRun_permitted : Meets State.step Label.Permitted twoNodes queryRun := by
  refine queryRun_runs.1.imp fun l hl s hsmooth => ?_
  cases l with
  | cluster l => exact queryRun_permits (List.mem_filterMap.mpr ⟨_, hl, rfl⟩) s.node
  | task a b l => exact hsmooth

/-- The response has been written to the client: a length, a type byte, the request's id and
    the result. The same steps of the nodes over links are again those of a run over streams. -/
theorem wire_refined_example :
    ∃ s c, Lib.run State.step twoNodes queryRun = some s ∧
      (s.peer (localAddr 5000) (localAddr 9000)).loop.out =
        [0, 26, 6, 0, 0, 0, 1, 4, 0, 0, 0, 0, 0, 0, 0, 7, 0, 0, 0, 0, 0, 0, 0, 0, 0, 0, 0, 0] ∧
      Cluster.run twoNodes.idle (queryRun.filterMap Label.cluster?) = some c ∧ Carries s c ∧
      ∃ ls t, ls.filterMap Label.cluster? = queryRun.filterMap Label.cluster? ∧
        Lib.run State.step twoNodes ls = some t ∧ Carries t c := by
  obtain ⟨-, hattended, hrun⟩ := queryRun_runs
  obtain ⟨s, hs, hout⟩ := (Option.any_eq_true _ _).mp hrun
  obtain ⟨hsound, hcomplete⟩ := wire_refined twoNodes_writes (fun _ _ => rfl) fun _ => rfl
  obtain ⟨c, hc, hcarries⟩ := hsound queryRun s hs queryRun_permitted
  obtain ⟨ls, t, hls, ht, -, hcarries'⟩ := hcomplete _ c hc
    (hattended.imp fun l hl c ha => ⟨queryRun_permits hl c.node, ha⟩)
  exact ⟨s, c, hs, of_decide_eq_true hout, hc, hcarries, ls, t, hls, ht, hcarries'⟩

end Example

end Wire

end YpfRuta.Cluster
