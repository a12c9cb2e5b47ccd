/-
  Clusters as they stand once every node has joined: the state a run of the
  protocol starts from, built from the list of addresses.
-/
import YpfRuta.Cluster.Steady

namespace YpfRuta.Cluster

open Server Lib

variable {α : Type}

section Launch

variable [AddrHash]

/-- The cluster map that lists `members` under their ids. -/
def fullView : List SocketAddr → HashMap NodeId SocketAddr
  | [] => ∅
  | a :: members => (fullView members).insert (getIdGivenAddr a) a

/-- A leader and replicas with full views and nothing assigned. -/
def launch (leader : SocketAddr) (others : List SocketAddr) : State α where
  node a :=
    if a = leader then
      some (.start (.leader { Leader.start a with cluster := fullView (leader :: others) }))
    else if a ∈ others then
      some (.start (.replica { Replica.start a leader with cluster := fullView (leader :: others) }))
    else none
  link _ _ := []

theorem fullView_ids (members : List SocketAddr) :
    ∀ e ∈ (fullView members).entries, e.1 = getIdGivenAddr e.2 := by
  induction members with
  | nil => intro e he; cases he
  | cons a members ih =>
    intro e he
    rw [fullView, AList.entries_insert] at he
    rcases List.mem_cons.mp he with rfl | he
    · rfl
    · exact ih e (List.kerase_sublist _ _ |>.subset he)

theorem fullView_values {members : List SocketAddr} (h : (members.map getIdGivenAddr).Nodup) :
    (fullView members).values = members := by
  induction members with
  | nil => rfl
  | cons a members ih =>
    rw [List.map_cons, List.nodup_cons] at h
    have hnot : getIdGivenAddr a ∉ fullView members := by
      intro hmem
      obtain ⟨e, he, hid⟩ := List.mem_map.mp (AList.mem_keys.mp hmem)
      refine h.1 (List.mem_map.mpr ⟨e.2, ?_, ?_⟩)
      · rw [← ih h.2]
        exact List.mem_map_of_mem he
      · rw [← fullView_ids members e he, hid]
    have hvalues := ih h.2
    unfold HashMap.values at hvalues ⊢
    rw [fullView, AList.entries_insert_of_notMem hnot, List.map_cons, hvalues]

theorem fullView_view {leader : SocketAddr} {others : List SocketAddr}
    (h : ((leader :: others).map getIdGivenAddr).Nodup) (hnodup : others.Nodup) :
    View (fullView (leader :: others)) leader ⟨others, hnodup⟩ := by
  refine ⟨fullView_ids _, fun a => ?_⟩
  rw [fullView_values h, List.mem_cons]
  exact Iff.rfl

/-- Nodes with distinct ids form a cluster a steady run can start from. -/
theorem launch_fresh {leader : SocketAddr} {others : List SocketAddr}
    (h : ((leader :: others).map getIdGivenAddr).Nodup) (hnodup : others.Nodup) :
    Fresh (launch (α := α) leader others) leader ⟨others, hnodup⟩ := by
  have hmembers : (leader :: others).Nodup := h.of_map
  have hap : leader ∉ others := (List.nodup_cons.mp hmembers).1
  refine ⟨hap, ⟨_, if_pos rfl, rfl, rfl, rfl, rfl, rfl, fullView_view h hnodup⟩, ?_, ?_,
    fun _ _ => rfl⟩
  · intro i hi
    have hne : i ≠ leader := fun he => hap (he ▸ hi)
    exact ⟨_, (if_neg hne).trans (if_pos hi), rfl, rfl, rfl, rfl, rfl⟩
  · intro a ha hao
    exact (if_neg ha).trans (if_neg hao)

end Launch

end YpfRuta.Cluster
