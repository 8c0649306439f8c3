/-
Nodes and their paths.

In a schema whose modules have namespaces of their own, and in which no two data nodes, choices or cases below one node share
a name, such a node is told from all others by its namespace and its path (`Tree.Distinct.unique`).
-/
import YangDesign.Proofs.Schema.Resolution

namespace YangDesign.Schema

/-- whether nodes of the kind are data nodes, choices or cases -/
def NodeKind.isPlaced (k : NodeKind) : Bool :=
  k.isData || k.isInner

/-- the names of the data nodes, choices and cases among some nodes -/
def placedNames (ns : List Node) : List String :=
  (ns.filter (·.kind.isPlaced)).map Node.label

/-- modules have namespaces of their own, and data nodes, choices and cases have other names than their siblings -/
structure Tree.Distinct (t : Tree) : Prop where
  namespaces : (t.modules.map Module.namespaceUri).Nodup
  top : ∀ m ∈ t.modules, (placedNames m.statements).Nodup
  below : ∀ n ∈ t.nodes, (placedNames n.children).Nodup

theorem eq_of_placedNames {ns : List Node} (h : (placedNames ns).Nodup) {m n : Node} (hm : m ∈ ns) (hn : n ∈ ns)
    (hmk : m.kind.isPlaced = true) (hnk : n.kind.isPlaced = true) (hl : m.label = n.label) : m = n :=
  List.inj_on_of_nodup_map h (List.mem_filter.2 ⟨hm, hmk⟩) (List.mem_filter.2 ⟨hn, hnk⟩) hl

theorem NodeKind.isPlaced_of_isInner {k : NodeKind} (h : k.isInner = true) : k.isPlaced = true := by
  rw [isPlaced, h, Bool.or_true]

namespace Tree

variable {t : Tree}

/-- a node stands at the top of a module or below another node -/
theorem parent_of_mem_nodes : ∀ n ∈ t.nodes,
    (∃ m ∈ t.modules, n ∈ m.statements) ∨ ∃ parent ∈ t.nodes, n ∈ parent.children :=
  nodes_induct (fun m hm _ hn => Or.inl ⟨m, hm, hn⟩) fun n hn _ _ hc => Or.inr ⟨n, hn, hc⟩

theorem Resolved.path_ne_nil (h : t.Resolved) : ∀ n ∈ t.nodes, n.head.path ≠ [] := by
  intro n hn
  rcases parent_of_mem_nodes n hn with ⟨m, hm, hnm⟩ | ⟨parent, hp, hc⟩
  · rw [(h.top m hm n hnm).2]
    simp
  · rw [((h.nodes parent hp).below n hc).2]
    simp

theorem Resolved.isPlaced_parent (h : t.Resolved) {n c : Node} (hn : n ∈ t.nodes) (hc : c ∈ n.children) :
    n.kind.isPlaced = true :=
  NodeKind.isPlaced_of_isInner ((h.nodes n hn).inner (List.ne_nil_of_mem hc))

/-- **Paths tell nodes apart.** -/
theorem Distinct.unique (hd : t.Distinct) (h : t.Resolved) : ∀ n ∈ t.nodes, n.kind.isPlaced = true → ∀ n' ∈ t.nodes,
    n'.kind.isPlaced = true → n.head.name.namespaceUri = n'.head.name.namespaceUri → n.head.path = n'.head.path →
    n = n' := by
  refine nodes_induct ?top ?below
  case top =>
    intro m hm n hn hk n' hn' hk' huri hpath
    have hstands := h.top m hm n hn
    rcases parent_of_mem_nodes n' hn' with ⟨m', hm', hnm'⟩ | ⟨parent, hp, hc⟩
    · have hstands' := h.top m' hm' n' hnm'
      have huris : m.namespaceUri = m'.namespaceUri := by rw [← hstands.1, ← hstands'.1, huri]
      obtain rfl : m = m' := List.inj_on_of_nodup_map hd.namespaces hm hm' huris
      rw [hstands.2, hstands'.2, List.nil_append, List.nil_append, List.singleton_inj] at hpath
      exact eq_of_placedNames (hd.top m hm) hn hnm' hk hk' hpath
    · rw [hstands.2, ((h.nodes parent hp).below n' hc).2] at hpath
      exact absurd (List.append_inj' hpath rfl).1.symm (h.path_ne_nil parent hp)
  case below =>
    intro n hn ih c hc hk c' hc' hk' huri hpath
    have hstands := (h.nodes n hn).below c hc
    rcases parent_of_mem_nodes c' hc' with ⟨m, hm, hcm⟩ | ⟨n', hn', hcn'⟩
    · rw [hstands.2, (h.top m hm c' hcm).2] at hpath
      exact absurd (List.append_inj' hpath rfl).1 (h.path_ne_nil n hn)
    · have hstands' := (h.nodes n' hn').below c' hcn'
      rw [hstands.2, hstands'.2] at hpath
      obtain ⟨hparents, hlabels⟩ := List.append_inj' hpath rfl
      rw [hstands.1, hstands'.1] at huri
      obtain rfl := ih (h.isPlaced_parent hn hc) n' hn' (h.isPlaced_parent hn' hcn') huri hparents
      exact eq_of_placedNames (hd.below n hn) hc hcn' hk hk' (List.singleton_inj.1 hlabels)

end Tree

/-! ## Places -/

/-- siblings have different names if they are of a class, and if both may have nodes below them -/
structure Node.Apart (P : Node → Prop) (m n : Node) : Prop where
  named : P m → P n → m.label ≠ n.label
  inner : m.kind.isInner = true → n.kind.isInner = true → m.label ≠ n.label

theorem apart_of_placedNames {ns : List Node} (h : (placedNames ns).Nodup) :
    ns.Pairwise (Node.Apart fun n => n.kind.isPlaced = true) := by
  unfold placedNames at h
  rw [List.Nodup, List.pairwise_map, List.pairwise_filter] at h
  refine h.imp fun hlabels => ⟨hlabels, fun hm hn => ?_⟩
  exact hlabels (NodeKind.isPlaced_of_isInner hm) (NodeKind.isPlaced_of_isInner hn)

namespace Tree

variable {t : Tree} {P : Node → Prop}

/-- a node at or below `n` has the path of `n` before it; below `n` the path is longer, and `n` is of a kind for that -/
theorem Resolved.place_of_mem_all (h : t.Resolved) {n : Node} (hn : n ∈ t.nodes) : ∀ x ∈ n.all,
    x.head.name.namespaceUri = n.head.name.namespaceUri ∧ n.head.path <+: x.head.path ∧
      (x = n ∨ n.kind.isInner = true ∧ n.head.path.length < x.head.path.length) := by
  intro x hx
  have hplace : x ∈ t.nodes ∧ x.head.name.namespaceUri = n.head.name.namespaceUri ∧ n.head.path <+: x.head.path ∧
      (x = n ∨ n.kind.isInner = true ∧ n.head.path.length < x.head.path.length) := by
    refine Node.all_induct (P := fun x => x ∈ t.nodes ∧ x.head.name.namespaceUri = n.head.name.namespaceUri ∧
      n.head.path <+: x.head.path ∧ (x = n ∨ n.kind.isInner = true ∧ n.head.path.length < x.head.path.length))
      (fun y hy c hc => ?_) n ⟨hn, rfl, List.prefix_refl _, Or.inl rfl⟩ x hx
    obtain ⟨hy, huri, hprefix, hdeep⟩ := hy
    obtain ⟨hcuri, hcpath⟩ := (h.nodes y hy).below c hc
    have hinner : n.kind.isInner = true := by
      rcases hdeep with rfl | hdeep
      · exact (h.nodes _ hy).inner (List.ne_nil_of_mem hc)
      · exact hdeep.1
    have hlength := hprefix.length_le
    refine ⟨child_mem_nodes hy hc, hcuri.trans huri, ?_, Or.inr ⟨hinner, ?_⟩⟩
    · rw [hcpath]
      exact hprefix.trans (List.prefix_append _ _)
    · rw [hcpath, List.length_append, List.length_singleton]
      omega
  exact hplace.2

/-- nodes at or below siblings that are apart stand at different places -/
theorem Resolved.path_ne (h : t.Resolved) {uri : String} {parent : List String} {m n : Node} (hm : m ∈ t.nodes)
    (hn : n ∈ t.nodes) (hms : m.StandsAt uri parent) (hns : n.StandsAt uri parent) (ha : Node.Apart P m n) {x y : Node}
    (hx : x ∈ m.all) (hy : y ∈ n.all) (hPx : P x) (hPy : P y) : x.head.path ≠ y.head.path := by
  intro hpath
  obtain ⟨-, hmx, hxm⟩ := h.place_of_mem_all hm x hx
  obtain ⟨-, hny, hyn⟩ := h.place_of_mem_all hn y hy
  have hlength : m.head.path.length = n.head.path.length := by
    rw [hms.2, hns.2, List.length_append, List.length_append, List.length_singleton, List.length_singleton]
  have hlabel : m.label = n.label := by
    rw [hpath] at hmx
    have heq : m.head.path = n.head.path := (List.prefix_of_prefix_length_le hmx hny hlength.le).eq_of_length hlength
    rw [hms.2, hns.2] at heq
    exact List.singleton_inj.1 (List.append_cancel_left heq)
  rcases hxm with rfl | ⟨hmi, hlt⟩
  · rcases hyn with rfl | ⟨-, hlt⟩
    · exact ha.named hPx hPy hlabel
    · rw [← hpath] at hlt
      omega
  · rcases hyn with rfl | ⟨hni, -⟩
    · rw [hpath] at hlt
      omega
    · exact ha.inner hmi hni hlabel

mutual

theorem Resolved.pairwise_all (h : t.Resolved) (below : ∀ n ∈ t.nodes, n.children.Pairwise (Node.Apart P)) :
    ∀ n : Node, n ∈ t.nodes → n.all.Pairwise fun x y => P x → P y → x.head.path ≠ y.head.path
  | ⟨head, kind, children⟩, hn => by
    have hplace := h.place_of_mem_all hn
    have hstands := (h.nodes _ hn).below
    have hchildren : ∀ c ∈ children, c ∈ t.nodes := fun c hc => child_mem_nodes hn hc
    rw [Node.all, List.pairwise_cons]
    refine ⟨fun x hx _ _ hpath => ?_, h.pairwise_allIn below children hchildren ⟨_, _, hstands⟩ (below _ hn)⟩
    obtain ⟨c, hc, hxc⟩ := Node.mem_allIn.1 hx
    have hle := (h.place_of_mem_all (hchildren c hc) x hxc).2.1.length_le
    rw [(hstands c hc).2, ← hpath, List.length_append, List.length_singleton] at hle
    omega

theorem Resolved.pairwise_allIn (h : t.Resolved) (below : ∀ n ∈ t.nodes, n.children.Pairwise (Node.Apart P)) :
    ∀ ns : List Node, (∀ n ∈ ns, n ∈ t.nodes) → (∃ uri parent, ∀ n ∈ ns, n.StandsAt uri parent) →
      ns.Pairwise (Node.Apart P) → (Node.allIn ns).Pairwise fun x y => P x → P y → x.head.path ≠ y.head.path
  | [], _, _, _ => by
    rw [Node.allIn]
    exact List.Pairwise.nil
  | n :: ns, hns, ⟨uri, parent, hstands⟩, ha => by
    obtain ⟨hn, htail⟩ := List.forall_mem_cons.1 hns
    obtain ⟨hnstands, htailstands⟩ := List.forall_mem_cons.1 hstands
    obtain ⟨hna, hta⟩ := List.pairwise_cons.1 ha
    rw [Node.allIn, List.pairwise_append]
    refine ⟨h.pairwise_all below n hn, h.pairwise_allIn below ns htail ⟨uri, parent, htailstands⟩ hta, ?_⟩
    intro x hx y hy hPx hPy
    obtain ⟨m, hm, hym⟩ := Node.mem_allIn.1 hy
    exact h.path_ne hn (htail m hm) hnstands (htailstands m hm) (hna m hm) hx hym hPx hPy

end

/-- **Each place is taken once.** If nodes of a class have other names than their siblings of the class, each stands at a place
of its own in the list of all nodes. -/
theorem Distinct.pairwise_nodes (hd : t.Distinct) (h : t.Resolved)
    (top : ∀ m ∈ t.modules, m.statements.Pairwise (Node.Apart P))
    (below : ∀ n ∈ t.nodes, n.children.Pairwise (Node.Apart P)) :
    t.nodes.Pairwise fun x y => P x → P y → x.head.name.namespaceUri = y.head.name.namespaceUri →
      x.head.path ≠ y.head.path := by
  have huri : ∀ m ∈ t.modules, ∀ x ∈ m.nodes, x.head.name.namespaceUri = m.namespaceUri := by
    intro m hm x hx
    obtain ⟨n, hn, hxn⟩ := Node.mem_allIn.1 hx
    rw [(h.place_of_mem_all (statement_mem_nodes hm hn) x hxn).1, (h.top m hm n hn).1]
  refine List.pairwise_flatMap.2 ⟨fun m hm => ?_, ?_⟩
  · refine (h.pairwise_allIn below m.statements (fun n hn => statement_mem_nodes hm hn) ⟨_, _, h.top m hm⟩
      (top m hm)).imp fun hne hPx hPy _ => hne hPx hPy
  · have hnamespaces := List.pairwise_map.1 hd.namespaces
    refine hnamespaces.imp_of_mem fun {m n} hm hn hne x hx y hy _ _ hxy => ?_
    rw [huri m hm x hx, huri n hn y hy] at hxy
    exact absurd hxy hne

/-- data nodes, choices and cases stand each at a place of its own -/
theorem Distinct.pairwise_placed (hd : t.Distinct) (h : t.Resolved) :
    t.nodes.Pairwise fun x y => x.kind.isPlaced = true → y.kind.isPlaced = true →
      x.head.name.namespaceUri = y.head.name.namespaceUri → x.head.path ≠ y.head.path :=
  hd.pairwise_nodes h (fun m hm => apart_of_placedNames (hd.top m hm)) fun n hn => apart_of_placedNames (hd.below n hn)

end Tree

end YangDesign.Schema
