/-
Translated nodes.

Nodes below another node are translated when the type for the members of that node is made. In a schema with distinct names
this type belongs to no other node, so a translation that answers has translated every node (`Sound.covered_nodes`), and every
leaf and leaf-list has the variable type that was made for it (`Sound.variable_of_covered`).
-/
import YangDesign.Proofs.Schema.Siblings
import YangDesign.Proofs.Translate.References

namespace YangDesign.Translate

open Design Instance Schema Progress

variable {tree : Tree} {p : Progress}

/-! ## Nodes -/

/-- a type for the members of a node is made once these are translated -/
theorem Made.members {r : TypeRole} {o : Owner} {d : Definition} (h : Made tree p r o d)
    (hr : r = .container ∨ r = .element ∨ r = .choice ∨ r = .case) :
    ∃ n ∈ tree.nodes, n.kind.isPlaced = true ∧ ownerOf n.head = o ∧ ∀ c ∈ n.children, Covered p c := by
  cases h with
  | container hn hk hc _ => exact ⟨_, hn, by rw [hk]; rfl, rfl, hc⟩
  | element hn hk hc _ => exact ⟨_, hn, by rw [hk]; rfl, rfl, hc⟩
  | choice hn hk hc _ => exact ⟨_, hn, by rw [hk]; rfl, rfl, hc⟩
  | case hn hk hc _ => exact ⟨_, hn, by rw [hk]; rfl, rfl, hc⟩
  | dataType | identity | leaf | leafList | list | reference => simp at hr

theorem eq_of_owner (hr : tree.Resolved) (hd : tree.Distinct) {m n : Node} (hm : m ∈ tree.nodes) (hn : n ∈ tree.nodes)
    (hmk : m.kind.isPlaced = true) (hnk : n.kind.isPlaced = true) (ho : ownerOf m.head = ownerOf n.head) : m = n :=
  hd.unique hr m hm hmk n hn hnk (congrArg Owner.namespaceUri ho) (congrArg Owner.path ho)

/-- the type that a node has for its members, once it is translated -/
theorem Covered.memberType {n : Node} (h : Covered p n) (hk : n.kind.isInner = true) :
    ∃ r s, (r = .container ∨ r = .element ∨ r = .choice ∨ r = .case) ∧ p.Asked r (ownerOf n.head) s := by
  obtain ⟨head, kind, children⟩ := n
  cases kind with
  | container =>
    obtain ⟨s, ha⟩ : ∃ s, p.Asked .container (ownerOf head) s := h
    exact ⟨_, s, Or.inl rfl, ha⟩
  | list keys =>
    obtain ⟨-, ⟨s, ha⟩, -⟩ : _ ∧ (∃ s, p.Asked .element (ownerOf head) s) ∧ _ := h
    exact ⟨_, s, Or.inr (Or.inl rfl), ha⟩
  | choice =>
    obtain ⟨s, ha⟩ : ∃ s, p.Asked .choice (ownerOf head) s := h
    exact ⟨_, s, Or.inr (Or.inr (Or.inl rfl)), ha⟩
  | case =>
    obtain ⟨s, ha⟩ : ∃ s, p.Asked .case (ownerOf head) s := h
    exact ⟨_, s, Or.inr (Or.inr (Or.inr rfl)), ha⟩
  | leaf | leafList | typedef | identity | other => cases hk

/-- nodes below a translated node are translated -/
theorem Sound.covered_child (h : Sound tree [] [] p) (hr : tree.Resolved) (hd : tree.Distinct) {n : Node}
    (hn : n ∈ tree.nodes) (hcovered : Covered p n) : ∀ c ∈ n.children, Covered p c := by
  intro c hc
  have hinner : n.kind.isInner = true := (hr.nodes n hn).inner (List.ne_nil_of_mem hc)
  obtain ⟨r, s, hrole, ha⟩ := hcovered.memberType hinner
  obtain ⟨d, -, hm⟩ := h.made ha
  obtain ⟨n', hn', hk', ho, hmembers⟩ := hm.members hrole
  obtain rfl := eq_of_owner hr hd hn' hn hk' (NodeKind.isPlaced_of_isInner hinner) ho
  exact hmembers c hc

/-- **All nodes are translated**, if the statements at the top of the modules are -/
theorem Sound.covered_nodes (h : Sound tree [] [] p) (hr : tree.Resolved) (hd : tree.Distinct)
    (htop : ∀ m ∈ tree.modules, ∀ n ∈ m.statements, Covered p n) : ∀ n ∈ tree.nodes, Covered p n :=
  Tree.nodes_induct htop fun _ hn hcovered => h.covered_child hr hd hn hcovered

/-! ## Variable types -/

/-- the type of a leaf or leaf-list, with the part that its variable type plays -/
def variableOf? : NodeKind → Option (TypeRole × TypeDef)
  | .leaf (some t) => some (.leaf, t)
  | .leafList (some t) => some (.leafList, t)
  | _ => none

theorem type?_of_variableOf? {k : NodeKind} {r : TypeRole} {t : TypeDef} (h : variableOf? k = some (r, t)) :
    k.type? = some t := by
  unfold variableOf? at h
  split at h <;> cases h <;> rfl

theorem kind_of_variableOf? {k : NodeKind} {r : TypeRole} {t : TypeDef} (h : variableOf? k = some (r, t)) :
    k = .leaf (some t) ∨ k = .leafList (some t) := by
  unfold variableOf? at h
  split at h <;> cases h
  · exact Or.inl rfl
  · exact Or.inr rfl

theorem role_of_variableOf? {k : NodeKind} {r : TypeRole} {t : TypeDef} (h : variableOf? k = some (r, t)) :
    r = .leaf ∨ r = .leafList := by
  unfold variableOf? at h
  split at h <;> cases h
  · exact Or.inl rfl
  · exact Or.inr rfl

theorem isPlaced_of_variableOf? {k : NodeKind} {r : TypeRole} {t : TypeDef} (h : variableOf? k = some (r, t)) :
    k.isPlaced = true := by
  rcases kind_of_variableOf? h with rfl | rfl <;> rfl

/-- leaves and leaf-lists of a resolved tree have a type -/
theorem variableOf?_of_resolved {known : List QName} {n : Node} (h : n.Resolved known) {type : Option TypeDef}
    (hk : n.kind = .leaf type ∨ n.kind = .leafList type) : ∃ r t, variableOf? n.kind = some (r, t) := by
  obtain ⟨hleaf, hleafList, -⟩ := h.typed
  cases type with
  | none => exact absurd hk (not_or.2 ⟨hleaf, hleafList⟩)
  | some t =>
    rcases hk with hk | hk <;> rw [hk]
    · exact ⟨.leaf, t, rfl⟩
    · exact ⟨.leafList, t, rfl⟩

/-- the variable type of a leaf or leaf-list is registered once the node is translated -/
theorem Covered.asked_of_variableOf? {n : Node} (h : Covered p n) {r : TypeRole} {t : TypeDef}
    (hk : variableOf? n.kind = some (r, t)) : ∃ name, p.Asked r (ownerOf n.head) name := by
  obtain ⟨head, kind, children⟩ := n
  cases kind with
  | leaf type =>
    cases type with
    | none => cases hk
    | some t =>
      cases hk
      exact h
  | leafList type =>
    cases type with
    | none => cases hk
    | some t =>
      cases hk
      exact h
  | container | list | choice | case | typedef | identity | other => cases hk

/-- a variable type is made from a leaf or leaf-list -/
theorem Made.variable {r : TypeRole} {o : Owner} {d : Definition} (h : Made tree p r o d)
    (hr : r = .leaf ∨ r = .leafList) : ∃ n ∈ tree.nodes, ∃ t base dt rank, variableOf? n.kind = some (r, t) ∧
      ownerOf n.head = o ∧ d.content = .variableType base (some dt) rank ∧ TypedAs p t dt := by
  cases h with
  | leaf hn hk ht hd => exact ⟨_, hn, _, _, _, _, by rw [hk]; rfl, rfl, hd, ht⟩
  | leafList hn hk ht hd => exact ⟨_, hn, _, _, _, _, by rw [hk]; rfl, rfl, hd, ht⟩
  | dataType | identity | container | list | element | reference | choice | case => simp at hr

/-- a leaf or leaf-list has a variable type, with the data type that stands for its type -/
theorem Sound.variable_of_covered (h : Sound tree [] [] p) (hr : tree.Resolved) (hd : tree.Distinct) {n : Node}
    (hn : n ∈ tree.nodes) (hc : Covered p n) {r : TypeRole} {t : TypeDef} (hk : variableOf? n.kind = some (r, t)) :
    ∃ name d base dt rank, p.Asked r (ownerOf n.head) name ∧ p.document.get? name = some d ∧
      d.content = .variableType base (some dt) rank ∧ TypedAs p t dt := by
  obtain ⟨name, ha⟩ := hc.asked_of_variableOf? hk
  obtain ⟨d, hget, hm⟩ := h.made ha
  obtain ⟨n', hn', t', base, dt, rank, hk', ho, hcontent, ht⟩ := hm.variable (role_of_variableOf? hk)
  obtain rfl := eq_of_owner hr hd hn' hn (isPlaced_of_variableOf? hk') (isPlaced_of_variableOf? hk) ho
  cases hk.symm.trans hk'
  exact ⟨name, d, base, dt, rank, ha, hget, hcontent, ht⟩

end YangDesign.Translate
