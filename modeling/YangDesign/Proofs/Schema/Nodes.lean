/-
The nodes, types and identities of a resolved schema, at every depth.

`Tree.nodes` lists the nodes in document order. A statement about all of them is proved for the statements of the modules and
carried from a node to its children (`Tree.nodes_induct`). `Tree.types` lists the types of leaves, leaf-lists and typedefs,
each with the chain of its bases.
-/
import Mathlib.Tactic
import YangDesign.Schema.Tree

namespace YangDesign.Schema

/-! ## Nodes -/

mutual

/-- a node and all nodes below it, in document order -/
def Node.all : Node → List Node
  | ⟨head, kind, children⟩ => ⟨head, kind, children⟩ :: Node.allIn children

/-- some nodes and all nodes below them, in document order -/
def Node.allIn : List Node → List Node
  | [] => []
  | n :: ns => n.all ++ Node.allIn ns

end

theorem Node.all_eq (n : Node) : n.all = n :: Node.allIn n.children := by
  cases n
  rw [Node.all]

theorem Node.mem_all_self (n : Node) : n ∈ n.all := by
  rw [Node.all_eq]
  exact List.mem_cons_self

theorem Node.mem_allIn {x : Node} {ns : List Node} : x ∈ Node.allIn ns ↔ ∃ n ∈ ns, x ∈ n.all := by
  induction ns with
  | nil => simp [Node.allIn]
  | cons n ns ih => simp [Node.allIn, ih]

theorem Node.allIn_append (ms ns : List Node) : Node.allIn (ms ++ ns) = Node.allIn ms ++ Node.allIn ns := by
  induction ms with
  | nil => simp [Node.allIn]
  | cons m ms ih => simp [Node.allIn, ih]

mutual

/-- what holds of a node and goes from each node to its children holds of all nodes below it -/
theorem Node.all_induct {P : Node → Prop} (step : ∀ x, P x → ∀ c ∈ x.children, P c) :
    ∀ n : Node, P n → ∀ x ∈ n.all, P x
  | ⟨head, kind, children⟩, hn, x, hx => by
    rw [Node.all, List.mem_cons] at hx
    rcases hx with rfl | hx
    · exact hn
    · exact Node.allIn_induct step children (fun c hc => step _ hn c hc) x hx

theorem Node.allIn_induct {P : Node → Prop} (step : ∀ x, P x → ∀ c ∈ x.children, P c) :
    ∀ ns : List Node, (∀ n ∈ ns, P n) → ∀ x ∈ Node.allIn ns, P x
  | [], _, x, hx => by simp [Node.allIn] at hx
  | n :: ns, h, x, hx => by
    rw [Node.allIn, List.mem_append] at hx
    rcases hx with hx | hx
    · exact Node.all_induct step n (h n List.mem_cons_self) x hx
    · exact Node.allIn_induct step ns (fun m hm => h m (List.mem_cons_of_mem n hm)) x hx

end

mutual

theorem Node.child_mem_all : ∀ (n : Node) {x c : Node}, x ∈ n.all → c ∈ x.children → c ∈ n.all
  | ⟨head, kind, children⟩, x, c, hx, hc => by
    rw [Node.all, List.mem_cons] at hx ⊢
    right
    rcases hx with rfl | hx
    · exact Node.mem_allIn.2 ⟨c, hc, c.mem_all_self⟩
    · exact Node.child_mem_allIn children hx hc

theorem Node.child_mem_allIn : ∀ (ns : List Node) {x c : Node}, x ∈ Node.allIn ns → c ∈ x.children → c ∈ Node.allIn ns
  | [], x, c, hx, _ => by simp [Node.allIn] at hx
  | n :: ns, x, c, hx, hc => by
    rw [Node.allIn, List.mem_append] at hx ⊢
    rcases hx with hx | hx
    · exact Or.inl (Node.child_mem_all n hx hc)
    · exact Or.inr (Node.child_mem_allIn ns hx hc)

end

/-- the nodes of a module at every depth -/
def Module.nodes (m : Module) : List Node :=
  Node.allIn m.statements

namespace Tree

/-- the nodes of a schema at every depth -/
def nodes (t : Tree) : List Node :=
  t.modules.flatMap Module.nodes

theorem mem_nodes {t : Tree} {n : Node} : n ∈ t.nodes ↔ ∃ m ∈ t.modules, n ∈ m.nodes :=
  List.mem_flatMap

/-- the statements at the top of the modules -/
def statements (t : Tree) : List Node :=
  t.modules.flatMap (·.statements)

theorem nodes_eq (t : Tree) : t.nodes = Node.allIn t.statements := by
  obtain ⟨ms⟩ := t
  unfold nodes statements
  dsimp only
  induction ms with
  | nil => simp [Node.allIn]
  | cons m ms ih => simp [Node.allIn_append, Module.nodes, ih]

theorem statement_mem_nodes {t : Tree} {m : Module} {n : Node} (hm : m ∈ t.modules) (hn : n ∈ m.statements) :
    n ∈ t.nodes :=
  mem_nodes.2 ⟨m, hm, Node.mem_allIn.2 ⟨n, hn, n.mem_all_self⟩⟩

theorem child_mem_nodes {t : Tree} {n c : Node} (hn : n ∈ t.nodes) (hc : c ∈ n.children) : c ∈ t.nodes := by
  obtain ⟨m, hm, hnm⟩ := mem_nodes.1 hn
  exact mem_nodes.2 ⟨m, hm, Node.child_mem_allIn _ hnm hc⟩

/-- **Induction over a schema.** What holds of the statements of the modules and goes from each node to its children holds of
all nodes. -/
theorem nodes_induct {t : Tree} {P : Node → Prop} (top : ∀ m ∈ t.modules, ∀ n ∈ m.statements, P n)
    (below : ∀ n ∈ t.nodes, P n → ∀ c ∈ n.children, P c) : ∀ n ∈ t.nodes, P n := by
  intro n hn
  obtain ⟨m, hm, hnm⟩ := mem_nodes.1 hn
  have h : n ∈ t.nodes ∧ P n :=
    Node.allIn_induct (P := fun x => x ∈ t.nodes ∧ P x)
      (fun x hx c hc => ⟨child_mem_nodes hx.1 hc, below x hx.1 hx.2 c hc⟩) m.statements
      (fun x hx => ⟨statement_mem_nodes hm hx, top m hm x hx⟩) n hnm
  exact h.2

end Tree

/-! ## Types -/

/-- a type and its bases -/
def TypeDef.chain : TypeDef → List TypeDef
  | ⟨name, path, kind, none, enums, description⟩ => [⟨name, path, kind, none, enums, description⟩]
  | ⟨name, path, kind, some b, enums, description⟩ => ⟨name, path, kind, some b, enums, description⟩ :: b.chain

theorem TypeDef.chain_of_none {t : TypeDef} (h : t.base = none) : t.chain = [t] := by
  obtain ⟨name, path, kind, base, enums, description⟩ := t
  subst h
  rw [TypeDef.chain]

theorem TypeDef.chain_of_some {t b : TypeDef} (h : t.base = some b) : t.chain = t :: b.chain := by
  obtain ⟨name, path, kind, base, enums, description⟩ := t
  subst h
  rw [TypeDef.chain]

/-- what holds of a type once it holds of its base holds of all types -/
theorem TypeDef.base_induct {P : TypeDef → Prop} (step : ∀ t, (∀ b, t.base = some b → P b) → P t) : ∀ t, P t
  | ⟨name, path, kind, none, enums, description⟩ => step _ fun b h => by cases h
  | ⟨name, path, kind, some b, enums, description⟩ => step _ fun b' h => by
    cases h
    exact TypeDef.base_induct step b

theorem TypeDef.self_mem_chain (t : TypeDef) : t ∈ t.chain := by
  cases h : t.base with
  | none => rw [TypeDef.chain_of_none h]; exact List.mem_cons_self
  | some b => rw [TypeDef.chain_of_some h]; exact List.mem_cons_self

theorem TypeDef.chain_subset {t u : TypeDef} (h : u ∈ t.chain) : ∀ v ∈ u.chain, v ∈ t.chain := by
  induction t using TypeDef.base_induct with
  | step t ih =>
    cases hb : t.base with
    | none =>
      rw [TypeDef.chain_of_none hb, List.mem_singleton] at h
      subst h
      exact fun v hv => hv
    | some b =>
      rw [TypeDef.chain_of_some hb, List.mem_cons] at h
      rcases h with rfl | h
      · exact fun v hv => hv
      · intro v hv
        rw [TypeDef.chain_of_some hb]
        exact List.mem_cons_of_mem t (ih b hb h v hv)

/-- the type that the kind of a node holds -/
def NodeKind.type? : NodeKind → Option TypeDef
  | .leaf type | .leafList type | .typedef type => type
  | _ => none

/-- the type of a node and its bases -/
def Node.types (n : Node) : List TypeDef :=
  match n.kind.type? with
  | some t => t.chain
  | none => []

/-- the types of a schema, bases included -/
def Tree.types (t : Tree) : List TypeDef :=
  t.nodes.flatMap Node.types

theorem Tree.type_mem_types {t : Tree} {n : Node} {type : TypeDef} (hn : n ∈ t.nodes) (ht : n.kind.type? = some type) :
    type ∈ t.types := by
  refine List.mem_flatMap.2 ⟨n, hn, ?_⟩
  rw [Node.types, ht]
  exact type.self_mem_chain

theorem Tree.chain_mem_types {t : Tree} {type b : TypeDef} (h : type ∈ t.types) (hb : b ∈ type.chain) : b ∈ t.types := by
  obtain ⟨n, hn, ht⟩ := List.mem_flatMap.1 h
  refine List.mem_flatMap.2 ⟨n, hn, ?_⟩
  unfold Node.types at ht ⊢
  split at ht
  · exact TypeDef.chain_subset ht b hb
  · simp at ht

theorem Tree.base_mem_types {t : Tree} {type b : TypeDef} (h : type ∈ t.types) (hb : type.base = some b) :
    b ∈ t.types := by
  refine Tree.chain_mem_types h ?_
  rw [TypeDef.chain_of_some hb]
  exact List.mem_cons_of_mem type b.self_mem_chain

/-! ## Identities -/

theorem Node.identity?_eq_some_iff {n : Node} {i : Identity} :
    n.identity? = some i ↔ n.kind = .identity i.bases ∧ n.head = i.head := by
  obtain ⟨head, bases⟩ := i
  unfold Node.identity?
  split
  · rename_i bases' hk
    rw [hk, Option.some.injEq, Identity.mk.injEq, NodeKind.identity.injEq, and_comm]
  · rename_i hk
    constructor
    · intro h
      cases h
    · rintro ⟨hkind, -⟩
      exact absurd hkind (hk bases)

namespace Tree

/-- the identities at the top of the modules -/
def topIdentities (t : Tree) : List Identity :=
  t.modules.flatMap fun m => m.statements.filterMap Node.identity?

theorem mem_topIdentities {t : Tree} {i : Identity} : i ∈ t.topIdentities ↔
    ∃ m ∈ t.modules, ∃ n ∈ m.statements, n.kind = .identity i.bases ∧ n.head = i.head := by
  simp only [topIdentities, List.mem_flatMap, List.mem_filterMap, Node.identity?_eq_some_iff]

theorem mem_of_identity? {t : Tree} {q : QName} {i : Identity} (h : t.identity? q = some i) :
    i ∈ t.topIdentities ∧ i.head.name = q := by
  have := Assoc.mem_of_find?_ofList h
  obtain ⟨j, hj, heq⟩ := List.mem_map.1 this
  cases heq
  exact ⟨hj, rfl⟩

theorem identity?_isSome {t : Tree} {i : Identity} (h : i ∈ t.topIdentities) : (t.identity? i.head.name).isSome :=
  Assoc.find?_ofList_isSome (p := (i.head.name, i)) (List.mem_map.2 ⟨i, h, rfl⟩)

end Tree

end YangDesign.Schema
