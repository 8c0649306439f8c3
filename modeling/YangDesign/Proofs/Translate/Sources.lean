/-
What a translation makes its definitions from, and why it refuses a schema.

Names are made for the owners of a tree: its nodes and its types. Definitions that derive from definitions of their own kind
come from sources: types that become data types, and identities at the top of a module. `Tree.Under` is one step of
derivation between sources. A tree is knotted if following these steps from a source leads back to its owner by way of
another one. `Refusal` lists the failures of a translation, each with its reason in the tree.
-/
import YangDesign.Proofs.Schema.Resolution
import YangDesign.Proofs.Translate.Names
import YangDesign.Translate.Schema

namespace YangDesign.Schema

open Translate

/-! ## Owners -/

/-- the nodes and types of a tree own names -/
def Tree.Owns (t : Tree) (o : Owner) : Prop :=
  (∃ n ∈ t.nodes, n.kind.isNamed = true ∧ ownerOf n.head = o) ∨ ∃ u ∈ t.types, ownerOfType u = o

theorem Tree.owns_node {t : Tree} {n : Node} (hn : n ∈ t.nodes) (hk : n.kind.isNamed = true) : t.Owns (ownerOf n.head) :=
  Or.inl ⟨n, hn, hk, rfl⟩

theorem Tree.owns_type {t : Tree} {u : TypeDef} (hu : u ∈ t.types) : t.Owns (ownerOfType u) :=
  Or.inr ⟨u, hu, rfl⟩

/-! ## Sources -/

/-- what a definition is made from that may derive from a definition of its own kind -/
inductive Source where
  | type (t : TypeDef)
  | identity (i : Identity)

namespace Source

/-- the part that the definition of a source plays -/
def role : Source → TypeRole
  | .type _ => .dataType
  | .identity _ => .identity

/-- the owner of the name of a source -/
def owner : Source → Owner
  | .type t => ownerOfType t
  | .identity i => ownerOf i.head

end Source

/-- the base of a type that becomes a data type of its own -/
def TypeDef.derivedBase? (t : TypeDef) : Option TypeDef :=
  if t.kind = .builtIn .enumeration then none else t.base.filter (·.base.isSome)

theorem TypeDef.base_of_derivedBase? {t b : TypeDef} (h : t.derivedBase? = some b) : t.base = some b := by
  unfold TypeDef.derivedBase? at h
  split at h
  · cases h
  · exact (Option.filter_eq_some_iff.1 h).1

/-- the first base of an identity -/
def Tree.baseOf? (t : Tree) (i : Identity) : Option Identity :=
  i.bases.head?.bind t.identity?

/-- the definition of `v` is the base of that of `u` -/
inductive Tree.Under (t : Tree) : Source → Source → Prop where
  | type {u v : TypeDef} : u.derivedBase? = some v → Under t (.type u) (.type v)
  | identity {i j : Identity} : t.baseOf? i = some j → Under t (.identity i) (.identity j)

theorem Tree.Under.role {t : Tree} {u v : Source} (h : t.Under u v) : v.role = u.role := by
  cases h <;> rfl

theorem Tree.role_of_under {t : Tree} {u v : Source} (h : Relation.ReflTransGen t.Under u v) : v.role = u.role := by
  induction h with
  | refl => rfl
  | tail _ hb ih => exact hb.role.trans ih

/-- sources of a tree: derived types of nodes, identities at the top of a module, and what these derive from -/
inductive Tree.Makes (t : Tree) : Source → Prop where
  | type {n : Node} {u : TypeDef} : n ∈ t.nodes → n.kind.type? = some u → u.isPrimitive = false → Makes t (.type u)
  | identity {i : Identity} : i ∈ t.topIdentities → Makes t (.identity i)
  | base {u v : Source} : Makes t u → t.Under u v → Makes t v

/-- derivation from a source leads, by way of another owner, to a source of its own owner -/
def Tree.Knot (t : Tree) (r : TypeRole) (o o' : Owner) : Prop :=
  o' ≠ o ∧ ∃ s u v, t.Makes s ∧ Relation.ReflTransGen t.Under s u ∧ t.Under u v ∧ v.role = r ∧ s.owner = o' ∧ u.owner = o ∧
    v.owner = o'

/-- some derivation comes back -/
def Tree.Knotted (t : Tree) : Prop :=
  ∃ r o o', t.Knot r o o'

theorem Tree.Makes.type_mem {t : Tree} {s : Source} (h : t.Makes s) : ∀ u, s = .type u → u ∈ t.types := by
  induction h with
  | type hn ht _ =>
    rintro u ⟨⟩
    exact Tree.type_mem_types hn ht
  | identity hi => exact fun u h => by cases h
  | base hs hu ih =>
    rintro v rfl
    cases hu with
    | type hb => exact Tree.base_mem_types (ih _ rfl) (TypeDef.base_of_derivedBase? hb)

theorem Tree.Makes.identity_mem {t : Tree} {i : Identity} (h : t.Makes (.identity i)) : i ∈ t.topIdentities := by
  cases h with
  | identity hi => exact hi
  | base _ hu =>
    cases hu with
    | identity hb =>
      obtain ⟨q, -, hq⟩ := Option.bind_eq_some_iff.1 hb
      exact (Tree.mem_of_identity? hq).1

theorem Tree.Makes.owns {t : Tree} {s : Source} (h : t.Makes s) : t.Owns s.owner := by
  cases s with
  | type u => exact Tree.owns_type (h.type_mem u rfl)
  | identity i =>
    obtain ⟨m, hm, n, hn, hk, hh⟩ := Tree.mem_topIdentities.1 h.identity_mem
    exact Or.inl ⟨n, Tree.statement_mem_nodes hm hn, by rw [hk]; rfl, by rw [hh]; rfl⟩

theorem Tree.Makes.under {t : Tree} {u v : Source} (h : t.Makes u) (hv : Relation.ReflTransGen t.Under u v) : t.Makes v := by
  induction hv with
  | refl => exact h
  | tail _ hb ih => exact ih.base hb

/-! ## Refusals -/

/-- what a kind of node is called in a refusal -/
def NodeKind.word : NodeKind → String
  | .other keyword _ => keyword
  | kind => kind.title

/-- whether nodes of the kind have no translation at the top of a module -/
def NodeKind.isForeignAtTop : NodeKind → Bool
  | .other keyword _ => !ignoredStatements.contains keyword
  | .case => true
  | _ => false

/-- whether nodes of the kind have no translation below another node -/
def NodeKind.isForeignBelow : NodeKind → Bool
  | .other keyword _ => !ignoredChildren.contains keyword
  | .case | .identity _ => true
  | _ => false

/-- whether nodes of the kind have a member below a node that holds members -/
def NodeKind.hasMember : NodeKind → Bool
  | .container | .list _ | .leaf _ | .leafList _ | .choice => true
  | _ => false

end YangDesign.Schema

namespace YangDesign.Translate

open Schema

/-- the failures of a translation, each with its reason in the tree -/
inductive Refusal (tree : Tree) : Failure → Prop where
  | statement {m : Module} {n : Node} : m ∈ tree.modules → n ∈ m.statements → n.kind.isForeignAtTop = true →
    Refusal tree (.untranslatable (.statement n.kind.word) n.head.path)
  | child {n c : Node} : n ∈ tree.nodes → c ∈ n.children → c.kind.isForeignBelow = true →
    Refusal tree (.untranslatable (.child c.kind.word) c.head.path)
  | multipleBases {i : Identity} : i ∈ tree.topIdentities → 1 < i.bases.length →
    Refusal tree (.untranslatable (.multipleBases i.head.name.localName) i.head.path)
  | clash {o o' : Owner} {q q' : Purpose} {n : Namer} : tree.Owns o → tree.Owns o' → o' ≠ o →
    n.spelling o' q'.text = n.spelling o q.text →
    Refusal tree (.untranslatable (.clash (n.spelling o q.text) o.path o'.path) o.path)
  | notSymbol {o : Owner} {q : Purpose} {n : Namer} : tree.Owns o → Text.isSymbol (n.spelling o q.text) = false →
    Refusal tree (.untranslatable (.notSymbol (n.spelling o q.text)) o.path)

end YangDesign.Translate
