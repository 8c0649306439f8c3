/-
What a translation without data asks for.

`Tree.Asks t o r`: names in the role `r` are made for the owner `o`. The types of nodes, the members that stand for nodes, and
the sources of a tree ask for names; the order of the statements has no part in this. `Tame tree uri p`: all names of the state
`p` are in one namespace and were asked for, and what is recorded for a source is its definition (`sourceFor`). `Tames` says
that a part of a translation keeps this, and that it fails over a name or a place only where the tree gives `Grounds`.
-/
import YangDesign.Proofs.Translate.Tracing

namespace YangDesign.Schema

open Translate

/-- names in a role are made for an owner: for a type of a node, for a source, or for the member that stands for a node -/
inductive Tree.Asks (t : Tree) : Owner → TypeRole → Prop where
  | type {n : Node} {r : TypeRole} : n ∈ t.nodes → r ∈ typeRoles n.kind → Asks t (ownerOf n.head) r
  | source {u : Source} : t.Makes u → Asks t u.owner u.role
  | member {n c : Node} : n ∈ t.nodes → c ∈ n.children → c.kind.hasMember = true → Asks t (ownerOf c.head) .identity

/-- all names that are made are in one namespace -/
def Tree.Home (t : Tree) (uri : String) : Prop :=
  ∀ o r, t.Asks o r → o.namespaceUri = uri

/-- an identity derives from one identity at most -/
def Source.Single : Source → Prop
  | .type _ => True
  | .identity i => i.bases.length ≤ 1

/-- two owners that ask for one name, where theirs is the only namespace -/
structure Tree.Ambiguous (t : Tree) (uri : String) (o o' : Owner) (r r' : TypeRole) : Prop where
  asks : t.Asks o r
  asks' : t.Asks o' r'
  ne : o' ≠ o
  alike : ∀ nm : Namer, nm.namespaces = [uri] → nm.spelling o' r'.text = nm.spelling o r.text

/-- a node with no translation stands below one that holds members -/
def Tree.HasStranger (t : Tree) : Prop :=
  ∃ n ∈ t.nodes, n.kind ≠ .choice ∧ ∃ c ∈ n.children, c.kind.isForeignBelow = true

end YangDesign.Schema

namespace YangDesign.Translate

open Design Instance Schema

variable {α β : Type} {tree : Tree} {uri : String} {p : Progress}

/-! ## Sources -/

/-- the data type that the data type of a type derives from -/
def baseTypeFor (nm : Namer) (t : TypeDef) : SymbolicName :=
  match t.derivedBase? with
  | some b => nm.symbol (ownerOfType b) TypeRole.dataType.text
  | none => match t.kind with
    | .builtIn b => builtInName (opcName b)
    | .unknown name => builtInName name

/-- the definition of a source -/
def sourceFor (nm : Namer) (tree : Tree) : Source → Definition
  | .type t => ⟨plainLabels (nm.symbol (ownerOfType t) TypeRole.dataType.text) t.name.localName t.description,
    .dataType (some (baseTypeFor nm t)) (fieldsOf t)⟩
  | .identity i => ⟨plainLabels (nm.ownName i.head) i.head.name.localName i.head.description,
    .objectType ((tree.baseOf? i).map fun j => nm.ownName j.head) false []⟩

/-! ## The invariant -/

/-- a registered name of a data type or of the type of an identity stands for a source, and what is recorded is its
definition, for every namer that has given out the names of the state -/
structure Sourced (tree : Tree) (p : Progress) (f : Family) (n : SymbolicName) (e : Option Definition) (u : Source) : Prop where
  makes : tree.Makes u
  family : u.role.family = f
  named : p.namer.Gave u.owner u.role.text n
  single : u.Single
  written : ∀ d, e = some d → ∀ nm, p.namer.Grows nm → d = sourceFor nm tree u

/-- the names of a state were asked for, in one namespace, and what is recorded for sources are their definitions -/
structure Tame (tree : Tree) (uri : String) (p : Progress) : Prop where
  seen : p.namer.namespaces = [] ∨ p.namer.namespaces = [uri] ∧ ∃ o r, tree.Asks o r
  owned : ∀ name o, p.namer.owners.find? name = some o →
    ∃ r, tree.Asks o r ∧ p.namer.Gave o r.text ⟨p.namer.target, name⟩
  sources : ∀ f n e, p.registry.entries.find? (f, n) = some e → f = .dataType ∨ f = .identity → ∃ u, Sourced tree p f n e u

/-- what the tree gives for a failure over a name or a place; other failures are left open -/
def Grounds (tree : Tree) (uri : String) : Failure → Prop
  | .untranslatable (.child _) _ => tree.HasStranger
  | .untranslatable (.clash ..) _ => ∃ o o' r r', tree.Ambiguous uri o o' r r'
  | _ => True

/-- an answer is tame and satisfies `Q`, a failure has grounds -/
def Tames (tree : Tree) (uri : String) (p : Progress) (x : Translator α) (Q : α → Progress → Prop) : Prop :=
  Holds x p (fun a t => Tame tree uri t ∧ p.namer.Grows t.namer ∧ Q a t) (Grounds tree uri)

theorem Sourced.mono {q : Progress} {f : Family} {n : SymbolicName} {e : Option Definition} {u : Source}
    (h : Sourced tree p f n e u) (g : p.namer.Grows q.namer) : Sourced tree q f n e u :=
  { h with named := h.named.mono g, written := fun d he nm hnm => h.written d he nm (g.trans hnm) }

theorem tame_start (target : String) (namespaces : List Namespace) : Tame tree uri (.start (.new target namespaces)) where
  seen := Or.inl rfl
  owned name o h := by simp [Progress.start, Namer.new, Assoc.find?, Assoc.empty, Assoc.findIn] at h
  sources f n e h := by simp [Progress.start, Registry.empty, Assoc.find?, Assoc.empty, Assoc.findIn] at h

theorem Tame.same {q : Progress} (h : Tame tree uri p) (hn : q.namer = p.namer) (hr : q.registry = p.registry) :
    Tame tree uri q where
  seen := hn ▸ h.seen
  owned := hn ▸ h.owned
  sources f n e he hf := by
    rw [hr] at he
    obtain ⟨u, hu⟩ := h.sources f n e he hf
    exact ⟨u, hu.mono (hn ▸ Namer.Grows.refl _)⟩

theorem Tame.insert (h : Tame tree uri p) {f : Family} {n : SymbolicName} {e : Option Definition}
    (he : f = .dataType ∨ f = .identity → ∃ u, Sourced tree p f n e u) :
    Tame tree uri { p with registry := ⟨p.registry.entries.insert (f, n) e⟩ } := by
  refine ⟨h.seen, h.owned, fun f' n' e' hfind hf' => ?_⟩
  change (p.registry.entries.insert (f, n) e).find? (f', n') = some e' at hfind
  rw [Assoc.find?_insert] at hfind
  split at hfind
  · rename_i heq
    cases heq
    cases hfind
    obtain ⟨u, hu⟩ := he hf'
    exact ⟨u, hu.mono (Namer.Grows.refl _)⟩
  · obtain ⟨u, hu⟩ := h.sources f' n' e' hfind hf'
    exact ⟨u, hu.mono (Namer.Grows.refl _)⟩

/-! ## Rules -/

theorem Tames.imp {x : Translator α} {Q Q' : α → Progress → Prop} (h : Tames tree uri p x Q)
    (hq : ∀ a t, p.namer.Grows t.namer → Q a t → Q' a t) : Tames tree uri p x Q' :=
  Holds.imp h fun a t ⟨ht, g, ha⟩ => ⟨ht, g, hq a t g ha⟩

theorem Tames.bind {x : Translator α} {f : α → Translator β} {R : α → Progress → Prop} {Q : β → Progress → Prop}
    (h : Tames tree uri p x R)
    (k : ∀ a t, Tame tree uri t → p.namer.Grows t.namer → R a t → Tames tree uri t (f a) Q) :
    Tames tree uri p (x >>= f) Q :=
  Holds.bind (Holds.imp h fun a t ⟨ht, g, ha⟩ => Holds.imp (k a t ht g ha) fun _ _ ⟨hu, g', hb⟩ => ⟨hu, g.trans g', hb⟩)

theorem Tames.map {x : Translator α} {f : α → β} {R : α → Progress → Prop} {Q : β → Progress → Prop}
    (h : Tames tree uri p x R) (k : ∀ a t, R a t → Q (f a) t) : Tames tree uri p (f <$> x) Q :=
  Holds.map (Holds.imp h fun a t ⟨ht, g, ha⟩ => ⟨ht, g, k a t ha⟩)

theorem Tame.tames_pure (h : Tame tree uri p) {a : α} {Q : α → Progress → Prop} (hq : Q a p) :
    Tames tree uri p (pure a : Translator α) Q :=
  holds_pure ⟨h, Namer.Grows.refl _, hq⟩

theorem tames_unsupported {cause : Cause} {path : List String} {Q : α → Progress → Prop}
    (h : Grounds tree uri (.untranslatable cause path)) : Tames tree uri p (unsupported cause path : Translator α) Q :=
  holds_throw h

theorem Tame.tames_note (h : Tame tree uri p) (e : Event) : Tames tree uri p (note e) fun _ _ => True :=
  holds_modify ⟨h.same rfl rfl, Namer.Grows.refl _, trivial⟩

theorem Tame.tames_emit (h : Tame tree uri p) (d : Definition) : Tames tree uri p (emit d) fun _ _ => True := by
  unfold emit
  refine Holds.bind (holds_get ?_)
  cases ha : p.document.append d with
  | none => exact holds_throw trivial
  | some doc =>
    have hemitted : Tame tree uri { p with document := doc } := h.same rfl rfl
    exact Holds.bind (holds_modify (hemitted.tames_note _))

/-- an emitted definition is the answer -/
theorem Tame.tames_emitted (h : Tame tree uri p) (d : Definition) :
    Tames tree uri p (do emit d; return d : Translator Definition) fun e _ => e = d :=
  Tames.bind (h.tames_emit d) fun _ _ ht _ _ => ht.tames_pure rfl

theorem Namer.namespaces_see_home {n : Namer} (h : n.namespaces = [] ∨ n.namespaces = [uri]) :
    (n.see uri).namespaces = [uri] := by
  unfold see
  rcases h with h | h <;> simp [h]

/-- **A name that was asked for.** If it is not given out, another owner asked for it. -/
theorem Tame.tames_nameFor (hhome : tree.Home uri) (h : Tame tree uri p) {o : Owner} {r : TypeRole} (ha : tree.Asks o r) :
    Tames tree uri p (nameFor o r.text) fun n t => t.namer.Gave o r.text n ∧ t.registry = p.registry := by
  have huri := hhome o r ha
  have hone : (p.namer.see o.namespaceUri).namespaces = [uri] := by
    rw [huri]
    exact Namer.namespaces_see_home (h.seen.imp id And.left)
  have howners := p.namer.owners_see o.namespaceUri
  have hsee := Namer.grows_see p.namer o.namespaceUri
  rcases hr : p.namer.nameFor o r.text with ⟨result, m⟩
  refine holds_nameFor hr ?ok (fun _ _ => trivial) ?clash
  case ok =>
    rintro n rfl
    obtain ⟨hgave, hafter, hnamespaces⟩ := Namer.gave_of_nameFor hr
    have hgrows : p.namer.Grows m := hsee.trans hafter
    have hold : ∀ name o', p.namer.owners.find? name = some o' →
        ∃ r', tree.Asks o' r' ∧ m.Gave o' r'.text ⟨m.target, name⟩ := by
      intro name o' ho'
      obtain ⟨r', hr', hg⟩ := h.owned name o' ho'
      rw [hgrows.target]
      exact ⟨r', hr', hg.mono hgrows⟩
    refine ⟨⟨Or.inr ⟨hnamespaces.trans hone, o, r, ha⟩, fun name o' ho' => ?_, fun f n e he hf => ?_⟩, hgrows, hgave, rfl⟩
    · -- an owner that is new is the one that asked
      rcases Namer.nameFor_cases p.namer o r.text with ⟨-, hc⟩ | ⟨_, -, -, hc⟩ | ⟨-, hc⟩ | ⟨-, hc⟩ <;> cases hr.symm.trans hc
      · exact hold name o' (howners ▸ ho')
      · dsimp only at ho'
        rw [Assoc.find?_insert] at ho'
        split at ho'
        · rename_i heq
          cases ho'
          exact ⟨r, ha, heq ▸ hgave⟩
        · exact hold name o' (howners ▸ ho')
    · obtain ⟨u, hu⟩ := h.sources f n e he hf
      exact ⟨u, hu.mono hgrows⟩
  case clash =>
    rintro s path other rfl
    rcases Namer.nameFor_cases p.namer o r.text with ⟨-, hc⟩ | ⟨o', hne, ho', hc⟩ | ⟨-, hc⟩ | ⟨-, hc⟩ <;> cases hr.symm.trans hc
    obtain ⟨r', hr', hg⟩ := h.owned _ o' (howners ▸ ho')
    have hspelled := congrArg SymbolicName.name (hg.mono hsee).spelled
    refine ⟨o, o', r, r', ha, hr', hne, fun nm hnm => ?_⟩
    have hsame : ∀ (owner : Owner) (role : String),
        nm.spelling owner role = (p.namer.see o.namespaceUri).spelling owner role := by
      intro owner role
      rw [Namer.spelling, Namer.spelling, hnm, hone]
    rw [hsame, hsame]
    exact hspelled.symm

theorem Tame.tames_isRegistered (h : Tame tree uri p) (f : Family) (n : SymbolicName) :
    Tames tree uri p (isRegistered f n) fun _ t => t = p := by
  unfold isRegistered
  exact Holds.bind (holds_get (holds_pure ⟨h, Namer.Grows.refl _, rfl⟩))

/-- a registered name; what is recorded for a source must be its definition -/
theorem Tame.tames_register (h : Tame tree uri p) {f : Family} {n : SymbolicName} {build : Translator Definition}
    (he : f = .dataType ∨ f = .identity → ∃ u, Sourced tree p f n none u)
    (hbuild : ∀ t, Tame tree uri t → p.namer.Grows t.namer → Tames tree uri t build fun d s =>
      f = .dataType ∨ f = .identity → ∃ u, Sourced tree s f n (some d) u) :
    Tames tree uri p (register f n build) fun m _ => m = n := by
  refine holds_obtain (fun _ => ⟨h, Namer.Grows.refl _, rfl⟩) fun _ => ?_
  refine Holds.bind (Holds.imp ((h.insert he).tames_note _) fun _ t ht => ?_)
  obtain ⟨ht, g, -⟩ := ht
  refine Holds.imp (hbuild t ht g) fun d s hs => ?_
  obtain ⟨hs, g', hd⟩ := hs
  exact ⟨hs.insert hd, g.trans g', rfl⟩

/-- a registered name of a family without sources -/
theorem Tame.tames_type (h : Tame tree uri p) {r : TypeRole} (hr : r ≠ .dataType ∧ r ≠ .identity) {n : SymbolicName}
    {build : Translator Definition}
    (hbuild : ∀ t, Tame tree uri t → p.namer.Grows t.namer → Tames tree uri t build fun _ _ => True) :
    Tames tree uri p (register r.family n build) fun m _ => m = n := by
  have hfamily : ¬ (r.family = .dataType ∨ r.family = .identity) := by
    obtain ⟨hdata, hidentity⟩ := hr
    cases r <;> simp_all [TypeRole.family]
  exact h.tames_register (fun hf => absurd hf hfamily) fun t ht g => (hbuild t ht g).imp fun _ _ _ _ hf => absurd hf hfamily

/-! ## Data types and types of identities -/

section Parts

variable (hr : tree.Resolved) (hhome : tree.Home uri)

include hhome

/-- the data type of a type, given how its base is registered -/
theorem Tame.tames_dataTypeUnder (h : Tame tree uri p) {t : TypeDef} (ht : tree.Makes (.type t))
    {base : Translator SymbolicName}
    (hbase : ∀ q, Tame tree uri q → Tames tree uri q base fun b s => ∀ nm, s.namer.Grows nm → b = baseTypeFor nm t) :
    Tames tree uri p (dataTypeUnder t base) fun n s => s.namer.Gave (ownerOfType t) TypeRole.dataType.text n := by
  have hask : tree.Asks (ownerOfType t) .dataType := .source ht
  have hname := h.tames_nameFor hhome hask
  unfold dataTypeUnder
  refine Tames.bind hname fun n t1 h1 _ hn => ?_
  have hgave : t1.namer.Gave (ownerOfType t) TypeRole.dataType.text n := hn.1
  have hreserved : Sourced tree t1 .dataType n none (.type t) := ⟨ht, rfl, hgave, trivial, fun d hd => by cases hd⟩
  refine Tames.imp (h1.tames_register (fun _ => ⟨_, hreserved⟩) fun q hq g => ?_) fun m s g hm => hm ▸ hgave.mono g
  refine Tames.bind (hbase q hq) fun b u hu g' hb => ?_
  refine (hu.tames_emitted _).imp fun d s g'' hd _ => ?_
  have hnamed := hgave.mono ((g.trans g').trans g'')
  refine ⟨.type t, ht, rfl, hnamed, trivial, fun e he nm hnm => ?_⟩
  cases he
  rw [hd, hb nm (g''.trans hnm), (hnamed.mono hnm).spelled]
  rfl

include hr

/-- a type as a data type of the design -/
theorem tames_registerDataType (t : TypeDef) : ∀ {p : Progress}, Tame tree uri p → tree.Makes (.type t) →
    Tames tree uri p (registerDataType t) fun n s => s.namer.Gave (ownerOfType t) TypeRole.dataType.text n := by
  induction t using TypeDef.base_induct with
  | step t ih =>
    intro p h ht
    obtain ⟨k, hk⟩ := hr.rooted (ht.type_mem t rfl)
    have hkind : t.kind = .builtIn k := hk t t.self_mem_chain
    have hprimitive : ∀ (nm : Namer), t.derivedBase? = none → baseTypeFor nm t = builtInName (opcName k) := by
      intro nm hd
      rw [baseTypeFor, hd, hkind]
    have hbuiltIn : ∀ {q : Progress} {path : List String}, Tame tree uri q → t.derivedBase? = none →
        Tames tree uri q (liftM (primitiveType (.builtIn k) path) : Translator SymbolicName)
          fun b s => ∀ nm, s.namer.Grows nm → b = baseTypeFor nm t := by
      intro q path hq hd
      refine holds_lift (fun b hb => ?_) fun _ he => by cases he
      cases hb
      exact ⟨hq, Namer.Grows.refl _, fun nm _ => (hprimitive nm hd).symm⟩
    obtain ⟨name, path, kind, base, enums, description⟩ := t
    obtain rfl : kind = .builtIn k := hkind
    cases base with
    | none =>
      rw [registerDataType]
      refine h.tames_dataTypeUnder hhome ht fun q hq => hbuiltIn hq ?_
      unfold TypeDef.derivedBase?
      split <;> rfl
    | some b =>
      rw [registerDataType]
      refine h.tames_dataTypeUnder hhome ht fun q hq => ?_
      unfold baseDataType
      split
      · rename_i henum
        have hd : TypeDef.derivedBase? ⟨name, path, .builtIn k, some b, enums, description⟩ = none := by
          unfold TypeDef.derivedBase?
          rw [if_pos henum]
        refine hq.tames_pure fun nm _ => ?_
        rw [hprimitive nm hd, Kind.builtIn.inj henum]
        rfl
      · rename_i henum
        split
        · rename_i hnone
          have hb : b.kind = .builtIn k := hk b (by rw [TypeDef.chain]; exact List.mem_cons_of_mem _ b.self_mem_chain)
          rw [hb]
          refine hbuiltIn hq ?_
          unfold TypeDef.derivedBase?
          rw [if_neg henum]
          simpa using hnone
        · rename_i hsome
          have hd : TypeDef.derivedBase? ⟨name, path, .builtIn k, some b, enums, description⟩ = some b := by
            unfold TypeDef.derivedBase?
            rw [if_neg henum]
            exact Option.filter_eq_some_iff.2 ⟨rfl, by simpa [Option.isSome_iff_ne_none] using hsome⟩
          refine (ih b rfl hq (ht.base (.type hd))).imp fun n s _ hn nm hnm => ?_
          rw [baseTypeFor, hd]
          exact (hn.mono hnm).spelled

/-- a data type for a type of a node -/
theorem Tame.tames_dataTypeOf (h : Tame tree uri p) {n : Node} {t : TypeDef} (hn : n ∈ tree.nodes)
    (ht : n.kind.type? = some t) : Tames tree uri p (dataTypeOf t) fun _ _ => True := by
  unfold dataTypeOf
  split
  · refine holds_lift (fun b _ => ⟨h, Namer.Grows.refl _, trivial⟩) fun e he => ?_
    obtain ⟨k, hk⟩ := hr.rooted (Tree.type_mem_types hn ht)
    rw [hk t t.self_mem_chain] at he
    cases he
  · rename_i hderived
    exact (tames_registerDataType hr hhome t h (.type hn ht (by simpa using hderived))).imp fun _ _ _ _ => trivial

theorem Tame.tames_translateTypedef (h : Tame tree uri p) {n : Node} {type : Option TypeDef} (hn : n ∈ tree.nodes)
    (hk : n.kind = .typedef type) : Tames tree uri p (translateTypedef type) fun _ _ => True := by
  unfold translateTypedef
  cases type with
  | none => exact h.tames_pure trivial
  | some t => exact Tames.map (h.tames_dataTypeOf hr hhome hn (by rw [hk]; rfl)) fun _ _ _ => trivial

omit hr

/-- the type of an identity, given how that of its base is registered -/
theorem Tame.tames_identityTypeUnder (h : Tame tree uri p) {i : Identity} (hi : i ∈ tree.topIdentities)
    {base : Translator (Option SymbolicName)}
    (hbase : ∀ q, Tame tree uri q → Tames tree uri q base fun b s =>
      ∀ nm, s.namer.Grows nm → b = (tree.baseOf? i).map fun j => nm.ownName j.head) :
    Tames tree uri p (identityTypeUnder i base) fun n s => s.namer.Gave (ownerOf i.head) "" n := by
  have hmakes : tree.Makes (.identity i) := .identity hi
  have hask : tree.Asks (ownerOf i.head) .identity := .source hmakes
  have hname := h.tames_nameFor hhome hask
  unfold identityTypeUnder
  refine Tames.bind hname fun n t1 h1 _ hn => ?_
  have hgave : t1.namer.Gave (ownerOf i.head) "" n := hn.1
  refine Tames.bind (h1.tames_isRegistered .identity n) ?_
  rintro known t2 - - rfl
  cases known with
  | true => exact h1.tames_pure hgave
  | false =>
    simp only [Bool.false_eq_true, if_false]
    split
    · exact Tames.bind (R := fun _ _ => False) (holds_throw trivial) fun _ _ _ _ hf => hf.elim
    · rename_i hlen
      have hsingle : Source.Single (.identity i) := Nat.not_lt.1 hlen
      have hreserved : Sourced tree t2 .identity n none (.identity i) :=
        ⟨hmakes, rfl, hgave, hsingle, fun d hd => by cases hd⟩
      refine Tames.imp (h1.tames_register (fun _ => ⟨_, hreserved⟩) fun q hq g => ?_) fun m s g hm => hm ▸ hgave.mono g
      refine Tames.bind (hbase q hq) fun b u hu g' hb => ?_
      refine (hu.tames_emitted _).imp fun d s g'' hd _ => ?_
      have hnamed := hgave.mono ((g.trans g').trans g'')
      refine ⟨.identity i, hmakes, rfl, hnamed, hsingle, fun e he nm hnm => ?_⟩
      cases he
      rw [hd, hb nm (g''.trans hnm), (hnamed.mono hnm).spelled]
      rfl

/-- an identity and the identities it derives from -/
theorem tames_translateIdentityWithin (steps : Nat) : ∀ {p : Progress} {i : Identity}, Tame tree uri p →
    i ∈ tree.topIdentities →
    Tames tree uri p (translateIdentityWithin tree steps i) fun n s => s.namer.Gave (ownerOf i.head) "" n := by
  have hbase : ∀ {i : Identity} {next : Identity → Translator SymbolicName},
      (∀ j q, j ∈ tree.topIdentities → Tame tree uri q →
        Tames tree uri q (next j) fun n s => s.namer.Gave (ownerOf j.head) "" n) → ∀ q, Tame tree uri q →
      Tames tree uri q (baseIdentityType tree i next) fun b s =>
        ∀ nm, s.namer.Grows nm → b = (tree.baseOf? i).map fun j => nm.ownName j.head := by
    intro i next hnext q hq
    unfold baseIdentityType
    split
    · rename_i hnil
      refine hq.tames_pure fun nm _ => ?_
      rw [Tree.baseOf?, hnil]
      rfl
    · rename_i b bs hcons
      cases hj : tree.identity? b with
      | none => exact tames_unsupported trivial
      | some j =>
        refine Tames.map (hnext j q (Tree.mem_of_identity? hj).1 hq) fun n s hn nm hnm => ?_
        have hfirst : tree.baseOf? i = some j := by
          rw [Tree.baseOf?, hcons]
          exact hj
        rw [hfirst, (hn.mono hnm).spelled]
        rfl
  induction steps with
  | zero => exact fun h hi => h.tames_identityTypeUnder hhome hi (hbase fun _ _ _ _ => tames_unsupported trivial)
  | succ steps ih => exact fun h hi => h.tames_identityTypeUnder hhome hi (hbase fun _ _ hj hq => ih hq hj)

end Parts

/-! ## Types and members of nodes -/

/-- a part of a translation that asks for no other names than those of the tree, whatever the state -/
def Modest (tree : Tree) (uri : String) (x : Translator α) : Prop :=
  ∀ p : Progress, Tame tree uri p → Tames tree uri p x fun _ _ => True

theorem Modest.bind {x : Translator α} {f : α → Translator β} (hx : Modest tree uri x) (hf : ∀ a, Modest tree uri (f a)) :
    Modest tree uri (x >>= f) :=
  fun p h => Tames.bind (hx p h) fun a q ht _ _ => hf a q ht

theorem Modest.map {x : Translator α} {f : α → β} (hx : Modest tree uri x) : Modest tree uri (f <$> x) :=
  fun p h => Tames.map (hx p h) fun _ _ _ => trivial

theorem modest_pure (a : α) : Modest tree uri (pure a : Translator α) :=
  fun _ h => h.tames_pure trivial

theorem modest_note (e : Event) : Modest tree uri (note e) :=
  fun _ h => h.tames_note e

theorem modest_emitted (d : Definition) : Modest tree uri (do emit d; return d : Translator Definition) :=
  fun _ h => (h.tames_emitted d).imp fun _ _ _ _ => trivial

theorem modest_nameFor (hhome : tree.Home uri) {o : Owner} {r : TypeRole} (ha : tree.Asks o r) :
    Modest tree uri (nameFor o r.text) :=
  fun _ h => (h.tames_nameFor hhome ha).imp fun _ _ _ _ => trivial

theorem modest_type {r : TypeRole} (hr : r ≠ .dataType ∧ r ≠ .identity) {n : SymbolicName} {build : Translator Definition}
    (hbuild : Modest tree uri build) : Modest tree uri (register r.family n build) :=
  fun _ h => (h.tames_type hr fun q ht _ => hbuild q ht).imp fun _ _ _ _ => trivial

theorem modest_skipData (n : Node) (select : DataNode → Option α) (data : List DataNode) :
    Modest tree uri (skipData n select data) := by
  unfold skipData
  split
  · exact modest_note _
  · exact modest_pure _

section Nodes

variable (hr : tree.Resolved) (hhome : tree.Home uri) {n : Node} (hn : n ∈ tree.nodes)

include hhome hn

theorem modest_containerTypeOf (hk : n.kind = .container) {members : Translator (List Member)}
    (hm : Modest tree uri members) : Modest tree uri (containerTypeOf n.head members) := by
  have hname := modest_nameFor hhome (.type hn (r := .container) (by rw [hk]; exact List.mem_cons_self))
  unfold containerTypeOf
  exact hname.bind fun s => modest_type (r := .container) (by decide) (hm.bind fun ms => modest_emitted _)

theorem modest_listTypesOf {keys : List String} (hk : n.kind = .list keys) {members : Translator (List Member)}
    (hm : Modest tree uri members) : Modest tree uri (listTypesOf n.head members) := by
  have hname : ∀ {r : TypeRole}, r ∈ [TypeRole.list, .element, .reference] →
      Modest tree uri (nameFor (ownerOf n.head) r.text) :=
    fun hrole => modest_nameFor hhome (.type hn (by rw [hk]; exact hrole))
  unfold listTypesOf
  refine (hname (r := .list) (by decide)).bind fun s1 => ?_
  refine (modest_type (r := .list) (by decide) (modest_emitted _)).bind fun list => ?_
  refine (hname (r := .element) (by decide)).bind fun s2 => ?_
  refine (modest_type (r := .element) (by decide) (hm.bind fun ms => modest_emitted _)).bind fun element => ?_
  refine (hname (r := .reference) (by decide)).bind fun s3 => ?_
  exact (modest_type (r := .reference) (by decide) (modest_emitted _)).bind fun reference => modest_pure _

theorem modest_choiceTypeOf (hk : n.kind = .choice) {cases : SymbolicName → Translator Unit}
    (hc : ∀ s, Modest tree uri (cases s)) : Modest tree uri (choiceTypeOf n.head cases) := by
  have hname := modest_nameFor hhome (.type hn (r := .choice) (by rw [hk]; exact List.mem_cons_self))
  unfold choiceTypeOf
  refine hname.bind fun s => modest_type (r := .choice) (by decide) ?_
  exact Modest.bind (modest_emitted _) fun d => (hc s).bind fun _ => modest_pure _

theorem modest_caseTypeOf (hk : n.kind = .case) (choice : SymbolicName) {members : Translator (List Member)}
    (hm : Modest tree uri members) : Modest tree uri (caseTypeOf n.head choice members) := by
  have hname := modest_nameFor hhome (.type hn (r := .case) (by rw [hk]; exact List.mem_cons_self))
  unfold caseTypeOf
  exact hname.bind fun s => modest_type (r := .case) (by decide) (hm.bind fun ms => modest_emitted _)

include hr

theorem modest_variableType {t : TypeDef} {r : TypeRole} (rank : ValueRank)
    (hk : n.kind = .leaf (some t) ∧ r = .leaf ∨ n.kind = .leafList (some t) ∧ r = .leafList) :
    Modest tree uri (variableType n.head (some t) r.text rank) := by
  have hrole : r ∈ typeRoles n.kind ∧ r.family = .variableType ∧ (r ≠ .dataType ∧ r ≠ .identity) ∧
      n.kind.type? = some t := by
    rcases hk with ⟨hk, rfl⟩ | ⟨hk, rfl⟩ <;> rw [hk] <;> exact ⟨List.mem_cons_self, rfl, by decide, rfl⟩
  have hdata : Modest tree uri (leafDataType n.head (some t)) :=
    fun _ h => h.tames_dataTypeOf hr hhome hn hrole.2.2.2
  unfold variableType
  refine (modest_nameFor hhome (.type hn hrole.1)).bind fun s => ?_
  rw [← hrole.2.1]
  exact modest_type hrole.2.2.1 (hdata.bind fun dt => modest_emitted _)

end Nodes

section Members

variable (hhome : tree.Home uri) {n c : Node} (hn : n ∈ tree.nodes) (hc : c ∈ n.children)

include hhome hn hc

/-- a member is named, if a node that holds members has it -/
theorem modest_named (hk : c.kind.hasMember = true) (f : SymbolicName → α) :
    Modest tree uri (do let name ← nameFor (ownerOf c.head) ""; return f name) := by
  have hname := modest_nameFor hhome (.member hn hc hk)
  exact hname.bind fun s => modest_pure _

theorem modest_leafMember (hr : tree.Resolved) {t : TypeDef} (hk : c.kind = .leaf (some t)) :
    Modest tree uri (leafMember c.head (some t) [] none) := by
  have hnode := Tree.child_mem_nodes hn hc
  have hvalue : findChild? DataNode.leafValue? c.head.name [] = none := rfl
  unfold leafMember leafType
  refine (modest_variableType hr hhome hnode (r := .leaf) _ (Or.inl ⟨hk, rfl⟩)).bind fun v => ?_
  dsimp only
  rw [hvalue]
  dsimp only
  rw [pure_bind]
  exact modest_named hhome hn hc (by rw [hk]; rfl) _

theorem modest_leafListMember (hr : tree.Resolved) {t : TypeDef} (hk : c.kind = .leafList (some t)) :
    Modest tree uri (leafListMember c.head (some t) [] none) := by
  have hnode := Tree.child_mem_nodes hn hc
  have hvalues : findChild? DataNode.leafListValues? c.head.name [] = none := rfl
  unfold leafListMember leafListType
  refine (modest_variableType hr hhome hnode (r := .leafList) _ (Or.inr ⟨hk, rfl⟩)).bind fun v => ?_
  dsimp only
  rw [hvalues]
  dsimp only
  rw [pure_bind]
  exact modest_named hhome hn hc (by rw [hk]; rfl) _

theorem modest_containerMember (hk : c.kind = .container) (type : SymbolicName)
    (members : List DataNode → Enclosing → Translator (List Member)) :
    Modest tree uri (containerMember c.head type [] none members) := by
  have hname := modest_nameFor hhome (.member hn hc (by rw [hk]; rfl))
  unfold containerMember
  exact hname.bind fun s => Modest.bind (modest_pure _) fun ms => modest_pure _

theorem modest_listMember {keys : List String} (hk : c.kind = .list keys) (types : ListTypes) :
    Modest tree uri (listMember c.head keys types) := by
  unfold listMember
  exact modest_named hhome hn hc (by rw [hk]; rfl) _

theorem modest_choiceMember (hk : c.kind = .choice) (type : SymbolicName) (cases : List Node) :
    Modest tree uri (choiceMember c.head type cases [] none) := by
  unfold choiceMember
  rw [if_neg (by simp)]
  exact modest_named hhome hn hc (by rw [hk]; rfl) _

end Members

mutual

/-- the member for a child of a node that holds members -/
theorem modest_memberOf (hr : tree.Resolved) (hhome : tree.Home uri) : ∀ (c : Node) {n : Node}, n ∈ tree.nodes →
    n.kind ≠ .choice → c ∈ n.children → Modest tree uri (memberOf [] none c)
  | ⟨head, kind, children⟩, n, hn, hk, hc => by
    have hself : ⟨head, kind, children⟩ ∈ tree.nodes := Tree.child_mem_nodes hn hc
    have hresolved := hr.nodes _ hself
    cases kind with
    | other keyword argument =>
      simp only [memberOf]
      split
      · exact (modest_note _).bind fun _ => modest_pure _
      · rename_i hkeyword
        exact fun _ _ => tames_unsupported ⟨n, hn, hk, _, hc, by simpa [NodeKind.isForeignBelow] using hkeyword⟩
    | list keys =>
      simp only [memberOf]
      have hmembers := modest_membersOf hr hhome children hself (by simp) fun _ h => h
      refine (modest_listTypesOf hhome hself rfl hmembers).bind fun types => ?_
      refine (modest_listMember hhome hn hc rfl types).bind fun m => ?_
      exact modest_pure (some m)
    | leaf type =>
      cases type with
      | none => exact absurd rfl hresolved.typed.1
      | some t =>
        simp only [memberOf]
        exact (modest_leafMember hhome hn hc hr rfl).map
    | leafList type =>
      cases type with
      | none => exact absurd rfl hresolved.typed.2.1
      | some t =>
        simp only [memberOf]
        exact (modest_leafListMember hhome hn hc hr rfl).map
    | container =>
      simp only [memberOf]
      have hmembers := modest_membersOf hr hhome children hself (by simp) fun _ h => h
      refine (modest_containerTypeOf hhome hself rfl hmembers).bind fun s => ?_
      exact (modest_containerMember hhome hn hc rfl s _).map
    | choice =>
      simp only [memberOf]
      have hcases := modest_caseTypesOf hr hhome children fun c h => ⟨Tree.child_mem_nodes hself h, hresolved.cases rfl c h⟩
      refine (modest_choiceTypeOf hhome hself rfl hcases).bind fun s => ?_
      exact (modest_choiceMember hhome hn hc rfl s children).map
    | typedef type =>
      simp only [memberOf]
      exact Modest.bind (fun _ h => h.tames_translateTypedef hr hhome hself rfl) fun _ => modest_pure _
    | case =>
      simp only [memberOf]
      exact fun _ _ => tames_unsupported ⟨n, hn, hk, _, hc, rfl⟩
    | identity bases =>
      simp only [memberOf]
      exact fun _ _ => tames_unsupported ⟨n, hn, hk, _, hc, rfl⟩

/-- the members for some children of a node that holds members -/
theorem modest_membersOf (hr : tree.Resolved) (hhome : tree.Home uri) : ∀ (cs : List Node) {n : Node}, n ∈ tree.nodes →
    n.kind ≠ .choice → (∀ c ∈ cs, c ∈ n.children) → Modest tree uri (membersOf [] none cs)
  | [], n, _, _, _ => by
    simp only [membersOf]
    exact modest_pure _
  | c :: cs, n, hn, hk, hcs => by
    obtain ⟨hc, htail⟩ := List.forall_mem_cons.1 hcs
    simp only [membersOf]
    refine (modest_memberOf hr hhome c hn hk hc).bind fun m => ?_
    exact (modest_membersOf hr hhome cs hn hk htail).bind fun ms => modest_pure _

/-- the types of some cases -/
theorem modest_caseTypesOf (hr : tree.Resolved) (hhome : tree.Home uri) : ∀ (cs : List Node),
    (∀ c ∈ cs, c ∈ tree.nodes ∧ c.kind = .case) → ∀ s : SymbolicName, Modest tree uri (caseTypesOf s cs)
  | [], _, s => by
    simp only [caseTypesOf]
    exact modest_pure _
  | ⟨head, kind, children⟩ :: cs, hcs, s => by
    obtain ⟨⟨hnode, hk⟩, htail⟩ := List.forall_mem_cons.1 hcs
    simp only [caseTypesOf]
    have hmembers := modest_membersOf hr hhome children hnode (by rw [hk]; simp) fun _ h => h
    refine (modest_caseTypeOf hhome hnode hk s hmembers).bind fun _ => ?_
    exact modest_caseTypesOf hr hhome cs htail s

end

end YangDesign.Translate
