/-
The data types that a chain of types adds to a design.

`TypeDef.links` are the types of a chain that derive from another one; their data types are built from the base on. What is
registered in a context of requests for data types derives from what is registered there or built in, so a link that is
registered has the rest of its chain registered, and a request builds the links before it only.

`Buildable` says what the names of some links must be like for this. It goes from a link to those below (`Buildable.below`,
`Buildable.reserve`); `Buildable.adds_dataTypeUnder` is one link, and `adds_registerDataType` the run down the chain.
`dataTypeOf_chain` is the request for a type of a resolved document.
-/
import YangDesign.Proofs.Schema.WellFormed
import YangDesign.Proofs.Translate.Asking
import YangDesign.Proofs.Translate.Contexts
import YangDesign.Proofs.Translate.Refusals

namespace YangDesign.Schema

open Translate

/-! ## Links -/

namespace TypeDef

/-- the types of a chain that have a base -/
def links (t : TypeDef) : List TypeDef :=
  t.chain.dropLast

/-- the types whose data types go with that of a type: an enumeration derives from the built-in one -/
def needs (t : TypeDef) : List TypeDef :=
  if t.kind = .builtIn .enumeration then [t] else t.links

variable {t b : TypeDef}

theorem links_of_none (h : t.base = none) : t.links = [] := by
  rw [links, chain_of_none h]
  rfl

theorem links_of_some (h : t.base = some b) : t.links = t :: b.links := by
  have hne : b.chain ≠ [] := List.ne_nil_of_mem b.self_mem_chain
  rw [links, chain_of_some h, List.dropLast_cons_of_ne_nil hne, links]

theorem mem_chain_of_mem_links {u : TypeDef} (h : u ∈ t.links) : u ∈ t.chain :=
  List.mem_of_mem_dropLast h

/-- a chain ends with the type that has no base -/
theorem exists_root (t : TypeDef) : ∃ r, t.chain = t.links ++ [r] ∧ r.base = none := by
  induction t using TypeDef.base_induct with
  | step t ih =>
    cases hb : t.base with
    | none =>
      refine ⟨t, ?_, hb⟩
      rw [chain_of_none hb, links_of_none hb]
      rfl
    | some b =>
      obtain ⟨r, hr, hnone⟩ := ih b hb
      refine ⟨r, ?_, hnone⟩
      rw [chain_of_some hb, links_of_some hb, hr]
      rfl

/-- a type with a base comes first among what goes with it, and the rest are links -/
theorem needs_isPrefix (h : t.base = some b) : t.needs <+: t.links := by
  unfold needs
  split
  · rw [links_of_some h]
    exact List.prefix_append [t] b.links
  · exact List.prefix_refl _

/-- the base of a type that is no enumeration becomes a data type exactly if it has a base -/
theorem derivedBase?_eq (henum : t.kind ≠ .builtIn .enumeration) (h : t.base = some b) :
    t.derivedBase? = if b.base.isNone then none else some b := by
  unfold derivedBase?
  rw [if_neg henum, h]
  cases hb : b.base with
  | none => simp [Option.filter, hb]
  | some c => simp [Option.filter, hb]

/-- a link derives from the next one -/
theorem derivedBase?_of_links {i : Nat} {u : TypeDef} (h : t.links[i]? = some u) (henum : u.kind ≠ .builtIn .enumeration) :
    u.derivedBase? = t.links[i + 1]? := by
  induction t using TypeDef.base_induct generalizing i with
  | step t ih =>
    cases hb : t.base with
    | none =>
      rw [links_of_none hb] at h
      cases h
    | some b =>
      rw [links_of_some hb] at h ⊢
      rw [List.getElem?_cons_succ]
      cases i with
      | zero =>
        cases h
        rw [derivedBase?_eq henum hb]
        cases hc : b.base with
        | none => rw [links_of_none hc]; rfl
        | some c => rw [links_of_some hc]; rfl
      | succ i => exact ih b hb h

/-- what goes from each link to the one it derives from goes to all that follow -/
theorem pairwise_links {P : TypeDef → Prop} (henum : ∀ u ∈ t.chain, u.kind ≠ .builtIn .enumeration)
    (step : ∀ u ∈ t.links, ∀ w, u.derivedBase? = some w → P u → P w) : t.links.Pairwise fun u w => P u → P w := by
  induction t using TypeDef.base_induct with
  | step t ih =>
    cases hb : t.base with
    | none =>
      rw [links_of_none hb]
      exact List.Pairwise.nil
    | some b =>
      rw [links_of_some hb] at step ⊢
      rw [chain_of_some hb, List.forall_mem_cons] at henum
      rw [List.forall_mem_cons] at step
      have hrest := ih b hb henum.2 step.2
      refine List.pairwise_cons.2 ⟨fun w hw ht => ?_, hrest⟩
      cases hc : b.base with
      | none =>
        rw [links_of_none hc] at hw
        cases hw
      | some c =>
        have hnext : t.derivedBase? = some b := by
          rw [derivedBase?_eq henum.1 hb, hc]
          rfl
        have hPb := step.1 b hnext ht
        rw [links_of_some hc] at hw hrest
        rcases List.mem_cons.1 hw with rfl | hw
        · exact hPb
        · exact (List.pairwise_cons.1 hrest).1 w hw hPb

end TypeDef

end YangDesign.Schema

namespace YangDesign.Translate

open Design Schema Progress

/-! ## Names of links -/

namespace Namer

/-- the namer after some namespaces have been seen in turn -/
def seeAll (n : Namer) (uris : List String) : Namer :=
  uris.foldl see n

theorem target_seeAll (n : Namer) (uris : List String) : (n.seeAll uris).target = n.target := by
  induction uris generalizing n with
  | nil => rfl
  | cons uri uris ih => exact (ih (n.see uri)).trans (grows_see n uri).target

theorem namespaces_seeAll {m n : Namer} (h : n.namespaces = m.namespaces) (uris : List String) :
    (n.seeAll uris).namespaces = (m.seeAll uris).namespaces := by
  induction uris generalizing m n with
  | nil => exact h
  | cons uri uris ih => exact ih (namespaces_see h uri)

theorem namespaces_isPrefix_seeAll (n : Namer) (uris : List String) : n.namespaces <+: (n.seeAll uris).namespaces := by
  induction uris generalizing n with
  | nil => exact List.prefix_refl _
  | cons uri uris ih => exact (grows_see n uri).namespaces.trans (ih (n.see uri))

theorem seeAll_isPrefix (n : Namer) {uris more : List String} (h : uris <+: more) :
    (n.seeAll uris).namespaces <+: (n.seeAll more).namespaces := by
  obtain ⟨rest, rfl⟩ := h
  rw [seeAll, seeAll, List.foldl_append]
  exact namespaces_isPrefix_seeAll _ rest

/-- a name is spelled alike when more namespaces have been seen -/
theorem symbol_of_isPrefix {m n : Namer} (htarget : n.target = m.target) (h : n.namespaces <+: m.namespaces) {o : Owner}
    (ho : o.namespaceUri ∈ n.namespaces) (role : String) : n.symbol o role = m.symbol o role := by
  obtain ⟨uris, huris⟩ := h
  rw [symbol, symbol, spelling, spelling, htarget, ← huris, List.idxOf_append_of_mem ho]

end Namer

/-- the name of the data type of a type -/
def dataTypeName (m : Namer) (t : TypeDef) : SymbolicName :=
  m.symbol (ownerOfType t) TypeRole.dataType.text

/-- the data type of the design that a type becomes -/
def dataTypeDesign (m : Namer) (t : TypeDef) : Definition :=
  ⟨plainLabels (dataTypeName m t) t.name.localName t.description, .dataType (some (baseTypeFor m t)) (fieldsOf t)⟩

/-- the namer when the namespaces of the links of a type have been seen in turn -/
def Namer.forLinks (n : Namer) (t : TypeDef) : Namer :=
  n.seeAll (t.links.map (·.name.namespaceUri))

/-! ## Runs down a chain -/

/-- the data types for some links that a state lacks, from the last link to the first -/
def missing (m : Namer) (p : Progress) (us : List TypeDef) : List Definition :=
  ((us.filter fun u => !p.registry.isRegistered .dataType (dataTypeName m u)).reverse).map (dataTypeDesign m)

/-- the names of some links are symbols, and free or theirs, as a namer spells them that has seen their namespaces in turn; a
link whose name is registered has the rest registered, and the design holds no other names of theirs -/
structure Buildable (m : Namer) (p : Progress) (us : List TypeDef) : Prop where
  target : p.namer.target = m.target
  namespaces : (p.namer.seeAll (us.map (·.name.namespaceUri))).namespaces <+: m.namespaces
  symbols : ∀ u ∈ us, Text.isSymbol (dataTypeName m u).name = true
  distinct : (us.map (dataTypeName m)).Nodup
  free : ∀ u ∈ us, ∀ o, p.namer.owners.find? (dataTypeName m u).name = some o → o = ownerOfType u
  given : ∀ u ∈ us, p.registry.isRegistered .dataType (dataTypeName m u) = true →
    p.namer.Gave (ownerOfType u) TypeRole.dataType.text (dataTypeName m u)
  closed : us.Pairwise fun u w => p.registry.isRegistered .dataType (dataTypeName m u) = true →
    p.registry.isRegistered .dataType (dataTypeName m w) = true
  listed : ∀ u ∈ us, p.document.contains (dataTypeName m u) = true →
    p.registry.isRegistered .dataType (dataTypeName m u) = true

/-- the names of some links are given, and the design holds their data types besides what it held before -/
structure AddsLinks (m : Namer) (p : Progress) (us : List TypeDef) (q : Progress) : Prop where
  definitions : q.document.definitions.toList = p.document.definitions.toList ++ missing m p us
  contains : ∀ n, q.document.contains n = true → p.document.contains n = true ∨ n ∈ us.map (dataTypeName m)
  given : ∀ u ∈ us, q.namer.Gave (ownerOfType u) TypeRole.dataType.text (dataTypeName m u)

variable {m : Namer} {p q r : Progress} {t : TypeDef} {us : List TypeDef}

theorem missing_of_registered (h : ∀ u ∈ us, p.registry.isRegistered .dataType (dataTypeName m u) = true) :
    missing m p us = [] := by
  rw [missing, List.filter_eq_nil_iff.2 fun u hu => by rw [h u hu]; decide]
  rfl

theorem missing_cons (h : p.registry.isRegistered .dataType (dataTypeName m t) = false) :
    missing m p (t :: us) = missing m p us ++ [dataTypeDesign m t] := by
  rw [missing, List.filter_cons_of_pos (by rw [h]; rfl), List.reverse_cons, List.map_append]
  rfl

/-- a name that none of some links has makes no difference to them when it is reserved -/
theorem isRegistered_of_reserve (hq : q.registry = p.registry.reserve .dataType (dataTypeName m t))
    (ht : dataTypeName m t ∉ us.map (dataTypeName m)) {u : TypeDef} (hu : u ∈ us) :
    q.registry.isRegistered .dataType (dataTypeName m u) = p.registry.isRegistered .dataType (dataTypeName m u) := by
  have hne : ¬ (Family.dataType = .dataType ∧ dataTypeName m t = dataTypeName m u) := fun h =>
    ht (h.2 ▸ List.mem_map_of_mem hu)
  rw [hq, Registry.reserve, isRegistered_insert, decide_eq_false hne, Bool.false_or]

theorem missing_of_reserve (hq : q.registry = p.registry.reserve .dataType (dataTypeName m t))
    (ht : dataTypeName m t ∉ us.map (dataTypeName m)) : missing m q us = missing m p us := by
  rw [missing, missing, List.filter_congr fun u hu => congrArg _ (isRegistered_of_reserve hq ht hu)]

/-- links that can be built can be built where the name of another one is reserved -/
theorem Buildable.reserve (h : Buildable m p us) (hn : q.namer = p.namer) (hd : q.document = p.document)
    (hq : q.registry = p.registry.reserve .dataType (dataTypeName m t))
    (ht : dataTypeName m t ∉ us.map (dataTypeName m)) : Buildable m q us where
  target := hn ▸ h.target
  namespaces := hn ▸ h.namespaces
  symbols := h.symbols
  distinct := h.distinct
  free := hn ▸ h.free
  given := fun u hu hreg => by
    rw [isRegistered_of_reserve hq ht hu] at hreg
    exact hn ▸ h.given u hu hreg
  closed := h.closed.imp_of_mem fun hu hw huw => by
    rw [isRegistered_of_reserve hq ht hu, isRegistered_of_reserve hq ht hw]
    exact huw
  listed := fun u hu hmem => by
    rw [hd] at hmem
    rw [isRegistered_of_reserve hq ht hu]
    exact h.listed u hu hmem

/-- the links below the first one can be built where its name alone has been given -/
theorem Buildable.below (h : Buildable m p (t :: us)) {m' : Namer} (hgrows : p.namer.Grows m')
    (hnamespaces : m'.namespaces = (p.namer.see (ownerOfType t).namespaceUri).namespaces)
    (howned : ∀ name o, m'.owners.find? name = some o →
      name = (dataTypeName m t).name ∨ p.namer.owners.find? name = some o) :
    Buildable m { p with namer := m' } us where
  target := hgrows.target.trans h.target
  namespaces := by
    rw [Namer.namespaces_seeAll hnamespaces]
    exact h.namespaces
  symbols := fun u hu => h.symbols u (List.mem_cons_of_mem _ hu)
  distinct := (List.nodup_cons.1 h.distinct).2
  free := fun u hu o ho => by
    rcases howned _ o ho with hname | hold
    · have hsame : dataTypeName m u = dataTypeName m t := congrArg (SymbolicName.mk m.target) hname
      exact absurd (List.mem_map.2 ⟨u, hu, hsame⟩) (List.nodup_cons.1 h.distinct).1
    · exact h.free u (List.mem_cons_of_mem _ hu) o hold
  given := fun u hu hreg => (h.given u (List.mem_cons_of_mem _ hu) hreg).mono hgrows
  closed := (List.pairwise_cons.1 h.closed).2
  listed := fun u hu => h.listed u (List.mem_cons_of_mem _ hu)

/-- the name of the first link is given out, and the rest can still be built -/
theorem Buildable.name (h : Buildable m p (t :: us)) :
    ∃ m', p.namer.nameFor (ownerOfType t) TypeRole.dataType.text = (.ok (dataTypeName m t), m') ∧
      m'.Gave (ownerOfType t) TypeRole.dataType.text (dataTypeName m t) ∧ Buildable m { p with namer := m' } us := by
  have hgrows := p.namer.grows_see (ownerOfType t).namespaceUri
  have hsymbol : (p.namer.see (ownerOfType t).namespaceUri).symbol (ownerOfType t) TypeRole.dataType.text =
      dataTypeName m t :=
    Namer.symbol_of_isPrefix (hgrows.target.trans h.target) ((Namer.namespaces_isPrefix_seeAll _ _).trans h.namespaces)
      (Namer.mem_see _ _) _
  have hspelling := congrArg SymbolicName.name hsymbol
  have howners := p.namer.owners_see (ownerOfType t).namespaceUri
  rcases Namer.nameFor_cases p.namer (ownerOfType t) TypeRole.dataType.text with ⟨hno, -⟩ | ⟨o, hne, ho, -⟩ | ⟨ho, hr⟩ |
    ⟨hnew, hr⟩
  · have hyes := h.symbols t List.mem_cons_self
    rw [← hspelling] at hyes
    exact absurd (hyes.symm.trans hno) (by decide)
  · refine absurd (h.free t List.mem_cons_self o ?_) hne
    rw [← hspelling, ← howners]
    exact ho
  · rw [hsymbol] at hr
    refine ⟨_, hr, ?_, h.below hgrows rfl fun name o ho => .inr (howners ▸ ho)⟩
    exact ⟨Namer.mem_see _ _, hsymbol.symm, hspelling ▸ ho⟩
  · rw [hsymbol] at hr
    have hgave := Namer.gave_insert (Namer.mem_see p.namer (ownerOfType t).namespaceUri) TypeRole.dataType.text
    rw [hsymbol] at hgave
    refine ⟨_, hr, hgave, h.below (hgrows.trans (Namer.grows_insert _ hnew)) rfl fun name o ho => ?_⟩
    dsimp only at ho
    rw [Assoc.find?_insert] at ho
    split at ho
    · rename_i heq
      exact .inl (heq.symm.trans hspelling)
    · exact .inr (howners ▸ ho)

/-- the data type of a link comes after those of the links below -/
theorem AddsLinks.cons (h : AddsLinks m q us r) (hdocument : q.document = p.document)
    (hregistry : q.registry = p.registry.reserve .dataType (dataTypeName m t))
    (hnew : p.registry.isRegistered .dataType (dataTypeName m t) = false) (hdistinct : dataTypeName m t ∉ us.map (dataTypeName m))
    (hgiven : r.namer.Gave (ownerOfType t) TypeRole.dataType.text (dataTypeName m t)) {s : Progress}
    (hnamer : s.namer = r.namer) (happend : r.document.append (dataTypeDesign m t) = some s.document) :
    AddsLinks m p (t :: us) s where
  definitions := by
    rw [ModelDocument.definitions_append happend, Array.toList_push, h.definitions, hdocument, missing_cons hnew,
      missing_of_reserve hregistry hdistinct, List.append_assoc]
  contains := fun n hmem => by
    rw [ModelDocument.contains_append happend, Bool.or_eq_true, decide_eq_true_iff] at hmem
    rcases hmem with rfl | hmem
    · exact .inr List.mem_cons_self
    · rcases h.contains n hmem with hmem | hmem
      · exact .inl (hdocument ▸ hmem)
      · exact .inr (List.mem_cons_of_mem _ hmem)
  given := fun w hw => by
    rw [hnamer]
    rcases List.mem_cons.1 hw with rfl | hw
    · exact hgiven
    · exact h.given w hw

/-- **A link.** Its data type is added once those of the links below are, unless it is there, as those are then. -/
theorem Buildable.adds_dataTypeUnder (h : Buildable m p (t :: us)) {base : Translator SymbolicName}
    (hadvances : Advances base)
    (hbase : ∀ q, Buildable m q us → Holds base q (fun b s => b = baseTypeFor m t ∧ AddsLinks m q us s) fun _ => False) :
    Holds (dataTypeUnder t base) p (fun n q => n = dataTypeName m t ∧ AddsLinks m p (t :: us) q) fun _ => False := by
  obtain ⟨hdistinct, -⟩ := List.nodup_cons.1 h.distinct
  obtain ⟨m', hname, hgave, hbelow⟩ := h.name
  have hgrows : p.namer.Grows m' := by
    have := p.namer.grows_nameFor (ownerOfType t) TypeRole.dataType.text
    rwa [hname] at this
  unfold dataTypeUnder
  refine Holds.bind (holds_nameFor hname (fun n hn => ?_) (fun _ hn => by cases hn) fun _ _ _ hn => by cases hn)
  cases hn
  refine holds_register (fun hknown => ⟨rfl, ?_⟩) fun (hnew : p.registry.isRegistered .dataType (dataTypeName m t) = false) q
    (hnamer : q.namer = m') (hdocument : q.document = p.document)
    (hregistry : q.registry = p.registry.reserve .dataType (dataTypeName m t)) => ?_
  · -- the rest of the chain is registered with `t`
    have hall : ∀ u ∈ t :: us, p.registry.isRegistered .dataType (dataTypeName m u) = true :=
      List.forall_mem_cons.2 ⟨hknown, fun u hu => (List.pairwise_cons.1 h.closed).1 u hu hknown⟩
    refine ⟨?_, fun n hn => .inl hn, fun u hu => (h.given u hu (hall u hu)).mono hgrows⟩
    rw [missing_of_registered hall, List.append_nil]
  · have hq : Buildable m q us := hbelow.reserve hnamer hdocument hregistry hdistinct
    refine Holds.bind (((hbase q hq).and hadvances.holds).mono (fun b s hs => ?_) fun _ he => he.1)
    obtain ⟨⟨rfl, hadds⟩, hlater⟩ := hs
    have hgiven : s.namer.Gave (ownerOfType t) TypeRole.dataType.text (dataTypeName m t) :=
      (hnamer ▸ hgave).mono hlater.namer
    have hfree : s.document.contains (dataTypeName m t) ≠ true := fun hmem => by
      rcases hadds.contains _ hmem with hmem | hmem
      · rw [hdocument] at hmem
        exact absurd (hnew.symm.trans (h.listed t List.mem_cons_self hmem)) (by decide)
      · exact hdistinct hmem
    refine Holds.bind ((holds_emit _).mono (fun _ u hu => holds_pure ⟨rfl, ?_⟩) fun _ => hfree)
    obtain ⟨hn, -, happend⟩ := hu
    exact hadds.cons hdocument hregistry hnew hdistinct hgiven hn happend

theorem registerDataType_of_some {b : TypeDef} (h : t.base = some b) :
    registerDataType t = dataTypeUnder t (baseDataType t b (registerDataType b)) := by
  obtain ⟨name, path, kind, base, enums, description⟩ := t
  cases h
  rw [registerDataType]

theorem baseTypeFor_of_none {k : BuiltIn} (h : t.derivedBase? = none) (hkind : t.kind = .builtIn k) :
    baseTypeFor m t = builtInName (opcName k) := by
  rw [baseTypeFor, h, hkind]

theorem baseTypeFor_of_some {b : TypeDef} (h : t.derivedBase? = some b) : baseTypeFor m t = dataTypeName m b := by
  rw [baseTypeFor, h]
  rfl

/-- no links add nothing -/
theorem addsLinks_nil (m : Namer) (p : Progress) : AddsLinks m p [] p where
  definitions := (List.append_nil _).symm
  contains := fun _ hn => .inl hn
  given := fun _ hu => by cases hu

/-- **A chain.** The data types of its links are added from the base on, as far as they are not there. -/
theorem adds_registerDataType {k : BuiltIn} (t : TypeDef) : ∀ {p : Progress}, (∀ u ∈ t.chain, u.kind = .builtIn k) →
    t.base.isSome → Buildable m p t.needs →
    Holds (registerDataType t) p (fun n q => n = dataTypeName m t ∧ AddsLinks m p t.needs q) fun _ => False := by
  induction t using TypeDef.base_induct with
  | step t ih =>
    intro p hkinds hsome h
    obtain ⟨b, hb⟩ := Option.isSome_iff_exists.1 hsome
    rw [TypeDef.chain_of_some hb, List.forall_mem_cons] at hkinds
    obtain ⟨hkind, hkinds⟩ := hkinds
    rw [registerDataType_of_some hb]
    have hadvances : Advances (baseDataType t b (registerDataType b)) := advances.baseDataType t b (advances.registerDataType b)
    by_cases henum : t.kind = .builtIn .enumeration
    · -- an enumeration derives from the built-in one, whatever its base
      have hneeds : t.needs = [t] := if_pos henum
      rw [hneeds] at h ⊢
      refine h.adds_dataTypeUnder hadvances fun q _ => ?_
      have hnone : t.derivedBase? = none := if_pos henum
      rw [baseDataType, if_pos henum]
      exact holds_pure ⟨(baseTypeFor_of_none hnone henum).symm, addsLinks_nil m q⟩
    · have hneeds : t.needs = t :: b.links := (if_neg henum).trans (TypeDef.links_of_some hb)
      have hderived := TypeDef.derivedBase?_eq henum hb
      rw [hneeds] at h ⊢
      refine h.adds_dataTypeUnder hadvances fun q hq => ?_
      rw [baseDataType, if_neg henum]
      cases hc : b.base with
      | none =>
        rw [hc] at hderived
        rw [hkinds b b.self_mem_chain, TypeDef.links_of_none hc]
        exact holds_pure ⟨(baseTypeFor_of_none hderived hkind).symm, addsLinks_nil m q⟩
      | some c =>
        rw [hc] at hderived
        have hbneeds : b.needs = b.links := if_neg (by rw [hkinds b b.self_mem_chain, ← hkind]; exact henum)
        rw [← hbneeds] at hq ⊢
        rw [baseTypeFor_of_some hderived]
        exact ih b hb hkinds (by rw [hc]; rfl) hq

/-! ## Types of a schema -/

theorem not_isStandard_symbol (m : Namer) (o : Owner) (role : String) : ¬ IsStandard (m.symbol o role) := fun h =>
  h.2 (Namer.head?_spelling m o role)

/-- a link that is registered has the rest of the chain registered, if what is registered under their names is theirs -/
theorem closed_links (hkinds : ∀ u ∈ t.chain, u.kind ≠ .builtIn .enumeration) (hp : AfterDataTypes p)
    (hbuilt : ∀ u ∈ t.links, ∀ e, p.registry.lookUp .dataType (dataTypeName m u) = some e → e = dataTypeDesign m u) :
    t.links.Pairwise fun u w => p.registry.isRegistered .dataType (dataTypeName m u) = true →
      p.registry.isRegistered .dataType (dataTypeName m w) = true := by
  obtain ⟨hstocked, hcomplete⟩ := hp.stocked
  refine TypeDef.pairwise_links hkinds fun u hu w hw hreg => ?_
  obtain ⟨e, he⟩ := hcomplete _ hreg
  have hcontent : e.content = .dataType (some (dataTypeName m w)) (fieldsOf u) := by
    rw [hbuilt u hu e he, dataTypeDesign, baseTypeFor_of_some hw]
  exact (hstocked.based _ e he _ _ hcontent).resolve_left (not_isStandard_symbol m _ _)

/-- what goes with a type of a schema can be built in a context of requests for data types, if the names of the links are
theirs alone and what is registered under them is theirs -/
theorem buildable_needs {v : Value} {d : Document} {tree : Tree} (hcheck : Document.check v = .ok d)
    (hresolve : d.resolve = .ok tree) (ht : t ∈ tree.types) (hbase : t.base.isSome) (hp : AfterDataTypes p)
    (hm : m = p.namer.forLinks t) (hdistinct : (t.links.map ownerOfType).Nodup)
    (hclash : ∀ u ∈ t.links, ∀ w ∈ t.links, dataTypeName m u = dataTypeName m w → ownerOfType u = ownerOfType w)
    (hfree : ∀ u ∈ t.links, ∀ o, p.namer.owners.find? (dataTypeName m u).name = some o → o = ownerOfType u)
    (hbuilt : ∀ u ∈ t.links, ∀ e, p.registry.lookUp .dataType (dataTypeName m u) = some e → e = dataTypeDesign m u) :
    Buildable m p t.needs := by
  obtain ⟨b, hb⟩ := Option.isSome_iff_exists.1 hbase
  obtain ⟨hstocked, -⟩ := hp.stocked
  have hfirst := TypeDef.needs_isPrefix hb
  have htypes : ∀ u ∈ t.links, u ∈ tree.types := fun u hu => Tree.chain_mem_types ht (TypeDef.mem_chain_of_mem_links hu)
  have hnames : (t.links.map (dataTypeName m)).Nodup := by
    rw [List.Nodup, List.pairwise_map] at hdistinct ⊢
    exact hdistinct.imp_of_mem fun hu hw hne heq => hne (hclash _ hu _ hw heq)
  have hgiven : ∀ u ∈ t.links, p.registry.isRegistered .dataType (dataTypeName m u) = true →
      p.namer.Gave (ownerOfType u) TypeRole.dataType.text (dataTypeName m u) := fun u hu hreg => by
    obtain ⟨o, ho⟩ := hstocked.named _ hreg
    exact hfree u hu o ho.owned ▸ ho
  exact {
    target := by rw [hm, Namer.forLinks, Namer.target_seeAll]
    namespaces := by
      rw [hm, Namer.forLinks]
      exact Namer.seeAll_isPrefix _ (hfirst.map _)
    symbols := fun u hu =>
      isSymbol_of_owns hcheck hresolve (Tree.owns_type (htypes u (hfirst.subset hu))) m (.type .dataType)
    distinct := (hfirst.sublist.map _).nodup hnames
    free := fun u hu => hfree u (hfirst.subset hu)
    given := fun u hu => hgiven u (hfirst.subset hu)
    closed := by
      unfold TypeDef.needs
      split
      · exact List.pairwise_singleton _ t
      · rename_i henum
        obtain ⟨k, hk⟩ := (Document.resolve_resolved hresolve).rooted ht
        refine closed_links (fun u hu => ?_) hp hbuilt
        rw [hk u hu, ← hk t t.self_mem_chain]
        exact henum
    listed := fun u _ => hstocked.listed _ }

/-- **The data types of a chain.** Let a type of a schema have a base, and let the links of its chain have distinct owners and
no name that another owner has, where any data type that is registered under one of the names is that of the link. After any
requests for data types that were answered, a request for that of the type is answered with its name. The design then ends
with the data types that were not registered, from the base on: the last link derives from the built-in type of the kind at the
end of the chain, and every other link from the next one. Of an enumeration there is only its own data type, which derives from
the built-in enumeration and has the labels with their numbers. -/
theorem dataTypeOf_chain {v : Value} {d : Document} {tree : Tree} (hcheck : Document.check v = .ok d)
    (hresolve : d.resolve = .ok tree) (ht : t ∈ tree.types) (hbase : t.base.isSome) (hp : AfterDataTypes p)
    (hm : m = p.namer.forLinks t) (hdistinct : (t.links.map ownerOfType).Nodup)
    (hclash : ∀ u ∈ t.links, ∀ w ∈ t.links, dataTypeName m u = dataTypeName m w → ownerOfType u = ownerOfType w)
    (hfree : ∀ u ∈ t.links, ∀ o, p.namer.owners.find? (dataTypeName m u).name = some o → o = ownerOfType u)
    (hbuilt : ∀ u ∈ t.links, ∀ e, p.registry.lookUp .dataType (dataTypeName m u) = some e → e = dataTypeDesign m u) :
    ∃ q, ((dataTypeOf t).run p : Except Failure SymbolicName × Progress) = (.ok (dataTypeName m t), q) ∧
      (∀ u ∈ t.needs, q.namer.Gave (ownerOfType u) TypeRole.dataType.text (dataTypeName m u)) ∧
      q.document.definitions.toList = p.document.definitions.toList ++ missing m p t.needs ∧
      (t.kind = .builtIn .enumeration → t.needs = [t] ∧
        (dataTypeDesign m t).content = .dataType (some (builtInName "Enumeration")) (t.enums.map enumField)) ∧
      (t.kind ≠ .builtIn .enumeration → t.needs = t.links ∧
        ∃ r k, t.chain = t.links ++ [r] ∧ r.base = none ∧ r.kind = .builtIn k ∧
          ∀ i u, t.links[i]? = some u → (dataTypeDesign m u).content = .dataType
            (some (match t.links[i + 1]? with
              | some w => dataTypeName m w
              | none => builtInName (opcName k))) []) := by
  obtain ⟨k, hk⟩ := (Document.resolve_resolved hresolve).rooted ht
  have hbuildable := buildable_needs hcheck hresolve ht hbase hp hm hdistinct hclash hfree hbuilt
  have hrequest : Holds (dataTypeOf t) p (fun n q => n = dataTypeName m t ∧ AddsLinks m p t.needs q) fun _ => False := by
    have hderived : t.isPrimitive = false := by
      rw [TypeDef.isPrimitive, Option.isNone_eq_false_iff.2 hbase, Bool.false_and]
    rw [dataTypeOf, hderived]
    exact adds_registerDataType t hk hbase hbuildable
  rcases hrun : ((dataTypeOf t).run p : Except Failure SymbolicName × Progress) with ⟨e | n, q⟩
  · exact (hrequest.error hrun).elim
  obtain ⟨rfl, hadds⟩ := hrequest.ok hrun
  refine ⟨q, rfl, hadds.given, hadds.definitions, fun henum => ⟨if_pos henum, ?_⟩, fun henum => ⟨if_neg henum, ?_⟩⟩
  · have hnone : t.derivedBase? = none := if_pos henum
    rw [dataTypeDesign, fieldsOf, if_pos henum, baseTypeFor_of_none hnone henum]
    rfl
  · obtain ⟨r, hr, hroot⟩ := t.exists_root
    have hlast : r ∈ t.chain := by
      rw [hr]
      exact List.mem_append_right _ (List.mem_singleton_self r)
    refine ⟨r, k, hr, hroot, hk r hlast, fun i u hu => ?_⟩
    have hukind := hk u (TypeDef.mem_chain_of_mem_links (List.mem_of_getElem? hu))
    have huenum : u.kind ≠ .builtIn .enumeration := by
      rw [hukind, ← hk t t.self_mem_chain]
      exact henum
    have hnext := TypeDef.derivedBase?_of_links hu huenum
    rw [dataTypeDesign, fieldsOf, if_neg huenum]
    cases hw : t.links[i + 1]? with
    | none => rw [baseTypeFor_of_none (hnext.trans hw) hukind]
    | some w => rw [baseTypeFor_of_some (hnext.trans hw)]

/-- a type of a module that derives from another one under a name -/
def layer (name : String) (base : TypeDef) : TypeDef :=
  ⟨⟨"urn:m", name⟩, [name], .builtIn .uint8, some base, [], none⟩

/-- the type `a` over a built-in one, the type `b` over `a`, and the type `c` over `b` -/
def layerA : TypeDef :=
  layer "a" ⟨⟨"urn:m", "uint8"⟩, ["a", "uint8"], .builtIn .uint8, none, [], none⟩

def layerB : TypeDef :=
  layer "b" layerA

def layerC : TypeDef :=
  layer "c" layerB

/-- a schema with these types -/
def layeredSchema : Value :=
  let named := fun (name type : String) => Value.map [(.text "kind", .text "typedef"), (.text "name", .text name),
    (.text "type", .map [(.text "name", .text type)])]
  .map [(.text "modules", .list [.map [(.text "name", .text "m"), (.text "namespace", .text "urn:m"),
    (.text "prefix", .text "m"), (.text "statements", .list [named "a" "uint8", named "b" "a", named "c" "b"])]])]

/-- the state in which the data type of `a` is registered -/
def afterA : Progress :=
  ((dataTypeOf layerA).run (.start (.new "urn:t" [])) : Except Failure SymbolicName × Progress).2

/-- the data types of `b` and `c` are added to that of `a`, which is there -/
theorem dataTypeOf_layers : ∃ d tree, Document.check layeredSchema = .ok d ∧ d.resolve = .ok tree ∧ layerC ∈ tree.types ∧
    AfterDataTypes afterA ∧ ∃ q, ((dataTypeOf layerC).run afterA : Except Failure SymbolicName × Progress) =
        (.ok ⟨"urn:t", "ns0__cDataType"⟩, q) ∧
      afterA.document.definitions.toList.map (·.name.name) = ["ns0__aDataType"] ∧
      q.document.definitions.toList.map (fun e => (e.name.name, e.base?.map (·.name))) =
        [("ns0__aDataType", some "Byte"), ("ns0__bDataType", some "ns0__aDataType"),
          ("ns0__cDataType", some "ns0__bDataType")] := by
  let d : Document := ⟨[⟨"m", "urn:m", "m", none, [.named "a" none (.typedef (.mk "uint8" none none)) [],
    .named "b" none (.typedef (.mk "a" none none)) [], .named "c" none (.typedef (.mk "b" none none)) []]⟩]⟩
  let node := fun (name : String) (t : TypeDef) => Node.mk ⟨⟨"urn:m", name⟩, [name], none⟩ (.typedef (some t)) []
  let tree : Tree := ⟨[⟨"m", "urn:m", "m", [node "a" layerA, node "b" layerB, node "c" layerC], none⟩]⟩
  have hcheck : Document.check layeredSchema = .ok d := rfl
  have hresolve : d.resolve = .ok tree := rfl
  have hmem : layerC ∈ tree.types := by
    refine Tree.type_mem_types (n := node "c" layerC) ?_ rfl
    simp [tree, node, Tree.nodes, Module.nodes, Node.allIn, Node.all]
  have hlinks : layerC.links = [layerC, layerB, layerA] := rfl
  have hasked : ((dataTypeOf layerA).run (.start (.new "urn:t" [])) : Except Failure SymbolicName × Progress) =
    (.ok ⟨"urn:t", "ns0__aDataType"⟩, afterA) := by with_unfolding_all rfl
  have hp : AfterDataTypes afterA := .ask (.start "urn:t" []) hasked
  obtain ⟨m, hm⟩ : ∃ m, m = afterA.namer.forLinks layerC := ⟨_, rfl⟩
  have hA : dataTypeName m layerA = ⟨"urn:t", "ns0__aDataType"⟩ := by rw [hm]; decide +kernel
  have hB : dataTypeName m layerB = ⟨"urn:t", "ns0__bDataType"⟩ := by rw [hm]; decide +kernel
  have hC : dataTypeName m layerC = ⟨"urn:t", "ns0__cDataType"⟩ := by rw [hm]; decide +kernel
  have howners : (layerC.links.map ownerOfType).Nodup := by
    rw [hlinks]
    decide
  have hclash : ∀ u ∈ layerC.links, ∀ w ∈ layerC.links, dataTypeName m u = dataTypeName m w →
      ownerOfType u = ownerOfType w := by
    simp [hlinks, hA, hB, hC]
  have hfree : ∀ u ∈ layerC.links, ∀ o, afterA.namer.owners.find? (dataTypeName m u).name = some o → o = ownerOfType u := by
    have hownerA : afterA.namer.owners.find? "ns0__aDataType" = some (ownerOfType layerA) := by decide +kernel
    have hownerB : afterA.namer.owners.find? "ns0__bDataType" = none := by decide +kernel
    have hownerC : afterA.namer.owners.find? "ns0__cDataType" = none := by decide +kernel
    simp [hlinks, hA, hB, hC, hownerA, hownerB, hownerC]
  have hbuilt : ∀ u ∈ layerC.links, ∀ e, afterA.registry.lookUp .dataType (dataTypeName m u) = some e →
      e = dataTypeDesign m u := by
    have hlookA : afterA.registry.lookUp .dataType ⟨"urn:t", "ns0__aDataType"⟩ = some (dataTypeDesign m layerA) := by
      rw [dataTypeDesign, hA]
      with_unfolding_all rfl
    have hlookB : afterA.registry.lookUp .dataType ⟨"urn:t", "ns0__bDataType"⟩ = none := by with_unfolding_all rfl
    have hlookC : afterA.registry.lookUp .dataType ⟨"urn:t", "ns0__cDataType"⟩ = none := by with_unfolding_all rfl
    simp [hlinks, hA, hB, hC, hlookA, hlookB, hlookC]
  obtain ⟨q, hrun, -, hdefinitions, -, -⟩ := dataTypeOf_chain hcheck hresolve hmem rfl hp hm howners hclash hfree hbuilt
  rw [hC] at hrun
  refine ⟨d, tree, hcheck, hresolve, hmem, hp, q, hrun, by with_unfolding_all rfl, ?_⟩
  rw [hdefinitions, hm]
  decide +kernel

end YangDesign.Translate
