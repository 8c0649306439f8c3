/-
Identities and their bases.

Bases lead from identity to identity by look-ups, and may come back. A translation follows them all the same: a name is reserved
before its base is built, so no identity is built twice, and there are steps for all of them. `Tree.Stops` lists what stops an
identity itself; the walk over the bases (`stops_translateIdentityWithin`) finds nothing else that fails. In the design each
identity has one definition (`Sound.identity_defined`), and its base stands before it unless the bases of the identity lead
back to it (`Sound.base_earlier`).
-/
import YangDesign.Proofs.Translate.Outcome

namespace YangDesign.Schema

open Translate

/-- the definition of `j` is the base of that of `i` -/
def Tree.Extends (t : Tree) (i j : Identity) : Prop :=
  t.baseOf? i = some j

/-- another owner of names in the namespace of an identity has a name that is spelled like that of the identity -/
structure Tree.Shares (t : Tree) (i : Identity) (o : Owner) : Prop where
  owns : t.Owns o
  namespaceUri : o.namespaceUri = i.head.name.namespaceUri
  path : o.path ≠ i.head.path
  spelled : ∃ q : Purpose, symbolText ("___".intercalate o.path ++ q.text) = symbolText ("___".intercalate i.head.path)

/-- all names of a tree are identifiers -/
def Tree.Spelled (t : Tree) : Prop :=
  ∀ o, t.Owns o → ∀ (n : Namer) (q : Purpose), Text.isSymbol (n.spelling o q.text) = true

/-- what stops an identity itself: several bases, or a name that another owner has -/
inductive Tree.Stops (t : Tree) (i : Identity) : Failure → Prop where
  | bases : 1 < i.bases.length → Stops t i (.untranslatable (.multipleBases i.head.name.localName) i.head.path)
  | clash {o : Owner} {name : String} : t.Shares i o →
    Stops t i (.untranslatable (.clash name i.head.path o.path) i.head.path)

end YangDesign.Schema

namespace YangDesign.Translate

open Design Instance Schema Progress

variable {tree : Tree} {p : Progress}

/-! ## Following bases -/

/-- the names that were given out are for owners of the tree -/
structure Fair (tree : Tree) (n : Namer) : Prop where
  sound : n.Sound
  owners : ∀ name o, n.owners.find? name = some o → tree.Owns o

theorem Fair.see {n : Namer} (h : Fair tree n) (uri : String) : Fair tree (n.see uri) :=
  ⟨h.sound.see uri, fun name o ho => h.owners name o (n.owners_see uri ▸ ho)⟩

theorem Fair.insert {n : Namer} (h : Fair tree n) {o : Owner} (ho : tree.Owns o) {q : Purpose}
    (hs : o.namespaceUri ∈ n.namespaces) (hn : n.owners.find? (n.spelling o q.text) = none) :
    Fair tree { n with owners := n.owners.insert (n.spelling o q.text) o } := by
  refine ⟨h.sound.insert hs hn, fun name o' ho' => ?_⟩
  rw [Assoc.find?_insert] at ho'
  split at ho'
  · cases ho'
    exact ho
  · exact h.owners name o' ho'

/-- the name of an identity is refused only where another owner has it -/
theorem Fair.holds_nameFor (hsymbol : tree.Spelled) (h : Fair tree p.namer) {i : Identity}
    (howns : tree.Owns (ownerOf i.head)) :
    Holds (nameFor (ownerOf i.head) "") p (fun _ t => Fair tree t.namer) (tree.Stops i) := by
  have hsee := h.see (ownerOf i.head).namespaceUri
  have hseen := Namer.mem_see p.namer (ownerOf i.head).namespaceUri
  rcases Namer.nameFor_cases p.namer (ownerOf i.head) (Purpose.type .identity).text with
    ⟨hno, -⟩ | ⟨o', hne, ho', hr⟩ | ⟨-, hr⟩ | ⟨hnew, hr⟩
  · rw [hsymbol _ howns] at hno
    cases hno
  · refine Translate.holds_nameFor hr (fun n hn => by cases hn) (fun s hs => by cases hs) fun s path other hs => ?_
    cases hs
    obtain ⟨q, g⟩ := hsee.sound _ _ ho'
    have hspelled := congrArg SymbolicName.name g.spelled
    obtain ⟨huri, htext⟩ := Namer.spelling_inj hseen hspelled
    rw [Purpose.text, TypeRole.text, String.append_empty] at htext
    refine .clash ⟨hsee.owners _ _ ho', huri.symm, fun hpath => hne ?_, q, htext.symm⟩
    obtain ⟨uri, path⟩ := o'
    cases huri
    cases hpath
    rfl
  · exact Translate.holds_nameFor hr (fun n hn => hsee) (fun s hs => by cases hs) fun s path other hs => by cases hs
  · exact Translate.holds_nameFor hr (fun n hn => hsee.insert howns hseen hnew) (fun s hs => by cases hs)
      fun s path other hs => by cases hs

/-- emitting a definition gives out no names, and fails only over a name that is defined -/
theorem holds_emit_namer (d : Definition) :
    Holds (emit d) p (fun _ t => t.namer = p.namer) fun e => e = .duplicate d.name := by
  unfold emit
  refine Holds.bind (holds_get ?_)
  split
  · exact Holds.bind (holds_modify (holds_modify rfl))
  · exact holds_throw rfl

/-- a failure of an identity, told by the identity that its bases lead to -/
def Blames (tree : Tree) (i : Identity) (e : Failure) : Prop :=
  Refusal tree e → ∃ j, Relation.ReflTransGen tree.Extends i j ∧ tree.Stops j e

theorem Blames.base {i j : Identity} (h : tree.Extends i j) {e : Failure} (hj : Blames tree j e) : Blames tree i e := fun he =>
  let ⟨k, hk, hstops⟩ := hj he
  ⟨k, .head h hk, hstops⟩

/-- one identity, given what may fail with its base -/
theorem Fair.holds_identityTypeUnder (hsymbol : tree.Spelled) (h : Fair tree p.namer) {i : Identity}
    (howns : tree.Owns (ownerOf i.head)) {base : Translator (Option SymbolicName)}
    (hbase : ∀ q : Progress, Fair tree q.namer → Holds base q (fun _ t => Fair tree t.namer) (Blames tree i)) :
    Holds (identityTypeUnder i base) p (fun _ t => Fair tree t.namer) (Blames tree i) := by
  have hown : ∀ {e}, tree.Stops i e → Blames tree i e := fun hstops _ => ⟨i, .refl, hstops⟩
  unfold identityTypeUnder
  refine Holds.bind ((h.holds_nameFor hsymbol howns).mono (fun n t ht => ?_) fun e he => hown he)
  unfold isRegistered
  refine Holds.bind (Holds.bind (holds_get (holds_pure ?_)))
  split
  · exact holds_pure ht
  · dsimp only
    split
    · rename_i hbases
      exact Holds.bind (holds_throw (hown (.bases hbases)))
    · refine holds_obtain (fun _ => ht) fun _ => Holds.bind (holds_modify ?_)
      refine Holds.bind (Holds.imp (hbase _ ht) fun b u hu => ?_)
      refine Holds.bind ((holds_emit_namer _).mono (fun _ v hv => holds_pure ?_) fun e he hrefusal => ?_)
      · exact hv ▸ hu
      · subst he
        cases hrefusal

/-- an identity and the identities it derives from: whatever fails is told by one of them -/
theorem stops_translateIdentityWithin (hsymbol : tree.Spelled) (steps : Nat) :
    ∀ {p : Progress} {i : Identity}, Fair tree p.namer → i ∈ tree.topIdentities →
    Holds (translateIdentityWithin tree steps i) p (fun _ t => Fair tree t.namer) (Blames tree i) := by
  have hunknown : ∀ {i : Identity} {q : QName} {path : List String}, Blames tree i (.untranslatable (.unknownBase q) path) :=
    fun hrefusal => by cases hrefusal
  have hbase : ∀ {i : Identity} {next : Identity → Translator SymbolicName}, (∀ j, tree.Extends i j →
      ∀ q : Progress, Fair tree q.namer → Holds (next j) q (fun _ t => Fair tree t.namer) (Blames tree i)) →
      ∀ q : Progress, Fair tree q.namer → Holds (baseIdentityType tree i next) q (fun _ t => Fair tree t.namer) (Blames tree i) := by
    intro i next hnext q hq
    unfold baseIdentityType
    split
    · exact holds_pure hq
    · rename_i b bs hcons
      split
      · exact holds_throw hunknown
      · rename_i j hj
        exact (hnext j (by rw [Tree.Extends, Tree.baseOf?, hcons]; exact hj) q hq).map
  induction steps with
  | zero =>
    intro p i h hi
    exact h.holds_identityTypeUnder hsymbol (Tree.Makes.identity hi).owns (hbase fun _ _ _ _ => holds_throw hunknown)
  | succ steps ih =>
    intro p i h hi
    refine h.holds_identityTypeUnder hsymbol (Tree.Makes.identity hi).owns (hbase fun j hij q hq => ?_)
    have hj : j ∈ tree.topIdentities := ((Tree.Makes.identity hi).base (.identity hij)).identity_mem
    exact (ih hq hj).mono (fun _ _ ht => ht) fun e he => he.base hij

/-- From a sound state an identity is translated, or stopped by one of those that its bases lead to. It never runs out of
steps, and its bases are known. -/
theorem Sound.translateIdentity_answers (hr : tree.Resolved) (hsymbol : tree.Spelled) (h : Sound tree [] [] p) {i : Identity}
    (hi : i ∈ tree.topIdentities) :
    (∃ n q, ((translateIdentity tree i).run p : Except Failure SymbolicName × Progress) = (.ok n, q) ∧
      q.Asked .identity (ownerOf i.head) n) ∨
    ∃ j e q, Relation.ReflTransGen tree.Extends i j ∧ tree.Stops j e ∧
      ((translateIdentity tree i).run p : Except Failure SymbolicName × Progress) = (.error e, q) := by
  have hkeeps := h.keeps_translateIdentity hr hi
  have hstops := stops_translateIdentityWithin hsymbol (tree.identities.size + 1) ⟨h.namer, h.owners⟩ hi
  rcases hrun : ((translateIdentity tree i).run p : Except Failure SymbolicName × Progress) with ⟨e | n, q⟩
  · obtain ⟨j, hj, hfail⟩ := hstops.error hrun (Holds.error hkeeps hrun)
    exact Or.inr ⟨j, e, q, hj, hfail, rfl⟩
  · exact Or.inl ⟨n, q, rfl, (Holds.ok hkeeps hrun).2.2⟩

/-- a state of a translation between statements: statements of the modules were translated, in any order -/
inductive Underway (tree : Tree) (s : Settings) (data : List DataNode) : Progress → Prop where
  | start : Underway tree s data (.start (.new s.target (designNamespaces s)))
  | noted {p : Progress} (e : Event) : Underway tree s data p → Underway tree s data { p with journal := p.journal ++ [e] }
  | statement {p q : Progress} {m : Module} {n : Node} : Underway tree s data p → m ∈ tree.modules → n ∈ m.statements →
    ((translateStatement tree m.name data n).run p : Except Failure Unit × Progress) = (.ok (), q) → Underway tree s data q

theorem Underway.sound (hr : tree.Resolved) {s : Settings} {data : List DataNode} (h : Underway tree s data p) :
    Sound tree [] [] p := by
  induction h with
  | start => exact sound_start tree _ _
  | noted e _ ih => exact (Holds.ok (ih.keeps_note e) rfl).1
  | statement _ hm hn hrun ih => exact (Holds.ok (ih.keeps_translateStatement hr hm hn data) hrun).1

/-! ## Definitions of identities -/

/-- no two identities at the top of the modules share an owner -/
def IdentitiesOwn (tree : Tree) : Prop :=
  ∀ i ∈ tree.topIdentities, ∀ j ∈ tree.topIdentities, ownerOf i.head = ownerOf j.head → i = j

/-- the name of a registered identity -/
theorem Progress.Asked.eq_ownName {i : Identity} {n : SymbolicName} (h : p.Asked .identity (ownerOf i.head) n) :
    n = p.namer.ownName i.head :=
  h.named.spelled

/-- a registered identity is defined as what derives from its base -/
theorem Sound.identity_defined (h : Sound tree [] [] p) (hown : IdentitiesOwn tree) {i : Identity}
    (hi : i ∈ tree.topIdentities) (ha : p.Asked .identity (ownerOf i.head) (p.namer.ownName i.head)) :
    ∃ d, p.document.get? (p.namer.ownName i.head) = some d ∧
      d.content = .objectType ((tree.baseOf? i).map fun b => p.namer.ownName b.head) false [] := by
  obtain ⟨d, hd, hmade⟩ := h.made ha
  refine ⟨d, hd, ?_⟩
  generalize ho : ownerOf i.head = o at hmade
  cases hmade with
  | @identity j b _ hj hbase hcontent =>
    obtain rfl := hown i hi j hj ho
    rw [hcontent]
    unfold IdentityBase at hbase
    split at hbase
    · rename_i k hk
      obtain ⟨m, rfl, hm⟩ := hbase
      rw [hk, hm.eq_ownName]
      rfl
    · rename_i hk
      rw [hbase, hk]
      rfl

/-- sources of identities that derive from one another extend one another -/
theorem extends_of_under {i j : Identity} (h : Relation.ReflTransGen tree.Under (.identity i) (.identity j)) :
    Relation.ReflTransGen tree.Extends i j := by
  generalize hv : Source.identity j = v at h
  induction h generalizing j with
  | refl =>
    cases hv
    exact .refl
  | tail _ hu ih =>
    cases hv
    cases hu with
    | identity hk => exact (ih rfl).tail hk

/-- an identity is the only source of its owner among identities -/
theorem IdentitiesOwn.source_eq (hown : IdentitiesOwn tree) {u : Source} (hu : tree.Makes u) (hrole : u.role = .identity)
    {i : Identity} (hi : i ∈ tree.topIdentities) (ho : u.owner = ownerOf i.head) : u = .identity i := by
  cases u with
  | type t => cases hrole
  | identity j => rw [hown j hu.identity_mem i hi ho]

/-- the base of an identity stands before it, unless the bases lead back to the identity -/
theorem Sound.base_earlier (h : Sound tree [] [] p) (hown : IdentitiesOwn tree) {i b : Identity}
    (hi : i ∈ tree.topIdentities) (hb : tree.Extends i b) {k : Nat} {d : Definition}
    (hd : p.document.definitions[k]? = some d) (hbase : (p.namer.ownName b.head, Role.baseType) ∈ d.targets)
    (hai : p.Asked .identity (ownerOf i.head) d.name)
    (hab : p.Asked .identity (ownerOf b.head) (p.namer.ownName b.head)) (hcycle : ¬ Relation.TransGen tree.Extends i i) :
    ∃ j < k, p.document.indexOf? (p.namer.ownName b.head) = some j := by
  have hbtop : b ∈ tree.topIdentities := ((Tree.Makes.identity hi).base (.identity hb)).identity_mem
  rcases h.placed k d hd _ hbase with hstandard | hbefore | ⟨-, u, v, hloose⟩
  · exact absurd hstandard hab.named.not_isStandard
  · exact hbefore
  · -- the definition and its base are those of the two identities, so what is loose is a cycle of theirs
    have hu := hloose.asked.named.job_unique hai.named
    have hv := hloose.base.named.job_unique hab.named
    rw [typeJob, typeJob, Job.mk.injEq, Purpose.type.injEq] at hu hv
    refine absurd ?_ hcycle
    rcases hloose.loops with hsame | ⟨⟨-, s, u', v', hs, hsu, huv, hrole, hsowner, huowner, -⟩, -⟩
    · have heq : b = i := hown b hbtop i hi (hv.2.symm.trans (hsame.trans hu.2))
      exact .single (heq ▸ hb)
    · have hsrole : s.role = .identity := (Tree.role_of_under (hsu.tail huv)).symm.trans (hrole.trans hv.1)
      obtain rfl : s = .identity b := hown.source_eq hs hsrole hbtop (hsowner.trans hv.2)
      obtain rfl : u' = .identity i :=
        hown.source_eq (hs.under hsu) (Tree.role_of_under hsu) hi (huowner.trans hu.2)
      exact .head' hb (extends_of_under hsu)

/-- the definition of an identity and its position; that of its base stands before it, unless the bases of the identity lead
back to it -/
structure IdentityAt (tree : Tree) (p : Progress) (i : Identity) (k : Nat) (e : Definition) : Prop where
  found : p.document.definitions[k]? = some e
  name : e.name = p.namer.ownName i.head
  named : p.namer.Gave (ownerOf i.head) "" e.name
  content : e.content = .objectType ((tree.baseOf? i).map fun b => p.namer.ownName b.head) false []
  single : ∀ (k' : Nat) (e' : Definition), p.document.definitions[k']? = some e' → e'.name = e.name → k' = k
  base : ∀ b, tree.Extends i b → ∃ (k' : Nat) (e' : Definition), p.document.definitions[k']? = some e' ∧
    e'.name = p.namer.ownName b.head ∧ (¬ Relation.TransGen tree.Extends i i → k' < k)

theorem Sound.identityAt (h : Sound tree [] [] p) (hown : IdentitiesOwn tree)
    (hasked : ∀ i ∈ tree.topIdentities, p.Asked .identity (ownerOf i.head) (p.namer.ownName i.head)) {i : Identity}
    (hi : i ∈ tree.topIdentities) : ∃ k e, IdentityAt tree p i k e := by
  obtain ⟨e, he, hcontent⟩ := h.identity_defined hown hi (hasked i hi)
  obtain ⟨k, hk, hname⟩ := h.indexed.get?_eq_some_iff.1 he
  refine ⟨k, e, hk, hname, hname ▸ (hasked i hi).named, hcontent, fun k' e' hk' hname' => ?_, fun b hb => ?_⟩
  · have hindex := (h.indexed e.name k).2 (by rw [hk, Option.map_some])
    have hindex' := (h.indexed e.name k').2 (by rw [hk', Option.map_some, hname'])
    exact Option.some.inj (hindex'.symm.trans hindex)
  · have hbtop : b ∈ tree.topIdentities := ((Tree.Makes.identity hi).base (.identity hb)).identity_mem
    obtain ⟨e', he', -⟩ := h.identity_defined hown hbtop (hasked b hbtop)
    obtain ⟨k', hk', hname'⟩ := h.indexed.get?_eq_some_iff.1 he'
    refine ⟨k', e', hk', hname', fun hcycle => ?_⟩
    have htarget : (p.namer.ownName b.head, Role.baseType) ∈ e.targets := by
      refine ModelDocument.base?_eq_some_iff.1 ?_
      rw [Definition.base?, hcontent, show tree.baseOf? i = some b from hb]
      rfl
    obtain ⟨j, hj, hindex⟩ := h.base_earlier hown hi hb hk htarget (hname ▸ hasked i hi) (hasked b hbtop) hcycle
    have hindex' := (h.indexed _ k').2 (by rw [hk', Option.map_some, hname'])
    rwa [Option.some.inj (hindex'.symm.trans hindex)]

/-! ## Translations -/

/-- **Identities.** In a checked and resolved schema whose modules have namespaces of their own, and whose modules name no two
identities alike, whatever the shape of the bases: an identity is translated from every state between statements, unless an
identity that its bases lead to has several bases or shares its name, and then it fails with that reason. If a translation
answers, different identities have different names, and each identity has one definition in the design, which derives from
that of its base if it has one; and the base stands before it unless the bases lead back to the identity. -/
theorem translate_identities {v : Value} {d : Document} (hcheck : Document.check v = .ok d) (hresolve : d.resolve = .ok tree)
    (hnamespaces : (tree.modules.map (·.namespaceUri)).Nodup) (hapart : tree.IdentitiesApart) (s : Settings)
    (data : List DataNode) :
    (∀ p, Underway tree s data p → ∀ i ∈ tree.topIdentities,
      (∃ n q, ((translateIdentity tree i).run p : Except Failure SymbolicName × Progress) = (.ok n, q) ∧
        q.Asked .identity (ownerOf i.head) n) ∨
      ∃ j e q, Relation.ReflTransGen tree.Extends i j ∧ tree.Stops j e ∧
        ((translateIdentity tree i).run p : Except Failure SymbolicName × Progress) = (.error e, q)) ∧
    ∀ p, run s tree data = (.ok (), p) →
      (∀ i ∈ tree.topIdentities, ∀ j ∈ tree.topIdentities, p.namer.ownName i.head = p.namer.ownName j.head → i = j) ∧
      ∀ i ∈ tree.topIdentities, (tree.baseOf? i = none ↔ i.bases = []) ∧ ∃ k e, IdentityAt tree p i k e := by
  have hr := Document.resolve_resolved hresolve
  have hsymbol : tree.Spelled := fun o ho n q => isSymbol_of_owns hcheck hresolve ho n q
  have hown : IdentitiesOwn tree := fun i hi j hj ho => hr.identity_unique hnamespaces hapart hi hj ho
  refine ⟨fun p hp i hi => (hp.sound hr).translateIdentity_answers hr hsymbol hi, fun p hrun => ?_⟩
  have hsound := run_sound hr hrun
  have hasked : ∀ i ∈ tree.topIdentities, p.Asked .identity (ownerOf i.head) (p.namer.ownName i.head) := by
    intro i hi
    obtain ⟨n, hn⟩ := run_identity hr hrun hi
    exact hn.eq_ownName ▸ hn
  refine ⟨fun i hi j hj hname => ?_, fun i hi => ⟨?_, hsound.identityAt hown hasked hi⟩⟩
  · have hjob := (hasked i hi).named.job_unique (hname ▸ (hasked j hj).named)
    exact hown i hi j hj (congrArg Job.owner hjob)
  · cases hbases : i.bases with
    | nil => simp [Tree.baseOf?, hbases]
    | cons q qs =>
      have hknown := hr.base_isSome hi (q := q) (by rw [hbases]; exact List.mem_cons_self)
      obtain ⟨b, hb⟩ := Option.isSome_iff_exists.1 hknown
      simp [Tree.baseOf?, hbases, hb]

/-- two identities that are each other's base, and in an earlier module an identity that derives from one of them -/
def turningSchema : Value :=
  let identity := fun (name base : String) => Value.map [(.text "kind", .text "identity"), (.text "name", .text name),
    (.text "bases", .list [.text base])]
  let module := fun (name : String) (statements : List Value) => Value.map [(.text "name", .text name),
    (.text "namespace", .text ("urn:" ++ name)), (.text "prefix", .text name), (.text "statements", .list statements)]
  .map [(.text "modules", .list [module "m" [identity "a" "n:b"], module "n" [identity "b" "c", identity "c" "b"]])]

/-- the identities of the turning schema -/
def leadingIdentity : Identity := ⟨⟨⟨"urn:m", "a"⟩, ["a"], none⟩, [⟨"urn:n", "b"⟩]⟩
def turningIdentity : Identity := ⟨⟨⟨"urn:n", "b"⟩, ["b"], none⟩, [⟨"urn:n", "c"⟩]⟩
def returningIdentity : Identity := ⟨⟨⟨"urn:n", "c"⟩, ["c"], none⟩, [⟨"urn:n", "b"⟩]⟩

/-- the tree of the turning schema -/
def turningTree : Tree :=
  let node := fun (i : Identity) => Node.mk i.head (.identity i.bases) []
  ⟨[⟨"m", "urn:m", "m", [node leadingIdentity], none⟩,
    ⟨"n", "urn:n", "n", [node turningIdentity, node returningIdentity], none⟩]⟩

/-- the identity that leads into the turn is not part of it -/
theorem leadingIdentity_not_cyclic : ¬ Relation.TransGen turningTree.Extends leadingIdentity leadingIdentity := by
  have hturn : ∀ i, Relation.TransGen turningTree.Extends leadingIdentity i →
      i = turningIdentity ∨ i = returningIdentity := by
    intro i h
    have hleading : turningTree.baseOf? leadingIdentity = some turningIdentity := by decide +kernel
    have hturning : turningTree.baseOf? turningIdentity = some returningIdentity := by decide +kernel
    have hreturning : turningTree.baseOf? returningIdentity = some turningIdentity := by decide +kernel
    induction h with
    | single hi => exact Or.inl (Option.some.inj (hi.symm.trans hleading))
    | tail _ hi ih =>
      rcases ih with rfl | rfl
      · exact Or.inr (Option.some.inj (hi.symm.trans hturning))
      · exact Or.inl (Option.some.inj (hi.symm.trans hreturning))
  intro h
  rcases hturn _ h with h | h <;> exact absurd h (by decide)

/-- the leading identity is translated at once, and its base stands before it although the bases turn -/
theorem turningSchema_identities : ∃ d, Document.check turningSchema = .ok d ∧ d.resolve = .ok turningTree ∧
    (turningTree.modules.map (·.namespaceUri)).Nodup ∧ turningTree.IdentitiesApart ∧
    (∃ n q, ((translateIdentity turningTree leadingIdentity).run
      (.start (.new (Settings.default 0).target (designNamespaces (.default 0)))) : Except Failure SymbolicName × Progress) =
        (.ok n, q)) ∧
    ∃ p k e, run (.default 0) turningTree [] = (.ok (), p) ∧ IdentityAt turningTree p leadingIdentity k e ∧
      ∃ k' e', p.document.definitions[k']? = some e' ∧ e'.name = p.namer.ownName turningIdentity.head ∧ k' < k := by
  let d : Document := ⟨[⟨"m", "urn:m", "m", none, [.named "a" none (.identity ["n:b"]) []]⟩,
    ⟨"n", "urn:n", "n", none, [.named "b" none (.identity ["c"]) [], .named "c" none (.identity ["b"]) []]⟩]⟩
  have hcheck : Document.check turningSchema = .ok d := rfl
  have hresolve : d.resolve = .ok turningTree := rfl
  have hnamespaces : (turningTree.modules.map (·.namespaceUri)).Nodup := by decide +kernel
  have hapart : turningTree.IdentitiesApart := by
    unfold Tree.IdentitiesApart
    decide +kernel
  have hleading : leadingIdentity ∈ turningTree.topIdentities := by decide +kernel
  obtain ⟨hanswers, hdefined⟩ := translate_identities hcheck hresolve hnamespaces hapart (.default 0) []
  obtain ⟨doc, hdoc, -⟩ : ∃ doc, translate (.default 0) turningTree [] = .ok doc ∧ (fun _ => true) doc = true :=
    ok_of_any (by decide +kernel)
  obtain ⟨p, hrun, -⟩ := translate_eq_ok_iff.1 hdoc
  obtain ⟨-, k, e, hat⟩ := (hdefined p hrun).2 leadingIdentity hleading
  obtain ⟨k', e', hk', hname, hbefore⟩ := hat.base turningIdentity (by decide +kernel : turningTree.baseOf? leadingIdentity = _)
  refine ⟨d, hcheck, hresolve, hnamespaces, hapart, ?_, p, k, e, hrun, hat, k', e', hk', hname,
    hbefore leadingIdentity_not_cyclic⟩
  rcases hanswers _ .start leadingIdentity hleading with ⟨n, q, hn, -⟩ | ⟨j, f, q, -, -, hf⟩
  · exact ⟨n, q, hn⟩
  · have hok : ((translateIdentity turningTree leadingIdentity).run
        (.start (.new (Settings.default 0).target (designNamespaces (.default 0)))) :
          Except Failure SymbolicName × Progress).1.toBool = true := by decide +kernel
    rw [hf] at hok
    cases hok

end YangDesign.Translate
