/-
Derivation among the definitions of a design.

A type that is still being built may be asked for again on the way to its own base. Then two definitions derive from each
other, and one of them stands before its base, whatever their order. The references of a design are in order exactly if this
does not happen (`translate_in_order`). It does not happen for a tree without knots; if the sources of the tree do not share
their owners, it happens for every other tree.
-/
import YangDesign.Proofs.Translate.References

namespace YangDesign.Translate

open Design Instance Schema Progress

variable {tree : Tree} {p : Progress}

/-! ## Designs in order -/

/-- the definitions of a design are in its own namespace -/
theorem Sound.uri_of_contains (h : Sound tree [] [] p) {n : SymbolicName} (hn : p.document.contains n = true) :
    n.namespaceUri = p.namer.target := by
  obtain ⟨x, hx, -⟩ := h.known n hn
  rw [hx.spelled]
  rfl

theorem isBuiltIn_congr {m n : SymbolicName} (h : m.namespaceUri = n.namespaceUri) : m.isBuiltIn = n.isBuiltIn := by
  rw [SymbolicName.isBuiltIn, SymbolicName.isBuiltIn, h]

/-- a base that stands later, or where its definition does: it is the definition itself, or derives from it -/
theorem Loose.derives {d : Definition} {n : SymbolicName} {u v : Source} (hl : Loose tree [] p d n u v) :
    n = d.name ∨ tree.Knotted ∧ p.document.Derives n d.name := by
  rcases hl.loops with ho | ⟨hk, hd | hm⟩
  · left
    have hbase := hl.base
    rw [hl.under.role, ho] at hbase
    exact hbase.named.name_unique hl.asked.named
  · exact Or.inr ⟨⟨_, _, _, hk⟩, hd⟩
  · cases hm

/-- the references of a design are in order if the bases that are built before what derives from them are -/
theorem Sound.violations_eq_nil (h : Sound tree [] [] p)
    (hb : ∀ (i : Nat) d n u v, p.document.definitions[i]? = some d → (n, Role.baseType) ∈ d.targets → Loose tree [] p d n u v →
      n.isBuiltIn = true ∨ n = d.name) : p.document.violations = [] := by
  refine ModelDocument.violations_eq_nil.2 fun i d hd t ht => ?_
  rcases h.placed i d hd t ht with hbuilt | ⟨j, hj, hn⟩ | ⟨hr, u, v, hl⟩
  · exact Or.inl hbuilt.1
  · exact Or.inr ⟨j, le_of_lt hj, hn⟩
  · obtain ⟨n, r⟩ := t
    subst hr
    refine (hb i d n u v hd ht hl).imp id fun hn => ⟨i, le_refl i, ?_⟩
    exact (h.indexed _ _).2 (by rw [hd, Option.map_some, hn])

/-- the references of a design are in order exactly if no two definitions derive from each other -/
theorem Sound.violations_eq_nil_iff (h : Sound tree [] [] p) : p.document.violations = [] ↔
    ∀ a b, p.document.Derives a b → p.document.Derives b a → a = b ∨ a.isBuiltIn = true := by
  constructor
  · intro hv a b hab hba
    by_cases hbase : p.namer.target = baseUri
    · rcases Relation.ReflTransGen.cases_head hab with rfl | ⟨c, ⟨d, hd, -⟩, -⟩
      · exact Or.inl rfl
      · have huri := h.uri_of_contains (ModelDocument.Indexed.contains_of_get? hd)
        rw [hbase] at huri
        exact Or.inr (beq_iff_eq.2 huri)
    · refine Or.inl (h.indexed.derives_antisymm hv (fun n hn => ?_) hab hba)
      by_contra hsome
      obtain ⟨d, hd⟩ := Option.ne_none_iff_exists'.1 hsome
      exact hbase ((h.uri_of_contains (ModelDocument.Indexed.contains_of_get? hd)).symm.trans (beq_iff_eq.1 hn))
  · intro hacyclic
    refine h.violations_eq_nil fun i d n u v hd ht hl => ?_
    rcases hl.derives with rfl | ⟨-, hder⟩
    · exact Or.inr rfl
    · have hbase : p.document.Derives d.name n :=
        Relation.ReflTransGen.single ⟨d, h.get?_name hd, ModelDocument.base?_eq_some_iff.2 ht⟩
      have huri : n.namespaceUri = d.name.namespaceUri := by rw [hl.base.named.spelled, hl.asked.named.spelled]; rfl
      refine (hacyclic d.name n hbase hder).symm.imp (fun hb => ?_) Eq.symm
      rw [isBuiltIn_congr huri]
      exact hb

/-- the references of the design for a tree without knots are in order -/
theorem Sound.violations_of_not_knotted (h : Sound tree [] [] p) (hk : ¬ tree.Knotted) : p.document.violations = [] :=
  h.violations_eq_nil fun _ _ _ _ _ _ _ hl => Or.inr (hl.derives.resolve_right fun hd => hk hd.1)

/-! ## Knots -/

/-- no two sources share an owner and the part that their definitions play -/
def Apart (tree : Tree) : Prop :=
  ∀ s s', tree.Makes s → tree.Makes s' → s.role = s'.role → s.owner = s'.owner → s = s'

/-- the number of bases that derivation from a type leads to at most -/
def depth : Source → Nat
  | .type t => t.chain.length
  | .identity _ => 0

theorem depth_lt_of_under {t : TypeDef} {v : Source} (h : tree.Under (.type t) v) : depth v < depth (.type t) := by
  cases h with
  | type hb => simp [depth, TypeDef.chain_of_some (TypeDef.base_of_derivedBase? hb)]

theorem depth_le_of_under {u v : Source} (h : Relation.ReflTransGen tree.Under u v) : depth v ≤ depth u := by
  induction h with
  | refl => exact le_refl _
  | tail _ hb ih =>
    cases hb with
    | type hb => exact le_trans (le_of_lt (depth_lt_of_under (.type (t := tree) hb))) ih
    | identity _ => exact le_trans (le_refl 0) ih

/-- only identities lead back to themselves -/
theorem isIdentity_of_loop {u v : Source} (hvu : Relation.ReflTransGen tree.Under v u) (huv : tree.Under u v) :
    ∃ i j, u = .identity i ∧ v = .identity j := by
  cases huv with
  | type hb => exact absurd (depth_le_of_under hvu) (Nat.not_le.2 (depth_lt_of_under (.type (t := tree) hb)))
  | @identity i j _ => exact ⟨i, j, rfl, rfl⟩

/-- the type of an identity derives from that of its base -/
theorem Sound.base_of_identity (h : Sound tree [] [] p) (hapart : Apart tree) {i j : Identity}
    (hi : i ∈ tree.topIdentities) (hij : tree.baseOf? i = some j) {n : SymbolicName}
    (ha : p.Asked .identity (ownerOf i.head) n) :
    ∃ m, p.Asked .identity (ownerOf j.head) m ∧ p.document.BaseOf n m := by
  obtain ⟨d, hd, hm⟩ := h.made ha
  generalize ho : ownerOf i.head = o at hm
  cases hm with
  | @identity i' b _ hi' hb hc =>
    have hsame : Source.identity i = .identity i' := hapart _ _ (.identity hi) (.identity hi') rfl ho
    cases hsame
    unfold IdentityBase at hb
    rw [hij] at hb
    obtain ⟨m, rfl, hm⟩ := hb
    exact ⟨m, hm, d, hd, by rw [Definition.base?, hc]⟩

theorem Sound.derives_of_under (h : Sound tree [] [] p) (hapart : Apart tree) {i : Identity}
    (hi : i ∈ tree.topIdentities) {n : SymbolicName} (ha : p.Asked .identity (ownerOf i.head) n) {v : Source}
    (hv : Relation.ReflTransGen tree.Under (.identity i) v) :
    ∃ j m, v = .identity j ∧ p.Asked .identity (ownerOf j.head) m ∧ p.document.Derives n m := by
  induction hv with
  | refl => exact ⟨i, n, rfl, ha, .refl⟩
  | tail hij hb ih =>
    obtain ⟨j, m, rfl, hm, hd⟩ := ih
    cases hb with
    | @identity _ k hk =>
      have hj : j ∈ tree.topIdentities := ((Tree.Makes.identity hi).under hij).identity_mem
      obtain ⟨m', hm', hbase⟩ := h.base_of_identity hapart hj hk hm
      exact ⟨k, m', rfl, hm', hd.tail hbase⟩

/-- a tree whose sources do not share their owners is not knotted if the references of its design are in order -/
theorem Sound.not_knotted (h : Sound tree [] [] p) (hapart : Apart tree) (htarget : p.namer.target ≠ baseUri)
    (hnamed : ∀ i ∈ tree.topIdentities, ∃ n, p.Asked .identity (ownerOf i.head) n) (hv : p.document.violations = []) :
    ¬ tree.Knotted := by
  rintro ⟨r, o, o', hne, s, u, v, hs, hsu, huv, -, hso, huo, hvo⟩
  have hsv := hsu.tail huv
  obtain rfl : s = v := hapart s v hs (hs.under hsv) (Tree.role_of_under hsv).symm (hso.trans hvo.symm)
  obtain ⟨i, j, rfl, rfl⟩ := isIdentity_of_loop hsu huv
  have hj : j ∈ tree.topIdentities := hs.identity_mem
  have hi : i ∈ tree.topIdentities := (hs.under hsu).identity_mem
  obtain ⟨a, ha⟩ := hnamed j hj
  obtain ⟨i', b, he, hb, hab⟩ := h.derives_of_under hapart hj ha hsu
  cases he
  cases huv with
  | identity hij =>
    obtain ⟨a', ha', hba⟩ := h.base_of_identity hapart hi hij hb
    obtain rfl : a' = a := ha'.named.name_unique ha.named
    rcases h.violations_eq_nil_iff.1 hv _ _ hab (Relation.ReflTransGen.single hba) with rfl | hbuilt
    · have hjob := congrArg Job.owner (ha.named.job_unique hb.named)
      exact hne (hso.symm.trans (hjob.trans huo))
    · refine htarget ?_
      rw [ha.named.spelled] at hbuilt
      exact beq_iff_eq.1 hbuilt

/-! ## Translations -/

/-- **Order of a design.** The references of the design for a resolved schema, whatever the settings and the data, are in
order exactly if no two of its definitions derive from each other. They are in order if the tree is not knotted; if the
sources of the tree do not share their owners and the names of the design are not built in, then only if. -/
theorem translate_in_order {d : Document} (hresolve : d.resolve = .ok tree) {s : Settings} {data : List DataNode}
    {doc : ModelDocument} (h : translate s tree data = .ok doc) :
    (doc.violations = [] ↔ ∀ a b, doc.Derives a b → doc.Derives b a → a = b ∨ a.isBuiltIn = true) ∧
    (¬ tree.Knotted → doc.violations = []) ∧
    (Apart tree → s.target ≠ baseUri → (doc.violations = [] ↔ ¬ tree.Knotted)) := by
  obtain ⟨p, hrun, rfl⟩ := translate_eq_ok_iff.1 h
  have hr := Document.resolve_resolved hresolve
  have hsound := run_sound hr hrun
  refine ⟨hsound.violations_eq_nil_iff, hsound.violations_of_not_knotted, fun hapart htarget => ⟨fun hv => ?_,
    hsound.violations_of_not_knotted⟩⟩
  refine hsound.not_knotted hapart ?_ (fun i hi => run_identity hr hrun hi) hv
  rw [run_target hr hrun]
  exact htarget

/-- crossed identities are a knot: the type of `b` stands before that of `a`, its base -/
theorem crossedIdentities_knotted : ∃ tree doc, crossedIdentities.resolve = .ok tree ∧
    translate (.default 0) tree [] = .ok doc ∧ tree.Knotted ∧
    doc.violations.map (fun r => (r.source.name, r.target.name)) = [("ns0__b", "ns0__a")] := by
  obtain ⟨doc, hdoc, hlate⟩ : ∃ doc, translate (.default 0) crossedTree [] = .ok doc ∧
      (doc.violations.map (fun r => (r.source.name, r.target.name)) == [("ns0__b", "ns0__a")]) = true :=
    ok_of_any (by decide +kernel)
  refine ⟨crossedTree, doc, resolve_crossedIdentities, hdoc, ?_, beq_iff_eq.1 hlate⟩
  by_contra hk
  rw [(translate_in_order resolve_crossedIdentities hdoc).2.1 hk] at hlate
  cases hlate

end YangDesign.Translate
