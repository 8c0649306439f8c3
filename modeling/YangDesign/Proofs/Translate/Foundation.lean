/-
Whether derivation ends.

In a design in order a base is built in, defined before, or the definition itself (`Indexed.base_cases`): the order lets a
reference go to its own position. So derivation ends (`Founded`) exactly if no definition is its own base
(`Indexed.founded_iff`). The check of a design does not tell a definition that is its own base from one whose base stands
before it. `translate_bases` says which schemas lead to such definitions: those in which a source derives from a source of
its own owner, and, where sources do not share their owners, those with an identity that is its own base.
-/
import YangDesign.Proofs.Audit.Agreement
import YangDesign.Proofs.Translate.Derivation

namespace YangDesign.Design.ModelDocument

variable {doc : ModelDocument}

/-- following base types ends, from every definition, at a definition without one or at a built-in name -/
def Founded (doc : ModelDocument) : Prop :=
  WellFounded fun b a => doc.BaseOf a b ∧ b.isBuiltIn = false

/-- the base of a definition in a design in order -/
theorem Indexed.base_cases (hi : doc.Indexed) (hv : doc.violations = []) {i : Nat} {d : Definition}
    (hd : doc.definitions[i]? = some d) {b : SymbolicName} (hb : d.base? = some b) :
    b.isBuiltIn = true ∨ doc.DefinedBefore i b ∨ b = d.name := by
  refine (violations_eq_nil.1 hv i d hd _ (base?_eq_some_iff.1 hb)).imp id ?_
  rintro ⟨j, hj, hbj⟩
  rcases lt_or_eq_of_le hj with hlt | rfl
  · exact Or.inl (hi.definedBefore_iff.2 ⟨j, hlt, hbj⟩)
  · right
    have hname := (hi b j).1 hbj
    rw [hd] at hname
    exact (Option.some.inj hname).symm

/-- derivation in a design in order ends exactly if no definition is its own base -/
theorem Indexed.founded_iff (hi : doc.Indexed) (hv : doc.violations = []) :
    doc.Founded ↔ ∀ d ∈ doc.definitions, d.base? = some d.name → d.name.isBuiltIn = true := by
  constructor
  · intro hf d hd hself
    by_contra hbuilt
    rw [Bool.not_eq_true] at hbuilt
    exact hf.irrefl.irrefl d.name ⟨⟨d, hi.get?_of_mem hd, hself⟩, hbuilt⟩
  · intro hself
    -- each step goes to an earlier position
    refine Subrelation.wf ?_ (InvImage.wf (fun n => (doc.indexOf? n).getD 0) Nat.lt_wfRel.wf)
    rintro b a ⟨⟨d, hd, hb⟩, hbuilt⟩
    obtain ⟨i, hdi, rfl⟩ := hi.get?_eq_some_iff.1 hd
    rcases hi.base_cases hv hdi hb with h | h | rfl
    · rw [hbuilt] at h
      cases h
    · obtain ⟨j, hlt, hj⟩ := hi.definedBefore_iff.1 h
      have hown : doc.indexOf? d.name = some i := (hi d.name i).2 (by rw [hdi, Option.map_some])
      show (doc.indexOf? b).getD 0 < (doc.indexOf? d.name).getD 0
      rw [hj, hown]
      exact hlt
    · rw [hself d (Array.mem_of_getElem? hdi) hb] at hbuilt
      cases hbuilt

end YangDesign.Design.ModelDocument

namespace YangDesign.Translate

open Design Instance Schema Progress

variable {tree : Tree} {p : Progress}

/-- a definition that is its own base comes from a source that derives from a source of its own owner -/
theorem Sound.under_of_self (h : Sound tree [] [] p) {i : Nat} {d : Definition} (hd : p.document.definitions[i]? = some d)
    (hself : d.base? = some d.name) (hbuilt : d.name.isBuiltIn = false) :
    ∃ u v, tree.Makes u ∧ tree.Under u v ∧ v.owner = u.owner := by
  rcases h.placed i d hd _ (ModelDocument.base?_eq_some_iff.1 hself) with hb | ⟨j, hj, hn⟩ | ⟨-, u, v, hl⟩
  · have hb' : d.name.isBuiltIn = true := hb.1
    rw [hbuilt] at hb'
    cases hb'
  · -- a definition does not stand before itself
    have hown := (h.indexed d.name i).2 (by rw [hd, Option.map_some])
    rw [hn] at hown
    cases hown
    exact absurd hj (lt_irrefl _)
  · exact ⟨u, v, hl.makes, hl.under, congrArg Job.owner (hl.base.named.job_unique hl.asked.named)⟩

/-- where sources do not share their owners, only identities are under themselves -/
theorem Apart.baseOf?_self (hapart : Apart tree) {u v : Source} (hu : tree.Makes u) (huv : tree.Under u v)
    (ho : v.owner = u.owner) : ∃ i ∈ tree.topIdentities, tree.baseOf? i = some i := by
  obtain rfl : v = u := hapart v u (hu.base huv) hu huv.role ho
  cases huv with
  | @type t _ hb =>
    have hunder : tree.Under (.type t) (.type t) := .type hb
    exact absurd (depth_lt_of_under hunder) (lt_irrefl _)
  | @identity i _ hi => exact ⟨i, hu.identity_mem, hi⟩

/-- **Derivation in a valid design.** If the design for a resolved schema passes the check, whatever the settings and the
data, every base is built in, defined before, or the definition's own name, and derivation ends exactly if no definition
is its own base. It ends if no source derives from a source of its own owner. If sources do not share their owners and the
names of the design are not built in, it ends exactly if no identity is its own base. -/
theorem translate_bases {d : Document} (hresolve : d.resolve = .ok tree) {s : Settings} {data : List DataNode}
    {doc : ModelDocument} (h : translate s tree data = .ok doc) (hvalid : (Audit.verdict doc).isValid = true) :
    (∀ (i : Nat) (e : Definition), doc.definitions[i]? = some e → ∀ b, e.base? = some b →
      b.isBuiltIn = true ∨ doc.DefinedBefore i b ∨ b = e.name) ∧
    (doc.Founded ↔ ∀ e ∈ doc.definitions, e.base? = some e.name → e.name.isBuiltIn = true) ∧
    ((∀ u v, tree.Makes u → tree.Under u v → v.owner ≠ u.owner) → doc.Founded) ∧
    (Apart tree → s.target ≠ baseUri → (doc.Founded ↔ ∀ i ∈ tree.topIdentities, tree.baseOf? i ≠ some i)) := by
  obtain ⟨p, hrun, rfl⟩ := translate_eq_ok_iff.1 h
  have hr := Document.resolve_resolved hresolve
  have hsound := run_sound hr hrun
  have hi := hsound.indexed
  have hv := ((Audit.isValid_iff_of_indexed hi).1 hvalid).1
  have hself : ∀ e ∈ p.document.definitions, e.base? = some e.name → e.name.isBuiltIn = false →
      ∃ u v, tree.Makes u ∧ tree.Under u v ∧ v.owner = u.owner := by
    intro e he hbase hbuilt
    obtain ⟨i, hei⟩ := Array.mem_iff_getElem?.1 he
    exact hsound.under_of_self hei hbase hbuilt
  have hfounded : (¬ ∃ u v, tree.Makes u ∧ tree.Under u v ∧ v.owner = u.owner) → p.document.Founded := by
    intro hnone
    refine (hi.founded_iff hv).2 fun e he hbase => ?_
    by_contra hbuilt
    exact hnone (hself e he hbase (Bool.eq_false_iff.2 hbuilt))
  refine ⟨fun i e he b hb => hi.base_cases hv he hb, hi.founded_iff hv, fun hne => hfounded ?_, fun hapart htarget => ?_⟩
  · rintro ⟨u, v, hu, huv, ho⟩
    exact hne u v hu huv ho
  constructor
  · intro hf i hid hib
    obtain ⟨n, hn⟩ := run_identity hr hrun hid
    obtain ⟨m, hm, hnm⟩ := hsound.base_of_identity hapart hid hib hn
    obtain rfl : m = n := hm.named.name_unique hn.named
    refine hf.irrefl.irrefl m ⟨hnm, beq_eq_false_iff_ne.2 ?_⟩
    rw [hn.named.spelled]
    show p.namer.target ≠ baseUri
    rw [run_target hr hrun]
    exact htarget
  · intro hids
    refine hfounded ?_
    rintro ⟨u, v, hu, huv, ho⟩
    obtain ⟨i, hid, hib⟩ := hapart.baseOf?_self hu huv ho
    exact hids i hid hib

/-- an identity that is its own base -/
def ownBase : Document :=
  ⟨[⟨"m", "urn:m", "m", none, [.named "a" none (.identity ["a"]) []]⟩]⟩

/-- the tree of the identity that is its own base -/
def ownBaseTree : Tree :=
  ⟨[⟨"m", "urn:m", "m", [.mk ⟨⟨"urn:m", "a"⟩, ["a"], none⟩ (.identity [⟨"urn:m", "a"⟩]) []], none⟩]⟩

theorem resolve_ownBase : ownBase.resolve = .ok ownBaseTree := rfl

/-- the type of an identity that is its own base passes the check, and derivation from it does not end -/
theorem ownBase_not_founded : ∃ tree doc, ownBase.resolve = .ok tree ∧ translate (.default 0) tree [] = .ok doc ∧
    (Audit.verdict doc).isValid = true ∧ ¬ doc.Founded := by
  obtain ⟨doc, hdoc, htest⟩ : ∃ doc, translate (.default 0) ownBaseTree [] = .ok doc ∧
      ((Audit.verdict doc).isValid && doc.definitions.any fun e => e.base? == some e.name && !e.name.isBuiltIn) = true :=
    ok_of_any (by decide +kernel)
  obtain ⟨hvalid, hself⟩ := Bool.and_eq_true_iff.1 htest
  refine ⟨ownBaseTree, doc, resolve_ownBase, hdoc, hvalid, fun hf => ?_⟩
  obtain ⟨e, he, hown⟩ := Array.any_eq_true'.1 hself
  rw [Bool.and_eq_true, beq_iff_eq, Bool.not_eq_true'] at hown
  have hbuilt := (translate_bases resolve_ownBase hdoc hvalid).2.1.1 hf e he hown.1
  rw [hown.2] at hbuilt
  cases hbuilt

end YangDesign.Translate
