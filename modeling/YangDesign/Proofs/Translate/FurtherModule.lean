/-
A schema with a further module behind the others.

The identities are all that the translation of a module sees of the other modules. Outside the namespace of the further module
they are found as without it (`Tree.identity?_append`), and if no identity of the others has a base there, bases lead to the
same identities. The further module adds to the number of bases that a translation is prepared to follow. A greater number
changes only translations that fail for an unknown base (`sameUnless_translateIdentityWithin`), and in a resolved tree there
are none with either number. So both translations take the same steps through the other modules
(`Sound.run_translateModule_append`), and what comes after these only adds (`translate_append`).
-/
import YangDesign.Proofs.Translate.Runs

namespace YangDesign.Schema.Tree

variable {ms : List Module} {m : Module}

theorem topIdentities_append (ms : List Module) (m : Module) :
    topIdentities ⟨ms ++ [m]⟩ = topIdentities ⟨ms⟩ ++ m.statements.filterMap Node.identity? := by
  simp [topIdentities]

theorem topIdentities_subset_append (ms : List Module) (m : Module) : topIdentities ⟨ms⟩ ⊆ topIdentities ⟨ms ++ [m]⟩ := by
  rw [topIdentities_append]
  exact List.subset_append_left _ _

/-- outside the namespace of a further module, identities are found as without it -/
theorem identity?_append (hm : ∀ n ∈ m.statements, n.head.name.namespaceUri = m.namespaceUri) {q : QName}
    (hq : q.namespaceUri ≠ m.namespaceUri) : identity? ⟨ms ++ [m]⟩ q = identity? ⟨ms⟩ q := by
  have hnone : ((m.statements.filterMap Node.identity?).map fun i => (i.head.name, i)).reverse.find? (fun p => p.1 = q) =
      none := by
    refine List.find?_eq_none.2 fun p hp => ?_
    obtain ⟨i, hi, rfl⟩ := List.mem_map.1 (List.mem_reverse.1 hp)
    obtain ⟨n, hn, hni⟩ := List.mem_filterMap.1 hi
    have hhead : n.head = i.head := (Node.identity?_eq_some_iff.1 hni).2
    rw [decide_eq_true_eq]
    rintro rfl
    exact hq (hhead ▸ hm n hn)
  show (Assoc.ofList ((topIdentities ⟨ms ++ [m]⟩).map fun i => (i.head.name, i))).find? q =
    (Assoc.ofList ((topIdentities ⟨ms⟩).map fun i => (i.head.name, i))).find? q
  rw [Assoc.find?_ofList, Assoc.find?_ofList, topIdentities_append, List.map_append, List.reverse_append,
    List.find?_append, hnone, Option.none_or]

end YangDesign.Schema.Tree

namespace YangDesign.Translate

open Design Instance Schema Progress

variable {tree tree' : Tree} {p : Progress}

/-! ## How many bases are followed -/

/-- a failure for a base that is no identity, or that is out of reach -/
def IsUnknownBase (e : Failure) : Prop :=
  ∃ q path, e = .untranslatable (.unknownBase q) path

theorem Refusal.not_isUnknownBase {e : Failure} (h : Refusal tree e) : ¬ IsUnknownBase e := by
  rintro ⟨q, path, rfl⟩
  cases h

theorem sameUnless_register (f : Family) (n : SymbolicName) {x y : Translator Definition}
    (h : SameUnless IsUnknownBase x y) : SameUnless IsUnknownBase (register f n x) (register f n y) :=
  ((SameUnless.refl _).bind fun _ => h).obtain f n

theorem sameUnless_identityTypeUnder (i : Identity) {x y : Translator (Option SymbolicName)}
    (h : SameUnless IsUnknownBase x y) :
    SameUnless IsUnknownBase (identityTypeUnder i x) (identityTypeUnder i y) := by
  unfold identityTypeUnder
  refine (SameUnless.refl _).bind fun n => (SameUnless.refl _).bind fun known => ?_
  split
  · exact SameUnless.refl _
  · split
    · exact (SameUnless.refl _).bind fun _ => sameUnless_register _ n (h.bind fun _ => SameUnless.refl _)
    · exact sameUnless_register _ n (h.bind fun _ => SameUnless.refl _)

theorem sameUnless_baseIdentityType (tree : Tree) (i : Identity) {f g : Identity → Translator SymbolicName}
    (h : ∀ b, SameUnless IsUnknownBase (f b) (g b)) :
    SameUnless IsUnknownBase (baseIdentityType tree i f) (baseIdentityType tree i g) := by
  unfold baseIdentityType
  split
  · exact SameUnless.refl _
  · split
    · exact SameUnless.refl _
    · exact (h _).map some

/-- more steps change only what fails for an unknown base -/
theorem sameUnless_translateIdentityWithin (tree : Tree) {steps steps' : Nat} (hle : steps ≤ steps') (i : Identity) :
    SameUnless IsUnknownBase (translateIdentityWithin tree steps i) (translateIdentityWithin tree steps' i) := by
  induction steps generalizing steps' i with
  | zero =>
    -- without steps any base is unknown
    have hbase : ∀ g, SameUnless IsUnknownBase
        (baseIdentityType tree i fun b => unsupported (.unknownBase b.head.name) i.head.path) (baseIdentityType tree i g) :=
      fun g => sameUnless_baseIdentityType tree i fun b => SameUnless.throw ⟨_, _, rfl⟩ (g b)
    cases steps' with
    | zero => exact SameUnless.refl _
    | succ steps' => exact sameUnless_identityTypeUnder i (hbase _)
  | succ steps ih =>
    cases steps' with
    | zero => exact absurd hle (Nat.not_succ_le_zero steps)
    | succ steps' =>
      refine sameUnless_identityTypeUnder i (sameUnless_baseIdentityType tree i fun b => ?_)
      exact ih (Nat.le_of_succ_le_succ hle) b

/-- where bases lead to the same identities, the same number of steps does the same -/
theorem translateIdentityWithin_congr (h : ∀ i ∈ tree.topIdentities, ∀ q ∈ i.bases, tree'.identity? q = tree.identity? q)
    (steps : Nat) {i : Identity} (hi : i ∈ tree.topIdentities) :
    translateIdentityWithin tree steps i = translateIdentityWithin tree' steps i := by
  have hbase : ∀ {i : Identity} {f g : Identity → Translator SymbolicName}, i ∈ tree.topIdentities →
      (∀ b ∈ tree.topIdentities, f b = g b) → baseIdentityType tree i f = baseIdentityType tree' i g := by
    intro i f g hi hfg
    unfold baseIdentityType
    cases hcons : i.bases with
    | nil => rfl
    | cons q qs =>
      have hq : tree'.identity? q = tree.identity? q := h i hi q (by rw [hcons]; exact List.mem_cons_self)
      simp only [hq]
      cases hb : tree.identity? q with
      | none => rfl
      | some b => simp only [hfg b (Tree.mem_of_identity? hb).1]
  induction steps generalizing i with
  | zero => exact congrArg (identityTypeUnder i) (hbase hi fun _ _ => rfl)
  | succ steps ih => exact congrArg (identityTypeUnder i) (hbase hi fun _ hb => ih hb)

/-! ## The modules before the further one -/

/-- the last module has a namespace of its own, and no identity of the others has a base there -/
structure Detached (ms : List Module) (m : Module) : Prop where
  namespaces : ∀ x ∈ ms, x.namespaceUri ≠ m.namespaceUri
  bases : ∀ i ∈ Tree.topIdentities ⟨ms⟩, ∀ q ∈ i.bases, q.namespaceUri ≠ m.namespaceUri

section Detached

variable {ms : List Module} {m : Module} (hr : Tree.Resolved ⟨ms ++ [m]⟩) (hd : Detached ms m)

include hr hd

/-- an identity with the name of one of the earlier modules is one of theirs -/
theorem Detached.mem_topIdentities {i : Identity} (hi : i ∈ Tree.topIdentities ⟨ms ++ [m]⟩)
    (hname : i.head.name ∈ (Tree.identities ⟨ms⟩).keys) : i ∈ Tree.topIdentities ⟨ms⟩ := by
  -- the namespace of the name is that of an earlier module
  obtain ⟨j, hj⟩ := Option.isSome_iff_exists.1 ((Assoc.mem_keys_iff _ _).1 hname)
  obtain ⟨hjm, hji⟩ := Tree.mem_of_identity? hj
  obtain ⟨x, hx, n, hn, -, hnj⟩ := Tree.mem_topIdentities.1 hjm
  have hfirst : i.head.name.namespaceUri = x.namespaceUri := by
    rw [← hji, ← hnj]
    exact (hr.top x (List.mem_append_left _ hx) n hn).1
  rw [Tree.topIdentities_append, List.mem_append] at hi
  refine hi.resolve_right fun hlast => hd.namespaces x hx ?_
  obtain ⟨n, hn, hni⟩ := List.mem_filterMap.1 hlast
  rw [← hfirst, ← (Node.identity?_eq_some_iff.1 hni).2]
  exact (hr.top m List.mem_concat_self n hn).1

theorem Detached.identity? {i : Identity} (hi : i ∈ Tree.topIdentities ⟨ms⟩) {q : QName} (hq : q ∈ i.bases) :
    Tree.identity? ⟨ms ++ [m]⟩ q = Tree.identity? ⟨ms⟩ q :=
  Tree.identity?_append (fun n hn => (hr.top m List.mem_concat_self n hn).1) (hd.bases i hi q hq)

/-- both trees allow for enough bases: the identities of the earlier modules run alike -/
theorem Sound.run_translateIdentity_append (h : Sound ⟨ms ++ [m]⟩ [] [] p) {i : Identity}
    (hi : i ∈ Tree.topIdentities ⟨ms⟩) :
    ((translateIdentity ⟨ms⟩ i).run p : Except Failure SymbolicName × Progress) =
      (translateIdentity ⟨ms ++ [m]⟩ i).run p := by
  have hi' := Tree.topIdentities_subset_append ms m hi
  have hknown : ∀ j ∈ Tree.topIdentities ⟨ms ++ [m]⟩, j.head.name ∈ (Tree.identities ⟨ms⟩).keys →
      ∀ q ∈ j.bases, q ∈ (Tree.identities ⟨ms⟩).keys := by
    intro j hj hname q hq
    rw [Assoc.mem_keys_iff]
    show (Tree.identity? ⟨ms⟩ q).isSome = true
    rw [← hd.identity? hr (hd.mem_topIdentities hr hj hname) hq]
    exact hr.base_isSome hj hq
  have hfew := h.keeps_translateIdentityAmong hr hknown hi' ((Assoc.mem_keys_iff _ _).2 (Tree.identity?_isSome hi))
  have hmany := h.keeps_translateIdentity hr hi'
  rw [Assoc.length_keys] at hfew
  unfold translateIdentity at hmany ⊢
  rw [translateIdentityWithin_congr (fun _ hj _ hq => hd.identity? hr hj hq) _ hi]
  rcases le_total ((Tree.identities ⟨ms⟩).size + 1) ((Tree.identities ⟨ms ++ [m]⟩).size + 1) with hle | hle
  · exact (sameUnless_translateIdentityWithin _ hle i).run_eq hfew fun _ he => he.not_isUnknownBase
  · exact ((sameUnless_translateIdentityWithin _ hle i).run_eq hmany fun _ he => he.not_isUnknownBase).symm

theorem Sound.run_translateStatement_append (h : Sound ⟨ms ++ [m]⟩ [] [] p) {x : Module} (hx : x ∈ ms) {n : Node}
    (hn : n ∈ x.statements) (data : List DataNode) :
    ((translateStatement ⟨ms⟩ x.name data n).run p : Except Failure Unit × Progress) =
      (translateStatement ⟨ms ++ [m]⟩ x.name data n).run p := by
  unfold translateStatement
  split
  case h_2 bases hk =>
    have hi : (⟨n.head, bases⟩ : Identity) ∈ Tree.topIdentities ⟨ms⟩ := Tree.mem_topIdentities.2 ⟨x, hx, n, hn, hk, rfl⟩
    rw [run_bind, run_bind, h.run_translateIdentity_append hr hd hi]
  all_goals rfl

theorem Sound.run_translateModule_append (h : Sound ⟨ms ++ [m]⟩ [] [] p) {x : Module} (hx : x ∈ ms)
    (data : List DataNode) :
    ((translateModule ⟨ms⟩ data x).run p : Except Failure Unit × Progress) =
      (translateModule ⟨ms ++ [m]⟩ data x).run p := by
  have hx' : x ∈ ms ++ [m] := List.mem_append_left _ hx
  unfold translateModule
  rw [run_bind, run_bind]
  rcases hnote : ((note (.processingModule x.name)).run p : Except Failure Unit × Progress) with ⟨e | _, t⟩
  · rfl
  · refine run_forM_congr (P := Sound ⟨ms ++ [m]⟩ [] []) (fun n hn u hu => hu.run_translateStatement_append hr hd hx hn data)
      (fun n hn u hu => ?_) ((h.keeps_note _).ok hnote).1
    exact (hu.keeps_translateStatement hr hx' hn data).mono (fun _ _ hk => hk.1) fun _ _ => trivial

/-- the translation of the earlier modules, from the start, runs alike with and without the further module -/
theorem Sound.run_forM_append (h : Sound ⟨ms ++ [m]⟩ [] [] p) (data : List DataNode) :
    ((ms.forM (translateModule ⟨ms⟩ data)).run p : Except Failure Unit × Progress) =
      (ms.forM (translateModule ⟨ms ++ [m]⟩ data)).run p := by
  refine run_forM_congr (P := Sound ⟨ms ++ [m]⟩ [] []) (fun x hx t ht => ht.run_translateModule_append hr hd hx data)
    (fun x hx t ht => ?_) h
  exact (ht.keeps_translateModule hr (List.mem_append_left _ hx) data).mono (fun _ _ hk => hk.1) fun _ _ => trivial

end Detached

/-- some modules of a tree in order -/
theorem Sound.keeps_modules (hr : tree.Resolved) (h : Sound tree [] [] p) {xs : List Module}
    (hsub : ∀ x ∈ xs, x ∈ tree.modules) (data : List DataNode) :
    Keeps tree [] [] p (xs.forM (translateModule tree data)) fun _ _ => True := by
  refine Keeps.imp (keeps_forM (R := fun _ _ => True) (fun hc _ => hc) (fun x hx t ht => ?_) h) fun _ _ _ _ _ => trivial
  exact (ht.keeps_translateModule hr (hsub x hx) data).imp fun _ _ _ _ _ => trivial

variable {ms : List Module} {m : Module}

/-- **A further module only adds.** Let the last module of a schema have a namespace of its own in which no identity of the
other modules has a base. If the schema can be translated, so can the other modules alone, with the same settings and data. The
definitions of the design for the whole schema begin with those of the design for the others, and each namespace that is
numbered for the others has the same prefix for the whole. -/
theorem translate_append {d : Document} (hresolve : d.resolve = .ok ⟨ms ++ [m]⟩) (hd : Detached ms m) {s : Settings}
    {data : List DataNode} {doc : ModelDocument} (h : translate s ⟨ms ++ [m]⟩ data = .ok doc) : ∃ p p',
      run s ⟨ms ++ [m]⟩ data = (.ok (), p') ∧ p'.document = doc ∧ run s ⟨ms⟩ data = (.ok (), p) ∧
      translate s ⟨ms⟩ data = .ok p.document ∧ p.document.definitions.toList <+: doc.definitions.toList ∧
      p.namer.prefixes <+: p'.namer.prefixes := by
  have hr := Document.resolve_resolved hresolve
  obtain ⟨p', hrun, rfl⟩ := translate_eq_ok_iff.1 h
  have hstart := sound_start ⟨ms ++ [m]⟩ s.target (designNamespaces s)
  obtain ⟨q', hmodules, rfl⟩ := run_eq_ok_iff.1 hrun
  obtain ⟨q, hfirst, hlast⟩ := ok_of_run_forM_append hmodules
  -- the earlier modules reach the same state in both translations, and the last one goes on from there
  have hq := (hstart.keeps_modules hr (fun _ => List.mem_append_left _) _).ok hfirst
  have hlater := ((hq.1.keeps_modules hr (fun _ => List.mem_append_right _) _).ok hlast).2.1
  have hrun' := run_eq_ok_iff.2 ⟨q, (hstart.run_forM_append hr hd _).trans hfirst, rfl⟩
  exact ⟨_, _, hrun, rfl, hrun', translate_eq_ok_iff.2 ⟨_, hrun', rfl⟩, hlater.document.toList_isPrefix,
    hlater.namer.prefixes⟩

/-- a module with an identity and one derived from it, and a module that derives from the second -/
def layered : Document :=
  ⟨[⟨"a", "urn:a", "a", none, [.named "thing" none (.identity []) [], .named "part" none (.identity ["thing"]) [],
      .named "c" none .container []]⟩,
    ⟨"b", "urn:b", "b", none, [.named "wheel" none (.identity ["a:part"]) [], .named "c" none .container []]⟩]⟩

/-- the first of the layers -/
def lowerLayer : Module :=
  ⟨"a", "urn:a", "a", [⟨⟨⟨"urn:a", "thing"⟩, ["thing"], none⟩, .identity [], []⟩,
    ⟨⟨⟨"urn:a", "part"⟩, ["part"], none⟩, .identity [⟨"urn:a", "thing"⟩], []⟩,
    ⟨⟨⟨"urn:a", "c"⟩, ["c"], none⟩, .container, []⟩], none⟩

/-- the layer on top of it -/
def upperLayer : Module :=
  ⟨"b", "urn:b", "b", [⟨⟨⟨"urn:b", "wheel"⟩, ["wheel"], none⟩, .identity [⟨"urn:a", "part"⟩], []⟩,
    ⟨⟨⟨"urn:b", "c"⟩, ["c"], none⟩, .container, []⟩], none⟩

/-- data for both layers -/
def layeredData : List DataNode :=
  [.container ⟨"urn:a", "c"⟩ [], .container ⟨"urn:b", "c"⟩ []]

/-- the design for both layers, with an object in each, begins with that for the lower one -/
theorem layered_append : ∃ doc doc', layered.resolve = .ok ⟨[lowerLayer] ++ [upperLayer]⟩ ∧
    Detached [lowerLayer] upperLayer ∧
    translate (.default 0) ⟨[lowerLayer] ++ [upperLayer]⟩ layeredData = .ok doc ∧
    translate (.default 0) ⟨[lowerLayer]⟩ layeredData = .ok doc' ∧
    doc'.definitions.toList <+: doc.definitions.toList ∧ doc'.definitions.size = 4 ∧ doc.definitions.size = 7 := by
  have hresolve : layered.resolve = .ok ⟨[lowerLayer] ++ [upperLayer]⟩ := rfl
  have hdetached : Detached [lowerLayer] upperLayer := ⟨by decide, by decide⟩
  obtain ⟨doc, hdoc, hsize⟩ : ∃ doc, translate (.default 0) ⟨[lowerLayer] ++ [upperLayer]⟩ layeredData = .ok doc ∧
      (doc.definitions.size == 7) = true := ok_of_any (by decide +kernel)
  obtain ⟨doc', hdoc', hsize'⟩ : ∃ doc, translate (.default 0) ⟨[lowerLayer]⟩ layeredData = .ok doc ∧
      (doc.definitions.size == 4) = true := ok_of_any (by decide +kernel)
  obtain ⟨p, -, -, -, -, hlower, hbegins, -⟩ := translate_append hresolve hdetached hdoc
  cases hdoc'.symm.trans hlower
  exact ⟨doc, _, hresolve, hdetached, hdoc, hdoc', hbegins, beq_iff_eq.1 hsize', beq_iff_eq.1 hsize⟩

end YangDesign.Translate
