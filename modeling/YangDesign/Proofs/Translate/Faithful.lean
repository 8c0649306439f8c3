/-
Data types of leaves and leaf-lists.

Types of one owner share the name of their data type, and the definition under it is made from the one that is registered
first (`MadeFrom`). `Faithful` says that a leaf or leaf-list gets the data type that its type asks for: it does exactly if the
type that the definition was made from serves its own (`Sound.standsFor_iff`). All of them do if types of one owner agree and
no type shares its owner with a type that it derives from; if all do, then types of leaves and leaf-lists agree that share an
owner (`translate_faithful`).
-/
import YangDesign.Proofs.Translate.Coverage

namespace YangDesign.Translate

open Design Instance Schema Progress

variable {tree : Tree} {p : Progress}

/-! ## Data types -/

/-- a label of an enumeration as it stands in a field -/
def labelOf (f : Field) : String × Option Int :=
  (f.name, f.identifier)

/-- types that are to become data types with the same end and the same fields -/
structure Agree (t u : TypeDef) : Prop where
  ends : ∀ b c, t.kind = .builtIn b → u.kind = .builtIn c → opcName b = opcName c
  labels : (fieldsOf t).map labelOf = (fieldsOf u).map labelOf

/-- types of one owner agree, and no type shares its owner with a type that it derives from -/
structure Unambiguous (tree : Tree) : Prop where
  agree : ∀ t u, tree.Makes (.type t) → tree.Makes (.type u) → ownerOfType t = ownerOfType u → Agree t u
  apart : ∀ t u, tree.Makes (.type t) → Relation.TransGen tree.Under (.type t) (.type u) →
    ownerOfType t ≠ ownerOfType u

/-- a data type is the one that a type asks for: base types lead from it to the built-in data type of the kind, and that of an
enumeration has its labels as fields -/
structure StandsFor (doc : ModelDocument) (n : SymbolicName) (t : TypeDef) : Prop where
  ends : ∃ b, t.kind = .builtIn b ∧ doc.EndsAt n (builtInName (opcName b))
  labels : t.kind = .builtIn .enumeration → ∃ d base fields, doc.get? n = some d ∧ d.content = .dataType base fields ∧
    fields.map labelOf = t.enums.map fun e => (e.name, some e.value)

/-- a leaf or leaf-list gets the data type that its type asks for -/
def Faithful (p : Progress) (n : Node) : Prop :=
  ∃ r t name d base dt rank, variableOf? n.kind = some (r, t) ∧ p.Asked r (ownerOf n.head) name ∧
    p.document.get? name = some d ∧ d.content = .variableType base (some dt) rank ∧ StandsFor p.document dt t

theorem labels_of_enumeration {t : TypeDef} (h : t.kind = .builtIn .enumeration) :
    (fieldsOf t).map labelOf = t.enums.map fun e => (e.name, some e.value) := by
  rw [fieldsOf, if_pos h, List.map_map]
  rfl

theorem Sound.get?_of_isStandard (h : Sound tree [] [] p) {n : SymbolicName} (hn : IsStandard n) :
    p.document.get? n = none := by
  by_contra hsome
  obtain ⟨d, hd⟩ := Option.ne_none_iff_exists'.1 hsome
  obtain ⟨x, hx, -⟩ := h.known n (ModelDocument.Indexed.contains_of_get? hd)
  exact hx.not_isStandard hn

/-- where no type shares its owner with one it derives from, bases of data types stand before them -/
theorem Sound.base_before (h : Sound tree [] [] p) (hu : Unambiguous tree) {o : Owner} {i : Nat} {d : Definition}
    (hd : p.document.definitions[i]? = some d) (ha : p.Asked .dataType o d.name) {n : SymbolicName}
    (hb : d.base? = some n) (hn : ¬ IsStandard n) : ∃ j < i, p.document.indexOf? n = some j := by
  rcases h.placed i d hd _ (ModelDocument.base?_eq_some_iff.1 hb) with hs | hj | ⟨-, u, v, hl⟩
  · exact absurd hs hn
  · exact hj
  · exfalso
    have hjob := hl.asked.named.job_unique ha.named
    cases hl.under with
    | @type t b hbase =>
      rcases hl.loops with ho | ⟨⟨-, s, u, v, hs, hsu, huv, hrole, hso, -, hvo⟩, -⟩
      · exact hu.apart _ _ hl.makes (Relation.TransGen.single hl.under) ho.symm
      · cases huv with
        | identity _ => cases hrole
        | type hv =>
          cases s with
          | identity i =>
            cases Tree.role_of_under hsu
          | type s =>
            exact hu.apart _ _ hs (Relation.TransGen.tail' hsu (.type hv)) (hso.trans hvo.symm)
    | identity _ => cases congrArg Job.purpose hjob

/-! ## What data types are made from -/

/-- a data type of the design is made from a type of the tree -/
structure MadeFrom (tree : Tree) (p : Progress) (n : SymbolicName) (w : TypeDef) : Prop where
  makes : tree.Makes (.type w)
  asked : p.Asked .dataType (ownerOfType w) n
  found : ∃ d b, p.document.get? n = some d ∧ d.content = .dataType (some b) (fieldsOf w) ∧ DataBase p w b

/-- following the types that data types are made from leads, from base to base, to a built-in type -/
inductive LeadsTo (tree : Tree) (p : Progress) : TypeDef → BuiltIn → Prop where
  | builtIn {w : TypeDef} {b : BuiltIn} : w.derivedBase? = none → w.kind = .builtIn b → LeadsTo tree p w b
  | derived {w u v : TypeDef} {m : SymbolicName} {b : BuiltIn} : w.derivedBase? = some u → MadeFrom tree p m v →
    ownerOfType v = ownerOfType u → LeadsTo tree p v b → LeadsTo tree p w b

/-- a data type made from `w` is the one that `t` asks for -/
structure Serves (tree : Tree) (p : Progress) (w t : TypeDef) : Prop where
  ends : ∃ b c, t.kind = .builtIn b ∧ LeadsTo tree p w c ∧ opcName c = opcName b
  labels : (fieldsOf w).map labelOf = (fieldsOf t).map labelOf

theorem Sound.madeFrom (h : Sound tree [] [] p) {o : Owner} {n : SymbolicName} (ha : p.Asked .dataType o n) :
    ∃ w, MadeFrom tree p n w ∧ ownerOfType w = o := by
  obtain ⟨d, hget, hm⟩ := h.made ha
  cases hm with
  | @dataType w b _ hw hbase hcontent => exact ⟨w, ⟨hw, ha, d, b, hget, hcontent, hbase⟩, rfl⟩

theorem DataBase.asked {t u : TypeDef} {n : SymbolicName} (h : DataBase p t n) (hu : t.derivedBase? = some u) :
    p.Asked .dataType (ownerOfType u) n := by
  unfold DataBase at h
  rw [hu] at h
  exact h

theorem DataBase.builtIn {t : TypeDef} {n : SymbolicName} (h : DataBase p t n) (hu : t.derivedBase? = none) :
    ∃ b, t.kind = .builtIn b ∧ n = builtInName (opcName b) := by
  unfold DataBase at h
  rw [hu] at h
  exact h

theorem Sound.endsAt_of_leadsTo (h : Sound tree [] [] p) {n : SymbolicName} {w : TypeDef} {b : BuiltIn}
    (hw : MadeFrom tree p n w) (hb : LeadsTo tree p w b) : p.document.EndsAt n (builtInName (opcName b)) := by
  induction hb generalizing n with
  | @builtIn w b hnone hk =>
    obtain ⟨d, m, hget, hcontent, hbase⟩ := hw.found
    obtain ⟨c, hc, rfl⟩ := hbase.builtIn hnone
    cases hk.symm.trans hc
    exact .step hget (by rw [Definition.base?, hcontent]) (.here (h.get?_of_isStandard (isStandard_opcName b)))
  | derived hsome hv ho _ ih =>
    obtain ⟨d, m, hget, hcontent, hbase⟩ := hw.found
    have hasked := hbase.asked hsome
    rw [← ho] at hasked
    obtain rfl := hasked.named.name_unique hv.asked.named
    exact .step hget (by rw [Definition.base?, hcontent]) (ih hv)

theorem Sound.leadsTo_of_endsAt (h : Sound tree [] [] p) {n x : SymbolicName} {w : TypeDef} {b : BuiltIn}
    (hw : MadeFrom tree p n w) (he : p.document.EndsAt n x) (hx : x = builtInName (opcName b)) :
    ∃ c, LeadsTo tree p w c ∧ opcName c = opcName b := by
  induction he generalizing w with
  | here hnone =>
    obtain ⟨d, m, hget, -⟩ := hw.found
    rw [hnone] at hget
    cases hget
  | step hget hb hnext ih =>
    obtain ⟨d, m, hget', hcontent, hbase⟩ := hw.found
    cases hget.symm.trans hget'
    rw [Definition.base?, hcontent] at hb
    cases hb
    cases hderived : w.derivedBase? with
    | some u =>
      obtain ⟨v, hv, ho⟩ := h.madeFrom (hbase.asked hderived)
      obtain ⟨c, hc, hname⟩ := ih hv hx
      exact ⟨c, .derived hderived hv ho hc, hname⟩
    | none =>
      obtain ⟨c, hc, rfl⟩ := hbase.builtIn hderived
      refine ⟨c, .builtIn hderived hc, ?_⟩
      cases hnext with
      | here _ => exact congrArg SymbolicName.name hx
      | step hd _ _ =>
        rw [h.get?_of_isStandard (isStandard_opcName c)] at hd
        cases hd

theorem eq_enumeration {b : BuiltIn} (h : opcName b = opcName .enumeration) : b = .enumeration := by
  cases b <;> first | rfl | exact absurd h (by decide)

theorem LeadsTo.of_enumeration {w : TypeDef} {b : BuiltIn} (h : LeadsTo tree p w b)
    (hk : w.kind = .builtIn .enumeration) : b = .enumeration := by
  cases h with
  | builtIn _ hb =>
    cases hk.symm.trans hb
    rfl
  | derived hsome _ _ _ =>
    rw [TypeDef.derivedBase?, if_pos hk] at hsome
    cases hsome

theorem fieldsOf_of_ne {t : TypeDef} {b : BuiltIn} (hk : t.kind = .builtIn b) (hb : b ≠ .enumeration) :
    fieldsOf t = [] := by
  rw [fieldsOf, hk, if_neg (by simpa using hb)]

/-- **Which types get what they ask for.** The data type of a type is the one it asks for exactly if the type that it was made
from serves. -/
theorem Sound.standsFor_iff (h : Sound tree [] [] p) {n : SymbolicName} {t : TypeDef} {b : BuiltIn}
    (hk : t.kind = .builtIn b) (ha : p.Asked .dataType (ownerOfType t) n) :
    StandsFor p.document n t ↔ ∃ w, MadeFrom tree p n w ∧ Serves tree p w t := by
  constructor
  · intro hs
    obtain ⟨w, hw, -⟩ := h.madeFrom ha
    obtain ⟨b', hb', hends⟩ := hs.ends
    cases hk.symm.trans hb'
    obtain ⟨c, hc, hname⟩ := h.leadsTo_of_endsAt hw hends rfl
    refine ⟨w, hw, ⟨b, c, hk, hc, hname⟩, ?_⟩
    by_cases he : b = .enumeration
    · subst he
      obtain ⟨d, base, fields, hget, hcontent, hlabels⟩ := hs.labels hk
      obtain ⟨d', base', hget', hcontent', -⟩ := hw.found
      cases hget.symm.trans hget'
      cases hcontent.symm.trans hcontent'
      rw [hlabels, labels_of_enumeration hk]
    · have hw' : w.kind ≠ .builtIn .enumeration := fun hwk => by
        obtain rfl := hc.of_enumeration hwk
        exact he (eq_enumeration hname.symm)
      rw [fieldsOf_of_ne hk he, fieldsOf, if_neg hw']
  · rintro ⟨w, hw, ⟨b', c, hb', hc, hname⟩, hlabels⟩
    cases hk.symm.trans hb'
    refine ⟨⟨b, hk, hname ▸ h.endsAt_of_leadsTo hw hc⟩, fun he => ?_⟩
    obtain ⟨d, base, hget, hcontent, -⟩ := hw.found
    exact ⟨d, _, _, hget, hcontent, by rw [hlabels, labels_of_enumeration he]⟩

/-! ## Types that agree -/

/-- where types of one owner agree, a type leads to the built-in type of its kind -/
theorem Sound.leadsTo (h : Sound tree [] [] p) (hr : tree.Resolved) (hu : Unambiguous tree) (i : Nat) :
    ∀ {n : SymbolicName} {w : TypeDef} {b : BuiltIn}, p.document.indexOf? n = some i → MadeFrom tree p n w →
      w.kind = .builtIn b → ∃ c, LeadsTo tree p w c ∧ opcName c = opcName b := by
  induction i using Nat.strong_induction_on with
  | h i ih =>
    intro n w b hi hw hk
    obtain ⟨d, m, hget, hcontent, hbase⟩ := hw.found
    obtain ⟨i', hd, rfl⟩ := h.indexed.get?_eq_some_iff.1 hget
    have hi' : p.document.indexOf? d.name = some i' := (h.indexed _ i').2 (by rw [hd, Option.map_some])
    obtain rfl : i = i' := Option.some.inj (hi.symm.trans hi')
    cases hderived : w.derivedBase? with
    | some u =>
      have hasked := hbase.asked hderived
      -- the base is made from a type that agrees with the one asked for, and stands before
      obtain ⟨v, hv, ho⟩ := h.madeFrom hasked
      have hdm : d.base? = some m := by rw [Definition.base?, hcontent]
      obtain ⟨j, hj, hmj⟩ := h.base_before hu hd hw.asked hdm hasked.named.not_isStandard
      obtain ⟨b', hb'⟩ := hr.rooted (hv.makes.type_mem v rfl)
      have hvk : v.kind = .builtIn b' := hb' v v.self_mem_chain
      have huk : u.kind = .builtIn b := by
        obtain ⟨c, hc⟩ := hr.rooted (hw.makes.type_mem w rfl)
        cases hk.symm.trans (hc w w.self_mem_chain)
        refine hc u ?_
        rw [TypeDef.chain_of_some (TypeDef.base_of_derivedBase? hderived)]
        exact List.mem_cons_of_mem _ u.self_mem_chain
      obtain ⟨c, hc, hname⟩ := ih j hj hmj hv hvk
      exact ⟨c, .derived hderived hv ho hc,
        hname.trans ((hu.agree v u hv.makes (hw.makes.base (.type hderived)) ho).ends b' b hvk huk)⟩
    | none => exact ⟨b, .builtIn hderived hk, rfl⟩

theorem kind_of_isPrimitive {t : TypeDef} (h : t.isPrimitive = true) : t.kind ≠ .builtIn .enumeration := by
  intro hk
  rw [TypeDef.isPrimitive, hk] at h
  simp [BuiltIn.isDependent] at h

theorem Sound.standsFor_of_isPrimitive (h : Sound tree [] [] p) {t : TypeDef} (ht : t.isPrimitive = true)
    {dt : SymbolicName} (hdt : TypedAs p t dt) : StandsFor p.document dt t := by
  rw [TypedAs, if_pos ht] at hdt
  obtain ⟨b, hb, rfl⟩ := hdt
  exact ⟨⟨b, hb, .here (h.get?_of_isStandard (isStandard_opcName b))⟩, fun he => absurd he (kind_of_isPrimitive ht)⟩

/-- the data type of a type is the one that it asks for, if types of one owner agree -/
theorem Sound.standsFor (h : Sound tree [] [] p) (hr : tree.Resolved) (hu : Unambiguous tree) {t : TypeDef}
    (ht : tree.Makes (.type t)) {n : SymbolicName} (ha : p.Asked .dataType (ownerOfType t) n) :
    StandsFor p.document n t := by
  have hkind : ∀ {u : TypeDef}, tree.Makes (.type u) → ∃ b, u.kind = .builtIn b := by
    intro u hm
    obtain ⟨b, hb⟩ := hr.rooted (hm.type_mem u rfl)
    exact ⟨b, hb u u.self_mem_chain⟩
  obtain ⟨b, hk⟩ := hkind ht
  obtain ⟨w, hw, ho⟩ := h.madeFrom ha
  obtain ⟨b', hwk⟩ := hkind hw.makes
  have hagree := hu.agree w t hw.makes ht ho
  obtain ⟨i, hi⟩ := ModelDocument.contains_iff.1 (h.contains_of_asked ha (by simp))
  obtain ⟨c, hc, hname⟩ := h.leadsTo hr hu i hi hw hwk
  exact (h.standsFor_iff hk ha).2 ⟨w, hw, ⟨b, c, hk, hc, hname.trans (hagree.ends b' b hwk hk)⟩, hagree.labels⟩

/-! ## Types that share a name -/

theorem endsAt_unique {doc : ModelDocument} {a b c : SymbolicName} (h : doc.EndsAt a b) (k : doc.EndsAt a c) : b = c := by
  induction h with
  | here hnone =>
    cases k with
    | here _ => rfl
    | step hd _ _ =>
      rw [hnone] at hd
      cases hd
  | step hd hb _ ih =>
    cases k with
    | here hnone =>
      rw [hnone] at hd
      cases hd
    | step hd' hb' k' =>
      cases hd.symm.trans hd'
      cases hb.symm.trans hb'
      exact ih k'

/-- types that one data type stands for agree -/
theorem agree_of_standsFor {doc : ModelDocument} {n : SymbolicName} {t u : TypeDef} (ht : StandsFor doc n t)
    (hu : StandsFor doc n u) : Agree t u := by
  obtain ⟨b, hb, hbends⟩ := ht.ends
  obtain ⟨c, hc, hcends⟩ := hu.ends
  have hends : opcName b = opcName c := congrArg SymbolicName.name (endsAt_unique hbends hcends)
  refine ⟨fun b' c' hb' hc' => ?_, ?_⟩
  · cases hb.symm.trans hb'
    cases hc.symm.trans hc'
    exact hends
  · by_cases he : b = .enumeration
    · subst he
      obtain rfl := eq_enumeration hends.symm
      obtain ⟨d, base, fields, hd, hcontent, hlabels⟩ := ht.labels hb
      obtain ⟨d', base', fields', hd', hcontent', hlabels'⟩ := hu.labels hc
      cases hd.symm.trans hd'
      cases hcontent.symm.trans hcontent'
      rw [labels_of_enumeration hb, labels_of_enumeration hc, ← hlabels, ← hlabels']
    · have he' : c ≠ .enumeration := fun hce => he (eq_enumeration (hends.trans (congrArg opcName hce)))
      rw [fieldsOf, if_neg (by rw [hb]; simpa using he), fieldsOf, if_neg (by rw [hc]; simpa using he')]

theorem typedAs_unique {t : TypeDef} {m n : SymbolicName} (hm : TypedAs p t m) (hn : TypedAs p t n) : m = n := by
  unfold TypedAs at hm hn
  split at hm
  · rename_i hp
    rw [if_pos hp] at hn
    obtain ⟨b, hb, rfl⟩ := hm
    obtain ⟨c, hc, rfl⟩ := hn
    cases hb.symm.trans hc
    rfl
  · rename_i hp
    rw [if_neg hp] at hn
    exact hm.named.name_unique hn.named

/-- a node gets the data type that its type asks for exactly if the one that stands for its type is that -/
theorem Sound.faithful_iff (h : Sound tree [] [] p) (hr : tree.Resolved) (hd : tree.Distinct) {n : Node}
    (hn : n ∈ tree.nodes) (hc : Covered p n) {r : TypeRole} {t : TypeDef} (hk : variableOf? n.kind = some (r, t)) :
    Faithful p n ↔ ∃ dt, TypedAs p t dt ∧ StandsFor p.document dt t := by
  obtain ⟨name, d, base, dt, rank, ha, hget, hcontent, ht⟩ := h.variable_of_covered hr hd hn hc hk
  constructor
  · rintro ⟨r', t', name', d', base', dt', rank', hk', ha', hget', hcontent', hs⟩
    cases hk.symm.trans hk'
    obtain rfl : name = name' := ha.named.name_unique ha'.named
    cases hget.symm.trans hget'
    cases hcontent.symm.trans hcontent'
    exact ⟨dt, ht, hs⟩
  · rintro ⟨dt', ht', hs⟩
    obtain rfl := typedAs_unique ht ht'
    exact ⟨r, t, name, d, base, dt, rank, hk, ha, hget, hcontent, hs⟩

/-- a node gets the data type that its type asks for exactly if this is one of the vocabulary, or a data type made from a type
that serves -/
theorem Sound.faithful_iff_serves (h : Sound tree [] [] p) (hr : tree.Resolved) (hd : tree.Distinct) {n : Node}
    (hn : n ∈ tree.nodes) (hc : Covered p n) {r : TypeRole} {t : TypeDef} (hk : variableOf? n.kind = some (r, t)) :
    Faithful p n ↔ t.isPrimitive = true ∨
      ∃ m w, MadeFrom tree p m w ∧ ownerOfType w = ownerOfType t ∧ Serves tree p w t := by
  obtain ⟨-, -, -, dt, -, -, -, -, ht⟩ := h.variable_of_covered hr hd hn hc hk
  obtain ⟨b, hb⟩ := hr.rooted (Tree.type_mem_types hn (type?_of_variableOf? hk))
  have hkind : t.kind = .builtIn b := hb t t.self_mem_chain
  rw [h.faithful_iff hr hd hn hc hk]
  by_cases hp : t.isPrimitive = true
  · exact ⟨fun _ => Or.inl hp, fun _ => ⟨dt, ht, h.standsFor_of_isPrimitive hp ht⟩⟩
  · have hasked := ht
    rw [TypedAs, if_neg hp] at hasked
    constructor
    · rintro ⟨dt', ht', hs⟩
      obtain rfl := typedAs_unique ht ht'
      obtain ⟨w, hw, hserves⟩ := (h.standsFor_iff hkind hasked).1 hs
      exact Or.inr ⟨dt, w, hw, congrArg Job.owner (hw.asked.named.job_unique hasked.named), hserves⟩
    · rintro (hp' | ⟨m, w, hw, ho, hserves⟩)
      · exact absurd hp' hp
      · have hm := hw.asked
        rw [ho] at hm
        obtain rfl : m = dt := hm.named.name_unique hasked.named
        exact ⟨m, ht, (h.standsFor_iff hkind hasked).2 ⟨w, hw, hserves⟩⟩

/-! ## Translations -/

/-- **Data types of leaves and leaf-lists.** In the design for a resolved schema with distinct names, whatever the settings and
the data, a leaf or leaf-list gets the data type that its type asks for exactly if this is one of the vocabulary, or the data
type under its name was made from a type that serves. All get it if types of one owner agree and no type shares its owner with
one that it derives from; if all get it, then types of leaves and leaf-lists agree that become data types of their own and
share an owner. -/
theorem translate_faithful {d : Document} (hresolve : d.resolve = .ok tree) (hd : tree.Distinct) {s : Settings}
    {data : List DataNode} {doc : ModelDocument} (h : translate s tree data = .ok doc) :
    ∃ p, run s tree data = (.ok (), p) ∧ p.document = doc ∧
      (∀ n ∈ tree.nodes, ∀ r t, variableOf? n.kind = some (r, t) → (Faithful p n ↔ t.isPrimitive = true ∨
        ∃ m w, MadeFrom tree p m w ∧ ownerOfType w = ownerOfType t ∧ Serves tree p w t)) ∧
      (Unambiguous tree → ∀ n ∈ tree.nodes, ∀ type, n.kind = .leaf type ∨ n.kind = .leafList type → Faithful p n) ∧
      ((∀ n ∈ tree.nodes, ∀ type, n.kind = .leaf type ∨ n.kind = .leafList type → Faithful p n) →
        ∀ n ∈ tree.nodes, ∀ n' ∈ tree.nodes, ∀ r t r' t', variableOf? n.kind = some (r, t) →
          variableOf? n'.kind = some (r', t') → t.isPrimitive = false → t'.isPrimitive = false →
          ownerOfType t = ownerOfType t' → Agree t t') := by
  obtain ⟨p, hrun, rfl⟩ := translate_eq_ok_iff.1 h
  have hr := Document.resolve_resolved hresolve
  have hsound := run_sound hr hrun
  have hcovered := hsound.covered_nodes hr hd fun m hm n hn => (run_covered hr hrun m hm n hn).covered
  refine ⟨p, hrun, rfl, fun n hn r t hk => hsound.faithful_iff_serves hr hd hn (hcovered n hn) hk,
    fun hu n hn type hk => ?_, fun hall n hn n' hn' r t r' t' hk hk' hp hp' ho => ?_⟩
  · obtain ⟨r, t, hv⟩ := variableOf?_of_resolved (hr.nodes n hn) hk
    obtain ⟨-, -, -, dt, -, -, -, -, ht⟩ := hsound.variable_of_covered hr hd hn (hcovered n hn) hv
    refine (hsound.faithful_iff hr hd hn (hcovered n hn) hv).2 ⟨dt, ht, ?_⟩
    by_cases hp : t.isPrimitive = true
    · exact hsound.standsFor_of_isPrimitive hp ht
    · have hmakes : tree.Makes (.type t) := .type hn (type?_of_variableOf? hv) (Bool.eq_false_iff.2 hp)
      rw [TypedAs, if_neg hp] at ht
      exact hsound.standsFor hr hu hmakes ht
  · obtain ⟨dt, ht, hs⟩ := (hsound.faithful_iff hr hd hn (hcovered n hn) hk).1 (hall n hn _ (kind_of_variableOf? hk))
    obtain ⟨dt', ht', hs'⟩ :=
      (hsound.faithful_iff hr hd hn' (hcovered n' hn') hk').1 (hall n' hn' _ (kind_of_variableOf? hk'))
    rw [TypedAs, if_neg (Bool.eq_false_iff.1 hp)] at ht
    rw [TypedAs, if_neg (Bool.eq_false_iff.1 hp'), ← ho] at ht'
    obtain rfl : dt = dt' := ht.named.name_unique ht'.named
    exact agree_of_standsFor hs hs'

/-- a typedef `a` over a type `t` of strings, and a container `a` with a typedef `t` of its own for a leaf -/
def shadowedTypedef : Document :=
  let typed := fun (name : String) (description : Option String) => TypeRef.mk name none description
  ⟨[⟨"m", "urn:m", "m", none, [.named "t" none (.typedef (typed "string" none)) [],
    .named "a" none (.typedef (typed "t" (some "text"))) [],
    .named "a" none .container [.named "t" none (.typedef (typed "uint8" none)) [],
      .named "x" none (.leaf (typed "t" none)) []]]⟩]⟩

/-- the name that following base types from another one leads to, after a number of steps -/
def baseAfter (doc : ModelDocument) : Nat → SymbolicName → SymbolicName
  | 0, n => n
  | k + 1, n => match (doc.get? n).bind Definition.base? with
    | some b => baseAfter doc k b
    | none => n

theorem endsAt_baseAfter {doc : ModelDocument} {k : Nat} {n : SymbolicName} (h : doc.get? (baseAfter doc k n) = none) :
    doc.EndsAt n (baseAfter doc k n) := by
  induction k generalizing n with
  | zero => exact .here h
  | succ k ih =>
    unfold baseAfter at h ⊢
    split at h
    · rename_i b hb
      obtain ⟨d, hd, hdb⟩ := Option.bind_eq_some_iff.1 hb
      exact .step hd hdb (ih h)
    · exact .here h

/-- whether base types lead from the data types of all variable types of a design to the built-in one of a name, in at most
three steps -/
def variablesEndAt (base : String) (doc : ModelDocument) : Bool :=
  doc.definitions.toList.all fun d => match d.content with
    | .variableType _ (some dt) _ => baseAfter doc 3 dt == builtInName base && (doc.get? (builtInName base)).isNone
    | _ => true

theorem endsAt_of_variablesEndAt {base : String} {doc : ModelDocument} (h : variablesEndAt base doc = true)
    {name : SymbolicName} {d : Definition} {b : Option SymbolicName} {dt : SymbolicName} {rank : ValueRank}
    (hd : doc.get? name = some d) (hc : d.content = .variableType b (some dt) rank) :
    doc.EndsAt dt (builtInName base) := by
  obtain ⟨i, -, hi⟩ := Option.bind_eq_some_iff.1 hd
  have hmem := List.all_eq_true.1 h d (Array.mem_toList_iff.2 (Array.mem_of_getElem? hi))
  rw [hc, Bool.and_eq_true, beq_iff_eq, Option.isNone_iff_eq_none] at hmem
  obtain ⟨hbase, hnone⟩ := hmem
  rw [← hbase] at hnone ⊢
  exact endsAt_baseAfter hnone

/-- the leaf of numbers gets a data type of strings, since the types of two typedefs meet on the path `a/t` -/
theorem shadowedTypedef_ambiguous : ∃ tree doc, shadowedTypedef.resolve = .ok tree ∧ tree.Distinct ∧
    translate (.default 0) tree [] = .ok doc ∧ variablesEndAt "String" doc = true ∧ ¬ Unambiguous tree := by
  let typed := fun (name : String) (path : List String) (b : BuiltIn) (base : Option TypeDef) (text : Option String) =>
    TypeDef.mk ⟨"urn:m", name⟩ path (.builtIn b) base [] text
  let texts := typed "t" ["t"] .string (some (typed "string" ["t", "string"] .string none none)) none
  let inner := typed "t" ["a", "t"] .string (some texts) (some "text")
  let numbers := typed "t" ["a", "t"] .uint8 (some (typed "uint8" ["a", "t", "uint8"] .uint8 none none)) none
  let node := fun (path : List String) (name : String) (kind : NodeKind) (children : List Node) =>
    Node.mk ⟨⟨"urn:m", name⟩, path ++ [name], none⟩ kind children
  let leaf := node ["a"] "x" (.leaf (some numbers)) []
  let tree : Tree := ⟨[⟨"m", "urn:m", "m", [node [] "t" (.typedef (some texts)) [],
    node [] "a" (.typedef (some (typed "a" ["a"] .string (some inner) none))) [],
    node [] "a" .container [node ["a"] "t" (.typedef (some numbers)) [], leaf]], none⟩]⟩
  have hresolve : shadowedTypedef.resolve = .ok tree := rfl
  have hdistinct : tree.Distinct := ⟨by decide +kernel, by decide +kernel, by decide +kernel⟩
  obtain ⟨doc, hdoc, hstrings⟩ : ∃ doc, translate (.default 0) tree [] = .ok doc ∧ variablesEndAt "String" doc = true :=
    ok_of_any (by decide +kernel)
  refine ⟨tree, doc, hresolve, hdistinct, hdoc, hstrings, fun hu => ?_⟩
  obtain ⟨p, -, rfl, -, hall, -⟩ := translate_faithful hresolve hdistinct hdoc
  have hleaf : leaf ∈ tree.nodes := by simp [tree, Tree.nodes, Module.nodes, Node.allIn, Node.all, node, leaf]
  obtain ⟨r, t, name, d, base, dt, rank, hk, -, hget, hcontent, hs⟩ := hall hu leaf hleaf (some numbers) (Or.inl rfl)
  cases hk
  obtain ⟨b, hb, hends⟩ := hs.ends
  cases hb
  have := endsAt_unique hends (endsAt_of_variablesEndAt hstrings hget hcontent)
  exact absurd (congrArg SymbolicName.name this) (by decide)

end YangDesign.Translate
