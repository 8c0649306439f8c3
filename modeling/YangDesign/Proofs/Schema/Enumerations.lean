/-
The numbers of the labels of an enumeration.

`Numbers` says it with a rule for the labels without a value of their own, which looks at the labels before them: one more
than the largest (`nextValue`). `numberEnums` carries a running number along instead, which starts at 0 and only grows, and so
it follows the rule `nextFromZero` (`numbers_numberEnums`). The two rules differ after labels that all have values below -1
(`resolveEnums_numbers`).

A reference that lists labels for a typedef has them numbered in the same way, whatever the typedef gives them. Each type of
a tree therefore has the labels of its base, or labels that a reference of the document lists (`TypeDef.Relabels`), and
`Document.resolve_relabels` tells when the latter are labels of the base with the values that they have there.
-/
import YangDesign.Proofs.Schema.WellFormed

namespace YangDesign.Schema

/-! ## Rules -/

/-- one more than the largest value of some labels, and 0 after none -/
def nextValue (before : List EnumValue) : Int :=
  match (before.map (·.value)).max? with
  | none => 0
  | some largest => largest + 1

/-- one more than the largest value of some labels, and not below 0 -/
def nextFromZero (before : List EnumValue) : Int :=
  max 0 (nextValue before)

/-- labels in the order of their declarations: a given value is kept, and a rule finds any other from the labels before it -/
structure Numbers (rule : List EnumValue → Int) (es : List EnumDecl) (vs : List EnumValue) : Prop where
  length : vs.length = es.length
  label : ∀ (i : Nat) (e : EnumDecl), es[i]? = some e → vs[i]? = some ⟨e.name, e.value.getD (rule (vs.take i)), e.description⟩

theorem nextFromZero_nonneg (before : List EnumValue) : 0 ≤ nextFromZero before :=
  le_max_left 0 _

/-- it is the least number from 0 on that is above all values -/
theorem nextFromZero_le_iff {before : List EnumValue} {n : Int} :
    nextFromZero before ≤ n ↔ 0 ≤ n ∧ ∀ v ∈ before, v.value < n := by
  unfold nextFromZero
  rw [max_le_iff, and_congr_right_iff]
  intro hn
  unfold nextValue
  split
  · rename_i h
    rw [List.max?_eq_none_iff, List.map_eq_nil_iff] at h
    simp [h, hn]
  · rename_i largest h
    obtain ⟨hmem, hle⟩ := List.max?_eq_some_iff.1 h
    obtain ⟨w, hw, rfl⟩ := List.mem_map.1 hmem
    constructor
    · intro hlargest v hv
      have hvw := hle _ (List.mem_map_of_mem hv)
      omega
    · intro hall
      have hwn := hall w hw
      omega

/-- one label more raises the number to what follows its value -/
theorem nextFromZero_concat (before : List EnumValue) (v : EnumValue) :
    nextFromZero (before ++ [v]) = max (nextFromZero before) (v.value + 1) := by
  refine eq_of_forall_ge_iff fun n => ?_
  rw [max_le_iff, nextFromZero_le_iff, nextFromZero_le_iff, List.forall_mem_append, List.forall_mem_singleton]
  have hlt : v.value < n ↔ v.value + 1 ≤ n := Int.lt_iff_add_one_le
  rw [hlt, and_assoc]

/-- the rules agree where nothing stands before, or some value of at least -1 -/
theorem nextFromZero_eq_nextValue_iff {before : List EnumValue} :
    nextFromZero before = nextValue before ↔ before = [] ∨ ∃ v ∈ before, -1 ≤ v.value := by
  unfold nextFromZero
  rw [max_eq_right_iff]
  unfold nextValue
  split
  · rename_i h
    rw [List.max?_eq_none_iff, List.map_eq_nil_iff] at h
    simp [h]
  · rename_i largest h
    obtain ⟨hmem, hle⟩ := List.max?_eq_some_iff.1 h
    obtain ⟨w, hw, rfl⟩ := List.mem_map.1 hmem
    constructor
    · intro hnonneg
      exact .inr ⟨w, hw, by omega⟩
    · rintro (rfl | ⟨v, hv, hge⟩)
      · cases hw
      · have hvw := hle _ (List.mem_map_of_mem hv)
        omega

/-! ## The running number -/

theorem length_numberEnums (next : Int) (es : List EnumDecl) : (numberEnums next es).length = es.length := by
  induction es generalizing next with
  | nil => rfl
  | cons e es ih => simp [numberEnums, ih]

/-- the running number after some labels is what the rule finds for them -/
theorem numberEnums_label (es : List EnumDecl) (before : List EnumValue) {i : Nat} {e : EnumDecl} (h : es[i]? = some e) :
    (numberEnums (nextFromZero before) es)[i]? =
      some ⟨e.name, e.value.getD (nextFromZero (before ++ (numberEnums (nextFromZero before) es).take i)), e.description⟩ := by
  induction es generalizing before i with
  | nil => cases h
  | cons e' es ih =>
    unfold numberEnums
    cases i with
    | zero =>
      cases h
      simp
    | succ i =>
      rw [List.getElem?_cons_succ] at h ⊢
      have hnext := ih (before ++ [⟨e'.name, e'.value.getD (nextFromZero before), e'.description⟩]) h
      rw [nextFromZero_concat] at hnext
      rw [hnext, List.take_succ_cons, List.append_assoc, List.singleton_append]

/-- **Numbering follows the rule from 0.** -/
theorem numbers_numberEnums (es : List EnumDecl) : Numbers nextFromZero es (numberEnums 0 es) where
  length := length_numberEnums 0 es
  label := fun _ _ h => numberEnums_label es [] h

/-- some label before has a value of at least -1 exactly if one was declared with such a value or with none -/
theorem Numbers.exists_before_iff {es : List EnumDecl} {vs : List EnumValue} (h : Numbers nextFromZero es vs) (i : Nat) :
    (∃ v ∈ vs.take i, -1 ≤ v.value) ↔ ∃ e ∈ es.take i, ∀ n, e.value = some n → -1 ≤ n := by
  have hlength := h.length
  constructor
  · rintro ⟨v, hv, hge⟩
    obtain ⟨j, hj, rfl⟩ := List.mem_take_iff_getElem.1 hv
    have hlabel := h.label j _ (List.getElem?_eq_getElem (by omega))
    rw [List.getElem?_eq_getElem (by omega), Option.some.injEq] at hlabel
    refine ⟨es[j], List.mem_take_iff_getElem.2 ⟨j, by omega, rfl⟩, fun n hn => ?_⟩
    rw [hlabel, hn] at hge
    exact hge
  · rintro ⟨e, he, hgiven⟩
    obtain ⟨j, hj, rfl⟩ := List.mem_take_iff_getElem.1 he
    have hlabel := h.label j _ (List.getElem?_eq_getElem (by omega))
    rw [List.getElem?_eq_getElem (by omega), Option.some.injEq] at hlabel
    refine ⟨vs[j], List.mem_take_iff_getElem.2 ⟨j, by omega, rfl⟩, ?_⟩
    rw [hlabel]
    cases hvalue : es[j].value with
    | none =>
      have hnonneg := nextFromZero_nonneg (vs.take j)
      simp only [Option.getD_none]
      omega
    | some n => exact hgiven n hvalue

/-- **Labels are numbered from left to right.** Distinct labels are all kept, in order, each with its given value or with one
more than the largest before it, but not below 0. That is one more than the largest before it for all of them exactly if each
label without a value is the first or comes after one that has none either or at least -1. -/
theorem resolveEnums_numbers (path : List String) {es : List EnumDecl} (h : (es.map (·.name)).Nodup) :
    ∃ vs, resolveEnums path es = .ok vs ∧ Numbers nextFromZero es vs ∧
      (Numbers nextValue es vs ↔ ∀ i e, es[i]? = some e → e.value = none →
        i = 0 ∨ ∃ e' ∈ es.take i, ∀ n, e'.value = some n → -1 ≤ n) := by
  have hnumbers := numbers_numberEnums es
  have hnone : repeatedLabel? [] es = none := repeatedLabel?_eq_none_iff.2 ⟨h, by simp⟩
  refine ⟨numberEnums 0 es, by rw [resolveEnums, hnone], hnumbers, ?_⟩
  have htake : ∀ i e, es[i]? = some e → ((numberEnums 0 es).take i = [] ↔ i = 0) := by
    intro i e he
    have hlt := (List.getElem?_eq_some_iff.1 he).1
    have hlength := hnumbers.length
    rw [List.take_eq_nil_iff, ← List.length_eq_zero_iff]
    omega
  -- a label without a value is the only place where the rule is asked
  have hsame : ∀ i e, es[i]? = some e →
      (nextFromZero ((numberEnums 0 es).take i) = nextValue ((numberEnums 0 es).take i) ↔
        i = 0 ∨ ∃ e' ∈ es.take i, ∀ n, e'.value = some n → -1 ≤ n) := by
    intro i e he
    rw [nextFromZero_eq_nextValue_iff, htake i e he, hnumbers.exists_before_iff]
  constructor
  · intro hvalues i e he hnone
    have heq := (hnumbers.label i e he).symm.trans (hvalues.label i e he)
    rw [hnone] at heq
    refine (hsame i e he).1 ?_
    simpa using heq
  · intro hbefore
    refine ⟨hnumbers.length, fun i e he => ?_⟩
    rw [hnumbers.label i e he]
    cases hvalue : e.value with
    | none =>
      have heq := (hsame i e he).2 (hbefore i e he hvalue)
      rw [Option.getD_none, Option.getD_none, heq]
    | some n => rfl

/-- a label without a value after one at -5 has 0, and not -4 -/
theorem resolveEnums_below_zero :
    resolveEnums ["t"] [⟨"low", some (-5), none⟩, ⟨"up", none, none⟩] = .ok [⟨"low", -5, none⟩, ⟨"up", 0, none⟩] ∧
    nextValue [⟨"low", -5, none⟩] = -4 ∧
    ¬ Numbers nextValue [⟨"low", some (-5), none⟩, ⟨"up", none, none⟩] [⟨"low", -5, none⟩, ⟨"up", 0, none⟩] := by
  have hdistinct : ([⟨"low", some (-5), none⟩, ⟨"up", none, none⟩] : List EnumDecl).map (·.name) |>.Nodup := by decide
  obtain ⟨vs, hvs, -, hiff⟩ := resolveEnums_numbers ["t"] hdistinct
  have heq : vs = [⟨"low", -5, none⟩, ⟨"up", 0, none⟩] := Except.ok.inj (hvs.symm.trans rfl)
  subst heq
  refine ⟨rfl, rfl, fun hvalues => ?_⟩
  obtain hzero | ⟨e, he, hge⟩ := hiff.1 hvalues 1 _ rfl rfl
  · cases hzero
  · obtain rfl := List.mem_singleton.1 he
    exact absurd (hge (-5) rfl) (by decide)

/-! ## Restrictions -/

/-- every label of a type is one of another, with the same value -/
def TypeDef.Restricts (t b : TypeDef) : Prop :=
  ∀ e ∈ t.enums, ∃ e' ∈ b.enums, e'.name = e.name ∧ e'.value = e.value

/-- a type has the labels of its base, or a reference to the base lists its labels, and they are numbered afresh -/
inductive TypeDef.Relabels (P : TypeRef → Prop) (t b : TypeDef) : Prop where
  | inherits : t.enums = b.enums → Relabels P t b
  | lists {ref : TypeRef} {es : List EnumDecl} : P ref → ref.enums = some es → es ≠ [] →
    (Text.splitQualified ref.name).2 = b.name.localName → Numbers nextFromZero es t.enums → Relabels P t b

theorem TypeDef.restricts_of_enums_eq {t b : TypeDef} (h : t.enums = b.enums) : t.Restricts b :=
  fun e he => ⟨e, h ▸ he, rfl, rfl⟩

/-- labels of their own restrict a base exactly if it has them with the values that they come to have -/
theorem restricts_iff_of_numbers {rule : List EnumValue → Int} {es : List EnumDecl} {t b : TypeDef}
    (h : Numbers rule es t.enums) : t.Restricts b ↔ ∀ (i : Nat) (e : EnumDecl), es[i]? = some e →
      ∃ e' ∈ b.enums, e'.name = e.name ∧ e'.value = e.value.getD (rule (t.enums.take i)) := by
  constructor
  · intro hall i e he
    exact hall _ (List.mem_of_getElem? (h.label i e he))
  · intro hall v hv
    obtain ⟨i, hi⟩ := List.mem_iff_getElem?.1 hv
    have hlt : i < es.length := h.length ▸ (List.getElem?_eq_some_iff.1 hi).1
    have he := List.getElem?_eq_getElem hlt
    have hlabel := h.label i _ he
    rw [hi] at hlabel
    cases hlabel
    exact hall i _ he

theorem Innermost.name {name : String} {scope s : Scope} {t : TypedefDecl} (h : Innermost name scope t s) :
    t.name = name := by
  induction h with
  | here _ hname => exact hname
  | outer _ _ ih => exact ih

/-- a name stands for a typedef of its local name -/
theorem Surroundings.Binds.name {env : Surroundings} {name uri : String} {scope : Scope} {x : Declaration}
    (h : env.Binds name uri scope x) : x.typedef.name = (Text.splitQualified name).2 := by
  obtain ⟨path, h⟩ := h
  rcases Surroundings.typedefOf_eq_ok_iff.1 h with ⟨-, hx, -⟩ | ⟨-, hx, -⟩
  · exact (innermost_of_lookUp hx).name
  · exact (innermost_of_lookUp hx).name

/-- the types of a chain relabel their bases -/
def TypeDef.ChainRelabels (P : TypeRef → Prop) (t : TypeDef) : Prop :=
  ∀ u ∈ t.chain, ∀ b, u.base = some b → u.Relabels P b

section Relabels

variable {P : TypeRef → Prop} {t b : TypeDef}

theorem TypeDef.ChainRelabels.derive (hb : b.ChainRelabels P) (hbase : t.base = some b) (h : t.Relabels P b) :
    t.ChainRelabels P := by
  intro u hu c hc
  rw [TypeDef.chain_of_some hbase, List.mem_cons] at hu
  rcases hu with rfl | hu
  · obtain rfl : b = c := Option.some.inj (hbase.symm.trans hc)
    exact h
  · exact hb u hu c hc

theorem TypeDef.ChainRelabels.over {inner : TypeDef} (h : inner.ChainRelabels P) (x : Declaration) :
    (x.over inner).ChainRelabels P :=
  h.derive rfl (.inherits rfl)

theorem chainRelabels_of_denotes {env : Surroundings} (henv : env.RefsOf P) {ref : TypeRef} {uri : String}
    {owner : List String} {scope : Scope} (hscope : scope.RefsOf P) (href : P ref)
    (h : Denotes env.Binds ref uri owner scope t) : t.ChainRelabels P := by
  induction h with
  | builtIn =>
    intro u hu b hb
    rw [TypeDef.chain_of_none rfl, List.mem_singleton] at hu
    subst hu
    cases hb
  | @typedef ref uri owner scope x inner enums _ hx _ henums _ ih =>
    have hname := hx.name
    obtain ⟨hxref, hxscope⟩ := forall_of_binds henv hscope hx
    have hover := (ih hxscope hxref).over x
    unfold TypeRef.refine
    split
    · exact hover
    · refine hover.derive rfl ?_
      cases hes : ref.enums with
      | none =>
        rw [hes] at henums
        cases henums
        exact .inherits rfl
      | some es =>
        rw [hes, Option.getD_some] at henums
        by_cases hnil : es = []
        · subst hnil
          cases henums
          exact .inherits rfl
        · have hne : enums.isEmpty = false := by
            have hempty := (nodup_of_resolveEnums henums).2
            simpa [hempty] using hnil
          have hvalues : enums = numberEnums 0 es := by
            unfold resolveEnums at henums
            split at henums
            · cases henums
            · exact (Except.ok.inj henums).symm
          refine .lists href hes hnil hname.symm ?_
          dsimp only
          rw [hne, if_neg (by simp), hvalues]
          exact numbers_numberEnums es

end Relabels

/-- **Restricted enumerations are inherited or numbered afresh.** A type of a tree has the labels of its base with their
values, or those that a reference of the document lists for the base, numbered like a new enumeration. These are labels of the
base with the values that they have there exactly if the base has each label that is listed, with the value that it is given
or, without one, with the number that comes next in the list. -/
theorem Document.resolve_relabels {d : Document} {t : Tree} (h : d.resolve = .ok t) :
    ∀ u ∈ t.types, ∀ b, u.base = some b → (u.enums = b.enums ∧ u.Restricts b) ∨
      ∃ ref ∈ d.typeRefs, ∃ es, ref.enums = some es ∧ es ≠ [] ∧ (Text.splitQualified ref.name).2 = b.name.localName ∧
        Numbers nextFromZero es u.enums ∧
        (u.Restricts b ↔ ∀ (i : Nat) (e : EnumDecl), es[i]? = some e →
          ∃ e' ∈ b.enums, e'.name = e.name ∧ e'.value = e.value.getD (nextFromZero (u.enums.take i))) := by
  obtain ⟨env, -, henv, hnodes⟩ := Document.madeOf_resolve (fun m hm => Document.refsIn_typeRefs hm) h
  have hmade : ∀ u, env.Makes (· ∈ d.typeRefs) u → u.ChainRelabels (· ∈ d.typeRefs) := by
    intro u hu
    cases hu with
    | use href hscope hdenotes => exact chainRelabels_of_denotes henv hscope href hdenotes
    | @typedef x inner href hscope hdenotes => exact (chainRelabels_of_denotes henv hscope href hdenotes).over x
  intro u hu b hb
  obtain ⟨n, hn, hun⟩ := List.mem_flatMap.1 hu
  unfold Node.types at hun
  split at hun
  · rename_i r hr
    cases hmade r ((hnodes n hn).types r hr) u hun b hb with
    | inherits heq => exact .inl ⟨heq, TypeDef.restricts_of_enums_eq heq⟩
    | lists href hes hne hname hnumbers =>
      exact .inr ⟨_, href, _, hes, hne, hname, hnumbers, restricts_iff_of_numbers hnumbers⟩
  · cases hun

/-- a typedef with two labels, and a leaf that lists the second one alone -/
def narrowedSchema : Value :=
  let label := fun (name : String) (more : List (Value × Value)) => Value.map ((.text "name", .text name) :: more)
  .map [(.text "modules", .list [.map [(.text "name", .text "m"), (.text "namespace", .text "urn:m"),
    (.text "prefix", .text "m"), (.text "statements", .list [
      .map [(.text "kind", .text "typedef"), (.text "name", .text "status"),
        (.text "type", .map [(.text "name", .text "enumeration"), (.text "enums", .list [
          label "up" [(.text "value", .int 1)], label "down" [(.text "value", .int 2)]])])],
      .map [(.text "kind", .text "leaf"), (.text "name", .text "x"),
        (.text "type", .map [(.text "name", .text "status"), (.text "enums", .list [label "down" []])])]])]])]

/-- its document -/
def narrowed : Document :=
  ⟨[⟨"m", "urn:m", "m", none, [
    .named "status" none (.typedef (.mk "enumeration" (some [⟨"up", some 1, none⟩, ⟨"down", some 2, none⟩]) none)) [],
    .named "x" none (.leaf ⟨"status", some [⟨"down", none, none⟩], none⟩) []]⟩]⟩

/-- the leaf numbers its label 0, which has 2 in the typedef -/
theorem narrowed_renumbered : Document.check narrowedSchema = .ok narrowed ∧ ∃ t, narrowed.resolve = .ok t ∧
    ∃ u ∈ t.types, ∃ b, u.base = some b ∧ u.kind = .builtIn .enumeration ∧ u.enums = [⟨"down", 0, none⟩] ∧
      b.enums = [⟨"up", 1, none⟩, ⟨"down", 2, none⟩] ∧ ¬ u.Restricts b := by
  have hcheck : Document.check narrowedSchema = .ok narrowed := rfl
  let shown := fun (t : Tree) => t.types.map fun u => (u.path, u.kind, u.enums, u.base.map fun b => (b.name, b.enums))
  let both : List EnumValue := [⟨"up", 1, none⟩, ⟨"down", 2, none⟩]
  have hshown : narrowed.resolve.map shown = .ok [
      (["status"], .builtIn .enumeration, both, some (⟨"urn:m", "enumeration"⟩, both)),
      (["status", "enumeration"], .builtIn .enumeration, both, none),
      (["x", "status"], .builtIn .enumeration, [⟨"down", 0, none⟩], some (⟨"urn:m", "status"⟩, both)),
      (["status"], .builtIn .enumeration, both, some (⟨"urn:m", "enumeration"⟩, both)),
      (["status", "enumeration"], .builtIn .enumeration, both, none)] := rfl
  cases h : narrowed.resolve with
  | error e =>
    rw [h] at hshown
    cases hshown
  | ok t =>
    rw [h] at hshown
    have hmem : (["x", "status"], Kind.builtIn .enumeration, [⟨"down", 0, none⟩], some (⟨"urn:m", "status"⟩, both)) ∈
        shown t := by
      rw [Except.ok.inj hshown]
      simp
    obtain ⟨u, hu, heq⟩ := List.mem_map.1 hmem
    simp only [Prod.mk.injEq] at heq
    obtain ⟨-, hkind, henums, hbase⟩ := heq
    obtain ⟨b, hb, hboth⟩ := Option.map_eq_some_iff.1 hbase
    obtain ⟨hname, hbenums⟩ := Prod.mk.inj hboth
    refine ⟨hcheck, t, rfl, u, hu, b, hb, hkind, henums, hbenums, ?_⟩
    rcases Document.resolve_relabels h u hu b hb with ⟨hinherits, -⟩ | ⟨ref, href, es, hes, -, hlocal, -, hiff⟩
    · rw [henums, hbenums] at hinherits
      simp [both] at hinherits
    · rw [hname] at hlocal
      have hrefs : narrowed.typeRefs = [⟨"enumeration", some [⟨"up", some 1, none⟩, ⟨"down", some 2, none⟩], none⟩,
        ⟨"status", some [⟨"down", none, none⟩], none⟩] := rfl
      rw [hrefs, List.mem_pair] at href
      rcases href with rfl | rfl
      · exact absurd hlocal (by decide)
      · cases hes
        intro hrestricts
        obtain ⟨e', he', hdown, hvalue⟩ := hiff.1 hrestricts 0 _ rfl
        rw [hbenums, List.mem_pair] at he'
        rcases he' with rfl | rfl
        · exact absurd hdown (by decide)
        · cases hvalue

end YangDesign.Schema
