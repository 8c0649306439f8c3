/-
The failures of a translation.

A schema that passed its checks and was resolved is refused for three reasons only: a statement has no translation where it
stands, an identity has several bases, or the names of two owners are spelled alike (`translate_or_refuse`). No name of such a
schema fails to be a symbol, since the parts of paths have the characters of identifiers (`isSymbol_spelling`); all other
failures are ruled out by the invariant of the translation.
-/
import YangDesign.Proofs.Schema.Spelling
import YangDesign.Proofs.Translate.Runs

namespace YangDesign.Translate

open Design Instance Schema

/-! ## Symbols -/

theorem isAlphanum_lt {c : Char} (h : c.isAlphanum = true) : c.toNat < 128 := by
  have hcases : (c.isUpper || c.isLower || c.isDigit) = true := h
  rw [Bool.or_eq_true, Bool.or_eq_true] at hcases
  rcases hcases with (hupper | hlower) | hdigit
  · exact Nat.lt_of_le_of_lt (show c.toNat ≤ 90 from (of_decide_eq_true hupper).2) (by decide)
  · have hrange : (decide (97 ≤ c.val.toNat) && decide (c.val.toNat ≤ 122)) = true := hlower
    rw [Bool.and_eq_true, decide_eq_true_eq, decide_eq_true_eq] at hrange
    exact Nat.lt_of_le_of_lt hrange.2 (by decide)
  · rw [Char.isDigit, Bool.and_eq_true, decide_eq_true_eq, decide_eq_true_eq] at hdigit
    exact Nat.lt_of_le_of_lt (show c.toNat ≤ 57 from hdigit.2) (by decide)

/-- characters of identifiers are spelled with characters of symbols -/
theorem isSymbolPart_of_spell {c d : Char} (hc : Text.isNamePart c = true) (hd : d ∈ spell c) :
    (Text.isWordChar d || d == '_') = true := by
  unfold spell at hd
  split at hd
  · have : d = '_' := by simpa using hd
    subst this
    decide
  · split at hd
    · have : d = '_' := by simpa using hd
      subst this
      decide
    · rename_i h1 h2
      obtain rfl := List.mem_singleton.1 hd
      simp only [Text.isNamePart, Bool.or_eq_true, beq_iff_eq, h1, h2, or_false] at hc
      rcases hc with hc | hc
      · rw [Text.isWordChar, if_pos (isAlphanum_lt hc), hc]
        rfl
      · subst hc
        decide

theorem isNameText_of_all {s : String} (h : s.toList.all Text.isNamePart = true) : IsNameText s :=
  List.all_eq_true.1 h

theorem isNameText_append {s t : String} (hs : IsNameText s) (ht : IsNameText t) : IsNameText (s ++ t) := by
  intro c hc
  rw [String.toList_append] at hc
  exact (List.mem_append.1 hc).elim (hs c) (ht c)

theorem isNameText_toString (i : Nat) : IsNameText (toString i) := by
  intro c hc
  rw [Nat.toString_eq_ofList_toDigits, String.toList_ofList] at hc
  have hd : c.isDigit = true := Nat.isDigit_of_mem_toDigits (b := 10) (by decide) (by decide) hc
  simp [Text.isNamePart, Char.isAlphanum, hd]

theorem isNameText_intercalate {parts : List String} (h : ∀ part ∈ parts, IsNameText part) :
    IsNameText ("___".intercalate parts) := by
  induction parts with
  | nil =>
    rw [String.intercalate_nil]
    intro c hc
    simp at hc
  | cons part parts ih =>
    obtain ⟨hpart, hparts⟩ := List.forall_mem_cons.1 h
    cases parts with
    | nil =>
      rw [String.intercalate_singleton]
      exact hpart
    | cons next parts =>
      rw [String.intercalate_cons_cons]
      exact isNameText_append (isNameText_append hpart (isNameText_of_all (by decide))) (ih hparts)

theorem isNameText_purpose (q : Purpose) : IsNameText q.text := by
  cases q with
  | type r => exact isNameText_of_all (by cases r <;> decide)
  | container => exact isNameText_of_all (by decide)
  | element i => exact isNameText_append (isNameText_of_all (by decide)) (isNameText_toString i)

/-- names of owners whose paths have the characters of identifiers are spelled from such characters, after a letter -/
theorem spelling_of_isNameText {o : Owner} (h : ∀ part ∈ o.path, IsNameText part) (n : Namer) {role : String}
    (hrole : IsNameText role) : ∃ rest, IsNameText rest ∧ (n.spelling o role).toList = 'n' :: rest.toList.flatMap spell := by
  refine ⟨"s" ++ toString (n.namespaces.idxOf o.namespaceUri) ++ "__" ++ "___".intercalate o.path ++ role, ?_, ?_⟩
  · have hfirst : IsNameText "s" := isNameText_of_all (by decide)
    have hbetween : IsNameText "__" := isNameText_of_all (by decide)
    exact isNameText_append (isNameText_append (isNameText_append (isNameText_append hfirst (isNameText_toString _))
      hbetween) (isNameText_intercalate h)) hrole
  · rw [Namer.spelling, symbolText, String.toList_ofList]
    simp [numberedPrefix, String.toList_append, spell]

/-- names of owners whose paths have the characters of identifiers are symbols -/
theorem isSymbol_spelling {o : Owner} (h : ∀ part ∈ o.path, IsNameText part) (n : Namer) (q : Purpose) :
    Text.isSymbol (n.spelling o q.text) = true := by
  obtain ⟨rest, hrest, hlist⟩ := spelling_of_isNameText h n (isNameText_purpose q)
  rw [Text.isSymbol, hlist, Text.hasShape, Bool.and_eq_true, List.all_eq_true]
  refine ⟨by decide, fun d hd => ?_⟩
  obtain ⟨c, hc, hd⟩ := List.mem_flatMap.1 hd
  exact isSymbolPart_of_spell (hrest c hc) hd

/-- the names that a checked and resolved schema makes are symbols -/
theorem isSymbol_of_owns {v : Value} {d : Document} {tree : Tree} (hcheck : Document.check v = .ok d)
    (hresolve : d.resolve = .ok tree) {o : Owner} (ho : tree.Owns o) (n : Namer) (q : Purpose) :
    Text.isSymbol (n.spelling o q.text) = true := by
  have hpaths := (Document.resolved hresolve (Document.namesOf_of_check hcheck)).2
  refine isSymbol_spelling ?_ n q
  rcases ho with ⟨x, hx, hk, rfl⟩ | ⟨u, hu, rfl⟩
  · exact (hpaths x hx).path hk
  · obtain ⟨x, hx, hux⟩ := List.mem_flatMap.1 hu
    unfold Node.types at hux
    split at hux
    · rename_i t ht
      exact ((hpaths x hx).types t ht u hux).2
    · cases hux

/-! ## The reasons for a refusal -/

/-- two owners whose names are spelled alike for some purposes, once their namespaces have numbers -/
def SpelledAlike (o o' : Owner) (name : String) : Prop :=
  ∃ (n : Namer) (q q' : Purpose), n.spelling o q.text = name ∧ n.spelling o' q'.text = name

/-- **Failures of a translation.** A checked and resolved schema is translated, whatever the settings and the data, or it is
refused for one of three reasons: a statement has no translation at its place, at the top of a module or below another node;
an identity has several bases; two different owners of names are spelled alike. -/
theorem translate_or_refuse {v : Value} {d : Document} {tree : Tree} (hcheck : Document.check v = .ok d)
    (hresolve : d.resolve = .ok tree) (s : Settings) (data : List DataNode) :
    (∃ doc, translate s tree data = .ok doc) ∨
    (∃ m ∈ tree.modules, ∃ n ∈ m.statements, n.kind.isForeignAtTop = true ∧
      translate s tree data = .error (.untranslatable (.statement n.kind.word) n.head.path)) ∨
    (∃ n ∈ tree.nodes, ∃ c ∈ n.children, c.kind.isForeignBelow = true ∧
      translate s tree data = .error (.untranslatable (.child c.kind.word) c.head.path)) ∨
    (∃ i ∈ tree.topIdentities, 1 < i.bases.length ∧
      translate s tree data = .error (.untranslatable (.multipleBases i.head.name.localName) i.head.path)) ∨
    ∃ o o' name, tree.Owns o ∧ tree.Owns o' ∧ o ≠ o' ∧ SpelledAlike o o' name ∧
      translate s tree data = .error (.untranslatable (.clash name o.path o'.path) o.path) := by
  cases hresult : translate s tree data with
  | ok doc => exact Or.inl ⟨doc, rfl⟩
  | error e =>
    obtain ⟨p, hrun⟩ := translate_eq_error_iff.1 hresult
    right
    cases run_refusal (Document.resolve_resolved hresolve) hrun with
    | statement hm hn hk => exact Or.inl ⟨_, hm, _, hn, hk, rfl⟩
    | child hn hc hk => exact Or.inr (Or.inl ⟨_, hn, _, hc, hk, rfl⟩)
    | multipleBases hi hlen => exact Or.inr (Or.inr (Or.inl ⟨_, hi, hlen, rfl⟩))
    | clash ho ho' hne hspell => exact Or.inr (Or.inr (Or.inr ⟨_, _, _, ho, ho', hne.symm, ⟨_, _, _, rfl, hspell⟩, rfl⟩))
    | notSymbol ho hs =>
      rw [isSymbol_of_owns hcheck hresolve ho] at hs
      cases hs

/-- a schema in which the identity `c` has the bases `a` and `b` -/
def twoBases : Value :=
  let identity := fun (name : String) (members : List (Value × Value)) =>
    Value.map ((.text "kind", .text "identity") :: (.text "name", .text name) :: members)
  .map [(.text "modules", .list [.map [(.text "name", .text "m"), (.text "namespace", .text "urn:m"),
    (.text "prefix", .text "m"), (.text "statements", .list [identity "a" [], identity "b" [],
      identity "c" [(.text "bases", .list [.text "a", .text "b"])]])]])]

theorem twoBases_refused : ∃ d tree, Document.check twoBases = .ok d ∧ d.resolve = .ok tree ∧
    ∃ i ∈ tree.topIdentities, 1 < i.bases.length ∧ translate (.default 0) tree [] =
      .error (.untranslatable (.multipleBases i.head.name.localName) i.head.path) := by
  let d : Document := ⟨[⟨"m", "urn:m", "m", none, [.named "a" none (.identity []) [], .named "b" none (.identity []) [],
    .named "c" none (.identity ["a", "b"]) []]⟩]⟩
  let node := fun (name : String) (bases : List String) =>
    Node.mk ⟨⟨"urn:m", name⟩, [name], none⟩ (.identity (bases.map (QName.mk "urn:m"))) []
  let tree : Tree := ⟨[⟨"m", "urn:m", "m", [node "a" [], node "b" [], node "c" ["a", "b"]], none⟩]⟩
  have hcheck : Document.check twoBases = .ok d := rfl
  have hresolve : d.resolve = .ok tree := rfl
  have of_matches : ∀ (r : Except Failure ModelDocument) (f : Failure),
      (match r with | .ok _ => false | .error e => decide (e = f)) = true → r = .error f := by
    rintro (e | doc) f h
    · rw [of_decide_eq_true h]
    · cases h
  have hrun : translate (.default 0) tree [] = .error (.untranslatable (.multipleBases "c") ["c"]) :=
    of_matches _ _ (by decide +kernel)
  refine ⟨d, tree, hcheck, hresolve, ?_⟩
  rcases translate_or_refuse hcheck hresolve (.default 0) [] with ⟨_, h⟩ | ⟨_, _, _, _, _, h⟩ | ⟨_, _, _, _, _, h⟩ | h |
    ⟨_, _, _, _, _, _, _, h⟩
  · cases hrun.symm.trans h
  · cases hrun.symm.trans h
  · cases hrun.symm.trans h
  · exact h
  · cases hrun.symm.trans h

end YangDesign.Translate
