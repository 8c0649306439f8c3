/-
Names that a namer has given out.

`Gave n o role s`: the namer gave the name `s` to the owner `o` for a role. A name has one owner, an owner has one name for a
role, and the names of one owner for two roles of types differ. What a namer gave it gives again, however many names it has
given out since (`Gave.mono`).
-/
import Mathlib.Tactic
import YangDesign.Translate.Naming
import YangDesign.Translate.Registry

namespace YangDesign.Translate

open Design

/-! ## Roles -/

/-- the parts a type of the design can play for the node it is made for -/
inductive TypeRole where
  | identity
  | dataType
  | container
  | list
  | element
  | reference
  | leaf
  | leafList
  | choice
  | case
  deriving DecidableEq, Repr

namespace TypeRole

/-- the role in names -/
def text : TypeRole → String
  | .identity => ""
  | .dataType => "DataType"
  | .container => "ContainerType"
  | .list => "ListType"
  | .element => "ListElementType"
  | .reference => "ListElementReferenceType"
  | .leaf => "LeafType"
  | .leafList => "LeafListType"
  | .choice => "ChoiceType"
  | .case => "CaseType"

/-- the family in which types of the role are registered -/
def family : TypeRole → Family
  | .identity => .identity
  | .dataType => .dataType
  | .reference => .referenceType
  | .leaf | .leafList => .variableType
  | _ => .objectType

end TypeRole

/-- what a definition stands for: a type in a role, the object of a container, the object of an entry of a list -/
inductive Purpose where
  | type (role : TypeRole)
  | container
  | element (i : Nat)
  deriving DecidableEq, Repr

/-- the purpose in names -/
def Purpose.text : Purpose → String
  | .type r => r.text
  | .container => "ContainerInstance"
  | .element i => "ElementInstance" ++ toString i

/-! ## Spelling -/

theorem symbolText_append (s t : String) : symbolText (s ++ t) = symbolText s ++ symbolText t := by
  simp [symbolText, String.ofList_append]

/-- whether a text is spelled as it stands -/
def isPlain (s : String) : Bool :=
  s.toList.all fun c => c != '-' && c != '.'

theorem symbolText_eq_self {s : String} (h : isPlain s = true) : symbolText s = s := by
  have : s.toList.flatMap spell = s.toList.flatMap fun c => [c] := by
    refine List.flatMap_congr fun c hc => ?_
    have hplain := List.all_eq_true.1 h c hc
    rw [Bool.and_eq_true, bne_iff_ne, bne_iff_ne] at hplain
    simp [spell, hplain.1, hplain.2]
  rw [symbolText, this, List.flatMap_singleton', String.ofList_toList]

theorem isPlain_toString (i : Nat) : isPlain (toString i) = true := by
  rw [isPlain, Nat.toString_eq_ofList_toDigits, String.toList_ofList, List.all_eq_true]
  intro c hc
  have hd : c.isDigit = true := Nat.isDigit_of_mem_toDigits (b := 10) (by decide) (by decide) hc
  rw [Bool.and_eq_true, bne_iff_ne, bne_iff_ne]
  constructor <;> rintro rfl <;> exact absurd hd (by decide)

theorem symbolText_purpose (q : Purpose) : symbolText q.text = q.text := by
  refine symbolText_eq_self ?_
  cases q with
  | type r => cases r <;> decide
  | container => decide
  | element i =>
    have hfirst : isPlain "ElementInstance" = true := by decide
    rw [isPlain, Purpose.text, String.toList_append, List.all_append, Bool.and_eq_true]
    exact ⟨hfirst, isPlain_toString i⟩

theorem toString_injective {i j : Nat} (h : toString i = toString j) : i = j := by
  rw [Nat.toString_eq_ofList_toDigits, Nat.toString_eq_ofList_toDigits, String.ofList_inj] at h
  rw [← Nat.ofDigitChars_ten_toDigits (n := i), h, Nat.ofDigitChars_ten_toDigits]

/-- the digits of a number are told from what follows by the character after them -/
theorem numberedPrefix_append_inj {i j : Nat} {s t : String} (h : numberedPrefix i ++ s = numberedPrefix j ++ t) :
    i = j ∧ s = t := by
  have hdigits : ∀ (n : Nat) (rest : List Char),
      (Nat.toDigits 10 n ++ '_' :: rest).takeWhile Char.isDigit = Nat.toDigits 10 n := by
    intro n rest
    have hall : ∀ c ∈ Nat.toDigits 10 n, c.isDigit = true := fun c hc =>
      Nat.isDigit_of_mem_toDigits (b := 10) (by decide) (by decide) hc
    rw [List.takeWhile_append_of_pos hall]
    simp
  have hlist : ∀ (n : Nat) (s : String),
      (numberedPrefix n ++ s).toList = 'n' :: 's' :: (Nat.toDigits 10 n ++ '_' :: '_' :: s.toList) := by
    intro n s
    simp [numberedPrefix, String.toList_append]
  have hrest := congrArg String.toList h
  rw [hlist, hlist, List.cons.injEq, List.cons.injEq] at hrest
  have hnumber := congrArg (List.takeWhile Char.isDigit) hrest.2.2
  rw [hdigits, hdigits] at hnumber
  obtain rfl : i = j := by
    rw [← Nat.ofDigitChars_ten_toDigits (n := i), hnumber, Nat.ofDigitChars_ten_toDigits]
  exact ⟨rfl, (String.append_right_inj _).1 h⟩

theorem isPlain_numberedPrefix (i : Nat) : isPlain (numberedPrefix i) = true := by
  have hstart : isPlain "ns" = true := by decide
  have hend : isPlain "__" = true := by decide
  rw [isPlain, numberedPrefix, String.toList_append, String.toList_append, List.all_append, List.all_append,
    Bool.and_eq_true, Bool.and_eq_true]
  exact ⟨⟨hstart, isPlain_toString i⟩, hend⟩

/-- different purposes have different texts -/
theorem Purpose.text_injective {q q' : Purpose} (h : q.text = q'.text) : q = q' := by
  have hl := congrArg String.toList h
  cases q with
  | type r =>
    cases q' with
    | type r' =>
      revert h
      cases r <;> cases r' <;> decide
    | container =>
      revert h
      cases r <;> decide
    | element j => cases r <;> simp [Purpose.text, TypeRole.text] at hl
  | container =>
    cases q' with
    | type r' =>
      revert h
      cases r' <;> decide
    | container => rfl
    | element j => simp [Purpose.text] at hl
  | element i =>
    cases q' with
    | type r' => cases r' <;> simp [Purpose.text, TypeRole.text] at hl
    | container => simp [Purpose.text] at hl
    | element j =>
      have := toString_injective ((String.append_right_inj _).1 h)
      rw [this]

/-! ## Names given out -/

/-- a name of the built-in vocabulary; unlike the names that are given out it starts with a capital letter -/
def IsStandard (n : SymbolicName) : Prop :=
  n.isBuiltIn = true ∧ n.name.toList.head? ≠ some 'n'

theorem isStandard_builtInName {name : String} (h : name.toList.head? ≠ some 'n') : IsStandard (builtInName name) :=
  ⟨builtInName_isBuiltIn name, h⟩

namespace Namer

/-- the text of the name of an owner in a role -/
def spelling (n : Namer) (o : Owner) (role : String) : String :=
  symbolText (numberedPrefix (n.namespaces.idxOf o.namespaceUri) ++ "___".intercalate o.path ++ role)

/-- the name of an owner in a role -/
def symbol (n : Namer) (o : Owner) (role : String) : SymbolicName :=
  ⟨n.target, n.spelling o role⟩

/-- a name was given to an owner for a role -/
structure Gave (n : Namer) (o : Owner) (role : String) (s : SymbolicName) : Prop where
  seen : o.namespaceUri ∈ n.namespaces
  spelled : s = n.symbol o role
  owned : n.owners.find? s.name = some o

/-- `n'` has given out all that `n` has -/
structure Grows (n n' : Namer) : Prop where
  target : n'.target = n.target
  namespaces : n.namespaces <+: n'.namespaces
  owners : ∀ name o, n.owners.find? name = some o → n'.owners.find? name = some o

theorem Grows.refl (n : Namer) : Grows n n :=
  ⟨rfl, List.prefix_refl _, fun _ _ h => h⟩

theorem Grows.trans {a b c : Namer} (h : Grows a b) (k : Grows b c) : Grows a c :=
  ⟨k.target.trans h.target, h.namespaces.trans k.namespaces, fun name o ho => k.owners name o (h.owners name o ho)⟩

theorem Grows.spelling {n n' : Namer} (h : Grows n n') {o : Owner} (ho : o.namespaceUri ∈ n.namespaces) (role : String) :
    n'.spelling o role = n.spelling o role := by
  obtain ⟨l, hl⟩ := h.namespaces
  rw [Namer.spelling, Namer.spelling, ← hl, List.idxOf_append_of_mem ho]

/-- a namespace keeps its prefix -/
theorem Grows.prefixes {n n' : Namer} (h : Grows n n') : n.prefixes <+: n'.prefixes := by
  obtain ⟨uris, huris⟩ := h.namespaces
  rw [Namer.prefixes, Namer.prefixes, ← huris, List.zipIdx_append, List.map_append]
  exact List.prefix_append _ _

theorem Gave.mono {n n' : Namer} {o : Owner} {role : String} {s : SymbolicName} (g : n.Gave o role s) (h : Grows n n') :
    n'.Gave o role s := by
  refine ⟨h.namespaces.subset g.seen, ?_, h.owners _ _ g.owned⟩
  rw [g.spelled, symbol, symbol, h.spelling g.seen, h.target]

theorem Gave.owner_unique {n : Namer} {o o' : Owner} {role role' : String} {s : SymbolicName} (g : n.Gave o role s)
    (g' : n.Gave o' role' s) : o = o' :=
  Option.some.inj (g.owned.symm.trans g'.owned)

theorem Gave.name_unique {n : Namer} {o : Owner} {role : String} {s s' : SymbolicName} (g : n.Gave o role s)
    (g' : n.Gave o role s') : s = s' :=
  g.spelled.trans g'.spelled.symm

theorem spelling_role {n : Namer} {o : Owner} {role role' : String} (h : n.spelling o role = n.spelling o role') :
    symbolText role = symbolText role' := by
  rw [spelling, spelling, symbolText_append, symbolText_append _ role'] at h
  exact (String.append_right_inj _).1 h

/-- names that are spelled alike are in one namespace, and what follows its number is spelled alike -/
theorem spelling_inj {n : Namer} {o o' : Owner} {role role' : String} (ho : o.namespaceUri ∈ n.namespaces)
    (h : n.spelling o role = n.spelling o' role') :
    o.namespaceUri = o'.namespaceUri ∧
      symbolText ("___".intercalate o.path ++ role) = symbolText ("___".intercalate o'.path ++ role') := by
  rw [spelling, spelling, String.append_assoc, String.append_assoc, symbolText_append (numberedPrefix _),
    symbolText_append (numberedPrefix _), symbolText_eq_self (isPlain_numberedPrefix _),
    symbolText_eq_self (isPlain_numberedPrefix _)] at h
  obtain ⟨hnumber, htext⟩ := numberedPrefix_append_inj h
  exact ⟨(List.idxOf_inj ho).1 hnumber, htext⟩

/-- names of one owner for two roles differ -/
theorem Gave.role_unique {n : Namer} {o o' : Owner} {role role' : String} {s : SymbolicName} (g : n.Gave o role s)
    (g' : n.Gave o' role' s) : symbolText role = symbolText role' := by
  obtain rfl := g.owner_unique g'
  have h : n.symbol o role = n.symbol o role' := g.spelled.symm.trans g'.spelled
  rw [symbol, symbol, SymbolicName.mk.injEq] at h
  exact spelling_role h.2

/-- a name is given for one purpose -/
theorem Gave.purpose_unique {n : Namer} {o o' : Owner} {q q' : Purpose} {s : SymbolicName} (g : n.Gave o q.text s)
    (g' : n.Gave o' q'.text s) : q = q' := by
  have h := g.role_unique g'
  rw [symbolText_purpose, symbolText_purpose] at h
  exact Purpose.text_injective h

theorem head?_spelling (n : Namer) (o : Owner) (role : String) : (n.spelling o role).toList.head? = some 'n' := by
  rw [spelling, symbolText, String.toList_ofList]
  simp [numberedPrefix, String.toList_append, spell]

/-- a name that was given out is none of the built-in vocabulary -/
theorem Gave.not_isStandard {n : Namer} {o : Owner} {role : String} {s : SymbolicName} (g : n.Gave o role s) :
    ¬ IsStandard s := by
  rintro ⟨-, h⟩
  rw [g.spelled] at h
  exact h (head?_spelling n o role)

/-- every name that has an owner was given to it for some purpose -/
def Sound (n : Namer) : Prop :=
  ∀ name o, n.owners.find? name = some o → ∃ q : Purpose, n.Gave o q.text ⟨n.target, name⟩

theorem sound_new (target : String) : (new target).Sound := by
  intro name o h
  simp [new, Assoc.find?, Assoc.empty, Assoc.findIn] at h

theorem mem_see (n : Namer) (uri : String) : uri ∈ (n.see uri).namespaces := by
  unfold see
  split
  · rename_i h
    simpa using h
  · simp

theorem grows_see (n : Namer) (uri : String) : Grows n (n.see uri) := by
  unfold see
  split
  · exact Grows.refl n
  · exact ⟨rfl, List.prefix_append _ _, fun _ _ h => h⟩

theorem owners_see (n : Namer) (uri : String) : (n.see uri).owners = n.owners := by
  unfold see
  split <;> rfl

/-- what asking for a name comes to: the name, given now or before; or the reason why there is none -/
theorem nameFor_cases (n : Namer) (o : Owner) (role : String) :
    let m := n.see o.namespaceUri
    (Text.isSymbol (m.spelling o role) = false ∧ n.nameFor o role = (.error (.notSymbol (m.spelling o role)), m)) ∨
    (∃ o', o' ≠ o ∧ m.owners.find? (m.spelling o role) = some o' ∧
      n.nameFor o role = (.error (.clash (m.spelling o role) o.path o'.path), m)) ∨
    (m.owners.find? (m.spelling o role) = some o ∧ n.nameFor o role = (.ok (m.symbol o role), m)) ∨
    (m.owners.find? (m.spelling o role) = none ∧
      n.nameFor o role = (.ok (m.symbol o role), { m with owners := m.owners.insert (m.spelling o role) o })) := by
  unfold nameFor prefixFor
  have hspell : ∀ m : Namer, symbolText (numberedPrefix (m.namespaces.idxOf o.namespaceUri) ++
      "___".intercalate o.path ++ role) = m.spelling o role := fun _ => rfl
  have hsymbol : ∀ m : Namer, SymbolicName.mk m.target (m.spelling o role) = m.symbol o role := fun _ => rfl
  dsimp only
  rw [hspell, hsymbol]
  generalize n.see o.namespaceUri = m
  cases hs : Text.isSymbol (m.spelling o role) with
  | false => left; simp
  | true =>
    cases ho : m.owners.find? (m.spelling o role) with
    | none => right; right; right; simp
    | some other =>
      by_cases he : other = o
      · right; right; left; simp [he]
      · right; left; exact ⟨other, he, rfl, by simp [he]⟩

theorem grows_insert {m : Namer} {name : String} (o : Owner) (h : m.owners.find? name = none) :
    Grows m { m with owners := m.owners.insert name o } := by
  refine ⟨rfl, List.prefix_refl _, fun name' o' ho' => ?_⟩
  rw [Assoc.find?_insert]
  split
  · rename_i heq
    rw [← heq, h] at ho'
    cases ho'
  · exact ho'

theorem gave_insert {m : Namer} {o : Owner} (hs : o.namespaceUri ∈ m.namespaces) (role : String) :
    Gave { m with owners := m.owners.insert (m.spelling o role) o } o role (m.symbol o role) := by
  refine ⟨hs, rfl, ?_⟩
  rw [Assoc.find?_insert]
  exact if_pos rfl

theorem Sound.see {n : Namer} (h : n.Sound) (uri : String) : (n.see uri).Sound := by
  intro name o ho
  rw [owners_see] at ho
  obtain ⟨q, g⟩ := h name o ho
  exact ⟨q, (grows_see n uri).target ▸ g.mono (grows_see n uri)⟩

theorem Sound.insert {m : Namer} (h : m.Sound) {o : Owner} {q : Purpose} (hs : o.namespaceUri ∈ m.namespaces)
    (hn : m.owners.find? (m.spelling o q.text) = none) :
    Sound { m with owners := m.owners.insert (m.spelling o q.text) o } := by
  intro name o' ho'
  rw [Assoc.find?_insert] at ho'
  split at ho'
  · rename_i heq
    cases ho'
    exact ⟨q, heq ▸ gave_insert hs q.text⟩
  · obtain ⟨q', g⟩ := h name o' ho'
    exact ⟨q', g.mono (grows_insert o hn)⟩

/-! ### Requests -/

/-- a name that is given out is an identifier -/
theorem isSymbol_of_nameFor {n n' : Namer} {o : Owner} {role : String} {s : SymbolicName}
    (h : n.nameFor o role = (.ok s, n')) : Text.isSymbol s.name = true := by
  unfold nameFor at h
  dsimp only at h
  split at h
  · cases h
  · rename_i hsymbol
    split at h
    · cases h
      simpa using hsymbol
    · split at h
      · cases h
        simpa using hsymbol
      · cases h

/-- a name that is given out, and the namer afterwards -/
theorem gave_of_nameFor {n n' : Namer} {o : Owner} {role : String} {s : SymbolicName}
    (h : n.nameFor o role = (.ok s, n')) :
    n'.Gave o role s ∧ (n.see o.namespaceUri).Grows n' ∧ n'.namespaces = (n.see o.namespaceUri).namespaces := by
  have hseen := mem_see n o.namespaceUri
  rcases nameFor_cases n o role with ⟨-, hr⟩ | ⟨o', -, -, hr⟩ | ⟨ho, hr⟩ | ⟨ho, hr⟩ <;> cases hr.symm.trans h
  · exact ⟨⟨hseen, rfl, ho⟩, Grows.refl _, rfl⟩
  · exact ⟨gave_insert hseen role, grows_insert o ho, rfl⟩

theorem see_eq_self {n : Namer} {uri : String} (h : uri ∈ n.namespaces) : n.see uri = n := by
  unfold see
  rw [if_pos (by simpa using h)]

/-- whatever the answer to a request, its namespace counts as seen -/
theorem namespaces_nameFor (n : Namer) (o : Owner) (role : String) :
    (n.nameFor o role).2.namespaces = (n.see o.namespaceUri).namespaces := by
  rcases nameFor_cases n o role with ⟨-, hr⟩ | ⟨o', -, -, hr⟩ | ⟨-, hr⟩ | ⟨-, hr⟩ <;> rw [hr]

/-- whatever the answer to a request, the names given out before stay -/
theorem grows_nameFor (n : Namer) (o : Owner) (role : String) : n.Grows (n.nameFor o role).2 := by
  have hsee := grows_see n o.namespaceUri
  rcases nameFor_cases n o role with ⟨-, hr⟩ | ⟨o', -, -, hr⟩ | ⟨-, hr⟩ | ⟨ho, hr⟩ <;> rw [hr]
  · exact hsee
  · exact hsee
  · exact hsee
  · exact hsee.trans (grows_insert o ho)

/-- a name that was given out is given out again, and nothing else happens -/
theorem nameFor_of_gave {n : Namer} {o : Owner} {role : String} {s : SymbolicName} (g : n.Gave o role s)
    (hs : Text.isSymbol s.name = true) : n.nameFor o role = (.ok s, n) := by
  have hsee := see_eq_self g.seen
  have hname : s.name = n.spelling o role := by rw [g.spelled, symbol]
  rcases nameFor_cases n o role with ⟨hno, -⟩ | ⟨o', hne, ho, -⟩ | ⟨-, hr⟩ | ⟨hnew, -⟩
  · rw [hsee, ← hname, hs] at hno
    cases hno
  · rw [hsee, ← hname, g.owned] at ho
    exact absurd (Option.some.inj ho).symm hne
  · rw [hr, hsee, ← g.spelled]
  · rw [hsee, ← hname, g.owned] at hnew
    cases hnew

theorem namespaces_see {m n : Namer} (hs : n.namespaces = m.namespaces) (uri : String) :
    (n.see uri).namespaces = (m.see uri).namespaces := by
  unfold see
  rw [hs]
  split
  · exact hs
  · rfl

theorem Grows.see {m n : Namer} (g : Grows m n) (hs : n.namespaces = m.namespaces) (uri : String) :
    Grows (m.see uri) (n.see uri) := by
  refine ⟨?_, by rw [namespaces_see hs], ?_⟩
  · rw [(grows_see n uri).target, (grows_see m uri).target, g.target]
  · rw [owners_see, owners_see]
    exact g.owners

/-- a namer with fewer names, which has seen the same namespaces, gives out the same name -/
theorem nameFor_of_grows {m n n' : Namer} (g : Grows m n) (hs : n.namespaces = m.namespaces) {o : Owner} {role : String}
    {s : SymbolicName} (h : n.nameFor o role = (.ok s, n')) :
    ∃ m', m.nameFor o role = (.ok s, m') ∧ m'.Grows n' ∧ n'.namespaces = m'.namespaces := by
  obtain ⟨hgave, hafter, hnamespaces⟩ := gave_of_nameFor h
  have hseen := hnamespaces.trans (namespaces_see hs o.namespaceUri)
  have hgrows : (m.see o.namespaceUri).Grows n' := (g.see hs o.namespaceUri).trans hafter
  have hspelling : n'.spelling o role = (m.see o.namespaceUri).spelling o role := hgrows.spelling (mem_see m _) role
  obtain rfl : s = (m.see o.namespaceUri).symbol o role := by
    rw [hgave.spelled, symbol, symbol, hspelling, hgrows.target]
  have howned := hgave.owned
  rcases nameFor_cases m o role with ⟨hno, -⟩ | ⟨o', hne, ho', -⟩ | ⟨-, hr⟩ | ⟨hnew, hr⟩
  · have hsymbol := isSymbol_of_nameFor h
    rw [symbol, hno] at hsymbol
    cases hsymbol
  · exact absurd (Option.some.inj ((hgrows.owners _ _ ho').symm.trans howned)) hne
  · exact ⟨_, hr, hgrows, hseen⟩
  · refine ⟨_, hr, ⟨hgrows.target, hgrows.namespaces, fun name o' ho' => ?_⟩, hseen⟩
    rw [Assoc.find?_insert] at ho'
    split at ho'
    · rename_i heq
      cases ho'
      rw [← heq]
      exact howned
    · exact hgrows.owners name o' ho'

-- a spelling is opened by its equation only, never evaluated
attribute [irreducible] spelling

end Namer

end YangDesign.Translate
