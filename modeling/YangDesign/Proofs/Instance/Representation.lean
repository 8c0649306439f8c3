/-
Documents that fit a schema, and the data that they hold.

`Represents tree n v d`: the value `v` holds the data `d` of the node `n`. A member of an object stands for a name
(`denoted?`), the name for the first data node of that name at the place (`dataNodes`), and the members are data of these
nodes, one for one and in order. `decodeNode_eq_ok_iff` and `decode_represents`: decoding answers exactly for what is
represented, with what it represents; anything else of JSON is refused with a cause at a path. The cause is put into words
unless it shows an integer that has too many digits.
-/
import YangDesign.Proofs.Answers
import YangDesign.Proofs.Instance.Lookup
import YangDesign.Proofs.Schema.Nodes

namespace YangDesign.Instance

open Schema

/-! ## Induction -/

mutual

/-- what holds of a node if it holds of the data nodes below it holds of all nodes -/
theorem data_induct {P : Node → Prop} (step : ∀ n, (∀ m ∈ dataNodes n.children, P m) → P n) : ∀ n : Node, P n
  | ⟨_, _, children⟩ => step _ (data_induct_at step children)

theorem data_induct_at {P : Node → Prop} (step : ∀ n, (∀ m ∈ dataNodes n.children, P m) → P n) :
    ∀ ns : List Node, ∀ m ∈ dataNodes ns, P m
  | [], m, hm => by simp [dataNodes] at hm
  | n :: ns, m, hm => by
    rw [dataNodes, List.mem_append] at hm
    exact hm.elim (data_induct_of step n m) (data_induct_at step ns m)

theorem data_induct_of {P : Node → Prop} (step : ∀ n, (∀ m ∈ dataNodes n.children, P m) → P n) :
    ∀ n : Node, ∀ m ∈ dataNodesOf n, P m
  | ⟨head, kind, children⟩, m, hm => by
    cases kind with
    | choice =>
      rw [dataNodesOf] at hm
      exact data_induct_in step children m hm
    | container | list | leaf | leafList =>
      obtain rfl : m = ⟨head, _, children⟩ := by simpa [dataNodesOf, NodeKind.isData] using hm
      exact step _ (data_induct_at step children)
    | case | typedef | identity | other => simp [dataNodesOf, NodeKind.isData] at hm

theorem data_induct_in {P : Node → Prop} (step : ∀ n, (∀ m ∈ dataNodes n.children, P m) → P n) :
    ∀ cs : List Node, ∀ m ∈ dataNodesIn cs, P m
  | [], m, hm => by simp [dataNodesIn] at hm
  | ⟨_, _, children⟩ :: cs, m, hm => by
    rw [dataNodesIn, List.mem_append] at hm
    exact hm.elim (data_induct_at step children m) (data_induct_in step cs m)

end

/-! ## Representation -/

/-- the name that a member stands for, where a name without a module is in a namespace; at the top there is none -/
def nameOf? (tree : Tree) (uri : Option String) (member : String) : Option QName :=
  match Text.splitQualified member with
  | (none, localName) => uri.map fun uri => ⟨uri, localName⟩
  | (some label, localName) => (tree.module? label).map fun m => ⟨m.namespaceUri, localName⟩

/-- the name that a key of an object stands for -/
def denoted? (tree : Tree) (uri : Option String) (key : Value) : Option QName :=
  (memberName key).toOption.bind (nameOf? tree uri)

/-- a value is the encoding of the value of a leaf -/
def LeafValue (type : Option TypeDef) (v w : Value) : Prop :=
  decodeLeaf type [] v = .ok w

mutual

/-- a value holds data of a node -/
inductive Represents (tree : Tree) : Node → Value → DataNode → Prop where
  | container {head : Head} {children : List Node} {v : Value} {ms : List (Value × Value)} {ds : List DataNode} :
    v.head = .map ms → RepresentsMembers tree children head.name.namespaceUri ms ds →
    Represents tree ⟨head, .container, children⟩ v (.container head.name ds)
  | list {head : Head} {keys : List String} {children : List Node} {v : Value} {es : List Value}
    {entries : List (List DataNode)} :
    v.head = .list es → RepresentsEntries tree children head.name.namespaceUri es entries →
    Represents tree ⟨head, .list keys, children⟩ v (.list head.name entries)
  | leafList {head : Head} {type : Option TypeDef} {children : List Node} {v : Value} {vs ws : List Value} :
    v.head = .list vs → List.Forall₂ (LeafValue type) vs ws →
    Represents tree ⟨head, .leafList type, children⟩ v (.leafList head.name ws)
  | leaf {head : Head} {type : Option TypeDef} {children : List Node} {v w : Value} :
    LeafValue type v w → Represents tree ⟨head, .leaf type, children⟩ v (.leaf head.name w)

/-- the members of an object hold data of the nodes that they stand for at a place in a namespace -/
inductive RepresentsMembers (tree : Tree) : List Node → String → List (Value × Value) → List DataNode → Prop where
  | nil {ns : List Node} {uri : String} : RepresentsMembers tree ns uri [] []
  | cons {ns : List Node} {uri : String} {k v : Value} {q : QName} {n : Node} {d : DataNode} {ms : List (Value × Value)}
    {ds : List DataNode} :
    denoted? tree (some uri) k = some q → nodeAt? ns q = some n → Represents tree n v d →
    RepresentsMembers tree ns uri ms ds → RepresentsMembers tree ns uri ((k, v) :: ms) (d :: ds)

/-- the entries of an array are objects that hold data at a place -/
inductive RepresentsEntries (tree : Tree) : List Node → String → List Value → List (List DataNode) → Prop where
  | nil {ns : List Node} {uri : String} : RepresentsEntries tree ns uri [] []
  | cons {ns : List Node} {uri : String} {e : Value} {ms : List (Value × Value)} {ds : List DataNode} {es : List Value}
    {entries : List (List DataNode)} :
    e.head = .map ms → RepresentsMembers tree ns uri ms ds → RepresentsEntries tree ns uri es entries →
    RepresentsEntries tree ns uri (e :: es) (ds :: entries)

end

/-- a member at the top, which names a module, holds data of a node of that module -/
def RepresentsTop (tree : Tree) (member : Value × Value) (d : DataNode) : Prop :=
  ∃ key label localName m n, memberName member.1 = .ok key ∧ Text.splitQualified key = (some label, localName) ∧
    tree.module? label = some m ∧ nodeAt? m.statements ⟨m.namespaceUri, localName⟩ = some n ∧ Represents tree n member.2 d

/-- the members of a document hold data of a schema, one for one and in order -/
def RepresentsDocument (tree : Tree) (members : List (Value × Value)) (ds : List DataNode) : Prop :=
  List.Forall₂ (RepresentsTop tree) members ds

/-! ## What is decoded is represented -/

section Accepted

variable {tree : Tree}

theorem decodeLeaf_eq_ok_iff {type : Option TypeDef} {path : List String} {v w : Value} :
    decodeLeaf type path v = .ok w ↔ LeafValue type v w := by
  unfold LeafValue decodeLeaf
  rw [mapError_eq_ok_iff, mapError_eq_ok_iff]

/-- members have the names that they stand for -/
theorem qualifiedName_eq_ok_iff {uri member : String} {path : List String} {q : QName} :
    qualifiedName tree uri member path = .ok q ↔ nameOf? tree (some uri) member = some q := by
  unfold qualifiedName nameOf?
  rcases Text.splitQualified member with ⟨_ | label, localName⟩
  · simp
  · cases hm : tree.module? label <;> simp [hm, misfit]

theorem denoted?_eq_some_iff {uri : Option String} {k : Value} {q : QName} :
    denoted? tree uri k = some q ↔ ∃ member, memberName k = .ok member ∧ nameOf? tree uri member = some q := by
  unfold denoted?
  cases memberName k <;> simp [Except.toOption]

theorem getD_eq_ok_iff {x : Option (Decoded DataNode)} {path : List String} {cause : DataCause} {d : DataNode} :
    x.getD (misfit path cause) = .ok d ↔ x = some (.ok d) := by
  cases x <;> simp [misfit]

theorem representsMembers_iff {ns : List Node} {uri : String} {ms : List (Value × Value)} {ds : List DataNode} :
    RepresentsMembers tree ns uri ms ds ↔ List.Forall₂ (fun m d =>
      ∃ q n, denoted? tree (some uri) m.1 = some q ∧ nodeAt? ns q = some n ∧ Represents tree n m.2 d) ms ds := by
  constructor
  · intro h
    induction ms generalizing ds with
    | nil =>
      cases h
      exact .nil
    | cons m ms ih =>
      cases h with
      | cons hq hn hd hms => exact .cons ⟨_, _, hq, hn, hd⟩ (ih hms)
  · intro h
    induction h with
    | nil => exact .nil
    | cons hm _ ih =>
      obtain ⟨q, n, hq, hn, hd⟩ := hm
      exact .cons hq hn hd ih

section Place

variable {ns : List Node}
  (ih : ∀ n ∈ dataNodes ns, ∀ path v d, decodeNode tree n path v = .ok d ↔ Represents tree n v d)

include ih

/-- a value is decoded for a name if it is data of the first node of that name -/
theorem decodeAmong_eq_ok_iff {q : QName} {path : List String} {v : Value} {d : DataNode} :
    decodeAmong tree ns q path v = some (.ok d) ↔ ∃ n, nodeAt? ns q = some n ∧ Represents tree n v d := by
  rw [decodeAmong_eq_map_nodeAt?, Option.map_eq_some_iff]
  exact exists_congr fun n => and_congr_right fun hn => ih n (List.mem_of_find?_eq_some hn) path v d

theorem decodeMembers_eq_ok_iff {uri : String} {path : List String} {v : Value} {ds : List DataNode} :
    decodeMembers tree uri path (decodeAmong tree ns) v = .ok ds ↔
      ∃ ms, v.head = .map ms ∧ RepresentsMembers tree ns uri ms ds := by
  unfold decodeMembers
  split
  · rename_i ms hv
    simp only [hv, Value.map.injEq, exists_eq_left', mapM_eq_ok_iff, representsMembers_iff]
    refine forall₂_rel_congr fun m d => ?_
    obtain ⟨k, v⟩ := m
    simp only [bind_eq_ok_iff, getD_eq_ok_iff, decodeAmong_eq_ok_iff ih, qualifiedName_eq_ok_iff, denoted?_eq_some_iff]
    constructor
    · rintro ⟨member, hk, q, hq, n, hn, hd⟩
      exact ⟨q, n, ⟨member, hk, hq⟩, hn, hd⟩
    · rintro ⟨q, n, ⟨member, hk, hq⟩, hn, hd⟩
      exact ⟨member, hk, q, hq, n, hn, hd⟩
  · rename_i hv
    refine ⟨fun h => ?_, fun ⟨ms, hms, _⟩ => absurd hms (hv ms)⟩
    cases h

theorem decodeItems_eq_ok_iff {uri : String} {path : List String} {es : List Value} {entries : List (List DataNode)} (i : Nat) :
    decodeItems path (fun path v => decodeMembers tree uri path (decodeAmong tree ns) v) i es = .ok entries ↔
      RepresentsEntries tree ns uri es entries := by
  induction es generalizing i entries with
  | nil =>
    simp only [decodeItems, Except.ok.injEq]
    constructor
    · rintro rfl
      exact .nil
    · intro h
      cases h
      rfl
  | cons e es ihes =>
    simp only [decodeItems, bind_eq_ok_iff, decodeMembers_eq_ok_iff ih, ihes]
    constructor
    · rintro ⟨ds, ⟨ms, hms, hds⟩, dss, hdss, h⟩
      cases h
      exact .cons hms hds hdss
    · intro h
      cases h with
      | cons hms hds hdss => exact ⟨_, ⟨_, hms, hds⟩, _, hdss, rfl⟩

end Place

/-- **Data of a node.** A value is decoded for a node exactly if it holds data of the node, and to that data. -/
theorem decodeNode_eq_ok_iff : ∀ (n : Node) (path : List String) (v : Value) (d : DataNode),
    decodeNode tree n path v = .ok d ↔ Represents tree n v d := by
  refine data_induct fun n ih path v d => ?_
  obtain ⟨head, kind, children⟩ := n
  cases kind with
  | container =>
    simp only [decodeNode, map_eq_ok_iff, decodeMembers_eq_ok_iff ih]
    constructor
    · rintro ⟨ds, ⟨ms, hv, hms⟩, rfl⟩
      exact .container hv hms
    · intro h
      cases h with
      | container hv hms => exact ⟨_, ⟨_, hv, hms⟩, rfl⟩
  | list keys =>
    simp only [decodeNode]
    constructor
    · intro h
      split at h
      · rename_i es hv
        obtain ⟨entries, hentries, rfl⟩ := map_eq_ok_iff.1 h
        exact .list hv ((decodeItems_eq_ok_iff ih 0).1 hentries)
      · cases h
    · intro h
      cases h with
      | list hv hentries =>
        rw [hv]
        exact map_eq_ok_iff.2 ⟨_, (decodeItems_eq_ok_iff ih 0).2 hentries, rfl⟩
  | leafList type =>
    simp only [decodeNode]
    constructor
    · intro h
      split at h
      · rename_i vs hv
        obtain ⟨ws, hws, rfl⟩ := map_eq_ok_iff.1 h
        exact .leafList hv ((ok_of_mapM hws).imp fun _ _ => decodeLeaf_eq_ok_iff.1)
      · cases h
    · intro h
      cases h with
      | leafList hv hws =>
        rw [hv]
        exact map_eq_ok_iff.2 ⟨_, mapM_eq_ok_iff.2 (hws.imp fun _ _ => decodeLeaf_eq_ok_iff.2), rfl⟩
  | leaf type =>
    simp only [decodeNode, map_eq_ok_iff, decodeLeaf_eq_ok_iff]
    constructor
    · rintro ⟨w, hw, rfl⟩
      exact .leaf hw
    · intro h
      cases h with
      | leaf hw => exact ⟨_, hw, rfl⟩
  | choice | case | typedef | identity | other =>
    simp only [decodeNode]
    constructor <;>
    · intro h
      cases h

theorem decodeTop_eq_ok_iff {key : String} {v : Value} {d : DataNode} :
    decodeTop tree key v = .ok d ↔ ∃ label localName m n, Text.splitQualified key = (some label, localName) ∧
      tree.module? label = some m ∧ nodeAt? m.statements ⟨m.namespaceUri, localName⟩ = some n ∧ Represents tree n v d := by
  unfold decodeTop
  split
  · rename_i hkey
    simp [hkey, misfit]
  · rename_i label localName hkey
    simp only [hkey, Prod.mk.injEq, Option.some.injEq]
    split
    · rename_i hm
      simp only [misfit, reduceCtorEq, false_iff]
      rintro ⟨_, _, m, n, ⟨rfl, rfl⟩, hm', -⟩
      exact absurd (hm.symm.trans hm') nofun
    · rename_i m hm
      rw [getD_eq_ok_iff, decodeAmong_eq_map_nodeAt?, Option.map_eq_some_iff]
      simp only [decodeNode_eq_ok_iff]
      constructor
      · rintro ⟨n, hn, hd⟩
        exact ⟨label, localName, m, n, ⟨rfl, rfl⟩, hm, hn, hd⟩
      · rintro ⟨_, _, m', n, ⟨rfl, rfl⟩, hm', hn, hd⟩
        obtain rfl := Option.some.inj (hm.symm.trans hm')
        exact ⟨n, hn, hd⟩

theorem decode_eq_ok_iff {ms : List (Value × Value)} {ds : List DataNode} :
    decode tree ms = .ok ds ↔ RepresentsDocument tree ms ds := by
  unfold decode RepresentsDocument
  rw [mapM_eq_ok_iff]
  refine forall₂_rel_congr fun m d => ?_
  obtain ⟨k, v⟩ := m
  simp only [bind_eq_ok_iff, decodeTop_eq_ok_iff, RepresentsTop]
  constructor
  · rintro ⟨key, hk, label, localName, m, n, h⟩
    exact ⟨key, label, localName, m, n, hk, h⟩
  · rintro ⟨key, label, localName, m, n, hk, h⟩
    exact ⟨key, hk, label, localName, m, n, h⟩

end Accepted

/-! ## What is refused -/

/-- a value of JSON, where the names of members are texts -/
inductive IsJson : Value → Prop where
  | null : IsJson .null
  | bool (b : Bool) : IsJson (.bool b)
  | int (i : Int) : IsJson (.int i)
  | float (x : Number.Binary64) : IsJson (.float x)
  | text (s : String) : IsJson (.text s)
  | broken (codes : List Nat) : IsJson (.broken codes)
  | list {xs : List Value} : (∀ x ∈ xs, IsJson x) → IsJson (.list xs)
  | map {ps : List (Value × Value)} : (∀ p ∈ ps, ∃ member, memberName p.1 = .ok member) → (∀ p ∈ ps, IsJson p.2) →
    IsJson (.map ps)

theorem IsJson.head_eq {v : Value} (h : IsJson v) : v.head = v := by
  cases h <;> rfl

theorem mem_allFlaws {flaw : Value.Flaw} {vs : List Value} : flaw ∈ Value.allFlaws vs ↔ ∃ v ∈ vs, flaw ∈ v.flaws := by
  induction vs with
  | nil => simp [Value.allFlaws]
  | cons v vs ih => simp [Value.allFlaws, ih]

theorem mem_memberFlaws {flaw : Value.Flaw} {ps : List (Value × Value)} :
    flaw ∈ Value.memberFlaws ps ↔ ∃ p ∈ ps, flaw ∈ p.1.flaws ∨ flaw ∈ p.2.flaws := by
  induction ps with
  | nil => simp [Value.memberFlaws]
  | cons p ps ih =>
    obtain ⟨k, v⟩ := p
    simp only [Value.memberFlaws, Value.flawsOfMember, List.mem_append, ih, List.exists_mem_cons_iff]

/-- a failure for a value: a cause at a path, which can be put into words unless an integer of the value has too many digits -/
def Explains (v : Value) (e : DataFailure) : Prop :=
  ∃ path cause, e = .of path cause ∧ (cause.isWritable = false → .oversized ∈ v.flaws)

theorem Explains.of_isWritable {v : Value} {path : List String} {cause : DataCause} (h : cause.isWritable = true) :
    Explains v (.of path cause) :=
  ⟨path, cause, rfl, fun hnot => absurd (h.symm.trans hnot) nofun⟩

/-- a failure for a part of a value is one for the value -/
theorem Explains.of_part {v w : Value} {e : DataFailure} (h : Explains v e)
    (hflaws : .oversized ∈ v.flaws → .oversized ∈ w.flaws) : Explains w e := by
  obtain ⟨path, cause, he, hcause⟩ := h
  exact ⟨path, cause, he, hflaws ∘ hcause⟩

/-! ### Leaves -/

theorem digitValue?_lt {c : Char} {d : Nat} (h : Text.digitValue? c = some d) : d < 10 := by
  obtain ⟨z, hz, rfl⟩ := Option.map_eq_some_iff.1 h
  have hrange := List.find?_some hz
  rw [Bool.and_eq_true, decide_eq_true_eq, decide_eq_true_eq] at hrange
  omega

theorem groupedDigits_lt {cs : List Char} {afterDigit : Bool} {ds : List Nat}
    (h : Number.groupedDigits Text.digitValue? afterDigit cs = some ds) : ∀ d ∈ ds, d < 10 := by
  fun_induction Number.groupedDigits Text.digitValue? afterDigit cs generalizing ds with
  | case1 =>
    cases h
    exact fun d hd => absurd hd List.not_mem_nil
  | case2 | case4 => cases h
  | case3 cs ih => exact ih h
  | case5 _ c cs _ ih =>
    obtain ⟨d, hd, h⟩ := Option.bind_eq_some_iff.1 h
    obtain ⟨ds', hds, h⟩ := Option.bind_eq_some_iff.1 h
    cases h
    exact List.forall_mem_cons.2 ⟨digitValue?_lt hd, ih hds⟩

theorem ofDigits_eq (base : Nat) (ds : List Nat) : Number.ofDigits base ds = Nat.ofDigits base ds.reverse := by
  rw [Nat.ofDigits_eq_foldr, List.foldr_reverse, Number.ofDigits]
  congr 1
  funext n d
  rw [Nat.cast_id, Nat.mul_comm, Nat.add_comm]

theorem natAbs_signed (negative : Bool) (n : Nat) : (Number.signed negative n).natAbs = n := by
  cases negative <;> simp [Number.signed]

/-- an integer that is read from a text is not too long to be written -/
theorem natAbs_readInteger_lt {s : String} {i : Int} (h : Number.readInteger s = some i) :
    i.natAbs < Nat.pow 10 Number.maxIntegerDigits := by
  obtain ⟨ds, hds, h⟩ := Option.bind_eq_some_iff.1 h
  obtain ⟨hlength, h⟩ := Option.ite_none_right_eq_some.1 h
  obtain rfl := Option.some.inj h
  generalize Number.maxIntegerDigits = limit at hlength ⊢
  have hlt : Number.ofDigits 10 ds < Nat.pow 10 ds.length := by
    rw [ofDigits_eq, ← List.length_reverse]
    exact Nat.ofDigits_lt_base_pow_length (by decide) fun d hd => groupedDigits_lt hds d (List.mem_reverse.1 hd)
  calc
    (Number.signed _ (Number.ofDigits 10 ds)).natAbs = Number.ofDigits 10 ds := natAbs_signed _ _
    _ < Nat.pow 10 ds.length := hlt
    _ ≤ Nat.pow 10 limit := Nat.pow_le_pow_right (by decide) hlength

theorem isOversized_iff {v : Value} : v.isOversized = true ↔ .oversized ∈ v.flaws := by
  rw [Value.isOversized, List.contains_iff_mem]

theorem le_natAbs_of_oversized {i : Int} (h : .oversized ∈ (Value.int i).flaws) :
    Nat.pow 10 Number.maxIntegerDigits ≤ i.natAbs := by
  rw [Value.flaws] at h
  split at h
  · rename_i hle
    exact hle
  · cases h

/-- a cause that shows nothing but a value -/
theorem oversized_of_shown {v : Value} (h : (!v.isOversized) = false) : .oversized ∈ v.flaws := by
  rwa [Bool.not_eq_false', isOversized_iff] at h

theorem decodeInt_error {b : BuiltIn} {range : Int × Int} {v : Value} {cause : DataCause}
    (h : decodeInt b range v = .error cause) (hcause : cause.isWritable = false) : .oversized ∈ v.flaws := by
  unfold decodeInt at h
  split at h
  · cases h
    exact oversized_of_shown hcause
  · rename_i i hi
    split at h
    · cases h
    · cases h
      have hflaw : .oversized ∈ (Value.int i).flaws := oversized_of_shown hcause
      cases v with
      | int j =>
        cases hi
        exact hflaw
      | text s => exact absurd (le_natAbs_of_oversized hflaw) (Nat.not_le.2 (natAbs_readInteger_lt hi))
      | _ => cases hi

/-- the cause for a value of a built-in type shows no integer but those of the value -/
theorem decodeBuiltIn_error {b : BuiltIn} {enums : List EnumValue} {v : Value} {cause : DataCause}
    (h : decodeBuiltIn b enums v = .error cause) (hcause : cause.isWritable = false) : .oversized ∈ v.flaws := by
  unfold decodeBuiltIn at h
  split at h
  · exact decodeInt_error h hcause
  · split at h
    · split at h <;> cases h
      exact oversized_of_shown hcause
    · split at h <;> cases h
      exact oversized_of_shown hcause
    · split at h <;> cases h
      cases hcause
    · split at h
      · split at h <;> cases h
        exact oversized_of_shown hcause
      · cases h
        exact oversized_of_shown hcause
    · split at h <;> cases h <;> cases hcause
    · split at h <;> cases h
      exact oversized_of_shown hcause

theorem explains_decodeLeaf {type : Option TypeDef} {path : List String} {v : Value} {e : DataFailure}
    (h : decodeLeaf type path v = .error e) : Explains v e := by
  obtain ⟨cause, hx, rfl⟩ := mapError_eq_error_iff.1 h
  refine ⟨path, cause, rfl, fun hcause => ?_⟩
  split at hx
  · exact decodeBuiltIn_error hx hcause
  · split at hx
    · exact decodeBuiltIn_error hx hcause
    · cases hx

/-! ### Nodes -/

section Refused

variable {tree : Tree}

theorem explains_qualifiedName {uri member : String} {path : List String} {v : Value} {e : DataFailure}
    (h : qualifiedName tree uri member path = .error e) : Explains v e := by
  unfold qualifiedName at h
  split at h
  · cases h
  · split at h
    · cases h
    · cases h
      exact .of_isWritable rfl

/-- a failure for an object of a document comes from a member, or there is no object -/
theorem explains_decodeMembers {ns : List Node} {uri : String} {path : List String} {v : Value} {e : DataFailure}
    (ih : ∀ n ∈ dataNodes ns, ∀ path v e, IsJson v → decodeNode tree n path v = .error e → Explains v e)
    (hv : IsJson v) (h : decodeMembers tree uri path (decodeAmong tree ns) v = .error e) : Explains v e := by
  unfold decodeMembers at h
  rw [hv.head_eq] at h
  cases hv with
  | map hkeys hvalues =>
    obtain ⟨⟨k, v⟩, hp, h⟩ := error_of_mapM h
    have hpart : .oversized ∈ v.flaws → .oversized ∈ (Value.map _).flaws :=
      fun hflaw => mem_memberFlaws.2 ⟨_, hp, Or.inr hflaw⟩
    obtain ⟨member, hmember⟩ := hkeys _ hp
    rcases error_of_bind h with h | ⟨_, -, h⟩
    · exact absurd (hmember.symm.trans h) nofun
    rcases error_of_bind h with h | ⟨q, -, h⟩
    · exact explains_qualifiedName h
    rw [decodeAmong_eq_map_nodeAt?] at h
    cases hn : nodeAt? ns q with
    | none =>
      rw [hn] at h
      cases h
      exact .of_isWritable rfl
    | some n =>
      rw [hn] at h
      exact (ih n (List.mem_of_find?_eq_some hn) _ v e (hvalues _ hp) h).of_part hpart
  | _ =>
    cases h
    exact .of_isWritable rfl

theorem error_of_decodeItems {α : Type} {path : List String} {f : List String → Value → Decoded α} {i : Nat}
    {vs : List Value} {e : DataFailure} (h : decodeItems path f i vs = .error e) :
    ∃ v ∈ vs, ∃ path, f path v = .error e := by
  induction vs generalizing i with
  | nil => cases h
  | cons v vs ih =>
    rcases error_of_bind h with h | ⟨a, -, h⟩
    · exact ⟨v, List.mem_cons_self, _, h⟩
    · rcases error_of_bind h with h | ⟨as, -, h⟩
      · obtain ⟨v', hv', h⟩ := ih h
        exact ⟨v', List.mem_cons_of_mem _ hv', h⟩
      · cases h

theorem explains_decodeNode : ∀ (n : Node) (path : List String) (v : Value) (e : DataFailure),
    IsJson v → decodeNode tree n path v = .error e → Explains v e := by
  refine data_induct fun n ih path v e hv h => ?_
  obtain ⟨head, kind, children⟩ := n
  cases kind with
  | container =>
    simp only [decodeNode, map_eq_error_iff] at h
    exact explains_decodeMembers ih hv h
  | list keys =>
    simp only [decodeNode, hv.head_eq] at h
    cases hv with
    | list hitems =>
      obtain ⟨v, hmem, path, h⟩ := error_of_decodeItems (map_eq_error_iff.1 h)
      exact (explains_decodeMembers ih (hitems v hmem) h).of_part fun hflaw => mem_allFlaws.2 ⟨v, hmem, hflaw⟩
    | _ =>
      cases h
      exact .of_isWritable rfl
  | leafList type =>
    simp only [decodeNode, hv.head_eq] at h
    cases hv with
    | list hitems =>
      obtain ⟨v, hmem, h⟩ := error_of_mapM (map_eq_error_iff.1 h)
      exact (explains_decodeLeaf h).of_part fun hflaw => mem_allFlaws.2 ⟨v, hmem, hflaw⟩
    | _ =>
      cases h
      exact .of_isWritable rfl
  | leaf type =>
    simp only [decodeNode, map_eq_error_iff] at h
    exact explains_decodeLeaf h
  | choice | case | typedef | identity | other =>
    simp only [decodeNode] at h
    cases h
    exact .of_isWritable rfl

theorem explains_decodeTop {key : String} {v : Value} {e : DataFailure} (hv : IsJson v)
    (h : decodeTop tree key v = .error e) : Explains v e := by
  unfold decodeTop at h
  split at h
  · cases h
    exact .of_isWritable rfl
  · split at h
    · cases h
      exact .of_isWritable rfl
    · rename_i localName _ _ m _
      rw [decodeAmong_eq_map_nodeAt?] at h
      cases hn : nodeAt? m.statements ⟨m.namespaceUri, localName⟩ with
      | none =>
        rw [hn] at h
        cases h
        exact .of_isWritable rfl
      | some n =>
        rw [hn] at h
        exact explains_decodeNode n _ v e hv h

theorem explains_decode {ms : List (Value × Value)} {e : DataFailure} (hms : IsJson (.map ms))
    (h : decode tree ms = .error e) : Explains (.map ms) e := by
  cases hms with
  | map hkeys hvalues =>
    obtain ⟨⟨k, v⟩, hp, h⟩ := error_of_mapM h
    obtain ⟨member, hmember⟩ := hkeys _ hp
    rcases error_of_bind h with h | ⟨_, -, h⟩
    · exact absurd (hmember.symm.trans h) nofun
    · exact (explains_decodeTop (hvalues _ hp) h).of_part fun hflaw => mem_memberFlaws.2 ⟨_, hp, Or.inr hflaw⟩

/-- **Documents that fit a schema.** A document is decoded exactly if its members hold data of the schema, and to that data,
one data node for each member. Any other document of JSON is refused with a cause at a path, which is put into words unless
the document holds an integer that has too many digits. -/
theorem decode_represents (tree : Tree) (ms : List (Value × Value)) :
    (∀ ds, decode tree ms = .ok ds ↔ RepresentsDocument tree ms ds) ∧
    (IsJson (.map ms) → (¬∃ ds, RepresentsDocument tree ms ds) →
      ∃ path cause, decode tree ms = .error (.of path cause) ∧
        (cause.isWritable = false → (Value.map ms).isOversized = true)) := by
  refine ⟨fun ds => decode_eq_ok_iff, fun hms hnot => ?_⟩
  cases h : decode tree ms with
  | ok ds => exact absurd ⟨ds, decode_eq_ok_iff.1 h⟩ hnot
  | error e =>
    obtain ⟨path, cause, rfl, hcause⟩ := explains_decode hms h
    exact ⟨path, cause, rfl, fun hw => isOversized_iff.2 (hcause hw)⟩

end Refused

/-! ## A text and an integer that is too long -/

/-- a schema with a leaf that holds a text -/
def labelSchema : Document :=
  ⟨[⟨"m", "urn:m", "m", none, [.named "x" none (.leaf ⟨"string", none, none⟩) []]⟩]⟩

/-- the type of the leaf -/
def labelType : TypeDef :=
  ⟨⟨"urn:m", "string"⟩, ["x", "string"], .builtIn .string, none, [], none⟩

/-- the tree of the schema -/
def labelTree : Tree :=
  ⟨[⟨"m", "urn:m", "m", [⟨⟨⟨"urn:m", "x"⟩, ["x"], none⟩, .leaf (some labelType), []⟩], none⟩]⟩

/-- the leaf with a value -/
def labelled (v : Value) : List (Value × Value) :=
  [(.text "m:x", v)]

/-- the least integer that has too many digits -/
def wide : Value :=
  .int (Nat.pow 10 Number.maxIntegerDigits : Nat)

theorem decode_labelled (v : Value) : decode labelTree (labelled v) =
    (decodeLeaf (some labelType) ["m:x"] v).map fun w => [.leaf ⟨"urn:m", "x"⟩ w] := by
  have hname : Text.splitQualified "m:x" = (some "m", "x") := by
    cbv
  have htop : decodeTop labelTree "m:x" v = (decodeLeaf (some labelType) ["m:x"] v).map (.leaf ⟨"urn:m", "x"⟩) := by
    simp [decodeTop, hname, labelTree, Tree.module?, decodeAmong, decodeAs, NodeKind.isData, decodeNode]
  change decodeTop labelTree "m:x" v >>= (fun d => pure [] >>= fun ds => pure (d :: ds)) = _
  rw [htop]
  cases decodeLeaf (some labelType) ["m:x"] v <;> rfl

/-- a text fits the schema; the integer does not, and the cause cannot be put into words -/
theorem labelled_represents : labelSchema.resolve = .ok labelTree ∧
    RepresentsDocument labelTree (labelled (.text "a")) [.leaf ⟨"urn:m", "x"⟩ (.text "a")] ∧
    IsJson (.map (labelled wide)) ∧ (¬∃ ds, RepresentsDocument labelTree (labelled wide) ds) ∧
    decode labelTree (labelled wide) = .error .unwritable ∧
    ∃ path cause, decode labelTree (labelled wide) = .error (.of path cause) ∧
      (cause.isWritable = false → (Value.map (labelled wide)).isOversized = true) := by
  have hjson : IsJson (.map (labelled wide)) :=
    .map (List.forall_mem_singleton.2 ⟨"m:x", rfl⟩) (List.forall_mem_singleton.2 (.int _))
  have hshown : DataCause.isWritable (.expected "string string" wide) = false := by
    decide +kernel
  have hdecode : decode labelTree (labelled wide) = .error .unwritable := by
    have hleaf : decodeLeaf (some labelType) ["m:x"] wide = .error (.of ["m:x"] (.expected "string string" wide)) := rfl
    rw [decode_labelled, hleaf, DataFailure.of, hshown]
    rfl
  have hnot : ¬∃ ds, RepresentsDocument labelTree (labelled wide) ds := by
    rintro ⟨ds, hds⟩
    cases hdecode.symm.trans (((decode_represents labelTree (labelled wide)).1 ds).2 hds)
  have hfits : decode labelTree (labelled (.text "a")) = .ok [.leaf ⟨"urn:m", "x"⟩ (.text "a")] :=
    decode_labelled (.text "a")
  exact ⟨rfl, ((decode_represents _ _).1 _).1 hfits, hjson, hnot, hdecode, (decode_represents _ _).2 hjson hnot⟩

end YangDesign.Instance
