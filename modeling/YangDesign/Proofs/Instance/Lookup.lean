/-
Data nodes and the schema nodes that declare them.

`declared?` finds the schema node of a name as decoding does (`decodeAmong_eq`): choices are looked through, and the first node
in document order is taken; it also tells whether the node stands in a choice. `dataNodes` lists the nodes that are met in this
way. Decoding takes the first one of a name (`decodeAmong_eq_map_nodeAt?`), and their names are those that a translation collects
(`dataNames_eq`), so both agree on what lies in a choice (`decode_in_choice_iff`).

Where names are not repeated, on the side of the schema (`dataNames`) and on the side of the data (`Unrepeated`), a node and its
data find each other: a sum over the nodes, each with the data of its name, and a sum over the data, each with the node of its
name, have the same terms (`perm_matched`).
-/
import Mathlib.Data.Multiset.Bind
import Mathlib.Tactic
import YangDesign.Instance.Decode
import YangDesign.Proofs.Schema.Denotation
import YangDesign.Proofs.Schema.Nodes
import YangDesign.Translate.Shape

namespace YangDesign.Instance

open Schema Translate

/-! ## Declarations -/

mutual

/-- the data node of a name among some nodes, those of choices included, and whether it stands in a choice -/
def declared? (q : QName) (inChoice : Bool) : List Node → Option (Node × Bool)
  | [] => none
  | n :: ns => (declaredAs? q inChoice n).or (declared? q inChoice ns)

/-- a node if it is a data node of a name; for a choice, the data node of the name in its cases -/
def declaredAs? (q : QName) (inChoice : Bool) : Node → Option (Node × Bool)
  | ⟨head, kind, children⟩ =>
    match kind with
    | .choice => declaredInCases? q children
    | kind => if kind.isData && head.name = q then some (⟨head, kind, children⟩, inChoice) else none

/-- the data node of a name in some cases -/
def declaredInCases? (q : QName) : List Node → Option (Node × Bool)
  | [] => none
  | ⟨_, _, children⟩ :: cs => (declared? q true children).or (declaredInCases? q cs)

end

mutual

/-- decoding decodes a value for the node that declares it -/
theorem decodeAmong_eq (tree : Tree) (q : QName) (path : List String) (v : Value) : ∀ (ns : List Node) (inChoice : Bool),
    decodeAmong tree ns q path v = (declared? q inChoice ns).map fun x => decodeNode tree x.1 path v
  | [], inChoice => by simp [decodeAmong, declared?]
  | n :: ns, inChoice => by
    rw [decodeAmong, declared?, decodeAs_eq tree q path v n inChoice, decodeAmong_eq tree q path v ns inChoice]
    cases declaredAs? q inChoice n <;> rfl

theorem decodeAs_eq (tree : Tree) (q : QName) (path : List String) (v : Value) : ∀ (n : Node) (inChoice : Bool),
    decodeAs tree n q path v = (declaredAs? q inChoice n).map fun x => decodeNode tree x.1 path v
  | ⟨head, kind, children⟩, inChoice => by
    cases kind with
    | choice => simp only [decodeAs, declaredAs?, decodeInCases_eq tree q path v children]
    | container | list | leaf | leafList | case | typedef | identity | other =>
      simp only [decodeAs, declaredAs?]
      split <;> rfl

theorem decodeInCases_eq (tree : Tree) (q : QName) (path : List String) (v : Value) : ∀ (cs : List Node),
    decodeInCases tree cs q path v = (declaredInCases? q cs).map fun x => decodeNode tree x.1 path v
  | [] => by simp [decodeInCases, declaredInCases?]
  | ⟨_, _, children⟩ :: cs => by
    rw [decodeInCases, declaredInCases?, decodeAmong_eq tree q path v children true, decodeInCases_eq tree q path v cs]
    cases declared? q true children <;> rfl

end

/-! ## Places -/

mutual

/-- the data nodes at a place in document order, those in the cases of choices included -/
def dataNodes : List Node → List Node
  | [] => []
  | n :: ns => dataNodesOf n ++ dataNodes ns

/-- a data node itself; for a choice, the data nodes in its cases -/
def dataNodesOf : Node → List Node
  | ⟨head, kind, children⟩ =>
    match kind with
    | .choice => dataNodesIn children
    | kind => if kind.isData then [⟨head, kind, children⟩] else []

/-- the data nodes in some cases -/
def dataNodesIn : List Node → List Node
  | [] => []
  | ⟨_, _, children⟩ :: cs => dataNodes children ++ dataNodesIn cs

end

/-- the first data node of a name at a place -/
def nodeAt? (ns : List Node) (q : QName) : Option Node :=
  (dataNodes ns).find? (·.head.name = q)

mutual

theorem map_declared? (q : QName) : ∀ (ns : List Node) (inChoice : Bool),
    (declared? q inChoice ns).map Prod.fst = (dataNodes ns).find? (·.head.name = q)
  | [], inChoice => by simp [declared?, dataNodes]
  | n :: ns, inChoice => by
    rw [declared?, dataNodes, List.find?_append, Option.map_or, map_declaredAs? q n, map_declared? q ns]

theorem map_declaredAs? (q : QName) : ∀ (n : Node) (inChoice : Bool),
    (declaredAs? q inChoice n).map Prod.fst = (dataNodesOf n).find? (·.head.name = q)
  | ⟨head, kind, children⟩, inChoice => by
    cases kind with
    | choice => simp only [declaredAs?, dataNodesOf, map_declaredInCases? q children]
    | container | list | leaf | leafList | case | typedef | identity | other =>
      by_cases hq : head.name = q <;> simp [declaredAs?, dataNodesOf, NodeKind.isData, hq]

theorem map_declaredInCases? (q : QName) : ∀ (cs : List Node),
    (declaredInCases? q cs).map Prod.fst = (dataNodesIn cs).find? (·.head.name = q)
  | [] => by simp [declaredInCases?, dataNodesIn]
  | ⟨_, _, children⟩ :: cs => by
    rw [declaredInCases?, dataNodesIn, List.find?_append, Option.map_or, map_declared? q children,
      map_declaredInCases? q cs]

end

/-- decoding looks at the first data node of a name -/
theorem decodeAmong_eq_map_nodeAt? (tree : Tree) (ns : List Node) (q : QName) (path : List String) (v : Value) :
    decodeAmong tree ns q path v = (nodeAt? ns q).map fun n => decodeNode tree n path v := by
  rw [decodeAmong_eq tree q path v ns false, nodeAt?, ← map_declared? q ns false, Option.map_map]
  rfl

mutual

/-- data nodes at a place are nodes below it -/
theorem mem_allIn_of_dataNodes : ∀ (ns : List Node) {m : Node}, m ∈ dataNodes ns → m ∈ Node.allIn ns
  | [], m, hm => by simp [dataNodes] at hm
  | n :: ns, m, hm => by
    rw [dataNodes, List.mem_append] at hm
    rw [Node.allIn, List.mem_append]
    exact hm.imp (mem_all_of_dataNodesOf n) (mem_allIn_of_dataNodes ns)

theorem mem_all_of_dataNodesOf : ∀ (n : Node) {m : Node}, m ∈ dataNodesOf n → m ∈ n.all
  | ⟨head, kind, children⟩, m, hm => by
    cases kind with
    | choice =>
      rw [dataNodesOf] at hm
      rw [Node.all]
      exact List.mem_cons_of_mem _ (mem_allIn_of_dataNodesIn children hm)
    | container | list | leaf | leafList =>
      obtain rfl : m = ⟨head, _, children⟩ := by simpa [dataNodesOf, NodeKind.isData] using hm
      exact Node.mem_all_self _
    | case | typedef | identity | other => simp [dataNodesOf, NodeKind.isData] at hm

theorem mem_allIn_of_dataNodesIn : ∀ (cs : List Node) {m : Node}, m ∈ dataNodesIn cs → m ∈ Node.allIn cs
  | [], m, hm => by simp [dataNodesIn] at hm
  | ⟨_, _, children⟩ :: cs, m, hm => by
    rw [dataNodesIn, List.mem_append] at hm
    rw [Node.allIn, List.mem_append, Node.all]
    exact hm.imp (fun hm => List.mem_cons_of_mem _ (mem_allIn_of_dataNodes children hm)) (mem_allIn_of_dataNodesIn cs)

end

theorem name_of_nodeAt? {ns : List Node} {q : QName} {n : Node} (h : nodeAt? ns q = some n) : n.head.name = q := by
  have hname := List.find?_some h
  exact of_decide_eq_true hname

/-- a declared node has the name that it is declared by -/
theorem name_of_declared? {q : QName} {x : Node} {c : Bool} (ns : List Node) {inChoice : Bool}
    (h : declared? q inChoice ns = some (x, c)) : x.head.name = q := by
  have hfirst : nodeAt? ns q = some x := by
    rw [nodeAt?, ← map_declared? q ns inChoice, h]
    rfl
  exact name_of_nodeAt? hfirst

mutual

/-- the names among some nodes are those of the data nodes there -/
theorem dataNames_eq : ∀ ns : List Node, dataNames ns = (dataNodes ns).map (·.head.name)
  | [] => by rw [dataNames, dataNodes, List.map_nil]
  | n :: ns => by rw [dataNames, dataNodes, List.map_append, dataNamesOf_eq n, dataNames_eq ns]

theorem dataNamesOf_eq : ∀ n : Node, dataNamesOf n = (dataNodesOf n).map (·.head.name)
  | ⟨head, kind, children⟩ => by
    cases kind with
    | choice =>
      rw [dataNamesOf, dataNodesOf]
      exact caseNames_eq children
    | container | list | leaf | leafList | case | typedef | identity | other =>
      simp [dataNamesOf, dataNodesOf, NodeKind.isData]

/-- the names in some cases are those of the data nodes there -/
theorem caseNames_eq : ∀ cs : List Node, caseNames cs = (dataNodesIn cs).map (·.head.name)
  | [] => by rw [caseNames, dataNodesIn, List.map_nil]
  | ⟨_, _, children⟩ :: cs => by
    rw [caseNames, caseNamesOf, dataNodesIn, List.map_append, dataNames_eq children, caseNames_eq cs]

end

mutual

/-- a declared node has its name among those of the data nodes, and in a choice it stays in a choice -/
theorem mem_dataNames_of_declared? {q : QName} {x : Node} {c : Bool} : ∀ (ns : List Node) {inChoice : Bool},
    declared? q inChoice ns = some (x, c) → q ∈ dataNames ns ∧ (inChoice = true → c = true)
  | [], inChoice, h => by simp [declared?] at h
  | n :: ns, inChoice, h => by
    rw [declared?, Option.or_eq_some_iff] at h
    rw [dataNames]
    rcases h with h | ⟨-, h⟩
    · exact (mem_dataNamesOf_of_declaredAs? n h).imp (List.mem_append_left _) id
    · exact (mem_dataNames_of_declared? ns h).imp (List.mem_append_right _) id

theorem mem_dataNamesOf_of_declaredAs? {q : QName} {x : Node} {c : Bool} : ∀ (n : Node) {inChoice : Bool},
    declaredAs? q inChoice n = some (x, c) → q ∈ dataNamesOf n ∧ (inChoice = true → c = true)
  | ⟨head, kind, children⟩, inChoice, h => by
    cases kind with
    | choice =>
      rw [declaredAs?] at h
      obtain ⟨hq, hc⟩ := mem_caseNames_of_declaredInCases? children h
      exact ⟨by rw [dataNamesOf]; exact hq, fun _ => hc⟩
    | container | list | leaf | leafList | case | typedef | identity | other =>
      simp only [declaredAs?, Option.ite_none_right_eq_some, Option.some.injEq, Prod.mk.injEq, Bool.and_eq_true,
        decide_eq_true_eq] at h
      obtain ⟨⟨hdata, rfl⟩, -, rfl⟩ := h
      exact ⟨by simp [dataNamesOf, hdata], id⟩

theorem mem_caseNames_of_declaredInCases? {q : QName} {x : Node} {c : Bool} : ∀ (cs : List Node),
    declaredInCases? q cs = some (x, c) → q ∈ caseNames cs ∧ c = true
  | [], h => by simp [declaredInCases?] at h
  | ⟨_, _, children⟩ :: cs, h => by
    rw [declaredInCases?, Option.or_eq_some_iff] at h
    rw [caseNames, caseNamesOf]
    rcases h with h | ⟨-, h⟩
    · obtain ⟨hq, hc⟩ := mem_dataNames_of_declared? children h
      exact ⟨List.mem_append_left _ hq, hc rfl⟩
    · exact (mem_caseNames_of_declaredInCases? cs h).imp (List.mem_append_right _) id

end

/-- a declared node that stands in no choice is one of the nodes -/
theorem mem_of_declared? {q : QName} {x : Node} {ns : List Node} (h : declared? q false ns = some (x, false)) : x ∈ ns := by
  induction ns with
  | nil => cases h
  | cons n ns ih =>
    rw [declared?, Option.or_eq_some_iff] at h
    rcases h with h | ⟨-, h⟩
    · obtain ⟨head, kind, children⟩ := n
      cases kind with
      | choice =>
        rw [declaredAs?] at h
        cases (mem_caseNames_of_declaredInCases? children h).2
      | container | list | leaf | leafList | case | typedef | identity | other =>
        simp only [declaredAs?, Option.ite_none_right_eq_some, Option.some.injEq, Prod.mk.injEq] at h
        rw [← h.2.1]
        exact List.mem_cons_self
    · exact List.mem_cons_of_mem _ (ih h)

theorem name_mem_dataNames {ns : List Node} {n : Node} (hn : n ∈ ns) (hk : n.kind.isData = true) :
    n.head.name ∈ dataNames ns := by
  have hself : n.head.name ∈ dataNamesOf n := by
    obtain ⟨head, kind, children⟩ := n
    cases kind with
    | container | list | leaf | leafList => simp [dataNamesOf, NodeKind.isData]
    | choice | case | typedef | identity | other => cases hk
  induction ns with
  | nil => cases hn
  | cons m ns ih =>
    rw [dataNames, List.mem_append]
    rcases List.mem_cons.1 hn with rfl | hn
    · exact Or.inl hself
    · exact Or.inr (ih hn)

/-! ## Choices -/

/-- for a choice, decoding looks at the first data node of a name in its cases -/
theorem decodeAmong_choice (tree : Tree) (head : Head) (cases : List Node) (q : QName) (path : List String) (v : Value) :
    decodeAmong tree [⟨head, .choice, cases⟩] q path v =
      ((dataNodesIn cases).find? (·.head.name = q)).map fun n => decodeNode tree n path v := by
  have hplace : dataNodes [⟨head, .choice, cases⟩] = dataNodesIn cases := by
    rw [dataNodes, dataNodesOf, dataNodes, List.append_nil]
  rw [decodeAmong_eq_map_nodeAt?, nodeAt?, hplace]

/-- **Decoding and translation agree on what lies in a choice.** For a choice alone, decoding finds a node of a name exactly if
the name is among those that translation collects from its cases, whatever is nested in them. What it finds is a data node
that has the name: the first such node among those whose names are collected. -/
theorem decode_in_choice_iff (tree : Tree) (head : Head) (cases : List Node) (q : QName) (path : List String) (v : Value) :
    ((decodeAmong tree [⟨head, .choice, cases⟩] q path v).isSome = true ↔ q ∈ caseNames cases) ∧
    caseNames cases = (dataNodesIn cases).map (·.head.name) ∧
    ∀ answer, decodeAmong tree [⟨head, .choice, cases⟩] q path v = some answer →
      ∃ n, (dataNodesIn cases).find? (·.head.name = q) = some n ∧ n.head.name = q ∧ answer = decodeNode tree n path v := by
  refine ⟨?_, caseNames_eq cases, fun answer hanswer => ?_⟩
  · rw [decodeAmong_choice, Option.isSome_map, List.find?_isSome, caseNames_eq, List.mem_map]
    simp only [decide_eq_true_eq]
  · rw [decodeAmong_choice, Option.map_eq_some_iff] at hanswer
    obtain ⟨n, hn, rfl⟩ := hanswer
    have hname := List.find?_some hn
    exact ⟨n, hn, of_decide_eq_true hname, rfl⟩

/-! ## Data of a node -/

/-- whether a data node holds what data of a kind of node holds -/
def DataNode.fits (d : DataNode) : NodeKind → Bool
  | .container => d.containerChildren?.isSome
  | .list _ => d.listEntries?.isSome
  | .leaf _ => d.leafValue?.isSome
  | .leafList _ => d.leafListValues?.isSome
  | _ => false

/-- whether a data node belongs to a schema node: it has the name, and holds what the kind calls for -/
def Node.carries (n : Node) (d : DataNode) : Bool :=
  d.name = n.head.name && d.fits n.kind

/-- what is decoded for a node belongs to it -/
theorem carries_of_decodeNode {tree : Tree} {n : Node} {path : List String} {v : Value} {d : DataNode}
    (h : decodeNode tree n path v = .ok d) : Node.carries n d = true := by
  obtain ⟨head, kind, children⟩ := n
  cases kind with
  | container =>
    simp only [decodeNode] at h
    obtain ⟨cs, -, rfl⟩ := map_eq_ok_iff.1 h
    simp [Node.carries, DataNode.name, DataNode.fits, DataNode.containerChildren?]
  | leaf type =>
    simp only [decodeNode] at h
    obtain ⟨v, -, rfl⟩ := map_eq_ok_iff.1 h
    simp [Node.carries, DataNode.name, DataNode.fits, DataNode.leafValue?]
  | list keys =>
    simp only [decodeNode] at h
    split at h
    · obtain ⟨es, -, rfl⟩ := map_eq_ok_iff.1 h
      simp [Node.carries, DataNode.name, DataNode.fits, DataNode.listEntries?]
    · cases h
  | leafList type =>
    simp only [decodeNode] at h
    split at h
    · obtain ⟨vs, -, rfl⟩ := map_eq_ok_iff.1 h
      simp [Node.carries, DataNode.name, DataNode.fits, DataNode.leafListValues?]
    · cases h
  | choice | case | typedef | identity | other =>
    simp only [decodeNode] at h
    cases h

theorem isSome_findChild? {β : Type} {select : DataNode → Option β} {q : QName} {ds : List DataNode} :
    (findChild? select q ds).isSome = true ↔ ∃ d ∈ ds, d.name = q ∧ (select d).isSome = true := by
  rw [findChild?, List.isSome_findSome?, List.any_eq_true]
  refine exists_congr fun d => and_congr_right fun _ => ?_
  by_cases hq : d.name = q <;> simp [hq]

/-- children that are not selected may be left out -/
theorem findChild?_filter {β : Type} {select : DataNode → Option β} {q : QName} {keep : DataNode → Bool}
    {ds : List DataNode} (h : ∀ d ∈ ds, d.name = q → (select d).isSome = true → keep d = true) :
    findChild? select q (ds.filter keep) = findChild? select q ds := by
  induction ds with
  | nil => rfl
  | cons d ds ih =>
    obtain ⟨hd, hds⟩ := List.forall_mem_cons.1 h
    rw [List.filter_cons]
    split
    · rw [findChild?, findChild?, List.findSome?_cons, List.findSome?_cons]
      rw [← findChild?, ← findChild?, ih hds]
    · rename_i hdrop
      rw [ih hds, findChild?, findChild?, List.findSome?_cons]
      have hnone : (if d.name = q then select d else none) = none := by
        by_contra hsome
        obtain ⟨hq, hselect⟩ : d.name = q ∧ (select d).isSome = true := by
          split at hsome
          · exact ⟨‹_›, Option.isSome_iff_ne_none.2 hsome⟩
          · exact absurd rfl hsome
        exact hdrop (hd hq hselect)
      rw [hnone]

/-! ## Matching -/

variable {α : Type}

/-- whether a node is the one that declares data of a name -/
def Node.declares (n : Node) (q : QName) : Bool :=
  n.kind.isData && n.head.name = q

theorem flatMap_declares_eq_nil {ns : List Node} {q : QName} (h : q ∉ dataNames ns) (f : Node → List α) :
    (ns.flatMap fun n => if Node.declares n q then f n else []) = [] := by
  rw [List.flatMap_eq_nil_iff]
  intro n hn
  rw [if_neg]
  rw [Node.declares, Bool.and_eq_true, decide_eq_true_eq]
  rintro ⟨hk, rfl⟩
  exact h (name_mem_dataNames hn hk)

/-- a sum over the nodes that declare a name has the term of the declared node, if that stands in no choice -/
theorem flatMap_declares {ns : List Node} (h : (dataNames ns).Nodup) (q : QName) (f : Node → List α) :
    (ns.flatMap fun n => if Node.declares n q then f n else []) =
      match declared? q false ns with
      | some (n, false) => f n
      | _ => [] := by
  induction ns with
  | nil => rfl
  | cons n ns ih =>
    rw [dataNames, List.nodup_append] at h
    obtain ⟨-, hns, hdisjoint⟩ := h
    have hrest : q ∈ dataNamesOf n → (ns.flatMap fun n => if Node.declares n q then f n else []) = [] :=
      fun hq => flatMap_declares_eq_nil (fun hq' => hdisjoint q hq q hq' rfl) f
    rw [List.flatMap_cons, declared?]
    cases hn : declaredAs? q false n with
    | none =>
      have hhead : Node.declares n q = false := by
        obtain ⟨head, kind, children⟩ := n
        cases kind with
        | choice | case | typedef | identity | other => rfl
        | container | list | leaf | leafList => simpa [declaredAs?, Node.declares, NodeKind.isData] using hn
      rw [hhead, ih hns]
      rfl
    | some x =>
      obtain ⟨x, c⟩ := x
      rw [hrest (mem_dataNamesOf_of_declaredAs? n hn).1, List.append_nil, Option.some_or]
      obtain ⟨head, kind, children⟩ := n
      cases kind with
      | choice =>
        rw [declaredAs?] at hn
        rw [(mem_caseNames_of_declaredInCases? children hn).2]
        rfl
      | container | list | leaf | leafList | case | typedef | identity | other =>
        simp only [declaredAs?, Option.ite_none_right_eq_some, Option.some.injEq, Prod.mk.injEq, Bool.and_eq_true,
          decide_eq_true_eq] at hn
        obtain ⟨⟨hdata, rfl⟩, rfl, rfl⟩ := hn
        simp [Node.declares, hdata]

theorem find?_named_eq_none {ds : List DataNode} {q : QName} (h : q ∉ ds.map DataNode.name) :
    (ds.find? fun d => d.name = q) = none := by
  rw [List.find?_eq_none]
  intro d hd heq
  rw [decide_eq_true_eq] at heq
  exact h (heq ▸ List.mem_map_of_mem hd)

/-- a sum over data of a name has the term of the first one -/
theorem flatMap_named {ds : List DataNode} (h : (ds.map DataNode.name).Nodup) (q : QName) (f : DataNode → List α) :
    (ds.flatMap fun d => if d.name = q then f d else []) = ((ds.find? fun d => d.name = q).map f).getD [] := by
  induction ds with
  | nil => rfl
  | cons d ds ih =>
    obtain ⟨hd, hds⟩ := List.nodup_cons.1 h
    rw [List.flatMap_cons, List.find?_cons, ih hds]
    by_cases hq : d.name = q
    · simp [hq, find?_named_eq_none (hq ▸ hd)]
    · simp [hq]

/-- where names are not repeated, the first child that is selected is the child of the name -/
theorem findChild?_eq {β : Type} {ds : List DataNode} (h : (ds.map DataNode.name).Nodup) (select : DataNode → Option β)
    (q : QName) : findChild? select q ds = (ds.find? fun d => d.name = q).bind select := by
  induction ds with
  | nil => rfl
  | cons d ds ih =>
    obtain ⟨hd, hds⟩ := List.nodup_cons.1 h
    have hcons : findChild? select q (d :: ds) =
        (if d.name = q then select d else none).or (findChild? select q ds) := by
      rw [findChild?, findChild?, List.findSome?_cons]
      cases (if d.name = q then select d else none) <;> rfl
    rw [hcons, ih hds, List.find?_cons]
    by_cases hq : d.name = q
    · simp [hq, find?_named_eq_none (hq ▸ hd)]
    · simp [hq]

/-- what the data of a node are selected for is a sum over data with the name of the node -/
theorem perm_selected {β : Type} {ds : List DataNode} (h : (ds.map DataNode.name).Nodup) {n : Node}
    (hk : n.kind.isData = true) {select : DataNode → Option β} {g : β → List α} {f : DataNode → List α}
    (hfg : ∀ d ∈ ds, (((select d).map g).getD []).Perm (f d)) :
    (((findChild? select n.head.name ds).map g).getD []).Perm
      (ds.flatMap fun d => if Node.declares n d.name then f d else []) := by
  have hsum : (ds.flatMap fun d => if Node.declares n d.name then f d else []) =
      ((ds.find? fun d => d.name = n.head.name).map f).getD [] := by
    rw [← flatMap_named h]
    refine List.flatMap_congr fun d _ => ?_
    simp only [Node.declares, hk, Bool.true_and, decide_eq_true_eq, eq_comm (a := d.name)]
  rw [hsum, findChild?_eq h]
  cases hd : ds.find? fun d => d.name = n.head.name with
  | none => exact List.Perm.refl _
  | some d => exact hfg d (List.mem_of_find?_eq_some hd)

/-- **Nodes and data find each other**: summed over the nodes or over the data, the terms are the same. -/
theorem perm_matched {ns : List Node} (hns : (dataNames ns).Nodup) (ds : List DataNode) (f : Node → DataNode → List α) :
    (ns.flatMap fun n => ds.flatMap fun d => if Node.declares n d.name then f n d else []).Perm
      (ds.flatMap fun d =>
        match declared? d.name false ns with
        | some (n, false) => f n d
        | _ => []) := by
  have hswap : (ns.flatMap fun n => ds.flatMap fun d => if Node.declares n d.name then f n d else []).Perm
      (ds.flatMap fun d => ns.flatMap fun n => if Node.declares n d.name then f n d else []) := by
    rw [← Multiset.coe_eq_coe]
    simpa only [Multiset.coe_bind] using Multiset.bind_bind (ns : Multiset Node) (ds : Multiset DataNode)
      (f := fun n d => ((if Node.declares n d.name then f n d else [] : List α) : Multiset α))
  refine hswap.trans (List.Perm.of_eq (List.flatMap_congr fun d _ => ?_))
  exact flatMap_declares hns d.name fun n => f n d

/-! ## Data without repetitions -/

/-- no two children of a node, and no two nodes at the top, have one name -/
inductive Unrepeated : List DataNode → Prop where
  | intro {ds : List DataNode} : (ds.map DataNode.name).Nodup → (∀ q cs, .container q cs ∈ ds → Unrepeated cs) →
    (∀ q es, .list q es ∈ ds → ∀ cs ∈ es, Unrepeated cs) → Unrepeated ds

theorem Unrepeated.nodup {ds : List DataNode} (h : Unrepeated ds) : (ds.map DataNode.name).Nodup := by
  cases h
  assumption

theorem Unrepeated.container {ds cs : List DataNode} {q : QName} (h : Unrepeated ds) (hd : .container q cs ∈ ds) :
    Unrepeated cs := by
  cases h with
  | intro _ hcontainer _ => exact hcontainer q cs hd

theorem Unrepeated.list {ds : List DataNode} {es : List (List DataNode)} {q : QName} (h : Unrepeated ds)
    (hd : .list q es ∈ ds) : ∀ cs ∈ es, Unrepeated cs := by
  cases h with
  | intro _ _ hlist => exact hlist q es hd

end YangDesign.Instance
