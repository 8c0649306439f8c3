/-
Designs that are written and read back.

The settings of a translation give a design its namespaces (`translate_namespaces`). With a target that is made from an
accepted name, the design is read back as it is in short (`translate_readSummary`).
-/
import YangDesign.Proofs.Design.ReadBack
import YangDesign.Proofs.Input.Accepted
import YangDesign.Proofs.Translate.Refusals

namespace YangDesign.Translate

open Design Input Instance Schema Text

/-! ## Names of designs -/

theorem isAlphanum_ge {c : Char} (h : c.isAlphanum = true) : 48 ≤ c.toNat := by
  have hcases : (c.isUpper || c.isLower || c.isDigit) = true := h
  rw [Bool.or_eq_true, Bool.or_eq_true] at hcases
  rcases hcases with (hupper | hlower) | hdigit
  · exact Nat.le_trans (by decide) (show 65 ≤ c.toNat from (of_decide_eq_true hupper).1)
  · have hrange : (decide (97 ≤ c.val.toNat) && decide (c.val.toNat ≤ 122)) = true := hlower
    rw [Bool.and_eq_true, decide_eq_true_eq, decide_eq_true_eq] at hrange
    exact Nat.le_trans (by decide) hrange.1
  · rw [Char.isDigit, Bool.and_eq_true, decide_eq_true_eq, decide_eq_true_eq] at hdigit
    exact hdigit.1

theorem isBlank_of_isAlphanum {c : Char} (h : c.isAlphanum = true) : isBlank c = false := by
  have hge := isAlphanum_ge h
  have hlt := isAlphanum_lt h
  rw [Bool.eq_false_iff]
  intro hblank
  simp only [isBlank, Bool.or_eq_true, Bool.and_eq_true, decide_eq_true_eq, beq_iff_eq] at hblank
  omega

/-- a text without blanks is not trimmed -/
theorem trim_eq_self {s : String} (hs : s.toList.any isBlank = false) : trim s = s := by
  have h : ∀ c ∈ s.toList, isBlank c = false := by simpa using hs
  have hstart : s.toList.dropWhile isBlank = s.toList := by
    cases hs : s.toList with
    | nil => rfl
    | cons c cs => rw [List.dropWhile_cons_of_neg (by rw [h c (by rw [hs]; exact List.mem_cons_self)]; decide)]
  have hend : s.toList.reverse.dropWhile isBlank = s.toList.reverse := by
    cases hs : s.toList.reverse with
    | nil => rfl
    | cons c cs =>
      have hc : c ∈ s.toList := List.mem_reverse.1 (by rw [hs]; exact List.mem_cons_self)
      rw [List.dropWhile_cons_of_neg (by rw [h c hc]; decide)]
  rw [trim, trimBlank, hstart, trimEnd, hend, List.reverse_reverse, String.ofList_toList]

/-- the name of a design that is accepted has the form of one -/
theorem accepts_designName {now : Int} {v : Value} {s : Settings} (h : Settings.check now v = .ok s) :
    Form.designName.accepts s.designName = true := by
  obtain ⟨ms, h⟩ := ok_of_object h
  have h := ok_of_closed h
  obtain ⟨_, _, h, -, hs⟩ := Checked.ok_of_seq h
  obtain ⟨_, _, h, -, hs'⟩ := Checked.ok_of_seq h
  obtain ⟨_, _, h, -, hs''⟩ := Checked.ok_of_seq h
  obtain ⟨name, hname, hs'''⟩ := Checked.ok_of_map h
  subst hs hs' hs'' hs'''
  rcases ok_of_defaulting hname with rfl | ⟨v, hname⟩
  · change Form.designName.accepts defaultDesignName = true
    decide
  · obtain ⟨t, ht, hname⟩ := Checked.ok_of_andThen hname
    obtain ⟨-, rfl⟩ := Checked.ok_of_refusedIf hname
    exact accepts_of_textOf ht

theorem isBlank_of_designName {name : String} (h : Form.designName.accepts name = true) :
    ∀ c ∈ name.toList, isBlank c = false := by
  have hpart : ∀ c : Char, (c.isAlphanum || c == '_') = true → isBlank c = false := by
    intro c hc
    rw [Bool.or_eq_true, beq_iff_eq] at hc
    rcases hc with hc | rfl
    · exact isBlank_of_isAlphanum hc
    · decide
  intro c hc
  cases hname : name.toList with
  | nil =>
    rw [hname] at hc
    cases hc
  | cons d ds =>
    rw [Form.accepts, hname, hasShape, Bool.and_eq_true, List.all_eq_true] at h
    rw [hname] at hc
    rcases List.mem_cons.1 hc with rfl | hc
    · refine hpart c ?_
      have hstart := h.1
      rw [isNameStart, Bool.or_eq_true] at hstart
      rw [Bool.or_eq_true, Char.isAlphanum, Bool.or_eq_true]
      exact hstart.imp Or.inl id
    · exact hpart c (h.2 c hc)

/-! ## Results -/

variable {tree : Tree} {s : Settings} {data : List DataNode} {doc : ModelDocument}

/-- a translation leaves the namespaces of its design as the settings give them -/
theorem translate_namespaces (hr : tree.Resolved) (h : translate s tree data = .ok doc) :
    doc.target = s.target ∧ doc.namespaces = designNamespaces s := by
  obtain ⟨p, hrun, rfl⟩ := translate_eq_ok_iff.1 h
  have hgrows := (Holds.ok (keeps_run hr s data) hrun).2.1.document
  exact ⟨hgrows.target, hgrows.namespaces⟩

/-- **Writing and reading agree.** Whatever the schema and the data are, a design that is made under an accepted name, with the
target that belongs to the name, is read back as what it is in short: its target, its namespaces, the kinds of its definitions
and their names in order. The limit on the depth of documents is set aside. -/
theorem translate_readSummary {d : Document} (hresolve : d.resolve = .ok tree) {now : Int} {v : Value}
    (hs : Settings.check now v = .ok s) (huri : s.namespaceUri = none) (h : translate s tree data = .ok doc)
    {pretty : Bool} {text : String} (hwrite : doc.write pretty = .ok text)
    (hdepth : ∀ root, doc.element = .ok root → root.height ≤ Xml.depthLimit) : readSummary text = .ok doc.summary := by
  obtain ⟨htarget, hnamespaces⟩ := translate_namespaces (Document.resolve_resolved hresolve) h
  have hname : s.designName.toList.any isBlank = false := by
    simpa using isBlank_of_designName (accepts_designName hs)
  have hchars : s.target.toList = "urn:yang-to-opcua:".toList ++ s.designName.toList := by
    rw [Settings.target, huri]
    exact String.toList_append
  have hne : ∀ uri : String, ¬ "urn:yang-to-opcua:".toList <+: uri.toList → s.target ≠ uri := by
    rintro uri hstarts rfl
    exact hstarts ⟨_, hchars.symm⟩
  have hblank : s.target.toList.any isBlank = false := by
    rw [hchars, List.any_append, hname]
    rfl
  refine readSummary_write ?_ ?_ hdepth hwrite
  · rw [htarget]
    exact ⟨hne _ (by decide), hne _ (by decide), hne _ (by decide)⟩
  · rw [hnamespaces]
    exact List.forall_mem_cons.2 ⟨by rfl, List.forall_mem_cons.2 ⟨trim_eq_self hblank, fun _ h => by cases h⟩⟩

/-- a container with a leaf, and markup in what describes them -/
def markedSchema : Document :=
  ⟨[⟨"m", "u", "m", none, [.named "c" (some "</opc:Description> & \"a\"\r\n]]>") .container
    [.named "x" (some "<opc:DataType/>") (.leaf (.mk "string" none none)) []]]⟩]⟩

/-- the tree of the marked schema -/
def markedTree : Tree :=
  ⟨[⟨"m", "u", "m", [.mk ⟨⟨"u", "c"⟩, ["c"], some "</opc:Description> & \"a\"\r\n]]>"⟩ .container
    [.mk ⟨⟨"u", "x"⟩, ["c", "x"], some "<opc:DataType/>"⟩
      (.leaf (some (.mk ⟨"u", "string"⟩ ["c", "x", "string"] (.builtIn .string) none [] none))) []]], none⟩]⟩

/-- data for the marked schema that looks like the end of a design -/
def markedData : List DataNode :=
  [.container ⟨"u", "c"⟩ [.leaf ⟨"u", "x"⟩ (.text "\n</opc:Object></opc:ModelDesign>\t<!--")]]

theorem markedSchema_readSummary : ∃ s tree doc text,
    Settings.check 0 (.map [(.text "design_name", .text "plant")]) = .ok s ∧ s.namespaceUri = none ∧
    markedSchema.resolve = .ok tree ∧ translate s tree markedData = .ok doc ∧ doc.write true = .ok text ∧
    readSummary text = .ok doc.summary ∧
    doc.summary.names = ["ns0__c___xLeafType", "ns0__cContainerType", "ns0__cContainerInstance"] := by
  have hs : Settings.check 0 (.map [(.text "design_name", .text "plant")]) = .ok ⟨"plant", none, 0, true⟩ := rfl
  have hresolve : markedSchema.resolve = .ok markedTree := rfl
  obtain ⟨doc, hdoc, hwritten⟩ : ∃ doc, translate ⟨"plant", none, 0, true⟩ markedTree markedData = .ok doc ∧
      (doc.element.toOption.any (fun root => decide (root.height ≤ Xml.depthLimit)) &&
        doc.summary.names == ["ns0__c___xLeafType", "ns0__cContainerType", "ns0__cContainerInstance"]) = true :=
    ok_of_any (by decide +kernel)
  rw [Bool.and_eq_true, beq_iff_eq] at hwritten
  obtain ⟨root, hroot, hheight⟩ := ok_of_any hwritten.1
  have hwrite : doc.write true = .ok (Xml.render true root) := by
    rw [ModelDocument.write, hroot]
    rfl
  have hdepth : ∀ root', doc.element = .ok root' → root'.height ≤ Xml.depthLimit := by
    intro root' h
    cases hroot.symm.trans h
    exact of_decide_eq_true hheight
  exact ⟨_, markedTree, doc, _, hs, rfl, hresolve, hdoc, hwrite,
    translate_readSummary hresolve hs rfl hdoc hwrite hdepth, hwritten.2⟩

end YangDesign.Translate
