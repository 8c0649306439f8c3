/-
What the checks of a document make true of its names and types. They admit only letters, digits, underscores, dots and hyphens
in the names of constructs and types (`Document.namesOf_of_check`), and so in the parts of all paths of its tree, and an
enumeration only with enums (`Document.sound_of_check`).
-/
import YangDesign.Proofs.Input.Accepted
import YangDesign.Proofs.Schema.Resolution
import YangDesign.Schema.Check

namespace YangDesign.Schema

open Input Input.Checked Text

/-- a text in the characters of identifiers -/
def IsNameText (s : String) : Prop :=
  ∀ c ∈ s.toList, isNamePart c = true

theorem isNamePart_of_isNameStart {c : Char} (h : isNameStart c = true) : isNamePart c = true := by
  simp only [isNameStart, isNamePart, Char.isAlphanum, Bool.or_eq_true] at h ⊢
  tauto

theorem isNameText_of_isIdentifier {s : String} (h : isIdentifier s.toList = true) : IsNameText s := by
  intro c hc
  unfold isIdentifier hasShape at h
  split at h
  · cases h
  · rename_i d ds heq
    rw [Bool.and_eq_true, List.all_eq_true] at h
    rw [heq, List.mem_cons] at hc
    rcases hc with rfl | hc
    · exact isNamePart_of_isNameStart h.1
    · exact h.2 c hc

theorem isNameText_of_qualified {s : String} (h : Form.accepts .qualified s = true) :
    IsNameText (splitQualified s).2 := by
  unfold Form.accepts at h
  unfold splitQualified
  dsimp only at h
  split at h
  · exact isNameText_of_isIdentifier h
  · rw [Bool.and_eq_true] at h
    refine isNameText_of_isIdentifier ?_
    rw [String.toList_ofList]
    exact h.2

/-- what the checks make true of a reference to a type -/
structure TypeRef.Sound (r : TypeRef) : Prop where
  name : IsNameText (splitQualified r.name).2
  enums : r.name = "enumeration" → r.enums.getD [] ≠ []

/-- what the checks make true of a statement -/
def Statement.Sound : Statement → Prop
  | .named name _ construct _ => IsNameText name ∧ ∀ r, construct.typeRef? = some r → r.Sound
  | .other .. => True

theorem sound_of_checkType {room : Nat} {v : Value} {t : TypeRef} (h : checkType room v = .ok t) : t.Sound := by
  have found : ∀ ms, checkTypeObject ms = .ok t → t.Sound := by
    intro ms h
    obtain ⟨r, hr, h⟩ := ok_of_andThen h
    obtain ⟨henums, rfl⟩ := ok_of_refusedIf h
    obtain ⟨f, description, hf, -, rfl⟩ := ok_of_seq (ok_of_closed hr)
    obtain ⟨g, enums, hg, -, rfl⟩ := ok_of_seq hf
    obtain ⟨name, hname, rfl⟩ := ok_of_map hg
    obtain ⟨v, hv⟩ := ok_of_required hname
    exact ⟨isNameText_of_qualified (accepts_of_textOf hv), by simpa using henums⟩
  unfold checkType at h
  split at h
  · cases h
  · split at h
    · exact found _ h
    · exact found _ h
    · obtain ⟨ms, h⟩ := ok_of_object h
      exact found ms h

/-- the names and types in all statements of a list are sound -/
def SoundIn (ss : List Statement) : Prop :=
  ∀ x ∈ Statement.allIn ss, x.Sound

theorem sound_of_namedStatement {ms : Members} {fields : List String} {construct : Checked Construct}
    {children : Checked (List Statement)} {s : Statement} (h : namedStatement ms fields construct children = .ok s)
    (hc : ∀ c, construct = .ok c → ∀ r, c.typeRef? = some r → r.Sound)
    (hs : ∀ ss, children = .ok ss → SoundIn ss) : ∀ x ∈ s.all, x.Sound := by
  obtain ⟨f, ss, hf, hss, rfl⟩ := ok_of_seq (ok_of_closed h)
  obtain ⟨g, c, hg, hcc, rfl⟩ := ok_of_seq hf
  obtain ⟨k, description, hk, -, rfl⟩ := ok_of_seq hg
  obtain ⟨name, hname, rfl⟩ := ok_of_map hk
  obtain ⟨v, hv⟩ := ok_of_required hname
  intro x hx
  rw [Statement.all, List.mem_cons] at hx
  rcases hx with rfl | hx
  · exact ⟨isNameText_of_isIdentifier (accepts_of_textOf hv), hc c hcc⟩
  · exact hs ss hss x hx

theorem sound_of_checkStatements {check : Value → Checked Statement}
    (hcheck : ∀ v s, check v = .ok s → ∀ x ∈ s.all, x.Sound) {v : Value} {ss : List Statement}
    (h : checkStatements check v = .ok ss) : SoundIn ss := by
  intro x hx
  obtain ⟨s, hs, hx⟩ := Statement.mem_allIn.1 hx
  obtain ⟨w, hw⟩ := ok_of_listOf h s hs
  split at hw
  · cases hw
  · exact hcheck w s (ok_of_within hw) x hx

theorem sound_nil : SoundIn [] := fun x hx => by cases hx

theorem sound_of_statementOf {room : Nat} {below : Value → Checked Statement}
    (hbelow : ∀ v s, below v = .ok s → ∀ x ∈ s.all, x.Sound) {ms : Members} {s : Statement}
    (h : statementOf room below ms = .ok s) : ∀ x ∈ s.all, x.Sound := by
  have hunder : ∀ name ss, defaulting name [] (checkStatements below) ms = .ok ss → SoundIn ss := by
    intro name ss h
    rcases ok_of_defaulting h with rfl | ⟨v, hv⟩
    · exact sound_nil
    · exact sound_of_checkStatements hbelow hv
  have hnone : ∀ ss, (.ok [] : Checked (List Statement)) = .ok ss → SoundIn ss := by
    rintro ss ⟨⟩
    exact sound_nil
  have htype : ∀ r, required "type" (checkType room) ms = .ok r → r.Sound := by
    intro r hr
    obtain ⟨v, hv⟩ := ok_of_required hr
    exact sound_of_checkType hv
  unfold statementOf at h
  dsimp only at h
  split at h
  · refine sound_of_namedStatement h (fun c hc r hr => ?_) (hunder _)
    cases hc
    cases hr
  · refine sound_of_namedStatement h (fun c hc r hr => ?_) (hunder _)
    obtain ⟨key, -, rfl⟩ := ok_of_map hc
    cases hr
  · refine sound_of_namedStatement h (fun c hc r hr => ?_) hnone
    obtain ⟨t, ht, rfl⟩ := ok_of_map hc
    cases hr
    exact htype _ ht
  · refine sound_of_namedStatement h (fun c hc r hr => ?_) hnone
    obtain ⟨t, ht, rfl⟩ := ok_of_map hc
    cases hr
    exact htype _ ht
  · refine sound_of_namedStatement h (fun c hc r hr => ?_) (hunder _)
    cases hc
    cases hr
  · refine sound_of_namedStatement h (fun c hc r hr => ?_) (hunder _)
    cases hc
    cases hr
  · refine sound_of_namedStatement h (fun c hc r hr => ?_) hnone
    obtain ⟨t, ht, rfl⟩ := ok_of_map hc
    cases hr
    exact htype _ ht
  · refine sound_of_namedStatement h (fun c hc r hr => ?_) hnone
    obtain ⟨bases, -, rfl⟩ := ok_of_map hc
    cases hr
  · obtain ⟨f, argument, hf, -, rfl⟩ := ok_of_seq (ok_of_closed h)
    obtain ⟨keyword, -, rfl⟩ := ok_of_map hf
    intro x hx
    obtain rfl := List.mem_singleton.1 hx
    trivial

theorem sound_of_checkStatement {room : Nat} {around : List Nat} {v : Value} {s : Statement}
    (h : checkStatement room around v = .ok s) : ∀ x ∈ s.all, x.Sound := by
  induction room generalizing around v s with
  | zero =>
    unfold checkStatement at h
    split at h <;> cases h
  | succ room ih =>
    unfold checkStatement at h
    split at h
    · cases h
    · obtain ⟨ms, h⟩ := ok_of_object h
      exact sound_of_statementOf (fun v s h => ih h) h

theorem sound_of_checkModule {v : Value} {m : ModuleDecl} (h : checkModule v = .ok m) : SoundIn m.statements := by
  obtain ⟨ms, h⟩ := ok_of_object h
  obtain ⟨f, ss, hf, hss, rfl⟩ := ok_of_seq (ok_of_closed h)
  obtain ⟨g, description, hg, -, rfl⟩ := ok_of_seq hf
  obtain ⟨k, modulePrefix, hk, -, rfl⟩ := ok_of_seq hg
  obtain ⟨l, uri, hl, -, rfl⟩ := ok_of_seq hk
  obtain ⟨name, -, rfl⟩ := ok_of_map hl
  rcases ok_of_defaulting hss with rfl | ⟨v, hv⟩
  · exact sound_nil
  · exact sound_of_checkStatements (fun v s h => sound_of_checkStatement h) hv

/-- the statements of a checked document are sound -/
theorem Document.sound_of_check {v : Value} {d : Document} (h : Document.check v = .ok d) :
    ∀ m ∈ d.modules, SoundIn m.statements := by
  obtain ⟨ms, h⟩ := ok_of_object h
  obtain ⟨d', hd', h⟩ := ok_of_andThen h
  obtain rfl : d' = d := by
    unfold checkDistinct at h
    split at h
    · cases h
    · exact (ok_of_refusedIf h).2
  obtain ⟨modules, hmodules, rfl⟩ := ok_of_map (ok_of_closed hd')
  obtain ⟨w, hw⟩ := ok_of_required hmodules
  obtain ⟨modules', hm, hw⟩ := ok_of_andThen hw
  obtain ⟨-, rfl⟩ := ok_of_refusedIf hw
  intro m hmem
  obtain ⟨u, hu⟩ := ok_of_listOf hm m hmem
  exact sound_of_checkModule hu

/-- the names in a checked document are texts of names -/
theorem Document.namesOf_of_check {v : Value} {d : Document} (h : Document.check v = .ok d) : d.NamesOf IsNameText := by
  intro m hm s hs
  have hsound := sound_of_check h m hm s hs
  cases s with
  | other keyword argument => trivial
  | named name description construct children => exact ⟨hsound.1, fun r hr => (hsound.2 r hr).name⟩

end YangDesign.Schema
