/-
The tokens of printed markup.

Where a printer writes a character that has a meaning in markup, it writes a reference to it. So a printed text is read in runs
of characters that stand for themselves and in single references (`runs_induct`), and it ends where the next tag begins.
`Lexes cs ts` says that characters are read into tokens. What is printed is read ahead of anything that follows it: a text
(`lexes_text`), a start tag (`lexes_openTag`), an end tag (`lexes_closeTag`).
-/
import Mathlib.Data.List.TakeWhile
import Mathlib.Tactic
import YangDesign.Xml.Parser
import YangDesign.Xml.Printer

namespace YangDesign.Xml

/-! ## Scans -/

/-- a scan passes a list whose elements it accepts, and stops where what follows does not begin with one -/
theorem span_of_boundary {p : Char → Bool} {l r : List Char} (hl : ∀ c ∈ l, p c = true) (hr : r.head?.any p = false) :
    (l ++ r).takeWhile p = l ∧ (l ++ r).dropWhile p = r := by
  rw [List.takeWhile_append_of_pos hl, List.dropWhile_append_of_pos hl]
  cases r with
  | nil => simp
  | cons c r =>
    have hc : p c = false := hr
    rw [List.takeWhile_cons_of_neg (by rw [hc]; decide), List.dropWhile_cons_of_neg (by rw [hc]; decide), List.append_nil]
    exact ⟨rfl, rfl⟩

theorem splitFrom?_of_notMem {mark : Char} {v : List Char} (hv : mark ∉ v) (before rest : List Char) :
    splitFrom? [mark] before (v ++ mark :: rest) = some (before.reverse ++ v, rest) := by
  induction v generalizing before with
  | nil => simp [splitFrom?]
  | cons c v ih =>
    obtain ⟨hc, hv⟩ := not_or.1 (mt List.mem_cons.2 hv)
    rw [List.cons_append, splitFrom?, if_neg (by simpa using hc), ih hv]
    simp

/-- a mark is not found where one of its characters does not stand -/
theorem splitAt?_eq_none {mark : List Char} {m : Char} (hm : m ∈ mark) {cs : List Char} (h : m ∉ cs) :
    splitAt? mark cs = none := by
  unfold splitAt?
  generalize ([] : List Char) = before
  induction cs generalizing before with
  | nil => rfl
  | cons c cs ih =>
    have hstarts : mark.isPrefixOf (c :: cs) = false := by
      by_contra hstarts
      rw [Bool.not_eq_false] at hstarts
      exact h ((List.isPrefixOf_iff_prefix.1 hstarts).subset hm)
    rw [splitFrom?, if_neg (by rw [hstarts]; decide)]
    exact ih (fun hmem => h (List.mem_cons_of_mem _ hmem)) _

/-! ## Names -/

theorem isColonNamePart_of_start {c : Char} (h : isColonNameStart c = true) : isColonNamePart c = true := by
  unfold isColonNameStart isNameStart at h
  unfold isColonNamePart isNamePart
  rw [Bool.or_eq_true] at h ⊢
  exact h.imp (fun hstart => by rw [hstart]; rfl) id

theorem isColonName_iff {cs : List Char} : isColonName cs = true ↔
    ∃ c ds, cs = c :: ds ∧ isColonNameStart c = true ∧ ∀ d ∈ ds, isColonNamePart d = true := by
  cases cs with
  | nil => simp [isColonName]
  | cons c ds => simp [isColonName, List.all_eq_true]

/-- a name is read up to a character that stands in none -/
theorem takeName?_append {name : String} (hn : isColonName name.toList = true) {rest : List Char}
    (hr : rest.head?.any isColonNamePart = false) : takeName? (name.toList ++ rest) = some (name, rest) := by
  obtain ⟨c, ds, hname, hc, hds⟩ := isColonName_iff.1 hn
  have hstart : (name.toList ++ rest).head?.any isColonNameStart = true := by
    rw [hname]
    exact hc
  have hparts : ∀ d ∈ name.toList, isColonNamePart d = true := by
    rw [hname]
    exact List.forall_mem_cons.2 ⟨isColonNamePart_of_start hc, hds⟩
  obtain ⟨htake, hdrop⟩ := span_of_boundary hparts hr
  rw [takeName?, if_pos hstart, htake, hdrop, String.ofList_toList]

/-! ## Escaped characters -/

/-- characters that are not written as they are in a text -/
def isTextMark (c : Char) : Bool :=
  c = '&' || c = '<' || c = '>' || c = '\r'

/-- characters that are not written as they are in an attribute value -/
def isAttributeMark (c : Char) : Bool :=
  c = '\x22' || c = '\t' || c = '\n' || isTextMark c

/-- what is written for a character: the character, or a reference to it if it is a mark -/
inductive Escape (isMark : Char → Bool) (c : Char) : List Char → Prop where
  | plain : isMark c = false → Escape isMark c [c]
  | reference {body : List Char} : isMark c = true → '\x22' ∉ body ∧ '\r' ∉ body →
    (∀ rest, takeReference? (body ++ rest) = some (.char c, rest)) → Escape isMark c ('&' :: body)

theorem escape_escapeText (c : Char) : Escape isTextMark c (escapeText c) := by
  unfold escapeText
  split
  · rename_i h
    subst h
    exact .reference rfl (by decide) fun _ => rfl
  · split
    · rename_i h
      subst h
      exact .reference rfl (by decide) fun _ => rfl
    · split
      · rename_i h
        subst h
        exact .reference rfl (by decide) fun _ => rfl
      · split
        · rename_i h
          subst h
          exact .reference rfl (by decide) fun _ => rfl
        · rename_i h1 h2 h3 h4
          exact .plain (by simp [isTextMark, h1, h2, h3, h4])

theorem escape_escapeAttribute (c : Char) : Escape isAttributeMark c (escapeAttribute c) := by
  unfold escapeAttribute
  split
  · rename_i h
    subst h
    exact .reference rfl (by decide) fun _ => rfl
  · split
    · rename_i h
      subst h
      exact .reference rfl (by decide) fun _ => rfl
    · split
      · rename_i h
        subst h
        exact .reference rfl (by decide) fun _ => rfl
      · rename_i h1 h2 h3
        have hmark : isAttributeMark c = isTextMark c := by simp [isAttributeMark, h1, h2, h3]
        have hescape := escape_escapeText c
        generalize escapeText c = written at hescape ⊢
        cases hescape with
        | plain hc => exact .plain (hmark.trans hc)
        | reference hc hbody href => exact .reference (hmark.trans hc) hbody href

theorem Escape.eq_of_plain {isMark : Char → Bool} {c : Char} {cs : List Char} (h : Escape isMark c cs)
    (hc : isMark c = false) : cs = [c] := by
  cases h with
  | plain _ => rfl
  | reference hmark _ _ =>
    rw [hc] at hmark
    cases hmark

/-- a mark is written as a reference -/
theorem Escape.of_mark {isMark : Char → Bool} {c : Char} {cs : List Char} (h : Escape isMark c cs) (hc : isMark c = true) :
    ∃ body, cs = '&' :: body ∧ ∀ rest, takeReference? (body ++ rest) = some (.char c, rest) := by
  cases h with
  | plain hplain =>
    rw [hc] at hplain
    cases hplain
  | reference _ _ href => exact ⟨_, rfl, href⟩

/-- a mark that no reference is written with is not written at all -/
theorem Escape.notMem {isMark : Char → Bool} {c d : Char} {cs : List Char} (h : Escape isMark c cs)
    (hd : d = '\x22' ∨ d = '\r') (hmark : isMark d = true) : d ∉ cs := by
  cases h with
  | plain hc =>
    rw [List.mem_singleton]
    rintro rfl
    rw [hc] at hmark
    cases hmark
  | reference _ hbody _ =>
    rw [List.mem_cons]
    rcases hd with rfl | rfl
    · exact not_or.2 ⟨by decide, hbody.1⟩
    · exact not_or.2 ⟨by decide, hbody.2⟩

/-- characters that are no marks are written as they are -/
theorem flatMap_escape_of_plain {isMark : Char → Bool} {f : Char → List Char} (hf : ∀ c, Escape isMark c (f c))
    {run : List Char} (hrun : ∀ c ∈ run, isMark c = false) : run.flatMap f = run := by
  rw [List.flatMap_congr fun c hc => (hf c).eq_of_plain (hrun c hc)]
  simp

/-- what is written for a text that begins with a mark begins with a reference -/
theorem head?_flatMap_escape {isMark : Char → Bool} {f : Char → List Char} (hf : ∀ c, Escape isMark c (f c))
    {cs : List Char} (hcs : cs.head?.all isMark = true) : (cs.flatMap f).head?.all (· == '&') = true := by
  cases cs with
  | nil => rfl
  | cons c cs =>
    obtain ⟨body, hbody, -⟩ := (hf c).of_mark hcs
    rw [List.flatMap_cons, hbody]
    rfl

/-- **Induction over runs.** A text is empty, or begins with a mark, or with a run of other characters up to a mark or the
end. -/
theorem runs_induct (isMark : Char → Bool) {P : List Char → Prop} (nil : P [])
    (mark : ∀ c cs, isMark c = true → P cs → P (c :: cs))
    (run : ∀ run cs, run ≠ [] → (∀ c ∈ run, isMark c = false) → cs.head?.all isMark = true → P cs →
      P (run ++ cs)) : ∀ cs, P cs := by
  intro cs
  induction hn : cs.length using Nat.strong_induction_on generalizing cs with
  | h n ih =>
    cases cs with
    | nil => exact nil
    | cons c cs =>
      rw [List.length_cons] at hn
      cases hc : isMark c with
      | true => exact mark c cs hc (ih cs.length (by omega) cs rfl)
      | false =>
        have hsplit := List.takeWhile_append_dropWhile (p := fun c => !isMark c) (l := cs)
        have hlength := congrArg List.length hsplit
        rw [List.length_append] at hlength
        rw [← hsplit, ← List.cons_append]
        refine run _ _ (by simp) ?_ ?_ (ih _ (by omega) _ rfl)
        · intro d hd
          rcases List.mem_cons.1 hd with rfl | hd
          · exact hc
          · simpa using List.mem_takeWhile_imp hd
        · cases hrest : cs.dropWhile fun c => !isMark c with
          | nil => rfl
          | cons d ds =>
            have hd := List.head?_dropWhile_not (fun c => !isMark c) cs
            rw [hrest] at hd
            simpa using hd

/-! ## Attributes -/

/-- the value of an attribute as it is read: in parts without references to entities -/
def Spells (parts : List Part) (v : List Char) : Prop :=
  ∃ css : List (List Char), parts = css.map .text ∧ css.flatten = v

theorem spells_cons {parts : List Part} {cs v : List Char} (h : Spells parts v) : Spells (.text cs :: parts) (cs ++ v) := by
  obtain ⟨css, rfl, rfl⟩ := h
  exact ⟨cs :: css, rfl, rfl⟩

/-- a reference in a value is one part of it -/
theorem takeParts?_reference {body rest : List Char} {c : Char}
    (href : ∀ rest, takeReference? (body ++ rest) = some (.char c, rest)) (fuel : Nat) :
    takeParts? (fuel + 1) ('&' :: (body ++ rest)) = (takeParts? fuel rest).map (.text [c] :: ·) := by
  rw [takeParts?, href]
  change (takeParts? fuel rest).bind (fun parts => some (.text [c] :: parts)) = _
  cases takeParts? fuel rest <;> rfl

/-- a run of characters in a value, up to a reference or the end, is one part of it -/
theorem takeParts?_run {run rest : List Char} (hne : run ≠ []) (hchars : ∀ c ∈ run, isChar c = true)
    (hrun : ∀ c ∈ run, isAttributeMark c = false) (hrest : rest.head?.all (· == '&') = true) (fuel : Nat) :
    takeParts? (fuel + 1) (run ++ rest) = (takeParts? fuel rest).map (.text run :: ·) := by
  have hplain : ∀ c ∈ run, c ≠ '&' ∧ c ≠ '<' ∧ c ≠ '\t' ∧ c ≠ '\n' ∧ c ≠ '\r' := by
    intro c hc
    have := hrun c hc
    simp only [isAttributeMark, isTextMark, Bool.or_eq_false_iff, decide_eq_false_iff_not] at this
    tauto
  have hnext : rest.head?.any (· != '&') = false := by
    cases rest with
    | nil => rfl
    | cons d ds => simpa using hrest
  obtain ⟨htake, -⟩ := span_of_boundary (p := (· != '&')) (fun c hc => by simpa using (hplain c hc).1) hnext
  have hguard : (run.all fun c => isChar c && c != '<') = true := by
    rw [List.all_eq_true]
    intro c hc
    rw [hchars c hc]
    simpa using (hplain c hc).2.1
  have hspaces : (run.map fun c => if isSpace c then ' ' else c) = run := by
    refine (List.map_congr_left fun c hc => ?_).trans (List.map_id _)
    obtain ⟨-, -, htab, hfeed, hreturn⟩ := hplain c hc
    split
    · rename_i hspace
      simp only [isSpace, htab, hfeed, hreturn, decide_false, Bool.or_false, decide_eq_true_eq] at hspace
      exact hspace.symm
    · rfl
  obtain ⟨c, run, rfl⟩ := List.exists_cons_of_ne_nil hne
  rw [List.cons_append, takeParts?]
  · rw [← List.cons_append, htake, hguard, hspaces, List.drop_left]
    cases takeParts? fuel rest <;> simp
  · exact fun h => by cases h
  · exact fun cs' h => (hplain c List.mem_cons_self).1 (List.cons.inj h).1

/-- a printed value is read back -/
theorem parts?_escapeAttribute {v : List Char} (hv : ∀ c ∈ v, isChar c = true) :
    ∃ parts, parts? (v.flatMap escapeAttribute) = some parts ∧ Spells parts v := by
  suffices h : ∃ parts, (∀ fuel, (v.flatMap escapeAttribute).length ≤ fuel →
      takeParts? fuel (v.flatMap escapeAttribute) = some parts) ∧ Spells parts v by
    obtain ⟨parts, hparts, hspells⟩ := h
    exact ⟨parts, hparts _ (le_refl _), hspells⟩
  induction v using runs_induct isAttributeMark with
  | nil =>
    refine ⟨[], fun fuel _ => ?_, [], rfl, rfl⟩
    cases fuel <;> rfl
  | mark c cs hc ih =>
    obtain ⟨parts, hparts, hspells⟩ := ih fun d hd => hv d (List.mem_cons_of_mem _ hd)
    obtain ⟨body, hbody, href⟩ := (escape_escapeAttribute c).of_mark hc
    refine ⟨.text [c] :: parts, fun fuel hfuel => ?_, spells_cons hspells⟩
    rw [List.flatMap_cons, hbody, List.cons_append] at hfuel ⊢
    rw [List.length_cons, List.length_append] at hfuel
    obtain ⟨fuel, rfl⟩ : ∃ n, fuel = n + 1 := ⟨fuel - 1, by omega⟩
    rw [takeParts?_reference href, hparts fuel (by omega)]
    rfl
  | run run cs hne hrun hcs ih =>
    obtain ⟨hrunChars, hcsChars⟩ := List.forall_mem_append.1 hv
    obtain ⟨parts, hparts, hspells⟩ := ih hcsChars
    refine ⟨.text run :: parts, fun fuel hfuel => ?_, spells_cons hspells⟩
    rw [List.flatMap_append, flatMap_escape_of_plain escape_escapeAttribute hrun] at hfuel ⊢
    have hpositive := List.length_pos_iff.2 hne
    rw [List.length_append] at hfuel
    obtain ⟨fuel, rfl⟩ : ∃ n, fuel = n + 1 := ⟨fuel - 1, by omega⟩
    rw [takeParts?_run hne hrunChars hrun (head?_flatMap_escape escape_escapeAttribute hcs), hparts fuel (by omega)]
    rfl

/-- a character that no name begins with does not begin a name -/
theorem ne_of_start {c d : Char} (hc : isColonNameStart c = true) (hd : isColonNameStart d = false) : c ≠ d := by
  rintro rfl
  rw [hc] at hd
  cases hd

theorem isSpace_of_start {c : Char} (hc : isColonNameStart c = true) : isSpace c = false := by
  have hspaces : isColonNameStart ' ' = false ∧ isColonNameStart '\n' = false ∧ isColonNameStart '\t' = false ∧
    isColonNameStart '\r' = false := by decide
  simp [isSpace, ne_of_start hc hspaces.1, ne_of_start hc hspaces.2.1, ne_of_start hc hspaces.2.2.1,
    ne_of_start hc hspaces.2.2.2]

/-- an attribute as it is read: its value is spelled out -/
structure Spelled (a : String × String) (given : String × List Part) : Prop where
  name : given.1 = a.1
  value : Spells given.2 a.2.toList

/-- an attribute that can be printed: its name is one, and its value has characters that may stand in a document -/
structure Printable (a : String × String) : Prop where
  name : isColonName a.1.toList = true
  value : isText a.2 = true

/-- the value of an attribute in quotes, ahead of what follows it -/
def quotedValue (v : String) (rest : List Char) : List Char :=
  '\x22' :: (v.toList.flatMap escapeAttribute ++ '\x22' :: rest)

theorem toList_attributeText (a : String × String) :
    (attributeText a).toList = ' ' :: (a.1.toList ++ '=' :: quotedValue a.2 []) := by
  have hblank : " ".toList = [' '] := rfl
  have hequals : "=\"".toList = ['=', '\x22'] := rfl
  have hquote : "\"".toList = ['\x22'] := rfl
  simp [attributeText, escapeWith, String.toList_append, hblank, hequals, hquote, quotedValue]

theorem toList_attributeText_append (a : String × String) (rest : List Char) :
    (attributeText a).toList ++ rest = ' ' :: (a.1.toList ++ '=' :: quotedValue a.2 rest) := by
  rw [toList_attributeText]
  simp [quotedValue]

/-- a printed attribute is read back -/
theorem takeAttribute?_printed {a : String × String} (ha : Printable a) : ∃ given, Spelled a given ∧ ∀ rest,
    takeAttribute? (a.1.toList ++ '=' :: quotedValue a.2 rest) = some (given, rest) := by
  obtain ⟨parts, hparts, hspells⟩ := parts?_escapeAttribute (List.all_eq_true.1 ha.value)
  refine ⟨(a.1, parts), ⟨rfl, hspells⟩, fun rest => ?_⟩
  have hquote : '\x22' ∉ a.2.toList.flatMap escapeAttribute := by
    intro hmem
    obtain ⟨c, -, hc⟩ := List.mem_flatMap.1 hmem
    exact (escape_escapeAttribute c).notMem (Or.inl rfl) rfl hc
  have hname : takeName? (a.1.toList ++ '=' :: quotedValue a.2 rest) = some (a.1, '=' :: quotedValue a.2 rest) :=
    takeName?_append ha.name rfl
  have hliteral : takeLiteral? (quotedValue a.2 rest) = some (a.2.toList.flatMap escapeAttribute, rest) := by
    rw [quotedValue, takeLiteral?, if_pos (by decide), splitAt?, splitFrom?_of_notMem hquote]
    rfl
  unfold takeAttribute?
  rw [hname]
  change (takeLiteral? (quotedValue a.2 rest)).bind _ = _
  rw [hliteral]
  change (parts? (a.2.toList.flatMap escapeAttribute)).bind _ = _
  rw [hparts]
  rfl

/-- the end of a start tag -/
def tagEnd (closed : Bool) : List Char :=
  if closed then ['/', '>'] else ['>']

/-- an attribute that is read, ahead of the others of its tag -/
theorem takeAttributes?_cons {cs rest : List Char} {given : String × List Part} {c : Char} {ds : List Char}
    (hcs : cs = c :: ds) (hstart : isColonNameStart c = true) (htake : takeAttribute? cs = some (given, rest)) (fuel : Nat) :
    takeAttributes? (fuel + 1) (' ' :: cs) = (takeAttributes? fuel rest).map fun r => (given :: r.1, r.2) := by
  have hskip : skipSpace (' ' :: cs) = cs := by
    rw [skipSpace, List.dropWhile_cons_of_pos rfl, hcs,
      List.dropWhile_cons_of_neg (by rw [isSpace_of_start hstart]; decide)]
  have hneed : needSpace? (' ' :: cs) = some cs := by
    rw [needSpace?, if_pos (by rfl), hskip]
  rw [takeAttributes?, hneed, hskip]
  split
  · exact absurd (List.cons.inj hcs).1.symm (ne_of_start hstart (by decide))
  · exact absurd (List.cons.inj hcs).1.symm (ne_of_start hstart (by decide))
  · change (takeAttribute? cs).bind _ = _
    rw [htake]
    change (takeAttributes? fuel rest).bind _ = _
    cases takeAttributes? fuel rest <;> rfl

/-- printed attributes are read back, up to the end of their tag -/
theorem takeAttributes?_printed {as : List (String × String)} (has : ∀ a ∈ as, Printable a) :
    ∃ given, List.Forall₂ Spelled as given ∧ ∀ closed rest fuel, as.length < fuel →
      takeAttributes? fuel (as.flatMap (fun a => (attributeText a).toList) ++ (tagEnd closed ++ rest)) =
        some (given, closed, rest) := by
  induction as with
  | nil =>
    refine ⟨[], .nil, fun closed rest fuel hfuel => ?_⟩
    obtain ⟨fuel, rfl⟩ : ∃ n, fuel = n + 1 := ⟨fuel - 1, by omega⟩
    cases closed <;> rfl
  | cons a as ih =>
    obtain ⟨ha, has⟩ := List.forall_mem_cons.1 has
    obtain ⟨given, hgiven, hread⟩ := takeAttribute?_printed ha
    obtain ⟨more, hmore, htake⟩ := ih has
    refine ⟨given :: more, .cons hgiven hmore, fun closed rest fuel hfuel => ?_⟩
    rw [List.length_cons] at hfuel
    obtain ⟨fuel, rfl⟩ : ∃ n, fuel = n + 1 := ⟨fuel - 1, by omega⟩
    obtain ⟨c, ds, hname, hstart, -⟩ := isColonName_iff.1 ha.name
    rw [List.flatMap_cons, List.append_assoc, toList_attributeText_append,
      takeAttributes?_cons (by rw [hname, List.cons_append]) hstart (hread _), htake closed rest fuel (by omega)]
    rfl

/-! ## Tokens -/

/-- characters are read into tokens -/
def Lexes (cs : List Char) (ts : List Token) : Prop :=
  ∀ fuel, cs.length ≤ fuel → takeTokens? fuel cs = some ts

theorem Lexes.tokens? {cs : List Char} {ts : List Token} (h : Lexes cs ts) : tokens? cs = some ts :=
  h _ (le_refl _)

theorem lexes_nil : Lexes [] [] := by
  intro fuel _
  cases fuel <;> rfl

/-- one token, ahead of what follows it -/
theorem Lexes.cons {cs rest : List Char} {t : Token} {us : List Token} (h : Lexes rest us) (hlt : rest.length < cs.length)
    (ht : ∀ fuel, cs.length ≤ fuel → takeToken? fuel cs = some (t, rest)) : Lexes cs (t :: us) := by
  intro fuel hfuel
  obtain ⟨fuel, rfl⟩ : ∃ n, fuel = n + 1 := ⟨fuel - 1, by omega⟩
  obtain ⟨c, cs, rfl⟩ : ∃ c ds, cs = c :: ds := List.exists_cons_of_ne_nil (by rintro rfl; simp at hlt)
  rw [takeTokens?, ht (fuel + 1) hfuel]
  · change (takeTokens? fuel rest).bind _ = _
    rw [h fuel (by omega)]
    rfl
  · exact fun h => by cases h

/-- a name and attributes of a tag that can be printed -/
structure PrintableTag (tag : String) (attributes : List (String × String)) : Prop where
  name : isColonName tag.toList = true
  attributes : ∀ a ∈ attributes, Printable a

/-- a start tag without its end, as it is printed -/
def tagStart (tag : String) (attributes : List (String × String)) : List Char :=
  '<' :: (tag.toList ++ attributes.flatMap fun a => (attributeText a).toList)

/-- what follows the name of a start tag are its attributes -/
theorem takeToken?_openTag {c : Char} {ds rest after : List Char} {tag : String} {given : List (String × List Part)}
    {closed : Bool} {fuel : Nat} (hstart : isColonNameStart c = true) (hname : takeName? (c :: ds) = some (tag, rest))
    (hattributes : takeAttributes? fuel rest = some (given, closed, after)) :
    takeToken? fuel ('<' :: c :: ds) = some (.openTag tag given closed, after) := by
  unfold takeToken?
  split
  · rename_i heq
    exact absurd (List.cons.inj (List.cons.inj heq).2).1 (ne_of_start hstart (by decide))
  · rename_i heq
    exact absurd (List.cons.inj (List.cons.inj heq).2).1 (ne_of_start hstart (by decide))
  · rename_i heq
    exact absurd (List.cons.inj (List.cons.inj heq).2).1 (ne_of_start hstart (by decide))
  · rename_i heq
    cases (List.cons.inj heq).2
    rw [hname]
    change (takeAttributes? fuel rest).bind _ = _
    rw [hattributes]
    rfl
  · rename_i heq
    cases heq
  · rename_i hno _
    exact absurd rfl (hno _)

/-- a printed start tag is read back -/
theorem lexes_openTag {tag : String} {attributes : List (String × String)} (h : PrintableTag tag attributes) :
    ∃ given, List.Forall₂ Spelled attributes given ∧ ∀ closed rest us, Lexes rest us →
      Lexes (tagStart tag attributes ++ (tagEnd closed ++ rest)) (.openTag tag given closed :: us) := by
  obtain ⟨given, hgiven, htake⟩ := takeAttributes?_printed h.attributes
  refine ⟨given, hgiven, fun closed rest us hrest => ?_⟩
  obtain ⟨c, ds, hname, hstart, -⟩ := isColonName_iff.1 h.name
  have hcount : attributes.length ≤ (attributes.flatMap fun a => (attributeText a).toList).length := by
    clear htake hgiven given h
    induction attributes with
    | nil => simp
    | cons a as ih =>
      rw [List.flatMap_cons, List.length_append, List.length_cons, toList_attributeText, List.length_cons]
      omega
  have hend : 0 < (tagEnd closed).length := by cases closed <;> decide
  have hnext : (attributes.flatMap (fun a => (attributeText a).toList) ++ (tagEnd closed ++ rest)).head?.any
      isColonNamePart = false := by
    cases attributes with
    | nil => cases closed <;> rfl
    | cons a as =>
      rw [List.flatMap_cons, toList_attributeText]
      rfl
  have htag := takeName?_append h.name hnext
  refine hrest.cons ?_ fun fuel hfuel => ?_
  · simp only [tagStart, List.length_append, List.length_cons]
    omega
  · have hfuel : attributes.length < fuel := by
      simp only [tagStart, List.length_append, List.length_cons] at hfuel
      omega
    have htake := htake closed rest fuel hfuel
    rw [tagStart, List.cons_append, List.append_assoc]
    rw [hname, List.cons_append] at htag ⊢
    exact takeToken?_openTag hstart htag htake

/-- a printed end tag is read back -/
theorem lexes_closeTag {tag : String} (h : isColonName tag.toList = true) {rest : List Char} {us : List Token}
    (hrest : Lexes rest us) : Lexes ('<' :: '/' :: (tag.toList ++ '>' :: rest)) (.closeTag tag :: us) := by
  refine hrest.cons (by simp only [List.length_append, List.length_cons]; omega) fun fuel _ => ?_
  have htag : takeName? (tag.toList ++ '>' :: rest) = some (tag, '>' :: rest) := takeName?_append h rfl
  unfold takeToken?
  change (takeName? _).bind _ = _
  rw [htag]
  rfl

/-! ## Texts -/

/-- tokens that are a text, in pieces -/
def IsText (ts : List Token) (cs : List Char) : Prop :=
  ∃ ps : List (List Char × Bool), ts = ps.map (fun p => .text (.ofList p.1) p.2) ∧ (ps.map Prod.fst).flatten = cs

theorem isText_nil : IsText [] [] :=
  ⟨[], rfl, rfl⟩

theorem isText_cons {ts : List Token} {cs run : List Char} (blank : Bool) (h : IsText ts cs) :
    IsText (.text (.ofList run) blank :: ts) (run ++ cs) := by
  obtain ⟨ps, rfl, rfl⟩ := h
  exact ⟨(run, blank) :: ps, rfl, rfl⟩

/-- what may follow a text: a tag, or nothing -/
def FollowsText (cs : List Char) : Prop :=
  cs.head?.all (· == '<') = true

/-- what begins neither with a tag nor with a reference is a run of characters -/
theorem takeToken?_of_plain {c : Char} (hlt : c ≠ '<') (hamp : c ≠ '&') (cs : List Char) (fuel : Nat) :
    takeToken? fuel (c :: cs) = takeRun? (c :: cs) := by
  unfold takeToken?
  split
  · rename_i heq
    exact absurd (List.cons.inj heq).1 hlt
  · rename_i heq
    exact absurd (List.cons.inj heq).1 hlt
  · rename_i heq
    exact absurd (List.cons.inj heq).1 hlt
  · rename_i heq
    exact absurd (List.cons.inj heq).1 hlt
  · rename_i heq
    exact absurd (List.cons.inj heq).1 hamp
  · rfl

theorem takeToken?_run {run rest : List Char} (hne : run ≠ []) (hchars : ∀ c ∈ run, isChar c = true)
    (hrun : ∀ c ∈ run, isTextMark c = false) (hrest : rest.head?.all (fun c => c == '<' || c == '&') = true) (fuel : Nat) :
    takeToken? fuel (run ++ rest) = some (.text (.ofList run) (run.all isSpace), rest) := by
  have hplain : ∀ c ∈ run, c ≠ '&' ∧ c ≠ '<' ∧ c ≠ '>' := by
    intro c hc
    have := hrun c hc
    simp only [isTextMark, Bool.or_eq_false_iff, decide_eq_false_iff_not] at this
    tauto
  have hnext : rest.head?.any (fun c => c != '<' && c != '&') = false := by
    cases rest with
    | nil => rfl
    | cons d ds =>
      have hd : (d == '<' || d == '&') = true := hrest
      rw [Bool.or_eq_true, beq_iff_eq, beq_iff_eq] at hd
      rcases hd with rfl | rfl <;> rfl
  obtain ⟨htake, -⟩ := span_of_boundary (p := fun c => c != '<' && c != '&')
    (fun c hc => by simp [(hplain c hc).1, (hplain c hc).2.1]) hnext
  have hguard : (run.all isChar && (splitAt? "]]>".toList run).isNone) = true := by
    rw [Bool.and_eq_true, List.all_eq_true, Option.isNone_iff_eq_none]
    exact ⟨hchars, splitAt?_eq_none (m := '>') (by decide) fun hmem => (hplain _ hmem).2.2 rfl⟩
  have hread : takeRun? (run ++ rest) = some (.text (.ofList run) (run.all isSpace), rest) := by
    unfold takeRun?
    rw [htake]
    dsimp only
    rw [hguard, List.drop_left]
    rfl
  obtain ⟨c, run, rfl⟩ := List.exists_cons_of_ne_nil hne
  obtain ⟨hamp, hlt, -⟩ := hplain c List.mem_cons_self
  rw [← hread, List.cons_append, takeToken?_of_plain hlt hamp]

/-- **A printed text is read back**, ahead of a tag or of the end. -/
theorem lexes_text {cs : List Char} (hcs : ∀ c ∈ cs, isChar c = true) : ∃ ts, IsText ts cs ∧
    ∀ rest us, FollowsText rest → Lexes rest us → Lexes (cs.flatMap escapeText ++ rest) (ts ++ us) := by
  induction cs using runs_induct isTextMark with
  | nil => exact ⟨[], isText_nil, fun rest us _ hus => hus⟩
  | mark c cs hc ih =>
    obtain ⟨ts, hts, hlexes⟩ := ih fun d hd => hcs d (List.mem_cons_of_mem _ hd)
    obtain ⟨body, hbody, href⟩ := (escape_escapeText c).of_mark hc
    refine ⟨.text (.ofList [c]) false :: ts, isText_cons false hts, fun rest us hrest hus => ?_⟩
    rw [List.flatMap_cons, hbody, List.cons_append, List.cons_append, List.append_assoc]
    refine (hlexes rest us hrest hus).cons ?_ fun fuel _ => ?_
    · simp only [List.length_append, List.length_cons]
      omega
    · change (takeReference? _).map _ = _
      rw [href]
      rfl
  | run run cs hne hrun hmark ih =>
    obtain ⟨hrunChars, hcsChars⟩ := List.forall_mem_append.1 hcs
    obtain ⟨ts, hts, hlexes⟩ := ih hcsChars
    refine ⟨.text (.ofList run) (run.all isSpace) :: ts, isText_cons _ hts, fun rest us hrest hus => ?_⟩
    rw [List.flatMap_append, flatMap_escape_of_plain escape_escapeText hrun, List.append_assoc]
    have hpositive := List.length_pos_iff.2 hne
    refine (hlexes rest us hrest hus).cons (by simp only [List.length_append]; omega) fun fuel _ => ?_
    refine takeToken?_run hne hrunChars hrun ?_ fuel
    have hreference := head?_flatMap_escape escape_escapeText hmark
    cases h : cs.flatMap escapeText with
    | nil =>
      cases rest with
      | nil => rfl
      | cons d ds =>
        have hd : (d == '<') = true := hrest
        exact Bool.or_eq_true_iff.2 (Or.inl hd)
    | cons d ds =>
      rw [h] at hreference
      have hd : (d == '&') = true := hreference
      exact Bool.or_eq_true_iff.2 (Or.inr hd)

end YangDesign.Xml
