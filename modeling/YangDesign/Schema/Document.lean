/-
Schema documents: YANG modules as nested statements, before any name in them is resolved.

`ModuleDecl.counts` counts the statements of a module by keyword, nested ones included. The statements still to be counted are
kept in a list, to which those below a statement are added when it is counted (`Counting.turn`); each turn leaves one statement
less (`Counting.left_turn`).
-/
import YangDesign.Assoc

namespace YangDesign.Schema

/-- one `enum` of an enumeration -/
structure EnumDecl where
  name : String
  value : Option Int
  description : Option String
  deriving DecidableEq, Repr

/-- the type a leaf, leaf-list or typedef asks for, by name -/
structure TypeRef where
  name : String
  enums : Option (List EnumDecl)
  description : Option String
  deriving DecidableEq, Repr

/-- what a named statement declares -/
inductive Construct where
  | container
  | list (key : List String)
  | leaf (type : TypeRef)
  | leafList (type : TypeRef)
  | choice
  | case
  | typedef (type : TypeRef)
  | identity (bases : List String)
  deriving DecidableEq, Repr

/-- keyword of a construct -/
def Construct.keyword : Construct → String
  | .container => "container"
  | .list _ => "list"
  | .leaf _ => "leaf"
  | .leafList _ => "leaf-list"
  | .choice => "choice"
  | .case => "case"
  | .typedef _ => "typedef"
  | .identity _ => "identity"

/-- a statement: a construct with a name and statements below it, or any other keyword -/
inductive Statement where
  | named (name : String) (description : Option String) (construct : Construct) (children : List Statement)
  | other (keyword : String) (argument : Option String)
  deriving Repr

namespace Statement

/-- keyword of a statement -/
def keyword : Statement → String
  | .named _ _ construct _ => construct.keyword
  | .other keyword _ => keyword

mutual

/-- a statement and all below it, in document order -/
def all : Statement → List Statement
  | .named name description construct children =>
    .named name description construct children :: allIn children
  | .other keyword argument => [.other keyword argument]

/-- all statements of a list, in document order -/
def allIn : List Statement → List Statement
  | [] => []
  | s :: ss => all s ++ allIn ss

end

/-- the statements right below a statement -/
def children : Statement → List Statement
  | .named _ _ _ children => children
  | .other .. => []

theorem all_eq (s : Statement) : s.all = s :: allIn s.children := by
  cases s with
  | named => rw [all, children]
  | other => rw [all, children, allIn]

theorem allIn_append (ss ts : List Statement) : allIn (ss ++ ts) = allIn ss ++ allIn ts := by
  induction ss with
  | nil => simp [allIn]
  | cons s ss ih => simp [allIn, ih]

/-- the statements of a list in reverse are the same ones in another order -/
theorem perm_allIn_reverse (ss : List Statement) : (allIn ss.reverse).Perm (allIn ss) := by
  induction ss with
  | nil => exact .refl _
  | cons s ss ih =>
    rw [List.reverse_cons, allIn_append, allIn, allIn, allIn, List.append_nil]
    exact (ih.append_right s.all).trans List.perm_append_comm

end Statement

/-- a YANG module -/
structure ModuleDecl where
  name : String
  namespaceUri : String
  modulePrefix : String
  description : Option String
  statements : List Statement
  deriving Repr

/-! ## Counts -/

/-- one more of a keyword -/
def tally (counts : Assoc String Nat) (keyword : String) : Assoc String Nat :=
  counts.insert keyword ((counts.find? keyword).getD 0 + 1)

/-- a count under way: the statements to be counted with all below them, the next one first, and the counts so far -/
structure Counting where
  pending : List Statement
  counts : Assoc String Nat
  deriving Repr

namespace Counting

/-- nothing counted yet; the last statement is the next one -/
def start (ss : List Statement) : Counting :=
  ⟨ss.reverse, .empty⟩

/-- one turn: the next statement is counted, and those below it come before the others, again the last one first -/
def turn : Counting → Counting
  | ⟨[], counts⟩ => ⟨[], counts⟩
  | ⟨s :: pending, counts⟩ => ⟨s.children.reverse ++ pending, tally counts s.keyword⟩

/-- what a turn leaves to be counted is what was there before it, without the statement that it counts -/
theorem perm_turn (s : Statement) (pending : List Statement) :
    (Statement.allIn (s :: pending)).Perm (s :: Statement.allIn (s.children.reverse ++ pending)) := by
  rw [Statement.allIn, Statement.all_eq, Statement.allIn_append, List.cons_append]
  exact (((Statement.perm_allIn_reverse s.children).symm).append_right _).cons s

/-- number of statements to be counted, nested ones included -/
def left (c : Counting) : Nat :=
  (Statement.allIn c.pending).length

theorem left_turn (s : Statement) (pending : List Statement) (counts : Assoc String Nat) :
    (turn ⟨s :: pending, counts⟩).left + 1 = left ⟨s :: pending, counts⟩ :=
  (perm_turn s pending).length_eq.symm

/-- the counts when nothing is left to be counted -/
def finish : Counting → Assoc String Nat
  | ⟨[], counts⟩ => counts
  | ⟨s :: pending, counts⟩ => finish (turn ⟨s :: pending, counts⟩)
termination_by c => c.left
decreasing_by
  rw [← left_turn]
  exact Nat.lt_succ_self _

end Counting

/-- number of statements by keyword, nested ones included -/
def ModuleDecl.counts (m : ModuleDecl) : Assoc String Nat :=
  (Counting.start m.statements).finish

/-- the counts of a module sorted by keyword -/
def ModuleDecl.sortedCounts (m : ModuleDecl) : List (String × Nat) :=
  Text.sortOn (·.1) m.counts.toList

/-- a schema document -/
structure Document where
  modules : List ModuleDecl
  deriving Repr

end YangDesign.Schema
