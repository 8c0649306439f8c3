/-
What happens during a run, as records with a level.
-/

namespace YangDesign

/-- level of a record -/
inductive Level where
  | debug
  | info
  | warning
  deriving DecidableEq, Repr

/-- name of a level -/
def Level.name : Level → String
  | .debug => "DEBUG"
  | .info => "INFO"
  | .warning => "WARNING"

/-- weight of a level -/
def Level.weight : Level → Nat
  | .debug => 0
  | .info => 1
  | .warning => 2

/-- path components with slashes between them -/
def slashed (path : List String) : String :=
  "/".intercalate path

/-- something that happened -/
inductive Event where
  | resolvingModule (name : String)
  | ignoredInChoice (keyword : String) (choice : List String)
  | passedThrough (kind : String) (path : List String)
  | processingModule (name : String)
  | ignoredInModule (keyword name : String)
  | ignoredBelow (keyword : String) (parent : List String)
  | registering (family name : String)
  | emitted (kind name : String)
  | materialized (count : Nat) (list : String)
  | skippedTopLevel (name : String)
  | skippedChoice (choice : List String)
  | generated (definitions registered : Nat)
  deriving DecidableEq, Repr

namespace Event

/-- level of an event -/
def level : Event → Level
  | .processingModule _ => .info
  | .skippedTopLevel _ | .skippedChoice _ => .warning
  | _ => .debug

/-- wording of an event -/
def message : Event → String
  | .resolvingModule name => "Resolving module " ++ name
  | .ignoredInChoice keyword choice => "Ignoring '" ++ keyword ++ "' in choice " ++ slashed choice
  | .passedThrough kind path => "Passing through value of unknown type " ++ kind ++ " at " ++ slashed path
  | .processingModule name => "processing module " ++ name
  | .ignoredInModule keyword name => "Ignoring '" ++ keyword ++ "' in module " ++ name
  | .ignoredBelow keyword parent => "Ignoring '" ++ keyword ++ "' below " ++ slashed parent
  | .registering family name => "Registering " ++ family ++ " " ++ name
  | .emitted kind name => "Emitted " ++ kind ++ " " ++ name
  | .materialized count list => "Materialized " ++ toString count ++ " elements of " ++ list
  | .skippedTopLevel name =>
    "Skipping instance data of top-level " ++ name ++ "; only containers are materialized"
  | .skippedChoice choice =>
    "Skipping instance data below choice " ++ slashed choice ++ "; case members are not materialized"
  | .generated definitions registered =>
    "Generated " ++ toString definitions ++ " definitions (" ++ toString registered ++ " registered types)"

end Event

/-- events in the order in which they happened -/
abbrev Journal := List Event

/-- the events of at least a level -/
def Journal.from (level : Level) (j : Journal) : Journal :=
  j.filter fun e => level.weight ≤ e.level.weight

end YangDesign
