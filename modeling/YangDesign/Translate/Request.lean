/-
Nested requests to a registry: a build may make further requests, fail, or pass on the failure of one it made.

`Request.run` answers a request with what it saw: whether the definition was built by this request, the answers to the
requests that the build made, and the number of names afterwards.
-/
import YangDesign.Translate.Registry

namespace YangDesign.Translate

open Design

/-- a request to a registry -/
inductive Request where
  | register (family : Family) (definition : Definition) (inner : List Request) (fails passesOn : Bool)
  | lookUp (family : Family) (name : SymbolicName)
  | isRegistered (family : Family) (name : SymbolicName)
  | size
  deriving Repr

/-- the answer to a request; `built` holds the answers to inner requests if a build was started -/
inductive Answer where
  | registered (name : Option SymbolicName) (built : Option (List Answer)) (size : Nat)
  | found (definition : Option Definition)
  | flag (b : Bool)
  | count (n : Nat)
  deriving Repr

/-- a registry and the answers within the build that is running -/
structure Session where
  registry : Registry
  built : Option (List Answer)
  deriving Repr

instance : HasRegistry Session where
  registry s := s.registry
  withRegistry r s := { s with registry := r }

/-- a build that was told to fail -/
inductive BuildFailed where
  | failed
  deriving DecidableEq, Repr

/-- wording of a failed build -/
def BuildFailed.message : BuildFailed → String
  | .failed => "build failed"

/-- the outcome of a computation as a value -/
def outcome {σ ε α : Type} (x : Build σ ε α) : Build σ ε (Except ε α) :=
  ExceptT.mk (x.run >>= fun r => pure (.ok r))

mutual

/-- the answer to a request -/
def Request.run : Request → Build Session BuildFailed Answer
  | .register family definition inner fails passesOn => do
    let outer := (← get).built
    modify ({ · with built := none })
    let result ← outcome <| obtain family definition.name do
      modify ({ · with built := some [] })
      Request.runAll inner
      if fails then throw .failed
      return definition
    let built := (← get).built
    modify ({ · with built := outer })
    match result with
    | .ok n => return .registered (some n) built (← get).registry.size
    | .error e => if passesOn then throw e else return .registered none built (← get).registry.size
  | .lookUp family name => return .found ((← get).registry.lookUp family name)
  | .isRegistered family name => return .flag ((← get).registry.isRegistered family name)
  | .size => return .count (← get).registry.size

/-- requests in order, each answer noted in the build that is running -/
def Request.runAll : List Request → Build Session BuildFailed Unit
  | [] => return ()
  | q :: qs => do
    let a ← q.run
    modify fun s => { s with built := s.built.map (· ++ [a]) }
    Request.runAll qs

end

end YangDesign.Translate
