import Rgbd.Node.Threads

/-!
Callers that configure the filter toggles while the node's threads run.

Configuring the filters takes two critical sections of the node: the chain of the
installed pipeline takes the new toggles under the pipeline's lock
(`Node.configureInstalled`), and the toggles are stored for later pipelines under a lock of
their own (`Node.storeFilters`). A caller holds no lock between the two, so the node's
threads may take any number of steps there, as they may between a caller's arrival and its
first section. A run interleaves the steps of the node's threads (`Sys.next`) with the
steps of any number of callers.
-/

namespace Rgbd

/-- Where a caller configuring the filters stands. -/
inductive Caller where
  | configure (f : FilterSettings)
  | store (f : FilterSettings)
  | returned (r : Except EngineError Unit)

/-- The node's threads, the node and the world, and the callers configuring the filters. -/
structure Configuring (σ : Type) where
  sys : Sys σ
  callers : List Caller := []

namespace Caller

variable {σ : Type} [Provider σ] [Camera σ] [Publisher σ] [HostClock σ]

def advance : Caller → StateM (Sys σ) Caller
  | .configure f => do
    match ← Sys.atomically (Node.configureInstalled f) with
    | .ok () => return .store f
    | .error e => return .returned (.error e)
  | .store f => do
    Sys.atomically (Node.storeFilters f)
    return .returned (.ok ())
  | .returned r => return .returned r

end Caller

namespace Configuring

/-- How a run goes on: the node's threads go on, a caller arrives, or caller `i` takes a
step. -/
inductive Choice where
  | node (c : Rgbd.Choice)
  | call (f : FilterSettings)
  | step (i : Nat)

variable {σ : Type} [Provider σ] [Camera σ] [Publisher σ] [HostClock σ]

/-- A node fresh from its settings, before its first installation, with no thread running
and no caller. -/
def fresh (settings : Settings) (w : σ) : Configuring σ := { sys := Sys.fresh settings w }

def next (c : Configuring σ) : Choice → Configuring σ
  | .node x => { c with sys := c.sys.next x }
  | .call f => { c with callers := c.callers ++ [.configure f] }
  | .step i =>
    match c.callers[i]? with
    | some k =>
      let (k, s) := k.advance.run c.sys
      { sys := s, callers := c.callers.set i k }
    | none => c

def run (c : Configuring σ) (choices : List Choice) : Configuring σ := choices.foldl next c

end Configuring

end Rgbd
