import Nativize.Conversion.Imports
import Nativize.Conversion.Markup
import Nativize.Conversion.Navigation

/-!
# Sweeps over a program

`sweep` applies one step wherever it fits, outer nodes before inner ones, up to the first breach.
`combinedSweep` applies the steps for markup, hooks, navigation and storage in a single descent.
Both decide on a node before they look at its parts, and then change the node with its parts already
swept: a step reads names and texts only, which no sweep of the parts changes.
-/

namespace Nativize.Conversion

open Syntax

/-- A change of the parts of nodes of some kind. Where it does not fit it has no result. -/
abbrev Step := Kind → List Ast → Option (List Ast × Option Breach)

/-- Convert an element. -/
def elementStep (p : Profile) : Step
  | .element, parts => some (convertElement p parts)
  | _, _ => none

/-- Convert a declarator that calls the navigation hook. -/
def hookStep (p : Profile) : Step
  | .declarator _, parts => convertHook? p.names parts
  | _, _ => none

/-- Forward a call of the web storage. -/
def storageStep (p : Profile) : Step
  | .call .., callee :: rest => (secureCallee? p callee).map fun c => (c :: rest, none)
  | _, _ => none

/-- How far a sweep has come: how often a step fitted, and the breach that stopped it. -/
structure SweepState where
  count : Nat := 0
  breach : Option Breach := none

mutual

/-- Apply a step to a tree. -/
def sweep (step : Step) : Ast → StateM SweepState Ast
  | .node k l parts => do
    if (← get).breach.isSome then return .node k l parts
    match step k parts with
    | none => return .node k l (← sweepAll step parts)
    | some (changed, some b) =>
      modify fun s => { s with breach := some b }
      return .node k l changed
    | some (_, none) =>
      modify fun s => { s with count := s.count + 1 }
      let parts ← sweepAll step parts
      return .node k l (((step k parts).map (·.1)).getD parts)

def sweepAll (step : Step) : List Ast → StateM SweepState (List Ast)
  | [] => return []
  | t :: rest => return (← sweep step t) :: (← sweepAll step rest)

end

/-- A step as a pass. The answer is how often it fitted. -/
def sweepPass (step : Step) : Pass Nat := do
  let (t, state) := (sweep step (← get)).run {}
  set t
  Pass.check state.breach
  return state.count

/-- How often each step of the combined sweep fitted. -/
structure Tally where
  importsRemoved : Nat := 0
  elements : Nat := 0
  hooks : Nat := 0
  navigationCalls : Nat := 0
  storageCalls : Nat := 0
deriving DecidableEq, Repr

/-- How far a combined sweep has come. -/
structure CombinedState where
  tally : Tally := {}
  breach : Option Breach := none

/-- Where a combined sweep stands. -/
structure Surroundings where
  /-- The names that stand for the result of the navigation hook here. -/
  aliases : List String
  inMarkup : Bool := false
  /-- The variable that takes the place of the callee, when the node is the call of a hook that was
  converted. -/
  callee : Option String := none

namespace CombinedState

def stop (b : Breach) (s : CombinedState) : CombinedState := { s with breach := some b }

def countElement (s : CombinedState) : CombinedState :=
  { s with tally := { s.tally with elements := s.tally.elements + 1 } }

def countHook (s : CombinedState) : CombinedState :=
  { s with tally := { s.tally with hooks := s.tally.hooks + 1 } }

def countNavigation (s : CombinedState) : CombinedState :=
  { s with tally := { s.tally with navigationCalls := s.tally.navigationCalls + 1 } }

def countStorage (s : CombinedState) : CombinedState :=
  { s with tally := { s.tally with storageCalls := s.tally.storageCalls + 1 } }

end CombinedState

/-- What a call is to the combined sweep. -/
inductive CallRole where
  | storage (callee : Ast)
  | navigation
  | other

/-- Decide on a call by its callee. The storage comes first. -/
def callRole (p : Profile) (w : Surroundings) (callee : Ast) : CallRole :=
  match secureCallee? p callee with
  | some c => .storage c
  | none => if isNavigation p.names w.aliases w.inMarkup callee then .navigation else .other

mutual

/-- Apply all steps to a tree. -/
def sweepTree (p : Profile) (w : Surroundings) : Ast → StateM CombinedState Ast
  | .node .element l parts => do
    if (← get).breach.isSome then return .node .element l parts
    match convertElement p parts with
    | (changed, some b) =>
      modify (·.stop b)
      return .node .element l changed
    | (_, none) =>
      modify (·.countElement)
      let parts ← sweepTrees p { w with inMarkup := true, callee := none } parts
      return .node .element l (convertElement p parts).1
  | .node (.declarator d) l [pattern, type, value] => do
    if (← get).breach.isSome then return .node (.declarator d) l [pattern, type, value]
    if callsVariable (p.names .navigationHook) value then
      match pattern with
      | .node (.binding _) bl bp =>
        modify (·.countHook)
        let type ← sweepTree p { w with callee := none } type
        let value ← sweepTree p { w with callee := some (p.names .routerHook) } value
        return .node (.declarator d) l
          [.node (.binding (p.names .routerBinding)) bl bp, type, value]
      | _ =>
        modify (·.stop (.destructuredHook (p.names .navigationHook)))
        return .node (.declarator d) l [pattern, type, value]
    else
      let w := { w with callee := none }
      let pattern ← sweepTree p w pattern
      let type ← sweepTree p w type
      let value ← sweepTree p w value
      return .node (.declarator d) l [pattern, type, value]
  | .node (.call o q c) l (callee :: rest) => do
    if (← get).breach.isSome then return .node (.call o q c) l (callee :: rest)
    let inner := { w with callee := none }
    match w.callee with
    | some name =>
      let callee := Ast.leaf (.reference name)
      match callRole p w callee with
      | .navigation =>
        modify (·.countNavigation)
        return .node (.call o q c) l (routeCallee p.names :: (← sweepTrees p inner rest))
      | _ => return .node (.call o q c) l (callee :: (← sweepTrees p inner rest))
    | none =>
      match callRole p w callee with
      | .storage callee =>
        modify (·.countStorage)
        return .node (.call o q c) l (callee :: (← sweepTrees p inner rest))
      | .navigation =>
        modify (·.countNavigation)
        return .node (.call o q c) l (routeCallee p.names :: (← sweepTrees p inner rest))
      | .other =>
        let callee ← sweepTree p inner callee
        return .node (.call o q c) l (callee :: (← sweepTrees p inner rest))
  | .node k l parts =>
    let free := w.aliases.filter fun name =>
      !isShadowedBy (p.names .navigationHook) (.node k l parts) name
    return .node k l (← sweepTrees p { w with aliases := free, callee := none } parts)

def sweepTrees (p : Profile) (w : Surroundings) : List Ast → StateM CombinedState (List Ast)
  | [] => return []
  | t :: rest => return (← sweepTree p w t) :: (← sweepTrees p w rest)

end

/-- Convert imports, and then everything else that the combined sweep converts. -/
def combinedSweep (p : Profile) (aliases : List String) : Pass Tally := do
  let removed ← convertImports p
  let (t, state) := (sweepTree p ⟨aliases, false, none⟩ (← get)).run {}
  set t
  Pass.check state.breach
  return { state.tally with importsRemoved := removed }

end Nativize.Conversion
