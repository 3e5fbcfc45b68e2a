import Nativize.Conversion.Node
import Nativize.Failure
import Nativize.Profile.Basic

/-!
# Navigation and storage

The result of the navigation hook is a function that goes to a page. The router hook gives a router
instead, bound under one name, and going to a page is a member of it. Reads of the web storage are
forwarded to the secure store.
-/

namespace Nativize.Conversion

open Syntax

/-- The name that a declarator gives to the result of a hook. -/
def hookAlias? (hook : String) : Ast → Option String
  | .node (.declarator _) _ [.node (.binding name) _ _, _, value] =>
    if callsVariable hook value then some name else none
  | _ => none

/-- The names that the program gives to the result of the navigation hook. -/
def navigationAliases (names : Names) (t : Ast) : List String :=
  (t.nodes.filterMap (hookAlias? (names .navigationHook))).eraseDups

/-- A call with another callee. -/
def withCallee (callee : Ast) : Ast → Ast
  | .node (.call o q c) l (_ :: rest) => .node (.call o q c) l (callee :: rest)
  | other => other

/-- Convert the parts of a declarator that calls the navigation hook. Any other has no result. -/
def convertHook? (names : Names) (parts : List Ast) : Option (List Ast × Option Breach) :=
  match parts with
  | [pattern, type, value] =>
    if callsVariable (names .navigationHook) value then
      match pattern with
      | .node (.binding _) l ps =>
        let call := withCallee (.leaf (.reference (names .routerHook))) value
        some ([.node (.binding (names .routerBinding)) l ps, type, call], none)
      | _ => some (parts, some (.destructuredHook (names .navigationHook)))
    else none
  | _ => none

/-- The callee of a call of the secure store, for one of the web storage that is forwarded. -/
def secureCallee? (p : Profile) (callee : Ast) : Option Ast :=
  match callee with
  | .node (.member method optional) l [.node (.reference object) _ _] =>
    if object = p.names .webStorage && p.tables.storageMethods.contains method then
      some (.node (.member method optional) l [.leaf (.reference (p.names .secureStoreNamespace))])
    else none
  | _ => none

/-- The callee that goes to a page. -/
def routeCallee (names : Names) : Ast := memberOf (names .routerBinding) (names .navigateMember)

/-- The callee is the variable that goes to a page: an alias, or anywhere inside markup the name of
the member itself. -/
def isNavigation (names : Names) (aliases : List String) (inMarkup : Bool) (callee : Ast) : Bool :=
  match callee with
  | .node (.reference name) _ _ =>
    aliases.contains name || (inMarkup && name = names .navigateMember)
  | _ => false

/-- The parts of a function that bind names: its parameters, and the statements of its body. -/
def scope : Ast → List Ast × List Ast
  | .node (.functionLike _) _ [_, _, .node .params _ params, _, body] => (params, body.parts)
  | .node (.arrow _) _ [_, .node .params _ params, _, body] => (params, body.parts)
  | _ => ([], [])

/-- The parameter binds the name. A rest parameter is not looked at. -/
def paramBinds (name : String) : Ast → Bool
  | .node (.param _) _ [_, pattern, _, _] => patternBinds name pattern
  | _ => false

/-- The declarator binds the name to something other than the result of the hook. -/
def rebinds (hook name : String) : Ast → Bool
  | .node (.declarator _) _ [pattern, _, value] =>
    patternBinds name pattern && !callsVariable hook value
  | _ => false

/-- The function uses the name for something else. -/
def isShadowedBy (hook : String) (function : Ast) (name : String) : Bool :=
  let (params, body) := scope function
  params.any (paramBinds name) || (declarators body).any (rebinds hook name)

end Nativize.Conversion
