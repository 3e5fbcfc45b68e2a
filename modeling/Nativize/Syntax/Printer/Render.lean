import Nativize.Syntax.Printer.Statement

/-!
# Printing programs

`layout` gives the printer of a node from the pieces of its parts; `piece` applies it throughout a
tree.
-/

namespace Nativize.Syntax

open Print

/-- The printer of an expression, pattern, type or piece of markup. -/
def phraseLayout (kind : Kind) (lead : List Comment) (ps : List Piece) (place : Place) :
    Print Unit :=
  match kind with
  | .absent => pure ()
  | .reference name => word name
  | .binding name => word name
  | .name text => str text
  | .privateName text => str ("#" ++ text)
  | .thisValue => word "this"
  | .superValue => word "super"
  | .nullValue => word "null"
  | .boolean value => word (if value then "true" else "false")
  | .number value raw => if place.inType then str raw else number value place.level
  | .bigint digits => word (digits ++ "n")
  | .string value => str (stringText value)
  | .regex pattern flags => Layout.regex pattern flags
  | .template quasis => Layout.template quasis ps
  | .taggedTemplate => Layout.taggedTemplate ps place
  | .array => Layout.array ps
  | .object => Layout.object lead ps place
  | .property facts => Layout.property facts ps place
  | .coverDefault => Layout.targetName ps
  | .spread _ => do
    str "..."
    (nth ps 0).atLevel Level.comma
  | .functionLike facts => Layout.functionLike facts ps place
  | .arrow facts => Layout.arrow facts ps place
  | .params => list (ps.map Piece.print)
  | .param facts => Layout.param facts ps
  | .thisParam => do
    str "this"
    (nth ps 0).after ": "
  | .body directives closing => Layout.body directives closing ps place
  | .classLike facts => Layout.classLike facts ps place
  | .decorator => Layout.decorator ps
  | .method facts => Layout.method facts ps place
  | .field facts => Layout.field facts false ps
  | .autoAccessor facts => Layout.field facts true ps
  | .staticBlock => Layout.staticBlock ps place
  | .unary op => Layout.unary op ps place
  | .update op isBefore => Layout.update op isBefore ps place
  | .binary op => Layout.binary op ps place
  | .logical op => Layout.operation op true ps place
  | .conditional => Layout.conditional ps place
  | .assign op => Layout.assign op ps place
  | .sequence => Layout.sequence ps place
  | .member property optional => Layout.member property optional ps place
  | .index optional => Layout.index optional ps place
  | .privateMember property optional => Layout.privateMember property optional ps place
  | .call optional isPure closing => Layout.call optional isPure closing ps place
  | .newCall isPure closing => Layout.newCall isPure closing ps place
  | .chain => Layout.chain ps place
  | .paren => (nth ps 0).printer place
  | .awaitValue => Layout.awaitValue ps place
  | .yieldValue delegate => Layout.yieldValue delegate ps place
  | .importCall phase closing => Layout.importCall phase closing ps place
  | .metaProperty object property => word (object ++ "." ++ property)
  | .asType => Layout.typed " as " ps place
  | .satisfies => Layout.typed " satisfies " ps place
  | .nonNull => Layout.nonNull ps place
  | .instantiate => do
    (nth ps 0).printer place
    (nth ps 1).print
  | .objectPattern => Layout.objectPattern ps
  | .patternProperty _ isComputed => Layout.patternProperty isComputed ps
  | .arrayPattern => Layout.arrayPattern ps
  | .defaulted => Layout.defaulted ps
  | .rest => Layout.rest ps
  | .objectTarget => Layout.objectTarget ps
  | .targetName => Layout.targetName ps
  | .targetProperty isComputed => Layout.targetProperty isComputed ps
  | .arrayTarget => Layout.arrayTarget ps
  | .targetDefault => Layout.defaulted ps
  | .targetRest => do
    str "..."
    (nth ps 0).print
  | .heritage => all (ps.map Piece.print)
  | .keywordType text => word text
  | .typeReference => all (ps.map Piece.print)
  | .qualifiedName right => do
    (nth ps 0).print
    str ("." ++ right)
  | .typeQuery => do
    str "typeof "
    all (ps.map Piece.print)
  | .importType => Layout.importType ps
  | .literalType => (nth ps 0).printer { inType := true }
  | .unionType => Layout.joined " | " ps
  | .intersectionType => Layout.joined " & " ps
  | .arrayType => do
    (nth ps 0).print
    str "[]"
  | .tupleType => do
    str "["
    list (ps.map Piece.print)
    str "]"
  | .namedMember label isOptional => Layout.namedMember label isOptional ps
  | .optionalType => do
    (nth ps 0).print
    str "?"
  | .restType => do
    str "..."
    (nth ps 0).print
  | .nullableType isBefore => Layout.signedType "?" isBefore ps
  | .presentType isBefore => Layout.signedType "!" isBefore ps
  | .anyType => str "?"
  | .functionType => Layout.functionType ps
  | .constructorType isAbstract => Layout.constructorType isAbstract ps
  | .typeLiteral => Layout.typeMembers true ps
  | .mappedType key readonlySign optionalSign => Layout.mappedType key readonlySign optionalSign ps
  | .conditionalType => Layout.conditionalType ps
  | .inferType => do
    str "infer "
    (nth ps 0).print
  | .indexedType => do
    (nth ps 0).print
    str "["
    (nth ps 1).print
    str "]"
  | .typeOperator op => do
    str (op ++ " ")
    (nth ps 0).print
  | .parenType => do
    str "("
    (nth ps 0).print
    str ")"
  | .templateType quasis => Layout.templateType quasis ps
  | .typePredicate isAsserts => Layout.typePredicate isAsserts ps
  | .typeParams => Layout.typeParams ps
  | .typeParam isConst isIn isOut => Layout.typeParam isConst isIn isOut ps
  | .typeArgs => Layout.typeArgs ps
  | .propertySignature isOptional isReadonly isComputed =>
    Layout.propertySignature isOptional isReadonly isComputed ps place
  | .methodSignature form isOptional isComputed =>
    Layout.methodSignature form isOptional isComputed ps place
  | .callSignature => Layout.signature (nth ps 0) (nth ps 1) (nth ps 2)
  | .constructSignature => do
    str "new "
    Layout.signature (nth ps 0) (nth ps 1) (nth ps 2)
  | .indexSignature parameter isReadonly => Layout.indexSignature parameter isReadonly ps
  | .element => Layout.element ps
  | .fragment => Layout.fragment ps
  | .markupName text => str text
  | .markupMember property => do
    (nth ps 0).print
    str ("." ++ property)
  | .markupNamespaced space name => str (space ++ ":" ++ name)
  | .markupAttribute => Layout.markupAttribute ps
  | .markupSpread => Layout.container "\x7b..." Level.comma ps
  | .markupString text => Layout.markupString text
  | .markupText text => str text
  | .container => Layout.container "\x7b" 0 ps
  | .emptyContent list => comments list
  | .spreadChild => Layout.container "\x7b..." 0 ps
  | .declarator _ => Layout.declarator ps place
  | .switchCase => Layout.switchCase ps place
  | .handler => Layout.handler ps place
  | .exportSpecifier typeOnly => Layout.exportSpecifier typeOnly ps
  | .externalModule => do
    str "require("
    (nth ps 0).print
    str ")"
  | .enumMember isComputed => Layout.enumMember isComputed ps
  | .moduleBody directives => Layout.moduleBody directives ps place
  | .program hashbang directives closing => Layout.program hashbang directives closing ps
  | _ => all (ps.map Piece.print)

/-- How a statement is printed: its contents, and what ends its line. The comments of a declaration
of types come after the indentation. -/
structure LineLayout where
  contents : Print Unit
  finish : Print Unit
  isType : Bool := false

/-- The layout of a statement, if the kind is one. -/
def lineLayout? (kind : Kind) (ps : List Piece) (place : Place) : Option LineLayout :=
  match kind with
  | .exprStmt => some ⟨do startStatement; (nth ps 0).print, endStatement, false⟩
  | .block => some ⟨Layout.block ps place, newline, false⟩
  | .emptyStmt => some ⟨pure (), endStatement, false⟩
  | .ifElse => some ⟨Layout.ifElse ps place, pure (), false⟩
  | .forLoop => some ⟨Layout.forLoop ps place, pure (), false⟩
  | .forIn => some ⟨Layout.eachLoop "for (" " in " 0 ps place, pure (), false⟩
  | .forOf isAwait =>
    some ⟨Layout.eachLoop (if isAwait then "for await (" else "for (") " of " Level.comma ps place,
      pure (), false⟩
  | .whileLoop => some ⟨Layout.whileLoop "while (" ps place, pure (), false⟩
  | .withStmt => some ⟨Layout.whileLoop "with(" ps place, pure (), false⟩
  | .doWhile => some ⟨Layout.doWhile ps place, pure (), false⟩
  | .switchStmt => some ⟨Layout.switchStmt ps place, pure (), false⟩
  | .returnStmt => some ⟨do str "return"; (nth ps 0).after " ", endStatement, false⟩
  | .throwStmt => some ⟨do str "throw"; (nth ps 0).after " ", endStatement, false⟩
  | .tryStmt => some ⟨Layout.tryStmt ps place, pure (), false⟩
  | .labeled label => some ⟨do str (label ++ ":"); Layout.branch (nth ps 0) place, pure (), false⟩
  | .breakStmt label => some ⟨Layout.jump "break" label, pure (), false⟩
  | .continueStmt label => some ⟨Layout.jump "continue" label, pure (), false⟩
  | .debuggerStmt => some ⟨str "debugger", endStatement, false⟩
  | .variableDecl keyword isDeclare =>
    some ⟨Layout.variableDecl keyword isDeclare ps place, endStatement, false⟩
  | .functionLike facts =>
    if facts.form = .expression then none
    else some ⟨Layout.functionLike facts ps place, newline, false⟩
  | .classLike facts =>
    if facts.isDeclaration then some ⟨Layout.classLike facts ps place, newline, false⟩ else none
  | .importDecl decl => some ⟨Layout.importDecl decl, pure (), false⟩
  | .exportAll exported source typeOnly =>
    some ⟨Layout.exportAll exported source typeOnly, pure (), false⟩
  | .exportNamed source typeOnly =>
    some ⟨Layout.exportNamed source typeOnly ps place, pure (), false⟩
  | .exportDefault => some ⟨Layout.exportDefault ps place, pure (), false⟩
  | .exportAssign => some ⟨do str "export = "; (nth ps 0).print, endStatement, false⟩
  | .exportNamespace name => some ⟨str ("export as namespace " ++ name), endStatement, false⟩
  | .importEquals name typeOnly =>
    some ⟨do
      str "import "
      Layout.mark typeOnly "type "
      str (name ++ " = ")
      (nth ps 0).print, endStatement, true⟩
  | .typeAlias isDeclare => some ⟨Layout.typeAlias isDeclare ps, endStatement, true⟩
  | .interfaceDecl _ => some ⟨Layout.interfaceDecl ps, newline, true⟩
  | .enumDecl isConst isDeclare => some ⟨Layout.enumDecl isConst isDeclare ps, newline, true⟩
  | .moduleDecl keyword isDeclare =>
    some ⟨Layout.moduleDecl keyword isDeclare ps place, newline, false⟩
  | _ => none

/-- A function declaration whose calls have no effects. -/
def isQuietDeclaration : Kind → Bool
  | .functionLike facts => facts.isQuiet
  | _ => false

/-- The printer of a node. A statement inside another leaves its line to that one. -/
def layout (kind : Kind) (lead : List Comment) (ps : List Piece) (place : Place) : Print Unit :=
  match lineLayout? kind ps place with
  | none => phraseLayout kind lead ps place
  | some line =>
    if place.isInner then line.contents
    else do
      if line.isType then
        indent
        comments lead
      else
        comments lead
        if isQuietDeclaration kind then
          indent
          str (Layout.quietMark ++ "\n")
        indent
      line.contents
      line.finish

mutual

/-- A tree with the printers of all its nodes. -/
def piece : Ast → Piece
  | .node k l p => let ps := pieces p; .mk (.node k l p) (layout k l ps) ps

def pieces : List Ast → List Piece
  | [] => []
  | t :: rest => piece t :: pieces rest

end

/-- The code of a program. -/
def Ast.code (t : Ast) : String := (((piece t).print).run {}).2.text

end Nativize.Syntax
