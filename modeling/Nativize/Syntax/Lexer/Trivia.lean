import Nativize.Syntax.Lexer.Lexeme
import Nativize.Syntax.Remark

/-!
# Blanks and comments between lexemes

A comment belongs to the lexeme after it, unless it ends the line of the lexeme before: a line
comment there is dropped, except after an opening parenthesis or an equals sign, and so is a block
comment there when the line ends after it.
-/

namespace Nativize.Syntax

/-- What has been seen between two lexemes. -/
structure Gap where
  /-- The comments for the next lexeme, the last one first. -/
  pending : List Comment
  /-- A line break stands before the place that is reached. -/
  sawBreak : Bool
  /-- A line break stands somewhere between the lexemes, in a comment or not. -/
  afterBreak : Bool
  /-- A line comment may follow the lexeme before without ending its line. -/
  keepsLine : Bool
  /-- Some comment, also one that was dropped, says that a call has no effects. -/
  isPure : Bool := false
  /-- Some comment says that calls of a function have no effects. -/
  isQuiet : Bool := false

/-- Mark the last comment as standing before a line break. -/
def endLine : List Comment → List Comment
  | [] => []
  | c :: rest => { c with beforeBreak := true } :: rest

def Gap.lineBreak (g : Gap) : Gap :=
  { g with
    pending := if g.sawBreak then endLine g.pending else []
    sawBreak := true
    afterBreak := true }

/-- Keep what the comment says. -/
def Gap.remark (g : Gap) (comment : Comment) : Gap :=
  { g with isPure := g.isPure || comment.isPureMark, isQuiet := g.isQuiet || comment.isQuietMark }

def Gap.lineComment (g : Gap) (text : List Char) : Gap :=
  let comment : Comment := ⟨String.ofList text.reverse, true, g.sawBreak, true, 0⟩
  { g.remark comment with
    pending := if g.sawBreak || g.keepsLine then comment :: g.pending else []
    sawBreak := true }

def Gap.blockComment (g : Gap) (text : List Char) : Gap :=
  let comment : Comment := ⟨String.ofList text.reverse, false, g.sawBreak, false, 0⟩
  { g.remark comment with
    pending := comment :: g.pending
    afterBreak := g.afterBreak || text.any isLineBreak }

/-- Where the scan of a gap is: between comments, or in one whose text so far is given backward. -/
inductive GapMode where
  | between
  | line (text : List Char)
  | block (text : List Char)

/-- Scan to the next lexeme. There is none when a block comment has no end. -/
def scanGap (g : Gap) : GapMode → List Char → Option (Gap × List Char)
  | .between, [] => some (g, [])
  | .between, '/' :: '/' :: rest => scanGap g (.line ['/', '/']) rest
  | .between, '/' :: '*' :: rest => scanGap g (.block ['*', '/']) rest
  | .between, c :: rest =>
    if isLineBreak c then scanGap g.lineBreak .between rest
    else if isProgramBlank c then scanGap g .between rest
    else some (g, c :: rest)
  | .line text, [] => some (g.lineComment text, [])
  | .line text, c :: rest =>
    if isLineBreak c then scanGap (g.lineComment text).lineBreak .between rest
    else scanGap g (.line (c :: text)) rest
  | .block _, [] => none
  | .block text, '*' :: '/' :: rest => scanGap (g.blockComment ('/' :: '*' :: text)) .between rest
  | .block text, c :: rest => scanGap g (.block (c :: text)) rest

/-- The gap after a lexeme, before anything is read. -/
def Gap.after (lexeme : Lexeme) : Gap :=
  { pending := [], sawBreak := false, afterBreak := false,
    keepsLine := lexeme = .punct "=" || lexeme = .punct "(" }

/-- The gap at the start of a program. -/
def Gap.atStart : Gap := { pending := [], sawBreak := true, afterBreak := true, keepsLine := false }

/-- The comments of the lexeme after the gap, given the length of the input from there. Marks are
not among them. -/
def Gap.comments (g : Gap) (anchor : Nat) : List Comment :=
  (g.pending.reverse.filter fun c => !c.isMark).map fun c => { c with anchor := anchor }

end Nativize.Syntax
