import Nativize.Syntax.Kind

/-!
# What comments say

Some comments speak to tools. One that begins with a mark tells that the call or function after it
has no effects; the mark is kept with the node, and the comment itself is not printed. One that asks
to be preserved starts a line of its own.
-/

namespace Nativize.Syntax

/-- A text occurs in another. -/
def containsText (needle : List Char) : List Char → Bool
  | [] => needle.isEmpty
  | c :: rest => needle.isPrefixOf (c :: rest) || containsText needle rest

namespace Comment

/-- The characters that may stand between the sign of a comment and a mark. -/
def isGap (c : Char) : Bool :=
  c == ' ' || c == '\t' || c == '\n' || c == '\r' || c.toNat == 0xC

/-- The text without the sign that opens the comment. -/
def body (c : Comment) : List Char := c.text.toList.drop 2

/-- The comment begins with a mark, after `@` or `#`. -/
def hasMark (c : Comment) (mark : String) : Bool :=
  match c.body.dropWhile isGap with
  | sign :: rest => (sign == '@' || sign == '#') && mark.toList.isPrefixOf rest
  | [] => false

/-- The call after the comment has no effects. -/
def isPureMark (c : Comment) : Bool := c.hasMark "__PURE__"

/-- Calls of the function after the comment have no effects. -/
def isQuietMark (c : Comment) : Bool := c.hasMark "__NO_SIDE_EFFECTS__"

/-- The comment is kept with a node and not printed as itself. -/
def isMark (c : Comment) : Bool := c.isPureMark || c.isQuietMark

/-- The comment asks to be preserved. -/
def isPreserved (c : Comment) : Bool :=
  c.body.head? = some '!' || containsText "@preserve".toList c.body ||
    containsText "@license".toList c.body

end Comment

end Nativize.Syntax
