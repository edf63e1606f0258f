import RollCall.Yaml.Fault

/-!
# Tokens

A settings file is a sequence of tokens: the marks of documents and collections, and the names and
scalars between them. Where indentation begins or ends a collection, a token stands for it, and
where a colon shows that what came before is a key, a token stands before that. The last token is
the end of the text, or the fault at which reading stopped.
-/

namespace RollCall.Yaml

/-- A line with directions about the document after it. -/
inductive Directive
  /-- The version of the format, of which the first number counts. -/
  | version (major : Nat)
  /-- What a handle of a tag stands for. -/
  | handle (name expansion : String)
  /-- Anything else. -/
  | other
  deriving DecidableEq, Repr

/-- A tag as it is written: a handle, unless the tag is written in full, and what follows it. -/
structure TagName where
  handle : Option String
  suffix : String
  deriving DecidableEq, Repr

/-- The smallest parts of a settings file. -/
inductive Token
  | directive (d : Directive)
  | documentStart
  | documentEnd
  | blockSequence
  | blockMapping
  | blockEnd
  | openBracket
  | closeBracket
  | openBrace
  | closeBrace
  | comma
  | dash
  | key
  | value
  | alias (name : String)
  | anchor (name : String)
  | tag (name : TagName)
  | scalar (text : List Text.Symbol) (isPlain : Bool)
  | finish
  | broken (fault : Fault)
  deriving DecidableEq, Repr

/-- The greatest depth of collections in one another. -/
def maxDepth : Nat := 480

/-- The fault of finding a token where it does not belong. -/
def Token.unexpected : Token → Fault
  | .broken fault => fault
  | _ => .malformed

end RollCall.Yaml
