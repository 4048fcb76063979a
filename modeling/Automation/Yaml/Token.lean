import Automation.Yaml.Cursor

/-
  The tokens of a YAML text.

  Key definitions include:
    * `Yaml.Token` and its `Yaml.TokenKind`
-/

namespace Automation

namespace Yaml

/-
  What a token is.  Where a text cannot be taken apart any further, the
  last token is unreadable and says why.
-/
inductive TokenKind where
  | directive
  | documentStart
  | documentEnd
  | blockSequence
  | blockMapping
  | blockEnd
  | openBracket
  | closeBracket
  | openBrace
  | closeBrace
  | dash
  | comma
  | key
  | value
  | alias (name : String)
  | anchor (name : String)
  | tag (name : String)
  | scalar (plain : Bool) (text : String)
  | streamEnd
  | unreadable (problem : Problem)
deriving DecidableEq, Inhabited

structure Token where
  kind : TokenKind
  start : Mark
  finish : Mark
deriving DecidableEq, Inhabited

end Yaml

end Automation
