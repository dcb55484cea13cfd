import SchemaCoverage.Declaration.Lexer
import SchemaCoverage.Declaration.Statement
/-!
Phrases nested in one another. The readers of phrases with others inside them are made from the
readers of those, so that each level of nesting is one step. A phrase inside another one begins at
least one token later, and the number of tokens bounds how deep they are nested.
-/
namespace SchemaCoverage.Declaration

namespace Grammar

/-- The readers of phrases inside which stand phrases that others read. -/
def around (inner : Grammar) : Grammar where
  type := TypeExpr.read inner
  bound := Bound.read inner
  pattern := Pattern.read inner
  operand := Expression.operand inner
  operation := Expression.operation inner
  expression := Expression.read inner
  body := Expression.body inner
  statements := Statement.list inner
  item := Definition.read inner
  fields := do return (← Parser.namedFields inner).2
  tree := Import.tree inner

/-- The readers of phrases that are nested to some depth. -/
def ofDepth : Nat → Grammar
  | 0 => empty
  | depth + 1 => around (ofDepth depth)

/-- Reads all of some tokens. -/
def readAll {α : Type} (phrase : Grammar → Parser α) (tokens : List Token) : Except Fault α :=
  Parser.readAll tokens (phrase (ofDepth (tokens.length + 1)))

/-- Reads all of a source text. -/
def parse? {α : Type} (phrase : Grammar → Parser α) (source : String) : Option α :=
  (lex source).bind fun tokens => (readAll phrase tokens).toOption

end Grammar

/-- Reads a type from its source text. -/
def TypeExpr.parse? (source : String) : Option TypeExpr :=
  Grammar.parse? (TypeExpr.read · true) source

end SchemaCoverage.Declaration
