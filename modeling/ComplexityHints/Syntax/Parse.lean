import ComplexityHints.Language
import ComplexityHints.Syntax.Lua.Grammar
import ComplexityHints.Syntax.Script.Grammar

namespace ComplexityHints.Syntax

def parse : Grammar → List Char → Node
  | .javascript, source => Script.parse .javascript source
  | .typescript, source => Script.parse .typescript source
  | .tsx, source => Script.parse .tsx source
  | .lua, source => Lua.parse source

end ComplexityHints.Syntax
