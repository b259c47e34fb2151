namespace ComplexityHints

inductive Grammar where
  | javascript
  | typescript
  | tsx
  | lua
deriving DecidableEq, Repr

namespace Grammar

def all : List Grammar := [.javascript, .typescript, .tsx, .lua]

def name : Grammar → String
  | javascript => "javascript"
  | typescript => "typescript"
  | tsx => "tsx"
  | lua => "lua"

def ofName? (s : String) : Option Grammar := all.find? (·.name = s)

end Grammar

inductive Category where
  | script
  | hostTemplate
  | statement
deriving DecidableEq, Repr

def Category.name : Category → String
  | .script => "script"
  | .hostTemplate => "host_template"
  | .statement => "statement"

inductive Language where
  | typescript
  | typescriptReact
  | javascript
  | javascriptReact
  | lua
  | vue
  | html
deriving DecidableEq, Repr

namespace Language

def all : List Language :=
  [.typescript, .typescriptReact, .javascript, .javascriptReact, .lua, .vue, .html]

def id : Language → String
  | typescript => "typescript"
  | typescriptReact => "typescriptreact"
  | javascript => "javascript"
  | javascriptReact => "javascriptreact"
  | lua => "lua"
  | vue => "vue"
  | html => "html"

def category : Language → Category
  | typescript | typescriptReact | javascript | javascriptReact => .script
  | lua => .statement
  | vue | html => .hostTemplate

def flag : Language → String
  | typescript => "enabled_for_ts"
  | typescriptReact => "enabled_for_tsx"
  | javascript => "enabled_for_js"
  | javascriptReact => "enabled_for_jsx"
  | lua => "enabled_for_lua"
  | vue => "enabled_for_vue"
  | html => "enabled_for_html"

def grammar : Language → Grammar
  | typescript => .typescript
  | typescriptReact => .tsx
  | javascript | javascriptReact => .javascript
  | lua => .lua
  | vue | html => .typescript

def extensions : Language → List String
  | typescript => [".ts", ".mts", ".cts"]
  | typescriptReact => [".tsx"]
  | javascript => [".js", ".mjs", ".cjs"]
  | javascriptReact => [".jsx"]
  | lua => [".lua"]
  | vue => [".vue"]
  | html => [".html", ".htm"]

def ofId? (s : String) : Option Language := all.find? (·.id = s)

def ofExtension? (ext : String) : Option Language := all.find? (·.extensions.contains ext)

end Language

/-- Unknown identifiers are scored as plain script. -/
def categoryOf (languageId : String) : Category :=
  match Language.ofId? languageId with
  | some l => l.category
  | none => .script

def grammarOf (languageId : String) : Grammar :=
  match Language.ofId? languageId with
  | some l => l.grammar
  | none => .typescript

end ComplexityHints
