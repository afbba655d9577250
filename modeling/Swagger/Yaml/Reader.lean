import Swagger.Yaml.Alias
import Swagger.Yaml.Token.Lexer

/-! # Reading YAML text
* `Node.ofYamlText?` — the node of a text that holds one document, or none and then reads as nothing
  written. -/

namespace Swagger

/-- The node of a text. -/
def Node.ofYamlText? (s : String) : Option Node := do
  let tokens ← Yaml.Token.ofText? s
  let tree ← Yaml.Tree.ofTokens? tokens
  let numbered ← tree.number? ∅
  return numbered.1.toNode

end Swagger
