import CacheKeys.Template.Expr
import CacheKeys.Template.Quoted
import CacheKeys.Text.Ascii

/-! # Writing templates

The text of a template tree.  A literal node of the template is written raw unless it holds a
brace; a literal argument is written bare if it is a plain word and in quotes otherwise; parts of a
juxtaposition are written side by side. -/

namespace CacheKeys.Template

/-- Whether a literal argument needs no quotes: not empty, and free of blanks, braces, quotes and
backslashes. -/
def isBareWord (s : String) : Bool :=
  !s.isEmpty && s.toList.all fun c =>
    !(Text.isBlank c || c == '{' || c == '}' || c == '"' || c == '\\')

def holdsBrace (s : String) : Bool :=
  s.toList.any fun c => c == '{' || c == '}'

namespace Expr

mutual

def argumentText : Expr → String
  | .literal text => if isBareWord text then text else Quoted.write text
  | .argRef index => "\x7b" ++ toString index ++ "\x7d"
  | .call name args _ => "\x7b" ++ name ++ spacedTexts args ++ "\x7d"
  | .concat parts => joinedTexts parts

/-- Arguments, each after a space. -/
def spacedTexts : List Expr → String
  | [] => ""
  | e :: es => " " ++ e.argumentText ++ spacedTexts es

/-- Parts, side by side. -/
def joinedTexts : List Expr → String
  | [] => ""
  | e :: es => e.argumentText ++ joinedTexts es

end

/-- The node as a piece of a template. -/
def text : Expr → String
  | .literal text => if holdsBrace text then "\x7b" ++ Quoted.write text ++ "\x7d" else text
  | e => e.argumentText

end Expr

/-- The text of a template. -/
def render (nodes : List Expr) : String :=
  String.join (nodes.map Expr.text)

end CacheKeys.Template
