import ModelMigration.Error
import ModelMigration.Identifier
import ModelMigration.Text.Blank

/-!
# Modifiers

The modifiers of a field are written as directives with colons between them, each a name or a name
and an argument with a comma between them, as in `nullable:default,0`. White space around names and
arguments does not count. A blank text holds no modifiers.
-/

namespace ModelMigration

/-- One call chained onto a column. -/
structure Modifier where
  name : String
  argument? : Option String
deriving DecidableEq, Repr

/-- What a directive is refused for. -/
inductive ModifierFault where
  /-- Neither a name nor a name with one argument. -/
  | tokens (count : Nat)
  | emptyName
  | badName (name : String)
  | emptyArgument
deriving DecidableEq, Repr

/-- What is said of a refused directive. -/
def ModifierFault.message : ModifierFault → String
  | tokens count =>
      "expected 'name' or 'name,value' but found " ++ toString count ++ " comma-separated tokens"
  | emptyName => "modifier name is empty"
  | badName name => "'" ++ name ++ "' is not a valid modifier name"
  | emptyArgument => "modifier argument is empty"

namespace Modifier

/-- The call, with the argument as it was written. -/
def call (m : Modifier) : String := "->" ++ m.name ++ "(" ++ m.argument?.getD "" ++ ")"

/-- The modifier of a name and perhaps an argument. -/
def ofTokens (name : String) (argument? : Option String) : Except ModifierFault Modifier :=
  if name = "" then .error .emptyName
  else if !isIdentifier name then .error (.badName name)
  else if argument? = some "" then .error .emptyArgument
  else .ok ⟨name, argument?⟩

/-- The modifier that a directive stands for. -/
def ofDirective (directive : String) : Except ModifierFault Modifier :=
  match (Text.pieces ',' directive).map Text.trimmed with
  | [name] => ofTokens name none
  | [name, argument] => ofTokens name (some argument)
  | tokens => .error (.tokens tokens.length)

/-- The modifiers that a text stands for; `field` is named where one is refused. -/
def parse (field text : String) : Except Error (List Modifier) :=
  if Text.isBlankText text then .ok []
  else
    (Text.pieces ':' text).mapM fun directive =>
      match ofDirective directive with
      | .ok m => .ok m
      | .error fault => .error (.invalidModifier field directive fault.message)

end Modifier

end ModelMigration
