import CauseTrail.Options.Validation

/-!
# Environment variables

The variables of the environment come in an order: a new one comes last, and one that is set again
keeps its place. A variable names an option when its name, in any ASCII case, is that of the option
behind a given beginning. It gives a truth value when the option is one, true for three words and
false for every other text, and its text otherwise.

## Main definitions

* `Environment`: the variables in their order
* `Environment.optionValues`: the options that the variables give
-/

namespace CauseTrail

/-- The variables with their texts, in their order. -/
abbrev Environment := List (String × String)

namespace Environment

/-- The text of a variable. -/
def get? (env : Environment) (name : String) : Option String :=
  (List.find? (fun v => v.1 = name) env).map (·.2)

/-- The environment with a variable set. -/
def set : Environment → String → String → Environment
  | [], name, text => [(name, text)]
  | v :: vs, name, text => if v.1 = name then (name, text) :: vs else v :: set vs name text

/-- The environment without a variable. -/
def unset (env : Environment) (name : String) : Environment := List.filter (fun v => v.1 ≠ name) env

/-- The words that make an option true. -/
def trueWords : List String := ["true", "1", "yes"]

/-- What a variable gives to an option. -/
def valueOf (f : Options.Field) (text : String) : Value :=
  if f.isTruth then .bool (trueWords.contains (Options.lower text)) else .text text

/-- The option that a variable names behind the beginning `lead`. -/
def fieldOf? (lead name : String) : Option Options.Field :=
  if lead.toList.isPrefixOf name.toList then
    Options.Field.ofName? (Options.lower (String.ofList (name.toList.drop lead.length)))
  else none

/-- The options that the variables give, each under its name; the last variable that names an
option counts, at the place of the first. -/
def optionValues (lead : String) (env : Environment) : Mapping :=
  Mapping.ofEntries (List.filterMap (fun v =>
    (fieldOf? lead v.1).map fun f => (Value.text f.name, valueOf f v.2)) env)

end Environment

/-- The options that the variables alone give. -/
def Options.ofEnvironment? (lead : String) (env : Environment) : Except (List Issue) Options :=
  Options.ofMapping? (env.optionValues lead)

end CauseTrail
