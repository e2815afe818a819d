/-!
Reading the options of one level of a command line.

Long options are given as `--name value` or `--name=value`, short ones as `-n value` or
`-nvalue`, and short options without a value may be bundled.  Two dashes end the options.
Options may stand between positional arguments only where the level says so.
-/

namespace CatalogScout
namespace Commands

structure OptionSpec (Name : Type) where
  name : Name
  /-- With its two dashes. -/
  long : String
  short : Option Char
  takesValue : Bool

/-- Options in the order in which they were given, and what is left. -/
structure Arguments (Name : Type) where
  /-- An option without a value carries the empty text. -/
  given : List (Name × String)
  rest : List String

variable {Name : Type}

/-- What the option that was read last still wants. -/
inductive Wanted (Name : Type) where
  | nothing
  | value (name : Name)

/-- The options in one argument. -/
structure Reading (Name : Type) where
  given : List (Name × String)
  wanted : Wanted Name

/-- Read a bundle of short options.  The text behind an option that takes a value is its
value. -/
def readBundle (specs : List (OptionSpec Name)) : List Char → Option (Reading Name)
  | [] => some ⟨[], .nothing⟩
  | c :: r =>
    match specs.find? fun spec => spec.short == some c with
    | none => none
    | some spec =>
      if spec.takesValue then
        if r.isEmpty then some ⟨[], .value spec.name⟩
        else some ⟨[(spec.name, String.ofList r)], .nothing⟩
      else
        (readBundle specs r).map fun reading =>
          { reading with given := (spec.name, "") :: reading.given }

/-- Read a long option, from an argument with its dashes. -/
def readLong (specs : List (OptionSpec Name)) (argument : List Char) : Option (Reading Name) :=
  let name := argument.takeWhile (· != '=')
  let value := argument.drop (name.length + 1)
  let isGiven := name.length < argument.length
  match specs.find? fun spec => spec.long.toList == name with
  | none => none
  | some spec =>
    if spec.takesValue then
      if isGiven then some ⟨[(spec.name, String.ofList value)], .nothing⟩
      else some ⟨[], .value spec.name⟩
    else if isGiven then none
    else some ⟨[(spec.name, "")], .nothing⟩

/-- A single dash is no option. -/
def isOption (argument : List Char) : Bool :=
  argument.head? == some '-' && 1 < argument.length

def readOption (specs : List (OptionSpec Name)) : List Char → Option (Reading Name)
  | '-' :: '-' :: r => readLong specs ('-' :: '-' :: r)
  | _ :: r => readBundle specs r
  | [] => none

def Arguments.behind (given : List (Name × String)) (a : Arguments Name) : Arguments Name :=
  { a with given := given ++ a.given }

/-- Read the options of a level; there is no reading if one is unknown or lacks its value. -/
def readArguments (specs : List (OptionSpec Name)) (interspersed : Bool) :
    List String → Option (Arguments Name)
  | [] => some ⟨[], []⟩
  | argument :: rest =>
    if argument = "--" then some ⟨[], rest⟩
    else if isOption argument.toList then
      match readOption specs argument.toList with
      | none => none
      | some ⟨given, .nothing⟩ =>
        (readArguments specs interspersed rest).map (Arguments.behind given)
      | some ⟨given, .value name⟩ =>
        match rest with
        | [] => none
        | value :: rest =>
          (readArguments specs interspersed rest).map
            (Arguments.behind (given ++ [(name, value)]))
    else if interspersed then
      (readArguments specs interspersed rest).map fun a => { a with rest := argument :: a.rest }
    else some ⟨[], argument :: rest⟩

/-- The last value that was given for an option. -/
def Arguments.last? [BEq Name] (a : Arguments Name) (name : Name) : Option String :=
  (a.given.reverse.find? fun g => g.1 == name).map (·.2)

def Arguments.has [BEq Name] (a : Arguments Name) (name : Name) : Bool :=
  a.given.any fun g => g.1 == name

/-- Every value that was given for an option. -/
def Arguments.all [BEq Name] (a : Arguments Name) (name : Name) : List String :=
  (a.given.filter fun g => g.1 == name).map (·.2)

end Commands
end CatalogScout
