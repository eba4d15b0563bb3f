/-! The options of a command line.

A long option begins with two dashes and has its value after an equals sign or as the next argument.
Letters after a single dash are short options; the first of them that takes a value takes the rest
of the argument, or the next one. Two dashes alone end the options. -/
namespace PerlCalls.Command

/-- What an option does to the request: by itself, or with its value. -/
inductive Effect (α : Type) where
  | flag (apply : α → α)
  | value (apply : String → α → α)

structure OptionSpec (α : Type) where
  names : List String
  effect : Effect α

variable {α : Type}

def effect? (specs : List (OptionSpec α)) (name : String) : Option (Effect α) :=
  (specs.find? (fun spec => spec.names.contains name)).map OptionSpec.effect

/-- The request after an argument, which may need the next argument for a value. -/
inductive Reading (α : Type) where
  | done (request : α)
  | wanting (apply : String → α)

/-- Short options; `none` if one of them is unknown. -/
def readShort (specs : List (OptionSpec α)) (request : α) : List Char → Option (Reading α)
  | [] => some (.done request)
  | c :: rest =>
    match effect? specs (String.ofList ['-', c]) with
    | none => none
    | some (.flag apply) => readShort specs (apply request) rest
    | some (.value apply) =>
      if rest.isEmpty then some (.wanting (fun value => apply value request))
      else some (.done (apply (String.ofList rest) request))

/-- A long option; `none` if it is unknown, or a flag with a value. -/
def readLong (specs : List (OptionSpec α)) (request : α) (cs : List Char) : Option (Reading α) :=
  let name := String.ofList (cs.takeWhile (· != '='))
  match effect? specs name, cs.dropWhile (· != '=') with
  | some (.flag apply), [] => some (.done (apply request))
  | some (.value apply), [] => some (.wanting (fun value => apply value request))
  | some (.value apply), _ :: value => some (.done (apply (String.ofList value) request))
  | _, _ => none

/-- An argument that is an option, with its characters after the dash. -/
def readOption (specs : List (OptionSpec α)) (request : α) (rest : List Char) : Option (Reading α) :=
  if rest.head? == some '-' then readLong specs request ('-' :: rest)
  else readShort specs request rest

/-- The request and the arguments that are no options. If `leading`, the first of those ends the
options. -/
def readArguments (specs : List (OptionSpec α)) (leading : Bool) (request : α) :
    List String → Option (α × List String)
  | [] => some (request, [])
  | arg :: rest =>
    match arg.toList with
    | ['-', '-'] => some (request, rest)
    | '-' :: c :: cs =>
      match readOption specs request (c :: cs), rest with
      | none, _ => none
      | some (.done request), rest => readArguments specs leading request rest
      | some (.wanting _), [] => none
      | some (.wanting apply), value :: rest => readArguments specs leading (apply value) rest
    | _ =>
      if leading then some (request, arg :: rest)
      else (readArguments specs leading request rest).map (fun r => (r.1, arg :: r.2))

end PerlCalls.Command
