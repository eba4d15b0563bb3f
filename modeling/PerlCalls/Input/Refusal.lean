import PerlCalls.Input.Check

/-! Errors by their kinds, and refusals of libraries.

Reading documents, checking records and printing marked-up texts is done outside. Whatever is done there,
in the end a library gives a result or refuses, and all that a run can see of a refusal is its kind and
what it says. -/
namespace PerlCalls

/-- The kinds of error that commands tell apart. -/
inductive ErrorKind where
  /-- An error of the program itself. -/
  | own
  /-- A record with issues. -/
  | invalid (issues : List Input.Issue)
  /-- A value that cannot be taken. -/
  | value
  /-- Something that the system does not do. -/
  | system
  /-- A document that cannot be read. -/
  | document
  /-- An argument of the wrong type. -/
  | argument
  /-- A text with tags that make no sense. -/
  | markup
  /-- Any other, by its name. -/
  | other (name : String)
deriving DecidableEq

structure Refusal where
  kind : ErrorKind
  message : String
deriving DecidableEq

end PerlCalls
