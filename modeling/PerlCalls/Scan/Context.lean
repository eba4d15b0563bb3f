import PerlCalls.Graph.Definition
import PerlCalls.Perl.Line
import PerlCalls.Perl.Literal

/-! Reading a file line by line: which subroutine a line belongs to, what it declares and calls.

A line has a role, given by what came before it: documentation and data say nothing, a declaration
opens a subroutine, any other line of code may call. Where a subroutine ends is a choice of two
heuristics (`BodyExtent`). `Context.step` takes one line, `Context.run` a list of them. -/
namespace PerlCalls.Scan

open PerlCalls.Graph
open Perl

/-- How the end of a subroutine's body is found. -/
inductive BodyExtent where
  /-- At any line with a closing brace in the first column. -/
  | columnZero
  /-- Where the braces of the code balance. -/
  | braceDepth
deriving DecidableEq

def BodyExtent.label : BodyExtent → String
  | .columnZero => "column-zero"
  | .braceDepth => "brace-depth"

def BodyExtent.all : List BodyExtent := [.columnZero, .braceDepth]

def BodyExtent.labels : List String := BodyExtent.all.map BodyExtent.label

def BodyExtent.ofLabel? (s : String) : Option BodyExtent :=
  BodyExtent.all.find? (fun e => e.label == s)

/-- What is known before a line of a file is read. -/
structure Context where
  file : String
  /-- The subroutine that encloses the line. -/
  subroutine : String := mainScope
  /-- Inside embedded documentation. -/
  inPod : Bool := false
  /-- Past the end of the code. -/
  afterEnd : Bool := false
  /-- The body's opening brace has been seen. -/
  bodyOpen : Bool := false
  /-- How many braces of the body are open. -/
  depth : Int := 0
deriving DecidableEq

inductive Role where
  | silent
  | entersPod
  | leavesPod
  | endsCode
  | declares (name : String)
  | code
deriving DecidableEq

namespace Context

/-- The role of a line in its context. -/
def role (c : Context) (line : List Char) : Role :=
  if c.afterEnd then .silent
  else if c.inPod then (if closesPod line then .leavesPod else .silent)
  else if marksEnd line then .endsCode
  else if opensPod line then (if closesPod line then .silent else .entersPod)
  else if isSkipped line then .silent
  else match declaration line with
    | some name => .declares name
    | none => .code

/-- A declaration of `name` opens its body to the depth that its own braces give. -/
def enter (extent : BodyExtent) (c : Context) (name : String) (line : List Char) : Context :=
  match extent with
  | .columnZero => { c with subroutine := name, bodyOpen := false, depth := 0 }
  | .braceDepth =>
    let depth := braceDelta line
    { c with subroutine := name, bodyOpen := decide (0 < depth), depth := max depth 0 }

/-- Outside every subroutine. -/
def leave (c : Context) : Context :=
  { c with subroutine := mainScope, bodyOpen := false, depth := 0 }

/-- After a line of code whose braces change the depth by `delta`. Code outside every subroutine
has no depth. -/
def balance (c : Context) (delta : Int) : Context :=
  if c.subroutine == mainScope then c
  else
    let depth := c.depth + delta
    if 0 < depth then { c with bodyOpen := true, depth := depth }
    else if c.bodyOpen || depth < 0 then c.leave
    else c

/-- The context after a line. -/
def next (extent : BodyExtent) (c : Context) (line : List Char) : Context :=
  match c.role line with
  | .silent => c
  | .entersPod => { c with inPod := true }
  | .leavesPod => { c with inPod := false }
  | .endsCode => { c with afterEnd := true }
  | .declares name => c.enter extent name line
  | .code =>
    match extent with
    | .columnZero => if closesBody line then { c with subroutine := mainScope } else c
    | .braceDepth => c.balance (braceDelta line)

end Context

/-- What one line tells. -/
structure Findings where
  definition : Option Definition := none
  caller : String
  calls : List String := []
deriving DecidableEq

namespace Context

/-- The line's declaration or its calls, which belong to the subroutine around it. A closing line
in the first column calls nothing if it is what ends the body. -/
def findings (extent : BodyExtent) (c : Context) (number : Int) (line : List Char) : Findings :=
  match c.role line with
  | .declares name =>
    { definition := some { name := name, file := c.file, line := number }, caller := c.subroutine }
  | .code =>
    if extent == .columnZero && closesBody line then { caller := c.subroutine }
    else { caller := c.subroutine, calls := calls line }
  | _ => { caller := c.subroutine }

/-- One line: the context after it, and what it tells. -/
def step (extent : BodyExtent) (c : Context) (number : Int) (line : List Char) :
    Context × Findings :=
  (c.next extent line, c.findings extent number line)

/-- The lines of a text from line `number` on, with the context after each. -/
def trace (extent : BodyExtent) (c : Context) (number : Int) :
    List (List Char) → List (Context × Findings)
  | [] => []
  | line :: rest =>
    c.step extent number line :: (c.next extent line).trace extent (number + 1) rest

/-- The context after all lines. -/
def after (extent : BodyExtent) (c : Context) (lines : List (List Char)) : Context :=
  lines.foldl (fun c line => c.next extent line) c

/-- What the lines from line `number` on tell. -/
def run (extent : BodyExtent) (c : Context) (number : Int) : List (List Char) → List Findings
  | [] => []
  | line :: rest => c.findings extent number line :: (c.next extent line).run extent (number + 1) rest

theorem run_append (extent : BodyExtent) (c : Context) (number : Int) (a b : List (List Char)) :
    c.run extent number (a ++ b) =
      c.run extent number a ++ (c.after extent a).run extent (number + a.length) b := by
  induction a generalizing c number with
  | nil => simp [run, after]
  | cons line rest ih =>
    simp only [List.cons_append, run, ih, after, List.foldl_cons, List.length_cons]
    congr 3
    omega

end Context

end PerlCalls.Scan
