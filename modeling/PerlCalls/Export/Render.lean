import PerlCalls.Export.Json
import PerlCalls.Input.Refusal
import PerlCalls.Log

/-! Rendering the subgraph in a format, and falling back to another one.

DOT and JSON texts are written here. All other formats are drawn by a program outside, which knows some
formats and may be missing or fail. A format that cannot be had from it is replaced by the next of a fixed
chain, which ends in DOT text. Whatever else goes wrong, such as a text that cannot be encoded, ends the
attempt. -/
namespace PerlCalls.Export

open PerlCalls.Graph

/-- What the program does when asked for a format. -/
inductive Answer where
  | image (bytes : List UInt8)
  | failed (status : Int)
  | missing
  /-- It is not even asked, because something else is wrong. -/
  | refused (refusal : Refusal)
deriving DecidableEq

/-- What rendering needs from outside. -/
structure Backend where
  /-- The formats that are known there. -/
  formats : List String
  draw : String → Answer
  /-- The bytes of a text, or why it has none: a name that is no text may have been made part of it. -/
  encode : List Char → Except Refusal (List UInt8)

inductive RenderFault where
  | unsupported
  | noProgram
  | failed (status : Int)
  | noneUsable
deriving DecidableEq

def RenderFault.reason : RenderFault → String
  | .unsupported => "format not supported by graphviz"
  | .noProgram => "graphviz 'dot' executable not found"
  | .failed status => s!"graphviz exited with status {status}"
  | .noneUsable => "no usable format"

/-- A format that cannot be had. -/
structure Unavailable where
  format : String
  fault : RenderFault
deriving DecidableEq

def Unavailable.message (e : Unavailable) : String :=
  s!"Cannot render '{e.format}': " ++ e.fault.reason

inductive RenderError where
  | unavailable (error : Unavailable)
  /-- A number has too many digits to be written. -/
  | numberTooLong
  | refused (refusal : Refusal)
deriving DecidableEq

def RenderError.message : RenderError → String
  | .unavailable error => error.message
  | .numberTooLong =>
    "Exceeds the limit (4300 digits) for integer string conversion; " ++
      "use sys.set_int_max_str_digits() to increase the limit"
  | .refused refusal => refusal.message

/-- A subgraph ready to be written. -/
structure Drawing where
  graph : CallGraph
  traversal : Traversal

namespace Drawing

def dot (d : Drawing) (options : Options) : List Char := dotText d.traversal options

def json (d : Drawing) (options : Options) : Except RenderError (List Char) :=
  match jsonText? d.graph d.traversal options with
  | some text => .ok text
  | none => .error .numberTooLong

/-- The bytes of a text that has been made. -/
def encoded (backend : Backend) (text : Except RenderError (List Char)) :
    Except RenderError (List UInt8) :=
  text.bind fun cs => (backend.encode cs).mapError .refused

def render (d : Drawing) (backend : Backend) (options : Options) (format : String) :
    Except RenderError (List UInt8) :=
  if format == "dot" || format == "gv" then encoded backend (.ok (d.dot options))
  else if format == "json" then encoded backend (d.json options)
  else if !backend.formats.contains format then .error (.unavailable ⟨format, .unsupported⟩)
  else match backend.draw format with
    | .image bytes => .ok bytes
    | .failed status => .error (.unavailable ⟨format, .failed status⟩)
    | .missing => .error (.unavailable ⟨format, .noProgram⟩)
    | .refused refusal => .error (.refused refusal)

end Drawing

/-- The formats to turn to when the wanted one fails. -/
def fallbackFormats : List String := ["svg", "png", "dot"]

/-- The wanted format, then the others to turn to. -/
def fallbackChain (format : String) : List String :=
  format :: fallbackFormats.filter (· != format)

/-- A format and the bytes of the subgraph in it. -/
structure Rendering where
  format : String
  bytes : List UInt8

namespace Drawing

/-- The first format that can be had, and a note on each one before it. -/
def firstRendering (d : Drawing) (backend : Backend) (options : Options) :
    List String → List LogRecord × Except RenderError Rendering
  | [] => ([], .error (.unavailable ⟨options.format, .noneUsable⟩))
  | format :: rest =>
    match d.render backend options format with
    | .ok bytes => ([], .ok ⟨format, bytes⟩)
    | .error (.unavailable e) =>
      let later := d.firstRendering backend options rest
      (.fallingBack e.message :: later.1, later.2)
    | .error e => ([], .error e)

def renderWithFallback (d : Drawing) (backend : Backend) (options : Options) :
    List LogRecord × Except RenderError Rendering :=
  d.firstRendering backend options (fallbackChain options.format)

end Drawing

end PerlCalls.Export
