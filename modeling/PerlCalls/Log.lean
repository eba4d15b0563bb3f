import PerlCalls.Graph.NodeId

/-! What a run notes about itself along the way. -/
namespace PerlCalls

inductive LogLevel where
  | debug
  | info
  | warning
deriving DecidableEq

def LogLevel.label : LogLevel → String
  | .debug => "DEBUG"
  | .info => "INFO"
  | .warning => "WARNING"

inductive LogRecord where
  | scanned (file : String) (lines : Nat)
  | ambiguous (caller : Graph.NodeId) (callee : String) (files : List String)
  | resolved (edges unresolved dropped : Nat)
  | traversed (starts nodes edges : Nat)
  | fallingBack (reason : String)
  | wrote (format path : String)
deriving DecidableEq

namespace LogRecord

def level : LogRecord → LogLevel
  | .fallingBack _ => .warning
  | .wrote .. => .info
  | _ => .debug

def message : LogRecord → String
  | .scanned file lines => s!"Scanned {file}: {lines} lines"
  | .ambiguous caller callee files =>
    s!"Ambiguous call {caller} -> {callee}() defined in " ++ ", ".intercalate files
  | .resolved edges unresolved dropped =>
    s!"Resolved {edges} edges, {unresolved} unresolved names, {dropped} ambiguous calls"
  | .traversed starts nodes edges =>
    s!"Traversal from {starts} start nodes visited {nodes} nodes and {edges} edges"
  | .fallingBack reason => s!"{reason}; falling back to the next format"
  | .wrote format path => s!"Wrote {format} graph to {path}"

end LogRecord

end PerlCalls
