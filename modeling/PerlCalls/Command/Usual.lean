import PerlCalls.Command.Session
import PerlCalls.Yaml.Document

/-! The world as it usually is: documents are YAML, values are taken laxly for the types of the settings,
consoles have a width, and texts are UTF-8. -/
namespace PerlCalls.Command

open Export Files Report Run Text

/-- How a document with a fault is refused. -/
def refusalOfDocument (path : String) (fault : Yaml.Fault) : Refusal :=
  match fault with
  | .malformed => ⟨.document, s!"\"{path}\" is not a YAML document"⟩
  | .characterTooLarge => ⟨.other "OverflowError", fault.message⟩
  | .noNumber => ⟨.other "IndexError", fault.message⟩
  | .notTruth _ => ⟨.other "KeyError", fault.message⟩
  | .notDate => ⟨.other "AttributeError", fault.message⟩
  | _ => ⟨.value, fault.message⟩

/-- How bytes that are no text are refused. -/
def undecodable : Refusal := ⟨.value, "Configuration is not UTF-8 text"⟩

/-- The value of a file that holds a YAML document in UTF-8. -/
def parseDocument (path : String) (bytes : List UInt8) : Except Refusal Input.Value :=
  match decode? bytes with
  | none => .error undecodable
  | some text => (Yaml.parse (unifyLineEnds text)).mapError (refusalOfDocument path)

def usualLibraries : Libraries where
  parse := parseDocument
  check := Settings.ofEntries .lax

/-- The formats that the program which draws knows. -/
def knownFormats : List String :=
  ["bmp", "canon", "cgimage", "cmap", "cmapx", "cmapx_np", "dot", "dot_json", "eps", "exr", "fig",
    "gd", "gd2", "gif", "gtk", "gv", "ico", "imap", "imap_np", "ismap", "jp2", "jpe", "jpeg", "jpg",
    "json", "json0", "pct", "pdf", "pic", "pict", "plain", "plain-ext", "png", "pov", "ps", "ps2",
    "psd", "sgi", "svg", "svg_inline", "svgz", "tga", "tif", "tiff", "tk", "vml", "vmlz", "vrml",
    "wbmp", "webp", "x11", "xdot", "xdot1.2", "xdot1.4", "xdot_json", "xlib"]

def usualBackend (draw : String → Answer) : Backend where
  formats := knownFormats
  draw := draw
  encode text := .ok (encode text)

/-- The usual world, with both consoles of one width. -/
def World.usual (width : Nat) (disk : Disk) (draw : String → Answer) (now : Moment) : World where
  disk := disk
  backend := usualBackend draw
  now := now
  libraries := usualLibraries
  listing := .ofWidth width
  reports := .ofWidth width

end PerlCalls.Command
