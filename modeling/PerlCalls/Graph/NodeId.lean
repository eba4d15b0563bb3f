/-! The identifier of a subroutine in the graph: its file and its name with a colon between them. -/
namespace PerlCalls.Graph

abbrev NodeId := String

def qualify (file name : String) : NodeId := file ++ ":" ++ name

/-- The parts before and after the last colon; without a colon, no file and all of it the name. -/
def splitQualifiedChars (cs : List Char) : List Char × List Char :=
  let back := cs.reverse
  ((back.dropWhile (· != ':')).tail.reverse, (back.takeWhile (· != ':')).reverse)

/-- File and name of an identifier. -/
def splitQualified (id : NodeId) : String × String :=
  let parts := splitQualifiedChars id.toList
  (String.ofList parts.1, String.ofList parts.2)

end PerlCalls.Graph
