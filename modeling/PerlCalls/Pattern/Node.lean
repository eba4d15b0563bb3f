/-! Search patterns as trees. -/
namespace PerlCalls.Pattern

structure Flags where
  ignoreCase : Bool := false
  multiline : Bool := false
  dotAll : Bool := false
  verbose : Bool := false
  /-- Classes hold ASCII characters only. -/
  ascii : Bool := false
  /-- Classes hold characters of any script, as they do if nothing is said. -/
  unicode : Bool := false
  /-- Nothing may be repeated. -/
  template : Bool := false
deriving DecidableEq

/-- The flags that are set in one or the other. -/
def Flags.union (f g : Flags) : Flags where
  ignoreCase := f.ignoreCase || g.ignoreCase
  multiline := f.multiline || g.multiline
  dotAll := f.dotAll || g.dotAll
  verbose := f.verbose || g.verbose
  ascii := f.ascii || g.ascii
  unicode := f.unicode || g.unicode
  template := f.template || g.template

/-- Flags turned on by the first and off by the second; a type of characters takes the place of the
type before it. -/
def Flags.change (f on off : Flags) : Flags where
  ignoreCase := (f.ignoreCase || on.ignoreCase) && !off.ignoreCase
  multiline := (f.multiline || on.multiline) && !off.multiline
  dotAll := (f.dotAll || on.dotAll) && !off.dotAll
  verbose := (f.verbose || on.verbose) && !off.verbose
  ascii := (f.ascii && !on.unicode) || on.ascii
  unicode := (f.unicode && !on.ascii) || on.unicode
  template := f.template

/-- Some flag is set in both. -/
def Flags.overlaps (f g : Flags) : Bool :=
  (f.ignoreCase && g.ignoreCase) || (f.multiline && g.multiline) || (f.dotAll && g.dotAll) ||
    (f.verbose && g.verbose)

inductive Category where
  | digit
  | space
  | word
deriving DecidableEq

/-- A member of a character set; characters are given by their code points. -/
inductive SetItem where
  | char (c : Nat)
  | range (lo hi : Nat)
  | category (kind : Category) (negated : Bool)
deriving DecidableEq

inductive Anchor where
  | lineStart
  | lineEnd
  | textStart
  | textEnd
  | boundary
  | nonBoundary
deriving DecidableEq

/-- Which number of repetitions is tried first, and whether it may change later. -/
inductive Greed where
  | greedy
  | lazy
  | possessive
deriving DecidableEq

/-- Least and greatest number of characters that a pattern takes. -/
structure Width where
  least : Nat
  most : Nat
deriving DecidableEq

inductive Node where
  | empty
  | seq (first second : Node)
  | alt (first second : Node)
  | char (c : Nat)
  | any
  | set (negated : Bool) (items : List SetItem)
  | anchor (a : Anchor)
  | loop (least : Nat) (most : Option Nat) (greed : Greed) (body : Node)
  /-- Captured under a number, or only held together. -/
  | group (number : Option Nat) (body : Node)
  | flagged (on off : Flags) (body : Node)
  | atomic (body : Node)
  | reference (number : Nat)
  | lookahead (negated : Bool) (body : Node)
  | lookbehind (negated : Bool) (width : Width) (body : Node)
  | conditional (number : Nat) (yes no : Node)
deriving DecidableEq

/-- Stands for an unlimited number of characters. -/
def unlimited : Nat := 18446744073709551616

def Width.add (a b : Width) : Width := ⟨min (a.least + b.least) unlimited, min (a.most + b.most) unlimited⟩

/-- The width of a node, if `ofGroup` gives those of the groups. -/
def Node.width (ofGroup : Nat → Width) : Node → Width
  | .empty | .anchor _ | .lookahead .. | .lookbehind .. => ⟨0, 0⟩
  | .seq a b => (a.width ofGroup).add (b.width ofGroup)
  | .alt a b =>
    let x := a.width ofGroup
    let y := b.width ofGroup
    ⟨min x.least y.least, max x.most y.most⟩
  | .char _ | .any | .set .. => ⟨1, 1⟩
  | .loop least most _ body =>
    let w := body.width ofGroup
    let top := match most with
      | none => if w.most == 0 then 0 else unlimited
      | some n => w.most * n
    ⟨min (w.least * least) unlimited, min top unlimited⟩
  | .group _ body | .flagged _ _ body | .atomic body => body.width ofGroup
  | .reference n => ofGroup n
  | .conditional _ yes no =>
    let x := yes.width ofGroup
    let y := no.width ofGroup
    ⟨min x.least y.least, max x.most y.most⟩

end PerlCalls.Pattern
