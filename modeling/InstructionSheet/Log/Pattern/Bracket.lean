/-
# Classes in brackets

A class is what stands between brackets: members, ranges, classes by name and further classes in
brackets, one after the other, and three operations on such rows, which group to the left. `Bracket`
follows a class while it is read and keeps how deep it is nested: a bracket, a row of several items
and an operation count one level each.

Key definitions: `Bracket`, `Mode.class?`.
-/
import InstructionSheet.Log.Pattern.Escape

namespace InstructionSheet
namespace Log
namespace Pattern

/-- A class as far as it is read: the items of the present row, the depth of the deepest of them,
and the depth of what stands left of the last operation. -/
structure Bracket where
  items : Nat
  deepest : Nat
  left : Option Nat
deriving DecidableEq, Repr

namespace Bracket

/-- A class with nothing in it but some single members. -/
def start (members : Nat) : Bracket := ⟨members, 0, none⟩

/-- The class with one more item of the given depth. -/
def add (b : Bracket) (depth : Nat) : Bracket :=
  { b with items := b.items + 1, deepest := max b.deepest depth }

/-- The depth of all that is read. -/
def depth (b : Bracket) : Nat :=
  let row := if 1 < b.items then b.deepest + 1 else b.deepest
  match b.left with
  | none => row
  | some left => max left row + 1

/-- The class after the sign of an operation. -/
def operate (b : Bracket) : Bracket := ⟨0, 0, some b.depth⟩

end Bracket

/-- The names of classes that can stand between `[:` and `:]`. -/
def classNames : List String :=
  ["alnum", "alpha", "ascii", "blank", "cntrl", "digit", "graph", "lower", "print", "punct",
    "space", "upper", "word", "xdigit"]

/-- What follows a class by name at the start of a text, if there is one, and whether its complement
is meant. -/
def namedClass? : List Char → Option (Bool × List Char)
  | '[' :: ':' :: cs =>
    let complement := cs.head? == some '^'
    let cs := if complement then cs.tail else cs
    let name := cs.takeWhile (· ≠ ':')
    match cs.drop name.length with
    | ':' :: ']' :: rest =>
      if classNames.contains (String.ofList name) then some (complement, rest) else none
    | _ => none
  | _ => none

namespace Mode

/-- One member of a class, with what follows it; a member that is no single character cannot bound
a range. -/
def member? (m : Mode) : List Char → Option (Option Char × List Char)
  | [] => none
  | '\\' :: cs =>
    match m.escape? cs with
    | some (.character c, rest) => if m.hasMember c then some (some c, rest) else none
    | some (.byte c, rest) => if m.hasMember c then some (some c, rest) else none
    | some (.charClass complement, rest) =>
      if m.admits (.charClass complement) then some (none, rest) else none
    | _ => none
  | c :: cs => if m.hasMember c then some (some c, cs) else none

/-- What follows a member or a range at the start of a text. A hyphen before the closing bracket or
before another hyphen makes no range. -/
def afterRange? (m : Mode) (cs : List Char) : Option (List Char) :=
  match m.member? cs with
  | none => none
  | some (first, rest) =>
    match m.skip rest with
    | '-' :: more =>
      if m.peek? more = some ']' || m.peek? more = some '-' then some ('-' :: more)
      else
        match first, m.member? (m.skip more) with
        | some low, some (some high, rest) => if low.toNat ≤ high.toNat then some rest else none
        | _, _ => none
    | rest => some rest

/-- The hyphens at the start of a class, each a member, and what follows them. -/
def hyphens (m : Mode) : Nat → Nat → List Char → Nat × List Char
  | 0, n, cs => (n, cs)
  | fuel + 1, n, cs =>
    match m.skip cs with
    | '-' :: rest => m.hyphens fuel (n + 1) rest
    | rest => (n, rest)

/-- The start of a class after its bracket, with what follows: a caret, hyphens, and a closing
bracket that stands for itself because it comes first. Bytes have no complement in ASCII. -/
def opened? (m : Mode) (cs : List Char) : Option (Bracket × List Char) :=
  let cs := m.skip cs
  let complement := cs.head? == some '^'
  let (n, rest) := m.hyphens (cs.length + 1) 0 (if complement then cs.tail else cs)
  let closing := n == 0 && rest.head? == some ']'
  if complement && !m.unicode then none
  else if (closing || n != 0) && m.needsCases then none
  else if closing then some (.start 1, rest.tail)
  else some (.start n, rest)

/-- Reads on in a class, which stands in the classes `outer`, to the end of the outermost: its depth
and what follows it. -/
def classEnd? (m : Mode) : Nat → Bracket → List Bracket → List Char → Option (Nat × List Char)
  | 0, _, _, _ => none
  | fuel + 1, b, outer, cs =>
    match m.skip cs with
    | [] => none
    | '[' :: rest =>
      match namedClass? ('[' :: rest) with
      | some (complement, rest) =>
        if m.needsCases || (complement && !m.unicode) then none
        else m.classEnd? fuel (b.add 0) outer rest
      | none =>
        match m.opened? rest with
        | some (inner, rest) => m.classEnd? fuel inner (b :: outer) rest
        | none => none
    | ']' :: rest =>
      match outer with
      | [] => some (b.depth + 1, rest)
      | around :: outer => m.classEnd? fuel (around.add (b.depth + 1)) outer rest
    | c :: rest =>
      if ['&', '-', '~'].contains c && rest.head? = some c then
        m.classEnd? fuel b.operate outer rest.tail
      else
        match m.afterRange? (c :: rest) with
        | some rest => m.classEnd? fuel (b.add 0) outer rest
        | none => none

/-- The depth of the class that an opening bracket begins, and what follows the class. -/
def class? (m : Mode) (cs : List Char) : Option (Nat × List Char) :=
  match m.opened? cs with
  | some (b, rest) => m.classEnd? (cs.length + 1) b [] rest
  | none => none

end Mode

end Pattern
end Log
end InstructionSheet
