/-
# Patterns

A directive may ask for a field's value by a regular expression. The program never compares a value
with one, but a setting that holds an ill-formed pattern is no setting, so patterns are read here
and then dropped. A pattern may be nested `depthLimit` levels deep: a group, a repetition, a class
in brackets, a row of several items and a choice between several rows count one level each.

Key definitions: `Row`, `Group`, `Pattern.wellFormed`, `isValue`.
-/
import InstructionSheet.Log.Pattern.Bracket
import InstructionSheet.Text.Alphanumeric

namespace InstructionSheet
namespace Log
namespace Pattern

/-- The number of levels that a pattern can have. -/
def depthLimit : Nat := 250

/-- Items one after the other: how many, the depth of the deepest but for the last, the depth of the
last, and whether that can be repeated. -/
structure Row where
  items : Nat
  deepest : Nat
  last : Nat
  repeatable : Bool
deriving DecidableEq, Repr

namespace Row

/-- The row without items. -/
def empty : Row := ⟨0, 0, 0, false⟩

/-- The row with one more item. -/
def add (r : Row) (depth : Nat) (repeatable : Bool) : Row :=
  ⟨r.items + 1, max r.deepest r.last, depth, repeatable⟩

/-- The row with its last item repeated. -/
def repeated (r : Row) : Row := { r with last := r.last + 1 }

/-- The depth of the row. -/
def depth (r : Row) : Nat :=
  if 1 < r.items then max r.deepest r.last + 1 else max r.deepest r.last

end Row

/-- A group as far as it is read: its present mode, the depth of the deepest of its finished rows if
it has any, and the row that it is in. -/
structure Group where
  mode : Mode
  finished : Option Nat
  row : Row
deriving DecidableEq, Repr

namespace Group

/-- A group of which nothing is read. -/
def start (m : Mode) : Group := ⟨m, none, Row.empty⟩

/-- The depth of the rows of a group. -/
def depth (g : Group) : Nat :=
  match g.finished with
  | none => g.row.depth
  | some deepest => max deepest g.row.depth + 1

/-- The group at the start of its next row. -/
def nextRow (g : Group) : Group :=
  { g with finished := some (max (g.finished.getD 0) g.row.depth), row := Row.empty }

/-- The group with one more item in its row. -/
def add (g : Group) (depth : Nat) : Group := { g with row := g.row.add depth true }

/-- The group after switches, which are an item but nothing to repeat. -/
def switch (g : Group) (m : Mode) : Group := { g with mode := m, row := g.row.add 0 false }

/-- The group with its last item repeated. -/
def repeated (g : Group) : Group := { g with row := g.row.repeated }

end Group

/-- What an opening parenthesis begins. -/
inductive Opening
  /-- A group, with its name if it has one and the mode inside it. -/
  | group (name : Option (List Char)) (inside : Mode)
  /-- Another mode for the rest of the group around it. -/
  | switch (mode : Mode)
deriving DecidableEq, Repr

/-- The name up to the next `>`: letters, numerals and some signs, of which it begins with a letter
or an underscore. -/
def groupName? (cs : List Char) : Option (List Char × List Char) :=
  let name := cs.takeWhile (· ≠ '>')
  let goesOn (c : Char) : Bool := Text.isAlphanumeric c || ['_', '.', '[', ']'].contains c
  match name, cs.drop name.length with
  | first :: more, _ :: rest =>
    if (first == '_' || Text.isLetter first) && more.all goesOn then some (name, rest) else none
  | _, _ => none

namespace Mode

/-- The switches after `(?`, which end at a colon or at the closing parenthesis. No letter comes
twice, a hyphen comes before a letter, and switches without a group are at least one. -/
def switches? (m : Mode) (cs : List Char) : Option (Opening × List Char) :=
  let switches := cs.takeWhile fun c => c ≠ ':' && c ≠ ')'
  let known := switches.all fun c => c == '-' || switchLetters.contains c
  let once := switches.all fun c => switches.count c == 1
  if !known || !once || switches.getLast? == some '-' then none
  else
    match cs.drop switches.length with
    | ':' :: rest => some (.group none (m.switched switches), rest)
    | ')' :: rest => if switches.isEmpty then none else some (.switch (m.switched switches), rest)
    | _ => none

/-- What an opening parenthesis begins, with what follows the opening. Looking around is refused. -/
def opening? (m : Mode) (cs : List Char) : Option (Opening × List Char) :=
  match m.skip cs with
  | '?' :: '=' :: _ => none
  | '?' :: '!' :: _ => none
  | '?' :: '<' :: '=' :: _ => none
  | '?' :: '<' :: '!' :: _ => none
  | '?' :: '<' :: cs => (groupName? cs).map fun p => (.group (some p.1) m, p.2)
  | '?' :: 'P' :: '<' :: cs => (groupName? cs).map fun p => (.group (some p.1) m, p.2)
  | '?' :: cs => m.switches? cs
  | cs => some (.group none m, cs)

end Mode

/-- Reads a pattern to its end from within the group `g`, which stands in the groups `outer`; `names`
are the names of groups so far. -/
def scan : Nat → Group → List Group → List (List Char) → List Char → Bool
  | 0, _, _, _, _ => false
  | fuel + 1, g, outer, names, cs =>
    match g.mode.skip cs with
    | [] => outer.isEmpty && decide (g.depth ≤ depthLimit)
    | '(' :: rest =>
      match g.mode.opening? rest with
      | none => false
      | some (.switch m, rest) => scan fuel (g.switch m) outer names rest
      | some (.group none inside, rest) => scan fuel (.start inside) (g :: outer) names rest
      | some (.group (some name) inside, rest) =>
        !names.contains name && scan fuel (.start inside) (g :: outer) (name :: names) rest
    | ')' :: rest =>
      match outer with
      | [] => false
      | around :: outer => scan fuel (around.add (g.depth + 1)) outer names rest
    | '|' :: rest => scan fuel g.nextRow outer names rest
    | '[' :: rest =>
      match g.mode.class? rest with
      | none => false
      | some (depth, rest) => scan fuel (g.add depth) outer names rest
    | '{' :: _ => false
    | '\\' :: rest =>
      match g.mode.escape? rest with
      | none => false
      | some (e, rest) => g.mode.admits e && scan fuel (g.add 0) outer names rest
    | '.' :: rest => g.mode.unicode && scan fuel (g.add 0) outer names rest
    | '^' :: rest => scan fuel (g.add 0) outer names rest
    | '$' :: rest => scan fuel (g.add 0) outer names rest
    | c :: rest =>
      if ['?', '*', '+'].contains c then
        g.row.repeatable &&
          scan fuel g.repeated outer names (if rest.head? = some '?' then rest.tail else rest)
      else !g.mode.needsCases && scan fuel (g.add 0) outer names rest

/-- Whether a text is a pattern. It holds no closing brace, so a count in braces is never closed. -/
def wellFormed (cs : List Char) : Bool := scan (cs.length + 1) (.start .standard) [] [] cs

example : wellFormed "a(b|c)*?[^]x-z&&[[:alpha:]]]|\\.$".toList = true := by decide +kernel

example : ["(", "a)", "*", "a|*", "[a", "[z-a]", "a\x7b2", "\\", "\\d", "(?i)a", "(?)"].any
    (fun p => wellFormed p.toList) = false := by decide +kernel

example : wellFormed (List.replicate 251 '(' ++ List.replicate 251 ')') = false := by
  decide +kernel

end Pattern

/-- Whether a text is a number with a plus sign in front, which as a pattern would repeat nothing. -/
def isPositiveNumber : List Char → Bool
  | '+' :: cs =>
    let word := String.ofList (cs.map Char.toLower)
    let whole := cs.takeWhile Char.isDigit
    let rest := cs.drop whole.length
    let point := rest.head? == some '.'
    let places := if point then rest.tail.takeWhile Char.isDigit else []
    let rest := if point then rest.tail.drop places.length else rest
    word == "inf" || word == "infinity" || word == "nan" ||
      !(whole.isEmpty && places.isEmpty) &&
        match rest with
        | [] => true
        | e :: exponent =>
          let digits := if exponent.head? == some '-' || exponent.head? == some '+'
            then exponent.tail else exponent
          (e == 'e' || e == 'E') && !digits.isEmpty && digits.all Char.isDigit
  | _ => false

/-- Whether a text can be asked for as the value of a field: a number or a pattern. Without a plus
sign a number is a pattern too. -/
def isValue (cs : List Char) : Bool := isPositiveNumber cs || Pattern.wellFormed cs

end Log
end InstructionSheet
