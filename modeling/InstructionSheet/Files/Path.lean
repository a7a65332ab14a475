/-
# Paths

A path is read from its text: steps parted by slashes, from the root if the text begins with a
slash. Slashes side by side count as one. Before any step is taken a text can be refused as a
whole: it holds NUL, or is empty, or is too long.

Key definitions: `Step`, `Path`, `Path.ofText`.
-/
import InstructionSheet.Output.Fault
import InstructionSheet.Text.Pieces

namespace InstructionSheet

/-- One step of a path. -/
inductive Step
  /-- The name `.`, which leads nowhere else. -/
  | stay
  /-- The name `..`, which leads to the folder above; above the root is the root. -/
  | up
  | into (name : String)
deriving DecidableEq, Repr

/-- The step that a name stands for. -/
def Step.ofName (name : String) : Step :=
  if name = "." then .stay else if name = ".." then .up else .into name

/-- Steps from the root or from the working folder. -/
structure Path where
  fromRoot : Bool
  steps : List Step
  /-- Whether a slash follows the last step. -/
  slash : Bool
deriving DecidableEq, Repr

namespace Path

/-- The number of bytes that a path can have. -/
def lengthLimit : Nat := 4095

/-- The number of bytes that a name can have. -/
def nameLimit : Nat := 255

/-- The names between the slashes of a text. -/
def names (text : List Char) : List String :=
  ((Text.pieces '/' text).filter fun name => !name.isEmpty).map String.ofList

/-- The path of a text, or why it is none. -/
def ofText (text : String) : Except Fault Path :=
  if '\x00' ∈ text.toList then .error .nulInName
  else if text = "" then .error .notFound
  else if lengthLimit < text.utf8ByteSize then .error .nameTooLong
  else .ok {
    fromRoot := text.toList.head? == some '/'
    steps := (names text.toList).map Step.ofName
    slash := text.toList.getLast? == some '/' }

/-- Whether a text spells the root without a step up. -/
def isRoot (text : String) : Bool :=
  text.toList.head? == some '/' && (names text.toList).all fun name => Step.ofName name == .stay

/-- The steps before the last. Steps that stay do not count, not even as the last one. -/
def way (p : Path) : List Step := (p.steps.filter (· ≠ .stay)).dropLast

end Path
end InstructionSheet
