/-
# Log filters

A filter is written as directives with commas between them. Of the directives that fit an event one
decides: the one with the longest target, among these one that asks for a field before one that
does not, among these the one whose field comes last in the order of names, and of equal ones the
last written. The event is shown if it matters at least as much as the level of that directive
says. An event that no directive fits is hidden.

Key definitions: `Filter`, `Filter.shows`, `Filter.ofSetting`.
-/
import InstructionSheet.Log.Directive
import InstructionSheet.Text.Pieces

namespace InstructionSheet
namespace Log

/-- The directives of a filter in the order in which they were written. -/
structure Filter where
  directives : List Directive
deriving DecidableEq, Repr

namespace Filter

/-- The later of two directives unless it has to yield to the earlier. -/
def stronger : Option Directive → Directive → Option Directive
  | none, d => some d
  | some best, d => if best.yieldsTo d then some d else some best

/-- The directive that decides on an event. -/
def deciding? (f : Filter) (e : Event) : Option Directive :=
  (f.directives.filter (·.fits e)).foldl stronger none

/-- Whether an event is shown. -/
def shows (f : Filter) (e : Event) : Bool :=
  match f.deciding? e with
  | none => false
  | some d => d.admits e.level

/-- Shows warnings and errors; it stands in for a setting that is missing or cannot be read. -/
def standard : Filter := ⟨[.forLevel (some .warn)]⟩

/-- Shows errors alone. -/
def errorsOnly : Filter := ⟨[.forLevel (some .error)]⟩

/-- The filter that a text holds. Empty parts are passed over, and a text of no other parts asks
for errors alone; if one part is no directive the whole text is none. -/
def ofText? (text : List Char) : Option Filter := do
  match ← ((Text.pieces ',' text).filter fun part => !part.isEmpty).mapM Directive.ofPart? with
  | [] => return errorsOnly
  | directives => return ⟨directives⟩

/-- The filter for a setting, which may be missing. -/
def ofSetting (setting : Option String) : Filter :=
  ((setting.bind fun text => ofText? text.toList)).getD standard

end Filter

end Log
end InstructionSheet
