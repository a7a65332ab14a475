/-
# Directives

A directive says down to which level the events of some kind are shown. It is written

  * as a level, for all events;
  * as `target=level`, for the events of the targets that begin so;
  * as `target[span{field}]=level`, for the events of such a target that have the field and lie in
    the span, where each of target, span and field may be left out.

Without a level all the events it is for are shown. The program opens no spans, so a directive that
names one is for no event at all; nor is one that asks for the value of a field, since these are
values of spans.

Places in a directive are counted from its first character that is not blank but cut from its very
start, so blanks in front of it push its pieces out of place.

Key definitions: `Directive`, `Directive.fits`, `Directive.yieldsTo`, `Directive.ofPart?`.
-/
import InstructionSheet.Log.Event
import InstructionSheet.Log.Pattern.Basic
import InstructionSheet.Text.Alphanumeric
import InstructionSheet.Text.Bytes

namespace InstructionSheet
namespace Log

/-- The least level shown, or none, of the events whose target begins with `target` and that have
the field, if one is asked for. -/
structure Directive where
  target : List Char
  field : Option (List Char)
  /-- Whether the directive is for spans alone. -/
  spansOnly : Bool
  threshold : Option Level
deriving DecidableEq, Repr

namespace Directive

/-- The directive for the events of all targets. -/
def forLevel (threshold : Option Level) : Directive := ⟨[], none, false, threshold⟩

/-- The directive for the events of targets that begin alike. -/
def forTarget (target : List Char) (threshold : Option Level) : Directive :=
  ⟨target, none, false, threshold⟩

/-- Whether a directive is for an event. -/
def fits (d : Directive) (e : Event) : Bool :=
  !d.spansOnly && d.target.isPrefixOf e.target.toList && d.field.all e.hasField

/-- Whether a directive lets a level through. -/
def admits (d : Directive) (l : Level) : Bool :=
  match d.threshold with
  | none => false
  | some least => decide (l.rank ≤ least.rank)

/-- Whether a name comes before another or is the same, by its first code point that differs. -/
def nameAtMost : List Char → List Char → Bool
  | [], _ => true
  | _ :: _, [] => false
  | c :: cs, d :: ds => if c = d then nameAtMost cs ds else decide (c.toNat < d.toNat)

/-- Whether the second of two directives decides in the place of the first. -/
def yieldsTo (d d' : Directive) : Bool :=
  if d.target.length = d'.target.length then
    match d.field, d'.field with
    | none, _ => true
    | some _, none => false
    | some name, some name' => nameAtMost name name'
  else decide (d.target.length < d'.target.length)

/-! ### Levels in text -/

/-- The thresholds with their words, from the one that shows least on. -/
def thresholds : List (String × Option Level) :=
  [("off", none), ("error", some .error), ("warn", some .warn), ("info", some .info),
    ("debug", some .debug), ("trace", some .trace)]

/-- The number that decimal digits stand for, with or without a plus sign in front. -/
def number? (word : List Char) : Option Nat :=
  let digits := if word.head? = some '+' then word.tail else word
  if !digits.isEmpty && digits.all Char.isDigit then
    some (digits.foldl (fun n d => 10 * n + (d.toNat - '0'.toNat)) 0)
  else none

/-- The threshold that a text names, by its word in letters of any case or by its number. -/
def thresholdOf? (text : List Char) : Option (Option Level) :=
  match number? text with
  | some n => (thresholds[n]?).map Prod.snd
  | none =>
    (thresholds.find? fun t => t.1 == String.ofList (text.map Char.toLower)).map Prod.snd

/-! ### Directives in text -/

/-- The characters that a target can begin with. -/
def canBegin (c : Char) : Bool := Text.isAlphanumeric c || c == '_' || c == ':' || c == '-'

/-- The threshold that ends a part. `tail` is what follows the target and the brackets, `offset` is
where it begins: nothing, which stands for all levels, or an equals sign with or without a level. -/
def ending? (part tail : List Char) (offset : Nat) : Option (Option Level) :=
  match tail with
  | [] => some (some .trace)
  | '=' :: _ =>
    (Text.splitAtByte? (offset + 1) part).bind fun p =>
      if p.2.isEmpty then some (some .trace) else thresholdOf? p.2
  | _ => none

/-- The name of a field and whether its value is asked for as well. The value ends where a second
equals sign comes; one that is no value makes the directive unreadable. -/
def fieldOf? (text : List Char) : Option (List Char × Bool) :=
  match text.span (· ≠ '=') with
  | (name, []) => some (name, false)
  | (name, _ :: value) => if isValue (value.takeWhile (· ≠ '=')) then some (name, true) else none

/-- The directive with brackets. `inside` is what follows the opening bracket, `offset` is where it
begins. -/
def ofBrackets? (part target inside : List Char) (offset : Nat) : Option Directive :=
  let span := inside.takeWhile fun c => c ≠ ']' && c ≠ '{'
  let afterSpan := offset + Text.utf8Length span + 1
  match inside.drop span.length with
  | ']' :: tail => (ending? part tail afterSpan).map fun t => ⟨target, none, true, t⟩
  | '{' :: rest => do
    let field := rest.takeWhile (· ≠ '}')
    let afterField := afterSpan + Text.utf8Length field
    match rest.drop field.length with
    | '}' :: ']' :: tail =>
      if field.isEmpty then none
      else
        let (name, valued) ← fieldOf? (← Text.slice? afterSpan afterField part)
        let threshold ← ending? part tail (afterField + 2)
        return ⟨target, some name, valued || !span.isEmpty, threshold⟩
    | _ => none
  | _ => none

/-- The directive that a part of a filter's text stands for. What has neither an equals sign nor a
bracket is a level or else, blanks and all, a target. -/
def ofPart? (part : List Char) : Option Directive := do
  let text := Text.trim part
  let name := text.takeWhile fun c => c ≠ '=' && c ≠ '['
  let offset := Text.utf8Length name
  if name.head?.all canBegin then
    match text.drop name.length with
    | [] =>
      if name.isEmpty then none
      else
        match thresholdOf? part with
        | some threshold => return forLevel threshold
        | none => return forTarget part (some .trace)
    | '[' :: inside => ofBrackets? part (← Text.slice? 0 offset part) inside (offset + 1)
    | tail =>
      if name.isEmpty then none
      else return forTarget (← Text.slice? 0 offset part) (← ending? part tail offset)
  else none

example : ofPart? "a[{b}]=warn".toList = some ⟨['a'], some ['b'], false, some .warn⟩ := by
  decide +kernel

example : ofPart? "a b=off".toList = some (forTarget ['a', ' ', 'b'] none) := by decide +kernel

example : ofPart? " a=off".toList = none := by decide +kernel

end Directive

end Log
end InstructionSheet
