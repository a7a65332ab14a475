/-
# A tree of folders and files

The tree is kept flat, as a map from places to what stands there. A path is walked step by step,
and every step but the last has to lead to a folder; which of several faults is reported is decided
by the first step that cannot be taken. Making a folder makes the missing folders on the way too,
and those stay even if a later one cannot be made.

Key definitions: `Node`, `Files`, `Files.walk`, `Files.target`, `Files.place`, `Files.store`, `Files.read`,
`Files.makeFolders`.
-/
import Std.Data.ExtHashMap
import InstructionSheet.Files.Path
import InstructionSheet.Output.Sink

namespace InstructionSheet

/-- The names on the way from the root. -/
abbrev Location := List String

/-- Files that keep nothing: `null` takes every byte, `full` refuses every byte. -/
inductive Device
  | null
  | full
deriving DecidableEq, Repr

/-- What can stand at a place. -/
inductive Node
  | folder
  | file (content : ByteArray)
  | device (device : Device)

/-- Folders and files, and the folder that relative paths start from. -/
structure Files where
  nodes : Std.ExtHashMap Location Node
  home : Location

namespace Files

/-- An empty working folder, and the two devices. The working folder has the empty name, which no
path can spell, so no path that has left it leads back into it. -/
def initial : Files where
  nodes := Std.ExtHashMap.ofList [([], .folder), (["dev"], .folder),
    (["dev", "null"], .device .null), (["dev", "full"], .device .full),
    (["tmp"], .folder), (["tmp", ""], .folder)]
  home := ["tmp", ""]

/-- What stands at a place. -/
def node? (t : Files) (l : Location) : Option Node := t.nodes[l]?

/-- The place of a name in a folder, unless the name is too long. -/
def under (l : Location) (name : String) : Except Fault Location :=
  if Path.nameLimit < name.utf8ByteSize then .error .nameTooLong else .ok (l ++ [name])

/-- One step from a folder to a folder. -/
def enter (t : Files) (l : Location) : Step → Except Fault Location
  | .stay => .ok l
  | .up => .ok l.dropLast
  | .into name => do
    let next ← under l name
    match t.node? next with
    | none => .error .notFound
    | some .folder => .ok next
    | some _ => .error .notADirectory

/-- Steps from a folder to a folder. -/
def walk (t : Files) (l : Location) (steps : List Step) : Except Fault Location :=
  steps.foldlM t.enter l

/-- The folder that a path starts from. -/
def origin (t : Files) (p : Path) : Location := if p.fromRoot then [] else t.home

/-- Whether a path leads to a folder. -/
def isFolder (t : Files) (p : Path) : Bool := (t.walk (t.origin p) p.steps).isOk

/-- The folder and the name in it at which a path ends, once the folders before are reached. The
name may be new. A path that ends in `.` or `..` or has no step ends at no name. -/
def target (t : Files) (p : Path) : Except Fault (Option (Location × String)) := do
  let l ← t.walk (t.origin p) p.steps.dropLast
  match p.steps.getLast? with
  | some (.into name) => return some (l, name)
  | _ => return none

/-- The place that a path opens for writing. A path that names a folder, or that a slash ends,
opens none; the slash counts before the name. -/
def place (t : Files) (text : String) : Except Fault Location := do
  let p ← Path.ofText text
  match ← t.target p with
  | none => .error .isADirectory
  | some (folder, name) =>
    if p.slash then .error .isADirectory
    else
      let l ← under folder name
      match t.node? l with
      | some .folder => .error .isADirectory
      | _ => return l

/-- Puts bytes at a place in the stead of what it held. A device keeps nothing. -/
def store (t : Files) (l : Location) (content : ByteArray) : Files :=
  match t.node? l with
  | some (.device _) => t
  | _ => { t with nodes := t.nodes.insert l (.file content) }

theorem node?_store_of_ne {l l' : Location} (h : l ≠ l') (t : Files) (content : ByteArray) :
    (t.store l content).node? l' = t.node? l' := by
  unfold store
  split
  · rfl
  · simp [node?, Std.ExtHashMap.getElem?_insert, h]

/-- The sink that a place opened for writing offers. -/
def sinkAt (t : Files) (l : Location) : Sink :=
  match t.node? l with
  | some (.device .full) => Sink.withoutRoom
  | _ => Sink.unbounded

/-- Writes bytes to a path. -/
def write (t : Files) (text : String) (content : ByteArray) : Files × Except Fault Unit :=
  match t.place text with
  | .error f => (t, .error f)
  | .ok l =>
    match (t.sinkAt l).writeAll content.data.toList with
    | (sink, none) => (t.store l sink.received, .ok ())
    | (sink, some f) => (t.store l sink.received, .error f)

/-- The bytes at a path. Both devices are read as empty. -/
def read (t : Files) (text : String) : Except Fault ByteArray := do
  let p ← Path.ofText text
  match ← t.target p with
  | none => .error .isADirectory
  | some (folder, name) =>
    match t.node? (← under folder name) with
    | none => .error .notFound
    | some .folder => .error .isADirectory
    | some (.file content) => if p.slash then .error .notADirectory else return content
    | some (.device _) => if p.slash then .error .notADirectory else return ByteArray.empty

/-- Makes one folder; the folders before it have to be there. -/
def makeFolder (t : Files) (p : Path) : Except Fault Files := do
  match ← t.target p with
  | none => .error .alreadyExists
  | some (folder, name) =>
    let l ← under folder name
    if (t.node? l).isSome then .error .alreadyExists
    else return { t with nodes := t.nodes.insert l .folder }

/-- Makes a folder unless the path leads to one already. -/
def ensureFolder (t : Files) (p : Path) : Files × Except Fault Unit :=
  match t.makeFolder p with
  | .ok t' => (t', .ok ())
  | .error f => (t, if t.isFolder p then .ok () else .error f)

/-- One step from a folder to a folder, which is made if its name is new. -/
def enterNew (t : Files) (l : Location) : Step → Except Fault (Files × Location)
  | .stay => .ok (t, l)
  | .up => .ok (t, l.dropLast)
  | .into name => do
    let next ← under l name
    match t.node? next with
    | none => return ({ t with nodes := t.nodes.insert next .folder }, next)
    | some .folder => return (t, next)
    | some _ => .error .alreadyExists

/-- Takes steps and makes the folders missing on the way, up to the first that cannot be made;
those before it stay. -/
def clearWay : Files → Location → List Step → Files × Except Fault Unit
  | t, _, [] => (t, .ok ())
  | t, l, step :: steps =>
    match t.enterNew l step with
    | .ok (t', next) => clearWay t' next steps
    | .error f => (t, .error f)

/-- Makes a folder, and where a name on the way is missing the folders before it as well. The empty
path and the root, however long it is spelled, ask for nothing. -/
def makeFolders (t : Files) (text : String) : Files × Except Fault Unit :=
  if text = "" || Path.isRoot text then (t, .ok ())
  else
    match Path.ofText text with
    | .error f => (t, .error f)
    | .ok p =>
      match t.makeFolder p with
      | .error .notFound =>
        match t.clearWay (t.origin p) p.way with
        | (t', .ok ()) => t'.ensureFolder p
        | (t', .error f) => (t', .error f)
      | _ => t.ensureFolder p

end Files
end InstructionSheet
