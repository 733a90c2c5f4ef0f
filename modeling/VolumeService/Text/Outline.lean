import VolumeService.Text.Quoted
import VolumeService.Lock.Basic
import VolumeService.Volume

/-! # Outlines of values

A value is shown for inspection as an outline: a head and named fields.

* **Terms.** A field is an atom (a word, a number, a quoted text) or one term wrapped in a
  head, as in `Some(…)`.
* **Two layouts.** `compact` writes an outline on one line; `layered` gives every field and
  every wrapped term a line of its own, four blanks deeper than what it is part of, and ends
  each with a comma.
* **Open outlines** do not show all fields and say so by two dots at the end. -/

namespace VolumeService.Text

/-- What a field shows. -/
inductive Term where
  | atom (text : String)
  | wrapped (head : String) (inner : Term)
deriving DecidableEq, Repr

namespace Term

/-- A text as a term. -/
def ofText (text : String) : Term := atom (quoted text)

/-- An optional term. -/
def ofOption : Option Term → Term
  | none => atom "None"
  | some inner => wrapped "Some" inner

/-- A term on one line. -/
def compact : Term → String
  | atom text => text
  | wrapped head inner => s!"{head}({compact inner})"

/-- The blanks at the start of a line. -/
def indent (depth : Nat) : String := String.ofList (List.replicate (4 * depth) ' ')

/-- A term on several lines, its first line standing at the given depth. -/
def layered (depth : Nat) : Term → String
  | atom text => text
  | wrapped head inner =>
    s!"{head}(\n{indent (depth + 1)}{layered (depth + 1) inner},\n{indent depth})"

end Term

/-- A head with named fields; `isOpen` if there are more fields than shown. -/
structure Outline where
  head : String
  fields : List (String × Term)
  isOpen : Bool := false

namespace Outline

/-- An outline on one line. -/
def compact (o : Outline) : String :=
  let fields := o.fields.map fun field => s!"{field.1}: {field.2.compact}"
  let shown := ", ".intercalate (fields ++ if o.isOpen then [".."] else [])
  s!"{o.head} \x7b {shown} \x7d"

/-- An outline with each field on lines of its own. -/
def layered (o : Outline) : String :=
  let fields := o.fields.map fun field =>
    s!"{Term.indent 1}{field.1}: {field.2.layered 1},\n"
  let dots := if o.isOpen then s!"{Term.indent 1}..\n" else ""
  s!"{o.head} \x7b\n{String.join fields}{dots}\x7d"

end Outline

/-- An id as a term. -/
def Term.ofId (id : VolumeId) : Term := .wrapped "VolumeId" (.atom id.display)

/-- The outline of a volume with its id and the name of its mount point. -/
def Outline.ofVolume (volume : Volume) (id : Option VolumeId) (mountPoint : Option String) :
    Outline where
  head := "Volume"
  fields := [
    ("fs_type", .ofText volume.format),
    ("name", .ofText volume.name),
    ("id", .ofOption (id.map .ofId)),
    ("mount_point", .ofOption (mountPoint.map .ofText))]

/-- The outline of a lock: its name and whether it is held, not its value. -/
def Outline.ofLock {α : Type} (lock : Lock α) : Outline where
  head := "SpinLock"
  fields := [("name", .ofText lock.name), ("locked", .atom (toString lock.locked))]
  isOpen := true

end VolumeService.Text
