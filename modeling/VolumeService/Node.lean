import VolumeService.Directory
import VolumeService.Error

/-! # Nodes

A node is one object of the namespace: a name, a kind of content and a link to its parent.

* **Identities.** Nodes are shared, so they are spoken of by `NodeId`; two nodes with equal
  content are still two nodes.
* **Kinds.** `Content` lists what a node can be: a directory, the two built-in devices, a
  device over a byte image, a node with nothing but a kind (`bare`), and a directory whose
  answers are given once and for all (`fixed`).
* **Parent links.** `parent` only names the parent.  It does not keep the parent in being;
  the graph decides whether the link still leads anywhere.
* **Reading** fills a buffer from the front and answers how many bytes were filled. -/

namespace VolumeService

/-- The identity of a node. -/
structure NodeId where
  index : Nat
deriving DecidableEq, Repr

/-- What a node presents itself as. -/
inductive NodeKind where
  | directory
  | device
  | file
deriving DecidableEq, Repr

/-- A line of a directory listing. -/
structure Line where
  name : String
  kind : NodeKind
deriving DecidableEq, Repr

/-- What a node is made of. -/
inductive Content where
  /-- A directory with its children. -/
  | directory (children : Directory NodeId)
  /-- The device that has nothing to read. -/
  | null
  /-- The device that reads as zeros without end. -/
  | zero
  /-- A device over a byte image. -/
  | image (bytes : List UInt8)
  /-- A node of some kind without operations; reading may fail in a given way. -/
  | bare (kind : NodeKind) (readFault : Option NodeError)
  /-- A directory with a fixed listing and fixed links, which need not agree. -/
  | fixed (listing : List (Except NodeError Line))
      (links : List (String × Except NodeError NodeId))

namespace Content

/-- The kind that content presents. -/
def kind : Content → NodeKind
  | directory _ => .directory
  | null => .device
  | zero => .device
  | image _ => .device
  | bare kind _ => kind
  | fixed _ _ => .directory

/-- Reads from `offset` into `buffer`: how many bytes were filled, and the buffer after it. -/
def read (content : Content) (offset : Nat) (buffer : List UInt8) :
    Except NodeError (Nat × List UInt8) :=
  match content with
  | directory _ => .error .isADirectory
  | null => .ok (0, buffer)
  | zero => .ok (buffer.length, List.replicate buffer.length 0)
  | image bytes =>
    let filled := (bytes.drop offset).take buffer.length
    .ok (filled.length, filled ++ buffer.drop filled.length)
  | bare _ fault => .error (fault.getD .notSupported)
  | fixed _ _ => .error .notSupported

/-- The nodes that content keeps in being. -/
def holds : Content → List NodeId
  | directory children => children.entries.map (·.2)
  | fixed _ links => links.filterMap fun link => link.2.toOption
  | _ => []

end Content

/-- An object of the namespace. -/
structure Node where
  name : String
  content : Content
  parent : Option NodeId := none

namespace Node

/-- The kind a node presents. -/
def kind (node : Node) : NodeKind := node.content.kind

/-- A new directory without children and without a parent. -/
def newDirectory (name : String) : Node := { name, content := .directory .empty }

/-- A new device over a byte image. -/
def newImage (name : String) (bytes : List UInt8) : Node := { name, content := .image bytes }

/-- A new `null` device. -/
def newNull : Node := { name := "null", content := .null }

/-- A new `zero` device. -/
def newZero : Node := { name := "zero", content := .zero }

end Node

end VolumeService
