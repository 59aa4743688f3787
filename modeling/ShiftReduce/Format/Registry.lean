import ShiftReduce.Data.Sorted
import ShiftReduce.Format.Json
import ShiftReduce.Format.Yaml
import ShiftReduce.Tree.Diagram

/-!
# Formats for trees

Formats are registered under their names, by which they are then asked for.

## Main definitions

* `Format` — a name, a description, and how a tree is written
* `FormatRegistry` — the formats that are registered
* `FormatRegistry.write` — writes a tree in the format of a name
-/

namespace ShiftReduce

/-- A way to write trees. -/
structure Format where
  name : String
  description : String
  write : Node → String

namespace Format

/-- Trees as diagrams. -/
def diagram : Format := ⟨"treeviz", "One line per node with Unicode icons", Node.diagram⟩

/-- Trees as JSON. -/
def json : Format :=
  ⟨"json", "Pretty-printed JSON, one object per node", fun node => node.toDocument.toJson⟩

/-- Trees as YAML. -/
def yaml : Format := ⟨"yaml", "", fun node => node.toDocument.toYaml⟩

end Format

/-- No format has a given name. -/
structure FormatNotFound where
  name : String
deriving DecidableEq, Repr

/-- The failure in words. -/
def FormatNotFound.message (error : FormatNotFound) : String :=
  "format '" ++ error.name ++ "' not found"

/-- Formats by ascending names. -/
structure FormatRegistry where
  formats : List (String × Format)

namespace FormatRegistry

/-- The registry without formats. -/
def empty : FormatRegistry := ⟨[]⟩

/-- Registers a format, in the place of one with the same name. -/
def register (registry : FormatRegistry) (format : Format) : FormatRegistry :=
  ⟨Sorted.insert (fun left right => left < right) format.name format registry.formats⟩

/-- The registry of all formats there are. -/
def standard : FormatRegistry :=
  ((empty.register .diagram).register .json).register .yaml

/-- The format of a name. -/
def find? (registry : FormatRegistry) (name : String) : Option Format :=
  registry.formats.lookup name

/-- The names of the formats, in ascending order. -/
def names (registry : FormatRegistry) : List String := registry.formats.map Prod.fst

/-- Writes a tree in the format of a name. -/
def write (registry : FormatRegistry) (name : String) (node : Node) :
    Except FormatNotFound String :=
  match registry.find? name with
  | some format => .ok (format.write node)
  | none => .error ⟨name⟩

end FormatRegistry

end ShiftReduce
