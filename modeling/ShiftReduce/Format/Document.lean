import ShiftReduce.Tree.Node

/-!
# Documents

Data that the formats write: texts, numbers, lists, and records with named fields.

## Main definitions

* `Document` — data to be written
* `Node.toDocument` — a tree as records
-/

namespace ShiftReduce

/-- Data to be written. -/
inductive Document
  | text (value : String)
  | number (value : Nat)
  | list (items : List Document)
  | record (fields : List (String × Document))

namespace Node

mutual

/-- A tree as records, which say whether they are a leaf or a branch. A leaf without a class has no
field for it. -/
def toDocument : Node → Document
  | .leaf value none => .record [("kind", .text "leaf"), ("value", .text value)]
  | .leaf value (some name) =>
    .record [("kind", .text "leaf"), ("value", .text value), ("class", .text name)]
  | .branch rule children =>
    .record [("kind", .text "branch"), ("rule", .text rule),
      ("children", .list (toDocuments children))]

/-- Trees as records. -/
def toDocuments : List Node → List Document
  | [] => []
  | node :: rest => toDocument node :: toDocuments rest

end

end Node

end ShiftReduce
