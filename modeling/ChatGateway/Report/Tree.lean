import ChatGateway.Report.FieldError

/-!
# Trees of broken rules

Checking a structure yields a tree: under each field either the rules broken
there, or the tree of a structure inside, or one tree for each faulty item of a
list inside.  `Tree.fieldErrors` flattens the tree into one report for each
broken rule.
-/

namespace ChatGateway.Report

/-- A broken rule: its code, and a message if it has one of its own. -/
structure Violation where
  code : String
  message : Option String := none
deriving DecidableEq, Repr

mutual

/-- What is wrong at one field. -/
inductive Node where
  | errors (violations : List Violation)
  | inside (tree : Tree)
  | items (trees : List (Nat × Tree))

/-- What is wrong with a structure, by field. -/
inductive Tree where
  | fields (nodes : List (String × Node))

end

instance : Inhabited Node := ⟨.errors []⟩

instance : Inhabited Tree := ⟨.fields []⟩

/-- The report on a rule broken at `loc`; a rule without a message is reported by
its code. -/
def Violation.report (loc : Location) (v : Violation) : FieldError :=
  ⟨loc, v.message.getD v.code, v.code⟩

mutual

/-- The reports on a field at `loc`. -/
def Node.flatten (loc : Location) : Node → List FieldError
  | .errors violations => violations.map (Violation.report loc)
  | .inside tree => tree.flatten loc
  | .items trees => Tree.flattenItems loc trees

/-- The reports on a structure at `loc`. -/
def Tree.flatten (loc : Location) : Tree → List FieldError
  | .fields nodes => Node.flattenFields loc nodes

/-- The reports on the fields of a structure at `loc`. -/
def Node.flattenFields (loc : Location) : List (String × Node) → List FieldError
  | [] => []
  | (name, node) :: nodes =>
    node.flatten (loc ++ [.name name]) ++ Node.flattenFields loc nodes

/-- The reports on the items of a list at `loc`. -/
def Tree.flattenItems (loc : Location) : List (Nat × Tree) → List FieldError
  | [] => []
  | (index, tree) :: trees =>
    tree.flatten (loc ++ [.index index]) ++ Tree.flattenItems loc trees

end

/-- The reports on a request, in the order of their locations. -/
def Tree.fieldErrors (tree : Tree) : List FieldError :=
  FieldError.sort (tree.flatten Location.body)

end ChatGateway.Report
