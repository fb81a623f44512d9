import KeywordCatalog.Pattern.Tree

/-!
# Branches

A choice between rows of trees, put into its shortest form. What all branches start with stands in
front of the choice, and branches that are single characters or classes make one class together.
-/

namespace KeywordCatalog.Pattern

/-- Whether a tree is a part that can be told to be the same in two branches. -/
def Node.isLeaf : Node → Bool
  | .one _ | .anchor _ | .again .. => true
  | _ => false

/-- The tree that all rows start with, if there is one. -/
def sharedHead? : List (List Node) → Option Node
  | (item :: _) :: rows =>
    if item.isLeaf && rows.all (fun row => row.head? == some item) then some item else none
  | _ => none

/-- What all rows start with, and the rest of each row. The first argument bounds the number of
trees that are looked at. -/
def splitShared : Nat → List (List Node) → List Node × List (List Node)
  | 0, rows => ([], rows)
  | fuel + 1, rows =>
    match sharedHead? rows with
    | none => ([], rows)
    | some item =>
      let (shared, rests) := splitShared fuel (rows.map List.tail)
      (item :: shared, rests)

/-- The members of the class that a row stands for, if it is no more than a character or a class. -/
def classItems? : List Node → Option (List ClassItem)
  | [.one (.letter _ false code)] => some [.char code]
  | [.one (.oneOf _ false items)] => some items
  | _ => none

/-- A choice between rows under a rule for case. -/
def choiceOf (rule : CaseRule) (rows : List (List Node)) : Node :=
  match rows.mapM classItems? with
  | some sets => .one (.oneOf rule false sets.flatten.eraseDups)
  | none => Node.choice (rows.map Node.row)

/-- The row that a choice between rows makes. -/
def joinBranches (rule : CaseRule) (rows : List (List Node)) : List Node :=
  match rows with
  | [row] => row
  | _ =>
    let (shared, rests) := splitShared (rows.headD []).length rows
    shared ++ [choiceOf rule rests]

@[simp] theorem joinBranches_singleton (rule : CaseRule) (row : List Node) :
    joinBranches rule [row] = row := rfl

end KeywordCatalog.Pattern
