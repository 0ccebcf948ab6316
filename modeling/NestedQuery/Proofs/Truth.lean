import NestedQuery.Filter.Basic

set_option autoImplicit false

namespace NestedQuery

inductive Truth
  | holds
  | fails
  | unknown
deriving DecidableEq

namespace Truth

def not : Truth → Truth
  | .holds => .fails
  | .fails => .holds
  | .unknown => .unknown

def and : Truth → Truth → Truth
  | .fails, _ => .fails
  | _, .fails => .fails
  | .holds, .holds => .holds
  | _, _ => .unknown

def or : Truth → Truth → Truth
  | .holds, _ => .holds
  | _, .holds => .holds
  | .fails, .fails => .fails
  | _, _ => .unknown

def join : Connective → Truth → Truth → Truth
  | .all => and
  | .any => or

def neutral : Connective → Truth
  | .all => .holds
  | .any => .fails

theorem join_assoc (connective : Connective) (a b c : Truth) :
    join connective (join connective a b) c = join connective a (join connective b c) := by
  cases connective <;> cases a <;> cases b <;> cases c <;> rfl

theorem join_neutral (connective : Connective) (a : Truth) :
    join connective a (neutral connective) = a := by
  cases connective <;> cases a <;> rfl

def joinAll (connective : Connective) : List Truth → Truth
  | [] => neutral connective
  | truth :: rest => join connective truth (joinAll connective rest)

theorem foldl_join (connective : Connective) (first : Truth) (rest : List Truth) :
    rest.foldl (join connective) first = joinAll connective (first :: rest) := by
  induction rest generalizing first with
  | nil => rw [List.foldl_nil, joinAll, joinAll, join_neutral]
  | cons second rest ih => rw [List.foldl_cons, ih, joinAll, joinAll, joinAll, join_assoc]

end Truth

mutual

def Formula.value {α : Type} (truth : α → Truth) : Formula α → Truth
  | .leaf a => truth a
  | .group connective parts => Truth.joinAll connective (partValues truth parts)

def partValues {α : Type} (truth : α → Truth) : List (Formula α) → List Truth
  | [] => []
  | part :: rest => part.value truth :: partValues truth rest

end

mutual

def Formula.leaves {α : Type} : Formula α → List α
  | .leaf a => [a]
  | .group _ parts => partLeaves parts

def partLeaves {α : Type} : List (Formula α) → List α
  | [] => []
  | part :: rest => part.leaves ++ partLeaves rest

end

end NestedQuery
