import GuardedSteps.Pattern.Syntax

/-!
Alternatives. What all alternatives start with is read once, in front of them, and alternatives that
are single characters make a class. Groups that only hold other nodes together are dissolved.
-/

namespace GuardedSteps

namespace Pattern

namespace Node

def dissolved : Node → List Node
  | .group none added removed body =>
    if added.isEmpty && removed.isEmpty then body.items else [.group none added removed body]
  | node => [node]

/-- Whether two nodes are the same test, anchor or reference. Nodes with a body are not compared. -/
def isSameLeaf : Node → Node → Bool
  | .code first, .code second | .notCode first, .notCode second => first == second
  | .any, .any => true
  | .oneOf negated first, .oneOf negatedToo second => negated == negatedToo && first == second
  | .anchor first, .anchor second => first == second
  | .back first, .back second => first == second
  | _, _ => false

def members? : Node → Option (List ClassItem)
  | .code value => some [.code value]
  | .oneOf false items => some items
  | _ => none

end Node

def shared : (first : List Node) → (others : List (List Node)) → List Node × List (List Node)
  | [], others => ([], [] :: others)
  | item :: rest, others =>
    if others.all fun other => (other.head?.map item.isSameLeaf).getD false then
      let (taken, left) := shared rest (others.map List.tail)
      (item :: taken, left)
    else ([], (item :: rest) :: others)

def alternativeMembers? : List Node → Option (List ClassItem)
  | [node] => node.members?
  | _ => none

def ofAlternatives : List (List Node) → List Node
  | [] => []
  | [only] => only
  | first :: others =>
    let (taken, left) := shared first others
    match left.mapM alternativeMembers? with
    | some members => taken ++ [.oneOf false members.flatten.eraseDups]
    | none => taken ++ [.ofChoices (left.map .ofList)]

example : ofAlternatives [[.code 97, .code 98], [.code 97, .code 99]] =
    [.code 97, .oneOf false [.code 98, .code 99]] := by rfl

end Pattern

end GuardedSteps
