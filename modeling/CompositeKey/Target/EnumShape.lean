/-!
# The members of an enumeration
-/

set_option autoImplicit false

namespace CompositeKey

structure EnumMember where
  name : String
  value : Int64
deriving DecidableEq

inductive EnumDispatch where
  /-- The values are `0` up to, and without, the number of members: a name table
  is indexed by the value. -/
  | sequential
  | search
deriving DecidableEq

/-- Marks the slot of each value in turn.  `seen` tells of each slot whether a value has
taken it; the answer is whether every value finds its slot free. -/
def takeSlots (seen : List Bool) : List EnumMember → Bool
  | [] => true
  | member :: rest =>
      match member.value.toInt with
      | .negSucc _ => false
      | .ofNat slot =>
          match seen[slot]? with
          | some false => takeSlots (seen.set slot true) rest
          | _ => false

/-- Members dispatch sequentially when their values are the numbers below their
count, in any order. -/
def classifyMembers (members : List EnumMember) : EnumDispatch :=
  if members.isEmpty then .search
  else if takeSlots (List.replicate members.length false) members then .sequential
  else .search

structure EnumShape where
  members : List EnumMember
deriving DecidableEq

namespace EnumShape

def dispatch (shape : EnumShape) : EnumDispatch := classifyMembers shape.members

def shortestName? (shape : EnumShape) : Option Nat :=
  (shape.members.map fun member => member.name.length).min?

end EnumShape

end CompositeKey
