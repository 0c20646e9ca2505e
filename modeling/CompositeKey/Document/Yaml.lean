/-!
# YAML values

Scalars stay texts: what a scalar stands for depends on where it is read.  Keys
are values of any kind and may repeat.  An alias is a node of its own; a value
brings with it the nodes that its aliases stand for.
-/

set_option autoImplicit false

namespace CompositeKey

inductive ScalarStyle where
  | plain
  | quoted
  | literal
  | folded
deriving DecidableEq

inductive YamlNode where
  | scalar (style : ScalarStyle) (text : String)
  | sequence (items : List YamlNode)
  | mapping (fields : List (YamlNode × YamlNode))
  | tagged (tag : String) (content : YamlNode)
  | alias (number : Nat)
deriving Inhabited

namespace YamlNode

/-- The node where nothing is written. -/
def void : YamlNode := .scalar .plain ""

def withTag (node : YamlNode) : Option String → YamlNode
  | none => node
  | some tag => .tagged tag node

def content : YamlNode → YamlNode
  | .tagged _ content => content
  | node => node

def ofFields (fields : List (YamlNode × YamlNode)) : List YamlNode :=
  fields.flatMap fun field => [field.1, field.2]

@[simp]
theorem ofFields_cons (key value : YamlNode) (rest : List (YamlNode × YamlNode)) :
    ofFields ((key, value) :: rest) = key :: value :: ofFields rest := by
  simp [ofFields]

theorem sizeOf_append (first second : List YamlNode) :
    sizeOf (first ++ second) + 1 = sizeOf first + sizeOf second := by
  induction first with
  | nil => simp [Nat.add_comm]
  | cons node rest ih =>
      simp only [List.cons_append, List.cons.sizeOf_spec]
      omega

theorem sizeOf_ofFields (fields : List (YamlNode × YamlNode)) :
    sizeOf (ofFields fields) = sizeOf fields := by
  induction fields with
  | nil => rfl
  | cons field rest ih =>
      obtain ⟨key, value⟩ := field
      simp only [ofFields_cons, List.cons.sizeOf_spec, Prod.mk.sizeOf_spec]
      omega

/-- Counts the nodes of some trees on top of a number.  A collection counts
twice, where it begins and where it ends. -/
def countOnto (count : Nat) : List YamlNode → Nat
  | [] => count
  | .scalar _ _ :: rest => countOnto (count + 1) rest
  | .alias _ :: rest => countOnto (count + 1) rest
  | .tagged _ content :: rest => countOnto count (content :: rest)
  | .sequence items :: rest => countOnto (count + 2) (items ++ rest)
  | .mapping fields :: rest => countOnto (count + 2) (ofFields fields ++ rest)
termination_by nodes => sizeOf nodes
decreasing_by
  · simp only [List.cons.sizeOf_spec, scalar.sizeOf_spec]
    omega
  · simp only [List.cons.sizeOf_spec, alias.sizeOf_spec]
    omega
  · simp only [List.cons.sizeOf_spec, tagged.sizeOf_spec]
    omega
  · have appended := sizeOf_append items rest
    simp only [List.cons.sizeOf_spec, sequence.sizeOf_spec]
    omega
  · have appended := sizeOf_append (ofFields fields) rest
    have flattened := sizeOf_ofFields fields
    simp only [List.cons.sizeOf_spec, mapping.sizeOf_spec]
    omega

end YamlNode

/-- A node of a document together with the anchored nodes of the document. -/
structure Yaml where
  anchored : List (Nat × YamlNode)
  root : YamlNode
deriving Inhabited

namespace Yaml

def size (value : Yaml) : Nat := YamlNode.countOnto 0 [value.root]

def part (value : Yaml) (root : YamlNode) : Yaml := ⟨value.anchored, root⟩

end Yaml

end CompositeKey
