import CompositeKey.Document.Yaml.Layout

/-!
# Reading a YAML document from its tokens

A reader is in one of a few stages and takes one token at a time.  The
collections that are still open stand in its stage, innermost first, each with
what it holds so far, the last read first.  Where something is left out the
reader gives way: it passes to the stage behind it and lets that have the token.
-/

set_option autoImplicit false

namespace CompositeKey

/-- The anchors met so far.  The number of an anchored node is the number of
other anchor names in front of it; when two nodes have the same number it
belongs to the one that begins last. -/
structure YamlAnchors where
  names : List (String × Nat)
  begun : List (Nat × Nat)
  complete : List (Nat × YamlNode)

namespace YamlAnchors

def empty : YamlAnchors := ⟨[], [], []⟩

def begin (name : String) (anchors : YamlAnchors) : Nat × YamlAnchors :=
  let number := anchors.names.length
  let position := anchors.begun.length
  (position,
    { anchors with
      names := (name, number) :: anchors.names.filter fun entry => entry.1 != name
      begun := (number, position) :: anchors.begun })

def keep (position : Nat) (node : YamlNode) (anchors : YamlAnchors) : YamlAnchors :=
  { anchors with complete := (position, node) :: anchors.complete }

def table (anchors : YamlAnchors) : List (Nat × YamlNode) :=
  anchors.begun.filterMap fun (number, position) =>
    (anchors.complete.lookup position).map fun node => (number, node)

end YamlAnchors

/-! ## Stages -/

structure NodeHead where
  anchor : Option String
  tag : Option String

namespace NodeHead

def empty : NodeHead := ⟨none, none⟩

def isEmpty (head : NodeHead) : Bool := head.anchor.isNone && head.tag.isNone

end NodeHead

structure NodeStart where
  position : Option Nat
  tag : Option String

inductive YamlFrame where
  | item (start : NodeStart) (before : List YamlNode)
  /-- The node is an item of a block sequence in the column of the mapping
  around it. -/
  | flushItem (start : NodeStart) (before : List YamlNode)
  | key (start : NodeStart) (before : List (YamlNode × YamlNode))
  | value (start : NodeStart) (before : List (YamlNode × YamlNode)) (key : YamlNode)
  | flowItem (start : NodeStart) (before : List YamlNode)
  /-- The node is the key of a pair, which is an item of a flow sequence. -/
  | pairKey (start : NodeStart) (before : List YamlNode)
  | pairValue (start : NodeStart) (before : List YamlNode) (key : YamlNode)
  | flowKey (start : NodeStart) (before : List (YamlNode × YamlNode))
  /-- The node is a field of a flow mapping without a colon. -/
  | loneKey (start : NodeStart) (before : List (YamlNode × YamlNode))
  | flowValue (start : NodeStart) (before : List (YamlNode × YamlNode)) (key : YamlNode)

inductive YamlStage where
  | opening (versioned : Bool)
  | opened
  | node (head : NodeHead) (frames : List YamlFrame)
  | nextItem (start : NodeStart) (before : List YamlNode) (frames : List YamlFrame)
  /-- A dash, or a token behind a sequence that has no end of its own. -/
  | nextFlushItem (start : NodeStart) (before : List YamlNode) (frames : List YamlFrame)
  | nextKey (start : NodeStart) (before : List (YamlNode × YamlNode)) (frames : List YamlFrame)
  | nextColon (start : NodeStart) (before : List (YamlNode × YamlNode)) (key : YamlNode)
      (frames : List YamlFrame)
  | firstFlowItem (start : NodeStart) (before : List YamlNode) (frames : List YamlFrame)
  | nextFlowItem (start : NodeStart) (before : List YamlNode) (frames : List YamlFrame)
  | nextPairColon (start : NodeStart) (before : List YamlNode) (key : YamlNode)
      (frames : List YamlFrame)
  | firstFlowField (start : NodeStart) (before : List (YamlNode × YamlNode))
      (frames : List YamlFrame)
  | nextFlowField (start : NodeStart) (before : List (YamlNode × YamlNode))
      (frames : List YamlFrame)
  | nextFlowColon (start : NodeStart) (before : List (YamlNode × YamlNode)) (key : YamlNode)
      (frames : List YamlFrame)
  | closing (root : YamlNode)
  | finished (root : YamlNode)

namespace YamlStage

def ofNode (node : YamlNode) : List YamlFrame → YamlStage
  | [] => .closing node
  | .item start before :: frames => .nextItem start (node :: before) frames
  | .flushItem start before :: frames => .nextFlushItem start (node :: before) frames
  | .key start before :: frames => .nextColon start before node frames
  | .value start before key :: frames => .nextKey start ((key, node) :: before) frames
  | .flowItem start before :: frames => .nextFlowItem start (node :: before) frames
  | .pairKey start before :: frames => .nextPairColon start before node frames
  | .pairValue start before key :: frames =>
      .nextFlowItem start (.mapping [(key, node)] :: before) frames
  | .flowKey start before :: frames => .nextFlowColon start before node frames
  | .loneKey start before :: frames => .nextFlowField start ((node, .void) :: before) frames
  | .flowValue start before key :: frames => .nextFlowField start ((key, node) :: before) frames

def begin (frame : YamlFrame) (frames : List YamlFrame) : YamlStage :=
  .node .empty (frame :: frames)

end YamlStage

namespace YamlFrame

def takesBlock : List YamlFrame → Bool
  | [] => true
  | .item _ _ :: _ => true
  | .flushItem _ _ :: _ => true
  | .key _ _ :: _ => true
  | .value _ _ _ :: _ => true
  | _ => false

/-- Whether a block sequence may stand there whose dashes are in the column of
the mapping around it. -/
def takesFlushItems : List YamlFrame → Bool
  | .key _ _ :: _ => true
  | .value _ _ _ :: _ => true
  | _ => false

def leftOutAt : List YamlFrame → YamlToken → Bool
  | .item _ _ :: _, token => [.dash, .close].contains token
  | .flushItem _ _ :: _, token => [.dash, .key, .colon, .close].contains token
  | .key _ _ :: _, token => [.key, .colon, .close].contains token
  | .value _ _ _ :: _, token => [.key, .colon, .close].contains token
  | .pairValue _ _ _ :: _, token => [.comma, .closeSequence].contains token
  | .flowKey _ _ :: _, token => [.colon, .comma, .closeMapping].contains token
  | .flowValue _ _ _ :: _, token => [.comma, .closeMapping].contains token
  | _, _ => false

def takesToken (head : NodeHead) (frames : List YamlFrame) : YamlToken → Bool
  | .alias _ => head.isEmpty
  | .anchor _ => head.anchor.isNone
  | .tag _ _ => head.tag.isNone
  | .scalar _ _ => true
  | .openSequence => true
  | .openMapping => true
  | .openItems => takesBlock frames
  | .openFields => takesBlock frames
  | .dash => takesFlushItems frames
  | _ => false

end YamlFrame

/-! ## Steps -/

structure YamlState where
  handles : List (String × Option String)
  anchors : YamlAnchors
  stage : YamlStage

namespace YamlState

def start : YamlState := ⟨[], .empty, .opening false⟩

def goTo (stage : YamlStage) (state : YamlState) : YamlState := { state with stage := stage }

def beginNode (head : NodeHead) (state : YamlState) : NodeStart × YamlState :=
  match head.anchor with
  | none => (⟨none, head.tag⟩, state)
  | some name =>
      let (position, anchors) := state.anchors.begin name
      (⟨some position, head.tag⟩, { state with anchors := anchors })

def endNode (content : YamlNode) (start : NodeStart) (frames : List YamlFrame)
    (state : YamlState) : YamlState :=
  let node := content.withTag start.tag
  let anchors :=
    match start.position with
    | none => state.anchors
    | some position => state.anchors.keep position node
  { state with anchors := anchors, stage := .ofNode node frames }

def wholeNode (content : YamlNode) (head : NodeHead) (frames : List YamlFrame)
    (state : YamlState) : YamlState :=
  let (start, state) := state.beginNode head
  state.endNode content start frames

def commonHandles : List (String × Option String) :=
  [("!", some "!"), ("!!", some "tag:yaml.org,2002:")]

def tagText? (handle : String) (rest : Option String) (state : YamlState) : Option String :=
  if handle = "" then some (rest.getD "")
  else
    ((state.handles ++ commonHandles).lookup handle).map fun meaning =>
      (do return (← meaning) ++ (← rest) : Option String).getD ""

/-- Where the reader passes to without taking a token, when something is left
out in front of it. -/
def giveWay? (state : YamlState) (token : YamlToken) : Option YamlState :=
  match state.stage with
  | .opening versioned =>
      match token with
      | .version _ _ => none
      | .handle _ _ => none
      | .documentStart => none
      | .stop =>
          if versioned || !state.handles.isEmpty then none
          else some (state.goTo (.closing .void))
      | _ =>
          if versioned || !state.handles.isEmpty then none
          else some (state.goTo (.node .empty []))
  | .opened =>
      match token with
      | .documentEnd => some (state.goTo (.closing .void))
      | .stop => some (state.goTo (.closing .void))
      | _ => some (state.goTo (.node .empty []))
  | .node head frames =>
      if YamlFrame.takesToken head frames token then none
      else if !head.isEmpty then some (state.wholeNode .void head frames)
      else if YamlFrame.leftOutAt frames token then some (state.goTo (.ofNode .void frames))
      else none
  | .nextFlushItem start before frames =>
      if token = .dash then none
      else some (state.endNode (.sequence before.reverse) start frames)
  | .nextColon start before key frames =>
      if token = .colon then none
      else some (state.goTo (.nextKey start ((key, .void) :: before) frames))
  | .firstFlowItem start before frames =>
      if token = .closeSequence ∨ token = .key then none
      else some (state.goTo (.begin (.flowItem start before) frames))
  | .nextPairColon start before key frames =>
      if token = .colon then none
      else
        some (state.goTo (.nextFlowItem start (.mapping [(key, .void)] :: before) frames))
  | .firstFlowField start before frames =>
      if token = .closeMapping ∨ token = .key then none
      else some (state.goTo (.begin (.loneKey start before) frames))
  | .nextFlowColon start before key frames =>
      if token = .colon then none
      else some (state.goTo (.nextFlowField start ((key, .void) :: before) frames))
  | _ => none

def settle : Nat → YamlState → YamlToken → YamlState
  | 0, state, _ => state
  | limit + 1, state, token =>
      match state.giveWay? token with
      | none => state
      | some next => next.settle limit token

def takeNode (head : NodeHead) (frames : List YamlFrame) (state : YamlState) :
    YamlToken → Option YamlState
  | .alias name => do
      let number ← state.anchors.names.lookup name
      return state.goTo (.ofNode (.alias number) frames)
  | .anchor name => some (state.goTo (.node { head with anchor := some name } frames))
  | .tag handle rest => do
      let tag ← state.tagText? handle rest
      return state.goTo (.node { head with tag := some tag } frames)
  | .scalar style text => some (state.wholeNode (.scalar style text) head frames)
  | token =>
      let (start, state) := state.beginNode head
      match token with
      | .openSequence => some (state.goTo (.firstFlowItem start [] frames))
      | .openMapping => some (state.goTo (.firstFlowField start [] frames))
      | .openItems => some (state.goTo (.nextItem start [] frames))
      | .openFields => some (state.goTo (.nextKey start [] frames))
      | .dash => some (state.goTo (.begin (.flushItem start []) frames))
      | _ => none

def take? (state : YamlState) (token : YamlToken) : Option YamlState :=
  match state.stage, token with
  | .opening versioned, .version major minor =>
      if !versioned ∧ major = 1 ∧ (minor = 1 ∨ minor = 2) then
        some (state.goTo (.opening true))
      else none
  | .opening _, .handle name meaning =>
      if state.handles.any fun entry => entry.1 == name then none
      else some { state with handles := (name, meaning) :: state.handles }
  | .opening _, .documentStart => some (state.goTo .opened)
  | .node head frames, token =>
      if YamlFrame.takesToken head frames token then state.takeNode head frames token
      else
        match frames with
        | .pairKey start before :: rest =>
            if [.colon, .comma, .closeSequence].contains token then
              some (state.goTo (.nextPairColon start before .void rest))
            else none
        | _ => none
  | .nextItem start before frames, .dash => some (state.goTo (.begin (.item start before) frames))
  | .nextItem start before frames, .close =>
      some (state.endNode (.sequence before.reverse) start frames)
  | .nextFlushItem start before frames, .dash =>
      some (state.goTo (.begin (.flushItem start before) frames))
  | .nextKey start before frames, .key => some (state.goTo (.begin (.key start before) frames))
  | .nextKey start before frames, .close =>
      some (state.endNode (.mapping before.reverse) start frames)
  | .nextColon start before key frames, .colon =>
      some (state.goTo (.begin (.value start before key) frames))
  | .firstFlowItem start before frames, .key =>
      some (state.goTo (.begin (.pairKey start before) frames))
  | .firstFlowItem start before frames, .closeSequence =>
      some (state.endNode (.sequence before.reverse) start frames)
  | .nextFlowItem start before frames, .comma =>
      some (state.goTo (.firstFlowItem start before frames))
  | .nextFlowItem start before frames, .closeSequence =>
      some (state.endNode (.sequence before.reverse) start frames)
  | .nextPairColon start before key frames, .colon =>
      some (state.goTo (.begin (.pairValue start before key) frames))
  | .firstFlowField start before frames, .key =>
      some (state.goTo (.begin (.flowKey start before) frames))
  | .firstFlowField start before frames, .closeMapping =>
      some (state.endNode (.mapping before.reverse) start frames)
  | .nextFlowField start before frames, .comma =>
      some (state.goTo (.firstFlowField start before frames))
  | .nextFlowField start before frames, .closeMapping =>
      some (state.endNode (.mapping before.reverse) start frames)
  | .nextFlowColon start before key frames, .colon =>
      some (state.goTo (.begin (.flowValue start before key) frames))
  | .closing _, .documentEnd => some state
  | .closing root, .stop => some (state.goTo (.finished root))
  | _, _ => none

/-- Takes a token behind everything that is left out in front of it, which is at
most three things. -/
def step (state : YamlState) (token : YamlToken) : Option YamlState :=
  (state.settle 3 token).take? token

end YamlState

namespace Yaml

def ofTokens? (tokens : List YamlToken) : Option Yaml := do
  let state ← tokens.foldlM YamlState.step .start
  match state.stage with
  | .finished root => return ⟨state.anchors.table, root⟩
  | _ => none

def parse? (text : String) : Option Yaml := do
  let chars := joinBreaks text.toList
  if chars.all isPrintable then ofTokens? (← YamlToken.ofText? chars) else none

end Yaml

end CompositeKey
