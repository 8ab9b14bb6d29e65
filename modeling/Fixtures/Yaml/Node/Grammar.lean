import Fixtures.Text.Reading
import Fixtures.Yaml.Node

/-!
# `Fixtures.Yaml.Node.Grammar`: from tokens to the tree

A stream holds one document. Where a key, a value or an item is not written, it is the empty plain
scalar. In block style the list under a key may stand as deep as the key; it then has no tokens
for its start and its end. In a flow list a single pair may stand for a map.
-/

set_option autoImplicit false

namespace Fixtures.Yaml.Node

/-- What the handles of tags stand for. -/
abbrev Handles := List (String × String)

/-- The handles that every document has. -/
def standardHandles : Handles := [("!", "!"), ("!!", "tag:yaml.org,2002:")]

/-- A tag in full. -/
def fullTag? (handles : Handles) (handle suffix : String) : Option String :=
  if handle.isEmpty then some suffix else (handles.lookup handle).map (· ++ suffix)

/-- The anchor and the tag before a node, in either order. -/
def propertiesAt? (handles : Handles) (ts : List Token) :
    Option (Reading ts (Properties String)) :=
  match ts with
  | .anchor name :: .tag handle suffix :: _ =>
    (fullTag? handles handle suffix).map fun tag => (Reading.here ⟨some name, some tag⟩).after.after
  | .tag handle suffix :: .anchor name :: _ =>
    (fullTag? handles handle suffix).map fun tag => (Reading.here ⟨some name, some tag⟩).after.after
  | .anchor name :: _ => some (.next ⟨some name, none⟩)
  | .tag handle suffix :: _ =>
    (fullTag? handles handle suffix).map fun tag => .next ⟨none, some tag⟩
  | _ => some (.here {})

/-- The empty scalar behind an anchor or a tag. -/
def emptyBehind? (p : Properties String) : Option (Node String) :=
  if p.anchor.isSome || p.tag.isSome then some (scalar p .plain "") else none

/-- Whether a token in a block list shows that an item is absent. -/
def endsBlockItem : Token → Bool
  | .item | .blockEnd => true
  | _ => false

/-- Whether a token in a block map shows that a key or a value is absent. -/
def endsBlockPart : Token → Bool
  | .key | .value | .blockEnd => true
  | _ => false

/-- Whether a token shows that an item of a list under a key is absent. -/
def endsFlushItem (t : Token) : Bool := t == .item || endsBlockPart t

/-- Whether a token shows that a value is absent in a flow collection. -/
def endsFlowValue (closing t : Token) : Bool := t == .comma || t == closing

/-- Whether a token shows that a key is absent in a flow collection. -/
def endsFlowKey (closing t : Token) : Bool := t == .value || endsFlowValue closing t

/-- Where a node stands. -/
structure Place where
  /-- Whether collections in block style may stand here. -/
  isBlock : Bool
  /-- Whether the items of a list may stand as deep as the key before them. -/
  isFlush : Bool

/-- An item of a block list. -/
def Place.item : Place := ⟨true, false⟩

/-- A key or a value of a block map. -/
def Place.member : Place := ⟨true, true⟩

/-- A part of a flow collection. -/
def Place.flow : Place := ⟨false, false⟩

mutual

/-- A node. -/
def nodeAt? (handles : Handles) (place : Place) (ts : List Token) :
    Option (Reading ts (Node String)) :=
  match ts with
  | .reference name :: _ => some (.next (reference name))
  | ts =>
    match propertiesAt? handles ts with
    | none => none
    | some p =>
      have := p.rest_le
      (contentAt? handles place p.value p.rest).map (·.widen p.rest_le)
termination_by 4 * ts.length + 2

/-- A node behind its properties. -/
def contentAt? (handles : Handles) (place : Place) (p : Properties String) (ts : List Token) :
    Option (Reading ts (Node String)) :=
  match ts with
  | .scalar style text :: _ => some (.next (scalar p style text))
  | .flowListStart :: rest => (flowItemsAt? handles rest).map fun r => (r.map (list p)).after
  | .flowMapStart :: rest => (flowMembersAt? handles rest).map fun r => (r.map (map p)).after
  | .blockListStart :: rest =>
    if place.isBlock then (blockItemsAt? handles rest).map fun r => (r.map (list p)).after
    else (emptyBehind? p).map .here
  | .blockMapStart :: rest =>
    if place.isBlock then (blockMembersAt? handles rest).map fun r => (r.map (map p)).after
    else (emptyBehind? p).map .here
  | ts =>
    if place.isFlush && ts.head? == some .item then
      (flushItemsAt? handles ts).map fun r => r.map (list p)
    else (emptyBehind? p).map .here
termination_by 4 * ts.length + 1

/-- A node that is absent before some tokens. -/
def partAt? (handles : Handles) (place : Place) (isAbsent : Token → Bool) (ts : List Token) :
    Option (Reading ts (Node String)) :=
  if ts.head?.any isAbsent then some (.here absent) else nodeAt? handles place ts
termination_by 4 * ts.length + 3

/-- The items of a block list. -/
def blockItemsAt? (handles : Handles) (ts : List Token) :
    Option (Reading ts (List (Node String))) :=
  match ts with
  | .blockEnd :: _ => some (.next [])
  | .item :: rest =>
    match partAt? handles .item endsBlockItem rest with
    | none => none
    | some first =>
      have := first.rest_le
      (blockItemsAt? handles first.rest).map fun r =>
        ((r.map (first.value :: ·)).widen first.rest_le).after
  | _ => none
termination_by 4 * ts.length

/-- The items of a list that stands as deep as the key before it. -/
def flushItemsAt? (handles : Handles) (ts : List Token) :
    Option (Reading ts (List (Node String))) :=
  match ts with
  | .item :: rest =>
    match partAt? handles .item endsFlushItem rest with
    | none => none
    | some first =>
      have := first.rest_le
      (flushItemsAt? handles first.rest).map fun r =>
        ((r.map (first.value :: ·)).widen first.rest_le).after
  | _ => some (.here [])
termination_by 4 * ts.length

/-- The members of a block map. -/
def blockMembersAt? (handles : Handles) (ts : List Token) :
    Option (Reading ts (List (Node String × Node String))) :=
  match ts with
  | .blockEnd :: _ => some (.next [])
  | .key :: rest =>
    match partAt? handles .member endsBlockPart rest with
    | none => none
    | some key =>
      have := key.rest_le
      match valueAt? handles .member endsBlockPart key.rest with
      | none => none
      | some value =>
        have := value.rest_le
        (blockMembersAt? handles value.rest).map fun r =>
          ((r.map ((key.value, value.value) :: ·)).widen
            (Nat.le_trans value.rest_le key.rest_le)).after
  | _ => none
termination_by 4 * ts.length

/-- The value of a member, with the token that announces it. -/
def valueAt? (handles : Handles) (place : Place) (isAbsent : Token → Bool) (ts : List Token) :
    Option (Reading ts (Node String)) :=
  match ts with
  | .value :: rest => (partAt? handles place isAbsent rest).map (·.after)
  | _ => some (.here absent)
termination_by 4 * ts.length

/-- The items of a flow list. -/
def flowItemsAt? (handles : Handles) (ts : List Token) :
    Option (Reading ts (List (Node String))) :=
  match ts with
  | .flowListEnd :: _ => some (.next [])
  | .key :: rest =>
    match pairAt? handles rest with
    | none => none
    | some first =>
      have := first.rest_le
      (flowItemsBehind? handles first.rest).map fun r =>
        ((r.map (first.value :: ·)).widen first.rest_le).after
  | ts =>
    match nodeAt? handles .flow ts with
    | none => none
    | some first =>
      have := first.rest_le
      (flowItemsBehind? handles first.rest).map fun r =>
        (r.map (first.value :: ·)).widen first.rest_le
termination_by 4 * ts.length + 3

/-- The items behind one of a flow list. -/
def flowItemsBehind? (handles : Handles) (ts : List Token) :
    Option (Reading ts (List (Node String))) :=
  match ts with
  | .flowListEnd :: _ => some (.next [])
  | .comma :: rest => (flowItemsAt? handles rest).map (·.after)
  | _ => none
termination_by 4 * ts.length

/-- A pair in a flow list. The token that shows that its key is absent belongs to the key. -/
def pairAt? (handles : Handles) (ts : List Token) : Option (Reading ts (Node String)) :=
  match ts with
  | [] => none
  | t :: rest =>
    if endsFlowKey .flowListEnd t then
      (valueAt? handles .flow (endsFlowValue .flowListEnd) rest).map fun value =>
        (value.map fun v => map {} [(absent, v)]).after
    else
      match nodeAt? handles .flow (t :: rest) with
      | none => none
      | some key =>
        have : key.rest.length ≤ rest.length + 1 := key.rest_le
        (valueAt? handles .flow (endsFlowValue .flowListEnd) key.rest).map fun value =>
          (value.map fun v => map {} [(key.value, v)]).widen key.rest_le
termination_by 4 * ts.length + 3

/-- The members of a flow map. -/
def flowMembersAt? (handles : Handles) (ts : List Token) :
    Option (Reading ts (List (Node String × Node String))) :=
  match ts with
  | .flowMapEnd :: _ => some (.next [])
  | .key :: rest =>
    match partAt? handles .flow (endsFlowKey .flowMapEnd) rest with
    | none => none
    | some key =>
      have := key.rest_le
      match valueAt? handles .flow (endsFlowValue .flowMapEnd) key.rest with
      | none => none
      | some value =>
        have := value.rest_le
        (flowMembersBehind? handles value.rest).map fun r =>
          ((r.map ((key.value, value.value) :: ·)).widen
            (Nat.le_trans value.rest_le key.rest_le)).after
  | ts =>
    match nodeAt? handles .flow ts with
    | none => none
    | some key =>
      have := key.rest_le
      (flowMembersBehind? handles key.rest).map fun r =>
        (r.map ((key.value, absent) :: ·)).widen key.rest_le
termination_by 4 * ts.length + 3

/-- The members behind one of a flow map. -/
def flowMembersBehind? (handles : Handles) (ts : List Token) :
    Option (Reading ts (List (Node String × Node String))) :=
  match ts with
  | .flowMapEnd :: _ => some (.next [])
  | .comma :: rest => (flowMembersAt? handles rest).map (·.after)
  | _ => none
termination_by 4 * ts.length

end

/-! ### Documents -/

/-- What directives say: whether one gave the version, and what handles stand for. -/
structure Directives where
  hasVersion : Bool := false
  handles : Handles := []

/-- The directives at the front, and the rest. Nothing may be said twice, and only two versions
are known. -/
def directivesAt? (d : Directives) : List Token → Option (Directives × List Token)
  | .version major minor :: rest =>
    if d.hasVersion || major != 1 || !(minor == 1 || minor == 2) then none
    else directivesAt? { d with hasVersion := true } rest
  | .tagStart handle start :: rest =>
    if (d.handles.lookup handle).isSome then none
    else directivesAt? { d with handles := d.handles ++ [(handle, start)] } rest
  | rest => some (d, rest)

/-- Whether a token starts a document that says where it starts. -/
def startsExplicitly : Token → Bool
  | .version .. | .tagStart .. | .documentStart => true
  | _ => false

/-- Whether a token shows that a document is empty. -/
def endsDocument : Token → Bool
  | .documentEnd | .streamEnd => true
  | t => startsExplicitly t

/-- The node of the document at the front, and the rest. -/
def documentAt? (ts : List Token) : Option (Node String × List Token) :=
  if ts.head?.any startsExplicitly then
    (directivesAt? {} ts).bind fun
      | (d, .documentStart :: rest) =>
        (partAt? (d.handles ++ standardHandles) .item endsDocument rest).map fun r =>
          (r.value, r.rest)
      | _ => none
  else
    (partAt? standardHandles .item (· == .streamEnd) ts).map fun r => (r.value, r.rest)

/-- The node of a stream. Behind its document there may be nothing but marks for its end. -/
def ofTokens? (ts : List Token) : Option (Node String) :=
  (documentAt? ts).bind fun (node, rest) =>
    if rest.dropWhile (· == .documentEnd) == [.streamEnd] then some node else none

end Fixtures.Yaml.Node
