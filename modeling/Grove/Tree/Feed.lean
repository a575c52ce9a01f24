/-
Feeds: programs that report build events. A feed learns whether each event was
taken and may go on either way; it may also ask the manager it runs under for
another model before it goes on. A source is what a manager makes a model from:
a feed, an identifier by which the manager can find one, or both.
-/
import Grove.Tree.Event
import Grove.Tree.Model

namespace Grove

mutual

/-- A program that reports build events. -/
inductive Feed where
  /-- Ends, well or with a failure. -/
  | finish (result : Except TreeError Unit)
  /-- Reports an event and goes on with the answer. -/
  | report (event : BuildEvent) (next : Except TreeError Unit → Feed)
  /-- Asks for a model and goes on with the answer. -/
  | request (source : Source) (unique : Bool) (next : Except TreeError Model → Feed)

/-- What a model is made from. -/
inductive Source where
  | make (systemId : Option String) (feed : Option Feed) (sizeHint : Option Nat)

end

namespace Feed

/-- The feed that reports nothing. -/
def nothing : Feed := .finish (.ok ())

/-- Reports events in order and ends as given; fails as soon as one is refused. -/
def ofEventsThen (last : Except TreeError Unit) : List BuildEvent → Feed
  | [] => .finish last
  | e :: es => .report e fun answer =>
    match answer with
    | .ok _ => ofEventsThen last es
    | .error err => .finish (.error err)

/-- Reports events in order, and fails as soon as one is refused. -/
def ofEvents (events : List BuildEvent) : Feed := ofEventsThen (.ok ()) events

/-- Reports events in order, whether they are taken or not, and ends as given. -/
def regardless (last : Except TreeError Unit) : List BuildEvent → Feed
  | [] => .finish last
  | e :: es => .report e fun _ => regardless last es

/-- Asks for a model, and goes on with a feed whatever the answer is. -/
def requestFirst (source : Source) (unique : Bool) (feed : Feed) : Feed :=
  .request source unique fun _ => feed

end Feed

namespace Source

instance : Inhabited Source := ⟨.make none none none⟩

/-- The identity of the source. Models of sources without one are never shared. -/
def systemId : Source → Option String
  | .make systemId _ _ => systemId

def feed : Source → Option Feed
  | .make _ feed _ => feed

/-- How many nodes the model may have. -/
def sizeHint : Source → Option Nat
  | .make _ _ sizeHint => sizeHint

/-- A source with a feed alone. -/
def ofFeed (feed : Feed) : Source := .make none (some feed) none

/-- A source of recorded events; their number is the hint. -/
def ofEvents (events : List BuildEvent) : Source :=
  .make none (some (Feed.ofEvents events)) (some events.length)

/-- A source known by its identifier alone. -/
def ofSystemId (systemId : String) : Source := .make (some systemId) none none

def withSystemId (systemId : String) : Source → Source
  | .make _ feed sizeHint => .make (some systemId) feed sizeHint

def withSizeHint (sizeHint : Nat) : Source → Source
  | .make systemId feed _ => .make systemId feed (some sizeHint)

end Source

end Grove
