/-
The reply to a feed. What a feed sees of a request it makes is one function of the state it
runs in (`Feed.reply`), so that a statement about feeds can leave out how a request finds
another feed to run.

Requests of feeds and requests from outside are answered alike (`Forest.serve`): all that tells
them apart is how deep feeds of the resolver may still nest.
-/
import Grove.Forest.Create

namespace Grove.Feed

/-- How a request finds a feed to run: its source has one, or the resolver supplies one. -/
def finding (r : ManagerRef) (own : Option Producer) (supplied : Feed → Growth → Run)
    (systemId : Option String) (f : Forest) (m : Manager) : Except TreeError Producer × Forest :=
  match own with
  | some producer => (.ok producer, f)
  | none =>
    match f.resolve r m systemId with
    | (.error e, f) => (.error e, f)
    | (.ok feed, f) => (.ok ⟨feed, supplied feed⟩, f)

/-- The feed of a source, where feeds run as given. -/
def own (run : Feed → Growth → Run) (source : Source) : Option Producer :=
  source.feed.map fun feed => ⟨feed, run feed⟩

/-- The answer to a request of a feed, and the state the feed goes on in. -/
def reply (r : Option ManagerRef) (supplied : Feed → Growth → Run) (source : Source)
    (unique : Bool) (g : Growth) : Except TreeError Model × Growth :=
  match r with
  | none => (.error (.configuration "no tree model manager"), g)
  | some r =>
    answerRequest g (g.forest.answer r source unique
      (finding r (own (runWith (some r) supplied) source) supplied source.systemId))

variable {r : Option ManagerRef} {supplied : Feed → Growth → Run}

theorem runWith_request (source : Source) (unique : Bool) (next : Except TreeError Model → Feed)
    (g : Growth) : runWith r supplied (.request source unique next) g =
      runWith r supplied (next (reply r supplied source unique g).1)
        (reply r supplied source unique g).2 := by
  obtain ⟨systemId, feed, sizeHint⟩ := source
  cases r with
  | none => rfl
  | some r => cases feed <;> rfl

theorem builder_reply (source : Source) (unique : Bool) (g : Growth) :
    (reply r supplied source unique g).2.builder = g.builder := by
  cases r <;> rfl

end Grove.Feed

/-- A request: how deep feeds of the resolver may nest in answering it, what the model is to be made
from, and whether it is to be one of its own. -/
structure Grove.Request where
  depth : Nat
  source : Grove.Source
  unique : Bool

namespace Grove.Feed

/-- Runs a feed that the resolver supplies, with so many of them nested at most. -/
def supply (r : ManagerRef) : Nat → Feed → Growth → Run
  | 0, _, g => (.error (.configuration "source resolver nests too deeply"), g)
  | depth + 1, feed, g => run r depth feed g

theorem run_eq (r : ManagerRef) (depth : Nat) : run r depth = runWith (some r) (supply r depth) := by
  cases depth <;> rfl

end Grove.Feed

namespace Grove.Forest

/-- Answers a request. -/
def serve (f : Forest) (r : ManagerRef) (q : Request) : Creation × Forest :=
  f.answer r q.source q.unique
    (Feed.finding r (Feed.own (Feed.run r q.depth) q.source) (Feed.supply r q.depth) q.source.systemId)

end Grove.Forest

namespace Grove.Feed

variable {r : ManagerRef} {depth : Nat}

theorem run_report_of_taken {event : BuildEvent} {next : Except TreeError Unit → Feed} {g : Growth}
    (h : g.builder.refusal? event = none) : run r depth (.report event next) g =
      run r depth (next (.ok ())) { g with builder := g.builder.take event } := by
  rw [run_eq, runWith, h]

theorem run_report_of_refused {event : BuildEvent} {next : Except TreeError Unit → Feed} {g : Growth}
    {e : TreeError} (h : g.builder.refusal? event = some e) : run r depth (.report event next) g =
      run r depth (next (.error e)) { g with builder := g.builder.refuse event } := by
  rw [run_eq, runWith, h]

theorem run_request (source : Source) (unique : Bool) (next : Except TreeError Model → Feed)
    (g : Growth) : run r depth (.request source unique next) g =
      run r depth (next (answerRequest g (g.forest.serve r ⟨depth, source, unique⟩)).1)
        (answerRequest g (g.forest.serve r ⟨depth, source, unique⟩)).2 := by
  rw [Forest.serve, run_eq, runWith_request]
  rfl

end Grove.Feed

namespace Grove.Forest

theorem create_eq (f : Forest) (r : ManagerRef) (source : Source) (unique : Bool) :
    f.create r source unique = f.answer r source unique
      (Feed.finding r (Feed.own (Feed.run r resolverDepth) source) (Feed.run r resolverDepth)
        source.systemId) := by
  obtain ⟨systemId, feed, sizeHint⟩ := source
  cases feed <;> rfl

/-- A request from outside. -/
def outerRequest (source : Source) (unique : Bool) : Request :=
  ⟨if source.feed.isSome then resolverDepth else resolverDepth + 1, source, unique⟩

theorem create_eq_serve (f : Forest) (r : ManagerRef) (source : Source) (unique : Bool) :
    f.create r source unique = f.serve r (outerRequest source unique) := by
  obtain ⟨systemId, feed, sizeHint⟩ := source
  cases feed <;> rfl

end Grove.Forest
