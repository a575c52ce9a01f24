/-
Making models. `Feed.run` lets a feed report to a builder and answers its
requests for other models from the manager it runs under; `Forest.create` is
the life of a request: look for a shared model, else find a feed, take a
number, build, register. `Model.build` and `Forest.append` use a feed without a
manager.

Requests nest through the sources that feeds carry, which are finite, and
through the feeds that a resolver supplies, which need not be: those may nest
`resolverDepth` deep.
-/
import Grove.Forest.Basic
import Grove.Tree.Builder

namespace Grove

/-- What runs on while a feed does. -/
structure Growth where
  forest : Forest
  builder : Builder
  /-- What the feed's own requests were answered, in order. -/
  answers : List (Except TreeError Model) := []

/-- What a running feed leaves behind. -/
abbrev Run := Except TreeError Unit × Growth

/-- A feed that was found for a model, and how it runs. -/
structure Producer where
  feed : Feed
  run : Growth → Run

/-- The answer to a request. -/
structure Creation where
  outcome : Except TreeError ModelRef
  /-- What the requests of the feed it ran were answered. -/
  answers : List (Except TreeError Model) := []

namespace Forest

/-- Builds a model in a forest with a feed that runs as given. -/
def build (f : Forest) (id : ModelId) (systemId : Option String) (run : Growth → Run) :
    Except TreeError Model × Growth :=
  let (result, growth) := run { forest := f, builder := .ofTree (Tree.ofRoot .document) }
  match result with
  | .error e => (.error e, growth)
  | .ok _ => (growth.builder.finish.map fun tree => { id, systemId, tree }, growth)

theorem build_forest (f : Forest) (id : ModelId) (systemId : Option String) (run : Growth → Run) :
    (f.build id systemId run).2.forest =
      (run { forest := f, builder := .ofTree (Tree.ofRoot .document) }).2.forest := by
  unfold build
  dsimp only
  split <;> rfl

theorem build_eq_ok {f : Forest} {id : ModelId} {systemId : Option String} {run : Growth → Run}
    {m : Model} (h : (f.build id systemId run).1 = .ok m) :
    ∃ t, (run { forest := f, builder := .ofTree (Tree.ofRoot .document) }).2.builder.finish = .ok t ∧
      m = { id, systemId, tree := t } := by
  unfold build at h
  generalize run { forest := f, builder := .ofTree (Tree.ofRoot .document) } = ran at h ⊢
  obtain ⟨result, growth⟩ := ran
  cases result with
  | error e => simp at h
  | ok _ =>
    obtain ⟨t, hfinish, rfl⟩ := map_eq_ok_iff.1 h
    exact ⟨t, hfinish, rfl⟩

/-- Takes a number from a manager and builds a model with its implementation, which
may fail before the feed is run and afterwards. -/
def make (f : Forest) (r : ManagerRef) (m : Manager) (source : Source) (producer : Producer) :
    Except TreeError Model × Growth :=
  let idle (f : Forest) : Growth := { forest := f, builder := .ofTree (Tree.ofRoot .document) }
  match m.allocate with
  | .error e => (.error e, idle f)
  | .ok (id, m) =>
    let f := f.setManager r m
    match m.factory.refusal id source producer.feed with
    | some e => (.error e, idle f)
    | none =>
      let (built, growth) := f.build id source.systemId producer.run
      (m.factory.verdict source producer.feed built, growth)

/-- Registers a model that was built. -/
def settle (f : Forest) (r : ManagerRef) (key : Option String) (model : Model) :
    ModelRef × Forest :=
  let (ref, f) := f.plant model
  match f.manager? r with
  | none => (ref, f)
  | some m =>
    let (given, m) := m.register key ref
    (given, f.setManager r m)

/-- Answers a request with a shared or released model. -/
def reuse? (f : Forest) (r : ManagerRef) (m : Manager) (key : Option String) :
    Option (ModelRef × Forest) := do
  let k ← key
  match m.shared? k with
  | some ref => some (ref, f)
  | none =>
    let (ref, m) ← m.revive? k
    some (ref, f.setManager r m)

/-- Answers a request for a model. `find` gives the feed to run if there is no
model to reuse. -/
def answer (f : Forest) (r : ManagerRef) (source : Source) (unique : Bool)
    (find : Forest → Manager → Except TreeError Producer × Forest) : Creation × Forest :=
  match f.manager? r with
  | none => ({ outcome := .error (.configuration "no tree model manager") }, f)
  | some m =>
    let key := if unique then none else source.systemId
    match f.reuse? r m key with
    | some (ref, f) => ({ outcome := .ok ref }, f)
    | none =>
      match find f m with
      | (.error e, f) => ({ outcome := .error e }, f)
      | (.ok producer, f) =>
        let m := (f.manager? r).getD m
        match f.make r m source producer with
        | (.error e, growth) => ({ outcome := .error e, answers := growth.answers }, growth.forest)
        | (.ok model, growth) =>
          let (ref, f) := growth.forest.settle r key model
          ({ outcome := .ok ref, answers := growth.answers }, f)

/-- Asks the resolver of a manager for the feed of a system identifier. -/
def resolve (f : Forest) (r : ManagerRef) (m : Manager) (systemId : Option String) :
    Except TreeError Feed × Forest :=
  match systemId with
  | none => (.error (.configuration "source has neither build events nor a system id"), f)
  | some key =>
    match m.resolver with
    | none => (.error (.configuration ("no source resolver configured for '" ++ key ++ "'")), f)
    | some resolver =>
      let f := f.setManager r { m with resolverCalls := m.resolverCalls + 1 }
      match resolver key with
      | .error e => (.error e, f)
      | .ok (some feed) => (.ok feed, f)
      | .ok none => (.error (.configuration ("source resolver cannot supply '" ++ key ++ "'")), f)

end Forest

namespace Feed

/-- The answer to a feed's request, given how the request is answered. -/
def answerRequest (g : Growth) (creation : Creation × Forest) : Except TreeError Model × Growth :=
  let (c, f) := creation
  let answer := c.outcome.map f.model
  (answer, { g with forest := f, answers := g.answers ++ [answer] })

/-- Runs a feed, with `supplied` to run the feeds that a resolver supplies.
Outside a manager all requests are refused. -/
def runWith (r : Option ManagerRef) (supplied : Feed → Growth → Run) : Feed → Growth → Run
  | .finish result, g => (result, g)
  | .report event next, g =>
    match g.builder.refusal? event with
    | none => runWith r supplied (next (.ok ())) { g with builder := g.builder.take event }
    | some e =>
      runWith r supplied (next (.error e)) { g with builder := g.builder.refuse event }
  | .request (.make systemId feed sizeHint) unique next, g =>
    match r with
    | none => runWith none supplied (next (.error (.configuration "no tree model manager"))) g
    | some r =>
      let creation := g.forest.answer r (.make systemId feed sizeHint) unique fun f m =>
        match feed with
        | some feed => (.ok ⟨feed, runWith (some r) supplied feed⟩, f)
        | none =>
          match f.resolve r m systemId with
          | (.error e, f) => (.error e, f)
          | (.ok feed, f) => (.ok ⟨feed, supplied feed⟩, f)
      let (answer, g) := answerRequest g creation
      runWith (some r) supplied (next answer) g
  termination_by structural feed => feed

/-- Runs a feed under a manager, with feeds from its resolver up to the given
depth. -/
def run (r : ManagerRef) : Nat → Feed → Growth → Run
  | 0, feed, g => runWith (some r)
      (fun _ g => (.error (.configuration "source resolver nests too deeply"), g)) feed g
  | depth + 1, feed, g => runWith (some r) (run r depth) feed g

/-- Runs a feed without a manager. -/
def runAlone (feed : Feed) (g : Growth) : Run :=
  runWith none (fun _ g => (.ok (), g)) feed g

end Feed

/-- How deep the feeds that a resolver supplies may nest. -/
def resolverDepth : Nat := 4096

namespace Forest

/-- Gives a model for a source. Unless the request is for a unique one, a live or
released model of the same system identifier is given, if there is one. -/
def create (f : Forest) (r : ManagerRef) (source : Source) (unique : Bool) : Creation × Forest :=
  f.answer r source unique fun f m =>
    match source.feed with
    | some feed => (.ok ⟨feed, Feed.run r resolverDepth feed⟩, f)
    | none =>
      match f.resolve r m source.systemId with
      | (.error e, f) => (.error e, f)
      | (.ok feed, f) => (.ok ⟨feed, Feed.run r resolverDepth feed⟩, f)

/-- Makes an empty fragment, live under a manager. -/
def createFragment (f : Forest) (r : ManagerRef) : Except TreeError ModelRef × Forest :=
  match f.manager? r with
  | none => (.error (.configuration "no tree model manager"), f)
  | some m =>
    match m.allocate with
    | .error e => (.error e, f)
    | .ok (id, m) =>
      let f := f.setManager r m
      match m.factory.fragmentRefusal id with
      | some e => (.error e, f)
      | none =>
        let (ref, f) := f.settle r none (Model.emptyFragment id)
        (.ok ref, f)

end Forest

namespace Model

/-- Builds a document outside any manager. -/
def build (id : ModelId) (systemId : Option String) (feed : Feed) : Except TreeError Model :=
  (Forest.build default id systemId feed.runAlone).1

/-- Adds a batch of events below the root of a fragment. A batch that fails
leaves the fragment as it was; after one that succeeds the identifiers are collected
anew. -/
def append (m : Model) (feed : Feed) : Except TreeError Unit × Model :=
  if m.isFragment then
    let checkpoint := m.tree.checkpoint
    let (result, growth) := feed.runAlone { forest := default, builder := .ofTree m.tree }
    match result.bind fun _ => growth.builder.finish with
    | .ok tree => (.ok (), { m with tree := tree.dropIndex })
    | .error e => (.error e, { m with tree := growth.builder.tree.rollback checkpoint })
  else
    (.error (.unsupported (m.id.text ++ " is not a fragment and cannot be extended")), m)

end Model

/-- Adds a batch of events to a fragment of the forest. -/
def Forest.append (f : Forest) (ref : ModelRef) (feed : Feed) : Except TreeError Unit × Forest :=
  let (result, m) := (f.model ref).append feed
  (result, f.setTree ref m.tree)

end Grove
