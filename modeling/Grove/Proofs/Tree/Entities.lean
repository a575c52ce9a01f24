/-
The entities of a model and its base address, said of the events that were committed to it
(`Model.Committed`). An entity is the one of the first declaration of its name that was
accepted (`BuildEvent.Introduces`), with an address relative to the base address at that
moment; and the base address of a model is that of the last start of a document that was
accepted (`Model.Reachable.entities_recorded`).

A start is accepted as long as there is nothing but a root, whatever was declared before. So
the address of an entity is relative to the base address of the model where no start follows
its declaration, as in a document whose start was accepted first; and otherwise it need not be
(`Model.entity_before_start`).
-/
import Grove.Proofs.Tree.Recovery

namespace Grove

namespace BuildEvent

/-- The base address that a start of a document gives. -/
def base? : BuildEvent → Option (Option String)
  | .startDocument baseUri => some baseUri
  | _ => none

/-- The name that the declaration of an entity declares. -/
def declaredName? : BuildEvent → Option String
  | .entity name _ _ _ => some name
  | _ => none

/-- The entity that an event declares where the base address is the given one. -/
def entity? (base : Option String) : BuildEvent → Option Entity
  | .entity name publicId systemId notationName =>
    some { name, publicId, systemId, notationName, uri := Url.resolve base systemId }
  | _ => none

/-- The base address after some events: that of the last start. -/
def lastBase (events : List BuildEvent) : Option String :=
  events.foldl (fun base event => event.base?.getD base) none

/-- After some events, another one is the first to declare a name, and the entity is what it
declares then. -/
structure Introduces (before : List BuildEvent) (event : BuildEvent) (name : String)
    (entity : Entity) : Prop where
  first : ∀ earlier ∈ before, earlier.declaredName? ≠ some name
  declared : event.entity? (lastBase before) = some entity
  name_eq : entity.name = name

variable {events before after : List BuildEvent} {event : BuildEvent} {name : String}
  {entity : Entity} {base : Option String}

theorem lastBase_concat (events : List BuildEvent) (event : BuildEvent) :
    lastBase (events ++ [event]) = event.base?.getD (lastBase events) := by
  simp [lastBase]

/-- Without a start the base address stays. -/
theorem lastBase_append (h : ∀ later ∈ after, later.base? = none) :
    lastBase (before ++ after) = lastBase before := by
  unfold lastBase
  rw [List.foldl_append]
  generalize before.foldl (fun base event => event.base?.getD base) none = base
  induction after with
  | nil => rfl
  | cons later after ih =>
    rw [List.foldl_cons, h later List.mem_cons_self]
    exact ih fun e he => h e (List.mem_cons_of_mem _ he)

theorem declaredName?_of_entity? (h : event.entity? base = some entity) :
    event.declaredName? = some entity.name ∧ event.base? = none ∧
      entity.uri = Url.resolve base entity.systemId := by
  cases event <;> simp only [entity?, reduceCtorEq, Option.some_inj] at h
  subst h
  exact ⟨rfl, rfl, rfl⟩

theorem Introduces.declaredName?_eq (h : Introduces before event name entity) :
    event.declaredName? = some name := by
  rw [(declaredName?_of_entity? h.declared).1, h.name_eq]

theorem introduces_entity_iff {publicId notationName : Option String} {name' systemId : String} :
    Introduces before (.entity name publicId systemId notationName) name' entity ↔
      name' = name ∧ (∀ earlier ∈ before, earlier.declaredName? ≠ some name) ∧
        entity = ⟨name, publicId, systemId, notationName, Url.resolve (lastBase before) systemId⟩ := by
  constructor
  · rintro ⟨hfirst, hdeclared, rfl⟩
    obtain rfl := Option.some_inj.1 hdeclared
    exact ⟨rfl, hfirst, rfl⟩
  · rintro ⟨rfl, hfirst, rfl⟩
    exact ⟨hfirst, rfl, rfl⟩

/-- What stands in a list with one more event at its end. -/
theorem exists_split_concat {P : List BuildEvent → BuildEvent → Prop} :
    (∃ before x after, events ++ [event] = before ++ x :: after ∧ P before x) ↔
      (∃ before x after, events = before ++ x :: after ∧ P before x) ∨ P events event := by
  constructor
  · rintro ⟨before, x, after, heq, hP⟩
    rcases List.eq_nil_or_concat after with rfl | ⟨init, last, rfl⟩
    · obtain ⟨rfl, hx⟩ := List.append_inj' heq rfl
      obtain rfl := List.singleton_inj.1 hx
      exact .inr hP
    · have heq' : events ++ [event] = (before ++ x :: init) ++ [last] := by simpa using heq
      exact .inl ⟨before, x, init, (List.append_inj' heq' rfl).1, hP⟩
  · rintro (⟨before, x, after, rfl, hP⟩ | hP)
    · exact ⟨before, x, after ++ [event], by simp, hP⟩
    · exact ⟨events, event, [], rfl, hP⟩

/-- A name that is declared is declared first somewhere. -/
theorem exists_introduces (hmem : event ∈ events) (hname : event.declaredName? = some name) :
    ∃ before x after entity, events = before ++ x :: after ∧ Introduces before x name entity := by
  have hfound : (events.find? fun e => e.declaredName? = some name).isSome :=
    List.find?_isSome.2 ⟨event, hmem, by simpa using hname⟩
  obtain ⟨x, hx⟩ := Option.isSome_iff_exists.1 hfound
  obtain ⟨hdeclares, before, after, heq, hfirst⟩ := List.find?_eq_some_iff_append.1 hx
  cases x <;> simp [declaredName?] at hdeclares
  subst hdeclares
  exact ⟨before, _, after, _, heq, by simpa using hfirst, rfl, rfl⟩

end BuildEvent

/-! ## What a builder records -/

open BuildEvent (lastBase Introduces)

/-- The base address and the entities of a tree, which no node changes. -/
def Tree.declarations (t : Tree) : Option String × Table String Entity := (t.baseUri, t.entities)

/-- A tree has the base address and the entities that some events come to. -/
structure Tree.Recorded (events : List BuildEvent) (t : Tree) : Prop where
  base : t.baseUri = lastBase events
  entity : ∀ name entity, t.entities.get? name = some entity ↔ ∃ before event after,
    events = before ++ event :: after ∧ Introduces before event name entity

namespace Builder

variable {b b' : Builder} {event : BuildEvent} {events before after : List BuildEvent}

theorem declarations_addAttribute (element : Nat) (t : Tree) (a : AttributeEvent) :
    (addAttribute element t a).declarations = t.declarations := by
  unfold addAttribute
  dsimp only
  split <;> rfl

theorem declarations_addBinding (element : Nat) (t : Tree) (n : BindingEvent) :
    (addBinding element t n).declarations = t.declarations := rfl

theorem declarations_addElement (t : Tree) (parent : Nat) (name : QName)
    (attributes : List AttributeEvent) (bindings : List BindingEvent) :
    (addElement t parent name attributes bindings).declarations = t.declarations := by
  unfold addElement
  have helement : (t.addNode parent { kind := .element, name := some name }).declarations =
      t.declarations := rfl
  have hattributes := List.foldlRecOn (motive := fun t' => t'.declarations = t.declarations)
    attributes (addAttribute t.size) helement fun _ h _ _ => (declarations_addAttribute ..).trans h
  exact List.foldlRecOn (motive := fun t' => t'.declarations = t.declarations) bindings
    (addBinding t.size) hattributes fun _ h _ _ => (declarations_addBinding ..).trans h

theorem declarations_addText (t : Tree) (parent : Nat) (text : String) :
    (addText t parent text).declarations = t.declarations := by
  unfold addText
  split
  · rfl
  · split <;> rfl

theorem declarations_refuse (b : Builder) (event : BuildEvent) :
    (b.refuse event).tree.declarations = b.tree.declarations := by
  cases event with
  | startElement name attributes bindings =>
    simp only [refuse]
    split
    · rfl
    · exact declarations_addElement ..
  | _ => rfl

end Builder

namespace Tree.Recorded

variable {t t' : Tree} {events : List BuildEvent} {event : BuildEvent} {b : Builder}

theorem of_declarations (h : t.Recorded events) (heq : t'.declarations = t.declarations) :
    t'.Recorded events := by
  obtain ⟨hbase, hentities⟩ := Prod.mk.inj heq
  exact ⟨hbase.trans h.base, fun name entity => by rw [hentities, h.entity]⟩

theorem ofRoot (kind : NodeKind) : (Tree.ofRoot kind).Recorded [] :=
  ⟨rfl, by simp [Tree.ofRoot]⟩

/-- An event that declares nothing introduces nothing. -/
theorem concat (h : t.Recorded events) (hname : event.declaredName? = none)
    (hbase : t'.baseUri = event.base?.getD t.baseUri) (hentities : t'.entities = t.entities) :
    t'.Recorded (events ++ [event]) where
  base := by rw [BuildEvent.lastBase_concat, hbase, h.base]
  entity := by
    intro name entity
    rw [hentities, h.entity, BuildEvent.exists_split_concat, or_iff_left]
    intro hnew
    simp [hnew.declaredName?_eq] at hname

theorem get?_eq_none_iff (h : t.Recorded events) {name : String} :
    t.entities.get? name = none ↔ ∀ event ∈ events, event.declaredName? ≠ some name := by
  constructor
  · intro hget event hmem hname
    obtain ⟨before, first, after, entity, hsplit, hfirst⟩ := BuildEvent.exists_introduces hmem hname
    simp [(h.entity name entity).2 ⟨before, first, after, hsplit, hfirst⟩] at hget
  · intro hnone
    refine Option.eq_none_iff_forall_ne_some.2 fun entity hget => ?_
    obtain ⟨before, event, after, rfl, hintroduces⟩ := (h.entity name entity).1 hget
    exact hnone event (by simp) hintroduces.declaredName?_eq

/-- The first declaration of a name is recorded, and a later one changes nothing. -/
theorem declareEntity (h : t.Recorded events) (name : String) (publicId : Option String)
    (systemId : String) (notationName : Option String) :
    (Builder.declareEntity t name publicId systemId notationName).Recorded
      (events ++ [.entity name publicId systemId notationName]) where
  base := by
    rw [BuildEvent.lastBase_concat]
    unfold Builder.declareEntity
    split <;> exact h.base
  entity := by
    intro name' entity
    rw [BuildEvent.exists_split_concat, ← h.entity, BuildEvent.introduces_entity_iff,
      ← h.get?_eq_none_iff, ← h.base]
    unfold Builder.declareEntity Table.contains
    cases hget : t.entities.get? name with
    | some old => simp
    | none =>
      rw [Option.isSome_none, if_neg (by simp), Table.get?_insert]
      by_cases heq : name' = name
      · simp [heq, hget, eq_comm]
      · simp [heq]

theorem take (h : b.tree.Recorded events) (event : BuildEvent) :
    (b.take event).tree.Recorded (events ++ [event]) := by
  cases event with
  | startDocument baseUri => exact h.concat rfl rfl rfl
  | entity name publicId systemId notationName => exact h.declareEntity ..
  | endDocument => exact h.concat rfl rfl rfl
  | endElement => exact h.concat rfl rfl rfl
  | startElement name attributes bindings =>
    obtain ⟨hbase, hentities⟩ := Prod.mk.inj (Builder.declarations_addElement b.tree b.current name
      attributes bindings)
    exact h.concat rfl hbase hentities
  | characters text =>
    obtain ⟨hbase, hentities⟩ := Prod.mk.inj (Builder.declarations_addText b.tree b.current text)
    exact h.concat rfl hbase hentities
  | comment text => exact h.concat rfl rfl rfl
  | instruction target data => exact h.concat rfl rfl rfl

end Tree.Recorded

/-! ## What a feed leaves behind -/

namespace Builder

variable {b b' : Builder} {event : BuildEvent} {events before after : List BuildEvent}

theorem Hears.recorded (h : Hears b events b') (hbefore : b.tree.Recorded before) :
    b'.tree.Recorded (before ++ events) := by
  induction h generalizing before with
  | nil => rwa [List.append_nil]
  | @taken b _ event events _ _ ih => simpa using ih (hbefore.take event)
  | @refused b _ event _ _ _ _ ih => exact ih (hbefore.of_declarations (declarations_refuse b event))

theorem started_take (h : b.started = true) (event : BuildEvent) : (b.take event).started = true := by
  cases event <;> first | exact h | rfl

theorem started_refuse (h : b.started = true) (event : BuildEvent) :
    (b.refuse event).started = true := by
  cases event with
  | startElement name attributes bindings =>
    simp only [refuse]
    split <;> exact h
  | _ => exact h

/-- A builder that has taken a start takes no other one. -/
theorem Hears.no_start (h : Hears b events b') (hstarted : b.started = true) :
    ∀ event ∈ events, event.base? = none := by
  induction h with
  | nil => simp
  | @taken b _ event events hevent _ ih =>
    have hfirst : event.base? = none := by
      cases event with
      | startDocument baseUri => simp [refusal?, hstarted] at hevent
      | _ => rfl
    rw [List.forall_mem_cons]
    exact ⟨hfirst, ih (started_take hstarted event)⟩
  | @refused b _ event _ _ _ _ ih => exact ih (started_refuse hstarted event)

/-- A document is started once. -/
theorem Hears.started_once (h : Hears b events b') : ∀ before after, events = before ++ after →
    (∃ start ∈ before, start.base? ≠ none) → ∀ event ∈ after, event.base? = none := by
  induction h with
  | nil =>
    intro before after heq _
    simp [(List.append_eq_nil_iff.1 heq.symm).2]
  | @taken b _ event events _ hrest ih =>
    rintro (_ | ⟨first, before⟩) after heq ⟨start, hmem, hstart⟩
    · simp at hmem
    · obtain ⟨rfl, rfl⟩ := List.cons.inj heq
      rcases List.mem_cons.1 hmem with rfl | hmem
      · have hstarted : (b.take start).started = true := by
          cases start with
          | startDocument baseUri => rfl
          | _ => exact absurd rfl hstart
        exact fun event hevent => hrest.no_start hstarted event (List.mem_append_right before hevent)
      · exact ih before after rfl ⟨start, hmem, hstart⟩
  | refused _ _ ih => exact ih

end Builder

/-! ## Models -/

namespace Model

/-- The models there can be, each with the events that were committed to it. -/
inductive Committed : List BuildEvent → Model → Prop
  | built {f : Forest} {id : ModelId} {systemId : Option String} {r : Option ManagerRef}
      {supplied : Feed → Growth → Run} {feed : Feed} {m : Model} :
      (f.build id systemId (feed.runWith r supplied)).1 = .ok m →
      Committed (feed.accepted r supplied (scratch f)) m
  | fragment (id : ModelId) : Committed [] (emptyFragment id)
  | appended {events : List BuildEvent} {m m' : Model} {feed : Feed} : Committed events m →
      m.append feed = (.ok (), m') →
      Committed (events ++ feed.accepted none (fun _ g => (.ok (), g)) m.reopened) m'
  | failed {events : List BuildEvent} {m m' : Model} {feed : Feed} {e : TreeError} :
      Committed events m → m.append feed = (.error e, m') → Committed events m'
  | lookedUp {events : List BuildEvent} {m : Model} : Committed events m →
      Committed events { m with tree := m.tree.keepIndex }

variable {events : List BuildEvent} {m m' : Model} {feed : Feed}

theorem append_eq_ok (h : m.append feed = (.ok (), m')) : m.isFragment = true ∧
    m' = { m with tree := (feed.runAlone m.reopened).2.builder.tree.dropIndex } := by
  by_cases hfragment : m.isFragment = true
  · rcases append_of_fragment hfragment feed with heq | ⟨e, heq⟩
    · exact ⟨hfragment, (congrArg Prod.snd (h.symm.trans heq))⟩
    · simp [heq] at h
  · simp [append, hfragment] at h

theorem Committed.reachable (h : Committed events m) : m.Reachable := by
  induction h with
  | built hbuild => exact .built hbuild
  | fragment id => exact .fragment id
  | @appended _ _ _ feed _ happend ih =>
    have hlater := ih.append feed
    rwa [happend] at hlater
  | @failed _ _ _ feed _ _ happend ih =>
    have hlater := ih.append feed
    rwa [happend] at hlater
  | lookedUp _ ih => exact ih.lookedUp

theorem Reachable.committed (h : m.Reachable) : ∃ events, Committed events m := by
  induction h with
  | built hbuild => exact ⟨_, .built hbuild⟩
  | fragment id => exact ⟨_, .fragment id⟩
  | @append m feed _ ih =>
    obtain ⟨events, hcommitted⟩ := ih
    cases happend : m.append feed with
    | mk result m' =>
      cases result with
      | ok _ => exact ⟨_, hcommitted.appended happend⟩
      | error e => exact ⟨_, hcommitted.failed happend⟩
  | lookedUp _ ih => exact ih.imp fun _ hcommitted => hcommitted.lookedUp

theorem Committed.recorded (h : Committed events m) : m.tree.Recorded events := by
  induction h with
  | @built f _ _ r supplied feed _ hbuild =>
    obtain ⟨t, hfinish, rfl⟩ := Forest.build_eq_ok hbuild
    rw [(Builder.finish_eq_ok_iff.1 hfinish).2]
    exact (feed.runWith_hears r supplied (scratch f)).recorded (Tree.Recorded.ofRoot .document)
  | fragment id => exact Tree.Recorded.ofRoot .fragment
  | @appended events m m' feed _ happend ih =>
    obtain ⟨-, rfl⟩ := append_eq_ok happend
    have hheard := feed.runWith_hears none (fun _ g => (.ok (), g)) m.reopened
    exact (hheard.recorded ih).of_declarations rfl
  | failed hcommitted happend ih =>
    rwa [append_of_error hcommitted.reachable.wellFormed happend]
  | lookedUp _ ih => exact ih.of_declarations rfl

/-- A document has one start. -/
theorem Committed.started_once (h : Committed events m) (hdocument : m.isFragment = false) :
    ∀ before after, events = before ++ after → (∃ start ∈ before, start.base? ≠ none) →
      ∀ event ∈ after, event.base? = none := by
  induction h with
  | @built f _ _ r supplied feed _ _ =>
    exact (feed.runWith_hears r supplied (scratch f)).started_once
  | fragment id => simp [emptyFragment] at hdocument
  | appended _ happend _ =>
    obtain ⟨hfragment, rfl⟩ := append_eq_ok happend
    simp [hfragment] at hdocument
  | failed hcommitted happend ih =>
    rw [append_of_error hcommitted.reachable.wellFormed happend] at hdocument
    exact ih hdocument
  | lookedUp _ ih => exact ih hdocument

/-- A model has the base address of the last start that was committed to it, and of each name
the entity that was declared first. The address of an entity is relative to the base address
of the model if no start follows the declaration; none does in a document whose start comes
first. -/
theorem Reachable.entities_recorded (h : m.Reachable) :
    (∃ events, Committed events m) ∧
    ∀ events, Committed events m → m.tree.Recorded events ∧
      ∀ before event after name entity, events = before ++ event :: after →
        Introduces before event name entity →
        ((∀ later ∈ after, later.base? = none) ∨
          m.isFragment = false ∧ ∃ start ∈ before, start.base? ≠ none) →
        entity.uri = Url.resolve m.tree.baseUri entity.systemId := by
  refine ⟨h.committed, fun events hcommitted => ⟨hcommitted.recorded, ?_⟩⟩
  intro before event after name entity hsplit hintroduces hlate
  obtain ⟨-, hnone, huri⟩ := BuildEvent.declaredName?_of_entity? hintroduces.declared
  have hafter : ∀ later ∈ after, later.base? = none := by
    rcases hlate with hafter | ⟨hdocument, start, hmem, hstart⟩
    · exact hafter
    · have hsplit' : events = (before ++ [event]) ++ after := by simp [hsplit]
      exact hcommitted.started_once hdocument _ _ hsplit'
        ⟨start, List.mem_append_left _ hmem, hstart⟩
  have hbase : m.tree.baseUri = lastBase before := by
    rw [hcommitted.recorded.base, hsplit]
    exact BuildEvent.lastBase_append (List.forall_mem_cons.2 ⟨hnone, hafter⟩)
  rw [huri, hbase]

/-- The base address of a document. -/
def address : String := "http://example.com/docs/a.xml"

/-- A document that declares an entity twice after its start. -/
def twice : Feed :=
  .ofEvents [.startDocument (some address), .namedEntity "pic" "pic.png",
    .namedEntity "pic" "/other.png", .startElement (.plain "d") [] [], .endElement, .endDocument]

theorem Reachable.entities_recorded_twice : ∃ m entity, Model.build ⟨0⟩ none twice = .ok m ∧
    m.Reachable ∧ m.tree.entities.get? "pic" = some entity ∧ entity.systemId = "pic.png" ∧
    entity.uri = Url.resolve m.tree.baseUri entity.systemId ∧
    entity.uri = "http://example.com/docs/pic.png" := by
  obtain ⟨m, hbuild⟩ : ∃ m, Model.build ⟨0⟩ none twice = .ok m := ⟨_, rfl⟩
  have hreachable : m.Reachable := .built hbuild
  obtain ⟨hrecorded, hrelative⟩ := hreachable.entities_recorded.2 _ (.built hbuild)
  have hfirst : Introduces [.startDocument (some address)] (.namedEntity "pic" "pic.png") "pic"
      ⟨"pic", none, "pic.png", none, Url.resolve (some address) "pic.png"⟩ := ⟨by decide, rfl, rfl⟩
  have hget := (hrecorded.entity _ _).2 ⟨_, _, _, rfl, hfirst⟩
  exact ⟨m, _, hbuild, hreachable, hget, rfl, hrelative _ _ _ _ _ rfl hfirst (.inl (by decide)),
    by decide +kernel⟩

/-- A document that declares an entity before its start. -/
def early : Feed :=
  .ofEvents [.namedEntity "pic" "pic.png", .startDocument (some address),
    .startElement (.plain "d") [] [], .endElement, .endDocument]

/-- An entity that is declared before the start of its document has an address that is not
relative to the base address of the document. -/
theorem entity_before_start : ∃ m entity, Model.build ⟨0⟩ none early = .ok m ∧ m.Reachable ∧
    m.tree.entities.get? "pic" = some entity ∧ m.tree.baseUri = some address ∧
    entity.uri = "pic.png" ∧
    Url.resolve m.tree.baseUri entity.systemId = "http://example.com/docs/pic.png" ∧
    entity.uri ≠ Url.resolve m.tree.baseUri entity.systemId := by
  obtain ⟨m, hbuild, hbase, hget⟩ : ∃ m, Model.build ⟨0⟩ none early = .ok m ∧
      m.tree.baseUri = some address ∧ m.tree.entities.get? "pic" =
        some ⟨"pic", none, "pic.png", none, Url.resolve none "pic.png"⟩ := ⟨_, rfl, rfl, rfl⟩
  have huri : Url.resolve none "pic.png" = "pic.png" := rfl
  have hrelative : Url.resolve (some address) "pic.png" = "http://example.com/docs/pic.png" := by
    decide +kernel
  refine ⟨m, _, hbuild, .built hbuild, hget, hbase, huri, ?_, ?_⟩
  · rw [hbase, hrelative]
  · rw [hbase, hrelative, huri]
    decide

end Model

end Grove
