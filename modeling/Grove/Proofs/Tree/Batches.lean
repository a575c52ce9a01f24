/-
Events that are told one after the other (`Builder.tellAll`), which is what a feed of recorded
events does to a tree.

How they are cut into batches does not matter. The builder of a batch knows nothing of the one
before, but if that began and ended no document, all there was to know is in the tree
(`Builder.unbounded_of_tellAll`); and what a builder does to a tree does not depend on the
identifiers that the tree has collected (`Builder.tellAll_dropIndex`), which are all that the end
of a batch takes away.
-/
import Grove.Proofs.Tree.Entities

namespace Grove

/-- Whether an event starts a document. -/
def BuildEvent.begins : BuildEvent → Bool
  | .startDocument _ => true
  | _ => false

/-- Whether an event ends a document. -/
def BuildEvent.ends : BuildEvent → Bool
  | .endDocument => true
  | _ => false

namespace Builder

variable {b b' : Builder} {event : BuildEvent} {events : List BuildEvent}

/-! ## Telling events -/

/-- Tells a builder an event. -/
def tell (b : Builder) (event : BuildEvent) : Except TreeError Builder :=
  match b.refusal? event with
  | none => .ok (b.take event)
  | some e => .error e

/-- Tells a builder events, up to the first that it refuses. -/
def tellAll (b : Builder) (events : List BuildEvent) : Except TreeError Builder := events.foldlM tell b

theorem tell_of_none (h : b.refusal? event = none) : b.tell event = .ok (b.take event) := by
  rw [tell, h]

theorem tell_of_some {e : TreeError} (h : b.refusal? event = some e) : b.tell event = .error e := by
  rw [tell, h]

theorem tellAll_cons (b : Builder) (event : BuildEvent) (events : List BuildEvent) :
    b.tellAll (event :: events) = b.tell event >>= (·.tellAll events) := List.foldlM_cons

theorem tellAll_append (b : Builder) (before after : List BuildEvent) :
    b.tellAll (before ++ after) = b.tellAll before >>= (·.tellAll after) := List.foldlM_append

theorem tellAll_cons_of_none (h : b.refusal? event = none) (events : List BuildEvent) :
    b.tellAll (event :: events) = (b.take event).tellAll events := by
  rw [tellAll_cons, tell_of_none h]
  rfl

theorem tellAll_cons_of_some {e : TreeError} (h : b.refusal? event = some e)
    (events : List BuildEvent) : b.tellAll (event :: events) = .error e := by
  rw [tellAll_cons, tell_of_some h]
  rfl

theorem takes_iff : b.Takes events b' ↔ b.tellAll events = .ok b' := by
  induction events generalizing b with
  | nil => exact iff_of_eq (Except.ok.injEq b b').symm
  | cons event events ih =>
    cases hevent : b.refusal? event with
    | none =>
      rw [tellAll_cons_of_none hevent, ← ih]
      exact and_iff_right hevent
    | some e =>
      rw [tellAll_cons_of_some hevent]
      simp [Takes, hevent]

/-- A builder that is told events leaves a tree if it takes them all and no element is open then. -/
theorem tellAll_finish_eq_ok_iff {t : Tree} : (b.tellAll events >>= finish) = .ok t ↔
    ∃ b', b.tellAll events = .ok b' ∧ b'.openElements = [] ∧ t = b'.tree := by
  cases b.tellAll events with
  | error e => simp [bind, Except.bind]
  | ok b' => simpa [bind, Except.bind] using finish_eq_ok_iff

/-! ## Batches -/

theorem started_take_eq (b : Builder) (event : BuildEvent) :
    (b.take event).started = (b.started || event.begins) := by
  cases event <;> simp [Builder.take, BuildEvent.begins]

theorem ended_take_eq (b : Builder) (event : BuildEvent) :
    (b.take event).ended = (b.ended || event.ends) := by
  cases event <;> simp [Builder.take, BuildEvent.ends]

/-- A builder that starts and ends no document knows no more of what it took than its tree. -/
theorem unbounded_of_tellAll (h : b.tellAll events = .ok b') (hstarted : b.started = false)
    (hended : b.ended = false) (hevents : ∀ event ∈ events, event.begins = false ∧ event.ends = false) :
    b'.started = false ∧ b'.ended = false := by
  induction events generalizing b with
  | nil =>
    obtain rfl : b = b' := Except.ok.inj h
    exact ⟨hstarted, hended⟩
  | cons event events ih =>
    obtain ⟨⟨hbegins, hends⟩, hrest⟩ := List.forall_mem_cons.1 hevents
    cases hrefusal : b.refusal? event with
    | some e => simp [tellAll_cons_of_some hrefusal] at h
    | none =>
      rw [tellAll_cons_of_none hrefusal] at h
      exact ih h (by simp [started_take_eq, hstarted, hbegins])
        (by simp [ended_take_eq, hended, hends]) hrest

/-- A builder but for the identifiers that its tree has collected. -/
def dropIndex (b : Builder) : Builder := { b with tree := b.tree.dropIndex }

theorem addAttribute_dropIndex (element : Nat) (t : Tree) (a : AttributeEvent) :
    addAttribute element t.dropIndex a = (addAttribute element t a).dropIndex := by
  unfold addAttribute
  dsimp only
  split <;> rfl

theorem addElement_dropIndex (t : Tree) (parent : Nat) (name : QName)
    (attributes : List AttributeEvent) (bindings : List BindingEvent) :
    addElement t.dropIndex parent name attributes bindings =
      (addElement t parent name attributes bindings).dropIndex := by
  have hbinding (u : Tree) (n : BindingEvent) :
      addBinding t.size u.dropIndex n = (addBinding t.size u n).dropIndex := rfl
  unfold addElement
  dsimp only
  rw [← List.foldl_hom _ hbinding, ← List.foldl_hom _ (addAttribute_dropIndex t.size)]
  rfl

theorem addText_dropIndex (t : Tree) (parent : Nat) (text : String) :
    addText t.dropIndex parent text = (addText t parent text).dropIndex := by
  have hlast : t.dropIndex.lastText? parent = t.lastText? parent := rfl
  unfold addText
  rw [hlast]
  split
  · rfl
  · split <;> rfl

theorem declareEntity_dropIndex (t : Tree) (name : String) (publicId : Option String)
    (systemId : String) (notationName : Option String) :
    declareEntity t.dropIndex name publicId systemId notationName =
      (declareEntity t name publicId systemId notationName).dropIndex := by
  have hentities : t.dropIndex.entities = t.entities := rfl
  unfold declareEntity
  rw [hentities]
  split <;> rfl

theorem take_dropIndex (b : Builder) (event : BuildEvent) :
    b.dropIndex.take event = (b.take event).dropIndex := by
  cases event with
  | startElement name attributes bindings =>
    exact congrArg ({ b with tree := ·, openElements := b.tree.size :: b.openElements })
      (addElement_dropIndex ..)
  | characters text => exact congrArg ({ b with tree := · }) (addText_dropIndex ..)
  | entity name publicId systemId notationName =>
    exact congrArg ({ b with tree := · }) (declareEntity_dropIndex ..)
  | _ => rfl

theorem tell_dropIndex (b : Builder) (event : BuildEvent) :
    b.dropIndex.tell event = (b.tell event).map dropIndex := by
  have hrefusal : b.dropIndex.refusal? event = b.refusal? event := by cases event <;> rfl
  unfold tell
  rw [hrefusal, take_dropIndex]
  split <;> rfl

theorem tellAll_dropIndex (b : Builder) (events : List BuildEvent) :
    b.dropIndex.tellAll events = (b.tellAll events).map dropIndex := by
  induction events generalizing b with
  | nil => rfl
  | cons event events ih =>
    rw [tellAll_cons, tellAll_cons, tell_dropIndex]
    cases b.tell event with
    | error e => rfl
    | ok b' => exact ih b'

theorem finish_dropIndex (b : Builder) : b.dropIndex.finish = b.finish.map Tree.dropIndex := by
  unfold finish dropIndex
  cases b.openElements <;> rfl

end Builder

/-! ## Feeds of recorded events -/

namespace Feed

variable {r : Option ManagerRef} {supplied : Feed → Growth → Run} {events : List BuildEvent}
  {g : Growth} {e : TreeError}

theorem runWith_ofEvents_of_error (h : g.builder.tellAll events = .error e) :
    ((ofEvents events).runWith r supplied g).1 = .error e := by
  unfold ofEvents
  induction events generalizing g with
  | nil => simp [Builder.tellAll, pure, Except.pure] at h
  | cons event events ih =>
    rw [ofEventsThen, runWith]
    cases hrefusal : g.builder.refusal? event with
    | none => exact ih (Builder.tellAll_cons_of_none hrefusal _ ▸ h)
    | some e' =>
      rw [Builder.tellAll_cons_of_some hrefusal] at h
      obtain rfl := Except.error.inj h
      rfl

/-- What a feed of recorded events comes to is what its events do. -/
theorem runWith_ofEvents_finish (r : Option ManagerRef) (supplied : Feed → Growth → Run)
    (events : List BuildEvent) (g : Growth) :
    (((ofEvents events).runWith r supplied g).1.bind fun _ =>
      ((ofEvents events).runWith r supplied g).2.builder.finish) =
        g.builder.tellAll events >>= Builder.finish := by
  cases h : g.builder.tellAll events with
  | ok b =>
    have hran : (ofEvents events).runWith r supplied g = (.ok (), { g with builder := b }) :=
      runWith_ofEventsThen (Builder.takes_iff.2 h)
    rw [hran]
    rfl
  | error e =>
    rw [runWith_ofEvents_of_error h]
    rfl

end Feed

namespace Model

variable {m m₁ : Model} {events before after : List BuildEvent}

/-- What the events of a batch make of the tree of a fragment. -/
def grownBy (m : Model) (events : List BuildEvent) : Except TreeError Tree :=
  (Builder.ofTree m.tree).tellAll events >>= Builder.finish

/-- A batch of recorded events fails as they do, and else leaves what they make of the tree. -/
theorem append_ofEvents (hfragment : m.isFragment = true) (events : List BuildEvent) :
    (m.append (.ofEvents events)).1 = (m.grownBy events).map (fun _ => ()) ∧
    ∀ m', m.append (.ofEvents events) = (.ok (), m') ↔
      ∃ t, m.grownBy events = .ok t ∧ m' = { m with tree := t.dropIndex } := by
  have hgrown := Feed.runWith_ofEvents_finish none (fun _ g => (.ok (), g)) events m.reopened
  unfold append
  rw [if_pos hfragment]
  change _ = m.grownBy events at hgrown
  dsimp only [Feed.runAlone, reopened] at hgrown ⊢
  rw [hgrown]
  cases m.grownBy events with
  | error e => simp [Except.map]
  | ok t => simp [Except.map, eq_comm]

/-- What is left of a batch, but for the identifiers, is where the next one goes on. -/
theorem grownBy_append {t : Tree} (hbefore : ∀ event ∈ before, event.begins = false ∧ event.ends = false)
    (hgrown : m.grownBy before = .ok t) (after : List BuildEvent) :
    { m with tree := t.dropIndex : Model }.grownBy after =
      (m.grownBy (before ++ after)).map Tree.dropIndex := by
  obtain ⟨b, htold, hopen, rfl⟩ := Builder.tellAll_finish_eq_ok_iff.1 hgrown
  obtain ⟨hstarted, hended⟩ := Builder.unbounded_of_tellAll htold rfl rfl hbefore
  have hfresh : Builder.ofTree b.tree.dropIndex = b.dropIndex := by
    simp [Builder.ofTree, Builder.dropIndex, hopen, hstarted, hended]
  unfold grownBy
  rw [Builder.tellAll_append, htold, hfresh, Builder.tellAll_dropIndex]
  show Except.bind _ _ = Except.map _ (b.tellAll after >>= Builder.finish)
  cases b.tellAll after with
  | error e => rfl
  | ok b' => exact b'.finish_dropIndex

/-- Events can be added in one batch or in two. If the first part of them makes a batch and neither
starts nor ends a document, then the second part is taken after it as it is behind it, and what
becomes of the fragment is the same. -/
theorem append_in_batches (hbefore : ∀ event ∈ before, event.begins = false ∧ event.ends = false)
    (happend : m.append (.ofEvents before) = (.ok (), m₁)) :
    (m₁.append (.ofEvents after)).1 = (m.append (.ofEvents (before ++ after))).1 ∧
    ∀ m₂, m₁.append (.ofEvents after) = (.ok (), m₂) ↔
      m.append (.ofEvents (before ++ after)) = (.ok (), m₂) := by
  have hfragment := (append_eq_ok happend).1
  obtain ⟨t, hgrown, rfl⟩ := ((append_ofEvents hfragment before).2 _).1 happend
  obtain ⟨hfails, htakes⟩ := append_ofEvents (m := { m with tree := t.dropIndex }) hfragment after
  obtain ⟨hfailsAll, htakesAll⟩ := append_ofEvents hfragment (before ++ after)
  rw [grownBy_append hbefore hgrown] at hfails htakes
  refine ⟨?_, fun m₂ => ?_⟩
  · rw [hfails, hfailsAll]
    cases m.grownBy (before ++ after) <;> rfl
  · rw [htakes, htakesAll]
    cases m.grownBy (before ++ after) with
    | error e => simp [Except.map]
    | ok t' => simp [Except.map, Tree.dropIndex]

/-- A batch that ends with a text. -/
def firstPart : List BuildEvent :=
  [.namedEntity "pic" "pic.png", .startElement (.plain "e") [.identifying "k" "v"] [], .endElement,
    .characters "a"]

/-- A batch that begins with a text. -/
def secondPart : List BuildEvent :=
  [.characters "b", .namedEntity "pic" "other.png", .comment "c"]

/-- A text that is cut into two batches is one text, and the entity is the first one. -/
theorem append_in_batches_text :
    (∀ event ∈ firstPart, event.begins = false ∧ event.ends = false) ∧
    ∃ m₁ m₂ : Model, (emptyFragment ⟨0⟩).append (.ofEvents firstPart) = (.ok (), m₁) ∧
      m₁.append (.ofEvents secondPart) = (.ok (), m₂) ∧
      (emptyFragment ⟨0⟩).append (.ofEvents (firstPart ++ secondPart)) = (.ok (), m₂) ∧
      m₂.size = 5 ∧ m₂.tree.valueOf 3 = "ab" ∧ m₂.entityUri "pic" = some "pic.png" := by
  have hfirst : ∀ event ∈ firstPart, event.begins = false ∧ event.ends = false := by decide
  obtain ⟨m₁, hm₁⟩ : ∃ m₁, (emptyFragment ⟨0⟩).append (.ofEvents firstPart) = (.ok (), m₁) := ⟨_, rfl⟩
  obtain ⟨m₂, hm₂, hsize, hvalue, huri⟩ : ∃ m₂ : Model,
      (emptyFragment ⟨0⟩).append (.ofEvents (firstPart ++ secondPart)) = (.ok (), m₂) ∧
        m₂.size = 5 ∧ m₂.tree.valueOf 3 = "ab" ∧ m₂.entityUri "pic" = some "pic.png" :=
    ⟨_, rfl, rfl, rfl, rfl⟩
  have hsecond := ((append_in_batches hfirst hm₁).2 m₂).2 hm₂
  exact ⟨hfirst, m₁, m₂, hm₁, hsecond, hm₂, hsize, hvalue, huri⟩

end Model

end Grove
