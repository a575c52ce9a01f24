/-
The events that make a document (`BuildEvent.Accepted`): the starts and ends of elements match, no
document ends inside an element, nothing is added after the end of a document, and a document starts
once and before anything is added.

A builder decides event by event, from the open elements, two flags and the size of the tree. These
say all that has to be known of the events before (`Builder.Reflects`), so an event is taken just if
those admit it and there are numbers for its nodes (`Builder.Reflects.refusal?_eq_none_iff`). That
every event is admitted by those before it, and that the elements are ended, is what `Accepted` says
of the list as a whole (`BuildEvent.accepted_iff_admits`).
-/
import Mathlib.Algebra.GroupWithZero.Nat
import Grove.Proofs.Tree.Batches
import Grove.Proofs.Tree.Handles

namespace Grove

namespace BuildEvent

/-! ## The language -/

/-- Whether an event starts an element. -/
def opens : BuildEvent → Bool
  | .startElement _ _ _ => true
  | _ => false

/-- Whether an event ends an element. -/
def closes : BuildEvent → Bool
  | .endElement => true
  | _ => false

/-- Whether an event is one to add nodes. -/
def adds : BuildEvent → Bool
  | .startElement _ _ _ | .characters _ | .comment _ | .instruction _ _ => true
  | _ => false

/-- Whether an event is one to add nodes, and not a text without characters. -/
def fills : BuildEvent → Bool
  | .characters text => !text.isEmpty
  | event => event.adds

/-- Events that make a document, as long as there are numbers for the nodes. -/
structure Accepted (events : List BuildEvent) : Prop where
  nested : ∀ before, before <+: events → before.countP closes ≤ before.countP opens
  balanced : events.countP closes = events.countP opens
  ended : ∀ before after, events = before ++ .endDocument :: after →
    before.countP closes = before.countP opens ∧ ∀ later ∈ after, later.adds = false
  started : ∀ before baseUri after, events = before ++ .startDocument baseUri :: after →
    ∀ earlier ∈ before, earlier.begins = false ∧ earlier.fills = false

/-- How many nodes an event makes if it is no text that joins the one before. -/
def nodes : BuildEvent → Nat
  | .startElement _ attributes bindings => 1 + attributes.length + bindings.length
  | .characters _ | .comment _ | .instruction _ _ => 1
  | _ => 0

/-- How many nodes a document of some events has, the root included. -/
def nodeCount (events : List BuildEvent) : Nat := 1 + ((normalForm events).map nodes).sum

/-- Whether an event may come after others in a document. -/
def Admits (told : List BuildEvent) : BuildEvent → Prop
  | .startDocument _ => ∀ earlier ∈ told, earlier.begins = false ∧ earlier.fills = false
  | .endDocument => told.countP closes = told.countP opens
  | .endElement => told.countP closes < told.countP opens
  | .entity _ _ _ _ => True
  | _ => told.any ends = false

variable {events told before after : List BuildEvent} {event : BuildEvent} {text : String}

theorem admits_of_adds (h : event.adds = true) : Admits told event ↔ told.any ends = false := by
  cases event <;> first | exact Iff.rfl | simp [adds] at h

/-- If every event is admitted by those before it, no more elements are ended than started. -/
theorem nested_of_admits (h : ∀ before event after, events = before ++ event :: after →
    Admits before event) (hbefore : before <+: events) :
    before.countP closes ≤ before.countP opens := by
  induction before using List.reverseRecOn with
  | nil => exact Nat.le_refl 0
  | append_singleton init last ih =>
    have hinit := ih ((List.prefix_append init [last]).trans hbefore)
    obtain ⟨rest, hrest⟩ := hbefore
    have hlast := h init last rest (by simp [← hrest])
    rw [List.countP_append, List.countP_append]
    cases last with
    | endElement =>
      have hlt : init.countP closes < init.countP opens := hlast
      simpa [closes, opens] using Nat.succ_le_of_lt hlt
    | _ => simp [closes, opens]; omega

/-- The language is a matter of each event and the ones before it, and of the elements that are
still open at the end. -/
theorem accepted_iff_admits : Accepted events ↔
    (∀ before event after, events = before ++ event :: after → Admits before event) ∧
      events.countP closes = events.countP opens := by
  constructor
  · intro h
    refine ⟨fun before event after heq => ?_, h.balanced⟩
    have hadds (hadds : event.adds = true) : before.any ends = false := by
      rw [List.any_eq_false]
      intro earlier hmem hends
      obtain ⟨first, rest, rfl⟩ := List.append_of_mem hmem
      cases earlier <;> simp [ends] at hends
      have hlater := (h.ended first (rest ++ event :: after) (by simp [heq])).2 event (by simp)
      simp [hadds] at hlater
    cases event with
    | startDocument baseUri => exact h.started before baseUri after heq
    | endDocument => exact (h.ended before after heq).1
    | endElement =>
      have hle := h.nested (before ++ [.endElement]) ⟨after, by simp [heq]⟩
      rw [List.countP_append, List.countP_append] at hle
      simp only [closes, opens, List.countP_singleton] at hle
      exact Nat.lt_of_succ_le hle
    | entity name publicId systemId notationName => trivial
    | _ => exact hadds rfl
  · rintro ⟨h, hbalanced⟩
    refine ⟨fun before => nested_of_admits h, hbalanced, fun before after heq => ?_,
      fun before baseUri after heq => h before _ after heq⟩
    refine ⟨h before _ after heq, fun later hmem => ?_⟩
    obtain ⟨first, rest, rfl⟩ := List.append_of_mem hmem
    by_contra hadds
    have hnone := (admits_of_adds (by simpa using hadds)).1
      (h (before ++ .endDocument :: first) later rest (by simp [heq]))
    simp [ends] at hnone

/-- Where a list with one more event at its front can be split. -/
theorem forall_split_cons {P : List BuildEvent → BuildEvent → Prop} :
    (∀ before x after, event :: events = before ++ x :: after → P before x) ↔
      P [] event ∧ ∀ before x after, events = before ++ x :: after → P (event :: before) x := by
  constructor
  · intro h
    exact ⟨h [] event events rfl, fun before x after heq => h (event :: before) x after (heq ▸ rfl)⟩
  · rintro ⟨hfirst, hrest⟩ (_ | ⟨first, before⟩) x after heq
    · obtain ⟨rfl, -⟩ := List.cons.inj heq
      exact hfirst
    · obtain ⟨rfl, htail⟩ := List.cons.inj heq
      exact hrest before x after htail

/-! ## Counting nodes -/

/-- Whether events end in a text that a further one would join. -/
def endsInText (told : List BuildEvent) : Bool :=
  match (normalForm told).getLast? with
  | some (.characters _) => true
  | _ => false

/-- How many nodes an event adds to those of the events before it. -/
def addedTo (told : List BuildEvent) : BuildEvent → Nat
  | .characters text => if text.isEmpty || endsInText told then 0 else 1
  | event => event.nodes

@[simp] theorem nodes_kept (event : BuildEvent) : event.kept.nodes = event.nodes := by
  cases event <;> simp [kept, nodes]

theorem endsInText_iff : endsInText told = true ↔
    ∃ value, (normalForm told).getLast? = some (.characters value) := by
  unfold endsInText
  split
  next value hvalue => exact iff_of_true rfl ⟨value, hvalue⟩
  next hother => exact iff_of_false Bool.false_ne_true fun ⟨value, hvalue⟩ => hother value hvalue

/-- A text joins the one at the end, if there is one. -/
theorem nodeCount_concat_text (told : List BuildEvent) (hempty : text.isEmpty = false) :
    nodeCount (told ++ [.characters text]) =
      nodeCount told + if endsInText told then 0 else 1 := by
  rw [nodeCount, normalForm_concat_text hempty]
  by_cases hends : endsInText told = true
  · obtain ⟨value, hvalue⟩ := endsInText_iff.1 hends
    obtain ⟨init, hinit⟩ := List.getLast?_eq_some_iff.1 hvalue
    rw [if_pos hends, nodeCount, hinit, appendText_join]
    simp [nodes]
  · rw [if_neg hends, nodeCount, appendText_other fun value hvalue => hends (endsInText_iff.2 ⟨value, hvalue⟩)]
    simp [nodes, Nat.add_assoc]

theorem nodeCount_concat (told : List BuildEvent) (event : BuildEvent) :
    nodeCount (told ++ [event]) = nodeCount told + addedTo told event := by
  by_cases hshapes : event.shapes = true
  · by_cases htext : ∃ text, event = .characters text
    · obtain ⟨text, rfl⟩ := htext
      have hempty : text.isEmpty = false := by simpa [shapes] using hshapes
      rw [nodeCount_concat_text told hempty, addedTo, hempty, Bool.false_or]
    · have hother : ∀ text, event ≠ .characters text := fun text heq => htext ⟨text, heq⟩
      have hadded : addedTo told event = event.nodes := by
        cases event <;> first | rfl | exact absurd rfl (hother _)
      rw [nodeCount, normalForm_concat hshapes hother, hadded, nodeCount]
      simp [Nat.add_assoc]
  · have hadded : addedTo told event = 0 := by
      cases event <;> simp [shapes, addedTo, nodes] at hshapes ⊢
      simp [hshapes]
    rw [nodeCount, normalForm_of_not_shapes (by simpa using hshapes), hadded]
    rfl

theorem nodeCount_le_append (before after : List BuildEvent) :
    nodeCount before ≤ nodeCount (before ++ after) := by
  induction after using List.reverseRecOn with
  | nil => simp
  | append_singleton after event ih =>
    rw [← List.append_assoc, nodeCount_concat]
    omega

theorem nodes_joinText_ne_zero (text : String) (events : List BuildEvent) :
    ((joinText text events).map nodes).sum ≠ 0 := by
  unfold joinText
  split <;> simp [nodes]

theorem nodes_mergeTexts_eq_zero_iff {events : List BuildEvent} :
    ((mergeTexts events).map nodes).sum = 0 ↔ ∀ event ∈ events, event.nodes = 0 := by
  induction events with
  | nil => simp [mergeTexts]
  | cons event events ih =>
    cases event with
    | characters text => simp [mergeTexts, nodes_joinText_ne_zero, nodes]
    | _ => simp [mergeTexts, ih, nodes]

/-- There is nothing but the root until an event fills the tree. -/
theorem nodeCount_le_one_iff : nodeCount told ≤ 1 ↔ ∀ event ∈ told, event.fills = false := by
  have hfills (event : BuildEvent) : event.fills = false ↔ event.shapes = true → event.nodes = 0 := by
    cases event <;> simp [fills, adds, shapes, nodes]
  have hzero : nodeCount told ≤ 1 ↔ ((normalForm told).map nodes).sum = 0 := by
    unfold nodeCount
    omega
  rw [hzero, normalForm, nodes_mergeTexts_eq_zero_iff, List.forall_mem_map]
  simp [hfills]

end BuildEvent

/-! ## What a builder knows of the events before -/

namespace Builder

open BuildEvent (Accepted Admits nodeCount addedTo endsInText opens closes begins ends)

variable {b b' : Builder} {told events : List BuildEvent} {event : BuildEvent}

/-- All that a builder goes by is what it took. -/
structure Reflects (told : List BuildEvent) (b : Builder) : Prop extends Told told b where
  depth : b.openElements.length + told.countP closes = told.countP opens
  started : b.started = told.any begins
  ended : b.ended = told.any ends
  size : b.tree.size = nodeCount told

theorem reflects_ofTree : (Builder.ofTree (Tree.ofRoot .document)).Reflects [] where
  toTold := told_ofTree
  depth := rfl
  started := rfl
  ended := rfl
  size := rfl

namespace Reflects

theorem lastText?_isSome (h : b.Reflects told) :
    (b.tree.lastText? b.current).isSome = endsInText told := by
  obtain ⟨rest, hpath⟩ := b.exists_path
  have hgrow : b.tree.Growing (b.current :: rest) := hpath ▸ h.sound
  have hlength : b.openElements.length = rest.length := by simpa using congrArg List.length hpath
  have hreport := h.report
  rw [hlength] at hreport
  cases hlast : b.tree.lastText? b.current with
  | some last =>
    obtain ⟨before, value, heq, -⟩ := Tree.report_extendText hgrow hreport hlast ""
    exact (BuildEvent.endsInText_iff.2 ⟨value, by simp [heq]⟩).symm
  | none =>
    have hnone := Tree.getLast?_told hgrow hreport hlast
    refine (Bool.eq_false_iff.2 fun hends => ?_).symm
    obtain ⟨value, hvalue⟩ := BuildEvent.endsInText_iff.1 hends
    exact hnone value hvalue

theorem addedNodes_eq (h : b.Reflects told) (event : BuildEvent) :
    b.addedNodes event = addedTo told event := by
  cases event with
  | characters text => simp only [addedNodes, addedTo, h.lastText?_isSome]
  | _ => rfl

theorem take (h : b.Reflects told) (hevent : b.refusal? event = none) :
    (b.take event).Reflects (told ++ [event]) where
  toTold := h.toTold.take hevent
  depth := by
    have hdepth := h.depth
    rw [List.countP_append, List.countP_append]
    cases event with
    | endElement =>
      obtain ⟨e, es, hopen⟩ : ∃ e es, b.openElements = e :: es := by
        cases hopen : b.openElements with
        | nil => simp [refusal?, hopen] at hevent
        | cons e es => exact ⟨e, es, rfl⟩
      simp [Builder.take, closes, opens, hopen] at hdepth ⊢
      omega
    | startElement name attributes bindings =>
      simp [Builder.take, closes, opens]
      omega
    | _ => simpa [Builder.take, closes, opens] using hdepth
  started := by simp [started_take_eq, h.started]
  ended := by simp [ended_take_eq, h.ended]
  size := by
    rw [size_take, h.size, h.addedNodes_eq, BuildEvent.nodeCount_concat]

theorem openElements_eq_nil_iff (h : b.Reflects told) :
    b.openElements = [] ↔ told.countP closes = told.countP opens := by
  rw [← h.depth, ← List.length_eq_zero_iff]
  omega

/-- An event is taken if those before it admit it and there are numbers for its nodes. -/
theorem refusal?_eq_none_iff (h : b.Reflects told) (hsize : nodeCount told ≤ Nat.pow 2 nodeIndexBits) :
    b.refusal? event = none ↔
      Admits told event ∧ nodeCount (told ++ [event]) ≤ Nat.pow 2 nodeIndexBits := by
  have hadd (what : String) : b.refusalToAdd what event = none ↔
      told.any ends = false ∧ nodeCount (told ++ [event]) ≤ Nat.pow 2 nodeIndexBits := by
    rw [refusalToAdd, h.ended, h.size, h.addedNodes_eq, ← BuildEvent.nodeCount_concat]
    by_cases hended : told.any ends = true <;> simp [hended]
  have hroom (hnodes : addedTo told event = 0) :
      nodeCount (told ++ [event]) ≤ Nat.pow 2 nodeIndexBits := by
    rwa [BuildEvent.nodeCount_concat, hnodes]
  cases event with
  | startDocument baseUri =>
    have hadmits : Admits told (.startDocument baseUri) ↔
        told.any begins = false ∧ nodeCount told ≤ 1 := by
      simp [Admits, forall_and, BuildEvent.nodeCount_le_one_iff]
    rw [and_iff_left (hroom rfl), refusal?, h.started, h.size, hadmits]
    by_cases hstarted : told.any begins = true <;> simp [hstarted]
  | endDocument =>
    rw [and_iff_left (hroom rfl), refusal?, Admits, ← h.openElements_eq_nil_iff]
    simp
  | endElement =>
    have hdepth := h.depth
    rw [and_iff_left (hroom rfl), refusal?, Admits]
    simp only [List.isEmpty_iff, h.openElements_eq_nil_iff, ite_eq_right_iff, reduceCtorEq, imp_false]
    omega
  | entity name publicId systemId notationName => exact iff_of_true rfl ⟨trivial, hroom rfl⟩
  | startElement name attributes bindings => exact hadd _
  | characters text => exact hadd _
  | comment text => exact hadd _
  | instruction target data => exact hadd _

theorem tellAll (h : b.Reflects told) (htold : b.tellAll events = .ok b') :
    b'.Reflects (told ++ events) := by
  induction events generalizing b told with
  | nil =>
    obtain rfl : b = b' := Except.ok.inj htold
    rwa [List.append_nil]
  | cons event events ih =>
    cases hrefusal : b.refusal? event with
    | some e => simp [tellAll_cons_of_some hrefusal] at htold
    | none =>
      rw [tellAll_cons_of_none hrefusal] at htold
      rw [List.append_cons]
      exact ih (h.take hrefusal) htold

/-- Events are taken one after the other if each is admitted by those before it and there are numbers
for all nodes. -/
theorem exists_tellAll_iff (h : b.Reflects told) (hsize : nodeCount told ≤ Nat.pow 2 nodeIndexBits)
    (events : List BuildEvent) :
    (∃ b', b.tellAll events = .ok b') ↔
      (∀ before event after, events = before ++ event :: after → Admits (told ++ before) event) ∧
        nodeCount (told ++ events) ≤ Nat.pow 2 nodeIndexBits := by
  induction events generalizing b told with
  | nil =>
    exact iff_of_true ⟨b, rfl⟩ ⟨by simp, by rwa [List.append_nil]⟩
  | cons event events ih =>
    rw [BuildEvent.forall_split_cons, List.append_nil]
    have hfirst : b.refusal? event = none ↔ _ := h.refusal?_eq_none_iff hsize
    cases hrefusal : b.refusal? event with
    | some e =>
      rw [tellAll_cons_of_some hrefusal]
      refine iff_of_false (by simp) ?_
      rintro ⟨⟨hadmits, -⟩, hroom⟩
      rw [List.append_cons] at hroom
      have hnone := hfirst.2 ⟨hadmits, (BuildEvent.nodeCount_le_append _ events).trans hroom⟩
      simp [hrefusal] at hnone
    | none =>
      obtain ⟨hadmits, hroom⟩ := hfirst.1 hrefusal
      have hrest := ih (h.take hrefusal) hroom
      simp only [List.append_assoc, List.singleton_append] at hrest
      rw [tellAll_cons_of_none hrefusal, hrest, and_iff_right hadmits]

end Reflects

/-- Events that are told to a builder of a document leave one behind if they are in the language and
there are numbers for all nodes. -/
theorem exists_document_iff :
    (∃ t, ((Builder.ofTree (Tree.ofRoot .document)).tellAll events >>= finish) = .ok t) ↔
      Accepted events ∧ nodeCount events ≤ Nat.pow 2 nodeIndexBits := by
  have htakes := reflects_ofTree.exists_tellAll_iff (by decide) events
  simp only [List.nil_append] at htakes
  rw [BuildEvent.accepted_iff_admits, and_right_comm, ← htakes]
  constructor
  · rintro ⟨t, hdocument⟩
    obtain ⟨b, htold, hopen, -⟩ := tellAll_finish_eq_ok_iff.1 hdocument
    exact ⟨⟨b, htold⟩, (reflects_ofTree.tellAll htold).openElements_eq_nil_iff.1 hopen⟩
  · rintro ⟨⟨b, htold⟩, hbalanced⟩
    have hopen := (reflects_ofTree.tellAll htold).openElements_eq_nil_iff.2 hbalanced
    exact ⟨b.tree, tellAll_finish_eq_ok_iff.2 ⟨b, htold, hopen, rfl⟩⟩

theorem size_document {t : Tree}
    (h : ((Builder.ofTree (Tree.ofRoot .document)).tellAll events >>= finish) = .ok t) :
    t.size = nodeCount events := by
  obtain ⟨b, htold, -, rfl⟩ := tellAll_finish_eq_ok_iff.1 h
  exact (reflects_ofTree.tellAll htold).size

theorem malformed_of_refusalToAdd {what : String} {e : TreeError}
    (h : b.refusalToAdd what event = some e) : ∃ text, e = .malformed text := by
  unfold refusalToAdd at h
  split at h
  · exact ⟨_, (Option.some_inj.1 h).symm⟩
  · split at h
    · cases h
    · exact ⟨_, (Option.some_inj.1 h).symm⟩

theorem malformed_of_refusal? {e : TreeError} (h : b.refusal? event = some e) :
    ∃ text, e = .malformed text := by
  cases event with
  | startDocument _ | endDocument | endElement =>
    simp only [refusal?] at h
    split at h <;> cases h
    exact ⟨_, rfl⟩
  | entity _ _ _ _ => cases h
  | startElement _ _ _ | characters _ | comment _ | instruction _ _ => exact malformed_of_refusalToAdd h

theorem malformed_of_tellAll {e : TreeError} (h : b.tellAll events = .error e) :
    ∃ text, e = .malformed text := by
  induction events generalizing b with
  | nil => simp [tellAll, pure, Except.pure] at h
  | cons event events ih =>
    cases hrefusal : b.refusal? event with
    | none => exact ih (tellAll_cons_of_none hrefusal _ ▸ h)
    | some e' =>
      rw [tellAll_cons_of_some hrefusal] at h
      exact Except.error.inj h ▸ malformed_of_refusal? hrefusal

theorem malformed_of_tellAll_finish {e : TreeError} (h : (b.tellAll events >>= finish) = .error e) :
    ∃ text, e = .malformed text := by
  cases htold : b.tellAll events with
  | error e' =>
    rw [htold] at h
    exact Except.error.inj h ▸ malformed_of_tellAll htold
  | ok b' =>
    rw [htold] at h
    change b'.finish = .error e at h
    unfold finish at h
    split at h
    · simp at h
    · exact ⟨_, (Except.error.inj h).symm⟩

end Builder

namespace Model

open BuildEvent (Accepted nodeCount)

theorem build_ofEvents (f : Forest) (id : ModelId) (systemId : Option String) (r : Option ManagerRef)
    (supplied : Feed → Growth → Run) (events : List BuildEvent) :
    (f.build id systemId ((Feed.ofEvents events).runWith r supplied)).1 =
      ((Builder.ofTree (Tree.ofRoot .document)).tellAll events >>= Builder.finish).map
        fun tree => { id, systemId, tree } := by
  have hran := Feed.runWith_ofEvents_finish r supplied events (scratch f)
  change _ = (Builder.ofTree (Tree.ofRoot .document)).tellAll events >>= Builder.finish at hran
  rw [← hran, Forest.build, scratch]
  dsimp only
  split
  next hresult => rw [hresult]; rfl
  next hresult => rw [hresult]; rfl

/-- Recorded events make a document just if they are in the language and there are numbers for all
nodes; the document has those nodes. Every failure is about the events. -/
theorem build_iff_accepted (f : Forest) (id : ModelId) (systemId : Option String)
    (r : Option ManagerRef) (supplied : Feed → Growth → Run) (events : List BuildEvent) :
    ((∃ m, (f.build id systemId ((Feed.ofEvents events).runWith r supplied)).1 = .ok m) ↔
      Accepted events ∧ nodeCount events ≤ Nat.pow 2 nodeIndexBits) ∧
    (∀ m, (f.build id systemId ((Feed.ofEvents events).runWith r supplied)).1 = .ok m →
      m.size = nodeCount events) ∧
    ∀ e, (f.build id systemId ((Feed.ofEvents events).runWith r supplied)).1 = .error e →
      ∃ text, e = .malformed text := by
  rw [build_ofEvents, ← Builder.exists_document_iff]
  generalize hdocument :
    ((Builder.ofTree (Tree.ofRoot .document)).tellAll events >>= Builder.finish) = result
  cases result with
  | error e =>
    obtain ⟨text, rfl⟩ := Builder.malformed_of_tellAll_finish hdocument
    simp [Except.map]
  | ok t =>
    have hsize := Builder.size_document hdocument
    simp [Except.map, size, hsize]

/-- A document with what may stand before its start and behind its end. -/
def bounded : List BuildEvent :=
  [.namedEntity "pic" "pic.png", .characters "", .startDocument none,
    .startElement (.plain "d") [.identifying "k" "v"] [], .characters "a", .characters "b",
    .endElement, .endDocument, .namedEntity "map" "map.png"]

/-- Behind the end of a document there can be no text, not even one without characters. -/
theorem build_iff_accepted_bounded :
    ∃ m, build ⟨0⟩ none (.ofEvents bounded) = .ok m ∧ Accepted bounded ∧
      m.size = nodeCount bounded ∧ nodeCount bounded = 4 ∧
      build ⟨0⟩ none (.ofEvents (bounded ++ [.characters ""])) =
        .error (.malformed "characters after end of document") ∧
      ¬ Accepted (bounded ++ [.characters ""]) := by
  obtain ⟨hmakes, hnodes, -⟩ :=
    build_iff_accepted default ⟨0⟩ none none (fun _ g => (.ok (), g)) bounded
  obtain ⟨m, hm⟩ : ∃ m, build ⟨0⟩ none (.ofEvents bounded) = .ok m := ⟨_, rfl⟩
  have herror : build ⟨0⟩ none (.ofEvents (bounded ++ [.characters ""])) =
      .error (.malformed "characters after end of document") := rfl
  refine ⟨m, hm, (hmakes.1 ⟨m, hm⟩).1, hnodes m hm, by decide, herror, fun haccepted => ?_⟩
  obtain ⟨m', hm'⟩ :=
    (build_iff_accepted default ⟨0⟩ none none (fun _ g => (.ok (), g)) _).1.2 ⟨haccepted, by decide⟩
  have hboth : build ⟨0⟩ none (.ofEvents (bounded ++ [.characters ""])) = .ok m' := hm'
  simp [herror] at hboth

end Model

end Grove
