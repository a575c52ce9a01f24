/-
What was reported can be read off the tree. The events that a builder took, in normal form,
are what a walk tells of its tree, but for the ends of the elements that are open
(`Builder.Told`); a feed is to the tree the events of it that were taken
(`Feed.runWith_takes`), since an event that is refused leaves nothing behind unless the node
numbers run out.

The normal form of events leaves out those that make no node and end none, and takes
adjacent texts together.
-/
import Grove.Proofs.Forest.Reply
import Grove.Proofs.Tree.Reachable
import Grove.Proofs.Tree.Report

namespace Grove

namespace BuildEvent

/-- Whether an event makes nodes or ends an element. -/
def shapes : BuildEvent → Bool
  | .startDocument _ | .endDocument | .entity _ _ _ _ => false
  | .characters text => !text.isEmpty
  | .startElement _ _ _ | .endElement | .comment _ | .instruction _ _ => true

/-- An event with its attributes as a tree keeps them. -/
def kept : BuildEvent → BuildEvent
  | .startElement name attributes bindings =>
    .startElement name (attributes.map AttributeEvent.kept) bindings
  | event => event

/-- Events with a text put in front, which joins a text that is there. -/
def joinText (text : String) : List BuildEvent → List BuildEvent
  | .characters more :: events => .characters (text ++ more) :: events
  | events => .characters text :: events

/-- Events with adjacent texts taken together. -/
def mergeTexts : List BuildEvent → List BuildEvent
  | [] => []
  | .characters text :: events => joinText text (mergeTexts events)
  | event :: events => event :: mergeTexts events

/-- The normal form of events. -/
def normalForm (events : List BuildEvent) : List BuildEvent :=
  mergeTexts ((events.filter shapes).map kept)

variable {event : BuildEvent} {events before : List BuildEvent} {text value : String}

/-- Events with a text put behind, which joins a text that is there. -/
def appendText : List BuildEvent → String → List BuildEvent
  | [], text => [.characters text]
  | [.characters last], text => [.characters (last ++ text)]
  | event :: events, text => event :: appendText events text

/-! ## Events at the end -/

theorem appendText_cons (h : events ≠ []) (event : BuildEvent) (text : String) :
    appendText (event :: events) text = event :: appendText events text := by
  cases events with
  | nil => exact absurd rfl h
  | cons _ _ => cases event <;> rfl

/-- A text joins the text before it. -/
theorem appendText_join (before : List BuildEvent) (value text : String) :
    appendText (before ++ [.characters value]) text = before ++ [.characters (value ++ text)] := by
  induction before with
  | nil => rfl
  | cons event before ih => rw [List.cons_append, appendText_cons (by simp), ih, List.cons_append]

/-- A text joins nothing but a text. -/
theorem appendText_other (h : ∀ value, events.getLast? ≠ some (.characters value)) (text : String) :
    appendText events text = events ++ [.characters text] := by
  induction events with
  | nil => rfl
  | cons event events ih =>
    by_cases hnil : events = []
    · subst hnil
      cases event with
      | characters value => exact absurd rfl (h value)
      | _ => rfl
    · rw [appendText_cons hnil, ih fun value hvalue => h value (by simp [List.getLast?_cons, hvalue]),
        List.cons_append]

theorem joinText_append (h : events ≠ []) (more : List BuildEvent) :
    joinText text (events ++ more) = joinText text events ++ more := by
  cases events with
  | nil => exact absurd rfl h
  | cons event events => cases event <;> rfl

theorem joinText_appendText (events : List BuildEvent) (front text : String) :
    joinText front (appendText events text) = appendText (joinText front events) text := by
  match events with
  | [] => rfl
  | [event] =>
    cases event with
    | characters value => simp [appendText, joinText, String.append_assoc]
    | _ => rfl
  | event :: second :: events => cases event <;> rfl

theorem mergeTexts_concat_text (events : List BuildEvent) (text : String) :
    mergeTexts (events ++ [.characters text]) = appendText (mergeTexts events) text := by
  induction events with
  | nil => rfl
  | cons first events ih =>
    cases first with
    | characters front => simp [mergeTexts, ih, joinText_appendText]
    | _ => cases hrest : mergeTexts events <;> simp [mergeTexts, ih, hrest, appendText]

/-- An event that is no text joins nothing. -/
theorem mergeTexts_concat (h : ∀ text, event ≠ .characters text) (events : List BuildEvent) :
    mergeTexts (events ++ [event]) = mergeTexts events ++ [event] := by
  induction events with
  | nil =>
    cases event with
    | characters text => exact absurd rfl (h text)
    | _ => rfl
  | cons first events ih =>
    cases first with
    | characters front =>
      simp only [List.cons_append, mergeTexts, ih]
      cases hrest : mergeTexts events with
      | nil => cases event <;> simp [joinText] at h ⊢
      | cons _ _ => exact joinText_append (by simp) _
    | _ => simp [mergeTexts, ih]

theorem normalForm_of_not_shapes (h : event.shapes = false) (events : List BuildEvent) :
    normalForm (events ++ [event]) = normalForm events := by
  simp [normalForm, h]

theorem normalForm_concat (h : event.shapes = true) (htext : ∀ text, event ≠ .characters text)
    (events : List BuildEvent) : normalForm (events ++ [event]) = normalForm events ++ [event.kept] := by
  have hkept : ∀ text, event.kept ≠ .characters text := by
    cases event <;> simp [kept] at htext ⊢
  simp [normalForm, h, mergeTexts_concat hkept]

theorem normalForm_concat_text (h : text.isEmpty = false) (events : List BuildEvent) :
    normalForm (events ++ [.characters text]) = appendText (normalForm events) text := by
  simp [normalForm, shapes, h, kept, mergeTexts_concat_text]

end BuildEvent

/-! ## What a builder has been told -/

namespace Tree

variable {t : Tree} {c : Nat} {rest path : List Nat}

/-- Only the nodes matter. -/
theorem WellFormed.report_of_nodes {t' : Tree} (h : t.WellFormed) (heq : t'.nodes = t.nodes) :
    t'.report 0 = t.report 0 :=
  report_congr h (h.of_nodes heq) h.order (fun y _ _ => by rw [node?, node?, heq]) 0 (by simp)

end Tree

namespace Builder

open BuildEvent (normalForm appendText)

variable {b b' : Builder} {told events : List BuildEvent} {event : BuildEvent}

/-- The events that a builder took, in normal form, can be read off its tree, but for the ends
of the elements that are open. -/
structure Told (told : List BuildEvent) (b : Builder) : Prop where
  sound : b.Sound
  report : b.tree.report 0 = normalForm told ++ .replicate b.openElements.length .endElement

theorem told_ofTree : (Builder.ofTree (Tree.ofRoot .document)).Told [] where
  sound := sound_ofTree (Tree.wellFormed_ofRoot rfl)
  report := by
    have hwf : (Tree.ofRoot .document).WellFormed := Tree.wellFormed_ofRoot rfl
    show (Tree.ofRoot .document).report 0 = []
    rw [hwf.report_eq]
    rfl

section Take

variable {t : Tree} {c : Nat} {rest : List Nat} (h : t.Growing (c :: rest))
  (htold : t.report 0 = normalForm told ++ .replicate rest.length .endElement)
include h htold

theorem report_addText (text : String) : (addText t c text).report 0 =
    normalForm (told ++ [.characters text]) ++ .replicate rest.length .endElement := by
  have hgrown := growing_addText h text
  unfold addText at hgrown ⊢
  by_cases hempty : text.isEmpty = true
  · rw [if_pos hempty, htold, BuildEvent.normalForm_of_not_shapes (by simp [BuildEvent.shapes, hempty])]
  · rw [if_neg hempty] at hgrown ⊢
    rw [BuildEvent.normalForm_concat_text (by simpa using hempty)]
    cases hlast : t.lastText? c with
    | some last =>
      obtain ⟨before, value, heq, hreport⟩ := Tree.report_extendText h htold hlast text
      rw [heq, BuildEvent.appendText_join]
      exact hreport
    | none =>
      rw [hlast] at hgrown
      rw [BuildEvent.appendText_other (Tree.getLast?_told h htold hlast)]
      have hn : Node.Bare { kind := .text, value := some text } := Tree.bare_of_empty _ rfl rfl rfl
      have hreport := Tree.report_addNode h hgrown.wellFormed hn rfl htold
      simpa [Tree.opening, Tree.closing, Tree.kindOf?_addNode, Tree.valueOf_addNode, Node.valueText]
        using hreport

theorem report_addComment (text : String) :
    (t.addNode c { kind := .comment, value := some text }).report 0 =
      normalForm (told ++ [.comment text]) ++ .replicate rest.length .endElement := by
  have hn : Node.Bare { kind := .comment, value := some text } := Tree.bare_of_empty _ rfl rfl rfl
  have hgrown := growing_addLeaf h hn rfl rfl (by simp)
  have hreport := Tree.report_addNode h hgrown.wellFormed hn rfl htold
  rw [BuildEvent.normalForm_concat rfl (by simp)]
  simpa [Tree.opening, Tree.closing, Tree.kindOf?_addNode, Tree.valueOf_addNode, Node.valueText,
    BuildEvent.kept] using hreport

theorem report_addInstruction (target data : String) :
    (t.addNode c
        { kind := .instruction, name := some (QName.plain target), value := some data }).report 0 =
      normalForm (told ++ [.instruction target data]) ++ .replicate rest.length .endElement := by
  have hn : Node.Bare { kind := .instruction, name := some (QName.plain target), value := some data } :=
    Tree.bare_of_empty _ rfl rfl rfl
  have hgrown := growing_addLeaf h hn rfl rfl (by simp)
  have hreport := Tree.report_addNode h hgrown.wellFormed hn rfl htold
  rw [BuildEvent.normalForm_concat rfl (by simp)]
  simpa [Tree.opening, Tree.closing, Tree.kindOf?_addNode, Tree.valueOf_addNode, Node.valueText,
    Tree.writtenName_addNode, QName.plain, BuildEvent.kept] using hreport

end Take

theorem Told.take (h : b.Told told) (hevent : b.refusal? event = none) :
    (b.take event).Told (told ++ [event]) := by
  refine ⟨h.sound.take event, ?_⟩
  obtain ⟨rest, hpath⟩ := b.exists_path
  have hgrow : b.tree.Growing (b.current :: rest) := hpath ▸ h.sound
  have hlength : b.openElements.length = rest.length := by simpa using congrArg List.length hpath
  have htold := h.report
  rw [hlength] at htold
  cases event with
  | startDocument baseUri =>
    have hsame : ({ b.tree with baseUri } : Tree).report 0 = b.tree.report 0 :=
      hgrow.wellFormed.report_of_nodes rfl
    rw [BuildEvent.normalForm_of_not_shapes rfl]
    exact hsame.trans h.report
  | endDocument =>
    rw [BuildEvent.normalForm_of_not_shapes rfl]
    exact h.report
  | startElement name attributes bindings =>
    rw [BuildEvent.normalForm_concat rfl (by simp)]
    have hreport := report_addElement hgrow name attributes bindings htold
    rw [← hlength] at hreport
    exact hreport
  | endElement =>
    rw [BuildEvent.normalForm_concat rfl (by simp)]
    obtain ⟨e, es, hopen⟩ : ∃ e es, b.openElements = e :: es := by
      cases hopen : b.openElements with
      | nil => simp [refusal?, hopen] at hevent
      | cons e es => exact ⟨e, es, rfl⟩
    have hreport := h.report
    rw [hopen] at hreport
    simpa [Builder.take, hopen, BuildEvent.kept, List.replicate_succ] using hreport
  | characters text => exact hlength ▸ report_addText hgrow htold text
  | comment text => exact hlength ▸ report_addComment hgrow htold text
  | instruction target data => exact hlength ▸ report_addInstruction hgrow htold target data
  | entity name publicId systemId notationName =>
    have hsame : (declareEntity b.tree name publicId systemId notationName).report 0 =
        b.tree.report 0 := by
      refine hgrow.wellFormed.report_of_nodes ?_
      unfold declareEntity
      split <;> rfl
    rw [BuildEvent.normalForm_of_not_shapes rfl]
    exact hsame.trans h.report

/-! ## Events that are taken, and events that are refused -/

/-- A builder takes events one after the other. -/
def Takes : Builder → List BuildEvent → Builder → Prop
  | b, [], b' => b = b'
  | b, event :: events, b' => b.refusal? event = none ∧ (b.take event).Takes events b'

theorem Told.takes (h : b.Told told) (htakes : b.Takes events b') : b'.Told (told ++ events) := by
  induction events generalizing b told with
  | nil =>
    obtain rfl : b = b' := htakes
    rwa [List.append_nil]
  | cons event events ih =>
    obtain ⟨hevent, hrest⟩ := htakes
    simpa using ih (h.take hevent) hrest

theorem size_addElement (t : Tree) (p : Nat) (name : QName) (attributes : List AttributeEvent)
    (bindings : List BindingEvent) : (addElement t p name attributes bindings).size =
      t.size + 1 + attributes.length + bindings.length := by
  have hattribute : ∀ (e : Nat) (t : Tree) (a : AttributeEvent),
      (addAttribute e t a).size = t.size + 1 := by
    intro e t a
    unfold addAttribute
    dsimp only
    split <;> exact Tree.size_addNode ..
  have hattributes : ∀ (e : Nat) (t : Tree), (attributes.foldl (addAttribute e) t).size =
      t.size + attributes.length := by
    induction attributes with
    | nil => simp
    | cons a attributes ih => intro e t; simp [ih, hattribute]; omega
  have hbindings : ∀ (e : Nat) (t : Tree), (bindings.foldl (addBinding e) t).size =
      t.size + bindings.length := by
    induction bindings with
    | nil => simp
    | cons n bindings ih => intro e t; simp [ih, addBinding]; omega
  simp [addElement, hattributes, hbindings]

theorem size_le_addText (t : Tree) (p : Nat) (text : String) : t.size ≤ (addText t p text).size := by
  unfold addText
  split
  · exact Nat.le_refl _
  · split <;> simp

theorem size_le_take (b : Builder) (event : BuildEvent) : b.tree.size ≤ (b.take event).tree.size := by
  cases event with
  | startElement name attributes bindings => simp only [take, size_addElement]; omega
  | characters text => exact size_le_addText ..
  | comment text => simp [take]
  | instruction target data => simp [take]
  | entity name publicId systemId notationName =>
    simp only [take, declareEntity]
    split <;> exact Nat.le_refl _
  | _ => exact Nat.le_refl _

theorem size_le_refuse (b : Builder) (event : BuildEvent) :
    b.tree.size ≤ (b.refuse event).tree.size := by
  cases event with
  | startElement name attributes bindings =>
    simp only [refuse]
    split
    · exact Nat.le_refl _
    · simp only [size_addElement]; omega
  | _ => exact Nat.le_refl _

/-- An event that is refused leaves nothing behind, unless the node numbers run out. -/
theorem refuse_eq_self {e : TreeError} (h : b.refusal? event = some e)
    (hsize : (b.refuse event).tree.size < Nat.pow 2 nodeIndexBits) : b.refuse event = b := by
  cases event with
  | startElement name attributes bindings =>
    simp only [refuse] at hsize ⊢
    split
    · rfl
    next hroom =>
      rw [if_neg hroom] at hsize
      simp only [refusal?, refusalToAdd] at h
      simp only [size_addElement, List.length_take] at hsize
      have hopen : b.ended = false ∧ Nat.pow 2 nodeIndexBits - b.tree.size ≠ 0 := by
        simpa using hroom
      rw [if_neg (by simp [hopen.1])] at h
      -- the element would have taken all numbers that were left
      by_cases hfits : b.tree.size + b.addedNodes (.startElement name attributes bindings) ≤
          Nat.pow 2 nodeIndexBits
      · rw [if_pos hfits] at h
        simp at h
      · simp only [addedNodes] at hfits
        omega
  | _ => rfl

/-- A builder takes some events one after the other, and refuses others in between. -/
inductive Hears : Builder → List BuildEvent → Builder → Prop
  | nil {b : Builder} : Hears b [] b
  | taken {b b' : Builder} {event : BuildEvent} {events : List BuildEvent} :
      b.refusal? event = none → Hears (b.take event) events b' → Hears b (event :: events) b'
  | refused {b b' : Builder} {event : BuildEvent} {events : List BuildEvent} {e : TreeError} :
      b.refusal? event = some e → Hears (b.refuse event) events b' → Hears b events b'

theorem Hears.size_le (h : Hears b events b') : b.tree.size ≤ b'.tree.size := by
  induction h with
  | nil => exact Nat.le_refl _
  | taken _ _ ih => exact (size_le_take ..).trans ih
  | refused _ _ ih => exact (size_le_refuse ..).trans ih

/-- Unless the node numbers run out, only the events that are taken matter. -/
theorem Hears.takes (h : Hears b events b') (hsize : b'.tree.size < Nat.pow 2 nodeIndexBits) :
    b.Takes events b' := by
  induction h with
  | nil => rfl
  | taken hevent _ ih => exact ⟨hevent, ih hsize⟩
  | refused hevent hrest ih =>
    have hsame := refuse_eq_self hevent (Nat.lt_of_le_of_lt hrest.size_le hsize)
    exact hsame ▸ ih hsize

end Builder

namespace Feed

open Builder (Takes)

variable {r : Option ManagerRef} {supplied : Feed → Growth → Run}

/-- The events of a feed that are taken, in order. -/
def accepted (r : Option ManagerRef) (supplied : Feed → Growth → Run) :
    Feed → Growth → List BuildEvent
  | .finish _, _ => []
  | .report event next, g =>
    match g.builder.refusal? event with
    | none =>
      event :: accepted r supplied (next (.ok ())) { g with builder := g.builder.take event }
    | some e => accepted r supplied (next (.error e)) { g with builder := g.builder.refuse event }
  | .request source unique next, g =>
    let (answer, after) := reply r supplied source unique g
    accepted r supplied (next answer) after
  termination_by structural feed => feed

theorem runWith_hears (r : Option ManagerRef) (supplied : Feed → Growth → Run) :
    ∀ (feed : Feed) (g : Growth),
      g.builder.Hears (feed.accepted r supplied g) (feed.runWith r supplied g).2.builder
  | .finish _, _ => .nil
  | .report event next, g => by
    rw [runWith, accepted]
    cases hevent : g.builder.refusal? event with
    | none =>
      exact .taken hevent
        (runWith_hears r supplied (next (.ok ())) { g with builder := g.builder.take event })
    | some e =>
      exact .refused hevent
        (runWith_hears r supplied (next (.error e)) { g with builder := g.builder.refuse event })
  | .request source unique next, g => by
    have hbuilder : (reply r supplied source unique g).2.builder = g.builder :=
      builder_reply source unique g
    rw [runWith_request, accepted, ← hbuilder]
    exact runWith_hears r supplied (next _) _
  termination_by structural feed => feed

/-- To the tree, a feed is the events of it that are taken. -/
theorem runWith_takes (r : Option ManagerRef) (supplied : Feed → Growth → Run) (feed : Feed)
    (g : Growth) (hsize : (feed.runWith r supplied g).2.builder.tree.size < Nat.pow 2 nodeIndexBits) :
    g.builder.Takes (feed.accepted r supplied g) (feed.runWith r supplied g).2.builder :=
  (feed.runWith_hears r supplied g).takes hsize

/-- A feed of events that are all taken reports them all. -/
theorem runWith_ofEventsThen {last : Except TreeError Unit} {events : List BuildEvent} {g : Growth}
    {b : Builder} (h : g.builder.Takes events b) :
    (ofEventsThen last events).runWith r supplied g = (last, { g with builder := b }) := by
  induction events generalizing g with
  | nil =>
    obtain rfl : g.builder = b := h
    rfl
  | cons event events ih =>
    obtain ⟨hevent, hrest⟩ := h
    rw [ofEventsThen, runWith, hevent]
    exact ih hrest

end Feed

/-! ## Documents -/

namespace Model

variable {f : Forest} {id : ModelId} {systemId : Option String} {r : Option ManagerRef}
  {supplied : Feed → Growth → Run} {feed : Feed} {m : Model}

/-- The state in which a feed starts to build a document. -/
def scratch (f : Forest) : Growth := { forest := f, builder := .ofTree (Tree.ofRoot .document) }

/-- What a walk through all children tells of a document is what was accepted of the feed it was
built from, in normal form; and what was refused has no effect, so the accepted events alone
build the same document. -/
theorem events_recovered (h : (f.build id systemId (feed.runWith r supplied)).1 = .ok m)
    (hsize : m.size < Nat.pow 2 nodeIndexBits) :
    m.tree.report 0 = BuildEvent.normalForm (feed.accepted r supplied (scratch f)) ∧
    (∀ i, m.tree.laterChildren i = m.tree.childrenOf i) ∧
    (f.build id systemId
      ((Feed.ofEvents (feed.accepted r supplied (scratch f))).runWith r supplied)).1 = .ok m := by
  obtain ⟨t, hfinish, rfl⟩ := Forest.build_eq_ok h
  change (feed.runWith r supplied (scratch f)).2.builder.finish = .ok t at hfinish
  obtain ⟨hopen, rfl⟩ := Builder.finish_eq_ok_iff.1 hfinish
  have htakes := feed.runWith_takes r supplied (scratch f) hsize
  have htold := Builder.told_ofTree.takes htakes
  refine ⟨by simpa [hopen] using htold.report, htold.sound.wellFormed.laterChildren_eq, ?_⟩
  have hran : (Feed.ofEvents (feed.accepted r supplied (scratch f))).runWith r supplied (scratch f) =
      (.ok (), { scratch f with builder := (feed.runWith r supplied (scratch f)).2.builder }) :=
    Feed.runWith_ofEventsThen htakes
  unfold Forest.build
  rw [← scratch, hran]
  exact congrArg (Except.map fun tree => ({ id, systemId, tree } : Model)) hfinish

/-- A feed that does not mind refusals: it ends an element too many, starts its document late,
puts an entity between texts, and goes on after the end. -/
def untidy : Feed :=
  .regardless (.ok ()) [.endElement, .characters "", .comment "c", .startDocument none,
    .startElement (.plain "e") [.named "xml:id" "k", .named "a" "v"] [.of "p" "u"],
    .characters "x", .namedEntity "pic" "pic.png", .characters "", .characters "y",
    .instruction "t" "d", .characters "z", .endDocument, .endElement, .endDocument, .comment "late"]

theorem events_recovered_untidy : ∃ m : Model, Model.build ⟨0⟩ none untidy = .ok m ∧ m.size = 9 ∧
    m.tree.report 0 = [.comment "c",
      .startElement (.plain "e") [.identifying "xml:id" "k", .named "a" "v"] [.of "p" "u"],
      .characters "xy", .instruction "t" "d", .characters "z", .endElement] := by
  obtain ⟨m, hbuild, hsize⟩ : ∃ m : Model, Model.build ⟨0⟩ none untidy = .ok m ∧ m.size = 9 :=
    ⟨_, rfl, rfl⟩
  have hrecovered := events_recovered hbuild (by rw [hsize]; decide)
  exact ⟨m, hbuild, hsize, hrecovered.1.trans rfl⟩

end Model

end Grove
