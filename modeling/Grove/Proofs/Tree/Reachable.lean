/-
The models there can be: documents built by a feed, and fragments to which batches
have been added, whether the batches succeeded or failed. A feed is any program that
reports events, also one that goes on after a refusal or asks for other models in
between; to the tree it is a sequence of builder steps (`Feed.runWith_steps`).

All such models are well-formed, and a node with everything below it is an interval
of numbers; a batch that fails leaves the model exactly as it was.
-/
import Grove.Forest.Create
import Grove.Proofs.Tree.Order
import Grove.Proofs.Tree.Undo
import Grove.Tree.Content

namespace Grove

theorem Feed.answerRequest_builder (g : Growth) (creation : Creation × Forest) :
    (answerRequest g creation).2.builder = g.builder := rfl

theorem Feed.runWith_steps (r : Option ManagerRef) (supplied : Feed → Growth → Run) :
    ∀ (feed : Feed) (g : Growth),
      Relation.ReflTransGen Builder.Step g.builder (feed.runWith r supplied g).2.builder
  | .finish _, g => .refl
  | .report event next, g => by
    rw [runWith]
    split
    next h =>
      have hnext := runWith_steps r supplied (next (.ok ()))
        { g with builder := g.builder.take event }
      exact hnext.head (.taken h)
    next e h =>
      have hnext := runWith_steps r supplied (next (.error e))
        { g with builder := g.builder.refuse event }
      exact hnext.head (.refused h)
  | .request (.make systemId feed _) unique next, g => by
    cases r with
    | none =>
      rw [runWith]
      exact runWith_steps none supplied (next _) g
    | some r =>
      rw [runWith]
      generalize hanswered : answerRequest g _ = answered
      have hbuilder : answered.2.builder = g.builder :=
        hanswered ▸ answerRequest_builder g _
      rw [← hbuilder]
      exact runWith_steps (some r) supplied (next answered.1) answered.2
  termination_by structural feed => feed

/-! ## Growing from a root -/

namespace Tree

theorem wellFormed_ofRoot {kind : NodeKind} (hroot : kind.isRoot = true) :
    (ofRoot kind).WellFormed := by
  have hnode : ∀ i, (ofRoot kind).node? i = if i = 0 then some { kind } else none := by
    intro i
    cases i <;> simp [ofRoot, node?]
  have hlisted : ∀ i place, (ofRoot kind).listed i place = [] := by
    intro i place
    rw [listed, hnode]
    split
    · cases place <;> rfl
    · rfl
  have hparent : ∀ i, (ofRoot kind).parentOf i = none := by
    intro i
    rw [parentOf, hnode]
    split <;> rfl
  refine ⟨⟨kind, by simp [kindOf?, hnode], hroot, hparent 0⟩, ?_, ?_, ?_, ?_, ?_, ?_⟩
  · intro i h0 hi
    rw [size_ofRoot] at hi
    omega
  · intro p place i
    simp [hlisted, hparent]
  · intro p place hne
    exact absurd (hlisted p place) hne
  · rw [size_ofRoot, Spans.singleton_iff]
    simp [members, hlisted, Spans.nil]
  · intro i hi
    rw [IsText, kindOf?, hnode] at hi
    split at hi
    · obtain rfl : kind = .text := by simpa using hi
      simp [NodeKind.isRoot] at hroot
    · simp at hi
  · intro p
    simp [← listed_children, hlisted]

end Tree

theorem Builder.sound_ofTree {t : Tree} (h : t.WellFormed) : (Builder.ofTree t).Sound :=
  ⟨h, rfl, by simp [ofTree]⟩

/-- Only the nodes matter. -/
theorem Tree.WellFormed.of_nodes {t t' : Tree} (h : t.WellFormed) (heq : t'.nodes = t.nodes) :
    t'.WellFormed :=
  (Growing.of_nodes (Builder.sound_ofTree h) heq).wellFormed

theorem Builder.above_ofTree {t : Tree} (h : t.WellFormed) : Above t (Builder.ofTree t) :=
  ⟨.refl h, by simp [ofTree]⟩

theorem Builder.finish_eq_ok_iff {b : Builder} {t : Tree} :
    b.finish = .ok t ↔ b.openElements = [] ∧ t = b.tree := by
  unfold finish
  split
  next hopen => simp [hopen, eq_comm]
  next hopen => simp [hopen]

namespace Model

variable {m : Model}

theorem wellFormed_build {f : Forest} {id : ModelId} {systemId : Option String}
    {r : Option ManagerRef} {supplied : Feed → Growth → Run} {feed : Feed}
    (h : (f.build id systemId (feed.runWith r supplied)).1 = .ok m) : m.tree.WellFormed := by
  have hsteps := feed.runWith_steps r supplied
    { forest := f, builder := .ofTree (Tree.ofRoot .document) }
  have hsound := (Builder.sound_ofTree (Tree.wellFormed_ofRoot rfl)).steps hsteps
  obtain ⟨t, hfinish, rfl⟩ := Forest.build_eq_ok h
  rw [(Builder.finish_eq_ok_iff.1 hfinish).2]
  exact hsound.wellFormed

/-- The state in which a batch starts to add to a fragment. -/
def reopened (m : Model) : Growth := { forest := default, builder := .ofTree m.tree }

/-- A batch for a fragment is kept as the builder has taken it, or rolled back. -/
theorem append_of_fragment (hfragment : m.isFragment = true) (feed : Feed) :
    m.append feed =
        (.ok (), { m with tree := (feed.runAlone m.reopened).2.builder.tree.dropIndex }) ∨
      ∃ e, m.append feed = (.error e,
        { m with tree := (feed.runAlone m.reopened).2.builder.tree.rollback m.tree.checkpoint }) := by
  unfold append
  rw [if_pos hfragment, ← reopened]
  dsimp only
  split
  next t hresult =>
    have hfinish : (feed.runAlone m.reopened).2.builder.finish = .ok t := by
      cases hran : (feed.runAlone m.reopened).1 with
      | error e => simp [hran, Except.bind] at hresult
      | ok _ => simpa [hran, Except.bind] using hresult
    rw [(Builder.finish_eq_ok_iff.1 hfinish).2]
    exact .inl rfl
  next e _ => exact .inr ⟨e, rfl⟩

/-- What a batch comes to: it is refused, or a builder takes what it can of it and the
result is kept or rolled back. -/
theorem append_cases (m : Model) (feed : Feed) :
    (m.isFragment = false ∧ ∃ e, m.append feed = (.error e, m)) ∨
    ∃ b, Relation.ReflTransGen Builder.Step (.ofTree m.tree) b ∧
      (m.append feed = (.ok (), { m with tree := b.tree.dropIndex }) ∨
        ∃ e, m.append feed =
          (.error e, { m with tree := b.tree.rollback m.tree.checkpoint })) := by
  by_cases hfragment : m.isFragment = true
  · have hsteps := feed.runWith_steps none (fun _ g => (.ok (), g)) m.reopened
    exact .inr ⟨_, hsteps, append_of_fragment hfragment feed⟩
  · exact .inl ⟨by simpa using hfragment, by simp [append, hfragment]⟩

/-- A batch that fails leaves the model as it was. -/
theorem append_of_error {m' : Model} {feed : Feed} {e : TreeError} (hwf : m.tree.WellFormed)
    (h : m.append feed = (.error e, m')) : m' = m := by
  rcases append_cases m feed with ⟨-, e', heq⟩ | ⟨b, hsteps, heq | ⟨e', heq⟩⟩
  · rw [heq] at h
    exact (congrArg Prod.snd h).symm
  · simp [heq] at h
  · have hrollback := ((Builder.above_ofTree hwf).steps hsteps).grown.rollback_checkpoint
    rw [heq, hrollback] at h
    exact (congrArg Prod.snd h).symm

theorem wellFormed_append (hwf : m.tree.WellFormed) (feed : Feed) :
    (m.append feed).2.tree.WellFormed := by
  rcases append_cases m feed with ⟨-, e, heq⟩ | ⟨b, hsteps, heq | ⟨e, heq⟩⟩
  · rw [heq]
    exact hwf
  · rw [heq]
    exact ((Builder.sound_ofTree hwf).steps hsteps).wellFormed.of_nodes rfl
  · have hsame := append_of_error hwf heq
    rw [heq, hsame]
    exact hwf

/-- The models there can be. Looking an identifier up is an operation too, since the
identifiers are kept from then on. -/
inductive Reachable : Model → Prop
  | built {f : Forest} {id : ModelId} {systemId : Option String} {r : Option ManagerRef}
      {supplied : Feed → Growth → Run} {feed : Feed} {m : Model} :
      (f.build id systemId (feed.runWith r supplied)).1 = .ok m → Reachable m
  | fragment (id : ModelId) : Reachable (emptyFragment id)
  | append {m : Model} (feed : Feed) : Reachable m → Reachable (m.append feed).2
  | lookedUp {m : Model} : Reachable m → Reachable { m with tree := m.tree.keepIndex }

theorem Reachable.wellFormed (h : m.Reachable) : m.tree.WellFormed := by
  induction h with
  | built hbuild => exact wellFormed_build hbuild
  | fragment id => exact Tree.wellFormed_ofRoot rfl
  | append feed _ ih => exact wellFormed_append ih feed
  | lookedUp _ ih => exact ih.of_nodes rfl

/-- A batch for an empty fragment that reports an element too many to be ended, and
goes on. -/
def unevenBatch : Feed :=
  .regardless (.ok ()) [.characters "a",
    .startElement (.plain "e") [.identifying "k" "v"] [.of "p" "u"], .characters "b", .endElement,
    .endElement, .comment "c", .namedEntity "pic" "pic.png", .characters "d"]

/-- Every model is well-formed, and what is below a node is numbered without a gap. -/
theorem Reachable.numbered_in_document_order (h : m.Reachable) :
    m.tree.WellFormed ∧
    ∀ i < m.size, ∃ j ≤ m.size, Spans m.tree.members [i] i j ∧
      ∀ k, k = i ∨ i ∈ m.tree.ancestors k ↔ i ≤ k ∧ k < j :=
  ⟨h.wellFormed, fun _ hi => h.wellFormed.exists_interval hi⟩

/-- The element of the uneven batch is followed by its attribute, its namespace and its
text. -/
theorem Reachable.numbered_in_document_order_uneven :
    ∃ m : Model, m.Reachable ∧ m.tree.WellFormed ∧ m.tree.members 2 = [3, 4, 5] ∧
      ∃ j ≤ m.size, Spans m.tree.members [2] 2 j ∧
        ∀ k, k = 2 ∨ 2 ∈ m.tree.ancestors k ↔ 2 ≤ k ∧ k < j := by
  have h : Reachable ((emptyFragment ⟨0⟩).append unevenBatch).2 := .append _ (.fragment _)
  have hordered := h.numbered_in_document_order
  exact ⟨_, h, hordered.1, by decide, hordered.2 2 (by decide)⟩

/-- A batch that fails leaves a model exactly as it was, and a document takes no
batch. -/
theorem Reachable.append_all_or_nothing (h : m.Reachable) (feed : Feed) :
    (∀ e m', m.append feed = (.error e, m') → m' = m) ∧
    (m.isFragment = false → m.append feed =
      (.error (.unsupported (m.id.text ++ " is not a fragment and cannot be extended")), m)) := by
  refine ⟨fun e m' happend => append_of_error h.wellFormed happend, fun hdocument => ?_⟩
  simp only [Model.append, hdocument, Bool.false_eq_true, if_false]

/-- A batch that makes the last text longer, declares an entity and leaves an element
open. -/
def unclosedBatch : Feed :=
  .ofEvents [.characters "e", .namedEntity "map" "map.png", .startElement (.plain "e") [] []]

/-- The unclosed batch fails on a fragment that ends with a text, and on a document. -/
theorem Reachable.append_all_or_nothing_unclosed :
    (∃ m : Model, m.Reachable ∧ m.tree.size = 8 ∧ m.tree.lastText? 0 = some 7 ∧
      m.append unclosedBatch = (.error (.malformed "element <e> was never closed"), m)) ∧
    ∃ m : Model, m.Reachable ∧ m.isFragment = false ∧ m.append unclosedBatch =
      (.error (.unsupported (m.id.text ++ " is not a fragment and cannot be extended")), m) := by
  constructor
  · have h : Reachable ((emptyFragment ⟨0⟩).append unevenBatch).2 := .append _ (.fragment _)
    generalize hm : ((emptyFragment ⟨0⟩).append unevenBatch).2 = m at h
    have herror : (m.append unclosedBatch).1 =
        .error (.malformed "element <e> was never closed") := by rw [← hm]; rfl
    have hsame := (h.append_all_or_nothing unclosedBatch).1 _ _ (Prod.ext herror rfl)
    exact ⟨m, h, by rw [← hm]; rfl, by rw [← hm]; rfl, Prod.ext herror hsame⟩
  · have h : Reachable { id := ⟨0⟩, tree := Tree.ofRoot .document } :=
      @Reachable.built default ⟨0⟩ none none (fun _ g => (.ok (), g)) .nothing _ rfl
    exact ⟨_, h, rfl, (h.append_all_or_nothing unclosedBatch).2 rfl⟩

end Model

end Grove
