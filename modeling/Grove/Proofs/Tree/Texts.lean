/-
The text of a tree. The string value of a root or an element is what a recursion gathers that
enters elements alone; it is the values of the texts below the node, in document order
(`Tree.WellFormed.textBelow_eq`), since nothing else has nodes below it.

As all texts are below the root, its string value is the texts of the whole tree in the order of
their numbers. A text that is reported either becomes the last node or makes the last node longer
(`Tree.Growing.eq_last_of_lastText?`), so however it is cut into pieces, that order is the order in
which the pieces came (`Builder.Hears.join_texts`).
-/
import Mathlib.Data.List.Sort
import Grove.Proofs.Tree.Axes
import Grove.Proofs.Tree.Entities

namespace Grove

/-- The text that an event reports. -/
def BuildEvent.text? : BuildEvent → Option String
  | .characters text => some text
  | _ => none

namespace Tree

variable {t t' : Tree} {i c p x : Nat} {n : Node} {rest : List Nat}

/-- The value of a node that is a text. -/
def textAt? (t : Tree) (i : Nat) : Option String :=
  (t.node? i).bind fun n => if n.isText then some n.valueText else none

/-- The texts of a tree in document order. -/
def texts (t : Tree) : List String := (List.range t.size).filterMap t.textAt?

theorem textAt?_eq (t : Tree) (i : Nat) :
    t.textAt? i = if t.kindOf? i = some .text then some (t.valueOf i) else none := by
  unfold textAt? kindOf? valueOf
  cases t.node? i with
  | none => rfl
  | some n => simp [Node.isText]

/-! ## What the recursion gathers -/

/-- Below what is neither an element nor the root there is nothing. -/
theorem WellFormed.below_eq_nil (h : t.WellFormed) (hi : t.kindOf? i ≠ some .element) (h0 : i ≠ 0) :
    t.below i = [] := by
  rw [h.below_eq, h.childrenOf_eq_nil hi h0, List.flatMap_nil]

/-- What the recursion adds for a child. -/
def gathered (t : Tree) (c : Nat) : String :=
  match t.node? c with
  | some n =>
    match n.kind with
    | .text => n.valueText
    | .element => t.textBelow c
    | _ => ""
  | none => ""

theorem WellFormed.textBelow_eq_gathered (h : t.WellFormed) (i : Nat) :
    t.textBelow i = String.join ((t.childrenOf i).map t.gathered) := by
  rw [textBelow, ← h.laterChildren_eq]
  simp only [List.map_attach_eq_pmap, List.pmap_eq_map]
  rfl

/-- What is gathered for a child is the texts of the child and of what is below it. -/
theorem WellFormed.gathered_eq (h : t.WellFormed) (hc : c ≠ 0)
    (hbelow : t.textBelow c = String.join ((t.below c).filterMap t.textAt?)) :
    t.gathered c = String.join ((t.subtree c).filterMap t.textAt?) := by
  rw [subtree_eq, gathered]
  cases hnode : t.node? c with
  | none =>
    have hkind : t.kindOf? c = none := by simp [kindOf?, hnode]
    simp [textAt?, hnode, h.below_eq_nil (by simp [hkind]) hc]
  | some n =>
    have hkind : t.kindOf? c = some n.kind := by simp [kindOf?, hnode]
    by_cases helement : n.kind = .element
    · simp [textAt?, hnode, Node.isText, helement, hbelow]
    · have hnil : t.below c = [] := h.below_eq_nil (by simp [hkind, helement]) hc
      by_cases htext : n.kind = .text
      · simp [textAt?, hnode, Node.isText, htext, hnil]
      · simp [textAt?, hnode, Node.isText, htext, hnil]

theorem join_flatMap {α : Type} (l : List α) (g : α → List String) :
    String.join (l.flatMap g) = String.join (l.map fun a => String.join (g a)) := by
  induction l with
  | nil => rfl
  | cons a l ih => rw [List.flatMap_cons, String.join_append, List.map_cons, String.join_cons, ih]

/-- The string value of a root or an element is the values of the texts below it. -/
theorem WellFormed.textBelow_eq (h : t.WellFormed) (i : Nat) :
    t.textBelow i = String.join ((t.below i).filterMap t.textAt?) := by
  induction hn : t.size - i using Nat.strongRecOn generalizing i with
  | ind n ih =>
    have hchild : ∀ c ∈ t.childrenOf i,
        t.gathered c = String.join ((t.subtree c).filterMap t.textAt?) := by
      intro c hc
      have hic := h.lt_of_mem_childrenOf hc
      have hcs := h.lt_size_of_mem_children hc
      exact h.gathered_eq (by omega) (ih _ (by omega) c rfl)
    rw [h.textBelow_eq_gathered, List.map_congr_left hchild, ← join_flatMap, h.below_eq,
      List.filterMap_flatMap]

/-! ## All texts are below the root -/

theorem filterMap_textAt? (t : Tree) (l : List Nat) :
    l.filterMap t.textAt? = (l.filter fun i => t.kindOf? i = some .text).map t.valueOf := by
  induction l with
  | nil => rfl
  | cons i l ih => by_cases hi : t.kindOf? i = some .text <;> simp [textAt?_eq t i, hi, ih]

/-- The root is no text. -/
theorem WellFormed.pos_of_isText (h : t.WellFormed) (hx : t.IsText x) : 0 < x := by
  obtain ⟨kind, hroot, hisRoot, -⟩ := h.root
  refine Nat.pos_of_ne_zero ?_
  rintro rfl
  obtain rfl : kind = .text := Option.some_inj.1 (hroot.symm.trans hx)
  simp [NodeKind.isRoot] at hisRoot

/-- The string value of the root is the texts of the whole tree. -/
theorem WellFormed.textBelow_root (h : t.WellFormed) : t.textBelow 0 = String.join t.texts := by
  have hsize : 0 < t.size := h.within_zero.lt_size
  have hsame : (t.below 0).filter (fun i => t.kindOf? i = some .text) =
      (List.range t.size).filter fun i => t.kindOf? i = some .text := by
    refine ((h.sorted_below hsize).filter _).eq_of_mem_iff (List.pairwise_lt_range.filter _) fun x => ?_
    simp only [List.mem_filter, decide_eq_true_eq, List.mem_range]
    refine and_congr_left fun htext => ⟨h.lt_size_of_mem_below, fun hx => ?_⟩
    have hwithin : t.Within x := by simp [Within, htext, NodeKind.place]
    exact h.mem_below_iff.2 ⟨hwithin, h.zero_mem_ancestors (h.pos_of_isText htext) hx⟩
  rw [h.textBelow_eq, texts, filterMap_textAt?, filterMap_textAt?, hsame]

/-! ## What a new node and a longer text change -/

theorem texts_of_nodes (heq : t'.nodes = t.nodes) : t'.texts = t.texts := by
  have htext : t'.textAt? = t.textAt? := by
    funext i
    rw [textAt?, textAt?, node?, node?, heq]
  rw [texts, texts, size, size, heq, htext]

theorem texts_addNode (t : Tree) (p : Nat) (n : Node) :
    (t.addNode p n).texts = t.texts ++ if n.kind = .text then [n.valueText] else [] := by
  have hold : ∀ i ∈ List.range t.size, (t.addNode p n).textAt? i = t.textAt? i := by
    intro i hi
    have hne := (List.mem_range.1 hi).ne
    simp [textAt?_eq, kindOf?_addNode, valueOf_addNode, hne]
  rw [texts, texts, size_addNode, List.range_succ, List.filterMap_append, List.filterMap_congr hold]
  by_cases htext : n.kind = .text <;> simp [textAt?_eq, kindOf?_addNode, valueOf_addNode, htext]

/-- The text that may get longer is the last node. -/
theorem Growing.eq_last_of_lastText? (h : t.Growing (c :: rest)) (hlast : t.lastText? c = some x) :
    t.size = x + 1 := by
  have hwf := h.wellFormed
  obtain ⟨hx, htext⟩ := lastText?_eq_some_iff.1 hlast
  obtain ⟨init, hinit⟩ := List.getLast?_eq_some_iff.1 hx
  have hwalk := (Spans.singleton_iff.1 (h.trail.spans hwf.order)).2
  have hmembers : t.members c = t.attributesOf c ++ t.bindingsOf c ++ init ++ [x] := by
    rw [List.append_assoc _ init, ← hinit]
    rfl
  obtain ⟨j, -, hspan⟩ := (hmembers ▸ hwalk).split
  obtain ⟨rfl, hbelow⟩ := Spans.singleton_iff.1 hspan
  have hleaf : t.members x = [] := by
    by_contra hne
    obtain ⟨place, hplace⟩ : ∃ place, t.listed x place ≠ [] := by
      by_contra hall
      simp only [not_exists, not_not] at hall
      exact hne (by simp [members, hall])
    rcases hwf.owner x place hplace with helement | ⟨rfl, -⟩
    · simp [IsText, helement] at htext
    · exact absurd (hwf.pos_of_isText htext) (Nat.lt_irrefl 0)
  rw [hleaf] at hbelow
  generalize t.size = k at hbelow ⊢
  cases hbelow
  rfl

/-- A text that gets longer at the end makes the whole longer at the end. -/
theorem Growing.join_texts_extendText (h : t.Growing (c :: rest)) (hlast : t.lastText? c = some x)
    (text : String) : String.join (t.extendText x text).texts = String.join t.texts ++ text := by
  have hsize := h.eq_last_of_lastText? hlast
  have htext : t.kindOf? x = some .text := (lastText?_eq_some_iff.1 hlast).2
  have hold : ∀ i ∈ List.range x, (t.extendText x text).textAt? i = t.textAt? i := by
    intro i hi
    have hlt := List.mem_range.1 hi
    rw [textAt?_eq, textAt?_eq, kindOf?_extendText, valueOf_extendText x text i (by omega),
      if_neg hlt.ne']
  have hlastOld : t.textAt? x = some (t.valueOf x) := by rw [textAt?_eq, if_pos htext]
  have hlastNew : (t.extendText x text).textAt? x = some (t.valueOf x ++ text) := by
    rw [textAt?_eq, kindOf?_extendText, if_pos htext, valueOf_extendText x text x (by omega), if_pos rfl]
  rw [texts, texts, size_extendText, hsize, List.range_succ, List.filterMap_append,
    List.filterMap_append, List.filterMap_congr hold]
  simp [hlastOld, hlastNew, String.append_assoc]

end Tree

/-! ## What a builder gathers -/

namespace Builder

variable {b b' : Builder} {event : BuildEvent} {events : List BuildEvent}

theorem texts_addElement (t : Tree) (parent : Nat) (name : QName) (attributes : List AttributeEvent)
    (bindings : List BindingEvent) :
    (addElement t parent name attributes bindings).texts = t.texts := by
  have hattribute : ∀ (e : Nat) (u : Tree) (a : AttributeEvent), (addAttribute e u a).texts = u.texts := by
    intro e u a
    have hadded : ∀ isId, (u.addNode e ⟨.attr, some a.name, some a.value, none, #[], #[], #[],
        isId⟩).texts = u.texts := fun isId => by simp [Tree.texts_addNode]
    unfold addAttribute
    dsimp only
    split
    · exact (Tree.texts_of_nodes rfl).trans (hadded _)
    · exact hadded _
  have helement : (t.addNode parent { kind := .element, name := some name }).texts = t.texts := by
    simp [Tree.texts_addNode]
  have hattributes := List.foldlRecOn (motive := fun u => u.texts = t.texts) attributes
    (addAttribute t.size) helement fun _ h _ _ => (hattribute ..).trans h
  refine List.foldlRecOn (motive := fun u => u.texts = t.texts) bindings (addBinding t.size) hattributes
    fun u h n _ => ?_
  simpa [addBinding, Tree.texts_addNode] using h

theorem join_texts_addText {t : Tree} {p : Nat} {rest : List Nat} (h : t.Growing (p :: rest))
    (text : String) : String.join (addText t p text).texts = String.join t.texts ++ text := by
  unfold addText
  split
  next hempty =>
    obtain rfl : text = "" := by simpa using hempty
    exact (String.append_empty).symm
  next =>
    split
    next last hlast => exact h.join_texts_extendText hlast text
    next => simp [Tree.texts_addNode, String.join_append, Node.valueText]

theorem Sound.join_texts_take (h : b.Sound) (event : BuildEvent) :
    String.join (b.take event).tree.texts =
      String.join b.tree.texts ++ String.join event.text?.toList := by
  obtain ⟨rest, hpath⟩ := b.exists_path
  have hgrow : b.tree.Growing (b.current :: rest) := hpath ▸ h
  have hsame : event.text? = none → (b.take event).tree.texts = b.tree.texts →
      String.join (b.take event).tree.texts =
        String.join b.tree.texts ++ String.join event.text?.toList := by
    intro hnone htexts
    simp [hnone, htexts]
  cases event with
  | startElement name attributes bindings => exact hsame rfl (texts_addElement ..)
  | characters text => simpa [Builder.take, BuildEvent.text?] using join_texts_addText hgrow text
  | comment text => exact hsame rfl (by simp [Builder.take, Tree.texts_addNode])
  | instruction target data => exact hsame rfl (by simp [Builder.take, Tree.texts_addNode])
  | entity name publicId systemId notationName =>
    refine hsame rfl (Tree.texts_of_nodes ?_)
    simp only [Builder.take, declareEntity]
    split <;> rfl
  | startDocument baseUri => exact hsame rfl (Tree.texts_of_nodes rfl)
  | endDocument => exact hsame rfl rfl
  | endElement => exact hsame rfl rfl

theorem texts_refuse (b : Builder) (event : BuildEvent) : (b.refuse event).tree.texts = b.tree.texts := by
  cases event with
  | startElement name attributes bindings =>
    simp only [refuse]
    split
    · rfl
    · exact texts_addElement ..
  | _ => rfl

/-- The texts of a builder's tree are those it took, in order, however they were cut. -/
theorem Hears.join_texts (h : Hears b events b') (hsound : b.Sound) :
    String.join b'.tree.texts =
      String.join b.tree.texts ++ String.join (events.filterMap BuildEvent.text?) := by
  induction h with
  | nil => simp
  | @taken b b' event events hevent _ ih =>
    rw [ih (hsound.take event), hsound.join_texts_take]
    cases htext : event.text? <;> simp [htext, String.append_assoc]
  | @refused b b' event events _ hevent _ ih => rw [ih (hsound.refuse event), texts_refuse]

end Builder

/-! ## Models -/

namespace Model

variable {m : Model} {i : Nat} {events : List BuildEvent}

/-- The value of a node that is a text. -/
def textOf? (m : Model) (node : NodeHandle) : Option String :=
  match m.kind node, m.stringValue node with
  | .ok .text, .ok value => some value
  | _, _ => none

theorem Numbered.textOf?_handle (hm : m.Numbered) (hi : i < m.size) :
    m.textOf? (m.handle i) = m.tree.textAt? i := by
  obtain ⟨n, hn⟩ : ∃ n, m.tree.node? i = some n := ⟨_, Array.getElem?_eq_getElem hi⟩
  rw [textOf?, kind, stringValue, hm.ask_handle hi, hm.ask_handle hi, Tree.textAt?, hn]
  cases hkind : n.kind <;> simp [hn, hkind, Tree.stringValueOf, Node.isText]

theorem Numbered.stringValue_handle (hm : m.Numbered) {kind : NodeKind}
    (hkind : m.tree.kindOf? i = some kind) (hinner : kind.isRoot = true ∨ kind = .element) :
    m.stringValue (m.handle i) = .ok (m.tree.textBelow i) := by
  obtain ⟨n, hn, rfl⟩ := Option.map_eq_some_iff.1 hkind
  rw [stringValue, hm.ask_handle (Tree.lt_size_of_kindOf? hkind), Tree.stringValueOf, hn]
  cases hk : n.kind <;> simp [hk, NodeKind.isRoot] at hinner ⊢

/-- The texts of a model are those of the events that were committed to it, in order. -/
theorem Committed.join_texts (h : Committed events m) :
    String.join m.tree.texts = String.join (events.filterMap BuildEvent.text?) := by
  induction h with
  | @built f _ _ r supplied feed _ hbuild =>
    obtain ⟨t, hfinish, rfl⟩ := Forest.build_eq_ok hbuild
    obtain rfl := (Builder.finish_eq_ok_iff.1 hfinish).2
    have hroot : (Tree.ofRoot .document).WellFormed := Tree.wellFormed_ofRoot rfl
    have hheard := (feed.runWith_hears r supplied (scratch f)).join_texts (Builder.sound_ofTree hroot)
    exact hheard.trans (String.empty_append)
  | fragment id => rfl
  | @appended events m m' feed hcommitted happend ih =>
    obtain ⟨-, rfl⟩ := append_eq_ok happend
    have hsound := Builder.sound_ofTree hcommitted.reachable.wellFormed
    have hheard := (feed.runWith_hears none (fun _ g => (.ok (), g)) m.reopened).join_texts hsound
    rw [List.filterMap_append, String.join_append, ← ih]
    exact hheard
  | failed hcommitted happend ih => rwa [append_of_error hcommitted.reachable.wellFormed happend]
  | lookedUp _ ih => exact ih

/-- The string value of a root or an element is the values of the texts below it, in document order;
and that of the root is the texts that were committed to the model, in the order in which they
came. -/
theorem Reachable.string_values_in_order (h : m.Reachable) :
    (∀ node kind, m.kind node = .ok kind → kind.isRoot = true ∨ kind = .element →
      ∃ below, m.descendants node false = .ok below ∧
        m.stringValue node = .ok (String.join (below.filterMap m.textOf?))) ∧
    (∃ events, Committed events m) ∧
    ∀ events, Committed events m →
      m.stringValue m.document = .ok (String.join (events.filterMap BuildEvent.text?)) := by
  have hn := h.numbered
  have hwf := h.wellFormed
  refine ⟨fun node kind hkind hinner => ?_, h.committed, fun events hcommitted => ?_⟩
  · obtain ⟨i, rfl, hkindOf⟩ := exists_of_kind hkind
    have hi : i < m.size := Tree.lt_size_of_kindOf? hkindOf
    have hbelow : (m.handles (m.tree.below i)).filterMap m.textOf? =
        (m.tree.below i).filterMap m.tree.textAt? := by
      rw [handles, List.filterMap_map]
      exact List.filterMap_congr fun j hj => hn.textOf?_handle (hwf.lt_size_of_mem_below hj)
    refine ⟨_, hn.ask_handle hi _, ?_⟩
    rw [hn.stringValue_handle hkindOf hinner, hwf.textBelow_eq, if_neg Bool.false_ne_true, hbelow]
  · obtain ⟨kind, hroot, hisRoot, -⟩ := hwf.root
    rw [document, hn.stringValue_handle hroot (.inl hisRoot), hwf.textBelow_root, hcommitted.join_texts]

/-- The texts of the uneven batch, and of a batch that makes the last of them longer after another
one that would have done so failed. -/
theorem Reachable.string_values_in_order_uneven :
    ∃ (m : Model) (events : List BuildEvent), m.Reachable ∧ Committed events m ∧ m.size = 8 ∧
      events.filterMap BuildEvent.text? = ["a", "b", "d", "f"] ∧
      m.stringValue m.document = .ok "abdf" ∧
      m.kind (m.handle 2) = .ok .element ∧
      ∃ below, m.descendants (m.handle 2) false = .ok below ∧
        m.stringValue (m.handle 2) = .ok (String.join (below.filterMap m.textOf?)) := by
  have hbefore : Committed _ ((emptyFragment ⟨0⟩).append unevenBatch).2 :=
    (Committed.fragment ⟨0⟩).appended (Prod.ext rfl rfl)
  generalize hm : ((emptyFragment ⟨0⟩).append unevenBatch).2 = before at hbefore
  have herror : before.append unclosedBatch =
      (.error (.malformed "element <e> was never closed"), (before.append unclosedBatch).2) :=
    Prod.ext (by rw [← hm]; rfl) rfl
  have hfailed := hbefore.failed herror
  rw [append_of_error hbefore.reachable.wellFormed herror] at hfailed
  have hok : before.append (.ofEvents [.characters "f"]) =
      (.ok (), (before.append (.ofEvents [.characters "f"])).2) := Prod.ext (by rw [← hm]; rfl) rfl
  have hcommitted := hfailed.appended hok
  rw [List.nil_append] at hcommitted
  generalize hlater : (before.append (.ofEvents [.characters "f"])).2 = m at hcommitted
  have hsize : m.size = 8 := by rw [← hlater, ← hm]; rfl
  have hkind : m.kind (m.handle 2) = .ok .element := by rw [← hlater, ← hm]; rfl
  have htexts : List.filterMap BuildEvent.text?
      (Feed.accepted none (fun _ g => (.ok (), g)) unevenBatch (emptyFragment ⟨0⟩).reopened ++
        Feed.accepted none (fun _ g => (.ok (), g)) (.ofEvents [.characters "f"]) before.reopened) =
      ["a", "b", "d", "f"] := by rw [← hm]; rfl
  obtain ⟨hinner, -, hroot⟩ := hcommitted.reachable.string_values_in_order
  have hwhole : m.stringValue m.document = .ok "abdf" := by rw [hroot _ hcommitted, htexts]; rfl
  exact ⟨m, _, hcommitted.reachable, hcommitted, hsize, htexts, hwhole, hkind,
    hinner _ _ hkind (.inr rfl)⟩

end Model

end Grove
