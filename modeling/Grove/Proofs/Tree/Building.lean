/-
A builder keeps its tree well-formed, whatever it is told: every event, taken or
refused, leaves a tree that can grow below the innermost open element
(`Builder.Sound.step`). The open elements are the path on which the tree grows.
-/
import Mathlib.Logic.Relation
import Grove.Proofs.Tree.WellFormed
import Grove.Tree.Builder

namespace Grove

namespace Tree

variable {t : Tree} {p : Nat} {rest path : List Nat}

/-! ## Texts -/

theorem node?_extendText (i : Nat) (text : String) (j : Nat) :
    (t.extendText i text).node? j =
      if i = j then (t.node? j).map (·.extend text) else t.node? j := by
  simp only [extendText, node?, Array.getElem?_modify]

theorem kindOf?_extendText (i : Nat) (text : String) :
    (t.extendText i text).kindOf? = t.kindOf? := by
  funext j
  simp only [kindOf?, node?_extendText]
  split
  · rw [Option.map_map]; rfl
  · rfl

theorem parentOf_extendText (i : Nat) (text : String) :
    (t.extendText i text).parentOf = t.parentOf := by
  funext j
  simp only [parentOf, node?_extendText]
  split
  · rw [Option.bind_map]; rfl
  · rfl

theorem listed_extendText (i : Nat) (text : String) : (t.extendText i text).listed = t.listed := by
  funext j place
  simp only [listed, node?_extendText]
  split
  · rw [Option.map_map]; cases place <;> rfl
  · rfl

theorem valueOf_extendText (i : Nat) (text : String) (j : Nat) (hj : j < t.size) :
    (t.extendText i text).valueOf j = if i = j then t.valueOf j ++ text else t.valueOf j := by
  obtain ⟨n, hn⟩ : ∃ n, t.node? j = some n := ⟨_, Array.getElem?_eq_getElem hj⟩
  simp only [valueOf, node?_extendText]
  split
  · simp [hn, Node.extend, Node.valueText]
  · rfl

theorem Growing.extendText (h : t.Growing path) (i : Nat) (text : String) :
    (t.extendText i text).Growing path := by
  have hkind := kindOf?_extendText (t := t) i text
  refine h.of_eq (size_extendText t i text) hkind (parentOf_extendText i text)
    (listed_extendText i text) fun j hj => ?_
  rw [IsText, hkind] at hj
  have hfilled := h.wellFormed.filled j hj
  rw [valueOf_extendText i text j (lt_size_of_kindOf? hj)]
  split
  · simp [hfilled]
  · exact hfilled

theorem bare_of_empty (n : Node) (hc : n.children = #[]) (ha : n.attributes = #[])
    (hb : n.bindings = #[]) : n.Bare := by
  intro place
  cases place <;> simp [Node.listed, hc, ha, hb]

end Tree

namespace Builder

variable {t : Tree} {p e : Nat} {rest path : List Nat}

/-- A node that is no text and stands among the children. -/
theorem growing_addLeaf (h : t.Growing (p :: rest)) {n : Node} (hn : n.Bare)
    (hroot : n.kind.isRoot = false) (hplace : n.kind.place = .children) (htext : n.kind ≠ .text) :
    (t.addNode p n).Growing (p :: rest) :=
  h.addNode hn hroot (.inl hplace) (hplace ▸ trivial) fun hk => absurd hk htext

theorem growing_addText (h : t.Growing (p :: rest)) (text : String) :
    (addText t p text).Growing (p :: rest) := by
  unfold addText
  split
  · exact h
  next hne =>
  split
  · exact h.extendText _ text
  next hlast =>
  refine h.addNode (Tree.bare_of_empty _ rfl rfl rfl) rfl (.inl rfl) trivial fun _ => ⟨?_, hlast⟩
  simpa [Node.valueText] using hne

/-! ## Elements -/

/-- A tree that can grow below an element whose lists behind the given one are still
empty. -/
structure Starting (t : Tree) (e : Nat) (path : List Nat) (place : Place) : Prop where
  growing : t.Growing (e :: path)
  element : t.kindOf? e = some .element
  ends : t.Ends e place

namespace Starting

variable {place : Place}

theorem addNode (h : Starting t e path place) {n : Node} (hn : n.Bare)
    (hroot : n.kind.isRoot = false) (hplace : n.kind.place = place) (hkind : n.kind ≠ .text) :
    Starting (t.addNode e n) e path place where
  growing := h.growing.addNode hn hroot (.inr h.element) (hplace ▸ h.ends)
    fun hk => absurd hk hkind
  element := by
    rw [Tree.kindOf?_addNode, if_neg h.growing.lt_size.ne]
    exact h.element
  ends := by
    have hends := h.ends
    cases place <;>
      simp [Tree.Ends, Tree.listed_addNode hn h.growing.lt_size, hplace] at hends ⊢ <;>
      exact hends

theorem of_nodes {t' : Tree} (h : Starting t e path place) (heq : t'.nodes = t.nodes) :
    Starting t' e path place where
  growing := h.growing.of_nodes heq
  element := by
    have := h.element
    simpa only [Tree.kindOf?, Tree.node?, heq] using this
  ends := by
    have hends := h.ends
    cases place <;> simp only [Tree.Ends, Tree.listed, Tree.node?, heq] at hends ⊢ <;> exact hends

theorem addAttribute (h : Starting t e path .attributes) (a : AttributeEvent) :
    Starting (Builder.addAttribute e t a) e path .attributes := by
  unfold Builder.addAttribute
  dsimp only
  have hadded : ∀ isId, Starting (t.addNode e ⟨.attr, some a.name, some a.value, none, #[], #[],
      #[], isId⟩) e path .attributes := fun isId =>
    h.addNode (Tree.bare_of_empty _ rfl rfl rfl) rfl rfl (by simp)
  split
  · exact (hadded _).of_nodes rfl
  · exact hadded _

theorem addBinding (h : Starting t e path .bindings) (n : BindingEvent) :
    Starting (Builder.addBinding e t n) e path .bindings :=
  h.addNode (Tree.bare_of_empty _ rfl rfl rfl) rfl rfl (by simp)

theorem addAttributes (h : Starting t e path .attributes) (attributes : List AttributeEvent) :
    Starting (attributes.foldl (Builder.addAttribute e) t) e path .attributes :=
  List.foldlRecOn (motive := fun u => Starting u e path .attributes) attributes _ h
    fun _ h a _ => h.addAttribute a

theorem addBindings (h : Starting t e path .bindings) (bindings : List BindingEvent) :
    Starting (bindings.foldl (Builder.addBinding e) t) e path .bindings :=
  List.foldlRecOn (motive := fun u => Starting u e path .bindings) bindings _ h
    fun _ h n _ => h.addBinding n

/-- Namespaces come after attributes. -/
theorem toBindings (h : Starting t e path .attributes) : Starting t e path .bindings :=
  ⟨h.growing, h.element, h.ends.2⟩

end Starting

/-- A new element is bare. -/
theorem starting_addNode (h : t.Growing (p :: rest)) (name : QName) :
    Starting (t.addNode p { kind := .element, name := some name }) t.size (p :: rest)
      .attributes := by
  have hn : Node.Bare { kind := .element, name := some name } := Tree.bare_of_empty _ rfl rfl rfl
  have hempty : ∀ place, (t.addNode p { kind := .element, name := some name }).listed t.size place =
      [] := by
    intro place
    have hp : t.size ≠ p := h.lt_size.ne'
    simp [Tree.listed_addNode hn h.lt_size, Tree.listed_of_size_le, hp]
  exact ⟨h.addNode_element hn rfl (.inl rfl) trivial (by simp) rfl, by simp [Tree.kindOf?_addNode],
    hempty _, hempty _⟩

theorem growing_addElement (h : t.Growing (p :: rest)) (name : QName)
    (attributes : List AttributeEvent) (bindings : List BindingEvent) :
    (addElement t p name attributes bindings).Growing (t.size :: p :: rest) :=
  (((starting_addNode h name).addAttributes attributes).toBindings.addBindings bindings).growing

/-! ## Events -/

/-- The tree of a builder can grow below its innermost open element. -/
def Sound (b : Builder) : Prop := b.tree.Growing (b.openElements ++ [0])

theorem exists_path (b : Builder) : ∃ rest, b.openElements ++ [0] = b.current :: rest := by
  cases h : b.openElements with
  | nil => exact ⟨[], by simp [current, h]⟩
  | cons e es => exact ⟨es ++ [0], by simp [current, h]⟩

/-- What telling a builder an event comes to. -/
inductive Step : Builder → Builder → Prop
  | taken {b : Builder} {event : BuildEvent} : b.refusal? event = none → Step b (b.take event)
  | refused {b : Builder} {event : BuildEvent} {e : TreeError} : b.refusal? event = some e →
      Step b (b.refuse event)

theorem Sound.take {b : Builder} (h : b.Sound) (event : BuildEvent) : (b.take event).Sound := by
  obtain ⟨rest, hpath⟩ := b.exists_path
  have hgrow : b.tree.Growing (b.current :: rest) := hpath ▸ h
  unfold Sound
  cases event with
  | startDocument baseUri => exact h.of_nodes rfl
  | endDocument => exact h
  | startElement name attributes bindings =>
    have := growing_addElement hgrow name attributes bindings
    simpa only [Builder.take, List.cons_append, hpath] using this
  | endElement =>
    simp only [Builder.take]
    unfold Sound at h
    cases hopen : b.openElements with
    | nil => simpa [hopen] using h
    | cons e es =>
      rw [hopen] at h
      cases es with
      | nil => exact h.tail
      | cons e' es => exact h.tail
  | characters text => simpa only [Builder.take, hpath] using growing_addText hgrow text
  | comment text =>
    simpa only [Builder.take, hpath] using
      growing_addLeaf hgrow (Tree.bare_of_empty _ rfl rfl rfl) rfl rfl (by simp)
  | instruction target data =>
    simpa only [Builder.take, hpath] using
      growing_addLeaf hgrow (Tree.bare_of_empty _ rfl rfl rfl) rfl rfl (by simp)
  | entity name publicId systemId notationName =>
    refine h.of_nodes ?_
    simp only [Builder.take, declareEntity]
    split <;> rfl

theorem Sound.refuse {b : Builder} (h : b.Sound) (event : BuildEvent) : (b.refuse event).Sound := by
  obtain ⟨rest, hpath⟩ := b.exists_path
  have hgrow : b.tree.Growing (b.current :: rest) := hpath ▸ h
  cases event with
  | startElement name attributes bindings =>
    simp only [Builder.refuse]
    split
    · exact h
    · unfold Sound
      simp only [hpath]
      exact (growing_addElement hgrow name _ _).tail
  | _ => exact h

theorem Sound.step {b b' : Builder} (h : b.Sound) (hstep : Step b b') : b'.Sound := by
  cases hstep with
  | taken _ => exact h.take _
  | refused _ => exact h.refuse _

theorem Sound.steps {b b' : Builder} (h : b.Sound)
    (hsteps : Relation.ReflTransGen Step b b') : b'.Sound := by
  induction hsteps with
  | refl => exact h
  | tail _ hstep ih => exact ih.step hstep

end Builder

end Grove
