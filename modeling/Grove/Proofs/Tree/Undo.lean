/-
Undoing a batch. A rollback does not put a copy back: it drops the new nodes, cuts
the children of the root and the value of its last text, and keeps the entities
that were there by name. That this gives the old tree (`Tree.rollback_checkpoint`)
rests on what a builder can do to a tree it adds to, which is `Tree.Grown`: at most
the root and the text it ends with are touched, and both only at their ends.
-/
import Grove.Proofs.Tree.Building

namespace Grove

namespace Text

theorem charsWithin_append (cs ds : List Char) :
    charsWithin (String.ofList cs).utf8ByteSize (cs ++ ds) = cs := by
  induction cs with
  | nil =>
    cases ds with
    | nil => rfl
    | cons d ds =>
      have := d.utf8Size_pos
      simp [charsWithin]
      omega
  | cons c cs ih =>
    have hsize : (String.ofList (c :: cs)).utf8ByteSize =
        c.utf8Size + (String.ofList cs).utf8ByteSize := by
      simp [String.ofList_cons]
    rw [hsize, List.cons_append, charsWithin, if_pos (by omega), Nat.add_sub_cancel_left, ih]

theorem firstBytes_append (a b : String) : firstBytes a.utf8ByteSize (a ++ b) = a := by
  have h := charsWithin_append a.toList b.toList
  rw [String.ofList_toList] at h
  rw [firstBytes, String.toList_append, h, String.ofList_toList]

end Text

namespace Table

variable {κ ν : Type} [DecidableEq κ] {t₀ t : Table κ ν}

theorem prefix_insert {k : κ} (hk : ¬t.contains k) (v : ν) :
    t.entries <+: (t.insert k v).entries := by
  have hk : k ∉ t.keys := by
    rw [← get?_eq_none_iff]
    simpa [contains] using hk
  rw [insert, dif_neg hk]
  exact List.prefix_append _ _

/-- A table that has only grown is undone by keeping the keys it had. -/
theorem filterKeys_keys (h : t₀.entries <+: t.entries) :
    t.filterKeys (t₀.keys.contains ·) = t₀ := by
  obtain ⟨rest, hrest⟩ := h
  have hdistinct := t.distinct
  rw [← hrest, List.map_append, List.nodup_append] at hdistinct
  have hold : t₀.entries.filter (t₀.keys.contains ·.1) = t₀.entries :=
    List.filter_eq_self.2 fun e he => by simpa [keys] using ⟨e.2, he⟩
  have hnew : rest.filter (t₀.keys.contains ·.1) = [] := by
    refine List.filter_eq_nil_iff.2 fun e he hmem => ?_
    have hkey : e.1 ∈ t₀.entries.map Prod.fst := by simpa [keys] using hmem
    exact hdistinct.2.2 _ hkey _ (List.mem_map_of_mem he) rfl
  have hentries : (t.filterKeys (t₀.keys.contains ·)).entries = t₀.entries := by
    simp only [filterKeys, ← hrest, List.filter_append, hold, hnew, List.append_nil]
  cases t₀
  simpa only [filterKeys, mk.injEq] using hentries

end Table

namespace Tree

variable {t₀ t : Tree} {p i c : Nat} {n : Node}

/-- A tree to which more has been added below the root. -/
structure Grown (t₀ t : Tree) : Prop where
  old : t₀.WellFormed
  size_le : t₀.size ≤ t.size
  /-- The children of the root are followed by new ones. -/
  root : ∃ added : Array Nat, (∀ c ∈ added, t₀.size ≤ c) ∧
    t.node? 0 = (t₀.node? 0).map fun n => { n with children := n.children ++ added }
  /-- The text that the root ended with may be longer. -/
  text : ∀ i, t₀.lastText? 0 = some i → ∃ more, t.node? i = (t₀.node? i).map (·.extend more)
  /-- All other old nodes are as they were. -/
  kept : ∀ i, 0 < i → i < t₀.size → t₀.lastText? 0 ≠ some i → t.node? i = t₀.node? i
  /-- Below new nodes there are only new ones. -/
  fresh : ∀ i c, t₀.size ≤ i → c ∈ t.childrenOf i → t₀.size ≤ c
  entities : t₀.entities.entries <+: t.entities.entries
  index : t.index = t₀.index

namespace WellFormed

theorem zero_not_mem (h : t.WellFormed) (place : Place) : 0 ∉ t.listed p place := by
  obtain ⟨_, _, _, hparent⟩ := h.root
  rw [← List.count_eq_zero, h.once, hparent]
  simp

theorem size_pos (h : t.WellFormed) : 0 < t.size := h.order.lt

/-- The text that the root ends with is an inner node with a value. -/
theorem exists_lastText (h : t.WellFormed) (hi : t.lastText? 0 = some i) :
    0 < i ∧ i < t.size ∧ ∃ n, t.node? i = some n ∧ n.value = some n.valueText := by
  obtain ⟨hlast, htext⟩ := lastText?_eq_some_iff.1 hi
  have hmem := List.mem_of_getLast? hlast
  refine ⟨Nat.pos_of_ne_zero fun h0 => h.zero_not_mem .children (h0 ▸ hmem),
    h.lt_size_of_mem_children hmem, ?_⟩
  have hfilled := h.filled i htext
  obtain ⟨n, hn, -⟩ := Option.map_eq_some_iff.1 htext
  refine ⟨n, hn, ?_⟩
  cases hvalue : n.value with
  | none => simp [valueOf, hn, Node.valueText, hvalue] at hfilled
  | some v => simp [Node.valueText, hvalue]

end WellFormed

namespace Grown

theorem refl (h : t.WellFormed) : t.Grown t where
  old := h
  size_le := Nat.le_refl _
  root := by
    refine ⟨#[], by simp, ?_⟩
    cases t.node? 0 <;> simp
  text i hi := by
    obtain ⟨-, -, n, hn, hvalue⟩ := h.exists_lastText hi
    refine ⟨"", ?_⟩
    rw [hn, Option.map_some, Node.extend, String.append_empty, ← hvalue]
  kept _ _ _ _ := rfl
  fresh i c hi hc := by simp [← listed_children, listed_of_size_le hi] at hc
  entities := List.prefix_refl _
  index := rfl

/-- Only the nodes, the entities and the identifiers that are kept matter. -/
theorem of_eq {t' : Tree} (h : t₀.Grown t) (hnodes : t'.nodes = t.nodes)
    (hentities : t.entities.entries <+: t'.entities.entries) (hindex : t'.index = t.index) :
    t₀.Grown t' := by
  have hsize : t'.size = t.size := by simp only [size, hnodes]
  have hnode : t'.node? = t.node? := by
    funext i
    simp only [node?, hnodes]
  refine ⟨h.old, hsize ▸ h.size_le, hnode ▸ h.root, ?_, ?_, ?_,
    h.entities.trans hentities, hindex.trans h.index⟩
  · simpa only [hnode] using h.text
  · simpa only [hnode] using h.kept
  · simpa only [childrenOf, hnode] using h.fresh

theorem kindOf? (h : t₀.Grown t) (hi : i < t₀.size) : t.kindOf? i = t₀.kindOf? i := by
  simp only [Tree.kindOf?]
  rcases Nat.eq_zero_or_pos i with rfl | hpos
  · obtain ⟨added, -, hroot⟩ := h.root
    rw [hroot, Option.map_map]
    rfl
  · by_cases htext : t₀.lastText? 0 = some i
    · obtain ⟨more, hmore⟩ := h.text i htext
      rw [hmore, Option.map_map]
      rfl
    · rw [h.kept i hpos hi htext]

theorem childrenOf_zero (h : t₀.Grown t) :
    ∃ added : List Nat, (∀ c ∈ added, t₀.size ≤ c) ∧ t.childrenOf 0 = t₀.childrenOf 0 ++ added := by
  obtain ⟨added, hadded, hroot⟩ := h.root
  obtain ⟨n, hn⟩ : ∃ n, t₀.node? 0 = some n := ⟨_, Array.getElem?_eq_getElem h.old.size_pos⟩
  exact ⟨added.toList, by simpa using hadded, by simp [childrenOf, hroot, hn]⟩

/-! ## What a builder does -/

theorem mem_childrenOf_addNode (hn : n.Bare) (hc : c ∈ (t.addNode p n).childrenOf i) :
    c ∈ t.childrenOf i ∨ c = t.size := by
  rw [childrenOf, node?_addNode] at hc
  split at hc
  · have hempty : n.children.toList = [] := hn .children
    simp [hempty] at hc
  · split at hc
    · cases hnode : t.node? i with
      | none => simp [hnode] at hc
      | some a =>
        have hlist := a.listed_adopt n.kind t.size .children
        simp only [Node.listed] at hlist
        simp only [hnode, Option.map_some, Option.getD_some, hlist, List.mem_append] at hc
        refine hc.imp (fun hc => by simpa [childrenOf, hnode] using hc) fun hc => ?_
        split at hc <;> simp at hc
        exact hc
    · exact .inl hc

/-- New nodes go below the root or below new nodes. -/
theorem addNode (h : t₀.Grown t) (hn : n.Bare)
    (hp : p = 0 ∧ n.kind.place = .children ∨ t₀.size ≤ p) : t₀.Grown (t.addNode p n) := by
  have hsize := h.size_le
  have hpos := h.old.size_pos
  -- an old inner node is neither the new one nor its parent
  have hold : ∀ i, 0 < i → i < t₀.size → (t.addNode p n).node? i = t.node? i := by
    intro i h0 hi
    rw [node?_addNode, if_neg (by omega), if_neg (by omega)]
  refine ⟨h.old, by simp; omega, ?root, ?text, ?kept, ?fresh, h.entities, h.index⟩
  case root =>
    obtain ⟨added, hadded, hroot⟩ := h.root
    rw [node?_addNode, if_neg (by omega)]
    rcases hp with ⟨rfl, hplace⟩ | hp
    · refine ⟨added.push t.size, ?_, ?_⟩
      · intro c hc
        rcases Array.mem_push.1 hc with hc | rfl
        · exact hadded c hc
        · exact hsize
      · rw [if_pos rfl, hroot, Option.map_map]
        congr 1
        funext a
        cases hkind : n.kind <;> simp [hkind, NodeKind.place] at hplace <;> simp [Node.adopt]
    · rw [if_neg (by omega)]
      exact ⟨added, hadded, hroot⟩
  case text =>
    intro i hi
    obtain ⟨h0, his, -⟩ := h.old.exists_lastText hi
    rw [hold i h0 his]
    exact h.text i hi
  case kept =>
    intro i h0 hi hlast
    rw [hold i h0 hi]
    exact h.kept i h0 hi hlast
  case fresh =>
    intro i c hi hc
    rcases mem_childrenOf_addNode hn hc with hc | rfl
    · exact h.fresh i c hi hc
    · exact hsize

/-- Only a new text or the one the root ended with gets longer. -/
theorem extendText (h : t₀.Grown t) (hi : t₀.lastText? 0 = some i ∨ t₀.size ≤ i) (text : String) :
    t₀.Grown (t.extendText i text) := by
  have hpos := h.old.size_pos
  have hinner : 0 < i := by
    rcases hi with hi | hi
    · exact (h.old.exists_lastText hi).1
    · omega
  refine ⟨h.old, by simpa using h.size_le, ?root, ?text, ?kept, ?fresh, h.entities, h.index⟩
  case root =>
    rw [node?_extendText, if_neg (by omega)]
    exact h.root
  case text =>
    intro j hj
    obtain ⟨more, hmore⟩ := h.text j hj
    rw [node?_extendText]
    split
    · refine ⟨more ++ text, ?_⟩
      rw [hmore, Option.map_map]
      congr 1
      funext n
      simp [Node.extend, Node.valueText, String.append_assoc]
    · exact ⟨more, hmore⟩
  case kept =>
    intro j h0 hj hlast
    rw [node?_extendText, if_neg, h.kept j h0 hj hlast]
    rintro rfl
    exact hi.elim hlast (by omega)
  case fresh =>
    intro j c hj hc
    rw [← listed_children, listed_extendText, listed_children] at hc
    exact h.fresh j c hj hc

/-- A text that can get longer is new, or the one the root ended with. -/
theorem lastText? (h : t₀.Grown t) (hp : p = 0 ∨ t₀.size ≤ p) (hi : t.lastText? p = some i) :
    t₀.lastText? 0 = some i ∨ t₀.size ≤ i := by
  obtain ⟨hlast, htext⟩ := lastText?_eq_some_iff.1 hi
  rcases hp with rfl | hp
  · obtain ⟨added, hadded, hchildren⟩ := h.childrenOf_zero
    rw [hchildren] at hlast
    rcases List.eq_nil_or_concat added with rfl | ⟨init, last, rfl⟩
    · rw [List.append_nil] at hlast
      have hold := h.old.lt_size_of_mem_children (List.mem_of_getLast? hlast)
      rw [IsText, h.kindOf? hold] at htext
      exact .inl (lastText?_eq_some_iff.2 ⟨hlast, htext⟩)
    · obtain rfl : last = i := by simpa using hlast
      exact .inr (hadded last (by simp))
  · exact .inr (h.fresh p i hp (List.mem_of_getLast? hlast))

theorem addText (h : t₀.Grown t) (hp : p = 0 ∨ t₀.size ≤ p) (text : String) :
    t₀.Grown (Builder.addText t p text) := by
  unfold Builder.addText
  split
  · exact h
  split
  next i hi => exact h.extendText (h.lastText? hp hi) text
  next => exact h.addNode (bare_of_empty _ rfl rfl rfl) (hp.imp (⟨·, rfl⟩) id)

theorem addAttribute {e : Nat} (h : t₀.Grown t) (he : t₀.size ≤ e) (a : AttributeEvent) :
    t₀.Grown (Builder.addAttribute e t a) := by
  unfold Builder.addAttribute
  dsimp only
  have hadded : ∀ isId, t₀.Grown (t.addNode e ⟨.attr, some a.name, some a.value, none, #[], #[],
      #[], isId⟩) := fun isId => h.addNode (bare_of_empty _ rfl rfl rfl) (.inr he)
  split
  · exact (hadded _).of_eq rfl (List.prefix_refl _) rfl
  · exact hadded _

theorem addElement (h : t₀.Grown t) (hp : p = 0 ∨ t₀.size ≤ p) (name : QName)
    (attributes : List AttributeEvent) (bindings : List BindingEvent) :
    t₀.Grown (Builder.addElement t p name attributes bindings) := by
  unfold Builder.addElement
  have helement : t₀.Grown (t.addNode p { kind := .element, name := some name }) :=
    h.addNode (bare_of_empty _ rfl rfl rfl) (hp.imp (⟨·, rfl⟩) id)
  have hattributes := List.foldlRecOn (motive := t₀.Grown) attributes
    (Builder.addAttribute t.size) helement fun _ hu a _ =>
    hu.addAttribute h.size_le a
  exact List.foldlRecOn (motive := t₀.Grown) bindings (Builder.addBinding t.size) hattributes
    fun _ hu n _ => hu.addNode (bare_of_empty _ rfl rfl rfl) (.inr h.size_le)

theorem declareEntity (h : t₀.Grown t) (name : String) (publicId : Option String)
    (systemId : String) (notationName : Option String) :
    t₀.Grown (Builder.declareEntity t name publicId systemId notationName) := by
  unfold Builder.declareEntity
  split
  · exact h
  next hnew => exact h.of_eq rfl (Table.prefix_insert hnew _) rfl

/-! ## Rolling back -/

theorem node?_take (s : Nat) (i : Nat) :
    ({ t with nodes := t.nodes.take s } : Tree).node? i = if i < s then t.node? i else none := by
  simp only [node?, Array.take_eq_extract, Array.getElem?_extract, Nat.sub_zero, Nat.zero_add]
  by_cases his : i < s
  · by_cases hit : i < t.nodes.size
    · rw [if_pos (by omega), if_pos his]
    · rw [if_neg (by omega), if_pos his, Array.getElem?_eq_none (by omega)]
  · rw [if_neg (by omega), if_neg his]

theorem node?_truncateChildren (i count j : Nat) : (t.truncateChildren i count).node? j =
    if i = j then (t.node? j).map fun n => { n with children := n.children.take count }
    else t.node? j := by
  simp only [truncateChildren, node?, Array.getElem?_modify]

theorem node?_truncateLastChild {last : Nat} (hlast : (t.node? i).bind (·.children.back?) = some last)
    (bytes j : Nat) : (t.truncateLastChild i bytes).node? j =
    if last = j then (t.node? j).map fun n => { n with value := n.value.map (Text.firstBytes bytes) }
    else t.node? j := by
  simp only [truncateLastChild, hlast]
  simp only [node?, Array.getElem?_modify]

/-- A tree that has grown, without its new nodes and the new children of the root. -/
def cut (t₀ t : Tree) : Tree :=
  Tree.truncateChildren { t with nodes := t.nodes.take t₀.size } 0 t₀.checkpoint.rootChildren

theorem node?_cut_inner (h0 : 0 < i) (hi : i < t₀.size) : (cut t₀ t).node? i = t.node? i := by
  rw [cut, node?_truncateChildren, if_neg (by omega), node?_take, if_pos hi]

/-- Only the text that the root ended with may still be longer. -/
theorem node?_cut (h : t₀.Grown t) (hi : t₀.lastText? 0 ≠ some i) :
    (cut t₀ t).node? i = t₀.node? i := by
  rcases Nat.eq_zero_or_pos i with rfl | h0
  · obtain ⟨added, -, hroot⟩ := h.root
    obtain ⟨n, hn⟩ : ∃ n, t₀.node? 0 = some n := ⟨_, Array.getElem?_eq_getElem h.old.size_pos⟩
    have hcount : t₀.checkpoint.rootChildren = n.children.size := by simp [checkpoint, hn]
    rw [cut, node?_truncateChildren, if_pos rfl, node?_take, if_pos h.old.size_pos, hroot, hn,
      hcount]
    simp
  · by_cases his : i < t₀.size
    · rw [node?_cut_inner h0 his, h.kept i h0 his hi]
    · rw [cut, node?_truncateChildren, if_neg (by omega), node?_take, if_neg his,
        node?_eq_none (by omega)]

theorem node?_rollback (h : t₀.Grown t) (i : Nat) :
    (t.rollback t₀.checkpoint).node? i = t₀.node? i := by
  unfold rollback
  cases hlast : t₀.lastText? 0 with
  | none =>
    have htext : t₀.checkpoint.rootText = none := by simp [checkpoint, hlast]
    rw [htext]
    exact h.node?_cut (by simp [hlast])
  | some last =>
    obtain ⟨h0, hs, n, hn, hvalue⟩ := h.old.exists_lastText hlast
    have htext : t₀.checkpoint.rootText = some n.valueText.utf8ByteSize := by
      simp [checkpoint, hlast, hn]
    have hroot : ((cut t₀ t).node? 0).bind (·.children.back?) = some last := by
      rw [h.node?_cut (by simp [hlast]; omega)]
      have hback := (lastText?_eq_some_iff.1 hlast).1
      cases hnode : t₀.node? 0 with
      | none => simp [childrenOf, hnode] at hback
      | some root => simpa [childrenOf, hnode] using hback
    rw [htext]
    change ((cut t₀ t).truncateLastChild 0 _).node? i = _
    rw [node?_truncateLastChild hroot]
    split
    next heq =>
      obtain ⟨more, hmore⟩ := h.text last hlast
      rw [← heq, node?_cut_inner h0 hs, hmore, hn]
      simp only [Option.map_some, Node.extend, Text.firstBytes_append, ← hvalue]
    next hne => exact h.node?_cut (by simpa [hlast] using hne)

theorem rollback_eq (t : Tree) (cp : Checkpoint) : ∃ nodes, t.rollback cp =
    { nodes, baseUri := cp.baseUri, idAttributes := cp.idAttributes, index := t.index,
      entities := t.entities.filterKeys (cp.entityNames.contains ·) } := by
  unfold rollback
  dsimp only
  split
  · unfold truncateLastChild
    split <;> exact ⟨_, rfl⟩
  · exact ⟨_, rfl⟩

/-- Nothing is left of what has been added. -/
theorem rollback_checkpoint (h : t₀.Grown t) : t.rollback t₀.checkpoint = t₀ := by
  have hnode := h.node?_rollback
  obtain ⟨nodes, heq⟩ := rollback_eq t t₀.checkpoint
  have hnodes : nodes = t₀.nodes := by
    refine Array.ext_getElem? fun i => ?_
    rw [← node?, ← hnode i, heq, node?]
  have hentities : t.entities.filterKeys (t₀.checkpoint.entityNames.contains ·) = t₀.entities :=
    Table.filterKeys_keys h.entities
  rw [heq, hnodes, hentities, h.index]
  rfl

end Grown

end Tree

namespace Builder

variable {t₀ : Tree} {b b' : Builder}

/-- A builder that adds to a tree, with only new elements open. -/
structure Above (t₀ : Tree) (b : Builder) : Prop where
  grown : t₀.Grown b.tree
  open_new : ∀ e ∈ b.openElements, t₀.size ≤ e

namespace Above

theorem current (h : Above t₀ b) : b.current = 0 ∨ t₀.size ≤ b.current := by
  unfold Builder.current
  cases hopen : b.openElements with
  | nil => exact .inl rfl
  | cons e es => exact .inr (h.open_new e (by simp [hopen]))

theorem take (h : Above t₀ b) (event : BuildEvent) : Above t₀ (b.take event) := by
  have hgrown := h.grown
  cases event with
  | startDocument baseUri => exact ⟨hgrown.of_eq rfl (List.prefix_refl _) rfl, h.open_new⟩
  | endDocument => exact ⟨hgrown, h.open_new⟩
  | startElement name attributes bindings =>
    refine ⟨hgrown.addElement h.current name attributes bindings, fun e he => ?_⟩
    rcases List.mem_cons.1 he with rfl | he
    · exact hgrown.size_le
    · exact h.open_new e he
  | endElement => exact ⟨hgrown, fun e he => h.open_new e (List.mem_of_mem_tail he)⟩
  | characters text => exact ⟨hgrown.addText h.current text, h.open_new⟩
  | comment text =>
    exact ⟨hgrown.addNode (Tree.bare_of_empty _ rfl rfl rfl) (h.current.imp (⟨·, rfl⟩) id),
      h.open_new⟩
  | instruction target data =>
    exact ⟨hgrown.addNode (Tree.bare_of_empty _ rfl rfl rfl) (h.current.imp (⟨·, rfl⟩) id),
      h.open_new⟩
  | entity name publicId systemId notationName =>
    exact ⟨hgrown.declareEntity name publicId systemId notationName, h.open_new⟩

theorem refuse (h : Above t₀ b) (event : BuildEvent) : Above t₀ (b.refuse event) := by
  cases event with
  | startElement name attributes bindings =>
    simp only [Builder.refuse]
    split
    · exact h
    · exact ⟨h.grown.addElement h.current name _ _, h.open_new⟩
  | _ => exact h

theorem steps (h : Above t₀ b) (hsteps : Relation.ReflTransGen Step b b') : Above t₀ b' := by
  induction hsteps with
  | refl => exact h
  | tail _ hstep ih =>
    cases hstep with
    | taken _ => exact ih.take _
    | refused _ => exact ih.refuse _

end Above

end Builder

end Grove
