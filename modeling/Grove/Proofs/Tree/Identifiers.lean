/-
The identifiers of a model. They are kept from the first time that one is looked up until a batch
is added; a batch that fails leaves them, and the tree under them, as they were
(`Model.append_of_error`). So those that are kept are always those of the tree as it is
(`Model.Reachable.idIndex_eq`), and what is answered about identifiers is what the attributes of
the tree say at that moment (`Forest.identifiers_current`).

Which attributes a tree has, and which of them identify their elements, is said of the attributes
that were reported for the model (`Model.Written`). An element whose nodes run out of numbers is
refused, but it leaves behind those of its attributes that got one (`Builder.unfinished`).
-/
import Mathlib.Data.Set.Card
import Mathlib.Order.Bounds.Basic
import Grove.Proofs.Tree.Entities

namespace Grove

/-! ## The attributes of a tree -/

/-- What an attribute says: its name, its value, and whether it identifies its element. -/
def Node.attribute? (n : Node) : Option (Option QName × Option String × Bool) :=
  if n.kind = .attr then some (n.name, n.value, n.isId) else none

/-- What a tree keeps of a reported attribute. -/
def AttributeEvent.written (a : AttributeEvent) : Option QName × Option String × Bool :=
  (some a.kept.name, some a.kept.value, a.kept.isId)

theorem Node.attribute?_adopt (n : Node) (kind : NodeKind) (i : Nat) :
    (n.adopt kind i).attribute? = n.attribute? := by
  cases kind <;> rfl

theorem Node.attribute?_of_isText {n : Node} (h : n.isText = true) (text : String) :
    (n.extend text).attribute? = n.attribute? := by
  have hkind : n.kind = .text := by simpa [isText] using h
  simp [attribute?, extend, hkind]

/-- The attributes that an event reports. -/
def BuildEvent.attributes : BuildEvent → List AttributeEvent
  | .startElement _ attributes _ => attributes
  | _ => []

/-- The attributes that a refused event leaves behind: those that got a number. -/
def Builder.unfinished (b : Builder) : BuildEvent → List AttributeEvent
  | .startElement _ attributes _ =>
    if b.ended then [] else attributes.take (Nat.pow 2 nodeIndexBits - b.tree.size - 1)
  | _ => []

/-- What does not change an item for a function may be done to it before. -/
theorem filterMap_modify {α β : Type} {g : α → Option β} {change : α → α} {l : List α} {i : Nat}
    (h : ∀ a, l[i]? = some a → g (change a) = g a) : (l.modify i change).filterMap g = l.filterMap g := by
  induction l generalizing i with
  | nil => simp
  | cons a l ih =>
    cases i with
    | zero => simp [List.filterMap_cons, h a rfl]
    | succ i => simp [List.filterMap_cons, ih fun x hx => h x hx]

namespace Tree

variable {t : Tree} {i p : Nat} {n : Node}

/-- The attributes of a tree in document order. -/
def attributes (t : Tree) : List (Option QName × Option String × Bool) :=
  t.nodes.toList.filterMap Node.attribute?

theorem attributes_addNode (t : Tree) (p : Nat) (n : Node) :
    (t.addNode p n).attributes = t.attributes ++ n.attribute?.toList := by
  have hold : (t.nodes.toList.modify p (·.adopt n.kind t.size)).filterMap Node.attribute? = t.attributes :=
    filterMap_modify fun a _ => a.attribute?_adopt _ _
  have hnew : Node.attribute? { n with parent := some p } = n.attribute? := rfl
  simp only [attributes, addNode, Array.toList_push, Array.toList_modify, List.filterMap_append]
  rw [hold, List.filterMap_cons, hnew]
  cases n.attribute? <;> rfl

theorem attributes_extendText (hi : t.lastText? p = some i) (text : String) :
    (t.extendText i text).attributes = t.attributes := by
  simp only [attributes, extendText, Array.toList_modify]
  refine filterMap_modify fun a ha => Node.attribute?_of_isText ?_ text
  have hnode : t.node? i = some a := by simpa [node?] using ha
  have htext := (lastText?_eq_some_iff.1 hi).2
  simpa [IsText, kindOf?, hnode, Node.isText] using htext

end Tree

namespace Builder

theorem attributes_addAttribute (element : Nat) (t : Tree) (a : AttributeEvent) :
    (addAttribute element t a).attributes = t.attributes ++ [a.written] := by
  have hadded := t.attributes_addNode element
    { kind := .attr, name := some a.name, value := some a.value, isId := a.isId || a.name.isXmlId }
  unfold addAttribute
  dsimp only
  split <;> exact hadded

theorem attributes_addElement (t : Tree) (parent : Nat) (name : QName)
    (attributes : List AttributeEvent) (bindings : List BindingEvent) :
    (addElement t parent name attributes bindings).attributes =
      t.attributes ++ attributes.map AttributeEvent.written := by
  have hattributes : ∀ u : Tree, (attributes.foldl (addAttribute t.size) u).attributes =
      u.attributes ++ attributes.map AttributeEvent.written := by
    induction attributes with
    | nil => simp
    | cons a attributes ih => simp [ih, attributes_addAttribute]
  have hbindings : ∀ u : Tree, (bindings.foldl (addBinding t.size) u).attributes = u.attributes := by
    induction bindings with
    | nil => simp
    | cons n bindings ih => simp [ih, addBinding, Tree.attributes_addNode, Node.attribute?]
  unfold addElement
  rw [hbindings, hattributes, Tree.attributes_addNode]
  simp [Node.attribute?]

theorem attributes_addText (t : Tree) (parent : Nat) (text : String) :
    (addText t parent text).attributes = t.attributes := by
  unfold addText
  split
  · rfl
  split
  next last hlast => exact Tree.attributes_extendText hlast text
  next => simp [Tree.attributes_addNode, Node.attribute?]

theorem attributes_declareEntity (t : Tree) (name : String) (publicId : Option String)
    (systemId : String) (notationName : Option String) :
    (declareEntity t name publicId systemId notationName).attributes = t.attributes := by
  unfold declareEntity
  split <;> rfl

theorem attributes_take (b : Builder) (event : BuildEvent) : (b.take event).tree.attributes =
    b.tree.attributes ++ event.attributes.map AttributeEvent.written := by
  cases event with
  | startElement name attributes bindings => exact attributes_addElement ..
  | characters text => simp [take, BuildEvent.attributes, attributes_addText]
  | entity name publicId systemId notationName =>
    simp [take, BuildEvent.attributes, attributes_declareEntity]
  | comment text => simp [take, BuildEvent.attributes, Tree.attributes_addNode, Node.attribute?]
  | instruction target data =>
    simp [take, BuildEvent.attributes, Tree.attributes_addNode, Node.attribute?]
  | startDocument baseUri => simp [take, BuildEvent.attributes, Tree.attributes]
  | endDocument => simp [take, BuildEvent.attributes]
  | endElement => simp [take, BuildEvent.attributes]

theorem attributes_refuse (b : Builder) (event : BuildEvent) : (b.refuse event).tree.attributes =
    b.tree.attributes ++ (b.unfinished event).map AttributeEvent.written := by
  cases event with
  | startElement name attributes bindings =>
    simp only [refuse, unfinished]
    generalize Nat.pow 2 nodeIndexBits - b.tree.size = room
    by_cases hended : b.ended = true
    · simp [hended]
    · by_cases hroom : room = 0
      · simp [hended, hroom]
      · simp [hended, hroom, attributes_addElement]
  | _ => simp [refuse, unfinished]

end Builder

/-- The attributes that a feed leaves behind, in order. -/
def Feed.written (r : Option ManagerRef) (supplied : Feed → Growth → Run) :
    Feed → Growth → List AttributeEvent
  | .finish _, _ => []
  | .report event next, g =>
    match g.builder.refusal? event with
    | none => event.attributes ++
        written r supplied (next (.ok ())) { g with builder := g.builder.take event }
    | some e => g.builder.unfinished event ++
        written r supplied (next (.error e)) { g with builder := g.builder.refuse event }
  | .request source unique next, g =>
    let (answer, after) := reply r supplied source unique g
    written r supplied (next answer) after
  termination_by structural feed => feed

theorem Feed.attributes_runWith (r : Option ManagerRef) (supplied : Feed → Growth → Run) :
    ∀ (feed : Feed) (g : Growth), (feed.runWith r supplied g).2.builder.tree.attributes =
      g.builder.tree.attributes ++ (feed.written r supplied g).map AttributeEvent.written
  | .finish _, g => by simp [runWith, written]
  | .report event next, g => by
    rw [runWith, written]
    cases hevent : g.builder.refusal? event with
    | none =>
      have hrest := attributes_runWith r supplied (next (.ok ()))
        { g with builder := g.builder.take event }
      rw [hrest, Builder.attributes_take, List.map_append, List.append_assoc]
    | some e =>
      have hrest := attributes_runWith r supplied (next (.error e))
        { g with builder := g.builder.refuse event }
      rw [hrest, Builder.attributes_refuse, List.map_append, List.append_assoc]
  | .request source unique next, g => by
    have hbuilder : (reply r supplied source unique g).2.builder = g.builder :=
      builder_reply source unique g
    rw [runWith_request, written, ← hbuilder]
    exact attributes_runWith r supplied (next _) _
  termination_by structural feed => feed

namespace Model

/-- The models there can be, each with the attributes that were reported for it and got a number. -/
inductive Written : List AttributeEvent → Model → Prop
  | built {f : Forest} {id : ModelId} {systemId : Option String} {r : Option ManagerRef}
      {supplied : Feed → Growth → Run} {feed : Feed} {m : Model} :
      (f.build id systemId (feed.runWith r supplied)).1 = .ok m →
      Written (feed.written r supplied (scratch f)) m
  | fragment (id : ModelId) : Written [] (emptyFragment id)
  | appended {attributes : List AttributeEvent} {m m' : Model} {feed : Feed} :
      Written attributes m → m.append feed = (.ok (), m') →
      Written (attributes ++ feed.written none (fun _ g => (.ok (), g)) m.reopened) m'
  | failed {attributes : List AttributeEvent} {m m' : Model} {feed : Feed} {e : TreeError} :
      Written attributes m → m.append feed = (.error e, m') → Written attributes m'
  | lookedUp {attributes : List AttributeEvent} {m : Model} : Written attributes m →
      Written attributes { m with tree := m.tree.keepIndex }

variable {attributes : List AttributeEvent} {m m' : Model} {feed : Feed}

theorem Written.reachable (h : Written attributes m) : m.Reachable := by
  induction h with
  | built hbuild => exact .built hbuild
  | fragment id => exact .fragment id
  | @appended _ _ _ feed _ happend ih =>
    have hlater := ih.append feed
    rwa [happend] at hlater
  | @failed _ _ _ feed _ _ happend ih =>
    have hlater := ih.append feed
    rwa [happend] at hlater
  | lookedUp _ ih => exact ih.lookedUp

theorem Reachable.written (h : m.Reachable) : ∃ attributes, Written attributes m := by
  induction h with
  | built hbuild => exact ⟨_, .built hbuild⟩
  | fragment id => exact ⟨_, .fragment id⟩
  | @append m feed _ ih =>
    obtain ⟨attributes, hwritten⟩ := ih
    cases happend : m.append feed with
    | mk result m' =>
      cases result with
      | ok _ => exact ⟨_, hwritten.appended happend⟩
      | error e => exact ⟨_, hwritten.failed happend⟩
  | lookedUp _ ih => exact ih.imp fun _ hwritten => hwritten.lookedUp

/-- The attributes of a model are those that were reported for it, in that order. -/
theorem Written.attributes_eq (h : Written attributes m) :
    m.tree.attributes = attributes.map AttributeEvent.written := by
  induction h with
  | @built f _ _ r supplied feed _ hbuild =>
    obtain ⟨t, hfinish, rfl⟩ := Forest.build_eq_ok hbuild
    rw [(Builder.finish_eq_ok_iff.1 hfinish).2]
    exact feed.attributes_runWith r supplied (scratch f)
  | fragment id => rfl
  | @appended attributes m m' feed _ happend ih =>
    obtain ⟨-, rfl⟩ := append_eq_ok happend
    rw [List.map_append, ← ih]
    exact feed.attributes_runWith none (fun _ g => (.ok (), g)) m.reopened
  | failed hwritten happend ih => rwa [append_of_error hwritten.reachable.wellFormed happend]
  | lookedUp _ ih => exact ih

end Model

/-! ## Identifiers as they are looked up -/

/-- A node is an attribute that identifies its element by what it says, without the blanks around
it. -/
def Node.GivesId (n : Node) (id : String) : Prop :=
  n.kind = .attr ∧ n.isId = true ∧ ∃ value, n.value = some value ∧ Text.trim value = id

/-- What a node identifies the node above it by. -/
def Node.identifier? (n : Node) : Option (String × Nat) :=
  if n.kind == .attr && n.isId then
    match n.parent, n.value with
    | some owner, some value => some (Text.trim value, owner)
    | _, _ => none
  else none

theorem Node.identifier?_eq_some_iff {n : Node} {id : String} {p : Nat} :
    n.identifier? = some (id, p) ↔ n.GivesId id ∧ n.parent = some p := by
  unfold identifier? GivesId
  by_cases hkind : n.kind = .attr <;> by_cases hid : n.isId = true <;>
    cases n.parent <;> cases n.value <;> simp [hkind, hid]

namespace Tree

variable {t : Tree} {a p : Nat} {n : Node} {id : String}

def GivesId (t : Tree) (a : Nat) (id : String) : Prop := ∃ n, t.node? a = some n ∧ n.GivesId id

theorem identifiers_eq (t : Tree) : t.identifiers = t.nodes.toList.filterMap Node.identifier? := rfl

/-- Identifying attributes stand on a node. -/
def Attached (t : Tree) : Prop := ∀ a id, t.GivesId a id → t.parentOf a ≠ none

theorem Attached.any_identifier? (h : t.Attached) (hn : t.node? a = some n) :
    n.identifier?.any (·.1 == id) = true ↔ t.GivesId a id := by
  constructor
  · intro hany
    obtain ⟨⟨id', p⟩, hid, heq⟩ := (Option.any_eq_true _ _).1 hany
    obtain rfl : id' = id := by simpa using heq
    exact ⟨n, hn, (Node.identifier?_eq_some_iff.1 hid).1⟩
  · intro hgives
    obtain ⟨p, hp⟩ := Option.ne_none_iff_exists'.1 (h a id hgives)
    obtain ⟨n', hn', hgives⟩ := hgives
    obtain rfl := Option.some_inj.1 (hn.symm.trans hn')
    have hparent : n.parent = some p := by simpa [parentOf, hn] using hp
    rw [Node.identifier?_eq_some_iff.2 ⟨hgives, hparent⟩]
    simp

/-- The first attribute of a tree that gives an identifier. -/
theorem Attached.find?_eq_some_iff (h : t.Attached) :
    t.nodes.toList.find? (fun n => n.identifier?.any (·.1 == id)) = some n ↔
      ∃ a, IsLeast {a | t.GivesId a id} a ∧ t.node? a = some n := by
  have hnode : ∀ a (ha : a < t.nodes.toList.length), t.node? a = some t.nodes.toList[a] := by
    intro a ha
    simp only [Array.length_toList] at ha
    simp [node?, ha]
  rw [List.find?_eq_some_iff_getElem]
  constructor
  · rintro ⟨hany, a, ha, rfl, hfirst⟩
    refine ⟨a, ⟨(h.any_identifier? (hnode a ha)).1 hany, fun b hb => ?_⟩, hnode a ha⟩
    by_contra hlt
    have hlt : b < a := not_le.1 hlt
    have hnot := hfirst b hlt
    rw [(h.any_identifier? (hnode b (hlt.trans ha))).2 hb] at hnot
    exact absurd hnot (by decide)
  · rintro ⟨a, ⟨hgives, hleast⟩, hn⟩
    obtain ⟨ha, rfl⟩ := Array.getElem?_eq_some_iff.1 hn
    refine ⟨(h.any_identifier? hn).2 hgives, a, by simpa using ha, by simp, fun b hb => ?_⟩
    have hlt : b < t.nodes.toList.length := by simpa using hb.trans ha
    rw [Bool.not_eq_true', Bool.eq_false_iff]
    intro hany
    exact absurd (hleast ((h.any_identifier? (hnode b hlt)).1 hany)) (not_le.2 hb)

theorem exists_isLeast_of_givesId (h : t.GivesId a id) : ∃ a, IsLeast {a | t.GivesId a id} a := by
  classical
  exact ⟨Nat.find ⟨a, h⟩, Nat.find_spec ⟨a, h⟩, fun b hb => Nat.find_min' _ hb⟩

/-- The element that an identifier identifies is the one on which the first attribute stands that
gives it. -/
theorem Attached.elementById_eq_some_iff (h : t.Attached) (hindex : t.idIndex = t.identifiers) :
    t.elementById id = some p ↔ ∃ a, IsLeast {a | t.GivesId a id} a ∧ t.parentOf a = some p := by
  rw [elementById, hindex, identifiers_eq, List.find?_filterMap, Option.map_eq_some_iff]
  simp only [Option.bind_eq_some_iff]
  constructor
  · rintro ⟨⟨id', _⟩, ⟨n, hfind, hid⟩, rfl⟩
    obtain ⟨a, hleast, hn⟩ := h.find?_eq_some_iff.1 hfind
    exact ⟨a, hleast, by simp [parentOf, hn, (Node.identifier?_eq_some_iff.1 hid).2]⟩
  · rintro ⟨a, hleast, hp⟩
    obtain ⟨n, hn, hgives⟩ := hleast.1
    have hparent : n.parent = some p := by simpa [parentOf, hn] using hp
    exact ⟨(id, p), ⟨n, h.find?_eq_some_iff.2 ⟨a, hleast, hn⟩,
      Node.identifier?_eq_some_iff.2 ⟨hgives, hparent⟩⟩, rfl⟩

theorem Attached.elementById_eq_none_iff (h : t.Attached) (hindex : t.idIndex = t.identifiers) :
    t.elementById id = none ↔ ∀ a, ¬t.GivesId a id := by
  constructor
  · intro hnone a hgives
    obtain ⟨a, hleast⟩ := exists_isLeast_of_givesId hgives
    obtain ⟨p, hp⟩ := Option.ne_none_iff_exists'.1 (h a id hleast.1)
    simp [(h.elementById_eq_some_iff hindex).2 ⟨a, hleast, hp⟩] at hnone
  · intro hnone
    refine Option.eq_none_iff_forall_ne_some.2 fun p hp => ?_
    obtain ⟨a, hleast, -⟩ := (h.elementById_eq_some_iff hindex).1 hp
    exact hnone a hleast.1

theorem Attached.mem_identifiers_iff (h : t.Attached) :
    id ∈ t.identifiers.map (·.1) ↔ ∃ a, t.GivesId a id := by
  rw [identifiers_eq, List.mem_map]
  constructor
  · rintro ⟨⟨id, p⟩, hmem, rfl⟩
    obtain ⟨n, hn, hid⟩ := List.mem_filterMap.1 hmem
    obtain ⟨a, ha, rfl⟩ := List.getElem_of_mem hn
    refine ⟨a, _, ?_, (Node.identifier?_eq_some_iff.1 hid).1⟩
    simp only [Array.length_toList] at ha
    simp [node?, ha]
  · rintro ⟨a, hgives⟩
    obtain ⟨p, hp⟩ := Option.ne_none_iff_exists'.1 (h a id hgives)
    obtain ⟨n, hn, hgives⟩ := hgives
    have hparent : n.parent = some p := by simpa [parentOf, hn] using hp
    have hmem : n ∈ t.nodes.toList := Array.mem_toList_iff.2 (Array.mem_of_getElem? hn)
    exact ⟨(id, p), List.mem_filterMap.2 ⟨n, hmem, Node.identifier?_eq_some_iff.2 ⟨hgives, hparent⟩⟩, rfl⟩

theorem card_toFinset_eq_length_eraseDups : ∀ ids : List String, ids.toFinset.card = ids.eraseDups.length
  | [] => rfl
  | id :: ids => by
    have hrest := card_toFinset_eq_length_eraseDups (ids.filter fun other => !other == id)
    have hinsert : (id :: ids).toFinset = insert id (ids.filter fun other => !other == id).toFinset := by
      ext other
      by_cases heq : other = id <;> simp [heq]
    rw [hinsert, Finset.card_insert_of_notMem (by simp), hrest, List.eraseDups_cons, List.length_cons]
  termination_by ids => ids.length
  decreasing_by exact Nat.lt_succ_of_le (List.length_filter_le _ _)

/-- The identifiers are counted as often as they differ. -/
theorem Attached.encard_eq_identifierCount (h : t.Attached) (hindex : t.idIndex = t.identifiers) :
    {id | ∃ a, t.GivesId a id}.encard = t.identifierCount := by
  have hset : {id | ∃ a, t.GivesId a id} = ((t.identifiers.map (·.1)).toFinset : Set String) := by
    ext id
    simp only [Set.mem_ofPred_eq, Finset.mem_coe, List.mem_toFinset, h.mem_identifiers_iff]
  rw [hset, Set.encard_coe_eq_coe_finsetCard, card_toFinset_eq_length_eraseDups, identifierCount, hindex]

theorem WellFormed.attached (h : t.WellFormed) : t.Attached := by
  rintro a id ⟨n, hn, hkind, -⟩
  obtain ⟨ha, -⟩ := Array.getElem?_eq_some_iff.1 hn
  obtain ⟨root, hroot, hisRoot, -⟩ := h.root
  have hpos : 0 < a := by
    refine Nat.pos_of_ne_zero ?_
    rintro rfl
    obtain rfl : n.kind = root := by simpa [kindOf?, hn] using hroot
    simp [hkind, NodeKind.isRoot] at hisRoot
  obtain ⟨-, p, -, -, hp, -⟩ := h.inner a hpos ha
  simp [hp]

end Tree

namespace Model

variable {m : Model}

/-- The identifiers that are kept are those of the tree as it is. -/
theorem Reachable.idIndex_eq (h : m.Reachable) : m.tree.idIndex = m.tree.identifiers := by
  induction h with
  | @built f _ _ r supplied feed _ hbuild =>
    have hsteps := feed.runWith_steps r supplied (scratch f)
    have hroot : (Tree.ofRoot .document).WellFormed := Tree.wellFormed_ofRoot rfl
    have habove := (Builder.above_ofTree hroot).steps hsteps
    obtain ⟨t, hfinish, rfl⟩ := Forest.build_eq_ok hbuild
    obtain rfl := (Builder.finish_eq_ok_iff.1 hfinish).2
    have hindex : (feed.runWith r supplied (scratch f)).2.builder.tree.index = none := habove.grown.index
    show Tree.idIndex (feed.runWith r supplied (scratch f)).2.builder.tree = _
    rw [Tree.idIndex, hindex]
    rfl
  | fragment id => rfl
  | @append m feed hbefore ih =>
    cases happend : m.append feed with
    | mk result m' =>
      cases result with
      | ok _ =>
        obtain ⟨-, rfl⟩ := append_eq_ok happend
        rfl
      | error e => rwa [append_of_error hbefore.wellFormed happend]
  | lookedUp _ ih => exact ih

/-- An identifier is given by a node exactly if an attribute was reported that is declared to
identify its element, or is xml:id, and says this. -/
theorem Written.exists_givesId_iff {attributes : List AttributeEvent} (h : Written attributes m)
    {id : String} : (∃ a, m.tree.GivesId a id) ↔
      ∃ a ∈ attributes, (a.isId || a.name.isXmlId) = true ∧ Text.trim a.value = id := by
  have hmem : (∃ a, m.tree.GivesId a id) ↔
      ∃ entry ∈ m.tree.attributes, entry.2.2 = true ∧ entry.2.1.map Text.trim = some id := by
    constructor
    · rintro ⟨a, n, hn, hkind, hid, value, hvalue, rfl⟩
      have hnode : n ∈ m.tree.nodes.toList := Array.mem_toList_iff.2 (Array.mem_of_getElem? hn)
      exact ⟨(n.name, n.value, n.isId), List.mem_filterMap.2 ⟨n, hnode, if_pos hkind⟩, hid,
        by simp [hvalue]⟩
    · rintro ⟨entry, hentry, hid, hvalue⟩
      obtain ⟨n, hnode, hn⟩ := List.mem_filterMap.1 hentry
      obtain ⟨hkind, hn⟩ := Option.ite_none_right_eq_some.1 hn
      obtain rfl := Option.some_inj.1 hn
      obtain ⟨a, ha⟩ := Array.getElem?_of_mem (Array.mem_toList_iff.1 hnode)
      obtain ⟨value, hvalue, htrim⟩ := Option.map_eq_some_iff.1 hvalue
      exact ⟨a, n, ha, hkind, hid, value, hvalue, htrim⟩
  rw [hmem, h.attributes_eq]
  simp [AttributeEvent.written, AttributeEvent.kept]

/-- What is answered about the identifiers of a model is what its attributes say. -/
structure Answered (m : Model) (lookup : String → Option NodeHandle) (count : Nat) : Prop where
  reported : ∃ attributes, m.Written attributes
  /-- The attributes are those that were reported. -/
  attributes : ∀ attributes, m.Written attributes →
    m.tree.attributes = attributes.map AttributeEvent.written
  /-- Those that are declared to, or are xml:id, give an identifier. -/
  given : ∀ attributes, m.Written attributes → ∀ id, (∃ a, m.tree.GivesId a id) ↔
    ∃ a ∈ attributes, (a.isId || a.name.isXmlId) = true ∧ Text.trim a.value = id
  /-- The first that gives an identifier stands on the element that is found. -/
  found : ∀ id node, lookup id = some node ↔
    ∃ a p, IsLeast {a | m.tree.GivesId a id} a ∧ m.tree.parentOf a = some p ∧ node = m.handle p
  missing : ∀ id, lookup id = none ↔ ∀ a, ¬m.tree.GivesId a id
  /-- An identifier that several attributes give is counted once. -/
  counted : {id | ∃ a, m.tree.GivesId a id}.encard = count

theorem Reachable.answered (h : m.Reachable) : m.Answered m.elementById m.tree.identifierCount where
  reported := h.written
  attributes _ hwritten := hwritten.attributes_eq
  given _ hwritten _ := hwritten.exists_givesId_iff
  found id node := by
    rw [elementById, Option.map_eq_some_iff]
    simp only [h.wellFormed.attached.elementById_eq_some_iff h.idIndex_eq]
    constructor
    · rintro ⟨p, ⟨a, hleast, hp⟩, rfl⟩
      exact ⟨a, p, hleast, hp, rfl⟩
    · rintro ⟨a, p, hleast, hp, rfl⟩
      exact ⟨p, ⟨a, hleast, hp⟩, rfl⟩
  missing id := by
    rw [elementById, Option.map_eq_none_iff, h.wellFormed.attached.elementById_eq_none_iff h.idIndex_eq]
  counted := h.wellFormed.attached.encard_eq_identifierCount h.idIndex_eq

end Model

namespace Forest

variable {f : Forest} {ref : ModelRef}

/-- What may be done to a model: a batch is added, an identifier is looked up, or the identifiers
are counted. -/
inductive Use where
  | append (feed : Feed)
  | elementById (id : String)
  | buildIndex

def use (ref : ModelRef) (f : Forest) : Use → Forest
  | .append feed => (f.append ref feed).2
  | .elementById id => (f.elementById ref id).2
  | .buildIndex => (f.buildIndex ref).2

theorem model_setTree (f : Forest) (ref : ModelRef) (t : Tree) :
    (f.setTree ref t).model ref = { f.model ref with tree := t } ∨ f.setTree ref t = f := by
  by_cases hplace : ref.place < f.trees.size
  · exact .inl (by simp [setTree, model, hplace])
  · refine .inr ?_
    rw [setTree, Array.setIfInBounds, dif_neg hplace]

/-- Whatever is done to a model leaves a model that there can be. -/
theorem reachable_use (h : (f.model ref).Reachable) (u : Use) : ((f.use ref u).model ref).Reachable := by
  have hset : ∀ t : Tree, Model.Reachable { f.model ref with tree := t } →
      ((f.setTree ref t).model ref).Reachable := by
    intro t ht
    rcases f.model_setTree ref t with heq | heq
    · rwa [heq]
    · rwa [heq]
  cases u with
  | append feed =>
    have hsame : ((f.model ref).append feed).2 =
        { f.model ref with tree := ((f.model ref).append feed).2.tree } := by
      rcases (f.model ref).append_cases feed with ⟨-, e, heq⟩ | ⟨b, -, heq | ⟨e, heq⟩⟩ <;> rw [heq]
    exact hset _ (hsame ▸ h.append feed)
  | elementById id => exact hset _ h.lookedUp
  | buildIndex => exact hset _ h.lookedUp

/-- Identifiers are looked up and counted as the attributes of a model are at that moment, however
often that was done before and whichever batches were added or failed in between. -/
theorem identifiers_current (h : (f.model ref).Reachable) (uses : List Use) :
    ((uses.foldl (use ref) f).model ref).Answered (fun id => ((uses.foldl (use ref) f).elementById ref id).1)
      ((uses.foldl (use ref) f).buildIndex ref).1 := by
  have hreachable : ((uses.foldl (use ref) f).model ref).Reachable :=
    List.foldlRecOn (motive := fun f => (f.model ref).Reachable) uses (use ref) h
      fun _ hf u _ => reachable_use hf u
  exact hreachable.answered

/-- A manager's fragment, alone in its forest. -/
def loneFragment : ModelRef := ⟨0, ⟨0⟩, none, true⟩

/-- An identifier is given and looked up; a batch that gives another one fails; and a batch gives
the first one anew, with another two. -/
def lookupsBetween : List Use :=
  [.append (.ofEvents [.startElement (.plain "e") [.named "a" "x", .identifying "b" " x "] [], .endElement]),
    .elementById "x",
    .append (.ofEvents [.startElement (.plain "e") [.identifying "b" "y"] []]),
    .elementById "y",
    .append (.ofEvents [.startElement (.plain "e") [.named "xml:id" "x"] [], .endElement,
      .startElement (.plain "e") [.named "xml:id" "z", .identifying "b" "w"] [], .endElement]),
    .buildIndex]

theorem identifiers_current_between : ∃ f : Forest, (f.model loneFragment).Reachable ∧
    ((lookupsBetween.foldl (use loneFragment) f).model loneFragment).Answered
      (fun id => ((lookupsBetween.foldl (use loneFragment) f).elementById loneFragment id).1) 3 ∧
    ((lookupsBetween.foldl (use loneFragment) f).elementById loneFragment "x").1 = some (.make ⟨0⟩ 1) ∧
    ((lookupsBetween.foldl (use loneFragment) f).elementById loneFragment "y").1 = none ∧
    ((lookupsBetween.foldl (use loneFragment) f).elementById loneFragment "z").1 = some (.make ⟨0⟩ 6) := by
  let f : Forest := { trees := #[Tree.ofRoot .fragment] }
  have hreachable : (f.model loneFragment).Reachable := .fragment ⟨0⟩
  have hcurrent := identifiers_current hreachable lookupsBetween
  have hcount : ((lookupsBetween.foldl (use loneFragment) f).buildIndex loneFragment).1 = 3 := by
    decide +kernel
  rw [hcount] at hcurrent
  exact ⟨f, hreachable, hcurrent, by decide +kernel, by decide +kernel, by decide +kernel⟩

end Forest

end Grove
