/-
The events of a tree, read off it by a walk from the root: an element with its attributes
and its declared namespaces, then its children, then its end; and a text, a comment or an
instruction where it stands.

A tree grows at its edge, and so do its events. The nodes on the path from the last node to
the root have begun and not ended (`begun`); whatever happens below the first of them, what
the walk told before is told again (`Growing.exists_before`).
-/
import Grove.Proofs.Tree.Building
import Grove.Proofs.Tree.Order

namespace Grove

/-- A node but for its children. -/
def Node.shell (n : Node) : Node := { n with children := #[] }

@[simp] theorem Node.name_adopt (n : Node) (kind : NodeKind) (i : Nat) :
    (n.adopt kind i).name = n.name := by
  cases kind <;> rfl

namespace Tree

/-- The name of a node, empty where there is none. -/
def writtenName (t : Tree) (i : Nat) : QName := (t.nameOf i).getD (.plain "")

/-- Whether a node is an attribute that identifies its element. -/
def identifies (t : Tree) (i : Nat) : Bool := ((t.node? i).map (·.isId)).getD false

def attributeEvents (t : Tree) (i : Nat) : List AttributeEvent :=
  (t.attributesOf i).map fun a => ⟨t.writtenName a, t.valueOf a, t.identifies a⟩

def bindingEvents (t : Tree) (i : Nat) : List BindingEvent :=
  (t.bindingsOf i).map fun b => ⟨(t.writtenName b).qualifier, t.valueOf b⟩

/-- What is told when the walk comes to a node. -/
def opening (t : Tree) (i : Nat) : List BuildEvent :=
  match t.kindOf? i with
  | some .element => [.startElement (t.writtenName i) (t.attributeEvents i) (t.bindingEvents i)]
  | some .text => [.characters (t.valueOf i)]
  | some .comment => [.comment (t.valueOf i)]
  | some .instruction => [.instruction (t.writtenName i).localName (t.valueOf i)]
  | _ => []

/-- What is told when the walk leaves a node. -/
def closing (t : Tree) (i : Nat) : List BuildEvent :=
  if t.kindOf? i = some .element then [.endElement] else []

/-- What a walk tells of a node and all that is below it. -/
def report (t : Tree) (i : Nat) : List BuildEvent :=
  t.opening i ++ ((t.laterChildren i).attach.flatMap fun ⟨c, _⟩ => t.report c) ++ t.closing i
termination_by t.size - i
decreasing_by
  have := mem_laterChildren ‹c ∈ t.laterChildren i›
  omega

/-- What a walk tells of a node and all that is below it before it leaves the node. -/
def begun (t : Tree) (i : Nat) : List BuildEvent := t.opening i ++ (t.childrenOf i).flatMap t.report

variable {t t' : Tree} {i j k c p x : Nat} {l init rest : List Nat}

namespace WellFormed

theorem lt_of_mem_listed (h : t.WellFormed) {place : Place} (hi : i ∈ t.listed p place) : p < i :=
  h.parentOf_lt (h.mem_listed_iff.1 hi).1

theorem mem_childrenOf_iff (h : t.WellFormed) : i ∈ t.childrenOf p ↔
    t.parentOf i = some p ∧ (t.kindOf? i).map (·.place) = some .children := by
  rw [← listed_children, h.mem_listed_iff]

theorem lt_of_mem_childrenOf (h : t.WellFormed) (hi : i ∈ t.childrenOf p) : p < i :=
  h.parentOf_lt (h.mem_childrenOf_iff.1 hi).1

theorem laterChildren_eq (h : t.WellFormed) (i : Nat) : t.laterChildren i = t.childrenOf i := by
  refine List.filter_eq_self.2 fun c hc => ?_
  simp [h.lt_of_mem_childrenOf hc, h.lt_size_of_mem_children hc]

theorem report_eq (h : t.WellFormed) (i : Nat) : t.report i = t.begun i ++ t.closing i := by
  rw [report, begun, ← h.laterChildren_eq]
  simp

/-- The members of a node up to a child of it are met before the child. -/
theorem spans_before (h : t.WellFormed) (hp : p < t.size) (hlast : t.childrenOf p = init ++ c :: l) :
    Spans t.members (t.attributesOf p ++ t.bindingsOf p ++ init) (p + 1) c := by
  obtain ⟨j, -, hwalk⟩ := h.order.sub (Nat.zero_le p) hp
  have hmembers : t.members p = (t.attributesOf p ++ t.bindingsOf p ++ init) ++ c :: l := by
    rw [List.append_assoc, ← hlast]
    rfl
  obtain ⟨k, hbefore, hc⟩ := (hmembers ▸ (Spans.singleton_iff.1 hwalk).2).split
  cases hc with
  | cons _ _ => exact hbefore

end WellFormed

/-! ## What the walk looks at -/

/-- Two trees have the same node at a place, but for its children. -/
def SameShell (t t' : Tree) (i : Nat) : Prop :=
  (t'.node? i).map Node.shell = (t.node? i).map Node.shell

namespace SameShell

theorem of_eq (h : t'.node? i = t.node? i) : t.SameShell t' i := congrArg (Option.map Node.shell) h

theorem bind_eq {α : Type} (h : t.SameShell t' i) (f : Node → Option α)
    (hf : ∀ n, f n.shell = f n) : (t'.node? i).bind f = (t.node? i).bind f := by
  have := congrArg (·.bind f) h
  simpa only [Option.bind_map, Function.comp_def, hf] using this

theorem map_eq {α : Type} (h : t.SameShell t' i) (f : Node → α) (hf : ∀ n, f n.shell = f n) :
    (t'.node? i).map f = (t.node? i).map f := by
  have := congrArg (·.map f) h
  simpa only [Option.map_map, Function.comp_def, hf] using this

theorem kindOf?_eq (h : t.SameShell t' i) : t'.kindOf? i = t.kindOf? i :=
  h.map_eq (·.kind) fun _ => rfl

theorem writtenName_eq (h : t.SameShell t' i) : t'.writtenName i = t.writtenName i := by
  rw [writtenName, nameOf, h.bind_eq (·.name) fun _ => rfl, writtenName, nameOf]

theorem valueOf_eq (h : t.SameShell t' i) : t'.valueOf i = t.valueOf i := by
  rw [valueOf, h.map_eq (·.valueText) fun _ => rfl, valueOf]

theorem identifies_eq (h : t.SameShell t' i) : t'.identifies i = t.identifies i := by
  rw [identifies, h.map_eq (·.isId) fun _ => rfl, identifies]

theorem attributesOf_eq (h : t.SameShell t' i) : t'.attributesOf i = t.attributesOf i := by
  rw [attributesOf, h.map_eq (·.attributes.toList) fun _ => rfl, attributesOf]

theorem bindingsOf_eq (h : t.SameShell t' i) : t'.bindingsOf i = t.bindingsOf i := by
  rw [bindingsOf, h.map_eq (·.bindings.toList) fun _ => rfl, bindingsOf]

theorem attributeEvents_eq (h : t.SameShell t' i) (hsame : ∀ a ∈ t.attributesOf i, t.SameShell t' a) :
    t'.attributeEvents i = t.attributeEvents i := by
  rw [attributeEvents, attributeEvents, h.attributesOf_eq]
  refine List.map_congr_left fun a ha => ?_
  rw [(hsame a ha).writtenName_eq, (hsame a ha).valueOf_eq, (hsame a ha).identifies_eq]

theorem bindingEvents_eq (h : t.SameShell t' i) (hsame : ∀ b ∈ t.bindingsOf i, t.SameShell t' b) :
    t'.bindingEvents i = t.bindingEvents i := by
  rw [bindingEvents, bindingEvents, h.bindingsOf_eq]
  refine List.map_congr_left fun b hb => ?_
  rw [(hsame b hb).writtenName_eq, (hsame b hb).valueOf_eq]

theorem closing_eq (h : t.SameShell t' i) : t'.closing i = t.closing i := by
  rw [closing, closing, h.kindOf?_eq]

theorem opening_eq (h : t.SameShell t' i)
    (hsame : ∀ x ∈ t.attributesOf i ++ t.bindingsOf i, t.SameShell t' x) :
    t'.opening i = t.opening i := by
  rw [opening, opening, h.kindOf?_eq, h.writtenName_eq, h.valueOf_eq,
    h.attributeEvents_eq fun a ha => hsame a (List.mem_append_left _ ha),
    h.bindingEvents_eq fun b hb => hsame b (List.mem_append_right _ hb)]

end SameShell

/-- What the walk tells of nodes depends only on the nodes it meets. -/
theorem report_congr (h : t.WellFormed) (h' : t'.WellFormed) (hs : Spans t.members l i k)
    (hsame : ∀ y, i ≤ y → y < k → t'.node? y = t.node? y) : ∀ x ∈ l, t'.report x = t.report x := by
  induction hs with
  | nil => simp
  | @cons i j k rest hbelow hrest ihbelow ihrest =>
    have hij := hbelow.le
    have hjk := hrest.le
    intro x hx
    rcases List.mem_cons.1 hx with rfl | hx
    · have hnode := hsame x (Nat.le_refl x) (by omega)
      have hmember : ∀ y ∈ t.members x, t.SameShell t' y := fun y hy =>
        .of_eq (hsame y (by have := hbelow.bounds hy; omega) (by have := hbelow.bounds hy; omega))
      have hreports : ∀ c ∈ t.childrenOf x, t'.report c = t.report c := fun c hc =>
        ihbelow (fun y hy hyj => hsame y (by omega) (by omega)) c (List.mem_append_right _ hc)
      have hchildren : t'.childrenOf x = t.childrenOf x := by rw [childrenOf, childrenOf, hnode]
      rw [h'.report_eq, h.report_eq, begun, begun, (SameShell.of_eq hnode).closing_eq,
        (SameShell.of_eq hnode).opening_eq fun y hy => hmember y (List.mem_append_left _ hy),
        hchildren, List.flatMap_congr hreports]
    · exact ihrest (fun y hy hyk => hsame y (by omega) hyk) x hx

/-- What is told of a node and its first children. -/
theorem told_congr (h : t.WellFormed) (h' : t'.WellFormed) (hshell : t.SameShell t' p)
    (hs : Spans t.members (t.attributesOf p ++ t.bindingsOf p ++ init) (p + 1) k)
    (hsame : ∀ y, p < y → y < k → t'.node? y = t.node? y) :
    t'.opening p ++ init.flatMap t'.report = t.opening p ++ init.flatMap t.report := by
  have hreports := report_congr h h' hs hsame
  rw [hshell.opening_eq, List.flatMap_congr fun c hc => hreports c (List.mem_append_right _ hc)]
  intro x hx
  have hbounds := hs.bounds (List.mem_append_left _ hx)
  exact .of_eq (hsame x (by omega) hbounds.2)

/-- A child of a node is told after the node and the children before it. -/
theorem begun_last (h : t.WellFormed) (h' : t'.WellFormed) (hp : p < t.size)
    (hshell : t.SameShell t' p) (hlast : t.childrenOf p = init ++ [c])
    (hlast' : t'.childrenOf p = init ++ [c]) (hsame : ∀ y, p < y → y < c → t'.node? y = t.node? y) :
    ∃ told, t.begun p = told ++ t.report c ∧ t'.begun p = told ++ t'.report c := by
  refine ⟨t.opening p ++ init.flatMap t.report, ?_, ?_⟩
  · simp [begun, hlast]
  · rw [← told_congr h h' hshell (h.spans_before hp hlast) hsame]
    simp [begun, hlast']

namespace Growing

/-- What the walk tells before it comes to the edge does not depend on the edge, and what it
tells after it are ends. -/
theorem exists_before (h : t.Growing (c :: rest)) (h' : t'.WellFormed)
    (hkind : t'.kindOf? c = t.kindOf? c) (hsame : ∀ y < c, t'.node? y = t.node? y) :
    ∃ before, t.report 0 = before ++ t.begun c ++ .replicate rest.length .endElement ∧
      t'.report 0 = before ++ t'.begun c ++ .replicate rest.length .endElement := by
  induction rest generalizing c with
  | nil =>
    obtain rfl : c = 0 := h.trail
    obtain ⟨kind, hroot, hisRoot, -⟩ := h.wellFormed.root
    have hnot : kind ≠ .element := by rintro rfl; simp [NodeKind.isRoot] at hisRoot
    refine ⟨[], ?_, ?_⟩
    · simp [h.wellFormed.report_eq, closing, hroot, hnot]
    · simp [h'.report_eq, closing, hkind, hroot, hnot]
  | cons p rest ih =>
    have hwf := h.wellFormed
    have hpc := h.trail.lt hwf.order
    have helement : t.kindOf? c = some .element := (h.elements c (by simp)).resolve_left (by omega)
    obtain ⟨before, hold, hnew⟩ := ih h.tail (by rw [kindOf?, kindOf?, hsame p hpc])
      fun y hy => hsame y (by omega)
    have hmem : c ∈ t.childrenOf p := by
      rw [hwf.mem_childrenOf_iff, helement]
      exact ⟨hwf.mem_members_iff.1 (List.mem_of_getLast? h.trail.1), rfl⟩
    obtain ⟨init, hlast⟩ : ∃ init, t.childrenOf p = init ++ [c] := by
      rw [← List.getLast?_eq_some_iff, ← h.trail.1, members]
      exact (List.getLast?_append_of_ne_nil _ (List.ne_nil_of_mem hmem)).symm
    have hchildren : t'.childrenOf p = t.childrenOf p := by rw [childrenOf, childrenOf, hsame p hpc]
    obtain ⟨told, htold, htold'⟩ := begun_last hwf h' h.tail.lt_size (.of_eq (hsame p hpc)) hlast
      (hchildren.trans hlast) fun y _ hy => hsame y hy
    refine ⟨before ++ told, ?_, ?_⟩
    · rw [hold, htold, hwf.report_eq]
      simp [closing, helement, List.replicate_succ]
    · rw [hnew, htold', h'.report_eq]
      simp [closing, hkind, helement, List.replicate_succ]

/-- What is begun at the edge is told behind all that was told. -/
theorem report_of_begun (h : t.Growing (c :: rest)) (h' : t'.WellFormed)
    (hkind : t'.kindOf? c = t.kindOf? c) (hsame : ∀ y < c, t'.node? y = t.node? y)
    {told more : List BuildEvent} (htold : t.report 0 = told ++ .replicate rest.length .endElement)
    (hbegun : t'.begun c = t.begun c ++ more) :
    t'.report 0 = told ++ more ++ .replicate rest.length .endElement := by
  obtain ⟨before, hold, hnew⟩ := h.exists_before h' hkind hsame
  obtain rfl : told = before ++ t.begun c := List.append_cancel_right (htold.symm.trans hold)
  rw [hnew, hbegun, ← List.append_assoc before]

end Growing

/-! ## A new child at the edge -/

variable {n : Node}

theorem node?_addNode_size : (t.addNode p n).node? t.size = some { n with parent := some p } := by
  simp [node?_addNode]

theorem node?_addNode_of_ne (hi : i ≠ t.size) (hp : i ≠ p) : (t.addNode p n).node? i = t.node? i := by
  simp [node?_addNode, hi, hp]

theorem sameShell_addNode (hplace : n.kind.place = .children) (hi : i ≠ t.size) :
    t.SameShell (t.addNode p n) i := by
  unfold SameShell
  rw [node?_addNode, if_neg hi]
  split
  · rw [Option.map_map]
    congr 1
    funext a
    cases hkind : n.kind <;> simp [hkind, NodeKind.place] at hplace <;> rfl
  · rfl

theorem writtenName_addNode (i : Nat) : (t.addNode p n).writtenName i =
    if i = t.size then n.name.getD (.plain "") else t.writtenName i := by
  simp only [writtenName, nameOf, node?_addNode]
  split
  · rfl
  · split
    · rw [Option.bind_map]; congr 2; funext a; simp
    · rfl

section AddNode

variable (h : t.Growing (c :: rest)) (h' : (t.addNode c n).WellFormed) (hn : n.Bare)
  (hplace : n.kind.place = .children)
include h h' hn hplace

theorem begun_addNode :
    (t.addNode c n).begun c = t.begun c ++ (t.addNode c n).report t.size := by
  have hwalk : Spans t.members (t.attributesOf c ++ t.bindingsOf c ++ t.childrenOf c) (c + 1) t.size :=
    (Spans.singleton_iff.1 (h.trail.spans h.wellFormed.order)).2
  have hchildren : (t.addNode c n).childrenOf c = t.childrenOf c ++ [t.size] := by
    simp [← listed_children, listed_addNode hn h.lt_size, hplace]
  rw [begun, hchildren, List.flatMap_append, ← List.append_assoc,
    told_congr h.wellFormed h' (sameShell_addNode hplace h.lt_size.ne) hwalk
      fun y hcy hy => node?_addNode_of_ne hy.ne hcy.ne', begun]
  simp

theorem report_addNode {told : List BuildEvent}
    (htold : t.report 0 = told ++ .replicate rest.length .endElement) :
    (t.addNode c n).report 0 = told ++ ((t.addNode c n).opening t.size ++
      (t.addNode c n).closing t.size) ++ .replicate rest.length .endElement := by
  have hc := h.lt_size
  have hchildren : (t.addNode c n).childrenOf t.size = [] := by
    simp [← listed_children, listed_addNode hn hc, listed_of_size_le, hc.ne']
  have hnew : (t.addNode c n).report t.size =
      (t.addNode c n).opening t.size ++ (t.addNode c n).closing t.size := by
    simp [h'.report_eq, begun, hchildren]
  refine h.report_of_begun h' (by simp [kindOf?_addNode, hc.ne])
    (fun y hy => node?_addNode_of_ne (by omega) hy.ne) htold ?_
  rw [begun_addNode h h' hn hplace, hnew]

end AddNode

/-! ## Texts at the edge -/

theorem WellFormed.childrenOf_eq_nil (h : t.WellFormed) (hi : t.kindOf? i ≠ some .element)
    (h0 : i ≠ 0) : t.childrenOf i = [] := by
  by_contra hne
  rcases h.owner i .children hne with helement | ⟨hzero, -⟩
  · exact hi helement
  · exact h0 hzero

/-- Nodes other than elements and the root are told where they stand. -/
theorem WellFormed.report_leaf (h : t.WellFormed) (hi : t.kindOf? i ≠ some .element) (h0 : i ≠ 0) :
    t.report i = t.opening i := by
  simp [h.report_eq, begun, closing, h.childrenOf_eq_nil hi h0, hi]

theorem WellFormed.report_text (h : t.WellFormed) (hi : t.IsText i) :
    t.report i = [.characters (t.valueOf i)] := by
  have hi' : t.kindOf? i = some .text := hi
  have h0 : i ≠ 0 := by
    rintro rfl
    obtain ⟨kind, hroot, hisRoot, -⟩ := h.root
    obtain rfl : kind = .text := by simpa [hroot] using hi'
    simp [NodeKind.isRoot] at hisRoot
  rw [h.report_leaf (by simp [hi']) h0, opening, hi']

/-- A child that is no text is told last by what is no text either. -/
theorem WellFormed.getLast?_report (h : t.WellFormed) (hc : c ∈ t.childrenOf p)
    (htext : ¬t.IsText c) :
    ∃ e, (t.report c).getLast? = some e ∧ ∀ value, e ≠ .characters value := by
  have hpc := h.lt_of_mem_childrenOf hc
  obtain ⟨kind, -, hkind, hroot, -⟩ := h.inner c (by omega) (h.lt_size_of_mem_children hc)
  have hplace := h.mem_childrenOf_iff.1 hc
  by_cases helement : t.kindOf? c = some .element
  · simp [h.report_eq, closing, helement]
  · rw [h.report_leaf helement (by omega), opening]
    rw [IsText, hkind] at htext
    rw [hkind] at helement hplace ⊢
    cases kind <;> simp [NodeKind.isRoot, NodeKind.place] at hroot helement htext hplace ⊢

section Text

variable (h : t.Growing (c :: rest)) {told : List BuildEvent}
  (htold : t.report 0 = told ++ .replicate rest.length .endElement)
include h htold

/-- The text that the edge ends with is told last, and gets longer. -/
theorem report_extendText (hlast : t.lastText? c = some x) (text : String) :
    ∃ before value, told = before ++ [.characters value] ∧
      (t.extendText x text).report 0 =
        before ++ [.characters (value ++ text)] ++ .replicate rest.length .endElement := by
  have hwf := h.wellFormed
  have hwf' := (h.extendText x text).wellFormed
  obtain ⟨hx, htext⟩ := lastText?_eq_some_iff.1 hlast
  obtain ⟨init, hinit⟩ := List.getLast?_eq_some_iff.1 hx
  have hcx := hwf.lt_of_mem_childrenOf (List.mem_of_getLast? hx)
  have hsame : ∀ y, y ≠ x → (t.extendText x text).node? y = t.node? y := fun y hy => by
    simp [node?_extendText, hy.symm]
  have hinit' : (t.extendText x text).childrenOf c = init ++ [x] := by
    rw [← hinit, ← listed_children, listed_extendText, listed_children]
  have htext' : (t.extendText x text).IsText x := by rw [IsText, kindOf?_extendText]; exact htext
  obtain ⟨inside, hbegun, hbegun'⟩ := begun_last hwf hwf' h.lt_size (.of_eq (hsame c hcx.ne)) hinit
    hinit' fun y _ hy => hsame y hy.ne
  obtain ⟨before, hold, hnew⟩ := h.exists_before hwf' (by rw [kindOf?_extendText])
    fun y hy => hsame y (by omega)
  obtain rfl : told = before ++ t.begun c := List.append_cancel_right (htold.symm.trans hold)
  refine ⟨before ++ inside, t.valueOf x, ?_, ?_⟩
  · rw [hbegun, hwf.report_text htext, List.append_assoc]
  · rw [hnew, hbegun', hwf'.report_text htext', valueOf_extendText x text x (lt_size_of_kindOf? htext),
      if_pos rfl, ← List.append_assoc before]

/-- Where the edge does not end with a text, no text is told last. -/
theorem getLast?_told (hlast : t.lastText? c = none) (value : String) :
    told.getLast? ≠ some (.characters value) := by
  have hwf := h.wellFormed
  obtain ⟨before, hold, -⟩ := h.exists_before hwf rfl fun _ _ => rfl
  obtain rfl : told = before ++ t.begun c := List.append_cancel_right (htold.symm.trans hold)
  rcases List.eq_nil_or_concat (t.childrenOf c) with hnil | ⟨init, x, hchildren⟩
  · by_cases helement : t.kindOf? c = some .element
    · simp [begun, opening, hnil, helement]
    · -- at the root nothing was told before its children
      obtain rfl : c = 0 := (h.elements c (by simp)).resolve_right helement
      obtain ⟨kind, hkind, hroot, -⟩ := hwf.root
      have hempty : t.report 0 = [] := by
        rw [hwf.report_eq, begun, opening, closing, hnil, if_neg helement, hkind]
        cases kind <;> simp [NodeKind.isRoot] at hroot ⊢
      have htold : before ++ t.begun 0 = [] := by
        rw [hempty] at htold
        exact (List.append_eq_nil_iff.1 htold.symm).1
      simp [htold]
  · have hx : (t.childrenOf c).getLast? = some x := by simp [hchildren]
    have htext : ¬t.IsText x := fun htext => by
      simp [lastText?_eq_some_iff.2 ⟨hx, htext⟩] at hlast
    obtain ⟨e, he, hvalue⟩ := hwf.getLast?_report (List.mem_of_getLast? hx) htext
    simp [begun, hchildren, List.getLast?_append, he, hvalue]

end Text

end Tree

/-! ## A new element at the edge -/

/-- An attribute as a tree keeps it: it identifies its element if it is declared to, or has
the reserved name. -/
def AttributeEvent.kept (a : AttributeEvent) : AttributeEvent :=
  { a with isId := a.isId || a.name.isXmlId }

namespace Builder

open Grove.Tree

variable {t : Tree} {e p : Nat} {path rest : List Nat} {n : Node} {place : Place}

theorem begun_element (helement : t.kindOf? e = some .element) (hbare : t.listed e .children = []) :
    t.begun e = [.startElement (t.writtenName e) (t.attributeEvents e) (t.bindingEvents e)] := by
  rw [listed_children] at hbare
  simp [begun, opening, helement, hbare]

namespace Starting

/-- What stands on an element does not change when more is put on it. -/
theorem node?_addNode_of_mem (h : Starting t e path place) {x : Nat}
    (hx : x ∈ t.attributesOf e ++ t.bindingsOf e) : (t.addNode e n).node? x = t.node? x := by
  have hwf := h.growing.wellFormed
  obtain ⟨place, hmem⟩ : ∃ place, x ∈ t.listed e place :=
    (List.mem_append.1 hx).elim (⟨.attributes, ·⟩) (⟨.bindings, ·⟩)
  exact node?_addNode_of_ne (hwf.lt_size_of_mem hmem).ne (hwf.lt_of_mem_listed hmem).ne'

theorem attributeEvents_addNode (h : Starting t e path place) (hn : n.Bare) :
    (t.addNode e n).attributeEvents e = t.attributeEvents e ++
      if n.kind.place = .attributes then [⟨n.name.getD (.plain ""), n.valueText, n.isId⟩] else [] := by
  have hlisted : (t.addNode e n).attributesOf e =
      t.attributesOf e ++ if e = e ∧ n.kind.place = .attributes then [t.size] else [] :=
    listed_addNode hn h.growing.lt_size e .attributes
  rw [attributeEvents, hlisted, List.map_append]
  congr 1
  · refine List.map_congr_left fun a ha => ?_
    have hsame : t.SameShell (t.addNode e n) a :=
      .of_eq (h.node?_addNode_of_mem (List.mem_append_left _ ha))
    rw [hsame.writtenName_eq, hsame.valueOf_eq, hsame.identifies_eq]
  · by_cases hplace : n.kind.place = .attributes <;>
      simp [hplace, writtenName_addNode, valueOf_addNode, identifies, node?_addNode_size]

theorem bindingEvents_addNode (h : Starting t e path place) (hn : n.Bare) :
    (t.addNode e n).bindingEvents e = t.bindingEvents e ++
      if n.kind.place = .bindings then [⟨(n.name.getD (.plain "")).qualifier, n.valueText⟩] else [] := by
  have hlisted : (t.addNode e n).bindingsOf e =
      t.bindingsOf e ++ if e = e ∧ n.kind.place = .bindings then [t.size] else [] :=
    listed_addNode hn h.growing.lt_size e .bindings
  rw [bindingEvents, hlisted, List.map_append]
  congr 1
  · refine List.map_congr_left fun b hb => ?_
    have hsame : t.SameShell (t.addNode e n) b :=
      .of_eq (h.node?_addNode_of_mem (List.mem_append_right _ hb))
    rw [hsame.writtenName_eq, hsame.valueOf_eq]
  · by_cases hplace : n.kind.place = .bindings <;>
      simp [hplace, writtenName_addNode, valueOf_addNode]

theorem writtenName_addNode (h : Starting t e path place) (n : Node) :
    (t.addNode e n).writtenName e = t.writtenName e := by
  rw [Tree.writtenName_addNode, if_neg h.growing.lt_size.ne]

theorem node?_addAttributes (h : Starting t e path .attributes) (attributes : List AttributeEvent)
    {y : Nat} (hy : y < e) :
    (attributes.foldl (Builder.addAttribute e) t).node? y = t.node? y := by
  induction attributes generalizing t with
  | nil => rfl
  | cons a attributes ih =>
    have hnew : ∀ n, (t.addNode e n).node? y = t.node? y := fun n =>
      node?_addNode_of_ne (by have := h.growing.lt_size; omega) hy.ne
    refine (ih (h.addAttribute a)).trans ?_
    unfold Builder.addAttribute
    dsimp only
    split <;> exact hnew _

theorem node?_addBindings (h : Starting t e path .bindings) (bindings : List BindingEvent)
    {y : Nat} (hy : y < e) : (bindings.foldl (Builder.addBinding e) t).node? y = t.node? y := by
  induction bindings generalizing t with
  | nil => rfl
  | cons b bindings ih =>
    exact (ih (h.addBinding b)).trans
      (node?_addNode_of_ne (by have := h.growing.lt_size; omega) hy.ne)

/-- The attributes of an element are put on it in order. -/
theorem opening_addAttributes (h : Starting t e path .attributes) (attributes : List AttributeEvent) :
    (attributes.foldl (Builder.addAttribute e) t).writtenName e = t.writtenName e ∧
    (attributes.foldl (Builder.addAttribute e) t).attributeEvents e =
      t.attributeEvents e ++ attributes.map AttributeEvent.kept := by
  induction attributes generalizing t with
  | nil => simp
  | cons a attributes ih =>
    have hname : (Builder.addAttribute e t a).writtenName e = t.writtenName e := by
      unfold Builder.addAttribute
      dsimp only
      split <;> exact h.writtenName_addNode _
    have hevents : (Builder.addAttribute e t a).attributeEvents e = t.attributeEvents e ++ [a.kept] := by
      have hnew := h.attributeEvents_addNode (bare_of_empty
        ⟨.attr, some a.name, some a.value, none, #[], #[], #[], a.isId || a.name.isXmlId⟩ rfl rfl rfl)
      unfold Builder.addAttribute
      dsimp only
      split <;> exact hnew
    obtain ⟨hname', hevents'⟩ := ih (h.addAttribute a)
    exact ⟨hname'.trans hname, by rw [List.foldl_cons, hevents', hevents]; simp⟩

/-- The namespaces of an element are put on it in order. -/
theorem opening_addBindings (h : Starting t e path .bindings) (bindings : List BindingEvent) :
    (bindings.foldl (Builder.addBinding e) t).writtenName e = t.writtenName e ∧
    (bindings.foldl (Builder.addBinding e) t).attributeEvents e = t.attributeEvents e ∧
    (bindings.foldl (Builder.addBinding e) t).bindingEvents e = t.bindingEvents e ++ bindings := by
  induction bindings generalizing t with
  | nil => simp
  | cons b bindings ih =>
    have hn := bare_of_empty ⟨.binding, some ⟨b.qualifier, b.qualifier.getD "", none⟩, some b.uri, none,
      #[], #[], #[], false⟩ rfl rfl rfl
    have hattributes : (Builder.addBinding e t b).attributeEvents e = t.attributeEvents e := by
      rw [Builder.addBinding, h.attributeEvents_addNode hn]
      simp [NodeKind.place]
    have hevents : (Builder.addBinding e t b).bindingEvents e = t.bindingEvents e ++ [b] := by
      rw [Builder.addBinding, h.bindingEvents_addNode hn]
      simp [NodeKind.place, Node.valueText]
    obtain ⟨hname', hattributes', hevents'⟩ := ih (h.addBinding b)
    exact ⟨hname'.trans (h.writtenName_addNode _), hattributes'.trans hattributes,
      by rw [List.foldl_cons, hevents', hevents]; simp⟩

end Starting

/-- A new element is told with all it starts with, and is open. -/
theorem report_addElement (h : t.Growing (p :: rest)) (name : QName)
    (attributes : List AttributeEvent) (bindings : List BindingEvent) {told : List BuildEvent}
    (htold : t.report 0 = told ++ .replicate rest.length .endElement) :
    (addElement t p name attributes bindings).report 0 =
      told ++ [.startElement name (attributes.map AttributeEvent.kept) bindings] ++
        .replicate (rest.length + 1) .endElement := by
  let n : Node := { kind := .element, name := some name }
  have hn : n.Bare := bare_of_empty _ rfl rfl rfl
  have hstart : Starting (t.addNode p n) t.size (p :: rest) .attributes := starting_addNode h name
  have hattributed := (hstart.addAttributes attributes).toBindings
  have hstarted := hattributed.addBindings bindings
  -- the element is told without what it starts with, then with it
  obtain ⟨before, hold, hnew⟩ := hstart.growing.exists_before hstarted.growing.wellFormed
    (hstarted.element.trans hstart.element.symm) fun y hy =>
      (hattributed.node?_addBindings bindings hy).trans (hstart.node?_addAttributes attributes hy)
  have hwithout := report_addNode h hstart.growing.wellFormed hn rfl htold
  have hbegun := begun_element hstart.element hstart.ends.2
  have hbegun' := begun_element hstarted.element hstarted.ends
  obtain ⟨hname, hevents⟩ := hstart.opening_addAttributes attributes
  obtain ⟨hname', hevents', hbindings⟩ := hattributed.opening_addBindings bindings
  have hnamed : (t.addNode p n).writtenName t.size = name := by
    simp [Tree.writtenName_addNode, n]
  have hnone : (t.addNode p n).attributeEvents t.size = [] := by
    simp [attributeEvents, attributesOf, node?_addNode_size, n]
  have hunbound : (attributes.foldl (addAttribute t.size) (t.addNode p n)).bindingEvents t.size = [] :=
    congrArg (List.map _) (hstart.addAttributes attributes).ends.1
  rw [hname', hname, hnamed, hevents', hevents, hnone, hbindings, hunbound] at hbegun'
  obtain rfl : told = before := by
    have hopening : (t.addNode p n).begun t.size = (t.addNode p n).opening t.size := by
      rw [hbegun, opening, hstart.element]
    have hclosing : (t.addNode p n).closing t.size = [.endElement] := if_pos hstart.element
    rw [← hopening, hclosing] at hwithout
    simpa [List.replicate_succ] using hwithout.symm.trans hold
  rw [List.nil_append, List.nil_append] at hbegun'
  rw [← hbegun']
  exact hnew

end Builder

end Grove
