/-
What is found by identifiers depends on which words are asked for, and on nothing else of how they
are given. The words come from the string values of all items (`Caller.Says`); what they identify is
brought into document order, each element once, so a list of handles is the right one if it is in
order and has the right members (`NodeHandle.eq_of_sorted`). Items may then be put in another order,
repeated, reworded or cut at a blank: that leaves the words (`Reworded.says_iff`), and so the elements
(`Library.id_identifies`). The words of a text that is cut at a blank are those of its two parts
(`Text.words_append_blank`).
-/
import Grove.Proofs.Eval.Ordered
import Grove.Proofs.Eval.Treating
import Grove.Proofs.Tree.Identifiers

namespace Grove

/-! ## Words -/

namespace Text

variable {b : Char}

/-- A blank ends the word before it, whatever comes behind. -/
theorem wordsFrom_append_blank (hb : isBlank b = true) (pending cs ds : List Char) :
    wordsFrom pending (cs ++ b :: ds) = wordsFrom pending cs ++ wordsFrom [] ds := by
  induction cs generalizing pending with
  | nil => cases pending <;> simp [wordsFrom, hb]
  | cons c cs ih =>
    simp only [List.cons_append, wordsFrom, ih]
    split
    · split <;> rfl
    · rfl

theorem words_append_blank (hb : isBlank b = true) (s t : String) :
    words (s ++ String.singleton b ++ t) = words s ++ words t := by
  simp [words, wordsFrom_append_blank hb]

end Text

/-- A list is answered for if all its members are, and with just their answers. -/
theorem exists_mapM_ok {α β : Type} {g : α → Except Error β} {as : List α}
    (h : ∀ a ∈ as, ∃ b, g a = .ok b) :
    ∃ bs, as.mapM g = .ok bs ∧ ∀ b, b ∈ bs ↔ ∃ a ∈ as, g a = .ok b := by
  induction as with
  | nil => exact ⟨[], rfl, by simp⟩
  | cons a as ih =>
    obtain ⟨⟨b, hb⟩, has⟩ := List.forall_mem_cons.1 h
    obtain ⟨bs, hbs, hmem⟩ := ih has
    refine ⟨b :: bs, ?_, fun x => ?_⟩
    · rw [List.mapM_cons, hb, hbs]
      rfl
    · simp [hmem, hb, eq_comm]

namespace Caller

variable {c : Caller} {v : Value} {items : List Value} {word : String}

/-- Every item has a string value. -/
def Readable (c : Caller) (items : List Value) : Prop := ∀ v ∈ items, ∃ text, c.stringValue v = .ok text

/-- A word of the string value of some item. -/
def Says (c : Caller) (items : List Value) (word : String) : Prop :=
  ∃ v ∈ items, ∃ text, c.stringValue v = .ok text ∧ word ∈ Text.words text

theorem readable_append {items' : List Value} :
    c.Readable (items ++ items') ↔ c.Readable items ∧ c.Readable items' := List.forall_mem_append

theorem readable_cons : c.Readable (v :: items) ↔ (∃ text, c.stringValue v = .ok text) ∧ c.Readable items :=
  List.forall_mem_cons

theorem says_append {items' : List Value} :
    c.Says (items ++ items') word ↔ c.Says items word ∨ c.Says items' word := by
  simp only [Says, List.mem_append, or_and_right, exists_or]

theorem not_says_nil : ¬c.Says [] word := nofun

theorem says_cons {text : String} (hv : c.stringValue v = .ok text) :
    c.Says (v :: items) word ↔ word ∈ Text.words text ∨ c.Says items word := by
  simp [Says, or_and_right, exists_or, hv]

theorem stringValue_string (c : Caller) (s : String) : c.stringValue (.string s) = .ok s := rfl

theorem exists_nodeText {h : NodeHandle} {m : Model} (howner : c.ownerOf h = .ok m) :
    ∃ text, c.nodeText h = .ok text := by
  refine ⟨m.tree.stringValueOf h.index.toNat, ?_⟩
  rw [nodeText, howner]
  exact congrArg (·.mapError Error.ofTree) (ask_of_ownerOf howner m.tree.stringValueOf)

/-- The items of a value have string values, if the models of the nodes among them are found. -/
theorem readable_of_flatten (hitems : c.flatten v = .ok items) (hresolved : ∀ v ∈ items, v.IsResolved c) :
    c.Readable items := by
  intro item hitem
  have hsingle := Value.single_of_flatten hitems item hitem
  cases item with
  | node h =>
    obtain ⟨m, howner⟩ := hresolved _ hitem h rfl
    exact exists_nodeText howner
  | sequence s => cases hsingle
  | _ => exact ⟨_, rfl⟩

end Caller

/-- The same words in other items: the items in another order or repeated, an item with another text
of the same words, in another order or repeated, or a text cut at a blank. -/
inductive Reworded (c : Caller) : List Value → List Value → Prop
  | items {vs vs'} : (∀ v, v ∈ vs ↔ v ∈ vs') → Reworded c vs vs'
  | words {v v' text text'} (before after) : c.stringValue v = .ok text → c.stringValue v' = .ok text' →
      (∀ word, word ∈ Text.words text ↔ word ∈ Text.words text') →
      Reworded c (before ++ v :: after) (before ++ v' :: after)
  | cut {v s t blank} (before after) : c.stringValue v = .ok (s ++ String.singleton blank ++ t) →
      Text.isBlank blank = true →
      Reworded c (before ++ v :: after) (before ++ .string s :: .string t :: after)
  | symm {vs vs'} : Reworded c vs vs' → Reworded c vs' vs
  | trans {vs vs' vs''} : Reworded c vs vs' → Reworded c vs' vs'' → Reworded c vs vs''

namespace Reworded

variable {c : Caller} {vs vs' : List Value}

theorem readable_iff (h : Reworded c vs vs') : c.Readable vs ↔ c.Readable vs' := by
  induction h with
  | items hmem => simp only [Caller.Readable, hmem]
  | words before after hv hv' _ => simp [Caller.readable_append, Caller.readable_cons, hv, hv']
  | cut before after hv _ =>
    simp [Caller.readable_append, Caller.readable_cons, hv, Caller.stringValue_string]
  | symm _ ih => exact ih.symm
  | trans _ _ ih ih' => exact ih.trans ih'

theorem says_iff (h : Reworded c vs vs') (word : String) : c.Says vs word ↔ c.Says vs' word := by
  induction h with
  | items hmem => simp only [Caller.Says, hmem]
  | words before after hv hv' hwords =>
    rw [Caller.says_append, Caller.says_append, Caller.says_cons hv, Caller.says_cons hv', hwords]
  | cut before after hv hblank =>
    rw [Caller.says_append, Caller.says_append, Caller.says_cons hv, Caller.says_cons (c.stringValue_string _),
      Caller.says_cons (c.stringValue_string _), Text.words_append_blank hblank, List.mem_append, or_assoc]
  | symm _ ih => exact ih.symm
  | trans _ _ ih ih' => exact ih.trans ih'

end Reworded

/-! ## Elements -/

/-- An element that is found by an identifier is below the root. -/
theorem Model.Reachable.mem_handles_of_elementById {m : Model} (hm : m.Reachable) {word : String}
    {e : NodeHandle} (h : m.elementById word = some e) : e ∈ m.handles (m.tree.subtree 0) := by
  obtain ⟨a, p, -, hp, rfl⟩ := (hm.answered.found word e).1 h
  have hwithin := hm.wellFormed.within_of_parentOf hp
  refine List.mem_map_of_mem (hm.wellFormed.mem_subtree_iff.2 ?_)
  rcases Nat.eq_zero_or_pos p with hzero | hpos
  · exact .inl hzero
  · exact .inr ⟨hwithin, hm.wellFormed.zero_mem_ancestors hpos hwithin.lt_size⟩

/-- Handles in order that are among others in order are a part of their list. -/
theorem NodeHandle.sublist_of_sorted {hs hs' : List NodeHandle} (h : hs.Pairwise (·.precedes ·))
    (h' : hs'.Pairwise (·.precedes ·)) (hmem : ∀ n ∈ hs, n ∈ hs') : hs.Sublist hs' := by
  have hkept : hs = hs'.filter (· ∈ hs) := eq_of_sorted h (h'.filter _) fun n => by
    simpa using hmem n
  rw [hkept]
  exact List.filter_sublist

namespace Library

variable {c : Caller} {v : Value} {rest items : List Value} {h : NodeHandle} {m : Model}

theorem mem_identified {texts : List String} {e : NodeHandle} :
    e ∈ identified m texts ↔ ∃ text ∈ texts, ∃ word ∈ Text.words text, m.elementById word = some e := by
  simp [identified]

/-- What is found is the elements that the words of the items identify, in order. -/
theorem exists_id_eq (hanchor : anchor c (v :: rest) = .ok h) (howner : c.ownerOf h = .ok m)
    (hitems : c.flatten v = .ok items) (hread : c.Readable items) :
    ∃ found : List NodeHandle, id c (v :: rest) = .ok (.ofList (found.map .node)) ∧
      found.Pairwise (·.precedes ·) ∧
      ∀ e, e ∈ found ↔ ∃ word, c.Says items word ∧ m.elementById word = some e := by
  obtain ⟨texts, htexts, hmem⟩ := exists_mapM_ok hread
  refine ⟨NodeHandle.sortDistinct (identified m texts), ?_, NodeHandle.sorted_sortDistinct _, fun e => ?_⟩
  · simp [id, hitems, hanchor, howner, htexts, bind, Except.bind]
  · rw [NodeHandle.mem_sortDistinct, mem_identified]
    constructor
    · rintro ⟨text, htext, word, hword, he⟩
      obtain ⟨item, hitem, hvalue⟩ := (hmem text).1 htext
      exact ⟨word, ⟨item, hitem, text, hvalue, hword⟩, he⟩
    · rintro ⟨word, ⟨item, hitem, text, hvalue, hword⟩, he⟩
      exact ⟨text, (hmem text).2 ⟨item, hitem, hvalue⟩, word, hword, he⟩

/-- The node in whose tree identifiers are looked up is not said by the first argument. -/
theorem anchor_cons (v' : Value) : anchor c (v' :: rest) = anchor c (v :: rest) := by
  cases rest <;> rfl

/-- Other items that say the same words find the same. -/
theorem id_congr {v' : Value} {items' : List Value} (hanchor : anchor c (v :: rest) = .ok h)
    (howner : c.ownerOf h = .ok m) (hitems : c.flatten v = .ok items) (hread : c.Readable items)
    (hitems' : c.flatten v' = .ok items') (hread' : c.Readable items')
    (hwords : ∀ word, c.Says items word ↔ c.Says items' word) :
    id c (v' :: rest) = id c (v :: rest) := by
  obtain ⟨found, hfound, hsorted, hmem⟩ := exists_id_eq hanchor howner hitems hread
  obtain ⟨found', hfound', hsorted', hmem'⟩ :=
    exists_id_eq ((anchor_cons v').trans hanchor) howner hitems' hread'
  obtain rfl : found' = found := NodeHandle.eq_of_sorted hsorted' hsorted fun e => by
    simp only [hmem, hmem', hwords]
  rw [hfound, hfound']

/-- Found are the elements of the tree that a word of some item identifies, in document order, each
once. Items that say the same words find the same, so the order and number of the items and of the
words in them do not matter, nor where texts are cut at blanks. -/
theorem id_identifies (hm : m.Reachable) (hanchor : anchor c (v :: rest) = .ok h)
    (howner : c.ownerOf h = .ok m) (hitems : c.flatten v = .ok items)
    (hresolved : ∀ item ∈ items, item.IsResolved c) :
    (∃ found : List NodeHandle, id c (v :: rest) = .ok (.ofList (found.map .node)) ∧
      found.Pairwise (·.precedes ·) ∧ found.Sublist (m.handles (m.tree.subtree 0)) ∧
      ∀ e, e ∈ found ↔ ∃ word, c.Says items word ∧ m.elementById word = some e) ∧
    (∀ v' items', c.flatten v' = .ok items' → (∀ item ∈ items', item.IsResolved c) →
      (∀ word, c.Says items word ↔ c.Says items' word) → id c (v' :: rest) = id c (v :: rest)) ∧
    ∀ v' items', c.flatten v' = .ok items' → Reworded c items items' →
      id c (v' :: rest) = id c (v :: rest) := by
  have hread := Caller.readable_of_flatten hitems hresolved
  refine ⟨?_, fun v' items' hitems' hresolved' hwords => ?_, fun v' items' hitems' hreworded => ?_⟩
  · obtain ⟨found, hfound, hsorted, hmem⟩ := exists_id_eq hanchor howner hitems hread
    have hroot : 0 < m.size := hm.wellFormed.within_zero.lt_size
    refine ⟨found, hfound, hsorted, ?_, hmem⟩
    refine NodeHandle.sublist_of_sorted hsorted (hm.numbered.sorted_subtree_handles hroot) fun e he => ?_
    obtain ⟨word, -, hword⟩ := (hmem e).1 he
    exact hm.mem_handles_of_elementById hword
  · have hread' := Caller.readable_of_flatten hitems' hresolved'
    exact id_congr hanchor howner hitems hread hitems' hread' hwords
  · have hread' := hreworded.readable_iff.1 hread
    exact id_congr hanchor howner hitems hread hitems' hread' hreworded.says_iff

/-- The identifier of the uneven batch, asked for twice and with a word that identifies nothing, and
asked for in other words. -/
theorem id_identifies_uneven :
    let c := Context.inUneven.caller Forest.uneven
    let node := Value.node (Model.uneven.handle 5)
    let twice := Value.ofList [.string "x v", .string "v"]
    Model.uneven.Reachable ∧ anchor c [twice, node] = .ok (Model.uneven.handle 5) ∧
      c.ownerOf (Model.uneven.handle 5) = .ok Model.uneven ∧
      c.flatten twice = .ok [.string "x v", .string "v"] ∧
      id c [twice, node] = .ok (.ofList [.node (Model.uneven.handle 2)]) ∧
      Reworded c [.string "x v", .string "v"] [.string "v x"] ∧
      id c [.string "v x", node] = id c [twice, node] := by
  intro c node twice
  have hm := Model.reachable_uneven
  have hanchor : anchor c [twice, node] = .ok (Model.uneven.handle 5) := rfl
  have howner : c.ownerOf (Model.uneven.handle 5) = .ok Model.uneven := rfl
  have hitems : c.flatten twice = .ok [.string "x v", .string "v"] := rfl
  have hresolved : ∀ item ∈ [Value.string "x v", .string "v"], item.IsResolved c := by
    simp [Value.IsResolved]
  have hwords : Text.words "x v" = ["x", "v"] ∧ Text.words "v x" = ["v", "x"] ∧
      Text.words "v x v" = ["v", "x", "v"] ∧ Text.words "v" = ["v"] := by decide +kernel
  have hfound : Model.uneven.elementById "v" = some (Model.uneven.handle 2) := by decide +kernel
  have hmissing : Model.uneven.elementById "x" = none := by decide +kernel
  have hreworded : Reworded c [.string "x v", .string "v"] [.string "v x"] := by
    have hturned : Reworded c [.string "x v", .string "v"] [.string "v x", .string "v"] :=
      .words [] [.string "v"] rfl rfl (by simp [hwords, or_comm])
    have hparts : c.stringValue (.string "v x v") = .ok ("v x" ++ String.singleton ' ' ++ "v") := rfl
    have hcut : Reworded c [.string "v x v"] [.string "v x", .string "v"] :=
      .cut [] [] hparts rfl
    exact hturned.trans (hcut.symm.trans (.words [] [] rfl rfl fun _ => by simp [hwords]; tauto))
  have hsays : ∀ word, c.Says [.string "x v", .string "v"] word ↔ word = "x" ∨ word = "v" := fun word => by
    rw [Caller.says_cons rfl, Caller.says_cons rfl]
    simp [hwords, Caller.not_says_nil]
  obtain ⟨⟨found, heq, hsorted, -, hmem⟩, -, hsame⟩ :=
    id_identifies hm hanchor howner hitems hresolved
  obtain rfl : found = [Model.uneven.handle 2] :=
    NodeHandle.eq_of_sorted hsorted (List.pairwise_singleton _ _) fun e => by
      simp [hmem, hsays, or_and_right, exists_or, hfound, hmissing, eq_comm]
  exact ⟨hm, hanchor, howner, hitems, heq, hreworded, hsame _ _ rfl hreworded⟩

end Library

end Grove
