/-
What treating demands. A sequence type describes sequences of items (`SequenceType.Describes`): by
their number, the atomic ones by their type, and nodes by the kind and the name that the model they
belong to gives them. To treat items as a type is to get them back as they are if the type describes
them, and to fail if it does not (`Expr.treat_describes`).

The check of items stops at the first one that is not described, with a mismatch; that it stops with
no other failure before needs that the models of the nodes are found.
-/
import Grove.Proofs.Eval.Casting
import Grove.Proofs.Eval.Predicates

namespace Grove

/-! ## Names and kinds -/

/-- A name that is written with a qualifier but bound to no namespace is a test of the qualifier, any
other one of the namespace. -/
def QName.Names (test name : QName) : Prop :=
  test.localName = name.localName ∧
    if test.namespaceUri = none ∧ test.qualifier ≠ none then test.qualifier = name.qualifier
    else test.namespaceUri = name.namespaceUri

theorem QName.isNameOf_iff {test : QName} {name : Option QName} :
    test.isNameOf name = true ↔ ∃ q ∈ name, test.Names q := by
  cases name with
  | none => simp [isNameOf]
  | some q =>
    have hqualified : (test.namespaceUri.isNone && test.qualifier.isSome) = true ↔
        test.namespaceUri = none ∧ test.qualifier ≠ none := by
      simp [Option.ne_none_iff_isSome]
    simp only [isNameOf, Names, sameName, hqualified, Option.mem_some_iff, exists_eq_left']
    split <;> simp [and_comm]

theorem QName.all_isNameOf_iff {wanted name : Option QName} :
    wanted.all (·.isNameOf name) = true ↔ ∀ test ∈ wanted, ∃ q ∈ name, test.Names q := by
  cases wanted <;> simp [isNameOf_iff]

theorem QName.all_localName_iff {target : Option String} {name : Option QName} :
    target.all (fun t => name.any (·.localName == t)) = true ↔
      ∀ t ∈ target, ∃ q ∈ name, q.localName = t := by
  cases target <;> cases name <;> simp

/-- What a test says about a node of a kind and a name. -/
inductive KindTest.Describes : KindTest → NodeKind → Option QName → Prop
  | anyNode (kind name) : Describes .anyNode kind name
  | document (name) : Describes .document .document name
  | fragment (name) : Describes .document .fragment name
  | text (name) : Describes .text .text name
  | comment (name) : Describes .comment .comment name
  | element {wanted name} (h : ∀ test ∈ wanted, ∃ q ∈ name, QName.Names test q) :
      Describes (.element wanted) .element name
  | attr {wanted name} (h : ∀ test ∈ wanted, ∃ q ∈ name, QName.Names test q) :
      Describes (.attr wanted) .attr name
  | instruction {target name} (h : ∀ t ∈ target, ∃ q ∈ name, QName.localName q = t) :
      Describes (.instruction target) .instruction name

namespace KindTest

variable {test : KindTest} {m : Model} {h : NodeHandle} {kind : NodeKind} {name : Option QName}

theorem exists_accepts (hkind : m.kind h = .ok kind) (hname : m.name h = .ok name)
    (test : KindTest) : ∃ b, test.accepts m h = .ok b :=
  ⟨_, by rw [accepts, hkind, hname]; rfl⟩

theorem accepts_iff (hkind : m.kind h = .ok kind) (hname : m.name h = .ok name) :
    test.accepts m h = .ok true ↔ test.Describes kind name := by
  rw [accepts, hkind, hname]
  constructor
  · intro haccepts
    replace haccepts := Except.ok.inj haccepts
    cases test with
    | anyNode => exact .anyNode kind name
    | document => cases kind <;> cases haccepts <;> constructor
    | text =>
      obtain rfl : kind = .text := by simpa using haccepts
      exact .text name
    | comment =>
      obtain rfl : kind = .comment := by simpa using haccepts
      exact .comment name
    | element wanted =>
      obtain ⟨rfl, hwanted⟩ : kind = .element ∧ wanted.all (·.isNameOf name) = true := by
        simpa only [Bool.and_eq_true, beq_iff_eq] using haccepts
      exact .element (QName.all_isNameOf_iff.1 hwanted)
    | attr wanted =>
      obtain ⟨rfl, hwanted⟩ : kind = .attr ∧ wanted.all (·.isNameOf name) = true := by
        simpa only [Bool.and_eq_true, beq_iff_eq] using haccepts
      exact .attr (QName.all_isNameOf_iff.1 hwanted)
    | instruction target =>
      obtain ⟨rfl, htarget⟩ : kind = .instruction ∧
          target.all (fun t => name.any (·.localName == t)) = true := by
        simpa only [Bool.and_eq_true, beq_iff_eq] using haccepts
      exact .instruction (QName.all_localName_iff.1 htarget)
  · intro hdescribes
    refine congrArg Except.ok ?_
    cases hdescribes with
    | element h => simpa using QName.all_isNameOf_iff.2 h
    | attr h => simpa using QName.all_isNameOf_iff.2 h
    | instruction h => simpa using QName.all_localName_iff.2 h
    | _ => rfl

end KindTest

/-! ## Items -/

/-- What an atomic type says about an item. -/
inductive AtomicType.Describes : AtomicType → Value → Prop
  | anyString (s) : Describes .anyAtomic (.string s)
  | anyNumber (n) : Describes .anyAtomic (.number n)
  | anyBoolean (b) : Describes .anyAtomic (.boolean b)
  | string (s) : Describes .string (.string s)
  | untypedAtomic (s) : Describes .untypedAtomic (.string s)
  | anyUri (s) : Describes .anyUri (.string s)
  | boolean (b) : Describes .boolean (.boolean b)
  | double (n) : Describes .double (.number n)
  | float (n) : Describes .float (.number n)
  | decimal (n) : Describes .decimal (.number n)
  | integer {n : Float} (hfinite : n.isFinite = true) (hwhole : (Number.decode n).IsWhole) :
      Describes .integer (.number n)

theorem Value.isInstance_iff {v : Value} {type : AtomicType} :
    v.isInstance type = true ↔ type.Describes v := by
  constructor
  · intro hinstance
    cases type with
    | integer =>
      cases v with
      | number n =>
        obtain ⟨hfinite, hwhole⟩ := Number.isWhole_iff.1 hinstance
        exact .integer hfinite hwhole
      | _ => cases hinstance
    | _ => cases v <;> first | constructor | cases hinstance
  · intro hdescribes
    cases hdescribes with
    | integer hfinite hwhole => exact Number.isWhole_iff.2 ⟨hfinite, hwhole⟩
    | _ => rfl

/-- What an item type says about an item. -/
inductive ItemType.Describes (c : Caller) : ItemType → Value → Prop
  | item (v) : Describes c .item v
  | atomic {name type v} (hname : AtomicType.ofQName? name = some type) (hv : type.Describes v) :
      Describes c (.atomic name) v
  | kind {test : KindTest} {h m kind name} (howner : c.ownerOf h = .ok m) (hkind : m.kind h = .ok kind)
      (hname : m.name h = .ok name) (htest : test.Describes kind name) :
      Describes c (.kind test) (.node h)

/-- Whether the atomic type of an item type, if it is one, is known. -/
def ItemType.IsKnown : ItemType → Prop
  | .atomic name => ∃ type, AtomicType.ofQName? name = some type
  | _ => True

/-- A node whose model is found, or no node. -/
def Value.IsResolved (c : Caller) (v : Value) : Prop := ∀ h, v = .node h → ∃ m, c.ownerOf h = .ok m

namespace Caller

variable {c : Caller} {h : NodeHandle} {m : Model} {v : Value} {type : ItemType}

theorem exists_of_ownerOf (howner : c.ownerOf h = .ok m) :
    ∃ kind name, m.kind h = .ok kind ∧ m.name h = .ok name :=
  ⟨_, _, ask_of_ownerOf howner _, ask_of_ownerOf howner _⟩

theorem itemMatches_node (howner : c.ownerOf h = .ok m) (test : KindTest) :
    c.itemMatches (.node h) (.kind test) = (test.accepts m h).mapError Error.ofTree := by
  rw [itemMatches, howner]
  rfl

theorem itemMatches_iff : c.itemMatches v type = .ok true ↔ type.Describes c v := by
  constructor
  · intro hmatches
    cases type with
    | item => exact .item v
    | atomic name =>
      rw [itemMatches] at hmatches
      split at hmatches
      next hname => exact .atomic hname (Value.isInstance_iff.1 (Except.ok.inj hmatches))
      next => cases hmatches
    | kind test =>
      cases v with
      | node h =>
        cases howner : c.ownerOf h with
        | error e => simp [itemMatches, howner, bind, Except.bind] at hmatches
        | ok m =>
          obtain ⟨kind, name, hkind, hname⟩ := exists_of_ownerOf howner
          obtain ⟨b, hb⟩ := KindTest.exists_accepts hkind hname test
          rw [itemMatches_node howner, hb] at hmatches
          obtain rfl : b = true := Except.ok.inj hmatches
          exact .kind howner hkind hname ((KindTest.accepts_iff hkind hname).1 hb)
      | _ => cases hmatches
  · intro hdescribes
    cases hdescribes with
    | item => rfl
    | atomic hname hv =>
      rw [itemMatches, hname]
      exact congrArg Except.ok (Value.isInstance_iff.2 hv)
    | kind howner hkind hname htest =>
      rw [itemMatches_node howner, (KindTest.accepts_iff hkind hname).2 htest]
      rfl

/-- An item is told to be of a known type or not to be, if its model is found. -/
theorem exists_itemMatches (hknown : type.IsKnown) (hv : v.IsResolved c) :
    ∃ b, c.itemMatches v type = .ok b := by
  cases type with
  | item => exact ⟨true, rfl⟩
  | atomic name =>
    obtain ⟨target, hname⟩ := hknown
    exact ⟨v.isInstance target, by rw [itemMatches, hname]⟩
  | kind test =>
    cases v with
    | node h =>
      obtain ⟨m, howner⟩ := hv h rfl
      obtain ⟨kind, name, hkind, hname⟩ := exists_of_ownerOf howner
      obtain ⟨b, hb⟩ := KindTest.exists_accepts hkind hname test
      exact ⟨b, by rw [itemMatches_node howner, hb]; rfl⟩
    | _ => exact ⟨false, rfl⟩

end Caller

/-! ## Sequences -/

/-- What an occurrence indicator says about the number of items. -/
inductive Occurrence.Describes : Occurrence → Nat → Prop
  | one : Describes .one 1
  | absent : Describes .zeroOrOne 0
  | present : Describes .zeroOrOne 1
  | any (n) : Describes .zeroOrMore n
  | some (n) : Describes .oneOrMore (n + 1)

theorem Occurrence.allows_iff {occurrence : Occurrence} {n : Nat} :
    occurrence.allows n = true ↔ occurrence.Describes n := by
  constructor
  · intro hallows
    cases occurrence with
    | one =>
      obtain rfl : n = 1 := by simpa [allows] using hallows
      exact .one
    | zeroOrOne =>
      obtain rfl | rfl : n = 0 ∨ n = 1 := Nat.le_one_iff_eq_zero_or_eq_one.1 (of_decide_eq_true hallows)
      · exact .absent
      · exact .present
    | zeroOrMore => exact .any n
    | oneOrMore =>
      obtain ⟨k, rfl⟩ := Nat.exists_eq_add_of_le' (of_decide_eq_true hallows)
      exact .some k
  · intro hdescribes
    cases hdescribes with
    | some k => exact decide_eq_true (Nat.le_add_left 1 k)
    | _ => rfl

/-- What a sequence type says about a sequence of items. -/
inductive SequenceType.Describes (c : Caller) : SequenceType → List Value → Prop
  | emptySequence : Describes c .emptySequence []
  | typed {type occurrence items} (hlength : occurrence.Describes items.length)
      (hitems : ∀ v ∈ items, ItemType.Describes c type v) : Describes c (.typed type occurrence) items

namespace SequenceType

variable {type : SequenceType} {itemType : ItemType} {c : Caller} {items : List Value} {v : Value}

def IsKnown : SequenceType → Prop
  | emptySequence => True
  | typed itemType _ => itemType.IsKnown

theorem checkKnown_of_isKnown (h : type.IsKnown) : type.checkKnown = .ok () := by
  cases type with
  | emptySequence => rfl
  | typed itemType occurrence =>
    cases itemType with
    | atomic name =>
      obtain ⟨target, hname⟩ := h
      rw [checkKnown, hname]
      rfl
    | _ => rfl

theorem checkKnown_of_not_isKnown (h : ¬type.IsKnown) :
    ∃ name, type.checkKnown = .error (unknownType name) := by
  cases type with
  | emptySequence => exact absurd trivial h
  | typed itemType occurrence =>
    cases itemType with
    | atomic name =>
      have hname : AtomicType.ofQName? name = none :=
        Option.eq_none_iff_forall_ne_some.2 fun target htarget => h ⟨target, htarget⟩
      exact ⟨name.text, by rw [checkKnown, hname]; rfl⟩
    | _ => exact absurd trivial h

theorem checkItems_cons (type : SequenceType) (itemType : ItemType) (c : Caller) (v : Value)
    (vs : List Value) : type.checkItems itemType c (v :: vs) = (do
      if ← c.itemMatches v itemType then type.checkItems itemType c vs
      else .error (type.mismatch (v.typeName ++ " does not match " ++ itemType.render))) := rfl

theorem checkItems_of_describes (h : ∀ v ∈ items, itemType.Describes c v) :
    type.checkItems itemType c items = .ok () := by
  induction items with
  | nil => rfl
  | cons v vs ih =>
    obtain ⟨hv, hvs⟩ := List.forall_mem_cons.1 h
    rw [checkItems_cons, Caller.itemMatches_iff.2 hv]
    exact ih hvs

theorem checkItems_of_not_describes (hknown : itemType.IsKnown) (hresolved : ∀ v ∈ items, v.IsResolved c)
    (h : ¬∀ v ∈ items, itemType.Describes c v) :
    ∃ why, type.checkItems itemType c items = .error (type.mismatch why) := by
  induction items with
  | nil => exact absurd (List.forall_mem_nil _) h
  | cons v vs ih =>
    obtain ⟨hv, hvs⟩ := List.forall_mem_cons.1 hresolved
    rw [checkItems_cons]
    by_cases hmatch : itemType.Describes c v
    · rw [Caller.itemMatches_iff.2 hmatch]
      exact ih hvs fun hrest => h (List.forall_mem_cons.2 ⟨hmatch, hrest⟩)
    · -- the first item that is not described ends the check, whatever comes after it
      obtain ⟨b, hb⟩ := Caller.exists_itemMatches hknown hv
      obtain rfl : b = false := Bool.eq_false_iff.2 fun htrue =>
        hmatch (Caller.itemMatches_iff.1 (htrue ▸ hb))
      rw [hb]
      exact ⟨_, rfl⟩

theorem check_of_describes (h : type.Describes c items) : type.check c items = .ok () := by
  cases h with
  | emptySequence => rfl
  | typed hlength hitems =>
    rw [check, if_pos (Occurrence.allows_iff.2 hlength)]
    exact checkItems_of_describes hitems

theorem check_of_not_describes (hknown : type.IsKnown) (hresolved : ∀ v ∈ items, v.IsResolved c)
    (h : ¬type.Describes c items) : ∃ why, type.check c items = .error (type.mismatch why) := by
  cases type with
  | emptySequence =>
    cases items with
    | nil => exact absurd .emptySequence h
    | cons v vs => exact ⟨_, rfl⟩
  | typed itemType occurrence =>
    rw [check]
    split
    next hlength =>
      exact checkItems_of_not_describes hknown hresolved fun hall =>
        h (.typed (Occurrence.allows_iff.1 hlength) hall)
    next => exact ⟨_, rfl⟩

end SequenceType

/-! ## Expressions -/

namespace Expr

open Eval

theorem single_of_evaluateAll {operand : Expr} {f : Forest} {c : Context} {items : List Value}
    (h : (operand.evaluateAll f c).1 = .ok items) : ∀ v ∈ items, v.isSequence = false := by
  obtain ⟨v, c₁, -, hflatten⟩ := bind_eq_ok (Prod.ext h rfl)
  exact Value.single_of_flatten (congrArg Prod.fst hflatten)

/-- A type that is not known is an error whatever the operand. Items that are treated as a known type
come back as they are if the type describes them, and are an error if it does not. -/
theorem treat_describes (type : SequenceType) (operand : Expr) (f : Forest) (c : Context) :
    (¬type.IsKnown → ∃ error,
      ((apply (.convert .treat (some type)) [some operand]).evaluate f c).1 = .error error ∧
        error.code = .XPST0051) ∧
    (type.IsKnown → ∀ items, (operand.evaluateAll f c).1 = .ok items →
      (type.Describes (c.caller f) items → ∃ v,
        ((apply (.convert .treat (some type)) [some operand]).evaluate f c).1 = .ok v ∧
          v.flatten f = .ok items) ∧
      (¬type.Describes (c.caller f) items → (∀ v ∈ items, v.IsResolved (c.caller f)) → ∃ error,
        ((apply (.convert .treat (some type)) [some operand]).evaluate f c).1 = .error error ∧
          error.code = .XPDY0050)) := by
  constructor
  · intro hunknown
    obtain ⟨name, hcheck⟩ := SequenceType.checkKnown_of_not_isKnown hunknown
    rw [evaluate_treat, hcheck]
    exact ⟨_, rfl, rfl⟩
  · intro hknown items hitems
    have htreat := treat_of_known (SequenceType.checkKnown_of_isKnown hknown) hitems
    constructor
    · intro hdescribes
      rw [htreat, SequenceType.check_of_describes hdescribes]
      exact ⟨_, rfl, Value.flatten_collect (single_of_evaluateAll hitems)⟩
    · intro hdescribes hresolved
      obtain ⟨why, hcheck⟩ := SequenceType.check_of_not_describes hknown hresolved hdescribes
      rw [htreat, hcheck]
      exact ⟨_, rfl, rfl⟩

/-- The text in focus is a text and no element, and there is no type of another name. -/
theorem treat_describes_uneven :
    (∃ v, ((apply (.convert .treat (some (.kind .text .one))) [some contextItem]).evaluate
      Forest.uneven .inUneven).1 = .ok v ∧
        v.flatten Forest.uneven = .ok [.node (Model.uneven.handle 5)]) ∧
    (∃ error, ((apply (.convert .treat (some (.kind (.element none) .one))) [some contextItem]).evaluate
      Forest.uneven .inUneven).1 = .error error ∧ error.code = .XPDY0050) ∧
    ∃ error, ((apply (.convert .treat (some (.atomic "frobnicate" .one))) [some contextItem]).evaluate
      Forest.uneven .inUneven).1 = .error error ∧ error.code = .XPST0051 := by
  have hitems : (contextItem.evaluateAll Forest.uneven .inUneven).1 =
      .ok [.node (Model.uneven.handle 5)] := rfl
  have howner : (Context.inUneven.caller Forest.uneven).ownerOf (Model.uneven.handle 5) =
      .ok Model.uneven := rfl
  have hkind : Model.uneven.kind (Model.uneven.handle 5) = .ok .text := rfl
  have htext := treat_describes (.kind .text .one) contextItem Forest.uneven .inUneven
  have helement := treat_describes (.kind (.element none) .one) contextItem Forest.uneven .inUneven
  have hunknown := treat_describes (.atomic "frobnicate" .one) contextItem Forest.uneven .inUneven
  refine ⟨(htext.2 trivial _ hitems).1 (.typed .one ?_), (helement.2 trivial _ hitems).2 ?_ ?_,
    hunknown.1 ?_⟩
  · exact List.forall_mem_singleton.2 (.kind howner hkind rfl (.text none))
  · intro hdescribes
    cases hdescribes with
    | typed _ hall =>
      cases List.forall_mem_singleton.1 hall with
      | kind howner' hkind' _ htest =>
        obtain rfl := Except.ok.inj (howner.symm.trans howner')
        obtain rfl := Except.ok.inj (hkind.symm.trans hkind')
        cases htest
  · exact List.forall_mem_singleton.2 fun h hnode => ⟨_, Value.node.inj hnode ▸ howner⟩
  · rintro ⟨type, htype⟩
    cases htype

end Expr

end Grove
