/-
Tokens. A rendered expression is a text of tokens, some with a space between them. What a token
reads as depends on where it ends: a name, a number or a quoted text goes on as long as it can,
so what comes behind it has to be something else (`Delimited`). With that a text is taken token
by token (`Token.feed_text`), whatever is done with them.
-/
import Mathlib.Data.List.Basic
import Grove.Expr.Render

namespace Grove

/-- The list of the operators is complete, so what holds along it holds of every operator. -/
theorem BinaryOp.mem_all (op : BinaryOp) : op ∈ all := by
  rcases op with (_ | _ | _ | _ | _ | _) | (_ | _ | _ | _ | _ | _) | (_ | _) | _ <;> decide

/-! ## Names -/

/-- Whether a character can stand in a name. Of the characters beyond ASCII all count. -/
def isNameChar (c : Char) : Bool :=
  c.isAlphanum || c == '_' || c == '-' || c == '.' || 128 ≤ c.toNat

/-- A name that is read as a whole. -/
def IsPlainName (name : String) : Prop := name ≠ "" ∧ ∀ c ∈ name.toList, isNameChar c = true

/-- A plain name, without qualifier and namespace. -/
def QName.IsPlain (q : QName) : Prop := q = .plain q.localName ∧ IsPlainName q.localName

namespace QName.IsPlain

variable {q : QName}

theorem plain_text (h : q.IsPlain) : .plain q.text = q := by
  rw [h.1]
  rfl

theorem text_isPlain (h : q.IsPlain) : IsPlainName q.text := by
  rw [h.1]
  exact h.2

end QName.IsPlain

/-- All names in the test are plain. -/
def KindTest.IsPlain : KindTest → Prop
  | element (some q) | attr (some q) => q.IsPlain
  | instruction (some target) => IsPlainName target
  | _ => True

def NodeTest.IsPlain : NodeTest → Prop
  | name .any => True
  | name (.named q) => q.IsPlain
  | kind test => test.IsPlain

/-- What may come behind a name, a number, a quoted text or a word. -/
def delimiters : List Char := [' ', ')', ']', '/', '[']

def Delimited (k : List Char) : Prop := ∀ c ∈ k.head?, c ∈ delimiters

theorem delimited_nil : Delimited [] := by simp [Delimited]

theorem delimited_cons {c : Char} {k : List Char} (h : c ∈ delimiters) : Delimited (c :: k) := by
  simpa [Delimited] using h

/-- What no delimiter is, does not come next. -/
theorem Delimited.stops {p : Char → Bool} {k : List Char} (hk : Delimited k) (h : delimiters.any p = false) :
    ∀ c ∈ k.head?, p c = false := fun c hc => Bool.eq_false_iff.2 (List.any_eq_false.1 h c (hk c hc))

inductive Token where
  | leftParen
  | rightParen
  | leftBracket
  | rightBracket
  | slash
  | dot
  | var (name : String)
  | number (n : Nat)
  | quoted (s : String)
  | step (axis : Axis) (test : NodeTest)
  | operator (op : BinaryOp)
  | ifWord
  | thenWord
  | elseWord

namespace Token

def text : Token → String
  | leftParen => "("
  | rightParen => ")"
  | leftBracket => "["
  | rightBracket => "]"
  | slash => "/"
  | dot => "."
  | var name => "$" ++ name
  | number n => Nat.repr n
  | quoted s => (Literal.string s).render
  | step axis test => axis.renderStep test true false
  | operator op => op.token
  | ifWord => "if"
  | thenWord => "then"
  | elseWord => "else"

/-- All names in the token are plain. -/
def IsPlain : Token → Prop
  | var name => IsPlainName name
  | step _ test => test.IsPlain
  | _ => True

/-- Whether nothing that comes behind the token can change it. -/
def isClosed : Token → Bool
  | leftParen | rightParen | leftBracket | rightBracket | slash | dot => true
  | operator (.arithmetic .add) | operator (.arithmetic .sub) => true
  | _ => false

/-! ## Reading a token -/

/-- The text up to the quote that ends it, with two quotes for each quote inside. -/
def scanQuoted : List Char → Option (List Char × List Char)
  | '"' :: '"' :: cs => (scanQuoted cs).map fun (s, k) => ('"' :: s, k)
  | '"' :: k => some ([], k)
  | c :: cs => (scanQuoted cs).map fun (s, k) => (c :: s, k)
  | [] => none

/-- The token that starts with a mark. -/
def scanMark : Char → List Char → Option (Token × List Char)
  | '(', k => some (leftParen, k)
  | ')', k => some (rightParen, k)
  | '[', k => some (leftBracket, k)
  | ']', k => some (rightBracket, k)
  | '/', k => some (slash, k)
  | '.', k => some (dot, k)
  | '+', k => some (operator (.arithmetic .add), k)
  | '-', k => some (operator (.arithmetic .sub), k)
  | '*', k => some (operator (.arithmetic .mul), k)
  | '=', k => some (operator (.comparison .eq), k)
  | '!', '=' :: k => some (operator (.comparison .ne), k)
  | '<', '=' :: k => some (operator (.comparison .le), k)
  | '<', k => some (operator (.comparison .lt), k)
  | '>', '=' :: k => some (operator (.comparison .ge), k)
  | '>', k => some (operator (.comparison .gt), k)
  | '$', cs => some (var (String.ofList (cs.takeWhile isNameChar)), cs.dropWhile isNameChar)
  | '"', cs => (scanQuoted cs).map fun (s, k) => (quoted (String.ofList s), k)
  | _, _ => none

/-- The kind test of a word, with what stands in the parentheses behind it. -/
def kindTest? (word inner : String) : Option KindTest :=
  let name := if inner == "" then none else some inner
  match word with
  | "node" => some .anyNode
  | "document-node" => some .document
  | "element" => some (.element (name.map .plain))
  | "attribute" => some (.attr (name.map .plain))
  | "text" => some .text
  | "comment" => some .comment
  | "processing-instruction" => some (.instruction name)
  | _ => none

/-- The test of a step: a star, a name, or a word with parentheses behind it. -/
def scanTest (cs : List Char) : Option (NodeTest × List Char) :=
  let name := String.ofList (cs.takeWhile isNameChar)
  match cs.dropWhile isNameChar with
  | '*' :: k => some (.name .any, k)
  | '(' :: rest =>
    let inner := String.ofList (rest.takeWhile isNameChar)
    match rest.dropWhile isNameChar with
    | ')' :: k => (kindTest? name inner).map fun test => (.kind test, k)
    | _ => none
  | k => some (.name (.named (.plain name)), k)

def ofWord? (word : String) : Option Token :=
  match word with
  | "if" => some ifWord
  | "then" => some thenWord
  | "else" => some elseWord
  | word => (BinaryOp.ofToken? word).map operator

/-- A word, or the step along the axis of its name if two colons come behind it. -/
def scanWord (cs : List Char) : Option (Token × List Char) :=
  let word := String.ofList (cs.takeWhile isNameChar)
  match cs.dropWhile isNameChar with
  | ':' :: ':' :: rest => do
    let axis ← Axis.ofName? word
    let (test, k) ← scanTest rest
    some (step axis test, k)
  | k => (ofWord? word).map fun t => (t, k)

/-- The first token of a text, and what comes behind it. -/
def scan : List Char → Option (Token × List Char)
  | [] => none
  | c :: cs =>
    if c.isDigit then
      some (number (Nat.ofDigitChars 10 ((c :: cs).takeWhile (·.isDigit)) 0), (c :: cs).dropWhile (·.isDigit))
    else if c.isAlpha then scanWord (c :: cs)
    else scanMark c cs

/-- Gives the tokens of a text to a machine, one after the other. -/
def feed {σ : Type} (take : σ → Token → Option σ) (s : σ) : List Char → Option σ
  | [] => some s
  | c :: cs =>
    if c = ' ' then feed take s cs
    else
      match scan (c :: cs) with
      | none => none
      -- A token is never empty, so the check only says why the reading ends.
      | some (t, k) => if k.length ≤ cs.length then (take s t).bind fun s => feed take s k else none
termination_by cs => cs.length

/-- A number from zero on is a token. -/
theorem exists_text_number {i : Int64} (h : 0 ≤ i.toInt) :
    ∃ n, (Literal.integer i).render = (number n).text ∧ Int64.ofNat n = i := by
  obtain ⟨n, hn⟩ := Int.eq_ofNat_of_zero_le h
  refine ⟨n, ?_, ?_⟩
  · rw [Literal.render, hn]
    rfl
  · rw [← Int64.ofInt_eq_ofNat, ← hn, Int64.ofInt_toInt]

/-! ## What a token reads as -/

variable {k : List Char}

/-- Characters of a kind are taken up to the first that is of another. -/
theorem span_eq {p : Char → Bool} {body : List Char} (hbody : ∀ c ∈ body, p c = true)
    (hk : ∀ c ∈ k.head?, p c = false) :
    (body ++ k).takeWhile p = body ∧ (body ++ k).dropWhile p = k := by
  rw [List.takeWhile_append_of_pos hbody, List.dropWhile_append_of_pos hbody]
  cases k with
  | nil => simp
  | cons c k => simp [hk c rfl]

theorem stop_cons {p : Char → Bool} {c : Char} (hc : p c = false) :
    ∀ d ∈ (c :: k).head?, p d = false := by simpa using hc

theorem span_name {name : String} (hname : ∀ c ∈ name.toList, isNameChar c = true)
    (hk : ∀ c ∈ k.head?, isNameChar c = false) :
    String.ofList ((name.toList ++ k).takeWhile isNameChar) = name ∧
      (name.toList ++ k).dropWhile isNameChar = k := by
  obtain ⟨htake, hdrop⟩ := span_eq hname hk
  rw [htake, hdrop, String.ofList_toList]
  exact ⟨rfl, rfl⟩

theorem scanQuoted_eq (s : List Char) (hk : ∀ c ∈ k.head?, (c == '"') = false) :
    scanQuoted ((s.flatMap fun c => if c == '"' then ['"', '"'] else [c]) ++ '"' :: k) = some (s, k) := by
  induction s with
  | nil =>
    cases k with
    | nil => rfl
    | cons c k =>
      have hc : c ≠ '"' := beq_eq_false_iff_ne.1 (hk c rfl)
      simp [scanQuoted, hc]
  | cons c s ih =>
    rw [List.flatMap_cons]
    by_cases hc : c = '"'
    · simpa [hc, scanQuoted] using ih
    · simpa [hc, scanQuoted] using ih

/-- The word of a kind test. -/
def kindWord : KindTest → String
  | .anyNode => "node"
  | .document => "document-node"
  | .element _ => "element"
  | .attr _ => "attribute"
  | .text => "text"
  | .comment => "comment"
  | .instruction _ => "processing-instruction"

/-- What stands in the parentheses of a kind test. -/
def kindInner : KindTest → String
  | .element name | .attr name => name.elim "" QName.text
  | .instruction target => target.getD ""
  | _ => ""

theorem render_kindTest (test : KindTest) :
    test.render = kindWord test ++ "(" ++ kindInner test ++ ")" := by
  cases test <;> rfl

theorem isNameChar_kindWord (test : KindTest) : ∀ c ∈ (kindWord test).toList, isNameChar c = true := by
  cases test
  all_goals
    rw [kindWord]
    exact List.all_eq_true.1 rfl

theorem isNameChar_kindInner {test : KindTest} (h : test.IsPlain) :
    ∀ c ∈ (kindInner test).toList, isNameChar c = true := by
  have hnone : ∀ c ∈ "".toList, isNameChar c = true := List.all_eq_true.1 rfl
  rcases test with _ | _ | (_ | q) | (_ | q) | _ | _ | (_ | target)
  case element.some => exact (QName.IsPlain.text_isPlain h).2
  case attr.some => exact (QName.IsPlain.text_isPlain h).2
  case instruction.some => exact h.2
  all_goals exact hnone

theorem kindTest?_render {test : KindTest} (h : test.IsPlain) :
    kindTest? (kindWord test) (kindInner test) = some test := by
  rcases test with _ | _ | (_ | q) | (_ | q) | _ | _ | (_ | target)
  case element.some | attr.some =>
    have hne : (q.text == "") = false := beq_eq_false_iff_ne.2 (QName.IsPlain.text_isPlain h).1
    simp [kindWord, kindInner, kindTest?, hne, QName.IsPlain.plain_text h]
  case instruction.some => simp [kindWord, kindInner, kindTest?, h.1]
  all_goals rfl

theorem scanTest_render {test : NodeTest} (h : test.IsPlain) (hk : Delimited k) :
    scanTest (test.render.toList ++ k) = some (test, k) := by
  match test with
  | .name .any => rfl
  | .name (.named q) =>
    have hstop : ∀ c ∈ k.head?, isNameChar c = false := hk.stops (by decide)
    obtain ⟨htake, hdrop⟩ := span_name (QName.IsPlain.text_isPlain h).2 hstop
    have hmark : ∀ c ∈ k.head?, (c == '*' || c == '(') = false := hk.stops (by decide)
    rw [NodeTest.render, scanTest, htake, hdrop, QName.IsPlain.plain_text h]
    split
    next => simp at hmark
    next => simp at hmark
    next => rfl
  | .kind test =>
    have hword := isNameChar_kindWord test
    have hinner := isNameChar_kindInner h
    have hsplit : (NodeTest.kind test).render.toList ++ k =
        (kindWord test).toList ++ '(' :: ((kindInner test).toList ++ ')' :: k) := by
      simp [NodeTest.render, render_kindTest]
    obtain ⟨htake, hdrop⟩ := span_name (k := '(' :: ((kindInner test).toList ++ ')' :: k)) hword
      (stop_cons (by decide))
    obtain ⟨htake', hdrop'⟩ := span_name (k := ')' :: k) hinner (stop_cons (by decide))
    simp [hsplit, scanTest, htake, hdrop, htake', hdrop', kindTest?_render h]

theorem ofWord?_token {op : BinaryOp} : ofWord? op.token = some (operator op) := by
  have hall : BinaryOp.all.map (fun op => ofWord? op.token) = BinaryOp.all.map fun op => some (operator op) := rfl
  exact List.map_inj_left.1 hall op op.mem_all

/-- Whether a text is a word: a letter, and characters of names behind it. -/
def isWord (word : String) : Bool :=
  match word.toList with
  | [] => false
  | c :: cs => c.isAlpha && (c :: cs).all isNameChar

/-- Digits come before all letters. -/
theorem not_isDigit_of_isAlpha {c : Char} (h : c.isAlpha = true) : c.isDigit = false := by
  have hletter : 65 ≤ c.val.toNat := by
    rcases Bool.or_eq_true_iff.1 h with hupper | hlower
    · have hA : 'A'.val ≤ c.val := (of_decide_eq_true hupper).1
      exact UInt32.le_iff_toNat_le.1 hA
    · have ha : 'a'.val ≤ c.val := of_decide_eq_true (Bool.and_eq_true_iff.1 hlower).1
      exact Nat.le_trans (by decide) (UInt32.le_iff_toNat_le.1 ha)
  refine Bool.eq_false_iff.2 fun hdigit => ?_
  have h9 : c.val ≤ '9'.val := of_decide_eq_true (Bool.and_eq_true_iff.1 hdigit).2
  exact absurd (Nat.le_trans hletter (UInt32.le_iff_toNat_le.1 h9)) (by decide)

/-- A word that no colon follows. -/
theorem scan_word {word : String} (hword : isWord word = true) (hk : Delimited k) :
    scan (word.toList ++ k) = (ofWord? word).map fun t => (t, k) := by
  obtain ⟨c, cs, hcs⟩ : ∃ c cs, word.toList = c :: cs := by
    refine List.exists_cons_of_ne_nil fun hnil => ?_
    rw [isWord, hnil] at hword
    cases hword
  rw [isWord, hcs, Bool.and_eq_true, List.all_eq_true, ← hcs] at hword
  obtain ⟨htake, hdrop⟩ := span_name hword.2 (hk.stops (by decide))
  have hmark : ∀ c ∈ k.head?, (c == ':') = false := hk.stops (by decide)
  have hscan : scan (word.toList ++ k) = scanWord (word.toList ++ k) := by
    rw [hcs, List.cons_append, scan, not_isDigit_of_isAlpha hword.1, hword.1]
    rfl
  rw [hscan, scanWord, htake, hdrop]
  split
  next => simp at hmark
  next => rfl

theorem scan_step {axis : Axis} {test : NodeTest} (h : test.IsPlain) (hk : Delimited k) :
    scan ((axis.renderStep test true false).toList ++ k) = some (step axis test, k) := by
  have hsplit : (axis.renderStep test true false).toList ++ k =
      axis.name.toList ++ ':' :: ':' :: (test.render.toList ++ k) := by
    simp [Axis.renderStep]
  have hname : ∀ c ∈ axis.name.toList, isNameChar c = true := by
    cases axis
    all_goals
      rw [Axis.name]
      exact List.all_eq_true.1 rfl
  have hscan : ∀ k, scan (axis.name.toList ++ k) = scanWord (axis.name.toList ++ k) := by
    cases axis <;> exact fun _ => rfl
  have haxis : Axis.ofName? axis.name = some axis := by cases axis <;> rfl
  obtain ⟨htake, hdrop⟩ := span_name (k := ':' :: ':' :: (test.render.toList ++ k)) hname
    (stop_cons (by decide))
  rw [hsplit, hscan, scanWord, htake, hdrop]
  simp [haxis, scanTest_render h hk]

theorem scan_number (n : Nat) (hk : Delimited k) :
    scan ((Nat.repr n).toList ++ k) = some (number n, k) := by
  have hdigits : ∀ c ∈ Nat.toDigits 10 n, c.isDigit = true := fun c hc =>
    Nat.isDigit_of_mem_toDigits (by decide) (by decide) hc
  obtain ⟨htake, hdrop⟩ := span_eq hdigits (hk.stops (by decide))
  obtain ⟨c, cs, hcs⟩ := List.exists_cons_of_ne_nil (Nat.toDigits_ne_nil (n := n) (b := 10))
  have hdigit : c.isDigit = true := hdigits c (by rw [hcs]; exact List.mem_cons_self)
  have hscan : scan (Nat.toDigits 10 n ++ k) = some (number (Nat.ofDigitChars 10
      ((Nat.toDigits 10 n ++ k).takeWhile (·.isDigit)) 0),
      (Nat.toDigits 10 n ++ k).dropWhile (·.isDigit)) := by
    rw [hcs, List.cons_append, scan, if_pos hdigit]
  rw [Nat.toList_repr, hscan, htake, hdrop, Nat.ofDigitChars_ten_toDigits]

/-- A mark that could go on with an equals sign. -/
theorem scan_short {op : ComparisonOp} (hop : op = .lt ∨ op = .gt) (hk : Delimited k) :
    scan (op.token.toList ++ k) = some (operator (.comparison op), k) := by
  have hmark : ∀ c ∈ k.head?, (c == '=') = false := hk.stops (by decide)
  rcases hop with rfl | rfl
  · show scanMark '<' k = _
    rw [scanMark]
    rintro k' rfl
    simp at hmark
  · show scanMark '>' k = _
    rw [scanMark]
    rintro k' rfl
    simp at hmark

theorem scan_operator (op : BinaryOp) (hk : (operator op).isClosed = true ∨ Delimited k) :
    scan (op.token.toList ++ k) = some (operator op, k) := by
  have hword : ∀ op : BinaryOp, isWord op.token = true → Delimited k →
      scan (op.token.toList ++ k) = some (operator op, k) := by
    intro op hop hk
    rw [scan_word hop hk, ofWord?_token]
    rfl
  have hopen : (operator op).isClosed = false → Delimited k := fun h => hk.resolve_left (by simp [h])
  match op with
  | .arithmetic .add | .arithmetic .sub | .arithmetic .mul => rfl
  | .arithmetic .div => exact hword (.arithmetic .div) rfl (hopen rfl)
  | .arithmetic .idiv => exact hword (.arithmetic .idiv) rfl (hopen rfl)
  | .arithmetic .mod => exact hword (.arithmetic .mod) rfl (hopen rfl)
  | .comparison .eq | .comparison .ne | .comparison .le | .comparison .ge => rfl
  | .comparison .lt => exact scan_short (.inl rfl) (hopen rfl)
  | .comparison .gt => exact scan_short (.inr rfl) (hopen rfl)
  | .logical .and => exact hword (.logical .and) rfl (hopen rfl)
  | .logical .or => exact hword (.logical .or) rfl (hopen rfl)
  | .range => exact hword .range rfl (hopen rfl)

/-- A token is read back. -/
theorem scan_text {t : Token} (ht : t.IsPlain) (hk : t.isClosed = true ∨ Delimited k) :
    scan (t.text.toList ++ k) = some (t, k) := by
  have hopen : t.isClosed = false → Delimited k := fun h => hk.resolve_left (by simp [h])
  cases t with
  | var name =>
    obtain ⟨htake, hdrop⟩ := span_name ht.2 ((hopen rfl).stops (by decide))
    have hscan : scan ((var name).text.toList ++ k) = scanMark '$' (name.toList ++ k) := by
      simp only [text, String.toList_append, List.append_assoc]
      rfl
    rw [hscan, scanMark, htake, hdrop]
  | number n => exact scan_number n (hopen rfl)
  | quoted s =>
    have hmark : ∀ c ∈ k.head?, (c == '"') = false := (hopen rfl).stops (by decide)
    have hscan : scan ((quoted s).text.toList ++ k) = scanMark '"'
        ((s.toList.flatMap fun c => if c == '"' then ['"', '"'] else [c]) ++ '"' :: k) := by
      simp only [text, Literal.render, String.toList_append, String.toList_ofList, List.append_assoc]
      rfl
    rw [hscan, scanMark, scanQuoted_eq s.toList hmark, Option.map_some]
    dsimp only
    rw [String.ofList_toList]
  | step axis test => exact scan_step ht (hopen rfl)
  | operator op => exact scan_operator op hk
  | ifWord => exact scan_word rfl (hopen rfl)
  | thenWord => exact scan_word rfl (hopen rfl)
  | elseWord => exact scan_word rfl (hopen rfl)
  | _ => rfl

/-! ## Feeding tokens -/

section Feeding

variable {σ : Type} {take : σ → Token → Option σ} (s : σ)

theorem feed_nil : feed take s [] = some s := by rw [feed]

theorem feed_space (k : List Char) : feed take s (' ' :: k) = feed take s k := by
  rw [feed, if_pos rfl]

theorem feed_text {t : Token} (ht : t.IsPlain) (hk : t.isClosed = true ∨ Delimited k) :
    feed take s (t.text.toList ++ k) = (take s t).bind fun s => feed take s k := by
  have hscan := scan_text ht hk
  have halone : scan t.text.toList = some (t, []) := by
    have hnil := scan_text ht (.inr delimited_nil)
    rwa [List.append_nil] at hnil
  cases htext : t.text.toList with
  | nil =>
    rw [htext] at halone
    cases halone
  | cons c cs =>
    rw [htext, List.cons_append] at hscan
    have hc : c ≠ ' ' := by
      rintro rfl
      cases hscan
    have hlength : k.length ≤ (cs ++ k).length := by simp
    rw [List.cons_append, feed, if_neg hc, hscan]
    exact if_pos hlength

end Feeding

end Token

end Grove
