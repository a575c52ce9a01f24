/-
Formulas read back. A formula is made of operators, signs and conditionals over variables,
numbers and quoted texts. Its text is read with a stack of what waits for an operand: before an
operator is put there, all that binds as tightly is closed, so operators associate to the left.
Parentheses stand in a text wherever an operand would be closed too early or too late otherwise,
so the text of a formula reads as the formula (`Expr.Formula.read_render`). This holds for each part
of it, on any stack that what the part is made of does not close (`Expr.Formula.reads`).
-/
import Grove.Proofs.Expr.Token

namespace Grove

/-- An expression of operators, signs and conditionals over variables, numbers from zero on and
texts. -/
inductive Expr.Formula : Expr → Prop
  | var {name : String} : IsPlainName name → Formula (varRef (.plain name))
  | integer {i : Int64} : 0 ≤ i.toInt → Formula (integer i)
  | string (s : String) : Formula (string s)
  | binary (op : BinaryOp) {left right : Expr} : Formula left → Formula right →
      Formula (apply (.binary op) [some left, some right])
  | unary (negate : Bool) {operand : Expr} : Formula operand → Formula (apply (.unary negate) [some operand])
  | conditional {condition yes no : Expr} : Formula condition → Formula yes → Formula no →
      Formula (apply .conditional [some condition, some yes, some no])

/-! ## Reading -/

/-- How tightly an operator binds. A conditional binds looser than all of them. -/
def BinaryOp.precedence : BinaryOp → Nat
  | .logical .or => 1
  | .logical .and => 2
  | .comparison _ => 3
  | .range => 4
  | .arithmetic .add | .arithmetic .sub => 5
  | .arithmetic _ => 6

/-- A sign binds tighter than all operators. -/
def signPrecedence : Nat := 7

/-- What waits for an operand. -/
inductive Frame where
  | group
  | signed (negate : Bool)
  | left (op : BinaryOp) (operand : Expr)
  | condition
  | yes (condition : Expr)
  | no (condition yes : Expr)

namespace Frame

/-- Gives an operand to what waits for it and binds at least so tightly. -/
def close (level : Nat) : List Frame → Expr → List Frame × Expr
  | signed negate :: fs, e =>
    if level ≤ signPrecedence then close level fs (.apply (.unary negate) [some e])
    else (signed negate :: fs, e)
  | left op l :: fs, e =>
    if level ≤ op.precedence then close level fs (.apply (.binary op) [some l, some e])
    else (left op l :: fs, e)
  | no c y :: fs, e =>
    if level ≤ 0 then close level fs (.apply .conditional [some c, some y, some e])
    else (no c y :: fs, e)
  | fs, e => (fs, e)

/-- Whether what waits on top binds looser. -/
def Waits (level : Nat) : List Frame → Prop
  | signed _ :: _ => signPrecedence < level
  | left op _ :: _ => op.precedence < level
  | no _ _ :: _ => 0 < level
  | _ => True

variable {level level' : Nat} {fs : List Frame}

theorem Waits.mono (h : Waits level fs) (hle : level ≤ level') : Waits level' fs := by
  match fs, h with
  | signed _ :: _, h => exact Nat.lt_of_lt_of_le h hle
  | left _ _ :: _, h => exact Nat.lt_of_lt_of_le h hle
  | no _ _ :: _, h => exact Nat.lt_of_lt_of_le h hle
  | [], _ | group :: _, _ | condition :: _, _ | yes _ :: _, _ => trivial

theorem Waits.close_eq (h : Waits level fs) (e : Expr) : close level fs e = (fs, e) := by
  match fs, h with
  | signed _ :: _, h => exact if_neg (Nat.not_le_of_lt h)
  | left _ _ :: _, h => exact if_neg (Nat.not_le_of_lt h)
  | no _ _ :: _, h => exact if_neg (Nat.not_le_of_lt h)
  | [], _ | group :: _, _ | condition :: _, _ | yes _ :: _, _ => rfl

end Frame

/-- How far the reading of a formula is: what waits, and the operand read last, if nothing has
been done with it. -/
structure Reading where
  frames : List Frame
  operand : Option Expr

namespace Reading

/-- Takes a token where an operand begins. -/
def begin (fs : List Frame) : Token → Option Reading
  | .var name => some ⟨fs, some (.varRef (.plain name))⟩
  | .number n => some ⟨fs, some (.integer (Int64.ofNat n))⟩
  | .quoted s => some ⟨fs, some (.string s)⟩
  | .leftParen => some ⟨.group :: fs, none⟩
  | .operator (.arithmetic .sub) => some ⟨.signed true :: fs, none⟩
  | .operator (.arithmetic .add) => some ⟨.signed false :: fs, none⟩
  | .ifWord => some ⟨.condition :: fs, none⟩
  | _ => none

/-- Takes a token behind an operand. -/
def proceed (fs : List Frame) (e : Expr) : Token → Option Reading
  | .operator op =>
    let (fs, e) := Frame.close op.precedence fs e
    some ⟨.left op e :: fs, none⟩
  | .rightParen =>
    match Frame.close 0 fs e with
    | (.group :: fs, e) => some ⟨fs, some e⟩
    | _ => none
  | .thenWord =>
    match Frame.close 0 fs e with
    | (.condition :: fs, e) => some ⟨.yes e :: fs, none⟩
    | _ => none
  | .elseWord =>
    match Frame.close 0 fs e with
    | (.yes c :: fs, y) => some ⟨.no c y :: fs, none⟩
    | _ => none
  | _ => none

def take (r : Reading) (t : Token) : Option Reading :=
  match r.operand with
  | none => begin r.frames t
  | some e => proceed r.frames e t

/-- The formula that is read when the text is over. -/
def finish (r : Reading) : Option Expr := do
  let e ← r.operand
  match Frame.close 0 r.frames e with
  | ([], e) => some e
  | _ => none

end Reading

/-- Reads a formula. -/
def readFormula? (s : String) : Option Expr :=
  (Token.feed Reading.take ⟨[], none⟩ s.toList).bind Reading.finish

/-! ## The text of a formula -/

open Token (feed feed_text feed_space)

namespace Expr

variable {short : Bool} {e : Expr}

/-- On a stack, a text reads as an operand that will be given to all that waits for it and binds
at least so tightly, up to a level. -/
def ReadsOn (text : String) (fs : List Frame) (e : Expr) (level : Nat) : Prop :=
  ∃ fs' x, (∀ k, Delimited k → feed Reading.take ⟨fs, none⟩ (text.toList ++ k) =
      feed Reading.take ⟨fs', some x⟩ k) ∧
    ∀ l ≤ level, Frame.close l fs' x = Frame.close l fs e

theorem feed_token {r r' : Reading} {t : Token} {k : List Char} (ht : t.IsPlain)
    (hk : t.isClosed = true ∨ Delimited k) (htake : r.take t = some r') :
    feed Reading.take r (t.text.toList ++ k) = feed Reading.take r' k := by
  rw [feed_text r ht hk, htake]
  rfl

namespace ReadsOn

variable {text : String} {fs : List Frame} {level : Nat}

theorem mono {level' : Nat} (h : ReadsOn text fs e level) (hle : level' ≤ level) :
    ReadsOn text fs e level' := by
  obtain ⟨fs', x, hfeed, hclose⟩ := h
  exact ⟨fs', x, hfeed, fun l hl => hclose l (Nat.le_trans hl hle)⟩

theorem of_token {t : Token} (ht : t.IsPlain) (htake : Reading.begin fs t = some ⟨fs, some e⟩)
    (level : Nat) : ReadsOn t.text fs e level :=
  ⟨fs, e, fun _ hk => feed_token ht (.inr hk) htake, fun _ _ => rfl⟩

/-- In parentheses all is given that waits inside, and nothing else. -/
theorem parenthesized (h : ReadsOn text (.group :: fs) e 0) (level : Nat) :
    ReadsOn ("(" ++ text ++ ")") fs e level := by
  obtain ⟨fs', x, hfeed, hclose⟩ := h
  refine ⟨fs, e, fun k _ => ?_, fun _ _ => rfl⟩
  have htext : ("(" ++ text ++ ")").toList ++ k =
      Token.leftParen.text.toList ++ (text.toList ++ (Token.rightParen.text.toList ++ k)) := by
    simp [Token.text]
  have hright : Reading.take ⟨fs', some x⟩ .rightParen = some ⟨fs, some e⟩ := by
    show Reading.proceed fs' x .rightParen = _
    rw [Reading.proceed, hclose 0 (Nat.le_refl 0)]
    rfl
  calc feed Reading.take ⟨fs, none⟩ (("(" ++ text ++ ")").toList ++ k)
    _ = feed Reading.take ⟨.group :: fs, none⟩
          (text.toList ++ (Token.rightParen.text.toList ++ k)) := by
      rw [htext]
      exact feed_token (t := .leftParen) trivial (.inl rfl) rfl
    _ = feed Reading.take ⟨fs', some x⟩ (Token.rightParen.text.toList ++ k) :=
      hfeed _ (delimited_cons (by decide))
    _ = feed Reading.take ⟨fs, some e⟩ k := feed_token (t := .rightParen) trivial (.inl rfl) hright

theorem binary {op : BinaryOp} {left right : Expr} {ltext rtext : String}
    (hl : ReadsOn ltext fs left op.precedence)
    (hr : ReadsOn rtext (.left op left :: fs) right op.precedence)
    (hfs : Frame.Waits op.precedence fs) :
    ReadsOn (ltext ++ " " ++ op.token ++ " " ++ rtext) fs (apply (.binary op) [some left, some right])
      op.precedence := by
  obtain ⟨fs', x, hfeed, hclose⟩ := hl
  obtain ⟨fs'', y, hfeed', hclose'⟩ := hr
  refine ⟨fs'', y, fun k hk => ?_, fun l hl => ?_⟩
  · have htext : (ltext ++ " " ++ op.token ++ " " ++ rtext).toList ++ k =
        ltext.toList ++ (' ' :: ((Token.operator op).text.toList ++ (' ' :: (rtext.toList ++ k)))) := by
      simp [Token.text]
    have hop : Reading.take ⟨fs', some x⟩ (.operator op) = some ⟨.left op left :: fs, none⟩ := by
      show Reading.proceed fs' x (.operator op) = _
      rw [Reading.proceed, hclose _ (Nat.le_refl _), hfs.close_eq]
    have hspace : ∀ k, Delimited (' ' :: k) := fun _ => delimited_cons (by decide)
    rw [htext, hfeed _ (hspace _), feed_space, feed_token (t := .operator op) trivial (.inr (hspace _)) hop,
      feed_space, hfeed' k hk]
  · rw [hclose' l hl]
    exact if_pos hl

theorem unary {negate : Bool} {operand : Expr}
    (h : ReadsOn text (.signed negate :: fs) operand signPrecedence) :
    ReadsOn ((if negate then "-" else "+") ++ text) fs (apply (.unary negate) [some operand])
      signPrecedence := by
  obtain ⟨fs', x, hfeed, hclose⟩ := h
  refine ⟨fs', x, fun k hk => ?_, fun l hl => ?_⟩
  · rw [String.toList_append, List.append_assoc, ← hfeed k hk]
    cases negate
    · exact feed_token (t := .operator (.arithmetic .add)) trivial (.inl rfl) rfl
    · exact feed_token (t := .operator (.arithmetic .sub)) trivial (.inl rfl) rfl
  · rw [hclose l hl]
    exact if_pos hl

theorem conditional {condition yes no : Expr} {ctext ytext ntext : String}
    (hc : ReadsOn ctext (.group :: .condition :: fs) condition 0)
    (hy : ReadsOn ytext (.yes condition :: fs) yes 0)
    (hn : ReadsOn ntext (.no condition yes :: fs) no 0) :
    ReadsOn ("if (" ++ ctext ++ ") then " ++ ytext ++ " else " ++ ntext) fs
      (apply .conditional [some condition, some yes, some no]) 0 := by
  obtain ⟨fc, x, hfeed, hclose⟩ := hc.parenthesized 0
  obtain ⟨fy, y, hfeed', hclose'⟩ := hy
  obtain ⟨fn, z, hfeed'', hclose''⟩ := hn
  refine ⟨fn, z, fun k hk => ?_, fun l hl => ?_⟩
  · have htext : ("if (" ++ ctext ++ ") then " ++ ytext ++ " else " ++ ntext).toList ++ k =
        Token.ifWord.text.toList ++ (' ' :: (("(" ++ ctext ++ ")").toList ++ (' ' ::
          (Token.thenWord.text.toList ++ (' ' :: (ytext.toList ++ (' ' ::
            (Token.elseWord.text.toList ++ (' ' :: (ntext.toList ++ k)))))))))) := by
      simp [Token.text]
    have hthen : Reading.take ⟨fc, some x⟩ .thenWord = some ⟨.yes condition :: fs, none⟩ := by
      show Reading.proceed fc x .thenWord = _
      rw [Reading.proceed, hclose 0 (Nat.le_refl 0)]
      rfl
    have helse : Reading.take ⟨fy, some y⟩ .elseWord = some ⟨.no condition yes :: fs, none⟩ := by
      show Reading.proceed fy y .elseWord = _
      rw [Reading.proceed, hclose' 0 (Nat.le_refl 0)]
      rfl
    have hspace : ∀ k, Delimited (' ' :: k) := fun _ => delimited_cons (by decide)
    rw [htext, feed_token (t := .ifWord) trivial (.inr (hspace _)) rfl, feed_space, hfeed _ (hspace _),
      feed_space, feed_token (t := .thenWord) trivial (.inr (hspace _)) hthen, feed_space,
      hfeed' _ (hspace _), feed_space, feed_token (t := .elseWord) trivial (.inr (hspace _)) helse,
      feed_space, hfeed'' k hk]
  · rw [hclose'' l hl]
    exact if_pos hl

end ReadsOn

/-- Whether an expression can begin on a stack: an operator only where nothing that binds as
tightly waits for its first operand. -/
def StandsOn (e : Expr) (fs : List Frame) : Prop :=
  ∀ op slots, e = apply (.binary op) slots → Frame.Waits op.precedence fs

theorem precedence_pos (op : BinaryOp) : 0 < op.precedence := by
  have hall : ∀ op ∈ BinaryOp.all, 0 < op.precedence := by decide
  exact hall op op.mem_all

theorem precedence_lt_sign (op : BinaryOp) : op.precedence < signPrecedence := by
  have hall : ∀ op ∈ BinaryOp.all, op.precedence < signPrecedence := by decide
  exact hall op op.mem_all

/-- Operators are written by the table that they are read by. -/
theorem level_binding (op : BinaryOp) : op.binding.level = op.precedence := by
  have hall : ∀ op ∈ BinaryOp.all, op.binding.level = op.precedence := by decide
  exact hall op op.mem_all

/-- An operand is in parentheses if the operator around it would be in its way. -/
theorem readsOn_operand
    (he : ∀ fs, e.StandsOn fs → ReadsOn (e.render short) fs e (e.rendered short).binding.level)
    {parent : Binding} {level : Nat} (hlevel : parent.level = level) (hlt : level < Binding.path.level)
    {right : Bool} {fs : List Frame}
    (hfs : ∀ op : BinaryOp, level ≤ op.precedence → (right = true → level < op.precedence) →
      Frame.Waits op.precedence fs) :
    ReadsOn (Rendered.operand (some (e.rendered short)) parent right) fs e level := by
  subst hlevel
  unfold Rendered.operand
  dsimp only
  split
  next => exact ((he (.group :: fs) fun _ _ _ => trivial).mono (Nat.zero_le _)).parenthesized _
  next hbinds =>
    simp only [Bool.or_eq_true, Bool.and_eq_true, decide_eq_true_eq, beq_iff_eq, not_or, not_and,
      Nat.not_lt] at hbinds
    obtain ⟨hle, hright⟩ := hbinds
    refine (he fs fun op slots heq => ?_).mono hle
    subst heq
    -- Only as a left operand an operator may be as tight as the one around it.
    replace hle : parent.level ≤ op.binding.level := hle
    replace hright : right = true ∧ op.binding.level = parent.level →
        Binding.path.level ≤ op.binding.level := hright
    rw [level_binding] at hle hright
    refine hfs op hle fun hr => Nat.lt_of_le_of_ne hle fun heq => ?_
    exact absurd hlt (Nat.not_lt_of_le (heq ▸ hright ⟨hr, heq.symm⟩))

/-- A part of a formula reads as it is. -/
theorem Formula.reads (h : e.Formula) (short : Bool) {fs : List Frame} (hfs : e.StandsOn fs) :
    ReadsOn (e.render short) fs e (e.rendered short).binding.level := by
  induction h generalizing fs with
  | var hname => exact .of_token (t := .var _) hname rfl _
  | @integer i hi =>
    obtain ⟨n, htext, rfl⟩ := Token.exists_text_number hi
    show ReadsOn (Literal.integer (Int64.ofNat n)).render _ _ _
    rw [htext]
    exact .of_token (t := .number n) trivial rfl _
  | string s => exact .of_token (t := .quoted s) trivial rfl _
  | @binary op left right _ _ ihl ihr =>
    have hwaits : Frame.Waits op.precedence fs := hfs op _ rfl
    have hlt : op.precedence < Binding.path.level := Nat.lt_trans (precedence_lt_sign op) (by decide)
    show ReadsOn _ fs _ op.binding.level
    rw [level_binding]
    refine .binary (readsOn_operand (fun _ => ihl) (level_binding op) hlt ?left)
      (readsOn_operand (fun _ => ihr) (level_binding op) hlt ?right) hwaits
    case left => exact fun _ hle _ => hwaits.mono hle
    case right => exact fun _ _ hlt => hlt rfl
  | @unary negate operand _ ih =>
    refine .unary (readsOn_operand (fun _ => ih) rfl (by decide) fun op hle _ => ?_)
    exact absurd hle (Nat.not_le_of_lt (precedence_lt_sign op))
  | @conditional condition yes no _ _ _ ihc ihy ihn =>
    have hc : ReadsOn (condition.render short) (.group :: .condition :: fs) condition 0 :=
      .mono (ihc fun _ _ _ => trivial) (Nat.zero_le _)
    have hy : ReadsOn (yes.render short) (.yes condition :: fs) yes 0 :=
      .mono (ihy fun _ _ _ => trivial) (Nat.zero_le _)
    have hn : ReadsOn (no.render short) (.no condition yes :: fs) no 0 :=
      .mono (ihn fun op _ _ => precedence_pos op) (Nat.zero_le _)
    exact .conditional hc hy hn

/-- The text of a formula reads as the formula, with the operators of a level associating to the
left; so formulas that have one text are one formula. -/
theorem Formula.read_render (h : e.Formula) (short : Bool) :
    readFormula? (e.render short) = some e ∧
      ∀ (e' : Expr) (short' : Bool), e'.Formula → e'.render short' = e.render short → e' = e := by
  have hread : ∀ {e : Expr}, e.Formula → ∀ short, readFormula? (e.render short) = some e := by
    intro e h short
    have hstands : e.StandsOn [] := fun _ _ _ => trivial
    obtain ⟨fs, x, hfeed, hclose⟩ := h.reads short hstands
    have htext := hfeed [] delimited_nil
    rw [List.append_nil, Token.feed_nil] at htext
    rw [readFormula?, htext]
    show (match Frame.close 0 fs x with | ([], e) => some e | _ => none) = _
    rw [hclose 0 (Nat.zero_le _)]
    rfl
  refine ⟨hread h short, fun e' short' h' htext => ?_⟩
  have hsame := hread h' short'
  rw [htext, hread h short] at hsame
  exact (Option.some_inj.1 hsame).symm

/-- A negated variable minus a difference of a quote and a conditional. -/
def mixedFormula : Expr :=
  apply (.binary (.arithmetic .sub)) [
    some (apply (.unary true) [some (varRef (.plain "a"))]),
    some (apply (.binary (.arithmetic .sub)) [
      some (string "\""),
      some (apply .conditional [some (integer 1), some (integer 2), some (integer 3)])])]

theorem Formula.read_render_mixed :
    mixedFormula.Formula ∧
      mixedFormula.render true = "-$a - (\"\"\"\" - (if (1) then 2 else 3))" ∧
      readFormula? "-$a - (\"\"\"\" - (if (1) then 2 else 3))" = some mixedFormula := by
  have hname : IsPlainName "a" := ⟨by decide, List.all_eq_true.1 rfl⟩
  have hif : (apply .conditional [some (Expr.integer 1), some (Expr.integer 2),
      some (Expr.integer 3)]).Formula :=
    .conditional (.integer (by decide)) (.integer (by decide)) (.integer (by decide))
  have h : mixedFormula.Formula := .binary _ (.unary true (.var hname)) (.binary _ (.string _) hif)
  have htext : mixedFormula.render true = "-$a - (\"\"\"\" - (if (1) then 2 else 3))" := by rfl
  refine ⟨h, htext, ?_⟩
  rw [← htext]
  exact (h.read_render true).1

end Expr

end Grove
