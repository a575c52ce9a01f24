/-
Paths read back from their text. A text of paths, steps and filters is read token by token into
an outline, which is a path of segments: what stands between slashes, with the predicates behind
it. Every legible expression reads as an outline that comes to the same items, or fails alike
(`Expr.Legible.recovered`); so legible expressions of one text do
(`Expr.same_text_same_items`). Others do not, as a path from the root shows that stands within one
(`Expr.same_text_other_items`).
-/
import Grove.Proofs.Eval.Predicates
import Grove.Proofs.Expr.Legible

namespace Grove

/-! ## Reading -/

/-- What stands between slashes: a base or a step, with the predicates behind it. -/
inductive Segment where
  | filtered (base : Expr) (predicates : List Expr)
  | step (axis : Axis) (test : NodeTest) (predicates : List Expr)

namespace Segment

def expr : Segment → Expr
  | filtered base ps => .apply .filter ((base :: ps).map some)
  | step axis test ps => .apply (.step axis test) (ps.map some)

/-- The segment with more predicates behind it. -/
def append (qs : List Expr) : Segment → Segment
  | filtered base ps => filtered base (ps ++ qs)
  | step axis test ps => step axis test (ps ++ qs)

def IsForward : Segment → Prop
  | filtered _ _ => True
  | step axis _ _ => axis.isReverse = false

end Segment

/-- A path as far as it is read: its start, the steps that are over, and the one that is not. -/
structure Outline where
  start : PathStart := .relative
  done : List Segment := []
  current : Option Segment := none

namespace Outline

def segments (o : Outline) : List Segment := o.done ++ o.current.toList

def expr (o : Outline) : Expr := .apply (.path o.start) ((o.segments.map Segment.expr).map some)

/-- Begins a segment. -/
def begin (o : Outline) (s : Segment) : Option Outline :=
  match o.current with
  | none => some { o with current := some s }
  | some _ => none

/-- The path with more segments behind it. -/
def follow (o : Outline) : List Segment → Outline
  | [] => o
  | s :: ss => follow { start := o.start, done := o.segments, current := some s } ss

theorem start_follow (o : Outline) (ss : List Segment) : (o.follow ss).start = o.start := by
  induction ss generalizing o with
  | nil => rfl
  | cons s ss ih => exact ih _

theorem segments_follow (o : Outline) (ss : List Segment) : (o.follow ss).segments = o.segments ++ ss := by
  induction ss generalizing o with
  | nil => exact (List.append_nil _).symm
  | cons s ss ih =>
    rw [follow, ih]
    simp [segments]

theorem isSome_current_follow {o : Outline} (h : o.current.isSome = true) (ss : List Segment) :
    (o.follow ss).current.isSome = true := by
  induction ss generalizing o with
  | nil => exact h
  | cons s ss ih => exact ih rfl

/-- Ends a segment, or says where the path starts. -/
def slash (o : Outline) : Option Outline :=
  match o.current, o.start, o.done with
  | some s, start, done => some { start, done := done ++ [s] }
  | none, .relative, [] => some { start := .root }
  | none, .root, [] => some { start := .rootDescendants }
  | _, _, _ => none

end Outline

/-- How far the reading of paths is: the paths that wait for what stands in parentheses or
brackets, and the path that is read. -/
structure Browsing where
  outer : List Outline := []
  inner : Outline := {}

namespace Browsing

def take (b : Browsing) : Token → Option Browsing
  | .dot => (b.inner.begin (.filtered .contextItem [])).map (⟨b.outer, ·⟩)
  | .var name => (b.inner.begin (.filtered (.varRef (.plain name)) [])).map (⟨b.outer, ·⟩)
  | .number n => (b.inner.begin (.filtered (.integer (Int64.ofNat n)) [])).map (⟨b.outer, ·⟩)
  | .step axis test => (b.inner.begin (.step axis test [])).map (⟨b.outer, ·⟩)
  | .slash => b.inner.slash.map (⟨b.outer, ·⟩)
  | .leftParen => some ⟨b.inner :: b.outer, {}⟩
  | .leftBracket => some ⟨b.inner :: b.outer, {}⟩
  | .rightParen =>
    match b.outer with
    | o :: outer => (o.begin (.filtered b.inner.expr [])).map (⟨outer, ·⟩)
    | [] => none
  | .rightBracket =>
    match b.outer with
    | ⟨start, done, some s⟩ :: outer => some ⟨outer, ⟨start, done, some (s.append [b.inner.expr])⟩⟩
    | _ => none
  | _ => none

end Browsing

/-! ## Segments and what they mean -/

namespace Segment

variable {f : Forest} {c : Context} {s : Segment} {ps qs : List Expr}

theorem append_append (s : Segment) (ps qs : List Expr) : (s.append ps).append qs = s.append (ps ++ qs) := by
  cases s <;> simp [append]

theorem append_nil (s : Segment) : s.append [] = s := by
  cases s <;> simp [append]

theorem IsForward.append (h : s.IsForward) (ps : List Expr) : (s.append ps).IsForward := by
  cases s <;> exact h

/-- Predicates behind a segment are those of a filter over it. -/
theorem alike_append (hc : c.KnowsReachable f) (hs : s.IsForward) (ps : List Expr) :
    Expr.Alike f c (s.append ps).expr (.apply .filter ((s.expr :: ps).map some)) := by
  cases s with
  | filtered base qs => exact .filter_append base qs ps
  | step axis test qs =>
    exact fun focus => Expr.evaluateAll_step_append hs test qs ps (hc.focusReachable focus)

end Segment

/-! ## The text of paths -/

open Token (feed feed_text)

namespace Expr

variable {f : Forest} {c : Context} {e : Expr}

/-- From its beginning on the text reads as a path. -/
def ReadsAs (text : String) (o : Outline) : Prop :=
  ∀ outer k, Delimited k → feed Browsing.take ⟨outer, {}⟩ (text.toList ++ k) = feed Browsing.take ⟨outer, o⟩ k

/-- Wherever a step of a path is due the text reads as one. -/
def ReadsAsSegment (text : String) (s : Segment) : Prop :=
  ∀ outer start done k, Delimited k → feed Browsing.take ⟨outer, ⟨start, done, none⟩⟩ (text.toList ++ k) =
    feed Browsing.take ⟨outer, ⟨start, done, some s⟩⟩ k

theorem ReadsAsSegment.readsAs {text : String} {s : Segment} (h : ReadsAsSegment text s) :
    ReadsAs text { current := some s } := fun outer k hk => h outer .relative [] k hk

theorem feed_take {b b' : Browsing} {t : Token} {k : List Char} (ht : t.IsPlain)
    (hk : t.isClosed = true ∨ Delimited k) (htake : b.take t = some b') :
    feed Browsing.take b (t.text.toList ++ k) = feed Browsing.take b' k := by
  rw [feed_text b ht hk, htake]
  rfl

theorem readsAsSegment_token {t : Token} {s : Segment} (ht : t.IsPlain)
    (htake : ∀ outer start done, Browsing.take ⟨outer, ⟨start, done, none⟩⟩ t =
      some ⟨outer, ⟨start, done, some s⟩⟩) : ReadsAsSegment t.text s :=
  fun outer start done _ hk => feed_take ht (.inr hk) (htake outer start done)

/-- In parentheses a path is the base of a segment. -/
theorem ReadsAs.parenthesized {text : String} {o : Outline} (h : ReadsAs text o) :
    ReadsAsSegment ("(" ++ text ++ ")") (.filtered o.expr []) := by
  intro outer start done k hk
  have htext : ("(" ++ text ++ ")").toList ++ k =
      Token.leftParen.text.toList ++ (text.toList ++ (Token.rightParen.text.toList ++ k)) := by
    simp [Token.text]
  calc feed Browsing.take ⟨outer, ⟨start, done, none⟩⟩ (("(" ++ text ++ ")").toList ++ k)
    _ = feed Browsing.take ⟨⟨start, done, none⟩ :: outer, {}⟩
          (text.toList ++ (Token.rightParen.text.toList ++ k)) := by
      rw [htext]
      exact feed_take (t := .leftParen) trivial (.inl rfl) rfl
    _ = feed Browsing.take ⟨⟨start, done, none⟩ :: outer, o⟩ (Token.rightParen.text.toList ++ k) :=
      h _ _ (delimited_cons (by decide))
    _ = feed Browsing.take ⟨outer, ⟨start, done, some (.filtered o.expr [])⟩⟩ k :=
      feed_take (t := .rightParen) trivial (.inl rfl) rfl

/-- The marks in front of a path say where it starts. -/
theorem feed_start (start : PathStart) (outer : List Outline) (k : List Char) :
    feed Browsing.take ⟨outer, {}⟩ (start.render.toList ++ k) =
      feed Browsing.take ⟨outer, { start }⟩ k := by
  cases start with
  | relative => rfl
  | root => exact feed_take (t := .slash) trivial (.inl rfl) rfl
  | rootDescendants =>
    calc feed Browsing.take ⟨outer, {}⟩ ('/' :: '/' :: k)
      _ = feed Browsing.take ⟨outer, { start := .root }⟩ ('/' :: k) :=
        feed_take (t := .slash) trivial (.inl rfl) rfl
      _ = feed Browsing.take ⟨outer, { start := .rootDescendants }⟩ k :=
        feed_take (t := .slash) trivial (.inl rfl) rfl

/-! ## Reading back -/

/-- An expression reads as a path that is alike, and as a segment if it can stand for one. -/
structure Recovered (f : Forest) (c : Context) (e : Expr) : Prop where
  path : ∃ o, ReadsAs (e.render false) o ∧ Alike f c o.expr e ∧ (e.IsFront → o.current.isSome = true)
  segment : e.IsSegment → ∃ s, ReadsAsSegment (e.render false) s ∧ Alike f c s.expr e ∧
    (e.kind ≠ .path → ¬e.CountsBackward → s.IsForward)

theorem Recovered.of_segment {s : Segment} (hread : ReadsAsSegment (e.render false) s)
    (halike : Alike f c s.expr e) (hforward : ¬e.CountsBackward → s.IsForward) : Recovered f c e := by
  refine ⟨⟨{ current := some s }, hread.readsAs, ?_, fun _ => rfl⟩,
    fun _ => ⟨s, hread, halike, fun _ => hforward⟩⟩
  exact .trans (.path_single s.expr) halike

/-- Predicates are put behind the segment that they stand behind. -/
theorem exists_predicates {ps : List Expr} (h : ∀ p ∈ ps, Recovered f c p) :
    ∃ qs, List.Forall₂ (Alike f c) qs ps ∧ ∀ outer start done s k, Delimited k →
      feed Browsing.take ⟨outer, ⟨start, done, some s⟩⟩ ((predicatesText ps).toList ++ k) =
        feed Browsing.take ⟨outer, ⟨start, done, some (s.append qs)⟩⟩ k := by
  induction ps with
  | nil => exact ⟨[], .nil, fun outer start done s k _ => by simp [predicatesText, Segment.append_nil]⟩
  | cons p ps ih =>
    obtain ⟨hp, hps⟩ := List.forall_mem_cons.1 h
    obtain ⟨o, hread, halike, -⟩ := hp.path
    obtain ⟨qs, hqs, hfeed⟩ := ih hps
    refine ⟨o.expr :: qs, .cons halike hqs, fun outer start done s k hk => ?_⟩
    have htext : (predicatesText (p :: ps)).toList ++ k = Token.leftBracket.text.toList ++
        ((p.render false).toList ++
          (Token.rightBracket.text.toList ++ ((predicatesText ps).toList ++ k))) := by
      simp [predicatesText, Rendered.predicate, Rendered.slot, Token.text, render]
    calc feed Browsing.take ⟨outer, ⟨start, done, some s⟩⟩ ((predicatesText (p :: ps)).toList ++ k)
      _ = feed Browsing.take ⟨⟨start, done, some s⟩ :: outer, {}⟩ ((p.render false).toList ++
            (Token.rightBracket.text.toList ++ ((predicatesText ps).toList ++ k))) := by
        rw [htext]
        exact feed_take (t := .leftBracket) trivial (.inl rfl) rfl
      _ = feed Browsing.take ⟨⟨start, done, some s⟩ :: outer, o⟩
            (Token.rightBracket.text.toList ++ ((predicatesText ps).toList ++ k)) :=
        hread _ _ (delimited_cons (by decide))
      _ = feed Browsing.take ⟨outer, ⟨start, done, some (s.append [o.expr])⟩⟩
            ((predicatesText ps).toList ++ k) :=
        feed_take (t := .rightBracket) trivial (.inl rfl) rfl
      _ = feed Browsing.take ⟨outer, ⟨start, done, some (s.append (o.expr :: qs))⟩⟩ k := by
        rw [hfeed _ _ _ _ _ hk, Segment.append_append]
        rfl

/-- Steps are put behind the step that they stand behind. -/
theorem exists_steps {es : List Expr} (h : ∀ e ∈ es, Recovered f c e) (hsegments : ∀ e ∈ es, e.IsSegment) :
    ∃ ss, List.Forall₂ (Alike f c) (ss.map Segment.expr) es ∧
      ∀ outer o k, o.current.isSome = true → Delimited k →
        feed Browsing.take ⟨outer, o⟩ ((stepsText es).toList ++ k) =
          feed Browsing.take ⟨outer, o.follow ss⟩ k := by
  induction es with
  | nil => exact ⟨[], .nil, fun _ _ _ _ _ => by simp [stepsText, Outline.follow]⟩
  | cons e es ih =>
    obtain ⟨he, hes⟩ := List.forall_mem_cons.1 h
    obtain ⟨hsegment, hsegments⟩ := List.forall_mem_cons.1 hsegments
    obtain ⟨s, hread, halike, -⟩ := he.segment hsegment
    obtain ⟨ss, hss, hfeed⟩ := ih hes hsegments
    refine ⟨s :: ss, .cons halike hss, fun outer o k ho hk => ?_⟩
    have htext : (stepsText (e :: es)).toList ++ k =
        Token.slash.text.toList ++ ((e.render false).toList ++ ((stepsText es).toList ++ k)) := by
      simp [stepsText, Token.text]
    have hslash : Browsing.take ⟨outer, o⟩ .slash =
        some ⟨outer, { start := o.start, done := o.segments }⟩ := by
      obtain ⟨start, done, current⟩ := o
      obtain ⟨s', rfl⟩ := Option.isSome_iff_exists.1 ho
      rfl
    rw [htext, feed_take (t := .slash) trivial (.inl rfl) hslash, hread _ _ _ _ (delimited_stepsText es hk),
      hfeed _ _ _ rfl hk]
    rfl

namespace Recovered

variable {ps es : List Expr}

theorem step (axis : Axis) {test : NodeTest} (htest : test.IsPlain) (hps : ∀ p ∈ ps, Recovered f c p) :
    Recovered f c (apply (.step axis test) (ps.map some)) := by
  obtain ⟨qs, hqs, hfeed⟩ := exists_predicates hps
  have hread : ReadsAsSegment ((apply (.step axis test) (ps.map some)).render false)
      (.step axis test qs) := by
    intro outer start done k hk
    rw [render_step, String.toList_append, List.append_assoc,
      feed_take (t := .step axis test) htest (.inr (delimited_predicatesText ps hk)) rfl, hfeed _ _ _ _ _ hk]
    rfl
  exact .of_segment hread (.step axis test hqs) fun hback =>
    Bool.eq_false_iff.2 fun hreverse => hback (.step _ _ hreverse)

/-- Predicates behind a segment that stands for an expression make one that stands for a filter
over it. -/
theorem filter_of_segment {b : Expr} {s : Segment} (hc : c.KnowsReachable f)
    (hread : ReadsAsSegment (Rendered.operand (some (b.rendered false)) .primary true) s)
    (halike : Alike f c s.expr b) (hforward : ¬b.CountsBackward → s.IsForward)
    (hps : ∀ p ∈ ps, Recovered f c p) (hb : ps ≠ [] → ¬b.CountsBackward) :
    Recovered f c (apply .filter ((b :: ps).map some)) := by
  obtain ⟨qs, hqs, hfeed⟩ := exists_predicates hps
  have hsegment : ReadsAsSegment ((apply .filter ((b :: ps).map some)).render false) (s.append qs) := by
    intro outer start done k hk
    rw [render_filter, String.toList_append, List.append_assoc,
      hread _ _ _ _ (delimited_predicatesText ps hk), hfeed _ _ _ _ _ hk]
  have hsame : Alike f c (s.append qs).expr (apply .filter ((b :: ps).map some)) := by
    by_cases hnil : ps = []
    · -- Where nothing is counted the direction does not matter.
      subst hnil
      cases hqs
      rw [Segment.append_nil]
      exact .trans halike (.symm (.filter_nil b))
    · exact .trans (Segment.alike_append hc (hforward (hb hnil)) qs) (.filter halike hqs)
  exact .of_segment hsegment hsame fun hback => (hforward fun h => hback (.filter _ h)).append qs

theorem filter {b : Expr} (hc : c.KnowsReachable f) (h : Recovered f c b) (hb : b.Navigational)
    (hps : ∀ p ∈ ps, Recovered f c p) (hforward : ps ≠ [] → ¬b.CountsBackward) :
    Recovered f c (apply .filter ((b :: ps).map some)) := by
  have hoperand := hb.operand.2
  by_cases hpath : b.kind = .path
  case pos =>
    -- In parentheses the path is a base, so that the predicates are not those of its last step.
    obtain ⟨o, ho, halike, -⟩ := h.path
    rw [if_pos hpath] at hoperand
    have hread : ReadsAsSegment (Rendered.operand (some (b.rendered false)) .primary true)
        (.filtered o.expr []) := by
      rw [hoperand]
      exact ho.parenthesized
    exact .filter_of_segment hc hread (.trans (.filter_nil _) halike) (fun _ => trivial) hps hforward
  case neg =>
    obtain ⟨s, hs, halike, hs'⟩ := h.segment (.other hpath)
    rw [if_neg hpath] at hoperand
    refine .filter_of_segment hc ?_ halike (hs' hpath) hps hforward
    rw [hoperand]
    exact hs

theorem rooted {start : PathStart} (hstart : start ≠ .relative) (h : ∀ e ∈ es, Recovered f c e)
    (hes : ∀ e ∈ es, e.Navigational) (hsegments : ∀ e ∈ es, e.IsSegment) :
    Recovered f c (apply (.path start) (es.map some)) := by
  refine ⟨?_, fun hsegment => absurd hsegment.of_path.1 hstart⟩
  cases es with
  | nil =>
    refine ⟨{ start }, fun outer k _ => ?_, .refl _, fun hfront => absurd rfl hfront.of_path.1⟩
    have htext : (apply (.path start) (([] : List Expr).map some)).render false = start.render := by
      rw [render_path]
      exact String.append_empty
    rw [htext, feed_start]
  | cons e es =>
    obtain ⟨hsegment, hsegments⟩ := List.forall_mem_cons.1 hsegments
    obtain ⟨hfirst, hothers⟩ := List.forall_mem_cons.1 h
    obtain ⟨he, hes⟩ := List.forall_mem_cons.1 hes
    obtain ⟨s, hs, halike, -⟩ := hfirst.segment hsegment
    obtain ⟨ss, hss, hfeed⟩ := exists_steps hothers hsegments
    refine ⟨Outline.follow { start, current := some s } ss, fun outer k hk => ?_, ?_,
      fun _ => Outline.isSome_current_follow rfl ss⟩
    · rw [render_path_cons start he hes]
      simp only [String.toList_append, List.append_assoc]
      rw [feed_start, hs _ _ _ _ (delimited_stepsText es hk), hfeed _ _ _ rfl hk]
    · rw [Outline.expr, Outline.start_follow, Outline.segments_follow]
      exact .path start (.cons halike hss)

theorem empty : Recovered f c (apply (.path .relative) []) := by
  refine ⟨⟨{}, fun outer k _ => rfl, .refl _, fun h => ?_⟩, fun h => ?_⟩
  · replace h : IsFront (apply (.path .relative) (([] : List Expr).map some)) := h
    exact absurd rfl h.of_path.1
  · replace h : IsSegment (apply (.path .relative) (([] : List Expr).map some)) := h
    obtain ⟨-, e, he, -⟩ := h.of_path
    cases he

theorem wrapped (h : Recovered f c e) (he : e.Navigational) :
    Recovered f c (apply (.path .relative) ([e].map some)) := by
  have htext : (apply (.path .relative) ([e].map some)).render false = e.render false := by
    rw [render_path_cons .relative he (by simp)]
    simp [PathStart.render, stepsText]
  have hsame : Alike f c e (apply (.path .relative) ([e].map some)) := .symm (.path_single e)
  refine ⟨?_, fun hsegment => ?_⟩
  · obtain ⟨o, ho, halike, hfront⟩ := h.path
    exact ⟨o, htext ▸ ho, .trans halike hsame, fun h => hfront (h.of_path.2 e rfl rfl)⟩
  · obtain ⟨-, e', he', hsegment⟩ := hsegment.of_path
    obtain rfl : e = e' := (List.cons.inj he').1
    obtain ⟨s, hs, halike, -⟩ := h.segment hsegment
    exact ⟨s, htext ▸ hs, .trans halike hsame, fun hpath => absurd rfl hpath⟩

/-- The steps of a path are put behind what its first one reads as. -/
theorem path_cons (he : Recovered f c e) (hfront : e.IsFront) (hnav : e.Navigational)
    (h : ∀ e ∈ es, Recovered f c e) (hes : ∀ e ∈ es, e.Navigational) (hsegments : ∀ e ∈ es, e.IsSegment)
    (hne : es ≠ []) : Recovered f c (apply (.path .relative) ((e :: es).map some)) := by
  obtain ⟨o, ho, halike, hsome⟩ := he.path
  obtain ⟨ss, hss, hfeed⟩ := exists_steps h hsegments
  have hcurrent := hsome hfront
  refine ⟨⟨o.follow ss, fun outer k hk => ?_, ?_, fun _ => Outline.isSome_current_follow hcurrent ss⟩,
    fun hsegment => ?_⟩
  · rw [render_path_cons .relative hnav hes]
    simp only [PathStart.render, String.empty_append, String.toList_append, List.append_assoc]
    rw [ho outer _ (delimited_stepsText es hk), hfeed _ _ _ hcurrent hk]
  · have hsegments : o.segments.map Segment.expr ≠ [] := by
      obtain ⟨s, hs⟩ := Option.isSome_iff_exists.1 hcurrent
      simp [Outline.segments, hs]
    rw [Outline.expr, Outline.start_follow, Outline.segments_follow, List.map_append]
    exact .trans (.path_append (.inr hsegments) _) (.path .relative (.cons halike hss))
  · obtain ⟨-, e', he', -⟩ := hsegment.of_path
    exact absurd (List.cons.inj he').2 hne

end Recovered

/-- What is legible is recovered from its text. -/
theorem Legible.recovered (hc : c.KnowsReachable f) (h : e.Legible) : Recovered f c e := by
  induction h with
  | contextItem =>
    have hread := readsAsSegment_token (t := .dot) trivial fun _ _ _ => rfl
    exact .of_segment hread (.filter_nil _) fun _ => trivial
  | var hname =>
    have hread := readsAsSegment_token (t := .var _) hname fun _ _ _ => rfl
    exact .of_segment hread (.filter_nil _) fun _ => trivial
  | @integer i hi =>
    obtain ⟨n, htext, rfl⟩ := Token.exists_text_number hi
    have hread : ReadsAsSegment ((Expr.integer (Int64.ofNat n)).render false)
        (.filtered (Expr.integer (Int64.ofNat n)) []) := by
      show ReadsAsSegment (Literal.integer (Int64.ofNat n)).render _
      rw [htext]
      exact readsAsSegment_token trivial fun _ _ _ => rfl
    exact .of_segment hread (.filter_nil _) fun _ => trivial
  | step axis htest _ ih => exact .step axis htest ih
  | filter hb _ hforward ihb ihps => exact .filter hc ihb hb.navigational ihps hforward
  | rooted hstart hes hsegments ih => exact .rooted hstart ih (fun e he => (hes e he).navigational) hsegments
  | empty => exact .empty
  | wrapped he ih => exact .wrapped ih he.navigational
  | path he hfront hes hsegments hne ihe ihes =>
    exact .path_cons ihe hfront he.navigational ihes (fun e he => (hes e he).navigational) hsegments hne

/-- Reads a path. -/
def readPath? (s : String) : Option Expr :=
  match feed Browsing.take {} s.toList with
  | some ⟨[], o⟩ => some o.expr
  | _ => none

/-- The text of a legible expression reads as one that is alike; so legible expressions that have
one text come to the same items, or fail alike. -/
theorem same_text_same_items {e' : Expr} (h : e.Legible) (h' : e'.Legible)
    (htext : e.render false = e'.render false) (hc : c.KnowsReachable f) :
    e.evaluateAll f c = e'.evaluateAll f c := by
  have hread : ∀ {e : Expr}, e.Legible → ∃ e₀, readPath? (e.render false) = some e₀ ∧ Alike f c e₀ e := by
    intro e h
    obtain ⟨o, ho, halike, -⟩ := (h.recovered hc).path
    have hfeed := ho [] [] delimited_nil
    rw [List.append_nil, Token.feed_nil] at hfeed
    refine ⟨o.expr, ?_, halike⟩
    rw [readPath?, hfeed]
  obtain ⟨e₀, he₀, halike⟩ := hread h
  obtain ⟨e₁, he₁, halike'⟩ := hread h'
  rw [htext, he₁] at he₀
  obtain rfl : e₁ = e₀ := Option.some_inj.1 he₀
  exact (halike.symm.trans halike') c.focus

/-- The texts in the elements below the root, by a path that goes on behind a path. -/
def joinedTexts : Expr :=
  path .relative [path .root [step .child (.kind (.element none)) []], step .child (.kind .text) []]

/-- The texts in the elements below the root, by a path of two steps. -/
def innerTexts : Expr :=
  path .root [step .child (.kind (.element none)) [], step .child (.kind .text) []]

theorem same_text_same_items_inner :
    joinedTexts.Legible ∧ innerTexts.Legible ∧
      joinedTexts.render false = "/child::element()/child::text()" ∧
      innerTexts.render false = "/child::element()/child::text()" ∧
      Context.inUneven.KnowsReachable Forest.uneven ∧
      joinedTexts.evaluateAll Forest.uneven .inUneven = innerTexts.evaluateAll Forest.uneven .inUneven := by
  have hnone : ∀ e ∈ ([] : List Expr), e.Legible := by simp
  have hstep : ∀ test : NodeTest, test.IsPlain → (step .child test []).Legible := fun _ htest =>
    .step .child htest hnone
  have helement := hstep (.kind (.element none)) trivial
  have htext := hstep (.kind .text) trivial
  have hsegment : ∀ test, IsSegment (step .child test []) := fun _ => .other fun h => by cases h
  have hroot : (path .root [step .child (.kind (.element none)) []]).Legible :=
    .rooted (by decide) (List.forall_mem_singleton.2 helement) (List.forall_mem_singleton.2 (hsegment _))
  have hfront : (path .root [step .child (.kind (.element none)) []]).IsFront :=
    .rooted (by decide) (List.cons_ne_nil _ [])
  have hjoined : joinedTexts.Legible := .path hroot hfront (List.forall_mem_singleton.2 htext)
    (List.forall_mem_singleton.2 (hsegment _)) (List.cons_ne_nil _ [])
  have hinner : innerTexts.Legible := .rooted (by decide)
    (List.forall_mem_cons.2 ⟨helement, List.forall_mem_singleton.2 htext⟩)
    (List.forall_mem_cons.2 ⟨hsegment _, List.forall_mem_singleton.2 (hsegment _)⟩)
  have hknown := Context.knowsReachable_inUneven
  exact ⟨hjoined, hinner, rfl, rfl, hknown, same_text_same_items hjoined hinner rfl hknown⟩

/-- The texts below the root, through a path within a path. -/
def nestedTexts : Expr := path .root [path .root [step .child (.kind .text) []]]

/-- The texts below any node. -/
def allTexts : Expr := path .rootDescendants [step .child (.kind .text) []]

/-- What a path from the root comes to that has nodes for its only step. -/
theorem evaluateAll_below_root {m : Model} {i : Nat} {hs : List NodeHandle} (hm : m.Numbered)
    (h : c.At f m i)
    (he : e.evaluateAll f (c.push ⟨.node m.document, 1, 1⟩) =
      (.ok (hs.map .node), c.push ⟨.node m.document, 1, 1⟩)) :
    (apply (.path .root) [some e]).evaluateAll f c =
      (.ok ((NodeHandle.sortDistinct hs).map .node), c) := by
  have hfound : Eval.stepFrom e.evaluate 1 1 [m.document] f c = (.ok (hs.map .node), c) := by
    have hitems : Eval.focused ⟨.node m.document, 1, 1⟩ (Eval.items e.evaluate) f c =
        (.ok (hs.map .node), c) := by
      rw [e.neutral_evaluate.items.focused_eq]
      exact congrArg (fun r => (r.1, c)) he
    rw [Eval.stepFrom_cons e.neutral_evaluate, Eval.bind_of_ok _ hitems, Eval.stepFrom, pure_bind,
      List.append_nil]
    rfl
  have hordered : Eval.ofExcept (Eval.inDocumentOrder (hs.map .node)) f c =
      (.ok ((NodeHandle.sortDistinct hs).map .node), c) := congrArg (·, c) (Eval.inDocumentOrder_nodes hs)
  show (apply (.path .root) ([e].map some)).evaluateAll f c = _
  rw [evaluateAll_path_root, Eval.bind_of_ok _ (h.origin_eq hm false)]
  exact (Eval.bind_of_ok _ hfound).trans (Eval.bind_of_ok _ hordered)

/-- A path from the root within one reads as a path from all nodes. -/
theorem same_text_other_items :
    nestedTexts.Navigational ∧ allTexts.Navigational ∧
      nestedTexts.render false = "//child::text()" ∧ allTexts.render false = "//child::text()" ∧
      Context.inUneven.KnowsReachable Forest.uneven ∧
      nestedTexts.evaluateAll Forest.uneven .inUneven =
        (.ok ((Model.uneven.handles [1, 7]).map .node), .inUneven) ∧
      allTexts.evaluateAll Forest.uneven .inUneven =
        (.ok ((Model.uneven.handles [1, 5, 7]).map .node), .inUneven) ∧
      nestedTexts.evaluateAll Forest.uneven .inUneven ≠ allTexts.evaluateAll Forest.uneven .inUneven := by
  have hm := Model.reachable_uneven.numbered
  have hat := Context.at_inUneven
  have hnested : Model.uneven.walk [(.child, .kind .text)] [0] = [1, 7] := by decide +kernel
  have hall : Model.uneven.walk [(.child, .kind .text)] (Model.uneven.tree.subtree 0) = [1, 5, 7] := by
    decide +kernel
  have hnone : ∀ e ∈ ([] : List Expr), e.Navigational := by simp
  have htest : NodeTest.IsPlain (.kind .text) := trivial
  have hstep : (step .child (.kind .text) []).Navigational := .step .child htest hnone
  have hpath : ∀ start, (path start [step .child (.kind .text) []]).Navigational := fun start =>
    .path start (List.forall_mem_singleton.2 hstep)
  have hbelow : (path .root [step .child (.kind .text) []]).evaluateAll Forest.uneven
      (Context.inUneven.push ⟨.node Model.uneven.document, 1, 1⟩) =
        (.ok ((Model.uneven.handles [1, 7]).map .node),
          Context.inUneven.push ⟨.node Model.uneven.document, 1, 1⟩) := by
    rw [← hnested]
    have hroot := hat.push (j := 0) (by decide) 1 1
    exact evaluateAll_of_nodes (hroot.evaluate_rooted_path hm false [(.child, .kind .text)])
  have hsorted : NodeHandle.sortDistinct (Model.uneven.handles [1, 7]) = Model.uneven.handles [1, 7] := by
    rw [hm.sortDistinct_handles (by decide)]
    decide +kernel
  have hnestedItems : nestedTexts.evaluateAll Forest.uneven .inUneven =
      (.ok ((Model.uneven.handles [1, 7]).map .node), .inUneven) := by
    rw [← hsorted]
    exact evaluateAll_below_root hm hat hbelow
  have hallItems : allTexts.evaluateAll Forest.uneven .inUneven =
      (.ok ((Model.uneven.handles [1, 5, 7]).map .node), .inUneven) := by
    rw [← hall]
    exact evaluateAll_of_nodes (hat.evaluate_rooted_path hm true [(.child, .kind .text)])
  refine ⟨.path .root (List.forall_mem_singleton.2 (hpath .root)), hpath .rootDescendants, rfl, rfl,
    Context.knowsReachable_inUneven, hnestedItems, hallItems, ?_⟩
  rw [hnestedItems, hallItems]
  intro h
  have hlength := congrArg List.length (Except.ok.inj (congrArg Prod.fst h))
  simp [Model.handles] at hlength

end Expr

end Grove
