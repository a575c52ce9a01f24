/-
Summaries of cursors and values.
-/
import Grove.Text.Summary
import Grove.Value.Cursor

namespace Grove

/-- The mode in a summary. -/
def SequenceMode.label : SequenceMode → String
  | forwardOnly => "ForwardOnly"
  | cached => "Cached"

namespace Cursor

/-- The summary of a cursor over expressions or nodes. -/
def summary? : Cursor → Option String
  | evaluated mode evaluations nested _ => some <| Text.summary "ExprSequence"
      [("exprs", Nat.repr evaluations.toList.length), ("cursor", Nat.repr evaluations.position),
        ("nested", Nat.repr nested.length), ("mode", mode.label)] false
  | nodes walk pending _ => some <| Text.summary "NodeIterator"
      [("root", Text.application "NodeHandle" (Nat.repr walk.root.raw.toNat)),
        ("mask", Text.application "KindMask" (Nat.repr walk.mask.bits.toNat)),
        ("filtered", Text.truth walk.filter.isSome), ("pending", Nat.repr pending.length)] false
  | _ => none

end Cursor

/-- A value in a summary. -/
def Value.summary : Value → String
  | .string s => Text.application "String" (Text.quote s)
  | .number n => Text.application "Number" (Number.summaryLayout.write n)
  | .boolean b => Text.application "Boolean" (Text.truth b)
  | .node h => Text.application "Node" (Text.application "NodeHandle" (Nat.repr h.raw.toNat))
  | .sequence s =>
    let c := Cursor.ofSequence s
    let (low, high) := c.sizeHint
    Text.summary "Sequence"
      [("cached", Text.truth c.isCached),
        ("size_hint", "(" ++ Nat.repr low ++ ", " ++ Text.optional Nat.repr high ++ ")")] true

end Grove
