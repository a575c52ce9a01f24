import Grove.Text.Blank
import Grove.Text.Quoted
import Grove.Number.Binary
import Grove.Number.Layout
import Grove.Number.Reading
import Grove.Name
import Grove.Error
import Grove.Url.Basic
import Grove.Table
import Grove.Tree.Content
import Grove.Tree.Builder
import Grove.Tree.Walk
import Grove.Tree.Feed
import Grove.Forest.Factory
import Grove.Forest.Recency
import Grove.Forest.Basic
import Grove.Forest.Create
import Grove.Expr.Attach
import Grove.Expr.Render
import Grove.Tree.KindMask
import Grove.Value.Basic
import Grove.Value.Fold
import Grove.Value.Zipper
import Grove.Value.Cursor
import Grove.Eval.Context
import Grove.Value.Drain
import Grove.Value.Summary
import Grove.Eval.Axis
import Grove.Eval.Cast
import Grove.Eval.Evaluate
import Grove.Expr.Edit
import Grove.Unicode.CombiningClass
import Grove.Unicode.Composition
import Grove.Unicode.Direction
import Grove.Unicode.DomainFolding
import Grove.Unicode.Hidden
import Grove.Unicode.Joining
import Grove.Unicode.Mark
import Grove.Url.Domain
import Grove.Proofs.Tree.Spans
import Grove.Proofs.Tree.WellFormed
import Grove.Proofs.Tree.Building
import Grove.Proofs.Tree.Undo
import Grove.Proofs.Tree.Order
import Grove.Proofs.Tree.Reachable
import Grove.Proofs.Number.Count
import Grove.Proofs.Number.Finite
import Grove.Proofs.Value.Outcomes
import Grove.Proofs.Value.First
import Grove.Proofs.Forest.Recency
import Grove.Proofs.Forest.Consistent
import Grove.Proofs.Forest.Ledger
import Grove.Proofs.Forest.Reachable
import Grove.Proofs.Forest.Foreign
import Grove.Proofs.Forest.Sharing
import Grove.Proofs.Forest.Pool
import Grove.Proofs.Forest.Discard
import Grove.Proofs.Forest.Renumber
import Grove.Proofs.Forest.Blind
import Grove.Proofs.Tree.Report
import Grove.Proofs.Tree.Recovery
import Grove.Proofs.Forest.Failure
import Grove.Proofs.Tree.Entities
import Grove.Proofs.Tree.Identifiers
import Grove.Proofs.Value.Pending
import Grove.Proofs.Value.Replay
import Grove.Proofs.Value.Walk
import Grove.Proofs.Value.Hints
import Grove.Proofs.Value.Truth
import Grove.Proofs.Tree.Descent
import Grove.Proofs.Tree.Around
import Grove.Proofs.Tree.Packing
import Grove.Proofs.Tree.Handles
import Grove.Proofs.Tree.Axes
import Grove.Proofs.Tree.Navigation
import Grove.Proofs.Tree.Texts
import Grove.Proofs.Tree.Batches
import Grove.Proofs.Tree.Language
import Grove.Proofs.Eval.Stacks
import Grove.Proofs.Eval.Local
import Grove.Proofs.Value.Caching
import Grove.Proofs.Eval.Comma
import Grove.Proofs.Eval.Step
import Grove.Proofs.Eval.Path
import Grove.Proofs.Eval.Items
import Grove.Proofs.Eval.Alike
import Grove.Proofs.Eval.Predicates
import Grove.Proofs.Eval.Ordered
import Grove.Proofs.Expr.Token
import Grove.Proofs.Expr.Legible
import Grove.Proofs.Expr.Outline
import Grove.Proofs.Expr.Formula
import Grove.Proofs.Expr.Tidy
import Grove.Proofs.Eval.Wrapper
import Grove.Proofs.Eval.Scope
import Grove.Proofs.Eval.Handle
import Grove.Proofs.Eval.Casting
import Grove.Proofs.Number.Grammar
import Grove.Proofs.Number.Written
import Grove.Proofs.Eval.Lexical
import Grove.Proofs.Eval.Treating
import Grove.Proofs.Eval.Identified
import Grove.Proofs.Eval.Resolution
import Grove.Proofs.Eval.Arity
import Grove.Proofs.Eval.Clones
import Grove.Proofs.Value.Range
import Grove.Proofs.Expr.Slots
import Grove.Proofs.Number.Quotient
import Grove.Proofs.Eval.Division
