/-
Computations that evaluate expressions. They read the forest, may change the
focus of their context, and may fail; the context they leave is there also when
they fail.
-/
import Grove.Eval.Convert

namespace Grove

/-- A computation in a context. -/
def Eval (α : Type) : Type := Forest → Context → Except Error α × Context

namespace Eval

/-- Gives a value and leaves everything as it is. -/
def give {α : Type} (a : α) : Eval α := fun _ c => (.ok a, c)

/-- Goes on with the result of a computation. -/
def andThen {α β : Type} (x : Eval α) (k : α → Eval β) : Eval β := fun f c =>
  match x f c with
  | (.ok a, c) => k a f c
  | (.error e, c) => (.error e, c)

instance : Monad Eval where
  pure := give
  bind := andThen

/-- Fails. -/
def fail {α : Type} (e : Error) : Eval α := fun _ c => (.error e, c)

/-- Gives a result that is there already. -/
def ofExcept {α : Type} (r : Except Error α) : Eval α := fun _ c => (r, c)

/-- Asks what conversions and operators read of the context. -/
def ask {α : Type} (question : Caller → Except Error α) : Eval α := fun f c =>
  (question (c.caller f), c)

/-- Calls a function. -/
def apply (run : Function) (args : List Value) : Eval Value := fun f c => (run (c.site f) args, c)

/-- Asks the context. -/
def askContext {α : Type} (question : Context → Except Error α) : Eval α := fun _ c =>
  (question c, c)

/-- Computes with an item in focus, and takes the focus back to its depth
afterwards. -/
def focused {α : Type} (focus : Focus) (x : Eval α) : Eval α := fun f c =>
  c.within focus (x f)

/-- The result of a computation, on a context that nothing else uses. -/
def runIn {α : Type} (x : Eval α) (c : Context) (f : Forest) : Except Error α := (x f c).1

end Eval

end Grove
