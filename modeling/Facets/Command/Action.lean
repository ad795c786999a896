import Facets.Command.Error
import Facets.Config.Store

/-!
# Steps of commands

A command is an `Action`: step by step it reads files, checks what it was given, writes files and
prints.  A step may fail, and then the command ends there.  What was printed and written before
stays: an action is taken from what has been done so far, its `Progress`, and gives the progress
that it came to whether it fails or not (`Action.perform`).
-/

namespace Facets

/-- What a command has done so far. -/
structure Progress where
  files : FileTree
  /-- All that has been printed. -/
  stdout : Text

/-- A part of a command, which goes on from some progress and may fail. -/
abbrev Action := ExceptT CommandError (StateM Progress)

namespace Action

variable {α β ε : Type}

/-- What an action gives from some progress, and the progress after it. -/
def perform (a : Action α) (p : Progress) : Except CommandError α × Progress :=
  (ExceptT.run a).run p

/-! ## Single steps -/

/-- Prints a text. -/
def print (t : Text) : Action Unit := modify fun p => { p with stdout := p.stdout ++ t }

/-- Looks something up in the files as they are now. -/
def look (f : FileTree → α) : Action α := do return f (← get).files

/-- Goes on with a result, or fails with an error of some kind. -/
def ofExcept (kind : ε → CommandError) : Except ε α → Action α
  | .ok a => pure a
  | .error e => throw (kind e)

/-- Saves a configuration at a path.  The directories that were made for it stay even if that
    fails. -/
def saveTo (path : Text) (c : Config) : Action Unit := do
  let p ← get
  let (files, error?) := Config.saveTo p.files path c
  set { p with files }
  match error? with
  | some e => throw (.config e)
  | none => return

/-! ## What steps come to -/

@[simp]
theorem perform_pure (a : α) (p : Progress) : perform (pure a) p = (.ok a, p) := rfl

/-- `throw` fails and leaves all as it was, what has been printed included. -/
@[simp]
theorem perform_throw (e : CommandError) (p : Progress) :
    perform (throw e : Action α) p = (.error e, p) := rfl

/-- Of `a >>= f` the second part goes on from where the first one came to, unless that failed. -/
theorem perform_bind (a : Action α) (f : α → Action β) (p : Progress) :
    perform (a >>= f) p =
      match perform a p with
      | (.ok x, p') => perform (f x) p'
      | (.error e, p') => (.error e, p') := by
  show (ExceptT.bind a f).run.run p = _
  simp only [perform, ExceptT.run, ExceptT.bind, ExceptT.mk, StateT.run, bind, StateT.bind]
  rcases (a : StateM Progress (Except CommandError α)) p with ⟨x | x, p'⟩ <;> rfl

@[simp]
theorem perform_get (p : Progress) : perform get p = (.ok p, p) := rfl

@[simp]
theorem perform_set (p q : Progress) : perform (set q) p = (.ok (), q) := rfl

/-- `print` adds to what has been printed. -/
@[simp]
theorem perform_print (t : Text) (p : Progress) :
    perform (print t) p = (.ok (), { p with stdout := p.stdout ++ t }) := rfl

/-- `look` gives what it finds in the files. -/
@[simp]
theorem perform_look (f : FileTree → α) (p : Progress) :
    perform (look f) p = (.ok (f p.files), p) := rfl

@[simp]
theorem ofExcept_ok (kind : ε → CommandError) (a : α) : ofExcept kind (.ok a) = pure a := rfl

@[simp]
theorem ofExcept_error (kind : ε → CommandError) (e : ε) :
    (ofExcept kind (.error e) : Action α) = throw (kind e) := rfl

/-- `saveTo` fails with what `Config.saveTo` fails with, and leaves the files that this leaves. -/
theorem perform_saveTo (path : Text) (c : Config) (p : Progress) :
    perform (saveTo path c) p =
      ((match (Config.saveTo p.files path c).2 with
        | some e => .error (.config e)
        | none => .ok ()), { p with files := (Config.saveTo p.files path c).1 }) := by
  simp only [saveTo, perform_bind, perform_get, perform_set]
  cases (Config.saveTo p.files path c).2 <;> rfl

/-- Two actions of which `perform` is the same from any progress are the same. -/
theorem ext {a b : Action α} (h : ∀ p, perform a p = perform b p) : a = b := funext h

end Action

end Facets
