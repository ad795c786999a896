import Facets.Command.Run
import Facets.Proofs.FileTreeLemmas

/-!
# The order of steps

A command that fails must not have printed or written anything.  That depends on the order of its
steps: first those that only check (`Action.OnlyChecks`), then one that may fail but then leaves
no trace, and at last those that cannot fail (`Action.NeverFails`).

`Action.FailsWithoutTrace` is what comes of this order.  Its rules follow how a command is put
together: a check may stand in front (`Action.OnlyChecks.bind_failsWithoutTrace`), and what cannot
fail may stand behind (`Action.FailsWithoutTrace.bind`).  There is no rule for a step that may fail
behind one that prints, nor could there be (`Action.not_failsWithoutTrace_print_throw`).
-/

namespace Facets.Action

open FileTree

variable {α β ε : Type} {a : Action α} {f : α → Action β} {p p' : Progress}

/-! ## Two parts, one after the other -/

/-- `perform_bind` where the first part succeeds. -/
theorem perform_bind_of_ok {x : α} (h : perform a p = (.ok x, p')) :
    perform (a >>= f) p = perform (f x) p' := by
  rw [perform_bind, h]

/-! ## Kinds of steps -/

/-- Whether an action only checks: it may fail, but it neither prints nor writes. -/
def OnlyChecks (a : Action α) : Prop := ∀ p, (perform a p).2 = p

/-- Whether an action succeeds from any progress. -/
def NeverFails (a : Action α) : Prop := ∀ p, ∃ x p', perform a p = (.ok x, p')

/-- Whether an action leaves the files alone. -/
def KeepsFiles (a : Action α) : Prop := ∀ p, (perform a p).2.files = p.files

/-- Whether an action that fails in a directory has printed nothing and left all files as they
    were. -/
def FailsWithoutTrace (a : Action α) : Prop :=
  ∀ (es : List (Text × FileTree)) (stdout : Text) (e : CommandError) (p' : Progress),
    perform a ⟨directory es, stdout⟩ = (.error e, p') →
      p'.stdout = stdout ∧ p'.files.fileAt? = (directory es).fileAt?

/-! ## Checks -/

theorem onlyChecks_pure (x : α) : OnlyChecks (pure x) := fun _ => rfl

/-- `look` reads what is there. -/
theorem onlyChecks_look (g : FileTree → α) : OnlyChecks (look g) := fun _ => rfl

/-- `ofExcept` fails or goes on, and does no more. -/
theorem onlyChecks_ofExcept (kind : ε → CommandError) (r : Except ε α) :
    OnlyChecks (ofExcept kind r) := by
  cases r with
  | error e => exact fun _ => rfl
  | ok x => exact fun _ => rfl

/-- Actions of which each `OnlyChecks` are a check, one after the other. -/
theorem OnlyChecks.bind (ha : OnlyChecks a) (hf : ∀ x, OnlyChecks (f x)) :
    OnlyChecks (a >>= f) := by
  intro p
  have hp := ha p
  rw [perform_bind]
  -- Where the first part fails, the second one is not taken.
  rcases h : perform a p with ⟨e | x, p'⟩
  · rw [h] at hp
    exact hp
  · rw [h] at hp
    exact (hf x p').trans hp

/-- `loadConfig` reads the configuration, which may be broken. -/
theorem onlyChecks_loadConfig (env : Environment) : OnlyChecks (loadConfig env) :=
  (onlyChecks_look _).bind fun _ => onlyChecks_ofExcept _ _

/-! ## Steps that cannot fail -/

theorem neverFails_pure (x : α) : NeverFails (pure x) := fun p => ⟨x, p, rfl⟩

/-- `print` always succeeds. -/
theorem neverFails_print (t : Text) : NeverFails (print t) := fun _ => ⟨(), _, rfl⟩

/-- `NeverFails` is kept where one action follows another. -/
theorem NeverFails.bind (ha : NeverFails a) (hf : ∀ x, NeverFails (f x)) :
    NeverFails (a >>= f) := by
  intro p
  obtain ⟨x, p', hx⟩ := ha p
  rw [perform_bind_of_ok hx]
  exact hf x p'

/-! ## Actions that fail without a trace -/

/-- An action that `OnlyChecks` leaves no trace at all. -/
theorem OnlyChecks.failsWithoutTrace (ha : OnlyChecks a) : FailsWithoutTrace a := by
  intro es stdout e p' h
  have hp := ha ⟨directory es, stdout⟩
  rw [h] at hp
  cases hp
  exact ⟨rfl, rfl⟩

/-- An action that `NeverFails` need not be asked what it leaves. -/
theorem NeverFails.failsWithoutTrace (ha : NeverFails a) : FailsWithoutTrace a := by
  intro es stdout e p' h
  obtain ⟨x, p'', hx⟩ := ha ⟨directory es, stdout⟩
  rw [hx] at h
  cases h

/-- An action that `OnlyChecks` may stand in front of one that fails without a trace. -/
theorem OnlyChecks.bind_failsWithoutTrace (ha : OnlyChecks a) (hf : ∀ x, FailsWithoutTrace (f x)) :
    FailsWithoutTrace (a >>= f) := by
  intro es stdout e p' h
  have hp := ha ⟨directory es, stdout⟩
  rw [perform_bind] at h
  rcases hx : perform a ⟨directory es, stdout⟩ with ⟨e' | x, p''⟩
  · rw [hx] at h hp
    cases h
    -- The check has succeeded where it was, so the second part starts in the same directory.
    cases hp
    exact ⟨rfl, rfl⟩
  · rw [hx] at h hp
    cases hp
    exact hf x es stdout e p' h

/-- What `NeverFails` may stand behind it: then it was the first part that failed. -/
theorem FailsWithoutTrace.bind (ha : FailsWithoutTrace a) (hf : ∀ x, NeverFails (f x)) :
    FailsWithoutTrace (a >>= f) := by
  intro es stdout e p' h
  rw [perform_bind] at h
  rcases hx : perform a ⟨directory es, stdout⟩ with ⟨e' | x, p''⟩
  · rw [hx] at h
    cases h
    exact ha es stdout e p' hx
  · -- The first part has succeeded, and the second one cannot fail.
    obtain ⟨y, q, hy⟩ := hf x p''
    simp only [hx, hy] at h
    cases h

/-- The other way round `FailsWithoutTrace` is lost: a step that fails behind one that prints leaves
    what that has printed. -/
theorem not_failsWithoutTrace_print_throw {t : Text} (ht : t ≠ []) (e : CommandError) :
    ¬FailsWithoutTrace (print t >>= fun _ => (throw e : Action α)) := by
  intro h
  -- Where nothing was printed before, what is left is the text itself.
  have hperform : perform (print t >>= fun _ => (throw e : Action α)) ⟨.empty, []⟩ =
      (.error e, ⟨.empty, t⟩) := perform_bind_of_ok (perform_print t ⟨.empty, []⟩)
  exact ht (h [] [] e ⟨.empty, t⟩ hperform).1

/-! ## Actions that leave the files alone -/

/-- An action that `OnlyChecks` leaves the files alone. -/
theorem OnlyChecks.keepsFiles (ha : OnlyChecks a) : KeepsFiles a := fun p => by rw [ha p]

theorem keepsFiles_print (t : Text) : KeepsFiles (print t) := fun _ => rfl

/-- `KeepsFiles` is kept where one action follows another. -/
theorem KeepsFiles.bind (ha : KeepsFiles a) (hf : ∀ x, KeepsFiles (f x)) :
    KeepsFiles (a >>= f) := by
  intro p
  have hp := ha p
  rw [perform_bind]
  rcases h : perform a p with ⟨e | x, p'⟩
  · rw [h] at hp
    exact hp
  · rw [h] at hp
    exact (hf x p').trans hp

/-! ## Printing -/

/-- To `print` nothing is to do nothing. -/
theorem print_nil : print [] = pure () := by
  apply ext
  intro p
  rw [perform_print, List.append_nil]
  rfl

/-- Texts that `print` prints one after the other are printed together. -/
theorem print_append (s t : Text) : print (s ++ t) = print s >>= fun _ => print t := by
  apply ext
  intro p
  rw [perform_bind_of_ok (perform_print s p), perform_print, perform_print, List.append_assoc]

/-- So are the texts of the elements of a list. -/
theorem forM_print (g : α → Text) (l : List α) :
    (l.forM fun x => print (g x)) = print (l.flatMap g) := by
  induction l with
  | nil => exact print_nil.symm
  | cons x l ih =>
    rw [List.flatMap_cons, print_append, ← ih]
    rfl

end Facets.Action
