import Facets.FunctionTable
import Facets.Proofs.KeyedLemmas
import Facets.Proofs.LastElement
import Facets.Proofs.Utf8Order
import Mathlib.Data.Char

/-!
# Tables of functions after any registrations

A table of functions is a plain list of entries.  Whatever is registered in it, one name after the
other, it stays a sorted map: `FunctionTable.Holds` says this of a table and of all the
registrations so far, each further one keeps it (`FunctionTable.Holds.register`), and so does any
run of operations, which are registrations too.

What the table answers follows from the registrations alone (`FunctionTable.Answers`): the name that
is called has the function that was registered under it last.
-/

namespace Facets

/-- What a function gives for some arguments.  Only a function of the first kind can fail. -/
inductive WikiFunction.Gives : WikiFunction → List Param → Except FilterError FunctionOutput → Prop
  | info {run : List Param → Except FilterError Info} {params : List Param} {i : Info}
      (h : run params = .ok i) : Gives (.info run) params (.ok (.info i))
  | error {run : List Param → Except FilterError Info} {params : List Param} {e : FilterError}
      (h : run params = .error e) : Gives (.info run) params (.error e)
  | link (run : List Param → Link) (params : List Param) :
      Gives (.link run) params (.ok (.link (run params)))

/-- `WikiFunction.call` gives what the function `Gives`. -/
private theorem WikiFunction.call_eq_iff {f : WikiFunction} {params : List Param}
    {r : Except FilterError FunctionOutput} : f.call params = r ↔ f.Gives params r := by
  constructor
  · rintro rfl
    cases f with
    | info run =>
      cases h : run params with
      | error e =>
        rw [call, h]
        exact .error h
      | ok i =>
        rw [call, h]
        exact .info h
    | link run => exact .link run params
  · intro h
    cases h with
    | info h =>
      rw [call, h]
      rfl
    | error h =>
      rw [call, h]
      rfl
    | link run => rfl

namespace FunctionTable

/-! ## Operations -/

/-- An operation on a table. -/
inductive Operation where
  | register (name : Text) (f : WikiFunction)
  /-- Register the functions of this library. -/
  | registerStandard

/-- A table after an operation. -/
def Operation.apply (t : FunctionTable) : Operation → FunctionTable
  | .register name f => t.register name f
  | .registerStandard => t.registerStandard

/-- What an operation registers, in order. -/
def Operation.registrations : Operation → List (Text × WikiFunction)
  | .register name f => [(name, f)]
  | .registerStandard => WikiFunction.standard

/-- A table after some operations. -/
def afterOperations (t : FunctionTable) (ops : List Operation) : FunctionTable :=
  ops.foldl Operation.apply t

/-! ## What a table holds -/

/-- Whether a function is the last one that was registered under a name. -/
def LastRegistered (log : List (Text × WikiFunction)) (name : Text) (f : WikiFunction) : Prop :=
  ∃ after, IsLast (fun e => e.1 = name) log (name, f) after

/-- What a table holds once some functions have been registered, in the order of `log`. -/
structure Holds (t : FunctionTable) (log : List (Text × WikiFunction)) : Prop where
  increasing : t.names.Pairwise (· < ·)
  mem_names : ∀ name, name ∈ t.names ↔ name ∈ log.map Prod.fst
  get : ∀ name f, t.get? name = some f ↔ LastRegistered log name f

variable {t : FunctionTable} {log : List (Text × WikiFunction)}

/-- One more function is `LastRegistered` under its name, and changes nothing for other names. -/
private theorem lastRegistered_concat {name n : Text} {f g : WikiFunction} :
    LastRegistered (log ++ [(name, f)]) n g ↔
      if name = n then f = g else LastRegistered log n g := by
  simp only [LastRegistered, isLast_concat, Prod.mk.injEq]
  split
  · rename_i heq
    subst heq
    simp [eq_comm]
  · rename_i hne
    simp [hne]

/-- A name has a `LastRegistered` function just if one has been registered under it. -/
private theorem exists_lastRegistered_iff {name : Text} :
    (∃ f, LastRegistered log name f) ↔ name ∈ log.map Prod.fst := by
  constructor
  · rintro ⟨f, after, hlast⟩
    exact List.mem_map.mpr ⟨(name, f), hlast.mem, rfl⟩
  · intro h
    obtain ⟨e, he, hname⟩ := List.mem_map.mp h
    obtain ⟨⟨n, f⟩, after, hlast⟩ := exists_isLast (p := fun e => e.1 = name) ⟨e, he, hname⟩
    obtain rfl : n = name := hlast.holds
    exact ⟨f, after, hlast⟩

private theorem holds_empty : empty.Holds [] where
  increasing := List.Pairwise.nil
  mem_names _ := Iff.rfl
  get name f := by
    constructor
    · intro h
      exact nomatch h
    · rintro ⟨after, hlast⟩
      exact nomatch hlast.mem

/-- `Holds` is kept by one more registration. -/
theorem Holds.register (h : t.Holds log) (name : Text) (f : WikiFunction) :
    (t.register name f).Holds (log ++ [(name, f)]) where
  increasing := Keyed.pairwise_map_putSorted h.increasing (name, f)
  mem_names n := by
    have hnames : n ∈ (t.register name f).names ↔ n = name ∨ n ∈ t.names :=
      Keyed.mem_map_putSorted
    rw [hnames, h.mem_names, List.map_append, List.mem_append, List.map_singleton,
      List.mem_singleton]
    exact or_comm
  get n g := by
    -- Both sides change under the new name only.
    rw [get?_register, lastRegistered_concat]
    split
    · exact Option.some_inj
    · exact h.get n g

/-- `Holds` is kept by some registrations, one after the other. -/
private theorem Holds.registerAll (h : t.Holds log) (entries : List (Text × WikiFunction)) :
    (entries.foldl (fun t e => t.register e.1 e.2) t).Holds (log ++ entries) := by
  -- Each registration lengthens `log` by one, so the table and `log` change together.
  induction entries generalizing t log with
  | nil => simpa using h
  | cons e entries ih =>
    rw [List.foldl_cons, List.append_cons]
    exact ih (h.register e.1 e.2)

/-- `Holds` is kept by one more operation. -/
theorem Holds.apply (h : t.Holds log) (op : Operation) :
    (op.apply t).Holds (log ++ op.registrations) := by
  cases op with
  | register name f => exact h.register name f
  | registerStandard => exact h.registerAll WikiFunction.standard

/-- `Holds` is kept by a run of operations. -/
theorem Holds.afterOperations (h : t.Holds log) (ops : List Operation) :
    (t.afterOperations ops).Holds (log ++ ops.flatMap Operation.registrations) := by
  induction ops generalizing t log with
  | nil => simpa [FunctionTable.afterOperations] using h
  | cons op ops ih =>
    rw [List.flatMap_cons, ← List.append_assoc]
    exact ih (h.apply op)

private theorem holds_standard : standard.Holds WikiFunction.standard :=
  holds_empty.registerAll WikiFunction.standard

/-! ## What a table answers -/

/-- What a table answers once some functions have been registered, in the order of `log`. -/
structure Answers (t : FunctionTable) (log : List (Text × WikiFunction)) : Prop where
  /-- The names increase, by their characters and by the bytes of these. -/
  increasing : t.names.Pairwise fun a b => a < b ∧ Utf8.encode a < Utf8.encode b
  /-- They are the names that have been registered, and no others. -/
  mem_names : ∀ name, name ∈ t.names ↔ name ∈ log.map Prod.fst
  /-- A name has the function that was registered under it last. -/
  get : ∀ name f, t.get? name = some f ↔ LastRegistered log name f
  get_none : ∀ name, t.get? name = none ↔ name ∉ log.map Prod.fst
  /-- A call gives what that function gives for the arguments. -/
  call : ∀ name arguments r, t.call name arguments = some r ↔
    ∃ f, LastRegistered log name f ∧ f.Gives (arguments.map Param.parse) r
  call_none : ∀ name arguments, t.call name arguments = none ↔ name ∉ log.map Prod.fst
  /-- Only a function that gives browse settings can fail. -/
  call_error : ∀ name arguments e, t.call name arguments = some (.error e) ↔
    ∃ run, LastRegistered log name (.info run) ∧ run (arguments.map Param.parse) = .error e

/-- `get?` finds nothing under a name just if it has not been registered. -/
theorem Holds.get?_eq_none_iff (h : t.Holds log) {name : Text} :
    t.get? name = none ↔ name ∉ log.map Prod.fst := by
  rw [← exists_lastRegistered_iff, Option.eq_none_iff_forall_ne_some, not_exists]
  simp only [ne_eq, h.get]

/-- `FunctionTable.call` gives what the last function of the name gives. -/
private theorem Holds.call_eq_some_iff (h : t.Holds log) {name : Text} {arguments : List Text}
    {r : Except FilterError FunctionOutput} :
    t.call name arguments = some r ↔
      ∃ f, LastRegistered log name f ∧ f.Gives (arguments.map Param.parse) r := by
  simp only [FunctionTable.call, Option.map_eq_some_iff, h.get, WikiFunction.call_eq_iff]

/-- What a table `Answers` follows from what it `Holds`. -/
private theorem Holds.answers (h : t.Holds log) : t.Answers log where
  increasing := h.increasing.imp fun hlt => ⟨hlt, Utf8.encode_lt_encode_iff.mpr hlt⟩
  mem_names := h.mem_names
  get := h.get
  get_none _ := h.get?_eq_none_iff
  call _ _ _ := h.call_eq_some_iff
  call_none name arguments := by
    rw [FunctionTable.call, Option.map_eq_none_iff, h.get?_eq_none_iff]
  call_error name arguments e := by
    rw [h.call_eq_some_iff]
    constructor
    · rintro ⟨f, hlast, hgives⟩
      -- The other ways of giving something give no error.
      cases hgives with
      | @error run _ _ hrun => exact ⟨run, hlast, hrun⟩
    · rintro ⟨run, hlast, hrun⟩
      exact ⟨.info run, hlast, .error hrun⟩

/-- After any operations on the `empty` table, or on the `standard` one with the functions of this
    library, the names are all that have been registered, in increasing order, and each of them has
    and calls the function that was registered under it last.  The order of texts is that of their
    bytes. -/
theorem operations_answer_registered (ops : List Operation) :
    (empty.afterOperations ops).Answers (ops.flatMap Operation.registrations) ∧
      (standard.afterOperations ops).Answers
        (WikiFunction.standard ++ ops.flatMap Operation.registrations) ∧
      ∀ a b : Text, Utf8.encode a < Utf8.encode b ↔ a < b :=
  ⟨(holds_empty.afterOperations ops).answers, (holds_standard.afterOperations ops).answers,
    fun _ _ => Utf8.encode_lt_encode_iff⟩

/-- Replacing a function leaves its name in its place.  Names are in the order of their code points,
    so the last code point of 16 bits comes before one beyond these. -/
example :
    let f := WikiFunction.link Link.build
    let t := ((standard.register [.ofNat 0x1f600] f).register [.ofNat 0xffff] f).register
      "drilldowninfo".toList f
    t.names =
      ["drilldowninfo".toList, "drilldownlink".toList, [.ofNat 0xffff], [.ofNat 0x1f600]] := by
  decide

end FunctionTable

end Facets
