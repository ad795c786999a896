import Facets.Proofs.CommandReports
import Facets.Proofs.FiltersArgument
import Facets.Proofs.InfoArguments

/-!
# Specifications given as arguments

A specification can be given by itself, or as the argument `filters` of a category.  As an argument
it is cut off at the first `=` and trimmed, but no more is lost than padding around it, and that
makes no difference to what it writes (`Catalog.parse_trimBlank`).

So both ways come to one catalog or to one error, in what is read (`Info.build_filters_argument`)
and in what a command line does with it (`execute_filters`, `execute_info`).
-/

namespace Facets

/-! ## Reading -/

/-- `Catalog.parse` makes no difference of blanks around a specification, whatever it is like
    inside. -/
theorem Catalog.parse_trimBlank (t : Text) : parse (Text.trimBlank t) = parse t := by
  have hpadded : Text.Padded Text.isNamePadding (Text.trimBlank t) t := by
    obtain ⟨l, r, hl, hr, heq⟩ := Text.padded_trim Text.isBlank t
    exact ⟨l, r, fun c hc => Text.isNamePadding_of_isBlank (hl c hc),
      fun c hc => Text.isNamePadding_of_isBlank (hr c hc), heq⟩
  rw [← addSpecification_empty, ← addSpecification_empty, empty.addSpecification_padded hpadded]

/-- The settings of a page for which nothing but filters is given. -/
def Info.ofFilters (c : Catalog) : Info where
  filters := c

/-- `Info.build` makes of an argument `filters` the catalog that its text writes, or the same error.
    -/
theorem Info.build_filters_argument (t : Text) :
    build [.parse ("filters=".toList ++ t)] = ofFilters <$> Catalog.parse t := by
  have hdraft : [(⟨some "filters".toList, Text.trimBlank t⟩ : Param)].foldl Draft.add {} =
      { specification := Text.trimBlank t } := rfl
  rw [Link.parse_filters, build, hdraft, Draft.info, Catalog.parse_trimBlank, map_eq_pure_bind]
  rfl

/-! ## Command lines -/

namespace Action

/-- Reads what a command works with that is given a specification: the configuration, which is
    loaded first, and the catalog. -/
def readFilters (env : Environment) (t : Text) : Action (Config × Catalog) := do
  let c ← loadConfig env
  let catalog ← ofExcept .filter (Catalog.parse t)
  return (c, catalog)

/-- Neither the configuration nor the specification makes `readFilters` print or write. -/
theorem onlyChecks_readFilters (env : Environment) (t : Text) : OnlyChecks (readFilters env t) := by
  refine (onlyChecks_loadConfig env).bind fun c => ?_
  exact (onlyChecks_ofExcept _ _).bind fun catalog => onlyChecks_pure _

end Action

open Facets.Action

section Commands

variable (env : Environment) (files : FileTree) (o : Options) (t : Text)

/-- `execute` reports a specification by itself as a catalog. -/
theorem execute_filters :
    execute env ⟨o, .filters t⟩ =
      readFilters env t >>= fun p => print (Report.catalog o (usesColors o env p.1) p.2) := by
  simp only [execute, readFilters, showCatalog_eq, bind_assoc, pure_bind]

/-- `execute` reports a specification as an argument as the settings of a page. -/
theorem execute_info :
    execute env ⟨o, .info ["filters=".toList ++ t]⟩ =
      readFilters env t >>= fun p =>
        print (Report.info o (usesColors o env p.1) (.ofFilters p.2)) := by
  have hbuild : ofExcept .filter (Info.build [.parse ("filters=".toList ++ t)]) =
      Info.ofFilters <$> ofExcept .filter (Catalog.parse t) := by
    rw [Info.build_filters_argument]
    -- The error is that of the specification, with the same kind.
    cases Catalog.parse t with
    | error e => rfl
    | ok c => rfl
  simp only [execute, List.map_cons, List.map_nil, hbuild, readFilters, showInfo_eq, bind_assoc,
    pure_bind, bind_map_left]

/-- In `runInvocation`, commands that differ only in what they print at last fail alike. -/
private theorem runInvocation_congr {i j : Invocation} {α : Type} {report report' : α → Text}
    {a : Action α} (ho : i.options = j.options)
    (hi : execute env i = a >>= fun x => print (report x))
    (hj : execute env j = a >>= fun x => print (report' x)) :
    (runInvocation env files i).1.exit = (runInvocation env files j).1.exit ∧
      (runInvocation env files i).1.stderr = (runInvocation env files j).1.stderr ∧
      (runInvocation env files i).2 = (runInvocation env files j).2 := by
  unfold runInvocation
  rw [hi, hj, ho, perform_bind, perform_bind]
  -- Either the common part fails, or printing ends both without an error.
  rcases perform a ⟨files, []⟩ with ⟨e | x, p⟩
  · exact ⟨rfl, rfl, rfl⟩
  · exact ⟨rfl, rfl, rfl⟩

end Commands

/-- Both ways of giving a specification agree.  As the argument `filters` of `Info.build` it fails
    just if it does by itself, and with its error; else its catalog is all that is set.  The two
    commands take the same steps to one configuration and one catalog, `readFilters`, which neither
    print nor write, and then print what they report; so a command line ends with the same exit code
    and the same error either way, whatever the specification begins with. -/
theorem specification_ways_agree :
    (∀ t : Text,
      (∀ e, Info.build [.parse ("filters=".toList ++ t)] = .error e ↔ Catalog.parse t = .error e) ∧
      ∀ i, Info.build [.parse ("filters=".toList ++ t)] = .ok i ↔
        Catalog.parse t = .ok i.filters ∧ i.title = none ∧ i.displayParameters = none ∧
          i.printouts = none ∧ i.exportFormat = none) ∧
    (∀ (env : Environment) (o : Options) (t : Text),
      OnlyChecks (readFilters env t) ∧
        execute env ⟨o, .filters t⟩ = (do
          let (c, catalog) ← readFilters env t
          print (Report.catalog o (usesColors o env c) catalog)) ∧
        execute env ⟨o, .info ["filters=".toList ++ t]⟩ = (do
          let (c, catalog) ← readFilters env t
          print (Report.info o (usesColors o env c) { filters := catalog }))) ∧
    ∀ (env : Environment) (files : FileTree) (t : Text),
      let direct := run env files ["filters".toList, "--".toList, t]
      let argument := run env files ["info".toList, "--".toList, "filters=".toList ++ t]
      direct.1.exit = argument.1.exit ∧ direct.1.stderr = argument.1.stderr ∧
        direct.2 = argument.2 := by
  refine ⟨fun t => ?_, fun env o t => ?_, fun env files t => ?_⟩
  · rw [Info.build_filters_argument]
    refine ⟨fun e => map_eq_error_iff, fun i => map_eq_ok_iff.trans ⟨?_, ?_⟩⟩
    · rintro ⟨c, hparse, rfl⟩
      exact ⟨hparse, rfl, rfl, rfl, rfl⟩
    · -- Settings with nothing but filters are known from these.
      intro h
      obtain ⟨filters, title, displayParameters, printouts, exportFormat⟩ := i
      obtain ⟨hparse, rfl, rfl, rfl, rfl⟩ := h
      exact ⟨filters, hparse, rfl⟩
  · exact ⟨onlyChecks_readFilters env t, execute_filters env o t, execute_info env o t⟩
  · exact runInvocation_congr env files rfl (execute_filters env {} t) (execute_info env {} t)

end Facets
