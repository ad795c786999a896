import Facets.Command.Arguments
import Facets.Proofs.ExceptLemmas

/-!
# A base URL in front of a command line

A base URL may be given at any level of a command line.  If a command line is read without one,
it is read in the same way with one in front, and the base URL is all that is added to its
options (`Request.ofArguments_cons_baseUrl`).

Two readings run side by side: that of the command line, and the same with a base URL at the
outermost level (`Reading.withBaseUrl`).  A step `Carries` the base URL along if it does the same
in both.  This is so as long as the reading is without base URL, and a reading that is without one
at its end was without one all the time.
-/

namespace Facets

namespace Level

/-- Whether no base URL is given at a level, be it settled or `pending`. -/
structure NoBaseUrl (l : Level) : Prop where
  baseUrl : l.baseUrl = none
  pending : l.pending = none

/-- `settle` leaves a level alone that has nothing to settle. -/
private theorem settle_of_pending {l : Level} (h : l.pending = none) : l.settle = .ok l := by
  rw [settle, h]

/-- A level that has no base URL after `settle` had none to be settled. -/
private theorem noBaseUrl_of_settle {l l' : Level} (h : l.settle = .ok l')
    (hl' : l'.baseUrl = none) : l.NoBaseUrl ∧ l' = l := by
  unfold settle at h
  split at h
  · -- A base URL that is settled is there.
    unfold setBaseUrl at h
    split at h
    · cases h
    · cases h
      cases hl'
  · rename_i hpending
    cases h
    exact ⟨⟨hl', hpending⟩, rfl⟩

/-- `addFlag` succeeds just for a flag that is new at the level. -/
private theorem addFlag_eq_ok {l l' : Level} {f : Flag} :
    l.addFlag f = .ok l' ↔ f ∉ l.flags ∧ l' = { l with flags := f :: l.flags } := by
  unfold addFlag
  split
  · rename_i hf
    simp [hf]
  · rename_i hf
    simp [hf, eq_comm]

/-- `close` settles a level, and succeeds unless `--quiet` and `--verbose` meet there. -/
private theorem close_eq_ok {l l' : Level} :
    l.close = .ok l' ↔ l.settle = .ok l' ∧ ¬(Flag.quiet ∈ l'.flags ∧ Flag.verbose ∈ l'.flags) := by
  unfold close
  cases l.settle with
  | error e => simp [bind, Except.bind]
  | ok m =>
    -- The two flags are looked for once the level is settled.
    by_cases hm : Flag.quiet ∈ m.flags ∧ Flag.verbose ∈ m.flags
    · simp only [bind, Except.bind, if_pos hm, throw, throwThe, MonadExceptOf.throw]
      constructor
      · exact nofun
      · rintro ⟨hml, hl⟩
        cases hml
        exact absurd hm hl
    · simp only [bind, Except.bind, if_neg hm, pure, Except.pure, Except.ok.injEq]
      constructor
      · rintro rfl
        exact ⟨rfl, hm⟩
      · exact And.left

/-- Some levels with a base URL in the last one, which is the outermost. -/
def setOutermost (url : Text) : List Level → List Level
  | [] => []
  | l :: ls => (if ls = [] then { l with baseUrl := some url } else l) :: setOutermost url ls

/-- Levels that `close` without a base URL `close` with one in the last level, too, and come out as
    they went in. -/
private theorem mapM_close {ls ls' : List Level} (h : ls.mapM close = .ok ls')
    (hnone : ls'.findSome? (·.baseUrl) = none) :
    ls' = ls ∧ (∀ l ∈ ls, l.NoBaseUrl) ∧
      ∀ url, (setOutermost url ls).mapM close = .ok (setOutermost url ls) := by
  induction ls generalizing ls' with
  | nil =>
    cases h
    exact ⟨rfl, nofun, fun _ => rfl⟩
  | cons l ls ih =>
    rw [List.mapM_cons] at h
    obtain ⟨m, hclose, h⟩ := exists_ok_of_bind_eq_ok h
    obtain ⟨ms, hrest, h⟩ := exists_ok_of_bind_eq_ok h
    cases h
    -- No level has a base URL after closing, neither the first one nor any other.
    obtain ⟨hm, hms⟩ : m.baseUrl = none ∧ ms.findSome? (·.baseUrl) = none := by
      cases hm : m.baseUrl with
      | some url => simp [hm] at hnone
      | none => simpa [hm] using hnone
    obtain ⟨rfl, hall, hsame⟩ := ih hrest hms
    -- Closing has settled the level, so there was nothing to settle.
    obtain ⟨hsettle, hflags⟩ := close_eq_ok.mp hclose
    obtain ⟨hl, rfl⟩ := noBaseUrl_of_settle hsettle hm
    refine ⟨rfl, fun x hx => ?_, fun url => ?_⟩
    · rcases List.mem_cons.mp hx with rfl | hx
      · exact hl
      · exact hall x hx
    · -- The flags and what is to be settled are as before at each level.
      have hfirst : (if ms = [] then { m with baseUrl := some url } else m).close =
          .ok (if ms = [] then { m with baseUrl := some url } else m) := by
        split
        · exact close_eq_ok.mpr ⟨settle_of_pending hl.pending, hflags⟩
        · exact hclose
      rw [setOutermost, List.mapM_cons, hfirst, hsame url]
      rfl

end Level

/-- `ofLevels` takes the base URL of the last level if there is no other one. -/
theorem Options.ofLevels_setOutermost {ls : List Level} (hls : ls ≠ [])
    (h : ∀ l ∈ ls, l.NoBaseUrl) (url : Text) :
    ofLevels (Level.setOutermost url ls) = { ofLevels ls with baseUrl := some url } := by
  have hflag (f : Flag) (ls : List Level) :
      (Level.setOutermost url ls).any (f ∈ ·.flags) = ls.any (f ∈ ·.flags) := by
    induction ls with
    | nil => rfl
    | cons l ls ih =>
      rw [Level.setOutermost, List.any_cons, List.any_cons, ih]
      split <;> rfl
  -- All levels are passed in search of one with a base URL, up to the last.
  have hurl : (Level.setOutermost url ls).findSome? (·.baseUrl) = some url := by
    induction ls with
    | nil => exact absurd rfl hls
    | cons l ls ih =>
      rw [Level.setOutermost]
      split
      · rfl
      · rename_i hne
        rw [List.findSome?_cons, (h l List.mem_cons_self).baseUrl]
        exact ih hne fun x hx => h x (List.mem_cons_of_mem l hx)
  unfold ofLevels
  simp only [hflag, hurl]

namespace Reading

/-- Whether no base URL has been read, nor is one awaited. -/
structure NoBaseUrl (r : Reading) : Prop where
  awaits : r.awaitsBaseUrl = false
  level : r.level.NoBaseUrl
  outer : ∀ l ∈ r.outer, l.NoBaseUrl

/-- A reading with a base URL at its outermost level, as if `--base-url` stood in front. -/
def withBaseUrl (r : Reading) (url : Text) : Reading :=
  { r with
    level := if r.outer = [] then { r.level with baseUrl := some url } else r.level
    outer := Level.setOutermost url r.outer }

/-- `withBaseUrl` keeps the flags of the level that is read. -/
private theorem flags_withBaseUrl (r : Reading) (url : Text) :
    (r.withBaseUrl url).level.flags = r.level.flags := by
  unfold withBaseUrl
  simp only
  split <;> rfl

/-- `withBaseUrl` gives a level nothing to settle. -/
private theorem settle_withBaseUrl {r : Reading} (h : r.level.pending = none) (url : Text) :
    (r.withBaseUrl url).level.settle = .ok (r.withBaseUrl url).level := by
  apply Level.settle_of_pending
  unfold withBaseUrl
  simp only
  split <;> exact h

/-! ## Steps -/

/-- Whether a step carries a base URL along that stands in front: if there is none after it, there
    was none before, and the step does the same on `withBaseUrl`.  If it ends the reading, it is not
    to run a command. -/
structure Carries (f : Reading → Except Stop Reading) : Prop where
  step {r r' : Reading} (h : f r = .ok r') (hr' : r'.NoBaseUrl) :
    r.NoBaseUrl ∧ ∀ url, f (r.withBaseUrl url) = .ok (r'.withBaseUrl url)
  answer {r : Reading} {q : Request} (h : f r = .error (.answer q)) (i : Invocation) : q ≠ .run i

/-- Steps one after the other carry if each of them does. -/
theorem Carries.foldlM {α : Type} {f : Reading → α → Except Stop Reading}
    (h : ∀ x, Carries (f · x)) (xs : List α) : Carries (xs.foldlM f) := by
  -- By induction on the steps, from the end of the reading to its beginning.
  induction xs with
  | nil =>
    refine ⟨fun hok hr' => ?_, nofun⟩
    cases hok
    exact ⟨hr', fun _ => rfl⟩
  | cons x xs ih =>
    constructor
    · intro r r' hok hr'
      rw [List.foldlM_cons] at hok
      obtain ⟨m, hx, hok⟩ := exists_ok_of_bind_eq_ok hok
      -- There is no base URL after the other steps, so there was none after the first one.
      obtain ⟨hm, hrest⟩ := ih.step hok hr'
      obtain ⟨hr, hfirst⟩ := (h x).step hx hm
      refine ⟨hr, fun url => ?_⟩
      rw [List.foldlM_cons, hfirst url]
      exact hrest url
    · intro r q herror
      rw [List.foldlM_cons] at herror
      rcases error_or_exists_ok_of_bind_eq_error herror with hx | ⟨m, -, hrest⟩
      · exact (h x).answer hx
      · exact ih.answer hrest

/-- Misuse ends both readings. -/
private theorem carries_error (e : UsageError) : Carries fun _ => .error (.usage e) :=
    ⟨nofun, nofun⟩

/-- A step that cannot fail carries if it commutes with `withBaseUrl`. -/
private theorem carries_ok {g : Reading → Reading}
    (h : ∀ {r}, (g r).NoBaseUrl →
      r.NoBaseUrl ∧ ∀ url, g (r.withBaseUrl url) = (g r).withBaseUrl url) :
    Carries fun r => .ok (g r) where
  step hok hr' := by
    cases hok
    obtain ⟨hr, hsame⟩ := h hr'
    exact ⟨hr, fun url => by rw [hsame url]⟩
  answer := nofun

/-- A step carries if on each reading, and on that reading `withBaseUrl`, it is one that does. -/
private theorem Carries.of_forall_exists {f : Reading → Except Stop Reading}
    (h : ∀ r, ∃ g, Carries g ∧ f r = g r ∧ ∀ url, f (r.withBaseUrl url) = g (r.withBaseUrl url)) :
    Carries f where
  step {r r'} hok hr' := by
    obtain ⟨g, hg, hfirst, hsecond⟩ := h r
    rw [hfirst] at hok
    obtain ⟨hr, hsame⟩ := hg.step hok hr'
    exact ⟨hr, fun url => by rw [hsecond, hsame]⟩
  answer {r q} herror := by
    obtain ⟨g, hg, hfirst, -⟩ := h r
    rw [hfirst] at herror
    exact hg.answer herror

/-- A step may branch on what `withBaseUrl` does not change. -/
theorem Carries.ite {c : Reading → Prop} [DecidablePred c] {f g : Reading → Except Stop Reading}
    (hc : ∀ r url, c (r.withBaseUrl url) ↔ c r) (hf : Carries f) (hg : Carries g) :
    Carries fun r => if c r then f r else g r := by
  refine .of_forall_exists fun r => ?_
  by_cases h : c r
  · exact ⟨f, hf, if_pos h, fun url => if_pos ((hc r url).mpr h)⟩
  · exact ⟨g, hg, if_neg h, fun url => if_neg (mt (hc r url).mp h)⟩

/-- A step may look up what `withBaseUrl` does not change, such as an option of the place. -/
theorem Carries.option {α : Type} {o : Reading → Option α} {f : α → Reading → Except Stop Reading}
    {g s : Reading → Except Stop Reading} (ho : ∀ r url, o (r.withBaseUrl url) = o r)
    (hsome : ∀ {r a}, o r = some a → s r = f a r) (hnone : ∀ {r}, o r = none → s r = g r)
    (hf : ∀ a, Carries (f a)) (hg : Carries g) : Carries s := by
  refine .of_forall_exists fun r => ?_
  cases h : o r with
  | some a => exact ⟨f a, hf a, hsome h, fun url => hsome (by rw [ho, h])⟩
  | none => exact ⟨g, hg, hnone h, fun url => hnone (by rw [ho, h])⟩

/-- `orUsage` never answers, so an answer that ends two steps is that of the second one. -/
private theorem answer_of_orUsage_bind {α : Type} {x : Except UsageError α}
    {f : α → Except Stop Reading}
    {q : Request} (h : (orUsage x >>= f) = .error (.answer q)) :
    ∃ a, f a = .error (.answer q) := by
  rcases error_or_exists_ok_of_bind_eq_error h with h | ⟨a, -, h⟩
  · cases x <;> cases h
  · exact ⟨a, h⟩

/-- `orUsage` succeeds with what its argument has. -/
private theorem eq_ok_of_orUsage {α : Type} {x : Except UsageError α} {a : α}
    (h : orUsage x = .ok a) : x = .ok a := by
  cases x with
  | error e => cases h
  | ok b =>
    cases h
    rfl

/-- An option that `addOption` takes without leaving a base URL is a flag. -/
private theorem flag_of_addOption {r r' : Reading} {k : OptionKind} {name : Text}
    {value : Option Text} (h : r.addOption k name value = .ok r') (hr' : r'.NoBaseUrl) :
    ∃ f, k = .flag f ∧ value = none ∧ f ∉ r.level.flags ∧ r.NoBaseUrl ∧
      r' = { r with level := { r.level with flags := f :: r.level.flags } } := by
  -- An option that answers ends the reading.
  have hthrow {ε α : Type} {x : Except ε Level} {e : ε} {b : α} :
      (x >>= fun _ => throw e) ≠ .ok b := by
    cases x <;> exact nofun
  cases value with
  | some url =>
    cases k with
    | baseUrl =>
      obtain ⟨l, -, h⟩ := exists_ok_of_bind_eq_ok h
      obtain ⟨m, hm, h⟩ := exists_ok_of_bind_eq_ok h
      cases h
      -- A base URL that is attached is at the level afterwards.
      have hurl := eq_ok_of_orUsage hm
      unfold Level.setBaseUrl at hurl
      split at hurl
      · cases hurl
      · cases hurl
        cases hr'.level.baseUrl
    | _ => cases h
  | none =>
    cases k with
    | flag f =>
      obtain ⟨l, hl, h⟩ := exists_ok_of_bind_eq_ok h
      obtain ⟨m, hm, h⟩ := exists_ok_of_bind_eq_ok h
      cases h
      -- The level was settled first, and had nothing to settle.
      obtain ⟨hf, rfl⟩ := Level.addFlag_eq_ok.mp (eq_ok_of_orUsage hm)
      obtain ⟨hnone, rfl⟩ := Level.noBaseUrl_of_settle (eq_ok_of_orUsage hl) hr'.level.baseUrl
      exact ⟨f, rfl, rfl, hf, ⟨hr'.awaits, hnone, hr'.outer⟩, rfl⟩
    | baseUrl =>
      -- One that is to follow is awaited.
      obtain ⟨l, -, h⟩ := exists_ok_of_bind_eq_ok h
      cases h
      cases hr'.awaits
    | version => exact absurd h hthrow
    | help => exact absurd h hthrow

/-- Adding a flag commutes with `withBaseUrl`. -/
private theorem addFlag_withBaseUrl (r : Reading) (f : Flag) (url : Text) :
    { r.withBaseUrl url with
      level := { (r.withBaseUrl url).level with flags := f :: r.level.flags } } =
    { r with level := { r.level with flags := f :: r.level.flags } }.withBaseUrl url := by
  unfold withBaseUrl
  simp only
  split <;> rfl

/-- `addOption` carries: it either adds a flag or leaves a base URL. -/
theorem carries_addOption (k : OptionKind) (name : Text) (value : Option Text) :
    Carries (·.addOption k name value) where
  step {r r'} h hr' := by
    obtain ⟨f, rfl, rfl, hf, hr, rfl⟩ := flag_of_addOption h hr'
    refine ⟨hr, fun url => ?_⟩
    -- The flags are the same at each level, so it is new there, too.
    have hflag : (r.withBaseUrl url).level.addFlag f =
        .ok { (r.withBaseUrl url).level with flags := f :: r.level.flags } := by
      rw [Level.addFlag_eq_ok, flags_withBaseUrl]
      exact ⟨hf, rfl⟩
    show (do
      let l ← orUsage (r.withBaseUrl url).level.settle
      return { r.withBaseUrl url with level := ← orUsage (l.addFlag f) }) = _
    rw [settle_withBaseUrl hr.level.pending, ← addFlag_withBaseUrl]
    simp only [orUsage, hflag, bind, Except.bind, pure, Except.pure]
  answer {r q} h i := by
    -- Only `--version` and `--help` end the reading with an answer, and they run no command.
    cases value with
    | some url =>
      cases k with
      | baseUrl =>
        obtain ⟨l, h⟩ := answer_of_orUsage_bind h
        obtain ⟨m, h⟩ := answer_of_orUsage_bind h
        cases h
      | _ => cases h
    | none =>
      cases k with
      | flag f =>
        obtain ⟨l, h⟩ := answer_of_orUsage_bind h
        obtain ⟨m, h⟩ := answer_of_orUsage_bind h
        cases h
      | baseUrl =>
        obtain ⟨l, h⟩ := answer_of_orUsage_bind h
        cases h
      | version =>
        obtain ⟨l, h⟩ := answer_of_orUsage_bind h
        cases h
        exact nofun
      | help =>
        obtain ⟨l, h⟩ := answer_of_orUsage_bind h
        cases h
        exact nofun

/-- `addShort` carries, whether or not there is such an option. -/
private theorem carries_addShort (c : Char) : Carries (·.addShort c) := by
  unfold addShort
  cases OptionKind.ofShort? c with
  | none => exact ⟨nofun, nofun⟩
  | some k => exact carries_addOption k _ none

/-- `addLong` carries: which option is meant depends on the place only. -/
private theorem carries_addLong (argument : Text) : Carries (·.addLong argument) := by
  unfold addLong
  dsimp only
  -- What is before the `=` and after it does not depend on the reading.
  generalize (_ : Text × Option Text).1 = name, (_ : Text × Option Text).2 = value
  refine Carries.option (o := fun r => OptionKind.ofLong? r.place name) (fun _ _ => rfl)
    (fun h => by rw [h]) (fun h => by rw [h]) (fun k => ?_) ?_
  · exact carries_addOption k _ value
  · exact carries_error _

/-- `addOperand` carries: whether there is room for an operand depends on those read so far. -/
private theorem carries_addOperand (argument : Text) : Carries (·.addOperand argument) := by
  unfold addOperand
  apply Carries.ite (fun _ _ => Iff.rfl)
  · apply Carries.ite (fun _ _ => Iff.rfl)
    · exact carries_error _
    · exact carries_ok fun h => ⟨⟨h.awaits, h.level, h.outer⟩, fun _ => rfl⟩
  · exact carries_error _

/-- `add` carries a base URL along in each of the ways in which it may take an argument. -/
theorem carries_add (argument : Text) : Carries (·.add argument) := by
  unfold add
  apply Carries.ite (fun _ _ => Iff.rfl)
  · -- After `help`, an argument names a command.
    refine Carries.option (o := fun r => r.place.commands.lookup argument) (fun _ _ => rfl)
      (fun h => by rw [h]) (fun h => by rw [h]) (fun p => ?_) ?_
    · exact carries_ok fun h => ⟨⟨h.awaits, h.level, h.outer⟩, fun _ => rfl⟩
    · exact carries_error _
  apply Carries.ite (fun _ _ => Iff.rfl)
  · exact carries_addOperand argument
  apply Carries.ite (fun _ _ => Iff.rfl)
  · apply Carries.ite (fun _ _ => Iff.rfl)
    · exact carries_error _
    · -- The argument is a base URL.
      exact carries_ok fun h => nomatch h.level.pending
  refine Carries.option (o := fun r => r.place.commands.lookup argument) (fun _ _ => rfl)
    (fun h => by rw [h]) (fun h => by rw [h]) (fun p => ?_) ?_
  · -- A command opens a level of its own, inside of those there are.
    refine carries_ok fun h => ⟨⟨h.awaits, ?_, fun l hl => ?_⟩, fun _ => rfl⟩
    · exact h.outer _ List.mem_cons_self
    · exact h.outer l (List.mem_cons_of_mem _ hl)
  apply Carries.ite (fun _ _ => Iff.rfl)
  · exact carries_ok fun h => ⟨⟨h.awaits, h.level, h.outer⟩, fun _ => rfl⟩
  apply Carries.ite (fun _ _ => Iff.rfl)
  · exact carries_ok fun h => ⟨⟨h.awaits, h.level, h.outer⟩, fun _ => rfl⟩
  apply Carries.ite (fun _ _ => Iff.rfl)
  · exact carries_addLong argument
  apply Carries.ite (fun _ _ => Iff.rfl)
  · -- Short options may stand together behind one `-`.
    exact .foldlM carries_addShort _
  · exact carries_addOperand argument

/-- A reading that `finish`es without a base URL does so in the same way with one in front. -/
theorem finish_withBaseUrl {r : Reading} {o : Options} {c : Command}
    (h : r.finish = .ok (.run ⟨o, c⟩)) (ho : o.baseUrl = none) :
    r.NoBaseUrl ∧
      ∀ url, (r.withBaseUrl url).finish = .ok (.run ⟨{ o with baseUrl := some url }, c⟩) := by
  unfold finish at h
  split at h
  · cases h
  rename_i hhelps
  split at h
  · cases h
  rename_i hawaits
  -- Neither help nor a value is asked for, so all levels are closed and the command is put
  -- together.
  obtain ⟨levels, hlevels, h⟩ := exists_ok_of_bind_eq_ok h
  obtain ⟨command, hcommand, h⟩ := exists_ok_of_bind_eq_ok h
  cases h
  obtain ⟨rfl, hall, hsame⟩ := Level.mapM_close hlevels ho
  refine ⟨⟨by simpa using hawaits, hall _ List.mem_cons_self,
    fun l hl => hall l (List.mem_cons_of_mem _ hl)⟩, fun url => ?_⟩
  have hoptions := Options.ofLevels_setOutermost (List.cons_ne_nil r.level r.outer) hall url
  show (if r.helps then _ else if r.awaitsBaseUrl then _ else do
    let levels ← (Level.setOutermost url (r.level :: r.outer)).mapM Level.close
    let command ← r.place.command (Flag.html ∈ (r.withBaseUrl url).level.flags) r.operands
    return Request.run ⟨Options.ofLevels levels, command⟩) = _
  rw [if_neg hhelps, if_neg hawaits, hsame url, flags_withBaseUrl]
  simp only [hcommand, hoptions, bind, Except.bind, pure, Except.pure]

end Reading

/-- If `ofArguments` runs a command without a base URL, it runs the same one with `--base-url` in
    front, and with the same other options. -/
theorem Request.ofArguments_cons_baseUrl {arguments : List Text} {o : Options} {c : Command}
    (h : ofArguments arguments = .ok (.run ⟨o, c⟩)) (ho : o.baseUrl = none) (url : Text) :
    ofArguments (("--base-url=".toList ++ url) :: arguments) =
      .ok (.run ⟨{ o with baseUrl := some url }, c⟩) := by
  have hcarries := Reading.Carries.foldlM Reading.carries_add arguments
  have hfirst : Reading.add {} ("--base-url=".toList ++ url) = .ok (Reading.withBaseUrl {} url) :=
    rfl
  have hrest : (("--base-url=".toList ++ url) :: arguments).foldlM Reading.add {} =
      arguments.foldlM Reading.add (Reading.withBaseUrl {} url) := by
    rw [List.foldlM_cons, hfirst]
    rfl
  unfold ofArguments at h ⊢
  rw [hrest]
  -- The two command lines are read alike from here on.
  cases hread : arguments.foldlM Reading.add {} with
  | error e =>
    rw [hread] at h
    cases e with
    | usage e => cases h
    | answer q =>
      cases h
      exact absurd rfl (hcarries.answer hread _)
  | ok r =>
    rw [hread] at h
    obtain ⟨hr, hfinish⟩ := Reading.finish_withBaseUrl h ho
    rw [(hcarries.step hread hr).2 url]
    exact hfinish url

end Facets
