import Escalation.Proofs.Condition.Validity
import Escalation.Proofs.Engine.Changes
import Escalation.Proofs.Router.Expiry

/-!
# Reloading is building anew

A reload gathers rules from the sources that the router was built with, and the host's own, as a
build from the same plan does at that moment. So it fails where the build fails, with the same
fault, and then changes nothing; and where both succeed, the reloaded router and the one that is
built anew register the same rules (`reload_rebuilds`). Nothing that was added, changed or taken out
in the meantime is left.

The two routers have different versions, number their rules differently, and keep other outcomes.
None of it shows in a later answer but the version. The engines are `Engine.Alike`, and stay so under
all that both are asked; and each answers with the walk over its present rules, since an outcome of
the past is kept under another version (`Reliable.answers`).

One thing does show. A reload does not change the settings of the cache, so the reloaded router keeps
outcomes for the time that its first book asked for, and the other one for the time that the present
first book asks for. Where both times end before the clock, both answer, and with one outcome; where
one does not, that router has no answer to what it does not keep (`AnswersBeside`,
`endlessFeed_differs`).
-/

namespace Escalation

open Registry (Change)

/-- The plan with another time of the clock. -/
def Plan.withClock (plan : Plan) (clock : Time.Timestamp) : Plan :=
  { plan with clock }

namespace Router

variable {earlier supply : Supply} {plan : Plan} {r s t fresh : Router} {cause : RouterFault}

/-! ## Failures -/

theorem reload_eq_error :
    (s.reload supply).1 = .error cause ↔ s.gathered supply = .error cause := by
  rw [reload_eq]
  cases s.gathered supply with
  | ok rules => exact ⟨nofun, nofun⟩
  | error other => simp only [Except.error.injEq]

/-- A reload that fails changes nothing. -/
theorem reload_of_error (failed : (s.reload supply).1 = .error cause) :
    (s.reload supply).2 = s := by
  rw [reload_eq, reload_eq_error.mp failed]

theorem build_eq_error :
    build supply plan = .error cause ↔ plan.gathered supply = .error cause := by
  rw [build_eq, map_eq_error]

/-- **A router gathers what its plan does**, at any point of a run. -/
theorem Built.run_gathered (built : Built earlier plan r) (sourced : plan.allSources ≠ [])
    (steps : List Step) (supply : Supply) :
    (r.run steps).gathered supply = plan.gathered supply := by
  have some : r.sources.isEmpty = false := by
    rw [built.sources]
    exact List.isEmpty_eq_false_iff.mpr sourced
  rw [run_eq, gathered, some, built.sources, built.ownRules]
  rfl

/-! ## Later answers -/

/-- Two routers answer an event with one outcome, but for the version and for the mark that it was
kept. -/
def AnswersAs (s t : Router) (now : Nat) (event : Event) : Prop :=
  ∃ (o : Outcome) (left right : Bool),
    (s.evaluate now event).1 = .ok { o with version := s.version, cacheHit := left } ∧
      (t.evaluate now event).1 = .ok { o with version := t.version, cacheHit := right }

/-- **How two routers with caches of different settings answer an event.** -/
structure AnswersBeside (s t : Router) (left right : Option CacheSettings) (now : Nat)
    (event : Event) : Prop where
  /-- Where each can store an outcome or keeps one, both answer, and with one outcome. -/
  alike : Fits left now ∨ ¬ s.engine.Misses now event →
    Fits right now ∨ ¬ t.engine.Misses now event → s.AnswersAs t now event
  /-- Whether there is an answer is decided by the settings of each. -/
  left : (∃ o, (s.evaluate now event).1 = .ok o) ↔ Fits left now ∨ ¬ s.engine.Misses now event
  right : (∃ o, (t.evaluate now event).1 = .ok o) ↔ Fits right now ∨ ¬ t.engine.Misses now event

theorem walk_eq_withVersion (r : Router) (event : Event) :
    r.engine.walk event = { r.engine.walk event with version := r.version } := by
  have version : (r.engine.walk event).version = r.version :=
    RuleSet.walkRules_version .fast _ _
  rw [← version]

/-- Along a run, what has an answer is decided by the plan and by what is kept. -/
theorem Built.run_answered_iff (built : Built supply plan r) (steps : List Step) (now : Nat)
    (event : Event) : (∃ o, ((r.run steps).evaluate now event).1 = .ok o) ↔
      Fits (plan.cache? supply) now ∨ ¬ (r.run steps).engine.Misses now event := by
  change (∃ o, ((r.run steps).engine.evaluate now event).1 = .ok o) ↔ _
  rw [answered_iff, ne_eq, Engine.evaluate_fails_iff, built.run_stores_iff, not_and_or, not_not,
    or_comm]

/-- An answer is the walk, if there is one. -/
theorem eq_walk_of_answers {now : Nat} {event : Event}
    (answers : r.engine.Answers now event (r.engine.walk event))
    (answered : ∃ o, (r.evaluate now event).1 = .ok o) :
    ∃ hit, (r.evaluate now event).1 = .ok { r.engine.walk event with cacheHit := hit } := by
  rcases answers with answer | ⟨-, -, failed⟩
  · exact answer
  · obtain ⟨o, answer⟩ := answered
    cases failed.symm.trans answer

/-- Routers with the same rules answer with one outcome, if each answers with the walk over them. -/
theorem answersAs_of_alike {now : Nat} {event : Event} (alike : s.engine.Alike t.engine)
    {left right : Bool}
    (leftWalk : (s.evaluate now event).1 = .ok { s.engine.walk event with cacheHit := left })
    (rightWalk : (t.evaluate now event).1 = .ok { t.engine.walk event with cacheHit := right }) :
    s.AnswersAs t now event := by
  rw [alike.walk event] at leftWalk
  rw [walk_eq_withVersion] at rightWalk
  exact ⟨t.engine.walk event, left, right, leftWalk, rightWalk⟩

/-- Routers with the same sources and the same rules of the host ask their engines the same. -/
theorem asked_congr (sources : s.sources = t.sources) (own : s.ownRules = t.ownRules)
    (steps : List Step) : s.asked steps = t.asked steps := by
  have asks : s.asks = t.asks := by
    funext step
    -- Only a reload reads more of a router than its engine.
    cases step with
    | reload supply => simp only [Router.asks, gathered, sources, own]
    | change c | setClock clock | clearCache | route now fresh request | evaluate now event => rfl
  rw [asked, asked, asks]

/-! ## Reload and build -/

/-- **A reload renews a router** as if it were built anew. -/
structure Renews (s : Router) (supply : Supply) (fresh : Router) : Prop where
  /-- The reload succeeds, and the version grows by one. -/
  answer : (s.reload supply).1 = .ok (s.version + 1)
  version : (s.reload supply).2.version = s.version + 1
  /-- The rules are the same in the same order. -/
  rules : (s.reload supply).2.rules = fresh.rules
  /-- They are those of the books in the order of the sources, then the host's own, sorted. -/
  sorted : ∃ books, Source.loadAll supply s.sources = .ok books ∧
    StablySorted (gather books s.ownRules) fresh.rules

/-- What a reload and a build make of the same rules. -/
theorem Built.renews (built : Built earlier plan r) (sourced : plan.allSources ≠ [])
    (steps : List Step)
    (anew : build supply (plan.withClock (r.run steps).engine.clock) = .ok fresh) :
    (r.run steps).Renews supply fresh ∧
      ((r.run steps).reload supply).2.engine.Alike fresh.engine := by
  have spec := build_spec anew
  obtain ⟨rules, gathers, registry⟩ := spec.registry
  -- What the build has gathered, the reload gathers again.
  have again : (r.run steps).gathered supply = .ok rules :=
    (built.run_gathered sourced steps supply).trans gathers
  obtain ⟨books, loaded, rfl, -⟩ := collect_eq_ok (collect_of_gathered again)
  have reloaded := reload_eq (r.run steps) supply
  rw [again] at reloaded
  have offset : (r.run steps).engine.offset = fresh.engine.offset := by
    rw [run_engine, (Engine.run_digest _ _).2, built.offset, spec.offset]
    rfl
  have alike : ((r.run steps).reload supply).2.engine.Alike fresh.engine := by
    rw [reloaded]
    refine ⟨⟨_, Registry.registers_replaceAll _ _, ?_⟩, spec.clock.symm, offset⟩
    rw [registry]
    exact Registry.registers_replaceAll _ _
  refine ⟨⟨?_, ?_, alike.rules, books, loaded, ?_⟩, alike⟩
  · rw [reloaded]
  · rw [reloaded]
    rfl
  · have registers := Registry.registers_replaceAll .empty (gather books (r.run steps).ownRules)
    rw [← registry] at registers
    rw [Router.rules, registers.order]
    exact stablySorted_mergeSort _

/-- Whatever the two are asked from then on, they answer beside each other, each as its own cache
lets it. -/
theorem Built.reload_answersBeside (built : Built earlier plan r) (sourced : plan.allSources ≠ [])
    (steps later : List Step) {now : Nat} {event : Event}
    (anew : build supply (plan.withClock (r.run steps).engine.clock) = .ok fresh)
    (reliable : r.Reliable (steps ++ .reload supply :: later) now event)
    (reliable' : fresh.Reliable later now event) :
    (((r.run steps).reload supply).2.run later).AnswersBeside (fresh.run later)
      (plan.cache? earlier) (plan.cache? supply) now event := by
  have spec := build_spec anew
  have alike := (built.renews sourced steps anew).2
  -- The run goes on from the reloaded router.
  have reloaded : ((r.run steps).reload supply).2.run later =
      r.run (steps ++ .reload supply :: later) := (run_append r steps (.reload supply :: later)).symm
  -- No step changes the sources, so the two engines are asked the same from here on.
  have asked : ((r.run steps).reload supply).2.asked later = fresh.asked later := by
    have one : ((r.run steps).reload supply).2 = r.run (steps ++ [.reload supply]) :=
      (run_append r steps [.reload supply]).symm
    rw [one, asked_run]
    exact asked_congr (built.sources.trans spec.sources.symm)
      (built.ownRules.trans spec.ownRules.symm) later
  have still : (((r.run steps).reload supply).2.run later).engine.Alike
      (fresh.run later).engine := by
    rw [run_engine, run_engine, asked]
    exact alike.run _
  have left := built.run_answered_iff (steps ++ .reload supply :: later) now event
  have right := spec.run_answered_iff later now event
  have leftAnswers := reliable.answers built
  rw [← reloaded] at left leftAnswers
  refine ⟨fun leftFits rightFits => ?_, left, right⟩
  obtain ⟨_, leftWalk⟩ := eq_walk_of_answers leftAnswers (left.mpr leftFits)
  obtain ⟨_, rightWalk⟩ := eq_walk_of_answers (reliable'.answers spec) (right.mpr rightFits)
  exact answersAs_of_alike still leftWalk rightWalk

/-- The version after a run is not the last one, if there are fewer steps than versions. -/
theorem Built.run_version_succ (built : Built earlier plan r) (steps : List Step)
    (few : steps.length + 2 < 2 ^ 64) :
    ((r.run steps).version + 1).toNat = (r.run steps).version.toNat + 1 := by
  obtain ⟨past, short, registry⟩ := built.run_registry steps
  have bound := Registry.version_le past
  rw [← registry] at bound
  change (r.run steps).version.toNat ≤ past.length at bound
  rw [UInt64.toNat_add, UInt64.toNat_one, Nat.mod_eq_of_lt (by omega)]

/-- **A reload is a build, or changes nothing.** Take any run of a router that has been built from a
plan with a source, and reload it from what the sources yield then. The reload fails exactly where a
build from the plan fails, with the same fault, and the router is as before. Else it has the rules
of the router that is built anew, at the next version; and whatever both are asked from then on,
they answer every event with one outcome, wherever both answer. The one has an answer as the cache
of the first build lets it, the other as the cache of the build anew does. -/
theorem reload_rebuilds (built : build earlier plan = .ok r) (sourced : plan.allSources ≠ [])
    (steps : List Step) (supply : Supply) :
    (∀ cause, ((r.run steps).reload supply).1 = .error cause ↔
      build supply (plan.withClock (r.run steps).engine.clock) = .error cause) ∧
    (∀ cause, ((r.run steps).reload supply).1 = .error cause →
      ((r.run steps).reload supply).2 = r.run steps) ∧
    (steps.length + 2 < 2 ^ 64 →
      ((r.run steps).version + 1).toNat = (r.run steps).version.toNat + 1) ∧
    ∀ fresh, build supply (plan.withClock (r.run steps).engine.clock) = .ok fresh →
      (r.run steps).Renews supply fresh ∧
      ∀ later now event, r.Reliable (steps ++ .reload supply :: later) now event →
        fresh.Reliable later now event →
          (((r.run steps).reload supply).2.run later).AnswersBeside (fresh.run later)
            (plan.cache? earlier) (plan.cache? supply) now event := by
  have spec := build_spec built
  refine ⟨fun cause => ?_, fun cause => reload_of_error, spec.run_version_succ steps,
    fun fresh anew => ⟨(spec.renews sourced steps anew).1, fun later now event =>
      spec.reload_answersBeside sourced steps later anew⟩⟩
  rw [reload_eq_error, build_eq_error, spec.run_gathered sourced]
  rfl

section Witness

/-- A rule is added and the host's own is taken out. -/
def patches : List Step :=
  [.change (.add { name := "patch" }), .change (.remove "fallback")]

/-- A reload that brings the host's own rule twice changes nothing; one that brings another rule
undoes the changes, and an event whose outcome is kept is answered as by a router that is built
anew. -/
theorem feedPlan_reloads : build (feeding []) feedPlan = .ok (feedRouter []) ∧
    build (feeding [tierRule]) feedPlan = .ok (feedRouter [tierRule]) ∧
    (((feedRouter []).run patches).reload (feeding feedPlan.rules)).2 =
      (feedRouter []).run patches ∧
    ((feedRouter []).run patches).Renews (feeding [tierRule]) (feedRouter [tierRule]) ∧
    ((((feedRouter []).run patches).reload (feeding [tierRule])).2.run
        [.evaluate 0 (Engine.tierEvent "a" "vip")]).AnswersAs
      ((feedRouter [tierRule]).run [.evaluate 0 (Engine.tierEvent "a" "vip")])
      1 (Engine.tierEvent "b" "vip") := by
  have built : build (feeding []) feedPlan = .ok (feedRouter []) := rfl
  have anew : build (feeding [tierRule]) feedPlan = .ok (feedRouter [tierRule]) := rfl
  have law := reload_rebuilds built (by decide) patches
  have unchanged := (law (feeding feedPlan.rules)).2.1 _ rfl
  obtain ⟨renews, later⟩ := (law (feeding [tierRule])).2.2.2 _ anew
  have fits (rules : List Rule) : Fits (feedPlan.cache? (feeding rules)) 1 := by
    have default : 1 + 1000000000 * 300 < lastInstant := by decide
    rintro s ⟨⟩
    exact default
  have beside := later [.evaluate 0 (Engine.tierEvent "a" "vip")] 1 (Engine.tierEvent "b" "vip")
    ⟨by decide, Engine.tierEvents_distinguished _⟩ ⟨by decide, Engine.tierEvents_distinguished _⟩
  exact ⟨built, anew, unchanged, renews, beside.alike (.inl (fits _)) (.inl (fits _))⟩

/-- A feed that asks for the greatest time. -/
def endlessFeed : Supply :=
  ⟨fun _ => none, fun _ => .ok { cacheTtlSeconds := 18446744073709551615 }⟩

/-- **A reload keeps the time that outcomes are kept for.** The feed asks for less when the router is
reloaded, and a router that is built anew answers; the reloaded one does not. -/
theorem endlessFeed_differs : ∃ r, build endlessFeed feedPlan = .ok r ∧
    (r.reload (feeding [])).1 = .ok (r.version + 1) ∧
    build (feeding []) (feedPlan.withClock r.engine.clock) = .ok (feedRouter []) ∧
    (∃ o, ((feedRouter []).evaluate 0 (Engine.tierEvent "a" "vip")).1 = .ok o) ∧
    ∀ o, ((r.reload (feeding [])).2.evaluate 0 (Engine.tierEvent "a" "vip")).1 ≠ .ok o := by
  let r : Router := feedPlan.over (some ⟨18446744073709551615, 10000⟩)
    (Change.perform .empty (.replaceAll feedPlan.rules))
  refine ⟨r, rfl, rfl, rfl, ?_, fun o answer => ?_⟩
  · have anew : build (feeding []) feedPlan = .ok (feedRouter []) := rfl
    refine ((build_spec anew).run_answered_iff [] 0 _).mpr (.inl ?_)
    rintro s ⟨⟩
    decide
  · have kept : (r.reload (feeding [])).2.engine.cache =
        some (.ofSettings ⟨18446744073709551615, 10000⟩) := rfl
    cases (endless_fails kept (Engine.tierEvent "a" "vip")).symm.trans answer

end Witness

end Router

end Escalation
