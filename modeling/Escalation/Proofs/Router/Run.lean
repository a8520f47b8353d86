import Escalation.Proofs.Engine.Answers
import Escalation.Router

/-!
# Runs of a router

What building and reloading do is said by one equation each (`build_eq`, `reload_eq`). Both gather
rules from the sources and approve of them together, and where that fails they fail with the same
fault; else a build puts a router over a registry of these rules, and a reload puts them in the
place of the present ones.

A run of a router is a list of steps: changes of its rules, reloads, settings of the clock,
clearings of the cache, requests and evaluations. No step changes the sources or the router's own
rules, and what a step does to the engine is a run of the engine of at most one step (`step_eq`): a
request is an evaluation, and a reload replaces all rules or does nothing. So a run of a router is a
run of its engine (`run_eq`).
-/

namespace Escalation

open Registry (Change)

/-! ## Gathering rules -/

/-- Rules that can be registered together, or the reason why they cannot. -/
def Router.approve (rules : List Rule) : Except RouterFault (List Rule) :=
  (Router.ofEngine (Registry.checkAll [] rules)).map fun _ => rules

/-- The rules of sources and a host's own, if they can be loaded and registered together. -/
def Router.collect (supply : Supply) (sources : List Source) (own : List Rule) :
    Except RouterFault (List Rule) :=
  (Source.loadAll supply sources).bind fun books => approve (gather books own)

/-- The rules that a router is built with. -/
def Plan.gathered (plan : Plan) (supply : Supply) : Except RouterFault (List Rule) :=
  Router.collect supply plan.allSources plan.rules

/-- The rules that a reload registers. -/
def Router.gathered (r : Router) (supply : Supply) : Except RouterFault (List Rule) :=
  if r.sources.isEmpty then .error .noSources else collect supply r.sources r.ownRules

/-- The settings of the cache of a router that is built. -/
def Plan.cache? (plan : Plan) (supply : Supply) : Option CacheSettings :=
  match Source.loadAll supply plan.allSources with
  | .ok books => plan.settings.cache? books.head?
  | .error _ => none

/-- The router over a registry, with an empty cache if it is to have one. -/
def Plan.over (plan : Plan) (cache : Option CacheSettings) (registry : Registry) : Router where
  engine :=
    { registry
      cache := cache.map .ofSettings
      metrics := if plan.settings.enableMetrics then some .empty else none
      clock := plan.clock
      offset := .ofMinutes plan.settings.utcOffsetMinutes }
  sources := plan.allSources
  ownRules := plan.rules

/-- Whether rules are accepted in place of all others does not depend on the others. -/
theorem Registry.replaceAll_eq (r : Registry) (rules : List Rule) :
    Router.ofEngine (r.replaceAll rules) =
      (Router.approve rules).map fun rules => Change.perform r (.replaceAll rules) := by
  unfold replaceAll Router.approve
  cases checkAll [] rules <;> rfl

/-- Rules that have taken the place of all others are those that are registered. -/
theorem Registry.registers_replaceAll (r : Registry) (rules : List Rule) :
    (Change.perform r (.replaceAll rules)).Registers rules :=
  ⟨_, Numbering.replaceAll r rules, number_rule rules _⟩

namespace Router

variable {r : Router} {supply : Supply} {plan : Plan} {rules : List Rule} {cause : RouterFault}

/-- **Rules that are collected** are those of the books that the sources yield and the host's own,
and a registry accepts them. -/
theorem collect_eq_ok {sources : List Source} {own : List Rule}
    (h : collect supply sources own = .ok rules) : ∃ books,
    Source.loadAll supply sources = .ok books ∧ rules = gather books own ∧
      ∀ registry : Registry, registry.apply (.replaceAll rules) =
        .ok (Change.perform registry (.replaceAll rules)) := by
  unfold collect at h
  cases loaded : Source.loadAll supply sources with
  | error other =>
    rw [loaded] at h
    cases h
  | ok books =>
    simp only [loaded, Except.bind, approve] at h
    cases check : Registry.checkAll [] (gather books own) with
    | error fault =>
      rw [check] at h
      cases h
    | ok u =>
      rw [check] at h
      cases h
      refine ⟨books, rfl, rfl, fun registry => ?_⟩
      simp only [Registry.apply, Registry.replaceAll, check, bind, Except.bind]
      rfl

/-! ## Building and reloading -/

/-- **A build** puts a router over a registry of the rules that it gathers, or fails as the
gathering does. -/
theorem build_eq (supply : Supply) (plan : Plan) : build supply plan =
    (plan.gathered supply).map fun rules =>
      plan.over (plan.cache? supply) (Change.perform .empty (.replaceAll rules)) := by
  have unfolded : build supply plan = (Source.loadAll supply plan.allSources).bind fun books =>
      (ofEngine (Registry.ofRules (gather books plan.rules))).map
        (plan.over (plan.settings.cache? books.head?)) := rfl
  rw [unfolded, Plan.gathered, collect]
  cases loaded : Source.loadAll supply plan.allSources with
  | error other => rfl
  | ok books =>
    have cache : plan.cache? supply = plan.settings.cache? books.head? := by
      rw [Plan.cache?, loaded]
    simp only [Except.bind, Registry.ofRules, Registry.replaceAll_eq, cache]
    cases approve (gather books plan.rules) <;> rfl

/-- **A reload** puts the rules that it gathers in the place of the present ones, at the next
version; or it fails as the gathering does, and changes nothing. -/
theorem reload_eq (r : Router) (supply : Supply) : r.reload supply =
    match r.gathered supply with
    | .error cause => (.error cause, r)
    | .ok rules =>
      (.ok (r.version + 1),
        { r with
          engine := { r.engine with
            registry := Change.perform r.engine.registry (.replaceAll rules) } }) := by
  unfold reload gathered collect
  split
  · rfl
  · cases Source.loadAll supply r.sources with
    | error other => rfl
    | ok books =>
      simp only [Except.bind, change, Engine.change, Registry.replaceAll, approve]
      cases Registry.checkAll [] (gather books r.ownRules) <;> rfl

/-- What is known of a router that has been built. -/
structure Built (supply : Supply) (plan : Plan) (r : Router) : Prop where
  sources : r.sources = plan.allSources
  ownRules : r.ownRules = plan.rules
  /-- The registry has been made of the rules that were gathered, all at once. -/
  registry : ∃ rules, plan.gathered supply = .ok rules ∧
    r.engine.registry = Change.perform .empty (.replaceAll rules)
  /-- The cache is empty. -/
  cache : r.engine.cache = (plan.cache? supply).map .ofSettings
  clock : r.engine.clock = plan.clock
  offset : r.engine.offset = .ofMinutes plan.settings.utcOffsetMinutes

theorem build_spec (built : build supply plan = .ok r) : Built supply plan r := by
  rw [build_eq] at built
  cases gathers : plan.gathered supply with
  | error cause =>
    rw [gathers] at built
    cases built
  | ok rules =>
    rw [gathers] at built
    cases built
    exact ⟨rfl, rfl, ⟨rules, gathers, rfl⟩, rfl, rfl, rfl⟩

/-! ## Steps -/

/-- What is asked of a router. -/
inductive Step where
  | change (c : Change)
  | reload (supply : Supply)
  | setClock (clock : Time.Timestamp)
  | clearCache
  | route (now : Nat) (fresh : String) (request : Request)
  | evaluate (now : Nat) (event : Event)

/-- The router after a step. -/
def step (r : Router) : Step → Router
  | .change c => (r.change (·.apply c)).2
  | .reload supply => (r.reload supply).2
  | .setClock clock => { r with engine := r.engine.setClock clock }
  | .clearCache => { r with engine := r.engine.clearCache }
  | .route now fresh request => (r.route now fresh request).2
  | .evaluate now event => (r.evaluate now event).2

/-- The router after a list of steps, one after the other. -/
def run (r : Router) (steps : List Step) : Router :=
  steps.foldl step r

theorem run_append (r : Router) (before after : List Step) :
    r.run (before ++ after) = (r.run before).run after :=
  List.foldl_append

theorem route_fst (r : Router) (now : Nat) (fresh : String) (request : Request) :
    (r.route now fresh request).1 =
      (r.engine.evaluate now request.event).1.map (respond fresh request) :=
  rfl

/-- What a step asks of the engine. -/
def asks (r : Router) : Step → List Engine.Step
  | .change c => [.change c]
  | .reload supply =>
    match r.gathered supply with
    | .ok rules => [.change (.replaceAll rules)]
    | .error _ => []
  | .setClock clock => [.setClock clock]
  | .clearCache => [.clearCache]
  | .route now _ request => [.evaluate now request.event]
  | .evaluate now event => [.evaluate now event]

/-- What a run asks of the engine. -/
def asked (r : Router) (steps : List Step) : List Engine.Step :=
  steps.flatMap r.asks

/-- What goes into the keys of a run. -/
def inputs (r : Router) (steps : List Step) : List Fingerprint.Input :=
  r.engine.inputs (r.asked steps)

theorem collect_of_gathered (h : r.gathered supply = .ok rules) :
    collect supply r.sources r.ownRules = .ok rules := by
  unfold gathered at h
  split at h
  · cases h
  · exact h

/-- **A step of a router is at most one step of its engine.** -/
theorem step_eq (r : Router) (s : Step) :
    r.step s = { r with engine := r.engine.run (r.asks s) } := by
  cases s with
  | reload supply =>
    simp only [step, asks, reload_eq]
    cases gathers : r.gathered supply with
    | error cause => rfl
    | ok rules =>
      obtain ⟨-, -, -, accepted⟩ := collect_eq_ok (collect_of_gathered gathers)
      simp only [Engine.run, List.foldl_cons, List.foldl_nil, Engine.step, Engine.change, accepted]
  | change c | setClock clock | clearCache | route now fresh request | evaluate now event => rfl

/-- **A run of a router is a run of its engine.** -/
theorem run_eq (r : Router) (steps : List Step) :
    r.run steps = { r with engine := r.engine.run (r.asked steps) } := by
  induction steps generalizing r with
  | nil => rfl
  | cons s steps ih =>
    refine (ih (r.step s)).trans ?_
    have same : (r.step s).asked steps = r.asked steps := by rw [step_eq]; rfl
    rw [same, step_eq, asked, asked, List.flatMap_cons, Engine.run_append]

theorem run_engine (r : Router) (steps : List Step) :
    (r.run steps).engine = r.engine.run (r.asked steps) := by
  rw [run_eq]

/-- What is asked of the engine does not depend on how far the run has gone. -/
theorem asked_run (r : Router) (before steps : List Step) :
    (r.run before).asked steps = r.asked steps := by
  rw [run_eq]
  rfl

theorem asked_append (r : Router) (before after : List Step) :
    r.asked (before ++ after) = r.asked before ++ r.asked after :=
  List.flatMap_append

theorem changes_asked_le (r : Router) (steps : List Step) :
    (Engine.changes (r.asked steps)).length ≤ steps.length := by
  induction steps with
  | nil => exact Nat.le_refl _
  | cons s steps ih =>
    have one : (Engine.changes (r.asks s)).length ≤ 1 := by
      cases s with
      | reload supply =>
        rw [asks]
        cases r.gathered supply with
        | ok rules => exact Nat.le_refl 1
        | error cause => exact Nat.zero_le 1
      | change c => exact Nat.le_refl 1
      | setClock clock | clearCache | route now fresh request | evaluate now event =>
        exact Nat.zero_le 1
    rw [asked, List.flatMap_cons, Engine.changes, List.filterMap_append, List.length_append,
      List.length_cons, Nat.add_comm]
    exact Nat.add_le_add ih one

/-! ## Runs of a router that has been built -/

/-- The registry that is built is what one change makes of an empty one. -/
theorem Built.reached (built : Built supply plan r) :
    ∃ c, r.engine.registry = Registry.empty.afterAll [c] := by
  obtain ⟨rules, gathers, registry⟩ := built.registry
  obtain ⟨-, -, -, accepted⟩ := collect_eq_ok gathers
  refine ⟨.replaceAll rules, ?_⟩
  rw [registry, Registry.afterAll, List.foldl_cons, List.foldl_nil, Registry.after, accepted]

/-- The registry of a run is what changes make of an empty one. -/
theorem Built.run_registry (built : Built supply plan r) (steps : List Step) :
    ∃ past, past.length ≤ steps.length + 1 ∧
      (r.run steps).engine.registry = Registry.empty.afterAll past := by
  obtain ⟨c, reached⟩ := built.reached
  refine ⟨c :: Engine.changes (r.asked steps), Nat.succ_le_succ (r.changes_asked_le steps), ?_⟩
  rw [run_engine, Engine.run_registry, reached]
  rfl

/-- What is asked of a run for its last answer to be that of the present rules: there are fewer
steps than versions, and the digest tells apart what went into the keys. -/
structure Reliable (r : Router) (steps : List Step) (now : Nat) (event : Event) : Prop where
  few : steps.length < 2 ^ 64
  distinct : Engine.Distinguishes r.engine.digest (r.inputs (steps ++ [.evaluate now event]))

/-- **A router answers with the walk over its present rules.** -/
theorem Reliable.answers {steps : List Step} {now : Nat} {event : Event}
    (reliable : r.Reliable steps now event) (built : Built supply plan r) :
    (r.run steps).engine.Answers now event ((r.run steps).engine.walk event) := by
  have distinct := reliable.distinct
  rw [inputs, asked_append] at distinct
  rw [run_engine]
  exact Engine.run_answers built.cache
    (Nat.lt_of_le_of_lt (r.changes_asked_le steps) reliable.few) distinct

/-! ## A router over one feed -/

/-- Feeds that all yield these rules. -/
def feeding (rules : List Rule) : Supply :=
  ⟨fun _ => none, fun _ => .ok { rules }⟩

/-- A plan with a feed and a rule of the host's own. -/
def feedPlan : Plan where
  sources := [.feed "live"]
  rules := [{ name := "fallback" }]
  clock := ⟨0, 0⟩

/-- The router of that plan, if the feed yields these rules. -/
def feedRouter (rules : List Rule) : Router :=
  feedPlan.over (some {}) (Change.perform .empty (.replaceAll (rules ++ feedPlan.rules)))

end Router

end Escalation
