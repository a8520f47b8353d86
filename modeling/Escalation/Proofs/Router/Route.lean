import Escalation.Proofs.Router.Expiry
import Escalation.Proofs.Rule.Application

/-!
# What becomes of a request

The response to a request tells of a rule that matched, and of what its actions make of the
request's own decision and metadata. The outcome may have been kept from a request that was not the
same in what no rule reads; what the actions are applied to is never kept.

Rules are checked before they are registered, by every change and every reload, and a kept outcome
was the walk over registered rules. So the actions of an outcome are those of a valid rule, whatever
has happened before (`Outcome.Backed`). All of them are applied then, but for those that set a
custom field where the request has something else than an object in that place (`Request.Served`).
The law of both is `route_serves`.
-/

namespace Escalation

open Registry (Change)

/-! ## Outcomes of valid rules -/

/-- An outcome names a valid rule and has its actions; or it names none and has none. -/
def Outcome.Backed (o : Outcome) : Prop :=
  o.matchedRule = .none ∧ o.actions = [] ∨
    ∃ rule : Rule, rule.validate = .ok () ∧ o.matchedRule = some rule.name ∧
      o.actions = rule.actions

variable {o : Outcome}

/-- The actions of such an outcome have good parameters. -/
theorem Outcome.Backed.check (backed : o.Backed) : ∀ action ∈ o.actions, action.check = .ok () := by
  rcases backed with ⟨-, none⟩ | ⟨rule, valid, -, actions⟩
  · simp [none]
  · rw [actions]
    exact (Rule.validate_eq_ok.mp valid).2.2

theorem Outcome.Backed.actions_of_unmatched (backed : o.Backed) (none : o.matchedRule = .none) :
    o.actions = [] := by
  rcases backed with ⟨-, actions⟩ | ⟨rule, -, matched, -⟩
  · exact actions
  · cases none.symm.trans matched

/-- What tells of the first of some valid rules is backed by one. -/
theorem FirstMatch.backed {scope : Scope} {order : List Rule} (first : FirstMatch scope order o)
    (valid : ∀ rule ∈ order, rule.validate = .ok ()) : o.Backed := by
  have matched := first.matchedRule
  have actions := first.actions
  cases winner : winner? scope order with
  | none =>
    rw [winner] at matched actions
    exact .inl ⟨matched, actions⟩
  | some rule =>
    rw [winner] at matched actions
    exact .inr ⟨rule, valid rule (List.mem_of_find?_eq_some winner), matched, actions⟩

/-- The mark that an outcome was kept is no matter. -/
theorem FirstMatch.marked {scope : Scope} {order : List Rule} (first : FirstMatch scope order o)
    (hit : Bool) : FirstMatch scope order { o with cacheHit := hit } :=
  { first with }

/-! ## Responses -/

/-- **What a response does to the request's own decision and metadata.** -/
structure Request.Served (request : Request) (response : Response) : Prop where
  /-- A dry run leaves them as they are, and skips nothing. -/
  dry : request.dryRun = true → response.handoff = request.handoff ∧ response.skipped = []
  /-- So does a request for which nothing matches. -/
  unmatched : response.outcome.matchedRule = none →
    response.handoff = request.handoff ∧ response.skipped = []
  /-- Else all actions are applied, one after the other, if there is a place for custom fields. -/
  clear : request.dryRun = false → request.handoff.obstacle? = none → response.skipped = [] ∧
    response.outcome.actions.foldlM Handoff.apply request.handoff = .ok response.handoff
  /-- If there is something else in that place, the actions that set one are skipped, and told of in
  their order, and all others are applied. -/
  obstructed : request.dryRun = false → ∀ kind, request.handoff.obstacle? = some kind →
    response.skipped =
        (response.outcome.actions.zipIdx.filter (·.1.kind = .setCustomField)).map
          (fun (_, i) => ⟨i, .setCustomField, .customFields kind⟩) ∧
      (response.outcome.actions.filter (·.kind ≠ .setCustomField)).foldlM Handoff.apply
        request.handoff = .ok response.handoff

namespace Router

variable {r : Router} {supply : Supply} {plan : Plan} {fresh : String} {request : Request}

theorem respond_of_dry (dry : request.dryRun = true) : respond fresh request o =
    ⟨request.idOr fresh, o, request.handoff, false, [], 0⟩ := by
  rw [respond, dry]
  rfl

theorem respond_of_live (live : request.dryRun = false) : respond fresh request o =
    ⟨request.idOr fresh, o, (request.handoff.applyAll o.actions).handoff, true,
      (request.handoff.applyAll o.actions).skipped, 0⟩ := by
  rw [respond, live]
  rfl

theorem respond_outcome : (respond fresh request o).outcome = o := by
  unfold respond
  cases request.dryRun <;> rfl

/-- **Requests are served** with the actions of valid rules. -/
theorem respond_serves (backed : o.Backed) : request.Served (respond fresh request o) := by
  cases mode : request.dryRun with
  | true =>
    rw [respond_of_dry mode]
    refine ⟨fun _ => ⟨rfl, rfl⟩, fun _ => ⟨rfl, rfl⟩, fun live => ?_, fun live => ?_⟩
    · cases mode.symm.trans live
    · cases mode.symm.trans live
  | false =>
    rw [respond_of_live mode]
    have carries := request.handoff.applyAll_carries o.actions
    refine ⟨fun dry => ?_, fun none => ?_, fun _ => carries.clear backed.check,
      fun _ kind => carries.obstructed backed.check⟩
    · cases mode.symm.trans dry
    · have actions : o.actions = [] := backed.actions_of_unmatched none
      rw [actions]
      exact ⟨rfl, rfl⟩

/-- Along every run of its engine, the rules of a router that has been built are valid. -/
theorem Built.valid (built : Built supply plan r) (steps : List Engine.Step) :
    ∀ rule ∈ (r.engine.run steps).registry.active.rules, rule.validate = .ok () := by
  obtain ⟨c, reached⟩ := built.reached
  rw [Engine.run_registry, reached]
  exact (Registry.invariant_afterAll (c :: Engine.changes steps)).valid

/-- **Whatever is answered is backed by a valid rule**, kept or not. -/
theorem Built.backed (built : Built supply plan r) (steps : List Step) {now : Nat} {event : Event}
    (answer : ((r.run steps).engine.evaluate now event).1 = .ok o) : o.Backed := by
  rw [run_engine] at answer
  -- The rules of the moment when the outcome was made were valid, if they are not the present ones.
  obtain ⟨before, -, other, hit, -, rfl⟩ := Engine.run_evaluate_origin built.cache answer
  have first : FirstMatch ((r.engine.run before).scope other)
      ((r.engine.run before).registry.active.rules.filter (·.enabled))
      ((r.engine.run before).walk other) :=
    walkRules_firstMatch _ _
  exact (first.marked hit).backed fun rule mem => built.valid before rule (List.mem_filter.mp mem).1

/-- **What becomes of a request.** After any run of a router that has been built, a request has a
response, unless its outcome is not kept and cannot be stored. The response tells of a valid rule,
or of none; and what it does to the request's own decision and metadata is what the actions of that
rule do, all of them, but for those that there is no place for. The rule is the first of the present
rules that holds. -/
theorem route_serves (built : build supply plan = .ok r) (steps : List Step) (now : Nat)
    (fresh : String) (request : Request) :
    ((r.run steps).engine.Misses now request.event ∧ ¬ Fits (plan.cache? supply) now ∧
      ((r.run steps).route now fresh request).1 = .error .beyondClock) ∨
    ∃ response, ((r.run steps).route now fresh request).1 = .ok response ∧
      response.outcome.Backed ∧ request.Served response ∧
      (r.Reliable steps now request.event →
        FirstMatch ((r.run steps).engine.scope request.event)
          ((r.run steps).rules.filter (·.enabled)) response.outcome) := by
  have spec := build_spec built
  -- A route fails with its evaluation, and responds to an outcome, whatever it is.
  cases answer : ((r.run steps).engine.evaluate now request.event).1 with
  | error fault =>
    have failed : ((r.run steps).route now fresh request).1 = .error .beyondClock := by
      rw [route_fst, answer]
      rfl
    obtain ⟨miss, full⟩ := route_fails_iff.mp failed
    exact .inl ⟨miss, fun fits => full ((spec.run_stores_iff steps now).mpr fits), failed⟩
  | ok o =>
    have backed := spec.backed steps answer
    refine .inr ⟨respond fresh request o, by rw [route_fst, answer]; rfl,
      by rwa [respond_outcome], respond_serves backed, fun reliable => ?_⟩
    rw [respond_outcome]
    rcases reliable.answers spec with ⟨hit, walk⟩ | ⟨-, -, failed⟩
    · cases answer.symm.trans walk
      exact (walkRules_firstMatch _ _).marked hit
    · cases answer.symm.trans failed

section Witness

/-- A rule that assigns, sets a custom field and tags. -/
def seniorRule : Rule where
  name := "senior"
  actions := [.assignQueue "senior", .setCustomField "tier" (.text "vip"), .addTags ["vip"]]

/-- A request with a text in the place of the custom fields. -/
def seniorRequest (conversationId : String) (assignment : Option Assignment) : Request where
  context := { conversationId }
  decision := { assignment }
  metadata := .ofList [(customFieldsName, .text "none")]

/-- Such requests are one input, whoever is assigned. -/
theorem seniorRequest_same (e : Engine) (a b : String) (x y : Option Assignment) :
    (e.input (seniorRequest a x).event).Same (e.input (seniorRequest b y).event) where
  version := rfl
  timestamps := rfl
  minute := rfl
  scope := (Scope.Agree.refl _ (e.scope (seniorRequest b y).event)).withRest_left
    ⟨a, x, .empty, false, none⟩

/-- A request of another conversation, with another assignment, has the outcome of an earlier one;
the rule's actions are applied to its own decision, save for the one that there is no place for. -/
theorem seniorRequest_served :
    build (feeding [seniorRule]) feedPlan = .ok (feedRouter [seniorRule]) ∧
      ∃ response, (((feedRouter [seniorRule]).run
          [.route 0 "" (seniorRequest "a" none)]).route 1 ""
            (seniorRequest "b" (some (.agent "x")))).1 = .ok response ∧
        response.outcome.matchedRule = some "senior" ∧
        response.skipped = [⟨1, .setCustomField, .customFields .text⟩] ∧
        response.handoff.decision.assignment = some (.queue "senior") := by
  have built : build (feeding [seniorRule]) feedPlan = .ok (feedRouter [seniorRule]) := rfl
  have reliable : (feedRouter [seniorRule]).Reliable [.route 0 "" (seniorRequest "a" none)] 1
      (seniorRequest "b" (some (.agent "x"))).event := by
    refine ⟨by decide, fun i hi j hj _ => ?_⟩
    let e := (feedRouter [seniorRule]).engine
    have all : ∀ i ∈ (feedRouter [seniorRule]).inputs [.route 0 "" (seniorRequest "a" none),
        .evaluate 1 (seniorRequest "b" (some (.agent "x"))).event],
        ∃ id x, i = e.input (seniorRequest id x).event := by
      intro i hi
      rcases List.mem_pair.mp hi with rfl | rfl
      · exact ⟨"a", none, rfl⟩
      · exact ⟨"b", _, (Engine.evaluate_agree e 0 _).input _⟩
    obtain ⟨a, x, rfl⟩ := all i hi
    obtain ⟨b, y, rfl⟩ := all j hj
    exact seniorRequest_same e a b x y
  refine ⟨built, ?_⟩
  rcases route_serves built [.route 0 "" (seniorRequest "a" none)] 1 ""
    (seniorRequest "b" (some (.agent "x"))) with ⟨-, full, -⟩ | ⟨response, answer, -, served, first⟩
  · exact absurd (by rintro s ⟨⟩; decide) full
  · have first := first reliable
    have actions : response.outcome.actions = seniorRule.actions := first.actions
    obtain ⟨skipped, carried⟩ := served.obstructed rfl .text (by decide)
    rw [actions] at skipped carried
    refine ⟨response, answer, first.matchedRule, skipped, ?_⟩
    have handoff := Except.ok.inj carried
    rw [← handoff]
    rfl

/-- **A request without an answer is not even tried**: what a dry run would have given back
unchanged is lost with the outcome that cannot be stored. -/
theorem endless_dryRun_unserved : ∃ r,
    build nothing (bookPlan "cache_ttl_secs: 18446744073709551615") = .ok r ∧
      ∀ response, (r.route 0 "" { context := {}, dryRun := true }).1 ≠ .ok response := by
  obtain ⟨r, built, endless⟩ := endlessBook_build
  refine ⟨r, built, fun response answer => ?_⟩
  rw [route_fst, endless_fails endless] at answer
  cases answer

end Witness

end Router

end Escalation
