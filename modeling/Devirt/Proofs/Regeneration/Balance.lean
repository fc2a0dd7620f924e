import Devirt.Proofs.Lowering.Balanced
import Devirt.Proofs.Lowering.Faults
import Devirt.Proofs.Lowering.IgnoringFlags
import Devirt.Proofs.Regeneration.Success
import Devirt.Proofs.StackDepth.Walk

/-!
# Balanced Routines have Consistent Stacks

Two analyses of the evaluation stack are independent of each other: templates are checked one by one
before they are lowered, and the finished body is walked through along all paths. The first one
decides what the second one finds. If the statements of a routine are balanced, branches lead to
nodes and handlers start with an empty stack, then every way through the body brings the same depth
to a line, whatever the graph looks like.

Main statement: `Config.regenerate_balanced`.
-/

namespace Devirt

variable {σ : Type} {config : Config} {flags : FlagsLowering σ} {r : Routine} {m : Method}
  {state : σ}

/-! ## §1 Faults of a regeneration -/

theorem ofBodyError_eq_error {α : Type} {x : Except BodyError α} {e : LowerError} :
    ofBodyError x = .error e ↔ ∃ cause, x = .error cause ∧ e = .body cause := by
  cases x <;> simp [ofBodyError, Except.mapError, eq_comm]

/-- A body is not completed if its regions cannot be resolved, or if its stack has no bound. -/
theorem Config.complete_eq_error {returnsValue : Bool} {graph : Graph} {l : Listing}
    {e : LowerError} (h : config.complete returnsValue graph l = .error e) :
    RegionContext.handlers ⟨graph, l.stretches, .ofLines (config.settle l.lines), config⟩ =
      .error e ∨
    ∃ handlers cause,
      RegionContext.handlers ⟨graph, l.stretches, .ofLines (config.settle l.lines), config⟩ =
        .ok handlers ∧
      { Body.ofLines (config.settle l.lines) with handlers := handlers }.stackDepth returnsValue =
        .error cause ∧ e = .body cause := by
  rcases Fallible.bind_eq_error.1 h with failed | ⟨handlers, resolved, failed⟩
  · exact .inl failed
  · unfold boundBody at failed
    -- without a bound, there is no other fault
    split at failed
    next =>
      rcases Fallible.bind_eq_error.1 failed with failed | ⟨maxStack, _, done⟩
      · obtain ⟨cause, unbounded, rfl⟩ := ofBodyError_eq_error.1 failed
        exact .inr ⟨handlers, cause, resolved, unbounded, rfl⟩
      · cases done
    next => cases failed

/-- A regeneration fails as the first of its stages that does. -/
theorem Config.regenerate_eq_error {e : LowerError}
    (h : (config.regenerate flags r m state).result = .error e) :
    (∃ m', r.bind m = .error e m') ∨ ∃ binding bound, r.bind m = .ok binding bound ∧
      ((∃ s', (⟨config, binding, bound.returnsValue, flags⟩ : LowerContext σ).listing r.graph
          ⟨r.graph.supply, state⟩ = .error e s') ∨
        ∃ l s', (⟨config, binding, bound.returnsValue, flags⟩ : LowerContext σ).listing r.graph
            ⟨r.graph.supply, state⟩ = .ok l s' ∧
          config.complete bound.returnsValue r.graph l = .error e) := by
  -- the stages in order: binding, lowering, and the completion of the body
  unfold regenerate at h
  split at h
  next e' m' failed =>
    obtain rfl := Except.error.inj h
    exact .inl ⟨m', failed⟩
  next binding bound binds =>
    refine .inr ⟨binding, bound, binds, ?_⟩
    dsimp only at h
    split at h
    next e' s' failed =>
      obtain rfl := Except.error.inj h
      exact .inl ⟨s', failed⟩
    next l s' lowered =>
      split at h
      next e' failed =>
        obtain rfl := Except.error.inj h
        exact .inr ⟨l, s', lowered, failed⟩
      next => cases h

/-! ## §2 Handlers -/

/-- A handler for a region whose kind finds nothing on the stack, and has no filter, starts with an
    empty stack at the anchor of a node. -/
theorem RegionContext.startsEmpty_of_handlers {c : RegionContext} {l : Listing} (tiled : l.Tiled)
    (stretches : c.stretches = l.stretches) (size : l.stretches.size = c.graph.nodes.size)
    (kinds : ∀ region ∈ c.graph.regions, c.config.machine.kindOf region.tag = some .fault ∨
      c.config.machine.kindOf region.tag = some .final)
    {handlers : Array Handler} (resolved : c.handlers = .ok handlers) :
    ∀ h ∈ handlers, Body.StartsEmpty c.graph.IsAnchor h := by
  intro h mem
  obtain ⟨count, each⟩ := handlers_eq_ok resolved
  obtain ⟨k, inside, rfl⟩ := Array.mem_iff_getElem.1 mem
  have region := Array.getElem?_eq_getElem (count ▸ inside : k < c.graph.regions.size)
  obtain ⟨h', here, made⟩ := each k _ region
  obtain rfl := Option.some.inj ((Array.getElem?_eq_getElem inside).symm.trans here)
  obtain ⟨known, _, span, filter, _⟩ := handler_eq_ok made
  obtain ⟨first, _, s, _, _, start, _, anchor, _⟩ := span_eq_ok.1 span
  rw [stretches] at start
  have within := (Array.getElem?_eq_some_iff.1 start).1
  -- a handler starts with the stretch of its first node, hence at an anchor
  have rests : c.graph.IsAnchor handlers[k].handler.start := by
    rw [anchor, (tiled.places first s start).first_eq]
    exact Nat.lt_of_lt_of_eq within size
  have kind : handlers[k].kind = .fault ∨ handlers[k].kind = .final := by
    have := kinds _ (Array.getElem_mem (count ▸ inside))
    simpa [known] using this
  refine ⟨rests, ?_, ?_⟩
  · rcases kind with kind | kind <;> rw [kind] <;> rfl
  · rwa [if_neg (by rcases kind with kind | kind <;> simp [kind])] at filter

/-! ## §3 Balanced routines -/

/-- In a method of balanced statements, with branches to nodes only and handlers that start with an
    empty stack, a fault of the body is one of size. -/
theorem Config.fault_of_balanced
    (balanced : ∀ node ∈ r.graph.nodes, ∀ statement ∈ node.block, statement.Balanced m.returnsValue)
    (templates : ∀ i, r.graph.Carries i → r.graph.LeadsToNodes i)
    (kinds : ∀ region ∈ r.graph.regions, config.machine.kindOf region.tag = some .fault ∨
      config.machine.kindOf region.tag = some .final)
    (convert : config.converters.Convert) {cause : BodyError}
    (failed : (config.regenerate flags r m state).result = .error (.body cause)) :
    cause = .tooManyLocals ∨ ∃ depth, cause = .stackTooDeep depth := by
  have free : ∀ node ∈ r.graph.nodes, ∀ statement ∈ node.block, statement.source.FlagFree :=
    fun node mem statement inside => (balanced node mem statement inside).flagFree
  -- the stages before the stack analysis have no other faults of the body
  rcases regenerate_eq_error failed with ⟨m', failed⟩ | ⟨binding, bound, binds, failed⟩
  · exact .inl (r.bind_failsWith m _ m' failed)
  have returns : bound.returnsValue = m.returnsValue := by
    rw [Method.returnsValue, Method.returnsValue, Routine.returnType_bind binds]
  rcases failed with ⟨s', failed⟩ | ⟨l, s', lowered, failed⟩
  · exact .inl (LowerContext.listing_failsWith free _ _ s' failed)
  obtain ⟨tiled, size⟩ := LowerContext.tiled_listing lowered
  rcases complete_eq_error failed with failed | ⟨handlers, cause', resolved, failed, same⟩
  · exact .inl (RegionContext.handlers_failsWith _ _ failed)
  -- only the walk through the laid out lines is left, and these are steady
  obtain rfl := LowerError.body.inj same
  have steady := LowerContext.steady_listing convert (returns ▸ balanced) templates lowered
  have wide := config.widening_settle l.lines
  have laidOut := steady.of_widening wide
  have tiled' := tiled.of_widening wide
  have lines : { Body.ofLines (config.settle l.lines) with handlers := handlers }.lines =
      (config.settle l.lines).toList := Body.lines_ofLines _
  rw [← lines] at laidOut
  refine .inr (Body.stackTooDeep_of_steady laidOut ?_ ?_ failed)
  · exact RegionContext.startsEmpty_of_handlers tiled' rfl size kinds resolved
  · intro label inside
    exact Option.isSome_iff_exists.2 (tiled'.exists_position?_anchor lines (size ▸ inside))

/-- In a method of balanced statements, with branches to nodes only and handlers that start with an
    empty stack, no line lacks values, no line is reached with two depths, no return leaves values,
    and no branch or handler leads out of the body. -/
theorem Config.regenerate_balanced
    (balanced : ∀ node ∈ r.graph.nodes, ∀ statement ∈ node.block, statement.Balanced m.returnsValue)
    (templates : ∀ i, r.graph.Carries i → r.graph.LeadsToNodes i)
    (kinds : ∀ region ∈ r.graph.regions, config.machine.kindOf region.tag = some .fault ∨
      config.machine.kindOf region.tag = some .final)
    (imported : ∃ helperType catalog,
      config.converters = (Converters.importFrom helperType catalog).1) :
    (∀ label, (config.regenerate flags r m state).result ≠
      .error (.body (.stackUnderflow label))) ∧
    (∀ label expected found, (config.regenerate flags r m state).result ≠
      .error (.body (.inconsistentDepth label expected found))) ∧
    (∀ label depth, (config.regenerate flags r m state).result ≠
      .error (.body (.valuesAtReturn label depth))) ∧
    ∀ label, (config.regenerate flags r m state).result ≠ .error (.body (.unknownLine label)) := by
  have convert : config.converters.Convert := by
    obtain ⟨helperType, catalog, same⟩ := imported
    rw [same]
    exact Converters.convert_importFrom helperType catalog
  have fault : ∀ cause, (config.regenerate flags r m state).result = .error (.body cause) →
      cause = .tooManyLocals ∨ ∃ depth, cause = .stackTooDeep depth :=
    fun cause => fault_of_balanced balanced templates kinds convert
  refine ⟨fun label failed => ?_, fun label expected found failed => ?_,
    fun label depth failed => ?_, fun label failed => ?_⟩
  -- none of the four is a fault of size
  all_goals simpa using fault _ failed

/-- A routine that repeats its first node for as long as it finds a one, and always comes to an end
    by way of its second node. -/
def Routine.repeating : Routine where
  vars := #[]
  parameters := #[]
  graph := {
    nodes := #[
      ⟨0, [.eval (.apply ⟨[⟨.brtrueS, .target ⟨0⟩⟩], none, none⟩
        [.apply ⟨[.plain .ldcI41], none, some CoreType.object.ref⟩ []])]⟩,
      ⟨1, [.eval (.apply ⟨[.plain .endfinally], none, none⟩ [])]⟩,
      ⟨2, [.eval (.apply ⟨[.plain .ret], none, none⟩ [])]⟩]
    regions := #[⟨3, .ofList [0], .ofList [1], .ofList [], none⟩] }

theorem Routine.balanced_repeating :
    ∀ node ∈ repeating.graph.nodes, ∀ statement ∈ node.block, statement.Balanced false := by
  have one : (Expr.apply ⟨[.plain .ldcI41], none, some CoreType.object.ref⟩ []).OneValued false :=
    .apply rfl (by simp)
      (by simp [Instruction.Passive, Instruction.plain, Operand.targets]; rfl) rfl
  intro node mem statement inside
  simp only [repeating, List.mem_toArray, List.mem_cons, List.not_mem_nil, or_false] at mem
  -- each node has one statement, which leaves nothing behind
  rcases mem with rfl | rfl | rfl <;> obtain rfl := List.mem_singleton.1 inside
  · exact .perform rfl rfl (by simpa using one) (by simp)
  · exact .perform rfl rfl (by simp) (by simp)
  · exact .perform rfl rfl (by simp) (by simp)

theorem Routine.leadsToNodes_repeating (i : Instruction) (carries : repeating.graph.Carries i) :
    repeating.graph.LeadsToNodes i := by
  obtain ⟨node, mem, statement, inside, carried⟩ := carries
  simp only [repeating, List.mem_toArray, List.mem_cons, List.not_mem_nil, or_false] at mem
  -- only the first node has a branch, and it leads back to that node
  have back : repeating.graph.LeadsToNodes ⟨.brtrueS, .target ⟨0⟩⟩ :=
    fun target mem => ⟨0, by decide, List.mem_singleton.1 mem⟩
  have straight : ∀ opcode, repeating.graph.LeadsToNodes (.plain opcode) :=
    fun _ _ absent => nomatch absent
  rcases mem with rfl | rfl | rfl <;> obtain rfl := List.mem_singleton.1 inside
  · cases carried with
    | here own =>
      obtain rfl := List.mem_singleton.1 own
      exact back
    | argument mem inner =>
      obtain rfl := List.mem_singleton.1 mem
      cases inner with
      | here own =>
        obtain rfl := List.mem_singleton.1 own
        exact straight _
      | argument absent => cases absent
  all_goals
    cases carried with
    | here own =>
      obtain rfl := List.mem_singleton.1 own
      exact straight _
    | argument absent => cases absent

/-- The lines that the routine is lowered to. -/
def Routine.repeatingLines : Array Line :=
  #[⟨⟨0⟩, .anchor⟩, ⟨⟨3⟩, .plain .ldcI41⟩, ⟨⟨4⟩, ⟨.brtrueS, .target ⟨0⟩⟩⟩,
    ⟨⟨1⟩, .anchor⟩, ⟨⟨5⟩, .plain .endfinally⟩, ⟨⟨2⟩, .anchor⟩, ⟨⟨6⟩, .plain .ret⟩]

/-- What the region of the routine is resolved in. -/
def Routine.repeatingContext (converters : Converters) : RegionContext :=
  ⟨repeating.graph, #[⟨0, ⟨0⟩, ⟨4⟩, 0, 3⟩, ⟨1, ⟨1⟩, ⟨5⟩, 3, 5⟩, ⟨2, ⟨2⟩, ⟨6⟩, 5, 7⟩],
    .ofLines repeatingLines, .standard converters⟩

/-- The body of the routine before its stack is bounded. -/
def Routine.repeatingBody : Body :=
  { Body.ofLines repeatingLines with
    handlers := #[⟨.final, ⟨⟨0⟩, ⟨1⟩⟩, none, ⟨⟨1⟩, ⟨2⟩⟩, none⟩] }

theorem Routine.distinctLabels_repeatingLines : DistinctLabels repeatingLines.toList := by
  decide

theorem Routine.position?_repeatingBody {label : Label} {i : Nat}
    (there : repeatingLines.toList[i]?.map Line.label = some label) :
    repeatingBody.position? label = some i := by
  have lines : repeatingBody.lines = repeatingLines.toList := Body.lines_ofLines _
  rw [Body.position?_eq_some_iff_of_distinct (lines ▸ distinctLabels_repeatingLines), lines]
  exact there

theorem Routine.handlers_repeatingContext (converters : Converters) :
    (repeatingContext converters).handlers = .ok repeatingBody.handlers := by
  -- each of the two ranges ends where the code of the next node starts
  have following : ∀ i label next, repeatingLines.toList[i]?.map Line.label = some label →
      repeatingLines.toList[i + 1]?.map Line.label = some next →
      (repeatingContext converters).body.following? label = some next := by
    intro i label next here there
    have position : (repeatingContext converters).body.position? label = some i :=
      position?_repeatingBody here
    rw [Body.following?_eq, position, Option.bind_some, repeatingContext, Body.lines_ofLines]
    exact there
  have guarded : (repeatingContext converters).span 0 .guarded (.ofList [0]) = .ok ⟨⟨0⟩, ⟨1⟩⟩ :=
    RegionContext.span_eq_ok.2 ⟨0, 0, _, _, rfl, rfl, rfl, rfl, following 2 _ _ rfl rfl⟩
  have handler : (repeatingContext converters).span 0 .handler (.ofList [1]) = .ok ⟨⟨1⟩, ⟨2⟩⟩ :=
    RegionContext.span_eq_ok.2 ⟨1, 1, _, _, rfl, rfl, rfl, rfl, following 4 _ _ rfl rfl⟩
  have made : (repeatingContext converters).handler 0
      ⟨3, .ofList [0], .ofList [1], .ofList [], none⟩ =
        .ok ⟨.final, ⟨⟨0⟩, ⟨1⟩⟩, none, ⟨⟨1⟩, ⟨2⟩⟩, none⟩ :=
    Fallible.bind_eq_ok.2 ⟨_, guarded, Fallible.bind_eq_ok.2 ⟨_, handler, rfl⟩⟩
  exact Fallible.bind_eq_ok.2 ⟨_, Fallible.bind_eq_ok.2 ⟨_, made, rfl⟩, rfl⟩

theorem Routine.stackDepth_repeatingBody : repeatingBody.stackDepth false = .ok 1 := by
  have handler : repeatingBody.position? ⟨1⟩ = some 3 := position?_repeatingBody rfl
  have first : repeatingBody.position? ⟨0⟩ = some 0 := position?_repeatingBody rfl
  have entered : repeatingBody.pushEntries [⟨0, 0⟩] ⟨.final, ⟨⟨0⟩, ⟨1⟩⟩, none, ⟨⟨1⟩, ⟨2⟩⟩, none⟩ =
      .ok [⟨3, 0⟩, ⟨0, 0⟩] :=
    Fallible.bind_eq_ok.2 ⟨3, Body.resolve_eq_ok.2 handler, rfl⟩
  have targets : repeatingBody.pushTargets 0 [] [⟨0⟩] = .ok [⟨0, 0⟩] :=
    Body.pushTargets_eq_ok.2 ⟨[0], by rw [List.map_singleton, first]; rfl, rfl⟩
  have branches : Walk.visit (b := repeatingBody) false
      ⟨#v[some 0, some 0, none, some 0, some 0, none, none], 1, some ⟨2, 1⟩, []⟩ ⟨2, 1⟩
      (by decide) =
        .ok ⟨#v[some 0, some 0, some 1, some 0, some 0, none, none], 1, some ⟨3, 0⟩, [⟨0, 0⟩]⟩ :=
    Fallible.bind_eq_ok.2 ⟨0, rfl, Fallible.bind_eq_ok.2 ⟨_, targets, rfl⟩⟩
  have finished : (Walk.start repeatingBody [⟨3, 0⟩, ⟨0, 0⟩]).finish false = .ok 1 := by
    -- the handler to its end, then the first node up to its branch
    iterate 6 rw [Walk.finish_of_step rfl]
    refine (Walk.finish_of_step (Walk.step_of_visit rfl rfl branches)).trans ?_
    -- both ways on from the branch lead to lines that have been visited
    iterate 3 rw [Walk.finish_of_step rfl]
    exact Walk.finish_of_end rfl
  exact Fallible.bind_eq_ok.2 ⟨_, Fallible.bind_eq_ok.2 ⟨_, entered, rfl⟩,
    Fallible.bind_eq_ok.2 ⟨1, finished, rfl⟩⟩

theorem Config.regenerate_repeating (converters : Converters) :
    ((standard converters).regenerate (.ignoring : FlagsLowering Unit) .repeating default
      ()).result =
      .ok ⟨{ Routine.repeatingBody with maxStack := 1 },
        (Routine.repeatingContext converters).stretches, ⟨#[], #[]⟩⟩ := by
  have binds : Routine.repeating.bind default = _ := Routine.bind_of_no_declarations rfl rfl default
  have lowers : (⟨.standard converters, ⟨#[], #[]⟩, false, .ignoring⟩ : LowerContext Unit).listing
      Routine.repeating.graph ⟨Routine.repeating.graph.supply, ()⟩ =
        .ok ⟨Routine.repeatingLines, (Routine.repeatingContext converters).stretches⟩
          ⟨⟨⟨7⟩⟩, ()⟩ := rfl
  -- the whole code is shorter than the reach of the branch
  have settled : (standard converters).settle Routine.repeatingLines = Routine.repeatingLines :=
    relax_of_inReach Routine.distinctLabels_repeatingLines (.of_totalWidth_le (by decide))
  have bounded : (standard converters).boundBody false Routine.repeatingBody =
      .ok { Routine.repeatingBody with maxStack := 1 } := by
    refine Fallible.bind_eq_ok.2 ⟨1, ?_, rfl⟩
    rw [Routine.stackDepth_repeatingBody]
    rfl
  exact regenerate_of_steps binds lowers
    (complete_of_steps settled (Routine.handlers_repeatingContext converters) bounded)

/-- The routine is finished, and has no fault of the four sorts, although its code goes round in
    circles and is entered at two places. -/
theorem Config.regenerate_balanced_repeating :
    let outcome := ((Config.standard (Converters.importFrom "Runtime" .initial).1).regenerate
      (.ignoring : FlagsLowering Unit) .repeating default ()).result
    (∃ g, outcome = .ok g ∧ g.body.maxStack = 1) ∧
    (∀ label, outcome ≠ .error (.body (.stackUnderflow label))) ∧
    (∀ label expected found, outcome ≠ .error (.body (.inconsistentDepth label expected found))) ∧
    (∀ label depth, outcome ≠ .error (.body (.valuesAtReturn label depth))) ∧
    ∀ label, outcome ≠ .error (.body (.unknownLine label)) := by
  refine ⟨⟨_, regenerate_repeating _, rfl⟩, ?_⟩
  refine regenerate_balanced Routine.balanced_repeating Routine.leadsToNodes_repeating ?_
    ⟨"Runtime", .initial, rfl⟩
  intro region mem
  obtain rfl := Array.mem_singleton.1 mem
  exact .inr rfl

end Devirt
