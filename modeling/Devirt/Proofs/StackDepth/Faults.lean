import Devirt.Proofs.StackDepth.Soundness

/-!
# Faults of the Stack Analysis

The stack analysis gives no bound for a body for one of a few reasons, and each of them is a fact
about the places that execution can reach, not about the walk that came across it. A walk only ever
visits or keeps places that can be reached, so what goes wrong in a step goes wrong on a real path.
The other way round, a walk that comes to its end has been everywhere, so no reason has escaped it.

Main statements:
- `Body.StackFault`: the reasons.
- `Body.stackFault_of_stackDepth`: what it means that a body has no stack bound.
- `Body.not_stackFault_of_stackDepth`: what it means that it has one.
- `Body.stackDepth_fails_for_reason`: both together.
-/

namespace Devirt

variable {b : Body} {returnsValue : Bool}

/-! ## §1 The reasons -/

/-- The reasons why a body has no stack bound. -/
inductive Body.StackFault (b : Body) (returnsValue : Bool) : BodyError → Prop where
  /-- A line that can be reached takes more values than there are. -/
  | underflow {place : Place} {line : Line} : b.Reaches returnsValue place →
      b.lines[place.position]? = some line →
      (line.instruction.stackUse returnsValue).takes.remaining? place.depth = none →
      StackFault b returnsValue (.stackUnderflow line.label)
  /-- A return that can be reached leaves values besides its result. -/
  | excess {place : Place} {line : Line} {rest : Nat} : b.Reaches returnsValue place →
      b.lines[place.position]? = some line →
      (line.instruction.stackUse returnsValue).takes.remaining? place.depth = some rest →
      line.instruction.isReturn = true → rest ≠ 0 →
      StackFault b returnsValue (.valuesAtReturn line.label rest)
  /-- A line can be reached with two depths. -/
  | conflict {position expected found : Nat} {line : Line} :
      b.Reaches returnsValue ⟨position, expected⟩ → b.Reaches returnsValue ⟨position, found⟩ →
      expected ≠ found → b.lines[position]? = some line →
      StackFault b returnsValue (.inconsistentDepth line.label expected found)
  /-- A line that can be reached has a target outside the body. -/
  | target {place : Place} {line : Line} {label : Label} : b.Reaches returnsValue place →
      b.lines[place.position]? = some line → label ∈ line.instruction.operand.targets →
      b.position? label = none → StackFault b returnsValue (.unknownLine label)
  /-- A handler starts outside the body. -/
  | handler {h : Handler} : h ∈ b.handlers → b.position? h.handler.start = none →
      StackFault b returnsValue (.unknownLine h.handler.start)
  /-- A filter starts outside the body. -/
  | filter {h : Handler} {start : Label} : h ∈ b.handlers → h.filterStart = some start →
      b.position? start = none → StackFault b returnsValue (.unknownLine start)
  /-- A depth that is attained is too large to be declared. -/
  | tooDeep {depth : Nat} : 0x10000 ≤ depth → b.Attains returnsValue depth →
      StackFault b returnsValue (.stackTooDeep depth)

/-! ## §2 Faults of steps -/

namespace Body

theorem resolve_eq_error {label : Label} {e : BodyError} :
    b.resolve label = .error e ↔ b.position? label = none ∧ e = .unknownLine label := by
  unfold resolve
  cases b.position? label <;> simp [eq_comm]

/-- Targets cannot be put on the stack of places if one of them is outside the body. -/
theorem pushTargets_eq_error {depth : Nat} {places : List Place} {targets : List Label}
    {e : BodyError} (h : b.pushTargets depth places targets = .error e) :
    ∃ label ∈ targets, b.position? label = none ∧ e = .unknownLine label := by
  obtain ⟨label, mem, places, failed⟩ := Fallible.exists_of_foldlM_eq_error h
  rcases Fallible.bind_eq_error.1 failed with failed | ⟨position, _, done⟩
  · exact ⟨label, mem, resolve_eq_error.1 failed⟩
  · cases done

/-- The entries of a body cannot be found if a handler or a filter starts outside the body. -/
theorem stackFault_of_entries {e : BodyError} (h : b.entries = .error e) :
    b.StackFault returnsValue e := by
  unfold entries at h
  rw [← Array.foldlM_toList] at h
  obtain ⟨handler, mem, places, failed⟩ := Fallible.exists_of_foldlM_eq_error h
  have declared := Array.mem_toList_iff.1 mem
  rcases Fallible.bind_eq_error.1 failed with failed | ⟨position, _, failed⟩
  · obtain ⟨absent, rfl⟩ := resolve_eq_error.1 failed
    exact .handler declared absent
  · dsimp only at failed
    split at failed
    next => cases failed
    next start filterStart =>
      rcases Fallible.bind_eq_error.1 failed with failed | ⟨position, _, done⟩
      · obtain ⟨absent, rfl⟩ := resolve_eq_error.1 failed
        exact .filter declared filterStart absent
      · cases done

end Body

/-- A line fails if it lacks values, or if it is a return and leaves too many. -/
theorem Line.depthAfter_eq_error {line : Line} {depth : Nat} {e : BodyError}
    (h : line.depthAfter returnsValue depth = .error e) :
    (line.instruction.stackUse returnsValue).takes.remaining? depth = none ∧
        e = .stackUnderflow line.label ∨
      ∃ rest, (line.instruction.stackUse returnsValue).takes.remaining? depth = some rest ∧
        line.instruction.isReturn = true ∧ rest ≠ 0 ∧ e = .valuesAtReturn line.label rest := by
  simp only [depthAfter] at h
  split at h
  next few => exact .inl ⟨few, (Except.error.inj h).symm⟩
  next rest enough =>
    split at h
    next excess => exact .inr ⟨rest, enough, excess.1, excess.2, (Except.error.inj h).symm⟩
    next => cases h

namespace Walk

variable {w : Walk b}

/-- A visit fails if the line does, or if one of its targets is outside the body. -/
theorem visit_eq_error {place : Place} {inside : place.position < b.length} {e : BodyError}
    (h : w.visit returnsValue place inside = .error e) :
    (b.lineAt place.position inside).depthAfter returnsValue place.depth = .error e ∨
      ∃ label ∈ (b.lineAt place.position inside).instruction.operand.targets,
        b.position? label = none ∧ e = .unknownLine label := by
  rcases Fallible.bind_eq_error.1 h with failed | ⟨depth, _, h⟩
  · exact .inl failed
  · rcases Fallible.bind_eq_error.1 h with failed | ⟨pending, _, done⟩
    · exact .inr (Body.pushTargets_eq_error failed)
    · cases done

/-- A walk that is where execution can be fails for a reason. -/
theorem stackFault_of_step (grounded : w.Grounded returnsValue) {e : BodyError}
    (h : w.step returnsValue = .error e) : b.StackFault returnsValue e := by
  unfold step at h
  -- only a walk that is at a line can fail: it visits the line, or compares depths with a record
  split at h
  next place cursor =>
    split at h
    next inside =>
      have reached := grounded.cursor place cursor inside
      have here := Body.getElem?_lines_lineAt inside
      split at h
      next unvisited =>
        split at h
        next => cases h
        next failed =>
          obtain rfl := Except.error.inj h
          rcases visit_eq_error failed with failed | ⟨label, target, absent, rfl⟩
          · rcases Line.depthAfter_eq_error failed with
              ⟨few, rfl⟩ | ⟨rest, enough, isReturn, left, rfl⟩
            · exact .underflow reached here few
            · exact .excess reached here enough isReturn left
          · exact .target reached here target absent
      next known recorded =>
        split at h
        next => cases h
        next different =>
          obtain rfl := Except.error.inj h
          -- the depth that is recorded was brought by another path
          have before : b.Reaches returnsValue ⟨place.position, known⟩ :=
            grounded.records ⟨place.position, known⟩
              (by rw [Records, Vector.getElem?_eq_getElem inside, recorded])
          exact .conflict before reached different here
    next => cases h
  next => split at h <;> cases h

end Walk

/-! ## §3 Faults of bodies -/

namespace Body

/-- A body that has no stack bound has none for a reason. -/
theorem stackFault_of_stackDepth {e : BodyError} (h : b.stackDepth returnsValue = .error e) :
    b.StackFault returnsValue e := by
  -- the entries fail, or the walk does, or its peak is too large for the header
  rcases Fallible.bind_eq_error.1 h with failed | ⟨places, entries, h⟩
  · exact stackFault_of_entries failed
  · rcases Fallible.bind_eq_error.1 h with failed | ⟨peak, finished, h⟩
    -- the walk that fails is the last one of a run that starts where execution does
    · have initial : (Walk.start b places).Grounded returnsValue :=
        (Walk.invariants_start entries).1
      obtain ⟨last, grounded, stopped⟩ := Walk.finish_invariant
        (fun w w' grounded stepped => grounded.step stepped) (Walk.start b places) initial
      rw [failed] at stopped
      exact Walk.stackFault_of_step grounded stopped
    · split at h
      next => cases h
      next large =>
        obtain rfl := Except.error.inj h
        -- the peak of a walk is attained, unless it is the one that walks start with
        obtain ⟨_, _, _, _, attained, _⟩ := Walk.finish_eq_ok entries finished
        rcases attained with rfl | attained
        · omega
        · exact .tooDeep (by omega) attained

/-- If the entries of a body are found, then its handlers and filters start in the body. -/
theorem position?_of_entries {places : List Place} (entries : b.entries = .ok places) {h : Handler}
    (declared : h ∈ b.handlers) : b.position? h.handler.start ≠ none ∧
      ∀ start, h.filterStart = some start → b.position? start ≠ none := by
  unfold Body.entries at entries
  rw [← Array.foldlM_toList] at entries
  obtain ⟨before, after, pushed⟩ :=
    Fallible.exists_of_foldlM_eq_ok entries h (Array.mem_toList_iff.2 declared)
  obtain ⟨position, handler, pushed⟩ := Fallible.bind_eq_ok.1 pushed
  refine ⟨by simp [resolve_eq_ok.1 handler], fun start filterStart => ?_⟩
  simp only [filterStart] at pushed
  obtain ⟨position', filter, _⟩ := Fallible.bind_eq_ok.1 pushed
  simp [resolve_eq_ok.1 filter]

/-- If a body has a stack bound, there is no reason against it. -/
theorem not_stackFault_of_stackDepth {m : UInt16} (h : b.stackDepth returnsValue = .ok m)
    (e : BodyError) : ¬b.StackFault returnsValue e := by
  obtain ⟨places, entries, finished⟩ := stackDepth_eq_ok h
  obtain ⟨last, covers, bounds, peak, _, records⟩ := Walk.finish_eq_ok entries finished
  -- every place that can be reached has been visited, and is safe
  have safe {place : Place} {line : Line} (reached : b.Reaches returnsValue place)
      (here : b.lines[place.position]? = some line) :
      ∃ rest, (line.instruction.stackUse returnsValue).takes.remaining? place.depth = some rest ∧
        (line.instruction.isReturn = true → rest = 0) ∧
        ∀ label ∈ line.instruction.operand.targets, (b.position? label).isSome := by
    obtain ⟨_, rest, here', safe⟩ := covers.safe place ((records place).2 reached)
    obtain rfl := Option.some.inj (here.symm.trans here')
    exact ⟨rest, safe⟩
  intro fault
  -- each reason contradicts what the walk has made sure of where it lies
  cases fault with
  | underflow reached here few =>
    obtain ⟨rest, enough, _⟩ := safe reached here
    rw [few] at enough
    cases enough
  | excess reached here enough isReturn left =>
    obtain ⟨rest, enough', settled, _⟩ := safe reached here
    obtain rfl := Option.some.inj (enough.symm.trans enough')
    exact left (settled isReturn)
  | conflict reached reached' different =>
    exact different (((records _).2 reached).depth_eq ((records _).2 reached') rfl)
  | target reached here mem absent =>
    obtain ⟨_, _, _, known⟩ := safe reached here
    have inside := known _ mem
    rw [absent] at inside
    cases inside
  | handler declared absent => exact (position?_of_entries entries declared).1 absent
  | filter declared filterStart absent =>
    exact (position?_of_entries entries declared).2 _ filterStart absent
  | tooDeep large attained =>
    have small := m.toNat_lt
    obtain ⟨place, line, reached, here, before | behind⟩ := attained
    · have bounded := bounds.before place ((records place).2 reached)
      omega
    · have bounded := bounds.behind place line _ ((records place).2 reached) here behind
      omega

/-- The stack analysis fails for one of the reasons, and it fails only if there is one: each fault
    that it reports is met on a path that execution can take, and if no path meets a fault then the
    body has a stack bound. The size of the code is no reason. -/
theorem stackDepth_fails_for_reason :
    (∀ e, b.stackDepth returnsValue = .error e →
      b.StackFault returnsValue e ∧ ∀ size, e ≠ .codeTooLong size) ∧
    ((∃ m, b.stackDepth returnsValue = .ok m) ↔ ∀ e, ¬b.StackFault returnsValue e) := by
  refine ⟨fun e failed => ?_, ?_, fun none => ?_⟩
  · have reason := stackFault_of_stackDepth failed
    refine ⟨reason, ?_⟩
    rintro size rfl
    cases reason
  · rintro ⟨m, bounded⟩
    exact not_stackFault_of_stackDepth bounded
  · cases outcome : b.stackDepth returnsValue with
    | ok m => exact ⟨m, rfl⟩
    | error e => exact absurd (stackFault_of_stackDepth outcome) (none e)

/-- A loop that leaves one more value on the stack each time. -/
def climbing : Body :=
  ofLines #[⟨⟨0⟩, .plain .ldcI41⟩, ⟨⟨1⟩, ⟨.brS, .target ⟨0⟩⟩⟩]

theorem stackDepth_climbing :
    climbing.stackDepth false = .error (.inconsistentDepth ⟨0⟩ 0 1) := by
  have back : climbing.position? ⟨0⟩ = some 0 := by
    rw [climbing, position?_eq_some_iff_of_distinct (by rw [lines_ofLines]; decide), lines_ofLines]
    rfl
  have targets : climbing.pushTargets 1 [] [⟨0⟩] = .ok [⟨0, 1⟩] :=
    pushTargets_eq_ok.2 ⟨[0], by rw [List.map_singleton, back]; rfl, rfl⟩
  have branches : Walk.visit (b := climbing) false ⟨#v[some 0, none], 1, some ⟨1, 1⟩, []⟩ ⟨1, 1⟩
      (by decide) = .ok ⟨#v[some 0, some 1], 1, none, [⟨0, 1⟩]⟩ :=
    Fallible.bind_eq_ok.2 ⟨1, rfl, Fallible.bind_eq_ok.2 ⟨_, targets, rfl⟩⟩
  have failed : (Walk.start climbing [⟨0, 0⟩]).finish false =
      .error (.inconsistentDepth ⟨0⟩ 0 1) := by
    -- the walk takes up the entry, loads the constant, branches, and comes to the constant again
    iterate 2 rw [Walk.finish_of_step rfl]
    refine (Walk.finish_of_step (Walk.step_of_visit rfl rfl branches)).trans ?_
    rw [Walk.finish_of_step rfl]
    exact Walk.finish_of_error rfl
  exact Fallible.bind_eq_error.2 (.inr ⟨[⟨0, 0⟩], rfl, Fallible.bind_eq_error.2 (.inl failed)⟩)

/-- The loop has no stack bound, since its first line is reached with two depths. -/
theorem stackDepth_fails_for_reason_climbing :
    climbing.stackDepth false = .error (.inconsistentDepth ⟨0⟩ 0 1) ∧
      climbing.StackFault false (.inconsistentDepth ⟨0⟩ 0 1) :=
  ⟨stackDepth_climbing, (stackDepth_fails_for_reason.1 _ stackDepth_climbing).1⟩

end Body

end Devirt
