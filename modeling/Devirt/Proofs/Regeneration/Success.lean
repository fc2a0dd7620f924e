import Devirt.Proofs.Lowering.Binding
import Devirt.Proofs.Lowering.Instructions
import Devirt.Proofs.Lowering.Labels
import Devirt.Proofs.Regions.Handlers
import Devirt.Proofs.Relaxation.Least
import Devirt.Regeneration

/-!
# Successful Regeneration

What a finished method body has in common with the listing that it was made from. The lines are
those of the listing, apart from branches that were relaxed, so labels, positions and stretches stay
what they were. The handlers are those of the regions, resolved in the finished lines.

Main statements:
- `Config.regenerate_eq_ok`: the steps behind a finished body.
- `Config.tiled_regenerate`: its stretches tile its lines.
- `Config.distinctLabels_regenerate`: its labels are different.
-/

namespace Devirt

variable {σ : Type}

/-! ## §1 Steps of a regeneration -/

/-- The lines of a listing as they are laid out. -/
def Config.settle (config : Config) (lines : Array Line) : Array Line :=
  if config.relaxBranches then (relax lines).1 else lines

theorem Config.widening_settle (config : Config) (lines : Array Line) :
    Widening lines.toList (config.settle lines).toList := by
  unfold settle
  split
  · exact widening_relax lines
  · exact .refl _

/-- Bounding the evaluation stack changes nothing else. -/
theorem Config.boundBody_eq_ok {config : Config} {returnsValue : Bool} {b b' : Body}
    (h : config.boundBody returnsValue b = .ok b') :
    ∃ maxStack, b' = { b with maxStack := maxStack } := by
  unfold boundBody at h
  -- the bound is computed, or left as it is
  split at h
  next =>
    obtain ⟨maxStack, _, done⟩ := Fallible.bind_eq_ok.1 h
    exact ⟨maxStack, (Fallible.pure_eq_ok.1 done).symm⟩
  next => exact ⟨b.maxStack, (Fallible.pure_eq_ok.1 h).symm⟩

/-- The body of a lowered graph has the laid out lines, with handlers for the regions. -/
theorem Config.complete_eq_ok {config : Config} {returnsValue : Bool} {graph : Graph} {l : Listing}
    {b : Body} (h : config.complete returnsValue graph l = .ok b) :
    b.lines = (config.settle l.lines).toList ∧
      RegionContext.handlers ⟨graph, l.stretches, .ofLines (config.settle l.lines), config⟩ =
        .ok b.handlers := by
  obtain ⟨handlers, resolved, bounded⟩ := Fallible.bind_eq_ok.1 h
  obtain ⟨maxStack, rfl⟩ := boundBody_eq_ok bounded
  exact ⟨Body.lines_ofLines _, resolved⟩

/-- The steps behind a finished body: a listing of the graph, its lines laid out, and handlers for
    the regions. -/
theorem Config.regenerate_eq_ok {config : Config} {flags : FlagsLowering σ} {r : Routine}
    {m : Method} {state : σ} {g : Regenerated}
    (h : (config.regenerate flags r m state).result = .ok g) :
    ∃ (binding : Binding) (returnsValue : Bool) (l : Listing) (s' : Emission σ),
      (⟨config, binding, returnsValue, flags⟩ : LowerContext σ).listing r.graph
        ⟨r.graph.supply, state⟩ = .ok l s' ∧
      g.stretches = l.stretches ∧ g.body.lines = (config.settle l.lines).toList ∧
      RegionContext.handlers ⟨r.graph, l.stretches, .ofLines (config.settle l.lines), config⟩ =
        .ok g.body.handlers := by
  -- each stage has succeeded, or there would be no body
  unfold regenerate at h
  split at h
  next => cases h
  next binding bound _ =>
    dsimp only at h
    split at h
    next => cases h
    next l s' lowered =>
      split at h
      next => cases h
      next body completed =>
        obtain rfl := Except.ok.inj h
        obtain ⟨lines, handlers⟩ := complete_eq_ok completed
        exact ⟨binding, bound.returnsValue, l, s', lowered, rfl, lines, handlers⟩

/-- A routine without variables and parameters leaves the method as it is. -/
theorem Routine.bind_of_no_declarations {r : Routine} (noVars : r.vars = #[])
    (noParameters : r.parameters = #[]) (m : Method) : r.bind m = .ok ⟨#[], #[]⟩ m := by
  have parameters : m.parameters.mapIdx (fun _ p => p) = m.parameters := by
    ext i <;> simp
  have same : m.retype #[] = m := by
    simp [Method.retype, parameters]
  -- there is room for no variables, and there are no parameters to be missed
  refine bind_eq_ok_iff.2 ?_
  simp [noVars, noParameters, Method.nextSlots, Method.withSlots_nil, same]

/-- Settings for the standard machine that leave the evaluation stack unbounded. -/
def Config.unbounded : Config :=
  { Config.standard ⟨default, default, default⟩ with boundStack := false }

/-- A body is complete once its handlers are resolved and its stack is bounded, or left as it is. -/
theorem Config.complete_of_steps {config : Config} {returnsValue : Bool} {graph : Graph}
    {l : Listing} {lines : Array Line} {handlers : Array Handler} {b : Body}
    (settled : config.settle l.lines = lines)
    (resolved : RegionContext.handlers ⟨graph, l.stretches, .ofLines lines, config⟩ =
      .ok handlers)
    (bounded : config.boundBody returnsValue { Body.ofLines lines with handlers := handlers } =
      .ok b) : config.complete returnsValue graph l = .ok b := by
  subst settled
  exact Fallible.bind_eq_ok.2 ⟨handlers, resolved, bounded⟩

/-- A method body is finished once each step has succeeded. -/
theorem Config.regenerate_of_steps {config : Config} {flags : FlagsLowering σ} {r : Routine}
    {m bound : Method} {state : σ} {binding : Binding} {l : Listing} {s' : Emission σ} {b : Body}
    (binds : r.bind m = .ok binding bound)
    (lowers : (⟨config, binding, bound.returnsValue, flags⟩ : LowerContext σ).listing r.graph
      ⟨r.graph.supply, state⟩ = .ok l s')
    (completes : config.complete bound.returnsValue r.graph l = .ok b) :
    (config.regenerate flags r m state).result = .ok ⟨b, l.stretches, binding⟩ := by
  simp only [regenerate, binds, lowers, completes]

/-- Settings for the standard machine finish code without short branches as it was lowered, once its
    handlers are resolved. -/
theorem Config.regenerate_unbounded {flags : FlagsLowering σ} {r : Routine} {m bound : Method}
    {state : σ} {binding : Binding} {l : Listing} {s' : Emission σ} {handlers : Array Handler}
    (binds : r.bind m = .ok binding bound)
    (lowers : (⟨unbounded, binding, bound.returnsValue, flags⟩ : LowerContext σ).listing r.graph
      ⟨r.graph.supply, state⟩ = .ok l s')
    (distinct : DistinctLabels l.lines.toList)
    (long : ∀ line ∈ l.lines.toList, line.isShort = false)
    (resolved : RegionContext.handlers ⟨r.graph, l.stretches, .ofLines l.lines, unbounded⟩ =
      .ok handlers) :
    (unbounded.regenerate flags r m state).result =
      .ok ⟨{ Body.ofLines l.lines with handlers := handlers }, l.stretches, binding⟩ :=
  regenerate_of_steps binds lowers
    (complete_of_steps (relax_of_inReach distinct (.of_not_isShort long)) resolved rfl)

/-! ## §2 Finished lines -/

/-- A line of a widening is that of the original at the same position, unless it is a branch. -/
theorem Widening.getElem?_of_not_isShort {lines code : List Line} (h : Widening lines code)
    {i : Nat} {line : Line} (here : lines[i]? = some line) (long : line.isShort = false) :
    code[i]? = some line := by
  obtain ⟨wide, there, wider⟩ := h.getElem? here
  rw [there, wider.eq_of_not_isShort long]

/-- Relaxation moves no line and changes no anchor, so stretches stay stretches. -/
theorem Listing.Tiled.of_widening {l : Listing} (h : l.Tiled) {lines : Array Line}
    (widening : Widening l.lines.toList lines.toList) : (⟨lines, l.stretches⟩ : Listing).Tiled := by
  have size : lines.size = l.lines.size := by simpa using widening.length_eq.symm
  have edge : ∀ node, (⟨lines, l.stretches⟩ : Listing).edge node = l.edge node := by
    rintro (_ | node)
    · rfl
    · simp only [Listing.edge, size]
  have label : ∀ i : Nat, lines[i]?.map Line.label = l.lines[i]?.map Line.label := by
    intro i
    simp only [← Array.getElem?_toList, ← List.getElem?_map, widening.map_label]
  -- an anchor is no branch, so the line that a stretch starts with stays an anchor
  refine ⟨fun node s here => ?_, by rw [edge, h.total, size]⟩
  have placed := h.places node s here
  refine ⟨placed.node_eq, placed.first_eq, ?_, placed.start_lt, ?_, ?_⟩
  · rw [edge, placed.start_eq]
  · have anchor := placed.anchor
    rw [← Array.getElem?_toList] at anchor ⊢
    exact widening.getElem?_of_not_isShort anchor rfl
  · rw [label, placed.last]

/-- The lines of a finished body with the stretches of the nodes. -/
def Regenerated.listing (g : Regenerated) : Listing :=
  ⟨g.body.lines.toArray, g.stretches⟩

/-- What the regions of the graph were resolved in. -/
def Regenerated.context (g : Regenerated) (config : Config) (graph : Graph) : RegionContext :=
  ⟨graph, g.stretches, .ofLines g.body.lines.toArray, config⟩

namespace Config

variable {config : Config} {flags : FlagsLowering σ} {r : Routine} {m : Method} {state : σ}
  {g : Regenerated}

/-- The stretches of the nodes tile the lines of a finished body. -/
theorem tiled_regenerate (h : (config.regenerate flags r m state).result = .ok g) :
    g.listing.Tiled ∧ g.stretches.size = r.graph.nodes.size := by
  obtain ⟨_, _, l, _, lowered, stretches, lines, _⟩ := regenerate_eq_ok h
  obtain ⟨tiled, size⟩ := LowerContext.tiled_listing lowered
  refine ⟨?_, by rw [stretches, size]⟩
  have final := tiled.of_widening (config.widening_settle l.lines)
  rwa [← stretches, ← (config.settle l.lines).toArray_toList, ← lines] at final

/-- If the functions that update flags take labels from the supply, then no two lines of a finished
    body carry the same label. -/
theorem distinctLabels_regenerate (draws : flags.DrawsLabels)
    (h : (config.regenerate flags r m state).result = .ok g) : DistinctLabels g.body.lines := by
  obtain ⟨binding, returnsValue, l, s', lowered, _, lines, _⟩ := regenerate_eq_ok h
  rw [lines]
  refine (config.widening_settle l.lines).distinctLabels ?_
  exact (LowerContext.labelled_listing draws lowered).distinct

/-- The handlers of a finished body are those of the regions. -/
theorem handlers_regenerate (h : (config.regenerate flags r m state).result = .ok g) :
    (g.context config r.graph).handlers = .ok g.body.handlers := by
  obtain ⟨_, _, l, _, _, stretches, lines, handlers⟩ := regenerate_eq_ok h
  rwa [Regenerated.context, stretches, lines, Array.toArray_toList]

/-! ## §3 Finished instructions -/

/-- Relaxation leaves every short branch of a finished body in reach. -/
theorem inReach_regenerate (relaxes : config.relaxBranches = true) (draws : flags.DrawsLabels)
    (h : (config.regenerate flags r m state).result = .ok g) : InReach g.body.lines := by
  obtain ⟨_, _, l, _, lowered, _, lines, _⟩ := regenerate_eq_ok h
  -- the lines are those that relaxation ends with
  rw [lines, settle, if_pos relaxes]
  exact inReach_relax (LowerContext.labelled_listing draws lowered).distinct

/-- All operands of a finished body have the right form. -/
theorem isWellFormed_regenerate (sound : flags.Preserves (·.isWellFormed = true))
    (h : (config.regenerate flags r m state).result = .ok g) :
    ∀ line ∈ g.body.lines, line.instruction.isWellFormed = true := by
  obtain ⟨_, _, l, _, lowered, _, lines, _⟩ := regenerate_eq_ok h
  intro line mem
  rw [lines] at mem
  -- a line was well-formed before relaxation, and a long form asks for the same operand
  obtain ⟨before, mem, wider⟩ := (config.widening_settle l.lines).exists_widensTo mem
  exact wider.isWellFormed
    (LowerContext.isWellFormed_listing sound lowered before (Array.mem_toList_iff.1 mem))

/-- If templates and the functions that update flags branch to nodes only, so does a finished
    body. -/
theorem leadsToNodes_regenerate (nodes : flags.Preserves r.graph.LeadsToNodes)
    (templates : ∀ i, r.graph.Carries i → r.graph.LeadsToNodes i)
    (h : (config.regenerate flags r m state).result = .ok g) :
    ∀ line ∈ g.body.lines, r.graph.LeadsToNodes line.instruction := by
  obtain ⟨_, _, l, _, lowered, _, lines, _⟩ := regenerate_eq_ok h
  intro line mem
  rw [lines] at mem
  obtain ⟨before, mem, wider⟩ := (config.widening_settle l.lines).exists_widensTo mem
  have leads :=
    LowerContext.leadsToNodes_listing nodes templates lowered before (Array.mem_toList_iff.1 mem)
  -- a long form leads where the short one does
  unfold Graph.LeadsToNodes
  rwa [wider.operand_eq]

/-- A finished body has the anchor of every node of the graph. -/
theorem exists_anchor_regenerate (h : (config.regenerate flags r m state).result = .ok g)
    {node : Nat} (inside : node < r.graph.nodes.size) :
    ∃ i, g.body.position? (Graph.anchorOf node) = some i := by
  obtain ⟨tiled, size⟩ := tiled_regenerate h
  exact tiled.exists_position?_anchor rfl (size ▸ inside)

end Config

end Devirt
