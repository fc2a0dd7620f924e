import Devirt.Proofs.Lowering.Stretches

/-!
# Instructions of Lowered Code

Every instruction of lowered code comes from one of four places: a template that has passed its
check, the few instructions that lowering adds, the functions that update flags, or an anchor. So a
property that all of these have is a property of the whole listing. Two properties matter later:
that operands have the right form, and that branches lead to anchors.

Main statements:
- `LowerContext.forall_listing`: the general principle.
- `LowerContext.isWellFormed_listing`: operands of listings have the right form.
- `LowerContext.leadsToNodes_listing`: branches of listings lead to nodes.
-/

namespace Devirt

variable {σ : Type} {c : LowerContext σ}

/-! ## §1 Where instructions come from -/

/-- The functions that update flags give lines of the arguments, and instructions with the property
    if those of the operation have it. -/
def FlagsLowering.Preserves (flags : FlagsLowering σ) (P : Instruction → Prop) : Prop :=
  ∀ given is s code s', flags.Gives given is s code s' → (∀ i ∈ is, P i) →
    ∀ line ∈ code, line ∈ given ∨ P line.instruction

/-- A property of instructions that are put in sequence is one of the code. -/
theorem sequential_forall (P : Instruction → Prop) :
    Sequential (σ := σ) P fun _ code _ => ∀ line ∈ code, P line.instruction where
  nothing _ := by simp
  line _ _ sound := by simpa using sound
  append _ _ _ _ _ first second line mem := by
    rcases Array.mem_append.1 mem with mem | mem
    · exact first line mem
    · exact second line mem

theorem FlagsLowering.Preserves.compositional {flags : FlagsLowering σ} {P : Instruction → Prop}
    (h : flags.Preserves P) :
    Compositional flags P fun _ code _ => ∀ line ∈ code, P line.instruction where
  toSequential := sequential_forall P
  update _ _ _ _ _ _ before operator called line mem := by
    rcases h _ _ _ _ _ called operator line mem with old | new
    · exact before line old
    · exact new

/-- A property of anchors, of added instructions and of the instructions of templates is one of all
    instructions of a listing. -/
theorem LowerContext.forall_listing {P : Instruction → Prop} (flags : c.flags.Preserves P)
    (anchor : P .anchor) (own : ∀ i, c.Adds i → P i) {g : Graph}
    (templates : ∀ i, g.Carries i → i.isWellFormed = true → P i) {l : Listing} {s s' : Emission σ}
    (h : c.listing g s = .ok l s') : ∀ line ∈ l.lines, P line.instruction := by
  -- node by node: an anchor, and behind it what statements are lowered to
  refine (listing_induction (P := fun l _ => ∀ line ∈ l.lines, P line.instruction) h
    (by simp [Listing.empty]) ?_).1
  intro l s node code s' mem _ before lowered line inside
  obtain ⟨rest, rfl, sound⟩ := flags.compositional.block own
    (fun statement mem' i carried => templates i ⟨node, mem, statement, mem', carried⟩) lowered
  rcases Array.mem_append.1 inside with old | new
  · exact before line old
  · rcases Array.mem_append.1 new with first | later
    · obtain rfl := Array.mem_singleton.1 first
      exact anchor
    · exact sound line later

/-! ## §2 Operands of the right form -/

/-- Places of variables are operands for the opcodes on local variables and arguments. -/
theorem Binding.operand_eq_ok {b : Binding} {ref : Ref} {operand : Operand}
    (h : b.operand ref = .ok operand) :
    match ref with
    | .var _ => ∃ slot, operand = .localSlot slot
    | .arg _ => ∃ slot, operand = .argumentSlot slot := by
  unfold Binding.operand at h
  -- a place that is found has the form that belongs to its sort
  cases ref with
  | var index =>
    cases found : b.slots[index]? with
    | none => simp [found] at h
    | some slot =>
      simp only [found, Option.map_some, Except.ok.injEq] at h
      exact ⟨slot, h.symm⟩
  | arg index =>
    cases found : b.arguments[index]? with
    | none => simp [found] at h
    | some slot =>
      simp only [found, Option.map_some, Except.ok.injEq] at h
      exact ⟨slot, h.symm⟩

/-- The instructions that lowering adds have operands of the right form, which are no targets. -/
theorem LowerContext.Adds.sound {i : Instruction} (h : c.Adds i) :
    i.isWellFormed = true ∧ i.operand.targets = [] := by
  cases h with
  | load found | address found | store found =>
    rename_i ref operand
    have form := Binding.operand_eq_ok found
    cases ref <;> obtain ⟨slot, rfl⟩ := form <;> exact ⟨rfl, rfl⟩
  | drop => exact ⟨rfl, rfl⟩
  -- a value is unboxed, or goes through one of the conversions
  | convert mem =>
    unfold Converters.instructions at mem
    split at mem
    · obtain rfl := List.mem_singleton.1 mem
      exact ⟨rfl, rfl⟩
    · simp only [List.mem_cons, List.not_mem_nil, or_false] at mem
      rcases mem with rfl | rfl | rfl <;> exact ⟨rfl, rfl⟩

/-- All operands of a listing have the right form: templates are checked before they are used. -/
theorem LowerContext.isWellFormed_listing (flags : c.flags.Preserves (·.isWellFormed = true))
    {g : Graph} {l : Listing} {s s' : Emission σ} (h : c.listing g s = .ok l s') :
    ∀ line ∈ l.lines, line.instruction.isWellFormed = true :=
  forall_listing flags rfl (fun _ added => added.sound.1) (fun _ _ sound => sound) h

/-! ## §3 Branches to nodes -/

/-- Control passes from the instruction to nodes of the graph, or to the next line. -/
def Graph.LeadsToNodes (g : Graph) (i : Instruction) : Prop :=
  ∀ target ∈ i.operand.targets, ∃ node, node < g.nodes.size ∧ target = Graph.anchorOf node

/-- If templates and the functions that update flags branch to nodes only, so does the listing. -/
theorem LowerContext.leadsToNodes_listing {g : Graph} (flags : c.flags.Preserves g.LeadsToNodes)
    (templates : ∀ i, g.Carries i → g.LeadsToNodes i) {l : Listing} {s s' : Emission σ}
    (h : c.listing g s = .ok l s') : ∀ line ∈ l.lines, g.LeadsToNodes line.instruction := by
  refine forall_listing flags ?_ (fun i added => ?_) (fun i carried _ => templates i carried) h
  · simp [Graph.LeadsToNodes, Instruction.anchor, Instruction.plain, Operand.targets]
  · simp [Graph.LeadsToNodes, added.sound.2]

end Devirt
