import ClusterBilling.Billing.Interleaved
import ClusterBilling.Proofs.OrderedMap

/-!
# What an inventory was asked for

An inventory that notes its calls only ever adds to its notes, the latest call last. Which calls are
added is known step by step: one for each call that is made (`NotesOnly.noteCall`), and those of
several steps behind each other (`NotedSince.trans`). So **laying out a cluster asks for lists and
for nothing else** (`Inventory.notesOnly_layout`), call by call or at once: no cluster is described.
-/

namespace ClusterBilling

/-- Whether a call asks for a list. -/
def InventoryCall.IsList : InventoryCall → Prop
  | .describe _ => False
  | .groups _ | .fleets _ | .instances _ _ _ => True

theorem InventoryCall.IsList.ne_describe {call : InventoryCall} (isList : call.IsList)
    (cluster : ClusterId) : call ≠ .describe cluster := by
  rintro rfl
  exact isList

/-- Whether calls were noted behind others, all of them of some kind. -/
def NotedSince (kind : InventoryCall → Prop) (before after : List InventoryCall) : Prop :=
  ∃ calls, after = before ++ calls ∧ ∀ call ∈ calls, kind call

namespace NotedSince

variable {kind kind' : InventoryCall → Prop} {before between after : List InventoryCall}

theorem of_eq (same : after = before) : NotedSince kind before after :=
  ⟨[], by rw [same, List.append_nil], nofun⟩

theorem trans (first : NotedSince kind before between) (second : NotedSince kind between after) :
    NotedSince kind before after := by
  obtain ⟨calls, rfl, own⟩ := first
  obtain ⟨more, rfl, own'⟩ := second
  refine ⟨calls ++ more, List.append_assoc .., ?_⟩
  intro call mem
  exact (List.mem_append.mp mem).elim (own call) (own' call)

theorem mono (noted : NotedSince kind before after) (wider : ∀ call, kind call → kind' call) :
    NotedSince kind' before after := by
  obtain ⟨calls, rfl, own⟩ := noted
  exact ⟨calls, rfl, fun call mem => wider call (own call mem)⟩

end NotedSince

section Steps

variable {ι β γ : Type} {kind : InventoryCall → Prop}

/-- Whether a step notes calls of some kind only, whatever state it is in. -/
def NotesOnly (kind : InventoryCall → Prop)
    (step : ι × List InventoryCall → β × (ι × List InventoryCall)) : Prop :=
  ∀ s, NotedSince kind s.2 (step s).2.2

namespace NotesOnly

theorem answer (b : β) : NotesOnly kind (Asked.answer b : Asked (ι × List InventoryCall) β) :=
  fun _ => .of_eq rfl

theorem andThen {first : Asked (ι × List InventoryCall) β}
    {next : β → Asked (ι × List InventoryCall) γ} (notes : NotesOnly kind first)
    (after : ∀ b, NotesOnly kind (next b)) : NotesOnly kind (first.andThen next) := by
  intro s
  have begun := notes s
  unfold Asked.andThen
  split
  · next b s' answered =>
    rw [answered] at begun
    exact begun.trans (after b s')
  · next fault s' failed =>
    rw [failed] at begun
    exact begun

theorem each {ask : β → Asked (ι × List InventoryCall) γ} (notes : ∀ b, NotesOnly kind (ask b))
    (all : List β) : NotesOnly kind (Asked.each ask all) := by
  induction all with
  | nil => exact answer []
  | cons b rest ih => exact (notes b).andThen fun c => ih.andThen fun cs => answer (c :: cs)

/-- A call that is noted is the only one that is. -/
theorem noteCall {call : InventoryCall} (own : kind call) (ask : Asked ι β) :
    NotesOnly kind (Inventory.noteCall call ask) := by
  intro s
  refine ⟨[call], rfl, ?_⟩
  intro other mem
  rwa [List.mem_singleton.mp mem]

end NotesOnly

end Steps

namespace Inventory

variable {ι : Type} (inventory : Inventory ι) (cluster : ClusterId)

theorem notesOnly_parts : NotesOnly InventoryCall.IsList (inventory.noted.parts cluster) := by
  have groups : NotesOnly InventoryCall.IsList (inventory.noted.groups cluster) :=
    .noteCall trivial _
  have fleets : NotesOnly InventoryCall.IsList (inventory.noted.fleets cluster) :=
    .noteCall trivial _
  intro s
  have listed := groups s
  unfold parts
  split
  · next answered => rwa [answered] at listed
  · next s' refused =>
    rw [refused] at listed
    exact listed.trans (fleets.andThen (fun _ => .answer _) s')
  · next failed => rwa [failed] at listed

theorem notesOnly_withInstances (listing : Listing) (group : ResourceGroup) :
    NotesOnly InventoryCall.IsList (inventory.noted.withInstances cluster listing group) :=
  NotesOnly.andThen (.noteCall trivial _) fun _ => .answer _

/-- **Laying out a cluster asks for lists only.** -/
theorem notesOnly_layout : NotesOnly InventoryCall.IsList (inventory.noted.layout cluster) := by
  apply (notesOnly_parts inventory cluster).andThen
  rintro ⟨listing, groups⟩
  exact .each (inventory.notesOnly_withInstances cluster listing) groups

/-- So does one call of it. -/
theorem notesOnly_layoutCall (layout : LayoutStage) :
    NotesOnly InventoryCall.IsList (inventory.noted.layoutCall cluster layout) := by
  cases layout with
  | groups =>
    intro s
    have listed : NotesOnly InventoryCall.IsList (inventory.noted.groups cluster) :=
      .noteCall trivial _
    have noted := listed s
    unfold layoutCall
    dsimp only
    split <;> next answered => rwa [answered] at noted
  | fleets => exact NotesOnly.andThen (.noteCall trivial _) fun _ => .answer _
  | instances listing listed left =>
    cases left with
    | nil => exact .answer _
    | cons group left =>
      exact (inventory.notesOnly_withInstances cluster listing group).andThen fun _ => .answer _

/-- And so does the rest of it. -/
theorem notesOnly_layoutFrom (layout : LayoutStage) :
    NotesOnly InventoryCall.IsList (inventory.noted.layoutFrom cluster layout) := by
  cases layout with
  | groups => exact inventory.notesOnly_layout cluster
  | fleets =>
    exact NotesOnly.andThen (.noteCall trivial _) fun fleets =>
      .each (inventory.notesOnly_withInstances cluster .fleets) fleets
  | instances listing listed left =>
    exact (NotesOnly.each (inventory.notesOnly_withInstances cluster listing) left).andThen
      fun _ => .answer _

end Inventory

end ClusterBilling
