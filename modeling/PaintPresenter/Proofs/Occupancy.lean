import Mathlib.Logic.Function.Basic
import PaintPresenter.Proofs.DriverConduct
import PaintPresenter.Proofs.TextureAccount

/-!
# Objects in use by uploads

A submission that was accepted may run until a wait for the queue or for the device succeeds, and
until then it uses whatever its recordings refer to. An upload releases its command buffer and its
staging buffer, and an image that it could not finish, on one way out for all failures.
`frees_busy_iff_failedWait` says exactly when this catches an object that is still in use: when the
upload's own submission was accepted and the wait for it failed.
-/

namespace PaintPresenter.Vulkan

/-! ## Work that was accepted -/

/-- The objects that a command refers to. -/
def Command.objects : Command → List Object
  | .beginPass pass => [pass.renderPass.object, pass.framebuffer.object]
  | .endPass => []
  | .barrier change => [change.image.object]
  | .copy region => [region.buffer.object, region.image.object]

/-- The object that a call releases. -/
def DriverCall.frees? : DriverCall → Option Object
  | .release o => some o
  | .freeCommands _ buffer => some buffer.object
  | _ => none

/-- A wait for the queue that failed. -/
def failedWait {γ : Type} : Exchange Driver γ → Bool
  | ⟨.perform (.queueIdle _), .error _, _⟩ => true
  | _ => false

/-- What a driver keeps of recordings and of the work that was handed to it. -/
structure Workload where
  /-- The memory bound to a buffer or an image. -/
  bound : Object → List Object := fun _ => []
  /-- What the commands of a recording refer to. -/
  recorded : Object → List Object := fun _ => []
  /-- What work refers to that was accepted and not waited for since. -/
  busy : List Object := []

namespace Workload

/-- A new object has no past, also where it has the name of an old one. -/
def forget (s : Workload) (o : Object) : Workload where
  bound := Function.update s.bound o []
  recorded := Function.update s.recorded o []
  busy := s.busy.filter (· ≠ o)

/-- An object is bound to memory. -/
def bind (s : Workload) (o : Object) (memory : Handle .memory) : Workload :=
  { s with bound := Function.update s.bound o (memory.object :: s.bound o) }

/-- A command buffer starts over, empty. -/
def restart (s : Workload) (commands : Handle .commandBuffer) : Workload :=
  { s with recorded := Function.update s.recorded commands.object [] }

/-- A command buffer holds one more command. -/
def append (s : Workload) (commands : Handle .commandBuffer) (command : Command) : Workload :=
  { s with recorded :=
      Function.update s.recorded commands.object (command.objects ++ s.recorded commands.object) }

/-- What a command buffer uses while it runs: itself, what it refers to, and the memory of that. -/
def uses (s : Workload) (commands : Handle .commandBuffer) : List Object :=
  commands.object :: (s.recorded commands.object).flatMap fun o => o :: s.bound o

/-- What a call and its reply do. A call that fails does nothing. -/
def Effect (s : Workload) : (c : DriverCall) → c.Reply → Workload → Prop
  | .create _, .ok made, t => t = s.forget made.object
  | .perform (.bindBuffer buffer memory _), .ok (), t => t = s.bind buffer.object memory
  | .perform (.bindImage image memory _), .ok (), t => t = s.bind image.object memory
  | .perform (.resetCommands commands), .ok (), t => t = s.restart commands
  | .perform (.beginCommands commands), .ok (), t => t = s.restart commands
  | .record commands command, (), t => t = s.append commands command
  | .perform (.submit _ work), .ok (), t =>
    t = { s with busy := work.commands.flatMap s.uses ++ s.busy }
  | .perform (.queueIdle _), .ok (), t => t = { s with busy := [] }
  | .perform .deviceIdle, .ok (), t => t = { s with busy := [] }
  | _, _, t => t = s

end Workload

/-- The driver as a world in which work runs until it is waited for. -/
def occupancy : Program.World Driver Workload where
  step := Workload.Effect

/-- An upload into a new texture or into one that there is. -/
inductive Upload
  | create (pixels : PixelBuffer)
  | update (texture : SampledImage) (pixels : PixelBuffer)

/-- Makes an upload and leaves its result to nobody. -/
def Upload.run (rig : Rig) : Upload → Program Driver Unit
  | .create pixels => do
    let _ ← (SampledImage.create rig pixels).run
  | .update texture pixels => do
    let _ ← (SampledImage.update rig texture pixels).run

/-! ## What an upload knows -/

private abbrev Moment := Workload × List (Exchange Driver Workload)

-- What is released is in use exactly if a wait of the upload failed.
private def FreesAsSaid (s : Workload) (own : List (Exchange Driver Workload)) (c : DriverCall) :
    Prop :=
  ∀ o, c.frees? = some o → (o ∈ s.busy ↔ own.any failedWait = true)

private theorem freesAsSaid_of_none {s : Workload} {own : List (Exchange Driver Workload)}
    {c : DriverCall} (frees : c.frees? = none) : FreesAsSaid s own c :=
  fun _ same => absurd (frees.symm.trans same) (by simp)

private def tended : Contract Driver Moment := Contract.watched occupancy FreesAsSaid

-- No wait failed, some objects are not in use, and memory is bound as listed.
private structure Intact (objects : List Object) (bindings : List (Object × Object)) (x : Moment) :
    Prop where
  calm : x.2.any failedWait = false
  unused : ∀ o ∈ objects, o ∉ x.1.busy
  bound : ∀ b ∈ bindings, b.2 ∈ x.1.bound b.1

-- Some objects are in use exactly if a wait failed.
private def Settled (objects : List Object) (x : Moment) : Prop :=
  ∀ o ∈ objects, (o ∈ x.1.busy ↔ x.2.any failedWait = true)

-- Neither the work nor what is known of the waits has changed.
private def Alike (x y : Moment) : Prop := y.1 = x.1 ∧ y.2.any failedWait = x.2.any failedWait

variable {objects objects' : List Object} {bindings bindings' : List (Object × Object)}
  {x y z : Moment} {rig : Rig}

open Contract

private theorem Alike.trans (first : Alike x y) (second : Alike y z) : Alike x z :=
  ⟨second.1.trans first.1, second.2.trans first.2⟩

private theorem Intact.alike (h : Intact objects bindings x) (same : Alike x y) :
    Intact objects bindings y :=
  ⟨same.2.trans h.calm, same.1 ▸ h.unused, same.1 ▸ h.bound⟩

private theorem Intact.mono (h : Intact objects bindings x) (fewer : objects' ⊆ objects)
    (fewer' : bindings' ⊆ bindings) : Intact objects' bindings' x :=
  ⟨h.calm, fun o mem => h.unused o (fewer mem), fun b mem => h.bound b (fewer' mem)⟩

private theorem Intact.settled (h : Intact objects bindings x) : Settled objects x := by
  intro o mem
  simp [h.unused o mem, h.calm]

private theorem Settled.alike (h : Settled objects x) (same : Alike x y) : Settled objects y := by
  intro o mem
  rw [same.1, same.2]
  exact h o mem

private theorem alike_of_step {c : DriverCall} {reply : c.Reply} (step : tended.step x c reply y)
    (nothing : ∀ t, x.1.Effect c reply t → t = x.1)
    (calm : ∀ t : Workload, failedWait ⟨c, reply, t⟩ = false) : Alike x y := by
  obtain ⟨t, own⟩ := y
  obtain ⟨rfl, effect⟩ := watched_step.mp step
  obtain rfl := nothing t effect
  exact ⟨rfl, by simp [calm]⟩

/-! ## Calls of an upload -/

private theorem Settled.release (h : Settled objects x) {kind : ObjectKind} (handle : Handle kind)
    (mem : handle.object ∈ objects) :
    tended.Keeps (Driver.release handle) x fun _ y => Alike x y := by
  rw [keeps_release]
  constructor
  · rintro _ ⟨⟩
    exact h _ mem
  · exact fun y step => alike_of_step step (fun _ => id) fun _ => rfl

private theorem Settled.freeCommands (h : Settled objects x) (pool : Handle .commandPool)
    (commands : Handle .commandBuffer) (mem : commands.object ∈ objects) :
    tended.Keeps (Driver.freeCommands pool commands) x fun _ y => Alike x y := by
  rw [keeps_freeCommands]
  constructor
  · rintro _ ⟨⟩
    exact h _ mem
  · exact fun y step => alike_of_step step (fun _ => id) fun _ => rfl

private theorem Intact.create (h : Intact objects bindings x) (request : Creation)
    (apart : ∀ b ∈ bindings, b.1.kind ≠ request.kind) :
    tended.KeepsTask (Driver.create request) x
      (fun made y => Intact (made.object :: objects) bindings y)
      fun _ y => Intact objects bindings y := by
  rw [keepsTask_create]
  refine ⟨freesAsSaid_of_none rfl, ?_, ?_⟩
  · rintro made ⟨t, own⟩ step
    obtain ⟨rfl, rfl⟩ := watched_step.mp step
    constructor
    · simpa [failedWait] using h.calm
    · intro o mem used
      obtain ⟨used, old⟩ : o ∈ x.1.busy ∧ o ≠ made.object := by
        simpa [Workload.forget] using used
      exact h.unused o (List.mem_of_ne_of_mem old mem) used
    · intro b mem
      have other : b.1 ≠ made.object := fun same => apart b mem (by rw [same]; rfl)
      simpa [Workload.forget, Function.update_of_ne other] using h.bound b mem
  · exact fun e y step => h.alike (alike_of_step step (fun _ => id) fun _ => rfl)

private theorem Intact.bind (h : Intact objects bindings x) {operation : Operation} {o : Object}
    {memory : Handle .memory}
    (binds : ∀ t, x.1.Effect (.perform operation) (.ok ()) t → t = x.1.bind o memory)
    (fails : ∀ e t, x.1.Effect (.perform operation) (.error e) t → t = x.1)
    (calm : ∀ reply (t : Workload), failedWait ⟨.perform operation, reply, t⟩ = false) :
    tended.KeepsTask (Driver.perform operation) x
      (fun _ y => Intact objects ((o, memory.object) :: bindings) y)
      fun _ y => Intact objects bindings y := by
  rw [keepsTask_perform]
  refine ⟨freesAsSaid_of_none rfl, ?_, ?_⟩
  · rintro ⟨t, own⟩ step
    obtain ⟨rfl, effect⟩ := watched_step.mp step
    obtain rfl := binds t effect
    constructor
    · simpa [calm] using h.calm
    · exact h.unused
    · intro b mem
      by_cases here : b.1 = o
      · rcases List.mem_cons.mp mem with rfl | mem
        · simp [Workload.bind]
        · simpa [Workload.bind, here] using .inr (here ▸ h.bound b mem)
      · have mem := List.mem_of_ne_of_mem (fun same => here (congrArg Prod.fst same)) mem
        simpa [Workload.bind, Function.update_of_ne here] using h.bound b mem
  · exact fun e y step => h.alike (alike_of_step step (fails e) (calm _))

/-! ## Before anything is submitted -/

private theorem intact_allocate (h : Intact objects bindings x)
    (apart : ∀ b ∈ bindings, b.1.kind ≠ .memory) (needs : MemoryRequirements)
    (flags : MemoryFlags) :
    tended.KeepsTask (allocate rig needs flags) x
      (fun memory y => Intact (memory.object :: objects) bindings y)
      fun _ y => Intact objects bindings y := by
  unfold allocate
  cases rig.memory.typeFor? needs.typeBits flags with
  | none => exact h
  | some type => exact h.create _ apart

private theorem settled_stagingRelease (staging : StagingBuffer) (h : Settled objects x)
    (buffer : staging.buffer.object ∈ objects) (memory : staging.memory.object ∈ objects) :
    tended.Keeps staging.release x fun _ y => Alike x y := by
  unfold StagingBuffer.release
  rw [keeps_bind]
  apply (h.release _ buffer).mono
  intro _ y same
  exact ((h.alike same).release _ memory).mono fun _ _ => same.trans

private theorem settled_releaseBare {image : Handle .image} {memory : Handle .memory}
    (h : Settled objects x) (image_mem : image.object ∈ objects)
    (memory_mem : memory.object ∈ objects) :
    tended.Keeps (SampledImage.releaseBare image memory) x fun _ y => Alike x y := by
  unfold SampledImage.releaseBare
  rw [keeps_bind]
  apply (h.release _ image_mem).mono
  intro _ y same
  exact ((h.alike same).release _ memory_mem).mono fun _ _ => same.trans

private def StagingBuffer.parts (staging : StagingBuffer) : List Object :=
  [staging.memory.object, staging.buffer.object]

private theorem intact_stagingCreate (h : Intact [] [] x) (bytes : Nat) :
    tended.KeepsTask (StagingBuffer.create rig bytes) x
      (fun staging y => Intact staging.parts [(staging.buffer.object, staging.memory.object)] y)
      fun _ _ => True := by
  unfold StagingBuffer.create
  rw [keepsTask_bind]
  refine (h.create _ (List.forall_mem_nil _)).mono (fun buffer y h => ?_) fun _ _ _ => trivial
  rw [keepsTask_bind, keepsTask_liftM, keeps_bufferNeeds]
  refine ⟨freesAsSaid_of_none rfl, fun needs y step => ?_⟩
  have h := h.alike (alike_of_step step (fun _ => id) fun _ => rfl)
  rw [keepsTask_bind, keepsTask_undoing]
  apply (intact_allocate h (List.forall_mem_nil _) needs _).mono
  · intro memory y h
    rw [keepsTask_bind, keepsTask_undoing]
    apply (h.bind (fun _ => id) (fun _ _ => id) fun _ _ => rfl).mono
    · exact fun _ _ h => h
    · intro _ y h
      exact (settled_stagingRelease _ h.settled (by simp) (by simp)).mono fun _ _ _ => trivial
  · intro _ y h
    exact (h.settled.release _ (by simp)).mono fun _ _ _ => trivial

private theorem intact_fill {staging : StagingBuffer} (h : Intact objects bindings x)
    (pixels : PixelBuffer) :
    tended.KeepsTask (staging.fill pixels) x (fun _ y => Intact objects bindings y)
      fun _ y => Intact objects bindings y := by
  unfold StagingBuffer.fill
  rw [keepsTask_bind, keepsTask_perform]
  refine ⟨freesAsSaid_of_none rfl, fun y mapped => ?_, fun e y step => ?_⟩
  · have h := h.alike (alike_of_step mapped (fun _ => id) fun _ => rfl)
    simp only [keepsTask_bind, keepsTask_liftM, keeps_store, keeps_unmap]
    refine ⟨freesAsSaid_of_none rfl, fun y stored =>
      ⟨freesAsSaid_of_none rfl, fun y unmapped => ?_⟩⟩
    have h := h.alike (alike_of_step stored (fun _ => id) fun _ => rfl)
    exact h.alike (alike_of_step unmapped (fun _ => id) fun _ => rfl)
  · exact h.alike (alike_of_step step (fun _ => id) fun _ => rfl)

private theorem intact_ofPixels (h : Intact [] [] x) (pixels : PixelBuffer) :
    tended.KeepsTask (StagingBuffer.ofPixels rig pixels) x
      (fun staging y => Intact staging.parts [(staging.buffer.object, staging.memory.object)] y)
      fun _ _ => True := by
  unfold StagingBuffer.ofPixels
  rw [keepsTask_bind]
  refine (intact_stagingCreate h _).mono (fun staging y h => ?_) fun _ _ => id
  rw [keepsTask_bind, keepsTask_undoing]
  apply (intact_fill h pixels).mono
  · exact fun _ _ h => h
  · intro _ y h
    have freed := settled_stagingRelease staging h.settled
      (by simp [StagingBuffer.parts]) (by simp [StagingBuffer.parts])
    exact freed.mono fun _ _ _ => trivial

private theorem intact_createBare (h : Intact objects bindings x)
    (apart : ∀ b ∈ bindings, b.1.kind = .buffer) (extent : Extent) :
    tended.KeepsTask (SampledImage.createBare rig extent) x
      (fun made y => Intact (made.2.object :: made.1.object :: objects)
        ((made.1.object, made.2.object) :: bindings) y)
      fun _ y => Intact objects bindings y := by
  have apart (kind : ObjectKind) (other : kind ≠ .buffer) : ∀ b ∈ bindings, b.1.kind ≠ kind :=
    fun b mem same => other (same.symm.trans (apart b mem))
  unfold SampledImage.createBare
  rw [keepsTask_bind]
  refine (h.create (.image { format := textureFormat, extent }) (apart .image (by decide))).mono
    (fun image y h => ?_) fun _ _ => id
  rw [keepsTask_bind, keepsTask_liftM, keeps_imageNeeds]
  refine ⟨freesAsSaid_of_none rfl, fun needs y step => ?_⟩
  have h := h.alike (alike_of_step step (fun _ => id) fun _ => rfl)
  rw [keepsTask_bind, keepsTask_undoing]
  apply (intact_allocate h (apart .memory (by decide)) needs _).mono
  · intro memory y h
    rw [keepsTask_bind, keepsTask_undoing]
    apply (h.bind (fun _ => id) (fun _ _ => id) fun _ _ => rfl).mono
    · exact fun _ _ h => h
    · intro _ y h
      apply (settled_releaseBare h.settled (by simp) (by simp)).mono
      intro _ z same
      exact (h.alike same).mono (by simp) (List.Subset.refl _)
  · intro _ y h
    apply (h.settled.release _ (by simp)).mono
    intro _ z same
    exact (h.alike same).mono (by simp) (List.Subset.refl _)

/-! ## Copies -/

private def Lists (commands : Handle .commandBuffer) (objects : List Object) (x : Moment) : Prop :=
  ∀ o ∈ objects, o ∈ x.1.recorded commands.object

private theorem Intact.begin (h : Intact objects bindings x) (commands : Handle .commandBuffer) :
    tended.KeepsTask (Driver.perform (.beginCommands commands)) x
      (fun _ y => Intact objects bindings y) fun _ y => Intact objects bindings y := by
  rw [keepsTask_perform]
  refine ⟨freesAsSaid_of_none rfl, ?_, ?_⟩
  · rintro ⟨t, own⟩ step
    obtain ⟨rfl, rfl⟩ := watched_step.mp step
    exact ⟨by simpa [failedWait] using h.calm, h.unused, h.bound⟩
  · exact fun e y step => h.alike (alike_of_step step (fun _ => id) fun _ => rfl)

private theorem Intact.record (h : Intact objects bindings x) {listed : List Object}
    {commands : Handle .commandBuffer} (lists : Lists commands listed x) (command : Command) :
    tended.Keeps (Driver.record commands command) x fun _ y =>
      Intact objects bindings y ∧ Lists commands (command.objects ++ listed) y := by
  rw [keeps_record]
  refine ⟨freesAsSaid_of_none rfl, ?_⟩
  rintro ⟨t, own⟩ step
  obtain ⟨rfl, rfl⟩ := watched_step.mp step
  refine ⟨⟨by simpa [failedWait] using h.calm, h.unused, h.bound⟩, fun o mem => ?_⟩
  have found := (List.mem_append.mp mem).imp_right (lists o)
  simpa [Workload.append] using found

private theorem intact_changeLayout (h : Intact objects bindings x) {listed : List Object}
    {commands : Handle .commandBuffer} (lists : Lists commands listed x) (image : Handle .image)
    (old new : ImageLayout) :
    tended.KeepsTask (changeLayout commands image old new) x
      (fun _ y => Intact objects bindings y ∧ Lists commands listed y)
      fun _ y => Intact objects bindings y := by
  unfold changeLayout
  cases LayoutChange.between? old new with
  | none => exact h
  | some change =>
    rw [keepsTask_liftM]
    exact (h.record lists _).mono fun _ _ ⟨h, lists⟩ =>
      ⟨h, fun o mem => lists o (List.mem_append_right _ mem)⟩

private theorem intact_recordCopy (h : Intact objects bindings x) (commands : Handle .commandBuffer)
    (staging : StagingBuffer) (image : Handle .image) (extent : Extent) (old : ImageLayout) :
    tended.KeepsTask (recordCopy commands staging image extent old) x
      (fun _ y => Intact objects bindings y ∧
        Lists commands [staging.buffer.object, image.object] y)
      fun _ y => Intact objects bindings y := by
  simp only [recordCopy, keepsTask_bind, keepsTask_liftM]
  refine (h.begin commands).mono (fun _ y h => ?_) fun _ _ => id
  have unlisted : Lists commands [] y := List.forall_mem_nil _
  refine (intact_changeLayout h unlisted ..).mono (fun _ y begun => ?_) fun _ _ => id
  apply (begun.1.record begun.2 _).mono
  rintro _ y ⟨h, lists⟩
  refine (intact_changeLayout h lists ..).mono (fun _ y copied => ?_) fun _ _ => id
  rw [keepsTask_perform]
  refine ⟨freesAsSaid_of_none rfl, fun z step => ?_, fun e z step => ?_⟩
  · have same := alike_of_step step (fun _ => id) fun _ => rfl
    refine ⟨copied.1.alike same, fun o mem => ?_⟩
    rw [same.1]
    exact copied.2 o mem
  · exact copied.1.alike (alike_of_step step (fun _ => id) fun _ => rfl)

-- Work that was accepted uses what its recording lists, and the memory of that.
private theorem Intact.submit (h : Intact objects bindings x) {commands : Handle .commandBuffer}
    {listed : List Object} (lists : Lists commands listed x) (queue : Handle .queue)
    (needed : ∀ o ∈ objects, o = commands.object ∨ o ∈ listed ∨
      ∃ b ∈ bindings, b.1 ∈ listed ∧ b.2 = o) :
    tended.KeepsTask (Driver.perform (.submit queue { commands := [commands] })) x
      (fun _ y => y.2.any failedWait = false ∧ ∀ o ∈ objects, o ∈ y.1.busy)
      fun _ y => Intact objects bindings y := by
  rw [keepsTask_perform]
  refine ⟨freesAsSaid_of_none rfl, ?_, ?_⟩
  · rintro ⟨t, own⟩ step
    obtain ⟨rfl, rfl⟩ := watched_step.mp step
    refine ⟨by simpa [failedWait] using h.calm, fun o mem => ?_⟩
    have used : o ∈ x.1.uses commands := by
      rcases needed o mem with rfl | here | ⟨b, binds, here, rfl⟩
      · exact List.mem_cons_self
      · exact List.mem_cons_of_mem _ (List.mem_flatMap.mpr ⟨o, lists o here, List.mem_cons_self⟩)
      · exact List.mem_cons_of_mem _ (List.mem_flatMap.mpr
          ⟨b.1, lists _ here, List.mem_cons_of_mem _ (h.bound b binds)⟩)
    simpa using .inl used
  · exact fun e y step => h.alike (alike_of_step step (fun _ => id) fun _ => rfl)

-- A wait either leaves nothing in use, or it failed and all is in use as before.
private theorem settled_queueIdle (calm : x.2.any failedWait = false)
    (used : ∀ o ∈ objects, o ∈ x.1.busy) (queue : Handle .queue) :
    tended.KeepsTask (Driver.perform (.queueIdle queue)) x (fun _ y => Intact objects [] y)
      fun _ y => Settled objects y := by
  rw [keepsTask_perform]
  refine ⟨freesAsSaid_of_none rfl, ?_, ?_⟩
  · rintro ⟨t, own⟩ step
    obtain ⟨rfl, rfl⟩ := watched_step.mp step
    exact ⟨by simpa [failedWait] using calm, fun _ _ => List.not_mem_nil, List.forall_mem_nil _⟩
  · rintro e ⟨t, own⟩ step
    obtain ⟨rfl, rfl⟩ := watched_step.mp step
    intro o mem
    simp [failedWait, used o mem]

private theorem settled_copyIntoImage (rig : Rig) (h : Intact objects bindings x)
    (apart : ∀ b ∈ bindings, b.1.kind ≠ .commandBuffer) (staging : StagingBuffer)
    (image : Handle .image) (extent : Extent) (old : ImageLayout)
    (needed : ∀ o ∈ objects, o ∈ [staging.buffer.object, image.object] ∨
      ∃ b ∈ bindings, b.1 ∈ [staging.buffer.object, image.object] ∧ b.2 = o) :
    tended.KeepsTask (copyIntoImage rig staging image extent old) x
      (fun _ y => Intact objects [] y) fun _ y => Settled objects y := by
  unfold copyIntoImage
  rw [keepsTask_bind]
  refine (h.create (.commandBuffer rig.commandPool) apart).mono (fun commands y h => ?_)
    fun _ _ h => h.settled
  have freed {y : Moment} (h : Settled (commands.object :: objects) y) :
      tended.Keeps (Driver.freeCommands rig.commandPool commands) y fun _ z => Alike y z :=
    h.freeCommands rig.commandPool commands (by simp)
  have given_up {y : Moment} (h : Settled (commands.object :: objects) y) :
      tended.Keeps (Driver.freeCommands rig.commandPool commands) y fun _ z => Settled objects z :=
    (freed h).mono fun _ z same o mem => h.alike same o (List.mem_cons_of_mem _ mem)
  rw [keepsTask_closing, keepsTask_bind]
  refine (intact_recordCopy h ..).mono ?_ fun _ y h => given_up h.settled
  rintro _ y ⟨h, lists⟩
  rw [keepsTask_bind]
  have needed : ∀ o ∈ commands.object :: objects, o = commands.object ∨
      o ∈ [staging.buffer.object, image.object] ∨
        ∃ b ∈ bindings, b.1 ∈ [staging.buffer.object, image.object] ∧ b.2 = o :=
    fun o mem => (List.mem_cons.mp mem).imp_right (needed o)
  refine (h.submit lists rig.queue needed).mono ?_ fun _ y h => given_up h.settled
  rintro _ y ⟨calm, used⟩
  refine (settled_queueIdle calm used rig.queue).mono ?_ fun _ y h => given_up h
  intro _ y h
  apply (freed h.settled).mono
  intro _ z same
  exact (h.alike same).mono (List.subset_cons_self ..) (List.Subset.refl _)

/-! ## Uploads -/

private theorem update_freesAsSaid (h : Intact [] [] x) (texture : SampledImage)
    (pixels : PixelBuffer) :
    tended.KeepsTask (SampledImage.update rig texture pixels) x (fun _ _ => True)
      fun _ _ => True := by
  unfold SampledImage.update
  by_cases other : pixels.extent ≠ texture.extent
  · simp [other]
  simp only [if_neg other, keepsTask_bind, keepsTask_closing]
  refine (intact_ofPixels h pixels).mono (fun staging y h => ?_) fun _ _ => id
  have released {z : Moment} (h : Settled staging.parts z) :
      tended.Keeps staging.release z fun _ _ => True :=
    (settled_stagingRelease staging h (by simp [StagingBuffer.parts])
      (by simp [StagingBuffer.parts])).mono fun _ _ _ => trivial
  have copied := settled_copyIntoImage rig h (by simp [Handle.object]) staging
    texture.image texture.extent .shaderReadOnly (by simp [StagingBuffer.parts])
  exact copied.mono (fun _ z h => released h.settled) fun _ z h => released h

private theorem create_freesAsSaid (h : Intact [] [] x) (pixels : PixelBuffer) :
    tended.KeepsTask (SampledImage.create rig pixels) x (fun _ _ => True) fun _ _ => True := by
  unfold SampledImage.create
  rw [keepsTask_bind]
  refine (intact_ofPixels h pixels).mono (fun staging y h => ?_) fun _ _ => id
  have released {objects : List Object} {z : Moment} (h : Settled objects z)
      (sub : staging.parts ⊆ objects) :
      tended.Keeps staging.release z fun _ w => Alike z w :=
    settled_stagingRelease staging h (sub (by simp [StagingBuffer.parts]))
      (sub (by simp [StagingBuffer.parts]))
  rw [keepsTask_bind, keepsTask_undoing]
  apply (intact_createBare h (by simp [Handle.object]) _).mono
  · rintro ⟨image, memory⟩ y h
    have unmade {objects : List Object} {z : Moment} (h : Settled objects z)
        (image_mem : image.object ∈ objects) (memory_mem : memory.object ∈ objects) :
        tended.Keeps (SampledImage.releaseBare image memory) z fun _ _ => True :=
      (settled_releaseBare h image_mem memory_mem).mono fun _ _ _ => trivial
    rw [keepsTask_bind, keepsTask_undoing, keepsTask_bind, keepsTask_closing]
    have copied := settled_copyIntoImage rig h (by simp [Handle.object]) staging
      image pixels.extent .undefined (by simp [StagingBuffer.parts])
    apply copied.mono
    · intro _ z h
      apply (released h.settled (by simp)).mono
      intro _ w same
      have h := h.alike same
      refine (h.create _ (List.forall_mem_nil _)).mono (fun view w _ => ?_) fun _ w h => ?_
      · rw [keepsTask_bind, keepsTask_driverLog]
        trivial
      · exact unmade h.settled (by simp) (by simp)
    · intro _ z h
      apply (released h (by simp)).mono
      intro _ w same
      exact unmade (h.alike same) (by simp) (by simp)
  · intro _ y h
    exact (released h.settled (List.Subset.refl _)).mono fun _ _ _ => trivial

/-- Whatever was uploaded before and whatever fails: an upload releases an object that accepted work
still uses exactly if its own wait for the queue failed before, and then all that it releases is in
use. -/
theorem frees_busy_iff_failedWait (rig : Rig) (upload : Upload) {s t : Workload} {c : DriverCall}
    {o : Object} {own : List (Exchange Driver Workload)}
    (makes : (upload.run rig).Makes occupancy.recorded (s, []) c (t, own))
    (frees : c.frees? = some o) :
    o ∈ t.busy ↔ own.any failedWait = true := by
  have start : Intact [] [] (s, []) := ⟨rfl, List.forall_mem_nil _, List.forall_mem_nil _⟩
  have kept : tended.Keeps (upload.run rig) (s, []) fun _ _ => True := by
    cases upload with
    | create pixels =>
      rw [Upload.run, keeps_bind, keepsTask_run]
      exact create_freesAsSaid start pixels
    | update texture pixels =>
      rw [Upload.run, keeps_bind, keepsTask_run]
      exact update_freesAsSaid start texture pixels
  exact kept.permits makes o frees

/-- A rig whose device has one type of memory. -/
def plainRig : Rig where
  apiInstance := ⟨1⟩
  messenger := none
  surface := ⟨1⟩
  physicalDevice := ⟨1⟩
  memory := .ofLists [7] 1 [⟨0, 1⟩] 1
  anisotropyLimit := none
  device := ⟨1⟩
  queueFamily := 0
  queue := ⟨1⟩
  commandPool := ⟨1⟩
  descriptorPool := ⟨1⟩

private theorem makes_later {c d : DriverCall} {k : c.Reply → Program Driver Unit} {s : Workload}
    {own : List (Exchange Driver Workload)} {t : Moment} (reply : c.Reply) (u : Workload)
    (step : s.Effect c reply u)
    (later : (k reply).Makes occupancy.recorded (u, ⟨c, reply, u⟩ :: own) d t) :
    (Program.call (I := Driver) c k).Makes occupancy.recorded (s, own) d t :=
  .call reply (u, _) ⟨step, rfl⟩ later

/-- The command buffer of the first upload. -/
def firstCommands : Handle .commandBuffer := ⟨5⟩

private theorem makes_free_after_failedWait :
    ∃ t own, (Upload.run plainRig (.create onePixel)).Makes occupancy.recorded ({}, [])
      (.freeCommands plainRig.commandPool firstCommands) (t, own) ∧
        own.any failedWait = true ∧ firstCommands.object ∈ t.busy := by
  apply Exists.intro
  apply Exists.intro
  constructor
  · refine makes_later (.ok ⟨1⟩) _ rfl ?_
    refine makes_later ⟨4, 1⟩ _ rfl ?_
    refine makes_later (.ok ⟨2⟩) _ rfl ?_
    refine makes_later (.ok ()) _ rfl ?_
    refine makes_later (.ok ()) _ rfl ?_
    refine makes_later () _ rfl ?_
    refine makes_later () _ rfl ?_
    refine makes_later (.ok ⟨3⟩) _ rfl ?_
    refine makes_later ⟨4, 1⟩ _ rfl ?_
    refine makes_later (.ok ⟨4⟩) _ rfl ?_
    refine makes_later (.ok ()) _ rfl ?_
    refine makes_later (.ok ⟨5⟩) _ rfl ?_
    refine makes_later (.ok ()) _ rfl ?_
    refine makes_later () _ rfl ?_
    refine makes_later () _ rfl ?_
    refine makes_later () _ rfl ?_
    refine makes_later (.ok ()) _ rfl ?_
    refine makes_later (.ok ()) _ rfl ?_
    refine makes_later (.error .outOfDate) _ rfl ?_
    exact .here
  · exact ⟨rfl, List.mem_cons_self⟩

/-- The first upload, whose wait failed, gives its command buffer back while that is busy. -/
theorem frees_busy_firstUpload :
    ∃ t own, (Upload.run plainRig (.create onePixel)).Makes occupancy.recorded ({}, [])
      (.freeCommands plainRig.commandPool firstCommands) (t, own) ∧
        own.any failedWait = true ∧ firstCommands.object ∈ t.busy := by
  obtain ⟨t, own, makes, failed, -⟩ := makes_free_after_failedWait
  exact ⟨t, own, makes, failed, (frees_busy_iff_failedWait plainRig _ makes rfl).mpr failed⟩

/-- An upload may release what accepted work still uses. -/
theorem exists_busy_free :
    ¬∀ (rig : Rig) (upload : Upload) (s t : Workload) (c : DriverCall) (o : Object)
      (own : List (Exchange Driver Workload)),
      (upload.run rig).Makes occupancy.recorded (s, []) c (t, own) → c.frees? = some o →
        o ∉ t.busy := by
  intro never
  obtain ⟨t, own, makes, -, busy⟩ := makes_free_after_failedWait
  exact never _ _ _ _ _ _ _ makes rfl busy

end PaintPresenter.Vulkan
