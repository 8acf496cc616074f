import PaintPresenter.Proofs.Protocol
import PaintPresenter.Proofs.RigCustody
import PaintPresenter.Proofs.ScreenCustody
import PaintPresenter.Proofs.UploadCustody

/-!
# Custody of the stack

A stack and the texture that its renderer holds are listed in the order in which they are taken
down. An operation on the gate or on the screen first brings the part that it changes to the front
of the list, which the parts above it allow: they do not need it.
-/

namespace PaintPresenter.Vulkan

open Contract

variable {s t : Holdings} {l listed : List Entry} {rig : Rig} {stack : Stack}
  {held : Option (SampledImage × Extent)}

/-- The texture that a renderer holds. -/
def heldEntries : Option (SampledImage × Extent) → List Entry
  | some (texture, _) => texture.entries
  | none => []

/-- What is taken down before the gate: the texture, the command buffer and the sampler. -/
def Stack.above (stack : Stack) (held : Option (SampledImage × Extent)) : List Entry :=
  heldEntries held ++
    ⟨stack.commands.object, [stack.rig.commandPool.object]⟩ :: unlessNull stack.sampler []

/-- The book shows a stack that stands and a texture that is held. -/
def Stands (held : Option (SampledImage × Extent)) (stack : Stack) (s : Holdings) : Prop :=
  ∃ screen, stack.screen.Lists stack.rig.surface screen ∧
    Holds s (stack.above held ++ (stack.gate.entries ++ (screen ++ stack.rig.entries)))

/-! ## Parts of the list -/

private theorem held_within (held : Option (SampledImage × Extent)) :
    ∀ e ∈ heldEntries held, ∀ o ∈ e.needs, o ∈ objects (heldEntries held) := by
  cases held with
  | none => simp [heldEntries]
  | some current => simp [heldEntries, SampledImage.entries, SampledImage.bareEntries]

private theorem held_upper (held : Option (SampledImage × Extent)) : Upper (heldEntries held) := by
  cases held with
  | none => simp [heldEntries, Upper]
  | some current =>
    simp [heldEntries, SampledImage.entries, SampledImage.bareEntries, Upper, Handle.object]

private theorem above_within (held : Option (SampledImage × Extent))
    (pool : stack.rig.commandPool.object ∈ objects l) : WithinParts (stack.above held) l := by
  intro e mem o needed
  simp only [Stack.above, List.mem_append, List.mem_cons, mem_unlessNull] at mem
  obtain texture | rfl | ⟨-, rfl⟩ := mem
  · left
    have own := held_within held e texture o needed
    simp [Stack.above, own]
  · right
    rw [List.mem_singleton] at needed
    rw [needed]
    exact pool
  · exact absurd needed List.not_mem_nil

private theorem above_upper (stack : Stack) (held : Option (SampledImage × Extent)) :
    Upper (stack.above held) := by
  intro e mem
  simp only [Stack.above, List.mem_append, List.mem_cons, mem_unlessNull] at mem
  obtain texture | rfl | ⟨-, rfl⟩ := mem
  · exact held_upper held e texture
  · simp [Handle.object]
  · simp [Handle.object]

private theorem gate_within (gate : FrameGate) (l : List Entry) : WithinParts gate.entries l := by
  intro e mem o needed
  rw [gate_needs gate e mem] at needed
  exact absurd needed List.not_mem_nil

private theorem screen_upper {screen : Screen} {surface : Handle .surface}
    (lists : screen.Lists surface listed) : Upper listed := by
  obtain ⟨_, ⟨framebuffers, made, rfl⟩, rfl⟩ := lists
  intro e mem
  simp only [TargetSet.lower, List.mem_append, mem_unlessNull] at mem
  obtain (framebuffer | ⟨-, rfl⟩ | view) | ⟨-, rfl⟩ := mem
  · exact framebuffers_upper made e framebuffer
  · simp [Handle.object]
  · exact views_upper _ _ e view
  · simp [Handle.object]

-- A view needs its swapchain, so a screen with views has one.
private theorem screen_within {screen : Screen} {surface : Handle .surface}
    (lists : screen.Lists surface listed) (h : Holds s (listed ++ l)) {c : List Entry}
    (present : surface.object ∈ objects c) : WithinParts listed c := by
  obtain ⟨_, ⟨framebuffers, made, rfl⟩, rfl⟩ := lists
  have swapchain_listed {view : Entry}
      (mem : view ∈ screen.targets.views.map (viewEntry screen.swapchain)) :
      screen.swapchain ≠ .null := by
    obtain ⟨handle, there, rfl⟩ := List.mem_map.mp mem
    have known := h.closed (viewEntry screen.swapchain handle)
      (by simp only [TargetSet.lower, List.mem_append, mem, or_true, true_or])
      screen.swapchain.object List.mem_cons_self
    obtain ⟨e, listed, same⟩ := List.mem_map.mp known
    have real := h.real e listed
    rw [same] at real
    intro null
    rw [null] at real
    exact real rfl
  intro e mem o needed
  simp only [TargetSet.lower, List.mem_append, mem_unlessNull] at mem
  obtain (framebuffer | ⟨-, rfl⟩ | view) | ⟨-, rfl⟩ := mem
  · left
    have below := made.needs e framebuffer o needed
    simp [below]
  · exact absurd needed List.not_mem_nil
  · left
    have real := swapchain_listed view
    obtain ⟨handle, -, rfl⟩ := List.mem_map.mp view
    obtain rfl := List.mem_singleton.mp needed
    simp [unlessNull_of_ne real]
  · right
    obtain rfl := List.mem_singleton.mp needed
    exact present

private theorem Holds.gateFirst {screen : List Entry}
    (h : Holds s (stack.above held ++ (stack.gate.entries ++ (screen ++ stack.rig.entries)))) :
    Holds s (stack.gate.entries ++ (stack.above held ++ (screen ++ stack.rig.entries))) := by
  apply h.swap
  · exact above_within held (by simp [rig_lists_pool])
  · exact gate_upper _

private theorem Holds.gateBack {screen : List Entry} {gate : FrameGate}
    (h : Holds s (gate.entries ++ (stack.above held ++ (screen ++ stack.rig.entries)))) :
    Holds s (stack.above held ++ (gate.entries ++ (screen ++ stack.rig.entries))) := by
  apply h.swap
  · exact gate_within _ _
  · exact above_upper stack held

private theorem upper_append {a b : List Entry} (first : Upper a) (second : Upper b) :
    Upper (a ++ b) := by
  intro e mem
  obtain mem | mem := List.mem_append.mp mem
  · exact first e mem
  · exact second e mem

private theorem Holds.screenFirst {screen : List Entry}
    (lists : stack.screen.Lists stack.rig.surface screen)
    (h : Holds s (stack.above held ++ (stack.gate.entries ++ (screen ++ stack.rig.entries)))) :
    Holds s (screen ++ ((stack.gate.entries ++ stack.above held) ++ stack.rig.entries)) := by
  apply Holds.swap
  · simpa using h.gateFirst
  · intro e mem o needed
    obtain gate | above := List.mem_append.mp mem
    · rw [gate_needs _ e gate] at needed
      exact absurd needed List.not_mem_nil
    · have listed := above_within held (rig_lists_pool stack.rig) e above o needed
      rw [objects_append, List.mem_append, or_assoc]
      exact .inr listed
  · exact screen_upper lists

private theorem Holds.screenBack {screen : Screen} {listed : List Entry}
    (lists : screen.Lists stack.rig.surface listed)
    (h : Holds s (listed ++ ((stack.gate.entries ++ stack.above held) ++ stack.rig.entries))) :
    Holds s (stack.gate.entries ++ (stack.above held ++ (listed ++ stack.rig.entries))) := by
  have back := h.swap (screen_within lists h (rig_lists_surface stack.rig))
    (upper_append (gate_upper _) (above_upper stack held))
  simpa using back

/-! ## Operations of the stack -/

-- Gate and screen do not count among what the device needs.
private theorem rest_equipped (a screen : List Entry) (rig : Rig) :
    Equipped (a ++ (screen ++ rig.entries)) :=
  ((rig_equipped rig).append screen).append a

-- What keeps every list keeps a stack standing.
private theorem Stands.keepsTask {α : Type} {task : Driver.Task α} (stands : Stands held stack s)
    (kept : ∀ l, Holds s l → custody.KeepsTask task s (fun _ t => Holds t l) fun _ t => Holds t l) :
    custody.KeepsTask task s (fun _ t => Stands held stack t) fun _ t => Stands held stack t := by
  obtain ⟨screen, lists, h⟩ := stands
  exact (kept _ h).mono (fun _ t h => ⟨screen, lists, h⟩) fun _ t h => ⟨screen, lists, h⟩

private theorem Stands.perform (stands : Stands held stack s) {operation : Operation}
    (untracked : operation.Untracked) :
    custody.KeepsTask (Driver.perform operation) s (fun _ t => Stands held stack t)
      fun _ t => Stands held stack t :=
  stands.keepsTask fun _ h => h.perform untracked

private theorem Stands.record (stands : Stands held stack s) (buffer : Handle .commandBuffer)
    (command : Command) :
    custody.Keeps (Driver.record buffer command) s fun _ t => Stands held stack t := by
  obtain ⟨screen, lists, h⟩ := stands
  exact (h.record buffer command).mono fun _ t h => ⟨screen, lists, h⟩

private theorem custody_onGate {α : Type} {task : FrameGate.DriverTask α}
    (stands : Stands held stack s)
    (kept : ∀ l, Equipped l → Holds s (stack.gate.entries ++ l) →
      custody.KeepsOp task stack.gate s (fun _ after t => Holds t (after.entries ++ l))
        fun _ after t => Holds t (after.entries ++ l)) :
    custody.KeepsOp (Stack.onGate task) stack s
      (fun _ after t => after.tornDown = stack.tornDown ∧ Stands held after t)
      fun _ after t => after.tornDown = stack.tornDown ∧ Stands held after t := by
  obtain ⟨screen, lists, h⟩ := stands
  rw [Stack.onGate, keepsOp_onPart]
  apply (kept _ (rest_equipped _ _ _) h.gateFirst).mono
  · intro _ gate t h
    exact ⟨rfl, screen, lists, h.gateBack⟩
  · intro _ gate t h
    exact ⟨rfl, screen, lists, h.gateBack⟩

private theorem custody_acquireOnStack (stands : Stands held stack s) :
    custody.KeepsOp Stack.acquire stack s
      (fun _ after t => after.tornDown = stack.tornDown ∧ Stands held after t)
      fun _ after t => after.tornDown = stack.tornDown ∧ Stands held after t := by
  rw [Stack.acquire, keepsOp_bind, keepsOp_get]
  apply custody_onGate stands
  intro l equipped h
  exact custody_acquire h equipped _ _

private theorem custody_beginPass (stands : Stands held stack s) (image : UInt32) (clear : Color) :
    custody.KeepsOp (Stack.beginPass image clear) stack s
      (fun _ after t => after = stack ∧ Stands held stack t)
      fun _ after t => after = stack ∧ Stands held stack t := by
  rw [Stack.beginPass, keepsOp_bind, keepsOp_get]
  cases stack.screen.targets.framebuffer? image.toNat with
  | none => exact ⟨rfl, stands⟩
  | some framebuffer =>
    simp only [keepsOp_bind, keepsOp_ofTask, keepsOp_ofProgram, keepsOp_pure]
    refine (stands.perform (by trivial)).mono (fun _ t stands => ?_)
      fun _ t stands => ⟨trivial, stands⟩
    refine (stands.perform (by trivial)).mono (fun _ t stands => ?_)
      fun _ t stands => ⟨trivial, stands⟩
    exact (stands.record _ _).mono fun _ t stands => ⟨trivial, stands⟩

private theorem custody_endPass (stands : Stands held stack s) :
    custody.KeepsOp Stack.endPass stack s
      (fun _ after t => after = stack ∧ Stands held stack t)
      fun _ after t => after = stack ∧ Stands held stack t := by
  rw [Stack.endPass, keepsOp_bind, keepsOp_get]
  simp only [keepsOp_bind, keepsOp_ofProgram, keepsOp_ofTask]
  apply (stands.record _ _).mono
  intro _ t stands
  exact (stands.perform (by trivial)).mono (fun _ t stands => ⟨trivial, stands⟩)
    fun _ t stands => ⟨trivial, stands⟩

private theorem custody_rebuild (stands : Stands held stack s) (extent : Extent) :
    custody.KeepsOp (Stack.rebuild extent) stack s
      (fun _ after t => after.tornDown = stack.tornDown ∧ Stands held after t)
      fun _ after t => after.tornDown = stack.tornDown ∧ Stands held after t := by
  rw [Stack.rebuild, keepsOp_bind, keepsOp_ofTask, keepsTask_deviceIdle]
  refine (stands.perform (by trivial)).mono (fun _ t stands => ?_) fun _ t stands => ⟨rfl, stands⟩
  -- The screen is brought to the front, changed there and put back; then the gate is.
  obtain ⟨screen, lists, h⟩ := stands
  rw [keepsOp_bind, keepsOp_get, keepsOp_bind, Stack.onScreen, keepsOp_onPart]
  have equipped := (rig_equipped stack.rig).append (stack.gate.entries ++ stack.above held)
  have rebuilt := custody_rebuildScreen lists (h.screenFirst lists) equipped
    (by simp [rig_lists_surface]) extent
  apply rebuilt.mono
  · rintro _ screen t ⟨listed, lists, h⟩
    have stands : Stands held { stack with screen } t :=
      ⟨listed, lists, (h.screenBack lists).gateBack⟩
    apply custody_onGate stands
    intro l equipped h
    rw [keepsOp_onDriver]
    exact custody_rearm h equipped
  · rintro _ screen t ⟨listed, lists, h⟩
    exact ⟨rfl, listed, lists, (h.screenBack lists).gateBack⟩

private theorem Stands.createTexture (stands : Stands none stack s) (pixels : PixelBuffer) :
    custody.KeepsTask (SampledImage.create stack.rig pixels) s
      (fun texture t => Stands (some (texture, pixels.extent)) stack t)
      fun _ t => Stands none stack t := by
  obtain ⟨screen, lists, h⟩ := stands
  have equipped := (rest_equipped stack.gate.entries screen stack.rig).append (stack.above none)
  apply (custody_createTexture h equipped (by simp [rig_lists_pool]) pixels).mono
  · intro texture t h
    refine ⟨screen, lists, ?_⟩
    simpa [Stack.above, heldEntries] using h
  · intro _ t h
    exact ⟨screen, lists, h⟩

private theorem Stands.updateTexture (stands : Stands held stack s) (texture : SampledImage)
    (pixels : PixelBuffer) :
    custody.KeepsTask (SampledImage.update stack.rig texture pixels) s
      (fun _ t => Stands held stack t) fun _ t => Stands held stack t := by
  obtain ⟨screen, lists, h⟩ := stands
  have equipped := (rest_equipped stack.gate.entries screen stack.rig).append (stack.above held)
  apply (custody_updateTexture h equipped (by simp [rig_lists_pool]) texture pixels).mono
  · intro _ t h
    exact ⟨screen, lists, h⟩
  · intro _ t h
    exact ⟨screen, lists, h⟩

private theorem Stands.releaseTexture {texture : SampledImage} {size : Extent}
    (stands : Stands (some (texture, size)) stack s) :
    custody.Keeps texture.release s fun _ t => Stands none stack t := by
  obtain ⟨screen, lists, h⟩ := stands
  rw [Stack.above, heldEntries, List.append_assoc] at h
  apply (custody_releaseTexture h).mono
  intro _ t h
  exact ⟨screen, lists, h⟩

/-- A stack that is taken down leaves nothing. -/
theorem custody_tearDown (stands : Stands none stack s) (standing : stack.tornDown = false) :
    custody.Keeps (Stack.tearDown stack) s fun out t => out.2.tornDown = true ∧ Holds t [] := by
  obtain ⟨screen, lists, h⟩ := stands
  rw [keeps_stackTearDown, standing, if_neg Bool.false_ne_true]
  rw [Stack.above, heldEntries, List.nil_append, List.cons_append] at h
  apply h.freeCommands.mono
  intro _ t h
  apply (h.releaseUnlessNull (by simp)).mono
  intro _ t h
  rw [keeps_destroyOnDriver]
  apply (custody_gateDestroy h).mono
  rintro _ t ⟨_, h⟩
  apply (custody_screenDestroy lists h).mono
  rintro _ t ⟨_, h⟩
  exact (custody_rigDestroy h).mono fun _ t h => ⟨rfl, h⟩

/-! ## Every call -/

/-- What the book shows of a stack whose renderer stands somewhere. -/
def Accounts (p : Position SampledImage) (stack : Stack) (s : Holdings) : Prop :=
  match p.phase with
  | .gone => stack.tornDown = true ∧ Holds s []
  | _ => stack.tornDown = false ∧ Stands p.held stack s

private theorem accounts_iff {phase : Phase} {owed : Bool} (standing : phase ≠ .gone) :
    Accounts ⟨phase, held, owed⟩ stack s ↔ stack.tornDown = false ∧ Stands held stack s := by
  cases phase with
  | gone => exact absurd rfl standing
  | _ => rfl

/-- Whatever call the protocol allows, the calls that answer it fit the book, and the book shows
the stack that is left. -/
theorem stackAnswer_accounts {p : Position SampledImage} {call : GraphicsCall SampledImage}
    (accounts : Accounts p stack s) (allowed : p.Allows call) :
    custody.Keeps (Stack.answer call stack) s fun out t =>
      Accounts (p.next call out.1) out.2 t := by
  obtain ⟨phase, held, owed⟩ := p
  cases call with
  | extent => exact accounts
  | waitForPrevious =>
    obtain ⟨rfl, -⟩ := allowed
    obtain ⟨standing, stands⟩ := accounts
    rw [Stack.answer, keeps_run, Stack.waitForPrevious, keepsOp_bind, keepsOp_get, keepsOp_ofTask]
    have waited := stands.keepsTask fun _ h => custody_waitForPrevious h stack.gate stack.timeoutNs
    exact waited.mono (fun _ t stands => ⟨standing, stands⟩) fun _ t stands => ⟨standing, stands⟩
  | acquire =>
    obtain ⟨rfl, -⟩ := allowed
    obtain ⟨standing, stands⟩ := accounts
    rw [Stack.answer, keeps_run]
    apply (custody_acquireOnStack stands).mono
    · intro _ after t h
      exact ⟨h.1.trans standing, h.2⟩
    · intro e after t h
      by_cases late : e = .outOfDate
      · simpa [Position.next, late, Accounts, standing] using h
      · simpa [Position.next, late, Accounts, standing] using h
  | beginPass image clear =>
    obtain rfl := allowed
    obtain ⟨standing, stands⟩ := accounts
    rw [Stack.answer, keeps_run]
    apply (custody_beginPass stands image clear).mono
    · rintro _ _ t ⟨rfl, stands⟩
      exact ⟨standing, stands⟩
    · rintro _ _ t ⟨rfl, stands⟩
      exact ⟨standing, stands⟩
  | endPass =>
    obtain ⟨image, rfl⟩ := allowed
    obtain ⟨standing, stands⟩ := accounts
    rw [Stack.answer, keeps_run]
    apply (custody_endPass stands).mono
    · rintro _ _ t ⟨rfl, stands⟩
      exact ⟨standing, stands⟩
    · rintro _ _ t ⟨rfl, stands⟩
      exact ⟨standing, stands⟩
  | present image =>
    obtain rfl := allowed
    obtain ⟨standing, stands⟩ := accounts
    rw [Stack.answer, keeps_run, Stack.present, keepsOp_bind, keepsOp_get, keepsOp_ofTask]
    have queued := stands.keepsTask fun _ h => custody_submitAndPresent h stack.rig.queue
      stack.commands stack.screen.swapchain image stack.gate
    exact queued.mono (fun _ t stands => ⟨standing, stands⟩) fun _ t stands => ⟨standing, stands⟩
  | rebuild extent =>
    have other : phase ≠ .gone := by
      rintro rfl
      simp [Position.Allows] at allowed
    obtain ⟨standing, stands⟩ := (accounts_iff other).mp accounts
    rw [Stack.answer, keeps_run]
    apply (custody_rebuild stands extent).mono
    · intro _ after t h
      exact ⟨h.1.trans standing, h.2⟩
    · intro _ after t h
      exact ⟨h.1.trans standing, h.2⟩
  | createTexture pixels =>
    obtain ⟨rfl, rfl⟩ := allowed
    obtain ⟨standing, stands⟩ := accounts
    rw [Stack.answer, keeps_bind, keepsTask_run]
    apply (stands.createTexture pixels).mono
    · intro texture t stands
      exact ⟨standing, stands⟩
    · intro _ t stands
      exact ⟨standing, stands⟩
  | updateTexture texture pixels =>
    obtain ⟨rfl, -⟩ := allowed
    obtain ⟨standing, stands⟩ := accounts
    rw [Stack.answer, keeps_bind, keepsTask_run]
    apply (stands.updateTexture texture pixels).mono
    · intro _ t stands
      exact ⟨standing, stands⟩
    · intro _ t stands
      exact ⟨standing, stands⟩
  | releaseTexture texture =>
    obtain ⟨phases, size, rfl⟩ := allowed
    have other : phase ≠ .gone := by
      rintro rfl
      simp at phases
    obtain ⟨standing, stands⟩ := (accounts_iff other).mp accounts
    rw [Stack.answer, keeps_bind]
    apply stands.releaseTexture.mono
    intro _ t stands
    exact (accounts_iff other).mpr ⟨standing, stands⟩
  | binding texture => exact accounts
  | waitIdle =>
    have other : phase ≠ .gone := by
      rintro rfl
      simp [Position.Allows] at allowed
    obtain ⟨standing, stands⟩ := (accounts_iff other).mp accounts
    rw [Stack.answer, keeps_bind, keepsTask_run, keepsTask_deviceIdle]
    obtain rfl | ⟨image, rfl⟩ := allowed
    · exact (stands.perform (by trivial)).mono (fun _ t stands => ⟨standing, stands⟩)
        fun _ t stands => ⟨standing, stands⟩
    · exact (stands.perform (by trivial)).mono (fun _ t stands => ⟨standing, stands⟩)
        fun _ t stands => ⟨standing, stands⟩
  | tearDown =>
    obtain ⟨phases, rfl⟩ := allowed
    have other : phase ≠ .gone := by
      rintro rfl
      simp at phases
    obtain ⟨standing, stands⟩ := (accounts_iff other).mp accounts
    exact custody_tearDown stands standing

/-! ## Building -/

private theorem custody_createSampler (h : Holds s l) (equipped : Equipped l) (rig : Rig) :
    custody.KeepsTask (createSampler rig) s
      (fun sampler t => sampler ≠ .null ∧ Holds t (⟨sampler.object, []⟩ :: l))
      fun _ t => Holds t l := by
  unfold createSampler
  simp only [keepsTask_bind, keepsTask_driverLog, keepsTask_pure]
  exact h.createAlone equipped rfl (by simp)

private theorem custody_buildOn (h : Holds s rig.entries) (settings : GraphicsSettings) :
    custody.KeepsTask (Stack.buildOn rig settings) s
      (fun stack t => stack.tornDown = false ∧ Stands none stack t)
      fun _ t => Holds t rig.entries := by
  have equipped := rig_equipped rig
  rw [Stack.buildOn, keepsTask_bind]
  refine (custody_createScreen h equipped (rig_lists_surface rig) settings.extent).mono ?_
    fun _ t h => h
  rintro screen t ⟨listed, lists, h⟩
  have equipped := equipped.append listed
  have dropScreen {t : Holdings} (h : Holds t (listed ++ rig.entries)) :
      custody.Keeps (do let _ ← Screen.destroy screen) t fun _ t => Holds t rig.entries := by
    rw [keeps_bind]
    exact (custody_screenDestroy lists h).mono fun _ t h => h.2
  rw [keepsTask_undoing, keepsTask_bind, keepsTask_createOnDriver]
  refine (custody_fillOrDestroyGate h equipped).mono (fun _ gate t h => ?_)
    fun _ _ t h => dropScreen h.2
  have equipped := equipped.append gate.entries
  have dropGate {t : Holdings} (h : Holds t (gate.entries ++ (listed ++ rig.entries))) :
      custody.Keeps (do let _ ← gate.destroyOnDriver) t
        fun _ t => Holds t (listed ++ rig.entries) := by
    rw [keeps_bind, keeps_destroyOnDriver]
    exact (custody_gateDestroy h).mono fun _ t h => h.2
  rw [keepsTask_undoing, keepsTask_bind]
  apply (custody_createSampler h equipped rig).mono
  · rintro sampler t ⟨real, h⟩
    rw [keepsTask_undoing, keepsTask_bind]
    have made_from : t.needs (.commandBuffer rig.commandPool) = [rig.commandPool.object] := rfl
    have created := h.createOnDevice (equipped.cons _) made_from (by simp [rig_lists_pool])
      (by simp)
    refine created.mono (fun commands t ⟨_, _, h⟩ => ?_) ?_
    · refine ⟨rfl, listed, lists, ?_⟩
      simpa [Stack.above, heldEntries, unlessNull_of_ne real] using h
    · rintro _ t rfl
      apply (h.release (by simp)).mono
      intro _ t h
      exact (dropGate h).mono fun _ t h => dropScreen h
  · intro _ t h
    exact (dropGate h).mono fun _ t h => dropScreen h

/-- What cannot be created leaves nothing. -/
theorem custody_createStack (h : Holds s []) (handles : NativeHandles)
    (settings : GraphicsSettings) :
    custody.KeepsTask (Stack.create handles settings) s
      (fun stack t => stack.tornDown = false ∧ Stands none stack t) fun _ t => Holds t [] := by
  rw [keepsTask_stackCreate]
  cases handles.display with
  | error fault => exact h
  | ok display =>
    cases handles.window with
    | error fault => exact h
    | ok window =>
      refine (custody_createRig h display window settings).mono (fun rig t h => ?_) fun _ t h => h
      exact (custody_buildOn h settings).mono (fun _ t h => h) fun _ t h => custody_rigDestroy h

end PaintPresenter.Vulkan
