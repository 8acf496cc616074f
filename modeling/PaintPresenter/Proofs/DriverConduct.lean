import Mathlib.Tactic.CongrExclamation
import PaintPresenter.Proofs.World
import PaintPresenter.Vulkan.Stack

/-!
# What programs ask of a driver

One rule for each way of calling the driver: a call that may fail answers for both replies, and a
task that cleans up answers for its cleaning.
-/

namespace PaintPresenter

/-- Questions to the driver that change nothing. -/
def Vulkan.DriverCall.IsQuery : Vulkan.DriverCall → Prop
  | .loadLibrary | .layers | .devices | .queueFamilies _ | .presents _ _ _ | .properties _
  | .anisotropy _ | .memory _ | .queue _ | .surfaceLimits _ _ | .surfaceFormats _ _
  | .bufferNeeds _ | .imageNeeds _ => True
  | _ => False

/-- Replies with which all goes well; what is made gets a number. -/
def Vulkan.DriverCall.granted (number : Nat) : (c : DriverCall) → c.Reply
  | .loadLibrary => true
  | .layers => .ok []
  | .create _ => .ok ⟨number⟩
  | .release _ => ()
  | .devices => .ok [⟨1⟩]
  | .queueFamilies _ => [⟨1, 1⟩]
  | .presents _ _ _ => .ok true
  | .properties _ => ⟨⟨ByteArray.empty⟩, .discrete, 0⟩
  | .anisotropy _ => false
  | .memory _ => .ofLists [7] 1 [⟨0, 1⟩] 1
  | .queue _ => ⟨1⟩
  | .surfaceLimits _ _ => .ok {}
  | .surfaceFormats _ _ => .ok [preferredFormat]
  | .swapchainImages _ => .ok [⟨number⟩]
  | .bufferNeeds _ => ⟨1, 1⟩
  | .imageNeeds _ => ⟨1, 1⟩
  | .perform _ => .ok ()
  | .acquire _ _ _ => .ok ⟨0, false⟩
  | .present _ _ _ _ => .ok false
  | .record _ _ => ()
  | .freeCommands _ _ => ()
  | .store _ _ => ()
  | .unmap _ => ()

/-- The object that a call and its reply made. -/
def Vulkan.DriverCall.made? : (c : DriverCall) → c.Reply → Option Object
  | .create _, .ok made => some made.object
  | _, _ => none

/-- Only a creation makes an object, of the kind that was asked for. -/
theorem Vulkan.DriverCall.create_of_made {c : DriverCall} {reply : c.Reply} {o : Object}
    (made : c.made? reply = some o) : ∃ request, c = .create request ∧ o.kind = request.kind := by
  cases c with
  | create request =>
    cases reply with
    | ok handle =>
      obtain rfl := Option.some.inj made
      exact ⟨request, rfl, rfl⟩
    | error result => exact absurd made (by simp [made?])
  | _ => exact absurd made (by simp [made?])

/-- Two screens hold the same objects. -/
def Vulkan.Screen.SameObjects (a b : Vulkan.Screen) : Prop :=
  a.swapchain = b.swapchain ∧ a.images = b.images ∧ a.targets = b.targets

namespace Contract

open Vulkan

variable {α γ : Type} {C : Contract Driver γ} {s : γ}

/-- A question is one call. -/
@[simp] theorem keeps_ask {I : Interface} {C : Contract I γ} (c : I.Call)
    (post : I.Reply c → γ → Prop) :
    C.Keeps (Program.ask c) s post ↔
      C.permits s c ∧ ∀ reply t, C.step s c reply t → post reply t := Iff.rfl

/-- Logging is no call. -/
@[simp] theorem keeps_log {I : Interface} {C : Contract I γ} (level : LogLevel) (text : String)
    (post : Unit → γ → Prop) : C.Keeps (Program.log level text) s post ↔ post () s := Iff.rfl

/-- Releasing an object is one call. -/
@[simp] theorem keeps_release {kind : ObjectKind} (handle : Handle kind) (post : Unit → γ → Prop) :
    C.Keeps (Driver.release handle) s post ↔
      C.permits s (.release handle.object) ∧
        ∀ t, C.step s (.release handle.object) () t → post () t :=
  and_congr_right fun _ => ⟨fun h t => h () t, fun h _ t => h t⟩

/-- Recording a command is one call. -/
@[simp] theorem keeps_record (buffer : Handle .commandBuffer) (command : Command)
    (post : Unit → γ → Prop) :
    C.Keeps (Driver.record buffer command) s post ↔
      C.permits s (.record buffer command) ∧
        ∀ t, C.step s (.record buffer command) () t → post () t :=
  and_congr_right fun _ => ⟨fun h t => h () t, fun h _ t => h t⟩

/-- Giving a command buffer back is one call. -/
@[simp] theorem keeps_freeCommands (pool : Handle .commandPool) (buffer : Handle .commandBuffer)
    (post : Unit → γ → Prop) :
    C.Keeps (Driver.freeCommands pool buffer) s post ↔
      C.permits s (.freeCommands pool buffer) ∧
        ∀ t, C.step s (.freeCommands pool buffer) () t → post () t :=
  and_congr_right fun _ => ⟨fun h t => h () t, fun h _ t => h t⟩

/-- Writing to mapped memory is one call. -/
@[simp] theorem keeps_store (memory : Handle .memory) (bytes : ByteArray)
    (post : Unit → γ → Prop) :
    C.Keeps (Driver.store memory bytes) s post ↔
      C.permits s (.store memory bytes) ∧ ∀ t, C.step s (.store memory bytes) () t → post () t :=
  and_congr_right fun _ => ⟨fun h t => h () t, fun h _ t => h t⟩

/-- Unmapping memory is one call. -/
@[simp] theorem keeps_unmap (memory : Handle .memory) (post : Unit → γ → Prop) :
    C.Keeps (Driver.unmap memory) s post ↔
      C.permits s (.unmap memory) ∧ ∀ t, C.step s (.unmap memory) () t → post () t :=
  and_congr_right fun _ => ⟨fun h t => h () t, fun h _ t => h t⟩

/-- Asking what memory a buffer needs is one call. -/
@[simp] theorem keeps_bufferNeeds (buffer : Handle .buffer)
    (post : MemoryRequirements → γ → Prop) :
    C.Keeps (Driver.bufferNeeds buffer) s post ↔
      C.permits s (.bufferNeeds buffer) ∧
        ∀ needs t, C.step s (.bufferNeeds buffer) needs t → post needs t := Iff.rfl

/-- Asking what memory an image needs is one call. -/
@[simp] theorem keeps_imageNeeds (image : Handle .image) (post : MemoryRequirements → γ → Prop) :
    C.Keeps (Driver.imageNeeds image) s post ↔
      C.permits s (.imageNeeds image) ∧
        ∀ needs t, C.step s (.imageNeeds image) needs t → post needs t := Iff.rfl

/-- A value that has to be there ends the program in a fault when it is not. -/
@[simp] theorem keeps_require {I : Interface} {C : Contract I γ} (fault : Fault) (a : Option α)
    (post : α → γ → Prop) :
    C.Keeps (Program.require fault a) s post ↔ ∀ b, a = some b → post b s := by
  cases a with
  | none => simp [Program.require]
  | some b => simp [Program.require]

/-! ## Calls that may fail -/

section Fallible

variable {good : α → γ → Prop} {bad : GraphicsError → γ → Prop}

/-- A checked call is the call; its failure is named after the function. -/
theorem keepsTask_checked (function : String) (call : Program Driver (Except ResultCode α)) :
    C.KeepsTask (Driver.checked function call) s good bad ↔
      C.Keeps call s fun
        | .ok a, t => good a t
        | .error result, t => bad (.ofResult function result) t := by
  unfold Driver.checked KeepsTask
  apply (keeps_bind ..).trans
  exact ⟨fun h => h.mono fun r _ => by cases r <;> exact id,
    fun h => h.mono fun r _ => by cases r <;> exact id⟩

/-- Logging in a task is no call. -/
@[simp] theorem keepsTask_driverLog {good : Unit → γ → Prop} (level : LogLevel) (text : String) :
    C.KeepsTask (Driver.log level text) s good bad ↔ good () s := by
  simp [Driver.log]

/-- Making an object is one call, which may fail. -/
@[simp] theorem keepsTask_create (request : Creation)
    {good : Handle request.kind → γ → Prop} :
    C.KeepsTask (Driver.create request) s good bad ↔
      C.permits s (.create request) ∧
        (∀ handle t, C.step s (.create request) (.ok handle) t → good handle t) ∧
          ∀ result t, C.step s (.create request) (.error result) t →
            bad (.ofResult request.errorName result) t := by
  rw [Driver.create, keepsTask_checked, keeps_call]
  exact and_congr_right fun _ => forall_except

/-- An operation is one call, which may fail. -/
@[simp] theorem keepsTask_perform (operation : Operation) {good : Unit → γ → Prop} :
    C.KeepsTask (Driver.perform operation) s good bad ↔
      C.permits s (.perform operation) ∧
        (∀ t, C.step s (.perform operation) (.ok ()) t → good () t) ∧
          ∀ result t, C.step s (.perform operation) (.error result) t →
            bad (.ofResult operation.function result) t := by
  rw [Driver.perform, keepsTask_checked, keeps_call]
  exact and_congr_right fun _ => forall_except_unit

/-- Waiting for the device is an operation like others. -/
@[simp] theorem keepsTask_deviceIdle {good : Unit → γ → Prop} :
    C.KeepsTask Driver.deviceIdle s good bad ↔
      C.KeepsTask (Driver.perform .deviceIdle) s good bad := Iff.rfl

/-- Asking for the images of a swapchain is one call, which may fail. -/
@[simp] theorem keepsTask_swapchainImages {good : List (Handle .image) → γ → Prop}
    (swapchain : Handle .swapchain) :
    C.KeepsTask (Driver.swapchainImages swapchain) s good bad ↔
      C.permits s (.swapchainImages swapchain) ∧
        (∀ images t, C.step s (.swapchainImages swapchain) (.ok images) t → good images t) ∧
          ∀ result t, C.step s (.swapchainImages swapchain) (.error result) t →
            bad (.ofResult "vkGetSwapchainImagesKHR" result) t := by
  rw [Driver.swapchainImages, keepsTask_checked, keeps_call]
  exact and_congr_right fun _ => forall_except

/-- Asking for the limits of a surface is one call, which may fail. -/
@[simp] theorem keepsTask_surfaceLimits {good : SurfaceLimits → γ → Prop}
    (device : Handle .physicalDevice) (surface : Handle .surface) :
    C.KeepsTask (Driver.surfaceLimits device surface) s good bad ↔
      C.permits s (.surfaceLimits device surface) ∧
        (∀ limits t, C.step s (.surfaceLimits device surface) (.ok limits) t → good limits t) ∧
          ∀ result t, C.step s (.surfaceLimits device surface) (.error result) t →
            bad (.ofResult "vkGetPhysicalDeviceSurfaceCapabilitiesKHR" result) t := by
  rw [Driver.surfaceLimits, keepsTask_checked, keeps_call]
  exact and_congr_right fun _ => forall_except

/-- Asking for the formats of a surface is one call, which may fail. -/
@[simp] theorem keepsTask_surfaceFormats {good : List SurfaceFormat → γ → Prop}
    (device : Handle .physicalDevice) (surface : Handle .surface) :
    C.KeepsTask (Driver.surfaceFormats device surface) s good bad ↔
      C.permits s (.surfaceFormats device surface) ∧
        (∀ formats t, C.step s (.surfaceFormats device surface) (.ok formats) t →
          good formats t) ∧
          ∀ result t, C.step s (.surfaceFormats device surface) (.error result) t →
            bad (.ofResult "vkGetPhysicalDeviceSurfaceFormatsKHR" result) t := by
  rw [Driver.surfaceFormats, keepsTask_checked, keeps_call]
  exact and_congr_right fun _ => forall_except

/-! ## Tasks that clean up -/

/-- A task with an undo runs it after a failure. -/
@[simp] theorem keepsTask_undoing (undo : Program Driver Unit) (task : Driver.Task α) :
    C.KeepsTask (Driver.undoing undo task) s good bad ↔
      C.KeepsTask task s good fun e t => C.Keeps undo t fun _ => bad e := by
  unfold Driver.undoing KeepsTask
  apply (keeps_bind ..).trans
  exact ⟨fun h => h.mono fun r _ => by cases r <;> simp,
    fun h => h.mono fun r _ => by cases r <;> simp⟩

/-- A task with a close runs it in either case. -/
@[simp] theorem keepsTask_closing (close : Program Driver Unit) (task : Driver.Task α) :
    C.KeepsTask (Driver.closing close task) s good bad ↔
      C.KeepsTask task s (fun a t => C.Keeps close t fun _ => good a)
        fun e t => C.Keeps close t fun _ => bad e := by
  unfold Driver.closing KeepsTask
  apply (keeps_bind ..).trans
  exact ⟨fun h => h.mono fun r _ => by cases r <;> simp,
    fun h => h.mono fun r _ => by cases r <;> simp⟩

end Fallible

/-! ## Questions -/

/-- Questions may be asked, and what is known stays true. -/
def Answers (C : Contract Driver γ) (Known : γ → Prop) : Prop :=
  ∀ s c, c.IsQuery → Known s → C.permits s c ∧ ∀ reply t, C.step s c reply t → Known t

section Questions

variable {Known : γ → Prop}

/-- A question keeps what is known. -/
theorem Answers.ask (answers : C.Answers Known) {c : DriverCall} (query : c.IsQuery) (h : Known s) :
    C.Keeps (Program.ask (I := Driver) c) s fun _ t => Known t := answers s c query h

/-- Finding out whether diagnostics are wanted only asks questions. -/
theorem Answers.wanted (answers : C.Answers Known) (settings : GraphicsSettings) (h : Known s) :
    C.Keeps (Diagnostics.wanted settings) s fun _ t => Known t := by
  unfold Diagnostics.wanted
  by_cases validation : settings.validation = true
  · rw [if_pos validation, keeps_bind]
    have installed : C.Keeps Diagnostics.installed s fun _ t => Known t := by
      unfold Diagnostics.installed
      rw [keeps_bind]
      apply (answers.ask (c := .layers) trivial h).mono
      intro reply t known
      cases reply with
      | ok layers => exact known
      | error result => exact known
    apply installed.mono
    intro found t known
    by_cases found : found = true
    · simpa [found] using known
    · simpa [found] using known
  · rw [if_neg validation]
    exact h

private theorem Answers.searchFamilies {presents : Nat → Program Driver Bool}
    (asks : ∀ family s, Known s → C.Keeps (presents family) s fun _ t => Known t)
    (families : List QueueFamily) (index : Nat) (h : Known s) :
    C.Keeps (searchFamilies presents families index) s fun _ t => Known t := by
  induction families generalizing index s with
  | nil => exact h
  | cons family later ih =>
    unfold Vulkan.searchFamilies
    by_cases draws : family.canDraw = true
    · rw [if_pos draws, keeps_bind]
      apply (asks index s h).mono
      intro found t known
      by_cases found : found = true
      · simpa [found] using known
      · simpa [found] using ih (index + 1) known
    · rw [if_neg draws]
      exact ih (index + 1) h

private theorem Answers.offer (answers : C.Answers Known) (surface : Handle .surface) (index : Nat)
    (device : Handle .physicalDevice) (h : Known s) :
    C.Keeps (Rig.offer? surface index device) s fun _ t => Known t := by
  unfold Rig.offer? drawingFamily?
  rw [keeps_bind]
  apply (answers.ask (c := .queueFamilies device) trivial h).mono
  intro families t known
  rw [keeps_bind]
  have asks (family : Nat) (s : γ) (h : Known s) :
      C.Keeps (Rig.presents device surface family) s fun _ t => Known t := by
    unfold Rig.presents
    rw [keeps_bind]
    exact answers.ask (c := .presents device family surface) trivial h
  apply (Answers.searchFamilies asks families 0 known).mono
  intro found t known
  cases found with
  | none => exact known
  | some family =>
    simp only [keeps_bind, keeps_require]
    apply (answers.ask (c := .properties device) trivial known).mono
    intro properties t known
    apply (answers.ask (c := .memory device) trivial known).mono
    intro memory t known
    exact fun _ _ => known

private theorem Answers.offers (answers : C.Answers Known) (policy : SelectionPolicy)
    (surface : Handle .surface) (devices : List (Handle .physicalDevice)) (index : Nat)
    (h : Known s) :
    C.Keeps (Rig.offers policy surface devices index) s fun _ t => Known t := by
  induction devices generalizing index s with
  | nil => exact h
  | cons device later ih =>
    unfold Rig.offers
    rw [keeps_bind]
    apply (answers.offer surface index device h).mono
    intro offer t known
    cases offer with
    | none => exact ih (index + 1) known
    | some offer =>
      by_cases first : policy = .firstQualifying
      · simpa [first] using known
      · simp only [first, if_false, keeps_bind]
        exact ih (index + 1) known

/-- To choose a device is to ask. -/
theorem Answers.selectDevice (answers : C.Answers Known) (policy : SelectionPolicy)
    (surface : Handle .surface) (h : Known s) :
    C.KeepsTask (Rig.selectDevice policy surface) s (fun _ t => Known t) fun _ t => Known t := by
  unfold Rig.selectDevice Driver.devices
  rw [keepsTask_bind, keepsTask_checked]
  apply (answers.ask (c := .devices) trivial h).mono
  intro reply t known
  cases reply with
  | error result => exact known
  | ok devices =>
    simp only [keepsTask_bind, keepsTask_liftM]
    apply (answers.offers policy surface devices 0 known).mono
    intro offers t known
    cases DeviceOffer.pick? policy offers with
    | none => exact known
    | some offer => exact known

end Questions

/-! ## The rig -/

/-- A scaffold is taken down from the command pool to the instance. -/
theorem keeps_takeDown (scaffold : Rig.Scaffold) (post : Unit → γ → Prop) :
    C.Keeps scaffold.takeDown s post ↔
      C.Keeps (if scaffold.device.isSome then Rig.releaseUnlessNull scaffold.commandPool
          else .done ()) s fun _ t =>
        C.Keeps (Rig.releaseIfAny scaffold.device) t fun _ u =>
          C.Keeps (Rig.releaseIfAny scaffold.messenger) u fun _ v =>
            C.Keeps (Rig.releaseUnlessNull scaffold.surface) v fun _ w =>
              C.Keeps (Driver.release scaffold.apiInstance) w post := by
  unfold Rig.Scaffold.takeDown
  by_cases device : scaffold.device.isSome = true
  · simp only [device, if_true, keeps_bind, keeps_log]
  · simp only [if_neg device, keeps_bind, keeps_log, keeps_done]

/-- Building a rig: the library, the instance, the messenger, the rest; after a failure what
stands is taken down. -/
theorem keepsTask_rigCreate {good : Rig → γ → Prop} {bad : GraphicsError → γ → Prop}
    (display : NativeDisplay) (window : NativeWindow) (settings : GraphicsSettings) :
    C.KeepsTask (Rig.create display window settings) s good bad ↔
      C.permits s .loadLibrary ∧ ∀ loaded t, C.step s .loadLibrary loaded t →
        if loaded = true then
          C.Keeps (Diagnostics.wanted settings) t fun validation u =>
            C.KeepsTask (Rig.createInstance display settings.appName validation) u
              (fun apiInstance v =>
                C.Keeps (if validation then Diagnostics.attach else .done none) v
                  fun messenger w => C.KeepsOp (Rig.putUp display window settings)
                    { apiInstance, messenger } w (fun rig _ => good rig)
                      fun e scaffold x => C.Keeps scaffold.takeDown x fun _ => bad e)
              bad
        else bad .libraryMissing t := by
  unfold Rig.create
  rw [keepsTask_bind, keepsTask_lift, keeps_ask]
  refine and_congr_right fun _ => forall₃_congr fun loaded t _ => ?_
  cases loaded with
  | false => rfl
  | true =>
    simp only [Bool.not_true, Bool.false_eq_true, if_false, if_true, keepsTask_bind,
      keepsTask_liftM]
    congr! 4 with validation u apiInstance v
    cases validation with
    | false =>
      simp only [Bool.false_eq_true, if_false, keepsTask_bind, keepsTask_pure, keepsTask_lift,
        keeps_run, keeps_done, keepsTask_liftM, keepsTask_throw]
    | true =>
      simp only [if_true, keepsTask_bind, keepsTask_liftM, keepsTask_lift, keeps_run,
        keepsTask_pure, keepsTask_throw]

/-! ## The objects of the gate -/

section Gate

variable {gate : FrameGate} {bad : GraphicsError → FrameGate → γ → Prop}

/-- An operation on a gate runs against the driver through the calls it stands for. -/
theorem keepsOp_onDriver {good : α → FrameGate → γ → Prop} (task : FrameGate.Task α) :
    C.KeepsOp (FrameGate.onDriver task) gate s good bad ↔
      (C.behind GateCall.onDriver).KeepsOp task gate s good bad := keeps_embed

@[simp] private theorem keepsOp_newSemaphore {good : Handle .semaphore → FrameGate → γ → Prop} :
    (C.behind GateCall.onDriver).KeepsOp FrameGate.newSemaphore gate s good bad ↔
      C.KeepsTask (Driver.create .semaphore) s (fun made => good made gate) fun e => bad e gate :=
  (keepsOp_ofTask ..).trans keeps_behind_call

@[simp] private theorem keepsOp_newSignaledFence {good : Handle .fence → FrameGate → γ → Prop} :
    (C.behind GateCall.onDriver).KeepsOp FrameGate.newSignaledFence gate s good bad ↔
      C.KeepsTask (Driver.create (.fence true)) s (fun made => good made gate)
        fun e => bad e gate :=
  (keepsOp_ofTask ..).trans keeps_behind_call

@[simp] private theorem keeps_dropSemaphore (semaphore : Handle .semaphore)
    (post : Unit → γ → Prop) :
    (C.behind GateCall.onDriver).Keeps (FrameGate.dropSemaphore semaphore) s post ↔
      C.Keeps (Rig.releaseUnlessNull semaphore) s post := by
  unfold FrameGate.dropSemaphore Rig.releaseUnlessNull
  by_cases null : semaphore.isNull = true
  · rw [if_pos null, if_pos null]
    rfl
  · rw [if_neg null, if_neg null]
    exact keeps_behind_call

@[simp] private theorem keeps_dropFence (fence : Handle .fence) (post : Unit → γ → Prop) :
    (C.behind GateCall.onDriver).Keeps (FrameGate.dropFence fence) s post ↔
      C.Keeps (Rig.releaseUnlessNull fence) s post := by
  unfold FrameGate.dropFence Rig.releaseUnlessNull
  by_cases null : fence.isNull = true
  · rw [if_pos null, if_pos null]
    rfl
  · rw [if_neg null, if_neg null]
    exact keeps_behind_call

/-- Filling a gate makes two semaphores and a fence. -/
theorem keepsOp_fill {good : Unit → FrameGate → γ → Prop} :
    (C.behind GateCall.onDriver).KeepsOp FrameGate.fill gate s good bad ↔
      C.KeepsTask (Driver.create .semaphore) s
        (fun imageAvailable t => C.KeepsTask (Driver.create .semaphore) t
          (fun renderFinished u => C.KeepsTask (Driver.create (.fence true)) u
            (fun inFlight => good () ⟨imageAvailable, renderFinished, inFlight⟩)
            fun e => bad e { gate with imageAvailable, renderFinished })
          fun e => bad e { gate with imageAvailable })
        fun e => bad e gate := by
  unfold FrameGate.fill
  simp only [keepsOp_bind, keepsOp_newSemaphore, keepsOp_newSignaledFence, keepsOp_modify]

/-- Destroying a gate releases what it holds in the order it was made. -/
theorem keeps_gateDestroy {post : Unit × FrameGate → γ → Prop} :
    (C.behind GateCall.onDriver).Keeps (FrameGate.destroy gate) s post ↔
      C.Keeps (Rig.releaseUnlessNull gate.imageAvailable) s fun _ t =>
        C.Keeps (Rig.releaseUnlessNull gate.renderFinished) t fun _ u =>
          C.Keeps (Rig.releaseUnlessNull gate.inFlight) u fun _ => post ((), {}) := by
  unfold FrameGate.destroy
  simp only [keeps_bind, keeps_dropSemaphore, keeps_dropFence]
  rfl

/-- Destroying a gate on the driver leaves the emptied gate. -/
theorem keeps_destroyOnDriver {post : FrameGate → γ → Prop} :
    C.Keeps gate.destroyOnDriver s post ↔
      (C.behind GateCall.onDriver).Keeps (FrameGate.destroy gate) s fun out => post out.2 := by
  unfold FrameGate.destroyOnDriver
  rw [keeps_bind, keeps_embed]
  rfl

/-- The fresh fence is made before the old one is released. -/
theorem keepsOp_replaceFence {good : Unit → FrameGate → γ → Prop} :
    (C.behind GateCall.onDriver).KeepsOp FrameGate.replaceFence gate s good bad ↔
      C.KeepsTask (Driver.create (.fence true)) s
        (fun fresh t => C.Keeps (Rig.releaseUnlessNull gate.inFlight) t fun _ =>
          good () { gate with inFlight := fresh })
        fun e => bad e gate := by
  unfold FrameGate.replaceFence
  simp only [keepsOp_bind, keepsOp_log, keepsOp_newSignaledFence, keepsOp_get, keepsOp_ofProgram,
    keeps_dropFence, keepsOp_modify]

/-- A gate that cannot be filled is destroyed. -/
theorem keepsOp_fillOrDestroy {good : Unit → FrameGate → γ → Prop} :
    (C.behind GateCall.onDriver).KeepsOp FrameGate.fillOrDestroy gate s good bad ↔
      (C.behind GateCall.onDriver).KeepsOp FrameGate.fill gate s good fun e made t =>
        (C.behind GateCall.onDriver).Keeps (FrameGate.destroy made) t fun out => bad e out.2 := by
  unfold FrameGate.fillOrDestroy
  simp only [keepsOp_bind, keepsOp_attempt, keepsOp_pure, keepsOp_ofAction, keepsOp_throw]

/-- A gate is armed anew by destroying and filling it. -/
theorem keepsOp_rearm {good : Unit → FrameGate → γ → Prop} :
    (C.behind GateCall.onDriver).KeepsOp FrameGate.rearm gate s good bad ↔
      (C.behind GateCall.onDriver).Keeps (FrameGate.destroy gate) s fun out t =>
        (C.behind GateCall.onDriver).KeepsOp FrameGate.fillOrDestroy out.2 t good bad := by
  unfold FrameGate.rearm
  simp only [keepsOp_bind, keepsOp_log, keepsOp_ofAction]

/-- A new gate is an empty one that is filled or destroyed. -/
theorem keepsTask_createOnDriver {good : FrameGate → γ → Prop} {bad : GraphicsError → γ → Prop} :
    C.KeepsTask FrameGate.createOnDriver s good bad ↔
      (C.behind GateCall.onDriver).KeepsOp FrameGate.fillOrDestroy {} s (fun _ => good)
        fun e _ => bad e := by
  unfold FrameGate.createOnDriver FrameGate.create
  refine keeps_embed.trans ((keeps_bind ..).trans ?_)
  rw [keeps_run]
  rfl

end Gate

/-! ## The render targets -/

section Targets

variable {set : TargetSet} {bad : GraphicsError → TargetSet → γ → Prop}

/-- Adding a view makes one. -/
theorem keepsOp_addView {good : Unit → TargetSet → γ → Prop} (format : Format)
    (image : Handle .image) :
    (C.behind TargetCall.onDriver).KeepsOp (TargetSet.addView format image) set s good bad ↔
      C.KeepsTask (Driver.create (.view { image, format })) s
        (fun view => good () { set with views := set.views ++ [view] }) fun e => bad e set := by
  unfold TargetSet.addView
  rw [keepsOp_bind, keepsOp_ofTask]
  exact keeps_behind_call

/-- Adding a framebuffer makes one for the render pass of the set. -/
theorem keepsOp_addFramebuffer {good : Unit → TargetSet → γ → Prop} (extent : Extent)
    (view : Handle .view) :
    (C.behind TargetCall.onDriver).KeepsOp (TargetSet.addFramebuffer extent view) set s good bad ↔
      C.KeepsTask (Driver.create (.framebuffer { renderPass := set.renderPass, view, extent })) s
        (fun framebuffer => good () { set with framebuffers := set.framebuffers ++ [framebuffer] })
        fun e => bad e set := by
  unfold TargetSet.addFramebuffer
  rw [keepsOp_bind, keepsOp_get, keepsOp_bind, keepsOp_ofTask]
  exact keeps_behind_call

/-- Filling a set makes views, the render pass, then framebuffers. -/
theorem keepsOp_fillTargets {good : Unit → TargetSet → γ → Prop} (images : List (Handle .image))
    (format : Format) (extent : Extent) :
    (C.behind TargetCall.onDriver).KeepsOp (TargetSet.fill images format extent) set s good bad ↔
      (C.behind TargetCall.onDriver).KeepsOp (images.forM (TargetSet.addView format)) set s
        (fun _ set t => C.KeepsTask (Driver.create (.renderPass { format })) t
          (fun renderPass u => (C.behind TargetCall.onDriver).KeepsOp
            (set.views.forM (TargetSet.addFramebuffer extent)) { set with renderPass } u good bad)
          fun e => bad e set)
        bad := by
  unfold TargetSet.fill
  rw [keepsOp_bind]
  congr! 4 with _ set t
  rw [keepsOp_bind, keepsOp_ofTask]
  exact keeps_behind_call

/-- Dropping a framebuffer releases it. -/
@[simp] theorem keeps_dropFramebuffer (framebuffer : Handle .framebuffer)
    (post : Unit → γ → Prop) :
    (C.behind TargetCall.onDriver).Keeps (TargetSet.dropFramebuffer framebuffer) s post ↔
      C.Keeps (Driver.release framebuffer) s post := keeps_behind_call

/-- Dropping a view releases it. -/
@[simp] theorem keeps_dropView (view : Handle .view) (post : Unit → γ → Prop) :
    (C.behind TargetCall.onDriver).Keeps (TargetSet.dropView view) s post ↔
      C.Keeps (Driver.release view) s post := keeps_behind_call

@[simp] private theorem keeps_dropRenderPass (renderPass : Handle .renderPass)
    (post : Unit → γ → Prop) :
    (C.behind TargetCall.onDriver).Keeps (TargetSet.dropRenderPass renderPass) s post ↔
      C.Keeps (Rig.releaseUnlessNull renderPass) s post := by
  unfold TargetSet.dropRenderPass Rig.releaseUnlessNull
  by_cases null : renderPass.isNull = true
  · rw [if_pos null, if_pos null]
    rfl
  · rw [if_neg null, if_neg null]
    exact keeps_behind_call

/-- Destroying a set releases framebuffers, the render pass, then views. -/
theorem keeps_targetsDestroy {post : Unit × TargetSet → γ → Prop} :
    (C.behind TargetCall.onDriver).Keeps (TargetSet.destroy set) s post ↔
      (C.behind TargetCall.onDriver).Keeps (set.framebuffers.forM TargetSet.dropFramebuffer) s
        fun _ t => C.Keeps (Rig.releaseUnlessNull set.renderPass) t fun _ u =>
          (C.behind TargetCall.onDriver).Keeps (set.views.forM TargetSet.dropView) u
            fun _ => post ((), {}) := by
  unfold TargetSet.destroy
  simp only [keeps_bind, keeps_dropRenderPass]
  rfl

/-- A set that cannot be filled is destroyed. -/
theorem keepsTask_build {good : TargetSet → γ → Prop} {bad : GraphicsError → γ → Prop}
    (images : List (Handle .image)) (format : Format) (extent : Extent) :
    C.KeepsTask (ExceptT.mk ((TargetSet.build images format extent).run.embed
        TargetCall.onDriver)) s good bad ↔
      (C.behind TargetCall.onDriver).KeepsOp (TargetSet.fill images format extent) {} s
        (fun _ => good) fun e made t =>
          (C.behind TargetCall.onDriver).Keeps (TargetSet.destroy made) t fun _ => bad e := by
  unfold TargetSet.build
  refine keeps_embed.trans ((keeps_bind ..).trans ?_)
  rw [keeps_run]
  congr! 4 with e made t
  exact keeps_bind ..

end Targets

/-! ## The screen -/

section Screen

variable {screen : Screen} {bad : GraphicsError → Screen → γ → Prop}

/-- Destroying a screen destroys its targets, then releases the swapchain. -/
theorem keeps_screenDestroy {post : Unit × Screen → γ → Prop} :
    C.Keeps (Screen.destroy screen) s post ↔
      (C.behind TargetCall.onDriver).Keeps (TargetSet.destroy screen.targets) s fun out t =>
        C.Keeps (Rig.releaseUnlessNull screen.swapchain) t fun _ =>
          post ((), { screen with targets := out.2, swapchain := .null, images := [] }) := by
  unfold Screen.destroy
  rw [keeps_bind, keeps_embed]
  simp only [keeps_bind]
  rfl

/-- Settling asks for the limits and formats of the surface and chooses among them. -/
theorem keepsOp_settle {good : SwapchainRequest → Screen → γ → Prop} (rig : Rig)
    (requested : Extent) :
    C.KeepsOp (Screen.settle rig requested) screen s good bad ↔
      C.KeepsTask (Driver.surfaceLimits rig.physicalDevice rig.surface) s
        (fun limits t => C.KeepsTask (Driver.surfaceFormats rig.physicalDevice rig.surface) t
          (fun formats u => match chooseFormat? formats with
            | none =>
              bad (.driver "vkGetPhysicalDeviceSurfaceFormatsKHR" .formatNotSupported) screen u
            | some format => ∀ extent, limits.extentFor? requested = some extent →
              ∀ minImages, limits.imageCount? = some minImages →
                good { surface := rig.surface, minImages, format, extent
                       transform := limits.transform }
                  { screen with format, extent, minImages } u)
          fun e => bad e screen)
        fun e => bad e screen := by
  unfold Screen.settle
  simp only [keepsOp_bind, keepsOp_ofTask]
  congr! 4 with limits t
  funext formats u
  apply propext
  cases chooseFormat? formats with
  | none => rfl
  | some format =>
    simp only [keepsOp_bind, keepsOp_modify, keepsOp_ofProgram, keeps_require, keepsOp_pure]

/-- To settle on a swapchain is to ask about the surface, and leaves what the screen holds. -/
theorem Answers.settle {Known : γ → Prop} (answers : C.Answers Known) (rig : Rig)
    (requested : Extent) (h : Known s) :
    C.KeepsOp (Screen.settle rig requested) screen s
      (fun request after t => request.surface = rig.surface ∧ after.SameObjects screen ∧ Known t)
      fun _ after t => after.SameObjects screen ∧ Known t := by
  have same : Screen.SameObjects screen screen := ⟨rfl, rfl, rfl⟩
  obtain ⟨permits, reported⟩ :=
    answers s (.surfaceLimits rig.physicalDevice rig.surface) trivial h
  rw [keepsOp_settle, keepsTask_surfaceLimits]
  refine ⟨permits, fun limits t step => ?_, fun _ t step => ⟨same, reported _ t step⟩⟩
  obtain ⟨permits, offered⟩ :=
    answers t (.surfaceFormats rig.physicalDevice rig.surface) trivial (reported _ t step)
  rw [keepsTask_surfaceFormats]
  refine ⟨permits, fun formats u step => ?_, fun _ u step => ⟨same, offered _ u step⟩⟩
  have known := offered _ u step
  cases chooseFormat? formats with
  | none => exact ⟨same, known⟩
  | some format => exact fun extent _ minImages _ => ⟨rfl, ⟨rfl, rfl, rfl⟩, known⟩

/-- Filling a screen settles the request, makes the swapchain, asks for its images and builds the
targets. -/
theorem keepsOp_screenFill {good : Unit → Screen → γ → Prop} (rig : Rig) (requested : Extent) :
    C.KeepsOp (Screen.fill rig requested) screen s good bad ↔
      C.KeepsOp (Screen.settle rig requested) screen s
        (fun request screen t => C.KeepsTask (Driver.create (.swapchain request)) t
          (fun swapchain u => C.KeepsTask (Driver.swapchainImages swapchain) u
            (fun images v => C.KeepsTask
              (ExceptT.mk ((TargetSet.build images request.format.format request.extent).run.embed
                TargetCall.onDriver)) v
              (fun targets => good () { screen with swapchain, images, targets })
              fun e => bad e { screen with swapchain, images })
            fun e => bad e { screen with swapchain })
          fun e => bad e screen)
        bad := by
  unfold Screen.fill
  simp only [keepsOp_bind, keepsOp_ofTask, keepsOp_modify, keepsOp_log]

/-- A screen that cannot be filled is destroyed. -/
theorem keepsOp_screenFillOrDestroy {good : Unit → Screen → γ → Prop} (rig : Rig)
    (requested : Extent) :
    C.KeepsOp (Screen.fillOrDestroy rig requested) screen s good bad ↔
      C.KeepsOp (Screen.fill rig requested) screen s good fun e made t =>
        C.Keeps (Screen.destroy made) t fun out => bad e out.2 := by
  unfold Screen.fillOrDestroy
  simp only [keepsOp_bind, keepsOp_attempt, keepsOp_pure, keepsOp_ofAction, keepsOp_throw]

/-- A screen is put up anew by destroying and filling it. -/
theorem keepsOp_screenRebuild {good : Unit → Screen → γ → Prop} (rig : Rig)
    (requested : Extent) :
    C.KeepsOp (Screen.rebuild rig requested) screen s good bad ↔
      C.Keeps (Screen.destroy screen) s fun out t =>
        C.KeepsOp (Screen.fillOrDestroy rig requested) out.2 t good bad := by
  unfold Screen.rebuild
  simp only [keepsOp_bind, keepsOp_log, keepsOp_ofAction]

/-- A new screen is an empty one that is filled or destroyed. -/
theorem keepsTask_screenCreate {good : Screen → γ → Prop} {bad : GraphicsError → γ → Prop}
    (rig : Rig) (requested : Extent) :
    C.KeepsTask (Screen.create rig requested) s good bad ↔
      C.KeepsOp (Screen.fillOrDestroy rig requested) { extent := requested } s (fun _ => good)
        fun e _ => bad e := by
  unfold Screen.create
  apply (keeps_bind ..).trans
  rw [keeps_run]
  rfl

end Screen

/-! ## The stack -/

/-- The first teardown gives back commands, sampler, gate, screen and rig; any later one does
nothing. -/
theorem keeps_stackTearDown {stack : Stack} {post : Unit × Stack → γ → Prop} :
    C.Keeps (Stack.tearDown stack) s post ↔
      if stack.tornDown then post ((), stack) s
      else C.Keeps (Driver.freeCommands stack.rig.commandPool stack.commands) s fun _ t =>
        C.Keeps (Rig.releaseUnlessNull stack.sampler) t fun _ u =>
          C.Keeps stack.gate.destroyOnDriver u fun gate v =>
            C.Keeps (Screen.destroy stack.screen) v fun out w =>
              C.Keeps stack.rig.destroy w fun rig => post ((), { stack with
                rig, screen := out.2, gate, commands := .null, sampler := .null
                tornDown := true }) := by
  unfold Stack.tearDown
  cases tornDown : stack.tornDown with
  | true => rfl
  | false => simp only [Bool.false_eq_true, if_false, keeps_bind, keeps_log, Program.pure_eq,
      keeps_done]

/-- A stack needs both native handles and a rig; a rig without a stack is destroyed. -/
theorem keepsTask_stackCreate {good : Stack → γ → Prop} {bad : GraphicsError → γ → Prop}
    (handles : NativeHandles) (settings : GraphicsSettings) :
    C.KeepsTask (Stack.create handles settings) s good bad ↔
      match handles.display, handles.window with
      | .ok display, .ok window => C.KeepsTask (Rig.create display window settings) s
          (fun rig t => C.KeepsTask (Stack.buildOn rig settings) t good fun e u =>
            C.Keeps rig.destroy u fun _ => bad e)
          bad
      | .ok _, .error fault => bad (.handleUnavailable fault) s
      | .error fault, _ => bad (.handleUnavailable fault) s := by
  unfold Stack.create
  cases handles.display with
  | error fault => rfl
  | ok display =>
    cases handles.window with
    | error fault => rfl
    | ok window =>
      simp only [keepsTask_bind, keepsTask_undoing, keepsTask_driverLog, keepsTask_pure, keeps_bind]
      rfl

/-! ## Releases -/

/-- Objects of some kinds may be released, and what is known stays true. -/
def Releases (C : Contract Driver γ) (kinds : ObjectKind → Prop) (Known : γ → Prop) : Prop :=
  ∀ s o, kinds o.kind → Known s →
    C.permits s (.release o) ∧ ∀ t, C.step s (.release o) () t → Known t

section Releasing

variable {kinds : ObjectKind → Prop} {Known : γ → Prop} {kind : ObjectKind}

/-- An object of an allowed kind may be released. -/
theorem Releases.release (releases : C.Releases kinds Known) (handle : Handle kind)
    (allowed : kinds kind) (h : Known s) :
    C.Keeps (Driver.release handle) s fun _ t => Known t :=
  (keeps_release ..).mpr (releases s handle.object allowed h)

/-- So may one whose handle may be null. -/
theorem Releases.unlessNull (releases : C.Releases kinds Known) (handle : Handle kind)
    (allowed : kinds kind) (h : Known s) :
    C.Keeps (Rig.releaseUnlessNull handle) s fun _ t => Known t := by
  unfold Rig.releaseUnlessNull
  by_cases null : handle.isNull = true
  · rw [if_pos null]
    exact h
  · rw [if_neg null]
    exact releases.release handle allowed h

private theorem Releases.ifAny (releases : C.Releases kinds Known) (handle : Option (Handle kind))
    (allowed : kinds kind) (h : Known s) :
    C.Keeps (Rig.releaseIfAny handle) s fun _ t => Known t := by
  cases handle with
  | none => exact h
  | some handle => exact releases.release handle allowed h

/-- A scaffold may be taken down. -/
theorem Releases.takeDown (releases : C.Releases kinds Known) (scaffold : Rig.Scaffold)
    (allowed : ∀ kind ∈ [.commandPool, .device, .messenger, .surface, .apiInstance], kinds kind)
    (h : Known s) : C.Keeps scaffold.takeDown s fun _ t => Known t := by
  rw [keeps_takeDown]
  have pool : C.Keeps (if scaffold.device.isSome then Rig.releaseUnlessNull scaffold.commandPool
      else .done ()) s fun _ t => Known t := by
    by_cases device : scaffold.device.isSome = true
    · rw [if_pos device]
      exact releases.unlessNull _ (allowed _ (by simp)) h
    · rw [if_neg device]
      exact h
  apply pool.mono
  intro _ _ h
  apply (releases.ifAny _ (allowed _ (by simp)) h).mono
  intro _ _ h
  apply (releases.ifAny _ (allowed _ (by simp)) h).mono
  intro _ _ h
  apply (releases.unlessNull _ (allowed _ (by simp)) h).mono
  intro _ _ h
  exact releases.release _ (allowed _ (by simp)) h

/-- A rig may be destroyed. -/
theorem Releases.rigDestroy (releases : C.Releases kinds Known) (rig : Rig)
    (allowed : ∀ kind ∈ [.descriptorPool, .commandPool, .device, .messenger, .surface,
      .apiInstance], kinds kind)
    (h : Known s) : C.Keeps rig.destroy s fun _ t => Known t := by
  unfold Rig.destroy
  simp only [keeps_bind, keeps_log]
  apply (releases.release _ (allowed _ (by simp)) h).mono
  intro _ _ h
  apply (releases.release _ (allowed _ (by simp)) h).mono
  intro _ _ h
  apply (releases.release _ (allowed _ (by simp)) h).mono
  intro _ _ h
  apply (releases.ifAny _ (allowed _ (by simp)) h).mono
  intro _ _ h
  apply (releases.release _ (allowed _ (by simp)) h).mono
  intro _ _ h
  exact (releases.release _ (allowed _ (by simp)) h).mono fun _ _ h => h

/-- A gate may be destroyed; it is empty then. -/
theorem Releases.gateDestroy (releases : C.Releases kinds Known) (gate : FrameGate)
    (allowed : ∀ kind ∈ [.semaphore, .fence], kinds kind) (h : Known s) :
    (C.behind GateCall.onDriver).Keeps (FrameGate.destroy gate) s
      fun out t => out.2 = {} ∧ Known t := by
  rw [keeps_gateDestroy]
  apply (releases.unlessNull _ (allowed _ (by simp)) h).mono
  intro _ _ h
  apply (releases.unlessNull _ (allowed _ (by simp)) h).mono
  intro _ _ h
  exact (releases.unlessNull _ (allowed _ (by simp)) h).mono fun _ _ h => ⟨rfl, h⟩

/-- A set of targets may be destroyed. -/
theorem Releases.targetsDestroy (releases : C.Releases kinds Known) (set : TargetSet)
    (allowed : ∀ kind ∈ [.framebuffer, .renderPass, .view], kinds kind) (h : Known s) :
    (C.behind TargetCall.onDriver).Keeps (TargetSet.destroy set) s fun _ t => Known t := by
  rw [keeps_targetsDestroy]
  refine (keeps_forM (fun _ => Known) (fun framebuffer _ _ h => ?_) h).mono fun _ _ h => ?_
  · rw [keeps_dropFramebuffer]
    exact releases.release _ (allowed _ (by simp)) h
  apply (releases.unlessNull _ (allowed _ (by simp)) h).mono
  intro _ _ h
  refine (keeps_forM (fun _ => Known) (fun view _ _ h => ?_) h).mono fun _ _ h => h
  rw [keeps_dropView]
  exact releases.release _ (allowed _ (by simp)) h

/-- A screen may be destroyed. -/
theorem Releases.screenDestroy (releases : C.Releases kinds Known) (screen : Screen)
    (allowed : ∀ kind ∈ [.framebuffer, .renderPass, .view, .swapchain], kinds kind)
    (h : Known s) : C.Keeps (Screen.destroy screen) s fun _ t => Known t := by
  rw [keeps_screenDestroy]
  refine (releases.targetsDestroy _ (fun kind mem => allowed kind ?_) h).mono fun _ _ h => ?_
  · exact List.mem_append_left [.swapchain] mem
  · exact releases.unlessNull _ (allowed _ (by simp)) h

end Releasing

end Contract

end PaintPresenter
